import Mathlib.Tactic

/-!
# Sealed chat attachments

A client seals an attachment before it uploads it: a header, then one record for each chunk of
64 KiB, a big-endian length followed by the AES-GCM ciphertext of the chunk. The key and the
associated data of a chunk hold its index.

* `sealFile`, `openFileLimited`, `openFile`, `sealedAttachmentSizeForPlaintext` — the client's code.
* `Cipher.Ideal` — an ideal AEAD: with the keys of this file, what opens is what the sealing of this
  file has produced, and no secretbox was made with the key.
* `openRecords_ok` — what opens is a run of whole records from the start, in order.
* **`openFile_intact_iff`** — a sealed file opens to its data and has the predicted size, and a blob
  opens to other data *if and only if* it is the sealed file without some of its last records: no
  record says that it is the last one.

Source names without a file are from `client/e2e.go`.
-/

namespace Voicx.Client

open List Nat

abbrev Bytes := List UInt8

/-! ## Big-endian numbers -/

/-- The lowest `w` bytes of `n`, highest first.
Source: `sealFile` (`binary.Write`); `internal/e2ee/crypto.go`, `PutUint64` -/
def bigEndian (w n : ℕ) : Bytes := ((List.range w).map fun i => UInt8.ofNat (n / 256 ^ i)).reverse

/-- The number that the bytes spell, highest first.
Source: `openFileLimited` (`binary.Read`) -/
def fromBigEndian (b : Bytes) : ℕ := Nat.ofDigits 256 (b.reverse.map UInt8.toNat)

@[simp] lemma length_bigEndian (w n : ℕ) : (bigEndian w n).length = w := by
  simp [bigEndian]

lemma fromBigEndian_bigEndian (w n : ℕ) : fromBigEndian (bigEndian w n) = n % 256 ^ w := by
  unfold fromBigEndian bigEndian
  rw [reverse_reverse]
  induction w with
  | zero => simp [mod_one]
  | succ w ih =>
    rw [range_succ, map_append, map_append, ofDigits_append, ih, mod_pow_succ]
    simp

/-- Two texts of one length that spell the same number are equal. -/
lemma fromBigEndian_injective {b b' : Bytes} (hlen : b.length = b'.length)
    (h : fromBigEndian b = fromBigEndian b') : b = b' := by
  have hdigit : ∀ c : Bytes, ∀ d ∈ c.reverse.map UInt8.toNat, d < 256 := by
    intro c d hd
    obtain ⟨x, -, rfl⟩ := mem_map.mp hd
    exact x.toNat_lt
  have hdigits : b.reverse.map UInt8.toNat = b'.reverse.map UInt8.toNat :=
    ofDigits_inj_of_len_eq (by norm_num) (by simpa using hlen) (hdigit b) (hdigit b') h
  exact reverse_injective (map_injective_iff.mpr (fun _ _ => UInt8.toNat_inj.mp) hdigits)

lemma bigEndian_injective {w m n : ℕ} (hm : m < 256 ^ w) (hn : n < 256 ^ w)
    (h : bigEndian w m = bigEndian w n) : m = n := by
  have hval : m % 256 ^ w = n % 256 ^ w := by
    rw [← fromBigEndian_bigEndian, ← fromBigEndian_bigEndian, h]
  rwa [mod_eq_of_lt hm, mod_eq_of_lt hn] at hval

/-! ## The client's code -/

/-- The primitives that the client calls.
Source: `internal/e2ee/crypto.go`, `DeriveMessageKey`, `sealAES`, `openAES`
Fidelity: the random nonce of `sealAES` is an argument; `openBox` is `secretbox.Open`. -/
structure Cipher (K : Type) where
  deriveMessageKey : K → String → UInt64 → K
  /-- key, nonce, plaintext, associated data -/
  sealAES : K → Bytes → Bytes → Bytes → Bytes
  openAES : K → Bytes → Bytes → Option Bytes
  openBox : K → Bytes → Bytes → Option Bytes

variable {K : Type} (c : Cipher K) (key : K) (nonces : ℕ → Bytes) (data : Bytes)

/-- The associated data of a chunk. -/
def chunkAAD (fileID : String) (index : UInt64) : Bytes :=
  fileID.toUTF8.data.toList ++ bigEndian 8 index.toNat

/-- Source: `internal/e2ee/crypto.go`, `EncryptFileChunk` -/
def encryptFileChunk (master : K) (fileID : String) (index : UInt64) (nonce plain : Bytes) :
    Bytes :=
  c.sealAES (c.deriveMessageKey master ("file:" ++ fileID) index) nonce plain
    (chunkAAD fileID index)

/-- Source: `internal/e2ee/crypto.go`, `DecryptFileChunk` -/
def decryptFileChunk (master : K) (fileID : String) (index : UInt64) (blob : Bytes) :
    Option Bytes :=
  c.openAES (c.deriveMessageKey master ("file:" ++ fileID) index) blob (chunkAAD fileID index)

/-- The text `VCXGCM1` and a newline. Source: `attachmentGCMHeader` -/
def attachmentGCMHeader : Bytes := [86, 67, 88, 71, 67, 77, 49, 10]

/-- Source: `attachmentChunkSize` -/
def attachmentChunkSize : ℕ := 64 * 1024

/-- The nonce and the tag. Source: `internal/e2ee/crypto.go`, `FileChunkCiphertextOverhead` -/
def attachmentChunkCiphertextOverhead : ℕ := 12 + 16

/-- Source: `attachmentChunkMaxCiphertextBytes` -/
def attachmentChunkMaxCiphertextBytes : ℕ :=
  attachmentChunkSize + attachmentChunkCiphertextOverhead

/-- Source: `sealedAttachmentSizeForPlaintext` -/
def sealedAttachmentSizeForPlaintext (plainBytes : ℕ) : ℕ :=
  if plainBytes ≤ 0 then attachmentGCMHeader.length
  else
    let chunkCount := (plainBytes + attachmentChunkSize - 1) / attachmentChunkSize
    attachmentGCMHeader.length + plainBytes + chunkCount * (4 + attachmentChunkCiphertextOverhead)

/-- The loop of `sealFile`, from the chunk `index` on; `data` is what is left. It fails where the
length of a ciphertext does not fit 32 bits. Source: `sealFile` -/
def sealRecords (index : ℕ) (data : Bytes) : Option Bytes :=
  if h : data = [] then some []
  else
    let blob := encryptFileChunk c key "attachment" (UInt64.ofNat index) (nonces index)
      (data.take attachmentChunkSize)
    if blob.length < 2 ^ 32 then
      (sealRecords (index + 1) (data.drop attachmentChunkSize)).map
        (bigEndian 4 blob.length ++ blob ++ ·)
    else none
termination_by data.length
decreasing_by
  have := length_pos_iff.mpr h
  simp only [length_drop, attachmentChunkSize]
  omega

/-- Source: `sealFile` -/
def sealFile : Option Bytes :=
  (sealRecords c key nonces 0 data).map (attachmentGCMHeader ++ ·)

def errFraming : String := "invalid attachment chunk framing"
def errTampered : String := "attachment decryption failed (wrong key or tampered)"
def errLimit : String := "attachment plaintext exceeds configured limit"

/-- The loop of `openFileLimited`: the index, what is left to read, what was written.
Source: `openFileLimited` -/
def openRecords (maxBytes : Int) (index : ℕ) (reader out : Bytes) : Except String Bytes :=
  if reader = [] then .ok out
  else if _hsize : reader.length < 4 then .error errFraming
  else
    let chunkLength := fromBigEndian (reader.take 4)
    let rest := reader.drop 4
    if chunkLength < attachmentChunkCiphertextOverhead ∨
        attachmentChunkMaxCiphertextBytes < chunkLength ∨ rest.length < chunkLength then
      .error errFraming
    else
      match decryptFileChunk c key "attachment" (UInt64.ofNat index) (rest.take chunkLength) with
      | none => .error errTampered
      | some plain =>
        if 0 < maxBytes ∧ (maxBytes < plain.length ∨ maxBytes - plain.length < out.length) then
          .error errLimit
        else openRecords maxBytes (index + 1) (rest.drop chunkLength) (out ++ plain)
termination_by reader.length
decreasing_by
  simp only [length_drop]
  omega

/-- Source: `openFileLimited` -/
def openFileLimited (blob : Bytes) (maxBytes : Int) : Except String Bytes :=
  if attachmentGCMHeader <+: blob then
    openRecords c key maxBytes 0 (blob.drop attachmentGCMHeader.length) []
  else if blob.length < 24 then .error "invalid attachment ciphertext"
  else
    match c.openBox key (blob.take 24) (blob.drop 24) with
    | none => .error errTampered
    | some plain => if 0 < maxBytes ∧ maxBytes < plain.length then .error errLimit else .ok plain

/-- Source: `openFile` -/
def openFile (blob : Bytes) : Except String Bytes := openFileLimited c key blob 0

/-! ## An ideal AEAD -/

/-- The number of chunks of the data. -/
def chunkCount : ℕ := (data.length + attachmentChunkSize - 1) / attachmentChunkSize

/-- The chunk with index `i`. -/
def chunkAt (i : ℕ) : Bytes := (data.drop (i * attachmentChunkSize)).take attachmentChunkSize

/-- The ciphertext of the chunk with index `i`. -/
def sealedChunk (i : ℕ) : Bytes :=
  encryptFileChunk c key "attachment" (UInt64.ofNat i) (nonces i) (chunkAt data i)

/-- The records of `n` chunks from index `i` on. -/
def records (i n : ℕ) : Bytes :=
  (List.range' i n).flatMap fun j =>
    bigEndian 4 (sealedChunk c key nonces data j).length ++ sealedChunk c key nonces data j

/-- An ideal AEAD, where `key` has sealed `data` and nothing else: a ciphertext opens under a key of
the file and some associated data exactly when the sealing of the file has produced it under that
key and data. -/
structure Cipher.Ideal : Prop where
  length_nonce : ∀ i, (nonces i).length = 12
  length_sealAES : ∀ k n p a, (c.sealAES k n p a).length = n.length + p.length + 16
  openAES_iff : ∀ index blob aad p,
    c.openAES (c.deriveMessageKey key "file:attachment" index) blob aad = some p ↔
      ∃ i < chunkCount data, c.deriveMessageKey key "file:attachment" (UInt64.ofNat i) =
        c.deriveMessageKey key "file:attachment" index ∧
        chunkAAD "attachment" (UInt64.ofNat i) = aad ∧
        sealedChunk c key nonces data i = blob ∧ chunkAt data i = p
  openBox_eq_none : ∀ nonce box, c.openBox key nonce box = none

section ideal

variable {c key nonces data} {i n : ℕ}

lemma lt_chunkCount : i < chunkCount data ↔ i * attachmentChunkSize < data.length := by
  unfold chunkCount attachmentChunkSize
  omega

/-- The indices of a file's chunks fit 63 bits. -/
lemma index_lt (hdata : data.length < 2 ^ 63) (hi : i < chunkCount data) : i < 2 ^ 63 := by
  have hstart := lt_chunkCount.mp hi
  unfold attachmentChunkSize at hstart
  omega

lemma toNat_index {m : ℕ} (hm : m < 2 ^ 63) : (UInt64.ofNat m).toNat = m := by
  rw [UInt64.toNat_ofNat', mod_eq_of_lt (by omega)]

lemma take_chunkCount : data.take (chunkCount data * attachmentChunkSize) = data := by
  apply take_of_length_le
  exact not_lt.mp (lt_chunkCount.not.mp (lt_irrefl (chunkCount data)))

lemma length_chunkAt_le (i : ℕ) : (chunkAt data i).length ≤ attachmentChunkSize :=
  length_take_le _ _

/-- What is written after one more chunk. -/
lemma take_append_chunkAt (i n : ℕ) :
    chunkAt data i ++ (data.drop ((i + 1) * attachmentChunkSize)).take (n * attachmentChunkSize) =
      (data.drop (i * attachmentChunkSize)).take ((n + 1) * attachmentChunkSize) := by
  rw [add_mul n, add_comm (n * _), take_add, drop_drop, add_mul i]
  rfl

lemma records_succ (i n : ℕ) :
    records c key nonces data i (n + 1) =
      bigEndian 4 (sealedChunk c key nonces data i).length ++ sealedChunk c key nonces data i ++
        records c key nonces data (i + 1) n := by
  simp [records, List.range'_succ]

variable (h : c.Ideal key nonces data)
include h

lemma Cipher.Ideal.length_sealedChunk (i : ℕ) :
    (sealedChunk c key nonces data i).length =
      (chunkAt data i).length + attachmentChunkCiphertextOverhead := by
  rw [sealedChunk, encryptFileChunk, h.length_sealAES, h.length_nonce]
  unfold attachmentChunkCiphertextOverhead
  omega

lemma Cipher.Ideal.length_sealedChunk_lt (i : ℕ) :
    (sealedChunk c key nonces data i).length < 256 ^ 4 := by
  have hle : (chunkAt data i).length ≤ _ := length_chunkAt_le i
  rw [h.length_sealedChunk]
  unfold attachmentChunkSize at hle
  unfold attachmentChunkCiphertextOverhead
  omega

/-- A chunk opens at an index exactly when it is the one sealed at that index: the index is part of
the associated data. -/
lemma Cipher.Ideal.decryptFileChunk_iff (hdata : data.length < 2 ^ 63) {index : ℕ}
    (hindex : index < 2 ^ 63) (blob p : Bytes) :
    decryptFileChunk c key "attachment" (UInt64.ofNat index) blob = some p ↔
      index < chunkCount data ∧ blob = sealedChunk c key nonces data index ∧
        p = chunkAt data index := by
  have hname : "file:" ++ "attachment" = "file:attachment" := by decide
  rw [decryptFileChunk, hname, h.openAES_iff]
  constructor
  · rintro ⟨i, hi, -, haad, rfl, rfl⟩
    have hi63 := index_lt hdata hi
    have heq : i = index := by
      apply bigEndian_injective (w := 8) (by omega) (by omega)
      simpa [chunkAAD, toNat_index hi63, toNat_index hindex] using haad
    exact ⟨heq ▸ hi, by rw [heq], by rw [heq]⟩
  · rintro ⟨hi, rfl, rfl⟩
    exact ⟨index, hi, rfl, rfl, rfl, rfl⟩

/-! ## Sealing -/

/-- The loop of `sealFile` writes the records of all chunks that are left. -/
lemma Cipher.Ideal.sealRecords_eq (hn : i + n = chunkCount data) :
    sealRecords c key nonces i (data.drop (i * attachmentChunkSize)) =
      some (records c key nonces data i n) := by
  induction n generalizing i with
  | zero =>
    have hend : data.drop (i * attachmentChunkSize) = [] := by
      rw [drop_eq_nil_iff]
      exact not_lt.mp (lt_chunkCount.not.mp (by omega))
    rw [hend, sealRecords]
    rfl
  | succ n ih =>
    have hne : data.drop (i * attachmentChunkSize) ≠ [] := by
      rw [ne_eq, drop_eq_nil_iff, not_le]
      exact lt_chunkCount.mp (by omega)
    have hfits : (sealedChunk c key nonces data i).length < 2 ^ 32 :=
      (h.length_sealedChunk_lt i).trans_eq (by norm_num)
    have hrest := ih (i := i + 1) (by omega)
    rw [add_mul, one_mul, ← drop_drop] at hrest
    rw [sealRecords, dif_neg hne, records_succ]
    unfold sealedChunk chunkAt at hfits ⊢
    simp only [if_pos hfits, hrest, Option.map_some]

/-- The size of the first `n` records. -/
lemma Cipher.Ideal.length_records (n : ℕ) :
    (records c key nonces data 0 n).length =
      (data.take (n * attachmentChunkSize)).length +
        n * (4 + attachmentChunkCiphertextOverhead) := by
  induction n with
  | zero => simp [records]
  | succ n ih =>
    have hlast : (data.take ((n + 1) * attachmentChunkSize)).length =
        (data.take (n * attachmentChunkSize)).length + (chunkAt data n).length := by
      rw [add_mul, take_add, length_append]
      rfl
    have hconcat : records c key nonces data 0 (n + 1) = records c key nonces data 0 n ++
        (bigEndian 4 (sealedChunk c key nonces data n).length ++
          sealedChunk c key nonces data n) := by
      simp [records, List.range'_concat]
    rw [hconcat, length_append, length_append, length_bigEndian, h.length_sealedChunk, hlast,
      add_mul n 1]
    omega

/-! ## Opening -/

/-- A run of records opens to the chunks sealed in it. -/
lemma Cipher.Ideal.openRecords_records (hdata : data.length < 2 ^ 63)
    (hn : i + n ≤ chunkCount data) (out : Bytes) :
    openRecords c key 0 i (records c key nonces data i n) out =
      .ok (out ++ (data.drop (i * attachmentChunkSize)).take (n * attachmentChunkSize)) := by
  induction n generalizing i out with
  | zero =>
    rw [openRecords]
    simp [records]
  | succ n ih =>
    have hi : i < chunkCount data := by omega
    have hopen := (h.decryptFileChunk_iff hdata (index_lt hdata hi) _ _).mpr ⟨hi, rfl, rfl⟩
    have hsize := h.length_sealedChunk i
    have hle : (chunkAt data i).length ≤ _ := length_chunkAt_le i
    have hnum : fromBigEndian (bigEndian 4 (sealedChunk c key nonces data i).length) =
        (sealedChunk c key nonces data i).length := by
      rw [fromBigEndian_bigEndian, mod_eq_of_lt (h.length_sealedChunk_lt i)]
    rw [records_succ, append_assoc, openRecords]
    have htake : (bigEndian 4 (sealedChunk c key nonces data i).length ++
        (sealedChunk c key nonces data i ++ records c key nonces data (i + 1) n)).take 4 =
          bigEndian 4 (sealedChunk c key nonces data i).length :=
      take_left' (length_bigEndian _ _)
    have hdrop : (bigEndian 4 (sealedChunk c key nonces data i).length ++
        (sealedChunk c key nonces data i ++ records c key nonces data (i + 1) n)).drop 4 =
          sealedChunk c key nonces data i ++ records c key nonces data (i + 1) n :=
      drop_left' (length_bigEndian _ _)
    have hframe : ¬((sealedChunk c key nonces data i).length < attachmentChunkCiphertextOverhead ∨
        attachmentChunkMaxCiphertextBytes < (sealedChunk c key nonces data i).length ∨
        (sealedChunk c key nonces data i ++ records c key nonces data (i + 1) n).length <
          (sealedChunk c key nonces data i).length) := by
      rw [length_append]
      unfold attachmentChunkMaxCiphertextBytes
      omega
    rw [if_neg (by
        intro hnil
        have := congrArg List.length hnil
        simp at this), dif_neg (by simp)]
    simp only [htake, hdrop, hnum, if_neg hframe, take_left, drop_left, hopen,
      lt_irrefl, false_and, if_false]
    rw [ih (by omega), append_assoc, take_append_chunkAt]

/-- What opens is a run of records, and its result is the chunks sealed in it. -/
theorem Cipher.Ideal.openRecords_ok (hdata : data.length < 2 ^ 63) {reader out r : Bytes}
    (hlen : i + reader.length < 2 ^ 63) (hok : openRecords c key 0 i reader out = .ok r) :
    ∃ n, (n = 0 ∨ i + n ≤ chunkCount data) ∧ reader = records c key nonces data i n := by
  induction hsize : reader.length using Nat.strong_induction_on generalizing i reader out with
  | _ m ih =>
    rw [openRecords] at hok
    split at hok
    · exact ⟨0, .inl rfl, by simpa [records]⟩
    split at hok
    · cases hok
    rename_i hshort
    dsimp only at hok
    split at hok
    · cases hok
    rename_i hframe
    split at hok
    · cases hok
    rename_i hopen
    obtain ⟨hi, hblob, -⟩ := (h.decryptFileChunk_iff hdata (by omega) _ _).mp hopen
    push Not at hframe
    obtain ⟨n, hn, hrest⟩ := ih _ (by simp only [length_drop]; omega)
      (by simp only [length_drop]; omega) hok rfl
    -- the length that was read is the one that the sealing wrote
    have hlength : (sealedChunk c key nonces data i).length = fromBigEndian (reader.take 4) := by
      rw [← hblob, length_take]
      omega
    have hhead : reader.take 4 = bigEndian 4 (sealedChunk c key nonces data i).length := by
      apply fromBigEndian_injective
      · simp only [length_take, length_bigEndian]
        omega
      · rw [fromBigEndian_bigEndian, mod_eq_of_lt (h.length_sealedChunk_lt i), hlength]
    refine ⟨n + 1, .inr (by omega), ?_⟩
    rw [records_succ, ← hhead, ← hrest, ← hblob, append_assoc, take_append_drop, take_append_drop]

end ideal

/-! ## The main result -/

/-- The sealed file without some of its last records: the header and the first `n` records. -/
def Shortened (blob : Bytes) : Prop :=
  ∃ n < chunkCount data, blob = attachmentGCMHeader ++ records c key nonces data 0 n

lemma openFile_header (body : Bytes) :
    openFile c key (attachmentGCMHeader ++ body) = openRecords c key 0 0 body [] := by
  rw [openFile, openFileLimited, if_pos (prefix_append _ _), drop_left]

section main

variable {c key nonces data} (h : c.Ideal key nonces data) (hdata : data.length < 2 ^ 63)
include h hdata

/-- The first `n` records open to the first `n` chunks. -/
lemma Cipher.Ideal.openFile_records {n : ℕ} (hn : n ≤ chunkCount data) :
    openFile c key (attachmentGCMHeader ++ records c key nonces data 0 n) =
      .ok (data.take (n * attachmentChunkSize)) := by
  rw [openFile_header, h.openRecords_records hdata (by rwa [zero_add]),
    zero_mul, drop_zero, nil_append]

/-- A blob that opens is the header and a run of records. -/
lemma Cipher.Ideal.openFile_ok {blob out : Bytes} (hlen : blob.length < 2 ^ 63)
    (hok : openFile c key blob = .ok out) :
    ∃ n ≤ chunkCount data, blob = attachmentGCMHeader ++ records c key nonces data 0 n := by
  by_cases hheader : attachmentGCMHeader <+: blob
  · obtain ⟨body, rfl⟩ := hheader
    rw [openFile_header] at hok
    rw [length_append] at hlen
    obtain ⟨n, hn, rfl⟩ := h.openRecords_ok hdata (by omega) hok
    exact ⟨n, by omega, rfl⟩
  · -- without the header the blob would have to be a secretbox
    rw [openFile, openFileLimited, if_neg hheader, h.openBox_eq_none] at hok
    split at hok <;> cases hok

/-- **A sealed file opens to its data and has the predicted size. A blob opens to nothing but the
data, if it opens at all, if and only if it is not the sealed file without some of its last
records.** Nothing else that can be made of the bytes opens to other data. -/
theorem openFile_intact_iff :
    ∃ sealed, sealFile c key nonces data = some sealed ∧
      openFile c key sealed = .ok data ∧
      sealed.length = sealedAttachmentSizeForPlaintext data.length ∧
      ∀ blob : Bytes, blob.length < 2 ^ 63 →
        ((∀ out, openFile c key blob = .ok out → out = data) ↔
          ¬Shortened c key nonces data blob) := by
  refine ⟨attachmentGCMHeader ++ records c key nonces data 0 (chunkCount data), ?_, ?_, ?_, ?_⟩
  · have hseal := h.sealRecords_eq (zero_add (chunkCount data))
    rw [zero_mul, drop_zero] at hseal
    rw [sealFile, hseal, Option.map_some]
  · rw [h.openFile_records hdata le_rfl, take_chunkCount]
  · rw [length_append, h.length_records, take_chunkCount, sealedAttachmentSizeForPlaintext]
    split
    · have hnone : chunkCount data = 0 := by
        unfold chunkCount attachmentChunkSize
        omega
      rw [hnone]
      omega
    · rw [add_assoc]
      rfl
  · intro blob hlen
    constructor
    · rintro hintact ⟨n, hn, rfl⟩
      have hall := hintact _ (h.openFile_records hdata hn.le)
      have hcut := congrArg List.length hall
      rw [length_take] at hcut
      have := lt_chunkCount.mp hn
      omega
    · intro hwhole out hok
      obtain ⟨n, hn, rfl⟩ := h.openFile_ok hdata hlen hok
      obtain hlt | rfl := hn.lt_or_eq
      · exact (hwhole ⟨n, hlt, rfl⟩).elim
      · rw [h.openFile_records hdata le_rfl, take_chunkCount] at hok
        exact (Except.ok.inj hok).symm

end main

/-! ## Files of one and of two chunks -/

/-- The nonces of the examples. -/
def zeroNonces (_ : ℕ) : Bytes := replicate 12 0

/-- A cipher for one file: its keys are the chunk indices, and it opens the chunks of the file and
nothing else. -/
def cipherFor (data : Bytes) : Cipher UInt64 where
  deriveMessageKey _ _ index := index
  sealAES _ nonce plain _ := nonce ++ plain ++ replicate 16 0
  openAES k blob aad :=
    let chunk := chunkAt data k.toNat
    if k.toNat < chunkCount data ∧ chunkAAD "attachment" k = aad ∧
        replicate 12 0 ++ chunk ++ replicate 16 0 = blob then some chunk else none
  openBox _ _ _ := none

lemma sealedChunk_cipherFor (i : ℕ) : sealedChunk (cipherFor data) 0 zeroNonces data i =
    replicate 12 0 ++ chunkAt data i ++ replicate 16 0 := rfl

/-- Every file has an ideal cipher. -/
lemma cipherFor_ideal (hdata : data.length < 2 ^ 63) :
    (cipherFor data).Ideal 0 zeroNonces data where
  length_nonce _ := length_replicate
  length_sealAES _ n p _ := by
    show (n ++ p ++ replicate 16 0).length = _
    rw [length_append, length_append, length_replicate]
  openBox_eq_none _ _ := rfl
  openAES_iff index blob aad p := by
    simp only [sealedChunk_cipherFor]
    simp only [cipherFor, Option.ite_none_right_eq_some, Option.some.injEq]
    constructor
    · rintro ⟨⟨hi, haad, hblob⟩, hp⟩
      exact ⟨index.toNat, hi, by simp, by simpa using haad, hblob, hp⟩
    · rintro ⟨i, hi, rfl, rfl, rfl, rfl⟩
      rw [toNat_index (index_lt hdata hi)]
      exact ⟨⟨hi, rfl, rfl⟩, rfl⟩

/-- One byte more than a chunk. -/
def twoChunks : Bytes := replicate (attachmentChunkSize + 1) 1

/-- The sealed file of two chunks opens, and has the predicted size. -/
theorem sealed_chunks_intact :
    (cipherFor twoChunks).Ideal 0 zeroNonces twoChunks ∧ chunkCount twoChunks = 2 ∧
      ∃ sealed, sealFile (cipherFor twoChunks) 0 zeroNonces twoChunks = some sealed ∧
        openFile (cipherFor twoChunks) 0 sealed = .ok twoChunks ∧ sealed.length = 65609 := by
  have hlen : twoChunks.length = 65537 := by rw [twoChunks, length_replicate, attachmentChunkSize]
  have hideal := cipherFor_ideal twoChunks (by omega)
  refine ⟨hideal, by rw [chunkCount, hlen, attachmentChunkSize], ?_⟩
  obtain ⟨sealed, hseal, hopen, hsize, -⟩ := openFile_intact_iff hideal (by omega)
  exact ⟨sealed, hseal, hopen, by rw [hsize, hlen]; rfl⟩

/-- Cut after its header, the sealed byte opens to the empty file. -/
theorem shortened_byte_opens :
    (cipherFor [1]).Ideal 0 zeroNonces [1] ∧
      (∃ sealed, sealFile (cipherFor [1]) 0 zeroNonces [1] = some sealed ∧
        attachmentGCMHeader <+: sealed) ∧
      openFile (cipherFor [1]) 0 attachmentGCMHeader = .ok [] := by
  have hideal := cipherFor_ideal [1] (by decide)
  have hseal : sealRecords (cipherFor [1]) 0 zeroNonces 0 [1] = some _ :=
    hideal.sealRecords_eq (zero_add (chunkCount [1]))
  refine ⟨hideal, ?_, hideal.openFile_records (by decide) (zero_le _)⟩
  rw [sealFile, hseal]
  exact ⟨_, rfl, prefix_append _ _⟩

end Voicx.Client
