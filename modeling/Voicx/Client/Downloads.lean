import Mathlib.Data.List.Basic

/-!
# Resumed downloads

A download writes to a partial file beside its destination. The next attempt sends the length of
what is there, and the server folds that many bytes of its own file into the digest and sends the
rest.

* `sendDownload`, `ftDownloadStream`, `ftDownloadProgress` — server and client of one attempt.
* `attempt_of_le`, `attempt_of_lt` — **what an attempt does**, by the length of the partial file.
* `download_converges_iff` — for which partial files two attempts are enough.

The connection loses nothing and no disk call of the client fails.

Source names without a file are from `internal/filetransfer/transfer.go`.
-/

namespace Voicx.Client.Downloads

open List

abbrev Bytes := List UInt8

/-- "resume offset is past the end" and "hashing resumed prefix".
Source: the errors of `sendDownload` -/
inductive SendError
  | pastEnd
  | shortPrefix

/-- A status without an error is the one that says `ok`.
Source: `internal/filetransfer/protocol.go`, the frame types of a download -/
inductive Frame
  | chunk (payload : Bytes)
  | digest (sha256 : String)
  | status (error : Option SendError)

/-- Source: `client/chat.go`, the errors of `ftDownloadStream` and `ftReadStatus` -/
inductive DownloadError
  | closed
  | unexpectedFrame
  | digestMismatch
  | transferFailed (error : SendError)

/-- The partial file and the destination. -/
structure Disk where
  part : Option Bytes
  dest : Option Bytes

section protocol

variable (sha : Bytes → String)

/-! ## The server -/

/-- The reads of a file to its end; `sizes` says how many bytes beyond one each returns. -/
def readChunks : List ℕ → Bytes → List Bytes
  | _, [] => []
  | [], bytes => [bytes]
  | n :: sizes, bytes => bytes.take (n + 1) :: readChunks sizes (bytes.drop (n + 1))

/-- Source: `sendDownload` -/
def sendDownload (size : ℕ) (blob : Bytes) (offset : ℕ) (sizes : List ℕ) :
    Except SendError (List Frame) :=
  if 0 < offset ∧ size < offset then .error .pastEnd
  else if blob.length < offset then .error .shortPrefix
  else
    let chunks := readChunks sizes (blob.drop offset)
    .ok (chunks.map Frame.chunk ++ [.digest (sha (blob.take offset ++ chunks.flatten))])

/-- What the client reads from the connection; the size in the row is that of the blob.
Source: `serve` -/
def serve (blob : Bytes) (offset : ℕ) (sizes : List ℕ) : List Frame :=
  match sendDownload sha blob.length blob offset sizes with
  | .ok frames => frames ++ [.status none]
  | .error e => [.status (some e)]

/-! ## The client -/

/-- Source: `client/chat.go`, `ftReadStatus` -/
def ftReadStatus : List Frame → Except DownloadError Unit
  | [] => .error .closed
  | .status none :: _ => .ok ()
  | .status (some e) :: _ => .error (.transferFailed e)
  | _ :: _ => .error .unexpectedFrame

/-- The loop over the frames; `out` is the partial file, all of which the hasher has seen.
Source: `client/chat.go`, `ftDownloadStream` -/
def ftDownloadStream : List Frame → Bytes → Except DownloadError Unit × Bytes
  | [], out => (.error .closed, out)
  | .chunk payload :: frames, out => ftDownloadStream frames (out ++ payload)
  | .digest sum :: frames, out =>
    if sum ≠ sha out then (.error .digestMismatch, out) else (ftReadStatus frames, out)
  | .status _ :: _, out => (.error .unexpectedFrame, out)

/-- One attempt. Only a digest that does not match drops the partial file.
Source: `client/files.go`, `ftDownloadProgress`, `resumeState`, `finalizeDownloadedPart` -/
def ftDownloadProgress (blob : Bytes) (sizes : List ℕ) (disk : Disk) :
    Except DownloadError Unit × Disk :=
  let held := disk.part.getD []
  match ftDownloadStream sha (serve sha blob held.length sizes) held with
  | (.ok _, out) => (.ok (), { part := none, dest := some out })
  | (.error .digestMismatch, _) => (.error .digestMismatch, { disk with part := none })
  | (.error e, out) => (.error e, { disk with part := some out })

/-- Attempts one after the other until one succeeds. -/
def download (blob : Bytes) : List (List ℕ) → Disk → Bool × Disk
  | [], disk => (false, disk)
  | sizes :: rest, disk =>
    match ftDownloadProgress sha blob sizes disk with
    | (.ok _, disk') => (true, disk')
    | (.error _, disk') => download blob rest disk'

/-! ## One attempt -/

lemma flatten_readChunks (sizes : List ℕ) (bytes : Bytes) :
    (readChunks sizes bytes).flatten = bytes := by
  induction sizes generalizing bytes with
  | nil => cases bytes <;> simp [readChunks]
  | cons n sizes ih =>
    cases bytes with
    | nil => rfl
    | cons b bytes => simp [readChunks, ih]

lemma ftDownloadStream_chunks (chunks : List Bytes) (frames : List Frame) (out : Bytes) :
    ftDownloadStream sha (chunks.map Frame.chunk ++ frames) out =
      ftDownloadStream sha frames (out ++ chunks.flatten) := by
  induction chunks generalizing out with
  | nil => simp
  | cons chunk chunks ih =>
    rw [map_cons, cons_append, ftDownloadStream, ih, flatten_cons, append_assoc]

variable (blob : Bytes) (sizes : List ℕ) (disk : Disk)

/-- The bytes that an attempt ends up with: the partial file, and the rest of the server's. -/
def resumed : Bytes := disk.part.getD [] ++ blob.drop (disk.part.getD []).length

variable {blob disk}

/-- A partial file that is not too long is completed, and dropped if it does not match. -/
theorem attempt_of_le (h : (disk.part.getD []).length ≤ blob.length) :
    ftDownloadProgress sha blob sizes disk =
      if sha (resumed blob disk) = sha blob then
        (.ok (), { part := none, dest := some (resumed blob disk) })
      else (.error .digestMismatch, { disk with part := none }) := by
  have hserve : serve sha blob (disk.part.getD []).length sizes =
      (readChunks sizes (blob.drop (disk.part.getD []).length)).map Frame.chunk ++
        [.digest (sha blob), .status none] := by
    unfold serve sendDownload
    rw [if_neg fun hlt => Nat.not_lt.mpr h hlt.2, if_neg (Nat.not_lt.mpr h)]
    simp [flatten_readChunks]
  unfold ftDownloadProgress
  simp only [hserve, ftDownloadStream_chunks, flatten_readChunks, ftDownloadStream]
  by_cases heq : sha (resumed blob disk) = sha blob
  · unfold resumed at heq ⊢
    simp [heq, ftReadStatus]
  · rw [if_neg heq]
    unfold resumed at heq
    simp [Ne.symm heq]

/-- A partial file longer than the server's file is refused, and stays. -/
theorem attempt_of_lt (h : blob.length < (disk.part.getD []).length) :
    ftDownloadProgress sha blob sizes disk =
      (.error .unexpectedFrame, { disk with part := some (disk.part.getD []) }) := by
  have hserve : serve sha blob (disk.part.getD []).length sizes = [.status (some .pastEnd)] := by
    unfold serve sendDownload
    rw [if_pos ⟨Nat.zero_lt_of_lt h, h⟩]
  unfold ftDownloadProgress
  simp [hserve, ftDownloadStream]

/-! ## Attempts -/

/-- No number of attempts gets past a partial file that is too long. -/
lemma download_of_lt (attempts : List (List ℕ)) (h : blob.length < (disk.part.getD []).length) :
    (download sha blob attempts disk).1 = false := by
  induction attempts generalizing disk with
  | nil => rfl
  | cons sizes rest ih =>
    rw [download, attempt_of_lt sha sizes h]
    exact ih h

end protocol

/-- **Two attempts are enough** exactly if the partial file is not longer than the server's file,
and completing it does not give other bytes with the same digest. After a success the destination
has the digest of the server's file. -/
theorem download_converges_iff (sha : Bytes → String) (blob : Bytes) (disk : Disk)
    (first second : List ℕ) (rest : List (List ℕ)) :
    (download sha blob (first :: second :: rest) disk = (true, ⟨none, some blob⟩) ↔
      (disk.part.getD []).length ≤ blob.length ∧
        (sha (resumed blob disk) = sha blob → resumed blob disk = blob)) ∧
    ∀ disk', ftDownloadProgress sha blob first disk = (.ok (), disk') →
      ∃ bytes, disk'.dest = some bytes ∧ disk'.part = none ∧ sha bytes = sha blob := by
  by_cases hle : (disk.part.getD []).length ≤ blob.length
  · rw [download, attempt_of_le sha first hle]
    by_cases heq : sha (resumed blob disk) = sha blob
    · simp only [heq, if_true]
      constructor
      · simp [hle]
      · rintro disk' ⟨⟩
        exact ⟨_, rfl, rfl, heq⟩
    · -- the partial file is gone, and the second attempt starts from nothing
      have hnone : (({ disk with part := none } : Disk).part.getD []).length ≤ blob.length :=
        Nat.zero_le _
      simp only [heq, if_false, download, attempt_of_le sha second hnone]
      simp [resumed, hle]
  · have hlt := Nat.lt_of_not_le hle
    constructor
    · refine iff_of_false (fun h => ?_) fun h => hle h.1
      have hfalse := download_of_lt sha (first :: second :: rest) hlt
      rw [h] at hfalse
      cases hfalse
    · rw [attempt_of_lt sha first hlt]
      rintro disk' ⟨⟩

/-- The digest that is the content itself. -/
def plainDigest (bytes : Bytes) : String := String.ofList (bytes.map fun b => Char.ofNat b.toNat)

/-- Two bytes were left of another version, and the server's file has one: both attempts fail. -/
theorem longer_part_stays :
    (download plainDigest [1] [[], []] ⟨some [1, 2], none⟩).1 = false :=
  download_of_lt plainDigest _ (by decide)

end Voicx.Client.Downloads
