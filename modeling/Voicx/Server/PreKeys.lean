import Voicx.E2EE.Crypto
import Voicx.Found.KeyedList
import Voicx.Found.RowLocks
import Voicx.Server.Reply

/-!
# Prekey bundles

A client publishes a signed bundle with one-time prekeys; another client's query is answered with
the bundle and at most one of the one-time prekeys. Both are transactions of
`internal/store/prekeys.go`, interleaved here statement by statement on any number of replicas.

* `handlePreKeyPublish` — the checks of a request to publish.
* `PreKeyDB`, `Write`, `put` — the two tables and a write of one row.
* `Stage`, `next`, `lockRows` — the statements of the two transactions. The bundle is read without a
  lock; the one-time prekey is read `FOR UPDATE SKIP LOCKED`.
* `preKeys` — the transactions as a `Protocol`; `framed_preKeys` — what a query has picked stays
  unconsumed until its end.
* **`handed_out_once`** — no one-time prekey is handed out twice, as long as none is published again
  after it was handed out.
-/

namespace Voicx.Server.PreKeys

open Found E2EE Protocol List Symbolic

/-! ## Requests -/

/-- Source: `internal/netproto/codec.go`, `OneTimePreKey` -/
structure OneTimePreKey (K : Type) where
  keyID : UInt32
  publicKey : K
  deriving DecidableEq, Repr

/-- Source: `internal/netproto/codec.go`, `PreKeyPublish` -/
structure PreKeyPublish (K : Type) where
  identityDH : K
  signingPublic : K
  signedPreKeyID : UInt32
  signedPreKey : K
  signature : K
  oneTimePreKeys : List (OneTimePreKey K)
  deriving DecidableEq, Repr

/-- Source: `internal/server/prekeys.go`, `maxPublishedOneTimePreKeys` -/
def maxPublishedOneTimePreKeys : ℕ := 100

section requests

variable {K B C : Type} [Inhabited K] (c : Primitives K B C)

/-- The bundle whose signature is checked; it has no one-time prekey. -/
def PreKeyPublish.bundle (msg : PreKeyPublish K) : PreKeyBundle K where
  identityDH := msg.identityDH
  signingPublic := msg.signingPublic
  signedPreKeyID := msg.signedPreKeyID
  signedPreKey := msg.signedPreKey
  signature := msg.signature
  oneTimePreKeyID := 0
  oneTimePreKey := default

/-- The loop over the one-time prekeys, with the ids it has seen. -/
def oneTimePreKeysOK (seen : List UInt32) : List (OneTimePreKey K) → Bool
  | [] => true
  | key :: rest =>
    if key.keyID = 0 ∨ c.size key.publicKey ≠ 32 ∨ key.keyID ∈ seen then false
    else oneTimePreKeysOK (key.keyID :: seen) rest

/-- The checks before the bundle is stored.
Source: `internal/server/prekeys.go`, `handlePreKeyPublish`
Fidelity: the stored identity is read in between for an audit entry; a read that fails ends the
request. -/
def handlePreKeyPublish (userID : Int) (msg : PreKeyPublish K) : Except ErrorReply Unit :=
  if userID ≤ 0 then
    .error ⟨.permissionDenied, "registered account required for asynchronous prekeys"⟩
  else if msg.signedPreKeyID = 0 ∨ !verifyPreKeyBundle c msg.bundle ∨
      msg.oneTimePreKeys.length > maxPublishedOneTimePreKeys then
    .error ⟨.malformed, "invalid signed prekey bundle"⟩
  else if !oneTimePreKeysOK c [] msg.oneTimePreKeys then
    .error ⟨.malformed, "invalid or duplicate one-time prekey"⟩
  else .ok ()

end requests

/-! ## The tables -/

/-- Source: `internal/store/migrations/021_e2ee_prekey_bundles.sql`, `e2ee_prekey_bundles` -/
structure BundleRow (K : Type) where
  userID : Int
  identityDH : K
  signingPublic : K
  signedPreKeyID : UInt32
  signedPreKey : K
  signature : K
  deriving DecidableEq, Repr

/-- Source: `internal/store/migrations/020_e2ee_prekeys.sql`, `e2ee_prekeys`
Fidelity: `consumed_at` as whether it is set; the signature of a prekey is never sent. -/
structure KeyRow (K : Type) where
  userID : Int
  keyID : UInt32
  publicKey : K
  oneTime : Bool := true
  consumed : Bool := false
  deriving DecidableEq, Repr

structure PreKeyDB (K : Type) where
  bundles : List (BundleRow K) := []
  keys : List (KeyRow K) := []
  deriving DecidableEq, Repr

/-- A row that can be locked. -/
inductive Row
  | bundle (userID : Int)
  | key (userID : Int) (keyID : UInt32)
  deriving DecidableEq, Repr

/-- A row as a statement leaves it. -/
inductive Write (K : Type)
  | bundle (row : BundleRow K)
  | key (row : KeyRow K)
  deriving DecidableEq, Repr

/-- The primary key of a prekey. -/
def KeyRow.primary {K : Type} (row : KeyRow K) : Int × UInt32 := (row.userID, row.keyID)

/-- The tables with a row written. -/
def put {K : Type} (db : PreKeyDB K) : Write K → PreKeyDB K
  | .bundle row => { db with bundles := upsert BundleRow.userID db.bundles row }
  | .key row => { db with keys := upsert KeyRow.primary db.keys row }

/-! ## The transactions -/

/-- What a publish request stores. -/
structure Publication (K : Type) where
  userID : Int
  msg : PreKeyPublish K
  deriving DecidableEq, Repr

section transactions

variable {K : Type}

def Publication.bundleRow (p : Publication K) : BundleRow K where
  userID := p.userID
  identityDH := p.msg.identityDH
  signingPublic := p.msg.signingPublic
  signedPreKeyID := p.msg.signedPreKeyID
  signedPreKey := p.msg.signedPreKey
  signature := p.msg.signature

/-- A published prekey is one-time and not consumed, whatever was stored under its id.
Source: `internal/store/prekeys.go`, `upsertPreKeys` -/
def Publication.keyRow (p : Publication K) (key : OneTimePreKey K) : KeyRow K where
  userID := p.userID
  keyID := key.keyID
  publicKey := key.publicKey

/-- Where a transaction is, with what it has read. The prekeys of one `INSERT` are written row by
row, each waiting for its lock. -/
inductive Stage (K : Type)
  | publishBundle (p : Publication K)
  | publishKeys (p : Publication K) (rest : List (OneTimePreKey K))
  | selectBundle (userID : Int)
  | selectKey (bundle : BundleRow K)
  | update (bundle : BundleRow K) (key : KeyRow K)
  | answer (bundle : BundleRow K) (key : Option (KeyRow K))
  deriving DecidableEq, Repr

/-- An open transaction and its writes so far. -/
structure Tx (K : Type) where
  stage : Stage K
  writes : List (Write K) := []
  deriving DecidableEq, Repr

/-- The tables as the transaction sees them. -/
def Tx.view (t : Tx K) (db : PreKeyDB K) : PreKeyDB K := t.writes.foldl put db

variable (db : PreKeyDB K) (free : Row → Bool)

/-- `WHERE user_id = $1 AND one_time AND consumed_at IS NULL ORDER BY key_id LIMIT 1 FOR UPDATE SKIP
LOCKED`. -/
def firstFree (userID : Int) : Option (KeyRow K) :=
  (db.keys.filter fun k =>
    k.userID == userID && k.oneTime && !k.consumed && free (.key k.userID k.keyID)).argmin
      fun k => k.keyID.toNat

/-- The next statement; `none` where a query finds no bundle.
Source: `internal/store/prekeys.go`, `PublishPreKeyBundle`, `ConsumePreKeyBundle` -/
def next (t : Tx K) : Option (Tx K) :=
  match t.stage with
  | .publishBundle p =>
    some {
      stage := .publishKeys p p.msg.oneTimePreKeys
      writes := t.writes ++ [.bundle p.bundleRow] }
  | .publishKeys _ [] => some t
  | .publishKeys p (key :: rest) =>
    some { stage := .publishKeys p rest, writes := t.writes ++ [.key (p.keyRow key)] }
  | .selectBundle userID =>
    ((t.view db).bundles.find? fun b => b.userID == userID).map fun b =>
      { t with stage := .selectKey b }
  | .selectKey bundle =>
    match firstFree (t.view db) free bundle.userID with
    | none => some { t with stage := .answer bundle none }
    | some key => some { t with stage := .update bundle key }
  | .update bundle key =>
    some {
      stage := .answer bundle (some key)
      writes := t.writes ++ [.key { key with consumed := true }] }
  | .answer _ _ => some t

/-- The rows the next statement locks. -/
def lockRows (t : Tx K) : List Row :=
  match t.stage with
  | .publishBundle p => [.bundle p.userID]
  | .publishKeys _ [] => []
  | .publishKeys p (key :: _) => [.key p.userID key.keyID]
  | .selectBundle _ => []
  | .selectKey bundle =>
    match firstFree (t.view db) free bundle.userID with
    | none => []
    | some key => [.key key.userID key.keyID]
  | .update _ key => [.key key.userID key.keyID]
  | .answer _ _ => []

/-- A transaction begins: a request that passed its checks. -/
def begins {B C : Type} [Inhabited K] (c : Primitives K B C) (t : Tx K) : Bool :=
  t.writes.isEmpty &&
    match t.stage with
    | .publishBundle p => (handlePreKeyPublish c p.userID p.msg).toBool
    | .selectBundle _ => true
    | _ => false

/-- The two transactions. -/
def preKeys {B C : Type} [Inhabited K] (c : Primitives K B C) :
    Protocol (PreKeyDB K) Row (Tx K) Unit where
  initial _ := begins c
  rows db free _ := lockRows db free
  next db free _ := next db free
  done t := match t.stage with
    | .publishKeys _ [] => true
    | .answer _ _ => true
    | _ => false
  commit := Tx.view

/-! ## What was published and what was handed out -/

/-- The one-time prekey of an answer: whose, under which id, and the key. -/
def handedOut (log : List (ℕ × Tx K)) : List (Int × UInt32 × K) :=
  log.filterMap fun e => match e.2.stage with
    | .answer _ (some key) => some (key.userID, key.keyID, key.publicKey)
    | _ => none

def publications (log : List (ℕ × Tx K)) : List (Publication K) :=
  log.filterMap fun e => match e.2.stage with
    | .publishKeys p _ => some p
    | _ => none

end transactions

/-! ## What the writes of a transaction leave -/

section writes

variable {K : Type} {db : PreKeyDB K} {ws : List (Write K)} {key : KeyRow K} {bundle : BundleRow K}

/-- A prekey is stored because it was written, or because it was there and not overwritten. -/
lemma mem_keys_foldl_put :
    key ∈ (ws.foldl put db).keys →
      .key key ∈ ws ∨ key ∈ db.keys ∧ ∀ row, .key row ∈ ws → row.primary ≠ key.primary := by
  induction ws generalizing db with
  | nil => exact fun h => .inr ⟨h, fun row hrow => absurd hrow not_mem_nil⟩
  | cons w ws ih =>
    intro h
    rcases ih h with hkey | ⟨hkey, hrest⟩
    · exact .inl (mem_cons_of_mem w hkey)
    cases w with
    | bundle row =>
      refine .inr ⟨hkey, fun row' hrow' => hrest row' ?_⟩
      simpa using hrow'
    | key row =>
      rcases mem_upsert.mp hkey with rfl | ⟨hkey, hne⟩
      · exact .inl mem_cons_self
      · refine .inr ⟨hkey, fun row' hrow' => ?_⟩
        rcases mem_cons.mp hrow' with heq | hrow'
        · cases heq
          exact hne.symm
        · exact hrest row' hrow'

/-- A prekey that is not overwritten stays. -/
lemma mem_keys_foldl_put_of_mem (h : key ∈ db.keys)
    (hne : ∀ row, .key row ∈ ws → row.primary ≠ key.primary) : key ∈ (ws.foldl put db).keys := by
  induction ws generalizing db with
  | nil => exact h
  | cons w ws ih =>
    refine ih ?_ fun row hrow => hne row (mem_cons_of_mem w hrow)
    cases w with
    | bundle row => exact h
    | key row => exact mem_upsert.mpr (.inr ⟨h, (hne row mem_cons_self).symm⟩)

end writes

/-! ## What locks protect -/

/-- A stored one-time prekey that a query may answer with. -/
def Available {K : Type} (db : PreKeyDB K) (bundle : BundleRow K) (key : KeyRow K) : Prop :=
  key ∈ db.keys ∧ key.userID = bundle.userID ∧ key.oneTime = true ∧ key.consumed = false

/-- The writes of an open transaction, to rows it has locked; a prekey that was picked is still
available. -/
def Held {K : Type} (db : PreKeyDB K) (t : Tx K) (rows : List Row) : Prop :=
  match t.stage with
  | .publishBundle _ => t.writes = []
  | .publishKeys p rest =>
    ∃ written, p.msg.oneTimePreKeys = written ++ rest ∧
      t.writes = (.bundle p.bundleRow :: written.map fun key => Write.key (p.keyRow key)) ∧
      ∀ key ∈ written, Row.key p.userID key.keyID ∈ rows
  | .selectBundle _ => t.writes = []
  | .selectKey _ => t.writes = []
  | .update bundle key =>
    t.writes = [] ∧ Row.key key.userID key.keyID ∈ rows ∧ Available db bundle key
  | .answer bundle (some key) =>
    t.writes = [.key { key with consumed := true }] ∧ Row.key key.userID key.keyID ∈ rows ∧
      Available db bundle key
  | .answer _ none => t.writes = []

section held

variable {K B C : Type} {db db' : PreKeyDB K} {t t' : Tx K} {rows : List Row} {free : Row → Bool}
  {bundle : BundleRow K} {key : KeyRow K}

lemma held_start [Inhabited K] {c : Primitives K B C} (h : begins c t = true) : Held db t [] := by
  obtain ⟨hwrites, hstage⟩ := Bool.and_eq_true_iff.mp h
  have hwrites : t.writes = [] := isEmpty_iff.mp hwrites
  unfold Held
  split <;> simp_all

/-- A prekey that a query picks is available. -/
lemma available_of_firstFree (h : firstFree db free bundle.userID = some key) :
    Available db bundle key := by
  have hmem := argmin_mem h
  simp only [mem_filter, Bool.and_eq_true, beq_iff_eq, Bool.not_eq_true'] at hmem
  obtain ⟨hkey, ⟨⟨huser, hone⟩, hconsumed⟩, -⟩ := hmem
  exact ⟨hkey, huser, hone, hconsumed⟩

/-- What the next statement of a transaction does. -/
inductive Next (db : PreKeyDB K) (free : Row → Bool) : Tx K → Tx K → Prop
  | published (p : Publication K) (ws : List (Write K)) :
      Next db free ⟨.publishKeys p [], ws⟩ ⟨.publishKeys p [], ws⟩
  | answered (bundle : BundleRow K) (key : Option (KeyRow K)) (ws : List (Write K)) :
      Next db free ⟨.answer bundle key, ws⟩ ⟨.answer bundle key, ws⟩
  | publishBundle (p : Publication K) (ws : List (Write K)) :
      Next db free ⟨.publishBundle p, ws⟩
        ⟨.publishKeys p p.msg.oneTimePreKeys, ws ++ [.bundle p.bundleRow]⟩
  | publishKey (p : Publication K) (key : OneTimePreKey K) (rest : List (OneTimePreKey K))
      (ws : List (Write K)) :
      Next db free ⟨.publishKeys p (key :: rest), ws⟩
        ⟨.publishKeys p rest, ws ++ [.key (p.keyRow key)]⟩
  | selectBundle {userID : Int} {bundle : BundleRow K} {ws : List (Write K)}
      (hbundle : bundle ∈ (ws.foldl put db).bundles) :
      Next db free ⟨.selectBundle userID, ws⟩ ⟨.selectKey bundle, ws⟩
  | noKey (bundle : BundleRow K) (ws : List (Write K)) :
      Next db free ⟨.selectKey bundle, ws⟩ ⟨.answer bundle none, ws⟩
  | pick {bundle : BundleRow K} {key : KeyRow K} {ws : List (Write K)}
      (hkey : firstFree (ws.foldl put db) free bundle.userID = some key) :
      Next db free ⟨.selectKey bundle, ws⟩ ⟨.update bundle key, ws⟩
  | update (bundle : BundleRow K) (key : KeyRow K) (ws : List (Write K)) :
      Next db free ⟨.update bundle key, ws⟩
        ⟨.answer bundle (some key), ws ++ [.key { key with consumed := true }]⟩

lemma next_cases (h : next db free t = some t') : Next db free t t' := by
  obtain ⟨stage, ws⟩ := t
  cases stage with
  | publishBundle p =>
    cases h
    exact .publishBundle p ws
  | publishKeys p rest =>
    cases rest with
    | nil =>
      cases h
      exact .published p ws
    | cons key rest =>
      cases h
      exact .publishKey p key rest ws
  | selectBundle userID =>
    obtain ⟨bundle, hfind, rfl⟩ := Option.map_eq_some_iff.mp h
    exact .selectBundle (mem_of_find?_eq_some hfind)
  | selectKey bundle =>
    simp only [next] at h
    split at h
    · cases h
      exact .noKey bundle ws
    · rename_i hkey
      cases h
      exact .pick hkey
  | update bundle key =>
    cases h
    exact .update bundle key ws
  | answer bundle key =>
    cases h
    exact .answered bundle key ws

theorem Held.next (h : Held db t rows) (hnext : next db free t = some t') :
    Held db t' (rows ++ lockRows db free t) := by
  cases next_cases hnext with
  | published p ws =>
    obtain ⟨written, hkeys, hwrites, hlocked⟩ := h
    exact ⟨written, hkeys, hwrites, fun key hkey => mem_append_left _ (hlocked key hkey)⟩
  | answered bundle key ws =>
    cases key with
    | none => exact h
    | some key => exact ⟨h.1, mem_append_left _ h.2.1, h.2.2⟩
  | publishBundle p ws =>
    obtain rfl : ws = [] := h
    exact ⟨[], rfl, rfl, forall_mem_nil _⟩
  | publishKey p key rest ws =>
    obtain ⟨written, hkeys, hwrites, hlocked⟩ := h
    have hwrites : ws = _ := hwrites
    refine ⟨written ++ [key], by simp [hkeys], by simp [hwrites], fun key' hkey' => ?_⟩
    rcases mem_append.mp hkey' with hkey' | hkey'
    · exact mem_append_left _ (hlocked key' hkey')
    · rw [mem_singleton.mp hkey']
      exact mem_append_right _ mem_cons_self
  | selectBundle hbundle | noKey bundle ws => exact h
  | @pick bundle key ws hkey =>
    obtain rfl : ws = [] := h
    have hkey : firstFree db free bundle.userID = some key := hkey
    refine ⟨rfl, mem_append_right _ ?_, available_of_firstFree hkey⟩
    simp [lockRows, Tx.view, hkey]
  | update bundle key ws =>
    obtain ⟨rfl, hlocked, havailable⟩ := h
    exact ⟨rfl, mem_append_left _ hlocked, havailable⟩

/-- The prekeys a transaction writes are in rows it has locked. -/
theorem Held.locked (h : Held db t rows) {row : KeyRow K} (hrow : .key row ∈ t.writes) :
    Row.key row.userID row.keyID ∈ rows := by
  unfold Held at h
  split at h
  · simp [h] at hrow
  · obtain ⟨written, -, hwrites, hlocked⟩ := h
    rw [hwrites] at hrow
    obtain ⟨key, hkey, heq⟩ : ∃ key ∈ written, Write.key (Publication.keyRow _ key) = .key row := by
      simpa using hrow
    cases heq
    exact hlocked key hkey
  · simp [h] at hrow
  · simp [h] at hrow
  · simp [h.1] at hrow
  · rw [h.1, mem_singleton] at hrow
    cases hrow
    exact h.2.1
  · simp [h] at hrow

/-- A prekey that one transaction has locked stays available when another commits. -/
theorem Available.commit (h : Available db bundle key) (ht : Held db t rows)
    (hkey : Row.key key.userID key.keyID ∉ rows) : Available (t.view db) bundle key := by
  refine ⟨mem_keys_foldl_put_of_mem h.1 fun row hrow heq => ?_, h.2⟩
  have hlocked := ht.locked hrow
  simp only [KeyRow.primary, Prod.mk.injEq] at heq
  rw [heq.1, heq.2] at hlocked
  exact hkey hlocked

/-- The tables matter only for what has been picked. -/
lemma Held.congr (h : Held db t rows)
    (havailable : ∀ bundle key, Row.key key.userID key.keyID ∈ rows → Available db bundle key →
      Available db' bundle key) : Held db' t rows := by
  unfold Held at h ⊢
  cases hstage : t.stage with
  | update bundle key =>
    simp only [hstage] at h ⊢
    exact ⟨h.1, h.2.1, havailable bundle key h.2.1 h.2.2⟩
  | answer bundle key =>
    cases key with
    | none => simpa only [hstage] using h
    | some key =>
      simp only [hstage] at h ⊢
      exact ⟨h.1, h.2.1, havailable bundle key h.2.1 h.2.2⟩
  | publishBundle | publishKeys | selectBundle | selectKey => simpa only [hstage] using h

/-- **A prekey that a query has picked stays available until the query ends.** -/
theorem framed_preKeys [Inhabited K] (c : Primitives K B C) :
    Framed (preKeys c) (fun _ => True) Held where
  start _ := held_start
  next _ := Held.next
  wf _ _ _ := trivial
  commit _ ht _ ht' hdisjoint :=
    ht'.congr fun _ _ hlocked havailable => havailable.commit ht (hdisjoint _ hlocked)

end held

/-! ## Commits -/

section commits

variable {K : Type} {db : PreKeyDB K} {t : Tx K} {rows : List Row}

/-- The rows a publication writes. -/
def Publication.writes (p : Publication K) : List (Write K) :=
  .bundle p.bundleRow :: p.msg.oneTimePreKeys.map fun key => Write.key (p.keyRow key)

/-- **What a commit writes**: a publication with all its prekeys, nothing, or one prekey as
consumed. -/
theorem Held.done_cases {B C : Type} [Inhabited K] {c : Primitives K B C} (h : Held db t rows)
    (hdone : (preKeys c).done t = true) :
    (∃ p, t.stage = .publishKeys p [] ∧ t.writes = p.writes) ∨
      (∃ bundle, t.stage = .answer bundle none ∧ t.writes = []) ∨
      (∃ bundle key, t.stage = .answer bundle (some key) ∧
        t.writes = [.key { key with consumed := true }] ∧ Available db bundle key) := by
  unfold Held at h
  simp only [preKeys] at hdone
  split at hdone
  · rename_i p hstage
    simp only [hstage] at h
    obtain ⟨written, hkeys, hwrites, -⟩ := h
    rw [append_nil] at hkeys
    exact .inl ⟨p, hstage, by rw [hwrites, ← hkeys]; rfl⟩
  · rename_i bundle key hstage
    cases key with
    | none =>
      simp only [hstage] at h
      exact .inr (.inl ⟨bundle, hstage, h⟩)
    | some key =>
      simp only [hstage] at h
      exact .inr (.inr ⟨bundle, key, hstage, h.1, h.2.2⟩)
  · cases hdone

/-- The publication that a move commits. -/
def publishing (s : System (PreKeyDB K) Row (Tx K)) : Move (Tx K) Unit → Option (Publication K)
  | .commit i => (s.active i).bind fun t => match t.stage with
      | .publishKeys p [] => some p
      | _ => none
  | _ => none

variable {p : Publication K}

lemma publishing_commit {s : System (PreKeyDB K) Row (Tx K)} {i : ℕ} (hi : s.active i = some t)
    (hstage : t.stage = .publishKeys p []) : p ∈ publishing s (.commit i) := by
  simp [publishing, hi, hstage]

@[simp] lemma key_mem_writes {row : KeyRow K} :
    .key row ∈ p.writes ↔ ∃ key ∈ p.msg.oneTimePreKeys, p.keyRow key = row := by
  simp [Publication.writes]

lemma bundles_foldl_writes (p : Publication K) (db : PreKeyDB K) :
    (p.writes.foldl put db).bundles = upsert BundleRow.userID db.bundles p.bundleRow := by
  rw [Publication.writes, foldl_cons, foldl_map]
  exact foldl_frame (g := PreKeyDB.bundles) (fun _ _ => by rfl) _ _

end commits

/-! ## One-time prekeys are handed out once -/

section once

variable {K : Type} {log : List (ℕ × Tx K)} {db : PreKeyDB K} {i : ℕ} {t : Tx K}
  {s : System (PreKeyDB K) Row (Tx K)}

/-- The move commits a publication of a one-time prekey that a query was answered with. -/
def Republishes (s : System (PreKeyDB K) Row (Tx K)) (m : Move (Tx K) Unit) : Prop :=
  ∃ p ∈ publishing s m, ∃ key ∈ p.msg.oneTimePreKeys,
    (p.userID, key.keyID, key.publicKey) ∈ handedOut s.log

instance [DecidableEq K] (s : System (PreKeyDB K) Row (Tx K)) (m : Move (Tx K) Unit) :
    Decidable (Republishes s m) :=
  inferInstanceAs (Decidable (∃ p ∈ publishing s m, ∃ key ∈ p.msg.oneTimePreKeys,
    (p.userID, key.keyID, key.publicKey) ∈ handedOut s.log))

/-- No prekey was handed out twice, and one that was handed out is stored as consumed, if it is
stored. -/
structure Once (log : List (ℕ × Tx K)) (db : PreKeyDB K) : Prop where
  nodup : (handedOut log).Nodup
  consumed : ∀ k ∈ db.keys, (k.userID, k.keyID, k.publicKey) ∈ handedOut log → k.consumed = true

variable {p : Publication K} {key : KeyRow K} {B C : Type}

/-- A transaction that hands out nothing. -/
lemma Once.log_append (h : Once log db) (hnone : handedOut [(i, t)] = []) :
    Once (log ++ [(i, t)]) db := by
  have hsame : handedOut (log ++ [(i, t)]) = handedOut log := by
    rw [handedOut, filterMap_append]
    exact (congrArg _ hnone).trans (append_nil _)
  exact ⟨hsame.symm ▸ h.nodup, hsame.symm ▸ h.consumed⟩

variable {bundle : BundleRow K}

lemma handedOut_append_of_some (hstage : t.stage = .answer bundle (some key)) :
    handedOut (log ++ [(i, t)]) = handedOut log ++ [(key.userID, key.keyID, key.publicKey)] := by
  simp [handedOut, hstage]

/-- A publication of prekeys that nobody has been given. -/
theorem Once.publish (h : Once log db)
    (hfresh : ∀ key ∈ p.msg.oneTimePreKeys, (p.userID, key.keyID, key.publicKey) ∉ handedOut log) :
    Once log (p.writes.foldl put db) where
  nodup := h.nodup
  consumed k hk hout := by
    rcases mem_keys_foldl_put hk with hk | ⟨hk, -⟩
    · obtain ⟨key, hkey, rfl⟩ := key_mem_writes.mp hk
      exact absurd hout (hfresh key hkey)
    · exact h.consumed k hk hout

/-- An answer with a prekey that is not consumed: nobody has been given it, and nobody will be. -/
theorem Once.answer (h : Once log db) (havailable : Available db bundle key)
    (hstage : t.stage = .answer bundle (some key)) :
    Once (log ++ [(i, t)]) (put db (.key { key with consumed := true })) := by
  obtain ⟨hmem, -, -, hconsumed⟩ := havailable
  constructor
  · rw [handedOut_append_of_some hstage]
    refine h.nodup.append (nodup_singleton _) fun out hout hnew => ?_
    rw [mem_singleton.mp hnew] at hout
    rw [h.consumed key hmem hout] at hconsumed
    cases hconsumed
  · intro k hk hout
    rw [handedOut_append_of_some hstage, mem_append, mem_singleton] at hout
    rcases mem_upsert.mp hk with rfl | ⟨hk, hne⟩
    · rfl
    · rcases hout with hout | hout
      · exact h.consumed k hk hout
      · simp only [Prod.mk.injEq] at hout
        exact absurd (Prod.ext hout.1 hout.2.1) hne

/-- **One move** that publishes no prekey again. -/
theorem Once.step [Inhabited K] {c : Primitives K B C} (hcovered : Covered (fun _ => True) Held s)
    (h : Once s.log s.store) {m : Move (Tx K) Unit} (hm : ¬Republishes s m) :
    Once ((preKeys c).step s m).log ((preKeys c).step s m).store := by
  rcases (preKeys c).step_cases s m with heq | ⟨i, heq⟩ | ⟨i, t, -, heq⟩ |
      ⟨i, t, t', input, -, -, -, -, heq⟩ | ⟨i, t, rfl, hi, hdone, heq⟩
  · rwa [heq]
  · rwa [heq]
  · rwa [heq]
  · rwa [heq]
  rw [heq]
  obtain ⟨rows, hheld, -⟩ := hcovered.valid i t hi
  show Once (s.log ++ [(i, t)]) (t.writes.foldl put s.store)
  rcases hheld.done_cases hdone with ⟨p, hstage, hwrites⟩ | ⟨bundle, hstage, hwrites⟩ |
      ⟨bundle, key, hstage, hwrites, havailable⟩
  · have hpublish : Once s.log (p.writes.foldl put s.store) := by
      refine h.publish fun key hkey hout => ?_
      exact hm ⟨p, publishing_commit hi hstage, key, hkey, hout⟩
    rw [hwrites]
    exact hpublish.log_append (by simp [handedOut, hstage])
  · rw [hwrites]
    exact h.log_append (by simp [handedOut, hstage])
  · rw [hwrites]
    exact h.answer havailable hstage

/-- **One-time prekeys are handed out once.** From any tables, in every interleaving of publications
and queries in which no one-time prekey is published again after a query was answered with it, no
two queries are answered with the same one-time prekey. -/
theorem handed_out_once [Inhabited K] (c : Primitives K B C) (db : PreKeyDB K)
    {moves : List (Move (Tx K) Unit)}
    (hmoves : StepsOK (preKeys c).step (fun s m => ¬Republishes s m) (System.idle db) moves) :
    Throughout (preKeys c).step (fun s => (handedOut s.log).Nodup) (System.idle db) moves := by
  have hstep : ∀ s m, Covered (fun _ => True) Held s ∧ Once s.log s.store → ¬Republishes s m →
      Covered (fun _ => True) Held ((preKeys c).step s m) ∧
        Once ((preKeys c).step s m).log ((preKeys c).step s m).store :=
    fun s m h hm => ⟨(framed_preKeys c).step h.1 m, h.2.step h.1 hm⟩
  have hnil : Once [] db := ⟨nodup_nil, fun _ _ h => absurd h not_mem_nil⟩
  have hinv := throughout_of_stepsOK hstep ⟨covered_idle trivial, hnil⟩ hmoves
  exact hinv.mono fun s h => h.2.nodup

end once

/-! ### Two queries, and a prekey that is published again -/

instance : Inhabited Term := ⟨.empty⟩

/-- User 1 publishes an identity with one-time prekeys under the given ids. -/
def publication (identity : ℕ) (ids : List UInt32) : Publication Term where
  userID := 1
  msg :=
    { identityDH := .pub identity
      signingPublic := .pub 50
      signedPreKeyID := 7
      signedPreKey := .pub 60
      signature := .signature (.pub 50) 7 (.pub 60)
      oneTimePreKeys := ids.map fun id =>
        { keyID := id, publicKey := .pub (100 * identity + id.toNat) } }

/-- A publication up to its commit. -/
def writesAll (i : ℕ) (p : Publication Term) : List (Move (Tx Term) Unit) :=
  .start i { stage := .publishBundle p } ::
    List.replicate (p.msg.oneTimePreKeys.length + 1) (.statement i ())

/-- A publication. -/
def publishes (i : ℕ) (p : Publication Term) : List (Move (Tx Term) Unit) :=
  writesAll i p ++ [.commit i]

/-- A query for the bundle of user 1, from its start to its commit. -/
def queries (i : ℕ) : List (Move (Tx Term) Unit) :=
  [.start i { stage := .selectBundle 1 }, .statement i (), .statement i (), .statement i (),
    .commit i]

/-- The system after moves on empty tables. -/
def after (moves : List (Move (Tx Term) Unit)) : System (PreKeyDB Term) Row (Tx Term) :=
  run (preKeys (primitives ℕ)).step (System.idle {}) moves

/-- Two prekeys are published. One query picks the first, the other skips it while it is locked. -/
def twoQueries : List (Move (Tx Term) Unit) :=
  publishes 0 (publication 1 [9, 10]) ++
    [.start 1 { stage := .selectBundle 1 }, .start 2 { stage := .selectBundle 1 },
      .statement 1 (), .statement 2 (), .statement 1 (), .statement 2 (), .statement 2 (),
      .commit 2, .statement 1 (), .commit 1]

theorem handed_out_once_two_queries :
    StepsOK (preKeys (primitives ℕ)).step (fun s m => ¬Republishes s m) (System.idle {})
        twoQueries ∧
      (handedOut (after twoQueries).log).Nodup ∧
      handedOut (after twoQueries).log = [(1, 10, .pub 110), (1, 9, .pub 109)] := by
  have hmoves : StepsOK (preKeys (primitives ℕ)).step (fun s m => ¬Republishes s m)
      (System.idle {}) twoQueries := by decide +kernel
  exact ⟨hmoves, (handed_out_once (primitives ℕ) {} hmoves).final, by decide +kernel⟩

/-- The client publishes the same keys again, and a prekey that was handed out is handed out
again. -/
theorem republished_prekey_handed_out_twice :
    handedOut (after (publishes 0 (publication 1 [9]) ++ queries 1 ++
        publishes 2 (publication 1 [9]) ++ queries 3)).log =
      [(1, 9, .pub 109), (1, 9, .pub 109)] := by
  decide +kernel

end Voicx.Server.PreKeys
