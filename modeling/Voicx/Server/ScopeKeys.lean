import Voicx.Channels.Manager

/-!
# The keys of a scope, with failures and goroutines

The chat key manager (`internal/server/chatkeys.go`) once more, with the key material itself, a
database whose calls can fail, and calls by any number of goroutines at once. A generation of a
scope's key exists three times: wrapped in the table, as the current key of the scope's entry, or in
the entry's archive.

* `KeyDB` — the tables, with their constraints: one row for an id, one live row for a scope.
* `Stage`, `advance` — a call as the sequence of its database calls. The code between two of them
  runs under the scope's mutex and touches nothing else, so it belongs to the call before it.
* `KeyServer`, `KeyServer.step` — goroutines with their calls under way.
* `KeyServer.Inv` — whatever an entry holds for a generation is the key that was persisted for it.
* `keys_never_confused` — **no call ever returns another key than the one first persisted, no id is
  given to two keys, and the archive is what its list says**, in every interleaving.

Source names without a file are from `internal/server/chatkeys.go`.
-/

namespace Voicx.Server.ScopeKeys

open Found Function List
open Channels (Outcome)

/-! ## Key ring and tables -/

/-- The ring of master keys that scope keys are wrapped with.
Source: `internal/chatcrypto/chatcrypto.go`, `Wrap`, `Unwrap` -/
structure KEKRing (Key Wrapped : Type) where
  /-- the id of the newest master key, and the key wrapped under it with a nonce -/
  wrap : Key → ℕ → ℕ × Wrapped
  unwrap : ℕ → Wrapped → Option Key
  /-- what was wrapped can be unwrapped -/
  unwrap_wrap : ∀ key nonce, unwrap (wrap key nonce).1 (wrap key nonce).2 = some key

/-- One persisted generation.
Source: `internal/store/chatkeys.go`, `ScopeKey` -/
structure ScopeKey (Wrapped : Type) where
  keyID : UInt32
  wrapped : Wrapped
  kekID : ℕ
  createdAt : ℕ
  /-- no time means that the generation is live -/
  retiredAt : Option ℕ
  deriving DecidableEq, Repr

/-- The tables `chat_scope_seq` and `chat_scope_keys`. -/
structure KeyDB (Wrapped : Type) where
  /-- the id the next generation of a scope gets -/
  nextKeyID : Int → ℕ
  rows : Int → List (ScopeKey Wrapped)

namespace KeyDB

variable {Wrapped : Type}

def empty : KeyDB Wrapped where
  nextKeyID _ := 1
  rows _ := []

variable (db : KeyDB Wrapped) (scope : Int)

/-- The id, unless it does not fit into 32 bits; the sequence has advanced either way.
Source: `internal/store/chatkeys.go`, `AllocScopeKeyID` -/
def allocScopeKeyID : Option UInt32 × KeyDB Wrapped :=
  (if db.nextKeyID scope < 2 ^ 32 then some (UInt32.ofNat (db.nextKeyID scope)) else none,
    { db with nextKeyID := update db.nextKeyID scope (db.nextKeyID scope + 1) })

/-- Source: `internal/store/chatkeys.go`, `CurrentScopeKey` -/
def currentScopeKey : Option (ScopeKey Wrapped) :=
  (db.rows scope).find? fun row => row.retiredAt.isNone

/-- Source: `internal/store/chatkeys.go`, `GetScopeKey` -/
def getScopeKey (keyID : UInt32) : Option (ScopeKey Wrapped) :=
  (db.rows scope).find? fun row => row.keyID == keyID

/-- Put a live row in front of the rows of a scope, unless the primary key or the index on live rows
forbids it. -/
def addRow (rows : List (ScopeKey Wrapped)) (row : ScopeKey Wrapped) : Option (KeyDB Wrapped) :=
  if rows.any (fun row' => row'.keyID == row.keyID || row'.retiredAt.isNone) then none
  else some { db with rows := update db.rows scope (row :: rows) }

/-- Source: `internal/store/chatkeys.go`, `InsertScopeKey` -/
def insertScopeKey (now : ℕ) (scope : Int) (keyID : UInt32) (wrapped : Wrapped) (kekID : ℕ) :
    Option (KeyDB Wrapped) :=
  db.addRow scope (db.rows scope) ⟨keyID, wrapped, kekID, now, none⟩

/-- The row with a time of retirement. -/
def retire (now : ℕ) (row : ScopeKey Wrapped) : ScopeKey Wrapped :=
  if row.retiredAt.isNone then { row with retiredAt := some now } else row

/-- Retire what is live and install a new generation, in one transaction.
Source: `internal/store/chatkeys.go`, `RotateScopeKey` -/
def rotateScopeKey (now : ℕ) (scope : Int) (newKeyID : UInt32) (wrapped : Wrapped) (kekID : ℕ) :
    Option (KeyDB Wrapped) :=
  db.addRow scope ((db.rows scope).map (retire now)) ⟨newKeyID, wrapped, kekID, now, none⟩

end KeyDB

open KeyDB

open ScopeKeys.ScopeKey

/-! ## The entry of a scope -/

/-- Source: `maxArchivalGenerations` -/
def maxArchivalGenerations : ℕ := 64

/-- The current generation of a scope, with id 0 for none, and an archive of retired ones.
Source: `scopeEntry` -/
structure ScopeEntry (Key : Type) where
  loaded : Bool
  curID : UInt32
  curKey : Key
  old : FMap UInt32 Key
  /-- oldest first -/
  oldLRU : List UInt32

variable {Key Wrapped : Type}

/-- The entry a scope gets at first use.
Source: `entry` -/
def ScopeEntry.new [Inhabited Key] : ScopeEntry Key := ⟨false, 0, default, ∅, []⟩

/-- Drop the oldest generations while there are too many. -/
def evict (old : FMap UInt32 Key) : List UInt32 → FMap UInt32 Key × List UInt32
  | [] => (old, [])
  | id :: rest =>
    if maxArchivalGenerations < (id :: rest).length then evict (old.erase id) rest
    else (old, id :: rest)

/-- Source: `cacheOldLocked` -/
def ScopeEntry.cacheOldLocked (e : ScopeEntry Key) (id : UInt32) (key : Key) : ScopeEntry Key :=
  if id = 0 then e
  else
    let oldLRU := if id ∈ e.old then e.oldLRU else e.oldLRU ++ [id]
    let kept := evict (e.old.insert id key) oldLRU
    { e with old := kept.1, oldLRU := kept.2 }

open ScopeKeys.ScopeEntry

/-! ## Calls -/

/-- A call of the manager. A member's public key that does not decode is `none`. -/
inductive Op
  | ensureScope
  | current
  | atGeneration (gen : UInt32)
  | rotate
  | sealFor (gen : UInt32) (memberPub : Option ℕ)
  deriving DecidableEq, Repr

/-- Why a call failed. -/
inductive KeyError
  /-- `ErrNoScopeKey`, "no chat key generation for this scope" -/
  | noScopeKey
  /-- `errInvalidPublicKey`, "invalid X25519 public key (want 32-byte base64)" -/
  | invalidPublicKey
  /-- "loading scope key", "loading scope key generation" -/
  | load
  /-- "unwrapping scope … generation …" -/
  | unwrap
  /-- "allocating scope key id" -/
  | alloc
  /-- "generating scope key" -/
  | generate
  /-- "wrapping scope key" -/
  | wrap
  /-- "persisting scope key", "rotating scope key" -/
  | persist
  /-- `box.SealAnonymous` failed -/
  | seal
  deriving DecidableEq, Repr

/-- What a call returns. -/
inductive Result (Key : Type)
  | key (gen : UInt32) (key : Key)
  /-- the message of `sealFor`: the key sealed for a public key -/
  | sealed (gen : UInt32) (memberPub : ℕ) (key : Key)
  | error (e : KeyError)
  deriving DecidableEq, Repr

/-- Where a call stands. -/
inductive Stage (Key Wrapped : Type)
  /-- `loadLocked` is next -/
  | load
  /-- `AllocScopeKeyID` is next; a first generation is minted, a later one replaces another -/
  | alloc (mint : Bool)
  /-- `InsertScopeKey` or `RotateScopeKey` is next -/
  | persist (mint : Bool) (id : UInt32) (key : Key) (kekID : ℕ) (wrapped : Wrapped)
  /-- `GetScopeKey` is next -/
  | fetch (gen : UInt32) (memberPub : Option ℕ)
  | done (result : Result Key)
  deriving DecidableEq, Repr

/-- What the world answers to a step: how its database call ends, the time, and what the random
source gives. -/
structure Answer (Key : Type) where
  outcome : Outcome
  now : ℕ
  /-- the bytes of a new key; `none` if the random source failed -/
  key : Option Key
  /-- the nonce to wrap it with; `none` if `Wrap` failed -/
  nonce : Option ℕ
  /-- `box.SealAnonymous` succeeds -/
  sealOK : Bool

/-- A step of a call: the tables, the entry and the stage after it, and what was done. -/
structure Effect (Key Wrapped : Type) where
  db : KeyDB Wrapped
  entry : ScopeEntry Key
  stage : Stage Key Wrapped
  /-- an id was given to a new key -/
  given : Option (UInt32 × Key) := none
  /-- a row was committed -/
  stored : Option (UInt32 × Key) := none

variable (ring : KEKRing Key Wrapped)

/-- Source: `loadLocked` -/
def loadLocked (db : KeyDB Wrapped) (scope : Int) (a : Answer Key) (e : ScopeEntry Key) :
    Except KeyError (ScopeEntry Key) :=
  if e.loaded then .ok e
  else if a.outcome ≠ .ok then .error .load
  else match db.currentScopeKey scope with
    | none => .ok { e with loaded := true }
    | some row =>
      match ring.unwrap row.kekID row.wrapped with
      | none => .error .unwrap
      | some key => .ok { e with curID := row.keyID, curKey := key, loaded := true }

variable (a : Answer Key)

/-- What `at` and `sealFor` return for a key.
Source: `at`, `sealFor` -/
def handOut (gen : UInt32) (key : Key) : Option ℕ → Result Key
  | none => .key gen key
  | some memberPub => if a.sealOK then .sealed gen memberPub key else .error .seal

variable (e : ScopeEntry Key)

/-- Look for a generation in the entry.
Source: `at` -/
def lookUp (gen : UInt32) (memberPub : Option ℕ) : Stage Key Wrapped :=
  if e.curID = gen then .done (handOut a gen e.curKey memberPub)
  else match e.old.lookup gen with
    | some key => .done (handOut a gen key memberPub)
    | none => .fetch gen memberPub

/-- How a call goes on once its scope is loaded.
Source: `EnsureScope`, `current`, `at`, `rotate` -/
def afterLoad : Op → Stage Key Wrapped
  | .ensureScope => if e.curID ≠ 0 then .done (.key e.curID e.curKey) else .alloc true
  | .current => if e.curID = 0 then .done (.error .noScopeKey) else .done (.key e.curID e.curKey)
  | .atGeneration gen => lookUp a e gen none
  | .rotate => .alloc (e.curID = 0)
  | .sealFor gen memberPub => lookUp a e gen memberPub

/-- The stage after an id was asked for.
Source: `mintLocked`, `rotate` -/
def afterAlloc (mint : Bool) (id : Option UInt32) : Stage Key Wrapped :=
  match id, a.key, a.nonce with
  | none, _, _ => .done (.error .alloc)
  | some _, none, _ => .done (.error .generate)
  | some _, some _, none => .done (.error .wrap)
  | some id, some key, some nonce =>
    .persist mint id key (ring.wrap key nonce).1 (ring.wrap key nonce).2

/-- The entry after a new generation was persisted.
Source: `mintLocked`, `rotate` -/
def ScopeEntry.install (mint : Bool) (id : UInt32) (key : Key) : ScopeEntry Key :=
  if mint then { e with curID := id, curKey := key, loaded := true }
  else { e.cacheOldLocked e.curID e.curKey with curID := id, curKey := key }

/-- What the database makes of a new row.
Source: `internal/store/chatkeys.go`, `InsertScopeKey`, `RotateScopeKey` -/
def KeyDB.persist (db : KeyDB Wrapped) (now : ℕ) (scope : Int) (mint : Bool) (id : UInt32)
    (kekID : ℕ) (wrapped : Wrapped) : Option (KeyDB Wrapped) :=
  if mint then db.insertScopeKey now scope id wrapped kekID
  else db.rotateScopeKey now scope id wrapped kekID

/-- One database call of a call, and the code up to the next one. -/
def advance (scope : Int) (op : Op) (a : Answer Key) (db : KeyDB Wrapped) (e : ScopeEntry Key) :
    Stage Key Wrapped → Effect Key Wrapped
  | .load =>
    match loadLocked ring db scope a e with
    | .error err => ⟨db, e, .done (.error err), none, none⟩
    | .ok e => ⟨db, e, afterLoad a e op, none, none⟩
  | .alloc mint =>
    match a.outcome with
    | .failed => ⟨db, e, .done (.error .alloc), none, none⟩
    | .lost => ⟨(db.allocScopeKeyID scope).2, e, .done (.error .alloc), none, none⟩
    | .ok => ⟨(db.allocScopeKeyID scope).2, e,
        afterAlloc ring a mint (db.allocScopeKeyID scope).1,
        (db.allocScopeKeyID scope).1.bind fun id => a.key.map fun key => (id, key), none⟩
  | .persist mint id key kekID wrapped =>
    match db.persist a.now scope mint id kekID wrapped, a.outcome with
    | none, _ | _, .failed => ⟨db, e, .done (.error .persist), none, none⟩
    | some db', .lost => ⟨db', e, .done (.error .persist), none, some (id, key)⟩
    | some db', .ok =>
      ⟨db', e.install mint id key, .done (.key id key), none, some (id, key)⟩
  | .fetch gen memberPub =>
    if a.outcome ≠ .ok then ⟨db, e, .done (.error .load), none, none⟩
    else match db.getScopeKey scope gen with
      | none => ⟨db, e, .done (.error .noScopeKey), none, none⟩
      | some row =>
        match ring.unwrap row.kekID row.wrapped with
        | none => ⟨db, e, .done (.error .unwrap), none, none⟩
        | some key =>
          ⟨db, e.cacheOldLocked gen key, .done (handOut a gen key memberPub), none, none⟩
  | .done result => ⟨db, e, .done result, none, none⟩

section advances

variable (scope : Int) (op : Op) (a : Answer Key) (db : KeyDB Wrapped) (e : ScopeEntry Key)

/-- What a step of a call can do. -/
inductive Advances : Stage Key Wrapped → Effect Key Wrapped → Prop
  | error (stage) (err : KeyError) : Advances stage ⟨db, e, .done (.error err), none, none⟩
  | load {e'} (h : loadLocked ring db scope a e = .ok e') :
    Advances .load ⟨db, e', afterLoad a e' op, none, none⟩
  /-- an error after an id was used up, perhaps for a key -/
  | noRow (mint err given) (h : ∀ x ∈ given, (db.allocScopeKeyID scope).1 = some x.1) :
    Advances (.alloc mint) ⟨(db.allocScopeKeyID scope).2, e, .done (.error err), given, none⟩
  | alloc {id} (mint key nonce) (h : (db.allocScopeKeyID scope).1 = some id) :
    Advances (.alloc mint) ⟨(db.allocScopeKeyID scope).2, e,
      .persist mint id key (ring.wrap key nonce).1 (ring.wrap key nonce).2, some (id, key), none⟩
  /-- the row was committed, and an error came back -/
  | lost {mint id key kekID wrapped db'}
    (h : db.persist a.now scope mint id kekID wrapped = some db') :
    Advances (.persist mint id key kekID wrapped)
      ⟨db', e, .done (.error .persist), none, some (id, key)⟩
  | persist {mint id key kekID wrapped db'}
    (h : db.persist a.now scope mint id kekID wrapped = some db') :
    Advances (.persist mint id key kekID wrapped)
      ⟨db', e.install mint id key, .done (.key id key), none, some (id, key)⟩
  | fetch {gen row key} (memberPub) (hrow : db.getScopeKey scope gen = some row)
    (hkey : ring.unwrap row.kekID row.wrapped = some key) :
    Advances (.fetch gen memberPub)
      ⟨db, e.cacheOldLocked gen key, .done (handOut a gen key memberPub), none, none⟩
  | done (result) : Advances (.done result) ⟨db, e, .done result, none, none⟩

lemma advances (stage : Stage Key Wrapped) :
    Advances ring scope op a db e stage (advance ring scope op a db e stage) := by
  cases stage with
  | load =>
    simp only [advance]
    cases hload : loadLocked ring db scope a e with
    | error err => exact .error .load err
    | ok e' => exact .load hload
  | alloc mint =>
    simp only [advance]
    cases a.outcome with
    | failed => exact .error _ .alloc
    | lost => exact .noRow mint .alloc none nofun
    | ok =>
      simp only [afterAlloc]
      cases hid : (db.allocScopeKeyID scope).1 with
      | none => exact .noRow mint .alloc none nofun
      | some id =>
        cases a.key with
        | none => exact .noRow mint .generate none nofun
        | some key =>
          cases a.nonce with
          | none => exact .noRow mint .wrap (some (id, key)) (by simpa using hid)
          | some nonce => exact .alloc mint key nonce hid
  | persist mint id key kekID wrapped =>
    simp only [advance]
    cases hwrite : db.persist a.now scope mint id kekID wrapped with
    | none => exact .error _ .persist
    | some db' =>
      cases a.outcome with
      | failed => exact .error _ .persist
      | lost => exact .lost hwrite
      | ok => exact .persist hwrite
  | fetch gen memberPub =>
    simp only [advance]
    split_ifs
    · exact .error _ .load
    cases hrow : db.getScopeKey scope gen with
    | none => exact .error _ .noScopeKey
    | some row =>
      cases hkey : ring.unwrap row.kekID row.wrapped with
      | none =>
        simp only [hkey]
        exact .error _ .unwrap
      | some key =>
        simp only [hkey]
        exact .fetch memberPub hrow hkey
  | done result => exact .done result

end advances

/-- What a call returns without taking the mutex.
Source: `at`, `sealFor` -/
def Op.refused : Op → Option KeyError
  | .atGeneration gen => if gen = 0 then some .noScopeKey else none
  | .sealFor gen memberPub =>
    if memberPub.isNone then some .invalidPublicKey
    else if gen = 0 then some .noScopeKey else none
  | _ => none

/-! ## Goroutines -/

/-- A call under way; without a stage it waits for the mutex of its scope. -/
structure Thread (Key Wrapped : Type) where
  scope : Int
  op : Op
  stage : Option (Stage Key Wrapped)

/-- A generation of a scope with its key. -/
structure Held (Key : Type) where
  scope : Int
  gen : UInt32
  key : Key
  deriving DecidableEq, Repr

/-- The manager with the calls of any number of goroutines, and what has happened.
Source: `chatKeyManager` -/
structure KeyServer (Key Wrapped : Type) where
  db : KeyDB Wrapped
  scopes : Int → ScopeEntry Key
  /-- the goroutine that holds the mutex of a scope -/
  holder : Int → Option ℕ
  threads : ℕ → Option (Thread Key Wrapped)
  /-- the keys an id of a scope was given to -/
  given : Int → UInt32 → List Key
  /-- the keys persisted under an id of a scope, first to last -/
  persisted : Int → UInt32 → List Key
  /-- the keys that calls have returned -/
  returned : List (Held Key)

/-- The key persisted for a generation, as the ring reads it. -/
def keyOf (db : KeyDB Wrapped) (scope : Int) (gen : UInt32) : Option Key :=
  (db.getScopeKey scope gen).bind fun row => ring.unwrap row.kekID row.wrapped

/-- Note one more key for an id. -/
def note (history : Int → UInt32 → List Key) (scope : Int) :
    Option (UInt32 × Key) → Int → UInt32 → List Key
  | none => history
  | some (id, key) =>
    update history scope
      (update (history scope) id (history scope id ++ [key]))

/-- The key a result carries. -/
def Result.held (scope : Int) : Result Key → Option (Held Key)
  | .key gen k | .sealed gen _ k => some ⟨scope, gen, k⟩
  | .error _ => none

/-- What can happen next. -/
inductive Move (Key : Type)
  /-- a goroutine calls the manager -/
  | call (thread : ℕ) (scope : Int) (op : Op)
  /-- a waiting goroutine gets the mutex -/
  | lock (thread : ℕ)
  /-- a goroutine makes its next database call -/
  | advance (thread : ℕ) (a : Answer Key)

namespace KeyServer

/-- A server that has just started on a database. -/
def start [Inhabited Key] (db : KeyDB Wrapped) : KeyServer Key Wrapped where
  db := db
  scopes _ := .new
  holder _ := none
  threads _ := none
  given scope gen := (keyOf ring db scope gen).toList
  persisted scope gen := (keyOf ring db scope gen).toList
  returned := []

/-- The calls of a goroutine after a step that led to `stage`; the mutex is given back at the
end. -/
def settle (s : KeyServer Key Wrapped) (thread : ℕ) (th : Thread Key Wrapped) :
    Stage Key Wrapped → KeyServer Key Wrapped
  | .done result =>
    { s with
      threads := update s.threads thread none
      holder := update s.holder th.scope none
      returned := s.returned ++ (result.held th.scope).toList }
  | stage =>
    { s with threads := update s.threads thread (some { th with stage := some stage }) }

/-- One event. What cannot happen changes nothing. -/
def step (s : KeyServer Key Wrapped) : Move Key → KeyServer Key Wrapped
  | .call thread scope op =>
    if (s.threads thread).isNone ∧ op.refused.isNone then
      { s with threads := update s.threads thread (some ⟨scope, op, none⟩) }
    else s
  | .lock thread =>
    match s.threads thread with
    | some ⟨scope, op, none⟩ =>
      if (s.holder scope).isNone then
        { s with
          threads := update s.threads thread (some ⟨scope, op, some .load⟩)
          holder := update s.holder scope (some thread) }
      else s
    | _ => s
  | .advance thread a =>
    match s.threads thread with
    | some ⟨scope, op, some stage⟩ =>
      let f := advance ring scope op a s.db (s.scopes scope) stage
      settle { s with
        db := f.db
        scopes := update s.scopes scope f.entry
        given := note s.given scope f.given
        persisted := note s.persisted scope f.stored } thread ⟨scope, op, some stage⟩ f.stage
    | _ => s

end KeyServer

open KeyServer

/-! ## The archive -/

/-- The list has each id of the archive once, and no more than the archive may hold. -/
structure ArchiveOK (old : FMap UInt32 Key) (oldLRU : List UInt32) : Prop where
  nodup : oldLRU.Nodup
  mem_iff : ∀ id, id ∈ old ↔ id ∈ oldLRU
  length_le : oldLRU.length ≤ maxArchivalGenerations

/-- What eviction leaves: a list that is short enough, the archive for it, and no other key. -/
lemma evict_spec (old : FMap UInt32 Key) (oldLRU : List UInt32) (hnodup : oldLRU.Nodup)
    (hmem : ∀ id, id ∈ old ↔ id ∈ oldLRU) :
    ArchiveOK (evict old oldLRU).1 (evict old oldLRU).2 ∧
      ∀ id key, (evict old oldLRU).1.lookup id = some key → old.lookup id = some key := by
  induction oldLRU generalizing old with
  | nil => exact ⟨⟨hnodup, hmem, Nat.zero_le _⟩, fun _ _ h => h⟩
  | cons id rest ih =>
    rw [evict]
    split_ifs with hlong
    · obtain ⟨hid, hrest⟩ := nodup_cons.mp hnodup
      have hmem' : ∀ id', id' ∈ old.erase id ↔ id' ∈ rest := by
        intro id'
        rw [Finmap.mem_erase, hmem id', mem_cons]
        constructor
        · rintro ⟨hne, heq | hin⟩
          · exact absurd heq hne
          · exact hin
        · intro hin
          exact ⟨fun heq => hid (heq ▸ hin), .inr hin⟩
      obtain ⟨harchive, hlookup⟩ := ih (old.erase id) hrest hmem'
      exact ⟨harchive, fun id' key h => FMap.lookup_of_lookup_erase (hlookup id' key h)⟩
    · exact ⟨⟨hnodup, hmem, Nat.le_of_not_lt hlong⟩, fun _ _ h => h⟩

section cacheOld

variable (e : ScopeEntry Key) (id : UInt32) (key : Key)

@[simp] lemma cacheOldLocked_loaded : (e.cacheOldLocked id key).loaded = e.loaded := by
  unfold cacheOldLocked
  split_ifs <;> rfl

@[simp] lemma cacheOldLocked_curID : (e.cacheOldLocked id key).curID = e.curID := by
  unfold cacheOldLocked
  split_ifs <;> rfl

@[simp] lemma cacheOldLocked_curKey : (e.cacheOldLocked id key).curKey = e.curKey := by
  unfold cacheOldLocked
  split_ifs <;> rfl

variable {e}

/-- Archiving a generation keeps the archive in order and adds nothing else to it. -/
lemma ArchiveOK.cacheOldLocked (h : ArchiveOK e.old e.oldLRU) :
    ArchiveOK (e.cacheOldLocked id key).old (e.cacheOldLocked id key).oldLRU ∧
      ∀ id' key', (e.cacheOldLocked id key).old.lookup id' = some key' →
        (id' = id ∧ id ≠ 0 ∧ key' = key) ∨ e.old.lookup id' = some key' := by
  unfold ScopeEntry.cacheOldLocked
  by_cases hzero : id = 0
  · rw [if_pos hzero]
    exact ⟨h, fun _ _ h => .inr h⟩
  rw [if_neg hzero]
  -- the list before eviction has the ids of the archive before eviction
  have hnodup : (if id ∈ e.old then e.oldLRU else e.oldLRU ++ [id]).Nodup := by
    split_ifs with hin
    · exact h.nodup
    · refine nodup_append.mpr ⟨h.nodup, nodup_singleton id, ?_⟩
      rintro a ha b hb rfl
      rw [mem_singleton] at hb
      exact hin ((h.mem_iff id).mpr (hb ▸ ha))
  have hmem : ∀ id', id' ∈ e.old.insert id key ↔
      id' ∈ if id ∈ e.old then e.oldLRU else e.oldLRU ++ [id] := by
    intro id'
    rw [Finmap.mem_insert, h.mem_iff]
    split_ifs with hin
    · constructor
      · rintro (rfl | hin')
        · exact (h.mem_iff _).mp hin
        · exact hin'
      · exact .inr
    · rw [mem_append, mem_singleton, or_comm]
  obtain ⟨harchive, hlookup⟩ := evict_spec (e.old.insert id key) _ hnodup hmem
  refine ⟨harchive, fun id' key' hk => ?_⟩
  rcases FMap.lookup_insert_eq_some.mp (hlookup id' key' hk) with ⟨heq, rfl⟩ | ⟨-, hold⟩
  · exact .inl ⟨heq, hzero, rfl⟩
  · exact .inr hold

end cacheOld

/-! ## The tables -/

section tables

variable {ring} {db db' : KeyDB Wrapped} {scope : Int} {now kekID : ℕ} {mint : Bool} {id : UInt32}
  {wrapped : Wrapped}

@[simp] lemma keyID_retire (now : ℕ) (row : ScopeKey Wrapped) :
    (retire now row).keyID = row.keyID := by
  unfold retire
  split_ifs <;> rfl

@[simp] lemma unwrap_retire (now : ℕ) (row : ScopeKey Wrapped) :
    ring.unwrap (retire now row).kekID (retire now row).wrapped =
      ring.unwrap row.kekID row.wrapped := by
  unfold retire
  split_ifs <;> rfl

/-- The rows a new one is put in front of. -/
def KeyDB.oldRows (db : KeyDB Wrapped) (now : ℕ) (scope : Int) (mint : Bool) :
    List (ScopeKey Wrapped) :=
  if mint then db.rows scope else (db.rows scope).map (KeyDB.retire now)

/-- **What a write does.** It fails on an id that is taken or on a second live row; otherwise it
puts a live row in front of the others. -/
theorem persist_eq (db : KeyDB Wrapped) (now : ℕ) (scope : Int) (mint : Bool) (id : UInt32)
    (kekID : ℕ) (wrapped : Wrapped) :
    db.persist now scope mint id kekID wrapped =
      if (db.oldRows now scope mint).any
          (fun row => row.keyID == id || row.retiredAt.isNone) then none
      else some { db with
        rows := update db.rows scope
          (⟨id, wrapped, kekID, now, none⟩ :: db.oldRows now scope mint) } := by
  cases mint <;> rfl

/-- A write that goes through. -/
lemma persist_spec (h : db.persist now scope mint id kekID wrapped = some db') :
    db'.nextKeyID = db.nextKeyID ∧
      db'.rows scope = ⟨id, wrapped, kekID, now, none⟩ :: db.oldRows now scope mint ∧
      (∀ sc, sc ≠ scope → db'.rows sc = db.rows sc) ∧
      ∀ row ∈ db.oldRows now scope mint, ¬row.keyID = id ∧ ¬row.retiredAt.isNone = true := by
  rw [persist_eq] at h
  split_ifs at h with hany
  cases h
  refine ⟨rfl, update_self _ _ _, fun sc hsc => update_of_ne hsc _ _, ?_⟩
  intro row hrow
  have hnot : ¬(row.keyID == id || row.retiredAt.isNone) = true := fun h =>
    hany (any_eq_true.mpr ⟨row, hrow, h⟩)
  rw [Bool.or_eq_true, beq_iff_eq, not_or] at hnot
  exact hnot

lemma find?_oldRows (db : KeyDB Wrapped) (now : ℕ) (scope : Int) (mint : Bool) (gen : UInt32) :
    (((db.oldRows now scope mint).find? fun row => row.keyID == gen).bind fun row =>
      ring.unwrap row.kekID row.wrapped) = keyOf ring db scope gen := by
  unfold oldRows keyOf getScopeKey
  cases mint with
  | true => rfl
  | false =>
    rw [if_neg (by decide), List.find?_map]
    simp only [comp_def, keyID_retire]
    cases (db.rows scope).find? fun row => row.keyID == gen with
    | none => rfl
    | some row => exact unwrap_retire now row

/-- The keys after a write. -/
lemma keyOf_persist (h : db.persist now scope mint id kekID wrapped = some db') (sc : Int)
    (gen : UInt32) :
    keyOf ring db' sc gen =
      if sc = scope ∧ gen = id then ring.unwrap kekID wrapped else keyOf ring db sc gen := by
  obtain ⟨-, hrows, hother, -⟩ := persist_spec h
  by_cases hsc : sc = scope
  · subst hsc
    by_cases hgen : gen = id
    · subst hgen
      simp [keyOf, getScopeKey, hrows]
    · have hne : (id == gen) = false := by simpa using Ne.symm hgen
      rw [if_neg fun hand => hgen hand.2, ← find?_oldRows db now sc mint gen]
      simp [keyOf, getScopeKey, hrows, hne]
  · rw [if_neg fun hand => hsc hand.1]
    simp [keyOf, getScopeKey, hother sc hsc]

/-- The id of a write that goes through was not taken. -/
lemma keyOf_eq_none_of_persist (h : db.persist now scope mint id kekID wrapped = some db') :
    keyOf ring db scope id = none := by
  obtain ⟨-, -, -, hfree⟩ := persist_spec h
  rw [← find?_oldRows db now scope mint id]
  have hnone : (db.oldRows now scope mint).find? (fun row => row.keyID == id) = none := by
    rw [List.find?_eq_none]
    intro row hrow hid
    exact (hfree row hrow).1 (beq_iff_eq.mp hid)
  rw [hnone]
  rfl

/-- Where ids are taken once, a row is found under its id. -/
lemma getScopeKey_of_mem (hnodup : ((db.rows scope).map keyID).Nodup)
    {row : ScopeKey Wrapped} (hrow : row ∈ db.rows scope) :
    db.getScopeKey scope row.keyID = some row := by
  unfold getScopeKey
  generalize db.rows scope = rows at *
  induction rows with
  | nil => exact absurd hrow not_mem_nil
  | cons row' rows ih =>
    rw [map_cons, nodup_cons] at hnodup
    rcases mem_cons.mp hrow with rfl | hin
    · simp
    · have hne : row'.keyID ≠ row.keyID := fun heq =>
        hnodup.1 (heq ▸ mem_map_of_mem hin)
      rw [List.find?_cons_of_neg (by simpa using hne)]
      exact ih hnodup.2 hin

/-- The tables as the program leaves them: ids are positive and below the sequence, no id is taken
twice, and a scope has at most one live generation. -/
structure KeyDB.OK (db : KeyDB Wrapped) : Prop where
  next_pos : ∀ scope, 0 < db.nextKeyID scope
  ids : ∀ scope, ∀ row ∈ db.rows scope, row.keyID ≠ 0 ∧ row.keyID.toNat < db.nextKeyID scope
  primaryKey : ∀ scope, ((db.rows scope).map keyID).Nodup
  live : ∀ scope, ((db.rows scope).filter fun row => row.retiredAt.isNone).length ≤ 1

lemma KeyDB.ok_empty : (empty : KeyDB Wrapped).OK where
  next_pos _ := Nat.one_pos
  ids _ _ h := absurd h not_mem_nil
  primaryKey _ := nodup_nil
  live _ := Nat.zero_le _

/-- A write that goes through leaves the tables sound. -/
lemma KeyDB.OK.persist (h : db.OK) (hzero : id ≠ 0) (hid : id.toNat < db.nextKeyID scope)
    (hwrite : db.persist now scope mint id kekID wrapped = some db') : db'.OK := by
  obtain ⟨hnext, hrows, hother, hfree⟩ := persist_spec hwrite
  have hkeys : (db.oldRows now scope mint).map keyID =
      (db.rows scope).map keyID := by
    unfold oldRows
    cases mint <;> simp [comp_def]
  refine ⟨fun sc => by rw [hnext]; exact h.next_pos sc, fun sc row hrow => ?_, fun sc => ?_,
    fun sc => ?_⟩
  · rw [hnext]
    by_cases hsc : sc = scope
    · subst hsc
      rw [hrows] at hrow
      rcases mem_cons.mp hrow with rfl | hin
      · exact ⟨hzero, hid⟩
      · have hkey : row.keyID ∈ (db.rows sc).map keyID :=
          hkeys ▸ mem_map_of_mem hin
        obtain ⟨row', hrow', heq⟩ := mem_map.mp hkey
        rw [← heq]
        exact h.ids sc row' hrow'
    · rw [hother sc hsc] at hrow
      exact h.ids sc row hrow
  · by_cases hsc : sc = scope
    · subst hsc
      rw [hrows, map_cons, nodup_cons, hkeys]
      refine ⟨fun hin => ?_, h.primaryKey sc⟩
      rw [← hkeys] at hin
      obtain ⟨row, hrow, heq⟩ := mem_map.mp hin
      exact (hfree row hrow).1 heq
    · rw [hother sc hsc]
      exact h.primaryKey sc
  · by_cases hsc : sc = scope
    · subst hsc
      have hnone : (db.oldRows now sc mint).filter (fun row => row.retiredAt.isNone) = [] :=
        filter_eq_nil_iff.mpr fun row hrow => (hfree row hrow).2
      rw [hrows, filter_cons_of_pos rfl, hnone]
      exact le_refl 1
    · rw [hother sc hsc]
      exact h.live sc

lemma KeyDB.OK.alloc (h : db.OK) (scope : Int) : (db.allocScopeKeyID scope).2.OK where
  next_pos sc := by
    simp only [allocScopeKeyID, update_apply]
    split_ifs
    · exact Nat.succ_pos _
    · exact h.next_pos sc
  ids sc row hrow := by
    obtain ⟨hpos, hlt⟩ := h.ids sc row hrow
    refine ⟨hpos, ?_⟩
    simp only [allocScopeKeyID, update_apply]
    split_ifs with hsc
    · rw [← hsc]
      omega
    · exact hlt
  primaryKey := h.primaryKey
  live := h.live

end tables

/-! ## Steps and entries -/

section entries

variable {ring} {db : KeyDB Wrapped} {scope : Int} {e : ScopeEntry Key} {a : Answer Key}

variable (ring) in
/-- What an entry holds is what was persisted. -/
structure EntryOK (db : KeyDB Wrapped) (scope : Int) (e : ScopeEntry Key) : Prop where
  cur : e.curID ≠ 0 → keyOf ring db scope e.curID = some e.curKey
  old : ∀ gen key, e.old.lookup gen = some key → keyOf ring db scope gen = some key
  archive : ArchiveOK e.old e.oldLRU

variable (ring) in
/-- What a call carries from one step to the next: an id that was given out, a wrapped key that can
be unwrapped, and in the end the key that was persisted. -/
def StageOK (db : KeyDB Wrapped) (scope : Int) : Stage Key Wrapped → Prop
  | .persist _ id key kekID wrapped =>
    id ≠ 0 ∧ id.toNat < db.nextKeyID scope ∧ ring.unwrap kekID wrapped = some key
  | .done result => ∀ x, result.held scope = some x → keyOf ring db scope x.gen = some x.key
  | _ => True

lemma entryOK_new [Inhabited Key] : EntryOK ring db scope (.new : ScopeEntry Key) where
  cur h := absurd rfl h
  old gen key h := by simp [new] at h
  archive := ⟨nodup_nil, fun id => iff_of_false Finmap.notMem_empty not_mem_nil,
    Nat.zero_le _⟩

/-- Entries stay right when keys are added to the tables. -/
lemma EntryOK.mono {db' : KeyDB Wrapped} (h : EntryOK ring db scope e)
    (hmono : ∀ gen key, keyOf ring db scope gen = some key → keyOf ring db' scope gen = some key) :
    EntryOK ring db' scope e where
  cur hne := hmono _ _ (h.cur hne)
  old gen key hk := hmono _ _ (h.old gen key hk)
  archive := h.archive

variable {id gen : UInt32} {key : Key} {f : Effect Key Wrapped} {sc : Int}

/-- Archiving a generation with its key. -/
lemma EntryOK.cacheOldLocked (h : EntryOK ring db scope e)
    (hkey : id ≠ 0 → keyOf ring db scope id = some key) :
    EntryOK ring db scope (e.cacheOldLocked id key) := by
  obtain ⟨harchive, hlookup⟩ := h.archive.cacheOldLocked id key
  refine ⟨fun hne => ?_, fun gen key' hk => ?_, harchive⟩
  · rw [cacheOldLocked_curID] at hne ⊢
    rw [cacheOldLocked_curKey]
    exact h.cur hne
  · rcases hlookup gen key' hk with ⟨rfl, hzero, rfl⟩ | hold
    · exact hkey hzero
    · exact h.old gen key' hold

/-- The id that is given next. -/
lemma KeyDB.OK.allocScopeKeyID (h : db.OK) (hid : (db.allocScopeKeyID scope).1 = some id) :
    id ≠ 0 ∧ id.toNat = db.nextKeyID scope := by
  have hpos := h.next_pos scope
  simp only [KeyDB.allocScopeKeyID] at hid
  split_ifs at hid with hlt
  cases hid
  have hnat : (UInt32.ofNat (db.nextKeyID scope)).toNat = db.nextKeyID scope := by
    rw [UInt32.toNat_ofNat', Nat.mod_eq_of_lt hlt]
  refine ⟨fun hzero => ?_, hnat⟩
  rw [hzero, UInt32.toNat_zero] at hnat
  omega

/-- What is handed out is what was looked for. -/
lemma held_handOut {memberPub : Option ℕ} {x : Held Key}
    (h : (handOut a gen key memberPub).held scope = some x) : x.gen = gen ∧ x.key = key := by
  cases memberPub with
  | none =>
    cases h
    exact ⟨rfl, rfl⟩
  | some memberPub =>
    rw [handOut] at h
    split_ifs at h
    · cases h
      exact ⟨rfl, rfl⟩
    · cases h

/-- A scope that is loaded was loaded before, or gets what the table has for it. -/
lemma loadLocked_ok {e' : ScopeEntry Key} (h : loadLocked ring db scope a e = .ok e') :
    e.loaded = true ∧ e' = e ∨ e.loaded = false ∧
      (db.currentScopeKey scope = none ∧ e' = { e with loaded := true } ∨
        ∃ row key, db.currentScopeKey scope = some row ∧
          ring.unwrap row.kekID row.wrapped = some key ∧
          e' = { e with curID := row.keyID, curKey := key, loaded := true }) := by
  unfold loadLocked at h
  split_ifs at h with hloaded
  · exact .inl ⟨hloaded, (Except.ok.inj h).symm⟩
  refine .inr ⟨Bool.eq_false_iff.mpr hloaded, ?_⟩
  split at h
  · exact .inl ⟨‹_›, (Except.ok.inj h).symm⟩
  · split at h
    · cases h
    · exact .inr ⟨_, _, ‹_›, ‹_›, (Except.ok.inj h).symm⟩

lemma EntryOK.loadLocked (h : EntryOK ring db scope e) {e' : ScopeEntry Key}
    (hload : loadLocked ring db scope a e = .ok e')
    (hnodup : ((db.rows scope).map keyID).Nodup) : EntryOK ring db scope e' := by
  obtain ⟨-, rfl⟩ | ⟨-, ⟨-, rfl⟩ | ⟨row, key, hrow, hkey, rfl⟩⟩ := loadLocked_ok hload
  · exact h
  · exact ⟨h.cur, h.old, h.archive⟩
  · refine ⟨fun _ => ?_, h.old, h.archive⟩
    rw [keyOf, getScopeKey_of_mem hnodup (mem_of_find?_eq_some hrow)]
    exact hkey

variable (ring) in
/-- What a step of a call does to everything outside the call: sound tables stay sound, keys and ids
are only added, each added key is noted, and an id goes to one key. -/
structure Adds (db : KeyDB Wrapped) (scope : Int) (f : Effect Key Wrapped) : Prop where
  ok : f.db.OK
  next_le : ∀ sc, db.nextKeyID sc ≤ f.db.nextKeyID sc
  stored : ∀ sc gen, keyOf ring f.db sc gen =
    match f.stored with
    | none => keyOf ring db sc gen
    | some (id, key) => if sc = scope ∧ gen = id then some key else keyOf ring db sc gen
  fresh : ∀ id key, f.stored = some (id, key) → keyOf ring db scope id = none
  given : ∀ id key, f.given = some (id, key) →
    id.toNat = db.nextKeyID scope ∧ db.nextKeyID scope < f.db.nextKeyID scope

lemma Adds.refl (h : db.OK) (e : ScopeEntry Key) (stage : Stage Key Wrapped) :
    Adds ring db scope ⟨db, e, stage, none, none⟩ where
  ok := h
  next_le _ := le_refl _
  stored _ _ := rfl
  fresh _ _ h := by cases h
  given _ _ h := by cases h

/-- A row that was committed, whether the caller learns of it or not. -/
lemma Adds.persist {mint : Bool} {kekID now : ℕ} {wrapped : Wrapped} {db' : KeyDB Wrapped}
    (hdb : db.OK) (hstage : StageOK ring db scope (.persist mint id key kekID wrapped))
    (hwrite : db.persist now scope mint id kekID wrapped = some db') (e' : ScopeEntry Key)
    (stage : Stage Key Wrapped) :
    Adds ring db scope ⟨db', e', stage, none, some (id, key)⟩ where
  ok := hdb.persist hstage.1 hstage.2.1 hwrite
  next_le sc := le_of_eq (by rw [(persist_spec hwrite).1])
  stored sc gen := by rw [keyOf_persist hwrite, hstage.2.2]
  fresh id' key' h := by
    obtain ⟨rfl, rfl⟩ := Prod.mk.inj (Option.some.inj h)
    exact keyOf_eq_none_of_persist hwrite
  given _ _ h := by cases h

/-- A key that was persisted stays. -/
lemma Adds.keyOf_mono (h : Adds ring db scope f) (hkey : keyOf ring db sc gen = some key) :
    keyOf ring f.db sc gen = some key := by
  rw [h.stored]
  cases hstored : f.stored with
  | none => exact hkey
  | some p =>
    obtain ⟨id, key'⟩ := p
    dsimp only
    split_ifs with hnew
    · obtain ⟨rfl, rfl⟩ := hnew
      rw [h.fresh gen key' hstored] at hkey
      cases hkey
    · exact hkey

/-- What a step leads to. -/
structure StepOK (ring : KEKRing Key Wrapped) (db : KeyDB Wrapped) (scope : Int)
    (f : Effect Key Wrapped) : Prop where
  adds : Adds ring db scope f
  entry : EntryOK ring f.db scope f.entry
  stage : StageOK ring f.db scope f.stage

section steps

lemma stageOK_error (err : KeyError) :
    StageOK ring db scope (.done (.error err) : Stage Key Wrapped) := by
  intro x hx
  cases hx

variable {op : Op} (he : EntryOK ring db scope e)

include he

lemma stageOK_lookUp {gen : UInt32} (hgen : gen ≠ 0) (memberPub : Option ℕ) :
    StageOK ring db scope (lookUp a e gen memberPub) := by
  unfold lookUp
  split_ifs with hcur
  · intro x hx
    obtain ⟨hgen', hkey⟩ := held_handOut hx
    subst hcur
    rw [hgen', hkey]
    exact he.cur hgen
  · cases hold : e.old.lookup gen with
    | none => trivial
    | some key =>
      intro x hx
      obtain ⟨hgen', hkey⟩ := held_handOut hx
      rw [hgen', hkey]
      exact he.old gen key hold

lemma stageOK_current (hcur : e.curID ≠ 0) :
    StageOK ring db scope (.done (.key e.curID e.curKey) : Stage Key Wrapped) := by
  intro x hx
  cases hx
  exact he.cur hcur

/-- What a call carries once its scope is loaded. -/
lemma stageOK_afterLoad (hop : op.refused = none) :
    StageOK ring db scope (afterLoad a e op : Stage Key Wrapped) := by
  cases op with
  | ensureScope =>
    simp only [afterLoad]
    split_ifs with hcur
    · exact stageOK_current he hcur
    · trivial
  | current =>
    simp only [afterLoad]
    split_ifs with hcur
    · exact stageOK_error .noScopeKey
    · exact stageOK_current he hcur
  | atGeneration gen =>
    refine stageOK_lookUp he (fun hzero => ?_) none
    simp [Op.refused, hzero] at hop
  | rotate => trivial
  | sealFor gen memberPub =>
    refine stageOK_lookUp he (fun hzero => ?_) memberPub
    cases memberPub <;> simp [Op.refused, hzero] at hop

variable (hdb : db.OK)

include hdb

/-- A step that asks for an id. -/
lemma stepOK_alloc {given : Option (UInt32 × Key)} {stage : Stage Key Wrapped}
    (hgiven : ∀ x ∈ given, (db.allocScopeKeyID scope).1 = some x.1)
    (hstage : StageOK ring (db.allocScopeKeyID scope).2 scope stage) :
    StepOK ring db scope ⟨(db.allocScopeKeyID scope).2, e, stage, given, none⟩ where
  adds :=
    { ok := hdb.alloc scope
      next_le := fun sc => by
        simp only [allocScopeKeyID, update_apply]
        split_ifs with hsc
        · rw [hsc]
          omega
        · exact le_refl _
      stored := fun _ _ => rfl
      fresh := fun _ _ h => by cases h
      given := fun id key h => by
        refine ⟨(hdb.allocScopeKeyID (hgiven (id, key) h)).2, ?_⟩
        simp [allocScopeKeyID] }
  entry := he.mono fun _ _ h => h
  stage := hstage

/-- **Every step of a call** keeps the tables sound, adds to them only what is noted, and leaves the
entry and the call with keys that were persisted. -/
theorem stepOK_advance {stage : Stage Key Wrapped} (hf : Advances ring scope op a db e stage f)
    (hop : op.refused = none) (hstage : StageOK ring db scope stage) : StepOK ring db scope f := by
  cases hf with
  | error stage err => exact ⟨.refl hdb _ _, he, stageOK_error err⟩
  | load hload =>
    have he' := he.loadLocked hload (hdb.primaryKey scope)
    exact ⟨.refl hdb _ _, he', stageOK_afterLoad he' hop⟩
  | noRow mint err given hgiven => exact stepOK_alloc he hdb hgiven (stageOK_error err)
  | alloc mint key nonce hid =>
    obtain ⟨hzero, hnat⟩ := hdb.allocScopeKeyID hid
    refine stepOK_alloc he hdb (by simpa using hid) ⟨hzero, ?_, ring.unwrap_wrap key nonce⟩
    simp [allocScopeKeyID, hnat]
  | lost hwrite =>
    have hadds := Adds.persist hdb hstage hwrite
    exact ⟨hadds _ _, he.mono fun _ _ => (hadds e .load).keyOf_mono, stageOK_error .persist⟩
  | @persist _ id key _ _ db' hwrite =>
    have hadds := Adds.persist hdb hstage hwrite
    have he' := he.mono fun _ _ => (hadds e .load).keyOf_mono
    have hnew : keyOf ring db' scope id = some key := by
      rw [keyOf_persist hwrite, if_pos ⟨rfl, rfl⟩, hstage.2.2]
    refine ⟨hadds _ _, ?_, fun x hx => ?_⟩
    · have hcache := he'.cacheOldLocked he'.cur
      unfold install
      split_ifs
      · exact ⟨fun _ => hnew, he'.old, he'.archive⟩
      · exact ⟨fun _ => hnew, hcache.old, hcache.archive⟩
    · cases hx
      exact hnew
  | @fetch gen row key memberPub hrow hkey =>
    have hkeyOf : keyOf ring db scope gen = some key :=
      Option.bind_eq_some_iff.mpr ⟨row, hrow, hkey⟩
    refine ⟨.refl hdb _ _, he.cacheOldLocked fun _ => hkeyOf, fun x hx => ?_⟩
    obtain ⟨hgen', hkey'⟩ := held_handOut hx
    rw [hgen', hkey']
    exact hkeyOf
  | done result => exact ⟨.refl hdb _ _, he, hstage⟩

end steps

/-- What a call carries stays right when another call makes a step. -/
lemma Adds.stageOK_mono (h : Adds ring db scope f) {stage : Stage Key Wrapped}
    (hstage : StageOK ring db sc stage) : StageOK ring f.db sc stage := by
  cases stage with
  | persist mint id key kekID wrapped =>
    exact ⟨hstage.1, lt_of_lt_of_le hstage.2.1 (h.next_le sc), hstage.2.2⟩
  | done result => exact fun x hx => h.keyOf_mono (hstage x hx)
  | load | alloc mint | fetch gen memberPub => trivial

end entries

/-! ## Runs -/

section runs

variable {ring} {s : KeyServer Key Wrapped}

lemma note_apply (history : Int → UInt32 → List Key) (scope sc : Int) (id gen : UInt32)
    (key : Key) :
    note history scope (some (id, key)) sc gen =
      if sc = scope ∧ gen = id then history sc gen ++ [key] else history sc gen := by
  unfold note
  by_cases hsc : sc = scope
  · subst hsc
    by_cases hgen : gen = id
    · subst hgen
      simp
    · simp [hgen]
  · simp [hsc]

variable (ring) in
/-- A call under way is one that takes the mutex, and what it carries is right. -/
def ThreadOK (db : KeyDB Wrapped) (th : Thread Key Wrapped) : Prop :=
  th.op.refused = none ∧ ∀ stage, th.stage = some stage → StageOK ring db th.scope stage

namespace KeyServer

variable (ring) in
/-- Tables, entries, calls under way and history agree. -/
structure Inv (s : KeyServer Key Wrapped) : Prop where
  db : s.db.OK
  entry : ∀ scope, EntryOK ring s.db scope (s.scopes scope)
  thread : ∀ t th, s.threads t = some th → ThreadOK ring s.db th
  given_le : ∀ scope gen, (s.given scope gen).length ≤ 1
  given_next : ∀ scope gen, s.db.nextKeyID scope ≤ gen.toNat → s.given scope gen = []
  persisted : ∀ scope gen, s.persisted scope gen = (keyOf ring s.db scope gen).toList
  returned : ∀ x ∈ s.returned, keyOf ring s.db x.scope x.gen = some x.key

lemma inv_start [Inhabited Key] {db : KeyDB Wrapped} (hdb : db.OK) : (start ring db).Inv ring where
  db := hdb
  entry _ := entryOK_new
  thread t th h := by cases h
  given_le scope gen := by
    show (keyOf ring db scope gen).toList.length ≤ 1
    cases keyOf ring db scope gen <;> simp
  given_next scope gen hle := by
    -- no row has an id that the sequence has not reached
    have hnone : db.getScopeKey scope gen = none := by
      rw [getScopeKey, List.find?_eq_none]
      intro row hrow hid
      have hlt := (hdb.ids scope row hrow).2
      rw [beq_iff_eq.mp hid] at hlt
      exact absurd hlt (Nat.not_lt.mpr hle)
    show (keyOf ring db scope gen).toList = []
    rw [keyOf, hnone]
    rfl
  persisted _ _ := rfl
  returned x hx := absurd hx not_mem_nil

variable (h : s.Inv ring)

include h

/-- The invariant after a step of one call, before its goroutine is looked at. -/
theorem Inv.effect {scope : Int} {f : Effect Key Wrapped} (hf : StepOK ring s.db scope f) :
    Inv ring { s with
      db := f.db
      scopes := update s.scopes scope f.entry
      given := note s.given scope f.given
      persisted := note s.persisted scope f.stored } where
  db := hf.adds.ok
  entry sc := by
    dsimp only
    rw [update_apply]
    split_ifs with hsc
    · rw [hsc]
      exact hf.entry
    · exact (h.entry sc).mono fun _ _ => hf.adds.keyOf_mono
  thread t th hth := by
    obtain ⟨hop, hstage⟩ := h.thread t th hth
    exact ⟨hop, fun stage hs => hf.adds.stageOK_mono (hstage stage hs)⟩
  given_le sc gen := by
    dsimp only
    cases hgiven : f.given with
    | none => exact h.given_le sc gen
    | some p =>
      obtain ⟨id, key⟩ := p
      rw [note_apply]
      split_ifs with hnew
      · -- the id comes from the sequence, so it was given to nothing yet
        obtain ⟨rfl, rfl⟩ := hnew
        rw [h.given_next sc gen (le_of_eq (hf.adds.given gen key hgiven).1.symm)]
        exact le_refl 1
      · exact h.given_le sc gen
  given_next sc gen hle := by
    dsimp only at hle ⊢
    have hold := h.given_next sc gen ((hf.adds.next_le sc).trans hle)
    cases hgiven : f.given with
    | none => exact hold
    | some p =>
      obtain ⟨id, key⟩ := p
      rw [note_apply, if_neg]
      · exact hold
      · rintro ⟨rfl, rfl⟩
        obtain ⟨hid, hlt⟩ := hf.adds.given gen key hgiven
        omega
  persisted sc gen := by
    dsimp only
    rw [hf.adds.stored]
    cases hstored : f.stored with
    | none => exact h.persisted sc gen
    | some p =>
      obtain ⟨id, key⟩ := p
      rw [note_apply]
      dsimp only
      split_ifs with hnew
      · obtain ⟨rfl, rfl⟩ := hnew
        rw [h.persisted, hf.adds.fresh gen key hstored]
        rfl
      · exact h.persisted sc gen
  returned x hx := hf.adds.keyOf_mono (h.returned x hx)

/-- The invariant with another call in a goroutine, or with none. -/
lemma Inv.withThread (t : ℕ) {th : Option (Thread Key Wrapped)}
    (hth : ∀ th', th = some th' → ThreadOK ring s.db th') (holder : Int → Option ℕ)
    {returned : List (Held Key)}
    (hreturned : ∀ x ∈ returned, keyOf ring s.db x.scope x.gen = some x.key) :
    Inv ring { s with
      threads := update s.threads t th
      holder := holder
      returned := returned } where
  db := h.db
  entry := h.entry
  thread t' th' hlookup := by
    dsimp only at hlookup
    rw [update_apply] at hlookup
    split_ifs at hlookup
    · exact hth th' hlookup
    · exact h.thread t' th' hlookup
  given_le := h.given_le
  given_next := h.given_next
  persisted := h.persisted
  returned := hreturned

/-- A goroutine goes on, or returns what it found. -/
lemma Inv.settle (t : ℕ) {th : Thread Key Wrapped} (hop : th.op.refused = none)
    {stage : Stage Key Wrapped} (hstage : StageOK ring s.db th.scope stage) :
    (s.settle t th stage).Inv ring := by
  have hgoes : Inv ring { s with
      threads := update s.threads t (some { th with stage := some stage }) } := by
    refine h.withThread t (fun th' hth' => ?_) s.holder h.returned
    cases hth'
    exact ⟨hop, fun stage' hs => Option.some.inj hs ▸ hstage⟩
  cases stage with
  | done result =>
    refine h.withThread t (fun th' hth' => by cases hth') _ fun x hx => ?_
    rcases mem_append.mp hx with hold | hnew
    · exact h.returned x hold
    have hheld : result.held th.scope = some x := Option.mem_toList.mp hnew
    have hscope : x.scope = th.scope := by
      cases result with
      | error e => cases hheld
      | key gen k | sealed gen memberPub k => rw [← Option.some.inj hheld]
    rw [hscope]
    exact hstage x hheld
  | load | alloc mint | persist mint id key kekID wrapped | fetch gen memberPub => exact hgoes

/-- Every event keeps the invariant. -/
theorem Inv.step (move : Move Key) : (s.step ring move).Inv ring := by
  cases move with
  | call t scope op =>
    simp only [KeyServer.step]
    split_ifs with hidle
    · refine h.withThread t (fun th' hth' => ?_) s.holder h.returned
      cases hth'
      exact ⟨Option.isNone_iff_eq_none.mp hidle.2, fun stage hs => by cases hs⟩
    · exact h
  | lock t =>
    simp only [KeyServer.step]
    split
    next scope op hth =>
      split_ifs
      · refine h.withThread t (fun th' hth' => ?_) _ h.returned
        cases hth'
        refine ⟨(h.thread t _ hth).1, fun stage hs => ?_⟩
        rw [← Option.some.inj hs]
        trivial
      · exact h
    next => exact h
  | advance t a =>
    simp only [KeyServer.step]
    split
    next scope op stage hth =>
      obtain ⟨hop, hstage⟩ := h.thread t _ hth
      have hf := stepOK_advance (h.entry scope) h.db (advances ring scope op a ..) hop
        (hstage stage rfl)
      exact (h.effect hf).settle t hop hf.stage
    next => exact h

end KeyServer

/-- **Scope keys are never confused.** On any database the program has left behind, in every
interleaving of calls by any number of goroutines, however the calls of the database end: every key
that a call has returned for a generation is the one that was persisted for it first; no id was
given to two keys; and the archive of every scope holds exactly the ids of its list, each once and
no more than `maxArchivalGenerations`. -/
theorem keys_never_confused [Inhabited Key] (ring : KEKRing Key Wrapped) {db : KeyDB Wrapped}
    (hdb : db.OK) (moves : List (Move Key)) :
    Throughout (step ring)
      (fun s =>
        (∀ x ∈ s.returned, (s.persisted x.scope x.gen).head? = some x.key) ∧
        (∀ scope gen, (s.given scope gen).length ≤ 1) ∧
        ∀ scope, ArchiveOK (s.scopes scope).old (s.scopes scope).oldLRU)
      (start ring db) moves := by
  have hstep : ∀ (s : KeyServer Key Wrapped) move, s.Inv ring → (s.step ring move).Inv ring :=
    fun s move h => h.step move
  have hinv := throughout_of_step hstep (inv_start hdb) moves
  refine hinv.mono fun s h => ⟨fun x hx => ?_, h.given_le, fun scope => (h.entry scope).archive⟩
  rw [h.persisted, h.returned x hx]
  rfl

/-- A ring that wraps nothing. -/
def plainRing : KEKRing ℕ ℕ where
  wrap key _ := (1, key)
  unwrap _ wrapped := some wrapped
  unwrap_wrap _ _ := rfl

/-- A goroutine rotates the key that another one is minting, and both generations are read. -/
theorem keys_never_confused_mint_and_rotate :
    let answer : ℕ → Answer ℕ := fun key => ⟨.ok, 0, some key, some 0, true⟩
    let moves : List (Move ℕ) :=
      [.call 0 5 .ensureScope, .lock 0, .call 1 5 .rotate, .advance 0 (answer 0), .lock 1,
        .advance 0 (answer 11), .advance 0 (answer 0), .lock 1, .advance 1 (answer 0),
        .advance 1 (answer 22), .advance 1 (answer 0), .call 0 5 (.atGeneration 1), .lock 0,
        .advance 0 (answer 0)]
    let s := run (step plainRing) (start plainRing empty) moves
    s.returned = [⟨5, 1, 11⟩, ⟨5, 2, 22⟩, ⟨5, 1, 11⟩] ∧
      ∀ x ∈ s.returned, (s.persisted x.scope x.gen).head? = some x.key := by
  intro answer moves
  have hall := (keys_never_confused plainRing ok_empty moves).final
  refine ⟨by decide +kernel, ?_⟩
  exact hall.1

end runs

end Voicx.Server.ScopeKeys
