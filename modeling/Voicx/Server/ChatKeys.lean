import Mathlib.Tactic

/-!
# Generations of chat keys

Model of the chat key manager (`internal/server/chatkeys.go`) over its tables
(`internal/store/chatkeys.go`), with a store that does not fail. A generation stands for its key
material: two generations are told apart by their ids, which the database hands out.

* `ScopeKey`, `KeyStore` — the persisted generations of each scope and the id sequence.
* `ScopeEntry`, `ChatKeyManager` — the cache of a scope over the store.
* `ensureScope`, `current`, `atGeneration`, `rotate` — the operations, each under the scope's mutex.
* `KeyLedger` — what the manager is for: per scope the live generation, and when each was minted.
* `KeysOK` — the cache agrees with the store and ids are handed out once.
* `KeysOK.rotate`, `KeysOK.ensureScope`, `KeysOK.current`, `KeysOK.atGeneration` — the operations on
  the ledger; cache and tables do not show.

Source names without a file are from `internal/server/chatkeys.go`.
-/

namespace Voicx.Server

/-! ## The tables -/

/-- One persisted generation. `createdAt` is the moment it was minted; no `retiredAt` means current.
Source: `internal/store/chatkeys.go`, `ScopeKey` -/
structure ScopeKey where
  keyID : Nat
  createdAt : Nat
  retiredAt : Option Nat := none
  deriving DecidableEq, Repr

/-- The tables `chat_scope_seq` and `chat_scope_keys`. -/
structure KeyStore where
  /-- the id the next generation of a scope gets -/
  nextKeyID : Int → Nat
  rows : Int → List ScopeKey

namespace KeyStore

def empty : KeyStore where
  nextKeyID := fun _ => 1
  rows := fun _ => []

variable (st : KeyStore)

/-- Source: `internal/store/chatkeys.go`, `AllocScopeKeyID` -/
def allocScopeKeyID (scope : Int) : Nat × KeyStore :=
  (st.nextKeyID scope,
    { st with nextKeyID := Function.update st.nextKeyID scope (st.nextKeyID scope + 1) })

/-- Source: `internal/store/chatkeys.go`, `CurrentScopeKey` -/
def currentScopeKey (scope : Int) : Option ScopeKey :=
  (st.rows scope).find? fun k => k.retiredAt.isNone

/-- Source: `internal/store/chatkeys.go`, `GetScopeKey` -/
def getScopeKey (scope : Int) (keyID : Nat) : Option ScopeKey :=
  (st.rows scope).find? fun k => k.keyID == keyID

/-- Source: `internal/store/chatkeys.go`, `InsertScopeKey` -/
def insertScopeKey (now : Nat) (scope : Int) (keyID : Nat) : KeyStore :=
  { st with rows := Function.update st.rows scope (⟨keyID, now, none⟩ :: st.rows scope) }

/-- Retire the current generation and install a new one, in one transaction.
Source: `internal/store/chatkeys.go`, `RotateScopeKey` -/
def rotateScopeKey (now : Nat) (scope : Int) (newKeyID : Nat) : KeyStore :=
  { st with
    rows := Function.update st.rows scope
      (⟨newKeyID, now, none⟩ :: (st.rows scope).map fun k =>
        if k.retiredAt.isNone then { k with retiredAt := some now } else k) }

end KeyStore

/-! ## The manager -/

/-- The cached current generation of a scope, 0 for none, and recently touched archival ones.
Source: `scopeEntry` -/
structure ScopeEntry where
  loaded : Bool := false
  curID : Nat := 0
  /-- oldest first -/
  old : List Nat := []
  deriving DecidableEq, Repr

/-- Source: `chatKeyManager` -/
structure ChatKeyManager where
  scopes : Int → ScopeEntry
  store : KeyStore

/-- Source: `maxArchivalGenerations` -/
def maxArchivalGenerations : Nat := 64

namespace ChatKeyManager

/-- A manager that has cached nothing. -/
def fresh (st : KeyStore) : ChatKeyManager where
  scopes := fun _ => {}
  store := st

variable (m : ChatKeyManager) (scope : Int)

def setEntry (e : ScopeEntry) : ChatKeyManager :=
  { m with scopes := Function.update m.scopes scope e }

/-- Source: `loadLocked` -/
def loadLocked : ChatKeyManager :=
  if (m.scopes scope).loaded then m
  else match m.store.currentScopeKey scope with
    | none => m.setEntry scope { m.scopes scope with loaded := true }
    | some row => m.setEntry scope { m.scopes scope with curID := row.keyID, loaded := true }

/-- Source: `mintLocked` -/
def mintLocked (now : Nat) (scope : Int) : Nat × ChatKeyManager :=
  let (id, st) := m.store.allocScopeKeyID scope
  (id, { m with store := st.insertScopeKey now scope id }.setEntry scope
    { m.scopes scope with curID := id, loaded := true })

/-- Source: `cacheOldLocked` -/
def cacheOldLocked (e : ScopeEntry) (id : Nat) : ScopeEntry :=
  if id = 0 ∨ id ∈ e.old then e
  else
    let old := e.old ++ [id]
    { e with old := old.drop (old.length - maxArchivalGenerations) }

/-- The scope's current generation, minted when it has none.
Source: `EnsureScope` -/
def ensureScope (now : Nat) (scope : Int) : Nat × ChatKeyManager :=
  let m := m.loadLocked scope
  if (m.scopes scope).curID ≠ 0 then ((m.scopes scope).curID, m) else m.mintLocked now scope

/-- The scope's current generation; never mints. `seal` encrypts under it.
Source: `current` -/
def current : Option Nat × ChatKeyManager :=
  let m := m.loadLocked scope
  (if (m.scopes scope).curID = 0 then none else some (m.scopes scope).curID, m)

/-- Is this a generation of the scope? Never mints. `sealFor` seals it, `open` decrypts under it.
Source: `at` -/
def atGeneration (gen : Nat) : Bool × ChatKeyManager :=
  if gen = 0 then (false, m)
  else
    let m := m.loadLocked scope
    if (m.scopes scope).curID = gen ∨ gen ∈ (m.scopes scope).old then (true, m)
    else match m.store.getScopeKey scope gen with
      | none => (false, m)
      | some _ => (true, m.setEntry scope (cacheOldLocked (m.scopes scope) gen))

/-- Replace the scope's key with a fresh generation.
Source: `rotate` -/
def rotate (now : Nat) (scope : Int) : Nat × ChatKeyManager :=
  let m := m.loadLocked scope
  if (m.scopes scope).curID = 0 then m.mintLocked now scope
  else
    let (id, st) := m.store.allocScopeKeyID scope
    (id, { m with store := st.rotateScopeKey now scope id }.setEntry scope
      { cacheOldLocked (m.scopes scope) (m.scopes scope).curID with curID := id })

end ChatKeyManager

open ChatKeyManager Function List

/-! ## The ledger -/

/-- The generations of every scope: the live one, and the moment each was minted. -/
@[ext] structure KeyLedger where
  live : Int → Option Nat
  born : Int → Nat → Option Nat

/-- A new generation becomes the live one. -/
def KeyLedger.mint (l : KeyLedger) (now : Nat) (scope : Int) (id : Nat) : KeyLedger where
  live := update l.live scope (some id)
  born := update l.born scope (update (l.born scope) id (some now))

lemma KeyLedger.live_mint (l : KeyLedger) (now : Nat) (scope : Int) (id : Nat) (sc : Int) :
    (l.mint now scope id).live sc = if sc = scope then some id else l.live sc :=
  update_apply ..

lemma KeyLedger.born_mint (l : KeyLedger) (now : Nat) (scope : Int) (id : Nat) (sc : Int)
    (i : Nat) : (l.mint now scope id).born sc i =
      if sc = scope ∧ i = id then some now else l.born sc i := by
  by_cases hsc : sc = scope
  · subst hsc
    simp [KeyLedger.mint, update_apply]
  · simp [KeyLedger.mint, hsc]

/-- What is minted now is in the past of every later moment, as what was minted before is. -/
lemma KeyLedger.born_mint_lt {l : KeyLedger} {now : Nat} {scope : Int} {id : Nat}
    (h : ∀ sc i t, l.born sc i = some t → t < now) {sc : Int} {i t : Nat}
    (ht : (l.mint now scope id).born sc i = some t) : t < now + 1 := by
  rw [KeyLedger.born_mint] at ht
  split_ifs at ht
  · exact Option.some.inj ht ▸ Nat.lt_succ_self _
  · exact Nat.lt_succ_of_lt (h sc i t ht)

/-- The ledger the tables hold. -/
def KeyStore.ledger (st : KeyStore) : KeyLedger where
  live scope := (st.currentScopeKey scope).map ScopeKey.keyID
  born scope id := (st.getScopeKey scope id).map ScopeKey.createdAt

/-- The ledger behind a manager. -/
def ChatKeyManager.ledger (m : ChatKeyManager) : KeyLedger := m.store.ledger

/-- Ids are positive, handed out once, and a live generation exists under its id. -/
structure KeyStore.OK (st : KeyStore) : Prop where
  next_pos : ∀ scope, 0 < st.nextKeyID scope
  ids : ∀ scope, ∀ row ∈ st.rows scope, 0 < row.keyID ∧ row.keyID < st.nextKeyID scope

/-- The tables are sound, what is cached is what the tables hold, and a scope that was not loaded
has no cached generation. -/
structure KeysOK (m : ChatKeyManager) : Prop where
  store : m.store.OK
  loaded : ∀ scope, (m.scopes scope).loaded = true →
    (m.scopes scope).curID = (m.ledger.live scope).getD 0
  unloaded : ∀ scope, (m.scopes scope).loaded = false → (m.scopes scope).curID = 0
  old : ∀ scope, ∀ id ∈ (m.scopes scope).old, (m.ledger.born scope id).isSome = true

lemma keysOK_fresh : KeysOK (fresh KeyStore.empty) where
  store := ⟨fun _ => Nat.one_pos, fun _ _ h => absurd h not_mem_nil⟩
  loaded scope h := by simp [fresh] at h
  unloaded scope _ := rfl
  old scope id h := by simp [fresh] at h

open KeyLedger

/-! ### The tables and the ledger -/

section store

variable {st : KeyStore} {scope : Int} {id : Nat}

lemma KeyStore.OK.live_ne_zero (h : st.OK) (hlive : st.ledger.live scope = some id) : id ≠ 0 := by
  obtain ⟨row, hrow, rfl⟩ := Option.map_eq_some_iff.mp hlive
  exact (h.ids scope row (mem_of_find?_eq_some hrow)).1.ne'

/-- A live generation was minted at some moment. -/
lemma KeyStore.born_of_live (hlive : st.ledger.live scope = some id) :
    (st.ledger.born scope id).isSome = true := by
  obtain ⟨row, hrow, rfl⟩ := Option.map_eq_some_iff.mp hlive
  simp only [KeyStore.ledger, KeyStore.getScopeKey, Option.isSome_map, List.find?_isSome]
  exact ⟨row, mem_of_find?_eq_some hrow, by simp⟩

/-- The next id is not taken. -/
lemma KeyStore.OK.born_next (h : st.OK) : st.ledger.born scope (st.nextKeyID scope) = none := by
  simp only [KeyStore.ledger, KeyStore.getScopeKey, Option.map_eq_none_iff, List.find?_eq_none]
  intro row hrow
  simpa using (h.ids scope row hrow).2.ne

variable {st' : KeyStore} {now : Nat} {f : ScopeKey → ScopeKey}

/-- The tables after a mint: the new row in front of the old ones, which keep their ids. -/
lemma ledger_of_cons (hid : ∀ k, (f k).keyID = k.keyID)
    (hcreated : ∀ k, (f k).createdAt = k.createdAt)
    (hrows : st'.rows = update st.rows scope (⟨id, now, none⟩ :: (st.rows scope).map f)) :
    st'.ledger = st.ledger.mint now scope id := by
  ext1
  · funext sc
    by_cases hsc : sc = scope
    · subst hsc
      simp [KeyStore.ledger, KeyStore.currentScopeKey, mint, hrows]
    · simp [KeyStore.ledger, KeyStore.currentScopeKey, mint, hrows, hsc]
  funext sc i
  by_cases hsc : sc = scope
  · subst hsc
    have hfind : ((st.rows sc).map f).find? (fun k => k.keyID == i) =
        ((st.rows sc).find? fun k => k.keyID == i).map f := by
      rw [List.find?_map]
      congr 2
      funext k
      simp [hid]
    by_cases hi : i = id
    · subst hi
      simp [KeyStore.ledger, KeyStore.getScopeKey, mint, hrows]
    · have hne : (id == i) = false := by simpa using Ne.symm hi
      simp [KeyStore.ledger, KeyStore.getScopeKey, mint, hrows, hne, hfind,
        hi, comp_def, hcreated]
  · simp [KeyStore.ledger, KeyStore.getScopeKey, mint, hrows, hsc]

lemma KeyStore.OK.mint (h : st.OK) (hid : ∀ k, (f k).keyID = k.keyID)
    (hnext : st'.nextKeyID = update st.nextKeyID scope (st.nextKeyID scope + 1))
    (hrows : st'.rows = update st.rows scope
      (⟨st.nextKeyID scope, now, none⟩ :: (st.rows scope).map f)) : st'.OK := by
  refine ⟨fun sc => ?_, fun sc row hrow => ?_⟩
  · by_cases hsc : sc = scope
    · simp [hnext, hsc]
    · simpa [hnext, hsc] using h.next_pos sc
  by_cases hsc : sc = scope
  · subst hsc
    simp only [hrows, update_self, mem_cons, mem_map] at hrow
    rw [hnext, update_self]
    rcases hrow with rfl | ⟨k, hk, rfl⟩
    · exact ⟨h.next_pos sc, Nat.lt_succ_self _⟩
    · rw [hid]
      exact ⟨(h.ids sc k hk).1, Nat.lt_succ_of_lt (h.ids sc k hk).2⟩
  · rw [hrows, update_of_ne hsc] at hrow
    rw [hnext, update_of_ne hsc]
    exact h.ids sc row hrow

end store

/-! ### The cache and the ledger -/

section manager

variable {m : ChatKeyManager} {scope : Int} {now id i : Nat} {e : ScopeEntry}

@[simp] lemma loadLocked_store : (m.loadLocked scope).store = m.store := by
  unfold loadLocked
  split_ifs
  · rfl
  · cases m.store.currentScopeKey scope <;> rfl

/-- Writing an entry that agrees with the tables. -/
lemma KeysOK.setEntry (h : KeysOK m) (hloaded : e.loaded = true)
    (hcur : e.curID = (m.ledger.live scope).getD 0)
    (hold : ∀ id ∈ e.old, (m.ledger.born scope id).isSome = true) :
    KeysOK (m.setEntry scope e) := by
  have hsame : ∀ sc, (m.setEntry scope e).scopes sc = if sc = scope then e else m.scopes sc :=
    fun sc => Function.update_apply ..
  refine ⟨h.store, fun sc hsc => ?_, fun sc hsc => ?_, fun sc id hid => ?_⟩
  · rw [hsame] at hsc ⊢
    split_ifs with heq
    · exact heq ▸ hcur
    · exact h.loaded sc (by rwa [if_neg heq] at hsc)
  · rw [hsame] at hsc ⊢
    split_ifs at hsc ⊢ with heq
    · simp [hloaded] at hsc
    · exact h.unloaded sc hsc
  · rw [hsame] at hid
    split_ifs at hid with heq
    · exact heq ▸ hold id hid
    · exact h.old sc id hid

lemma KeysOK.loadLocked (h : KeysOK m) (scope : Int) : KeysOK (m.loadLocked scope) := by
  unfold ChatKeyManager.loadLocked
  split_ifs with hloaded
  · exact h
  cases hrow : m.store.currentScopeKey scope with
  | none =>
    refine h.setEntry rfl ?_ (h.old scope)
    simpa [ledger, KeyStore.ledger, hrow] using h.unloaded scope (by simpa using hloaded)
  | some row =>
    refine h.setEntry rfl ?_ (h.old scope)
    simp [ledger, KeyStore.ledger, hrow]

lemma loadLocked_loaded : ((m.loadLocked scope).scopes scope).loaded = true := by
  unfold loadLocked
  split_ifs with hloaded
  · exact hloaded
  · cases m.store.currentScopeKey scope <;> simp [setEntry]

/-- Once loaded, the cached generation is the live one. -/
lemma KeysOK.curID_loadLocked (h : KeysOK m) :
    ((m.loadLocked scope).scopes scope).curID = (m.ledger.live scope).getD 0 := by
  have hload := (h.loadLocked scope).loaded scope loadLocked_loaded
  rwa [ledger, loadLocked_store] at hload

/-- The manager after a mint. -/
lemma KeysOK.afterMint (h : KeysOK m) {st : KeyStore} (hst : st.OK)
    (hledger : st.ledger = m.ledger.mint now scope id) (hloaded : e.loaded = true)
    (hcur : e.curID = id) (hold : ∀ i ∈ e.old, (m.ledger.born scope i).isSome = true) :
    KeysOK ({ m with store := st }.setEntry scope e) := by
  have hsame : ∀ sc, ({ m with store := st }.setEntry scope e).scopes sc =
      if sc = scope then e else m.scopes sc := fun sc => Function.update_apply ..
  have hnew : ({ m with store := st }.setEntry scope e).ledger = m.ledger.mint now scope id := hledger
  refine ⟨hst, fun sc hsc => ?_, fun sc hsc => ?_, fun sc i hi => ?_⟩
  · rw [hsame] at hsc ⊢
    rw [hnew]
    split_ifs at hsc ⊢ with heq
    · simp [mint, heq, hcur]
    · simpa [mint, heq] using h.loaded sc hsc
  · rw [hsame] at hsc ⊢
    split_ifs at hsc ⊢ with heq
    · simp [hloaded] at hsc
    · exact h.unloaded sc hsc
  · rw [hsame] at hi
    rw [hnew, born_mint]
    split_ifs at hi ⊢ with hminted heq heq
    iterate 2 rfl
    · exact heq ▸ hold i hi
    · exact h.old sc i hi

/-- A first generation. -/
theorem KeysOK.mintLocked (h : KeysOK m) (now : Nat) (scope : Int) :
    KeysOK (m.mintLocked now scope).2 ∧ m.ledger.born scope (m.mintLocked now scope).1 = none ∧
      (m.mintLocked now scope).2.ledger = m.ledger.mint now scope (m.mintLocked now scope).1 := by
  have hrows : ((m.store.allocScopeKeyID scope).2.insertScopeKey now scope
      (m.store.nextKeyID scope)).rows = Function.update m.store.rows scope
        (⟨m.store.nextKeyID scope, now, none⟩ :: (m.store.rows scope).map id) := by
    rw [List.map_id]
    rfl
  have hledger : ((m.store.allocScopeKeyID scope).2.insertScopeKey now scope
      (m.store.nextKeyID scope)).ledger = m.ledger.mint now scope (m.store.nextKeyID scope) :=
    ledger_of_cons (fun _ => rfl) (fun _ => rfl) hrows
  exact ⟨h.afterMint (h.store.mint (fun _ => rfl) rfl hrows) hledger rfl rfl (h.old scope),
    h.store.born_next, hledger⟩

lemma cacheOldLocked_loaded (e : ScopeEntry) (id : Nat) :
    (cacheOldLocked e id).loaded = e.loaded := by
  unfold cacheOldLocked
  split_ifs <;> rfl

lemma cacheOldLocked_curID (e : ScopeEntry) (id : Nat) :
    (cacheOldLocked e id).curID = e.curID := by
  unfold cacheOldLocked
  split_ifs <;> rfl

lemma mem_cacheOldLocked (h : i ∈ (cacheOldLocked e id).old) : i ∈ e.old ∨ i = id := by
  unfold cacheOldLocked at h
  split_ifs at h
  · exact .inl h
  · simpa using mem_of_mem_drop h

/-- The cached generation of a scope is the live one. -/
lemma KeysOK.live_of_curID (h : KeysOK m) (hcur : ((m.loadLocked scope).scopes scope).curID ≠ 0) :
    m.ledger.live scope = some ((m.loadLocked scope).scopes scope).curID := by
  rw [h.curID_loadLocked] at hcur ⊢
  cases hlive : m.ledger.live scope with
  | none => simp [hlive] at hcur
  | some id => rfl

lemma KeysOK.live_eq_none (h : KeysOK m) (hcur : ((m.loadLocked scope).scopes scope).curID = 0) :
    m.ledger.live scope = none := by
  rw [h.curID_loadLocked] at hcur
  cases hlive : m.ledger.live scope with
  | none => rfl
  | some id =>
    rw [hlive] at hcur
    exact absurd hcur (h.store.live_ne_zero hlive)

@[simp] lemma ledger_loadLocked : (m.loadLocked scope).ledger = m.ledger := by
  rw [ledger, loadLocked_store, ledger]

variable (h : KeysOK m)

include h

/-- `EnsureScope` gives the live generation, and mints one where there is none. -/
theorem KeysOK.ensureScope (now : Nat) (scope : Int) :
    KeysOK (m.ensureScope now scope).2 ∧
      ((m.ledger.live scope = some (m.ensureScope now scope).1 ∧
          (m.ensureScope now scope).2.ledger = m.ledger) ∨
        (m.ledger.live scope = none ∧ m.ledger.born scope (m.ensureScope now scope).1 = none ∧
          (m.ensureScope now scope).2.ledger =
            m.ledger.mint now scope (m.ensureScope now scope).1)) := by
  unfold ChatKeyManager.ensureScope
  by_cases hcur : ((m.loadLocked scope).scopes scope).curID = 0
  · simp only [hcur, ne_eq, not_true_eq_false, if_false]
    obtain ⟨hok, hnew, hledger⟩ := (h.loadLocked scope).mintLocked now scope
    rw [ledger_loadLocked] at hnew hledger
    exact ⟨hok, .inr ⟨h.live_eq_none hcur, hnew, hledger⟩⟩
  · simp only [hcur, ne_eq, not_false_eq_true, if_true]
    exact ⟨h.loadLocked scope, .inl ⟨h.live_of_curID hcur, ledger_loadLocked⟩⟩

/-- `rotate` mints a generation that was not there before. -/
theorem KeysOK.rotate (now : Nat) (scope : Int) :
    KeysOK (m.rotate now scope).2 ∧ m.ledger.born scope (m.rotate now scope).1 = none ∧
      (m.rotate now scope).2.ledger = m.ledger.mint now scope (m.rotate now scope).1 := by
  have hload := h.loadLocked scope
  unfold ChatKeyManager.rotate
  by_cases hcur : ((m.loadLocked scope).scopes scope).curID = 0
  · simp only [hcur, if_true]
    have hmint := hload.mintLocked now scope
    rwa [ledger_loadLocked] at hmint
  simp only [hcur, if_false, loadLocked_store]
  have hledger : ((m.store.allocScopeKeyID scope).2.rotateScopeKey now scope
      (m.store.nextKeyID scope)).ledger = m.ledger.mint now scope (m.store.nextKeyID scope) :=
    ledger_of_cons (fun k => by split_ifs <;> rfl) (fun k => by split_ifs <;> rfl) rfl
  refine ⟨?_, h.store.born_next, hledger⟩
  have hst : ((m.store.allocScopeKeyID scope).2.rotateScopeKey now scope
      (m.store.nextKeyID scope)).OK := h.store.mint (fun k => by split_ifs <;> rfl) rfl rfl
  refine hload.afterMint hst (ledger_loadLocked.symm ▸ hledger) ?_ rfl fun i hi => ?_
  · exact (cacheOldLocked_loaded ..).trans loadLocked_loaded
  · rcases mem_cacheOldLocked hi with hold | rfl
    · exact hload.old scope i hold
    · rw [ledger_loadLocked]
      exact KeyStore.born_of_live (h.live_of_curID hcur)

/-- `current` gives the live generation. -/
theorem KeysOK.current (scope : Int) :
    KeysOK (m.current scope).2 ∧ (m.current scope).1 = m.ledger.live scope ∧
      (m.current scope).2.ledger = m.ledger := by
  refine ⟨h.loadLocked scope, ?_, ledger_loadLocked⟩
  by_cases hcur : ((m.loadLocked scope).scopes scope).curID = 0
  · simp [ChatKeyManager.current, hcur, h.live_eq_none hcur]
  · simp [ChatKeyManager.current, hcur, h.live_of_curID hcur]

/-- `at` finds exactly the generations that were minted. -/
theorem KeysOK.atGeneration (scope : Int) (gen : Nat) :
    KeysOK (m.atGeneration scope gen).2 ∧
      ((m.atGeneration scope gen).1 = true ↔ (m.ledger.born scope gen).isSome = true) ∧
      (m.atGeneration scope gen).2.ledger = m.ledger := by
  have hload := h.loadLocked scope
  unfold ChatKeyManager.atGeneration
  by_cases hzero : gen = 0
  · have hnone : m.ledger.born scope 0 = none := by
      simp only [ledger, KeyStore.ledger, KeyStore.getScopeKey,
        Option.map_eq_none_iff, List.find?_eq_none]
      intro row hrow
      simpa using (h.store.ids scope row hrow).1.ne'
    simp [hzero, h, hnone]
  simp only [hzero, if_false, loadLocked_store]
  by_cases hcached : ((m.loadLocked scope).scopes scope).curID = gen ∨
      gen ∈ ((m.loadLocked scope).scopes scope).old
  · -- what is cached was minted
    simp only [hcached, if_true, true_iff]
    refine ⟨hload, ?_, ledger_loadLocked⟩
    rcases hcached with rfl | hold
    · exact KeyStore.born_of_live (h.live_of_curID hzero)
    · have := hload.old scope gen hold
      rwa [ledger_loadLocked] at this
  simp only [hcached, if_false]
  cases hrow : m.store.getScopeKey scope gen with
  | none =>
    refine ⟨hload, ?_, ledger_loadLocked⟩
    simp [ledger, KeyStore.ledger, hrow]
  | some row =>
    have hborn : (m.ledger.born scope gen).isSome = true := by
      simp [ledger, KeyStore.ledger, hrow]
    refine ⟨?_, by simpa using hborn, ledger_loadLocked⟩
    apply hload.setEntry
    · exact (cacheOldLocked_loaded ..).trans loadLocked_loaded
    · rw [cacheOldLocked_curID, h.curID_loadLocked, ledger_loadLocked]
    · intro i hi
      rcases mem_cacheOldLocked hi with hold | rfl
      · exact hload.old scope i hold
      · rwa [ledger_loadLocked]

end manager

end Voicx.Server
