import Voicx.Server.ChatKeys
import Voicx.Server.KeyFaults

/-!
# The key manager without failures

`ChatKeys` models the key manager over a database that does not fail, with generations in place of
keys. Here that model is what the manager of `KeyFaults` does as long as its database works.

* `KeyManager.toChatKeys` — forget the keys.
* `toChatKeys_call` — a call with a working database is the call of the failure-free model.
-/

namespace Voicx.Server.ScopeKeys

open Found ChatKeyManager Function
open Channels (Outcome)

variable {Key Wrapped : Type}

/-! ## Forgetting keys -/

def ScopeKey.toChatKeys (row : ScopeKey Wrapped) : Server.ScopeKey :=
  ⟨row.keyID.toNat, row.createdAt, row.retiredAt⟩

def KeyDB.toChatKeys (db : KeyDB Wrapped) : KeyStore where
  nextKeyID := db.nextKeyID
  rows scope := (db.rows scope).map ScopeKey.toChatKeys

def ScopeEntry.toChatKeys (e : ScopeEntry Key) : Server.ScopeEntry :=
  ⟨e.loaded, e.curID.toNat, e.oldLRU.map UInt32.toNat⟩

def KeyManager.toChatKeys (m : KeyManager Key Wrapped) : ChatKeyManager :=
  ⟨fun scope => (m.scopes scope).toChatKeys, m.db.toChatKeys⟩

lemma toChatKeys_retire (now : ℕ) (row : ScopeKey Wrapped) :
    (KeyDB.retire now row).toChatKeys =
      if row.toChatKeys.retiredAt.isNone then { row.toChatKeys with retiredAt := some now }
      else row.toChatKeys := by
  have hsame : row.toChatKeys.retiredAt = row.retiredAt := rfl
  rw [KeyDB.retire, hsame]
  split_ifs <;> rfl

/-- A write, with its keys forgotten. -/
lemma toChatKeys_persist {db db' : KeyDB Wrapped} {now : ℕ} {scope : Int} {mint : Bool}
    {id : UInt32} {kekID : ℕ} {wrapped : Wrapped}
    (h : db.persist now scope mint id kekID wrapped = some db') :
    db'.toChatKeys =
      if mint then db.toChatKeys.insertScopeKey now scope id.toNat
      else db.toChatKeys.rotateScopeKey now scope id.toNat := by
  rw [persist_eq] at h
  split_ifs at h
  cases h
  have hrows := funext (apply_update (fun _ => List.map ScopeKey.toChatKeys) db.rows scope
    (⟨id, wrapped, kekID, now, none⟩ :: db.oldRows now scope mint))
  cases mint with
  | true => exact congrArg (KeyStore.mk _) hrows
  | false =>
    refine congrArg (KeyStore.mk _) (hrows.trans ?_)
    simp only [KeyDB.oldRows, Bool.false_eq_true, if_false, KeyDB.toChatKeys, List.map_cons,
      List.map_map, comp_def, toChatKeys_retire]
    rfl

/-! ## Entries -/

/-- Eviction keeps the newest ids. -/
lemma evict_snd (old : FMap UInt32 Key) (oldLRU : List UInt32) :
    (evict old oldLRU).2 = oldLRU.drop (oldLRU.length - maxArchivalGenerations) := by
  induction oldLRU generalizing old with
  | nil => rfl
  | cons id rest ih =>
    rw [evict]
    split_ifs with hlong
    · rw [ih, List.length_cons, Nat.sub_add_comm (Nat.lt_succ_iff.mp hlong), List.drop_succ_cons]
    · rw [Nat.sub_eq_zero_of_le (Nat.le_of_not_lt hlong), List.drop_zero]

lemma toNat_mem_map {id : UInt32} {ids : List UInt32} :
    id.toNat ∈ ids.map UInt32.toNat ↔ id ∈ ids :=
  List.mem_map_of_injective fun _ _ h => UInt32.toNat_inj.mp h

lemma toChatKeys_cacheOldLocked {e : ScopeEntry Key} (h : ArchiveOK e.old e.oldLRU) (id : UInt32)
    (key : Key) :
    (e.cacheOldLocked id key).toChatKeys = cacheOldLocked e.toChatKeys id.toNat := by
  have hzero : id.toNat = 0 ↔ id = 0 := by
    rw [← UInt32.toNat_zero, UInt32.toNat_inj]
  have hmem : id.toNat ∈ e.toChatKeys.old ↔ id ∈ e.oldLRU := toNat_mem_map
  unfold ScopeEntry.cacheOldLocked cacheOldLocked
  by_cases hid : id = 0
  · rw [if_pos hid, if_pos (Or.inl (hzero.mpr hid))]
  rw [if_neg hid]
  by_cases hin : id ∈ e.old
  · -- an id that is archived already stays where it is, and nothing is evicted
    have hlru := (h.mem_iff id).mp hin
    have hle := Nat.sub_eq_zero_of_le h.length_le
    rw [if_pos (Or.inr (hmem.mpr hlru)), if_pos hin]
    simp [ScopeEntry.toChatKeys, evict_snd, hle]
  · have hlru : id ∉ e.oldLRU := fun h' => hin ((h.mem_iff id).mpr h')
    rw [if_neg (not_or.mpr ⟨fun h' => hid (hzero.mp h'), fun h' => hlru (hmem.mp h')⟩),
      if_neg hin]
    simp [ScopeEntry.toChatKeys, evict_snd, maxArchivalGenerations,
      Server.maxArchivalGenerations]

/-! ## Calls -/

section calls

variable {ring : KEKRing Key Wrapped} {m : KeyManager Key Wrapped} {c : Request Key}

/-- A call, by the tables and the entry that its last step has led to. -/
lemma toChatKeys_of_ends {f : Effect Key Wrapped} (hop : c.op.refused = none)
    (hend : m.thirdStep ring c = f) : (m.call ring c).toChatKeys =
      { m.toChatKeys with store := f.db.toChatKeys }.setEntry c.scope f.entry.toChatKeys := by
  simp only [KeyManager.call, hop, hend, KeyManager.toChatKeys, setEntry]
  congr 1
  funext sc
  exact apply_update (fun _ => ScopeEntry.toChatKeys) m.scopes c.scope f.entry sc

/-- Loading a scope. -/
lemma toChatKeys_loadLocked {scope : Int} {a : Answer Key} {e : ScopeEntry Key}
    (hload : loadLocked ring m.db scope a (m.scopes scope) = .ok e) :
    m.toChatKeys.loadLocked scope = m.toChatKeys.setEntry scope e.toChatKeys := by
  have hflag : (m.toChatKeys.scopes scope).loaded = (m.scopes scope).loaded := rfl
  have hcur : m.toChatKeys.store.currentScopeKey scope =
      (m.db.currentScopeKey scope).map ScopeKey.toChatKeys := by
    unfold KeyStore.currentScopeKey KeyManager.toChatKeys KeyDB.toChatKeys KeyDB.currentScopeKey
    rw [List.find?_map]
    rfl
  unfold ChatKeyManager.loadLocked
  rw [hflag]
  obtain ⟨hloaded, rfl⟩ | ⟨hloaded, ⟨hrow, rfl⟩ | ⟨row, key, hrow, -, rfl⟩⟩ := loadLocked_ok hload
  · rw [if_pos hloaded]
    exact congrArg (mk · _) (update_eq_self _ _).symm
  · rw [hrow] at hcur
    simp only [hloaded, hcur, Option.map_none]
    rfl
  · rw [hrow] at hcur
    simp only [hloaded, hcur, Option.map_some]
    rfl

/-- What the failure-free manager does. -/
def replay (m : ChatKeyManager) (now : ℕ) (scope : Int) : Op → ChatKeyManager
  | .ensureScope => (m.ensureScope now scope).2
  | .current => (m.current scope).2
  | .rotate => (m.rotate now scope).2
  | .atGeneration gen | .sealFor gen _ => (m.atGeneration scope gen.toNat).2

lemma toNat_nextKeyID (hids : m.db.nextKeyID c.scope < 2 ^ 32) :
    (UInt32.ofNat (m.db.nextKeyID c.scope)).toNat = m.db.nextKeyID c.scope := by
  rw [UInt32.toNat_ofNat', Nat.mod_eq_of_lt hids]

section loaded

variable {e : ScopeEntry Key} (h : m.Inv ring) (hop : c.op.refused = none) (hc : c.Works)
  (hids : m.db.nextKeyID c.scope < 2 ^ 32)
  (hload : loadLocked ring m.db c.scope c.first (m.scopes c.scope) = .ok e)

include hload in
lemma scopes_loadLocked : (m.toChatKeys.loadLocked c.scope).scopes c.scope = e.toChatKeys := by
  rw [toChatKeys_loadLocked hload]
  exact update_self _ _ _

include h hop hload

/-- A call that finds what it needs in the entry. -/
lemma toChatKeys_of_done {result : Result Key}
    (hdone : afterLoad c.first e c.op = (.done result : Stage Key Wrapped)) :
    (m.call ring c).toChatKeys = m.toChatKeys.loadLocked c.scope := by
  obtain ⟨hfirst, -⟩ := h.firstStep hop hload
  have hstage : (m.firstStep ring c).stage = .done result := by rw [hfirst, hdone]
  rw [toChatKeys_of_ends hop (KeyManager.thirdStep_of_first hstage), hfirst,
    toChatKeys_loadLocked hload]
  rfl

include hc hids

/-- A call that writes a new generation. -/
lemma toChatKeys_of_alloc {mint : Bool}
    (halloc : afterLoad c.first e c.op = (.alloc mint : Stage Key Wrapped)) :
    ∃ key, (m.call ring c).toChatKeys =
      { m.toChatKeys.loadLocked c.scope with
        store :=
          if mint then (m.toChatKeys.store.allocScopeKeyID c.scope).2.insertScopeKey c.third.now
            c.scope (m.db.nextKeyID c.scope)
          else (m.toChatKeys.store.allocScopeKeyID c.scope).2.rotateScopeKey c.third.now
            c.scope (m.db.nextKeyID c.scope) }.setEntry c.scope
        (e.install mint (UInt32.ofNat (m.db.nextKeyID c.scope)) key).toChatKeys := by
  obtain ⟨key, kekID, wrapped, db', hwrite, hthird⟩ := h.write_works hop hc hids hload halloc
  have hstore := toChatKeys_persist hwrite
  rw [toNat_nextKeyID hids] at hstore
  refine ⟨key, ?_⟩
  rw [toChatKeys_of_ends hop hthird, toChatKeys_loadLocked hload, hstore]
  simp only [setEntry, update_idem]
  rfl

omit hids in
/-- A call that reads an archival generation. -/
lemma toChatKeys_of_fetch {gen : UInt32} {memberPub : Option ℕ}
    (hfetch : afterLoad c.first e c.op = (.fetch gen memberPub : Stage Key Wrapped)) :
    (m.call ring c).toChatKeys =
      match m.toChatKeys.store.getScopeKey c.scope gen.toNat with
      | none => m.toChatKeys.loadLocked c.scope
      | some _ => (m.toChatKeys.loadLocked c.scope).setEntry c.scope
          (cacheOldLocked e.toChatKeys gen.toNat) := by
  obtain ⟨hfirst, hgoing⟩ := h.firstStep hop hload
  rw [hfetch] at hfirst
  have hget : m.toChatKeys.store.getScopeKey c.scope gen.toNat =
      (m.db.getScopeKey c.scope gen).map ScopeKey.toChatKeys := by
    unfold KeyStore.getScopeKey KeyDB.getScopeKey
    refine List.find?_map.trans ?_
    congr 2
    funext row
    simp [ScopeKey.toChatKeys, UInt32.toNat_inj]
  have hok : ¬c.second.outcome ≠ .ok := not_not.mpr hc.2.1.1
  -- the second step ends the call, with one entry or another
  have hend : ∀ e' result, m.secondStep ring c = ⟨m.db, e', .done result, none, none⟩ →
      (m.call ring c).toChatKeys = m.toChatKeys.setEntry c.scope e'.toChatKeys := by
    intro e' result hsecond
    rw [toChatKeys_of_ends hop (KeyManager.thirdStep_of_second (congrArg Effect.stage hsecond)),
      hsecond]
    rfl
  rw [hget, toChatKeys_loadLocked hload]
  cases hrow : m.db.getScopeKey c.scope gen with
  | none =>
    exact hend e (.error .noScopeKey)
      (by simp [KeyManager.secondStep, hfirst, advance, if_neg hok, hrow])
  | some row =>
    have hmem : row ∈ m.db.rows c.scope := List.mem_of_find?_eq_some hrow
    obtain ⟨key, hkey⟩ := Option.isSome_iff_exists.mp (h.readable c.scope row hmem)
    have hsecond : m.secondStep ring c = ⟨m.db, e.cacheOldLocked gen key,
        .done (handOut c.second gen key memberPub), none, none⟩ := by
      simp [KeyManager.secondStep, hfirst, advance, if_neg hok, hrow, hkey]
    rw [hend _ _ hsecond, toChatKeys_cacheOldLocked hgoing.entry.archive]
    simp [setEntry]

omit hids in
/-- `at` and `sealFor` look for the generation in the same places. -/
lemma toChatKeys_of_lookUp {gen : UInt32} {memberPub : Option ℕ} (hgen : gen ≠ 0)
    (hafter : afterLoad c.first e c.op = (lookUp c.first e gen memberPub : Stage Key Wrapped)) :
    (m.call ring c).toChatKeys = (m.toChatKeys.atGeneration c.scope gen.toNat).2 := by
  have hgen' : gen.toNat ≠ 0 := fun h => hgen (UInt32.toNat_inj.mp h)
  have hfound : (e.toChatKeys.curID = gen.toNat ∨ gen.toNat ∈ e.toChatKeys.old) ↔
      e.curID = gen ∨ gen ∈ e.oldLRU :=
    or_congr UInt32.toNat_inj toNat_mem_map
  obtain ⟨-, hgoing⟩ := h.firstStep hop hload
  have harchive := hgoing.entry.archive
  simp only [atGeneration, if_neg hgen', scopes_loadLocked hload, loadLocked_store, hfound]
  unfold lookUp at hafter
  by_cases hcur : e.curID = gen
  · rw [if_pos hcur] at hafter
    rw [if_pos (.inl hcur)]
    exact toChatKeys_of_done h hop hload hafter
  rw [if_neg hcur] at hafter
  cases hold : e.old.lookup gen with
  | some key =>
    rw [hold] at hafter
    rw [if_pos (.inr ((harchive.mem_iff gen).mp (Finmap.mem_of_lookup_eq_some hold)))]
    exact toChatKeys_of_done h hop hload hafter
  | none =>
    rw [hold] at hafter
    have hout : gen ∉ e.oldLRU := fun hin =>
      Finmap.lookup_eq_none.mp hold ((harchive.mem_iff gen).mpr hin)
    rw [if_neg (not_or.mpr ⟨hcur, hout⟩), toChatKeys_of_fetch h hop hc hload hafter]
    cases m.toChatKeys.store.getScopeKey c.scope gen.toNat <;> rfl

/-- A call that writes the first generation of its scope. -/
lemma toChatKeys_of_mint (halloc : afterLoad c.first e c.op = (.alloc true : Stage Key Wrapped)) :
    (m.call ring c).toChatKeys =
      ((m.toChatKeys.loadLocked c.scope).mintLocked c.third.now c.scope).2 := by
  obtain ⟨key, hcall⟩ := toChatKeys_of_alloc h hop hc hids hload halloc
  rw [hcall, mintLocked, scopes_loadLocked hload, loadLocked_store]
  simp only [if_true, ScopeEntry.install, ScopeEntry.toChatKeys, toNat_nextKeyID hids]
  rfl

end loaded

/-- **A call with a working database is a call of the failure-free manager.** -/
theorem toChatKeys_call (h : m.Inv ring) (hop : c.op.refused = none) (hc : c.Works)
    (hids : m.db.nextKeyID c.scope < 2 ^ 32) :
    (m.call ring c).toChatKeys = replay m.toChatKeys c.third.now c.scope c.op := by
  obtain ⟨e, hload⟩ := loadLocked_works h.readable hc.1.1 c.scope (m.scopes c.scope)
  have hentry := scopes_loadLocked hload
  have hzero : e.toChatKeys.curID = 0 ↔ e.curID = 0 := by
    rw [← UInt32.toNat_inj]
    rfl
  have hmint := toChatKeys_of_mint h hop hc hids hload
  cases hcop : c.op with
  | ensureScope =>
    by_cases hcur : e.curID = 0
    · rw [hmint (by rw [hcop, afterLoad, if_neg (not_not.mpr hcur)])]
      simp [replay, ensureScope, hentry, hzero, hcur]
    · rw [toChatKeys_of_done h hop hload (by rw [hcop, afterLoad, if_pos hcur])]
      simp [replay, ensureScope, hentry, hzero, hcur]
  | current =>
    by_cases hcur : e.curID = 0
    · exact toChatKeys_of_done h hop hload (by rw [hcop, afterLoad, if_pos hcur])
    · exact toChatKeys_of_done h hop hload (by rw [hcop, afterLoad, if_neg hcur])
  | rotate =>
    by_cases hcur : e.curID = 0
    · rw [hmint (by rw [hcop, afterLoad, decide_eq_true hcur])]
      simp [replay, rotate, hentry, hzero, hcur]
    obtain ⟨-, hgoing⟩ := h.firstStep hop hload
    have hcache := toChatKeys_cacheOldLocked hgoing.entry.archive e.curID e.curKey
    obtain ⟨key, hcall⟩ := toChatKeys_of_alloc h hop hc hids hload
      (by rw [hcop, afterLoad, decide_eq_false hcur])
    rw [hcall]
    simp only [replay, rotate, hentry, hzero, hcur, if_false, loadLocked_store,
      Bool.false_eq_true]
    rw [show e.toChatKeys.curID = e.curID.toNat from rfl, ← hcache]
    simp only [ScopeEntry.install, ScopeEntry.toChatKeys, toNat_nextKeyID hids,
      Bool.false_eq_true, if_false]
    rfl
  | atGeneration gen =>
    refine toChatKeys_of_lookUp h hop hc hload (fun hgen => ?_) (by rw [hcop]; rfl)
    rw [hcop, Op.refused, if_pos hgen] at hop
    cases hop
  | sealFor gen memberPub =>
    refine toChatKeys_of_lookUp h hop hc hload (fun hgen => ?_) (by rw [hcop]; rfl)
    rw [hcop, Op.refused] at hop
    split_ifs at hop

theorem toChatKeys_call_ensureScope :
    let a : Answer ℕ := ⟨.ok, 0, some 7, some 0, true⟩
    (KeyManager.call plainRing (.fresh .empty) ⟨5, .ensureScope, a, a, a⟩).toChatKeys =
      ((fresh .empty).ensureScope 0 5).2 := by
  intro a
  have ha : a.Works := ⟨rfl, rfl, rfl⟩
  have hinv : (KeyManager.fresh .empty).Inv plainRing :=
    ⟨KeyDB.ok_empty, fun _ _ h => absurd h List.not_mem_nil, fun _ => entryOK_new,
      fun _ => ⟨fun h => (by cases h), fun _ => rfl⟩⟩
  exact toChatKeys_call hinv rfl ⟨ha, ha, ha⟩ (by decide)

end calls

end Voicx.Server.ScopeKeys
