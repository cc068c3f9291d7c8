import Voicx.Server.ScopeKeys

/-!
# Ambiguous commits of scope keys

A database call can report an error although its row was committed. The channel manager reads the
row again in that case; the key manager keeps its entry as it was.

* `KeyManager`, `KeyManager.call` — the manager between calls, and a whole call. `solo_call` says
  that a goroutine that is alone makes exactly this call.
* `Survives` — what should hold after any failure: whatever `current` and `EnsureScope` return is
  the live generation, and once the database works `EnsureScope` and `rotate` succeed.
* `Agrees` — the invariant without ambiguous commits: a loaded entry has the live generation.
* `survives_iff` — **the manager survives a run exactly if no commit in it was ambiguous**: after an
  ambiguous first generation no key can be minted for the scope any more, since its row is live and
  the entry says there is none; after an ambiguous rotation the entry goes on with the retired
  generation.
-/

namespace Voicx.Server.ScopeKeys

open Found Function List Option KeyDB
open Channels (Outcome)

variable {Key Wrapped : Type}

/-! ## Whole calls -/

/-- The manager between calls. -/
structure KeyManager (Key Wrapped : Type) where
  db : KeyDB Wrapped
  scopes : Int → ScopeEntry Key

/-- A call with what the world answers to its steps. -/
structure Request (Key : Type) where
  scope : Int
  op : Op
  first : Answer Key
  second : Answer Key
  third : Answer Key

/-- The result of a call that has ended. -/
def Stage.result : Stage Key Wrapped → Option (Result Key)
  | .done result => some result
  | _ => none

variable (ring : KEKRing Key Wrapped)

namespace KeyManager

/-- A manager that has cached nothing. -/
def fresh [Inhabited Key] (db : KeyDB Wrapped) : KeyManager Key Wrapped := ⟨db, fun _ => .new⟩

variable (m : KeyManager Key Wrapped) (c : Request Key)

/-- The first step of a call. -/
def firstStep : Effect Key Wrapped :=
  advance ring c.scope c.op c.first m.db (m.scopes c.scope) .load

def secondStep : Effect Key Wrapped :=
  let f := m.firstStep ring c
  advance ring c.scope c.op c.second f.db f.entry f.stage

/-- The last step of a call; a call that ended before stays as it is. -/
def thirdStep : Effect Key Wrapped :=
  let f := m.secondStep ring c
  advance ring c.scope c.op c.third f.db f.entry f.stage

/-- What a call returns. -/
def reply : Option (Result Key) :=
  match c.op.refused with
  | some e => some (.error e)
  | none => (m.thirdStep ring c).stage.result

/-- The manager after a call. -/
def call : KeyManager Key Wrapped :=
  match c.op.refused with
  | some _ => m
  | none =>
    ⟨(m.thirdStep ring c).db, update m.scopes c.scope (m.thirdStep ring c).entry⟩

end KeyManager

open KeyManager

/-! ## What should survive -/

/-- The live generation of a scope. -/
def KeyDB.live (db : KeyDB Wrapped) (scope : Int) : Option UInt32 :=
  (db.currentScopeKey scope).map ScopeKey.keyID

/-- Every call of the database succeeds, and so do the random source and `Wrap`. -/
def Answer.Works (a : Answer Key) : Prop :=
  a.outcome = .ok ∧ a.key.isSome = true ∧ a.nonce.isSome = true

def Request.Works (c : Request Key) : Prop := c.first.Works ∧ c.second.Works ∧ c.third.Works

/-- A step committed a row and reported an error. -/
def Effect.Ambiguous (f : Effect Key Wrapped) : Prop :=
  f.stored.isSome = true ∧ f.stage = .done (.error .persist)

instance [DecidableEq Key] [DecidableEq Wrapped] (f : Effect Key Wrapped) :
    Decidable f.Ambiguous :=
  inferInstanceAs (Decidable (_ ∧ _))

/-- A step of the call was an ambiguous commit. -/
def KeyManager.Ambiguous (m : KeyManager Key Wrapped) (c : Request Key) : Prop :=
  c.op.refused = none ∧ ((m.firstStep ring c).Ambiguous ∨ (m.secondStep ring c).Ambiguous ∨
    (m.thirdStep ring c).Ambiguous)

instance [DecidableEq Key] [DecidableEq Wrapped] (m : KeyManager Key Wrapped) (c : Request Key) :
    Decidable (m.Ambiguous ring c) :=
  inferInstanceAs (Decidable (_ ∧ _))

/-- The manager works: a generation that `current` or `EnsureScope` returns is the live one, and a
working database makes `EnsureScope` and `rotate` succeed, while there are ids left. -/
structure KeyManager.Survives (m : KeyManager Key Wrapped) : Prop where
  live : ∀ c gen key, c.op = .current ∨ c.op = .ensureScope →
    m.reply ring c = some (.key gen key) → (m.call ring c).db.live c.scope = some gen
  works : ∀ c, c.op = .ensureScope ∨ c.op = .rotate → c.Works →
    m.db.nextKeyID c.scope < 2 ^ 32 → ∃ gen key, m.reply ring c = some (.key gen key)

/-! ## Entries that agree with the tables -/

section agree

variable {ring} {db : KeyDB Wrapped} {scope : Int} {op : Op} {e : ScopeEntry Key} {a : Answer Key}
  {stage : Stage Key Wrapped}

/-- A loaded entry has the live generation, another one has none. -/
structure Agrees (db : KeyDB Wrapped) (scope : Int) (e : ScopeEntry Key) : Prop where
  loaded : e.loaded = true → e.curID = (db.live scope).getD 0
  unloaded : e.loaded = false → e.curID = 0

variable (ring) in
/-- The ring can unwrap every row. -/
def Readable (db : KeyDB Wrapped) : Prop :=
  ∀ scope, ∀ row ∈ db.rows scope, (ring.unwrap row.kekID row.wrapped).isSome = true

/-- What a call knows at a stage: the kind of write fits the entry, the id is not taken, and what
`current` or `EnsureScope` returns is live. -/
def Knows (db : KeyDB Wrapped) (scope : Int) (op : Op) (e : ScopeEntry Key) :
    Stage Key Wrapped → Prop
  | .alloc mint => e.loaded = true ∧ (mint = true ↔ e.curID = 0)
  | .persist mint id _ _ _ =>
    e.loaded = true ∧ (mint = true ↔ e.curID = 0) ∧ ∀ row ∈ db.rows scope, row.keyID ≠ id
  | .fetch _ _ => ¬(op = .current ∨ op = .ensureScope)
  | .done result => ∀ gen key, op = .current ∨ op = .ensureScope →
      result = .key gen key → db.live scope = some gen
  | .load => True

variable (ring) in
/-- A call that has not met an ambiguous commit. -/
structure Going (db : KeyDB Wrapped) (scope : Int) (op : Op) (e : ScopeEntry Key)
    (stage : Stage Key Wrapped) : Prop where
  ok : db.OK
  readable : Readable ring db
  entry : EntryOK ring db scope e
  agrees : Agrees db scope e
  stageOK : StageOK ring db scope stage
  knows : Knows db scope op e stage

variable {id : UInt32} {now kekID : ℕ} {mint : Bool} {wrapped : Wrapped} {key : Key}

lemma live_ne_zero (h : db.OK) (hlive : db.live scope = some id) : id ≠ 0 := by
  obtain ⟨row, hrow, rfl⟩ := map_eq_some_iff.mp hlive
  exact (h.ids scope row (mem_of_find?_eq_some hrow)).1

/-- A loaded entry has a generation exactly where one is live. -/
lemma Agrees.live_eq (h : Agrees db scope e) (hdb : db.OK) (hloaded : e.loaded = true) :
    db.live scope = if e.curID = 0 then none else some e.curID := by
  have hcur := h.loaded hloaded
  cases hlive : db.live scope with
  | none =>
    rw [hlive, getD_none] at hcur
    rw [if_pos hcur]
  | some id =>
    rw [hlive, getD_some] at hcur
    rw [hcur, if_neg (live_ne_zero hdb hlive)]

variable {db' : KeyDB Wrapped} {e' : ScopeEntry Key} {sc : Int}

/-- A write makes its generation the live one, and changes no other scope. -/
lemma live_persist (h : db.persist now scope mint id kekID wrapped = some db') (sc : Int) :
    db'.live sc = if sc = scope then some id else db.live sc := by
  obtain ⟨-, hrows, hother, -⟩ := persist_spec h
  unfold live currentScopeKey
  split_ifs with hsc
  · rw [hsc, hrows]
    rfl
  · rw [hother sc hsc]

/-- **A write goes through** if its id is not taken and, for a first generation, nothing is live. -/
theorem persist_isSome (now : ℕ) (kekID : ℕ) (wrapped : Wrapped)
    (hid : ∀ row ∈ db.rows scope, row.keyID ≠ id) (hlive : mint = true → db.live scope = none) :
    ∃ db', db.persist now scope mint id kekID wrapped = some db' := by
  rw [persist_eq, if_neg]
  · exact ⟨_, rfl⟩
  intro hany
  obtain ⟨row, hrow, hbad⟩ := any_eq_true.mp hany
  cases mint with
  | true =>
    have hold : row ∈ db.rows scope := hrow
    have hnone := hlive rfl
    rw [live, map_eq_none_iff, currentScopeKey, List.find?_eq_none] at hnone
    have hretired := hnone row hold
    rw [Bool.or_eq_true, beq_iff_eq] at hbad
    exact hbad.elim (hid row hold) hretired
  | false =>
    obtain ⟨row', hrow', rfl⟩ := mem_map.mp hrow
    rw [Bool.or_eq_true, beq_iff_eq, keyID_retire] at hbad
    rcases hbad with hbad | hbad
    · exact hid row' hrow' hbad
    · unfold retire at hbad
      split_ifs at hbad with hnone
      · cases hbad
      · exact hnone hbad

/-- A first generation does not go through where one is live. -/
lemma persist_eq_none {live : UInt32} (hlive : db.live scope = some live) :
    db.persist now scope true id kekID wrapped = none := by
  obtain ⟨row, hrow, -⟩ := map_eq_some_iff.mp hlive
  rw [persist_eq, if_pos]
  refine any_eq_true.mpr ⟨row, mem_of_find?_eq_some hrow, ?_⟩
  have hnone := List.find?_some hrow
  rw [Bool.or_eq_true]
  exact .inr hnone

/-- Loading a scope makes the entry agree, and it succeeds if the database answers. -/
lemma Agrees.loadLocked (h : Agrees db scope e) (hload : loadLocked ring db scope a e = .ok e') :
    Agrees db scope e' ∧ e'.loaded = true := by
  obtain ⟨hloaded, rfl⟩ | ⟨hloaded, ⟨hrow, rfl⟩ | ⟨row, key, hrow, -, rfl⟩⟩ := loadLocked_ok hload
  · exact ⟨h, hloaded⟩
  · refine ⟨⟨fun _ => ?_, fun hno => by cases hno⟩, rfl⟩
    rw [live, hrow]
    exact h.unloaded hloaded
  · refine ⟨⟨fun _ => ?_, fun hno => by cases hno⟩, rfl⟩
    rw [live, hrow]
    rfl

lemma loadLocked_works (hread : Readable ring db) (ha : a.outcome = .ok) (scope : Int)
    (e : ScopeEntry Key) : ∃ e', loadLocked ring db scope a e = .ok e' := by
  unfold loadLocked
  by_cases hloaded : e.loaded = true
  · exact ⟨e, by rw [if_pos hloaded]⟩
  rw [if_neg hloaded, if_neg (by simp [ha])]
  cases hrow : db.currentScopeKey scope with
  | none => exact ⟨_, rfl⟩
  | some row =>
    have hsome := hread scope row (mem_of_find?_eq_some hrow)
    obtain ⟨key, hkey⟩ := isSome_iff_exists.mp hsome
    refine ⟨{ e with curID := row.keyID, curKey := key, loaded := true }, ?_⟩
    simp [hkey]

/-- An error and no change. -/
theorem Going.error (h : Going ring db scope op e stage) (err : KeyError) :
    Going ring db scope op e (.done (.error err)) :=
  ⟨h.ok, h.readable, h.entry, h.agrees, stageOK_error err, fun gen key _ hr => by cases hr⟩

/-- What a call knows after it has loaded its scope. -/
lemma knows_afterLoad (h : Agrees db scope e) (hdb : db.OK) (hloaded : e.loaded = true) :
    Knows db scope op e (afterLoad a e op : Stage Key Wrapped) := by
  have hlive := h.live_eq hdb hloaded
  have hcached : ∀ hcur : e.curID ≠ 0,
      Knows db scope op e (.done (.key e.curID e.curKey) : Stage Key Wrapped) := by
    intro hcur gen key _ hr
    cases hr
    rw [hlive, if_neg hcur]
  -- `at` and `sealFor` promise nothing about the live generation
  have hlookUp : ∀ gen memberPub, ¬(op = .current ∨ op = .ensureScope) →
      Knows db scope op e (lookUp a e gen memberPub : Stage Key Wrapped) := by
    intro gen memberPub hop
    unfold lookUp
    split_ifs
    · exact fun _ _ hcur => absurd hcur hop
    · cases e.old.lookup gen with
      | none => exact hop
      | some key => exact fun _ _ hcur => absurd hcur hop
  cases op with
  | ensureScope =>
    simp only [afterLoad]
    split_ifs with hcur
    · exact hcached hcur
    · exact ⟨hloaded, iff_of_true rfl (not_not.mp hcur)⟩
  | current =>
    simp only [afterLoad]
    split_ifs with hcur
    · exact fun _ _ _ hr => by cases hr
    · exact hcached hcur
  | rotate => exact ⟨hloaded, by simp⟩
  | atGeneration gen => exact hlookUp gen none (by simp)
  | sealFor gen memberPub => exact hlookUp gen memberPub (by simp)

/-- An id that the sequence gives is not taken. -/
theorem KeyDB.OK.fresh (h : db.OK) (hid : (db.allocScopeKeyID scope).1 = some id) :
    ∀ row ∈ db.rows scope, row.keyID ≠ id := by
  intro row hrow heq
  have hlt := (h.ids scope row hrow).2
  rw [heq, (h.allocScopeKeyID hid).2] at hlt
  exact lt_irrefl _ hlt

/-- The rows stay readable when a write adds one that is. -/
lemma Readable.persist (h : Readable ring db) (hunwrap : ring.unwrap kekID wrapped = some key)
    (hwrite : db.persist now scope mint id kekID wrapped = some db') : Readable ring db' := by
  obtain ⟨-, hrows, hother, -⟩ := persist_spec hwrite
  intro sc row hrow
  by_cases hsc : sc = scope
  · subst hsc
    rw [hrows] at hrow
    rcases mem_cons.mp hrow with rfl | hold
    · rw [hunwrap]
      rfl
    cases mint with
    | true => exact h sc row hold
    | false =>
      obtain ⟨row', hrow', rfl⟩ := mem_map.mp hold
      rw [unwrap_retire]
      exact h sc row' hrow'
  · rw [hother sc hsc] at hrow
    exact h sc row hrow

@[simp] lemma install_curID (e : ScopeEntry Key) (mint : Bool) (id : UInt32) (key : Key) :
    (e.install mint id key).curID = id := by
  unfold ScopeEntry.install
  split_ifs <;> rfl

lemma install_loaded (e : ScopeEntry Key) (mint : Bool) (id : UInt32) (key : Key)
    (h : e.loaded = true) : (e.install mint id key).loaded = true := by
  unfold ScopeEntry.install
  split_ifs
  · rfl
  · exact (cacheOldLocked_loaded e e.curID e.curKey).trans h

variable {f : Effect Key Wrapped}

/-- **A step that is no ambiguous commit** keeps the entry in agreement with the tables. -/
theorem Going.advance (h : Going ring db scope op e stage)
    (hf : Advances ring scope op a db e stage f) (hop : op.refused = none) (hsafe : ¬f.Ambiguous) :
    Going ring f.db scope op f.entry f.stage := by
  have hstep := stepOK_advance h.entry h.ok hf hop h.stageOK
  suffices hrest : Readable ring f.db ∧ Agrees f.db scope f.entry ∧
      Knows f.db scope op f.entry f.stage from
    ⟨hstep.adds.ok, hrest.1, hstep.entry, hrest.2.1, hstep.stage, hrest.2.2⟩
  clear hstep
  have hold : Agrees (db.allocScopeKeyID scope).2 scope e := ⟨h.agrees.loaded, h.agrees.unloaded⟩
  cases hf with
  | error _ err => exact ⟨h.readable, h.agrees, (h.error err).knows⟩
  | load hload =>
    obtain ⟨hagrees, hloaded⟩ := h.agrees.loadLocked hload
    exact ⟨h.readable, hagrees, knows_afterLoad hagrees h.ok hloaded⟩
  | noRow mint err given => exact ⟨h.readable, hold, fun _ _ _ hr => by cases hr⟩
  | alloc mint key nonce hid => exact ⟨h.readable, hold, h.knows.1, h.knows.2, h.ok.fresh hid⟩
  | lost => exact absurd ⟨rfl, rfl⟩ hsafe
  | @persist mint id key _ _ _ hwrite =>
    have hlive := live_persist hwrite scope
    rw [if_pos rfl] at hlive
    have hloaded := install_loaded e mint id key h.knows.1
    refine ⟨h.readable.persist h.stageOK.2.2 hwrite, ⟨fun _ => ?_, fun hno => ?_⟩, ?_⟩
    · rw [install_curID, hlive]
      rfl
    · rw [hloaded] at hno
      cases hno
    · intro gen key' _ hr
      cases hr
      exact hlive
  | fetch memberPub hrow hkey =>
    refine ⟨h.readable, ⟨?_, ?_⟩, fun _ _ hcur => absurd hcur h.knows⟩
    · rw [cacheOldLocked_loaded, cacheOldLocked_curID]
      exact h.agrees.loaded
    · rw [cacheOldLocked_loaded, cacheOldLocked_curID]
      exact h.agrees.unloaded
  | done result => exact ⟨h.readable, h.agrees, h.knows⟩

/-- The rows of other scopes stay as they are. -/
theorem Advances.rows (hf : Advances ring scope op a db e stage f) (hsc : sc ≠ scope) :
    f.db.rows sc = db.rows sc := by
  cases hf with
  | lost hwrite | persist hwrite =>
    obtain ⟨-, -, hother, -⟩ := persist_spec hwrite
    exact hother sc hsc
  | _ => rfl

/-- The entries of other scopes still agree after a step. -/
theorem Going.others (h : Going ring db scope op e stage)
    (hf : Advances ring scope op a db e stage f) (hop : op.refused = none)
    (hsc : sc ≠ scope) (hentry : EntryOK ring db sc e') (hagrees : Agrees db sc e') :
    EntryOK ring f.db sc e' ∧ Agrees f.db sc e' := by
  have hstep := stepOK_advance h.entry h.ok hf hop h.stageOK
  have hlive : f.db.live sc = db.live sc := by
    unfold live currentScopeKey
    rw [hf.rows hsc]
  refine ⟨hentry.mono fun _ _ => hstep.adds.keyOf_mono, ?_, hagrees.unloaded⟩
  rw [hlive]
  exact hagrees.loaded

/-- How many steps a call may still need. -/
def Stage.rank : Stage Key Wrapped → ℕ
  | .load => 3
  | .alloc _ => 2
  | .fetch _ _ => 1
  | .persist _ _ _ _ _ => 1
  | .done _ => 0

lemma rank_afterLoad_le : (afterLoad a e op : Stage Key Wrapped).rank ≤ 2 := by
  have hlookUp : ∀ gen memberPub, (lookUp a e gen memberPub : Stage Key Wrapped).rank ≤ 2 := by
    intro gen memberPub
    unfold lookUp
    split_ifs
    · exact Nat.zero_le _
    · cases e.old.lookup gen <;> exact Nat.le_of_ble_eq_true rfl
  cases op with
  | ensureScope | current =>
    simp only [afterLoad]
    split_ifs <;> exact Nat.le_of_ble_eq_true rfl
  | rotate => exact le_refl 2
  | atGeneration gen => exact hlookUp gen none
  | sealFor gen memberPub => exact hlookUp gen memberPub

lemma Advances.rank_le (hf : Advances ring scope op a db e stage f) :
    f.stage.rank ≤ stage.rank - 1 := by
  cases hf with
  | load => exact rank_afterLoad_le
  | alloc => exact le_refl 1
  | _ => exact Nat.zero_le _

/-! ### With a working database -/

variable (ring op e) in
lemma advance_alloc_works (mint : Bool) (ha : a.Works) (hids : db.nextKeyID scope < 2 ^ 32) :
    ∃ key kekID wrapped, advance ring scope op a db e (.alloc mint) =
      ⟨(db.allocScopeKeyID scope).2, e,
        .persist mint (UInt32.ofNat (db.nextKeyID scope)) key kekID wrapped,
        some (UInt32.ofNat (db.nextKeyID scope), key), none⟩ := by
  obtain ⟨hok, hkey, hnonce⟩ := ha
  obtain ⟨key, hkey⟩ := isSome_iff_exists.mp hkey
  obtain ⟨nonce, hnonce⟩ := isSome_iff_exists.mp hnonce
  refine ⟨key, (ring.wrap key nonce).1, (ring.wrap key nonce).2, ?_⟩
  simp only [advance, hok, allocScopeKeyID, if_pos hids, afterAlloc, hkey, hnonce,
    bind_some, map_some]

lemma Going.persist_works (h : Going ring db scope op e (.persist mint id key kekID wrapped))
    (ha : a.Works) :
    ∃ db', db.persist a.now scope mint id kekID wrapped = some db' ∧
      ScopeKeys.advance ring scope op a db e (.persist mint id key kekID wrapped) =
        ⟨db', e.install mint id key, .done (.key id key), none, some (id, key)⟩ := by
  obtain ⟨hloaded, hmint, hfree⟩ := h.knows
  obtain ⟨db', hwrite⟩ := persist_isSome a.now kekID wrapped hfree fun hm => by
    rw [h.agrees.live_eq h.ok hloaded, if_pos (hmint.mp hm)]
  exact ⟨db', hwrite, by simp [ScopeKeys.advance, hwrite, ha.1]⟩

/-! ### After an ambiguous commit -/

/-- The entry says one thing and the tables another. -/
def Broken (db : KeyDB Wrapped) (scope : Int) (e : ScopeEntry Key) : Prop :=
  e.loaded = true ∧ ∃ id, db.live scope = some id ∧ e.curID ≠ id

/-- An ambiguous commit leaves a broken entry, and ends the call. -/
theorem Going.broken (h : Going ring db scope op e stage)
    (hf : Advances ring scope op a db e stage f) (hamb : f.Ambiguous) :
    Broken f.db scope f.entry := by
  cases hf with
  | lost hwrite =>
    obtain ⟨hloaded, hmint, hfree⟩ := h.knows
    have hlive := live_persist hwrite scope
    rw [if_pos rfl] at hlive
    refine ⟨hloaded, _, hlive, fun hcur => ?_⟩
    -- the entry has no generation, or one whose row has another id
    have hbefore := h.agrees.live_eq h.ok hloaded
    rw [if_neg (hcur ▸ h.stageOK.1)] at hbefore
    obtain ⟨row, hrow, hid⟩ := map_eq_some_iff.mp hbefore
    exact hfree row (mem_of_find?_eq_some hrow) (hid.trans hcur)
  | persist => cases hamb.2
  | _ => cases hamb.1

end agree

/-! ## Runs -/

section runs

variable {ring} {m : KeyManager Key Wrapped} {c : Request Key}

namespace KeyManager

variable (ring) in
/-- Tables and entries agree. -/
structure Inv (m : KeyManager Key Wrapped) : Prop where
  ok : m.db.OK
  readable : Readable ring m.db
  entry : ∀ scope, EntryOK ring m.db scope (m.scopes scope)
  agrees : ∀ scope, Agrees m.db scope (m.scopes scope)

variable {db : KeyDB Wrapped} {scope : Int} {result : Result Key}

theorem Inv.going (h : m.Inv ring) (c : Request Key) :
    Going ring m.db c.scope c.op (m.scopes c.scope) .load :=
  ⟨h.ok, h.readable, h.entry c.scope, h.agrees c.scope, trivial, trivial⟩

/-- The three steps of a call without an ambiguous commit. -/
theorem Inv.steps (h : m.Inv ring) (hop : c.op.refused = none) (hsafe : ¬m.Ambiguous ring c) :
    Going ring (m.firstStep ring c).db c.scope c.op (m.firstStep ring c).entry
        (m.firstStep ring c).stage ∧
      Going ring (m.secondStep ring c).db c.scope c.op (m.secondStep ring c).entry
        (m.secondStep ring c).stage ∧
      Going ring (m.thirdStep ring c).db c.scope c.op (m.thirdStep ring c).entry
        (m.thirdStep ring c).stage := by
  have hnot : ¬((m.firstStep ring c).Ambiguous ∨ (m.secondStep ring c).Ambiguous ∨
      (m.thirdStep ring c).Ambiguous) := fun h => hsafe ⟨hop, h⟩
  rw [not_or, not_or] at hnot
  have hfirst := (h.going c).advance (advances ..) hop hnot.1
  have hsecond := hfirst.advance (advances ..) hop hnot.2.1
  exact ⟨hfirst, hsecond, hsecond.advance (advances ..) hop hnot.2.2⟩

/-- A call without an ambiguous commit keeps the invariant. -/
theorem Inv.call (h : m.Inv ring) (hsafe : ¬m.Ambiguous ring c) : (m.call ring c).Inv ring := by
  unfold KeyManager.call
  cases hop : c.op.refused with
  | some e => exact h
  | none =>
    obtain ⟨hfirst, hsecond, hthird⟩ := h.steps hop hsafe
    have hscopes : ∀ sc, EntryOK ring (m.thirdStep ring c).db sc
          (update m.scopes c.scope (m.thirdStep ring c).entry sc) ∧
        Agrees (m.thirdStep ring c).db sc
          (update m.scopes c.scope (m.thirdStep ring c).entry sc) := by
      intro sc
      by_cases hsc : sc = c.scope
      · rw [hsc, update_self]
        exact ⟨hthird.entry, hthird.agrees⟩
      rw [update_of_ne hsc]
      obtain ⟨he₁, ha₁⟩ := (h.going c).others (advances ..) hop hsc (h.entry sc) (h.agrees sc)
      obtain ⟨he₂, ha₂⟩ := hfirst.others (advances ..) hop hsc he₁ ha₁
      exact hsecond.others (advances ..) hop hsc he₂ ha₂
    exact ⟨hthird.ok, hthird.readable, fun sc => (hscopes sc).1, fun sc => (hscopes sc).2⟩

variable {e : ScopeEntry Key}

/-- A step that is not a write is no ambiguous commit. -/
lemma not_ambiguous {op : Op} {a : Answer Key} {stage : Stage Key Wrapped} {f : Effect Key Wrapped}
    (hf : Advances ring scope op a db e stage f)
    (h : ∀ mint id key kekID wrapped, stage ≠ .persist mint id key kekID wrapped) :
    ¬f.Ambiguous := by
  intro hamb
  cases hf with
  | lost | persist => exact h _ _ _ _ _ rfl
  | _ => cases hamb.1

/-- A call that has ended stays as it is. -/
lemma thirdStep_of_second (h : (m.secondStep ring c).stage = .done result) :
    m.thirdStep ring c =
      ⟨(m.secondStep ring c).db, (m.secondStep ring c).entry, .done result, none, none⟩ := by
  simp [thirdStep, h, advance]

lemma thirdStep_of_first (h : (m.firstStep ring c).stage = .done result) :
    m.thirdStep ring c =
      ⟨(m.firstStep ring c).db, (m.firstStep ring c).entry, .done result, none, none⟩ := by
  simp [thirdStep, secondStep, h, advance]

variable (ring) in
/-- A call ends after three steps. -/
lemma thirdStep_done (m : KeyManager Key Wrapped) (c : Request Key) :
    ∃ result, (m.thirdStep ring c).stage = .done result := by
  have hfirst : (m.firstStep ring c).stage.rank ≤ 2 := (advances ..).rank_le
  have hsecond : (m.secondStep ring c).stage.rank ≤ (m.firstStep ring c).stage.rank - 1 :=
    (advances ..).rank_le
  have hthird : (m.thirdStep ring c).stage.rank ≤ (m.secondStep ring c).stage.rank - 1 :=
    (advances ..).rank_le
  have hzero : (m.thirdStep ring c).stage.rank = 0 := by omega
  cases hstage : (m.thirdStep ring c).stage with
  | done result => exact ⟨result, rfl⟩
  | load | alloc | persist | fetch =>
    rw [hstage] at hzero
    cases hzero

/-- An ambiguous call reports an error. -/
lemma reply_of_ambiguous (h : m.Ambiguous ring c) : m.reply ring c = some (.error .persist) := by
  obtain ⟨hop, hstep⟩ := h
  have hstage : (m.thirdStep ring c).stage = .done (.error .persist) := by
    rcases hstep with hstep | hstep | hstep
    · rw [thirdStep_of_first hstep.2]
    · rw [thirdStep_of_second hstep.2]
    · exact hstep.2
  simp [reply, hop, hstage, Stage.result]

section

variable (h : m.Inv ring)

include h

/-- The first step of a call that can load its scope. -/
lemma Inv.firstStep (hop : c.op.refused = none)
    (hload : loadLocked ring m.db c.scope c.first (m.scopes c.scope) = .ok e) :
    m.firstStep ring c = ⟨m.db, e, afterLoad c.first e c.op, none, none⟩ ∧
      Going ring m.db c.scope c.op e (afterLoad c.first e c.op) := by
  have hfirst : m.firstStep ring c = ⟨m.db, e, afterLoad c.first e c.op, none, none⟩ := by
    simp [KeyManager.firstStep, advance, hload]
  have hload : Advances ring c.scope c.op c.first m.db (m.scopes c.scope) .load _ := .load hload
  exact ⟨hfirst, (h.going c).advance hload hop (not_ambiguous hload (by simp))⟩

/-- **With a working database, a call that goes on to a write ends with the new generation.** -/
theorem Inv.write_works (hop : c.op.refused = none) (hc : c.Works)
    (hids : m.db.nextKeyID c.scope < 2 ^ 32) {mint : Bool}
    (hload : loadLocked ring m.db c.scope c.first (m.scopes c.scope) = .ok e)
    (halloc : afterLoad c.first e c.op = (.alloc mint : Stage Key Wrapped)) :
    ∃ key kekID wrapped db',
      (m.db.allocScopeKeyID c.scope).2.persist c.third.now c.scope mint
        (UInt32.ofNat (m.db.nextKeyID c.scope)) kekID wrapped = some db' ∧
      m.thirdStep ring c = ⟨db', e.install mint (UInt32.ofNat (m.db.nextKeyID c.scope)) key,
        .done (.key (UInt32.ofNat (m.db.nextKeyID c.scope)) key), none,
        some (UInt32.ofNat (m.db.nextKeyID c.scope), key)⟩ := by
  obtain ⟨hfirst, hgoing⟩ := h.firstStep hop hload
  rw [halloc] at hfirst hgoing
  obtain ⟨key, kekID, wrapped, hsecond⟩ := advance_alloc_works ring c.op e mint hc.2.1 hids
  have halloc := hsecond ▸ advances ring c.scope c.op c.second m.db e (.alloc mint)
  have hgoing₂ := hgoing.advance halloc hop (not_ambiguous halloc (by simp))
  obtain ⟨db', hwrite, hthird⟩ := hgoing₂.persist_works hc.2.2
  refine ⟨key, kekID, wrapped, db', hwrite, ?_⟩
  simp only [thirdStep, secondStep, hfirst, hsecond]
  exact hthird

/-- With a working database, `EnsureScope` and `rotate` succeed. -/
theorem Inv.works (hcop : c.op = .ensureScope ∨ c.op = .rotate) (hc : c.Works)
    (hids : m.db.nextKeyID c.scope < 2 ^ 32) : ∃ gen key, m.reply ring c = some (.key gen key) := by
  have hop : c.op.refused = none := by
    rcases hcop with hcop | hcop <;> rw [hcop] <;> rfl
  suffices hstage : ∃ gen key, (m.thirdStep ring c).stage = .done (.key gen key) by
    obtain ⟨gen, key, hstage⟩ := hstage
    exact ⟨gen, key, by simp [reply, hop, hstage, Stage.result]⟩
  obtain ⟨e, hload⟩ := loadLocked_works h.readable hc.1.1 c.scope (m.scopes c.scope)
  -- the scope has a generation, which only `EnsureScope` returns, or the call goes on to a write
  have hnext : (∃ gen key, afterLoad c.first e c.op = (.done (.key gen key) : Stage Key Wrapped)) ∨
      ∃ mint, afterLoad c.first e c.op = (.alloc mint : Stage Key Wrapped) := by
    rcases hcop with hcop | hcop
    · rw [hcop, afterLoad]
      split_ifs
      · exact .inl ⟨_, _, rfl⟩
      · exact .inr ⟨true, rfl⟩
    · rw [hcop]
      exact .inr ⟨_, rfl⟩
  rcases hnext with ⟨gen, key, hdone⟩ | ⟨mint, halloc⟩
  · have hstage : (m.firstStep ring c).stage = .done (.key gen key) := by
      rw [(h.firstStep hop hload).1, hdone]
    exact ⟨gen, key, by rw [thirdStep_of_first hstage]⟩
  · obtain ⟨key, kekID, wrapped, db', -, hthird⟩ := h.write_works hop hc hids hload halloc
    exact ⟨_, key, by rw [hthird]⟩

/-- Where tables and entries agree, the manager works. -/
lemma Inv.survives : m.Survives ring where
  live c gen key hcur hreply := by
    have hop : c.op.refused = none := by
      rcases hcur with hcur | hcur <;> rw [hcur] <;> rfl
    have hsafe : ¬m.Ambiguous ring c := by
      intro hamb
      rw [reply_of_ambiguous hamb] at hreply
      cases hreply
    obtain ⟨-, -, hthird⟩ := h.steps hop hsafe
    obtain ⟨result, hstage⟩ := thirdStep_done ring m c
    simp only [reply, hop, hstage, Stage.result] at hreply
    rw [hstage] at hthird
    simp only [KeyManager.call, hop]
    exact hthird.knows gen key hcur (Option.some.inj hreply)
  works c hcop hc hids := h.works hcop hc hids

/-- A call with an ambiguous commit leaves a broken entry. -/
theorem Inv.broken (hamb : m.Ambiguous ring c) :
    Broken (m.call ring c).db c.scope ((m.call ring c).scopes c.scope) := by
  obtain ⟨hop, hstep⟩ := hamb
  suffices hthird : Broken (m.thirdStep ring c).db c.scope (m.thirdStep ring c).entry by
    simp only [KeyManager.call, hop, update_self]
    exact hthird
  have hload := not_ambiguous (advances ring c.scope c.op c.first m.db (m.scopes c.scope) .load)
    (by simp)
  have hfirst := (h.going c).advance (advances ..) hop hload
  by_cases hsecond : (m.secondStep ring c).Ambiguous
  · have hbroken := hfirst.broken (advances ..) hsecond
    rw [thirdStep_of_second hsecond.2]
    exact hbroken
  · have hthird := (hstep.resolve_left hload).resolve_left hsecond
    exact (hfirst.advance (advances ..) hop hsecond).broken (advances ..) hthird

end


variable (ring) in
/-- A call of a scope that is loaded, with the same answer to every step. -/
lemma firstStep_loaded (m : KeyManager Key Wrapped) (scope : Int) (op : Op) (a : Answer Key)
    (hloaded : (m.scopes scope).loaded = true) :
    m.firstStep ring ⟨scope, op, a, a, a⟩ =
      ⟨m.db, m.scopes scope, afterLoad a (m.scopes scope) op, none, none⟩ := by
  simp [firstStep, advance, loadLocked, hloaded]

/-- **A broken entry stays broken**: `EnsureScope` cannot mint, or `current` returns a generation
that is not live. -/
theorem not_survives_of_broken [Inhabited Key] (h : Broken m.db scope (m.scopes scope))
    (hids : m.db.nextKeyID scope < 2 ^ 32) : ¬m.Survives ring := by
  obtain ⟨hloaded, id, hlive, hne⟩ := h
  intro hsurvives
  let a : Answer Key := ⟨.ok, 0, some default, some 0, true⟩
  have ha : a.Works := ⟨rfl, rfl, rfl⟩
  by_cases hcur : (m.scopes scope).curID = 0
  · -- the entry has nothing, so a first generation is minted, which the index on live rows forbids
    let c : Request Key := ⟨scope, .ensureScope, a, a, a⟩
    have hfirst : m.firstStep ring c = ⟨m.db, m.scopes scope, .alloc true, none, none⟩ := by
      rw [firstStep_loaded ring m scope .ensureScope a hloaded, afterLoad, if_neg (not_not.mpr hcur)]
    obtain ⟨key, kekID, wrapped, hsecond⟩ :=
      advance_alloc_works ring .ensureScope (m.scopes scope) true ha hids
    have hdb : (m.db.allocScopeKeyID scope).2.live scope = some id := hlive
    have hthird : (m.thirdStep ring c).stage = .done (.error .persist) := by
      simp only [thirdStep, secondStep, hfirst, c, hsecond]
      simp [advance, persist_eq_none hdb]
    obtain ⟨gen, key', hreply⟩ := hsurvives.works c (.inl rfl) ⟨ha, ha, ha⟩ hids
    have hop : c.op.refused = none := rfl
    simp only [reply, hop, hthird, Stage.result] at hreply
    cases hreply
  · -- the entry has a generation that was retired
    let c : Request Key := ⟨scope, .current, a, a, a⟩
    have hfirst : (m.firstStep ring c).stage =
        .done (.key (m.scopes scope).curID (m.scopes scope).curKey) := by
      rw [firstStep_loaded ring m scope .current a hloaded, afterLoad, if_neg hcur]
    have hthird := thirdStep_of_first hfirst
    rw [firstStep_loaded ring m scope .current a hloaded] at hthird
    have hop : c.op.refused = none := rfl
    have hreply : m.reply ring c = some (.key (m.scopes scope).curID (m.scopes scope).curKey) := by
      simp [reply, hop, hthird, Stage.result]
    have hreturned := hsurvives.live c _ _ (.inl rfl) hreply
    simp only [call, hop, hthird] at hreturned
    exact hne (Option.some.inj (hreturned.symm.trans hlive))

end KeyManager

/-- **Ambiguous commits are not survived.** From any database that the program has left behind and
whose keys the ring can read, over any calls that do not use up the ids: the manager works after
every call exactly if no call of the run was an ambiguous commit. -/
theorem survives_iff [Inhabited Key] (ring : KEKRing Key Wrapped) {db : KeyDB Wrapped}
    (hdb : db.OK) (hread : Readable ring db) (calls : List (Request Key))
    (hids : StepsOK (call ring)
      (fun m c => (m.call ring c).db.nextKeyID c.scope < 2 ^ 32) (fresh db) calls) :
    Throughout (call ring) (Survives ring) (fresh db) calls ↔
      StepsOK (call ring) (fun m c => ¬m.Ambiguous ring c) (fresh db)
        calls := by
  have hP : ∀ m : KeyManager Key Wrapped, m.Inv ring → m.Survives ring := fun m h => h.survives
  have hkeep : ∀ (m : KeyManager Key Wrapped) c, m.Inv ring →
      (m.call ring c).db.nextKeyID c.scope < 2 ^ 32 → ¬m.Ambiguous ring c →
        (m.call ring c).Inv ring := fun m c h _ hsafe => h.call hsafe
  have hbreak : ∀ (m : KeyManager Key Wrapped) c, m.Inv ring →
      (m.call ring c).db.nextKeyID c.scope < 2 ^ 32 → ¬¬m.Ambiguous ring c →
        ¬(m.call ring c).Survives ring := fun m c h hlt hamb =>
    not_survives_of_broken (h.broken (not_not.mp hamb)) hlt
  have hstart : (fresh db).Inv ring :=
    ⟨hdb, hread, fun _ => entryOK_new, fun _ => ⟨fun h => (by cases h), fun _ => rfl⟩⟩
  exact throughout_iff_stepsOK hP hkeep hbreak hstart hids

/-- A first generation, a rotation and a read, all of them answered. -/
theorem survives_working_calls :
    let a : Answer ℕ := ⟨.ok, 0, some 7, some 0, true⟩
    let calls : List (Request ℕ) :=
      [⟨5, .ensureScope, a, a, a⟩, ⟨5, .rotate, a, a, a⟩, ⟨5, .current, a, a, a⟩]
    Throughout (call plainRing) (Survives plainRing) (fresh empty) calls := by
  intro a calls
  refine (survives_iff plainRing ok_empty (fun _ _ h => absurd h not_mem_nil) calls ?_).mpr ?_
  · decide +kernel
  · decide +kernel

/-- After an ambiguous first generation the scope never gets a key again, however well the database
works; after an ambiguous rotation `current` returns the generation that was retired. -/
theorem ambiguous_commits_break :
    let a : Answer ℕ := ⟨.ok, 0, some 7, some 0, true⟩
    let lost : Answer ℕ := ⟨.lost, 0, some 7, some 0, true⟩
    let m : KeyManager ℕ ℕ := fresh empty
    let minted := m.call plainRing ⟨5, .ensureScope, a, a, lost⟩
    let rotated := (m.call plainRing ⟨5, .ensureScope, a, a, a⟩).call plainRing
      ⟨5, .rotate, a, a, lost⟩
    (minted.reply plainRing ⟨5, .ensureScope, a, a, a⟩ = some (.error .persist) ∧
      minted.reply plainRing ⟨5, .rotate, a, a, a⟩ = some (.error .persist)) ∧
    rotated.reply plainRing ⟨5, .current, a, a, a⟩ = some (.key 1 7) ∧
      rotated.db.live 5 = some 2 := by
  decide +kernel

end runs

/-! ## Whole calls and goroutines -/

section solo

variable {ring} {s : KeyServer Key Wrapped} {t : ℕ} {scope : Int} {op : Op}
  {scopes : Int → ScopeEntry Key} {f : Effect Key Wrapped}

/-- The call of a goroutine at a stage; a call that has ended is gone. -/
def Stage.thread (scope : Int) (op : Op) : Stage Key Wrapped → Option (Thread Key Wrapped)
  | .done _ => none
  | stage => some ⟨scope, op, some stage⟩

/-- The server while one goroutine is on the way, and nothing else has changed since `scopes`. -/
structure Alone (s : KeyServer Key Wrapped) (t : ℕ) (scope : Int) (op : Op)
    (scopes : Int → ScopeEntry Key) (f : Effect Key Wrapped) : Prop where
  db : s.db = f.db
  scopes : s.scopes = update scopes scope f.entry
  thread : s.threads t = f.stage.thread scope op

variable (ring) in
/-- A step of the goroutine is a step of the call. -/
theorem Alone.step (h : Alone s t scope op scopes f) (a : Answer Key) :
    Alone (s.step ring (.advance t a)) t scope op scopes
      (advance ring scope op a f.db f.entry f.stage) := by
  have hentry : s.scopes scope = f.entry := by rw [h.scopes, update_self]
  have hth := h.thread
  cases hstage : f.stage with
  | done result =>
    simp only [hstage, Stage.thread] at hth
    simp only [KeyServer.step, hth, advance]
    exact ⟨h.db, h.scopes, hth⟩
  | load | alloc | persist | fetch =>
    simp only [hstage, Stage.thread] at hth
    simp only [KeyServer.step, hth, hentry, h.db]
    generalize advance ring scope op a f.db f.entry _ = f'
    have hscopes : update s.scopes scope f'.entry = update scopes scope f'.entry := by
      rw [h.scopes, update_idem]
    cases hstage' : f'.stage with
    | done | load | alloc | persist | fetch =>
      refine ⟨rfl, hscopes, ?_⟩
      rw [hstage']
      exact update_self t _ s.threads

/-- **A goroutine that is alone makes a whole call.** -/
theorem solo_call (c : Request Key) (hidle : s.threads t = none) (hfree : s.holder c.scope = none)
    (hop : c.op.refused = none) :
    let s' := run (KeyServer.step ring) s
      [.call t c.scope c.op, .lock t, .advance t c.first, .advance t c.second, .advance t c.third]
    s'.db = ((mk s.db s.scopes).call ring c).db ∧
      s'.scopes = ((mk s.db s.scopes).call ring c).scopes ∧
      s'.threads t = none := by
  have hstart : Alone (run (KeyServer.step ring) s [.call t c.scope c.op, .lock t]) t c.scope c.op
      s.scopes ⟨s.db, s.scopes c.scope, .load, none, none⟩ := by
    have hcall : s.step ring (.call t c.scope c.op) =
        { s with threads := update s.threads t (some ⟨c.scope, c.op, none⟩) } := by
      simp [KeyServer.step, hidle, hop]
    simp only [run_cons, run_nil, hcall]
    simp only [KeyServer.step, update_self, hfree, isNone_none, if_true]
    exact ⟨rfl, (update_eq_self _ _).symm, update_self _ _ _⟩
  have hfirst := hstart.step ring c.first
  have hsecond := hfirst.step ring c.second
  have hthird := hsecond.step ring c.third
  obtain ⟨result, hdone⟩ := thirdStep_done ring (mk s.db s.scopes) c
  simp only [call, hop]
  refine ⟨hthird.db, hthird.scopes, hthird.thread.trans ?_⟩
  show ((mk s.db s.scopes).thirdStep ring c).stage.thread c.scope c.op = none
  rw [hdone]
  rfl

theorem solo_call_ensureScope :
    let a : Answer ℕ := ⟨.ok, 0, some 7, some 0, true⟩
    let m := (fresh empty).call plainRing ⟨5, .ensureScope, a, a, a⟩
    let s := run (KeyServer.step plainRing) (.start plainRing empty)
      [.call 0 5 .ensureScope, .lock 0, .advance 0 a, .advance 0 a, .advance 0 a]
    s.db = m.db ∧ s.scopes = m.scopes ∧ s.threads 0 = none :=
  solo_call ⟨5, .ensureScope, _, _, _⟩ rfl rfl rfl

end solo

end Voicx.Server.ScopeKeys
