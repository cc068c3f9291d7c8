import Voicx.Found.Chain
import Voicx.State.Manager

/-!
# The channel tree and the join gate

Model of the parent walks of `internal/state/types.go`. Channels form a tree through `ParentID`; a
channel with `InheritPermissions` set is gated by its ancestors as well, up to the first one that
does not inherit itself.

* `effectiveJoinPower` — the source's loop: the highest needed power along the inheritance chain.
* `inheritsFrom` — one link of that chain; `effectiveJoinPower_eq` — the loop is the maximum over
  the `chain` of those links.
* `effectiveJoinPower_le_iff`, `le_effectiveJoinPower_iff` — its two bounds, which is how every
  proof about the gate uses it.
* `IsParent`, `Acyclic` — the tree itself, inherited or not.
-/

namespace Voicx.State

open Found

namespace Manager

/-- The cap on every parent walk.
Source: `internal/state/types.go`, `maxChannelDepth` -/
def maxChannelDepth : ℕ := 64

/-- The loop of `EffectiveJoinPower`: `n` more parents may be visited. -/
def joinPowerLoop (m : Manager) : ℕ → Int → Int → Int
  | 0, _, needed => needed
  | n + 1, id, needed =>
    match m.channels.lookup id with
    | none => needed
    | some cur =>
      if !cur.inheritPermissions || cur.parentID == 0 then needed
      else match m.channels.lookup cur.parentID with
        | none => needed
        | some parent =>
          m.joinPowerLoop n cur.parentID
            (if parent.neededJoinPower > needed then parent.neededJoinPower else needed)

/-- The needed join power a client must meet to enter a channel.
Source: `internal/state/types.go`, `EffectiveJoinPower` -/
def effectiveJoinPower (m : Manager) (channelID : Int) : Int :=
  match m.channels.lookup channelID with
  | none => 0
  | some ch => m.joinPowerLoop maxChannelDepth channelID ch.neededJoinPower

/-! ## The inheritance chain -/

/-- The parent a channel inherits from, if it inherits and the parent is live. -/
def inheritsFrom (m : Manager) (id : Int) : Option Int :=
  match m.channels.lookup id with
  | none => none
  | some cur =>
    if !cur.inheritPermissions || cur.parentID == 0 then none
    else if cur.parentID ∈ m.channels then some cur.parentID else none

/-- A channel's own needed join power. -/
def ownJoinPower (m : Manager) (id : Int) : Int :=
  ((m.channels.lookup id).map Channel.neededJoinPower).getD 0

/-- The channel and the ancestors that gate it. -/
def gateChain (m : Manager) (channelID : Int) : List Int :=
  channelID :: chain m.inheritsFrom maxChannelDepth channelID

section loop

variable {m : Manager}

/-- The loop takes the maximum along the chain. -/
lemma joinPowerLoop_eq (n : ℕ) (id needed : Int) :
    m.joinPowerLoop n id needed =
      (chain m.inheritsFrom n id).foldl (fun p i => max p (m.ownJoinPower i)) needed := by
  induction n generalizing id needed with
  | zero => rfl
  | succ n ih =>
    rw [joinPowerLoop]
    cases hcur : m.channels.lookup id with
    | none =>
      rw [chain_succ_of_none (by simp [inheritsFrom, hcur])]
      rfl
    | some cur =>
      simp only
      by_cases hroot : (!cur.inheritPermissions || cur.parentID == 0) = true
      · rw [if_pos hroot, chain_succ_of_none (by simp [inheritsFrom, hcur, hroot])]
        rfl
      rw [if_neg hroot]
      cases hparent : m.channels.lookup cur.parentID with
      | none =>
        have hnot : cur.parentID ∉ m.channels := Finmap.lookup_eq_none.mp hparent
        rw [chain_succ_of_none (by simp [inheritsFrom, hcur, hroot, hnot])]
        rfl
      | some parent =>
        have hmem : cur.parentID ∈ m.channels := Finmap.mem_of_lookup_eq_some hparent
        have hpower : m.ownJoinPower cur.parentID = parent.neededJoinPower := by
          simp [ownJoinPower, hparent]
        have hlink : m.inheritsFrom id = some cur.parentID := by
          simp only [inheritsFrom, hcur, if_neg hroot, if_pos hmem]
        have hmax : (if parent.neededJoinPower > needed then parent.neededJoinPower
            else needed) = max needed parent.neededJoinPower := by
          split_ifs <;> omega
        simp only [hmax]
        rw [chain_succ_of_some hlink, List.foldl_cons, hpower, ih]

/-- **The gate is the strongest power on the chain.** -/
theorem effectiveJoinPower_eq (channelID : Int) :
    m.effectiveJoinPower channelID =
      (chain m.inheritsFrom maxChannelDepth channelID).foldl
        (fun p i => max p (m.ownJoinPower i)) (m.ownJoinPower channelID) := by
  unfold effectiveJoinPower
  cases hch : m.channels.lookup channelID with
  | none =>
    have hpower : m.ownJoinPower channelID = 0 := by simp [ownJoinPower, hch]
    have hchain : chain m.inheritsFrom maxChannelDepth channelID = [] :=
      chain_succ_of_none (by simp [inheritsFrom, hch])
    rw [hpower, hchain]
    rfl
  | some ch =>
    have hpower : m.ownJoinPower channelID = ch.neededJoinPower := by simp [ownJoinPower, hch]
    rw [hpower]
    exact joinPowerLoop_eq maxChannelDepth channelID ch.neededJoinPower

lemma foldl_max_le_iff (f : Int → Int) (ids : List Int) (p B : Int) :
    ids.foldl (fun p i => max p (f i)) p ≤ B ↔ p ≤ B ∧ ∀ i ∈ ids, f i ≤ B := by
  induction ids generalizing p with
  | nil => simp
  | cons i ids ih => rw [List.foldl_cons, ih, max_le_iff, List.forall_mem_cons, and_assoc]

/-- A bound on the gate is a bound on every channel of the chain. -/
theorem effectiveJoinPower_le_iff {channelID B : Int} :
    m.effectiveJoinPower channelID ≤ B ↔ ∀ i ∈ m.gateChain channelID, m.ownJoinPower i ≤ B := by
  rw [effectiveJoinPower_eq, foldl_max_le_iff, gateChain, List.forall_mem_cons]

/-- The gate is as strong as one channel of the chain. -/
theorem le_effectiveJoinPower_iff {channelID B : Int} :
    B ≤ m.effectiveJoinPower channelID ↔ ∃ i ∈ m.gateChain channelID, B ≤ m.ownJoinPower i := by
  rw [← not_iff_not, not_le, ← Int.le_sub_one_iff, effectiveJoinPower_le_iff]
  constructor
  · rintro h ⟨i, hi, hB⟩
    have := h i hi
    omega
  · intro h i hi
    by_contra hlt
    exact h ⟨i, hi, by omega⟩

end loop

/-! ## The tree -/

/-- `parent` is the parent of the live channel `id`. -/
def IsParent (m : Manager) (id parent : Int) : Prop :=
  ∃ ch, m.channels.lookup id = some ch ∧ ch.parentID = parent ∧ parent ≠ 0

/-- No channel is its own ancestor. -/
def Acyclic (m : Manager) : Prop := ∀ id, ¬Relation.TransGen m.IsParent id id

/-- The channel itself and everything under it. -/
def InSubtree (m : Manager) (id root : Int) : Prop := Relation.ReflTransGen m.IsParent id root

section tree

variable {m : Manager} {id parent : Int}

/-- An inherited link is a parent link to a live channel. -/
lemma inheritsFrom_eq_some_iff :
    m.inheritsFrom id = some parent ↔
      ∃ ch, m.channels.lookup id = some ch ∧ ch.inheritPermissions = true ∧ ch.parentID = parent ∧
        parent ≠ 0 ∧ parent ∈ m.channels := by
  unfold inheritsFrom
  cases hch : m.channels.lookup id with
  | none => simp
  | some ch =>
    simp only [Option.some.injEq, exists_eq_left']
    constructor
    · intro h
      split_ifs at h with hroot hlive
      cases h
      simp only [Bool.or_eq_true, Bool.not_eq_eq_eq_not, Bool.not_true, beq_iff_eq, not_or,
        Bool.not_eq_false] at hroot
      exact ⟨hroot.1, rfl, hroot.2, hlive⟩
    · rintro ⟨hinherit, rfl, h0, hlive⟩
      simp [hinherit, h0, hlive]

lemma isParent_of_inheritsFrom (h : m.inheritsFrom id = some parent) : m.IsParent id parent := by
  obtain ⟨ch, hch, -, hparent, h0, -⟩ := inheritsFrom_eq_some_iff.mp h
  exact ⟨ch, hch, hparent, h0⟩

/-- What gates a channel is above it. -/
lemma transGen_of_mem_inherits {n : ℕ} (h : parent ∈ chain m.inheritsFrom n id) :
    Relation.TransGen m.IsParent id parent :=
  Relation.TransGen.mono (fun _ _ => isParent_of_inheritsFrom) _ _ (transGen_of_mem_chain h)

lemma inSubtree_of_mem_gateChain (h : parent ∈ m.gateChain id) : m.InSubtree id parent := by
  rcases List.mem_cons.mp h with rfl | hmem
  · exact Relation.ReflTransGen.refl
  · exact (transGen_of_mem_inherits hmem).to_reflTransGen

/-- A tree whose parents have smaller rank has no cycle. -/
lemma acyclic_of_rank (rank : Int → ℕ)
    (h : ∀ id ∈ m.channels.keys, (m.channels.lookup id).all fun ch =>
      decide (ch.parentID = 0 ∨ rank ch.parentID < rank id)) : m.Acyclic := by
  have hstep : ∀ {a b}, m.IsParent a b → rank b < rank a := by
    rintro a b ⟨ch, hch, rfl, h0⟩
    have hall := h a (Finmap.mem_keys.mpr (Finmap.mem_of_lookup_eq_some hch))
    rw [hch] at hall
    exact (of_decide_eq_true hall).resolve_left h0
  have hlt : ∀ {a b}, Relation.TransGen m.IsParent a b → rank b < rank a := by
    intro a b hab
    induction hab with
    | single hab => exact hstep hab
    | tail _ hbc ih => exact (hstep hbc).trans ih
  exact fun id hcycle => lt_irrefl _ (hlt hcycle)

end tree

end Manager

end Voicx.State
