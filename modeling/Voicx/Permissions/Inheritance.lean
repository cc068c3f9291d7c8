import Voicx.Permissions.Resolution
import Voicx.State.ChannelTree

/-!
# How far inheritance reaches

A channel with `InheritPermissions` set takes over from its parent, and so on up the tree. Two walks
follow that chain: `EffectiveJoinPower` in memory, for the needed join power, and the recursive
query of `loadChannelPermissionChain`, for the entries of the channel tier. Both stop after
`maxChannelDepth` parents, so that a cycle written into the database by hand cannot hold them up.
`UpdateChannel` refuses a parent deeper than that; `CreateChannel` has no such check.

* `Manager.InChain` — the complete chain, without a bound.
* `treeRows`, `channelTierOf_eq_gateChain` — over one tree both walks visit the same channels.
* `CapHidesNothing` — the channels behind the bound say nothing that the visited ones do not say.
* **`inheritance_complete_iff`** — both walks give what the complete chain gives if and only if the
  bound hides nothing.
-/

namespace Voicx.State.Manager

open Found

/-- `id` is the channel or an ancestor that gates it, at any distance. -/
def InChain (m : Manager) (channelID id : Int) : Prop :=
  Relation.ReflTransGen (Link m.inheritsFrom) channelID id

/-- The computed power is the largest of the complete chain exactly when every channel behind the
bound needs no more than a visited one. -/
lemma isGreatest_effectiveJoinPower_iff (m : Manager) (channelID : Int) :
    IsGreatest {p | ∃ id, m.InChain channelID id ∧ p = m.ownJoinPower id}
        (m.effectiveJoinPower channelID) ↔
      ∀ id, m.InChain channelID id → id ∉ m.gateChain channelID →
        ∃ i ∈ m.gateChain channelID, m.ownJoinPower id ≤ m.ownJoinPower i := by
  constructor
  · rintro ⟨-, hupper⟩ id hid _
    exact le_effectiveJoinPower_iff.mp (hupper ⟨id, hid, rfl⟩)
  intro hshown
  constructor
  · -- the maximum is attained on the visited part
    obtain ⟨i, hi, hle⟩ := le_effectiveJoinPower_iff.mp (le_refl (m.effectiveJoinPower channelID))
    have hge := effectiveJoinPower_le_iff.mp (le_refl (m.effectiveJoinPower channelID)) i hi
    exact ⟨i, reflTransGen_of_mem_cons_chain hi, le_antisymm hle hge⟩
  · rintro p ⟨id, hid, rfl⟩
    rw [le_effectiveJoinPower_iff]
    by_cases hmem : id ∈ m.gateChain channelID
    · exact ⟨id, hmem, le_rfl⟩
    · exact hshown id hid hmem

end Voicx.State.Manager

namespace Voicx.Permissions

open Found State

/-! ## One tree, two walks -/

/-- The `channels` rows of the tree that the state manager holds. -/
def treeRows (m : Manager) (id : Int) : Option ChannelRow :=
  (m.channels.lookup id).map fun ch =>
    ⟨if ch.parentID = 0 then none else some ch.parentID, ch.inheritPermissions⟩

section walks

variable {m : Manager}

/-- The recursive query follows the links of the in-memory walk. -/
lemma chainFrom_treeRows (n : ℕ) (id : Int) :
    chainFrom (treeRows m) n id =
      if id ∈ m.channels then id :: chain m.inheritsFrom n id else [] := by
  induction n generalizing id with
  | zero =>
    rw [chainFrom]
    cases hch : m.channels.lookup id with
    | none => simp [treeRows, hch, Finmap.lookup_eq_none.mp hch]
    | some ch => simp [treeRows, hch, Finmap.mem_of_lookup_eq_some hch]
  | succ n ih =>
    rw [chainFrom]
    cases hch : m.channels.lookup id with
    | none => simp [treeRows, hch, Finmap.lookup_eq_none.mp hch]
    | some ch =>
      have hlive : id ∈ m.channels := Finmap.mem_of_lookup_eq_some hch
      rw [if_pos hlive]
      simp only [treeRows, hch, Option.map_some]
      congr 1
      by_cases hroot : ch.parentID = 0
      · rw [chain_succ_of_none (by simp [Manager.inheritsFrom, hch, hroot])]
        simp [hroot]
      cases hinherit : ch.inheritPermissions with
      | false => rw [chain_succ_of_none (by simp [Manager.inheritsFrom, hch, hinherit])]
      | true =>
        simp only [hroot, if_false]
        have hnext := ih ch.parentID
        by_cases hparent : ch.parentID ∈ m.channels
        · rw [if_pos hparent] at hnext
          rw [chain_succ_of_some (Manager.inheritsFrom_eq_some_iff.mpr
            ⟨ch, hch, hinherit, rfl, hroot, hparent⟩), ← hnext]
        · rw [if_neg hparent] at hnext
          rw [chain_succ_of_none
            (by simp [Manager.inheritsFrom, hch, hinherit, hroot, hparent]), ← hnext]

/-- Over one tree, the channel tier is read from the channels that gate the join. -/
theorem channelTierOf_eq_gateChain {db : PermDB} (htree : db.channels = treeRows m)
    (channelID : Int) : channelTierOf db channelID = m.gateChain channelID := by
  have hchain : channelPermissionChain channelID db =
      if channelID ∈ m.channels then m.gateChain channelID else [] := by
    rw [channelPermissionChain, htree]
    exact chainFrom_treeRows maxChannelDepth channelID
  rw [channelTierOf, hchain]
  by_cases hlive : channelID ∈ m.channels
  · simp [hlive, Manager.gateChain]
  · have hlink : m.inheritsFrom channelID = none := by
      simp [Manager.inheritsFrom, Finmap.lookup_eq_none.mpr hlive]
    rw [if_neg hlive, if_pos rfl, Manager.gateChain, Manager.maxChannelDepth,
      chain_succ_of_none hlink]

end walks

/-! ## The complete chain -/

/-- The channel has an entry of its own for the key. -/
def Defines (db : PermDB) (key : String) (channelID : Int) : Prop :=
  (entryAt db (.channel channelID) key).isSome

/-- Every channel of the chain behind the bound needs no more join power than a channel within it,
and has entries only for keys that a channel within it has an entry for. -/
def CapHidesNothing (m : Manager) (db : PermDB) (channelID : Int) : Prop :=
  ∀ id, m.InChain channelID id → id ∉ m.gateChain channelID →
    (∃ i ∈ m.gateChain channelID, m.ownJoinPower id ≤ m.ownJoinPower i) ∧
      ∀ key, Defines db key id → ∃ i ∈ m.gateChain channelID, Defines db key i

/-- A chain that ends within the bound is visited whole. -/
lemma capHidesNothing_of_end {m : Manager} (db : PermDB) {channelID : Int} (last : Int)
    (hlast : last ∈ m.gateChain channelID) (hend : m.inheritsFrom last = none) :
    CapHidesNothing m db channelID := by
  intro id hid hbehind
  have hbeyond := (mem_chain_or_beyond hid Manager.maxChannelDepth).resolve_left hbehind last hlast
  rcases reflTransGen_link_cases hbeyond with rfl | ⟨b, hb, -⟩
  · exact absurd hlast hbehind
  · rw [hend] at hb
    cases hb

/-- **How far inheritance reaches.** Over an acyclic tree: the effective join power is the largest
of the complete chain and every key of the channel tier comes from the nearest channel of the
complete chain that defines it, if and only if the bound on the walks hides nothing. -/
theorem inheritance_complete_iff {m : Manager} (hacyclic : m.Acyclic) {db : PermDB}
    (htree : db.channels = treeRows m) (channelID : Int) :
    (IsGreatest {p | ∃ id, m.InChain channelID id ∧ p = m.ownJoinPower id}
          (m.effectiveJoinPower channelID) ∧
        ∀ key p, ((loadChannelPermissionChain channelID).eval db).lookup key = some p ↔
          ∃ id, Nearest m.inheritsFrom (Defines db key) channelID id ∧
            entryAt db (.channel id) key = some p) ↔
      CapHidesNothing m db channelID := by
  have htier : ∀ key, ((loadChannelPermissionChain channelID).eval db).lookup key =
      (m.gateChain channelID).findSome? fun id => entryAt db (.channel id) key := by
    intro key
    rw [lookup_loadChannelPermissionChain, chainEntry, channelTierOf_eq_gateChain htree, tierEntry]
  have hsearch : ∀ key,
      (∀ p, ((loadChannelPermissionChain channelID).eval db).lookup key = some p ↔
          ∃ id, Nearest m.inheritsFrom (Defines db key) channelID id ∧
            entryAt db (.channel id) key = some p) ↔
        ∀ id, m.InChain channelID id → id ∉ m.gateChain channelID → Defines db key id →
          ∃ i ∈ m.gateChain channelID, Defines db key i := by
    intro key
    rw [htier]
    -- in a tree, no channel inherits from itself
    exact findSome?_chain_nearest_iff fun id hcycle =>
      hacyclic id (Relation.TransGen.mono (fun _ _ => Manager.isParent_of_inheritsFrom) _ _ hcycle)
  rw [Manager.isGreatest_effectiveJoinPower_iff]
  constructor
  · rintro ⟨hpower, hkeys⟩ id hid hbehind
    exact ⟨hpower id hid hbehind, fun key hdef => (hsearch key).mp (hkeys key) id hid hbehind hdef⟩
  · intro hcap
    refine ⟨fun id hid hbehind => (hcap id hid hbehind).1, fun key => ?_⟩
    exact (hsearch key).mpr fun id hid hbehind hdef => (hcap id hid hbehind).2 key hdef

/-! ### Two trees -/

/-- A straight tree: channel 1 at the root with the given power, each further channel under the one
before it and inheriting. -/
def straightTree (depth : ℕ) (power : Int) : Manager :=
  (List.range depth).foldl
    (fun m i => m.addChannel
      { channelID := i + 1, parentID := i, inheritPermissions := true
        neededJoinPower := if i = 0 then power else 0 })
    Manager.new

/-- The tables of the tree, with an entry that channel 1 alone has. -/
def straightDB (m : Manager) : PermDB :=
  { PermDB.empty with
    perms := PermRows.empty.put (.channel 1) { key := "b_chat_mention_all", value := 1 }
    channels := treeRows m }

lemma straightDB_channels (m : Manager) : (straightDB m).channels = treeRows m := rfl

/-- With three channels the lowest one is gated by the power of the root and takes its entry. -/
theorem inheritance_complete_three :
    (straightTree 3 100).effectiveJoinPower 3 = 100 ∧
      IsGreatest {p | ∃ id, (straightTree 3 100).InChain 3 id ∧
        p = (straightTree 3 100).ownJoinPower id} ((straightTree 3 100).effectiveJoinPower 3) ∧
      ∀ key p, ((loadChannelPermissionChain 3).eval (straightDB (straightTree 3 100))).lookup key =
          some p ↔
        ∃ id, Nearest (straightTree 3 100).inheritsFrom
            (Defines (straightDB (straightTree 3 100)) key) 3 id ∧
          entryAt (straightDB (straightTree 3 100)) (.channel id) key = some p :=
  ⟨by decide,
    (inheritance_complete_iff (Manager.acyclic_of_rank Int.toNat (by decide))
      (straightDB_channels _) 3).mpr
      (capHidesNothing_of_end _ 1 (by decide) (by decide))⟩

/-- With 66 channels in a row the lowest one is 65 links below the root: neither the root's needed
power nor its entry reaches it, although every channel between them inherits. -/
theorem inheritance_lost_behind_bound :
    (straightTree 66 100).Acyclic ∧
      (straightDB (straightTree 66 100)).channels = treeRows (straightTree 66 100) ∧
      (straightTree 66 100).InChain 66 1 ∧
      (straightTree 66 100).ownJoinPower 1 = 100 ∧
      (straightTree 66 100).effectiveJoinPower 66 = 0 ∧
      (entryAt (straightDB (straightTree 66 100)) (.channel 1) "b_chat_mention_all").isSome ∧
      ((loadChannelPermissionChain 66).eval (straightDB (straightTree 66 100))).lookup
        "b_chat_mention_all" = none :=
  ⟨Manager.acyclic_of_rank Int.toNat (by decide +kernel), straightDB_channels _,
    reflTransGen_of_mem_cons_chain (n := 65) (by decide +kernel), by decide +kernel,
    by decide +kernel, by decide +kernel, by decide +kernel⟩

end Voicx.Permissions
