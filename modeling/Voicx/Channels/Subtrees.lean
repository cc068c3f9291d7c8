import Voicx.Channels.Manager

/-!
# Finding a subtree

Both the channel manager and the gRPC control server collect the channels below a root from a list
of channels with their parents: the one with a queue, the other with a stack. The parents need not
form a tree, and may be missing.

* `stateChannelSubtreeIDsLoop` — the loop behind the set `stateChannelSubtreeIDs`.
* `subtreeCanonical` — the control server's, for which the root 0 is the whole tree.
* `subtree_discovery` — **the loop finds the channels from which the root is reached, each once, and
  the control server finds the same ones; for the root 0 it finds every channel.**
-/

namespace Voicx.Channels.ChannelManager

open Found State List Relation

/-- The channels of a state with their parents, listed in some order. -/
structure Listing (m : Manager) (rows : List (Int × Int)) : Prop where
  nodup : (rows.map Prod.fst).Nodup
  mem_iff : ∀ id parentID, (id, parentID) ∈ rows ↔ (stateParents m).lookup id = some parentID

/-- Source: `internal/channels/manager.go`, `stateChannelSubtreeIDs`
Fidelity: the ids that are present are picked after the walk, not on it -/
def stateChannelSubtreeIDsLoop (rows : List (Int × Int)) (channelID : Int) : List Int :=
  (walk rows false [channelID] []).filter (· ∈ rows.map Prod.fst)

/-- Source: `internal/grpcserver/control.go`, `subtreeCanonical` -/
def subtreeCanonical (all : List (Int × Int)) (root : Int) : Finset Int :=
  if root = 0 then (all.map Prod.fst).toFinset
  else if root ∉ all.map Prod.fst then ∅
  else (walk all true [root] []).toFinset

variable {m : Manager} {rows : List (Int × Int)} {root id : Int}

lemma Listing.mem_ids (h : Listing m rows) : id ∈ rows.map Prod.fst ↔ id ∈ m.channels := by
  rw [← mem_stateParents, Finmap.mem_iff]
  simp [h.mem_iff]

/-- Either walk meets the channels from which the root is reached. -/
lemma Listing.mem_walk_iff (h : Listing m rows) (lifo : Bool) :
    id ∈ walk rows lifo [root] [] ↔ ReflTransGen (Link (stateParents m).lookup) id root := by
  rw [mem_walk (by simp), ← reflTransGen_swap]
  simp only [not_mem_nil, false_or, mem_singleton, exists_eq_left]
  have hlink : (fun p c => c ∈ children rows p) = Function.swap (Link (stateParents m).lookup) := by
    funext p c
    simp [Function.swap, Link, children, h.mem_iff]
  rw [hlink]

/-- **Subtree discovery is exact.** The manager's loop finds each channel from which the root is
reached once; the control server finds the same ones, and for the root 0 every channel. -/
theorem subtree_discovery (h : Listing m rows) (hroot : root ∈ m.channels) :
    (stateChannelSubtreeIDsLoop rows root).Nodup ∧
      (stateChannelSubtreeIDsLoop rows root).toFinset = stateChannelSubtreeIDs m root ∧
      (∀ id, id ∈ stateChannelSubtreeIDs m root ↔
        id ∈ m.channels ∧ ReflTransGen (Link (stateParents m).lookup) id root) ∧
      (root ≠ 0 → subtreeCanonical rows root = stateChannelSubtreeIDs m root) ∧
      ∀ id, id ∈ subtreeCanonical rows 0 ↔ id ∈ m.channels := by
  have hmem : ∀ id, id ∈ stateChannelSubtreeIDs m root ↔
      id ∈ m.channels ∧ ReflTransGen (Link (stateParents m).lookup) id root := fun id =>
    mem_subtree.trans (and_congr_left' mem_stateParents)
  refine ⟨(nodup_walk nodup_nil).filter _, ?_, hmem, fun hzero => ?_, fun id => ?_⟩
  · ext id
    rw [stateChannelSubtreeIDsLoop, hmem, mem_toFinset, mem_filter, decide_eq_true_eq, h.mem_ids,
      h.mem_walk_iff, and_comm]
  · ext id
    rw [subtreeCanonical, if_neg hzero, if_neg (not_not.mpr (h.mem_ids.mpr hroot)), hmem,
      mem_toFinset, h.mem_walk_iff]
    -- what reaches the root is the root, or has a parent
    refine ⟨fun hreach => ⟨?_, hreach⟩, And.right⟩
    rcases reflTransGen_link_cases hreach with rfl | ⟨p, hp, -⟩
    · exact hroot
    · exact mem_stateParents.mp (Finmap.mem_of_lookup_eq_some hp)
  · rw [subtreeCanonical, if_pos rfl, mem_toFinset, h.mem_ids]

/-- A channel 0, and two channels that are each other's parent. -/
def cyclicRows : List (Int × Int) := [(0, 9), (5, 6), (6, 5)]

def cyclicState : Manager :=
  cyclicRows.foldl (fun m row => m.addChannel { channelID := row.1, parentID := row.2 }) Manager.new

lemma listing_cyclic : Listing cyclicState cyclicRows := by
  refine ⟨by decide, fun id parentID => ?_⟩
  simp only [cyclicRows, cyclicState, foldl_cons, foldl_nil, lookup_stateParents,
    Manager.addChannel, FMap.lookup_insert_ite]
  split_ifs <;> simp_all [Manager.new, eq_comm]

theorem subtree_discovery_cyclic : (stateChannelSubtreeIDsLoop cyclicRows 5).toFinset = {5, 6} :=
  (subtree_discovery listing_cyclic (by decide +kernel)).2.1.trans (by decide +kernel)

/-- For the root 0 the control server returns every channel. -/
theorem whole_tree_of_zero :
    Listing cyclicState cyclicRows ∧ 0 ∈ cyclicState.channels ∧
      stateChannelSubtreeIDsLoop cyclicRows 0 = [0] ∧ subtreeCanonical cyclicRows 0 = {0, 5, 6} :=
  ⟨listing_cyclic, by decide +kernel, by decide +kernel, by decide⟩

end Voicx.Channels.ChannelManager
