import Voicx.Channels.Mirror
import Voicx.State.Membership

/-!
# Timers and eligibility

What decides whether a channel should have a cleanup timer, and what a reconciliation settles.
Eligibility depends on a channel's own record, on its members and on the parents of all others, so
an operation has to reconcile every channel whose eligibility it can change.

* `Scheduled`, `TimersExact` — the timer of one channel is right, all are.
* `scheduled_reconcile`, `scheduled_reconcileAll` — what a reconciliation settles.
* `eligible_eq_of_parents`, `eligible_eq_of_change` — what eligibility depends on.
* `treeView_node` — the agreement of state and table, as far as the tree is concerned.
* `TimersExact.afterInsert`, `TimersExact.commitUpdate_of_mem`, `TimersExact.commitType_of_mem` —
  creating and editing.
-/

namespace Voicx.Channels

open Found State Finmap

namespace ChannelManager

/-! ## Reconciliation -/

/-- The channel has a timer exactly if it is temporary, empty and childless. -/
def Scheduled (cm : ChannelManager) (channelID : Int) : Prop :=
  channelID ∈ cm.timers ↔ eligible cm.state channelID = true

/-- The channels with a timer are the temporary, empty and childless channels of the state. -/
def TimersExact (cm : ChannelManager) : Prop := ∀ channelID, cm.Scheduled channelID

section reconcile

variable {cm : ChannelManager} {c d : Int}

lemma mem_timers_cancel :
    d ∈ (cm.cancelCleanupLocked c).timers ↔ d ≠ c ∧ d ∈ cm.timers := mem_erase

/-- A reconciliation settles its channel and leaves the others alone. -/
theorem scheduled_reconcile :
    (cm.reconcileCleanupWatcherLocked c).Scheduled d ↔ d = c ∨ cm.Scheduled d := by
  unfold Scheduled
  rw [reconcile_state]
  unfold reconcileCleanupWatcherLocked
  split_ifs with helig
  · rw [startCleanupWatcherLocked, mem_insert]
    by_cases hd : d = c
    · subst hd
      simp [helig]
    · simp [hd]
  · rw [mem_timers_cancel]
    by_cases hd : d = c
    · subst hd
      simp [helig]
    · simp [hd]

/-- A reconciled channel has the timer it should have. -/
theorem scheduled_reconcileAll {channelIDs : List Int} :
    (cm.reconcileAll channelIDs).Scheduled d ↔ d ∈ channelIDs ∨ cm.Scheduled d := by
  induction channelIDs generalizing cm with
  | nil => simp [reconcileAll]
  | cons c rest ih =>
    have hrest : (cm.reconcileAll (c :: rest)).Scheduled d ↔
        d ∈ rest ∨ (cm.reconcileCleanupWatcherLocked c).Scheduled d := ih
    rw [hrest, scheduled_reconcile, List.mem_cons, or_left_comm, or_assoc]

lemma scheduled_reconcileParents {old : Int} {new : Option Int} :
    (cm.reconcileParents old new).Scheduled d ↔
      (∃ p, new = some p ∧ (d = p ∧ p ≠ 0 ∨ d = old ∧ old ≠ 0 ∧ old ≠ p)) ∨ cm.Scheduled d := by
  cases new with
  | none => simp [reconcileParents]
  | some p =>
    unfold reconcileParents
    dsimp only
    split_ifs with hp hold hold
    all_goals
      simp only [scheduled_reconcile, Option.some.injEq, exists_eq_left']
      tauto

/-- A channel whose timer and eligibility stay. -/
lemma Scheduled.of_same {cm' : ChannelManager} (h : cm.Scheduled d)
    (htimer : d ∈ cm'.timers ↔ d ∈ cm.timers) (helig : eligible cm'.state d = eligible cm.state d) :
    cm'.Scheduled d := by
  unfold Scheduled
  rw [htimer, helig]
  exact h

end reconcile

/-! ## What eligibility depends on -/

/-- The part of a record that the tree and the timers depend on. -/
def node (ch : Channel) : Int × Int × Int := (ch.channelID, ch.parentID, ch.channelType)

/-- What the state says about the place of a channel in the tree. -/
def stateNode (m : Manager) (channelID : Int) : Option (Int × Int × Int) :=
  (stateRecord m channelID).map node

section eligible

variable {m m' : Manager} {d : Int}

lemma stateNode_eq (m : Manager) (d : Int) : stateNode m d = (m.channels.lookup d).map node := by
  rw [stateNode, stateRecord, Option.map_map]
  rfl

lemma stateNode_eq_none : stateNode m d = none ↔ d ∉ m.channels := by
  rw [stateNode_eq, Option.map_eq_none_iff, lookup_eq_none]

lemma stateType_eq (m : Manager) (d : Int) :
    stateType m d = (stateNode m d).map fun n => n.2.2 := by
  rw [stateNode_eq, Option.map_map]
  rfl

lemma lookup_stateParents_eq (m : Manager) (d : Int) :
    (stateParents m).lookup d = (stateNode m d).map fun n => n.2.1 := by
  rw [lookup_stateParents, stateNode_eq, Option.map_map]
  rfl

lemma eligible_of_notMem (h : d ∉ m.channels) : eligible m d = false := by
  unfold eligible
  rw [lookup_eq_none.mpr h]

lemma mem_channelMembers {clientID : String} :
    clientID ∈ channelMembers m d ↔ clientID ∈ m.membership.elems d ∧ clientID ∈ m.clients := by
  rw [channelMembers, Finset.mem_filter]

/-- Two states with the same members, in which the channel has the same type and the same other
channels point to it. -/
theorem eligible_eq_of_parents (hself : stateType m' d = stateType m d)
    (hmembers : channelMembers m' d = channelMembers m d)
    (hothers : ∀ k, k ≠ d → ((stateParents m').lookup k = some d ↔
      (stateParents m).lookup k = some d)) : eligible m' d = eligible m d := by
  have hchild : HasChild m' d ↔ HasChild m d := by
    constructor
    · rintro ⟨k, hk, hne⟩
      exact ⟨k, (hothers k hne).mp hk, hne⟩
    · rintro ⟨k, hk, hne⟩
      exact ⟨k, (hothers k hne).mpr hk, hne⟩
  rw [Bool.eq_iff_iff, eligible_iff, eligible_iff, hself, hmembers, hchild]

/-- Nothing that eligibility depends on has changed. -/
structure SameTree (m m' : Manager) : Prop where
  node_eq : ∀ id, stateNode m' id = stateNode m id
  membership : m'.membership = m.membership
  clients : m'.clients = m.clients

lemma SameTree.eligible_eq (h : SameTree m m') (d : Int) : eligible m' d = eligible m d := by
  refine eligible_eq_of_parents ?_ ?_ fun k _ => ?_
  · rw [stateType_eq, stateType_eq, h.node_eq d]
  · unfold channelMembers
    simp [h.membership, h.clients]
  · rw [lookup_stateParents_eq, lookup_stateParents_eq, h.node_eq k]

/-- Nobody has moved. -/
lemma placed_of_same (h : m.Placed) (hmembership : m'.membership = m.membership)
    (hclients : m'.clients = m.clients) : m'.Placed := by
  intro clientID ch
  rw [hmembership, Manager.chanOf, hclients]
  exact h clientID ch

variable {c : Int}

/-- The record of one channel has changed: eligibility changes at most for this channel, and for the
channels it points to. -/
theorem eligible_eq_of_change (hrest : ∀ k, k ≠ c → stateNode m' k = stateNode m k)
    (hmembership : m'.membership = m.membership) (hclients : m'.clients = m.clients)
    (hself : d = c → stateType m' c = stateType m c)
    (hchild : d ≠ c → ((stateParents m').lookup c = some d ↔ (stateParents m).lookup c = some d)) :
    eligible m' d = eligible m d := by
  refine eligible_eq_of_parents ?_ ?_ fun k hk => ?_
  · by_cases hd : d = c
    · rw [hd]
      exact hself hd
    · rw [stateType_eq, stateType_eq, hrest d hd]
  · unfold channelMembers
    simp [hmembership, hclients]
  · by_cases hkc : k = c
    · rw [hkc] at hk ⊢
      exact hchild (Ne.symm hk)
    · rw [lookup_stateParents_eq, lookup_stateParents_eq, hrest k hkc]

lemma stateNode_addChannel (m : Manager) (ch : Channel) (id : Int) :
    stateNode (m.addChannel ch) id =
      if id = ch.channelID then some (node ch) else stateNode m id := by
  unfold stateNode
  rw [stateRecord_addChannel]
  split_ifs <;> rfl

lemma stateNode_updateChannel (m : Manager) (c : Int) (u : State.ChannelUpdate) (id : Int) :
    stateNode (m.updateChannel c u).1 id =
      if id = c then (m.channels.lookup c).map fun ch => node (u.apply ch)
      else stateNode m id := by
  unfold stateNode
  rw [stateRecord_updateChannel]
  split_ifs
  · rw [Option.map_map]
    rfl
  · rfl

lemma mem_updateChannel {id : Int} {u : State.ChannelUpdate} :
    id ∈ (m.updateChannel c u).1.channels ↔ id ∈ m.channels := by
  unfold Manager.updateChannel
  split
  · rfl
  · exact FMap.mem_modify _ _ _ _

@[simp] lemma updateChannel_membership (m : Manager) (c : Int) (u : State.ChannelUpdate) :
    (m.updateChannel c u).1.membership = m.membership := by
  unfold Manager.updateChannel
  split <;> rfl

@[simp] lemma updateChannel_clients (m : Manager) (c : Int) (u : State.ChannelUpdate) :
    (m.updateChannel c u).1.clients = m.clients := by
  unfold Manager.updateChannel
  split <;> rfl

end eligible

/-! ## State and table -/

section agrees

variable {cm : ChannelManager}

/-- The place in the tree is a view that every edit respects. -/
lemma treeView_node : TreeView node where
  key h := congrArg Prod.fst h
  parent h := congrArg (fun n => n.2.1) h
  set {upd r ch id} _ h := by
    simp only [node, Prod.mk.injEq] at h
    show (ch.channelID, upd.parentID.getD ch.parentID, ch.channelType) = _
    rw [show ch.channelID = id from h.1, show ch.parentID = r.parentID from h.2.1,
      show ch.channelType = r.type.toInt from h.2.2]
    rfl
  setType type {r ch id} h := by
    simp only [node, Prod.mk.injEq] at h
    show (ch.channelID, ch.parentID, type.toInt) = _
    rw [show ch.channelID = id from h.1, show ch.parentID = r.parentID from h.2.1]
    rfl

/-- No channel of the state has the number 0. -/
lemma Agrees.zero_notMem (h : cm.Agrees node) : (0 : Int) ∉ cm.state.channels :=
  fun h0 => Table.zero_notMem (h.mem_iff.mp h0)

/-- A state that agrees with the same table, and in which nobody has moved. -/
lemma Agrees.sameTree {cm' : ChannelManager} (h : cm.Agrees node) (h' : cm'.Agrees node)
    (htable : cm'.table = cm.table) (hmembership : cm'.state.membership = cm.state.membership)
    (hclients : cm'.state.clients = cm.state.clients) : SameTree cm.state cm'.state where
  node_eq id := (h' id).trans (htable ▸ (h id).symm)
  membership := hmembership
  clients := hclients

end agrees

/-! ## Creating -/

section create

variable {cm : ChannelManager} {ch : Channel}

/-- A new channel changes nothing for others than itself and its parent, and nothing for a parent
that the state does not know. -/
lemma TimersExact.scheduled_add (h : cm.TimersExact) (hnew : ch.channelID ∉ cm.state.channels)
    {d : Int} (hd : d ≠ ch.channelID) (hparent : d = ch.parentID → d ∉ cm.state.channels)
    (t : Table) : ((cm.withTable t).withState (cm.state.addChannel ch)).Scheduled d := by
  refine (h d).of_same Iff.rfl ?_
  show eligible (cm.state.addChannel ch) d = _
  by_cases hp : d = ch.parentID
  · have hdead : d ∉ (cm.state.addChannel ch).channels := by
      rw [← stateNode_eq_none, stateNode_addChannel, if_neg hd]
      exact stateNode_eq_none.mpr (hparent hp)
    rw [eligible_of_notMem hdead, eligible_of_notMem (hparent hp)]
  have hrest : ∀ k, k ≠ ch.channelID →
      stateNode (cm.state.addChannel ch) k = stateNode cm.state k := by
    intro k hk
    rw [stateNode_addChannel, if_neg hk]
  refine eligible_eq_of_change hrest rfl rfl (fun heq => absurd heq hd) fun _ => ?_
  rw [lookup_stateParents_eq, lookup_stateParents_eq, stateNode_addChannel,
    stateNode_eq_none.mpr hnew]
  simp [node, Ne.symm hp]

/-- A creation reconciles the new channel, and its parent if it has one. -/
theorem TimersExact.afterInsert (h : cm.TimersExact) (ha : cm.Agrees node) (spec : ChannelSpec)
    (type : ChannelType) (passwordHash : String) :
    (cm.afterInsert spec type passwordHash).TimersExact := by
  have hnew : (spec.channel type passwordHash cm.table.nextID).channelID ∉ cm.state.channels :=
    fun hid => Table.nextID_notMem (ha.mem_iff.mp hid)
  intro d
  unfold ChannelManager.afterInsert
  by_cases hd : d = cm.table.nextID
  · split_ifs
    · exact scheduled_reconcile.mpr (.inr (scheduled_reconcile.mpr (.inl hd)))
    · exact scheduled_reconcile.mpr (.inl hd)
  split_ifs with hparent
  · rw [scheduled_reconcile, scheduled_reconcile]
    by_cases hp : d = spec.parentID
    · exact .inl hp
    · exact .inr (.inr (h.scheduled_add hnew hd (fun heq => absurd heq hp) _))
  · refine scheduled_reconcile.mpr (.inr (h.scheduled_add hnew hd (fun heq => ?_) _))
    rw [heq]
    show spec.parentID ∉ _
    rw [not_not.mp hparent]
    exact ha.zero_notMem

end create

/-! ## Editing -/

section edit

variable {cm : ChannelManager} {c : Int} {sql : Calls}

lemma node_patch (upd : ChannelUpdate) (ch : Channel) :
    node (upd.patch.apply ch) =
      (ch.channelID, upd.parentID.getD ch.parentID, ch.channelType) := rfl

/-- An edit of a channel the state knows reconciles both parents. -/
lemma TimersExact.commitUpdate_of_mem (h : cm.TimersExact) (ha : cm.Agrees node)
    (hw : sql.write = .ok) (hlive : c ∈ cm.state.channels) (upd : ChannelUpdate) :
    (cm.commitUpdate sql c upd).1.TimersExact := by
  obtain ⟨ch, hch⟩ := mem_iff.mp hlive
  have hold : cm.stateParentID c = ch.parentID := by
    rw [stateParentID, hch]
    rfl
  have hnode : stateNode cm.state c = some (node ch) := by rw [stateNode_eq, hch, Option.map_some]
  have hnode' : stateNode (cm.state.updateChannel c upd.patch).1 c =
      some (ch.channelID, upd.parentID.getD ch.parentID, ch.channelType) := by
    rw [stateNode_updateChannel, if_pos rfl, hch, Option.map_some, node_patch]
  intro d
  rw [ChannelManager.commitUpdate_of_mem hw hlive, scheduled_reconcileParents, hold]
  -- every other channel keeps its timer and its eligibility
  have hother : (upd.parentID.getD ch.parentID = d ↔ ch.parentID = d) →
      ((cm.withTable (cm.table.modify c (Row.set upd))).withState
        (cm.state.updateChannel c upd.patch).1).Scheduled d := by
    intro hsame
    refine (h d).of_same Iff.rfl ?_
    show eligible (cm.state.updateChannel c upd.patch).1 d = _
    refine eligible_eq_of_change (c := c) (fun k hk => ?_) (by simp) (by simp) (fun _ => ?_)
      fun _ => ?_
    · rw [stateNode_updateChannel, if_neg hk]
    · rw [stateType_eq, stateType_eq, hnode, hnode']
      rfl
    · rw [lookup_stateParents_eq, lookup_stateParents_eq, hnode, hnode']
      simpa [node] using hsame
  cases hupd : upd.parentID with
  | none =>
    right
    exact hother (by rw [hupd, Option.getD_none])
  | some p =>
    by_cases hdead : d ∉ cm.state.channels
    · -- neither before nor after is there such a channel
      right
      refine (h d).of_same Iff.rfl ?_
      rw [eligible_of_notMem hdead]
      exact eligible_of_notMem (mt mem_updateChannel.mp hdead)
    have h0 : d ≠ 0 := by
      rintro rfl
      exact hdead ha.zero_notMem
    by_cases hp : d = p
    · exact .inl ⟨p, rfl, .inl ⟨hp, hp ▸ h0⟩⟩
    by_cases hq : d = ch.parentID
    · exact .inl ⟨p, rfl, .inr ⟨hq, hq ▸ h0, hq ▸ hp⟩⟩
    · right
      refine hother ?_
      rw [hupd]
      exact iff_of_false (Ne.symm hp) (Ne.symm hq)

/-- A type change of a channel the state knows concerns nobody else. -/
lemma TimersExact.commitType_of_mem (h : cm.TimersExact) (hw : sql.write = .ok)
    (hlive : c ∈ cm.state.channels) (type : ChannelType) :
    (cm.commitType sql c type).1.TimersExact := by
  obtain ⟨ch, hch⟩ := mem_iff.mp hlive
  intro d
  rw [ChannelManager.commitType_of_mem hw hlive, scheduled_reconcile]
  by_cases hd : d = c
  · exact .inl hd
  right
  refine (h d).of_same Iff.rfl ?_
  show eligible (cm.state.updateChannel c { channelType := some type.toInt }).1 d = _
  refine eligible_eq_of_change (fun k hk => ?_) (by simp) (by simp)
    (fun heq => absurd heq hd) fun _ => ?_
  · rw [stateNode_updateChannel, if_neg hk]
  · rw [lookup_stateParents_eq, lookup_stateParents_eq, stateNode_updateChannel, if_pos rfl,
      stateNode_eq, hch]
    rfl

end edit

end ChannelManager

end Voicx.Channels
