import Voicx.Channels.Timers

/-!
# Which channels have a cleanup timer

As long as the database calls succeed, the channels with a cleanup timer should be the temporary,
empty and childless channels of the state.

* `Settled` — state and table hold the same tree, clients stand where they are members, and the
  timers are right. A manager is settled exactly if it is `InOrder` and `Loaded` (`settled_iff`).
* `InOrder.load`, `Settled.create`, `Settled.update`, `Settled.setType`, `Settled.delete`,
  `Settled.move`, `Settled.leave`, `Settled.remove`, `Settled.callback` — every operation keeps it.
* `timersExact_of_loaded` — from a state that has all rows on, the timers are always right.
* `timersExact_from_load` — **a manager that starts with `LoadIntoState` always has the right
  timers.** `parent_keeps_timer` says why the load has to come first.
-/

namespace Voicx.Channels

open Found State Manager Finmap Option List

namespace ChannelManager

/-- State and table hold the same tree, clients stand where they are members, and the timers are
right. -/
structure Settled (cm : ChannelManager) : Prop where
  agrees : cm.Agrees node
  placed : cm.state.Placed
  timers : cm.TimersExact

variable {cm : ChannelManager} {c d : Int} {sql : Calls}

/-- A channel is reconciled, and the timers of the others are right. -/
lemma settled_reconcile (ha : cm.Agrees node) (hp : cm.state.Placed) {old : Int}
    (h : ∀ d, d ≠ old → cm.Scheduled d) : (cm.reconcileCleanupWatcherLocked old).Settled where
  agrees := ha.of_same (by simp) (by simp)
  placed := by simpa using hp
  timers d := by
    rw [scheduled_reconcile]
    by_cases hd : d = old
    · exact .inl hd
    · exact .inr (h d hd)

/-- A channel is reconciled under a condition. -/
lemma settled_reconcile_if (ha : cm.Agrees node) (hp : cm.state.Placed) {old : Int} {p : Prop}
    [Decidable p] (h : ∀ d, d ≠ old ∨ ¬p → cm.Scheduled d) :
    (if p then cm.reconcileCleanupWatcherLocked old else cm).Settled := by
  split_ifs with hif
  · exact settled_reconcile ha hp fun d hd => h d (.inl hd)
  · exact ⟨ha, hp, fun d => h d (.inr hif)⟩

/-! ## Deleting -/

section delete

variable {channelIDs : List Int}

lemma mem_timers_cancelAll :
    d ∈ (cm.cancelAll channelIDs).timers ↔ d ∈ cm.timers ∧ d ∉ channelIDs := by
  induction channelIDs generalizing cm with
  | nil => simp [cancelAll]
  | cons id rest ih =>
    have hrest : d ∈ (cm.cancelAll (id :: rest)).timers ↔
        d ∈ (cm.cancelCleanupLocked id).timers ∧ d ∉ rest := ih
    rw [hrest, mem_timers_cancel, mem_cons]
    tauto

lemma scheduled_removeChannels {parentID : Int} :
    (cm.removeChannels channelIDs parentID).1.Scheduled d ↔ (d = parentID ∧ parentID ≠ 0) ∨
      (d ∈ cm.timers ∧ d ∉ channelIDs ↔
        eligible (cm.state.removeChannels channelIDs).1 d = true) := by
  unfold removeChannels
  dsimp only
  rw [← mem_timers_cancelAll, cancelAll_state]
  split_ifs with hparent
  · rw [scheduled_reconcile]
    simp only [hparent, ne_eq, not_false_eq_true, and_true]
    rfl
  · simp only [hparent, and_false, false_or]
    rfl

lemma stateNode_removeChannels (m : Manager) (channelIDs : List Int) (d : Int) :
    stateNode (m.removeChannels channelIDs).1 d =
      if d ∈ channelIDs then none else stateNode m d := by
  unfold stateNode
  rw [stateRecord_removeChannels]
  split_ifs <;> rfl

/-- A channel that stays, and is the parent of no channel that goes. -/
lemma eligible_removeChannels (m : Manager) (hd : d ∉ channelIDs)
    (hchild : ∀ k ∈ channelIDs, (stateParents m).lookup k ≠ some d) :
    eligible (m.removeChannels channelIDs).1 d = eligible m d := by
  refine eligible_eq_of_parents ?_ ?_ fun k _ => ?_
  · rw [stateType_eq, stateType_eq, stateNode_removeChannels, if_neg hd]
  · ext clientID
    rw [mem_channelMembers, mem_channelMembers, elems_removeChannels, if_neg hd,
      mem_clients_removeChannels]
  · rw [lookup_stateParents_eq, stateNode_removeChannels]
    by_cases hk : k ∈ channelIDs
    · rw [if_pos hk]
      exact iff_of_false (by simp) (hchild k hk)
    · rw [if_neg hk, lookup_stateParents_eq]

/-- A channel below another one in the table has its parent there too, unless it is the root. -/
lemma parent_mem_loadChannelSubtree {k p : Int} (hk : k ∈ cm.loadChannelSubtree c) (hne : k ≠ c)
    (hp : cm.table.parents.lookup k = some p) : p ∈ cm.loadChannelSubtree c := by
  unfold loadChannelSubtree at hk ⊢
  split_ifs at hk ⊢ with hmem
  · obtain ⟨-, hwalk⟩ := mem_subtree.mp hk
    rcases reflTransGen_link_cases hwalk with rfl | ⟨q, hq, hrest⟩
    · exact absurd rfl hne
    cases hp.symm.trans hq
    refine mem_subtree.mpr ⟨?_, hrest⟩
    -- the parent is the root, or the walk goes on from it
    rcases reflTransGen_link_cases hrest with rfl | ⟨q, hq, -⟩
    · exact Table.mem_parents.mpr hmem
    · exact mem_of_lookup_eq_some hq
  · simp at hk

/-- Taking over rows touches neither the timers nor the clients. -/
lemma foldl_checkStateOnly_frame (channelIDs : List Int) (acc : ChannelManager × Finset Int) :
    (channelIDs.foldl checkStateOnly acc).1.timers = acc.1.timers ∧
      (channelIDs.foldl checkStateOnly acc).1.state.membership = acc.1.state.membership ∧
      (channelIDs.foldl checkStateOnly acc).1.state.clients = acc.1.state.clients := by
  induction channelIDs generalizing acc with
  | nil => exact ⟨rfl, rfl, rfl⟩
  | cons id rest ih =>
    obtain ⟨htimers, hmembership, hclients⟩ := ih (checkStateOnly acc id)
    rw [foldl_cons, htimers, hmembership, hclients]
    unfold checkStateOnly mirrorPersistedChannel
    split
    · exact ⟨rfl, rfl, rfl⟩
    · dsimp only [withState]
      split_ifs <;> simp [addChannel]

/-- A deletion of a channel without a row repairs records that need no repair. -/
theorem Settled.delete_of_notMem (h : cm.Settled) (hsql : sql.Succeed) (hmem : c ∉ cm.rows) :
    (cm.deleteChannelLocked sql c).1.Settled := by
  have hlive := mem_channels_of_stateOnly cm.state c (cm.loadChannelSubtree c) sql.order
  unfold deleteChannelLocked
  rw [hsql.fault]
  dsimp only
  split_ifs
  · exact h
  generalize sql.order.list (stateChannelSubtreeIDs cm.state c \ cm.loadChannelSubtree c) =
    stateOnly at *
  have hfound : stateOnly.find? (fun id => !sql.check id) = none := by
    refine find?_eq_none.mpr fun id _ => ?_
    simp [hsql.check id]
  have hmissing : stateOnly.filter (fun id => id ∉ cm.rows) = [] := by
    refine filter_eq_nil_iff.mpr fun id hid => ?_
    simpa using h.agrees.mem_iff.mp (hlive id hid)
  have hstart : (cm, (∅ : Finset Int)).1.Agrees node := h.agrees
  have hfold := hstart.foldl_checkStateOnly treeView_node stateOnly
  obtain ⟨htimers, hmembership, hclients⟩ := foldl_checkStateOnly_frame stateOnly (cm, ∅)
  have htree := h.agrees.sameTree hfold (by simp) hmembership hclients
  unfold reconcileStateOnlyDescendants
  rw [hfound]
  rw [hmissing]
  unfold deleteChecked
  dsimp only
  split_ifs with hempty
  · refine ⟨hfold.of_same (by simp) (by simp), ?_, fun d => ?_⟩
    · rw [reconcileAll_state]
      exact placed_of_same h.placed hmembership hclients
    · rw [scheduled_reconcileAll]
      exact .inr ((h.timers d).of_same (by rw [htimers]) (htree.eligible_eq d))
  · refine absurd ⟨?_, rfl⟩ hempty
    rw [loadChannelSubtree_eq_empty, rows, reconcileAll_table, foldl_checkStateOnly_table]
    exact hmem

variable (ha : cm.Agrees node) (hsql : sql.Succeed)

include ha hsql

/-- A deletion of a channel with a row. The state has nothing below it that the table has not. -/
lemma deleteChannelLocked_of_mem (hmem : c ∈ cm.rows) :
    ∃ res, cm.deleteChannelLocked sql c =
      (((cm.withTable (cm.table.delete (cm.loadChannelSubtree c))).removeChannels
        (mergeChannelIDs (cm.loadChannelSubtree c)) (cm.rootParentID c)).1, .ok res) := by
  rw [ha.deleteChannelLocked_eq treeView_node hsql.fault hmem]
  unfold deleteRows
  simp only [hsql.write, hsql.rowCount, Outcome.applied, if_true, ne_eq, not_true_eq_false,
    false_and, if_false, Bool.not_true, Bool.false_eq_true, and_false]
  exact ⟨_, rfl⟩

/-- **A deletion leaves the timers right**, also of a manager that has just taken the timer of the
channel away. -/
theorem timersExact_delete (hmem : c ∈ cm.rows) (h : ∀ d, d ≠ c → cm.Scheduled d) :
    (cm.deleteChannelLocked sql c).1.TimersExact := by
  obtain ⟨r, hr⟩ := mem_iff.mp hmem
  obtain ⟨res, hdelete⟩ := deleteChannelLocked_of_mem ha hsql hmem
  have hroot : cm.rootParentID c = r.parentID := by
    rw [rootParentID, hr]
  have hmerge : ∀ d, d ∈ mergeChannelIDs (cm.loadChannelSubtree c) ↔
      d ∈ cm.loadChannelSubtree c := by
    intro d
    rw [mem_mergeChannelIDs]
    exact and_iff_left_of_imp fun hd => (cm.table.numbered d (mem_loadChannelSubtree hd)).1
  rw [hdelete]
  intro d
  rw [scheduled_removeChannels, hroot]
  show _ ∨ (d ∈ cm.timers ∧ d ∉ mergeChannelIDs (cm.loadChannelSubtree c) ↔
    eligible (cm.state.removeChannels (mergeChannelIDs (cm.loadChannelSubtree c))).1 d = true)
  rw [hmerge]
  by_cases hd : d ∈ cm.loadChannelSubtree c
  · -- a deleted channel has neither a timer nor a record
    right
    have hgone : eligible (cm.state.removeChannels
        (mergeChannelIDs (cm.loadChannelSubtree c))).1 d = false := by
      refine eligible_of_notMem (stateNode_eq_none.mp ?_)
      rw [stateNode_removeChannels, if_pos ((hmerge d).mpr hd)]
    rw [hgone]
    exact iff_of_false (fun hboth => hboth.2 hd) (by simp)
  by_cases hp : d = r.parentID ∧ r.parentID ≠ 0
  · exact .inl hp
  right
  have hdc : d ≠ c := by
    rintro rfl
    exact hd (self_mem_loadChannelSubtree.mpr hmem)
  have hbefore : d ∈ cm.timers ↔ eligible cm.state d = true := h d hdc
  have hsame : eligible (cm.state.removeChannels
      (mergeChannelIDs (cm.loadChannelSubtree c))).1 d = eligible cm.state d := by
    by_cases hdead : d ∉ cm.state.channels
    · rw [eligible_of_notMem hdead]
      refine eligible_of_notMem (stateNode_eq_none.mp ?_)
      rw [stateNode_removeChannels, stateNode_eq_none.mpr hdead, ite_self]
    · refine eligible_removeChannels cm.state (fun hin => hd ((hmerge d).mp hin)) ?_
      -- of the deleted channels only the root can point to a channel that stays
      intro k hk hkd
      have hrow : cm.table.parents.lookup k = some d := by
        rw [← ha.parents_eq treeView_node]
        exact hkd
      by_cases hkc : k = c
      · rw [hkc, Table.lookup_parents, hr] at hrow
        have hdr : r.parentID = d := Option.some.inj hrow
        refine hp ⟨hdr.symm, fun hzero => hdead ?_⟩
        rw [← hdr, hzero]
        exact ha.zero_notMem
      · exact hd (parent_mem_loadChannelSubtree ((hmerge k).mp hk) hkc hrow)
  rw [hsame, hbefore]
  simp [hd]

/-- The places of the clients after a deletion, and the timers. -/
theorem settled_delete (hp : cm.state.Placed) (hmem : c ∈ cm.rows)
    (h : ∀ d, d ≠ c → cm.Scheduled d) : (cm.deleteChannelLocked sql c).1.Settled where
  agrees := (agrees_deleteChannelLocked_iff ha hsql.confirm treeView_node c).mpr fun hloses =>
    Bool.false_ne_true (hloses.2.2.2.symm.trans hsql.rowCount)
  placed := by
    obtain ⟨res, hdelete⟩ := deleteChannelLocked_of_mem ha hsql hmem
    rw [hdelete, removeChannels_state]
    exact hp.removeChannels _
  timers := timersExact_delete ha hsql hmem h

end delete

/-! ## Loading -/

/-- What the state says about the tree the table says too, and the members of a channel are the
clients that stand in it. -/
structure Tracked (cm : ChannelManager) : Prop where
  stored : ∀ id n, stateNode cm.state id = some n → (cm.table.record id).map node = some n
  placed : cm.state.Placed

/-- The state agrees with the table, and the timers with the state. -/
structure InOrder (cm : ChannelManager) : Prop where
  tracked : cm.Tracked
  timers : cm.TimersExact

/-- Every row is in the state. -/
def Loaded (cm : ChannelManager) : Prop := ∀ id ∈ cm.rows, id ∈ cm.state.channels

/-- A manager is settled exactly if it is in order and has loaded every row. -/
theorem settled_iff : cm.Settled ↔ cm.InOrder ∧ cm.Loaded := by
  constructor
  · intro h
    refine ⟨⟨⟨fun id n hn => ?_, h.placed⟩, h.timers⟩, fun id => h.agrees.mem_iff.mpr⟩
    rw [← h.agrees id]
    exact hn
  · rintro ⟨⟨⟨hstored, hplaced⟩, htimers⟩, hloaded⟩
    refine ⟨fun id => ?_, hplaced, htimers⟩
    show stateNode cm.state id = _
    cases hn : stateNode cm.state id with
    | some n => exact (hstored id n hn).symm
    | none =>
      have hrow : id ∉ cm.rows := mt (hloaded id) (stateNode_eq_none.mp hn)
      rw [Table.record, lookup_eq_none.mpr hrow]
      rfl

/-- Loading registers channels, and touches nothing else. -/
lemma addRows_frame (cm : ChannelManager) (channelIDs : List Int) :
    (cm.addRows channelIDs).timers = cm.timers ∧
      (cm.addRows channelIDs).state.membership = cm.state.membership ∧
      (cm.addRows channelIDs).state.clients = cm.state.clients := by
  induction channelIDs generalizing cm with
  | nil => exact ⟨rfl, rfl, rfl⟩
  | cons id rest ih =>
    unfold addRows at ih ⊢
    rw [foldl_cons]
    cases cm.rows.lookup id with
    | none => exact ih cm
    | some r => exact ih (cm.withState (cm.state.addChannel (r.channel id)))

/-- A channel that the table knows is eligible only if its row is temporary. -/
lemma temporary_of_eligible {m : Manager}
    (hstored : ∀ n, stateNode m d = some n → (cm.table.record d).map node = some n)
    (h : eligible m d = true) : d ∈ cm.rows.filter fun _ r => r.type == .temporary := by
  have htype := (eligible_iff.mp h).1
  rw [stateType_eq] at htype
  obtain ⟨n, hn, hn2⟩ := map_eq_some_iff.mp htype
  have hrow := hstored n hn
  rw [Table.record, Option.map_map] at hrow
  obtain ⟨r, hr, rfl⟩ := map_eq_some_iff.mp hrow
  refine mem_of_lookup_eq_some (b := r) (FMap.lookup_filter_eq_some.mpr ⟨hr, ?_⟩)
  have htemp : r.type.toInt = ChannelType.temporary.toInt := hn2
  cases htype : r.type <;> simp_all [ChannelType.toInt]

/-- **The load**: afterwards the state has the tree of the table, and the timers are right. -/
theorem InOrder.load (h : cm.InOrder) (hfault : sql.fault = none) :
    (cm.loadIntoState sql).1.Settled := by
  obtain ⟨htimers, hmembership, hclients⟩ := addRows_frame cm (ascending cm.rows.keys)
  have hnode : ∀ id, stateNode (cm.addRows (ascending cm.rows.keys)).state id =
      (cm.table.record id).map node := by
    intro id
    unfold stateNode
    rw [stateRecord_addRows]
    split_ifs with hid
    · rfl
    cases hn : stateNode cm.state id with
    | some n => exact hn.trans (h.tracked.stored id n hn).symm
    | none =>
      have hrow : id ∉ cm.rows := fun hmem =>
        hid ⟨mem_ascending.mpr (Finmap.mem_keys.mpr hmem), hmem⟩
      rw [Table.record, lookup_eq_none.mpr hrow]
      exact hn
  unfold loadIntoState
  rw [hfault]
  refine ⟨fun id => ?_, ?_, fun d => ?_⟩
  · rw [reconcileAll_state, reconcileAll_table, addRows_table]
    exact hnode id
  · rw [reconcileAll_state]
    exact placed_of_same h.tracked.placed hmembership hclients
  rw [scheduled_reconcileAll, mem_ascending, Finmap.mem_keys]
  by_cases htemp : d ∈ cm.rows.filter fun _ r => r.type == .temporary
  · exact .inl htemp
  -- a channel of the state has the type of its row, before and after
  right
  show d ∈ (cm.addRows (ascending cm.rows.keys)).timers ↔ _
  rw [htimers]
  refine iff_of_false (fun hd => htemp ?_) fun helig => htemp ?_
  · exact temporary_of_eligible (h.tracked.stored d) ((h.timers d).mp hd)
  · exact temporary_of_eligible (fun n hn => (hnode d).symm.trans hn) helig

/-! ## Clients -/

section clients

variable {m m' : Manager} {clientID : String}

/-- Where clients are in one place, the members are the clients that stand there. -/
lemma mem_channelMembers_of_placed (h : m.Placed) :
    clientID ∈ channelMembers m d ↔ d ≠ 0 ∧ m.chanOf clientID = some d := by
  rw [mem_channelMembers, h]
  refine and_iff_left_of_imp fun hstands => ?_
  obtain ⟨c, hc, -⟩ := chanOf_eq_some.mp hstands.2
  exact mem_of_lookup_eq_some hc

/-- Clients move, and nobody into or out of this channel. -/
lemma eligible_eq_of_places (hrecord : ∀ id, stateRecord m' id = stateRecord m id) (hm : m.Placed)
    (hm' : m'.Placed) (hplace : d ≠ 0 → ∀ id, m'.chanOf id = some d ↔ m.chanOf id = some d) :
    eligible m' d = eligible m d := by
  have hnode : ∀ id, stateNode m' id = stateNode m id := fun id =>
    congrArg (Option.map node) (hrecord id)
  refine eligible_eq_of_parents ?_ ?_ fun k _ => ?_
  · rw [stateType_eq, stateType_eq, hnode]
  · ext clientID
    rw [mem_channelMembers_of_placed hm, mem_channelMembers_of_placed hm']
    exact and_congr_right fun h0 => hplace h0 clientID
  · rw [lookup_stateParents_eq, lookup_stateParents_eq, hnode]

/-- A channel with a member is not eligible. -/
lemma not_eligible_of_chanOf (hm : m.Placed) (h0 : d ≠ 0) (h : m.chanOf clientID = some d) :
    eligible m d = false := by
  rw [Bool.eq_false_iff]
  intro helig
  have hmember := (mem_channelMembers_of_placed hm).mpr ⟨h0, h⟩
  rw [(eligible_iff.mp helig).2.1] at hmember
  simp at hmember

/-- Clients move, and no channel changes. -/
lemma Settled.agrees_withState (h : cm.Settled)
    (hrecord : ∀ id, stateRecord m id = stateRecord cm.state id) : (cm.withState m).Agrees node :=
  h.agrees.of_same rfl hrecord

variable (h : cm.Settled)

include h

/-- A move that succeeds takes the timer of the target away and reconciles the channel left. -/
theorem Settled.move (clientID : String) (target : Int) :
    (cm.moveClient clientID target).1.Settled := by
  unfold moveClient
  cases hold : cm.state.chanOf clientID with
  | none => exact h
  | some old =>
    cases hmove : cm.state.moveClient clientID target with
    | error e => exact h
    | ok m =>
      obtain ⟨c, hc, hlive, hcase⟩ := moveClient_spec hmove
      have hne0 : target ≠ 0 := by
        rintro rfl
        exact h.agrees.zero_notMem hlive
      have hrecord := stateRecord_moveClient hmove
      have hplaced := h.placed.moveClient hne0 hmove
      -- the client stands in the target now, and stood in `old`
      have hchan : ∀ id, m.chanOf id = if id = clientID then some target
          else cm.state.chanOf id := by
        intro id
        rcases hcase with ⟨heq, rfl⟩ | ⟨-, -, hchan⟩
        · split_ifs with hid
          · rw [hid, ← heq]
            exact chanOf_of_lookup hc
          · rfl
        · exact hchan id
      have hother : ∀ d, d ≠ target → (d ≠ old ∨ d = 0) → eligible m d = eligible cm.state d := by
        intro d hdt hdo
        refine eligible_eq_of_places hrecord h.placed hplaced fun h0 id => ?_
        rw [hchan]
        split_ifs with hid
        · rw [hid, hold]
          simp [Ne.symm hdt, Ne.symm (hdo.resolve_right h0)]
        · rfl
      have hagrees : ((cm.withState m).cancelCleanupLocked target).Agrees node :=
        h.agrees_withState hrecord
      refine settled_reconcile_if hagrees hplaced fun d hd => ?_
      show d ∈ ((cm.withState m).cancelCleanupLocked target).timers ↔ eligible m d = true
      rw [mem_timers_cancel]
      by_cases hdt : d = target
      · have hgone : eligible m d = false := by
          rw [hdt]
          exact not_eligible_of_chanOf hplaced hne0 ((hchan clientID).trans (if_pos rfl))
        rw [hgone]
        simp [hdt]
      · have hbefore : d ∈ cm.timers ↔ eligible cm.state d = true := h.timers d
        rw [hother d hdt (by omega), ← hbefore]
        exact and_iff_right hdt

/-- A client that leaves its channel, or the server: the channel it stood in is reconciled. -/
lemma Settled.vacate (hm : m.Placed)
    (hrecord : ∀ id, stateRecord m id = stateRecord cm.state id) {old : Int}
    (hold : cm.state.chanOf clientID = some old) (hgone : ∀ d, d ≠ 0 → m.chanOf clientID ≠ some d)
    (hrest : ∀ id, id ≠ clientID → m.chanOf id = cm.state.chanOf id) {d : Int}
    (hd : d ≠ old ∨ d = 0) : (cm.withState m).Scheduled d := by
  refine (h.timers d).of_same Iff.rfl ?_
  refine eligible_eq_of_places hrecord h.placed hm fun h0 id => ?_
  show m.chanOf id = some d ↔ _
  by_cases hid : id = clientID
  · rw [hid, hold]
    refine iff_of_false (hgone d h0) ?_
    simpa using Ne.symm (hd.resolve_right h0)
  · rw [hrest id hid]

/-- A client leaves. -/
theorem Settled.leave (clientID : String) : (cm.leaveClient clientID).1.Settled := by
  unfold leaveClient
  cases hold : cm.state.chanOf clientID with
  | none => exact h
  | some old =>
    cases hleave : cm.state.leaveChannel clientID with
    | error e => exact h
    | ok m =>
      obtain ⟨c, hc, h0, -, hchan, -⟩ := leaveChannel_spec hleave
      have hrecord := stateRecord_leaveChannel hleave
      have hplaced := h.placed.leaveChannel hleave
      refine settled_reconcile (h.agrees_withState hrecord) hplaced fun d hd => ?_
      refine h.vacate hplaced hrecord hold (fun d hd0 => ?_) (fun id hid => ?_) (.inl hd)
      · rw [hchan]
        simpa using Ne.symm hd0
      · rw [hchan, if_neg hid]

/-- A client is removed. -/
theorem Settled.remove (clientID : String) : (cm.removeClient clientID).1.Settled := by
  unfold removeClient
  dsimp only
  cases hc : cm.state.clients.lookup clientID with
  | none =>
    have hnone : (cm.state.removeClient clientID).2 = none := by
      unfold Manager.removeClient
      rw [hc]
    rw [hnone]
    exact h
  | some c =>
    obtain ⟨hsome, -, hchan⟩ := removeClient_spec hc
    have hrecord := stateRecord_removeClient cm.state clientID
    have hplaced := h.placed.removeClient clientID
    have hold : cm.state.chanOf clientID = some c.channelID :=
      chanOf_of_lookup hc
    rw [hsome]
    refine settled_reconcile_if (h.agrees_withState hrecord) hplaced fun d hd => ?_
    refine h.vacate hplaced hrecord hold (fun d _ => ?_) (fun id hid => ?_) (by omega)
    · rw [hchan]
      simp
    · rw [hchan, if_neg hid]

end clients

/-! ## Channels -/

section channels

variable (h : cm.Settled)

include h

variable (hsql : sql.Succeed)

include hsql

/-- A creation. -/
theorem Settled.create (spec : ChannelSpec) : (cm.createChannel sql spec).1.Settled := by
  unfold createChannel
  cases cm.checkCreate sql spec with
  | error e => exact h
  | ok p =>
    unfold insertChannel
    rw [hsql.write]
    refine ⟨(agrees_afterInsert_iff h.agrees ..).mpr rfl, ?_, h.timers.afterInsert h.agrees _ _ _⟩
    rw [afterInsert_state]
    exact h.placed

/-- An edit. -/
theorem Settled.update (channelID : Int) (upd : ChannelUpdate) :
    (cm.updateChannel sql channelID upd).1.Settled := by
  unfold updateChannel
  split_ifs
  · exact h
  cases hcheck : cm.checkUpdate sql channelID upd with
  | error e => exact h
  | ok u =>
    obtain ⟨hupd, -, -, hmem⟩ := checkUpdate_ok hcheck
    have hlive := h.agrees.mem_iff.mpr hmem
    refine ⟨h.agrees.commitUpdate treeView_node hmem hupd hsql.confirm, ?_,
      h.timers.commitUpdate_of_mem h.agrees hsql.write hlive upd⟩
    rw [commitUpdate_of_mem hsql.write hlive, reconcileParents_state]
    exact placed_of_same h.placed (updateChannel_membership ..) (updateChannel_clients ..)

/-- A type change. -/
theorem Settled.setType (channelID newType : Int) :
    (cm.setChannelType sql channelID newType).1.Settled := by
  unfold setChannelType
  cases hcheck : cm.checkType sql channelID newType with
  | error e => exact h
  | ok type =>
    have hmem := (checkType_ok hcheck).2.2
    have hlive := h.agrees.mem_iff.mpr hmem
    refine ⟨h.agrees.commitType treeView_node hmem type hsql.confirm, ?_,
      h.timers.commitType_of_mem hsql.write hlive type⟩
    rw [commitType_of_mem hsql.write hlive, reconcile_state]
    exact placed_of_same h.placed (updateChannel_membership ..) (updateChannel_clients ..)

/-- A deletion. -/
theorem Settled.delete (channelID : Int) : (cm.deleteChannelLocked sql channelID).1.Settled := by
  by_cases hmem : channelID ∈ cm.rows
  · exact settled_delete h.agrees hsql h.placed hmem fun d _ => h.timers d
  · exact h.delete_of_notMem hsql hmem

/-- A callback finds its channel eligible, and deletes it. -/
theorem Settled.callback (channelID : Int) (generation : Nat) :
    (cm.cleanupCallback sql channelID generation).Settled := by
  by_cases htimer : cm.timers.lookup channelID = some generation
  · have helig : eligible cm.state channelID = true :=
      (h.timers channelID).mp (mem_of_lookup_eq_some htimer)
    have hmem : channelID ∈ cm.rows := h.agrees.mem_iff.mp (by_contra fun hnot => by
      simp [eligible_of_notMem hnot] at helig)
    have hclaimed : (cm.cancelCleanupLocked channelID).Agrees node := h.agrees
    have hothers : ∀ d, d ≠ channelID → (cm.cancelCleanupLocked channelID).Scheduled d := by
      intro d hd
      refine (h.timers d).of_same ?_ rfl
      rw [mem_timers_cancel]
      exact and_iff_right hd
    have hsettled := settled_delete hclaimed hsql h.placed hmem hothers
    obtain ⟨res, hdelete⟩ := deleteChannelLocked_of_mem hclaimed hsql hmem
    rw [cleanupCallback_deletes htimer helig]
    rw [hdelete] at hsettled ⊢
    exact hsettled
  · rw [cleanupCallback_stale htimer]
    exact h

end channels

end ChannelManager

/-! ## Whole runs -/

/-- The database calls of the operation succeed. -/
def ChannelOp.Succeeds : ChannelOp → Prop
  | .load sql | .create sql _ | .update sql _ _ | .setType sql _ _ | .delete sql _
  | .callback sql _ _ => sql.Succeed
  | .move _ _ | .leave _ | .remove _ => True

namespace ChannelManager

variable {cm : ChannelManager} {sql : Calls}

/-- **Every operation leaves a settled manager settled.** -/
theorem Settled.step (h : cm.Settled) {op : ChannelOp} (hop : op.Succeeds) :
    (cm.step op).Settled := by
  cases op with
  | load sql => exact (settled_iff.mp h).1.load hop.fault
  | create sql spec => exact h.create hop spec
  | update sql channelID upd => exact h.update hop channelID upd
  | setType sql channelID newType => exact h.setType hop channelID newType
  | delete sql channelID => exact h.delete hop channelID
  | move clientID target => exact h.move clientID target
  | leave clientID => exact h.leave clientID
  | remove clientID => exact h.remove clientID
  | callback sql channelID generation => exact h.callback hop channelID generation

/-- The timers of a settled manager are right throughout every run. -/
lemma timersExact_of_settled (h : cm.Settled) {ops : List ChannelOp}
    (hops : ∀ op ∈ ops, op.Succeeds) : Throughout step TimersExact cm ops :=
  (throughout_of_stepsOK (fun _ _ hcm hop => hcm.step hop) h (StepsOK.of_mem hops)).mono
    fun _ hcm => hcm.timers

/-- A new manager over any table, with clients that stand in no channel. -/
lemma inOrder_new (t : Table) {m : Manager} (hchannels : m.channels = ∅)
    (hmembership : m.membership = ∅)
    (hclients : ∀ clientID ch, m.chanOf clientID = some ch → ch = 0) : (new t m).InOrder := by
  have hdead : ∀ id, id ∉ m.channels := fun id => by rw [hchannels]; exact notMem_empty
  refine ⟨⟨fun id n hn => ?_, fun clientID ch => ?_⟩, fun d => ?_⟩
  · have hnone : stateNode m id = none := stateNode_eq_none.mpr (hdead id)
    rw [new, hnone] at hn
    cases hn
  · show clientID ∈ m.membership.elems ch ↔ _
    rw [hmembership]
    refine iff_of_false (Finset.notMem_empty clientID) fun hstands => ?_
    exact hstands.1 (hclients clientID ch hstands.2)
  · show d ∈ (∅ : FMap Int Nat) ↔ eligible m d = true
    rw [eligible_of_notMem (hdead d)]
    exact iff_of_false notMem_empty Bool.false_ne_true

/-- A table with a temporary channel and its child. -/
def startedTable : Table :=
  (Table.new.insert { name := "hall", type := .temporary }).insert
    { parentID := 1, name := "corner" }

/-- Two edits before the load: the first registers a temporary channel and gives it a timer, the
second registers its child, and the timer stays. -/
theorem parent_keeps_timer :
    ¬Throughout step TimersExact (.new startedTable Manager.new)
      [.update {} 1 { topic := some "hello" }, .update {} 2 { topic := some "hello" }] := by
  intro h
  have hparent := h _ prefix_rfl 1
  revert hparent
  unfold Scheduled
  decide +kernel

/-- **From a state with every row on the timers are right**, whatever follows. A server loads its
channels before it accepts clients; from then on every row is in the state, and no edit registers a
channel next to a parent that it does not reconcile. -/
theorem timersExact_of_loaded (h : cm.InOrder) (hloaded : cm.Loaded) {ops : List ChannelOp}
    (hops : ∀ op ∈ ops, op.Succeeds) : Throughout step TimersExact cm ops :=
  timersExact_of_settled (settled_iff.mpr ⟨h, hloaded⟩) hops

lemma succeed_default : ({} : Calls).Succeed := ⟨rfl, rfl, rfl, rfl, fun _ => rfl⟩

/-- A hall and its corner are loaded; the corner moves to the root, and the hall below it. -/
theorem timersExact_of_loaded_moves :
    Throughout step TimersExact ((new startedTable .new).step (.load {}))
      [.update {} 2 { parentID := some 0 }, .setType {} 2 2,
        .update {} 1 { parentID := some 2 }] := by
  have hnew : (new startedTable Manager.new).InOrder :=
    inOrder_new _ rfl rfl fun _ _ => by simp [Manager.chanOf, Manager.new]
  obtain ⟨horder, hloaded⟩ := settled_iff.mp (hnew.load succeed_default.fault)
  refine timersExact_of_loaded horder hloaded ?_
  intro op hop
  fin_cases hop <;> exact succeed_default

/-- **A manager that starts with `LoadIntoState` always has the right timers.** The clients that are
known before the load stand in no channel; the operations after it are in any order. -/
theorem timersExact_from_load (t : Table) {m : Manager} (hchannels : m.channels = ∅)
    (hmembership : m.membership = ∅)
    (hclients : ∀ clientID ch, m.chanOf clientID = some ch → ch = 0) (hsql : sql.Succeed)
    {ops : List ChannelOp} (hops : ∀ op ∈ ops, op.Succeeds) :
    Throughout step TimersExact (new t m) (.load sql :: ops) := by
  have hnew := inOrder_new t hchannels hmembership hclients
  exact (throughout_cons ..).mpr ⟨hnew.timers, timersExact_of_settled (hnew.load hsql.fault) hops⟩

/-- The load, a channel that is created, entered, left and cleaned up, and edits of the others. -/
theorem timersExact_from_load_session :
    Throughout step TimersExact (.new startedTable (Manager.new.addClient { clientID := "a" }))
      [.load {}, .create {} { name := "room" }, .move "a" 3, .leave "a", .callback {} 3 2,
        .update {} 2 { parentID := some 0 }, .setType {} 1 2, .remove "a", .delete {} 2] := by
  refine timersExact_from_load _ rfl rfl (fun clientID ch hch => ?_) succeed_default ?_
  · obtain ⟨c, hc, rfl⟩ := chanOf_eq_some.mp hch
    simp only [addClient, FMap.lookup_insert_ite] at hc
    split_ifs at hc
    · cases hc
      rfl
    · simp [Manager.new] at hc
  · intro op hop
    fin_cases hop <;> first | exact succeed_default | trivial

end ChannelManager

end Voicx.Channels
