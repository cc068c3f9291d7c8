import Voicx.Channels.Manager

/-!
# The state mirrors the table

After an operation of the channel manager the channels of the state should be the rows of the
table, also where a database call reports an error although its change was committed.

* `Mirrors` — the state says about every channel what the table says.
* `Mirrors.patched`, `Mirrors.confirmed` — the two ways in which an edit follows the table: the
  state gets the same patch, or it takes over the row that a read found.
* `mirrors_createChannel_iff`, `mirrors_deleteChannelLocked_iff` — the two operations that can lose
  the agreement: the `INSERT` is never looked into, and a `DELETE` is not once it went through.
* `mirrors_throughout_iff` — the agreement holds throughout a run exactly if no step is of that
  kind.
* `updateChannel_refines` — under the agreement an edit is the edit of the one tree in
  `Voicx.Channels.updateChannel`.
-/

namespace Voicx.Channels

open Found State Finmap Option Table

/-! ## Rows and records -/

/-- An edit stores what it patches: the client limit is never negative. -/
lemma channel_set {upd : ChannelUpdate} (h : upd.invalid = none) (r : Row) (channelID : Int) :
    (r.set upd).channel channelID = upd.patch.apply (r.channel channelID) := by
  have hmax : (upd.maxClients.map fun n => if 0 < n then n else 0).getD r.maxClients =
      upd.maxClients.getD r.maxClients := by
    cases hn : upd.maxClients with
    | none => rfl
    | some n =>
      have hpos : ¬n < 0 := by
        intro hneg
        unfold ChannelUpdate.invalid at h
        simp only [hn, any_some, hneg, decide_true, if_true] at h
        split_ifs at h
      show (if 0 < n then n else 0) = n
      split_ifs with h0
      · rfl
      · omega
  unfold Row.channel Row.set ChannelUpdate.patch State.ChannelUpdate.apply
  simp [hmax]

namespace ChannelManager

/-- The channels of the state are the rows of the table, in all columns. -/
def Mirrors (cm : ChannelManager) : Prop :=
  ∀ id, stateRecord cm.state id = cm.table.record id

variable {α : Type} {view : Channel → α}

/-- The channels of the state are the rows of the table, as far as the view shows them. -/
def Agrees (view : Channel → α) (cm : ChannelManager) : Prop :=
  ∀ id, (stateRecord cm.state id).map view = (cm.table.record id).map view

/-- The view shows the place of a channel in the tree, and an edit makes rows look alike that did
so before. -/
structure TreeView (view : Channel → α) : Prop where
  key : ∀ {ch ch' : Channel}, view ch = view ch' → ch.channelID = ch'.channelID
  parent : ∀ {ch ch' : Channel}, view ch = view ch' → ch.parentID = ch'.parentID
  set : ∀ {upd : ChannelUpdate} {r : Row} {ch : Channel} {id : Int}, upd.invalid = none →
    view (persisted ch) = view (r.channel id) →
    view (persisted (upd.patch.apply ch)) = view ((r.set upd).channel id)
  setType : ∀ (type : ChannelType) {r : Row} {ch : Channel} {id : Int},
    view (persisted ch) = view (r.channel id) →
    view (persisted (({ channelType := some type.toInt } : State.ChannelUpdate).apply ch)) =
      view ((r.setType type).channel id)

/-- The whole record is such a view. -/
lemma treeView_id : TreeView (fun ch : Channel => ch) where
  key h := congrArg Channel.channelID h
  parent h := congrArg Channel.parentID h
  set {upd r ch k} hupd h := by
    have hch : persisted ch = r.channel k := h
    rw [channel_set hupd, ← hch]
    rfl
  setType type {r ch k} h := by
    have hch : persisted ch = r.channel k := h
    show { persisted ch with channelType := type.toInt } = (r.setType type).channel k
    rw [hch]
    rfl

variable {cm cm' : ChannelManager} {id channelID : Int}

lemma agrees_id : cm.Agrees (fun ch => ch) ↔ cm.Mirrors := by
  simp [Agrees, Mirrors]

lemma Agrees.of_same (h : cm.Agrees view) (htable : cm'.table = cm.table)
    (hstate : ∀ id, stateRecord cm'.state id = stateRecord cm.state id) : cm'.Agrees view := by
  intro id
  rw [hstate, htable]
  exact h id

lemma Agrees.mem_iff (h : cm.Agrees view) : id ∈ cm.state.channels ↔ id ∈ cm.rows := by
  have hsome := congrArg Option.isSome (h id)
  rw [stateRecord, record, isSome_map, isSome_map, isSome_map, isSome_map] at hsome
  rw [← lookup_isSome, hsome, lookup_isSome]

/-- Every channel of the state has a row that looks like it. -/
lemma Agrees.exists_row (h : cm.Agrees view) {ch : Channel}
    (hch : cm.state.channels.lookup id = some ch) :
    ∃ r, cm.rows.lookup id = some r ∧ view (persisted ch) = view (r.channel id) := by
  have hrecord := h id
  rw [stateRecord, record, hch, map_some, map_some, map_map] at hrecord
  obtain ⟨r, hr, heq⟩ := map_eq_some_iff.mp hrecord.symm
  exact ⟨r, hr, heq.symm⟩

/-- Every record of the state stands under its own id. -/
lemma Agrees.channelID_eq (h : cm.Agrees view) (hview : TreeView view) {ch : Channel}
    (hch : cm.state.channels.lookup id = some ch) : ch.channelID = id := by
  obtain ⟨r, -, heq⟩ := h.exists_row hch
  exact hview.key heq

/-! ## Following the table -/

/-- The state gets a patch under which it looks like the edited row. -/
theorem Agrees.patched (h : cm.Agrees view) (channelID : Int) {f : Row → Row}
    {u : State.ChannelUpdate}
    (hf : ∀ {r : Row} {ch : Channel}, view (persisted ch) = view (r.channel channelID) →
      view (persisted (u.apply ch)) = view ((f r).channel channelID)) :
    ((cm.withTable (cm.table.modify channelID f)).withState
      (cm.state.updateChannel channelID u).1).Agrees view := by
  intro id
  show (stateRecord (cm.state.updateChannel channelID u).1 id).map view =
    ((cm.table.modify channelID f).record id).map view
  rw [stateRecord_updateChannel, record_modify]
  split_ifs with hid
  · cases hch : cm.state.channels.lookup channelID with
    | none =>
      have hrow := mt h.mem_iff.mpr (lookup_eq_none.mp hch)
      rw [lookup_eq_none.mpr hrow]
      rfl
    | some ch =>
      obtain ⟨r, hr, heq⟩ := h.exists_row hch
      rw [hr, map_some, map_some, map_some, map_some, hf heq]
  · exact h id

/-- What the state says after it took over a row. -/
lemma stateRecord_mirrorPersistedChannel (r : Row)
    (hkey : ∀ ch, cm.state.channels.lookup channelID = some ch → ch.channelID = channelID)
    (id : Int) :
    stateRecord (cm.mirrorPersistedChannel channelID r).state id =
      if id = channelID then some (r.channel channelID) else stateRecord cm.state id := by
  unfold mirrorPersistedChannel withState
  dsimp only
  split_ifs with hlive hid hid
  · rw [updateChannel_snd] at hlive
    obtain ⟨ch, hch⟩ := mem_iff.mp hlive
    rw [stateRecord_updateChannel, if_pos hid, hch, ← hkey ch hch]
    rfl
  · rw [stateRecord_updateChannel, if_neg hid]
  · rw [stateRecord_addChannel]
    exact if_pos hid
  · rw [stateRecord_addChannel]
    exact if_neg hid

/-- The state takes over the row that a read found. -/
theorem Agrees.confirmed (h : cm.Agrees view) (hview : TreeView view) {r : Row}
    (hr : cm'.rows.lookup channelID = some r) (hstate : cm'.state = cm.state)
    (htable : ∀ id, id ≠ channelID → cm'.table.record id = cm.table.record id) :
    (cm'.mirrorPersistedChannel channelID r).Agrees view := by
  intro id
  have hkey : ∀ ch, cm'.state.channels.lookup channelID = some ch → ch.channelID = channelID := by
    intro ch hch
    rw [hstate] at hch
    exact h.channelID_eq hview hch
  rw [stateRecord_mirrorPersistedChannel r hkey, hstate]
  show _ = (cm'.table.record id).map view
  split_ifs with hid
  · rw [hid, record, hr]
    rfl
  · rw [h id, htable id hid]

variable {acc : ChannelManager × Finset Int}

/-- A channel that only the state was thought to have below another one: its row says what the
state says. -/
lemma Agrees.foldl_checkStateOnly (h : acc.1.Agrees view) (hview : TreeView view)
    (channelIDs : List Int) : (channelIDs.foldl checkStateOnly acc).1.Agrees view := by
  induction channelIDs generalizing acc with
  | nil => exact h
  | cons c rest ih =>
    refine ih ?_
    unfold checkStateOnly
    cases hr : acc.1.rows.lookup c with
    | none => exact h
    | some r => exact h.confirmed hview hr rfl fun _ _ => rfl

/-- The channels that the look at the state visits are channels of the state. -/
lemma mem_channels_of_stateOnly (m : Manager) (channelID : Int) (ids : Finset Int)
    (order : Visits Int) :
    ∀ id ∈ order.list (stateChannelSubtreeIDs m channelID \ ids), id ∈ m.channels := by
  intro id h
  rw [order.mem_list, Finset.mem_sdiff] at h
  exact mem_stateParents.mp (mem_subtree.mp h.1).1

/-- The `DELETE` of a live channel goes through, and its row count cannot be read. -/
def LosesCount (cm : ChannelManager) (sql : Calls) (channelID : Int) : Prop :=
  sql.fault = none ∧ channelID ∈ cm.rows ∧ sql.write = .ok ∧ sql.rowCount = false

instance (cm : ChannelManager) (sql : Calls) (channelID : Int) :
    Decidable (cm.LosesCount sql channelID) :=
  inferInstanceAs (Decidable (_ ∧ _ ∧ _ ∧ _))

section agreement

variable {sql : Calls} {channelID : Int} (h : cm.Agrees view)

include h

/-! ## Editing -/

section

variable (hview : TreeView view) (hmem : channelID ∈ cm.rows)

include hview hmem

/-- A transaction on one row that the state then takes over by a read. -/
lemma Agrees.reread (write : Outcome) (f : Row → Row) :
    ∃ r, (cm.writeRow write channelID f).reconcilePersistedChannel true channelID =
        some ((cm.writeRow write channelID f).mirrorPersistedChannel channelID r, r) ∧
      ((cm.writeRow write channelID f).mirrorPersistedChannel channelID r).Agrees view := by
  obtain ⟨r, hr⟩ := Finmap.mem_iff.mp hmem
  have hrow : ∃ r', (cm.writeRow write channelID f).rows.lookup channelID = some r' := by
    rw [lookup_writeRow, hr]
    split_ifs
    · exact ⟨f r, rfl⟩
    · exact ⟨r, rfl⟩
  obtain ⟨r', hr'⟩ := hrow
  refine ⟨r', by rw [reconcilePersistedChannel_eq, if_pos rfl, hr', Option.map_some],
    h.confirmed hview hr' (cm.writeRow_state ..) ?_⟩
  intro id hid
  show ((cm.writeRow write channelID f).rows.lookup id).map _ = (cm.rows.lookup id).map _
  rw [lookup_writeRow, if_neg fun heq => hid heq.1]

lemma Agrees.commitUpdate {upd : ChannelUpdate} (hupd : upd.invalid = none)
    (hconfirm : sql.confirm = true) : (cm.commitUpdate sql channelID upd).1.Agrees view := by
  by_cases hw : sql.write = .ok
  · rw [commitUpdate_of_mem hw (h.mem_iff.mpr hmem)]
    exact (h.patched channelID (hview.set hupd)).of_same (by simp) (fun id => by simp)
  · unfold ChannelManager.commitUpdate afterUpdateError
    dsimp only
    rw [if_neg hw]
    obtain ⟨r, hread, hcm'⟩ := h.reread hview hmem sql.write (Row.set upd)
    rw [hconfirm, hread]
    cases upd.parentID with
    | none | some p => exact hcm'.of_same (by simp) (fun id => by simp)

lemma Agrees.commitType (type : ChannelType)
    (hconfirm : sql.confirm = true) : (cm.commitType sql channelID type).1.Agrees view := by
  by_cases hw : sql.write = .ok
  · rw [commitType_of_mem hw (h.mem_iff.mpr hmem)]
    exact (h.patched channelID (hview.setType type)).of_same (by simp) (fun id => by simp)
  · unfold ChannelManager.commitType afterTypeError
    dsimp only
    rw [if_neg hw]
    obtain ⟨r, hread, hcm'⟩ := h.reread hview hmem sql.write (Row.setType type)
    rw [hconfirm, hread]
    exact hcm'.of_same (by simp) (fun id => by simp)

end

/-- An edit keeps table and state together, if its reads succeed. -/
theorem Agrees.updateChannel (hview : TreeView view) (hconfirm : sql.confirm = true)
    (upd : ChannelUpdate) : (cm.updateChannel sql channelID upd).1.Agrees view := by
  unfold ChannelManager.updateChannel
  split_ifs with hempty
  · exact h
  · cases hcheck : cm.checkUpdate sql channelID upd with
    | error e => exact h
    | ok u =>
      obtain ⟨hupd, -, -, hmem⟩ := checkUpdate_ok hcheck
      exact h.commitUpdate hview hmem hupd hconfirm

lemma Agrees.setChannelType (hview : TreeView view) (hconfirm : sql.confirm = true)
    (newType : Int) : (cm.setChannelType sql channelID newType).1.Agrees view := by
  unfold ChannelManager.setChannelType
  cases hcheck : cm.checkType sql channelID newType with
  | error e => exact h
  | ok type => exact h.commitType hview (checkType_ok hcheck).2.2 type hconfirm

/-! ## Creating and loading -/

/-- A new channel is registered as it was inserted, as far as the view shows it. -/
lemma agrees_afterInsert_iff (spec : ChannelSpec) (type : ChannelType) (passwordHash : String) :
    (cm.afterInsert spec type passwordHash).Agrees view ↔
      view (persisted (spec.channel type passwordHash cm.table.nextID)) =
        view ((spec.row type passwordHash).channel cm.table.nextID) := by
  have hat : ∀ id, (stateRecord (cm.afterInsert spec type passwordHash).state id).map view =
        ((cm.afterInsert spec type passwordHash).table.record id).map view ↔
      (id = cm.table.nextID →
        view (persisted (spec.channel type passwordHash cm.table.nextID)) =
          view ((spec.row type passwordHash).channel cm.table.nextID)) := by
    intro id
    rw [afterInsert_state, afterInsert_table, record_insert, stateRecord_addChannel]
    show (Option.map view (if id = cm.table.nextID then _ else _) = _) ↔ _
    by_cases hid : id = cm.table.nextID
    · simp [hid]
    · simp [hid, h id]
  exact ⟨fun hm => (hat cm.table.nextID).mp (hm _) rfl, fun heq id => (hat id).mpr fun _ => heq⟩

lemma Agrees.loadIntoState (sql : Calls) : (cm.loadIntoState sql).1.Agrees view := by
  unfold ChannelManager.loadIntoState
  cases sql.fault with
  | some text => exact h
  | none =>
    intro id
    rw [reconcileAll_state, reconcileAll_table, addRows_table, stateRecord_addRows]
    split_ifs
    · rfl
    · exact h id

/-! ## Deleting -/

/-- State and table hold the same tree. -/
lemma Agrees.parents_eq (hview : TreeView view) : stateParents cm.state = cm.table.parents := by
  refine ext_lookup fun k => ?_
  rw [lookup_stateParents, Table.lookup_parents]
  cases hch : cm.state.channels.lookup k with
  | none => rw [lookup_eq_none.mpr (mt h.mem_iff.mpr (lookup_eq_none.mp hch)), map_none, map_none]
  | some ch =>
    obtain ⟨r, hr, heq⟩ := h.exists_row hch
    rw [hr, map_some, map_some]
    exact congrArg some (hview.parent heq)

/-- Under the agreement the look at the state's channels finds nothing to repair. -/
lemma Agrees.reconcileStateOnlyDescendants (hview : TreeView view) (sql : Calls)
    {stateOnly : List Int} (hlive : ∀ id ∈ stateOnly, id ∈ cm.state.channels) :
    (cm.reconcileStateOnlyDescendants sql stateOnly).1.Agrees view ∧
      ∀ missing, (cm.reconcileStateOnlyDescendants sql stateOnly).2 = .ok missing →
        missing = [] := by
  unfold ChannelManager.reconcileStateOnlyDescendants
  have hstart : (cm, (∅ : Finset Int)).1.Agrees view := h
  have hfold := hstart.foldl_checkStateOnly hview
  split
  · refine ⟨hfold _, fun missing hmissing => ?_⟩
    cases hmissing
  refine ⟨(hfold stateOnly).of_same (by simp) (fun id => by simp), fun missing hmissing => ?_⟩
  cases hmissing
  refine List.filter_eq_nil_iff.mpr fun id hid => ?_
  simpa using h.mem_iff.mp (hlive id hid)

/-- The rows of a subtree are deleted, and so are its channels. -/
lemma Agrees.removeChannels {ids : Finset Int} (hids : ∀ id ∈ ids, id ∈ cm.rows)
    (parentID : Int) :
    ((cm.withTable (cm.table.delete ids)).removeChannels (mergeChannelIDs ids)
      parentID).1.Agrees view := by
  intro id
  rw [removeChannels_table, removeChannels_state, withTable, record_delete,
    stateRecord_removeChannels]
  by_cases hid : id ∈ ids
  · -- the ids of rows are positive, so none is dropped from the list
    simp [hid, (cm.table.numbered id (hids id hid)).1]
  · simpa [hid] using h id

/-- A deletion of a channel without a row: nothing is deleted. -/
lemma Agrees.deleteChannelLocked_of_notMem (hview : TreeView view) (sql : Calls)
    (hmem : channelID ∉ cm.rows) : (cm.deleteChannelLocked sql channelID).1.Agrees view := by
  unfold deleteChannelLocked
  cases sql.fault with
  | some text => exact h
  | none =>
    obtain ⟨hm, hmissing⟩ := h.reconcileStateOnlyDescendants hview sql
      (mem_channels_of_stateOnly cm.state channelID (cm.loadChannelSubtree channelID) sql.order)
    rw [rows, ← reconcileStateOnlyDescendants_table] at hmem
    dsimp only
    split_ifs
    · exact h
    unfold deleteChecked
    split
    · exact hm
    · rename_i missing hok
      rw [loadChannelSubtree_eq_empty.mpr hmem, hmissing missing hok]
      exact hm

/-- A deletion of a channel with a row. The state's subtree is the table's, so there is nothing to
look up. -/
lemma Agrees.deleteChannelLocked_eq (hview : TreeView view) (hfault : sql.fault = none)
    (hmem : channelID ∈ cm.rows) :
    cm.deleteChannelLocked sql channelID =
      cm.deleteRows sql channelID (mergeChannelIDs (cm.loadChannelSubtree channelID))
        (cm.rootParentID channelID) := by
  have hsame : stateChannelSubtreeIDs cm.state channelID = cm.loadChannelSubtree channelID := by
    rw [stateChannelSubtreeIDs, h.parents_eq hview, loadChannelSubtree, if_pos hmem]
  exact deleteChannelLocked_of_subset hfault hmem hsame.subset

variable (hconfirm : sql.confirm = true)

include hconfirm

/-- **The `DELETE` of a live channel keeps the agreement** exactly if its row count can be read when
it goes through. -/
theorem agrees_deleteRows_iff (hmem : channelID ∈ cm.rows) (parentID : Int) :
    (cm.deleteRows sql channelID (mergeChannelIDs (cm.loadChannelSubtree channelID))
      parentID).1.Agrees view ↔ (sql.write = .ok → sql.rowCount = true) := by
  have hne : cm.loadChannelSubtree channelID ≠ ∅ :=
    fun hempty => loadChannelSubtree_eq_empty.mp hempty hmem
  have hself := self_mem_loadChannelSubtree.mpr hmem
  have hrows : ∀ id ∈ cm.loadChannelSubtree channelID, id ∈ cm.rows :=
    fun id => mem_loadChannelSubtree
  have hremoved := h.removeChannels hrows parentID
  -- after the `DELETE` the root is gone, and with it what a confirming read would find
  have hgone : (cm.withTable (cm.table.delete (cm.loadChannelSubtree channelID))).loadChannelSubtree
      channelID = ∅ := by
    rw [loadChannelSubtree_eq_empty, ← lookup_eq_none]
    exact (lookup_delete _ channelID).trans (if_pos hself)
  unfold deleteRows
  cases hw : sql.write with
  | failed => simp [Outcome.applied, hconfirm, hne, h]
  | lost => simp [Outcome.applied, hconfirm, hgone, hremoved]
  | ok =>
    cases hcount : sql.rowCount with
    | true => simp [Outcome.applied, hremoved]
    | false =>
      simp only [Outcome.applied, if_true, ne_eq, not_true_eq_false, false_and, if_false,
        Bool.not_false, and_self, reduceCtorEq, imp_false, iff_false]
      intro hm
      have hlive := h.mem_iff.mpr hmem
      have hrow := hm.mem_iff.mp hlive
      rw [← self_mem_loadChannelSubtree, hgone] at hrow
      simp at hrow

/-- **A deletion keeps the agreement** exactly if it does not lose the count of a `DELETE` that went
through. -/
theorem agrees_deleteChannelLocked_iff (hview : TreeView view) (channelID : Int) :
    (cm.deleteChannelLocked sql channelID).1.Agrees view ↔ ¬cm.LosesCount sql channelID := by
  unfold LosesCount
  by_cases hmem : channelID ∈ cm.rows
  · cases hfault : sql.fault with
    | some text =>
      unfold deleteChannelLocked
      simp [hfault, h]
    | none =>
      rw [h.deleteChannelLocked_eq hview hfault hmem, agrees_deleteRows_iff h hconfirm hmem]
      simp [hmem]
  · simp [h.deleteChannelLocked_of_notMem hview sql hmem, hmem]

/-- The deletion that a callback ends in. -/
lemma agrees_cleanupCallback_iff (hview : TreeView view) (channelID : Int) (generation : Nat) :
    (cm.cleanupCallback sql channelID generation).Agrees view ↔
      (cm.timers.lookup channelID = some generation → eligible cm.state channelID = true →
        ¬cm.LosesCount sql channelID) := by
  have hclaimed : (cm.cancelCleanupLocked channelID).Agrees view := h.of_same rfl fun _ => rfl
  have hiff := agrees_deleteChannelLocked_iff hclaimed hconfirm hview channelID
  by_cases htimer : cm.timers.lookup channelID = some generation
  · by_cases helig : eligible cm.state channelID = true
    · rw [cleanupCallback_deletes htimer helig]
      simp only [htimer, helig, forall_const]
      refine Iff.trans ?_ hiff
      split_ifs
      · refine ⟨fun hm => hm.of_same (by simp) (fun id => by simp), fun hm => ?_⟩
        exact hm.of_same (by simp) (fun id => by simp)
      · rfl
    · rw [cleanupCallback_spared htimer helig]
      simp [hclaimed, helig]
  · rw [cleanupCallback_stale htimer]
    simp [htimer, h]

end agreement

/-! ## The whole record -/

section mirrors

variable (h : cm.Mirrors)

include h

/-- A new channel is registered as it was inserted, but for the client limit. -/
lemma mirrors_afterInsert_iff (spec : ChannelSpec) (type : ChannelType) (passwordHash : String) :
    (cm.afterInsert spec type passwordHash).Mirrors ↔ 0 ≤ spec.maxClients := by
  rw [← agrees_id, agrees_afterInsert_iff (agrees_id.mpr h)]
  simp only [ChannelSpec.channel, ChannelSpec.row, Row.channel, persisted, Channel.mk.injEq,
    true_and, and_true]
  split_ifs <;> omega

/-- An `INSERT` that was committed and reported an error leaves a row that the state lacks. -/
lemma not_mirrors_lostInsert (r : Row) : ¬(cm.withTable (cm.table.insert r)).Mirrors := by
  intro hm
  have hrow := hm cm.table.nextID
  have hnone : cm.table.record cm.table.nextID = none := by
    rw [record, lookup_eq_none.mpr nextID_notMem, map_none]
  rw [withTable, record_insert, if_pos rfl, h, hnone] at hrow
  cases hrow

/-- **A creation keeps the agreement** exactly if its `INSERT` is not reached, fails without an
effect, or goes through with a client limit that is not negative. -/
theorem mirrors_createChannel_iff (sql : Calls) (spec : ChannelSpec) :
    (cm.createChannel sql spec).1.Mirrors ↔ ((cm.checkCreate sql spec).isOk = true →
      sql.write = .failed ∨ sql.write = .ok ∧ 0 ≤ spec.maxClients) := by
  unfold createChannel
  cases cm.checkCreate sql spec with
  | error e => simp [h]
  | ok p =>
    unfold insertChannel
    cases sql.write with
    | ok => simp [mirrors_afterInsert_iff h]
    | failed => simp [h]
    | lost => simp [not_mirrors_lostInsert h]

end mirrors

end ChannelManager

/-! ## Whole runs -/

/-- The reads that follow a write whose outcome is unclear succeed. -/
def ChannelOp.Confirmed : ChannelOp → Prop
  | .update sql _ _ | .setType sql _ _ | .delete sql _ | .callback sql _ _ => sql.confirm = true
  | _ => True

namespace ChannelManager

variable {cm : ChannelManager}

/-- The operation learns what it has written: no `INSERT` is committed with an error or with a
negative client limit, which is stored as NULL, and no row count of a `DELETE` that went through is
lost. -/
def TellsOutcome (cm : ChannelManager) : ChannelOp → Prop
  | .create sql spec => (cm.checkCreate sql spec).isOk = true →
      sql.write = .failed ∨ sql.write = .ok ∧ 0 ≤ spec.maxClients
  | .delete sql channelID => ¬cm.LosesCount sql channelID
  | .callback sql channelID generation => cm.timers.lookup channelID = some generation →
      eligible cm.state channelID = true → ¬cm.LosesCount sql channelID
  | _ => True

instance (cm : ChannelManager) : ∀ op, Decidable (cm.TellsOutcome op)
  | .create sql spec => inferInstanceAs (Decidable ((cm.checkCreate sql spec).isOk = true →
      sql.write = .failed ∨ sql.write = .ok ∧ 0 ≤ spec.maxClients))
  | .delete sql channelID => inferInstanceAs (Decidable (¬cm.LosesCount sql channelID))
  | .callback sql channelID generation =>
    inferInstanceAs (Decidable (cm.timers.lookup channelID = some generation →
      eligible cm.state channelID = true → ¬cm.LosesCount sql channelID))
  | .load _ | .update _ _ _ | .setType _ _ _ | .move _ _ | .leave _ | .remove _ =>
    inferInstanceAs (Decidable True)

/-- One operation. -/
lemma mirrors_step_iff (h : cm.Mirrors) {op : ChannelOp} (hop : op.Confirmed) :
    (cm.step op).Mirrors ↔ cm.TellsOutcome op := by
  have ha := agrees_id.mpr h
  cases op with
  | load sql => exact iff_of_true (agrees_id.mp (ha.loadIntoState sql)) trivial
  | create sql spec => exact mirrors_createChannel_iff h sql spec
  | update sql channelID upd =>
    exact iff_of_true (agrees_id.mp (ha.updateChannel treeView_id hop upd)) trivial
  | setType sql channelID newType =>
    exact iff_of_true (agrees_id.mp (ha.setChannelType treeView_id hop newType)) trivial
  | delete sql channelID =>
    exact agrees_id.symm.trans (agrees_deleteChannelLocked_iff ha hop treeView_id channelID)
  | move clientID target =>
    obtain ⟨htable, hstate⟩ := cm.moveClient_frame clientID target
    exact iff_of_true (agrees_id.mp (ha.of_same htable hstate)) trivial
  | leave clientID =>
    obtain ⟨htable, hstate⟩ := cm.leaveClient_frame clientID
    exact iff_of_true (agrees_id.mp (ha.of_same htable hstate)) trivial
  | remove clientID =>
    obtain ⟨htable, hstate⟩ := cm.removeClient_frame clientID
    exact iff_of_true (agrees_id.mp (ha.of_same htable hstate)) trivial
  | callback sql channelID generation =>
    exact agrees_id.symm.trans
      (agrees_cleanupCallback_iff ha hop treeView_id channelID generation)

/-- **The state mirrors the table throughout a run** exactly if every operation of the run learns
what it has written. -/
theorem mirrors_throughout_iff (h : cm.Mirrors) {ops : List ChannelOp}
    (hops : ∀ op ∈ ops, op.Confirmed) :
    Throughout step Mirrors cm ops ↔ StepsOK step TellsOutcome cm ops := by
  refine throughout_iff_stepsOK (fun _ => id) (fun cm op hm hop hok => ?_)
    (fun cm op hm hop hnot hkept => ?_) h (StepsOK.of_mem hops)
  · exact (mirrors_step_iff hm hop).mpr hok
  · exact hnot ((mirrors_step_iff hm hop).mp hkept)

/-- A channel is created; an edit and a deletion are committed with an error, and a type change and
a creation fail. -/
theorem mirrors_throughout_unclear_commits :
    Throughout step Mirrors (.new Table.new Manager.new)
      [.create {} { name := "lobby", maxClients := 8 },
        .update { write := .lost } 1 { topic := some "welcome" },
        .setType { write := .failed } 1 2, .create { write := .failed } { name := "side" },
        .delete { write := .lost } 1] := by
  refine (mirrors_throughout_iff (fun _ => rfl) ?_).mpr (by decide +kernel)
  intro op hop
  fin_cases hop <;> first | rfl | trivial

/-- The row of a channel whose `INSERT` was committed and reported an error is not in the state. -/
theorem lost_insert_leaves_row :
    ¬Throughout step Mirrors (.new Table.new Manager.new)
      [.create { write := .lost } { name := "lobby" }] := by
  intro h
  have hrow := h _ List.prefix_rfl 1
  revert hrow
  decide +kernel

/-! ## One tree

The edit over table and state, and the edit of the one tree in `Voicx.Channels.updateChannel`. -/

/-- **An edit over table and state is the edit of the one tree they hold**, as long as the database
does its part. -/
theorem updateChannel_refines (h : cm.Mirrors) (channelID : Int) (upd : ChannelUpdate) :
    ((cm.updateChannel {} channelID upd).2.map fun _ =>
        (cm.updateChannel {} channelID upd).1.state) =
      Voicx.Channels.updateChannel cm.state true channelID upd := by
  have ha := agrees_id.mpr h
  unfold updateChannel Voicx.Channels.updateChannel checkUpdate
  by_cases hempty : upd = {}
  · rw [hempty]
    rfl
  rw [if_neg hempty]
  cases hinvalid : upd.invalid with
  | some detail => rfl
  | none =>
    simp only [ha.parents_eq treeView_id, if_neg hempty]
    cases validateParent cm.table.parents channelID upd.parentID with
    | error e => rfl
    | ok u =>
      by_cases hmem : channelID ∈ cm.rows
      · have hlive := ha.mem_iff.mpr hmem
        simp only [hmem, not_true_eq_false, if_false, storeUpdate, hlive, Bool.not_true,
          Bool.false_eq_true]
        unfold commitUpdate afterUpdateCommit
        simp only [if_true, mirrorChannelUpdate_writeRow_of_mem _ _ hlive]
        simp [withState, Except.map]
      · have hdead : channelID ∉ cm.state.channels := fun hlive => hmem (ha.mem_iff.mp hlive)
        simp [hmem, storeUpdate, hdead, Except.map]

/-- A hall and an attic, a room in the hall and a closet in the room. -/
def house : ChannelManager :=
  run step (.new Table.new Manager.new)
    [.create {} { name := "hall" }, .create {} { name := "attic" },
      .create {} { name := "room", parentID := 1 }, .create {} { name := "closet", parentID := 3 }]

lemma house_mirrors : house.Mirrors := by
  have hstep : ∀ (cm : ChannelManager) (op : ChannelOp), cm.Mirrors →
      op.Confirmed ∧ cm.TellsOutcome op → (cm.step op).Mirrors :=
    fun cm op h hop => (mirrors_step_iff h hop.1).mpr hop.2
  refine (throughout_of_stepsOK hstep (fun _ => rfl) (StepsOK.and ?_ ?_)).final
  · exact ⟨trivial, trivial, trivial, trivial, trivial⟩
  · decide +kernel

/-- The room moves from the hall into the attic, and the closet stays in it. -/
theorem updateChannel_refines_move :
    let r := house.updateChannel {} 3 { parentID := some 2 }
    (r.2.map fun _ => r.1.state) =
        Voicx.Channels.updateChannel house.state true 3 { parentID := some 2 } ∧
      ∀ id ∈ [(1, 0), (2, 0), (3, 2), (4, 3)],
        (r.1.state.channels.lookup id.1).map Channel.parentID = some id.2 :=
  ⟨updateChannel_refines house_mirrors 3 _, by decide +kernel⟩

end ChannelManager

end Voicx.Channels
