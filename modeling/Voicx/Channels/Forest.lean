import Voicx.Channels.Mirror

/-!
# The stored tree

The parent ids of the `channels` table, and what an operation of the manager may do to them.

* `Table.Forest` — no channel is above itself, and every parent id has a row.
* `Table.Change` — the changes of the table that operations make, each with what was checked before
  it: the parent of a new row exists, a new parent passed the cycle guard, a deletion takes the
  whole subtree.
* `Forest.change` — **a change keeps the forest.** The cycle guard is what makes it true of an edit:
  `not_reachable_of_validateLoop`.
* `ChannelManager.step_change` — every operation of a manager, however its database calls end, makes
  one change; `forest_throughout`, `state_acyclic_throughout` — its runs keep the forest.
-/

namespace Voicx.Channels

open Found Finmap Option ChannelManager

/-! ## Parents -/

namespace Table

variable (t : Table)

/-- No channel is above itself, and every parent has a row. -/
structure Forest : Prop where
  acyclic : Acyclic t.parents.lookup
  parent_mem : ∀ id p, t.parents.lookup id = some p → p = 0 ∨ p ∈ t.rows

/-- What an operation may do to the table.
Source: `internal/channels/manager.go`, `CreateChannel`, `UpdateChannel`, `SetChannelType`,
`deleteChannelLocked` -/
inductive Change : Table → Prop
  | keep : Change t
  | insert (r : Row) (hparent : r.parentID = 0 ∨ r.parentID ∈ t.rows) : Change (t.insert r)
  | update (channelID : Int) (upd : ChannelUpdate)
      (hguard : ∀ p, upd.parentID = some p →
        validateMoveTx t.parents channelID p = .ok ()) :
      Change (t.modify channelID (Row.set upd))
  | setType (channelID : Int) (type : ChannelType) : Change (t.modify channelID (Row.setType type))
  | delete (channelID : Int) (hmem : channelID ∈ t.rows) :
      Change (t.delete (subtree t.parents channelID))

variable {t}

variable {id : Int}

/-- Nothing is above the top level. -/
lemma parents_zero : t.parents.lookup 0 = none := by
  rw [lookup_parents, lookup_eq_none.mpr zero_notMem]
  rfl

lemma parents_insert (r : Row) (id : Int) :
    (t.insert r).parents.lookup id =
      if id = t.nextID then some r.parentID else t.parents.lookup id := by
  rw [lookup_parents, lookup_insert, lookup_parents]
  split_ifs <;> rfl

lemma parents_modify (channelID : Int) (f : Row → Row) (id : Int) :
    (t.modify channelID f).parents.lookup id =
      if id = channelID then (t.rows.lookup channelID).map fun r => (f r).parentID
      else t.parents.lookup id := by
  rw [lookup_parents, lookup_modify, lookup_parents]
  split_ifs
  · exact map_map ..
  · rfl

lemma parents_delete (ids : Finset Int) (id : Int) :
    (t.delete ids).parents.lookup id = if id ∈ ids then none else t.parents.lookup id := by
  rw [lookup_parents, lookup_delete, lookup_parents]
  split_ifs <;> rfl

lemma mem_insert {r : Row} : id ∈ (t.insert r).rows ↔ id = t.nextID ∨ id ∈ t.rows :=
  Finmap.mem_insert

lemma mem_modify {channelID : Int} {f : Row → Row} :
    id ∈ (t.modify channelID f).rows ↔ id ∈ t.rows :=
  FMap.mem_modify _ _ _ _

lemma delete_empty : t.delete ∅ = t := by
  have hrows : (t.delete ∅).rows = t.rows :=
    ext_lookup fun id => by rw [lookup_delete, if_neg (Finset.notMem_empty id)]
  cases t
  simp only [delete] at hrows ⊢
  simp only [hrows]

/-! ### The cycle guard -/

section guard

variable {channelID newParentID current : Int} {n : ℕ} {first : Bool}

/-- **A guard that passes has met everything above the new parent, and not the channel.** -/
theorem not_reachable_of_validateLoop (hid : channelID ≠ 0)
    (h : validateLoop t.parents channelID newParentID n first current = .ok ()) :
    ¬Relation.ReflTransGen (Link t.parents.lookup) current channelID := by
  -- along the walk of the guard; the bound is what it recurses on
  induction n generalizing first current with
  | zero =>
    obtain ⟨-, p, m, -, hm, -⟩ := validateLoop_ok_iff.mp h
    cases hm
  | succ n ih =>
    obtain ⟨hself, p, m, hp, hm, hrest⟩ := validateLoop_ok_iff.mp h
    cases hm
    intro hreach
    rcases reflTransGen_link_cases hreach with heq | ⟨q, hq, hreach⟩
    · exact hself heq.symm
    cases hp.symm.trans hq
    rcases hrest with htop | hrest
    · rw [htop] at hreach
      exact hid (eq_of_reachable_of_none parents_zero hreach)
    · exact ih hrest hreach

/-- What a guard has made sure of. -/
lemma validateMoveTx_ok (h : validateMoveTx t.parents channelID newParentID = .ok ()) :
    channelID ∈ t.rows ∧ (newParentID = 0 ∨ newParentID ∈ t.rows) ∧
      ¬Relation.ReflTransGen (Link t.parents.lookup) newParentID channelID := by
  simp only [validateMoveTx, mem_parents] at h
  split_ifs at h with hmem htop
  · have hid : channelID ≠ 0 := fun h0 => zero_notMem (h0 ▸ hmem)
    refine ⟨hmem, .inl htop, fun hreach => hid ?_⟩
    rw [htop] at hreach
    exact eq_of_reachable_of_none parents_zero hreach
  · have hid : channelID ≠ 0 := fun h0 => zero_notMem (h0 ▸ hmem)
    obtain ⟨-, p, -, hp, -⟩ := validateLoop_ok_iff.mp h
    exact ⟨hmem, .inr (mem_parents.mp (mem_of_lookup_eq_some hp)),
      not_reachable_of_validateLoop hid h⟩

end guard

/-! ### Changes keep the forest -/

section forest

variable {t' : Table}

lemma forest_new : Table.new.Forest where
  acyclic a h := by
    obtain ⟨b, hb, -⟩ := Relation.TransGen.head'_iff.mp h
    cases hb
  parent_mem id p hp := by cases hp

variable (h : t.Forest)

include h

/-- A table with the same rows and parents. -/
lemma Forest.of_parents (hmem : ∀ id, id ∈ t.rows → id ∈ t'.rows)
    (hparents : ∀ id, t'.parents.lookup id = t.parents.lookup id) : t'.Forest where
  acyclic := h.acyclic.mono fun x _ hxy => (hparents x).symm.trans hxy
  parent_mem id p hp := (h.parent_mem id p ((hparents id).symm.trans hp)).imp_right (hmem p)

variable {p channelID : Int} {f : Row → Row}

/-- A new row is a leaf. -/
theorem Forest.insert {r : Row} (hr : r.parentID = 0 ∨ r.parentID ∈ t.rows) :
    (t.insert r).Forest where
  acyclic := by
    have hold : ∀ id, id ≠ t.nextID → (t.insert r).parents.lookup id = t.parents.lookup id :=
      fun id hid => by rw [parents_insert, if_neg hid]
    refine h.acyclic.repoint hold (by rw [parents_insert, if_pos rfl]) fun hreach => ?_
    -- nothing leads to the new row
    rcases Relation.ReflTransGen.cases_tail hreach with heq | ⟨id, -, hid⟩
    · rcases hr with hzero | hmem
      · exact t.nextID_pos.ne' (heq.trans hzero)
      · exact nextID_notMem (heq ▸ hmem)
    · rcases h.parent_mem _ _ hid with hzero | hmem
      · exact t.nextID_pos.ne' hzero
      · exact nextID_notMem hmem
  parent_mem id p hp := by
    rw [parents_insert] at hp
    split_ifs at hp
    · cases hp
      exact hr.imp_right fun hmem => mem_insert.mpr (.inr hmem)
    · exact (h.parent_mem id p hp).imp_right fun hmem => mem_insert.mpr (.inr hmem)

/-- A channel is moved below one that is not below it. -/
lemma Forest.reparent {channelID p : Int} {f : Row → Row} (hf : ∀ r, (f r).parentID = p)
    (hmem : channelID ∈ t.rows) (hp : p = 0 ∨ p ∈ t.rows)
    (hreach : ¬Relation.ReflTransGen (Link t.parents.lookup) p channelID) :
    (t.modify channelID f).Forest := by
  obtain ⟨r, hr⟩ := mem_iff.mp hmem
  have hnew : (t.modify channelID f).parents.lookup channelID = some p := by
    rw [parents_modify, if_pos rfl, hr, map_some, hf]
  have hold : ∀ id, id ≠ channelID →
      (t.modify channelID f).parents.lookup id = t.parents.lookup id :=
    fun id hid => by rw [parents_modify, if_neg hid]
  refine ⟨h.acyclic.repoint hold hnew hreach, fun id q hq => ?_⟩
  by_cases hid : id = channelID
  · rw [hid, hnew] at hq
    cases hq
    exact hp.imp_right mem_modify.mpr
  · rw [hold id hid] at hq
    exact (h.parent_mem id q hq).imp_right mem_modify.mpr

/-- A row is changed, and not its parent. -/
lemma Forest.modify (hf : ∀ r, (f r).parentID = r.parentID) : (t.modify channelID f).Forest := by
  refine h.of_parents (fun _ => mem_modify.mpr) fun id => ?_
  rw [parents_modify]
  split_ifs with hid
  · rw [hid, lookup_parents]
    exact congrArg (Option.map · _) (funext hf)
  · rfl

/-- A subtree is taken out. -/
lemma Forest.delete (channelID : Int) : (t.delete (subtree t.parents channelID)).Forest where
  acyclic := by
    refine h.acyclic.mono fun x y hxy => ?_
    rw [parents_delete] at hxy
    split_ifs at hxy
    exact hxy
  parent_mem id p hp := by
    rw [parents_delete] at hp
    split_ifs at hp with hout
    refine (h.parent_mem id p hp).imp_right fun hmem => mem_delete.mpr ⟨fun hin => ?_, hmem⟩
    -- a child of a row that goes would go as well
    exact hout (subtree_closed hp (.inr hin))

/-- **A change keeps the forest.** -/
theorem Forest.change (hc : t.Change t') : t'.Forest := by
  cases hc with
  | keep => exact h
  | insert r hparent => exact h.insert hparent
  | update channelID upd hguard =>
    cases hp : upd.parentID with
    | none => exact h.modify fun r => by rw [Row.set, hp, getD_none]
    | some p =>
      obtain ⟨hmem, hparent, hreach⟩ := validateMoveTx_ok (hguard p hp)
      exact h.reparent (fun r => by rw [Row.set, hp, getD_some]) hmem hparent hreach
  | setType channelID type => exact h.modify fun r => rfl
  | delete channelID hmem => exact h.delete channelID

end forest

end Table

/-! ## The operations of a manager -/

namespace ChannelManager

variable {cm : ChannelManager} {sql : Calls} {channelID : Int} {confirm : Bool}

lemma change_of_eq {t t' : Table} (h : t' = t) : t.Change t' := h ▸ .keep

/-- What follows a commit leaves the table alone. -/
lemma mirrorChannelUpdate_table {u : State.ChannelUpdate} {r : ChannelManager × Bool}
    (h : cm.mirrorChannelUpdate confirm channelID u = some r) : r.1.table = cm.table := by
  unfold mirrorChannelUpdate at h
  dsimp only at h
  split_ifs at h
  · cases h
    rfl
  · obtain ⟨row, -, rfl⟩ := map_eq_some_iff.mp h
    rfl

lemma reconcilePersistedChannel_table {r : ChannelManager × Row}
    (h : cm.reconcilePersistedChannel confirm channelID = some r) : r.1.table = cm.table := by
  rw [reconcilePersistedChannel_eq] at h
  obtain ⟨row, -, rfl⟩ := map_eq_some_iff.mp h
  rfl

/-- The table after a transaction on one row. -/
lemma writeRow_change (write : Outcome) {f : Row → Row}
    (h : cm.table.Change (cm.table.modify channelID f)) :
    cm.table.Change (cm.writeRow write channelID f).table := by
  unfold writeRow
  split_ifs
  · exact h
  · exact .keep

lemma commitUpdate_table (upd : ChannelUpdate) :
    (cm.commitUpdate sql channelID upd).1.table =
      (cm.writeRow sql.write channelID (Row.set upd)).table := by
  unfold commitUpdate afterUpdateCommit afterUpdateError
  dsimp only
  split_ifs
  · split
    · rfl
    · next r hr =>
        rw [reconcileParents_table]
        split_ifs
        · rw [reconcile_table, mirrorChannelUpdate_table hr]
        · exact mirrorChannelUpdate_table hr
  · split
    · rfl
    · next r hr =>
        split
        · rw [reconcile_table, reconcilePersistedChannel_table hr]
        · rw [reconcileAll_table, reconcile_table, reconcilePersistedChannel_table hr]

lemma commitType_table (type : ChannelType) :
    (cm.commitType sql channelID type).1.table =
      (cm.writeRow sql.write channelID (Row.setType type)).table := by
  unfold commitType afterTypeCommit afterTypeError
  dsimp only
  split_ifs
  · split
    · rfl
    · next r hr => rw [reconcile_table, mirrorChannelUpdate_table hr]
  · split
    · rfl
    · next r hr => rw [reconcile_table, reconcilePersistedChannel_table hr]

/-! ### Each is a change -/

/-- What a creation has passed when its `INSERT` is reached. -/
lemma checkCreate_parent {spec : ChannelSpec} {p : ChannelType × String}
    (h : cm.checkCreate sql spec = .ok p) : spec.parentID = 0 ∨ spec.parentID ∈ cm.rows := by
  by_contra hnot
  rw [not_or] at hnot
  unfold checkCreate at h
  cases hvalid : spec.validate <;> cases hfault : sql.fault <;> simp [hvalid, hfault, hnot] at h

lemma createChannel_change (spec : ChannelSpec) :
    cm.table.Change (cm.createChannel sql spec).1.table := by
  unfold createChannel
  cases hcheck : cm.checkCreate sql spec with
  | error e => exact .keep
  | ok p =>
    have hinsert : cm.table.Change (cm.table.insert (spec.row p.1 p.2)) :=
      .insert _ (checkCreate_parent hcheck)
    unfold insertChannel
    cases sql.write with
    | failed => exact .keep
    | lost => exact hinsert
    | ok =>
      rw [afterInsert_table]
      exact hinsert

lemma updateChannel_change (upd : ChannelUpdate) :
    cm.table.Change (cm.updateChannel sql channelID upd).1.table := by
  unfold updateChannel
  split_ifs
  · exact .keep
  cases hcheck : cm.checkUpdate sql channelID upd with
  | error e => exact .keep
  | ok u =>
    obtain ⟨-, -, hguard, -⟩ := checkUpdate_ok hcheck
    rw [commitUpdate_table]
    refine writeRow_change sql.write (.update channelID upd fun p hp => ?_)
    rw [hp] at hguard
    exact hguard

lemma setChannelType_change (newType : Int) :
    cm.table.Change (cm.setChannelType sql channelID newType).1.table := by
  unfold setChannelType
  cases cm.checkType sql channelID newType with
  | error e => exact .keep
  | ok type =>
    rw [commitType_table]
    exact writeRow_change sql.write (.setType channelID type)

lemma deleteRows_change (channelIDs : List Int) (parentID : Int) :
    cm.table.Change (cm.deleteRows sql channelID channelIDs parentID).1.table := by
  rw [deleteRows_table]
  split_ifs
  · unfold loadChannelSubtree
    split_ifs with hmem
    · exact .delete channelID hmem
    · rw [Table.delete_empty]
      exact .keep
  · exact .keep

lemma deleteChannelLocked_change :
    cm.table.Change (cm.deleteChannelLocked sql channelID).1.table := by
  unfold deleteChannelLocked
  cases sql.fault with
  | some text => exact .keep
  | none =>
    dsimp only
    split_ifs
    · exact .keep
    generalize hchecked : cm.reconcileStateOnlyDescendants sql _ = checked
    have htable : checked.1.table = cm.table := by
      rw [← hchecked]
      exact cm.reconcileStateOnlyDescendants_table sql _
    rw [← htable]
    unfold deleteChecked
    cases checked.2 with
    | error e => exact .keep
    | ok missing =>
      dsimp only
      split_ifs
      · exact .keep
      · exact deleteRows_change _ _

lemma cleanupCallback_change (generation : Nat) :
    cm.table.Change (cm.cleanupCallback sql channelID generation).table := by
  by_cases htimer : cm.timers.lookup channelID = some generation
  · by_cases helig : eligible cm.state channelID = true
    · have hclaimed := @deleteChannelLocked_change (cm.cancelCleanupLocked channelID) sql channelID
      rw [cleanupCallback_deletes htimer helig]
      split_ifs
      · rw [reconcile_table]
        exact hclaimed
      · exact hclaimed
    · rw [cleanupCallback_spared htimer helig]
      exact .keep
  · rw [cleanupCallback_stale htimer]
    exact .keep

/-- **Every operation makes one change**, however its database calls end. -/
theorem step_change (cm : ChannelManager) (op : ChannelOp) :
    cm.table.Change (cm.step op).table := by
  cases op with
  | load sql =>
    show cm.table.Change (cm.loadIntoState sql).1.table
    unfold loadIntoState
    cases sql.fault with
    | some text => exact .keep
    | none => exact change_of_eq ((reconcileAll_table _ _).trans (addRows_table _ _))
  | create sql spec => exact createChannel_change spec
  | update sql channelID upd => exact updateChannel_change upd
  | setType sql channelID newType => exact setChannelType_change newType
  | delete sql channelID => exact deleteChannelLocked_change
  | move clientID target => exact change_of_eq (cm.moveClient_frame clientID target).1
  | leave clientID => exact change_of_eq (cm.leaveClient_frame clientID).1
  | remove clientID => exact change_of_eq (cm.removeClient_frame clientID).1
  | callback sql channelID generation => exact cleanupCallback_change generation

/-- **The table of one manager stays a forest** along every run. -/
theorem forest_throughout (h : cm.table.Forest) (ops : List ChannelOp) :
    Throughout step (fun cm => cm.table.Forest) cm ops := by
  have hstep : ∀ (cm : ChannelManager) op, cm.table.Forest → (cm.step op).table.Forest :=
    fun cm op hforest => hforest.change (cm.step_change op)
  exact throughout_of_step hstep h ops

/-- **The tree in memory has no cycle either**, as long as every operation learns what it has
written. -/
theorem state_acyclic_throughout (h : cm.table.Forest) (hmirrors : cm.Mirrors)
    {ops : List ChannelOp} (hops : ∀ op ∈ ops, op.Confirmed)
    (htells : StepsOK step TellsOutcome cm ops) :
    Throughout step (fun cm => cm.state.Acyclic) cm ops := by
  have hmirrored : Throughout step Mirrors cm ops :=
    throughout_of_stepsOK (fun _ _ hm hop => (mirrors_step_iff hm hop.1).mpr hop.2) hmirrors
      ((StepsOK.of_mem hops).and htells)
  intro pre hpre id hcycle
  refine (forest_throughout h ops pre hpre).acyclic id (Relation.TransGen.mono ?_ _ _ hcycle)
  rintro a b ⟨ch, hch, rfl, -⟩
  show (Table.parents _).lookup a = some ch.parentID
  rw [← (agrees_id.mpr (hmirrored pre hpre)).parents_eq treeView_id, lookup_stateParents, hch,
    map_some]

/-- Two rooms that move below each other. -/
theorem state_acyclic_throughout_moves :
    Throughout step (fun cm => cm.state.Acyclic) (.new .new .new)
      [.create {} { name := "a" }, .create {} { name := "b" },
        .update { write := .lost } 1 { parentID := some 2 },
        .update {} 2 { parentID := some 1 }] := by
  refine state_acyclic_throughout Table.forest_new (fun _ => rfl) ?_ (by decide +kernel)
  intro op hop
  fin_cases hop <;> first | rfl | trivial

end ChannelManager

end Voicx.Channels
