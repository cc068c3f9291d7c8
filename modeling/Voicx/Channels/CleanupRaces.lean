import Voicx.Channels.Manager

/-!
# Cleanup callbacks among concurrent operations

The operations of the channel manager run concurrently. Creating, editing without a new parent,
changing a type, and everything a client does hold the tree lock for reading; giving a channel a new
parent, deleting a subtree and the callback of a cleanup timer hold it for writing. So the former
are threads of small steps that mix in any order, and the latter are single steps that wait until no
thread is under way.

* `Task`, `doTask` — the small steps: one access to the database, the state or the timers each.
* `call_drains` — an operation that nothing interrupts is the operation of the manager.
* `Races`, `Races.step` — the manager with its threads. The locks of single channels and clients are
  left out, which only adds interleavings.
* `TimersGrow` — what any piece of any operation does to the timers: it drops some, and installs new
  ones under new generations.
* `Races.Inv` — a timer is younger than the last move into its channel, or a thread is about to stop
  it.
* `cleanup_deletes_iff` — callbacks delete only what they may exactly if the table has nothing below
  a channel that the state does not show.
-/

namespace Voicx.Channels

open Found State ChannelManager List Option Finset

/-! ## Small steps -/

/-- A step of an operation that holds the tree lock for reading. -/
inductive Task
  /-- the checks of `CreateChannel` -/
  | create (spec : ChannelSpec)
  /-- `INSERT` -/
  | insert (spec : ChannelSpec) (type : ChannelType) (passwordHash : String)
  /-- `AddChannel` -/
  | register (ch : Channel)
  /-- `reconcileCleanupWatcherLocked`: its three reads, and what it decides on -/
  | reconcile (channelID : Int)
  | members (channelID : Int)
  | leaf (channelID : Int)
  | start (channelID : Int)
  | cancel (channelID : Int)
  /-- the transactions of `UpdateChannel` and `SetChannelType` -/
  | update (channelID : Int) (upd : ChannelUpdate)
  | setType (channelID newType : Int)
  /-- `mirrorChannelUpdate`: the patch, and the read if the state lacks the channel; `typed` marks
  `SetChannelType` -/
  | patch (channelID : Int) (u : State.ChannelUpdate) (typed : Bool)
  | reload (channelID : Int) (typed : Bool)
  /-- `reconcilePersistedChannel`: the read, and what it found -/
  | confirm (channelID : Int) (typed : Bool)
  | mirror (channelID : Int) (r : Row)
  /-- where the client stands, and the move -/
  | move (clientID : String) (target : Int)
  | relocate (clientID : String) (old target : Int)
  | leave (clientID : String)
  | vacate (clientID : String) (old : Int)
  | remove (clientID : String)

/-- What `SetChannelType` does when the state could not be repaired. -/
def Task.giveUp (channelID : Int) (typed : Bool) : List Task :=
  if typed then [.cancel channelID] else []

/-- The manager after a step, and the steps that it makes necessary.
Source: `internal/channels/manager.go`, the operations that hold `treeMu.RLock` -/
def doTask (sql : Calls) (cm : ChannelManager) : Task → ChannelManager × List Task
  | .create spec =>
    match cm.checkCreate sql spec with
    | .error _ => (cm, [])
    | .ok p => (cm, [.insert spec p.1 p.2])
  | .insert spec type passwordHash =>
    match sql.write with
    | .failed => (cm, [])
    | .lost => (cm.withTable (cm.table.insert (spec.row type passwordHash)), [])
    | .ok => (cm.withTable (cm.table.insert (spec.row type passwordHash)),
        [.register (spec.channel type passwordHash cm.table.nextID),
          .reconcile cm.table.nextID] ++
        if spec.parentID ≠ 0 then [.reconcile spec.parentID] else [])
  | .register ch => (cm.withState (cm.state.addChannel ch), [])
  | .reconcile channelID =>
    (cm, if stateType cm.state channelID = some ChannelType.temporary.toInt then
        [.members channelID]
      else [.cancel channelID])
  | .members channelID =>
    (cm, if channelMembers cm.state channelID = ∅ then [.leaf channelID]
      else [.cancel channelID])
  | .leaf channelID =>
    (cm, if (stateChannelSubtreeIDs cm.state channelID).card = 1 then
        [.start channelID]
      else [.cancel channelID])
  | .start channelID => (cm.startCleanupWatcherLocked channelID, [])
  | .cancel channelID => (cm.cancelCleanupLocked channelID, [])
  | .update channelID upd =>
    if upd = {} then (cm, [])
    else match cm.checkUpdate sql channelID upd with
      | .error _ => (cm, [])
      | .ok _ => (cm.writeRow sql.write channelID (Row.set upd),
          if sql.write = .ok then [.patch channelID upd.patch false]
          else [.confirm channelID false])
  | .setType channelID newType =>
    match cm.checkType sql channelID newType with
    | .error _ => (cm, [])
    | .ok type => (cm.writeRow sql.write channelID (Row.setType type),
        if sql.write = .ok then [.patch channelID { channelType := some type.toInt } true]
        else [.confirm channelID true])
  | .patch channelID u typed =>
    if channelID ∈ cm.state.channels then
      (cm.withState (cm.state.updateChannel channelID u).1,
        if typed then [.reconcile channelID] else [])
    else (cm, [.reload channelID typed])
  | .reload channelID typed =>
    match if sql.confirm then cm.rows.lookup channelID else none with
    | none => (cm, Task.giveUp channelID typed)
    | some r => (cm, [.register (r.channel channelID), .reconcile channelID])
  | .confirm channelID typed =>
    match if sql.confirm then cm.rows.lookup channelID else none with
    | none => (cm, Task.giveUp channelID typed)
    | some r => (cm, [.mirror channelID r, .reconcile channelID])
  | .mirror channelID r =>
    if channelID ∈ cm.state.channels then
      (cm.withState (cm.state.updateChannel channelID r.mirror).1, [])
    else (cm, [.register (r.channel channelID)])
  | .move clientID target =>
    match cm.state.chanOf clientID with
    | none => (cm, [])
    | some old => (cm, [.relocate clientID old target])
  | .relocate clientID old target =>
    match cm.state.moveClient clientID target with
    | .error _ => (cm, [])
    | .ok m => (cm.withState m,
        .cancel target :: if old ≠ 0 ∧ old ≠ target then [.reconcile old] else [])
  | .leave clientID =>
    match cm.state.chanOf clientID with
    | none => (cm, [])
    | some old => (cm, if old = 0 then [] else [.vacate clientID old])
  | .vacate clientID old =>
    match cm.state.leaveChannel clientID with
    | .error _ => (cm, [])
    | .ok m => (cm.withState m, [.reconcile old])
  | .remove clientID =>
    match (cm.state.removeClient clientID).2 with
    | none => (cm, [])
    | some c => (cm.withState (cm.state.removeClient clientID).1,
        if c.channelID ≠ 0 then [.reconcile c.channelID] else [])

/-- An operation that holds the tree lock for reading.
Source: `internal/channels/manager.go`, `CreateChannel`, `UpdateChannel` without a new parent,
`SetChannelType`, `MoveClient`, `LeaveClient`, `RemoveClient` -/
inductive Call
  | create (spec : ChannelSpec)
  | update (channelID : Int) (upd : ChannelUpdate) (h : upd.parentID = none)
  | setType (channelID newType : Int)
  | move (clientID : String) (target : Int)
  | leave (clientID : String)
  | remove (clientID : String)

/-- The first step of a call. -/
def Call.task : Call → Task
  | .create spec => .create spec
  | .update channelID upd _ => .update channelID upd
  | .setType channelID newType => .setType channelID newType
  | .move clientID target => .move clientID target
  | .leave clientID => .leave clientID
  | .remove clientID => .remove clientID

/-- The call as an operation of the manager. -/
def Call.op (sql : Calls) : Call → ChannelOp
  | .create spec => .create sql spec
  | .update channelID upd _ => .update sql channelID upd
  | .setType channelID newType => .setType sql channelID newType
  | .move clientID target => .move clientID target
  | .leave clientID => .leave clientID
  | .remove clientID => .remove clientID

/-! ## An operation that nothing interrupts -/

section drain

variable {sql : Calls} (cm : ChannelManager)

/-- The next step of the list is done. -/
def Micro (sql : Calls) (s s' : ChannelManager × List Task) : Prop :=
  ∃ task rest, s.2 = task :: rest ∧
    s' = ((doTask sql s.1 task).1, (doTask sql s.1 task).2 ++ rest)

/-- The steps of the list are done one after the other, down to a rest. -/
abbrev Drains (sql : Calls) : ChannelManager × List Task → ChannelManager × List Task → Prop :=
  Relation.ReflTransGen (Micro sql)

variable {task : Task} {rest : List Task} {s : ChannelManager × List Task} {cm' : ChannelManager}

lemma drains_head {cm : ChannelManager}
    (h : Drains sql ((doTask sql cm task).1, (doTask sql cm task).2 ++ rest) s) :
    Drains sql (cm, task :: rest) s :=
  Relation.ReflTransGen.head ⟨task, rest, rfl, rfl⟩ h

variable (clientID : String) (channelID : Int) (typed : Bool)

/-- The three reads of a reconciliation and its decision. -/
lemma drains_reconcile (rest : List Task) :
    Drains sql (cm, .reconcile channelID :: rest)
      (cm.reconcileCleanupWatcherLocked channelID, rest) := by
  have hcancel : ∀ h : ¬eligible cm.state channelID = true,
      Drains sql (cm, .cancel channelID :: rest)
        (cm.reconcileCleanupWatcherLocked channelID, rest) := by
    intro h
    apply drains_head
    rw [reconcileCleanupWatcherLocked, if_neg h]
    exact .refl
  apply drains_head
  unfold doTask
  dsimp only
  split_ifs with htype
  · apply drains_head
    unfold doTask
    dsimp only
    split_ifs with hmembers
    · apply drains_head
      unfold doTask
      dsimp only
      split_ifs with hleaf
      · apply drains_head
        rw [reconcileCleanupWatcherLocked,
          if_pos (eligible_iff_card.mpr ⟨htype, hmembers, hleaf⟩)]
        exact .refl
      · exact hcancel fun h => hleaf (eligible_iff_card.mp h).2.2
    · exact hcancel fun h => hmembers (eligible_iff_card.mp h).2.1
  · exact hcancel fun h => htype (eligible_iff_card.mp h).1

/-- The next step, with what it comes to. -/
lemma drains_step {cm : ChannelManager} {new : List Task} (hdo : doTask sql cm task = (cm', new))
    (h : Drains sql (cm', new ++ rest) s) : Drains sql (cm, task :: rest) s := by
  apply drains_head
  rw [hdo]
  exact h

/-- The next step, if it leaves nothing to do. -/
lemma drains_done {cm : ChannelManager} (hdo : doTask sql cm task = (cm', [])) :
    Drains sql (cm, task :: rest) (cm', rest) :=
  drains_step hdo .refl

lemma drains_create (spec : ChannelSpec) :
    Drains sql (cm, [.create spec]) ((cm.createChannel sql spec).1, []) := by
  unfold createChannel
  cases hcheck : cm.checkCreate sql spec with
  | error e => exact drains_done (by simp [doTask, hcheck])
  | ok p =>
    refine drains_step (by simp only [doTask, hcheck]; rfl) ?_
    unfold insertChannel
    cases hw : sql.write with
    | failed | lost => exact drains_done (by simp [doTask, hw])
    | ok =>
      refine drains_step (by simp only [doTask, hw]; rfl) ?_
      refine drains_step rfl ((drains_reconcile _ _ _).trans ?_)
      unfold afterInsert
      split_ifs
      · exact drains_reconcile _ _ _
      · exact .refl

/-- The record that a read found is taken over. -/
lemma drains_mirror (r : Row) (rest : List Task) :
    Drains sql (cm, .mirror channelID r :: rest) (cm.mirrorPersistedChannel channelID r, rest) := by
  unfold mirrorPersistedChannel
  dsimp only
  by_cases hlive : channelID ∈ cm.state.channels
  · rw [if_pos (updateChannel_snd.mpr hlive)]
    exact drains_done (by simp [doTask, if_pos hlive])
  · rw [if_neg fun h => hlive (updateChannel_snd.mp h)]
    refine drains_step (by simp only [doTask, if_neg hlive]; rfl) ?_
    exact drains_step rfl .refl

/-- What `SetChannelType` does when the state could not be repaired. -/
lemma drains_giveUp (rest : List Task) :
    Drains sql (cm, Task.giveUp channelID typed ++ rest)
      (if typed then cm.cancelCleanupLocked channelID else cm, rest) := by
  cases typed with
  | false => exact .refl
  | true => exact drains_step rfl .refl

/-- The state follows a commit that went through. -/
lemma drains_patch (u : State.ChannelUpdate) (typed : Bool) :
    Drains sql (cm, [.patch channelID u typed])
      ((cm.mirrorChannelUpdate sql.confirm channelID u).elim
        (if typed then cm.cancelCleanupLocked channelID else cm)
        fun r => if typed || r.2 then r.1.reconcileCleanupWatcherLocked channelID else r.1,
        []) := by
  by_cases hlive : channelID ∈ cm.state.channels
  · rw [mirrorChannelUpdate_of_mem hlive]
    refine drains_step (by simp only [doTask, if_pos hlive]; rfl) ?_
    cases typed with
    | false => exact .refl
    | true => exact drains_reconcile _ _ _
  rw [mirrorChannelUpdate_of_notMem hlive]
  refine drains_step (by simp only [doTask, if_neg hlive]; rfl) ?_
  cases hr : if sql.confirm then cm.rows.lookup channelID else none with
  | none =>
    refine drains_step (by simp only [doTask, hr]; rfl) ?_
    exact drains_giveUp cm channelID typed []
  | some r =>
    refine drains_step (by simp only [doTask, hr]; rfl) (drains_step rfl ?_)
    simp only [map_some, elim_some, Bool.or_true, if_true]
    exact drains_reconcile _ _ _

/-- The state follows a commit that reported an error. -/
lemma drains_confirm :
    Drains sql (cm, [.confirm channelID typed])
      ((cm.reconcilePersistedChannel sql.confirm channelID).elim
        (if typed then cm.cancelCleanupLocked channelID else cm)
        fun r => r.1.reconcileCleanupWatcherLocked channelID, []) := by
  rw [reconcilePersistedChannel_eq]
  cases hr : if sql.confirm then cm.rows.lookup channelID else none with
  | none =>
    refine drains_step (by simp only [doTask, hr]; rfl) ?_
    exact drains_giveUp cm channelID typed []
  | some r =>
    refine drains_step (by simp only [doTask, hr]; rfl) ?_
    exact (drains_mirror _ _ _ _).trans (drains_reconcile _ _ _)

lemma drains_update {upd : ChannelUpdate} (hparent : upd.parentID = none) :
    Drains sql (cm, [.update channelID upd]) ((cm.updateChannel sql channelID upd).1, []) := by
  unfold ChannelManager.updateChannel
  by_cases hempty : upd = {}
  · exact drains_done (by simp [doTask, if_pos hempty])
  cases hcheck : cm.checkUpdate sql channelID upd with
  | error e => exact drains_done (by simp [doTask, if_neg hempty, hcheck])
  | ok u =>
    refine drains_step (by simp only [doTask, if_neg hempty, hcheck]; rfl) ?_
    unfold commitUpdate
    dsimp only
    split_ifs with hw
    · refine (drains_patch _ _ _ _).trans ?_
      unfold afterUpdateCommit
      rw [hparent]
      cases (cm.writeRow sql.write channelID (Row.set upd)).mirrorChannelUpdate sql.confirm
        channelID upd.patch <;> exact .refl
    · refine (drains_confirm _ _ _).trans ?_
      unfold afterUpdateError
      rw [hparent]
      cases (cm.writeRow sql.write channelID (Row.set upd)).reconcilePersistedChannel
        sql.confirm channelID <;> exact .refl

lemma drains_setType (newType : Int) :
    Drains sql (cm, [.setType channelID newType])
      ((cm.setChannelType sql channelID newType).1, []) := by
  unfold setChannelType
  cases hcheck : cm.checkType sql channelID newType with
  | error e => exact drains_done (by simp [doTask, hcheck])
  | ok type =>
    refine drains_step (by simp only [doTask, hcheck]; rfl) ?_
    unfold commitType
    dsimp only
    split_ifs with hw
    · refine (drains_patch _ _ _ _).trans ?_
      unfold afterTypeCommit
      cases (cm.writeRow sql.write channelID (Row.setType type)).mirrorChannelUpdate sql.confirm
        channelID { channelType := some type.toInt } <;> exact .refl
    · refine (drains_confirm _ _ _).trans ?_
      unfold afterTypeError
      cases (cm.writeRow sql.write channelID (Row.setType type)).reconcilePersistedChannel
        sql.confirm channelID <;> exact .refl

lemma drains_move (target : Int) :
    Drains sql (cm, [.move clientID target]) ((cm.moveClient clientID target).1, []) := by
  unfold moveClient
  cases hold : cm.state.chanOf clientID with
  | none => exact drains_done (by simp [doTask, hold])
  | some old =>
    refine drains_step (by simp only [doTask, hold]; rfl) ?_
    cases hmove : cm.state.moveClient clientID target with
    | error e => exact drains_done (by simp [doTask, hmove])
    | ok m =>
      refine drains_step (by simp only [doTask, hmove]; rfl) (drains_step rfl ?_)
      dsimp only
      split_ifs
      · exact drains_reconcile _ _ _
      · exact .refl

lemma drains_leave : Drains sql (cm, [.leave clientID]) ((cm.leaveClient clientID).1, []) := by
  unfold leaveClient
  cases hold : cm.state.chanOf clientID with
  | none => exact drains_done (by simp [doTask, hold])
  | some old =>
    refine drains_step (by simp only [doTask, hold]; rfl) ?_
    split_ifs with h0
    · -- a client that stands nowhere cannot leave
      obtain ⟨c, hc, hch⟩ := Manager.chanOf_eq_some.mp hold
      have hleave : cm.state.leaveChannel clientID = .error .notInChannel := by
        unfold Manager.leaveChannel
        rw [hc]
        exact if_pos (hch.trans h0)
      rw [hleave]
      exact .refl
    · cases hleave : cm.state.leaveChannel clientID with
      | error e => exact drains_done (by simp [doTask, hleave])
      | ok m =>
        refine drains_step (by simp only [doTask, hleave]; rfl) ?_
        exact drains_reconcile _ _ _

lemma drains_remove : Drains sql (cm, [.remove clientID]) ((cm.removeClient clientID).1, []) := by
  unfold removeClient
  dsimp only
  cases hc : (cm.state.removeClient clientID).2 with
  | none => exact drains_done (by simp [doTask, hc])
  | some c =>
    refine drains_step (by simp only [doTask, hc]; rfl) ?_
    dsimp only
    split_ifs
    · exact drains_reconcile _ _ _
    · exact .refl

/-- **An operation that nothing interrupts is the operation of the manager.** -/
theorem call_drains (call : Call) : Drains sql (cm, [call.task]) (cm.step (call.op sql), []) := by
  cases call with
  | create spec => exact drains_create cm spec
  | update channelID upd hparent => exact drains_update cm channelID hparent
  | setType channelID newType => exact drains_setType cm channelID newType
  | move clientID target => exact drains_move cm clientID target
  | leave clientID => exact drains_leave cm clientID
  | remove clientID => exact drains_remove cm clientID

end drain

/-! ## What an operation does to the timers -/

/-- Every installed timer has a generation of its own that has been given out. -/
structure Numbered (cm : ChannelManager) : Prop where
  bounded : ∀ c g, cm.timers.lookup c = some g → g ≤ cm.nextCleanupGeneration
  injective : ∀ c d g, cm.timers.lookup c = some g → cm.timers.lookup d = some g → c = d

/-- Some timers are gone, and those that are new have generations that are. -/
structure TimersGrow (cm cm' : ChannelManager) : Prop where
  le : cm.nextCleanupGeneration ≤ cm'.nextCleanupGeneration
  old_or_new : ∀ c g, cm'.timers.lookup c = some g →
    cm.timers.lookup c = some g ∨ cm.nextCleanupGeneration < g
  numbered : Numbered cm → Numbered cm'

namespace TimersGrow

variable {cm cm' cm'' : ChannelManager}

/-- Timers that are dropped. -/
lemma of_sub (hsub : ∀ c g, cm'.timers.lookup c = some g → cm.timers.lookup c = some g)
    (hnext : cm'.nextCleanupGeneration = cm.nextCleanupGeneration) : TimersGrow cm cm' where
  le := hnext.ge
  old_or_new c g h := Or.inl (hsub c g h)
  numbered h := by
    refine ⟨fun c g hc => ?_, fun c d g hc hd => ?_⟩
    · rw [hnext]
      exact h.bounded c g (hsub c g hc)
    · exact h.injective c d g (hsub c g hc) (hsub d g hd)

/-- What does not touch the timers. -/
lemma of_same (htimers : cm'.timers = cm.timers)
    (hnext : cm'.nextCleanupGeneration = cm.nextCleanupGeneration) : TimersGrow cm cm' :=
  of_sub (fun _ _ h => htimers ▸ h) hnext

lemma refl (cm : ChannelManager) : TimersGrow cm cm := of_same rfl rfl

lemma trans (h : TimersGrow cm cm') (h' : TimersGrow cm' cm'') : TimersGrow cm cm'' where
  le := h.le.trans h'.le
  old_or_new c g hc := by
    rcases h'.old_or_new c g hc with hold | hnew
    · exact h.old_or_new c g hold
    · exact .inr (h.le.trans_lt hnew)
  numbered hcm := h'.numbered (h.numbered hcm)

variable (cm) (sql : Calls) (old channelID : Int) (upd : ChannelUpdate) (channelIDs : List Int)
  (parentID : Int)

/-- The new timer has the highest generation. -/
theorem start : TimersGrow cm (cm.startCleanupWatcherLocked channelID) := by
  have hlookup : ∀ c g, (cm.startCleanupWatcherLocked channelID).timers.lookup c = some g →
      c = channelID ∧ cm.nextCleanupGeneration + 1 = g ∨
        c ≠ channelID ∧ cm.timers.lookup c = some g := fun _ _ => FMap.lookup_insert_eq_some.mp
  have hnext : (cm.startCleanupWatcherLocked channelID).nextCleanupGeneration =
      cm.nextCleanupGeneration + 1 := rfl
  refine ⟨Nat.le_succ _, fun c g h => ?_, fun hcm => ⟨fun c g h => ?_, fun c d g hc hd => ?_⟩⟩
  · rcases hlookup c g h with ⟨-, hg⟩ | ⟨-, hold⟩
    · exact .inr (by omega)
    · exact .inl hold
  · rcases hlookup c g h with ⟨-, hg⟩ | ⟨-, hold⟩
    · omega
    · exact (hcm.bounded c g hold).trans (Nat.le_succ _)
  · -- the new generation is larger than any other
    rcases hlookup c g hc with ⟨hcc, hg⟩ | ⟨hcc, hcold⟩
    · rcases hlookup d g hd with ⟨hdc, -⟩ | ⟨-, hdold⟩
      · rw [hcc, hdc]
      · have hle := hcm.bounded d g hdold
        omega
    · rcases hlookup d g hd with ⟨hdc, hg⟩ | ⟨-, hdold⟩
      · have hle := hcm.bounded c g hcold
        omega
      · exact hcm.injective c d g hcold hdold

lemma cancel : TimersGrow cm (cm.cancelCleanupLocked channelID) :=
  of_sub (fun _ _ => FMap.lookup_of_lookup_erase) rfl

lemma reconcile : TimersGrow cm (cm.reconcileCleanupWatcherLocked channelID) := by
  unfold reconcileCleanupWatcherLocked
  split_ifs
  · exact start cm channelID
  · exact cancel cm channelID

lemma reconcileAll : TimersGrow cm (cm.reconcileAll channelIDs) := by
  induction channelIDs generalizing cm with
  | nil => exact refl cm
  | cons c rest ih => exact (reconcile cm c).trans (ih _)

lemma reconcileParents (new : Option Int) : TimersGrow cm (cm.reconcileParents old new) := by
  cases new with
  | none => exact refl cm
  | some p =>
    unfold ChannelManager.reconcileParents
    dsimp only
    split_ifs
    · exact (reconcile cm old).trans (reconcile _ p)
    · exact reconcile cm p
    · exact reconcile cm old
    · exact refl cm

lemma cancelAll : TimersGrow cm (cm.cancelAll channelIDs) := by
  induction channelIDs generalizing cm with
  | nil => exact refl cm
  | cons c rest ih => exact (cancel cm c).trans (ih _)

/-- Changes of the state and of the table. -/
lemma withState (m : Manager) : TimersGrow cm (cm.withState m) :=
  of_same rfl rfl

lemma withTable (t : Table) : TimersGrow cm (cm.withTable t) :=
  of_same rfl rfl

lemma removeChannels : TimersGrow cm (cm.removeChannels channelIDs parentID).1 := by
  unfold ChannelManager.removeChannels
  have hdrop := (cancelAll cm channelIDs).trans
    (withState _ ((cm.cancelAll channelIDs).state.removeChannels channelIDs).1)
  split_ifs
  · exact hdrop.trans (reconcile _ parentID)
  · exact hdrop

lemma foldl_checkStateOnly (acc : ChannelManager × Finset Int) :
    TimersGrow acc.1 (channelIDs.foldl checkStateOnly acc).1 := by
  induction channelIDs generalizing acc with
  | nil => exact refl _
  | cons c rest ih =>
    refine trans ?_ (ih (checkStateOnly acc c))
    unfold checkStateOnly
    cases acc.1.rows.lookup c with
    | none => exact refl _
    | some r => exact of_same rfl rfl

lemma reconcileStateOnlyDescendants (stateOnly : List Int) :
    TimersGrow cm (cm.reconcileStateOnlyDescendants sql stateOnly).1 := by
  unfold ChannelManager.reconcileStateOnlyDescendants
  split
  · exact foldl_checkStateOnly _ (cm, ∅)
  · exact (foldl_checkStateOnly stateOnly (cm, ∅)).trans (reconcileAll _ _)

lemma deleteRows : TimersGrow cm (cm.deleteRows sql channelID channelIDs parentID).1 := by
  unfold ChannelManager.deleteRows
  dsimp only
  have hdelete : TimersGrow cm (if sql.write.applied then
      cm.withTable (cm.table.delete (cm.loadChannelSubtree channelID)) else cm) := by
    split_ifs
    · exact withTable cm _
    · exact refl cm
  split_ifs at hdelete ⊢
  all_goals first | exact hdelete | exact hdelete.trans (removeChannels _ _ _)

lemma deleteChecked (missing : Except UpdateError (List Int)) :
    TimersGrow cm (cm.deleteChecked sql channelID parentID missing).1 := by
  unfold ChannelManager.deleteChecked
  split
  · exact refl cm
  · dsimp only
    split_ifs
    · exact refl cm
    · exact deleteRows _ _ _ _ _

/-- A deletion drops timers and starts later ones. -/
theorem deleteChannelLocked : TimersGrow cm (cm.deleteChannelLocked sql channelID).1 := by
  unfold ChannelManager.deleteChannelLocked
  cases sql.fault with
  | some text => exact refl cm
  | none =>
    dsimp only
    split_ifs
    · exact refl cm
    · exact (reconcileStateOnlyDescendants cm sql _).trans (deleteChecked _ _ _ _ _)

lemma cleanupCallback (generation : Nat) :
    TimersGrow cm (cm.cleanupCallback sql channelID generation) := by
  unfold ChannelManager.cleanupCallback
  dsimp only
  split_ifs
  · exact refl cm
  · exact cancel cm channelID
  · exact ((cancel cm channelID).trans (deleteChannelLocked _ sql channelID)).trans
      (reconcile _ channelID)
  · exact (cancel cm channelID).trans (deleteChannelLocked _ sql channelID)

lemma writeRow (write : Outcome) (channelID : Int) (f : Row → Row) :
    TimersGrow cm (cm.writeRow write channelID f) := by
  unfold ChannelManager.writeRow
  split_ifs
  · exact withTable cm _
  · exact refl cm

lemma afterUpdateCommit : TimersGrow cm (cm.afterUpdateCommit sql old channelID upd).1 := by
  unfold ChannelManager.afterUpdateCommit
  cases hmirror : cm.mirrorChannelUpdate sql.confirm channelID upd.patch with
  | none => exact refl cm
  | some r =>
    have hstate : TimersGrow cm r.1 := by
      unfold mirrorChannelUpdate at hmirror
      dsimp only at hmirror
      split_ifs at hmirror
      · cases hmirror
        exact withState cm _
      · obtain ⟨row, -, rfl⟩ := map_eq_some_iff.mp hmirror
        exact withState cm _
    dsimp only
    split_ifs
    · exact (hstate.trans (reconcile _ channelID)).trans (reconcileParents _ old upd.parentID)
    · exact hstate.trans (reconcileParents _ old upd.parentID)

lemma afterUpdateError : TimersGrow cm (cm.afterUpdateError sql old channelID upd).1 := by
  unfold ChannelManager.afterUpdateError
  cases hread : cm.reconcilePersistedChannel sql.confirm channelID with
  | none => exact refl cm
  | some r =>
    have hstate : TimersGrow cm r.1 := by
      unfold reconcilePersistedChannel at hread
      split_ifs at hread
      obtain ⟨row, -, rfl⟩ := map_eq_some_iff.mp hread
      exact withState cm _
    cases upd.parentID with
    | none => exact hstate.trans (reconcile _ channelID)
    | some p => exact (hstate.trans (reconcile _ channelID)).trans (reconcileAll _ _)

lemma updateChannel : TimersGrow cm (cm.updateChannel sql channelID upd).1 := by
  unfold ChannelManager.updateChannel
  split_ifs
  · exact refl cm
  cases cm.checkUpdate sql channelID upd with
  | error e => exact refl cm
  | ok u =>
    unfold commitUpdate
    split_ifs
    · exact (writeRow cm _ _ _).trans (afterUpdateCommit _ _ _ _ _)
    · exact (writeRow cm _ _ _).trans (afterUpdateError _ _ _ _ _)

/-- A small step installs a timer, cancels one, or leaves the timers alone. -/
theorem doTask (task : Task) : TimersGrow cm (doTask sql cm task).1 := by
  unfold Voicx.Channels.doTask
  split
  case h_7 channelID => exact start cm channelID
  case h_8 channelID => exact cancel cm channelID
  all_goals
    repeat' split
    all_goals first
      | exact refl cm
      | exact withState cm _
      | exact withTable cm _
      | exact writeRow cm _ _ _

end TimersGrow

/-! ## The manager and its threads -/

/-- The manager, the operations under way, and who entered what when. -/
structure Races where
  cm : ChannelManager
  /-- per operation that holds the tree lock for reading, the steps it still has to do -/
  threads : List (List Task)
  /-- per channel, the generation counter at the last successful move into it -/
  entered : FMap Int Nat

/-- A step of the system. -/
inductive RaceStep
  /-- an operation takes the tree lock for reading -/
  | call (call : Call)
  /-- an operation does its next step -/
  | advance (thread : Nat) (sql : Calls)
  /-- the operations that hold the tree lock for writing -/
  | update (sql : Calls) (channelID : Int) (upd : ChannelUpdate)
  | delete (sql : Calls) (channelID : Int)
  /-- a timer fires, be it installed, stopped or replaced -/
  | callback (sql : Calls) (channelID : Int) (generation : Nat)
  /-- a client connects -/
  | connect (c : Client)

/-- The channel that a step moves a client into. -/
def Task.entersAt (cm : ChannelManager) : Task → Option Int
  | .relocate clientID _ target =>
    match cm.state.moveClient clientID target with
    | .error _ => none
    | .ok _ => some target
  | _ => none

namespace Races

/-- A manager at rest. -/
def start (cm : ChannelManager) : Races where
  cm := cm
  threads := []
  entered := ∅

variable (s : Races)

/-- No operation holds the tree lock. -/
def Idle : Prop := ∀ t ∈ s.threads, t = []

instance : Decidable s.Idle := inferInstanceAs (Decidable (∀ t ∈ s.threads, t = []))

/-- The moves into channels after a step of a thread. -/
def enteredAfter (task : Task) : FMap Int Nat :=
  match task.entersAt s.cm with
  | none => s.entered
  | some target => s.entered.insert target s.cm.nextCleanupGeneration

/-- A thread does its next step. -/
def advance (thread : Nat) (sql : Calls) : List Task → Races
  | [] => s
  | task :: rest =>
    { cm := (doTask sql s.cm task).1
      threads := s.threads.set thread ((doTask sql s.cm task).2 ++ rest)
      entered := s.enteredAfter task }

/-- An operation that holds the tree lock for writing: it waits until no other is under way. -/
def exclusively (cm : ChannelManager) : Races := if s.Idle then { s with cm := cm } else s

/-- One step. -/
def step : RaceStep → Races
  | .call call => { s with threads := s.threads ++ [[call.task]] }
  | .advance thread sql => s.advance thread sql (s.threads.getD thread [])
  | .update sql channelID upd => s.exclusively (s.cm.updateChannel sql channelID upd).1
  | .delete sql channelID => s.exclusively (s.cm.deleteChannelLocked sql channelID).1
  | .callback sql channelID generation =>
    s.exclusively (s.cm.cleanupCallback sql channelID generation)
  | .connect c => { s with cm := s.cm.withState (s.cm.state.addClient c) }

/-! ## The invariant -/

/-- A thread is about to stop the timer of the channel. -/
def Stopping (channelID : Int) : Prop := ∃ t ∈ s.threads, Task.cancel channelID ∈ t

/-- Timers are numbered, and each is younger than the last move into its channel unless a thread is
about to stop it. -/
structure Inv : Prop where
  numbered : Numbered s.cm
  entered_le : ∀ c n, s.entered.lookup c = some n → n ≤ s.cm.nextCleanupGeneration
  fresh : ∀ c n g, s.entered.lookup c = some n → s.cm.timers.lookup c = some g →
    n < g ∨ s.Stopping c

variable {s}

lemma inv_start (t : Table) (m : Manager) : (start (.new t m)).Inv where
  numbered := ⟨fun c g h => by simp [start, new] at h,
    fun c d g h => by simp [start, new] at h⟩
  entered_le c n h := by simp [start] at h
  fresh c n g h := by simp [start] at h

/-- The manager takes any step that only lets the timers grow; no thread forgets to stop a timer,
and one that has moved a client will. -/
lemma Inv.grow (h : s.Inv) {s' : Races} (hgrow : TimersGrow s.cm s'.cm)
    (hentered : ∀ c n, s'.entered.lookup c = some n → s.entered.lookup c = some n ∨
      n = s.cm.nextCleanupGeneration ∧ s'.Stopping c)
    (hstopping : ∀ c g, s.Stopping c → s'.cm.timers.lookup c = some g → s'.Stopping c) :
    s'.Inv where
  numbered := hgrow.numbered h.numbered
  entered_le c n hn := by
    rcases hentered c n hn with hold | ⟨rfl, -⟩
    · exact (h.entered_le c n hold).trans hgrow.le
    · exact hgrow.le
  fresh c n g hn hg := by
    rcases hentered c n hn with hold | ⟨-, hstop⟩
    · rcases hgrow.old_or_new c g hg with hinstalled | hnew
      · rcases h.fresh c n g hold hinstalled with hlt | hstop
        · exact .inl hlt
        · exact .inr (hstopping c g hstop hg)
      · exact .inl ((h.entered_le c n hold).trans_lt hnew)
    · exact .inr hstop

variable {cm : ChannelManager} {sql : Calls} {task : Task}

lemma Inv.exclusively (h : s.Inv) (hgrow : TimersGrow s.cm cm) : (s.exclusively cm).Inv := by
  unfold Races.exclusively
  split_ifs
  · exact h.grow hgrow (fun _ _ => .inl) fun _ _ hstop _ => hstop
  · exact h

/-- The step that moves a client is followed by the one that stops the timer. -/
lemma cancel_mem_of_entersAt {target : Int} (h : task.entersAt cm = some target) :
    .cancel target ∈ (doTask sql cm task).2 := by
  cases task with
  | relocate clientID old target' =>
    simp only [Task.entersAt, doTask] at h ⊢
    cases hmove : cm.state.moveClient clientID target' with
    | error e => simp [hmove] at h
    | ok m =>
      rw [hmove] at h
      cases h
      exact mem_cons_self
  | _ => cases h

/-- A timer that a thread was about to stop is stopped, or the thread still is. -/
lemma stopping_advance {thread : Nat} {rest : List Task}
    (hthread : s.threads.getD thread [] = task :: rest) {c : Int} {g : Nat} (hstop : s.Stopping c)
    (hg : (doTask sql s.cm task).1.timers.lookup c = some g) :
    (s.advance thread sql (task :: rest)).Stopping c := by
  obtain ⟨t, ht, hc⟩ := hstop
  obtain ⟨j, hj⟩ := mem_iff_getElem?.mp ht
  by_cases hij : thread = j
  · -- the thread that moves on is the one that was about to stop the timer
    subst hij
    rw [getD_eq_getElem?_getD, hj, getD_some] at hthread
    rw [hthread] at hc
    rcases mem_cons.mp hc with rfl | hrest
    · have hgone : (doTask sql s.cm (.cancel c)).1.timers.lookup c = none := by
        show (s.cm.timers.erase c).lookup c = none
        rw [FMap.lookup_erase_ite, if_pos rfl]
      rw [hgone] at hg
      cases hg
    · refine ⟨(doTask sql s.cm task).2 ++ rest, ?_, mem_append_right _ hrest⟩
      exact mem_set (List.getElem?_eq_some_iff.mp hj).1 _
  · refine ⟨t, mem_iff_getElem?.mpr ⟨j, ?_⟩, hc⟩
    show (s.threads.set thread _)[j]? = some t
    rw [List.getElem?_set_ne hij, hj]

lemma Inv.advance (h : s.Inv) (thread : Nat) (sql : Calls) :
    (s.step (.advance thread sql)).Inv := by
  show (s.advance thread sql (s.threads.getD thread [])).Inv
  cases hthread : s.threads.getD thread [] with
  | nil => exact h
  | cons task rest =>
    have hlt : thread < s.threads.length := by
      by_contra hge
      rw [getD_eq_getElem?_getD, List.getElem?_eq_none (not_lt.mp hge)] at hthread
      cases hthread
    refine h.grow (TimersGrow.doTask s.cm sql task) (fun c n hn => ?_)
      fun c g hstop hg => stopping_advance hthread hstop hg
    have hentered : (s.enteredAfter task).lookup c = some n := hn
    unfold enteredAfter at hentered
    cases henters : task.entersAt s.cm with
    | none =>
      rw [henters] at hentered
      exact .inl hentered
    | some target =>
      simp only [henters, FMap.lookup_insert_ite] at hentered
      split_ifs at hentered with hc
      · refine .inr ⟨(Option.some.inj hentered).symm, ?_⟩
        refine ⟨(doTask sql s.cm task).2 ++ rest, mem_set hlt _, ?_⟩
        rw [hc]
        exact mem_append_left _ (cancel_mem_of_entersAt henters)
      · exact .inl hentered

/-- An operation that starts changes nothing yet. -/
theorem Inv.call (h : s.Inv) (call : Call) : (s.step (.call call)).Inv := by
  refine h.grow (TimersGrow.refl s.cm) (fun _ _ => .inl) fun c g hstop _ => ?_
  obtain ⟨t, ht, hc⟩ := hstop
  exact ⟨t, mem_append_left _ ht, hc⟩

/-- **Every step keeps the invariant.** -/
theorem Inv.step (h : s.Inv) (i : RaceStep) : (s.step i).Inv := by
  cases i with
  | call call => exact h.call call
  | advance thread sql => exact h.advance thread sql
  | update sql channelID upd => exact h.exclusively (TimersGrow.updateChannel ..)
  | delete sql channelID => exact h.exclusively (TimersGrow.deleteChannelLocked ..)
  | callback sql channelID generation => exact h.exclusively (TimersGrow.cleanupCallback ..)
  | connect c =>
    exact h.grow (TimersGrow.withState s.cm _) (fun _ _ => .inl) fun _ _ hstop _ => hstop

end Races

/-! ## What a callback deletes -/

/-- A channel is gone from the table, or from the state. -/
def Deletes (cm cm' : ChannelManager) (d : Int) : Prop :=
  (d ∈ cm.rows ∧ d ∉ cm'.rows) ∨ (d ∈ cm.state.channels ∧ d ∉ cm'.state.channels)

instance (cm cm' : ChannelManager) (d : Int) : Decidable (Deletes cm cm' d) :=
  inferInstanceAs (Decidable (_ ∨ _))

section deletes

variable {cm : ChannelManager} {sql : Calls} {c d : Int}

lemma not_deletes_of_same {cm' : ChannelManager} (htable : cm'.table = cm.table)
    (hstate : cm'.state = cm.state) : ¬Deletes cm cm' d := by
  rintro (⟨hrow, hgone⟩ | ⟨hlive, hgone⟩)
  · rw [rows, htable] at hgone
    exact hgone hrow
  · rw [hstate] at hgone
    exact hgone hlive

variable {channelIDs : List Int} {parentID : Int}

/-- A channel that a removal takes out of the state is on the list. -/
lemma mem_of_removeChannels (cm : ChannelManager) (hlive : d ∈ cm.state.channels)
    (hgone : d ∉ (cm.removeChannels channelIDs parentID).1.state.channels) : d ∈ channelIDs := by
  by_contra hnot
  rw [removeChannels_state, ← Finmap.lookup_eq_none,
    Manager.lookup_removeChannels, if_neg hnot, Finmap.lookup_eq_none] at hgone
  exact hgone hlive

/-- A channel that the `DELETE` takes out of the state is on the list. -/
lemma mem_of_deleteRows (hlive : d ∈ cm.state.channels)
    (hgone : d ∉ (cm.deleteRows sql c channelIDs parentID).1.state.channels) :
    d ∈ channelIDs ∧ (sql.write.applied = true ∨ c ∉ cm.rows) := by
  unfold deleteRows at hgone
  dsimp only at hgone
  by_cases hw : sql.write.applied = true
  · refine ⟨?_, .inl hw⟩
    split_ifs at hgone
    · exact absurd hlive hgone
    · exact absurd hlive hgone
    · exact absurd hlive hgone
    · exact mem_of_removeChannels (cm.withTable (cm.table.delete (cm.loadChannelSubtree c))) hlive
        hgone
  · -- nothing was deleted: the root is still there if it ever was
    have hne : sql.write ≠ .ok := by
      intro hok
      rw [hok] at hw
      exact hw rfl
    split_ifs at hgone with h1 h2 h3
    · exact absurd hlive hgone
    · exact absurd hlive hgone
    · exact absurd h3.1 hne
    · refine ⟨mem_of_removeChannels cm hlive hgone, .inr ?_⟩
      rw [← loadChannelSubtree_eq_empty]
      by_contra hsome
      exact h2 ⟨hne, hsome⟩

section

variable (hleaf : stateChannelSubtreeIDs cm.state c = {c})

include hleaf

/-- The deletion of a channel without a row and with nothing below it in the state. -/
lemma deleteChannelLocked_of_noRow (hfault : sql.fault = none) (hmem : c ∉ cm.rows) :
    (cm.deleteChannelLocked sql c).1 = cm ∨
      cm.deleteChannelLocked sql c =
        cm.deleteRows sql c (mergeChannelIDs {c}) (cm.rootParentID c) := by
  have hnone := loadChannelSubtree_eq_empty.mpr hmem
  have hlist : sql.order.list (({c} : Finset Int) \ ∅) = [c] :=
    List.perm_singleton.mp (sql.order.perm _)
  unfold deleteChannelLocked
  dsimp only
  rw [hfault, hleaf, hnone, hlist]
  unfold reconcileStateOnlyDescendants
  cases hcheck : sql.check c with
  | false => exact .inl (by simp [hcheck, deleteChecked])
  | true =>
    right
    have hfold : [c].foldl checkStateOnly (cm, ∅) = (cm, ∅) := by
      simp [checkStateOnly, Finmap.lookup_eq_none.mpr hmem]
    have hall : cm.reconcileAll (mergeChannelIDs ∅) = cm := rfl
    simp only [List.find?_cons, hcheck, Bool.not_true, List.find?_nil, hfold, hall,
      List.filter_cons, hmem, not_false_eq_true, decide_true, if_true, List.filter_nil]
    unfold deleteChecked
    simp [hnone]

/-- The deletion of a channel that has nothing below it in the state: it takes what the table has
below it, or the channel itself from the state. -/
lemma deletes_deleteChannelLocked (h : Deletes cm (cm.deleteChannelLocked sql c).1 d) :
    d = c ∨ sql.fault = none ∧ sql.write.applied = true ∧ d ∈ cm.loadChannelSubtree c := by
  cases hfault : sql.fault with
  | some text =>
    have hkept : (cm.deleteChannelLocked sql c).1 = cm := by
      unfold deleteChannelLocked
      simp [hfault]
    rw [hkept] at h
    exact absurd h (not_deletes_of_same rfl rfl)
  | none =>
    by_cases hmem : c ∈ cm.rows
    · -- the row is there: the rows below it go, and with them their channels
      have hsub : stateChannelSubtreeIDs cm.state c ⊆ cm.loadChannelSubtree c := by
        rw [hleaf, singleton_subset_iff]
        exact self_mem_loadChannelSubtree.mpr hmem
      rw [deleteChannelLocked_of_subset hfault hmem hsub] at h
      rcases h with ⟨hrow, hgone⟩ | ⟨hlive, hgone⟩
      · rw [rows, deleteRows_table] at hgone
        split_ifs at hgone with hw
        · rw [Table.mem_delete] at hgone
          refine .inr ⟨rfl, hw, ?_⟩
          by_contra hnot
          exact hgone ⟨hnot, hrow⟩
        · exact absurd hrow hgone
      · obtain ⟨hin, hw⟩ := mem_of_deleteRows hlive hgone
        refine .inr ⟨rfl, hw.resolve_right (not_not.mpr hmem), ?_⟩
        exact (mem_mergeChannelIDs.mp hin).1
    · left
      rcases deleteChannelLocked_of_noRow hleaf hfault hmem with hkept | hrows
      · rw [hkept] at h
        exact absurd h (not_deletes_of_same rfl rfl)
      rw [hrows] at h
      rcases h with ⟨hrow, hgone⟩ | ⟨hlive, hgone⟩
      · -- no row goes
        rw [rows, deleteRows_table, loadChannelSubtree_eq_empty.mpr hmem] at hgone
        split_ifs at hgone
        · rw [Table.mem_delete] at hgone
          exact absurd ⟨notMem_empty d, hrow⟩ hgone
        · exact absurd hrow hgone
      · have hin := (mem_mergeChannelIDs.mp (mem_of_deleteRows hlive hgone).1).1
        exact Finset.mem_singleton.mp hin

/-- The rows below a channel go with it. -/
lemma deletes_of_mem_loadChannelSubtree (hfault : sql.fault = none)
    (hw : sql.write.applied = true) (hd : d ∈ cm.loadChannelSubtree c) :
    Deletes cm (cm.deleteChannelLocked sql c).1 d := by
  have hmem : c ∈ cm.rows := by
    by_contra hnot
    rw [loadChannelSubtree_eq_empty.mpr hnot] at hd
    exact notMem_empty d hd
  have hsub : stateChannelSubtreeIDs cm.state c ⊆ cm.loadChannelSubtree c := by
    rw [hleaf, singleton_subset_iff]
    exact self_mem_loadChannelSubtree.mpr hmem
  rw [deleteChannelLocked_of_subset hfault hmem hsub]
  refine .inl ⟨mem_loadChannelSubtree hd, ?_⟩
  rw [rows, deleteRows_table, if_pos hw, Table.mem_delete]
  exact fun hboth => hboth.1 hd

end

/-- The state shows nothing below an eligible channel. -/
lemma subtree_eq_of_eligible (h : eligible cm.state c = true) :
    stateChannelSubtreeIDs cm.state c = {c} := by
  obtain ⟨htype, -, hcard⟩ := eligible_iff_card.mp h
  obtain ⟨ch, hch, -⟩ := Option.map_eq_some_iff.mp htype
  obtain ⟨k, hk⟩ := Finset.card_eq_one.mp hcard
  have hself : c ∈ stateChannelSubtreeIDs cm.state c :=
    root_mem_subtree (mem_stateParents.mpr (Finmap.mem_of_lookup_eq_some hch))
  rw [hk, Finset.mem_singleton] at hself
  rw [hk, hself]

/-- What follows the deletion of a callback deletes nothing more. -/
lemma deletes_cleanupCallback_iff {g : Nat} (htimer : cm.timers.lookup c = some g)
    (helig : eligible cm.state c = true) :
    Deletes cm (cm.cleanupCallback sql c g) d ↔
      Deletes (cm.cancelCleanupLocked c)
        ((cm.cancelCleanupLocked c).deleteChannelLocked sql c).1 d := by
  rw [cleanupCallback_deletes htimer helig]
  unfold Deletes rows
  split_ifs
  · rw [reconcile_table, reconcile_state]
    rfl
  · rfl

end deletes

/-! ## Whole runs -/

namespace Races

/-- A callback deletes a channel only if the channel is temporary, empty and childless in the state,
the callback's timer is the one installed for it, and the timer is younger than the last move into
the channel. -/
def CleansUp (s : Races) : RaceStep → Prop
  | .callback sql channelID generation => ∀ d,
      Deletes s.cm (s.step (.callback sql channelID generation)).cm d →
        eligible s.cm.state d = true ∧ s.cm.timers.lookup d = some generation ∧
          ∀ n, s.entered.lookup d = some n → n < generation
  | _ => True

/-- A callback whose `DELETE` takes effect finds no other row below its channel. -/
def NoHiddenRow (s : Races) : RaceStep → Prop
  | .callback sql channelID generation => s.Idle →
      s.cm.timers.lookup channelID = some generation →
      eligible s.cm.state channelID = true → sql.fault = none →
      sql.write.applied = true → ∀ d ∈ s.cm.loadChannelSubtree channelID, d = channelID
  | _ => True

variable {s : Races}

/-- **One callback.** -/
theorem Inv.cleansUp_callback_iff (h : s.Inv) (sql : Calls) (c : Int) (g : Nat) :
    s.CleansUp (.callback sql c g) ↔ s.NoHiddenRow (.callback sql c g) := by
  show (∀ d, Deletes s.cm (s.exclusively (s.cm.cleanupCallback sql c g)).cm d → _) ↔ (s.Idle → _)
  unfold Races.exclusively
  by_cases hidle : s.Idle
  · rw [if_pos hidle]
    by_cases htimer : s.cm.timers.lookup c = some g
    · by_cases helig : eligible s.cm.state c = true
      · have hleaf : stateChannelSubtreeIDs (s.cm.cancelCleanupLocked c).state c =
            {c} := subtree_eq_of_eligible helig
        simp only [deletes_cleanupCallback_iff htimer helig]
        constructor
        · intro hall _ _ _ hfault hw d hd
          -- a timer belongs to one channel
          have hdel : Deletes (s.cm.cancelCleanupLocked c) _ d :=
            deletes_of_mem_loadChannelSubtree hleaf hfault hw hd
          exact h.numbered.injective d c g (hall d hdel).2.1 htimer
        intro hall d hdel
        have hdc : d = c := by
          rcases deletes_deleteChannelLocked hleaf hdel with hdc | ⟨hfault, hw, hd⟩
          · exact hdc
          · exact hall hidle htimer helig hfault hw d hd
        rw [hdc]
        refine ⟨helig, htimer, fun n hn => ?_⟩
        -- no thread is under way that could have made the timer old
        refine (h.fresh _ n _ hn htimer).resolve_right fun ⟨t, ht, hc⟩ => ?_
        rw [hidle t ht] at hc
        cases hc
      · rw [cleanupCallback_spared htimer helig]
        refine iff_of_true (fun _ hdel => absurd hdel (not_deletes_of_same rfl rfl)) ?_
        exact fun _ _ helig' => absurd helig' helig
    · rw [cleanupCallback_stale htimer]
      refine iff_of_true (fun _ hdel => absurd hdel (not_deletes_of_same rfl rfl)) ?_
      exact fun _ htimer' => absurd htimer' htimer
  · rw [if_neg hidle]
    refine iff_of_true (fun _ hdel => absurd hdel (not_deletes_of_same rfl rfl)) ?_
    exact fun hidle' => absurd hidle' hidle

lemma Inv.cleansUp_iff (h : s.Inv) (i : RaceStep) : s.CleansUp i ↔ s.NoHiddenRow i := by
  cases i with
  | callback sql channelID generation => exact h.cleansUp_callback_iff sql channelID generation
  | call call | advance thread sql | update sql channelID upd
  | delete sql channelID | connect c => exact Iff.rfl

/-- **Callbacks delete only what they may**, in every interleaving with every other operation,
exactly if no callback's `DELETE` takes effect on a channel below which the table has another
row. -/
theorem cleanup_deletes_iff (t : Table) (m : Manager) (steps : List RaceStep) :
    StepsOK step CleansUp (start (.new t m)) steps ↔
      StepsOK step NoHiddenRow (start (.new t m)) steps := by
  have hkeep : ∀ (s : Races) i, s.Inv → True → (s.step i).Inv := fun _ i h _ => Inv.step h i
  have hiff : ∀ (s : Races) i, s.Inv → True → (s.CleansUp i ↔ s.NoHiddenRow i) :=
    fun _ i h _ => Inv.cleansUp_iff h i
  exact stepsOK_iff hkeep hiff (inv_start t m) (StepsOK.of_mem fun _ _ => trivial)

/-- A temporary channel is created; below it a permanent one, whose `INSERT` is committed and
reports an error. -/
def hiddenChild : List RaceStep :=
  .call (.create { name := "hall" }) :: List.replicate 7 (.advance 0 {}) ++
    [.call (.create { name := "vault", parentID := 1, type := 2 }), .advance 1 {},
      .advance 1 { write := .lost }]

/-- The callback of the first channel takes the second along. -/
theorem callback_deletes_permanent_channel :
    ¬StepsOK step CleansUp (start (.new Table.new Manager.new))
      (hiddenChild ++ [.callback {} 1 1]) := by
  intro h
  have hlast : CleansUp (run step (start (.new Table.new Manager.new)) hiddenChild)
      (.callback {} 1 1) := ((stepsOK_append _ _ _).mp h).2.1
  have hgone : Deletes (run step (start (.new Table.new Manager.new)) hiddenChild).cm
      (run step (start (.new Table.new Manager.new)) (hiddenChild ++ [.callback {} 1 1])).cm 2 := by
    decide +kernel
  have htimer := (hlast 2 hgone).2.1
  revert htimer
  decide +kernel

end Races

end Voicx.Channels
