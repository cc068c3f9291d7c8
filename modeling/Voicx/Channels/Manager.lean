import Voicx.Channels.Table
import Voicx.Found.Tree

/-!
# The channel manager

Model of `ChannelManager` in `internal/channels/manager.go`, which keeps the `channels` table, the
in-memory channels of the state manager and the cleanup timers of temporary channels together. An
operation is a function of the manager and of how its database calls end.

* `Calls` — how the database calls of an operation end. A write goes through, fails, or is `lost`:
  it was committed and an error came back.
* `ChannelManager` — table, state and timers.
* `eligible`, `reconcileCleanupWatcherLocked` — a temporary, empty and childless channel has a
  timer; `eligible_iff` says the same without the walk over the tree.
* `createChannel`, `loadIntoState`, `updateChannel`, `setChannelType`, `deleteChannelLocked`,
  `moveClient`, `leaveClient`, `removeClient`, `cleanupCallback` — the operations;
  `ChannelOp`, `ChannelManager.step` — any of them.

A timer is known by its generation. The source compares pointers and generations; a pointer is as
new as its generation.

Source names without a file are from `internal/channels/manager.go`.
-/

namespace Voicx.Channels

open Found State Finmap

/-! ## The manager -/

/-- How a statement or a commit ends. -/
inductive Outcome
  | ok
  /-- an error, and nothing has changed -/
  | failed
  /-- an error, although the change was committed -/
  | lost
  deriving DecidableEq, Repr

/-- The change was made. -/
def Outcome.applied : Outcome → Bool
  | .ok | .lost => true
  | .failed => false

/-- How the calls of an operation end. -/
structure Calls where
  /-- the text of the first read or statement before the write that fails -/
  fault : Option String := none
  /-- the `INSERT`, the `DELETE`, or the commit -/
  write : Outcome := .ok
  /-- `RowsAffected` of a `DELETE` that went through can be read -/
  rowCount : Bool := true
  /-- the reads that find out how a write ended, or repair the state after it, succeed -/
  confirm : Bool := true
  /-- the read of a channel that only the state has below a channel to be deleted succeeds -/
  check : Int → Bool := fun _ => true
  /-- the hash of the password, `none` if it could not be computed -/
  passwordHash : Option String := some ""
  /-- the order in which a walk over the state's maps comes to the channels -/
  order : Visits Int := default

/-- Every call of the database succeeds. -/
structure Calls.Succeed (sql : Calls) : Prop where
  fault : sql.fault = none
  write : sql.write = .ok
  rowCount : sql.rowCount = true
  confirm : sql.confirm = true
  check : ∀ id, sql.check id = true

/-- Source: `ChannelManager` -/
structure ChannelManager where
  /-- the `channels` table -/
  table : Table
  /-- the state manager -/
  state : Manager
  /-- channelID → generation of the installed cleanup timer -/
  timers : FMap Int Nat
  nextCleanupGeneration : Nat

/-- A manager without timers.
Source: `New` -/
def ChannelManager.new (table : Table) (state : Manager) : ChannelManager where
  table := table
  state := state
  timers := ∅
  nextCleanupGeneration := 0

/-- Source: `DeleteResult` -/
structure DeleteResult where
  rootID : Int
  channelIDs : List Int
  subscriberIDs : List String
  members : List Manager.RemovedChannelMember

namespace ChannelManager

/-! ### Timers -/

section tree

variable (m : Manager) (channelID : Int)

/-- Source: `stateChannelSubtreeIDs` -/
def stateChannelSubtreeIDs : Finset Int := subtree (stateParents m) channelID

/-- Source: `internal/state/manager.go`, `ChannelMembers` -/
def channelMembers : Finset String :=
  (m.membership.elems channelID).filter (· ∈ m.clients)

/-- The channel is temporary, has no members and no children. -/
def eligible : Bool :=
  match m.channels.lookup channelID with
  | none => false
  | some ch =>
    ch.channelType == ChannelType.temporary.toInt && decide (channelMembers m channelID = ∅) &&
      decide ((stateChannelSubtreeIDs m channelID).card = 1)

/-- The type of a channel of the state. -/
def stateType : Option Int := (m.channels.lookup channelID).map Channel.channelType

/-- Another channel of the state has this one as its parent. -/
def HasChild : Prop := ∃ k, (stateParents m).lookup k = some channelID ∧ k ≠ channelID

end tree

variable {m : Manager} {channelID : Int} {sql : Calls}

/-- The three reads of the check. -/
lemma eligible_iff_card :
    eligible m channelID = true ↔ stateType m channelID = some ChannelType.temporary.toInt ∧
      channelMembers m channelID = ∅ ∧ (stateChannelSubtreeIDs m channelID).card = 1 := by
  unfold eligible stateType
  cases m.channels.lookup channelID <;> simp [and_assoc]

/-- What the check of the cleanup says about the tree: no other channel points to this one. -/
theorem eligible_iff :
    eligible m channelID = true ↔ stateType m channelID = some ChannelType.temporary.toInt ∧
      channelMembers m channelID = ∅ ∧ ¬HasChild m channelID := by
  rw [eligible_iff_card]
  refine and_congr_right fun htype => and_congr_right fun _ => ?_
  obtain ⟨ch, hch, -⟩ := Option.map_eq_some_iff.mp htype
  have hmem : channelID ∈ stateParents m :=
    mem_stateParents.mpr (mem_of_lookup_eq_some hch)
  unfold stateChannelSubtreeIDs HasChild
  rw [card_subtree_eq_one_iff hmem]
  push Not
  rfl

variable (cm : ChannelManager)

/-- The rows of the table. -/
abbrev rows : FMap Int Row := cm.table.rows

/-- Source: `startCleanupWatcherLocked` -/
def startCleanupWatcherLocked (channelID : Int) : ChannelManager :=
  { cm with
    timers := cm.timers.insert channelID (cm.nextCleanupGeneration + 1)
    nextCleanupGeneration := cm.nextCleanupGeneration + 1 }

/-- Source: `cancelCleanupLocked` -/
def cancelCleanupLocked (channelID : Int) : ChannelManager :=
  { cm with timers := cm.timers.erase channelID }

/-- Source: `reconcileCleanupWatcherLocked` -/
def reconcileCleanupWatcherLocked (channelID : Int) : ChannelManager :=
  if eligible cm.state channelID then cm.startCleanupWatcherLocked channelID
  else cm.cancelCleanupLocked channelID

/-- Reconcile one channel after the other. -/
def reconcileAll (channelIDs : List Int) : ChannelManager :=
  channelIDs.foldl reconcileCleanupWatcherLocked cm

/-- Cancel one timer after the other. -/
def cancelAll (channelIDs : List Int) : ChannelManager := channelIDs.foldl cancelCleanupLocked cm

section frames

variable (channelID : Int) (channelIDs : List Int)

@[simp] lemma reconcile_table :
    (cm.reconcileCleanupWatcherLocked channelID).table = cm.table := by
  unfold reconcileCleanupWatcherLocked
  split <;> rfl

@[simp] lemma reconcile_state :
    (cm.reconcileCleanupWatcherLocked channelID).state = cm.state := by
  unfold reconcileCleanupWatcherLocked
  split <;> rfl

@[simp] lemma reconcileAll_table : (cm.reconcileAll channelIDs).table = cm.table :=
  foldl_frame reconcile_table cm channelIDs

@[simp] lemma cancelAll_table : (cm.cancelAll channelIDs).table = cm.table :=
  foldl_frame (g := table) (fun _ _ => by rfl) cm channelIDs

@[simp] lemma cancelAll_state : (cm.cancelAll channelIDs).state = cm.state :=
  foldl_frame (g := state) (fun _ _ => by rfl) cm channelIDs

@[simp] lemma reconcileAll_state : (cm.reconcileAll channelIDs).state = cm.state :=
  foldl_frame reconcile_state cm channelIDs

end frames

/-- The positive ids of a set, in ascending order.
Source: `mergeChannelIDs` -/
def mergeChannelIDs (channelIDs : Finset Int) : List Int :=
  ascending (channelIDs.filter fun id => 0 < id)

@[simp] lemma mem_mergeChannelIDs {channelIDs : Finset Int} {id : Int} :
    id ∈ mergeChannelIDs channelIDs ↔ id ∈ channelIDs ∧ 0 < id := by
  rw [mergeChannelIDs, mem_ascending, Finset.mem_filter]

/-- The manager with another state. -/
def withState (m : Manager) : ChannelManager := { cm with state := m }

/-- The manager with another table. -/
def withTable (t : Table) : ChannelManager := { cm with table := t }

/-! ### Creating and loading -/

section creating

variable (sql : Calls) (spec : ChannelSpec)

/-- The hash of the password of a spec, `none` if it could not be computed. -/
def hashOf : Option String :=
  if spec.password = "" then some "" else sql.passwordHash

/-- What comes before the `INSERT`: the type of the channel and the hash of its password. -/
def checkCreate : Except UpdateError (ChannelType × String) :=
  match spec.validate with
  | .error e => .error (.invalidSpec e)
  | .ok type =>
    match sql.fault with
    | some text => .error (.failed text)
    | none =>
      if spec.parentID ≠ 0 ∧ spec.parentID ∉ cm.rows then .error .channelNotFound
      else match hashOf sql spec with
        | none => .error (.failed "hashing channel password")
        | some passwordHash => .ok (type, passwordHash)

variable (type : ChannelType) (passwordHash : String)

/-- The `INSERT` went through: the channel is registered, and both ends of the new edge are
reconciled. -/
def afterInsert : ChannelManager :=
  let id := cm.table.nextID
  let cm := cm.withTable (cm.table.insert (spec.row type passwordHash))
  let cm := cm.withState (cm.state.addChannel (spec.channel type passwordHash id))
  let cm := cm.reconcileCleanupWatcherLocked id
  if spec.parentID ≠ 0 then cm.reconcileCleanupWatcherLocked spec.parentID else cm

lemma afterInsert_table :
    (cm.afterInsert spec type passwordHash).table =
      cm.table.insert (spec.row type passwordHash) := by
  unfold afterInsert
  split_ifs <;> simp [withState, withTable]

lemma afterInsert_state :
    (cm.afterInsert spec type passwordHash).state =
      cm.state.addChannel (spec.channel type passwordHash cm.table.nextID) := by
  unfold afterInsert
  split_ifs <;> simp [withState, withTable]

/-- The `INSERT` of a new channel and what follows it. There is no look at the table when it reports
an error. -/
def insertChannel : ChannelManager × Except UpdateError Int :=
  match sql.write with
  | .failed => (cm, .error (.failed "inserting channel"))
  | .lost => (cm.withTable (cm.table.insert (spec.row type passwordHash)),
      .error (.failed "inserting channel"))
  | .ok => (cm.afterInsert spec type passwordHash, .ok cm.table.nextID)

/-- Source: `CreateChannel`
Fidelity: without `assignChannelAdmin`, which writes to the group tables -/
def createChannel : ChannelManager × Except UpdateError Int :=
  match cm.checkCreate sql spec with
  | .error e => (cm, .error e)
  | .ok p => cm.insertChannel sql spec p.1 p.2

end creating

/-- Register every row in the state.
Source: `LoadIntoState` -/
def addRows (channelIDs : List Int) : ChannelManager :=
  channelIDs.foldl (fun cm id =>
    match cm.rows.lookup id with
    | none => cm
    | some r => cm.withState (cm.state.addChannel (r.channel id))) cm

@[simp] lemma addRows_table (channelIDs : List Int) :
    (cm.addRows channelIDs).table = cm.table :=
  foldl_frame (g := table) (fun _ _ => by split <;> rfl) cm channelIDs

lemma stateRecord_addRows (channelIDs : List Int) (id : Int) :
    stateRecord (cm.addRows channelIDs).state id =
      if id ∈ channelIDs ∧ id ∈ cm.rows then cm.table.record id else stateRecord cm.state id := by
  induction channelIDs generalizing cm with
  | nil => simp [addRows]
  | cons c rest ih =>
    unfold addRows at ih ⊢
    rw [List.foldl_cons]
    cases hr : cm.rows.lookup c with
    | none =>
      have hne : id ∈ cm.rows → id ≠ c := by
        rintro hmem rfl
        exact lookup_eq_none.mp hr hmem
      rw [ih]
      by_cases hmem : id ∈ cm.rows <;> simp [hmem, hne]
    | some r =>
      rw [ih]
      by_cases hid : id = c
      · subst hid
        have hmem : id ∈ cm.rows := mem_of_lookup_eq_some hr
        simp [withState, hmem, stateRecord_addChannel, Row.channel, persisted, Table.record, hr]
      · simp [withState, hid, stateRecord_addChannel, Row.channel]

/-- Read the table into the state, then give the temporary channels their timers.
Source: `LoadIntoState`
Fidelity: the rows are read at once, an error while they stream in is not modelled -/
def loadIntoState (sql : Calls) : ChannelManager × Except UpdateError Nat :=
  match sql.fault with
  | some text => (cm, .error (.failed text))
  | none =>
    let temporary := cm.rows.filter fun _ r => r.type == .temporary
    ((cm.addRows (ascending cm.rows.keys)).reconcileAll (ascending temporary.keys),
      .ok cm.rows.len)

/-! ### Editing -/

/-- Register the row of a channel in the state, over the record that is there.
Source: `mirrorPersistedChannel` -/
def mirrorPersistedChannel (channelID : Int) (r : Row) : ChannelManager :=
  let patched := cm.state.updateChannel channelID r.mirror
  cm.withState (if patched.2 then patched.1 else cm.state.addChannel (r.channel channelID))

/-- Patch the state after a commit, or register the row if the state does not know the channel; the
flag says that it was registered.
Source: `mirrorChannelUpdate` -/
def mirrorChannelUpdate (confirm : Bool) (channelID : Int) (u : State.ChannelUpdate) :
    Option (ChannelManager × Bool) :=
  let patched := cm.state.updateChannel channelID u
  if patched.2 then some (cm.withState patched.1, false)
  else if !confirm then none
  else (cm.rows.lookup channelID).map fun r =>
    (cm.withState (cm.state.addChannel (r.channel channelID)), true)

/-- Look up what the table says after a commit that reported an error, and take it over.
Source: `reconcilePersistedChannel` -/
def reconcilePersistedChannel (confirm : Bool) (channelID : Int) : Option (ChannelManager × Row) :=
  if !confirm then none
  else (cm.rows.lookup channelID).map fun r => (cm.mirrorPersistedChannel channelID r, r)

variable {cm} in
/-- The state knows the channel: it is patched. -/
lemma mirrorChannelUpdate_of_mem (h : channelID ∈ cm.state.channels) (confirm : Bool)
    (u : State.ChannelUpdate) :
    cm.mirrorChannelUpdate confirm channelID u =
      some (cm.withState (cm.state.updateChannel channelID u).1, false) := by
  exact if_pos (updateChannel_snd.mpr h)

variable {cm} in
/-- The state does not know the channel: its row is read and registered. -/
lemma mirrorChannelUpdate_of_notMem (h : channelID ∉ cm.state.channels) (confirm : Bool)
    (u : State.ChannelUpdate) :
    cm.mirrorChannelUpdate confirm channelID u =
      (if confirm then cm.rows.lookup channelID else none).map fun r =>
        (cm.withState (cm.state.addChannel (r.channel channelID)), true) := by
  unfold mirrorChannelUpdate
  rw [if_neg fun hlive => h (updateChannel_snd.mp hlive)]
  cases confirm <;> rfl

lemma reconcilePersistedChannel_eq (confirm : Bool) (channelID : Int) :
    cm.reconcilePersistedChannel confirm channelID =
      (if confirm then cm.rows.lookup channelID else none).map fun r =>
        (cm.mirrorPersistedChannel channelID r, r) := by
  cases confirm <;> rfl

/-- The parent of a channel in the state, 0 for an unknown one. -/
def stateParentID (channelID : Int) : Int :=
  ((cm.state.channels.lookup channelID).map Channel.parentID).getD 0

/-- The parents whose timers an edit can change, after a commit that went through. -/
def reconcileParents (oldParentID : Int) : Option Int → ChannelManager
  | none => cm
  | some newParentID =>
    let cm := if oldParentID ≠ 0 ∧ oldParentID ≠ newParentID then
        cm.reconcileCleanupWatcherLocked oldParentID
      else cm
    if newParentID ≠ 0 then cm.reconcileCleanupWatcherLocked newParentID else cm

@[simp] lemma reconcileParents_table (oldParentID : Int) (newParentID : Option Int) :
    (cm.reconcileParents oldParentID newParentID).table = cm.table := by
  cases newParentID with
  | none => rfl
  | some p =>
    unfold reconcileParents
    dsimp only
    split_ifs <;> simp

@[simp] lemma reconcileParents_state (oldParentID : Int) (newParentID : Option Int) :
    (cm.reconcileParents oldParentID newParentID).state = cm.state := by
  cases newParentID with
  | none => rfl
  | some p =>
    unfold reconcileParents
    dsimp only
    split_ifs <;> simp

/-- A transaction on one row. -/
def writeRow (write : Outcome) (channelID : Int) (f : Row → Row) : ChannelManager :=
  if write.applied then cm.withTable (cm.table.modify channelID f) else cm

@[simp] lemma writeRow_state (write : Outcome) (channelID : Int) (f : Row → Row) :
    (cm.writeRow write channelID f).state = cm.state := by
  unfold writeRow
  split <;> rfl

lemma lookup_writeRow (write : Outcome) (channelID : Int) (f : Row → Row) (id : Int) :
    (cm.writeRow write channelID f).rows.lookup id =
      if id = channelID ∧ write.applied = true then (cm.rows.lookup channelID).map f
      else cm.rows.lookup id := by
  unfold writeRow
  by_cases hw : write.applied = true
  · simp only [hw, and_true]
    exact Table.lookup_modify channelID f id
  · rw [if_neg hw, if_neg fun h => hw h.2]

section written

variable {cm} (f : Row → Row) (u : State.ChannelUpdate)

lemma mirrorChannelUpdate_writeRow_of_mem (h : channelID ∈ cm.state.channels) (confirm : Bool) :
    (cm.writeRow .ok channelID f).mirrorChannelUpdate confirm channelID u =
      some ((cm.withTable (cm.table.modify channelID f)).withState
        (cm.state.updateChannel channelID u).1, false) := by
  have hlive : channelID ∈ (cm.writeRow .ok channelID f).state.channels := h
  exact mirrorChannelUpdate_of_mem hlive confirm u

lemma mirrorChannelUpdate_writeRow_of_notMem (h : channelID ∉ cm.state.channels) {r : Row}
    (hr : cm.rows.lookup channelID = some r) :
    (cm.writeRow .ok channelID f).mirrorChannelUpdate true channelID u =
      some ((cm.withTable (cm.table.modify channelID f)).withState
        (cm.state.addChannel ((f r).channel channelID)), true) := by
  have hdead : channelID ∉ (cm.writeRow .ok channelID f).state.channels := h
  rw [mirrorChannelUpdate_of_notMem hdead, if_pos rfl, lookup_writeRow, if_pos ⟨rfl, rfl⟩, hr]
  rfl

end written

/-- The commit of an edit went through. -/
def afterUpdateCommit (sql : Calls) (oldParentID channelID : Int) (upd : ChannelUpdate) :
    ChannelManager × Except UpdateError Unit :=
  match cm.mirrorChannelUpdate sql.confirm channelID upd.patch with
  | none => (cm, .error (.failed "channel update committed but state reconciliation failed"))
  | some r =>
    let cm := if r.2 then r.1.reconcileCleanupWatcherLocked channelID else r.1
    (cm.reconcileParents oldParentID upd.parentID, .ok ())

/-- The commit of an edit reported an error. -/
def afterUpdateError (sql : Calls) (oldParentID channelID : Int) (upd : ChannelUpdate) :
    ChannelManager × Except UpdateError Unit :=
  match cm.reconcilePersistedChannel sql.confirm channelID with
  | none => (cm, .error (.failed "reconciling ambiguous channel update commit"))
  | some r =>
    let cm := r.1.reconcileCleanupWatcherLocked channelID
    let cm := match upd.parentID with
      | none => cm
      | some newParentID =>
        cm.reconcileAll (mergeChannelIDs {oldParentID, newParentID, r.2.parentID})
    (cm, if r.2.matchesUpdate upd then .ok () else .error (.failed "committing channel update"))

/-- The transaction of an edit and what follows it. -/
def commitUpdate (sql : Calls) (channelID : Int) (upd : ChannelUpdate) :
    ChannelManager × Except UpdateError Unit :=
  let oldParentID := cm.stateParentID channelID
  let written := cm.writeRow sql.write channelID (Row.set upd)
  if sql.write = .ok then written.afterUpdateCommit sql oldParentID channelID upd
  else written.afterUpdateError sql oldParentID channelID upd

section commit

variable {cm} {sql : Calls} {channelID : Int} {upd : ChannelUpdate}

/-- An edit of a channel the state knows. -/
lemma commitUpdate_of_mem (hw : sql.write = .ok) (h : channelID ∈ cm.state.channels) :
    (cm.commitUpdate sql channelID upd).1 =
      ((cm.withTable (cm.table.modify channelID (Row.set upd))).withState
        (cm.state.updateChannel channelID upd.patch).1).reconcileParents
          (cm.stateParentID channelID) upd.parentID := by
  unfold commitUpdate afterUpdateCommit
  dsimp only
  rw [hw, mirrorChannelUpdate_writeRow_of_mem _ _ h]
  rfl

end commit

/-- What comes before the commit of an edit. -/
def checkUpdate (sql : Calls) (channelID : Int) (upd : ChannelUpdate) : Except UpdateError Unit :=
  match upd.invalid with
  | some detail => .error (.invalidSpec detail)
  | none =>
    match sql.fault with
    | some text => .error (.failed text)
    | none =>
      match validateParent cm.table.parents channelID upd.parentID with
      | .error e => .error e
      | .ok _ => if channelID ∉ cm.rows then .error .channelNotFound else .ok ()

variable {cm} in
/-- What an edit has passed when its commit is reached. -/
lemma checkUpdate_ok {upd : ChannelUpdate} {u : Unit}
    (h : cm.checkUpdate sql channelID upd = .ok u) :
    upd.invalid = none ∧ sql.fault = none ∧
      validateParent cm.table.parents channelID upd.parentID = .ok () ∧ channelID ∈ cm.rows := by
  unfold checkUpdate at h
  cases hinvalid : upd.invalid with
  | some detail => simp [hinvalid] at h
  | none =>
    cases hfault : sql.fault with
    | some text => simp [hinvalid, hfault] at h
    | none =>
      cases hparent : validateParent cm.table.parents channelID upd.parentID with
      | error e => simp [hinvalid, hfault, hparent] at h
      | ok v =>
        simp only [hinvalid, hfault, hparent] at h
        split_ifs at h with hmem
        exact ⟨rfl, rfl, rfl, hmem⟩

/-- An edit of no field is valid, and is not carried out.
Source: `UpdateChannel` -/
def updateChannel (sql : Calls) (channelID : Int) (upd : ChannelUpdate) :
    ChannelManager × Except UpdateError Unit :=
  if upd = {} then (cm, .ok ())
  else match cm.checkUpdate sql channelID upd with
    | .error e => (cm, .error e)
    | .ok _ => cm.commitUpdate sql channelID upd

/-- The commit of a type change went through. A state that cannot be repaired costs the timer. -/
def afterTypeCommit (sql : Calls) (channelID : Int) (type : ChannelType) :
    ChannelManager × Except UpdateError Unit :=
  match cm.mirrorChannelUpdate sql.confirm channelID { channelType := some type.toInt } with
  | none => (cm.cancelCleanupLocked channelID,
      .error (.failed "channel type committed but state reconciliation failed"))
  | some r => (r.1.reconcileCleanupWatcherLocked channelID, .ok ())

/-- The commit of a type change reported an error. -/
def afterTypeError (sql : Calls) (channelID : Int) (type : ChannelType) :
    ChannelManager × Except UpdateError Unit :=
  match cm.reconcilePersistedChannel sql.confirm channelID with
  | none => (cm.cancelCleanupLocked channelID,
      .error (.failed "reconciling ambiguous channel type commit"))
  | some r => (r.1.reconcileCleanupWatcherLocked channelID,
      if r.2.type = type then .ok () else .error (.failed "committing channel type update"))

/-- What comes before the commit of a type change. -/
def checkType (sql : Calls) (channelID newType : Int) : Except UpdateError ChannelType :=
  match ChannelType.parse newType with
  | none => .error (.invalidSpec ("invalid channel type " ++ toString newType))
  | some type =>
    match sql.fault with
    | some text => .error (.failed text)
    | none => if channelID ∉ cm.rows then .error .channelNotFound else .ok type

variable {cm} in
/-- What a type change has passed when its commit is reached. -/
lemma checkType_ok {newType : Int} {type : ChannelType}
    (h : cm.checkType sql channelID newType = .ok type) :
    ChannelType.parse newType = some type ∧ sql.fault = none ∧ channelID ∈ cm.rows := by
  unfold checkType at h
  cases hparse : ChannelType.parse newType with
  | none => simp [hparse] at h
  | some type' =>
    cases hfault : sql.fault with
    | some text => simp [hparse, hfault] at h
    | none =>
      simp only [hparse, hfault] at h
      split_ifs at h with hmem
      cases h
      exact ⟨rfl, rfl, hmem⟩

/-- The transaction of a type change and what follows it. -/
def commitType (sql : Calls) (channelID : Int) (type : ChannelType) :
    ChannelManager × Except UpdateError Unit :=
  let written := cm.writeRow sql.write channelID (Row.setType type)
  if sql.write = .ok then written.afterTypeCommit sql channelID type
  else written.afterTypeError sql channelID type

section commit

variable {cm} {sql : Calls} {channelID : Int} {type : ChannelType}

/-- A type change of a channel the state knows. -/
lemma commitType_of_mem (hw : sql.write = .ok) (h : channelID ∈ cm.state.channels) :
    (cm.commitType sql channelID type).1 =
      ((cm.withTable (cm.table.modify channelID (Row.setType type))).withState
        (cm.state.updateChannel channelID
          { channelType := some type.toInt }).1).reconcileCleanupWatcherLocked channelID := by
  unfold commitType afterTypeCommit
  dsimp only
  rw [hw, mirrorChannelUpdate_writeRow_of_mem _ _ h]
  rfl

end commit

/-- Source: `SetChannelType` -/
def setChannelType (sql : Calls) (channelID newType : Int) :
    ChannelManager × Except UpdateError Unit :=
  match cm.checkType sql channelID newType with
  | .error e => (cm, .error e)
  | .ok type => cm.commitType sql channelID type

/-! ### Deleting -/

/-- The ids of a channel and of everything below it, in the table; nothing if there is no such row.
Source: `loadChannelSubtree` -/
def loadChannelSubtree (channelID : Int) : Finset Int :=
  if channelID ∈ cm.rows then subtree cm.table.parents channelID else ∅

variable {cm} in
lemma mem_loadChannelSubtree {channelID id : Int} (h : id ∈ cm.loadChannelSubtree channelID) :
    id ∈ cm.rows := by
  unfold loadChannelSubtree at h
  split_ifs at h
  · exact Table.mem_parents.mp (mem_subtree.mp h).1
  · simp at h

variable {cm} in
lemma self_mem_loadChannelSubtree {channelID : Int} :
    channelID ∈ cm.loadChannelSubtree channelID ↔ channelID ∈ cm.rows := by
  refine ⟨mem_loadChannelSubtree, fun h => ?_⟩
  unfold loadChannelSubtree
  rw [if_pos h]
  exact root_mem_subtree (Table.mem_parents.mpr h)

variable {cm} in
lemma loadChannelSubtree_eq_empty {channelID : Int} :
    cm.loadChannelSubtree channelID = ∅ ↔ channelID ∉ cm.rows := by
  constructor
  · intro h hmem
    have hself := self_mem_loadChannelSubtree.mpr hmem
    simp [h] at hself
  · intro h
    exact if_neg h

/-- One round over the channels that only the state has below the channel to be deleted: a row that
exists is taken over, and its channel and both parents are noted for their timers. -/
def checkStateOnly (acc : ChannelManager × Finset Int) (channelID : Int) :
    ChannelManager × Finset Int :=
  match acc.1.rows.lookup channelID with
  | none => acc
  | some r =>
    (acc.1.mirrorPersistedChannel channelID r,
      acc.2 ∪ {channelID, r.parentID, acc.1.stateParentID channelID})

@[simp]
lemma foldl_checkStateOnly_table (stateOnly : List Int) (acc : ChannelManager × Finset Int) :
    (stateOnly.foldl checkStateOnly acc).1.table = acc.1.table := by
  refine foldl_frame (g := fun acc => acc.1.table) (fun acc id => ?_) acc stateOnly
  unfold checkStateOnly
  split <;> rfl

/-- Source: `reconcileStateOnlyDescendants` -/
def reconcileStateOnlyDescendants (sql : Calls) (stateOnly : List Int) :
    ChannelManager × Except UpdateError (List Int) :=
  match stateOnly.find? fun id => !sql.check id with
  | some id =>
    (((stateOnly.takeWhile fun id => sql.check id).foldl checkStateOnly (cm, ∅)).1,
      .error (.failed ("checking state-only channel " ++ toString id ++
        " before subtree deletion")))
  | none =>
    let checked := stateOnly.foldl checkStateOnly (cm, ∅)
    (checked.1.reconcileAll (mergeChannelIDs checked.2),
      .ok (stateOnly.filter fun id => id ∉ cm.rows))

lemma reconcileStateOnlyDescendants_table (sql : Calls) (stateOnly : List Int) :
    (cm.reconcileStateOnlyDescendants sql stateOnly).1.table = cm.table := by
  unfold reconcileStateOnlyDescendants
  split <;> simp

@[simp] lemma reconcileStateOnlyDescendants_nil (sql : Calls) :
    cm.reconcileStateOnlyDescendants sql [] = (cm, .ok []) := rfl

/-- Drop channels from the timers and from the state, then look after the parent's timer. -/
def removeChannels (channelIDs : List Int) (parentID : Int) :
    ChannelManager × Manager.RemoveChannelsResult :=
  let cm := cm.cancelAll channelIDs
  let removed := cm.state.removeChannels channelIDs
  let cm := cm.withState removed.1
  (if parentID ≠ 0 then cm.reconcileCleanupWatcherLocked parentID else cm, removed.2)

@[simp] lemma removeChannels_table (channelIDs : List Int) (parentID : Int) :
    (cm.removeChannels channelIDs parentID).1.table = cm.table := by
  unfold removeChannels
  split_ifs <;> simp [withState]

@[simp] lemma removeChannels_state (channelIDs : List Int) (parentID : Int) :
    (cm.removeChannels channelIDs parentID).1.state = (cm.state.removeChannels channelIDs).1 := by
  unfold removeChannels
  split_ifs <;> simp [withState]

/-- The `DELETE` and what follows it. An error is looked into; a row count that cannot be read is
not. -/
def deleteRows (sql : Calls) (channelID : Int) (channelIDs : List Int) (parentID : Int) :
    ChannelManager × Except UpdateError DeleteResult :=
  let ids := cm.loadChannelSubtree channelID
  let deleted := if sql.write.applied then cm.withTable (cm.table.delete ids) else cm
  if sql.write ≠ .ok ∧ !sql.confirm then
    (deleted, .error (.failed "confirming ambiguous channel deletion"))
  else if sql.write ≠ .ok ∧ deleted.loadChannelSubtree channelID ≠ ∅ then
    (deleted, .error (.failed "deleting channel"))
  else if sql.write = .ok ∧ !sql.rowCount then
    (deleted, .error (.failed "reading deleted channel row count"))
  else
    let removed := deleted.removeChannels channelIDs parentID
    (removed.1, .ok ⟨channelID, channelIDs, removed.2.subscriberIDs, removed.2.members⟩)

lemma deleteRows_table (sql : Calls) (channelID : Int) (channelIDs : List Int) (parentID : Int) :
    (cm.deleteRows sql channelID channelIDs parentID).1.table =
      if sql.write.applied then cm.table.delete (cm.loadChannelSubtree channelID)
      else cm.table := by
  unfold deleteRows
  dsimp only
  split_ifs <;> simp [withTable]

/-- The deletion after the channels that only the state has were looked up; `missing` are those
without a row. -/
def deleteChecked (sql : Calls) (channelID parentID : Int) :
    Except UpdateError (List Int) → ChannelManager × Except UpdateError DeleteResult
  | .error e => (cm, .error e)
  | .ok missing =>
    let databaseIDs := cm.loadChannelSubtree channelID
    if databaseIDs = ∅ ∧ missing = [] then (cm, .error .channelNotFound)
    else cm.deleteRows sql channelID (mergeChannelIDs (databaseIDs ∪ missing.toFinset)) parentID

/-- The parent of the channel to be deleted, from its row if it has one. -/
def rootParentID (channelID : Int) : Int :=
  match cm.rows.lookup channelID with
  | some r => r.parentID
  | none => cm.stateParentID channelID

/-- Source: `deleteChannelLocked`, `DeleteChannelSubtree` -/
def deleteChannelLocked (sql : Calls) (channelID : Int) :
    ChannelManager × Except UpdateError DeleteResult :=
  let databaseIDs := cm.loadChannelSubtree channelID
  let stateIDs := stateChannelSubtreeIDs cm.state channelID
  match sql.fault with
  | some text => (cm, .error (.failed text))
  | none =>
    if databaseIDs = ∅ ∧ stateIDs = ∅ then (cm, .error .channelNotFound)
    else
      let checked := cm.reconcileStateOnlyDescendants sql (sql.order.list (stateIDs \ databaseIDs))
      checked.1.deleteChecked sql channelID (cm.rootParentID channelID) checked.2

variable {cm} in
/-- A deletion of a channel with a row, where the state has nothing below it that the table has
not. -/
lemma deleteChannelLocked_of_subset (hfault : sql.fault = none) (hmem : channelID ∈ cm.rows)
    (hsub : stateChannelSubtreeIDs cm.state channelID ⊆ cm.loadChannelSubtree channelID) :
    cm.deleteChannelLocked sql channelID =
      cm.deleteRows sql channelID (mergeChannelIDs (cm.loadChannelSubtree channelID))
        (cm.rootParentID channelID) := by
  have hnil : sql.order.list (stateChannelSubtreeIDs cm.state channelID \
      cm.loadChannelSubtree channelID) = [] := by
    rw [Finset.sdiff_eq_empty_iff_subset.mpr hsub]
    exact (sql.order.perm ∅).eq_nil
  have hne : cm.loadChannelSubtree channelID ≠ ∅ :=
    fun hempty => loadChannelSubtree_eq_empty.mp hempty hmem
  unfold deleteChannelLocked
  dsimp only
  rw [hfault, hnil]
  rw [if_neg fun hempty => hne hempty.1, reconcileStateOnlyDescendants_nil]
  unfold deleteChecked
  dsimp only
  rw [if_neg fun hempty => hne hempty.1, List.toFinset_nil, Finset.union_empty]

/-! ### Clients -/

/-- Source: `MoveClient`, `MoveClientWithLifecycle` -/
def moveClient (clientID : String) (targetChannelID : Int) :
    ChannelManager × Except StateError Int :=
  match cm.state.chanOf clientID with
  | none => (cm, .error .clientNotFound)
  | some oldChannelID =>
    match cm.state.moveClient clientID targetChannelID with
    | .error e => (cm, .error e)
    | .ok state =>
      let cm := (cm.withState state).cancelCleanupLocked targetChannelID
      (if oldChannelID ≠ 0 ∧ oldChannelID ≠ targetChannelID then
          cm.reconcileCleanupWatcherLocked oldChannelID
        else cm, .ok oldChannelID)

/-- Source: `LeaveClient` -/
def leaveClient (clientID : String) : ChannelManager × Except StateError Int :=
  match cm.state.chanOf clientID with
  | none => (cm, .error .clientNotFound)
  | some oldChannelID =>
    match cm.state.leaveChannel clientID with
    | .error e => (cm, .error e)
    | .ok state =>
      ((cm.withState state).reconcileCleanupWatcherLocked oldChannelID, .ok oldChannelID)

/-- Source: `RemoveClient` -/
def removeClient (clientID : String) : ChannelManager × Except StateError Client :=
  let removed := cm.state.removeClient clientID
  match removed.2 with
  | none => (cm, .error .clientNotFound)
  | some c =>
    let cm := cm.withState removed.1
    (if c.channelID ≠ 0 then cm.reconcileCleanupWatcherLocked c.channelID else cm, .ok c)

section frames

variable (clientID : String) (target : Int)

/-- A move changes no channel. -/
lemma moveClient_frame : (cm.moveClient clientID target).1.table = cm.table ∧
    ∀ id, stateRecord (cm.moveClient clientID target).1.state id = stateRecord cm.state id := by
  unfold moveClient
  cases cm.state.chanOf clientID with
  | none => exact ⟨rfl, fun _ => rfl⟩
  | some old =>
    cases hmove : cm.state.moveClient clientID target with
    | error e => exact ⟨rfl, fun _ => rfl⟩
    | ok m =>
      have hrecord := stateRecord_moveClient hmove
      dsimp only
      split_ifs
      · refine ⟨by simp [withState, cancelCleanupLocked], fun id => ?_⟩
        simpa [withState, cancelCleanupLocked] using hrecord id
      · exact ⟨rfl, hrecord⟩

lemma leaveClient_frame : (cm.leaveClient clientID).1.table = cm.table ∧
    ∀ id, stateRecord (cm.leaveClient clientID).1.state id = stateRecord cm.state id := by
  unfold leaveClient
  cases cm.state.chanOf clientID with
  | none => exact ⟨rfl, fun _ => rfl⟩
  | some old =>
    cases hleave : cm.state.leaveChannel clientID with
    | error e => exact ⟨rfl, fun _ => rfl⟩
    | ok m =>
      refine ⟨by simp [withState], fun id => ?_⟩
      simpa [withState] using stateRecord_leaveChannel hleave id

lemma removeClient_frame : (cm.removeClient clientID).1.table = cm.table ∧
    ∀ id, stateRecord (cm.removeClient clientID).1.state id = stateRecord cm.state id := by
  have hrecord := stateRecord_removeClient cm.state clientID
  unfold removeClient
  dsimp only
  cases (cm.state.removeClient clientID).2 with
  | none => exact ⟨rfl, fun _ => rfl⟩
  | some c =>
    dsimp only
    split_ifs
    · refine ⟨by simp [withState], fun id => ?_⟩
      simpa [withState] using hrecord id
    · exact ⟨rfl, hrecord⟩

end frames

/-! ### Callbacks -/

/-- The deletion failed for another reason than that the channel is gone. -/
def retryDelete : Except UpdateError DeleteResult → Bool
  | .error .channelNotFound | .ok _ => false
  | .error _ => true

/-- The callback of the timer that was installed for a channel with a generation. It does nothing
unless that timer is still the installed one and the channel is still eligible; a deletion that
fails is tried again later.
Source: `cleanupCallback` -/
def cleanupCallback (sql : Calls) (channelID : Int) (generation : Nat) : ChannelManager :=
  if cm.timers.lookup channelID ≠ some generation then cm
  else
    let claimed := cm.cancelCleanupLocked channelID
    if !eligible claimed.state channelID then claimed
    else
      let r := claimed.deleteChannelLocked sql channelID
      if retryDelete r.2 then r.1.reconcileCleanupWatcherLocked channelID else r.1

section callback

variable {cm} {channelID : Int} {generation : Nat}

/-- A timer that was stopped or replaced. -/
lemma cleanupCallback_stale (h : cm.timers.lookup channelID ≠ some generation) (sql : Calls) :
    cm.cleanupCallback sql channelID generation = cm := if_pos h

/-- A channel that is no longer to be deleted. -/
lemma cleanupCallback_spared (h : cm.timers.lookup channelID = some generation)
    (helig : ¬eligible cm.state channelID = true) (sql : Calls) :
    cm.cleanupCallback sql channelID generation = cm.cancelCleanupLocked channelID := by
  unfold cleanupCallback
  rw [if_neg (not_not.mpr h)]
  exact if_pos (by simpa [cancelCleanupLocked] using helig)

/-- The deletion. -/
lemma cleanupCallback_deletes (h : cm.timers.lookup channelID = some generation)
    (helig : eligible cm.state channelID = true) (sql : Calls) :
    cm.cleanupCallback sql channelID generation =
      if retryDelete ((cm.cancelCleanupLocked channelID).deleteChannelLocked sql channelID).2 then
        ((cm.cancelCleanupLocked channelID).deleteChannelLocked sql
          channelID).1.reconcileCleanupWatcherLocked channelID
      else ((cm.cancelCleanupLocked channelID).deleteChannelLocked sql channelID).1 := by
  unfold cleanupCallback
  rw [if_neg (not_not.mpr h)]
  exact if_neg (by simpa [cancelCleanupLocked] using helig)

end callback

end ChannelManager

/-! ## The manager as a machine -/

/-- A call of an operation, or a timer that fires. -/
inductive ChannelOp
  | load (sql : Calls)
  | create (sql : Calls) (spec : ChannelSpec)
  | update (sql : Calls) (channelID : Int) (upd : ChannelUpdate)
  | setType (sql : Calls) (channelID newType : Int)
  | delete (sql : Calls) (channelID : Int)
  | move (clientID : String) (targetChannelID : Int)
  | leave (clientID : String)
  | remove (clientID : String)
  | callback (sql : Calls) (channelID : Int) (generation : Nat)

/-- The manager after a completed operation. -/
def ChannelManager.step (cm : ChannelManager) : ChannelOp → ChannelManager
  | .load sql => (cm.loadIntoState sql).1
  | .create sql spec => (cm.createChannel sql spec).1
  | .update sql channelID upd => (cm.updateChannel sql channelID upd).1
  | .setType sql channelID newType => (cm.setChannelType sql channelID newType).1
  | .delete sql channelID => (cm.deleteChannelLocked sql channelID).1
  | .move clientID targetChannelID => (cm.moveClient clientID targetChannelID).1
  | .leave clientID => (cm.leaveClient clientID).1
  | .remove clientID => (cm.removeClient clientID).1
  | .callback sql channelID generation => cm.cleanupCallback sql channelID generation

end Voicx.Channels
