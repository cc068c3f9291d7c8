import Voicx.Channels.Update

/-!
# The table of channels and the records of the state

The `channels` table as `internal/channels/manager.go` reads and writes it, and the part of an
in-memory record that the table stores.

* `ChannelType`, `Row`, `ChannelSpec` — the records of the table and of a request.
* `Table` — the table; every row has an id that the sequence has given out.
* `Table.insert`, `Table.modify`, `Table.delete` — the statements, with the equation for a lookup.
* `Table.record`, `stateRecord` — what the table and what the state say about a channel, in one
  form; how the methods of the state manager change the latter.

Source names without a file are from `internal/channels/types.go`.
-/

namespace Voicx.Channels

open Found State Finmap FMap Manager

/-! ## Records -/

/-- Source: `ChannelType` -/
inductive ChannelType
  | temporary
  | semiPermanent
  | permanent
  deriving DecidableEq, Repr

/-- The number of a type in the table and in the state. -/
def ChannelType.toInt : ChannelType → Int
  | .temporary => 0
  | .semiPermanent => 1
  | .permanent => 2

/-- Source: `ParseChannelType` -/
def ChannelType.parse (value : Int) : Option ChannelType :=
  if value = 0 then some .temporary
  else if value = 1 then some .semiPermanent
  else if value = 2 then some .permanent
  else none

/-- A row of `channels`. A `parentID` or `maxClients` of 0 stands for NULL.
Source: `internal/store/migrations/001_init.sql`, `channels`
Fidelity: the columns the manager reads, without `created_at`; a type outside of the three values
cannot be stored -/
structure Row where
  parentID : Int := 0
  name : String := ""
  topic : String := ""
  orderIndex : Int := 0
  type : ChannelType := .temporary
  maxClients : Int := 0
  passwordHash : String := ""
  neededJoinPower : Int := 0
  opusBitrate : Int := 0
  opusFEC : Bool := false
  opusDTX : Bool := false
  opusStereo : Bool := false
  slowModeSeconds : Int := 0
  description : String := ""
  inheritPermissions : Bool := false
  deriving DecidableEq, Repr

/-- A row as the in-memory record of a channel without members.
Source: `internal/channels/manager.go`, `loadChannelState` -/
def Row.channel (channelID : Int) (r : Row) : Channel where
  channelID := channelID
  parentID := r.parentID
  name := r.name
  topic := r.topic
  orderIndex := r.orderIndex
  channelType := r.type.toInt
  maxClients := r.maxClients
  passwordHash := r.passwordHash
  neededJoinPower := r.neededJoinPower
  opusBitrate := r.opusBitrate
  opusFEC := r.opusFEC
  opusDTX := r.opusDTX
  opusStereo := r.opusStereo
  slowModeSeconds := r.slowModeSeconds
  description := r.description
  inheritPermissions := r.inheritPermissions

/-- The patch that makes an in-memory record agree with a row; the derived fields stay. -/
def Row.mirror (r : Row) : State.ChannelUpdate where
  parentID := some r.parentID
  name := some r.name
  topic := some r.topic
  orderIndex := some r.orderIndex
  channelType := some r.type.toInt
  maxClients := some r.maxClients
  passwordHash := some r.passwordHash
  hasPassword := some (r.passwordHash != "")
  neededJoinPower := some r.neededJoinPower
  opusBitrate := some r.opusBitrate
  opusFEC := some r.opusFEC
  opusDTX := some r.opusDTX
  opusStereo := some r.opusStereo
  slowModeSeconds := some r.slowModeSeconds
  description := some r.description
  inheritPermissions := some r.inheritPermissions

/-- `UPDATE channels SET …`: a client limit of 0 is stored as NULL. -/
def Row.set (upd : ChannelUpdate) (r : Row) : Row :=
  { r with
    parentID := upd.parentID.getD r.parentID
    topic := upd.topic.getD r.topic
    orderIndex := upd.orderIndex.getD r.orderIndex
    maxClients := (upd.maxClients.map fun n => if 0 < n then n else 0).getD r.maxClients
    neededJoinPower := upd.neededJoinPower.getD r.neededJoinPower
    opusBitrate := upd.opusBitrate.getD r.opusBitrate
    opusFEC := upd.opusFEC.getD r.opusFEC
    opusDTX := upd.opusDTX.getD r.opusDTX
    opusStereo := upd.opusStereo.getD r.opusStereo
    slowModeSeconds := upd.slowModeSeconds.getD r.slowModeSeconds
    description := upd.description.getD r.description
    inheritPermissions := upd.inheritPermissions.getD r.inheritPermissions }

/-- `UPDATE channels SET channel_type = …` -/
def Row.setType (type : ChannelType) (r : Row) : Row := { r with type := type }

/-- A row has the values an edit asked for.
Source: `internal/channels/manager.go`, `channelMatchesUpdate` -/
def Row.matchesUpdate (r : Row) (upd : ChannelUpdate) : Bool :=
  upd.parentID.all (r.parentID == ·) && upd.topic.all (r.topic == ·) &&
    upd.orderIndex.all (r.orderIndex == ·) && upd.maxClients.all (r.maxClients == ·) &&
    upd.neededJoinPower.all (r.neededJoinPower == ·) && upd.opusBitrate.all (r.opusBitrate == ·) &&
    upd.opusFEC.all (r.opusFEC == ·) && upd.opusDTX.all (r.opusDTX == ·) &&
    upd.opusStereo.all (r.opusStereo == ·) && upd.slowModeSeconds.all (r.slowModeSeconds == ·) &&
    upd.description.all (r.description == ·) &&
    upd.inheritPermissions.all (r.inheritPermissions == ·)

/-- Source: `ChannelSpec`
Fidelity: without `CreatedBy`, which only the channel groups read -/
structure ChannelSpec where
  name : String
  topic : String := ""
  parentID : Int := 0
  orderIndex : Int := 0
  type : Int := 0
  maxClients : Int := 0
  password : String := ""
  neededJoinPower : Int := 0
  opusBitrate : Int := 0
  opusFEC : Bool := false
  opusDTX : Bool := false
  opusStereo : Bool := false
  deriving DecidableEq, Repr

/-- The type of a spec that is in order.
Source: `Validate` -/
def ChannelSpec.validate (spec : ChannelSpec) : Except String ChannelType :=
  if spec.name = "" then .error "channel name must not be empty"
  else match ChannelType.parse spec.type with
    | none => .error ("invalid channel type " ++ toString spec.type)
    | some type =>
      if spec.maxClients > 2147483647 then .error "max clients is out of range"
      else .ok type

/-- The row a spec is inserted as. A client limit that is not positive is stored as NULL. -/
def ChannelSpec.row (spec : ChannelSpec) (type : ChannelType) (passwordHash : String) : Row where
  parentID := spec.parentID
  name := spec.name
  topic := spec.topic
  orderIndex := spec.orderIndex
  type := type
  maxClients := if 0 < spec.maxClients then spec.maxClients else 0
  passwordHash := passwordHash
  neededJoinPower := spec.neededJoinPower
  opusBitrate := spec.opusBitrate
  opusFEC := spec.opusFEC
  opusDTX := spec.opusDTX
  opusStereo := spec.opusStereo

/-- The in-memory record of a new channel: the client limit is taken from the spec as it is. -/
def ChannelSpec.channel (spec : ChannelSpec) (type : ChannelType) (passwordHash : String)
    (channelID : Int) : Channel :=
  { (spec.row type passwordHash).channel channelID with maxClients := spec.maxClients }

/-! ## The table -/

/-- The `channels` table with the sequence of its ids. -/
structure Table where
  rows : FMap Int Row
  /-- the next value of the sequence -/
  nextID : Int
  nextID_pos : 0 < nextID
  numbered : ∀ id ∈ rows, 0 < id ∧ id < nextID

namespace Table

/-- The empty table. -/
def new : Table where
  rows := ∅
  nextID := 1
  nextID_pos := Int.one_pos
  numbered _ h := absurd h notMem_empty

variable (t : Table)

/-- `INSERT`, under the next id. -/
def insert (r : Row) : Table where
  rows := t.rows.insert t.nextID r
  nextID := t.nextID + 1
  nextID_pos := Int.add_pos t.nextID_pos Int.one_pos
  numbered id h := by
    have hpos := t.nextID_pos
    rcases mem_insert.mp h with rfl | h
    · omega
    · have hid := t.numbered id h
      omega

/-- `UPDATE … WHERE id = …` -/
def modify (channelID : Int) (f : Row → Row) : Table :=
  { t with
    rows := t.rows.modify channelID f
    numbered := fun id h => t.numbered id ((mem_modify _ _ _ _).mp h) }

/-- `DELETE` of a set of rows. -/
def delete (ids : Finset Int) : Table :=
  { t with
    rows := t.rows.filter fun id _ => decide (id ∉ ids)
    numbered := fun id h => by
      obtain ⟨r, hr⟩ := mem_iff.mp h
      exact t.numbered id (mem_of_lookup_eq_some (lookup_filter_eq_some.mp hr).1) }

/-- The parent of each row; 0 at the top level. -/
def parents : FMap Int Int := t.rows.mapVals fun _ r => r.parentID

variable {t}

lemma nextID_notMem : t.nextID ∉ t.rows := fun h => lt_irrefl _ (t.numbered _ h).2

lemma zero_notMem : (0 : Int) ∉ t.rows := fun h => lt_irrefl _ (t.numbered _ h).1

lemma lookup_insert (r : Row) (id : Int) :
    (t.insert r).rows.lookup id = if id = t.nextID then some r else t.rows.lookup id :=
  lookup_insert_ite _ _ _ _

lemma lookup_modify (channelID : Int) (f : Row → Row) (id : Int) :
    (t.modify channelID f).rows.lookup id =
      if id = channelID then (t.rows.lookup channelID).map f else t.rows.lookup id :=
  FMap.lookup_modify _ _ _ _

lemma lookup_delete (ids : Finset Int) (id : Int) :
    (t.delete ids).rows.lookup id = if id ∈ ids then none else t.rows.lookup id := by
  rw [delete, lookup_filter]
  split_ifs with h <;> cases t.rows.lookup id <;> simp [Option.filter, h]

lemma mem_delete {ids : Finset Int} {id : Int} :
    id ∈ (t.delete ids).rows ↔ id ∉ ids ∧ id ∈ t.rows := by
  rw [← lookup_isSome, ← lookup_isSome, lookup_delete]
  split_ifs with h <;> simp [h]

lemma lookup_parents (id : Int) : t.parents.lookup id = (t.rows.lookup id).map Row.parentID :=
  lookup_mapVals _ _ _

lemma mem_parents {id : Int} : id ∈ t.parents ↔ id ∈ t.rows := by
  rw [← lookup_isSome, ← lookup_isSome, lookup_parents, Option.isSome_map]

end Table

/-! ## What table and state say about a channel

Next to what the table stores, a record of the state has the number of members and two flags that
are derived. -/

/-- What the table stores of a record. -/
def persisted (ch : Channel) : Channel :=
  { ch with clientCount := 0, hasIcon := false, hasPassword := false }

/-- What the state says about a channel. -/
def stateRecord (m : Manager) (channelID : Int) : Option Channel :=
  (m.channels.lookup channelID).map persisted

/-- What the table says about a channel. -/
def Table.record (t : Table) (channelID : Int) : Option Channel :=
  (t.rows.lookup channelID).map (Row.channel channelID)

/-! ### Records of the table -/

section stored

variable {t : Table}

lemma record_insert (r : Row) (id : Int) :
    (t.insert r).record id = if id = t.nextID then some (r.channel id) else t.record id := by
  unfold Table.record
  rw [Table.lookup_insert]
  split_ifs <;> rfl

lemma record_modify (channelID : Int) (f : Row → Row) (id : Int) :
    (t.modify channelID f).record id =
      if id = channelID then (t.rows.lookup channelID).map fun r => (f r).channel channelID
      else t.record id := by
  unfold Table.record
  rw [Table.lookup_modify]
  split_ifs with h
  · rw [h, Option.map_map]
    rfl
  · rfl

lemma record_delete (ids : Finset Int) (id : Int) :
    (t.delete ids).record id = if id ∈ ids then none else t.record id := by
  unfold Table.record
  rw [Table.lookup_delete]
  split_ifs <;> rfl

end stored

/-! ### Records of the state -/

section records

variable {m m' : Manager}

lemma stateRecord_addChannel (m : Manager) (ch : Channel) (id : Int) :
    stateRecord (m.addChannel ch) id =
      if id = ch.channelID then some (persisted ch) else stateRecord m id := by
  unfold stateRecord addChannel
  rw [lookup_insert_ite]
  split_ifs <;> rfl

lemma updateChannel_snd {channelID : Int} {u : State.ChannelUpdate} :
    (m.updateChannel channelID u).2 = true ↔ channelID ∈ m.channels := by
  rw [mem_iff]
  unfold Manager.updateChannel
  cases m.channels.lookup channelID <;> simp

lemma stateRecord_updateChannel (m : Manager) (channelID : Int) (u : State.ChannelUpdate)
    (id : Int) :
    stateRecord (m.updateChannel channelID u).1 id =
      if id = channelID then (m.channels.lookup channelID).map fun ch => persisted (u.apply ch)
      else stateRecord m id := by
  unfold stateRecord Manager.updateChannel
  cases hch : m.channels.lookup channelID with
  | none =>
    split_ifs with hid
    · rw [hid, hch]
      rfl
    · rfl
  | some ch =>
    simp only [lookup_modify]
    split_ifs with hid <;> simp [hch]

/-- An update of a record that keeps what the table stores keeps what the state says. -/
lemma stateRecord_modify (m : Manager) (channelID : Int) (f : Channel → Channel)
    (hf : ∀ ch, persisted (f ch) = persisted ch) (id : Int) :
    ((m.channels.modify channelID f).lookup id).map persisted = stateRecord m id := by
  rw [lookup_modify]
  split_ifs with hid
  · rw [hid, Option.map_map]
    congr 1
    funext ch
    exact hf ch
  · rfl

lemma stateRecord_leaveMembership (m : Manager) (clientID : String) (channelID id : Int) :
    stateRecord (m.leaveMembership clientID channelID) id = stateRecord m id := by
  unfold leaveMembership
  split
  · rfl
  · refine stateRecord_modify m channelID _ (fun ch => ?_) id
    split_ifs <;> rfl

lemma stateRecord_clearSpeaking (m : Manager) (clientID : String) (id : Int) :
    stateRecord (m.clearSpeaking clientID) id = stateRecord m id := by
  unfold stateRecord
  rw [clearSpeaking_channels]

/-- A move changes no record of a channel but its count. -/
lemma stateRecord_moveClient {clientID : String} {target : Int}
    (h : m.moveClient clientID target = .ok m') (id : Int) :
    stateRecord m' id = stateRecord m id := by
  have hstep : m.step (.moveClient clientID target) = m' := by simp [step, orSame, h]
  rw [← hstep]
  rcases m.step_moveClient clientID target with ⟨-, hsame⟩ | ⟨c, -, -, -, hmoved⟩
  · rw [hsame]
  rw [hmoved]
  refine (stateRecord_modify _ target (fun ch => { ch with clientCount := ch.clientCount + 1 })
    (fun _ => rfl) id).trans ?_
  split_ifs
  · rw [stateRecord_clearSpeaking, stateRecord_leaveMembership]
  · rfl

lemma stateRecord_leaveChannel {clientID : String} (h : m.leaveChannel clientID = .ok m')
    (id : Int) : stateRecord m' id = stateRecord m id := by
  have hstep : m.step (.leaveChannel clientID) = m' := by simp [step, orSame, h]
  rw [← hstep]
  rcases m.step_leaveChannel clientID with hsame | ⟨c, -, -, hleft⟩
  · rw [hsame]
  rw [hleft]
  exact (stateRecord_clearSpeaking _ clientID id).trans
    (stateRecord_leaveMembership m clientID c.channelID id)

lemma stateRecord_removeClient (m : Manager) (clientID : String) (id : Int) :
    stateRecord (m.removeClient clientID).1 id = stateRecord m id := by
  unfold removeClient
  cases m.clients.lookup clientID with
  | none => rfl
  | some c =>
    show stateRecord (m.leavePrevious clientID c.channelID) id = _
    unfold leavePrevious
    split_ifs
    · exact stateRecord_leaveMembership m clientID c.channelID id
    · rfl

lemma stateRecord_removeChannels (m : Manager) (channelIDs : List Int) (id : Int) :
    stateRecord (m.removeChannels channelIDs).1 id =
      if id ∈ channelIDs then none else stateRecord m id := by
  unfold stateRecord
  rw [lookup_removeChannels]
  split_ifs <;> rfl

end records

end Voicx.Channels
