import Voicx.Found.FiniteMap
import Voicx.Found.Run
import Mathlib.Data.String.Basic

/-!
# The in-memory state manager

Model of `internal/state`: connected clients, active channels, channel membership, speaking states
and explicit channel subscriptions, kept in six maps behind one mutex. Every exported method runs
under that mutex from start to end, so a method is one step of the machine `Manager.step` and any
concurrent use of the manager is a list of `Op`s in some order.

* `Client`, `Channel`, `SpeakingState` — the records (`types.go`).
* `Manager` — the six maps. `membership`, `subs` and `subsByChannel` are `map[K]map[A]bool` in the
  source and `SetMap`s here.
* One definition per method under the method's name. Methods that return an error return it before
  they touch the state, which is why they are `Except StateError Manager`.
* `Op`, `Manager.step` — the writing methods as inputs of a machine.

A loop over a map whose iterations touch different keys is written as one pointwise operation
(`FMap.mapVals`, `FMap.filter`, `SetMap.removeAll`): the order in which the source visits the keys
cannot be observed.

Source names without a file are from `internal/state/manager.go`.
-/

namespace Voicx.State

open Found Finmap

/-! ## Records -/

/-- A connected user tracked in memory. `channelID` 0 means no channel.
Source: `internal/state/types.go`, `Client`
Fidelity: without `ConnectedAt`, `Conn` and `Metadata`, which no modelled method reads -/
structure Client where
  clientID : String
  uniqueID : String := ""
  nickname : String := ""
  channelID : Int := 0
  isSpeaking : Bool := false
  prioritySpeaker : Bool := false
  status : String := ""
  statusMessage : String := ""
  e2ePublicKey : String := ""
  isBot : Bool := false
  deriving DecidableEq, Repr

/-- An active channel tracked in memory. `clientCount` is derived, maintained by the manager.
Source: `internal/state/types.go`, `Channel`
Fidelity: without `CreatedAt` -/
structure Channel where
  channelID : Int
  parentID : Int := 0
  name : String := ""
  topic : String := ""
  orderIndex : Int := 0
  channelType : Int := 0
  maxClients : Int := 0
  clientCount : Int := 0
  passwordHash : String := ""
  neededJoinPower : Int := 0
  hasIcon : Bool := false
  hasPassword : Bool := false
  opusBitrate : Int := 0
  opusFEC : Bool := false
  opusDTX : Bool := false
  opusStereo : Bool := false
  slowModeSeconds : Int := 0
  description : String := ""
  inheritPermissions : Bool := false
  deriving DecidableEq, Repr

/-- A client is currently speaking in a channel.
Source: `internal/state/types.go`, `SpeakingState` -/
structure SpeakingState where
  clientID : String
  channelID : Int
  startedAt : Int
  deriving DecidableEq, Repr

/-- The errors of the membership methods.
Source: `ErrClientNotFound`, `ErrChannelNotFound`, `ErrNotInChannel` -/
inductive StateError
  | clientNotFound
  | channelNotFound
  | notInChannel
  deriving DecidableEq, Repr

/-- The message texts of the errors. -/
def StateError.text : StateError → String
  | .clientNotFound => "client not found"
  | .channelNotFound => "channel not found"
  | .notInChannel => "client is not in a channel"

/-- The state manager.
Source: `Manager` -/
structure Manager where
  /-- clientID → client -/
  clients : FMap String Client
  /-- channelID → channel -/
  channels : FMap Int Channel
  /-- channelID → set of clientIDs -/
  membership : SetMap Int String
  /-- clientID → speaking state, for clients currently speaking -/
  speaking : FMap String SpeakingState
  /-- clientID → set of explicitly subscribed channelIDs -/
  subs : SetMap String Int
  /-- channelID → set of clientIDs, the reverse index of `subs` -/
  subsByChannel : SetMap Int String

/-- The empty manager.
Source: `New` -/
def Manager.new : Manager where
  clients := ∅
  channels := ∅
  membership := ∅
  speaking := ∅
  subs := ∅
  subsByChannel := ∅

namespace Manager

/-! ## Client methods -/

variable (m : Manager)

/-- Register a client; a client with the same id is replaced.
Source: `AddClient` -/
def addClient (c : Client) : Manager :=
  { m with clients := m.clients.insert c.clientID c }

variable (clientID : String) (channelID : Int)

/-- The block `if members, ok := m.membership[channelID]; ok { ... }` that takes a client out of a
channel's membership set, drops the set if it became empty and decrements the channel's count.
`RemoveClient`, `JoinChannel`, `LeaveChannel` and `MoveClient` each contain it. -/
def leaveMembership : Manager :=
  match m.membership.lookup channelID with
  | none => m
  | some _ =>
    { m with
      membership := m.membership.remove channelID clientID
      channels := m.channels.modify channelID fun ch =>
        if 0 < ch.clientCount then { ch with clientCount := ch.clientCount - 1 } else ch }

/-- The same block behind `if c.ChannelID != 0`. -/
def leavePrevious : Manager :=
  if channelID ≠ 0 then m.leaveMembership clientID channelID else m

/-- Remove every subscription held by a client.
Source: `dropSubsLocked` -/
def dropSubsLocked : Manager :=
  { m with
    subsByChannel := m.subsByChannel.removeAll (m.subs.elems clientID) clientID
    subs := m.subs.erase clientID }

/-- Remove a client: leave its channel, clear its speaking state, drop its subscriptions. The
removed record is returned.
Source: `RemoveClient` -/
def removeClient : Manager × Option Client :=
  match m.clients.lookup clientID with
  | none => (m, none)
  | some c =>
    let m := m.leavePrevious clientID c.channelID
    let m := { m with speaking := m.speaking.erase clientID }
    let m := m.dropSubsLocked clientID
    ({ m with clients := m.clients.erase clientID }, some c)

/-- Source: `GetClient` -/
def getClient : Option Client := m.clients.lookup clientID

/-! ## Channel methods -/

/-- Register a channel; a channel with the same id is replaced.
Source: `AddChannel` -/
def addChannel (ch : Channel) : Manager :=
  { m with channels := m.channels.insert ch.channelID ch }

/-- Is the client's speaking state in channel `channelID`? -/
def speaksIn : Bool :=
  (m.speaking.lookup clientID).any fun ss => ss.channelID == channelID

/-- Remove one channel with its membership, speaking and subscription state.
Source: `removeChannelLocked` -/
def removeChannelLocked : Manager where
  -- members lose their channel; clients speaking in this channel stop speaking
  clients := m.clients.mapVals fun id c =>
    let c := if id ∈ m.membership.elems channelID then { c with channelID := 0 } else c
    if m.speaksIn id channelID then { c with isSpeaking := false } else c
  membership := m.membership.erase channelID
  speaking := m.speaking.filter fun _ ss => ss.channelID != channelID
  subs := m.subs.removeAll (m.subsByChannel.elems channelID) channelID
  subsByChannel := m.subsByChannel.erase channelID
  channels := m.channels.erase channelID

/-- A client displaced by channel deletion.
Source: `RemovedChannelMember` -/
structure RemovedChannelMember where
  clientID : String
  channelID : Int
  deriving DecidableEq, Repr

/-- What protocol and voice consumers must invalidate after a removal.
Source: `RemoveChannelsResult` -/
structure RemoveChannelsResult where
  members : List RemovedChannelMember
  subscriberIDs : List String

/-- The loop of `RemoveChannels`: the displaced members and affected subscribers are collected
before each channel is removed. -/
def removeChannelsLoop (m : Manager) :
    List Int → Finset (Int ×ₗ String) → Finset String →
      Manager × Finset (Int ×ₗ String) × Finset String
  | [], removed, affected => (m, removed, affected)
  | channelID :: rest, removed, affected =>
    (m.removeChannelLocked channelID).removeChannelsLoop rest
      (removed ∪ (m.membership.elems channelID).image fun id => toLex (channelID, id))
      (affected ∪ m.subsByChannel.elems channelID)

/-- Remove a set of channels and report, sorted, whom that affected.
Source: `RemoveChannels` -/
def removeChannels (channelIDs : List Int) : Manager × RemoveChannelsResult :=
  let (m, removed, affected) := m.removeChannelsLoop channelIDs ∅ ∅
  (m, { members := (removed.sort (· ≤ ·)).map fun p => ⟨(ofLex p).2, (ofLex p).1⟩
        subscriberIDs := affected.sort (· ≤ ·) })

/-- Source: `RemoveChannel` -/
def removeChannel (channelID : Int) : Manager := (m.removeChannels [channelID]).1

/-- Source: `GetChannel` -/
def getChannel (channelID : Int) : Option Channel := m.channels.lookup channelID

end Manager

/-- A field patch: `none` leaves the field unchanged.
Source: `ChannelUpdate` -/
structure ChannelUpdate where
  parentID : Option Int := none
  name : Option String := none
  topic : Option String := none
  orderIndex : Option Int := none
  channelType : Option Int := none
  maxClients : Option Int := none
  passwordHash : Option String := none
  neededJoinPower : Option Int := none
  hasIcon : Option Bool := none
  hasPassword : Option Bool := none
  opusBitrate : Option Int := none
  opusFEC : Option Bool := none
  opusDTX : Option Bool := none
  opusStereo : Option Bool := none
  slowModeSeconds : Option Int := none
  description : Option String := none
  inheritPermissions : Option Bool := none

/-- The patched channel. `channelID` and the derived `clientCount` are not patchable. -/
def ChannelUpdate.apply (u : ChannelUpdate) (ch : Channel) : Channel :=
  { ch with
    parentID := u.parentID.getD ch.parentID
    name := u.name.getD ch.name
    topic := u.topic.getD ch.topic
    orderIndex := u.orderIndex.getD ch.orderIndex
    channelType := u.channelType.getD ch.channelType
    maxClients := u.maxClients.getD ch.maxClients
    passwordHash := u.passwordHash.getD ch.passwordHash
    neededJoinPower := u.neededJoinPower.getD ch.neededJoinPower
    hasIcon := u.hasIcon.getD ch.hasIcon
    hasPassword := u.hasPassword.getD ch.hasPassword
    opusBitrate := u.opusBitrate.getD ch.opusBitrate
    opusFEC := u.opusFEC.getD ch.opusFEC
    opusDTX := u.opusDTX.getD ch.opusDTX
    opusStereo := u.opusStereo.getD ch.opusStereo
    slowModeSeconds := u.slowModeSeconds.getD ch.slowModeSeconds
    description := u.description.getD ch.description
    inheritPermissions := u.inheritPermissions.getD ch.inheritPermissions }

namespace Manager

variable (m : Manager)

/-- Apply a field patch; the flag is false when the channel is unknown.
Source: `UpdateChannel` -/
def updateChannel (channelID : Int) (u : ChannelUpdate) : Manager × Bool :=
  match m.channels.lookup channelID with
  | none => (m, false)
  | some _ => ({ m with channels := m.channels.modify channelID u.apply }, true)

/-! ## Membership methods -/

variable (clientID : String) (channelID : Int)

/-- The shared end of `JoinChannel` and `MoveClient`: set the client's channel, put it into the
membership set (created if absent) and increment the count. -/
def enterMembership : Manager :=
  { m with
    clients := m.clients.modify clientID fun c => { c with channelID := channelID }
    membership := m.membership.add channelID clientID
    channels := m.channels.modify channelID fun ch => { ch with clientCount := ch.clientCount + 1 } }

/-- The block `if _, ok := m.speaking[clientID]; ok { ... }` of `LeaveChannel` and `MoveClient`. -/
def clearSpeaking : Manager :=
  match m.speaking.lookup clientID with
  | none => m
  | some _ =>
    { m with
      speaking := m.speaking.erase clientID
      clients := m.clients.modify clientID fun c => { c with isSpeaking := false } }

/-- Put a client into a channel, out of the one it stands in. The speaking state is not touched.
Source: `JoinChannel` -/
def joinChannel : Except StateError Manager :=
  match m.clients.lookup clientID with
  | none => .error .clientNotFound
  | some c =>
    match m.channels.lookup channelID with
    | none => .error .channelNotFound
    | some _ =>
      if c.channelID = channelID then .ok m
      else .ok ((m.leavePrevious clientID c.channelID).enterMembership clientID channelID)

/-- Take a client out of its channel and clear its speaking state.
Source: `LeaveChannel` -/
def leaveChannel : Except StateError Manager :=
  match m.clients.lookup clientID with
  | none => .error .clientNotFound
  | some c =>
    if c.channelID = 0 then .error .notInChannel
    else
      let m := (m.leaveMembership clientID c.channelID).clearSpeaking clientID
      .ok { m with clients := m.clients.modify clientID fun c => { c with channelID := 0 } }

/-- Move a client to another channel. Unlike `joinChannel` it clears the speaking state, but only of
a client that comes out of a channel.
Source: `MoveClient` -/
def moveClient (targetChannelID : Int) : Except StateError Manager :=
  match m.clients.lookup clientID with
  | none => .error .clientNotFound
  | some c =>
    match m.channels.lookup targetChannelID with
    | none => .error .channelNotFound
    | some _ =>
      if c.channelID = targetChannelID then .ok m
      else
        let m := if c.channelID ≠ 0 then
            (m.leaveMembership clientID c.channelID).clearSpeaking clientID
          else m
        .ok (m.enterMembership clientID targetChannelID)

/-! ## Channel subscriptions -/

/-- The body of the loop of `Subscribe`; unknown channels are skipped. -/
def subscribeOne : Manager :=
  match m.channels.lookup channelID with
  | none => m
  | some _ =>
    { m with
      subs := m.subs.add clientID channelID
      subsByChannel := m.subsByChannel.add channelID clientID }

/-- Record explicit subscriptions; an unknown client is ignored.
Source: `Subscribe` -/
def subscribe (channelIDs : List Int) : Manager :=
  match m.clients.lookup clientID with
  | none => m
  | some _ => channelIDs.foldl (fun m channelID => m.subscribeOne clientID channelID) m

/-- Remove explicit subscriptions. The client's own set is emptied in place and dropped only after
the loop; each channel's reverse set is dropped as soon as it is empty.
Source: `Unsubscribe` -/
def unsubscribe (channelIDs : List Int) : Manager :=
  match m.subs.lookup clientID with
  | none => m
  | some set =>
    let set := channelIDs.foldl (fun set channelID => set.erase channelID) set
    { m with
      subsByChannel := channelIDs.foldl (fun rev channelID => rev.remove channelID clientID)
        m.subsByChannel
      subs := if set = ∅ then m.subs.erase clientID else m.subs.insert clientID set }

/-! ## Speaking and presence methods -/

/-- Set or clear the speaking flag together with the speaking state; `now` is `time.Now()`.
Source: `SetSpeaking` -/
def setSpeaking (clientID : String) (speaking : Bool) (now : Int) : Manager :=
  match m.clients.lookup clientID with
  | none => m
  | some c =>
    if speaking then
      { m with
        clients := m.clients.modify clientID fun c => { c with isSpeaking := true }
        speaking := m.speaking.insert clientID ⟨clientID, c.channelID, now⟩ }
    else
      { m with
        clients := m.clients.modify clientID fun c => { c with isSpeaking := false }
        speaking := m.speaking.erase clientID }

/-- Source: `SetPrioritySpeaker` -/
def setPrioritySpeaker (clientID : String) (active : Bool) : Manager :=
  { m with clients := m.clients.modify clientID fun c => { c with prioritySpeaker := active } }

/-- Source: `SetE2EPublicKey` -/
def setE2EPublicKey (clientID publicKey : String) : Manager :=
  { m with clients := m.clients.modify clientID fun c => { c with e2ePublicKey := publicKey } }

/-- Source: `SetStatus` -/
def setStatus (clientID status message : String) : Manager :=
  { m with
    clients := m.clients.modify clientID fun c =>
      { c with status := status, statusMessage := message } }

end Manager

/-! ## The manager as a machine -/

/-- A call of a writing method. -/
inductive Op
  | addClient (c : Client)
  | removeClient (clientID : String)
  | addChannel (ch : Channel)
  | removeChannel (channelID : Int)
  | removeChannels (channelIDs : List Int)
  | updateChannel (channelID : Int) (u : ChannelUpdate)
  | joinChannel (clientID : String) (channelID : Int)
  | leaveChannel (clientID : String)
  | moveClient (clientID : String) (targetChannelID : Int)
  | subscribe (clientID : String) (channelIDs : List Int)
  | unsubscribe (clientID : String) (channelIDs : List Int)
  | setSpeaking (clientID : String) (speaking : Bool) (now : Int)
  | setPrioritySpeaker (clientID : String) (active : Bool)
  | setE2EPublicKey (clientID publicKey : String)
  | setStatus (clientID status message : String)

/-- A method that fails leaves the manager as it was. -/
def Manager.orSame (m : Manager) : Except StateError Manager → Manager
  | .ok m' => m'
  | .error _ => m

/-- The manager after one call. -/
def Manager.step (m : Manager) : Op → Manager
  | .addClient c => m.addClient c
  | .removeClient clientID => (m.removeClient clientID).1
  | .addChannel ch => m.addChannel ch
  | .removeChannel channelID => m.removeChannel channelID
  | .removeChannels channelIDs => (m.removeChannels channelIDs).1
  | .updateChannel channelID u => (m.updateChannel channelID u).1
  | .joinChannel clientID channelID => m.orSame (m.joinChannel clientID channelID)
  | .leaveChannel clientID => m.orSame (m.leaveChannel clientID)
  | .moveClient clientID target => m.orSame (m.moveClient clientID target)
  | .subscribe clientID channelIDs => m.subscribe clientID channelIDs
  | .unsubscribe clientID channelIDs => m.unsubscribe clientID channelIDs
  | .setSpeaking clientID speaking now => m.setSpeaking clientID speaking now
  | .setPrioritySpeaker clientID active => m.setPrioritySpeaker clientID active
  | .setE2EPublicKey clientID publicKey => m.setE2EPublicKey clientID publicKey
  | .setStatus clientID status message => m.setStatus clientID status message

namespace Manager

/-! ## What the methods read and leave alone -/

/-- The channel a client stands in; `none` for an unknown client. -/
def chanOf (m : Manager) (clientID : String) : Option Int :=
  (m.clients.lookup clientID).map Client.channelID

variable {m : Manager} {clientID : String}

lemma chanOf_eq_some {ch : Int} :
    m.chanOf clientID = some ch ↔ ∃ c, m.clients.lookup clientID = some c ∧ c.channelID = ch := by
  rw [chanOf, Option.map_eq_some_iff]

lemma chanOf_of_lookup {c : Client} (h : m.clients.lookup clientID = some c) :
    m.chanOf clientID = some c.channelID := chanOf_eq_some.mpr ⟨c, h, rfl⟩

/-- The client is live and stands in a channel. -/
def inChannel (m : Manager) (clientID : String) : Bool :=
  (m.clients.lookup clientID).any fun c => c.channelID != 0

lemma inChannel_eq_false :
    m.inChannel clientID = false ↔ ∀ ch, m.chanOf clientID = some ch → ch = 0 := by
  unfold inChannel chanOf
  cases m.clients.lookup clientID <;> simp

section frames

variable (m : Manager) (clientID : String) (channelID : Int)

@[simp] lemma leaveMembership_clients :
    (m.leaveMembership clientID channelID).clients = m.clients := by
  unfold leaveMembership
  split <;> rfl

@[simp] lemma leaveMembership_speaking :
    (m.leaveMembership clientID channelID).speaking = m.speaking := by
  unfold leaveMembership
  split <;> rfl

@[simp] lemma leaveMembership_subs : (m.leaveMembership clientID channelID).subs = m.subs := by
  unfold leaveMembership
  split <;> rfl

@[simp] lemma leaveMembership_subsByChannel :
    (m.leaveMembership clientID channelID).subsByChannel = m.subsByChannel := by
  unfold leaveMembership
  split <;> rfl

/-- Leaving a channel takes exactly one member out of exactly one set, also where the set is
absent. -/
lemma leaveMembership_membership :
    (m.leaveMembership clientID channelID).membership = m.membership.remove channelID clientID := by
  unfold leaveMembership
  cases h : m.membership.lookup channelID with
  | none => simp [SetMap.remove, h]
  | some s => rfl

@[simp] lemma mem_leaveMembership_channels (ch : Int) :
    ch ∈ (m.leaveMembership clientID channelID).channels ↔ ch ∈ m.channels := by
  unfold leaveMembership
  split
  · rfl
  · exact FMap.mem_modify _ _ _ _

@[simp] lemma leavePrevious_clients :
    (m.leavePrevious clientID channelID).clients = m.clients := by
  unfold leavePrevious
  split <;> simp

@[simp] lemma leavePrevious_speaking :
    (m.leavePrevious clientID channelID).speaking = m.speaking := by
  unfold leavePrevious
  split <;> simp

@[simp] lemma leavePrevious_subs : (m.leavePrevious clientID channelID).subs = m.subs := by
  unfold leavePrevious
  split <;> simp

@[simp] lemma leavePrevious_subsByChannel :
    (m.leavePrevious clientID channelID).subsByChannel = m.subsByChannel := by
  unfold leavePrevious
  split <;> simp

@[simp] lemma mem_leavePrevious_channels (ch : Int) :
    ch ∈ (m.leavePrevious clientID channelID).channels ↔ ch ∈ m.channels := by
  unfold leavePrevious
  split <;> simp

@[simp] lemma clearSpeaking_channels : (m.clearSpeaking clientID).channels = m.channels := by
  unfold clearSpeaking
  split <;> rfl

@[simp] lemma clearSpeaking_membership :
    (m.clearSpeaking clientID).membership = m.membership := by
  unfold clearSpeaking
  split <;> rfl

@[simp] lemma mem_clearSpeaking_clients (id : String) :
    id ∈ (m.clearSpeaking clientID).clients ↔ id ∈ m.clients := by
  unfold clearSpeaking
  split
  · rfl
  · exact FMap.mem_modify _ _ _ _

@[simp] lemma clearSpeaking_subs : (m.clearSpeaking clientID).subs = m.subs := by
  unfold clearSpeaking
  split <;> rfl

@[simp] lemma clearSpeaking_subsByChannel :
    (m.clearSpeaking clientID).subsByChannel = m.subsByChannel := by
  unfold clearSpeaking
  split <;> rfl

end frames

/-- An update of a client record that keeps its channel keeps where everybody stands. -/
lemma chanOf_modify (m : Manager) (clientID id : String) (f : Client → Client)
    (hf : ∀ c, (f c).channelID = c.channelID) :
    chanOf { m with clients := m.clients.modify clientID f } id = m.chanOf id := by
  unfold chanOf
  rw [FMap.lookup_modify]
  by_cases h : id = clientID
  · subst h
    cases m.clients.lookup id <;> simp [hf]
  · simp [h]

lemma chanOf_clearSpeaking (m : Manager) (clientID id : String) :
    (m.clearSpeaking clientID).chanOf id = m.chanOf id := by
  unfold clearSpeaking
  split
  · rfl
  · exact chanOf_modify m clientID id _ fun _ => rfl

/-! ### Loops -/

variable {P : Manager → Prop}

/-- Channels are removed one after the other. -/
lemma removeChannels_fst (m : Manager) (channelIDs : List Int) :
    (m.removeChannels channelIDs).1 = channelIDs.foldl removeChannelLocked m := by
  suffices hloop : ∀ removed affected, (m.removeChannelsLoop channelIDs removed affected).1 =
      channelIDs.foldl removeChannelLocked m from hloop ∅ ∅
  induction channelIDs generalizing m with
  | nil => exact fun _ _ => rfl
  | cons channelID rest ih => exact fun _ _ => ih _ _ _

/-- What the removal of one channel preserves, the removal of a list of channels preserves. -/
lemma removeChannels_induct (hstep : ∀ m channelID, P m → P (m.removeChannelLocked channelID))
    (h : P m) (channelIDs : List Int) : P (m.removeChannels channelIDs).1 := by
  rw [removeChannels_fst]
  exact List.foldlRecOn channelIDs _ h fun m hm channelID _ => hstep m channelID hm

/-- What is kept for each channel and taken away with it. -/
lemma removeChannels_at {α : Type} {f : Manager → Int → α} {gone : α}
    (hf : ∀ m channelID id, f (m.removeChannelLocked channelID) id =
      if id = channelID then gone else f m id) (m : Manager) (channelIDs : List Int) (id : Int) :
    f (m.removeChannels channelIDs).1 id = if id ∈ channelIDs then gone else f m id := by
  rw [removeChannels_fst]
  induction channelIDs generalizing m with
  | nil => simp
  | cons channelID rest ih =>
    rw [List.foldl_cons, ih, hf]
    by_cases hid : id = channelID <;> simp [hid]

/-- The channels after a removal. -/
lemma lookup_removeChannels (m : Manager) (channelIDs : List Int) (id : Int) :
    (m.removeChannels channelIDs).1.channels.lookup id =
      if id ∈ channelIDs then none else m.channels.lookup id :=
  removeChannels_at (f := fun m id => m.channels.lookup id)
    (fun _ _ _ => FMap.lookup_erase_ite ..) m channelIDs id

/-- The members after a removal. -/
lemma elems_removeChannels (m : Manager) (channelIDs : List Int) (id : Int) :
    (m.removeChannels channelIDs).1.membership.elems id =
      if id ∈ channelIDs then ∅ else m.membership.elems id :=
  removeChannels_at (f := fun m id => m.membership.elems id)
    (fun _ _ _ => SetMap.elems_erase ..) m channelIDs id

/-- A removal of channels keeps the clients. -/
lemma mem_clients_removeChannels (m : Manager) (channelIDs : List Int) (clientID : String) :
    clientID ∈ (m.removeChannels channelIDs).1.clients ↔ clientID ∈ m.clients := by
  refine removeChannels_induct (P := fun m' => clientID ∈ m'.clients ↔ clientID ∈ m.clients)
    (fun m' channelID h => ?_) Iff.rfl channelIDs
  rw [← h, ← lookup_isSome, ← lookup_isSome, removeChannelLocked, FMap.lookup_mapVals,
    Option.isSome_map]

/-- What one subscription preserves, a list of subscriptions preserves. -/
lemma subscribe_induct (hstep : ∀ m channelID, P m → P (m.subscribeOne clientID channelID))
    (h : P m) (channelIDs : List Int) : P (m.subscribe clientID channelIDs) := by
  unfold subscribe
  split
  · exact h
  · exact List.foldlRecOn channelIDs _ h fun m hm channelID _ => hstep m channelID hm

variable (m clientID) (channelIDs : List Int)

/-- A subscription changes the two indexes of subscriptions only. -/
lemma subscribe_eq : ∃ subs subsByChannel,
    m.subscribe clientID channelIDs = { m with subs, subsByChannel } := by
  refine subscribe_induct (P := fun m' => ∃ subs subsByChannel, m' = { m with subs, subsByChannel })
    (fun m' ch h => ?_) ⟨_, _, rfl⟩ channelIDs
  obtain ⟨subs, subsByChannel, rfl⟩ := h
  unfold subscribeOne
  split <;> exact ⟨_, _, rfl⟩

/-! ### The methods that can fail, as steps -/

/-- A join moves a live client into another live channel, or changes nothing. -/
lemma step_joinChannel (channelID : Int) :
    (∀ c, m.clients.lookup clientID = some c → channelID ∈ m.channels → c.channelID = channelID) ∧
        m.step (.joinChannel clientID channelID) = m ∨
      ∃ c, m.clients.lookup clientID = some c ∧ channelID ∈ m.channels ∧
        c.channelID ≠ channelID ∧
        m.step (.joinChannel clientID channelID) =
          (m.leavePrevious clientID c.channelID).enterMembership clientID channelID := by
  simp only [step, joinChannel]
  cases hc : m.clients.lookup clientID with
  | none => exact .inl ⟨nofun, rfl⟩
  | some c =>
    cases hch : m.channels.lookup channelID with
    | none => exact .inl ⟨fun _ _ hin => absurd hin (lookup_eq_none.mp hch), rfl⟩
    | some info =>
      by_cases h : c.channelID = channelID
      · simp [h, orSame]
      · exact .inr ⟨c, rfl, mem_of_lookup_eq_some hch, h, by simp [h, orSame]⟩

/-- A leave changes nothing, or takes a live client out of the channel it stands in. -/
lemma step_leaveChannel :
    m.step (.leaveChannel clientID) = m ∨
      ∃ c, m.clients.lookup clientID = some c ∧ c.channelID ≠ 0 ∧
        m.step (.leaveChannel clientID) =
          { (m.leaveMembership clientID c.channelID).clearSpeaking clientID with
            clients := ((m.leaveMembership clientID c.channelID).clearSpeaking
              clientID).clients.modify clientID fun c => { c with channelID := 0 } } := by
  simp only [step, leaveChannel]
  cases hc : m.clients.lookup clientID with
  | none => exact .inl rfl
  | some c =>
    by_cases h : c.channelID = 0
    · simp [h, orSame]
    · exact .inr ⟨c, rfl, h, by simp [h, orSame]⟩

/-- A move moves a live client into another live channel, clearing its speaking state if it came out
of one, or changes nothing. -/
lemma step_moveClient (target : Int) :
    (∀ c, m.clients.lookup clientID = some c → target ∈ m.channels → c.channelID = target) ∧
        m.step (.moveClient clientID target) = m ∨
      ∃ c, m.clients.lookup clientID = some c ∧ target ∈ m.channels ∧ c.channelID ≠ target ∧
        m.step (.moveClient clientID target) =
          (if c.channelID ≠ 0 then
              (m.leaveMembership clientID c.channelID).clearSpeaking clientID
            else m).enterMembership clientID target := by
  simp only [step, moveClient]
  cases hc : m.clients.lookup clientID with
  | none => exact .inl ⟨nofun, rfl⟩
  | some c =>
    cases hch : m.channels.lookup target with
    | none => exact .inl ⟨fun _ _ hin => absurd hin (lookup_eq_none.mp hch), rfl⟩
    | some info =>
      by_cases h : c.channelID = target
      · simp [h, orSame]
      · refine .inr ⟨c, rfl, mem_of_lookup_eq_some hch, h, ?_⟩
        simp [h, orSame]

end Manager

end Voicx.State
