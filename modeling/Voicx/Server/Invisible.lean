import Voicx.Broadcast.Snapshot

/-!
# What an invisible client gives away

A client whose status is `invisible` is left out of the snapshots of ordinary viewers, and
`handleSetStatus` says that entering the status "looks like a leave to non-admins". Other things a
viewer receives are not filtered: the channel records inside a snapshot count every member,
`server_info` counts every client, and the events of a move and of speaking go to every registered
client.

* `handleServerInfoQuery` — the answer to `server_info_query`.
* `moveEvents`, `speakingEvents` — the events a viewer is sent when a client moves, or starts or
  stops speaking.
* `DifferOnlyIn` — two states that are the same but for where one invisible client is, if anywhere.
* **`invisible_unseen_iff`** — an ordinary viewer receives the same in both if and only if the
  client is in the same place in both.
-/

namespace Voicx.Server

open Found State Broadcast Finmap Option Manager

/-! ## The server as a viewer can observe it -/

/-- The state manager, the clients registered with the broadcaster, the targets of active whispers
and the identity (unique id and user name) of each connection. -/
structure ServerState where
  state : Manager
  registered : Finset String
  whisperTargets : String → Finset String
  clientByID : String → Option (String × String)

/-- A client that looks. -/
structure Viewer where
  clientID : String
  uniqueID : String
  deriving DecidableEq, Repr

/-- What `server_info` says besides the counts: the configuration, and the time since the start.
`motd` is `none` unless the operator opted in. -/
structure ServerInfoConfig where
  name : String
  version : String
  platform : String
  maxClients : Int
  motd : Option String
  uptimeSeconds : Int
  deriving DecidableEq, Repr

/-- Source: `internal/netproto/codec.go`, `ServerInfoResponse` -/
structure ServerInfoResponse where
  name : String
  version : String
  platform : String
  uptimeSeconds : Int
  clientsOnline : Nat
  channelsOnline : Nat
  maxClients : Int
  motd : String
  deriving DecidableEq, Repr

/-- Source: `internal/server/presence.go`, `handleServerInfoQuery` -/
def handleServerInfoQuery (cfg : ServerInfoConfig) (m : Manager) : ServerInfoResponse where
  name := cfg.name
  version := cfg.version
  platform := cfg.platform
  uptimeSeconds := cfg.uptimeSeconds
  clientsOnline := m.clients.len
  channelsOnline := m.channels.len
  maxClients := cfg.maxClients
  motd := cfg.motd.getD ""

/-! ## Events -/

/-- Source: `internal/server/handlers.go`, `userEvent`; `internal/server/voice.go`, `speakingEvent`,
`whisperEvent` -/
inductive PresenceEvent
  | userMoved (clientID : String) (fromChannelID channelID : Int) (byClientID : String)
  | speakingChanged (clientID : String) (channelID : Int) (speaking whisper : Bool)
  | whisper (fromClientID fromUniqueID fromNickname : String) (speaking : Bool)
  deriving DecidableEq, Repr

/-- Something a client does that is announced. -/
inductive Activity
  | move (channelID : Int) (movedBy : String)
  | speak (speaking : Bool) (now : Int)
  deriving DecidableEq, Repr

section events

variable (s : ServerState) (viewer : Viewer) (clientID : String)

/-- An event for all registered clients, as it reaches the viewer.
Source: `internal/server/handlers.go`, `broadcastEvent` -/
def ServerState.broadcastEvent (e : PresenceEvent) : List PresenceEvent :=
  if viewer.clientID ∈ s.registered then [e] else []

/-- What the viewer is sent when a client is moved.
Source: `internal/server/handlers.go`, `moveClient`
Fidelity: the event; the chat keys that are rotated and delivered along with it are not events -/
def moveEvents (channelID : Int) (movedBy : String) : List PresenceEvent :=
  match s.state.clients.lookup clientID, s.state.moveClient clientID channelID with
  | some c, .ok _ => s.broadcastEvent viewer (.userMoved clientID c.channelID channelID movedBy)
  | _, _ => []

/-- The directed event a whisper target is sent. -/
def whisperEvents (speaking : Bool) : List PresenceEvent :=
  if viewer.clientID ∈ (s.whisperTargets clientID).erase clientID then
    s.broadcastEvent viewer (.whisper clientID (((s.clientByID clientID).map Prod.fst).getD "")
      (((s.clientByID clientID).map Prod.snd).getD "") speaking)
  else []

/-- What the viewer is sent when a client starts or stops speaking.
Source: `internal/server/voice.go`, `onSpeakingChanged` -/
def speakingEvents (speaking : Bool) (now : Int) : List PresenceEvent :=
  match (s.state.setSpeaking clientID speaking now).clients.lookup clientID with
  | none => []
  | some c =>
    s.broadcastEvent viewer (.speakingChanged clientID c.channelID speaking
      (decide (s.whisperTargets clientID ≠ ∅))) ++ whisperEvents s viewer clientID speaking

/-- What the viewer is sent when a client does something. -/
def eventsTo : Activity → List PresenceEvent
  | .move channelID movedBy => moveEvents s viewer clientID channelID movedBy
  | .speak speaking now => speakingEvents s viewer clientID speaking now

end events

/-! ## Two states -/

/-- A client record without its whereabouts. -/
def withoutPlace (c : Client) : Client := { c with channelID := 0, isSpeaking := false }

/-- The channels with `ClientCount` counting everybody but one client. -/
def othersCounted (id : String) (m : Manager) : FMap Int Channel :=
  m.channels.mapVals fun channelID ch =>
    { ch with clientCount := ch.clientCount - if m.chanOf id = some channelID then 1 else 0 }

/-- Two states differ at most in the presence, the channel and the speaking flag of one client,
which is invisible. -/
@[mk_iff]
structure DifferOnlyIn (id : String) (s s' : ServerState) : Prop where
  clients : s'.state.clients.erase id = s.state.clients.erase id
  invisible : ∀ c ∈ s.state.clients.lookup id, c.status = "invisible"
  invisible' : ∀ c ∈ s'.state.clients.lookup id, c.status = "invisible"
  record : ∀ c ∈ s.state.clients.lookup id, ∀ c' ∈ s'.state.clients.lookup id,
    withoutPlace c' = withoutPlace c
  channels : othersCounted id s'.state = othersCounted id s.state
  registered : s'.registered.erase id = s.registered.erase id
  voice : (s.state.clients.lookup id).isSome → (s'.state.clients.lookup id).isSome →
    s'.whisperTargets id = s.whisperTargets id ∧ s'.clientByID id = s.clientByID id

instance (id : String) (s s' : ServerState) : Decidable (DifferOnlyIn id s s') :=
  decidable_of_iff' _ (differOnlyIn_iff id s s')

section twoStates

variable {id : String} {s s' : ServerState}

lemma chanOf_setSpeaking (m : Manager) (clientID : String) (speaking : Bool) (now : Int) :
    (m.setSpeaking clientID speaking now).chanOf clientID = m.chanOf clientID := by
  unfold setSpeaking
  split
  · rfl
  · split_ifs <;> exact chanOf_modify m clientID clientID _ fun _ => rfl

lemma mem_clients_iff {m : Manager} : id ∈ m.clients ↔ (m.chanOf id).isSome := by
  rw [chanOf, isSome_map, lookup_isSome]

/-- The number of clients, without and with the one. -/
lemma len_clients (m : Manager) (id : String) :
    m.clients.len = FMap.len (m.clients.erase id) + if (m.chanOf id).isSome then 1 else 0 := by
  by_cases hid : id ∈ m.clients
  · rw [if_pos (mem_clients_iff.mp hid), FMap.len_erase_of_mem hid]
  have herase : m.clients.erase id = m.clients := by
    refine ext_lookup fun id' => ?_
    rw [FMap.lookup_erase_ite]
    split_ifs with heq
    · rw [heq, lookup_eq_none.mpr hid]
    · rfl
  rw [if_neg (fun h => hid (mem_clients_iff.mpr h)), herase, Nat.add_zero]

namespace DifferOnlyIn

variable (h : DifferOnlyIn id s s')
include h

/-- The counts of everybody else are the same, so the counts are the same if the client is in the
same place. -/
lemma channels_eq (hplace : s'.state.chanOf id = s.state.chanOf id) :
    s'.state.channels = s.state.channels := by
  refine ext_lookup fun channelID => ?_
  have heq := congrArg (Finmap.lookup channelID) h.channels
  simp only [othersCounted, FMap.lookup_mapVals, hplace] at heq
  -- not counting one client loses nothing of a channel record
  refine map_injective (fun ch ch' heq => ?_) heq
  cases ch
  cases ch'
  simpa using heq

/-- Counting the clients tells whether the one is there. -/
lemma isSome_of_len (hlen : s'.state.clients.len = s.state.clients.len) :
    (s'.state.chanOf id).isSome = (s.state.chanOf id).isSome := by
  rw [len_clients s'.state id, len_clients s.state id, h.clients] at hlen
  cases hs : (s.state.chanOf id).isSome <;> cases hs' : (s'.state.chanOf id).isSome <;>
    simp [hs, hs'] at hlen ⊢

variable {viewer : Viewer} (hne : viewer.clientID ≠ id)
include hne

lemma broadcastEvent_eq (e : PresenceEvent) :
    s'.broadcastEvent viewer e = s.broadcastEvent viewer e := by
  have hmem : viewer.clientID ∈ s'.registered ↔ viewer.clientID ∈ s.registered := by
    have herase := congrArg (viewer.clientID ∈ ·) h.registered
    simpa [hne] using herase
  rw [ServerState.broadcastEvent, ServerState.broadcastEvent]
  simp [hmem]

lemma moveEvents_eq (hplace : s'.state.chanOf id = s.state.chanOf id) (channelID : Int)
    (movedBy : String) :
    moveEvents s' viewer id channelID movedBy = moveEvents s viewer id channelID movedBy := by
  have hchannels := h.channels_eq hplace
  simp only [chanOf] at hplace
  cases hc : s.state.clients.lookup id with
  | none =>
    rw [hc, map_none, map_eq_none_iff] at hplace
    simp [moveEvents, hc, hplace]
  | some c =>
    rw [hc, map_some, map_eq_some_iff] at hplace
    obtain ⟨c', hc', hch⟩ := hplace
    -- the move succeeds in both states, namely if the channel exists, and from the same channel
    simp only [moveEvents, moveClient, hc, hc', hchannels, hch, h.broadcastEvent_eq hne]
    cases s.state.channels.lookup channelID with
    | none => rfl
    | some ch =>
      simp only
      split_ifs <;> simp [hch]

lemma speakingEvents_eq (hplace : s'.state.chanOf id = s.state.chanOf id) (speaking : Bool)
    (now : Int) :
    speakingEvents s' viewer id speaking now = speakingEvents s viewer id speaking now := by
  have hafter : (s'.state.setSpeaking id speaking now).chanOf id =
      (s.state.setSpeaking id speaking now).chanOf id := by
    rw [chanOf_setSpeaking, chanOf_setSpeaking, hplace]
  simp only [chanOf] at hafter
  cases hc : (s.state.setSpeaking id speaking now).clients.lookup id with
  | none =>
    rw [hc, map_none, map_eq_none_iff] at hafter
    simp [speakingEvents, hc, hafter]
  | some c =>
    have hsome : (s.state.chanOf id).isSome := by
      rw [← chanOf_setSpeaking s.state id speaking now, chanOf, hc]
      rfl
    have hsome' : (s'.state.chanOf id).isSome := by rw [hplace, hsome]
    obtain ⟨hwhisper, hident⟩ := h.voice (by simpa [chanOf] using hsome)
      (by simpa [chanOf] using hsome')
    rw [hc, map_some, map_eq_some_iff] at hafter
    obtain ⟨c', hc', hch⟩ := hafter
    simp [speakingEvents, whisperEvents, hc, hc', hch, hwhisper, hident, h.broadcastEvent_eq hne]

/-- A registered viewer is told the channel of a client that speaks. -/
lemma chanOf_eq_of_speakingEvents (hreg : viewer.clientID ∈ s.registered)
    (hsome : (s'.state.chanOf id).isSome = (s.state.chanOf id).isSome)
    (heq : speakingEvents s' viewer id true 0 = speakingEvents s viewer id true 0) :
    s'.state.chanOf id = s.state.chanOf id := by
  rw [← chanOf_setSpeaking s.state id true 0, ← chanOf_setSpeaking s'.state id true 0] at hsome ⊢
  simp only [chanOf, isSome_map] at hsome ⊢
  cases hc : (s.state.setSpeaking id true 0).clients.lookup id with
  | none =>
    rw [hc, isSome_none, isSome_eq_false_iff, isNone_iff_eq_none] at hsome
    rw [hsome]
  | some c =>
    rw [hc] at hsome
    obtain ⟨c', hc'⟩ := isSome_iff_exists.mp hsome
    simp only [speakingEvents, hc, hc', h.broadcastEvent_eq hne] at heq
    simp only [ServerState.broadcastEvent, if_pos hreg] at heq
    obtain ⟨hhead, -⟩ := List.cons.inj heq
    obtain ⟨-, hch, -⟩ := PresenceEvent.speakingChanged.inj hhead
    rw [hc', map_some, map_some, hch]

end DifferOnlyIn

end twoStates

/-- **Who can tell where an invisible client is.** Take two states that differ at most in the
presence, the channel and the speaking flag of one client, which is invisible, and a registered
viewer that is not an admin and has another unique id. The snapshot built for the viewer, the answer
to its `server_info_query` and the events it is sent whenever the client moves, or starts or stops
speaking, are the same in both if and only if the client is absent in both or in the same channel in
both. -/
theorem invisible_unseen_iff {id : String} {s s' : ServerState} (h : DifferOnlyIn id s s')
    {viewer : Viewer} (hne : viewer.clientID ≠ id) (hreg : viewer.clientID ∈ s.registered)
    (huid : ∀ c, s.state.clients.lookup id = some c → c.uniqueID ≠ viewer.uniqueID)
    (huid' : ∀ c, s'.state.clients.lookup id = some c → c.uniqueID ≠ viewer.uniqueID)
    (now : Int) (cfg : ServerInfoConfig) :
    (buildSnapshot now s'.state false viewer.uniqueID =
          buildSnapshot now s.state false viewer.uniqueID ∧
        handleServerInfoQuery cfg s'.state = handleServerInfoQuery cfg s.state ∧
        ∀ activity, eventsTo s' viewer id activity = eventsTo s viewer id activity) ↔
      s'.state.chanOf id = s.state.chanOf id := by
  constructor
  · rintro ⟨-, hinfo, hevents⟩
    have hlen : s'.state.clients.len = s.state.clients.len :=
      congrArg ServerInfoResponse.clientsOnline hinfo
    exact h.chanOf_eq_of_speakingEvents hne hreg (h.isSome_of_len hlen) (hevents (.speak true 0))
  intro hplace
  have hchannels := h.channels_eq hplace
  have hidden : ∀ c : Client, c.status = "invisible" → c.uniqueID ≠ viewer.uniqueID →
      hiddenFrom false viewer.uniqueID c = true := by
    intro c hstatus huid
    simp [hiddenFrom, hstatus, huid]
  have hvisible := visibleClients_eq_of_hidden (fun id' hid => by
    have heq := congrArg (Finmap.lookup id') h.clients
    rwa [lookup_erase_ne hid, lookup_erase_ne hid] at heq)
    (fun c hc => hidden c (h.invisible c hc) (huid c hc))
    (fun c hc => hidden c (h.invisible' c hc) (huid' c hc))
  refine ⟨buildSnapshot_congr hchannels hvisible now, ?_, fun activity => ?_⟩
  · rw [handleServerInfoQuery, handleServerInfoQuery, len_clients s'.state id,
      len_clients s.state id, h.clients, hplace, hchannels]
  · cases activity with
    | move channelID movedBy => exact h.moveEvents_eq hne hplace channelID movedBy
    | speak speaking now => exact h.speakingEvents_eq hne hplace speaking now

/-! ### An invisible client in channel 1 -/

/-- One channel; Bob, and an invisible admin that has done something. -/
def lobby (ops : List Op) : ServerState where
  state := run step new
    ([.addChannel { channelID := 1 }, .addClient { clientID := "bob", uniqueID := "bob" },
      .addClient { clientID := "root", uniqueID := "root", status := "invisible" }] ++ ops)
  registered := {"bob", "root"}
  whisperTargets := fun _ => ∅
  clientByID := fun _ => none

/-- Bob looks. -/
def guestBob : Viewer := ⟨"bob", "bob"⟩

/-- A server's configuration. -/
def plainInfo : ServerInfoConfig := ⟨"voicx", "1", "linux/amd64", 100, none, 0⟩

/-- The admin is silent in channel 1. -/
def quiet : ServerState := lobby [.moveClient "root" 1]

/-- The admin speaks in channel 1. -/
def talking : ServerState := lobby [.moveClient "root" 1, .setSpeaking "root" true 5]

/-- Whether the admin speaks cannot be told. -/
theorem invisible_unseen_speaking :
    buildSnapshot 0 talking.state false "bob" = buildSnapshot 0 quiet.state false "bob" ∧
      handleServerInfoQuery plainInfo talking.state = handleServerInfoQuery plainInfo quiet.state ∧
      ∀ activity,
        eventsTo talking guestBob "root" activity = eventsTo quiet guestBob "root" activity :=
  have hother : ∀ c ∈ quiet.state.clients.lookup "root", c.uniqueID ≠ guestBob.uniqueID := by decide
  have hother' : ∀ c ∈ talking.state.clients.lookup "root", c.uniqueID ≠ guestBob.uniqueID := by
    decide
  have hdiffer : DifferOnlyIn "root" quiet talking := by decide +kernel
  (invisible_unseen_iff hdiffer (by decide) (by decide) hother hother' 0 plainInfo).mpr (by decide)

/-- The admin is not there. -/
def gone : ServerState := lobby [.removeClient "root"]

/-- Bob counts a member of channel 1 he is not shown, counts two clients online, and is told when
the invisible admin moves or speaks: nothing of this is so in the state that differs only in that
the admin is not there. -/
theorem invisible_client_shows :
    (DifferOnlyIn "root" quiet gone ∧ DifferOnlyIn "root" (lobby []) gone) ∧
      (buildSnapshot 0 quiet.state false "bob").nodes.map
        (fun n => (n.channel.clientCount, n.clients)) = [(1, 0)] ∧
      (buildSnapshot 0 gone.state false "bob").nodes.map
        (fun n => (n.channel.clientCount, n.clients)) = [(0, 0)] ∧
      (handleServerInfoQuery plainInfo quiet.state).clientsOnline = 2 ∧
      (handleServerInfoQuery plainInfo gone.state).clientsOnline = 1 ∧
      eventsTo (lobby []) guestBob "root" (.move 1 "") = [.userMoved "root" 0 1 ""] ∧
      eventsTo gone guestBob "root" (.move 1 "") = [] ∧
      eventsTo quiet guestBob "root" (.speak true 0) = [.speakingChanged "root" 1 true false] ∧
      eventsTo gone guestBob "root" (.speak true 0) = [] := by
  decide +kernel

end Voicx.Server
