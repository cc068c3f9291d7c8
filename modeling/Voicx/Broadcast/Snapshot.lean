import Voicx.Found.Tree
import Voicx.State.Manager

/-!
# Snapshots

Model of `internal/broadcast/snapshot.go`: the view of the channel tree and of the connected users
that is built for one viewer. "Invisible users (381) are hidden unless the viewer is an admin or the
invisible user themself".

* `clientToInfo` — what is sent of a client.
* `channelTreeOrdered` — the channels by parent, order index and id.
* `hiddenFrom`, `visibleClients` — who is left out for a viewer.
* `ChannelNode`, `TreeSnapshot`, `buildSnapshot` — the snapshot. A node embeds the channel record as
  the state manager holds it, `ClientCount` included.
* `buildSnapshot_congr` — a snapshot depends on the channels and on the visible clients only.

The nodes are pointers in the source; here a node names its children by id. The users are collected
by ranging over a map, so the ones of a node have no particular order: they are a multiset.

Source names without a file are from `internal/broadcast/snapshot.go`.
-/

namespace Voicx.Broadcast

open Found State

/-! ## Clients -/

/-- Source: `ClientInfo`
Fidelity: without `ConnectedAt`, which is copied -/
structure ClientInfo where
  clientID : String
  uniqueID : String
  nickname : String
  channelID : Int
  isSpeaking : Bool
  prioritySpeaker : Bool
  status : String
  statusMessage : String
  isBot : Bool
  deriving DecidableEq, Repr

/-- Source: `clientToInfo` -/
def clientToInfo (c : Client) : ClientInfo where
  clientID := c.clientID
  uniqueID := c.uniqueID
  nickname := c.nickname
  channelID := c.channelID
  isSpeaking := c.isSpeaking
  prioritySpeaker := c.prioritySpeaker
  status := c.status
  statusMessage := c.statusMessage
  isBot := c.isBot

/-- The clients a viewer does not get to see. -/
def hiddenFrom (forAdmin : Bool) (viewerUniqueID : String) (c : Client) : Bool :=
  c.status == "invisible" && !forAdmin && c.uniqueID != viewerUniqueID

/-- The clients a viewer gets to see. -/
def visibleClients (m : Manager) (forAdmin : Bool) (viewerUniqueID : String) : Multiset Client :=
  (m.clients.filter fun _ c => !hiddenFrom forAdmin viewerUniqueID c).entries.map Sigma.snd

/-! ## Channels -/

/-- The comparison of the channel list: by parent, then order index, then id. -/
def treeLess (a b : Channel) : Bool :=
  if a.parentID ≠ b.parentID then decide (a.parentID < b.parentID)
  else if a.orderIndex ≠ b.orderIndex then decide (a.orderIndex < b.orderIndex)
  else decide (a.channelID < b.channelID)

/-- All channels by parent, order index and id.
Source: `internal/state/types.go`, `ChannelTreeOrdered` -/
def channelTreeOrdered (m : Manager) : List Channel :=
  ((ascending m.channels.keys).filterMap m.channels.lookup).insertionSort
    fun a b => !treeLess b a

/-- A channel with its children and the users in it.
Source: `ChannelNode` -/
structure ChannelNode where
  channel : Channel
  children : List Int
  clients : Multiset ClientInfo
  deriving DecidableEq

/-- Source: `TreeSnapshot` -/
structure TreeSnapshot where
  rootChannels : List Int
  nodes : List ChannelNode
  unassignedClients : Multiset ClientInfo
  totalClients : Nat
  totalChannels : Nat
  generatedAt : Int
  deriving DecidableEq

/-! ## The snapshot -/

section build

variable (channels : List Channel) (clients : Multiset Client) (ch : Channel)

/-- A channel without a parent, or whose parent is missing. -/
def isRoot : Bool :=
  ch.parentID == 0 || !channels.any fun p => p.channelID == ch.parentID

/-- The children attached to a channel. -/
def childrenOf : List Int :=
  (channels.filter fun k => k.parentID != 0 && k.parentID == ch.channelID).map Channel.channelID

/-- The users of a channel; channel 0 is no channel. -/
def clientsOf : Multiset ClientInfo :=
  (clients.filter fun c => c.channelID ≠ 0 ∧ c.channelID = ch.channelID).map clientToInfo

/-- The node of a channel: the record itself, with the lock icon. -/
def nodeOf : ChannelNode where
  channel := { ch with hasPassword := ch.passwordHash != "" }
  children := childrenOf channels ch
  clients := clientsOf clients ch

end build

/-- Source: `BuildSnapshot` -/
def buildSnapshot (now : Int) (m : Manager) (forAdmin : Bool) (viewerUniqueID : String) :
    TreeSnapshot :=
  let channels := channelTreeOrdered m
  let clients := visibleClients m forAdmin viewerUniqueID
  { rootChannels := (channels.filter fun ch => isRoot channels ch).map Channel.channelID
    nodes := channels.map (nodeOf channels clients)
    unassignedClients := (clients.filter fun c => c.channelID = 0).map clientToInfo
    totalClients := clients.card
    totalChannels := channels.length
    generatedAt := now }

variable {m m' : Manager} {forAdmin : Bool} {viewerUniqueID : String}

/-- A snapshot reads the channels and the visible clients. -/
theorem buildSnapshot_congr (hchannels : m'.channels = m.channels)
    (hvisible : visibleClients m' forAdmin viewerUniqueID =
      visibleClients m forAdmin viewerUniqueID) (now : Int) :
    buildSnapshot now m' forAdmin viewerUniqueID = buildSnapshot now m forAdmin viewerUniqueID := by
  have hordered : channelTreeOrdered m' = channelTreeOrdered m := by
    rw [channelTreeOrdered, channelTreeOrdered, hchannels]
  rw [buildSnapshot, buildSnapshot, hordered, hvisible]

/-- **A hidden client is not looked at.** Two states whose clients differ at one id only, where it
is absent or hidden from the viewer, show the viewer the same clients. -/
theorem visibleClients_eq_of_hidden {id : String}
    (hothers : ∀ id' ≠ id, m'.clients.lookup id' = m.clients.lookup id')
    (hhidden : ∀ c, m.clients.lookup id = some c → hiddenFrom forAdmin viewerUniqueID c = true)
    (hhidden' : ∀ c, m'.clients.lookup id = some c → hiddenFrom forAdmin viewerUniqueID c = true) :
    visibleClients m' forAdmin viewerUniqueID = visibleClients m forAdmin viewerUniqueID := by
  have hsame : (m'.clients.filter fun _ c => !hiddenFrom forAdmin viewerUniqueID c) =
      m.clients.filter fun _ c => !hiddenFrom forAdmin viewerUniqueID c := by
    refine Finmap.ext_lookup fun id' => Option.ext fun c => ?_
    rw [FMap.lookup_filter_eq_some, FMap.lookup_filter_eq_some]
    by_cases hid : id' = id
    · subst hid
      constructor
      · rintro ⟨hc, hvis⟩
        simp [hhidden' c hc] at hvis
      · rintro ⟨hc, hvis⟩
        simp [hhidden c hc] at hvis
    · rw [hothers id' hid]
  rw [visibleClients, visibleClients, hsame]

end Voicx.Broadcast
