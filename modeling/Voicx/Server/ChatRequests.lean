import Voicx.Chat.Store
import Voicx.Server.ChatKeys
import Voicx.Server.Moves
import Voicx.Server.PermWrite
import Voicx.Server.Subscribing

/-!
# Chat requests

Model of the requests that read or write chat: `handleChatSend` of `internal/server/handlers.go`,
`routeScopedChat`, `handleChatEdit`, `handleChatReact`, `handleTyping`, `handleChatHistory` and
`handleChatPins` of `internal/server/chatx.go`, `scopeReadable` and `handleChatKeyRequest` of
`internal/server/e2e.go`.

* `ChatState`, `ChatConfig`, `ChatOracle` — the tables and keys, the settings, and what the
  environment decides in one request: failing calls, rate limits, who is online.
* `ChatOutcome` — the tables and keys afterwards, the events and their recipients, the reply.
* `scopeReadable` — the entitlement to a scope.
* `handleChatSend`, `handleTyping`, `handleChatHistory`, `handleChatPins`, `handleChatKeyRequest` —
  the requests that name their scope and ask `scopeReadable`.
* `handleChatEdit`, `handleChatReact` — the requests that name a message; neither asks.

Source names without a file are from `internal/server/chatx.go`.
-/

namespace Voicx.Server

open Chat

/-! ## The state, the settings, the environment -/

/-- Who sends a chat request.
Source: `internal/server/tcp.go`, `Client` -/
structure ChatCaller where
  clientID : String
  uniqueID : String
  username : String := ""
  session : Session

structure ChatState where
  world : World
  chat : ChatStore
  keys : ChatKeyManager

/-- The settings chat reads, the filters in force, and the cipher of the scope keys. -/
structure ChatConfig where
  guestGroupID : Int := 0
  chatAllowPlaintext : Bool := false
  /-- 0 for no limit -/
  chatMaxLength : Nat := 0
  /-- the text without attachment tokens. Source: `stripAttachmentRefs` -/
  stripAttachmentRefs : String → String := id
  /-- the text of the refusal. Source: `moderateBody` -/
  moderateBody : String → Option String := fun _ => none
  /-- decrypt under a generation of a scope -/
  openBody : Int → Nat → String → Option String
  sealBody : Int → Nat → String → String

/-- What an account lookup answers. -/
inductive AccountLookup
  | found
  | notFound
  | failed
  deriving DecidableEq, Repr

/-- What the environment decides in one request.
Fidelity: the calls of the key store do not fail; `KeyFaults` has them fail -/
structure ChatOracle where
  now : Nat := 0
  /-- the permission tables can be read -/
  loads : Bool := true
  /-- the chat tables can be read, the reactions of a page can, a write commits -/
  reads : Bool := true
  readsReactions : Bool := true
  writes : Bool := true
  writeError : String := ""
  chatRateOK : Bool := true
  typingRateOK : Bool := true
  /-- the seconds slow mode still asks for, if any -/
  slowWait : Option Nat := none
  spam : Bool := false
  mentions : List String := []
  /-- Source: `internal/server/tcp.go`, `clientByUniqueID`, `clientByID` -/
  clientByUniqueID : String → Option String := fun _ => none
  uniqueIDOf : String → Option String := fun _ => none
  account : AccountLookup := .notFound
  /-- a frame to a single client gets through -/
  delivers : Bool := true

/-- Source: `internal/netproto/codec.go`, `ChatSend` -/
structure ChatSend where
  channelID : String := ""
  toClientID : String := ""
  toUniqueID : String := ""
  text : String
  enc : Bool := false
  keyID : Nat := 0
  replyToID : Int := 0
  clientMsgID : String := ""
  deriving DecidableEq, Repr

/-- Source: `internal/netproto/codec.go`, `ChatEdit` -/
structure ChatEdit where
  messageID : Int
  newText : String
  enc : Bool := false
  keyID : Nat := 0
  expectedVersion : Nat := 0
  deriving DecidableEq, Repr

/-- Source: `internal/netproto/codec.go`, `ChatReact` -/
structure ChatReact where
  messageID : Int
  emoji : String
  deriving DecidableEq, Repr

/-- Source: `internal/netproto/codec.go`, `Typing` -/
structure Typing where
  channelID : Int := 0
  toUniqueID : String := ""
  deriving DecidableEq, Repr

/-- Source: `internal/netproto/codec.go`, `ChatHistory` -/
structure ChatHistory where
  channelID : Int
  beforeID : Int := 0
  limit : Int := 0
  deriving DecidableEq, Repr

inductive ChatRequest
  | send (msg : ChatSend)
  | edit (msg : ChatEdit)
  | react (msg : ChatReact)
  | typing (msg : Typing)
  | history (msg : ChatHistory)
  | pins (channelID : Int)
  | keyRequest (channelID : Int) (keyIDs : List Nat)
  deriving DecidableEq, Repr

/-! ## What a request leaves and sends -/

/-- Source: `internal/netproto/codec.go`, `ChatBroadcast` -/
structure ChatBroadcast where
  channelID : String
  direct : Bool := false
  toUniqueID : String := ""
  fromClientID : String
  fromUniqueID : String
  sender : String
  text : String
  enc : Bool
  keyID : Nat
  e2e : Bool := false
  id : Int := 0
  replyToID : Int := 0
  version : Nat := 0
  mentions : List String := []
  clientMsgID : String
  deriving DecidableEq, Repr

inductive ChatEvent
  | chat (msg : ChatBroadcast)
  | edited (messageID channelID : Int) (body : String) (keyID : Nat) (editedBy : String)
      (version : Nat)
  | reaction (messageID channelID : Int) (reactions : List (String × Nat)) (sender : String)
      (added : Bool)
  | typing (clientID uniqueID nickname : String) (channelID : Int)
  deriving DecidableEq, Repr

inductive Recipient
  | everyone
  /-- the members and subscribers of a channel.
  Source: `internal/server/subscriptions.go`, `broadcastChannelScoped` -/
  | channel (channelID : Int)
  | client (clientID : String)
  deriving DecidableEq, Repr

/-- Source: `internal/netproto/codec.go`, `ChatHistoryEntry` -/
structure ChatHistoryEntry where
  id : Int
  fromUniqueID : String
  fromNickname : String
  replyToID : Int
  version : Nat
  bodyEnc : String
  keyID : Nat
  sentAt : Int
  editedAt : Int
  deleted : Bool
  reactions : List (String × Nat)
  deriving DecidableEq, Repr

/-- A generation sealed to a public key.
Source: `internal/netproto/codec.go`, `ChannelKey` -/
structure ChannelKey where
  channelID : Int
  keyID : Nat
  sealedTo : String
  deriving DecidableEq, Repr

/-- Source: `internal/netproto/codec.go`, `ChatKeyBundle` -/
structure KeyBundle where
  keys : List ChannelKey := []
  refused : List Nat := []
  truncated : Bool := false
  deriving DecidableEq, Repr

/-- Source: `internal/netproto/codec.go`, `ChatPinEntry` -/
structure ChatPinEntry where
  messageID : Int
  pinnedBy : String
  pinnedAt : Int
  message : Option ChatHistoryEntry
  deriving DecidableEq, Repr

inductive ChatReply
  | error (reply : ErrorReply)
  | history (channelID : Int) (messages : List ChatHistoryEntry) (bundle : KeyBundle)
  | pins (channelID : Int) (pins : List ChatPinEntry) (bundle : KeyBundle)
  | keys (channelID : Int) (bundle : KeyBundle)
  deriving DecidableEq, Repr

/-- What a request leaves and sends. -/
structure ChatOutcome where
  chat : ChatStore
  keys : ChatKeyManager
  events : List (Recipient × ChatEvent) := []
  reply : Option ChatReply := none
  /-- unique id and ciphertext of direct messages kept for later -/
  spooled : List (String × String) := []

/-- A refusal; the key manager may have loaded a scope on the way. -/
def ChatState.refuse (cs : ChatState) (keys : ChatKeyManager) (code : ErrCode) (text : String) :
    ChatOutcome where
  chat := cs.chat
  keys := keys
  reply := some (.error ⟨code, text⟩)

/-- Nothing but events. -/
def ChatState.emit (cs : ChatState) (events : List (Recipient × ChatEvent)) : ChatOutcome where
  chat := cs.chat
  keys := cs.keys
  events := events

/-- Source: `broadcastScope` -/
def scopeRecipient (channelID : Int) : Recipient :=
  if channelID = 0 then .everyone else .channel channelID

/-! ## Shared checks -/

section shared

variable (cfg : ChatConfig) (cs : ChatState) (o : ChatOracle) (caller : ChatCaller)

/-- May the client read the scope's messages?
Source: `internal/server/e2e.go`, `scopeReadable` -/
def scopeReadable (scope : Int) : Bool :=
  if scope = 0 then true
  else match cs.world.state.chanOf caller.clientID with
    | none => false
    | some channelID =>
      channelID == scope ||
        (decide (scope ∈ cs.world.state.subs.elems caller.clientID) &&
          subscribeAllowed cfg.guestGroupID cs.world.db o.loads
            (cs.world.caller caller.clientID caller.session) scope)

/-- Source: `publishedKey` -/
def publishedKey : String :=
  match cs.world.state.getClient caller.clientID with
  | none => ""
  | some c => c.e2ePublicKey

def plaintextDisabled : String :=
  "plaintext chat is disabled on this server — update your client (chat encryption is mandatory)"

def noScopeKey : String := "no chat key for this channel yet — rejoin the channel"

variable (keys : ChatKeyManager) (msg : ChatSend)

/-- What the sender wrote: an encrypted body is decrypted under the generation it names.
Source: `internal/server/chatkeys.go`, `open` -/
def plainOf (scope : Int) (enc : Bool) (keyID : Nat) (text : String) :
    Option String × ChatKeyManager :=
  if enc then
    (if (keys.atGeneration scope keyID).1 then cfg.openBody scope keyID text else none,
      (keys.atGeneration scope keyID).2)
  else (some text, keys)

/-- The length limit and the filters. -/
def contentRefusal (plain : String) : Option String :=
  if 0 < cfg.chatMaxLength ∧ plain.utf8ByteSize > cfg.chatMaxLength then
    some ("message too long (max " ++ toString cfg.chatMaxLength ++ " bytes)")
  else cfg.moderateBody (cfg.stripAttachmentRefs plain)

/-- What is stored: the sender's ciphertext, or the text sealed under the current generation.
Source: `internal/server/chatkeys.go`, `seal` -/
def bodyToStore (scope : Int) (enc : Bool) (keyID : Nat) (text plain : String) :
    Option (String × Nat) × ChatKeyManager :=
  if enc then (some (text, keyID), keys)
  else ((keys.current scope).1.map fun id => (cfg.sealBody scope id plain, id),
    (keys.current scope).2)

/-! ## Sending -/

/-- Source: `internal/server/handlers.go`, `maxChatBytes` -/
def maxChatBytes : Nat := 16 * 1024

/-- What `handleChatSend` refuses before it looks at a scope. -/
def sendRefusal : Option ErrorReply :=
  if caller.session.rulesPending then
    some ⟨.permissionDenied, "accept the server rules before sending messages"⟩
  else if msg.text.utf8ByteSize > maxChatBytes then some ⟨.malformed, "chat message too large"⟩
  else if !msg.enc && !cfg.chatAllowPlaintext then some ⟨.permissionDenied, plaintextDisabled⟩
  else if msg.enc && msg.keyID == 0 && msg.channelID != "" then
    some ⟨.malformed, "channel chat requires a scope key id"⟩
  else if !o.chatRateOK then some ⟨.malformed, "chat rate limit exceeded — slow down"⟩
  else none

/-- The scope a message is for; no channel id is the global scope. -/
def ChatSend.scope : Option Int :=
  if msg.channelID = "" then some 0 else parseInt msg.channelID

/-- Source: `internal/permissions`, `PermissionKeyChatSlowmodeBypass` -/
def chatSlowmodeBypass : String := "b_chat_slowmode_bypass"

variable (channelID : Int)

/-- Slow mode. A failing permission load is not a bypass. -/
def slowModeRefusal : Option String :=
  if channelID = 0 then none
  else (cs.world.state.getChannel channelID).bind fun ch =>
    if 0 < ch.slowModeSeconds ∧ ¬(o.loads = true ∧ (permCheckerFor cfg.guestGroupID cs.world.db
        (cs.world.caller caller.clientID caller.session)).granted chatSlowmodeBypass = true) then
      o.slowWait.map fun wait =>
        "slow mode: wait " ++ toString (wait + 1) ++ "s before your next message in this channel"
    else none

/-- The parent of a reply is a live message of the same scope. -/
def replyRefusal (channelID replyToID : Int) : Option ErrorReply :=
  if replyToID = 0 then none
  else if !o.reads then some ⟨.unavailable, "reply target lookup failed"⟩
  else match cs.chat.getChatMessage replyToID with
    | none => some ⟨.malformed, "reply target is not in this chat"⟩
    | some parent =>
      if parent.deletedAt.isSome || parent.channelID != channelID then
        some ⟨.malformed, "reply target is not in this chat"⟩
      else none

/-- Store the message, then relay it; a retry is not relayed. -/
def storeAndRelay (body : String) (keyID : Nat) : ChatOutcome :=
  if !o.writes then cs.refuse keys .unavailable "message not stored — not delivered"
  else
    let ((id, inserted), chat) := cs.chat.storeChatMessage o.now channelID caller.uniqueID
      caller.username body keyID msg.replyToID msg.clientMsgID
    if !inserted then { chat, keys }
    else
      { chat, keys
        events := [(scopeRecipient channelID, .chat
          { channelID := if channelID = 0 then "" else toString channelID
            fromClientID := caller.clientID
            fromUniqueID := caller.uniqueID
            sender := caller.username
            text := body
            enc := true
            keyID
            id
            replyToID := msg.replyToID
            version := 1
            mentions := o.mentions
            clientMsgID := msg.clientMsgID })] }

/-- A message that passed moderation: sealed if it came in the clear, stored and relayed. -/
def relayModerated (plain : String) : ChatOutcome :=
  -- in the clear the scope gets its first generation here
  let keys := if msg.enc then keys else (keys.ensureScope o.now channelID).2
  match bodyToStore cfg keys channelID msg.enc msg.keyID msg.text plain with
  | (none, keys) => cs.refuse keys .unavailable "chat key unavailable"
  | (some (body, keyID), keys) =>
    match replyRefusal cs o channelID msg.replyToID with
    | some e => cs.refuse keys e.code e.message
    | none => storeAndRelay cs o caller keys msg channelID body keyID

/-- Source: `routeScopedChat` -/
def routeScopedChat : ChatOutcome :=
  match slowModeRefusal cfg cs o caller channelID with
  | some text => cs.refuse keys .malformed text
  | none =>
    match plainOf cfg keys channelID msg.enc msg.keyID msg.text with
    | (none, keys) => cs.refuse keys .malformed "message decryption failed (stale key?)"
    | (some plain, keys) =>
      match contentRefusal cfg plain with
      | some text => cs.refuse keys .malformed text
      | none =>
        if o.spam then
          cs.refuse keys .malformed "possible spam detected — please vary your messages"
        else relayModerated cfg cs o caller keys msg channelID plain

/-- The direct message, to its target and back to the sender. -/
def directEvent : ChatEvent :=
  .chat
    { channelID := msg.channelID
      direct := true
      toUniqueID := if msg.toUniqueID = "" then (o.uniqueIDOf msg.toClientID).getD ""
        else msg.toUniqueID
      fromClientID := caller.clientID
      fromUniqueID := caller.uniqueID
      sender := caller.username
      text := msg.text
      enc := msg.enc
      keyID := msg.keyID
      e2e := msg.enc
      clientMsgID := msg.clientMsgID }

/-- A frame to one client and an echo. -/
def deliverDirect (clientID : String) : ChatOutcome :=
  if o.delivers then
    cs.emit [(.client clientID, directEvent o caller msg),
      (.client caller.clientID, directEvent o caller msg)]
  else cs.refuse cs.keys .notFound "target client not reachable"

/-- Source: `internal/server/handlers.go`, `sendDirectByUniqueID` -/
def sendDirectByUniqueID : ChatOutcome :=
  match o.clientByUniqueID msg.toUniqueID with
  | some clientID => deliverDirect cs o caller msg clientID
  | none =>
    match o.account with
    | .notFound => cs.refuse cs.keys .notFound "target user not found"
    | .failed => cs.refuse cs.keys .unavailable "user lookup failed"
    | .found =>
      if !msg.enc then
        cs.refuse cs.keys .permissionDenied ("target user is offline and plaintext direct " ++
          "messages are never spooled — encrypt the message")
      else if !o.writes then cs.refuse cs.keys .unavailable "spooling message failed"
      else { chat := cs.chat, keys := cs.keys, spooled := [(msg.toUniqueID, msg.text)] }

/-- A message for a scope: the entitlement first, then the generation. -/
def sendScoped (channelID : Int) : ChatOutcome :=
  if !scopeReadable cfg cs o caller channelID then
    cs.refuse cs.keys .permissionDenied "not a member or subscriber of this channel"
  else if msg.enc then
    match cs.keys.current channelID with
    | (none, keys) => cs.refuse keys .unavailable noScopeKey
    | (some currentID, keys) =>
      if msg.keyID ≠ currentID then
        cs.refuse keys .malformed ("stale chat key for " ++
          (if channelID = 0 then "global scope" else "channel") ++
          " (key rotated; wait for re-key)")
      else routeScopedChat cfg cs o caller keys msg channelID
  else routeScopedChat cfg cs o caller cs.keys msg channelID

/-- Source: `internal/server/handlers.go`, `handleChatSend` -/
def handleChatSend : ChatOutcome :=
  match sendRefusal cfg o caller msg with
  | some e => cs.refuse cs.keys e.code e.message
  | none =>
    if msg.toUniqueID ≠ "" then sendDirectByUniqueID cs o caller msg
    else if msg.toClientID ≠ "" then deliverDirect cs o caller msg msg.toClientID
    else match msg.scope with
      | none => cs.refuse cs.keys .malformed ("invalid channel_id: " ++ msg.channelID)
      | some channelID => sendScoped cfg cs o caller msg channelID

/-! ## Editing, reacting, typing -/

/-- The message a request may act on: stored and not deleted. -/
def liveMessage (messageID : Int) : Option ChatMessage :=
  (cs.chat.getChatMessage messageID).filter fun m => m.deletedAt.isNone

variable (msg : ChatEdit)

/-- A body of the current generation, or in the clear: decrypted, checked for length and filters,
and what is stored for it. -/
def moderatedBody (scope : Int) : Except ErrorReply (String × Nat) × ChatKeyManager :=
  match plainOf cfg keys scope msg.enc msg.keyID msg.newText with
  | (none, keys) => (.error ⟨.malformed, "message decryption failed (stale key?)"⟩, keys)
  | (some plain, keys) =>
    match contentRefusal cfg plain with
    | some text => (.error ⟨.malformed, text⟩, keys)
    | none =>
      match bodyToStore cfg keys scope msg.enc msg.keyID msg.newText plain with
      | (none, keys) => (.error ⟨.unavailable, "chat key unavailable"⟩, keys)
      | (some body, keys) => (.ok body, keys)

/-- The new body of an edit. An encrypted one names the current generation of the scope. -/
def editedBody (scope : Int) : Except ErrorReply (String × Nat) × ChatKeyManager :=
  if msg.enc then
    match cs.keys.current scope with
    | (none, keys) => (.error ⟨.unavailable, noScopeKey⟩, keys)
    | (some currentID, keys) =>
      if msg.keyID ≠ currentID then
        (.error ⟨.malformed, "stale chat key for channel (key rotated; wait for re-key)"⟩, keys)
      else moderatedBody cfg keys msg scope
  else moderatedBody cfg cs.keys msg scope

/-- The end of an edit: the write, then the event to the scope of the stored message. -/
def applyEdit (scope : Int) (body : String) (keyID : Nat) : ChatOutcome :=
  if !o.writes then cs.refuse keys .notFound ("edit failed: editing chat message: " ++ o.writeError)
  else match cs.chat.editChatMessage o.now msg.messageID body keyID msg.expectedVersion with
    | none => cs.refuse keys .conflict "message changed on another client; reload before editing"
    | some (version, chat) =>
      { chat, keys
        events := [(scopeRecipient scope,
          .edited msg.messageID scope body keyID caller.uniqueID version)] }

/-- Source: `handleChatEdit` -/
def handleChatEdit : ChatOutcome :=
  if !msg.enc && !cfg.chatAllowPlaintext then
    cs.refuse cs.keys .permissionDenied plaintextDisabled
  else if !o.reads then cs.refuse cs.keys .unavailable "message lookup failed"
  else match liveMessage cs msg.messageID with
    | none => cs.refuse cs.keys .notFound "message not found"
    | some stored =>
      if stored.fromUniqueID ≠ caller.uniqueID then
        cs.refuse cs.keys .permissionDenied "you can only edit your own messages"
      else match editedBody cfg cs msg stored.channelID with
        | (.error e, keys) => cs.refuse keys e.code e.message
        | (.ok (body, keyID), keys) =>
          applyEdit cs o caller keys msg stored.channelID body keyID

/-- Source: `handleChatReact` -/
def handleChatReact (msg : ChatReact) : ChatOutcome :=
  if msg.emoji = "" ∨ msg.emoji.length > 32 then cs.refuse cs.keys .malformed "invalid emoji"
  else if !o.reads then cs.refuse cs.keys .notFound "message not found"
  else match liveMessage cs msg.messageID with
    | none => cs.refuse cs.keys .notFound "message not found"
    | some stored =>
      if !o.writes then cs.refuse cs.keys .unavailable "reaction failed"
      else
        let ((counts, added), chat) :=
          cs.chat.toggleReaction msg.messageID caller.uniqueID msg.emoji
        { chat
          keys := cs.keys
          events := [(scopeRecipient stored.channelID,
            .reaction msg.messageID stored.channelID counts caller.uniqueID added)] }

/-- Source: `handleTyping` -/
def handleTyping (msg : Typing) : ChatOutcome :=
  let event := ChatEvent.typing caller.clientID caller.uniqueID caller.username msg.channelID
  if !o.typingRateOK then cs.emit []
  else if msg.toUniqueID ≠ "" then
    match o.clientByUniqueID msg.toUniqueID with
    | none => cs.emit []
    | some clientID => cs.emit [(.client clientID, event)]
  else if msg.channelID ≠ 0 then
    if scopeReadable cfg cs o caller msg.channelID then
      cs.emit [(.channel msg.channelID, event)]
    else cs.emit []
  else cs.emit [(.everyone, event)]

/-! ## Reading -/

/-- Source: `chatHistoryEntry` -/
def chatHistoryEntry (m : ChatMessage) (reactions : List (String × Nat)) : ChatHistoryEntry where
  id := m.id
  fromUniqueID := m.fromUniqueID
  fromNickname := m.fromNickname
  replyToID := m.replyToID
  version := m.version
  bodyEnc := if m.deletedAt.isSome then "" else m.bodyEnc
  keyID := if m.deletedAt.isSome then 0 else m.keyID
  sentAt := m.sentAt
  editedAt := m.editedAt.getD 0
  deleted := m.deletedAt.isSome
  reactions := reactions

/-- Source: `maxKeysPerResponse` -/
def maxKeysPerResponse : Nat := 64

/-- Seal one generation, or note that it cannot be.
Source: `internal/server/chatkeys.go`, `sealFor` -/
def sealInto (scope : Int) (memberPub : String) (acc : KeyBundle × ChatKeyManager) (gen : Nat) :
    KeyBundle × ChatKeyManager :=
  if (acc.2.atGeneration scope gen).1 then
    ({ acc.1 with keys := acc.1.keys ++ [⟨scope, gen, memberPub⟩] }, (acc.2.atGeneration scope gen).2)
  else ({ acc.1 with refused := acc.1.refused ++ [gen] }, (acc.2.atGeneration scope gen).2)

/-- The loop of `scopeKeyBundle`: the cap is truncation, not refusal. -/
def sealUpTo (scope : Int) (memberPub : String) :
    List Nat → KeyBundle × ChatKeyManager → KeyBundle × ChatKeyManager
  | [], acc => acc
  | gen :: rest, acc =>
    if acc.1.keys.length ≥ maxKeysPerResponse then ({ acc.1 with truncated := true }, acc.2)
    else sealUpTo scope memberPub rest (sealInto scope memberPub acc gen)

/-- The generations of a page: the newest first while they are sealed, the oldest first in the
reply. Source: `scopeKeyBundle` -/
def scopeKeyBundle (scope : Int) (memberPub : String) (gens : List Nat) :
    KeyBundle × ChatKeyManager :=
  let (bundle, keys) :=
    sealUpTo scope memberPub (gens.dedup.insertionSort (· ≥ ·)) ({}, keys)
  ({ bundle with
      keys := bundle.keys.insertionSort (·.keyID ≤ ·.keyID)
      refused := bundle.refused.insertionSort (· ≤ ·) }, keys)

/-- Source: `handleChatHistory` -/
def handleChatHistory (msg : ChatHistory) : ChatOutcome :=
  if !scopeReadable cfg cs o caller msg.channelID then
    cs.refuse cs.keys .permissionDenied "not a member of this channel"
  else if publishedKey cs caller = "" then
    cs.refuse cs.keys .permissionDenied "publish an encryption key before reading history"
  else if !o.reads then cs.refuse cs.keys .unavailable "history query failed"
  else
    let limit :=
      if caller.session.userID = 0 ∧ (msg.limit ≤ 0 ∨ msg.limit > 50) then 50 else msg.limit
    let entries := (cs.chat.chatHistory msg.channelID msg.beforeID limit).map fun m =>
      chatHistoryEntry m (if o.readsReactions then cs.chat.queryReactions m.id else [])
    let (bundle, keys) := scopeKeyBundle cs.keys msg.channelID (publishedKey cs caller)
      ((entries.map ChatHistoryEntry.keyID).filter (· ≠ 0))
    { chat := cs.chat, keys, reply := some (.history msg.channelID entries bundle) }

/-- A pin with the message it names, if that is still there. -/
def chatPinEntry (p : Pin × Option ChatMessage) : ChatPinEntry where
  messageID := p.1.messageID
  pinnedBy := p.1.pinnedBy
  pinnedAt := p.1.pinnedAt
  message := p.2.map fun m => chatHistoryEntry m []

/-- Source: `handleChatPins` -/
def handleChatPins (channelID : Int) : ChatOutcome :=
  if !scopeReadable cfg cs o caller channelID then
    cs.refuse cs.keys .permissionDenied "not a member of this channel"
  else if publishedKey cs caller = "" then
    cs.refuse cs.keys .permissionDenied "publish an encryption key before reading history"
  else if !o.reads then cs.refuse cs.keys .unavailable "pins query failed"
  else
    let entries := (cs.chat.chatPins channelID).map chatPinEntry
    let (bundle, keys) := scopeKeyBundle cs.keys channelID (publishedKey cs caller)
      ((entries.filterMap fun e => e.message.map ChatHistoryEntry.keyID).filter (· ≠ 0))
    { chat := cs.chat, keys, reply := some (.pins channelID entries bundle) }

/-- Source: `internal/server/e2e.go`, `handleChatKeyRequest` -/
def handleChatKeyRequest (channelID : Int) (keyIDs : List Nat) : ChatOutcome :=
  if keyIDs.length = 0 ∨ keyIDs.length > maxKeysPerResponse then
    cs.refuse cs.keys .malformed "key_ids count must be 1..64"
  else if !o.chatRateOK then
    cs.refuse cs.keys .malformed "chat rate limit exceeded — slow down"
  else if publishedKey cs caller = "" then
    cs.refuse cs.keys .permissionDenied "e2e public key not published"
  else if !scopeReadable cfg cs o caller channelID then
    { chat := cs.chat, keys := cs.keys, reply := some (.keys channelID { refused := keyIDs }) }
  else
    let (bundle, keys) :=
      keyIDs.foldl (sealInto channelID (publishedKey cs caller)) ({}, cs.keys)
    { chat := cs.chat, keys, reply := some (.keys channelID bundle) }

/-- The handler of each request. -/
def handleChat : ChatRequest → ChatOutcome
  | .send msg => handleChatSend cfg cs o caller msg
  | .edit msg => handleChatEdit cfg cs o caller msg
  | .react msg => handleChatReact cs o caller msg
  | .typing msg => handleTyping cfg cs o caller msg
  | .history msg => handleChatHistory cfg cs o caller msg
  | .pins channelID => handleChatPins cfg cs o caller channelID
  | .keyRequest channelID keyIDs => handleChatKeyRequest cfg cs o caller channelID keyIDs

end shared

end Voicx.Server
