import Voicx.Broadcast.Queue
import Voicx.Found.Run
import Voicx.Server.Reply

/-!
# Direct messages and the offline spool

A direct message to a user who is online goes into the queue of one of the user's connections; one
to a user who is offline is stored in the table `offline_messages`. A login reads the undelivered
messages of the user, puts one after another into the queue of its connection, and marks those that
the queue took as delivered (`internal/server/handlers.go`, `sendDirectByUniqueID` and
`deliverSpooled`). Sends, logins, the writers of the connections and their ends run concurrently.

* `SpoolRow`, `IsPending`, `markMessagesDelivered` — the table and its queries.
* `Connection` — a connection with its queue and the stage of its login.
* `SendStage` — a call of `sendDirectByUniqueID`.
* `SpoolServer`, `SpoolServer.step` — the server and its steps.

Source names without a file are from `internal/store/store.go`.
-/

namespace Voicx.Server.Spool

open Broadcast

/-! ## The table -/

/-- A row of the table. `delivered` says that `delivered_at` is set.
Source: `internal/store/migrations/001_init.sql`, `offline_messages` -/
structure SpoolRow where
  id : Int
  fromUserID : Int
  toUserID : Int
  fromUniqueID : String
  message : String
  sentAt : Int
  delivered : Bool := false
  deriving DecidableEq, Repr

/-- Source: `SpooledMessage` -/
structure SpooledMessage where
  id : Int
  fromUserID : Int
  fromUniqueID : String
  fromName : String
  message : String
  sentAt : Int
  deriving DecidableEq, Repr

/-- The row as it is read, with the nickname that its sender has. -/
def SpoolRow.toMessage (nickname : Int → String) (row : SpoolRow) : SpooledMessage where
  id := row.id
  fromUserID := row.fromUserID
  fromUniqueID := row.fromUniqueID
  fromName := nickname row.fromUserID
  message := row.message
  sentAt := row.sentAt

/-- The undelivered rows of a user. -/
def pendingRows (spool : List SpoolRow) (userID : Int) : List SpoolRow :=
  spool.filter fun row => row.toUserID == userID && !row.delivered

/-- A result of the query for the undelivered messages: ordered by `sent_at`, and in any order where
that is equal.
Source: `PendingMessages` -/
def IsPending (spool : List SpoolRow) (userID : Int) (nickname : Int → String)
    (messages : List SpooledMessage) : Prop :=
  messages.Perm ((pendingRows spool userID).map (SpoolRow.toMessage nickname)) ∧
    messages.Pairwise fun m m' => m.sentAt ≤ m'.sentAt

instance (spool : List SpoolRow) (userID : Int) (nickname : Int → String)
    (messages : List SpooledMessage) : Decidable (IsPending spool userID nickname messages) :=
  inferInstanceAs (Decidable (_ ∧ _))

/-- The row after the marking of `ids`. -/
def SpoolRow.mark (ids : List Int) (row : SpoolRow) : SpoolRow :=
  if row.id ∈ ids then { row with delivered := true } else row

/-- Source: `MarkMessagesDelivered` -/
def markMessagesDelivered (ids : List Int) (spool : List SpoolRow) : List SpoolRow :=
  spool.map (SpoolRow.mark ids)

/-- How a write to the table ends. A call can report an error although its statement was
committed. -/
inductive WriteResult
  | done
  | failed
  | unreported
  deriving DecidableEq, Repr

/-- The statement was committed. -/
def WriteResult.committed : WriteResult → Bool
  | .done | .unreported => true
  | .failed => false

/-- The call returned no error. -/
def WriteResult.reported : WriteResult → Bool
  | .done => true
  | .failed | .unreported => false

/-! ## Connections -/

/-- A direct message, with its sender's connection. -/
structure DirectMessage where
  sender : ℕ
  fromUserID : Int
  fromUniqueID : String
  toUniqueID : String
  text : String
  enc : Bool
  deriving DecidableEq, Repr

/-- The row of a message that is spooled. -/
def DirectMessage.row (m : DirectMessage) (id userID sentAt : Int) : SpoolRow where
  id := id
  fromUserID := m.fromUserID
  toUserID := userID
  fromUniqueID := m.fromUniqueID
  message := m.text
  sentAt := sentAt

/-- What is sent through the queue of a client: a spooled message, the direct message of a call, or
another event. -/
inductive Payload
  | spooled (m : SpooledMessage)
  | direct (call : ℕ) (m : DirectMessage)
  | event
  deriving DecidableEq, Repr

/-- A guest has no account. -/
structure Identity where
  uniqueID : String
  userID : Option Int
  deriving DecidableEq, Repr

/-- How far the handler of a login has come. While it delivers, `rest` are the messages that it
still has to put into the queue and `ids` those the queue took. `skipped` says that the queue has
refused one, and `failed` that the marking returned an error; no step reads them. Source:
`internal/server/handlers.go`, `finishAuth`, `deliverSpooled` -/
inductive LoginStage
  | connected
  | authenticated
  | registered
  | delivering (rest : List SpooledMessage) (ids : List Int) (skipped : Bool)
  | finished (failed : Bool)
  deriving DecidableEq, Repr

/-- The login of a handler that leaves. -/
def LoginStage.left : LoginStage → LoginStage
  | .finished failed => .finished failed
  | _ => .finished false

/-- A connection, its queue, and its login. -/
structure Connection where
  identity : Option Identity := none
  /-- writes can succeed -/
  isOpen : Bool := true
  out : ClientQueue Payload := {}
  stage : LoginStage := .connected
  deriving DecidableEq, Repr

namespace Connection

variable (conn : Connection)

def uniqueID : Option String := conn.identity.map Identity.uniqueID

def userID : Option Int := conn.identity.bind Identity.userID

/-- What is in the queue can still be written. -/
def isUp : Bool := conn.isOpen && conn.out.writing

end Connection

/-- Where a call of `sendDirectByUniqueID` is, or how it ended. -/
inductive SendStage
  | idle
  | relay (m : DirectMessage) (target : ℕ)
  | lookup (m : DirectMessage)
  | spool (m : DirectMessage) (userID : Int)
  /-- put into the queue of a connection -/
  | relayed (m : DirectMessage)
  /-- stored as the row -/
  | spooled (m : DirectMessage) (row : SpoolRow)
  | refused (m : DirectMessage) (reply : ErrorReply)
  deriving DecidableEq, Repr

/-- What the lookup of an account returns. -/
inductive LookupResult
  | found (userID : Int)
  | notFound
  | failed
  deriving DecidableEq, Repr

/-! ## The server -/

/-- The table, the registry of connections, and the calls. `clients` are the connections that
`clientByUniqueID` ranges over. -/
structure SpoolServer where
  spool : List SpoolRow := []
  nextID : Int := 1
  clients : List ℕ := []
  conns : ℕ → Option Connection := fun _ => none
  calls : ℕ → SendStage := fun _ => .idle

inductive SpoolEvent
  | connect (c : ℕ)
  | authenticate (c : ℕ) (identity : Identity)
  /-- `ok` says whether the broadcaster registers the client -/
  | register (c : ℕ) (ok : Bool)
  /-- the undelivered messages are read, or the query fails -/
  | pending (c : ℕ) (nickname : Int → String) (result : Option (List SpooledMessage))
  | enqueue (c : ℕ)
  | mark (c : ℕ) (result : WriteResult)
  /-- another event for the client -/
  | broadcast (c : ℕ)
  | take (c : ℕ)
  | write (c : ℕ) (ok : Bool)
  /-- the connection breaks or is closed -/
  | close (c : ℕ)
  | unregister (c : ℕ)
  | onDisconnect (c : ℕ)
  /-- `pick` is where the range over the registry starts -/
  | send (k : ℕ) (m : DirectMessage) (pick : ℕ)
  | relay (k : ℕ)
  | lookup (k : ℕ) (result : LookupResult)
  | spool (k : ℕ) (result : WriteResult) (sentAt : Int)

namespace SpoolServer

variable (s : SpoolServer) (c : ℕ) (conn : Connection)

def setConn : SpoolServer :=
  { s with conns := Function.update s.conns c (some conn) }

variable (k : ℕ)

def setCall (stage : SendStage) : SpoolServer :=
  { s with calls := Function.update s.calls k stage }

/-! ### Sends -/

/-- Some connection of the user; a map is ranged over in any order.
Source: `internal/server/tcp.go`, `clientByUniqueID` -/
def clientByUniqueID (uniqueID : String) (pick : ℕ) : Option ℕ :=
  let found := s.clients.filter fun c => (s.conns c).bind Connection.uniqueID == some uniqueID
  found[pick]?.or found.head?

/-- A payload for one client; none of the callers here looks at why it is refused.
Source: `internal/broadcast/broadcaster.go`, `BroadcastToClient` -/
def broadcastToClient (payload : Payload) : Option SpoolServer :=
  match s.conns c with
  | none => none
  | some conn =>
    match conn.out.broadcastToClient payload with
    | .ok out => some (s.setConn c { conn with out })
    | .error _ => none

variable (m : DirectMessage)

/-- The message goes to a connection of the user, and back to its sender. -/
def relayDirect (target : ℕ) : SpoolServer :=
  match s.broadcastToClient target (.direct k m) with
  | none => s.setCall k (.refused m ⟨.notFound, "target client not reachable"⟩)
  | some s' => ((s'.broadcastToClient m.sender (.direct k m)).getD s').setCall k (.relayed m)

def lookupUser : LookupResult → SpoolServer
  | .found userID =>
    if m.enc then s.setCall k (.spool m userID)
    else s.setCall k (.refused m ⟨.permissionDenied, "target user is offline and plaintext direct " ++
      "messages are never spooled — encrypt the message"⟩)
  | .notFound => s.setCall k (.refused m ⟨.notFound, "target user not found"⟩)
  | .failed => s.setCall k (.refused m ⟨.unavailable, "user lookup failed"⟩)

/-- Source: `SpoolMessage` -/
def spoolMessage (row : SpoolRow) : SpoolServer :=
  { s with spool := s.spool ++ [row], nextID := s.nextID + 1 }

def storeDirect (userID : Int) (result : WriteResult) (sentAt : Int) : SpoolServer :=
  let row := m.row s.nextID userID sentAt
  (if result.committed then s.spoolMessage row else s).setCall k
    (if result.reported then .spooled m row
    else .refused m ⟨.unavailable, "spooling message failed"⟩)

/-- Source: `internal/server/handlers.go`, `sendDirectByUniqueID` -/
def startSend (pick : ℕ) : SpoolServer :=
  match s.clientByUniqueID m.toUniqueID pick with
  | some target => s.setCall k (.relay m target)
  | none => s.setCall k (.lookup m)

/-! ### Logins -/

/-- The messages that the login will deliver. A guest has none, and a query that fails is given
up. -/
def readPending (nickname : Int → String) (result : Option (List SpooledMessage)) : SpoolServer :=
  match conn.userID, result with
  | some userID, some messages =>
    if IsPending s.spool userID nickname messages then
      s.setConn c { conn with
        stage := if messages = [] then .finished false else .delivering messages [] false }
    else s
  | _, _ => s.setConn c { conn with stage := .finished false }

/-- The next message goes into the queue; one that the queue refuses is passed over. -/
def enqueueNext (conn : Connection) (m : SpooledMessage) (rest : List SpooledMessage)
    (ids : List Int) (skipped : Bool) : SpoolServer :=
  match conn.out.broadcastToClient (.spooled m) with
  | .ok out => s.setConn c { conn with out, stage := .delivering rest (ids ++ [m.id]) skipped }
  | .error _ => s.setConn c { conn with stage := .delivering rest ids true }

/-- What the queue took is marked. -/
def markDelivered (ids : List Int) (result : WriteResult) : SpoolServer :=
  if ids = [] then s.setConn c { conn with stage := .finished false }
  else
    { s with spool := if result.committed then markMessagesDelivered ids s.spool else s.spool }.setConn
      c { conn with stage := .finished (!result.reported) }

/-- The next step of a login.
Source: `internal/server/handlers.go`, `finishAuth`, `deliverSpooled` -/
def stepLogin (c : ℕ) (conn : Connection) : SpoolEvent → SpoolServer
  | .authenticate _ identity => match conn.stage with
      | .connected => s.setConn c { conn with identity := some identity, stage := .authenticated }
      | _ => s
  | .register _ ok => match conn.stage with
      | .authenticated =>
        s.setConn c { conn with
          out := if ok then conn.out.register else conn.out, stage := .registered }
      | _ => s
  | .pending _ nickname result => match conn.stage with
      | .registered => s.readPending c conn nickname result
      | _ => s
  | .enqueue _ => match conn.stage with
      | .delivering (m :: rest) ids skipped => s.enqueueNext c conn m rest ids skipped
      | _ => s
  | .mark _ result => match conn.stage with
      | .delivering [] ids _ => s.markDelivered c conn ids result
      | _ => s
  | _ => s

/-! ### Connections -/

/-- A connection's handler leaves after it has closed the connection: at any time but while it
delivers, since a login that has not come so far can fail.
Source: `internal/server/tcp.go`, `handleConn`, `onDisconnect`; `internal/server/handlers.go`,
`broadcastWriter` -/
def stepConn (c : ℕ) (conn : Connection) : SpoolEvent → SpoolServer
  | .take _ => s.setConn c { conn with out := conn.out.take }
  | .write _ ok => s.setConn c { conn with out := conn.out.write (ok && conn.isOpen) }
  | .close _ => s.setConn c { conn with isOpen := false }
  | .unregister _ => match conn.isOpen, conn.stage with
      | true, _ | _, .delivering _ _ _ => s
      | _, stage =>
        { s with clients := s.clients.filter (· ≠ c) }.setConn c { conn with stage := stage.left }
  | .onDisconnect _ =>
    if c ∈ s.clients then s else s.setConn c { conn with out := conn.out.unregister }
  | _ => s

/-- One step. -/
def step (event : SpoolEvent) : SpoolServer :=
  match event with
  | .connect c => match s.conns c with
      | none => { s with clients := c :: s.clients }.setConn c {}
      | some _ => s
  | .authenticate c _ | .register c _ | .pending c _ _ | .enqueue c | .mark c _ =>
    match s.conns c with
    | some conn => s.stepLogin c conn event
    | none => s
  | .take c | .write c _ | .close c | .unregister c | .onDisconnect c => match s.conns c with
      | some conn => s.stepConn c conn event
      | none => s
  | .broadcast c => (s.broadcastToClient c .event).getD s
  | .send k m pick => match s.calls k with
      | .idle => s.startSend k m pick
      | _ => s
  | .relay k => match s.calls k with
      | .relay m target => s.relayDirect k m target
      | _ => s
  | .lookup k result => match s.calls k with
      | .lookup m => s.lookupUser k m result
      | _ => s
  | .spool k result sentAt => match s.calls k with
      | .spool m userID => s.storeDirect k m userID result sentAt
      | _ => s

/-- A payload that is taken goes to the end of the client's channel. -/
lemma broadcastToClient_eq_some {s s' : SpoolServer} {c : ℕ} {payload : Payload}
    (h : s.broadcastToClient c payload = some s') :
    ∃ conn, s.conns c = some conn ∧ s' = s.setConn c { conn with
      out := { conn.out with buffer := conn.out.buffer ++ [payload] } } := by
  unfold broadcastToClient at h
  split at h
  · cases h
  rename_i conn hc
  split at h
  · rename_i hout
    cases h
    exact ⟨conn, hc, by rw [ClientQueue.broadcastToClient_eq_ok hout]⟩
  · cases h

/-- What a step does: one case for each way in which the state changes. -/
inductive Effect : SpoolEvent → SpoolServer → Prop
  | stay (event : SpoolEvent) : Effect event s
  | connect {c : ℕ} (hc : s.conns c = none) :
      Effect (.connect c) ({ s with clients := c :: s.clients }.setConn c {})
  | authenticate {c : ℕ} {conn : Connection} {identity : Identity} (hc : s.conns c = some conn)
      (hstage : conn.stage = .connected) :
      Effect (.authenticate c identity)
        (s.setConn c { conn with identity := some identity, stage := .authenticated })
  | register {c : ℕ} {conn : Connection} {ok : Bool} (hc : s.conns c = some conn)
      (hstage : conn.stage = .authenticated) :
      Effect (.register c ok) (s.setConn c { conn with
        out := if ok then conn.out.register else conn.out, stage := .registered })
  | pending {c : ℕ} {conn : Connection} {nickname : Int → String}
      {result : Option (List SpooledMessage)} (hc : s.conns c = some conn)
      (hstage : conn.stage = .registered) :
      Effect (.pending c nickname result) (s.readPending c conn nickname result)
  | enqueue {c : ℕ} {conn : Connection} {m : SpooledMessage} {rest : List SpooledMessage}
      {ids : List Int} {skipped : Bool} (hc : s.conns c = some conn)
      (hstage : conn.stage = .delivering (m :: rest) ids skipped) :
      Effect (.enqueue c) (s.enqueueNext c conn m rest ids skipped)
  | mark {c : ℕ} {conn : Connection} {ids : List Int} {skipped : Bool} {result : WriteResult}
      (hc : s.conns c = some conn) (hstage : conn.stage = .delivering [] ids skipped) :
      Effect (.mark c result) (s.markDelivered c conn ids result)
  | broadcast {c : ℕ} {s' : SpoolServer} (h : s.broadcastToClient c .event = some s') :
      Effect (.broadcast c) s'
  | take {c : ℕ} {conn : Connection} (hc : s.conns c = some conn) :
      Effect (.take c) (s.setConn c { conn with out := conn.out.take })
  | write {c : ℕ} {conn : Connection} {ok : Bool} (hc : s.conns c = some conn) :
      Effect (.write c ok) (s.setConn c { conn with out := conn.out.write (ok && conn.isOpen) })
  | close {c : ℕ} {conn : Connection} (hc : s.conns c = some conn) :
      Effect (.close c) (s.setConn c { conn with isOpen := false })
  | unregister {c : ℕ} {conn : Connection} (hc : s.conns c = some conn)
      (hstage : ∀ rest ids skipped, conn.stage ≠ .delivering rest ids skipped) :
      Effect (.unregister c) ({ s with clients := s.clients.filter (· ≠ c) }.setConn c
        { conn with stage := conn.stage.left })
  | onDisconnect {c : ℕ} {conn : Connection} (hc : s.conns c = some conn) :
      Effect (.onDisconnect c) (s.setConn c { conn with out := conn.out.unregister })
  | send {k : ℕ} {m : DirectMessage} {pick : ℕ} (hk : s.calls k = .idle) :
      Effect (.send k m pick) (s.startSend k m pick)
  | relay {k : ℕ} {m : DirectMessage} {target : ℕ} (hk : s.calls k = .relay m target) :
      Effect (.relay k) (s.relayDirect k m target)
  | lookup {k : ℕ} {m : DirectMessage} {result : LookupResult} (hk : s.calls k = .lookup m) :
      Effect (.lookup k result) (s.lookupUser k m result)
  | spool {k : ℕ} {m : DirectMessage} {userID : Int} {result : WriteResult} {sentAt : Int}
      (hk : s.calls k = .spool m userID) :
      Effect (.spool k result sentAt) (s.storeDirect k m userID result sentAt)

/-- A step of a connection does nothing if there is none. -/
lemma effect_conn {event : SpoolEvent} {c : ℕ} {f : Connection → SpoolServer}
    (h : ∀ conn, s.conns c = some conn → s.Effect event (f conn)) :
    s.Effect event (match s.conns c with | some conn => f conn | none => s) := by
  cases hc : s.conns c with
  | none => exact .stay _
  | some conn => exact h conn hc

lemma effect_step (event : SpoolEvent) : s.Effect event (s.step event) := by
  cases event with
  | connect c =>
    cases hc : s.conns c with
    | none => simpa only [step, hc] using .connect hc
    | some conn => simpa only [step, hc] using .stay _
  | authenticate c identity =>
    refine s.effect_conn fun conn hc => ?_
    simp only [stepLogin]
    split
    · exact .authenticate hc ‹_›
    · exact .stay _
  | register c ok =>
    refine s.effect_conn fun conn hc => ?_
    simp only [stepLogin]
    split
    · exact .register hc ‹_›
    · exact .stay _
  | pending c nickname result =>
    refine s.effect_conn fun conn hc => ?_
    simp only [stepLogin]
    split
    · exact .pending hc ‹_›
    · exact .stay _
  | enqueue c =>
    refine s.effect_conn fun conn hc => ?_
    simp only [stepLogin]
    split
    · exact .enqueue hc ‹_›
    · exact .stay _
  | mark c result =>
    refine s.effect_conn fun conn hc => ?_
    simp only [stepLogin]
    split
    · exact .mark hc ‹_›
    · exact .stay _
  | broadcast c =>
    cases h : s.broadcastToClient c .event with
    | none => simpa only [step, h, Option.getD_none] using .stay _
    | some s' => simpa only [step, h, Option.getD_some] using .broadcast h
  | take c => exact s.effect_conn fun conn hc => .take hc
  | write c ok => exact s.effect_conn fun conn hc => .write hc
  | close c => exact s.effect_conn fun conn hc => .close hc
  | unregister c =>
    refine s.effect_conn fun conn hc => ?_
    simp only [stepConn]
    split
    · exact .stay _
    · exact .stay _
    · rename_i hstage
      exact .unregister hc fun rest ids skipped h => hstage rest ids skipped h
  | onDisconnect c =>
    refine s.effect_conn fun conn hc => ?_
    simp only [stepConn]
    split_ifs
    · exact .stay _
    · exact .onDisconnect hc
  | send k m pick =>
    simp only [step]
    split
    · exact .send ‹_›
    · exact .stay _
  | relay k =>
    simp only [step]
    split
    · exact .relay ‹_›
    · exact .stay _
  | lookup k result =>
    simp only [step]
    split
    · exact .lookup ‹_›
    · exact .stay _
  | spool k result sentAt =>
    simp only [step]
    split
    · exact .spool ‹_›
    · exact .stay _

end SpoolServer

end Voicx.Server.Spool
