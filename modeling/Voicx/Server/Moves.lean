import Voicx.Server.Powers
import Voicx.Server.Reply
import Voicx.State.ChannelTree
import Voicx.State.Membership

/-!
# Entering a channel

Model of the requests that put a client into a channel: `handleJoinChannel` and `handleMoveClient`
of `internal/server/handlers.go` and the ServerQuery's `MoveClient` of `internal/server/admin.go`.
All three end in `moveClient`.

* `Session`, `World` — the connection registry, the state manager and the permission tables.
* `dispatchRefusal` — what is refused before a handler runs.
* `joinRefusal` — the rules, the power against the effective needed power, then the password.
* `moveRefusal` — the rules, and move power against the target's needed move power; no join gate.
* `queryRefusal` — no permission check at all.
* `joinRefusal_eq_none`, `moveRefusal_eq_none_iff` — what the checks let through.
* `memberOf_of_moveClient`, `exists_moveClient` — whom a move makes a member.
-/

namespace Voicx.Server

open Found State Permissions PowerAction Manager

/-- The right to join without the password. -/
def channelJoinIgnorePassword : String := "b_channel_join_ignore_password"

/-! ## The world of a request -/

/-- What the server knows about a connection.
Source: `internal/server/tcp.go`, `Client`
Fidelity: the fields the membership requests read -/
structure Session where
  /-- 0 is a guest -/
  userID : Int := 0
  isAdmin : Bool := false
  authed : Bool := false
  /-- the session still owes the server rules an answer -/
  rulesPending : Bool := false
  deriving DecidableEq, Repr

/-- The server's settings these requests read. -/
structure Config where
  /-- the default Guest group, 0 for none -/
  guestGroupID : Int := 0
  /-- does a password match a stored hash? Source: `internal/auth`, `VerifyPassword` -/
  verifyPassword : String → String → Bool

/-- The registry of connections, the state manager and the permission tables. -/
structure World where
  state : Manager
  sessions : FMap String Session
  db : PermDB

namespace World

variable (w : World) (clientID : String)

/-- The client as the permission checker sees it: in the channel it stands in. -/
def caller (s : Session) : Caller where
  userID := s.userID
  isAdmin := s.isAdmin
  channelID := (w.state.chanOf clientID).getD 0

/-- The client's permission checker. -/
def checker (cfg : Config) (clientID : String) (s : Session) : PermChecker :=
  permCheckerFor cfg.guestGroupID w.db (w.caller clientID s)

/-- The checker as a handler gets it; `loads` says whether the database answers. -/
def loadChecker (cfg : Config) (loads : Bool) (clientID : String) (s : Session) :
    Except String PermChecker :=
  if loads then .ok (w.checker cfg clientID s) else .error "loading permissions"

/-- The move itself. Voice routing, key delivery and announcements follow it and do not change who
stands where.
Source: `internal/server/handlers.go`, `moveClient` -/
def moveClient (channelID : Int) : Except StateError World :=
  match w.state.moveClient clientID channelID with
  | .error e => .error e
  | .ok m => .ok { w with state := m }

/-- The client is in the membership set of the channel. -/
def MemberOf (channelID : Int) : Prop :=
  clientID ∈ w.state.membership.elems channelID

instance (w : World) (clientID : String) (channelID : Int) :
    Decidable (w.MemberOf clientID channelID) :=
  inferInstanceAs (Decidable (clientID ∈ w.state.membership.elems channelID))

end World

/-! ## Requests -/

/-- Source: `internal/netproto/codec.go`, `JoinChannel` -/
structure JoinChannel where
  channelID : Int
  password : String := ""
  deriving DecidableEq, Repr

/-- Source: `internal/netproto/codec.go`, `MoveClient` -/
structure MoveClient where
  clientID : String
  channelID : Int
  deriving DecidableEq, Repr

/-- What `dispatch` refuses before the handler of a membership request runs.
Source: `internal/server/tcp.go`, `dispatch` -/
def dispatchRefusal (s : Session) : Option ErrorReply :=
  if !s.authed then some ⟨.notAuthenticated, "not authenticated"⟩
  else if s.rulesPending then
    some ⟨.permissionDenied, "accept the server rules before continuing"⟩
  else none

section handlers

variable (cfg : Config) (w : World) (loads : Bool) (clientID : String) (s : Session)

/-- The password side of the gate. -/
def passwordOK (pc : PermChecker) (ch : Channel) (password : String) : Bool :=
  ch.passwordHash == "" || pc.granted channelJoinIgnorePassword ||
    cfg.verifyPassword password ch.passwordHash

/-- The checks of `handleJoinChannel`, in its order. -/
def joinRefusal (msg : JoinChannel) : Option ErrorReply :=
  if s.rulesPending then
    some ⟨.permissionDenied, "accept the server rules before joining a channel"⟩
  else match w.state.getChannel msg.channelID with
    | none => some ⟨.notFound, "channel not found"⟩
    | some ch =>
      match w.loadChecker cfg loads clientID s with
      | .error _ => some ⟨.unavailable, "permission backend unavailable"⟩
      | .ok pc =>
        if !pc.joinAllowed (w.state.effectiveJoinPower ch.channelID) then
          some ⟨.permissionDenied, "insufficient permission: " ++ channelJoinPower⟩
        else if !passwordOK cfg pc ch msg.password then
          some ⟨.permissionDenied, "invalid channel password"⟩
        else none

/-- The checks of `handleMoveClient`, in its order. -/
def moveRefusal (msg : MoveClient) : Option ErrorReply :=
  match w.state.getChannel msg.channelID with
  | none => some ⟨.notFound, "channel not found"⟩
  | some _ =>
    match w.sessions.lookup msg.clientID with
    | none => some ⟨.notFound, "target client not found"⟩
    | some target =>
      if !target.authed then some ⟨.notFound, "target client not found"⟩
      else if target.rulesPending then
        some ⟨.permissionDenied, "target must accept the server rules before joining a channel"⟩
      else match checkPowerOver (w.loadChecker cfg loads clientID s)
          (w.loadChecker cfg loads msg.clientID target) move.powerKey
          move.neededKey with
        | .error e => some ⟨.permissionDenied, e.text⟩
        | .ok _ => none

/-- The end of both handlers: the move, unless a check refused. -/
def moveUnless (refusal : Option ErrorReply) (target : String) (channelID : Int) :
    Except ErrorReply World :=
  match refusal with
  | some reply => .error reply
  | none =>
    match w.moveClient target channelID with
    | .error e => .error ⟨.notFound, e.text⟩
    | .ok w' => .ok w'

/-- Source: `internal/server/handlers.go`, `handleJoinChannel` -/
def handleJoinChannel (msg : JoinChannel) : Except ErrorReply World :=
  moveUnless w (joinRefusal cfg w loads clientID s msg) clientID msg.channelID

/-- Source: `internal/server/handlers.go`, `handleMoveClient` -/
def handleMoveClient (msg : MoveClient) : Except ErrorReply World :=
  moveUnless w (moveRefusal cfg w loads clientID s msg) msg.clientID msg.channelID

end handlers

/-- The checks of the ServerQuery's move: trusted, so no permission is among them, nor the rules.
Source: `internal/server/admin.go`, `MoveClient` -/
def queryRefusal (w : World) (clientID : String) (channelID : Int) : Option String :=
  match w.state.getChannel channelID with
  | none => some "channel not found"
  | some _ =>
    match w.sessions.lookup clientID with
    | none => some "target client not found"
    | some _ => none

/-! ## What an accepted request passed -/

section accepted

variable {cfg : Config} {w w' : World} {loads : Bool} {clientID : String} {s : Session}
  {channelID : Int}

lemma moveClient_ok (h : w.moveClient clientID channelID = .ok w') :
    w'.sessions = w.sessions ∧ w'.db = w.db ∧
      w.state.moveClient clientID channelID = .ok w'.state := by
  unfold World.moveClient at h
  cases hm : w.state.moveClient clientID channelID with
  | error e => simp [hm] at h
  | ok m =>
    simp only [hm, Except.ok.injEq] at h
    subst h
    exact ⟨rfl, rfl, rfl⟩

lemma moveUnless_eq_ok_iff {refusal : Option ErrorReply} {target : String} :
    moveUnless w refusal target channelID = .ok w' ↔
      refusal = none ∧ w.moveClient target channelID = .ok w' := by
  unfold moveUnless
  cases refusal with
  | some reply => simp
  | none => cases w.moveClient target channelID <;> simp

/-- A join whose checks pass has the power and the password. -/
theorem joinRefusal_eq_none {msg : JoinChannel} (h : joinRefusal cfg w loads clientID s msg = none) :
    s.rulesPending = false ∧ ∃ ch, w.state.channels.lookup msg.channelID = some ch ∧
      (w.checker cfg clientID s).joinAllowed (w.state.effectiveJoinPower ch.channelID) = true ∧
      passwordOK cfg (w.checker cfg clientID s) ch msg.password = true := by
  unfold joinRefusal at h
  split_ifs at h with hrules
  cases hch : w.state.getChannel msg.channelID with
  | none => simp [hch] at h
  | some ch =>
    simp only [hch] at h
    cases hpc : w.loadChecker cfg loads clientID s with
    | error e => simp [hpc] at h
    | ok pc =>
      simp only [hpc] at h
      unfold World.loadChecker at hpc
      split_ifs at hpc
      cases hpc
      split_ifs at h with hjoin hpass
      exact ⟨by simpa using hrules, ch, hch, by simpa using hjoin, by simpa using hpass⟩

/-- A move whose checks pass names a target past the rules gate, and has the move power over it. The
join gate of the channel is not among the checks. -/
theorem moveRefusal_eq_none_iff {msg : MoveClient} :
    moveRefusal cfg w loads clientID s msg = none ↔
      msg.channelID ∈ w.state.channels ∧
        ∃ target, w.sessions.lookup msg.clientID = some target ∧ target.authed = true ∧
          target.rulesPending = false ∧
          checkPowerOver (w.loadChecker cfg loads clientID s)
            (w.loadChecker cfg loads msg.clientID target) move.powerKey
            move.neededKey = .ok () := by
  unfold moveRefusal getChannel
  rw [Finmap.mem_iff]
  cases w.state.channels.lookup msg.channelID with
  | none => simp
  | some ch =>
    cases w.sessions.lookup msg.clientID with
    | none => simp
    | some target =>
      cases htarget : target.authed <;> cases hrules : target.rulesPending <;>
        cases hpower : checkPowerOver (w.loadChecker cfg loads clientID s)
          (w.loadChecker cfg loads msg.clientID target) move.powerKey
          move.neededKey <;> simp [htarget, hrules, hpower]

/-- A live client can be moved into a live channel, and if it was elsewhere it is a member then. -/
theorem exists_moveClient (hlive : clientID ∈ w.state.clients) (hch : channelID ∈ w.state.channels)
    (helse : w.state.chanOf clientID ≠ some channelID) :
    ∃ w', w.moveClient clientID channelID = .ok w' ∧ w'.MemberOf clientID channelID := by
  obtain ⟨c, hc⟩ := Finmap.mem_iff.mp hlive
  obtain ⟨ch, hch⟩ := Finmap.mem_iff.mp hch
  have helse : c.channelID ≠ channelID := by
    intro hsame
    exact helse (chanOf_eq_some.mpr ⟨c, hc, hsame⟩)
  obtain ⟨m, hm⟩ : ∃ m, w.state.moveClient clientID channelID = .ok m := by
    simp [moveClient, hc, hch, helse]
  refine ⟨{ w with state := m }, by simp [World.moveClient, hm], ?_⟩
  obtain ⟨c', hc', -, ⟨hsame, -⟩ | ⟨-, hmem, -⟩⟩ := moveClient_spec hm
  · rw [hc] at hc'
    cases hc'
    exact absurd hsame helse
  · exact (hmem clientID channelID).mpr (.inl ⟨rfl, rfl⟩)

/-- A move makes at most one client a member of at most one channel. -/
theorem memberOf_of_moveClient (h : w.moveClient clientID channelID = .ok w') {id : String}
    {ch : Int} (hnew : w'.MemberOf id ch) (hold : ¬w.MemberOf id ch) :
    id = clientID ∧ ch = channelID := by
  obtain ⟨c, -, -, ⟨-, hsame⟩ | ⟨-, hmem, -⟩⟩ := moveClient_spec (moveClient_ok h).2.2
  · exact absurd (by rwa [World.MemberOf, hsame] at hnew) hold
  · rcases (hmem id ch).mp hnew with ⟨rfl, rfl⟩ | ⟨hwas, -⟩
    · exact ⟨rfl, rfl⟩
    · exact absurd hwas hold

end accepted

end Voicx.Server
