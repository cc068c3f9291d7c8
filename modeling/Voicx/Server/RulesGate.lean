import Voicx.Server.Moves

/-!
# The rules gate during a login

Model of the end of a login (`finishAuth`, `sendPendingRules`, `handleServerRulesAccept` of
`internal/server/handlers.go`) interleaved with everything that puts a client into a channel. A
request that enters a channel takes two steps, its checks and its move; anything can happen between
the two.

* `pendingFor` — does a user still owe the rules an answer? Source: `internal/rules/rules.go`.
* `GateState`, `GateStep`, `gateStep` — the machine.
* `Answered` — the session, or its user in an earlier session, answered with the hash in force.
* `RulesGate` — the property: only answered sessions are members of a channel.
* `HandshakeSpared` — the condition: no move by the ServerQuery, and no `move_client` that was
  checked before the target's gate was armed, is carried out on a session that has not answered.
* `rules_gate_iff` — the property holds throughout a run exactly when every step meets the
  condition.
-/

namespace Voicx.Server

open Found State Permissions Manager

/-! ## The machine -/

/-- How far a connection has come. -/
inductive LoginPhase
  /-- no connection had this id yet -/
  | unknown
  | connected
  /-- `setIdentity` has run -/
  | identified
  /-- `AddClient` has run: the session is visible to everyone -/
  | registered
  | snapshotSent
  /-- `sendPendingRules` has run: requests are served -/
  | ready
  /-- out of the registry -/
  | closing
  deriving DecidableEq, Repr

/-- What happened to a connection. The record outlives the connection: ids are not used twice. -/
structure LoginRecord where
  phase : LoginPhase := .unknown
  userID : Int := 0
  /-- an answer with the matching hash was taken -/
  answered : Bool := false
  deriving DecidableEq, Repr

/-- Who decided on a move that has not been carried out yet. -/
inductive MoveOrigin
  /-- a `join_channel` of the client itself -/
  | join
  /-- a `move_client`, checked when the target's login was in this phase -/
  | moveClient (checkedAt : LoginPhase)
  /-- the ServerQuery -/
  | query
  deriving DecidableEq, Repr

/-- A move past its checks. -/
structure PendingMove where
  clientID : String
  channelID : Int
  origin : MoveOrigin
  deriving DecidableEq, Repr

structure GateState where
  world : World
  login : String → LoginRecord
  /-- the rows of `server_rules_acceptance`: user → hash of the wording it accepted -/
  rows : Int → Option String
  pending : List PendingMove

/-- The server after its start. -/
def GateState.boot (db : PermDB) (rows : Int → Option String) : GateState where
  world := { state := new, sessions := ∅, db := db }
  login := fun _ => {}
  rows := rows
  pending := []

inductive GateStep
  | connect (id : String)
  | identify (id : String) (userID : Int) (isAdmin : Bool)
  | register (id : String)
  | sendSnapshot (id : String)
  | armRules (id : String)
  /-- the connection ends: it leaves the registry, then `onDisconnect` removes the client -/
  | unregister (id : String)
  | removeClient (id : String)
  /-- `stored` says whether recording the acceptance succeeds -/
  | rulesAccept (id : String) (hash : String) (stored : Bool)
  | joinCheck (id : String) (msg : JoinChannel) (loads : Bool)
  | moveCheck (id : String) (msg : MoveClient) (loads : Bool)
  | queryCheck (id : String) (channelID : Int)
  /-- carry out the pending move at this position -/
  | move (n : Nat)
  /-- anything else, by the world it leaves -/
  | other (w' : World)

/-- A user still owes the rules an answer.
Source: `internal/rules/rules.go`, `Pending`; a guest is asked on every connect -/
def pendingFor (hash : String) (rows : Int → Option String) (userID : Int) : Bool :=
  if hash = "" then false
  else if userID = 0 then true
  else match rows userID with
    | none => true
    | some accepted => accepted != hash

namespace GateState

variable (s : GateState) (id : String)

/-- Write what is known about one connection; without a session it leaves the registry. -/
def put (c : Option Session) (r : LoginRecord) : GateState :=
  { s with
    world :=
      { s.world with
        sessions := match c with
          | some c => s.world.sessions.insert id c
          | none => s.world.sessions.erase id }
    login := Function.update s.login id r }

def setState (m : Manager) : GateState :=
  { s with world := { s.world with state := m } }

/-- Record an acceptance. -/
def setRow (userID : Int) (hash : String) : GateState :=
  { s with rows := Function.update s.rows userID (some hash) }

def push (mv : PendingMove) : GateState := { s with pending := mv :: s.pending }

def connect : GateState :=
  s.put id (some {}) { s.login id with phase := .connected }

/-- Source: `internal/server/tcp.go`, `setIdentity` -/
def setIdentity (userID : Int) (isAdmin : Bool) : GateState :=
  s.put id ((s.world.sessions.lookup id).map fun c =>
      { c with userID := userID, isAdmin := isAdmin, authed := true })
    { s.login id with phase := .identified, userID := userID }

/-- The client becomes visible, in the lobby. -/
def register : GateState :=
  (s.setState (s.world.state.addClient { clientID := id })).put id (s.world.sessions.lookup id)
    { s.login id with phase := .registered }

/-- Source: `internal/server/handlers.go`, `sendPendingRules` -/
def sendPendingRules (hash : String) (s : GateState) (id : String) : GateState :=
  s.put id ((s.world.sessions.lookup id).map fun c =>
      if pendingFor hash s.rows c.userID then { c with rulesPending := true } else c)
    { s.login id with phase := .ready }

/-- Source: `internal/server/handlers.go`, `handleServerRulesAccept` -/
def rulesAccept (hash : String) (s : GateState) (id : String) (c : Session) (msgHash : String)
    (stored : Bool) : GateState :=
  if hash = "" ∨ msgHash ≠ hash then
    s.put id (some { c with rulesPending := decide (hash ≠ "") }) (s.login id)
  else if c.userID = 0 then
    s.put id (some { c with rulesPending := false }) { s.login id with answered := true }
  else if stored = false then s
  else
    (s.setRow c.userID msgHash).put id (some { c with rulesPending := false })
      { s.login id with answered := true }

/-- The session of a connection whose requests are served. Frames are read one after the other, so
no request is served before the login is over. -/
def serving : Option Session :=
  if (s.login id).phase = .ready then
    (s.world.sessions.lookup id).filter fun c => (dispatchRefusal c).isNone
  else none

/-- Carry out a move past its checks. -/
def carryOut (n : Nat) (mv : PendingMove) : GateState :=
  { s with
    world := ((s.world.moveClient mv.clientID mv.channelID).toOption).getD s.world
    pending := s.pending.eraseIdx n }

end GateState

open GateState

variable (cfg : Config) (hash : String) (s : GateState)

/-- One step of the machine. A step that does not fit the phase of its connection does nothing. -/
def gateStep : GateStep → GateState
  | .connect id => if (s.login id).phase = .unknown then s.connect id else s
  | .identify id userID isAdmin =>
    if (s.login id).phase = .connected then s.setIdentity id userID isAdmin else s
  | .register id => if (s.login id).phase = .identified then s.register id else s
  | .sendSnapshot id =>
    if (s.login id).phase = .registered then
      s.put id (s.world.sessions.lookup id) { s.login id with phase := .snapshotSent }
    else s
  | .armRules id => if (s.login id).phase = .snapshotSent then s.sendPendingRules hash id else s
  | .unregister id =>
    if (s.login id).phase = .unknown then s
    else s.put id none { s.login id with phase := .closing }
  | .removeClient id =>
    if (s.login id).phase = .closing then s.setState (s.world.state.removeClient id).1 else s
  | .rulesAccept id msgHash stored =>
    if (s.login id).phase = .ready then
      match s.world.sessions.lookup id with
      | none => s
      | some c => s.rulesAccept hash id c msgHash stored
    else s
  | .joinCheck id msg loads =>
    match s.serving id with
    | none => s
    | some c =>
      match joinRefusal cfg s.world loads id c msg with
      | some _ => s
      | none => s.push ⟨id, msg.channelID, .join⟩
  | .moveCheck id msg loads =>
    match s.serving id with
    | none => s
    | some c =>
      match moveRefusal cfg s.world loads id c msg with
      | some _ => s
      | none => s.push ⟨msg.clientID, msg.channelID,
          .moveClient (s.login msg.clientID).phase⟩
  | .queryCheck id channelID =>
    match queryRefusal s.world id channelID with
    | some _ => s
    | none => s.push ⟨id, channelID, .query⟩
  | .move n =>
    match s.pending[n]? with
    | none => s
    | some mv => s.carryOut n mv
  | .other w' => { s with world := w' }

/-! ## The property and the condition -/

/-- The session answered the rules in force, or its user did in another session. -/
def Answered (id : String) : Prop :=
  (s.login id).answered = true ∨
    (s.login id).userID ≠ 0 ∧ s.rows (s.login id).userID = some hash

instance (s : GateState) (id : String) : Decidable (Answered hash s id) :=
  inferInstanceAs (Decidable (_ ∨ _))

/-- Only answered sessions are members of a channel. -/
def RulesGate : Prop :=
  ∀ id channelID, s.world.MemberOf id channelID → Answered hash s id

/-- The move has an effect: the client and the channel are live, and it is elsewhere. -/
def Enters (w : World) (mv : PendingMove) : Prop :=
  mv.clientID ∈ w.state.clients ∧ mv.channelID ∈ w.state.channels ∧
    w.state.chanOf mv.clientID ≠ some mv.channelID

/-- The move did not pass an armed gate: the ServerQuery does not look at it, and a `move_client`
that was checked during the target's handshake found it not armed yet. -/
def MoveOrigin.Unguarded : MoveOrigin → Prop
  | .join => False
  | .moveClient checkedAt => checkedAt ≠ .ready
  | .query => True

/-- A move that did not pass an armed gate is carried out on answered sessions only. -/
def HandshakeSpared : GateStep → Prop
  | .move n =>
    ∀ mv, s.pending[n]? = some mv → mv.origin.Unguarded → Enters s.world mv →
      Answered hash s mv.clientID
  | _ => True

/-- Steps other than those listed let nobody into a channel and leave the registry alone. -/
def GateDomain : GateStep → Prop
  | .other w' =>
    w'.sessions = s.world.sessions ∧
      ∀ id channelID, w'.MemberOf id channelID → s.world.MemberOf id channelID
  | _ => True

/-! ## The invariant -/

/-- What holds of one connection: before the identity is recorded nothing is known about it, and a
served session that has not answered has its gate armed. -/
structure LoginOK (s : GateState) (id : String) : Prop where
  fresh : (s.login id).phase = .unknown ∨ (s.login id).phase = .connected →
    (s.login id).userID = 0 ∧ (s.login id).answered = false
  user : ∀ c, s.world.sessions.lookup id = some c → c.userID = (s.login id).userID
  armed : ∀ c, s.world.sessions.lookup id = some c → (s.login id).phase = .ready →
    Answered hash s id ∨ c.rulesPending = true

/-- The property; what holds of each connection; and a move that passed an armed gate is of an
answered session. -/
structure GateInv (s : GateState) : Prop where
  gated : RulesGate hash s
  login : ∀ id, LoginOK hash s id
  guarded : ∀ mv ∈ s.pending, mv.origin.Unguarded ∨ Answered hash s mv.clientID

lemma gateInv_boot (db : PermDB) (rows : Int → Option String) : GateInv hash (boot db rows) where
  gated id channelID h := by
    simp [boot, World.MemberOf, new] at h
  login id :=
    { fresh := fun _ => ⟨rfl, rfl⟩
      user := fun c h => by simp [boot] at h
      armed := fun c h => by simp [boot] at h }
  guarded mv h := by simp [boot] at h

section edit

variable {hash id : String} {s s' : GateState}

/-- An answer is not forgotten while the user of the session stays the same. -/
lemma Answered.mono (h : Answered hash s id)
    (hanswered : (s.login id).answered = true → (s'.login id).answered = true)
    (huser : (s'.login id).userID = (s.login id).userID)
    (hrows : ∀ u, s.rows u = some hash → s'.rows u = some hash) : Answered hash s' id := by
  rcases h with h | ⟨hne, h⟩
  · exact .inl (hanswered h)
  · exact .inr ⟨huser ▸ hne, huser ▸ hrows _ h⟩

/-- A session that is not identified yet has not answered. -/
lemma LoginOK.not_answered (h : LoginOK hash s id)
    (hphase : (s.login id).phase = .unknown ∨ (s.login id).phase = .connected) :
    ¬Answered hash s id := by
  obtain ⟨huser, hanswered⟩ := h.fresh hphase
  rintro (h | ⟨hne, -⟩)
  · simp [hanswered] at h
  · exact hne huser

lemma LoginOK.of_same (h : LoginOK hash s id) (hlogin : s'.login id = s.login id)
    (hsession : s'.world.sessions.lookup id = s.world.sessions.lookup id)
    (hrows : ∀ u, s.rows u = some hash → s'.rows u = some hash) : LoginOK hash s' id where
  fresh hphase := by
    rw [hlogin] at hphase ⊢
    exact h.fresh hphase
  user c hc := by
    rw [hlogin]
    exact h.user c (hsession ▸ hc)
  armed c hc hphase := by
    refine (h.armed c (hsession ▸ hc) (hlogin ▸ hphase)).imp_left fun hans => ?_
    exact hans.mono (by simp [hlogin]) (by rw [hlogin]) hrows

/-- The invariant only looks at memberships, sessions, records, rows and pending moves. -/
lemma GateInv.of_same (h : GateInv hash s)
    (hmem : ∀ id channelID, s'.world.MemberOf id channelID → s.world.MemberOf id channelID)
    (hsession : s'.world.sessions = s.world.sessions) (hlogin : s'.login = s.login)
    (hpending : s'.pending = s.pending)
    (hrows : ∀ u, s.rows u = some hash → s'.rows u = some hash) : GateInv hash s' := by
  have hmono : ∀ id, Answered hash s id → Answered hash s' id := fun id hans =>
    hans.mono (by simp [hlogin]) (by rw [hlogin]) hrows
  refine ⟨fun id channelID hin => ?_, fun id => ?_, fun mv hmv => ?_⟩
  · exact hmono id (h.gated id channelID (hmem id channelID hin))
  · exact (h.login id).of_same (congrFun hlogin id) (by rw [hsession]) hrows
  · exact (h.guarded mv (hpending ▸ hmv)).imp_right (hmono _)

/-- A move past its checks is recorded. -/
lemma GateInv.push (h : GateInv hash s) {mv : PendingMove}
    (hmv : mv.origin.Unguarded ∨ Answered hash s mv.clientID) : GateInv hash (s.push mv) := by
  refine ⟨h.gated, fun id => (h.login id).of_same rfl rfl fun _ hu => hu, ?_⟩
  intro mv' hmv'
  rcases List.mem_cons.mp hmv' with rfl | hold
  · exact hmv
  · exact h.guarded mv' hold

lemma lookup_put (s : GateState) (id : String) (c : Option Session) (r : LoginRecord)
    (id' : String) : (s.put id c r).world.sessions.lookup id' =
      if id' = id then c else s.world.sessions.lookup id' := by
  cases c with
  | none => exact FMap.lookup_erase_ite ..
  | some c => exact FMap.lookup_insert_ite ..

@[simp] lemma login_put (s : GateState) (id : String) (c : Option Session) (r : LoginRecord)
    (id' : String) : (s.put id c r).login id' = if id' = id then r else s.login id' :=
  Function.update_apply ..

variable {c : Option Session} {r : LoginRecord}

/-- **What a login step has to keep.** Writing one connection keeps the invariant if its answer is
not forgotten, and a served session that has not answered is armed. -/
theorem GateInv.put (h : GateInv hash s)
    (hself : Answered hash s id → Answered hash (s.put id c r) id)
    (hfresh : r.phase = .unknown ∨ r.phase = .connected → r.userID = 0 ∧ r.answered = false)
    (huser : ∀ c', c = some c' → c'.userID = r.userID)
    (harmed : ∀ c', c = some c' → r.phase = .ready →
      Answered hash (s.put id c r) id ∨ c'.rulesPending = true) : GateInv hash (s.put id c r) := by
  have hmono : ∀ id', Answered hash s id' → Answered hash (s.put id c r) id' := by
    intro id' hans
    by_cases hid : id' = id
    · exact hid ▸ hself (hid ▸ hans)
    · exact hans.mono (by simp [hid]) (by simp [hid]) fun _ hu => hu
  refine ⟨fun id' channelID hin => hmono id' (h.gated id' channelID hin), fun id' => ?_,
    fun mv hmv => (h.guarded mv hmv).imp_right (hmono _)⟩
  by_cases hid : id' = id
  · subst hid
    refine ⟨?_, ?_, ?_⟩
    · simpa using hfresh
    · simpa [lookup_put] using huser
    · simpa [lookup_put] using harmed
  · exact (h.login id').of_same (by simp [hid]) (by simp [lookup_put, hid])
      fun _ hu => hu

/-- An answer stays when the record keeps the user. -/
theorem Answered.put (h : Answered hash s id)
    (hanswered : (s.login id).answered = true → r.answered = true)
    (huser : r.userID = (s.login id).userID) : Answered hash (s.put id c r) id :=
  h.mono (by simpa using hanswered) (by simpa using huser) fun _ hu => hu

end edit

/-! ## The steps of a login -/

section login

variable {hash id : String} {s : GateState}

/-- A user the rules are not sent to has accepted them. -/
lemma row_of_not_pendingFor {rows : Int → Option String} {userID : Int} (hhash : hash ≠ "")
    (h : pendingFor hash rows userID = false) : userID ≠ 0 ∧ rows userID = some hash := by
  unfold pendingFor at h
  rw [if_neg hhash] at h
  split_ifs at h with hguest
  refine ⟨hguest, ?_⟩
  cases hrow : rows userID with
  | none => simp [hrow] at h
  | some accepted => simpa [hrow] using h

variable (h : GateInv hash s)

include h

lemma GateInv.connect (hphase : (s.login id).phase = .unknown) :
    GateInv hash (s.connect id) := by
  obtain ⟨huser, hanswered⟩ := (h.login id).fresh (.inl hphase)
  apply h.put
  · intro hans
    exact absurd hans ((h.login id).not_answered (.inl hphase))
  · intro _
    exact ⟨huser, hanswered⟩
  · intro c hc
    cases hc
    exact huser.symm
  · intro c _ hready
    cases hready

lemma GateInv.setIdentity (hphase : (s.login id).phase = .connected)
    (userID : Int) (isAdmin : Bool) : GateInv hash (s.setIdentity id userID isAdmin) := by
  apply h.put
  · intro hans
    exact absurd hans ((h.login id).not_answered (.inr hphase))
  · rintro (hfresh | hfresh) <;> cases hfresh
  · intro c hc
    obtain ⟨c', -, rfl⟩ := Option.map_eq_some_iff.mp hc
    rfl
  · intro c _ hready
    cases hready

/-- A step of the handshake that only advances the phase. -/
lemma GateInv.advance {p : LoginPhase}
    (hp : p = .registered ∨ p = .snapshotSent) :
    GateInv hash (s.put id (s.world.sessions.lookup id) { s.login id with phase := p }) := by
  apply h.put
  · intro hans
    exact hans.put (fun hanswered => hanswered) rfl
  · rcases hp with rfl | rfl <;> simp
  · exact (h.login id).user
  · rcases hp with rfl | rfl <;> simp

/-- A client is registered. -/
theorem GateInv.register : GateInv hash (s.register id) := by
  have hstate : GateInv hash (s.setState (s.world.state.addClient { clientID := id })) :=
    h.of_same (fun _ _ hin => hin) rfl rfl rfl fun _ hu => hu
  exact hstate.advance (.inl rfl)

/-- The gate is armed as the login ends, unless the user has accepted the rules before. -/
theorem GateInv.sendPendingRules (hhash : hash ≠ "") :
    GateInv hash (s.sendPendingRules hash id) := by
  apply h.put
  · intro hans
    exact hans.put (fun hanswered => hanswered) rfl
  · rintro (hfresh | hfresh) <;> cases hfresh
  · intro c hc
    obtain ⟨c', hc', rfl⟩ := Option.map_eq_some_iff.mp hc
    have huser := (h.login id).user c' hc'
    split_ifs <;> exact huser
  · intro c hc _
    obtain ⟨c', hc', rfl⟩ := Option.map_eq_some_iff.mp hc
    by_cases hpending : pendingFor hash s.rows c'.userID = true
    · exact .inr (by simp [hpending])
    · obtain ⟨hne, hrow⟩ := row_of_not_pendingFor hhash (by simpa using hpending)
      rw [(h.login id).user c' hc'] at hne hrow
      exact .inl (.inr (by simp [hne]; exact hrow))

variable {c : Session}

/-- A served session gets new flags: an answer is not forgotten, and without one the gate is
armed. -/
lemma GateInv.putServed {c' : Session} {answered : Bool}
    (hc : s.world.sessions.lookup id = some c) (hphase : (s.login id).phase = .ready)
    (huser : c'.userID = c.userID) (hkeep : (s.login id).answered = true → answered = true)
    (harmed : answered = true ∨ c'.rulesPending = true) :
    GateInv hash (s.put id (some c') { s.login id with answered := answered }) := by
  apply h.put
  · intro hans
    exact hans.put hkeep rfl
  · intro hfresh
    simp [hphase] at hfresh
  · intro c'' hc''
    cases hc''
    exact huser.trans ((h.login id).user c hc)
  · intro c'' hc'' _
    cases hc''
    refine harmed.imp_left fun hanswered => .inl ?_
    rw [login_put, if_pos rfl]
    exact hanswered

/-- An acceptance of the wording in force is recorded. -/
lemma GateInv.setRow (userID : Int) : GateInv hash (s.setRow userID hash) := by
  refine h.of_same (fun _ _ hin => hin) rfl rfl rfl fun u hu => ?_
  by_cases hid : u = userID
  · simp [GateState.setRow, hid]
  · simpa [GateState.setRow, Function.update_apply, hid] using hu

/-- The answer is taken, or the gate stays as it was or is armed again. -/
lemma GateInv.rulesAccept (hhash : hash ≠ "") (hc : s.world.sessions.lookup id = some c)
    (hphase : (s.login id).phase = .ready) (msgHash : String) (stored : Bool) :
    GateInv hash (s.rulesAccept hash id c msgHash stored) := by
  unfold GateState.rulesAccept
  split_ifs with hstale hguest hstored
  · -- a stale hash: the gate is armed again
    exact h.putServed hc hphase rfl (fun hanswered => hanswered) (.inr (by simp [hhash]))
  · -- a guest's answer lives in the session only
    exact h.putServed hc hphase rfl (fun _ => rfl) (.inl rfl)
  · exact h
  · -- a user's answer is recorded
    have hmsg : msgHash = hash := by
      by_contra hne
      exact hstale (.inr hne)
    rw [hmsg]
    exact (h.setRow c.userID).putServed hc hphase rfl (fun _ => rfl) (.inl rfl)

/-- A connection leaves the registry. -/
lemma GateInv.unregister :
    GateInv hash (s.put id none { s.login id with phase := .closing }) := by
  apply h.put
  · intro hans
    exact hans.put (fun hanswered => hanswered) rfl
  · rintro (hfresh | hfresh) <;> cases hfresh
  · intro c hc
    cases hc
  · intro c hc
    cases hc

lemma GateInv.removeClient : GateInv hash (s.setState (s.world.state.removeClient id).1) := by
  refine h.of_same (fun id' channelID hin => ?_) rfl rfl rfl fun _ hu => hu
  cases hc : s.world.state.clients.lookup id with
  | none => simpa [setState, Manager.removeClient, hc] using hin
  | some c => exact ((removeClient_spec hc).2.1 id' channelID |>.mp hin).1

end login

/-! ## The steps of an entry -/

section entry

variable {cfg : Config} {hash id : String} {s : GateState} {c : Session} {loads : Bool} {n : Nat}
  {mv : PendingMove}

lemma serving_eq_some (h : s.serving id = some c) :
    (s.login id).phase = .ready ∧ s.world.sessions.lookup id = some c ∧ c.rulesPending = false := by
  unfold serving at h
  split_ifs at h with hphase
  obtain ⟨hc, hrefused⟩ := Option.filter_eq_some_iff.mp h
  refine ⟨hphase, hc, ?_⟩
  by_contra hpending
  cases hauthed : c.authed <;> simp [dispatchRefusal, hauthed, hpending] at hrefused

section

variable (h : GateInv hash s)

include h

/-- A session past the gate has answered. -/
lemma GateInv.answered_of_ready (hc : s.world.sessions.lookup id = some c)
    (hphase : (s.login id).phase = .ready) (hrules : c.rulesPending = false) :
    Answered hash s id := by
  rcases (h.login id).armed c hc hphase with hans | hpending
  · exact hans
  · simp [hrules] at hpending

/-- A `move_client` that passes its checks was checked in the target's handshake, or on a target
that has answered. -/
lemma GateInv.answered_of_moveRefusal {msg : MoveClient}
    (hchecks : moveRefusal cfg s.world loads id c msg = none) :
    (MoveOrigin.moveClient (s.login msg.clientID).phase).Unguarded ∨
      Answered hash s msg.clientID := by
  obtain ⟨-, target, htarget, -, hrules, -⟩ := moveRefusal_eq_none_iff.mp hchecks
  by_cases hphase : (s.login msg.clientID).phase = .ready
  · exact .inr (h.answered_of_ready htarget hphase hrules)
  · exact .inl hphase

/-- The checks of a request record a move at most. A `join_channel` is of a session past the
gate. -/
lemma GateInv.joinCheck {msg : JoinChannel} :
    GateInv hash (gateStep cfg hash s (.joinCheck id msg loads)) := by
  rw [gateStep]
  cases hc : s.serving id with
  | none => exact h
  | some c =>
    obtain ⟨hphase, hlookup, hrules⟩ := serving_eq_some hc
    cases hchecks : joinRefusal cfg s.world loads id c msg with
    | some reply => simpa only [hchecks] using h
    | none => simpa only [hchecks] using h.push (.inr (h.answered_of_ready hlookup hphase hrules))

lemma GateInv.moveCheck {msg : MoveClient} :
    GateInv hash (gateStep cfg hash s (.moveCheck id msg loads)) := by
  rw [gateStep]
  cases hc : s.serving id with
  | none => exact h
  | some c =>
    cases hchecks : moveRefusal cfg s.world loads id c msg with
    | some reply => simpa only [hchecks] using h
    | none => simpa only [hchecks] using h.push (h.answered_of_moveRefusal hchecks)

variable {channelID : Int}

lemma GateInv.queryCheck : GateInv hash (gateStep cfg hash s (.queryCheck id channelID)) := by
  rw [gateStep]
  cases queryRefusal s.world id channelID with
  | some reply => exact h
  | none => exact h.push (.inl trivial)

end

/-- What carrying out a move does to the memberships. -/
lemma memberOf_carryOut (h : (s.carryOut n mv).world.MemberOf id channelID) :
    s.world.MemberOf id channelID ∨ id = mv.clientID ∧ Enters s.world mv := by
  by_cases hold : s.world.MemberOf id channelID
  · exact .inl hold
  cases hm : s.world.moveClient mv.clientID mv.channelID with
  | error e =>
    rw [carryOut, hm] at h
    exact absurd h hold
  | ok w' =>
    have hin : w'.MemberOf id channelID := by
      rw [carryOut, hm] at h
      exact h
    obtain ⟨hid, -⟩ := memberOf_of_moveClient hm hin hold
    obtain ⟨c, hc, hch, ⟨-, hsame⟩ | ⟨helse, -, -⟩⟩ :=
      moveClient_spec (moveClient_ok hm).2.2
    · rw [World.MemberOf, hsame] at hin
      exact absurd hin hold
    · refine .inr ⟨hid, Finmap.mem_of_lookup_eq_some hc, hch, ?_⟩
      rw [chanOf, hc]
      exact fun hsame => helse (Option.some.inj hsame)

lemma sessions_carryOut (n : Nat) (mv : PendingMove) :
    (s.carryOut n mv).world.sessions = s.world.sessions := by
  cases hm : s.world.moveClient mv.clientID mv.channelID with
  | error e => simp [carryOut, hm, Except.toOption]
  | ok w' =>
    rw [carryOut, hm]
    exact (moveClient_ok hm).1

/-- A move that is carried out on an answered session, or has no effect, keeps the invariant. -/
lemma GateInv.carryOut (h : GateInv hash s)
    (hmv : Enters s.world mv → Answered hash s mv.clientID) : GateInv hash (s.carryOut n mv) := by
  refine ⟨fun id channelID hin => ?_, fun id => ?_, fun mv' hmv' => ?_⟩
  · rcases memberOf_carryOut hin with hold | ⟨rfl, henters⟩
    · exact h.gated id channelID hold
    · exact hmv henters
  · exact (h.login id).of_same rfl (by rw [sessions_carryOut]) fun _ hu => hu
  · exact h.guarded mv' (List.mem_of_mem_eraseIdx hmv')

end entry

/-! ## Whole runs -/

section runs

variable {cfg : Config} {hash : String} {s : GateState}

/-- A step that does nothing outside its phase. -/
lemma GateInv.ite (h : GateInv hash s) {p : Prop} [Decidable p] {s' : GateState}
    (hp : p → GateInv hash s') : GateInv hash (if p then s' else s) := by
  split_ifs with hphase
  · exact hp hphase
  · exact h

variable {i : GateStep}

/-- Every step that meets the condition keeps the invariant. -/
theorem GateInv.step (hhash : hash ≠ "") (h : GateInv hash s) (hdom : GateDomain s i)
    (hok : HandshakeSpared hash s i) : GateInv hash (gateStep cfg hash s i) := by
  cases i with
  | connect id => exact h.ite fun hphase => h.connect hphase
  | identify id userID isAdmin => exact h.ite fun hphase => h.setIdentity hphase userID isAdmin
  | register id => exact h.ite fun _ => h.register
  | sendSnapshot id => exact h.ite fun _ => h.advance (.inr rfl)
  | armRules id => exact h.ite fun _ => h.sendPendingRules hhash
  | unregister id =>
    rw [gateStep]
    split_ifs
    · exact h
    · exact h.unregister
  | removeClient id => exact h.ite fun _ => h.removeClient
  | rulesAccept id msgHash stored =>
    refine h.ite fun hphase => ?_
    cases hc : s.world.sessions.lookup id with
    | none => exact h
    | some c => exact h.rulesAccept hhash hc hphase msgHash stored
  | joinCheck id msg loads => exact h.joinCheck
  | moveCheck id msg loads => exact h.moveCheck
  | queryCheck id channelID => exact h.queryCheck
  | move n =>
    rw [gateStep]
    cases hmv : s.pending[n]? with
    | none => exact h
    | some mv =>
      apply h.carryOut
      intro henters
      rcases h.guarded mv (List.mem_of_getElem? hmv) with hunguarded | hans
      · exact hok mv hmv hunguarded henters
      · exact hans
  | other w' => exact h.of_same hdom.2 hdom.1 rfl rfl fun _ hu => hu

/-- A step that does not meet the condition puts an unanswered session into a channel. -/
lemma not_rulesGate_of_not_spared (h : ¬HandshakeSpared hash s i) :
    ¬RulesGate hash (gateStep cfg hash s i) := by
  cases i with
  | move n =>
    simp only [HandshakeSpared, not_forall] at h
    obtain ⟨mv, hmv, -, henters, hunanswered⟩ := h
    intro hgate
    have hstep : gateStep cfg hash s (.move n) = s.carryOut n mv := by
      simp [gateStep, hmv]
    rw [hstep] at hgate
    obtain ⟨w', hm, hmem⟩ := exists_moveClient henters.1 henters.2.1 henters.2.2
    refine hunanswered (hgate mv.clientID mv.channelID ?_)
    rw [carryOut, hm]
    exact hmem
  | _ => exact absurd trivial h

end runs

/-- **The rules gate holds exactly as long as nobody is moved through the handshake.** With rules in
force, from the start of the server, over every interleaving of logins, answers, joins, moves,
ServerQuery moves, disconnects and whatever else lets nobody into a channel: a session that has not
answered the rules is in no channel, at any point of the run, if and only if every move that did not
pass an armed gate (a ServerQuery move, or a `move_client` that was checked before the target's gate
was armed) and has an effect is carried out on a session that has answered. -/
theorem rules_gate_iff (cfg : Config) (hash : String) (hhash : hash ≠ "") (db : PermDB)
    (rows : Int → Option String) (is : List GateStep)
    (hdom : StepsOK (gateStep cfg hash) GateDomain (GateState.boot db rows) is) :
    Throughout (gateStep cfg hash) (RulesGate hash) (GateState.boot db rows) is ↔
      StepsOK (gateStep cfg hash) (HandshakeSpared hash) (GateState.boot db rows) is := by
  apply throughout_iff_stepsOK _ _ _ (gateInv_boot hash db rows) hdom
  · intro s h
    exact h.gated
  · intro s i h hdom hok
    exact h.step hhash hdom hok
  · intro s i _ _ hnot
    exact not_rulesGate_of_not_spared hnot

/-! ## Two ways past the gate -/

/-- A server with channel 1, on which user 7 has accepted the rules and may move clients. -/
def oneChannelWorld : World where
  state := new.addChannel { channelID := 1 }
  sessions := ∅
  db :=
    { PermDB.empty with
      perms := PermRows.empty.put (.serverGroup 3)
        { key := PowerAction.move.powerKey, value := 10 }
      serverGroups := fun _ => [3] }

def ruledServer : GateState :=
  GateState.boot oneChannelWorld.db fun userID => if userID = 7 then some "h" else none

/-- The login of a connection up to its registration. -/
def loginSteps (id : String) (userID : Int) : List GateStep :=
  [.connect id, .identify id userID false, .register id]

/-- The rest of it. -/
def armSteps (id : String) : List GateStep := [.sendSnapshot id, .armRules id]

def noPassword : Config where
  verifyPassword := fun _ _ => false

lemma ruledServer_open : GateDomain ruledServer (.other oneChannelWorld) := by
  refine ⟨rfl, fun id channelID h => ?_⟩
  simp [World.MemberOf, oneChannelWorld, addChannel, new] at h

/-- A guest is refused, answers the rules and then joins. -/
def answeredRun : List GateStep :=
  [.other oneChannelWorld] ++ loginSteps "guest" 0 ++ armSteps "guest" ++
    [.joinCheck "guest" ⟨1, ""⟩ true, .rulesAccept "guest" "h" true,
      .joinCheck "guest" ⟨1, ""⟩ true, .move 0]

/-- The guest is in the channel in the end, and the gate holds all along. -/
theorem rules_gate_iff_guest :
    (run (gateStep noPassword "h") ruledServer answeredRun).world.MemberOf "guest" 1 ∧
      Throughout (gateStep noPassword "h") (RulesGate "h") ruledServer answeredRun := by
  refine ⟨by decide, (rules_gate_iff noPassword "h" (by decide) oneChannelWorld.db
    (fun userID => if userID = 7 then some "h" else none) _ ?_).mpr ?_⟩
  · exact ⟨ruledServer_open, by simp [loginSteps, armSteps, StepsOK, GateDomain]⟩
  -- the only move that is carried out is the guest's own join
  have hpending : (run (gateStep noPassword "h") ruledServer answeredRun.dropLast).pending[0]? =
      some ⟨"guest", 1, .join⟩ := by decide
  refine ⟨trivial, trivial, trivial, trivial, trivial, trivial, trivial, trivial, trivial, ?_,
    trivial⟩
  intro mv hmv hunguarded
  cases hpending.symm.trans hmv
  exact hunguarded.elim

/-- The ServerQuery moves a guest whose gate is armed. -/
def queryRun : List GateStep :=
  [.other oneChannelWorld] ++ loginSteps "guest" 0 ++ armSteps "guest" ++
    [.queryCheck "guest" 1, .move 0]

/-- A client with the move power moves a guest whose login is still under way; the gate is armed
when the guest is already inside. -/
def handshakeRun : List GateStep :=
  [.other oneChannelWorld] ++ loginSteps "mod" 7 ++ armSteps "mod" ++ loginSteps "guest" 0 ++
    [.moveCheck "mod" ⟨"guest", 1⟩ true, .move 0] ++ armSteps "guest"

/-- **Two ways past the gate.** In both runs the guest ends up in a channel without an answer. -/
theorem unanswered_guest_enters :
    (StepsOK (gateStep noPassword "h") GateDomain ruledServer queryRun ∧
        ¬Throughout (gateStep noPassword "h") (RulesGate "h") ruledServer queryRun) ∧
      StepsOK (gateStep noPassword "h") GateDomain ruledServer handshakeRun ∧
        ¬Throughout (gateStep noPassword "h") (RulesGate "h") ruledServer handshakeRun := by
  refine ⟨⟨⟨ruledServer_open, ?_⟩, fun h => ?_⟩, ⟨ruledServer_open, ?_⟩, fun h => ?_⟩
  · simp [loginSteps, armSteps, StepsOK, GateDomain]
  · exact absurd (h.final "guest" 1 (by decide)) (by decide)
  · simp [loginSteps, armSteps, StepsOK, GateDomain]
  · exact absurd (h.final "guest" 1 (by decide)) (by decide)

end Voicx.Server
