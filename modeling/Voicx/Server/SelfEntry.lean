import Voicx.Server.ChannelEdit
import Voicx.Server.Moves
import Voicx.Server.PermWrite

/-!
# A client on its own way into a channel

One client sends control requests, everybody else stays passive. Which channels can it get into, and
does each of them let it in through its join gate?

* `OwnRequest`, `ownStep` — the requests of the client. `other` is any request not listed: it may
  change everything, except that it lets the client into no channel.
* `EntryGated` — the property of one request: if it makes the client a member of a channel, then the
  client met the channel's effective join power, and the password was absent, ignored by right or
  supplied.
* `SelfMove`, `SelfMoveGated` — the condition: where the client moves itself and its move power lets
  it through, the join gate of the channel is met too.
* `enters_cases` — a client enters by an accepted join or by an accepted move of itself only.
* `self_entry_gated_iff` — in every run of the client's requests, every entry is gated exactly when
  every such move is.
-/

namespace Voicx.Server

open Found State Permissions World

/-- A control request of the client. The flags say which loads and writes of the database
succeed. -/
inductive OwnRequest
  | join (msg : JoinChannel) (loads : Bool)
  | move (msg : MoveClient) (loads : Bool)
  /-- with the channels the handler lets the client subscribe to -/
  | subscribe (channelIDs : List Int)
  | unsubscribe (channelIDs : List Int)
  | channelEdit (msg : ChannelEdit) (loads stored : Bool)
  | permWrite (req : PermRequest) (f : Faults)
  /-- any other request, by the world it leaves -/
  | other (w' : World)

/-- The password a request supplies. -/
def OwnRequest.password : OwnRequest → Option String
  | .join msg _ => some msg.password
  | _ => none

section step

variable (cfg : Config) (lookupUser : String → Option Int) (sender : String) (w : World)

/-- A request that is refused leaves the world as it was. -/
def World.orSame : Except ErrorReply World → World
  | .ok w' => w'
  | .error _ => w

/-- The world after the request of a session that passed `dispatch`. -/
def serve (s : Session) : OwnRequest → World
  | .join msg loads => w.orSame (handleJoinChannel cfg w loads sender s msg)
  | .move msg loads => w.orSame (handleMoveClient cfg w loads sender s msg)
  | .subscribe channelIDs => { w with state := w.state.subscribe sender channelIDs }
  | .unsubscribe channelIDs => { w with state := w.state.unsubscribe sender channelIDs }
  | .channelEdit msg loads stored =>
    match handleChannelEdit w.state (w.loadChecker cfg loads sender s).toOption stored msg with
    | .ok m => { w with state := m }
    | .error _ => w
  | .permWrite req f =>
    { w with
      db :=
        { w.db with
          perms := (handlePerm lookupUser w.db.perms
            (w.loadChecker cfg f.load sender s).toOption f req).rows } }
  | .other w' => w'

/-- One request of the client. -/
def ownStep (req : OwnRequest) : World :=
  match w.sessions.lookup sender with
  | none => w
  | some s =>
    match dispatchRefusal s with
    | some _ => w
    | none => serve cfg lookupUser sender w s req

/-! ## The property and the condition -/

/-- The client met the join gate of a channel: the power, and no password, or the right to ignore
it, or the password. -/
def MeetsGate (s : Session) (ch : Channel) (password : Option String) : Prop :=
  (w.checker cfg sender s).power channelJoinPower ≥ w.state.effectiveJoinPower ch.channelID ∧
    (ch.passwordHash = "" ∨ (w.checker cfg sender s).granted channelJoinIgnorePassword = true ∨
      ∃ p, password = some p ∧ cfg.verifyPassword p ch.passwordHash = true)

/-- If the request makes the client a member of a channel it was not in, then it met the gate. -/
def EntryGated (req : OwnRequest) : Prop :=
  ∀ channelID, ¬w.MemberOf sender channelID →
    (ownStep cfg lookupUser sender w req).MemberOf sender channelID →
    ∃ s ch, w.sessions.lookup sender = some s ∧ w.state.channels.lookup channelID = some ch ∧
      MeetsGate cfg sender w s ch req.password

/-- A `move_client` of the client that names the client itself and a live channel it is not in,
sent by a session past the rules, with a move power that reaches its own needed move power. -/
structure SelfMove (w : World) (msg : MoveClient) (loads : Bool) (s : Session) (ch : Channel) :
    Prop where
  names : msg.clientID = sender
  loaded : loads = true
  session : w.sessions.lookup sender = some s
  authed : s.authed = true
  accepted : s.rulesPending = false
  channel : w.state.channels.lookup msg.channelID = some ch
  live : sender ∈ w.state.clients
  elsewhere : w.state.chanOf sender ≠ some msg.channelID
  outside : ¬w.MemberOf sender msg.channelID
  power : (w.checker cfg sender s).powerAtLeast PowerAction.move.powerKey
    ((w.checker cfg sender s).neededPower PowerAction.move.neededKey) = true

/-- A move of the client by itself goes only where the client has the join power and needs no
password. -/
def SelfMoveGated : OwnRequest → Prop
  | .move msg loads =>
    ∀ s ch, SelfMove cfg sender w msg loads s ch →
      (w.checker cfg sender s).power channelJoinPower ≥ w.state.effectiveJoinPower ch.channelID ∧
        (ch.passwordHash = "" ∨ (w.checker cfg sender s).granted channelJoinIgnorePassword = true)
  | _ => True

/-- The client is not an admin. -/
def NotAdmin : Prop :=
  ∀ s, w.sessions.lookup sender = some s → s.isAdmin = false

/-- Requests other than those listed let the client into no channel and do not make it an admin. -/
def OtherPassive : OwnRequest → Prop
  | .other w' =>
    (∀ channelID, w'.MemberOf sender channelID → w.MemberOf sender channelID) ∧ NotAdmin sender w'
  | _ => True

end step

/-! ## One request -/

section one

variable {cfg : Config} {lookupUser : String → Option Int} {sender : String} {w w' : World}
  {s : Session} {req : OwnRequest}

lemma admin_checker_of_notAdmin (h : s.isAdmin = false) :
    (w.checker cfg sender s).admin = false := by
  simp [checker, caller, h]

lemma membership_handleChannelEdit {m m' : Manager} {pc : Option PermChecker} {stored : Bool}
    {msg : ChannelEdit} (h : handleChannelEdit m pc stored msg = .ok m') :
    m'.membership = m.membership := by
  cases pc with
  | none =>
    unfold handleChannelEdit at h
    cases hch : m.getChannel msg.channelID <;> simp [hch] at h
  | some pc =>
    obtain ⟨channel, -, -, -, hupd⟩ := handleChannelEdit_ok h
    rcases Channels.updateChannel_ok hupd with ⟨-, hsame⟩ | ⟨-, hlive, hpatch⟩
    · rw [hsame]
    · obtain ⟨ch, hch⟩ := Finmap.mem_iff.mp hlive
      simp [hpatch, Manager.updateChannel, hch]

/-- What a request can do: leave sessions and memberships alone, or be an accepted join, an accepted
move, or a request not listed. -/
lemma serve_cases (cfg : Config) (lookupUser : String → Option Int) (sender : String) (w : World)
    (s : Session) (req : OwnRequest) :
    ((serve cfg lookupUser sender w s req).sessions = w.sessions ∧
        (serve cfg lookupUser sender w s req).state.membership = w.state.membership) ∨
      (∃ msg loads, req = .join msg loads ∧
        handleJoinChannel cfg w loads sender s msg = .ok (serve cfg lookupUser sender w s req)) ∨
      (∃ msg loads, req = .move msg loads ∧
        handleMoveClient cfg w loads sender s msg = .ok (serve cfg lookupUser sender w s req)) ∨
      ∃ w', req = .other w' ∧ serve cfg lookupUser sender w s req = w' := by
  cases req with
  | join msg loads =>
    cases h : handleJoinChannel cfg w loads sender s msg with
    | error e => exact .inl (by simp [serve, orSame, h])
    | ok w' => exact .inr (.inl ⟨msg, loads, rfl, by simp [serve, orSame, h]⟩)
  | move msg loads =>
    cases h : handleMoveClient cfg w loads sender s msg with
    | error e => exact .inl (by simp [serve, orSame, h])
    | ok w' => exact .inr (.inr (.inl ⟨msg, loads, rfl, by simp [serve, orSame, h]⟩))
  | subscribe channelIDs =>
    obtain ⟨_, _, heq⟩ := Manager.subscribe_eq w.state sender channelIDs
    exact .inl ⟨rfl, by rw [serve, heq]⟩
  | unsubscribe channelIDs =>
    refine .inl ⟨rfl, ?_⟩
    unfold serve Manager.unsubscribe
    cases w.state.subs.lookup sender <;> rfl
  | channelEdit msg loads stored =>
    cases h : handleChannelEdit w.state (w.loadChecker cfg loads sender s).toOption stored msg with
    | error e => exact .inl (by simp [serve, h])
    | ok m => exact .inl (by simp [serve, h, membership_handleChannelEdit h])
  | permWrite preq f => exact .inl ⟨rfl, rfl⟩
  | other w' => exact .inr (.inr (.inr ⟨w', rfl, rfl⟩))

lemma ownStep_cases (cfg : Config) (lookupUser : String → Option Int) (sender : String) (w : World)
    (req : OwnRequest) :
    ownStep cfg lookupUser sender w req = w ∨
      ∃ s, w.sessions.lookup sender = some s ∧
        ownStep cfg lookupUser sender w req = serve cfg lookupUser sender w s req := by
  unfold ownStep
  cases hs : w.sessions.lookup sender with
  | none => exact .inl rfl
  | some s =>
    cases hrefused : dispatchRefusal s with
    | some reply => exact .inl (by simp [hrefused])
    | none => exact .inr ⟨s, rfl, by simp [hrefused]⟩

/-- **The ways in.** A request makes its sender a member of a channel only as an accepted join, or
as an accepted move that names the sender. -/
theorem enters_cases {channelID : Int} (hpassive : OtherPassive sender w req)
    (hout : ¬w.MemberOf sender channelID)
    (hin : (serve cfg lookupUser sender w s req).MemberOf sender channelID) :
    (∃ msg loads w', req = .join msg loads ∧ handleJoinChannel cfg w loads sender s msg = .ok w' ∧
        channelID = msg.channelID) ∨
      ∃ msg loads w', req = .move msg loads ∧ handleMoveClient cfg w loads sender s msg = .ok w' ∧
        msg.clientID = sender ∧ channelID = msg.channelID := by
  rcases serve_cases cfg lookupUser sender w s req with
    ⟨-, hsame⟩ | ⟨msg, loads, rfl, hok⟩ | ⟨msg, loads, rfl, hok⟩ | ⟨w', rfl, -⟩
  · rw [MemberOf, hsame] at hin
    exact absurd hin hout
  · have hmove := (moveUnless_eq_ok_iff.mp hok).2
    exact .inl ⟨msg, loads, _, rfl, hok, (memberOf_of_moveClient hmove hin hout).2⟩
  · have hmove := (moveUnless_eq_ok_iff.mp hok).2
    obtain ⟨hself, hch⟩ := memberOf_of_moveClient hmove hin hout
    exact .inr ⟨msg, loads, _, rfl, hok, hself.symm, hch⟩
  · exact absurd (hpassive.1 channelID hin) hout

/-- No listed request touches the sender's session. -/
lemma notAdmin_ownStep (hpassive : OtherPassive sender w req) (h : NotAdmin sender w) :
    NotAdmin sender (ownStep cfg lookupUser sender w req) := by
  rcases ownStep_cases cfg lookupUser sender w req with hsame | ⟨s, -, hstep⟩
  · rwa [hsame]
  rw [hstep]
  rcases serve_cases cfg lookupUser sender w s req with
    ⟨hsame, -⟩ | ⟨msg, loads, rfl, hok⟩ | ⟨msg, loads, rfl, hok⟩ | ⟨w', rfl, hw'⟩
  · rwa [NotAdmin, hsame]
  · have hmove := (moveUnless_eq_ok_iff.mp hok).2
    rwa [NotAdmin, (moveClient_ok hmove).1]
  · have hmove := (moveUnless_eq_ok_iff.mp hok).2
    rwa [NotAdmin, (moveClient_ok hmove).1]
  · exact hpassive.2

variable {loads : Bool}

/-- A join is gated. -/
lemma meetsGate_of_join {msg : JoinChannel} (hadmin : s.isAdmin = false)
    (h : handleJoinChannel cfg w loads sender s msg = .ok w') :
    ∃ ch, w.state.channels.lookup msg.channelID = some ch ∧
      MeetsGate cfg sender w s ch (some msg.password) := by
  obtain ⟨-, ch, hch, hpower, hpass⟩ := joinRefusal_eq_none (moveUnless_eq_ok_iff.mp h).1
  have hpc : (w.checker cfg sender s).admin = false := admin_checker_of_notAdmin hadmin
  refine ⟨ch, hch, ?_, ?_⟩
  · simpa [PermChecker.joinAllowed, hpc] using hpower
  · simpa [passwordOK, or_assoc] using hpass

lemma checkPowerOver_self {pc : PermChecker} (h : pc.admin = false) {key neededKey : String} :
    checkPowerOver (.ok pc) (.ok pc) key neededKey = .ok () ↔
      pc.powerAtLeast key (pc.neededPower neededKey) = true := by
  simp [checkPowerOver_eq_ok_iff, h]

/-- A move of the client by itself is accepted and makes it a member of the channel. -/
theorem SelfMove.enters {msg : MoveClient} {ch : Channel} (hadmin : NotAdmin sender w)
    (h : SelfMove cfg sender w msg loads s ch) :
    (ownStep cfg lookupUser sender w (.move msg loads)).MemberOf sender msg.channelID := by
  obtain ⟨w', hmove, hmem⟩ :=
    exists_moveClient h.live (Finmap.mem_of_lookup_eq_some h.channel) h.elsewhere
  have hpc : (w.checker cfg sender s).admin = false := admin_checker_of_notAdmin (hadmin s h.session)
  have hok : handleMoveClient cfg w loads sender s msg = .ok w' := by
    refine moveUnless_eq_ok_iff.mpr ⟨?_, h.names.symm ▸ hmove⟩
    refine moveRefusal_eq_none_iff.mpr ⟨Finmap.mem_of_lookup_eq_some h.channel, s,
      h.names.symm ▸ h.session, h.authed, h.accepted, ?_⟩
    rw [h.names, h.loaded]
    exact (checkPowerOver_self hpc).mpr h.power
  have hstep : ownStep cfg lookupUser sender w (.move msg loads) = w' := by
    simp [ownStep, h.session, dispatchRefusal, h.authed, h.accepted, serve, orSame, hok]
  rwa [hstep]

/-- An accepted move of the client by itself into a channel it is not in. -/
lemma selfMove_of_accepted {msg : MoveClient} (hadmin : NotAdmin sender w)
    (hsession : w.sessions.lookup sender = some s) (hself : msg.clientID = sender)
    (hout : ¬w.MemberOf sender msg.channelID) (hin : w'.MemberOf sender msg.channelID)
    (h : handleMoveClient cfg w loads sender s msg = .ok w') :
    ∃ ch, SelfMove cfg sender w msg loads s ch := by
  obtain ⟨hchecks, hmove⟩ := moveUnless_eq_ok_iff.mp h
  obtain ⟨-, target, htarget, hauthed, hrules, hpower⟩ := moveRefusal_eq_none_iff.mp hchecks
  subst hself
  rw [hsession] at htarget
  cases htarget
  obtain ⟨c, hc, hlive, ⟨-, hsame⟩ | ⟨helse, -, -⟩⟩ :=
    Manager.moveClient_spec (moveClient_ok hmove).2.2
  · rw [MemberOf, hsame] at hin
    exact absurd hin hout
  obtain ⟨ch, hch⟩ := Finmap.mem_iff.mp hlive
  have hloads : loads = true := by
    cases loads with
    | true => rfl
    | false => simp [loadChecker, checkPowerOver] at hpower
  have hpc : (w.checker cfg msg.clientID s).admin = false :=
    admin_checker_of_notAdmin (hadmin s hsession)
  refine ⟨ch, rfl, hloads, hsession, hauthed, hrules, hch, Finmap.mem_of_lookup_eq_some hc, ?_,
    hout, ?_⟩
  · rw [Manager.chanOf, hc]
    exact fun hsame => helse (Option.some.inj hsame)
  · rw [hloads] at hpower
    exact (checkPowerOver_self hpc).mp hpower

/-- For a request of a client that is not an admin, the entry is gated exactly when a move of the
client by itself is. -/
lemma entryGated_iff (hpassive : OtherPassive sender w req) (hadmin : NotAdmin sender w) :
    EntryGated cfg lookupUser sender w req ↔ SelfMoveGated cfg sender w req := by
  constructor
  · intro h
    cases req with
    | move msg loads =>
      intro s ch hmove
      obtain ⟨s', ch', hs', hch', hpower, hpass⟩ :=
        h msg.channelID hmove.outside (hmove.enters hadmin)
      rw [hmove.session] at hs'
      rw [hmove.channel] at hch'
      cases hs'
      cases hch'
      exact ⟨hpower, by simpa [OwnRequest.password] using hpass⟩
    | _ => trivial
  · intro h channelID hout hin
    rcases ownStep_cases cfg lookupUser sender w req with hsame | ⟨s, hs, hstep⟩
    · rw [hsame] at hin
      exact absurd hin hout
    rw [hstep] at hin
    rcases enters_cases hpassive hout hin with
      ⟨msg, loads, w', rfl, hok, rfl⟩ | ⟨msg, loads, w', rfl, hok, hself, rfl⟩
    · obtain ⟨ch, hch, hgate⟩ := meetsGate_of_join (hadmin s hs) hok
      exact ⟨s, ch, hs, hch, hgate⟩
    have hw' : serve cfg lookupUser sender w s (.move msg loads) = w' := by
      simp [serve, orSame, hok]
    rw [hw'] at hin
    obtain ⟨ch, hmove⟩ := selfMove_of_accepted hadmin hs hself hout hin hok
    obtain ⟨hpower, hpass⟩ := h s ch hmove
    exact ⟨s, ch, hs, hmove.channel, hpower, hpass.imp_right .inl⟩

end one

/-! ## Whole runs -/

/-- **A client's entries are gated exactly when its moves of itself are.** For every client that is
not an admin and every sequence of its own requests: at every request that makes it a member of a
channel, it meets the channel's effective join power, and the password is absent, ignored by right
or supplied, if and only if every `move_client` that names the sender itself and passes the move
power goes to a channel whose join power the sender has and whose password it need not know. -/
theorem self_entry_gated_iff (cfg : Config) (lookupUser : String → Option Int) (sender : String)
    (w : World) (reqs : List OwnRequest) (hadmin : NotAdmin sender w)
    (hpassive : StepsOK (ownStep cfg lookupUser sender) (OtherPassive sender) w reqs) :
    StepsOK (ownStep cfg lookupUser sender) (EntryGated cfg lookupUser sender) w reqs ↔
      StepsOK (ownStep cfg lookupUser sender) (SelfMoveGated cfg sender) w reqs := by
  apply stepsOK_iff _ _ hadmin hpassive
  · intro w req hadmin hpassive
    exact notAdmin_ownStep hpassive hadmin
  · intro w req hadmin hpassive
    exact entryGated_iff hpassive hadmin

/-- The password is the hash. -/
def plainConfig : Config where
  verifyPassword := fun password hash => password == hash

/-- Alice in the lobby, in front of channel 1, which needs join power 50 and a password, and of
channel 2, which needs a password only. Her server group gives her the power to move clients. -/
def lobbyWorld : World where
  state := run Manager.step Manager.new
    [.addChannel { channelID := 1, neededJoinPower := 50, passwordHash := "secret" },
      .addChannel { channelID := 2, passwordHash := "open" }, .addClient { clientID := "alice" }]
  sessions := (∅ : FMap String Session).insert "alice" { userID := 7, authed := true }
  db :=
    { PermDB.empty with
      perms := PermRows.empty.put (.serverGroup 3)
        { key := PowerAction.move.powerKey, value := 10 }
      serverGroups := fun _ => [3] }

lemma lobbyWorld_session {s : Session} (h : lobbyWorld.sessions.lookup "alice" = some s) :
    s = { userID := 7, authed := true } := by
  have halice : lobbyWorld.sessions.lookup "alice" = some { userID := 7, authed := true } := by
    decide
  exact (Option.some.inj h).symm

lemma lobbyWorld_notAdmin : NotAdmin "alice" lobbyWorld := by
  intro s hs
  rw [lobbyWorld_session hs]

/-- Alice tries the one channel and gets into the other. -/
def joinRun : List OwnRequest :=
  [.join ⟨1, "secret"⟩ true, .subscribe [1], .join ⟨2, "guess"⟩ true, .join ⟨2, "open"⟩ true]

/-- Joins alone are gated, in whatever order and with whatever passwords. -/
theorem self_entry_gated_iff_joins :
    (run (ownStep plainConfig (fun _ => none) "alice") lobbyWorld joinRun).MemberOf "alice" 2 ∧
      StepsOK (ownStep plainConfig (fun _ => none) "alice")
        (EntryGated plainConfig (fun _ => none) "alice") lobbyWorld joinRun :=
  ⟨by decide, (self_entry_gated_iff plainConfig (fun _ => none) "alice" lobbyWorld joinRun
    lobbyWorld_notAdmin ⟨trivial, trivial, trivial, trivial, trivial⟩).mpr
      ⟨trivial, trivial, trivial, trivial, trivial⟩⟩

/-- **A client moves itself past the gate.** The join is refused; the move of herself puts Alice
into the channel, although her join power is 0 where 50 is needed. -/
theorem self_move_skips_gate :
    NotAdmin "alice" lobbyWorld ∧
      ¬(ownStep plainConfig (fun _ => none) "alice" lobbyWorld
        (.join ⟨1, "guess"⟩ true)).MemberOf "alice" 1 ∧
      (ownStep plainConfig (fun _ => none) "alice" lobbyWorld
        (.move ⟨"alice", 1⟩ true)).MemberOf "alice" 1 ∧
      ¬StepsOK (ownStep plainConfig (fun _ => none) "alice")
        (EntryGated plainConfig (fun _ => none) "alice") lobbyWorld
        [.move ⟨"alice", 1⟩ true] := by
  refine ⟨lobbyWorld_notAdmin, by decide, by decide, ?_⟩
  rintro ⟨hgated, -⟩
  obtain ⟨s, ch, hs, hch, hpower, -⟩ := hgated 1 (by decide) (by decide)
  have hid : ch.channelID = 1 := by
    have hone : (lobbyWorld.state.channels.lookup 1).map Channel.channelID = some 1 := by decide
    simpa [hch] using hone
  rw [lobbyWorld_session hs, hid] at hpower
  revert hpower
  decide

end Voicx.Server
