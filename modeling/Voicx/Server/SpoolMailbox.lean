import Voicx.Server.Mailbox

/-!
# The server as a careful mailbox

* `Careless` — the steps that can lose or reorder a message: a marking before the writes, a message
  that enters the queue after an earlier one was passed over, two logins of a user that deliver at
  once, a clock that does not advance, and the end of a connection that a relayed message waits on.
* `SpoolServer.mailbox` — the mailbox of a server.
* `ServerOK`, `ServerOK.effect` — what holds of the connections in every run.
* `SpoolServer.Effect.careful` — **refinement**: a step that is not careless is a careful step of
  the mailbox.
-/

namespace Voicx.Server.Spool

open Broadcast SpoolServer Connection List ClientQueue Mailbox.Careful

/-! ## What is in a queue -/

/-- The spooled messages among payloads. -/
def spooledOf (payloads : List Payload) : List SpooledMessage :=
  payloads.filterMap fun
    | .spooled m => some m
    | .direct _ _ | .event => none

@[simp]
lemma spooledOf_append (xs ys : List Payload) :
    spooledOf (xs ++ ys) = spooledOf xs ++ spooledOf ys := filterMap_append

lemma mem_spooledOf {payloads : List Payload} {m : SpooledMessage} :
    m ∈ spooledOf payloads ↔ .spooled m ∈ payloads := by
  rw [spooledOf, mem_filterMap]
  constructor
  · rintro ⟨payload, hmem, heq⟩
    cases payload with
    | spooled m' =>
      cases heq
      exact hmem
    | direct k m' | event => cases heq
  · intro hmem
    exact ⟨_, hmem, rfl⟩

/-- The direct messages to the connection's own user that it has not written. -/
def Connection.owed (conn : Connection) : List Payload :=
  conn.out.waiting.filter fun
    | .direct _ m => decide (conn.uniqueID = some m.toUniqueID)
    | .spooled _ | .event => false

/-- The login is putting messages into the queue. -/
def LoginStage.isDelivering : LoginStage → Bool
  | .delivering _ _ _ => true
  | _ => false

/-! ## Careless steps -/

def LoginStage.hasSkipped : LoginStage → Bool
  | .delivering _ _ skipped => skipped
  | _ => false

def SendStage.relayTarget : SendStage → Option ℕ
  | .relay _ target => some target
  | _ => none

def SendStage.spoolTarget : SendStage → Option Int
  | .spool _ userID => some userID
  | _ => none

/-- The steps that can lose or reorder a message. -/
def Careless (s : SpoolServer) : SpoolEvent → Prop
  -- the marking is committed while the connection has not written all
  | .mark c result => result.committed = true ∧ ∃ conn ∈ s.conns c, spooledOf conn.out.waiting ≠ []
  -- the queue has refused a message and takes a later one
  | .enqueue c => ∃ conn ∈ s.conns c, conn.stage.hasSkipped = true ∧ conn.out.registered = true ∧
      conn.out.buffer.length ≠ clientBufferSize
  -- another login of the user has read the messages and not marked them
  | .pending c _ _ => ∃ conn ∈ s.conns c, ∃ c' ∈ s.clients, c' ≠ c ∧ ∃ conn' ∈ s.conns c',
      conn'.userID = conn.userID ∧ conn'.stage.isDelivering = true
  -- a message of the user is not older than the new one
  | .spool k _ sentAt => ∃ userID ∈ (s.calls k).spoolTarget, ∃ row ∈ s.spool,
      row.toUserID = userID ∧ sentAt ≤ row.sentAt
  -- a message is relayed to a connection that has ended, or a connection ends with one
  | .relay k => ∃ target ∈ (s.calls k).relayTarget, ∃ conn ∈ s.conns target, conn.isUp = false
  | .close c => ∃ conn ∈ s.conns c, conn.owed ≠ []
  | .write c ok => ∃ conn ∈ s.conns c, (ok && conn.isOpen) = false ∧ conn.owed ≠ []
  | _ => False

instance (s : SpoolServer) (event : SpoolEvent) : Decidable (Careless s event) :=
  match event with
  | .mark c result => inferInstanceAs (Decidable (result.committed = true ∧ ∃ conn ∈ s.conns c, _))
  | .enqueue c => inferInstanceAs (Decidable (∃ conn ∈ s.conns c, _ ∧ _))
  | .pending c _ _ => inferInstanceAs (Decidable (∃ conn ∈ s.conns c, ∃ c' ∈ s.clients, _ ∧ _))
  | .spool k _ _ => inferInstanceAs (Decidable (∃ userID ∈ (s.calls k).spoolTarget, _))
  | .relay k => inferInstanceAs (Decidable (∃ target ∈ (s.calls k).relayTarget, _))
  | .close c => inferInstanceAs (Decidable (∃ conn ∈ s.conns c, _))
  | .write c _ => inferInstanceAs (Decidable (∃ conn ∈ s.conns c, _ ∧ _))
  | .connect _ | .authenticate _ _ | .register _ _ | .broadcast _ | .take _ | .unregister _
  | .onDisconnect _ | .send _ _ _ | .lookup _ _ => inferInstanceAs (Decidable False)

/-! ## The server as a mailbox -/

def LoginStage.phase : LoginStage → Phase
  | .connected | .authenticated | .registered => .waiting
  | .delivering rest _ skipped => .delivering rest skipped
  | .finished failed => .finished failed

lemma LoginStage.eq_finished {stage : LoginStage} {failed : Bool}
    (h : stage.phase = .finished failed) : stage = .finished failed := by
  cases stage <;> cases h
  rfl

def Connection.session (conn : Connection) : Session where
  user := conn.userID
  phase := conn.stage.phase
  sent := spooledOf conn.out.contents
  got := spooledOf conn.out.written

def SpoolServer.mailbox (s : SpoolServer) : Mailbox where
  rows := s.spool
  nextID := s.nextID
  sessions c := ((s.conns c).map Connection.session).getD {}

section mailbox

variable {s : SpoolServer} {c k : ℕ} {conn conn' : Connection}

lemma sessions_mailbox (hc : s.conns c = some conn) : s.mailbox.sessions c = conn.session := by
  simp [mailbox, hc]

@[simp]
lemma mailbox_setCall (s : SpoolServer) (k : ℕ) (stage : SendStage) :
    (s.setCall k stage).mailbox = s.mailbox := rfl

lemma mailbox_setConn (s : SpoolServer) (c : ℕ) (conn : Connection) :
    (s.setConn c conn).mailbox = s.mailbox.set c conn.session := by
  have hsessions : (s.setConn c conn).mailbox.sessions = (s.mailbox.set c conn.session).sessions := by
    funext c'
    by_cases hc : c' = c
    all_goals simp [mailbox, setConn, Mailbox.set, hc]
  exact congrArg (fun sessions => (⟨s.spool, s.nextID, sessions⟩ : Mailbox)) hsessions

lemma set_session (hc : s.conns c = some conn) : s.mailbox.set c conn.session = s.mailbox := by
  rw [← sessions_mailbox hc]
  simp [Mailbox.set]

/-- A step that the mailbox does not see. -/
lemma mailbox_setConn_of_eq (hc : s.conns c = some conn) (h : conn'.session = conn.session) :
    (s.setConn c conn').mailbox = s.mailbox := by
  rw [mailbox_setConn, h, set_session hc]

end mailbox

/-- What holds of a connection in every run. -/
structure ConnOK (conn : Connection) : Prop where
  identity : conn.stage = .connected → conn.identity = none
  waiting : conn.stage.phase = .waiting → spooledOf conn.out.contents = []
  ids : ∀ rest ids skipped, conn.stage = .delivering rest ids skipped →
    ids = (spooledOf conn.out.contents).map SpooledMessage.id

/-- The login has not come to its end. -/
def LoginStage.isActive : LoginStage → Bool
  | .finished _ => false
  | _ => true

/-- What holds of the server in every run. -/
structure ServerOK (s : SpoolServer) : Prop where
  conns : ∀ c conn, s.conns c = some conn → ConnOK conn
  active : ∀ c conn, s.conns c = some conn → conn.stage.isActive = true → c ∈ s.clients

section careful

variable {s s' : SpoolServer} {c k : ℕ} {conn : Connection}

/-- The mailbox does not see payloads other than spooled messages. -/
lemma mailbox_broadcastToClient {payload : Payload} (h : s.broadcastToClient c payload = some s')
    (hpayload : spooledOf [payload] = []) : s'.mailbox = s.mailbox := by
  obtain ⟨conn, hc, rfl⟩ := broadcastToClient_eq_some h
  refine mailbox_setConn_of_eq hc ?_
  simp [session, userID, hpayload]

lemma mailbox_relayDirect (s : SpoolServer) (k : ℕ) (m : DirectMessage) (target : ℕ) :
    (s.relayDirect k m target).mailbox = s.mailbox := by
  unfold relayDirect
  split
  · rfl
  · rename_i s' hs'
    rw [mailbox_setCall, ← mailbox_broadcastToClient hs' rfl]
    cases hecho : s'.broadcastToClient m.sender (.direct k m) with
    | none => rfl
    | some s'' => exact mailbox_broadcastToClient hecho rfl

/-- **The undelivered messages are read.** -/
theorem careful_readPending (hs : ServerOK s) (hc : s.conns c = some conn)
    (hstage : conn.stage = .registered) {nickname : Int → String}
    {result : Option (List SpooledMessage)} (hcareful : ¬Careless s (.pending c nickname result)) :
    s.mailbox.Careful (s.readPending c conn nickname result).mailbox := by
  have hsession := sessions_mailbox hc
  have hphase : (s.mailbox.sessions c).phase = .waiting := by
    rw [hsession, session, hstage]
    rfl
  have hgiveUp : s.mailbox.Careful
      (s.setConn c { conn with stage := .finished false }).mailbox := by
    rw [mailbox_setConn]
    have := giveUp c hphase
    rwa [hsession] at this
  unfold readPending
  split
  · rename_i user messages huser
    split_ifs with hpending hempty
    · exact hgiveUp
    · rw [mailbox_setConn]
      have halone : s.mailbox.Alone c user := by
        intro c' hne huser' rest skipped hdelivering
        cases hc' : s.conns c' with
        | none => simp [mailbox, hc'] at huser'
        | some conn' =>
          rw [sessions_mailbox hc'] at huser' hdelivering
          have hstage' : conn'.stage.isDelivering = true ∧ conn'.stage.isActive = true := by
            cases hcase : conn'.stage <;> simp [session, hcase, LoginStage.phase] at hdelivering
            exact ⟨rfl, rfl⟩
          exact hcareful ⟨conn, hc, c', hs.active c' conn' hc' hstage'.2, hne, conn', hc',
            huser'.trans huser.symm, hstage'.1⟩
      have huser : (s.mailbox.sessions c).user = some user := by rw [hsession]; exact huser
      have := start c user nickname messages huser hphase hpending halone
      rwa [hsession] at this
    · exact .stay
  · exact hgiveUp

variable {ids : List Int} {skipped : Bool}

/-- **A message goes into the queue, or is passed over.** -/
theorem careful_enqueueNext (hc : s.conns c = some conn) {m : SpooledMessage}
    {rest : List SpooledMessage} (hstage : conn.stage = .delivering (m :: rest) ids skipped)
    (hcareful : ¬Careless s (.enqueue c)) :
    s.mailbox.Careful (s.enqueueNext c conn m rest ids skipped).mailbox := by
  have hsession := sessions_mailbox hc
  have hphase : (s.mailbox.sessions c).phase = .delivering (m :: rest) skipped := by
    rw [hsession, session, hstage]
    rfl
  unfold enqueueNext
  split
  · rename_i hout
    -- the queue has room, so nothing was passed over before
    have hroom := room_of_broadcastToClient hout
    have hskipped : skipped = false := by
      by_contra hskipped
      refine hcareful ⟨conn, hc, ?_, hroom⟩
      rw [hstage]
      exact Bool.eq_true_of_not_eq_false hskipped
    subst hskipped
    have hsend := send c m rest hphase
    rw [hsession] at hsend
    rw [mailbox_setConn, broadcastToClient_eq_ok hout]
    simpa [session, userID, LoginStage.phase, spooledOf] using hsend
  · rw [mailbox_setConn]
    have := skip c m rest skipped hphase
    rwa [hsession] at this

/-- **What was enqueued is marked**, when the connection has written all of it. -/
theorem careful_markDelivered (hs : ServerOK s) (hc : s.conns c = some conn)
    (hstage : conn.stage = .delivering [] ids skipped) {result : WriteResult}
    (hcareful : ¬Careless s (.mark c result)) :
    s.mailbox.Careful (s.markDelivered c conn ids result).mailbox := by
  have hsession := sessions_mailbox hc
  have hphase : (s.mailbox.sessions c).phase = .delivering [] skipped := by
    rw [hsession, session, hstage]
    rfl
  have hids := (hs.conns c conn hc).ids _ _ _ hstage
  unfold markDelivered
  split_ifs with hempty hcommitted
  · -- nothing was enqueued, and nothing is marked
    have hsent : conn.session.sent = [] := map_eq_nil_iff.mp (hids.symm.trans hempty)
    have hmark := markNone c skipped hphase (hsession ▸ hsent)
    rw [mailbox_setConn]
    rwa [hsession] at hmark
  · have hwaiting : spooledOf conn.out.waiting = [] := by
      by_contra hne
      exact hcareful ⟨hcommitted, conn, hc, hne⟩
    have hgot : conn.session.got = conn.session.sent := by
      simp [session, contents, hwaiting]
    have hmark := mark c skipped (!result.reported) hphase (hsession ▸ hgot)
    rw [mailbox_setConn, hids]
    rwa [hsession] at hmark
  · have hfailed : result.reported = false := by
      cases result <;> simp_all [WriteResult.committed, WriteResult.reported]
    have hmark := markFailed c skipped hphase
    rw [mailbox_setConn, hfailed]
    rwa [hsession] at hmark

/-- **A write.** -/
theorem careful_write (hc : s.conns c = some conn) (ok : Bool) :
    s.mailbox.Careful (s.setConn c { conn with out := conn.out.write ok }).mailbox := by
  have hsession := sessions_mailbox hc
  rcases conn.out.write_cases ok with ⟨payload, -, hwaiting, heq⟩ | ⟨payload, -, -, heq⟩ | heq
  · have hcontents : { conn with out := conn.out.write ok }.out.contents = conn.out.contents :=
      contents_write _ _
    have hother : spooledOf [payload] = [] →
        s.mailbox.Careful (s.setConn c { conn with out := conn.out.write ok }).mailbox := by
      intro hpayload
      rw [mailbox_setConn_of_eq hc]
      · exact .stay
      · simp only [session, hcontents]
        simp [heq, hpayload, userID]
    cases payload with
    | spooled m =>
      have hsession' : { conn with out := conn.out.write ok }.session =
          { conn.session with got := conn.session.got ++ [m] } := by
        simp only [session, hcontents]
        simp [heq, spooledOf, userID]
      have hsent : conn.session.sent = conn.session.got ++ [m] ++ spooledOf conn.out.buffer := by
        simp [session, contents, hwaiting, spooledOf]
      have hwrite := write c m (by rw [hsession, hsent]; exact prefix_append _ _)
      rw [mailbox_setConn, hsession']
      rwa [hsession] at hwrite
    | direct k m | event => exact hother rfl
  · rw [mailbox_setConn_of_eq hc]
    · exact .stay
    · rw [heq]
      rfl
  · rw [mailbox_setConn_of_eq hc]
    · exact .stay
    · rw [heq]

/-- **A message is spooled.** -/
theorem careful_storeDirect {m : DirectMessage} {userID : Int} (hk : s.calls k = .spool m userID)
    {result : WriteResult} {sentAt : Int} (hcareful : ¬Careless s (.spool k result sentAt)) :
    s.mailbox.Careful (s.storeDirect k m userID result sentAt).mailbox := by
  unfold storeDirect
  rw [mailbox_setCall]
  split_ifs
  · refine .insert (m.row s.nextID userID sentAt) rfl (fun row hrow huser => ?_) rfl
    by_contra hle
    refine hcareful ⟨userID, ?_, row, hrow, huser, not_lt.mp hle⟩
    rw [hk]
    rfl
  · exact .stay

/-- A step that the mailbox does not see, as a step of it. -/
lemma careful_setConn {conn' : Connection} (hc : s.conns c = some conn)
    (h : conn'.session = conn.session) : s.mailbox.Careful (s.setConn c conn').mailbox := by
  rw [mailbox_setConn_of_eq hc h]
  exact .stay

/-- **Without careless steps, the server is a careful mailbox.** -/
theorem SpoolServer.Effect.careful {event : SpoolEvent} (h : s.Effect event s') (hs : ServerOK s)
    (hcareful : ¬Careless s event) : s.mailbox.Careful s'.mailbox := by
  cases h with
  | stay => exact .stay
  | @connect c hc =>
    -- a connection that is not known has an empty session
    have hsession : s.mailbox.sessions c = ({} : Connection).session := by
      simp only [mailbox, hc]
      rfl
    have hmailbox : s.mailbox.set c ({} : Connection).session = s.mailbox := by
      rw [← hsession]
      simp [Mailbox.set]
    have hsame : ({ s with clients := c :: s.clients }.setConn c {}).mailbox = s.mailbox :=
      (mailbox_setConn _ c {}).trans hmailbox
    rw [hsame]
    exact .stay
  | @authenticate c conn identity hc hstage =>
    have hphase : (s.mailbox.sessions c).phase = .waiting := by
      rw [sessions_mailbox hc, session, hstage]
      rfl
    have hidentify := identify c identity.userID hphase
    rw [sessions_mailbox hc, session, hstage] at hidentify
    rw [mailbox_setConn]
    exact hidentify
  | @register c conn ok hc hstage =>
    refine careful_setConn hc ?_
    cases ok <;> simp [session, userID, hstage, LoginStage.phase]
  | pending hc hstage => exact careful_readPending hs hc hstage hcareful
  | enqueue hc hstage => exact careful_enqueueNext hc hstage hcareful
  | mark hc hstage => exact careful_markDelivered hs hc hstage hcareful
  | broadcast h =>
    rw [mailbox_broadcastToClient h rfl]
    exact .stay
  | take hc =>
    refine careful_setConn hc ?_
    simp [session, userID]
  | write hc => exact careful_write hc _
  | close hc => exact careful_setConn hc rfl
  | @unregister c conn hc hstage =>
    rw [mailbox_setConn]
    cases hcase : conn.stage with
    | delivering rest ids skipped => exact absurd hcase (hstage rest ids skipped)
    | finished failed =>
      have hsession : { conn with stage := .finished failed }.session = conn.session := by
        rw [session, session, hcase]
        rfl
      have hsame : s.mailbox.set c { conn with stage := .finished failed }.session = s.mailbox := by
        rw [hsession, set_session hc]
      exact Eq.subst (motive := s.mailbox.Careful) hsame.symm .stay
    | _ =>
      have hphase : (s.mailbox.sessions c).phase = .waiting := by
        rw [sessions_mailbox hc, session, hcase]
        rfl
      have hgiveUp := giveUp c hphase
      rw [sessions_mailbox hc] at hgiveUp
      exact hgiveUp
  | onDisconnect hc => exact careful_setConn hc rfl
  | send hk =>
    unfold startSend
    split <;> exact .stay
  | relay hk =>
    rw [mailbox_relayDirect]
    exact .stay
  | lookup hk =>
    unfold lookupUser
    split
    · split_ifs <;> exact .stay
    iterate 2 exact .stay
  | spool hk => exact careful_storeDirect hk hcareful

end careful

/-! ## Connections in every run -/

section connections

variable {s s' : SpoolServer} {c : ℕ} {conn conn' : Connection} (hs : ServerOK s)

include hs

/-- A connection changes, and the other clients stay. -/
lemma ServerOK.setClient (hok : ConnOK conn) {clients : List ℕ}
    (hactive : conn.stage.isActive = true → c ∈ clients)
    (hstay : ∀ c' ≠ c, c' ∈ s.clients → c' ∈ clients) :
    ServerOK ({ s with clients }.setConn c conn) := by
  refine ⟨fun c' conn' hc' => ?_, fun c' conn' hc' hstage => ?_⟩
  · simp only [setConn, Function.update_apply] at hc'
    split_ifs at hc' with heq
    · cases hc'
      exact hok
    · exact hs.conns c' conn' hc'
  · simp only [setConn, Function.update_apply] at hc'
    split_ifs at hc' with heq
    · cases hc'
      rw [heq]
      exact hactive hstage
    · exact hstay c' heq (hs.active c' conn' hc' hstage)

lemma ServerOK.setConn (hok : ConnOK conn)
    (hactive : conn.stage.isActive = true → c ∈ s.clients) : ServerOK (s.setConn c conn) :=
  hs.setClient hok hactive fun _ _ => id

/-- The queue changes, and its spooled messages do not. -/
lemma ServerOK.setOut (hc : s.conns c = some conn) {out : ClientQueue Payload}
    (hout : spooledOf out.contents = spooledOf conn.out.contents) :
    ServerOK (s.setConn c { conn with out }) := by
  obtain ⟨hidentity, hwaiting, hids⟩ := hs.conns c conn hc
  refine hs.setConn ⟨hidentity, fun h => hout.trans (hwaiting h), fun rest ids skipped h => ?_⟩
    (hs.active c conn hc)
  rw [hids rest ids skipped h, hout]

lemma ServerOK.broadcastToClient {payload : Payload}
    (h : s.broadcastToClient c payload = some s') (hpayload : spooledOf [payload] = []) :
    ServerOK s' := by
  obtain ⟨conn, hc, rfl⟩ := broadcastToClient_eq_some h
  refine hs.setOut hc ?_
  rw [contents_append, spooledOf_append, hpayload, append_nil]

lemma ServerOK.setCall (k : ℕ) (stage : SendStage) : ServerOK (s.setCall k stage) :=
  ⟨hs.conns, hs.active⟩

/-- The login is over. -/
lemma ServerOK.finish (conn : Connection) (failed : Bool) :
    ServerOK (s.setConn c { conn with stage := .finished failed }) :=
  hs.setConn ⟨nofun, nofun, nofun⟩ nofun

/-- The handler leaves. -/
theorem ServerOK.leave :
    ServerOK ({ s with clients := s.clients.filter (· ≠ c) }.setConn c
      { conn with stage := conn.stage.left }) := by
  obtain ⟨failed, hleft⟩ : ∃ failed, conn.stage.left = .finished failed := by
    cases conn.stage <;> exact ⟨_, rfl⟩
  rw [hleft]
  have hok : ConnOK { conn with stage := .finished failed } := ⟨nofun, nofun, nofun⟩
  exact hs.setClient hok nofun fun c' hne hin => by simp [hne, hin]

lemma ServerOK.readPending (hc : s.conns c = some conn)
    (hstage : conn.stage = .registered) (nickname : Int → String)
    (result : Option (List SpooledMessage)) : ServerOK (s.readPending c conn nickname result) := by
  have hnone : spooledOf conn.out.contents = [] :=
    (hs.conns c conn hc).waiting (by rw [hstage]; rfl)
  unfold SpoolServer.readPending
  split
  · split_ifs
    · exact hs.finish conn false
    · refine hs.setConn ⟨nofun, nofun, ?_⟩ fun _ => hs.active c conn hc (by rw [hstage]; rfl)
      rintro rest ids skipped ⟨⟩
      simp [hnone]
    · exact hs
  · exact hs.finish conn false

lemma ServerOK.enqueueNext (hc : s.conns c = some conn) {m : SpooledMessage}
    {rest : List SpooledMessage} {ids : List Int} {skipped : Bool}
    (hstage : conn.stage = .delivering (m :: rest) ids skipped) :
    ServerOK (s.enqueueNext c conn m rest ids skipped) := by
  have hids := (hs.conns c conn hc).ids _ _ _ hstage
  have hactive : c ∈ s.clients := hs.active c conn hc (by rw [hstage]; rfl)
  unfold SpoolServer.enqueueNext
  split
  · rename_i hout
    refine hs.setConn ⟨nofun, nofun, ?_⟩ fun _ => hactive
    rintro rest ids' skipped ⟨⟩
    rw [broadcastToClient_eq_ok hout, hids]
    simp [spooledOf]
  · refine hs.setConn ⟨nofun, nofun, ?_⟩ fun _ => hactive
    rintro rest ids' skipped ⟨⟩
    exact hids

/-- Every step keeps what holds of the server. -/
theorem ServerOK.effect {event : SpoolEvent} (h : s.Effect event s') : ServerOK s' := by
  cases h with
  | stay => exact hs
  | @connect c hc =>
    have hok : ConnOK {} := ⟨fun _ => rfl, fun _ => rfl, nofun⟩
    exact hs.setClient hok (fun _ => mem_cons_self) fun _ _ => mem_cons_of_mem _
  | @authenticate c conn identity hc hstage =>
    have hnone := (hs.conns c conn hc).waiting (by rw [hstage]; rfl)
    exact hs.setConn ⟨nofun, fun _ => hnone, nofun⟩ fun _ =>
      hs.active c conn hc (by rw [hstage]; rfl)
  | @register c conn ok hc hstage =>
    have hnone := (hs.conns c conn hc).waiting (by rw [hstage]; rfl)
    refine hs.setConn ⟨nofun, fun _ => ?_, nofun⟩ fun _ =>
      hs.active c conn hc (by rw [hstage]; rfl)
    cases ok <;> exact hnone
  | pending hc hstage => exact hs.readPending hc hstage _ _
  | enqueue hc hstage => exact hs.enqueueNext hc hstage
  | @mark c conn ids skipped result hc hstage =>
    unfold markDelivered
    split_ifs
    · exact hs.finish conn false
    · have hs' : ServerOK { s with spool := markMessagesDelivered ids s.spool } :=
        ⟨hs.conns, hs.active⟩
      exact hs'.finish conn _
    · exact hs.finish conn _
  | broadcast h => exact hs.broadcastToClient h rfl
  | take hc | write hc => exact hs.setOut hc (by simp)
  | @close c conn hc =>
    obtain ⟨hidentity, hwaiting, hids⟩ := hs.conns c conn hc
    exact hs.setConn ⟨hidentity, hwaiting, hids⟩ (hs.active c conn hc)
  | unregister hc hstage => exact hs.leave
  | onDisconnect hc => exact hs.setOut hc rfl
  | @send k m pick hk =>
    unfold startSend
    split <;> exact hs.setCall k _
  | @relay k m target hk =>
    unfold relayDirect
    split
    · exact hs.setCall k _
    rename_i s' hs'
    have hok := hs.broadcastToClient hs' rfl
    refine ServerOK.setCall ?_ k _
    cases hecho : s'.broadcastToClient m.sender (.direct k m) with
    | none => exact hok
    | some s'' => exact hok.broadcastToClient hecho rfl
  | @lookup k m result hk =>
    unfold lookupUser
    split
    · split_ifs <;> exact hs.setCall k _
    · exact hs.setCall k _
    · exact hs.setCall k _
  | @spool k m userID result sentAt hk =>
    refine ServerOK.setCall ?_ k _
    split_ifs
    · exact ⟨hs.conns, hs.active⟩
    · exact hs

end connections

end Voicx.Server.Spool
