import Voicx.Server.SpoolMailbox

/-!
# Direct messages are not lost or reordered

* `Delivered` — a spooled message was written to a connection of its user.
* `NothingLost` — a message that was spooled stays undelivered in the table until it is written; one
  that was relayed waits on a connection that is up until it is written; a message is written on two
  connections only if one of them failed to mark it; messages are written in their order.
* `Keeps`, `StagesOK` — what a step keeps of the messages, and where the calls are.
* **`nothing_lost`** — the property in every state of every run without careless steps.
-/

namespace Voicx.Server.Spool

open Broadcast Found SpoolServer List Option ClientQueue Connection

/-! ## What is promised -/

variable (s : SpoolServer)

/-- The row was written to a connection of its user. -/
def Delivered (row : SpoolRow) : Prop :=
  ∃ c conn, s.conns c = some conn ∧ conn.userID = some row.toUserID ∧
    ∃ nickname, .spooled (row.toMessage nickname) ∈ conn.out.written

/-- The connection has written the direct message of a call, or will if nothing happens to it. -/
def Connection.Holds (conn : Connection) (k : ℕ) (m : DirectMessage) : Prop :=
  .direct k m ∈ conn.out.written ∨ conn.isUp = true ∧ .direct k m ∈ conn.out.waiting

/-- Nothing is lost, written again, or reordered. -/
structure NothingLost (s : SpoolServer) : Prop where
  /-- a message that was spooled is undelivered in the table, or it was written -/
  spooled : ∀ k m row, s.calls k = .spooled m row →
    (∃ id userID sentAt, row = m.row id userID sentAt) ∧ (row ∈ s.spool ∨ Delivered s row)
  /-- a message that was relayed is with a connection of its user -/
  relayed : ∀ k m, s.calls k = .relayed m →
    ∃ c conn, s.conns c = some conn ∧ conn.uniqueID = some m.toUniqueID ∧ conn.Holds k m
  /-- a message is written by two logins only if one of them failed to mark it -/
  once : ∀ c c' conn conn' m m', c ≠ c' → s.conns c = some conn → s.conns c' = some conn' →
    .spooled m ∈ conn.out.written → .spooled m' ∈ conn'.out.written → m.id = m'.id →
      conn.stage = .finished true ∨ conn'.stage = .finished true
  /-- a connection is written messages in the order in which they were spooled, each once -/
  increasing : ∀ c conn, s.conns c = some conn →
    ((spooledOf conn.out.written).map SpooledMessage.id).Pairwise (· < ·)
  /-- a message is written only after those that were spooled before it -/
  ordered : ∀ row ∈ s.spool, ∀ row' ∈ s.spool, row.toUserID = row'.toUserID → row.id < row'.id →
    Delivered s row' → Delivered s row

lemma writtenTo_mailbox (row : SpoolRow) : s.mailbox.WrittenTo row ↔ Delivered s row := by
  constructor
  · rintro ⟨c, huser, nickname, hgot⟩
    cases hc : s.conns c with
    | none => simp [mailbox, hc] at hgot
    | some conn =>
      rw [sessions_mailbox hc] at huser hgot
      exact ⟨c, conn, hc, huser, nickname, mem_spooledOf.mp hgot⟩
  · rintro ⟨c, conn, hc, huser, nickname, hwritten⟩
    refine ⟨c, ?_⟩
    rw [sessions_mailbox hc]
    exact ⟨huser, nickname, mem_spooledOf.mpr hwritten⟩

/-! ## Messages in every run -/

/-- What a call has reached. -/
def StageOK (k : ℕ) : SendStage → Prop
  | .relay m target => ∃ conn, s.conns target = some conn ∧ conn.uniqueID = some m.toUniqueID
  | .relayed m => ∃ c conn, s.conns c = some conn ∧ conn.uniqueID = some m.toUniqueID ∧ conn.Holds k m
  | .spooled m row => (∃ id userID sentAt, row = m.row id userID sentAt) ∧
      ∃ ids, row.mark ids ∈ s.spool
  | .idle | .lookup _ | .spool _ _ | .refused _ _ => True

/-- What one connection keeps: its user, and the direct messages to it. -/
structure ConnKeeps (conn conn' : Connection) : Prop where
  uniqueID : ∀ uniqueID, conn.uniqueID = some uniqueID → conn'.uniqueID = some uniqueID
  holds : ∀ k m, conn.uniqueID = some m.toUniqueID → conn.Holds k m → conn'.Holds k m

/-- What the server keeps. -/
structure Keeps (s s' : SpoolServer) : Prop where
  conns : ∀ c conn, s.conns c = some conn → ∃ conn', s'.conns c = some conn' ∧ ConnKeeps conn conn'
  spool : ∀ row ∈ s.spool, ∃ ids, row.mark ids ∈ s'.spool

section keeps

variable {s s' s'' : SpoolServer} {c k : ℕ} {conn conn' : Connection}

lemma mark_mark (ids ids' : List Int) (row : SpoolRow) :
    (row.mark ids).mark ids' = row.mark (ids ++ ids') := by
  by_cases h : row.id ∈ ids <;> by_cases h' : row.id ∈ ids' <;> simp [SpoolRow.mark, h, h']

lemma mark_nil (row : SpoolRow) : row.mark [] = row := by simp [SpoolRow.mark]

lemma ConnKeeps.refl (conn : Connection) : ConnKeeps conn conn := ⟨fun _ h => h, fun _ _ _ h => h⟩

variable {stage : SendStage} {payload : Payload} {event : SpoolEvent} {target : ℕ}

theorem StageOK.keeps (h : StageOK s k stage) (hs : Keeps s s') : StageOK s' k stage := by
  cases stage with
  | relay m target =>
    obtain ⟨conn, hc, huid⟩ := h
    obtain ⟨conn', hc', hkeeps⟩ := hs.conns target conn hc
    exact ⟨conn', hc', hkeeps.uniqueID _ huid⟩
  | relayed m =>
    obtain ⟨c, conn, hc, huid, hholds⟩ := h
    obtain ⟨conn', hc', hkeeps⟩ := hs.conns c conn hc
    exact ⟨c, conn', hc', hkeeps.uniqueID _ huid, hkeeps.holds k m huid hholds⟩
  | spooled m row =>
    obtain ⟨hrow, ids, hmem⟩ := h
    obtain ⟨ids', hmem'⟩ := hs.spool _ hmem
    exact ⟨hrow, ids ++ ids', mark_mark ids ids' row ▸ hmem'⟩
  | _ => exact h

lemma Keeps.of_eq (hconns : s'.conns = s.conns) (hspool : s'.spool = s.spool) : Keeps s s' where
  conns c conn hc := ⟨conn, hconns ▸ hc, .refl conn⟩
  spool row hrow := ⟨[], by rwa [mark_nil, hspool]⟩

lemma Keeps.trans (h : Keeps s s') (h' : Keeps s' s'') : Keeps s s'' where
  conns c conn hc := by
    obtain ⟨conn', hc', hkeeps⟩ := h.conns c conn hc
    obtain ⟨conn'', hc'', hkeeps'⟩ := h'.conns c conn' hc'
    refine ⟨conn'', hc'', fun uid huid => hkeeps'.uniqueID _ (hkeeps.uniqueID _ huid), ?_⟩
    intro k m huid hholds
    exact hkeeps'.holds k m (hkeeps.uniqueID _ huid) (hkeeps.holds k m huid hholds)
  spool row hrow := by
    obtain ⟨ids, hrow⟩ := h.spool row hrow
    obtain ⟨ids', hrow⟩ := h'.spool _ hrow
    exact ⟨ids ++ ids', mark_mark ids ids' row ▸ hrow⟩

lemma Keeps.setCall (h : Keeps s s') (k : ℕ) (stage : SendStage) : Keeps s (s'.setCall k stage) :=
  ⟨h.conns, h.spool⟩

lemma Keeps.setConn (hc : s.conns c = some conn) (h : ConnKeeps conn conn') :
    Keeps s (s.setConn c conn') where
  conns c' conn'' hc' := by
    by_cases heq : c' = c
    · subst heq
      cases hc'.symm.trans hc
      exact ⟨conn', by simp [setConn], h⟩
    · exact ⟨conn'', by simpa [SpoolServer.setConn, heq] using hc', .refl _⟩
  spool row hrow := ⟨[], by rwa [mark_nil]⟩

/-! ### What the steps keep -/

/-- A queue that has written at least as much, and has not lost its writer. -/
lemma ConnKeeps.setOut {out : ClientQueue Payload}
    (hwritten : ∀ payload ∈ conn.out.written, payload ∈ out.written)
    (hwriting : conn.out.writing = true → out.writing = true)
    (hwaiting : ∀ payload ∈ conn.out.waiting, payload ∈ out.written ∨ payload ∈ out.waiting) :
    ConnKeeps conn { conn with out } := by
  refine ⟨fun _ h => h, fun k m _ hholds => ?_⟩
  rcases hholds with hmem | ⟨hup, hmem⟩
  · exact .inl (hwritten _ hmem)
  · rcases hwaiting _ hmem with hmem | hmem
    · exact .inl hmem
    · refine .inr ⟨?_, hmem⟩
      simp only [isUp, Bool.and_eq_true] at hup ⊢
      exact ⟨hup.1, hwriting hup.2⟩

/-- A connection that owes nothing can end. -/
lemma ConnKeeps.of_owed (howed : conn.owed = []) (huid : conn'.uniqueID = conn.uniqueID)
    (hwritten : conn'.out.written = conn.out.written) : ConnKeeps conn conn' := by
  refine ⟨fun _ h => huid.trans h, fun k m hm hholds => ?_⟩
  rcases hholds with hmem | ⟨-, hmem⟩
  · exact .inl (hwritten ▸ hmem)
  · have hmem : Payload.direct k m ∈ conn.owed := by
      simp [owed, hmem, hm]
    rw [howed] at hmem
    cases hmem

lemma ConnKeeps.append (conn : Connection) (payload : Payload) :
    ConnKeeps conn { conn with out := { conn.out with buffer := conn.out.buffer ++ [payload] } } := by
  refine .setOut (fun _ h => h) id fun p hp => .inr ?_
  simp only [waiting, ← append_assoc] at hp ⊢
  exact mem_append_left _ hp

lemma Keeps.broadcastToClient (h : s.broadcastToClient c payload = some s') : Keeps s s' := by
  obtain ⟨conn, hc, rfl⟩ := broadcastToClient_eq_some h
  exact .setConn hc (.append conn payload)

theorem ConnKeeps.take (conn : Connection) : ConnKeeps conn { conn with out := conn.out.take } := by
  refine .setOut (fun p hp => ?_) (fun h => ?_) fun p hp => .inr ?_
  · rwa [written_take]
  · rwa [writing_take]
  · rwa [waiting_take]

theorem ConnKeeps.write {ok : Bool} (h : ok = false → conn.owed = []) :
    ConnKeeps conn { conn with out := conn.out.write ok } := by
  rcases conn.out.write_cases ok with ⟨payload, -, hwaiting, heq⟩ | ⟨payload, hok, -, heq⟩ | heq
  · rw [heq]
    refine .setOut (fun p hp => mem_append_left _ hp) id fun p hp => ?_
    rw [hwaiting, mem_cons] at hp
    rcases hp with rfl | hp
    · exact .inl (mem_append_right _ mem_cons_self)
    · exact .inr hp
  · rw [heq]
    exact .of_owed (h hok) rfl rfl
  · rw [heq]
    exact .refl conn

lemma ConnKeeps.setStage (conn : Connection) (stage : LoginStage) :
    ConnKeeps conn { conn with stage } := ⟨fun _ h => h, fun _ _ _ h => h⟩

/-- The echo to the sender, which may be refused. -/
lemma Keeps.echo (s : SpoolServer) (c : ℕ) (payload : Payload) :
    Keeps s ((s.broadcastToClient c payload).getD s) := by
  cases h : s.broadcastToClient c payload with
  | none => exact .of_eq rfl rfl
  | some s' => exact .broadcastToClient h

/-- **Without careless steps, the server keeps its messages.** -/
theorem SpoolServer.Effect.keeps (h : s.Effect event s') (hs : ServerOK s)
    (hcareful : ¬Careless s event) : Keeps s s' := by
  cases h with
  | stay => exact .of_eq rfl rfl
  | @connect c hc =>
    refine ⟨fun c' conn hc' => ⟨conn, ?_, .refl conn⟩, fun row hrow => ⟨[], by rwa [mark_nil]⟩⟩
    have hne : c' ≠ c := by
      rintro rfl
      rw [hc] at hc'
      cases hc'
    simpa [setConn, hne] using hc'
  | @authenticate c conn identity hc hstage =>
    -- the connection had no user
    have hnone := (hs.conns c conn hc).identity hstage
    refine .setConn hc ⟨fun uid huid => ?_, fun k m huid => ?_⟩ <;>
      simp [uniqueID, hnone] at huid
  | @register c conn ok hc hstage =>
    refine .setConn hc ?_
    cases ok with
    | true =>
      have hkeeps : ConnKeeps conn { conn with out := conn.out.register } :=
        .setOut (fun _ h => h) (fun _ => rfl) fun _ h => .inr h
      exact ⟨hkeeps.uniqueID, hkeeps.holds⟩
    | false => exact .setStage conn _
  | @pending c conn nickname result hc hstage =>
    have hstay : ∀ stage, Keeps s (s.setConn c { conn with stage }) := fun stage =>
      .setConn hc (.setStage conn stage)
    unfold readPending
    split
    · split_ifs
      · exact hstay _
      · exact hstay _
      · exact .of_eq rfl rfl
    · exact hstay _
  | @enqueue c conn m rest ids skipped hc hstage =>
    unfold enqueueNext
    split
    · rename_i hout
      rw [broadcastToClient_eq_ok hout]
      have happend := ConnKeeps.append conn (.spooled m)
      exact .setConn hc ⟨happend.uniqueID, happend.holds⟩
    · exact .setConn hc (.setStage conn _)
  | @mark c conn ids skipped result hc hstage =>
    unfold markDelivered
    split_ifs
    · exact .setConn hc (.setStage conn _)
    · have hmark : Keeps s { s with spool := markMessagesDelivered ids s.spool } :=
        ⟨fun c conn hc => ⟨conn, hc, .refl conn⟩, fun row hrow => ⟨ids, mem_map_of_mem hrow⟩⟩
      exact hmark.trans (.setConn hc (.setStage conn _))
    · exact .setConn hc (.setStage conn _)
  | broadcast h => exact .broadcastToClient h
  | take hc => exact .setConn hc (.take _)
  | @write c conn ok hc =>
    refine .setConn hc (.write fun hok => ?_)
    by_contra hne
    exact hcareful ⟨conn, hc, hok, hne⟩
  | @close c conn hc =>
    refine .setConn hc (.of_owed ?_ rfl rfl)
    by_contra hne
    exact hcareful ⟨conn, hc, hne⟩
  | @unregister c conn hc hstage =>
    have hclients : Keeps s { s with clients := s.clients.filter (· ≠ c) } := .of_eq rfl rfl
    exact hclients.trans (.setConn hc (.setStage conn _))
  | onDisconnect hc => exact .setConn hc (.setOut (fun _ h => h) id fun _ h => .inr h)
  | @send k m pick hk =>
    unfold startSend
    split <;> exact .of_eq rfl rfl
  | @relay k m target hk =>
    unfold relayDirect
    split
    · exact .of_eq rfl rfl
    · rename_i s' hs'
      exact ((Keeps.broadcastToClient hs').trans (.echo s' m.sender _)).setCall k _
  | @lookup k m result hk =>
    unfold lookupUser
    split
    · split_ifs <;> exact .of_eq rfl rfl
    · exact .of_eq rfl rfl
    · exact .of_eq rfl rfl
  | @spool k m userID result sentAt hk =>
    refine Keeps.setCall ?_ k _
    split_ifs
    · refine ⟨fun c conn hc => ⟨conn, hc, .refl conn⟩, fun row hrow => ⟨[], ?_⟩⟩
      exact mem_append_left _ hrow
    · exact .of_eq rfl rfl

/-! ### What the calls have reached -/

/-- Every call is where it should be. -/
def StagesOK (s : SpoolServer) : Prop := ∀ k, StageOK s k (s.calls k)

theorem StagesOK.keeps (h : StagesOK s) (hs : Keeps s s') (hcalls : s'.calls = s.calls) :
    StagesOK s' := by
  intro k
  rw [hcalls]
  exact (h k).keeps hs

lemma StagesOK.setCall (h : StagesOK s) (hstage : StageOK s k stage) :
    StagesOK (s.setCall k stage) := by
  have hkeeps : Keeps s (s.setCall k stage) := .of_eq rfl rfl
  intro k'
  simp only [SpoolServer.setCall, Function.update_apply]
  split_ifs with hk
  · rw [hk]
    exact hstage.keeps hkeeps
  · exact (h k').keeps hkeeps

lemma uniqueID_of_clientByUniqueID {uniqueID : String} {pick : ℕ}
    (h : s.clientByUniqueID uniqueID pick = some target) :
    ∃ conn, s.conns target = some conn ∧ conn.uniqueID = some uniqueID := by
  have hmem : target ∈ s.clients.filter fun c =>
      (s.conns c).bind Connection.uniqueID == some uniqueID := by
    rcases or_eq_some_iff.mp h with hpick | ⟨-, hhead⟩
    · exact mem_of_getElem? hpick
    · exact mem_of_head? hhead
  have hbind : (s.conns target).bind Connection.uniqueID = some uniqueID := by
    simpa using (mem_filter.mp hmem).2
  exact bind_eq_some_iff.mp hbind

lemma StagesOK.broadcastToClient (h : StagesOK s) {payload : Payload}
    (hs' : s.broadcastToClient c payload = some s') : StagesOK s' := by
  have hkeeps := Keeps.broadcastToClient hs'
  obtain ⟨conn, hc, rfl⟩ := broadcastToClient_eq_some hs'
  exact h.keeps hkeeps rfl

lemma StagesOK.echo (h : StagesOK s) : StagesOK ((s.broadcastToClient c payload).getD s) := by
  cases hs' : s.broadcastToClient c payload with
  | none => exact h
  | some s' => exact h.broadcastToClient hs'

/-- **A message is relayed** to a connection that is up. -/
theorem StagesOK.relayDirect (h : StagesOK s) {m : DirectMessage} (hk : s.calls k = .relay m target)
    (hcareful : ¬Careless s (.relay k)) : StagesOK (s.relayDirect k m target) := by
  unfold SpoolServer.relayDirect
  split
  · exact h.setCall trivial
  rename_i s' hs'
  have hecho := Keeps.echo s' m.sender (.direct k m)
  refine (h.broadcastToClient hs').echo.setCall ?_
  refine StageOK.keeps ?_ hecho
  -- the connection is of the message's user, and up
  obtain ⟨conn, hc, huid⟩ : StageOK s k (.relay m target) := hk ▸ h k
  have hup : conn.isUp = true := by
    by_contra hdown
    refine hcareful ⟨target, ?_, conn, hc, Bool.eq_false_of_not_eq_true hdown⟩
    rw [hk]
    rfl
  obtain ⟨conn', hc', rfl⟩ := broadcastToClient_eq_some hs'
  cases hc'.symm.trans hc
  refine ⟨target, _, Function.update_self .., huid, .inr ⟨hup, ?_⟩⟩
  simp [waiting]

/-- **A message is spooled** as the row of the message. -/
theorem StagesOK.storeDirect (h : StagesOK s) (k : ℕ) (m : DirectMessage) (userID : Int)
    (result : WriteResult) (sentAt : Int) : StagesOK (s.storeDirect k m userID result sentAt) := by
  have hinsert : Keeps s (s.spoolMessage (m.row s.nextID userID sentAt)) := by
    refine ⟨fun c conn hc => ⟨conn, hc, .refl conn⟩, fun row hrow => ⟨[], ?_⟩⟩
    exact mem_append_left _ hrow
  cases result with
  | done =>
    refine (h.keeps hinsert rfl).setCall ⟨⟨_, _, _, rfl⟩, [], ?_⟩
    exact mem_append_right _ mem_cons_self
  | failed => exact h.setCall trivial
  | unreported => exact (h.keeps hinsert rfl).setCall trivial

/-- Every step keeps the calls where they should be. -/
lemma SpoolServer.Effect.stagesOK (h : s.Effect event s') (hs : ServerOK s) (hstages : StagesOK s)
    (hcareful : ¬Careless s event) : StagesOK s' := by
  have hkeeps := h.keeps hs hcareful
  cases h with
  | stay => exact hstages
  | @send k m pick hk =>
    unfold startSend
    split
    · rename_i htarget
      exact hstages.setCall (uniqueID_of_clientByUniqueID htarget)
    · exact hstages.setCall trivial
  | relay hk => exact hstages.relayDirect hk hcareful
  | @lookup k m result hk =>
    unfold lookupUser
    split
    · split_ifs
      all_goals exact hstages.setCall trivial
    all_goals exact hstages.setCall trivial
  | @spool k m userID result sentAt hk => exact hstages.storeDirect k m userID result sentAt
  | broadcast h => exact hstages.broadcastToClient h
  | pending hc hstage =>
    refine hstages.keeps hkeeps ?_
    unfold readPending
    split
    · split_ifs <;> rfl
    · rfl
  | enqueue hc hstage =>
    refine hstages.keeps hkeeps ?_
    unfold enqueueNext
    split <;> rfl
  | mark hc hstage =>
    refine hstages.keeps hkeeps ?_
    unfold markDelivered
    split_ifs <;> rfl
  | _ => exact hstages.keeps hkeeps rfl

end keeps

/-! ## Every run -/

/-- The invariant. -/
structure SpoolInv (s : SpoolServer) : Prop where
  server : ServerOK s
  mailbox : s.mailbox.Inv
  stages : StagesOK s

lemma spoolInv_empty : SpoolInv {} where
  server := ⟨fun _ _ h => (some_ne_none _ h.symm).elim,
    fun _ _ h => (some_ne_none _ h.symm).elim⟩
  mailbox := Mailbox.inv_empty 1
  stages _ := trivial

variable {s : SpoolServer}

/-- Every careful event keeps the invariant. -/
theorem SpoolInv.step (h : SpoolInv s) {event : SpoolEvent} (hcareful : ¬Careless s event) :
    SpoolInv (s.step event) := by
  have heffect := s.effect_step event
  exact ⟨h.server.effect heffect, h.mailbox.careful (heffect.careful h.server hcareful),
    heffect.stagesOK h.server h.stages hcareful⟩

lemma SpoolInv.nothingLost (h : SpoolInv s) : NothingLost s where
  spooled k m row hk := by
    obtain ⟨⟨id, userID, sentAt, rfl⟩, ids, hmem⟩ : StageOK s k (.spooled m row) := hk ▸ h.stages k
    refine ⟨⟨id, userID, sentAt, rfl⟩, ?_⟩
    by_cases hid : (m.row id userID sentAt).id ∈ ids
    · -- the row is marked, and so it was written
      refine .inr ((writtenTo_mailbox s _).mp ?_)
      refine (Mailbox.writtenTo_mark s.mailbox ids _).mp (h.mailbox.written _ hmem ?_)
      exact (Mailbox.delivered_mark ids _).mpr (.inr hid)
    · refine .inl ?_
      rwa [SpoolRow.mark, if_neg hid] at hmem
  relayed k m hk := by
    exact (hk ▸ h.stages k : StageOK s k (.relayed m))
  once c c' conn conn' m m' hne hc hc' hm hm' hid := by
    have hgot : m ∈ (s.mailbox.sessions c).got := by
      rw [sessions_mailbox hc]
      exact mem_spooledOf.mpr hm
    have hgot' : m' ∈ (s.mailbox.sessions c').got := by
      rw [sessions_mailbox hc']
      exact mem_spooledOf.mpr hm'
    have honce := h.mailbox.once hne hgot hgot' hid
    rw [sessions_mailbox hc, sessions_mailbox hc'] at honce
    exact honce.imp LoginStage.eq_finished LoginStage.eq_finished
  increasing c conn hc := by
    have := h.mailbox.sorted_got c
    rwa [sessions_mailbox hc] at this
  ordered row hrow row' hrow' huser hlt hdelivered := by
    rw [← writtenTo_mailbox] at hdelivered ⊢
    exact h.mailbox.writtenTo_of_lt hrow huser hlt hdelivered

/-- **Nothing is lost, written again, or reordered.** From an empty server, with any users, messages
and interleaving of sends, logins, writes, full queues, failing calls and ends of connections: where
no step is careless, every message that was accepted is kept until it is written, no login writes it
again unless its marking failed, and messages are written in the order in which they were
spooled. -/
theorem nothing_lost (events : List SpoolEvent)
    (h : StepsOK SpoolServer.step (fun s event => ¬Careless s event) {} events) :
    Throughout SpoolServer.step NothingLost {} events := by
  have hinv : Throughout step SpoolInv {} events :=
    throughout_of_stepsOK (fun s event hs hcareful => hs.step hcareful) spoolInv_empty h
  exact hinv.mono fun s hs => hs.nothingLost

/-! ### Runs -/

/-- A message from one user to another. -/
def toBob (text : String) : DirectMessage where
  sender := 1
  fromUserID := 5
  fromUniqueID := "alice"
  toUniqueID := "bob"
  text := text
  enc := true

/-- What a login reads of the `id`-th message. -/
def readByBob (id : Int) (text : String) : SpooledMessage :=
  ((toBob text).row id 7 (100 + id)).toMessage fun _ => "Alice"

/-- A message is sent while its user is offline. -/
def spools (k : ℕ) (id : Int) (text : String) : List SpoolEvent :=
  [.send k (toBob text) 0, .lookup k (.found 7), .spool k .done (100 + id)]

/-- A login until it has read the messages. -/
def logsIn (c : ℕ) (messages : List SpooledMessage) : List SpoolEvent :=
  [.connect c, .authenticate c ⟨"bob", some 7⟩, .register c true,
    .pending c (fun _ => "Alice") (some messages)]

/-- The next message is enqueued, and written. -/
def delivers (c : ℕ) : List SpoolEvent := [.enqueue c, .take c, .write c true]

def leaves (c : ℕ) : List SpoolEvent := [.close c, .unregister c, .onDisconnect c]

/-- Two messages are spooled. A login writes them and fails to mark them, the next one writes them
again, and a third message is relayed. -/
def twoLogins : List SpoolEvent :=
  spools 0 1 "one" ++ spools 1 2 "two" ++
    logsIn 2 [readByBob 1 "one", readByBob 2 "two"] ++ delivers 2 ++ delivers 2 ++
    [.mark 2 .failed] ++ leaves 2 ++
    logsIn 3 [readByBob 1 "one", readByBob 2 "two"] ++ delivers 3 ++ delivers 3 ++
    [.mark 3 .done, .send 2 (toBob "three") 0, .relay 2, .take 3, .write 3 true] ++ leaves 3

theorem nothing_lost_two_logins :
    StepsOK SpoolServer.step (fun s event => ¬Careless s event) {} twoLogins ∧
      let s := run step {} twoLogins
      NothingLost s ∧ s.calls 0 = .spooled (toBob "one") ((toBob "one").row 1 7 101) ∧
        s.calls 2 = .relayed (toBob "three") ∧ s.spool.all SpoolRow.delivered = true ∧
        (s.conns 3).map (fun conn => conn.out.written) = some [.spooled (readByBob 1 "one"),
          .spooled (readByBob 2 "two"), .direct 2 (toBob "three")] := by
  have hsteps : StepsOK step (fun s event => ¬Careless s event) {} twoLogins := by
    decide +kernel
  refine ⟨hsteps, (nothing_lost twoLogins hsteps).final, ?_⟩
  decide +kernel

/-- The connection breaks between the marking and the write: the message is marked, and no later
login reads it. -/
theorem marked_message_is_lost :
    let s := run step {}
      (spools 0 1 "one" ++ logsIn 2 [readByBob 1 "one"] ++ [.enqueue 2, .mark 2 .done] ++ leaves 2 ++
        logsIn 3 [])
    s.calls 0 = .spooled (toBob "one") ((toBob "one").row 1 7 101) ∧
      (s.conns 2).map (fun conn => conn.out.written) = some [] ∧
      (s.conns 3).map stage = some (.finished false) ∧ ¬NothingLost s := by
  refine ⟨by decide +kernel, by decide +kernel, by decide +kernel, fun h => ?_⟩
  have hkept := (h.spooled 0 (toBob "one") ((toBob "one").row 1 7 101) (by decide +kernel)).2
  rcases hkept with hspool | ⟨c, conn, hc, -, nickname, hwritten⟩
  · exact absurd hspool (by decide +kernel)
  -- neither connection has written anything
  match c with
  | 0 | 1 => cases hc
  | 2 | 3 =>
    cases hc
    cases hwritten
  | c + 4 => cases hc

/-- The queue is full when the first of two messages comes, and has room for the second. -/
def overtaking : List SpoolEvent :=
  spools 0 1 "one" ++ spools 1 2 "two" ++ logsIn 2 [readByBob 1 "one", readByBob 2 "two"] ++
    List.replicate 16 (.broadcast 2) ++ [.enqueue 2, .take 2, .enqueue 2] ++
    (List.replicate 17 [.write 2 true, .take 2]).flatten

/-- The second of two messages is written, and the first is not. -/
theorem refused_message_is_overtaken :
    let s := run step {} overtaking
    ((s.conns 2).map fun conn => spooledOf conn.out.written) = some [readByBob 2 "two"] ∧
      ¬NothingLost s := by
  have hout : ((run step {} overtaking).conns 2).map (fun conn =>
      (conn.userID, spooledOf conn.out.written)) = some (some 7, [readByBob 2 "two"]) := by
    decide +kernel
  obtain ⟨conn, hc, hconn⟩ := map_eq_some_iff.mp hout
  obtain ⟨huser, hwritten⟩ := Prod.mk.inj hconn
  refine ⟨by rw [hc, map_some, hwritten], fun h => ?_⟩
  have hsecond : Delivered (run step {} overtaking) ((toBob "two").row 2 7 102) := by
    refine ⟨2, conn, hc, huser, fun _ => "Alice", mem_spooledOf.mp ?_⟩
    rw [hwritten]
    exact mem_cons_self
  obtain ⟨c, conn', hc', -, nickname, hfirst⟩ :=
    h.ordered ((toBob "one").row 1 7 101) (by decide +kernel) ((toBob "two").row 2 7 102)
      (by decide +kernel) rfl (by decide) hsecond
  match c with
  | 0 | 1 => cases hc'
  | 2 =>
    cases hc'.symm.trans hc
    have hmem := mem_spooledOf.mpr hfirst
    rw [hwritten, mem_singleton] at hmem
    have hid : (1 : Int) = 2 := congrArg SpooledMessage.id hmem
    exact absurd hid (by decide)
  | c + 3 => cases hc'

end Voicx.Server.Spool
