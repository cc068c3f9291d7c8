import Voicx.Server.Spool

/-!
# A careful mailbox

What the spool is for, without the queues: users have rows, and sessions deliver them. A session of
a user reads the undelivered rows, sends them one after another, sees them written, and marks them.

* `Mailbox`, `Session` — rows and sessions.
* `Mailbox.Careful` — the steps of a careful delivery: rows come with increasing times, a session
  starts when no other one of the user is delivering, sends nothing after a row that it passed over,
  and marks rows only when all it has sent is written.
* `Mailbox.Inv` — the invariant of careful steps. From it: a marked row was written
  (`Inv.written`), rows are written in their order (`Inv.writtenTo_of_lt`, `Inv.sorted_got`), and a
  row is written in two sessions only if one of them failed to mark it (`Inv.once`).
-/

namespace Voicx.Server.Spool

open List SpoolRow

/-! ## Sessions and their steps -/

/-- Where a session is. `skipped` says that it passed over a message, `failed` that its marking
failed. -/
inductive Phase
  | waiting
  | delivering (rest : List SpooledMessage) (skipped : Bool)
  | finished (failed : Bool)

/-- The messages that a session still has to send. -/
def Phase.rest : Phase → List SpooledMessage
  | .delivering rest _ => rest
  | .waiting | .finished _ => []

/-- A login of a user: what it has sent, and what of that was written. -/
structure Session where
  user : Option Int := none
  phase : Phase := .waiting
  sent : List SpooledMessage := []
  got : List SpooledMessage := []

structure Mailbox where
  rows : List SpoolRow
  nextID : Int
  sessions : ℕ → Session

namespace Mailbox

def set (b : Mailbox) (c : ℕ) (x : Session) : Mailbox :=
  { b with sessions := Function.update b.sessions c x }

/-- No other session of the user is delivering. -/
def Alone (b : Mailbox) (c : ℕ) (user : Int) : Prop :=
  ∀ c' ≠ c, (b.sessions c').user = some user → ∀ rest skipped,
    (b.sessions c').phase ≠ .delivering rest skipped

/-- The steps of a careful delivery. -/
inductive Careful (b : Mailbox) : Mailbox → Prop
  | stay : Careful b b
  | insert (row : SpoolRow) (hid : row.id = b.nextID)
      (htime : ∀ r ∈ b.rows, r.toUserID = row.toUserID → r.sentAt < row.sentAt)
      (hnew : row.delivered = false) :
      Careful b { b with rows := b.rows ++ [row], nextID := b.nextID + 1 }
  | identify (c : ℕ) (user : Option Int) (hphase : (b.sessions c).phase = .waiting) :
      Careful b (b.set c { b.sessions c with user })
  | start (c : ℕ) (user : Int) (nickname : Int → String) (messages : List SpooledMessage)
      (huser : (b.sessions c).user = some user) (hphase : (b.sessions c).phase = .waiting)
      (hpending : IsPending b.rows user nickname messages) (halone : b.Alone c user) :
      Careful b (b.set c { b.sessions c with phase := .delivering messages false })
  | giveUp (c : ℕ) (hphase : (b.sessions c).phase = .waiting) :
      Careful b (b.set c { b.sessions c with phase := .finished false })
  | send (c : ℕ) (m : SpooledMessage) (rest : List SpooledMessage)
      (hphase : (b.sessions c).phase = .delivering (m :: rest) false) :
      Careful b (b.set c { b.sessions c with
        phase := .delivering rest false, sent := (b.sessions c).sent ++ [m] })
  | skip (c : ℕ) (m : SpooledMessage) (rest : List SpooledMessage) (skipped : Bool)
      (hphase : (b.sessions c).phase = .delivering (m :: rest) skipped) :
      Careful b (b.set c { b.sessions c with phase := .delivering rest true })
  | write (c : ℕ) (m : SpooledMessage) (hnext : (b.sessions c).got ++ [m] <+: (b.sessions c).sent) :
      Careful b (b.set c { b.sessions c with got := (b.sessions c).got ++ [m] })
  /-- the rows are marked; the session may or may not learn of it -/
  | mark (c : ℕ) (skipped failed : Bool) (hphase : (b.sessions c).phase = .delivering [] skipped)
      (hgot : (b.sessions c).got = (b.sessions c).sent) :
      Careful b ({ b with
        rows := markMessagesDelivered ((b.sessions c).sent.map SpooledMessage.id) b.rows }.set c
          { b.sessions c with phase := .finished failed })
  | markNone (c : ℕ) (skipped : Bool) (hphase : (b.sessions c).phase = .delivering [] skipped)
      (hsent : (b.sessions c).sent = []) :
      Careful b (b.set c { b.sessions c with phase := .finished false })
  | markFailed (c : ℕ) (skipped : Bool) (hphase : (b.sessions c).phase = .delivering [] skipped) :
      Careful b (b.set c { b.sessions c with phase := .finished true })

/-- A session of the row's user has written the row. -/
def WrittenTo (b : Mailbox) (row : SpoolRow) : Prop :=
  ∃ c, (b.sessions c).user = some row.toUserID ∧
    ∃ nickname, row.toMessage nickname ∈ (b.sessions c).got

/-! ## The invariant -/

/-- What is in a session, on its own. -/
structure SessionOK (rows : List SpoolRow) (x : Session) : Prop where
  waiting : x.phase = .waiting → x.sent = []
  got : x.got <+: x.sent
  sorted : ((x.sent ++ x.phase.rest).map SpooledMessage.id).Pairwise (· < ·)
  source : ∀ m ∈ x.sent ++ x.phase.rest, ∃ row ∈ rows, x.user = some row.toUserID ∧
    ∃ nickname, row.toMessage nickname = m
  marked : x.phase = .finished false → ∀ m ∈ x.sent, ∀ row ∈ rows, row.id = m.id →
    row.delivered = true

/-- The rows: their ids and times increase. -/
structure RowsOK (b : Mailbox) : Prop where
  sorted : b.rows.Pairwise fun r r' => r.id < r'.id
  fresh : ∀ r ∈ b.rows, r.id < b.nextID
  times : ∀ r ∈ b.rows, ∀ r' ∈ b.rows, r.toUserID = r'.toUserID → r.id < r'.id → r.sentAt < r'.sentAt

/-- Every older row of the session's user is written, or is sent before. -/
structure InOrder (b : Mailbox) (x : Session) : Prop where
  sent : ∀ m ∈ x.sent, ∀ row ∈ b.rows, x.user = some row.toUserID → row.id < m.id →
    b.WrittenTo row ∨ row.id ∈ x.sent.map SpooledMessage.id
  rest : ∀ rest, x.phase = .delivering rest false → ∀ m ∈ rest, ∀ row ∈ b.rows,
    x.user = some row.toUserID → row.id < m.id →
      b.WrittenTo row ∨ row.id ∈ (x.sent ++ rest).map SpooledMessage.id

/-- Two sessions. -/
structure Apart (x y : Session) : Prop where
  alone : x.user = y.user → ∀ user rest skipped rest' skipped', x.user = some user →
    x.phase = .delivering rest skipped → y.phase ≠ .delivering rest' skipped'
  others : ∀ rest skipped, x.phase = .delivering rest skipped → ∀ m ∈ x.sent ++ rest,
    ∀ m' ∈ y.sent, m.id = m'.id → y.phase = .finished true
  once : ∀ m ∈ x.sent, ∀ m' ∈ y.sent, m.id = m'.id →
    x.phase = .finished true ∨ y.phase = .finished true

structure Inv (b : Mailbox) : Prop where
  rows : RowsOK b
  sessions : ∀ c, SessionOK b.rows (b.sessions c)
  written : ∀ row ∈ b.rows, row.delivered = true → b.WrittenTo row
  inOrder : ∀ c, InOrder b (b.sessions c)
  apart : ∀ c c', c ≠ c' → Apart (b.sessions c) (b.sessions c')

lemma inv_empty (nextID : Int) : Inv { rows := [], nextID, sessions := fun _ => {} } where
  rows := ⟨.nil, by simp, by simp⟩
  sessions _ := ⟨fun _ => rfl, nil_prefix, .nil, by simp [Phase.rest], by simp⟩
  written := by simp
  inOrder _ := ⟨by simp, by simp⟩
  apart _ _ _ := ⟨by simp, by simp, by simp⟩

/-! ### Rows -/

section rows

variable {b : Mailbox} {row row' : SpoolRow} {rows : List SpoolRow}

/-- An id names one row. -/
lemma RowsOK.eq_of_id (h : RowsOK b) (hrow : row ∈ b.rows) (hrow' : row' ∈ b.rows)
    (hid : row.id = row'.id) : row = row' := by
  have hnodup : (b.rows.map SpoolRow.id).Nodup := by
    rw [List.Nodup, pairwise_map]
    exact h.sorted.imp fun hlt => hlt.ne
  exact inj_on_of_nodup_map hnodup hrow hrow' hid

variable {user : Int} {nickname : Int → String} {messages : List SpooledMessage}

/-- The messages that are read come from the undelivered rows of the user. -/
lemma mem_of_isPending (h : IsPending rows user nickname messages) {m : SpooledMessage} :
    m ∈ messages ↔
      ∃ row ∈ rows, row.toUserID = user ∧ row.delivered = false ∧ row.toMessage nickname = m := by
  rw [h.1.mem_iff]
  simp [pendingRows, and_assoc]

/-- Where times increase with the ids, the order by time is the order by id. -/
lemma RowsOK.sorted_of_isPending (h : RowsOK b)
    (hpending : IsPending b.rows user nickname messages) :
    (messages.map SpooledMessage.id).Pairwise (· < ·) := by
  have hids : (messages.map SpooledMessage.id).Nodup := by
    have hperm := hpending.1.map SpooledMessage.id
    rw [map_map] at hperm
    rw [hperm.nodup_iff, List.Nodup, pairwise_map]
    have hsorted := h.sorted.sublist (filter_sublist (p := fun row =>
      row.toUserID == user && !row.delivered))
    exact hsorted.imp fun hlt => hlt.ne
  rw [List.Nodup, pairwise_map] at hids
  rw [pairwise_map]
  refine (hids.and hpending.2).imp_of_mem fun {m m'} hm hm' hlt => ?_
  obtain ⟨hne, hle⟩ := hlt
  obtain ⟨row, hrow, huser, -, rfl⟩ := (mem_of_isPending hpending).mp hm
  obtain ⟨row', hrow', huser', -, rfl⟩ := (mem_of_isPending hpending).mp hm'
  by_contra hge
  have hid : row'.id < row.id := lt_of_le_of_ne (not_lt.mp hge) hne.symm
  have htime := h.times row' hrow' row hrow (huser'.trans huser.symm) hid
  exact absurd hle (not_le.mpr htime)

section mark

variable (ids : List Int) (row : SpoolRow)

@[simp]
lemma id_mark : (row.mark ids).id = row.id := by
  unfold mark
  split_ifs <;> rfl

@[simp]
lemma toUserID_mark : (row.mark ids).toUserID = row.toUserID := by
  unfold mark
  split_ifs <;> rfl

@[simp]
lemma sentAt_mark : (row.mark ids).sentAt = row.sentAt := by
  unfold mark
  split_ifs <;> rfl

@[simp]
lemma toMessage_mark (nickname : Int → String) :
    (row.mark ids).toMessage nickname = row.toMessage nickname := by
  unfold mark
  split_ifs <;> rfl

lemma delivered_mark : (row.mark ids).delivered = true ↔ row.delivered = true ∨ row.id ∈ ids := by
  unfold mark
  split_ifs with h <;> simp [h]

end mark

/-- Marking changes neither ids nor times. -/
theorem RowsOK.mark (h : RowsOK b) (ids : List Int) :
    RowsOK { b with rows := markMessagesDelivered ids b.rows } where
  sorted := by
    simpa [markMessagesDelivered, pairwise_map] using h.sorted
  fresh := by
    simpa [markMessagesDelivered] using h.fresh
  times := by
    simpa [markMessagesDelivered] using h.times

/-- A new row is the last one. -/
theorem RowsOK.insert (h : RowsOK b) (hid : row.id = b.nextID)
    (htime : ∀ r ∈ b.rows, r.toUserID = row.toUserID → r.sentAt < row.sentAt) :
    RowsOK { b with rows := b.rows ++ [row], nextID := b.nextID + 1 } where
  sorted := by
    refine pairwise_append.mpr ⟨h.sorted, pairwise_singleton _ _, ?_⟩
    intro r hr r' hr'
    rw [mem_singleton.mp hr', hid]
    exact h.fresh r hr
  fresh r hr := by
    rcases mem_append.mp hr with hr | hr
    · exact (h.fresh r hr).trans (lt_add_one _)
    · rw [mem_singleton.mp hr, hid]
      exact lt_add_one _
  times r hr r' hr' huser hlt := by
    rcases mem_append.mp hr with hr | hr <;> rcases mem_append.mp hr' with hr' | hr'
    · exact h.times r hr r' hr' huser hlt
    · rw [mem_singleton.mp hr'] at huser ⊢
      exact htime r hr huser
    · have hfresh := h.fresh r' hr'
      rw [mem_singleton.mp hr] at hlt
      omega
    · rw [mem_singleton.mp hr, mem_singleton.mp hr'] at hlt
      exact absurd hlt (lt_irrefl _)

end rows

/-! ### Sessions -/

section sessions

variable {b : Mailbox} {x y : Session} {rows : List SpoolRow}

/-- A session that has sent nothing and is not delivering is apart from every other one. -/
lemma Apart.of_idle (hsent : x.sent = [])
    (hphase : ∀ rest skipped, x.phase ≠ .delivering rest skipped) :
    Apart x y ∧ Apart y x := by
  refine ⟨⟨?_, ?_, ?_⟩, ⟨?_, ?_, ?_⟩⟩
  · intro _ user rest skipped _ _ _ h
    exact absurd h (hphase rest skipped)
  · intro rest skipped h
    exact absurd h (hphase rest skipped)
  · simp [hsent]
  · intro _ user _ _ rest skipped _ _
    exact hphase rest skipped
  · simp [hsent]
  · simp [hsent]

/-- Sessions that share a message are of the same user. -/
lemma user_eq_of_id (hrows : RowsOK b) (hx : SessionOK b.rows x) (hy : SessionOK b.rows y)
    {m m' : SpooledMessage} (hm : m ∈ x.sent ++ x.phase.rest) (hm' : m' ∈ y.sent ++ y.phase.rest)
    (hid : m.id = m'.id) : ∃ user, x.user = some user ∧ y.user = some user := by
  obtain ⟨row, hrow, huser, nickname, rfl⟩ := hx.source m hm
  obtain ⟨row', hrow', huser', nickname', rfl⟩ := hy.source m' hm'
  obtain rfl := hrows.eq_of_id hrow hrow' hid
  exact ⟨_, huser, huser'⟩

/-- The end of a delivery leaves sessions apart. -/
lemma Apart.finish (hxy : Apart x y) (hyx : Apart y x) {rest : List SpooledMessage} {skipped : Bool}
    (hphase : x.phase = .delivering rest skipped) (failed : Bool) :
    Apart { x with phase := .finished failed } y ∧ Apart y { x with phase := .finished failed } := by
  refine ⟨⟨fun _ _ _ _ _ _ _ => nofun, fun _ _ => nofun, ?_⟩, ⟨fun _ _ _ _ _ _ _ _ => nofun, ?_, ?_⟩⟩
  · intro m hm m' hm' hid
    exact .inr (hxy.others rest skipped hphase m (mem_append_left _ hm) m' hm' hid)
  · intro rest' skipped' hphase' m hm m' hm' hid
    have hfinished := hyx.others rest' skipped' hphase' m hm m' hm' hid
    rw [hphase] at hfinished
    cases hfinished
  · intro m hm m' hm' hid
    exact .inl (hxy.others rest skipped hphase m' (mem_append_left _ hm') m hm hid.symm)

variable {b' : Mailbox}

/-- What was written stays written. -/
lemma WrittenTo.mono {b : Mailbox} {row : SpoolRow} (h : b.WrittenTo row)
    (hsessions : ∀ c, ∀ m ∈ (b.sessions c).got, m ∈ (b'.sessions c).got ∧
      (b'.sessions c).user = (b.sessions c).user) : b'.WrittenTo row := by
  obtain ⟨c, huser, nickname, hgot⟩ := h
  obtain ⟨hgot', huser'⟩ := hsessions c _ hgot
  exact ⟨c, huser'.trans huser, nickname, hgot'⟩

/-- The rows older than a message of the session are those of before. -/
lemma InOrder.mono {b : Mailbox} (h : InOrder b x)
    (hrows : ∀ row' ∈ b'.rows, ∀ m ∈ x.sent ++ x.phase.rest, row'.id < m.id →
      ∃ row ∈ b.rows, row.id = row'.id ∧ row.toUserID = row'.toUserID ∧
        (b.WrittenTo row → b'.WrittenTo row')) : InOrder b' x where
  sent m hm row' hrow' huser hlt := by
    obtain ⟨row, hrow, hid, hto, hwritten⟩ := hrows row' hrow' m (mem_append_left _ hm) hlt
    rw [← hid] at hlt ⊢
    exact (h.sent m hm row hrow (hto ▸ huser) hlt).imp_left hwritten
  rest rest hphase m hm row' hrow' huser hlt := by
    have hm' : m ∈ x.sent ++ x.phase.rest := mem_append_right _ (by rwa [hphase])
    obtain ⟨row, hrow, hid, hto, hwritten⟩ := hrows row' hrow' m hm' hlt
    rw [← hid] at hlt ⊢
    exact (h.rest rest hphase m hm row hrow (hto ▸ huser) hlt).imp_left hwritten

end sessions

/-! ## Careful steps keep the invariant -/

section careful

variable {b : Mailbox} {c : ℕ} {x : Session}

/-- One session changes. What it has written it keeps. -/
theorem Inv.set (h : Inv b)
    (hgot : ∀ m ∈ (b.sessions c).got, m ∈ x.got ∧ x.user = (b.sessions c).user)
    (hx : SessionOK b.rows x)
    (horder : (∀ row, b.WrittenTo row → (b.set c x).WrittenTo row) → InOrder (b.set c x) x)
    (hapart : ∀ c' ≠ c, Apart x (b.sessions c') ∧ Apart (b.sessions c') x) : Inv (b.set c x) := by
  have hself : (b.set c x).sessions c = x := Function.update_self ..
  have hother : ∀ c' ≠ c, (b.set c x).sessions c' = b.sessions c' := fun c' hne =>
    Function.update_of_ne hne ..
  have hwritten : ∀ row, b.WrittenTo row → (b.set c x).WrittenTo row := by
    intro row hrow
    refine hrow.mono fun c' m hm => ?_
    by_cases hc : c' = c
    · subst hc
      rw [hself]
      exact hgot m hm
    · rw [hother c' hc]
      exact ⟨hm, rfl⟩
  refine ⟨⟨h.rows.sorted, h.rows.fresh, h.rows.times⟩, fun c' => ?_, fun row hrow hdelivered => ?_,
    fun c' => ?_, fun c₁ c₂ hne => ?_⟩
  · by_cases hc : c' = c
    · rw [hc, hself]
      exact hx
    · rw [hother c' hc]
      exact h.sessions c'
  · exact hwritten row (h.written row hrow hdelivered)
  · by_cases hc : c' = c
    · rw [hc, hself]
      exact horder hwritten
    · rw [hother c' hc]
      exact (h.inOrder c').mono fun row hrow _ _ _ => ⟨row, hrow, rfl, rfl, hwritten row⟩
  · by_cases h₁ : c₁ = c
    · rw [h₁, hself, hother c₂ (h₁ ▸ hne.symm)]
      exact (hapart c₂ (h₁ ▸ hne.symm)).1
    · by_cases h₂ : c₂ = c
      · rw [h₂, hself, hother c₁ h₁]
        exact (hapart c₁ h₁).2
      · rw [hother c₁ h₁, hother c₂ h₂]
        exact h.apart c₁ c₂ hne

/-- A message is stored. -/
theorem Inv.insert (h : Inv b) {row : SpoolRow} (hid : row.id = b.nextID)
    (htime : ∀ r ∈ b.rows, r.toUserID = row.toUserID → r.sentAt < row.sentAt)
    (hnew : row.delivered = false) :
    Inv { b with rows := b.rows ++ [row], nextID := b.nextID + 1 } := by
  -- no session knows the new row
  have hlt : ∀ c, ∀ m ∈ (b.sessions c).sent ++ (b.sessions c).phase.rest, m.id < row.id := by
    intro c m hm
    obtain ⟨r, hr, -, nickname, rfl⟩ := (h.sessions c).source m hm
    rw [hid]
    exact h.rows.fresh r hr
  refine ⟨h.rows.insert hid htime, fun c => ?_, fun r hr hdelivered => ?_, fun c => ?_, h.apart⟩
  · obtain ⟨hwaiting, hgot, hsorted, hsource, hmarked⟩ := h.sessions c
    refine ⟨hwaiting, hgot, hsorted, fun m hm => ?_, fun hphase m hm r hr hrid => ?_⟩
    · obtain ⟨r, hr, hrest⟩ := hsource m hm
      exact ⟨r, mem_append_left _ hr, hrest⟩
    · rcases mem_append.mp hr with hr | hr
      · exact hmarked hphase m hm r hr hrid
      · rw [mem_singleton.mp hr] at hrid
        have := hlt c m (mem_append_left _ hm)
        omega
  · rcases mem_append.mp hr with hr | hr
    · exact h.written r hr hdelivered
    · rw [mem_singleton.mp hr, hnew] at hdelivered
      cases hdelivered
  · refine (h.inOrder c).mono fun r hr m hm hrm => ?_
    rcases mem_append.mp hr with hr | hr
    · exact ⟨r, hr, rfl, rfl, id⟩
    · rw [mem_singleton.mp hr] at hrm
      have := hlt c m hm
      omega

/-- A session that has sent nothing changes to one that is not delivering. -/
lemma Inv.set_idle (h : Inv b) (hphase : (b.sessions c).phase = .waiting)
    (hsent : x.sent = []) (hgot : x.got = (b.sessions c).got)
    (hx : ∀ rest skipped, x.phase ≠ .delivering rest skipped) : Inv (b.set c x) := by
  have hnone : (b.sessions c).got = [] := by
    have hprefix := (h.sessions c).got
    rw [(h.sessions c).waiting hphase] at hprefix
    exact prefix_nil.mp hprefix
  have hrest : x.phase.rest = [] := by
    cases hcase : x.phase with
    | waiting | finished failed => rfl
    | delivering rest skipped => exact absurd hcase (hx rest skipped)
  refine h.set (by simp [hnone]) ⟨fun _ => hsent, ?_, ?_, ?_, ?_⟩ (fun _ => ⟨?_, ?_⟩) fun c' _ =>
    Apart.of_idle hsent hx
  · rw [hgot, hnone]
    exact nil_prefix
  · simp [hsent, hrest]
  · simp [hsent, hrest]
  · simp [hsent]
  · simp [hsent]
  · intro rest hdelivering
    exact absurd hdelivering (hx rest false)

/-- **A session starts**: it reads the undelivered rows in the order of their ids, and every session
that has sent one of them has failed to mark it. -/
theorem Inv.start (h : Inv b) {user : Int} {nickname : Int → String} {messages : List SpooledMessage}
    (huser : (b.sessions c).user = some user) (hphase : (b.sessions c).phase = .waiting)
    (hpending : IsPending b.rows user nickname messages) (halone : b.Alone c user) :
    Inv (b.set c { b.sessions c with phase := .delivering messages false }) := by
  have hsent := (h.sessions c).waiting hphase
  have hread : ∀ m ∈ messages, ∃ row ∈ b.rows, row.toUserID = user ∧ row.delivered = false ∧
      row.toMessage nickname = m := fun m hm => (mem_of_isPending hpending).mp hm
  refine h.set (fun m hm => ⟨hm, rfl⟩) ⟨nofun, (h.sessions c).got, ?_, ?_, nofun⟩
    (fun hwritten => ⟨?_, ?_⟩) fun c' hne => ⟨⟨?_, ?_, ?_⟩, ⟨?_, ?_, ?_⟩⟩
  · simpa [hsent, Phase.rest] using h.rows.sorted_of_isPending hpending
  · intro m hm
    have hm : m ∈ messages := by simpa [hsent, Phase.rest] using hm
    obtain ⟨row, hrow, rfl, -, rfl⟩ := hread m hm
    exact ⟨row, hrow, huser, nickname, rfl⟩
  · simp [hsent]
  · -- an older row is delivered, and so written, or it is read too
    rintro rest ⟨⟩ m - row hrow hrowUser -
    have hrowUser : row.toUserID = user := Option.some.inj (hrowUser.symm.trans huser)
    cases hdelivered : row.delivered with
    | true => exact .inl (hwritten row (h.written row hrow hdelivered))
    | false =>
      have hmem : row.toMessage nickname ∈ messages :=
        (mem_of_isPending hpending).mpr ⟨row, hrow, hrowUser, hdelivered, rfl⟩
      exact .inr (mem_map.mpr ⟨_, mem_append_right _ hmem, rfl⟩)
  · intro heq user' rest skipped rest' skipped' _ _
    exact halone c' hne (heq ▸ huser) rest' skipped'
  · rintro rest skipped ⟨⟩ m hm m' hm' hid
    have hm : m ∈ messages := by simpa [hsent] using hm
    obtain ⟨row, hrow, hrowUser, hdelivered, rfl⟩ := hread m hm
    obtain ⟨row', hrow', huser', nickname', rfl⟩ :=
      (h.sessions c').source m' (mem_append_left _ hm')
    obtain rfl := h.rows.eq_of_id hrow hrow' hid
    -- that session is at its end, and has not marked the row
    cases hcase : (b.sessions c').phase with
    | waiting =>
      rw [(h.sessions c').waiting hcase] at hm'
      cases hm'
    | delivering rest' skipped' =>
      exact absurd hcase (halone c' hne (huser'.trans (congrArg some hrowUser)) rest' skipped')
    | finished failed =>
      cases failed with
      | true => rfl
      | false =>
        have := (h.sessions c').marked hcase _ hm' row hrow rfl
        rw [hdelivered] at this
        cases this
  · simp [hsent]
  · intro heq user' rest skipped _ _ _ hdelivering
    exact absurd hdelivering (halone c' hne (heq.trans huser) rest skipped)
  · simp [hsent]
  · simp [hsent]

variable {m : SpooledMessage} {skipped failed : Bool} {rest : List SpooledMessage}

/-- A session that goes on delivering stays apart from the others. -/
lemma Inv.apart_deliver (h : Inv b)
    (hphase : (b.sessions c).phase = .delivering (m :: rest) skipped) {sent : List SpooledMessage}
    (hsub : ∀ m' ∈ sent ++ rest, m' ∈ (b.sessions c).sent ++ m :: rest) (skipped' : Bool) {c' : ℕ}
    (hne : c' ≠ c) :
    Apart { b.sessions c with phase := .delivering rest skipped', sent } (b.sessions c') ∧
      Apart (b.sessions c') { b.sessions c with phase := .delivering rest skipped', sent } := by
  have hxy := h.apart c c' hne.symm
  have hyx := h.apart c' c hne
  have hothers : ∀ m' ∈ sent ++ rest, ∀ m'' ∈ (b.sessions c').sent, m'.id = m''.id →
      (b.sessions c').phase = .finished true := fun m' hm' =>
    hxy.others _ _ hphase m' (hsub m' hm')
  refine ⟨⟨?_, ?_, ?_⟩, ⟨?_, ?_, ?_⟩⟩
  · intro heq user _ _ rest' skipped'' huser _
    exact hxy.alone heq user _ _ rest' skipped'' huser hphase
  · rintro _ _ ⟨⟩ m' hm' m'' hm'' hid
    exact hothers m' hm' m'' hm'' hid
  · intro m' hm' m'' hm'' hid
    exact .inr (hothers m' (mem_append_left _ hm') m'' hm'' hid)
  · intro heq user _ _ _ _ huser hdelivering _
    exact hyx.alone heq user _ _ _ _ huser hdelivering hphase
  · -- another session of the user would be delivering at the same time
    intro rest' skipped'' hdelivering m' hm' m'' hm'' hid
    have hm'' := hsub m'' (mem_append_left _ hm'')
    obtain ⟨user, huser', huser⟩ := user_eq_of_id h.rows (h.sessions c') (h.sessions c)
      (by rw [hdelivering]; exact hm') (by rw [hphase]; exact hm'') hid
    exact absurd hphase (hyx.alone (huser'.trans huser.symm) user _ _ _ _ huser' hdelivering)
  · intro m' hm' m'' hm'' hid
    exact .inl (hothers m'' (mem_append_left _ hm'') m' hm' hid.symm)

/-- **A message is sent.** Every older row was sent before it, or is written. -/
theorem Inv.send (h : Inv b) (hphase : (b.sessions c).phase = .delivering (m :: rest) false) :
    Inv (b.set c { b.sessions c with
      phase := .delivering rest false, sent := (b.sessions c).sent ++ [m] }) := by
  have hx := h.sessions c
  have hall : (b.sessions c).sent ++ (b.sessions c).phase.rest =
      ((b.sessions c).sent ++ [m]) ++ rest := by
    rw [hphase]
    simp [Phase.rest]
  have hsorted := hx.sorted
  have hsource := hx.source
  rw [hall] at hsorted hsource
  refine h.set (fun m' hm' => ⟨hm', rfl⟩)
    ⟨nofun, hx.got.trans (prefix_append _ _), hsorted, hsource, nofun⟩
    (fun hwritten => ⟨?_, ?_⟩) fun c' hne => h.apart_deliver hphase (by simp) false hne
  · intro m' hm' row hrow huser hlt
    rcases mem_append.mp hm' with hm' | hm'
    · refine ((h.inOrder c).sent m' hm' row hrow huser hlt).imp (hwritten row) fun hmem => ?_
      rw [map_append]
      exact mem_append_left _ hmem
    -- the message is the first of what was left, so an older row is not left
    rw [mem_singleton.mp hm'] at hlt
    have hfirst := (h.inOrder c).rest _ hphase m mem_cons_self row hrow huser hlt
    refine hfirst.imp (hwritten row) fun hmem => ?_
    rw [append_cons, map_append, mem_append] at hmem
    refine hmem.resolve_right fun hrest => ?_
    rw [map_append, pairwise_append] at hsorted
    have := hsorted.2.2 m.id (by simp) row.id hrest
    omega
  · rintro rest' ⟨⟩ m' hm' row hrow huser hlt
    refine ((h.inOrder c).rest _ hphase m' (mem_cons_of_mem _ hm') row hrow huser hlt).imp
      (hwritten row) fun hmem => ?_
    rwa [append_cons] at hmem

/-- A message is passed over. -/
theorem Inv.skip (h : Inv b) (hphase : (b.sessions c).phase = .delivering (m :: rest) skipped) :
    Inv (b.set c { b.sessions c with phase := .delivering rest true }) := by
  have hx := h.sessions c
  have hsub : ((b.sessions c).sent ++ rest).Sublist ((b.sessions c).sent ++ (m :: rest)) :=
    (sublist_cons_self m rest).append_left _
  have hsorted := hx.sorted
  have hsource := hx.source
  rw [hphase] at hsorted hsource
  refine h.set (fun m' hm' => ⟨hm', rfl⟩)
    ⟨nofun, hx.got, hsorted.sublist (hsub.map _), fun m' hm' => hsource m' (hsub.subset hm'), nofun⟩
    (fun hwritten => ⟨?_, nofun⟩) fun c' hne =>
      h.apart_deliver hphase (fun m' hm' => hsub.subset hm') true hne
  intro m' hm' row hrow huser hlt
  exact ((h.inOrder c).sent m' hm' row hrow huser hlt).imp_left (hwritten row)

/-- A message is written. -/
theorem Inv.write (h : Inv b) (hnext : (b.sessions c).got ++ [m] <+: (b.sessions c).sent) :
    Inv (b.set c { b.sessions c with got := (b.sessions c).got ++ [m] }) := by
  have hx := h.sessions c
  refine h.set (fun m' hm' => ⟨mem_append_left _ hm', rfl⟩)
    ⟨hx.waiting, hnext, hx.sorted, hx.source, hx.marked⟩ (fun hwritten => ?_) fun c' hne => ?_
  · have horder : InOrder (b.set c _) (b.sessions c) :=
      (h.inOrder c).mono fun row hrow _ _ _ => ⟨row, hrow, rfl, rfl, hwritten row⟩
    exact ⟨horder.sent, horder.rest⟩
  · have hxy := h.apart c c' hne.symm
    have hyx := h.apart c' c hne
    exact ⟨⟨hxy.alone, hxy.others, hxy.once⟩, ⟨hyx.alone, hyx.others, hyx.once⟩⟩

/-- The session ends its delivery. -/
lemma Inv.finish (h : Inv b) (hphase : (b.sessions c).phase = .delivering [] skipped)
    (hmarked : failed = false → ∀ m ∈ (b.sessions c).sent, ∀ row ∈ b.rows, row.id = m.id →
      row.delivered = true) : Inv (b.set c { b.sessions c with phase := .finished failed }) := by
  have hx := h.sessions c
  have hsorted := hx.sorted
  have hsource := hx.source
  rw [hphase] at hsorted hsource
  refine h.set (fun m' hm' => ⟨hm', rfl⟩) ⟨nofun, hx.got, hsorted, hsource, fun hfinished => ?_⟩
    (fun hwritten => ⟨?_, nofun⟩) fun c' hne =>
      (h.apart c c' hne.symm).finish (h.apart c' c hne) hphase failed
  · cases hfinished
    exact hmarked rfl
  · intro m' hm' row hrow huser hlt
    exact ((h.inOrder c).sent m' hm' row hrow huser hlt).imp_left (hwritten row)

lemma writtenTo_mark (b : Mailbox) (ids : List Int) (row : SpoolRow) :
    b.WrittenTo (row.mark ids) ↔ b.WrittenTo row := by
  simp [WrittenTo]

/-- Rows that are written are marked. -/
lemma Inv.markRows (h : Inv b) (ids : List Int)
    (hids : ∀ row ∈ b.rows, row.id ∈ ids → b.WrittenTo row) :
    Inv { b with rows := markMessagesDelivered ids b.rows } := by
  refine ⟨h.rows.mark ids, fun c => ?_, fun row' hrow' hdelivered => ?_, fun c => ?_, h.apart⟩
  · obtain ⟨hwaiting, hgot, hsorted, hsource, hmarked⟩ := h.sessions c
    refine ⟨hwaiting, hgot, hsorted, fun m hm => ?_, fun hphase m hm row' hrow' hid => ?_⟩
    · obtain ⟨row, hrow, huser, nickname, hmessage⟩ := hsource m hm
      exact ⟨row.mark ids, mem_map_of_mem hrow, by simpa using huser, nickname,
        by simpa using hmessage⟩
    · obtain ⟨row, hrow, rfl⟩ := mem_map.mp hrow'
      rw [id_mark] at hid
      exact (delivered_mark ids row).mpr (.inl (hmarked hphase m hm row hrow hid))
  · obtain ⟨row, hrow, rfl⟩ := mem_map.mp hrow'
    refine (writtenTo_mark b ids row).mpr ?_
    rcases (delivered_mark ids row).mp hdelivered with hold | hnew
    · exact h.written row hrow hold
    · exact hids row hrow hnew
  · refine (h.inOrder c).mono fun row' hrow' m hm hlt => ?_
    obtain ⟨row, hrow, rfl⟩ := mem_map.mp hrow'
    exact ⟨row, hrow, (id_mark ids row).symm, (toUserID_mark ids row).symm,
      (writtenTo_mark b ids row).mpr⟩

/-- **A session marks what it has sent**, when all of it is written. -/
theorem Inv.mark (h : Inv b) (hphase : (b.sessions c).phase = .delivering [] skipped)
    (hgot : (b.sessions c).got = (b.sessions c).sent) :
    Inv ({ b with
      rows := markMessagesDelivered ((b.sessions c).sent.map SpooledMessage.id) b.rows }.set c
        { b.sessions c with phase := .finished failed }) := by
  have hmarked := h.markRows ((b.sessions c).sent.map SpooledMessage.id) fun row hrow hid => by
    obtain ⟨m, hm, hid⟩ := mem_map.mp hid
    obtain ⟨row', hrow', huser, nickname, rfl⟩ :=
      (h.sessions c).source m (mem_append_left _ hm)
    obtain rfl := h.rows.eq_of_id hrow' hrow hid
    exact ⟨c, huser, nickname, hgot ▸ hm⟩
  refine hmarked.finish hphase fun _ m hm row' hrow' hid => ?_
  obtain ⟨row, hrow, rfl⟩ := mem_map.mp hrow'
  rw [id_mark] at hid
  exact (delivered_mark _ row).mpr (.inr (hid ▸ mem_map_of_mem hm))

end careful

/-- **Careful steps keep the invariant.** -/
theorem Inv.careful {b b' : Mailbox} (h : Inv b) (hstep : Careful b b') : Inv b' := by
  cases hstep with
  | stay => exact h
  | insert row hid htime hnew => exact h.insert hid htime hnew
  | identify c user hphase =>
    refine h.set_idle hphase ((h.sessions c).waiting hphase) rfl fun rest skipped => ?_
    rw [hphase]
    exact nofun
  | start c user nickname messages huser hphase hpending halone =>
    exact h.start huser hphase hpending halone
  | giveUp c hphase =>
    exact h.set_idle hphase ((h.sessions c).waiting hphase) rfl fun rest skipped => nofun
  | send c m rest hphase => exact h.send hphase
  | skip c m rest skipped hphase => exact h.skip hphase
  | write c m hnext => exact h.write hnext
  | mark c skipped failed hphase hgot => exact h.mark hphase hgot
  | markNone c skipped hphase hsent => exact h.finish hphase fun _ => by simp [hsent]
  | markFailed c skipped hphase => exact h.finish hphase nofun

/-! ## What follows -/

section consequences

variable {b : Mailbox}

/-- In every session, rows are written in the order of their ids, each at most once. -/
theorem Inv.sorted_got (h : Inv b) (c : ℕ) :
    ((b.sessions c).got.map SpooledMessage.id).Pairwise (· < ·) := by
  have hsorted := (h.sessions c).sorted
  have hsub : (b.sessions c).got.Sublist ((b.sessions c).sent ++ (b.sessions c).phase.rest) :=
    (h.sessions c).got.sublist.trans (sublist_append_left _ _)
  exact hsorted.sublist (hsub.map _)

/-- **Rows are written in order**: when a row is written, every older row of the user is. -/
theorem Inv.writtenTo_of_lt (h : Inv b) {row row' : SpoolRow} (hrow : row ∈ b.rows)
    (huser : row.toUserID = row'.toUserID) (hlt : row.id < row'.id) (hwritten : b.WrittenTo row') :
    b.WrittenTo row := by
  obtain ⟨c, hc, nickname, hgot⟩ := hwritten
  have hx := h.sessions c
  have hc : (b.sessions c).user = some row.toUserID := by rw [hc, huser]
  have hsent : row'.toMessage nickname ∈ (b.sessions c).sent := hx.got.subset hgot
  rcases (h.inOrder c).sent _ hsent row hrow hc hlt with hdone | hid
  · exact hdone
  -- it was sent before, and what is written is an initial part of what was sent
  obtain ⟨m, hm, hid⟩ := mem_map.mp hid
  obtain ⟨r, hr, -, nickname', rfl⟩ := hx.source m (mem_append_left _ hm)
  obtain rfl := h.rows.eq_of_id hr hrow hid
  refine ⟨c, hc, nickname', ?_⟩
  obtain ⟨later, hlater⟩ := hx.got
  rw [← hlater] at hm
  refine (mem_append.mp hm).resolve_right fun hm => ?_
  have hsorted := hx.sorted
  rw [map_append, pairwise_append] at hsorted
  have hsorted := hsorted.1
  rw [← hlater, map_append, pairwise_append] at hsorted
  have hgt := hsorted.2.2 row'.id (mem_map.mpr ⟨_, hgot, rfl⟩) r.id (mem_map.mpr ⟨_, hm, rfl⟩)
  omega

/-- **A row is written in two sessions** only if one of them failed to mark it. -/
theorem Inv.once (h : Inv b) {c c' : ℕ} (hne : c ≠ c') {m m' : SpooledMessage}
    (hm : m ∈ (b.sessions c).got) (hm' : m' ∈ (b.sessions c').got) (hid : m.id = m'.id) :
    (b.sessions c).phase = .finished true ∨ (b.sessions c').phase = .finished true :=
  (h.apart c c' hne).once m ((h.sessions c).got.subset hm) m' ((h.sessions c').got.subset hm') hid

end consequences

end Mailbox

end Voicx.Server.Spool
