import Voicx.Found.Run

/-!
# Transactions with row locks

A store is shared by transactions that run statement by statement. A statement locks rows before it
reads them, waiting while another transaction holds one, and the locks are kept to the end of the
transaction. Its writes are private until the commit, which applies them at once; a transaction
that is rolled back leaves nothing.

* `Protocol` — what a transaction does: the rows a statement locks, the statement itself, and the
  effect of the commit.
* `Protocol.System`, `Protocol.step` — any number of transactions in any interleaving, any of which
  may be rolled back at any moment.
* `Protocol.Framed` — an assertion about an open transaction that depends on the store only through
  the rows it has locked. **`Protocol.Framed.step`** — such an assertion holds of every open
  transaction, whatever the others do.
* `Protocol.Alone` — the assertion that the statements executed so far would give the same on the
  store as it is now, with nobody in between. `Protocol.Serial` — the store is the result of
  transactions executed one after the other.
* **`Protocol.serial_step`** — a system whose statements read only what they lock is serial, in the
  order of the commits.
-/

namespace Voicx.Found

open Function

/-- Transactions over a store `σ` with rows `ρ`. The state of a transaction is a `τ`; an input `ι`
is what a statement takes from outside (a clock, a sequence). A statement that skips locked rows
asks which rows are free for it. -/
structure Protocol (σ ρ τ ι : Type) where
  /-- the states a transaction may begin in -/
  initial : σ → τ → Bool
  /-- the rows the next statement locks -/
  rows : σ → (ρ → Bool) → ι → τ → List ρ
  /-- the next statement; `none` if it ends the transaction with an error -/
  next : σ → (ρ → Bool) → ι → τ → Option τ
  /-- all statements have been executed -/
  done : τ → Bool
  /-- the store with the writes of the transaction -/
  commit : τ → σ → σ

namespace Protocol

/-- The committed store, the owners of the locks, the open transactions, and the transactions that
have committed, in the order of their commits. -/
structure System (σ ρ τ : Type) where
  store : σ
  held : ρ → Option ℕ
  active : ℕ → Option τ
  log : List (ℕ × τ)

inductive Move (τ ι : Type)
  | start (i : ℕ) (t : τ)
  | statement (i : ℕ) (input : ι)
  | commit (i : ℕ)
  | rollback (i : ℕ)

/-- A store nobody uses. -/
def System.idle {σ ρ τ : Type} (d : σ) : System σ ρ τ :=
  { store := d, held := fun _ => none, active := fun _ => none, log := [] }

section system

variable {σ ρ τ : Type} (s : System σ ρ τ)

/-- Nobody else holds the row. -/
def System.available (i : ℕ) (r : ρ) : Bool := s.held r == none || s.held r == some i

/-- The transaction is over and its locks are released. -/
def System.finish (i : ℕ) : System σ ρ τ :=
  { s with
    active := update s.active i none
    held := fun r => if s.held r = some i then none else s.held r }

/-- A statement was executed. -/
def System.advance [DecidableEq ρ] (i : ℕ) (t : τ) (rows : List ρ) : System σ ρ τ :=
  { s with
    active := update s.active i (some t)
    held := fun r => if r ∈ rows then some i else s.held r }

end system

section step

variable {σ ρ τ ι : Type} [DecidableEq ρ] (P : Protocol σ ρ τ ι) (s : System σ ρ τ)

/-- One move of one transaction. -/
def step : Move τ ι → System σ ρ τ
  | .start i t =>
    if (s.active i).isNone && P.initial s.store t then
      { s with active := update s.active i (some t) }
    else s
  | .statement i input =>
    match s.active i with
    | none => s
    | some t =>
      -- a statement whose row is locked waits, and reads when it gets the lock
      if (P.rows s.store (s.available i) input t).all (s.available i) then
        match P.next s.store (s.available i) input t with
        | none => s.finish i
        | some t' => s.advance i t' (P.rows s.store (s.available i) input t)
      else s
  | .commit i =>
    match s.active i with
    | none => s
    | some t =>
      if P.done t then
        { s.finish i with store := P.commit t s.store, log := s.log ++ [(i, t)] }
      else s
  | .rollback i => s.finish i

/-- **What one move can do.** -/
theorem step_cases (m : Move τ ι) :
    P.step s m = s ∨
    (∃ i, P.step s m = s.finish i) ∨
    (∃ i t, P.initial s.store t = true ∧ P.step s m = s.advance i t []) ∨
    (∃ i t t' input, m = .statement i input ∧ s.active i = some t ∧
      P.next s.store (s.available i) input t = some t' ∧
      (∀ r ∈ P.rows s.store (s.available i) input t, s.available i r = true) ∧
      P.step s m = s.advance i t' (P.rows s.store (s.available i) input t)) ∨
    (∃ i t, m = .commit i ∧ s.active i = some t ∧ P.done t = true ∧
      P.step s m = { s.finish i with store := P.commit t s.store, log := s.log ++ [(i, t)] }) := by
  cases m with
  | start i t =>
    simp only [step]
    split_ifs with h
    · refine .inr (.inr (.inl ⟨i, t, (Bool.and_eq_true_iff.mp h).2, ?_⟩))
      simp [System.advance]
    · exact .inl rfl
  | statement i input =>
    simp only [step]
    cases hi : s.active i with
    | none => exact .inl rfl
    | some t =>
      dsimp only
      split_ifs with hrows
      · cases hnext : P.next s.store (s.available i) input t with
        | none => exact .inr (.inl ⟨i, rfl⟩)
        | some t' =>
          refine .inr (.inr (.inr (.inl ⟨i, t, t', input, rfl, hi, hnext, ?_, rfl⟩)))
          exact List.all_eq_true.mp hrows
      · exact .inl rfl
  | commit i =>
    simp only [step]
    cases hi : s.active i with
    | none => exact .inl rfl
    | some t =>
      dsimp only
      split_ifs with hdone
      · exact .inr (.inr (.inr (.inr ⟨i, t, rfl, hi, hdone, rfl⟩)))
      · exact .inl rfl
  | rollback i => exact .inr (.inl ⟨i, rfl⟩)

end step

/-! ## Assertions that locks protect -/

section framed

variable {σ ρ τ ι : Type} {P : Protocol σ ρ τ ι}

/-- An assertion about the store, an open transaction and the rows it has locked, which survives
every commit of a transaction that holds other rows. `Wf` is what every commit keeps of the
store. -/
structure Framed (P : Protocol σ ρ τ ι) (Wf : σ → Prop) (Valid : σ → τ → List ρ → Prop) :
    Prop where
  start : ∀ {d t}, Wf d → P.initial d t = true → Valid d t []
  next : ∀ {d t t' rows free input}, Wf d → Valid d t rows → P.next d free input t = some t' →
    Valid d t' (rows ++ P.rows d free input t)
  wf : ∀ {d t rows}, Wf d → Valid d t rows → P.done t = true → Wf (P.commit t d)
  commit : ∀ {d t rows t' rows'}, Wf d → Valid d t rows → P.done t = true → Valid d t' rows' →
    (∀ r ∈ rows', r ∉ rows) → Valid (P.commit t d) t' rows'

/-- The store is well-formed, and every open transaction meets the assertion and holds the rows it
speaks about. -/
structure Covered (Wf : σ → Prop) (Valid : σ → τ → List ρ → Prop) (s : System σ ρ τ) : Prop where
  wf : Wf s.store
  valid : ∀ i t, s.active i = some t → ∃ rows, Valid s.store t rows ∧ ∀ r ∈ rows, s.held r = some i

variable {Wf : σ → Prop} {Valid : σ → τ → List ρ → Prop} {s : System σ ρ τ}

lemma covered_idle {d : σ} (hd : Wf d) : Covered Wf Valid (System.idle d : System σ ρ τ) where
  wf := hd
  valid i t hi := by cases hi

/-- A transaction that ends releases its own rows only. -/
lemma Covered.finish (h : Covered Wf Valid s) (i : ℕ) : Covered Wf Valid (s.finish i) where
  wf := h.wf
  valid j t hj := by
    simp only [System.finish, update_apply] at hj
    split_ifs at hj with hji
    obtain ⟨rows, hvalid, hheld⟩ := h.valid j t hj
    refine ⟨rows, hvalid, fun r hr => ?_⟩
    have hne : s.held r ≠ some i := by
      rw [hheld r hr]
      intro heq
      exact hji (Option.some.inj heq)
    simp only [System.finish, if_neg hne]
    exact hheld r hr

variable {i : ℕ} {t : τ}

/-- A statement takes rows that nobody else holds. -/
lemma Covered.advance [DecidableEq ρ] (h : Covered Wf Valid s) {rows new : List ρ}
    (hvalid : Valid s.store t (rows ++ new)) (hheld : ∀ r ∈ rows, s.held r = some i)
    (hfree : ∀ r ∈ new, s.available i r = true) : Covered Wf Valid (s.advance i t new) where
  wf := h.wf
  valid j t' hj := by
    simp only [System.advance, update_apply] at hj
    split_ifs at hj with hji
    · subst hji
      cases hj
      refine ⟨rows ++ new, hvalid, fun r hr => ?_⟩
      simp only [System.advance]
      split_ifs with hnew
      · rfl
      · exact hheld r ((List.mem_append.mp hr).resolve_right hnew)
    · obtain ⟨rows', hvalid', hheld'⟩ := h.valid j t' hj
      refine ⟨rows', hvalid', fun r hr => ?_⟩
      have hnew : r ∉ new := by
        intro hr'
        have := hfree r hr'
        rw [System.available, hheld' r hr] at this
        simp only [Bool.or_eq_true, beq_iff_eq, reduceCtorEq, false_or, Option.some.injEq] at this
        exact hji this
      simp only [System.advance, if_neg hnew]
      exact hheld' r hr

/-- A commit changes only rows the others do not hold. -/
lemma Framed.covered_commit (hP : Framed P Wf Valid) (h : Covered Wf Valid s)
    (hi : s.active i = some t) (hdone : P.done t = true) (log : List (ℕ × τ)) :
    Covered Wf Valid { s.finish i with store := P.commit t s.store, log } := by
  obtain ⟨rows, hvalid, hheld⟩ := h.valid i t hi
  refine ⟨hP.wf h.wf hvalid hdone, fun j t' hj => ?_⟩
  obtain ⟨rows', hvalid', hheld'⟩ := (h.finish i).valid j t' hj
  refine ⟨rows', hP.commit h.wf hvalid hdone hvalid' fun r hr hr' => ?_, hheld'⟩
  have hfinish := hheld' r hr
  simp only [System.finish, if_pos (hheld r hr')] at hfinish
  cases hfinish

/-- **The rule for locks.** What the locks of a transaction protect holds until its end. -/
theorem Framed.step [DecidableEq ρ] (hP : Framed P Wf Valid) (h : Covered Wf Valid s)
    (m : Move τ ι) : Covered Wf Valid (P.step s m) := by
  rcases P.step_cases s m with heq | ⟨i, heq⟩ | ⟨i, t, hinit, heq⟩ |
      ⟨i, t, t', input, -, hi, hnext, hfree, heq⟩ | ⟨i, t, -, hi, hdone, heq⟩
  · rwa [heq]
  · rw [heq]
    exact h.finish i
  · rw [heq]
    have hvalid : Valid s.store t ([] ++ []) := hP.start h.wf hinit
    refine h.advance hvalid ?_ ?_ <;> simp
  · rw [heq]
    obtain ⟨rows, hvalid, hheld⟩ := h.valid i t hi
    exact h.advance (hP.next h.wf hvalid hnext) hheld hfree
  · rw [heq]
    exact hP.covered_commit h hi hdone _

end framed

/-! ## Serial execution -/

section serial

variable {σ ρ τ ι : Type} (P : Protocol σ ρ τ ι)

/-- The transaction has come to the state `t` by statements that all ran on the store `d`, and has
locked `rows`. -/
inductive Alone (d : σ) : τ → List ρ → Prop
  | start {t : τ} (h : P.initial d t = true) : Alone d t []
  | next {t t' : τ} {rows : List ρ} {free : ρ → Bool} {input : ι} (h : Alone d t rows)
      (hnext : P.next d free input t = some t') : Alone d t' (rows ++ P.rows d free input t)

/-- The store after transactions that were executed one after the other. -/
inductive Serial (d₀ : σ) : List (ℕ × τ) → σ → Prop
  | nil : Serial d₀ [] d₀
  | snoc {log : List (ℕ × τ)} {d : σ} {i : ℕ} {t : τ} {rows : List ρ} (h : Serial d₀ log d)
      (hdone : P.done t = true) (ht : P.Alone d t rows) :
      Serial d₀ (log ++ [(i, t)]) (P.commit t d)

/-- A statement reads the rows it locks, and besides them only what every commit keeps. `same r`
says that two stores agree in a row, `keeps` what holds between the stores before and after a
commit. -/
structure Lawful (Wf : σ → Prop) (same : ρ → σ → σ → Prop) (keeps : σ → σ → Prop) : Prop where
  initial : ∀ {d d' t}, P.initial d t = true → keeps d d' → P.initial d' t = true
  next : ∀ {d d' t t' rows free input}, Wf d → P.Alone d t rows →
    P.next d free input t = some t' → (∀ r ∈ rows ++ P.rows d free input t, same r d d') →
    keeps d d' → P.rows d' free input t = P.rows d free input t ∧ P.next d' free input t = some t'
  wf : ∀ {d t rows}, Wf d → P.Alone d t rows → P.done t = true → Wf (P.commit t d)
  commit_same : ∀ {d t rows r}, Wf d → P.Alone d t rows → r ∉ rows → same r d (P.commit t d)
  commit_keeps : ∀ {d t rows}, Wf d → P.Alone d t rows → keeps d (P.commit t d)

variable {P} {Wf : σ → Prop} {same : ρ → σ → σ → Prop} {keeps : σ → σ → Prop}

/-- The statements of a transaction give the same on a store that agrees in the rows it locked. -/
lemma Lawful.alone_congr (hP : P.Lawful Wf same keeps) {d d' : σ} (hd : Wf d) {t : τ}
    {rows : List ρ} (h : P.Alone d t rows) (hsame : ∀ r ∈ rows, same r d d') (hkeeps : keeps d d') :
    P.Alone d' t rows := by
  induction h with
  | start hinit => exact .start (hP.initial hinit hkeeps)
  | next h hnext ih =>
    have ih := ih fun r hr => hsame r (List.mem_append_left _ hr)
    obtain ⟨hrows, hnext'⟩ := hP.next hd h hnext hsame hkeeps
    rw [← hrows]
    exact ih.next hnext'

lemma Lawful.framed (hP : P.Lawful Wf same keeps) : Framed P Wf P.Alone where
  start _ := Alone.start
  next _ := Alone.next
  wf := hP.wf
  commit hd h _ h' hdisjoint :=
    hP.alone_congr hd h' (fun r hr => hP.commit_same hd h (hdisjoint r hr)) (hP.commit_keeps hd h)

/-- The invariant of a serial system. -/
structure SerialInv (P : Protocol σ ρ τ ι) (Wf : σ → Prop) (d₀ : σ) (s : System σ ρ τ) : Prop where
  covered : Covered Wf P.Alone s
  serial : P.Serial d₀ s.log s.store

variable {d₀ : σ}

/-- **Locked transactions are serial**, in the order of their commits. -/
theorem Lawful.serial_step [DecidableEq ρ] (hP : P.Lawful Wf same keeps) {s : System σ ρ τ}
    (h : SerialInv P Wf d₀ s) (m : Move τ ι) : SerialInv P Wf d₀ (P.step s m) := by
  refine ⟨hP.framed.step h.covered m, ?_⟩
  rcases P.step_cases s m with heq | ⟨i, heq⟩ | ⟨i, t, -, heq⟩ |
      ⟨i, t, t', input, -, -, -, -, heq⟩ | ⟨i, t, -, hi, hdone, heq⟩
  · rw [heq]
    exact h.serial
  · rw [heq]
    exact h.serial
  · rw [heq]
    exact h.serial
  · rw [heq]
    exact h.serial
  · rw [heq]
    obtain ⟨rows, halone, -⟩ := h.covered.valid i t hi
    exact h.serial.snoc hdone halone

end serial

end Protocol

end Voicx.Found
