import Voicx.Found.Run

/-!
# Shutdown of the gRPC server

`Shutdown` first lets the RPCs in progress drain. A caller whose context ends before that forces the
stop and leaves its error as the result of all callers. The graceful stop may complete at any
moment, also between the last check of such a caller and its forced stop.

* `Call`, `Server.act` — a call of `Shutdown` as a sequence of steps on what the callers share.
* `Server.step` — any number of calls of `Shutdown` and `Start`, and the graceful stop.
* `Unraced` — the graceful stop does not complete while a caller is about to force it.
* **`shutdown_result_shared`** — in every run that meets `Unraced` all calls return one result; it
  is nil exactly if the stop was not forced, and every call returns once the stop is complete.
* `late_force_splits_result` — otherwise one caller returns nil and another its deadline.

Source names without a file are from `internal/grpcserver/server.go`.
-/

namespace Voicx.GrpcServer

open Found Function

/-- Why a context has ended. Source: `ctx.Err()` -/
inductive Cause
  | canceled
  | deadlineExceeded
  deriving DecidableEq, Repr

/-- The progress of a call of `Shutdown`. -/
inductive Call
  | idle
  /-- in the outer select -/
  | waiting
  /-- the outer select has taken `ctx.Done()` -/
  | expired (cause : Cause)
  /-- the inner select has found the stop incomplete -/
  | checked (cause : Cause)
  /-- inside `forceOnce`, before `setShutdownError` -/
  | forcing (cause : Cause)
  /-- inside `forceOnce`, before `grpc.Stop` -/
  | stopping
  /-- after `forceOnce`, before `<-s.shutdownDone` -/
  | forced
  /-- before `shutdownResult` -/
  | settled
  | returned (err : Option Cause)
  deriving DecidableEq, Repr

/-- The call goes on to force the stop, whatever happens. -/
def Call.Forces : Call → Prop
  | .checked _ | .forcing _ | .stopping => True
  | _ => False

/-- A `sync.Once`: a second caller blocks while the first one runs the function. -/
inductive Once
  | unused
  | running (caller : ℕ)
  | finished
  deriving DecidableEq, Repr

/-- What `Start` returns. -/
inductive StartResult
  | shutdown (err : Option Cause)
  | notListening
  | serveFailed (err : Option Cause)
  | stopped
  deriving DecidableEq, Repr

/-- The progress of a call of `Start`; `watcher` is the call of `Shutdown` that the cancellation of
its context has made. -/
inductive Start
  | new
  | serving (watcher : Option ℕ)
  | failing (watcher : Option ℕ) (shutdown : ℕ)
  | stopping (watcher : Option ℕ)
  | returned (result : StartResult)
  deriving DecidableEq, Repr

/-- What the calls share. `done` is the closed `shutdownDone`, with whether `grpc.Stop` had been
called when the graceful stop completed.
Source: `Server` -/
structure Server where
  begun : Bool := false
  done : Option Bool := none
  shutdownErr : Option Cause := none
  forceOnce : Once := .unused
  stopped : Bool := false
  calls : ℕ → Call := fun _ => .idle
  starts : ℕ → Start := fun _ => .new

namespace Server

variable (s : Server)

/-- Call `i` moves on. -/
def setCall (i : ℕ) (c : Call) : Server := { s with calls := update s.calls i c }

def setStart (j : ℕ) (st : Start) : Server := { s with starts := update s.starts j st }

/-- A new call: `shutdownOnce` starts the graceful stop.
Source: `Shutdown` -/
def shutdown (i : ℕ) : Server :=
  if s.calls i = .idle then { s with begun := true }.setCall i .waiting else s

/-- The next step of a call. A select whose channel is not closed and a `sync.Once` that is running
block.
Source: `Shutdown`, `shutdownResult`, `setShutdownError` -/
def act (i : ℕ) : Server :=
  match s.calls i with
  | .waiting | .forced => if s.done.isSome then s.setCall i .settled else s
  | .expired cause => s.setCall i (if s.done.isSome then .settled else .checked cause)
  | .checked cause =>
    match s.forceOnce with
    | .unused => { s with forceOnce := .running i }.setCall i (.forcing cause)
    | .running _ => s
    | .finished => s.setCall i .forced
  | .forcing cause => { s with shutdownErr := some cause }.setCall i .stopping
  | .stopping => { s with stopped := true, forceOnce := .finished }.setCall i .forced
  | .settled => s.setCall i (.returned s.shutdownErr)
  | .idle | .returned _ => s

/-- The result of a call that has returned. -/
def result (i : ℕ) : Option (Option Cause) :=
  match s.calls i with
  | .returned err => some err
  | _ => none

/-- The watcher of a `Start` is done. -/
def watched (watcher : Option ℕ) : Bool := watcher.all fun i => (s.result i).isSome

/-- The next step of a call of `Start`. `i` is the call of `Shutdown` that it makes, if it makes
one; `failed` is a failure to listen or to serve.
Source: `Start` -/
def actStart (j i : ℕ) (failed : Bool) : Server :=
  match s.starts j with
  | .new =>
    if s.done.isSome then s.setStart j (.returned (.shutdown s.shutdownErr))
    else if failed then s.setStart j (.returned .notListening)
    else s.setStart j (.serving none)
  | .serving watcher =>
    if failed then (s.shutdown i).setStart j (.failing watcher i)
    else if s.begun then s.setStart j (.stopping watcher)
    else s
  | .failing watcher k =>
    match s.result k with
    | some err => if s.watched watcher then s.setStart j (.returned (.serveFailed err)) else s
    | none => s
  | .stopping watcher => if s.watched watcher then s.setStart j (.returned .stopped) else s
  | .returned _ => s

end Server

/-- What happens next. -/
inductive Event
  | shutdown (i : ℕ)
  /-- the context of a call ends, and the outer select takes this branch -/
  | expire (i : ℕ) (cause : Cause)
  | act (i : ℕ)
  /-- the context of a `Start` ends: its watcher calls `Shutdown` -/
  | cancelStart (j i : ℕ)
  | actStart (j i : ℕ) (failed : Bool)
  /-- `GracefulStop` returns and `shutdownDone` is closed, in one step: a `grpc.Stop` between the
  two counts as called before, so that the stop counts as forced -/
  | gracefulStop

def Server.step (s : Server) : Event → Server
  | .shutdown i => s.shutdown i
  | .expire i cause => if s.calls i = .waiting then s.setCall i (.expired cause) else s
  | .act i => s.act i
  | .cancelStart j i =>
    match s.starts j with
    | .serving none => (s.shutdown i).setStart j (.serving (some i))
    | _ => s
  | .actStart j i failed => s.actStart j i failed
  | .gracefulStop => if s.begun ∧ s.done = none then { s with done := some s.stopped } else s

/-- The graceful stop completes while no caller is about to force it, or after the forced stop. -/
def Unraced (s : Server) : Event → Prop
  | .gracefulStop => s.stopped = true ∨ ∀ i, ¬(s.calls i).Forces
  | _ => True

/-- All calls return one result: nil if and only if the stop completed without being forced. Once
it is complete, every call returns this result after at most three steps of its own. -/
structure Server.Agreed (s : Server) : Prop where
  same : ∀ i j a b, s.calls i = .returned a → s.calls j = .returned b → a = b
  nil_iff : ∀ i a, s.calls i = .returned a → ∃ forced, s.done = some forced ∧
    (a = none ↔ forced = false)
  returns : s.done.isSome → ∀ i, s.calls i ≠ .idle →
    ∃ a, (run Server.step s [.act i, .act i, .act i]).calls i = .returned a

/-! ## The invariant -/

/-- What `forceOnce` says about the result, the forced stop and the calls. -/
def Once.Fits (err : Option Cause) (stopped : Bool) (calls : ℕ → Call) : Once → Prop
  | .unused => err = none ∧ stopped = false
  | .running i => (calls i).Forces ∧ stopped = false
  | .finished => err ≠ none ∧ stopped = true

namespace Server

/-- What the phase of a call says about the shared fields. -/
def Fits (s : Server) (i : ℕ) : Call → Prop
  | .forcing _ => s.forceOnce = .running i
  | .stopping => s.forceOnce = .running i ∧ s.shutdownErr ≠ none
  | .settled => s.done.isSome
  | .returned a => s.done.isSome ∧ a = s.shutdownErr
  | _ => True

structure Inv (s : Server) : Prop where
  once : s.forceOnce.Fits s.shutdownErr s.stopped s.calls
  fits : ∀ i, s.Fits i (s.calls i)
  done : ∀ forced, s.done = some forced → forced = s.stopped ∧
    (s.stopped = false → ∀ i, ¬(s.calls i).Forces)

variable {s : Server} {i : ℕ}

lemma setCall_calls (c : Call) (j : ℕ) :
    (s.setCall i c).calls j = if j = i then c else s.calls j := update_apply ..

/-- A caller that is about to force the stop has found it incomplete. -/
lemma Inv.done_eq_none (h : s.Inv) (hi : (s.calls i).Forces) (hstop : s.stopped = false) :
    s.done = none := by
  cases hdone : s.done with
  | none => rfl
  | some forced => exact absurd hi ((h.done forced hdone).2 hstop i)

lemma Inv.forces_of_running (h : s.Inv) (hrun : s.forceOnce = .running i) :
    (s.calls i).Forces ∧ s.stopped = false := by
  have honce := h.once
  rw [hrun] at honce
  exact honce

/-- A call moves and the shared fields stay. -/
theorem Inv.move (h : s.Inv) {c : Call} (hrun : s.forceOnce ≠ .running i)
    (hforces : c.Forces → s.done = none ∨ s.stopped = true) (hfits : s.Fits i c) :
    (s.setCall i c).Inv where
  once := by
    have honce := h.once
    show s.forceOnce.Fits _ _ (s.setCall i c).calls
    cases hk : s.forceOnce with
    | running k =>
      have hne : k ≠ i := fun heq => hrun (heq ▸ hk)
      rw [hk] at honce
      rw [Once.Fits, setCall_calls, if_neg hne]
      exact honce
    | _ => rw [hk] at honce; exact honce
  fits := (forall_update_iff s.calls s.Fits).mpr ⟨hfits, fun j _ => h.fits j⟩
  done forced hdone := by
    obtain ⟨heq, hquiet⟩ := h.done forced hdone
    refine ⟨heq, fun hstop => ?_⟩
    refine (forall_update_iff s.calls fun _ c => ¬c.Forces).mpr
      ⟨fun hc => ?_, fun j _ => hquiet hstop j⟩
    rcases hforces hc with hnone | hstopped
    · exact Option.some_ne_none _ (hdone.symm.trans hnone)
    · exact Bool.false_ne_true (hstop.symm.trans hstopped)

/-- A call that is about to force the stop takes a step, alone. -/
theorem Inv.force (h : s.Inv) (hi : (s.calls i).Forces) (hstop : s.stopped = false)
    (halone : ∀ j ≠ i, s.forceOnce ≠ .running j) (s' : Server) (hdone : s'.done = s.done)
    (hcalls : s'.calls = s.calls) (c : Call)
    (honce : s'.forceOnce.Fits s'.shutdownErr s'.stopped (s'.setCall i c).calls)
    (hfits : s'.Fits i c) : (s'.setCall i c).Inv := by
  have hnone := h.done_eq_none hi hstop
  refine ⟨honce, ?_, fun forced hforced => ?_⟩
  · refine (forall_update_iff s'.calls s'.Fits).mpr ⟨hfits, fun j hj => ?_⟩
    -- no other call is inside `forceOnce`, and none has seen the stop complete
    have hfit := h.fits j
    rw [hcalls]
    cases hc : s.calls j with
    | forcing cause => exact absurd (hc ▸ hfit : s.Fits j (.forcing cause)) (halone j hj)
    | stopping => exact absurd (hc ▸ hfit : s.Fits j .stopping).1 (halone j hj)
    | settled => exact absurd (hc ▸ hfit : s.Fits j .settled) (by rw [Fits, hnone]; simp)
    | returned a => exact absurd (hc ▸ hfit : s.Fits j (.returned a)).1 (by rw [hnone]; simp)
    | _ => trivial
  · exact absurd (hforced.symm.trans (hdone.trans hnone)) (Option.some_ne_none _)

lemma ne_running_of_ne (hrun : s.forceOnce = .running i) (j : ℕ) (hj : j ≠ i) :
    s.forceOnce ≠ .running j := fun heq => hj (Once.running.inj (heq.symm.trans hrun))

section

variable (h : s.Inv)

include h

/-- A call that does not force the stop is not inside `forceOnce`. -/
lemma Inv.not_running (hi : ¬(s.calls i).Forces) : s.forceOnce ≠ .running i :=
  fun hrun => hi (h.forces_of_running hrun).1

/-- A call waits for the stop. -/
lemma Inv.wait (hi : ¬(s.calls i).Forces) :
    (if s.done.isSome then s.setCall i .settled else s).Inv := by
  split
  next hdone => exact h.move (h.not_running hi) False.elim hdone
  next => exact h

/-- A step of a call keeps the invariant. -/
theorem Inv.act (i : ℕ) : (s.act i).Inv := by
  unfold Server.act
  have hfit := h.fits i
  have honce := h.once
  cases hi : s.calls i with
  | idle | returned a => exact h
  | waiting | forced => exact h.wait (by rw [hi]; exact id)
  | expired cause =>
    have hrun : s.forceOnce ≠ .running i := h.not_running (by rw [hi]; exact id)
    dsimp only
    split
    next hdone => exact h.move hrun False.elim hdone
    next hdone => exact h.move hrun (fun _ => .inl (by simpa using hdone)) trivial
  | settled =>
    rw [hi] at hfit
    exact h.move (h.not_running (by rw [hi]; exact id)) False.elim ⟨hfit, rfl⟩
  | checked cause =>
    have hforces : (s.calls i).Forces := by rw [hi]; trivial
    dsimp only
    split
    next hk =>
      rw [hk] at honce
      refine h.force hforces honce.2 (fun j _ => by simp [hk]) { s with forceOnce := .running i }
        rfl rfl (.forcing cause) ?_ rfl
      exact ⟨by rw [setCall_calls, if_pos rfl]; trivial, honce.2⟩
    next => exact h
    next hk => exact h.move (by simp [hk]) False.elim trivial
  | forcing cause =>
    rw [hi] at hfit
    obtain ⟨hforces, hstop⟩ := h.forces_of_running hfit
    refine h.force hforces hstop (ne_running_of_ne hfit) { s with shutdownErr := some cause }
      rfl rfl .stopping ?_ ⟨hfit, Option.some_ne_none _⟩
    rw [hfit]
    exact ⟨by rw [setCall_calls, if_pos rfl]; trivial, hstop⟩
  | stopping =>
    rw [hi] at hfit
    obtain ⟨hforces, hstop⟩ := h.forces_of_running hfit.1
    exact h.force hforces hstop (ne_running_of_ne hfit.1)
      { s with stopped := true, forceOnce := .finished } rfl rfl .forced ⟨hfit.2, rfl⟩ trivial

/-- A new call keeps it. -/
theorem Inv.shutdown (i : ℕ) : (s.shutdown i).Inv := by
  unfold Server.shutdown
  split
  next hidle =>
    have hbegun : Inv { s with begun := true } := ⟨h.once, h.fits, h.done⟩
    exact hbegun.move (h.not_running (by rw [hidle]; exact id)) False.elim trivial
  next => exact h

lemma Inv.setStart (j : ℕ) (st : Start) : (s.setStart j st).Inv :=
  ⟨h.once, h.fits, h.done⟩

lemma Inv.actStart (j i : ℕ) (failed : Bool) : (s.actStart j i failed).Inv := by
  unfold Server.actStart
  repeat' split
  all_goals first | exact h | exact h.setStart _ _ | exact (h.shutdown i).setStart _ _

/-- Every event keeps it. -/
theorem Inv.step (e : Event) (hok : Unraced s e) : (s.step e).Inv := by
  cases e with
  | shutdown i => exact h.shutdown i
  | act i => exact h.act i
  | actStart j i failed => exact h.actStart j i failed
  | expire i cause =>
    dsimp only [Server.step]
    split
    next hi => exact h.move (h.not_running (by rw [hi]; exact id)) False.elim trivial
    next => exact h
  | cancelStart j i =>
    dsimp only [Server.step]
    split
    · exact (h.shutdown i).setStart _ _
    · exact h
  | gracefulStop =>
    dsimp only [Server.step]
    split
    next hdone =>
      refine ⟨h.once, fun j => ?_, fun forced hforced => ?_⟩
      · have hfit := h.fits j
        unfold Fits at hfit ⊢
        split at hfit <;> simp_all
      · cases hforced
        exact ⟨rfl, fun hstop => hok.resolve_left (by simpa using hstop)⟩
    next => exact h

end


/-! ## The main result -/

/-- Once the stop is complete, the result is nil if and only if the stop was not forced. -/
lemma Inv.err_iff (h : s.Inv) {forced : Bool} (hdone : s.done = some forced) :
    s.shutdownErr = none ↔ forced = false := by
  have honce := h.once
  obtain ⟨rfl, hquiet⟩ := h.done forced hdone
  cases hk : s.forceOnce with
  | unused => rw [hk] at honce; simp [honce.1, honce.2]
  | running k => rw [hk] at honce; exact absurd honce.1 (hquiet honce.2 k)
  | finished => rw [hk] at honce; simp [honce.1, honce.2]

/-- Once the stop is done, a call needs three steps at most. -/
theorem Inv.returns (h : s.Inv) (hdone : s.done.isSome) (hi : s.calls i ≠ .idle) :
    ∃ a, (run Server.step s [.act i, .act i, .act i]).calls i = .returned a := by
  have hnot : s.stopped = false → ¬(s.calls i).Forces := fun hstop hforces => by
    rw [h.done_eq_none hforces hstop] at hdone
    cases hdone
  have hfinished : (s.calls i).Forces → s.forceOnce = .finished := by
    intro hforces
    have honce := h.once
    cases hk : s.forceOnce with
    | finished => rfl
    | _ => rw [hk] at honce; exact absurd hforces (hnot honce.2)
  have hfit := h.fits i
  cases hc : s.calls i with
  | idle => exact absurd hc hi
  | forcing cause =>
    rw [hc] at hfit hfinished
    exact absurd ((hfinished trivial).symm.trans hfit) (by simp)
  | stopping =>
    rw [hc] at hfit hfinished
    exact absurd ((hfinished trivial).symm.trans hfit.1) (by simp)
  | checked cause =>
    rw [hc] at hfinished
    exact ⟨_, by simp [Server.step, Server.act, hc, hfinished trivial, hdone, setCall]; rfl⟩
  | _ => exact ⟨_, by simp [Server.step, Server.act, hc, hdone, setCall]; rfl⟩

lemma Inv.agreed (h : s.Inv) : s.Agreed where
  same i j a b hi hj := by
    have ha := h.fits i
    have hb := h.fits j
    rw [hi] at ha
    rw [hj] at hb
    exact ha.2.trans hb.2.symm
  nil_iff i a hi := by
    have ha := h.fits i
    rw [hi] at ha
    obtain ⟨forced, hdone⟩ := Option.isSome_iff_exists.mp ha.1
    exact ⟨forced, hdone, ha.2 ▸ h.err_iff hdone⟩
  returns hdone _ hi := h.returns hdone hi

/-- **In every run of calls of `Start` and `Shutdown` with any contexts, in which the graceful stop
never completes while a caller is about to force it, all calls return the same result, which is nil
if and only if the stop completed without being forced.** -/
theorem shutdown_result_shared (events : List Event) (hok : StepsOK step Unraced {} events) :
    Throughout step Agreed {} events := by
  have hstart : Inv {} := ⟨⟨rfl, rfl⟩, fun _ => trivial, fun _ h => nomatch h⟩
  exact (throughout_of_stepsOK (fun _ e h hok => h.step e hok) hstart hok).mono fun _ h => h.agreed

/-- A caller forces the stop, and another one returns its deadline too. -/
def forcedStop : List Event :=
  [.shutdown 0, .shutdown 1, .expire 0 .deadlineExceeded, .act 0, .act 0, .act 0, .act 0,
    .gracefulStop, .act 1, .act 1]

theorem forcedStop_result_shared : StepsOK step Unraced {} forcedStop ∧
    Throughout step Agreed {} forcedStop :=
  have hok : StepsOK step Unraced {} forcedStop :=
    ⟨trivial, trivial, trivial, trivial, trivial, trivial, trivial, .inl rfl, trivial, trivial,
      trivial⟩
  ⟨hok, shutdown_result_shared forcedStop hok⟩

/-- The graceful stop completes after the last check of the first caller. The second caller returns
nil, and the first one its deadline. -/
def lateForce : List Event :=
  [.shutdown 0, .shutdown 1, .expire 0 .deadlineExceeded, .act 0, .gracefulStop, .act 1, .act 1,
    .act 0, .act 0, .act 0, .act 0, .act 0]

theorem late_force_splits_result :
    (run step {} lateForce).done = some false ∧
      (run step {} lateForce).result 0 = some (some .deadlineExceeded) ∧
      (run step {} lateForce).result 1 = some none ∧
      ¬(run step {} lateForce).Agreed := by
  refine ⟨rfl, rfl, rfl, fun h => ?_⟩
  exact absurd (h.same 0 1 _ _ rfl rfl) (Option.some_ne_none _)

end Server

end Voicx.GrpcServer
