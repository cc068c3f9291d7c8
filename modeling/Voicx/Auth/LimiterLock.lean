import Mathlib.Data.String.Basic
import Voicx.Auth.Limiter

/-!
# Lockouts cannot be flushed

The table of the login failure limiter is bounded, and whoever is not logged in decides which scopes
are pushed into it. A lockout must survive that until it runs out.

* `TableOK` — what every table reached with a non-decreasing clock satisfies: no lockout lies
  further ahead than the lockout duration, and no entry in flight is locked. The first makes a later
  lockout end no earlier than the one it replaces, the second keeps finishing attempts away from a
  locked entry.
* `LockedTo` — the scope's entry is locked at least until an instant.
* `kept_step` — a call before that instant keeps the lock, unless it is a `Clear` of the scope.
* **`lock_holds_until_expiry`** — over whole runs: the lock is there until it runs out, and every
  `Reserve` with the scope is refused until then.
-/

namespace Voicx.Auth

open Found LoginFailureLimiter LoginFailureEntry

/-! ## Tables reached with a non-decreasing clock -/

/-- An entry as the limiter keeps it at the instant `now`. -/
structure EntryOK (limits : Limits) (now : Int) (scope : String) (e : LoginFailureEntry) : Prop where
  /-- the empty scope has no entry -/
  named : scope ≠ ""
  lock_le : e.lockedUntil ≤ now + limits.lockoutDuration
  /-- no entry in flight is locked -/
  unlocked : e.inFlight = true → e.lockedUntil ≤ now

/-- Every entry of the table is as the limiter keeps it. -/
def TableOK (limits : Limits) (now : Int) (m : LoginTable) : Prop :=
  ∀ scope e, m.lookup scope = some e → EntryOK limits now scope e

/-- The scope's entry is locked at least until `T`. -/
def LockedTo (m : LoginTable) (scope : String) (T : Int) : Prop :=
  ∃ e, m.lookup scope = some e ∧ T ≤ e.lockedUntil

/-- Counting a failure moves the end of a lockout to the lockout duration from now, or not at
all. -/
lemma LoginFailureEntry.countFailure_lockedUntil (e : LoginFailureEntry) (limits : Limits)
    (now : Int) :
    (e.countFailure limits now).lockedUntil = e.lockedUntil ∨
    (e.countFailure limits now).lockedUntil = now + limits.lockoutDuration := by
  unfold countFailure
  split_ifs
  · exact .inr rfl
  · exact .inl rfl

namespace EntryOK

variable {limits : Limits} {now now' : Int} {scope : String} {e : LoginFailureEntry}

theorem later (h : EntryOK limits now scope e) (hle : now ≤ now') : EntryOK limits now' scope e := by
  refine ⟨h.named, ?_, fun hf => ?_⟩
  · have := h.lock_le
    omega
  · have := h.unlocked hf
    omega

/-- A failure counted on an entry that is not in flight. -/
lemma countFailure (h : EntryOK limits now scope e) (hf : e.inFlight = false) :
    EntryOK limits now scope (e.countFailure limits now) := by
  refine ⟨h.named, ?_, fun hf' => ?_⟩
  · have := h.lock_le
    rcases e.countFailure_lockedUntil limits now with heq | heq <;> omega
  · rw [countFailure_inFlight, hf] at hf'
    cases hf'

/-- A fresh entry. -/
theorem fresh (limits : Limits) (hnow : 0 ≤ now) (hscope : scope ≠ "") :
    EntryOK limits now scope {} := by
  have := limits.lockoutDuration_pos
  refine ⟨hscope, ?_, fun _ => hnow⟩
  simp only
  omega

/-- Taking the flag away. -/
lemma unflag (h : EntryOK limits now scope e) :
    EntryOK limits now scope { e with inFlight := false } :=
  ⟨h.named, h.lock_le, fun hf => by cases hf⟩

lemma settle (h : EntryOK limits now scope e) {result : LoginAttemptResult}
    {succeeded : Finset String} {e' : LoginFailureEntry}
    (he : settle limits result succeeded now scope e = some e') : EntryOK limits now scope e' := by
  unfold LoginFailureLimiter.settle at he
  cases result with
  | success =>
    simp only at he
    split_ifs at he
    cases he
    exact h.unflag
  | failure =>
    cases he
    exact h.unflag.countFailure rfl
  | cancel =>
    simp only at he
    split_ifs at he
    cases he
    exact h.unflag

end EntryOK

section table

variable {limits : Limits} {now T : Int} {m m' : LoginTable} {scope : String}

theorem TableOK.later {now' : Int} (h : TableOK limits now m) (hle : now ≤ now') :
    TableOK limits now' m := fun s e he => (h s e he).later hle

lemma TableOK.of_trim (h : TableOK limits now m) (htrim : Trim now m m') :
    TableOK limits now m' := fun s e he => h s e (htrim.lookup_some he)

/-- Pruning and eviction keep a lock that has not run out. -/
lemma LockedTo.of_trim (h : LockedTo m scope T) (htrim : Trim now m m') (hT : now < T) :
    LockedTo m' scope T := by
  obtain ⟨e, he, hlock⟩ := h
  have hkept : e.evictable now = false :=
    evictable_eq_false.mpr (.inr (hT.trans_le hlock))
  exact ⟨e, htrim.lookup_of_not_evictable he hkept, hlock⟩

variable {e : LoginFailureEntry}

/-- Counting a failure keeps the table in order. -/
theorem TableOK.record (h : TableOK limits now m) (hnow : 0 ≤ now) (hscope : scope ≠ "")
    (hrec : Recordable limits m scope e) :
    TableOK limits now (m.insert scope (e.countFailure limits now)) := by
  intro s e' he'
  rcases FMap.lookup_insert_eq_some.mp he' with ⟨rfl, rfl⟩ | ⟨-, hold⟩
  · rcases hrec with ⟨he, hf⟩ | ⟨_, rfl, _⟩
    · exact (h s e he).countFailure hf
    · exact (EntryOK.fresh limits hnow hscope).countFailure rfl
  · exact h s e' hold

/-- Counting a failure never shortens a lock: a new lockout ends at the latest instant there is. -/
theorem LockedTo.record (h : LockedTo m scope T) (hok : TableOK limits now m) {s : String}
    (hrec : Recordable limits m s e) :
    LockedTo (m.insert s (e.countFailure limits now)) scope T := by
  obtain ⟨e₀, he₀, hlock⟩ := h
  by_cases hs : scope = s
  · subst hs
    rcases hrec with ⟨he, _⟩ | ⟨hnone, _⟩
    · rw [he₀] at he
      cases he
      refine ⟨_, Finmap.lookup_insert m, ?_⟩
      have hle := (hok scope e he₀).lock_le
      rcases e.countFailure_lockedUntil limits now with heq | heq <;> omega
    · rw [hnone] at he₀
      cases he₀
  · exact ⟨e₀, by rw [Finmap.lookup_insert_of_ne m hs, he₀], hlock⟩

end table

/-! ## The operations -/

namespace TableOK

variable {l : LoginFailureLimiter} {now : Int}

lemma reserve (h : TableOK l.limits now l.entries) (hnow : 0 ≤ now) {scopes : List String}
    (hnamed : ∀ scope ∈ scopes, scope ≠ "") {r : LoginFailureLimiter × Option LoginAttempt}
    (hr : ReserveOutcome l now scopes r) :
    TableOK l.limits now r.1.entries := by
  cases hr with
  | unlimited hscopes => exact h
  | refused l' htrim hinFlight hlimits => exact h.of_trim htrim
  | granted l' m hscopes htrim hfree hslot hfits hentries hinFlight hlimits =>
    intro s e he
    simp only [hentries, lookup_foldl_flag] at he
    split_ifs at he with hs
    · -- a flagged scope was free, so its lock has run out
      cases he
      cases hold : m.lookup s with
      | none =>
        have hfresh := EntryOK.fresh l.limits hnow (hnamed s hs)
        exact ⟨hfresh.named, hfresh.lock_le, fun _ => hnow⟩
      | some e =>
        have hev := evictable_eq_true.mp (hfree s hs e hold)
        have hok := h s e (htrim.lookup_some hold)
        exact ⟨hok.named, hok.lock_le, fun _ => hev.2⟩
    · exact h s e (htrim.lookup_some he)

lemma finish (h : TableOK l.limits now l.entries) {a : LoginAttempt} {result : LoginAttemptResult}
    {successScopes : List String} {r : LoginFailureLimiter × LoginAttempt}
    (hr : FinishOutcome l now a result successScopes r) :
    TableOK l.limits now r.1.entries := by
  cases hr with
  | idle hidle => exact h
  | settled l' m hopen hscopes htrim hentries hinFlight hlimits =>
    intro s e he
    simp only [hentries] at he
    split_ifs at he with hs
    · obtain ⟨e₀, he₀, hrel⟩ := Option.bind_eq_some_iff.mp he
      have hok := h s e₀ (htrim.lookup_some he₀)
      unfold released at hrel
      split_ifs at hrel with hf
      · exact hok.settle hrel
      · cases hrel
        exact hok
    · exact h s e (htrim.lookup_some he)

end TableOK

namespace LockedTo

variable {l : LoginFailureLimiter} {now T : Int} {scope : String} {scopes : List String}

variable (h : LockedTo l.entries scope T)

include h

/-- Whoever reserves a locked scope is refused. -/
theorem refuses (hT : now < T) (hs : scope ∈ scopes) {r : LoginFailureLimiter × Option LoginAttempt}
    (hr : ReserveOutcome l now scopes r) : r.2 = none := by
  cases hr with
  | unlimited hscopes =>
    rw [hscopes] at hs
    cases hs
  | refused l' htrim hinFlight hlimits => rfl
  | granted l' m hscopes htrim hfree hslot hfits hentries hinFlight hlimits =>
    obtain ⟨e, he, hlock⟩ := h.of_trim htrim hT
    have hev := evictable_eq_true.mp (hfree scope hs e he)
    omega

lemma reserve (hT : now < T) {r : LoginFailureLimiter × Option LoginAttempt}
    (hr : ReserveOutcome l now scopes r) : LockedTo r.1.entries scope T := by
  cases hr with
  | unlimited hscopes => exact h
  | refused l' htrim hinFlight hlimits => exact h.of_trim htrim hT
  | granted l' m hscopes htrim hfree hslot hfits hentries hinFlight hlimits =>
    have hs : scope ∉ scopes := by
      intro hs
      have hnone := h.refuses hT hs
        (.granted l' m hscopes htrim hfree hslot hfits hentries hinFlight hlimits)
      cases hnone
    obtain ⟨e, he, hlock⟩ := h.of_trim htrim hT
    refine ⟨e, ?_, hlock⟩
    simp [hentries, lookup_foldl_flag, if_neg hs, he]

/-- A locked entry is not in flight, so no finished attempt touches it. -/
lemma finish (hok : TableOK l.limits now l.entries) (hT : now < T) {a : LoginAttempt}
    {result : LoginAttemptResult} {successScopes : List String}
    {r : LoginFailureLimiter × LoginAttempt} (hr : FinishOutcome l now a result successScopes r) :
    LockedTo r.1.entries scope T := by
  cases hr with
  | idle hidle => exact h
  | settled l' m hopen hscopes htrim hentries hinFlight hlimits =>
    obtain ⟨e, he, hlock⟩ := h.of_trim htrim hT
    have hf : e.inFlight = false := by
      by_contra hf
      have := (hok scope e (htrim.lookup_some he)).unlocked (by simpa using hf)
      omega
    refine ⟨e, ?_, hlock⟩
    simp only [hentries, he]
    split_ifs
    · simp [released, hf]
    · rfl

end LockedTo

/-- `RecordFailure` keeps the table in order, and every lock that has not run out. -/
lemma recordFailure_keeps {l : LoginFailureLimiter} (order : TableOrder) {now : Int}
    (scopes : List String) (hnow : 0 ≤ now) (h : TableOK l.limits now l.entries) :
    TableOK l.limits now (l.recordFailure order scopes now).entries ∧
    ∀ scope T, now < T → LockedTo l.entries scope T →
      LockedTo (l.recordFailure order scopes now).entries scope T := by
  refine l.recordFailure_induct order now
    (P := fun m => TableOK l.limits now m ∧
      ∀ scope T, now < T → LockedTo l.entries scope T → LockedTo m scope T) ?_ scopes ?_
    ⟨h, fun _ _ _ hlock => hlock⟩
  · rintro m m' htrim ⟨hok, hkeep⟩
    exact ⟨hok.of_trim htrim, fun s T hT hlock => (hkeep s T hT hlock).of_trim htrim hT⟩
  · rintro m s hs e hrec ⟨hok, hkeep⟩
    exact ⟨hok.record hnow (mem_uniqueLoginScopes.mp hs).2 hrec,
      fun scope T hT hlock => (hkeep scope T hT hlock).record hok hrec⟩

/-! ## Runs -/

/-- The call is a `Clear` of the scope. -/
def LoginOp.clears (scope : String) : LoginOp → Bool
  | .clear scopes => decide (scope ∈ scopes)
  | _ => false

namespace LoginSystem

/-- The clock does not run backwards. -/
def ClockOK (sys : LoginSystem) (call : LoginCall) : Prop := sys.clock ≤ call.now

instance (sys : LoginSystem) (call : LoginCall) : Decidable (sys.ClockOK call) :=
  inferInstanceAs (Decidable (sys.clock ≤ call.now))

/-- The end of the scope's lockout; `none` if the scope has no entry. -/
def lockedUntil (sys : LoginSystem) (scope : String) : Option Int :=
  (sys.limiter.entries.lookup scope).map LoginFailureEntry.lockedUntil

/-- What a run with a non-decreasing clock preserves. -/
structure Timely (sys : LoginSystem) : Prop where
  clock_nonneg : 0 ≤ sys.clock
  table : TableOK sys.limiter.limits sys.clock sys.limiter.entries

/-- What a call leaves behind: a table in order at the call's instant, and every lock that has not
run out by then, unless the call is a `Clear` of the scope. -/
structure Kept (sys : LoginSystem) (call : LoginCall) (sys' : LoginSystem) : Prop where
  limits : sys'.limiter.limits = sys.limiter.limits
  clock : sys'.clock = call.now
  table : TableOK sys.limiter.limits call.now sys'.limiter.entries
  locks : ∀ scope T, call.now < T → call.op.clears scope = false →
    LockedTo sys.limiter.entries scope T → LockedTo sys'.limiter.entries scope T

variable {sys : LoginSystem} {call : LoginCall}

lemma kept_finished {sys : LoginSystem} {call : LoginCall}
    (h : TableOK sys.limiter.limits call.now sys.limiter.entries) {i : ℕ}
    {f : LoginAttempt → LoginFailureLimiter × LoginAttempt} {result : LoginAttemptResult}
    {successScopes : List String}
    (hf : ∀ a,
      FinishOutcome sys.limiter call.now a result successScopes (f a)) :
    Kept sys call ({ sys with clock := call.now }.finished i f) := by
  unfold finished
  simp only
  cases hi : sys.attempts[i]? with
  | none => exact ⟨rfl, rfl, h, fun _ _ _ _ hlock => hlock⟩
  | some a =>
    exact ⟨(hf a).limits, rfl, h.finish (hf a), fun _ _ hT _ hlock => hlock.finish h hT (hf a)⟩

/-- One call of a run with a non-decreasing clock. -/
theorem kept_step (h : sys.Timely) (hclock : sys.ClockOK call) : Kept sys call (sys.step call) := by
  have hnow : 0 ≤ call.now := h.clock_nonneg.trans hclock
  have hok : TableOK sys.limiter.limits call.now sys.limiter.entries := h.table.later hclock
  obtain ⟨now, order, op⟩ := call
  cases op with
  | reserve scopes =>
    have hr := sys.limiter.reserve_outcome order now scopes
    exact ⟨hr.limits, rfl, hok.reserve hnow (fun s hs => (mem_uniqueLoginScopes.mp hs).2) hr,
      fun _ _ hT _ hlock => hlock.reserve hT hr⟩
  | succeed i successScopes => exact kept_finished hok fun a => sys.limiter.finish_outcome now a _ _
  | fail i | cancel i => exact kept_finished hok fun a => sys.limiter.finish_outcome now a _ _
  | allowed scope =>
    obtain ⟨htrim, _, hlimits⟩ := sys.limiter.allowed_frame now scope
    exact ⟨hlimits, rfl, hok.of_trim htrim, fun _ _ hT _ hlock => hlock.of_trim htrim hT⟩
  | recordFailure scopes =>
    obtain ⟨htable, hlocks⟩ := recordFailure_keeps order scopes hnow hok
    exact ⟨(sys.limiter.recordFailure_frame order now scopes).2, rfl, htable,
      fun s T hT _ hlock => hlocks s T hT hlock⟩
  | clear scopes =>
    have hlookup := sys.limiter.lookup_clear now scopes
    refine ⟨by simp [step], rfl, fun s e he => ?_, fun s T hT hclears hlock => ?_⟩
    · simp only [step, hlookup] at he
      split_ifs at he
      exact hok s e he
    have hs : s ∉ uniqueLoginScopes scopes := by
      intro hs
      simp [LoginOp.clears, (mem_uniqueLoginScopes.mp hs).1] at hclears
    obtain ⟨e, he, hT'⟩ := hlock
    refine ⟨e, ?_, hT'⟩
    simp only [step, hlookup]
    rw [if_neg (fun h => hs h.1), he]

lemma timely_step (h : sys.Timely) (hclock : sys.ClockOK call) : (sys.step call).Timely := by
  have hk := kept_step h hclock
  refine ⟨?_, ?_⟩
  · rw [hk.clock]
    exact h.clock_nonneg.trans hclock
  · rw [hk.clock, hk.limits]
    exact hk.table

/-- A lock stays through calls before its end that do not clear the scope. -/
lemma lockedTo_run (h : sys.Timely) {calls : List LoginCall}
    (hclock : StepsOK step ClockOK sys calls) {scope : String} {T : Int}
    (hcalls : ∀ call ∈ calls, call.now < T ∧ call.op.clears scope = false)
    (hlock : LockedTo sys.limiter.entries scope T) :
    LockedTo (run step sys calls).limiter.entries scope T := by
  induction calls generalizing sys with
  | nil => exact hlock
  | cons call rest ih =>
    obtain ⟨hT, hclears⟩ := hcalls call List.mem_cons_self
    refine ih (timely_step h hclock.1) hclock.2
      (fun c hc => hcalls c (List.mem_cons_of_mem _ hc)) ?_
    exact (kept_step h hclock.1).locks scope T hT hclears hlock

/-- **Lockouts hold until they run out.** Once a scope is locked until `T`, no calls before `T`
remove or shorten the lock, whatever they do to other scopes and however full the table is, unless
one of them is a `Clear` of that scope; and every `Reserve` with the scope is refused before `T`. -/
theorem lock_holds_until_expiry (cfg : LoginFailureLimiterConfig) (before after : List LoginCall)
    (scope : String) (T : Int)
    (hclock : StepsOK step ClockOK (init cfg) (before ++ after))
    (hlocked : (run step (init cfg) before).lockedUntil scope = some T)
    (hafter : ∀ call ∈ after, call.now < T ∧ call.op.clears scope = false) :
    (∃ T', (run step (init cfg) (before ++ after)).lockedUntil scope = some T' ∧ T ≤ T') ∧
    ∀ order scopes now, scope ∈ scopes → now < T →
      ((run step (init cfg) (before ++ after)).limiter.reserve order scopes now).2 = none := by
  obtain ⟨hbefore, hrest⟩ := (stepsOK_append _ _ _).mp hclock
  have hstep : ∀ (sys : LoginSystem) (call : LoginCall),
      sys.Timely → sys.ClockOK call → (sys.step call).Timely :=
    fun _ _ h hc => timely_step h hc
  have hstart : (init cfg).Timely := ⟨le_refl _, fun scope e he => by simp [init, new] at he⟩
  have htimely := (throughout_of_stepsOK hstep hstart hbefore).final
  obtain ⟨e, he, rfl⟩ := Option.map_eq_some_iff.mp hlocked
  have hlock := lockedTo_run htimely hrest hafter ⟨e, he, le_refl _⟩
  rw [← run_append] at hlock
  refine ⟨?_, fun order scopes now hs hT => ?_⟩
  · obtain ⟨e', he', hle⟩ := hlock
    exact ⟨e'.lockedUntil, by rw [lockedUntil, he', Option.map_some], hle⟩
  · -- the scope of an entry is not empty, so it counts among the reserved ones
    have hnamed := (htimely.table scope e he).named
    exact hlock.refuses hT (mem_uniqueLoginScopes.mpr ⟨hs, hnamed⟩)
      (reserve_outcome _ order now scopes)

/-- A table of one slot: the scope is locked after its first failure, and failures and reservations
of other scopes that press into the table do not flush the lock. -/
theorem lock_holds_full_table :
    (run step (init { maxFailures := 1, lockoutDuration := 100, maxEntries := 1 })
      [⟨10, .ascending, .recordFailure ["a"]⟩]).lockedUntil "a" = some 110 ∧
    (∃ T', (run step (init { maxFailures := 1, lockoutDuration := 100, maxEntries := 1 })
      ([⟨10, .ascending, .recordFailure ["a"]⟩] ++
        [⟨20, .ascending, .recordFailure ["b"]⟩, ⟨30, .ascending, .reserve ["c"]⟩])).lockedUntil
        "a" = some T' ∧ 110 ≤ T') ∧
    ∀ order scopes now, "a" ∈ scopes → now < 110 →
      ((run step (init { maxFailures := 1, lockoutDuration := 100, maxEntries := 1 })
        ([⟨10, .ascending, .recordFailure ["a"]⟩] ++
          [⟨20, .ascending, .recordFailure ["b"]⟩,
            ⟨30, .ascending, .reserve ["c"]⟩])).limiter.reserve order scopes now).2 = none :=
  ⟨by decide, lock_holds_until_expiry _ _ _ "a" 110 (by decide) (by decide) (by decide)⟩

end LoginSystem

end Voicx.Auth
