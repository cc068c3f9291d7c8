import Mathlib.Data.String.Basic
import Voicx.Auth.Limiter

/-!
# Bounds of the login failure limiter

Entries are pruned, evicted, cleared and created again while attempts that reserved them are still
out, and an attempt may be finished any number of times. The counter and the flags stay exact all
the same.

* `LimiterBounds` — the table is bounded, the counter counts the outstanding attempts and is
  bounded, and each entry in flight belongs to exactly one of them.
* `Accounted` — the inductive form: a scope is flagged exactly while an outstanding attempt holds
  it, so no scope of an outstanding attempt can lose its flag.
* **`limiter_bounds_throughout`** — the bounds hold throughout every run, for any clock.

An attempt that `Reserve` hands out for an empty scope list holds nothing and is not counted
(`counter_misses_scopeless_attempt`).
-/

namespace Voicx.Auth

open Found LoginAttempt LoginFailureLimiter Finmap List Option

/-! ## Outstanding attempts -/

/-- The attempt holds reserved scopes and has not been finished. -/
def LoginAttempt.outstanding (a : LoginAttempt) : Bool := !a.done && !a.scopes.isEmpty

/-- The attempt is outstanding and holds the scope. -/
def LoginAttempt.holds (scope : String) (a : LoginAttempt) : Bool :=
  a.outstanding && decide (scope ∈ a.scopes)

namespace LoginSystem

/-- How many attempts are outstanding. -/
def outstanding (sys : LoginSystem) : ℕ := sys.attempts.countP LoginAttempt.outstanding

/-- How many outstanding attempts hold the scope. -/
def holders (sys : LoginSystem) (scope : String) : ℕ :=
  sys.attempts.countP (LoginAttempt.holds scope)

/-- The bounds a limiter with these limits keeps. -/
structure LimiterBounds (limits : Limits) (sys : LoginSystem) : Prop where
  entries_le : (sys.limiter.entries.len : Int) ≤ limits.maxEntries
  counter_eq : sys.limiter.inFlight = sys.outstanding
  counter_nonneg : 0 ≤ sys.limiter.inFlight
  counter_le : sys.limiter.inFlight ≤ limits.maxConcurrentKDF
  /-- an entry in flight belongs to exactly one outstanding attempt -/
  flagged : ∀ scope e, sys.limiter.entries.lookup scope = some e → e.inFlight = true →
    sys.holders scope = 1

end LoginSystem

/-! ## The inductive invariant -/

/-- The limiter's books agree with the attempts handed out. -/
structure Accounted (limits : Limits) (l : LoginFailureLimiter) (attempts : List LoginAttempt) :
    Prop where
  limits_eq : l.limits = limits
  entries_le : (l.entries.len : Int) ≤ limits.maxEntries
  counter_eq : l.inFlight = attempts.countP LoginAttempt.outstanding
  counter_le : l.inFlight ≤ limits.maxConcurrentKDF
  /-- a scope is flagged while exactly one outstanding attempt holds it, and only then held -/
  flags : ∀ scope, attempts.countP (LoginAttempt.holds scope) =
    if inFlightAt l.entries scope then 1 else 0

namespace Accounted

variable {limits : Limits} {l l' : LoginFailureLimiter} {attempts : List LoginAttempt} {now : Int}

/-- Accounting implies the bounds. -/
theorem bounds {sys : LoginSystem} (h : Accounted limits sys.limiter sys.attempts) :
    sys.LimiterBounds limits := by
  refine ⟨h.entries_le, h.counter_eq, ?_, h.counter_le, fun scope e he hf => ?_⟩
  · rw [h.counter_eq]
    omega
  · have hflag : inFlightAt sys.limiter.entries scope = true := inFlightAt_eq_true.mpr ⟨e, he, hf⟩
    have hcount := h.flags scope
    rw [hflag] at hcount
    exact hcount

lemma init (cfg : LoginFailureLimiterConfig) : Accounted cfg.limits (new cfg) [] := by
  refine ⟨rfl, ?_, rfl, ?_, fun scope => ?_⟩
  · have := cfg.limits.maxEntries_pos
    simp only [new, FMap.len_empty]
    omega
  · have := cfg.limits.maxConcurrentKDF_pos
    simp only [new]
    omega
  · simp [inFlightAt, new]

/-- The books depend on the table only through its size and its flags. -/
lemma congr (h : Accounted limits l attempts) (hlimits : l'.limits = l.limits)
    (hinFlight : l'.inFlight = l.inFlight) (hlen : (l'.entries.len : Int) ≤ limits.maxEntries)
    (hflags : ∀ scope, inFlightAt l'.entries scope = inFlightAt l.entries scope) :
    Accounted limits l' attempts := by
  refine ⟨hlimits.trans h.limits_eq, hlen, hinFlight.trans h.counter_eq, ?_, fun scope => ?_⟩
  · rw [hinFlight]
    exact h.counter_le
  · rw [hflags]
    exact h.flags scope

lemma of_trim (h : Accounted limits l attempts) (htrim : Trim now l.entries l'.entries)
    (hinFlight : l'.inFlight = l.inFlight) (hlimits : l'.limits = l.limits) :
    Accounted limits l' attempts := by
  refine h.congr hlimits hinFlight ?_ htrim.inFlightAt_eq
  have hlen := htrim.len_le
  have hle := h.entries_le
  omega

section flags

variable {m : LoginTable} {scope : String}

lemma inFlightAt_foldl_flag (scopes : List String) :
    inFlightAt (scopes.foldl flag m) scope =
      if scope ∈ scopes then true else inFlightAt m scope := by
  rw [inFlightAt, lookup_foldl_flag]
  split_ifs <;> simp [inFlightAt]

/-- A scope that is free to be reserved is not flagged. -/
lemma not_inFlightAt_of_evictable
    (h : ∀ e, m.lookup scope = some e → e.evictable now = true) : inFlightAt m scope = false := by
  rw [Bool.eq_false_iff, ne_eq, inFlightAt_eq_true]
  rintro ⟨e, he, hf⟩
  have hev := LoginFailureEntry.evictable_eq_true.mp (h e he)
  rw [hf] at hev
  cases hev.1

end flags

lemma reserve (h : Accounted limits l attempts) {scopes : List String}
    {r : LoginFailureLimiter × Option LoginAttempt}
    (hr : LoginFailureLimiter.ReserveOutcome l now scopes r) :
    Accounted limits r.1 (attempts ++ r.2.toList) := by
  cases hr with
  | unlimited hscopes =>
    -- the attempt that holds nothing counts nowhere
    refine ⟨h.limits_eq, h.entries_le, ?_, h.counter_le, fun scope => ?_⟩
    · rw [h.counter_eq]
      simp [outstanding]
    · rw [← h.flags scope]
      simp [holds, outstanding]
  | refused l' htrim hinFlight hlimits =>
    rw [toList_none, append_nil]
    exact h.of_trim htrim hinFlight hlimits
  | granted l' m hscopes htrim hfree hslot hfits hentries hinFlight hlimits =>
    have hout : outstanding { scopes := scopes } = true := by
      simpa [outstanding] using hscopes
    refine ⟨hlimits.trans h.limits_eq, ?_, ?_, ?_, fun scope => ?_⟩
    · have hlen := len_foldl_flag m scopes
      rw [h.limits_eq] at hfits
      simp only [hentries]
      omega
    · simp only [hinFlight, h.counter_eq, toList_some, countP_append,
        countP_singleton, hout, if_true]
      omega
    · rw [h.limits_eq] at hslot
      simp only [hinFlight]
      omega
    · have hold : attempts.countP (holds scope) = if inFlightAt m scope then 1 else 0 := by
        rw [h.flags, htrim.inFlightAt_eq]
      simp only [toList_some, countP_append, countP_singleton, hold, hentries,
        inFlightAt_foldl_flag, holds, hout, Bool.true_and, decide_eq_true_eq]
      by_cases hs : scope ∈ scopes
      · simp [hs, not_inFlightAt_of_evictable (hfree scope hs)]
      · simp [hs]

variable {i : ℕ} {a : LoginAttempt}

/-- Marking an attempt as finished takes it out of every count of outstanding attempts. -/
lemma countP_finished {p : LoginAttempt → Bool} (hi : attempts[i]? = some a)
    (hp : p { a with done := true } = false) :
    (attempts.set i { a with done := true }).countP p + (if p a then 1 else 0) =
      attempts.countP p := by
  obtain ⟨hlt, hget⟩ := List.getElem?_eq_some_iff.mp hi
  rw [countP_set hlt, hget, hp]
  by_cases ha : p a = true
  · have hpos : 0 < attempts.countP p := by
      rw [countP_pos_iff]
      exact ⟨a, mem_of_getElem? hi, ha⟩
    rw [if_pos ha]
    simp only [Bool.false_eq_true, if_false]
    omega
  · simp [ha]

/-- No scope of an outstanding attempt can lose its flag. -/
theorem flagged (h : Accounted limits l attempts) (ha : a ∈ attempts) (hyes : a.outstanding = true)
    {scope : String} (hs : scope ∈ a.scopes) : inFlightAt l.entries scope = true := by
  have hpos : 0 < attempts.countP (holds scope) := by
    rw [countP_pos_iff]
    exact ⟨a, ha, by simp [holds, hyes, hs]⟩
  by_contra hf
  rw [h.flags scope, if_neg hf] at hpos
  omega

section settled

variable {m m' : LoginTable} {scopes : List String}
  {settled : String → LoginFailureEntry → Option LoginFailureEntry}
  (hentries : ∀ s, m'.lookup s =
    if s ∈ scopes then (m.lookup s).bind (released settled s) else m.lookup s)

include hentries

/-- Settling scopes creates no entry. -/
lemma len_le_of_settled : m'.len ≤ m.len := by
  apply FMap.len_le_of_keys
  intro scope hmem
  obtain ⟨e, he⟩ := mem_iff.mp hmem
  rw [hentries] at he
  split_ifs at he with hs
  · obtain ⟨e', he', _⟩ := bind_eq_some_iff.mp he
    exact mem_iff.mpr ⟨e', he'⟩
  · exact mem_iff.mpr ⟨e, he⟩

/-- Settling scopes clears their flags. -/
lemma inFlightAt_of_settled (hsettled : ∀ s e e', settled s e = some e' → e'.inFlight = false)
    (scope : String) :
    inFlightAt m' scope = if scope ∈ scopes then false else inFlightAt m scope := by
  rw [inFlightAt, hentries]
  split_ifs with hs
  · rw [Option.any_eq_false]
    intro e he
    obtain ⟨e₀, _, he'⟩ := bind_eq_some_iff.mp he
    exact released_inFlight hsettled he'
  · rfl

end settled

variable (h : Accounted limits l attempts)

include h

lemma finish (hi : attempts[i]? = some a) {result : LoginAttemptResult}
    {successScopes : List String} {r : LoginFailureLimiter × LoginAttempt}
    (hr : LoginFailureLimiter.FinishOutcome l now a result successScopes r) :
    Accounted limits r.1 (attempts.set i r.2) := by
  have hout := countP_finished (p := outstanding) hi (by simp [outstanding])
  have hheld := fun scope => countP_finished (p := holds scope) hi (by simp [holds, outstanding])
  cases hr with
  | idle hidle =>
    -- an attempt that is done or holds nothing was not outstanding
    have hnot : a.outstanding = false := by
      rcases hidle with hdone | hnil
      · simp [outstanding, hdone]
      · simp [outstanding, hnil]
    refine ⟨h.limits_eq, h.entries_le, ?_, h.counter_le, fun scope => ?_⟩
    · rw [h.counter_eq, ← hout, hnot]
      simp
    · rw [← h.flags scope, ← hheld scope]
      simp [holds, hnot]
  | settled l' m hopen hscopes htrim hentries hinFlight hlimits =>
    have hyes : a.outstanding = true := by simp [outstanding, hopen, hscopes]
    rw [hyes, if_pos rfl] at hout
    have hflagged : ∀ scope ∈ a.scopes, inFlightAt m scope = true := by
      intro scope hs
      rw [htrim.inFlightAt_eq]
      exact h.flagged (mem_of_getElem? hi) hyes hs
    have hany : a.scopes.any (inFlightAt m) = true := by
      obtain ⟨scope, hs⟩ := exists_mem_of_ne_nil _ hscopes
      exact any_eq_true.mpr ⟨scope, hs, hflagged scope hs⟩
    rw [hany, if_pos rfl] at hinFlight
    have hcounter := h.counter_eq
    refine ⟨hlimits.trans h.limits_eq, ?_, ?_, ?_, fun scope => ?_⟩
    · have hlen := len_le_of_settled hentries
      have htl := htrim.len_le
      have hle := h.entries_le
      simp only
      omega
    · simp only [hinFlight]
      omega
    · have hle := h.counter_le
      simp only [hinFlight]
      omega
    · have hcount := h.flags scope
      rw [← htrim.inFlightAt_eq, ← hheld scope] at hcount
      simp only [inFlightAt_of_settled hentries fun _ _ _ hset => settle_inFlight now hset]
      by_cases hs : scope ∈ a.scopes
      · rw [hflagged scope hs] at hcount
        simp only [holds, hyes, hs, decide_true, Bool.and_self, if_true] at hcount
        simp only [hs, if_true, Bool.false_eq_true, if_false]
        change _ + 1 = 1 at hcount
        exact Nat.succ.inj hcount
      · simpa [holds, hs] using hcount

lemma recordFailure (order : TableOrder) (scopes : List String) :
    Accounted limits (l.recordFailure order scopes now) attempts := by
  obtain ⟨hinFlight, hlimits⟩ := l.recordFailure_frame order now scopes
  have htable := l.recordFailure_induct order now
    (P := fun m => (m.len : Int) ≤ limits.maxEntries ∧
      ∀ scope, inFlightAt m scope = inFlightAt l.entries scope) ?_ scopes ?_
      ⟨h.entries_le, fun _ => rfl⟩
  · exact h.congr hlimits hinFlight htable.1 htable.2
  · intro m m' htrim hP
    have hlen := htrim.len_le
    refine ⟨by omega, fun scope => ?_⟩
    rw [htrim.inFlightAt_eq, hP.2]
  intro m scope _ e hrec hP
  -- the counted entry is not in flight, and a fresh one fits
  have hflag : inFlightAt m scope = false ∧ e.inFlight = false := by
    rcases hrec with ⟨he, hf⟩ | ⟨hnone, rfl, _⟩
    · simp [inFlightAt, he, hf]
    · simp [inFlightAt, hnone]
  refine ⟨?_, fun s => ?_⟩
  · rcases hrec with ⟨he, _⟩ | ⟨hnone, _, hfits⟩
    · have hlen := FMap.len_insert_of_mem (mem_iff.mpr ⟨e, he⟩) (e.countFailure l.limits now)
      rw [hlen]
      exact hP.1
    · have hlen := FMap.len_insert_of_not_mem (lookup_eq_none.mp hnone)
        (e.countFailure l.limits now)
      rw [hlen, ← h.limits_eq]
      exact_mod_cast hfits
  · rw [← hP.2 s, inFlightAt, FMap.lookup_insert_ite]
    split_ifs with hs
    · subst hs
      simp [hflag.1, hflag.2]
    · rfl

theorem clear (scopes : List String) : Accounted limits (l.clear scopes now) attempts := by
  have hflags : ∀ scope, inFlightAt (l.clear scopes now).entries scope =
      inFlightAt l.entries scope := by
    intro scope
    rw [inFlightAt, l.lookup_clear now scopes scope]
    split_ifs with hs
    · exact hs.2.symm
    · rfl
  have hlen : (l.clear scopes now).entries.len ≤ l.entries.len := by
    apply FMap.len_le_of_keys
    intro scope hmem
    obtain ⟨e, he⟩ := mem_iff.mp hmem
    rw [l.lookup_clear now scopes scope] at he
    split_ifs at he
    exact mem_iff.mpr ⟨e, he⟩
  have hle := h.entries_le
  exact h.congr (by simp) (by simp) (by omega) hflags

end Accounted

/-! ## Every run -/

namespace LoginSystem

variable {limits : Limits} {sys : LoginSystem}

lemma accounted_finished (h : Accounted limits sys.limiter sys.attempts) {now : Int} {i : ℕ}
    {f : LoginAttempt → LoginFailureLimiter × LoginAttempt} {result : LoginAttemptResult}
    {successScopes : List String}
    (hf : ∀ a, LoginFailureLimiter.FinishOutcome sys.limiter now a result successScopes (f a)) :
    Accounted limits (sys.finished i f).limiter (sys.finished i f).attempts := by
  unfold finished
  cases hi : sys.attempts[i]? with
  | none => exact h
  | some a => exact h.finish hi (hf a)

/-- One call keeps the books. -/
lemma accounted_step (h : Accounted limits sys.limiter sys.attempts) (call : LoginCall) :
    Accounted limits (sys.step call).limiter (sys.step call).attempts := by
  obtain ⟨now, order, op⟩ := call
  let sys' : LoginSystem := { sys with clock := now }
  have h' : Accounted limits sys'.limiter sys'.attempts := h
  cases op with
  | reserve scopes => exact h'.reserve (sys.limiter.reserve_outcome order now scopes)
  | succeed i successScopes =>
    exact accounted_finished h' fun a => sys.limiter.finish_outcome now a _ _
  | fail i | cancel i => exact accounted_finished h' fun a => sys.limiter.finish_outcome now a _ _
  | allowed scope =>
    obtain ⟨htrim, hinFlight, hlimits⟩ := sys.limiter.allowed_frame now scope
    exact h'.of_trim htrim hinFlight hlimits
  | recordFailure scopes => exact h'.recordFailure order scopes
  | clear scopes => exact h'.clear scopes

/-- **The limiter's bounds.** After every call of every run the table holds at most `maxEntries`
entries, the counter is the number of outstanding attempts and at most `maxConcurrentKDF`, and every
entry in flight belongs to exactly one outstanding attempt. -/
theorem limiter_bounds_throughout (cfg : LoginFailureLimiterConfig) (calls : List LoginCall) :
    Throughout step (LimiterBounds cfg.limits) (init cfg) calls := by
  have hstep : ∀ (sys : LoginSystem) (call : LoginCall),
      Accounted cfg.limits sys.limiter sys.attempts →
      Accounted cfg.limits (sys.step call).limiter (sys.step call).attempts :=
    fun _ call h => accounted_step h call
  have hinit : Accounted cfg.limits (init cfg).limiter (init cfg).attempts := .init cfg
  exact (throughout_of_step hstep hinit calls).mono fun _ h => h.bounds

/-- An attempt reserved for an empty scope list is out without being counted. -/
theorem counter_misses_scopeless_attempt :
    ¬Throughout step
      (fun sys => sys.limiter.inFlight = sys.attempts.countP fun a => !a.done)
      (init {}) [⟨0, FMap.RangeOrder.ascending, .reserve []⟩] := by
  intro h
  have hfinal := h.final
  revert hfinal
  decide

end LoginSystem

end Voicx.Auth
