import Voicx.Found.FiniteMap
import Voicx.Found.Run

/-!
# The login failure limiter

The limiter keeps, for each hashed login scope, a failure streak, a lockout and a flag that a
password verification is running. Its table is bounded, so every operation first drops what has
expired, and a new scope may evict the oldest entry that is neither locked nor in flight.

* `LoginFailureLimiter`, `LoginAttempt` — the limiter and the reservations it hands out. The limits
  carry the proofs that the constructor made them positive.
* `reserve`, `finish`, `allowed`, `recordFailure`, `clear` — the operations. Each runs under the
  limiter's mutex and reads the clock once, so the instant is an argument.
* `makeRoom` — the eviction loop, over the order in which Go ranges over the table.
* `Trim` — what pruning and eviction can do to the table: drop entries that are neither in flight
  nor locked. Each operation then has one lemma that says what it does up to a `Trim`
  (`reserve_outcome`, `finish_outcome`, `recordFailure_induct`).
* `LoginSystem`, `LoginOp` — the limiter with every attempt it handed out, and its runs.

Instants are nanoseconds since Go's zero `time.Time`, which is `0`.

Source names without a file are from `internal/auth/limiter.go`.
-/

namespace Voicx.Auth

open Found Finmap List FMap

/-! ## Configuration -/

/-- What the limiter is configured with; the clock is an argument of the operations instead.
Source: `LoginFailureLimiterConfig`. -/
structure LoginFailureLimiterConfig where
  maxFailures : Int := 0
  lockoutDuration : Int := 0
  failureTTL : Int := 0
  maxEntries : Int := 0
  maxConcurrentKDF : Int := 0

/-- A minute of a Go duration. -/
def minute : Int := 60 * 1000000000

/-- `DefaultLoginFailureMaxFailures`. -/
def defaultLoginFailureMaxFailures : Int := 5

/-- `DefaultLoginFailureLockout`. -/
def defaultLoginFailureLockout : Int := 5 * minute

/-- `DefaultLoginFailureTTL`. -/
def defaultLoginFailureTTL : Int := 5 * minute

/-- `DefaultLoginFailureMaxEntries`. -/
def defaultLoginFailureMaxEntries : Int := 4096

/-- `DefaultLoginFailureMaxConcurrentKDF`. -/
def defaultLoginFailureMaxConcurrentKDF : Int := 8

/-- The configured value, or the default where it is not positive. -/
def orDefault (configured default : Int) : Int := if configured ≤ 0 then default else configured

lemma orDefault_pos (configured : Int) {default : Int} (h : 0 < default) :
    0 < orDefault configured default := by
  unfold orDefault
  split_ifs <;> omega

/-- The limits a limiter works with. -/
structure Limits where
  maxFailures : Int
  lockoutDuration : Int
  failureTTL : Int
  maxEntries : Int
  maxConcurrentKDF : Int
  maxFailures_pos : 0 < maxFailures
  lockoutDuration_pos : 0 < lockoutDuration
  failureTTL_pos : 0 < failureTTL
  maxEntries_pos : 0 < maxEntries
  maxConcurrentKDF_pos : 0 < maxConcurrentKDF

/-- The limits a configuration stands for. -/
def LoginFailureLimiterConfig.limits (cfg : LoginFailureLimiterConfig) : Limits where
  maxFailures := orDefault cfg.maxFailures defaultLoginFailureMaxFailures
  lockoutDuration := orDefault cfg.lockoutDuration defaultLoginFailureLockout
  failureTTL := orDefault cfg.failureTTL defaultLoginFailureTTL
  maxEntries := orDefault cfg.maxEntries defaultLoginFailureMaxEntries
  maxConcurrentKDF := orDefault cfg.maxConcurrentKDF defaultLoginFailureMaxConcurrentKDF
  maxFailures_pos := orDefault_pos _ (by decide)
  lockoutDuration_pos := orDefault_pos _ (by decide)
  failureTTL_pos := orDefault_pos _ (by decide)
  maxEntries_pos := orDefault_pos _ (by decide)
  maxConcurrentKDF_pos := orDefault_pos _ (by decide)

/-! ## Entries -/

/-- The state of one scope. Source: `loginFailureEntry`. -/
structure LoginFailureEntry where
  failures : Int := 0
  lastFailure : Int := 0
  lockedUntil : Int := 0
  inFlight : Bool := false
deriving DecidableEq, Repr

namespace LoginFailureEntry

variable (e : LoginFailureEntry)

/-- `entry.lockedUntil.After(now)`. -/
def locked (now : Int) : Bool := decide (now < e.lockedUntil)

/-- Neither in flight nor locked: the entry may be given up. -/
def evictable (now : Int) : Bool := !e.inFlight && !e.locked now

/-- The test of `pruneExpiredLocked`: the lockout or the failure streak has run out. -/
def expired (failureTTL now : Int) : Bool :=
  e.evictable now &&
    (decide (e.lockedUntil ≠ 0) ||
      (decide (e.lastFailure = 0) ||
        (decide (¬now < e.lastFailure) && decide (failureTTL ≤ now - e.lastFailure))))

/-- One more failure; the streak that reaches the limit becomes a lockout. -/
def countFailure (limits : Limits) (now : Int) : LoginFailureEntry :=
  if limits.maxFailures ≤ e.failures + 1 then
    { e with failures := 0, lastFailure := now, lockedUntil := now + limits.lockoutDuration }
  else { e with failures := e.failures + 1, lastFailure := now }

variable {e : LoginFailureEntry} {now : Int}

lemma evictable_eq_false : e.evictable now = false ↔ e.inFlight = true ∨ now < e.lockedUntil := by
  cases h : e.inFlight <;> simp [evictable, locked, h]

lemma evictable_eq_true : e.evictable now = true ↔ e.inFlight = false ∧ e.lockedUntil ≤ now := by
  cases h : e.inFlight <;> simp [evictable, locked, h]

@[simp] lemma countFailure_inFlight (e : LoginFailureEntry) (limits : Limits) (now : Int) :
    (e.countFailure limits now).inFlight = e.inFlight := by
  unfold countFailure
  split_ifs <;> rfl

end LoginFailureEntry

open LoginFailureEntry

/-! ## The limiter -/

/-- The entries of the limiter, by scope. -/
abbrev LoginTable : Type := FMap String LoginFailureEntry

/-- The order in which Go ranges over the table. -/
abbrev TableOrder := FMap.RangeOrder String LoginFailureEntry

/-- The limiter. Source: `LoginFailureLimiter`. -/
structure LoginFailureLimiter where
  limits : Limits
  entries : LoginTable := ∅
  inFlight : Int := 0
  overflowUntil : Int := 0

/-- A reservation for one password verification; `done` is the state of its `sync.Once`. The
attempt handed out for an empty scope list holds no scope and no limiter.
Source: `LoginAttempt`. -/
structure LoginAttempt where
  scopes : List String := []
  done : Bool := false
deriving DecidableEq, Repr

/-- How an attempt ended. Source: `loginAttemptResult`. -/
inductive LoginAttemptResult
  | success
  | failure
  | cancel
deriving DecidableEq, Repr

/-- Drop empty and repeated scopes, keep the order.
Source: `uniqueLoginScopes`. -/
def uniqueLoginScopes (scopes : List String) : List String :=
  scopes.foldl
    (fun unique scope => if scope = "" ∨ scope ∈ unique then unique else unique ++ [scope]) []

/-- Source: `loginScopeSet`. -/
def loginScopeSet (scopes : List String) : Finset String := scopes.toFinset

namespace LoginFailureLimiter

/-- A fresh limiter. Source: `NewLoginFailureLimiter`. -/
def new (cfg : LoginFailureLimiterConfig) : LoginFailureLimiter where
  limits := cfg.limits

variable (order : TableOrder) (m : LoginTable) (l : LoginFailureLimiter)

variable (now : Int)

/-- Source: `evictableCapacityLocked`. -/
def evictableCapacity : Int :=
  l.limits.maxEntries - l.entries.len + (l.entries.filter fun _ e => e.evictable now).len

/-- Source: `clearOverflowWhenEvictableLocked`. -/
def clearOverflowWhenEvictable : LoginFailureLimiter :=
  if 0 < l.evictableCapacity now ∨ ¬now < l.overflowUntil then { l with overflowUntil := 0 } else l

/-- Source: `pruneExpiredLocked`. -/
def pruneExpired : LoginFailureLimiter :=
  clearOverflowWhenEvictable
    { l with entries := l.entries.filter fun _ e => !e.expired l.limits.failureTTL now } now

/-- A scope whose entry is in flight or locked. -/
def blocked (scope : String) : Bool :=
  (m.lookup scope).any fun e => e.inFlight || e.locked now

/-- How many of the scopes have no entry. -/
def newScopes (scopes : List String) : ℕ :=
  scopes.countP fun scope => decide (scope ∉ m)

/-- The slots that the scopes outside `protectedScopes` leave free or give up. -/
def availableSlots (protectedScopes : Finset String) (now : Int) : Int :=
  l.limits.maxEntries - l.entries.len +
    (l.entries.filter fun scope e => decide (scope ∉ protectedScopes) && e.evictable now).len

/-- Source: `scopesAvailableLocked`. -/
def scopesAvailable (scopes : List String) (protectedScopes : Finset String) (now : Int) :
    LoginFailureLimiter × Bool :=
  if scopes.any (blocked l.entries now) then (l, false)
  else if newScopes l.entries scopes = 0 then (l, true)
  else if (newScopes l.entries scopes : Int) ≤ l.availableSlots protectedScopes now then
    ({ l with overflowUntil := 0 }, true)
  else
    -- every slot holds a lockout or a running verification
    ({ l with overflowUntil := now + l.limits.lockoutDuration }, false)

/-- One round of the eviction loop's search: the entry `scope` against the oldest one so far. An
empty `oldest.1` stands for none, as in the source. -/
def olderOf (protectedScopes : Finset String) (now : Int) (oldest : String × Int) (scope : String) :
    String × Int :=
  match m.lookup scope with
  | none => oldest
  | some e =>
    if scope ∈ protectedScopes then oldest
    else if e.inFlight || e.locked now then oldest
    else if oldest.1 = "" ∨ e.lastFailure < oldest.2 then (scope, e.lastFailure)
    else oldest

/-- The scope the eviction loop deletes next; empty if there is none. -/
def oldestScope (m : LoginTable) (protectedScopes : Finset String) (now : Int) :
    String :=
  ((order.keys m).foldl (olderOf m protectedScopes now) ("", 0)).1

/-- The eviction loop, for at most `fuel` rounds. -/
def makeRoomLoop (order : TableOrder) (now : Int) (needed : ℕ) (protectedScopes : Finset String) :
    ℕ → LoginFailureLimiter → LoginFailureLimiter × Bool
  | 0, l => (l, false)
  | fuel + 1, l =>
    if (l.entries.len + needed : Int) ≤ l.limits.maxEntries then (l, true)
    else if oldestScope order l.entries protectedScopes now = "" then
      ({ l with overflowUntil := now + l.limits.lockoutDuration }, false)
    else
      makeRoomLoop order now needed protectedScopes fuel
        { l with entries := l.entries.erase (oldestScope order l.entries protectedScopes now) }

/-- Evict the oldest entries until `needed` more fit. A round deletes an entry, so one round more
than there are entries is enough (`makeRoomLoop_fuel`).
Source: `makeRoomLocked`. -/
def makeRoom (order : TableOrder) (now : Int) (needed : ℕ) (protectedScopes : Finset String) :
    LoginFailureLimiter × Bool :=
  makeRoomLoop order now needed protectedScopes (l.entries.len + 1) l

/-- Set the in-flight flag of one scope, on a fresh entry if it has none. -/
def flag (scope : String) : LoginTable :=
  m.insert scope { (m.lookup scope).getD {} with inFlight := true }

/-- Reserve the scopes, or refuse with `none`.
Source: `LoginFailureLimiter.Reserve`. -/
def reserve (order : TableOrder) (scopes : List String) (now : Int) :
    LoginFailureLimiter × Option LoginAttempt :=
  let scopes := uniqueLoginScopes scopes
  if scopes = [] then (l, some {})
  else
    let l := l.pruneExpired now
    if l.limits.maxConcurrentKDF ≤ l.inFlight then (l, none)
    else
      match l.scopesAvailable scopes (loginScopeSet scopes) now with
      | (l, false) => (l, none)
      | (l, true) =>
        match l.makeRoom order now (newScopes l.entries scopes) (loginScopeSet scopes) with
        | (l, false) => (l, none)
        | (l, true) =>
          ({ l with entries := scopes.foldl flag l.entries, inFlight := l.inFlight + 1 },
            some { scopes := scopes })

/-- What becomes of the in-flight entry of a finished attempt; `none` deletes it. -/
def settle (limits : Limits) (result : LoginAttemptResult) (succeeded : Finset String) (now : Int)
    (scope : String) (e : LoginFailureEntry) : Option LoginFailureEntry :=
  match result with
  | .success =>
    if scope ∈ succeeded then none
    else if e.failures = 0 ∧ e.lockedUntil = 0 then none
    else some { e with inFlight := false }
  | .failure => some ({ e with inFlight := false }.countFailure limits now)
  | .cancel =>
    if e.failures = 0 ∧ e.lockedUntil = 0 then none else some { e with inFlight := false }

/-- One round of `finish`: the scope's entry, if it is in flight, is settled. The flag records that
some entry was. -/
def release (settled : String → LoginFailureEntry → Option LoginFailureEntry)
    (acc : LoginTable × Bool) (scope : String) :
    LoginTable × Bool :=
  match acc.1.lookup scope with
  | none => acc
  | some e =>
    if e.inFlight then
      match settled scope e with
      | none => (acc.1.erase scope, true)
      | some e' => (acc.1.insert scope e', true)
    else acc

variable (a : LoginAttempt)

/-- Finish an attempt; a second call does nothing.
Source: `LoginAttempt.finish`. -/
def finish (result : LoginAttemptResult) (successScopes : List String) (now : Int) :
    LoginFailureLimiter × LoginAttempt :=
  if a.done then (l, a)
  else if a.scopes = [] then (l, { a with done := true })
  else
    let l := l.pruneExpired now
    match a.scopes.foldl (release (settle l.limits result successScopes.toFinset now))
        (l.entries, false) with
    | (entries, false) => ({ l with entries := entries }, { a with done := true })
    | (entries, true) =>
      (clearOverflowWhenEvictable { l with entries := entries, inFlight := l.inFlight - 1 } now,
        { a with done := true })

/-- Source: `LoginAttempt.Succeed`. -/
def succeed (successScopes : List String) (now : Int) : LoginFailureLimiter × LoginAttempt :=
  l.finish a .success (uniqueLoginScopes successScopes) now

/-- Source: `LoginAttempt.Fail`. -/
def fail (now : Int) : LoginFailureLimiter × LoginAttempt :=
  l.finish a .failure [] now

/-- Source: `LoginAttempt.Cancel`. -/
def cancel (l : LoginFailureLimiter) (a : LoginAttempt) (now : Int) :
    LoginFailureLimiter × LoginAttempt :=
  l.finish a .cancel [] now

/-- Source: `LoginFailureLimiter.Allowed`. -/
def allowed (scope : String) (now : Int) : LoginFailureLimiter × Bool :=
  if scope = "" then (l, true)
  else
    let l := l.pruneExpired now
    if l.inFlight < l.limits.maxConcurrentKDF then
      l.scopesAvailable [scope] (loginScopeSet [scope]) now
    else (l, false)

/-- Source: `recordFailureLocked`. -/
def recordFailureLocked (now : Int) (l : LoginFailureLimiter) (scope : String) :
    LoginFailureLimiter :=
  match l.entries.lookup scope with
  | none =>
    match l.makeRoom order now 1 ∅ with
    | (l, false) => l
    | (l, true) =>
      { l with
        entries := l.entries.insert scope
          (countFailure {} l.limits now) }
  | some e =>
    if e.inFlight then l
    else { l with entries := l.entries.insert scope (e.countFailure l.limits now) }

/-- Source: `LoginFailureLimiter.RecordFailure`. -/
def recordFailure (order : TableOrder) (scopes : List String) (now : Int) : LoginFailureLimiter :=
  let scopes := uniqueLoginScopes scopes
  if scopes = [] then l
  else
    clearOverflowWhenEvictable
      (scopes.foldl (recordFailureLocked order now) (l.pruneExpired now)) now

/-- One round of `Clear`: an entry in flight stays. -/
def clearScope (scope : String) : LoginTable :=
  match m.lookup scope with
  | some e => if e.inFlight then m else m.erase scope
  | none => m.erase scope

/-- Source: `LoginFailureLimiter.Clear`. -/
def clear (scopes : List String) (now : Int) : LoginFailureLimiter :=
  let scopes := uniqueLoginScopes scopes
  if scopes = [] then l
  else clearOverflowWhenEvictable { l with entries := scopes.foldl clearScope l.entries } now

end LoginFailureLimiter

/-! ## Runs of the limiter -/

/-- A call of one of the limiter's operations. Attempts are named by their position among the
attempts handed out so far. -/
inductive LoginOp
  | reserve (scopes : List String)
  | succeed (i : ℕ) (successScopes : List String)
  | fail (i : ℕ)
  | cancel (i : ℕ)
  | allowed (scope : String)
  | recordFailure (scopes : List String)
  | clear (scopes : List String)
deriving DecidableEq, Repr

/-- A call, with the instant the clock shows and the order of the table in that call. -/
structure LoginCall where
  now : Int
  order : TableOrder
  op : LoginOp

/-- The limiter with every attempt it has handed out, and the last reading of the clock. -/
structure LoginSystem where
  limiter : LoginFailureLimiter
  attempts : List LoginAttempt := []
  clock : Int := 0

namespace LoginSystem

/-- A fresh limiter, before any attempt. -/
def init (cfg : LoginFailureLimiterConfig) : LoginSystem where
  limiter := .new cfg

variable (sys : LoginSystem)

/-- A call that returns the limiter and a reservation, or a refusal. -/
def reserved (r : LoginFailureLimiter × Option LoginAttempt) : LoginSystem :=
  { sys with limiter := r.1, attempts := sys.attempts ++ r.2.toList }

/-- A call of one of the three finishing methods on the `i`-th attempt. -/
def finished (i : ℕ) (f : LoginAttempt → LoginFailureLimiter × LoginAttempt) : LoginSystem :=
  match sys.attempts[i]? with
  | none => sys
  | some a => { sys with limiter := (f a).1, attempts := sys.attempts.set i (f a).2 }

/-- One call. -/
def step (call : LoginCall) : LoginSystem :=
  let l := sys.limiter
  let sys := { sys with clock := call.now }
  match call.op with
  | .reserve scopes => sys.reserved (l.reserve call.order scopes call.now)
  | .succeed i successScopes => sys.finished i fun a => l.succeed a successScopes call.now
  | .fail i => sys.finished i fun a => l.fail a call.now
  | .cancel i => sys.finished i fun a => l.cancel a call.now
  | .allowed scope => { sys with limiter := (l.allowed scope call.now).1 }
  | .recordFailure scopes => { sys with limiter := l.recordFailure call.order scopes call.now }
  | .clear scopes => { sys with limiter := l.clear scopes call.now }

end LoginSystem

/-! ## Scope lists -/

variable {scope : String}

lemma mem_uniqueLoginScopes {scopes : List String} :
    scope ∈ uniqueLoginScopes scopes ↔ scope ∈ scopes ∧ scope ≠ "" := by
  -- the loop with the scopes collected so far
  have hloop : ∀ (scopes unique : List String),
      scope ∈ scopes.foldl (fun unique scope =>
        if scope = "" ∨ scope ∈ unique then unique else unique ++ [scope]) unique ↔
      scope ∈ unique ∨ (scope ∈ scopes ∧ scope ≠ "") := by
    intro scopes
    induction scopes with
    | nil => simp
    | cons s rest ih =>
      intro unique
      by_cases hs : s = "" ∨ s ∈ unique
      · grind
      · grind
  rw [uniqueLoginScopes, hloop]
  simp

/-! ## What pruning and eviction do to the table -/

/-- From `m` to `m'` only entries were dropped, and none that is in flight or locked at `now`. -/
def Trim (now : Int) (m m' : LoginTable) : Prop :=
  ∀ scope, m'.lookup scope = m.lookup scope ∨
    m'.lookup scope = none ∧ ∀ e, m.lookup scope = some e → e.evictable now = true

/-- The in-flight flag of a scope; a scope without entry has none. -/
def inFlightAt (m : LoginTable) (scope : String) : Bool :=
  (m.lookup scope).any fun e => e.inFlight

lemma inFlightAt_eq_true {m : LoginTable} :
    inFlightAt m scope = true ↔ ∃ e, m.lookup scope = some e ∧ e.inFlight = true := by
  unfold inFlightAt
  rw [Option.any_eq_true]

namespace Trim

variable {now : Int} {m m' m'' : LoginTable} {scope : String}
  {e : LoginFailureEntry}

lemma refl (m : LoginTable) : Trim now m m := fun _ => .inl rfl

section

variable (h : Trim now m m')

include h

lemma trans (h' : Trim now m' m'') : Trim now m m'' := by
  intro scope
  rcases h' scope with heq | ⟨hnone, hev⟩
  · rw [heq]
    exact h scope
  · rcases h scope with heq' | ⟨_, hev'⟩
    · exact .inr ⟨hnone, fun e he => hev e (heq'.trans he)⟩
    · exact .inr ⟨hnone, hev'⟩

/-- What is left was there before. -/
lemma lookup_some (he : m'.lookup scope = some e) : m.lookup scope = some e := by
  rcases h scope with heq | ⟨hnone, _⟩
  · rw [← heq]
    exact he
  · rw [hnone] at he
    cases he

lemma lookup_none (hs : m.lookup scope = none) : m'.lookup scope = none := by
  rcases h scope with heq | ⟨hnone, _⟩
  · rw [heq, hs]
  · exact hnone

/-- An entry that is in flight or locked is kept as it is. -/
lemma lookup_of_not_evictable (he : m.lookup scope = some e) (hev : e.evictable now = false) :
    m'.lookup scope = some e := by
  rcases h scope with heq | ⟨_, hall⟩
  · rw [heq, he]
  · have := hall e he
    rw [hev] at this
    cases this

/-- The in-flight flags are not touched. -/
lemma inFlightAt_eq (scope : String) : inFlightAt m' scope = inFlightAt m scope := by
  rw [Bool.eq_iff_iff, inFlightAt_eq_true, inFlightAt_eq_true]
  constructor
  · rintro ⟨e, he, hf⟩
    exact ⟨e, h.lookup_some he, hf⟩
  · rintro ⟨e, he, hf⟩
    have hev : e.evictable now = false := evictable_eq_false.mpr (.inl hf)
    exact ⟨e, h.lookup_of_not_evictable he hev, hf⟩

lemma len_le : m'.len ≤ m.len := by
  apply len_le_of_keys
  intro scope hmem
  obtain ⟨e, he⟩ := mem_iff.mp hmem
  exact mem_iff.mpr ⟨e, h.lookup_some he⟩

end

/-- Deleting one evictable entry. -/
lemma erase (he : m.lookup scope = some e) (hev : e.evictable now = true) :
    Trim now m (m.erase scope) := by
  intro s
  rw [lookup_erase_ite]
  by_cases hs : s = scope
  · subst hs
    rw [if_pos rfl]
    refine .inr ⟨rfl, fun e' he' => ?_⟩
    rw [he] at he'
    cases he'
    exact hev
  · rw [if_neg hs]
    exact .inl rfl

/-- Deleting by a test that only evictable entries fail. -/
lemma filter {p : String → LoginFailureEntry → Bool}
    (hp : ∀ s e, p s e = false → e.evictable now = true) : Trim now m (m.filter p) := by
  intro s
  rw [lookup_filter]
  cases he : m.lookup s with
  | none => exact .inl rfl
  | some e =>
    cases hpe : p s e with
    | true => exact .inl (by simp [hpe])
    | false =>
      refine .inr ⟨by simp [hpe], fun e' he' => ?_⟩
      cases he'
      exact hp s e hpe

end Trim

namespace LoginFailureLimiter

variable (l : LoginFailureLimiter) (order : TableOrder) (now : Int)

/-! ### Frame lemmas -/

@[simp] lemma clearOverflowWhenEvictable_entries :
    (l.clearOverflowWhenEvictable now).entries = l.entries := by
  unfold clearOverflowWhenEvictable
  split_ifs <;> rfl

@[simp] lemma clearOverflowWhenEvictable_inFlight :
    (l.clearOverflowWhenEvictable now).inFlight = l.inFlight := by
  unfold clearOverflowWhenEvictable
  split_ifs <;> rfl

@[simp] lemma clearOverflowWhenEvictable_limits :
    (l.clearOverflowWhenEvictable now).limits = l.limits := by
  unfold clearOverflowWhenEvictable
  split_ifs <;> rfl

@[simp] lemma pruneExpired_inFlight : (l.pruneExpired now).inFlight = l.inFlight := by
  simp [pruneExpired]

@[simp] lemma pruneExpired_limits : (l.pruneExpired now).limits = l.limits := by
  simp [pruneExpired]

lemma pruneExpired_trim : Trim now l.entries (l.pruneExpired now).entries := by
  rw [pruneExpired, clearOverflowWhenEvictable_entries]
  apply Trim.filter
  intro s e hp
  have hexp : e.expired l.limits.failureTTL now = true := by simpa using hp
  rw [expired, Bool.and_eq_true] at hexp
  exact hexp.1

variable (needed : ℕ) (scopes : List String)

/-- The availability check moves only the overflow mark. -/
lemma scopesAvailable_frame (protectedScopes : Finset String) :
    (l.scopesAvailable scopes protectedScopes now).1.entries = l.entries ∧
    (l.scopesAvailable scopes protectedScopes now).1.inFlight = l.inFlight ∧
    (l.scopesAvailable scopes protectedScopes now).1.limits = l.limits := by
  unfold scopesAvailable
  split_ifs <;> exact ⟨rfl, rfl, rfl⟩

variable {scope : String} {protectedScopes : Finset String} {m : LoginTable}
  {e e' : LoginFailureEntry} {acc : LoginTable × Bool}

/-- Scopes that pass the availability check are neither in flight nor locked. -/
lemma not_blocked_of_scopesAvailable {scopes : List String}
    (h : (l.scopesAvailable scopes protectedScopes now).2 = true) (hs : scope ∈ scopes) :
    blocked l.entries now scope = false := by
  unfold scopesAvailable at h
  split_ifs at h with hany
  all_goals
    rw [any_eq_true] at hany
    push Not at hany
    simpa using hany scope hs

/-! ### The eviction loop -/

/-- A scope that may be evicted: an evictable entry outside the protected scopes. -/
def Candidate (m : LoginTable) (protectedScopes : Finset String)
    (scope : String) : Prop :=
  ∃ e, m.lookup scope = some e ∧ scope ∉ protectedScopes ∧ e.evictable now = true

/-- One round of the search keeps the scope found so far or moves to a candidate. -/
lemma olderOf_spec (m : LoginTable) (protectedScopes : Finset String)
    (oldest : String × Int) (scope : String) :
    olderOf m protectedScopes now oldest scope = oldest ∨
    (olderOf m protectedScopes now oldest scope).1 = scope ∧
      Candidate now m protectedScopes scope := by
  unfold olderOf
  cases he : m.lookup scope with
  | none => exact .inl rfl
  | some e =>
    simp only
    split_ifs with hprot hheld hold
    · exact .inl rfl
    · exact .inl rfl
    · refine .inr ⟨rfl, e, he, hprot, ?_⟩
      simpa [evictable] using hheld
    · exact .inl rfl

/-- The scope picked for eviction is a candidate. -/
lemma oldestScope_spec (h : oldestScope order m protectedScopes now ≠ "") :
    Candidate now m protectedScopes (oldestScope order m protectedScopes now) := by
  -- after any number of rounds the scope found so far is empty or a candidate
  have hloop : ∀ (scopes : List String) (oldest : String × Int),
      (oldest.1 = "" ∨ Candidate now m protectedScopes oldest.1) →
      (scopes.foldl (olderOf m protectedScopes now) oldest).1 = "" ∨
      Candidate now m protectedScopes (scopes.foldl (olderOf m protectedScopes now) oldest).1 := by
    intro scopes
    induction scopes with
    | nil => exact fun _ hold => hold
    | cons s rest ih =>
      intro oldest hold
      apply ih
      rcases olderOf_spec now m protectedScopes oldest s with heq | ⟨heq, hcand⟩
      · rw [heq]
        exact hold
      · rw [heq]
        exact .inr hcand
  exact (hloop _ ("", 0) (.inl rfl)).resolve_left h

/-- What a call of `makeRoomLocked` does. -/
structure MadeRoom (needed : ℕ) (protectedScopes : Finset String)
    (r : LoginFailureLimiter × Bool) : Prop where
  trim : Trim now l.entries r.1.entries
  /-- protected entries are never evicted -/
  kept : ∀ scope ∈ protectedScopes, r.1.entries.lookup scope = l.entries.lookup scope
  inFlight : r.1.inFlight = l.inFlight
  limits : r.1.limits = l.limits
  /-- on success the new entries fit -/
  fits : r.2 = true → (r.1.entries.len + needed : Int) ≤ l.limits.maxEntries

variable (protectedScopes : Finset String)

lemma makeRoomLoop_spec (fuel : ℕ) :
    MadeRoom l now needed protectedScopes
      (makeRoomLoop order now needed protectedScopes fuel l) := by
  induction fuel generalizing l with
  | zero => exact ⟨Trim.refl _, fun _ _ => rfl, rfl, rfl, by simp [makeRoomLoop]⟩
  | succ fuel ih =>
    rw [makeRoomLoop]
    split_ifs with hfits hnone
    · exact ⟨Trim.refl _, fun _ _ => rfl, rfl, rfl, fun _ => hfits⟩
    · exact ⟨Trim.refl _, fun _ _ => rfl, rfl, rfl, by simp⟩
    obtain ⟨e, he, hprot, hev⟩ := oldestScope_spec order now hnone
    have hrest := ih { l with
      entries := l.entries.erase (oldestScope order l.entries protectedScopes now) }
    refine ⟨(Trim.erase he hev).trans hrest.trim, fun scope hs => ?_, hrest.inFlight,
      hrest.limits, hrest.fits⟩
    rw [hrest.kept scope hs, lookup_erase_ite, if_neg]
    rintro rfl
    exact hprot hs

lemma makeRoom_spec :
    MadeRoom l now needed protectedScopes (l.makeRoom order now needed protectedScopes) :=
  makeRoomLoop_spec l order now needed protectedScopes _

/-- The loop never runs out of fuel: with more rounds than entries the result does not depend on
how many. -/
lemma makeRoomLoop_fuel {fuel fuel' : ℕ} (h : l.entries.len < fuel) (h' : l.entries.len < fuel') :
    makeRoomLoop order now needed protectedScopes fuel l =
      makeRoomLoop order now needed protectedScopes fuel' l := by
  induction fuel generalizing l fuel' with
  | zero => omega
  | succ fuel ih =>
    obtain ⟨fuel', rfl⟩ : ∃ n, fuel' = n + 1 := ⟨fuel' - 1, by omega⟩
    rw [makeRoomLoop, makeRoomLoop]
    split_ifs with hfits hnone
    · rfl
    · rfl
    -- a round that goes on has deleted an entry
    obtain ⟨e, he, _, _⟩ := oldestScope_spec order now hnone
    have hlen := len_erase_of_mem (mem_iff.mpr ⟨e, he⟩)
    apply ih
    · show FMap.len (l.entries.erase _) < fuel
      omega
    · show FMap.len (l.entries.erase _) < fuel'
      omega

/-! ### Reserving -/

variable (m : LoginTable)

lemma lookup_flag (scope s : String) :
    (flag m scope).lookup s =
      if s = scope then some { (m.lookup s).getD {} with inFlight := true } else m.lookup s := by
  rw [flag, lookup_insert_ite]
  by_cases hs : s = scope
  · subst hs
    rfl
  · rw [if_neg hs, if_neg hs]

/-- The entries after all scopes of an attempt have been flagged. -/
lemma lookup_foldl_flag (scopes : List String) (s : String) :
    (scopes.foldl flag m).lookup s =
      if s ∈ scopes then some { (m.lookup s).getD {} with inFlight := true }
      else m.lookup s := by
  induction scopes generalizing m with
  | nil => simp
  | cons scope rest ih =>
    rw [foldl_cons, ih, lookup_flag]
    by_cases hs : s = scope
    · subst hs
      simp
    · simp [hs]

lemma len_foldl_flag (scopes : List String) :
    (scopes.foldl flag m).len ≤ m.len + newScopes m scopes := by
  induction scopes generalizing m with
  | nil => simp [newScopes]
  | cons scope rest ih =>
    rw [foldl_cons]
    have hrest := ih (flag m scope)
    -- flagging a scope can only make fewer scopes new
    have hmono : newScopes (flag m scope) rest ≤ newScopes m rest := by
      apply countP_mono_left
      intro s _ hs
      rw [decide_eq_true_eq] at hs ⊢
      intro hmem
      apply hs
      rw [flag, mem_insert]
      exact .inr hmem
    have hcount : newScopes m (scope :: rest) = newScopes m rest + if scope ∉ m then 1 else 0 := by
      simp [newScopes, countP_cons]
    by_cases hmem : scope ∈ m
    · have hlen : (flag m scope).len = m.len := len_insert_of_mem hmem _
      omega
    · have hlen : (flag m scope).len = m.len + 1 := len_insert_of_not_mem hmem _
      rw [hcount, if_pos hmem]
      omega

/-- What a call of `Reserve` does, `scopes` being the scopes that count. -/
inductive ReserveOutcome (scopes : List String) : LoginFailureLimiter × Option LoginAttempt → Prop
  /-- no scope: an attempt that holds nothing -/
  | unlimited (hscopes : scopes = []) : ReserveOutcome scopes (l, some {})
  /-- refused; the table was at most trimmed -/
  | refused (l' : LoginFailureLimiter) (htrim : Trim now l.entries l'.entries)
      (hinFlight : l'.inFlight = l.inFlight) (hlimits : l'.limits = l.limits) :
      ReserveOutcome scopes (l', none)
  /-- granted; the scopes were free and are flagged, and the table has room for them -/
  | granted (l' : LoginFailureLimiter) (m : LoginTable) (hscopes : scopes ≠ [])
      (htrim : Trim now l.entries m)
      (hfree : ∀ scope ∈ scopes, ∀ e, m.lookup scope = some e → e.evictable now = true)
      (hslot : l.inFlight < l.limits.maxConcurrentKDF)
      (hfits : (m.len + newScopes m scopes : Int) ≤ l.limits.maxEntries)
      (hentries : l'.entries = scopes.foldl flag m) (hinFlight : l'.inFlight = l.inFlight + 1)
      (hlimits : l'.limits = l.limits) :
      ReserveOutcome scopes (l', some { scopes := scopes })

variable {l now} in
lemma ReserveOutcome.limits {scopes : List String} {r : LoginFailureLimiter × Option LoginAttempt}
    (h : ReserveOutcome l now scopes r) : r.1.limits = l.limits := by
  cases h with
  | unlimited hscopes => rfl
  | refused l' htrim hinFlight hlimits
  | granted l' m hscopes htrim hfree hslot hfits hentries hinFlight hlimits => exact hlimits

/-- How a reservation ends. -/
theorem reserve_outcome :
    ReserveOutcome l now (uniqueLoginScopes scopes) (l.reserve order scopes now) := by
  unfold reserve
  generalize uniqueLoginScopes scopes = scopes
  simp only
  split_ifs with hnil hfull
  · exact .unlimited hnil
  · exact .refused _ (l.pruneExpired_trim now) (by simp) (by simp)
  have hprune := l.pruneExpired_trim now
  obtain ⟨hent, hfl, hlim⟩ :=
    scopesAvailable_frame (l.pruneExpired now) now scopes (loginScopeSet scopes)
  have hfree : ((l.pruneExpired now).scopesAvailable scopes (loginScopeSet scopes) now).2 = true →
      ∀ scope ∈ scopes, blocked (l.pruneExpired now).entries now scope = false :=
    fun hok _ hs => not_blocked_of_scopesAvailable _ now hok hs
  generalize (l.pruneExpired now).scopesAvailable scopes (loginScopeSet scopes) now = r
    at hent hfl hlim hfree ⊢
  obtain ⟨l₁, ok⟩ := r
  simp only [pruneExpired_inFlight, pruneExpired_limits] at hent hfl hlim hfree hfull
  rw [← hent] at hprune hfree
  cases ok with
  | false => exact .refused _ hprune hfl hlim
  | true =>
    have hroom := makeRoom_spec l₁ order now (newScopes l₁.entries scopes) (loginScopeSet scopes)
    simp only
    generalize l₁.makeRoom order now (newScopes l₁.entries scopes) (loginScopeSet scopes) = r
      at hroom ⊢
    obtain ⟨l₂, ok⟩ := r
    have hrfl : l₂.inFlight = l.inFlight := hroom.inFlight.trans hfl
    have hrlim : l₂.limits = l.limits := hroom.limits.trans hlim
    have hrtrim : Trim now l.entries l₂.entries := hprune.trans hroom.trim
    cases ok with
    | false => exact .refused _ hrtrim hrfl hrlim
    | true =>
      refine .granted _ l₂.entries hnil hrtrim ?_ (not_le.mp hfull) ?_ rfl ?_ hrlim
      · intro scope hs e he
        have hfree := hfree rfl scope hs
        simpa [blocked, hroom.trim.lookup_some he, evictable] using hfree
      · -- the eviction left the scopes of the attempt alone, so as many are new as before
        have hnew : newScopes l₂.entries scopes = newScopes l₁.entries scopes := by
          apply countP_congr
          intro scope hs
          have hkept := hroom.kept scope (mem_toFinset.mpr hs)
          simp only at hkept
          rw [decide_eq_true_iff, decide_eq_true_iff, mem_iff, mem_iff, hkept]
        rw [hnew, ← hlim]
        exact hroom.fits rfl
      · rw [hrfl]

/-! ### Finishing -/

/-- What `finish` does to one entry of the attempt. -/
def released (settled : String → LoginFailureEntry → Option LoginFailureEntry) (scope : String)
    (e : LoginFailureEntry) : Option LoginFailureEntry :=
  if e.inFlight then settled scope e else some e

variable {settled : String → LoginFailureEntry → Option LoginFailureEntry}

lemma released_inFlight (hsettled : ∀ s e e', settled s e = some e' → e'.inFlight = false)
    {s : String} (h : released settled s e = some e') : e'.inFlight = false := by
  unfold released at h
  split_ifs at h with hf
  · exact hsettled s e e' h
  · cases h
    simpa using hf

lemma lookup_release (acc : LoginTable × Bool) (scope s : String) :
    (release settled acc scope).1.lookup s =
      if s = scope then (acc.1.lookup s).bind (released settled s) else acc.1.lookup s := by
  unfold release
  by_cases hs : s = scope
  · subst hs
    cases he : acc.1.lookup s with
    | none => simp [he]
    | some e =>
      simp only [Option.bind_some, released]
      split_ifs with hf
      · cases hset : settled s e <;> simp
      · exact he
  · rw [if_neg hs]
    cases he : acc.1.lookup scope with
    | none => rfl
    | some e =>
      simp only
      split_ifs with hf
      · cases hset : settled scope e with
        | none => exact lookup_erase_ne hs
        | some e' => exact lookup_insert_of_ne _ hs
      · rfl

/-- A round over a scope that is not in flight does nothing. -/
lemma release_of_not_inFlight (h : inFlightAt acc.1 scope = false) :
    release settled acc scope = acc := by
  unfold release
  unfold inFlightAt at h
  cases he : acc.1.lookup scope with
  | none => rfl
  | some e =>
    rw [he] at h
    simp only [Option.any_some] at h
    simp [h]

lemma release_of_inFlight (h : inFlightAt acc.1 scope = true) :
    (release settled acc scope).2 = true := by
  obtain ⟨e, he, hf⟩ := inFlightAt_eq_true.mp h
  unfold release
  rw [he]
  simp only [hf, if_true]
  cases settled scope e <;> rfl

/-- The entries after all scopes of an attempt have been released. -/
lemma lookup_foldl_release (hsettled : ∀ s e e', settled s e = some e' → e'.inFlight = false)
    (acc : LoginTable × Bool) (scopes : List String) (s : String) :
    (scopes.foldl (release settled) acc).1.lookup s =
      if s ∈ scopes then (acc.1.lookup s).bind (released settled s) else acc.1.lookup s := by
  -- releasing an entry a second time changes nothing: it is no longer in flight
  have hidem : ∀ o : Option LoginFailureEntry,
      (o.bind (released settled s)).bind (released settled s) = o.bind (released settled s) := by
    intro o
    cases o with
    | none => rfl
    | some e =>
      cases he : released settled s e with
      | none => simp [he]
      | some e' =>
        have hf := released_inFlight hsettled he
        rw [Option.bind_some, he, Option.bind_some, released, if_neg (by simp [hf])]
  induction scopes generalizing acc with
  | nil => simp
  | cons scope rest ih =>
    rw [foldl_cons, ih, lookup_release]
    by_cases hs : s = scope
    · subst hs
      by_cases hrest : s ∈ rest <;> simp [hrest, hidem]
    · simp [hs]

/-- `finish` reports a release exactly when some scope of the attempt was in flight. -/
lemma foldl_release_flag (settled : String → LoginFailureEntry → Option LoginFailureEntry)
    (acc : LoginTable × Bool) (scopes : List String) :
    (scopes.foldl (release settled) acc).2 = (acc.2 || scopes.any (inFlightAt acc.1)) := by
  -- once set, the flag stays set
  have hset : ∀ (scopes : List String) (acc : LoginTable × Bool),
      acc.2 = true → (scopes.foldl (release settled) acc).2 = true := by
    intro scopes
    induction scopes with
    | nil => exact fun _ h => h
    | cons scope rest ih =>
      intro acc h
      apply ih
      cases hf : inFlightAt acc.1 scope with
      | true => exact release_of_inFlight hf
      | false => rw [release_of_not_inFlight hf, h]
  induction scopes generalizing acc with
  | nil => simp
  | cons scope rest ih =>
    rw [foldl_cons, any_cons]
    cases hf : inFlightAt acc.1 scope with
    | true => simp [hset rest _ (release_of_inFlight hf)]
    | false => rw [release_of_not_inFlight hf, ih, Bool.false_or]

lemma settle_inFlight {limits : Limits} {result : LoginAttemptResult} {succeeded : Finset String}
    (h : settle limits result succeeded now scope e = some e') : e'.inFlight = false := by
  unfold settle at h
  cases result with
  | success =>
    simp only at h
    split_ifs at h
    cases h
    rfl
  | failure =>
    cases h
    simp
  | cancel =>
    simp only at h
    split_ifs at h
    cases h
    rfl

/-- What a call of `finish` does. -/
inductive FinishOutcome (a : LoginAttempt) (result : LoginAttemptResult)
    (successScopes : List String) : LoginFailureLimiter × LoginAttempt → Prop
  /-- finished before, or an attempt that holds nothing -/
  | idle (hidle : a.done = true ∨ a.scopes = []) :
      FinishOutcome a result successScopes (l, { a with done := true })
  /-- the entries that the attempt has in flight are settled -/
  | settled (l' : LoginFailureLimiter) (m : LoginTable)
      (hopen : a.done = false) (hscopes : a.scopes ≠ []) (htrim : Trim now l.entries m)
      (hentries : ∀ s, l'.entries.lookup s =
        if s ∈ a.scopes then
          (m.lookup s).bind (released (settle l.limits result successScopes.toFinset now) s)
        else m.lookup s)
      (hinFlight : l'.inFlight = l.inFlight - if a.scopes.any (inFlightAt m) then 1 else 0)
      (hlimits : l'.limits = l.limits) :
      FinishOutcome a result successScopes (l', { a with done := true })

variable {l now} in
lemma FinishOutcome.limits {a : LoginAttempt} {result : LoginAttemptResult}
    {successScopes : List String} {r : LoginFailureLimiter × LoginAttempt}
    (h : FinishOutcome l now a result successScopes r) : r.1.limits = l.limits := by
  cases h with
  | idle hidle => rfl
  | settled l' m hopen hscopes htrim hentries hinFlight hlimits => exact hlimits

/-- How an attempt is settled. -/
theorem finish_outcome (a : LoginAttempt) (result : LoginAttemptResult)
    (successScopes : List String) :
    FinishOutcome l now a result successScopes (l.finish a result successScopes now) := by
  unfold finish
  split_ifs with hdone hnil
  · have ha : a = { a with done := true } := by rw [← hdone]
    rw [ha]
    exact .idle (.inl rfl)
  · exact .idle (.inr hnil)
  have hunflag : ∀ s e e', settle l.limits result successScopes.toFinset now s e = some e' →
      e'.inFlight = false := fun _ _ _ h => settle_inFlight now h
  have hlookup := lookup_foldl_release hunflag ((l.pruneExpired now).entries, false) a.scopes
  have hflag := foldl_release_flag (settle l.limits result successScopes.toFinset now)
    ((l.pruneExpired now).entries, false) a.scopes
  simp only [pruneExpired_limits]
  generalize a.scopes.foldl (release (settle l.limits result successScopes.toFinset now))
    ((l.pruneExpired now).entries, false) = r at hlookup hflag ⊢
  obtain ⟨entries, fin⟩ := r
  simp only [Bool.false_or] at hflag
  have hopen : a.done = false := by simpa using hdone
  cases fin with
  | false =>
    refine .settled _ _ hopen hnil (l.pruneExpired_trim now) hlookup ?_ (by simp)
    simp [← hflag]
  | true =>
    refine .settled _ _ hopen hnil (l.pruneExpired_trim now) ?_ ?_ (by simp)
    · simpa using hlookup
    · simp [← hflag]

/-! ### Recording failures, clearing, asking -/

/-- The entry `recordFailureLocked` counts a failure on: the one the scope has, if it is not in
flight, or a fresh one that fits into the table. -/
def Recordable (limits : Limits) (m : LoginTable) (scope : String)
    (e : LoginFailureEntry) : Prop :=
  m.lookup scope = some e ∧ e.inFlight = false ∨
    m.lookup scope = none ∧ e = {} ∧ (m.len + 1 : Int) ≤ limits.maxEntries

/-- What one round of `RecordFailure` does. -/
inductive RecordOutcome (scope : String) : LoginFailureLimiter → Prop
  /-- the scope is in flight, or there is no room for it -/
  | skipped (l' : LoginFailureLimiter) (htrim : Trim now l.entries l'.entries)
      (hinFlight : l'.inFlight = l.inFlight) (hlimits : l'.limits = l.limits) :
      RecordOutcome scope l'
  /-- a failure is counted -/
  | counted (l' : LoginFailureLimiter) (m : LoginTable) (e : LoginFailureEntry)
      (htrim : Trim now l.entries m) (hrec : Recordable l.limits m scope e)
      (hentries : l'.entries = m.insert scope (e.countFailure l.limits now))
      (hinFlight : l'.inFlight = l.inFlight) (hlimits : l'.limits = l.limits) :
      RecordOutcome scope l'

lemma recordFailureLocked_outcome (scope : String) :
    RecordOutcome l now scope (recordFailureLocked order now l scope) := by
  unfold recordFailureLocked
  cases he : l.entries.lookup scope with
  | none =>
    have hroom := makeRoom_spec l order now 1 ∅
    simp only
    generalize l.makeRoom order now 1 ∅ = r at hroom ⊢
    obtain ⟨l', ok⟩ := r
    have hlimits : l'.limits = l.limits := hroom.limits
    cases ok with
    | false => exact .skipped _ hroom.trim hroom.inFlight hlimits
    | true =>
      have hfresh : Recordable l.limits l'.entries scope {} :=
        .inr ⟨hroom.trim.lookup_none he, rfl, hroom.fits rfl⟩
      refine .counted _ l'.entries {} hroom.trim hfresh ?_ hroom.inFlight hlimits
      simp [hlimits]
  | some e =>
    simp only
    split_ifs with hf
    · exact .skipped _ (Trim.refl _) rfl rfl
    · exact .counted _ l.entries e (Trim.refl _) (.inl ⟨he, by simpa using hf⟩) rfl rfl rfl

variable {l now} in
/-- A recorded failure changes the entries only. -/
theorem RecordOutcome.frame {scope : String} {l' : LoginFailureLimiter}
    (h : RecordOutcome l now scope l') : l'.inFlight = l.inFlight ∧ l'.limits = l.limits := by
  cases h with
  | skipped htrim hinFlight hlimits
  | counted m e htrim hrec hentries hinFlight hlimits => exact ⟨hinFlight, hlimits⟩

lemma recordFailure_frame :
    (l.recordFailure order scopes now).inFlight = l.inFlight ∧
    (l.recordFailure order scopes now).limits = l.limits := by
  have hloop : ∀ (scopes : List String) (l' : LoginFailureLimiter),
      (scopes.foldl (recordFailureLocked order now) l').inFlight = l'.inFlight ∧
      (scopes.foldl (recordFailureLocked order now) l').limits = l'.limits := by
    intro scopes
    induction scopes with
    | nil => exact fun _ => ⟨rfl, rfl⟩
    | cons scope rest ih =>
      intro l'
      rw [foldl_cons, (ih _).1, (ih _).2]
      exact (recordFailureLocked_outcome l' order now scope).frame
  unfold recordFailure
  simp only
  split_ifs
  · exact ⟨rfl, rfl⟩
  · simp [hloop]

/-- **The rule for `RecordFailure`.** What survives trimming and the counting of one failure
survives the call. -/
theorem recordFailure_induct {P : LoginTable → Prop}
    (htrim : ∀ m m', Trim now m m' → P m → P m') (scopes : List String)
    (hrecord : ∀ m, ∀ scope ∈ uniqueLoginScopes scopes, ∀ e, Recordable l.limits m scope e → P m →
      P (m.insert scope (e.countFailure l.limits now)))
    (h : P l.entries) : P (l.recordFailure order scopes now).entries := by
  have hloop : ∀ (rest : List String) (l' : LoginFailureLimiter), l'.limits = l.limits →
      (∀ scope ∈ rest, scope ∈ uniqueLoginScopes scopes) → P l'.entries →
      P (rest.foldl (recordFailureLocked order now) l').entries := by
    intro rest
    induction rest with
    | nil => exact fun _ _ _ hP => hP
    | cons scope rest ih =>
      intro l' hlim hmem hP
      have hround := recordFailureLocked_outcome l' order now scope
      apply ih
      · rw [hround.frame.2, hlim]
      · intro s hs
        exact hmem s (mem_cons_of_mem _ hs)
      generalize recordFailureLocked order now l' scope = l'' at hround ⊢
      cases hround with
      | skipped htrim' hinFlight hlimits => exact htrim _ _ htrim' hP
      | counted m e htrim' hrec hentries hinFlight hlimits =>
        rw [hlim] at hrec hentries
        rw [hentries]
        exact hrecord m scope (hmem scope mem_cons_self) e hrec (htrim _ _ htrim' hP)
  unfold recordFailure
  simp only
  split_ifs
  · exact h
  · rw [clearOverflowWhenEvictable_entries]
    apply hloop
    · simp
    · exact fun _ hs => hs
    · exact htrim _ _ (l.pruneExpired_trim now) h

lemma lookup_clearScope (m : LoginTable) (scope s : String) :
    (clearScope m scope).lookup s =
      if s = scope ∧ inFlightAt m s = false then none else m.lookup s := by
  unfold clearScope
  by_cases hs : s = scope
  · subst hs
    unfold inFlightAt
    cases he : m.lookup s with
    | none => simp
    | some e => cases hf : e.inFlight <;> simp [hf, he]
  · rw [if_neg (fun h => hs h.1)]
    cases he : m.lookup scope with
    | none => exact lookup_erase_ne hs
    | some e =>
      simp only
      split_ifs
      · rfl
      · exact lookup_erase_ne hs

/-- `Clear` deletes the entries of its scopes that are not in flight. -/
lemma lookup_clear (s : String) :
    (l.clear scopes now).entries.lookup s =
      if s ∈ uniqueLoginScopes scopes ∧ inFlightAt l.entries s = false then none
      else l.entries.lookup s := by
  have hloop : ∀ (scopes : List String) (m : LoginTable),
      (scopes.foldl clearScope m).lookup s =
        if s ∈ scopes ∧ inFlightAt m s = false then none else m.lookup s := by
    intro scopes
    induction scopes with
    | nil => simp
    | cons scope rest ih =>
      intro m
      have hfl : inFlightAt (clearScope m scope) s = inFlightAt m s := by
        unfold inFlightAt
        rw [lookup_clearScope]
        split_ifs with h
        · exact (by exact h.2.symm)
        · rfl
      rw [foldl_cons, ih, hfl, lookup_clearScope]
      by_cases hf : inFlightAt m s = false
      · by_cases hs : s = scope
        · subst hs
          simp [hf]
        · simp [hs, hf]
      · simp [hf]
  unfold clear
  simp only
  split_ifs with hnil h h
  · rw [hnil] at h
    simp at h
  · rfl
  · rw [clearOverflowWhenEvictable_entries, hloop, if_pos h]
  · rw [clearOverflowWhenEvictable_entries, hloop, if_neg h]

@[simp] lemma clear_inFlight : (l.clear scopes now).inFlight = l.inFlight := by
  unfold clear
  simp only
  split_ifs <;> simp

@[simp] lemma clear_limits : (l.clear scopes now).limits = l.limits := by
  unfold clear
  simp only
  split_ifs <;> simp

/-- `Allowed` at most trims the table. -/
lemma allowed_frame (scope : String) :
    Trim now l.entries (l.allowed scope now).1.entries ∧
    (l.allowed scope now).1.inFlight = l.inFlight ∧
    (l.allowed scope now).1.limits = l.limits := by
  unfold allowed
  simp only
  split_ifs
  · exact ⟨Trim.refl _, rfl, rfl⟩
  · obtain ⟨hent, hfl, hlim⟩ :=
      scopesAvailable_frame (l.pruneExpired now) now [scope] (loginScopeSet [scope])
    rw [hent, hfl, hlim]
    exact ⟨l.pruneExpired_trim now, by simp, by simp⟩
  · exact ⟨l.pruneExpired_trim now, by simp, by simp⟩

end LoginFailureLimiter

end Voicx.Auth
