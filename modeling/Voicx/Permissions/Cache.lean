import Voicx.Found.Run
import Voicx.Permissions.Loader

/-!
# The loader's cache under concurrency

Model of the caching loop of `LoadForClient` and `LoadGroupPermissions` in
`internal/permissions/loader.go`. Any number of calls run at once; each takes the read lock once
(capture the generation, look into the cache), issues its queries without a lock, and takes the
write lock once (compare the generation, store). Between any two of these steps other calls,
database writes and invalidations may happen.

* `LoadKey`, `Call` — what is loaded, and where a call stands.
* `Caches` — the two caches with the 64-bit generation counter.
* `System`, `LoaderOp`, `System.step` — the calls, the database and the caches, one step at a time.
* `History` — what happened when, by step number. It is only written, never read by a step; the
  theorems are stated over it.
* `CacheInv`, `CacheInv.step` — a call whose generation is current has captured it after the last
  invalidation, and reads after it captured.
* **`published_fresh`** — every set that is stored, and every set a cache hit returns, was built
  from reads after the last invalidation, as long as no load is overtaken by 2^64 invalidations.
* `published_stale_after_wraparound` — the counter wraps, so without that proviso it is not so.

Source names without a file are from `internal/permissions/loader.go`.
-/

namespace Voicx.Permissions

open Found Function Nat

/-! ## Calls -/

/-- What a call loads: a user's tiers in a channel, or the set of a server group. -/
inductive LoadKey
  | client (userID channelID : Int)
  | group (groupID : Int)
  deriving DecidableEq, Repr

/-- The user a key is about. -/
def LoadKey.user : LoadKey → Option Int
  | .client userID _ => some userID
  | .group _ => none

/-- What a call returns. -/
inductive Loaded
  | tiers (tp : TieredPermissions)
  | set (s : PermissionSet)

/-- The queries behind a key. -/
def LoadKey.prog : LoadKey → ReadProg PermDB Loaded
  | .client userID channelID => do
    let tp ← loadFromDB userID channelID
    pure (.tiers tp)
  | .group groupID => do
    let set ← loadServerGroupPermissions groupID
    pure (.set set)

/-- When a load captured its generation and when it read: step numbers, and how many invalidations
there had been at the capture. -/
structure Origin where
  capturedAt : Nat
  invalidations : Nat
  reads : List Nat

/-- Where a call stands. -/
inductive Call : Type 1
  /-- at the head of the loop -/
  | start (key : LoadKey)
  /-- past the read lock with a captured generation, queries outstanding or done -/
  | loading (key : LoadKey) (generation : UInt64) (prog : ReadProg PermDB Loaded) (origin : Origin)
  | returned (value : Loaded)
  | failed

/-! ## The caches -/

/-- A cached set. -/
structure Cached where
  value : Loaded
  expires : Int
  reads : List Nat

/-- The shared fields of the loader.
Source: `Loader` -/
structure Caches where
  cache : FMap (Int × Int) Cached
  groupCache : FMap Int Cached
  cacheGeneration : UInt64

/-- Source: `maxCachedGroups` -/
def maxCachedGroups : Nat := 1024

/-- 5 seconds, in nanoseconds.
Source: `cacheTTL` -/
def cacheTTL : Int := 5000000000

namespace Caches

variable (c : Caches)

/-- The cached set of a key, expired or not. -/
def lookup : LoadKey → Option Cached
  | .client userID channelID => c.cache.lookup (userID, channelID)
  | .group groupID => c.groupCache.lookup groupID

/-- Store a set; a full group cache is cleared first. -/
def store (e : Cached) : LoadKey → Caches
  | .client userID channelID => { c with cache := c.cache.insert (userID, channelID) e }
  | .group groupID =>
    let groups := if c.groupCache.len ≥ maxCachedGroups then ∅ else c.groupCache
    { c with groupCache := groups.insert groupID e }

/-- Source: `Invalidate` -/
def invalidate (userID channelID : Int) : Caches :=
  { c with
    cacheGeneration := c.cacheGeneration + 1
    cache := c.cache.erase (userID, channelID) }

/-- Source: `InvalidateAll` -/
def invalidateAll : Caches where
  cacheGeneration := c.cacheGeneration + 1
  cache := ∅
  groupCache := ∅

variable {c : Caches} {e : Cached} {key : LoadKey}

/-- A stored set is found under its own key, and other keys show at most what they showed. -/
lemma lookup_store {e' : Cached} {key' : LoadKey} (h : (c.store e key).lookup key' = some e') :
    e' = e ∨ c.lookup key' = some e' := by
  cases key with
  | client u ch =>
    cases key' with
    | client u' ch' =>
      simp only [store, lookup, FMap.lookup_insert_ite] at h
      split_ifs at h with hk
      · exact .inl (Option.some.inj h).symm
      · exact .inr h
    | group g => exact .inr h
  | group g =>
    cases key' with
    | client u ch => exact .inr h
    | group g' =>
      simp only [store, lookup, FMap.lookup_insert_ite] at h
      split_ifs at h with hk hfull
      · exact .inl (Option.some.inj h).symm
      · simp at h
      · exact .inr h

lemma lookup_invalidate {userID channelID : Int}
    (h : (c.invalidate userID channelID).lookup key = some e) : c.lookup key = some e := by
  cases key with
  | client u ch => exact FMap.lookup_of_lookup_erase h
  | group g => exact h

lemma lookup_invalidateAll (c : Caches) (key : LoadKey) : c.invalidateAll.lookup key = none := by
  cases key <;> simp [invalidateAll, lookup]

end Caches

/-! ## The system -/

/-- A set was stored: the reads it was built from, and the last invalidations completed before. -/
structure StoreEvent where
  key : LoadKey
  reads : List Nat
  lastAll : Nat
  lastOfUser : Nat

/-- A cache hit returned a set: the reads it was built from, the last complete invalidation, and the
last database write that a complete invalidation has followed. -/
structure HitEvent where
  key : LoadKey
  reads : List Nat
  lastAll : Nat
  settledWrite : Nat

/-- What happened when. Step numbers start at 1; 0 is "never". -/
structure History where
  /-- the number of the next step -/
  tick : Nat := 1
  /-- how many invalidations there have been -/
  invalidations : Nat := 0
  /-- the last `InvalidateAll` -/
  lastAll : Nat := 0
  /-- the last `Invalidate` of each user -/
  lastOf : Int → Nat := fun _ => 0
  /-- the last database write -/
  lastWrite : Nat := 0
  /-- the last database write before the last `InvalidateAll` -/
  settledWrite : Nat := 0
  stores : List StoreEvent := []
  hits : List HitEvent := []

/-- Database, caches and calls. -/
structure System : Type 1 where
  db : PermDB
  caches : Caches
  calls : Nat → Option Call
  history : History

/-- A fresh loader on a database. -/
def System.init (db : PermDB) : System where
  db := db
  caches := ⟨∅, ∅, 0⟩
  calls := fun _ => none
  history := {}

/-- A step of the system. -/
inductive LoaderOp
  /-- a new call under an unused id -/
  | call (id : Nat) (key : LoadKey)
  /-- the head of the loop: the context check, then the section under the read lock -/
  | enter (id : Nat) (now : Int) (cancelled : Bool)
  /-- the next query of a load -/
  | query (id : Nat) (fails : Bool)
  /-- the section under the write lock -/
  | publish (id : Nat) (now : Int)
  | invalidate (userID channelID : Int)
  | invalidateAll
  /-- a database write by anyone -/
  | write (db : PermDB)

namespace System

variable (s : System)

/-- Set where a call stands. -/
def setCall (id : Nat) (c : Call) : System := { s with calls := update s.calls id (some c) }

/-- Every step takes a number. -/
def ticked : System := { s with history := { s.history with tick := s.history.tick + 1 } }

/-- The section under the read lock: capture the generation, return a fresh cached set.
Source: `LoadForClient`, `LoadGroupPermissions` -/
def enterStep (id : Nat) (key : LoadKey) (now : Int) : System :=
  let load := s.setCall id (.loading key s.caches.cacheGeneration key.prog
    ⟨s.history.tick, s.history.invalidations, []⟩)
  match s.caches.lookup key with
  | some e =>
    if now < e.expires then
      { s.setCall id (.returned e.value) with
        history := { s.history with
          hits := ⟨key, e.reads, s.history.lastAll, s.history.settledWrite⟩ :: s.history.hits } }
    else load
  | none => load

/-- The section under the write lock: retry if the generation moved, else store.
Source: `LoadForClient`, `LoadGroupPermissions` -/
def publishStep (id : Nat) (key : LoadKey) (generation : UInt64) (value : Loaded) (o : Origin)
    (now : Int) : System :=
  if generation ≠ s.caches.cacheGeneration then s.setCall id (.start key)
  else
    { s.setCall id (.returned value) with
      caches := s.caches.store ⟨value, now + cacheTTL, o.reads⟩ key
      history := { s.history with
        stores := ⟨key, o.reads, s.history.lastAll, (key.user.map s.history.lastOf).getD 0⟩ ::
          s.history.stores } }

/-- The effect of a step, before it takes its number. A step a call is not ready for does
nothing. -/
def effect : LoaderOp → System
  | .call id key =>
    match s.calls id with
    | none => s.setCall id (.start key)
    | some _ => s
  | .enter id now cancelled =>
    match s.calls id with
    | some (.start key) => if cancelled then s.setCall id .failed else s.enterStep id key now
    | _ => s
  | .query id fails =>
    match s.calls id with
    | some (.loading key generation (.read q k) o) =>
      if fails then s.setCall id .failed
      else s.setCall id (.loading key generation (k (q s.db))
        { o with reads := s.history.tick :: o.reads })
    | _ => s
  | .publish id now =>
    match s.calls id with
    | some (.loading key generation (.done value) o) => s.publishStep id key generation value o now
    | _ => s
  | .invalidate userID channelID =>
    { s with
      caches := s.caches.invalidate userID channelID
      history := { s.history with
        invalidations := s.history.invalidations + 1
        lastOf := update s.history.lastOf userID s.history.tick } }
  | .invalidateAll =>
    { s with
      caches := s.caches.invalidateAll
      history := { s.history with
        invalidations := s.history.invalidations + 1
        lastAll := s.history.tick
        settledWrite := s.history.lastWrite } }
  | .write db => { s with db := db, history := { s.history with lastWrite := s.history.tick } }

/-- One step. -/
def step (op : LoaderOp) : System := (s.effect op).ticked

end System

open Permissions.System

/-! ## Freshness -/

/-- All reads happened after the last complete invalidation and the last one of that user. -/
def StoreEvent.Fresh (e : StoreEvent) : Prop := ∀ r ∈ e.reads, e.lastAll < r ∧ e.lastOfUser < r

/-- All reads happened after the last complete invalidation, hence after every write it followed. -/
def HitEvent.Fresh (e : HitEvent) : Prop := ∀ r ∈ e.reads, e.lastAll < r ∧ e.settledWrite < r

/-- Everything stored so far, and everything hits returned so far, was fresh at that moment. -/
def System.Fresh (s : System) : Prop :=
  (∀ e ∈ s.history.stores, e.Fresh) ∧ ∀ e ∈ s.history.hits, e.Fresh

/-- A load that publishes has not been overtaken by 2^64 invalidations since it captured its
generation. -/
def System.NotLapped (s : System) : LoaderOp → Prop
  | .publish id _ =>
    match s.calls id with
    | some (.loading _ _ _ o) => s.history.invalidations - o.invalidations < 2 ^ 64
    | _ => True
  | _ => True

/-! ## The invariant -/

/-- What a load in flight knows. If no invalidation has happened since it captured its generation,
the last ones were before the capture; and it reads after the capture. -/
structure Origin.Valid (h : History) (generation : UInt64) (o : Origin) : Prop where
  generation_eq : generation = UInt64.ofNat o.invalidations
  le : o.invalidations ≤ h.invalidations
  current : o.invalidations = h.invalidations →
    h.lastAll ≤ o.capturedAt ∧ ∀ u, h.lastOf u ≤ o.capturedAt
  captured_lt : o.capturedAt < h.tick
  reads : ∀ r ∈ o.reads, o.capturedAt < r

/-- The invariant of the system. -/
structure CacheInv (s : System) : Prop where
  generation_eq : s.caches.cacheGeneration = UInt64.ofNat s.history.invalidations
  lastAll_lt : s.history.lastAll < s.history.tick
  lastOf_lt : ∀ u, s.history.lastOf u < s.history.tick
  lastWrite_lt : s.history.lastWrite < s.history.tick
  settled_le : s.history.settledWrite ≤ s.history.lastAll
  calls : ∀ id key g p o, s.calls id = some (.loading key g p o) → o.Valid s.history g
  cached : ∀ key e, s.caches.lookup key = some e → ∀ r ∈ e.reads, s.history.lastAll < r
  fresh : s.Fresh

lemma cacheInv_init (db : PermDB) : CacheInv (init db) where
  generation_eq := rfl
  lastAll_lt := zero_lt_one
  lastOf_lt _ := zero_lt_one
  lastWrite_lt := zero_lt_one
  settled_le := le_rfl
  calls id key g p o h := by simp [init] at h
  cached key e h := by cases key <;> simp [init, Caches.lookup] at h
  fresh := by simp [Fresh, init]

section steps

variable {s : System} {g : UInt64} {o : Origin}

/-- What a load knows stays right while no invalidation happens. -/
theorem Origin.Valid.later {h h' : History} (ho : o.Valid h g)
    (hinv : h'.invalidations = h.invalidations) (hall : h'.lastAll = h.lastAll)
    (hof : h'.lastOf = h.lastOf) (htick : h.tick ≤ h'.tick) : o.Valid h' g where
  generation_eq := ho.generation_eq
  le := by rw [hinv]; exact ho.le
  current := by rw [hinv, hall, hof]; exact ho.current
  captured_lt := lt_of_lt_of_le ho.captured_lt htick
  reads := ho.reads

lemma CacheInv.ticked (h : CacheInv s) : CacheInv s.ticked where
  generation_eq := h.generation_eq
  lastAll_lt := lt_succ_of_lt h.lastAll_lt
  lastOf_lt u := lt_succ_of_lt (h.lastOf_lt u)
  lastWrite_lt := lt_succ_of_lt h.lastWrite_lt
  settled_le := h.settled_le
  calls id key g p o hid := (h.calls id key g p o hid).later rfl rfl rfl (le_succ _)
  cached := h.cached
  fresh := h.fresh

/-- A call moves on; if it is loading afterwards, what it knows is right. -/
lemma CacheInv.setCall (h : CacheInv s) (id : Nat) {c : Call}
    (hc : ∀ key g p o, c = .loading key g p o →
      o.Valid { s.history with tick := s.history.tick + 1 } g) :
    CacheInv (s.setCall id c).ticked := by
  refine { h.ticked with calls := fun id' key g p o hid => ?_ }
  simp only [System.setCall, System.ticked, update_apply] at hid
  split_ifs at hid with heq
  · exact hc key g p o (Option.some.inj hid)
  · exact h.ticked.calls id' key g p o hid

/-- A load that starts now starts after every invalidation so far. -/
lemma CacheInv.capture (h : CacheInv s) (id : Nat) (key : LoadKey) :
    CacheInv (s.setCall id (.loading key s.caches.cacheGeneration key.prog
      ⟨s.history.tick, s.history.invalidations, []⟩)).ticked := by
  refine h.setCall id fun key' g p o heq => ?_
  cases heq
  exact {
    generation_eq := h.generation_eq
    le := le_rfl
    current := fun _ => ⟨h.lastAll_lt.le, fun u => (h.lastOf_lt u).le⟩
    captured_lt := lt_succ_self _
    reads := fun r hr => by simp at hr }

lemma CacheInv.enterStep (h : CacheInv s) (id : Nat) (key : LoadKey) (now : Int) :
    CacheInv (s.enterStep id key now).ticked := by
  unfold System.enterStep
  cases hcached : s.caches.lookup key with
  | none => exact h.capture id key
  | some e =>
    simp only
    split_ifs with hexp
    · -- a hit: what is in the cache is fresh
      have hreads := h.cached key e hcached
      have hcall := h.setCall id (c := .returned e.value) fun _ _ _ _ heq => by cases heq
      refine { hcall with
        calls := fun id' key' g p o hid => (hcall.calls id' key' g p o hid).later rfl rfl rfl le_rfl
        fresh := ⟨h.fresh.1, fun ev hev => ?_⟩ }
      rcases List.mem_cons.mp hev with rfl | hev
      · exact fun r hr => ⟨hreads r hr, lt_of_le_of_lt h.settled_le (hreads r hr)⟩
      · exact h.fresh.2 ev hev
    · exact h.capture id key

variable {id : Nat} {key : LoadKey} (h : CacheInv s)

include h

/-- A load whose generation is current has read after every invalidation so far. -/
lemma CacheInv.lt_reads {prog : ReadProg PermDB Loaded}
    (hcall : s.calls id = some (.loading key g prog o)) (hgen : g = s.caches.cacheGeneration)
    (hlap : s.history.invalidations - o.invalidations < 2 ^ 64) :
    ∀ r ∈ o.reads, s.history.lastAll < r ∧ ∀ u, s.history.lastOf u < r := by
  intro r hr
  have ho := h.calls id key g prog o hcall
  -- there was no invalidation since the capture: fewer than 2^64 came after it
  have hmod : o.invalidations % 2 ^ 64 = s.history.invalidations % 2 ^ 64 :=
    congrArg UInt64.toNat (ho.generation_eq.symm.trans (hgen.trans h.generation_eq))
  have hle := ho.le
  have hsame : o.invalidations = s.history.invalidations := by omega
  obtain ⟨hall, hof⟩ := ho.current hsame
  have hread := ho.reads r hr
  exact ⟨lt_of_le_of_lt hall hread, fun u => lt_of_le_of_lt (hof u) hread⟩

lemma CacheInv.publishStep {value : Loaded}
    (hcall : s.calls id = some (.loading key g (.done value) o))
    (hlap : s.history.invalidations - o.invalidations < 2 ^ 64) (now : Int) :
    CacheInv (s.publishStep id key g value o now).ticked := by
  unfold System.publishStep
  split_ifs with hgen
  · exact h.setCall id fun _ _ _ _ heq => by cases heq
  have hreads := h.lt_reads hcall (not_not.mp hgen) hlap
  have hmove := h.setCall id (c := .returned value) fun _ _ _ _ heq => by cases heq
  have hgen' : (s.caches.store ⟨value, now + cacheTTL, o.reads⟩ key).cacheGeneration =
      UInt64.ofNat s.history.invalidations := by
    rw [← h.generation_eq]
    cases key <;> rfl
  refine { hmove with
    generation_eq := hgen'
    calls := fun id' key' g p o hid => (hmove.calls id' key' g p o hid).later rfl rfl rfl le_rfl
    cached := fun key' e he r hr => ?_
    fresh := ⟨fun ev hev => ?_, h.fresh.2⟩ }
  · rcases Caches.lookup_store he with rfl | hold
    · exact (hreads r hr).1
    · exact h.cached key' e hold r hr
  rcases List.mem_cons.mp hev with rfl | hev
  · intro r hr
    refine ⟨(hreads r hr).1, ?_⟩
    cases key with
    | client userID channelID => exact (hreads r hr).2 userID
    | group groupID => exact zero_lt_of_lt (hreads r hr).1
  · exact h.fresh.1 ev hev

/-- An invalidation moves the counter on, and every load is behind by one at least. -/
theorem CacheInv.behind {t : History} (hinv : t.invalidations = s.history.invalidations + 1)
    (htick : s.history.tick ≤ t.tick) :
    s.caches.cacheGeneration + 1 = UInt64.ofNat t.invalidations ∧
      ∀ id key g p o, s.calls id = some (.loading key g p o) → o.Valid t g := by
  constructor
  · rw [h.generation_eq, hinv, UInt64.ofNat_add]
    rfl
  · intro id key g p o hid
    have ho := h.calls id key g p o hid
    have hle := ho.le
    exact ⟨ho.generation_eq, by omega, fun heq => by omega, ho.captured_lt.trans_le htick, ho.reads⟩

/-- Dropping one pair keeps the cache fresh. -/
theorem CacheInv.invalidate (userID channelID : Int) :
    CacheInv (s.step (.invalidate userID channelID)) := by
  obtain ⟨hgen, hcalls⟩ := h.behind (t := (s.step (.invalidate userID channelID)).history) rfl
    (le_succ _)
  refine { h.ticked with
    generation_eq := hgen
    lastOf_lt := fun u => ?_
    calls := hcalls
    cached := fun key e he => h.cached key e (Caches.lookup_invalidate he) }
  show update s.history.lastOf userID s.history.tick u < s.history.tick + 1
  rw [update_apply]
  split_ifs
  · exact lt_succ_self _
  · exact lt_succ_of_lt (h.lastOf_lt u)

lemma CacheInv.invalidateAll : CacheInv (s.step .invalidateAll) := by
  obtain ⟨hgen, hcalls⟩ := h.behind (t := (s.step .invalidateAll).history) rfl (le_succ _)
  refine { h.ticked with
    generation_eq := hgen
    lastAll_lt := lt_succ_self _
    settled_le := h.lastWrite_lt.le
    calls := hcalls
    cached := fun key e he => ?_ }
  have hnone := s.caches.lookup_invalidateAll key
  rw [show (s.step .invalidateAll).caches = s.caches.invalidateAll from rfl, hnone] at he
  cases he

/-- A write touches no cache. -/
theorem CacheInv.write (db : PermDB) : CacheInv (s.step (.write db)) :=
  { h.ticked with
    lastWrite_lt := lt_succ_self _
    calls := fun id key g p o hid => (h.calls id key g p o hid).later rfl rfl rfl (le_succ _) }

/-- **Every step keeps the invariant.** -/
theorem CacheInv.step (op : LoaderOp) (hok : s.NotLapped op) : CacheInv (s.step op) := by
  cases op with
  | call id key =>
    simp only [System.step, System.effect]
    split
    · exact h.setCall id fun _ _ _ _ heq => by cases heq
    · exact h.ticked
  | enter id now cancelled =>
    simp only [System.step, System.effect]
    split
    · split_ifs
      · exact h.setCall id fun _ _ _ _ heq => by cases heq
      · exact h.enterStep id _ now
    · exact h.ticked
  | query id fails =>
    simp only [System.step, System.effect]
    split
    · rename_i hcall
      split_ifs
      · exact h.setCall id fun _ _ _ _ heq => by cases heq
      -- a read takes the current step number, which is after the capture
      have ho := h.calls id _ _ _ _ hcall
      refine h.setCall id fun key' g' p' o' heq => ?_
      cases heq
      refine ⟨ho.generation_eq, ho.le, ho.current, lt_succ_of_lt ho.captured_lt, ?_⟩
      intro r hr
      rcases List.mem_cons.mp hr with rfl | hr
      · exact ho.captured_lt
      · exact ho.reads r hr
    · exact h.ticked
  | publish id now =>
    simp only [System.step, System.effect]
    split
    · rename_i hcall
      refine h.publishStep hcall ?_ now
      simpa only [NotLapped, hcall] using hok
    · exact h.ticked
  | invalidate userID channelID => exact h.invalidate userID channelID
  | invalidateAll => exact h.invalidateAll
  | write db => exact h.write db

end steps

/-! ## Every interleaving -/

/-- **Freshness of the cache.** In every interleaving of the steps of any number of loads, database
writes and invalidations in which no load is overtaken by 2^64 invalidations before it publishes:
every set stored in a cache was built from reads after the last `InvalidateAll` and the last
`Invalidate` of its user, and every cache hit returns a set built from reads after the last
`InvalidateAll` and so after every database write that an `InvalidateAll` has followed. -/
theorem published_fresh (db : PermDB) (ops : List LoaderOp)
    (hlap : StepsOK step NotLapped (init db) ops) :
    Throughout step Fresh (init db) ops := by
  have hstep : ∀ s op, CacheInv s → NotLapped s op → CacheInv (s.step op) :=
    fun _ op h hok => h.step op hok
  exact (throughout_of_stepsOK hstep (cacheInv_init db) hlap).mono fun _ h => h.fresh

/-- A load of group 1 is crossed by a write with its `InvalidateAll`, retries, and is stored; a
second load hits the cache. -/
theorem published_fresh_retry :
    Throughout step Fresh (init .empty)
      [.call 0 (.group 1), .enter 0 0 false, .query 0 false, .write .empty, .invalidateAll,
        .publish 0 1, .enter 0 2 false, .query 0 false, .publish 0 3, .call 1 (.group 1),
        .enter 1 4 false] :=
  published_fresh .empty _ (by
    refine ⟨trivial, trivial, trivial, trivial, trivial, ?_, trivial, trivial, ?_, trivial, trivial,
      trivial⟩
    · show (1 : Nat) - 0 < 2 ^ 64
      decide
    · show (1 : Nat) - 1 < 2 ^ 64
      decide)

/-! ## The counter wraps -/

/-- What a row of invalidations does: the calls stay where they are, the counter moves on. -/
lemma run_invalidateAll (s : System) (n : Nat) :
    (run step s (List.replicate n .invalidateAll)).calls = s.calls ∧
      (run step s (List.replicate n .invalidateAll)).caches.cacheGeneration =
        s.caches.cacheGeneration + UInt64.ofNat n ∧
      (run step s (List.replicate n .invalidateAll)).history.tick = s.history.tick + n ∧
      (0 < n → (run step s (List.replicate n .invalidateAll)).history.lastAll + 1 =
        s.history.tick + n) := by
  induction n generalizing s with
  | zero => simp
  | succ n ih =>
    rw [List.replicate_succ, run_cons]
    obtain ⟨hcalls, hgen, htick, hall⟩ := ih (s.step .invalidateAll)
    refine ⟨hcalls, ?_, ?_, fun _ => ?_⟩
    · rw [hgen]
      show s.caches.cacheGeneration + 1 + UInt64.ofNat n = _
      rw [UInt64.ofNat_add, UInt64.add_assoc, UInt64.add_comm (UInt64.ofNat n)]
      rfl
    · rw [htick]
      show s.history.tick + 1 + n = _
      omega
    · rcases Nat.eq_zero_or_pos n with rfl | hn
      · rfl
      · rw [hall hn]
        show s.history.tick + 1 + n = _
        omega

/-- A load of group 1 reads, `n` invalidations happen, and the load publishes. -/
def lappedRun (n : Nat) : List LoaderOp :=
  [.call 0 (.group 1), .enter 0 0 false, .query 0 false] ++
    (List.replicate n .invalidateAll ++ [.publish 0 1])

/-- If the counter comes round to the captured generation, the load publishes a set it read before
all the invalidations. -/
lemma lappedRun_stale {n : Nat} (hpos : 0 < n) (hwrap : UInt64.ofNat n = 0) :
    ¬Throughout step Fresh (init .empty) (lappedRun n) := by
  intro h
  have hfresh := h.final.1
  rw [lappedRun, run_append, run_append] at hfresh
  obtain ⟨hcalls, hgen, -, hall⟩ := run_invalidateAll (run step (init .empty)
    [.call 0 (.group 1), .enter 0 0 false, .query 0 false]) n
  generalize run step (run step (init .empty)
    [.call 0 (.group 1), .enter 0 0 false, .query 0 false])
    (List.replicate n .invalidateAll) = s at hfresh hcalls hgen hall
  -- the load captured generation 0 and read in step 3
  have hcall : s.calls 0 = some (.loading (.group 1) 0
      (.done (.set (loadPermissionRows (.serverGroup 1) .empty))) ⟨2, 0, [3]⟩) := by
    rw [hcalls]
    rfl
  have hzero : s.caches.cacheGeneration = 0 := by
    rw [hgen, hwrap]
    rfl
  have hlast : s.history.lastAll + 1 = 4 + n := hall hpos
  have hpub : (s.step (.publish 0 1)).history.stores =
      ⟨.group 1, [3], s.history.lastAll, 0⟩ :: s.history.stores := by
    simp [step, effect, hcall, publishStep, hzero, ticked, LoadKey.user]
  have hstale : s.history.lastAll < 3 := (hfresh ⟨.group 1, [3], s.history.lastAll, 0⟩
    (by simp [hpub]) 3 (by simp)).1
  omega

/-- After 2^64 invalidations the captured generation is current again. -/
theorem published_stale_after_wraparound :
    ∃ ops : List LoaderOp, ¬Throughout step Fresh (init .empty) ops :=
  ⟨lappedRun (2 ^ 64), lappedRun_stale (by norm_num) (by decide)⟩

end Voicx.Permissions
