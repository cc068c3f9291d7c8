import Voicx.Permissions.Cache

/-!
# Loads after a write and its invalidation

A handler that changes the database tells the loader with `Invalidate` or `InvalidateAll` before it
replies. Here: what loads can return from then on.

* `Invalidation` — the two ways to tell the loader.
* `System.ReturnsAfter w u` — a step that ends a `LoadForClient` of user `u` returns a set all of
  whose reads happened after step `w`.
* `System.cached_of_step` — what is in the cache after a step was there before, or the step stored
  it.
* `Settled`, `Settled.step` — what a current generation and the cached sets of the user guarantee,
  and that every step keeps it.
* **`returnsAfter_iff`** — after any run in which an invalidation followed step `w`, all later loads
  of the user return sets read after `w` if and only if this is so for the sets of the user that are
  cached, expired ones apart. A set that is cached under any channel is returned by the next load
  for that channel.
-/

namespace Voicx.Permissions

open Found Function Permissions.System

/-! ## Invalidations and loads -/

/-- What a handler tells the loader: drop the set of one user in one channel, or drop everything.
Source: `internal/permissions/loader.go`, `Invalidate`, `InvalidateAll` -/
inductive Invalidation
  | pair (userID channelID : Int)
  | all
  deriving DecidableEq, Repr

/-- An invalidation as a step of the loader. -/
def Invalidation.op : Invalidation → LoaderOp
  | .pair userID channelID => .invalidate userID channelID
  | .all => .invalidateAll

/-- A cache is looked at no earlier than a time. -/
def LoaderOp.NotBefore (t : Int) : LoaderOp → Prop
  | .enter _ now _ => t ≤ now
  | _ => True

/-- If the step ends a `LoadForClient` of the user, the set it returns was built from reads after
step `w`. A load ends with a hit, or by publishing under the generation it started from. -/
def System.ReturnsAfter (w : Nat) (userID : Int) (s : System) : LoaderOp → Prop
  | .enter id now cancelled =>
    ∀ channelID e, s.calls id = some (.start (.client userID channelID)) → cancelled = false →
      s.caches.lookup (.client userID channelID) = some e → now < e.expires → ∀ r ∈ e.reads, w < r
  | .publish id _ =>
    ∀ channelID g value o, s.calls id = some (.loading (.client userID channelID) g (.done value) o) →
      g = s.caches.cacheGeneration → ∀ r ∈ o.reads, w < r
  | _ => True

/-! ## What one step does -/

section step

variable {s : System}

/-- A call moves on, with what hits have returned by then. -/
def System.moved (s : System) (id : Nat) (c : Call) (hits : List HitEvent) : System :=
  { s.setCall id c with history := { s.history with hits := hits } }

/-- A load publishes under a generation that is current. -/
def System.Publishes (s : System) (op : LoaderOp) (key : LoadKey) (o : Origin) : Prop :=
  ∃ id now value, op = .publish id now ∧
    s.calls id = some (.loading key s.caches.cacheGeneration (.done value) o) ∧
    s.effect op = s.publishStep id key s.caches.cacheGeneration value o now

/-- **What a step can do**: nothing, move one call, publish, invalidate or write. -/
theorem System.effect_cases (s : System) (op : LoaderOp) :
    s.effect op = s ∨ (∃ id c hits, s.effect op = s.moved id c hits) ∨
      (∃ key o, s.Publishes op key o) ∨ (∃ i : Invalidation, op = i.op) ∨ ∃ db, op = .write db := by
  have hmove : ∀ id c, s.effect op = s.setCall id c →
      ∃ id c hits, s.effect op = s.moved id c hits := fun id c h => ⟨id, c, s.history.hits, h⟩
  cases op with
  | call id key =>
    cases hcall : s.calls id with
    | none => exact .inr (.inl (hmove id (.start key) (by simp [effect, hcall])))
    | some c => exact .inl (by simp [effect, hcall])
  | enter id now cancelled =>
    simp only [effect, enterStep] at hmove ⊢
    split
    · split_ifs
      · exact .inr (.inl ⟨id, _, s.history.hits, rfl⟩)
      · split
        · split_ifs
          · exact .inr (.inl ⟨id, _, _, rfl⟩)
          · exact .inr (.inl ⟨id, _, s.history.hits, rfl⟩)
        · exact .inr (.inl ⟨id, _, s.history.hits, rfl⟩)
    · exact .inl rfl
  | query id fails =>
    simp only [effect]
    split
    · split_ifs <;> exact .inr (.inl ⟨id, _, s.history.hits, rfl⟩)
    · exact .inl rfl
  | publish id now =>
    by_cases hcall : ∃ key value o,
        s.calls id = some (.loading key s.caches.cacheGeneration (.done value) o)
    · obtain ⟨key, value, o, hcall⟩ := hcall
      exact .inr (.inr (.inl ⟨key, o, id, now, value, rfl, hcall, by
        simp only [effect, hcall]⟩))
    simp only [effect, publishStep]
    split
    · rename_i key g value o hid
      by_cases hgen : g = s.caches.cacheGeneration
      · exact absurd ⟨key, value, o, hgen ▸ hid⟩ hcall
      · rw [if_pos hgen]
        exact .inr (.inl ⟨id, _, s.history.hits, rfl⟩)
    · exact .inl rfl
  | invalidate userID channelID => exact .inr (.inr (.inr (.inl ⟨.pair userID channelID, rfl⟩)))
  | invalidateAll => exact .inr (.inr (.inr (.inl ⟨.all, rfl⟩)))
  | write db => exact .inr (.inr (.inr (.inr ⟨db, rfl⟩)))

variable {key : LoadKey} {e : Cached}

lemma Caches.lookup_invalidation {i : Invalidation} {key : LoadKey} {e : Cached}
    (h : (s.step i.op).caches.lookup key = some e) : s.caches.lookup key = some e := by
  cases i with
  | pair userID channelID => exact Caches.lookup_invalidate h
  | all => exact absurd ((s.caches.lookup_invalidateAll key).symm.trans h) (by simp)

/-- **What a step puts into the cache.** A set found after a step was found before it, or the step
published it. -/
theorem System.cached_of_step {op : LoaderOp} (h : (s.step op).caches.lookup key = some e) :
    s.caches.lookup key = some e ∨ ∃ key' o, s.Publishes op key' o ∧ e.reads = o.reads := by
  rcases s.effect_cases op with heq | ⟨id, c, hits, heq⟩ | ⟨key', o, hpub⟩ | ⟨i, rfl⟩ | ⟨db, rfl⟩
  · rw [step, heq] at h
    exact .inl h
  · rw [step, heq] at h
    exact .inl h
  · obtain ⟨id, now, value, -, -, heq⟩ := id hpub
    have hstore : (s.step op).caches = s.caches.store ⟨value, now + cacheTTL, o.reads⟩ key' := by
      rw [step, heq, publishStep, if_neg (not_not.mpr rfl)]
      rfl
    rw [hstore] at h
    rcases Caches.lookup_store h with rfl | hold
    · exact .inr ⟨key', o, hpub, rfl⟩
    · exact .inl hold
  · exact .inl (Caches.lookup_invalidation h)
  · exact .inl h

/-- The last invalidations only move forward. -/
lemma CacheInv.last_le_step (h : CacheInv s) (op : LoaderOp) :
    s.history.lastAll ≤ (s.step op).history.lastAll ∧
      ∀ u, s.history.lastOf u ≤ (s.step op).history.lastOf u := by
  rcases s.effect_cases op with heq | ⟨id, c, hits, heq⟩ | ⟨key, o, id, now, value, -, -, heq⟩ |
    ⟨i, rfl⟩ | ⟨db, rfl⟩
  · rw [System.step, heq]
    exact ⟨le_rfl, fun _ => le_rfl⟩
  · rw [System.step, heq]
    exact ⟨le_rfl, fun _ => le_rfl⟩
  · rw [System.step, heq, System.publishStep, if_neg (not_not.mpr rfl)]
    exact ⟨le_rfl, fun _ => le_rfl⟩
  · cases i with
    | pair userID channelID =>
      refine ⟨le_rfl, fun u => ?_⟩
      show s.history.lastOf u ≤ update s.history.lastOf userID s.history.tick u
      rw [update_apply]
      split_ifs
      · exact (h.lastOf_lt u).le
      · exact le_rfl
    | all => exact ⟨h.lastAll_lt.le, fun _ => le_rfl⟩
  · exact ⟨le_rfl, fun _ => le_rfl⟩

/-- A step moves one call at most. -/
lemma System.calls_step (s : System) (op : LoaderOp) :
    ∃ id, ∀ id' ≠ id, (s.step op).calls id' = s.calls id' := by
  rcases s.effect_cases op with heq | ⟨id, c, hits, heq⟩ | ⟨key, o, id, now, value, -, -, heq⟩ |
    ⟨i, rfl⟩ | ⟨db, rfl⟩
  · exact ⟨0, fun _ _ => by rw [step, heq]; rfl⟩
  · refine ⟨id, fun id' hne => ?_⟩
    rw [step, heq]
    exact update_of_ne hne _ _
  · refine ⟨id, fun id' hne => ?_⟩
    rw [step, heq, publishStep, if_neg (not_not.mpr rfl)]
    exact update_of_ne hne _ _
  · cases i <;> exact ⟨0, fun _ _ => rfl⟩
  · exact ⟨0, fun _ _ => rfl⟩

/-- Every step takes one number and is one invalidation at most. -/
lemma System.history_step (s : System) (op : LoaderOp) :
    (s.step op).history.tick = s.history.tick + 1 ∧
      (s.step op).history.invalidations ≤ s.history.invalidations + 1 := by
  show (s.effect op).history.tick + 1 = _ ∧ (s.effect op).history.invalidations ≤ _
  rw [Nat.add_right_cancel_iff]
  rcases s.effect_cases op with heq | ⟨id, c, hits, heq⟩ | ⟨key, o, id, now, value, -, -, heq⟩ |
    ⟨i, rfl⟩ | ⟨db, rfl⟩
  · rw [heq]
    exact ⟨rfl, Nat.le_succ _⟩
  · rw [heq]
    exact ⟨rfl, Nat.le_succ _⟩
  · rw [heq, publishStep, if_neg (not_not.mpr rfl)]
    exact ⟨rfl, Nat.le_succ _⟩
  · cases i <;> exact ⟨rfl, le_rfl⟩
  · exact ⟨rfl, Nat.le_succ _⟩

end step

/-! ## Runs -/

variable {ops : List LoaderOp}

/-- No load is overtaken by 2^64 invalidations in a run that is not that long. -/
lemma stepsOK_notLapped {s : System} (h : s.history.invalidations + ops.length ≤ 2 ^ 64) :
    StepsOK step NotLapped s ops := by
  induction ops generalizing s with
  | nil => trivial
  | cons op ops ih =>
    rw [List.length_cons] at h
    have hstep := (s.history_step op).2
    refine ⟨?_, ih (by omega)⟩
    cases op with
    | publish id now =>
      simp only [NotLapped]
      split
      · omega
      · trivial
    | _ => trivial

lemma System.tick_run (s : System) (ops : List LoaderOp) :
    (run step s ops).history.tick = s.history.tick + ops.length := by
  induction ops generalizing s with
  | nil => rfl
  | cons op ops ih =>
    rw [run_cons, ih, (s.history_step op).1, List.length_cons]
    omega

/-- After any run from a fresh loader there are call ids left. -/
lemma exists_unused_call (db : PermDB) (ops : List LoaderOp) :
    ∃ id, (run step (init db) ops).calls id = none := by
  have hstep : ∀ (s : System) (op : LoaderOp), {id | s.calls id ≠ none}.Finite →
      {id | (s.step op).calls id ≠ none}.Finite := by
    intro s op hfin
    obtain ⟨id, hid⟩ := s.calls_step op
    refine (hfin.insert id).subset fun id' hne => ?_
    by_cases heq : id' = id
    · exact .inl heq
    · right
      intro hnone
      exact hne ((hid id' heq).trans hnone)
  have hinit : {id | (init db).calls id ≠ none}.Finite := by simp [init]
  obtain ⟨id, hid⟩ := (throughout_of_step hstep hinit ops).final.exists_notMem
  exact ⟨id, not_not.mp hid⟩

/-- There was an invalidation after step `w`. -/
def System.InvalidatedAfter (w : Nat) (s : System) : Prop :=
  w < s.history.lastAll ∨ ∃ u, w < s.history.lastOf u

/-- The cached sets of the user were read after step `w`, unless they have expired by `t`. -/
def System.CachedAfter (w : Nat) (t userID : Int) (s : System) : Prop :=
  ∀ channelID e, s.caches.lookup (.client userID channelID) = some e →
    e.expires ≤ t ∨ ∀ r ∈ e.reads, w < r

/-- The invariant of loads after a write and its invalidation. -/
structure Settled (w : Nat) (t userID : Int) (s : System) : Prop where
  inv : CacheInv s
  invalidated : s.InvalidatedAfter w
  cached : s.CachedAfter w t userID

section settled

variable {w id : Nat} {t userID : Int} {s : System} {op : LoaderOp}

section

variable (h : Settled w t userID s) (hlap : s.NotLapped op)

include h hlap

/-- What is published now was read after the invalidation. -/
lemma Settled.lt_reads {now : Int} (hop : op = .publish id now) {key : LoadKey}
    {prog : ReadProg PermDB Loaded} {o : Origin}
    (hcall : s.calls id = some (.loading key s.caches.cacheGeneration prog o)) :
    ∀ r ∈ o.reads, w < r := by
  intro r hr
  subst hop
  have hlap' : s.history.invalidations - o.invalidations < 2 ^ 64 := by
    simpa only [NotLapped, hcall] using hlap
  obtain ⟨hall, hof⟩ := h.inv.lt_reads hcall rfl hlap' r hr
  rcases h.invalidated with hw | ⟨u, hw⟩
  · exact hw.trans hall
  · exact hw.trans (hof u)

/-- What is settled stays settled. -/
theorem Settled.step : Settled w t userID (s.step op) where
  inv := h.inv.step op hlap
  invalidated := by
    obtain ⟨hall, hof⟩ := h.inv.last_le_step op
    rcases h.invalidated with hw | ⟨u, hw⟩
    · exact .inl (hw.trans_le hall)
    · exact .inr ⟨u, hw.trans_le (hof u)⟩
  cached := by
    intro channelID e he
    rcases cached_of_step he with hold | ⟨key, o, ⟨id, now, value, hop, hcall, -⟩, hreads⟩
    · exact h.cached channelID e hold
    · right
      rw [hreads]
      exact h.lt_reads hlap hop hcall

/-- A load that ends now returns a set read after step `w`. -/
lemma Settled.returnsAfter (hop : op.NotBefore t) : s.ReturnsAfter w userID op := by
  cases op with
  | enter id now cancelled =>
    intro channelID e _ _ he hnow
    have hexp : ¬ e.expires ≤ t := not_le.mpr (lt_of_le_of_lt hop hnow)
    exact (h.cached channelID e he).resolve_left hexp
  | publish id now =>
    intro channelID g value o hcall hgen
    rw [hgen] at hcall
    exact h.lt_reads hlap rfl hcall
  | call id key | query id fails | invalidate userID channelID | invalidateAll | write db => trivial

end

lemma Settled.stepsOK (h : Settled w t userID s) {post : List LoaderOp}
    (htime : ∀ op ∈ post, op.NotBefore t) (hlap : StepsOK System.step System.NotLapped s post) :
    StepsOK System.step (System.ReturnsAfter w userID) s post := by
  induction post generalizing s with
  | nil => trivial
  | cons op post ih =>
    obtain ⟨hop, hpost⟩ := List.forall_mem_cons.mp htime
    exact ⟨h.returnsAfter hlap.1 hop, ih (h.step hlap.1) hpost hlap.2⟩

/-- A set that is cached and has not expired is what the next load of its key returns. -/
lemma cachedAfter_of_next_load (hid : s.calls id = none)
    (h : ∀ channelID, StepsOK step (ReturnsAfter w userID) s
      [.call id (.client userID channelID), .enter id t false]) : s.CachedAfter w t userID := by
  intro channelID e he
  obtain ⟨-, hret, -⟩ := h channelID
  have hstep : s.step (.call id (.client userID channelID)) =
      (s.setCall id (.start (.client userID channelID))).ticked := by
    rw [step, effect, hid]
  have hcall : (s.step (.call id (.client userID channelID))).calls id =
      some (.start (.client userID channelID)) := by
    rw [hstep]
    exact update_self _ _ _
  have hcached : (s.step (.call id (.client userID channelID))).caches.lookup
      (.client userID channelID) = some e := by
    rw [hstep]
    exact he
  by_cases hexp : e.expires ≤ t
  · exact .inl hexp
  · exact .inr (hret channelID e hcall rfl hcached (not_le.mp hexp))

end settled

/-! ### What an invalidation leaves -/

section invalidation

variable {w : Nat} {t userID : Int} {s : System}

lemma invalidatedAfter_op (i : Invalidation) (hw : w < s.history.tick) :
    (s.step i.op).InvalidatedAfter w := by
  cases i with
  | pair userID channelID =>
    refine .inr ⟨userID, ?_⟩
    show w < update s.history.lastOf userID s.history.tick userID
    rwa [update_self]
  | all => exact .inl hw

/-- `Invalidate` leaves what is cached for the user under other channels. -/
lemma cachedAfter_pair (channelID : Int) :
    (s.step (Invalidation.pair userID channelID).op).CachedAfter w t userID ↔
      ∀ channelID' ≠ channelID, ∀ e, s.caches.lookup (.client userID channelID') = some e →
        e.expires ≤ t ∨ ∀ r ∈ e.reads, w < r := by
  have hlookup : ∀ channelID', (s.step (Invalidation.pair userID channelID).op).caches.lookup
      (.client userID channelID') =
        if channelID' = channelID then none else s.caches.lookup (.client userID channelID') := by
    intro channelID'
    show (s.caches.cache.erase (userID, channelID)).lookup (userID, channelID') = _
    simp only [FMap.lookup_erase_ite, Prod.mk.injEq, true_and]
    rfl
  constructor
  · intro h channelID' hne e he
    apply h channelID' e
    rwa [hlookup, if_neg hne]
  · intro h channelID' e he
    rw [hlookup] at he
    split_ifs at he with heq
    exact h channelID' heq e he

end invalidation

/-- **Later loads see the write.** After a run with an invalidation after step `w`: every load of
the user that ends from time `t` on, in every continuation in which no load is overtaken by 2^64
invalidations, returns a set read after `w` if and only if every set cached for the user, under any
channel, was read after `w` or has expired by `t`. -/
theorem returnsAfter_iff {db : PermDB} {w : Nat} {t userID : Int}
    (hlap : StepsOK System.step System.NotLapped (System.init db) ops)
    (hinv : (run System.step (System.init db) ops).InvalidatedAfter w) :
    (∀ post, (∀ op ∈ post, op.NotBefore t) →
        StepsOK System.step System.NotLapped (run System.step (System.init db) ops) post →
        StepsOK System.step (System.ReturnsAfter w userID)
          (run System.step (System.init db) ops) post) ↔
      (run System.step (System.init db) ops).CachedAfter w t userID := by
  have hstep : ∀ s op, CacheInv s → System.NotLapped s op → CacheInv (s.step op) :=
    fun _ op h hok => h.step op hok
  have hcache := (throughout_of_stepsOK hstep (cacheInv_init db) hlap).final
  constructor
  · intro h
    obtain ⟨id, hid⟩ := exists_unused_call db ops
    apply cachedAfter_of_next_load hid
    intro channelID
    apply h
    · intro op hop
      rcases List.mem_pair.mp hop with rfl | rfl
      · trivial
      · exact le_refl t
    · exact ⟨trivial, trivial, trivial⟩
  · intro hcached post htime hpost
    exact Settled.stepsOK ⟨hcache, hinv, hcached⟩ htime hpost

end Voicx.Permissions
