import Voicx.Chat.Reactions

/-!
# Reaction counts do not go back

* `CountsSince` — counts of a message in some committed version at or after a given one.
* `NeverBack` — the counts a toggle returned are those of a version that includes it, and the counts
  a reading call returned are not older than the toggles that had returned when it started.
* `Overtakes` — a toggle commits while another one of the message has counted and not committed, or
  a call caches counts that it read before the commit of a toggle that has returned.
* `CountsInv` — the invariant; **`counts_never_back`** — where no step overtakes, counts never go
  back.
-/

namespace Voicx.Chat

open Found Protocol Process Function List

/-! ## Counts of a version -/

/-- The counts of a message in some committed version at or after `floor`. -/
def CountsSince (s : Process) (floor : ℕ) (messageID : Int) (counts : Counts) : Prop :=
  ∃ v, floor ≤ v ∧ v ≤ s.version ∧ countsOf (s.states v) messageID = counts

/-- No counts that were returned are too old. -/
structure NeverBack (s : Process) : Prop where
  toggles : ∀ r ∈ s.toggleReturns, CountsSince s r.version r.messageID r.counts
  reads : ∀ r ∈ s.readReturns, ∀ id counts, r.out id = some counts →
    CountsSince s (r.floor id) id counts

/-- Two ways to make counts old: a toggle commits while another one of the same message has counted
and not yet committed; or a call caches counts although a toggle that committed after they were read
has returned. -/
def Overtakes (s : Process) : ReactionEvent → Prop
  | .commit i _ => ∃ t, s.db.active i = some t ∧ ∃ j ≠ i, ∃ u, s.db.active j = some u ∧
      u.reaction.messageID = t.reaction.messageID ∧ ∃ added counts, u.stage = .counted added counts
  | .store i _ _ => ∃ tail, s.tails i = some tail ∧ tail.version < s.floor tail.messageID
  | .readStep j _ _ _ => ∃ r version id rest, s.readers j = some r ∧
      r.stage = .store version (id :: rest) ∧ version < s.floor id
  | _ => False

/-- A call asks for a message twice. The counts of the query are then written over those that it
found in the cache. -/
def AsksTwice : ReactionEvent → Prop
  | .read _ ids => ¬ids.Nodup
  | _ => False

/-- The versions of one process are among those of the other. -/
structure Extends (s s' : Process) : Prop where
  version : s.version ≤ s'.version
  states : ∀ v ≤ s.version, s'.states v = s.states v

section extends_

variable {s s' : Process} {floor floor' : ℕ} {messageID : Int} {counts : Counts}

lemma Extends.of_eq (hversion : s'.version = s.version) (hstates : s'.states = s.states) :
    Extends s s' := ⟨hversion.ge, fun v _ => by rw [hstates]⟩

lemma CountsSince.extend (h : CountsSince s floor messageID counts) (hs : Extends s s') :
    CountsSince s' floor messageID counts := by
  obtain ⟨v, hfloor, hv, hcounts⟩ := h
  exact ⟨v, hfloor, hv.trans hs.version, by rw [hs.states v hv, hcounts]⟩

lemma CountsSince.mono (h : CountsSince s floor messageID counts) (hfloor : floor' ≤ floor) :
    CountsSince s floor' messageID counts := by
  obtain ⟨v, hv, hrest⟩ := h
  exact ⟨v, hfloor.trans hv, hrest⟩

lemma NeverBack.extend (h : NeverBack s) (hs : Extends s s')
    (htoggles : s'.toggleReturns = s.toggleReturns) (hreads : s'.readReturns = s.readReturns) :
    NeverBack s' where
  toggles r hr := (h.toggles r (htoggles ▸ hr)).extend hs
  reads r hr id counts hout := (h.reads r (hreads ▸ hr) id counts hout).extend hs

end extends_

/-! ## The invariant -/

/-- The messages that a call has not yet looked up. -/
def ReadStage.pending : ReadStage → List Int
  | .lookup pending _ => pending
  | .expire id pending _ => id :: pending
  | .query _ | .store _ _ => []

/-- The messages whose counts the call has yet to query. -/
def ReadStage.missing : ReadStage → List Int
  | .lookup _ missing | .expire _ _ missing | .query missing => missing
  | .store _ _ => []

/-- What a reading call holds. -/
structure ReaderOK (s : Process) (r : Reader) : Prop where
  floorLe : ∀ id, r.floor id ≤ s.floor id
  distinct : (r.stage.pending ++ r.stage.missing).Nodup
  missing : ∀ id ∈ r.stage.missing, r.out id = some []
  out : ∀ id counts, id ∉ r.stage.missing → r.out id = some counts →
    CountsSince s (r.floor id) id counts
  store : ∀ version rest, r.stage = .store version rest → version ≤ s.version ∧
    ∀ id ∈ rest, countsOf (s.states version) id = (r.out id).getD []

/-- What a toggle holds after its commit. -/
structure TailOK (s : Process) (tail : Tail) : Prop where
  version : tail.version ≤ s.version
  counts : countsOf (s.states tail.version) tail.messageID = tail.counts

/-- What a transaction has counted are the counts that its commit would make now. -/
def CountedOK (reactions : List Reaction) (t : Toggle) : Prop :=
  ∀ added counts, t.stage = .counted added counts →
    countsOf (t.view reactions) t.reaction.messageID = counts

/-- The invariant. -/
structure CountsInv (s : Process) : Prop where
  current : s.states s.version = s.db.store
  floorLe : ∀ id, s.floor id ≤ s.version
  counted : ∀ i t, s.db.active i = some t → CountedOK s.db.store t
  tails : ∀ i tail, s.tails i = some tail → TailOK s tail
  cache : ∀ id e, s.cache.lookup id = some e → CountsSince s (s.floor id) id e.counts
  readers : ∀ j r, s.readers j = some r → ReaderOK s r
  returns : NeverBack s

lemma countsInv_init (reactions : List Reaction) : CountsInv (init reactions) where
  current := rfl
  floorLe _ := le_rfl
  counted _ _ h := by cases h
  tails _ _ h := by cases h
  cache id e h := by simp [init] at h
  readers _ _ h := by cases h
  returns := ⟨fun r h => absurd h not_mem_nil, fun r h => absurd h not_mem_nil⟩

/-! ### The cache -/

section cache

variable {cache : FMap Int CacheEntry} {now id : Int} {order : List Int} {e : CacheEntry}

lemma lookup_evictUntilSmall (h : (evictUntilSmall order cache).lookup id = some e) :
    cache.lookup id = some e := by
  induction order generalizing cache with
  | nil => exact h
  | cons key order ih =>
    have herase : (cache.erase key).lookup id = some e := by
      unfold evictUntilSmall at h
      split_ifs at h
      · exact ih h
      · exact h
    exact FMap.lookup_of_lookup_erase herase

/-- Pruning only removes entries. -/
lemma lookup_pruneReactionCache (h : (pruneReactionCache now order cache).lookup id = some e) :
    cache.lookup id = some e := by
  unfold pruneReactionCache at h
  split_ifs at h
  · exact h
  · dsimp only at h
    split_ifs at h
    · exact (FMap.lookup_filter_eq_some.mp h).1
    · exact (FMap.lookup_filter_eq_some.mp (lookup_evictUntilSmall h)).1

/-- What is cached after a store: the stored counts, or what was there. -/
lemma lookup_cacheReactions {messageID : Int} {counts : Counts}
    (h : (cacheReactions now order messageID counts cache).lookup id = some e) :
    id = messageID ∧ e.counts = counts ∨ id ≠ messageID ∧ cache.lookup id = some e := by
  rcases FMap.lookup_insert_eq_some.mp (lookup_pruneReactionCache h) with ⟨hid, rfl⟩ | hold
  · exact .inl ⟨hid, rfl⟩
  · exact .inr hold

end cache

/-! ### Toggles of other messages -/

section other

variable {reactions : List Reaction} {r : Reaction} {messageID : Int}

lemma filter_toggled (reactions : List Reaction) (r : Reaction) (added : Bool) (messageID : Int) :
    (toggled reactions r added).filter (fun r => r.messageID == messageID) =
      if r.messageID = messageID then
        toggled (reactions.filter fun r => r.messageID == messageID) r added
      else reactions.filter fun r => r.messageID == messageID := by
  cases added with
  | true =>
    by_cases h : r.messageID = messageID <;> simp [toggled, h]
  | false =>
    simp only [toggled, Bool.false_eq_true, if_false, ← erase_filter]
    split_ifs with h
    · rfl
    · refine erase_of_not_mem fun hmem => ?_
      simp [h] at hmem

/-- A toggle of another message leaves what a transaction sees of its own message. -/
lemma CountedOK.toggled {t u : Toggle} (h : CountedOK reactions u)
    (hne : t.reaction.messageID ≠ u.reaction.messageID) : CountedOK (t.view reactions) u := by
  intro added counts hstage
  rw [← h added counts hstage]
  unfold countsOf
  have hview : ∀ rs, u.view rs = Chat.toggled rs u.reaction added := by
    intro rs
    simp [Toggle.view, hstage]
  have hother : (t.view reactions).filter (fun r => r.messageID == u.reaction.messageID) =
      reactions.filter fun r => r.messageID == u.reaction.messageID := by
    unfold Toggle.view
    split
    · rfl
    all_goals rw [filter_toggled, if_neg hne]
  simp [hview, filter_toggled, hother]

end other

/-! ### Steps of a toggle -/

section toggling

variable {s : Process} {i : ℕ}

lemma countedOK_next {reactions : List Reaction} {t : Toggle} (h : CountedOK reactions t) :
    CountedOK reactions (t.next reactions) := by
  unfold Toggle.next
  split
  · intro added counts hstage
    cases hstage
  · rename_i hwritten
    intro added' counts hstage
    cases hstage
    simp [Toggle.view, hwritten]
  · exact h

variable {m : Move Toggle Unit}

/-- A move that is no commit leaves the table, and every transaction that has counted is right. -/
lemma toggles_step {db : System (List Reaction) Reaction Toggle} (hm : ∀ i, m ≠ .commit i)
    (h : ∀ i t, db.active i = some t → CountedOK db.store t) :
    (toggles.step db m).store = db.store ∧
      ∀ i t, (toggles.step db m).active i = some t → CountedOK db.store t := by
  have hadvance : ∀ i t rows, CountedOK db.store t →
      ∀ j u, (db.advance i t rows).active j = some u → CountedOK db.store u := by
    intro i t rows ht j u hj
    simp only [System.advance, update_apply] at hj
    split_ifs at hj
    · cases hj
      exact ht
    · exact h j u hj
  rcases toggles.step_cases db m with heq | ⟨i, heq⟩ | ⟨i, t, hinit, heq⟩ |
      ⟨i, t, t', input, -, hi, hnext, -, heq⟩ | ⟨i, t, hcommit, -⟩
  · rw [heq]
    exact ⟨rfl, h⟩
  · rw [heq]
    refine ⟨rfl, fun j u hj => ?_⟩
    simp only [System.finish, update_apply] at hj
    split_ifs at hj
    exact h j u hj
  · rw [heq]
    refine ⟨rfl, hadvance i t [] ?_⟩
    intro added counts hstage
    have hstart : t.stage = .start := by simpa [toggles] using hinit
    rw [hstart] at hstage
    cases hstage
  · rw [heq]
    refine ⟨rfl, hadvance i t' _ ?_⟩
    cases hnext
    exact countedOK_next (h i t hi)
  · exact absurd hcommit (hm i)

/-- A step of a transaction before its commit. -/
lemma CountsInv.transact (h : CountsInv s) (hm : ∀ i, m ≠ .commit i) :
    CountsInv { s with db := toggles.step s.db m } := by
  obtain ⟨hstore, hcounted⟩ := toggles_step hm h.counted
  refine ⟨?_, h.floorLe, ?_, fun i tail hi => ?_, h.cache, fun j r hj => ?_, ?_⟩
  · exact h.current.trans hstore.symm
  · intro i t hi
    rw [hstore]
    exact hcounted i t hi
  · have := h.tails i tail hi
    exact ⟨this.version, this.counts⟩
  · have := h.readers j r hj
    exact ⟨this.floorLe, this.distinct, this.missing, this.out, this.store⟩
  · exact ⟨h.returns.toggles, h.returns.reads⟩

end toggling

section commit

variable {s s' : Process} {i : ℕ} {t : Toggle} {counts : Counts}

lemma TailOK.extend {tail : Tail} (h : TailOK s tail) (hs : Extends s s') : TailOK s' tail where
  version := h.version.trans hs.version
  counts := by rw [hs.states _ h.version, h.counts]

lemma ReaderOK.extend {r : Reader} (h : ReaderOK s r) (hs : Extends s s')
    (hfloor : ∀ id, s.floor id ≤ s'.floor id) : ReaderOK s' r where
  floorLe id := (h.floorLe id).trans (hfloor id)
  distinct := h.distinct
  missing := h.missing
  out id counts hid hout := (h.out id counts hid hout).extend hs
  store version rest hstage := by
    obtain ⟨hversion, hrest⟩ := h.store version rest hstage
    refine ⟨hversion.trans hs.version, fun id hid => ?_⟩
    rw [hs.states version hversion, hrest id hid]

variable {added : Bool}

lemma toggles_commit {db : System (List Reaction) Reaction Toggle} (hi : db.active i = some t)
    (hstage : t.stage = .counted added counts) :
    toggles.step db (.commit i) =
      { db.finish i with store := t.view db.store, log := db.log ++ [(i, t)] } := by
  have hdone : toggles.done t = true := by simp [toggles, hstage]
  simp only [Protocol.step, hi, hdone, if_true]
  rfl

/-- **A commit** that overtakes no count. -/
theorem CountsInv.commit (h : CountsInv s) {reported : Bool} (hi : s.db.active i = some t)
    (hstage : t.stage = .counted added counts) (hover : ¬Overtakes s (.commit i reported)) :
    CountsInv (s.commitToggle i reported t counts) := by
  have hext : Extends s (s.commitToggle i reported t counts) := by
    refine ⟨Nat.le_succ _, fun v hv => ?_⟩
    have hne : v ≠ s.version + 1 := by omega
    simp [commitToggle, update_of_ne hne]
  have hdb := toggles_commit hi hstage
  have hstate : (s.commitToggle i reported t counts).states (s.version + 1) =
      t.view s.db.store := by
    simp [commitToggle, hdb]
  -- the counts it returns are those of the version it makes
  have hown : countsOf ((s.commitToggle i reported t counts).states (s.version + 1))
      t.reaction.messageID = counts := by
    rw [hstate]
    exact h.counted i t hi added counts hstage
  refine ⟨?_, fun id => (h.floorLe id).trans hext.version, ?_, ?_, ?_, ?_, ?_⟩
  · simp [commitToggle]
  · intro j u hj
    simp only [commitToggle, hdb, System.finish, update_apply] at hj ⊢
    split_ifs at hj with hji
    have hu := h.counted j u hj
    by_cases hmessage : t.reaction.messageID = u.reaction.messageID
    · intro added' counts' hstage'
      exact absurd ⟨t, hi, j, hji, u, hj, hmessage.symm, added', counts', hstage'⟩ hover
    · exact hu.toggled hmessage
  · intro j tail hj
    simp only [commitToggle] at hj
    have hold : s.tails j = some tail → TailOK (s.commitToggle i reported t counts) tail :=
      fun hj => (h.tails j tail hj).extend hext
    split_ifs at hj
    · rw [update_apply] at hj
      split_ifs at hj
      · cases hj
        exact ⟨le_rfl, hown⟩
      · exact hold hj
    · exact hold hj
  · intro id e he
    exact (h.cache id e he).extend hext
  · intro j r hj
    exact (h.readers j r hj).extend hext fun id => le_rfl
  · have hreturns : NeverBack { s.commitToggle i reported t counts with
        toggleReturns := s.toggleReturns } := h.returns.extend ⟨hext.version, hext.states⟩ rfl rfl
    refine ⟨fun r hr => ?_, hreturns.reads⟩
    simp only [commitToggle] at hr
    split_ifs at hr
    · rcases mem_append.mp hr with hr | hr
      · exact hreturns.toggles r hr
      · rw [mem_singleton.mp hr]
        exact ⟨s.version + 1, le_rfl, le_rfl, hown⟩
    · exact hreturns.toggles r hr

end commit

/-! ### Steps at the cache -/

section caching

variable {s : Process} {i j : ℕ} {now : Int} {order : List Int} (h : CountsInv s)

include h

/-- The cache changes, and everything in it is fresh; toggles and reading calls go on. -/
theorem CountsInv.set {cache : FMap Int CacheEntry} {tails : ℕ → Option Tail}
    {readers : ℕ → Option Reader}
    (hcache : ∀ id e, cache.lookup id = some e → CountsSince s (s.floor id) id e.counts)
    (htails : ∀ i tail, tails i = some tail → TailOK s tail)
    (hreaders : ∀ j r, readers j = some r → ReaderOK s r) :
    CountsInv { s with cache, tails, readers } := by
  have hext : Extends s { s with cache, tails, readers } := .of_eq rfl rfl
  refine ⟨h.current, h.floorLe, h.counted, ?_, hcache, ?_, h.returns.extend hext rfl rfl⟩
  · intro i tail hi
    exact (htails i tail hi).extend hext
  · intro j r hj
    exact (hreaders j r hj).extend hext fun _ => le_rfl

/-- An entry is dropped. -/
lemma CountsInv.eraseCache (id : Int) :
    CountsInv { s with cache := s.cache.erase id } :=
  h.set (fun id' e he => h.cache id' e (FMap.lookup_of_lookup_erase he)) h.tails h.readers

/-- Counts are stored that are not older than the toggles that have returned. -/
lemma CountsInv.cacheReactions {version : ℕ} {id : Int} {counts : Counts}
    (hversion : version ≤ s.version) (hcounts : countsOf (s.states version) id = counts)
    (hfloor : s.floor id ≤ version) :
    CountsInv { s with cache := cacheReactions now order id counts s.cache } := by
  refine h.set (fun id' e he => ?_) h.tails h.readers
  rcases lookup_cacheReactions he with ⟨rfl, hcached⟩ | ⟨-, hold⟩
  · exact ⟨version, hfloor, hversion, hcounts.trans hcached.symm⟩
  · exact h.cache id' e hold

variable {tail : Tail}

/-- A toggle drops the cached counts of its message. -/
theorem CountsInv.invalidate (hi : s.tails i = some tail) :
    CountsInv { s with
      cache := s.cache.erase tail.messageID
      tails := update s.tails i (some { tail with invalidated := true }) } := by
  have herased := h.eraseCache tail.messageID
  refine herased.set herased.cache (fun k tail' hk => ?_) herased.readers
  rw [update_apply] at hk
  split_ifs at hk
  · cases hk
    exact ⟨(herased.tails i tail hi).version, (herased.tails i tail hi).counts⟩
  · exact herased.tails k tail' hk

/-- **The return of a toggle.** No toggle of the message that committed after it has returned before
it. -/
theorem CountsInv.storeTail (hi : s.tails i = some tail)
    (hover : ¬Overtakes s (.store i now order)) : CountsInv (s.storeTail i now order tail) := by
  have hfloor : s.floor tail.messageID ≤ tail.version := by
    by_contra hlt
    exact hover ⟨tail, hi, not_le.mp hlt⟩
  obtain ⟨hversion, hcounts⟩ := h.tails i tail hi
  have hext : Extends s (s.storeTail i now order tail) := .of_eq rfl rfl
  -- the message's floor moves up to the commit that now has returned
  have hfloor' : ∀ id, (s.storeTail i now order tail).floor id =
      if id = tail.messageID then tail.version else s.floor id := by
    intro id
    simp [Process.storeTail, update_apply, max_eq_right hfloor]
  refine ⟨h.current, ?_, h.counted, ?_, ?_, ?_, ?_⟩
  · intro id
    rw [hfloor']
    split_ifs
    · exact hversion
    · exact h.floorLe id
  · intro k tail' hk
    simp only [Process.storeTail, update_apply] at hk
    split_ifs at hk
    exact (h.tails k tail' hk).extend hext
  · intro id e he
    rw [hfloor']
    rcases lookup_cacheReactions he with ⟨hid, hcached⟩ | ⟨hid, hold⟩
    · rw [if_pos hid, hid]
      exact ⟨tail.version, le_rfl, hversion, hcounts.trans hcached.symm⟩
    · rw [if_neg hid]
      exact (h.cache id e hold).extend hext
  · intro j r hj
    refine (h.readers j r hj).extend hext fun id => ?_
    rw [hfloor']
    split_ifs with hid
    · rw [hid]
      exact hfloor
    · exact le_rfl
  · refine ⟨fun r hr => ?_, fun r hr id counts hout => ?_⟩
    swap
    · exact (h.returns.reads r hr id counts hout).extend hext
    rcases mem_append.mp hr with hr | hr
    · exact (h.returns.toggles r hr).extend hext
    · rw [mem_singleton.mp hr]
      exact ⟨tail.version, le_rfl, hversion, hcounts⟩

end caching

/-! ### Steps of a reading call -/

section reading

variable {s : Process} {j : ℕ} {now : Int} {order : List Int} {ok : Bool} {r : Reader}
  (h : CountsInv s)

include h

lemma CountsInv.setReader (hr : ReaderOK s r) :
    CountsInv (s.setReader j r) := by
  refine h.set h.cache h.tails fun k r' hk => ?_
  rw [update_apply] at hk
  split_ifs at hk
  · cases hk
    exact hr
  · exact h.readers k r' hk

lemma CountsInv.dropReader :
    CountsInv { s with readers := update s.readers j none } := by
  refine h.set h.cache h.tails fun k r' hk => ?_
  rw [update_apply] at hk
  split_ifs at hk
  exact h.readers k r' hk

/-- A call returns when nothing is missing. -/
lemma CountsInv.returnReader (hr : ReaderOK s r) (hmissing : r.stage.missing = []) :
    CountsInv (s.returnReader j r) := by
  have hdropped : CountsInv { s with readers := update s.readers j none } := h.dropReader
  have hext : Extends s (s.returnReader j r) := .of_eq rfl rfl
  refine ⟨h.current, h.floorLe, h.counted, ?_, h.cache, ?_, ?_⟩
  · intro i tail hi
    exact (h.tails i tail hi).extend hext
  · intro k r' hk
    exact (hdropped.readers k r' hk).extend (.of_eq rfl rfl) fun _ => le_rfl
  · refine ⟨fun t ht => (h.returns.toggles t ht).extend hext, fun t ht id counts hout => ?_⟩
    rcases mem_append.mp ht with ht | ht
    · exact (h.returns.reads t ht id counts hout).extend hext
    · rw [mem_singleton.mp ht] at hout ⊢
      have hid : id ∉ r.stage.missing := by simp [hmissing]
      exact (hr.out id counts hid hout).extend hext

variable {missing pending : List Int} {id : Int}

/-- A message is missed: it is among the missing ones, with no counts. -/
lemma CountsInv.missCached (hr : ReaderOK s r)
    (hpending : r.stage.pending = id :: pending) (hmissing : r.stage.missing = missing) :
    CountsInv (s.missCached j r id pending missing) := by
  subst hmissing
  have hdistinct := hr.distinct
  rw [hpending] at hdistinct
  refine h.setReader ⟨hr.floorLe, ?_, fun id' hid' => ?_, fun id' counts hid' hout => ?_,
    fun _ _ => nofun⟩
  · have hperm : (pending ++ (r.stage.missing ++ [id])).Perm (id :: pending ++ r.stage.missing) := by
      rw [← append_assoc]
      exact perm_append_singleton _ _
    exact hperm.nodup_iff.mpr hdistinct
  · simp only [update_apply]
    split_ifs with hne
    · rfl
    · rcases mem_append.mp hid' with hold | hnew
      · exact hr.missing id' hold
      · exact absurd (mem_singleton.mp hnew) hne
  · simp only [ReadStage.missing, mem_append, mem_singleton, not_or] at hid'
    simp only [update_of_ne hid'.2] at hout
    exact hr.out id' counts hid'.1 hout

/-- An entry of the cache is not older than the call's start. -/
lemma CountsInv.lookupCached (hr : ReaderOK s r)
    (hstage : r.stage = .lookup (id :: pending) missing) :
    CountsInv (s.lookupCached j now r id pending missing) := by
  have hpending : r.stage.pending = id :: pending := by rw [hstage]; rfl
  have hmissing : r.stage.missing = missing := by rw [hstage]; rfl
  have hdistinct : (id :: pending ++ missing).Nodup := by
    rw [← hpending, ← hmissing]
    exact hr.distinct
  unfold Process.lookupCached
  split
  · exact h.missCached hr hpending hmissing
  rename_i e he
  subst hmissing
  split_ifs
  · exact h.setReader ⟨hr.floorLe, hdistinct, hr.missing, hr.out, fun _ _ => nofun⟩
  have hid : id ∉ r.stage.missing := fun hmem =>
    (nodup_cons.mp hdistinct).1 (mem_append_right pending hmem)
  refine h.setReader ⟨hr.floorLe, hdistinct.of_cons, fun id' hid' => ?_,
    fun id' counts hid' hout => ?_, fun _ _ => nofun⟩
  · have hne : id' ≠ id := fun heq => hid (heq ▸ hid')
    simp only [update_of_ne hne]
    exact hr.missing id' hid'
  simp only [update_apply] at hout
  split_ifs at hout with heq
  · cases hout
    rw [heq]
    exact (h.cache id e he).mono (hr.floorLe id)
  · exact hr.out id' counts hid' hout

omit h in
lemma nodup_countsOf (reactions : List Reaction) (messageID : Int) :
    ((countsOf reactions messageID).map Prod.fst).Nodup := by
  have hkeys : (countsOf reactions messageID).map Prod.fst =
      ((reactions.filter fun r => r.messageID == messageID).map Reaction.emoji).dedup := by
    simp [countsOf, comp_def]
  rw [hkeys]
  exact nodup_dedup _

/-- What is queried are the counts of the current version. -/
lemma CountsInv.queryMissing (hr : ReaderOK s r)
    (hstage : r.stage = .query missing) : CountsInv (s.queryMissing j ok r missing) := by
  have hmissing : r.stage.missing = missing := by rw [hstage]; rfl
  subst hmissing
  -- the rows are written into an empty map
  have hwritten : ∀ id ∈ r.stage.missing, ((r.out id).map fun counts =>
      writeCounts counts (countsOf s.db.store id)) = some (countsOf (s.states s.version) id) := by
    intro id hid
    rw [hr.missing id hid, h.current]
    exact congrArg some (foldl_upsert (nodup_countsOf s.db.store id))
  unfold queryMissing
  split_ifs
  · refine h.setReader ⟨hr.floorLe, nodup_nil, fun id hid => absurd hid not_mem_nil,
      fun id counts _ hout => ?_, fun version rest hstage' => ?_⟩
    · dsimp only at hout
      split_ifs at hout with hid
      · rw [hwritten id hid] at hout
        cases hout
        exact ⟨s.version, (hr.floorLe id).trans (h.floorLe id), le_rfl, rfl⟩
      · exact hr.out id counts hid hout
    · cases hstage'
      refine ⟨le_rfl, fun id hid => ?_⟩
      simp [hid, hwritten id hid]
  · exact h.dropReader

/-- **A step of a reading call** that caches no overtaken counts. -/
theorem CountsInv.stepReader (hj : s.readers j = some r)
    (hover : ¬Overtakes s (.readStep j now order ok)) :
    CountsInv (s.stepReader j now order ok r) := by
  have hr := h.readers j r hj
  unfold Process.stepReader
  split
  · rename_i hstage
    exact h.lookupCached hr hstage
  · rename_i hstage
    exact h.returnReader hr (by rw [hstage]; rfl)
  · rename_i missing _ hstage
    have hmissing : r.stage.missing = missing := by rw [hstage]; rfl
    subst hmissing
    exact h.setReader ⟨hr.floorLe, hr.distinct.of_append_right, hr.missing, hr.out, fun _ _ => nofun⟩
  · rename_i id pending missing hstage
    have herased := h.eraseCache id
    exact herased.missCached (herased.readers j r hj) (by rw [hstage]; rfl) (by rw [hstage]; rfl)
  · rename_i hstage
    exact h.queryMissing hr hstage
  · rename_i version id rest hstage
    obtain ⟨hversion, hcounts⟩ := hr.store _ _ hstage
    have hfloor : s.floor id ≤ version := by
      by_contra hlt
      exact hover ⟨r, version, id, rest, hj, hstage, not_le.mp hlt⟩
    have hstored : CountsInv { s with
        cache := Chat.cacheReactions now order id ((r.out id).getD []) s.cache } :=
      h.cacheReactions hversion (hcounts id mem_cons_self) hfloor
    have hr' := hstored.readers j r hj
    have hmissing : r.stage.missing = [] := by rw [hstage]; rfl
    refine hstored.setReader ⟨hr'.floorLe, nodup_nil, fun id' hid' => absurd hid' not_mem_nil,
      fun id' counts _ hout => ?_, fun version' rest' hstage' => ?_⟩
    · exact hr'.out id' counts (by simp [hmissing]) hout
    · cases hstage'
      exact ⟨hversion, fun id' hid' => hcounts id' (mem_cons_of_mem _ hid')⟩
  · rename_i hstage
    exact h.returnReader hr (by rw [hstage]; rfl)

end reading

/-! ## Every run -/

/-- Every step keeps the invariant, if it does not overtake. -/
theorem CountsInv.step {s : Process} (h : CountsInv s) {event : ReactionEvent}
    (hover : ¬Overtakes s event) (htwice : ¬AsksTwice event) : CountsInv (s.step event) := by
  cases event with
  | begin i r here =>
    simp only [Process.step]
    split_ifs
    · exact h.transact fun _ => nofun
    · exact h
  | statement i | rollback i => exact h.transact fun _ => nofun
  | commit i reported =>
    simp only [Process.step]
    split
    · rename_i hi
      split
      · rename_i hstage
        exact h.commit hi hstage hover
      · exact h
    · exact h
  | invalidate i =>
    simp only [Process.step]
    split
    · rename_i hi
      exact h.invalidate hi
    · exact h
  | store i now order =>
    simp only [Process.step]
    split
    · rename_i hi
      split_ifs
      · exact h.storeTail hi hover
      · exact h
    · exact h
  | read j ids =>
    simp only [Process.step]
    split
    · exact h
    · have hdistinct : ids.Nodup := not_not.mp htwice
      refine h.setReader ⟨fun _ => le_rfl, ?_, fun _ hid => absurd hid not_mem_nil,
        fun _ _ _ => nofun, fun _ _ => nofun⟩
      exact hdistinct.append List.nodup_nil (disjoint_nil_right ids)
  | readStep j now order ok =>
    simp only [Process.step]
    split
    · rename_i hj
      exact h.stepReader hj hover
    · exact h

/-- **Counts never go back.** In every run in which no step overtakes and no call asks for a message
twice, on any table and with any interleaving of the calls, every toggle returns counts of a version
that includes it, and every reading call returns, for each message, counts that are not older than
the toggles that had returned when it started. -/
theorem counts_never_back (reactions : List Reaction) (events : List ReactionEvent)
    (h : StepsOK step (fun s event => ¬Overtakes s event ∧ ¬AsksTwice event)
      (init reactions) events) :
    Throughout step NeverBack (init reactions) events := by
  have hinv : Throughout step CountsInv (init reactions) events :=
    throughout_of_stepsOK (fun s event hs hok => hs.step hok.1 hok.2) (countsInv_init reactions) h
  exact hinv.mono fun s hs => hs.returns

/-- A toggle, a call that answers from the cache, and a call that queries another message too. -/
def toggleAndRead : List ReactionEvent :=
  [.begin 0 { messageID := 1, uniqueID := "alice", emoji := "👍" } true, .statement 0, .statement 0,
    .commit 0 true, .invalidate 0, .store 0 10 [], .read 5 [1], .readStep 5 20 [] true,
    .readStep 5 20 [] true, .read 6 [1, 2], .readStep 6 30 [] true, .readStep 6 30 [] true,
    .readStep 6 30 [] true, .readStep 6 30 [] true, .readStep 6 30 [] true, .readStep 6 30 [] true]

theorem counts_never_back_toggle_and_read :
    StepsOK step (fun s event => ¬Overtakes s event ∧ ¬AsksTwice event)
        (init [{ messageID := 2, uniqueID := "bob", emoji := "🎉" }]) toggleAndRead ∧
      let s := run step (init [{ messageID := 2, uniqueID := "bob", emoji := "🎉" }])
        toggleAndRead
      NeverBack s ∧ s.toggleReturns = [⟨1, [("👍", 1)], 1⟩] ∧
        s.readReturns.map (fun r => (r.out 1, r.out 2)) =
          [(some [("👍", 1)], none), (some [("👍", 1)], some [("🎉", 1)])] := by
  have hsteps : StepsOK step (fun s event => ¬Overtakes s event ∧ ¬AsksTwice event)
      (init [{ messageID := 2, uniqueID := "bob", emoji := "🎉" }]) toggleAndRead := by
    refine ⟨⟨nofun, nofun⟩, ⟨nofun, nofun⟩, ⟨nofun, nofun⟩, ⟨?_, nofun⟩, ⟨nofun, nofun⟩,
      ⟨?_, nofun⟩, ⟨nofun, by simp [AsksTwice]⟩, ⟨?_, nofun⟩, ⟨?_, nofun⟩,
      ⟨nofun, by simp [AsksTwice]⟩, ⟨?_, nofun⟩, ⟨?_, nofun⟩, ⟨?_, nofun⟩, ⟨?_, nofun⟩, ⟨?_, nofun⟩, ⟨?_, nofun⟩, trivial⟩
    · rintro ⟨t, -, j, hj, u, hu, -⟩
      match j with
      | 0 => exact hj rfl
      | j + 1 => cases hu
    · rintro ⟨tail, htail, hlt⟩
      cases htail
      exact absurd hlt (by decide +kernel)
    -- only the last step but one of the second call stores counts
    all_goals
      rintro ⟨r, version, id, rest, hr, hstage, hlt⟩
      cases hr
      cases hstage
    exact absurd hlt (by decide +kernel)
  exact ⟨hsteps, (counts_never_back _ _ hsteps).final, by decide +kernel, by decide +kernel⟩

/-- A toggle of the message commits between the count and the commit of another one: the counts that
the second one returns are those of no version from its commit on. -/
theorem overtaken_toggle_returns_old_counts :
    let s := run step (init [])
      [.begin 0 { messageID := 1, uniqueID := "alice", emoji := "👍" } true,
        .begin 1 { messageID := 1, uniqueID := "bob", emoji := "🎉" } true,
        .statement 0, .statement 0, .statement 1, .statement 1, .commit 1 true, .commit 0 true,
        .invalidate 0, .store 0 10 []]
    s.toggleReturns = [⟨1, [("👍", 1)], 2⟩] ∧ countsOf (s.states 2) 1 = [("👍", 1), ("🎉", 1)] ∧
      ¬NeverBack s := by
  refine ⟨by decide +kernel, by decide +kernel, fun h => ?_⟩
  obtain ⟨v, hfloor, hv, hcounts⟩ := h.toggles ⟨1, [("👍", 1)], 2⟩ (by decide +kernel)
  obtain rfl : v = 2 := le_antisymm hv hfloor
  exact absurd hcounts (by decide +kernel)

/-- A call queries the counts, a toggle commits and returns, and only then the call stores what it
has read: a later call answers without the toggle. -/
theorem overtaken_query_is_cached :
    let s := run step (init [])
      [.read 5 [1], .readStep 5 0 [] true, .readStep 5 0 [] true, .readStep 5 0 [] true,
        .begin 0 { messageID := 1, uniqueID := "alice", emoji := "👍" } true,
        .statement 0, .statement 0, .commit 0 true, .invalidate 0, .store 0 10 [],
        .readStep 5 20 [] true, .read 6 [1], .readStep 6 30 [] true, .readStep 6 30 [] true]
    s.toggleReturns = [⟨1, [("👍", 1)], 1⟩] ∧ s.readReturns.map (fun r => r.out 1) = [some []] ∧
      ¬NeverBack s := by
  refine ⟨by decide +kernel, by decide +kernel, fun h => ?_⟩
  obtain ⟨v, hfloor, hv, hcounts⟩ := h.reads _ mem_cons_self 1 [] (by decide +kernel)
  obtain rfl : v = 1 := le_antisymm hv hfloor
  exact absurd hcounts (by decide +kernel)

end Voicx.Chat
