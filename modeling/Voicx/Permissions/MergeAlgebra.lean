import Voicx.Found.Run
import Voicx.Permissions.Resolver

/-!
# The algebra of the merge within a tier

Negation overwrites the merged value with 0 while values may be negative. Still the merge of a list
of entries is put together from the merges of its parts (`mergeAll_append`), and the laws follow.

* `Permission.join` — one entry for two, as the merge of a list would make it.
* `Permission.StaysIn` — what an entry sets is still set in another one.
* **`mergeSet_algebra`** — order, grouping and repetition do not matter, further sets only add, and
  every entry of every set stays in the merge.
-/

namespace Voicx.Permissions

open Found List Permission

/-- Two entries merged. -/
def Permission.join (p q : Permission) : Permission := (absorb p q).resolved

/-- What `p` sets is still set in `q`: no flag is cleared, the grant is not lowered, and the value
is lowered only by negating it. -/
def Permission.StaysIn (p q : Permission) : Prop :=
  (p.negate = true → q.negate = true) ∧ (p.skip = true → q.skip = true) ∧ p.grant ≤ q.grant ∧
    (q.value < p.value → q.negate = true)

variable {key : String} {p q r : Permission}

lemma Permission.StaysIn.refl (p : Permission) : p.StaysIn p :=
  ⟨id, id, le_rfl, fun h => absurd h (lt_irrefl _)⟩

lemma Permission.StaysIn.trans (h : p.StaysIn q) (h' : q.StaysIn r) : p.StaysIn r := by
  refine ⟨fun hp => h'.1 (h.1 hp), fun hp => h'.2.1 (h.2.1 hp), h.2.2.1.trans h'.2.2.1,
    fun hr => ?_⟩
  rcases lt_or_ge q.value p.value with hq | hq
  · exact h'.1 (h.2.2.2 hq)
  · exact h'.2.2.2 (hr.trans_le hq)

/-- Both entries stay in their merge. -/
lemma staysIn_join (p q : Permission) : p.StaysIn (p.join q) ∧ q.StaysIn (p.join q) := by
  constructor <;> grind [StaysIn, join, resolved, absorb]

lemma absorb_assoc (m n e : Permission) : absorb (absorb m n) e = absorb m (absorb n e) := by
  simp only [absorb, Bool.or_assoc, mk.injEq, true_and, and_true]
  constructor <;> split_ifs <;> omega

lemma foldl_absorb (m n : Permission) (es : List Permission) :
    es.foldl absorb (absorb m n) = absorb m (es.foldl absorb n) := by
  induction es generalizing n with
  | nil => rfl
  | cons e es ih => rw [foldl_cons, absorb_assoc, ih, foldl_cons]

/-- Overwriting negated values early does not change the outcome. -/
lemma resolved_join (m n : Permission) : m.resolved.join n.resolved = m.join n := by
  cases hm : m.negate <;> cases hn : n.negate <;> simp [join, resolved, absorb, hm, hn]

/-- The merge of a list is put together from those of its parts. -/
theorem mergeAll_append (es es' : List Permission) :
    mergeAll key (es ++ es') = Option.merge join (mergeAll key es) (mergeAll key es') := by
  cases es with
  | nil => simp [show mergeAll key [] = none from rfl]
  | cons e es =>
    cases es' with
    | nil => simp [mergeAll]
    | cons e' es' =>
      simp only [cons_append, mergeAll, mergeEntries, foldl_append, foldl_cons,
        Option.merge_some_some, resolved_join, Option.some.injEq]
      have hkey : ∀ m : Permission, absorb m e' = absorb m { e' with key := key } := fun _ => rfl
      rw [hkey, foldl_absorb, join]

/-- Merging in more entries keeps what is there. -/
lemma staysIn_mergeAll_append {es : List Permission} (hp : mergeAll key es = some p)
    (es' : List Permission) : ∃ q, mergeAll key (es ++ es') = some q ∧ p.StaysIn q := by
  rw [mergeAll_append, hp]
  cases mergeAll key es' with
  | none => exact ⟨p, by simp, .refl p⟩
  | some q => exact ⟨p.join q, rfl, (staysIn_join p q).1⟩

/-- Every entry stays in the merge. -/
lemma staysIn_mergeAll {es : List Permission} (hp : p ∈ es) :
    ∃ q, mergeAll key es = some q ∧ p.StaysIn q := by
  induction es with
  | nil => cases hp
  | cons e es ih =>
    rcases mem_cons.mp hp with rfl | hp
    · have hfirst : p.StaysIn (mergeEntries key p []) := by
        grind [StaysIn, mergeEntries, resolved]
      have hone : mergeAll key [p] = some (mergeEntries key p []) := rfl
      obtain ⟨q, hq, hle⟩ := staysIn_mergeAll_append hone es
      exact ⟨q, hq, hfirst.trans hle⟩
    · obtain ⟨q, hq, hle⟩ := ih hp
      rw [← singleton_append, mergeAll_append, hq]
      exact ⟨_, rfl, hle.trans (staysIn_join _ q).2⟩

/-- A merged entry stays as it is when it is merged alone. -/
lemma mergeAll_singleton {es : List Permission} (h : mergeAll key es = some p) :
    mergeAll key [p] = some p := by
  cases es with
  | nil => cases h
  | cons e es =>
    cases h
    have hkey : (es.foldl absorb { e with key := key }).key = key :=
      foldl_frame (g := Permission.key) (fun _ _ => by rfl) _ es
    simp only [mergeAll, mergeEntries, foldl_nil]
    generalize es.foldl absorb { e with key := key } = m at hkey ⊢
    subst hkey
    obtain ⟨key, type, value, grant, skip, negate⟩ := m
    cases negate <;> rfl

lemma mergeAll_perm {es es' : List Permission} {t : PermissionType} (h : es.Perm es')
    (ht : ∀ e ∈ es, e.type = t) : mergeAll key es = mergeAll key es' := by
  induction h with
  | nil => rfl
  | cons e h ih =>
    rw [← singleton_append, mergeAll_append, ih (forall_mem_cons.mp ht).2,
      ← mergeAll_append, singleton_append]
  | swap e e' es =>
    have htype : e'.type = e.type := by simp [ht]
    have htwo : mergeAll key [e', e] = mergeAll key [e, e'] := by
      simp only [mergeAll, mergeEntries, foldl_cons, foldl_nil, absorb, htype,
        Bool.or_comm, Option.some.injEq]
      congr 2 <;> split_ifs <;> omega
    show mergeAll key ([e', e] ++ es) = mergeAll key ([e, e'] ++ es)
    rw [mergeAll_append, htwo, ← mergeAll_append]
  | trans h h' ih ih' => rw [ih ht, ih' fun e he => ht e (h.mem_iff.mpr he)]

lemma mergeSet_flatten (groups : List (List PermissionSet)) :
    mergeSet (groups.map mergeSet) = mergeSet groups.flatten := by
  refine Finmap.ext_lookup fun key => ?_
  rw [lookup_mergeSet, lookup_mergeSet]
  induction groups with
  | nil => rfl
  | cons g groups ih =>
    have hfirst : mergeAll key (g.filterMap fun set => set.lookup key) = (mergeSet g).lookup key :=
      lookup_mergeSet.symm
    rw [flatten_cons, filterMap_append, mergeAll_append, ← ih, map_cons, filterMap_cons, hfirst]
    cases hg : (mergeSet g).lookup key with
    | none => simp
    | some p =>
      dsimp only
      rw [← singleton_append, mergeAll_append, mergeAll_singleton (hfirst.trans hg)]

/-- All entries of a key have the same type. -/
def SameTypes (sets : List PermissionSet) : Prop :=
  ∀ key, ∃ t, ∀ set ∈ sets, ∀ e, set.lookup key = some e → e.type = t

/-- **The merge within a tier** does not depend on the order of the sets, on how they are grouped or
on how often one of them is there; further sets clear no flag, lower no grant, and lower a value
only by negating it; and every entry of every set is in the merge, with its flags and its grant. -/
theorem mergeSet_algebra (sets : List PermissionSet) (ht : SameTypes sets) :
    (∀ sets', sets'.Perm sets → mergeSet sets' = mergeSet sets) ∧
    (∀ groups : List (List PermissionSet), groups.flatten = sets →
      mergeSet (groups.map mergeSet) = mergeSet sets) ∧
    (∀ set : PermissionSet, mergeSet [set, set] = mergeSet [set]) ∧
    (∀ front more, front ++ more = sets → ∀ key p, (mergeSet front).lookup key = some p →
      ∃ q, (mergeSet sets).lookup key = some q ∧ p.StaysIn q) ∧
    ∀ set ∈ sets, ∀ key e, set.lookup key = some e →
      ∃ q, (mergeSet sets).lookup key = some q ∧ e.StaysIn q := by
  refine ⟨?_, ?_, ?_, ?_, ?_⟩
  · intro sets' hp
    refine Finmap.ext_lookup fun key => ?_
    obtain ⟨t, ht⟩ := ht key
    rw [lookup_mergeSet, lookup_mergeSet]
    refine (mergeAll_perm (t := t) (hp.symm.filterMap _) fun e he => ?_).symm
    obtain ⟨set, hset, hlook⟩ := mem_filterMap.mp he
    exact ht set hset e hlook
  · rintro groups rfl
    exact mergeSet_flatten groups
  · intro set
    refine Finmap.ext_lookup fun key => ?_
    cases hset : set.lookup key <;> simp [lookup_mergeSet, hset, mergeAll, mergeEntries, absorb]
  · rintro front more rfl key p hp
    rw [lookup_mergeSet] at hp
    rw [lookup_mergeSet, filterMap_append]
    exact staysIn_mergeAll_append hp _
  · intro set hset key e he
    rw [lookup_mergeSet]
    exact staysIn_mergeAll (mem_filterMap.mpr ⟨set, hset, he⟩)

/-- A power, and its negation in another set. -/
def talkPower (negate : Bool) : PermissionSet :=
  PermissionSet.set ∅ ⟨"i_client_talk_power", .integer, -5, 10, false, negate⟩

theorem talkPower_order :
    mergeSet [talkPower true, talkPower false] = mergeSet [talkPower false, talkPower true] := by
  refine (mergeSet_algebra _ fun key => ⟨.integer, ?_⟩).1 _ (List.Perm.swap ..)
  simp +contextual [talkPower, PermissionSet.set, FMap.lookup_insert_eq_some]

end Voicx.Permissions
