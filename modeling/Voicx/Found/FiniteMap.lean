import Mathlib.Data.Finmap
import Mathlib.Tactic

/-!
# Finite maps with a pointwise update API

The unordered key/value maps of an imperative program, as Mathlib's `Finmap` at a constant value
type, with the operations a loop over such a map amounts to.

* `FMap.modify`, `FMap.mapVals`, `FMap.filter`, `FMap.len` — update of one value in place, of all
  values, deletion of the entries that fail a test, and the number of entries. Each comes with the
  equation for `lookup`, so that no later proof unfolds an operation.
* `FMap.total` — the sum of a measure over the values, with its equation for an insertion.
* `FMap.RangeOrder` — an order in which a loop over a map may visit the keys.
* `SetMap K A` — a map from keys to finite sets, the shape of `map[K]map[A]bool`. It is observed
  through `SetMap.elems` (an absent key reads as the empty set) and updated by `SetMap.add`,
  `SetMap.remove` and `SetMap.removeAll`; the removals drop a key whose set became empty, and
  `SetMap.NoEmpty` says that no empty set is kept.
-/

namespace Voicx.Found

open Finmap Option Multiset

/-- A finite map from `K` to `V`. -/
abbrev FMap (K V : Type) := Finmap fun _ : K => V

namespace FMap

variable {K V W : Type} [DecidableEq K]

/-! ### Lookup after an insertion or a deletion -/

variable (m : FMap K V)

/-- Lookup after an insertion, at any key. -/
lemma lookup_insert_ite (k k' : K) (v : V) :
    (m.insert k v).lookup k' = if k' = k then some v else m.lookup k' := by
  by_cases h : k' = k
  · subst h
    simp
  · rw [if_neg h, lookup_insert_of_ne m h]

/-- Lookup after a deletion, at any key. -/
lemma lookup_erase_ite (k k' : K) :
    (m.erase k).lookup k' = if k' = k then none else m.lookup k' := by
  by_cases h : k' = k
  · subst h
    simp
  · rw [if_neg h, lookup_erase_ne h]

variable {k' : K} {v : V}

/-- After an insertion there is the new value, or what was there. -/
lemma lookup_insert_eq_some {m : FMap K V} {k : K} {v' : V} :
    (m.insert k v).lookup k' = some v' ↔ k' = k ∧ v = v' ∨ k' ≠ k ∧ m.lookup k' = some v' := by
  rw [lookup_insert_ite]
  split_ifs with h <;> simp [h]

/-- After a deletion there is only what was there. -/
lemma lookup_of_lookup_erase {m : FMap K V} {k : K} (h : (m.erase k).lookup k' = some v) :
    m.lookup k' = some v := by
  rw [lookup_erase_ite] at h
  split_ifs at h
  exact h

/-- Lookup in a union: the left map goes first. -/
lemma lookup_union (m m' : FMap K V) (k : K) :
    (m ∪ m').lookup k = (m.lookup k).or (m'.lookup k) := by
  cases h : m.lookup k with
  | none => rw [lookup_union_right (lookup_eq_none.mp h), none_or]
  | some v =>
    have hk : k ∈ m := mem_of_lookup_eq_some h
    rw [lookup_union_left hk, h, some_or]

/-! ### Updating one value in place -/

/-- Replace the value at `k`, if there is one, by its image under `f`. -/
def modify (k : K) (f : V → V) : FMap K V :=
  match m.lookup k with
  | some v => m.insert k (f v)
  | none => m

/-- Lookup after an update in place. -/
lemma lookup_modify (k k' : K) (f : V → V) :
    (m.modify k f).lookup k' = if k' = k then (m.lookup k).map f else m.lookup k' := by
  unfold modify
  cases h : m.lookup k with
  | none =>
    by_cases hk : k' = k
    · subst hk
      simp [h]
    · simp [hk]
  | some v =>
    simp only [lookup_insert_ite]
    by_cases hk : k' = k <;> simp [hk]

/-- An update in place keeps the keys. -/
@[simp] lemma mem_modify (k k' : K) (f : V → V) : k' ∈ m.modify k f ↔ k' ∈ m := by
  rw [← lookup_isSome, ← lookup_isSome, lookup_modify]
  by_cases hk : k' = k
  · subst hk
    simp
  · simp [hk]

/-! ### Updating every value, and deleting by a test -/

/-- Replace every value by its image under `f`. -/
def mapVals (f : K → V → W) : FMap K W where
  entries := m.entries.map fun e => ⟨e.1, f e.1 e.2⟩
  nodupKeys := by
    rw [← Multiset.nodup_keys, Multiset.keys, Multiset.map_map]
    exact nodup_keys.mpr m.nodupKeys

/-- Keep the entries that pass the test `p`. -/
def filter (p : K → V → Bool) : FMap K V where
  entries := m.entries.filter fun e => p e.1 e.2
  nodupKeys := by
    rw [← nodup_keys, Multiset.keys]
    exact nodup_of_le (map_le_map (filter_le _ _))
      (nodup_keys.mpr m.nodupKeys)

/-- Lookup after an update of every value. -/
@[simp] lemma lookup_mapVals (m : FMap K V) (f : K → V → W) (k : K) :
    (m.mapVals f).lookup k = (m.lookup k).map (f k) := by
  ext w
  rw [← Option.mem_def, ← Option.mem_def]
  simp only [mapVals, Multiset.mem_map, Option.mem_map, mem_lookup_iff]
  constructor
  · rintro ⟨⟨k', v⟩, he, heq⟩
    cases heq
    exact ⟨v, he, rfl⟩
  · rintro ⟨v, he, rfl⟩
    exact ⟨⟨k, v⟩, he, rfl⟩

/-- Lookup after a deletion by a test. -/
lemma lookup_filter (m : FMap K V) (p : K → V → Bool) (k : K) :
    (m.filter p).lookup k = (m.lookup k).filter (p k) := by
  ext v
  rw [← Option.mem_def, ← Option.mem_def, mem_lookup_iff]
  simp only [filter, mem_filter, Option.mem_def, Option.filter_eq_some_iff]
  rw [← Option.mem_def, mem_lookup_iff]

variable {m : FMap K V} {k : K}

/-- A key survives a deletion by a test exactly when its value passes. -/
lemma lookup_filter_eq_some {p : K → V → Bool} :
    (m.filter p).lookup k = some v ↔ m.lookup k = some v ∧ p k v = true := by
  rw [lookup_filter, filter_eq_some_iff]

/-! ### The number of entries -/

/-- The number of entries. -/
def len (m : FMap K V) : ℕ := m.entries.card

omit [DecidableEq K] in
@[simp] lemma len_empty : len (∅ : FMap K V) = 0 := rfl

omit [DecidableEq K] in
/-- The number of entries is the number of keys. -/
lemma len_eq_card_keys (m : FMap K V) : m.len = m.keys.card := by
  simp [len, Finmap.keys, Finset.card, Multiset.keys]

/-- Inserting at a fresh key adds one entry. -/
lemma len_insert_of_not_mem (h : k ∉ m) (v : V) : len (m.insert k v) = m.len + 1 := by
  rw [len, entries_insert_of_notMem h, card_cons, len]

/-- Inserting at a key that is present keeps the number of entries. -/
lemma len_insert_of_mem (h : k ∈ m) (v : V) : len (m.insert k v) = m.len := by
  rw [len_eq_card_keys, len_eq_card_keys]
  congr 1
  ext k'
  rw [mem_keys, mem_insert]
  constructor
  · rintro (rfl | h') <;> assumption
  · exact .inr

/-- Deleting a key that is present removes one entry. -/
lemma len_erase_of_mem (h : k ∈ m) : len (m.erase k) + 1 = m.len := by
  rw [len_eq_card_keys, len_eq_card_keys, keys_erase]
  exact Finset.card_erase_add_one (mem_keys.mpr h)

/-- A map without entries has length zero. -/
lemma len_eq_zero (h : ∀ k, m.lookup k = none) : m.len = 0 := by
  have hempty : m = ∅ := ext_lookup fun k => by rw [h k, lookup_empty]
  rw [hempty, len_empty]

omit [DecidableEq K] in
/-- A map whose keys all occur in another one has no more entries. -/
lemma len_le_of_keys {m' : FMap K V} (h : ∀ k, k ∈ m' → k ∈ m) : m'.len ≤ m.len := by
  rw [len_eq_card_keys, len_eq_card_keys]
  refine Finset.card_le_card fun k hk => ?_
  exact mem_keys.mpr (h k (mem_keys.mp hk))

/-- A union has no more entries than its parts together. -/
lemma len_union_le (m m' : FMap K V) : len (m ∪ m') ≤ m.len + m'.len := by
  rw [len_eq_card_keys, len_eq_card_keys, len_eq_card_keys, keys_union]
  exact Finset.card_union_le _ _

/-! ### Totals over the values -/

/-- The sum of `f` over the values. -/
def total (m : FMap K V) (f : V → ℕ) : ℕ := (m.entries.map fun e => f e.2).sum

lemma total_insert_of_notMem (h : k ∉ m) (v : V) (f : V → ℕ) :
    total (m.insert k v) f = f v + m.total f := by
  rw [total, entries_insert_of_notMem h, map_cons, sum_cons, total]

/-- A total with one entry taken out. -/
lemma total_eq_add_erase (h : m.lookup k = some v) (f : V → ℕ) :
    m.total f = f v + total (m.erase k) f := by
  have hm : m = (m.erase k).insert k v := by
    apply ext_lookup
    intro k'
    rw [lookup_insert_ite, lookup_erase_ite]
    by_cases hk : k' = k
    · rw [if_pos hk, hk, h]
    · rw [if_neg hk, if_neg hk]
  conv_lhs => rw [hm]
  exact total_insert_of_notMem (by simp) v f

/-- An insertion exchanges the old value's share, if there was one, for the new value's. -/
lemma total_insert (m : FMap K V) (k : K) (v : V) (f : V → ℕ) :
    total (m.insert k v) f + ((m.lookup k).elim 0 f) = m.total f + f v := by
  cases h : m.lookup k with
  | none =>
    have hk : k ∉ m := lookup_eq_none.mp h
    rw [total_insert_of_notMem hk, elim_none]
    omega
  | some old =>
    have herase : (m.insert k v).erase k = m.erase k := by
      apply ext_lookup
      intro k'
      rw [lookup_erase_ite, lookup_erase_ite]
      by_cases hk : k' = k <;> simp [hk]
    rw [total_eq_add_erase (lookup_insert m) f, herase, total_eq_add_erase h f, elim_some]
    omega

/-- A total of nothing but zeros. -/
lemma total_eq_zero {f : V → ℕ} (h : ∀ k v, m.lookup k = some v → f v = 0) : m.total f = 0 := by
  rw [total, sum_eq_zero_iff]
  intro n hn
  obtain ⟨⟨k, v⟩, he, rfl⟩ := mem_map.mp hn
  exact h k v (mem_lookup_iff.mpr he)

omit [DecidableEq K] in
/-- A deletion by a test does not raise a total. -/
lemma total_filter_le (m : FMap K V) (p : K → V → Bool) (f : V → ℕ) :
    (m.filter p).total f ≤ m.total f := by
  obtain ⟨rest, hrest⟩ := Multiset.le_iff_exists_add.mp
    (filter_le (fun e => p e.1 e.2) m.entries)
  rw [total, total, hrest, map_add, sum_add]
  exact Nat.le_add_right _ _

/-! ### Iteration order -/

/-- An order in which a loop over a map may visit its keys: each key once. The order may depend on
the map in any way. -/
structure RangeOrder (K V : Type) where
  /-- the keys in the order in which they are visited -/
  keys : FMap K V → List K
  /-- no key is visited twice -/
  nodup : ∀ m, (keys m).Nodup
  /-- exactly the keys of the map are visited -/
  mem_keys : ∀ m k, k ∈ keys m ↔ k ∈ m

/-- The keys in ascending order. -/
def RangeOrder.ascending [LinearOrder K] : RangeOrder K V where
  keys m := m.keys.sort
  nodup m := Finset.sort_nodup _ _
  mem_keys m k := by rw [Finset.mem_sort, Finmap.mem_keys]

end FMap

open FMap

/-! ## Maps to finite sets -/

/-- A finite map from `K` to finite sets over `A`. -/
abbrev SetMap (K A : Type) := FMap K (Finset A)

namespace SetMap

variable {K A : Type} [DecidableEq K]

/-- The set at a key; an absent key reads as the empty set. -/
def elems (m : SetMap K A) (k : K) : Finset A := (m.lookup k).getD ∅

/-- No key holds the empty set. -/
def NoEmpty (m : SetMap K A) : Prop := ∀ k s, m.lookup k = some s → s ≠ ∅

variable {m : SetMap K A} {k k' : K} {a b : A} {s : Finset A} {ks : Finset K}

lemma elems_of_lookup (h : m.lookup k = some s) : m.elems k = s := by
  simp [SetMap.elems, h]

/-- Membership in the set at a key, through `lookup`. -/
lemma mem_elems : a ∈ m.elems k ↔ ∃ s, m.lookup k = some s ∧ a ∈ s := by
  unfold SetMap.elems
  cases h : m.lookup k <;> simp

@[simp] lemma elems_empty (k : K) : SetMap.elems (∅ : SetMap K A) k = ∅ := by
  simp [SetMap.elems]

lemma noEmpty_empty : NoEmpty (∅ : SetMap K A) := by
  intro k s h
  simp at h

/-- Where no empty set is kept, a key is present exactly when its set has an element. -/
lemma NoEmpty.mem_iff (h : m.NoEmpty) (k : K) : k ∈ m ↔ (m.elems k).Nonempty := by
  rw [Finmap.mem_iff]
  constructor
  · rintro ⟨s, hs⟩
    rw [elems_of_lookup hs]
    exact Finset.nonempty_iff_ne_empty.mpr (h k s hs)
  · rintro ⟨a, ha⟩
    cases hs : m.lookup k with
    | none => simp [SetMap.elems, hs] at ha
    | some s => exact ⟨s, rfl⟩

/-- Dropping a whole key. -/
lemma elems_erase (m : SetMap K A) (k k' : K) :
    SetMap.elems (m.erase k) k' = if k' = k then ∅ else m.elems k' := by
  unfold SetMap.elems
  rw [lookup_erase_ite]
  by_cases h : k' = k <;> simp [h]

lemma NoEmpty.erase (h : m.NoEmpty) (k : K) : NoEmpty (m.erase k) :=
  fun k' s hs => h k' s (lookup_of_lookup_erase hs)

variable [DecidableEq A]

/-- Put `a` into the set at `k`, creating the set if the key is absent. -/
def add (m : SetMap K A) (k : K) (a : A) : SetMap K A := m.insert k (insert a (m.elems k))

/-- Take `a` out of the set at `k`; a set that became empty is dropped with its key. -/
def remove (m : SetMap K A) (k : K) (a : A) : SetMap K A :=
  match m.lookup k with
  | none => m
  | some s => if s.erase a = ∅ then m.erase k else m.insert k (s.erase a)

lemma elems_add (m : SetMap K A) (k k' : K) (a : A) :
    (m.add k a).elems k' = if k' = k then insert a (m.elems k) else m.elems k' := by
  rw [SetMap.elems, add, lookup_insert_ite]
  by_cases h : k' = k
  · simp [h]
  · simp [h, SetMap.elems]

lemma elems_remove (m : SetMap K A) (k k' : K) (a : A) :
    (m.remove k a).elems k' = if k' = k then (m.elems k).erase a else m.elems k' := by
  unfold remove
  cases hs : m.lookup k with
  | none =>
    by_cases h : k' = k
    · subst h
      simp [SetMap.elems, hs]
    · simp [h]
  | some s =>
    by_cases he : s.erase a = ∅
    · simp only [he, if_true, elems_erase]
      by_cases h : k' = k
      · simp [h, elems_of_lookup hs, he]
      · simp [h]
    · simp only [he, if_false]
      rw [SetMap.elems, lookup_insert_ite]
      by_cases h : k' = k
      · simp [h, elems_of_lookup hs]
      · simp [h, SetMap.elems]

lemma mem_elems_add : b ∈ (m.add k a).elems k' ↔ (k' = k ∧ b = a) ∨ b ∈ m.elems k' := by
  rw [elems_add]
  by_cases h : k' = k
  · subst h
    simp
  · simp [h]

lemma mem_elems_remove : b ∈ (m.remove k a).elems k' ↔ b ∈ m.elems k' ∧ ¬(k' = k ∧ b = a) := by
  rw [elems_remove]
  by_cases h : k' = k
  · subst h
    simp [and_comm]
  · simp [h]

theorem NoEmpty.add (h : m.NoEmpty) (k : K) (a : A) : (m.add k a).NoEmpty := by
  intro k' s hs
  rcases lookup_insert_eq_some.mp hs with ⟨-, rfl⟩ | ⟨-, hold⟩
  · exact Finset.insert_ne_empty a _
  · exact h k' s hold

theorem NoEmpty.remove (h : m.NoEmpty) (k : K) (a : A) : (m.remove k a).NoEmpty := by
  unfold SetMap.remove
  cases hs : m.lookup k with
  | none => exact h
  | some s =>
    by_cases he : s.erase a = ∅
    · simpa [he] using h.erase k
    · simp only [he, if_false]
      intro k' s' hs'
      rcases lookup_insert_eq_some.mp hs' with ⟨-, rfl⟩ | ⟨-, hold⟩
      · exact he
      · exact h k' s' hold

/-- Take `a` out of the set at every key of `ks`, dropping the sets that became empty: the effect of
`remove` at each key of `ks`, in any order. -/
def removeAll (m : SetMap K A) (ks : Finset K) (a : A) : SetMap K A :=
  (m.mapVals fun k s => if k ∈ ks then s.erase a else s).filter
    fun k s => !(decide (k ∈ ks) && decide (s = ∅))

lemma lookup_removeAll_eq_some :
    (m.removeAll ks a).lookup k = some s ↔
      ∃ t, m.lookup k = some t ∧ (if k ∈ ks then t.erase a else t) = s ∧ ¬(k ∈ ks ∧ s = ∅) := by
  rw [removeAll, lookup_filter_eq_some, lookup_mapVals, map_eq_some_iff]
  simp only [Bool.not_eq_true', Bool.and_eq_false_iff, decide_eq_false_iff_not, not_and_or]
  constructor
  · rintro ⟨⟨t, ht, hts⟩, hs⟩
    exact ⟨t, ht, hts, hs⟩
  · rintro ⟨t, ht, hts, hs⟩
    exact ⟨⟨t, ht, hts⟩, hs⟩

lemma mem_elems_removeAll :
    b ∈ (m.removeAll ks a).elems k ↔ b ∈ m.elems k ∧ ¬(k ∈ ks ∧ b = a) := by
  rw [mem_elems, mem_elems]
  constructor
  · rintro ⟨s, hs, hb⟩
    obtain ⟨t, ht, rfl, -⟩ := lookup_removeAll_eq_some.mp hs
    by_cases hk : k ∈ ks
    · simp only [hk, if_true, Finset.mem_erase] at hb
      exact ⟨⟨t, ht, hb.2⟩, fun h => hb.1 h.2⟩
    · simp only [hk, if_false] at hb
      exact ⟨⟨t, ht, hb⟩, fun h => hk h.1⟩
  rintro ⟨⟨t, ht, hb⟩, hne⟩
  refine ⟨if k ∈ ks then t.erase a else t, ?_, ?_⟩
  · rw [lookup_removeAll_eq_some]
    refine ⟨t, ht, rfl, ?_⟩
    rintro ⟨hk, he⟩
    -- `b` itself witnesses that the set did not become empty
    have hbmem : b ∈ t.erase a := Finset.mem_erase.mpr ⟨fun h => hne ⟨hk, h⟩, hb⟩
    rw [if_pos hk] at he
    rw [he] at hbmem
    simp at hbmem
  · by_cases hk : k ∈ ks
    · simp only [hk, if_true, Finset.mem_erase]
      exact ⟨fun h => hne ⟨hk, h⟩, hb⟩
    · simpa only [hk, if_false] using hb

theorem NoEmpty.removeAll (h : m.NoEmpty) (ks : Finset K) (a : A) : (m.removeAll ks a).NoEmpty := by
  intro k s hs
  obtain ⟨t, ht, rfl, hne⟩ := lookup_removeAll_eq_some.mp hs
  by_cases hk : k ∈ ks
  · exact fun he => hne ⟨hk, he⟩
  · simpa only [hk, if_false] using h k t ht

end SetMap

end Voicx.Found
