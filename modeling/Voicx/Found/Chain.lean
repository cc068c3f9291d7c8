import Mathlib.Data.List.TakeWhile
import Mathlib.Tactic

/-!
# Bounded chains of a partial successor function

Following a partial function `up` from an element, at most so many times: parent pointers of a tree,
links of a list, any walk that a program bounds by a counter.

* `chain up n a` — the elements met, nearest first.
* `cons_chain_split` — a chain seen from one of its elements, and how it continues once the function
  is changed there and nowhere else.
* `transGen_of_mem_chain` — what a chain meets is reachable.
* `Link`, `Nearest` — the unbounded notions: one step, and the first element on the way up that has
  a property. `mem_chain_or_beyond` places everything reachable in the chain or behind all of it.
* `findSome?_chain_nearest_iff` — a search along the chain finds the nearest element exactly when
  the bound hides nothing that the chain does not show as well.
-/

namespace Voicx.Found

open List Relation

variable {α : Type*}

/-- The elements reached from `a` by at most `n` steps of `up`, nearest first. -/
def chain (up : α → Option α) : ℕ → α → List α
  | 0, _ => []
  | n + 1, a =>
    match up a with
    | none => []
    | some b => b :: chain up n b

variable {up up' : α → Option α} {n : ℕ} {a b e : α}

@[simp] lemma chain_zero : chain up 0 a = [] := rfl

lemma chain_succ_of_none (h : up a = none) : chain up (n + 1) a = [] := by
  rw [chain, h]

lemma chain_succ_of_some (h : up a = some b) : chain up (n + 1) a = b :: chain up n b := by
  rw [chain, h]

/-- Two functions that agree on what a chain meets have the same chain. -/
lemma chain_congr (h : ∀ x ∈ a :: chain up n a, up' x = up x) : chain up' n a = chain up n a := by
  induction n generalizing a with
  | zero => rfl
  | succ n ih =>
    have ha : up' a = up a := h a mem_cons_self
    cases hup : up a with
    | none => rw [chain_succ_of_none hup, chain_succ_of_none (ha.trans hup)]
    | some b =>
      rw [chain_succ_of_some hup] at h
      rw [chain_succ_of_some hup, chain_succ_of_some (ha.trans hup),
        ih fun x hx => h x (mem_cons_of_mem a hx)]

/-- What a chain meets is reachable by steps of the function. -/
theorem transGen_of_mem_chain (h : b ∈ chain up n a) : TransGen (fun x y => up x = some y) a b := by
  induction n generalizing a with
  | zero => cases h
  | succ n ih =>
    cases hup : up a with
    | none => simp [chain_succ_of_none hup] at h
    | some c =>
      rw [chain_succ_of_some hup] at h
      rcases mem_cons.mp h with rfl | hmem
      · exact TransGen.single hup
      · exact TransGen.head hup (ih hmem)

/-! ### The unbounded walk -/

/-- One step of the function. -/
def Link (up : α → Option α) (x y : α) : Prop := up x = some y

/-- `b` is the first element on the way up from `a`, `a` included, that has the property. -/
def Nearest (up : α → Option α) (P : α → Prop) (a b : α) : Prop :=
  ReflTransGen (Link up) a b ∧ P b ∧
    ∀ x, ReflTransGen (Link up) a x → P x → ReflTransGen (Link up) b x

/-- A walk ends where it starts, or goes on from the only next element. -/
lemma reflTransGen_link_cases (h : ReflTransGen (Link up) a e) :
    e = a ∨ ∃ b, up a = some b ∧ ReflTransGen (Link up) b e := by
  rcases ReflTransGen.cases_head h with rfl | ⟨b, hab, hbe⟩
  · exact .inl rfl
  · exact .inr ⟨b, hab, hbe⟩

lemma reflTransGen_of_mem_cons_chain (h : b ∈ a :: chain up n a) :
    ReflTransGen (Link up) a b := by
  rcases mem_cons.mp h with rfl | hmem
  · exact ReflTransGen.refl
  · exact (transGen_of_mem_chain hmem).to_reflTransGen

/-- Everything reachable is met by the chain or lies behind all of it. -/
theorem mem_chain_or_beyond (h : ReflTransGen (Link up) a e) (n : ℕ) :
    e ∈ a :: chain up n a ∨ ∀ x ∈ a :: chain up n a, ReflTransGen (Link up) x e := by
  induction n generalizing a with
  | zero =>
    right
    intro x hx
    rw [chain_zero, mem_singleton] at hx
    exact hx ▸ h
  | succ n ih =>
    rcases reflTransGen_link_cases h with rfl | ⟨b, hab, hbe⟩
    · exact .inl mem_cons_self
    rw [chain_succ_of_some hab]
    rcases ih hbe with hmem | hbeyond
    · exact .inl (mem_cons_of_mem a hmem)
    · right
      intro x hx
      rcases mem_cons.mp hx with rfl | hx
      · exact h
      · exact hbeyond x hx

/-- What has the property somewhere on the way up has a nearest element. -/
lemma exists_nearest {P : α → Prop} (h : ReflTransGen (Link up) a e) (he : P e) :
    ∃ b, Nearest up P a b := by
  induction h using ReflTransGen.head_induction_on with
  | refl => exact ⟨e, ReflTransGen.refl, he, fun x hx _ => hx⟩
  | @head a c hac _ ih =>
    by_cases ha : P a
    · exact ⟨a, ReflTransGen.refl, ha, fun x hx _ => hx⟩
    obtain ⟨b, hcb, hb, hfirst⟩ := ih
    refine ⟨b, ReflTransGen.head hac hcb, hb, fun x hx hPx => ?_⟩
    rcases reflTransGen_link_cases hx with rfl | ⟨c', hac', hcx⟩
    · exact absurd hPx ha
    · -- the function has one value at `a`, so the walk to `x` also goes through `c`
      cases hac.symm.trans hac'
      exact hfirst x hcx hPx

/-- In a structure without cycles the nearest element is unique. -/
theorem Nearest.unique {P : α → Prop} {b' : α} (hacyclic : ∀ x, ¬TransGen (Link up) x x)
    (h : Nearest up P a b) (h' : Nearest up P a b') : b = b' := by
  have hbb' : ReflTransGen (Link up) b b' := h.2.2 b' h'.1 h'.2.1
  have hb'b : ReflTransGen (Link up) b' b := h'.2.2 b h.1 h.2.1
  rcases reflTransGen_iff_eq_or_transGen.mp hbb' with heq | htrans
  · exact heq.symm
  · exact absurd (htrans.trans_left hb'b) (hacyclic b)

section search

variable {β : Type*} {f : α → Option β}

/-- The first hit of a search along the chain is the nearest element with a value. -/
lemma nearest_of_findSome?_chain {v : β} (h : (a :: chain up n a).findSome? f = some v) :
    ∃ b, Nearest up (fun x => (f x).isSome) a b ∧ f b = some v := by
  induction n generalizing a with
  | zero =>
    have hfa : f a = some v := by simpa using h
    exact ⟨a, ⟨ReflTransGen.refl, by simp [hfa], fun x hx _ => hx⟩, hfa⟩
  | succ n ih =>
    cases hfa : f a with
    | some w =>
      rw [List.findSome?_cons, hfa] at h
      exact ⟨a, ⟨ReflTransGen.refl, by simp [hfa], fun x hx _ => hx⟩, hfa.trans h⟩
    | none =>
      rw [List.findSome?_cons, hfa] at h
      cases hup : up a with
      | none => simp [chain_succ_of_none hup] at h
      | some c =>
        rw [chain_succ_of_some hup] at h
        obtain ⟨b, ⟨hcb, hb, hfirst⟩, hv⟩ := ih h
        refine ⟨b, ⟨ReflTransGen.head hup hcb, hb, fun x hx hPx => ?_⟩, hv⟩
        rcases reflTransGen_link_cases hx with rfl | ⟨c', hac', hcx⟩
        · simp [hfa] at hPx
        · cases hup.symm.trans hac'
          exact hfirst x hcx hPx

/-- **What a bounded search sees.** Without cycles, a search along the chain finds the value of the
nearest element of the whole way up if and only if the elements the bound cuts off have a value only
where an element of the chain has one too. -/
theorem findSome?_chain_nearest_iff (hacyclic : ∀ x, ¬TransGen (Link up) x x) :
    (∀ v, (a :: chain up n a).findSome? f = some v ↔
        ∃ b, Nearest up (fun x => (f x).isSome) a b ∧ f b = some v) ↔
      ∀ x, ReflTransGen (Link up) a x → x ∉ a :: chain up n a → (f x).isSome →
        ∃ y ∈ a :: chain up n a, (f y).isSome := by
  constructor
  · intro hsearch x hx _ hfx
    obtain ⟨b, hb⟩ := exists_nearest (P := fun x => (f x).isSome) hx hfx
    obtain ⟨v, hv⟩ := Option.isSome_iff_exists.mp hb.2.1
    have hfound := (hsearch v).mpr ⟨b, hb, hv⟩
    obtain ⟨y, hy, hfy⟩ := exists_of_findSome?_eq_some hfound
    exact ⟨y, hy, by simp [hfy]⟩
  intro hshown v
  refine ⟨nearest_of_findSome?_chain, ?_⟩
  rintro ⟨b, hb, hv⟩
  -- the chain shows some element with a value, so the search ends at a nearest element
  obtain ⟨y, hy, hfy⟩ : ∃ y ∈ a :: chain up n a, (f y).isSome := by
    by_cases hmem : b ∈ a :: chain up n a
    · exact ⟨b, hmem, hb.2.1⟩
    · exact hshown b hb.1 hmem hb.2.1
  have hsome : ((a :: chain up n a).findSome? f).isSome :=
    List.findSome?_isSome_iff.mpr ⟨y, hy, hfy⟩
  obtain ⟨w, hw⟩ := Option.isSome_iff_exists.mp hsome
  obtain ⟨b', hb', hw'⟩ := nearest_of_findSome?_chain hw
  obtain rfl := hb.unique hacyclic hb'
  rw [hw, ← hw', hv]

end search

variable [DecidableEq α]

/-- **A chain seen from one of its elements.** If `e` is met from `a`, and `up'` differs from `up`
at most at `e`, then the chain of `up'` from `a` is the same up to `e` and continues as the chain of
`up'` from there, with the steps that are left. -/
theorem cons_chain_split (hup : ∀ x, x ≠ e → up' x = up x) (he : e ∈ a :: chain up n a) :
    a :: chain up' n a =
      (a :: chain up n a).takeWhile (fun x => x ≠ e) ++
        e :: chain up' (n - ((a :: chain up n a).takeWhile fun x => x ≠ e).length) e := by
  induction n generalizing a with
  | zero =>
    have hae : e = a := by simpa using he
    subst hae
    simp
  | succ n ih =>
    by_cases hae : a = e
    · subst hae
      simp
    have hmem : e ∈ chain up (n + 1) a := (mem_cons.mp he).resolve_left fun h => hae h.symm
    cases hstep : up a with
    | none =>
      rw [chain_succ_of_none hstep] at hmem
      cases hmem
    | some b =>
      rw [chain_succ_of_some hstep] at hmem
      rw [chain_succ_of_some hstep, chain_succ_of_some ((hup a hae).trans hstep),
        takeWhile_cons_of_pos (by simpa using hae), cons_append, length_cons,
        Nat.add_sub_add_right, ← ih hmem]

end Voicx.Found
