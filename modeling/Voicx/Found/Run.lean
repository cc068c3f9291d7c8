import Mathlib.Tactic

/-!
# Runs of a step function

A machine is a step function `step : σ → ι → σ`; a run is a list of inputs.

* `run step s is` — the state after the inputs `is`.
* `Throughout step P s is` — `P` holds at the start and after every step of the run.
* `StepsOK step ok s is` — every step of the run meets the condition `ok` at the state it starts
  from. Conditions of this form say which inputs a run may contain.
* `throughout_of_stepsOK` — the invariant rule: what a step that meets the condition preserves holds
  throughout the run.
* `throughout_iff_stepsOK` — the exact form: if a step that meets the condition keeps the invariant
  and a step that does not breaks the property, the property holds throughout a run *if and only if*
  every step meets the condition.
-/

namespace Voicx.Found

open List

variable {σ ι : Type*}

/-- The state after a list of inputs. -/
def run (step : σ → ι → σ) (s : σ) (is : List ι) : σ := is.foldl step s

/-- Every step of the run meets `ok` at the state it starts from. -/
def StepsOK (step : σ → ι → σ) (ok : σ → ι → Prop) : σ → List ι → Prop
  | _, [] => True
  | s, i :: is => ok s i ∧ StepsOK step ok (step s i) is

instance StepsOK.decidable (step : σ → ι → σ) (ok : σ → ι → Prop) [∀ s i, Decidable (ok s i)] :
    ∀ s is, Decidable (StepsOK step ok s is)
  | _, [] => .isTrue trivial
  | s, i :: is =>
    have := StepsOK.decidable step ok (step s i) is
    inferInstanceAs (Decidable (ok s i ∧ StepsOK step ok (step s i) is))

/-- `P` holds at the start and after every step of the run. -/
def Throughout (step : σ → ι → σ) (P : σ → Prop) (s : σ) (is : List ι) : Prop :=
  ∀ pre, pre <+: is → P (run step s pre)

variable {step : σ → ι → σ} {P Inv : σ → Prop} {ok dom : σ → ι → Prop} (s : σ)

@[simp] lemma run_nil : run step s [] = s := rfl

@[simp] lemma run_cons (i : ι) (is : List ι) :
    run step s (i :: is) = run step (step s i) is := rfl

lemma run_append (is js : List ι) :
    run step s (is ++ js) = run step (run step s is) js := foldl_append

@[simp] lemma stepsOK_nil : StepsOK step ok s [] := trivial

@[simp] lemma stepsOK_cons (i : ι) (is : List ι) :
    StepsOK step ok s (i :: is) ↔ ok s i ∧ StepsOK step ok (step s i) is := Iff.rfl

/-- What no step changes. -/
lemma foldl_frame {α : Type*} {g : σ → α} (h : ∀ s i, g (step s i) = g s) (s : σ) (is : List ι) :
    g (is.foldl step s) = g s := by
  induction is generalizing s with
  | nil => rfl
  | cons i is ih => exact (ih _).trans (h s i)

/-- The condition over a run in two parts. -/
lemma stepsOK_append (is js : List ι) :
    StepsOK step ok s (is ++ js) ↔ StepsOK step ok s is ∧ StepsOK step ok (run step s is) js := by
  induction is generalizing s with
  | nil => simp
  | cons i is ih => rw [cons_append, stepsOK_cons, stepsOK_cons, ih, run_cons, and_assoc]

variable {s : σ} {is : List ι}

/-- A weaker condition on the same run. -/
lemma StepsOK.mono (hok : ∀ s i, ok s i → dom s i) (h : StepsOK step ok s is) :
    StepsOK step dom s is := by
  induction is generalizing s with
  | nil => trivial
  | cons i is ih => exact ⟨hok s i h.1, ih h.2⟩

/-- A condition on the inputs alone. -/
lemma StepsOK.of_mem {p : ι → Prop} (h : ∀ i ∈ is, p i) : StepsOK step (fun _ i => p i) s is := by
  induction is generalizing s with
  | nil => trivial
  | cons i is ih => exact ⟨h i mem_cons_self, ih fun j hj => h j (mem_cons_of_mem i hj)⟩

/-- Two conditions on the same run. -/
theorem StepsOK.and (h : StepsOK step dom s is) (h' : StepsOK step ok s is) :
    StepsOK step (fun s i => dom s i ∧ ok s i) s is := by
  induction is generalizing s with
  | nil => trivial
  | cons i is ih => exact ⟨⟨h.1, h'.1⟩, ih h.2 h'.2⟩

/-- Two conditions that agree on every step inside the domain agree on every run inside it. -/
lemma stepsOK_iff {ok' : σ → ι → Prop} (hkeep : ∀ s i, Inv s → dom s i → Inv (step s i))
    (hiff : ∀ s i, Inv s → dom s i → (ok s i ↔ ok' s i)) {s : σ} (hs : Inv s) {is : List ι}
    (hdom : StepsOK step dom s is) : StepsOK step ok s is ↔ StepsOK step ok' s is := by
  induction is generalizing s with
  | nil => simp
  | cons i is ih =>
    rw [stepsOK_cons, stepsOK_cons, hiff s i hs hdom.1, ih (hkeep s i hs hdom.1) hdom.2]

/-- A property holds throughout a run exactly when it holds at the start and throughout the rest. -/
lemma throughout_cons (s : σ) (i : ι) (is : List ι) :
    Throughout step P s (i :: is) ↔ P s ∧ Throughout step P (step s i) is := by
  constructor
  · intro h
    refine ⟨h [] nil_prefix, fun pre hpre => ?_⟩
    exact h (i :: pre) (cons_prefix_cons.mpr ⟨rfl, hpre⟩)
  rintro ⟨h0, h⟩ pre hpre
  cases pre with
  | nil => exact h0
  | cons j pre =>
    obtain ⟨rfl, htail⟩ := cons_prefix_cons.mp hpre
    exact h pre htail

lemma throughout_nil (s : σ) : Throughout step P s [] ↔ P s := by
  constructor
  · intro h
    exact h [] nil_prefix
  · intro h pre hpre
    rw [prefix_nil.mp hpre]
    exact h

/-- A property that holds throughout a run holds at its end. -/
theorem Throughout.final (h : Throughout step P s is) : P (run step s is) := h is prefix_rfl

/-- A weaker property holds throughout the same run. -/
lemma Throughout.mono {Q : σ → Prop} (hPQ : ∀ s, P s → Q s) (h : Throughout step P s is) :
    Throughout step Q s is :=
  fun pre hpre => hPQ _ (h pre hpre)

/-- **The invariant rule.** What every step that meets the condition preserves holds throughout. -/
theorem throughout_of_stepsOK (hstep : ∀ s i, Inv s → ok s i → Inv (step s i)) (hs : Inv s)
    (hok : StepsOK step ok s is) : Throughout step Inv s is := by
  induction is generalizing s with
  | nil => exact (throughout_nil s).mpr hs
  | cons i is ih =>
    rw [throughout_cons]
    exact ⟨hs, ih (hstep s i hs hok.1) hok.2⟩

/-- The invariant rule for steps without a condition. -/
lemma throughout_of_step (hstep : ∀ s i, Inv s → Inv (step s i)) (hs : Inv s) (is : List ι) :
    Throughout step Inv s is :=
  throughout_of_stepsOK (fun s i h _ => hstep s i h) hs
    (StepsOK.of_mem (p := fun _ => True) fun _ _ => trivial)

/-- **The exact rule.** Over runs inside the domain `dom`: if steps that meet `ok` keep `Inv`, and
a step that does not meet `ok` breaks `P`, then `P` holds throughout a run if and only if every
step meets `ok`. -/
theorem throughout_iff_stepsOK (hP : ∀ s, Inv s → P s)
    (hkeep : ∀ s i, Inv s → dom s i → ok s i → Inv (step s i))
    (hbreak : ∀ s i, Inv s → dom s i → ¬ok s i → ¬P (step s i)) (hs : Inv s)
    (hdom : StepsOK step dom s is) : Throughout step P s is ↔ StepsOK step ok s is := by
  induction is generalizing s with
  | nil => simp [throughout_nil, hP s hs]
  | cons i is ih =>
    rw [throughout_cons]
    by_cases hi : ok s i
    · rw [ih (hkeep s i hs hdom.1 hi) hdom.2]
      simp [hi, hP s hs]
    · -- the first step that fails the condition is where the property is lost
      have hnot : ¬Throughout step P (step s i) is := fun h =>
        hbreak s i hs hdom.1 hi (h [] nil_prefix)
      simp [hi, hnot]

end Voicx.Found
