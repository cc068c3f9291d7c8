import Mathlib.Tactic

/-!
# Programs that read a store

A computation that issues reads against a store it does not own, one after the other, each depending
on the answers so far. Between two reads the store may change.

* `ReadProg D α` — the program: finished with a result, or a read and what to do with its answer.
* `ReadProg.eval` — its result where the store stands still.
* `ReadProg.forEach` — one program per element of a list, in order.
-/

namespace Voicx.Found

/-- A program that reads a store of type `D` and ends with a result of type `α`. -/
inductive ReadProg (D α : Type) : Type 1
  | done (a : α) : ReadProg D α
  | read {β : Type} (q : D → β) (k : β → ReadProg D α) : ReadProg D α

namespace ReadProg

variable {D α β : Type}

/-- Sequencing. -/
def bind : ReadProg D α → (α → ReadProg D β) → ReadProg D β
  | done a, f => f a
  | read q k, f => read q fun b => (k b).bind f

instance : Monad (ReadProg D) where
  pure := done
  bind := bind

/-- A single read. -/
def ask (q : D → α) : ReadProg D α := read q done

/-- The result where the store stands still at `d`. -/
def eval (d : D) : ReadProg D α → α
  | done a => a
  | read q k => (k (q d)).eval d

@[simp] lemma eval_pure (d : D) (a : α) : (pure a : ReadProg D α).eval d = a := rfl

@[simp] lemma eval_ask (d : D) (q : D → α) : (ask q).eval d = q d := rfl

@[simp] lemma eval_bind (d : D) (p : ReadProg D α) (f : α → ReadProg D β) :
    (p >>= f).eval d = (f (p.eval d)).eval d := by
  induction p with
  | done a => rfl
  | read q k ih => exact ih (q d)

/-- Run one program per element of a list and collect the results. -/
def forEach (f : α → ReadProg D β) : List α → ReadProg D (List β)
  | [] => pure []
  | a :: as => do
    let b ← f a
    let bs ← forEach f as
    pure (b :: bs)

@[simp] lemma eval_forEach (d : D) (f : α → ReadProg D β) (as : List α) :
    (forEach f as).eval d = as.map fun a => (f a).eval d := by
  induction as with
  | nil => rfl
  | cons a as ih => simp [forEach, ih]

end ReadProg

end Voicx.Found
