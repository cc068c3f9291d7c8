import Mathlib.Logic.Function.Basic
import Voicx.Found.Run

/-!
# Retries of a chat message

The attempts to send one message: `StoreChatMessage` inserts one row for a client message id, and
`routeScopedChat` relays the message if its own call has inserted the row.

* `Log.step` — the attempts, in single statements.
* `retries_deliver` — **one row and one relay at most**, and the message was relayed if an attempt
  has ended without an error, in every run in which no insert is committed with an error and no
  retry is answered before the attempt that stored the message has relayed it.

What comes before the store can only end an attempt with an error. Marshalling does not fail.
-/

namespace Voicx.Chat.Retries

open Found Function

/-- How far an attempt is. `conflicted`: the insert gave no row. `ended`: without an error reply. -/
inductive Stage
  | started
  | conflicted
  | inserted
  | ended
  | refused
  deriving DecidableEq

/-- A row has the number of the attempt that inserted it. -/
structure Log where
  rows : List ℕ := []
  stage : ℕ → Stage := fun _ => .started
  relays : ℕ := 0

inductive Event
  | refuse (k : ℕ)
  | insert (k : ℕ) (committed reported : Bool)
  | select (k : ℕ) (found : Bool)
  | relay (k : ℕ)

namespace Log

def set (s : Log) (k : ℕ) (stage : Stage) : Log := { s with stage := update s.stage k stage }

/-- Source: `internal/server/chatx.go`, `routeScopedChat`; `internal/store/chat.go`,
`StoreChatMessage` -/
def step (s : Log) : Event → Log
  | .refuse k => if s.stage k = .started then s.set k .refused else s
  | .insert k committed reported =>
    if s.stage k = .started then
      let stored := if s.rows = [] then .inserted else .conflicted
      { s.set k (if committed ∧ reported then stored else .refused) with
        rows := if committed ∧ s.rows = [] then [k] else s.rows }
    else s
  | .select k found =>
    if s.stage k = .conflicted then s.set k (if found then .ended else .refused) else s
  | .relay k =>
    if s.stage k = .inserted then { s.set k .ended with relays := s.relays + 1 } else s

/-- No insert is committed with an error, and no retry is answered before the relay. -/
def Answers (s : Log) : Event → Prop
  | .insert _ committed reported => committed → ¬reported → s.rows ≠ []
  | .select _ _ => ∀ k ∈ s.rows, s.stage k ≠ .inserted
  | _ => True

/-- The row is of an attempt that relays the message; in a `clean` run it has done so before any
attempt ends without an error. -/
structure Inv (clean : Prop) (s : Log) : Prop where
  rows : s.rows.length ≤ 1
  relays : s.relays ≤ 1
  unsent : s.rows = [] → s.relays = 0
  inserted : ∀ k, s.stage k = .inserted → s.rows = [k] ∧ s.relays = 0
  conflicted : ∀ k, s.stage k = .conflicted → s.rows ≠ []
  stored : clean → ∀ k ∈ s.rows, s.stage k = .inserted ∨ s.relays = 1
  ended : clean → ∀ k, s.stage k = .ended → s.relays = 1

variable {s : Log} {clean : Prop} {k : ℕ}

lemma stage_set (s : Log) (k : ℕ) (stage : Stage) (j : ℕ) :
    (s.set k stage).stage j = if j = k then stage else s.stage j := update_apply ..

/-- An attempt that has not inserted the row goes on. -/
lemma Inv.set (h : s.Inv clean) {stage : Stage} (hold : s.stage k ≠ .inserted)
    (hnew : stage ≠ .inserted) (hconflict : stage = .conflicted → s.rows ≠ [])
    (hended : clean → stage = .ended → s.relays = 1) : (s.set k stage).Inv clean := by
  refine ⟨h.rows, h.relays, h.unsent, fun j hj => ?_, fun j hj => ?_, fun hclean j hj => ?_,
    fun hclean j hj => ?_⟩
  · rw [stage_set] at hj
    split_ifs at hj
    · exact absurd hj hnew
    · exact h.inserted j hj
  · rw [stage_set] at hj
    split_ifs at hj
    · exact hconflict hj
    · exact h.conflicted j hj
  · refine (h.stored hclean j hj).imp_left fun hinserted => ?_
    have hne : j ≠ k := by
      rintro rfl
      exact hold hinserted
    rw [stage_set, if_neg hne]
    exact hinserted
  · rw [stage_set] at hj
    split_ifs at hj
    · exact hended hclean hj
    · exact h.ended hclean j hj

/-- The first insert that is committed. Nobody has inserted or met a row before; in a clean run the
attempt is told, and is going to relay the message. -/
lemma Inv.addRow (h : s.Inv clean) (hempty : s.rows = []) {stage : Stage}
    (hstage : stage = .inserted ∨ stage = .refused) (hclean : clean → stage = .inserted) :
    Inv clean { s.set k stage with rows := [k] } where
  rows := le_refl 1
  relays := h.relays
  unsent hnil := absurd hnil (List.cons_ne_nil _ _)
  inserted j hj := by
    simp only [stage_set] at hj
    split_ifs at hj with hjk
    · exact ⟨by rw [hjk], h.unsent hempty⟩
    · exact absurd ((h.inserted j hj).1.symm.trans hempty) (List.cons_ne_nil _ _)
  conflicted j _ := List.cons_ne_nil _ _
  stored hc j hj := by
    rw [List.mem_singleton.mp hj]
    exact .inl ((stage_set s k stage k).trans ((if_pos rfl).trans (hclean hc)))
  ended hc j hj := by
    simp only [stage_set] at hj
    split_ifs at hj
    · rcases hstage with rfl | rfl <;> cases hj
    · exact h.ended hc j hj

/-- The attempt that inserted the row relays the message. -/
lemma Inv.relay (h : s.Inv clean) (hk : s.stage k = .inserted) :
    Inv clean { s.set k .ended with relays := s.relays + 1 } := by
  obtain ⟨hrow, hnone⟩ := h.inserted k hk
  have hrelayed : s.relays + 1 = 1 := by rw [hnone]
  refine ⟨h.rows, hrelayed.le, fun hnil => ?_, fun j hj => ?_, fun j hj => ?_,
    fun _ _ _ => .inr hrelayed, fun _ _ _ => hrelayed⟩
  · exact absurd (hrow.symm.trans hnil) (List.cons_ne_nil _ _)
  · simp only [stage_set] at hj
    split_ifs at hj with hjk
    exact absurd (List.cons.inj ((h.inserted j hj).1.symm.trans hrow)).1 hjk
  · simp only [stage_set] at hj
    split_ifs at hj
    exact h.conflicted j hj

/-- Every step keeps the invariant, a clean one if its answer is. -/
lemma Inv.step (h : s.Inv clean) (e : Event) (hok : clean → s.Answers e) :
    (s.step e).Inv clean := by
  unfold Log.step
  cases e with
  | refuse k =>
    dsimp only
    split_ifs with hk
    · exact h.set (by simp [hk]) nofun nofun nofun
    · exact h
  | insert k committed reported =>
    by_cases hk : s.stage k = .started
    · by_cases hadd : committed = true ∧ s.rows = []
      · simp only [if_pos hk, hadd.1, hadd.2, if_true, true_and]
        refine h.addRow hadd.2 ?_ fun hclean => if_pos ?_
        · split_ifs <;> simp
        · by_contra hlost
          exact hok hclean hadd.1 hlost hadd.2
      · simp only [if_pos hk, if_neg hadd]
        exact h.set (by simp [hk]) (by grind) (by grind) (by grind)
    · simpa only [if_neg hk] using h
  | select k found =>
    dsimp only
    split_ifs with hk hfound
    · refine h.set (by simp [hk]) nofun nofun fun hclean _ => ?_
      -- where there is a conflict there is a row, and in a clean run it has been relayed
      obtain ⟨j, hj⟩ := List.exists_mem_of_ne_nil _ (h.conflicted k hk)
      exact (h.stored hclean j hj).resolve_left (hok hclean j hj)
    · exact h.set (by simp [hk]) nofun nofun nofun
    · exact h
  | relay k =>
    dsimp only
    split_ifs with hk
    · exact h.relay hk
    · exact h

end Log

open Log

/-- **One row and one relay at most**, in every run; and if no insert is committed with an error and
no retry is answered before the attempt that stored the message has relayed it, then the message was
relayed if an attempt has ended without an error. -/
theorem retries_deliver (events : List Event) :
    Throughout step (fun s => s.rows.length ≤ 1 ∧ s.relays ≤ 1) {} events ∧
      (StepsOK step Answers {} events →
        Throughout step (fun s => ∀ k, s.stage k = .ended → s.relays = 1) {} events) := by
  have hstart : ∀ clean, Inv clean {} := fun clean => by constructor <;> simp
  constructor
  · exact (throughout_of_step (fun s e h => h.step e False.elim) (hstart False) events).mono
      fun s h => ⟨h.rows, h.relays⟩
  · intro hok
    exact (throughout_of_stepsOK (fun s e h hok => h.step e fun _ => hok) (hstart True) hok).mono
      fun s h => h.ended trivial

/-- The message is inserted and relayed, and a retry is answered after that. -/
theorem retries_deliver_relayed :
    Throughout step (fun s => ∀ k, s.stage k = .ended → s.relays = 1) {}
      [.insert 0 true true, .relay 0, .insert 1 true true, .select 1 true] := by
  refine (retries_deliver _).2 ⟨by simp [Answers], trivial, by simp [Answers], ?_, trivial⟩
  intro k hk
  rw [List.mem_singleton.mp hk]
  nofun

/-- The insert is committed and reported as failed; the retry ends without an error. -/
theorem stored_and_not_relayed :
    let s := run step {} [.insert 0 true false, .insert 1 true true, .select 1 true]
    s.stage 0 = .refused ∧ s.stage 1 = .ended ∧ s.relays = 0 := ⟨rfl, rfl, rfl⟩

end Voicx.Chat.Retries
