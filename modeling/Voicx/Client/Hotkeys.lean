import Mathlib.Logic.Function.Basic
import Voicx.Found.Run

/-!
# Hotkey bindings

`applyHotkey` tears the registration of an action down at once and starts a goroutine for the new
chord. The goroutine enters the table later, if no registration of the action is there.

* `applyHotkey`, `advance` — a call, and the next step of a goroutine (`passiveHotkeyLoop` or
  `hotkeyLoop`).
* `last_binding_wins` — **the last call wins** in every run in which no call overtakes a goroutine
  that was started for another chord.

Registrations succeed, and no goroutine panics. The texts of the specs are read by a parameter.
Source names without a file are from `client/hotkeys.go`.
-/

namespace Voicx.Client.Hotkeys

open Found Function List

/-- A goroutine has not looked at the table yet, is in it, has been told to stop, or has
returned. -/
inductive Stage
  | waiting
  | listening
  | stopped
  | returned
  deriving DecidableEq

structure Task (Chord : Type) where
  action : String
  chord : Chord
  stage : Stage

/-- The table has the number of the goroutine that made the registration. `last` is what the last
call for an action asks for.
Source: `App.hotkeys`, `hotkeyReg` -/
structure App (Chord : Type) where
  hotkeys : String → Option ℕ := fun _ => none
  tasks : List (Task Chord) := []
  last : String → Option Chord := fun _ => none

inductive Event
  | apply (action spec : String)
  | advance (k : ℕ)

namespace App

variable {Chord : Type} (parseHotkeySpec : String → Option Chord) (passive : Bool) (a : App Chord)

/-- The chord of a spec; an empty spec unbinds the action. -/
def wanted (spec : String) : Option Chord := if spec = "" then none else parseHotkeySpec spec

/-- The goroutines after the one that registered the action was told to stop.
Source: `hotkeyReg.stop` -/
def stop (action : String) : List (Task Chord) :=
  match a.hotkeys action with
  | none => a.tasks
  | some k => a.tasks.modify k fun t => { t with stage := .stopped }

/-- Source: `applyHotkey` -/
def applyHotkey (action spec : String) : App Chord :=
  let chord := wanted parseHotkeySpec spec
  { hotkeys := update a.hotkeys action none
    tasks := a.stop action ++ (chord.map (⟨action, ·, .waiting⟩)).toList
    last := update a.last action chord }

def setStage (k : ℕ) (t : Task Chord) (stage : Stage) : App Chord :=
  { a with tasks := a.tasks.set k { t with stage } }

/-- The next step of a goroutine. Only a passive one deletes its registration when it returns.
Source: `passiveHotkeyLoop`, `hotkeyLoop` -/
def advance (k : ℕ) : App Chord :=
  match a.tasks[k]? with
  | none => a
  | some t => match t.stage with
    | .waiting =>
      match a.hotkeys t.action with
      | some _ => a.setStage k t .returned
      | none => { a.setStage k t .listening with hotkeys := update a.hotkeys t.action (some k) }
    | .stopped =>
      if passive ∧ a.hotkeys t.action = some k then
        { a.setStage k t .returned with hotkeys := update a.hotkeys t.action none }
      else a.setStage k t .returned
    | .listening | .returned => a

def step (a : App Chord) : Event → App Chord
  | .apply action spec => a.applyHotkey parseHotkeySpec action spec
  | .advance k => a.advance passive k

/-- No goroutine has a step left before the next call. -/
def Settled : Prop := ∀ t ∈ a.tasks, t.stage = .listening ∨ t.stage = .returned

/-- The chord that is registered for an action. -/
def live (action : String) : Option Chord :=
  (a.hotkeys action).bind fun k => a.tasks[k]?.map Task.chord

/-- A call overtakes no goroutine of its action that was started for another chord. -/
def KeepsOrder (a : App Chord) : Event → Prop
  | .apply action spec => ∀ t ∈ a.tasks, t.action = action → t.stage = .waiting →
      wanted parseHotkeySpec spec = some t.chord
  | .advance _ => True

instance (a : App Chord) : Decidable a.Settled :=
  inferInstanceAs (Decidable (∀ t ∈ a.tasks, _))

instance [DecidableEq Chord] (a : App Chord) : DecidablePred (KeepsOrder parseHotkeySpec a)
  | .apply _ _ => inferInstanceAs (Decidable (∀ t ∈ a.tasks, _))
  | .advance _ => inferInstanceAs (Decidable True)

/-! ## The invariant -/

/-- Whatever is or may get into the table is what the last call asks for, and it is on its way. -/
structure Inv (a : App Chord) : Prop where
  waiting : ∀ t ∈ a.tasks, t.stage = .waiting → a.last t.action = some t.chord
  entered : ∀ action k, a.hotkeys action = some k → ∃ t, a.tasks[k]? = some t ∧
    t.action = action ∧ t.stage = .listening ∧ a.last action = some t.chord
  underway : ∀ action, a.last action ≠ none → a.hotkeys action = none →
    ∃ (k : ℕ) (t : Task Chord), a.tasks[k]? = some t ∧ t.action = action ∧ t.stage = .waiting

variable {a}

lemma Inv.live_eq (h : a.Inv) (hsettled : a.Settled) (action : String) :
    a.live action = a.last action := by
  unfold live
  cases hk : a.hotkeys action with
  | some k =>
    obtain ⟨t, ht, -, -, hlast⟩ := h.entered action k hk
    simp [ht, hlast]
  | none =>
    by_contra hne
    obtain ⟨k, t, ht, -, hstage⟩ := h.underway action (Ne.symm hne) hk
    rcases hsettled t (mem_of_getElem? ht) with heq | heq <;> cases hstage.symm.trans heq

section advance

variable {k : ℕ} {t : Task Chord} (h : a.Inv) (ht : a.tasks[k]? = some t)

include h ht

/-- A goroutine that is not in the table returns, unless its action would be left without any. -/
theorem Inv.returns (hout : t.stage ≠ .listening)
    (hleft : t.stage = .waiting → a.hotkeys t.action ≠ none) : (a.setStage k t .returned).Inv := by
  obtain ⟨hwaiting, hentered, hunderway⟩ := h
  unfold setStage
  constructor
  · intro u hu hstage
    rcases mem_or_eq_of_mem_set hu with hold | rfl
    · exact hwaiting u hold hstage
    · cases hstage
  · intro action k' hk'
    obtain ⟨t', ht', haction, hstage, hlast⟩ := hentered action k' hk'
    have hne : k ≠ k' := by
      rintro rfl
      cases ht.symm.trans ht'
      exact hout hstage
    exact ⟨t', (getElem?_set_ne hne).trans ht', haction, hstage, hlast⟩
  · intro action hlast hnone
    obtain ⟨k', t', ht', haction, hstage⟩ := hunderway action hlast hnone
    have hne : k ≠ k' := by
      rintro rfl
      cases ht.symm.trans ht'
      exact hleft hstage (haction ▸ hnone)
    exact ⟨k', t', (getElem?_set_ne hne).trans ht', haction, hstage⟩

/-- A goroutine that finds its action unregistered registers it and listens from then on. -/
theorem Inv.enters (hstage : t.stage = .waiting) :
    ({ a.setStage k t .listening with hotkeys := update a.hotkeys t.action (some k) }).Inv := by
  obtain ⟨hwaiting, hentered, hunderway⟩ := h
  have hlast := hwaiting t (mem_of_getElem? ht) hstage
  unfold setStage
  constructor
  · intro u hu hw
    rcases mem_or_eq_of_mem_set hu with hold | rfl
    · exact hwaiting u hold hw
    · cases hw
  · intro action k' hk'
    dsimp only at hk'
    by_cases haction : action = t.action
    · rw [haction, update_self] at hk'
      cases hk'
      rw [haction]
      exact ⟨_, getElem?_set_self (List.getElem?_eq_some_iff.mp ht).1, rfl, rfl, hlast⟩
    · rw [update_of_ne haction] at hk'
      obtain ⟨t', ht', heq, hlistening, hlast'⟩ := hentered action k' hk'
      have hne : k ≠ k' := by
        rintro rfl
        cases ht.symm.trans ht'
        exact haction heq.symm
      exact ⟨t', (getElem?_set_ne hne).trans ht', heq, hlistening, hlast'⟩
  · intro action hasked hempty
    have haction : action ≠ t.action := by
      rintro rfl
      simp at hempty
    obtain ⟨k', t', ht', heq, hw⟩ := hunderway action hasked (by simpa [haction] using hempty)
    have hne : k ≠ k' := by
      rintro rfl
      cases ht.symm.trans ht'
      exact haction heq.symm
    exact ⟨k', t', (getElem?_set_ne hne).trans ht', heq, hw⟩

end advance

/-- Every step of a goroutine keeps the invariant. -/
theorem Inv.advance (h : a.Inv) (k : ℕ) : (a.advance passive k).Inv := by
  unfold App.advance
  cases ht : a.tasks[k]? with
  | none => exact h
  | some t =>
    dsimp only
    cases hstage : t.stage with
    | waiting =>
      cases hk : a.hotkeys t.action with
      | some k' => exact h.returns ht (by simp [hstage]) fun _ => by simp [hk]
      | none => exact h.enters ht hstage
    | stopped =>
      -- a registration that was stopped is no longer in the table
      have hnot : a.hotkeys t.action ≠ some k := by
        intro hk
        obtain ⟨t', ht', -, hlistening, -⟩ := h.entered _ _ hk
        cases ht.symm.trans ht'
        cases hstage.symm.trans hlistening
      simp only [hnot, and_false, if_false]
      exact h.returns ht (by simp [hstage]) (by simp [hstage])
    | listening | returned => exact h

/-- A call that overtakes nothing keeps the invariant: it stops what is registered for its action
and starts what it asks for. -/
theorem Inv.applyHotkey (h : a.Inv) {action spec : String}
    (hok : KeepsOrder parseHotkeySpec a (.apply action spec)) :
    (a.applyHotkey parseHotkeySpec action spec).Inv := by
  obtain ⟨hwaiting, hentered, hunderway⟩ := h
  -- a goroutine that did not register the action goes on
  have hstop : ∀ (k : ℕ) (t : Task Chord) (new : List (Task Chord)), a.hotkeys action ≠ some k →
      a.tasks[k]? = some t → (a.stop action ++ new)[k]? = some t := by
    grind [stop]
  unfold KeepsOrder at hok
  unfold App.applyHotkey
  constructor
  · intro t ht hstage
    rcases mem_append.mp ht with hold | hnew
    · have hmem : t ∈ a.tasks := by grind [stop, mem_iff_getElem?]
      by_cases haction : t.action = action
      · simp [haction, hok t hmem haction hstage]
      · simpa [haction] using hwaiting t hmem hstage
    · obtain ⟨chord, hchord, rfl⟩ : ∃ chord, wanted parseHotkeySpec spec = some chord ∧
          ⟨action, chord, .waiting⟩ = t := by simpa using hnew
      simpa using hchord
  · intro action' k hk
    dsimp only at hk ⊢
    by_cases haction : action' = action
    · rw [haction, update_self] at hk
      cases hk
    · rw [update_of_ne haction] at hk ⊢
      obtain ⟨t, ht, heq, hstage, hlast⟩ := hentered action' k hk
      have hother : a.hotkeys action ≠ some k := by
        intro hsame
        obtain ⟨t', ht', heq', -, -⟩ := hentered action k hsame
        cases ht.symm.trans ht'
        exact haction (heq.symm.trans heq')
      exact ⟨t, hstop k t _ hother ht, heq, hstage, hlast⟩
  · intro action' hlast hnone
    dsimp only at hlast hnone ⊢
    by_cases haction : action' = action
    · rw [haction, update_self] at hlast
      obtain ⟨chord, hchord⟩ := Option.ne_none_iff_exists'.mp hlast
      exact ⟨(a.stop action).length, _, by simp [hchord]; rfl, haction.symm, rfl⟩
    · rw [update_of_ne haction] at hlast hnone
      obtain ⟨k, t, ht, heq, hw⟩ := hunderway action' hlast hnone
      exact ⟨k, t, hstop k t _ (by grind) ht, heq, hw⟩

end App

open App

/-- **The last call wins.** In every run of calls and goroutines in which no call overtakes a
goroutine of its action that was started for another chord: whenever all goroutines have settled,
what is registered for an action is what its last call asks for. -/
theorem last_binding_wins {Chord : Type} (parseHotkeySpec : String → Option Chord) (passive : Bool)
    (events : List Event)
    (hok : StepsOK (step parseHotkeySpec passive) (KeepsOrder parseHotkeySpec) {} events) :
    Throughout (step parseHotkeySpec passive)
      (fun a => a.Settled → ∀ action, a.live action = a.last action) {} events := by
  have hstep : ∀ (a : App Chord) event, a.Inv → KeepsOrder parseHotkeySpec a event →
      (step parseHotkeySpec passive a event).Inv := by
    rintro a (⟨action, spec⟩ | k) h hevent
    · exact h.applyHotkey parseHotkeySpec hevent
    · exact h.advance passive k
  have hstart : ({} : App Chord).Inv := ⟨nofun, nofun, fun _ h => absurd rfl h⟩
  exact (throughout_of_stepsOK hstep hstart hok).mono fun a h => h.live_eq

/-- A call that waits for the goroutine of the one before it. -/
theorem second_binding_wins :
    let events := [.apply "ptt" "F1", .advance 0, .apply "ptt" "F2", .advance 0, .advance 1]
    StepsOK (step some true) (KeepsOrder some) ({} : App String) events ∧
      (run (step some true) ({} : App String) events).live "ptt" = some "F2" :=
  have hok : StepsOK (step some true) (KeepsOrder some) ({} : App String) _ := by decide +kernel
  ⟨hok, (last_binding_wins some true _ hok).final (by decide +kernel) "ptt"⟩

/-- The second call overtakes the goroutine of the first. -/
theorem first_binding_stays :
    let a := run (step some true) ({} : App String)
      [.apply "ptt" "F1", .apply "ptt" "F2", .advance 0, .advance 1]
    let b := run (step some true) ({} : App String) [.apply "ptt" "F1", .apply "ptt" "", .advance 0]
    a.Settled ∧ a.live "ptt" = some "F1" ∧ a.last "ptt" = some "F2" ∧
      b.Settled ∧ b.live "ptt" = some "F1" ∧ b.last "ptt" = none := by
  decide +kernel

end Voicx.Client.Hotkeys
