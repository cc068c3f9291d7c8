import Voicx.Found.FiniteMap
import Voicx.Found.Run
import Mathlib.Data.List.DropRight

/-!
# The replay journal of a tab

Model of `relayTabEvent` and `activate` in `client/tabs.go`. Every tab keeps a journal of its
state-carrying events: a snapshot replaces it, every other such event is appended, and what exceeds
`journalCap` is cut off at the front. An activation publishes a reset marker and then the journal.

* `lookup_run` — the journal of a tab depends on the events of that tab alone.
* `foldl_journal` — after a snapshot the journal holds the latest entries of what followed it.
* **`replay_rebuilds_iff`** — when a replay starts with the latest snapshot and misses nothing.

Operations run one after the other: a batch is published under `activationPublishMu`, so the checks
for a newer activation inside it succeed. Badges, the tray and the fields of the tab bar are left
out.
-/

namespace Voicx.Client.Tabs

open Found List

/-- The event names that the relay tells apart. -/
inductive EventName
  | snapshot
  | channellist
  | subscriptions
  | serverRules
  | event
  | disconnected
  | other (name : String)
  deriving DecidableEq, Repr

/-- The names of the second case of the relay's `switch`. -/
def EventName.appended : EventName → Bool
  | .channellist | .subscriptions | .serverRules | .event => true
  | _ => false

/-- Source: `client/tabs.go`, `journalEntry` -/
structure JournalEntry where
  name : EventName
  payload : String
  deriving DecidableEq, Repr

/-- Source: `client/tabs.go`, `journalCap` -/
def journalCap : ℕ := 2000

/-- The journal after an event, as `relayTabEvent` leaves it. -/
def journal (entries : List JournalEntry) (e : JournalEntry) : List JournalEntry :=
  if e.name = .snapshot then [e]
  else if e.name.appended then
    let entries := entries ++ [e]
    if entries.length > journalCap then entries.drop (entries.length - journalCap) else entries
  else entries

/-- The open tabs with their journals, and the active one. Source: `client/app.go`, `App` -/
structure App where
  tabs : FMap String (List JournalEntry) := ∅
  activeID : String := ""

/-- What reaches the frontend. -/
inductive Published
  | plain (e : JournalEntry)
  | tabReset (tabID : String)
  | tabReplayDone (tabID : String)
  | tabUpdate
  deriving DecidableEq, Repr

/-- Source: `client/tabs.go`, `relayTabEvent` -/
def relayTabEvent (a : App) (tabID : String) (e : JournalEntry) : App × List Published :=
  match a.tabs.lookup tabID with
  | none => (a, [])
  | some entries =>
    ({ a with tabs := a.tabs.insert tabID (journal entries e) },
      if a.activeID = tabID then .plain e :: if e.name = .disconnected then [.tabUpdate] else []
      else if e.name = .snapshot ∨ e.name.appended ∨ e.name = .disconnected then [.tabUpdate]
      else [])

/-- An unknown tab is not activated; the empty id stands for no tab.
Source: `client/tabs.go`, `activate`, `activateLocked`, `finishActivateSerialized` -/
def activate (a : App) (tabID : String) : App × List Published :=
  if tabID ≠ "" ∧ tabID ∉ a.tabs then (a, [])
  else
    ({ a with activeID := tabID },
      .tabReset tabID :: ((a.tabs.lookup tabID).getD []).map .plain ++
        [.tabReplayDone tabID, .tabUpdate])

/-- A call of one of the two. -/
inductive Step
  | relay (tabID : String) (e : JournalEntry)
  | activate (tabID : String)
  deriving DecidableEq, Repr

/-- The state after a call. -/
def step (a : App) : Step → App
  | .relay tabID e => (relayTabEvent a tabID e).1
  | .activate tabID => (activate a tabID).1

/-- The events of one tab, in order. -/
def eventsOf (tabID : String) (steps : List Step) : List JournalEntry :=
  steps.filterMap fun s => match s with
    | .relay id e => if id = tabID then some e else none
    | .activate _ => none

variable {a : App} {tabID : String} {snap : JournalEntry} {before after : List JournalEntry}

/-- The events that a journal appends. -/
def stateEvents (events : List JournalEntry) : List JournalEntry :=
  events.filter fun e => e.name.appended

lemma stateEvents_cons (e : JournalEntry) (events : List JournalEntry) :
    stateEvents (e :: events) =
      if e.name.appended then e :: stateEvents events else stateEvents events := filter_cons

/-- Only the tab's own events change its journal. -/
lemma lookup_step (a : App) (tabID : String) (s : Step) :
    (step a s).tabs.lookup tabID =
      (a.tabs.lookup tabID).map fun entries => (eventsOf tabID [s]).foldl journal entries := by
  cases s with
  | activate id =>
    simp only [step, activate]
    split <;> simp [eventsOf]
  | relay id e =>
    simp only [step, relayTabEvent]
    by_cases hid : id = tabID
    · subst hid
      cases hopen : a.tabs.lookup id <;> simp [eventsOf, hopen]
    · cases a.tabs.lookup id <;> simp [eventsOf, hid, Ne.symm hid]

/-- The journal of a tab is made by its own events. -/
theorem lookup_run (a : App) (tabID : String) (steps : List Step) :
    (run step a steps).tabs.lookup tabID =
      (a.tabs.lookup tabID).map fun entries => (eventsOf tabID steps).foldl journal entries := by
  induction steps generalizing a with
  | nil => simp [eventsOf]
  | cons s steps ih =>
    have hevents : eventsOf tabID (s :: steps) = eventsOf tabID [s] ++ eventsOf tabID steps :=
      filterMap_append (l := [s])
    rw [run_cons, ih, lookup_step, hevents]
    simp [Function.comp_def]

/-- Cutting before an append is made up for by the cut after it. -/
lemma rtake_concat (n : ℕ) (entries : List JournalEntry) (e : JournalEntry) :
    (entries.rtake n ++ [e]).rtake n = (entries ++ [e]).rtake n := by
  cases n with
  | zero => simp
  | succ n => simp [rtake_eq_reverse_take_reverse, take_take]

/-- While no further snapshot comes, the journal holds the latest entries of all that followed. -/
theorem foldl_journal (hafter : ∀ e ∈ after, e.name ≠ .snapshot) (entries : List JournalEntry) :
    after.foldl journal (entries.rtake journalCap) =
      (entries ++ stateEvents after).rtake journalCap := by
  induction after generalizing entries with
  | nil => simp [stateEvents]
  | cons e after ih =>
    obtain ⟨he, hrest⟩ := forall_mem_cons.mp hafter
    by_cases happ : e.name.appended
    · have hstep : journal (entries.rtake journalCap) e = (entries ++ [e]).rtake journalCap := by
        rw [← rtake_concat, journal, if_neg he]
        dsimp only [List.rtake]
        split_ifs with hlen
        · rfl
        · rw [Nat.sub_eq_zero_of_le (Nat.le_of_not_lt hlen), drop_zero]
      rw [foldl_cons, hstep, ih hrest, stateEvents_cons, if_pos happ, append_assoc,
        singleton_append]
    · have hstep : journal (entries.rtake journalCap) e = entries.rtake journalCap := by
        rw [journal, if_neg he, if_neg happ]
      rw [foldl_cons, hstep, ih hrest, stateEvents_cons, if_neg happ]

/-- What an activation publishes after a run in which the tab had a snapshot. -/
lemma published_after_snapshot {steps : List Step} (hopen : tabID ∈ a.tabs)
    (hevents : eventsOf tabID steps = before ++ snap :: after) (hsnap : snap.name = .snapshot)
    (hafter : ∀ e ∈ after, e.name ≠ .snapshot) :
    (activate (run step a steps) tabID).2 =
      .tabReset tabID ::
        ((snap :: stateEvents after).rtake journalCap).map .plain ++
        [.tabReplayDone tabID, .tabUpdate] := by
  obtain ⟨entries, hentries⟩ := Finmap.mem_iff.mp hopen
  have hlookup : (run step a steps).tabs.lookup tabID =
      some ((snap :: stateEvents after).rtake journalCap) := by
    rw [lookup_run, hentries, hevents, Option.map_some, foldl_append, foldl_cons,
      journal, if_pos hsnap]
    have hone : [snap].rtake journalCap = [snap] := by simp [List.rtake, journalCap]
    have hfold := foldl_journal hafter [snap]
    rw [hone, singleton_append] at hfold
    rw [hfold]
  have hmem : tabID ∈ (run step a steps).tabs := Finmap.mem_iff.mpr ⟨_, hlookup⟩
  rw [activate, if_neg fun h => h.2 hmem, hlookup, Option.getD_some]

/-- **A replay rebuilds the tab** from its latest snapshot and all state events after it *if and
only if* fewer of them than `journalCap` have come since. -/
theorem replay_rebuilds_iff {steps : List Step} (hopen : tabID ∈ a.tabs)
    (hevents : eventsOf tabID steps = before ++ snap :: after) (hsnap : snap.name = .snapshot)
    (hafter : ∀ e ∈ after, e.name ≠ .snapshot) :
    (activate (run step a steps) tabID).2 =
        .tabReset tabID :: (snap :: stateEvents after).map .plain ++
          [.tabReplayDone tabID, .tabUpdate] ↔
      (stateEvents after).length < journalCap := by
  rw [published_after_snapshot hopen hevents hsnap hafter]
  constructor
  · intro heq
    -- a cut journal is too short
    have hlen := congrArg List.length heq
    simp [List.rtake] at hlen
    omega
  · intro hlen
    have hall : (snap :: stateEvents after).rtake journalCap = snap :: stateEvents after := by
      rw [List.rtake, Nat.sub_eq_zero_of_le (by exact hlen), drop_zero]
    rw [hall]

/-- One tab, and its events: a snapshot and then `n` changes. -/
def oneTab : App := { tabs := (∅ : FMap String (List JournalEntry)).insert "tab-1" [] }

@[inherit_doc oneTab]
def snapshotThen (n : ℕ) : List Step :=
  .relay "tab-1" ⟨.snapshot, "tree"⟩ :: List.replicate n (.relay "tab-1" ⟨.event, "change"⟩)

lemma eventsOf_snapshotThen (n : ℕ) : eventsOf "tab-1" (snapshotThen n) =
    [] ++ ⟨.snapshot, "tree"⟩ :: List.replicate n ⟨.event, "change"⟩ := by
  simp [eventsOf, snapshotThen]

theorem replay_after_one_change :
    (activate (run step oneTab (snapshotThen 1)) "tab-1").2 =
        [.tabReset "tab-1", .plain ⟨.snapshot, "tree"⟩, .plain ⟨.event, "change"⟩,
          .tabReplayDone "tab-1", .tabUpdate] ↔ 1 < journalCap :=
  replay_rebuilds_iff (by decide +kernel) (eventsOf_snapshotThen 1) rfl (by decide)

/-- After 2000 changes the replay has no snapshot any more. -/
theorem replay_without_snapshot :
    (activate (run step oneTab (snapshotThen journalCap)) "tab-1").2 =
      .tabReset "tab-1" :: List.replicate journalCap (.plain ⟨.event, "change"⟩) ++
        [.tabReplayDone "tab-1", .tabUpdate] := by
  rw [published_after_snapshot (by decide +kernel) (eventsOf_snapshotThen journalCap) rfl (by simp),
    stateEvents, filter_replicate_of_pos rfl, List.rtake]
  simp

end Voicx.Client.Tabs
