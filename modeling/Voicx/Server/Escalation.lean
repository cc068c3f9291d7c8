import Voicx.Found.Run
import Voicx.Server.GrantCap

/-!
# What a caller can reach through permission writes

A caller sends requests of the write path one after the other; each is decided by the permissions it
resolves at that moment, from the database as its earlier requests left it.

* `permStep` — one request of a caller.
* `entryCeiling` — the largest value or grant stored for a key at any place that applies to the
  caller, at least 0.
* `unset_uncovers_lower_tier` — the resolved value is *not* bounded by what the caller resolved
  before: removing its own entry of a high tier uncovers an entry of a lower one. Nor is there a
  bound for a caller who may hand itself the exemption from the cap.
* `rowsBelow_permStep` — while the caller is subject to the cap, no request lifts a stored entry of
  any place over the ceiling, because the caller's own grant never exceeds it.
* **`resolved_le_entryCeiling`** — so after any sequence of requests, whatever the caller resolves
  stays under the ceiling of the database it started from.
-/

namespace Voicx.Server

open Found Permissions

section sequence

variable (lookupUser : String → Option Int) (guestGroupID : Int) (c : Caller)

/-- One request of the caller: the checker is loaded from the database as it stands. -/
def permRespond (db : PermDB) (i : PermRequest × Faults) : Response :=
  handlePerm lookupUser db.perms
    (if i.2.load then some (permCheckerFor guestGroupID db c) else none) i.2 i.1

/-- The database after one request. -/
def permStep (db : PermDB) (i : PermRequest × Faults) : PermDB :=
  { db with perms := (permRespond lookupUser guestGroupID c db i).rows }

end sequence

/-! ## The ceiling -/

/-- The largest value or grant stored for the key at one of the places, at least 0. -/
def entryCeiling (db : PermDB) (places : List PermLoc) (key : String) : Int :=
  db.perms.rows.foldl (fun b r =>
    if r.loc ∈ places ∧ r.entry.key = key then max b (max r.entry.value r.entry.grant) else b) 0

section ceiling

variable {places : List PermLoc} {key : String}

lemma le_foldl_ceiling (places : List PermLoc) (key : String) (rows : List PermRow) (b : Int) :
    b ≤ rows.foldl (fun b r =>
      if r.loc ∈ places ∧ r.entry.key = key then max b (max r.entry.value r.entry.grant)
        else b) b := by
  induction rows generalizing b with
  | nil => exact le_rfl
  | cons r rows ih =>
    refine le_trans ?_ (ih _)
    show b ≤ if r.loc ∈ places ∧ r.entry.key = key then _ else b
    split_ifs
    · exact le_max_left _ _
    · exact le_rfl

lemma rowsBelow_entryCeiling (db : PermDB) :
    RowsBelow db places (entryCeiling db places key) key := by
  unfold RowsBelow entryCeiling
  generalize (0 : Int) = b
  induction db.perms.rows generalizing b with
  | nil => simp
  | cons r' rows ih =>
    intro r hr hloc hkey
    rcases List.mem_cons.mp hr with rfl | hr
    · have hle := le_foldl_ceiling places key rows (max b (max r.entry.value r.entry.grant))
      rw [List.foldl_cons, if_pos ⟨hloc, hkey⟩]
      exact ⟨le_trans (le_trans (le_max_left _ _) (le_max_right _ _)) hle,
        le_trans (le_trans (le_max_right _ _) (le_max_right _ _)) hle⟩
    · exact ih _ r hr hloc hkey

end ceiling

/-! ## Resolution is not monotone -/

/-- User 1 holds `i_client_move_power` with value 1 and grant 10 through server group 3, and, hidden
behind it, with value 100 as a channel client of channel 5. -/
def layeredDB : PermDB :=
  { PermDB.empty with
    perms := ((PermRows.empty.put (.client 1) { key := permissionManage, value := 1 }).put
      (.serverGroup 3) { key := "i_client_move_power", value := 1, grant := 10 }).put
      (.channelClient 1 5) { key := "i_client_move_power", value := 100, grant := 100 }
    serverGroups := fun u => if u = 1 then [3] else [] }

/-- User 1 does not hold the exemption from the cap, but may hand it out through server group 3. -/
def exemptableDB : PermDB :=
  { PermDB.empty with
    perms := (PermRows.empty.put (.client 1) { key := permissionManage, value := 1 }).put
      (.serverGroup 3) { key := permissionModifyPowerIgnore, value := 0, grant := 1 }
    serverGroups := fun u => if u = 1 then [3] else [] }

/-- Removing an entry within the caller's grant uncovers a larger one of a lower tier, so the
resolved value and grant can rise over the maximum of both before. And a caller whose grant lets it
take the exemption first is bound by no ceiling afterwards. -/
theorem unset_uncovers_lower_tier :
    (¬∀ (db : PermDB) (c : Caller) (key : String) (reqs : List (PermRequest × Faults))
      (p p' : Permission), c.isAdmin = false →
      (permCheckerFor 0 db c).granted permissionModifyPowerIgnore = false →
      StepsOK (permStep (fun _ => none) 0 c)
        (fun db i => (permRespond (fun _ => none) 0 c db i).result = .ok ()) db reqs →
      (permCheckerFor 0 db c).own key = some p →
      (permCheckerFor 0 (run (permStep (fun _ => none) 0 c) db reqs) c).own key = some p' →
      p'.value ≤ max p.value p.grant ∧ p'.grant ≤ max p.value p.grant) ∧
    ¬∀ (db : PermDB) (c : Caller) (key : String) (reqs : List (PermRequest × Faults))
      (p' : Permission), c.isAdmin = false →
      (permCheckerFor 0 db c).granted permissionModifyPowerIgnore = false →
      StepsOK (permStep (fun _ => none) 0 c)
        (fun db i => (permRespond (fun _ => none) 0 c db i).result = .ok ()) db reqs →
      (permCheckerFor 0 (run (permStep (fun _ => none) 0 c) db reqs) c).own key = some p' →
      p'.value ≤ entryCeiling db (callerPlaces 0 db c) key := by
  constructor
  · intro h
    have hbound := h layeredDB { userID := 1, channelID := 5 } "i_client_move_power"
      [(.unset { tier := "server_group", groupID := 3, key := "i_client_move_power" }, {})]
      ⟨"i_client_move_power", .integer, 1, 10, false, false⟩
      ⟨"i_client_move_power", .integer, 100, 100, false, false⟩
      rfl (by decide) ⟨rfl, trivial⟩ (by decide) (by decide)
    exact absurd hbound (by decide)
  · intro h
    have hbound := h exemptableDB { userID := 1 } "i_client_move_power" [(.set
        { tier := "server_group", groupID := 3, key := permissionModifyPowerIgnore, value := 1 }, {}),
        (.set
          { tier := "server_group", groupID := 3, key := "i_client_move_power", value := 100 }, {})]
      ⟨"i_client_move_power", .integer, 100, 0, false, false⟩
      rfl (by decide) ⟨rfl, rfl, trivial⟩ (by decide)
    exact absurd hbound (by decide)

/-! ## One request, and every sequence -/

section bound

variable {lookupUser : String → Option Int} {guestGroupID B : Int} {c : Caller} {key : String}

/-- The caller is subject to the cap when its request is decided. -/
def Subject (guestGroupID : Int) (c : Caller) (db : PermDB) : Prop :=
  (permCheckerFor guestGroupID db c).Limited

lemma permCheckerFor_admin {db : PermDB} (h : c.isAdmin = false) :
    (permCheckerFor guestGroupID db c).admin = false := by
  unfold permCheckerFor
  by_cases hguest : c.userID = 0
  · rw [if_pos hguest]
  · rw [if_neg hguest]
    exact h

/-- Without the caller's permissions nothing is written. -/
lemma touched_unavailable (rs : PermRows) (f : Faults) (req : PermRequest) (r : PermRow) :
    r ∉ (handlePerm lookupUser rs none f req).touched := by
  cases req with
  | templateApply msg =>
    simp only [handlePerm, handlePermTemplateApply]
    split <;> simp [gated, refuse]
  | copy msg => simp [handlePerm, handlePermCopy, gated, refuse]
  | _ => simp [handlePerm, handlePermSet, handlePermUnset, cappedWrite, gated, refuse]

/-- **One request lifts no entry over a bound that the caller's own grant respects.** -/
theorem rowsBelow_permStep {db : PermDB} (hB : 0 ≤ B)
    (h : RowsBelow db (callerPlaces guestGroupID db c) B key) (hsub : Subject guestGroupID c db)
    (i : PermRequest × Faults) :
    RowsBelow (permStep lookupUser guestGroupID c db i)
      (callerPlaces guestGroupID (permStep lookupUser guestGroupID c db i) c) B key := by
  intro r hr hloc hkey
  have hsound : Sound (if i.2.load then some (permCheckerFor guestGroupID db c) else none) db.perms
      (permRespond lookupUser guestGroupID c db i) := handlePerm_sound lookupUser i.2 i.1
  by_cases htouched : r ∈ (permRespond lookupUser guestGroupID c db i).touched
  · -- a row the request wrote is within the caller's own grant, which is under the bound
    have hcapped : Capped (permCheckerFor guestGroupID db c) r := by
      by_cases hload : i.2.load = true
      · exact hsound.capped _ (by rw [if_pos hload]) hsub r htouched
      · simp only [permRespond, hload, Bool.false_eq_true, if_false] at htouched
        exact absurd htouched (touched_unavailable db.perms i.2 i.1 r)
    obtain ⟨own, hown, hvalue, hgrant⟩ := hcapped
    have hbelow := permCheckerFor_below h hB (hkey ▸ hown)
    exact ⟨le_trans hvalue hbelow.2, le_trans hgrant hbelow.2⟩
  · exact h r ((hsound.honest r htouched).mp hr) hloc hkey

/-- **What a caller can reach.** For every database, every caller who is not admin, every key and
every sequence of requests at none of which the caller holds `b_permission_modify_power_ignore`: the
value and the grant the caller resolves afterwards are at most the largest value or grant stored for
the key beforehand at any place that applies to the caller (and at least 0). -/
theorem resolved_le_entryCeiling (lookupUser : String → Option Int) (guestGroupID : Int) (db : PermDB)
    (c : Caller) (key : String) (reqs : List (PermRequest × Faults)) (hadmin : c.isAdmin = false)
    (hignore : StepsOK (permStep lookupUser guestGroupID c) (fun db _ =>
      (permCheckerFor guestGroupID db c).granted permissionModifyPowerIgnore = false) db reqs)
    (p : Permission) (hp : (permCheckerFor guestGroupID
      (run (permStep lookupUser guestGroupID c) db reqs) c).own key = some p) :
    p.value ≤ entryCeiling db (callerPlaces guestGroupID db c) key ∧
      p.grant ≤ entryCeiling db (callerPlaces guestGroupID db c) key := by
  have hB : 0 ≤ entryCeiling db (callerPlaces guestGroupID db c) key :=
    le_foldl_ceiling _ key _ 0
  generalize hbound : entryCeiling db (callerPlaces guestGroupID db c) key = B at hB
  have hstart : RowsBelow db (callerPlaces guestGroupID db c) B key := by
    rw [← hbound]
    exact rowsBelow_entryCeiling db
  have hkeep : ∀ db i, RowsBelow db (callerPlaces guestGroupID db c) B key →
      (permCheckerFor guestGroupID db c).granted permissionModifyPowerIgnore = false →
      RowsBelow (permStep lookupUser guestGroupID c db i)
        (callerPlaces guestGroupID (permStep lookupUser guestGroupID c db i) c) B key := by
    intro db i h hnot
    exact rowsBelow_permStep hB h ⟨permCheckerFor_admin hadmin, hnot⟩ i
  have hend := (throughout_of_stepsOK hkeep hstart hignore).final
  exact permCheckerFor_below hend hB hp

/-- User 1 of `layeredDB` removes its server group's entry and resolves 100, the ceiling. -/
theorem resolved_le_entryCeiling_layered :
    (100 : Int) ≤ entryCeiling layeredDB
        (callerPlaces 0 layeredDB { userID := 1, channelID := 5 }) "i_client_move_power" ∧
      (100 : Int) ≤ entryCeiling layeredDB
        (callerPlaces 0 layeredDB { userID := 1, channelID := 5 }) "i_client_move_power" :=
  resolved_le_entryCeiling (fun _ => none) 0 layeredDB { userID := 1, channelID := 5 }
    "i_client_move_power"
    [(.unset { tier := "server_group", groupID := 3, key := "i_client_move_power" }, {})] rfl
    ⟨by decide, trivial⟩ ⟨"i_client_move_power", .integer, 100, 100, false, false⟩ (by decide)

end bound

end Voicx.Server
