import Voicx.Server.Powers

/-!
# Who may subscribe to a channel

Model of `subscribeAllowed` in `internal/server/subscriptions.go`, and the entitlement it is meant
to decide.

* `subscribeAllowed` — the code: a user's tiers are loaded for the target channel, a guest has the
  Guest group and nothing else.
* `SubscribeEntitled` — the purpose: the subscribe power the client resolves in the target channel,
  over every tier that applies to it there, meets the needed power it resolves there.
* `subscribeAllowed_iff_entitled_iff` — the two agree for every user. For a guest they agree exactly
  where the channel tier of the target cannot tip the comparison (`GuestGroupDecides`).
-/

namespace Voicx.Server

open Permissions

/-- The power to subscribe. -/
def channelSubscribePower : String := "i_channel_subscribe_power"

/-- The power a subscription takes. -/
def channelNeededSubscribePower : String := "i_channel_needed_subscribe_power"

variable (guestGroupID : Int) (db : PermDB)

/-- The tiers `subscribeAllowed` decides with: for a guest the Guest group alone, for a user the
load for the target channel. -/
def subscribeTiers (c : Caller) (channelID : Int) : TieredPermissions :=
  if c.userID = 0 then
    if guestGroupID ≠ 0 then
      (∅ : TieredPermissions).insert .serverGroup ((loadServerGroupPermissions guestGroupID).eval db)
    else ∅
  else (loadFromDB c.userID channelID).eval db

/-- May the client subscribe to the channel? `loads` says whether the database answers.
Source: `internal/server/subscriptions.go`, `subscribeAllowed` -/
def subscribeAllowed (loads : Bool) (c : Caller) (channelID : Int) : Bool :=
  if c.isAdmin then true
  else if !loads then false
  else
    let pc : PermChecker := { tp := subscribeTiers guestGroupID db c channelID, admin := false }
    pc.powerAtLeast channelSubscribePower (pc.neededPower channelNeededSubscribePower)

/-- The entitlement: in the target channel the client resolves a subscribe power, and it is at least
the needed power it resolves there, 0 where none is set. -/
def SubscribeEntitled (c : Caller) (channelID : Int) : Prop :=
  let pc := permCheckerFor guestGroupID db { c with channelID := channelID }
  ∃ p, pc.own channelSubscribePower = some p ∧
    p.value ≥ ((pc.own channelNeededSubscribePower).map Permission.value).getD 0

instance (guestGroupID : Int) (db : PermDB) (c : Caller) (channelID : Int) :
    Decidable (SubscribeEntitled guestGroupID db c channelID) :=
  inferInstanceAs (Decidable (∃ p, _ = some p ∧ _))

/-! ## The comparison -/

/-- A set power against a needed power that counts as 0 where it is not set. -/
def meets (power needed : Option Permission) : Bool :=
  (power.map fun p => decide (p.value ≥ (needed.map Permission.value).getD 0)).getD false

lemma subscribeEntitled_iff {guestGroupID : Int} {db : PermDB} {c : Caller} {channelID : Int} :
    SubscribeEntitled guestGroupID db c channelID ↔
      meets ((permCheckerFor guestGroupID db { c with channelID := channelID }).own
          channelSubscribePower)
        ((permCheckerFor guestGroupID db { c with channelID := channelID }).own
          channelNeededSubscribePower) = true := by
  simp [SubscribeEntitled, meets, Option.getD_eq_iff]

/-- The Guest group's entry for a key, as the resolver returns it. -/
def guestGroupEntry (key : String) : Option Permission :=
  (if guestGroupID ≠ 0 then entryAt db (.serverGroup guestGroupID) key else none).map
    Permission.resolved

/-- The entry of the target channel's tier for a key, as the resolver returns it. -/
def targetEntry (channelID : Int) (key : String) : Option Permission :=
  (if channelID ≠ 0 then chainEntry db channelID key else none).map Permission.resolved

section guest

variable {guestGroupID channelID : Int} {db : PermDB} {c : Caller}

/-- A guest in a channel resolves the Guest group's entry, else the channel's. -/
lemma own_guest_in_channel (hguest : c.userID = 0) (key : String) :
    (permCheckerFor guestGroupID db { c with channelID := channelID }).own key =
      (guestGroupEntry guestGroupID db key <|> targetEntry db channelID key) := by
  rw [own_permCheckerFor]
  unfold callerWinner guestGroupEntry targetEntry
  rw [if_pos hguest]
  cases if guestGroupID ≠ 0 then entryAt db (.serverGroup guestGroupID) key else none <;> rfl

/-- What the code asks of a guest: the Guest group against itself. -/
lemma subscribeAllowed_guest (hguest : c.userID = 0) (hadmin : c.isAdmin = false) :
    subscribeAllowed guestGroupID db true c channelID =
      meets (guestGroupEntry guestGroupID db channelSubscribePower)
        (guestGroupEntry guestGroupID db channelNeededSubscribePower) := by
  have hown : ∀ key, (PermChecker.own
      { tp := subscribeTiers guestGroupID db c channelID, admin := false } key) =
        guestGroupEntry guestGroupID db key := by
    intro key
    rw [PermChecker.own, resolve_map_fst]
    unfold subscribeTiers guestGroupEntry
    rw [if_pos hguest]
    by_cases hgroup : guestGroupID = 0
    · simp [hgroup, tierOrder]
    · simp [hgroup, tierOrder, findSome?_cons_or, entryAt, loadServerGroupPermissions]
  unfold subscribeAllowed meets
  simp only [hadmin, Bool.false_eq_true, if_false, Bool.not_true]
  rw [powerAtLeast_eq_own, neededPower_eq_own, hown, hown]
  rfl

/-- What the code asks of a user: its winner in the target channel. -/
lemma subscribeAllowed_user (huser : c.userID ≠ 0) (hadmin : c.isAdmin = false) :
    subscribeAllowed guestGroupID db true c channelID = true ↔
      SubscribeEntitled guestGroupID db c channelID := by
  have hpc : permCheckerFor guestGroupID db { c with channelID := channelID } =
      { tp := subscribeTiers guestGroupID db c channelID, admin := false } := by
    unfold permCheckerFor subscribeTiers
    rw [if_neg huser, if_neg huser, hadmin]
  rw [subscribeEntitled_iff, hpc]
  unfold subscribeAllowed meets
  simp only [hadmin, Bool.false_eq_true, if_false, Bool.not_true]
  rw [powerAtLeast_eq_own, neededPower_eq_own]
  rfl

end guest

/-- The channel tier of the target cannot tip a guest's comparison. Where the Guest group sets the
subscribe power: it also sets the needed power, or the channel does not, or the power compares with
the channel's needed power as it does with 0. Where the Guest group does not set it: the channel
does not set one that would do. -/
def GuestGroupDecides (guestGroupID : Int) (db : PermDB) (channelID : Int) : Prop :=
  match guestGroupEntry guestGroupID db channelSubscribePower with
  | some p =>
    (guestGroupEntry guestGroupID db channelNeededSubscribePower).isSome = true ∨
      ∀ n, targetEntry db channelID channelNeededSubscribePower = some n →
        (p.value ≥ 0 ↔ p.value ≥ n.value)
  | none =>
    ∀ p, targetEntry db channelID channelSubscribePower = some p →
      p.value < (((guestGroupEntry guestGroupID db channelNeededSubscribePower) <|>
        targetEntry db channelID channelNeededSubscribePower).map Permission.value).getD 0

/-- Adding the channel's entries behind the Guest group's leaves the comparison as it is, exactly
under the condition. -/
lemma meets_orElse_iff (gs gn ts tn : Option Permission) :
    (meets gs gn = true ↔ meets (gs <|> ts) (gn <|> tn) = true) ↔
      match gs with
      | some p => gn.isSome = true ∨ ∀ n, tn = some n → (p.value ≥ 0 ↔ p.value ≥ n.value)
      | none => ∀ p, ts = some p → p.value < ((gn <|> tn).map Permission.value).getD 0 := by
  cases gs with
  | some p =>
    cases gn with
    | some n => simp [meets]
    | none => cases tn <;> simp [meets]
  | none =>
    cases ts with
    | some p | none => simp [meets]

/-- **The code decides the entitlement of every user, and of a guest exactly where the Guest group
decides it.** For every client that is not an admin, every channel and every permission database. -/
theorem subscribeAllowed_iff_entitled_iff (guestGroupID : Int) (db : PermDB) (c : Caller)
    (channelID : Int) (hadmin : c.isAdmin = false) :
    (subscribeAllowed guestGroupID db true c channelID = true ↔
        SubscribeEntitled guestGroupID db c channelID) ↔
      c.userID ≠ 0 ∨ GuestGroupDecides guestGroupID db channelID := by
  by_cases hguest : c.userID = 0
  · rw [subscribeAllowed_guest hguest hadmin, subscribeEntitled_iff,
      own_guest_in_channel hguest, own_guest_in_channel hguest, meets_orElse_iff]
    simp only [hguest, ne_eq, not_true_eq_false, false_or]
    rfl
  · simp [subscribeAllowed_user hguest hadmin, hguest]

/-- A database in which channel 7 needs subscribe power 50 and the Guest group 3 grants 10. -/
def gatedForGuests : PermDB where
  perms := (PermRows.empty.put (.channel 7) { key := channelNeededSubscribePower, value := 50 }).put
    (.serverGroup 3) { key := channelSubscribePower, value := 10 }
  serverGroups := fun _ => []
  channelGroups := fun _ _ => []
  channels := fun id => if id = 7 then some ⟨none, false⟩ else none

theorem subscribeAllowed_iff_entitled_iff_user :
    subscribeAllowed 3 gatedForGuests true { userID := 5 } 7 = true ↔
      SubscribeEntitled 3 gatedForGuests { userID := 5 } 7 :=
  (subscribeAllowed_iff_entitled_iff 3 gatedForGuests { userID := 5 } 7 rfl).mpr
    (Or.inl (by decide))

/-- **A guest is let into a channel whose needed subscribe power it does not meet**: the Guest group
grants 10, the channel needs 50. -/
theorem guest_subscribes_below_needed_power :
    subscribeAllowed 3 gatedForGuests true { userID := 0 } 7 = true ∧
      ¬SubscribeEntitled 3 gatedForGuests { userID := 0 } 7 := by
  decide

end Voicx.Server
