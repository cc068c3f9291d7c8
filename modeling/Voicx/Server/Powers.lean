import Voicx.Permissions.Resolution
import Voicx.Server.Perms

/-!
# The questions handlers ask a permission checker

Model of the methods of `permChecker` in `internal/server/perms.go` and of `checkPowerOver` in
`internal/server/handlers.go`.

* `powerAtLeast`, `neededPower`, `power`, `joinAllowed` — comparisons of a resolved integer.
* `notNegated`, `talkAllowed`, `ftUploadAllowed`, `ftDownloadAllowed` — the open defaults, which
  only an explicit entry closes.
* `checkPowerOver` — one client acting on another: power of the caller against needed power of the
  target.
* `callerWinner`, `own_permCheckerFor` — the entry a caller resolves, for guests and users.
* `powerAtLeast_negated_iff` — what a negated entry does to each of them. The open defaults and
  `granted` deny; a power comparison sees the value 0 and denies only where more than 0 is needed.

Source names without a file are from `internal/server/perms.go`.
-/

namespace Voicx.Server

open Permissions

/-! ## Keys -/

/-- The power to join a channel. -/
def channelJoinPower : String := "i_channel_join_power"

/-- The power to talk. -/
def clientTalkPower : String := "i_client_talk_power"

/-- The power that talking takes. -/
def clientNeededTalkPower : String := "i_client_needed_talk_power"

/-- The power to upload files. -/
def ftFileUploadPower : String := "i_ft_file_upload_power"

/-- The power to download files. -/
def ftFileDownloadPower : String := "i_ft_file_download_power"

/-- The actions of one client on another that are gated by a power. -/
inductive PowerAction
  | kickFromChannel
  | kickFromServer
  | ban
  | move
  deriving DecidableEq, Repr

open PowerAction

/-- The caller's side of a gated action. -/
def PowerAction.powerKey : PowerAction → String
  | .kickFromChannel => "i_client_kick_from_channel_power"
  | .kickFromServer => "i_client_kick_from_server_power"
  | .ban => "i_client_ban_power"
  | .move => "i_client_move_power"

/-- The target's side of a gated action. -/
def PowerAction.neededKey : PowerAction → String
  | .kickFromChannel => "i_client_needed_kick_from_channel_power"
  | .kickFromServer => "i_client_needed_kick_from_server_power"
  | .ban => "i_client_needed_ban_power"
  | .move => "i_client_needed_move_power"

/-! ## The methods of the checker -/

namespace PermChecker

variable (pc : PermChecker) (key : String)

/-- Source: `powerAtLeast` -/
def powerAtLeast (needed : Int) : Bool :=
  pc.admin || ((isGranted pc.tp key needed).map Prod.fst).getD false

/-- Source: `neededPower` -/
def neededPower : Int :=
  ((resolveInt pc.tp key).map Prod.fst).getD 0

/-- Source: `power` -/
def power : Int := ((resolveInt pc.tp key).map Prod.fst).getD 0

/-- Source: `joinAllowed` -/
def joinAllowed (needed : Int) : Bool :=
  pc.admin || decide (pc.power channelJoinPower ≥ needed)

/-- Source: `notNegated` -/
def notNegated : Bool :=
  pc.admin ||
    match resolve pc.tp key with
    | none => true
    | some (p, _) => !p.negate

/-- Source: `talkAllowed` -/
def talkAllowed : Bool :=
  pc.admin ||
    (pc.notNegated clientTalkPower &&
      decide (pc.power clientTalkPower ≥ pc.neededPower clientNeededTalkPower))

/-- Source: `ftUploadAllowed` -/
def ftUploadAllowed : Bool :=
  if pc.guest then false else pc.notNegated ftFileUploadPower

/-- Source: `ftDownloadAllowed` -/
def ftDownloadAllowed : Bool := pc.notNegated ftFileDownloadPower

end PermChecker

open PermChecker

/-- The texts with which `checkPowerOver` refuses; `load` is the text of the failed load. -/
inductive PowerRefusal
  | load (text : String)
  | onAdmin
  | insufficient (powerKey : String)
  deriving DecidableEq, Repr

/-- The text the handlers send back. -/
def PowerRefusal.text : PowerRefusal → String
  | .load text => text
  | .onAdmin => "cannot act on a server admin"
  | .insufficient powerKey => "insufficient permission: " ++ powerKey

/-- May the caller act on the target? Each checker is the outcome of its load.
Source: `internal/server/handlers.go`, `checkPowerOver` -/
def checkPowerOver (callerPC targetPC : Except String PermChecker) (powerKey neededKey : String) :
    Except PowerRefusal Unit :=
  match callerPC, targetPC with
  | .error text, _ => .error (.load text)
  | .ok _, .error text => .error (.load text)
  | .ok callerPC, .ok targetPC =>
    if !callerPC.admin && targetPC.admin then .error .onAdmin
    else if !callerPC.powerAtLeast powerKey (targetPC.neededPower neededKey) then
      .error (.insufficient powerKey)
    else .ok ()

/-! ## The methods in terms of the caller's own entry -/

section own

variable {pc : PermChecker} {key : String}

lemma granted_eq_own :
    pc.granted key = (pc.admin || ((pc.own key).map fun p => p.value != 0).getD false) := by
  unfold granted resolveBool own
  cases resolve pc.tp key <;> rfl

lemma powerAtLeast_eq_own (needed : Int) :
    pc.powerAtLeast key needed =
      (pc.admin || ((pc.own key).map fun p => decide (p.value ≥ needed)).getD false) := by
  unfold powerAtLeast isGranted resolveInt own
  cases resolve pc.tp key <;> rfl

lemma power_eq_own : pc.power key = ((pc.own key).map Permission.value).getD 0 := by
  unfold power resolveInt own
  cases resolve pc.tp key <;> rfl

lemma neededPower_eq_own : pc.neededPower key = ((pc.own key).map Permission.value).getD 0 :=
  power_eq_own

lemma notNegated_eq_own :
    pc.notNegated key = (pc.admin || ((pc.own key).map fun p => !p.negate).getD true) := by
  unfold notNegated own
  cases resolve pc.tp key <;> rfl

end own

/-! ## The entry a caller resolves -/

/-- The entry that wins for a caller. A guest has the Guest group and the channel tier. -/
def callerWinner (guestGroupID : Int) (db : PermDB) (c : Caller) (key : String) :
    Option Permission :=
  if c.userID = 0 then
    (if guestGroupID ≠ 0 then entryAt db (.serverGroup guestGroupID) key else none) <|>
      (if c.channelID ≠ 0 then chainEntry db c.channelID key else none)
  else winner db c.userID c.channelID key

variable (guestGroupID : Int) (db : PermDB) (c : Caller)

/-- **A checker resolves the caller's winner.** -/
theorem own_permCheckerFor (key : String) :
    (permCheckerFor guestGroupID db c).own key =
      (callerWinner guestGroupID db c key).map Permission.resolved := by
  unfold own permCheckerFor callerWinner
  by_cases hguest : c.userID = 0
  · rw [if_pos hguest, if_pos hguest, resolve_map_fst]
    congr 1
    simp only [tierOrder, findSome?_cons_or, List.findSome?_nil, loadFromDB_channel]
    by_cases hgroup : guestGroupID = 0 <;> by_cases hch : c.channelID = 0 <;>
      simp [hgroup, hch, lookup_loadChannelPermissionChain, entryAt, loadServerGroupPermissions]
  · rw [if_neg hguest, if_neg hguest]
    exact resolve_loadFromDB db c.userID c.channelID key

/-- The winner depends on nothing but the entries at the caller's places. -/
lemma callerWinner_congr {guestGroupID : Int} {db db' : PermDB} {c : Caller} {key : String}
    (hgroups : db'.serverGroups = db.serverGroups)
    (hchannelGroups : db'.channelGroups = db.channelGroups) (hchannels : db'.channels = db.channels)
    (h : ∀ loc ∈ callerPlaces guestGroupID db c, entryAt db' loc key = entryAt db loc key) :
    callerWinner guestGroupID db' c key = callerWinner guestGroupID db c key := by
  unfold callerPlaces at h
  unfold callerWinner
  by_cases hguest : c.userID = 0
  · simp only [if_pos hguest] at h ⊢
    have hgroup : guestGroupID ≠ 0 → entryAt db' (.serverGroup guestGroupID) key =
        entryAt db (.serverGroup guestGroupID) key := fun h0 => h _ (by simp [h0])
    have hchain : c.channelID ≠ 0 → chainEntry db' c.channelID key =
        chainEntry db c.channelID key := fun h0 =>
      chainEntry_congr hchannels fun id hid => h _ (by simp [h0, hid])
    by_cases hg : guestGroupID = 0 <;> by_cases hch : c.channelID = 0 <;> simp_all
  · simp only [if_neg hguest] at h ⊢
    exact winner_congr (congrFun hgroups _) (congrFun (congrFun hchannelGroups _) _) hchannels h

@[simp] lemma admin_permCheckerFor :
    (permCheckerFor guestGroupID db c).admin = (decide (c.userID ≠ 0) && c.isAdmin) := by
  unfold permCheckerFor
  by_cases hguest : c.userID = 0 <;> simp [hguest]

@[simp] lemma guest_permCheckerFor :
    (permCheckerFor guestGroupID db c).guest = decide (c.userID = 0) := by
  unfold permCheckerFor
  by_cases hguest : c.userID = 0 <;> simp [hguest]

/-! ## A negated entry -/

section negated

variable {pc : PermChecker} {key : String} {p : Permission} {tier : Tier}

/-- The checker's own entry is the resolver's winner. -/
lemma own_of_resolve (hres : resolve pc.tp key = some (p, tier)) : pc.own key = some p := by
  unfold own
  rw [hres]
  rfl

lemma notNegated_of_negate (hadmin : pc.admin = false) (hres : resolve pc.tp key = some (p, tier))
    (hneg : p.negate = true) : pc.notNegated key = false := by
  rw [notNegated_eq_own, own_of_resolve hres, hadmin]
  simp [hneg]

/-- A negated power meets a needed power exactly when nothing is needed. -/
lemma powerAtLeast_of_negate (hadmin : pc.admin = false)
    (hres : resolve pc.tp key = some (p, tier)) (hneg : p.negate = true) (needed : Int) :
    pc.powerAtLeast key needed = decide (needed ≤ 0) := by
  rw [powerAtLeast_eq_own, own_of_resolve hres, hadmin]
  simp [value_of_resolve_negate hres hneg]

/-- When the caller may act on the target, both loads having succeeded. -/
lemma checkPowerOver_eq_ok_iff {target : PermChecker} {neededKey : String} :
    checkPowerOver (.ok pc) (.ok target) key neededKey = .ok () ↔
      (pc.admin = true ∨ target.admin = false) ∧
        pc.powerAtLeast key (target.neededPower neededKey) = true := by
  simp only [checkPowerOver]
  cases hpc : pc.admin <;> cases htarget : target.admin <;>
    cases hpower : pc.powerAtLeast key (target.neededPower neededKey) <;> simp

/-- **A negated power denies exactly where more than 0 is needed.** For a client that is not an
admin and whose winning entry for a key is negated: the power comparison denies if and only if the
needed power is positive; acting on a target is refused if and only if the target is an admin or
needs a positive power, be it a kick, a ban or a move; while `granted`, `notNegated` and
`talkAllowed` deny in every case. -/
theorem powerAtLeast_negated_iff (hadmin : pc.admin = false)
    (hres : resolve pc.tp key = some (p, tier)) (hneg : p.negate = true) :
    (∀ needed, pc.powerAtLeast key needed = false ↔ 0 < needed) ∧
      (∀ (action : PowerAction) (target : PermChecker), action.powerKey = key →
        (checkPowerOver (.ok pc) (.ok target) action.powerKey action.neededKey ≠ .ok () ↔
          target.admin = true ∨ 0 < target.neededPower action.neededKey)) ∧
      pc.granted key = false ∧ pc.notNegated key = false ∧
      (key = clientTalkPower → pc.talkAllowed = false) := by
  refine ⟨?_, ?_, ?_, notNegated_of_negate hadmin hres hneg, ?_⟩
  · intro needed
    rw [powerAtLeast_of_negate hadmin hres hneg, decide_eq_false_iff_not, not_le]
  · rintro action target rfl
    rw [ne_eq, checkPowerOver_eq_ok_iff, powerAtLeast_of_negate hadmin hres hneg, hadmin]
    cases target.admin <;> simp
  · rw [granted_eq_own, own_of_resolve hres, hadmin]
    simp [value_of_resolve_negate hres hneg]
  · rintro rfl
    rw [talkAllowed, notNegated_of_negate hadmin hres hneg, hadmin]
    rfl

end negated

/-- A client whose server group negates the power to kick from a channel. -/
def negatedKicker : PermChecker where
  tp := (∅ : TieredPermissions).insert .serverGroup
    (PermissionSet.set ∅ ⟨kickFromChannel.powerKey, .integer, 75, 0, false, true⟩)
  admin := false

/-- A client without any entry, as needed powers are by default. -/
def plainTarget : PermChecker where
  tp := ∅
  admin := false

theorem powerAtLeast_negated_iff_kicker :
    negatedKicker.powerAtLeast kickFromChannel.powerKey 1 = false :=
  ((@powerAtLeast_negated_iff negatedKicker kickFromChannel.powerKey
    ⟨kickFromChannel.powerKey, .integer, 0, 0, false, true⟩ .serverGroup rfl
    (by decide) rfl).1 1).mpr (by decide)

/-- **A negated kick power kicks**: its holder passes the check against a client whose needed power
was never set. -/
theorem negated_power_passes_check :
    (resolve negatedKicker.tp kickFromChannel.powerKey).map
        (fun r => r.1.negate) = some true ∧
      negatedKicker.admin = false ∧
      negatedKicker.powerAtLeast kickFromChannel.powerKey 0 = true ∧
      checkPowerOver (.ok negatedKicker) (.ok plainTarget) kickFromChannel.powerKey
        kickFromChannel.neededKey = .ok () ∧
      negatedKicker.notNegated kickFromChannel.powerKey = false := by
  decide

end Voicx.Server
