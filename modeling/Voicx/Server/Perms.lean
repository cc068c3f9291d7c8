import Voicx.Permissions.Loader

/-!
# The permission checker of a request

Model of `internal/server/perms.go`: the caller's tiers, loaded for the channel it stands in, and
the questions the handlers ask about them.

* `Caller` — what the server knows about the connection that sends a request.
* `PermChecker`, `permCheckerFor` — the checker. A guest has the channel tier and, where one is
  configured, the Guest server group, and nothing else.
* `callerPlaces` — the places whose rows can reach the checker; `permCheckerFor_below` — and nothing
  else does.
-/

namespace Voicx.Server

open Found Permissions

/-- The caller of a request. `userID` 0 is a guest; `channelID` is the channel the state manager
places the client in, 0 for none. -/
structure Caller where
  userID : Int
  isAdmin : Bool := false
  channelID : Int := 0
  deriving DecidableEq, Repr

/-- Source: `internal/server/perms.go`, `permChecker` -/
structure PermChecker where
  tp : TieredPermissions
  admin : Bool
  guest : Bool := false

/-- The checker of a caller over the database as it stands. `guestGroupID` is the configured
default Guest group, 0 for none.
Source: `internal/server/perms.go`, `permCheckerFor` -/
def permCheckerFor (guestGroupID : Int) (db : PermDB) (c : Caller) : PermChecker :=
  if c.userID = 0 then
    let tp : TieredPermissions := ∅
    let tp :=
      if c.channelID ≠ 0 then
        -- only channel rules apply to the virtual guest identity
        match ((loadFromDB 0 c.channelID).eval db).lookup .channel with
        | some channel => tp.insert .channel channel
        | none => tp
      else tp
    let tp :=
      if guestGroupID ≠ 0 then
        tp.insert .serverGroup ((loadServerGroupPermissions guestGroupID).eval db)
      else tp
    { tp, admin := false, guest := true }
  else { tp := (loadFromDB c.userID c.channelID).eval db, admin := c.isAdmin }

/-- Source: `internal/server/perms.go`, `granted` -/
def PermChecker.granted (pc : PermChecker) (key : String) : Bool :=
  pc.admin || ((resolveBool pc.tp key).map Prod.fst).getD false

/-- The entry the caller itself resolves for a key. -/
def PermChecker.own (pc : PermChecker) (key : String) : Option Permission :=
  (resolve pc.tp key).map Prod.fst

/-! ## Which rows reach a checker -/

/-- The places whose rows a caller's checker is built from. -/
def callerPlaces (guestGroupID : Int) (db : PermDB) (c : Caller) : List PermLoc :=
  if c.userID = 0 then
    (if c.channelID ≠ 0 then (channelTierOf db c.channelID).map PermLoc.channel else []) ++
      if guestGroupID ≠ 0 then [.serverGroup guestGroupID] else []
  else appliesTo db c.userID c.channelID

/-- The channel tier of a load is that of the inheritance chain. -/
lemma loadFromDB_channel (db : PermDB) (userID channelID : Int) :
    ((loadFromDB userID channelID).eval db).lookup .channel =
      some ((loadChannelPermissionChain channelID).eval db) := by
  simp only [loadFromDB, ReadProg.eval_bind, ReadProg.eval_ask, ReadProg.eval_forEach,
    ReadProg.eval_pure, FMap.lookup_insert_ite]
  rfl

/-- **A checker invents nothing**: what every row at the caller's places stays under, the entry the
caller resolves stays under. -/
theorem permCheckerFor_below {guestGroupID : Int} {db : PermDB} {c : Caller} {B : Int}
    {key : String} (h : RowsBelow db (callerPlaces guestGroupID db c) B key) (hB : 0 ≤ B)
    {p : Permission} (hp : (permCheckerFor guestGroupID db c).own key = some p) : p.Below B := by
  obtain ⟨⟨p', tier⟩, hres, rfl⟩ := Option.map_eq_some_iff.mp hp
  refine resolve_below (fun tier set hset => ?_) hB hres
  unfold permCheckerFor at hset
  unfold callerPlaces at h
  by_cases hguest : c.userID = 0
  · simp only [if_pos hguest, loadFromDB_channel] at h hset
    by_cases hgroup : guestGroupID = 0 <;> by_cases hch : c.channelID = 0 <;>
      simp only [hgroup, hch, ne_eq, not_true_eq_false, not_false_eq_true, if_true, if_false,
        FMap.lookup_insert_ite, List.append_nil, List.nil_append] at h hset
    · simp at hset
    · split_ifs at hset
      · cases hset
        exact loadChannelPermissionChain_below h fun id hid => List.mem_map_of_mem hid
      · simp at hset
    · split_ifs at hset
      · cases hset
        exact loadPermissionRows_below h (by simp)
      · simp at hset
    · split_ifs at hset
      · cases hset
        exact loadPermissionRows_below h (by simp)
      · cases hset
        exact loadChannelPermissionChain_below h fun id hid => by simp [hid]
      · simp at hset
  · simp only [if_neg hguest] at h hset
    exact loadFromDB_below h hB tier set hset

end Voicx.Server
