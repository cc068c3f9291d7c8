import Voicx.Permissions.Memberships
import Voicx.Permissions.Stale
import Voicx.Server.Perms
import Voicx.Server.Reply

/-!
# Handlers that change memberships

Model of `handleTokenUse` in `internal/server/extras.go` and of `handleGroupAssign`,
`handleGroupUnassign` and `handleGroupDelete` in `internal/server/groups.go`. Each changes the
tables and then invalidates the permission cache. The three group handlers drop the whole cache.
`token_use` drops one entry of it, the one for the channel the redeeming client stands in; its
comment says "Invalidate the cached permissions so the grant takes effect now".

* `handleTokenUse`, `handleGroupAssign`, `handleGroupUnassign`, `handleGroupDelete` — the handlers,
  from the tables before to a `GrantReply`.
* `deleteServerGroupWithAssets` — the deletion of a server group with its icon, which looks again
  when the deletion reports an error.
* `SameStanding` — a user's memberships and admin flag are the same in two states of the tables.
* `handleTokenUse_standing` — a redemption changes nobody but the user of the grant.
* **`grants_take_effect_iff`** — when later loads of the changed user see the change.

Source names without a file are from `internal/server/groups.go`.
-/

namespace Voicx.Server

open Found Permissions MemberDB List Permissions.System

/-! ## Requests and replies -/

/-- Source: `internal/netproto/codec.go`, `GroupAssign`
Fidelity: without `AckRequested` -/
structure GroupAssign where
  type : String
  groupID : Int
  uniqueID : String
  channelID : Int := 0
  expiresInSeconds : Int := 0
  deriving DecidableEq, Repr

/-- Source: `internal/netproto/codec.go`, `GroupUnassign` -/
structure GroupUnassign where
  type : String
  groupID : Int
  uniqueID : String
  channelID : Int := 0
  deriving DecidableEq, Repr

/-- Source: `internal/netproto/codec.go`, `GroupDelete` -/
structure GroupDelete where
  type : String
  groupID : Int
  force : Bool := false
  deriving DecidableEq, Repr

/-- A request that changes memberships or an admin flag. -/
inductive GrantRequest
  | tokenUse (token : String)
  | groupAssign (msg : GroupAssign)
  | groupUnassign (msg : GroupUnassign)
  | groupDelete (msg : GroupDelete)
  deriving DecidableEq, Repr

/-- What happens around the deletion of a server group besides the deletion itself. -/
structure GroupAssetFaults where
  /-- the assets are opened and the tombstone is written -/
  prepared : Bool := true
  /-- the answer of a deletion that went through arrives -/
  answered : Bool := true
  /-- the lookup that follows a reported error succeeds -/
  confirmed : Bool := true
  /-- the tombstone of a deletion that did not happen is removed -/
  withdrawn : Bool := true
  /-- the icon and the tombstone are removed -/
  cleaned : Bool := true
  deriving DecidableEq, Repr

/-- An online client with the unique id a request names. -/
structure OnlineClient where
  userID : Int
  username : String
  deriving DecidableEq, Repr

/-- What a handler finds: the sending client, the server, and how its calls end. -/
structure GrantEnv where
  /-- the caller's checker, `none` if it could not be loaded -/
  pc : Option PermChecker
  userID : Int
  uniqueID : String
  username : String
  /-- the channel the state manager places the sending client in, 0 for none -/
  channelID : Int
  clientByUniqueID : String → Option OnlineClient
  /-- the time, in nanoseconds -/
  now : Int
  /-- the query of `LookupUser` succeeds -/
  lookup : Bool := true
  /-- the statement or transaction of the store goes through -/
  write : Bool := true
  assets : GroupAssetFaults := {}

/-- Sessions that are given an account: the sending client, or every client with a unique id.
Source: `internal/server/tcp.go`, `promote` -/
inductive Promotion
  | sender (userID : Int) (admin : Bool)
  | identity (uniqueID : String) (userID : Int)
  deriving DecidableEq, Repr

/-- The tables after a request, what it told sessions and the loader, and the reply. -/
structure GrantReply where
  db : MemberDB
  promotion : Option Promotion := none
  invalidation : Option Invalidation := none
  result : Except ErrorReply Unit

/-- A refusal. -/
def refuseGrant (db : MemberDB) (code : ErrCode) (message : String) : GrantReply :=
  { db, result := .error ⟨code, message⟩ }

/-! ## The handlers -/

section handlers

variable (env : GrantEnv) (db : MemberDB)

/-- Source: `internal/server/extras.go`, `handleTokenUse` -/
def handleTokenUse (token : String) : GrantReply :=
  if token = "" then refuseGrant db .malformed "empty token"
  else match db.useTokenForIdentity env.write env.now token env.userID env.uniqueID env.username with
    | .error .notFound => refuseGrant db .notFound "unknown token"
    | .error .exhausted => refuseGrant db .malformed "token has no uses left"
    | .error (.failed _) => refuseGrant db .unavailable "token use failed"
    | .ok r =>
      -- only the entry of the channel the client stands in is dropped
      { db := r.1
        promotion := some (.sender r.2.userID r.2.admin)
        invalidation := some (.pair r.2.userID env.channelID)
        result := .ok () }

/-- Source: `groupManageKey` -/
def groupManageKey (groupType : String) : String :=
  if groupType = "channel" then "b_channel_group_manage" else "b_server_group_manage"

/-- Source: `groupTypeOf` -/
def groupTypeOf (t : String) : String := if t = "channel" then "channel" else "server"

/-- The checks the group handlers start with. -/
def groupGated (groupType : String) (body : GrantReply) : GrantReply :=
  match env.pc with
  | none => refuseGrant db .unavailable "permission backend unavailable"
  | some pc =>
    if !pc.granted (groupManageKey groupType) then
      refuseGrant db .permissionDenied ("insufficient permission: " ++ groupManageKey groupType)
    else body

/-- `time.Duration(seconds) * time.Second`, in 64 bits. -/
def durationSeconds (seconds : Int) : Int := (seconds * 1000000000).bmod (2 ^ 64)

/-- A change that went through: the whole cache is dropped. -/
def flushed (db : MemberDB) (promotion : Option Promotion) : GrantReply :=
  { db, promotion, invalidation := some .all, result := .ok () }

/-- A guest that is online is given an account with its first membership. -/
def assignOnlineGuest (msg : GroupAssign) : GrantReply :=
  match env.clientByUniqueID msg.uniqueID with
  | none => refuseGrant db .notFound "target user not found"
  | some target =>
    if target.userID ≠ 0 then refuseGrant db .notFound "target user not found"
    else match db.assignGuestGroup env.write env.now msg.type msg.groupID msg.channelID msg.uniqueID
        target.username (durationSeconds msg.expiresInSeconds) with
      | .error e => refuseGrant db .unavailable ("assign failed: " ++ e)
      | .ok r => flushed r.1 (some (.identity msg.uniqueID r.2))

/-- A known user is given a membership. -/
def assignUser (msg : GroupAssign) (userID : Int) : GrantReply :=
  match db.assignGroup env.write env.now msg.type msg.groupID userID msg.channelID
      (durationSeconds msg.expiresInSeconds) with
  | .error e => refuseGrant db .unavailable ("assign failed: " ++ e)
  | .ok db => flushed db none

/-- Source: `handleGroupAssign` -/
def handleGroupAssign (msg : GroupAssign) : GrantReply :=
  groupGated env db msg.type <|
    if msg.type ≠ "server" ∧ msg.type ≠ "channel" then
      refuseGrant db .malformed "invalid group type"
    else if msg.type = "channel" ∧ msg.channelID = 0 then
      refuseGrant db .malformed "channel_id is required for channel groups"
    else if !env.lookup then refuseGrant db .unavailable "user lookup unavailable"
    else match db.lookupUser msg.uniqueID with
      | none => assignOnlineGuest env db msg
      | some user => assignUser env db msg user.id

/-- The membership a request removes. -/
def unassignGroup (msg : GroupUnassign) (userID : Int) : Except String MemberDB :=
  if msg.type = "channel" then db.unassignChannelGroup env.write userID msg.channelID
  else db.unassignServerGroup env.write msg.groupID userID

/-- A failing lookup is reported like an unknown user.
Source: `handleGroupUnassign` -/
def handleGroupUnassign (msg : GroupUnassign) : GrantReply :=
  groupGated env db msg.type <|
    if !env.lookup then refuseGrant db .notFound "target user not found"
    else match db.lookupUser msg.uniqueID with
      | none => refuseGrant db .notFound "target user not found"
      | some user =>
        match unassignGroup env db msg user.id with
        | .error e => refuseGrant db .unavailable ("unassign failed: " ++ e)
        | .ok db => flushed db none

/-- How the deletion of a server group ends.
Source: `internal/server/assets.go`, `errGroupDeleteAssetUnavailable`,
`errGroupDeleteIndeterminate`; `refused` is every other error of a group that is still there,
`iconLeft` an error after the deletion -/
inductive DeleteEnd
  | deleted
  | iconLeft
  | assetUnavailable
  | indeterminate
  | refused (detail : String)
  deriving DecidableEq, Repr

/-- What a reported error of the deletion turns out to be: a group that is gone counts as
deleted. -/
def afterDeleteError (db : MemberDB) (groupID : Int) (detail : String) : DeleteEnd :=
  if !env.assets.confirmed then .indeterminate
  else if groupID ∈ db.serverGroups then
    if env.assets.withdrawn then .refused detail else .assetUnavailable
  else if env.assets.cleaned then .deleted
  else .iconLeft

/-- Source: `internal/server/assets.go`, `deleteServerGroupWithAssets` -/
def deleteServerGroupWithAssets (groupID : Int) (force : Bool) : MemberDB × DeleteEnd :=
  if groupID ≤ 0 then (db, .refused "asset group not found")
  else if !env.assets.prepared then (db, .assetUnavailable)
  else match db.deleteGroup env.write "server" groupID force with
    | .error e => (db, afterDeleteError env db groupID e)
    | .ok db' =>
      if env.assets.answered then (db', if env.assets.cleaned then .deleted else .iconLeft)
      else (db', afterDeleteError env db' groupID "committing")

/-- Channel groups have no icon. -/
def deleteAnyGroup (msg : GroupDelete) : MemberDB × DeleteEnd :=
  if groupTypeOf msg.type = "server" then deleteServerGroupWithAssets env db msg.groupID msg.force
  else match db.deleteGroup env.write "channel" msg.groupID msg.force with
    | .error e => (db, .refused e)
    | .ok db' => (db', .deleted)

/-- Source: `handleGroupDelete` -/
def handleGroupDelete (msg : GroupDelete) : GrantReply :=
  groupGated env db msg.type <|
    let r := deleteAnyGroup env db msg
    match r.2 with
    | .deleted => flushed r.1 none
    | .iconLeft =>
      { flushed r.1 none with
        result := .error ⟨.unavailable, "group deleted but icon cleanup failed"⟩ }
    | .indeterminate =>
      -- the deletion may have gone through, so the cache is dropped all the same
      { flushed r.1 none with
        result := .error ⟨.unavailable, "group deletion outcome is indeterminate"⟩ }
    | .assetUnavailable => refuseGrant r.1 .unavailable "group icon lifecycle unavailable"
    | .refused e => refuseGrant r.1 .malformed ("delete failed: " ++ e)

/-- One request. -/
def handleGrant : GrantRequest → GrantReply
  | .tokenUse token => handleTokenUse env db token
  | .groupAssign msg => handleGroupAssign env db msg
  | .groupUnassign msg => handleGroupUnassign env db msg
  | .groupDelete msg => handleGroupDelete env db msg

end handlers

/-! ## Whom a handler changes -/

section standing

variable {db db' db'' : MemberDB} {u : Int}

/-- The admin flag of a user. -/
def adminFlag (db : MemberDB) (u : Int) : Bool := db.users.any fun row => row.id == u && row.isAdmin

/-- A user has the same memberships and the same admin flag in two states of the tables. -/
structure SameStanding (u : Int) (db db' : MemberDB) : Prop where
  serverGroups : db'.loadServerGroupsForUser u = db.loadServerGroupsForUser u
  channelGroups : ∀ channelID, db'.loadChannelGroupsForUser u channelID =
    db.loadChannelGroupsForUser u channelID
  admin : adminFlag db' u = adminFlag db u

lemma SameStanding.refl (u : Int) (db : MemberDB) : SameStanding u db db := ⟨rfl, fun _ => rfl, rfl⟩

lemma SameStanding.trans (h : SameStanding u db db') (h' : SameStanding u db' db'') :
    SameStanding u db db'' where
  serverGroups := h'.serverGroups.trans h.serverGroups
  channelGroups channelID := (h'.channelGroups channelID).trans (h.channelGroups channelID)
  admin := h'.admin.trans h.admin

variable {userID now groupID : Int} {uniqueID nickname : String} {ok : Bool}

/-- Only the server group memberships of somebody else are different. -/
lemma sameStanding_of_insert (hu : u ≠ userID) {e : Option Int}
    (hserver : db'.serverMembers = db.serverMembers.insert (userID, groupID) e)
    (hchannel : db'.channelMembers = db.channelMembers) (husers : db'.users = db.users) :
    SameStanding u db db' where
  serverGroups := by
    have hkeys : (db'.serverMembers.keys.filter fun k => k.1 = u) =
        db.serverMembers.keys.filter fun k => k.1 = u := by
      ext k
      simp only [hserver, Finset.mem_filter, Finmap.mem_keys, Finmap.mem_insert, and_congr_left_iff]
      rintro rfl
      refine or_iff_right fun hk => ?_
      exact hu (congrArg Prod.fst hk)
    rw [loadServerGroupsForUser, loadServerGroupsForUser, hkeys]
  channelGroups channelID := by
    rw [loadChannelGroupsForUser, loadChannelGroupsForUser, hchannel]
  admin := by rw [adminFlag, adminFlag, husers]

/-- Only `users` is different, and not in the admin flag of the user. -/
lemma sameStanding_of_users (hserver : db'.serverMembers = db.serverMembers)
    (hchannel : db'.channelMembers = db.channelMembers) (hadmin : adminFlag db' u = adminFlag db u) :
    SameStanding u db db' where
  serverGroups := by rw [loadServerGroupsForUser, loadServerGroupsForUser, hserver]
  channelGroups channelID := by
    rw [loadChannelGroupsForUser, loadChannelGroupsForUser, hchannel]
  admin := hadmin

lemma sameStanding_fillNickname (u : Int) (db : MemberDB) (uniqueID nickname : String) :
    SameStanding u db (db.fillNickname uniqueID nickname) := by
  refine sameStanding_of_users rfl rfl ?_
  simp only [adminFlag, fillNickname, any_map]
  congr 1
  funext row
  by_cases hrow : row.uniqueID = uniqueID ∧ row.nickname = ""
  · simp [hrow]
  · simp [hrow]

lemma sameStanding_redeemer {r : MemberDB × Int × Bool}
    (h : db.redeemer userID uniqueID nickname = .ok r) : SameStanding u db r.1 := by
  obtain heq | ⟨heq, -⟩ := redeemer_cases h
  · rw [heq]
    exact .refl u db
  rw [heq]
  refine SameStanding.trans ?_ (sameStanding_fillNickname u _ uniqueID nickname)
  -- a new account has no rights
  unfold ensureUser
  split
  · exact .refl u db
  · refine sameStanding_of_users rfl rfl ?_
    simp [adminFlag]

lemma sameStanding_grantMembership (hu : u ≠ userID) :
    SameStanding u db (db.grantMembership now userID groupID) := by
  have hinsert : SameStanding u db
      { db with serverMembers := db.serverMembers.insert (userID, groupID) none } :=
    sameStanding_of_insert hu rfl rfl rfl
  unfold grantMembership
  split
  · exact hinsert
  · split_ifs
    · exact hinsert
    · exact .refl u db

lemma sameStanding_grantAdmin (hu : u ≠ userID) : SameStanding u db (db.grantAdmin userID) := by
  refine sameStanding_of_users rfl rfl ?_
  simp only [adminFlag, grantAdmin, any_map]
  congr 1
  funext row
  by_cases hrow : row.id = userID
  · simp [hrow, hu.symm]
  · simp [hrow]

lemma sameStanding_applyGrant {token : TokenRow} {promoted : Bool} {r : MemberDB × TokenGrant}
    (h : db.applyGrant ok now token userID promoted = .ok r) (hu : u ≠ r.2.userID) :
    SameStanding u db r.1 := by
  obtain ⟨huser, ⟨-, heq⟩ | ⟨-, heq⟩⟩ := applyGrant_cases h
  · rw [heq]
    exact sameStanding_grantAdmin (huser ▸ hu)
  · rw [heq]
    exact sameStanding_grantMembership (huser ▸ hu)

/-- **A redemption changes nobody but the user of the grant.** -/
theorem useTokenForIdentity_standing {key : String} {r : MemberDB × TokenGrant}
    (h : db.useTokenForIdentity ok now key userID uniqueID nickname = .ok r) (hu : u ≠ r.2.userID) :
    SameStanding u db r.1 := by
  obtain ⟨token, p, -, -, hredeemer, hgrant⟩ := useTokenForIdentity_cases h
  have hconsume : SameStanding u p.1 (p.1.consumeToken key p.2.1) := ⟨rfl, fun _ => rfl, rfl⟩
  exact ((sameStanding_redeemer hredeemer).trans hconsume).trans (sameStanding_applyGrant hgrant hu)

end standing

/-! ## Loads after the reply -/

section loads

variable {env : GrantEnv} {db : MemberDB}

/-- A redemption that succeeds drops one entry of the user it changes. -/
lemma handleTokenUse_invalidation {token : String} {u : Int}
    (hok : (handleTokenUse env db token).result = .ok ())
    (hu : ¬SameStanding u db (handleTokenUse env db token).db) :
    (handleTokenUse env db token).invalidation = some (.pair u env.channelID) := by
  revert hok hu
  unfold handleTokenUse refuseGrant
  split_ifs
  · simp
  split
  · simp
  · simp
  · simp
  rename_i r hr
  intro _ hu
  have heq : u = r.2.userID := by
    by_contra hne
    exact hu (useTokenForIdentity_standing hr hne)
  rw [heq]

lemma groupGated_invalidation {groupType : String} {body : GrantReply}
    (hbody : body.result = .ok () → body.invalidation = some .all)
    (hok : (groupGated env db groupType body).result = .ok ()) :
    (groupGated env db groupType body).invalidation = some .all := by
  revert hok
  unfold groupGated refuseGrant
  split
  · simp
  · split_ifs
    · simp
    · exact hbody

lemma handleGroupAssign_invalidation {msg : GroupAssign}
    (hok : (handleGroupAssign env db msg).result = .ok ()) :
    (handleGroupAssign env db msg).invalidation = some .all := by
  refine groupGated_invalidation ?_ hok
  split_ifs
  · simp [refuseGrant]
  · simp [refuseGrant]
  · simp [refuseGrant]
  split
  · unfold assignOnlineGuest refuseGrant
    split
    · simp
    · split_ifs
      · simp
      · split <;> simp [flushed]
  · unfold assignUser
    split <;> simp [refuseGrant, flushed]

lemma handleGroupUnassign_invalidation {msg : GroupUnassign}
    (hok : (handleGroupUnassign env db msg).result = .ok ()) :
    (handleGroupUnassign env db msg).invalidation = some .all := by
  refine groupGated_invalidation ?_ hok
  split_ifs
  · simp [refuseGrant]
  · split
    · simp [refuseGrant]
    · split <;> simp [refuseGrant, flushed]

/-- Every other request that succeeds drops the whole cache. -/
lemma handleGrant_invalidation {req : GrantRequest} (hreq : ∀ token, req ≠ .tokenUse token)
    (hok : (handleGrant env db req).result = .ok ()) :
    (handleGrant env db req).invalidation = some .all := by
  cases req with
  | tokenUse token => exact absurd rfl (hreq token)
  | groupAssign msg => exact handleGroupAssign_invalidation hok
  | groupUnassign msg => exact handleGroupUnassign_invalidation hok
  | groupDelete msg =>
    refine groupGated_invalidation ?_ hok
    dsimp only
    split <;> simp [refuseGrant, flushed]

end loads

/-- The loader when a request is about to invalidate: after any steps `pre`, the write of the
request and any steps `mid`. -/
def beforeInvalidation (db₀ : PermDB) (pre : List LoaderOp) (reply : GrantReply)
    (mid : List LoaderOp) : System :=
  run step (init db₀) (pre ++ .write reply.db.permDB :: mid)

/-- The loader when the handler replies. -/
def afterReply (db₀ : PermDB) (pre : List LoaderOp) (reply : GrantReply) (mid : List LoaderOp) :
    System :=
  run step (beforeInvalidation db₀ pre reply mid) (reply.invalidation.map Invalidation.op).toList

/-- The step number of the write. -/
def writtenAt (db₀ : PermDB) (pre : List LoaderOp) : Nat :=
  (run step (init db₀) pre).history.tick

variable {db₀ : PermDB} {pre mid : List LoaderOp}

/-- **Loads after a reply.** A request that invalidates with `i`: later loads of a user see its
write if and only if the sets cached for the user after the invalidation do. -/
theorem loads_after_reply {reply : GrantReply} {i : Invalidation} (hi : reply.invalidation = some i)
    (hlap : StepsOK step NotLapped (init db₀)
      (pre ++ .write reply.db.permDB :: mid)) (t u : Int) :
    (∀ post, (∀ op ∈ post, op.NotBefore t) →
        StepsOK step NotLapped (afterReply db₀ pre reply mid) post →
        StepsOK step (ReturnsAfter (writtenAt db₀ pre) u)
          (afterReply db₀ pre reply mid) post) ↔
      ((beforeInvalidation db₀ pre reply mid).step i.op).CachedAfter (writtenAt db₀ pre) t u := by
  have hrun : afterReply db₀ pre reply mid = run step (init db₀)
      ((pre ++ .write reply.db.permDB :: mid) ++ [i.op]) := by
    rw [run_append, afterReply, hi]
    rfl
  have hstep : (beforeInvalidation db₀ pre reply mid).step i.op = run step (init db₀)
      ((pre ++ .write reply.db.permDB :: mid) ++ [i.op]) := by
    rw [run_append]
    rfl
  have hop : ∀ s : System, StepsOK step NotLapped s [i.op] := by
    intro s
    cases i <;> exact ⟨trivial, trivial⟩
  have hlap' := (stepsOK_append _ _ [i.op]).mpr ⟨hlap, hop _⟩
  have hlt : writtenAt db₀ pre < (beforeInvalidation db₀ pre reply mid).history.tick := by
    rw [beforeInvalidation, run_append, tick_run, length_cons, writtenAt]
    omega
  have hinv := invalidatedAfter_op i hlt
  rw [hstep] at hinv ⊢
  rw [hrun]
  exact returnsAfter_iff hlap' hinv

/-- **When a grant takes effect at once.** A request that changes a user's memberships or admin flag
has replied with success at time `t`; loads, writes and invalidations of others happen before, in
the middle and after. Then every later load of the user, for every channel, is built from reads
after the change if and only if the request is not `token_use`, or what is cached for the user under
channels other than the one the redeeming client stands in was read after the change or has
expired. -/
theorem grants_take_effect_iff {env : GrantEnv} {db : MemberDB} {req : GrantRequest} {u t : Int}
    (hok : (handleGrant env db req).result = .ok ())
    (hu : ¬SameStanding u db (handleGrant env db req).db)
    (hlap : StepsOK step NotLapped (init db₀)
      (pre ++ .write (handleGrant env db req).db.permDB :: mid)) :
    (∀ post, (∀ op ∈ post, op.NotBefore t) →
        StepsOK step NotLapped (afterReply db₀ pre (handleGrant env db req) mid) post →
        StepsOK step (ReturnsAfter (writtenAt db₀ pre) u)
          (afterReply db₀ pre (handleGrant env db req) mid) post) ↔
      ∀ token, req = .tokenUse token → ∀ channelID ≠ env.channelID, ∀ e,
        (beforeInvalidation db₀ pre (handleGrant env db req) mid).caches.lookup
            (.client u channelID) = some e →
          e.expires ≤ t ∨ ∀ r ∈ e.reads, writtenAt db₀ pre < r := by
  by_cases hreq : ∃ token, req = .tokenUse token
  · obtain ⟨token, rfl⟩ := hreq
    have hi : (handleGrant env db (.tokenUse token)).invalidation = some (.pair u env.channelID) :=
      handleTokenUse_invalidation hok hu
    rw [loads_after_reply hi hlap t u, cachedAfter_pair]
    constructor
    · intro h _ _
      exact h
    · intro h
      exact h token rfl
  · rw [loads_after_reply (handleGrant_invalidation (not_exists.mp hreq) hok) hlap t u]
    refine iff_of_true (fun channelID e he => ?_) fun token htoken => absurd ⟨token, htoken⟩ hreq
    exact absurd ((Caches.lookup_invalidateAll _ _).symm.trans he) (by simp)

/-! ### A redemption in one channel, a load for another -/

/-- User 7 holds a token for group 1, which may poke. -/
def tokenHolder : MemberDB :=
  { timedMember with
    serverMembers := ∅
    tokens := (∅ : FMap String TokenRow).insert "t" { groupID := 1 } }

/-- User 7 sends a request from channel 3. -/
def fromChannel3 : GrantEnv where
  pc := none
  userID := 7
  uniqueID := "u7"
  username := "u"
  channelID := 3
  clientByUniqueID := fun _ => none
  now := 2

/-- A load of user 7 in a channel from start to end; queries beyond the last one do nothing. -/
def fullLoad (id : Nat) (channelID now : Int) : List LoaderOp :=
  .call id (.client 7 channelID) :: .enter id now false ::
    (List.replicate 8 (.query id false) ++ [.publish id now])

/-- The value of a key in what a call has returned. -/
def returnedValue (s : System) (id : Nat) (key : String) : Option (Option Int) :=
  match s.calls id with
  | some (.returned (.tiers tp)) => some ((resolve tp key).map fun r => r.1.value)
  | _ => none

/-- The token is redeemed at time 2. -/
def redeemed : GrantReply := handleGrant fromChannel3 tokenHolder (.tokenUse "t")

/-- What is cached for channel 3 does no harm: it is dropped, and a load for channel 5 after the
reply has read the grant. -/
theorem grants_take_effect_same_channel :
    redeemed.result = .ok () ∧
      StepsOK step (ReturnsAfter (writtenAt tokenHolder.permDB (fullLoad 0 3 1)) 7)
        (afterReply tokenHolder.permDB (fullLoad 0 3 1) redeemed []) (fullLoad 1 5 3) ∧
      returnedValue (run step
        (afterReply tokenHolder.permDB (fullLoad 0 3 1) redeemed []) (fullLoad 1 5 3)) 1
          "b_client_poke" = some (some 1) := by
  have hok : (handleGrant fromChannel3 tokenHolder (.tokenUse "t")).result = .ok () := by
    decide +kernel
  have hu : ¬SameStanding 7 tokenHolder (handleGrant fromChannel3 tokenHolder (.tokenUse "t")).db :=
    fun h => absurd h.serverGroups (by decide +kernel)
  have hkeys : (beforeInvalidation tokenHolder.permDB (fullLoad 0 3 1)
      (handleGrant fromChannel3 tokenHolder (.tokenUse "t")) []).caches.cache.keys = {(7, 3)} := by
    decide +kernel
  have hlater : ∀ op ∈ fullLoad 1 5 3, op.NotBefore 2 := by
    intro op hop
    simp only [fullLoad, mem_cons, mem_append, mem_replicate] at hop
    rcases hop with rfl | rfl | ⟨-, rfl⟩ | rfl | hop
    · trivial
    · exact Int.le_add_one (Int.le_refl 2)
    · trivial
    · trivial
    · cases hop
  refine ⟨hok, (grants_take_effect_iff hok hu (stepsOK_notLapped (by decide))).mpr ?_
    (fullLoad 1 5 3) hlater (stepsOK_notLapped (by decide +kernel)), by decide +kernel⟩
  intro _ _ channelID hne e he
  have hmem : ((7, channelID) : Int × Int) ∈ ({(7, 3)} : Finset (Int × Int)) := by
    rw [← hkeys]
    exact Finmap.mem_keys.mpr (Finmap.mem_of_lookup_eq_some he)
  rw [Finset.mem_singleton] at hmem
  exact absurd (congrArg Prod.snd hmem) hne

/-- The set cached for channel 5 is returned after the reply, without the granted permission. -/
theorem token_use_leaves_other_channel :
    redeemed.result = .ok () ∧
      returnedValue (run step (afterReply tokenHolder.permDB (fullLoad 0 5 1) redeemed [])
        [.call 1 (.client 7 5), .enter 1 3 false]) 1 "b_client_poke" = some none ∧
      returnedValue (run step (init redeemed.db.permDB) (fullLoad 0 5 3)) 0
        "b_client_poke" = some (some 1) := by
  decide +kernel

end Voicx.Server
