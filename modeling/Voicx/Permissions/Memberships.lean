import Voicx.Found.Run
import Voicx.Permissions.Loader

/-!
# Group memberships

Model of the membership part of `internal/store`: the tables `server_group_members` and
`channel_group_members`, the users and privilege tokens that lead to memberships, and the functions
that write them. A server group membership may carry an expiry. Nothing reads it except the sweep:
`AssignServerGroup` documents it as "an expiry that the reaper enforces", and the reaper calls
`ExpiredGroupMembers` every minute.

* `MemberDB`, `MemberDB.permDB` — the tables, and what the permission loader sees of them.
* `assignServerGroup`, `useTokenForIdentity`, … — the store's functions. The flag `ok` says whether
  the statement or transaction goes through.
* `MembershipWrite`, `membershipStep` — any of them as a step.
* `NoneExpired` — no stored membership had expired at a time. `noneExpired_throughout` — a sweep
  establishes it for its own time and later writes keep it.
* **`load_after_sweep`** — a membership counts as long as its row is stored, whatever its expiry;
  after a sweep, memberships that had expired by then give nothing.

Source names without a file are from `internal/store/groups.go`.
-/

namespace Voicx.Permissions

open Found

/-! ## The tables -/

/-- A row of `users`.
Source: `internal/store/migrations/001_init.sql`, `users`
Fidelity: without the timestamps, the index `uq_users_nickname` and NULL nicknames -/
structure UserRow where
  id : Int
  uniqueID : String
  nickname : String := ""
  passwordHash : String := ""
  publicKey : String := ""
  isAdmin : Bool := false
  deriving DecidableEq, Repr

/-- A row of `tokens`. A `groupID` of 0 stands for NULL as well: both mean a grant of server admin.
Source: `internal/store/tokens.go`, `Token`
Fidelity: the columns a redemption reads or writes -/
structure TokenRow where
  groupID : Int := 0
  uses : Int := 0
  maxUses : Int := 1
  usedBy : String := ""
  deriving DecidableEq, Repr

/-- The tables that memberships are read from and written to. -/
structure MemberDB where
  perms : PermRows
  channels : Int → Option ChannelRow
  /-- the ids of `server_groups` -/
  serverGroups : Finset Int
  /-- the ids of `channel_groups` -/
  channelGroups : Finset Int
  /-- (user, group) ↦ `expires_at`, `none` for a membership without expiry -/
  serverMembers : FMap (Int × Int) (Option Int)
  /-- (user, channel) ↦ groups -/
  channelMembers : SetMap (Int × Int) Int
  users : List UserRow
  tokens : FMap String TokenRow
  /-- the next value of the id sequence of `users` -/
  nextUserID : Int

namespace MemberDB

variable (db : MemberDB)

/-- Source: `internal/permissions/loader.go`, `LoadServerGroupsForUser` -/
def loadServerGroupsForUser (userID : Int) : List Int :=
  ((db.serverMembers.keys.filter fun k => k.1 = userID).image Prod.snd).sort (· ≤ ·)

/-- Source: `internal/permissions/loader.go`, `LoadChannelGroupsForUser` -/
def loadChannelGroupsForUser (userID channelID : Int) : List Int :=
  (db.channelMembers.elems (userID, channelID)).sort (· ≤ ·)

/-- The tables as the permission loader reads them. -/
def permDB : PermDB where
  perms := db.perms
  serverGroups := db.loadServerGroupsForUser
  channelGroups := db.loadChannelGroupsForUser
  channels := db.channels

/-- A user row with the id exists. -/
def hasUser (userID : Int) : Bool := db.users.any fun u => u.id == userID

/-- The `users` row of a unique id.
Source: `internal/auth/service.go`, `LookupUser` -/
def lookupUser (uniqueID : String) : Option UserRow := db.users.find? fun u => u.uniqueID == uniqueID

/-! ## The store's functions -/

/-- The expiry of a new membership; an `expiresIn` of 0 or less means none. -/
def expiresAt (now expiresIn : Int) : Option Int :=
  if 0 < expiresIn then some (now + expiresIn) else none

variable (ok : Bool)

/-- Add a membership, or replace the expiry of one that is stored. The referenced rows must exist.
Source: `AssignServerGroup` -/
def assignServerGroup (now groupID userID expiresIn : Int) : Except String MemberDB :=
  if ok && decide (groupID ∈ db.serverGroups) && db.hasUser userID then
    .ok { db with
      serverMembers := db.serverMembers.insert (userID, groupID) (expiresAt now expiresIn) }
  else .error "assigning server group"

/-- Source: `UnassignServerGroup` -/
def unassignServerGroup (groupID userID : Int) : Except String MemberDB :=
  if ok then .ok { db with serverMembers := db.serverMembers.erase (userID, groupID) }
  else .error "unassigning server group"

/-- A user holds at most one channel group per channel: whatever was stored is replaced.
Source: `AssignChannelGroup` -/
def assignChannelGroup (groupID userID channelID : Int) : Except String MemberDB :=
  if ok && decide (groupID ∈ db.channelGroups) && db.hasUser userID &&
      (db.channels channelID).isSome then
    .ok { db with channelMembers := db.channelMembers.insert (userID, channelID) {groupID} }
  else .error "assigning channel group"

/-- Source: `UnassignChannelGroup` -/
def unassignChannelGroup (userID channelID : Int) : Except String MemberDB :=
  if ok then .ok { db with channelMembers := db.channelMembers.erase (userID, channelID) }
  else .error "unassigning channel group"

/-- The rows that do not hang on a place. -/
def permsWithout (loc : PermLoc) : PermRows where
  rows := db.perms.rows.filter fun r => r.loc ≠ loc
  unique := db.perms.unique.sublist (List.filter_sublist.map _)

variable (groupID : Int)

/-- The number of members of a server group. -/
def serverMemberCount : ℕ := (db.serverMembers.keys.filter fun k => k.2 = groupID).card

/-- The number of members of a channel group, over all channels. -/
def channelMemberCount : ℕ :=
  (db.channelMembers.keys.filter fun k => groupID ∈ db.channelMembers.elems k).card

/-- Delete a server group with everything that references it. -/
def deleteServerGroup (force : Bool) : Except String MemberDB :=
  if groupID ∉ db.serverGroups then .error "group not found"
  else if db.serverMemberCount groupID > 0 ∧ !force then
    .error ("group has " ++ toString (db.serverMemberCount groupID) ++ " members (use force)")
  else
    .ok { db with
      serverGroups := db.serverGroups.erase groupID
      serverMembers := db.serverMembers.filter fun k _ => k.2 != groupID
      perms := db.permsWithout (.serverGroup groupID) }

/-- Delete a channel group with everything that references it. -/
def deleteChannelGroup (force : Bool) : Except String MemberDB :=
  if groupID ∉ db.channelGroups then .error "group not found"
  else if db.channelMemberCount groupID > 0 ∧ !force then
    .error ("group has " ++ toString (db.channelMemberCount groupID) ++ " members (use force)")
  else
    .ok { db with
      channelGroups := db.channelGroups.erase groupID
      channelMembers := db.channelMembers.removeAll db.channelMembers.keys groupID
      perms := db.permsWithout (.channelGroup groupID) }

/-- Source: `DeleteGroup` -/
def deleteGroup (groupType : String) (groupID : Int) (force : Bool) : Except String MemberDB :=
  if !ok then .error "deleting group"
  else if groupType = "channel" then db.deleteChannelGroup groupID force
  else db.deleteServerGroup groupID force

/-- `expires_at IS NOT NULL AND expires_at <= $1`. -/
def expired (now : Int) (expiresAt : Option Int) : Bool := expiresAt.any fun e => decide (e ≤ now)

/-- The memberships without those that have expired. -/
def withoutExpired (now : Int) : MemberDB :=
  { db with serverMembers := db.serverMembers.filter fun _ e => !expired now e }

/-- The periodic sweep; the pairs it removed are returned for the notifications.
Source: `ExpiredGroupMembers` -/
def expiredGroupMembers (now : Int) : MemberDB × Finset (Int × Int) :=
  (db.withoutExpired now,
    db.serverMembers.keys.filter fun k => ((db.serverMembers.lookup k).any (expired now)) = true)

end MemberDB

open MemberDB

/-! ### Tokens and guests -/

/-- Source: `internal/store/tokens.go`, `ErrTokenNotFound`, `ErrTokenExhausted`; `failed` is every
other error -/
inductive TokenError
  | notFound
  | exhausted
  | failed (detail : String)
  deriving DecidableEq, Repr

/-- Source: `internal/store/tokens.go`, `TokenGrant` -/
structure TokenGrant where
  userID : Int
  groupID : Int := 0
  admin : Bool := false
  promoted : Bool := false
  deriving DecidableEq, Repr

namespace MemberDB

variable (db : MemberDB)

/-- The `users` row of an identity, created if there is none; the flag says whether it was. -/
def ensureUser (uniqueID nickname : String) : MemberDB × UserRow × Bool :=
  match db.lookupUser uniqueID with
  | some u => (db, u, false)
  | none =>
    let u : UserRow := { id := db.nextUserID, uniqueID, nickname }
    ({ db with users := db.users ++ [u], nextUserID := db.nextUserID + 1 }, u, true)

/-- An account without a nickname takes the one of the session. -/
def fillNickname (uniqueID nickname : String) : MemberDB :=
  { db with
    users := db.users.map fun u =>
      if u.uniqueID = uniqueID ∧ u.nickname = "" then { u with nickname } else u }

/-- The user a redemption is for: the caller, or the account of a guest, created in the same
transaction. An account with a password is not taken over. -/
def redeemer (userID : Int) (uniqueID nickname : String) :
    Except TokenError (MemberDB × Int × Bool) :=
  if userID ≠ 0 then .ok (db, userID, false)
  else if uniqueID = "" then .error (.failed "guest identity is required")
  else
    let (db, u, inserted) := db.ensureUser uniqueID nickname
    if !inserted && u.passwordHash != "" then
      .error (.failed ("user " ++ uniqueID ++ " already exists with credentials"))
    else .ok (db.fillNickname uniqueID nickname, u.id, inserted)

/-- One more use of the token, by the user. -/
def consumeToken (key : String) (userID : Int) : MemberDB :=
  { db with
    tokens := db.tokens.modify key fun t =>
      { t with
        uses := t.uses + 1
        usedBy := ((db.users.find? fun u => u.id == userID).map UserRow.uniqueID).getD "" } }

/-- The membership a token grants. A membership that is stored keeps its expiry unless it has
expired already, in which case it loses it. -/
def grantMembership (now userID groupID : Int) : MemberDB :=
  { db with
    serverMembers :=
      match db.serverMembers.lookup (userID, groupID) with
      | none => db.serverMembers.insert (userID, groupID) none
      | some e => if expired now e then db.serverMembers.insert (userID, groupID) none
          else db.serverMembers }

/-- The admin flag a token without a group grants. -/
def grantAdmin (userID : Int) : MemberDB :=
  { db with users := db.users.map fun u => if u.id = userID then { u with isAdmin := true } else u }

/-- The grant of a token: a membership, or the admin flag; then the commit. -/
def applyGrant (ok : Bool) (now : Int) (token : TokenRow) (userID : Int) (promoted : Bool) :
    Except TokenError (MemberDB × TokenGrant) :=
  if !ok then .error (.failed "committing token use")
  else if token.groupID = 0 then .ok (db.grantAdmin userID, { userID, admin := true, promoted })
  else if token.groupID ∈ db.serverGroups ∧ db.hasUser userID then
    .ok (db.grantMembership now userID token.groupID, { userID, groupID := token.groupID, promoted })
  else .error (.failed "assigning server group")

/-- Redeem a token, in one transaction.
Source: `internal/store/tokens.go`, `UseTokenForIdentity` -/
def useTokenForIdentity (ok : Bool) (now : Int) (key : String) (userID : Int)
    (uniqueID nickname : String) : Except TokenError (MemberDB × TokenGrant) :=
  match db.tokens.lookup key with
  | none => .error .notFound
  | some token =>
    if token.uses ≥ token.maxUses then .error .exhausted
    else match db.redeemer userID uniqueID nickname with
      | .error e => .error e
      | .ok r => (r.1.consumeToken key r.2.1).applyGrant ok now token r.2.1 r.2.2

/-- A membership of either kind. -/
def assignGroup (ok : Bool) (now : Int) (groupType : String) (groupID userID channelID : Int)
    (expiresIn : Int) : Except String MemberDB :=
  if groupType = "channel" then db.assignChannelGroup ok groupID userID channelID
  else db.assignServerGroup ok now groupID userID expiresIn

/-- Persist a guest with its first membership, in one transaction.
Source: `internal/store/guest_groups.go`, `AssignGuestGroup` -/
def assignGuestGroup (ok : Bool) (now : Int) (groupType : String) (groupID channelID : Int)
    (uniqueID nickname : String) (expiry : Int) : Except String (MemberDB × Int) :=
  if uniqueID = "" ∨ (groupType ≠ "server" ∧ groupType ≠ "channel") then
    .error "invalid guest group assignment"
  else
    let r := db.ensureUser uniqueID nickname
    if r.2.1.passwordHash ≠ "" ∨ r.2.1.publicKey ≠ "" then
      .error "identity already has account credentials; reconnect before assignment"
    else match r.1.assignGroup ok now groupType groupID r.2.1.id channelID expiry with
      | .error e => .error ("assigning guest group: " ++ e)
      | .ok db => .ok (db, r.2.1.id)

section redemption

variable {db db' : MemberDB} {ok : Bool} {now userID : Int} {key uniqueID nickname : String}
  {grant : TokenGrant}

/-- The parts of a redemption that went through. -/
lemma useTokenForIdentity_cases
    (h : db.useTokenForIdentity ok now key userID uniqueID nickname = .ok (db', grant)) :
    ∃ token r, db.tokens.lookup key = some token ∧ token.uses < token.maxUses ∧
      db.redeemer userID uniqueID nickname = .ok r ∧
      (r.1.consumeToken key r.2.1).applyGrant ok now token r.2.1 r.2.2 = .ok (db', grant) := by
  unfold useTokenForIdentity at h
  split at h
  · cases h
  rename_i token htoken
  by_cases huses : token.uses ≥ token.maxUses
  · rw [if_pos huses] at h
    cases h
  · rw [if_neg huses] at h
    split at h
    · cases h
    · rename_i r hr
      exact ⟨token, r, htoken, not_le.mp huses, hr, h⟩

/-- The grant is to the redeemer, as an admin or as a member of the group of the token. -/
lemma applyGrant_cases {token : TokenRow} {promoted : Bool}
    (h : db.applyGrant ok now token userID promoted = .ok (db', grant)) :
    grant.userID = userID ∧
      (grant.groupID = 0 ∧ db' = db.grantAdmin userID ∨
        grant.groupID = token.groupID ∧ db' = db.grantMembership now userID token.groupID) := by
  unfold applyGrant at h
  split_ifs at h with hok hgroup hfk
  · cases h
    exact ⟨rfl, .inl ⟨rfl, rfl⟩⟩
  · cases h
    exact ⟨rfl, .inr ⟨rfl, rfl⟩⟩

lemma redeemer_cases {r : MemberDB × Int × Bool}
    (h : db.redeemer userID uniqueID nickname = .ok r) :
    r.1 = db ∨ r.1 = (db.ensureUser uniqueID nickname).1.fillNickname uniqueID nickname ∧
      r.2.1 = (db.ensureUser uniqueID nickname).2.1.id := by
  unfold redeemer at h
  split_ifs at h
  · cases h
    exact .inl rfl
  · dsimp only at h
    split_ifs at h
    cases h
    exact .inr ⟨rfl, rfl⟩

end redemption

end MemberDB

/-! ## Writes in sequence -/

/-- A call of a function that writes memberships. The expiries are relative to `now`. -/
inductive MembershipWrite
  | assign (ok : Bool) (now groupID userID expiresIn : Int)
  | unassign (ok : Bool) (groupID userID : Int)
  | assignChannel (ok : Bool) (groupID userID channelID : Int)
  | unassignChannel (ok : Bool) (userID channelID : Int)
  | assignGuest (ok : Bool) (now : Int) (groupType : String) (groupID channelID : Int)
      (uniqueID nickname : String) (expiry : Int)
  | useToken (ok : Bool) (now : Int) (key : String) (userID : Int) (uniqueID nickname : String)
  | deleteGroup (ok : Bool) (groupType : String) (groupID : Int) (force : Bool)
  | sweep (now : Int)

/-- The call is not made before a time. -/
def MembershipWrite.NotBefore (t : Int) : MembershipWrite → Prop
  | .assign _ now _ _ _ | .assignGuest _ now _ _ _ _ _ _ | .useToken _ now _ _ _ _ | .sweep now =>
    t ≤ now
  | _ => True

/-- A call that fails leaves the tables as they were. -/
def MemberDB.orSame {ε α : Type} (db : MemberDB) (out : α → MemberDB) : Except ε α → MemberDB
  | .ok a => out a
  | .error _ => db

/-- The tables after a call. -/
def membershipStep (db : MemberDB) : MembershipWrite → MemberDB
  | .assign ok now groupID userID expiresIn =>
    db.orSame id (db.assignServerGroup ok now groupID userID expiresIn)
  | .unassign ok groupID userID => db.orSame id (db.unassignServerGroup ok groupID userID)
  | .assignChannel ok groupID userID channelID =>
    db.orSame id (db.assignChannelGroup ok groupID userID channelID)
  | .unassignChannel ok userID channelID =>
    db.orSame id (db.unassignChannelGroup ok userID channelID)
  | .assignGuest ok now groupType groupID channelID uniqueID nickname expiry =>
    db.orSame Prod.fst
      (db.assignGuestGroup ok now groupType groupID channelID uniqueID nickname expiry)
  | .useToken ok now key userID uniqueID nickname =>
    db.orSame Prod.fst (db.useTokenForIdentity ok now key userID uniqueID nickname)
  | .deleteGroup ok groupType groupID force =>
    db.orSame id (db.deleteGroup ok groupType groupID force)
  | .sweep now => (db.expiredGroupMembers now).1

/-! ## Expiry -/

namespace MemberDB

/-- Every stored membership is valid beyond the time. -/
def NoneExpired (t : Int) (db : MemberDB) : Prop :=
  ∀ k e, db.serverMembers.lookup k = some e → expired t e = false

section noneExpired

variable {t : Int} {db db' : MemberDB}

section

variable (h : db.NoneExpired t)

include h

/-- Where nothing has expired, leaving out the expired changes nothing. -/
lemma NoneExpired.withoutExpired_eq : db.withoutExpired t = db := by
  have hsame : (db.serverMembers.filter fun _ e => !expired t e) = db.serverMembers := by
    refine Finmap.ext_lookup fun k => ?_
    apply Option.ext
    intro e
    rw [FMap.lookup_filter_eq_some]
    constructor
    · exact And.left
    · intro he
      exact ⟨he, by simp [h k e he]⟩
  rw [withoutExpired, hsame]

/-- A write that stores one membership, valid beyond the time. -/
theorem NoneExpired.insert (k : Int × Int) (e : Option Int) (he : expired t e = false)
    (hdb : db'.serverMembers = db.serverMembers.insert k e) : db'.NoneExpired t := by
  intro k' e' hk'
  rw [hdb] at hk'
  rcases FMap.lookup_insert_eq_some.mp hk' with ⟨-, rfl⟩ | ⟨-, hold⟩
  · exact he
  · exact h k' e' hold

/-- A write that stores nothing new. -/
lemma NoneExpired.of_subset
    (hdb : ∀ k e, db'.serverMembers.lookup k = some e → db.serverMembers.lookup k = some e) :
    db'.NoneExpired t := fun k e he => h k e (hdb k e he)

lemma NoneExpired.of_eq (hdb : db'.serverMembers = db.serverMembers) :
    db'.NoneExpired t := h.of_subset fun k e he => by rwa [hdb] at he

end


variable {now groupID userID channelID : Int} {ok : Bool} {uniqueID nickname groupType : String}

/-- An expiry that is set later lies beyond the time. -/
lemma expired_expiresAt (hnow : t ≤ now) (expiresIn : Int) :
    expired t (expiresAt now expiresIn) = false := by
  unfold expiresAt
  split_ifs with hpos
  · simp only [expired, Option.any_some, decide_eq_false_iff_not, not_le]
    omega
  · rfl

/-- A new membership is valid beyond the time. -/
theorem NoneExpired.assignServerGroup (h : db.NoneExpired t) {expiresIn : Int} (hnow : t ≤ now)
    (hdb : db.assignServerGroup ok now groupID userID expiresIn = .ok db') : db'.NoneExpired t := by
  unfold MemberDB.assignServerGroup at hdb
  split_ifs at hdb
  cases hdb
  exact h.insert (userID, groupID) _ (expired_expiresAt hnow expiresIn) rfl

lemma assignChannelGroup_serverMembers
    (hdb : db.assignChannelGroup ok groupID userID channelID = .ok db') :
    db'.serverMembers = db.serverMembers := by
  unfold assignChannelGroup at hdb
  split_ifs at hdb
  cases hdb
  rfl

lemma ensureUser_serverMembers (db : MemberDB) (uniqueID nickname : String) :
    (db.ensureUser uniqueID nickname).1.serverMembers = db.serverMembers := by
  unfold ensureUser
  split <;> rfl

lemma redeemer_serverMembers {r : MemberDB × Int × Bool}
    (hdb : db.redeemer userID uniqueID nickname = .ok r) :
    r.1.serverMembers = db.serverMembers := by
  obtain heq | ⟨heq, -⟩ := redeemer_cases hdb
  · rw [heq]
  · rw [heq]
    exact ensureUser_serverMembers db uniqueID nickname

variable (h : db.NoneExpired t)

include h

lemma NoneExpired.grantMembership (now userID groupID : Int) :
    (db.grantMembership now userID groupID).NoneExpired t := by
  cases hmem : db.serverMembers.lookup (userID, groupID) with
  | none => exact h.insert (userID, groupID) none rfl (by simp [MemberDB.grantMembership, hmem])
  | some e =>
    by_cases hexp : expired now e = true
    · exact h.insert (userID, groupID) none rfl (by simp [MemberDB.grantMembership, hmem, hexp])
    · exact h.of_eq (by simp [MemberDB.grantMembership, hmem, hexp])

lemma NoneExpired.applyGrant {promoted : Bool} {token : TokenRow}
    {r : MemberDB × TokenGrant} (hdb : db.applyGrant ok now token userID promoted = .ok r) :
    r.1.NoneExpired t := by
  obtain ⟨-, ⟨-, heq⟩ | ⟨-, heq⟩⟩ := applyGrant_cases hdb
  · exact heq ▸ h.of_eq rfl
  · exact heq ▸ h.grantMembership now userID token.groupID

/-- A membership from a token does not expire. -/
theorem NoneExpired.useTokenForIdentity {key : String} {r : MemberDB × TokenGrant}
    (hdb : db.useTokenForIdentity ok now key userID uniqueID nickname = .ok r) :
    r.1.NoneExpired t := by
  obtain ⟨token, r₁, -, -, hred, hgrant⟩ := useTokenForIdentity_cases hdb
  have hconsumed : (r₁.1.consumeToken key r₁.2.1).NoneExpired t :=
    h.of_eq (redeemer_serverMembers hred)
  exact hconsumed.applyGrant hgrant

lemma NoneExpired.assignGroup {expiresIn : Int} (hnow : t ≤ now)
    (hdb : db.assignGroup ok now groupType groupID userID channelID expiresIn = .ok db') :
    db'.NoneExpired t := by
  unfold MemberDB.assignGroup at hdb
  split_ifs at hdb
  · exact h.of_eq (assignChannelGroup_serverMembers hdb)
  · exact h.assignServerGroup hnow hdb

lemma NoneExpired.assignGuestGroup {ok : Bool} {now : Int}
    {groupType uniqueID nickname : String} {groupID channelID expiry : Int} {r : MemberDB × Int}
    (hnow : t ≤ now)
    (hdb : db.assignGuestGroup ok now groupType groupID channelID uniqueID nickname expiry = .ok r) :
    r.1.NoneExpired t := by
  have hensured := h.of_eq (ensureUser_serverMembers db uniqueID nickname)
  unfold MemberDB.assignGuestGroup at hdb
  dsimp only at hdb
  split_ifs at hdb
  split at hdb
  · cases hdb
  · rename_i hassign
    cases hdb
    exact hensured.assignGroup hnow hassign

/-- Deleting a group stores no membership. -/
lemma NoneExpired.deleteGroup {force : Bool}
    (hdb : db.deleteGroup ok groupType groupID force = .ok db') : db'.NoneExpired t := by
  unfold MemberDB.deleteGroup deleteChannelGroup deleteServerGroup at hdb
  split_ifs at hdb <;> cases hdb
  · exact h.of_eq rfl
  · exact h.of_subset fun k e he => (FMap.lookup_filter_eq_some.mp he).1

lemma NoneExpired.orSame {ε α : Type} {out : α → MemberDB}
    {result : Except ε α} (hok : ∀ a, result = .ok a → (out a).NoneExpired t) :
    (db.orSame out result).NoneExpired t := by
  cases result with
  | error e => exact h
  | ok a => exact hok a rfl

/-- **One write**, made no earlier than the time, keeps every membership valid beyond it. -/
theorem NoneExpired.step {w : MembershipWrite} (hw : w.NotBefore t) :
    (membershipStep db w).NoneExpired t := by
  cases w with
  | assign ok now groupID userID expiresIn =>
    exact h.orSame fun db' hdb => h.assignServerGroup hw hdb
  | unassign ok groupID userID =>
    refine h.orSame fun db' hdb => ?_
    unfold unassignServerGroup at hdb
    split_ifs at hdb
    cases hdb
    exact h.of_subset fun _ _ => FMap.lookup_of_lookup_erase
  | assignChannel ok groupID userID channelID =>
    exact h.orSame fun db' hdb => h.of_eq (assignChannelGroup_serverMembers hdb)
  | unassignChannel ok userID channelID =>
    refine h.orSame fun db' hdb => ?_
    unfold unassignChannelGroup at hdb
    split_ifs at hdb
    cases hdb
    exact h.of_eq rfl
  | assignGuest ok now groupType groupID channelID uniqueID nickname expiry =>
    exact h.orSame fun r hr => h.assignGuestGroup hw hr
  | useToken ok now key userID uniqueID nickname =>
    exact h.orSame fun r hr => h.useTokenForIdentity hr
  | deleteGroup ok groupType groupID force => exact h.orSame fun db' hdb => h.deleteGroup hdb
  | sweep now => exact h.of_subset fun k e he => (FMap.lookup_filter_eq_some.mp he).1

end noneExpired

/-- After a sweep, no membership that had expired by then is stored, whatever is written later. -/
theorem noneExpired_throughout (db : MemberDB) (t : Int) {ws : List MembershipWrite}
    (hws : ∀ w ∈ ws, w.NotBefore t) :
    Throughout membershipStep (NoneExpired t) (db.expiredGroupMembers t).1 ws := by
  have hstart : (db.expiredGroupMembers t).1.NoneExpired t := by
    intro k e he
    obtain ⟨-, hp⟩ := FMap.lookup_filter_eq_some.mp he
    simpa using hp
  have hstep : ∀ (db : MemberDB) (w : MembershipWrite), db.NoneExpired t → w.NotBefore t →
      (membershipStep db w).NoneExpired t := fun _ _ h hw => h.step hw
  exact throughout_of_stepsOK hstep hstart (StepsOK.of_mem hws)

end MemberDB

/-- The tables with other server group memberships. -/
def MemberDB.withServerMembers (db : MemberDB) (members : FMap (Int × Int) (Option Int)) : MemberDB :=
  { db with serverMembers := members }

/-- The loader's groups are those with a stored membership. -/
lemma loadServerGroupsForUser_congr {db db' : MemberDB}
    (h : ∀ k, k ∈ db'.serverMembers ↔ k ∈ db.serverMembers) :
    db'.loadServerGroupsForUser = db.loadServerGroupsForUser := by
  have hkeys : db'.serverMembers.keys = db.serverMembers.keys := by
    ext k
    rw [Finmap.mem_keys, Finmap.mem_keys, h]
  funext userID
  rw [loadServerGroupsForUser, loadServerGroupsForUser, hkeys]

/-- **What an expiry does.** The set built for a user in a channel depends on which memberships are
stored and not on their expiries. After a sweep, and after any writes that follow it, it is the set
that would be built if every membership that had expired by the time of the sweep were absent. -/
theorem load_after_sweep (db : MemberDB) :
    (∀ members : FMap (Int × Int) (Option Int), (∀ k, k ∈ members ↔ k ∈ db.serverMembers) →
        ∀ userID channelID,
          (loadFromDB userID channelID).eval (db.withServerMembers members).permDB =
            (loadFromDB userID channelID).eval db.permDB) ∧
      ∀ t (ws : List MembershipWrite), (∀ w ∈ ws, w.NotBefore t) → ∀ userID channelID,
        (loadFromDB userID channelID).eval
            (run membershipStep (db.expiredGroupMembers t).1 ws).permDB =
          (loadFromDB userID channelID).eval
            ((run membershipStep (db.expiredGroupMembers t).1 ws).withoutExpired t).permDB := by
  constructor
  · intro members hsame userID channelID
    have hgroups : (db.withServerMembers members).loadServerGroupsForUser =
        db.loadServerGroupsForUser := loadServerGroupsForUser_congr hsame
    have hdb : (db.withServerMembers members).permDB = db.permDB := by
      rw [permDB, hgroups]
      rfl
    rw [hdb]
  · intro t ws hws userID channelID
    rw [((noneExpired_throughout db t hws).final).withoutExpired_eq]

/-! ### A membership between its expiry and the sweep -/

/-- User 7 is in group 1, which may poke, until time 10. -/
def timedMember : MemberDB where
  perms := PermRows.empty.put (.serverGroup 1) { key := "b_client_poke", value := 1 }
  channels := fun _ => none
  serverGroups := {1}
  channelGroups := ∅
  serverMembers := (∅ : FMap (Int × Int) (Option Int)).insert (7, 1) (some 10)
  channelMembers := ∅
  users := [{ id := 7, uniqueID := "u7" }]
  tokens := ∅
  nextUserID := 8

/-- The resolved value of user 7 outside of channels. -/
def pokeValue (db : MemberDB) : Option Int :=
  (resolve ((loadFromDB 7 0).eval db.permDB) "b_client_poke").map fun r => r.1.value

/-- Without its expiry the membership gives the same set. Swept at 20 and assigned again for 5, the
user may poke, and nothing that is stored had expired at 20. -/
theorem load_after_sweep_renewed :
    (loadFromDB 7 0).eval (timedMember.withServerMembers
          ((∅ : FMap (Int × Int) (Option Int)).insert (7, 1) none)).permDB =
        (loadFromDB 7 0).eval timedMember.permDB ∧
      pokeValue (run membershipStep (timedMember.expiredGroupMembers 20).1
        [.assign true 21 1 7 5]) = some 1 ∧
      (loadFromDB 7 0).eval (run membershipStep (timedMember.expiredGroupMembers 20).1
          [.assign true 21 1 7 5]).permDB =
        (loadFromDB 7 0).eval ((run membershipStep (timedMember.expiredGroupMembers 20).1
          [.assign true 21 1 7 5]).withoutExpired 20).permDB :=
  ⟨(load_after_sweep timedMember).1 _ (fun k => by simp [timedMember]) 7 0,
    by decide +kernel, (load_after_sweep timedMember).2 20 [.assign true 21 1 7 5]
    (List.forall_mem_singleton.mpr (show (20 : Int) ≤ 21 by decide)) 7 0⟩

/-- At time 20, before the sweep, the membership that expired at 10 still counts. -/
theorem expired_membership_counts :
    pokeValue timedMember = some 1 ∧ pokeValue (timedMember.withoutExpired 20) = none := by
  decide +kernel

end Voicx.Permissions
