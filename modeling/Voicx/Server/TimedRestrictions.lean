import Voicx.Auth.Service
import Voicx.Server.Grants

/-!
# Restrictions with a duration

A ban, a `group_assign` request and the ServerQuery command `servergroupaddclient` take a duration
in seconds. Each multiplies it into nanoseconds in 64 bits before it is added to the time.

* `recordBan`, `serverGroupAddClient` — the entry points that are not in `Grants`.
* `Restriction.stored` — the expiry that an accepted request stores; `none` stands for no expiry.
* **`restriction_timed_iff`** — up to which duration a restriction stays timed, with longer ones
  ending later.

Times are nanoseconds after the zero time. A membership of a channel group has no expiry column.
-/

namespace Voicx.Server

open Permissions MemberDB
open Auth (BanRow)

/-- The zero time stands for a permanent ban.
Source: `internal/server/handlers.go`, `banExpiration` -/
def banExpiration (now seconds : Int) : Int :=
  if seconds ≤ 0 then 0 else now + durationSeconds seconds

/-- Source: `internal/server/handlers.go`, `persistentBanExpiration` -/
def persistentBanExpiration (expiresAt : Int) : Option Int :=
  if expiresAt = 0 then none else some expiresAt

/-- The row that a ban inserts; `write` says whether the statement succeeds.
Source: `internal/server/handlers.go`, `recordBan`, `insertBan` -/
def recordBan (write : Bool) (id now : Int) (uniqueID reason : String) (seconds : Int) :
    Option BanRow :=
  if write then
    some { id, banType := 1, value := uniqueID, reason := some reason
           expiresAt := persistentBanExpiration (banExpiration now seconds) }
  else none

/-- Source: `internal/query/commands.go`, `cmdServergroupaddclient`, and `cmd/server/main.go`,
`ServerGroupAddClient` -/
def serverGroupAddClient (env : GrantEnv) (db : MemberDB) (groupID : Int) (uniqueID : String)
    (seconds : Int) : Except String MemberDB :=
  if uniqueID = "" ∨ seconds < 0 then .error "invalid parameter"
  else if !env.lookup then .error "looking up user"
  else match db.lookupUser uniqueID with
    | none => .error "user not found"
    | some user => db.assignServerGroup env.write env.now groupID user.id (durationSeconds seconds)

/-- A request for a restriction, without its duration. -/
inductive Restriction
  | ban (write : Bool) (id : Int) (uniqueID reason : String)
  | groupAssign (env : GrantEnv) (db : MemberDB) (msg : GroupAssign)
  | groupAdd (env : GrantEnv) (db : MemberDB) (groupID : Int) (uniqueID : String)

namespace Restriction

/-- The expiry of a user's membership, if there is one. -/
def membership (db : MemberDB) (groupID : Int) (uniqueID : String) : Option (Option Int) :=
  (db.lookupUser uniqueID).bind fun user => db.serverMembers.lookup (user.id, groupID)

/-- What a `group_assign` request stores: a membership of a channel group has no expiry. -/
def granted (msg : GroupAssign) (reply : GrantReply) : Option (Option Int) :=
  reply.result.toOption.bind fun _ =>
    if msg.type = "channel" then some none else membership reply.db msg.groupID msg.uniqueID

/-- The expiry that the request stores for a duration; `none` if it is refused. -/
def stored (now seconds : Int) : Restriction → Option (Option Int)
  | .ban write id uniqueID reason =>
    (recordBan write id now uniqueID reason seconds).map BanRow.expiresAt
  | .groupAssign env db msg =>
    granted msg (handleGroupAssign { env with now } db { msg with expiresInSeconds := seconds })
  | .groupAdd env db groupID uniqueID =>
    (serverGroupAddClient { env with now } db groupID uniqueID seconds).toOption.bind fun db' =>
      membership db' groupID uniqueID

/-- Every positive duration up to `seconds` is stored as a time after now, and none ends after the
restriction for `seconds` does. -/
def StaysTimed (r : Restriction) (now seconds : Int) : Prop :=
  ∀ s, 0 < s → s ≤ seconds →
    ∃ t t', r.stored now s = some (some t) ∧ r.stored now seconds = some (some t') ∧
      now < t ∧ t ≤ t'

/-! ## What is stored -/

/-- The request is for a membership of a channel group. -/
def forChannel : Restriction → Bool
  | .groupAssign _ _ msg => msg.type == "channel"
  | _ => false

/-- The request is for a ban. -/
def isBan : Restriction → Bool
  | .ban .. => true
  | _ => false

/-- The expiry of a membership; one of a channel group has none. -/
def memberExpiry (channel : Bool) (now seconds : Int) : Option Int :=
  if channel then none else expiresAt now (durationSeconds seconds)

/-- The expiry that an accepted request stores for a positive duration. -/
def expiry (now seconds : Int) : Restriction → Option Int
  | .ban .. => persistentBanExpiration (now + durationSeconds seconds)
  | r => memberExpiry r.forChannel now seconds

section stored

variable {db : MemberDB} {uniqueID : String} {user : UserRow} {msg : GroupAssign}

/-- Whether a request is accepted does not depend on its duration: every one is refused, or every
one stores its expiry. -/
def Answers (f : Int → Option (Option Int)) (e : Int → Option Int) : Prop :=
  (∀ s, 0 < s → f s = none) ∨ ∀ s, 0 < s → f s = some (e s)

lemma Answers.congr {f g : Int → Option (Option Int)} {e : Int → Option Int} (h : Answers f e)
    (hfg : ∀ s, 0 < s → g s = f s) : Answers g e :=
  h.imp (fun h s hs => (hfg s hs).trans (h s hs)) fun h s hs => (hfg s hs).trans (h s hs)

lemma answers_assignServerGroup (huser : db.lookupUser uniqueID = some user) (ok : Bool)
    (now groupID : Int) :
    Answers (fun s => (db.assignServerGroup ok now groupID user.id
      (durationSeconds s)).toOption.bind (membership · groupID uniqueID))
      (memberExpiry false now) := by
  rw [lookupUser] at huser
  unfold assignServerGroup
  split_ifs
  · right
    intro s _
    simp [Except.toOption, membership, lookupUser, huser, memberExpiry]
  · exact .inl fun _ _ => rfl

lemma answers_assignUser (huser : db.lookupUser msg.uniqueID = some user) (env : GrantEnv) :
    Answers (fun s => granted msg (assignUser env db { msg with expiresInSeconds := s } user.id))
      (memberExpiry (msg.type == "channel") env.now) := by
  simp only [assignUser, assignGroup]
  by_cases hch : msg.type = "channel"
  · -- the statement for a channel group does not read the duration
    simp only [hch, if_true]
    cases db.assignChannelGroup env.write msg.groupID user.id msg.channelID with
    | error e => exact .inl fun _ _ => rfl
    | ok db' => exact .inr fun _ _ => if_pos hch
  · simp only [hch, if_false, beq_eq_false_iff_ne.mpr hch]
    refine (answers_assignServerGroup huser env.write env.now msg.groupID).congr fun s _ => ?_
    cases db.assignServerGroup env.write env.now msg.groupID user.id (durationSeconds s) with
    | error e => rfl
    | ok db' => exact if_neg hch

lemma lookupUser_ensureUser (db : MemberDB) (uniqueID nickname : String) :
    (db.ensureUser uniqueID nickname).1.lookupUser uniqueID =
      some (db.ensureUser uniqueID nickname).2.1 := by
  unfold ensureUser
  cases huser : db.lookupUser uniqueID with
  | some u => exact huser
  | none =>
    rw [lookupUser] at huser
    simp [lookupUser, huser]

lemma answers_assignOnlineGuest (env : GrantEnv) (db : MemberDB) (msg : GroupAssign) :
    Answers (fun s => granted msg (assignOnlineGuest env db { msg with expiresInSeconds := s }))
      (memberExpiry (msg.type == "channel") env.now) := by
  simp only [assignOnlineGuest, assignGuestGroup]
  cases env.clientByUniqueID msg.uniqueID with
  | none => exact .inl fun _ _ => rfl
  | some target =>
    dsimp only
    split_ifs
    iterate 3 exact .inl fun _ _ => rfl
    -- the guest has a row now, and is assigned the group like any user
    refine (answers_assignUser (lookupUser_ensureUser db msg.uniqueID target.username) env).congr
      fun s _ => ?_
    simp only [assignUser]
    cases (db.ensureUser msg.uniqueID target.username).1.assignGroup env.write env.now msg.type
      msg.groupID (db.ensureUser msg.uniqueID target.username).2.1.id msg.channelID
      (durationSeconds s) <;> rfl

lemma answers_stored (r : Restriction) (now : Int) :
    Answers (fun s => r.stored now s) (fun s => r.expiry now s) := by
  cases r with
  | ban write id uniqueID reason =>
    cases write
    · exact .inl fun _ _ => rfl
    · exact .inr fun s hs => by simp [stored, recordBan, banExpiration, expiry, hs.not_ge]
  | groupAdd env db groupID uniqueID =>
    -- a positive duration passes the command's check
    refine Answers.congr ?_ fun s hs => by
      simp only [stored, serverGroupAddClient, hs.not_gt, or_false]
      rfl
    split_ifs
    iterate 2 exact .inl fun _ _ => rfl
    cases huser : db.lookupUser uniqueID with
    | none => exact .inl fun _ _ => rfl
    | some user => exact answers_assignServerGroup huser env.write now groupID
  | groupAssign env db msg =>
    simp only [stored, handleGroupAssign, groupGated]
    cases env.pc with
    | none => exact .inl fun _ _ => rfl
    | some pc =>
      dsimp only
      split_ifs
      iterate 4 exact .inl fun _ _ => rfl
      cases huser : db.lookupUser msg.uniqueID with
      | some user => exact answers_assignUser huser _
      | none => exact answers_assignOnlineGuest _ db msg

end stored

/-! ## Which durations stay timed -/

lemma durationSeconds_of_le {s : Int} (hs : 0 < s) (hle : s ≤ 9223372036) :
    durationSeconds s = s * 1000000000 :=
  Int.bmod_eq_of_le (by omega) (by omega)

/-- What is stored for a duration whose product fits. -/
lemma expiry_of_le {r : Restriction} {now s : Int} (hch : r.forChannel = false) (hs : 0 < s)
    (hle : s ≤ 9223372036) (hzero : r.isBan = true → now + s * 1000000000 ≠ 0) :
    r.expiry now s = some (now + s * 1000000000) := by
  have hd := durationSeconds_of_le hs hle
  cases r with
  | ban =>
    simp only [expiry, persistentBanExpiration, hd]
    exact if_neg (hzero rfl)
  | groupAssign | groupAdd =>
    simp only [expiry, hch, memberExpiry, expiresAt, hd]
    rw [if_neg Bool.false_ne_true, if_pos (by omega)]

/-- The first duration whose product wraps around is over before it starts, or never ends. -/
lemma expiry_wraps (r : Restriction) (now : Int) :
    r.expiry now 9223372037 = none ∨ ∃ t ≤ now, r.expiry now 9223372037 = some t := by
  have hd : durationSeconds 9223372037 < 0 := by decide
  cases r with
  | ban =>
    simp only [expiry, persistentBanExpiration]
    split_ifs
    · exact .inl rfl
    · exact .inr ⟨_, by omega, rfl⟩
  | groupAssign | groupAdd =>
    refine .inl ?_
    simp [expiry, memberExpiry, expiresAt, if_neg hd.not_gt]

end Restriction

open Restriction

/-- An accepted restriction stays timed exactly if it is not for a channel group, its duration in
nanoseconds fits 63 bits, and no ban up to it ends at the zero time. -/
theorem restriction_timed_iff (r : Restriction) (now : Int) {seconds : Int} (hs : 0 < seconds)
    (hacc : (r.stored now seconds).isSome) :
    r.StaysTimed now seconds ↔ r.forChannel = false ∧ seconds ≤ 9223372036 ∧
      (r.isBan = true → ∀ s, 0 < s → s ≤ seconds → now + s * 1000000000 ≠ 0) := by
  have hstored (s : Int) (h : 0 < s) : r.stored now s = some (r.expiry now s) := by
    obtain hnone | hsome := answers_stored r now
    · simp [hnone seconds hs] at hacc
    · exact hsome s h
  constructor
  · intro h
    have htimed (s : Int) (h0 : 0 < s) (hle : s ≤ seconds) :
        ∃ t, r.expiry now s = some t ∧ now < t := by
      obtain ⟨t, -, ht, -, hlt, -⟩ := h s h0 hle
      rw [hstored s h0, Option.some_inj] at ht
      exact ⟨t, ht, hlt⟩
    have hle : seconds ≤ 9223372036 := by
      by_contra hgt
      obtain ⟨t, ht, hlt⟩ := htimed 9223372037 (by omega) (by omega)
      obtain hnone | ⟨u, hu, hsome⟩ := expiry_wraps r now
      · simp [hnone] at ht
      · cases hsome.symm.trans ht
        omega
    refine ⟨?_, hle, fun hban s h0 hle' hzero => ?_⟩
    · by_contra hch
      obtain ⟨t, ht, -⟩ := htimed seconds hs le_rfl
      cases r <;> simp_all [forChannel, expiry, memberExpiry]
    · obtain ⟨t, ht, -⟩ := htimed s h0 hle'
      have hd : durationSeconds s = s * 1000000000 := durationSeconds_of_le h0 (by omega)
      cases r <;> simp_all [isBan, expiry, persistentBanExpiration]
  · rintro ⟨hch, hle, hzero⟩ s h hle'
    refine ⟨now + s * 1000000000, now + seconds * 1000000000, ?_, ?_, by omega, by omega⟩
    · rw [hstored s h, expiry_of_le hch h (hle'.trans hle) fun hban => hzero hban s h hle']
    · rw [hstored seconds hs, expiry_of_le hch hs hle fun hban => hzero hban seconds hs le_rfl]

theorem ban_of_an_hour : (ban true 1 "uid" "spam").StaysTimed 63930000000000000000 3600 :=
  (restriction_timed_iff _ _ (by decide) rfl).mpr ⟨rfl, by decide, fun _ s _ _ => by omega⟩

/-- A ban for about 292 years is over before it starts. -/
theorem ban_of_three_centuries :
    (ban true 1 "uid" "spam").stored 63930000000000000000 9223372037 =
      some (some 54706627963290448384) ∧
    ¬(ban true 1 "uid" "spam").StaysTimed 63930000000000000000 9223372037 := by
  refine ⟨by decide, fun h => ?_⟩
  obtain ⟨t, -, ht, -, hlt, -⟩ := h 9223372037 (by decide) le_rfl
  obtain rfl : 54706627963290448384 = t := Option.some.inj (Option.some.inj ht)
  omega

end Voicx.Server
