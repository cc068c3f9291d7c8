import Voicx.Server.GrantCap
import Voicx.Server.Powers
import Voicx.State.Membership
import Mathlib.Data.List.TakeWhile

/-!
# Who is told about a permission write

Model of `permAudience` in `internal/server/groups.go`: the unique ids that are notified after a
permission write, and the question whether everyone is among them whose resolution the write moved.

* `Presence` — who is online and where, the users, and the permission database.
* `permAudience` — the code, one enumeration per tier.
* `Moved` — the write changed what an online client resolves for the key in its current channel.
* `Overlooked` — the clients the enumerations leave out although the write is at a place they
  resolve from: guests, for a write to the Guest group, and clients that stand in another channel
  that inherits from the written one.
* `permAudience_complete_iff` — the audience of an accepted write is complete exactly when the write
  stays hidden from every overlooked client.
-/

namespace Voicx.Server

open Found Permissions PermTier Finset State.Manager PermRows

/-! ## The audience -/

/-- Who is online, who the users are, and what the permission tables hold.
Fidelity: a membership in a channel group refers to a row of `channels`, whose ids start at 1, and
the unique id of a session is that of its users row -/
structure Presence where
  state : State.Manager
  coherent : state.Coherent
  /-- the user a session belongs to, by client id; 0 is a guest -/
  userOf : String → Int
  /-- the `users` table: id to unique id -/
  users : FMap Int String
  uniqueID_of_user : ∀ clientID c, state.clients.lookup clientID = some c → userOf clientID ≠ 0 →
    users.lookup (userOf clientID) = some c.uniqueID
  /-- the configured Guest group, 0 for none -/
  guestGroupID : Int
  db : PermDB
  no_lobby_groups : ∀ userID, db.channelGroups userID 0 = []

namespace Presence

variable (w : Presence)

/-- Source: `internal/store/groups.go`, `UserUniqueID` -/
def userUniqueID (userID : Int) : Option String := w.users.lookup userID

/-- The unique ids of the users that pass a test on their id. -/
def uniqueIDsOf (p : Int → Bool) : Finset String :=
  (w.users.keys.filter fun userID => p userID = true).biUnion fun userID =>
    (w.userUniqueID userID).toFinset

/-- Source: `internal/store/groups.go`, `ListServerGroupMembers` -/
def listServerGroupMembers (groupID : Int) : Finset String :=
  w.uniqueIDsOf fun userID => decide (groupID ∈ w.db.serverGroups userID)

/-- Source: `internal/store/groups.go`, `ListChannelGroupMembers` -/
def listChannelGroupMembers (groupID channelID : Int) : Finset String :=
  w.uniqueIDsOf fun userID => decide (groupID ∈ w.db.channelGroups userID channelID)

/-- Source: `internal/server/groups.go`, `occupiedChannels` -/
def occupiedChannels : Finset Int :=
  (w.state.clients.keys.biUnion fun clientID => (w.state.chanOf clientID).toFinset).filter
    fun channelID => channelID ≠ 0

/-- The unique ids of the members of a channel.
Source: `internal/state/manager.go`, `ChannelMembers` -/
def channelMembers (channelID : Int) : Finset String :=
  (w.state.membership.elems channelID).biUnion fun clientID =>
    ((w.state.getClient clientID).map State.Client.uniqueID).toFinset

/-- The unique ids that are told about a write at a tier and target.
Source: `internal/server/groups.go`, `permAudience`
Fidelity: every lookup of the store succeeds; the source leaves out what a failing one would give -/
def permAudience (tier : PermTier) (target : PermTarget) : Finset String :=
  match tier with
  | .serverGroup => w.listServerGroupMembers target.groupID
  | .channelGroup => w.occupiedChannels.biUnion (w.listChannelGroupMembers target.groupID)
  | .channel => w.channelMembers target.channelID
  | .client | .channelClient => (w.userUniqueID target.userID).toFinset

/-! ## Resolutions before and after -/

/-- The client as the permission checker sees it. -/
def caller (clientID : String) (c : State.Client) : Caller where
  userID := w.userOf clientID
  channelID := c.channelID

/-- What a client resolves for a key in its current channel: value, grant and negate. -/
def resolved (db : PermDB) (clientID : String) (c : State.Client) (key : String) :
    Option (Int × Int × Bool) :=
  ((permCheckerFor w.guestGroupID db (w.caller clientID c)).own key).map fun p =>
    (p.value, p.grant, p.negate)

end Presence

/-- Value, grant and negate of the entry that wins, as the resolver returns it. -/
def seen (e : Option Permission) : Option (Int × Int × Bool) :=
  e.map fun p => (p.resolved.value, p.resolved.grant, p.resolved.negate)

lemma Presence.resolved_eq (w : Presence) (db : PermDB) (clientID : String) (c : State.Client)
    (key : String) :
    w.resolved db clientID c key =
      seen (callerWinner w.guestGroupID db (w.caller clientID c) key) := by
  unfold Presence.resolved seen
  rw [own_permCheckerFor, Option.map_map]
  rfl

/-! ## One write -/

/-- Where a request writes a single entry, and under which key. Copies and templates write several
and are not of this kind. -/
def PermRequest.addressed (lookupUser : String → Option Int) :
    PermRequest → Option (PermTier × PermTarget × String)
  | .set msg =>
    (permTarget lookupUser msg.tier msg.uniqueID msg.groupID msg.channelID).toOption.map
      fun a => (a.1, a.2, msg.key)
  | .unset msg =>
    (permTarget lookupUser msg.tier msg.uniqueID msg.groupID msg.channelID).toOption.map
      fun a => (a.1, a.2, msg.key)
  | .copy _ => none
  | .templateApply _ => none

/-- The entry a request leaves at its place, `none` for a removal. -/
def PermRequest.written : PermRequest → Option Permission
  | .set msg =>
    some (PermEntry.toPermission ⟨msg.key, msg.value, msg.grant, msg.skip, msg.negate⟩)
  | _ => none

section accepted

variable {lookupUser : String → Option Int} {pc : Option PermChecker} {f : Faults}
  {key : String} {target : PermTarget}

variable {req : PermRequest}

/-- **An accepted write changes one entry.** -/
theorem entryAt_accepted {db : PermDB} {tier : PermTier}
    (haddr : req.addressed lookupUser = some (tier, target, key))
    (hacc : (handlePerm lookupUser db.perms pc f req).result = .ok ()) (loc : PermLoc)
    (key' : String) :
    entryAt { db with perms := (handlePerm lookupUser db.perms pc f req).rows } loc key' =
      if loc = tier.loc target ∧ key' = key then req.written else entryAt db loc key' := by
  cases req with
  | set msg =>
    rw [handlePerm, handlePermSet] at hacc ⊢
    obtain ⟨tier', target', ht, hok, hrows⟩ := cappedWrite_ok rfl hacc
    simp only [PermRequest.addressed, ht, Except.toOption, Option.map_some, Option.some.injEq,
      Prod.mk.injEq] at haddr
    obtain ⟨rfl, rfl, rfl⟩ := haddr
    rw [hrows, setPermission_rows_of_ok hok, entryAt_put]
    rfl
  | unset msg =>
    rw [handlePerm, handlePermUnset] at hacc ⊢
    obtain ⟨tier', target', ht, hok, hrows⟩ := cappedWrite_ok rfl hacc
    simp only [PermRequest.addressed, ht, Except.toOption, Option.map_some, Option.some.injEq,
      Prod.mk.injEq] at haddr
    obtain ⟨rfl, rfl, rfl⟩ := haddr
    rw [hrows]
    cases hunset : f.unset with
    | false => simp [unsetPermission, hunset] at hok
    | true => exact entryAt_delete loc key'
  | copy msg | templateApply msg => cases haddr

/-- A target that is a group or a channel is not 0. -/
lemma permTarget_nonzero {tier uniqueID : String} {groupID channelID : Int} {t : PermTier}
    (h : permTarget lookupUser tier uniqueID groupID channelID = .ok (t, target)) :
    (t = .serverGroup → target.groupID ≠ 0) ∧ (t = .channel → target.channelID ≠ 0) := by
  unfold permTarget at h
  cases htier : ofString tier with
  | none => simp [htier] at h
  | some k =>
    cases k <;> simp only [htier] at h <;> split_ifs at h with h0
    · cases h
      simp [h0]
    · cases hu : lookupUser uniqueID <;> simp only [hu, reduceCtorEq] at h
      cases h
      simp
    · cases hu : lookupUser uniqueID <;> simp only [hu, reduceCtorEq] at h
      cases h
      simp
    · cases h
      simp [h0]
    · cases h
      simp

lemma addressed_nonzero {tier : PermTier}
    (haddr : req.addressed lookupUser = some (tier, target, key)) :
    (tier = .serverGroup → target.groupID ≠ 0) ∧ (tier = .channel → target.channelID ≠ 0) := by
  have hperm : ∀ {t u g ch k},
      (permTarget lookupUser t u g ch).toOption.map (fun a => (a.1, a.2, k)) =
        some (tier, target, key) →
      (tier = .serverGroup → target.groupID ≠ 0) ∧ (tier = .channel → target.channelID ≠ 0) := by
    intro t u g ch k h
    cases ht : permTarget lookupUser t u g ch with
    | error e => simp [ht, Except.toOption] at h
    | ok a =>
      simp only [ht, Except.toOption, Option.map_some, Option.some.injEq, Prod.mk.injEq] at h
      obtain ⟨rfl, rfl, -⟩ := h
      exact permTarget_nonzero ht
  cases req with
  | set msg | unset msg => exact hperm haddr
  | copy msg | templateApply msg => cases haddr

end accepted

/-! ## The overlooked -/

namespace Presence

variable (w : Presence) (tier : PermTier) (target : PermTarget)

/-- The online clients that resolve from the written place and are not enumerated: guests, for a
write to the Guest group; clients in another channel whose chain contains the written one. -/
def Overlooked (clientID : String) (c : State.Client) : Prop :=
  match tier with
  | .serverGroup => w.userOf clientID = 0 ∧ target.groupID = w.guestGroupID
  | .channel =>
    c.channelID ≠ target.channelID ∧ target.channelID ∈ channelTierOf w.db c.channelID ∧
      (w.userOf clientID = 0 → c.channelID ≠ 0)
  | _ => False

/-- What an overlooked client resolves from the places searched before the written one. -/
def ahead (key clientID : String) (c : State.Client) : Option Permission :=
  match tier with
  | .channel =>
    (if w.userOf clientID = 0 then
      if w.guestGroupID ≠ 0 then entryAt w.db (.serverGroup w.guestGroupID) key else none
    else
      mergedEntry w.db ((w.db.serverGroups (w.userOf clientID)).map .serverGroup) key <|>
        entryAt w.db (.client (w.userOf clientID)) key <|>
        entryAt w.db (.clientChannel (w.userOf clientID) c.channelID) key) <|>
    tierEntry w.db
      ((channelTierOf w.db c.channelID).takeWhile fun id => id ≠ target.channelID) key
  | _ => none

/-- What an overlooked client resolves from the places searched after the written one. -/
def behind (key clientID : String) (c : State.Client) : Option Permission :=
  match tier with
  | .serverGroup => if c.channelID ≠ 0 then chainEntry w.db c.channelID key else none
  | .channel =>
    tierEntry w.db (((channelTierOf w.db c.channelID).dropWhile fun id =>
      id ≠ target.channelID).filter fun id => id ≠ target.channelID) key <|>
    (if w.userOf clientID = 0 then none
    else
      mergedEntry w.db
        ((w.db.channelGroups (w.userOf clientID) c.channelID).map .channelGroup) key <|>
        entryAt w.db (.channelClient (w.userOf clientID) c.channelID) key)
  | _ => none

/-- The write stays hidden from an overlooked client: an entry searched earlier wins, or the entry
before and the entry after the write, each with what lies behind it, resolve alike. -/
def Hidden (key : String) (written : Option Permission) (clientID : String) (c : State.Client) :
    Prop :=
  (w.ahead tier target key clientID c).isSome = true ∨
    seen (entryAt w.db (tier.loc target) key <|> w.behind tier target key clientID c) =
      seen (written <|> w.behind tier target key clientID c)

/-- The unique id is one of somebody who is told: a user in the written group, or a session in the
written channel. -/
def ToldAs (uniqueID : String) : Prop :=
  match tier with
  | .serverGroup => ∃ userID, target.groupID ∈ w.db.serverGroups userID ∧
      w.users.lookup userID = some uniqueID
  | .channel => ∃ clientID c, clientID ∈ w.state.membership.elems target.channelID ∧
      w.state.clients.lookup clientID = some c ∧ c.uniqueID = uniqueID
  -- at the other tiers nobody is overlooked
  | _ => False

section results

variable {w : Presence} {db' : PermDB} {tier : PermTier} {target : PermTarget} {key clientID : String}
  {c : State.Client}

/-- Two databases that differ at most in the written entry. -/
structure SameBut (db db' : PermDB) (loc : PermLoc) (key : String) : Prop where
  serverGroups : db'.serverGroups = db.serverGroups
  channelGroups : db'.channelGroups = db.channelGroups
  channels : db'.channels = db.channels
  entry : ∀ loc', loc' ≠ loc → entryAt db' loc' key = entryAt db loc' key

variable {db : PermDB}

/-- The channel tier seen from the written channel: only the entry there differs. -/
lemma chainEntry_of_sameBut {id channelID : Int} (hsame : SameBut db db' (.channel id) key)
    (hid : id ∈ channelTierOf db channelID) :
    chainEntry db' channelID key =
      (tierEntry db ((channelTierOf db channelID).takeWhile fun i => i ≠ id) key <|>
        entryAt db' (.channel id) key <|>
        tierEntry db (((channelTierOf db channelID).dropWhile fun i => i ≠ id).filter
          fun i => i ≠ id) key) := by
  have htier : channelTierOf db' channelID = channelTierOf db channelID := by
    unfold channelTierOf channelPermissionChain
    rw [hsame.channels]
  have hother : ∀ i, i ≠ id → entryAt db' (.channel i) key = entryAt db (.channel i) key :=
    fun i hi => hsame.entry _ fun h => hi (PermLoc.channel.inj h)
  rw [show chainEntry db' channelID key = _ from findSome?_split _ (htier ▸ hid), htier]
  congr 1
  · refine tierEntry_congr fun i hi => hother i ?_
    simpa using List.mem_takeWhile_imp hi
  · funext _
    congr 1
    funext _
    refine tierEntry_congr fun i hi => hother i ?_
    simpa using (List.mem_filter.mp hi).2

/-- **The winner of an overlooked client, seen from the written place**: what is searched before it,
the entry there, what is searched after it. -/
theorem callerWinner_of_overlooked (hsame : SameBut w.db db' (tier.loc target) key)
    (h0 : tier = .serverGroup → target.groupID ≠ 0) (ho : w.Overlooked tier target clientID c) :
    callerWinner w.guestGroupID db' (w.caller clientID c) key =
      (w.ahead tier target key clientID c <|> entryAt db' (tier.loc target) key <|>
        w.behind tier target key clientID c) := by
  cases tier with
  | serverGroup =>
    obtain ⟨hguest, hgroup⟩ := ho
    have hg : w.guestGroupID ≠ 0 := hgroup ▸ h0 rfl
    have hchain : chainEntry db' c.channelID key = chainEntry w.db c.channelID key :=
      chainEntry_congr hsame.channels fun id _ => hsame.entry _ (by simp [loc])
    simp only [callerWinner, caller, hguest, if_true, hg, ne_eq, not_false_eq_true, hchain, ahead,
      behind, loc, hgroup]
    rfl
  | channel =>
    obtain ⟨-, hmem, hlobby⟩ := ho
    have hne : ∀ {loc : PermLoc}, (∀ id, loc ≠ .channel id) →
        entryAt db' loc key = entryAt w.db loc key := fun h => hsame.entry _ (h _)
    have hchain := chainEntry_of_sameBut hsame hmem
    by_cases hguest : w.userOf clientID = 0
    · have hch := hlobby hguest
      simp only [callerWinner, caller, hguest, if_true, hch, ne_eq, not_false_eq_true, hchain,
        hsame.entry (.serverGroup _) (by simp [loc]), ahead, behind, loc,
        orElse_assoc, orElse_none_right]
    have hserver : mergedEntry db' ((w.db.serverGroups (w.userOf clientID)).map .serverGroup) key =
        mergedEntry w.db ((w.db.serverGroups (w.userOf clientID)).map .serverGroup) key := by
      refine mergedEntry_congr fun loc hloc => hne fun id h => ?_
      simp [h] at hloc
    have hgroups : mergedEntry db'
          ((w.db.channelGroups (w.userOf clientID) c.channelID).map .channelGroup) key =
        mergedEntry w.db
          ((w.db.channelGroups (w.userOf clientID) c.channelID).map .channelGroup) key := by
      refine mergedEntry_congr fun loc hloc => hne fun id h => ?_
      simp [h] at hloc
    simp only [callerWinner, caller, hguest, if_false, winner, hsame.serverGroups,
      hsame.channelGroups, hserver, hgroups, hchain, ahead, behind, loc, orElse_assoc,
      hsame.entry (.client _) (by simp [loc]),
      hsame.entry (.clientChannel _ _) (by simp [loc]),
      hsame.entry (.channelClient _ _) (by simp [loc])]
  | client | channelClient | channelGroup => exact ho.elim

/-- A user's unique id is listed with every group of users that contains it. -/
lemma mem_uniqueIDsOf {p : Int → Bool} {userID : Int} {uniqueID : String}
    (hu : w.users.lookup userID = some uniqueID) (hp : p userID = true) :
    uniqueID ∈ w.uniqueIDsOf p := by
  simp only [uniqueIDsOf, userUniqueID, mem_biUnion, mem_filter, Finmap.mem_keys]
  exact ⟨userID, ⟨Finmap.mem_of_lookup_eq_some hu, hp⟩, by simp [hu]⟩

section

variable (hc : w.state.clients.lookup clientID = some c)

include hc

/-- Whoever stands in a channel is told about writes to it. -/
lemma mem_channelMembers (h0 : c.channelID ≠ 0) : c.uniqueID ∈ w.channelMembers c.channelID := by
  have hmem : clientID ∈ w.state.membership.elems c.channelID :=
    (w.coherent.mem_iff clientID c.channelID).mpr ⟨h0, chanOf_of_lookup hc⟩
  simp only [channelMembers, mem_biUnion]
  exact ⟨clientID, hmem, by simp [getClient, hc]⟩

/-- Whoever stands in a channel whose group memberships include the group is told about writes to
the group. -/
lemma mem_channelGroup_audience {groupID : Int} (huser : w.userOf clientID ≠ 0)
    (hgroup : groupID ∈ w.db.channelGroups (w.userOf clientID) c.channelID) :
    c.uniqueID ∈ w.occupiedChannels.biUnion (w.listChannelGroupMembers groupID) := by
  have h0 : c.channelID ≠ 0 := by
    intro h
    rw [h, w.no_lobby_groups] at hgroup
    cases hgroup
  have hocc : c.channelID ∈ w.occupiedChannels := by
    simp only [occupiedChannels, mem_filter, mem_biUnion, Finmap.mem_keys]
    refine ⟨⟨clientID, Finmap.mem_of_lookup_eq_some hc, ?_⟩, h0⟩
    simp [chanOf_of_lookup hc]
  rw [mem_biUnion]
  exact ⟨c.channelID, hocc,
    mem_uniqueIDsOf (w.uniqueID_of_user clientID c hc huser) (by simpa using hgroup)⟩

/-- Whoever resolves from the written channel stands in it, or is overlooked. -/
lemma mem_permAudience_channel (h0 : target.channelID ≠ 0)
    (hlobby : w.userOf clientID = 0 → c.channelID ≠ 0)
    (hmem : target.channelID ∈ channelTierOf w.db c.channelID)
    (ho : ¬w.Overlooked .channel target clientID c) :
    c.uniqueID ∈ w.permAudience .channel target := by
  have heq : c.channelID = target.channelID := by
    by_contra hne
    exact ho ⟨hne, hmem, hlobby⟩
  show c.uniqueID ∈ w.channelMembers target.channelID
  rw [← heq]
  exact mem_channelMembers hc (heq ▸ h0)

end

/-- A guest resolves from the Guest group and the channel tier. -/
lemma mem_callerPlaces_guest {guestGroupID : Int} {caller : Caller} (hguest : caller.userID = 0)
    {loc : PermLoc} (h : loc ∈ callerPlaces guestGroupID db caller) :
    loc = .serverGroup guestGroupID ∨
      caller.channelID ≠ 0 ∧ ∃ id ∈ channelTierOf db caller.channelID, loc = .channel id := by
  unfold callerPlaces at h
  rw [if_pos hguest] at h
  rcases List.mem_append.mp h with h | h
  · split_ifs at h with hch
    · obtain ⟨id, hid, rfl⟩ := List.mem_map.mp h
      exact .inr ⟨hch, id, hid, rfl⟩
    · cases h
  · split_ifs at h
    · exact .inl (List.mem_singleton.mp h)
    · cases h

/-- Every online client that resolves from the written place is in the audience or overlooked. -/
lemma mem_permAudience_of_reached (hc : w.state.clients.lookup clientID = some c)
    (h0 : tier = .channel → target.channelID ≠ 0)
    (hreach : tier.loc target ∈ callerPlaces w.guestGroupID w.db (w.caller clientID c))
    (ho : ¬w.Overlooked tier target clientID c) : c.uniqueID ∈ w.permAudience tier target := by
  by_cases hguest : w.userOf clientID = 0
  · rcases mem_callerPlaces_guest hguest hreach with hloc | ⟨hch, id, hid, hloc⟩
    · cases tier with
      | serverGroup => exact absurd ⟨hguest, PermLoc.serverGroup.inj hloc⟩ ho
      | _ => cases hloc
    · cases tier <;> cases hloc
      exact mem_permAudience_channel hc (h0 rfl) (fun _ => hch) hid ho
  have huid := w.uniqueID_of_user clientID c hc hguest
  simp only [callerPlaces, caller, hguest, if_false, appliesTo] at hreach
  cases tier with
  | serverGroup =>
    simp [loc] at hreach
    exact mem_uniqueIDsOf huid (by simpa using hreach)
  | channel =>
    simp [loc] at hreach
    exact mem_permAudience_channel hc (h0 rfl) (fun h => absurd h hguest) hreach ho
  | channelGroup =>
    simp [loc] at hreach
    exact mem_channelGroup_audience hc hguest hreach
  | client =>
    simp [loc] at hreach
    have htarget : w.users.lookup target.userID = some c.uniqueID := hreach ▸ huid
    simp [permAudience, userUniqueID, htarget]
  | channelClient =>
    simp [loc] at hreach
    have htarget : w.users.lookup target.userID = some c.uniqueID := hreach.1 ▸ huid
    simp [permAudience, userUniqueID, htarget]

/-- A write at a place a client does not resolve from leaves its resolution alone. -/
lemma resolved_of_not_reached (hsame : SameBut w.db db' (tier.loc target) key)
    (hreach : tier.loc target ∉ callerPlaces w.guestGroupID w.db (w.caller clientID c)) :
    w.resolved db' clientID c key = w.resolved w.db clientID c key := by
  rw [resolved_eq, resolved_eq, callerWinner_congr hsame.serverGroups hsame.channelGroups
    hsame.channels]
  intro loc hloc
  refine hsame.entry loc fun heq => hreach ?_
  rwa [← heq]

/-- A write moves an overlooked client exactly when it does not stay hidden from it. -/
lemma resolved_of_overlooked (hsame : SameBut w.db db' (tier.loc target) key)
    (h0 : tier = .serverGroup → target.groupID ≠ 0) (ho : w.Overlooked tier target clientID c) :
    w.resolved db' clientID c key = w.resolved w.db clientID c key ↔
      w.Hidden tier target key (entryAt db' (tier.loc target) key) clientID c := by
  have hsame₀ : SameBut w.db w.db (tier.loc target) key := ⟨rfl, rfl, rfl, fun _ _ => rfl⟩
  rw [resolved_eq, resolved_eq, callerWinner_of_overlooked hsame h0 ho,
    callerWinner_of_overlooked hsame₀ h0 ho]
  unfold Hidden
  cases hahead : w.ahead tier target key clientID c with
  | some p => simp
  | none => simpa using eq_comm

/-- At a tier with overlooked clients the audience is those who are told. -/
lemma mem_permAudience_of_overlooked (ho : w.Overlooked tier target clientID c)
    (uniqueID : String) :
    uniqueID ∈ w.permAudience tier target ↔ w.ToldAs tier target uniqueID := by
  cases tier with
  | serverGroup =>
    simp only [permAudience, listServerGroupMembers, uniqueIDsOf, userUniqueID, ToldAs, mem_biUnion,
      mem_filter, decide_eq_true_eq, Finmap.mem_keys, Option.mem_toFinset, Option.mem_def]
    refine exists_congr fun userID => ?_
    rw [and_assoc, and_iff_right_of_imp]
    exact fun h => Finmap.mem_of_lookup_eq_some h.2
  | channel => simp [permAudience, channelMembers, ToldAs, getClient]
  | channelGroup | client | channelClient => exact absurd ho id

/-- The audience is complete: whoever resolves something else after the write is in it. -/
def AudienceComplete (w : Presence) (db' : PermDB) (tier : PermTier) (target : PermTarget)
    (key : String) : Prop :=
  ∀ clientID c, w.state.clients.lookup clientID = some c →
    w.resolved db' clientID c key ≠ w.resolved w.db clientID c key →
    c.uniqueID ∈ w.permAudience tier target

/-- Completeness in terms of the overlooked clients, for any change of one entry. -/
lemma audienceComplete_iff (hsame : SameBut w.db db' (tier.loc target) key)
    (hgroup : tier = .serverGroup → target.groupID ≠ 0)
    (hchannel : tier = .channel → target.channelID ≠ 0) :
    w.AudienceComplete db' tier target key ↔
      ∀ clientID c, w.state.clients.lookup clientID = some c →
        w.Overlooked tier target clientID c →
        w.ToldAs tier target c.uniqueID ∨
          w.Hidden tier target key (entryAt db' (tier.loc target) key) clientID c := by
  constructor
  · intro h clientID c hc ho
    rw [← resolved_of_overlooked hsame hgroup ho, ← mem_permAudience_of_overlooked ho]
    by_cases hmoved : w.resolved db' clientID c key = w.resolved w.db clientID c key
    · exact .inr hmoved
    · exact .inl (h clientID c hc hmoved)
  · intro h clientID c hc hmoved
    by_cases hreach : tier.loc target ∈ callerPlaces w.guestGroupID w.db (w.caller clientID c)
    · by_cases ho : w.Overlooked tier target clientID c
      · rw [mem_permAudience_of_overlooked ho]
        refine (h clientID c hc ho).resolve_right fun hhidden => hmoved ?_
        rwa [resolved_of_overlooked hsame hgroup ho]
      · exact mem_permAudience_of_reached hc hchannel hreach ho
    · exact absurd (resolved_of_not_reached hsame hreach) hmoved

end results

/-- The permission database after a request that left the rows `rows`. -/
def dbWith (rows : PermRows) : PermDB := { w.db with perms := rows }

/-- **The audience of an accepted write is complete exactly when the write stays hidden from every
overlooked client**, or that client has the unique id of somebody who is told. For every channel
tree, every set of online clients, all group memberships and every accepted request that
sets or unsets one entry, at any tier and target. -/
theorem permAudience_complete_iff (w : Presence) (lookupUser : String → Option Int)
    (pc : Option PermChecker) (f : Faults) (req : PermRequest) (tier : PermTier)
    (target : PermTarget) (key : String)
    (haddr : req.addressed lookupUser = some (tier, target, key))
    (hacc : (handlePerm lookupUser w.db.perms pc f req).result = .ok ()) :
    w.AudienceComplete (w.dbWith (handlePerm lookupUser w.db.perms pc f req).rows)
        tier target key ↔
      ∀ clientID c, w.state.clients.lookup clientID = some c →
        w.Overlooked tier target clientID c →
        w.ToldAs tier target c.uniqueID ∨ w.Hidden tier target key req.written clientID c := by
  have hentry := entryAt_accepted haddr hacc
  have hsame : SameBut w.db (w.dbWith (handlePerm lookupUser w.db.perms pc f req).rows)
      (tier.loc target) key := by
    refine ⟨rfl, rfl, rfl, fun loc hloc => ?_⟩
    exact (hentry loc key).trans (if_neg fun h => hloc h.1)
  have hwritten : entryAt (w.dbWith (handlePerm lookupUser w.db.perms pc f req).rows)
      (tier.loc target) key = req.written :=
    (hentry (tier.loc target) key).trans (if_pos ⟨rfl, rfl⟩)
  obtain ⟨hgroup, hchannel⟩ := addressed_nonzero haddr
  rw [audienceComplete_iff hsame hgroup hchannel, hwritten]

/-! ### Two clients that are not told -/

/-- Channel 2 inherits from channel 1. User 5 stands in channel 2, a guest stands in the lobby. -/
def lobbyAndChild : State.Manager :=
  run step new
    [.addChannel { channelID := 1 },
      .addChannel { channelID := 2, parentID := 1, inheritPermissions := true },
      .addClient { clientID := "a", uniqueID := "user-5" },
      .addClient { clientID := "g", uniqueID := "guest-9" }, .moveClient "a" 2]

/-- The presence over `lobbyAndChild`, with Guest group 3 and no permission rows. -/
def lobbyAndChildPresence : Presence where
  state := lobbyAndChild
  coherent := (coherent_throughout _ (by decide) (by decide)).final
  userOf := fun clientID => if clientID = "a" then 5 else 0
  users := (∅ : FMap Int String).insert 5 "user-5"
  uniqueID_of_user := by
    intro clientID c hc huser
    have ha : clientID = "a" := by
      by_contra hne
      exact huser (if_neg hne)
    subst ha
    have hrec : (lobbyAndChild.clients.lookup "a").map State.Client.uniqueID = some "user-5" := by
      decide
    rw [hc] at hrec
    have hid : c.uniqueID = "user-5" := Option.some.inj hrec
    rw [hid]
    rfl
  guestGroupID := 3
  db :=
    { PermDB.empty with
      channels := fun id =>
        if id = 1 then some ⟨none, false⟩ else if id = 2 then some ⟨some 1, true⟩ else none }
  no_lobby_groups := fun _ => rfl

/-- A `perm_set` that grants a right to the Guest group. -/
def guestGrant : PermRequest :=
  .set { tier := "server_group", groupID := 3, key := "b_client_poke", value := 1 }

/-- A `perm_set` that grants a right on channel 1. -/
def channelGrant : PermRequest :=
  .set { tier := "channel", channelID := 1, key := "b_client_poke", value := 1 }

/-- The checker of an admin. -/
def adminChecker : PermChecker where
  tp := ∅
  admin := true

/-- A write to group 4, which nobody is in, is complete. -/
theorem permAudience_complete_iff_group :
    lobbyAndChildPresence.AudienceComplete
      (lobbyAndChildPresence.dbWith (handlePerm (fun _ => none) empty (some adminChecker) {}
        (.set { tier := "server_group", groupID := 4, key := "b_client_poke", value := 1 })).rows)
      .serverGroup { groupID := 4 } "b_client_poke" := by
  refine (permAudience_complete_iff lobbyAndChildPresence (fun _ => none) (some adminChecker) {}
    (.set { tier := "server_group", groupID := 4, key := "b_client_poke", value := 1 })
    .serverGroup { groupID := 4 } "b_client_poke" (by decide) (by rfl)).mpr ?_
  rintro clientID c - ⟨-, hgroup⟩
  exact absurd hgroup (by decide)

/-- **Guests and inheriting channels are not told.** Both writes are accepted and change what a
client resolves: the guest in the lobby, for the Guest group; the user in channel 2, for channel 1.
Neither is in the audience. -/
theorem permAudience_misses_guest_and_heir :
    ((handlePerm (fun _ => none) empty (some adminChecker) {} guestGrant).result.isOk ∧
      ¬lobbyAndChildPresence.AudienceComplete (lobbyAndChildPresence.dbWith
        (handlePerm (fun _ => none) empty (some adminChecker) {} guestGrant).rows)
        .serverGroup { groupID := 3 } "b_client_poke") ∧
    (handlePerm (fun _ => none) empty (some adminChecker) {} channelGrant).result.isOk ∧
      ¬lobbyAndChildPresence.AudienceComplete (lobbyAndChildPresence.dbWith
        (handlePerm (fun _ => none) empty (some adminChecker) {} channelGrant).rows)
        .channel { channelID := 1 } "b_client_poke" := by
  refine ⟨⟨by decide, fun h => ?_⟩, by decide, fun h => ?_⟩
  · exact absurd (h "g" { clientID := "g", uniqueID := "guest-9" } (by decide) (by decide))
      (by decide)
  · exact absurd (h "a" { clientID := "a", uniqueID := "user-5", channelID := 2 } (by decide)
      (by decide)) (by decide)

end Presence

end Voicx.Server
