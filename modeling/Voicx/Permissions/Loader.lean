import Voicx.Found.ReadProg
import Voicx.Permissions.Resolver
import Voicx.Permissions.Store

/-!
# Loading a user's permissions

Model of the queries of `internal/permissions/loader.go`. A load is a `ReadProg`: one query after
the other against a database that other connections write to in between. The cache in front of it is
`Voicx.Permissions.Cache`.

* `loadFromDB` — the tiers of a user in a channel: a query for the groups, one per group, one per
  channel of the inheritance chain, and the three per-client queries.
* `appliesTo` — the places whose rows a load reads.
* `loadFromDB_below` — what every row at those places stays under, every loaded entry stays under.

Source names without a file are from `internal/permissions/loader.go`.
-/

namespace Voicx.Permissions

open Found List ReadProg

/-! ## Queries -/

/-- The type of a permission by the prefix of its key.
Source: `inferType` -/
def inferType (key : String) : PermissionType :=
  if ['b', '_'].isPrefixOf key.toList then .boolean else .integer

/-- The permission a scanned row becomes. -/
def PermEntry.toPermission (e : PermEntry) : Permission where
  key := e.key
  type := inferType e.key
  value := e.value
  grant := e.grant
  skip := e.skip
  negate := e.negate

/-- The set scanned from the rows of one place.
Source: `loadPermissionRows` -/
def loadPermissionRows (loc : PermLoc) (db : PermDB) : PermissionSet :=
  ((db.perms.rows.filter fun r => r.loc = loc).map PermRow.entry).foldl
    (fun set e => set.set e.toPermission) ∅

/-- Source: `maxChannelDepth` -/
def maxChannelDepth : Nat := 64

/-- The recursive query: `depth` more parents may be visited. -/
def chainFrom (channels : Int → Option ChannelRow) : Nat → Int → List Int
  | depth, id =>
    match channels id with
    | none => []
    | some ch =>
      id :: match depth, ch.inheritPermissions, ch.parentID with
        | depth + 1, true, some parent => chainFrom channels depth parent
        | _, _, _ => []

/-- The channel followed by the ancestors whose permissions it inherits, nearest first.
Source: `channelPermissionChain` -/
def channelPermissionChain (channelID : Int) (db : PermDB) : List Int :=
  chainFrom db.channels maxChannelDepth channelID

/-! ## Loads -/

/-- Source: `loadServerGroupPermissions` -/
def loadServerGroupPermissions (groupID : Int) : ReadProg PermDB PermissionSet :=
  .ask (loadPermissionRows (.serverGroup groupID))

/-- Source: `loadChannelGroupPermissions` -/
def loadChannelGroupPermissions (groupID : Int) : ReadProg PermDB PermissionSet :=
  .ask (loadPermissionRows (.channelGroup groupID))

/-- Source: `loadClientPermissions` -/
def loadClientPermissions (userID : Int) : ReadProg PermDB PermissionSet :=
  .ask (loadPermissionRows (.client userID))

variable (userID channelID : Int)

/-- Source: `loadClientPermissionsForChannel` -/
def loadClientPermissionsForChannel : ReadProg PermDB PermissionSet :=
  .ask (loadPermissionRows (.clientChannel userID channelID))

/-- Source: `loadChannelClientPermissions` -/
def loadChannelClientPermissions : ReadProg PermDB PermissionSet :=
  .ask (loadPermissionRows (.channelClient userID channelID))

/-- Source: `loadChannelPermissions` -/
def loadChannelPermissions (channelID : Int) : ReadProg PermDB PermissionSet :=
  .ask (loadPermissionRows (.channel channelID))

/-- The channel tier over the inheritance chain: the nearer channel wins outright. A channel the
table lacks falls back to the plain lookup.
Source: `loadChannelPermissionChain` -/
def loadChannelPermissionChain (channelID : Int) : ReadProg PermDB PermissionSet := do
  let chain ← .ask (channelPermissionChain channelID)
  if chain = [] then loadChannelPermissions channelID
  else
    let sets ← .forEach loadChannelPermissions chain
    pure (sets.foldl (fun merged set => merged ∪ set) ∅)

/-- Source: `loadFromDB` -/
def loadFromDB : ReadProg PermDB TieredPermissions := do
  let tp : TieredPermissions := ∅
  let groupIDs ← .ask fun db => db.serverGroups userID
  let groupSets ← .forEach loadServerGroupPermissions groupIDs
  let tp := tp.insert .serverGroup (mergeSet groupSets)
  let clientServerSet ← loadClientPermissions userID
  let tp := tp.insert .clientSpecific clientServerSet
  let channelSpecificSet ← loadClientPermissionsForChannel userID channelID
  let tp := tp.insert .channelSpecific channelSpecificSet
  let channelSet ← loadChannelPermissionChain channelID
  let tp := tp.insert .channel channelSet
  let channelGroupIDs ← .ask fun db => db.channelGroups userID channelID
  let channelGroupSets ← .forEach loadChannelGroupPermissions channelGroupIDs
  let tp := tp.insert .channelGroup (mergeSet channelGroupSets)
  let channelClientSet ← loadChannelClientPermissions userID channelID
  pure (tp.insert .channelClient channelClientSet)

/-! ## Which rows a load reads -/

variable (db : PermDB)

/-- The channels whose rows make up the channel tier. -/
def channelTierOf (channelID : Int) : List Int :=
  if channelPermissionChain channelID db = [] then [channelID]
  else channelPermissionChain channelID db

/-- The channel itself comes first. -/
lemma channelTierOf_eq_cons (channelID : Int) :
    ∃ rest, channelTierOf db channelID = channelID :: rest := by
  have hchain : channelPermissionChain channelID db = [] ∨
      ∃ rest, channelPermissionChain channelID db = channelID :: rest := by
    unfold channelPermissionChain
    rw [chainFrom]
    cases db.channels channelID with
    | none => exact .inl rfl
    | some ch => exact .inr ⟨_, rfl⟩
  unfold channelTierOf
  rcases hchain with hnil | ⟨rest, hcons⟩
  · exact ⟨[], if_pos hnil⟩
  · exact ⟨rest, by simp [hcons]⟩

/-- The places whose rows a load of the user in the channel reads. -/
def appliesTo (userID channelID : Int) : List PermLoc :=
  (db.serverGroups userID).map .serverGroup ++
    [.client userID, .clientChannel userID channelID] ++
    (channelTierOf db channelID).map .channel ++
    (db.channelGroups userID channelID).map .channelGroup ++
    [.channelClient userID channelID]

/-- Every row for the key at one of the places has value and grant at most `B`. -/
def RowsBelow (locs : List PermLoc) (B : Int) (key : String) : Prop :=
  ∀ r ∈ db.perms.rows, r.loc ∈ locs → r.entry.key = key → r.entry.value ≤ B ∧ r.entry.grant ≤ B

section bounds

variable {db : PermDB} {B channelID : Int} {key : String} {s : PermissionSet} {locs : List PermLoc}

/-- An entry of a scanned set comes from a row. -/
lemma mem_foldl_set {es : List PermEntry} {p : Permission}
    (h : (es.foldl (fun set e => PermissionSet.set set e.toPermission) s).lookup key = some p) :
    (∃ e ∈ es, e.key = key ∧ p = e.toPermission) ∨ s.lookup key = some p := by
  induction es generalizing s with
  | nil => exact .inr h
  | cons e es ih =>
    rcases ih h with ⟨e', he', hkey, hp⟩ | hs
    · exact .inl ⟨e', mem_cons_of_mem e he', hkey, hp⟩
    · simp only [PermissionSet.set, FMap.lookup_insert_ite] at hs
      split_ifs at hs with hk
      · exact .inl ⟨e, mem_cons_self, hk.symm, (Option.some.inj hs).symm⟩
      · exact .inr hs

lemma loadPermissionRows_below (h : RowsBelow db locs B key) {loc : PermLoc} (hloc : loc ∈ locs) :
    (loadPermissionRows loc db).Below B key := by
  intro p hp
  rcases mem_foldl_set hp with ⟨e, he, hkey, rfl⟩ | hnone
  · simp only [mem_map, mem_filter, decide_eq_true_eq] at he
    obtain ⟨r, ⟨hr, rfl⟩, rfl⟩ := he
    exact h r hr hloc hkey
  · simp at hnone

lemma foldl_union_below {sets : List PermissionSet} (hs : s.Below B key)
    (h : ∀ set ∈ sets, set.Below B key) :
    (sets.foldl (fun merged set => merged ∪ set) s).Below B key := by
  induction sets generalizing s with
  | nil => exact hs
  | cons set sets ih =>
    refine ih (fun p hp => ?_) fun set' hset' => h set' (mem_cons_of_mem set hset')
    by_cases hk : key ∈ s
    · rw [Finmap.lookup_union_left hk] at hp
      exact hs p hp
    · rw [Finmap.lookup_union_right hk] at hp
      exact h set mem_cons_self p hp

lemma loadChannelPermissionChain_below (h : RowsBelow db locs B key)
    (hlocs : ∀ id ∈ channelTierOf db channelID, .channel id ∈ locs) :
    ((loadChannelPermissionChain channelID).eval db).Below B key := by
  unfold channelTierOf at hlocs
  unfold loadChannelPermissionChain
  rw [eval_bind, eval_ask]
  by_cases hchain : channelPermissionChain channelID db = []
  · rw [if_pos hchain] at hlocs
    rw [if_pos hchain]
    exact loadPermissionRows_below h (hlocs channelID mem_cons_self)
  · rw [if_neg hchain] at hlocs
    rw [if_neg hchain, eval_bind, eval_forEach]
    refine foldl_union_below (fun p hp => by simp at hp) fun set hset => ?_
    obtain ⟨id, hid, rfl⟩ := mem_map.mp hset
    exact loadPermissionRows_below h (hlocs id hid)

/-- **A load invents nothing**: what every row at the places a load reads stays under, every loaded
entry stays under. -/
theorem loadFromDB_below {userID : Int} (h : RowsBelow db (appliesTo db userID channelID) B key)
    (hB : 0 ≤ B) (tier : Tier) (set : PermissionSet)
    (hset : ((loadFromDB userID channelID).eval db).lookup tier = some set) : set.Below B key := by
  have hmem : ∀ {loc}, loc ∈ appliesTo db userID channelID →
      (loadPermissionRows loc db).Below B key := fun hloc => loadPermissionRows_below h hloc
  simp only [loadFromDB, eval_bind, eval_ask, eval_forEach,
    eval_pure, FMap.lookup_insert_ite] at hset
  split_ifs at hset <;> cases hset
  · exact hmem (by simp [appliesTo])
  · refine mergeSet_below (fun s hs => ?_) hB
    obtain ⟨g, hg, rfl⟩ := mem_map.mp hs
    exact hmem (by simp [appliesTo, hg])
  · exact loadChannelPermissionChain_below h fun id hid => by simp [appliesTo, hid]
  · exact hmem (by simp [appliesTo])
  · exact hmem (by simp [appliesTo])
  · refine mergeSet_below (fun s hs => ?_) hB
    obtain ⟨g, hg, rfl⟩ := mem_map.mp hs
    exact hmem (by simp [appliesTo, hg])

end bounds

end Voicx.Permissions
