import Voicx.Found.FiniteMap
import Mathlib.Data.String.Basic

/-!
# The permission tables

Model of the permission part of `internal/store/groups.go`. A stored entry is a row of one of the
five junction tables (`server_group_permissions`, `channel_group_permissions`, `client_permissions`,
`channel_client_permissions`, `channel_permissions`) joined with its row of `permissions`; the
latter table only interns the tuple (key, value, grant, skip, negate), so a `PermRow` is the joined
row.

* `PermTier`, `PermTarget`, `PermLoc` — how a write addresses a table and what the rows of a table
  hang on. `client_permissions` is two places: rows with and without a channel.
* `PermRows` — the stored rows. `SetPermission` first removes whatever the target holds for the key,
  so a target never holds a key twice; the structure carries that fact.
* `setPermission`, `unsetPermission`, `copyPermissions`, `listPermissions` — the store's functions.
  A database call may fail; `WriteOutcome` says where a write that is not a transaction stopped.
  Each write reports the rows it wrote, overwrote or removed (`WriteResult.touched`), and
  `Honest` says that the report is complete.
* `PermDB` — the rows with the tables that say which of them apply to a user.

Source names without a file are from `internal/store/groups.go`.
-/

namespace Voicx.Permissions

open List

/-! ## Addressing -/

/-- The tiers of the write path.
Source: `PermTier` -/
inductive PermTier
  | serverGroup
  | client
  | channelClient
  | channel
  | channelGroup
  deriving DecidableEq, Repr

/-- A tier as it is written in a request. -/
def PermTier.wire : PermTier → String
  | .serverGroup => "server_group"
  | .client => "client"
  | .channelClient => "channel_client"
  | .channel => "channel"
  | .channelGroup => "channel_group"

/-- The tier a request names. -/
def PermTier.ofString (s : String) : Option PermTier :=
  [PermTier.serverGroup, .client, .channelClient, .channel, .channelGroup].find? fun t => t.wire == s

/-- Group id for group tiers, user id for client tiers, channel id for channel tiers.
Source: `PermTarget` -/
structure PermTarget where
  groupID : Int := 0
  userID : Int := 0
  channelID : Int := 0
  deriving DecidableEq, Repr

/-- What a stored row hangs on. -/
inductive PermLoc
  | serverGroup (groupID : Int)
  | channelGroup (groupID : Int)
  /-- `client_permissions` with `channel_id` NULL -/
  | client (userID : Int)
  /-- `client_permissions` with a channel; no write tier addresses these rows -/
  | clientChannel (userID channelID : Int)
  | channelClient (userID channelID : Int)
  | channel (channelID : Int)
  deriving DecidableEq, Repr

/-- The rows a tier and a target address: the `WHERE` clauses of the write path. -/
def PermTier.loc (tier : PermTier) (target : PermTarget) : PermLoc :=
  match tier with
  | .serverGroup => .serverGroup target.groupID
  | .channelGroup => .channelGroup target.groupID
  | .client => .client target.userID
  | .channelClient => .channelClient target.userID target.channelID
  | .channel => .channel target.channelID

/-! ## Rows -/

/-- Source: `PermEntry` -/
structure PermEntry where
  key : String
  value : Int := 0
  grant : Int := 0
  skip : Bool := false
  negate : Bool := false
  deriving DecidableEq, Repr

/-- A stored entry and what it hangs on. -/
structure PermRow where
  loc : PermLoc
  entry : PermEntry
  deriving DecidableEq, Repr

/-- What identifies a row within the tables. -/
def PermRow.slot (r : PermRow) : PermLoc × String := (r.loc, r.entry.key)

/-- The stored rows. No target holds a key twice.
Fidelity: the schema has no such index; the code deletes before it inserts, so that two ServerQuery
writes of one entry at the same time could leave it there twice -/
structure PermRows where
  rows : List PermRow
  unique : (rows.map PermRow.slot).Nodup

namespace PermRows

/-- No rows at all. -/
def empty : PermRows where
  rows := []
  unique := nodup_nil

/-- `DELETE ... WHERE target AND permission_id IN (SELECT id FROM permissions WHERE key)`. -/
def delete (rs : PermRows) (loc : PermLoc) (key : String) : PermRows where
  rows := rs.rows.filter fun r => r.slot ≠ (loc, key)
  unique := rs.unique.sublist (filter_sublist.map _)

variable {rs : PermRows} {loc : PermLoc} {r : PermRow} {key : String} {e : PermEntry}

lemma mem_delete : r ∈ (rs.delete loc key).rows ↔ r ∈ rs.rows ∧ r.slot ≠ (loc, key) := by
  simp [delete]

/-- The delete and the insert of `setPermissionWith`. -/
def put (rs : PermRows) (loc : PermLoc) (e : PermEntry) : PermRows where
  rows := (rs.delete loc e.key).rows ++ [⟨loc, e⟩]
  unique := by
    rw [map_append, nodup_append]
    refine ⟨(rs.delete loc e.key).unique, by simp, ?_⟩
    intro slot hslot slot' hslot'
    obtain ⟨r, hr, rfl⟩ := mem_map.mp hslot
    simp only [map_cons, map_nil, mem_singleton] at hslot'
    rw [hslot']
    exact (mem_delete.mp hr).2

lemma mem_put :
    r ∈ (rs.put loc e).rows ↔ (r ∈ rs.rows ∧ r.slot ≠ (loc, e.key)) ∨ r = ⟨loc, e⟩ := by
  simp [put, delete]

/-- The rows a target holds for a key. -/
def held (rs : PermRows) (loc : PermLoc) (key : String) : List PermRow :=
  rs.rows.filter fun r => r.slot = (loc, key)

lemma mem_held : r ∈ rs.held loc key ↔ r ∈ rs.rows ∧ r.loc = loc ∧ r.entry.key = key := by
  simp [held, PermRow.slot]

/-- Two rows of one target with one key are the same row. -/
lemma entry_unique {e' : PermEntry} (h : ⟨loc, e⟩ ∈ rs.rows) (h' : ⟨loc, e'⟩ ∈ rs.rows)
    (hkey : e.key = e'.key) : e = e' := by
  have hinj := inj_on_of_nodup_map rs.unique h h' (by simp [PermRow.slot, hkey])
  cases hinj
  rfl

end PermRows

/-! ## The store's functions -/

/-- How the three statements of `SetPermission` ended. They are not one transaction. -/
inductive WriteOutcome
  /-- all statements succeeded -/
  | ok
  /-- the upsert or the delete failed: nothing has changed -/
  | failedBefore
  /-- the insert failed: the previous entry is gone -/
  | failedBetween
  deriving DecidableEq, Repr

/-- The rows after a write, the rows the write wrote, overwrote or removed, and whether it
succeeded. -/
structure WriteResult where
  rows : PermRows
  touched : List PermRow
  ok : Bool

/-- Source: `SetPermission` -/
def setPermission (rs : PermRows) (loc : PermLoc) (e : PermEntry) : WriteOutcome → WriteResult
  | .ok => ⟨rs.put loc e, rs.held loc e.key ++ [⟨loc, e⟩], true⟩
  | .failedBefore => ⟨rs, [], false⟩
  | .failedBetween => ⟨rs.delete loc e.key, rs.held loc e.key, false⟩

/-- Source: `UnsetPermission` -/
def unsetPermission (rs : PermRows) (loc : PermLoc) (key : String) (ok : Bool) : WriteResult :=
  if ok then ⟨rs.delete loc key, rs.held loc key, true⟩ else ⟨rs, [], false⟩

/-- The first loop of `CopyPermissions`, inside the transaction. -/
def unsetAll (rs : PermRows) (loc : PermLoc) : List String → WriteResult
  | [] => ⟨rs, [], true⟩
  | key :: keys =>
    let r := unsetAll (rs.delete loc key) loc keys
    { r with touched := rs.held loc key ++ r.touched }

/-- The second loop of `CopyPermissions`, inside the transaction. -/
def setAll (rs : PermRows) (loc : PermLoc) : List PermEntry → WriteResult
  | [] => ⟨rs, [], true⟩
  | e :: es =>
    let r := setAll (rs.put loc e) loc es
    { r with touched := rs.held loc e.key ++ ⟨loc, e⟩ :: r.touched }

/-- Remove keys and write entries at a target, in one transaction: a failure rolls everything back.
Source: `CopyPermissions` -/
def copyPermissions (rs : PermRows) (loc : PermLoc) (remove : List String)
    (entries : List PermEntry) (ok : Bool) : WriteResult :=
  if ok then
    let r₁ := unsetAll rs loc remove
    let r₂ := setAll r₁.rows loc entries
    ⟨r₂.rows, r₁.touched ++ r₂.touched, true⟩
  else ⟨rs, [], false⟩

/-- The entries of a target, ordered by key.
Source: `ListPermissions` -/
def listPermissions (rs : PermRows) (loc : PermLoc) : List PermEntry :=
  ((rs.rows.filter fun r => r.loc = loc).map PermRow.entry).insertionSort fun a b => a.key ≤ b.key

lemma mem_listPermissions {rs : PermRows} {loc : PermLoc} {e : PermEntry} :
    e ∈ listPermissions rs loc ↔ ⟨loc, e⟩ ∈ rs.rows := by
  rw [listPermissions, (perm_insertionSort _ _).mem_iff]
  simp only [mem_map, mem_filter, decide_eq_true_eq]
  constructor
  · rintro ⟨r, ⟨hr, rfl⟩, rfl⟩
    exact hr
  · exact fun h => ⟨⟨loc, e⟩, ⟨h, rfl⟩, rfl⟩

/-! ### The report of a write is complete -/

/-- Rows that the report does not mention are stored after the write exactly if they were before. -/
def WriteResult.Honest (rs : PermRows) (w : WriteResult) : Prop :=
  ∀ r, r ∉ w.touched → (r ∈ w.rows.rows ↔ r ∈ rs.rows)

section honest

variable {rs : PermRows} {loc : PermLoc} {r : PermRow}

lemma mem_delete_of_not_held {key : String} (h : r ∉ rs.held loc key) :
    r ∈ (rs.delete loc key).rows ↔ r ∈ rs.rows := by
  rw [PermRows.mem_held] at h
  rw [PermRows.mem_delete]
  refine ⟨And.left, fun hr => ⟨hr, fun hslot => h ⟨hr, ?_⟩⟩⟩
  exact Prod.mk.inj hslot

lemma mem_put_of_not_touched {e : PermEntry} (h : r ∉ rs.held loc e.key) (hne : r ≠ ⟨loc, e⟩) :
    r ∈ (rs.put loc e).rows ↔ r ∈ rs.rows := by
  rw [PermRows.mem_put, ← PermRows.mem_delete, mem_delete_of_not_held h]
  simp [hne]

lemma setPermission_honest (e : PermEntry) (o : WriteOutcome) :
    (setPermission rs loc e o).Honest rs := by
  intro r hr
  cases o with
  | ok =>
    simp only [setPermission, mem_append, mem_singleton, not_or] at hr
    exact mem_put_of_not_touched hr.1 hr.2
  | failedBefore => rfl
  | failedBetween => exact mem_delete_of_not_held hr

lemma unsetPermission_honest (key : String) (ok : Bool) :
    (unsetPermission rs loc key ok).Honest rs := by
  intro r hr
  cases ok with
  | true => exact mem_delete_of_not_held hr
  | false => rfl

lemma unsetAll_honest (keys : List String) : (unsetAll rs loc keys).Honest rs := by
  induction keys generalizing rs with
  | nil => exact fun r _ => Iff.rfl
  | cons key keys ih =>
    intro r hr
    simp only [unsetAll, mem_append, not_or] at hr
    exact (ih r hr.2).trans (mem_delete_of_not_held hr.1)

lemma setAll_honest (es : List PermEntry) : (setAll rs loc es).Honest rs := by
  induction es generalizing rs with
  | nil => exact fun r _ => Iff.rfl
  | cons e es ih =>
    intro r hr
    simp only [setAll, mem_append, mem_cons, not_or] at hr
    exact (ih r hr.2.2).trans (mem_put_of_not_touched hr.1 hr.2.1)

lemma copyPermissions_honest (remove : List String) (entries : List PermEntry) (ok : Bool) :
    (copyPermissions rs loc remove entries ok).Honest rs := by
  intro r hr
  cases ok with
  | true =>
    simp only [copyPermissions, if_true, mem_append, not_or] at hr ⊢
    exact (setAll_honest entries r hr.2).trans (unsetAll_honest remove r hr.1)
  | false => rfl

end honest

/-! ## The database of the loader -/

/-- A row of the `channels` table, as far as permission inheritance reads it. -/
structure ChannelRow where
  parentID : Option Int
  inheritPermissions : Bool
  deriving DecidableEq, Repr

/-- The permission rows with the tables that say which of them apply: server group memberships by
user, channel group memberships by user and channel (both ordered by group id), and the channels. -/
structure PermDB where
  perms : PermRows
  serverGroups : Int → List Int
  channelGroups : Int → Int → List Int
  channels : Int → Option ChannelRow

/-- No rows, no groups, no channels. -/
def PermDB.empty : PermDB where
  perms := PermRows.empty
  serverGroups := fun _ => []
  channelGroups := fun _ _ => []
  channels := fun _ => none

end Voicx.Permissions
