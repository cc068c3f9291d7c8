import Voicx.Found.FiniteMap

/-!
# Permission sets, tiers and the resolver

Model of `internal/permissions`, the part without a database.

* `Permission`, `PermissionSet` — an entry, and a set with at most one entry per key (`types.go`).
* `Tier`, `tierOrder`, `TieredPermissions` — the six tiers in evaluation order (`tiers.go`).
* `resolve` — the highest tier that has the key wins; a negated entry resolves to value 0
  (`resolver.go`).
* `mergeSet` — the merge of several sets of one tier: negate wins, else the maximum (`merge.go`).

The lemmas bound what resolution and merging can produce by what was put in: `Below B` says that an
entry's value and grant are at most `B`, and neither operation leaves it.

Source names without a file are from `internal/permissions/types.go`.
-/

namespace Voicx.Permissions

open Found List

/-! ## Entries and sets -/

/-- Boolean or integer (power) permission.
Source: `PermissionType` -/
inductive PermissionType
  | boolean
  | integer
  deriving DecidableEq, Repr

/-- One permission entry.
Source: `Permission` -/
structure Permission where
  key : String
  type : PermissionType
  value : Int
  grant : Int
  skip : Bool
  negate : Bool
  deriving DecidableEq, Repr

/-- A set of entries by key.
Source: `PermissionSet` -/
abbrev PermissionSet := FMap String Permission

/-- Put an entry into a set under its own key.
Source: `PermissionSet.Set` -/
def PermissionSet.set (s : PermissionSet) (p : Permission) : PermissionSet := s.insert p.key p

/-- The right to edit permissions. -/
def permissionManage : String := "b_permission_manage"

/-- The exemption from the grant cap. -/
def permissionModifyPowerIgnore : String := "b_permission_modify_power_ignore"

/-! ## Tiers -/

/-- Source: `internal/permissions/tiers.go`, `Tier` -/
inductive Tier
  | serverGroup
  | clientSpecific
  | channelSpecific
  | channelGroup
  | channelClient
  | channel
  deriving DecidableEq, Repr

/-- Source: `internal/permissions/tiers.go`, `tierOrder` -/
def tierOrder : List Tier :=
  [.serverGroup, .clientSpecific, .channelSpecific, .channel, .channelGroup, .channelClient]

/-- Source: `internal/permissions/tiers.go`, `TieredPermissions` -/
abbrev TieredPermissions := FMap Tier PermissionSet

/-! ## The resolver -/

/-- A negated entry denies regardless of the stored value. -/
def Permission.resolved (p : Permission) : Permission := if p.negate then { p with value := 0 } else p

variable (tp : TieredPermissions) (key : String)

/-- The effective entry for a key and the tier that supplied it; `none` is `ErrPermissionNotSet`.
Source: `internal/permissions/resolver.go`, `Resolve` -/
def resolve : Option (Permission × Tier) :=
  tierOrder.findSome? fun tier =>
    (tp.lookup tier).bind fun set => (set.lookup key).map fun p => (p.resolved, tier)

/-- Source: `internal/permissions/resolver.go`, `ResolveBool` -/
def resolveBool : Option (Bool × Tier) :=
  (resolve tp key).map fun (p, tier) => (p.value != 0, tier)

/-- Source: `internal/permissions/resolver.go`, `ResolveInt` -/
def resolveInt : Option (Int × Tier) :=
  (resolve tp key).map fun (p, tier) => (p.value, tier)

/-- Source: `internal/permissions/resolver.go`, `IsGranted` -/
def isGranted (required : Int) : Option (Bool × Tier) :=
  (resolveInt tp key).map fun (value, tier) => (decide (value ≥ required), tier)

/-- A negated winner comes out of the resolver with value 0. -/
lemma value_of_resolve_negate {tp : TieredPermissions} {key : String} {p : Permission}
    {tier : Tier} (h : resolve tp key = some (p, tier)) (hneg : p.negate = true) : p.value = 0 := by
  obtain ⟨t, -, ht⟩ := exists_of_findSome?_eq_some h
  obtain ⟨set, -, hmap⟩ := Option.bind_eq_some_iff.mp ht
  obtain ⟨q, -, heq⟩ := Option.map_eq_some_iff.mp hmap
  cases heq
  unfold Permission.resolved at hneg ⊢
  split_ifs at hneg ⊢ with hq
  · rfl
  · exact absurd hneg hq

/-! ## The merge within a tier -/

/-- The body of the loop of `mergeEntries`: one more contributing entry. -/
def absorb (m e : Permission) : Permission :=
  { m with
    negate := m.negate || e.negate
    skip := m.skip || e.skip
    value := if e.value > m.value then e.value else m.value
    grant := if e.grant > m.grant then e.grant else m.grant }

/-- Apply the rules to one key's contributing entries, the first of which is given apart.
Source: `internal/permissions/merge.go`, `mergeEntries` -/
def mergeEntries (first : Permission) (rest : List Permission) : Permission :=
  -- any contributor that negates forces the value to 0
  (rest.foldl absorb { first with key := key }).resolved

/-- The contributing entries collected per key, the first apart: one set's entries are appended to
what the sets before it contributed. -/
def addContribs (byKey : FMap String (Permission × List Permission)) (set : PermissionSet) :
    FMap String (Permission × List Permission) :=
  (byKey.mapVals fun key c => (c.1, c.2 ++ (set.lookup key).toList)) ∪
    set.mapVals fun _ p => (p, [])

/-- Merge several sets of the same tier into one.
Source: `internal/permissions/merge.go`, `MergeSet` -/
def mergeSet (sets : List PermissionSet) : PermissionSet :=
  (sets.foldl addContribs ∅).mapVals fun key c => mergeEntries key c.1 c.2

section contributions

variable {sets : List PermissionSet} {byKey : FMap String (Permission × List Permission)}
  {key : String}

/-- One more contribution to a key. -/
def addContrib : Option (Permission × List Permission) → Option Permission →
    Option (Permission × List Permission)
  | some c, e => some (c.1, c.2 ++ e.toList)
  | none, some p => some (p, [])
  | none, none => none

lemma lookup_addContribs (set : PermissionSet) :
    (addContribs byKey set).lookup key = addContrib (byKey.lookup key) (set.lookup key) := by
  rw [addContribs, FMap.lookup_union, FMap.lookup_mapVals, FMap.lookup_mapVals]
  cases byKey.lookup key <;> cases set.lookup key <;> rfl

lemma lookup_foldl_addContribs :
    (sets.foldl addContribs byKey).lookup key =
      (sets.map fun set => set.lookup key).foldl addContrib (byKey.lookup key) := by
  induction sets generalizing byKey with
  | nil => rfl
  | cons set sets ih => rw [foldl_cons, ih, lookup_addContribs, map_cons, foldl_cons]

lemma foldl_addContrib_some (c : Permission × List Permission) (es : List (Option Permission)) :
    es.foldl addContrib (some c) = some (c.1, c.2 ++ es.filterMap id) := by
  induction es generalizing c with
  | nil => simp
  | cons e es ih =>
    rw [foldl_cons, addContrib, ih]
    cases e <;> simp

/-- The merge of a list of entries, if there are any. -/
def mergeAll (key : String) : List Permission → Option Permission
  | [] => none
  | e :: es => some (mergeEntries key e es)

/-- A merged entry is the merge of what the sets have for the key, in their order. -/
lemma lookup_mergeSet :
    (mergeSet sets).lookup key = mergeAll key (sets.filterMap fun set => set.lookup key) := by
  rw [mergeSet, FMap.lookup_mapVals, lookup_foldl_addContribs]
  induction sets with
  | nil => rfl
  | cons set sets ih =>
    cases hset : set.lookup key with
    | none => simpa [hset, addContrib] using ih
    | some e => simp [hset, addContrib, foldl_addContrib_some, mergeAll]

end contributions

/-! ## Bounds -/

/-- Value and grant are at most `B`. -/
def Permission.Below (B : Int) (p : Permission) : Prop := p.value ≤ B ∧ p.grant ≤ B

/-- Every entry of the set under the key is at most `B`. -/
def PermissionSet.Below (B : Int) (key : String) (s : PermissionSet) : Prop :=
  ∀ p, s.lookup key = some p → p.Below B

section bounds

variable {B : Int} {key : String} {p : Permission}

theorem Permission.Below.resolved (h : p.Below B) (hB : 0 ≤ B) : p.resolved.Below B := by
  unfold Permission.resolved
  split
  · exact ⟨hB, h.2⟩
  · exact h

/-- **Resolution invents nothing**: what every tier's entry for the key stays under, the resolved
entry stays under. -/
theorem resolve_below {tp : TieredPermissions}
    (h : ∀ tier set, tp.lookup tier = some set → set.Below B key) (hB : 0 ≤ B) {tier : Tier}
    (hp : resolve tp key = some (p, tier)) : p.Below B := by
  obtain ⟨t, -, ht⟩ := exists_of_findSome?_eq_some hp
  obtain ⟨set, hset, hmap⟩ := Option.bind_eq_some_iff.mp ht
  obtain ⟨q, hq, heq⟩ := Option.map_eq_some_iff.mp hmap
  cases heq
  exact (h _ set hset q hq).resolved hB

lemma absorb_below {m e : Permission} (hm : m.Below B) (he : e.Below B) :
    (absorb m e).Below B := by
  refine ⟨?_, ?_⟩
  · show (if e.value > m.value then e.value else m.value) ≤ B
    split
    · exact he.1
    · exact hm.1
  · show (if e.grant > m.grant then e.grant else m.grant) ≤ B
    split
    · exact he.2
    · exact hm.2

lemma mergeEntries_below {first : Permission} {rest : List Permission} (hfirst : first.Below B)
    (hrest : ∀ e ∈ rest, e.Below B) (hB : 0 ≤ B) : (mergeEntries key first rest).Below B := by
  -- the running maximum stays under the bound
  have hfold : ∀ m : Permission, m.Below B → (rest.foldl absorb m).Below B := by
    induction rest with
    | nil => exact fun m hm => hm
    | cons e rest ih =>
      intro m hm
      exact ih (fun e' he' => hrest e' (mem_cons_of_mem e he')) _
        (absorb_below hm (hrest e mem_cons_self))
  exact (hfold { first with key := key } hfirst).resolved hB

variable {sets : List PermissionSet}

/-- **Merging invents nothing**: what every set's entry for the key stays under, the merged entry
stays under. -/
theorem mergeSet_below (h : ∀ set ∈ sets, set.Below B key) (hB : 0 ≤ B) :
    (mergeSet sets).Below B key := by
  intro p hp
  have hall : ∀ e ∈ sets.filterMap fun set => set.lookup key, e.Below B := by
    intro e he
    obtain ⟨set, hset, hlook⟩ := mem_filterMap.mp he
    exact h set hset e hlook
  rw [lookup_mergeSet] at hp
  cases hes : sets.filterMap fun set => set.lookup key with
  | nil => simp [hes, mergeAll] at hp
  | cons e es =>
    rw [hes] at hp hall
    cases hp
    obtain ⟨he, hes⟩ := forall_mem_cons.mp hall
    exact mergeEntries_below he hes hB

end bounds

end Voicx.Permissions
