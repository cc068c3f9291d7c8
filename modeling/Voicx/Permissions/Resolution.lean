import Voicx.Permissions.Loader

/-!
# What a load resolves to

A load followed by a resolution picks, for one key, the first of six entries. This module says which
six, so that nothing after it has to look at tier maps, folds or merges.

* `findSome?_cons_or`, `findSome?_split` — a search along a list, from its head and from one
  element.
* `entryAt` — the entry one place holds for a key, with its equations after a write.
* `chainEntry`, `mergedEntry` — the entry of the channel tier over the inheritance chain, and of
  several groups merged.
* `winner` — the entry that wins for a user in a channel; `resolve_loadFromDB` — resolving what was
  loaded gives exactly that entry.
* `winner_congr` — the winner depends on nothing but the entries at the places of `appliesTo`.
-/

namespace Voicx.Permissions

open Found List ReadProg PermRows

/-! ## Searching a list -/

section search

variable {α β : Type} (f : α → Option β)

lemma orElse_none_right (a : Option α) : (a <|> none) = a := by
  cases a <;> rfl

lemma orElse_assoc (a b c : Option α) : ((a <|> b) <|> c) = (a <|> b <|> c) := by
  cases a <;> rfl

/-- A search along a list: the first element's answer, else that of the rest. -/
lemma findSome?_cons_or (a : α) (l : List α) :
    (a :: l).findSome? f = (f a <|> l.findSome? f) := by
  rw [List.findSome?_cons]
  cases f a <;> rfl

variable [DecidableEq α] {t : α}

/-- Elements without an answer may be left out of a search. -/
lemma findSome?_filter_ne (ht : f t = none) (l : List α) :
    (l.filter fun a => a ≠ t).findSome? f = l.findSome? f := by
  induction l with
  | nil => rfl
  | cons a l ih =>
    by_cases ha : a = t
    · subst ha
      rw [filter_cons_of_neg (by simp), ih, findSome?_cons_or, ht]
      rfl
    · rw [filter_cons_of_pos (by simpa using ha), findSome?_cons_or, findSome?_cons_or, ih]

/-- A search seen from one of the elements: what comes before it, its own answer, and the other
elements after it. -/
lemma findSome?_split {l : List α} (ht : t ∈ l) :
    l.findSome? f = ((l.takeWhile fun a => a ≠ t).findSome? f <|> f t <|>
      ((l.dropWhile fun a => a ≠ t).filter fun a => a ≠ t).findSome? f) := by
  induction l with
  | nil => cases ht
  | cons a l ih =>
    by_cases ha : a = t
    · subst ha
      rw [takeWhile_cons_of_neg (by simp), dropWhile_cons_of_neg (by simp),
        filter_cons_of_neg (by simp), findSome?_cons_or]
      cases hfa : f a with
      | some b => rfl
      | none => exact (findSome?_filter_ne f hfa l).symm
    · have hl : t ∈ l := (mem_cons.mp ht).resolve_left fun h => ha h.symm
      rw [takeWhile_cons_of_pos (by simpa using ha),
        dropWhile_cons_of_pos (by simpa using ha), findSome?_cons_or, findSome?_cons_or, ih hl]
      cases f a <;> rfl

end search

/-! ## The entry at one place -/

/-- The entry a place holds for a key. -/
def entryAt (db : PermDB) (loc : PermLoc) (key : String) : Option Permission :=
  (loadPermissionRows loc db).lookup key

section entryAt

variable {db : PermDB} {loc : PermLoc} {key : String} {es : List PermEntry} {s : PermissionSet}

/-- A key that no entry of the list has is untouched by scanning the list. -/
lemma lookup_foldl_set_of_not_mem (h : ∀ e ∈ es, e.key ≠ key) :
    (es.foldl (fun set e => PermissionSet.set set e.toPermission) s).lookup key = s.lookup key := by
  induction es generalizing s with
  | nil => rfl
  | cons e es ih =>
    rw [foldl_cons, ih fun e' he' => h e' (mem_cons_of_mem e he'), PermissionSet.set,
      FMap.lookup_insert_ite, if_neg]
    intro hkey
    exact h e mem_cons_self hkey.symm

/-- Scanning a list with one entry for the key finds that entry. -/
lemma lookup_foldl_set_of_mem {e : PermEntry} (he : e ∈ es)
    (huniq : ∀ e' ∈ es, e'.key = e.key → e' = e) :
    (es.foldl (fun set e => PermissionSet.set set e.toPermission) s).lookup e.key =
      some e.toPermission := by
  induction es generalizing s with
  | nil => cases he
  | cons e' es ih =>
    rw [foldl_cons]
    by_cases hmem : e ∈ es
    · exact ih hmem fun e'' he'' => huniq e'' (mem_cons_of_mem e' he'')
    -- the entry is the head and the tail does not have the key again
    have hhead : e = e' := (mem_cons.mp he).resolve_right hmem
    subst hhead
    rw [lookup_foldl_set_of_not_mem, PermissionSet.set, FMap.lookup_insert_ite]
    · exact if_pos rfl
    · intro e'' he'' hkey
      exact hmem (huniq e'' (mem_cons_of_mem e he'') hkey ▸ he'')

/-- A place holds an entry exactly when the tables have the row. -/
lemma entryAt_eq_some_iff {p : Permission} :
    entryAt db loc key = some p ↔
      ∃ e, ⟨loc, e⟩ ∈ db.perms.rows ∧ e.key = key ∧ p = e.toPermission := by
  have hmem : ∀ e, e ∈ (db.perms.rows.filter fun r => r.loc = loc).map PermRow.entry ↔
      ⟨loc, e⟩ ∈ db.perms.rows := by
    intro e
    simp only [mem_map, mem_filter, decide_eq_true_eq]
    constructor
    · rintro ⟨r, ⟨hr, rfl⟩, rfl⟩
      exact hr
    · exact fun h => ⟨⟨loc, e⟩, ⟨h, rfl⟩, rfl⟩
  constructor
  · intro h
    rcases mem_foldl_set h with ⟨e, he, hkey, hp⟩ | hnone
    · exact ⟨e, (hmem e).mp he, hkey, hp⟩
    · simp at hnone
  · rintro ⟨e, he, rfl, rfl⟩
    refine lookup_foldl_set_of_mem ((hmem e).mpr he) fun e' he' hkey => ?_
    exact entry_unique ((hmem e').mp he') he hkey

lemma entryAt_eq_none_iff :
    entryAt db loc key = none ↔ ∀ e, ⟨loc, e⟩ ∈ db.perms.rows → e.key ≠ key := by
  rw [Option.eq_none_iff_forall_ne_some]
  constructor
  · intro h e he hkey
    exact h e.toPermission (entryAt_eq_some_iff.mpr ⟨e, he, hkey, rfl⟩)
  · intro h p hp
    obtain ⟨e, he, hkey, -⟩ := entryAt_eq_some_iff.mp hp
    exact h e he hkey

/-- Two databases whose rows agree on a place and a key hold the same entry there. -/
lemma entryAt_congr {db' : PermDB}
    (h : ∀ e, e.key = key → (⟨loc, e⟩ ∈ db'.perms.rows ↔ ⟨loc, e⟩ ∈ db.perms.rows)) :
    entryAt db' loc key = entryAt db loc key := by
  apply Option.ext
  intro p
  rw [entryAt_eq_some_iff, entryAt_eq_some_iff]
  constructor
  · rintro ⟨e, he, hkey, hp⟩
    exact ⟨e, (h e hkey).mp he, hkey, hp⟩
  · rintro ⟨e, he, hkey, hp⟩
    exact ⟨e, (h e hkey).mpr he, hkey, hp⟩

/-- The entries after a write: the written one at its place, the others as they were. -/
lemma entryAt_put (e : PermEntry) (loc' : PermLoc) (key' : String) :
    entryAt { db with perms := db.perms.put loc e } loc' key' =
      if loc' = loc ∧ key' = e.key then some e.toPermission else entryAt db loc' key' := by
  split_ifs with h
  · obtain ⟨rfl, rfl⟩ := h
    exact entryAt_eq_some_iff.mpr ⟨e, mem_put.mpr (.inr rfl), rfl, rfl⟩
  refine entryAt_congr fun e' hkey => ?_
  have hslot : PermRow.slot ⟨loc', e'⟩ ≠ (loc, e.key) := by
    intro hs
    obtain ⟨hl, hk⟩ := Prod.mk.inj hs
    exact h ⟨hl, hkey ▸ hk⟩
  have hne : (⟨loc', e'⟩ : PermRow) ≠ ⟨loc, e⟩ := by
    intro hr
    cases hr
    exact hslot rfl
  simp [mem_put, hslot, hne]

/-- The entries after a removal: none at the place, the others as they were. -/
lemma entryAt_delete (loc' : PermLoc) (key' : String) :
    entryAt { db with perms := db.perms.delete loc key } loc' key' =
      if loc' = loc ∧ key' = key then none else entryAt db loc' key' := by
  split_ifs with h
  · obtain ⟨rfl, rfl⟩ := h
    refine entryAt_eq_none_iff.mpr fun e he hkey => ?_
    exact (mem_delete.mp he).2 (Prod.ext rfl hkey)
  refine entryAt_congr fun e' hkey => ?_
  have hslot : PermRow.slot ⟨loc', e'⟩ ≠ (loc, key) := by
    intro hs
    obtain ⟨hl, hk⟩ := Prod.mk.inj hs
    exact h ⟨hl, hkey ▸ hk⟩
  simp [mem_delete, hslot]

end entryAt

/-! ## The channel tier and merged groups -/

/-- The entry of the first of the channels that has the key. -/
def tierEntry (db : PermDB) (ids : List Int) (key : String) : Option Permission :=
  ids.findSome? fun id => entryAt db (.channel id) key

/-- The entry of the channel tier: the nearest channel of the chain that has the key. -/
def chainEntry (db : PermDB) (channelID : Int) (key : String) : Option Permission :=
  tierEntry db (channelTierOf db channelID) key

/-- The entry of several places of one tier merged. -/
def mergedEntry (db : PermDB) (locs : List PermLoc) (key : String) : Option Permission :=
  (mergeSet (locs.map fun loc => loadPermissionRows loc db)).lookup key

section tiers

variable {db db' : PermDB} {key : String}

lemma lookup_foldl_union (sets : List PermissionSet) (s : PermissionSet) :
    (sets.foldl (fun merged set => merged ∪ set) s).lookup key =
      (s.lookup key <|> sets.findSome? fun set => set.lookup key) := by
  induction sets generalizing s with
  | nil => cases h : s.lookup key <;> simp [h]
  | cons set sets ih =>
    rw [foldl_cons, ih, FMap.lookup_union, List.findSome?_cons]
    cases s.lookup key <;> cases set.lookup key <;> rfl

/-- The channel tier of a load is the entry of the chain. -/
lemma lookup_loadChannelPermissionChain (channelID : Int) :
    ((loadChannelPermissionChain channelID).eval db).lookup key = chainEntry db channelID key := by
  unfold chainEntry tierEntry channelTierOf loadChannelPermissionChain
  rw [eval_bind, eval_ask]
  by_cases hchain : channelPermissionChain channelID db = []
  · rw [if_pos hchain, if_pos hchain]
    simp only [List.findSome?_cons, List.findSome?_nil]
    show entryAt db (.channel channelID) key = _
    cases entryAt db (.channel channelID) key <;> rfl
  · rw [if_neg hchain, if_neg hchain, eval_bind, eval_forEach, eval_pure,
      lookup_foldl_union, List.findSome?_map]
    rfl

/-- A merge depends on the entries of its places and on nothing else. -/
lemma mergedEntry_congr {locs : List PermLoc}
    (h : ∀ loc ∈ locs, entryAt db' loc key = entryAt db loc key) :
    mergedEntry db' locs key = mergedEntry db locs key := by
  have hmap : (locs.map fun loc => loadPermissionRows loc db').map (fun set => set.lookup key) =
      (locs.map fun loc => loadPermissionRows loc db).map fun set => set.lookup key := by
    rw [map_map, map_map]
    exact map_congr_left h
  simp [mergedEntry, mergeSet, lookup_foldl_addContribs, hmap]

lemma tierEntry_congr {ids : List Int}
    (h : ∀ id ∈ ids, entryAt db' (.channel id) key = entryAt db (.channel id) key) :
    tierEntry db' ids key = tierEntry db ids key := by
  unfold tierEntry
  induction ids with
  | nil => rfl
  | cons id ids ih =>
    rw [findSome?_cons_or, findSome?_cons_or, h id mem_cons_self,
      ih fun id' hid' => h id' (mem_cons_of_mem id hid')]

variable {channelID : Int}

lemma chainEntry_congr (hchan : db'.channels = db.channels)
    (h : ∀ id ∈ channelTierOf db channelID,
      entryAt db' (.channel id) key = entryAt db (.channel id) key) :
    chainEntry db' channelID key = chainEntry db channelID key := by
  have htier : channelTierOf db' channelID = channelTierOf db channelID := by
    unfold channelTierOf channelPermissionChain
    rw [hchan]
  unfold chainEntry
  rw [htier]
  exact tierEntry_congr h

end tiers

/-! ## The winner -/

/-- The entry that wins for a user in a channel. -/
def winner (db : PermDB) (userID channelID : Int) (key : String) : Option Permission :=
  mergedEntry db ((db.serverGroups userID).map .serverGroup) key <|>
    entryAt db (.client userID) key <|>
    entryAt db (.clientChannel userID channelID) key <|>
    chainEntry db channelID key <|>
    mergedEntry db ((db.channelGroups userID channelID).map .channelGroup) key <|>
    entryAt db (.channelClient userID channelID) key

/-- The resolver searches the tiers for an entry and resolves what it finds. -/
lemma resolve_map_fst (tp : TieredPermissions) (key : String) :
    (resolve tp key).map Prod.fst =
      (tierOrder.findSome? fun tier => (tp.lookup tier).bind fun set => set.lookup key).map
        Permission.resolved := by
  unfold resolve
  induction tierOrder with
  | nil => rfl
  | cons tier tiers ih =>
    rw [findSome?_cons_or, findSome?_cons_or]
    cases tp.lookup tier with
    | none => exact ih
    | some set =>
      rw [Option.bind_some, Option.bind_some]
      cases set.lookup key with
      | none => exact ih
      | some p => rfl

/-- **Resolving a load gives the winner.** -/
theorem resolve_loadFromDB (db : PermDB) (userID channelID : Int) (key : String) :
    (resolve ((loadFromDB userID channelID).eval db) key).map Prod.fst =
      (winner db userID channelID key).map Permission.resolved := by
  rw [resolve_map_fst]
  congr 1
  simp only [loadFromDB, eval_bind, eval_ask, eval_forEach,
    eval_pure, tierOrder, findSome?_cons_or, List.findSome?_nil, FMap.lookup_insert_ite,
    reduceCtorEq, if_false, if_true, Option.bind_some, lookup_loadChannelPermissionChain,
    orElse_none_right]
  unfold winner mergedEntry
  rw [map_map, map_map]
  rfl

/-- The winner depends on nothing but the entries at the places a load reads. -/
theorem winner_congr {db db' : PermDB} {userID channelID : Int} {key : String}
    (hgroups : db'.serverGroups userID = db.serverGroups userID)
    (hchannelGroups : db'.channelGroups userID channelID = db.channelGroups userID channelID)
    (hchannels : db'.channels = db.channels)
    (h : ∀ loc ∈ appliesTo db userID channelID, entryAt db' loc key = entryAt db loc key) :
    winner db' userID channelID key = winner db userID channelID key := by
  have hserver : mergedEntry db' ((db.serverGroups userID).map .serverGroup) key =
      mergedEntry db ((db.serverGroups userID).map .serverGroup) key := by
    refine mergedEntry_congr fun loc hloc => h loc ?_
    simp [appliesTo, hloc]
  have hchannelGroup :
      mergedEntry db' ((db.channelGroups userID channelID).map .channelGroup) key =
        mergedEntry db ((db.channelGroups userID channelID).map .channelGroup) key := by
    refine mergedEntry_congr fun loc hloc => h loc ?_
    simp [appliesTo, hloc]
  have hchain : chainEntry db' channelID key = chainEntry db channelID key :=
    chainEntry_congr hchannels fun id hid => h _ (by simp [appliesTo, hid])
  unfold winner
  rw [hgroups, hchannelGroups, hserver, hchannelGroup, hchain, h _ (by simp [appliesTo]),
    h _ (by simp [appliesTo]), h _ (by simp [appliesTo])]

end Voicx.Permissions
