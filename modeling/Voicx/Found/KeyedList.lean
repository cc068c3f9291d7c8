import Mathlib.Tactic

/-!
# Lists of rows with a key

A table as the list of its rows, with a column `key` that identifies a row.

* `find?_key_eq_some` — where no key occurs twice, a search by key finds exactly the row with it.
* `upsert key rows row` — the row replaces the one with its key, or is added at the end.
  `mem_upsert` says which rows there are afterwards, `find?_upsert` what a search by key finds;
  `nodup_map_upsert` keeps another column unique, `foldl_upsert` adds rows with new keys.
-/

namespace Voicx.Found

open List

variable {α β γ : Type*} [DecidableEq β]

/-- Where keys are unique, a search finds the row with the key. -/
lemma find?_key_eq_some {key : α → β} {rows : List α} (h : (rows.map key).Nodup) {b : β} {a : α} :
    rows.find? (fun x => key x == b) = some a ↔ a ∈ rows ∧ key a = b := by
  constructor
  · intro ha
    exact ⟨mem_of_find?_eq_some ha, by simpa using find?_some ha⟩
  rintro ⟨ha, hkey⟩
  have hsome : (rows.find? fun x => key x == b).isSome := by
    rw [find?_isSome]
    exact ⟨a, ha, by simpa using hkey⟩
  obtain ⟨x, hx⟩ := Option.isSome_iff_exists.mp hsome
  have hxkey : key x = b := by simpa using find?_some hx
  have heq : x = a :=
    inj_on_of_nodup_map h (mem_of_find?_eq_some hx) ha (hxkey.trans hkey.symm)
  rw [hx, heq]

/-- Replace the row with the key, or add it. -/
def upsert (key : α → β) (rows : List α) (row : α) : List α :=
  if rows.any (fun x => key x == key row) then
    rows.map fun x => if key x = key row then row else x
  else rows ++ [row]

section upsert

variable {key : α → β} {rows : List α} {row a : α}

/-- The new row, and the others with another key. -/
theorem mem_upsert : a ∈ upsert key rows row ↔ a = row ∨ a ∈ rows ∧ key a ≠ key row := by
  unfold upsert
  split_ifs with hany
  · obtain ⟨old, hold, hkey⟩ := any_eq_true.mp hany
    rw [mem_map]
    constructor
    · rintro ⟨x, hx, rfl⟩
      by_cases hxkey : key x = key row
      · simp [hxkey]
      · simp [hxkey, hx]
    · rintro (rfl | ⟨ha, hne⟩)
      · exact ⟨old, hold, if_pos (by simpa using hkey)⟩
      · exact ⟨a, ha, if_neg hne⟩
  · have hnone : ∀ x ∈ rows, key x ≠ key row := by
      intro x hx hkey
      exact hany (any_eq_true.mpr ⟨x, hx, by simpa using hkey⟩)
    rw [mem_append, mem_singleton]
    constructor
    · rintro (ha | rfl)
      · exact .inr ⟨ha, hnone a ha⟩
      · exact .inl rfl
    · rintro (rfl | ⟨ha, -⟩)
      · exact .inr rfl
      · exact .inl ha

/-- The row that was written is found under its key, and under no other. -/
lemma find?_upsert (key : α → β) (rows : List α) (row : α) (b : β) :
    (upsert key rows row).find? (fun x => key x == b) =
      if b = key row then some row else rows.find? fun x => key x == b := by
  have hkey : ((fun x => key x == b) ∘ fun x => if key x = key row then row else x) =
      fun x => key x == b := by
    funext x
    by_cases hx : key x = key row <;> simp [hx]
  unfold upsert
  split_ifs with hany hb hb
  · -- the old row is found, and replaced
    rw [find?_map, hkey]
    cases hfind : rows.find? fun x => key x == b with
    | none =>
      obtain ⟨old, hold, hokey⟩ := any_eq_true.mp hany
      have := find?_eq_none.mp hfind old hold
      rw [hb] at this
      exact absurd hokey this
    | some x =>
      have hx : key x = key row := by simpa [hb] using find?_some hfind
      rw [Option.map_some, if_pos hx]
  · rw [find?_map, hkey]
    cases hfind : rows.find? fun x => key x == b with
    | none => rfl
    | some x =>
      have hx : key x = b := by simpa using find?_some hfind
      rw [Option.map_some, if_neg (by rwa [hx])]
  · have hnone : (rows.find? fun x => key x == b) = none := by
      rw [find?_eq_none]
      intro x hx hxb
      refine hany (any_eq_true.mpr ⟨x, hx, ?_⟩)
      rwa [hb] at hxb
    rw [find?_append, hnone]
    simp [hb]
  · have hne : ¬key row = b := fun h => hb h.symm
    simp [hne]

/-- Another column stays unique if the row keeps its value there, or brings a new one. -/
theorem nodup_map_upsert {col : α → γ} (h : (rows.map col).Nodup)
    (hold : ∀ x ∈ rows, key x = key row → col x = col row)
    (hnew : (∀ x ∈ rows, key x ≠ key row) → ∀ x ∈ rows, col x ≠ col row) :
    ((upsert key rows row).map col).Nodup := by
  unfold upsert
  split_ifs with hany
  · have hcol : (rows.map fun x => if key x = key row then row else x).map col = rows.map col := by
      rw [map_map]
      refine map_congr_left fun x hx => ?_
      simp only [Function.comp_apply]
      split_ifs with hkey
      · exact (hold x hx hkey).symm
      · rfl
    rwa [hcol]
  · have hfresh : ∀ x ∈ rows, key x ≠ key row := by
      intro x hx hkey
      exact hany (any_eq_true.mpr ⟨x, hx, by simpa using hkey⟩)
    rw [map_append]
    refine h.append (nodup_singleton _) ?_
    intro c hc hrow
    obtain ⟨x, hx, rfl⟩ := mem_map.mp hc
    exact hnew hfresh x hx (mem_singleton.mp hrow)

/-- Rows with new keys are added in their order. -/
theorem foldl_upsert {new : List α} (h : ((rows ++ new).map key).Nodup) :
    new.foldl (upsert key) rows = rows ++ new := by
  induction new generalizing rows with
  | nil => simp
  | cons row new ih =>
    have hrow : ¬rows.any (fun x => key x == key row) = true := by
      intro hany
      obtain ⟨x, hx, hkey⟩ := any_eq_true.mp hany
      rw [map_append] at h
      have hdisjoint := disjoint_of_nodup_append h
      refine hdisjoint (mem_map_of_mem hx) ?_
      rw [show key x = key row by simpa using hkey]
      exact mem_map_of_mem mem_cons_self
    have happend : upsert key rows row = rows ++ [row] := if_neg hrow
    rw [foldl_cons, happend, ih (by simpa using h), append_assoc, singleton_append]

end upsert

end Voicx.Found
