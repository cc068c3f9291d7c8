import Voicx.Found.Chain
import Voicx.Found.FiniteMap

/-!
# Trees given by parent pointers

A finite map from each node to its parent. The parent of a root is some key that is not in the map.

* `ascending` — the elements of a finite set in ascending order, by a sort that evaluates.
* `mem_cons_chain_of_reachable` — in a finite structure a chain as long as the number of nodes meets
  everything reachable.
* `subtree parents root` — the nodes from which `root` is reached, by walking up from each.
  `mem_subtree` — the walk is long enough.
* `subtree_closed` — with a node, its children.
* `subtree_eq_singleton_iff` — a subtree of one node is a node without other children.
* `walk` — a worklist walk from parents to children, from the front or from the back; `mem_walk`.
* `Acyclic`, `Acyclic.mono`, `Acyclic.repoint` — no node is its own ancestor; what keeps it so.
* `Climb` — a walk so far, through nodes that have a property.
-/

namespace Voicx.Found

open List Finset Relation ReflTransGen

/-! ## Ascending lists -/

section ascending

variable {α : Type} [LinearOrder α]

/-- The elements of a finite set in ascending order. -/
def ascending (s : Finset α) : List α :=
  Quot.liftOn s.val (List.insertionSort (· ≤ ·)) fun l l' h =>
    have hperm := ((perm_insertionSort (· ≤ ·) l).trans h).trans
      (perm_insertionSort (· ≤ ·) l').symm
    hperm.eq_of_pairwise (fun _ _ _ _ => le_antisymm) (pairwise_insertionSort _ _)
      (pairwise_insertionSort _ _)

@[simp] lemma mem_ascending {s : Finset α} {a : α} : a ∈ ascending s ↔ a ∈ s := by
  obtain ⟨⟨l⟩, hl⟩ := s
  exact (perm_insertionSort _ l).mem_iff

/-- An order in which a loop over a set may visit its elements, each of them once. -/
structure Visits (α : Type) [LinearOrder α] where
  list : Finset α → List α
  perm : ∀ s, (list s).Perm (ascending s)

instance : Inhabited (Visits α) := ⟨ascending, fun _ => .refl _⟩

lemma Visits.mem_list (v : Visits α) {s : Finset α} {a : α} : a ∈ v.list s ↔ a ∈ s :=
  (v.perm s).mem_iff.trans mem_ascending

end ascending

/-! ## Walks in a finite structure -/

section chains

variable {α : Type} {up up' : α → Option α} {a b c : α}

/-- A function with fewer values has shorter chains. -/
lemma mem_chain_mono (h : ∀ x y, up' x = some y → up x = some y) {n : ℕ}
    (hb : b ∈ chain up' n a) : b ∈ chain up n a := by
  induction n generalizing a with
  | zero => exact hb
  | succ n ih =>
    cases hup : up' a with
    | none =>
      rw [chain_succ_of_none hup] at hb
      cases hb
    | some c =>
      rw [chain_succ_of_some hup] at hb
      rw [chain_succ_of_some (h a c hup)]
      rcases mem_cons.mp hb with rfl | hb
      · exact mem_cons_self
      · exact mem_cons_of_mem c (ih hb)

variable [DecidableEq α]

/-- The function without its value at one element. -/
def without (up : α → Option α) (a : α) : α → Option α := fun x => if x = a then none else up x

lemma without_eq_some {x y : α} : without up a x = some y ↔ x ≠ a ∧ up x = some y := by
  unfold without
  split_ifs with h <;> simp [h]

/-- A walk that leaves `a` towards `c` need not come back to `a`. -/
lemma reachable_without (hac : up a = some c) {x : α} (h : ReflTransGen (Link up) x b) :
    ReflTransGen (Link (without up a)) x b ∨ ReflTransGen (Link (without up a)) c b := by
  induction h using head_induction_on with
  | refl => exact .inl ReflTransGen.refl
  | @head x y hxy _ ih =>
    rcases ih with hyb | hcb
    · by_cases hxa : x = a
      · -- the walk is at `a`, so its next element is `c`
        subst hxa
        cases hac.symm.trans hxy
        exact .inr hyb
      · exact .inl (ReflTransGen.head (without_eq_some.mpr ⟨hxa, hxy⟩) hyb)
    · exact .inr hcb

/-- **A finite structure is walked in as many steps as it has elements.** -/
theorem mem_cons_chain_of_reachable (s : Finset α) (hs : ∀ x y, up x = some y → x ∈ s)
    (h : ReflTransGen (Link up) a b) : b ∈ a :: chain up s.card a := by
  induction hn : s.card generalizing s up a with
  | zero =>
    rcases reflTransGen_link_cases h with rfl | ⟨c, hac, -⟩
    · exact mem_cons_self
    · rw [card_eq_zero] at hn
      have hmem := hs a c hac
      simp [hn] at hmem
  | succ n ih =>
    rcases reflTransGen_link_cases h with rfl | ⟨c, hac, hcb⟩
    · exact mem_cons_self
    rw [chain_succ_of_some hac]
    -- from `c` on the walk stays away from `a`
    have hwalk : ReflTransGen (Link (without up a)) c b :=
      (reachable_without hac hcb).elim id id
    have hdomain : ∀ x y, without up a x = some y → x ∈ s.erase a := by
      intro x y hxy
      obtain ⟨hne, hup⟩ := without_eq_some.mp hxy
      exact mem_erase.mpr ⟨hne, hs x y hup⟩
    have hcard : (s.erase a).card = n := by
      rw [card_erase_of_mem (hs a c hac), hn, Nat.add_sub_cancel]
    have hmem := ih (s.erase a) hdomain hwalk hcard
    apply List.mem_cons_of_mem
    rcases mem_cons.mp hmem with rfl | hmem
    · exact mem_cons_self
    · exact mem_cons_of_mem c (mem_chain_mono (fun x y hxy => (without_eq_some.mp hxy).2) hmem)

end chains

/-! ## Subtrees -/

section subtrees

variable {K : Type} [DecidableEq K]

/-- The nodes from which `root` is reached. -/
def subtree (parents : FMap K K) (root : K) : Finset K :=
  parents.keys.filter fun k => root ∈ k :: chain parents.lookup parents.len k

variable {parents : FMap K K} {root k p : K}

/-- **A node is in the subtree exactly if the way up from it meets the root.** -/
theorem mem_subtree :
    k ∈ subtree parents root ↔ k ∈ parents ∧ ReflTransGen (Link parents.lookup) k root := by
  have hdomain : ∀ x y, parents.lookup x = some y → x ∈ parents.keys :=
    fun x y h => Finmap.mem_keys.mpr (Finmap.mem_of_lookup_eq_some h)
  rw [subtree, Finset.mem_filter, FMap.len_eq_card_keys]
  refine and_congr_right fun _ => ⟨reflTransGen_of_mem_cons_chain, fun h => ?_⟩
  exact mem_cons_chain_of_reachable parents.keys hdomain h

lemma root_mem_subtree (h : root ∈ parents) : root ∈ subtree parents root :=
  mem_subtree.mpr ⟨h, ReflTransGen.refl⟩

/-- With a node, its children are in the subtree; and with the root, the root's children. -/
theorem subtree_closed (hk : parents.lookup k = some p)
    (hp : p = root ∨ p ∈ subtree parents root) : k ∈ subtree parents root := by
  have hmem := Finmap.mem_of_lookup_eq_some hk
  rcases hp with rfl | hp
  · exact mem_subtree.mpr ⟨hmem, ReflTransGen.single hk⟩
  · exact mem_subtree.mpr ⟨hmem, ReflTransGen.head hk (mem_subtree.mp hp).2⟩

/-- The subtree of a node is the node alone exactly if no other node has it as its parent. -/
theorem subtree_eq_singleton_iff (hroot : root ∈ parents) :
    subtree parents root = {root} ↔ ∀ k, parents.lookup k = some root → k = root := by
  constructor
  · intro h k hk
    have hmem := subtree_closed hk (.inl rfl)
    rwa [h, Finset.mem_singleton] at hmem
  intro h
  ext k
  rw [Finset.mem_singleton]
  refine ⟨fun hk => ?_, fun hk => by rw [hk]; exact root_mem_subtree hroot⟩
  -- the last step into the root starts at the root
  obtain ⟨-, hwalk⟩ := mem_subtree.mp hk
  induction hwalk using head_induction_on with
  | refl => rfl
  | @head x y hxy hyr ih =>
    have hy : y = root := by
      rcases reflTransGen_link_cases hyr with rfl | ⟨z, hyz, -⟩
      · rfl
      · exact ih (mem_subtree.mpr ⟨Finmap.mem_of_lookup_eq_some hyz, hyr⟩)
    exact h x (hy ▸ hxy)

lemma card_subtree_eq_one_iff (hroot : root ∈ parents) :
    (subtree parents root).card = 1 ↔ ∀ k, parents.lookup k = some root → k = root := by
  rw [← subtree_eq_singleton_iff hroot, card_eq_one]
  constructor
  · rintro ⟨k, hk⟩
    have hmem := root_mem_subtree hroot
    rw [hk, Finset.mem_singleton] at hmem
    rw [hk, hmem]
  · intro h
    exact ⟨root, h⟩

end subtrees

/-! ## Walking down -/

section walk

variable {K : Type} [DecidableEq K] (rows : List (K × K)) (lifo : Bool) {k a : K}
  {todo seen : List K}

/-- The nodes whose parent is `k`, in a table of nodes with their parents. -/
def children (k : K) : List K := (rows.filter (·.2 = k)).map Prod.fst

/-- The new nodes go behind those to do, or before them with the last one first. -/
def push (todo new : List K) : List K := if lifo then new.reverse ++ todo else todo ++ new

/-- What is to do and what was not met, after one more node. -/
lemma length_push_add (h : k ∉ seen) :
    (push lifo todo (children rows k)).length + (rows.filter (·.2 ∉ seen ++ [k])).length =
      todo.length + (rows.filter (·.2 ∉ seen)).length := by
  have hsplit : (children rows k).length + (rows.filter (·.2 ∉ seen ++ [k])).length =
      (rows.filter (·.2 ∉ seen)).length := by
    induction rows with
    | nil => rfl
    | cons row rows ih =>
      by_cases hk : row.2 = k <;> by_cases hs : row.2 ∈ seen <;> simp_all [children] <;> omega
  unfold push
  split_ifs <;> simp only [length_append, length_reverse] <;> omega

/-- The nodes met on a walk from parents to children, in the order in which they are taken up. -/
def walk (todo seen : List K) : List K :=
  match todo with
  | [] => seen
  | k :: todo =>
    if k ∈ seen then walk todo seen else walk (push lifo todo (children rows k)) (seen ++ [k])
termination_by todo.length + (rows.filter (·.2 ∉ seen)).length
decreasing_by
  · simp
  · rw [length_push_add rows lifo ‹_›, length_cons]
    omega

variable {rows lifo}

lemma nodup_walk (h : seen.Nodup) : (walk rows lifo todo seen).Nodup := by
  fun_induction walk rows lifo todo seen with
  | case1 => exact h
  | case2 seen k todo hk ih => exact ih h
  | case3 seen k todo hk ih => exact ih (concat_eq_append ▸ h.concat hk)

/-- **A walk meets what is below the nodes to do**, as long as the children of a node that was met
are met or to do. -/
theorem mem_walk (h : ∀ k ∈ seen, ∀ c ∈ children rows k, c ∈ seen ∨ c ∈ todo) :
    a ∈ walk rows lifo todo seen ↔
      a ∈ seen ∨ ∃ k ∈ todo, ReflTransGen (fun p c => c ∈ children rows p) k a := by
  fun_induction walk rows lifo todo seen with
  | case1 => simp
  | case2 seen k todo hk ih =>
    have hclosed : ∀ k ∈ seen, ∀ c ∈ children rows k, c ∈ seen ∨ c ∈ todo := by
      grind
    -- what is below a node that was met has been met, or is below another node to do
    have hbelow : ∀ x ∈ seen, ReflTransGen (fun p c => c ∈ children rows p) x a →
        a ∈ seen ∨ ∃ y ∈ todo, ReflTransGen (fun p c => c ∈ children rows p) y a := by
      intro x hx hxa
      induction hxa using head_induction_on with
      | refl => exact .inl hx
      | @head x y hxy hya ih => exact (hclosed x hx y hxy).elim ih fun hy => .inr ⟨y, hy, hya⟩
    rw [ih hclosed]
    grind
  | case3 seen k todo hk ih =>
    have hpush : ∀ c, c ∈ push lifo todo (children rows k) ↔ c ∈ todo ∨ c ∈ children rows k := by
      intro c
      unfold push
      split_ifs <;> simp [or_comm]
    rw [ih (by grind)]
    simp only [List.mem_cons, or_and_right, exists_or, exists_eq_left, hpush, mem_append,
      not_mem_nil, cases_head_iff (a := k), or_false, eq_comm (a := k), or_assoc,
      or_comm (a := ∃ x ∈ todo, _)]

end walk

/-! ## Acyclic structures -/

section acyclic

variable {α : Type*} {up up' : α → Option α} {a b c p : α}

/-- No element is above itself. -/
def Acyclic (up : α → Option α) : Prop := ∀ a, ¬TransGen (Link up) a a

/-- Links may be taken away. -/
theorem Acyclic.mono (h : Acyclic up) (hsub : ∀ x y, up' x = some y → up x = some y) :
    Acyclic up' :=
  fun a hcycle => h a (hcycle.lift id hsub)

/-- A walk after one element was given a new link: it does not use the link, or it comes to the
element by old links and, after the last use, goes on by old links. -/
lemma transGen_repoint (hold : ∀ x, x ≠ a → up' x = up x) (hnew : up' a = some p)
    (h : TransGen (Link up') b c) :
    TransGen (Link up) b c ∨ (ReflTransGen (Link up) b a ∧ ReflTransGen (Link up) p c) := by
  induction h with
  | @single x hx =>
    by_cases hb : b = a
    · subst hb
      cases hnew.symm.trans hx
      exact .inr ⟨.refl, .refl⟩
    · exact .inl (.single ((hold b hb).symm.trans hx))
  | @tail x y _ hxy ih =>
    by_cases hx : x = a
    · subst hx
      cases hnew.symm.trans hxy
      exact .inr ⟨ih.elim TransGen.to_reflTransGen And.left, .refl⟩
    · have hlink : Link up x y := (hold x hx).symm.trans hxy
      exact ih.imp (·.tail hlink) fun hboth => ⟨hboth.1, hboth.2.tail hlink⟩

/-- **An element may be hung below anything that is not below it.** -/
theorem Acyclic.repoint (h : Acyclic up) (hold : ∀ x, x ≠ a → up' x = up x)
    (hnew : up' a = some p) (hp : ¬ReflTransGen (Link up) p a) : Acyclic up' := by
  intro b hcycle
  rcases transGen_repoint hold hnew hcycle with hcycle | ⟨hba, hpb⟩
  · exact h b hcycle
  · exact hp (hpb.trans hba)

/-- Nothing is above an element without a link. -/
lemma eq_of_reachable_of_none (ha : up a = none) (h : ReflTransGen (Link up) a b) : b = a := by
  rcases reflTransGen_link_cases h with rfl | ⟨c, hac, -⟩
  · rfl
  · rw [ha] at hac
    cases hac

/-- `b` is reached from `a` by `n` links, each from an element that has the property. -/
inductive Climb (up : α → Option α) (Q : α → Prop) (a : α) : ℕ → α → Prop
  | refl : Climb up Q a 0 a
  | tail {n : ℕ} {b c : α} : Climb up Q a n b → Q b → up b = some c → Climb up Q a (n + 1) c

variable {Q Q' : α → Prop} {n : ℕ}

/-- A walk stays where its elements keep the property and their links. -/
theorem Climb.mono (h : Climb up Q a n b) (hkeep : ∀ x, Q x → Q' x ∧ up' x = up x) :
    Climb up' Q' a n b := by
  induction h with
  | refl => exact .refl
  | @tail n x y _ hx hxy ih => exact ih.tail (hkeep x hx).1 ((hkeep x hx).2.trans hxy)

lemma Climb.head (ha : Q a) (hab : up a = some b) (h : Climb up Q b n c) :
    Climb up Q a (n + 1) c := by
  induction h with
  | refl => exact Climb.refl.tail ha hab
  | tail _ hx hxy ih => exact ih.tail hx hxy

/-- A climb is a path. -/
theorem Climb.reachable (h : Climb up Q a n b) : ReflTransGen (Link up) a b := by
  induction h with
  | refl => exact .refl
  | tail _ _ hxy ih => exact ih.tail hxy

end acyclic

end Voicx.Found
