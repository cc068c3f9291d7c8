import Voicx.Channels.Forest

/-!
# Several processes on one table

The tree lock of a channel manager keeps its own operations apart, not those of another server
process on the same database. Between processes only the row locks count: `SELECT … FOR UPDATE`,
`UPDATE` and `DELETE` lock the rows they touch until the transaction ends, and the foreign key on
`parent_id` makes an `INSERT` wait for the row of the parent and a `DELETE` cascade to the children.
Here an `INSERT` waits for a plain `UPDATE` of the parent too, which PostgreSQL lets pass, as it
leaves the key alone.

* `Transaction`, `Database` — the calls under way and who holds which row.
* `Database.step` — one statement of one call. The cycle guard is one statement for each row it
  looks at, and other calls may run in between.
* `Database.Inv` — every row a guard has walked over is still held and still has the parent that was
  read; everything a deletion holds is below the channel it deletes.
* `Inv.change` — **so each statement makes one of the changes of whole operations**: when an edit
  commits, the guard would pass on the table as it is now, and what a deletion takes is the subtree.
* `stays_forest` — the tree stays a forest in every interleaving, and no guard runs for more than
  66 statements, whatever the table holds.
* `updateChannel_settles` — an edit that is alone ends, with the result and the table of the
  manager's operation.

Source names without a file are from `internal/channels/manager.go`.
-/

namespace Voicx.Channels

open Found State ChannelManager Manager Finmap Option FMap Nat Table

/-! ## Calls under way -/

/-- Where an edit stands.
Source: `validateMoveTx`, `UpdateChannel` -/
inductive EditStage
  /-- the channel itself is locked next -/
  | lockSelf (newParentID : Int)
  /-- `current` is looked at next, after `depth` others -/
  | walk (newParentID current : Int) (depth : ℕ)
  /-- the `UPDATE` is next -/
  | passed
  /-- the commit is next -/
  | written
  deriving DecidableEq, Repr

/-- A call as the database sees it. -/
inductive Transaction
  /-- a creation before its `INSERT` -/
  | create (row : Row)
  | edit (channelID : Int) (upd : ChannelUpdate) (stage : EditStage)
  /-- a deletion before its `DELETE` -/
  | delete (channelID : Int)
  /-- a `DELETE` that has locked its row and looks for rows below the locked ones -/
  | cascade (channelID : Int)
  | ended (result : Except UpdateError Unit)

open Transaction

/-- The row whose lock the next statement needs. -/
def Transaction.wants : Transaction → Option Int
  | .create row => if row.parentID = 0 then none else some row.parentID
  | .edit channelID _ (.lockSelf _) => some channelID
  | .edit channelID _ (.walk _ current _) => if current = channelID then none else some current
  | .edit channelID _ .passed => some channelID
  | .edit _ _ .written => none
  | .delete channelID => some channelID
  | .cascade _ => none
  | .ended _ => none

/-- A guard is at work. -/
def Transaction.Guarding : Transaction → Bool
  | .edit _ _ (.lockSelf _) => true
  | .edit _ _ (.walk _ _ _) => true
  | _ => false

/-- An edit before its first statement.
Source: `UpdateChannel` -/
def Transaction.beginEdit (channelID : Int) (upd : ChannelUpdate) : Transaction :=
  match upd.invalid with
  | some detail => .ended (.error (.invalidSpec detail))
  | none =>
    if upd = {} then .ended (.ok ())
    else match upd.parentID with
      | none => .edit channelID upd .passed
      | some newParentID => .edit channelID upd (.lockSelf newParentID)

/-! ## The database -/

/-- The table, the calls of all processes, and the row locks. -/
structure Database where
  table : Table
  transactions : List Transaction
  /-- row → the transaction that has locked it -/
  locks : FMap Int ℕ

/-- A step of some process. -/
inductive TreeStep
  | createChannel (sql : Calls) (spec : ChannelSpec)
  | updateChannel (channelID : Int) (upd : ChannelUpdate)
  | deleteChannel (channelID : Int)
  /-- the next statement of a transaction -/
  | advance (transaction : ℕ)
  /-- the cascade of a `DELETE` locks one more row -/
  | cascade (transaction : ℕ) (child : Int)
  /-- a deadlock, a lost connection, a cancelled context, the end of a process -/
  | abort (transaction : ℕ) (reason : String)

namespace Database

/-- A table nobody works on. -/
def start (t : Table) : Database := ⟨t, [], ∅⟩

variable (s : Database) (i : ℕ)

/-- The rows a transaction has locked. -/
def held : Finset Int := (s.locks.filter fun _ j => decide (j = i)).keys

/-- The row is not locked by another transaction. -/
def Free (id : Int) : Prop := s.locks.lookup id = none ∨ s.locks.lookup id = some i

instance (id : Int) : Decidable (s.Free i id) := inferInstanceAs (Decidable (_ ∨ _))

/-- The next statement has to wait. -/
def waits (tx : Transaction) : Bool := tx.wants.any fun id => decide (¬s.Free i id)

/-- Every row below a locked one is locked as well. -/
def Complete : Prop :=
  ∀ k ∈ s.table.rows.keys, ∀ p ∈ s.table.parents.lookup k, p ∈ s.held i → k ∈ s.held i

instance : Decidable (s.Complete i) :=
  inferInstanceAs (Decidable (∀ k ∈ s.table.rows.keys, ∀ p ∈ s.table.parents.lookup k, _))

/-- A new call. -/
def enter (tx : Transaction) : Database := { s with transactions := s.transactions ++ [tx] }

/-- The transaction locks a row and goes on. -/
def hold (id : Int) (tx : Transaction) : Database :=
  { s with locks := s.locks.insert id i, transactions := s.transactions.set i tx }

/-- The transaction commits the table and lets go of its rows. -/
def commit (t : Table) (result : Except UpdateError Unit) : Database where
  table := t
  transactions := s.transactions.set i (.ended result)
  locks := s.locks.filter fun _ j => decide (j ≠ i)

/-- The transaction is rolled back. -/
def rollback (e : UpdateError) : Database := s.commit i s.table (.error e)

/-- The next statement of an edit; its lock is free.
Source: `validateMoveTx`, `UpdateChannel`
Fidelity: the foreign key's look at the new parent is left out; the transaction holds that row -/
def proceedEdit (channelID : Int) (upd : ChannelUpdate) : EditStage → Database
  | .lockSelf newParentID =>
    if channelID ∉ s.table.rows then s.rollback i .channelNotFound
    else s.hold i channelID (.edit channelID upd
      (if newParentID = 0 then .passed else .walk newParentID newParentID 0))
  | .walk newParentID current depth =>
    if current = channelID then
      s.rollback i (.invalidMove ("channel " ++ toString channelID ++ " is an ancestor of " ++
        toString newParentID))
    else match s.table.rows.lookup current with
      | none =>
        s.rollback i (if depth = 0 then
          .invalidMove ("parent channel " ++ toString newParentID ++ " does not exist")
        else .failed "checking channel ancestry")
      | some r =>
        if maxChannelDepth ≤ depth then
          s.rollback i (.invalidMove ("parent ancestry exceeds maximum depth " ++
            toString maxChannelDepth))
        else s.hold i current (.edit channelID upd
          (if r.parentID = 0 then .passed else .walk newParentID r.parentID (depth + 1)))
  | .passed =>
    if channelID ∉ s.table.rows then s.rollback i .channelNotFound
    else s.hold i channelID (.edit channelID upd .written)
  | .written => s.commit i (s.table.modify channelID (Row.set upd)) (.ok ())

/-- The next statement of a transaction; its lock is free. An `INSERT` below a row that is gone
violates the foreign key. -/
def proceed : Transaction → Database
  | .create row =>
    if row.parentID ≠ 0 ∧ row.parentID ∉ s.table.rows then
      s.rollback i (.failed "inserting channel")
    else s.commit i (s.table.insert row) (.ok ())
  | .edit channelID upd stage => s.proceedEdit i channelID upd stage
  | .delete channelID =>
    if channelID ∉ s.table.rows then s.commit i s.table (.ok ())
    else s.hold i channelID (.cascade channelID)
  | .cascade _ => if s.Complete i then s.commit i (s.table.delete (s.held i)) (.ok ()) else s
  | .ended _ => s

/-- The cascade of a `DELETE` locks a row below a locked one. -/
def takeChild (child : Int) : Transaction → Database
  | .cascade channelID =>
    if (∃ p ∈ s.table.parents.lookup child, p ∈ s.held i) ∧ s.Free i child then
      s.hold i child (.cascade channelID)
    else s
  | _ => s

/-- The end of a transaction that did not get to its own. -/
def abort (reason : String) : Transaction → Database
  | .ended _ => s
  | _ => s.rollback i (.failed reason)

/-- A creation after its checks.
Source: `CreateChannel` -/
def beginCreate (sql : Calls) (spec : ChannelSpec) : Transaction :=
  match (ChannelManager.new s.table new).checkCreate sql spec with
  | .error e => .ended (.error e)
  | .ok p => .create (spec.row p.1 p.2)

/-- One step of one process. -/
def step : TreeStep → Database
  | .createChannel sql spec => s.enter (s.beginCreate sql spec)
  | .updateChannel channelID upd => s.enter (.beginEdit channelID upd)
  | .deleteChannel channelID => s.enter (.delete channelID)
  | .advance i => (s.transactions[i]?).elim s fun tx => if s.waits i tx then s else s.proceed i tx
  | .cascade i child => (s.transactions[i]?).elim s (s.takeChild i child)
  | .abort i reason => (s.transactions[i]?).elim s (s.abort i reason)

end Database

/-! ## What a transaction has made sure of -/

section sound

variable {held held' : Int → Prop} {up up' : Int → Option Int}

/-- The guard of an edit has reached a channel of the top level. -/
def Guarded (held : Int → Prop) (up : Int → Option Int) (channelID : Int) (parentID : Option Int) :
    Prop :=
  ∀ p, parentID = some p → p ≠ 0 → ∃ n r, n < maxChannelDepth ∧
    Climb up (fun a => held a ∧ a ≠ channelID) p n r ∧ (held r ∧ r ≠ channelID) ∧ up r = some 0

/-- What holds of a transaction and the rows it has locked. -/
def Sound (held : Int → Prop) (up : Int → Option Int) : Transaction → Prop
  | .create _ => True
  | .edit _ upd (.lockSelf newParentID) => upd.parentID = some newParentID
  | .edit channelID upd (.walk newParentID current depth) => upd.parentID = some newParentID ∧
      Climb up (fun a => held a ∧ a ≠ channelID) newParentID depth current
  | .edit channelID upd .passed => Guarded held up channelID upd.parentID
  | .edit channelID upd .written => held channelID ∧ Guarded held up channelID upd.parentID
  | .delete _ => ∀ a, ¬held a
  | .cascade channelID => held channelID ∧ ∀ a, held a → ∃ n, Climb up held a n channelID
  | .ended _ => True

lemma Guarded.mono {channelID : Int} {parentID : Option Int}
    (h : Guarded held up channelID parentID) (hkeep : ∀ a, held a → held' a ∧ up' a = up a) :
    Guarded held' up' channelID parentID := by
  intro p hp hne
  obtain ⟨n, r, hn, hclimb, ⟨hr, hrc⟩, htop⟩ := h p hp hne
  refine ⟨n, r, hn, hclimb.mono fun x hx => ?_, ⟨(hkeep r hr).1, hrc⟩, (hkeep r hr).2.trans htop⟩
  exact ⟨⟨(hkeep x hx.1).1, hx.2⟩, (hkeep x hx.1).2⟩

/-- What a transaction knows depends on the rows it has locked, and on nothing else. -/
lemma Sound.congr {tx : Transaction} (h : Sound held up tx) (hheld : ∀ a, held' a ↔ held a)
    (hup : ∀ a, held a → up' a = up a) : Sound held' up' tx := by
  have hkeep : ∀ a, held a → held' a ∧ up' a = up a := fun a ha => ⟨(hheld a).mpr ha, hup a ha⟩
  cases tx with
  | create row => trivial
  | edit channelID upd stage =>
    cases stage with
    | lockSelf newParentID => exact h
    | walk newParentID current depth =>
      refine ⟨h.1, h.2.mono fun x hx => ?_⟩
      exact ⟨⟨(hkeep x hx.1).1, hx.2⟩, (hkeep x hx.1).2⟩
    | passed => exact Guarded.mono h hkeep
    | written => exact ⟨(hkeep _ h.1).1, h.2.mono hkeep⟩
  | delete channelID => exact fun a ha => h a ((hheld a).mp ha)
  | cascade channelID =>
    refine ⟨(hkeep _ h.1).1, fun a ha => ?_⟩
    obtain ⟨n, hclimb⟩ := h.2 a ((hheld a).mp ha)
    exact ⟨n, hclimb.mono hkeep⟩
  | ended result => trivial

/-- A call that has locked nothing yet knows what it has to. -/
lemma sound_beginEdit (channelID : Int) (upd : ChannelUpdate) :
    Sound held up (.beginEdit channelID upd) := by
  unfold beginEdit
  cases upd.invalid with
  | some detail => trivial
  | none =>
    split_ifs
    · trivial
    cases hp : upd.parentID with
    | none =>
      intro p hsome
      rw [hp] at hsome
      cases hsome
    | some newParentID => exact hp

variable {channelID newParentID : Int} {upd : ChannelUpdate}

lemma Sound.lockSelf (h : Sound held up (.edit channelID upd (.lockSelf newParentID))) :
    Sound held' up (.edit channelID upd
      (if newParentID = 0 then .passed else .walk newParentID newParentID 0)) := by
  have hp : upd.parentID = some newParentID := h
  split_ifs with htop
  · intro p hsome hne
    rw [hp] at hsome
    exact absurd ((Option.some.inj hsome).symm.trans htop) hne
  · exact ⟨hp, .refl⟩

/-- What was locked stays locked, and now `current` is locked as well. -/
lemma Sound.walk {current p : Int} {depth : ℕ}
    (h : Sound held up (.edit channelID upd (.walk newParentID current depth)))
    (hself : current ≠ channelID) (hup : up current = some p)
    (hdepth : depth < maxChannelDepth) :
    Sound (fun a => a = current ∨ held a) up (.edit channelID upd
      (if p = 0 then .passed else .walk newParentID p (depth + 1))) := by
  obtain ⟨hp, hclimb⟩ := h
  have hclimb' : Climb up (fun a => (a = current ∨ held a) ∧ a ≠ channelID) newParentID depth
      current :=
    hclimb.mono fun a ha => ⟨⟨.inr ha.1, ha.2⟩, rfl⟩
  split_ifs with htop
  · intro p hsome _
    rw [hp] at hsome
    cases hsome
    exact ⟨depth, current, hdepth, hclimb', ⟨.inl rfl, hself⟩, htop ▸ hup⟩
  · exact ⟨hp, hclimb'.tail ⟨.inl rfl, hself⟩ hup⟩

/-- A cascade locks a child of a locked row. -/
theorem Sound.child {child p : Int} (h : Sound held up (.cascade channelID))
    (hp : up child = some p) (hheld : held p) :
    Sound (fun a => a = child ∨ held a) up (.cascade channelID) := by
  obtain ⟨hroot, hbelow⟩ := h
  have hgrow {a : Int} {n : ℕ} (hclimb : Climb up held a n channelID) :
      Climb up (fun a => a = child ∨ held a) a n channelID :=
    hclimb.mono fun a ha => ⟨.inr ha, rfl⟩
  refine ⟨.inr hroot, ?_⟩
  rintro a (rfl | ha)
  · obtain ⟨n, hclimb⟩ := hbelow p hheld
    exact ⟨n + 1, (hgrow hclimb).head (.inl rfl) hp⟩
  · obtain ⟨n, hclimb⟩ := hbelow a ha
    exact ⟨n, hgrow hclimb⟩

end sound

/-! ## The invariant -/

namespace Database

variable {s : Database} {i : ℕ}

/-- Locked rows exist, and every transaction knows what it has to. -/
structure Inv (s : Database) : Prop where
  locked_mem : ∀ id j, s.locks.lookup id = some j → id ∈ s.table.rows
  owner_lt : ∀ id j, s.locks.lookup id = some j → j < s.transactions.length
  sound : ∀ j tx, s.transactions[j]? = some tx →
    Sound (fun id => s.locks.lookup id = some j) s.table.parents.lookup tx

variable {id : Int} {tx : Transaction}

lemma mem_held : id ∈ s.held i ↔ s.locks.lookup id = some i := by
  unfold held
  rw [mem_keys, mem_iff]
  constructor
  · rintro ⟨j, hj⟩
    obtain ⟨hlock, hji⟩ := lookup_filter_eq_some.mp hj
    rw [hlock, of_decide_eq_true hji]
  · intro h
    exact ⟨i, lookup_filter_eq_some.mpr ⟨h, decide_eq_true rfl⟩⟩

lemma inv_start (t : Table) : (start t).Inv where
  locked_mem id j h := by simp [start] at h
  owner_lt id j h := by simp [start] at h
  sound j tx h := by simp [start] at h

/-- A new call has locked nothing. -/
lemma Inv.enter (h : s.Inv) (htx : ∀ held up, (∀ a : Int, ¬held a) → Sound held up tx) :
    (s.enter tx).Inv where
  locked_mem := h.locked_mem
  owner_lt id j hj := by
    rw [Database.enter, List.length_append]
    exact Nat.lt_add_right _ (h.owner_lt id j hj)
  sound j tx' hj := by
    rw [Database.enter, List.getElem?_append] at hj
    split_ifs at hj with hlt
    · exact h.sound j tx' hj
    obtain ⟨rfl, rfl⟩ : j = s.transactions.length ∧ tx = tx' := by
      have hlen := List.getElem?_eq_some_iff.mp hj
      obtain ⟨hj', heq⟩ := hlen
      rw [List.length_singleton] at hj'
      have hzero : j - s.transactions.length = 0 := by omega
      simp only [hzero, List.getElem_cons_zero] at heq
      exact ⟨by omega, heq⟩
    exact htx _ _ fun a ha => lt_irrefl _ (h.owner_lt a _ ha)

/-- A transaction locks a row that is free. -/
theorem Inv.hold (h : s.Inv) (hi : i < s.transactions.length) (hfree : s.Free i id)
    (hmem : id ∈ s.table.rows)
    (htx : Sound (fun a => a = id ∨ s.locks.lookup a = some i) s.table.parents.lookup tx) :
    (s.hold i id tx).Inv where
  locked_mem a j ha := by
    rcases lookup_insert_eq_some.mp ha with ⟨rfl, -⟩ | ⟨-, hold⟩
    · exact hmem
    · exact h.locked_mem a j hold
  owner_lt a j ha := by
    rw [Database.hold, List.length_set]
    rcases lookup_insert_eq_some.mp ha with ⟨-, rfl⟩ | ⟨-, hold⟩
    · exact hi
    · exact h.owner_lt a j hold
  sound j tx' hj := by
    rw [Database.hold, List.getElem?_set] at hj
    split_ifs at hj with hij
    · cases hj
      subst hij
      refine htx.congr (fun a => ?_) fun _ _ => rfl
      rw [Database.hold, lookup_insert_ite]
      split_ifs with haid <;> simp [haid]
    · -- another transaction did not hold the row
      refine (h.sound j tx' hj).congr (fun a => ?_) fun _ _ => rfl
      rw [Database.hold, lookup_insert_ite]
      split_ifs with haid
      · subst haid
        rcases hfree with hnone | hown
        · simp [hnone, hij]
        · simp [hown, hij]
      · rfl

/-- A transaction ends with a table that leaves the rows of the others as they are. -/
theorem Inv.commit (h : s.Inv) {t : Table} (result : Except UpdateError Unit)
    (hkeep : ∀ a j, s.locks.lookup a = some j → j ≠ i →
      a ∈ t.rows ∧ t.parents.lookup a = s.table.parents.lookup a) : (s.commit i t result).Inv := by
  have hlocks : ∀ a j, (s.commit i t result).locks.lookup a = some j ↔
      s.locks.lookup a = some j ∧ j ≠ i := by
    intro a j
    rw [Database.commit, lookup_filter_eq_some, decide_eq_true_iff]
  refine ⟨fun a j ha => ?_, fun a j ha => ?_, fun j tx hj => ?_⟩
  · obtain ⟨ha, hne⟩ := (hlocks a j).mp ha
    exact (hkeep a j ha hne).1
  · rw [Database.commit, List.length_set]
    exact h.owner_lt a j ((hlocks a j).mp ha).1
  · rw [Database.commit, List.getElem?_set] at hj
    split_ifs at hj with hij
    · cases hj
      trivial
    · refine (h.sound j tx hj).congr (fun a => ?_) fun a ha => (hkeep a j ha (Ne.symm hij)).2
      rw [hlocks]
      exact and_iff_left (Ne.symm hij)

lemma lt_of_getElem? (hi : s.transactions[i]? = some tx) : i < s.transactions.length :=
  (List.getElem?_eq_some_iff.mp hi).1

lemma free_of_waits (h : s.waits i tx = false) (hid : tx.wants = some id) : s.Free i id := by
  rw [waits, hid, any_some, decide_eq_false_iff_not, not_not] at h
  exact h

/-! ### What a step does -/

section keep

variable {s' : Database} {channelID : Int} {upd : ChannelUpdate}

/-- What a step of a transaction makes of the database. -/
inductive Next (s : Database) (i : ℕ) : Transaction → Database → Prop
  | stay {tx : Transaction} (hguard : tx.Guarding = false) : Next s i tx s
  | finish (tx : Transaction) (result : Except UpdateError Unit) :
      Next s i tx (s.commit i s.table result)
  | insert {row : Row} (hparent : row.parentID = 0 ∨ row.parentID ∈ s.table.rows) :
      Next s i (.create row) (s.commit i (s.table.insert row) (.ok ()))
  | lockSelf {channelID newParentID : Int} {upd : ChannelUpdate} (hfree : s.Free i channelID)
      (hmem : channelID ∈ s.table.rows) :
      Next s i (.edit channelID upd (.lockSelf newParentID)) (s.hold i channelID
        (.edit channelID upd
          (if newParentID = 0 then .passed else .walk newParentID newParentID 0)))
  | walk {channelID newParentID current : Int} {upd : ChannelUpdate} {depth : ℕ} {r : Row}
      (hself : current ≠ channelID) (hrow : s.table.rows.lookup current = some r)
      (hdepth : depth < maxChannelDepth) (hfree : s.Free i current) :
      Next s i (.edit channelID upd (.walk newParentID current depth)) (s.hold i current
        (.edit channelID upd
          (if r.parentID = 0 then .passed else .walk newParentID r.parentID (depth + 1))))
  | passed {channelID : Int} {upd : ChannelUpdate} (hfree : s.Free i channelID)
      (hmem : channelID ∈ s.table.rows) :
      Next s i (.edit channelID upd .passed) (s.hold i channelID (.edit channelID upd .written))
  | written (channelID : Int) (upd : ChannelUpdate) :
      Next s i (.edit channelID upd .written)
        (s.commit i (s.table.modify channelID (Row.set upd)) (.ok ()))
  | delete {channelID : Int} (hfree : s.Free i channelID) (hmem : channelID ∈ s.table.rows) :
      Next s i (.delete channelID) (s.hold i channelID (.cascade channelID))
  | child {channelID child p : Int} (hp : s.table.parents.lookup child = some p)
      (hheld : p ∈ s.held i) (hfree : s.Free i child) :
      Next s i (.cascade channelID) (s.hold i child (.cascade channelID))
  | cascade {channelID : Int} (hcomplete : s.Complete i) :
      Next s i (.cascade channelID) (s.commit i (s.table.delete (s.held i)) (.ok ()))

lemma next_proceedEdit {stage : EditStage} (h : s.waits i (.edit channelID upd stage) = false) :
    s.Next i (.edit channelID upd stage) (s.proceedEdit i channelID upd stage) := by
  unfold proceedEdit
  cases stage with
  | lockSelf newParentID =>
    dsimp only
    by_cases hmem : channelID ∈ s.table.rows
    · rw [if_neg (not_not.mpr hmem)]
      exact .lockSelf (free_of_waits h rfl) hmem
    · rw [if_pos hmem]
      exact .finish _ _
  | walk newParentID current depth =>
    dsimp only
    by_cases hself : current = channelID
    · rw [if_pos hself]
      exact .finish _ _
    rw [if_neg hself]
    cases hrow : s.table.rows.lookup current with
    | none => exact .finish _ _
    | some r =>
      dsimp only
      by_cases hdepth : maxChannelDepth ≤ depth
      · rw [if_pos hdepth]
        exact .finish _ _
      · rw [if_neg hdepth]
        exact .walk hself hrow (not_le.mp hdepth) (free_of_waits h (if_neg hself))
  | passed =>
    split_ifs with hmem
    · exact .passed (free_of_waits h rfl) hmem
    · exact .finish _ _
  | written => exact .written channelID upd

lemma next_proceed (h : s.waits i tx = false) : s.Next i tx (s.proceed i tx) := by
  unfold proceed
  cases tx with
  | create row =>
    dsimp only
    split_ifs with hgone
    · exact .finish _ _
    · refine .insert ?_
      by_contra hnot
      exact hgone (not_or.mp hnot)
  | edit channelID upd stage => exact next_proceedEdit h
  | delete channelID =>
    dsimp only
    split_ifs with hmem
    · exact .delete (free_of_waits h rfl) hmem
    · exact .finish _ _
  | cascade channelID =>
    split_ifs with hcomplete
    · exact .cascade hcomplete
    · exact .stay rfl
  | ended result => exact .stay rfl

/-- **A step of a transaction keeps the invariant.** -/
theorem Inv.next (h : s.Inv) (hi : s.transactions[i]? = some tx) (hnext : s.Next i tx s') :
    s'.Inv := by
  have hsound := h.sound i _ hi
  have hlt := lt_of_getElem? hi
  cases hnext with
  | stay => exact h
  | finish => exact h.commit _ fun a j ha _ => ⟨h.locked_mem a j ha, rfl⟩
  | insert =>
    refine h.commit _ fun a j ha _ => ?_
    have hmem := h.locked_mem a j ha
    have hne : a ≠ s.table.nextID := fun heq => nextID_notMem (heq ▸ hmem)
    exact ⟨Table.mem_insert.mpr (.inr hmem), by rw [Table.parents_insert, if_neg hne]⟩
  | lockSelf hfree hmem => exact h.hold hlt hfree hmem hsound.lockSelf
  | walk hself hrow hdepth hfree =>
    refine h.hold hlt hfree (mem_of_lookup_eq_some hrow) (hsound.walk hself ?_ hdepth)
    rw [lookup_parents, hrow, map_some]
  | passed hfree hmem =>
    refine h.hold hlt hfree hmem ⟨.inl rfl, Guarded.mono hsound fun a ha => ?_⟩
    exact ⟨.inr ha, rfl⟩
  | written channelID upd =>
    refine h.commit _ fun a j ha hj => ⟨mem_modify.mpr (h.locked_mem a j ha), ?_⟩
    have hne : a ≠ channelID := by
      rintro rfl
      exact hj (Option.some.inj (ha.symm.trans hsound.1))
    rw [parents_modify, if_neg hne]
  | delete hfree hmem =>
    refine h.hold hlt hfree hmem ⟨.inl rfl, ?_⟩
    rintro a (rfl | ha)
    · exact ⟨0, .refl⟩
    · exact absurd ha (hsound a)
  | child hp hheld hfree =>
    exact h.hold hlt hfree (mem_parents.mp (mem_of_lookup_eq_some hp))
      (hsound.child hp (mem_held.mp hheld))
  | cascade =>
    refine h.commit _ fun a j ha hj => ?_
    have hout : a ∉ s.held i := by
      rw [mem_held, ha]
      exact fun heq => hj (Option.some.inj heq)
    exact ⟨mem_delete.mpr ⟨hout, h.locked_mem a j ha⟩, by rw [parents_delete, if_neg hout]⟩

/-- The step is a statement of the guard of a transaction, and it does not wait. -/
def runsGuard (s : Database) (i : ℕ) : TreeStep → Bool
  | .advance j => decide (j = i) &&
      (s.transactions[j]?).any fun tx => tx.Guarding && !s.waits j tx
  | _ => false

/-- What a step makes of the database; a statement of a guard is counted. -/
inductive Effect (s : Database) (st : TreeStep) : Database → Prop
  | stay (hidle : ∀ i, s.runsGuard i st = false) : Effect s st s
  | enter {tx : Transaction} (hidle : ∀ i, s.runsGuard i st = false)
      (htx : ∀ held up, (∀ a : Int, ¬held a) → Sound held up tx) : Effect s st (s.enter tx)
  | next {j : ℕ} {tx : Transaction} {s' : Database} (hj : s.transactions[j]? = some tx)
      (hguard : ∀ i, s.runsGuard i st = true → j = i ∧ tx.Guarding = true)
      (hnext : s.Next j tx s') : Effect s st s'

/-- A step of a transaction that is there. -/
lemma effect_elim {st : TreeStep} {j : ℕ} {f : Transaction → Database}
    (hidle : s.transactions[j]? = none → ∀ i, s.runsGuard i st = false)
    (h : ∀ tx, s.transactions[j]? = some tx → s.Effect st (f tx)) :
    s.Effect st ((s.transactions[j]?).elim s f) := by
  cases hj : s.transactions[j]? with
  | none => exact .stay (hidle hj)
  | some tx => exact h tx hj

lemma effect_step (s : Database) (st : TreeStep) : s.Effect st (s.step st) := by
  cases st with
  | createChannel sql spec =>
    refine .enter (fun _ => rfl) fun _ _ _ => ?_
    unfold beginCreate
    split <;> trivial
  | updateChannel channelID upd =>
    exact .enter (fun _ => rfl) fun _ _ _ => sound_beginEdit channelID upd
  | deleteChannel channelID => exact .enter (fun _ => rfl) fun _ _ hnone => hnone
  | advance j =>
    refine effect_elim (fun hj i => by simp [runsGuard, hj]) fun tx hj => ?_
    split_ifs with hwaits
    · exact .stay fun i => by simp [runsGuard, hj, hwaits]
    · refine .next hj (fun i hi => ?_) (next_proceed (Bool.eq_false_iff.mpr hwaits))
      simp only [runsGuard, hj, Bool.and_eq_true, decide_eq_true_iff, any_some] at hi
      exact ⟨hi.1, hi.2.1⟩
  | cascade j child =>
    refine effect_elim (fun _ _ => rfl) fun tx hj => ?_
    unfold takeChild
    split
    · split_ifs with htake
      · obtain ⟨⟨p, hp, hheld⟩, hfree⟩ := htake
        exact .next hj nofun (.child hp hheld hfree)
      · exact .stay fun _ => rfl
    · exact .stay fun _ => rfl
  | abort j reason =>
    refine effect_elim (fun _ _ => rfl) fun tx hj => ?_
    unfold abort
    split
    · exact .stay fun _ => rfl
    · exact .next hj nofun (.finish _ _)

/-- **Every step keeps the invariant.** -/
theorem Inv.effect (h : s.Inv) {st : TreeStep} (heff : s.Effect st s') : s'.Inv := by
  cases heff with
  | stay => exact h
  | enter _ htx => exact h.enter htx
  | next hj _ hnext => exact h.next hj hnext

end keep

/-! ## Commits are changes of whole operations -/

section change

variable {t : Table} {channelID newParentID : Int} {held : Int → Prop}

/-- A walk is the beginning of a guard. -/
lemma validateLoop_of_climb {n : ℕ} {current : Int}
    (h : Climb t.parents.lookup (fun a => held a ∧ a ≠ channelID) newParentID n current) :
    ∀ m, (∀ first, validateLoop t.parents channelID newParentID m first current = .ok ()) →
      ∀ first, validateLoop t.parents channelID newParentID (m + n) first newParentID =
        .ok () := by
  induction h with
  | refl => exact fun m hm => hm
  | @tail n a b _ ha hab ih =>
    intro m hm first
    rw [← add_assoc, add_right_comm]
    refine ih (m + 1) (fun first => ?_) first
    exact validateLoop_ok_iff.mpr ⟨ha.2, b, m, hab, rfl, .inr (hm false)⟩

/-- **The guard of an edit that is ready to commit passes on the table as it is now.** -/
theorem validateMoveTx_of_guarded (h : Guarded held t.parents.lookup channelID (some newParentID))
    (hmem : channelID ∈ t.rows) : validateMoveTx t.parents channelID newParentID = .ok () := by
  simp only [validateMoveTx, mem_parents]
  split_ifs with htop
  · rfl
  obtain ⟨n, r, hn, hclimb, ⟨-, hrc⟩, hup⟩ := h newParentID rfl htop
  obtain ⟨m, hm⟩ : ∃ m, maxChannelDepth = m + 1 + n :=
    ⟨maxChannelDepth - 1 - n, by omega⟩
  rw [hm]
  refine validateLoop_of_climb hclimb (m + 1) (fun first => ?_) true
  exact validateLoop_ok_iff.mpr ⟨hrc, 0, m, hup, rfl, .inl rfl⟩

/-- **A complete cascade has locked the subtree of its channel.** -/
theorem Inv.held_eq_subtree (h : s.Inv) (hi : s.transactions[i]? = some (.cascade channelID))
    (hcomplete : s.Complete i) : s.held i = subtree s.table.parents channelID := by
  obtain ⟨hroot, hbelow⟩ := h.sound i _ hi
  ext a
  rw [mem_held, mem_subtree]
  constructor
  · intro ha
    obtain ⟨n, hclimb⟩ := hbelow a ha
    exact ⟨mem_parents.mpr (h.locked_mem a i ha), hclimb.reachable⟩
  rintro ⟨-, hreach⟩
  -- from the channel downwards: a row below a locked one is locked
  induction hreach using Relation.ReflTransGen.head_induction_on with
  | refl => exact hroot
  | @head x y hxy _ ih =>
    have hx : x ∈ s.table.rows :=
      mem_parents.mp (mem_of_lookup_eq_some hxy)
    exact mem_held.mp (hcomplete x (mem_keys.mpr hx) y hxy (mem_held.mpr ih))

/-- **Every step of every interleaving makes a change of a whole operation.** -/
theorem Inv.change (h : s.Inv) {s' : Database} {st : TreeStep} (heff : s.Effect st s') :
    s.table.Change s'.table := by
  cases heff with
  | stay | enter => exact .keep
  | next hj _ hnext =>
    cases hnext with
    | insert hparent => exact .insert _ hparent
    | written channelID upd =>
      obtain ⟨hheld, hguarded⟩ := h.sound _ _ hj
      refine .update channelID upd fun p hp => ?_
      rw [hp] at hguarded
      exact validateMoveTx_of_guarded hguarded (h.locked_mem channelID _ hheld)
    | @cascade channelID hcomplete =>
      rw [h.held_eq_subtree hj hcomplete]
      exact .delete channelID (h.locked_mem channelID _ (h.sound _ _ hj).1)
    | _ => exact .keep

end change

/-! ## How long a guard takes -/

/-- The number of statements that the guard of a transaction makes in a run. -/
def guardStatements (i : ℕ) : Database → List TreeStep → ℕ
  | _, [] => 0
  | s, st :: rest => (s.runsGuard i st).toNat + guardStatements i (s.step st) rest

/-- The number of statements that a guard has left at most. -/
def guardLeft : Option Transaction → ℕ
  | none => maxChannelDepth + 2
  | some (.edit _ _ (.lockSelf _)) => maxChannelDepth + 2
  | some (.edit _ _ (.walk _ _ depth)) => maxChannelDepth - depth + 1
  | _ => 0

lemma guardLeft_le (tx : Option Transaction) : guardLeft tx ≤ maxChannelDepth + 2 := by
  unfold guardLeft
  split <;> omega

/-- A step of a transaction is the next of the transaction, and its guard has one statement less
left if it is at work. -/
lemma Next.guardLeft {s' : Database} {j : ℕ} (h : s.Next j tx s')
    (hj : s.transactions[j]? = some tx) :
    ∃ tx', s'.transactions = s.transactions.set j tx' ∧
      tx.Guarding.toNat + Database.guardLeft (some tx') ≤ Database.guardLeft (some tx) := by
  cases h with
  | stay hguard =>
    obtain ⟨hlt, heq⟩ := List.getElem?_eq_some_iff.mp hj
    exact ⟨tx, by rw [← heq, List.set_getElem_self], by simp [hguard]⟩
  | finish tx result =>
    refine ⟨.ended result, rfl, ?_⟩
    unfold Guarding Database.guardLeft
    split <;> simp
  | lockSelf | walk _ _ hdepth =>
    refine ⟨_, rfl, ?_⟩
    simp only [Guarding, Bool.toNat_true]
    split_ifs <;> simp only [Database.guardLeft] <;> omega
  | _ => exact ⟨_, rfl, le_rfl⟩

/-- **A statement of a guard leaves it less to do, and no other step leaves it more.** -/
theorem guardLeft_effect {s' : Database} {st : TreeStep} (h : s.Effect st s') (i : ℕ) :
    (s.runsGuard i st).toNat + guardLeft s'.transactions[i]? ≤ guardLeft s.transactions[i]? := by
  cases h with
  | stay hidle => simp [hidle]
  | enter hidle =>
    rw [hidle, enter, List.getElem?_append, Bool.toNat_false, zero_add]
    split_ifs with hlt
    · exact le_rfl
    · rw [List.getElem?_eq_none (not_lt.mp hlt)]
      exact guardLeft_le _
  | @next j tx _ hj hguard hnext =>
    obtain ⟨tx', hset, hleft⟩ := hnext.guardLeft hj
    rw [hset, List.getElem?_set]
    split_ifs with hji hlt
    · subst hji
      rw [hj]
      refine le_trans (Nat.add_le_add_right ?_ _) hleft
      cases hruns : s.runsGuard j st with
      | false => exact zero_le _
      | true => rw [(hguard j hruns).2]
    · exact absurd (lt_of_getElem? hj) (hji ▸ hlt)
    · have hidle : s.runsGuard i st = false :=
        Bool.eq_false_iff.mpr fun hruns => hji (hguard i hruns).1
      rw [hidle, Bool.toNat_false, zero_add]

/-- **A guard ends**, on any table and whatever happens in between. -/
theorem guardStatements_le_guardLeft (i : ℕ) (s : Database) (steps : List TreeStep) :
    guardStatements i s steps ≤ guardLeft s.transactions[i]? := by
  induction steps generalizing s with
  | nil => exact zero_le _
  | cons st rest ih =>
    calc guardStatements i s (st :: rest)
        = (s.runsGuard i st).toNat + guardStatements i (s.step st) rest := rfl
      _ ≤ (s.runsGuard i st).toNat + guardLeft (s.step st).transactions[i]? :=
          Nat.add_le_add_left (ih (s.step st)) _
      _ ≤ guardLeft s.transactions[i]? := guardLeft_effect (effect_step s st) i

/-! ## Whole runs -/

/-- **The tree stays a forest** in every interleaving of creations, edits and deletions of any
number of processes; and a guard makes at most one statement for the channel and 65 for the
ancestors, on any table and whatever else runs. -/
theorem stays_forest :
    (∀ (t : Table) (steps : List TreeStep), t.Forest →
      Throughout step (fun s => s.table.Forest) (start t) steps) ∧
    ∀ (s : Database) (steps : List TreeStep) (i : ℕ),
      guardStatements i s steps ≤ maxChannelDepth + 2 := by
  refine ⟨fun t steps ht => ?_, fun s steps i => ?_⟩
  · have hstep : ∀ (s : Database) st, s.Inv ∧ s.table.Forest →
        (s.step st).Inv ∧ (s.step st).table.Forest :=
      fun s st h => ⟨h.1.effect (effect_step s st), h.2.change (h.1.change (effect_step s st))⟩
    exact (throughout_of_step hstep ⟨inv_start t, ht⟩ steps).mono fun _ h => h.2
  · exact (guardStatements_le_guardLeft i s steps).trans (guardLeft_le _)

/-- Two channels of the top level. -/
def twoRooms : Table := (new.insert { name := "hall" }).insert { name := "cellar" }

/-- Two processes move the two channels below each other. Each has locked its own channel and wants
the other's; the database ends the second, and the first goes through. -/
def crossedMoves : List TreeStep :=
  [.updateChannel 1 { parentID := some 2 }, .updateChannel 2 { parentID := some 1 },
    .advance 0, .advance 1, .advance 0, .advance 1, .abort 1 "deadlock detected",
    .advance 0, .advance 0, .advance 0]

theorem stays_forest_crossed_moves :
    twoRooms.Forest ∧ Throughout step (fun s => s.table.Forest) (start twoRooms) crossedMoves ∧
      (run step (start twoRooms) crossedMoves).table.parents.lookup 1 = some 2 ∧
      guardStatements 0 (start twoRooms) crossedMoves = 2 ∧
      guardStatements 0 (start twoRooms) crossedMoves ≤ maxChannelDepth + 2 := by
  have hforest : twoRooms.Forest := (forest_new.insert (.inl rfl)).insert (.inl rfl)
  exact ⟨hforest, stays_forest.1 twoRooms crossedMoves hforest, by decide +kernel,
    by decide +kernel, stays_forest.2 (start twoRooms) crossedMoves 0⟩

/-! ## A call that is alone

With nobody else on the table, an edit ends and gives what the operation of the manager gives. -/

section alone

variable {tx tx' : Transaction}

/-- The transaction is at `tx`, and no other has a lock. -/
structure Alone (s : Database) (i : ℕ) (tx : Transaction) : Prop where
  current : s.transactions[i]? = some tx
  free : ∀ id, s.Free i id

/-- The transaction ends within so many statements, with this result and this table. -/
def Settles (s : Database) (i k : ℕ) (result : Except UpdateError Unit) (t : Table) : Prop :=
  ∃ n ≤ k, (run step s (List.replicate n (.advance i))).transactions[i]? =
      some (.ended result) ∧ (run step s (List.replicate n (.advance i))).table = t

variable {result : Except UpdateError Unit} {t : Table} {k k' : ℕ}

lemma Settles.mono (h : Settles s i k result t) (hk : k ≤ k') : Settles s i k' result t :=
  h.imp fun _ hn => ⟨hn.1.trans hk, hn.2⟩

lemma Alone.step_eq (h : Alone s i tx) : s.step (.advance i) = s.proceed i tx := by
  have hwaits : s.waits i tx = false := by
    unfold waits
    cases tx.wants with
    | none => rfl
    | some id => simp [h.free id]
  show (s.transactions[i]?).elim s _ = _
  rw [h.current, elim_some, hwaits]
  rfl

/-- A lock of its own keeps a transaction alone. -/
theorem Alone.hold (h : Alone s i tx) (id : Int) : Alone (s.hold i id tx') i tx' where
  current := List.getElem?_set_self (lt_of_getElem? h.current)
  free a := by
    unfold Free Database.hold
    rw [lookup_insert_ite]
    split_ifs
    · exact .inr rfl
    · exact h.free a

lemma Alone.settles_of_step (h : Alone s i tx) (hs : Settles (s.proceed i tx) i k result t) :
    Settles s i (k + 1) result t := by
  obtain ⟨n, hn, hend⟩ := hs
  rw [← h.step_eq] at hend
  exact ⟨n + 1, succ_le_succ hn, hend⟩

lemma Alone.settles_commit (h : Alone s i tx) : Settles (s.commit i t result) i k result t :=
  ⟨0, zero_le k, List.getElem?_set_self (lt_of_getElem? h.current), rfl⟩

variable {channelID newParentID : Int} {upd : ChannelUpdate}

/-- What an edit gives, after the verdict of its guard. -/
def editResult (t : Table) (channelID : Int) (upd : ChannelUpdate) :
    Except UpdateError Unit → Except UpdateError Unit × Table
  | .error e => (.error e, t)
  | .ok _ =>
    if channelID ∉ t.rows then (.error .channelNotFound, t)
    else (.ok (), t.modify channelID (Row.set upd))

lemma Alone.settles_passed (h : Alone s i (.edit channelID upd .passed)) :
    Settles s i 2 (editResult s.table channelID upd (.ok ())).1
      (editResult s.table channelID upd (.ok ())).2 := by
  refine h.settles_of_step ?_
  unfold proceed proceedEdit editResult
  dsimp only
  split_ifs
  · have hwritten : Alone (s.hold i channelID (.edit channelID upd .written)) i _ :=
      h.hold channelID
    exact hwritten.settles_of_step hwritten.settles_commit
  · exact h.settles_commit

/-- The guard from one of the ancestors on. -/
lemma Alone.settles_walk {n depth : ℕ} {current : Int}
    (h : Alone s i (.edit channelID upd (.walk newParentID current depth)))
    (hdepth : depth + n = maxChannelDepth) :
    Settles s i (n + 3)
      (editResult s.table channelID upd (validateLoop s.table.parents channelID
        newParentID n (decide (depth = 0)) current)).1
      (editResult s.table channelID upd (validateLoop s.table.parents channelID
        newParentID n (decide (depth = 0)) current)).2 := by
  -- on the number of ancestors that may still be looked at
  induction n using Nat.strong_induction_on generalizing s depth current with
  | _ n ih =>
    refine h.settles_of_step ?_
    rw [validateLoop.eq_def]
    unfold proceed proceedEdit
    dsimp only
    by_cases hself : current = channelID
    · rw [if_pos hself, if_pos hself]
      exact h.settles_commit
    rw [if_neg hself, if_neg hself, lookup_parents]
    cases s.table.rows.lookup current with
    | none =>
      by_cases hzero : depth = 0
      · simp only [hzero, decide_true, if_true]
        exact h.settles_commit
      · simp only [hzero, decide_false, if_false]
        exact h.settles_commit
    | some r =>
      rw [map_some]
      cases n with
      | zero =>
        dsimp only
        rw [if_pos (by omega)]
        exact h.settles_commit
      | succ n =>
        dsimp only
        rw [if_neg (by omega)]
        split_ifs with htop
        · exact (Alone.settles_passed (h.hold current)).mono (by omega)
        · exact ih n (lt_succ_self n) (h.hold current) (by omega)

lemma Alone.settles_lockSelf (h : Alone s i (.edit channelID upd (.lockSelf newParentID))) :
    Settles s i (maxChannelDepth + 4)
      (editResult s.table channelID upd
        (validateMoveTx s.table.parents channelID newParentID)).1
      (editResult s.table channelID upd
        (validateMoveTx s.table.parents channelID newParentID)).2 := by
  refine h.settles_of_step ?_
  unfold validateMoveTx proceed proceedEdit
  simp only [mem_parents]
  split_ifs with hmem htop
  · exact (Alone.settles_passed (h.hold channelID)).mono (by omega)
  · exact Alone.settles_walk (h.hold channelID) (zero_add _)
  · exact h.settles_commit

/-- What the manager's operation gives when every call of the database succeeds. -/
lemma updateChannel_eq_editResult (cm : ChannelManager) (channelID : Int) (hupd : upd ≠ {})
    (hvalid : upd.invalid = none)
    (hguard : validateParent cm.table.parents channelID upd.parentID = result) :
    (cm.updateChannel {} channelID upd).2 = (editResult cm.table channelID upd result).1 ∧
      (cm.updateChannel {} channelID upd).1.table =
        (editResult cm.table channelID upd result).2 := by
  unfold ChannelManager.updateChannel ChannelManager.checkUpdate editResult
  rw [if_neg hupd, hvalid, hguard]
  cases result with
  | error e => exact ⟨rfl, rfl⟩
  | ok u =>
    split_ifs with hmem
    · refine ⟨?_, ?_⟩
      · obtain ⟨r, hr⟩ := mem_iff.mp hmem
        dsimp only [commitUpdate, afterUpdateCommit]
        rw [if_pos rfl]
        by_cases hlive : channelID ∈ cm.state.channels
        · rw [mirrorChannelUpdate_writeRow_of_mem _ _ hlive]
        · rw [mirrorChannelUpdate_writeRow_of_notMem _ _ hlive hr]
      · rw [commitUpdate_table]
        rfl
    · exact ⟨rfl, rfl⟩

lemma alone_start (t : Table) (tx : Transaction) : Alone ((start t).enter tx) 0 tx where
  current := rfl
  free id := Or.inl (lookup_empty id)

/-- **An edit that is alone ends**, on every table, also one with a cycle, and gives what the
manager's operation gives. -/
theorem updateChannel_settles (cm : ChannelManager) (channelID : Int) (upd : ChannelUpdate) :
    Settles ((start cm.table).step (.updateChannel channelID upd)) 0 (maxChannelDepth + 4)
      (cm.updateChannel {} channelID upd).2 (cm.updateChannel {} channelID upd).1.table := by
  show Settles ((start cm.table).enter (.beginEdit channelID upd)) 0 _ _ _
  unfold beginEdit
  cases hvalid : upd.invalid with
  | some detail =>
    have hne : upd ≠ {} := by
      rintro rfl
      cases hvalid
    have hresult : cm.updateChannel {} channelID upd = (cm, .error (.invalidSpec detail)) := by
      unfold ChannelManager.updateChannel ChannelManager.checkUpdate
      rw [if_neg hne, hvalid]
    rw [hresult]
    exact ⟨0, zero_le _, rfl, rfl⟩
  | none =>
    split_ifs with hempty
    · have hresult : cm.updateChannel {} channelID upd = (cm, .ok ()) := if_pos hempty
      rw [hresult]
      exact ⟨0, zero_le _, rfl, rfl⟩
    obtain ⟨hresult, htable⟩ := updateChannel_eq_editResult cm channelID hempty hvalid rfl
    rw [hresult, htable]
    cases upd.parentID with
    | none => exact (Alone.settles_passed (alone_start ..)).mono (by omega)
    | some newParentID => exact Alone.settles_lockSelf (alone_start ..)

end alone

end Database

end Voicx.Channels
