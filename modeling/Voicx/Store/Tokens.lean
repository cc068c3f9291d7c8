import Voicx.Found.KeyedList
import Voicx.Found.RowLocks
import Voicx.Permissions.Memberships

/-!
# The transaction of a privilege token

`internal/store/tokens.go` redeems a token in one transaction: the token row is read `FOR UPDATE`,
a guest gets an account, the use is counted, and the membership or the admin flag is written.
`Voicx.Permissions.MemberDB.useTokenForIdentity` is that transaction executed at once. Here it is
modelled statement by statement, with the rows each statement locks, so that redemptions can be
interleaved.

* `Row`, `Write`, `put` — the rows of the three tables and a write of one row.
* `Tx`, `statement`, `lockRows` — the transaction: its statements, each with the rows it locks.
* `redemptions` — the transactions as a `Protocol`.
* `redeem` — a redemption executed at once, `useTokenForIdentity`. **`UsersOK.spec`** — the
  statements without interference are the same.
* **`lawful_redemptions`** — each statement reads only what it has locked, or what no redemption
  changes.
-/

namespace Voicx.Store.Tokens

open Found Permissions MemberDB List Option

/-! ## Rows and writes -/

/-- A row that can be locked. A row of `users` has two names, its id and its unique id; the second
also stands for the entry of the unique index that an insert reserves. -/
inductive Row
  | token (key : String)
  | identity (uniqueID : String)
  | account (userID : Int)
  | member (userID groupID : Int)
  deriving DecidableEq, Repr

/-- A row as a statement leaves it. -/
inductive Write
  | token (key : String) (row : TokenRow)
  | user (row : UserRow)
  | member (userID groupID : Int) (expiresAt : Option Int)
  deriving DecidableEq, Repr

variable (db : MemberDB)

/-- The users row of an id. -/
def accountByID (userID : Int) : Option UserRow :=
  db.users.find? fun u => u.id == userID

/-- The tables with a row written. -/
def put : Write → MemberDB
  | .token key row => { db with tokens := db.tokens.insert key row }
  | .user row => { db with users := upsert UserRow.id db.users row }
  | .member userID groupID expiresAt =>
    { db with serverMembers := db.serverMembers.insert (userID, groupID) expiresAt }

/-! ## The transaction -/

/-- The arguments of a redemption. A guest has the user id 0.
Source: `internal/store/tokens.go`, `UseTokenForIdentity`, parameters -/
structure Redemption where
  key : String
  userID : Int := 0
  uniqueID : String := ""
  nickname : String := ""
  deriving DecidableEq, Repr

/-- Where the transaction is, with the values it has read. -/
inductive Stage
  | select
  | ensureUser (token : TokenRow)
  | consume (token : TokenRow) (userID : Int) (promoted : Bool)
  | grant (token : TokenRow) (userID : Int) (promoted : Bool)
  | commit (grant : TokenGrant)
  deriving DecidableEq, Repr

/-- An open redemption: its writes so far, the id it drew for a new account, and the time it
compared expiries with. -/
structure Tx where
  request : Redemption
  stage : Stage := .select
  writes : List Write := []
  newID : Int := 0
  now : Int := 0
  deriving DecidableEq, Repr

/-- What a statement takes from outside: the next value of the id sequence, which is not part of the
transaction, and the clock. -/
structure Input where
  newID : Int
  now : Int
  deriving DecidableEq, Repr

/-- The tables as the transaction sees them. -/
def Tx.view (t : Tx) (db : MemberDB) : MemberDB := t.writes.foldl put db

/-- An existing account without a nickname takes the one of the session. -/
def fillNickname (u : UserRow) (nickname : String) : UserRow :=
  if u.nickname = "" then { u with nickname } else u

/-- The account a guest gets. -/
def Redemption.newUser (r : Redemption) (newID : Int) : UserRow :=
  { id := newID, uniqueID := r.uniqueID, nickname := r.nickname }

/-- `SELECT … FOR UPDATE`, the check of the uses, and which way the redemption takes. -/
def select (t : Tx) : Except TokenError Tx :=
  match db.tokens.lookup t.request.key with
  | none => .error .notFound
  | some token =>
    if token.uses ≥ token.maxUses then .error .exhausted
    else if t.request.userID ≠ 0 then
      .ok { t with stage := .consume token t.request.userID false }
    else if t.request.uniqueID = "" then .error (.failed "guest identity is required")
    else .ok { t with stage := .ensureUser token }

variable (input : Input) (t : Tx) (token : TokenRow)

/-- The upsert of a guest's account. An account with a password is not taken over. -/
def ensureUser : Except TokenError Tx :=
  match db.lookupUser t.request.uniqueID with
  | none =>
    if db.hasUser input.newID then .error (.failed "promoting guest identity")
    else
      .ok { t with
        stage := .consume token input.newID true
        writes := t.writes ++ [.user (t.request.newUser input.newID)]
        newID := input.newID }
  | some u =>
    if u.passwordHash ≠ "" then
      .error (.failed ("user " ++ t.request.uniqueID ++ " already exists with credentials"))
    else
      .ok { t with
        stage := .consume token u.id false
        writes := t.writes ++ [.user (fillNickname u t.request.nickname)]
        newID := input.newID }

/-- One more use; the redeemer's unique id is read from `users`. -/
def consume (userID : Int) (promoted : Bool) : Tx :=
  { t with
    stage := .grant token userID promoted
    writes := t.writes ++ ((db.tokens.lookup t.request.key).map fun row => Write.token t.request.key
      { row with
        uses := row.uses + 1
        usedBy := ((accountByID db userID).map UserRow.uniqueID).getD "" }).toList }

/-- The row the upsert of a membership writes: none where the membership is stored and has not
expired. -/
def memberWrite (now userID groupID : Int) : Option Write :=
  match db.serverMembers.lookup (userID, groupID) with
  | none => some (.member userID groupID none)
  | some e => if MemberDB.expired now e then some (.member userID groupID none) else none

/-- The membership, or the admin flag. -/
def grantStatement (userID : Int) (promoted : Bool) : Except TokenError Tx :=
  if token.groupID = 0 then
    .ok { t with
      stage := .commit { userID, admin := true, promoted }
      writes := t.writes ++
        ((accountByID db userID).map fun u => Write.user { u with isAdmin := true }).toList }
  else if token.groupID ∈ db.serverGroups ∧ db.hasUser userID then
    .ok { t with
      stage := .commit { userID, groupID := token.groupID, promoted }
      writes := t.writes ++ (memberWrite db input.now userID token.groupID).toList
      now := input.now }
  else .error (.failed "assigning server group")

/-- The next statement, on the tables as the transaction sees them.
Source: `internal/store/tokens.go`, `UseTokenForIdentity` -/
def statement : Except TokenError Tx :=
  match t.stage with
  | .select => select (t.view db) t
  | .ensureUser token => ensureUser (t.view db) input t token
  | .consume token userID promoted => .ok (consume (t.view db) t token userID promoted)
  | .grant token userID promoted => grantStatement (t.view db) input t token userID promoted
  | .commit _ => .ok t

/-- The users row that an upsert under a unique id writes, under both its names. -/
def accountRows (uniqueID : String) : List Row :=
  match db.lookupUser uniqueID with
  | none => [.identity uniqueID, .account input.newID]
  | some u => [.identity uniqueID, .account u.id]

/-- The rows the next statement locks: those it reads `FOR UPDATE` or writes. -/
def lockRows : List Row :=
  match t.stage with
  | .select => [.token t.request.key]
  | .ensureUser _ => accountRows (t.view db) input t.request.uniqueID
  | .consume .. => [.token t.request.key]
  | .grant token userID _ =>
    if token.groupID = 0 then
      .account userID ::
        ((accountByID (t.view db) userID).map fun u => Row.identity u.uniqueID).toList
    else [.member userID token.groupID]
  | .commit _ => []

/-- A redemption begins. A caller that is not a guest has an account. -/
def begins : Bool :=
  t == { request := t.request } && (t.request.userID == 0 || db.hasUser t.request.userID)

/-- Redemptions as transactions. A statement that fails on the way ends with a rollback, and so does
one that refuses. -/
def redemptions : Protocol MemberDB Row Tx Input where
  initial := begins
  rows db _ input t := lockRows db input t
  next db _ input t := (statement db input t).toOption
  done t := match t.stage with
    | .commit _ => true
    | _ => false
  commit := Tx.view

/-! ## The users table -/

/-- The constraints of `users`: ids and unique ids are unique.
Source: `internal/store/migrations/001_init.sql`, `users` -/
structure UsersOK (db : MemberDB) : Prop where
  ids : (db.users.map UserRow.id).Nodup
  uniqueIDs : (db.users.map UserRow.uniqueID).Nodup

instance (db : MemberDB) : Decidable (UsersOK db) :=
  decidable_of_iff ((db.users.map UserRow.id).Nodup ∧ (db.users.map UserRow.uniqueID).Nodup)
    ⟨fun h => ⟨h.1, h.2⟩, fun h => ⟨h.ids, h.uniqueIDs⟩⟩

section users

variable {db : MemberDB} {u : UserRow}

lemma accountByID_put_user (db : MemberDB) (row : UserRow) (userID : Int) :
    accountByID (put db (.user row)) userID =
      if userID = row.id then some row else accountByID db userID :=
  find?_upsert UserRow.id db.users row userID

lemma accountByID_isSome (db : MemberDB) (userID : Int) :
    (accountByID db userID).isSome = db.hasUser userID := isSome_find?

lemma UsersOK.accountByID_eq_some (h : UsersOK db) {userID : Int} :
    accountByID db userID = some u ↔ u ∈ db.users ∧ u.id = userID := find?_key_eq_some h.ids

lemma UsersOK.lookupUser_eq_some (h : UsersOK db) {uniqueID : String} :
    db.lookupUser uniqueID = some u ↔ u ∈ db.users ∧ u.uniqueID = uniqueID :=
  find?_key_eq_some h.uniqueIDs

end users

/-! ## What a write changes -/

/-- The rows a write is about. -/
def Write.rows : Write → List Row
  | .token key _ => [.token key]
  | .user row => [.identity row.uniqueID, .account row.id]
  | .member userID groupID _ => [.member userID groupID]

/-- A users row is written under the id and the unique id of one row, or of none. -/
def Fits : Write → Prop
  | .user row => ∀ u ∈ db.users, u.id = row.id ↔ u.uniqueID = row.uniqueID
  | _ => True

/-- The tables agree in a row. -/
def Same : Row → MemberDB → MemberDB → Prop
  | .token key, db, db' => db'.tokens.lookup key = db.tokens.lookup key
  | .identity uniqueID, db, db' => db'.lookupUser uniqueID = db.lookupUser uniqueID
  | .account userID, db, db' => accountByID db' userID = accountByID db userID
  | .member userID groupID, db, db' =>
    db'.serverMembers.lookup (userID, groupID) = db.serverMembers.lookup (userID, groupID)

/-- What redemptions never change: the groups, and whose account an id is. -/
structure Keeps (db db' : MemberDB) : Prop where
  groups : db'.serverGroups = db.serverGroups
  accounts : ∀ userID u, accountByID db userID = some u →
    ∃ u', accountByID db' userID = some u' ∧ u'.uniqueID = u.uniqueID

section writes

variable {db db' db'' : MemberDB} {w : Write}

lemma Keeps.refl (db : MemberDB) : Keeps db db := ⟨rfl, fun _ u hu => ⟨u, hu, rfl⟩⟩

lemma Keeps.trans (h : Keeps db db') (h' : Keeps db' db'') : Keeps db db'' where
  groups := h'.groups.trans h.groups
  accounts userID u hu := by
    obtain ⟨u', hu', hid⟩ := h.accounts userID u hu
    obtain ⟨u'', hu'', hid'⟩ := h'.accounts userID u' hu'
    exact ⟨u'', hu'', hid'.trans hid⟩

lemma Keeps.hasUser (h : Keeps db db') {userID : Int} (hu : db.hasUser userID = true) :
    db'.hasUser userID = true := by
  rw [← accountByID_isSome] at hu ⊢
  obtain ⟨u, hu⟩ := isSome_iff_exists.mp hu
  obtain ⟨u', hu', -⟩ := h.accounts userID u hu
  rw [hu']
  rfl

/-- A write that fits keeps ids unique. -/
theorem UsersOK.put (h : UsersOK db) (hw : Fits db w) : UsersOK (put db w) := by
  cases w with
  | token key row | member userID groupID e => exact ⟨h.ids, h.uniqueIDs⟩
  | user row =>
    constructor
    · exact nodup_map_upsert h.ids (fun _ _ hid => hid) fun hnew => hnew
    · refine nodup_map_upsert h.uniqueIDs (fun u hu hid => (hw u hu).mp hid) ?_
      intro hnew u hu huid
      exact hnew u hu ((hw u hu).mpr huid)

/-- A write changes its own rows only. -/
lemma UsersOK.same_put (h : UsersOK db) (hw : Fits db w) {r : Row} (hr : r ∉ w.rows) :
    Same r db (Tokens.put db w) := by
  cases w with
  | token key row =>
    cases r with
    | token key' =>
      have hne : key' ≠ key := by simpa [Write.rows] using hr
      simp only [Same, Tokens.put, FMap.lookup_insert_ite, if_neg hne]
    | identity | account | member => rfl
  | member userID groupID e =>
    cases r with
    | member userID' groupID' =>
      have hne : (userID', groupID') ≠ (userID, groupID) := by
        simpa [Write.rows] using hr
      simp only [Same, Tokens.put, FMap.lookup_insert_ite, if_neg hne]
    | identity | account | token => rfl
  | user row =>
    cases r with
    | token | member => rfl
    | account userID =>
      have hne : userID ≠ row.id := by simpa [Write.rows] using hr
      rw [Same, accountByID_put_user, if_neg hne]
    | identity uniqueID =>
      have hne : uniqueID ≠ row.uniqueID := by simpa [Write.rows] using hr
      refine Option.ext fun u => ?_
      rw [(h.put hw).lookupUser_eq_some, h.lookupUser_eq_some]
      simp only [Tokens.put, mem_upsert]
      constructor
      · rintro ⟨rfl | ⟨hu, -⟩, huid⟩
        · exact absurd huid.symm hne
        · exact ⟨hu, huid⟩
      · rintro ⟨hu, huid⟩
        refine ⟨.inr ⟨hu, fun hid => ?_⟩, huid⟩
        exact hne (huid.symm.trans ((hw u hu).mp hid))

lemma UsersOK.keeps_put (h : UsersOK db) (hw : Fits db w) : Keeps db (Tokens.put db w) := by
  cases w with
  | token key row | member userID groupID e => exact ⟨rfl, fun _ u hu => ⟨u, hu, rfl⟩⟩
  | user row =>
    refine ⟨rfl, fun userID u hu => ?_⟩
    rw [accountByID_put_user]
    split_ifs with hid
    · obtain ⟨hmem, huid⟩ := h.accountByID_eq_some.mp hu
      exact ⟨row, rfl, ((hw u hmem).mp (huid.trans hid)).symm⟩
    · exact ⟨u, hu, rfl⟩

/-- Every write in a list fits the tables it is applied to. -/
def FitsAll : MemberDB → List Write → Prop
  | _, [] => True
  | db, w :: ws => Fits db w ∧ FitsAll (put db w) ws

lemma fitsAll_append {ws ws' : List Write} :
    FitsAll db (ws ++ ws') ↔ FitsAll db ws ∧ FitsAll (ws.foldl put db) ws' := by
  induction ws generalizing db with
  | nil => simp [FitsAll]
  | cons w ws ih => simp [FitsAll, ih, and_assoc]

/-- **What the writes of a transaction do to the tables**: the constraints hold, nothing is changed
outside the rows they are about, and what redemptions keep is kept. -/
theorem UsersOK.foldl_put (h : UsersOK db) {ws : List Write} (hws : FitsAll db ws) :
    UsersOK (ws.foldl Tokens.put db) ∧ Keeps db (ws.foldl Tokens.put db) ∧
      ∀ r, (∀ w ∈ ws, r ∉ w.rows) → Same r db (ws.foldl Tokens.put db) := by
  induction ws generalizing db with
  | nil =>
    refine ⟨h, .refl db, fun r _ => ?_⟩
    cases r <;> rfl
  | cons w ws ih =>
    obtain ⟨hok, hkeeps, hsame⟩ := ih (h.put hws.1) hws.2
    refine ⟨hok, (h.keeps_put hws.1).trans hkeeps, fun r hr => ?_⟩
    have hw := h.same_put hws.1 (hr w mem_cons_self)
    have hrest := hsame r fun w' hw' => hr w' (mem_cons_of_mem w hw')
    cases r <;> exact hrest.trans hw

end writes

/-! ## The statements without interference -/

/-- The tables with the id sequence at a value. -/
def withNext (n : Int) : MemberDB := { db with nextUserID := n }

section sequential

variable {db : MemberDB} {u row : UserRow}

/-- A row under the names of a stored row fits. -/
lemma UsersOK.fits_user (h : UsersOK db) (hu : u ∈ db.users) (hid : row.id = u.id)
    (huid : row.uniqueID = u.uniqueID) : Fits db (.user row) := by
  intro v hv
  rw [hid, huid]
  constructor
  · intro hv'
    rw [inj_on_of_nodup_map h.ids hv hu hv']
  · intro hv'
    rw [inj_on_of_nodup_map h.uniqueIDs hv hu hv']

/-- Writing the row with an id is a rewrite of that row alone. -/
lemma UsersOK.upsert_eq_map (h : UsersOK db) (hu : u ∈ db.users) (hid : row.id = u.id)
    {f : UserRow → UserRow} (hf : f u = row) (hother : ∀ v ∈ db.users, v.id ≠ u.id → f v = v) :
    upsert UserRow.id db.users row = db.users.map f := by
  have hany : db.users.any (fun v => v.id == row.id) = true :=
    any_eq_true.mpr ⟨u, hu, by simpa using hid.symm⟩
  rw [upsert, if_pos hany]
  refine map_congr_left fun v hv => ?_
  split_ifs with hv'
  · rw [inj_on_of_nodup_map h.ids hv hu (hv'.trans hid), hf]
  · exact (hother v hv (hid ▸ hv')).symm

lemma consumeToken_eq (db : MemberDB) (key : String) (userID : Int) :
    db.consumeToken key userID =
      ((db.tokens.lookup key).map fun row => Write.token key
        { row with
          uses := row.uses + 1
          usedBy := ((accountByID db userID).map UserRow.uniqueID).getD "" }).toList.foldl put db := by
  unfold consumeToken FMap.modify
  cases db.tokens.lookup key <;> rfl

lemma grantMembership_eq (db : MemberDB) (now userID groupID : Int) :
    db.grantMembership now userID groupID =
      (memberWrite db now userID groupID).toList.foldl put db := by
  unfold grantMembership memberWrite
  cases db.serverMembers.lookup (userID, groupID) with
  | none => rfl
  | some e =>
    dsimp only
    split_ifs <;> rfl

lemma UsersOK.grantAdmin_eq (h : UsersOK db) (userID : Int) :
    db.grantAdmin userID =
      ((accountByID db userID).map fun u => Write.user { u with isAdmin := true }).toList.foldl
        Tokens.put db := by
  unfold grantAdmin
  cases hu : accountByID db userID with
  | none =>
    have hsame : db.users.map (fun u => if u.id = userID then { u with isAdmin := true } else u) =
        db.users := by
      conv_rhs => rw [← map_id db.users]
      refine map_congr_left fun u hmem => if_neg fun hid => ?_
      rw [h.accountByID_eq_some.mpr ⟨hmem, hid⟩] at hu
      cases hu
    rw [hsame]
    rfl
  | some u =>
    obtain ⟨hmem, hid⟩ := h.accountByID_eq_some.mp hu
    have hmap : upsert UserRow.id db.users { u with isAdmin := true } =
        db.users.map fun u => if u.id = userID then { u with isAdmin := true } else u := by
      have hsame : ({ u with isAdmin := true } : UserRow).id = u.id := rfl
      refine h.upsert_eq_map hmem hsame ?_ fun v _ hne => ?_
      · exact if_pos hid
      · exact if_neg fun hv => hne (hv.trans hid.symm)
    simp [Tokens.put, hmap]

/-- Only the account of the identity can be filled. -/
lemma fillNickname_of_forall_ne {uniqueID : String} (nickname : String)
    (h : ∀ v ∈ db.users, v.uniqueID ≠ uniqueID) : db.fillNickname uniqueID nickname = db := by
  have hsame : db.users.map (fun v => if v.uniqueID = uniqueID ∧ v.nickname = "" then
      { v with nickname } else v) = db.users := by
    conv_rhs => rw [← map_id db.users]
    exact map_congr_left fun v hv => if_neg fun hv' => h v hv hv'.1
  rw [MemberDB.fillNickname, hsame]

lemma UsersOK.fillNickname_eq (h : UsersOK db) (hu : u ∈ db.users) (nickname : String) :
    db.fillNickname u.uniqueID nickname = Tokens.put db (.user (fillNickname u nickname)) := by
  have hmap : upsert UserRow.id db.users (fillNickname u nickname) =
      db.users.map fun v =>
        if v.uniqueID = u.uniqueID ∧ v.nickname = "" then { v with nickname } else v := by
    refine h.upsert_eq_map hu ?_ ?_ fun v hv hne => if_neg fun hv' => hne ?_
    · unfold fillNickname
      split_ifs <;> rfl
    · simp [fillNickname]
    · rw [inj_on_of_nodup_map h.uniqueIDs hv hu hv'.1]
  rw [MemberDB.fillNickname, Tokens.put, hmap]

/-- A new account, under an id and a unique id that nobody has. -/
lemma put_newUser {r : Redemption} {newID : Int} (hid : ∀ v ∈ db.users, v.id ≠ newID)
    (huid : ∀ v ∈ db.users, v.uniqueID ≠ r.uniqueID) :
    MemberDB.fillNickname { db with users := db.users ++ [r.newUser newID] } r.uniqueID r.nickname =
      put db (.user (r.newUser newID)) := by
  have hput : upsert UserRow.id db.users (r.newUser newID) = db.users ++ [r.newUser newID] := by
    refine if_neg fun hany => ?_
    obtain ⟨v, hv, hvid⟩ := any_eq_true.mp hany
    exact hid v hv (by simpa [Redemption.newUser] using hvid)
  have hold := congrArg MemberDB.users (fillNickname_of_forall_ne r.nickname huid)
  simp only [MemberDB.fillNickname] at hold
  simp only [MemberDB.fillNickname, put, hput, map_append, hold]
  by_cases hnick : r.nickname = "" <;> simp [hnick, Redemption.newUser]

/-- The statement for a guest's account, executed at once. -/
lemma UsersOK.ensureUser_spec (h : UsersOK db) {input : Input} {t t' : Tx} {token : TokenRow}
    (hguest : t.request.userID = 0) (hid : t.request.uniqueID ≠ "")
    (hok : ensureUser db input t token = .ok t') :
    ∃ u promoted n,
      t' = { t with
        stage := .consume token u.id promoted
        writes := t.writes ++ [.user u]
        newID := input.newID } ∧
      (Write.user u).rows = accountRows db input t.request.uniqueID ∧ Fits db (.user u) ∧
      (withNext db input.newID).redeemer t.request.userID t.request.uniqueID t.request.nickname =
        .ok (withNext (Tokens.put db (.user u)) n, u.id, promoted) := by
  unfold ensureUser at hok
  cases hlookup : db.lookupUser t.request.uniqueID with
  | none =>
    simp only [hlookup] at hok
    split_ifs at hok with hnew
    cases hok
    have hids : ∀ v ∈ db.users, v.id ≠ input.newID := by
      intro v hv hvid
      exact hnew (any_eq_true.mpr ⟨v, hv, by simpa using hvid⟩)
    have huids : ∀ v ∈ db.users, v.uniqueID ≠ t.request.uniqueID := by
      intro v hv hvid
      rw [h.lookupUser_eq_some.mpr ⟨hv, hvid⟩] at hlookup
      cases hlookup
    refine ⟨t.request.newUser input.newID, true, input.newID + 1, rfl, ?_, ?_, ?_⟩
    · simp [Write.rows, accountRows, hlookup, Redemption.newUser]
    · intro v hv
      exact iff_of_false (hids v hv) (huids v hv)
    · have hlookup' : (withNext db input.newID).lookupUser t.request.uniqueID = none := hlookup
      simp only [MemberDB.redeemer, hguest, ne_eq, not_true_eq_false, if_false, hid,
        MemberDB.ensureUser, hlookup', Bool.not_true, Bool.false_and, Bool.false_eq_true]
      rw [← put_newUser hids huids]
      rfl
  | some u =>
    simp only [hlookup] at hok
    split_ifs at hok with hpassword
    cases hok
    obtain ⟨hmem, huid⟩ := h.lookupUser_eq_some.mp hlookup
    have hid' : (fillNickname u t.request.nickname).id = u.id := by
      unfold fillNickname
      split_ifs <;> rfl
    have huid' : (fillNickname u t.request.nickname).uniqueID = u.uniqueID := by
      unfold fillNickname
      split_ifs <;> rfl
    refine ⟨fillNickname u t.request.nickname, false, input.newID, by rw [hid'],
      ?_, h.fits_user hmem hid' huid', ?_⟩
    · simp [Write.rows, accountRows, hlookup, hid', huid'.trans huid]
    have hlookup' : (withNext db input.newID).lookupUser t.request.uniqueID = some u := hlookup
    have hpassword' : (u.passwordHash != "") = false := by simpa using hpassword
    simp only [MemberDB.redeemer, hguest, ne_eq, not_true_eq_false, if_false, hid,
      MemberDB.ensureUser, hlookup', hpassword', Bool.and_false, Bool.false_eq_true, hid']
    rw [← h.fillNickname_eq hmem, huid]
    rfl

end sequential

/-- The account of a redemption, executed at once. -/
def Tx.redeemer (t : Tx) (db : MemberDB) : Except TokenError (MemberDB × Int × Bool) :=
  (withNext db t.newID).redeemer t.request.userID t.request.uniqueID t.request.nickname

/-- A redemption executed at once, with the id and the time the transaction took; the id sequence is
not part of it. The answer must be the one the transaction has. -/
def redeem (t : Tx) : Option MemberDB :=
  match (withNext db t.newID).useTokenForIdentity true t.now t.request.key t.request.userID
      t.request.uniqueID t.request.nickname with
  | .error _ => none
  | .ok r => if t.stage = .commit r.2 then some (withNext r.1 db.nextUserID) else none

/-- The token row was read, and had uses left. -/
def HasRead (t : Tx) (token : TokenRow) : Prop :=
  db.tokens.lookup t.request.key = some token ∧ ¬token.uses ≥ token.maxUses

/-- Up to its stage, the transaction is `useTokenForIdentity`. -/
def Follows (t : Tx) : Prop :=
  match t.stage with
  | .select =>
    t.writes = [] ∧ (t.request.userID = 0 ∨ db.hasUser t.request.userID = true)
  | .ensureUser token =>
    t.writes = [] ∧ HasRead db t token ∧ t.request.userID = 0 ∧ t.request.uniqueID ≠ ""
  | .consume token userID promoted =>
    HasRead db t token ∧ (t.view db).hasUser userID = true ∧
      ∃ n, t.redeemer db = .ok (withNext (t.view db) n, userID, promoted)
  | .grant token userID promoted =>
    HasRead db t token ∧ (t.view db).hasUser userID = true ∧
      ∃ r n, t.redeemer db = .ok (r, userID, promoted) ∧
        r.consumeToken t.request.key userID = withNext (t.view db) n
  | .commit _ => redeem db t = some (t.view db)

/-- The invariant of a transaction whose statements all ran on the tables: its writes fit, they are
to rows it has locked, and it follows `useTokenForIdentity`. -/
structure Spec (db : MemberDB) (t : Tx) (rows : List Row) : Prop where
  fits : FitsAll db t.writes
  locked : ∀ w ∈ t.writes, ∀ r ∈ w.rows, r ∈ rows
  follows : Follows db t

section spec

variable {db : MemberDB} {t t' : Tx} {rows : List Row} {input : Input}

lemma spec_start (h : begins db t = true) : Spec db t [] := by
  obtain ⟨heq, hcaller⟩ := Bool.and_eq_true_iff.mp h
  have heq : t = { request := t.request } := by simpa using heq
  rw [heq]
  refine ⟨trivial, fun w hw => absurd hw not_mem_nil, rfl, ?_⟩
  simpa using hcaller

/-- A statement that writes rows it locks. -/
lemma Spec.append (h : Spec db t rows) {ws : List Write} {new : List Row}
    (hwrites : t'.writes = t.writes ++ ws) (hfits : FitsAll (t.view db) ws)
    (hlocked : ∀ w ∈ ws, ∀ r ∈ w.rows, r ∈ new) (hfollows : Follows db t') :
    Spec db t' (rows ++ new) where
  fits := by
    rw [hwrites]
    exact fitsAll_append.mpr ⟨h.fits, hfits⟩
  locked w hw r hr := by
    rw [hwrites] at hw
    rcases mem_append.mp hw with hw | hw
    · exact mem_append_left _ (h.locked w hw r hr)
    · exact mem_append_right _ (hlocked w hw r hr)
  follows := hfollows

/-- The token is read. -/
theorem Spec.select (h : Spec db t rows) (hstage : t.stage = .select)
    (hok : select (t.view db) t = .ok t') : Spec db t' (rows ++ lockRows db input t) := by
  have hfollows := h.follows
  simp only [Follows, hstage] at hfollows
  obtain ⟨hwrites, hcaller⟩ := hfollows
  have hview : t.view db = db := by simp [Tx.view, hwrites]
  rw [hview] at hok
  unfold Tokens.select at hok
  split at hok
  · cases hok
  rename_i htoken
  split_ifs at hok with huses huser hid
  · cases hok
    refine h.append (append_nil _).symm trivial (fun w hw => absurd hw not_mem_nil)
      ⟨⟨htoken, huses⟩, ?_, t.newID, ?_⟩
    · simpa only [Tx.view, hwrites, foldl_nil] using hcaller.resolve_left huser
    · simp [Tx.redeemer, redeemer, if_pos huser, Tx.view, hwrites]
  · cases hok
    exact h.append (append_nil _).symm trivial (fun w hw => absurd hw not_mem_nil)
      ⟨hwrites, ⟨htoken, huses⟩, not_not.mp huser, hid⟩

variable {token : TokenRow} {userID : Int} {promoted : Bool}

lemma Spec.ensureUser (hdb : UsersOK db) (h : Spec db t rows)
    (hstage : t.stage = .ensureUser token) (hok : ensureUser (t.view db) input t token = .ok t') :
    Spec db t' (rows ++ lockRows db input t) := by
  have hfollows := h.follows
  simp only [Follows, hstage] at hfollows
  obtain ⟨hwrites, hread, hguest, hid⟩ := hfollows
  have hview : t.view db = db := by simp [Tx.view, hwrites]
  rw [hview] at hok
  obtain ⟨u, promoted, n, rfl, hrows, hfits, hredeemer⟩ := hdb.ensureUser_spec hguest hid hok
  refine h.append rfl ?_ ?_ ⟨hread, ?_, n, ?_⟩
  · rw [hview]
    exact ⟨hfits, trivial⟩
  · intro w hw r hr
    rw [mem_singleton.mp hw, hrows] at hr
    simpa only [lockRows, hstage, hview] using hr
  · rw [← accountByID_isSome]
    simp [Tx.view, hwrites, accountByID_put_user]
  · simpa only [Tx.redeemer, Tx.view, hwrites, nil_append, foldl_cons, foldl_nil] using hredeemer

/-- A use is counted. -/
theorem Spec.consume (h : Spec db t rows) (hstage : t.stage = .consume token userID promoted) :
    Spec db (consume (t.view db) t token userID promoted) (rows ++ lockRows db input t) := by
  have hfollows := h.follows
  simp only [Follows, hstage] at hfollows
  obtain ⟨hread, huser, n, hredeemer⟩ := hfollows
  have hview : (Tokens.consume (t.view db) t token userID promoted).view db =
      (t.view db).consumeToken t.request.key userID := by
    rw [consumeToken_eq]
    exact foldl_append
  refine h.append rfl ?_ ?_ ⟨hread, ?_, withNext (t.view db) n, n, hredeemer, ?_⟩
  · cases (t.view db).tokens.lookup t.request.key with
    | none => trivial
    | some row => exact ⟨trivial, trivial⟩
  · intro w hw r hr
    obtain ⟨row, -, rfl⟩ := map_eq_some_iff.mp (mem_toList.mp hw)
    simpa only [lockRows, hstage, Write.rows] using hr
  · rw [hview]
    exact huser
  · rw [hview]
    rfl

/-- Where the redemption at once gives the tables and the answer of the transaction. -/
lemma redeem_eq_view {grant : TokenGrant} (n : Int) (hstage : t.stage = .commit grant)
    (huse : (withNext db t.newID).useTokenForIdentity true t.now t.request.key t.request.userID
      t.request.uniqueID t.request.nickname = .ok (withNext (t.view db) n, grant)) :
    redeem db t = some (t.view db) := by
  have hnext : (t.view db).nextUserID = db.nextUserID :=
    foldl_frame (g := nextUserID) (fun _ w => by cases w <;> rfl) db t.writes
  simp only [redeem, huse, hstage, if_true, ← hnext]
  rfl

/-- Up to the grant, the redemption at once has come to the same tables. -/
lemma Follows.use_eq (h : Follows db t) (hstage : t.stage = .grant token userID promoted) :
    ∃ n, ∀ now, (withNext db t.newID).useTokenForIdentity true now t.request.key
      t.request.userID t.request.uniqueID t.request.nickname =
      (withNext (t.view db) n).applyGrant true now token userID promoted := by
  simp only [Follows, hstage] at h
  obtain ⟨⟨htoken, huses⟩, -, r, n, hredeemer, hconsume⟩ := h
  refine ⟨n, fun now => ?_⟩
  have htoken' : (withNext db t.newID).tokens.lookup t.request.key = some token := htoken
  have hredeemer' : (withNext db t.newID).redeemer t.request.userID t.request.uniqueID
      t.request.nickname = .ok (r, userID, promoted) := hredeemer
  simp [useTokenForIdentity, htoken', if_neg huses, hredeemer', hconsume]

/-- The grant is made. -/
theorem Spec.grant (hdb : UsersOK db) (h : Spec db t rows)
    (hstage : t.stage = .grant token userID promoted)
    (hok : grantStatement (t.view db) input t token userID promoted = .ok t') :
    Spec db t' (rows ++ lockRows db input t) := by
  have hview : UsersOK (t.view db) := (hdb.foldl_put h.fits).1
  obtain ⟨n, huse⟩ := h.follows.use_eq hstage
  unfold grantStatement at hok
  split_ifs at hok with hgroup hfk
  · -- the admin flag
    cases hok
    refine h.append rfl ?_ ?_ (redeem_eq_view n rfl ((huse t.now).trans ?_))
    · cases hu : accountByID (t.view db) userID with
      | none => trivial
      | some u => exact ⟨hview.fits_user (hview.accountByID_eq_some.mp hu).1 rfl rfl, trivial⟩
    · intro w hw r hr
      obtain ⟨u, hu, rfl⟩ := map_eq_some_iff.mp (mem_toList.mp hw)
      have hid := (hview.accountByID_eq_some.mp hu).2
      simp only [Write.rows, hid, mem_cons, not_mem_nil, or_false] at hr
      simp only [lockRows, hstage, if_pos hgroup, hu, map_some, toList_some,
        mem_cons, not_mem_nil, or_false]
      exact hr.symm
    · simp only [applyGrant, Bool.not_true, Bool.false_eq_true, if_false, if_pos hgroup]
      refine congrArg (fun db => Except.ok (withNext db n, _))
        (hview.grantAdmin_eq userID |>.trans ?_)
      exact foldl_append.symm
  · -- the membership
    cases hok
    refine h.append rfl ?_ ?_ (redeem_eq_view n rfl ((huse input.now).trans ?_))
    · unfold memberWrite
      split
      · exact ⟨trivial, trivial⟩
      · split_ifs
        · exact ⟨trivial, trivial⟩
        · trivial
    · intro w hw r hr
      have hw : w = .member userID token.groupID none := by
        have := mem_toList.mp hw
        unfold memberWrite at this
        split at this
        · simpa using this.symm
        · split_ifs at this
          simpa using this.symm
      simpa only [lockRows, hstage, if_neg hgroup, hw, Write.rows] using hr
    · have hfk' : token.groupID ∈ (withNext (t.view db) n).serverGroups ∧
          (withNext (t.view db) n).hasUser userID = true := hfk
      simp only [applyGrant, Bool.not_true, Bool.false_eq_true, if_false, if_neg hgroup,
        if_pos hfk']
      refine congrArg (fun db => Except.ok (withNext db n, _))
        ((grantMembership_eq (t.view db) input.now userID token.groupID).trans ?_)
      exact foldl_append.symm

lemma statement_of_next {free : Row → Bool} (h : redemptions.next db free input t = some t') :
    statement db input t = .ok t' := by
  simp only [redemptions] at h
  cases hstatement : statement db input t with
  | error e => simp [hstatement, Except.toOption] at h
  | ok t'' =>
    rw [hstatement] at h
    cases h
    rfl

/-- **The statements without interference are `useTokenForIdentity`.** -/
theorem UsersOK.spec (hdb : UsersOK db) (h : redemptions.Alone db t rows) : Spec db t rows := by
  induction h with
  | start hinit => exact spec_start hinit
  | @next t t' rows free input _ hnext ih =>
    have hok := statement_of_next hnext
    unfold statement at hok
    split at hok
    · exact ih.select ‹_› hok
    · exact ih.ensureUser hdb ‹_› hok
    · cases hok
      exact ih.consume ‹_›
    · exact ih.grant hdb ‹_› hok
    · cases hok
      exact ih.append (append_nil _).symm trivial (fun w hw => absurd hw not_mem_nil) ih.follows

end spec

/-! ## Statements read what they lock -/

section congruence

variable {db db' : MemberDB} {t t' : Tx} {rows : List Row} {input : Input}

/-- Two stores that agree in a row still do after the same writes. The search by unique id is left
out: no statement makes it after a write. -/
lemma Same.foldl_put {r : Row} (h : Same r db db') (hr : ∀ uniqueID, r ≠ .identity uniqueID)
    (ws : List Write) : Same r (ws.foldl put db) (ws.foldl put db') := by
  induction ws generalizing db db' with
  | nil => exact h
  | cons w ws ih =>
    refine ih ?_
    cases r with
    | identity uniqueID => exact absurd rfl (hr uniqueID)
    | token key =>
      cases w with
      | token key' row =>
        simp only [Same, put, FMap.lookup_insert_ite] at h ⊢
        rw [h]
      | user | member => exact h
    | account userID =>
      cases w with
      | user row =>
        simp only [Same, accountByID_put_user] at h ⊢
        rw [h]
      | token | member => exact h
    | member userID groupID =>
      cases w with
      | member userID' groupID' e =>
        simp only [Same, put, FMap.lookup_insert_ite] at h ⊢
        rw [h]
      | token | user => exact h

lemma Keeps.foldl_put (h : Keeps db db') (ws : List Write) :
    Keeps (ws.foldl put db) (ws.foldl put db') := by
  induction ws generalizing db db' with
  | nil => exact h
  | cons w ws ih =>
    refine ih ?_
    cases w with
    | token | member => exact ⟨h.groups, h.accounts⟩
    | user row =>
      refine ⟨h.groups, fun userID u hu => ?_⟩
      rw [accountByID_put_user] at hu ⊢
      split_ifs at hu ⊢ with hid
      · exact ⟨u, hu, rfl⟩
      · exact h.accounts userID u hu

lemma ensureUser_congr (t : Tx) (token : TokenRow)
    (hsame : ∀ r ∈ accountRows db input t.request.uniqueID, Same r db db') :
    accountRows db' input t.request.uniqueID = accountRows db input t.request.uniqueID ∧
      ensureUser db' input t token = ensureUser db input t token := by
  have hlookup : db'.lookupUser t.request.uniqueID = db.lookupUser t.request.uniqueID := by
    refine hsame (.identity t.request.uniqueID) ?_
    unfold accountRows
    split <;> simp
  refine ⟨by simp [accountRows, hlookup], ?_⟩
  cases hu : db.lookupUser t.request.uniqueID with
  | some u => simp only [ensureUser, hlookup, hu]
  | none =>
    have haccount : accountByID db' input.newID = accountByID db input.newID :=
      hsame (.account input.newID) (by simp [accountRows, hu])
    have hnew : db'.hasUser input.newID = db.hasUser input.newID := by
      rw [← accountByID_isSome, haccount, accountByID_isSome]
    simp [ensureUser, hlookup, hu, hnew]

lemma Keeps.consume_congr (h : Keeps db db') {userID : Int} (huser : db.hasUser userID = true)
    (htoken : Same (.token t.request.key) db db') (token : TokenRow) (promoted : Bool) :
    consume db' t token userID promoted = consume db t token userID promoted := by
  rw [← accountByID_isSome] at huser
  obtain ⟨u, hu⟩ := isSome_iff_exists.mp huser
  obtain ⟨u', hu', hid⟩ := h.accounts userID u hu
  have htoken : db'.tokens.lookup t.request.key = db.tokens.lookup t.request.key := htoken
  simp [consume, htoken, hu, hu', hid]

/-- **A statement gives the same on tables that agree in the rows it locks** and in what redemptions
keep. -/
theorem Spec.statement_congr (h : Spec db t rows) (hok : statement db input t = .ok t')
    (hsame : ∀ r ∈ lockRows db input t, Same r db db') (hkeeps : Keeps db db') :
    lockRows db' input t = lockRows db input t ∧ statement db' input t = .ok t' := by
  have hfollows := h.follows
  have hkeeps' : Keeps (t.view db) (t.view db') := hkeeps.foldl_put t.writes
  cases hstage : t.stage with
  | select =>
    have htoken : Same (.token t.request.key) db db' := hsame _ (by simp [lockRows, hstage])
    have htoken' : (t.view db').tokens.lookup t.request.key =
        (t.view db).tokens.lookup t.request.key := htoken.foldl_put (by simp) t.writes
    simp only [lockRows, statement, hstage, Tokens.select, htoken'] at hok ⊢
    exact ⟨trivial, hok⟩
  | ensureUser token =>
    simp only [Follows, hstage] at hfollows
    have hview : ∀ db, t.view db = db := by simp [Tx.view, hfollows.1]
    simp only [lockRows, statement, hstage, hview] at hok hsame ⊢
    obtain ⟨hrows, hstatement⟩ := ensureUser_congr t token hsame
    exact ⟨hrows, hstatement.trans hok⟩
  | consume token userID promoted =>
    simp only [Follows, hstage] at hfollows
    have htoken : Same (.token t.request.key) db db' := hsame _ (by simp [lockRows, hstage])
    have hconsume := hkeeps'.consume_congr hfollows.2.1 (htoken.foldl_put (by simp) t.writes)
      token promoted
    simp only [lockRows, statement, hstage] at hok ⊢
    exact ⟨trivial, hconsume ▸ hok⟩
  | grant token userID promoted =>
    simp only [Follows, hstage] at hfollows
    by_cases hgroup : token.groupID = 0
    · have haccount : Same (.account userID) db db' :=
        hsame _ (by simp [lockRows, hstage, hgroup])
      have haccount' : accountByID (t.view db') userID = accountByID (t.view db) userID :=
        haccount.foldl_put (by simp) t.writes
      simp only [lockRows, statement, hstage, grantStatement, if_pos hgroup, haccount'] at hok ⊢
      exact ⟨trivial, hok⟩
    · have hmember : Same (.member userID token.groupID) db db' :=
        hsame _ (by simp [lockRows, hstage, hgroup])
      have hmember' : memberWrite (t.view db') input.now userID token.groupID =
          memberWrite (t.view db) input.now userID token.groupID := by
        have : (t.view db').serverMembers.lookup (userID, token.groupID) =
            (t.view db).serverMembers.lookup (userID, token.groupID) :=
          hmember.foldl_put (by simp) t.writes
        simp [memberWrite, this]
      simp only [lockRows, statement, hstage, grantStatement, if_neg hgroup, hmember',
        hkeeps'.groups, hkeeps'.hasUser hfollows.2.1, hfollows.2.1] at hok ⊢
      exact ⟨trivial, hok⟩
  | commit grant =>
    simp only [lockRows, statement, hstage] at hok ⊢
    exact ⟨trivial, hok⟩

/-- Redemptions read what they lock, or what no redemption changes. -/
theorem lawful_redemptions : redemptions.Lawful UsersOK Same Keeps where
  initial {db db' t} h hkeeps := by
    simp only [redemptions, begins, Bool.and_eq_true, Bool.or_eq_true] at h ⊢
    exact ⟨h.1, h.2.imp id hkeeps.hasUser⟩
  next {db db' t t' rows free input} hdb halone hnext hsame hkeeps := by
    have hok := statement_of_next hnext
    obtain ⟨hrows, hok'⟩ := (hdb.spec halone).statement_congr hok
      (fun r hr => hsame r (mem_append_right _ hr)) hkeeps
    refine ⟨hrows, ?_⟩
    simp only [redemptions, hok']
    rfl
  wf hdb halone _ := (hdb.foldl_put (hdb.spec halone).fits).1
  commit_same {db t rows r} hdb halone hr := by
    have hspec := hdb.spec halone
    exact (hdb.foldl_put hspec.fits).2.2 r fun w hw hrow => hr (hspec.locked w hw r hrow)
  commit_keeps hdb halone := (hdb.foldl_put (hdb.spec halone).fits).2.1

end congruence

end Voicx.Store.Tokens
