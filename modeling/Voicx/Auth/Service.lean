import Mathlib.Tactic

/-!
# Accounts, bans and credentials

Model of the queries of `internal/auth/service.go` over the `users` and `bans` tables.

* `Users` — the accounts; the unique columns of the table are fields of the structure.
* `BanRow`, `lookupActiveBan` — the ban query, for a unique id or an address.
* `ActivelyBanned` — what the query is for: a server-wide ban of a unique id that has not run out.
* `authenticateIdentifier`, `authenticateChallenge`, `lookupUser`, `lookupUserByPublicKey`,
  `bindPublicKey` — the account queries. Only `authenticateIdentifier` and `lookupUserByPublicKey`
  resolve a name that need not be the account's unique id.

Password and signature checks are parameters, a query that fails is a Boolean argument.

Source names without a file are from `internal/auth/service.go`.
-/

namespace Voicx.Auth

/-! ## Tables -/

/-- A row of `users`; `none` is an SQL `NULL`. -/
structure UserRow where
  id : Int
  uniqueID : String
  nickname : Option String := none
  passwordHash : Option String := none
  publicKey : Option String := none
  isAdmin : Bool := false
deriving DecidableEq, Repr

/-- The `users` table with its unique columns (migrations `001_init` and
`023_unique_user_nicknames`). -/
structure Users where
  rows : List UserRow
  id_unique : (rows.map UserRow.id).Nodup
  uniqueID_unique : (rows.map UserRow.uniqueID).Nodup
  nickname_unique : (rows.filterMap UserRow.nickname).Nodup

/-- A row of `bans`: type 0 is an address, 1 a unique id, 2 a nickname. -/
structure BanRow where
  id : Int
  banType : Int
  value : String
  reason : Option String := none
  expiresAt : Option Int := none
  channelID : Option Int := none
deriving DecidableEq, Repr

/-- What the server needs to know about an account. Source: `User`. -/
structure User where
  id : Int
  uniqueID : String
  nickname : String
  isAdmin : Bool
deriving DecidableEq, Repr

/-- The columns of a row that the account queries select. -/
def UserRow.user (row : UserRow) : User :=
  ⟨row.id, row.uniqueID, row.nickname.getD "", row.isAdmin⟩

/-- How an account query can fail. -/
inductive AuthError
  | userNotFound
  | backend
deriving DecidableEq, Repr

/-! ## Bans -/

/-- The ban has not run out. -/
def BanRow.active (b : BanRow) (now : Int) : Bool := b.expiresAt.all fun expires => now < expires

/-- The `WHERE` clause of the ban query. -/
def BanRow.applies (b : BanRow) (uniqueID ip : String) (now : Int) : Bool :=
  decide (b.channelID = none) &&
    ((decide (b.banType = 1) && decide (b.value = uniqueID) ||
      decide (b.banType = 0) && decide (b.value = ip)) &&
    b.active now)

/-- The first active server-wide ban of the unique id or the address.
Source: `LookupActiveBan`. -/
def lookupActiveBan (bans : List BanRow) (uniqueID ip : String) (now : Int) : Option BanRow :=
  ((bans.filter fun b => b.applies uniqueID ip now).insertionSort fun a b => a.id ≤ b.id).head?

/-- A server-wide ban of the unique id is in force. -/
def ActivelyBanned (bans : List BanRow) (uniqueID : String) (now : Int) : Prop :=
  ∃ b ∈ bans, b.channelID = none ∧ b.banType = 1 ∧ b.value = uniqueID ∧ b.active now = true

instance (bans : List BanRow) (uniqueID : String) (now : Int) :
    Decidable (ActivelyBanned bans uniqueID now) :=
  inferInstanceAs (Decidable (∃ b ∈ bans, b.channelID = none ∧ b.banType = 1 ∧
    b.value = uniqueID ∧ b.active now = true))

variable {bans : List BanRow} {uniqueID : String} {now : Int}

/-- The query finds every ban of the unique id it is asked about. -/
lemma not_activelyBanned_of_lookup {bans : List BanRow} {uniqueID ip : String} {now : Int}
    (h : lookupActiveBan bans uniqueID ip now = none) : ¬ActivelyBanned bans uniqueID now := by
  rintro ⟨b, hb, hchannel, htype, hvalue, hactive⟩
  have happlies : b.applies uniqueID ip now = true := by
    simp [BanRow.applies, hchannel, htype, hvalue, hactive]
  have hmem : b ∈ bans.filter fun b => b.applies uniqueID ip now :=
    List.mem_filter.mpr ⟨hb, happlies⟩
  rw [lookupActiveBan, List.head?_eq_none_iff] at h
  have hsorted := (List.perm_insertionSort (fun a b : BanRow => a.id ≤ b.id)
    (bans.filter fun b => b.applies uniqueID ip now)).mem_iff.mpr hmem
  rw [h] at hsorted
  cases hsorted

/-- A ban in force was in force before, as long as the row is there. -/
theorem ActivelyBanned.earlier {now' : Int} (h : ActivelyBanned bans uniqueID now')
    (hle : now ≤ now') : ActivelyBanned bans uniqueID now := by
  obtain ⟨b, hb, hchannel, htype, hvalue, hactive⟩ := h
  refine ⟨b, hb, hchannel, htype, hvalue, ?_⟩
  unfold BanRow.active at hactive ⊢
  cases hexp : b.expiresAt with
  | none => rfl
  | some expires =>
    rw [hexp] at hactive
    simp only [Option.all_some, decide_eq_true_eq] at hactive ⊢
    omega

/-! ## Accounts -/

namespace Users

variable (users : Users)

/-- Source: `LookupUser`. -/
def lookupUser (fault : Bool) (uniqueID : String) : Except AuthError User :=
  if fault then .error .backend
  else
    match users.rows.find? fun row => row.uniqueID = uniqueID with
    | none => .error .userNotFound
    | some row => .ok row.user

/-- The account a login name stands for: a unique id goes before a nickname.
Source: `lookupCredentialByIdentifier`. -/
def lookupCredentialByIdentifier (identifier : String) : Option UserRow :=
  (users.rows.find? fun row => row.uniqueID = identifier).or
    (users.rows.find? fun row => row.nickname = some identifier)

variable (verifyPassword : String → String → Bool)

/-- An account without a password never matches. `verifyPassword password hash` is the Argon2 check.
Source: `verifyCredential`. -/
def verifyCredential (password hash : String) : Bool :=
  if hash = "" then false else verifyPassword password hash

/-- Password login by unique id or nickname; `none` is a wrong password.
Source: `AuthenticateIdentifier`. -/
def authenticateIdentifier (fault : Bool) (identifier password : String) :
    Except AuthError (Option User) :=
  if fault then .error .backend
  else
    match users.lookupCredentialByIdentifier identifier with
    | none => .error .userNotFound
    | some row =>
      if verifyCredential verifyPassword password (row.passwordHash.getD "") then
        .ok (some row.user)
      else .ok none

/-- Challenge login of a unique id. A `NULL` key does not scan into a string and is a failed query.
Source: `AuthenticateChallenge`. -/
def authenticateChallenge (verifyChallenge : String → List UInt8 → List UInt8 → Bool) (fault : Bool)
    (uniqueID : String) (challenge signature : List UInt8) : Except AuthError Bool :=
  if fault then .error .backend
  else
    match users.rows.find? fun row => row.uniqueID = uniqueID with
    | none => .error .userNotFound
    | some row =>
      match row.publicKey with
      | none => .error .backend
      | some publicKey =>
        if publicKey = "" then .ok false
        else .ok (verifyChallenge publicKey challenge signature)

/-- The first row, in storage order, that has the key: the column is not unique. -/
def rowByPublicKey (publicKey : String) : Option UserRow :=
  users.rows.find? fun row => row.publicKey = some publicKey

/-- Source: `LookupUserByPublicKey`. -/
def lookupUserByPublicKey (fault : Bool) (publicKey : String) : Except AuthError User :=
  if fault then .error .backend
  else
    match users.rowByPublicKey publicKey with
    | none => .error .userNotFound
    | some row => .ok row.user

/-- The row with the key, if it is the row of the account. -/
def bindRow (userID : Int) (publicKey : String) (row : UserRow) : UserRow :=
  if row.id = userID then { row with publicKey := some publicKey } else row

variable (userID : Int) (publicKey : String) (row : UserRow)

@[simp] lemma bindRow_id : (bindRow userID publicKey row).id = row.id := by
  unfold bindRow
  split_ifs <;> rfl

@[simp] lemma bindRow_uniqueID : (bindRow userID publicKey row).uniqueID = row.uniqueID := by
  unfold bindRow
  split_ifs <;> rfl

@[simp] lemma bindRow_nickname : (bindRow userID publicKey row).nickname = row.nickname := by
  unfold bindRow
  split_ifs <;> rfl

/-- Put the key on the account. Source: `BindPublicKey`. -/
def bindPublicKey (users : Users) (userID : Int) (publicKey : String) : Users where
  rows := users.rows.map (bindRow userID publicKey)
  id_unique := by
    simpa [Function.comp_def] using users.id_unique
  uniqueID_unique := by
    simpa [Function.comp_def] using users.uniqueID_unique
  nickname_unique := by
    simpa [Function.comp_def] using users.nickname_unique

variable {users : Users} {fault : Bool} {uniqueID : String} {user : User}

/-- The account found under a unique id has that unique id. -/
lemma lookupUser_uniqueID (h : users.lookupUser fault uniqueID = .ok user) :
    user.uniqueID = uniqueID := by
  unfold lookupUser at h
  split_ifs at h
  split at h
  · cases h
  · rename_i hrow
    cases h
    simpa [UserRow.user] using List.find?_some hrow

/-- An account that is not found is not there. -/
lemma lookupUser_notFound (h : users.lookupUser fault uniqueID = .error .userNotFound) :
    ∀ row ∈ users.rows, row.uniqueID ≠ uniqueID := by
  unfold lookupUser at h
  split_ifs at h
  · cases h
  · split at h
    · rename_i hnone
      intro row hrow
      simpa using List.find?_eq_none.mp hnone row hrow
    · cases h

/-- A password login is one of the account that the name stands for. -/
lemma authenticateIdentifier_row {verifyPassword : String → String → Bool}
    {identifier password : String}
    (h : users.authenticateIdentifier verifyPassword fault identifier password = .ok (some user)) :
    ∃ row, users.lookupCredentialByIdentifier identifier = some row ∧ user = row.user := by
  unfold authenticateIdentifier at h
  split_ifs at h
  split at h
  · cases h
  · rename_i row hrow
    split_ifs at h
    · cases h
      exact ⟨row, hrow, rfl⟩
    · cases h

/-- A key login is one of the account that has the key. -/
lemma lookupUserByPublicKey_row {publicKey : String}
    (h : users.lookupUserByPublicKey fault publicKey = .ok user) :
    ∃ row, users.rowByPublicKey publicKey = some row ∧ user = row.user := by
  unfold lookupUserByPublicKey at h
  split_ifs at h
  split at h
  · cases h
  · rename_i row hrow
    cases h
    exact ⟨row, hrow, rfl⟩

end Users

end Voicx.Auth
