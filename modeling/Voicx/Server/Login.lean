import Mathlib
import Voicx.Auth.Limiter
import Voicx.Auth.Service
import Voicx.Server.Reply

/-!
# The login handshake of a connection

Model of `handleAuthenticate`, `handleAuthSignature` and `handleGuestSignature` of
`internal/server/handlers.go`, and of the challenge a client has pending (`internal/server/tcp.go`).

* `LoginShared` — what all connections share: the limiter, the tables, the server password and the
  nicknames in use. `LoginClient` — the connection itself.
* `handleAuthenticate` — a password login, an anonymous login, or the start of a challenge.
* `handleAuthSignature`, `handleGuestSignature` — the answer to a challenge: for a named account, or
  under a public key that the client presents.
* `finishAuth` — the common end of all of them. Every call of it is recorded in `logins` with the
  ban table it was made under.
* `LoginStep`, `LoginWorld.step` — a connection takes the messages of its client one after the
  other, and in between the rest of the server may change everything that is shared.

The handlers read the clock, the random source and the tables several times in one request; here a
request sees one instant and one state of the tables. What `finishAuth` does after it has set the
identity (the replies, the snapshot, the spool) is left out.

Source names without a file are from `internal/server/handlers.go`.
-/

namespace Voicx.Server

open Auth

/-! ## Messages -/

/-- Source: `internal/netproto/codec.go`, `Authenticate`. -/
structure Authenticate where
  username : String := ""
  password : String := ""
  serverPassword : String := ""
  nickname : String := ""
  anonymous : Bool := false
  publicKey : String := ""
  x25519PublicKey : String := ""
deriving DecidableEq, Repr

/-- Source: `internal/netproto/codec.go`, `AuthSignature`. -/
structure AuthSignature where
  uniqueID : String := ""
  publicKey : String := ""
  signature : List UInt8 := []
  x25519PublicKey : String := ""
deriving DecidableEq, Repr

/-- A frame of the handshake; a payload that does not decode is the decoder's error text. -/
inductive AuthFrame
  | authenticate (payload : Except String Authenticate)
  | authSignature (payload : Except String AuthSignature)

/-- The resolved identity of a login. Source: `authIdentity`. -/
structure AuthIdentity where
  uniqueID : String
  nickname : String
  userID : Int := 0
  admin : Bool := false
  guest : Bool := false
deriving DecidableEq, Repr

/-- The first reply to a frame. -/
inductive AuthReply
  | error (reply : ErrorReply)
  /-- `AuthResponse` with a reason and without `OK` -/
  | rejected (reason : String)
  | challenge (bytes : List UInt8)
  /-- `AuthResponse` with `OK`, sent by `finishAuth` -/
  | accepted (id : AuthIdentity)
deriving DecidableEq, Repr

/-! ## State -/

/-- The cryptography and the string folding that the handlers rely on. -/
structure LoginOracles where
  /-- `strings.ToLower(strings.TrimSpace(source))` -/
  foldSource : String → String
  /-- the hexadecimal SHA-256 digest -/
  sha256Hex : String → String
  /-- `VerifyPassword password encodedHash` -/
  verifyPassword : String → String → Bool
  /-- `verifyServerPassword password encodedHash` -/
  verifyServerPassword : String → String → Bool
  /-- `UniqueIDFromPublicKey`; `none` if the key does not load -/
  uniqueIDFromPublicKey : String → Option String
  /-- `VerifyChallenge publicKey challenge signature` -/
  verifyChallenge : String → List UInt8 → List UInt8 → Bool

/-- Source: `internal/auth/limiter.go`, `LoginFailureScope`. -/
def loginFailureScope (o : LoginOracles) (source principal : String) : String :=
  o.sha256Hex (o.foldSource source ++ "\x00" ++ principal)

/-- The connection of a client, as far as the handshake is concerned. `ip` is `remoteIP`.
Source: `internal/server/tcp.go`, `Client`. -/
structure LoginClient where
  ip : String
  authed : Bool := false
  uniqueID : String := ""
  username : String := ""
  userID : Int := 0
  admin : Bool := false
  x25519Key : String := ""
  challenge : Option (List UInt8) := none
  challengeUID : String := ""
  challengeNick : String := ""
  challengeExp : Int := 0

/-- What the connections share. -/
structure LoginShared where
  limiter : LoginFailureLimiter
  users : Users
  bans : List BanRow := []
  serverPasswordHash : String := ""
  /-- `deps.Auth` is wired -/
  backend : Bool := true
  /-- the nicknames of the authenticated clients -/
  taken : List String := []

/-- A call of `finishAuth`: the identity, and the ban table and the instant it was made at. -/
structure Login where
  identity : AuthIdentity
  bans : List BanRow
  now : Int

/-- A connection in its server. -/
structure LoginWorld where
  shared : LoginShared
  client : LoginClient
  clock : Int := 0
  /-- every call of `finishAuth` on this connection -/
  logins : List Login := []

/-- Which queries of a request fail. -/
structure LoginFaults where
  ban : Bool := false
  credential : Bool := false
  bind : Bool := false
  challengeKey : Bool := false
  user : Bool := false
  userByKey : Bool := false
  /-- the query of `completeAuth` -/
  completeUser : Bool := false
  /-- the random source -/
  random : Bool := false

/-- What a request takes from its surroundings. -/
structure LoginInput where
  now : Int
  order : TableOrder
  faults : LoginFaults := {}
  /-- the id that `newGuestUniqueID` would draw -/
  guestID : String := ""
  /-- the bytes that `GenerateChallenge` would draw -/
  challenge : List UInt8 := []

/-- `authChallengeTTL`, 30 seconds. -/
def authChallengeTTL : Int := 30 * 1000000000

namespace LoginClient

variable (c : LoginClient)

/-- Source: `internal/server/tcp.go`, `setIdentity`. -/
def setIdentity (id : AuthIdentity) : LoginClient :=
  { c with
    uniqueID := id.uniqueID, username := id.nickname, userID := id.userID, admin := id.admin
    authed := true }

/-- The key is stored if the message carries one. -/
def captureX25519 (key : String) : LoginClient :=
  if key = "" then c else { c with x25519Key := key }

/-- Source: `internal/server/tcp.go`, `setChallenge`. -/
def setChallenge (uniqueID nickname : String) (challenge : List UInt8) (expires : Int) :
    LoginClient :=
  { c with
    challengeUID := uniqueID, challengeNick := nickname, challenge := some challenge
    challengeExp := expires }

/-- The pending challenge and its nickname, and the client without it. An empty unique id takes any
challenge. Source: `internal/server/tcp.go`, `takeChallenge`. -/
def takeChallenge (uniqueID : String) (now : Int) : Option (List UInt8 × String × LoginClient) :=
  match c.challenge with
  | none => none
  | some challenge =>
    if c.challengeExp < now then none
    else if uniqueID ≠ "" ∧ c.challengeUID ≠ uniqueID then none
    else
      some (challenge, c.challengeNick,
        { c with challenge := none, challengeUID := "", challengeNick := "", challengeExp := 0 })

end LoginClient

/-- The nickname, with `#2`, `#3`, … appended while it is taken. Among one candidate more than there
are nicknames in use one is free, so the search is bounded (`dedupeNickname_not_taken`).
Source: `dedupeNickname`. -/
def dedupeNickname (taken : List String) (nickname : String) : String :=
  if nickname ∈ taken then
    (((List.range (taken.length + 1)).map fun i => nickname ++ "#" ++ Nat.repr (i + 2)).find?
      fun candidate => candidate ∉ taken).getD nickname
  else nickname

/-- The search for a free nickname succeeds. -/
lemma dedupeNickname_not_taken (taken : List String) (nickname : String) :
    dedupeNickname taken nickname ∉ taken := by
  unfold dedupeNickname
  split_ifs with h
  · set candidates := (List.range (taken.length + 1)).map fun i =>
      nickname ++ "#" ++ Nat.repr (i + 2) with hcandidates
    -- the candidates are pairwise different and more than the nicknames in use
    have hnodup : candidates.Nodup := by
      apply List.nodup_range.map
      intro i j hij
      have hrepr : Nat.repr (i + 2) = Nat.repr (j + 2) := by simpa using hij
      have := Nat.repr_injective hrepr
      omega
    obtain ⟨c, hc, hfree⟩ : ∃ c ∈ candidates, c ∉ taken := by
      by_contra hnone
      push Not at hnone
      have hle := (hnodup.subperm hnone).length_le
      rw [List.length_map, List.length_range] at hle
      omega
    cases hfind : candidates.find? fun candidate => candidate ∉ taken with
    | none =>
      have hall := List.find?_eq_none.mp hfind c hc
      simp [hfree] at hall
    | some c' =>
      have hnot := List.find?_some hfind
      simpa using hnot
  · exact h

/-! ## The handlers -/

/-- The reply to a locked scope. -/
def tooManyFailedLogins : String := "too many failed logins, try again later"

namespace LoginWorld

variable (w : LoginWorld)

/-- The limiter after a call. -/
def setLimiter (l : LoginFailureLimiter) : LoginWorld :=
  { w with shared := { w.shared with limiter := l } }

variable (inp : LoginInput)

/-- The common end of every login.
Source: `finishAuth`. -/
def finishAuth (id : AuthIdentity) : LoginWorld × AuthReply :=
  ({ w with
      client := w.client.setIdentity id
      logins := w.logins ++ [⟨id, w.shared.bans, inp.now⟩] },
    .accepted id)

/-- Source: `completeAuthForUser`. -/
def completeAuthForUser (user : User) : LoginWorld × AuthReply :=
  w.finishAuth inp
    { uniqueID := user.uniqueID
      nickname := if user.nickname = "" then user.uniqueID else user.nickname
      userID := user.id
      admin := user.isAdmin }

/-- Source: `completeAuth`. -/
def completeAuth (uniqueID : String) : LoginWorld × AuthReply :=
  match w.shared.users.lookupUser inp.faults.completeUser uniqueID with
  | .error .userNotFound => (w, .rejected "invalid credentials")
  | .error .backend => (w, .rejected "internal error")
  | .ok user => w.completeAuthForUser inp user

/-- Source: `completeGuestAuth`. -/
def completeGuestAuth (uniqueID nickname : String) : LoginWorld × AuthReply :=
  w.finishAuth inp
    { uniqueID := uniqueID
      nickname := dedupeNickname w.shared.taken (if nickname = "" then "guest" else nickname)
      guest := true }

/-- The rejection of a banned unique id or address; empty if there is no ban.
Source: `banRejectReason`. -/
def banRejectReason (uniqueID : String) : Except AuthError String :=
  if inp.faults.ban then .error .backend
  else
    match lookupActiveBan w.shared.bans uniqueID w.client.ip inp.now with
    | none => .ok ""
    | some ban =>
      .ok (if ban.reason.getD "" = "" then "banned" else "banned: " ++ ban.reason.getD "")

section handlers

variable (o : LoginOracles) (w : LoginWorld) (inp : LoginInput) (msg : Authenticate)

/-- The part of `handleAuthenticate` that checks the server password. An error is the end of the
request. -/
def checkServerPassword : Except (LoginWorld × AuthReply) LoginWorld :=
  if w.shared.serverPasswordHash = "" then .ok w
  else
    let scope := loginFailureScope o ("tcp-server-password:" ++ w.client.ip) ""
    match w.shared.limiter.reserve inp.order [scope] inp.now with
    | (l, none) => .error (w.setLimiter l, .rejected tooManyFailedLogins)
    | (l, some attempt) =>
      if o.verifyServerPassword msg.serverPassword w.shared.serverPasswordHash then
        .ok (w.setLimiter (l.succeed attempt [scope] inp.now).1)
      else
        .error (w.setLimiter (l.fail attempt inp.now).1, .rejected "invalid server password")

/-- The scope of the source address. -/
def sourceScope : String := loginFailureScope o ("tcp:" ++ w.client.ip) ""

/-- The scope of a presented name. -/
def principalScope (o : LoginOracles) (name : String) : String := loginFailureScope o "" name

/-- The part of `handleAuthenticate` without a password: issue a challenge for the presented name.
The reservation is given back at once. -/
def issueChallenge : LoginWorld × AuthReply :=
  match w.shared.limiter.reserve inp.order
      [sourceScope o w, principalScope o msg.username] inp.now with
  | (l, none) => (w.setLimiter l, .rejected tooManyFailedLogins)
  | (l, some attempt) =>
    let w := w.setLimiter (l.cancel attempt inp.now).1
    if inp.faults.random then (w, .rejected "internal error")
    else
      ({ w with
          client := w.client.setChallenge msg.username msg.nickname inp.challenge
            (inp.now + authChallengeTTL) },
        .challenge inp.challenge)

/-- Bind the presented identity key to the account; a failure is only logged. -/
def bindKey (user : User) (publicKey : String) : LoginWorld :=
  if publicKey = "" ∨ inp.faults.bind then w
  else
    { w with
      shared := { w.shared with users := w.shared.users.bindPublicKey user.id publicKey } }

/-- The part of `handleAuthenticate` with a password. -/
def passwordLogin : LoginWorld × AuthReply :=
  match w.shared.limiter.reserve inp.order
      [sourceScope o w, principalScope o msg.username] inp.now with
  | (l, none) => (w.setLimiter l, .rejected tooManyFailedLogins)
  | (l, some attempt) =>
    match w.shared.users.authenticateIdentifier o.verifyPassword inp.faults.credential
        msg.username msg.password with
    | .error .userNotFound =>
      (w.setLimiter (l.fail attempt inp.now).1, .rejected "invalid credentials")
    | .error .backend =>
      -- the deferred Cancel releases the reservation
      (w.setLimiter (l.cancel attempt inp.now).1, .rejected "internal error")
    | .ok none => (w.setLimiter (l.fail attempt inp.now).1, .rejected "invalid credentials")
    | .ok (some user) =>
      completeAuthForUser
        ((w.bindKey inp user msg.publicKey).setLimiter
          (l.succeed attempt [principalScope o msg.username] inp.now).1) inp user

/-- `handleAuthenticate` after the ban check and the server password. -/
def routeAuthenticate : LoginWorld × AuthReply :=
  if msg.anonymous ∧ msg.password ≠ "" then
    (w.setLimiter (w.shared.limiter.recordFailure inp.order
        [sourceScope o w, principalScope o msg.username] inp.now),
      .rejected "anonymous login takes no password")
  else if msg.anonymous ∧ msg.username = "" ∧ msg.password = "" then
    w.completeGuestAuth inp inp.guestID msg.nickname
  else if msg.password = "" then issueChallenge o w inp msg
  else passwordLogin o w inp msg

/-- Source: `handleAuthenticate`. -/
def handleAuthenticate (payload : Except String Authenticate) : LoginWorld × AuthReply :=
  match payload with
  | .error text => (w, .error ⟨.malformed, "malformed authenticate: " ++ text⟩)
  | .ok msg =>
    if w.client.authed then (w, .error ⟨.malformed, "already authenticated"⟩)
    else
      let w := { w with client := w.client.captureX25519 msg.x25519PublicKey }
      if !w.shared.backend then
        (w, .error ⟨.unavailable, "authentication backend unavailable"⟩)
      else
        match w.banRejectReason inp msg.username with
        | .error _ => (w, .rejected "internal error")
        | .ok reason =>
          if reason ≠ "" then (w, .rejected reason)
          else
            match checkServerPassword o w inp msg with
            | .error r => r
            | .ok w => routeAuthenticate o w inp msg

/-- The end of `handleGuestSignature`, with the challenge taken and the signature verified: the
account with the derived unique id, else the account with the key, else a guest. `attempt` is the
reservation of the request in the limiter `l`. -/
def resolveKey (l : LoginFailureLimiter) (attempt : LoginAttempt) (msg : AuthSignature)
    (uniqueID nickname : String) : LoginWorld × AuthReply :=
  let succeeded := w.setLimiter (l.succeed attempt [principalScope o uniqueID] inp.now).1
  let cancelled := w.setLimiter (l.cancel attempt inp.now).1
  match w.shared.users.lookupUser inp.faults.user uniqueID with
  | .ok _ => succeeded.completeAuth inp uniqueID
  | .error .backend => (cancelled, .rejected "internal error")
  | .error .userNotFound =>
    match w.shared.users.lookupUserByPublicKey inp.faults.userByKey msg.publicKey with
    | .ok user => succeeded.completeAuthForUser inp user
    | .error .backend => (cancelled, .rejected "internal error")
    | .error .userNotFound => succeeded.completeGuestAuth inp uniqueID nickname

variable (msg : AuthSignature)

/-- The part of `handleGuestSignature` after the ban check of the derived unique id. -/
def verifyGuestSignature (uniqueID : String) : LoginWorld × AuthReply :=
  match w.shared.limiter.reserve inp.order
      [sourceScope o w, principalScope o uniqueID] inp.now with
  | (l, none) => (w.setLimiter l, .rejected tooManyFailedLogins)
  | (l, some attempt) =>
    match w.client.takeChallenge "" inp.now with
    | none => (w.setLimiter (l.fail attempt inp.now).1, .rejected "no pending challenge")
    | some (challenge, nickname, client) =>
      let w := { w with client := client }
      if o.verifyChallenge msg.publicKey challenge msg.signature then
        resolveKey o w inp l attempt msg uniqueID nickname
      else (w.setLimiter (l.fail attempt inp.now).1, .rejected "invalid credentials")

/-- Source: `handleGuestSignature`. -/
def handleGuestSignature : LoginWorld × AuthReply :=
  match o.uniqueIDFromPublicKey msg.publicKey with
  | none =>
    match w.shared.limiter.reserve inp.order
        [sourceScope o w, principalScope o msg.publicKey] inp.now with
    | (l, none) => (w.setLimiter l, .rejected tooManyFailedLogins)
    | (l, some attempt) =>
      (w.setLimiter (l.fail attempt inp.now).1, .rejected "invalid public key")
  | some uniqueID =>
    match w.banRejectReason inp uniqueID with
    | .error _ => (w, .rejected "internal error")
    | .ok reason =>
      if reason ≠ "" then (w, .rejected reason)
      else verifyGuestSignature o w inp msg uniqueID

/-- The part of `handleAuthSignature` for a named account. -/
def verifySignature : LoginWorld × AuthReply :=
  match w.shared.limiter.reserve inp.order
      [sourceScope o w, principalScope o msg.uniqueID] inp.now with
  | (l, none) => (w.setLimiter l, .rejected tooManyFailedLogins)
  | (l, some attempt) =>
    match w.client.takeChallenge msg.uniqueID inp.now with
    | none => (w.setLimiter (l.fail attempt inp.now).1, .rejected "no pending challenge")
    | some (challenge, _, client) =>
      let w := { w with client := client }
      match w.shared.users.authenticateChallenge o.verifyChallenge inp.faults.challengeKey
          msg.uniqueID challenge msg.signature with
      | .error .userNotFound =>
        (w.setLimiter (l.fail attempt inp.now).1, .rejected "invalid credentials")
      | .error .backend =>
        (w.setLimiter (l.cancel attempt inp.now).1, .rejected "internal error")
      | .ok false =>
        (w.setLimiter (l.fail attempt inp.now).1, .rejected "invalid credentials")
      | .ok true =>
        completeAuth
          (w.setLimiter (l.succeed attempt [principalScope o msg.uniqueID] inp.now).1)
          inp msg.uniqueID

/-- Source: `handleAuthSignature`. -/
def handleAuthSignature (payload : Except String AuthSignature) : LoginWorld × AuthReply :=
  match payload with
  | .error text => (w, .error ⟨.malformed, "malformed auth_signature: " ++ text⟩)
  | .ok msg =>
    if w.client.authed then (w, .error ⟨.malformed, "already authenticated"⟩)
    else
      let w := { w with client := w.client.captureX25519 msg.x25519PublicKey }
      if !w.shared.backend then
        (w, .error ⟨.unavailable, "authentication backend unavailable"⟩)
      else if msg.publicKey ≠ "" then handleGuestSignature o w inp msg
      else verifySignature o w inp msg

/-- A frame of the handshake. Source: `internal/server/tcp.go`, `dispatch`. -/
def dispatchAuth (frame : AuthFrame) : LoginWorld × AuthReply :=
  match frame with
  | .authenticate payload => handleAuthenticate o w inp payload
  | .authSignature payload => handleAuthSignature o w inp payload

end handlers

end LoginWorld

/-! ## Runs of a connection -/

/-- A frame of the client, or a change that the rest of the server makes to what is shared. -/
inductive LoginStep
  | frame (inp : LoginInput) (frame : AuthFrame)
  | others (shared : LoginShared) (now : Int)

/-- The instant of a step. -/
def LoginStep.now : LoginStep → Int
  | .frame inp _ => inp.now
  | .others _ now => now

/-- A new connection from the address. -/
def LoginWorld.connect (shared : LoginShared) (ip : String) (now : Int) : LoginWorld where
  shared := shared
  client := { ip := ip }
  clock := now

/-- One step of a connection. -/
def LoginWorld.step (o : LoginOracles) (w : LoginWorld) : LoginStep → LoginWorld
  | .frame inp frame => (LoginWorld.dispatchAuth o { w with clock := inp.now } inp frame).1
  | .others shared now => { w with shared := shared, clock := now }

end Voicx.Server
