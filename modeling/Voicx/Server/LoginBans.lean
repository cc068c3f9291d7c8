import Voicx.Server.Login

/-!
# Account bans on the login paths

A ban is looked up under the name that the client presents, while the login that follows may resolve
that name to an account with another unique id.

* `BansHold` — no `finishAuth` on the connection was for an identity under an active ban.
* `BanInv` — the same, and no challenge is pending for a banned account. The challenge login rests
  on the second part: it checks no ban of its own.
* `LoginStepOK` — the condition under which the bans hold. It names what the handlers leave
  unchecked: a nickname that stands for a banned account, a key bound to a banned account, and a ban
  placed while a challenge for the account is pending.
* **`bans_hold_throughout`** — in every run whose steps meet the condition the bans hold.
* `banned_account_logs_in` — the three ways around a ban.
-/

namespace Voicx.Server

open Found Auth

namespace LoginWorld

/-- No login on the connection was for an identity that was under an active ban at that time. -/
def BansHold (w : LoginWorld) : Prop :=
  ∀ login ∈ w.logins, ¬ActivelyBanned login.bans login.identity.uniqueID login.now

instance (w : LoginWorld) : Decidable w.BansHold :=
  inferInstanceAs (Decidable (∀ login ∈ w.logins,
    ¬ActivelyBanned login.bans login.identity.uniqueID login.now))

/-- What the steps preserve. -/
structure BanInv (w : LoginWorld) : Prop where
  logins : w.BansHold
  /-- a pending challenge was issued to an account that is not banned -/
  pending : w.client.challenge ≠ none → w.client.challengeUID ≠ "" →
    ¬ActivelyBanned w.shared.bans w.client.challengeUID w.clock

/-! ## The condition -/

/-- A password login names the account by its unique id, or the account is not banned; the id drawn
for an anonymous guest is not a banned one. -/
def AuthenticateOK (w : LoginWorld) (inp : LoginInput) (msg : Authenticate) : Prop :=
  (msg.password ≠ "" →
    ∀ row ∈ w.shared.users.lookupCredentialByIdentifier msg.username,
      row.uniqueID = msg.username ∨ ¬ActivelyBanned w.shared.bans row.uniqueID inp.now) ∧
  (msg.anonymous = true → msg.username = "" →
    ¬ActivelyBanned w.shared.bans inp.guestID inp.now)

variable (o : LoginOracles) (w : LoginWorld)

/-- A key that is bound to an account with another unique id is not bound to a banned one; an answer
that names nobody does not stand for a banned account. -/
def SignatureOK (inp : LoginInput) (msg : AuthSignature) : Prop :=
  if msg.publicKey = "" then msg.uniqueID = "" → ¬ActivelyBanned w.shared.bans "" inp.now
  else
    ∀ uniqueID ∈ o.uniqueIDFromPublicKey msg.publicKey,
      (∀ row ∈ w.shared.users.rows, row.uniqueID ≠ uniqueID) →
      ∀ row ∈ w.shared.users.rowByPublicKey msg.publicKey,
        ¬ActivelyBanned w.shared.bans row.uniqueID inp.now

/-- A frame that meets the condition. -/
def FrameOK (inp : LoginInput) : AuthFrame → Prop
  | .authenticate (.ok msg) => w.AuthenticateOK inp msg
  | .authSignature (.ok msg) => SignatureOK o w inp msg
  | .authenticate (.error _) => True
  | .authSignature (.error _) => True

/-- The rest of the server puts no ban on an account while a challenge for it is pending. -/
def OthersOK (shared : LoginShared) (now : Int) : Prop :=
  w.client.challenge ≠ none → w.client.challengeUID ≠ "" →
    ¬ActivelyBanned shared.bans w.client.challengeUID now

/-- The condition on a step: the clock does not run backwards, and the step does none of what the
handlers leave unchecked. -/
def LoginStepOK (s : LoginStep) : Prop :=
  w.clock ≤ s.now ∧
    match s with
    | .frame inp frame => FrameOK o w inp frame
    | .others shared now => w.OthersOK shared now

instance (w : LoginWorld) (inp : LoginInput) (msg : Authenticate) :
    Decidable (w.AuthenticateOK inp msg) := by
  unfold AuthenticateOK
  infer_instance

instance (o : LoginOracles) (w : LoginWorld) (inp : LoginInput) (msg : AuthSignature) :
    Decidable (SignatureOK o w inp msg) := by
  unfold SignatureOK
  infer_instance

instance (o : LoginOracles) (w : LoginWorld) (inp : LoginInput) :
    ∀ frame, Decidable (FrameOK o w inp frame)
  | .authenticate (.ok msg) => inferInstanceAs (Decidable (w.AuthenticateOK inp msg))
  | .authSignature (.ok msg) => inferInstanceAs (Decidable (SignatureOK o w inp msg))
  | .authenticate (.error _) => .isTrue trivial
  | .authSignature (.error _) => .isTrue trivial

instance (w : LoginWorld) (shared : LoginShared) (now : Int) :
    Decidable (w.OthersOK shared now) := by
  unfold OthersOK
  infer_instance

instance (o : LoginOracles) (w : LoginWorld) : ∀ s, Decidable (LoginStepOK o w s)
  | .frame inp frame => inferInstanceAs (Decidable (w.clock ≤ inp.now ∧ FrameOK o w inp frame))
  | .others shared now =>
    inferInstanceAs (Decidable (w.clock ≤ now ∧ w.OthersOK shared now))

/-! ## The parts of a login -/

section parts

variable {w : LoginWorld} {inp : LoginInput}

lemma BanInv.setLimiter (h : w.BanInv) (l : LoginFailureLimiter) : (w.setLimiter l).BanInv :=
  ⟨h.logins, h.pending⟩

lemma BanInv.bindKey (h : w.BanInv) (user : User) (publicKey : String) :
    (w.bindKey inp user publicKey).BanInv := by
  unfold LoginWorld.bindKey
  split_ifs
  · exact h
  · exact ⟨h.logins, h.pending⟩

@[simp] lemma bindKey_bans (user : User) (publicKey : String) :
    (w.bindKey inp user publicKey).shared.bans = w.shared.bans := by
  unfold bindKey
  split_ifs <;> rfl

variable {c : LoginClient} {uniqueID : String}

/-- A client that keeps its challenge, or has none. -/
lemma BanInv.setClient (h : w.BanInv) (hc : c.challenge = none ∨
      c.challenge = w.client.challenge ∧ c.challengeUID = w.client.challengeUID) :
    ({ w with client := c } : LoginWorld).BanInv := by
  refine ⟨h.logins, fun hpending huid => ?_⟩
  rcases hc with hnone | ⟨hch, hcuid⟩
  · exact absurd hnone hpending
  · simp only [hch, hcuid] at hpending huid ⊢
    exact h.pending hpending huid

lemma BanInv.captureX25519 (h : w.BanInv) (key : String) :
    ({ w with client := w.client.captureX25519 key } : LoginWorld).BanInv := by
  apply h.setClient
  unfold LoginClient.captureX25519
  split_ifs <;> exact .inr ⟨rfl, rfl⟩

/-- Only an identity without a ban may be logged in. -/
theorem BanInv.finishAuth (h : w.BanInv) {id : AuthIdentity}
    (hid : ¬ActivelyBanned w.shared.bans id.uniqueID inp.now) : (w.finishAuth inp id).1.BanInv := by
  refine ⟨fun login hlogin => ?_, h.pending⟩
  rcases List.mem_append.mp hlogin with hold | hnew
  · exact h.logins login hold
  · rw [List.mem_singleton.mp hnew]
    exact hid

lemma BanInv.completeAuthForUser (h : w.BanInv) {user : User}
    (huser : ¬ActivelyBanned w.shared.bans user.uniqueID inp.now) :
    (w.completeAuthForUser inp user).1.BanInv := h.finishAuth huser

/-- The account that `completeAuth` finds has the unique id it looks for. -/
lemma BanInv.completeAuth (h : w.BanInv) (hid : ¬ActivelyBanned w.shared.bans uniqueID inp.now) :
    (w.completeAuth inp uniqueID).1.BanInv := by
  unfold LoginWorld.completeAuth
  split
  · exact h
  · exact h
  · rename_i huser
    apply h.completeAuthForUser
    rw [Users.lookupUser_uniqueID huser]
    exact hid

/-- The ban check passes only a name without a ban. -/
lemma not_banned_of_banRejectReason (h : w.banRejectReason inp uniqueID = .ok "") :
    ¬ActivelyBanned w.shared.bans uniqueID inp.now := by
  unfold banRejectReason at h
  split_ifs at h with hfault
  split at h
  · rename_i hnone
    exact not_activelyBanned_of_lookup hnone
  · -- the reply to a ban is never empty
    split_ifs at h <;> simp at h

/-- A challenge taken for a named account was issued for that account. -/
lemma takeChallenge_spec {c' : LoginClient} {nickname : String} {now : Int}
    {challenge : List UInt8} (h : c.takeChallenge uniqueID now = some (challenge, nickname, c')) :
    c'.challenge = none ∧ c.challenge ≠ none ∧ (uniqueID ≠ "" → c.challengeUID = uniqueID) := by
  unfold LoginClient.takeChallenge at h
  split at h
  · cases h
  rename_i hch
  split_ifs at h with hexp huid
  cases h
  refine ⟨rfl, by simp [hch], fun hne => ?_⟩
  by_contra hdiff
  exact huid ⟨hne, hdiff⟩

end parts

/-! ## The handlers -/

section handlers

variable {o : LoginOracles} {w : LoginWorld} {inp : LoginInput}

section name

-- the name has passed the ban check
variable {msg : Authenticate} (h : w.BanInv)
  (hname : ¬ActivelyBanned w.shared.bans msg.username inp.now)

include h hname

lemma BanInv.issueChallenge (hclock : w.clock = inp.now) :
    (issueChallenge o w inp msg).1.BanInv := by
  unfold LoginWorld.issueChallenge
  split
  · exact h.setLimiter _
  simp only
  split_ifs
  · exact h.setLimiter _
  · refine ⟨h.logins, fun _ _ => ?_⟩
    show ¬ActivelyBanned w.shared.bans msg.username w.clock
    rw [hclock]
    exact hname

lemma BanInv.passwordLogin (hok : w.AuthenticateOK inp msg) (hpassword : msg.password ≠ "") :
    (passwordLogin o w inp msg).1.BanInv := by
  unfold LoginWorld.passwordLogin
  split
  · exact h.setLimiter _
  split
  · exact h.setLimiter _
  · exact h.setLimiter _
  · exact h.setLimiter _
  rename_i huser
  obtain ⟨row, hrow, rfl⟩ := Users.authenticateIdentifier_row huser
  -- the account is the one that was checked, or free of bans by the condition
  have hrowOK : ¬ActivelyBanned w.shared.bans row.uniqueID inp.now := by
    rcases hok.1 hpassword row hrow with heq | hfree
    · rw [heq]
      exact hname
    · exact hfree
  apply ((h.bindKey row.user msg.publicKey).setLimiter _).completeAuthForUser
  show ¬ActivelyBanned (w.bindKey inp row.user msg.publicKey).shared.bans row.uniqueID inp.now
  rw [bindKey_bans]
  exact hrowOK

lemma BanInv.routeAuthenticate (hclock : w.clock = inp.now) (hok : w.AuthenticateOK inp msg) :
    (routeAuthenticate o w inp msg).1.BanInv := by
  unfold LoginWorld.routeAuthenticate
  split_ifs with hanon hguest hempty
  · exact h.setLimiter _
  · exact h.finishAuth (hok.2 hguest.1 hguest.2.1)
  · exact h.issueChallenge hname hclock
  · exact h.passwordLogin hname hok hempty

end name

/-- The server password check touches the limiter only. -/
lemma checkServerPassword_spec (o : LoginOracles) (w : LoginWorld) (inp : LoginInput)
    (msg : Authenticate) :
    (∃ l, checkServerPassword o w inp msg = .ok (w.setLimiter l)) ∨
    ∃ l reply, checkServerPassword o w inp msg = .error (w.setLimiter l, reply) := by
  unfold checkServerPassword
  by_cases hhash : w.shared.serverPasswordHash = ""
  · rw [if_pos hhash]
    exact .inl ⟨w.shared.limiter, rfl⟩
  rw [if_neg hhash]
  simp only
  split
  · exact .inr ⟨_, _, rfl⟩
  · split_ifs
    · exact .inl ⟨_, rfl⟩
    · exact .inr ⟨_, _, rfl⟩

/-- A first frame logs in nobody who is banned. -/
theorem BanInv.handleAuthenticate (h : w.BanInv) (hclock : w.clock = inp.now)
    {payload : Except String Authenticate} (hok : FrameOK o w inp (.authenticate payload)) :
    (handleAuthenticate o w inp payload).1.BanInv := by
  unfold LoginWorld.handleAuthenticate
  cases payload with
  | error text => exact h
  | ok msg =>
    have hcap := h.captureX25519 msg.x25519PublicKey
    simp only
    split_ifs
    · exact h
    · exact hcap
    split
    · exact hcap
    rename_i hreason
    split_ifs with hbanned
    · exact hcap
    rw [not_not] at hbanned
    subst hbanned
    have hname := not_banned_of_banRejectReason hreason
    rcases checkServerPassword_spec o
      { w with client := w.client.captureX25519 msg.x25519PublicKey } inp msg with
      ⟨l, hl⟩ | ⟨l, reply, hl⟩
    · rw [hl]
      exact (hcap.setLimiter l).routeAuthenticate hname hclock hok
    · rw [hl]
      exact hcap.setLimiter l

/-- A key login is one of the checked identity, or of the account that the key is bound to. -/
lemma BanInv.resolveKey (h : w.BanInv) {l : LoginFailureLimiter} {attempt : LoginAttempt}
    {msg : AuthSignature} {uniqueID nickname : String}
    (hderived : ¬ActivelyBanned w.shared.bans uniqueID inp.now)
    (hbound : (∀ row ∈ w.shared.users.rows, row.uniqueID ≠ uniqueID) →
      ∀ row ∈ w.shared.users.rowByPublicKey msg.publicKey,
        ¬ActivelyBanned w.shared.bans row.uniqueID inp.now) :
    (resolveKey o w inp l attempt msg uniqueID nickname).1.BanInv := by
  unfold LoginWorld.resolveKey
  simp only
  split
  · exact (h.setLimiter _).completeAuth hderived
  · exact h.setLimiter _
  rename_i hnone
  split
  · rename_i huser
    obtain ⟨row, hrow, rfl⟩ := Users.lookupUserByPublicKey_row huser
    exact (h.setLimiter _).completeAuthForUser (hbound (Users.lookupUser_notFound hnone) row hrow)
  · exact h.setLimiter _
  · exact (h.setLimiter _).finishAuth hderived

/-- Nor does a key login. -/
theorem BanInv.handleGuestSignature (h : w.BanInv) {msg : AuthSignature} (hkey : msg.publicKey ≠ "")
    (hok : SignatureOK o w inp msg) : (handleGuestSignature o w inp msg).1.BanInv := by
  unfold LoginWorld.handleGuestSignature
  split
  · split <;> exact h.setLimiter _
  rename_i uniqueID huid
  split
  · exact h
  rename_i hreason
  split_ifs with hbanned
  · exact h
  rw [not_not] at hbanned
  subst hbanned
  have hderived := not_banned_of_banRejectReason hreason
  unfold verifyGuestSignature
  split
  · exact h.setLimiter _
  split
  · exact h.setLimiter _
  rename_i htake
  have hclient := h.setClient (.inl (takeChallenge_spec htake).1)
  simp only
  split_ifs
  · unfold SignatureOK at hok
    rw [if_neg hkey] at hok
    exact hclient.resolveKey hderived (hok uniqueID huid)
  · exact hclient.setLimiter _

/-- A challenge login rests on the ban check made when the challenge was issued. -/
lemma BanInv.verifySignature (h : w.BanInv) (hclock : w.clock = inp.now) {msg : AuthSignature}
    (hunnamed : msg.uniqueID = "" → ¬ActivelyBanned w.shared.bans "" inp.now) :
    (verifySignature o w inp msg).1.BanInv := by
  unfold LoginWorld.verifySignature
  split
  · exact h.setLimiter _
  split
  · exact h.setLimiter _
  rename_i htake
  obtain ⟨hcleared, hpending, huid⟩ := takeChallenge_spec htake
  have hclient := h.setClient (.inl hcleared)
  have hnot : ¬ActivelyBanned w.shared.bans msg.uniqueID inp.now := by
    by_cases hempty : msg.uniqueID = ""
    · rw [hempty]
      exact hunnamed hempty
    · have hissued := h.pending hpending (by rw [huid hempty]; exact hempty)
      rwa [huid hempty, hclock] at hissued
  simp only
  split
  · exact hclient.setLimiter _
  · exact hclient.setLimiter _
  · exact hclient.setLimiter _
  · exact (hclient.setLimiter _).completeAuth hnot

/-- Nor does the answer to a challenge. -/
theorem BanInv.handleAuthSignature (h : w.BanInv) (hclock : w.clock = inp.now)
    {payload : Except String AuthSignature} (hok : FrameOK o w inp (.authSignature payload)) :
    (handleAuthSignature o w inp payload).1.BanInv := by
  unfold LoginWorld.handleAuthSignature
  cases payload with
  | error text => exact h
  | ok msg =>
    have hcap := h.captureX25519 msg.x25519PublicKey
    simp only
    split_ifs with hauthed hbackend hkey
    · exact h
    · exact hcap
    · exact hcap.handleGuestSignature hkey hok
    · rw [not_not] at hkey
      have hsig : SignatureOK o w inp msg := hok
      unfold SignatureOK at hsig
      rw [if_pos hkey] at hsig
      exact hcap.verifySignature hclock hsig

end handlers

/-! ## Every run -/

/-- One step that meets the condition. -/
theorem BanInv.step {o : LoginOracles} {w : LoginWorld} (h : w.BanInv) {s : LoginStep}
    (hok : LoginStepOK o w s) : (w.step o s).BanInv := by
  obtain ⟨hclock, hok⟩ := hok
  cases s with
  | frame inp frame =>
    -- time only lets bans run out
    have hlater : ({ w with clock := inp.now } : LoginWorld).BanInv :=
      ⟨h.logins, fun hpending huid hban => h.pending hpending huid (hban.earlier hclock)⟩
    cases frame with
    | authenticate payload => exact hlater.handleAuthenticate rfl hok
    | authSignature payload => exact hlater.handleAuthSignature rfl hok
  | others shared now => exact ⟨h.logins, hok⟩

/-- **Bans hold under the condition.** On a new connection, whatever the tables hold and however the
rest of the server changes them, `finishAuth` is not reached for a banned identity as long as every
step meets `LoginStepOK`. -/
theorem bans_hold_throughout (o : LoginOracles) (shared : LoginShared) (ip : String) (now : Int)
    (steps : List LoginStep)
    (hok : StepsOK (step o) (LoginStepOK o) (connect shared ip now) steps) :
    Throughout (step o) BansHold (connect shared ip now) steps := by
  have hstep : ∀ (w : LoginWorld) (s : LoginStep), w.BanInv → LoginStepOK o w s →
      (w.step o s).BanInv := fun _ _ h hs => h.step hs
  have hstart : (connect shared ip now).BanInv := ⟨nofun, fun hpending => absurd rfl hpending⟩
  have hinv := throughout_of_stepsOK hstep hstart hok
  exact hinv.mono fun _ h => h.logins

/-! ## Around a ban -/

/-- Cryptography in the clear: a password is its own hash, and a challenge signs itself. -/
def plainOracles : LoginOracles where
  foldSource := id
  sha256Hex := id
  verifyPassword password hash := decide (password = hash)
  verifyServerPassword password hash := decide (password = hash)
  uniqueIDFromPublicKey key := some ("uid of " ++ key)
  verifyChallenge _ challenge signature := decide (challenge = signature)

/-- A server with one account, whose key was bound by an earlier login, and these bans. -/
def aliceServer (bans : List BanRow) : LoginShared where
  limiter := .new {}
  users :=
    { rows := [{ id := 1, uniqueID := "uid-alice", nickname := some "alice",
                 passwordHash := some "secret", publicKey := some "key" }]
      id_unique := by decide
      uniqueID_unique := by decide
      nickname_unique := by decide }
  bans := bans

/-- A permanent ban of the account. -/
def aliceBan : BanRow := { id := 1, banType := 1, value := "uid-alice" }

/-- A request at an instant. -/
def requestAt (now : Int) : LoginInput := { now := now, order := .ascending, challenge := [7] }

/-- The account logs in by its unique id with a password, and is banned afterwards. -/
theorem bans_hold_password_login :
    Throughout (step plainOracles) BansHold (connect (aliceServer []) "10.0.0.1" 1)
      [.frame (requestAt 2) (.authenticate (.ok { username := "uid-alice", password := "secret" })),
        .others (aliceServer [aliceBan]) 3] ∧
    (run (step plainOracles) (connect (aliceServer []) "10.0.0.1" 1)
      [.frame (requestAt 2) (.authenticate (.ok { username := "uid-alice", password := "secret" })),
        .others (aliceServer [aliceBan]) 3]).logins.length = 1 :=
  ⟨bans_hold_throughout plainOracles (aliceServer []) "10.0.0.1" 1 _ (by decide), by decide⟩

/-- A banned account logs in by its nickname, by the key bound to it, and by a challenge that was
issued before the ban. -/
theorem banned_account_logs_in :
    ¬Throughout (step plainOracles) BansHold
      (connect (aliceServer [aliceBan]) "10.0.0.1" 1)
      [.frame (requestAt 2) (.authenticate (.ok { username := "alice", password := "secret" }))] ∧
    ¬Throughout (step plainOracles) BansHold
      (connect (aliceServer [aliceBan]) "10.0.0.1" 1)
      [.frame (requestAt 2) (.authenticate (.ok {})),
        .frame (requestAt 3) (.authSignature (.ok { publicKey := "key", signature := [7] }))] ∧
    ¬Throughout (step plainOracles) BansHold
      (connect (aliceServer []) "10.0.0.1" 1)
      [.frame (requestAt 2) (.authenticate (.ok { username := "uid-alice" })),
        .others (aliceServer [aliceBan]) 3,
        .frame (requestAt 4)
          (.authSignature (.ok { uniqueID := "uid-alice", signature := [7] }))] := by
  refine ⟨fun h => ?_, fun h => ?_, fun h => ?_⟩
  all_goals exact absurd h.final (by decide)

end LoginWorld

end Voicx.Server
