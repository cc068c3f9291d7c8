import Voicx.Store.Tokens

/-!
# Redemptions of privilege tokens

Any number of redemptions, interleaved statement by statement, any of which may fail anywhere.

* `useTokenForIdentity_tokens`, `useTokenForIdentity_members`, `UsersOK.useTokenForIdentity_users` —
  what one redemption changes.
* `Exact` — the tables are those of the committed redemptions executed one after the other, the uses
  of a token are the redemptions that committed, and what differs belongs to them.
* **`redemptions_exact`** — this holds in every interleaving.
* **`grant_survives_sweeps_iff`** — when a membership that a token granted survives the sweeps.
-/

namespace Voicx.Store.Tokens

open Found Permissions Protocol MemberDB List System

/-! ## What one redemption changes -/

section effect

variable {db db' : MemberDB} {ok : Bool} {now userID : Int} {key uniqueID nickname : String}
  {grant : TokenGrant}

variable {r : MemberDB × Int × Bool} {u : UserRow}

section

variable (h : db.useTokenForIdentity ok now key userID uniqueID nickname = .ok (db', grant))

include h

/-- A redemption is one more use of a token that had uses left. -/
theorem useTokenForIdentity_tokens :
    ∃ token usedBy, db.tokens.lookup key = some token ∧ token.uses < token.maxUses ∧
      db'.tokens = db.tokens.insert key { token with uses := token.uses + 1, usedBy } := by
  obtain ⟨token, r, htoken, huses, hr, hgrant⟩ := useTokenForIdentity_cases h
  have htokens : r.1.tokens = db.tokens := by
    obtain heq | ⟨heq, -⟩ := redeemer_cases hr
    · rw [heq]
    · rw [heq]
      unfold MemberDB.ensureUser
      split <;> rfl
  refine ⟨token, ((accountByID r.1 r.2.1).map UserRow.uniqueID).getD "", htoken, huses, ?_⟩
  have hconsume : db'.tokens = (r.1.consumeToken key r.2.1).tokens := by
    obtain ⟨-, ⟨-, rfl⟩ | ⟨-, rfl⟩⟩ := applyGrant_cases hgrant <;> rfl
  rw [hconsume]
  simp only [consumeToken, FMap.modify, htokens, htoken]
  rfl

/-- A redemption changes no membership but the one it grants. -/
theorem useTokenForIdentity_members (k : Int × Int) (hk : k ≠ (grant.userID, grant.groupID)) :
    db'.serverMembers.lookup k = db.serverMembers.lookup k := by
  obtain ⟨token, r, -, -, hr, hgrant⟩ := useTokenForIdentity_cases h
  have hmembers : (r.1.consumeToken key r.2.1).serverMembers = db.serverMembers :=
    redeemer_serverMembers hr
  rw [← hmembers]
  obtain ⟨huser, ⟨-, rfl⟩ | ⟨hgroup, rfl⟩⟩ := applyGrant_cases hgrant
  · rfl
  rw [huser, hgroup] at hk
  unfold grantMembership
  split
  · rw [FMap.lookup_insert_ite, if_neg hk]
  · split_ifs
    · rw [FMap.lookup_insert_ite, if_neg hk]
    · rfl

end

/-- The account of a redemption is the only row of `users` that it may create or fill. -/
lemma UsersOK.redeemer_users (hdb : UsersOK db) (h : db.redeemer userID uniqueID nickname = .ok r)
    (hu : u ∈ r.1.users) : u ∈ db.users ∨ u.id = r.2.1 := by
  obtain heq | ⟨heq, hid⟩ := redeemer_cases h
  · exact .inl (heq ▸ hu)
  rw [hid]
  rw [heq] at hu
  simp only [MemberDB.fillNickname, mem_map] at hu
  obtain ⟨v, hv, rfl⟩ := hu
  unfold MemberDB.ensureUser at hv ⊢
  cases hlookup : db.lookupUser uniqueID with
  | some w =>
    simp only [hlookup] at hv ⊢
    split_ifs with hfill
    · have heq : w = v := inj_on_of_nodup_map hdb.uniqueIDs
        (hdb.lookupUser_eq_some.mp hlookup).1 hv
        ((hdb.lookupUser_eq_some.mp hlookup).2.trans hfill.1.symm)
      exact .inr (by rw [heq])
    · exact .inl hv
  | none =>
    simp only [hlookup, mem_append, mem_singleton] at hv ⊢
    rcases hv with hv | rfl
    · rw [if_neg]
      · exact .inl hv
      · rintro ⟨huid, -⟩
        rw [hdb.lookupUser_eq_some.mpr ⟨hv, huid⟩] at hlookup
        cases hlookup
    · split_ifs <;> exact .inr rfl

/-- A redemption changes no row of `users` but the redeemer's. -/
theorem UsersOK.useTokenForIdentity_users (hdb : UsersOK db)
    (h : db.useTokenForIdentity ok now key userID uniqueID nickname = .ok (db', grant))
    (hu : u ∈ db'.users) : u ∈ db.users ∨ u.id = grant.userID := by
  obtain ⟨token, r, -, -, hr, hgrant⟩ := useTokenForIdentity_cases h
  obtain ⟨huser, ⟨-, rfl⟩ | ⟨hgroup, rfl⟩⟩ := applyGrant_cases hgrant
  · simp only [grantAdmin, mem_map] at hu
    obtain ⟨v, hv, rfl⟩ := hu
    rw [huser]
    split_ifs with hid
    · exact .inr hid
    · exact hdb.redeemer_users hr hv
  · rw [huser]
    exact hdb.redeemer_users hr hu

end effect

/-! ## Interleaved redemptions -/

/-- The redemptions of a token that committed. -/
def committedUses (key : String) (log : List (ℕ × Tx)) : ℕ :=
  log.countP fun e => e.2.request.key == key

/-- The committed redemptions, in the order of their commits, account for the tables. -/
structure Exact (db₀ : MemberDB) (log : List (ℕ × Tx)) (db : MemberDB) : Prop where
  /-- the tables are those of the committed redemptions, executed one after the other -/
  serial : log.foldlM (fun db e => redeem db e.2) db₀ = some db
  uses : ∀ key token₀, db₀.tokens.lookup key = some token₀ →
    ∃ token, db.tokens.lookup key = some token ∧ token.maxUses = token₀.maxUses ∧
      token.uses = token₀.uses + committedUses key log ∧
      (token₀.uses ≤ token₀.maxUses → token.uses ≤ token.maxUses)
  /-- an account that is new, or has another nickname or admin flag -/
  accounts : ∀ u ∈ db.users, u ∈ db₀.users ∨
    ∃ e ∈ log, ∃ grant, e.2.stage = .commit grant ∧ grant.userID = u.id
  members : ∀ k, db.serverMembers.lookup k = db₀.serverMembers.lookup k ∨
    ∃ e ∈ log, ∃ grant, e.2.stage = .commit grant ∧ k = (grant.userID, grant.groupID)

section exact

variable {db₀ db db' : MemberDB} {t : Tx} {log : List (ℕ × Tx)}

/-- A redemption at once is a call of `useTokenForIdentity` with the answer of the transaction. -/
lemma redeem_eq_some (h : redeem db t = some db') :
    ∃ n grant, t.stage = .commit grant ∧
      (withNext db t.newID).useTokenForIdentity true t.now t.request.key t.request.userID
        t.request.uniqueID t.request.nickname = .ok (withNext db' n, grant) := by
  unfold redeem at h
  split at h
  · cases h
  · rename_i r hr
    split_ifs at h with hstage
    cases h
    exact ⟨r.1.nextUserID, r.2, hstage, hr⟩

/-- The use counts after one more redemption. -/
lemma Exact.uses_redeem (h : Exact db₀ log db) {i : ℕ} {token : TokenRow} {usedBy key : String}
    {token₀ : TokenRow} (htoken : db.tokens.lookup t.request.key = some token)
    (hleft : token.uses < token.maxUses) (htokens : db'.tokens =
      db.tokens.insert t.request.key { token with uses := token.uses + 1, usedBy })
    (htoken₀ : db₀.tokens.lookup key = some token₀) :
    ∃ token', db'.tokens.lookup key = some token' ∧ token'.maxUses = token₀.maxUses ∧
      token'.uses = token₀.uses + committedUses key (log ++ [(i, t)]) ∧
      (token₀.uses ≤ token₀.maxUses → token'.uses ≤ token'.maxUses) := by
  obtain ⟨old, hold, hmax, huses, hbound⟩ := h.uses key token₀ htoken₀
  rw [htokens, FMap.lookup_insert_ite]
  split_ifs with hkey
  · subst hkey
    rw [htoken] at hold
    cases hold
    refine ⟨_, rfl, hmax, ?_, fun _ => ?_⟩
    · simp only [committedUses, countP_append, countP_singleton, beq_self_eq_true,
        if_true] at huses ⊢
      push_cast
      omega
    · exact hleft
  · refine ⟨old, hold, hmax, ?_, hbound⟩
    have hne : (t.request.key == key) = false := by simpa using fun h => hkey h.symm
    simpa [committedUses, hne] using huses

/-- **One more redemption** is accounted for. -/
theorem Exact.redeem (h : Exact db₀ log db) (hdb : UsersOK db) (i : ℕ)
    (hredeem : redeem db t = some db') : Exact db₀ (log ++ [(i, t)]) db' := by
  obtain ⟨n, grant, hstage, huse⟩ := redeem_eq_some hredeem
  have hlogged : (i, t) ∈ log ++ [(i, t)] := mem_append_right _ mem_cons_self
  refine ⟨?_, fun key token₀ htoken₀ => ?_, fun u hu => ?_, fun k => ?_⟩
  · rw [foldlM_append, h.serial]
    simp [hredeem]
  · obtain ⟨token, usedBy, htoken, hleft, htokens⟩ := useTokenForIdentity_tokens huse
    exact h.uses_redeem htoken hleft htokens htoken₀
  · have hnext : UsersOK (withNext db t.newID) := ⟨hdb.ids, hdb.uniqueIDs⟩
    rcases hnext.useTokenForIdentity_users huse hu with hu | hu
    · refine (h.accounts u hu).imp_right ?_
      rintro ⟨e, he, hgrant⟩
      exact ⟨e, mem_append_left _ he, hgrant⟩
    · exact .inr ⟨(i, t), hlogged, grant, hstage, hu.symm⟩
  · by_cases hk : k = (grant.userID, grant.groupID)
    · exact .inr ⟨(i, t), hlogged, grant, hstage, hk⟩
    have hsame : db'.serverMembers.lookup k = db.serverMembers.lookup k :=
      useTokenForIdentity_members huse k hk
    rw [hsame]
    refine (h.members k).imp_right ?_
    rintro ⟨e, he, hgrant⟩
    exact ⟨e, mem_append_left _ he, hgrant⟩

/-- Transactions executed one after the other are accounted for. -/
lemma exact_of_serial (hdb₀ : UsersOK db₀) (h : redemptions.Serial db₀ log db) :
    UsersOK db ∧ Exact db₀ log db := by
  induction h with
  | nil =>
    exact ⟨hdb₀, rfl, fun _ token₀ htoken₀ => ⟨token₀, htoken₀, rfl, by simp [committedUses], id⟩,
      fun _ hu => .inl hu, fun _ => .inl rfl⟩
  | @snoc log db i t rows _ hdone halone ih =>
    obtain ⟨hdb, hexact⟩ := ih
    have hspec := hdb.spec halone
    have hredeem : Tokens.redeem db t = some (t.view db) := by
      have hfollows := hspec.follows
      simp only [redemptions] at hdone
      unfold Follows at hfollows
      split at hdone
      · rename_i hstage
        simpa only [hstage] using hfollows
      · cases hdone
    exact ⟨(hdb.foldl_put hspec.fits).1, hexact.redeem hdb i hredeem⟩

/-- **Redemption is exact.** However the statements of any number of redemptions are interleaved,
and whichever of them fail, the tables are at every moment those of the committed redemptions
executed one after the other: the uses of a token have grown by the number of its redemptions that
committed and stay within its limit, and every account, nickname, admin flag and membership that
differs is one a committed redemption granted. -/
theorem redemptions_exact (hdb₀ : UsersOK db₀) (moves : List (Move Tx Input)) :
    Throughout redemptions.step (fun s => Exact db₀ s.log s.store) (idle db₀) moves := by
  have hstep : ∀ s m, SerialInv redemptions UsersOK db₀ s →
      SerialInv redemptions UsersOK db₀ (redemptions.step s m) :=
    fun s m h => lawful_redemptions.serial_step h m
  have hserial := throughout_of_step hstep ⟨covered_idle hdb₀, .nil⟩ moves
  exact hserial.mono fun s h => (exact_of_serial hdb₀ h.serial).2

end exact

/-! ### Two redemptions of a token with one use -/

/-- User 7 and a token for group 1 with one use. -/
def oneUse : MemberDB where
  perms := PermRows.empty
  channels := fun _ => none
  serverGroups := {1}
  channelGroups := ∅
  serverMembers := ∅
  channelMembers := ∅
  users := [{ id := 7, uniqueID := "u7" }]
  tokens := (∅ : FMap String TokenRow).insert "t" { groupID := 1 }
  nextUserID := 8

/-- One statement of a call, with the next id and the time. -/
def executes (i : ℕ) (newID : Int) : Move Tx Input := .statement i { newID, now := 100 }

/-- A guest and user 7 race for the use; before them, another guest's redemption fails after its
account was written. The user waits for the guest's lock. -/
def race : List (Move Tx Input) :=
  [.start 0 { request := { key := "t", uniqueID := "lost", nickname := "l" } },
    executes 0 8, executes 0 8, executes 0 8, .rollback 0,
    .start 1 { request := { key := "t", uniqueID := "guest", nickname := "g" } },
    .start 2 { request := { key := "t", userID := 7 } },
    executes 1 9, executes 2 10, executes 1 9, executes 1 9, executes 2 10, executes 1 9,
    .commit 1, executes 2 10]

theorem redemptions_exact_race :
    UsersOK oneUse ∧
      Exact oneUse (run redemptions.step (idle oneUse) race).log
        (run redemptions.step (idle oneUse) race).store ∧
      (run redemptions.step (idle oneUse) race).log.map Prod.fst = [1] ∧
      ((run redemptions.step (idle oneUse) race).store.tokens.lookup "t").map TokenRow.uses =
        some 1 ∧
      (run redemptions.step (idle oneUse) race).store.users.map UserRow.uniqueID =
        ["u7", "guest"] := by
  have hdb : UsersOK oneUse := by decide
  exact ⟨hdb, (redemptions_exact hdb race).final, by decide +kernel, by decide +kernel,
    by decide +kernel⟩

/-! ## Sweeps after a redemption -/

/-- The table after sweeps at the given times. -/
def sweeps (db : MemberDB) (times : List Int) : MemberDB :=
  run (fun db now => (db.expiredGroupMembers now).1) db times

section sweeps

variable {db db' : MemberDB} {ok : Bool} {now userID : Int} {key uniqueID nickname : String}
  {grant : TokenGrant}

/-- A membership survives the sweeps that come before its expiry. -/
lemma lookup_sweeps (db : MemberDB) (k : Int × Int) (e : Option Int) (times : List Int) :
    (sweeps db times).serverMembers.lookup k = some e ↔
      db.serverMembers.lookup k = some e ∧ ∀ t ∈ times, expired t e = false := by
  induction times generalizing db with
  | nil => simp [sweeps]
  | cons t times ih =>
    have hcons : sweeps db (t :: times) = sweeps (db.withoutExpired t) times := rfl
    rw [hcons, ih, withoutExpired, FMap.lookup_filter_eq_some, forall_mem_cons,
      and_assoc, Bool.not_eq_true']

/-- The membership after a redemption: what was stored stays if it had not expired. -/
lemma useTokenForIdentity_member
    (h : db.useTokenForIdentity ok now key userID uniqueID nickname = .ok (db', grant))
    (hgroup : grant.groupID ≠ 0) :
    db'.serverMembers.lookup (grant.userID, grant.groupID) =
      some ((db.serverMembers.lookup (grant.userID, grant.groupID)).elim none
        fun e => if expired now e then none else e) := by
  obtain ⟨token, r, -, -, hr, hgrant⟩ := useTokenForIdentity_cases h
  have hmembers : r.1.serverMembers = db.serverMembers := redeemer_serverMembers hr
  obtain ⟨huser, ⟨hadmin, -⟩ | ⟨hmember, rfl⟩⟩ := applyGrant_cases hgrant
  · exact absurd hadmin hgroup
  rw [huser, hmember, ← hmembers]
  simp only [grantMembership, consumeToken]
  cases hstored : r.1.serverMembers.lookup (r.2.1, token.groupID) with
  | none => simp
  | some e =>
    by_cases hexpired : expired now e = true
    · simp [hexpired]
    · simp [hexpired, hstored]

/-- **When a group token grants permanently.** For every table and every redemption of a group token
that succeeds at `now`: the user is still a member after every sequence of later sweeps if and only
if the user held no membership of the group that was to expire after `now`. -/
theorem grant_survives_sweeps_iff
    (h : db.useTokenForIdentity ok now key userID uniqueID nickname = .ok (db', grant))
    (hgroup : grant.groupID ≠ 0) :
    (∀ times, (∀ t ∈ times, now ≤ t) →
        (grant.userID, grant.groupID) ∈ (sweeps db' times).serverMembers) ↔
      ¬∃ e, db.serverMembers.lookup (grant.userID, grant.groupID) = some (some e) ∧ now < e := by
  have hmember := useTokenForIdentity_member h hgroup
  constructor
  · -- the sweep at the expiry that was kept removes the membership
    rintro hsurvives ⟨e, he, hlater⟩
    have hkept : expired now (some e) = false := by simpa [expired] using hlater
    rw [he, Option.elim_some, hkept] at hmember
    have hmem := hsurvives [e] (forall_mem_singleton.mpr hlater.le)
    obtain ⟨e', he'⟩ := Finmap.mem_iff.mp hmem
    obtain ⟨hstored, hvalid⟩ := (lookup_sweeps db' _ e' [e]).mp he'
    rw [hmember] at hstored
    cases hstored
    have := hvalid e mem_cons_self
    simp [expired] at this
  · intro hnone times _
    have hpermanent : db'.serverMembers.lookup (grant.userID, grant.groupID) = some none := by
      rw [hmember]
      cases hstored : db.serverMembers.lookup (grant.userID, grant.groupID) with
      | none => rfl
      | some e =>
        cases e with
        | none => rfl
        | some e =>
          have hexpired : expired now (some e) = true := by
            by_contra hvalid
            exact hnone ⟨e, hstored, by simpa [expired] using hvalid⟩
          simp [hexpired]
    refine Finmap.mem_of_lookup_eq_some ((lookup_sweeps db' _ none times).mpr ⟨hpermanent, ?_⟩)
    intro t _
    rfl

end sweeps

/-! ### A timed membership at the redemption -/

/-- User 7 holds a membership of group 1 until time 200. -/
def timedOneUse : MemberDB :=
  oneUse.withServerMembers ((∅ : FMap (Int × Int) (Option Int)).insert (7, 1) (some 200))

/-- The redemption of user 7 at a time. -/
def redeemAt (db : MemberDB) (now : Int) : Except TokenError (MemberDB × TokenGrant) :=
  db.useTokenForIdentity true now "t" 7 "" ""

/-- The membership of user 7 expired at 200. Redeemed at 300, the token makes it permanent. -/
theorem grant_survives_sweeps_expired :
    ∃ db', redeemAt timedOneUse 300 = .ok (db', { userID := 7, groupID := 1 }) ∧
      ∀ times, (∀ t ∈ times, 300 ≤ t) → ((7, 1) : Int × Int) ∈ (sweeps db' times).serverMembers := by
  have hgrant : (redeemAt timedOneUse 300).toOption.map Prod.snd =
      some { userID := 7, groupID := 1 } := by decide +kernel
  have hexpired : timedOneUse.serverMembers.lookup (7, 1) = some (some 200) := by decide +kernel
  cases h : redeemAt timedOneUse 300 with
  | error e => simp [h, Except.toOption] at hgrant
  | ok r =>
    rw [h] at hgrant
    have hr : r.2 = { userID := 7, groupID := 1 } := Option.some.inj hgrant
    have hredeem : timedOneUse.useTokenForIdentity true 300 "t" 7 "" "" =
        .ok (r.1, { userID := 7, groupID := 1 }) := by rw [← hr]; exact h
    refine ⟨r.1, by rw [← hr], ?_⟩
    refine (grant_survives_sweeps_iff hredeem (by decide)).mpr ?_
    rintro ⟨e, he, hlater⟩
    cases he
    exact absurd hlater (by decide)

/-- Redeemed at 100, while the membership lasts, the token is used up and the membership still ends
at 200. -/
theorem grant_lost_to_sweep :
    (redeemAt timedOneUse 100).toOption.map (fun r => (r.2,
        (r.1.tokens.lookup "t").map TokenRow.uses,
        decide (((7, 1) : Int × Int) ∈ (sweeps r.1 [200]).serverMembers))) =
      some ({ userID := 7, groupID := 1 }, some 1, false) := by
  decide +kernel

end Voicx.Store.Tokens
