import Voicx.E2EE.Ratchet

/-!
# Two ratchets in a session

Both sides start from the secret of one X3DH agreement and apply the same sequence of ratchet
secrets, each at its own pace. Messages are delivered in any order, several times or never.

* `Session` — the two ratchets, and what happened: the messages sent in each step and the positions
  that were decrypted. Steps and messages are counted without a bound here, in 32 bits in the
  ratchets.
* `keyAt`, `keyAt_injective` — the key at a position of the session; with an ideal HKDF no two
  positions share one.
* `ChainOf` — a receiving chain, as the abstract history describes it: its chain key and number are
  those of the first position after all that were decrypted, and it stores the keys of exactly the
  positions before that were not.
* `Inv`, `Inv.step` — every receiving chain is such a chain, of the current step, the previous one
  or a step that shares its number with one of them.
* `session_decrypts` — **a message that was not decrypted before decrypts to what was sent, if the
  receiver is at its step or the next and the budget suffices, and never decrypts again**. It holds
  of sessions with fewer than `2 ^ 32` messages in a step, and of every step but those whose number
  is the greatest in 32 bits: `RatchetStep` discards the chain of such a step as it creates it,
  since `step+1` is 0 there.
-/

namespace Voicx.E2EE

open Found Ratchet Function List FMap Finset Nat UInt32

variable {K B C : Type}

/-! ## Positions and keys -/

/-- A message's place in the session: who sent it, in which step, after how many others. -/
structure Position where
  sender : Bool
  step : ℕ
  index : ℕ
  deriving DecidableEq, Repr

section keys

variable (c : Primitives K B C) (secret : K) (dh : ℕ → K)

/-- The root after a number of steps. -/
def rootAt : ℕ → K
  | 0 => c.hkdf [secret] none "voicx:double-ratchet:root" 32
  | k + 1 => c.hkdf [dh k] (some (rootAt k)) "voicx:double-ratchet:step" 32

/-- The chain on which a side sends in a step. -/
def chainAt (sender : Bool) (step : ℕ) : K := firstChain c (rootAt c secret dh step) sender

/-- The key of the message at a position. -/
def keyAt (p : Position) : K := messageKey c (chainAt c secret dh p.sender p.step) p.index

variable {c}

lemma rootAt_injective (hc : c.Ideal) : Function.Injective (rootAt c secret dh) := by
  intro k
  induction k with
  | zero =>
    intro k' h
    cases k' with
    | zero => rfl
    | succ k' =>
      have hinfo := (hc.hkdf_injective _ _ _ _ _ _ _ _ h).2.2
      exact absurd hinfo (by decide)
  | succ k ih =>
    intro k' h
    cases k' with
    | zero =>
      have hinfo := (hc.hkdf_injective _ _ _ _ _ _ _ _ h).2.2
      exact absurd hinfo (by decide)
    | succ k' =>
      have hsalt := (hc.hkdf_injective _ _ _ _ _ _ _ _ h).2.1
      rw [ih (Option.some_injective _ hsalt)]

/-- Chains under two roots meet only where they are the same chain. -/
lemma chainAfter_firstChain_injective (hc : c.Ideal) {root root' : K} {p p' : Bool} {n n' : ℕ}
    (h : chainAfter c (firstChain c root p) n = chainAfter c (firstChain c root' p') n') :
    root = root' ∧ p = p' ∧ n = n' := by
  induction n generalizing n' with
  | zero =>
    cases n' with
    | zero =>
      -- the labels tell the two directions apart
      cases p <;> cases p' <;> simpa using hc.hkdf_injective _ _ _ _ _ _ _ _ h
    | succ n' => cases p <;> simpa using (hc.hkdf_injective _ _ _ _ _ _ _ _ h).2.2
  | succ n ih =>
    cases n' with
    | zero => cases p' <;> simpa using (hc.hkdf_injective _ _ _ _ _ _ _ _ h).2.2
    | succ n' =>
      have hparts := (hc.hkdf_injective _ _ _ _ _ _ _ _ h).1
      obtain ⟨hroot, hp, hn⟩ := ih (List.cons.inj hparts).1
      exact ⟨hroot, hp, congrArg (· + 1) hn⟩

/-- No two positions share a key. -/
theorem keyAt_injective (hc : c.Ideal) : Function.Injective (keyAt c secret dh) := by
  intro p p' h
  have hparts := (hc.hkdf_injective _ _ _ _ _ _ _ _ h).1
  obtain ⟨hroot, hsender, hindex⟩ :=
    chainAfter_firstChain_injective hc (List.cons.inj hparts).1
  have hstep := rootAt_injective secret dh hc hroot
  cases p
  cases p'
  cases hsender
  cases hstep
  cases hindex
  rfl

end keys

/-! ## Histories -/

/-- The first index of a step after all that were decrypted. -/
def nextIndex (decrypted : Finset Position) (sender : Bool) (step : ℕ) : ℕ :=
  decrypted.sup fun p => if p.sender = sender ∧ p.step = step then p.index + 1 else 0

section nextIndex

variable {decrypted : Finset Position} {sender : Bool} {step index : ℕ}

lemma lt_nextIndex (h : ⟨sender, step, index⟩ ∈ decrypted) :
    index < nextIndex decrypted sender step := by
  have hle := le_sup (f := fun p : Position =>
    if p.sender = sender ∧ p.step = step then p.index + 1 else 0) h
  rw [if_pos ⟨rfl, rfl⟩] at hle
  exact hle

lemma nextIndex_le {n : ℕ} (h : ∀ index, ⟨sender, step, index⟩ ∈ decrypted → index < n) :
    nextIndex decrypted sender step ≤ n := by
  apply Finset.sup_le
  intro p hp
  split_ifs with heq
  · obtain ⟨rfl, rfl⟩ := heq
    exact h p.index hp
  · exact zero_le n

lemma nextIndex_insert_self (p : Position) :
    nextIndex (insert p decrypted) p.sender p.step =
      max (p.index + 1) (nextIndex decrypted p.sender p.step) := by
  rw [nextIndex, sup_insert, if_pos ⟨rfl, rfl⟩, nextIndex]

end nextIndex

/-! ## The session -/

/-- A message with what it was made from. -/
structure Sent (B C : Type) where
  plain : B
  aad : B
  message : Message C

/-- Two ratchets and their history. The side `true` is the initiator. -/
structure Session (K B C : Type) where
  ratchet : Bool → Ratchet K
  /-- how many ratchet secrets a side has applied -/
  steps : Bool → ℕ
  /-- the messages a side sent in a step -/
  sent : Bool → ℕ → List (Sent B C)
  /-- the positions whose message was delivered and decrypted -/
  decrypted : Finset Position

/-- What can happen in a session. -/
inductive Action (B : Type)
  | encrypt (side : Bool) (nonce : Option B) (plain aad : B)
  /-- the side applies the next ratchet secret -/
  | ratchetStep (side : Bool)
  /-- a message that was sent reaches the other side, for the first time or again -/
  | deliver (p : Position)

variable (c : Primitives K B C) (dh : ℕ → K)

/-- A session before its first message. -/
def Session.start (secret : K) : Session K B C where
  ratchet := newRatchet c secret
  steps _ := 0
  sent _ _ := []
  decrypted := ∅

variable (s : Session K B C)

/-- The message at a position, if one was sent there. -/
def Session.sentAt (p : Position) : Option (Sent B C) :=
  (s.sent p.sender p.step)[p.index]?

/-- The ratchet that receives what a side sends. -/
def Session.receiver (p : Position) : Ratchet K := s.ratchet !p.sender

/-- One event. -/
def Session.act : Action B → Session K B C
  | .encrypt side nonce plain aad =>
    match (s.ratchet side).encrypt c nonce plain aad with
    | (none, r) => { s with ratchet := update s.ratchet side r }
    | (some message, r) =>
      { s with
        ratchet := update s.ratchet side r
        sent := update s.sent side (update (s.sent side) (s.steps side)
          (s.sent side (s.steps side) ++ [⟨plain, aad, message⟩])) }
  | .ratchetStep side =>
    { s with
      ratchet := update s.ratchet side
        ((s.ratchet side).ratchetStep c (dh (s.steps side)))
      steps := update s.steps side (s.steps side + 1) }
  | .deliver p =>
    match s.sentAt p with
    | none => s
    | some m =>
      let d := (s.receiver p).decrypt c m.message m.aad
      { s with
        ratchet := update s.ratchet (!p.sender) d.ratchet
        decrypted :=
          match d.plain with
          | .ok _ => insert p s.decrypted
          | .error _ => s.decrypted }

/-- The stored keys and those the message at `p` would add fit into the budget. -/
def Session.WithinBudget (p : Position) : Prop :=
  (s.receiver p).skippedCount + (p.index - nextIndex s.decrypted p.sender p.step) ≤ maxSkippedKeys

/-- Fewer than `2 ^ 32` messages were sent in each step. -/
def Session.FewMessages : Prop :=
  ∀ side step, (s.sent side step).length < 2 ^ 32

open Session

/-! ## Receiving chains and the history -/

/-- The greatest step number in 32 bits. -/
def lastStep : UInt32 := 4294967295

lemma ofNat_succ (n : ℕ) : UInt32.ofNat (n + 1) = UInt32.ofNat n + 1 := by
  rw [ofNat_add]
  rfl

/-- A step number plus one is below it exactly at the greatest one. -/
lemma add_one_lt_self_iff (u : UInt32) : u + 1 < u ↔ u = lastStep := by
  have hlt := u.toNat_lt
  have hone : (u + 1).toNat = (u.toNat + 1) % 2 ^ 32 := UInt32.toNat_add u 1
  rw [lt_iff_toNat_lt]
  constructor
  · intro h
    apply UInt32.toNat_inj.mp
    show u.toNat = 4294967295
    omega
  · rintro rfl
    decide

variable (secret : K)

/-- The message at a position was sealed with the position's key, under the position's numbers. -/
def SealedAt (p : Position) (m : Sent B C) : Prop :=
  ∃ nonce, m.message = ⟨UInt32.ofNat p.step, UInt32.ofNat p.index,
    c.sealAES (keyAt c secret dh p) nonce m.plain
      ⟨UInt32.ofNat p.step, UInt32.ofNat p.index, m.aad⟩⟩

/-- A receiving chain is the one of a step: it stands at the first position after all that were
decrypted, and stores the keys of exactly the positions before that were not. -/
structure ChainOf (decrypted : Finset Position) (sender : Bool) (step : ℕ)
    (state : ReceiveChain K) : Prop where
  chain : state.chain =
    chainAfter c (chainAt c secret dh sender step) (nextIndex decrypted sender step)
  number : state.number.toNat = nextIndex decrypted sender step
  skipped : ∀ k, state.skipped.lookup k =
    if k.toNat < nextIndex decrypted sender step ∧ ⟨sender, step, k.toNat⟩ ∉ decrypted then
      some (keyAt c secret dh ⟨sender, step, k.toNat⟩)
    else none

variable {c dh secret} {decrypted : Finset Position} {state : ReceiveChain K} {sender : Bool}
  {step : ℕ}

/-- A decryption in one step says nothing about the chain of another. -/
lemma ChainOf.insert_of_ne (h : ChainOf c dh secret decrypted sender step state) {p : Position}
    (hp : ¬(p.sender = sender ∧ p.step = step)) :
    ChainOf c dh secret (insert p decrypted) sender step state := by
  have hnext : nextIndex (insert p decrypted) sender step = nextIndex decrypted sender step := by
    rw [nextIndex, sup_insert, if_neg hp]
    exact zero_max _
  refine ⟨by rw [hnext]; exact h.chain, by rw [hnext]; exact h.number, fun k => ?_⟩
  have hne : (⟨sender, step, k.toNat⟩ : Position) ≠ p := by
    rintro rfl
    exact hp ⟨rfl, rfl⟩
  rw [h.skipped k, hnext]
  simp [hne]

/-- The key that a chain tries for a number it has not reached. -/
lemma ChainOf.messageKey_eq (h : ChainOf c dh secret decrypted sender step state)
    {number : UInt32} (hle : state.number ≤ number) :
    messageKey c state.chain (number.toNat - state.number.toNat) =
      keyAt c secret dh ⟨sender, step, number.toNat⟩ := by
  have hnat := le_iff_toNat_le.mp hle
  rw [h.chain, messageKey_chainAfter, ← h.number, Nat.add_sub_cancel' hnat, keyAt]

section accept

variable {r : Ratchet K} {p : Position} {m : Sent B C} {aad plain : B} {step : ℕ}

lemma SealedAt.ratchetStep_eq (hm : SealedAt c dh secret p m) :
    m.message.ratchetStep = UInt32.ofNat p.step := by
  obtain ⟨nonce, hmessage⟩ := hm
  rw [hmessage]

lemma SealedAt.number_eq (hm : SealedAt c dh secret p m) (hindex : p.index + 1 < 2 ^ 32) :
    m.message.number.toNat = p.index := by
  obtain ⟨nonce, hmessage⟩ := hm
  rw [hmessage, toNat_ofNat', mod_eq_of_lt (by omega)]

/-- A key of the session that opens the message of a position is the key of that position. -/
lemma SealedAt.eq_of_open (hc : c.Ideal) (hm : SealedAt c dh secret p m)
    (hindex : p.index + 1 < 2 ^ 32) {fullAAD : MessageAAD B}
    (hopen : c.openAES (keyAt c secret dh ⟨p.sender, step, m.message.number.toNat⟩)
      m.message.ciphertext fullAAD = some plain) :
    step = p.step ∧ m.message.number.toNat = p.index := by
  refine ⟨?_, hm.number_eq hindex⟩
  obtain ⟨nonce, hmessage⟩ := hm
  rw [hmessage] at hopen
  have hkey := keyAt_injective secret dh hc (hc.key_of_openAES _ _ _ _ _ _ _ hopen)
  exact congrArg Position.step hkey

/-- A chain after the message of one of its stored keys. -/
lemma ChainOf.erase (h : ChainOf c dh secret decrypted p.sender p.step state) {k : UInt32}
    (hk : k.toNat = p.index) (hlt : k < state.number) :
    ChainOf c dh secret (insert p decrypted) p.sender p.step
      { state with skipped := state.skipped.erase k } := by
  have hnat := lt_iff_toNat_lt.mp hlt
  have hnext : nextIndex (insert p decrypted) p.sender p.step =
      nextIndex decrypted p.sender p.step := by
    rw [nextIndex_insert_self]
    rw [h.number] at hnat
    omega
  refine ⟨by rw [hnext]; exact h.chain, by rw [hnext]; exact h.number, fun k' => ?_⟩
  rw [lookup_erase_ite, h.skipped k', hnext]
  by_cases heq : k' = k
  · subst heq
    rw [if_pos rfl, if_neg]
    rw [hk]
    exact fun hnot => hnot.2 (mem_insert_self p decrypted)
  · have hne : (⟨p.sender, p.step, k'.toNat⟩ : Position) ≠ p := by
      intro hp
      apply heq
      apply UInt32.toNat_inj.mp
      rw [hk, ← congrArg Position.index hp]
    rw [if_neg heq]
    simp [hne]

/-- A chain after a message at or ahead of it. -/
lemma ChainOf.advance (h : ChainOf c dh secret decrypted p.sender p.step state)
    {message : Message C} (hk : message.number.toNat = p.index) (hindex : p.index + 1 < 2 ^ 32)
    (hle : state.number ≤ message.number) :
    ChainOf c dh secret (insert p decrypted) p.sender p.step (caughtUp c message state) := by
  have hnat := le_iff_toNat_le.mp hle
  have hnumber := h.number
  have hnext : nextIndex (insert p decrypted) p.sender p.step = p.index + 1 := by
    rw [nextIndex_insert_self]
    omega
  have hahead : ahead message state = p.index - state.number.toNat := by rw [ahead, hk]
  refine ⟨?_, ?_, fun k => ?_⟩
  · have hsum : nextIndex decrypted p.sender p.step + (ahead message state + 1) =
        p.index + 1 := by omega
    rw [hnext, caughtUp, h.chain, chainAfter_add, hsum]
  · rw [hnext, UInt32.toNat_add, UInt32.toNat_one, hk, mod_eq_of_lt hindex]
  -- a key is among the staged ones, or it was stored before, or it is the message's own
  have hpending := (reached_staged (c := c) hle).pending k
  rw [hnext, lookup_union, hpending, h.skipped k, Finmap.lookup_empty]
  have hmem : (⟨p.sender, p.step, k.toNat⟩ : Position) ∈ insert p decrypted ↔
      k.toNat = p.index ∨ ⟨p.sender, p.step, k.toNat⟩ ∈ decrypted := by
    rw [mem_insert, Position.mk.injEq]
    simp
  simp only [hmem]
  by_cases hlow : k.toNat < nextIndex decrypted p.sender p.step
  · rw [if_neg (by omega)]
    have hne : k.toNat ≠ p.index := by omega
    have hlt : k.toNat < p.index + 1 := by omega
    simp [hlow, hlt, hne]
  have hnot : (⟨p.sender, p.step, k.toNat⟩ : Position) ∉ decrypted := fun hin =>
    hlow (lt_nextIndex hin)
  have hstored : ¬(k.toNat < nextIndex decrypted p.sender p.step ∧
      (⟨p.sender, p.step, k.toNat⟩ : Position) ∉ decrypted) := fun hand => hlow hand.1
  rw [if_neg hstored, Option.or_none]
  by_cases hin : k.toNat < p.index
  · have hne : k.toNat ≠ p.index := by omega
    have hsum : nextIndex decrypted p.sender p.step + (k.toNat - state.number.toNat) =
        k.toNat := by omega
    rw [if_pos (by omega), if_pos ⟨by omega, by simp [hne, hnot]⟩, h.chain,
      messageKey_chainAfter, hsum, keyAt]
  · rw [if_neg (by omega), if_neg]
    rintro ⟨hlt, hne⟩
    exact hne (.inl (by omega))

/-- **What an accepted message says.** It was accepted on the chain of its own step, for the first
time, and the chain after it is the one the longer history describes. -/
theorem ChainOf.accept (hc : c.Ideal) (hm : SealedAt c dh secret p m)
    (hindex : p.index + 1 < 2 ^ 32) (hstate : r.receive.lookup (UInt32.ofNat p.step) = some state)
    (h : ChainOf c dh secret decrypted p.sender step state)
    (hok : (r.decrypt c m.message aad).plain = .ok plain) :
    step = p.step ∧ p ∉ decrypted ∧
      ∃ state', (r.decrypt c m.message aad).ratchet =
          r.setChain (UInt32.ofNat p.step) state' ∧
        ChainOf c dh secret (insert p decrypted) p.sender p.step state' := by
  have hstep := hm.ratchetStep_eq
  rw [← hstep] at hstate
  obtain ⟨e, n, -, heq⟩ | ⟨state₀, key, plain₀, hstate₀, hlt, hkey, hopen, heq⟩ |
      ⟨state₀, plain₀, hstate₀, hle, -, hopen, heq⟩ :=
    decrypt_cases r m.message aad
  · rw [heq] at hok
    cases hok
  · -- a stored key: its position is below the chain and was not decrypted
    cases hstate.symm.trans hstate₀
    rw [h.skipped] at hkey
    split_ifs at hkey with hin
    cases hkey
    obtain ⟨rfl, hnumber⟩ := hm.eq_of_open hc hindex hopen
    rw [hnumber] at hin
    refine ⟨rfl, hin.2, _, ?_, h.erase hnumber hlt⟩
    rw [heq, hstep]
  · -- a key further along the chain: its position is above all that were decrypted
    cases hstate.symm.trans hstate₀
    rw [h.messageKey_eq hle] at hopen
    obtain ⟨rfl, hnumber⟩ := hm.eq_of_open hc hindex hopen
    refine ⟨rfl, fun hin => ?_, _, ?_, h.advance hnumber hindex hle⟩
    · have hlt := lt_nextIndex hin
      have hnat := le_iff_toNat_le.mp hle
      rw [h.number] at hnat
      omega
    · rw [heq, hstep]

end accept

/-! ## The invariant -/

section invariant

variable (c dh secret)

/-- What a side knows of its peer: the chains of its own step and the one before, unless their
number is the greatest one, and no chain that is not the chain of some step. -/
structure RecvInv (decrypted : Finset Position) (sender : Bool) (steps : ℕ)
    (receive : FMap UInt32 (ReceiveChain K)) : Prop where
  window : ∀ j, j = steps ∨ j + 1 = steps → UInt32.ofNat j ≠ lastStep →
    ∃ state, receive.lookup (UInt32.ofNat j) = some state ∧
      ChainOf c dh secret decrypted sender j state
  known : ∀ u state, receive.lookup u = some state →
    ∃ j ≤ steps, u = UInt32.ofNat j ∧ ChainOf c dh secret decrypted sender j state
  last : receive.lookup lastStep = none

/-- What a side sends from. -/
structure SendInv (r : Ratchet K) (side : Bool) (steps sent : ℕ) : Prop where
  initiator : r.initiator = side
  root : r.root = rootAt c secret dh steps
  sendStep : r.sendStep = UInt32.ofNat steps
  recvStep : r.recvStep = UInt32.ofNat steps
  sendN : r.sendN = UInt32.ofNat sent
  sendChain : r.sendChain = chainAfter c (chainAt c secret dh side steps) sent

variable {c dh secret} {sender side : Bool} {steps sent : ℕ}
  {receive : FMap UInt32 (ReceiveChain K)} {r : Ratchet K} {p : Position}

section

variable (h : SendInv c dh secret r side steps sent)

include h

/-- What a side sends from after a step. -/
lemma SendInv.ratchetStep :
    SendInv c dh secret (r.ratchetStep c (dh steps)) side (steps + 1) 0 := by
  have hroot : (r.ratchetStep c (dh steps)).root = rootAt c secret dh (steps + 1) := by
    simp [Ratchet.ratchetStep, h.root, rootAt]
  refine ⟨h.initiator, hroot, ?_, ?_, rfl, ?_⟩
  · rw [ofNat_succ, ← h.sendStep]
    rfl
  · rw [ofNat_succ, ← h.recvStep]
    rfl
  · rw [chainAt, ← hroot]
    obtain rfl := h.initiator
    rfl

/-- The chains a side receives on after a step. -/
lemma SendInv.receive_ratchetStep :
    (r.ratchetStep c (dh steps)).receive =
      FMap.filter (r.receive.insert (UInt32.ofNat (steps + 1))
        ⟨chainAt c secret dh (!side) (steps + 1), 0, ∅⟩)
        fun step _ => !decide (step + 1 < UInt32.ofNat (steps + 1)) := by
  have hstep := h.ratchetStep
  rw [Ratchet.receive_ratchetStep, Ratchet.freshChain, hstep.root, h.initiator, h.recvStep,
    ← ofNat_succ, chainAt]

/-- What a side sends is sealed at the next position of its step. -/
lemma SendInv.sealedAt (nonce plain aad : B) :
    SealedAt c dh secret ⟨side, steps, sent⟩ ⟨plain, aad, ⟨r.sendStep, r.sendN,
      c.sealAES (chainStep c r.sendChain).2 nonce plain ⟨r.sendStep, r.sendN, aad⟩⟩⟩ := by
  refine ⟨nonce, ?_⟩
  rw [h.sendStep, h.sendN, h.sendChain]
  rfl

/-- What a side sends from after a message. -/
lemma SendInv.encrypt :
    SendInv c dh secret
      { r with sendChain := (chainStep c r.sendChain).1, sendN := r.sendN + 1 } side steps
      (sent + 1) := by
  refine ⟨h.initiator, h.root, h.sendStep, h.recvStep, ?_, ?_⟩
  · rw [ofNat_succ, ← h.sendN]
  · rw [h.sendChain, chainAfter]

end

/-- A decryption on the other side says nothing about this side's chains. -/
lemma RecvInv.insert_of_ne (h : RecvInv c dh secret decrypted sender steps receive)
    (hp : p.sender ≠ sender) : RecvInv c dh secret (insert p decrypted) sender steps receive where
  window j hj hlast := by
    obtain ⟨state, hstate, hchain⟩ := h.window j hj hlast
    exact ⟨state, hstate, hchain.insert_of_ne fun hand => hp hand.1⟩
  known u state hstate := by
    obtain ⟨j, hj, hu, hchain⟩ := h.known u state hstate
    exact ⟨j, hj, hu, hchain.insert_of_ne fun hand => hp hand.1⟩
  last := h.last

/-- The chains after one of them was replaced by the chain of a longer history. -/
theorem RecvInv.replace (h : RecvInv c dh secret decrypted p.sender steps receive)
    (hstep : p.step ≤ steps) {state' : ReceiveChain K}
    (hstate : receive.lookup (UInt32.ofNat p.step) = some state)
    (honly : ∀ j, ChainOf c dh secret decrypted p.sender j state → j = p.step)
    (hchain : ChainOf c dh secret (insert p decrypted) p.sender p.step state') :
    RecvInv c dh secret (insert p decrypted) p.sender steps
      (receive.insert (UInt32.ofNat p.step) state') where
  window j hj hlast := by
    obtain ⟨stateⱼ, hstateⱼ, hchainⱼ⟩ := h.window j hj hlast
    rw [lookup_insert_ite]
    by_cases hu : UInt32.ofNat j = UInt32.ofNat p.step
    · rw [hu, hstate] at hstateⱼ
      cases hstateⱼ
      rw [if_pos hu, honly j hchainⱼ]
      exact ⟨state', rfl, hchain⟩
    · rw [if_neg hu]
      refine ⟨stateⱼ, hstateⱼ, hchainⱼ.insert_of_ne fun hand => hu ?_⟩
      rw [hand.2]
  known u stateᵤ hstateᵤ := by
    rcases lookup_insert_eq_some.mp hstateᵤ with ⟨hu, rfl⟩ | ⟨hu, hold⟩
    · exact ⟨p.step, hstep, hu, hchain⟩
    · obtain ⟨j, hj, rfl, hchainⱼ⟩ := h.known u stateᵤ hold
      refine ⟨j, hj, rfl, hchainⱼ.insert_of_ne fun hand => hu ?_⟩
      rw [hand.2]
  last := by
    have hne : lastStep ≠ UInt32.ofNat p.step := by
      intro heq
      rw [← heq, h.last] at hstate
      cases hstate
    rw [lookup_insert_ite, if_neg hne]
    exact h.last

/-- The chain that a step opens, before anything of the step was decrypted. -/
theorem ChainOf.fresh (hnone : ∀ index, ⟨sender, steps, index⟩ ∉ decrypted) :
    ChainOf c dh secret decrypted sender steps ⟨chainAt c secret dh sender steps, 0, ∅⟩ := by
  have hnext : nextIndex decrypted sender steps = 0 :=
    le_zero.mp (nextIndex_le fun index hin => absurd hin (hnone index))
  refine ⟨by rw [hnext]; rfl, by rw [hnext]; rfl, fun k => ?_⟩
  rw [if_neg (by omega)]
  exact Finmap.lookup_empty k

/-- The chains after a step: one more, and those of steps before the previous one are gone. -/
lemma RecvInv.ratchetStep (h : RecvInv c dh secret decrypted sender steps receive)
    (hnone : ∀ index, ⟨sender, steps + 1, index⟩ ∉ decrypted) :
    RecvInv c dh secret decrypted sender (steps + 1)
      (FMap.filter (receive.insert (UInt32.ofNat (steps + 1))
        ⟨chainAt c secret dh sender (steps + 1), 0, ∅⟩)
        fun step _ => !decide (step + 1 < UInt32.ofNat (steps + 1))) where
  window j hj hlast := by
    rcases hj with rfl | hj
    · -- the new chain stays unless `step+1` overflows
      have hkeep : ¬UInt32.ofNat (steps + 1) + 1 < UInt32.ofNat (steps + 1) := by
        rw [add_one_lt_self_iff]
        exact hlast
      refine ⟨_, lookup_filter_eq_some.mpr ⟨Finmap.lookup_insert _, ?_⟩, .fresh hnone⟩
      simpa using hkeep
    · obtain rfl : j = steps := by omega
      obtain ⟨state, hstate, hchain⟩ := h.window j (.inl rfl) hlast
      have hne : UInt32.ofNat j ≠ UInt32.ofNat (j + 1) := by
        rw [Ne, ← UInt32.toNat_inj, UInt32.toNat_ofNat', UInt32.toNat_ofNat']
        omega
      refine ⟨state, lookup_filter_eq_some.mpr ⟨?_, ?_⟩, hchain⟩
      · rw [lookup_insert_ite, if_neg hne]
        exact hstate
      · simp
  known u state hstate := by
    obtain ⟨hin, -⟩ := lookup_filter_eq_some.mp hstate
    rcases lookup_insert_eq_some.mp hin with ⟨hu, rfl⟩ | ⟨-, hold⟩
    · exact ⟨steps + 1, le_refl _, hu, .fresh hnone⟩
    · obtain ⟨j, hj, hju, hchain⟩ := h.known u state hold
      exact ⟨j, by omega, hju, hchain⟩
  last := by
    rw [lookup_filter, lookup_insert_ite]
    by_cases hu : lastStep = UInt32.ofNat (steps + 1)
    · -- this is where the new chain itself is discarded
      rw [← hu]
      rfl
    · rw [if_neg hu, h.last]
      rfl

variable (c dh secret) in
/-- The session is the one its history describes. -/
structure Session.Inv (s : Session K B C) : Prop where
  send : ∀ side, SendInv c dh secret (s.ratchet side) side (s.steps side)
    (s.sent side (s.steps side)).length
  recv : ∀ side, RecvInv c dh secret s.decrypted (!side) (s.steps side) (s.ratchet side).receive
  sealedAt : ∀ p m, s.sentAt p = some m → SealedAt c dh secret p m
  unsent : ∀ side step, s.steps side < step → s.sent side step = []
  decrypted : ∀ p ∈ s.decrypted, p.step ≤ s.steps !p.sender

namespace Session

lemma inv_start : (start c secret).Inv c dh secret where
  send side := by
    refine ⟨rfl, rfl, rfl, rfl, rfl, ?_⟩
    cases side <;> rfl
  recv side := by
    have hfresh : ChainOf c dh secret ∅ (!side) 0 ⟨chainAt c secret dh (!side) 0, 0, ∅⟩ :=
      .fresh fun index => notMem_empty _
    refine ⟨fun j hj hlast => ?_, fun u state hstate => ?_, ?_⟩
    · obtain rfl : j = 0 := by
        simp only [start] at hj
        omega
      exact ⟨_, Finmap.lookup_insert _, hfresh⟩
    · rcases lookup_insert_eq_some.mp hstate with ⟨hu, rfl⟩ | ⟨-, hold⟩
      · exact ⟨0, le_refl _, hu, hfresh⟩
      · simp at hold
    · simp only [start, newRatchet, lookup_insert_ite]
      exact Finmap.lookup_empty _
  sealedAt p m hm := by simp [sentAt, start] at hm
  unsent _ _ _ := rfl
  decrypted p hp := absurd hp (notMem_empty p)

variable {s : Session K B C}

/-- The messages after one more was sent. -/
lemma sentAt_append (s : Session K B C) (r : Bool → Ratchet K) (side : Bool) (m : Sent B C)
    (p : Position) :
    ({ s with
        ratchet := r
        sent := update s.sent side (update (s.sent side) (s.steps side)
          (s.sent side (s.steps side) ++ [m])) } : Session K B C).sentAt p =
      if p = ⟨side, s.steps side, (s.sent side (s.steps side)).length⟩ then some m
      else s.sentAt p := by
  obtain ⟨sender, step, index⟩ := p
  simp only [sentAt, Position.mk.injEq]
  by_cases hs : sender = side
  · subst hs
    by_cases hstep : step = s.steps sender
    · subst hstep
      rw [update_self, update_self, List.getElem?_append]
      by_cases hlt : index < (s.sent sender (s.steps sender)).length
      · rw [if_pos hlt, if_neg (by omega)]
      · rw [if_neg hlt]
        by_cases heq : index = (s.sent sender (s.steps sender)).length
        · simp [heq]
        · rw [if_neg (by simp [heq]), List.getElem?_eq_none (by simp; omega),
            List.getElem?_eq_none (by omega)]
    · rw [update_self, update_of_ne hstep, if_neg (by simp [hstep])]
  · rw [update_of_ne hs, if_neg (by simp [hs])]

/-- Sending keeps the invariant: the new message is sealed at the position it takes. -/
lemma Inv.encrypt (h : s.Inv c dh secret) (side : Bool) (nonce : Option B) (plain aad : B) :
    (s.act c dh (.encrypt side nonce plain aad)).Inv c dh secret := by
  cases nonce with
  | none =>
    have hsame : s.act c dh (.encrypt side none plain aad) = s := by
      simp [act, Ratchet.encrypt]
    rw [hsame]
    exact h
  | some nonce =>
    have hsend := h.send side
    simp only [act, Ratchet.encrypt]
    refine ⟨fun side' => ?_, fun side' => ?_, fun p m hm => ?_, fun side' step hstep => ?_,
      h.decrypted⟩
    · by_cases hs : side' = side
      · subst hs
        simp only [update_self, length_append, length_cons, length_nil]
        exact hsend.encrypt
      · simp only [update_of_ne hs]
        exact h.send side'
    · by_cases hs : side' = side
      · subst hs
        simp only [update_self]
        exact h.recv side'
      · simp only [update_of_ne hs]
        exact h.recv side'
    · rw [sentAt_append] at hm
      split_ifs at hm with hp
      · cases hm
        rw [hp]
        exact hsend.sealedAt nonce plain aad
      · exact h.sealedAt p m hm
    · by_cases hs : side' = side
      · subst hs
        simp only [update_self]
        rw [update_of_ne (by dsimp only at hstep; omega)]
        exact h.unsent side' step hstep
      · simp only [update_of_ne hs]
        exact h.unsent side' step hstep

/-- A step keeps the invariant. -/
lemma Inv.ratchetStep (h : s.Inv c dh secret) (side : Bool) :
    (s.act c dh (.ratchetStep side)).Inv c dh secret := by
  have hsend := h.send side
  simp only [act]
  refine ⟨fun side' => ?_, fun side' => ?_, h.sealedAt, fun side' step hstep => ?_, fun p hp => ?_⟩
  · by_cases hs : side' = side
    · subst hs
      have hempty : s.sent side' (s.steps side' + 1) = [] := h.unsent side' _ (by omega)
      simp only [update_self, hempty, length_nil]
      exact hsend.ratchetStep
    · simp only [update_of_ne hs]
      exact h.send side'
  · by_cases hs : side' = side
    · subst hs
      simp only [update_self, hsend.receive_ratchetStep]
      refine (h.recv side').ratchetStep fun index hin => ?_
      have hle := h.decrypted _ hin
      exact absurd hle (by simp)
    · simp only [update_of_ne hs]
      exact h.recv side'
  · by_cases hs : side' = side
    · subst hs
      simp only [update_self] at hstep
      exact h.unsent side' step (by omega)
    · simp only [update_of_ne hs] at hstep
      exact h.unsent side' step hstep
  · have hle := h.decrypted p hp
    dsimp only
    rw [update_apply]
    split_ifs with hs
    · rw [hs] at hle
      omega
    · exact hle

variable {m : Sent B C}

/-- Where few messages were sent, the index of a message and the one after it fit into 32 bits. -/
lemma FewMessages.index_lt (h : s.FewMessages) {p : Position} (hm : s.sentAt p = some m) :
    p.index + 1 < 2 ^ 32 := by
  obtain ⟨hlt, -⟩ := List.getElem?_eq_some_iff.mp hm
  have := h p.sender p.step
  omega

/-- What an accepted message says in a session: it is accepted for the first time, and the
receiver's chains are those of the longer history. -/
theorem Inv.accept (hc : c.Ideal) (h : s.Inv c dh secret) (hfew : s.FewMessages) {p : Position}
    (hm : s.sentAt p = some m) {aad plain : B}
    (hok : ((s.receiver p).decrypt c m.message aad).plain = .ok plain) :
    p ∉ s.decrypted ∧ p.step ≤ s.steps (!p.sender) ∧
      ∃ state', ((s.receiver p).decrypt c m.message aad).ratchet =
          (s.receiver p).setChain (UInt32.ofNat p.step) state' ∧
        RecvInv c dh secret (insert p s.decrypted) p.sender (s.steps !p.sender)
          ((s.receiver p).receive.insert (UInt32.ofNat p.step) state') := by
  have hrecv := h.recv (!p.sender)
  rw [Bool.not_not] at hrecv
  have hsealed := h.sealedAt p m hm
  have hindex := hfew.index_lt hm
  cases hstate : (s.receiver p).receive.lookup (UInt32.ofNat p.step) with
  | none =>
    -- without a chain of the step the message would have been refused
    rw [← hsealed.ratchetStep_eq] at hstate
    rw [decrypt_of_unknown hstate] at hok
    cases hok
  | some state =>
    obtain ⟨j, hj, -, hchain⟩ := hrecv.known _ state hstate
    obtain ⟨rfl, hfirst, state', hratchet, hchain'⟩ :=
      hchain.accept hc hsealed hindex hstate hok
    refine ⟨hfirst, hj, state', hratchet, hrecv.replace hj hstate (fun j' hchainⱼ => ?_) hchain'⟩
    exact (hchainⱼ.accept hc hsealed hindex hstate hok).1

/-- A delivery keeps the invariant. -/
lemma Inv.deliver (hc : c.Ideal) (h : s.Inv c dh secret) (hfew : s.FewMessages) (p : Position) :
    (s.act c dh (.deliver p)).Inv c dh secret := by
  simp only [act]
  cases hm : s.sentAt p with
  | none => exact h
  | some m =>
    cases hplain : ((s.receiver p).decrypt c m.message m.aad).plain with
    | error e =>
      have hsame : update s.ratchet (!p.sender)
          ((s.receiver p).decrypt c m.message m.aad).ratchet = s.ratchet := by
        rw [decrypt_error hplain, receiver, update_eq_self]
      simp only [hplain, hsame]
      exact h
    | ok plain =>
      obtain ⟨-, hstep, state', hratchet, hrecv⟩ := h.accept hc hfew hm hplain
      simp only [hplain, hratchet]
      refine ⟨fun side => ?_, fun side => ?_, h.sealedAt, h.unsent, fun q hq => ?_⟩
      · by_cases hs : side = !p.sender
        · subst hs
          have hsend := h.send (!p.sender)
          simp only [update_self]
          exact ⟨hsend.initiator, hsend.root, hsend.sendStep, hsend.recvStep, hsend.sendN,
            hsend.sendChain⟩
        · simp only [update_of_ne hs]
          exact h.send side
      · by_cases hs : side = !p.sender
        · subst hs
          simp only [update_self, Bool.not_not]
          exact hrecv
        · simp only [update_of_ne hs]
          refine (h.recv side).insert_of_ne fun heq => hs ?_
          rw [heq, Bool.not_not]
      · rcases mem_insert.mp hq with rfl | hq
        · exact hstep
        · exact h.decrypted q hq

variable (c dh) in
/-- Messages that were sent stay sent, and an event adds at most one message to a step. -/
lemma length_sent_act (s : Session K B C) (a : Action B) (side : Bool) (step : ℕ) :
    (s.sent side step).length ≤ ((s.act c dh a).sent side step).length ∧
      ((s.act c dh a).sent side step).length ≤ (s.sent side step).length + 1 := by
  cases a with
  | encrypt side' nonce plain aad =>
    cases nonce with
    | none => exact ⟨le_refl _, le_succ _⟩
    | some nonce =>
      simp only [act, encrypt]
      by_cases hs : side = side'
      · subst hs
        by_cases hstep : step = s.steps side
        · subst hstep
          simp
        · simp [update_of_ne hstep]
      · simp [update_of_ne hs]
  | ratchetStep side' => exact ⟨le_refl _, le_succ _⟩
  | deliver p =>
    simp only [act]
    cases s.sentAt p with
    | none | some m => exact ⟨le_refl _, le_succ _⟩

/-- Few events send few messages. -/
lemma fewMessages_run (actions : List (Action B)) (h : actions.length < 2 ^ 32) :
    (run (act c dh) (start c secret) actions).FewMessages := by
  have hle : ∀ (s : Session K B C) side step,
      ((run (act c dh) s actions).sent side step).length ≤
        (s.sent side step).length + actions.length := by
    clear h
    induction actions with
    | nil => intro s side step; exact le_refl _
    | cons a actions ih =>
      intro s side step
      have hact := (length_sent_act c dh s a side step).2
      have hrest := ih (s.act c dh a) side step
      rw [run_cons, length_cons]
      omega
  intro side step
  have hstart := hle (start c secret) side step
  rw [show (start c secret).sent side step = [] from rfl, length_nil] at hstart
  omega

/-- **Every event keeps the invariant**, as long as few messages are sent in a step. -/
theorem Inv.act (hc : c.Ideal) (a : Action B) (h : s.FewMessages → s.Inv c dh secret) :
    (s.act c dh a).FewMessages → (s.act c dh a).Inv c dh secret := by
  intro hfew
  have hbefore : s.FewMessages := fun side step =>
    lt_of_le_of_lt (length_sent_act c dh s a side step).1 (hfew side step)
  have hinv := h hbefore
  cases a with
  | encrypt side nonce plain aad => exact hinv.encrypt side nonce plain aad
  | ratchetStep side => exact hinv.ratchetStep side
  | deliver p => exact hinv.deliver hc hbefore p

/-- The invariant holds in every session with few messages in a step. -/
lemma inv_run (hc : c.Ideal) (actions : List (Action B))
    (hfew : (run (act c dh) (start c secret) actions).FewMessages) :
    (run (act c dh) (start c secret) actions).Inv c dh secret := by
  have hstep : ∀ (s : Session K B C) (a : Action B), (s.FewMessages → s.Inv c dh secret) →
      (s.act c dh a).FewMessages → (s.act c dh a).Inv c dh secret := fun _ a => Inv.act hc a
  exact (throughout_of_step hstep (fun _ => inv_start) actions).final hfew

end Session

end invariant

/-! ## Deliveries -/

section deliveries

variable {r : Ratchet K} {p : Position} {m : Sent B C}

/-- The message of a position that was not decrypted opens on the chain of its step. -/
theorem ChainOf.decrypts (hc : c.Ideal) (hm : SealedAt c dh secret p m)
    (hindex : p.index + 1 < 2 ^ 32) (hstate : r.receive.lookup (UInt32.ofNat p.step) = some state)
    (h : ChainOf c dh secret decrypted p.sender p.step state) (hfirst : p ∉ decrypted)
    (hbudget : r.skippedCount + (p.index - nextIndex decrypted p.sender p.step) ≤ maxSkippedKeys) :
    (r.decrypt c m.message m.aad).plain = .ok m.plain := by
  have hnumber := hm.number_eq hindex
  rw [← hm.ratchetStep_eq] at hstate
  have hopen : c.openAES (keyAt c secret dh p) m.message.ciphertext
      ⟨m.message.ratchetStep, m.message.number, m.aad⟩ = some m.plain := by
    obtain ⟨nonce, hmessage⟩ := hm
    rw [hmessage]
    exact hc.openAES_sealAES _ _ _ _
  by_cases hlt : m.message.number < state.number
  · have hnat := lt_iff_toNat_lt.mp hlt
    have hkey : state.skipped.lookup m.message.number = some (keyAt c secret dh p) := by
      rw [h.skipped, hnumber, if_pos ⟨by rw [← h.number]; omega, hfirst⟩]
    rw [decrypt_of_skipped hstate hlt hkey hopen]
  · have hle : state.number ≤ m.message.number := UInt32.not_lt.mp hlt
    rw [decrypt_of_ahead hstate hle (by rw [ahead, hnumber, h.number]; exact hbudget),
      h.messageKey_eq hle, hnumber, hopen]

namespace Session

variable {s : Session K B C}

/-- The receiver is at the step of the message or at the next one. -/
def InWindow (s : Session K B C) (p : Position) : Prop :=
  p.step = s.steps (!p.sender) ∨ p.step + 1 = s.steps (!p.sender)

/-- A message in the window that was not decrypted before opens exactly when its step has a number
for which the receiver keeps a chain. -/
lemma Inv.decrypts_iff (hc : c.Ideal) (h : s.Inv c dh secret) (hfew : s.FewMessages)
    (hm : s.sentAt p = some m) (hwindow : s.InWindow p) (hbudget : s.WithinBudget p)
    (hfirst : p ∉ s.decrypted) :
    ((s.receiver p).decrypt c m.message m.aad).plain = .ok m.plain ↔
      UInt32.ofNat p.step ≠ lastStep := by
  have hrecv := h.recv (!p.sender)
  rw [Bool.not_not] at hrecv
  have hsealed := h.sealedAt p m hm
  constructor
  · intro hok hlast
    have hnone : (s.receiver p).receive.lookup m.message.ratchetStep = none := by
      rw [hsealed.ratchetStep_eq, hlast]
      exact hrecv.last
    rw [decrypt_of_unknown hnone] at hok
    cases hok
  · intro hlast
    obtain ⟨state, hstate, hchain⟩ := hrecv.window p.step hwindow hlast
    exact hchain.decrypts hc hsealed (hfew.index_lt hm) hstate hfirst hbudget

/-- A message that was decrypted is refused from then on. -/
theorem Inv.refuses (hc : c.Ideal) (h : s.Inv c dh secret) (hfew : s.FewMessages)
    (hm : s.sentAt p = some m) (hdone : p ∈ s.decrypted) (aad : B) :
    ∃ e, ((s.receiver p).decrypt c m.message aad).plain = .error e := by
  cases hplain : ((s.receiver p).decrypt c m.message aad).plain with
  | error e => exact ⟨e, rfl⟩
  | ok plain => exact absurd hdone (h.accept hc hfew hm hplain).1

end Session

end deliveries

/-- **Private sessions.** The two sides of an agreement derive the same secret. In every session
built from it in which fewer than `2 ^ 32` messages are sent in each step, after every sequence of
sendings, steps and deliveries: a message that was not decrypted before opens to what was sent, if
the receiver is at its step or the next and the budget suffices, exactly when the number of its step
is not the greatest one; and a message that was decrypted is refused. -/
theorem session_decrypts (hc : c.Ideal)
    {initiator identity signed oneTime ephemeral : KeyPair K}
    (ha : initiator.Matching c) (hi : identity.Matching c) (hs : signed.Matching c)
    (ho : oneTime.Matching c ∨ oneTime.Absent c) (he : ephemeral.Matching c)
    (signing : K) (signedID oneTimeID : UInt32) :
    ∃ secret initial,
      initiateX3DH c (some ephemeral) initiator.priv
        (newPreKeyBundle c identity signing signedID signed oneTimeID oneTime) =
          .ok (secret, initial) ∧
      respondX3DH c identity.priv signed.priv oneTime.priv initiator.pub initial = .ok secret ∧
      ∀ (dh : ℕ → K) (actions : List (Action B)) (s : Session K B C),
        s = run (act c dh) (start c secret) actions → s.FewMessages →
        ∀ p m, s.sentAt p = some m →
          (p ∉ s.decrypted → s.InWindow p → s.WithinBudget p →
            (((s.receiver p).decrypt c m.message m.aad).plain = .ok m.plain ↔
              UInt32.ofNat p.step ≠ lastStep)) ∧
          (p ∈ s.decrypted → ∃ e, ((s.receiver p).decrypt c m.message m.aad).plain = .error e) := by
  obtain ⟨secret, initial, hinitiate, hrespond⟩ :=
    hc.x3dh_agree ha hi hs ho he signing signedID oneTimeID
  refine ⟨secret, initial, hinitiate, hrespond, ?_⟩
  rintro dh actions s rfl hfew p m hm
  have hinv := inv_run hc actions hfew
  refine ⟨fun hfirst hwindow hbudget => ?_, fun hdone => ?_⟩
  · exact hinv.decrypts_iff hc hfew hm hwindow hbudget hfirst
  · exact hinv.refuses hc hfew hm hdone m.aad

/-- Two messages that arrive in the wrong order: the first one still opens, the second one does not
open twice. -/
theorem session_decrypts_out_of_order :
    let c := Symbolic.primitives ℕ
    let pair : ℕ → KeyPair Symbolic.Term := fun n => ⟨.key n, .pub n⟩
    let actions : List (Action ℕ) :=
      [.encrypt true (some 0) 7 8, .encrypt true (some 1) 9 10, .deliver ⟨true, 0, 1⟩]
    ∃ secret initial,
      initiateX3DH c (some (pair 5)) (pair 1).priv
        (newPreKeyBundle c (pair 2) (.key 6) 1 (pair 3) 1 (pair 4)) = .ok (secret, initial) ∧
      ∃ m₀ m₁ e,
        let s := run (act c Symbolic.Term.key) (start c secret) actions
        s.sentAt ⟨true, 0, 0⟩ = some m₀ ∧ s.sentAt ⟨true, 0, 1⟩ = some m₁ ∧
        ((s.receiver ⟨true, 0, 0⟩).decrypt c m₀.message m₀.aad).plain = .ok m₀.plain ∧
        ((s.receiver ⟨true, 0, 1⟩).decrypt c m₁.message m₁.aad).plain = .error e := by
  intro c pair actions
  have hpair : ∀ n, (pair n).Matching c := fun n => ⟨rfl, rfl⟩
  obtain ⟨secret, initial, hinitiate, -, hsession⟩ := session_decrypts
    (Symbolic.ideal_primitives ℕ) (hpair 1) (hpair 2) (hpair 3) (.inl (hpair 4)) (hpair 5)
    (.key 6) 1 1
  refine ⟨secret, initial, hinitiate, ?_⟩
  cases hinitiate
  have hafter := fun p m => hsession Symbolic.Term.key actions _ rfl
    (fewMessages_run actions (by decide)) p m
  obtain ⟨hfirst, -⟩ := hafter ⟨true, 0, 0⟩ _ rfl
  obtain ⟨-, hagain⟩ := hafter ⟨true, 0, 1⟩ _ rfl
  have hopens := (hfirst (by decide +kernel) (by unfold Session.InWindow; decide +kernel)
    (by unfold Session.WithinBudget; decide +kernel)).mpr (by decide)
  obtain ⟨e, hrefused⟩ := hagain (by decide +kernel)
  exact ⟨_, _, e, rfl, rfl, hopens, hrefused⟩

/-! ## Where the numbers overflow -/

section overflow

variable (c dh secret)

/-- The message at `p` is refused although nothing of it was delivered before, the receiver is in
its window and the budget suffices. -/
def LosesMessage (actions : List (Action B)) (p : Position) (e : DecryptError) : Prop :=
  let s := run (act c dh) (start c secret) actions
  .deliver p ∉ actions ∧ s.InWindow p ∧ s.WithinBudget p ∧
    ∃ m, s.sentAt p = some m ∧ ((s.receiver p).decrypt c m.message m.aad).plain = .error e

/-- Both sides make `n` steps. -/
def bothStep : ℕ → List (Action B)
  | 0 => []
  | n + 1 => bothStep n ++ [.ratchetStep true, .ratchetStep false]

lemma deliver_notMem_bothStep (p : Position) (n : ℕ) :
    .deliver p ∉ (bothStep n : List (Action B)) := by
  induction n with
  | zero => exact not_mem_nil
  | succ n ih => simp [bothStep, ih]

/-- Steps alone send nothing, decrypt nothing and store nothing. -/
lemma run_bothStep (n : ℕ) :
    let s := run (act c dh) (start c secret) (bothStep n : List (Action B))
    s.Inv c dh secret ∧ s.steps = (fun _ => n) ∧ (∀ side step, s.sent side step = []) ∧
      ∀ side, (s.ratchet side).skippedCount = 0 := by
  induction n with
  | zero => exact ⟨inv_start, rfl, fun _ _ => rfl, fun side => rfl⟩
  | succ n ih =>
    obtain ⟨hinv, hsteps, hsent, hcount⟩ := ih
    simp only [bothStep, run_append, run_cons, run_nil]
    generalize run (act c dh) (start c secret) (bothStep n) = s at *
    refine ⟨(hinv.ratchetStep true).ratchetStep false, ?_, hsent, fun side => ?_⟩
    · funext side
      cases side <;> simp [act, hsteps]
    have hle : ∀ side x, ((s.ratchet side).ratchetStep c x).skippedCount = 0 := by
      intro side x
      have := skippedCount_ratchetStep_le (c := c) (s.ratchet side) x
      rw [hcount side] at this
      omega
    cases side <;> simp [act, hle]

/-- What a sending does to the history, and to the side that sends nothing. -/
lemma Session.act_encrypt (s : Session K B C) (side : Bool) (nonce plain aad : B) :
    let s' := s.act c dh (.encrypt side (some nonce) plain aad)
    s'.steps = s.steps ∧ s'.decrypted = s.decrypted ∧ s'.ratchet (!side) = s.ratchet (!side) ∧
      (s'.ratchet side).skippedCount = (s.ratchet side).skippedCount ∧
      (s'.sent side (s.steps side)).length = (s.sent side (s.steps side)).length + 1 ∧
      ∀ side' step, ¬(side' = side ∧ step = s.steps side) →
        s'.sent side' step = s.sent side' step := by
  refine ⟨rfl, rfl, ?_, ?_, ?_, fun side' step hne => ?_⟩
  · simp [act, encrypt]
  · simp [act, encrypt, skippedCount]
  · simp [act, encrypt]
  · simp only [act, encrypt]
    by_cases hs : side' = side
    · subst hs
      rw [update_self, update_of_ne fun hstep => hne ⟨rfl, hstep⟩]
    · rw [update_of_ne hs]

variable {c dh secret} {n : ℕ} {s : Session K B C}

/-- The first message of a step with the greatest number is refused. -/
lemma losesMessage_lastStep (hn : UInt32.ofNat n = lastStep) (b : B) :
    LosesMessage c dh secret (bothStep n ++ [.encrypt true (some b) b b]) ⟨true, n, 0⟩
      .unknownStep := by
  obtain ⟨hinv, hsteps, hsent, hcount⟩ := run_bothStep c dh secret n
  unfold LosesMessage
  simp only [run_append, run_cons, run_nil]
  generalize run (act c dh) (start c secret) (bothStep n) = s at *
  have hinv' := hinv.encrypt true (some b) b b
  obtain ⟨hsteps', hdec', hpeer, -, hlen, -⟩ := s.act_encrypt c dh true b b b
  generalize s.act c dh (.encrypt true (some b) b b) = s' at *
  rw [hsteps, hsent] at hlen
  obtain ⟨m, hm⟩ : ∃ m, s'.sentAt ⟨true, n, 0⟩ = some m :=
    ⟨_, List.getElem?_eq_getElem (by rw [hlen]; exact one_pos)⟩
  refine ⟨?_, .inl ?_, ?_, m, hm, ?_⟩
  · simp [deliver_notMem_bothStep]
  · rw [hsteps', hsteps]
  · rw [Session.WithinBudget, receiver, hpeer, hcount, Nat.zero_sub]
    exact zero_le _
  · have hnone : (s'.receiver ⟨true, n, 0⟩).receive.lookup m.message.ratchetStep = none := by
      rw [(hinv'.sealedAt _ m hm).ratchetStep_eq, hn]
      exact (hinv'.recv false).last
    rw [decrypt_of_unknown hnone]

/-- The initiator sends `n` messages, each of which is delivered at once. -/
def inOrder (b : B) : ℕ → List (Action B)
  | 0 => []
  | n + 1 => inOrder b n ++ [.encrypt true (some b) b b, .deliver ⟨true, 0, n⟩]

lemma deliver_notMem_inOrder (b : B) {m : ℕ} (h : n ≤ m) :
    .deliver ⟨true, 0, m⟩ ∉ inOrder b n := by
  induction n with
  | zero => exact not_mem_nil
  | succ n ih =>
    have hne : m ≠ n := by omega
    simp [inOrder, ih (by omega), hne]

/-- The history of messages delivered in order. -/
structure InOrder (s : Session K B C) (n : ℕ) : Prop where
  steps : s.steps = fun _ => 0
  length : (s.sent true 0).length = n
  sent : ∀ side step, ¬(side = true ∧ step = 0) → s.sent side step = []
  decrypted : ∀ p, p ∈ s.decrypted ↔ p.sender = true ∧ p.step = 0 ∧ p.index < n

lemma InOrder.nextIndex (h : InOrder s n) : nextIndex s.decrypted true 0 = n := by
  apply le_antisymm
  · exact nextIndex_le fun index hin => ((h.decrypted _).mp hin).2.2
  · cases n with
    | zero => exact zero_le _
    | succ n => exact lt_nextIndex ((h.decrypted _).mpr ⟨rfl, rfl, lt_succ_self n⟩)

/-- Nothing is stored for messages in order. -/
lemma InOrder.skippedCount (h : InOrder s n) (hinv : s.Inv c dh secret) :
    (s.ratchet false).skippedCount = 0 := by
  apply total_eq_zero
  intro u state hstate
  obtain ⟨j, hj, -, hchain⟩ := (hinv.recv false).known u state hstate
  obtain rfl : j = 0 := by
    rw [h.steps] at hj
    exact le_zero.mp hj
  apply len_eq_zero
  intro k
  rw [hchain.skipped k, if_neg]
  rintro ⟨hlt, hnot⟩
  rw [Bool.not_false, h.nextIndex] at hlt
  exact hnot ((h.decrypted _).mpr ⟨rfl, rfl, hlt⟩)

/-- One more message in order is decrypted. -/
theorem InOrder.next (hc : c.Ideal) (hinv : s.Inv c dh secret) (h : InOrder s n)
    (hn : n + 1 < 2 ^ 32) (b : B) :
    let s' := (s.act c dh (.encrypt true (some b) b b)).act c dh (.deliver ⟨true, 0, n⟩)
    s'.Inv c dh secret ∧ InOrder s' (n + 1) := by
  have hinv' := hinv.encrypt true (some b) b b
  obtain ⟨hsteps', hdec', hpeer, -, hlen, hsent⟩ := s.act_encrypt c dh true b b b
  generalize s.act c dh (.encrypt true (some b) b b) = s' at *
  simp only [h.steps] at hsteps' hlen hsent
  rw [h.length] at hlen
  have hfew : s'.FewMessages := by
    intro side step
    by_cases hp : side = true ∧ step = 0
    · obtain ⟨rfl, rfl⟩ := hp
      rw [hlen]
      exact hn
    · rw [hsent side step hp, h.sent side step hp]
      exact Nat.two_pow_pos 32
  have hcount : (s'.ratchet false).skippedCount = 0 := by
    rw [show s'.ratchet false = s.ratchet false from hpeer, h.skippedCount hinv]
  obtain ⟨m, hm⟩ : ∃ m, s'.sentAt ⟨true, 0, n⟩ = some m :=
    ⟨_, List.getElem?_eq_getElem (by rw [hlen]; exact Nat.lt_succ_self n)⟩
  have hfirst : (⟨true, 0, n⟩ : Position) ∉ s'.decrypted := by
    rw [hdec', h.decrypted]
    simp
  have hwindow : s'.InWindow ⟨true, 0, n⟩ := by
    left
    rw [hsteps']
  have hbudget : s'.WithinBudget ⟨true, 0, n⟩ := by
    rw [Session.WithinBudget, hdec', h.nextIndex, Nat.sub_self]
    exact le_of_eq_of_le hcount (Nat.zero_le _)
  have hlast : UInt32.ofNat 0 ≠ lastStep := by decide
  have hok := (hinv'.decrypts_iff hc hfew hm hwindow hbudget hfirst).mpr hlast
  refine ⟨hinv'.deliver hc hfew _, ?_⟩
  simp only [act, hm, hok]
  refine ⟨hsteps', hlen, fun side step hp => ?_, fun p => ?_⟩
  · rw [hsent side step hp, h.sent side step hp]
  obtain ⟨sender, step, index⟩ := p
  rw [mem_insert, hdec', h.decrypted, Position.mk.injEq]
  constructor
  · rintro (⟨rfl, rfl, rfl⟩ | ⟨rfl, rfl, hlt⟩)
    · exact ⟨rfl, rfl, Nat.lt_succ_self _⟩
    · exact ⟨rfl, rfl, Nat.lt_succ_of_lt hlt⟩
  · rintro ⟨rfl, rfl, hlt⟩
    rcases Nat.lt_succ_iff_lt_or_eq.mp hlt with hlt | rfl
    · exact .inr ⟨rfl, rfl, hlt⟩
    · exact .inl ⟨rfl, rfl, rfl⟩

/-- Messages in order are decrypted up to the greatest number. -/
lemma run_inOrder (dh : ℕ → K) (secret : K) (hc : c.Ideal) (b : B) (hn : n < 2 ^ 32) :
    let s := run (act c dh) (start c secret) (inOrder b n)
    s.Inv c dh secret ∧ InOrder s n := by
  induction n with
  | zero =>
    refine ⟨inv_start, rfl, rfl, fun _ _ _ => rfl, fun p => ?_⟩
    simp [inOrder, start]
  | succ n ih =>
    obtain ⟨hinv, h⟩ := ih (by omega)
    simp only [inOrder, run_append, run_cons, run_nil]
    exact h.next hc hinv hn b

/-- A message whose number has started again from zero is taken for the first one, and refused when
it overtakes the one before it. -/
lemma losesMessage_wrapped (hc : c.Ideal) (b : B) (hn : n + 1 = 2 ^ 32) :
    LosesMessage c dh secret
      (inOrder b n ++ [.encrypt true (some b) b b, .encrypt true (some b) b b])
      ⟨true, 0, n + 1⟩ .skippedKeyGone := by
  have hlt : n < 2 ^ 32 := by omega
  obtain ⟨hinv, h⟩ := run_inOrder dh secret hc b hlt
  unfold LosesMessage
  simp only [run_append, run_cons, run_nil]
  generalize run (act c dh) (start c secret) (inOrder b n) = s at *
  have hinv₂ := (hinv.encrypt true (some b) b b).encrypt true (some b) b b
  obtain ⟨hsteps₁, hdec₁, hpeer₁, -, hlen₁, -⟩ := s.act_encrypt c dh true b b b
  generalize s.act c dh (.encrypt true (some b) b b) = s₁ at *
  obtain ⟨hsteps₂, hdec₂, hpeer₂, -, hlen₂, -⟩ := s₁.act_encrypt c dh true b b b
  generalize s₁.act c dh (.encrypt true (some b) b b) = s₂ at *
  have hreceiver : s₂.receiver ⟨true, 0, n + 1⟩ = s.ratchet false := hpeer₂.trans hpeer₁
  simp only [hsteps₁, h.steps] at hsteps₂ hlen₁ hlen₂
  obtain ⟨m, hm⟩ : ∃ m, s₂.sentAt ⟨true, 0, n + 1⟩ = some m :=
    ⟨_, List.getElem?_eq_getElem (by rw [hlen₂, hlen₁, h.length]; exact lt_succ_self _)⟩
  refine ⟨?_, .inl ?_, ?_, m, hm, ?_⟩
  · have hnot := deliver_notMem_inOrder b (le_succ n)
    simpa using hnot
  · rw [hsteps₂]
  · rw [Session.WithinBudget, hreceiver, h.skippedCount hinv, hdec₂, hdec₁, h.nextIndex]
    rw [Nat.add_sub_cancel_left]
    decide
  obtain ⟨state, hstate, hchain⟩ := (hinv.recv false).window 0 (.inl (by rw [h.steps]))
    (by decide)
  obtain ⟨nonce, hmessage⟩ := hinv₂.sealedAt _ m hm
  have hnumber : m.message.number = 0 := by
    rw [hmessage, hn]
    rfl
  have hbehind : m.message.number < state.number := by
    rw [hnumber, lt_iff_toNat_lt, hchain.number, Bool.not_false, h.nextIndex,
      UInt32.toNat_zero]
    omega
  have hgone : state.skipped.lookup m.message.number = none := by
    rw [hchain.skipped, if_neg]
    rintro ⟨hlow, hnot⟩
    rw [Bool.not_false, h.nextIndex] at hlow
    exact hnot ((h.decrypted _).mpr ⟨rfl, rfl, hlow⟩)
  have hstep : (s.ratchet false).receive.lookup m.message.ratchetStep = some state := by
    rw [hmessage]
    exact hstate
  rw [hreceiver, decrypt_of_gone hstep hbehind hgone]

end overflow

/-- **Two ways to lose a message.** Between two devices with generated keys: the first message of a
step with the number `2 ^ 32 - 1` is refused, since the receiver has discarded the chain of the
current step; and after `2 ^ 32 - 1` messages in one step, delivered in order, the message after the
next is refused if it arrives before the next. -/
theorem session_loses_messages :
    let c := Symbolic.primitives ℕ
    let pair : ℕ → KeyPair Symbolic.Term := fun n => ⟨.key n, .pub n⟩
    ∃ secret initial,
      initiateX3DH c (some (pair 5)) (pair 1).priv
        (newPreKeyBundle c (pair 2) (.key 6) 1 (pair 3) 1 (pair 4)) = .ok (secret, initial) ∧
      respondX3DH c (pair 2).priv (pair 3).priv (pair 4).priv (pair 1).pub initial = .ok secret ∧
      (∃ actions p, LosesMessage c Symbolic.Term.key secret actions p .unknownStep) ∧
      ∃ actions p, LosesMessage c Symbolic.Term.key secret actions p .skippedKeyGone := by
  intro c pair
  have hc := Symbolic.ideal_primitives ℕ
  have hpair : ∀ n, (pair n).Matching c := fun n => ⟨rfl, rfl⟩
  obtain ⟨secret, initial, hinitiate, hrespond⟩ := hc.x3dh_agree (hpair 1) (hpair 2) (hpair 3)
    (.inl (hpair 4)) (hpair 5) (.key 6) 1 1
  refine ⟨secret, initial, hinitiate, hrespond, ?_, ?_⟩
  · have hlast : UInt32.ofNat (2 ^ 32 - 1) = lastStep := by decide
    exact ⟨_, _, losesMessage_lastStep hlast 0⟩
  · have hwrap : 2 ^ 32 - 1 + 1 = 2 ^ 32 := by decide
    exact ⟨_, _, losesMessage_wrapped hc 0 hwrap⟩

end Voicx.E2EE
