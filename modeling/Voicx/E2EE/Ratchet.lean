import Voicx.E2EE.Crypto
import Voicx.Found.FiniteMap
import Voicx.Found.Run

/-!
# The message ratchet

Each side of a private chat keeps a root, a sending chain and a receiving chain for the current and
the previous step. A message that arrives early makes the receiver derive and store the keys of the
messages before it; `maxSkippedKeys` bounds how many keys all receiving chains store together.

* `Ratchet`, `newRatchet`, `ratchetStep`, `encrypt`, `decrypt` — the state and its operations. Every
  operation of the source holds the ratchet's mutex from its first to its last line, so a run is a
  sequence of whole operations.
* `decrypt_cases` — everything a decryption can do. It is the only lemma that looks into `decrypt`.
* `hostile_messages_harmless` — **a message that is refused changes nothing, the stored keys stay
  within their bound, and no message makes the receiver derive more than `maxSkippedKeys + 1`
  keys**, in every reachable state, for all numbers a message can carry and for any primitives.

Source names without a file are from `internal/e2ee/crypto.go`.
-/

namespace Voicx.E2EE

open Found FMap

/-! ## State -/

/-- Source: `MaxSkippedKeys` -/
def maxSkippedKeys : ℕ := 2000

/-- Source: `Message` -/
structure Message (C : Type) where
  ratchetStep : UInt32
  number : UInt32
  ciphertext : C
  deriving DecidableEq, Repr

/-- Source: `receiveChain` -/
structure ReceiveChain (K : Type) where
  chain : K
  /-- the number of the next message of the chain -/
  number : UInt32
  /-- the keys of messages that were skipped over -/
  skipped : FMap UInt32 K

/-- Source: `Ratchet` -/
structure Ratchet (K : Type) where
  root : K
  sendChain : K
  sendN : UInt32
  sendStep : UInt32
  recvStep : UInt32
  receive : FMap UInt32 (ReceiveChain K)
  initiator : Bool

/-- Why a message was refused. -/
inductive DecryptError
  /-- `ErrUnknownStep`, "ratchet step is outside the receive window" -/
  | unknownStep
  /-- `ErrSkippedKeyGone`, "skipped message key is unavailable" -/
  | skippedKeyGone
  /-- `ErrTooManySkipped`, "message gap exceeds skipped-key limit" -/
  | tooManySkipped
  /-- the ciphertext is malformed or does not authenticate -/
  | openAES
  deriving DecidableEq, Repr

variable {K B C : Type}

/-- Source: `skippedCountLocked` -/
def Ratchet.skippedCount (r : Ratchet K) : ℕ := r.receive.total fun state => state.skipped.len

/-! ## Operations -/

variable (c : Primitives K B C)

/-- The next chain key and the key of the current message.
Source: `chainStep` -/
def chainStep (chain : K) : K × K :=
  (c.hkdf [chain] none "voicx:chain:next" 32, c.hkdf [chain] none "voicx:chain:message" 32)

/-- The first key of the chain on which a side sends under a root.
Source: `NewRatchet`, `RatchetStep` -/
def firstChain (root : K) (initiator : Bool) : K :=
  if initiator then c.hkdf [root] none "voicx:double-ratchet:a" 32
  else c.hkdf [root] none "voicx:double-ratchet:b" 32

/-- Source: `NewRatchet` -/
def newRatchet (sharedSecret : K) (initiator : Bool) : Ratchet K :=
  let root := c.hkdf [sharedSecret] none "voicx:double-ratchet:root" 32
  { root := root
    sendChain := firstChain c root initiator
    sendN := 0
    sendStep := 0
    recvStep := 0
    receive := (∅ : FMap UInt32 (ReceiveChain K)).insert 0 ⟨firstChain c root !initiator, 0, ∅⟩
    initiator := initiator }

variable (r : Ratchet K)

/-- Source: `RatchetStep` -/
def Ratchet.ratchetStep (dhSecret : K) : Ratchet K :=
  let root := c.hkdf [dhSecret] (some r.root) "voicx:double-ratchet:step" 32
  let recvStep := r.recvStep + 1
  { r with
    root := root
    sendChain := firstChain c root r.initiator
    sendN := 0
    sendStep := r.sendStep + 1
    recvStep := recvStep
    -- the comparison is in 32-bit arithmetic, as in the source
    receive := FMap.filter (r.receive.insert recvStep ⟨firstChain c root !r.initiator, 0, ∅⟩)
      fun step _ => !decide (step + 1 < recvStep) }

/-- A message and the ratchet after it, or nothing where the random source failed.
Source: `Encrypt` -/
def Ratchet.encrypt (nonce : Option B) (plain aad : B) : Option (Message C) × Ratchet K :=
  let (next, key) := chainStep c r.sendChain
  match nonce with
  | none => (none, r)
  | some nonce =>
    (some ⟨r.sendStep, r.sendN, c.sealAES key nonce plain ⟨r.sendStep, r.sendN, aad⟩⟩,
      { r with sendChain := next, sendN := r.sendN + 1 })

/-- What a decryption has derived so far. -/
structure Staged (K : Type) where
  chain : K
  number : UInt32
  pending : FMap UInt32 K
  /-- the number of chain steps derived -/
  derived : ℕ

/-- One round of the loop that derives the keys of skipped messages. -/
def Staged.derive (s : Staged K) : Staged K where
  chain := (chainStep c s.chain).1
  number := s.number + 1
  pending := s.pending.insert s.number (chainStep c s.chain).2
  derived := s.derived + 1

/-- The loop `for number < message.Number`, for at most `fuel` rounds. -/
def Staged.deriveTo (target : UInt32) : ℕ → Staged K → Staged K
  | 0, s => s
  | fuel + 1, s => if s.number < target then deriveTo target fuel (s.derive c) else s

/-- The result of a decryption, the ratchet after it, and the number of chain steps it derived. -/
structure Decrypted (K B : Type) where
  plain : Except DecryptError B
  ratchet : Ratchet K
  derived : ℕ

/-- Replace the receiving chain of a step. -/
def Ratchet.setChain (step : UInt32) (state : ReceiveChain K) : Ratchet K :=
  { r with receive := r.receive.insert step state }

/-- Source: `Decrypt` -/
def Ratchet.decrypt (message : Message C) (aad : B) : Decrypted K B :=
  match r.receive.lookup message.ratchetStep with
  | none => ⟨.error .unknownStep, r, 0⟩
  | some state =>
    let fullAAD : MessageAAD B := ⟨message.ratchetStep, message.number, aad⟩
    if message.number < state.number then
      match state.skipped.lookup message.number with
      | none => ⟨.error .skippedKeyGone, r, 0⟩
      | some key =>
        match c.openAES key message.ciphertext fullAAD with
        | none => ⟨.error .openAES, r, 0⟩
        | some plain =>
          ⟨.ok plain, r.setChain message.ratchetStep
            { state with skipped := state.skipped.erase message.number }, 0⟩
    else
      let gap := (message.number - state.number).toNat
      if maxSkippedKeys < gap ∨ maxSkippedKeys < r.skippedCount + gap then
        ⟨.error .tooManySkipped, r, 0⟩
      else
        let staged := Staged.deriveTo c message.number gap ⟨state.chain, state.number, ∅, 0⟩
        let (next, key) := chainStep c staged.chain
        match c.openAES key message.ciphertext fullAAD with
        | none => ⟨.error .openAES, r, staged.derived + 1⟩
        | some plain =>
          ⟨.ok plain, r.setChain message.ratchetStep
            ⟨next, message.number + 1, staged.pending ∪ state.skipped⟩, staged.derived + 1⟩

/-! ## What the loop derives -/

/-- The chain key `n` messages further on. -/
def chainAfter (chain : K) : ℕ → K
  | 0 => chain
  | n + 1 => (chainStep c (chainAfter chain n)).1

/-- The key of the message `n` messages further on. -/
def messageKey (chain : K) (n : ℕ) : K := (chainStep c (chainAfter c chain n)).2

lemma chainAfter_next (chain : K) (n : ℕ) :
    chainAfter c (chainStep c chain).1 n = chainAfter c chain (n + 1) := by
  induction n with
  | zero => rfl
  | succ n ih =>
    rw [chainAfter, ih]
    rfl

lemma chainAfter_add (chain : K) (m n : ℕ) :
    chainAfter c (chainAfter c chain m) n = chainAfter c chain (m + n) := by
  induction n with
  | zero => rfl
  | succ n ih => rw [chainAfter, ih, ← Nat.add_assoc, chainAfter]

lemma messageKey_chainAfter (chain : K) (m n : ℕ) :
    messageKey c (chainAfter c chain m) n = messageKey c chain (m + n) := by
  rw [messageKey, chainAfter_add, messageKey]

namespace Staged

variable {c} {target : UInt32}

/-- What the loop leaves behind when `n` messages were skipped: nothing overflows, since the loop
stops at a number the message carried. -/
structure Reached (c : Primitives K B C) (s s' : Staged K) (n : ℕ) : Prop where
  chain : s'.chain = chainAfter c s.chain n
  derived : s'.derived = s.derived + n
  len_pending : s'.pending.len ≤ s.pending.len + n
  pending : ∀ k, s'.pending.lookup k =
    if s.number.toNat ≤ k.toNat ∧ k.toNat < s.number.toNat + n then
      some (messageKey c s.chain (k.toNat - s.number.toNat))
    else s.pending.lookup k

/-- One round, then the rest of the loop. -/
lemma Reached.cons {s s' : Staged K} {n : ℕ} (h : Reached c (s.derive c) s' n)
    (hsmall : s.number.toNat + 1 < 2 ^ 32) : Reached c s s' (n + 1) := by
  have hnumber : (s.derive c).number.toNat = s.number.toNat + 1 := by
    exact Nat.mod_eq_of_lt hsmall
  refine ⟨?_, ?_, ?_, ?_⟩
  · rw [h.chain, derive, chainAfter_next]
  · rw [h.derived, derive]
    dsimp only
    omega
  · have hlen : (s.derive c).pending.len ≤ s.pending.len + 1 := by
      by_cases hk : s.number ∈ s.pending
      · exact (len_insert_of_mem hk _).trans_le (Nat.le_succ _)
      · exact (len_insert_of_not_mem hk _).le
    have := h.len_pending
    omega
  · intro k
    rw [h.pending k, hnumber]
    -- the round at hand stored the key of `s.number`, the rest those above it
    by_cases hk : k = s.number
    · subst hk
      rw [if_neg (by omega), if_pos (by omega), derive, Finmap.lookup_insert, Nat.sub_self]
      rfl
    have hne : k.toNat ≠ s.number.toNat := fun h => hk (UInt32.toNat_inj.mp h)
    by_cases hin : s.number.toNat + 1 ≤ k.toNat ∧ k.toNat < s.number.toNat + 1 + n
    · rw [if_pos hin, if_pos (by omega), derive, messageKey, chainAfter_next]
      congr 4
      omega
    · rw [if_neg hin, if_neg (by omega), derive, lookup_insert_ite, if_neg hk]

/-- The loop derives the keys of exactly the messages before its target. -/
lemma reached_deriveTo (n : ℕ) (s : Staged K) (hn : s.number.toNat + n = target.toNat) :
    Reached c s (deriveTo c target n s) n := by
  induction n generalizing s with
  | zero =>
    refine ⟨rfl, rfl, le_refl _, fun k => ?_⟩
    rw [if_neg (by omega)]
    rfl
  | succ n ih =>
    have hlt : s.number < target := by
      rw [UInt32.lt_iff_toNat_lt]
      omega
    have hsmall : s.number.toNat + 1 < 2 ^ 32 := by
      have := target.toNat_lt
      omega
    have hnext : (s.derive c).number.toNat + n = target.toNat := by
      rw [derive, UInt32.toNat_add, UInt32.toNat_one]
      omega
    rw [deriveTo, if_pos hlt]
    exact (ih _ hnext).cons hsmall

end Staged

/-! ## What a decryption does -/

namespace Ratchet

variable {c} {r : Ratchet K} {message : Message C} {aad plain : B} {state : ReceiveChain K}

/-- A message of a step without a receiving chain. -/
lemma decrypt_of_unknown (hstate : r.receive.lookup message.ratchetStep = none) :
    r.decrypt c message aad = ⟨.error .unknownStep, r, 0⟩ := by
  simp [decrypt, hstate]

/-- A message before its chain whose key is not stored. -/
lemma decrypt_of_gone (hstate : r.receive.lookup message.ratchetStep = some state)
    (hlt : message.number < state.number) (hkey : state.skipped.lookup message.number = none) :
    r.decrypt c message aad = ⟨.error .skippedKeyGone, r, 0⟩ := by
  simp [decrypt, hstate, if_pos hlt, hkey]

/-- A message whose key was stored. -/
lemma decrypt_of_skipped {key : K} (hstate : r.receive.lookup message.ratchetStep = some state)
    (hlt : message.number < state.number) (hkey : state.skipped.lookup message.number = some key)
    (hopen : c.openAES key message.ciphertext ⟨message.ratchetStep, message.number, aad⟩ =
      some plain) :
    r.decrypt c message aad = ⟨.ok plain, r.setChain message.ratchetStep
      { state with skipped := state.skipped.erase message.number }, 0⟩ := by
  simp [decrypt, hstate, hlt, hkey, hopen]

/-- What the receiver has derived when a message is `gap` messages ahead of its chain. -/
def staged (c : Primitives K B C) (message : Message C) (state : ReceiveChain K) : Staged K :=
  Staged.deriveTo c message.number (message.number - state.number).toNat
    ⟨state.chain, state.number, ∅, 0⟩

/-- How far a message is ahead of its chain. -/
abbrev ahead (message : Message C) (state : ReceiveChain K) : ℕ :=
  message.number.toNat - state.number.toNat

/-- The chain once it has caught up with a message. -/
abbrev caughtUp (c : Primitives K B C) (message : Message C) (state : ReceiveChain K) :
    ReceiveChain K :=
  ⟨chainAfter c state.chain (ahead message state + 1), message.number + 1,
    (staged c message state).pending ∪ state.skipped⟩

/-- The difference of the numbers does not wrap for a message at or ahead of its chain. -/
lemma toNat_gap (hle : state.number ≤ message.number) :
    (message.number - state.number).toNat = ahead message state :=
  UInt32.toNat_sub_of_le _ _ hle

lemma reached_staged (hle : state.number ≤ message.number) :
    Staged.Reached c ⟨state.chain, state.number, ∅, 0⟩ (staged c message state)
      (ahead message state) := by
  have hnat := UInt32.le_iff_toNat_le.mp hle
  rw [staged, toNat_gap hle]
  apply Staged.reached_deriveTo
  dsimp only [ahead]
  omega

/-- A message at or ahead of its chain. -/
lemma decrypt_of_ahead (hstate : r.receive.lookup message.ratchetStep = some state)
    (hle : state.number ≤ message.number)
    (hbudget : r.skippedCount + ahead message state ≤ maxSkippedKeys) :
    r.decrypt c message aad =
      match c.openAES (messageKey c state.chain (ahead message state)) message.ciphertext
          ⟨message.ratchetStep, message.number, aad⟩ with
      | none => ⟨.error .openAES, r, ahead message state + 1⟩
      | some plain => ⟨.ok plain, r.setChain message.ratchetStep (caughtUp c message state),
          ahead message state + 1⟩ := by
  have hlt : ¬message.number < state.number := UInt32.not_lt.mpr hle
  have hreach := reached_staged (c := c) hle
  have hderived : (staged c message state).derived = ahead message state := by
    rw [hreach.derived, Nat.zero_add]
  have hlimit : ¬(maxSkippedKeys < ahead message state ∨
      maxSkippedKeys < r.skippedCount + ahead message state) := by
    omega
  rw [messageKey, caughtUp, chainAfter, ← hreach.chain, ← hderived]
  simp only [decrypt, hstate, if_neg hlt, toNat_gap hle, if_neg hlimit]
  rw [← toNat_gap hle, ← staged]

/-- Everything a decryption can do. -/
theorem decrypt_cases (r : Ratchet K) (message : Message C) (aad : B) :
    (∃ e n, n ≤ maxSkippedKeys + 1 ∧ r.decrypt c message aad = ⟨.error e, r, n⟩) ∨
    (∃ state key plain, r.receive.lookup message.ratchetStep = some state ∧
      message.number < state.number ∧ state.skipped.lookup message.number = some key ∧
      c.openAES key message.ciphertext ⟨message.ratchetStep, message.number, aad⟩ = some plain ∧
      r.decrypt c message aad = ⟨.ok plain, r.setChain message.ratchetStep
        { state with skipped := state.skipped.erase message.number }, 0⟩) ∨
    (∃ state plain, r.receive.lookup message.ratchetStep = some state ∧
      state.number ≤ message.number ∧
      r.skippedCount + ahead message state ≤ maxSkippedKeys ∧
      c.openAES (messageKey c state.chain (ahead message state))
        message.ciphertext ⟨message.ratchetStep, message.number, aad⟩ = some plain ∧
      r.decrypt c message aad = ⟨.ok plain, r.setChain message.ratchetStep
        (caughtUp c message state), ahead message state + 1⟩) := by
  cases hstate : r.receive.lookup message.ratchetStep with
  | none =>
    left
    exact ⟨.unknownStep, 0, Nat.zero_le _, decrypt_of_unknown hstate⟩
  | some state =>
    by_cases hlt : message.number < state.number
    · cases hkey : state.skipped.lookup message.number with
      | none =>
        left
        exact ⟨.skippedKeyGone, 0, Nat.zero_le _, decrypt_of_gone hstate hlt hkey⟩
      | some key =>
        cases hopen : c.openAES key message.ciphertext
            ⟨message.ratchetStep, message.number, aad⟩ with
        | none =>
          left
          exact ⟨.openAES, 0, Nat.zero_le _,
            by simp [decrypt, hstate, if_pos hlt, hkey, hopen]⟩
        | some plain =>
          right; left
          exact ⟨state, key, plain, rfl, hlt, hkey, hopen, decrypt_of_skipped hstate hlt hkey hopen⟩
    · have hle : state.number ≤ message.number := UInt32.not_lt.mp hlt
      by_cases hbudget : r.skippedCount + ahead message state ≤ maxSkippedKeys
      · have hdecrypt : r.decrypt c message aad = _ := decrypt_of_ahead hstate hle hbudget
        cases hopen : c.openAES (messageKey c state.chain (ahead message state))
            message.ciphertext ⟨message.ratchetStep, message.number, aad⟩ with
        | none =>
          left
          exact ⟨.openAES, ahead message state + 1, by omega, by rw [hdecrypt, hopen]⟩
        | some plain =>
          right; right
          exact ⟨state, plain, rfl, hle, hbudget, hopen, by rw [hdecrypt, hopen]⟩
      · left
        have hlimit : maxSkippedKeys < ahead message state ∨
            maxSkippedKeys < r.skippedCount + ahead message state := by
          omega
        exact ⟨.tooManySkipped, 0, Nat.zero_le _,
          by simp [decrypt, hstate, if_neg hlt, toNat_gap hle, hlimit]⟩

/-- A message that is refused leaves the ratchet as it was. -/
lemma decrypt_error {e : DecryptError} (h : (r.decrypt c message aad).plain = .error e) :
    (r.decrypt c message aad).ratchet = r := by
  obtain ⟨e', n, -, heq⟩ | ⟨state, key, plain, -, -, -, -, heq⟩ | ⟨state, plain, -, -, -, -, heq⟩ :=
    decrypt_cases r message aad
  · rw [heq]
  · rw [heq] at h
    cases h
  · rw [heq] at h
    cases h

/-- No message makes the receiver derive more than `maxSkippedKeys + 1` keys. -/
lemma decrypt_derived_le (r : Ratchet K) (message : Message C) (aad : B) :
    (r.decrypt c message aad).derived ≤ maxSkippedKeys + 1 := by
  obtain ⟨e, n, hn, heq⟩ | ⟨state, key, plain, -, -, -, -, heq⟩ |
      ⟨state, plain, -, -, hbudget, -, heq⟩ := decrypt_cases r message aad
  · rw [heq]
    exact hn
  · rw [heq]
    exact Nat.zero_le _
  · rw [heq]
    dsimp only
    omega

/-! ## The bound on stored keys -/

/-- The stored keys after one receiving chain was replaced. -/
lemma skippedCount_setChain {step : UInt32} (hstate : r.receive.lookup step = some state)
    (state' : ReceiveChain K) :
    (r.setChain step state').skippedCount + state.skipped.len =
      r.skippedCount + state'.skipped.len := by
  have h := total_insert r.receive step state' fun state => state.skipped.len
  rw [hstate] at h
  exact h

/-- The receiving chain a new step opens. -/
def freshChain (c : Primitives K B C) (r : Ratchet K) (dhSecret : K) : ReceiveChain K :=
  ⟨firstChain c (r.ratchetStep c dhSecret).root !r.initiator, 0, ∅⟩

lemma receive_ratchetStep (r : Ratchet K) (dhSecret : K) :
    (r.ratchetStep c dhSecret).receive =
      FMap.filter (r.receive.insert (r.recvStep + 1) (r.freshChain c dhSecret))
        fun step _ => !decide (step + 1 < r.recvStep + 1) := rfl

/-- A new step adds a chain without stored keys and takes chains away. -/
lemma skippedCount_ratchetStep_le (r : Ratchet K) (dhSecret : K) :
    (r.ratchetStep c dhSecret).skippedCount ≤ r.skippedCount := by
  have hinsert := total_insert r.receive (r.recvStep + 1) (r.freshChain c dhSecret)
    fun state => state.skipped.len
  have hfresh : (r.freshChain c dhSecret).skipped.len = 0 := rfl
  rw [hfresh, Nat.add_zero] at hinsert
  calc (r.ratchetStep c dhSecret).skippedCount
      ≤ FMap.total (r.receive.insert (r.recvStep + 1) (r.freshChain c dhSecret))
          fun state => state.skipped.len := by
        rw [skippedCount, receive_ratchetStep]
        exact total_filter_le _ _ _
    _ ≤ r.skippedCount := by
        rw [skippedCount, ← hinsert]
        exact Nat.le_add_right _ _

/-- A decryption keeps the stored keys within their bound. -/
lemma skippedCount_decrypt_le (h : r.skippedCount ≤ maxSkippedKeys) :
    (r.decrypt c message aad).ratchet.skippedCount ≤ maxSkippedKeys := by
  obtain ⟨e, n, -, heq⟩ | ⟨state, key, plain, hstate, -, -, -, heq⟩ |
      ⟨state, plain, hstate, hle, hbudget, -, heq⟩ := decrypt_cases r message aad
  · rw [heq]
    exact h
  · rw [heq]
    have hset := skippedCount_setChain hstate
      { state with skipped := state.skipped.erase message.number }
    have hlen : FMap.len (state.skipped.erase message.number) ≤ state.skipped.len :=
      len_le_of_keys fun k hk => (Finmap.mem_erase.mp hk).2
    dsimp only at hset ⊢
    omega
  · -- the keys that were staged are the ones the budget was checked for
    rw [heq]
    have hset := skippedCount_setChain hstate (caughtUp c message state)
    have hlen := len_union_le (staged c message state).pending state.skipped
    have hpending := (reached_staged (c := c) hle).len_pending
    rw [len_empty] at hpending
    dsimp only at hset hlen ⊢
    omega

end Ratchet

/-! ## Runs -/

/-- One operation on a ratchet. -/
inductive Call (K B C : Type)
  | encrypt (nonce : Option B) (plain aad : B)
  | decrypt (message : Message C) (aad : B)
  | ratchetStep (dhSecret : K)

/-- The ratchet after an operation. -/
def Ratchet.call (r : Ratchet K) : Call K B C → Ratchet K
  | .encrypt nonce plain aad => (r.encrypt c nonce plain aad).2
  | .decrypt message aad => (r.decrypt c message aad).ratchet
  | .ratchetStep dhSecret => r.ratchetStep c dhSecret

/-- Each operation keeps the stored keys within their bound. -/
lemma Ratchet.skippedCount_call_le (r : Ratchet K) (call : Call K B C)
    (h : r.skippedCount ≤ maxSkippedKeys) : (r.call c call).skippedCount ≤ maxSkippedKeys := by
  cases call with
  | encrypt nonce plain aad =>
    cases nonce with
    | none | some nonce => exact h
  | decrypt message aad => exact skippedCount_decrypt_le h
  | ratchetStep dhSecret => exact (skippedCount_ratchetStep_le r dhSecret).trans h

/-- **Hostile messages do no harm.** In every state that any calls lead to, the receiving chains
store at most `maxSkippedKeys` keys together. Whatever message arrives next, at most
`maxSkippedKeys + 1` chain steps are derived for it, and if it is refused the ratchet is the one
before, so that every other message decrypts as it would have. -/
theorem hostile_messages_harmless (sharedSecret : K) (initiator : Bool)
    (calls : List (Call K B C)) :
    Throughout (Ratchet.call c)
      (fun r => r.skippedCount ≤ maxSkippedKeys ∧
        ∀ (message : Message C) (aad : B),
          (r.decrypt c message aad).derived ≤ maxSkippedKeys + 1 ∧
          ∀ e, (r.decrypt c message aad).plain = .error e →
            (r.decrypt c message aad).ratchet = r ∧
            ∀ (message' : Message C) (aad' : B),
              (r.decrypt c message aad).ratchet.decrypt c message' aad' =
                r.decrypt c message' aad')
      (newRatchet c sharedSecret initiator) calls := by
  have hnew : (newRatchet c sharedSecret initiator).skippedCount ≤ maxSkippedKeys :=
    Nat.zero_le _
  have hbound := throughout_of_step (Ratchet.skippedCount_call_le c) hnew calls
  refine hbound.mono fun r hr => ⟨hr, fun message aad => ?_⟩
  refine ⟨Ratchet.decrypt_derived_le r message aad, fun e he => ?_⟩
  have hsame := Ratchet.decrypt_error he
  exact ⟨hsame, fun message' aad' => by rw [hsame]⟩

/-- A forged message with the greatest number there is, sent to a ratchet that has made one step. -/
theorem forged_number_harmless :
    let c := Symbolic.primitives ℕ
    let r := (newRatchet c (.key 0) true).ratchetStep c (.key 1)
    let forged : Message (Symbolic.Sealed ℕ) := ⟨1, 4294967295, ⟨.empty, 0, 0, ⟨1, 0, 0⟩⟩⟩
    (r.decrypt c forged 0).ratchet = r := by
  intro c r forged
  have hall := hostile_messages_harmless c (.key 0) true [.ratchetStep (.key 1)]
  exact ((hall.final.2 forged 0).2 .tooManySkipped (by decide +kernel)).1

end Voicx.E2EE
