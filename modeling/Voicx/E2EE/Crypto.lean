import Mathlib.Tactic

/-!
# The primitives of private chat, and the X3DH agreement

* `Primitives` — X25519, HKDF, Ed25519 and AES-GCM as the package calls them. Nothing is assumed
  about them here: what holds for any primitives (the limits of a ratchet) needs no law.
* `Primitives.Ideal` — the laws of ideal primitives. Key material is an abstract type, so that an
  injective HKDF is not a contradiction in terms.
* `initiateX3DH`, `respondX3DH` — the two sides of the agreement.
* `x3dh_agree` — **the two sides derive the same secret**, with a one-time prekey or without one.
* `Symbolic.primitives` — terms as keys, the free ideal primitives.

Source names without a file are from `internal/e2ee/crypto.go`.
-/

namespace Voicx.E2EE

/-! ## Primitives -/

/-- What a ciphertext is bound to: the step and the number of its message, and the caller's data.
Source: `messageAAD`
Fidelity: the code concatenates two 4-byte numbers and the data, which is injective. -/
structure MessageAAD (B : Type) where
  step : UInt32
  number : UInt32
  aad : B
  deriving DecidableEq, Repr

/-- What a signed prekey's signature covers.
Source: `preKeySignedBytes`
Fidelity: the code concatenates a fixed text, the 4-byte id and the key, which is injective. -/
structure PreKeySignedBytes (K : Type) where
  id : UInt32
  pub : K
  deriving DecidableEq, Repr

/-- The primitives, over a type `K` of key material, a type `B` of plaintexts, nonces and
associated data, and a type `C` of ciphertexts.
Source: `exchange`, `hkdf`, `sealAES`, `openAES` -/
structure Primitives (K B C : Type) where
  /-- the length in bytes -/
  size : K → ℕ
  /-- the X25519 public key of a private key -/
  publicKey : K → K
  /-- X25519 of a private and a public key; `none` is an error -/
  exchange : K → K → Option K
  /-- HKDF of a secret, given as the parts it is concatenated from, a salt that may be nil, an info
  text and the number of bytes wanted -/
  hkdf : List K → Option K → String → ℕ → K
  /-- the Ed25519 public key of a private one -/
  signingPublic : K → K
  sign : K → PreKeySignedBytes K → K
  verify : K → PreKeySignedBytes K → K → Bool
  /-- AES-GCM with a key and a nonce; the nonce is part of the result -/
  sealAES : K → B → B → MessageAAD B → C
  /-- the plaintext of a ciphertext that authenticates -/
  openAES : K → C → MessageAAD B → Option B

/-- The laws of ideal primitives. -/
structure Primitives.Ideal {K B C : Type} (c : Primitives K B C) : Prop where
  size_publicKey : ∀ a, c.size a = 32 → c.size (c.publicKey a) = 32
  /-- two private keys agree on one value, whichever of them is applied to the other's public key -/
  exchange_agree : ∀ a b, c.size a = 32 → c.size b = 32 →
    ∃ z, c.exchange a (c.publicKey b) = some z ∧ c.exchange b (c.publicKey a) = some z
  size_signingPublic : ∀ k, c.size (c.signingPublic k) = 32
  size_sign : ∀ k m, c.size (c.sign k m) = 64
  verify_sign : ∀ k m, c.verify (c.signingPublic k) m (c.sign k m) = true
  /-- no two derivations give the same key -/
  hkdf_injective : ∀ s t i n s' t' i' n', c.hkdf s t i n = c.hkdf s' t' i' n' →
    s = s' ∧ t = t' ∧ i = i'
  openAES_sealAES : ∀ k n p a, c.openAES k (c.sealAES k n p a) a = some p
  /-- a ciphertext opens only under the key it was sealed with -/
  key_of_openAES : ∀ k k' n p a a' p', c.openAES k' (c.sealAES k n p a) a' = some p' → k' = k

variable {K B C : Type} (c : Primitives K B C)

/-! ## X3DH -/

/-- Source: `KeyPair` -/
structure KeyPair (K : Type) where
  priv : K
  pub : K
  deriving DecidableEq, Repr

/-- A pair as `GenerateX25519` makes it.
Source: `GenerateX25519` -/
def KeyPair.Matching (pair : KeyPair K) : Prop :=
  c.size pair.priv = 32 ∧ pair.pub = c.publicKey pair.priv

/-- The pair that stands for "no key": both slices are empty. -/
def KeyPair.Absent (pair : KeyPair K) : Prop := c.size pair.priv = 0 ∧ c.size pair.pub = 0

/-- The public material published for one device.
Source: `PreKeyBundle` -/
structure PreKeyBundle (K : Type) where
  identityDH : K
  signingPublic : K
  signedPreKeyID : UInt32
  signedPreKey : K
  signature : K
  oneTimePreKeyID : UInt32
  oneTimePreKey : K
  deriving DecidableEq, Repr

/-- Source: `NewPreKeyBundle` -/
def newPreKeyBundle (identityDH : KeyPair K) (signingPrivate : K) (signedID : UInt32)
    (signedPreKey : KeyPair K) (oneTimeID : UInt32) (oneTimePreKey : KeyPair K) :
    PreKeyBundle K where
  identityDH := identityDH.pub
  signingPublic := c.signingPublic signingPrivate
  signedPreKeyID := signedID
  signedPreKey := signedPreKey.pub
  signature := c.sign signingPrivate ⟨signedID, signedPreKey.pub⟩
  oneTimePreKeyID := oneTimeID
  oneTimePreKey := oneTimePreKey.pub

/-- Source: `VerifyPreKeyBundle` -/
def verifyPreKeyBundle (bundle : PreKeyBundle K) : Bool :=
  c.size bundle.identityDH == 32 && c.size bundle.signedPreKey == 32 &&
    c.size bundle.signingPublic == 32 && c.size bundle.signature == 64 &&
    c.verify bundle.signingPublic ⟨bundle.signedPreKeyID, bundle.signedPreKey⟩ bundle.signature

/-- Source: `X3DHInitial` -/
structure X3DHInitial (K : Type) where
  ephemeralPublic : K
  signedPreKeyID : UInt32
  oneTimePreKeyID : UInt32
  deriving DecidableEq, Repr

/-- Why an agreement failed. -/
inductive X3DHError
  /-- `ErrInvalidSignature`, "invalid signed prekey signature" -/
  | invalidSignature
  /-- no ephemeral key could be generated -/
  | generate
  /-- an X25519 exchange failed -/
  | exchange
  deriving DecidableEq, Repr

/-- An exchange as a step that can fail. -/
def exchangeOrFail (priv pub : K) : Except X3DHError K :=
  match c.exchange priv pub with
  | some shared => .ok shared
  | none => .error .exchange

/-- Source: `InitiateX3DH`
Fidelity: the ephemeral key is an argument, `none` where the random source failed. -/
def initiateX3DH (ephemeral : Option (KeyPair K)) (identityPrivate : K) (bundle : PreKeyBundle K) :
    Except X3DHError (K × X3DHInitial K) := do
  if !verifyPreKeyBundle c bundle then throw .invalidSignature
  let some ephemeral := ephemeral | throw .generate
  let dh1 ← exchangeOrFail c identityPrivate bundle.signedPreKey
  let dh2 ← exchangeOrFail c ephemeral.priv bundle.identityDH
  let dh3 ← exchangeOrFail c ephemeral.priv bundle.signedPreKey
  if 0 < c.size bundle.oneTimePreKey then
    let dh4 ← exchangeOrFail c ephemeral.priv bundle.oneTimePreKey
    return (c.hkdf [dh1, dh2, dh3, dh4] none "voicx:x3dh" 32,
      ⟨ephemeral.pub, bundle.signedPreKeyID, bundle.oneTimePreKeyID⟩)
  else
    return (c.hkdf [dh1, dh2, dh3] none "voicx:x3dh" 32,
      ⟨ephemeral.pub, bundle.signedPreKeyID, 0⟩)

/-- Source: `RespondX3DH` -/
def respondX3DH (identityPrivate signedPreKeyPrivate oneTimePreKeyPrivate : K)
    (initiatorIdentityPublic : K) (initial : X3DHInitial K) : Except X3DHError K := do
  let dh1 ← exchangeOrFail c signedPreKeyPrivate initiatorIdentityPublic
  let dh2 ← exchangeOrFail c identityPrivate initial.ephemeralPublic
  let dh3 ← exchangeOrFail c signedPreKeyPrivate initial.ephemeralPublic
  if 0 < c.size oneTimePreKeyPrivate then
    let dh4 ← exchangeOrFail c oneTimePreKeyPrivate initial.ephemeralPublic
    return c.hkdf [dh1, dh2, dh3, dh4] none "voicx:x3dh" 32
  else
    return c.hkdf [dh1, dh2, dh3] none "voicx:x3dh" 32

variable {c}

/-- Two matching pairs agree, as the steps of the protocol see it. -/
lemma Primitives.Ideal.exchangeOrFail_agree (hc : c.Ideal) {a b : KeyPair K} (ha : a.Matching c)
    (hb : b.Matching c) :
    ∃ z, exchangeOrFail c a.priv b.pub = .ok z ∧ exchangeOrFail c b.priv a.pub = .ok z := by
  obtain ⟨z, hab, hba⟩ := hc.exchange_agree a.priv b.priv ha.1 hb.1
  refine ⟨z, ?_, ?_⟩
  · rw [exchangeOrFail, hb.2, hab]
  · rw [exchangeOrFail, ha.2, hba]

/-- A bundle built from matching pairs passes its check. -/
lemma Primitives.Ideal.verify_newPreKeyBundle (hc : c.Ideal) {identity signed : KeyPair K}
    (hi : identity.Matching c) (hs : signed.Matching c) (signing : K) (signedID oneTimeID : UInt32)
    (oneTime : KeyPair K) :
    verifyPreKeyBundle c (newPreKeyBundle c identity signing signedID signed oneTimeID oneTime) =
      true := by
  have hid : c.size identity.pub = 32 := by
    rw [hi.2]
    exact hc.size_publicKey _ hi.1
  have hsd : c.size signed.pub = 32 := by
    rw [hs.2]
    exact hc.size_publicKey _ hs.1
  simp [verifyPreKeyBundle, newPreKeyBundle, hid, hsd, hc.size_signingPublic, hc.size_sign,
    hc.verify_sign]

/-- **The two sides of the agreement derive the same secret**, whether the bundle has a one-time
prekey or none. -/
theorem Primitives.Ideal.x3dh_agree (hc : c.Ideal)
    {initiator identity signed oneTime ephemeral : KeyPair K} (ha : initiator.Matching c)
    (hi : identity.Matching c) (hs : signed.Matching c) (ho : oneTime.Matching c ∨ oneTime.Absent c)
    (he : ephemeral.Matching c) (signing : K) (signedID oneTimeID : UInt32) :
    ∃ secret initial,
      initiateX3DH c (some ephemeral) initiator.priv
        (newPreKeyBundle c identity signing signedID signed oneTimeID oneTime) =
          .ok (secret, initial) ∧
      respondX3DH c identity.priv signed.priv oneTime.priv initiator.pub initial = .ok secret := by
  obtain ⟨dh1, h1, h1'⟩ := hc.exchangeOrFail_agree ha hs
  obtain ⟨dh2, h2, h2'⟩ := hc.exchangeOrFail_agree he hi
  obtain ⟨dh3, h3, h3'⟩ := hc.exchangeOrFail_agree he hs
  have hverify := hc.verify_newPreKeyBundle hi hs signing signedID oneTimeID oneTime
  rcases ho with ho | ⟨hpriv, hpub⟩
  · obtain ⟨dh4, h4, h4'⟩ := hc.exchangeOrFail_agree he ho
    have hpub : 0 < c.size oneTime.pub := by
      rw [ho.2, hc.size_publicKey _ ho.1]
      omega
    have hpriv : 0 < c.size oneTime.priv := by
      rw [ho.1]
      omega
    refine ⟨c.hkdf [dh1, dh2, dh3, dh4] none "voicx:x3dh" 32,
      ⟨ephemeral.pub, signedID, oneTimeID⟩, ?_, ?_⟩
    · rw [initiateX3DH, hverify]
      simp [newPreKeyBundle, h1, h2, h3, h4, hpub, bind, pure, Except.bind, Except.pure]
    · simp [respondX3DH, h1', h2', h3', h4', hpriv, bind, pure, Except.bind, Except.pure]
  · refine ⟨c.hkdf [dh1, dh2, dh3] none "voicx:x3dh" 32, ⟨ephemeral.pub, signedID, 0⟩, ?_, ?_⟩
    · rw [initiateX3DH, hverify]
      simp [newPreKeyBundle, h1, h2, h3, hpub, bind, pure, Except.bind, Except.pure]
    · simp [respondX3DH, h1', h2', h3', hpriv, bind, pure, Except.bind, Except.pure]

/-! ## Symbolic primitives -/

namespace Symbolic

/-- Key material as terms. X25519 acts on scalars, and every other primitive is free. -/
inductive Term
  | empty
  /-- a generated private key -/
  | key (scalar : ℕ)
  | pub (scalar : ℕ)
  | shared (scalar scalar' : ℕ)
  | signature (signer : Term) (id : UInt32) (pub : Term)
  /-- the concatenation of a part and the rest -/
  | join (part rest : Term)
  | derived (secret salt : Term) (info : String)
  deriving DecidableEq, Repr

/-- The scalar a term stands for when it is used as a private key. -/
def Term.scalar : Term → ℕ
  | .key scalar => scalar
  | _ => 0

def Term.size : Term → ℕ
  | .empty => 0
  | .signature _ _ _ => 64
  | _ => 32

/-- The concatenation of the parts of a secret. -/
def Term.concat (parts : List Term) : Term := parts.foldr .join .empty

lemma Term.concat_injective : Function.Injective Term.concat := by
  intro parts
  induction parts with
  | nil =>
    intro parts' h
    cases parts' with
    | nil => rfl
    | cons part' rest' => cases h
  | cons part rest ih =>
    intro parts' h
    cases parts' with
    | nil => cases h
    | cons part' rest' =>
      obtain ⟨rfl, hrest⟩ : part = part' ∧ Term.concat rest = Term.concat rest' := by
        simpa [Term.concat] using h
      rw [ih hrest]

/-- A ciphertext that can be opened with its own key and data only. -/
structure Sealed (B : Type) where
  key : Term
  nonce : B
  plain : B
  aad : MessageAAD B
  deriving DecidableEq, Repr

/-- The symbolic primitives. -/
def primitives (B : Type) [DecidableEq B] : Primitives Term B (Sealed B) where
  size := Term.size
  publicKey a := .pub a.scalar
  exchange a p :=
    match p with
    | .pub b => some (.shared (min a.scalar b) (max a.scalar b))
    | _ => none
  hkdf secret salt info _ := .derived (.concat secret) (.concat salt.toList) info
  signingPublic k := .pub k.scalar
  sign k m := .signature (.pub k.scalar) m.id m.pub
  verify signer m s := decide (s = .signature signer m.id m.pub)
  sealAES := Sealed.mk
  openAES k s aad := if s.key = k ∧ s.aad = aad then some s.plain else none

/-- The symbolic primitives are ideal. -/
lemma ideal_primitives (B : Type) [DecidableEq B] : (primitives B).Ideal where
  size_publicKey _ _ := rfl
  exchange_agree a b _ _ := by
    refine ⟨.shared (min a.scalar b.scalar) (max a.scalar b.scalar), rfl, ?_⟩
    simp [primitives, min_comm, max_comm]
  size_signingPublic _ := rfl
  size_sign _ _ := rfl
  verify_sign _ _ := by simp [primitives]
  hkdf_injective s t i n s' t' i' n' h := by
    obtain ⟨hs, ht, hi⟩ : Term.concat s = Term.concat s' ∧
        Term.concat t.toList = Term.concat t'.toList ∧ i = i' := by
      simpa [primitives] using h
    refine ⟨Term.concat_injective hs, ?_, hi⟩
    have hsalt := Term.concat_injective ht
    cases t <;> cases t' <;> simp_all
  openAES_sealAES _ _ _ _ := by simp [primitives]
  key_of_openAES k k' n p a a' p' h := by
    by_contra hne
    simp [primitives, Ne.symm hne] at h

end Symbolic

end Voicx.E2EE
