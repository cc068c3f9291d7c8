import Voicx.Found.FiniteMap
import Voicx.Found.Run

/-!
# Dialling pinned servers

The tabs of a client share one store of certificate pins. A dial verifies the certificate inside the
TLS handshake and pins it afterwards, in another critical section; if the handshake fails, it may
fall back to plaintext. The peers are chosen by an attacker.

* `Client.step` — any number of dials, one step for each critical section, and the user's own calls
  of `trust`.
* `Continuous` — a server that was reached with a fingerprint is reached with that fingerprint
  again.
* `Careful` — no dial falls back, none pins over another pin, and the user trusts a certificate only
  while no dial goes on with another one.
* **`pins_not_swapped`** — in every run that meets `Careful` the connections are continuous.
* `late_pin_swaps_server` — two first dials that overlap reach two servers.

`SRV` targets are further dials of one trust address. What a dial reports about its certificate to
the diagnostics is left out.
-/

namespace Voicx.Client.Dialing

open Found List

/-- What the store is built on: the library function `strings.ToLower`, and the client's own
`normalizeServerAddr` (`client/tofu.go`) with its errors as `none`. -/
structure AddrLib where
  toLower : String → String
  normalize : String → Option String

/-- Source: `client/tofu.go`, `secureEqualFold` -/
def AddrLib.secureEqualFold (L : AddrLib) (a b : String) : Prop := L.toLower a = L.toLower b

instance (L : AddrLib) (a b : String) : Decidable (L.secureEqualFold a b) :=
  inferInstanceAs (Decidable (_ = _))

/-- Source: `client/tofu.go`, `trustStatus` -/
inductive TrustStatus
  | trustUnknown
  | trustOK
  | trustMismatch
  deriving DecidableEq, Repr

/-- The pins in memory; a store that did not load answers with an error.
Source: `client/tofu.go`, `knownServers` -/
structure KnownServers where
  servers : FMap String String := ∅
  loadErr : Bool := false

namespace KnownServers

variable (L : AddrLib) (ks : KnownServers)

/-- Source: `client/tofu.go`, `verify` -/
def verify (addr fp : String) : Option TrustStatus :=
  if ks.loadErr then none
  else (L.normalize addr).map fun key =>
    match ks.servers.lookup key with
    | none => .trustUnknown
    | some known => if L.secureEqualFold known fp then .trustOK else .trustMismatch

/-- `written` says whether the file was written. Source: `client/tofu.go`, `trust` -/
def trust (written : Bool) (addr fp : String) : Option KnownServers :=
  if ks.loadErr || !written then none
  else (L.normalize addr).map fun key =>
    { ks with servers := ks.servers.insert key fp }

end KnownServers

/-- The progress of a call of `dialEndpoint`; `addr` is its canonical trust address. -/
inductive Dial
  | idle
  | handshake (addr : String)
  /-- `VerifyConnection` has accepted the certificate -/
  | verified (addr fp : String) (firstSeen : Bool)
  /-- the certificate is pinned, or was pinned before -/
  | pinned (addr fp : String)
  /-- the handshake has failed for a reason other than trust -/
  | tlsFailed (addr : String)
  | plaintext (addr : String)
  | returned
  deriving DecidableEq, Repr

/-- The address and the certificate that a dial goes on with because the store has pinned it. -/
def Dial.accepted : Dial → Option (String × String)
  | .verified addr fp false | .pinned addr fp => some (addr, fp)
  | _ => none

/-- What has happened, for the statement: a dial returned a connection, with a fingerprint if it is
over TLS, or the user trusted a fingerprint for the address. -/
inductive Entry
  | connected (addr : String) (fp : Option String)
  | trusted (key : String)
  deriving DecidableEq, Repr

/-- The store, the setting and the dials; the log has the newest entry first. -/
structure State where
  store : KnownServers := {}
  allowPlaintext : Bool := false
  dials : ℕ → Dial := fun _ => .idle
  log : List Entry := []

/-- What happens next. -/
inductive Event
  | dial (i : ℕ) (trustAddr : String)
  /-- the peer presents a certificate -/
  | present (i : ℕ) (fp : String)
  /-- the connection or the handshake fails -/
  | fail (i : ℕ)
  /-- the dial goes on; `ok` says whether the file is written, or the plaintext dial succeeds -/
  | act (i : ℕ) (ok : Bool)
  /-- the user trusts a fingerprint -/
  | trust (addr fp : String) (written : Bool)
  | setPlaintext (allow : Bool)

namespace State

variable (L : AddrLib) (s : State)

def setDial (i : ℕ) (d : Dial) : State := { s with dials := Function.update s.dials i d }

/-- A dial returns a connection. -/
def connect (i : ℕ) (addr : String) (fp : Option String) : State :=
  { s with log := .connected addr fp :: s.log }.setDial i .returned

/-- The certificate of the peer is verified inside the handshake.
Source: `client/conn.go`, `dialEndpoint` (`VerifyConnection`) -/
def present (i : ℕ) (fp : String) : State :=
  match s.dials i with
  | .handshake addr =>
    match s.store.verify L addr fp with
    | some .trustUnknown => s.setDial i (.verified addr fp true)
    | some .trustOK => s.setDial i (.verified addr fp false)
    | some .trustMismatch | none => s.setDial i .returned
  | _ => s

/-- The dial goes on after the handshake.
Source: `client/conn.go`, `dialEndpoint` -/
def act (i : ℕ) (ok : Bool) : State :=
  match s.dials i with
  | .verified addr fp true =>
    match s.store.trust L ok addr fp with
    | none => s.setDial i .returned
    | some store => { s with store }.setDial i (.pinned addr fp)
  | .verified addr fp false => s.setDial i (.pinned addr fp)
  | .pinned addr fp => s.connect i addr (some fp)
  | .tlsFailed addr =>
    if s.allowPlaintext then s.setDial i (.plaintext addr) else s.setDial i .returned
  | .plaintext addr => if ok then s.connect i addr none else s.setDial i .returned
  | .idle | .handshake _ | .returned => s

def step : Event → State
  | .dial i trustAddr =>
    match s.dials i, L.normalize trustAddr with
    | .idle, some addr => s.setDial i (.handshake addr)
    | _, _ => s
  | .present i fp => s.present L i fp
  | .fail i =>
    match s.dials i with
    | .handshake addr | .verified addr _ _ => s.setDial i (.tlsFailed addr)
    | _ => s
  | .act i ok => s.act L i ok
  | .trust addr fp written =>
    match s.store.trust L written addr fp, L.normalize addr with
    | some store, some key => { s with store, log := .trusted key :: s.log }
    | _, _ => s
  | .setPlaintext allow => { s with allowPlaintext := allow }

/-- After a connection with a fingerprint, every later connection of the trust address is over TLS
with this fingerprint, unless the user has trusted one for it in between. -/
def Continuous : Prop :=
  ∀ later addr r between fp earlier,
    s.log = later ++ .connected addr r :: (between ++ .connected addr (some fp) :: earlier) →
      (∀ key, L.normalize addr = some key → .trusted key ∉ between) →
        ∃ fp', r = some fp' ∧ L.secureEqualFold fp' fp

/-- A dial pins its certificate where none or the same one is pinned; no dial falls back to
plaintext; the user trusts a fingerprint where no dial of the address goes on with another one. -/
def Careful : Event → Prop
  | .act i _ =>
    match s.dials i with
    | .verified addr fp true => ∀ key known, L.normalize addr = some key →
        s.store.servers.lookup key = some known → L.secureEqualFold known fp
    | .tlsFailed _ => s.allowPlaintext = false
    | _ => True
  | .trust addr fp _ => ∀ i a fp', (s.dials i).accepted = some (a, fp') →
      L.normalize a = L.normalize addr → L.secureEqualFold fp fp'
  | _ => True

end State

open State

/-! ## The invariant -/

section invariant

variable {L : AddrLib} {ks : KnownServers} {s : State} {i : ℕ} {addr fp fp' key : String}

/-- The store has the certificate pinned for the address. -/
def Pinned (L : AddrLib) (ks : KnownServers) (addr fp : String) : Prop :=
  ∃ key known, L.normalize addr = some key ∧ ks.servers.lookup key = some known ∧
    L.secureEqualFold known fp

/-- An address has one pin. -/
theorem Pinned.same (h : Pinned L ks addr fp) (h' : Pinned L ks addr fp') :
    L.secureEqualFold fp fp' := by
  obtain ⟨key, known, hkey, hknown, hfp⟩ := h
  obtain ⟨key', known', hkey', hknown', hfp'⟩ := h'
  cases hkey.symm.trans hkey'
  cases hknown.symm.trans hknown'
  exact hfp.symm.trans hfp'

/-- A pin survives where its key is written only with the same certificate. -/
lemma Pinned.update (h : Pinned L ks addr fp)
    (hsame : L.normalize addr = some key → L.secureEqualFold fp' fp) :
    Pinned L { ks with servers := ks.servers.insert key fp' } addr fp := by
  obtain ⟨k, known, hk, hknown, hfp⟩ := h
  by_cases hkey : k = key
  · subst hkey
    exact ⟨k, fp', hk, Finmap.lookup_insert .., hsame hk⟩
  · exact ⟨k, known, hk, (Finmap.lookup_insert_of_ne _ hkey).trans hknown, hfp⟩

/-- The answers of the store. -/
lemma pinned_of_verify (h : ks.verify L addr fp = some .trustOK) : Pinned L ks addr fp := by
  unfold KnownServers.verify at h
  split at h
  · cases h
  obtain ⟨key, hkey, hstatus⟩ := Option.map_eq_some_iff.mp h
  split at hstatus
  · cases hstatus
  next known hknown =>
    split at hstatus
    next hfp => exact ⟨key, known, hkey, hknown, hfp⟩
    next => cases hstatus

lemma trust_eq_some {written : Bool} {ks' : KnownServers}
    (h : ks.trust L written addr fp = some ks') : ∃ key, L.normalize addr = some key ∧
      ks' = { ks with servers := ks.servers.insert key fp } := by
  unfold KnownServers.trust at h
  split at h
  · cases h
  obtain ⟨key, hkey, rfl⟩ := Option.map_eq_some_iff.mp h
  exact ⟨key, hkey, rfl⟩

variable (L) in
/-- The dials that go on and the connections made so far agree with the pins. -/
structure Inv (s : State) : Prop where
  dials : ∀ i addr fp, (s.dials i).accepted = some (addr, fp) → Pinned L s.store addr fp
  notPlain : ∀ i addr, s.dials i ≠ .plaintext addr
  log : ∀ between addr fp earlier, s.log = between ++ .connected addr (some fp) :: earlier →
    (∀ key, L.normalize addr = some key → .trusted key ∉ between) → Pinned L s.store addr fp
  continuous : s.Continuous L

variable (h : Inv L s)

include h

lemma Inv.setDial {d : Dial}
    (hd : ∀ addr fp, d.accepted = some (addr, fp) → Pinned L s.store addr fp)
    (hplain : ∀ addr, d ≠ .plaintext addr) : Inv L (s.setDial i d) where
  dials := (Function.forall_update_iff s.dials fun _ d => ∀ addr fp,
    d.accepted = some (addr, fp) → Pinned L s.store addr fp).mpr ⟨hd, fun j _ => h.dials j⟩
  notPlain := (Function.forall_update_iff s.dials fun _ d => ∀ addr, d ≠ .plaintext addr).mpr
    ⟨hplain, fun j _ => h.notPlain j⟩
  log := h.log
  continuous := h.continuous

/-- A dial moves to a phase that holds no certificate. -/
theorem Inv.drop {d : Dial} (hd : d.accepted = none) (hplain : ∀ addr, d ≠ .plaintext addr) :
    Inv L (s.setDial i d) :=
  h.setDial (fun _ _ hsome => by rw [hd] at hsome; cases hsome) hplain

/-- A dial returns a connection with the pinned certificate. -/
lemma Inv.connect (hpin : Pinned L s.store addr fp) : Inv L (s.connect i addr (some fp)) := by
  have hlogged : Inv L { s with log := .connected addr (some fp) :: s.log } := by
    refine ⟨h.dials, h.notPlain, ?_, ?_⟩
    · intro between a fp' earlier hlog hnot
      rcases cons_eq_append_iff.mp hlog with ⟨-, hhead⟩ | ⟨rest, rfl, hrest⟩
      · cases hhead
        exact hpin
      · exact h.log rest a fp' earlier hrest fun key hkey hmem =>
          hnot key hkey (mem_cons_of_mem _ hmem)
    · intro later a r between fp' earlier hlog hnot
      rcases cons_eq_append_iff.mp hlog with ⟨-, hhead⟩ | ⟨rest, -, hrest⟩
      · -- the new connection follows one with a certificate that is still pinned
        obtain ⟨hentry, htail⟩ := List.cons.inj hhead
        cases hentry
        exact ⟨fp, rfl, hpin.same (h.log between addr fp' earlier htail.symm hnot)⟩
      · exact h.continuous rest a r between fp' earlier hrest hnot
  exact hlogged.drop rfl fun _ => by simp

/-- A certificate is pinned for the key. -/
theorem Inv.pin (key fp : String) (log : List Entry)
    (hdials : ∀ i a fp', (s.dials i).accepted = some (a, fp') → L.normalize a = some key →
      L.secureEqualFold fp fp') (hlog : log = .trusted key :: s.log ∨ log = s.log ∧
      ∀ known, s.store.servers.lookup key = some known → L.secureEqualFold known fp) :
    Inv L { s with store := { s.store with servers := s.store.servers.insert key fp }, log } where
  dials i a fp' hi := (h.dials i a fp' hi).update (hdials i a fp' hi)
  notPlain := h.notPlain
  log := by
    intro between a fp' earlier heq hnot
    rcases hlog with rfl | ⟨rfl, hsame⟩
    · rcases cons_eq_append_iff.mp heq with ⟨-, hhead⟩ | ⟨rest, rfl, hrest⟩
      · cases hhead
      · refine (h.log rest a fp' earlier hrest fun key hkey hmem =>
          hnot key hkey (mem_cons_of_mem _ hmem)).update fun hkey => ?_
        exact absurd mem_cons_self (hnot key hkey)
    · have hpin := h.log between a fp' earlier heq hnot
      refine hpin.update fun hkey => ?_
      obtain ⟨k, known, hk, hknown, hfp⟩ := hpin
      cases hk.symm.trans hkey
      exact (hsame known hknown).symm.trans hfp
  continuous := by
    intro later a r between fp' earlier heq hnot
    rcases hlog with rfl | ⟨rfl, -⟩
    · rcases cons_eq_append_iff.mp heq with ⟨-, hhead⟩ | ⟨rest, -, hrest⟩
      · cases hhead
      · exact h.continuous rest a r between fp' earlier hrest hnot
    · exact h.continuous later a r between fp' earlier heq hnot

/-- A server presents its key. -/
theorem Inv.present (i : ℕ) (fp : String) : Inv L (s.present L i fp) := by
  unfold State.present
  split
  next addr _ =>
    split
    next => exact h.drop rfl fun _ => by simp
    next hok =>
      refine h.setDial (fun a fp' hd => ?_) fun _ => by simp
      cases hd
      exact pinned_of_verify hok
    next => exact h.drop rfl fun _ => by simp
    next => exact h.drop rfl fun _ => by simp
  next => exact h

lemma Inv.act (i : ℕ) (ok : Bool) (hok : s.Careful L (.act i ok)) : Inv L (s.act L i ok) := by
  unfold State.act
  dsimp only [Careful] at hok
  have hi := h.dials i
  split
  next addr fp hd =>
    rw [hd] at hok
    split
    next => exact h.drop rfl fun _ => by simp
    next store htrust =>
      obtain ⟨key, hkey, rfl⟩ := trust_eq_some htrust
      have hpinned := h.pin key fp s.log (fun j a fp' hj hkeya => ?_)
        (.inr ⟨rfl, fun known => hok key known hkey⟩)
      · refine hpinned.setDial (fun a fp' hd => ?_) fun _ => by simp
        cases hd
        exact ⟨key, fp, hkey, Finmap.lookup_insert .., rfl⟩
      · -- a dial that goes on has found a pin, and it is the same certificate
        obtain ⟨k, known, hk, hknown, hfp⟩ := h.dials j a fp' hj
        obtain rfl : k = key := Option.some.inj (hk.symm.trans hkeya)
        exact (hok k known hkey hknown).symm.trans hfp
  next addr fp hd =>
    refine h.setDial (fun a fp' hd' => hi a fp' ?_) fun _ => by simp
    rw [hd]
    exact hd'
  next addr fp hd => exact h.connect (hi addr fp (by rw [hd]; rfl))
  next addr hd =>
    rw [hd] at hok
    simp only [hok, Bool.false_eq_true, if_false]
    exact h.drop rfl fun _ => by simp
  next addr hd => exact absurd hd (h.notPlain i addr)
  all_goals exact h

/-- Every careful event keeps the invariant. -/
theorem Inv.step (e : Event) (hok : s.Careful L e) : Inv L (s.step L e) := by
  cases e with
  | dial i trustAddr =>
    dsimp only [State.step]
    split
    · exact h.drop rfl fun _ => by simp
    · exact h
  | present i fp => exact h.present i fp
  | act i ok => exact h.act i ok hok
  | setPlaintext allow => exact ⟨h.dials, h.notPlain, h.log, h.continuous⟩
  | fail i =>
    dsimp only [State.step]
    split
    · exact h.drop rfl fun _ => by simp
    · exact h.drop rfl fun _ => by simp
    · exact h
  | trust addr fp written =>
    dsimp only [State.step]
    split
    next store key htrust hkey =>
      obtain ⟨key', hkey', rfl⟩ := trust_eq_some htrust
      obtain rfl : key' = key := Option.some.inj (hkey'.symm.trans hkey)
      exact h.pin key' fp _ (fun i a fp' hi ha => hok i a fp' hi (ha.trans hkey.symm)) (.inl rfl)
    next => exact h

end invariant

/-! ## The main result -/

/-- **In every run of dials with any peers, in which no dial falls back to plaintext or pins over
another pin, a server that was reached with a fingerprint is reached only over TLS with this
fingerprint, until the user trusts another one.** -/
theorem pins_not_swapped (L : AddrLib) (store : KnownServers) (events : List Event)
    (hok : StepsOK (step L) (Careful L) { store } events) :
    Throughout (step L) (Continuous L) { store } events := by
  have hstart : Inv L { store } :=
    ⟨fun _ _ _ hi => (nomatch hi), fun _ _ hi => (nomatch hi),
      fun _ _ _ _ hlog => absurd hlog (by simp), fun _ _ _ _ _ _ hlog => absurd hlog (by simp)⟩
  exact (throughout_of_stepsOK (fun _ e h hok => h.step e hok) hstart hok).mono
    fun _ h => h.continuous

/-- Every address is canonical, and the fingerprints are in lower case. -/
def plainLib : AddrLib := ⟨id, some⟩

/-- Two dials, one after the other. -/
def twoDials : List Event :=
  [.dial 0 "a:1", .present 0 "f", .act 0 true, .act 0 true, .dial 1 "a:1", .present 1 "f",
    .act 1 true, .act 1 true]

theorem twoDials_not_swapped :
    StepsOK (step plainLib) (Careful plainLib) {} twoDials ∧
      Throughout (step plainLib) (Continuous plainLib) {} twoDials :=
  have hok : StepsOK (step plainLib) (Careful plainLib) {} twoDials :=
    ⟨trivial, trivial, fun _ _ _ h => (nomatch h), trivial, trivial, trivial, trivial, trivial,
      trivial⟩
  ⟨hok, pins_not_swapped plainLib {} twoDials hok⟩

/-- Two first dials verify before either pins. The second one is answered by another server. -/
def overlappingDials : List Event :=
  [.dial 0 "a:1", .dial 1 "a:1", .present 0 "f", .present 1 "g", .act 0 true, .act 0 true,
    .act 1 true, .act 1 true]

/-- Both dials connect, to different servers. -/
theorem late_pin_swaps_server :
    (run (step plainLib) {} overlappingDials).log =
        [.connected "a:1" (some "g"), .connected "a:1" (some "f")] ∧
      ¬(run (step plainLib) {} overlappingDials).Continuous plainLib := by
  refine ⟨by decide +kernel, fun h => ?_⟩
  obtain ⟨fp, hfp, hsame⟩ := h [] "a:1" (some "g") [] "f" [] (by decide +kernel) fun _ _ => by simp
  cases hfp
  exact absurd hsame (by decide)

end Voicx.Client.Dialing
