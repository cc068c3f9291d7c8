import Mathlib
import Voicx.Client.Dialing
import Voicx.Client.ServerAddr

/-!
# Certificate pins across a restart

The pins are saved under their normalised addresses, and the loading client normalises the saved
addresses once more. What is saved comes back if the second normalisation changes nothing.

* `decodeKnownServers` — the loop over the saved pins, which refuses two pins of one key.
* `PinFile.step` — calls of `trust` and restarts of the client.
* `survive_restart_iff_settled` — the pins of a set of addresses survive in every run if and only if
  the keys of these addresses are normalised to themselves.
* **`pins_survive_restart_iff`** — that is, if and only if the host of each address is an IP
  address, or its name ends in neither a dot nor a blank and is not an IP address in another form.
* `dotted_host_forgets_pin` — a host that ends in two dots loses its pin.

The saved file is the map it was encoded from.
-/

namespace Voicx.Client.Dialing

open Found FMap Finmap RangeOrder

/-- The store's functions over addresses, from the texts of `ServerAddr`. -/
def NetLib.addrLib (N : NetLib) : AddrLib where
  toLower text := String.ofList (text.toList.map N.lower)
  normalize addr := (N.normalizeServerAddr addr.toList).map String.ofList

/-! ## Loading the file -/

variable (L : AddrLib)

/-- One saved pin. -/
def loadPin (file canonical : FMap String String) (addr : String) : Option (FMap String String) := do
  let fingerprint ← file.lookup addr
  let key ← L.normalize addr
  match canonical.lookup key with
  | some prior =>
    if L.secureEqualFold prior fingerprint then some (canonical.insert key fingerprint) else none
  | none => some (canonical.insert key fingerprint)

/-- Source: `client/tofu.go`, `decodeKnownServers` -/
def decodeKnownServers (file : FMap String String) : Option (FMap String String) :=
  (ascending.keys file).foldlM (loadPin L file) ∅

/-- Source: `client/tofu.go`, `loadKnownServersAt` -/
def loadKnownServersAt (file : FMap String String) : KnownServers :=
  match decodeKnownServers L file with
  | some servers => { servers }
  | none => { loadErr := true }

/-- A client with its file; at first there is none, which reads as an empty one. -/
structure PinFile where
  file : FMap String String := ∅
  store : KnownServers := {}

inductive PinEvent
  | trust (addr fp : String) (written : Bool)
  | restart

namespace PinFile

def step (s : PinFile) : PinEvent → PinFile
  | .trust addr fp written =>
    match s.store.trust L written addr fp with
    | some store => { file := store.servers, store }
    | none => s
  | .restart => { s with store := loadKnownServersAt L s.file }

/-- The saved file loads, and the loaded pins answer as the ones in memory do. -/
def Survives (s : PinFile) : Prop :=
  (loadKnownServersAt L s.file).loadErr = false ∧
    ∀ addr key fp, L.normalize addr = some key → s.store.servers.lookup key = some fp →
      (loadKnownServersAt L s.file).verify L addr fp = some .trustOK ∧
        ∀ fp', ¬L.secureEqualFold fp fp' →
          (loadKnownServersAt L s.file).verify L addr fp' = some .trustMismatch

end PinFile

/-- The address is one of the set. -/
def PinEvent.Within (A : Set String) : PinEvent → Prop
  | .trust addr _ _ => addr ∈ A
  | .restart => True

/-- The key of the address is its own key. -/
def Settled (addr : String) : Prop :=
  ∀ key, L.normalize addr = some key → L.normalize key = some key

/-! ## What is loaded -/

section loading

variable {L} {file : FMap String String} {s : PinFile} {A : Set String} {addr key fp : String}

/-- The loop over saved keys that are their own keys copies their pins. -/
lemma foldlM_loadPin (keys : List String) (canonical : FMap String String) (hnodup : keys.Nodup)
    (hkeys : ∀ k ∈ keys, k ∈ file ∧ L.normalize k = some k ∧ k ∉ canonical) :
    ∃ servers, keys.foldlM (loadPin L file) canonical = some servers ∧
      ∀ k, servers.lookup k = if k ∈ keys then file.lookup k else canonical.lookup k := by
  induction keys generalizing canonical with
  | nil => exact ⟨canonical, rfl, fun k => by simp⟩
  | cons k keys ih =>
    obtain ⟨hk, hkeys⟩ := List.forall_mem_cons.mp hkeys
    obtain ⟨hnew, hnodup⟩ := List.nodup_cons.mp hnodup
    obtain ⟨fp, hfp⟩ := mem_iff.mp hk.1
    have hload : loadPin L file canonical k = some (canonical.insert k fp) := by
      simp [loadPin, hfp, hk.2.1, lookup_eq_none.mpr hk.2.2]
    obtain ⟨servers, hfold, hlookup⟩ := ih (canonical.insert k fp) hnodup fun j hj => by
      have hne : j ≠ k := fun heq => hnew (heq ▸ hj)
      simpa [hne] using hkeys j hj
    refine ⟨servers, by rw [List.foldlM_cons, hload]; exact hfold, fun j => ?_⟩
    rw [hlookup]
    by_cases hj : j = k
    · subst hj
      simp [hnew, hfp]
    · simp [hj]

/-- A file whose keys are their own keys is loaded as it is. -/
lemma load_of_settled (h : ∀ k ∈ file, L.normalize k = some k) :
    loadKnownServersAt L file = { servers := file } := by
  have hmem := ascending.mem_keys file
  obtain ⟨servers, hfold, hlookup⟩ := foldlM_loadPin _ ∅ (ascending.nodup file)
    fun k hk => ⟨(hmem k).mp hk, h k ((hmem k).mp hk), notMem_empty⟩
  have hsame : servers = file := by
    refine ext_lookup fun k => ?_
    rw [hlookup]
    split
    next => rfl
    next hk => exact (lookup_eq_none.mpr fun hfile => hk ((hmem k).mpr hfile)).symm
  rw [loadKnownServersAt, decodeKnownServers, hfold, hsame]

/-- A file with one pin, under a key that is not its own key, does not answer for the key. -/
lemma settled_of_survives (h : PinFile.Survives L (PinFile.step L {} (.trust addr "" true)))
    (hkey : L.normalize addr = some key) : L.normalize key = some key := by
  have htrust : PinFile.step L {} (.trust addr "" true) =
      ⟨Finmap.insert key "" ∅, { servers := Finmap.insert key "" ∅ }⟩ := by
    simp [PinFile.step, KnownServers.trust, hkey]
  rw [htrust] at h
  obtain ⟨-, hpins⟩ := h
  have hok := (hpins addr key "" hkey (lookup_insert _)).1
  obtain ⟨k, known, hk, hlookup, -⟩ := pinned_of_verify hok
  obtain rfl : k = key := Option.some.inj (hk.symm.trans hkey)
  have hload : decodeKnownServers L (Finmap.insert k "" ∅) =
      (L.normalize k).map fun k' => Finmap.insert k' "" ∅ := by
    have hsort : ascending.keys (Finmap.insert k "" ∅ : FMap String String) = [k] :=
      Finset.sort_singleton (· ≤ ·) k
    rw [decodeKnownServers, hsort]
    cases hk' : L.normalize k <;> simp [loadPin, hk']
  rw [loadKnownServersAt, hload] at hlookup
  cases hk' : L.normalize k with
  | none => simp [hk'] at hlookup
  | some k' =>
    rw [hk', Option.map_some, FMap.lookup_insert_ite] at hlookup
    split at hlookup
    next heq => rw [heq]
    next => simp at hlookup

variable (L) in
/-- Memory and file agree, and their keys are their own keys. -/
structure PinFile.Inv (s : PinFile) : Prop where
  loaded : s.store = { servers := s.file }
  settled : ∀ k ∈ s.file, L.normalize k = some k

/-- Every event keeps the invariant. -/
theorem PinFile.Inv.step (h : s.Inv L) (hA : ∀ addr ∈ A, Settled L addr) (e : PinEvent)
    (he : e.Within A) : (s.step L e).Inv L := by
  cases e with
  | restart => exact ⟨load_of_settled h.settled, h.settled⟩
  | trust addr fp written =>
    dsimp only [PinFile.step]
    split
    next store htrust =>
      obtain ⟨key, hkey, rfl⟩ := trust_eq_some htrust
      rw [h.loaded]
      refine ⟨rfl, fun k hk => ?_⟩
      rcases mem_insert.mp hk with rfl | hold
      · exact hA addr he k hkey
      · exact h.settled k hold
    next => exact h

lemma PinFile.Inv.survives (h : s.Inv L) : s.Survives L := by
  have hload := load_of_settled h.settled
  refine ⟨by rw [hload], fun addr key fp hkey hfp => ?_⟩
  rw [h.loaded] at hfp
  rw [hload]
  refine ⟨?_, fun fp' hne => ?_⟩
  · simp [KnownServers.verify, hkey, hfp, AddrLib.secureEqualFold]
  · simp [KnownServers.verify, hkey, hfp, hne]

end loading

/-! ## The main result -/

/-- The pins of a set of addresses survive every restart, in every run of pins for these addresses
and restarts, if and only if the key of each of the addresses is its own key. -/
theorem survive_restart_iff_settled (A : Set String) :
    (∀ events : List PinEvent, (∀ e ∈ events, e.Within A) →
      Throughout (PinFile.step L) (PinFile.Survives L) {} events) ↔
    ∀ addr ∈ A, Settled L addr := by
  constructor
  · intro h addr haddr key hkey
    refine settled_of_survives (h [.trust addr "" true] ?_).final hkey
    exact List.forall_mem_singleton.mpr haddr
  · intro hA events hwithin
    have hstart : PinFile.Inv L {} := ⟨rfl, fun k hk => absurd hk notMem_empty⟩
    exact (throughout_of_stepsOK (fun s e h he => h.step hA e he) hstart
      (.of_mem hwithin)).mono fun s h => h.survives

/-- The condition on the keys, as one on the hosts. -/
lemma settled_iff_keepsHost {N : NetLib} (hN : N.Lawful) (addr : String) :
    Settled N.addrLib addr ↔
      ∀ host port, endpoint addr.toList = some (host, port) → N.KeepsHost host := by
  have hlist : Settled N.addrLib addr ↔ ∀ key, N.normalizeServerAddr addr.toList = some key →
      N.normalizeServerAddr key = some key := by
    simp [Settled, NetLib.addrLib, String.ofList_inj]
  rw [hlist]
  cases hend : endpoint addr.toList with
  | none => simp [NetLib.normalizeServerAddr, hend]
  | some e =>
    rw [normalize_again_iff hN hend]
    exact ⟨by rintro h _ _ ⟨⟩; exact h, fun h => h _ _ rfl⟩

/-- **The pins of a set of addresses survive every restart**, in every run of pins for these
addresses and restarts, if and only if each host is an IP address, or its name in lower case and
without one trailing dot ends in neither a dot nor a blank and is not an IP address in another
form. -/
theorem pins_survive_restart_iff (N : NetLib) (hN : N.Lawful) (A : Set String) :
    (∀ events : List PinEvent, (∀ e ∈ events, e.Within A) →
      Throughout (PinFile.step N.addrLib) (PinFile.Survives N.addrLib) {} events) ↔
    ∀ addr ∈ A, ∀ host port, endpoint addr.toList = some (host, port) → N.KeepsHost host := by
  simp only [survive_restart_iff_settled, settled_iff_keepsHost hN]

/-- ASCII letters; the one IP address is `::1`, which has another form. -/
def asciiLib : NetLib where
  lower := Char.toLower
  parseIP host := if host ∈ ["::1".toList, "::0001".toList] then some "::1".toList else none

lemma isSpace_of_letter {c : Char} (h : 65 ≤ c.val ∧ c.val ≤ 122) : isSpace c = false := by
  have hrange : 65 ≤ c.toNat ∧ c.toNat ≤ 122 := by simpa [UInt32.le_iff_toNat_le] using h
  simp [isSpace]
  omega

lemma lawful_asciiLib : asciiLib.Lawful := by
  have hcapital : ∀ c : Char, c.toLower = c ∨
      (65 ≤ c.val ∧ c.val ≤ 90) ∧ 97 ≤ c.toLower.val ∧ c.toLower.val ≤ 122 := by
    grind [Char.toLower]
  have hip : ∀ {host ip}, asciiLib.parseIP host = some ip → ip = "::1".toList := fun h =>
    (Option.some.inj (Option.ite_none_right_eq_some.mp h).2).symm
  refine ⟨fun c => ?_, fun c => ?_, fun c hc => ?_, fun h => ?_, fun h => ?_, fun h => ?_⟩
  · show c.toLower.toLower = c.toLower
    grind
  · show isSpace c.toLower = isSpace c
    rcases hcapital c with hsame | ⟨hup, hlow⟩
    · rw [hsame]
    · rw [isSpace_of_letter (c := c.toLower) (by grind), isSpace_of_letter (c := c) (by grind)]
  · show c.toLower ≠ '[' ∧ c.toLower ≠ ']'
    rcases hcapital c with hsame | ⟨-, hlow⟩
    · rwa [hsame]
    · constructor <;> intro heq <;> exact absurd hlow.1 (by rw [heq]; decide)
  · obtain rfl := hip h
    rfl
  · obtain rfl := hip h
    simp [isSpace]
  · obtain rfl := hip h
    exact ⟨'1', rfl, by decide⟩

/-- A pin of an address in another form and one of a name in capitals with a dot survive. -/
theorem pins_survive_restart_iff_forms :
    Throughout (PinFile.step asciiLib.addrLib) (PinFile.Survives asciiLib.addrLib) {}
      [.trust "[::0001]:1" "f" true, .trust "Ab.:1" "g" true, .restart] := by
  refine (pins_survive_restart_iff asciiLib lawful_asciiLib {"[::0001]:1", "Ab.:1"}).mpr ?_ _ ?_
  · rintro addr (rfl | rfl) host port hend
    · cases hend.symm.trans (by decide +kernel :
        endpoint "[::0001]:1".toList = some ("::0001".toList, 1))
      nofun
    · cases hend.symm.trans (by decide +kernel : endpoint "Ab.:1".toList = some ("Ab.".toList, 1))
      rintro - _ ⟨⟩
      exact ⟨by rintro _ ⟨⟩; decide, by decide +kernel⟩
  · intro e he
    fin_cases he <;> simp [PinEvent.Within]

/-- After a restart the pin of `a..:1` is not found. -/
theorem dotted_host_forgets_pin :
    let s := PinFile.step asciiLib.addrLib {} (.trust "a..:1" "f" true)
    s.store.verify asciiLib.addrLib "a..:1" "f" = some .trustOK ∧
      (loadKnownServersAt asciiLib.addrLib s.file).verify asciiLib.addrLib "a..:1" "f" =
        some .trustUnknown ∧
      ¬s.Survives asciiLib.addrLib := by
  refine ⟨by decide +kernel, by decide +kernel, fun h => ?_⟩
  exact absurd (h.2 "a..:1" "a.:1" "f" (by decide +kernel) (by decide +kernel)).1
    (by decide +kernel)

end Voicx.Client.Dialing
