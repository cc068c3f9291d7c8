import Mathlib.Data.List.DropRight
import Mathlib.Tactic

/-!
# The keys of server addresses

A certificate is pinned under the key of its server's address, and a saved key is normalised again
when it is loaded. The text functions of the library that the code calls are written out;
`unicode.ToLower` and `net.ParseIP` are parameters with the laws `NetLib.Lawful`.

* `NetLib.normalizeServerAddr` — the key of an address.
* `endpoint_join` — a key is read as the host and the port that it was made from, up to blanks.
* `NetLib.KeepsHost` — a host that is an IP address, or whose name ends in neither a dot nor a blank
  and is not an IP address in another form.
* **`normalize_again_iff`** — the key of an address is its own key if and only if the host of the
  address is such a host.

Source names are from `client/tofu.go`.
-/

namespace Voicx.Client.Dialing

open List

/-- The parts of the library that are not modelled. -/
structure NetLib where
  /-- `unicode.ToLower` -/
  lower : Char → Char
  /-- `net.ParseIP`, and the text that `String` gives for the address -/
  parseIP : List Char → Option (List Char)

/-- `unicode.IsSpace` -/
def isSpace (c : Char) : Bool :=
  c.toNat ∈ [9, 10, 11, 12, 13, 32, 0x85, 0xa0, 0x1680, 0x2028, 0x2029, 0x202f, 0x205f, 0x3000] ||
    (0x2000 ≤ c.toNat && c.toNat ≤ 0x200a)

/-- `strings.TrimSpace` -/
def trimSpace (text : List Char) : List Char := (text.dropWhile isSpace).rdropWhile isSpace

/-- `net.SplitHostPort`: a host in brackets may have colons. -/
def splitHostPort : List Char → Option (List Char × List Char)
  | '[' :: rest =>
    match rest.dropWhile (· ≠ ']') with
    | ']' :: ':' :: port =>
      if '[' ∈ rest ∨ ']' ∈ port ∨ ':' ∈ port then none
      else some (rest.takeWhile (· ≠ ']'), port)
    | _ => none
  | addr =>
    match addr.dropWhile (· ≠ ':') with
    | ':' :: port =>
      if '[' ∈ addr ∨ ']' ∈ addr ∨ ':' ∈ port then none
      else some (addr.takeWhile (· ≠ ':'), port)
    | _ => none

/-- `net.JoinHostPort` -/
def joinHostPort (host : List Char) (port : ℕ) : List Char :=
  (if ':' ∈ host then '[' :: host ++ [']'] else host) ++ ':' :: Nat.toDigits 10 port

/-- `strconv.Atoi`, and the check of the range: a text with a minus sign never passes it. -/
def parsePort (text : List Char) : Option ℕ :=
  let digits := if text.head? = some '+' then text.tail else text
  let port := digits.foldl (fun n c => 10 * n + (c.toNat - 48)) 0
  if digits ≠ [] ∧ digits.all Char.isDigit ∧ 1 ≤ port ∧ port ≤ 65535 then some port else none

/-- The trimmed host of an address, and its port. -/
def endpoint (addr : List Char) : Option (List Char × ℕ) := do
  let (hostText, portText) ← splitHostPort (trimSpace addr)
  let host := trimSpace hostText
  if host = [] then none else (parsePort portText).map (host, ·)

/-- `strings.TrimSuffix`, which takes one dot only. -/
def trimDot (name : List Char) : List Char :=
  if name.getLast? = some '.' then name.dropLast else name

/-- The form of a host in a key: the text of an IP address, or a name in lower case. -/
def NetLib.keyHost (N : NetLib) (host : List Char) : Option (List Char) :=
  match N.parseIP host with
  | some ip => some ip
  | none =>
    let name := trimDot (host.map N.lower)
    if name = [] then none else some name

/-- Errors are `none`. Source: `normalizeServerAddr` -/
def NetLib.normalizeServerAddr (N : NetLib) (addr : List Char) : Option (List Char) := do
  let (host, port) ← endpoint addr
  (N.keyHost host).map (joinHostPort · port)

/-- What is assumed of `unicode.ToLower` and `net.ParseIP`. -/
structure NetLib.Lawful (N : NetLib) : Prop where
  lower_lower : ∀ c, N.lower (N.lower c) = N.lower c
  isSpace_lower : ∀ c, isSpace (N.lower c) = isSpace c
  /-- no other character becomes a bracket -/
  lower_bare : ∀ c, c ≠ '[' ∧ c ≠ ']' → N.lower c ≠ '[' ∧ N.lower c ≠ ']'
  /-- the text of an address is parsed to the same address -/
  parseIP_text : ∀ {host ip}, N.parseIP host = some ip → N.parseIP ip = some ip
  text_chars : ∀ {host ip}, N.parseIP host = some ip →
    ∀ c ∈ ip, isSpace c = false ∧ c ≠ '[' ∧ c ≠ ']'
  text_last : ∀ {host ip}, N.parseIP host = some ip → ∃ c ∈ ip.getLast?, c ≠ '.'

/-- The host keeps its form when its key is read again: it is an IP address, or the name in its key
ends in neither a dot nor a blank and is not an IP address in another form. -/
def NetLib.KeepsHost (N : NetLib) (host : List Char) : Prop :=
  N.parseIP host = none → ∀ name ∈ N.keyHost host,
    (∀ c ∈ name.getLast?, c ≠ '.' ∧ isSpace c = false) ∧ ∀ ip ∈ N.parseIP name, ip = name

variable {N : NetLib} {h h' text : List Char} {port : ℕ}

/-! ## Trimming -/

/-- A host without brackets that does not start with a blank. -/
structure BareHost (h : List Char) : Prop where
  ne_nil : h ≠ []
  bare : ∀ c ∈ h, c ≠ '[' ∧ c ≠ ']'
  first : ∀ c ∈ h.head?, isSpace c = false

lemma BareHost.shorten (hh : BareHost h) (hpre : h' <+: h) (hne : h' ≠ []) : BareHost h' := by
  refine ⟨hne, fun c hc => hh.bare c (hpre.subset hc), fun c hc => hh.first c ?_⟩
  obtain ⟨rest, rfl⟩ := hpre
  rw [head?_append, hc]
  rfl

lemma dropWhile_of_first (hfirst : ∀ c ∈ text.head?, isSpace c = false) :
    text.dropWhile isSpace = text := by
  cases text with
  | nil => rfl
  | cons c text => simp [hfirst c rfl]

/-- A text with a blank at neither end is trimmed. -/
lemma trimSpace_eq_self (hfirst : ∀ c ∈ text.head?, isSpace c = false)
    (hlast : ∀ c ∈ text.getLast?, isSpace c = false) : trimSpace text = text := by
  rw [trimSpace, dropWhile_of_first hfirst, rdropWhile_eq_self_iff]
  intro hne
  simp [hlast _ (getLast?_eq_getLast_of_ne_nil hne)]

/-- What is trimmed does not start with a blank. -/
lemma bareHost_trimSpace (hbare : ∀ c ∈ text, c ≠ '[' ∧ c ≠ ']') (hne : trimSpace text ≠ []) :
    BareHost (trimSpace text) := by
  have hpre := rdropWhile_prefix isSpace (text.dropWhile isSpace)
  refine BareHost.shorten ⟨fun hnil => hne ?_, fun c hc => hbare c ?_, fun c hc => ?_⟩ hpre hne
  · rw [trimSpace, hnil]
    rfl
  · exact (dropWhile_sublist isSpace).subset hc
  · have hnot := head?_dropWhile_not isSpace text
    rw [hc] at hnot
    simpa using hnot

lemma BareHost.trimSpace (hh : BareHost h) : BareHost (trimSpace h) ∧ trimSpace h <+: h := by
  have hpre : Dialing.trimSpace h <+: h := by
    rw [Dialing.trimSpace, dropWhile_of_first hh.first]
    exact rdropWhile_prefix _ _
  refine ⟨hh.shorten hpre ?_, hpre⟩
  rw [Dialing.trimSpace, dropWhile_of_first hh.first, Ne, rdropWhile_eq_nil_iff]
  intro hall
  have hhead := head?_eq_some_head hh.ne_nil
  simpa [hh.first _ hhead] using hall _ (mem_of_head? hhead)

lemma trimDot_isPrefix (name : List Char) : trimDot name <+: name := by
  unfold trimDot
  split_ifs
  · exact dropLast_prefix name
  · exact prefix_rfl

/-! ## Reading a key -/

/-- The host that is split off has no brackets. -/
lemma splitHostPort_bare {portText : List Char} (hsplit : splitHostPort text = some (h, portText)) :
    ∀ c ∈ h, c ≠ '[' ∧ c ≠ ']' := by
  unfold splitHostPort at hsplit
  split at hsplit
  next rest =>
    split at hsplit
    next =>
      split_ifs at hsplit with hmark
      cases hsplit
      refine fun c hc => ⟨?_, by simpa using mem_takeWhile_imp hc⟩
      rintro rfl
      exact hmark (.inl ((takeWhile_sublist _).subset hc))
    next => cases hsplit
  next =>
    split at hsplit
    next =>
      split_ifs at hsplit with hmark
      cases hsplit
      refine fun c hc => ⟨?_, ?_⟩ <;> rintro rfl
      · exact hmark (.inl ((takeWhile_sublist _).subset hc))
      · exact hmark (.inr (.inl ((takeWhile_sublist _).subset hc)))
    next => cases hsplit

lemma toNat_of_mem_toDigits {c : Char} (hc : c ∈ Nat.toDigits 10 port) :
    48 ≤ c.toNat ∧ c.toNat ≤ 57 := by
  have hdigit := Nat.isDigit_of_mem_toDigits (by decide) (by decide) hc
  simpa [Char.isDigit, UInt32.le_iff_toNat_le] using hdigit

/-- Looking for the first of a mark. -/
lemma break_at {mark : Char} (hmark : mark ∉ h) (rest : List Char) :
    (h ++ mark :: rest).dropWhile (· ≠ mark) = mark :: rest ∧
      (h ++ mark :: rest).takeWhile (· ≠ mark) = h := by
  have hpass : ∀ c ∈ h, decide (c ≠ mark) = true := fun c hc =>
    decide_eq_true fun heq => hmark (heq ▸ hc)
  rw [dropWhile_append_of_pos hpass, takeWhile_append_of_pos hpass]
  simp

lemma splitHostPort_join (hbare : ∀ c ∈ h, c ≠ '[' ∧ c ≠ ']') :
    splitHostPort (joinHostPort h port) = some (h, Nat.toDigits 10 port) := by
  have hopen : '[' ∉ h := fun hin => (hbare _ hin).1 rfl
  have hclose : ']' ∉ h := fun hin => (hbare _ hin).2 rfl
  have hdigits : ∀ mark ∈ ['[', ']', ':'], mark ∉ Nat.toDigits 10 port := fun mark hmem hin => by
    have hrange := toNat_of_mem_toDigits hin
    fin_cases hmem <;> exact absurd hrange (by decide)
  simp only [forall_mem_cons] at hdigits
  unfold joinHostPort
  split_ifs with hcolon
  · obtain ⟨hdrop, htake⟩ := break_at hclose (':' :: Nat.toDigits 10 port)
    rw [cons_append, cons_append, append_assoc, splitHostPort, singleton_append, hdrop, htake]
    simp [hopen, hdigits]
  · obtain ⟨hdrop, htake⟩ := break_at hcolon (Nat.toDigits 10 port)
    rw [splitHostPort, hdrop, htake]
    · simp [hopen, hclose, hdigits]
    · intro rest heq
      have hmem : '[' ∈ h ++ ':' :: Nat.toDigits 10 port := heq ▸ mem_cons_self
      simp [hopen, hdigits] at hmem

lemma parsePort_toDigits (hport : 1 ≤ port ∧ port ≤ 65535) :
    parsePort (Nat.toDigits 10 port) = some port := by
  have hvalue : (Nat.toDigits 10 port).foldl (fun n c => 10 * n + (c.toNat - 48)) 0 = port :=
    Nat.ofDigitChars_toDigits (by decide) le_rfl
  have hsign : (Nat.toDigits 10 port).head? ≠ some '+' := fun hhead =>
    absurd (toNat_of_mem_toDigits (mem_of_head? hhead)) (by decide)
  have hdigits : (Nat.toDigits 10 port).all Char.isDigit = true := all_eq_true.mpr fun c hc =>
    Nat.isDigit_of_mem_toDigits (by decide) (by decide) hc
  simp only [parsePort, if_neg hsign, hvalue]
  exact if_pos ⟨Nat.toDigits_ne_nil, hdigits, hport⟩

lemma endpoint_eq_some (hend : endpoint text = some (h, port)) :
    BareHost h ∧ 1 ≤ port ∧ port ≤ 65535 := by
  obtain ⟨⟨hostText, portText⟩, hsplit, hend⟩ := Option.bind_eq_some_iff.mp hend
  simp only [Option.ite_none_left_eq_some, Option.map_eq_some_iff, parsePort,
    Option.ite_none_right_eq_some] at hend
  obtain ⟨hne, p, ⟨hport, hp⟩, heq⟩ := hend
  cases hp
  cases heq
  exact ⟨bareHost_trimSpace (splitHostPort_bare hsplit) hne, hport.2.2⟩

/-- A key is read as the host and the port that it was made from, up to blanks. -/
lemma endpoint_join (hh : BareHost h) (hport : 1 ≤ port ∧ port ≤ 65535) :
    endpoint (joinHostPort h port) = some (trimSpace h, port) := by
  have hfirst : ∀ c ∈ (joinHostPort h port).head?, isSpace c = false := by
    unfold joinHostPort
    split_ifs
    · rintro c ⟨⟩
      rfl
    · rw [head?_append_of_ne_nil _ hh.ne_nil]
      exact hh.first
  have hlast : ∀ c ∈ (joinHostPort h port).getLast?, isSpace c = false := by
    intro c hc
    rw [joinHostPort, getLast?_append_cons, getLast?_cons_of_ne_nil Nat.toDigits_ne_nil] at hc
    have hrange := toNat_of_mem_toDigits (mem_of_getLast? hc)
    simp [isSpace]
    omega
  simp [endpoint, trimSpace_eq_self hfirst hlast, splitHostPort_join hh.bare, hh.trimSpace.1.ne_nil,
    parsePort_toDigits hport]

/-! ## Hosts in keys -/

section lawful

variable (hN : N.Lawful)

include hN

/-- The text of an IP address keeps its form. -/
lemma keyHost_of_ip (hip : N.parseIP h = some h') :
    BareHost h' ∧ N.keyHost (trimSpace h') = some h' := by
  have hchars := hN.text_chars hip
  obtain ⟨c, hc, -⟩ := hN.text_last hip
  have hfirst : ∀ c ∈ h'.head?, isSpace c = false := fun c hc => (hchars c (mem_of_head? hc)).1
  refine ⟨⟨ne_nil_of_mem (mem_of_getLast? hc), fun c hc => (hchars c hc).2, hfirst⟩, ?_⟩
  rw [trimSpace_eq_self hfirst fun c hc => (hchars c (mem_of_getLast? hc)).1, NetLib.keyHost,
    hN.parseIP_text hip]

/-- The form of a host that is a name. -/
lemma keyHost_of_name (hh : BareHost h) (hip : N.parseIP h = none)
    (hform : N.keyHost h = some h') : BareHost h' ∧ ∀ c ∈ h', N.lower c = c := by
  simp only [NetLib.keyHost, hip, Option.ite_none_left_eq_some, Option.some.injEq] at hform
  obtain ⟨hne, rfl⟩ := hform
  have hpre := trimDot_isPrefix (h.map N.lower)
  have hlower : BareHost (h.map N.lower) := by
    refine ⟨by simp [hh.ne_nil], fun c hc => ?_, fun c hc => ?_⟩
    · obtain ⟨c', hc', rfl⟩ := mem_map.mp hc
      exact hN.lower_bare c' (hh.bare c' hc')
    · rw [head?_map] at hc
      obtain ⟨c', hc', rfl⟩ := Option.map_eq_some_iff.mp hc
      rw [hN.isSpace_lower]
      exact hh.first c' hc'
  refine ⟨hlower.shorten hpre hne, fun c hc => ?_⟩
  obtain ⟨c', -, rfl⟩ := mem_map.mp (hpre.subset hc)
  exact hN.lower_lower c'

lemma bareHost_keyHost (hh : BareHost h) (hform : N.keyHost h = some h') : BareHost h' := by
  cases hip : N.parseIP h with
  | none => exact (keyHost_of_name hN hh hip hform).1
  | some ip =>
    have hkey := (keyHost_of_ip hN hip).1
    rw [NetLib.keyHost, hip] at hform
    cases hform
    exact hkey

/-- A name in lower case has its own form exactly if nothing is trimmed off it and it is not an IP
address in another form. -/
lemma keyHost_again_iff (hh : BareHost h) (hlower : ∀ c ∈ h, N.lower c = c) :
    N.keyHost (trimSpace h) = some h ↔
      (∀ c ∈ h.getLast?, c ≠ '.' ∧ isSpace c = false) ∧ ∀ ip ∈ N.parseIP h, ip = h := by
  have hpre := hh.trimSpace.2
  have hmap : (trimSpace h).map N.lower = trimSpace h :=
    (map_congr_left fun c hc => hlower c (hpre.subset hc)).trans (map_id _)
  unfold NetLib.keyHost
  rw [hmap]
  constructor
  · intro hagain
    cases hip : N.parseIP (trimSpace h) with
    | some ip =>
      rw [hip] at hagain
      cases hagain
      obtain ⟨c, hc, hdot⟩ := hN.text_last hip
      refine ⟨fun c' hc' => ?_, fun ip' hip' => ?_⟩
      · cases hc.symm.trans hc'
        exact ⟨hdot, (hN.text_chars hip c (mem_of_getLast? hc)).1⟩
      · exact (Option.some.inj ((hN.parseIP_text hip).symm.trans hip')).symm
    | none =>
      simp only [hip, Option.ite_none_left_eq_some, Option.some.injEq] at hagain
      -- neither trimming takes anything away
      have htrim : trimSpace h = h := hpre.eq_of_length_le (by
        simpa [hagain.2] using (trimDot_isPrefix (trimSpace h)).length_le)
      rw [htrim] at hagain hip
      refine ⟨fun c hc => ⟨?_, ?_⟩, by simp [hip]⟩
      · rintro rfl
        have hshort := congrArg length hagain.2
        have hpos := length_pos_iff.mpr hh.ne_nil
        rw [trimDot, if_pos (Option.mem_def.mp hc), length_dropLast] at hshort
        omega
      · rw [trimSpace, dropWhile_of_first hh.first, rdropWhile_eq_self_iff] at htrim
        rw [getLast?_eq_getLast_of_ne_nil hh.ne_nil] at hc
        cases hc
        simpa using htrim hh.ne_nil
  · rintro ⟨hlast, hip⟩
    have hdot : trimDot h = h := if_neg fun hc => (hlast '.' hc).1 rfl
    rw [trimSpace_eq_self hh.first fun c hc => (hlast c hc).2]
    cases hparse : N.parseIP h with
    | some ip => rw [hip ip hparse]
    | none => simp [hdot, hh.ne_nil]

/-- A key is its own key exactly if its host, once it is trimmed, has the form it has in the key. -/
lemma normalize_join_iff (hh : BareHost h) (hport : 1 ≤ port ∧ port ≤ 65535) :
    N.normalizeServerAddr (joinHostPort h port) = some (joinHostPort h port) ↔
      N.keyHost (trimSpace h) = some h := by
  have hread : N.normalizeServerAddr (joinHostPort h port) =
      (N.keyHost (trimSpace h)).map (joinHostPort · port) := by
    rw [NetLib.normalizeServerAddr, endpoint_join hh hport]
    rfl
  rw [hread, Option.map_eq_some_iff]
  refine ⟨?_, fun hform => ⟨h, hform, rfl⟩⟩
  rintro ⟨h', hform, heq⟩
  -- the host can be split off again
  have hsplit := congrArg splitHostPort heq
  rw [splitHostPort_join (bareHost_keyHost hN hh.trimSpace.1 hform).bare,
    splitHostPort_join hh.bare] at hsplit
  cases hsplit
  exact hform

/-- **The key of an address is its own key** if and only if the host of the address keeps its
form. -/
theorem normalize_again_iff (hend : endpoint text = some (h, port)) :
    (∀ key, N.normalizeServerAddr text = some key → N.normalizeServerAddr key = some key) ↔
      N.KeepsHost h := by
  obtain ⟨hh, hport⟩ := endpoint_eq_some hend
  have hkey : N.normalizeServerAddr text = (N.keyHost h).map (joinHostPort · port) := by
    rw [NetLib.normalizeServerAddr, hend]
    rfl
  cases hform : N.keyHost h with
  | none => simp [hkey, hform, NetLib.KeepsHost]
  | some h' =>
    have hh' := bareHost_keyHost hN hh hform
    simp only [hkey, hform, Option.map_some, Option.some.injEq, forall_eq',
      normalize_join_iff hN hh' hport, NetLib.KeepsHost, Option.mem_def]
    cases hip : N.parseIP h with
    | some ip =>
      rw [NetLib.keyHost, hip] at hform
      cases hform
      simp [(keyHost_of_ip hN hip).2]
    | none =>
      have hlower := (keyHost_of_name hN hh hip hform).2
      simpa using keyHost_again_iff hN hh' hlower

end lawful

end Voicx.Client.Dialing
