import Voicx.State.Manager

/-!
# Channel membership

Three representations of one fact: the `channelID` of a client record, the membership set of a
channel, and the channel's derived `clientCount`. `RemoveClient`, `JoinChannel`, `LeaveChannel`,
`MoveClient` and `RemoveChannels` each update them piece by piece.

* `MembershipInv` — the three agree.
* `Coherent` — the inductive form: it also says that membership sets belong to live channels.
* `CountOK` — the part about counts alone. It is the part that survives between leaving one channel
  and entering the next, where the client record is not yet up to date.
* `Coherent.step` — every call that meets `MembershipStepOK` keeps `Coherent`.
* **`membership_throughout`** — the invariant in every state of a run of such calls.

`MembershipStepOK` leaves out the two kinds of calls the invariant does not survive: registering a
client over a live client that stands in a channel (`AddClient` replaces the record only, the old
membership stays), and entering a channel whose id is 0, the id that means "no channel".
-/

namespace Voicx.State

open Found Finmap Option FMap SetMap

namespace Manager

/-! ## The invariant -/

/-- The membership invariant: the three representations agree, members are live, and no empty set is
kept. -/
structure MembershipInv (m : Manager) : Prop where
  /-- a client stands in a channel exactly when that channel is live and lists it -/
  placed_iff : ∀ clientID ch,
    (∃ c, m.clients.lookup clientID = some c ∧ c.channelID = ch ∧ ch ≠ 0) ↔
      ch ∈ m.channels ∧ clientID ∈ m.membership.elems ch
  /-- every member is a live client -/
  member_live : ∀ ch clientID, clientID ∈ m.membership.elems ch → clientID ∈ m.clients
  /-- the derived count is the size of the membership set -/
  count : ∀ ch info, m.channels.lookup ch = some info →
    info.clientCount = (m.membership.elems ch).card
  /-- no empty membership set is kept -/
  noEmpty : m.membership.NoEmpty

/-- Every live channel's count is the size of its membership set. -/
def CountOK (m : Manager) : Prop :=
  ∀ ch info, m.channels.lookup ch = some info → info.clientCount = (m.membership.elems ch).card

/-- Membership sets belong to live channels. -/
def MembersLive (m : Manager) : Prop :=
  ∀ ch clientID, clientID ∈ m.membership.elems ch → ch ∈ m.channels

/-- The inductive form of the invariant: membership *is* the client records read backwards. -/
structure Coherent (m : Manager) : Prop where
  mem_iff : ∀ clientID ch,
    clientID ∈ m.membership.elems ch ↔ ch ≠ 0 ∧ m.chanOf clientID = some ch
  live : m.MembersLive
  count : m.CountOK
  noEmpty : m.membership.NoEmpty

variable {m : Manager} {clientID : String}

lemma Coherent.membershipInv (h : m.Coherent) : m.MembershipInv where
  placed_iff clientID ch := by
    constructor
    · rintro ⟨c, hc, rfl, h0⟩
      have hmem := (h.mem_iff clientID c.channelID).mpr ⟨h0, chanOf_of_lookup hc⟩
      exact ⟨h.live _ _ hmem, hmem⟩
    · rintro ⟨-, hmem⟩
      obtain ⟨h0, hch⟩ := (h.mem_iff clientID ch).mp hmem
      obtain ⟨c, hc, rfl⟩ := chanOf_eq_some.mp hch
      exact ⟨c, hc, rfl, h0⟩
  member_live ch clientID hmem := by
    obtain ⟨c, hc, -⟩ := chanOf_eq_some.mp ((h.mem_iff clientID ch).mp hmem).2
    exact mem_of_lookup_eq_some hc
  count := h.count
  noEmpty := h.noEmpty

lemma coherent_new : new.Coherent where
  mem_iff clientID ch := by simp [new, chanOf]
  live ch clientID h := by simp [new] at h
  count ch info h := by simp [new] at h
  noEmpty := noEmpty_empty

/-- A method that keeps channels and membership sets and where everybody stands keeps the
invariant. -/
lemma Coherent.of_same {m' : Manager} (h : m.Coherent) (hch : m'.channels = m.channels)
    (hmem : m'.membership = m.membership) (hloc : ∀ id, m'.chanOf id = m.chanOf id) :
    m'.Coherent where
  mem_iff clientID ch := by rw [hmem, hloc]; exact h.mem_iff clientID ch
  live ch clientID hc := by rw [hch]; rw [hmem] at hc; exact h.live ch clientID hc
  count ch info hi := by rw [hmem]; rw [hch] at hi; exact h.count ch info hi
  noEmpty := by rw [hmem]; exact h.noEmpty

/-! ## Leaving and entering a membership set -/

section sets

variable {m : Manager} {clientID : String} {ch : Int}

lemma CountOK.leaveMembership (h : m.CountOK) (hmem : clientID ∈ m.membership.elems ch) :
    (m.leaveMembership clientID ch).CountOK := by
  intro ch' info hinfo
  rw [leaveMembership_membership, elems_remove]
  obtain ⟨s, hs, -⟩ := mem_elems.mp hmem
  simp only [Manager.leaveMembership, hs, lookup_modify] at hinfo
  by_cases hch : ch' = ch
  · subst hch
    simp only [if_true, map_eq_some_iff] at hinfo ⊢
    obtain ⟨old, hold, rfl⟩ := hinfo
    have hcount := h ch' old hold
    have hpos : 0 < (m.membership.elems ch').card := Finset.card_pos.mpr ⟨clientID, hmem⟩
    -- the member taken out was counted, so the guard `ClientCount > 0` is met
    rw [if_pos (by omega), Finset.card_erase_of_mem hmem]
    show old.clientCount - 1 = _
    omega
  · simp only [hch, if_false] at hinfo ⊢
    exact h ch' info hinfo

lemma CountOK.enterMembership (h : m.CountOK) (hmem : clientID ∉ m.membership.elems ch) :
    (m.enterMembership clientID ch).CountOK := by
  intro ch' info hinfo
  simp only [Manager.enterMembership, lookup_modify, elems_add] at hinfo ⊢
  by_cases hch : ch' = ch
  · subst hch
    simp only [if_true, map_eq_some_iff] at hinfo ⊢
    obtain ⟨old, hold, rfl⟩ := hinfo
    rw [Finset.card_insert_of_notMem hmem]
    rw [h ch' old hold]
    norm_cast
  · simp only [hch, if_false] at hinfo ⊢
    exact h ch' info hinfo

lemma MembersLive.leaveMembership (h : m.MembersLive) (clientID : String) (ch : Int) :
    (m.leaveMembership clientID ch).MembersLive := by
  intro ch' id hid
  rw [leaveMembership_membership, mem_elems_remove] at hid
  rw [mem_leaveMembership_channels]
  exact h ch' id hid.1

lemma MembersLive.enterMembership (h : m.MembersLive) (hch : ch ∈ m.channels) :
    (m.enterMembership clientID ch).MembersLive := by
  intro ch' id hid
  simp only [Manager.enterMembership, mem_elems_add, mem_modify] at hid ⊢
  rcases hid with ⟨rfl, -⟩ | hid
  · exact hch
  · exact h ch' id hid

/-- Where everybody stands after a client has entered a channel. -/
lemma chanOf_enterMembership (m : Manager) (clientID id : String) (ch : Int) :
    (m.enterMembership clientID ch).chanOf id =
      if id = clientID then (m.chanOf clientID).map fun _ => ch else m.chanOf id := by
  simp only [chanOf, enterMembership, lookup_modify]
  by_cases h : id = clientID <;> simp [h, Function.comp_def]

end sets

/-- Where everybody stands after a channel is gone: its members stand nowhere. -/
lemma chanOf_removeChannelLocked (m : Manager) (channelID : Int) (id : String) :
    (m.removeChannelLocked channelID).chanOf id =
      (m.chanOf id).map fun ch => if id ∈ m.membership.elems channelID then 0 else ch := by
  simp only [chanOf, removeChannelLocked, lookup_mapVals, map_map]
  congr 1
  funext c
  split_ifs <;> rfl

/-! ## The relocating methods, set by set

What `MoveClient`, `LeaveChannel` and `RemoveClient` do to every membership set and to where
everybody stands, in any state. -/

section relocate

variable {m m' : Manager} {clientID : String}

/-- Taking a client out of a set and silencing it leaves the records where they were. -/
lemma chanOf_leave (m : Manager) (clientID : String) (channelID : Int) (id : String) :
    ((m.leaveMembership clientID channelID).clearSpeaking clientID).chanOf id = m.chanOf id := by
  rw [chanOf_clearSpeaking, chanOf, leaveMembership_clients, chanOf]

variable {target : Int}

/-- A move that succeeds: the client was live and so is the target; it stood there already, or it
went from its old set into the new one. -/
lemma moveClient_spec (h : m.moveClient clientID target = .ok m') :
    ∃ c, m.clients.lookup clientID = some c ∧ target ∈ m.channels ∧
      ((c.channelID = target ∧ m' = m) ∨
        (c.channelID ≠ target ∧
          (∀ id ch, id ∈ m'.membership.elems ch ↔ (ch = target ∧ id = clientID) ∨
            (id ∈ m.membership.elems ch ∧
              ¬(c.channelID ≠ 0 ∧ ch = c.channelID ∧ id = clientID))) ∧
          ∀ id, m'.chanOf id = if id = clientID then some target else m.chanOf id)) := by
  unfold moveClient at h
  cases hc : m.clients.lookup clientID with
  | none => simp [hc] at h
  | some c =>
    cases hch : m.channels.lookup target with
    | none => simp [hc, hch] at h
    | some info =>
      simp only [hc, hch] at h
      refine ⟨c, rfl, mem_of_lookup_eq_some hch, ?_⟩
      have hself := chanOf_of_lookup hc
      by_cases htarget : c.channelID = target
      · rw [if_pos htarget] at h
        cases h
        exact .inl ⟨htarget, rfl⟩
      rw [if_neg htarget] at h
      cases h
      refine .inr ⟨htarget, fun id ch => ?_, fun id => ?_⟩
      · have hset : ∀ m₁ : Manager,
            id ∈ (m₁.enterMembership clientID target).membership.elems ch ↔
              (ch = target ∧ id = clientID) ∨ id ∈ m₁.membership.elems ch :=
          fun _ => mem_elems_add
        rw [hset]
        split_ifs with h0
        · rw [clearSpeaking_membership, leaveMembership_membership, mem_elems_remove]
          simp [h0]
        · simp [h0]
      · rw [chanOf_enterMembership]
        split_ifs <;> simp [chanOf_leave, hself]

/-- A leave that succeeds takes the client out of the set of the channel it stood in. -/
lemma leaveChannel_spec (h : m.leaveChannel clientID = .ok m') :
    ∃ c, m.clients.lookup clientID = some c ∧ c.channelID ≠ 0 ∧
      (∀ id ch, id ∈ m'.membership.elems ch ↔
        id ∈ m.membership.elems ch ∧ ¬(ch = c.channelID ∧ id = clientID)) ∧
      (∀ id, m'.chanOf id = if id = clientID then some 0 else m.chanOf id) ∧
      ∀ id, id ∈ m'.channels ↔ id ∈ m.channels := by
  unfold leaveChannel at h
  cases hc : m.clients.lookup clientID with
  | none => simp [hc] at h
  | some c =>
    simp only [hc] at h
    split_ifs at h with h0
    cases h
    refine ⟨c, rfl, h0, fun id ch => ?_, fun id => ?_, fun id => by simp⟩
    · show id ∈ ((m.leaveMembership clientID c.channelID).clearSpeaking
        clientID).membership.elems ch ↔ _
      rw [clearSpeaking_membership, leaveMembership_membership, mem_elems_remove]
    have hstay := chanOf_leave m clientID c.channelID id
    simp only [chanOf, lookup_modify] at hstay ⊢
    split_ifs with hid
    · subst hid
      obtain ⟨c', hc', -⟩ := map_eq_some_iff.mp (hstay.trans (by rw [hc]; rfl))
      simp [hc']
    · exact hstay

/-- The removal of a live client takes it out of the set of the channel it stood in. -/
lemma removeClient_spec {c : Client} (hc : m.clients.lookup clientID = some c) :
    (m.removeClient clientID).2 = some c ∧
      (∀ id ch, id ∈ (m.removeClient clientID).1.membership.elems ch ↔
        id ∈ m.membership.elems ch ∧ ¬(c.channelID ≠ 0 ∧ ch = c.channelID ∧ id = clientID)) ∧
      ∀ id, (m.removeClient clientID).1.chanOf id =
        if id = clientID then none else m.chanOf id := by
  unfold removeClient
  simp only [hc, true_and]
  refine ⟨fun id ch => ?_, fun id => ?_⟩
  · show id ∈ (m.leavePrevious clientID c.channelID).membership.elems ch ↔ _
    unfold leavePrevious
    split_ifs with h0
    · rw [leaveMembership_membership, mem_elems_remove]
      simp [h0]
    · simp [h0]
  · simp only [chanOf, dropSubsLocked, leavePrevious_clients, lookup_erase_ite]
    split_ifs <;> rfl

/-- Membership is the client records read backwards; the first part of `Coherent`. -/
def Placed (m : Manager) : Prop :=
  ∀ clientID ch, clientID ∈ m.membership.elems ch ↔ ch ≠ 0 ∧ m.chanOf clientID = some ch

variable (h : m.Placed)

include h

theorem Placed.moveClient (h0 : target ≠ 0) (hmove : m.moveClient clientID target = .ok m') :
    m'.Placed := by
  obtain ⟨c, hc, -, ⟨-, rfl⟩ | ⟨hne, hmem, hchan⟩⟩ := moveClient_spec hmove
  · exact h
  intro id ch
  have hself := chanOf_of_lookup hc
  rw [hmem, hchan, h]
  by_cases hid : id = clientID
  · subst hid
    simp only [hself, Option.some.injEq, and_true, if_true]
    constructor
    · rintro (rfl | ⟨⟨hch, heq⟩, hnot⟩)
      · exact ⟨h0, rfl⟩
      · exact absurd ⟨heq ▸ hch, heq.symm⟩ hnot
    · rintro ⟨-, heq⟩
      exact .inl heq.symm
  · simp [hid]

lemma Placed.leaveChannel (hleave : m.leaveChannel clientID = .ok m') : m'.Placed := by
  obtain ⟨c, hc, h0, hmem, hchan, -⟩ := leaveChannel_spec hleave
  intro id ch
  have hself := chanOf_of_lookup hc
  rw [hmem, hchan, h]
  by_cases hid : id = clientID
  · subst hid
    simp only [hself, Option.some.injEq, and_true, if_true]
    constructor
    · rintro ⟨⟨-, heq⟩, hnot⟩
      exact absurd heq.symm hnot
    · rintro ⟨hch, heq⟩
      exact absurd heq.symm hch
  · simp [hid]

lemma Placed.removeClient (clientID : String) : (m.removeClient clientID).1.Placed := by
  cases hc : m.clients.lookup clientID with
  | none =>
    unfold Manager.removeClient
    rw [hc]
    exact h
  | some c =>
    obtain ⟨-, hmem, hchan⟩ := removeClient_spec hc
    intro id ch
    have hself := chanOf_of_lookup hc
    rw [hmem, hchan, h]
    by_cases hid : id = clientID
    · subst hid
      simp only [hself, Option.some.injEq, and_true, if_true, reduceCtorEq, and_false, iff_false]
      rintro ⟨⟨hch, heq⟩, hnot⟩
      exact hnot ⟨heq ▸ hch, heq.symm⟩
    · simp [hid]

lemma Placed.removeChannelLocked (channelID : Int) : (m.removeChannelLocked channelID).Placed := by
  intro id ch
  have hset : id ∈ (m.removeChannelLocked channelID).membership.elems ch ↔
      ch ≠ channelID ∧ id ∈ m.membership.elems ch := by
    simp only [Manager.removeChannelLocked, elems_erase]
    by_cases hch : ch = channelID <;> simp [hch]
  rw [hset, chanOf_removeChannelLocked, h]
  by_cases hid : id ∈ m.membership.elems channelID
  · -- a member stood in this channel and in no other
    obtain ⟨-, hloc⟩ := (h id channelID).mp hid
    simp only [hloc, hid, if_true, map_some, Option.some.injEq]
    constructor
    · rintro ⟨hne, -, heq⟩
      exact absurd heq.symm hne
    · rintro ⟨hne, heq⟩
      exact absurd heq.symm hne
  · have hsame : (m.chanOf id).map (fun ch => if id ∈ m.membership.elems channelID then 0 else ch)
        = m.chanOf id := by simp [hid]
    rw [hsame]
    refine ⟨And.right, fun hch => ⟨?_, hch⟩⟩
    rintro rfl
    exact hid ((h id ch).mpr hch)

lemma Placed.removeChannels (channelIDs : List Int) : (m.removeChannels channelIDs).1.Placed :=
  removeChannels_induct (fun _ channelID h => h.removeChannelLocked channelID) h channelIDs

end relocate

/-! ## Relocating one client

`JoinChannel`, `MoveClient`, `LeaveChannel` and `RemoveClient` all do the same to the membership
sets: the client is taken out of the set of the channel it stands in. The state in between is
described by `Vacated`. -/

/-- `m'` is `m` with `clientID` in no membership set. -/
structure Vacated (m m' : Manager) (clientID : String) : Prop where
  mem_iff : ∀ id ch, id ∈ m'.membership.elems ch ↔ id ∈ m.membership.elems ch ∧ id ≠ clientID
  chanOf_eq : ∀ id, m'.chanOf id = m.chanOf id
  channels_iff : ∀ ch, ch ∈ m'.channels ↔ ch ∈ m.channels
  live : m'.MembersLive
  count : m'.CountOK
  noEmpty : m'.membership.NoEmpty

namespace Coherent

variable {m : Manager} {clientID : String} {c : Client}
  (h : m.Coherent) (hc : m.clients.lookup clientID = some c)

include h hc

/-- A client that stands nowhere is in no membership set. -/
lemma vacated_of_zero (h0 : c.channelID = 0) : m.Vacated m clientID where
  mem_iff id ch := by
    refine ⟨fun hmem => ⟨hmem, ?_⟩, And.left⟩
    rintro rfl
    obtain ⟨hne, hch⟩ := (h.mem_iff id ch).mp hmem
    obtain ⟨c', hc', rfl⟩ := chanOf_eq_some.mp hch
    rw [hc] at hc'
    cases hc'
    exact hne h0
  chanOf_eq _ := rfl
  channels_iff _ := Iff.rfl
  live := h.live
  count := h.count
  noEmpty := h.noEmpty

/-- Taking a client out of the set of the channel it stands in takes it out of every set. -/
lemma vacated_leaveMembership (h0 : c.channelID ≠ 0) :
    m.Vacated (m.leaveMembership clientID c.channelID) clientID where
  mem_iff id ch := by
    rw [leaveMembership_membership, mem_elems_remove]
    refine and_congr_right fun hmem => ?_
    constructor
    · rintro hnot rfl
      refine hnot ⟨?_, rfl⟩
      obtain ⟨c', hc', rfl⟩ := chanOf_eq_some.mp ((h.mem_iff id ch).mp hmem).2
      rw [hc] at hc'
      cases hc'
      rfl
    · exact fun hne hand => hne hand.2
  chanOf_eq id := by simp [chanOf]
  channels_iff ch := by simp
  live := h.live.leaveMembership clientID c.channelID
  count := h.count.leaveMembership
    ((h.mem_iff clientID c.channelID).mpr ⟨h0, chanOf_of_lookup hc⟩)
  noEmpty := by
    rw [leaveMembership_membership]
    exact h.noEmpty.remove _ _

lemma vacated_leavePrevious : m.Vacated (m.leavePrevious clientID c.channelID) clientID := by
  unfold leavePrevious
  by_cases h0 : c.channelID = 0
  · simpa [h0] using h.vacated_of_zero hc h0
  · simpa [h0] using h.vacated_leaveMembership hc h0

end Coherent

namespace Vacated

variable {m m' : Manager} {clientID : String} (h : m.Vacated m' clientID)

include h

lemma clearSpeaking : m.Vacated (m'.clearSpeaking clientID) clientID where
  mem_iff id ch := by rw [clearSpeaking_membership]; exact h.mem_iff id ch
  chanOf_eq id := by rw [chanOf_clearSpeaking]; exact h.chanOf_eq id
  channels_iff ch := by rw [clearSpeaking_channels]; exact h.channels_iff ch
  live ch id hid := by
    rw [clearSpeaking_membership] at hid
    rw [clearSpeaking_channels]
    exact h.live ch id hid
  count ch info hinfo := by
    rw [clearSpeaking_channels] at hinfo
    rw [clearSpeaking_membership]
    exact h.count ch info hinfo
  noEmpty := by rw [clearSpeaking_membership]; exact h.noEmpty

/-- **Entering a channel** after having left the previous one restores the invariant, unless the
channel entered is the one whose id means "no channel". -/
theorem enter (hm : m.Coherent) {ch : Int} (hc : clientID ∈ m.clients) (hch : ch ∈ m.channels)
    (h0 : ch ≠ 0) : (m'.enterMembership clientID ch).Coherent where
  mem_iff id ch' := by
    have hset : id ∈ (m'.enterMembership clientID ch).membership.elems ch' ↔
        (ch' = ch ∧ id = clientID) ∨ id ∈ m'.membership.elems ch' := SetMap.mem_elems_add
    rw [hset, chanOf_enterMembership, h.mem_iff, hm.mem_iff]
    by_cases hid : id = clientID
    · subst hid
      obtain ⟨c, hlk⟩ := Finmap.mem_iff.mp hc
      have hloc : m'.chanOf id = some c.channelID := by
        rw [h.chanOf_eq]
        exact chanOf_of_lookup hlk
      simp only [hloc, if_true, Option.map_some, Option.some.injEq]
      constructor
      · rintro (⟨rfl, -⟩ | ⟨-, hne⟩)
        · exact ⟨h0, rfl⟩
        · exact absurd rfl hne
      · rintro ⟨-, rfl⟩
        exact .inl ⟨rfl, trivial⟩
    · simp [hid, h.chanOf_eq]
  live := h.live.enterMembership ((h.channels_iff ch).mpr hch)
  count := h.count.enterMembership fun hmem => ((h.mem_iff clientID ch).mp hmem).2 rfl
  noEmpty := h.noEmpty.add ch clientID

/-- **Standing nowhere**, or not being known at all, is consistent with being in no set. -/
theorem stand (hm : m.Coherent) {m'' : Manager} (hch : m''.channels = m'.channels)
    (hmem : m''.membership = m'.membership)
    (hloc : ∀ id, id ≠ clientID → m''.chanOf id = m'.chanOf id)
    (hself : m''.chanOf clientID = none ∨ m''.chanOf clientID = some 0) : m''.Coherent where
  mem_iff id ch := by
    rw [hmem, h.mem_iff, hm.mem_iff]
    by_cases hid : id = clientID
    · subst hid
      rcases hself with hself | hself <;> simp [hself, eq_comm]
    · simp [hid, hloc id hid, h.chanOf_eq]
  live ch id hid := by rw [hch]; rw [hmem] at hid; exact h.live ch id hid
  count ch info hinfo := by rw [hmem]; rw [hch] at hinfo; exact h.count ch info hinfo
  noEmpty := by rw [hmem]; exact h.noEmpty

end Vacated

/-! ## One call -/

/-- The calls a run may contain: a client is registered in no channel, a channel under a fresh id
with count 0. -/
def MembershipDomain (m : Manager) : Op → Prop
  | .addClient c => c.channelID = 0
  | .addChannel ch => ch.channelID ∉ m.channels ∧ ch.clientCount = 0
  | _ => True

/-- The calls that keep the invariant. A client that stands in a channel is not registered again,
and does not enter a live channel whose id is 0. -/
def MembershipStepOK (m : Manager) : Op → Prop
  | .addClient c => m.inChannel c.clientID = false
  | .joinChannel clientID channelID | .moveClient clientID channelID =>
    channelID = 0 ∧ 0 ∈ m.channels → m.inChannel clientID = false
  | _ => True

instance (m : Manager) (op : Op) : Decidable (m.MembershipDomain op) := by
  cases op <;> unfold MembershipDomain <;> infer_instance

instance (m : Manager) (op : Op) : Decidable (m.MembershipStepOK op) := by
  cases op <;> unfold MembershipStepOK <;> infer_instance

/-- A client that changes its channel under that condition does not enter channel 0. -/
lemma target_ne_zero {c : Client} {channelID : Int} (hc : m.clients.lookup clientID = some c)
    (hch : channelID ∈ m.channels) (hne : c.channelID ≠ channelID)
    (hok : channelID = 0 ∧ 0 ∈ m.channels → m.inChannel clientID = false) : channelID ≠ 0 := by
  rintro rfl
  exact hne (inChannel_eq_false.mp (hok ⟨rfl, hch⟩) _ (chanOf_of_lookup hc))

namespace Coherent

variable {m : Manager}

lemma addClient (h : m.Coherent) {c : Client} (h0 : c.channelID = 0)
    (hok : m.inChannel c.clientID = false) : (m.addClient c).Coherent where
  mem_iff clientID ch := by
    show clientID ∈ m.membership.elems ch ↔ _
    rw [h.mem_iff]
    simp only [chanOf, Manager.addClient, lookup_insert_ite]
    by_cases hid : clientID = c.clientID
    · subst hid
      simp only [if_true, map_some, h0, Option.some.injEq]
      constructor
      · rintro ⟨hne, hch⟩
        exact absurd (inChannel_eq_false.mp hok ch hch) hne
      · rintro ⟨hne, rfl⟩
        exact absurd rfl hne
    · simp [hid]
  live := h.live
  count := h.count
  noEmpty := h.noEmpty

lemma addChannel (h : m.Coherent) {ch : Channel} (hfresh : ch.channelID ∉ m.channels)
    (hcount : ch.clientCount = 0) : (m.addChannel ch).Coherent where
  mem_iff := h.mem_iff
  live ch' id hid := mem_insert.mpr (Or.inr (h.live ch' id hid))
  count ch' info hinfo := by
    simp only [Manager.addChannel, lookup_insert_ite] at hinfo ⊢
    split_ifs at hinfo with hch
    · -- a channel that was not live had no members
      cases hinfo
      have hempty : m.membership.elems ch' = ∅ := by
        refine Finset.eq_empty_of_forall_notMem fun id hid => ?_
        rw [hch] at hid
        exact hfresh (h.live _ id hid)
      simp [hempty, hcount]
    · exact h.count ch' info hinfo
  noEmpty := h.noEmpty

lemma updateChannel (h : m.Coherent) (channelID : Int) (u : ChannelUpdate) :
    (m.updateChannel channelID u).1.Coherent := by
  unfold Manager.updateChannel
  split
  · exact h
  refine ⟨h.mem_iff, fun ch id hid => ?_, fun ch info hinfo => ?_, h.noEmpty⟩
  · exact (mem_modify _ _ _ _).mpr (h.live ch id hid)
  simp only [lookup_modify] at hinfo
  split_ifs at hinfo with hch
  · subst hch
    obtain ⟨old, hold, rfl⟩ := map_eq_some_iff.mp hinfo
    exact h.count ch old hold
  · exact h.count ch info hinfo

lemma removeClient (h : m.Coherent) (clientID : String) :
    (m.removeClient clientID).1.Coherent := by
  unfold Manager.removeClient
  cases hc : m.clients.lookup clientID with
  | none => exact h
  | some c =>
    refine (h.vacated_leavePrevious hc).stand h rfl rfl (fun id hid => ?_) (.inl ?_)
    · simp [chanOf, dropSubsLocked, hid]
    · simp [chanOf]

lemma removeChannelLocked (h : m.Coherent) (channelID : Int) :
    (m.removeChannelLocked channelID).Coherent where
  mem_iff := Placed.removeChannelLocked h.mem_iff channelID
  live ch id hid := by
    simp only [Manager.removeChannelLocked, elems_erase] at hid ⊢
    split_ifs at hid with hch
    · simp at hid
    · exact mem_erase.mpr ⟨hch, h.live ch id hid⟩
  count ch info hinfo := by
    simp only [Manager.removeChannelLocked, lookup_erase_ite, elems_erase] at hinfo ⊢
    split_ifs at hinfo with hch
    rw [if_neg hch]
    exact h.count ch info hinfo
  noEmpty := h.noEmpty.erase channelID

lemma removeChannels (h : m.Coherent) (channelIDs : List Int) :
    (m.removeChannels channelIDs).1.Coherent :=
  removeChannels_induct (fun _ channelID h => h.removeChannelLocked channelID) h channelIDs

variable {clientID : String}

lemma joinChannel (h : m.Coherent) {channelID : Int}
    (hok : channelID = 0 ∧ 0 ∈ m.channels → m.inChannel clientID = false) :
    (m.step (.joinChannel clientID channelID)).Coherent := by
  rcases m.step_joinChannel clientID channelID with ⟨-, hsame⟩ | ⟨c, hc, hch, hne, hstep⟩
  · rwa [hsame]
  · rw [hstep]
    refine (h.vacated_leavePrevious hc).enter h (mem_of_lookup_eq_some hc) hch ?_
    exact target_ne_zero hc hch hne hok

theorem moveClient (h : m.Coherent) {target : Int}
    (hok : target = 0 ∧ 0 ∈ m.channels → m.inChannel clientID = false) :
    (m.step (.moveClient clientID target)).Coherent := by
  rcases m.step_moveClient clientID target with ⟨-, hsame⟩ | ⟨c, hc, hch, hne, hstep⟩
  · rwa [hsame]
  rw [hstep]
  have hlive := mem_of_lookup_eq_some hc
  have h0 := target_ne_zero hc hch hne hok
  by_cases hz : c.channelID = 0
  · rw [if_neg (not_not.mpr hz)]
    exact (h.vacated_of_zero hc hz).enter h hlive hch h0
  · rw [if_pos hz]
    exact (h.vacated_leaveMembership hc hz).clearSpeaking.enter h hlive hch h0

lemma leaveChannel (h : m.Coherent) (clientID : String) :
    (m.step (.leaveChannel clientID)).Coherent := by
  rcases m.step_leaveChannel clientID with hsame | ⟨c, hc, h0, hstep⟩
  · rwa [hsame]
  rw [hstep]
  refine (h.vacated_leaveMembership hc h0).clearSpeaking.stand h rfl rfl (fun id hid => ?_)
    (.inr ?_)
  · simp [chanOf, lookup_modify, hid]
  · have hloc := chanOf_clearSpeaking (m.leaveMembership clientID c.channelID) clientID clientID
    simp only [chanOf, leaveMembership_clients, hc, lookup_modify, if_true] at hloc ⊢
    obtain ⟨c', hc', -⟩ := map_eq_some_iff.mp hloc
    simp [hc']

/-- **Every call that meets the conditions keeps the invariant.** -/
theorem step (h : m.Coherent) (op : Op) (hdom : m.MembershipDomain op)
    (hok : m.MembershipStepOK op) : (m.step op).Coherent := by
  cases op with
  | addClient c => exact h.addClient hdom hok
  | removeClient clientID => exact h.removeClient clientID
  | addChannel ch => exact h.addChannel hdom.1 hdom.2
  | removeChannel channelID => exact h.removeChannels [channelID]
  | removeChannels channelIDs => exact h.removeChannels channelIDs
  | updateChannel channelID u => exact h.updateChannel channelID u
  | joinChannel clientID channelID => exact h.joinChannel hok
  | leaveChannel clientID => exact h.leaveChannel clientID
  | moveClient clientID target => exact h.moveClient hok
  | subscribe clientID channelIDs =>
    obtain ⟨_, _, heq⟩ := subscribe_eq m clientID channelIDs
    rw [Manager.step, heq]
    exact h.of_same rfl rfl fun _ => rfl
  | unsubscribe clientID channelIDs =>
    refine h.of_same ?_ ?_ fun id => ?_ <;>
      simp only [Manager.step, Manager.unsubscribe, chanOf] <;> split <;> rfl
  | setSpeaking clientID speaking now =>
    simp only [Manager.step, Manager.setSpeaking]
    split
    · exact h
    · split
      all_goals exact h.of_same rfl rfl fun id => chanOf_modify m clientID id _ fun _ => rfl
  | setPrioritySpeaker clientID active | setE2EPublicKey clientID publicKey
  | setStatus clientID status message =>
    exact h.of_same rfl rfl fun id => chanOf_modify m clientID id _ fun _ => rfl

end Coherent

/-! ## Every run -/

/-- The inductive form of the invariant holds throughout every run that meets the conditions. -/
lemma coherent_throughout (ops : List Op)
    (hdom : StepsOK step MembershipDomain new ops)
    (hok : StepsOK step MembershipStepOK new ops) :
    Throughout step Coherent new ops :=
  throughout_of_stepsOK (fun _ op h hop => h.step op hop.1 hop.2) coherent_new (hdom.and hok)

/-- **Channel membership in every run.** From the empty manager, through every sequence of calls
with any arguments in which no client standing in a channel is registered again or enters a live
channel with id 0, the three representations agree after every call. -/
theorem membership_throughout (ops : List Op)
    (hdom : StepsOK step MembershipDomain new ops)
    (hok : StepsOK step MembershipStepOK new ops) :
    Throughout step MembershipInv new ops :=
  (coherent_throughout ops hdom hok).mono fun _ h => h.membershipInv

/-- A run that joins, moves, deletes an occupied channel and disconnects. -/
theorem membership_throughout_session :
    Throughout step MembershipInv new
      [.addChannel { channelID := 1 }, .addChannel { channelID := 2 }, .addClient { clientID := "a" },
        .joinChannel "a" 1, .moveClient "a" 2, .joinChannel "a" 7, .removeChannels [2, 2],
        .joinChannel "a" 1, .removeClient "a"] :=
  membership_throughout _ (by decide) (by decide)

/-- A member of a live channel has a record that names the channel, and the channel is not 0. -/
lemma MembershipInv.chanOf_of_mem (h : m.MembershipInv) {ch : Int} (hch : ch ∈ m.channels)
    (hmem : clientID ∈ m.membership.elems ch) : m.chanOf clientID = some ch ∧ ch ≠ 0 := by
  obtain ⟨c, hc, hrec, hne⟩ := (h.placed_iff clientID ch).mpr ⟨hch, hmem⟩
  exact ⟨chanOf_eq_some.mpr ⟨c, hc, hrec⟩, hne⟩

/-- Registering `"a"` again while it stands in channel 1 leaves it in that channel's membership set
and count, although its record says it stands nowhere. And a client that joins channel 0 from
another channel is listed there, while its record says "no channel". -/
theorem membership_lost_on_second_registration :
    (StepsOK step MembershipDomain new
        [.addChannel { channelID := 1 }, .addClient { clientID := "a" }, .joinChannel "a" 1,
          .addClient { clientID := "a" }] ∧
      ¬Throughout step MembershipInv new
        [.addChannel { channelID := 1 }, .addClient { clientID := "a" }, .joinChannel "a" 1,
          .addClient { clientID := "a" }]) ∧
    StepsOK step MembershipDomain new
      [.addChannel { channelID := 0 }, .addChannel { channelID := 1 }, .addClient { clientID := "a" },
        .joinChannel "a" 1, .joinChannel "a" 0] ∧
    ¬Throughout step MembershipInv new
      [.addChannel { channelID := 0 }, .addChannel { channelID := 1 }, .addClient { clientID := "a" },
        .joinChannel "a" 1, .joinChannel "a" 0] := by
  refine ⟨⟨by decide, fun h => ?_⟩, by decide, fun h => ?_⟩
  · have hplaced := (h.final.chanOf_of_mem (show (1 : Int) ∈ _ by decide) (show "a" ∈ _ by decide)).1
    exact absurd hplaced (by decide)
  · have hne := (h.final.chanOf_of_mem (show (0 : Int) ∈ _ by decide) (show "a" ∈ _ by decide)).2
    exact absurd rfl hne

end Manager

end Voicx.State
