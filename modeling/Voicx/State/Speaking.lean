import Voicx.State.Manager

/-!
# Speaking states

The speaking map is an index of its own next to the `isSpeaking` flag of the client records, and a
speaking state repeats the channel the client was in when it started to speak. Every method that
changes a client's channel or removes a client or channel has to keep the three together.

* `SpeakingInv` — a speaking state is kept exactly for the live clients whose flag is set, and it
  names the channel the client stands in.
* `Agrees` — the same, for one client record and one speaking state under the same id. The invariant
  is `Agrees` at every id, so a method is judged at the ids it touches.
* `SpeakingStepOK` — the condition on a call. `JoinChannel` never looks at the speaking map, and
  `MoveClient` clears it only for a client that comes out of a channel, so both leave a stale
  speaking state behind for a client that speaks while it changes its channel.
* `sound_step_iff` — one call keeps the invariant *exactly* when it meets the condition.
* **`speaking_throughout_iff`** — a run keeps the invariant exactly when each of its calls does.
-/

namespace Voicx.State

open Found FMap

namespace Manager

/-! ## The invariant -/

/-- Speaking states and speaking clients correspond. -/
structure SpeakingInv (m : Manager) : Prop where
  /-- a speaking state is kept exactly for the live clients that speak -/
  record_iff : ∀ clientID, clientID ∈ m.speaking ↔
    ∃ c, m.clients.lookup clientID = some c ∧ c.isSpeaking = true
  /-- and it names the channel the client stands in -/
  same_channel : ∀ clientID ss c, m.speaking.lookup clientID = some ss →
    m.clients.lookup clientID = some c → ss.channelID = c.channelID

/-- A client record and a speaking state, found under the same id, fit together. -/
def Agrees : Option Client → Option SpeakingState → Prop
  | some c, some ss => c.isSpeaking = true ∧ ss.channelID = c.channelID
  | some c, none => c.isSpeaking = false
  | none, some _ => False
  | none, none => True

instance : ∀ c ss, Decidable (Agrees c ss)
  | some c, some ss => inferInstanceAs (Decidable (c.isSpeaking = true ∧ ss.channelID = c.channelID))
  | some c, none => inferInstanceAs (Decidable (c.isSpeaking = false))
  | none, some _ => inferInstanceAs (Decidable False)
  | none, none => inferInstanceAs (Decidable True)

/-- The invariant, id by id. -/
def Sound (m : Manager) : Prop :=
  ∀ clientID, Agrees (m.clients.lookup clientID) (m.speaking.lookup clientID)

variable {m : Manager}

lemma sound_iff_speakingInv : m.Sound ↔ m.SpeakingInv := by
  constructor
  · intro h
    refine ⟨fun id => ?_, fun id ss c hss hc => ?_⟩
    · have hid := h id
      rw [Finmap.mem_iff]
      cases hc : m.clients.lookup id <;> cases hss : m.speaking.lookup id <;> simp_all [Agrees]
    · have hid := h id
      rw [hc, hss] at hid
      exact hid.2
  · intro h id
    have hrec := h.record_iff id
    rw [Finmap.mem_iff] at hrec
    cases hc : m.clients.lookup id with
    | none => cases hss : m.speaking.lookup id <;> simp_all [Agrees]
    | some c =>
      cases hss : m.speaking.lookup id with
      | none => simp_all [Agrees]
      | some ss =>
        refine ⟨?_, h.same_channel id ss c hss hc⟩
        simp_all

/-! ## One client at a time -/

/-- A method that touches the client record and the speaking state of one id only is judged
there. -/
lemma sound_iff_at (h : m.Sound) (m' : Manager) (clientID : String)
    (hc : ∀ id, id ≠ clientID → m'.clients.lookup id = m.clients.lookup id)
    (hss : ∀ id, id ≠ clientID → m'.speaking.lookup id = m.speaking.lookup id) :
    m'.Sound ↔ Agrees (m'.clients.lookup clientID) (m'.speaking.lookup clientID) := by
  refine ⟨fun h' => h' clientID, fun hat id => ?_⟩
  by_cases hid : id = clientID
  · rw [hid]
    exact hat
  · rw [hc id hid, hss id hid]
    exact h id

/-- An update of one client record that keeps channel and flag keeps the invariant. -/
lemma Sound.modify (h : m.Sound) (clientID : String) (f : Client → Client)
    (hch : ∀ c, (f c).channelID = c.channelID) (hsp : ∀ c, (f c).isSpeaking = c.isSpeaking) :
    Sound { m with clients := m.clients.modify clientID f } := by
  intro id
  have hid := h id
  simp only [lookup_modify]
  by_cases heq : id = clientID
  · subst heq
    cases hc : m.clients.lookup id <;> cases hss : m.speaking.lookup id <;> simp_all [Agrees]
  · rwa [if_neg heq]

/-- A client that changes its channel without a word about its speaking state agrees with it
exactly when there is none. -/
lemma agrees_relocated {c : Client} {ss : Option SpeakingState} (h : Agrees (some c) ss)
    {ch : Int} (hne : c.channelID ≠ ch) :
    Agrees (some { c with channelID := ch }) ss ↔ ss = none := by
  cases ss with
  | none => exact ⟨fun _ => rfl, fun _ => h⟩
  | some ss =>
    have hch : ss.channelID = c.channelID := h.2
    refine ⟨fun h' => ?_, fun h' => by cases h'⟩
    exact absurd (hch.symm.trans h'.2) hne

/-- After `clearSpeaking` the client does not speak and no speaking state is kept for it. -/
lemma clearSpeaking_self (h : m.Sound) (clientID : String) :
    (m.clearSpeaking clientID).clients.lookup clientID =
        (m.clients.lookup clientID).map (fun c => { c with isSpeaking := false }) ∧
      (m.clearSpeaking clientID).speaking.lookup clientID = none := by
  have hid := h clientID
  unfold clearSpeaking
  cases hss : m.speaking.lookup clientID with
  | none =>
    refine ⟨?_, hss⟩
    rw [hss] at hid
    cases hc : m.clients.lookup clientID with
    | none => rfl
    | some c =>
      -- without a speaking state the flag was down already
      have hflag : c.isSpeaking = false := by rw [hc] at hid; exact hid
      cases c
      simp_all
  | some ss => simp [lookup_modify]

lemma clearSpeaking_other (m : Manager) {clientID id : String} (hid : id ≠ clientID) :
    (m.clearSpeaking clientID).clients.lookup id = m.clients.lookup id ∧
      (m.clearSpeaking clientID).speaking.lookup id = m.speaking.lookup id := by
  unfold clearSpeaking
  split
  · exact ⟨rfl, rfl⟩
  · simp [lookup_modify, hid]

/-! ## Removing channels -/

/-- The client is a member of one of the channels. -/
def displaced (m : Manager) (channelIDs : List Int) (clientID : String) : Bool :=
  channelIDs.any fun ch => decide (clientID ∈ m.membership.elems ch)

/-- The client's speaking state is in one of the channels. -/
def silenced (m : Manager) (channelIDs : List Int) (clientID : String) : Bool :=
  (m.speaking.lookup clientID).any fun ss => decide (ss.channelID ∈ channelIDs)

/-- What a removal of channels does to one client record. -/
def afterRemoval (m : Manager) (channelIDs : List Int) (clientID : String) (c : Client) : Client :=
  { c with
    channelID := if m.displaced channelIDs clientID then 0 else c.channelID
    isSpeaking := if m.silenced channelIDs clientID then false else c.isSpeaking }

lemma displaced_cons (m : Manager) (ch : Int) (rest : List Int) (id : String) :
    m.displaced (ch :: rest) id = true ↔
      id ∈ m.membership.elems ch ∨ (m.removeChannelLocked ch).displaced rest id = true := by
  simp only [displaced, removeChannelLocked, SetMap.elems_erase, List.any_eq_true,
    decide_eq_true_eq, List.mem_cons]
  constructor
  · rintro ⟨ch', rfl | hmem, hid⟩
    · exact .inl hid
    · by_cases hch : ch' = ch
      · rw [hch] at hid
        exact .inl hid
      · exact .inr ⟨ch', hmem, by rwa [if_neg hch]⟩
  · rintro (hid | ⟨ch', hmem, hid⟩)
    · exact ⟨ch, .inl rfl, hid⟩
    · split_ifs at hid with hch
      · simp at hid
      · exact ⟨ch', .inr hmem, hid⟩

lemma silenced_cons (m : Manager) (ch : Int) (rest : List Int) (id : String) :
    m.silenced (ch :: rest) id = true ↔
      m.speaksIn id ch = true ∨ (m.removeChannelLocked ch).silenced rest id = true := by
  simp only [silenced, speaksIn, removeChannelLocked, lookup_filter]
  cases m.speaking.lookup id with
  | none => simp
  | some ss => by_cases h : ss.channelID = ch <;> simp [Option.filter, h]

/-- Removing a list of channels is removing the first and then the others, seen from one client
record. -/
lemma afterRemoval_cons (m : Manager) (ch : Int) (rest : List Int) (id : String) (c : Client) :
    (m.removeChannelLocked ch).afterRemoval rest id
        (let c := if id ∈ m.membership.elems ch then { c with channelID := 0 } else c
         if m.speaksIn id ch then { c with isSpeaking := false } else c) =
      m.afterRemoval (ch :: rest) id c := by
  have hd := m.displaced_cons ch rest id
  have hs := m.silenced_cons ch rest id
  unfold afterRemoval
  by_cases h1 : id ∈ m.membership.elems ch <;> by_cases h2 : m.speaksIn id ch = true <;> simp_all

/-- The loop of `RemoveChannels` in closed form: the client record under one id. -/
lemma removeChannels_clients (m : Manager) (channelIDs : List Int) (id : String) :
    (m.removeChannels channelIDs).1.clients.lookup id =
      (m.clients.lookup id).map (m.afterRemoval channelIDs id) := by
  rw [removeChannels_fst]
  induction channelIDs generalizing m with
  | nil =>
    have hid : m.afterRemoval [] id = fun c => c := by
      funext c
      cases hss : m.speaking.lookup id <;> simp [afterRemoval, displaced, silenced, hss]
    simp [hid]
  | cons ch rest ih =>
    rw [List.foldl_cons, ih]
    have hfirst : (m.removeChannelLocked ch).clients.lookup id =
        (m.clients.lookup id).map fun c =>
          (let c := if id ∈ m.membership.elems ch then { c with channelID := 0 } else c
           if m.speaksIn id ch then { c with isSpeaking := false } else c) :=
      lookup_mapVals ..
    rw [hfirst, Option.map_map]
    congr 1
    funext c
    exact m.afterRemoval_cons ch rest id c

/-- The loop of `RemoveChannels` in closed form: the speaking state under one id. -/
lemma removeChannels_speaking (m : Manager) (channelIDs : List Int) (id : String) :
    (m.removeChannels channelIDs).1.speaking.lookup id =
      (m.speaking.lookup id).filter fun ss => decide (ss.channelID ∉ channelIDs) := by
  rw [removeChannels_fst]
  induction channelIDs generalizing m with
  | nil => cases hss : m.speaking.lookup id <;> simp [hss, Option.filter]
  | cons ch rest ih =>
    rw [List.foldl_cons, ih]
    simp only [removeChannelLocked, lookup_filter]
    cases m.speaking.lookup id with
    | none => rfl
    | some ss =>
      by_cases h1 : ss.channelID = ch <;> by_cases h2 : ss.channelID ∈ rest <;>
        simp [Option.filter, h1, h2]

/-- Every member of a channel that is removed speaks, if it speaks at all, in a channel that is
removed too, or in none. -/
def NoneStranded (m : Manager) (channelIDs : List Int) : Prop :=
  ∀ ch ∈ channelIDs, ∀ id ∈ m.membership.elems ch,
    ∀ ss ∈ m.speaking.lookup id, ss.channelID ∈ channelIDs ∨ ss.channelID = 0

instance (m : Manager) (channelIDs : List Int) : Decidable (m.NoneStranded channelIDs) := by
  unfold NoneStranded
  infer_instance

lemma noneStranded_iff {channelIDs : List Int} :
    m.NoneStranded channelIDs ↔ ∀ id ss, m.speaking.lookup id = some ss →
      m.displaced channelIDs id = true → ss.channelID ∈ channelIDs ∨ ss.channelID = 0 := by
  simp only [NoneStranded, displaced, List.any_eq_true, decide_eq_true_eq, Option.mem_def]
  constructor
  · rintro h id ss hss ⟨ch, hch, hid⟩
    exact h ch hch id hid ss hss
  · exact fun h ch hch id hid ss hss => h id ss hss ⟨ch, hch, hid⟩

/-- Removing channels keeps the invariant exactly when it strands no speaking state. -/
lemma sound_removeChannels_iff (h : m.Sound) (channelIDs : List Int) :
    (m.removeChannels channelIDs).1.Sound ↔ m.NoneStranded channelIDs := by
  have hat : ∀ id, Agrees ((m.removeChannels channelIDs).1.clients.lookup id)
      ((m.removeChannels channelIDs).1.speaking.lookup id) ↔
        ∀ ss, m.speaking.lookup id = some ss → m.displaced channelIDs id = true →
          ss.channelID ∈ channelIDs ∨ ss.channelID = 0 := by
    intro id
    have hid := h id
    rw [removeChannels_clients, removeChannels_speaking]
    cases hss : m.speaking.lookup id with
    | none =>
      cases hc : m.clients.lookup id with
      | none => simp [Agrees]
      | some c =>
        have hflag : c.isSpeaking = false := by rw [hc, hss] at hid; exact hid
        simp [Agrees, afterRemoval, silenced, hss, hflag]
    | some ss =>
      cases hc : m.clients.lookup id with
      | none => rw [hc, hss] at hid; exact hid.elim
      | some c =>
        obtain ⟨hflag, hch⟩ : c.isSpeaking = true ∧ ss.channelID = c.channelID := by
          rw [hc, hss] at hid; exact hid
        by_cases hin : ss.channelID ∈ channelIDs
        · simp [Agrees, afterRemoval, silenced, hss, Option.filter, hin]
        · -- the speaking state stays, so the client must keep its channel
          have hin' : c.channelID ∉ channelIDs := by rwa [← hch]
          by_cases hd : m.displaced channelIDs id = true <;>
            simp [Agrees, afterRemoval, silenced, hss, Option.filter, hin', hd, hflag, hch]
  rw [noneStranded_iff]
  exact forall_congr' hat

/-! ## One call -/

/-- The call finds the client and the channel, and they are not together yet. -/
def changesChannel (m : Manager) (clientID : String) (channelID : Int) : Prop :=
  (∃ c ∈ m.clients.lookup clientID, c.channelID ≠ channelID) ∧ channelID ∈ m.channels

/-- The condition under which a call keeps the invariant. A client is registered with the flag and
the channel of the speaking state kept under its id, hence not speaking where there is none. A
client that joins another channel, or that is moved into one from nowhere, does not speak. Removing
channels strands no speaking state. -/
def SpeakingStepOK (m : Manager) : Op → Prop
  | .addClient c => Agrees (some c) (m.speaking.lookup c.clientID)
  | .joinChannel clientID channelID =>
    m.changesChannel clientID channelID → clientID ∉ m.speaking
  | .moveClient clientID target =>
    m.changesChannel clientID target → m.inChannel clientID = false → clientID ∉ m.speaking
  | .removeChannel channelID => m.NoneStranded [channelID]
  | .removeChannels channelIDs => m.NoneStranded channelIDs
  | _ => True

instance (m : Manager) (clientID : String) (channelID : Int) :
    Decidable (m.changesChannel clientID channelID) := by
  unfold changesChannel
  infer_instance

instance (m : Manager) : ∀ op, Decidable (m.SpeakingStepOK op)
  | .addClient c => inferInstanceAs (Decidable (Agrees (some c) (m.speaking.lookup c.clientID)))
  | .joinChannel clientID channelID =>
    inferInstanceAs (Decidable (m.changesChannel clientID channelID → clientID ∉ m.speaking))
  | .moveClient clientID target =>
    inferInstanceAs (Decidable (m.changesChannel clientID target →
      m.inChannel clientID = false → clientID ∉ m.speaking))
  | .removeChannel channelID => inferInstanceAs (Decidable (m.NoneStranded [channelID]))
  | .removeChannels channelIDs => inferInstanceAs (Decidable (m.NoneStranded channelIDs))
  | .removeClient _ | .addChannel _ | .updateChannel _ _ | .leaveChannel _ | .subscribe _ _
  | .unsubscribe _ _ | .setSpeaking _ _ _ | .setPrioritySpeaker _ _ | .setE2EPublicKey _ _
  | .setStatus _ _ _ => .isTrue trivial

section calls

variable {m m' : Manager} {clientID : String} (h : m.Sound)

include h

/-- Entering a channel from another place, with the speaking map left alone. -/
lemma sound_enterMembership_iff {c : Client} {ch : Int} (hc : m.clients.lookup clientID = some c)
    (hne : c.channelID ≠ ch) (hcl : m'.clients = m.clients) (hsp : m'.speaking = m.speaking) :
    (m'.enterMembership clientID ch).Sound ↔ clientID ∉ m.speaking := by
  have hat := h clientID
  rw [hc] at hat
  rw [sound_iff_at h (m'.enterMembership clientID ch) clientID
    (fun id hid => by simp [enterMembership, lookup_modify, hid, hcl])
    (fun id _ => by simp [enterMembership, hsp])]
  simp only [enterMembership, lookup_modify, if_true, hcl, hsp, hc, Option.map_some]
  rw [agrees_relocated hat hne, ← Finmap.lookup_eq_none]

lemma sound_joinChannel_iff (clientID : String) (channelID : Int) :
    (m.step (.joinChannel clientID channelID)).Sound ↔
      (m.changesChannel clientID channelID → clientID ∉ m.speaking) := by
  rcases m.step_joinChannel clientID channelID with ⟨hno, hsame⟩ | ⟨c, hc, hch, hne, hstep⟩
  · rw [hsame]
    exact iff_of_true h fun ⟨⟨c, hc, hne⟩, hch⟩ => absurd (hno c hc hch) hne
  · rw [hstep, sound_enterMembership_iff h hc hne (by simp) (by simp)]
    exact ⟨fun hns _ => hns, fun hns => hns ⟨⟨c, hc, hne⟩, hch⟩⟩

/-- A client taken out of its channel by `LeaveChannel` or `MoveClient` does not speak. -/
lemma sound_of_cleared (m' : Manager) {m'' : Manager} (hcl : m'.clients = m.clients)
    (hsp : m'.speaking = m.speaking) (f : Client → Client)
    (hf : ∀ c, (f c).isSpeaking = c.isSpeaking)
    (hcl' : m''.clients = (m'.clearSpeaking clientID).clients.modify clientID f)
    (hsp' : m''.speaking = (m'.clearSpeaking clientID).speaking) : m''.Sound := by
  have h' : m'.Sound := fun id => by rw [hcl, hsp]; exact h id
  obtain ⟨hself, hnone⟩ := clearSpeaking_self h' clientID
  rw [sound_iff_at h' m'' clientID (fun id hid => by
      rw [hcl', lookup_modify, if_neg hid, (m'.clearSpeaking_other hid).1])
    (fun id hid => by rw [hsp', (m'.clearSpeaking_other hid).2])]
  rw [hcl', hsp', lookup_modify, hself, hnone]
  cases m'.clients.lookup clientID <;> simp [Agrees, hf]

lemma sound_moveClient_iff (clientID : String) (target : Int) :
    (m.step (.moveClient clientID target)).Sound ↔
      (m.changesChannel clientID target → m.inChannel clientID = false →
        clientID ∉ m.speaking) := by
  rcases m.step_moveClient clientID target with ⟨hno, hsame⟩ | ⟨c, hc, hch, hne, hstep⟩
  · rw [hsame]
    exact iff_of_true h fun ⟨⟨c, hc, hne⟩, hch⟩ => absurd (hno c hc hch) hne
  have hin : m.inChannel clientID = false ↔ c.channelID = 0 := by simp [inChannel, hc]
  rw [hstep, hin]
  by_cases h0 : c.channelID = 0
  · rw [if_neg (not_not.mpr h0), sound_enterMembership_iff h hc hne rfl rfl]
    exact ⟨fun hns _ _ => hns, fun hns => hns ⟨⟨c, hc, hne⟩, hch⟩ h0⟩
  · rw [if_pos h0]
    refine ⟨fun _ _ hz => absurd hz h0, fun _ => ?_⟩
    exact sound_of_cleared h (m.leaveMembership clientID c.channelID) (by simp) (by simp)
      (fun c => { c with channelID := target }) (fun _ => rfl) rfl rfl

lemma sound_leaveChannel (clientID : String) : (m.step (.leaveChannel clientID)).Sound := by
  rcases m.step_leaveChannel clientID with hsame | ⟨c, -, -, hstep⟩
  · rwa [hsame]
  · rw [hstep]
    exact sound_of_cleared h (m.leaveMembership clientID c.channelID) (by simp) (by simp)
      (fun c => { c with channelID := 0 }) (fun _ => rfl) rfl rfl

lemma sound_removeClient (clientID : String) : (m.removeClient clientID).1.Sound := by
  unfold removeClient
  cases hc : m.clients.lookup clientID with
  | none => exact h
  | some c =>
    intro id
    simp only [dropSubsLocked, leavePrevious_clients, leavePrevious_speaking, lookup_erase_ite]
    by_cases hid : id = clientID
    · simp [hid, Agrees]
    · rw [if_neg hid, if_neg hid]
      exact h id

lemma sound_setSpeaking (clientID : String) (speaking : Bool) (now : Int) :
    (m.setSpeaking clientID speaking now).Sound := by
  unfold setSpeaking
  cases hc : m.clients.lookup clientID with
  | none => exact h
  | some c =>
    cases speaking with
    | true | false =>
      refine (sound_iff_at h _ clientID (fun id hid => ?_) (fun id hid => ?_)).mpr ?_
      · simp [lookup_modify, hid]
      · simp [hid]
      · simp [lookup_modify, hc, Agrees]

/-- A method that leaves clients and speaking states alone keeps the invariant. -/
lemma Sound.of_same (hc : m'.clients = m.clients) (hs : m'.speaking = m.speaking) : m'.Sound := by
  intro id
  rw [hc, hs]
  exact h id

/-- **One call keeps the invariant exactly when it meets the condition.** -/
theorem sound_step_iff (op : Op) : (m.step op).Sound ↔ m.SpeakingStepOK op := by
  cases op with
  | addClient c =>
    refine (sound_iff_at h (m.addClient c) c.clientID (fun id hid => by simp [addClient, hid])
      fun id _ => rfl).trans ?_
    simp [addClient, SpeakingStepOK]
  | removeClient clientID => exact iff_of_true (sound_removeClient h clientID) trivial
  | addChannel ch => exact iff_of_true (h.of_same rfl rfl) trivial
  | removeChannel channelID => exact sound_removeChannels_iff h [channelID]
  | removeChannels channelIDs => exact sound_removeChannels_iff h channelIDs
  | updateChannel channelID u =>
    refine iff_of_true (h.of_same ?_ ?_) trivial <;>
      simp only [step, updateChannel] <;> split <;> rfl
  | joinChannel clientID channelID => exact sound_joinChannel_iff h clientID channelID
  | leaveChannel clientID => exact iff_of_true (sound_leaveChannel h clientID) trivial
  | moveClient clientID target => exact sound_moveClient_iff h clientID target
  | subscribe clientID channelIDs =>
    obtain ⟨_, _, heq⟩ := subscribe_eq m clientID channelIDs
    rw [step, heq]
    exact iff_of_true (h.of_same rfl rfl) trivial
  | unsubscribe clientID channelIDs =>
    refine iff_of_true (h.of_same ?_ ?_) trivial <;> simp only [step, unsubscribe] <;> split <;> rfl
  | setSpeaking clientID speaking now =>
    exact iff_of_true (sound_setSpeaking h clientID speaking now) trivial
  | setPrioritySpeaker clientID active | setE2EPublicKey clientID publicKey
  | setStatus clientID status message =>
    exact iff_of_true (h.modify clientID _ (fun _ => rfl) fun _ => rfl) trivial

end calls

/-! ## Every run -/

/-- **Speaking states in every run.** From the empty manager, through every sequence of calls with
any arguments, speaking states and speaking clients correspond after every call if and only if each
call meets the condition. -/
theorem speaking_throughout_iff (ops : List Op) :
    Throughout step SpeakingInv new ops ↔
      StepsOK step SpeakingStepOK new ops := by
  have hkeep : ∀ m op, Sound m → True → SpeakingStepOK m op → Sound (m.step op) :=
    fun m op h _ hok => (sound_step_iff h op).mpr hok
  have hbreak : ∀ m op, Sound m → True → ¬SpeakingStepOK m op → ¬SpeakingInv (m.step op) :=
    fun m op h _ hnok hinv => hnok ((sound_step_iff h op).mp (sound_iff_speakingInv.mpr hinv))
  exact throughout_iff_stepsOK (fun m h => sound_iff_speakingInv.mp h) hkeep hbreak
    (fun id => by simp [new, Agrees])
    (StepsOK.of_mem (p := fun _ => True) fun _ _ => trivial)

/-- `"a"` speaks in channel 1 and joins channel 2: its speaking state still names channel 1. -/
theorem speaking_state_stale_after_join :
    ∃ ops : List Op, ¬Throughout step SpeakingInv new ops := by
  refine ⟨[.addChannel { channelID := 1 }, .addChannel { channelID := 2 },
    .addClient { clientID := "a" }, .joinChannel "a" 1, .setSpeaking "a" true 5,
    .joinChannel "a" 2], fun h => ?_⟩
  have hch := h.final.same_channel "a" ⟨"a", 1, 5⟩
    { clientID := "a", channelID := 2, isSpeaking := true } (by decide) (by decide)
  exact absurd hch (by decide)

end Manager

end Voicx.State
