import Voicx.State.Manager

/-!
# Channel subscriptions

The subscription relation is stored twice, as `subs` (client to channels) and `subsByChannel`
(channel to clients), and torn down from both ends: a disconnect drops a client's row, a deletion
drops a channel's column.

* `SubscriptionInv` — the two maps are inverse to each other, mention only live clients and live
  channels, and keep no empty set.
* `Linked` — the inductive form, over pairs.
* `Linked.step` — every call keeps it; **`subscriptions_throughout`** — every run does.
-/

namespace Voicx.State

open Found SetMap Finmap FMap

namespace Manager

/-! ## The invariant -/

/-- The two subscription maps are two views of one relation between live clients and live
channels. -/
structure SubscriptionInv (m : Manager) : Prop where
  /-- exact inverses of each other -/
  inverse : ∀ clientID ch, ch ∈ m.subs.elems clientID ↔ clientID ∈ m.subsByChannel.elems ch
  /-- only live clients and live channels are mentioned by `subs` -/
  subs_live : (∀ clientID ∈ m.subs, clientID ∈ m.clients) ∧
    ∀ clientID, ∀ ch ∈ m.subs.elems clientID, ch ∈ m.channels
  /-- and by `subsByChannel` -/
  subsByChannel_live : (∀ ch ∈ m.subsByChannel, ch ∈ m.channels) ∧
    ∀ ch, ∀ clientID ∈ m.subsByChannel.elems ch, clientID ∈ m.clients
  /-- no empty inner set is kept -/
  noEmpty : m.subs.NoEmpty ∧ m.subsByChannel.NoEmpty

/-- The inductive form of the invariant, over pairs. -/
structure Linked (m : Manager) : Prop where
  inverse : ∀ clientID ch, ch ∈ m.subs.elems clientID ↔ clientID ∈ m.subsByChannel.elems ch
  live : ∀ clientID ch, ch ∈ m.subs.elems clientID → clientID ∈ m.clients ∧ ch ∈ m.channels
  subs_noEmpty : m.subs.NoEmpty
  rev_noEmpty : m.subsByChannel.NoEmpty

lemma Linked.subscriptionInv {m : Manager} (h : m.Linked) : m.SubscriptionInv where
  inverse := h.inverse
  subs_live := by
    refine ⟨fun clientID hkey => ?_, fun clientID ch hch => (h.live clientID ch hch).2⟩
    obtain ⟨ch, hch⟩ := (h.subs_noEmpty.mem_iff clientID).mp hkey
    exact (h.live clientID ch hch).1
  subsByChannel_live := by
    refine ⟨fun ch hkey => ?_, fun ch clientID hid => ?_⟩
    · obtain ⟨clientID, hid⟩ := (h.rev_noEmpty.mem_iff ch).mp hkey
      exact (h.live clientID ch ((h.inverse clientID ch).mpr hid)).2
    · exact (h.live clientID ch ((h.inverse clientID ch).mpr hid)).1
  noEmpty := ⟨h.subs_noEmpty, h.rev_noEmpty⟩

lemma linked_new : new.Linked where
  inverse clientID ch := by simp [new]
  live clientID ch h := by simp [new] at h
  subs_noEmpty := noEmpty_empty
  rev_noEmpty := noEmpty_empty

namespace Linked

variable {m : Manager}

/-- A method that leaves the two maps alone and removes no client and no channel keeps the
invariant. -/
lemma of_same (h : m.Linked) {m' : Manager} (hsubs : m'.subs = m.subs)
    (hrev : m'.subsByChannel = m.subsByChannel) (hcl : ∀ id ∈ m.clients, id ∈ m'.clients)
    (hch : ∀ ch ∈ m.channels, ch ∈ m'.channels) : m'.Linked where
  inverse clientID ch := by rw [hsubs, hrev]; exact h.inverse clientID ch
  live clientID ch hmem := by
    rw [hsubs] at hmem
    obtain ⟨h1, h2⟩ := h.live clientID ch hmem
    exact ⟨hcl clientID h1, hch ch h2⟩
  subs_noEmpty := by rw [hsubs]; exact h.subs_noEmpty
  rev_noEmpty := by rw [hrev]; exact h.rev_noEmpty

/-! ## Tearing down from either end -/

/-- Dropping a client's row: the reverse sets it appears in are those of the channels in its own
set, so nothing of it is left behind. -/
lemma removeClient (h : m.Linked) (clientID : String) : (m.removeClient clientID).1.Linked := by
  unfold Manager.removeClient
  cases hc : m.clients.lookup clientID with
  | none => exact h
  | some c =>
    refine ⟨fun id ch => ?_, fun id ch hmem => ?_, ?_, ?_⟩
    · simp only [dropSubsLocked, leavePrevious_subs, leavePrevious_subsByChannel,
        elems_erase, mem_elems_removeAll]
      by_cases hid : id = clientID
      · subst hid
        simp [h.inverse]
      · simp [hid, h.inverse]
    · simp only [dropSubsLocked, leavePrevious_subs, leavePrevious_clients, elems_erase] at hmem ⊢
      split_ifs at hmem with hid
      · simp at hmem
      · obtain ⟨h1, h2⟩ := h.live id ch hmem
        exact ⟨mem_erase.mpr ⟨hid, h1⟩, (mem_leavePrevious_channels ..).mpr h2⟩
    · simp only [dropSubsLocked, leavePrevious_subs]
      exact h.subs_noEmpty.erase clientID
    · simp only [dropSubsLocked, leavePrevious_subs, leavePrevious_subsByChannel]
      exact h.rev_noEmpty.removeAll _ _

/-- Dropping a channel's column. -/
lemma removeChannelLocked (h : m.Linked) (channelID : Int) :
    (m.removeChannelLocked channelID).Linked where
  inverse clientID ch := by
    simp only [Manager.removeChannelLocked, mem_elems_removeAll, elems_erase]
    by_cases hch : ch = channelID
    · subst hch
      simp [h.inverse]
    · simp [hch, h.inverse]
  live clientID ch hmem := by
    simp only [Manager.removeChannelLocked, mem_elems_removeAll] at hmem ⊢
    obtain ⟨hmem, hnot⟩ := hmem
    obtain ⟨h1, h2⟩ := h.live clientID ch hmem
    refine ⟨?_, mem_erase.mpr ⟨?_, h2⟩⟩
    · rw [← lookup_isSome] at h1 ⊢
      simpa using h1
    · rintro rfl
      exact hnot ⟨(h.inverse clientID ch).mp hmem, rfl⟩
  subs_noEmpty := h.subs_noEmpty.removeAll _ _
  rev_noEmpty := h.rev_noEmpty.erase channelID

/-! ## Subscribing and unsubscribing -/

lemma subscribeOne (h : m.Linked) {clientID : String} (hc : clientID ∈ m.clients)
    (channelID : Int) : (m.subscribeOne clientID channelID).Linked := by
  unfold Manager.subscribeOne
  cases hch : m.channels.lookup channelID with
  | none => exact h
  | some info =>
    refine ⟨fun id ch => ?_, fun id ch hmem => ?_, h.subs_noEmpty.add _ _, h.rev_noEmpty.add _ _⟩
    · simp only [mem_elems_add, h.inverse]
      tauto
    · simp only [mem_elems_add] at hmem
      rcases hmem with ⟨rfl, rfl⟩ | hmem
      · exact ⟨hc, mem_of_lookup_eq_some hch⟩
      · exact h.live id ch hmem

/-- Both indexes get the subscription. -/
theorem subscribe (h : m.Linked) (clientID : String) (channelIDs : List Int) :
    (m.subscribe clientID channelIDs).Linked := by
  by_cases hc : clientID ∈ m.clients
  · -- the loop keeps the client live, which is what lets each iteration add a pair for it
    have hloop : (m.subscribe clientID channelIDs).Linked ∧
        clientID ∈ (m.subscribe clientID channelIDs).clients := by
      refine subscribe_induct (P := fun m => m.Linked ∧ clientID ∈ m.clients)
        (fun m' ch h' => ⟨h'.1.subscribeOne h'.2 ch, ?_⟩) ⟨h, hc⟩ channelIDs
      unfold Manager.subscribeOne
      split <;> exact h'.2
    exact hloop.1
  · rw [Manager.subscribe, lookup_eq_none.mpr hc]
    exact h

lemma mem_foldl_erase (ids : List Int) (s : Finset Int) (ch : Int) :
    ch ∈ ids.foldl (fun s id => s.erase id) s ↔ ch ∈ s ∧ ch ∉ ids := by
  induction ids generalizing s with
  | nil => simp
  | cons id rest ih =>
    rw [List.foldl_cons, ih, Finset.mem_erase, List.mem_cons]
    tauto

lemma mem_elems_foldl_remove (ids : List Int) (rev : SetMap Int String) (clientID id : String)
    (ch : Int) :
    id ∈ (ids.foldl (fun rev ch => rev.remove ch clientID) rev).elems ch ↔
      id ∈ rev.elems ch ∧ ¬(ch ∈ ids ∧ id = clientID) := by
  induction ids generalizing rev with
  | nil => simp
  | cons ch' rest ih =>
    rw [List.foldl_cons, ih, mem_elems_remove, List.mem_cons]
    tauto

/-- The client's own set after `Unsubscribe`, whether it was dropped or not. -/
lemma elems_unsubscribed (subs : SetMap String Int) (set : Finset Int) (clientID id : String) :
    elems (if set = ∅ then subs.erase clientID else subs.insert clientID set) id =
      if id = clientID then set else subs.elems id := by
  by_cases he : set = ∅
  · rw [if_pos he, elems_erase, he]
  · rw [if_neg he]
    unfold elems
    rw [lookup_insert_ite]
    split_ifs <;> rfl

lemma unsubscribe (h : m.Linked) (clientID : String) (channelIDs : List Int) :
    (m.unsubscribe clientID channelIDs).Linked := by
  unfold Manager.unsubscribe
  cases hset : m.subs.lookup clientID with
  | none => exact h
  | some set =>
    have hmem : ∀ id ch, ch ∈ elems
        (if channelIDs.foldl (fun s id => s.erase id) set = ∅ then m.subs.erase clientID
          else m.subs.insert clientID (channelIDs.foldl (fun s id => s.erase id) set)) id ↔
        ch ∈ m.subs.elems id ∧ ¬(ch ∈ channelIDs ∧ id = clientID) := by
      intro id ch
      rw [elems_unsubscribed]
      by_cases hid : id = clientID
      · rw [if_pos hid, mem_foldl_erase, hid, elems_of_lookup hset]
        simp
      · simp [hid]
    refine ⟨fun id ch => ?_, fun id ch hin => ?_, ?_,
      List.foldlRecOn _ _ h.rev_noEmpty fun _ hrev ch _ => hrev.remove ch clientID⟩
    · rw [hmem, mem_elems_foldl_remove, h.inverse]
    · exact h.live id ch ((hmem id ch).mp hin).1
    intro id s hs
    simp only at hs
    split_ifs at hs with he
    · exact h.subs_noEmpty.erase clientID id s hs
    · rcases lookup_insert_eq_some.mp hs with ⟨-, rfl⟩ | ⟨-, hold⟩
      · exact he
      · exact h.subs_noEmpty id s hold

/-! ## Every call and every run -/

/-- **Every call keeps the two maps inverse to each other**, whatever its arguments. -/
theorem step (h : m.Linked) (op : Op) : (m.step op).Linked := by
  cases op with
  | addClient c =>
    exact h.of_same rfl rfl (fun id hid => mem_insert.mpr (.inr hid)) fun _ hch => hch
  | removeClient clientID => exact h.removeClient clientID
  | addChannel ch =>
    exact h.of_same rfl rfl (fun _ hid => hid) fun ch hch => mem_insert.mpr (.inr hch)
  | removeChannel channelID =>
    exact removeChannels_induct (fun _ ch h => h.removeChannelLocked ch) h [channelID]
  | removeChannels channelIDs =>
    exact removeChannels_induct (fun _ ch h => h.removeChannelLocked ch) h channelIDs
  | updateChannel channelID u =>
    simp only [Manager.step, Manager.updateChannel]
    split
    · exact h
    · exact h.of_same rfl rfl (fun _ hid => hid) fun ch hch => (mem_modify ..).mpr hch
  | joinChannel clientID channelID =>
    rcases m.step_joinChannel clientID channelID with ⟨-, hsame⟩ | ⟨c, -, -, -, hstep⟩
    · rwa [hsame]
    · rw [hstep]
      exact h.of_same (leavePrevious_subs ..) (leavePrevious_subsByChannel ..)
        (fun id hid => (mem_modify ..).mpr (by simpa using hid))
        fun ch hch => (mem_modify ..).mpr (by simpa using hch)
  | leaveChannel clientID =>
    rcases m.step_leaveChannel clientID with hsame | ⟨c, -, -, hstep⟩
    · rwa [hsame]
    · rw [hstep]
      exact h.of_same (by simp) (by simp)
        (fun id hid => (mem_modify ..).mpr (by simpa using hid)) fun ch hch => by simpa using hch
  | moveClient clientID target =>
    rcases m.step_moveClient clientID target with ⟨-, hsame⟩ | ⟨c, -, -, -, hstep⟩
    · rwa [hsame]
    rw [hstep]
    split
    · exact h.of_same (by simp [enterMembership]) (by simp [enterMembership])
        (fun id hid => (mem_modify ..).mpr (by simpa using hid))
        fun ch hch => (mem_modify ..).mpr (by simpa using hch)
    · exact h.of_same rfl rfl (fun id hid => (mem_modify ..).mpr hid)
        fun ch hch => (mem_modify ..).mpr hch
  | subscribe clientID channelIDs => exact h.subscribe clientID channelIDs
  | unsubscribe clientID channelIDs => exact h.unsubscribe clientID channelIDs
  | setSpeaking clientID speaking now =>
    simp only [Manager.step, Manager.setSpeaking]
    split
    · exact h
    · split <;> exact h.of_same rfl rfl (fun id hid => (mem_modify ..).mpr hid) fun _ hch => hch
  | setPrioritySpeaker clientID active | setE2EPublicKey clientID publicKey
  | setStatus clientID status message =>
    exact h.of_same rfl rfl (fun id hid => (mem_modify ..).mpr hid) fun _ hch => hch

end Linked

/-- **Subscriptions in every run.** From the empty manager, through every sequence of calls with any
arguments, the two subscription maps stay inverse to each other, mention only live clients and
channels and keep no empty set. -/
theorem subscriptions_throughout (ops : List Op) :
    Throughout step SubscriptionInv new ops := by
  have hstep : ∀ m op, Linked m → Linked (m.step op) := fun _ op h => h.step op
  exact (throughout_of_step hstep linked_new ops).mono fun _ h => h.subscriptionInv

end Manager

end Voicx.State
