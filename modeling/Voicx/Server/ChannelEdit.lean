import Voicx.Channels.Update
import Voicx.Server.Powers
import Voicx.Server.Reply

/-!
# The channel_edit request

Model of `handleChannelEdit` of `internal/server/handlers.go`, and what an accepted edit does to the
join gates of the channel and of everything under it.

* `handleChannelEdit` — the handler. Without admin rights the needed join power may be raised up to
  the editor's own join power and never lowered.
* `newAbove` — an edit can also change *which* ancestors gate a channel: a new parent or a cleared
  `inherit_permissions` gives up a chain and takes another.
* `GatesCovered` — every power given up is still demanded by something that gates the channel after
  the edit.
* `channelEdit_keeps_gates_iff` — no gate in the subtree is weakened exactly when all are covered.
-/

namespace Voicx.Server

open Found State Permissions Manager List Channels

/-- The right to edit channels. -/
def channelModify : String := "b_channel_modify"

/-- A channel_edit request: the channel and the fields to change.
Source: `internal/netproto/codec.go`, `ChannelEdit` -/
structure ChannelEdit where
  channelID : Int
  fields : Channels.ChannelUpdate := {}
  deriving DecidableEq, Repr

/-- The cap on the needed join power: not above the editor's own power, not below the channel's. -/
def joinPowerRefusal (pc : PermChecker) (channel : Channel) : Option Int → Option String
  | none => none
  | some needed =>
    if pc.admin then none
    else if pc.power channelJoinPower < needed then
      some "cannot set needed join power above your own join power"
    else if needed < channel.neededJoinPower then
      some "cannot reduce the channel's needed join power"
    else none

/-- How a failed edit is answered. -/
def editErrorReply : Channels.UpdateError → ErrorReply
  | .invalidMove detail => ⟨.malformed, (Channels.UpdateError.invalidMove detail).text⟩
  | .channelNotFound => ⟨.notFound, "channel not found"⟩
  | e => ⟨.malformed, "channel edit failed: " ++ e.text⟩

variable (m : Manager)

/-- Source: `internal/server/handlers.go`, `handleChannelEdit` -/
def handleChannelEdit (pc : Option PermChecker) (stored : Bool) (msg : ChannelEdit) :
    Except ErrorReply Manager :=
  match m.getChannel msg.channelID with
  | none => .error ⟨.notFound, "channel not found"⟩
  | some channel =>
    match pc with
    | none => .error ⟨.unavailable, "permission backend unavailable"⟩
    | some pc =>
      if !pc.granted channelModify then
        .error ⟨.permissionDenied, "insufficient permission: " ++ channelModify⟩
      else match joinPowerRefusal pc channel msg.fields.neededJoinPower with
        | some text => .error ⟨.permissionDenied, text⟩
        | none =>
          match updateChannel m stored msg.channelID msg.fields with
          | .error e => .error (editErrorReply e)
          | .ok m' => .ok m'

/-- An accepted edit: the channel was live, the cap was met and the update went through. -/
lemma handleChannelEdit_ok {m m' : Manager} {pc : PermChecker} {stored : Bool} {msg : ChannelEdit}
    (h : handleChannelEdit m (some pc) stored msg = .ok m') :
    ∃ channel, m.channels.lookup msg.channelID = some channel ∧ pc.granted channelModify = true ∧
      joinPowerRefusal pc channel msg.fields.neededJoinPower = none ∧
      updateChannel m stored msg.channelID msg.fields = .ok m' := by
  unfold handleChannelEdit at h
  cases hch : m.getChannel msg.channelID with
  | none => simp [hch] at h
  | some channel =>
    simp only [hch] at h
    split_ifs at h with hgranted
    cases hcap : joinPowerRefusal pc channel msg.fields.neededJoinPower with
    | some text => simp [hcap] at h
    | none =>
      simp only [hcap] at h
      cases hupd : updateChannel m stored msg.channelID msg.fields with
      | error e => simp [hupd] at h
      | ok m'' =>
        simp only [hupd, Except.ok.injEq] at h
        subst h
        exact ⟨channel, hch, by simpa using hgranted, hcap, rfl⟩

/-! ## The chain after an edit, in terms of the tree before it -/

variable (msg : ChannelEdit)

/-- The parent the edited channel inherits from after the edit. -/
def newLink : Option Int :=
  match m.channels.lookup msg.channelID with
  | none => none
  | some channel =>
    let edited := msg.fields.patch.apply channel
    if !edited.inheritPermissions || edited.parentID == 0 then none
    else if edited.parentID ∈ m.channels then some edited.parentID else none

/-- What gates the edited channel from above after the edit, within `n` links. -/
def newAbove : ℕ → List Int
  | 0 => []
  | n + 1 =>
    match newLink m msg with
    | none => []
    | some parent => parent :: chain m.inheritsFrom n parent

/-- The edited channel's own needed join power after the edit. -/
def newPower : Int :=
  msg.fields.neededJoinPower.getD (m.ownJoinPower msg.channelID)

section edited

variable {m m' : Manager} {stored : Bool} {msg : ChannelEdit}
  (hupd : updateChannel m stored msg.channelID msg.fields = .ok m')

include hupd

lemma mem_channels_edited (id : Int) : id ∈ m'.channels ↔ id ∈ m.channels := by
  rw [← Finmap.lookup_isSome, ← Finmap.lookup_isSome, lookup_updateChannel hupd]
  split_ifs with hid
  · subst hid
    simp
  · rfl

lemma ownJoinPower_edited (hlive : msg.channelID ∈ m.channels) (id : Int) :
    m'.ownJoinPower id = if id = msg.channelID then newPower m msg else m.ownJoinPower id := by
  unfold ownJoinPower
  rw [lookup_updateChannel hupd]
  split_ifs with hid
  · obtain ⟨channel, hch⟩ := Finmap.mem_iff.mp hlive
    simp [newPower, ownJoinPower, hch, State.ChannelUpdate.apply, Channels.ChannelUpdate.patch]
  · rfl

lemma inheritsFrom_edited_of_ne {id : Int} (hid : id ≠ msg.channelID) :
    m'.inheritsFrom id = m.inheritsFrom id := by
  unfold inheritsFrom
  rw [lookup_updateChannel hupd, if_neg hid]
  simp [mem_channels_edited hupd]

lemma inheritsFrom_edited_self : m'.inheritsFrom msg.channelID = newLink m msg := by
  unfold inheritsFrom newLink
  rw [lookup_updateChannel hupd, if_pos rfl]
  cases m.channels.lookup msg.channelID with
  | none => rfl
  | some channel => simp [mem_channels_edited hupd]

variable (hacyclic : m.Acyclic)

include hacyclic

/-- The guard keeps the edited channel off the chain above it. -/
lemma not_inSubtree_newLink {parent : Int} (hlink : newLink m msg = some parent) :
    ¬m.InSubtree parent msg.channelID := by
  unfold newLink at hlink
  cases hch : m.channels.lookup msg.channelID with
  | none => simp [hch] at hlink
  | some channel =>
    simp only [hch] at hlink
    split_ifs at hlink with hroot hlive
    cases hlink
    simp only [Bool.or_eq_true, beq_iff_eq, not_or] at hroot
    cases hparent : msg.fields.parentID with
    | some newParent =>
      -- a parent named by the edit passed the walk of the guard
      have heq : (msg.fields.patch.apply channel).parentID = newParent := by
        simp [State.ChannelUpdate.apply, Channels.ChannelUpdate.patch, hparent]
      rw [heq] at hroot ⊢
      exact not_inSubtree_of_updateChannel hupd hparent hroot.2
    | none =>
      -- the parent is the old one: a path back would close a cycle
      have heq : (msg.fields.patch.apply channel).parentID = channel.parentID := by
        simp [State.ChannelUpdate.apply, Channels.ChannelUpdate.patch, hparent]
      rw [heq] at hroot ⊢
      intro hsub
      exact hacyclic msg.channelID (Relation.TransGen.head' ⟨channel, hch, rfl, hroot.2⟩ hsub)

lemma chain_edited (n : ℕ) : chain m'.inheritsFrom n msg.channelID = newAbove m msg n := by
  cases n with
  | zero => rfl
  | succ n =>
    unfold newAbove
    cases hlink : newLink m msg with
    | none => exact chain_succ_of_none ((inheritsFrom_edited_self hupd).trans hlink)
    | some parent =>
      rw [chain_succ_of_some ((inheritsFrom_edited_self hupd).trans hlink)]
      congr 1
      refine chain_congr fun id hid => inheritsFrom_edited_of_ne hupd fun heq => ?_
      refine not_inSubtree_newLink hupd hacyclic hlink ?_
      rcases mem_cons.mp hid with h | h
      · rw [← heq, h]
        exact Relation.ReflTransGen.refl
      · rw [← heq]
        exact (transGen_of_mem_inherits h).to_reflTransGen

lemma ne_of_mem_newAbove {n : ℕ} {id : Int} (hid : id ∈ newAbove m msg n) :
    id ≠ msg.channelID := by
  cases n with
  | zero => cases hid
  | succ n =>
    unfold newAbove at hid
    cases hlink : newLink m msg with
    | none => simp [hlink] at hid
    | some parent =>
      simp only [hlink] at hid
      rintro rfl
      refine not_inSubtree_newLink hupd hacyclic hlink ?_
      rcases mem_cons.mp hid with h | h
      · rw [h]
        exact Relation.ReflTransGen.refl
      · exact (transGen_of_mem_inherits h).to_reflTransGen

end edited

/-! ## Gates that stay as strong -/

/-- The channels between `d` and the edited channel, `d` included: those gate `d` before and after
the edit. -/
def gatedBelow (m : Manager) (msg : ChannelEdit) (d : Int) : List Int :=
  (m.gateChain d).takeWhile fun id => id ≠ msg.channelID

/-- The links left above the edited channel on a walk from `d`. -/
def linksLeft (m : Manager) (msg : ChannelEdit) (d : Int) : ℕ :=
  Manager.maxChannelDepth - (gatedBelow m msg d).length

/-- Every gate is covered: for the edited channel and each channel that inherits through it, a power
demanded from above the edited channel before the edit is still demanded by something that gates the
channel after it: a channel below the edited one, the edited channel itself with its new power, or
the new chain above. -/
def GatesCovered (m : Manager) (msg : ChannelEdit) : Prop :=
  ∀ d, msg.channelID ∈ m.gateChain d →
    ∀ i ∈ chain m.inheritsFrom (linksLeft m msg d) msg.channelID,
      (∃ j ∈ gatedBelow m msg d, m.ownJoinPower i ≤ m.ownJoinPower j) ∨
        m.ownJoinPower i ≤ newPower m msg ∨
        ∃ j ∈ newAbove m msg (linksLeft m msg d), m.ownJoinPower i ≤ m.ownJoinPower j

section gates

variable {m m' : Manager} {stored : Bool} {msg : ChannelEdit} {d : Int}

/-- The cap of the handler: a needed power that is set is not below the channel's. -/
lemma le_newPower {pc : PermChecker} (hadmin : pc.admin = false) {channel : Channel}
    (hch : m.channels.lookup msg.channelID = some channel)
    (hcap : joinPowerRefusal pc channel msg.fields.neededJoinPower = none) :
    m.ownJoinPower msg.channelID ≤ newPower m msg := by
  unfold newPower
  cases hneeded : msg.fields.neededJoinPower with
  | none => exact le_rfl
  | some needed =>
    have hown : m.ownJoinPower msg.channelID = channel.neededJoinPower := by
      simp [ownJoinPower, hch]
    rw [hneeded] at hcap
    simp only [joinPowerRefusal, hadmin, Bool.false_eq_true, if_false] at hcap
    split_ifs at hcap with h1 h2
    rw [hown]
    exact not_lt.mp h2

variable (hupd : updateChannel m stored msg.channelID msg.fields = .ok m')

include hupd

/-- A gate that does not reach the edited channel is what it was. -/
lemma effectiveJoinPower_of_not_mem (hlive : msg.channelID ∈ m.channels)
    (hd : msg.channelID ∉ m.gateChain d) :
    m'.effectiveJoinPower d = m.effectiveJoinPower d := by
  have hne : ∀ id ∈ m.gateChain d, id ≠ msg.channelID := fun id hid h => hd (h ▸ hid)
  have hchain : m'.gateChain d = m.gateChain d := by
    unfold gateChain
    rw [chain_congr fun id hid => inheritsFrom_edited_of_ne hupd (hne id hid)]
  refine le_antisymm ?_ ?_ <;> rw [effectiveJoinPower_le_iff] <;> intro id hid <;>
    rw [le_effectiveJoinPower_iff]
  · rw [hchain] at hid
    refine ⟨id, hid, ?_⟩
    rw [ownJoinPower_edited hupd hlive, if_neg (hne id hid)]
  · refine ⟨id, hchain ▸ hid, ?_⟩
    rw [ownJoinPower_edited hupd hlive, if_neg (hne id hid)]

variable (hacyclic : m.Acyclic) (hd : msg.channelID ∈ m.gateChain d)

include hacyclic hd

/-- A gate that reaches the edited channel stays as strong exactly when what it gave up is
covered. -/
lemma effectiveJoinPower_le_edited_iff (hlive : msg.channelID ∈ m.channels)
    (hraise : m.ownJoinPower msg.channelID ≤ newPower m msg) :
    m.effectiveJoinPower d ≤ m'.effectiveJoinPower d ↔
      ∀ i ∈ chain m.inheritsFrom (linksLeft m msg d) msg.channelID,
        (∃ j ∈ gatedBelow m msg d, m.ownJoinPower i ≤ m.ownJoinPower j) ∨
          m.ownJoinPower i ≤ newPower m msg ∨
          ∃ j ∈ newAbove m msg (linksLeft m msg d), m.ownJoinPower i ≤ m.ownJoinPower j := by
  have hbelow : ∀ j ∈ gatedBelow m msg d, m'.ownJoinPower j = m.ownJoinPower j := by
    intro j hj
    rw [ownJoinPower_edited hupd hlive, if_neg]
    simpa using mem_takeWhile_imp hj
  have habove : ∀ j ∈ newAbove m msg (linksLeft m msg d), m'.ownJoinPower j = m.ownJoinPower j := by
    intro j hj
    rw [ownJoinPower_edited hupd hlive, if_neg (ne_of_mem_newAbove hupd hacyclic hj)]
  have hself : m'.ownJoinPower msg.channelID = newPower m msg := by
    rw [ownJoinPower_edited hupd hlive, if_pos rfl]
  -- a bound is met after the edit by one of three kinds of channels
  have hafter : ∀ B, B ≤ m'.effectiveJoinPower d ↔
      (∃ j ∈ gatedBelow m msg d, B ≤ m.ownJoinPower j) ∨ B ≤ newPower m msg ∨
        ∃ j ∈ newAbove m msg (linksLeft m msg d), B ≤ m.ownJoinPower j := by
    intro B
    rw [le_effectiveJoinPower_iff, show m'.gateChain d = gatedBelow m msg d ++ _ from
      cons_chain_split (fun _ hid => inheritsFrom_edited_of_ne hupd hid) hd,
      chain_edited hupd hacyclic]
    simp only [mem_append, mem_cons]
    constructor
    · rintro ⟨j, hj | rfl | hj, hB⟩
      · exact .inl ⟨j, hj, hbelow j hj ▸ hB⟩
      · exact .inr (.inl (hself ▸ hB))
      · exact .inr (.inr ⟨j, hj, habove j hj ▸ hB⟩)
    · rintro (⟨j, hj, hB⟩ | hB | ⟨j, hj, hB⟩)
      · exact ⟨j, .inl hj, (hbelow j hj).symm ▸ hB⟩
      · exact ⟨msg.channelID, .inr (.inl rfl), hself.symm ▸ hB⟩
      · exact ⟨j, .inr (.inr hj), (habove j hj).symm ▸ hB⟩
  rw [effectiveJoinPower_le_iff, show m.gateChain d = gatedBelow m msg d ++ _ from
    cons_chain_split (fun _ _ => rfl) hd]
  simp only [mem_append, mem_cons, hafter]
  constructor
  · intro h i hi
    exact h i (.inr (.inr hi))
  · rintro h i (hi | rfl | hi)
    · exact .inl ⟨i, hi, le_rfl⟩
    · exact .inr (.inl hraise)
    · exact h i hi

end gates

/-- **An edit weakens no join gate exactly when every gate is covered.** For every acyclic channel
tree and every channel_edit by a client that is not an admin that was accepted, whatever fields it
changed: the effective join power of the channel and of everything under it is at least what it was,
if and only if whatever the edit stopped inheriting is still demanded. -/
theorem channelEdit_keeps_gates_iff (m m' : Manager) (hacyclic : m.Acyclic) (pc : PermChecker)
    (hadmin : pc.admin = false) (stored : Bool) (msg : ChannelEdit)
    (hacc : handleChannelEdit m (some pc) stored msg = .ok m') :
    (∀ d, m.InSubtree d msg.channelID → m.effectiveJoinPower d ≤ m'.effectiveJoinPower d) ↔
      GatesCovered m msg := by
  obtain ⟨channel, hch, -, hcap, hupd⟩ := handleChannelEdit_ok hacc
  have hlive : msg.channelID ∈ m.channels := Finmap.mem_of_lookup_eq_some hch
  have hraise := le_newPower hadmin hch hcap
  constructor
  · intro h d hd
    exact (effectiveJoinPower_le_edited_iff hupd hacyclic hd hlive hraise).mp
      (h d (inSubtree_of_mem_gateChain hd))
  · intro h d _
    by_cases hd : msg.channelID ∈ m.gateChain d
    · exact (effectiveJoinPower_le_edited_iff hupd hacyclic hd hlive hraise).mpr (h d hd)
    · exact (effectiveJoinPower_of_not_mem hupd hlive hd).ge

/-- Channel 2 stands under channel 1, which needs join power 50, and inherits from it. -/
def gatedTree : Manager :=
  run Manager.step Manager.new
    [.addChannel { channelID := 1, neededJoinPower := 50 },
      .addChannel { channelID := 2, parentID := 1, inheritPermissions := true }]

/-- A client whose only right is to edit channels. -/
def channelEditor : PermChecker where
  tp := (∅ : TieredPermissions).insert .serverGroup
    (PermissionSet.set ∅ ⟨channelModify, .boolean, 1, 0, false, false⟩)
  admin := false

lemma gatedTree_acyclic : gatedTree.Acyclic :=
  acyclic_of_rank (fun id => if id = 2 then 1 else 0) (by decide)

/-- An edit of a root channel gives nothing up. -/
theorem channelEdit_keeps_gates_iff_root :
    gatedTree.effectiveJoinPower 1 ≤
      (gatedTree.updateChannel 1 { topic := some "welcome" }).1.effectiveJoinPower 1 := by
  refine (channelEdit_keeps_gates_iff gatedTree _ gatedTree_acyclic channelEditor rfl true
    { channelID := 1, fields := { topic := some "welcome" } } rfl).mpr ?_ 1
    Relation.ReflTransGen.refl
  intro d _ i hi
  have hroot : ∀ n, chain gatedTree.inheritsFrom n 1 = [] := by
    intro n
    cases n with
    | zero => rfl
    | succ n => exact chain_succ_of_none (by decide)
  simp [hroot] at hi

/-- **An edit without admin rights opens a gated channel.** Channel 2 is closed to everyone below
power 50. Clearing `inherit_permissions`, or moving the channel to the root, is accepted from an
editor without any join power, and the channel is open afterwards. -/
theorem channelEdit_opens_gate :
    gatedTree.Acyclic ∧ channelEditor.admin = false ∧ gatedTree.effectiveJoinPower 2 = 50 ∧
      (handleChannelEdit gatedTree (some channelEditor) true
        { channelID := 2, fields := { inheritPermissions := some false } }).toOption.map
          (fun m' => m'.effectiveJoinPower 2) = some 0 ∧
      (handleChannelEdit gatedTree (some channelEditor) true
        { channelID := 2, fields := { parentID := some 0 } }).toOption.map
          (fun m' => m'.effectiveJoinPower 2) = some 0 :=
  ⟨gatedTree_acyclic, by decide⟩

end Voicx.Server
