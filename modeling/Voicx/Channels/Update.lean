import Voicx.State.ChannelTree

/-!
# Editing a channel

Model of `UpdateChannel` of `internal/channels/manager.go`: validation, the cycle guard for a new
parent, and the mirroring of the stored row into the in-memory state.

The `channels` table and the in-memory state hold the same tree; the model keeps one. What can go
wrong in the database is the flag `stored`.

* `ChannelUpdate` — the fields an edit may change.
* `validateMoveTx` — the guard: the new parent exists and the channel is not above it.
* `updateChannel` — the edit.
* `not_inSubtree_of_validateMoveTx` — what the guard guarantees; `lookup_updateChannel` — what an
  edit that went through did.

Source names without a file are from `internal/channels/manager.go`.
-/

namespace Voicx.Channels

open Found State

/-- The errors of the channel manager.
Source: `ErrInvalidSpec`, `ErrChannelNotFound`, `ErrInvalidMove`;
`failed` is every other error -/
inductive UpdateError
  | invalidSpec (detail : String)
  | channelNotFound
  | invalidMove (detail : String)
  | failed (detail : String)
  deriving DecidableEq, Repr

/-- The text of an error. -/
def UpdateError.text : UpdateError → String
  | .invalidSpec detail => "invalid channel spec: " ++ detail
  | .channelNotFound => "channel not found"
  | .invalidMove detail => "invalid channel move: " ++ detail
  | .failed detail => detail

@[simp] lemma isOk_ok {ε α : Type} (a : α) : (.ok a : Except ε α).isOk = true := rfl

@[simp] lemma isOk_error {ε α : Type} (e : ε) : (.error e : Except ε α).isOk = false := rfl

/-- The fields of an edit; `none` leaves a field unchanged.
Source: `ChannelUpdate` -/
structure ChannelUpdate where
  topic : Option String := none
  maxClients : Option Int := none
  opusBitrate : Option Int := none
  opusFEC : Option Bool := none
  opusDTX : Option Bool := none
  opusStereo : Option Bool := none
  slowModeSeconds : Option Int := none
  description : Option String := none
  neededJoinPower : Option Int := none
  orderIndex : Option Int := none
  parentID : Option Int := none
  inheritPermissions : Option Bool := none
  deriving DecidableEq, Repr

/-- The patch of the in-memory channel. -/
def ChannelUpdate.patch (upd : ChannelUpdate) : State.ChannelUpdate where
  parentID := upd.parentID
  topic := upd.topic
  orderIndex := upd.orderIndex
  maxClients := upd.maxClients
  neededJoinPower := upd.neededJoinPower
  opusBitrate := upd.opusBitrate
  opusFEC := upd.opusFEC
  opusDTX := upd.opusDTX
  opusStereo := upd.opusStereo
  slowModeSeconds := upd.slowModeSeconds
  description := upd.description
  inheritPermissions := upd.inheritPermissions

/-- The parent of each channel of the state; 0 at the top level. -/
def stateParents (m : Manager) : FMap Int Int := m.channels.mapVals fun _ ch => ch.parentID

lemma lookup_stateParents (m : Manager) (k : Int) :
    (stateParents m).lookup k = (m.channels.lookup k).map Channel.parentID :=
  FMap.lookup_mapVals _ _ _

lemma mem_stateParents {m : Manager} {k : Int} : k ∈ stateParents m ↔ k ∈ m.channels := by
  rw [← Finmap.lookup_isSome, ← Finmap.lookup_isSome, lookup_stateParents, Option.isSome_map]

/-- The walk of the cycle guard over the parent ids, from a prospective ancestor; `n` more parents
may be visited, and `first` marks the new parent itself. -/
def validateLoop (parents : FMap Int Int) (channelID newParentID : Int) :
    ℕ → Bool → Int → Except UpdateError Unit
  | n, first, current =>
    if current = channelID then
      .error (.invalidMove ("channel " ++ toString channelID ++ " is an ancestor of " ++
        toString newParentID))
    else match parents.lookup current with
      | none =>
        if first then
          .error (.invalidMove ("parent channel " ++ toString newParentID ++ " does not exist"))
        else .error (.failed "checking channel ancestry")
      | some parentID =>
        match n with
        | 0 => .error (.invalidMove ("parent ancestry exceeds maximum depth " ++
            toString Manager.maxChannelDepth))
        | n + 1 =>
          if parentID = 0 then .ok ()
          else validateLoop parents channelID newParentID n false parentID

/-- May the channel be put under the new parent, in the tree with these parent ids?
Source: `validateMoveTx` -/
def validateMoveTx (parents : FMap Int Int) (channelID newParentID : Int) :
    Except UpdateError Unit :=
  if channelID ∉ parents then .error .channelNotFound
  else if newParentID = 0 then .ok ()
  else validateLoop parents channelID newParentID Manager.maxChannelDepth true newParentID

/-- The cycle guard, where the edit names a parent. -/
def validateParent (parents : FMap Int Int) (channelID : Int) :
    Option Int → Except UpdateError Unit
  | none => .ok ()
  | some newParentID => validateMoveTx parents channelID newParentID

/-- The first value of an edit that is out of range. -/
def ChannelUpdate.invalid (upd : ChannelUpdate) : Option String :=
  if upd.opusBitrate.any (· < 0) then some "opus bitrate must be >= 0"
  else if upd.maxClients.any (· < 0) then some "max clients must be >= 0"
  else if upd.neededJoinPower.any (· < 0) then some "needed join power must be >= 0"
  else if upd.slowModeSeconds.any (· < 0) then some "slow mode must be >= 0"
  else none

/-- The write of an edit and its mirror; `stored` says whether the transaction goes through. -/
def storeUpdate (m : Manager) (stored : Bool) (channelID : Int) (upd : ChannelUpdate) :
    Except UpdateError Manager :=
  if !stored then .error (.failed "updating channel")
  else if channelID ∉ m.channels then .error .channelNotFound
  else .ok (m.updateChannel channelID upd.patch).1

/-- Apply an edit.
Source: `UpdateChannel` -/
def updateChannel (m : Manager) (stored : Bool) (channelID : Int) (upd : ChannelUpdate) :
    Except UpdateError Manager :=
  match upd.invalid with
  | some detail => .error (.invalidSpec detail)
  | none =>
    if upd = {} then .ok m
    else match validateParent (stateParents m) channelID upd.parentID with
      | .error e => .error e
      | .ok _ => storeUpdate m stored channelID upd

/-! ## What the guard guarantees -/

section guard

variable {m : Manager} {channelID newParentID current : Int} {n : ℕ} {first : Bool}

/-- One round of a walk that ends well. -/
lemma validateLoop_ok_iff {parents : FMap Int Int} :
    validateLoop parents channelID newParentID n first current = .ok () ↔
      current ≠ channelID ∧ ∃ p k, parents.lookup current = some p ∧ n = k + 1 ∧
        (p = 0 ∨ validateLoop parents channelID newParentID k false p = .ok ()) := by
  rw [validateLoop.eq_def]
  dsimp only
  by_cases hself : current = channelID
  · simp [hself]
  rw [if_neg hself]
  cases parents.lookup current with
  | none =>
    split_ifs <;> simp
  | some p =>
    cases n with
    | zero => simp
    | succ n =>
      dsimp only
      split_ifs with htop
      · simp [hself, htop]
      · simp [hself, htop]

/-- A walk that ends well never met the channel, and there is nothing above its end. -/
lemma not_inSubtree_of_validateLoop
    (h : validateLoop (stateParents m) channelID newParentID n first current = .ok ()) :
    ¬m.InSubtree current channelID := by
  induction n generalizing first current with
  | zero =>
    obtain ⟨-, p, k, -, hn, -⟩ := validateLoop_ok_iff.mp h
    cases hn
  | succ n ih =>
    obtain ⟨hne, p, k, hp, hn, hrest⟩ := validateLoop_ok_iff.mp h
    cases hn
    intro hsub
    -- the first link of a path from here is the parent the walk follows
    rcases Relation.ReflTransGen.cases_head hsub with heq | ⟨b, ⟨ch, hch, rfl, h0⟩, hpath⟩
    · exact hne heq
    · rw [lookup_stateParents, hch] at hp
      cases hp
      exact ih (hrest.resolve_left h0) hpath

/-- **The guard**: a channel is only put at the root, or under a live channel that is not below
it. -/
theorem not_inSubtree_of_validateMoveTx
    (h : validateMoveTx (stateParents m) channelID newParentID = .ok ()) :
    newParentID = 0 ∨ ¬m.InSubtree newParentID channelID := by
  unfold validateMoveTx at h
  split_ifs at h with hlive h0
  · exact .inl h0
  · exact .inr (not_inSubtree_of_validateLoop h)

variable {m' : Manager} {stored : Bool} {upd : ChannelUpdate}
  (h : updateChannel m stored channelID upd = .ok m')

include h

/-- An edit that went through was empty, or passed the guard and patched a live channel. -/
lemma updateChannel_ok :
    (upd = {} ∧ m' = m) ∨
      (validateParent (stateParents m) channelID upd.parentID = .ok () ∧ channelID ∈ m.channels ∧
        m' = (m.updateChannel channelID upd.patch).1) := by
  unfold updateChannel at h
  cases hinv : upd.invalid with
  | some detail => simp [hinv] at h
  | none =>
    simp only [hinv] at h
    split_ifs at h with hempty
    · cases h
      exact .inl ⟨hempty, rfl⟩
    cases hv : validateParent (stateParents m) channelID upd.parentID with
    | error e => simp [hv] at h
    | ok u =>
      simp only [hv] at h
      unfold storeUpdate at h
      split_ifs at h with hs hlive
      cases h
      exact .inr ⟨rfl, hlive, rfl⟩

/-- What an edit that went through did to the channels. -/
theorem lookup_updateChannel (id : Int) :
    m'.channels.lookup id =
      if id = channelID then (m.channels.lookup channelID).map upd.patch.apply
      else m.channels.lookup id := by
  rcases updateChannel_ok h with ⟨hempty, hsame⟩ | ⟨-, hlive, hpatch⟩
  · rw [hempty, hsame]
    split_ifs with hid
    · subst hid
      cases m.channels.lookup id <;> rfl
    · rfl
  · obtain ⟨ch, hch⟩ := Finmap.mem_iff.mp hlive
    rw [hpatch]
    simp only [Manager.updateChannel]
    split
    · rename_i hnone
      simp [hch] at hnone
    · rw [FMap.lookup_modify]

/-- What the guard says about an edit that went through. -/
lemma not_inSubtree_of_updateChannel {parent : Int} (hparent : upd.parentID = some parent)
    (h0 : parent ≠ 0) : ¬m.InSubtree parent channelID := by
  rcases updateChannel_ok h with ⟨hempty, -⟩ | ⟨hv, -⟩
  · rw [hempty] at hparent
    cases hparent
  · rw [hparent] at hv
    exact (not_inSubtree_of_validateMoveTx hv).resolve_left h0

end guard

end Voicx.Channels
