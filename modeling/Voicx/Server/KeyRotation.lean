import Voicx.Server.ChatKeys
import Voicx.Server.Moves

/-!
# Ex-members and the channel key

A client that leaves a channel holds its key. The server answers a departure with a rotation of the
channel's scope (`chat_key_rotate_min_seconds` 0: at once). Departures and rotations are steps of
their own, so that anything may happen between the two.

* `performKick` — model of the kick (`internal/server/admin.go`); a kick from the server closes the
  connection and leaves the rest to `onDisconnect`.
* `RotationState`, `RotationStep`, `rotationStep` — moves, kicks, disconnects, rotations, first
  mints. `left` records, from the membership sets alone, when a client left a channel it did not
  return to.
* `ExMembersOut` — the property: for every departure, a rotation of the channel is still to be
  carried out, or the generation messages are sealed under was minted after it.
* `KickCovered` — the condition: a channel kick that takes somebody out of a channel happens while
  the rotation of another departure from it is still to be carried out.
* `ex_members_out_iff` — the property holds throughout a run exactly when every step meets the
  condition.
* `departures_sealed_of_settled` — wherever in such a run no rotation is outstanding, every channel
  is sealed under a generation minted after each departure from it.
-/

namespace Voicx.Server

open Found State Permissions Manager KeyLedger

/-! ## The machine -/

/-- Source: `internal/server/admin.go`, `performKick`
Fidelity: without the events it sends and the voice router -/
def performKick (w : World) (targetID : String) (fromServer : Bool) : Except String World :=
  match w.sessions.lookup targetID with
  | none => .error "target client not found"
  | some target =>
    if !target.authed then .error "target client not found"
    else match w.state.getClient targetID with
      | none => .error "target client state not found"
      | some _ =>
        if fromServer then .ok w
        else match w.state.leaveChannel targetID with
          | .error e => .error e.text
          | .ok m => .ok { w with state := m }

structure RotationState where
  world : World
  keys : ChatKeyManager
  clock : Nat
  /-- the channels whose rotation a departure asked for and that was not carried out yet -/
  rotations : List Int
  /-- when a client left a channel it did not return to -/
  left : String → Int → Option Nat

inductive RotationStep
  /-- the end of `join_channel`, `move_client` and the ServerQuery's move -/
  | move (clientID : String) (channelID : Int)
  | channelKick (targetID : String)
  /-- the connection is closed; its `disconnect` follows -/
  | serverKick (targetID : String)
  | disconnect (clientID : String)
  /-- carry out the rotation at this position -/
  | rotate (n : Nat)
  /-- a key is delivered or a message is sent: a scope without generation gets its first -/
  | ensure (scope : Int)
  /-- anything else, by the world it leaves -/
  | other (w' : World)

/-- The record of departures after a change of the membership sets. A channel that goes away with
its members is not a channel anybody left. -/
def logDepartures (now : Nat) (w w' : World) (left : String → Int → Option Nat) (clientID : String)
    (channelID : Int) : Option Nat :=
  if w'.MemberOf clientID channelID then none
  else if w.MemberOf clientID channelID ∧ channelID ∈ w'.state.channels then some now
  else left clientID channelID

namespace RotationState

variable (s : RotationState)

/-- Time passes. -/
def tick : RotationState := { s with clock := s.clock + 1 }

/-- The world changes, and rotations are asked for. -/
def goTo (w' : World) (rotations : List Int) : RotationState :=
  { s with
    world := w'
    clock := s.clock + 1
    rotations := rotations ++ s.rotations
    left := logDepartures s.clock s.world w' s.left }

/-- The channel a client stands in, 0 for none. -/
def channelOf (clientID : String) : Int :=
  (s.world.state.chanOf clientID).getD 0

/-- What `rotateScopeKey` does with a channel: the global scope is not rotated. -/
def asksFor (channelID : Int) : List Int := if channelID = 0 then [] else [channelID]

end RotationState

open RotationState

variable (s : RotationState)

/-- One step of the machine. -/
def rotationStep : RotationStep → RotationState
  | .move clientID channelID =>
    match s.world.moveClient clientID channelID with
    | .error _ => s.tick
    | .ok w' =>
      s.goTo w' (if s.channelOf clientID = channelID then []
        else RotationState.asksFor (s.channelOf clientID))
  | .channelKick targetID =>
    match performKick s.world targetID false with
    | .error _ => s.tick
    | .ok w' => s.goTo w' []
  | .serverKick targetID =>
    match performKick s.world targetID true with
    | .error _ => s.tick
    | .ok w' => s.goTo w' []
  | .disconnect clientID =>
    s.goTo { s.world with
        state := (s.world.state.removeClient clientID).1
        sessions := s.world.sessions.erase clientID }
      (RotationState.asksFor (s.channelOf clientID))
  | .rotate n =>
    match s.rotations[n]? with
    | none => s.tick
    | some channelID =>
      { s.tick with
        keys := (s.keys.rotate s.clock channelID).2
        rotations := s.rotations.eraseIdx n }
  | .ensure scope => { s.tick with keys := (s.keys.ensureScope s.clock scope).2 }
  | .other w' => s.goTo w' []

/-! ## The property and the condition -/

/-- The generation messages of a scope are sealed under was minted after this moment. -/
def SealedAfter (scope : Int) (t : Nat) : Prop :=
  ∃ gen born, (s.keys.current scope).1 = some gen ∧ s.keys.ledger.born scope gen = some born ∧
    t < born

/-- For every departure, its rotation is still to be carried out, or it has been. -/
def ExMembersOut : Prop :=
  ∀ clientID channelID t, s.left clientID channelID = some t →
    channelID ∈ s.rotations ∨ SealedAfter s channelID t

/-- A kick would take the client out of this channel. -/
structure Kicked (w : World) (clientID : String) (channelID : Int) : Prop where
  authed : ∃ target, w.sessions.lookup clientID = some target ∧ target.authed = true
  stands : w.state.chanOf clientID = some channelID
  nonzero : channelID ≠ 0
  member : w.MemberOf clientID channelID
  live : channelID ∈ w.state.channels

/-- A channel kick that takes somebody out of a channel happens while a rotation of the channel is
still to be carried out. -/
def KickCovered : RotationStep → Prop
  | .channelKick targetID =>
    ∀ channelID, Kicked s.world targetID channelID → channelID ∈ s.rotations
  | _ => True

/-- Steps other than those listed take nobody out of a channel that stays. -/
def RotationDomain : RotationStep → Prop
  | .other w' =>
    ∀ clientID channelID, s.world.MemberOf clientID channelID →
      channelID ∈ w'.state.channels → w'.MemberOf clientID channelID
  | _ => True

/-! ## The invariant -/

/-- Clock and manager are sound: what is recorded is in the past. -/
structure ClockOK (s : RotationState) : Prop where
  keys : KeysOK s.keys
  left : ∀ clientID channelID t, s.left clientID channelID = some t → t < s.clock
  born : ∀ scope gen t, s.keys.ledger.born scope gen = some t → t < s.clock

structure RotationInv (s : RotationState) : Prop where
  clockOK : ClockOK s
  out : ExMembersOut s

section steps

variable {s : RotationState} {scope : Int} {t : Nat} {rotations : List Int} {keys : ChatKeyManager}
  {i : RotationStep}

lemma sealedAfter_iff (hkeys : KeysOK s.keys) :
    SealedAfter s scope t ↔
      ∃ gen born, s.keys.ledger.live scope = some gen ∧ s.keys.ledger.born scope gen = some born ∧
        t < born := by
  unfold SealedAfter
  rw [(hkeys.current scope).2.1]

variable {w w' : World} {clientID targetID : String} {channelID : Int}

/-- What is recorded of a departure: it was recorded before, or it is one of this step. -/
lemma logDepartures_eq_some {now : Nat} {left : String → Int → Option Nat}
    (h : logDepartures now w w' left clientID channelID = some t) :
    left clientID channelID = some t ∨
      (t = now ∧ w.MemberOf clientID channelID ∧ ¬w'.MemberOf clientID channelID ∧
        channelID ∈ w'.state.channels) := by
  unfold logDepartures at h
  split_ifs at h with hin hgone
  · exact .inr ⟨(Option.some.inj h).symm, hgone.1, hin, hgone.2⟩
  · exact .inl h

lemma ClockOK.tick (h : ClockOK s) : ClockOK s.tick where
  keys := h.keys
  left clientID channelID t ht := Nat.lt_succ_of_lt (h.left clientID channelID t ht)
  born scope gen t ht := Nat.lt_succ_of_lt (h.born scope gen t ht)

lemma RotationInv.tick (h : RotationInv s) : RotationInv s.tick := ⟨h.clockOK.tick, h.out⟩

/-- A change of the world keeps the invariant if a rotation is asked for, or under way, for every
channel somebody left. -/
lemma RotationInv.goTo (h : RotationInv s)
    (hleft : ∀ clientID channelID, s.world.MemberOf clientID channelID →
      ¬w'.MemberOf clientID channelID → channelID ∈ w'.state.channels →
      channelID ∈ rotations ++ s.rotations) : RotationInv (s.goTo w' rotations) := by
  refine ⟨⟨h.clockOK.keys, fun clientID channelID t ht => ?_, fun scope gen t ht => ?_⟩,
    fun clientID channelID t ht => ?_⟩
  · rcases logDepartures_eq_some ht with hold | ⟨rfl, -⟩
    · exact Nat.lt_succ_of_lt (h.clockOK.left clientID channelID t hold)
    · exact Nat.lt_succ_self _
  · exact Nat.lt_succ_of_lt (h.clockOK.born scope gen t ht)
  · rcases logDepartures_eq_some ht with hold | ⟨-, hwas, hgone, hlive⟩
    · exact (h.out clientID channelID t hold).imp_left (List.mem_append_right _)
    · exact .inl (hleft clientID channelID hwas hgone hlive)

/-- A mint puts the scope past every departure so far. -/
lemma RotationInv.mint (h : RotationInv s) {id : Nat} (hkeys : KeysOK keys)
    (hledger : keys.ledger = s.keys.ledger.mint s.clock scope id)
    (hrotations : ∀ channelID ∈ s.rotations, channelID = scope ∨ channelID ∈ rotations) :
    RotationInv { s.tick with keys := keys, rotations := rotations } := by
  refine ⟨⟨hkeys, h.clockOK.tick.left, fun sc gen t ht => ?_⟩, fun clientID channelID t ht => ?_⟩
  · exact born_mint_lt h.clockOK.born (hledger ▸ ht)
  by_cases hsc : channelID = scope
  · refine .inr ((sealedAfter_iff hkeys).mpr ⟨id, s.clock, ?_, ?_, ?_⟩)
    · simp [hledger, live_mint, hsc]
    · simp [hledger, born_mint, hsc]
    · exact h.clockOK.left clientID channelID t ht
  · rcases h.out clientID channelID t ht with hpending | hsealed
    · exact .inl ((hrotations channelID hpending).resolve_left hsc)
    · obtain ⟨gen, born, hlive, hborn, hlt⟩ := (sealedAfter_iff h.clockOK.keys).mp hsealed
      refine .inr ((sealedAfter_iff hkeys).mpr ⟨gen, born, ?_, ?_, hlt⟩)
      · simpa [hledger, live_mint, hsc] using hlive
      · simpa [hledger, born_mint, hsc] using hborn

/-- An operation of the manager that mints nothing. -/
lemma RotationInv.sameLedger (h : RotationInv s) (hkeys : KeysOK keys)
    (hledger : keys.ledger = s.keys.ledger) : RotationInv { s.tick with keys := keys } := by
  refine ⟨⟨hkeys, h.clockOK.tick.left, fun sc gen t ht => ?_⟩, fun clientID channelID t ht => ?_⟩
  · exact Nat.lt_succ_of_lt (h.clockOK.born sc gen t (hledger ▸ ht))
  · refine (h.out clientID channelID t ht).imp_right fun hsealed => ?_
    obtain ⟨gen, born, hlive, hborn, hlt⟩ := (sealedAfter_iff h.clockOK.keys).mp hsealed
    exact (sealedAfter_iff hkeys).mpr ⟨gen, born, hledger ▸ hlive, hledger ▸ hborn, hlt⟩

lemma RotationState.channelOf_of_lookup {c : State.Client}
    (hc : s.world.state.clients.lookup clientID = some c) : s.channelOf clientID = c.channelID := by
  simp [channelOf, chanOf, hc]

/-- A move asks for the rotation of the channel it takes the client out of. -/
lemma mem_asksFor_of_move {target : Int} (h : s.world.moveClient clientID target = .ok w')
    {id : String} (hwas : s.world.MemberOf id channelID) (hgone : ¬w'.MemberOf id channelID) :
    channelID ∈ if s.channelOf clientID = target then [] else asksFor (s.channelOf clientID) := by
  obtain ⟨c, hc, -, ⟨-, hsame⟩ | ⟨helse, hmem, -⟩⟩ := moveClient_spec (moveClient_ok h).2.2
  · exact absurd (by rwa [World.MemberOf, hsame]) hgone
  · have hof := channelOf_of_lookup hc
    have hleft : c.channelID ≠ 0 ∧ channelID = c.channelID ∧ id = clientID := by
      by_contra hstays
      exact hgone ((hmem id channelID).mpr (.inr ⟨hwas, hstays⟩))
    simp [hof, helse, asksFor, hleft]

/-- A disconnect asks for the rotation of the channel it takes the client out of. -/
lemma mem_asksFor_of_disconnect {id : String} (hwas : s.world.MemberOf id channelID)
    (hgone : id ∉ (s.world.state.removeClient clientID).1.membership.elems channelID) :
    channelID ∈ asksFor (s.channelOf clientID) := by
  cases hc : s.world.state.clients.lookup clientID with
  | none =>
    simp only [removeClient, hc] at hgone
    exact absurd hwas hgone
  | some c =>
    have hof := channelOf_of_lookup hc
    have hleft : c.channelID ≠ 0 ∧ channelID = c.channelID ∧ id = clientID := by
      by_contra hstays
      exact hgone (((removeClient_spec hc).2.1 id channelID).mpr ⟨hwas, hstays⟩)
    simp [hof, asksFor, hleft]

/-- What a kick that is accepted does: from the server, it leaves the world to the disconnect that
follows. -/
lemma performKick_ok {fromServer : Bool} (h : performKick w targetID fromServer = .ok w') :
    (∃ target, w.sessions.lookup targetID = some target ∧ target.authed = true) ∧
      (fromServer = true → w' = w) ∧
      (fromServer = false → w.state.leaveChannel targetID = .ok w'.state) := by
  unfold performKick at h
  cases htarget : w.sessions.lookup targetID with
  | none => simp [htarget] at h
  | some target =>
    cases hauthed : target.authed with
    | false => simp [htarget, hauthed] at h
    | true =>
      cases hc : w.state.getClient targetID with
      | none => simp [htarget, hauthed, hc] at h
      | some c =>
        refine ⟨⟨target, rfl, hauthed⟩, fun hserver => ?_, fun hserver => ?_⟩
        · simp_all
        cases hm : w.state.leaveChannel targetID with
        | error e => simp [htarget, hauthed, hc, hm, hserver] at h
        | ok m =>
          have hw' : { w with state := m } = w' := by
            simpa [htarget, hauthed, hc, hm, hserver] using h
          subst hw'
          rfl

/-- Whom a channel kick takes out of a channel that stays. -/
lemma kicked_of_performKick {id : String} (h : performKick w targetID false = .ok w')
    (hwas : w.MemberOf id channelID) (hgone : ¬w'.MemberOf id channelID)
    (hlive : channelID ∈ w'.state.channels) : id = targetID ∧ Kicked w targetID channelID := by
  obtain ⟨hauthed, -, hleave⟩ := performKick_ok h
  obtain ⟨c, hc, hzero, hmem, -, hchannels⟩ := leaveChannel_spec (hleave rfl)
  have hleft : channelID = c.channelID ∧ id = targetID := by
    by_contra hstays
    exact hgone ((hmem id channelID).mpr ⟨hwas, hstays⟩)
  obtain ⟨rfl, rfl⟩ := hleft
  exact ⟨rfl, hauthed, chanOf_of_lookup hc, hzero, hwas,
    (hchannels _).mp hlive⟩

/-- A client that can be kicked out of a channel is. -/
theorem Kicked.performKick (h : Kicked w targetID channelID) :
    ∃ w', Server.performKick w targetID false = .ok w' ∧ ¬w'.MemberOf targetID channelID ∧
      channelID ∈ w'.state.channels := by
  obtain ⟨target, htarget, hauthed⟩ := h.authed
  obtain ⟨c, hc, hch⟩ := chanOf_eq_some.mp h.stands
  obtain ⟨m, hm⟩ : ∃ m, w.state.leaveChannel targetID = .ok m := by
    simp [leaveChannel, hc, hch, h.nonzero]
  obtain ⟨c', hc', -, hmem, -, hchannels⟩ := leaveChannel_spec hm
  rw [hc] at hc'
  cases hc'
  refine ⟨{ w with state := m }, ?_, fun hin => ?_, (hchannels channelID).mpr h.live⟩
  · simp [Server.performKick, htarget, hauthed, getClient, hc, hm]
  · exact ((hmem targetID channelID).mp hin).2 ⟨hch.symm, rfl⟩

/-- Every step that meets the condition keeps the invariant. -/
theorem RotationInv.step (h : RotationInv s) (hdom : RotationDomain s i) (hok : KickCovered s i) :
    RotationInv (rotationStep s i) := by
  cases i with
  | move clientID channelID =>
    cases hm : s.world.moveClient clientID channelID with
    | error e => simpa only [rotationStep, hm] using h.tick
    | ok w' =>
      simp only [rotationStep, hm]
      apply h.goTo
      intro id channelID hwas hgone _
      exact List.mem_append_left _ (mem_asksFor_of_move hm hwas hgone)
  | channelKick targetID =>
    cases hk : performKick s.world targetID false with
    | error e => simpa only [rotationStep, hk] using h.tick
    | ok w' =>
      simp only [rotationStep, hk]
      apply h.goTo
      intro id channelID hwas hgone hlive
      obtain ⟨-, hkicked⟩ := kicked_of_performKick hk hwas hgone hlive
      exact hok channelID hkicked
  | serverKick targetID =>
    cases hk : performKick s.world targetID true with
    | error e => simpa only [rotationStep, hk] using h.tick
    | ok w' =>
      simp only [rotationStep, hk, (performKick_ok hk).2.1 rfl]
      apply h.goTo
      intro id channelID hwas hgone _
      exact absurd hwas hgone
  | disconnect clientID =>
    apply h.goTo
    intro id channelID hwas hgone _
    exact List.mem_append_left _ (mem_asksFor_of_disconnect hwas hgone)
  | rotate n =>
    cases hn : s.rotations[n]? with
    | none => simpa only [rotationStep, hn] using h.tick
    | some channelID =>
      simp only [rotationStep, hn]
      obtain ⟨hkeys, -, hledger⟩ := h.clockOK.keys.rotate s.clock channelID
      refine h.mint hkeys hledger fun ch hch => ?_
      obtain ⟨hlt, hget⟩ := List.getElem?_eq_some_iff.mp hn
      have hperm := List.getElem_cons_eraseIdx_perm hlt
      rw [hget] at hperm
      exact List.mem_cons.mp (hperm.mem_iff.mpr hch)
  | ensure scope =>
    obtain ⟨hkeys, ⟨hlive, hledger⟩ | ⟨-, -, hledger⟩⟩ := h.clockOK.keys.ensureScope s.clock scope
    · exact h.sameLedger hkeys hledger
    · exact h.mint hkeys hledger fun ch hch => .inr hch
  | other w' =>
    apply h.goTo
    intro id channelID hwas hgone hlive
    exact absurd (hdom id channelID hwas hlive) hgone

/-- A kick that does not meet the condition leaves the channel under a generation its ex-member
holds. -/
lemma not_exMembersOut_of_not_covered (h : ClockOK s) (hnot : ¬KickCovered s i) :
    ¬ExMembersOut (rotationStep s i) := by
  cases i with
  | channelKick targetID =>
    simp only [KickCovered, not_forall] at hnot
    obtain ⟨channelID, hkicked, hnone⟩ := hnot
    obtain ⟨w', hk, hgone, hlive⟩ := hkicked.performKick
    have hstep : rotationStep s (.channelKick targetID) = s.goTo w' [] := by
      simp [rotationStep, hk]
    rw [hstep]
    intro hout
    have hlog : (s.goTo w' []).left targetID channelID = some s.clock := by
      simp [goTo, logDepartures, hgone, hkicked.member, hlive]
    rcases hout targetID channelID s.clock hlog with hpending | hsealed
    · exact hnone hpending
    · -- nothing is minted in the future
      obtain ⟨gen, born, -, hborn, hlt⟩ := hsealed
      exact absurd (h.born channelID gen born hborn) (Nat.not_lt.mpr hlt.le)
  | _ => exact absurd trivial hnot

end steps

/-! ## Whole runs -/

/-- A state to start from: sound keys, and no departure on record yet. -/
structure RotationStart (s : RotationState) : Prop where
  keys : KeysOK s.keys
  born : ∀ scope gen t, s.keys.ledger.born scope gen = some t → t < s.clock
  left : ∀ clientID channelID, s.left clientID channelID = none

lemma RotationStart.inv {s : RotationState} (h : RotationStart s) : RotationInv s where
  clockOK :=
    { keys := h.keys
      left := fun clientID channelID t ht => by simp [h.left] at ht
      born := h.born }
  out clientID channelID t ht := by simp [h.left] at ht

/-- **Ex-members lose the channel key exactly as long as nobody is kicked out of a channel.** From
any state, over every interleaving of moves, kicks, disconnects, rotations, deliveries and whatever
else takes nobody out of a channel: after every departure the channel's rotation is still to be
carried out, or the generation its messages are sealed under was minted after the departure, at
every point of the run, if and only if every channel kick that takes somebody out of a channel
happens while the rotation of another departure from the channel is still to be carried out. -/
theorem ex_members_out_iff (s : RotationState) (hstart : RotationStart s) (is : List RotationStep)
    (hdom : StepsOK rotationStep RotationDomain s is) :
    Throughout rotationStep ExMembersOut s is ↔ StepsOK rotationStep KickCovered s is := by
  apply throughout_iff_stepsOK _ _ _ hstart.inv hdom
  · intro s h
    exact h.out
  · intro s i h hdom hok
    exact h.step hdom hok
  · intro s i h _ hnot
    exact not_exMembersOut_of_not_covered h.clockOK hnot

/-- Once the rotations are carried out, no ex-member can read on: in a run whose kicks all meet the
condition, at every point without an outstanding rotation, the generation a channel's messages are
sealed under was minted after every departure from the channel. -/
theorem departures_sealed_of_settled (s : RotationState) (hstart : RotationStart s)
    (is : List RotationStep) (hdom : StepsOK rotationStep RotationDomain s is)
    (hok : StepsOK rotationStep KickCovered s is) :
    Throughout rotationStep (fun s => s.rotations = [] → ∀ clientID channelID t,
      s.left clientID channelID = some t → SealedAfter s channelID t) s is := by
  have hinv : Throughout rotationStep RotationInv s is :=
    throughout_of_stepsOK (fun s i h hi => h.step hi.1 hi.2) hstart.inv (hdom.and hok)
  refine hinv.mono fun s h hsettled clientID channelID t hleft => ?_
  exact (h.out clientID channelID t hleft).resolve_left (hsettled ▸ List.not_mem_nil)

/-- Alice and Bob in channel 1, whose first generation is live. -/
def twoMembers : RotationState where
  world :=
    { state := run Manager.step Manager.new
        [.addChannel { channelID := 1 }, .addChannel { channelID := 2 },
          .addClient { clientID := "alice" }, .addClient { clientID := "bob" },
          .joinChannel "alice" 1, .joinChannel "bob" 1]
      sessions := ((∅ : FMap String Session).insert "alice" { authed := true }).insert "bob"
        { authed := true }
      db := PermDB.empty }
  keys := ((ChatKeyManager.fresh KeyStore.empty).ensureScope 0 1).2
  clock := 1
  rotations := []
  left := fun _ _ => none

lemma twoMembers_start : RotationStart twoMembers := by
  have hnone : ∀ scope gen, (ChatKeyManager.fresh KeyStore.empty).ledger.born scope gen = none :=
    fun _ _ => rfl
  obtain ⟨hkeys, ⟨-, hledger⟩ | ⟨-, -, hledger⟩⟩ := keysOK_fresh.ensureScope 0 1
  · refine ⟨hkeys, fun scope gen t ht => ?_, fun _ _ => rfl⟩
    rw [twoMembers, hledger] at ht
    cases ht
  · refine ⟨hkeys, fun scope gen t ht => ?_, fun _ _ => rfl⟩
    rw [twoMembers, hledger, born_mint, hnone] at ht
    split_ifs at ht
    exact Option.some.inj ht ▸ Nat.zero_lt_one

/-- Bob moves on, the channel's key is rotated, and Alice disconnects. -/
theorem ex_members_out_iff_move :
    Throughout rotationStep ExMembersOut twoMembers [.move "bob" 2, .rotate 0, .disconnect "alice"] :=
  (ex_members_out_iff twoMembers twoMembers_start [.move "bob" 2, .rotate 0, .disconnect "alice"]
    ⟨trivial, trivial, trivial, trivial⟩).mpr ⟨trivial, trivial, trivial, trivial⟩

/-- **A kicked client keeps the channel key.** Bob is kicked out of channel 1; no rotation is asked
for, and what is sealed afterwards is sealed under the generation from before. -/
theorem kicked_client_keeps_key :
    RotationStart twoMembers ∧ twoMembers.world.MemberOf "bob" 1 ∧
      ¬(rotationStep twoMembers (.channelKick "bob")).world.MemberOf "bob" 1 ∧
      (rotationStep twoMembers (.channelKick "bob")).rotations = [] ∧
      ((rotationStep twoMembers (.channelKick "bob")).keys.current 1).1 =
        (twoMembers.keys.current 1).1 ∧
      ¬Throughout rotationStep ExMembersOut twoMembers [.channelKick "bob"] := by
  refine ⟨twoMembers_start, by decide, by decide, by decide, by decide, fun h => ?_⟩
  have hout : ExMembersOut (rotationStep twoMembers (.channelKick "bob")) := h.final
  have hkicked : Kicked twoMembers.world "bob" 1 :=
    { authed := ⟨{ authed := true }, by decide, rfl⟩
      stands := by decide
      nonzero := by decide
      member := by decide
      live := by decide }
  refine not_exMembersOut_of_not_covered twoMembers_start.inv.clockOK (fun hcovered => ?_) hout
  exact absurd (hcovered 1 hkicked) (by decide)

end Voicx.Server
