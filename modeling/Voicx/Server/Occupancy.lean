import Voicx.Server.Moves

/-!
# The occupancy limit of a channel

A channel stores `MaxClients`, "the maximum number of clients allowed in the channel", where 0 or
less means no limit. The limit is validated, edited, persisted and shown. `join_channel` and
`move_client` check rules, powers and the password and then share one move; neither of them nor the
move looks at the limit.

The checks of a request and its move are separate steps: between them other requests run.

* `Traffic`, `trafficStep` — the world with the requests that passed their checks and have yet to
  move somebody.
* `JoinWithinLimit` — the property of one step: the move of a `join_channel` that brings a new
  member leaves the channel within its limit.
* `JoinFindsRoom` — the condition: such a move finds fewer members than the limit.
* **`join_within_limit_iff`** — in every interleaving, no join fills a channel past its limit if and
  only if every join finds room.
-/

namespace Voicx.Server

open Found State Permissions

/-! ## Requests in flight -/

/-- A request that has passed its checks. -/
structure CheckedMove where
  clientID : String
  channelID : Int
  /-- sent as `join_channel`; otherwise as `move_client` -/
  byJoin : Bool
  deriving DecidableEq, Repr

/-- The world and the requests between their checks and their move. -/
structure Traffic where
  world : World
  pending : List CheckedMove

/-- A step of the server. -/
inductive TrafficOp
  /-- the checks of a `join_channel`; `loads` says whether the database answers -/
  | join (sender : String) (msg : JoinChannel) (loads : Bool)
  /-- the checks of a `move_client` -/
  | move (sender : String) (msg : MoveClient) (loads : Bool)
  /-- the move of the `i`-th request in flight -/
  | finish (i : ℕ)
  deriving DecidableEq, Repr

section step

variable (cfg : Config)

/-- A request passes `dispatch` and its own checks. -/
def passesChecks (w : World) (sender : String) (refusal : Session → Option ErrorReply) : Bool :=
  match w.sessions.lookup sender with
  | none => false
  | some s => (dispatchRefusal s).isNone && (refusal s).isNone

/-- The world after the move of a request; a move that fails changes nothing. -/
def World.afterMove (w : World) (p : CheckedMove) : World :=
  match w.moveClient p.clientID p.channelID with
  | .ok w' => w'
  | .error _ => w

/-- One step. -/
def trafficStep (t : Traffic) : TrafficOp → Traffic
  | .join sender msg loads =>
    if passesChecks t.world sender fun s => joinRefusal cfg t.world loads sender s msg then
      { t with pending := t.pending ++ [⟨sender, msg.channelID, true⟩] }
    else t
  | .move sender msg loads =>
    if passesChecks t.world sender fun s => moveRefusal cfg t.world loads sender s msg then
      { t with pending := t.pending ++ [⟨msg.clientID, msg.channelID, false⟩] }
    else t
  | .finish i =>
    match t.pending[i]? with
    | none => t
    | some p => { world := t.world.afterMove p, pending := t.pending.eraseIdx i }

end step

/-! ## The property and the condition -/

/-- The number of members of a channel. -/
def World.occupancy (w : World) (channelID : Int) : ℕ := (w.state.membership.elems channelID).card

/-- The move of a join that brings the channel a new member leaves it within its limit. -/
def JoinWithinLimit (t : Traffic) : TrafficOp → Prop
  | .finish i =>
    ∀ p ch, t.pending[i]? = some p → p.byJoin = true →
      t.world.state.channels.lookup p.channelID = some ch → 0 < ch.maxClients →
      ¬t.world.MemberOf p.clientID p.channelID →
      (t.world.afterMove p).MemberOf p.clientID p.channelID →
      ((t.world.afterMove p).occupancy p.channelID : Int) ≤ ch.maxClients
  | _ => True

/-- The move of a join that takes a live client from elsewhere into the channel finds fewer members
there than the limit. -/
def JoinFindsRoom (t : Traffic) : TrafficOp → Prop
  | .finish i =>
    ∀ p ch, t.pending[i]? = some p → p.byJoin = true →
      t.world.state.channels.lookup p.channelID = some ch → 0 < ch.maxClients →
      p.clientID ∈ t.world.state.clients → t.world.state.chanOf p.clientID ≠ some p.channelID →
      ¬t.world.MemberOf p.clientID p.channelID →
      (t.world.occupancy p.channelID : Int) < ch.maxClients
  | _ => True

section moves

variable {w : World} {p : CheckedMove}

/-- A client that a move makes a member was live and stood elsewhere. -/
lemma live_of_afterMove (hout : ¬w.MemberOf p.clientID p.channelID)
    (hin : (w.afterMove p).MemberOf p.clientID p.channelID) :
    p.clientID ∈ w.state.clients ∧ w.state.chanOf p.clientID ≠ some p.channelID := by
  unfold World.afterMove at hin
  cases hm : w.moveClient p.clientID p.channelID with
  | error e =>
    rw [hm] at hin
    exact absurd hin hout
  | ok w' =>
    rw [hm] at hin
    obtain ⟨c, hc, -, ⟨-, hsame⟩ | ⟨helse, -⟩⟩ := Manager.moveClient_spec (moveClient_ok hm).2.2
    · rw [World.MemberOf, hsame] at hin
      exact absurd hin hout
    · refine ⟨Finmap.mem_of_lookup_eq_some hc, fun hstands => ?_⟩
      obtain ⟨c', hc', hch⟩ := Manager.chanOf_eq_some.mp hstands
      rw [hc] at hc'
      cases hc'
      exact helse hch

/-- A live client from elsewhere is a member after its move, and the only one that is new. -/
lemma occupancy_afterMove (hlive : p.clientID ∈ w.state.clients)
    (hch : p.channelID ∈ w.state.channels) (helse : w.state.chanOf p.clientID ≠ some p.channelID)
    (hout : ¬w.MemberOf p.clientID p.channelID) :
    (w.afterMove p).MemberOf p.clientID p.channelID ∧
      (w.afterMove p).occupancy p.channelID = w.occupancy p.channelID + 1 := by
  obtain ⟨w', hm, hin⟩ := exists_moveClient hlive hch helse
  have hafter : w.afterMove p = w' := by simp [World.afterMove, hm]
  rw [hafter]
  refine ⟨hin, ?_⟩
  have hset : w'.state.membership.elems p.channelID =
      insert p.clientID (w.state.membership.elems p.channelID) := by
    obtain ⟨c, -, -, ⟨-, hsame⟩ | ⟨hne, hmem, -⟩⟩ := Manager.moveClient_spec (moveClient_ok hm).2.2
    · rw [World.MemberOf, hsame] at hin
      exact absurd hin hout
    ext id
    rw [hmem, Finset.mem_insert]
    constructor
    · rintro (⟨-, rfl⟩ | ⟨hid, -⟩)
      · exact .inl rfl
      · exact .inr hid
    · rintro (rfl | hid)
      · exact .inl ⟨rfl, rfl⟩
      · exact .inr ⟨hid, fun h => hne h.2.1.symm⟩
  rw [World.occupancy, hset, Finset.card_insert_of_notMem hout, World.occupancy]

end moves

/-- One step fills no channel past its limit exactly when it finds room. -/
lemma joinWithinLimit_iff (t : Traffic) (op : TrafficOp) :
    JoinWithinLimit t op ↔ JoinFindsRoom t op := by
  cases op with
  | join sender msg loads | move sender msg loads => exact Iff.rfl
  | finish i =>
    constructor
    · intro h p ch hp hjoin hch hpos hlive helse hout
      have hmem : p.channelID ∈ t.world.state.channels := Finmap.mem_of_lookup_eq_some hch
      obtain ⟨hin, hcount⟩ := occupancy_afterMove hlive hmem helse hout
      have hle := h p ch hp hjoin hch hpos hout hin
      omega
    · intro h p ch hp hjoin hch hpos hout hin
      have hmem : p.channelID ∈ t.world.state.channels := Finmap.mem_of_lookup_eq_some hch
      obtain ⟨hlive, helse⟩ := live_of_afterMove hout hin
      have hroom := h p ch hp hjoin hch hpos hlive helse hout
      rw [(occupancy_afterMove hlive hmem helse hout).2]
      omega

/-- **The occupancy limit.** In every interleaving of `join_channel` and `move_client` requests, no
join fills a channel past its limit if and only if every join that enters finds room. -/
theorem join_within_limit_iff (cfg : Config) (t : Traffic) (ops : List TrafficOp) :
    StepsOK (trafficStep cfg) JoinWithinLimit t ops ↔
      StepsOK (trafficStep cfg) JoinFindsRoom t ops := by
  have hstep : JoinWithinLimit = JoinFindsRoom := by
    funext t op
    exact propext (joinWithinLimit_iff t op)
  rw [hstep]

/-! ### Two clients and one place -/

/-- Channel 1 for one client, and two guests in the lobby. -/
def onePlace : Traffic where
  world :=
    { state := ((Manager.new.addChannel { channelID := 1, maxClients := 1 }).addClient
        { clientID := "a" }).addClient { clientID := "b" }
      sessions := ((∅ : FMap String Session).insert "a" { authed := true }).insert "b"
        { authed := true }
      db := PermDB.empty }
  pending := []

/-- The guests join one after the other. -/
def bothJoin : List TrafficOp :=
  [.join "a" { channelID := 1 } true, .finish 0, .join "b" { channelID := 1 } true, .finish 0]

/-- A channel for one client holds two after both have joined it. -/
theorem one_place_holds_two :
    let cfg : Config := { verifyPassword := fun _ _ => false }
    let t := run (trafficStep cfg) onePlace bothJoin
    (t.world.state.channels.lookup 1).map Channel.maxClients = some 1 ∧
      t.world.occupancy 1 = 2 ∧
      ¬StepsOK (trafficStep cfg) JoinWithinLimit onePlace bothJoin := by
  refine ⟨by decide, by decide, fun h => ?_⟩
  have hlast := h.2.2.2.1 ⟨"b", 1, true⟩ { channelID := 1, maxClients := 1, clientCount := 1 }
    (by decide) rfl (by decide) (by decide) (by decide) (by decide)
  exact absurd hlast (by decide)

end Voicx.Server
