import Mathlib.Tactic

/-!
# The outbound queue of a client

`internal/broadcast/broadcaster.go` keeps a bounded channel for every registered client. A send does
not wait: it is refused when the client has no channel or its channel is full. The client's writer,
`broadcastWriter` of `internal/server/handlers.go`, takes one payload after another out of the
channel and writes it to the connection; the first write that fails ends it, and what is still in
the channel is never written.

* `ClientQueue` — the channel, what the writer holds, and what it has written.
* `ClientQueue.broadcastToClient`, `register`, `unregister`, `take`, `write` — what happens to it.
* `ClientQueue.contents` — everything that was ever sent through the queue, in order: what was
  written, and what is waiting.

Source names without a file are from `internal/broadcast/broadcaster.go`.
-/

namespace Voicx.Broadcast

variable {α : Type*}

/-- Source: `clientBufferSize` -/
def clientBufferSize : ℕ := 16

/-- Why a payload is refused.
Source: `ErrNotRegistered`, `ErrChannelFull`

Fidelity: `ErrClosed`, of a broadcaster that is shutting down, is not told apart from the former. -/
inductive SendError
  | notRegistered
  | channelFull
  deriving DecidableEq, Repr

/-- A client's channel and its writer.
Source: `clientQueue`; `internal/server/handlers.go`,
`broadcastWriter` -/
structure ClientQueue (α : Type*) where
  /-- sends find the channel -/
  registered : Bool := false
  /-- the writer is running -/
  writing : Bool := false
  buffer : List α := []
  /-- what the writer has taken out of the channel and not written -/
  hand : Option α := none
  /-- what was written to the connection; no step reads it -/
  written : List α := []
  deriving DecidableEq, Repr

namespace ClientQueue

variable (q : ClientQueue α)

/-- Source: `BroadcastToClient`, `trySend` -/
def broadcastToClient (payload : α) : Except SendError (ClientQueue α) :=
  if !q.registered then .error .notRegistered
  else if q.buffer.length = clientBufferSize then .error .channelFull
  else .ok { q with buffer := q.buffer ++ [payload] }

/-- Source: `Register` -/
def register : ClientQueue α := { q with registered := true, writing := true }

/-- Source: `Unregister` -/
def unregister : ClientQueue α := { q with registered := false }

/-- The writer takes the next payload. -/
def take : ClientQueue α :=
  match q.writing, q.hand, q.buffer with
  | true, none, payload :: rest => { q with hand := some payload, buffer := rest }
  | _, _, _ => q

/-- The writer writes what it holds, or fails and ends. -/
def write (ok : Bool) : ClientQueue α :=
  match q.writing, q.hand with
  | true, some payload =>
    if ok then { q with hand := none, written := q.written ++ [payload] }
    else { q with writing := false }
  | _, _ => q

/-- What has not been written. -/
def waiting : List α := q.hand.toList ++ q.buffer

/-- What was sent, in order. -/
def contents : List α := q.written ++ q.waiting

section lemmas

variable {q q' : ClientQueue α} {payload : α}

lemma broadcastToClient_eq_ok (h : q.broadcastToClient payload = .ok q') :
    q' = { q with buffer := q.buffer ++ [payload] } := by
  unfold broadcastToClient at h
  split_ifs at h
  cases h
  rfl

/-- A payload is taken only where there is room. -/
lemma room_of_broadcastToClient (h : q.broadcastToClient payload = .ok q') :
    q.registered = true ∧ q.buffer.length ≠ clientBufferSize := by
  unfold broadcastToClient at h
  split_ifs at h with hregistered hfull
  exact ⟨by simpa using hregistered, hfull⟩

variable (q)

@[simp]
lemma contents_append (payload : α) :
    { q with buffer := q.buffer ++ [payload] }.contents = q.contents ++ [payload] := by
  simp [contents, waiting]

@[simp]
lemma contents_register : q.register.contents = q.contents := rfl

@[simp]
lemma written_register : q.register.written = q.written := rfl

/-- Taking a payload moves it from the channel into the hand. -/
lemma waiting_take : q.take.waiting = q.waiting := by
  unfold take
  split
  · rename_i hhand hbuffer
    simp [waiting, hhand, hbuffer]
  · rfl

@[simp]
lemma written_take : q.take.written = q.written := by
  unfold take
  split <;> rfl

@[simp]
lemma writing_take : q.take.writing = q.writing := by
  unfold take
  split <;> rfl

@[simp]
lemma contents_take : q.take.contents = q.contents := by
  rw [contents, contents, waiting_take, written_take]

/-- A write moves what the writer holds to what is written, or leaves both. -/
lemma write_cases (ok : Bool) :
    (∃ payload, ok = true ∧ q.waiting = payload :: q.buffer ∧
      q.write ok = { q with hand := none, written := q.written ++ [payload] }) ∨
    (∃ payload, ok = false ∧ q.hand = some payload ∧ q.write ok = { q with writing := false }) ∨
    q.write ok = q := by
  unfold write
  split
  · rename_i payload hwriting hhand
    cases ok with
    | true => exact .inl ⟨payload, rfl, by simp [waiting, hhand], rfl⟩
    | false => exact .inr (.inl ⟨payload, rfl, hhand, rfl⟩)
  · exact .inr (.inr rfl)

@[simp]
lemma contents_write (ok : Bool) : (q.write ok).contents = q.contents := by
  rcases q.write_cases ok with ⟨payload, -, hwaiting, heq⟩ | ⟨payload, -, -, heq⟩ | heq
  · rw [heq, contents, contents, hwaiting]
    simp [waiting]
  · rw [heq]
    rfl
  · rw [heq]

end lemmas

end ClientQueue

end Voicx.Broadcast
