import Mathlib.Tactic

/-!
# Error replies

What every handler of `internal/server` shares: the codes of `MsgError` frames, and the writing of
such a frame to the client.

A handler returns an error exactly when it could not write its reply; a refusal that was written is
a `nil` result. `sent` keeps that reading of the return value in one place.
-/

namespace Voicx.Server

/-- The codes of error frames, 1 to 7 on the wire.
Source: `internal/server/tcp.go`, `errCodeUnknown` to `errCodeConflict`. -/
inductive ErrCode
  | unknown
  | malformed
  | notAuthenticated
  | permissionDenied
  | unavailable
  | notFound
  | conflict
deriving DecidableEq, Repr

/-- An error frame, without the type of the request it answers.
Source: `internal/netproto/codec.go`, `Error`. -/
structure ErrorReply where
  code : ErrCode
  message : String
deriving DecidableEq, Repr

/-- The error of a frame that could not be written. -/
inductive WriteError
  | writeFailed
deriving DecidableEq, Repr

/-- What `sendErrorFor` returns, `none` being Go's `nil`; `write` says which frames get through.
Source: `internal/server/tcp.go`, `sendErrorFor`. -/
def sent (write : ErrorReply → Bool) (reply : ErrorReply) : Option WriteError :=
  if write reply then none else some .writeFailed

lemma sent_eq_none {write : ErrorReply → Bool} {reply : ErrorReply} :
    sent write reply = none ↔ write reply = true := by
  unfold sent
  split_ifs with h <;> simp [h]

end Voicx.Server
