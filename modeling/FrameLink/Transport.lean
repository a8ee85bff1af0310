import FrameLink.Bytes
import FrameLink.Error

/-
  Byte streams that never block.

  A transport is one end of a byte stream.  It lives in a
  world that it may share with other transports: each call
  takes the transport and the world as they are and yields
  both as they are afterwards, whether the call succeeds or
  fails.  A call that could do nothing right now fails with
  `IoKind.wouldBlock`.  A receive that yields no bytes where
  there was room for some has met the end of the stream.

  A transport keeps the code of its last error, which its user
  may also set.

  Key definitions include:
    * `Outcome`
    * `Transport`
    * `Transport.ReceivesWithin`, `Transport.SendsWithin`
    * `Notification`
-/

------------------------------------------------------------
-- Outcomes
------------------------------------------------------------

namespace FrameLink

/- A result, with the transport and the world after it. -/
structure Outcome (τ ω α : Type) where
  result : Except IoError α
  transport : τ
  world : ω

------------------------------------------------------------
-- Transports
------------------------------------------------------------

/- One end of a byte stream, in a world of a given type. -/
class Transport (τ : Type) (ω : outParam Type) where
  /- Begin to take connections, so many of them waiting. -/
  listen : τ → UInt32 → ω → Outcome τ ω Unit
  /- Take one waiting connection, with its peer. -/
  accept : τ → ω → Outcome τ ω (τ × Address)
  /- Write a front of the bytes, and tell how many. -/
  send : τ → Bytes → ω → Outcome τ ω Nat
  /- Read what is there, up to a number of bytes. -/
  receive : τ → Nat → ω → Outcome τ ω Bytes
  /- Shut the stream down. -/
  close : τ → ω → Outcome τ ω Unit
  remoteAddress : τ → Option Address
  localAddress : τ → Option Address
  lastError : τ → Option ErrorCode
  setError : τ → ErrorCode → τ

namespace Transport

variable (τ : Type) {ω : Type} [Transport τ ω]

/- No receive yields more bytes than there was room for. -/
def ReceivesWithin : Prop :=
  ∀ (t : τ) (room : Nat) (w : ω) (bs : Bytes),
    (receive t room w).result = .ok bs → bs.length ≤ room

/- No send claims more bytes than were offered. -/
def SendsWithin : Prop :=
  ∀ (t : τ) (offered : Bytes) (w : ω) (n : Nat),
    (send t offered w).result = .ok n → n ≤ offered.length

end Transport

------------------------------------------------------------
-- Notifications
------------------------------------------------------------

/- What a stream, or the loop that drives it, announces. -/
inductive Notification where
  /- An outgoing connection is complete. -/
  | connected
  /- Bytes, or at a listener a connection, can be taken. -/
  | readable
  /- There is room to write again. -/
  | writable
  /- The connection is gone, for an error if there is one. -/
  | closed (code : Option ErrorCode)
  deriving DecidableEq

end FrameLink
