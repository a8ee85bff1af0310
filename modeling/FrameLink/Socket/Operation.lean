import FrameLink.Socket.Input

/-
  Operations on a packet socket.

  An operation is whatever can be done with a socket: a call
  of its consumer, or a notification of its stream.

  Key definitions include:
    * `Socket.Operation`, `Socket.Result`
    * `Socket.perform`
-/

------------------------------------------------------------
-- Operations
------------------------------------------------------------

namespace FrameLink

namespace Socket

/- Something that is done with a socket. -/
inductive Operation where
  | send (data : Bytes)
  | sendTo (data : Bytes) (address : Address)
  | sendRaw (data : Bytes)
  | flush
  | notify (notification : Notification)
  | poll
  | drain
  deriving DecidableEq

/- What an operation results in. -/
inductive Result (τ : Type) where
  | count (result : Except SocketError Nat)
  | done
  | polled (event : Option (Event τ))
  | drained (events : List (Event τ))

variable {τ ω : Type} [Transport τ ω]

/- A reply whose result is a result of some operation. -/
def resulting
    {α : Type}
    (f : α → Result τ)
    (r : Reply τ ω α) : Reply τ ω (Result τ) :=
  { r with result := f r.result }

/- Do one thing with a socket. -/
def perform
    (s : Socket τ)
    (operation : Operation)
    (host : Host ω) : Reply τ ω (Result τ) :=
  match operation with
  | .send data => resulting .count (s.send data host)
  | .sendTo data address =>
      resulting .count (s.sendTo data address host)
  | .sendRaw data => resulting .count (s.sendRaw data host)
  | .flush => resulting .count (s.flush host)
  | .notify notification =>
      resulting (fun _ => .done) (s.handle notification host)
  | .poll =>
      let (event, s) := s.poll
      { result := .polled event, socket := s, host }
  | .drain =>
      let (events, s) := s.drain
      { result := .drained events, socket := s, host }

end Socket

end FrameLink
