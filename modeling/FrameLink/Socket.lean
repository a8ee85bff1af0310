import FrameLink.Buffer
import FrameLink.Config
import FrameLink.Report
import FrameLink.Transport

/-
  Packet sockets: packets over a byte stream.

  A socket owns a transport and one buffer for each direction,
  each with room for exactly one frame of the greatest packet.
  It queues events for its consumer; a connection that a
  listening socket has taken comes as a socket inside such an
  event.

  Sockets live in a `Host`, which holds the world of their
  transports and numbers them.  An operation yields a `Reply`:
  the result, the socket and the host afterwards, and the
  reports made on the way.  The measures among the reports
  belong to the counters that the socket's `meter` names.

  Key definitions include:
    * `SocketId`
    * `Socket`, `Event`
    * `Host`
    * `Reply`
    * `Socket.start`
-/

------------------------------------------------------------
-- Sockets and Events
------------------------------------------------------------

namespace FrameLink

/- The number of a socket, in the order of their making. -/
structure SocketId where
  number : UInt64
  deriving DecidableEq

namespace SocketId

/- The number as log lines show it. -/
def toText (id : SocketId) : String :=
  s!"sock-{id.number}"

/- The number after a given one. -/
def next (id : SocketId) : SocketId :=
  ⟨id.number + 1⟩

end SocketId

mutual

/- A packet socket over one transport. -/
structure Socket (τ : Type) where
  id : SocketId
  transport : τ
  /- The socket takes connections and reads nothing. -/
  listener : Bool
  /- A close has been announced to the consumer. -/
  closed : Bool
  input : Buffer
  output : Buffer
  framing : FramingConfig
  /- Events not yet taken by the consumer, oldest first. -/
  events : List (Event τ)
  /- The counters that the socket adds to. -/
  meter : Nat

/- What a socket tells its consumer. -/
inductive Event (τ : Type) where
  | connected
  | packet (payload : Bytes) (remote : Option Address)
  | newConnection (socket : Socket τ)
  | closed (code : Option ErrorCode)

end

------------------------------------------------------------
-- Hosts and Replies
------------------------------------------------------------

/- The world of the transports, and the next number. -/
structure Host (ω : Type) where
  world : ω
  nextId : SocketId := ⟨1⟩

/- What an operation on a socket comes to. -/
structure Reply (τ ω α : Type) where
  result : α
  socket : Socket τ
  host : Host ω
  reports : List Report := []

------------------------------------------------------------
-- Making Sockets
------------------------------------------------------------

namespace Socket

variable {τ ω : Type} [Transport τ ω]

/-
  The socket of a transport, before it listens.  Both buffers
  have room for one frame of the greatest packet.
-/
def make
    (id : SocketId)
    (transport : τ)
    (listener : Bool)
    (framing : FramingConfig)
    (meter : Nat) : Socket τ :=
  let room :=
    Frame.capacity framing.clamped.maxPacketSize.toNat
  { id, transport, listener, meter
    closed := false
    input := Buffer.ofCapacity room
    output := Buffer.ofCapacity room
    framing := framing.clamped
    events := [] }

/-
  Make a socket for a transport.  A listening one begins to
  listen at once; should that fail, the socket is made all
  the same.
-/
def start
    (transport : τ)
    (listener : Bool)
    (framing : FramingConfig)
    (meter : Nat)
    (host : Host ω) : Reply τ ω Unit :=
  let s := make host.nextId transport listener framing meter
  let host := { host with nextId := host.nextId.next }
  let clampedLine : List Report :=
    if framing.oversized then [.line .sizeClamped] else []
  if listener then
    let o :=
      Transport.listen transport s.framing.listenBacklog
        host.world
    let line : LogLine :=
      match o.result with
      | .ok _ => .listening
      | .error _ => .listenFailed
    { result := ()
      socket := { s with transport := o.transport }
      host := { host with world := o.world }
      reports := clampedLine ++ [.line line] }
  else
    { result := ()
      socket := s
      host := host
      reports := clampedLine }

------------------------------------------------------------
-- Views
------------------------------------------------------------

/- The greatest packet that the socket sends. -/
def maxPacketSize (s : Socket τ) : Nat :=
  s.framing.maxPacketSize.toNat

/- The room of either buffer. -/
def capacity (s : Socket τ) : Nat :=
  s.input.capacity

/- The bytes received and not yet part of a packet. -/
def bufferedInput (s : Socket τ) : Nat :=
  s.input.size

/- The bytes queued and not yet written. -/
def pendingOutput (s : Socket τ) : Nat :=
  s.output.size

/- Some event waits for the consumer. -/
def hasEvents (s : Socket τ) : Bool :=
  !s.events.isEmpty

/- An optional address as a description shows it. -/
def describeAddress : Option Address → String
  | some a => s!"Some({a.toText})"
  | none => "None"

/- A socket as it shows itself. -/
def describe (s : Socket τ) : String :=
  s!"PacketSocket \x7b id: SocketId({s.id.number}), " ++
    s!"listen: {s.listener}, closed: {s.closed}, " ++
    s!"buffered_input: {s.bufferedInput}, " ++
    s!"pending_output: {s.pendingOutput}, " ++
    s!"queued_events: {s.events.length}, remote: " ++
    describeAddress (Transport.remoteAddress s.transport) ++
    " \x7d"

end Socket

end FrameLink
