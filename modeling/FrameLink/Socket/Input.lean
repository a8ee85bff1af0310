import FrameLink.Socket.Output

/-
  The receiving side of a packet socket.

  A readable connection reads once, into all the room that its
  input buffer has, and delivers every complete frame at the
  front of the buffer.  Should the buffer be full after that,
  its first frame can never be completed: the bytes are
  discarded and, if the policy says so, the connection is
  closed.

  A readable listener takes one connection, makes a socket for
  it with its own limits and counters, and lets the new socket
  read once, as bytes may have come before it was known.

  Failures met here are reported and change nothing else.

  Key definitions include:
    * `Socket.announceClose`
    * `Socket.deliver`
    * `Socket.overflow`
    * `Socket.readInput`
    * `Socket.acceptConnection`
    * `Socket.handle`
    * `Socket.poll`, `Socket.drain`
-/

------------------------------------------------------------
-- Closing
------------------------------------------------------------

namespace FrameLink

namespace Socket

variable {τ ω : Type} [Transport τ ω]

/- Queue an event for the consumer. -/
def emit (s : Socket τ) (event : Event τ) : Socket τ :=
  { s with events := s.events ++ [event] }

/- Tell the consumer of a close, the first time only. -/
def announceClose
    (s : Socket τ)
    (code : Option ErrorCode) : Socket τ × List Report :=
  if s.closed then
    (s, [])
  else
    ({ s.emit (.closed code) with closed := true },
      [.line .closed])

------------------------------------------------------------
-- Receiving
------------------------------------------------------------

/- The reports about a packet that is delivered. -/
def packetReports (payload : Bytes) : List Report :=
  [ .line .packetReceived,
    .measure
      (.packetReceived (UInt64.ofNat payload.length)) ]

/-
  Deliver every complete frame at the front of the input, and
  keep what follows the last of them.
-/
def deliver (s : Socket τ) : Socket τ × List Report :=
  let remote := Transport.remoteAddress s.transport
  let (payloads, left) := Frame.unframe s.input.filled
  let packets := payloads.map (Event.packet · remote)
  ({ s with
      input := s.input.consume (s.input.size - left.length)
      events := s.events ++ packets },
    payloads.flatMap packetReports)

/-
  Discard an input that is full without a frame.  Under the
  closing policy the transport is closed, and the consumer is
  told so whether or not that succeeds.
-/
def overflow
    (s : Socket τ)
    (host : Host ω) : Reply τ ω Unit :=
  let s := { s with input := s.input.clear }
  let first : List Report :=
    [.measure .bufferOverflow, .line .inputOverflow]
  match s.framing.overflowPolicy with
  | .reset =>
      { result := (), socket := s, host, reports := first }
  | .close =>
      let s := s.setError .bufferOverflow
      let o := Transport.close s.transport host.world
      let s := { s with transport := o.transport }
      let failed : List Report :=
        match o.result with
        | .ok _ => []
        | .error _ => [.line .closeFailed]
      let (s, last) := s.announceClose (some .bufferOverflow)
      { result := ()
        socket := s
        host := { host with world := o.world }
        reports := first ++ failed ++ last }

/- Take bytes in, deliver packets, and meet an overflow. -/
def takeBytes
    (s : Socket τ)
    (bs : Bytes)
    (host : Host ω) : Reply τ ω Unit :=
  let (s, delivered) :=
    deliver { s with input := s.input.fill bs }
  if s.input.isFull then
    let r := overflow s host
    { r with reports := delivered ++ r.reports }
  else
    { result := (), socket := s, host, reports := delivered }

/- Read once, into all the room there is. -/
def readInput
    (s : Socket τ)
    (host : Host ω) : Reply τ ω Unit :=
  let o :=
    Transport.receive s.transport s.input.remaining
      host.world
  let s := { s with transport := o.transport }
  let host := { host with world := o.world }
  match o.result with
  | .ok bs => takeBytes s bs host
  | .error e =>
      if e.wouldBlock then
        { result := (), socket := s, host }
      else
        { result := ()
          socket := s
          host
          reports :=
            [.measure .readError, .line .receiveFailed] }

------------------------------------------------------------
-- Accepting
------------------------------------------------------------

/- Take one waiting connection and hand it to the consumer. -/
def acceptConnection
    (s : Socket τ)
    (host : Host ω) : Reply τ ω Unit :=
  let o := Transport.accept s.transport host.world
  let s := { s with transport := o.transport }
  let host := { host with world := o.world }
  match o.result with
  | .ok (transport, _) =>
      let made := start transport false s.framing s.meter host
      let primed := readInput made.socket made.host
      { result := ()
        socket := s.emit (.newConnection primed.socket)
        host := primed.host
        reports :=
          made.reports ++
            [.measure .connectionAccepted, .line .accepted] ++
            primed.reports }
  | .error e =>
      if e.wouldBlock then
        { result := ()
          socket := s
          host
          reports := [.line .nothingPending] }
      else
        { result := ()
          socket := s
          host
          reports :=
            [.measure .acceptError, .line .acceptFailed] }

------------------------------------------------------------
-- Notifications
------------------------------------------------------------

/- The stream has something to take. -/
def onReadable
    (s : Socket τ)
    (host : Host ω) : Reply τ ω Unit :=
  if s.listener then
    acceptConnection s host
  else
    readInput s host

/- The stream has room to write. -/
def onWritable
    (s : Socket τ)
    (host : Host ω) : Reply τ ω Unit :=
  if s.output.isEmpty then
    { result := (), socket := s, host }
  else
    let r := flush s host
    let last : List Report :=
      match r.result with
      | .ok _ => [.line .flushed]
      | .error e =>
          if e.wouldBlock then [] else [.line .flushFailed]
    { r with result := (), reports := r.reports ++ last }

/- Act on what the stream announces. -/
def handle
    (s : Socket τ)
    (notification : Notification)
    (host : Host ω) : Reply τ ω Unit :=
  match notification with
  | .connected =>
      { result := ()
        socket := s.emit .connected
        host
        reports := [.line .connected] }
  | .readable => onReadable s host
  | .writable => onWritable s host
  | .closed code =>
      let (s, reports) := s.announceClose code
      { result := (), socket := s, host, reports }

------------------------------------------------------------
-- Events
------------------------------------------------------------

/- Take the oldest event. -/
def poll (s : Socket τ) : Option (Event τ) × Socket τ :=
  match s.events with
  | [] => (none, s)
  | event :: events => (some event, { s with events })

/- Take all events, oldest first. -/
def drain (s : Socket τ) : List (Event τ) × Socket τ :=
  (s.events, { s with events := [] })

end Socket

end FrameLink
