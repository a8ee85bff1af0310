import FrameLink.Socket

/-
  The sending side of a packet socket.

  A packet is framed into the output buffer and written at
  once, as far as the transport takes it.  What is left is
  written on later occasions, and until it is gone further
  packets are shed: they count as sent to the caller and are
  never queued, so at most one frame is in flight.  A packet
  of which nothing could be written is taken back.

  Raw bytes have no prefix.  They queue behind whatever is
  there, and stay queued when they cannot be written.

  Key definitions include:
    * `Socket.flush`
    * `Socket.send`, `Socket.sendTo`
    * `Socket.sendRaw`
-/

------------------------------------------------------------
-- Flushing
------------------------------------------------------------

namespace FrameLink

namespace Socket

variable {τ ω : Type} [Transport τ ω]

/- Keep a code as the last error of the transport. -/
def setError (s : Socket τ) (code : ErrorCode) : Socket τ :=
  { s with transport := Transport.setError s.transport code }

/-
  Write queued bytes, as far as the transport takes them in
  one call.  The bytes stay queued unless the transport takes
  some of them and claims no more than there are.
-/
def flush
    (s : Socket τ)
    (host : Host ω) :
    Reply τ ω (Except SocketError Nat) :=
  if s.output.isEmpty then
    { result := .ok 0, socket := s, host }
  else
    let queued := s.output.size
    let o :=
      Transport.send s.transport s.output.filled host.world
    let s := { s with transport := o.transport }
    let host := { host with world := o.world }
    match o.result with
    | .error e =>
        { result := .error (.transportFailure e)
          socket := s
          host }
    | .ok written =>
        if written = 0 then
          { result := .ok 0, socket := s, host }
        else if queued < written then
          { result := .error (.writeOverrun written queued)
            socket := s
            host
            reports := [.line .writeOverrun] }
        else
          { result := .ok written
            socket :=
              { s with output := s.output.consume written }
            host }

------------------------------------------------------------
-- Sending Packets
------------------------------------------------------------

/- The failure of a send of which nothing was written. -/
def nothingWritten : SocketError :=
  .transportFailure
    ⟨.writeZero, some "transport accepted no bytes"⟩

/- Take an unsent frame back, and keep the error's code. -/
def discard
    (r : Reply τ ω (Except SocketError Nat))
    (e : SocketError) :
    Reply τ ω (Except SocketError Nat) :=
  let s := { r.socket with output := r.socket.output.clear }
  { r with result := .error e, socket := s.setError e.code }

/- Queue a frame on an empty output buffer and write it. -/
def sendFrame
    (s : Socket τ)
    (front payload : Bytes)
    (host : Host ω) :
    Reply τ ω (Except SocketError Nat) :=
  let output := (s.output.append front).append payload
  let r := flush { s with output } host
  match r.result with
  | .error e => discard r e
  | .ok written =>
      if written = 0 then
        discard r nothingWritten
      else
        let partLine : List Report :=
          if r.socket.output.isEmpty then
            []
          else
            [.line .partlyWritten]
        let size := UInt64.ofNat payload.length
        { r with
          result := .ok payload.length
          reports :=
            r.reports ++ partLine ++
              [.measure (.packetSent size)] }

/-
  Frame a payload and begin to write it.  The result is the
  length of the payload, also for a packet that is shed.
-/
def send
    (s : Socket τ)
    (payload : Bytes)
    (host : Host ω) :
    Reply τ ω (Except SocketError Nat) :=
  match Frame.encodePrefix payload.length s.maxPacketSize with
  | .error e =>
      { result := .error e
        socket := s.setError e.code
        host }
  | .ok front =>
      if s.output.isEmpty then
        sendFrame s front payload host
      else
        { result := .ok payload.length
          socket := s
          host
          reports :=
            [.line .packetShed, .measure .packetDropped] }

/- Send to an address, which must be that of the peer. -/
def sendTo
    (s : Socket τ)
    (payload : Bytes)
    (address : Address)
    (host : Host ω) :
    Reply τ ω (Except SocketError Nat) :=
  if Transport.remoteAddress s.transport = some address then
    send s payload host
  else
    { result := .error (.notConnected address)
      socket := s.setError .notConnected
      host
      reports := [.line .wrongPeer] }

------------------------------------------------------------
-- Sending Raw Bytes
------------------------------------------------------------

/- Queue bytes without a prefix and begin to write. -/
def sendRaw
    (s : Socket τ)
    (data : Bytes)
    (host : Host ω) :
    Reply τ ω (Except SocketError Nat) :=
  match s.output.append? data with
  | none =>
      { result := .error (.messageTooLarge data.length)
        socket := s.setError .messageTooLarge
        host }
  | some output =>
      let r := flush { s with output } host
      let size := UInt64.ofNat data.length
      { r with
        reports := .measure (.rawQueued size) :: r.reports }

end Socket

end FrameLink
