import FrameLink.Proofs.Metrics
import FrameLink.Proofs.Socket.Life

/-
  How far the operations of a socket reach.

  Sending changes the transport and the output of a socket
  and nothing else.  Receiving leaves the output alone, and
  apart from the readable notification no operation touches
  the input.  Number, framing, meter and the capacities of
  both buffers stay for good.

  A socket reaches its stream by calls only: a property of
  the stream and its world that the calls keep is kept by
  every operation (`Socket.perform_keeps`).

  Main statements:
    * `Socket.flush_reach`, `Socket.sendFrame_reach`,
      `Socket.send_reach`, `Socket.sendTo_reach`,
      `Socket.sendRaw_reach`
    * `Socket.readInput_reach`,
      `Socket.acceptConnection_reach`
    * `Socket.perform_reach`, `Socket.perform_nextId`
    * `Socket.perform_keeps`
-/

namespace FrameLink

namespace Socket

variable {τ ω : Type} [Transport τ ω]

------------------------------------------------------------
-- Parts That Change
------------------------------------------------------------

theorem flush_reach
    (s : Socket τ)
    (host : Host ω) :
    ∃ transport output,
      (s.flush host).socket =
        { s with transport, output } := by
  unfold flush
  split
  · exact ⟨s.transport, s.output, by cases s; rfl⟩
  · dsimp only
    split
    · exact ⟨_, _, rfl⟩
    · split
      · exact ⟨_, _, rfl⟩
      · split
        · exact ⟨_, _, rfl⟩
        · exact ⟨_, _, rfl⟩

theorem sendFrame_reach
    (s : Socket τ)
    (front payload : Bytes)
    (host : Host ω) :
    ∃ transport output,
      (s.sendFrame front payload host).socket =
        { s with transport, output } := by
  rcases flush_reach
      { s with
        output := (s.output.append front).append payload }
      host with
    ⟨transport, output, hFlush⟩
  unfold sendFrame
  dsimp only
  split
  · simp only [discard, setError, hFlush]
    exact ⟨_, _, rfl⟩
  · split
    · simp only [discard, setError, hFlush]
      exact ⟨_, _, rfl⟩
    · exact ⟨_, _, hFlush⟩

theorem send_reach
    (s : Socket τ)
    (payload : Bytes)
    (host : Host ω) :
    ∃ transport output,
      (s.send payload host).socket =
        { s with transport, output } := by
  unfold send
  split
  · exact ⟨_, _, rfl⟩
  · split
    · exact sendFrame_reach s _ payload host
    · exact ⟨s.transport, s.output, by cases s; rfl⟩

theorem sendTo_reach
    (s : Socket τ)
    (payload : Bytes)
    (address : Address)
    (host : Host ω) :
    ∃ transport output,
      (s.sendTo payload address host).socket =
        { s with transport, output } := by
  unfold sendTo
  split
  · exact send_reach s payload host
  · exact ⟨_, _, rfl⟩

theorem sendRaw_reach
    (s : Socket τ)
    (data : Bytes)
    (host : Host ω) :
    ∃ transport output,
      (s.sendRaw data host).socket =
        { s with transport, output } := by
  unfold sendRaw
  split
  · exact ⟨_, _, rfl⟩
  · rename_i queued hRoom
    rcases flush_reach { s with output := queued } host with
      ⟨transport, output, hFlush⟩
    exact ⟨transport, output, hFlush⟩

theorem onWritable_reach
    (s : Socket τ)
    (host : Host ω) :
    ∃ transport output,
      (s.onWritable host).socket =
        { s with transport, output } := by
  unfold onWritable
  split
  · exact ⟨s.transport, s.output, by cases s; rfl⟩
  · exact flush_reach s host

theorem announceClose_reach
    (s : Socket τ)
    (code : Option ErrorCode) :
    ∃ closed events,
      (s.announceClose code).1 =
        { s with closed, events } := by
  unfold announceClose
  split
  · exact ⟨s.closed, s.events, by cases s; rfl⟩
  · exact ⟨_, _, rfl⟩

theorem overflow_reach
    (s : Socket τ)
    (host : Host ω) :
    ∃ transport closed events,
      (s.overflow host).socket =
        { s with
          transport, closed, events
          input := s.input.clear } := by
  unfold overflow
  dsimp only
  split
  · exact ⟨_, _, _, rfl⟩
  · rcases announceClose_reach
        { setError { s with input := s.input.clear }
            .bufferOverflow with
          transport :=
            (Transport.close
              (setError { s with input := s.input.clear }
                .bufferOverflow).transport
              host.world).transport }
        (some .bufferOverflow) with
      ⟨closed, events, hClose⟩
    exact ⟨_, closed, events, hClose⟩

theorem readInput_reach
    (s : Socket τ)
    (host : Host ω) :
    ∃ transport closed events input,
      (s.readInput host).socket =
        { s with transport, closed, events, input } := by
  unfold readInput
  dsimp only
  split
  · unfold takeBytes
    dsimp only
    split
    · rename_i bs hResult hFull
      rcases overflow_reach
          (deliver
            { s with
              transport :=
                (Transport.receive s.transport
                  s.input.remaining host.world).transport
              input := s.input.fill bs }).1
          { host with
            world :=
              (Transport.receive s.transport
                s.input.remaining host.world).world } with
        ⟨transport, closed, events, hOverflow⟩
      exact ⟨transport, closed, events, _, hOverflow⟩
    · exact ⟨_, _, _, _, rfl⟩
  · split
    · exact ⟨_, _, _, _, rfl⟩
    · exact ⟨_, _, _, _, rfl⟩

theorem acceptConnection_reach
    (s : Socket τ)
    (host : Host ω) :
    ∃ events,
      (s.acceptConnection host).socket =
        { s with
          transport :=
            (Transport.accept s.transport
              host.world).transport
          events } := by
  unfold acceptConnection
  dsimp only
  split
  · exact ⟨_, rfl⟩
  · split
    · exact ⟨_, rfl⟩
    · exact ⟨_, rfl⟩

/- Number, meter and limits of a socket stay for good. -/
theorem perform_reach
    (s : Socket τ)
    (operation : Operation)
    (host : Host ω) :
    ∃ transport closed input output events,
      (s.perform operation host).socket =
        { s with
          transport, closed, input, output, events } := by
  have hSends :
      ∀ {t : Socket τ},
        (∃ transport output,
            t = { s with transport, output }) →
          ∃ transport closed input output events,
            t =
              { s with
                transport, closed, input, output,
                events } := by
    rintro t ⟨transport, output, hReach⟩
    exact ⟨transport, s.closed, s.input, output, s.events,
      hReach⟩
  cases operation with
  | send data => exact hSends (send_reach s data host)
  | sendTo data address =>
      exact hSends (sendTo_reach s data address host)
  | sendRaw data => exact hSends (sendRaw_reach s data host)
  | flush => exact hSends (flush_reach s host)
  | poll =>
      unfold perform poll
      dsimp only
      split
      · exact
          ⟨s.transport, s.closed, s.input, s.output, s.events,
            by cases s; rfl⟩
      · exact ⟨_, _, _, _, _, rfl⟩
  | drain => exact ⟨_, _, _, _, _, rfl⟩
  | notify notification =>
      cases notification with
      | connected => exact ⟨_, _, _, _, _, rfl⟩
      | readable =>
          unfold perform handle onReadable
          dsimp only [resulting]
          split
          · rcases acceptConnection_reach s host with
              ⟨events, hAccept⟩
            exact ⟨_, s.closed, s.input, s.output, events,
              hAccept⟩
          · rcases readInput_reach s host with
              ⟨transport, closed, events, input, hRead⟩
            exact ⟨transport, closed, input, s.output, events,
              hRead⟩
      | writable => exact hSends (onWritable_reach s host)
      | closed code =>
          rcases announceClose_reach s code with
            ⟨closed, events, hClose⟩
          exact ⟨s.transport, closed, s.input, s.output,
            events, hClose⟩

------------------------------------------------------------
-- Numbers Used Up
------------------------------------------------------------

theorem flush_nextId
    (s : Socket τ)
    (host : Host ω) :
    (s.flush host).host.nextId = host.nextId := by
  unfold flush
  split
  · rfl
  · dsimp only
    split
    · rfl
    · split
      · rfl
      · split
        · rfl
        · rfl

theorem send_nextId
    (s : Socket τ)
    (payload : Bytes)
    (host : Host ω) :
    (s.send payload host).host.nextId = host.nextId := by
  unfold send
  split
  · rfl
  · split
    · unfold sendFrame
      dsimp only
      split
      · exact flush_nextId _ host
      · split
        · exact flush_nextId _ host
        · exact flush_nextId _ host
    · rfl

theorem readInput_nextId
    (s : Socket τ)
    (host : Host ω) :
    (s.readInput host).host.nextId = host.nextId := by
  unfold readInput
  dsimp only
  split
  · unfold takeBytes
    dsimp only
    split
    · unfold overflow
      dsimp only
      split
      · rfl
      · rfl
    · rfl
  · split
    · rfl
    · rfl

/- Only a listener that is told to read makes sockets. -/
theorem perform_nextId
    (s : Socket τ)
    {operation : Operation}
    (hNone :
      operation = .notify .readable → s.listener = false)
    (host : Host ω) :
    (s.perform operation host).host.nextId = host.nextId := by
  cases operation with
  | send data => exact send_nextId s data host
  | sendTo data address =>
      unfold perform sendTo
      dsimp only [resulting]
      split
      · exact send_nextId s data host
      · rfl
  | sendRaw data =>
      unfold perform sendRaw
      dsimp only [resulting]
      split
      · rfl
      · exact flush_nextId _ host
  | flush => exact flush_nextId s host
  | poll => rfl
  | drain => rfl
  | notify notification =>
      cases notification with
      | connected => rfl
      | readable =>
          unfold perform handle onReadable
          dsimp only [resulting]
          rw [if_neg (by simp [hNone rfl])]
          exact readInput_nextId s host
      | writable =>
          unfold perform handle onWritable
          dsimp only [resulting]
          split
          · rfl
          · exact flush_nextId s host
      | closed code => rfl

------------------------------------------------------------
-- What Is Measured
------------------------------------------------------------

/- A flush measures nothing. -/
theorem measures_flush
    (s : Socket τ)
    (host : Host ω) :
    Report.measures (s.flush host).reports = [] := by
  unfold flush
  split
  · rfl
  · dsimp only
    split
    · rfl
    · split
      · rfl
      · split
        · rfl
        · rfl

/- Draining the output measures nothing. -/
theorem measures_onWritable
    (s : Socket τ)
    (host : Host ω) :
    Report.measures (s.onWritable host).reports = [] := by
  unfold onWritable
  split
  · rfl
  · dsimp only
    rw [Report.measures_append, measures_flush]
    split
    · rfl
    · split
      · rfl
      · rfl

theorem measures_announceClose
    (s : Socket τ)
    (code : Option ErrorCode) :
    Report.measures (s.announceClose code).2 = [] := by
  unfold announceClose
  split
  · rfl
  · rfl

/- An overflow measures itself, whatever the policy. -/
theorem measures_overflow
    (s : Socket τ)
    (host : Host ω) :
    Report.measures (s.overflow host).reports =
      [.bufferOverflow] := by
  unfold overflow
  dsimp only
  split
  · rfl
  · dsimp only
    rw [Report.measures_append, Report.measures_append,
      measures_announceClose, List.append_nil]
    split
    · rfl
    · rfl

------------------------------------------------------------
-- Properties of the Stream
------------------------------------------------------------

/- Sending keeps a property. -/
def SendKeeps (P : τ → ω → Prop) : Prop :=
  ∀ t bs w, P t w →
    P (Transport.send t bs w).transport
      (Transport.send t bs w).world

/- Receiving keeps a property. -/
def ReceiveKeeps (P : τ → ω → Prop) : Prop :=
  ∀ t room w, P t w →
    P (Transport.receive t room w).transport
      (Transport.receive t room w).world

/- Closing keeps a property. -/
def CloseKeeps (P : τ → ω → Prop) : Prop :=
  ∀ t w, P t w →
    P (Transport.close t w).transport
      (Transport.close t w).world

/- Setting the last error keeps a property. -/
def SetErrorKeeps (P : τ → ω → Prop) : Prop :=
  ∀ t code w, P t w → P (Transport.setError t code) w

variable {P : τ → ω → Prop}

theorem flush_keeps
    (hSend : SendKeeps P)
    {s : Socket τ}
    {host : Host ω}
    (hHolds : P s.transport host.world) :
    P (s.flush host).socket.transport
      (s.flush host).host.world := by
  have hSent := hSend _ s.output.filled _ hHolds
  unfold flush
  split
  · exact hHolds
  · dsimp only
    split
    · exact hSent
    · split
      · exact hSent
      · split
        · exact hSent
        · exact hSent

theorem sendFrame_keeps
    (hSend : SendKeeps P)
    (hSetError : SetErrorKeeps P)
    {s : Socket τ}
    (front payload : Bytes)
    {host : Host ω}
    (hHolds : P s.transport host.world) :
    P (s.sendFrame front payload host).socket.transport
      (s.sendFrame front payload host).host.world := by
  have hFlush :=
    flush_keeps hSend
      (s :=
        { s with
          output :=
            (s.output.append front).append payload })
      hHolds
  unfold sendFrame
  dsimp only
  split
  · exact hSetError _ _ _ hFlush
  · split
    · exact hSetError _ _ _ hFlush
    · exact hFlush

theorem send_keeps
    (hSend : SendKeeps P)
    (hSetError : SetErrorKeeps P)
    {s : Socket τ}
    (payload : Bytes)
    {host : Host ω}
    (hHolds : P s.transport host.world) :
    P (s.send payload host).socket.transport
      (s.send payload host).host.world := by
  unfold send
  split
  · exact hSetError _ _ _ hHolds
  · split
    · exact sendFrame_keeps hSend hSetError _ payload hHolds
    · exact hHolds

theorem sendTo_keeps
    (hSend : SendKeeps P)
    (hSetError : SetErrorKeeps P)
    {s : Socket τ}
    (payload : Bytes)
    (address : Address)
    {host : Host ω}
    (hHolds : P s.transport host.world) :
    P (s.sendTo payload address host).socket.transport
      (s.sendTo payload address host).host.world := by
  unfold sendTo
  split
  · exact send_keeps hSend hSetError payload hHolds
  · exact hSetError _ _ _ hHolds

theorem sendRaw_keeps
    (hSend : SendKeeps P)
    (hSetError : SetErrorKeeps P)
    {s : Socket τ}
    (data : Bytes)
    {host : Host ω}
    (hHolds : P s.transport host.world) :
    P (s.sendRaw data host).socket.transport
      (s.sendRaw data host).host.world := by
  unfold sendRaw
  split
  · exact hSetError _ _ _ hHolds
  · rename_i queued hRoom
    exact flush_keeps hSend (s := { s with output := queued })
      hHolds

theorem overflow_keeps
    (hClose : CloseKeeps P)
    (hSetError : SetErrorKeeps P)
    {s : Socket τ}
    {host : Host ω}
    (hHolds : P s.transport host.world) :
    P (s.overflow host).socket.transport
      (s.overflow host).host.world := by
  have hClosed :=
    hClose _ _ (hSetError _ .bufferOverflow _ hHolds)
  unfold overflow
  dsimp only
  split
  · exact hHolds
  · unfold announceClose
    split
    · exact hClosed
    · exact hClosed

theorem readInput_keeps
    (hReceive : ReceiveKeeps P)
    (hClose : CloseKeeps P)
    (hSetError : SetErrorKeeps P)
    {s : Socket τ}
    {host : Host ω}
    (hHolds : P s.transport host.world) :
    P (s.readInput host).socket.transport
      (s.readInput host).host.world := by
  have hReceived := hReceive _ s.input.remaining _ hHolds
  unfold readInput
  dsimp only
  split
  · unfold takeBytes
    dsimp only
    split
    · rename_i bs hResult hFull
      exact overflow_keeps hClose hSetError
        (s := (deliver
          { s with
            transport :=
              (Transport.receive s.transport
                s.input.remaining host.world).transport
            input := s.input.fill bs }).1)
        hReceived
    · exact hReceived
  · split
    · exact hReceived
    · exact hReceived

/-
  What every call keeps is kept by every operation.  Only a
  readable notification receives and closes, and it sends
  nothing.  A listener accepts instead, which is left out.
-/
theorem perform_keeps
    {s : Socket τ}
    {operation : Operation}
    {host : Host ω}
    (hListener :
      operation = .notify .readable → s.listener = false)
    (hSend : operation ≠ .notify .readable → SendKeeps P)
    (hReceive :
      operation = .notify .readable → ReceiveKeeps P)
    (hClose : operation = .notify .readable → CloseKeeps P)
    (hSetError : SetErrorKeeps P)
    (hHolds : P s.transport host.world) :
    P (s.perform operation host).socket.transport
      (s.perform operation host).host.world := by
  cases operation with
  | send data =>
      exact send_keeps (hSend (by simp)) hSetError data hHolds
  | sendTo data address =>
      exact sendTo_keeps (hSend (by simp)) hSetError data
        address hHolds
  | sendRaw data =>
      exact sendRaw_keeps (hSend (by simp)) hSetError data
        hHolds
  | flush => exact flush_keeps (hSend (by simp)) hHolds
  | poll =>
      unfold perform poll
      dsimp only
      split
      · exact hHolds
      · exact hHolds
  | drain => exact hHolds
  | notify notification =>
      cases notification with
      | connected => exact hHolds
      | readable =>
          have hReads : s.listener = false := hListener rfl
          have hRead :=
            readInput_keeps (hReceive rfl) (hClose rfl)
              hSetError hHolds
          simp only [perform, handle, onReadable, hReads]
          exact hRead
      | writable =>
          unfold perform handle onWritable
          dsimp only
          split
          · exact hHolds
          · exact flush_keeps (hSend (by simp)) hHolds
      | closed code =>
          unfold perform handle announceClose
          dsimp only
          split
          · exact hHolds
          · exact hHolds

end Socket

end FrameLink
