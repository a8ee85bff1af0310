import FrameLink.Proofs.Socket.Packets
import FrameLink.Proofs.Transport.Mute

/-
  What a socket can still send over a mute stream.

  Nothing is written any more, so a flush fails as soon as
  there is something to write.  A packet that meets an idle
  output is taken back and its sender is told so.  One that
  meets bytes left from before is shed, as on any stream, and
  its sender is told the length of it.  Raw bytes stay in the
  output.  No packet is counted as sent, whatever its sender
  is told (`Origin.calls_of_closed`).

  Key definitions include:
    * `SocketError.unconnected`
    * `Socket.Refused`, `Socket.Fitted`
    * `Socket.Operation.IsFor`
-/

------------------------------------------------------------
-- Flushing
------------------------------------------------------------

namespace FrameLink

/- The failure of every write to a mute stream. -/
def SocketError.unconnected : SocketError :=
  .transportFailure { kind := .notConnected }

namespace Socket

variable {s : Socket Endpoint}

/- A flush fails unless there is nothing to write. -/
theorem flush_of_isMute
    (hMute : s.transport.IsMute)
    (host : Host Network) :
    s.flush host =
      if s.pendingOutput = 0 then
        { result := .ok 0, socket := s, host }
      else
        { result := .error .unconnected
          socket := s.setError (.io .notConnected)
          host } := by
  have hSent :
      Transport.send s.transport s.output.filled host.world =
        s.transport.fail .notConnected host.world :=
    hMute.send_eq s.output.filled host.world
  unfold flush
  by_cases hIdle : s.pendingOutput = 0
  · have hEmpty : s.output.isEmpty = true :=
      beq_iff_eq.mpr hIdle
    rw [if_pos hIdle, if_pos hEmpty]
  · have hBusy : ¬ s.output.isEmpty = true :=
      fun hEmpty => hIdle (beq_iff_eq.mp hEmpty)
    rw [if_neg hIdle, if_neg hBusy, hSent]
    rfl

------------------------------------------------------------
-- Packets
------------------------------------------------------------

/- What sending a packet over a mute stream can come to. -/
inductive Refused
    (s : Socket Endpoint)
    (payload : Bytes)
    (r : Reply Endpoint Network (Except SocketError Nat)) :
    Prop where
  /- The packet is too large to be framed. -/
  | tooLarge
      (hLarge : s.maxPacketSize < payload.length)
      (hResult :
        r.result = .error (.messageTooLarge payload.length))
      (hOutput :
        r.socket.output.filled = s.output.filled)
      (hMeasured : Report.measures r.reports = [])
  /- Nothing waits, and the packet is taken back. -/
  | returned
      (hFits : payload.length ≤ s.maxPacketSize)
      (hIdle : s.pendingOutput = 0)
      (hResult : r.result = .error .unconnected)
      (hOutput :
        r.socket.output.filled = s.output.filled)
      (hMeasured : Report.measures r.reports = [])
  /- Something else waits, and the packet is dropped. -/
  | shed
      (hFits : payload.length ≤ s.maxPacketSize)
      (hBusy : s.pendingOutput ≠ 0)
      (hResult : r.result = .ok payload.length)
      (hOutput :
        r.socket.output.filled = s.output.filled)
      (hMeasured :
        Report.measures r.reports = [.packetDropped])

/- The output has room for one frame of the limit. -/
structure Fitted (s : Socket Endpoint) : Prop where
  room :
    s.output.capacity = s.maxPacketSize + Frame.prefixSize
  limit : s.maxPacketSize ≤ Frame.maxPayload

/- A socket of the same shape is fitted as well. -/
theorem Fitted.of_shape_eq
    {t : Socket Endpoint}
    (hFitted : Fitted s)
    (hShape : t.shape = s.shape) :
    Fitted t := by
  have hRoom := congrArg Shape.outputRoom hShape
  have hLimit :=
    congrArg (·.framing.maxPacketSize.toNat) hShape
  simp only [shape] at hRoom hLimit
  rcases hFitted with ⟨hFits, hMost⟩
  constructor
  · rw [hRoom, hFits, maxPacketSize, maxPacketSize, hLimit]
  · rw [maxPacketSize, hLimit]
    exact hMost

/- A frame on an idle output is taken back. -/
theorem sendFrame_of_isMute
    (hMute : s.transport.IsMute)
    (hIdle : s.pendingOutput = 0)
    {payload : Bytes}
    (hRoom :
      (Frame.bytes payload).length ≤ s.output.capacity)
    (host : Host Network) :
    let r :=
      s.sendFrame (Frame.prefixBytes payload.length) payload
        host
    r.result = .error .unconnected ∧
      r.socket.output.filled = [] ∧
      Report.measures r.reports = [] := by
  intro r
  let queued : Socket Endpoint :=
    { s with
      output :=
        (s.output.append
          (Frame.prefixBytes payload.length)).append
            payload }
  have hQueued : queued.output.filled = Frame.bytes payload :=
    Buffer.filled_frame (filled_output_eq_nil_iff.mpr hIdle)
      hRoom
  have hBusy : ¬ queued.pendingOutput = 0 := by
    rw [← filled_output_eq_nil_iff, hQueued]
    exact List.cons_ne_nil _ _
  have hFlush := flush_of_isMute (s := queued) hMute host
  rw [if_neg hBusy] at hFlush
  have hSent :
      r = discard (queued.flush host) .unconnected := by
    change s.sendFrame _ payload host = _
    unfold sendFrame
    dsimp only
    rw [hFlush]
  rw [hSent, hFlush]
  exact ⟨rfl, Buffer.filled_clear _, rfl⟩

/- A packet is too large, taken back or shed. -/
theorem refused_send
    (hMute : s.transport.IsMute)
    (hFitted : Fitted s)
    (payload : Bytes)
    (host : Host Network) :
    Refused s payload (s.send payload host) := by
  unfold send
  split
  · rename_i e hRefused
    unfold Frame.encodePrefix at hRefused
    split at hRefused
    · rename_i hLarge
      have hLess := Frame.maxPayload_le_maxAnnounced
      have hLimit := hFitted.limit
      cases hRefused
      exact .tooLarge (by omega) rfl rfl rfl
    · cases hRefused
  · rename_i front hFront
    rcases Frame.encodePrefix_eq_ok_iff.mp hFront with
      ⟨hFits, hAnnounced, rfl⟩
    split
    · rename_i hEmpty
      have hIdle : s.pendingOutput = 0 := beq_iff_eq.mp hEmpty
      have hRoom :
          (Frame.bytes payload).length ≤
            s.output.capacity := by
        rw [Frame.length_bytes, hFitted.room]
        omega
      rcases sendFrame_of_isMute hMute hIdle hRoom host with
        ⟨hResult, hOutput, hMeasured⟩
      refine .returned hFits hIdle hResult ?_ hMeasured
      rw [hOutput, filled_output_eq_nil_iff.mpr hIdle]
    · rename_i hBusy
      refine .shed hFits ?_ rfl rfl rfl
      intro hIdle
      exact hBusy (beq_iff_eq.mpr hIdle)

variable {payload : Bytes}
variable {r : Reply Endpoint Network (Except SocketError Nat)}

/- A packet that fits is taken back or shed. -/
theorem Refused.of_fits
    (hRefused : Refused s payload r)
    (hFits : payload.length ≤ s.maxPacketSize) :
    if s.pendingOutput = 0 then
      r.result = .error .unconnected ∧
        Report.measures r.reports = []
    else
      r.result = .ok payload.length ∧
        Report.measures r.reports = [.packetDropped] := by
  cases hRefused with
  | tooLarge hLarge => omega
  | returned hFits hIdle hResult hOutput hMeasured =>
      rw [if_pos hIdle]
      exact ⟨hResult, hMeasured⟩
  | shed hFits hBusy hResult hOutput hMeasured =>
      rw [if_neg hBusy]
      exact ⟨hResult, hMeasured⟩

/- Only a packet that is shed is acknowledged. -/
theorem Refused.of_ok
    (hRefused : Refused s payload r)
    {n : Nat}
    (hOk : r.result = .ok n) :
    s.pendingOutput ≠ 0 ∧
      payload.length ≤ s.maxPacketSize ∧
      n = payload.length := by
  cases hRefused with
  | tooLarge hLarge hResult =>
      rw [hResult] at hOk
      cases hOk
  | returned hFits hIdle hResult =>
      rw [hResult] at hOk
      cases hOk
  | shed hFits hBusy hResult =>
      rw [hResult] at hOk
      exact ⟨hBusy, hFits, (Except.ok.inj hOk).symm⟩

/- No packet is counted as sent. -/
theorem Refused.countP_isSent
    (hRefused : Refused s payload r) :
    (Report.measures r.reports).countP Measure.isSent = 0 := by
  cases hRefused with
  | tooLarge hLarge hResult hOutput hMeasured =>
      rw [hMeasured]
      rfl
  | returned hFits hIdle hResult hOutput hMeasured =>
      rw [hMeasured]
      rfl
  | shed hFits hBusy hResult hOutput hMeasured =>
      rw [hMeasured]
      rfl

/- No packet is left in the output. -/
theorem Refused.output
    (hRefused : Refused s payload r) :
    r.socket.output.filled = s.output.filled := by
  cases hRefused with
  | tooLarge hLarge hResult hOutput => exact hOutput
  | returned hFits hIdle hResult hOutput => exact hOutput
  | shed hFits hBusy hResult hOutput => exact hOutput

/- A packet is refused, or is meant for another peer. -/
theorem refused_sendTo
    (hMute : s.transport.IsMute)
    (hFitted : Fitted s)
    (payload : Bytes)
    (address : Address)
    (host : Host Network) :
    (s.transport.peer = some address ∧
        Refused s payload (s.sendTo payload address host)) ∨
      s.sendTo payload address host =
        { result := .error (.notConnected address)
          socket := s.setError .notConnected
          host
          reports := [.line .wrongPeer] } := by
  unfold sendTo
  split
  · rename_i hPeer
    exact .inl
      ⟨hPeer, refused_send hMute hFitted payload host⟩
  · exact .inr rfl

------------------------------------------------------------
-- All Calls
------------------------------------------------------------

/- Raw bytes join the output, if there is room for them. -/
theorem sendRaw_of_isMute
    (hMute : s.transport.IsMute)
    (data : Bytes)
    (host : Host Network) :
    (data.length ≤ s.output.remaining ∧
        (s.sendRaw data host).result =
          (if s.output.filled ++ data = [] then
            .ok 0
          else
            .error .unconnected) ∧
        (s.sendRaw data host).socket.output.filled =
          s.output.filled ++ data) ∨
      ¬ data.length ≤ s.output.remaining ∧
        (s.sendRaw data host).result =
          .error (.messageTooLarge data.length) ∧
        (s.sendRaw data host).socket.output.filled =
          s.output.filled := by
  unfold sendRaw
  split
  · rename_i hFull
    refine .inr ⟨?_, rfl, rfl⟩
    intro hRoom
    have hSome :=
      Buffer.append?_eq_some_iff.mpr
        ⟨hRoom, (rfl : s.output.fill data = _)⟩
    rw [hFull] at hSome
    cases hSome
  · rename_i queued hSome
    let joined : Socket Endpoint := { s with output := queued }
    have hFilled :
        joined.output.filled = s.output.filled ++ data :=
      Buffer.filled_append? hSome
    have hFlush := flush_of_isMute (s := joined) hMute host
    have hNothing := filled_output_eq_nil_iff (s := joined)
    rw [hFilled] at hNothing
    refine .inl
      ⟨(Buffer.append?_eq_some_iff.mp hSome).1, ?_, ?_⟩
    · change (joined.flush host).result = _
      rw [hFlush]
      by_cases hIdle : joined.pendingOutput = 0
      · rw [if_pos hIdle, if_pos (hNothing.mpr hIdle)]
      · rw [if_neg hIdle,
          if_neg (fun hNil => hIdle (hNothing.mp hNil))]
    · change (joined.flush host).socket.output.filled = _
      rw [hFlush, ← hFilled]
      split
      · rfl
      · rfl

namespace Operation

/- The operation is to send a payload to the peer. -/
def IsFor
    (s : Socket Endpoint)
    (payload : Bytes)
    (operation : Operation) : Prop :=
  operation = .send payload ∨
    ∃ address,
      s.transport.peer = some address ∧
        operation = .sendTo payload address

end Operation

/- A packet for the peer is refused. -/
theorem refused_perform
    (hMute : s.transport.IsMute)
    (hFitted : Fitted s)
    {payload : Bytes}
    {operation : Operation}
    (hFor : operation.IsFor s payload)
    (host : Host Network) :
    ∃ r,
      s.perform operation host = resulting .count r ∧
        Refused s payload r := by
  rcases hFor with rfl | ⟨address, hPeer, rfl⟩
  · exact ⟨_, rfl, refused_send hMute hFitted payload host⟩
  · refine ⟨s.send payload host, ?_,
      refused_send hMute hFitted payload host⟩
    have hRemote :
        Transport.remoteAddress s.transport = some address :=
      hPeer
    unfold perform sendTo
    dsimp only
    rw [if_pos hRemote]

/-
  A call succeeds where there is nothing to write, or tells
  the length of a packet that is shed.
-/
theorem eq_of_count_ok
    (hMute : s.transport.IsMute)
    (hFitted : Fitted s)
    {operation : Operation}
    {host : Host Network}
    {n : Nat}
    (hOk :
      (s.perform operation host).result = .count (.ok n)) :
    (s.pendingOutput = 0 ∧ n = 0 ∧
        (operation = .flush ∨ operation = .sendRaw [])) ∨
      s.pendingOutput ≠ 0 ∧
        ∃ payload,
          payload.length ≤ s.maxPacketSize ∧
            operation.IsFor s payload ∧
            n = payload.length := by
  cases operation with
  | send payload =>
      have hShed :=
        (refused_send hMute hFitted payload host).of_ok
          (Result.count.inj hOk)
      exact .inr
        ⟨hShed.1, payload, hShed.2.1, .inl rfl, hShed.2.2⟩
  | sendTo payload address =>
      have hSent := Result.count.inj hOk
      rcases refused_sendTo hMute hFitted payload address
          host with
        ⟨hPeer, hRefused⟩ | hOther
      · have hShed := hRefused.of_ok hSent
        exact .inr
          ⟨hShed.1, payload, hShed.2.1,
            .inr ⟨address, hPeer, rfl⟩, hShed.2.2⟩
      · rw [hOther] at hSent
        cases hSent
  | sendRaw data =>
      have hSent := Result.count.inj hOk
      rcases sendRaw_of_isMute hMute data host with
        ⟨hRoom, hResult, hOutput⟩ | ⟨hRoom, hResult, hOutput⟩
      · rw [hResult] at hSent
        split at hSent
        · rename_i hNothing
          rcases List.append_eq_nil_iff.mp hNothing with
            ⟨hIdle, rfl⟩
          exact .inl
            ⟨filled_output_eq_nil_iff.mp hIdle,
              (Except.ok.inj hSent).symm, .inr rfl⟩
        · cases hSent
      · rw [hResult] at hSent
        cases hSent
  | flush =>
      have hSent := Result.count.inj hOk
      rw [flush_of_isMute hMute] at hSent
      split at hSent
      · rename_i hIdle
        exact .inl
          ⟨hIdle, (Except.ok.inj hSent).symm, .inl rfl⟩
      · cases hSent
  | notify | poll | drain => cases hOk

/- Over a mute stream no packet is counted as sent. -/
theorem countP_isSent_of_isMute
    (hMute : s.transport.IsMute)
    (hFitted : Fitted s)
    (hListener : s.listener = false)
    (operation : Operation)
    (host : Host Network) :
    (Report.measures
        (s.perform operation host).reports).countP
      Measure.isSent = 0 := by
  cases operation with
  | send payload =>
      exact
        (refused_send hMute hFitted payload
          host).countP_isSent
  | sendTo payload address =>
      rcases refused_sendTo hMute hFitted payload address
          host with
        ⟨_, hRefused⟩ | hOther
      · exact hRefused.countP_isSent
      · change
          (Report.measures
            (s.sendTo payload address host).reports).countP
              _ = _
        rw [hOther]
        rfl
  | sendRaw | flush | poll | drain | notify =>
      exact
        countP_isSent_of_payload?_eq_none hListener rfl host

end Socket

------------------------------------------------------------
-- Closed Connections
------------------------------------------------------------

namespace Origin

/- A socket is fitted all its life. -/
theorem fitted_live
    (origin : Origin Endpoint Network)
    (moments : List (Moment Endpoint Network)) :
    Socket.Fitted (origin.live moments).socket := by
  constructor
  · rw [maxPacketSize_live]
    exact
      congrArg Socket.Shape.outputRoom
        (shape_live origin moments)
  · rw [maxPacketSize_live]
    exact Nat.min_le_right _ _

/-
  Whatever has happened to a connection whose endpoint is
  closed by now: a packet for the peer fails if nothing waits
  in the output, and is else shed and counted as dropped.  No
  other call succeeds unless there is nothing to write, and
  none counts a packet as sent.
-/
theorem calls_of_closed
    {origin : Origin Endpoint Network}
    (hListener : origin.listener = false)
    {moments : List (Moment Endpoint Network)}
    (hClosed :
      (origin.live moments).socket.transport.closed = true) :
    let s := (origin.live moments).socket
    let host := (origin.live moments).host
    (∀ payload operation,
        payload.length ≤ s.maxPacketSize →
        operation.IsFor s payload →
        let r := s.perform operation host
        if s.pendingOutput = 0 then
          r.result = .count (.error .unconnected) ∧
            Report.measures r.reports = []
        else
          r.result = .count (.ok payload.length) ∧
            Report.measures r.reports = [.packetDropped]) ∧
      (∀ operation n,
        (s.perform operation host).result =
          .count (.ok n) →
        (s.pendingOutput = 0 ∧ n = 0 ∧
            (operation = .flush ∨
              operation = .sendRaw [])) ∨
          s.pendingOutput ≠ 0 ∧
            ∃ payload,
              payload.length ≤ s.maxPacketSize ∧
                operation.IsFor s payload ∧
                n = payload.length) ∧
      ∀ operation,
        (Report.measures
            (s.perform operation host).reports).countP
          Measure.isSent = 0 := by
  intro s host
  have hMute : s.transport.IsMute := .inl hClosed
  have hFitted := fitted_live origin moments
  have hReads : s.listener = false :=
    (listener_live origin moments).trans hListener
  refine ⟨?_, ?_, ?_⟩
  · intro payload operation hFits hFor r
    rcases Socket.refused_perform hMute hFitted hFor host with
      ⟨reply, hReply, hRefused⟩
    have hEither := hRefused.of_fits hFits
    have hResult : r.result = .count reply.result :=
      congrArg Reply.result hReply
    have hReports : r.reports = reply.reports :=
      congrArg Reply.reports hReply
    rw [hResult, hReports]
    split
    · rename_i hIdle
      rw [if_pos hIdle] at hEither
      exact ⟨congrArg _ hEither.1, hEither.2⟩
    · rename_i hBusy
      rw [if_neg hBusy] at hEither
      exact ⟨congrArg _ hEither.1, hEither.2⟩
  · intro operation n hOk
    exact Socket.eq_of_count_ok hMute hFitted hOk
  · intro operation
    exact
      Socket.countP_isSent_of_isMute hMute hFitted hReads
        operation host

/- A sender in memory of packets of four bytes at most. -/
def pairedSender : Origin Endpoint Network :=
  let ends :=
    Network.pair {} (.loopback 40001) (.loopback 40002)
  { transport := ends.1.1
    framing := { maxPacketSize := 4 }
    host := { world := ends.2 } }

/- A packet is sent as a whole, and then the stream closes. -/
def sentThenClosed : List (Moment Endpoint Network) :=
  [.operate (.send [7]), .handle .close]

/- A packet for the peer fails after that. -/
theorem calls_of_closed_idle :
    pairedSender.listener = false ∧
      (pairedSender.live
          sentThenClosed).socket.transport.closed = true ∧
      ((pairedSender.live sentThenClosed).socket.perform
            (.sendTo [8] (.loopback 40002))
            (pairedSender.live sentThenClosed).host).result =
        .count (.error .unconnected) := by
  have hListener : pairedSender.listener = false := rfl
  have hClosed :
      (pairedSender.live
          sentThenClosed).socket.transport.closed = true := by
    decide +kernel
  have hIdle :
      (pairedSender.live
          sentThenClosed).socket.pendingOutput = 0 := by
    decide +kernel
  have hFits :
      [8].length ≤
        (pairedSender.live
          sentThenClosed).socket.maxPacketSize := by
    decide +kernel
  have hPeer :
      (pairedSender.live
          sentThenClosed).socket.transport.peer =
        some (.loopback 40002) := by
    decide +kernel
  have hSent :=
    (calls_of_closed hListener hClosed).1 [8]
      (.sendTo [8] (.loopback 40002)) hFits
      (.inr ⟨_, hPeer, rfl⟩)
  rw [if_pos hIdle] at hSent
  exact ⟨hListener, hClosed, hSent.1⟩

/- A frame is torn by a narrow window before the close. -/
def tornThenClosed : List (Moment Endpoint Network) :=
  [.handle (.setWindow (some 1)), .operate (.send [7]),
    .handle .close]

/- A packet that is shed behind it is acknowledged. -/
theorem send_ok_of_closed :
    pairedSender.listener = false ∧
      (pairedSender.live
          tornThenClosed).socket.transport.closed = true ∧
      [8].length ≤
        (pairedSender.live
          tornThenClosed).socket.maxPacketSize ∧
      ((pairedSender.live tornThenClosed).socket.send [8]
          (pairedSender.live tornThenClosed).host).result =
        .ok 1 := by
  refine ⟨rfl, ?_, ?_, ?_⟩
  · decide +kernel
  · decide +kernel
  · rfl

end Origin

end FrameLink
