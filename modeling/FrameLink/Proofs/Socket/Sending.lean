import FrameLink.Proofs.Frame.Format
import FrameLink.Proofs.Socket.Shape
import FrameLink.Proofs.Transport.Journal

/-
  What a socket puts on its stream.

  Everything that a socket has accepted is either written or
  waits in its output, in order and with nothing else: frames
  as a whole and raw bytes as they are.  A packet that is
  shed, refused or taken back leaves no trace.

  A flush moves bytes from the output to the stream.  A frame
  enters an empty output and is taken back unless some of it
  is written at once, and raw bytes enter behind what is
  there.  No other operation touches output or stream, so
  each adds what it accepts (`Socket.balance_perform`).

  Key definitions include:
    * `Socket.progress`, `Socket.Sent`
    * `Socket.begunFrame`, `Socket.accepted`
    * `Socket.InFlight`
-/

namespace FrameLink

/- A frame that fits an empty buffer is put there whole. -/
theorem Buffer.filled_frame
    {b : Buffer}
    {payload : Bytes}
    (hIdle : b.filled = [])
    (hRoom : (Frame.bytes payload).length ≤ b.capacity) :
    ((b.append (Frame.prefixBytes payload.length)).append
        payload).filled =
      Frame.bytes payload := by
  have hRemaining :
      (Frame.bytes payload).length ≤ b.remaining := by
    have hAll := size_add_remaining b
    rw [← length_filled, hIdle, List.length_nil] at hAll
    omega
  rw [filled_append_append hRemaining, hIdle]
  rfl

namespace Socket

variable {τ ω : Type} [Transport τ ω]

------------------------------------------------------------
-- Flushing
------------------------------------------------------------

/- Nothing waits exactly where the view is empty. -/
theorem filled_output_eq_nil_iff
    {s : Socket τ} :
    s.output.filled = [] ↔ s.pendingOutput = 0 := by
  rw [← List.length_eq_zero_iff, Buffer.length_filled,
    pendingOutput]

/- How many bytes a flush has moved, by its result. -/
def progress : Except SocketError Nat → Nat
  | .ok n => n
  | .error _ => 0

/- A flush drops from the output what it has moved. -/
theorem filled_output_flush
    (s : Socket τ)
    (host : Host ω) :
    (s.flush host).socket.output.filled =
      s.output.filled.drop
        (progress (s.flush host).result) := by
  unfold flush
  split
  · rfl
  · dsimp only
    split
    · rfl
    · split
      · rfl
      · split
        · rfl
        · exact Buffer.filled_consume _ _

/- A flush never complains of the size of a packet. -/
theorem flush_result_ne
    (s : Socket τ)
    (host : Host ω)
    (size : Nat) :
    (s.flush host).result ≠ .error (.messageTooLarge size) := by
  unfold flush
  split
  · simp
  · dsimp only
    split
    · simp
    · split
      · simp
      · split
        · simp
        · simp

/-
  A flush writes what it has moved.  A stream that claims
  more than was offered would have the flush fail and still
  report bytes as taken, hence the hypothesis.
-/
theorem written_flush
    (hWithin : Transport.SendsWithin τ)
    (s : Socket (Journaled τ))
    (host : Host ω) :
    (s.flush host).socket.transport.written =
      s.transport.written ++
        s.output.filled.take
          (progress (s.flush host).result) := by
  have hClaim :=
    Journaled.sendsWithin hWithin s.transport
      s.output.filled host.world
  unfold flush
  split
  · simp [progress]
  · dsimp only
    have hWritten :=
      Journaled.written_send s.transport s.output.filled
        host.world
    split
    · rename_i e hResult
      simp [hWritten, hResult, Exchange.taken, progress]
    · rename_i n hResult
      have hOffered := hClaim n hResult
      rw [Buffer.length_filled] at hOffered
      split
      · rename_i hZero
        simp [hWritten, hResult, Exchange.taken, progress,
          hZero]
      · split
        · omega
        · simp [hWritten, hResult, Exchange.taken, progress]

/- A flush moves bytes and loses none. -/
theorem written_append_flush
    (hWithin : Transport.SendsWithin τ)
    (s : Socket (Journaled τ))
    (host : Host ω) :
    (s.flush host).socket.transport.written ++
        (s.flush host).socket.output.filled =
      s.transport.written ++ s.output.filled := by
  rw [written_flush hWithin, filled_output_flush,
    List.append_assoc, List.take_append_drop]

------------------------------------------------------------
-- Packets
------------------------------------------------------------

/- What sending a packet can come to. -/
inductive Sent
    (s : Socket (Journaled τ))
    (payload : Bytes)
    (r : Reply (Journaled τ) ω (Except SocketError Nat)) :
    Prop where
  /- Some of the frame is written and the rest waits. -/
  | begun
      (n : Nat)
      (hSome : 0 < n)
      (hIdle : s.output.filled = [])
      (hResult : r.result = .ok payload.length)
      (hOutput :
        r.socket.output.filled =
          (Frame.bytes payload).drop n)
      (hWritten :
        r.socket.transport.written =
          s.transport.written ++
            (Frame.bytes payload).take n)
      (hMeasured :
        Report.measures r.reports =
          [.packetSent (UInt64.ofNat payload.length)])
  /- Something else waits and the packet is dropped. -/
  | shed
      (hBusy : s.output.filled ≠ [])
      (hResult : r.result = .ok payload.length)
      (hOutput :
        r.socket.output.filled = s.output.filled)
      (hWritten :
        r.socket.transport.written = s.transport.written)
      (hMeasured :
        Report.measures r.reports = [.packetDropped])
  /- Nothing of the packet is left. -/
  | failed
      (e : SocketError)
      (hResult : r.result = .error e)
      (hOutput :
        r.socket.output.filled = s.output.filled)
      (hWritten :
        r.socket.transport.written = s.transport.written)
      (hMeasured : Report.measures r.reports = [])

/- A frame that fits an idle output is begun or taken back. -/
theorem sent_sendFrame
    (hWithin : Transport.SendsWithin τ)
    {s : Socket (Journaled τ)}
    {payload : Bytes}
    (hIdle : s.output.filled = [])
    (hRoom :
      (Frame.bytes payload).length ≤ s.output.capacity)
    (host : Host ω) :
    Sent s payload
      (s.sendFrame (Frame.prefixBytes payload.length) payload
        host) := by
  let queued : Socket (Journaled τ) :=
    { s with
      output :=
        (s.output.append
          (Frame.prefixBytes payload.length)).append
            payload }
  have hQueued : queued.output.filled = Frame.bytes payload :=
    Buffer.filled_frame hIdle hRoom
  have hOutput := filled_output_flush queued host
  have hWritten := written_flush hWithin queued host
  rw [hQueued] at hOutput hWritten
  have hMeasured := measures_flush queued host
  unfold sendFrame
  dsimp only
  split
  · rename_i e hResult
    have hNothing : progress (queued.flush host).result = 0 := by
      rw [hResult]
      rfl
    rw [hNothing, List.take_zero, List.append_nil] at hWritten
    exact .failed e rfl
      ((Buffer.filled_clear _).trans hIdle.symm) hWritten
      hMeasured
  · rename_i n hResult
    have hSome : progress (queued.flush host).result = n := by
      rw [hResult]
      rfl
    rw [hSome] at hOutput hWritten
    split
    · rename_i hZero
      rw [hZero, List.take_zero, List.append_nil] at hWritten
      exact .failed nothingWritten rfl
        ((Buffer.filled_clear _).trans hIdle.symm) hWritten
        hMeasured
    · rename_i hPositive
      refine .begun n (Nat.pos_of_ne_zero hPositive) hIdle rfl
        hOutput hWritten ?_
      rw [Report.measures_append, Report.measures_append]
      change
        Report.measures (queued.flush host).reports ++ _ ++
          _ = _
      rw [hMeasured]
      split
      · rfl
      · rfl

/- A packet is begun, shed or refused. -/
theorem sent_send
    (hWithin : Transport.SendsWithin τ)
    {s : Socket (Journaled τ)}
    (hRoom :
      s.output.capacity = s.maxPacketSize + Frame.prefixSize)
    (payload : Bytes)
    (host : Host ω) :
    Sent s payload (s.send payload host) := by
  unfold send
  split
  · rename_i e hRefused
    exact .failed e rfl rfl rfl rfl
  · rename_i front hFront
    rcases Frame.encodePrefix_eq_ok_iff.mp hFront with
      ⟨hLimit, hAnnounced, rfl⟩
    split
    · rename_i hEmpty
      apply sent_sendFrame hWithin
        (Buffer.isEmpty_iff.mp hEmpty)
      rw [Frame.length_bytes]
      omega
    · rename_i hBusy
      exact .shed
        (fun hIdle => hBusy (Buffer.isEmpty_iff.mpr hIdle))
        rfl rfl rfl rfl

/- A packet for another peer is refused. -/
theorem sent_sendTo
    (hWithin : Transport.SendsWithin τ)
    {s : Socket (Journaled τ)}
    (hRoom :
      s.output.capacity = s.maxPacketSize + Frame.prefixSize)
    (payload : Bytes)
    (address : Address)
    (host : Host ω) :
    Sent s payload (s.sendTo payload address host) := by
  unfold sendTo
  split
  · exact sent_send hWithin hRoom payload host
  · exact .failed (.notConnected address) rfl rfl rfl rfl

------------------------------------------------------------
-- Other Operations
------------------------------------------------------------

/- The operation sends nothing and flushes nothing. -/
def Operation.IsQuiet : Operation → Prop
  | .poll => True
  | .drain => True
  | .notify .writable => False
  | .notify _ => True
  | _ => False

/- What sends nothing leaves the output as it is. -/
theorem output_perform_of_isQuiet
    (s : Socket τ)
    {operation : Operation}
    (hQuiet : operation.IsQuiet)
    (host : Host ω) :
    (s.perform operation host).socket.output = s.output := by
  cases operation with
  | send | sendTo | sendRaw | flush => cases hQuiet
  | poll =>
      unfold perform poll
      dsimp only
      split
      · rfl
      · rfl
  | drain => rfl
  | notify notification =>
      cases notification with
      | connected => rfl
      | writable => cases hQuiet
      | readable =>
          unfold perform handle onReadable
          dsimp only [resulting]
          split
          · rcases acceptConnection_reach s host with
              ⟨events, hAccept⟩
            rw [hAccept]
          · rcases readInput_reach s host with
              ⟨transport, closed, events, input, hRead⟩
            rw [hRead]
      | closed code =>
          rcases announceClose_reach s code with
            ⟨closed, events, hClose⟩
          simp only [perform, resulting, handle, hClose]

/- What sends nothing leaves no bytes on the stream. -/
theorem written_perform_of_isQuiet
    (s : Socket (Journaled τ))
    {operation : Operation}
    (hQuiet : operation.IsQuiet)
    (host : Host ω) :
    (s.perform operation host).socket.transport.written =
      s.transport.written := by
  cases operation with
  | send | sendTo | sendRaw | flush => cases hQuiet
  | poll =>
      unfold perform poll
      dsimp only
      split
      · rfl
      · rfl
  | drain => rfl
  | notify notification =>
      cases notification with
      | connected => rfl
      | writable => cases hQuiet
      | readable =>
          unfold perform handle onReadable
          dsimp only [resulting]
          split
          · rcases acceptConnection_reach s host with
              ⟨events, hAccept⟩
            rw [hAccept]
            rfl
          · apply readInput_keeps
              (P := fun (j : Journaled τ) (_ : ω) =>
                j.written = s.transport.written)
            · intro j room w hHolds
              exact
                (Journaled.written_receive j room w).trans
                  hHolds
            · intro j w hHolds
              exact hHolds
            · intro j code w hHolds
              exact hHolds
            · rfl
      | closed code =>
          rcases announceClose_reach s code with
            ⟨closed, events, hClose⟩
          simp only [perform, resulting, handle, hClose]

------------------------------------------------------------
-- Acceptance
------------------------------------------------------------

/-
  The frame of a payload, if its sending met an empty output
  and at least one byte was written in the course of it.
-/
def begunFrame
    (before after : Socket (Journaled τ))
    (payload : Bytes) : List Bytes :=
  if before.pendingOutput = 0 ∧
      before.transport.written.length <
        after.transport.written.length then
    [Frame.bytes payload]
  else
    []

/-
  What an operation adds to what the socket owes its stream.
  Raw bytes are taken on unless there is no room for them.
-/
def accepted
    (s : Socket (Journaled τ))
    (operation : Operation)
    (host : Host ω) : List Bytes :=
  let after := (s.perform operation host).socket
  match operation with
  | .send payload => begunFrame s after payload
  | .sendTo payload _ => begunFrame s after payload
  | .sendRaw data =>
      match (s.sendRaw data host).result with
      | .error (.messageTooLarge _) => []
      | _ => [data]
  | _ => []

omit [Transport τ ω] in
/- A packet is begun exactly where its frame is counted. -/
theorem Sent.begunFrame_eq
    {s : Socket (Journaled τ)}
    {payload : Bytes}
    {r : Reply (Journaled τ) ω (Except SocketError Nat)}
    (hSent : Sent s payload r) :
    begunFrame s r.socket payload =
      if s.pendingOutput = 0 ∧ r.result.isOk = true then
        [Frame.bytes payload]
      else
        [] := by
  unfold begunFrame
  cases hSent with
  | begun n hSome hIdle hResult hOutput hWritten =>
      have hSize : s.pendingOutput = 0 :=
        filled_output_eq_nil_iff.mp hIdle
      have hGrown :
          s.transport.written.length <
            r.socket.transport.written.length := by
        rw [hWritten, List.length_append, List.length_take,
          Frame.length_bytes, Frame.prefixSize]
        omega
      rw [if_pos ⟨hSize, hGrown⟩, if_pos ⟨hSize, by
        rw [hResult]
        rfl⟩]
  | shed hBusy hResult hOutput hWritten =>
      have hSize : s.pendingOutput ≠ 0 :=
        fun hZero => hBusy (filled_output_eq_nil_iff.mpr hZero)
      rw [if_neg (fun h => hSize h.1),
        if_neg (fun h => hSize h.1)]
  | failed e hResult hOutput hWritten =>
      rw [hWritten, hResult, if_neg (by omega),
        if_neg (fun h => by cases h.2)]

omit [Transport τ ω] in
/- What is begun is all that sending a packet leaves. -/
theorem Sent.balance
    {s : Socket (Journaled τ)}
    {payload : Bytes}
    {r : Reply (Journaled τ) ω (Except SocketError Nat)}
    (hSent : Sent s payload r) :
    r.socket.transport.written ++ r.socket.output.filled =
      s.transport.written ++ s.output.filled ++
        (begunFrame s r.socket payload).flatten := by
  rw [hSent.begunFrame_eq]
  cases hSent with
  | begun n hSome hIdle hResult hOutput hWritten =>
      have hSize : s.pendingOutput = 0 :=
        filled_output_eq_nil_iff.mp hIdle
      rw [hResult, if_pos ⟨hSize, rfl⟩, hWritten, hOutput,
        hIdle, List.append_assoc, List.take_append_drop,
        List.append_nil, List.flatten_cons, List.flatten_nil,
        List.append_nil]
  | shed hBusy hResult hOutput hWritten =>
      have hSize : s.pendingOutput ≠ 0 :=
        fun hZero => hBusy (filled_output_eq_nil_iff.mpr hZero)
      rw [if_neg (fun h => hSize h.1), hOutput, hWritten,
        List.flatten_nil, List.append_nil]
  | failed e hResult hOutput hWritten =>
      rw [hResult, if_neg (fun h => by cases h.2), hOutput,
        hWritten, List.flatten_nil, List.append_nil]

/- Raw bytes that are taken on are written or wait. -/
theorem balance_sendRaw
    (hWithin : Transport.SendsWithin τ)
    (s : Socket (Journaled τ))
    (data : Bytes)
    (host : Host ω) :
    (s.sendRaw data host).socket.transport.written ++
        (s.sendRaw data host).socket.output.filled =
      s.transport.written ++ s.output.filled ++
        (s.accepted (.sendRaw data) host).flatten := by
  unfold accepted sendRaw
  dsimp only
  split
  · exact (List.append_nil _).symm
  · rename_i queued hRoom
    have hFlush :=
      written_append_flush hWithin
        { s with output := queued } host
    have hNamed :=
      flush_result_ne { s with output := queued } host
    split
    · rename_i size hTooLarge
      exact absurd hTooLarge (hNamed size)
    · rw [Buffer.filled_append? hRoom, ← List.append_assoc]
        at hFlush
      rw [List.flatten_cons, List.flatten_nil,
        List.append_nil]
      exact hFlush

/- Every operation keeps the balance. -/
theorem balance_perform
    (hWithin : Transport.SendsWithin τ)
    {s : Socket (Journaled τ)}
    (hRoom :
      s.output.capacity = s.maxPacketSize + Frame.prefixSize)
    (operation : Operation)
    (host : Host ω) :
    (s.perform operation host).socket.transport.written ++
        (s.perform operation host).socket.output.filled =
      s.transport.written ++ s.output.filled ++
        (s.accepted operation host).flatten := by
  have hQuiet :
      operation.IsQuiet →
        s.accepted operation host = [] →
        (s.perform operation host).socket.transport.written ++
            (s.perform operation host).socket.output.filled =
          s.transport.written ++ s.output.filled ++
            (s.accepted operation host).flatten := by
    intro hQuiet hNone
    rw [written_perform_of_isQuiet s hQuiet,
      output_perform_of_isQuiet s hQuiet, hNone,
      List.flatten_nil, List.append_nil]
  cases operation with
  | send payload =>
      exact (sent_send hWithin hRoom payload host).balance
  | sendTo payload address =>
      exact
        (sent_sendTo hWithin hRoom payload address
          host).balance
  | sendRaw data => exact balance_sendRaw hWithin s data host
  | flush =>
      exact
        (written_append_flush hWithin s host).trans
          (List.append_nil _).symm
  | poll => exact hQuiet trivial rfl
  | drain => exact hQuiet trivial rfl
  | notify notification =>
      cases notification with
      | connected => exact hQuiet trivial rfl
      | readable => exact hQuiet trivial rfl
      | closed code => exact hQuiet trivial rfl
      | writable =>
          have hFlush := written_append_flush hWithin s host
          unfold perform handle onWritable accepted
          dsimp only [resulting]
          rw [List.flatten_nil, List.append_nil]
          split
          · rfl
          · exact hFlush

/-
  Nothing waits, or what waits ends the item accepted last
  and is not all of it.
-/
def InFlight (items : List Bytes) (waiting : Bytes) : Prop :=
  waiting = [] ∨
    ∃ frame,
      items.getLast? = some frame ∧
        waiting <:+ frame ∧
        waiting.length < frame.length

/- What is written first is not in flight any longer. -/
theorem InFlight.drop
    {items : List Bytes}
    {waiting : Bytes}
    (hInFlight : InFlight items waiting)
    (n : Nat) :
    InFlight items (waiting.drop n) := by
  rcases hInFlight with rfl | ⟨frame, hLast, hEnd, hPart⟩
  · exact .inl List.drop_nil
  · refine .inr
      ⟨frame, hLast, (List.drop_suffix n _).trans hEnd, ?_⟩
    rw [List.length_drop]
    omega

omit [Transport τ ω] in
/- A packet waits only behind its own beginning. -/
theorem Sent.inFlight
    {s : Socket (Journaled τ)}
    {payload : Bytes}
    {r : Reply (Journaled τ) ω (Except SocketError Nat)}
    (hSent : Sent s payload r)
    {items : List Bytes}
    (hInFlight : InFlight items s.output.filled) :
    InFlight (items ++ begunFrame s r.socket payload)
      r.socket.output.filled := by
  rw [hSent.begunFrame_eq]
  cases hSent with
  | begun n hSome hIdle hResult hOutput hWritten =>
      have hSize : s.pendingOutput = 0 :=
        filled_output_eq_nil_iff.mp hIdle
      rw [hResult, if_pos ⟨hSize, rfl⟩, hOutput]
      refine .inr
        ⟨Frame.bytes payload, List.getLast?_concat,
          List.drop_suffix _ _, ?_⟩
      rw [List.length_drop, Frame.length_bytes,
        Frame.prefixSize]
      omega
  | shed hBusy hResult hOutput hWritten =>
      have hSize : s.pendingOutput ≠ 0 :=
        fun hZero => hBusy (filled_output_eq_nil_iff.mpr hZero)
      rw [if_neg (fun h => hSize h.1), hOutput,
        List.append_nil]
      exact hInFlight
  | failed e hResult hOutput hWritten =>
      rw [hResult, if_neg (fun h => by cases h.2), hOutput,
        List.append_nil]
      exact hInFlight

/- Without raw bytes one frame at most is in flight. -/
theorem inFlight_perform
    (hWithin : Transport.SendsWithin τ)
    {s : Socket (Journaled τ)}
    (hRoom :
      s.output.capacity = s.maxPacketSize + Frame.prefixSize)
    {operation : Operation}
    (hFramed : ∀ data, operation ≠ .sendRaw data)
    (host : Host ω)
    {items : List Bytes}
    (hInFlight : InFlight items s.output.filled) :
    InFlight (items ++ s.accepted operation host)
      (s.perform operation host).socket.output.filled := by
  have hQuiet :
      operation.IsQuiet →
        InFlight (items ++ [])
          (s.perform operation host).socket.output.filled := by
    intro hQuiet
    rw [output_perform_of_isQuiet s hQuiet, List.append_nil]
    exact hInFlight
  have hFlush :
      InFlight (items ++ [])
        (s.flush host).socket.output.filled := by
    rw [filled_output_flush, List.append_nil]
    exact hInFlight.drop _
  cases operation with
  | send payload =>
      exact
        (sent_send hWithin hRoom payload host).inFlight
          hInFlight
  | sendTo payload address =>
      exact
        (sent_sendTo hWithin hRoom payload address
          host).inFlight hInFlight
  | sendRaw data => exact absurd rfl (hFramed data)
  | flush => exact hFlush
  | poll => exact hQuiet trivial
  | drain => exact hQuiet trivial
  | notify notification =>
      cases notification with
      | connected => exact hQuiet trivial
      | readable => exact hQuiet trivial
      | closed code => exact hQuiet trivial
      | writable =>
          unfold perform handle onWritable accepted
          dsimp only [resulting]
          split
          · rw [List.append_nil]
            exact hInFlight
          · exact hFlush

end Socket

end FrameLink
