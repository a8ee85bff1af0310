import FrameLink.Proofs.Frame.Deframe
import FrameLink.Proofs.Socket.Shape

/-
  What a socket makes of what it receives.

  Only a readable notification moves anything on this side.
  What it receives is put behind the undecided bytes, all of
  it fits the input, and on bytes that fit the buffer and the
  reference agree (`Socket.takeBytes_cases`).  The policy
  decides only what becomes of the stream where the input
  overflows.  Every other operation leaves the input and the
  packets as they are (`Socket.aside_perform`).

  Key definitions include:
    * `Measure.isInbound`, `Segment.measure`
    * `Socket.Cuts`, `Socket.Shuts`, `Socket.Aside`
-/

------------------------------------------------------------
-- Measures of Segments
------------------------------------------------------------

namespace FrameLink

/- The measure is of bytes that are received. -/
def Measure.isInbound : Measure → Bool
  | .packetReceived _ => true
  | .bufferOverflow => true
  | _ => false

/- Where nothing received is measured, nothing overflows. -/
theorem Measure.count_overflow_eq_zero
    {measures : List Measure}
    (hNone : measures.filter isInbound = []) :
    measures.count .bufferOverflow = 0 := by
  rw [← List.count_filter (p := isInbound) rfl, hNone]
  rfl

/- The measure that a segment leaves. -/
def Segment.measure : Segment → Measure
  | .packet payload =>
      .packetReceived (UInt64.ofNat payload.length)
  | .overflow => .bufferOverflow

/- Segments leave measures of what is received only. -/
theorem Segment.filter_isInbound_map_measure
    (segments : List Segment) :
    (segments.map measure).filter Measure.isInbound =
      segments.map measure := by
  rw [List.filter_eq_self]
  intro m hMember
  rcases List.mem_map.mp hMember with ⟨segment, _, rfl⟩
  cases segment with
  | packet payload => rfl
  | overflow => rfl

/- Overflows can be counted by their measures. -/
theorem Segment.count_map_measure
    (segments : List Segment) :
    (segments.map measure).count .bufferOverflow =
      segments.count .overflow := by
  induction segments with
  | nil => rfl
  | cons segment segments ih =>
      rw [List.map_cons, List.count_cons, List.count_cons, ih]
      cases segment with
      | packet payload => rfl
      | overflow => rfl

/- Packets leave a measure each. -/
theorem Segment.measures_packetReports
    (payloads : List Bytes) :
    Report.measures
        (payloads.flatMap Socket.packetReports) =
      (payloads.map Segment.packet).map measure := by
  induction payloads with
  | nil => rfl
  | cons payload payloads ih =>
      rw [List.flatMap_cons, Report.measures_append, ih]
      rfl

------------------------------------------------------------
-- Taking Bytes In
------------------------------------------------------------

namespace Socket

variable {τ ω : Type} [Transport τ ω]

/-
  What a socket has done when segments were cut from its
  stream and some bytes are left undecided.
-/
structure Cuts
    (s : Socket τ)
    (d : Deframed)
    (r : Reply τ ω Unit) : Prop where
  transport : r.socket.transport = s.transport
  closed : r.socket.closed = s.closed
  input : r.socket.input.filled = d.rest
  events :
    r.socket.events =
      s.events ++
        d.payloads.map
          (Event.packet ·
            (Transport.remoteAddress s.transport))
  measures :
    Report.measures r.reports = d.segments.map Segment.measure

/- The notice of an overflow, unless a close was announced. -/
def farewell (s : Socket τ) : List (Event τ) :=
  if s.closed then
    []
  else
    [.closed (some .bufferOverflow)]

/-
  What a socket has done when packets were cut from its
  stream and what is behind them has made it close.
-/
structure Shuts
    (s : Socket τ)
    (host : Host ω)
    (payloads : List Bytes)
    (r : Reply τ ω Unit) : Prop where
  transport :
    r.socket.transport =
      (Transport.close
        (Transport.setError s.transport .bufferOverflow)
        host.world).transport
  world :
    r.host.world =
      (Transport.close
        (Transport.setError s.transport .bufferOverflow)
        host.world).world
  closed : r.socket.closed = true
  input : r.socket.input.filled = []
  events :
    r.socket.events =
      s.events ++
        payloads.map
          (Event.packet ·
            (Transport.remoteAddress s.transport)) ++
        s.farewell
  measures :
    Report.measures r.reports =
      (Deframed.spilt payloads).segments.map Segment.measure

/- Delivering packets leaves what follows the last of them. -/
theorem filled_deliver (s : Socket τ) :
    (deliver s).1.input.filled =
      (Frame.unframe s.input.filled).2 := by
  rcases Frame.snd_unframe_suffix s.input.filled with
    ⟨front, hFront⟩
  have hLength := congrArg List.length hFront
  rw [List.length_append, Buffer.length_filled] at hLength
  change
    (s.input.consume
      (s.input.size -
        (Frame.unframe s.input.filled).2.length)).filled = _
  rw [Buffer.filled_consume,
    show s.input.size -
        (Frame.unframe s.input.filled).2.length =
      front.length by omega]
  exact
    (congrArg (List.drop front.length) hFront.symm).trans
      List.drop_left

/- The input is full if what follows the packets fills it. -/
theorem isFull_deliver_iff (s : Socket τ) :
    (deliver s).1.input.isFull = true ↔
      s.input.capacity ≤
        (Frame.unframe s.input.filled).2.length := by
  rw [← filled_deliver, Buffer.length_filled, Buffer.isFull,
    decide_eq_true_iff]
  change (s.input.consume _).capacity ≤ _ ↔ _
  rw [Buffer.capacity_consume]

/- A socket that has filled its input delivers packets. -/
theorem cuts_deliver
    {s : Socket τ}
    {bs : Bytes}
    (hFits : bs.length ≤ s.input.remaining)
    (host : Host ω) :
    let cut := Frame.unframe (s.input.filled ++ bs)
    let delivered :=
      deliver { s with input := s.input.fill bs }
    (delivered.1.input.isFull = true ↔
        s.input.capacity ≤ cut.2.length) ∧
      Cuts s ⟨cut.1.map .packet, cut.2⟩
        { result := ()
          socket := delivered.1
          host
          reports := delivered.2 } := by
  intro cut delivered
  have hFilled :
      (s.input.fill bs).filled = s.input.filled ++ bs := by
    rw [Buffer.filled_fill, List.take_of_length_le hFits]
  have hCut :
      Frame.unframe (s.input.fill bs).filled = cut := by
    rw [hFilled]
  have hFull :=
    isFull_deliver_iff { s with input := s.input.fill bs }
  have hLeft :=
    filled_deliver { s with input := s.input.fill bs }
  simp only [hCut, Buffer.capacity_fill] at hFull hLeft
  refine ⟨hFull, rfl, rfl, hLeft, ?_, ?_⟩
  · rw [Deframed.payloads,
      Segment.filterMap_payload?_map_packet, ← hCut]
    rfl
  · rw [← hCut]
    exact Segment.measures_packetReports _

theorem overflow_of_reset
    {s : Socket τ}
    (hPolicy : s.framing.overflowPolicy = .reset)
    (host : Host ω) :
    s.overflow host =
      { result := ()
        socket := { s with input := s.input.clear }
        host
        reports :=
          [.measure .bufferOverflow, .line .inputOverflow] } := by
  unfold overflow
  simp only [hPolicy]

/- Under the closing policy it closes the stream as well. -/
theorem shuts_overflow
    {s : Socket τ}
    (hPolicy : s.framing.overflowPolicy = .close)
    (host : Host ω) :
    Shuts s host [] (s.overflow host) := by
  have hMeasures := measures_overflow s host
  unfold overflow announceClose at hMeasures ⊢
  simp only [hPolicy, setError] at hMeasures ⊢
  by_cases hClosed : s.closed = true
  · simp only [hClosed, if_true] at hMeasures ⊢
    refine ⟨rfl, rfl, rfl, Buffer.filled_clear _, ?_,
      hMeasures⟩
    rw [farewell, if_pos hClosed]
    simp only [List.map_nil, List.append_nil]
  · simp only [hClosed, Bool.false_eq_true, if_false]
      at hMeasures ⊢
    refine ⟨rfl, rfl, rfl, Buffer.filled_clear _, ?_,
      hMeasures⟩
    rw [farewell, if_neg hClosed]
    simp only [emit, List.map_nil, List.append_nil]

/- Where the input overflows, it is lost behind packets. -/
theorem takeBytes_of_overflow
    {s : Socket τ}
    {bs : Bytes}
    (hFits : bs.length ≤ s.input.remaining)
    {payloads : List Bytes}
    {rest : Bytes}
    (hCut :
      Frame.unframe (s.input.filled ++ bs) =
        (payloads, rest))
    (hOver : s.input.capacity ≤ rest.length)
    (host : Host ω) :
    (s.framing.overflowPolicy = .reset ∧
        Cuts s (.spilt payloads) (s.takeBytes bs host)) ∨
      s.framing.overflowPolicy = .close ∧
        Shuts s host payloads (s.takeBytes bs host) := by
  rcases cuts_deliver hFits host with ⟨hFull, hCuts⟩
  rw [hCut] at hFull hCuts
  have hEvents := hCuts.events
  rw [Deframed.payloads,
    Segment.filterMap_payload?_map_packet] at hEvents
  have hTwice :
      (Deframed.spilt payloads).segments.map
          Segment.measure =
        (payloads.map Segment.packet).map Segment.measure ++
          [.bufferOverflow] :=
    List.map_append
  unfold takeBytes
  dsimp only
  rw [if_pos (hFull.mpr hOver)]
  cases hPolicy : s.framing.overflowPolicy with
  | reset =>
      refine .inl ⟨rfl, ?_⟩
      rw [overflow_of_reset
        (s :=
          (deliver { s with input := s.input.fill bs }).1)
        hPolicy]
      constructor
      · rfl
      · rfl
      · exact Buffer.filled_clear _
      · rw [Deframed.payloads_spilt]
        exact hEvents
      · rw [hTwice, ← hCuts.measures]
        exact Report.measures_append _ _
  | close =>
      have hShuts :=
        shuts_overflow
          (s :=
            (deliver { s with input := s.input.fill bs }).1)
          hPolicy host
      refine .inr ⟨rfl, ?_⟩
      constructor
      · exact hShuts.transport
      · exact hShuts.world
      · exact hShuts.closed
      · exact hShuts.input
      · rw [← hEvents]
        refine hShuts.events.trans ?_
        rw [List.map_nil, List.append_nil]
        rfl
      · rw [hTwice, ← hCuts.measures]
        exact
          (Report.measures_append _ _).trans
            (congrArg _ hShuts.measures)

/-
  Bytes that fit the input are cut as the reference does.  If
  the input overflows under the closing policy, the stream is
  closed behind the packets.
-/
theorem takeBytes_cases
    {s : Socket τ}
    (hRoom : Frame.prefixSize ≤ s.input.capacity)
    {bs : Bytes}
    (hFits : bs.length ≤ s.input.remaining)
    (host : Host ω) :
    let d :=
      Frame.deframe s.input.capacity (s.input.filled ++ bs)
    ((d.overflows = 0 ∨ s.framing.overflowPolicy = .reset) ∧
        Cuts s d (s.takeBytes bs host)) ∨
      ∃ payloads,
        s.framing.overflowPolicy = .close ∧
          d = .spilt payloads ∧
          Shuts s host payloads (s.takeBytes bs host) := by
  intro d
  have hLength :
      (s.input.filled ++ bs).length ≤ s.input.capacity := by
    have hAll := Buffer.size_add_remaining s.input
    rw [List.length_append, Buffer.length_filled]
    omega
  have hDeframed : d = _ :=
    Frame.deframe_of_length_le hRoom hLength
  rcases hCut : Frame.unframe (s.input.filled ++ bs) with
    ⟨payloads, rest⟩
  rw [hCut] at hDeframed
  by_cases hOver : s.input.capacity ≤ rest.length
  · rw [if_pos hOver] at hDeframed
    have hSpilt : d = .spilt payloads := hDeframed
    rw [hSpilt]
    rcases takeBytes_of_overflow hFits hCut hOver host with
      ⟨hPolicy, hCuts⟩ | ⟨hPolicy, hShuts⟩
    · exact .inl ⟨.inr hPolicy, hCuts⟩
    · exact .inr ⟨payloads, hPolicy, rfl, hShuts⟩
  · rw [if_neg hOver] at hDeframed
    rw [hDeframed]
    rcases cuts_deliver hFits host with ⟨hFull, hCuts⟩
    rw [hCut] at hFull hCuts
    refine .inl ⟨.inl ?_, ?_⟩
    · exact List.count_eq_zero.mpr
        (Segment.overflow_notMem_map_packet _)
    · unfold takeBytes
      dsimp only
      rw [if_neg (fun hLess => hOver (hFull.mp hLess))]
      exact hCuts

theorem readInput_of_ok
    {s : Socket τ}
    {host : Host ω}
    {bs : Bytes}
    (hResult :
      (Transport.receive s.transport s.input.remaining
        host.world).result = .ok bs) :
    let o :=
      Transport.receive s.transport s.input.remaining
        host.world
    s.readInput host =
      takeBytes { s with transport := o.transport } bs
        { host with world := o.world } := by
  unfold readInput
  dsimp only
  rw [hResult]

/- A read that fails, or has to wait, changes nothing. -/
theorem readInput_of_error
    {s : Socket τ}
    {host : Host ω}
    {e : IoError}
    (hResult :
      (Transport.receive s.transport s.input.remaining
        host.world).result = .error e) :
    (s.readInput host).socket =
        { s with
          transport :=
            (Transport.receive s.transport
              s.input.remaining host.world).transport } ∧
      (s.readInput host).host.world =
        (Transport.receive s.transport s.input.remaining
          host.world).world ∧
      (Report.measures (s.readInput host).reports).filter
        Measure.isInbound = [] := by
  unfold readInput
  dsimp only
  rw [hResult]
  dsimp only
  split
  · exact ⟨rfl, rfl, rfl⟩
  · exact ⟨rfl, rfl, rfl⟩

/-
  A read cuts what it is handed, behind the undecided bytes,
  and closes the stream if the policy says so.
-/
theorem readInput_cases
    (hWithin : Transport.ReceivesWithin τ)
    {s : Socket τ}
    (hRoom : Frame.prefixSize ≤ s.input.capacity)
    (host : Host ω) :
    let o :=
      Transport.receive s.transport s.input.remaining
        host.world
    let after := { s with transport := o.transport }
    (∃ bs,
        o.result = .ok bs ∧
          let d :=
            Frame.deframe s.input.capacity
              (s.input.filled ++ bs)
          ((d.overflows = 0 ∨
                s.framing.overflowPolicy = .reset) ∧
              Cuts after d (s.readInput host)) ∨
            ∃ payloads,
              s.framing.overflowPolicy = .close ∧
                d = .spilt payloads ∧
                Shuts after { host with world := o.world }
                  payloads (s.readInput host)) ∨
      ∃ e,
        o.result = .error e ∧
          (s.readInput host).socket = after ∧
          (s.readInput host).host.world = o.world ∧
          (Report.measures (s.readInput host).reports).filter
              Measure.isInbound = [] := by
  intro o after
  cases hResult : o.result with
  | error e =>
      exact .inr ⟨e, rfl, readInput_of_error hResult⟩
  | ok bs =>
      refine .inl ⟨bs, rfl, ?_⟩
      rw [readInput_of_ok hResult]
      exact
        takeBytes_cases (s := after) hRoom
          (hWithin _ _ _ _ hResult)
          { host with world := o.world }

theorem perform_readable
    {s : Socket τ}
    (hListener : s.listener = false)
    (host : Host ω) :
    s.perform (.notify .readable) host =
      resulting (fun _ => .done)
        (s.readInput host) := by
  unfold perform handle onReadable
  dsimp only
  rw [hListener]
  rfl

/-
  What an operation does on this side when it receives
  nothing: events may be handed out, and ones that are no
  packets may be queued.
-/
structure Aside
    (s : Socket τ)
    (r : Reply τ ω (Result τ)) : Prop where
  input : r.socket.input = s.input
  packets :
    (r.result.events ++ r.socket.events).filterMap
        Event.packet? =
      s.events.filterMap Event.packet?
  measures :
    (Report.measures r.reports).filter Measure.isInbound =
      []

omit [Transport τ ω] in
/- What changes the sending side alone is aside. -/
theorem Aside.of_reach
    {s : Socket τ}
    {r : Reply τ ω (Result τ)}
    (hReach :
      ∃ transport output,
        r.socket = { s with transport, output })
    (hResult : r.result.events = [])
    (hMeasures :
      (Report.measures r.reports).filter
        Measure.isInbound = []) :
    Aside s r := by
  rcases hReach with ⟨transport, output, hSocket⟩
  refine ⟨?_, ?_, hMeasures⟩
  · rw [hSocket]
  · rw [hSocket, hResult, List.nil_append]

/- Sending a packet measures nothing received. -/
theorem inbound_send
    (s : Socket τ)
    (payload : Bytes)
    (host : Host ω) :
    (Report.measures (s.send payload host).reports).filter
      Measure.isInbound = [] := by
  unfold send
  split
  · rfl
  · split
    · rename_i front hFront hEmpty
      have hFlush :=
        measures_flush
          { s with
            output := (s.output.append front).append payload }
          host
      unfold sendFrame
      dsimp only
      split
      · simp only [discard, hFlush]
        rfl
      · split
        · simp only [discard, hFlush]
          rfl
        · simp only [Report.measures_append, hFlush]
          split
          · rfl
          · rfl
    · rfl

/- Only a readable notification receives. -/
theorem aside_perform
    (s : Socket τ)
    {operation : Operation}
    (hOther : operation ≠ .notify .readable)
    (host : Host ω) :
    Aside s (s.perform operation host) := by
  cases operation with
  | send payload =>
      exact .of_reach (send_reach s payload host) rfl
        (inbound_send s payload host)
  | sendTo payload address =>
      apply Aside.of_reach (sendTo_reach s payload address host)
      · rfl
      · unfold perform sendTo
        dsimp only [resulting]
        split
        · exact inbound_send s payload host
        · rfl
  | sendRaw data =>
      apply Aside.of_reach (sendRaw_reach s data host)
      · rfl
      · unfold perform sendRaw
        dsimp only [resulting]
        split
        · rfl
        · rename_i queued hRoom
          rw [Report.measures_measure, measures_flush]
          rfl
  | flush =>
      apply Aside.of_reach (flush_reach s host)
      · rfl
      · change
          (Report.measures (s.flush host).reports).filter _ =
            _
        rw [measures_flush]
        rfl
  | poll =>
      unfold perform poll
      dsimp only
      split
      · exact ⟨rfl, rfl, rfl⟩
      · rename_i event events hEvents
        refine ⟨rfl, ?_, rfl⟩
        rw [hEvents]
        rfl
  | drain =>
      refine ⟨rfl, ?_, rfl⟩
      exact congrArg (List.filterMap _) (List.append_nil _)
  | notify notification =>
      cases notification with
      | readable => exact absurd rfl hOther
      | connected =>
          refine ⟨rfl, ?_, rfl⟩
          change
            (s.events ++ [Event.connected]).filterMap _ = _
          rw [List.filterMap_append]
          exact List.append_nil _
      | writable =>
          apply Aside.of_reach (onWritable_reach s host)
          · rfl
          · change
              (Report.measures
                (s.onWritable host).reports).filter _ = _
            rw [measures_onWritable]
            rfl
      | closed code =>
          unfold perform handle announceClose
          dsimp only [resulting]
          split
          · exact ⟨rfl, rfl, rfl⟩
          · refine ⟨rfl, ?_, rfl⟩
            change
              (s.events ++ [Event.closed code]).filterMap _ =
                _
            rw [List.filterMap_append]
            exact List.append_nil _

end Socket

end FrameLink
