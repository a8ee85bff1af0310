import FrameLink.Proofs.Socket.Receiving
import FrameLink.Proofs.Transport.Pipes

/-
  Reassembly over a whole life.

  However a stream is cut into receives, and whatever else is
  done with the socket in between, a socket has always done
  to the bytes received so far what the reference does: it
  has delivered the packets, counted the overflows, and its
  input holds the bytes undecided
  (`Origin.follows_recorded`).  The policy plays no part in
  that; under the reset policy the stream is never closed
  for an overflow, so the socket goes on
  (`Origin.receives_recorded`).

  A packet comes with the address that the stream reported
  when the receive that completed the packet was answered.

  Key definitions include:
    * `Frame.credit`
    * `Life.Follows`, `Life.Receives`
    * `Life.overflows`
-/

------------------------------------------------------------
-- Packets and Chunks
------------------------------------------------------------

namespace FrameLink

namespace Frame

/- Packets are cut from a front and then from what goes on. -/
theorem payloads_deframe_append
    (capacity : Nat)
    (front back : Bytes) :
    (deframe capacity (front ++ back)).payloads =
      (deframe capacity front).payloads ++
        (deframe capacity
          ((deframe capacity front).rest ++ back)).payloads := by
  rw [deframe_append, Deframed.payloads,
    List.filterMap_append]
  rfl

/-
  The packets of a stream that goes on in chunks, each with
  the address of the chunk that completes it.  Such are the
  packets that the stream has with the chunk and did not have
  without it.
-/
def credit
    (capacity : Nat)
    (seen : Bytes) :
    List Chunk → List (Bytes × Option Address)
  | [] => []
  | chunk :: chunks =>
      ((deframe capacity (seen ++ chunk.bytes)).payloads.drop
          (deframe capacity seen).payloads.length).map
          (·, chunk.remote) ++
        credit capacity (seen ++ chunk.bytes) chunks

/- The last chunk completes packets behind all others. -/
theorem credit_concat
    (capacity : Nat)
    (seen : Bytes)
    (chunks : List Chunk)
    (chunk : Chunk) :
    credit capacity seen (chunks ++ [chunk]) =
      credit capacity seen chunks ++
        (deframe capacity
          ((deframe capacity
              (seen ++ chunks.flatMap Chunk.bytes)).rest ++
            chunk.bytes)).payloads.map (·, chunk.remote) := by
  induction chunks generalizing seen with
  | nil =>
      rw [List.nil_append, credit, credit, credit,
        payloads_deframe_append, List.drop_left,
        List.flatMap_nil, List.append_nil, List.append_nil,
        List.nil_append]
  | cons first chunks ih =>
      rw [List.cons_append, credit, credit, ih,
        List.flatMap_cons]
      simp only [List.append_assoc]

/- The chunks complete the packets of the whole stream. -/
theorem map_fst_credit
    (capacity : Nat)
    (seen : Bytes)
    (chunks : List Chunk) :
    (deframe capacity seen).payloads ++
        (credit capacity seen chunks).map Prod.fst =
      (deframe capacity
        (seen ++ chunks.flatMap Chunk.bytes)).payloads := by
  induction chunks generalizing seen with
  | nil =>
      rw [credit, List.map_nil, List.flatMap_nil,
        List.append_nil, List.append_nil]
  | cons chunk chunks ih =>
      have hFirst :
          (deframe capacity seen).payloads ++
              (deframe capacity
                (seen ++ chunk.bytes)).payloads.drop
                (deframe capacity seen).payloads.length =
            (deframe capacity
              (seen ++ chunk.bytes)).payloads := by
        rw [payloads_deframe_append, List.drop_left]
      rw [credit, List.map_append, List.map_map,
        ← List.append_assoc, List.flatMap_cons,
        ← List.append_assoc, ← ih]
      refine congrArg (· ++ _) (Eq.trans ?_ hFirst)
      exact congrArg (_ ++ ·) (List.map_id _)

end Frame

------------------------------------------------------------
-- Receiving Lives
------------------------------------------------------------

namespace Life

variable {τ ω : Type} [Transport τ ω]

/-
  A connection has done to the bytes received so far what the
  reference does.
-/
structure Follows
    (capacity : Nat)
    (r : Life (Journaled τ) ω) : Prop where
  listener : r.socket.listener = false
  room : r.socket.input.capacity = capacity
  input :
    r.socket.input.filled =
      (Frame.deframe capacity
        r.socket.transport.received).rest
  packets :
    packets r =
      Frame.credit capacity [] r.socket.transport.chunks
  measures :
    (Report.measures r.reports).filter Measure.isInbound =
      (Frame.deframe capacity
        r.socket.transport.received).segments.map
          Segment.measure

/- It has done so, and no overflow closes its stream. -/
structure Receives
    (capacity : Nat)
    (r : Life (Journaled τ) ω) : Prop
    extends Follows capacity r where
  policy : r.socket.framing.overflowPolicy = .reset

/- How often the input has overflowed. -/
def overflows (r : Life τ ω) : Nat :=
  (Report.measures r.reports).count .bufferOverflow

omit [Transport τ ω] in
theorem packets_eq
    (r : Life τ ω) :
    packets r =
      (r.result.flatMap Socket.Result.events).filterMap
          Event.packet? ++
        r.socket.events.filterMap Event.packet? := by
  rw [packets, emitted, List.filterMap_append]

/- An operation adds the packets it hands out or queues. -/
theorem packets_operate
    (r : Life τ ω)
    (operation : Socket.Operation) :
    packets (Socket.pass r (.operate operation)) =
      (r.result.flatMap Socket.Result.events).filterMap
          Event.packet? ++
        ((r.socket.perform operation r.host).result.events ++
          (r.socket.perform operation
            r.host).socket.events).filterMap
              Event.packet? := by
  rw [packets_eq, Socket.pass]
  dsimp only
  rw [List.flatMap_append, List.flatMap_cons,
    List.flatMap_nil, List.append_nil, List.filterMap_append,
    List.filterMap_append, List.append_assoc]

/- An operation leaves the shape, so three facts suffice. -/
theorem Follows.operate
    {capacity : Nat}
    {r : Life (Journaled τ) ω}
    (hFollows : Follows capacity r)
    {operation : Socket.Operation}
    {socket : Socket (Journaled τ)}
    {events : List (Event (Journaled τ))}
    {reports : List Report}
    (hSocket :
      (r.socket.perform operation r.host).socket = socket)
    (hEvents :
      (r.socket.perform operation r.host).result.events =
        events)
    (hReports :
      (r.socket.perform operation r.host).reports = reports)
    (hInput :
      socket.input.filled =
        (Frame.deframe capacity
          socket.transport.received).rest)
    (hPackets :
      (r.result.flatMap Socket.Result.events).filterMap
            Event.packet? ++
          (events ++ socket.events).filterMap
            Event.packet? =
        Frame.credit capacity [] socket.transport.chunks)
    (hMeasures :
      (Report.measures r.reports).filter
            Measure.isInbound ++
          (Report.measures reports).filter
            Measure.isInbound =
        (Frame.deframe capacity
          socket.transport.received).segments.map
            Segment.measure) :
    Follows capacity
      (Socket.pass r (.operate operation)) := by
  subst hSocket hEvents hReports
  have hShape :=
    Socket.perform_shape r.socket operation r.host
  constructor
  · exact (congrArg Socket.Shape.listener hShape).trans
      hFollows.listener
  · exact (congrArg Socket.Shape.inputRoom hShape).trans
      hFollows.room
  · exact hInput
  · exact (packets_operate r operation).trans hPackets
  · rw [Socket.pass, Report.measures_append,
      List.filter_append]
    exact hMeasures

/- Where nothing is handed over, an aside keeps the law. -/
theorem Follows.of_aside
    {capacity : Nat}
    {r : Life (Journaled τ) ω}
    (hFollows : Follows capacity r)
    {operation : Socket.Operation}
    (hAside :
      Socket.Aside r.socket
        (r.socket.perform operation r.host))
    (hChunks :
      (r.socket.perform operation
          r.host).socket.transport.chunks =
        r.socket.transport.chunks) :
    Follows capacity
      (Socket.pass r (.operate operation)) := by
  have hReceived :
      (r.socket.perform operation
          r.host).socket.transport.received =
        r.socket.transport.received :=
    congrArg (List.flatMap Chunk.bytes) hChunks
  apply hFollows.operate rfl rfl rfl
  · rw [hReceived, hAside.input]
    exact hFollows.input
  · rw [hChunks, hAside.packets, ← packets_eq]
    exact hFollows.packets
  · rw [hReceived, hAside.measures, List.append_nil]
    exact hFollows.measures

/- What is aside keeps what is received. -/
theorem Follows.aside
    {capacity : Nat}
    {r : Life (Journaled τ) ω}
    (hFollows : Follows capacity r)
    {operation : Socket.Operation}
    (hOther : operation ≠ .notify .readable) :
    Follows capacity
      (Socket.pass r (.operate operation)) := by
  have hAside :=
    Socket.aside_perform r.socket hOther r.host
  apply hFollows.of_aside hAside
  apply Socket.perform_keeps
    (P := fun (j : Journaled τ) (_ : ω) =>
      j.chunks = r.socket.transport.chunks)
  · intro hReadable
    exact absurd hReadable hOther
  · intro _ j bs w hHolds
    exact (Journaled.chunks_send j bs w).trans hHolds
  · intro hReadable
    exact absurd hReadable hOther
  · intro hReadable
    exact absurd hReadable hOther
  · intro j code w hHolds
    exact hHolds
  · rfl

omit [Transport τ ω] in
theorem filterMap_packet?_map_packet
    (payloads : List Bytes)
    (remote : Option Address) :
    (payloads.map
        (Event.packet (τ := τ) · remote)).filterMap
          Event.packet? =
      payloads.map (·, remote) := by
  rw [List.filterMap_map]
  change payloads.filterMap (some ∘ (·, remote)) = _
  rw [List.filterMap_eq_map]

/- A read that succeeds cuts what it is handed. -/
theorem Follows.read
    {capacity : Nat}
    {r : Life (Journaled τ) ω}
    (hFollows : Follows capacity r)
    {o : Outcome (Journaled τ) ω Bytes}
    (hCall :
      Transport.receive r.socket.transport
        r.socket.input.remaining r.host.world = o)
    {bs : Bytes}
    (hResult : o.result = .ok bs)
    {d : Deframed}
    (hCut :
      Frame.deframe r.socket.input.capacity
        (r.socket.input.filled ++ bs) = d)
    (hChunks :
      (r.socket.readInput r.host).socket.transport.chunks =
        o.transport.chunks)
    (hInput :
      (r.socket.readInput r.host).socket.input.filled =
        d.rest)
    (hPackets :
      (r.socket.readInput r.host).socket.events.filterMap
          Event.packet? =
        r.socket.events.filterMap Event.packet? ++
          d.payloads.map
            (·, Transport.remoteAddress o.transport))
    (hMeasures :
      Report.measures (r.socket.readInput r.host).reports =
        d.segments.map Segment.measure) :
    Follows capacity
      (Socket.pass r (.operate (.notify .readable))) := by
  subst hCall
  rw [hFollows.room, hFollows.input] at hCut
  have hRead := Socket.perform_readable hFollows.listener r.host
  have hAll := hFollows.packets
  rw [packets_eq] at hAll
  rw [Journaled.chunks_receive_of_ok hResult] at hChunks
  have hReceived :
      (r.socket.readInput r.host).socket.transport.received =
        r.socket.transport.received ++ bs := by
    rw [Journaled.received, hChunks, List.flatMap_append,
      List.flatMap_cons, List.flatMap_nil, List.append_nil]
    rfl
  apply hFollows.operate (congrArg Reply.socket hRead)
    (congrArg (·.result.events) hRead)
    (congrArg Reply.reports hRead)
  · change
      (r.socket.readInput r.host).socket.input.filled =
        (Frame.deframe capacity
          (r.socket.readInput
            r.host).socket.transport.received).rest
    rw [hReceived, Frame.deframe_append, hCut]
    exact hInput
  · change
      _ ++
          (r.socket.readInput r.host).socket.events.filterMap
            Event.packet? =
        Frame.credit capacity []
          (r.socket.readInput r.host).socket.transport.chunks
    rw [hChunks, Frame.credit_concat, ← hAll, hPackets,
      List.append_assoc, ← hCut]
    rfl
  · change
      _ ++
          (Report.measures
            (r.socket.readInput r.host).reports).filter _ =
        (Frame.deframe capacity
          (r.socket.readInput
            r.host).socket.transport.received).segments.map _
    rw [hReceived, Frame.deframe_append, hFollows.measures,
      hMeasures, Segment.filter_isInbound_map_measure,
      List.map_append, hCut]

/- A readable notification cuts what it is handed. -/
theorem Follows.readable
    (hWithin : Transport.ReceivesWithin τ)
    {capacity : Nat}
    (hRoom : Frame.prefixSize ≤ capacity)
    {r : Life (Journaled τ) ω}
    (hFollows : Follows capacity r) :
    Follows capacity
      (Socket.pass r (.operate (.notify .readable))) := by
  rcases Socket.readInput_cases
      (Journaled.receivesWithin hWithin)
      (hFollows.room ▸ hRoom) r.host with
    ⟨bs, hResult, ⟨_, hCuts⟩ |
      ⟨payloads, _, hSpilt, hShuts⟩⟩ |
    ⟨e, hResult, hKept, _, hNone⟩
  · apply hFollows.read rfl hResult rfl
    · rw [hCuts.transport]
    · exact hCuts.input
    · rw [hCuts.events, List.filterMap_append,
        filterMap_packet?_map_packet]
    · exact hCuts.measures
  · apply hFollows.read rfl hResult hSpilt
    · rw [hShuts.transport]
      rfl
    · exact hShuts.input
    · have hFarewell :
          ∀ s : Socket (Journaled τ),
            s.farewell.filterMap Event.packet? = [] := by
        intro s
        unfold Socket.farewell
        split
        · rfl
        · rfl
      rw [hShuts.events, List.filterMap_append,
        List.filterMap_append, hFarewell, List.append_nil,
        filterMap_packet?_map_packet,
        Deframed.payloads_spilt]
    · exact hShuts.measures
  · have hRead := Socket.perform_readable hFollows.listener r.host
    apply hFollows.of_aside
    · rw [hRead]
      refine ⟨?_, ?_, hNone⟩
      · change (r.socket.readInput r.host).socket.input = _
        rw [hKept]
      · change
          (r.socket.readInput r.host).socket.events.filterMap
              _ = _
        rw [hKept]
    · rw [hRead]
      change
        (r.socket.readInput r.host).socket.transport.chunks =
          _
      rw [hKept]
      exact Journaled.chunks_receive_of_error hResult

/- Every moment keeps what is received. -/
theorem Follows.pass
    (hWithin : Transport.ReceivesWithin τ)
    {capacity : Nat}
    (hRoom : Frame.prefixSize ≤ capacity)
    {r : Life (Journaled τ) ω}
    (hFollows : Follows capacity r)
    (moment : Moment τ ω) :
    Follows capacity
      (Socket.pass r moment.journaled) := by
  cases moment with
  | operate operation =>
      by_cases hReadable : operation = .notify .readable
      · subst hReadable
        exact hFollows.readable hWithin hRoom
      · exact hFollows.aside hReadable
  | disturb change =>
      rcases hFollows with
        ⟨hListener, hCapacity, hInput, hPackets, hMeasures⟩
      exact ⟨hListener, hCapacity, hInput, hPackets,
        hMeasures⟩

omit [Transport τ ω] in
/- The packets are those of the reference. -/
theorem Follows.payloads
    {capacity : Nat}
    {r : Life (Journaled τ) ω}
    (hFollows : Follows capacity r) :
    (Life.packets r).map Prod.fst =
      (Frame.deframe capacity
        r.socket.transport.received).payloads := by
  have hAll :=
    Frame.map_fst_credit capacity []
      r.socket.transport.chunks
  rw [Frame.deframe_nil] at hAll
  rw [hFollows.packets]
  exact hAll

omit [Transport τ ω] in
theorem Follows.overflows_eq
    {capacity : Nat}
    {r : Life (Journaled τ) ω}
    (hFollows : Follows capacity r) :
    Life.overflows r =
      (Frame.deframe capacity
        r.socket.transport.received).overflows := by
  rw [Life.overflows,
    ← List.count_filter (p := Measure.isInbound) rfl,
    hFollows.measures, Segment.count_map_measure]
  rfl

end Life

------------------------------------------------------------
-- Origins
------------------------------------------------------------

namespace Origin

variable {τ ω : Type} [Transport τ ω]

theorem overflowPolicy_clamped (framing : FramingConfig) :
    framing.clamped.overflowPolicy =
      framing.overflowPolicy := by
  unfold FramingConfig.clamped
  split
  · rfl
  · rfl

/- A life begins with nothing received. -/
theorem follows_nil
    {origin : Origin τ ω}
    (hListener : origin.listener = false) :
    Life.Follows (origin.limit + Frame.prefixSize)
      (origin.recorded []) := by
  have hShape := started_shape origin.journaled
  have hStarted :=
    socket_started origin.journaled hListener
  have hReceived :
      origin.journaled.started.socket.transport.received =
        [] := by
    rw [hStarted]
    rfl
  constructor
  · exact (congrArg Socket.Shape.listener hShape).trans
      hListener
  · exact congrArg Socket.Shape.inputRoom hShape
  · change
      origin.journaled.started.socket.input.filled =
        (Frame.deframe _
          origin.journaled.started.socket.transport.received).rest
    rw [hReceived, Frame.deframe_nil, hStarted]
    exact Buffer.filled_ofCapacity _
  · change
      origin.journaled.started.socket.events.filterMap _ =
        Frame.credit _ []
          origin.journaled.started.socket.transport.chunks
    rw [hStarted]
    rfl
  · change
      [] =
        (Frame.deframe _
          origin.journaled.started.socket.transport.received).segments.map
            _
    rw [hReceived, Frame.deframe_nil]
    rfl

/- Whatever happens, bytes are cut as the reference does. -/
theorem follows_recorded
    (hWithin : Transport.ReceivesWithin τ)
    {origin : Origin τ ω}
    (hListener : origin.listener = false)
    (moments : List (Moment τ ω)) :
    Life.Follows (origin.limit + Frame.prefixSize)
      (origin.recorded moments) := by
  have hRoom :
      Frame.prefixSize ≤ origin.limit + Frame.prefixSize :=
    Nat.le_add_left _ _
  unfold recorded live Socket.live
  rw [List.foldl_map]
  apply List.foldlRecOn moments
  · exact follows_nil hListener
  · intro r hFollows moment hMember
    exact hFollows.pass hWithin hRoom moment

section Followed

variable
  (hWithin : Transport.ReceivesWithin τ)
  {origin : Origin τ ω}
  (hListener : origin.listener = false)
  (moments : List (Moment τ ω))

include hWithin hListener

theorem payloads_followed :
    (origin.live moments).packets.map Prod.fst =
      (Frame.deframe (origin.limit + Frame.prefixSize)
        (origin.journal moments).received).payloads := by
  have hFollows := follows_recorded hWithin hListener moments
  rw [packets_live]
  exact hFollows.payloads

theorem overflows_followed :
    (origin.live moments).overflows =
      (Frame.deframe (origin.limit + Frame.prefixSize)
        (origin.journal moments).received).overflows := by
  have hFollows := follows_recorded hWithin hListener moments
  rw [Life.overflows, reports_live]
  exact hFollows.overflows_eq

theorem filled_input_followed :
    (origin.live moments).socket.input.filled =
      (Frame.deframe (origin.limit + Frame.prefixSize)
        (origin.journal moments).received).rest := by
  have hFollows := follows_recorded hWithin hListener moments
  rw [input_live]
  exact hFollows.input

end Followed

theorem overflowPolicy_live
    (origin : Origin τ ω)
    (moments : List (Moment τ ω)) :
    (origin.live moments).socket.framing.overflowPolicy =
      origin.framing.overflowPolicy := by
  rw [← overflowPolicy_clamped origin.framing]
  exact
    congrArg (·.framing.overflowPolicy)
      (shape_live origin moments)

/- Under the reset policy no overflow closes the stream. -/
theorem receives_recorded
    (hWithin : Transport.ReceivesWithin τ)
    {origin : Origin τ ω}
    (hListener : origin.listener = false)
    (hPolicy : origin.framing.overflowPolicy = .reset)
    (moments : List (Moment τ ω)) :
    Life.Receives (origin.limit + Frame.prefixSize)
      (origin.recorded moments) where
  toFollows := follows_recorded hWithin hListener moments
  policy :=
    (overflowPolicy_live origin.journaled _).trans hPolicy

section Reset

variable
  (hWithin : Transport.ReceivesWithin τ)
  {origin : Origin τ ω}
  (hListener : origin.listener = false)
  (hPolicy : origin.framing.overflowPolicy = .reset)
  (moments : List (Moment τ ω))

include hWithin hListener hPolicy

/- The packets are those of the reference. -/
theorem payloads_live :
    (origin.live moments).packets.map Prod.fst =
      (Frame.deframe (origin.limit + Frame.prefixSize)
        (origin.journal moments).received).payloads := by
  have hReceives :=
    receives_recorded hWithin hListener hPolicy moments
  rw [packets_live]
  exact hReceives.payloads

/- The measures are those of the reference, in order. -/
theorem inbound_live :
    (Report.measures (origin.live moments).reports).filter
        Measure.isInbound =
      (Frame.deframe (origin.limit + Frame.prefixSize)
        (origin.journal moments).received).segments.map
          Segment.measure := by
  rw [reports_live]
  exact
    (receives_recorded hWithin hListener hPolicy
      moments).measures

/- The overflows are those of the reference. -/
theorem overflows_live :
    (origin.live moments).overflows =
      (Frame.deframe (origin.limit + Frame.prefixSize)
        (origin.journal moments).received).overflows := by
  have hReceives :=
    receives_recorded hWithin hListener hPolicy moments
  rw [Life.overflows, reports_live]
  exact hReceives.overflows_eq

/- The input holds what the reference leaves undecided. -/
theorem filled_input_live :
    (origin.live moments).socket.input.filled =
      (Frame.deframe (origin.limit + Frame.prefixSize)
        (origin.journal moments).received).rest := by
  rw [input_live]
  exact
    (receives_recorded hWithin hListener hPolicy
      moments).input

end Reset

/-
  Whatever happens to a connection under the reset policy,
  over a stream that yields no more than there is room for:
  its packets are those of the reference, each with the
  address of the receive that completes it, its counters have
  the overflows of the reference, and its input holds what
  the reference leaves undecided.
-/
theorem packets_live_eq_deframe
    (hWithin : Transport.ReceivesWithin τ)
    {origin : Origin τ ω}
    (hListener : origin.listener = false)
    (hPolicy : origin.framing.overflowPolicy = .reset)
    (moments : List (Moment τ ω)) :
    let life := origin.live moments
    let journal := origin.journal moments
    let reference :=
      Frame.deframe life.socket.capacity journal.received
    life.packets.map Prod.fst = reference.payloads ∧
      life.packets =
        Frame.credit life.socket.capacity [] journal.chunks ∧
      (Metrics.ofMeasures
          (Report.measures life.reports)).bufferOverflows =
        UInt64.ofNat reference.overflows ∧
      life.socket.input.filled = reference.rest := by
  intro life journal reference
  have hReference :
      Frame.deframe (origin.limit + Frame.prefixSize)
          journal.received = reference := by
    rw [← capacity_live origin moments]
  refine ⟨?_, ?_, ?_, ?_⟩
  · rw [payloads_live hWithin hListener hPolicy]
    exact congrArg Deframed.payloads hReference
  · rw [capacity_live, packets_live]
    exact
      (receives_recorded hWithin hListener hPolicy
        moments).packets
  · rw [Metrics.bufferOverflows_ofMeasures]
    apply congrArg UInt64.ofNat
    exact
      (overflows_live hWithin hListener hPolicy
        moments).trans (congrArg Deframed.overflows hReference)
  · rw [filled_input_live hWithin hListener hPolicy]
    exact congrArg Deframed.rest hReference

/- A receiver of single bytes whose peer has sent others. -/
def shortReceiver : Origin Endpoint Network :=
  let ends :=
    Network.pair {} (.loopback 40001) (.loopback 40002)
  { transport := ends.1.2
    framing := { maxPacketSize := 1 }
    host :=
      { world :=
          (ends.1.1.send [0, 1, 9, 0, 5, 1, 0, 1, 7, 0]
            ends.2).world } }

/- It is told to read four times, and polled once. -/
def shortMoments : List (Moment Endpoint Network) :=
  [.operate (.notify .readable),
    .operate (.notify .readable), .operate .poll,
    .operate (.notify .readable),
    .operate (.notify .readable)]

/-
  A packet comes, the buffer overflows with what announces
  five bytes, and another packet comes.
-/
theorem packets_live_eq_deframe_short :
    Transport.ReceivesWithin Endpoint ∧
      shortReceiver.listener = false ∧
      shortReceiver.framing.overflowPolicy = .reset ∧
      (shortReceiver.live shortMoments).packets =
        [([9], some (.loopback 40001)),
          ([7], some (.loopback 40001))] ∧
      (Metrics.ofMeasures
          (Report.measures
            (shortReceiver.live
              shortMoments).reports)).bufferOverflows =
        1 ∧
      (shortReceiver.live shortMoments).socket.input.filled =
        [0] := by
  have hCapacity :
      (shortReceiver.live shortMoments).socket.capacity =
        3 := by
    decide +kernel
  have hChunks :
      (shortReceiver.journal shortMoments).chunks =
        [⟨[0, 1, 9], some (.loopback 40001)⟩,
          ⟨[0, 5, 1], some (.loopback 40001)⟩,
          ⟨[0, 1, 7], some (.loopback 40001)⟩,
          ⟨[0], some (.loopback 40001)⟩] := by
    decide +kernel
  have hReference :
      Frame.deframe 3 [0, 1, 9, 0, 5, 1, 0, 1, 7, 0] =
        ⟨[.packet [9], .overflow, .packet [7]], [0]⟩ := by
    decide +kernel
  have hListener : shortReceiver.listener = false := rfl
  have hAll :=
    packets_live_eq_deframe Endpoint.receivesWithin hListener
      rfl shortMoments
  simp only [Journaled.received, hCapacity, hChunks]
    at hAll
  rcases hAll with
    ⟨hPayloads, hPackets, hOverflows, hInput⟩
  refine
    ⟨Endpoint.receivesWithin, hListener, rfl, ?_, ?_, ?_⟩
  · rw [hPackets]
    decide +kernel
  · exact hOverflows.trans
      (congrArg (UInt64.ofNat ·.overflows) hReference)
  · exact hInput.trans (congrArg Deframed.rest hReference)

end Origin

end FrameLink
