import FrameLink.Proofs.Codec.Decoding
import FrameLink.Proofs.Socket.Reassembly

/-
  The two receivers of one wire format.

  A codec and a socket of the same limit, given the same
  bytes in whatever chunks, yield the same packets while the
  codec refuses nothing, and are left with the same bytes.
  Where the codec refuses a frame the socket comes to the
  same packets before its first overflow, and it overflows
  once a buffer full of bytes stands behind them
  (`Origin.receivers_agree`).

  Key definitions include:
    * `Life.packetsBeforeOverflow`
-/

------------------------------------------------------------
-- Before the First Overflow
------------------------------------------------------------

namespace FrameLink

/- The measure is of a packet that is received. -/
def Measure.isPacket : Measure → Bool
  | .packetReceived _ => true
  | _ => false

namespace Life

variable {τ ω : Type}

/-
  The payloads of the packets that came before the first
  overflow, of which the measures tell the number.
-/
def packetsBeforeOverflow (r : Life τ ω) : List Bytes :=
  (r.packets.map Prod.fst).take
    (((Report.measures r.reports).takeWhile
      (· ≠ .bufferOverflow)).countP Measure.isPacket)

end Life

namespace Segment

/- Measures tell the packets before the first overflow. -/
theorem countP_isPacket_takeWhile
    {measures : List Measure}
    {segments : List Segment}
    (hInbound :
      measures.filter Measure.isInbound =
        segments.map measure) :
    (measures.takeWhile (· ≠ .bufferOverflow)).countP
        Measure.isPacket =
      (segments.takeWhile (· ≠ .overflow)).length := by
  induction measures generalizing segments with
  | nil =>
      rw [List.filter_nil, eq_comm, List.map_eq_nil_iff]
        at hInbound
      rw [hInbound]
      rfl
  | cons m measures ih =>
      have hAside :
          m.isInbound = false →
            m ≠ .bufferOverflow →
            m.isPacket = false →
            ((m :: measures).takeWhile
                (· ≠ .bufferOverflow)).countP
                Measure.isPacket =
              (segments.takeWhile (· ≠ .overflow)).length := by
        intro hOut hNone hOther
        rw [List.filter_cons_of_neg (by simp [hOut])]
          at hInbound
        rw [List.takeWhile_cons_of_pos (by simp [hNone]),
          List.countP_cons_of_neg (by simp [hOther])]
        exact ih hInbound
      cases m with
      | packetReceived size =>
          rw [List.filter_cons_of_pos rfl, eq_comm,
            List.map_eq_cons_iff] at hInbound
          rcases hInbound with
            ⟨segment, later, rfl, hFirst, hLater⟩
          cases segment with
          | overflow => cases hFirst
          | packet payload =>
              rw [List.takeWhile_cons_of_pos rfl,
                List.takeWhile_cons_of_pos rfl,
                List.countP_cons_of_pos rfl,
                ih hLater.symm, List.length_cons]
      | bufferOverflow =>
          rw [List.filter_cons_of_pos rfl, eq_comm,
            List.map_eq_cons_iff] at hInbound
          rcases hInbound with
            ⟨segment, later, rfl, hFirst, hLater⟩
          cases segment with
          | packet payload => cases hFirst
          | overflow => rfl
      | _ => exact hAside rfl (by simp) rfl

/- In front of an overflow stand the packets before it. -/
theorem takeWhile_map_packet_append
    (payloads : List Bytes)
    {later : List Segment}
    (hLater : later.takeWhile (· ≠ .overflow) = []) :
    (payloads.map packet ++ later).takeWhile
        (· ≠ .overflow) =
      payloads.map packet := by
  induction payloads with
  | nil => exact hLater
  | cons payload payloads ih =>
      rw [List.map_cons, List.cons_append,
        List.takeWhile_cons_of_pos (by simp), ih]

end Segment

------------------------------------------------------------
-- Agreement
------------------------------------------------------------

namespace Origin

variable {τ ω : Type} [Transport τ ω]

/- Packets in front of an overflow come before it. -/
theorem packetsBeforeOverflow_live
    (hWithin : Transport.ReceivesWithin τ)
    {origin : Origin τ ω}
    (hListener : origin.listener = false)
    (hPolicy : origin.framing.overflowPolicy = .reset)
    (moments : List (Moment τ ω))
    {payloads : List Bytes}
    {later : List Segment}
    (hSegments :
      (Frame.deframe (origin.limit + Frame.prefixSize)
          (origin.journal moments).received).segments =
        payloads.map .packet ++ later)
    (hLater : later.takeWhile (· ≠ .overflow) = []) :
    (origin.live moments).packetsBeforeOverflow =
      payloads := by
  have hInbound :=
    inbound_live hWithin hListener hPolicy moments
  rw [hSegments] at hInbound
  rw [Life.packetsBeforeOverflow,
    Segment.countP_isPacket_takeWhile hInbound,
    Segment.takeWhile_map_packet_append payloads hLater,
    payloads_live hWithin hListener hPolicy,
    Deframed.payloads, hSegments, List.filterMap_append,
    Segment.filterMap_payload?_map_packet, List.length_map,
    List.take_left]

/-
  Given the same bytes, a codec and a connection under the
  reset policy agree, in whatever chunks each of them gets
  the bytes.  Where the codec waits in the end, packets and
  remaining bytes are the same and nothing has overflowed.
  Where it refuses a frame it does so for good; the packets
  before the first overflow are the same; and there is an
  overflow exactly if the bytes behind them fill a buffer.
-/
theorem receivers_agree
    (hWithin : Transport.ReceivesWithin τ)
    {origin : Origin τ ω}
    (hListener : origin.listener = false)
    (hPolicy : origin.framing.overflowPolicy = .reset)
    (hLimit :
      origin.framing.maxPacketSize.toNat ≤ Frame.maxPayload)
    {moments : List (Moment τ ω)}
    {chunks : List Bytes}
    (hReceived :
      (origin.journal moments).received = chunks.flatten) :
    let limit := origin.framing.maxPacketSize.toNat
    let codec := Codec.withLimit limit
    let (payloads, last, left) := codec.feed chunks
    let life := origin.live moments
    (last = .waiting ∧
        life.packets.map Prod.fst = payloads ∧
        life.overflows = 0 ∧
        life.socket.input.filled = left) ∨
      ∃ n,
        last = .refused (.messageTooLarge n) ∧
          life.packetsBeforeOverflow = payloads ∧
          (∀ more,
            codec.decode (left ++ more) =
              (.refused (.messageTooLarge n),
                left ++ more)) ∧
          (0 < life.overflows ↔
            limit + 2 ≤
              (chunks.flatten.drop
                (payloads.flatMap
                  Frame.bytes).length).length) := by
  intro limit codec
  dsimp only
  have hCodec : codec.limit = limit := by
    change min limit Frame.maxAnnounced = limit
    have hMost := Frame.maxPayload_le_maxAnnounced
    omega
  have hRoom : origin.limit = limit := by
    rw [Origin.limit]
    omega
  have hCapacity :
      codec.limit + Frame.prefixSize =
        origin.limit + Frame.prefixSize := by
    rw [hCodec, hRoom]
  rw [Codec.feed_eq_decodeAll, ← hReceived]
  have hDeframed :=
    Codec.deframe_eq_decodeAll hCapacity
      (origin.journal moments).received
  have hBefore :=
    packetsBeforeOverflow_live hWithin hListener hPolicy
      moments (congrArg Deframed.segments hDeframed)
  rcases Codec.last_decodeAll codec
      (origin.journal moments).received with
    hWaiting | ⟨n, hRefused, hPrefix, hTooLarge⟩
  · have hAll :=
      Codec.deframe_of_last_waiting hCapacity hWaiting
    refine .inl ⟨hWaiting, ?_, ?_, ?_⟩
    · rw [payloads_live hWithin hListener hPolicy, hAll]
      exact Segment.filterMap_payload?_map_packet _
    · rw [overflows_live hWithin hListener hPolicy, hAll]
      exact List.count_eq_zero.mpr
        (Segment.overflow_notMem_map_packet _)
    · rw [filled_input_live hWithin hListener hPolicy, hAll]
  · refine .inr ⟨n, hRefused, ?_, ?_, ?_⟩
    · apply hBefore
      rw [Codec.deframe_of_limit_lt hCapacity hPrefix hTooLarge]
      split
      · rfl
      · rfl
    · intro more
      exact Codec.decode_of_limit_lt hPrefix hTooLarge more
    · rw [overflows_live hWithin hListener hPolicy,
        Codec.overflows_deframe_pos_iff hCapacity hPrefix
          hTooLarge,
        Codec.drop_flatMap_bytes, hRoom]
      rfl

/-
  The short receiver overflows where a codec of its limit
  refuses a frame of five bytes, behind the same packet.
-/
theorem receivers_agree_short :
    Transport.ReceivesWithin Endpoint ∧
      shortReceiver.listener = false ∧
      shortReceiver.framing.overflowPolicy = .reset ∧
      shortReceiver.framing.maxPacketSize.toNat ≤
        Frame.maxPayload ∧
      (shortReceiver.journal shortMoments).received =
        [[0], [1, 9, 0, 5], [1, 0, 1, 7, 0]].flatten ∧
      (Codec.withLimit 1).feed
          [[0], [1, 9, 0, 5], [1, 0, 1, 7, 0]] =
        ([[9]], .refused (.messageTooLarge 5),
          [0, 5, 1, 0, 1, 7, 0]) ∧
      (shortReceiver.live
          shortMoments).packetsBeforeOverflow = [[9]] ∧
      0 < (shortReceiver.live shortMoments).overflows := by
  have hLimit :
      shortReceiver.framing.maxPacketSize.toNat ≤
        Frame.maxPayload := by
    decide
  have hReceived :
      (shortReceiver.journal shortMoments).received =
        [[0], [1, 9, 0, 5], [1, 0, 1, 7, 0]].flatten := by
    decide +kernel
  have hFed :
      (Codec.withLimit 1).feed
          [[0], [1, 9, 0, 5], [1, 0, 1, 7, 0]] =
        ([[9]], .refused (.messageTooLarge 5),
          [0, 5, 1, 0, 1, 7, 0]) := by
    decide +kernel
  have hAgree :=
    receivers_agree Endpoint.receivesWithin rfl rfl hLimit
      hReceived
  rw [show shortReceiver.framing.maxPacketSize.toNat = 1
    from rfl] at hAgree
  dsimp only at hAgree
  rw [hFed] at hAgree
  rcases hAgree with ⟨hWaiting, _⟩ |
    ⟨n, hRefused, hBefore, hAgain, hOverflows⟩
  · cases hWaiting
  · refine ⟨Endpoint.receivesWithin, rfl, rfl, hLimit,
      hReceived, hFed, hBefore, hOverflows.mpr ?_⟩
    decide

end Origin

end FrameLink
