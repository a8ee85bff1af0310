import FrameLink.Proofs.Codec.Language
import FrameLink.Proofs.Socket.Reassembly

/-
  The greatest payloads of a codec and of a socket.

  Both are given a limit, and both cap it.  The codec caps it
  at what a prefix can announce and the socket one byte below
  that, so that a buffer never exceeds 64 KiB.  For limits up
  to the cap of the socket the two agree.  Beyond it there is
  one length on which they do not: the codec encodes it, and
  the socket neither sends nor receives it
  (`Origin.ceilings`).

  Main statements:
    * `Codec.encode_isOk_iff`
    * `Socket.send_ne_messageTooLarge_iff`
    * `Origin.cut_of_idle`, `Origin.packets_of_bytes`
    * `Origin.packets_of_encode`
    * `Origin.ceilings`, `Origin.ceilings_differ`
-/

------------------------------------------------------------
-- Ceilings
------------------------------------------------------------

namespace FrameLink

/- A codec encodes what is within its capped limit. -/
theorem Codec.encode_isOk_iff
    {limit : Nat}
    {payload buffer : Bytes} :
    (∃ after,
        (withLimit limit).encode payload buffer =
          .ok after) ↔
      payload.length ≤ min limit Frame.maxAnnounced := by
  constructor
  · rintro ⟨after, hOk⟩
    unfold encode encodeInto at hOk
    split at hOk
    · rename_i hBoth
      split at hBoth
      · rename_i front hFront
        have hAll := Frame.encodePrefix_eq_ok_iff.mp hFront
        exact hAll.1
      · cases hBoth
    · cases hOk
  · intro hCeiling
    have hLimit : payload.length ≤ (withLimit limit).limit :=
      hCeiling
    exact ⟨_, encode_eq_ok hLimit (by omega) buffer⟩

namespace Socket

variable {τ ω : Type} [Transport τ ω]

/- A frame that is queued is never found too large. -/
theorem sendFrame_ne_messageTooLarge
    (s : Socket τ)
    (front payload : Bytes)
    (host : Host ω)
    (size : Nat) :
    (s.sendFrame front payload host).result ≠
      .error (.messageTooLarge size) := by
  have hFlush :=
    flush_result_ne
      { s with
        output := (s.output.append front).append payload }
      host size
  unfold sendFrame
  dsimp only
  split
  · rename_i e hResult
    rw [hResult] at hFlush
    intro hSame
    exact hFlush hSame
  · split
    · simp [discard, nothingWritten]
    · simp

/- A packet is too large exactly above the limit. -/
theorem send_ne_messageTooLarge_iff
    {s : Socket τ}
    (hMost : s.maxPacketSize ≤ Frame.maxPayload)
    {payload : Bytes}
    {host : Host ω} :
    (∀ size,
        (s.send payload host).result ≠
          .error (.messageTooLarge size)) ↔
      payload.length ≤ s.maxPacketSize := by
  have hAnnounced := Frame.maxPayload_le_maxAnnounced
  unfold send
  constructor
  · intro hNever
    apply Classical.byContradiction
    intro hLarge
    apply hNever payload.length
    rw [Frame.encodePrefix, if_pos (by omega)]
  · intro hFits size
    rw [Frame.encodePrefix_eq_ok_iff.mpr
      ⟨hFits, by omega, rfl⟩]
    dsimp only
    split
    · exact sendFrame_ne_messageTooLarge s _ payload host size
    · simp

end Socket

------------------------------------------------------------
-- Receiving on an Idle Connection
------------------------------------------------------------

namespace Origin

variable {τ ω : Type} [Transport τ ω]

/-
  With nothing undecided in its input, a connection cuts what
  it receives from then on by itself.
-/
theorem cut_of_idle
    (hWithin : Transport.ReceivesWithin τ)
    {origin : Origin τ ω}
    (hListener : origin.listener = false)
    {moments later : List (Moment τ ω)}
    (hIdle :
      (origin.live moments).socket.bufferedInput = 0)
    {bs : Bytes}
    (hReceived :
      (origin.journal (moments ++ later)).received =
        (origin.journal moments).received ++ bs) :
    let d :=
      Frame.deframe (origin.limit + Frame.prefixSize) bs
    let life := origin.live moments
    let next := origin.live (moments ++ later)
    next.packets.map Prod.fst =
        life.packets.map Prod.fst ++ d.payloads ∧
      next.overflows = life.overflows + d.overflows := by
  intro d life next
  have hNothing :
      (Frame.deframe (origin.limit + Frame.prefixSize)
        (origin.journal moments).received).rest = [] := by
    rw [← filled_input_followed hWithin hListener]
    rw [Socket.bufferedInput, ← Buffer.length_filled,
      List.length_eq_zero_iff] at hIdle
    exact hIdle
  have hCut :
      (Frame.deframe (origin.limit + Frame.prefixSize)
          (origin.journal (moments ++ later)).received).segments =
        (Frame.deframe (origin.limit + Frame.prefixSize)
            (origin.journal moments).received).segments ++
          d.segments := by
    rw [hReceived, Frame.deframe_append, hNothing,
      List.nil_append]
  refine ⟨?_, ?_⟩
  · rw [payloads_followed hWithin hListener,
      payloads_followed hWithin hListener, Deframed.payloads,
      hCut, List.filterMap_append]
    rfl
  · rw [overflows_followed hWithin hListener,
      overflows_followed hWithin hListener,
      Deframed.overflows, hCut, List.count_append]
    rfl

/-
  An idle connection that receives the frame of a packet of
  its limit delivers that packet and meets no overflow.
-/
theorem packets_of_bytes
    (hWithin : Transport.ReceivesWithin τ)
    {origin : Origin τ ω}
    (hListener : origin.listener = false)
    {moments later : List (Moment τ ω)}
    (hIdle :
      (origin.live moments).socket.bufferedInput = 0)
    {payload : Bytes}
    (hFits : payload.length ≤ origin.limit)
    (hReceived :
      (origin.journal (moments ++ later)).received =
        (origin.journal moments).received ++
          Frame.bytes payload) :
    let life := origin.live moments
    let next := origin.live (moments ++ later)
    next.packets.map Prod.fst =
        life.packets.map Prod.fst ++ [payload] ∧
      next.overflows = life.overflows := by
  intro life next
  have hMost : origin.limit ≤ Frame.maxPayload :=
    Nat.min_le_right _ _
  have hLess := Frame.maxPayload_le_maxAnnounced
  have hCut :
      Frame.deframe (origin.limit + Frame.prefixSize)
          (Frame.bytes payload ++ []) =
        _ :=
    Frame.deframe_bytes (by omega) (by omega) []
  rw [List.append_nil, Frame.deframe_nil] at hCut
  rcases cut_of_idle hWithin hListener hIdle hReceived with
    ⟨hPackets, hOverflows⟩
  rw [hCut] at hPackets hOverflows
  exact ⟨hPackets, hOverflows⟩

/-
  An idle connection that receives what a codec of its limit
  has encoded delivers that packet, unless the packet is one
  byte larger than any that the connection takes.
-/
theorem packets_of_encode
    (hWithin : Transport.ReceivesWithin τ)
    {origin : Origin τ ω}
    (hListener : origin.listener = false)
    {moments later : List (Moment τ ω)}
    (hIdle :
      (origin.live moments).socket.bufferedInput = 0)
    {payload frame : Bytes}
    (hFrame :
      (Codec.withLimit
          origin.framing.maxPacketSize.toNat).encode
        payload [] = .ok frame)
    (hReceived :
      (origin.journal (moments ++ later)).received =
        (origin.journal moments).received ++ frame) :
    let life := origin.live moments
    let next := origin.live (moments ++ later)
    if payload.length ≤ 65534 then
      next.packets.map Prod.fst =
          life.packets.map Prod.fst ++ [payload] ∧
        next.overflows = life.overflows
    else
      next.packets.map Prod.fst =
          life.packets.map Prod.fst ∧
        next.overflows = life.overflows + 1 := by
  intro life next
  have hLimit :
      origin.limit =
        min origin.framing.maxPacketSize.toNat 65534 :=
    rfl
  have hCeiling :
      payload.length ≤
        min origin.framing.maxPacketSize.toNat 65535 :=
    Codec.encode_isOk_iff.mp ⟨frame, hFrame⟩
  have hAnnounced : payload.length ≤ Frame.maxAnnounced :=
    Nat.le_trans hCeiling (Nat.min_le_right _ _)
  have hBytes : frame = Frame.bytes payload := by
    have hOk := Codec.encode_eq_ok hCeiling hAnnounced []
    exact (Except.ok.inj (hOk.symm.trans hFrame)).symm
  rw [hBytes] at hReceived
  split
  · rename_i hSmall
    apply packets_of_bytes hWithin hListener hIdle _ hReceived
    omega
  · rename_i hLarge
    rcases cut_of_idle hWithin hListener hIdle hReceived with
      ⟨hPackets, hOverflows⟩
    have hOver :
        payload.length + Frame.prefixSize =
          origin.limit + Frame.prefixSize + 1 := by
      omega
    have hCut :=
      Frame.deframe_bytes_of_one_over
        (Nat.le_add_left _ _) hOver hAnnounced
    rw [Deframed.payloads, hCut] at hPackets
    rw [Deframed.overflows, hCut] at hOverflows
    exact ⟨hPackets.trans (List.append_nil _), hOverflows⟩

/-
  Codec and socket of any limit.  Either has its ceiling, and
  a packet is encoded exactly where it is not too large to be
  sent, unless it is of the one length between the ceilings.
  An idle connection that receives what is encoded delivers
  the packet and nothing else; of the one length between, it
  delivers nothing and overflows.
-/
theorem ceilings
    (hWithin : Transport.ReceivesWithin τ)
    (origin : Origin τ ω)
    (moments : List (Moment τ ω))
    (payload : Bytes) :
    let limit := origin.framing.maxPacketSize.toNat
    let codec := Codec.withLimit limit
    let life := origin.live moments
    let encodes :=
      ∀ buffer, ∃ after, codec.encode payload buffer = .ok after
    let sends :=
      ∀ size,
        (life.socket.send payload life.host).result ≠
          .error (.messageTooLarge size)
    (encodes ↔ payload.length ≤ min limit 65535) ∧
      (sends ↔ payload.length ≤ min limit 65534) ∧
      ((encodes ↔ sends) ↔
        ¬ (65535 ≤ limit ∧ payload.length = 65535)) ∧
      (origin.listener = false →
        life.socket.bufferedInput = 0 →
          ∀ (frame : Bytes) (later : List (Moment τ ω)),
            codec.encode payload [] = .ok frame →
              (origin.journal (moments ++ later)).received =
                  (origin.journal moments).received ++ frame →
                let next := origin.live (moments ++ later)
                if payload.length ≤ 65534 then
                  next.packets.map Prod.fst =
                      life.packets.map Prod.fst ++
                        [payload] ∧
                    next.overflows = life.overflows
                else
                  next.packets.map Prod.fst =
                      life.packets.map Prod.fst ∧
                    next.overflows = life.overflows + 1) := by
  intro limit codec life encodes sends
  have hEncodes :
      encodes ↔ payload.length ≤ min limit 65535 := by
    constructor
    · intro hAll
      exact Codec.encode_isOk_iff.mp (hAll [])
    · intro hCeiling buffer
      exact Codec.encode_isOk_iff.mpr hCeiling
  have hSends :
      sends ↔ payload.length ≤ min limit 65534 := by
    have hLimit : life.socket.maxPacketSize = min limit 65534 :=
      maxPacketSize_live origin moments
    have hMost :
        life.socket.maxPacketSize ≤ Frame.maxPayload := by
      rw [hLimit]
      exact Nat.min_le_right _ _
    rw [← hLimit]
    exact Socket.send_ne_messageTooLarge_iff hMost
  refine ⟨hEncodes, hSends, ?_, ?_⟩
  · rw [hEncodes, hSends]
    omega
  · intro hListener hIdle frame later hFrame hReceived
    exact
      packets_of_encode hWithin hListener hIdle hFrame
        hReceived

/- A limit of one: the packet is sent and received. -/
theorem ceilings_short :
    let reading : List (Moment Endpoint Network) :=
      [.operate (.notify .readable)]
    Transport.ReceivesWithin Endpoint ∧
      shortReceiver.listener = false ∧
      (shortReceiver.live []).socket.bufferedInput = 0 ∧
      (Codec.withLimit 1).encode [9] [] = .ok [0, 1, 9] ∧
      (shortReceiver.journal reading).received =
        [0, 1, 9] ∧
      (shortReceiver.live reading).packets.map Prod.fst =
        [[9]] ∧
      (shortReceiver.live reading).overflows = 0 ∧
      ∀ size,
        ((shortReceiver.live []).socket.send [9]
            (shortReceiver.live []).host).result ≠
          .error (.messageTooLarge size) := by
  intro reading
  have hIdle :
      (shortReceiver.live []).socket.bufferedInput = 0 := by
    decide +kernel
  have hFrame :
      (Codec.withLimit 1).encode [9] [] = .ok [0, 1, 9] := by
    rfl
  have hReceived :
      (shortReceiver.journal reading).received =
        [0, 1, 9] := by
    decide +kernel
  rcases ceilings Endpoint.receivesWithin shortReceiver []
      [9] with
    ⟨_, hSends, _, hReceives⟩
  have hNext :=
    hReceives rfl hIdle [0, 1, 9] reading hFrame hReceived
  exact ⟨Endpoint.receivesWithin, rfl, hIdle, hFrame,
    hReceived, hNext.1, hNext.2, hSends.mpr (by decide)⟩

/- A socket whose limit is all that a prefix can announce. -/
def widest : Origin Endpoint Network :=
  { shortReceiver with framing := { maxPacketSize := 65535 } }

/- Of 65535 bytes the codec makes a frame, the socket none. -/
theorem ceilings_differ :
    ∃ payload : Bytes,
      payload = List.replicate 65535 0 ∧
        (Codec.withLimit 65535).encode payload [] =
            .ok (Frame.bytes payload) ∧
          ((widest.live []).socket.send payload
              (widest.live []).host).result =
            .error (.messageTooLarge 65535) := by
  have hAny :
      ∀ payload : Bytes,
        payload.length = 65535 →
          (Codec.withLimit 65535).encode payload [] =
              .ok (Frame.bytes payload) ∧
            ((widest.live []).socket.send payload
                (widest.live []).host).result =
              .error (.messageTooLarge 65535) := by
    intro payload hLength
    have hLimit :
        payload.length ≤ (Codec.withLimit 65535).limit :=
      Nat.le_of_eq hLength
    have hPacket :
        (widest.live []).socket.maxPacketSize = 65534 :=
      maxPacketSize_live widest []
    refine ⟨?_, ?_⟩
    · exact
        Codec.encode_eq_ok hLimit (Nat.le_of_eq hLength) []
    · have hRefused :
          Frame.encodePrefix payload.length
              (widest.live []).socket.maxPacketSize =
            .error (.messageTooLarge 65535) := by
        rw [hLength, hPacket]
        rfl
      unfold Socket.send
      rw [hRefused]
  exact ⟨_, rfl, hAny _ List.length_replicate⟩

end Origin

end FrameLink
