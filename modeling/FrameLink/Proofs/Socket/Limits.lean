import FrameLink.Proofs.Codec.Ceiling
import FrameLink.Proofs.Socket.News
import FrameLink.Transport.Scripted

/-
  The limits of a socket, from its configuration to the wire.

  The greatest packet of a configuration is any number of 64
  bits.  Whatever it is, a socket sends and takes packets up
  to the smaller of it and the greatest payload of a frame,
  each of its buffers has room for one frame of that size and
  no more, and a connection that it hands over is no
  different.  A packet of the limit makes a frame that fills
  a buffer to the last byte; it is offered as a whole, and a
  socket of the same configuration delivers it
  (`Origin.limits_agree`).

  Key definitions include:
    * `Frame.wordCapacity`
    * `ConfigProblem.isPacketSize`
    * `Socket.HasLimit`, `Socket.sentResult`
-/

------------------------------------------------------------
-- Configurations
------------------------------------------------------------

namespace FrameLink

/- The room for one frame, in words of 64 bits. -/
def Frame.wordCapacity (limit : UInt64) : UInt64 :=
  if UInt64.ofNat maxPayload < limit then
    UInt64.ofNat maxFrame
  else
    limit + UInt64.ofNat prefixSize

/- Words are wide enough: no sum wraps around. -/
theorem Frame.toNat_wordCapacity (limit : UInt64) :
    (wordCapacity limit).toNat = capacity limit.toNat := by
  have hLess :
      UInt64.ofNat maxPayload < limit ↔
        maxPayload < limit.toNat :=
    UInt64.lt_iff_toNat_lt
  unfold wordCapacity capacity
  by_cases hOver : maxPayload < limit.toNat
  · rw [if_pos (hLess.mpr hOver), if_pos hOver]
    rfl
  · rw [if_neg (fun h => hOver (hLess.mp h)), if_neg hOver,
      UInt64.toNat_add]
    change (limit.toNat + prefixSize) % 2 ^ 64 = _
    apply Nat.mod_eq_of_lt
    simp only [maxPayload, prefixSize] at hOver ⊢
    omega

example :
    (Frame.wordCapacity 0xFFFFFFFFFFFFFFFF).toNat = 65536 := by
  decide

/- The problem is one with the greatest packet size. -/
def ConfigProblem.isPacketSize : ConfigProblem → Bool
  | .zeroPacketSize => true
  | .packetSizeTooLarge _ => true
  | _ => false

namespace FramingConfig

/- A size is changed by clamping if it is beyond a frame. -/
theorem maxPacketSize_clamped_ne_iff (c : FramingConfig) :
    c.clamped.maxPacketSize ≠ c.maxPacketSize ↔
      c.oversized = true := by
  constructor
  · intro hChanged
    apply Classical.byContradiction
    intro hFits
    rw [clamped, if_neg hFits] at hChanged
    exact hChanged rfl
  · intro hOver hSame
    have hSmall := Origin.maxPacketSize_clamped c
    have hLarge : Frame.maxPayload < c.maxPacketSize.toNat :=
      of_decide_eq_true hOver
    rw [hSame] at hSmall
    omega

/- The size is found fault with if it is none or too large. -/
theorem any_isPacketSize_problems_iff (c : FramingConfig) :
    c.problems.any ConfigProblem.isPacketSize = true ↔
      c.maxPacketSize = 0 ∨ c.oversized = true := by
  have hBacklog :
      c.backlogProblems.any ConfigProblem.isPacketSize =
        false := by
    unfold backlogProblems
    split
    · rfl
    · split
      · rfl
      · rfl
  rw [problems, List.any_append, hBacklog, Bool.or_false]
  unfold packetSizeProblems
  split
  · rename_i hZero
    exact ⟨fun _ => .inl hZero, fun _ => rfl⟩
  · rename_i hSome
    split
    · rename_i hOver
      exact ⟨fun _ => .inr hOver, fun _ => rfl⟩
    · rename_i hFits
      constructor
      · exact fun hNone => nomatch hNone
      · rintro (hZero | hOver)
        · exact absurd hZero hSome
        · exact absurd hOver hFits

end FramingConfig

------------------------------------------------------------
-- Sockets of a Limit
------------------------------------------------------------

namespace Socket

/- The greatest packet, and room for one frame of it. -/
structure HasLimit
    {τ : Type}
    (limit : Nat)
    (s : Socket τ) : Prop where
  packet : s.maxPacketSize = limit
  input : s.capacity = limit + Frame.prefixSize
  output : s.output.capacity = limit + Frame.prefixSize

theorem HasLimit.of_shape
    {τ : Type}
    {limit : Nat}
    {s s' : Socket τ}
    (hLimit : HasLimit limit s)
    (hShape : s'.shape = s.shape) :
    HasLimit limit s' where
  packet :=
    (congrArg (·.framing.maxPacketSize.toNat) hShape).trans
      hLimit.packet
  input := (congrArg Shape.inputRoom hShape).trans hLimit.input
  output :=
    (congrArg Shape.outputRoom hShape).trans hLimit.output

variable {τ ω : Type} [Transport τ ω]

/- What a flush of waiting bytes is told, by the answer. -/
def flushResult
    (offered : Bytes) :
    Except IoError Nat → Except SocketError Nat
  | .error e => .error (.transportFailure e)
  | .ok n =>
      if n = 0 then
        .ok 0
      else if offered.length < n then
        .error (.writeOverrun n offered.length)
      else
        .ok n

/-
  What the sender of a packet on an idle socket is told, by
  the answer of the stream to the whole frame.
-/
def sentResult
    (payload : Bytes)
    (answer : Except IoError Nat) :
    Except SocketError Nat :=
  match flushResult (Frame.bytes payload) answer with
  | .error e => .error e
  | .ok 0 => .error nothingWritten
  | .ok _ => .ok payload.length

/- A flush of waiting bytes offers all of them. -/
theorem result_flush
    {s : Socket τ}
    (hBusy : s.output.filled ≠ [])
    (host : Host ω) :
    (s.flush host).result =
      flushResult s.output.filled
        (Transport.send s.transport s.output.filled
          host.world).result := by
  unfold flush flushResult
  rw [if_neg (fun h => hBusy (Buffer.isEmpty_iff.mp h)),
    Buffer.length_filled]
  dsimp only
  cases
    (Transport.send s.transport s.output.filled
      host.world).result with
  | error e => rfl
  | ok n =>
      dsimp only
      split
      · rfl
      · split
        · rfl
        · rfl

/- A packet within the limit is offered as a whole frame. -/
theorem result_send
    {limit : Nat}
    {s : Socket τ}
    (hLimit : HasLimit limit s)
    (hMost : limit ≤ Frame.maxPayload)
    {payload : Bytes}
    (hIdle : s.output.filled = [])
    (hFits : payload.length ≤ limit)
    (host : Host ω) :
    (s.send payload host).result =
      sentResult payload
        (Transport.send s.transport (Frame.bytes payload)
          host.world).result := by
  have hAnnounced := Frame.maxPayload_le_maxAnnounced
  have hRoom :
      (Frame.bytes payload).length ≤ s.output.capacity := by
    rw [Frame.length_bytes, hLimit.output]
    omega
  have hQueued := Buffer.filled_frame hIdle hRoom
  have hFlush :=
    result_flush
      (s :=
        { s with
          output :=
            (s.output.append
              (Frame.prefixBytes payload.length)).append
                payload })
      (by rw [hQueued]; exact List.cons_ne_nil _ _) host
  dsimp only at hFlush
  rw [hQueued] at hFlush
  unfold send
  rw [Frame.encodePrefix_eq_ok_iff.mpr
    ⟨hLimit.packet ▸ hFits, by omega, rfl⟩]
  dsimp only
  rw [if_pos (Buffer.isEmpty_iff.mpr hIdle), sentResult,
    ← hFlush]
  unfold sendFrame
  dsimp only
  split
  · rename_i e hResult
    rw [hResult]
    rfl
  · rename_i written hResult
    rw [hResult]
    cases written with
    | zero => rfl
    | succ n => rfl

/- A packet is refused for its size exactly above the limit. -/
theorem send_eq_messageTooLarge_iff
    {limit : Nat}
    {s : Socket τ}
    (hLimit : HasLimit limit s)
    (hMost : limit ≤ Frame.maxPayload)
    (payload : Bytes)
    (host : Host ω) :
    (s.send payload host).result =
        .error (.messageTooLarge payload.length) ↔
      limit < payload.length := by
  constructor
  · intro hRefused
    apply Nat.lt_of_not_le
    intro hFits
    rw [← hLimit.packet] at hFits hMost
    exact
      (send_ne_messageTooLarge_iff hMost).mpr hFits _ hRefused
  · intro hLarge
    unfold send
    rw [hLimit.packet, Frame.encodePrefix,
      if_pos (.inl hLarge)]

end Socket

------------------------------------------------------------
-- Sockets of a Configuration
------------------------------------------------------------

namespace Origin

variable {τ ω : Type} [Transport τ ω]

/- A socket keeps the limit that it was made with. -/
theorem hasLimit_live
    (origin : Origin τ ω)
    (moments : List (Moment τ ω)) :
    Socket.HasLimit origin.limit
      (origin.live moments).socket where
  packet := maxPacketSize_live origin moments
  input := capacity_live origin moments
  output :=
    congrArg Socket.Shape.outputRoom (shape_live origin moments)

/- The connections that it hands over have the same. -/
theorem hasLimit_of_handed
    {origin : Origin τ ω}
    {moments : List (Moment τ ω)}
    {s : Socket τ}
    (hMember :
      .newConnection s ∈ (origin.live moments).emitted) :
    Socket.HasLimit origin.limit s := by
  rcases inherits_live origin moments _ hMember with
    ⟨admission, _, hFraming, _, rfl⟩
  have hLimit : admission.limit = origin.limit := by
    unfold limit
    rw [hFraming, maxPacketSize_clamped]
    omega
  rw [← hLimit]
  exact hasLimit_live admission _

/- The making of a socket warns of a size that it clamps. -/
theorem sizeClamped_mem_reports_iff (origin : Origin τ ω) :
    .line .sizeClamped ∈ origin.started.reports ↔
      origin.framing.oversized = true := by
  unfold started Socket.start
  dsimp only
  by_cases hOver : origin.framing.oversized = true
  · rw [if_pos hOver]
    split
    · simp [hOver]
    · simp [hOver]
  · rw [if_neg hOver]
    split
    · split
      · simp [hOver]
      · simp [hOver]
    · simp [hOver]

/-
  A socket of any configuration, whatever has happened to it.
  It has the smaller of the greatest packet that is asked for
  and that of a frame, and room for a frame of that size in
  each buffer, which words can express; so has every
  connection that it hands over.  Exactly the packets beyond
  are too large to send.  Any other, on an idle socket, is
  offered as a whole frame that fits the output and announces
  its length; and an idle connection of the same
  configuration that receives this frame, in whatever pieces,
  delivers the packet and meets no overflow.  The size of a
  configuration is found fault with if it is zero or if the
  making of a socket changes it and warns of that.
-/
theorem limits_agree
    {σ υ : Type}
    [Transport σ υ]
    (origin : Origin τ ω)
    (moments : List (Moment τ ω))
    (peer : Origin σ υ)
    (before later : List (Moment σ υ))
    (payload : Bytes) :
    let c := origin.framing
    let limit := min c.maxPacketSize.toNat 65534
    let life := origin.live moments
    let s := life.socket
    let frame := Frame.bytes payload
    (Socket.HasLimit limit s ∧
        (∀ t, .newConnection t ∈ life.emitted →
          Socket.HasLimit limit t) ∧
        s.capacity = Frame.capacity c.maxPacketSize.toNat ∧
        s.capacity =
          (Frame.wordCapacity c.maxPacketSize).toNat ∧
        s.capacity ≤ 65536) ∧
      ((s.send payload life.host).result =
          .error (.messageTooLarge payload.length) ↔
        limit < payload.length) ∧
      (payload.length ≤ limit → s.pendingOutput = 0 →
        (s.send payload life.host).result =
            Socket.sentResult payload
              (Transport.send s.transport frame
                life.host.world).result ∧
          (∃ answer,
            (origin.journal
                (moments ++
                  [.operate (.send payload)])).journal =
              (origin.journal moments).journal ++
                [.sent frame answer]) ∧
          frame.length ≤ s.output.capacity ∧
          Frame.decodePrefix? frame =
            some payload.length) ∧
      (payload.length ≤ limit →
        Transport.ReceivesWithin σ → peer.framing = c →
          peer.listener = false →
            (peer.live before).socket.bufferedInput = 0 →
              (peer.journal (before ++ later)).received =
                  (peer.journal before).received ++ frame →
                (peer.live
                      (before ++ later)).packets.map
                      Prod.fst =
                    (peer.live before).packets.map Prod.fst ++
                      [payload] ∧
                  (peer.live (before ++ later)).overflows =
                    (peer.live before).overflows) ∧
      (c.problems.any ConfigProblem.isPacketSize = true ↔
        c.maxPacketSize = 0 ∨
          s.framing.maxPacketSize ≠ c.maxPacketSize) ∧
      (.line .sizeClamped ∈ origin.started.reports ↔
        s.framing.maxPacketSize ≠ c.maxPacketSize) := by
  intro c limit life s frame
  have hLimit : Socket.HasLimit limit s :=
    hasLimit_live origin moments
  have hMost : limit ≤ Frame.maxPayload :=
    Nat.min_le_right _ _
  have hAnnounced := Frame.maxPayload_le_maxAnnounced
  have hCapacity :
      s.capacity = Frame.capacity c.maxPacketSize.toNat := by
    rw [hLimit.input, Frame.capacity_eq]
    rfl
  have hFraming : s.framing = c.clamped :=
    congrArg Socket.Shape.framing (shape_live origin moments)
  have hClamped :
      s.framing.maxPacketSize ≠ c.maxPacketSize ↔
        c.oversized = true := by
    rw [hFraming]
    exact FramingConfig.maxPacketSize_clamped_ne_iff c
  refine ⟨⟨hLimit, fun t hMember =>
      hasLimit_of_handed hMember, hCapacity, ?_, ?_⟩, ?_, ?_,
    ?_, ?_, ?_⟩
  · rw [hCapacity, Frame.toNat_wordCapacity]
  · rw [hLimit.input]
    exact Nat.add_le_add_right hMost Frame.prefixSize
  · exact
      Socket.send_eq_messageTooLarge_iff hLimit hMost payload
        life.host
  · intro hFits hIdle
    refine ⟨?_, ?_, ?_, ?_⟩
    · exact
        Socket.result_send hLimit hMost
          (Socket.filled_output_eq_nil_iff.mpr hIdle) hFits
          life.host
    · apply journal_send_of_idle origin moments _ hIdle
      exact hLimit.packet.symm ▸ hFits
    · rw [Frame.length_bytes, hLimit.output]
      omega
    · rw [← List.append_nil frame]
      exact Frame.decodePrefix?_bytes (by omega) []
  · intro hFits hWithin hSame hListener hIdle hReceived
    apply packets_of_bytes hWithin hListener hIdle _ hReceived
    rw [Origin.limit, hSame]
    exact hFits
  · rw [hClamped]
    exact FramingConfig.any_isPacketSize_problems_iff c
  · rw [hClamped]
    exact sizeClamped_mem_reports_iff origin

/- A listener for single bytes, with a connection waiting. -/
def snug : Origin Scripted Unit where
  transport :=
    { script :=
        { accepts := [.connects (.loopback 40009) {}]
          sends := [.all] } }
  listener := true
  framing := shortReceiver.framing
  host := { world := () }

/-
  A packet of the limit makes a frame that fills the input of
  its receiver to the last byte, and is delivered.
-/
theorem limits_agree_snug :
    let visited : List (Moment Scripted Unit) :=
      [.operate (.notify .readable)]
    let reading : List (Moment Endpoint Network) :=
      [.operate (.notify .readable)]
    let life := snug.live visited
    (∃ t, .newConnection t ∈ life.emitted ∧
        t.capacity = 3) ∧
      (life.socket.send [9] life.host).result = .ok 1 ∧
      (life.socket.send [9, 9] life.host).result =
        .error (.messageTooLarge 2) ∧
      (shortReceiver.live []).socket.capacity = 3 ∧
      (shortReceiver.journal reading).received =
        Frame.bytes [9] ∧
      (Frame.bytes [9]).length = 3 ∧
      (shortReceiver.live reading).packets.map Prod.fst =
        [[9]] ∧
      (shortReceiver.live reading).overflows = 0 := by
  intro visited reading life
  have hReceived :
      (shortReceiver.journal reading).received =
        Frame.bytes [9] := by
    decide +kernel
  have hIdle :
      (shortReceiver.live []).socket.bufferedInput = 0 := by
    decide +kernel
  have hTaken : ∃ t, life.emitted = [.newConnection t] :=
    ⟨_, rfl⟩
  have hAnswer :
      (Transport.send life.socket.transport (Frame.bytes [9])
        life.host.world).result = .ok 3 := by
    rfl
  rcases limits_agree snug visited shortReceiver [] reading
      [9] with
    ⟨⟨_, hHanded, _⟩, _, hSent, hDelivered, _⟩
  rcases limits_agree snug visited shortReceiver [] reading
      [9, 9] with
    ⟨_, hLarge, _⟩
  have hNext :=
    hDelivered (by decide) Endpoint.receivesWithin rfl rfl
      hIdle hReceived
  refine ⟨?_, ?_, hLarge.mpr (by decide), ?_, hReceived, rfl,
    hNext.1, hNext.2⟩
  · rcases hTaken with ⟨t, hTaken⟩
    have hMember : .newConnection t ∈ life.emitted := by
      rw [hTaken]
      exact List.mem_singleton_self _
    exact ⟨t, hMember, (hHanded t hMember).input⟩
  · rw [(hSent (by decide) rfl).1, hAnswer]
    rfl
  · exact capacity_live shortReceiver []

end Origin

end FrameLink
