import FrameLink.Proofs.Frame.Format
import FrameLink.Proofs.Socket.Reach

/-
  The shape of a socket: what is fixed when it is made.

  A socket is a listener or a connection, it has its limits,
  and each of its buffers holds one frame of the greatest
  packet.  No moment of its life changes any of that
  (`Origin.live_shape`).

  Key definitions include:
    * `Socket.Shape`, `Socket.shape`
    * `Origin.limit`
-/

------------------------------------------------------------
-- Appending to Buffers
------------------------------------------------------------

namespace FrameLink

namespace Buffer

@[simp]
theorem capacity_append (b : Buffer) (bs : Bytes) :
    (b.append bs).capacity = b.capacity := by
  unfold append append?
  split
  · exact capacity_fill b bs
  · rfl

theorem capacity_append?
    {b c : Buffer}
    {bs : Bytes}
    (hRoom : b.append? bs = some c) :
    c.capacity = b.capacity := by
  rcases append?_eq_some_iff.mp hRoom with ⟨_, rfl⟩
  exact capacity_fill b bs

theorem filled_append
    {b : Buffer}
    {bs : Bytes}
    (hRoom : bs.length ≤ b.remaining) :
    (b.append bs).filled = b.filled ++ bs := by
  have hSome : b.append? bs = some (b.fill bs) :=
    append?_eq_some_iff.mpr ⟨hRoom, rfl⟩
  rw [append, hSome]
  exact filled_append? hSome

/- Two pieces that fit together are both appended. -/
theorem filled_append_append
    {b : Buffer}
    {front back : Bytes}
    (hRoom : (front ++ back).length ≤ b.remaining) :
    ((b.append front).append back).filled =
      b.filled ++ (front ++ back) := by
  rw [List.length_append] at hRoom
  have hFront : (b.append front).filled = b.filled ++ front :=
    filled_append (by omega)
  have hBefore := size_add_remaining b
  have hAfter := size_add_remaining (b.append front)
  rw [← length_filled] at hBefore
  rw [← length_filled, hFront, List.length_append,
    capacity_append] at hAfter
  rw [filled_append (by omega), hFront, List.append_assoc]

theorem isEmpty_iff
    {b : Buffer} :
    b.isEmpty = true ↔ b.filled = [] := by
  rw [isEmpty, beq_iff_eq, ← length_filled,
    List.length_eq_zero_iff]

end Buffer

------------------------------------------------------------
-- Shapes
------------------------------------------------------------

namespace Socket

/- What stays the same about a socket. -/
structure Shape where
  listener : Bool
  framing : FramingConfig
  inputRoom : Nat
  outputRoom : Nat

/- The shape of a socket. -/
def shape {τ : Type} (s : Socket τ) : Shape where
  listener := s.listener
  framing := s.framing
  inputRoom := s.input.capacity
  outputRoom := s.output.capacity

variable {τ ω : Type} [Transport τ ω]

theorem flush_shape
    (s : Socket τ)
    (host : Host ω) :
    (s.flush host).socket.shape = s.shape := by
  unfold flush
  split
  · rfl
  · dsimp only
    split
    · rfl
    · split
      · rfl
      · split
        · rfl
        · simp only [shape, Buffer.capacity_consume]

theorem sendFrame_shape
    (s : Socket τ)
    (front payload : Bytes)
    (host : Host ω) :
    (s.sendFrame front payload host).socket.shape =
      s.shape := by
  have hFlush :=
    flush_shape
      { s with
        output := (s.output.append front).append payload }
      host
  simp only [shape, Buffer.capacity_append] at hFlush
  unfold sendFrame
  dsimp only
  split
  · exact hFlush
  · split
    · exact hFlush
    · exact hFlush

theorem send_shape
    (s : Socket τ)
    (payload : Bytes)
    (host : Host ω) :
    (s.send payload host).socket.shape = s.shape := by
  unfold send
  split
  · rfl
  · split
    · exact sendFrame_shape s _ payload host
    · rfl

theorem sendRaw_shape
    (s : Socket τ)
    (data : Bytes)
    (host : Host ω) :
    (s.sendRaw data host).socket.shape = s.shape := by
  unfold sendRaw
  split
  · rfl
  · rename_i queued hRoom
    have hFlush := flush_shape { s with output := queued } host
    simp only [shape, Buffer.capacity_append? hRoom] at hFlush
    exact hFlush

theorem overflow_shape
    (s : Socket τ)
    (host : Host ω) :
    (s.overflow host).socket.shape = s.shape := by
  rcases overflow_reach s host with
    ⟨transport, closed, events, hOverflow⟩
  rw [hOverflow]
  simp only [shape, Buffer.capacity_clear]

theorem takeBytes_shape
    (s : Socket τ)
    (bs : Bytes)
    (host : Host ω) :
    (s.takeBytes bs host).socket.shape = s.shape := by
  have hDelivered :
      (deliver { s with input := s.input.fill bs }).1.shape =
        s.shape := by
    simp only [deliver, shape, Buffer.capacity_consume,
      Buffer.capacity_fill]
  unfold takeBytes
  dsimp only
  split
  · exact (overflow_shape _ _).trans hDelivered
  · exact hDelivered

theorem readInput_shape
    (s : Socket τ)
    (host : Host ω) :
    (s.readInput host).socket.shape = s.shape := by
  unfold readInput
  dsimp only
  split
  · exact takeBytes_shape _ _ _
  · split
    · rfl
    · rfl

/- No operation changes the shape of a socket. -/
theorem perform_shape
    (s : Socket τ)
    (operation : Operation)
    (host : Host ω) :
    (s.perform operation host).socket.shape = s.shape := by
  cases operation with
  | send data => exact send_shape s data host
  | sendTo data address =>
      unfold perform sendTo
      dsimp only [resulting]
      split
      · exact send_shape s data host
      · rfl
  | sendRaw data => exact sendRaw_shape s data host
  | flush => exact flush_shape s host
  | poll =>
      unfold perform poll
      dsimp only
      split
      · rfl
      · rfl
  | drain => rfl
  | notify notification =>
      cases notification with
      | connected => rfl
      | readable =>
          unfold perform handle onReadable
          dsimp only [resulting]
          split
          · rcases acceptConnection_reach s host with
              ⟨events, hAccept⟩
            rw [hAccept]
            rfl
          · exact readInput_shape s host
      | writable =>
          unfold perform handle onWritable
          dsimp only [resulting]
          split
          · rfl
          · exact flush_shape s host
      | closed code =>
          rcases announceClose_reach s code with
            ⟨closed, events, hClose⟩
          simp only [perform, resulting, handle, hClose]
          rfl

end Socket

------------------------------------------------------------
-- The Shape of a Life
------------------------------------------------------------

namespace Origin

variable {τ ω : Type} [Transport τ ω]

/- The greatest payload that the socket sends and takes. -/
def limit (origin : Origin τ ω) : Nat :=
  min origin.framing.maxPacketSize.toNat Frame.maxPayload

/- The clamped size is the smaller of the two. -/
theorem maxPacketSize_clamped (framing : FramingConfig) :
    framing.clamped.maxPacketSize.toNat =
      min framing.maxPacketSize.toNat Frame.maxPayload := by
  unfold FramingConfig.clamped FramingConfig.oversized
  split
  · rename_i hOver
    have hLess := of_decide_eq_true hOver
    change Frame.maxPayload = _
    omega
  · rename_i hOver
    have hLess : ¬ Frame.maxPayload <
        framing.maxPacketSize.toNat := by
      simpa using hOver
    omega

/- Clamping twice clamps no more. -/
theorem clamped_clamped (framing : FramingConfig) :
    framing.clamped.clamped = framing.clamped := by
  have hSmall : framing.clamped.oversized = false := by
    rw [FramingConfig.oversized, decide_eq_false_iff_not,
      maxPacketSize_clamped]
    omega
  rw [FramingConfig.clamped, if_neg]
  rw [hSmall]
  exact Bool.false_ne_true

/- Each buffer has room for one frame of the limit. -/
theorem capacity_clamped (framing : FramingConfig) :
    Frame.capacity framing.clamped.maxPacketSize.toNat =
      min framing.maxPacketSize.toNat Frame.maxPayload +
        Frame.prefixSize := by
  rw [maxPacketSize_clamped, Frame.capacity_eq]
  omega

theorem started_shape (origin : Origin τ ω) :
    origin.started.socket.shape =
      { listener := origin.listener
        framing := origin.framing.clamped
        inputRoom := origin.limit + Frame.prefixSize
        outputRoom := origin.limit + Frame.prefixSize } := by
  unfold started Socket.start
  dsimp only
  split
  · simp only [Socket.shape, Socket.make,
      Buffer.capacity_ofCapacity, capacity_clamped, limit]
  · simp only [Socket.shape, Socket.make,
      Buffer.capacity_ofCapacity, capacity_clamped, limit]

/- A socket has the shape it was made with. -/
theorem live_shape
    (origin : Origin τ ω)
    (moments : List (Moment τ ω)) :
    (origin.live moments).socket.shape =
      origin.started.socket.shape := by
  unfold live
  apply Socket.live_induction
    (motive := fun r =>
      r.socket.shape = origin.started.socket.shape)
  · rfl
  · intro r moment hShape
    cases moment with
    | operate operation =>
        exact (Socket.perform_shape _ _ _).trans hShape
    | disturb change => exact hShape

theorem shape_live
    (origin : Origin τ ω)
    (moments : List (Moment τ ω)) :
    (origin.live moments).socket.shape =
      { listener := origin.listener
        framing := origin.framing.clamped
        inputRoom := origin.limit + Frame.prefixSize
        outputRoom := origin.limit + Frame.prefixSize } :=
  (live_shape origin moments).trans (started_shape origin)

theorem listener_live
    (origin : Origin τ ω)
    (moments : List (Moment τ ω)) :
    (origin.live moments).socket.listener =
      origin.listener :=
  congrArg Socket.Shape.listener (shape_live origin moments)

theorem maxPacketSize_live
    (origin : Origin τ ω)
    (moments : List (Moment τ ω)) :
    (origin.live moments).socket.maxPacketSize =
      origin.limit := by
  have hFraming :=
    congrArg Socket.Shape.framing (shape_live origin moments)
  rw [limit, ← maxPacketSize_clamped]
  exact congrArg (·.maxPacketSize.toNat) hFraming

/- The room of a socket is fixed by its limit. -/
theorem capacity_live
    (origin : Origin τ ω)
    (moments : List (Moment τ ω)) :
    (origin.live moments).socket.capacity =
      origin.limit + Frame.prefixSize :=
  congrArg Socket.Shape.inputRoom (shape_live origin moments)

end Origin

end FrameLink
