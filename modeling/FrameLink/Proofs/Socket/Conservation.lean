import FrameLink.Proofs.Socket.Sending
import FrameLink.Proofs.Transport.Pipes

/-
  The balance of a life.

  A socket owes its stream the items that it has accepted:
  the frames that it has begun and the raw bytes that it has
  taken on.  Over any life, what is written and what still
  waits are these items, one behind the other
  (`Origin.balanced_recorded`).  Without raw bytes, what waits
  belongs to the frame begun last
  (`Origin.inFlight_recorded`).

  Key definitions include:
    * `Life.accepted`, `Life.acceptedFrom`
    * `Origin.accepted`
    * `Life.Balanced`
-/

------------------------------------------------------------
-- Accepted Items
------------------------------------------------------------

namespace FrameLink

namespace Life

variable {τ ω : Type} [Transport τ ω]

/- What one more moment of a life adds. -/
def accepted
    (r : Life (Journaled τ) ω)
    (moment : Moment τ ω) : List Bytes :=
  match moment with
  | .operate operation =>
      r.socket.accepted operation r.host
  | .disturb _ => []

/- What the moments that follow on a life add, in order. -/
def acceptedFrom
    (r : Life (Journaled τ) ω) :
    List (Moment τ ω) → List Bytes
  | [] => []
  | moment :: moments =>
      accepted r moment ++
        acceptedFrom (Socket.pass r moment.journaled) moments

/- What every moment keeps, with the items it adds, holds. -/
theorem acceptedFrom_induction
    {motive : Life (Journaled τ) ω → List Bytes → Prop}
    {moments : List (Moment τ ω)}
    {r : Life (Journaled τ) ω}
    (items : List Bytes)
    (hStart : motive r items)
    (hPass :
      ∀ r items moment, moment ∈ moments →
        motive r items →
        motive (Socket.pass r moment.journaled)
          (items ++ accepted r moment)) :
    motive ((moments.map .journaled).foldl Socket.pass r)
      (items ++ acceptedFrom r moments) := by
  induction moments generalizing r items with
  | nil =>
      rw [acceptedFrom, List.append_nil]
      exact hStart
  | cons moment moments ih =>
      rw [acceptedFrom, ← List.append_assoc, List.map_cons,
        List.foldl_cons]
      apply ih
      · exact hPass r items moment List.mem_cons_self hStart
      · intro r items later hLater
        exact hPass r items later
          (List.mem_cons_of_mem moment hLater)

/- The last moment adds its items behind all others. -/
theorem acceptedFrom_concat
    (r : Life (Journaled τ) ω)
    (moments : List (Moment τ ω))
    (moment : Moment τ ω) :
    acceptedFrom r (moments ++ [moment]) =
      acceptedFrom r moments ++
        accepted
          ((moments.map .journaled).foldl Socket.pass r)
          moment := by
  induction moments generalizing r with
  | nil => exact List.append_nil _
  | cons first moments ih =>
      rw [List.cons_append, acceptedFrom, acceptedFrom, ih,
        List.append_assoc]
      rfl

------------------------------------------------------------
-- Balance
------------------------------------------------------------

/- Items are written or wait, and the output has its room. -/
structure Balanced
    (r : Life (Journaled τ) ω)
    (items : List Bytes) : Prop where
  room :
    r.socket.output.capacity =
      r.socket.maxPacketSize + Frame.prefixSize
  balance :
    r.socket.transport.written ++ r.socket.output.filled =
      items.flatten

/- A moment adds what it accepts to the balance. -/
theorem Balanced.pass
    (hWithin : Transport.SendsWithin τ)
    {r : Life (Journaled τ) ω}
    {items : List Bytes}
    (hBalanced : Balanced r items)
    (moment : Moment τ ω) :
    Balanced (Socket.pass r moment.journaled)
      (items ++ accepted r moment) := by
  cases moment with
  | operate operation =>
      have hShape :=
        Socket.perform_shape r.socket operation r.host
      constructor
      · have hRoom := congrArg Socket.Shape.outputRoom hShape
        have hFraming := congrArg Socket.Shape.framing hShape
        simp only [Socket.shape] at hRoom hFraming
        change
          (r.socket.perform operation
              r.host).socket.output.capacity =
            (r.socket.perform operation
              r.host).socket.framing.maxPacketSize.toNat + _
        rw [hRoom, hFraming]
        exact hBalanced.room
      · have hStep :=
          Socket.balance_perform hWithin hBalanced.room
            operation r.host
        rw [hBalanced.balance] at hStep
        rw [List.flatten_append]
        exact hStep
  | disturb change =>
      rw [accepted, List.append_nil]
      exact ⟨hBalanced.room, hBalanced.balance⟩

end Life

------------------------------------------------------------
-- Origins
------------------------------------------------------------

namespace Origin

variable {τ ω : Type} [Transport τ ω]

/- The items that a socket accepts in its life, in order. -/
def accepted
    (origin : Origin τ ω)
    (moments : List (Moment τ ω)) : List Bytes :=
  Life.acceptedFrom (origin.recorded []) moments

/- A socket has nothing written and nothing waiting. -/
theorem started_output
    (origin : Origin (Journaled τ) ω) :
    origin.started.socket.output.filled = [] ∧
      origin.started.socket.transport.written =
        origin.transport.written := by
  unfold started Socket.start
  dsimp only
  split
  · exact ⟨Buffer.filled_ofCapacity _, rfl⟩
  · exact ⟨Buffer.filled_ofCapacity _, rfl⟩

/- A life begins with nothing owed. -/
theorem balanced_nil (origin : Origin τ ω) :
    Life.Balanced (origin.recorded []) [] := by
  rcases started_output origin.journaled with
    ⟨hOutput, hWritten⟩
  have hShape := started_shape origin.journaled
  have hRoom := congrArg Socket.Shape.outputRoom hShape
  have hFraming := congrArg Socket.Shape.framing hShape
  simp only [Socket.shape] at hRoom hFraming
  constructor
  · change
      origin.journaled.started.socket.output.capacity =
        origin.journaled.started.socket.maxPacketSize + _
    rw [hRoom, Socket.maxPacketSize, hFraming,
      maxPacketSize_clamped]
    rfl
  · change
      origin.journaled.started.socket.transport.written ++
        origin.journaled.started.socket.output.filled = []
    rw [hOutput, hWritten]
    rfl

/- The accepted items are written or wait. -/
theorem balanced_recorded
    (hWithin : Transport.SendsWithin τ)
    (origin : Origin τ ω)
    (moments : List (Moment τ ω)) :
    Life.Balanced (origin.recorded moments)
      (origin.accepted moments) := by
  apply Life.acceptedFrom_induction
    (motive := Life.Balanced) []
  · exact balanced_nil origin
  · intro r items moment hMember hBalanced
    exact hBalanced.pass hWithin moment

/- Without raw bytes one frame at most is in flight. -/
theorem inFlight_recorded
    (hWithin : Transport.SendsWithin τ)
    (origin : Origin τ ω)
    {moments : List (Moment τ ω)}
    (hFramed :
      ∀ data, Moment.operate (.sendRaw data) ∉ moments) :
    Socket.InFlight (origin.accepted moments)
      (origin.recorded moments).socket.output.filled := by
  have hBoth :
      Life.Balanced (origin.recorded moments)
          (origin.accepted moments) ∧
        Socket.InFlight (origin.accepted moments)
          (origin.recorded moments).socket.output.filled := by
    apply Life.acceptedFrom_induction
      (motive := fun r items =>
        Life.Balanced r items ∧
          Socket.InFlight items r.socket.output.filled)
      []
    · exact ⟨balanced_nil origin,
        .inl (started_output origin.journaled).1⟩
    · intro r items moment hMember hHolds
      refine ⟨hHolds.1.pass hWithin moment, ?_⟩
      cases moment with
      | operate operation =>
          apply Socket.inFlight_perform hWithin hHolds.1.room
          · intro data hRaw
            rw [hRaw] at hMember
            exact hFramed data hMember
          · exact hHolds.2
      | disturb change =>
          rw [Life.accepted, List.append_nil]
          exact hHolds.2
  exact hBoth.2

/- What waits fits a buffer. -/
theorem pendingOutput_le_capacity
    (origin : Origin τ ω)
    (moments : List (Moment τ ω)) :
    (origin.live moments).socket.pendingOutput ≤
      (origin.live moments).socket.capacity := by
  have hShape := shape_live origin moments
  have hInput := congrArg Socket.Shape.inputRoom hShape
  have hOutput := congrArg Socket.Shape.outputRoom hShape
  simp only [Socket.shape] at hInput hOutput
  rw [Socket.capacity, hInput, ← hOutput]
  exact (origin.live moments).socket.output.size_le

/-
  Whatever happens to a socket over a stream that claims no
  more than it is offered: the items that the socket has
  accepted are what is written and then what waits, what
  waits fits a buffer, and without raw bytes it belongs to
  the frame accepted last.
-/
theorem written_append_output
    (hWithin : Transport.SendsWithin τ)
    (origin : Origin τ ω)
    (moments : List (Moment τ ω)) :
    (origin.journal moments).written ++
          (origin.live moments).socket.output.filled =
        (origin.accepted moments).flatten ∧
      (origin.live moments).socket.pendingOutput ≤
        (origin.live moments).socket.capacity ∧
      ((∀ data, Moment.operate (.sendRaw data) ∉ moments) →
        Socket.InFlight (origin.accepted moments)
          (origin.live moments).socket.output.filled) := by
  have hBalanced := balanced_recorded hWithin origin moments
  refine ⟨?_, pendingOutput_le_capacity origin moments, ?_⟩
  · rw [output_live]
    exact hBalanced.balance
  · intro hFramed
    rw [output_live]
    exact inFlight_recorded hWithin origin hFramed

/- A sender whose stream takes three bytes and no more. -/
def narrowSender : Origin Endpoint Network :=
  let ends :=
    Network.pair {} (.loopback 40001) (.loopback 40002)
  { transport := { ends.1.1 with window := some 3 }
    framing := { maxPacketSize := 4 }
    host := { world := ends.2 } }

/- A packet is begun, and a second one is shed behind it. -/
def narrowMoments : List (Moment Endpoint Network) :=
  [.operate (.send [7, 8]), .operate (.send [9])]

/- Three bytes of the frame are written and the last waits. -/
theorem written_append_output_narrow :
    Transport.SendsWithin Endpoint ∧
      (∀ data,
        Moment.operate (.sendRaw data) ∉ narrowMoments) ∧
      (narrowSender.journal narrowMoments).written =
        [0, 2, 7] ∧
      (narrowSender.live narrowMoments).socket.output.filled =
        [8] ∧
      (narrowSender.accepted narrowMoments).flatten =
        [0, 2, 7, 8] ∧
      Socket.InFlight (narrowSender.accepted narrowMoments)
        [8] := by
  have hFramed :
      ∀ data,
        Moment.operate (.sendRaw data) ∉ narrowMoments := by
    intro data hMember
    simp [narrowMoments] at hMember
  have hWritten :
      (narrowSender.journal narrowMoments).written =
        [0, 2, 7] := by
    decide +kernel
  have hOutput :
      (narrowSender.live
          narrowMoments).socket.output.filled =
        [8] := by
    decide +kernel
  rcases written_append_output Endpoint.sendsWithin
      narrowSender narrowMoments with
    ⟨hItems, hRoom, hInFlight⟩
  rw [hOutput] at hInFlight
  rw [hWritten, hOutput] at hItems
  exact ⟨Endpoint.sendsWithin, hFramed, hWritten, hOutput,
    hItems.symm, hInFlight hFramed⟩

end Origin

end FrameLink
