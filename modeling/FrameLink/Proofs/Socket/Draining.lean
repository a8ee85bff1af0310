import FrameLink.Proofs.Reception.Service
import FrameLink.Proofs.Transport.Account

/-
  Reading and writing go on until nothing is left.

  A connection under the reset policy, over an open stream,
  always has room in its input.  So a readable notification
  takes at least one byte where there is one, and a writable
  one writes at least one byte where the window is not closed
  (`Life.Working.takesIn`,
  `Life.Working.pendingOutput_writable`).  Either loop
  therefore ends, within as many turns as there were bytes
  (`Life.Working.progresses`).

  Each frame is two bytes at least, so the loop that cuts
  frames off the input ends within half as many turns as it
  holds bytes (`Frame.turns_eq_unframe`).

  Key definitions include:
    * `EndsWithin`
    * `Frame.turns`
    * `Life.Working`
    * `Life.reads`, `Life.rounds`
    * `Life.Progresses`
-/

------------------------------------------------------------
-- Loops That End
------------------------------------------------------------

namespace FrameLink

/-
  A loop that goes on as long as a measure is not zero ends
  within some number of turns.
-/
def EndsWithin (measure : Nat → Nat) (turns : Nat) : Prop :=
  ∃ k, k ≤ turns ∧ (∀ j, j < k → 0 < measure j) ∧ measure k = 0

/-
  A measure that shrinks at each turn comes to zero.  The
  induction is on its first value; the loop that is left after
  the first turn begins with a smaller one.
-/
theorem endsWithin_of_lt
    {measure : Nat → Nat}
    (hLess :
      ∀ j, 0 < measure j → measure (j + 1) < measure j) :
    EndsWithin measure (measure 0) := by
  generalize hStart : measure 0 = n
  induction n using Nat.strongRecOn generalizing measure with
  | ind n ih =>
      by_cases hZero : n = 0
      · exact
          ⟨0, Nat.zero_le n, nofun, hStart.trans hZero⟩
      · have hFirst : measure 1 < measure 0 :=
          hLess 0 (by omega)
        have hLater :
            EndsWithin (fun j => measure (j + 1))
              (measure 1) :=
          ih (measure 1) (by omega)
            (fun j hSome => hLess (j + 1) hSome) rfl
        rcases hLater with ⟨k, hMost, hBefore, hEnd⟩
        refine ⟨k + 1, by omega, ?_, hEnd⟩
        intro j hEarlier
        cases j with
        | zero => omega
        | succ j => exact hBefore j (by omega)

------------------------------------------------------------
-- Cutting Frames Off
------------------------------------------------------------

namespace Frame

/-
  The payloads that are cut off in so many turns at most, a
  frame in each, and what follows them.
-/
def turns : Nat → Bytes → List Bytes × Bytes
  | 0, bs => ([], bs)
  | n + 1, bs =>
      match read? bs with
      | none => ([], bs)
      | some (payload, rest) =>
          (payload :: (turns n rest).1, (turns n rest).2)

theorem length_le_of_read?
    {bs payload rest : Bytes}
    (hRead : read? bs = some (payload, rest)) :
    rest.length + prefixSize ≤ bs.length := by
  obtain ⟨frame, hFrame, rfl⟩ := exists_of_read? hRead
  rw [List.length_append, hFrame.length_eq]
  omega

/- Half as many turns as there are bytes cut all frames off. -/
theorem turns_eq_unframe
    {n : Nat}
    {bs : Bytes}
    (hEnough : bs.length ≤ 2 * n + 1) :
    turns n bs = unframe bs := by
  induction n generalizing bs with
  | zero =>
      have hShort : decodePrefix? bs = none := by
        rw [decodePrefix?_eq_none_iff, prefixSize]
        omega
      have hRead := read?_eq_none_of_decodePrefix? hShort
      rw [turns, unframe_of_read?_eq_none hRead]
  | succ n ih =>
      cases hRead : read? bs with
      | none =>
          rw [turns, hRead, unframe_of_read?_eq_none hRead]
      | some cut =>
          obtain ⟨payload, rest⟩ := cut
          have hLess := length_le_of_read? hRead
          rw [prefixSize] at hLess
          rw [turns, hRead, unframe_of_read? hRead]
          dsimp only
          rw [ih (by omega)]

/- No more frames are cut off than there are turns. -/
theorem length_turns_le (n : Nat) (bs : Bytes) :
    (turns n bs).1.length ≤ n := by
  induction n generalizing bs with
  | zero => exact Nat.le_refl 0
  | succ n ih =>
      rw [turns]
      split
      · exact Nat.zero_le _
      · exact Nat.succ_le_succ (ih _)

/- What fits a buffer holds the packets cut off its front. -/
theorem payloads_deframe_of_length_le
    {capacity : Nat}
    (hRoom : prefixSize ≤ capacity)
    {bs : Bytes}
    (hLength : bs.length ≤ capacity) :
    (deframe capacity bs).payloads = (unframe bs).1 := by
  rw [deframe_of_length_le hRoom hLength]
  split
  · exact Deframed.payloads_spilt _
  · exact Segment.filterMap_payload?_map_packet _

end Frame

------------------------------------------------------------
-- Endpoints
------------------------------------------------------------

namespace Endpoint

/- The endpoint is one end of a connection. -/
def IsStream (e : Endpoint) : Prop :=
  ∃ inbound outbound, e.role = .stream inbound outbound

/- Where bytes wait, a receive takes what there is room for. -/
theorem IsOpen.receive_unread
    {e : Endpoint}
    (hOpen : e.IsOpen)
    (hStream : e.IsStream)
    {net : Network}
    (hSome : 0 < e.available net)
    {room : Nat}
    (hRoom : 0 < room) :
    (e.receive room net).result =
        .ok ((e.unread net).take room) ∧
      (e.receive room net).transport.unread
          (e.receive room net).world =
        (e.unread net).drop room := by
  rcases hStream with ⟨inbound, outbound, hRole⟩
  rcases hOpen with ⟨hClosed, hFail⟩
  have hUnread : e.unread net = (net.pipe inbound).bytes := by
    rw [unread, hRole]
  have hBytes : e.unread net ≠ [] := by
    rw [available_eq_length_unread] at hSome
    exact List.ne_nil_of_length_pos hSome
  have hPipe : inbound < net.pipes.size := by
    apply Nat.lt_of_not_le
    intro hOutside
    apply hBytes
    rw [hUnread, Network.pipe, Array.getD_eq_getD_getElem?,
      Array.getElem?_eq_none hOutside]
    rfl
  have hResult :
      (e.receive room net).result =
        .ok ((e.unread net).take room) := by
    rw [result_receive hRole, hFail, hClosed]
    dsimp only
    rw [if_neg Bool.false_ne_true,
      if_neg (Nat.ne_of_gt hRoom), if_neg hBytes]
  have hMoves := receive_moves hRole hPipe room
  have hLater := hMoves.bytes
  rw [hResult, List.append_nil] at hLater
  have hAfter :
      (e.receive room net).transport.unread
          (e.receive room net).world =
        ((e.receive room net).world.pipe inbound).bytes := by
    rw [unread, hMoves.role, hRole]
  refine ⟨hResult, ?_⟩
  rw [hAfter]
  apply List.append_cancel_left
  refine Eq.trans hLater.symm (Eq.trans hUnread.symm ?_)
  exact (List.take_append_drop room _).symm

end Endpoint

------------------------------------------------------------
-- Working Connections
------------------------------------------------------------

namespace Life

/-
  Something has happened to a connection under the reset
  policy, and its stream is open, with no failure pending.
-/
structure Working (r : Life Endpoint Network) : Prop where
  lived :
    ∃ (origin : Origin Endpoint Network) (moments : _),
      origin.listener = false ∧
        origin.framing.overflowPolicy = .reset ∧
          r = origin.live moments
  isOpen : r.socket.transport.IsOpen
  isStream : r.socket.transport.IsStream

variable {r : Life Endpoint Network}

theorem Working.listener (hWorking : Working r) :
    r.socket.listener = false := by
  rcases hWorking.lived with
    ⟨origin, moments, hListener, _, rfl⟩
  exact (origin.listener_live moments).trans hListener

theorem Working.policy (hWorking : Working r) :
    r.socket.framing.overflowPolicy = .reset := by
  rcases hWorking.lived with
    ⟨origin, moments, _, hPolicy, rfl⟩
  exact (origin.overflowPolicy_live moments).trans hPolicy

/- The input has room for a prefix, and for a byte more. -/
theorem Working.room (hWorking : Working r) :
    Frame.prefixSize ≤ r.socket.input.capacity ∧
      0 < r.socket.input.remaining := by
  rcases hWorking.lived with
    ⟨origin, moments, hListener, hPolicy, rfl⟩
  have hCapacity :
      Frame.prefixSize ≤
        (origin.live moments).socket.input.capacity := by
    change _ ≤ (origin.live moments).socket.capacity
    rw [origin.capacity_live]
    exact Nat.le_add_left _ _
  refine ⟨hCapacity, ?_⟩
  have hInput :=
    Origin.filled_input_live Endpoint.receivesWithin
      hListener hPolicy moments
  have hLess :=
    Frame.length_rest_deframe_lt
      (Nat.le_add_left Frame.prefixSize origin.limit)
      (origin.journal moments).received
  have hAll :=
    Buffer.size_add_remaining (origin.live moments).socket.input
  rw [← hInput, Buffer.length_filled,
    ← origin.capacity_live moments, Socket.capacity] at hLess
  omega

/- What is done with the socket leaves it working. -/
theorem Working.operate
    (hWorking : Working r)
    (operation : Socket.Operation) :
    Working (Socket.pass r (.operate operation)) := by
  refine ⟨?_, ?_, ?_⟩
  · rcases hWorking.lived with
      ⟨origin, moments, hListener, hPolicy, rfl⟩
    exact
      ⟨origin, _, hListener, hPolicy,
        (origin.live_concat moments _).symm⟩
  · exact
      Socket.perform_isOpen hWorking.listener hWorking.policy
        hWorking.isOpen operation r.host
  · rcases hWorking.isStream with ⟨inbound, outbound, hRole⟩
    have hConfined :=
      Socket.perform_confined hWorking.listener hRole operation
        r.host
    exact ⟨inbound, outbound, hConfined.role.trans hRole⟩

theorem Working.disturb
    (hWorking : Working r)
    {change : Endpoint → Host Network → Endpoint × Host Network}
    (hOpen :
      (change r.socket.transport r.host).1.IsOpen)
    (hRole :
      (change r.socket.transport r.host).1.role =
        r.socket.transport.role) :
    Working (Socket.pass r (.disturb change)) := by
  refine ⟨?_, hOpen, ?_⟩
  · rcases hWorking.lived with
      ⟨origin, moments, hListener, hPolicy, rfl⟩
    exact
      ⟨origin, _, hListener, hPolicy,
        (origin.live_concat moments _).symm⟩
  · rcases hWorking.isStream with ⟨inbound, outbound, hStream⟩
    exact ⟨inbound, outbound, hRole.trans hStream⟩

theorem Working.elsewhere
    (hWorking : Working r)
    (host : Host Network) :
    Working { r with host } := by
  rw [← Socket.pass_elsewhere r host]
  exact hWorking.disturb hWorking.isOpen rfl

------------------------------------------------------------
-- Reading
------------------------------------------------------------

/- The bytes that wait to be read. -/
def unread (r : Life Endpoint Network) : Bytes :=
  r.socket.transport.unread r.host.world

/- How many they are. -/
def available (r : Life Endpoint Network) : Nat :=
  r.socket.transport.available r.host.world

/- As many of them as the input has room for. -/
def takes (r : Life Endpoint Network) : Nat :=
  min r.available (r.socket.capacity - r.socket.bufferedInput)

/- The socket is told so often that it can read. -/
def reads
    (r : Life Endpoint Network) : Nat → Life Endpoint Network
  | 0 => r
  | n + 1 =>
      Socket.pass (r.reads n) (.operate (.notify .readable))

/-
  A read takes what the input has room for, a byte at least,
  and delivers the packets that are complete with it.
-/
structure TakesIn (r after : Life Endpoint Network) : Prop where
  some : 0 < r.takes
  unread : after.unread = r.unread.drop r.takes
  available : after.available = r.available - r.takes
  cut :
    let bs := r.socket.input.filled ++ r.unread.take r.takes
    bs.length = r.socket.bufferedInput + r.takes ∧
      Frame.turns (bs.length / 2) bs = Frame.unframe bs ∧
      (Frame.unframe bs).1.length ≤ bs.length / 2 ∧
      after.socket.events =
        r.socket.events ++
          (Frame.unframe bs).1.map
            (Event.packet · r.socket.transport.peer)

theorem length_unread (r : Life Endpoint Network) :
    r.unread.length = r.available :=
  (Endpoint.available_eq_length_unread _ _).symm

/- The input takes up to the room that remains in it. -/
theorem takes_eq (r : Life Endpoint Network) :
    r.takes =
      min r.socket.input.remaining r.unread.length := by
  have hAll := Buffer.size_add_remaining r.socket.input
  rw [takes, length_unread, Socket.capacity,
    Socket.bufferedInput]
  omega

/- A read takes the front of what waits. -/
theorem Working.unread_read
    (hWorking : Working r)
    (hSome : 0 < r.available) :
    (Socket.pass r (.operate (.notify .readable))).unread =
      r.unread.drop r.takes := by
  have hReceive :=
    hWorking.isOpen.receive_unread hWorking.isStream hSome
      hWorking.room.2
  have hRead :=
    Socket.readInput_of_reset hWorking.policy r.host
  have hPerform :=
    Socket.perform_readable hWorking.listener r.host
  rw [takes_eq, ← List.drop_eq_drop_min]
  unfold unread Socket.pass
  simp only [hPerform, Socket.resulting, hRead]
  exact hReceive.2

theorem Working.events_read
    (hWorking : Working r)
    (hSome : 0 < r.available) :
    (Socket.pass r
        (.operate (.notify .readable))).socket.events =
      r.socket.events ++
        (Frame.unframe
            (r.socket.input.filled ++
              r.unread.take r.takes)).1.map
          (Event.packet · r.socket.transport.peer) := by
  have hResult :
      (Transport.receive r.socket.transport
          r.socket.input.remaining r.host.world).result =
        .ok (r.unread.take r.socket.input.remaining) :=
    (hWorking.isOpen.receive_unread hWorking.isStream hSome
      hWorking.room.2).1
  have hPerform :=
    Socket.perform_readable hWorking.listener r.host
  have hPeer :
      Transport.remoteAddress
          (Transport.receive r.socket.transport
            r.socket.input.remaining
            r.host.world).transport =
        r.socket.transport.peer := by
    rcases hWorking.isStream with ⟨inbound, outbound, hRole⟩
    exact (Endpoint.receive_confined hRole _ _).peer
  have hFits :
      (r.socket.input.filled ++
          r.unread.take r.socket.input.remaining).length ≤
        r.socket.input.capacity := by
    have hAll := Buffer.size_add_remaining r.socket.input
    rw [List.length_append, Buffer.length_filled,
      List.length_take]
    omega
  rw [takes_eq, ← List.take_eq_take_min,
    ← Frame.payloads_deframe_of_length_le hWorking.room.1
      hFits]
  unfold Socket.pass
  simp only [hPerform, Socket.resulting]
  rcases Socket.readInput_cases Endpoint.receivesWithin
      hWorking.room.1 r.host with
    ⟨taken, hTaken, ⟨_, hCuts⟩ | ⟨_, hClose, _⟩⟩ |
    ⟨e, hFails, _⟩
  · cases hTaken.symm.trans hResult
    rw [hCuts.events, hPeer]
  · rw [hWorking.policy] at hClose
    cases hClose
  · cases hFails.symm.trans hResult

theorem Working.takesIn
    (hWorking : Working r)
    (hSome : 0 < r.available) :
    TakesIn r
      (Socket.pass r (.operate (.notify .readable))) := by
  have hUnread := hWorking.unread_read hSome
  have hLength := r.length_unread
  have hTakes := r.takes_eq
  have hRoom := hWorking.room.2
  refine ⟨by omega, hUnread, ?_, ?_⟩
  · rw [← length_unread, hUnread, List.length_drop, hLength]
  · intro bs
    have hTurns :
        Frame.turns (bs.length / 2) bs = Frame.unframe bs :=
      Frame.turns_eq_unframe (by omega)
    refine
      ⟨?_, hTurns, ?_, hWorking.events_read hSome⟩
    · rw [List.length_append, Buffer.length_filled,
        List.length_take, Nat.min_eq_left (by omega)]
      rfl
    · rw [← hTurns]
      exact Frame.length_turns_le _ bs

/- Told to read often enough, it leaves nothing to read. -/
theorem Working.reads_endsWithin (hWorking : Working r) :
    EndsWithin (fun n => (r.reads n).available)
      r.available := by
  have hReads (n : Nat) : Working (r.reads n) := by
    induction n with
    | zero => exact hWorking
    | succ n ih => exact ih.operate (.notify .readable)
  refine endsWithin_of_lt (fun n hSome => ?_)
  have hTakesIn := (hReads n).takesIn hSome
  have hLess := hTakesIn.some
  have hAfter := hTakesIn.available
  change (r.reads (n + 1)).available = _ at hAfter
  omega

end Life

------------------------------------------------------------
-- Writing
------------------------------------------------------------

namespace Socket

/- A flush writes as far as the window of the stream goes. -/
theorem progress_flush
    {s : Socket Endpoint}
    (hClosed : s.transport.closed = false)
    (hStream : s.transport.IsStream)
    (host : Host Network) :
    progress (s.flush host).result =
      min s.pendingOutput
        (s.transport.window.getD s.pendingOutput) := by
  rcases hStream with ⟨inbound, outbound, hRole⟩
  have hResult :=
    Endpoint.result_send hRole s.output.filled host.world
  rw [hClosed, if_neg Bool.false_ne_true,
    s.output.length_filled] at hResult
  unfold flush pendingOutput
  split
  · rename_i hEmpty
    rw [eq_of_beq hEmpty, Nat.zero_min]
    rfl
  · dsimp only
    change
      (Transport.send s.transport s.output.filled
        host.world).result = _ at hResult
    rw [hResult]
    by_cases hStall :
        s.transport.window = some 0 ∧ s.output.filled ≠ []
    · rw [if_pos hStall, hStall.1]
      exact (Nat.min_zero _).symm
    · rw [if_neg hStall]
      dsimp only
      split
      · rename_i hNone
        rw [hNone]
        rfl
      · rw [if_neg (Nat.not_lt.mpr (Nat.min_le_left _ _))]
        rfl

/- A writable connection writes as much. -/
theorem pendingOutput_writable
    {s : Socket Endpoint}
    (hClosed : s.transport.closed = false)
    (hStream : s.transport.IsStream)
    (host : Host Network) :
    (s.perform (.notify .writable)
        host).socket.pendingOutput =
      s.pendingOutput -
        min s.pendingOutput
          (s.transport.window.getD s.pendingOutput) := by
  have hLength :=
    congrArg List.length (s.filled_output_flush host)
  rw [List.length_drop, Buffer.length_filled,
    Buffer.length_filled, progress_flush hClosed hStream]
    at hLength
  change
    (s.onWritable host).socket.output.size = s.output.size - _
  unfold onWritable
  split
  · rename_i hEmpty
    have hNone : s.output.size = 0 := eq_of_beq hEmpty
    rw [hNone, Nat.zero_sub]
  · exact hLength

end Socket

namespace Life

variable {r : Life Endpoint Network}

/- The window of the stream is set. -/
def windowed (w : Nat) : Moment Endpoint Network :=
  .disturb (fun e host => ({ e with window := some w }, host))

/-
  In each round a window is set, the socket is told that it
  can write, and then something happens elsewhere, such as
  that the peer reads.
-/
def rounds
    (r : Life Endpoint Network)
    (windows : Nat → Nat)
    (hosts : Nat → Host Network) : Nat → Life Endpoint Network
  | 0 => r
  | n + 1 =>
      Socket.pass
        (Socket.pass
          (Socket.pass (r.rounds windows hosts n)
            (windowed (windows n)))
          (.operate (.notify .writable)))
        (.elsewhere (hosts n))

theorem Working.pendingOutput_writable
    (hWorking : Working r) :
    (Socket.pass r
        (.operate (.notify .writable))).socket.pendingOutput =
      r.socket.pendingOutput -
        min r.socket.pendingOutput
          (r.socket.transport.window.getD
            r.socket.pendingOutput) :=
  Socket.pendingOutput_writable hWorking.isOpen.1
    hWorking.isStream r.host

theorem Working.pass_windowed
    (hWorking : Working r)
    (w : Nat) :
    Working (Socket.pass r (windowed w)) :=
  hWorking.disturb hWorking.isOpen rfl

theorem Working.pendingOutput_windowed
    (hWorking : Working r)
    (w : Nat) :
    (Socket.pass (Socket.pass r (windowed w))
        (.operate
          (.notify .writable))).socket.pendingOutput =
      r.socket.pendingOutput -
        min r.socket.pendingOutput w :=
  (hWorking.pass_windowed w).pendingOutput_writable

/- Rounds with open windows leave nothing to write. -/
theorem Working.rounds_endsWithin
    (hWorking : Working r)
    {windows : Nat → Nat}
    (hWindows : ∀ n, 0 < windows n)
    (hosts : Nat → Host Network) :
    EndsWithin
      (fun n =>
        (r.rounds windows hosts n).socket.pendingOutput)
      r.socket.pendingOutput := by
  have hRounds (n : Nat) :
      Working (r.rounds windows hosts n) := by
    induction n with
    | zero => exact hWorking
    | succ n ih =>
        have hSet := ih.pass_windowed (windows n)
        have hWritten := hSet.operate (.notify .writable)
        rw [rounds, Socket.pass_elsewhere]
        exact hWritten.elsewhere (hosts n)
  refine endsWithin_of_lt (fun n hSome => ?_)
  have hOpen := hWindows n
  have hAfter :=
    (hRounds n).pendingOutput_windowed (windows n)
  change
    (r.rounds windows hosts (n + 1)).socket.pendingOutput =
      _ at hAfter
  omega

------------------------------------------------------------
-- Progress
------------------------------------------------------------

/- Reading and writing go on until nothing is left. -/
structure Progresses (r : Life Endpoint Network) : Prop where
  reads :
    0 < r.available →
      TakesIn r
        (Socket.pass r (.operate (.notify .readable)))
  drains :
    EndsWithin (fun n => (r.reads n).available) r.available
  writes :
    ∀ w,
      r.socket.transport.window = some w →
        (Socket.pass r
              (.operate
                (.notify .writable))).socket.pendingOutput +
            min w r.socket.pendingOutput =
          r.socket.pendingOutput
  empties :
    r.socket.transport.window = none →
      (Socket.pass r
          (.operate
            (.notify .writable))).socket.pendingOutput = 0
  rounds :
    ∀ windows : Nat → Nat,
      (∀ n, 0 < windows n) →
        ∀ hosts,
          EndsWithin
            (fun n =>
              (r.rounds windows hosts n).socket.pendingOutput)
            r.socket.pendingOutput

theorem Working.progresses (hWorking : Working r) :
    Progresses r := by
  have hWritten := hWorking.pendingOutput_writable
  refine
    ⟨hWorking.takesIn, hWorking.reads_endsWithin, ?_, ?_, ?_⟩
  · intro w hWindow
    rw [hWindow, Option.getD_some] at hWritten
    omega
  · intro hWindow
    rw [hWindow, Option.getD_none] at hWritten
    omega
  · exact fun _ => hWorking.rounds_endsWithin

end Life

end FrameLink
