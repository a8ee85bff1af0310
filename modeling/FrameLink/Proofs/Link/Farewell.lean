import FrameLink.Proofs.Link.Wire

/-
  What follows on an overflow under the closing policy.

  The read in which the input overflows ends the connection.
  From then on nothing is received and nothing is written, no
  packet and no other close is announced, and the bytes that
  the peer has read and those that it still can read are the
  same (`Wire.Over.run`).  A peer that does not close reads
  them all and then finds the end of the stream
  (`Wire.Over.drain`).

  Key definitions include:
    * `Wire.Over`, `Wire.Hushed`, `Wire.Concluded`
    * `Wire.reading`
-/

------------------------------------------------------------
-- Connections That Are Over
------------------------------------------------------------

namespace FrameLink

namespace Wire

/-
  The connection has announced its close and closed its pipe,
  its input is empty, and all that the peer has read and can
  read is given.
-/
structure Over
    (inbound outbound : Nat)
    (total : Bytes)
    (wire : Wire) : Prop
    extends Joined inbound outbound wire where
  announced : wire.life.socket.closed = true
  input : wire.life.socket.input.filled = []
  ended :
    Endpoint.Ended inbound outbound (wire.pending outbound)
      wire.life.socket.transport wire.life.host.world
  bytes : wire.heard ++ wire.pending outbound = total

/- No event was added but that a connection was made. -/
structure Hushed (before after : Wire) : Prop where
  events :
    ∃ n,
      after.life.emitted =
        before.life.emitted ++ List.replicate n .connected
  overflows : after.life.overflows = before.life.overflows

theorem Hushed.refl (wire : Wire) : Hushed wire wire :=
  ⟨⟨0, (List.append_nil _).symm⟩, rfl⟩

theorem Hushed.trans
    {before between after : Wire}
    (hFirst : Hushed before between)
    (hSecond : Hushed between after) :
    Hushed before after := by
  rcases hFirst with ⟨⟨m, hFirst⟩, hSame⟩
  rcases hSecond with ⟨⟨n, hSecond⟩, hLast⟩
  refine ⟨⟨m + n, ?_⟩, hLast.trans hSame⟩
  rw [hSecond, hFirst, List.append_assoc,
    List.replicate_append_replicate]

variable {inbound outbound : Nat} {total : Bytes}
variable {wire : Wire}

/- The socket is silent, whatever is done with it. -/
theorem Over.silent
    (hOver : Over inbound outbound total wire)
    (operation : Socket.Operation) :
    Socket.Silent wire.life.socket
      (wire.life.socket.perform operation wire.life.host) :=
  Socket.silent_perform hOver.listener hOver.announced
    (.inl hOver.ended.closed) operation wire.life.host

/- Nothing that is done adds more than a connection made. -/
theorem Over.hushed_act
    (hOver : Over inbound outbound total wire)
    (action : Action) :
    Hushed wire (wire.act action) := by
  cases action with
  | handle operation =>
      exact ⟨⟨0, (List.append_nil _).symm⟩, rfl⟩
  | answer operation =>
      exact ⟨⟨0, (List.append_nil _).symm⟩, rfl⟩
  | operate operation =>
      have hSilent := hOver.silent operation
      rcases hSilent.events with ⟨n, hEvents⟩
      refine ⟨⟨n, Life.emitted_operate hEvents⟩, ?_⟩
      have hNone :=
        Measure.count_overflow_eq_zero hSilent.measures
      rw [life_act]
      refine (Life.overflows_operate _ _).trans ?_
      rw [hNone]
      rfl

/- Where the pipe is left alone, the connection stays over. -/
theorem Over.of_ended
    (hOver : Over inbound outbound total wire)
    {after : Wire}
    (hJoined : Joined inbound outbound after)
    (hAnnounced : after.life.socket.closed = true)
    (hInput : after.life.socket.input.filled = [])
    (hEnded :
      Endpoint.Ended inbound outbound (wire.pending outbound)
        after.life.socket.transport after.life.host.world)
    (hHeard : after.heard = wire.heard) :
    Over inbound outbound total after := by
  have hPending :
      after.pending outbound = wire.pending outbound := by
    unfold pending
    rw [hEnded.content]
    rfl
  refine ⟨hJoined, hAnnounced, hInput, ?_, ?_⟩
  · rw [hPending]
    exact hEnded
  · rw [hPending, hHeard]
    exact hOver.bytes

/- A connection that is over remains so. -/
theorem Over.act
    (hOver : Over inbound outbound total wire)
    (action : Action) :
    Over inbound outbound total (wire.act action) := by
  have hJoined := hOver.toJoined.act action
  cases action with
  | operate operation =>
      have hSilent := hOver.silent operation
      apply hOver.of_ended hJoined
      · exact hSilent.closed.trans hOver.announced
      · exact
          (congrArg Buffer.filled hSilent.input).trans
            hOver.input
      · apply Socket.perform_keeps_endpoint
          (P :=
            Endpoint.Ended inbound outbound
              (wire.pending outbound))
        · intro e net operation hEnded
          exact hEnded.perform operation
        · exact hOver.listener
        · exact hOver.ended
      · rfl
  | handle operation =>
      apply hOver.of_ended hJoined
      · exact hOver.announced
      · exact hOver.input
      · exact hOver.ended.perform operation
      · rfl
  | answer operation =>
      have hMoves := hOver.moves_answer operation
      have hMarked :
          ((wire.answer operation).network.pipe
              outbound).writerClosed = true := by
        have hKept :=
          Endpoint.writerClosed_perform hOver.reads
            hOver.apart hOver.writes.pipe operation
        exact
          hKept.trans
            (congrArg Pipe.writerClosed hOver.ended.content)
      refine
        ⟨hJoined, hOver.announced, hOver.input,
          ⟨hJoined.writes, hOver.ended.closed, ?_⟩, ?_⟩
      · change (wire.answer operation).network.pipe _ = _
        rw [← hMarked]
        rfl
      · have hBytes := hMoves.bytes
        rw [List.append_nil] at hBytes
        change
          (wire.heard ++ (wire.answer operation).result.bytes) ++
            ((wire.answer operation).network.pipe
              outbound).bytes = total
        rw [List.append_assoc, ← hBytes]
        exact hOver.bytes

/- What is over stays over, whatever is done on the wire. -/
theorem Over.run
    (hOver : Over inbound outbound total wire)
    (actions : List Action) :
    Over inbound outbound total (wire.run actions) ∧
      Hushed wire (wire.run actions) := by
  unfold Wire.run
  apply List.foldlRecOn
    (motive := fun after =>
      Over inbound outbound total after ∧
        Hushed wire after)
    actions Wire.act
  · exact ⟨hOver, .refl wire⟩
  · intro after hHolds action hMember
    rcases hHolds with ⟨hAfter, hHushed⟩
    exact ⟨hAfter.act action,
      hHushed.trans (hAfter.hushed_act action)⟩

------------------------------------------------------------
-- Reading to the End
------------------------------------------------------------

/- How many reads a peer needs at most to find the end. -/
def toRead (wire : Wire) (pipe : Nat) : Nat :=
  (wire.pending pipe).length +
    if wire.peer.failNextReceive = none then 0 else 1

/-
  An open peer that reads on has read everything in the end
  and then finds the end of the stream.  The induction is on
  the number of reads; each of them takes a byte at least, or
  is the one that was made to fail.
-/
theorem Over.drain
    (hOver : Over inbound outbound total wire)
    (hOpen : wire.peer.closed = false)
    {room : Nat}
    (hRoom : 0 < room)
    {n : Nat}
    (hEnough : wire.toRead outbound ≤ n) :
    let last :=
      wire.run (List.replicate n (.answer (.receive room)))
    last.heard = total ∧
      (last.peer.receive room last.life.host.world).result =
        .ok [] := by
  have hRead :=
    Endpoint.receive_ended hOver.reads hOpen
      hOver.writes.pipe hOver.ended.content hRoom
  induction n generalizing wire with
  | zero =>
      unfold toRead at hEnough
      split at hEnough
      · rename_i hWilling
        have hNothing : wire.pending outbound = [] :=
          List.length_eq_zero_iff.mp (by omega)
        have hBytes := hOver.bytes
        rw [hNothing, List.append_nil] at hBytes
        simp only [if_pos hWilling, hNothing,
          List.take_nil] at hRead
        exact ⟨hBytes, hRead.2.2.1⟩
      · omega
  | succ n ih =>
      rcases hRead with ⟨hStillOpen, hWilling, hEither⟩
      have hNext := hOver.act (.answer (.receive room))
      -- After the first read no other is made to fail.
      have hFewer :
          (wire.act (.answer (.receive room))).toRead
              outbound ≤ n := by
        have hNone :
            (wire.act (.answer
              (.receive room))).peer.failNextReceive =
                none :=
          hWilling
        unfold toRead at hEnough ⊢
        rw [if_pos hNone]
        by_cases hFirst : wire.peer.failNextReceive = none
        · rw [if_pos hFirst] at hEnough hEither
          have hLeft :
              (wire.act (.answer (.receive room))).pending
                  outbound =
                (wire.pending outbound).drop room :=
            hEither.2
          rw [hLeft, List.length_drop]
          omega
        · rw [if_neg hFirst] at hEnough hEither
          have hLeft :
              (wire.act (.answer (.receive room))).pending
                  outbound =
                wire.pending outbound :=
            hEither.2
          rw [hLeft]
          omega
      exact
        ih hNext hStillOpen hFewer
          (Endpoint.receive_ended hNext.reads hStillOpen
            hNext.writes.pipe hNext.ended.content hRoom)

------------------------------------------------------------
-- The End of a Connection
------------------------------------------------------------

/-
  From one wire to another nothing was received, written or
  announced.  A peer that is open can read on until it has
  read everything, and then finds the end of the stream.
-/
structure Concluded
    (pipe : Nat)
    (total : Bytes)
    (before after : Wire) : Prop
    extends Hushed before after where
  input : after.life.socket.bufferedInput = 0
  bytes : after.heard ++ after.pending pipe = total
  drained :
    after.peer.closed = false →
      ∀ room, 0 < room →
        let last :=
          after.run
            (List.replicate ((after.pending pipe).length + 1)
              (.answer (.receive room)))
        last.heard = total ∧
          (last.peer.receive room
              last.life.host.world).result =
            .ok []

/- Whatever follows, a connection that is over stays so. -/
theorem Over.concluded
    (hOver : Over inbound outbound total wire)
    (actions : List Action) :
    Concluded outbound total wire (wire.run actions) := by
  rcases hOver.run actions with ⟨hLast, hHushed⟩
  refine ⟨hHushed, ?_, hLast.bytes, ?_⟩
  · rw [Socket.bufferedInput, ← Buffer.length_filled,
      hLast.input]
    rfl
  · intro hOpen room hRoom
    apply hLast.drain hOpen hRoom
    unfold toRead
    split
    · omega
    · omega

/- The socket is told to read. -/
def reading : Action :=
  .operate (.notify .readable)

/- The read in which the input overflows ends a connection. -/
theorem Joined.over_of_overflow
    (hJoined : Joined inbound outbound wire)
    (hCloses : wire.life.Closes)
    (hNone : wire.life.overflows = 0)
    (hSome : (wire.act reading).life.overflows ≠ 0) :
    let next := wire.act reading
    Over inbound outbound
        (next.heard ++ next.pending outbound) next ∧
      Transport.lastError next.life.socket.transport =
        some .bufferOverflow := by
  intro next
  rcases hCloses.readable Endpoint.receivesWithin hNone
      hSome with
    ⟨_, _, hClosed, hInput, hTransport, hWorld⟩
  have hReceived :=
    hJoined.writes.perform
      (.receive wire.life.socket.input.remaining)
  have hEnded :=
    (hReceived.perform (.setError .bufferOverflow)).close
  -- What is on its way then is all that there will ever be.
  refine
    ⟨⟨hJoined.act reading, hClosed, hInput, ?_, rfl⟩, ?_⟩
  · change
      Endpoint.Ended _ _
        (next.life.host.world.pipe outbound).bytes
        next.life.socket.transport next.life.host.world
    rw [show next.life.socket.transport = _ from hTransport,
      show next.life.host.world = _ from hWorld]
    exact hEnded
  · rw [show next.life.socket.transport = _ from hTransport]
    rfl

section Close

variable {origin : Origin Endpoint Network}
variable {peer : Endpoint}

/- The packets on a wire are those of the reference. -/
theorem payloads_run
    (hListener : origin.listener = false)
    (actions : List Action) :
    ((origin.wire peer).run actions).life.packets.map
        Prod.fst =
      (Frame.deframe (origin.limit + Frame.prefixSize)
        (received origin peer actions)).payloads := by
  have hFollows :=
    Origin.follows_recorded Endpoint.receivesWithin hListener
      ((origin.wire peer).moments actions)
  rw [life_run_origin, Origin.packets_live]
  exact hFollows.payloads

/-
  A connection in memory under the closing policy.  As long
  as nothing has overflowed, its packets are those of the
  reference.  The read that overflows adds the packets that
  it completes and then the notice of the close, empties the
  input, and closes the stream.  Whatever follows, the
  connection is concluded, with the bytes that the peer has
  read and can read by then.  If nobody has written past the
  socket, these are what the socket has written.
-/
theorem overflow_is_final
    (hListener : origin.listener = false)
    (hPolicy : origin.framing.overflowPolicy = .close)
    (hWrites :
      Endpoint.Writes inbound outbound origin.transport
        origin.host.world)
    (hReads : peer.role = .stream outbound inbound)
    (hApart : inbound ≠ outbound)
    (actions : List Action)
    (hNone :
      ((origin.wire peer).run actions).life.overflows = 0) :
    let wire := (origin.wire peer).run actions
    let next := wire.act reading
    let reference :=
      Frame.deframe wire.life.socket.capacity
        (received origin peer actions)
    let later :=
      Frame.deframe wire.life.socket.capacity
        (received origin peer (actions ++ [reading]))
    let total := next.heard ++ next.pending outbound
    wire.life.packets.map Prod.fst = reference.payloads ∧
      (next.life.overflows ≠ 0 →
        (∃ completed remote,
          later.payloads = reference.payloads ++ completed ∧
            next.life.emitted =
              wire.life.emitted ++
                completed.map (Event.packet · remote) ++
                wire.life.farewell) ∧
          next.life.overflows = 1 ∧
          next.life.socket.bufferedInput = 0 ∧
          Transport.lastError next.life.socket.transport =
            some .bufferOverflow ∧
          next.life.socket.transport.closed = true ∧
          (∀ afterwards,
            Concluded outbound total next
              (next.run afterwards)) ∧
          ((origin.host.world.pipe outbound).bytes = [] →
            (∀ bs, .handle (.send bs) ∉ actions) →
            (origin.journal
                ((origin.wire peer).moments
                  (actions ++ [reading]))).written =
              total)) := by
  intro wire next reference later total
  have hLife :
      wire.life =
        origin.live ((origin.wire peer).moments actions) :=
    life_run_origin origin peer actions
  have hNext :
      (origin.wire peer).run (actions ++ [reading]) =
        next := by
    rw [run, List.foldl_append]
    rfl
  have hCapacity :
      wire.life.socket.capacity =
        origin.limit + Frame.prefixSize := by
    rw [hLife, Origin.capacity_live]
  have hBefore :
      wire.life.packets.map Prod.fst =
        reference.payloads := by
    change _ = (Frame.deframe _ _).payloads
    rw [hCapacity]
    exact payloads_run hListener actions
  have hAfter :
      next.life.packets.map Prod.fst = later.payloads := by
    change _ = (Frame.deframe _ _).payloads
    rw [hCapacity, ← hNext]
    exact payloads_run hListener (actions ++ [reading])
  refine ⟨hBefore, ?_⟩
  intro hSome
  have hJoined : Joined inbound outbound wire :=
    (joined_wire hListener hWrites hReads hApart).run actions
  have hCloses : wire.life.Closes := by
    rw [hLife]
    exact
      Origin.closes_live Endpoint.receivesWithin hListener
        hPolicy _
  rcases hCloses.readable Endpoint.receivesWithin hNone
      hSome with
    ⟨⟨completed, hEmitted⟩, hOnce, _⟩
  rcases hJoined.over_of_overflow hCloses hNone hSome with
    ⟨hOver, hError⟩
  refine ⟨⟨completed, _, ?_, hEmitted⟩, hOnce,
    (hOver.concluded []).input, hError, hOver.ended.closed,
    hOver.concluded, ?_⟩
  -- The packets of both lives are those of the reference, so
  -- what the read has added is what the reference has added.
  · rw [← hBefore, ← hAfter]
    exact Life.payloads_of_emitted hEmitted
  · intro hEmpty hPast
    have hOrderly :
        ∀ action ∈ actions ++ [reading],
          ∀ bs, action ≠ .handle (.send bs) := by
      intro action hMember bs hSend
      rw [hSend] at hMember
      rcases List.mem_append.mp hMember with hEarly | hLast
      · exact hPast bs hEarly
      · cases List.mem_singleton.mp hLast
    rw [written_run hListener hWrites hReads hApart hEmpty
      hOrderly, hNext]

/- A receiver of single bytes that closes, and its peer. -/
def strictReceiver : Origin Endpoint Network × Endpoint :=
  let ends :=
    Network.pair {} (.loopback 40001) (.loopback 40002)
  ({ transport := ends.1.2
     framing := { maxPacketSize := 1, overflowPolicy := .close }
     host := { world := ends.2 } },
    ends.1.1)

/- A packet and too great a prefix come; one is answered. -/
def strictActions : List Action :=
  [.answer (.send [0, 1, 9, 0, 5, 1]), reading,
    .operate (.send [7])]

/- The prefix ends the connection; the answer still comes. -/
theorem overflow_is_final_strict :
    let origin := strictReceiver.1
    let wire :=
      (origin.wire strictReceiver.2).run strictActions
    let next := wire.act reading
    origin.listener = false ∧
      origin.framing.overflowPolicy = .close ∧
      Endpoint.Writes 0 1 origin.transport
        origin.host.world ∧
      strictReceiver.2.role = .stream 1 0 ∧
      0 ≠ 1 ∧
      wire.life.overflows = 0 ∧
      next.life.overflows ≠ 0 ∧
      wire.life.packets.map Prod.fst = [[9]] ∧
      ∀ afterwards,
        Concluded 1 [0, 1, 7] next (next.run afterwards) := by
  intro origin wire next
  have hListener : origin.listener = false := rfl
  have hPolicy : origin.framing.overflowPolicy = .close := rfl
  have hWrites :
      Endpoint.Writes 0 1 origin.transport
        origin.host.world :=
    ⟨rfl, by decide⟩
  have hReads : strictReceiver.2.role = .stream 1 0 := rfl
  have hNone : wire.life.overflows = 0 := by
    decide +kernel
  have hSome : next.life.overflows ≠ 0 := by
    decide +kernel
  have hCapacity : wire.life.socket.capacity = 3 := by
    decide +kernel
  have hReceived :
      received origin strictReceiver.2 strictActions =
        [0, 1, 9] := by
    decide +kernel
  have hTotal : next.heard ++ next.pending 1 = [0, 1, 7] := by
    decide +kernel
  rcases overflow_is_final hListener hPolicy hWrites hReads
      (by decide) strictActions hNone with
    ⟨hPackets, hClosed⟩
  rcases hClosed hSome with
    ⟨_, _, _, _, _, hConcluded, _⟩
  refine
    ⟨hListener, hPolicy, hWrites, hReads, by decide, hNone,
      hSome, ?_, ?_⟩
  · rw [show wire.life.packets.map Prod.fst = _ from hPackets,
      hCapacity, hReceived]
    decide +kernel
  · rw [← hTotal]
    exact hConcluded

end Close

end Wire

end FrameLink
