import FrameLink.Proofs.Socket.Accepting
import FrameLink.Proofs.Socket.Calls
import FrameLink.Proofs.Socket.Overflow
import FrameLink.Transport.Scripted

/-
  What bounds a socket, whatever its stream does.

  Between operations both buffers have room for one frame of
  the greatest packet, and the input is neither full nor does
  a complete frame stand at its front.  Each operation keeps
  that (`Socket.Bounded.perform`).  A stream may fail, or
  claim any number of written bytes; the bounds rest only on
  receives that yield no more than there is room for.

  From the bounds it follows that no call on the stream is in
  vain, that bytes always fit where they are put, and that
  packets are no larger than the limit
  (`Origin.bounds_live`).

  Key definitions include:
    * `Socket.Bounded`, `Socket.Indexed`
    * `Event.Within`
-/

------------------------------------------------------------
-- Bounds between Operations
------------------------------------------------------------

namespace FrameLink

namespace Socket

variable {τ ω : Type} [Transport τ ω] {limit : Nat}

/- What holds of a socket of a given limit. -/
structure Bounded
    (limit : Nat)
    (s : Socket τ) : Prop where
  most : limit ≤ Frame.maxPayload
  packet : s.maxPacketSize = limit
  inputRoom : s.input.capacity = limit + Frame.prefixSize
  outputRoom : s.output.capacity = limit + Frame.prefixSize
  buffered : s.bufferedInput < s.capacity
  undecided : Frame.completeLength? s.input.filled = none

theorem Bounded.prefixSize_le
    {s : Socket τ}
    (hBounded : Bounded limit s) :
    Frame.prefixSize ≤ s.input.capacity := by
  rw [hBounded.inputRoom]
  exact Nat.le_add_left _ _

/-
  What an operation leaves in the input is what was there or
  what the reference leaves of some bytes.
-/
theorem filled_input_perform
    (hWithin : Transport.ReceivesWithin τ)
    {s : Socket τ}
    (hRoom : Frame.prefixSize ≤ s.input.capacity)
    (operation : Operation)
    (host : Host ω) :
    (s.perform operation host).socket.input = s.input ∨
      ∃ bs,
        (s.perform operation host).socket.input.filled =
          (Frame.deframe s.input.capacity bs).rest := by
  by_cases hReadable : operation = .notify .readable
  · subst hReadable
    cases hListener : s.listener with
    | true =>
        rcases acceptConnection_reach s host with
          ⟨events, hAccept⟩
        rw [perform_readable_of_listener hListener]
        refine .inl ?_
        change (s.acceptConnection host).socket.input = _
        rw [hAccept]
    | false =>
        rw [perform_readable hListener]
        rcases readInput_cases hWithin hRoom host with
          ⟨bs, _, ⟨_, hCuts⟩ | ⟨payloads, _, hSpilt, hShuts⟩⟩ |
          ⟨e, _, hKept, _, _⟩
        · exact .inr ⟨_, hCuts.input⟩
        · refine .inr ⟨[], ?_⟩
          rw [Frame.deframe_nil]
          exact hShuts.input
        · refine .inl ?_
          change (s.readInput host).socket.input = _
          rw [hKept]
  · exact .inl (aside_perform s hReadable host).input

/- Every operation keeps the bounds. -/
theorem Bounded.perform
    (hWithin : Transport.ReceivesWithin τ)
    {s : Socket τ}
    (hBounded : Bounded limit s)
    (operation : Operation)
    (host : Host ω) :
    Bounded limit (s.perform operation host).socket := by
  have hShape := perform_shape s operation host
  have hInputRoom :
      (s.perform operation host).socket.input.capacity =
        s.input.capacity :=
    congrArg Shape.inputRoom hShape
  have hPrefix := hBounded.prefixSize_le
  have hInput :
      (s.perform operation host).socket.input.filled.length <
          s.input.capacity ∧
        Frame.completeLength?
          (s.perform operation host).socket.input.filled =
            none := by
    rcases filled_input_perform hWithin hPrefix operation
        host with
      hSame | ⟨bs, hRest⟩
    · rw [hSame, Buffer.length_filled]
      exact ⟨hBounded.buffered, hBounded.undecided⟩
    · rw [hRest]
      exact ⟨Frame.length_rest_deframe_lt hPrefix bs,
        Frame.completeLength?_rest_deframe hPrefix bs⟩
  rw [Buffer.length_filled] at hInput
  constructor
  · exact hBounded.most
  · exact
      (congrArg (·.framing.maxPacketSize.toNat) hShape).trans
        hBounded.packet
  · exact hInputRoom.trans hBounded.inputRoom
  · exact
      (congrArg Shape.outputRoom hShape).trans
        hBounded.outputRoom
  · exact Nat.lt_of_lt_of_eq hInput.1 hInputRoom.symm
  · exact hInput.2

theorem Bounded.pass
    (hWithin : Transport.ReceivesWithin τ)
    {r : Life τ ω}
    (hBounded : Bounded limit r.socket)
    (moment : Moment τ ω) :
    Bounded limit (Socket.pass r moment).socket := by
  cases moment with
  | operate operation =>
      exact hBounded.perform hWithin operation r.host
  | disturb change =>
      exact ⟨hBounded.most, hBounded.packet,
        hBounded.inputRoom, hBounded.outputRoom,
        hBounded.buffered, hBounded.undecided⟩

------------------------------------------------------------
-- Calls
------------------------------------------------------------

/- Each operation makes calls that are in range. -/
theorem Bounded.calls
    (hWithin : Transport.ReceivesWithin τ)
    {s : Socket (Journaled τ)}
    (hBounded : Bounded limit s)
    (hCalls :
      ∀ exchange ∈ s.transport.journal,
        exchange.InRange (limit + Frame.prefixSize))
    (operation : Operation)
    (host : Host ω) :
    ∀ exchange ∈
        (s.perform operation host).socket.transport.journal,
      exchange.InRange (limit + Frame.prefixSize) := by
  have hOne :
      ∀ {journal : List Exchange} {exchange : Exchange},
        journal = s.transport.journal ++ [exchange] →
          exchange.InRange (limit + Frame.prefixSize) →
            ∀ each ∈ journal,
              each.InRange (limit + Frame.prefixSize) := by
    intro journal exchange hJournal hThis each hMember
    rw [hJournal, List.mem_append, List.mem_singleton]
      at hMember
    rcases hMember with hOld | rfl
    · exact hCalls each hOld
    · exact hThis
  by_cases hReadable : operation = .notify .readable
  · subst hReadable
    cases hListener : s.listener with
    | true =>
        rw [perform_readable_of_listener hListener]
        intro exchange hMember
        apply hCalls exchange
        rw [← journal_acceptConnection s host]
        exact hMember
    | false =>
        rw [perform_readable hListener]
        apply hOne (journal_readInput s host)
        have hAll := Buffer.size_add_remaining s.input
        have hLess := hBounded.buffered
        rw [hBounded.inputRoom] at hAll
        rw [capacity, hBounded.inputRoom, bufferedInput]
          at hLess
        refine ⟨by omega, by omega, ?_⟩
        intro bs hResult
        exact hWithin _ _ _ bs hResult
  · have hRoom :
        s.output.capacity =
          s.maxPacketSize + Frame.prefixSize := by
      rw [hBounded.outputRoom, hBounded.packet]
    have hMost : s.maxPacketSize ≤ Frame.maxPayload := by
      rw [hBounded.packet]
      exact hBounded.most
    have hLength := length_offer_le hRoom operation
    have hOffers := offers_perform hRoom hMost hReadable host
    rw [hBounded.outputRoom] at hLength
    generalize operation.offer s = offered at hLength hOffers
    cases hOffers with
    | nothing hJournal =>
        rw [hJournal]
        exact hCalls
    | something hSome hJournal =>
        exact hOne hJournal ⟨hSome, hLength⟩

------------------------------------------------------------
-- Indices
------------------------------------------------------------

/- A flush takes no more than there is from the output. -/
theorem le_size_of_flush
    {s : Socket τ}
    {host : Host ω}
    {n : Nat}
    (hResult : (s.flush host).result = .ok n) :
    n ≤ s.output.size := by
  unfold flush at hResult
  split at hResult
  · cases hResult
    exact Nat.zero_le _
  · dsimp only at hResult
    split at hResult
    · cases hResult
    · split at hResult
      · cases hResult
        exact Nat.zero_le _
      · split at hResult
        · cases hResult
        · rename_i hClaim
          cases hResult
          exact Nat.le_of_not_lt hClaim

/-
  Wherever an operation reaches into a buffer it stays within
  what is there: bytes that are put behind others fit, and
  bytes that are taken from the front are filled.
-/
structure Indexed
    (s : Socket τ)
    (host : Host ω) : Prop where
  inputTail : s.input.size ≤ s.input.capacity
  outputTail : s.output.size ≤ s.output.capacity
  /- What a read is handed fits behind the undecided bytes. -/
  received :
    ∀ bs,
      (Transport.receive s.transport s.input.remaining
          host.world).result = .ok bs →
        s.input.size + bs.length ≤ s.input.capacity
  /- A frame that is cut off lies in what is filled. -/
  cut :
    ∀ (b : Buffer) (n : Nat),
      Frame.completeLength? b.filled = some n →
        Frame.prefixSize ≤ n ∧ n ≤ b.size
  /- What is left behind all frames is a part of the input. -/
  left :
    ∀ b : Buffer, (Frame.unframe b.filled).2.length ≤ b.size
  /- Both parts of a frame fit an idle output. -/
  framed :
    ∀ payload front,
      Frame.encodePrefix payload.length s.maxPacketSize =
          .ok front →
        s.pendingOutput = 0 →
          ∃ first both,
            s.output.append? front = some first ∧
              first.append? payload = some both
  /- Raw bytes are put where there is room for them. -/
  raw :
    ∀ data queued,
      s.output.append? data = some queued →
        s.output.size + data.length ≤ s.output.capacity
  /- What is written is taken from what waits. -/
  flushed :
    ∀ n,
      (s.flush host).result = .ok n → n ≤ s.output.size

/- Bounded sockets stay within their buffers. -/
theorem Bounded.indexed
    (hWithin : Transport.ReceivesWithin τ)
    {s : Socket τ}
    (hBounded : Bounded limit s)
    (host : Host ω) :
    Indexed s host where
  inputTail := s.input.size_le
  outputTail := s.output.size_le
  received := by
    intro bs hResult
    have hAll := Buffer.size_add_remaining s.input
    have hFits := hWithin _ _ _ bs hResult
    omega
  cut := by
    intro b n hComplete
    have hFrame := Frame.le_of_completeLength? hComplete
    rw [Buffer.length_filled] at hFrame
    exact hFrame
  left := by
    intro b
    have hLeft := (Frame.snd_unframe_suffix b.filled).length_le
    rw [Buffer.length_filled] at hLeft
    exact hLeft
  framed := by
    intro payload front hFront hIdle
    rcases Frame.encodePrefix_eq_ok_iff.mp hFront with
      ⟨hFits, _, rfl⟩
    have hAll := Buffer.size_add_remaining s.output
    have hRoom := hBounded.outputRoom
    rw [← hBounded.packet] at hRoom
    rw [pendingOutput] at hIdle
    have hFirst :
        (Frame.prefixBytes payload.length).length ≤
          s.output.remaining := by
      rw [Frame.length_prefixBytes]
      omega
    have hFilled :=
      Buffer.filled_append? (Buffer.append?_eq_some_iff.mpr
        ⟨hFirst, rfl⟩)
    have hSize := congrArg List.length hFilled
    rw [List.length_append, Buffer.length_filled,
      Buffer.length_filled, Frame.length_prefixBytes] at hSize
    have hBehind :=
      Buffer.size_add_remaining
        (s.output.fill (Frame.prefixBytes payload.length))
    rw [Buffer.capacity_fill] at hBehind
    have hBoth :
        payload.length ≤
          (s.output.fill
            (Frame.prefixBytes payload.length)).remaining := by
      omega
    exact ⟨_, _,
      Buffer.append?_eq_some_iff.mpr ⟨hFirst, rfl⟩,
      Buffer.append?_eq_some_iff.mpr ⟨hBoth, rfl⟩⟩
  raw := by
    intro data queued hQueued
    have hAll := Buffer.size_add_remaining s.output
    have hFits := (Buffer.append?_eq_some_iff.mp hQueued).1
    omega
  flushed := by
    intro n hResult
    exact le_size_of_flush hResult

end Socket

------------------------------------------------------------
-- Events
------------------------------------------------------------

/-
  A packet is no larger than the limit, and a connection that
  a listener hands over is a socket of that limit that has
  been told to read once.
-/
def Event.Within
    {τ ω : Type}
    [Transport τ ω]
    (limit : Nat) : Event τ → Prop
  | .packet payload _ => payload.length ≤ limit
  | .newConnection socket =>
      ∃ origin : Origin τ ω,
        origin.listener = false ∧
          origin.limit = limit ∧
          socket = (Socket.admitted origin).socket
  | .connected => True
  | .closed _ => True

namespace Socket

variable {τ ω : Type} [Transport τ ω] {limit : Nat}

/- Packets that a reference cuts are within the limit. -/
theorem within_map_packet
    {capacity : Nat}
    (hCapacity : capacity = limit + Frame.prefixSize)
    (bs : Bytes)
    (remote : Option Address) :
    ∀ event ∈
        (Frame.deframe capacity bs).payloads.map
          (Event.packet (τ := τ) · remote),
      event.Within limit := by
  intro event hMember
  rcases List.mem_map.mp hMember with ⟨payload, hPacket, rfl⟩
  have hFits := Frame.length_le_of_mem_payloads_deframe hPacket
  change payload.length ≤ limit
  omega

/- An operation adds events that are within the limit. -/
theorem Bounded.news
    (hWithin : Transport.ReceivesWithin τ)
    {s : Socket τ}
    (hBounded : Bounded limit s)
    (operation : Operation)
    (host : Host ω) :
    ∃ news,
      (s.perform operation host).result.events ++
            (s.perform operation host).socket.events =
          s.events ++ news ∧
        ∀ event ∈ news, event.Within limit := by
  by_cases hReadable : operation = .notify .readable
  · subst hReadable
    cases hListener : s.listener with
    | true =>
        rw [perform_readable_of_listener hListener]
        cases admits_acceptConnection s host with
        | missed hCall hResult hSocket hHost =>
            refine ⟨[], ?_, by simp⟩
            change (s.acceptConnection host).socket.events = _
            rw [hSocket, List.append_nil]
        | taken hCall hResult hConnection hSocket hHost =>
            refine ⟨_, congrArg Socket.events hSocket, ?_⟩
            intro event hMember
            rw [List.mem_singleton] at hMember
            subst hMember hConnection
            refine ⟨_, rfl, ?_, rfl⟩
            have hPacket := hBounded.packet
            have hMost := hBounded.most
            change min s.maxPacketSize _ = _
            omega
    | false =>
        rw [perform_readable hListener]
        rcases readInput_cases hWithin hBounded.prefixSize_le
            host with
          ⟨bs, _, ⟨_, hCuts⟩ | ⟨payloads, _, hSpilt, hShuts⟩⟩ |
          ⟨e, _, hKept, _, _⟩
        · exact ⟨_, hCuts.events,
            within_map_packet hBounded.inputRoom _ _⟩
        · have hPayloads := congrArg Deframed.payloads hSpilt
          rw [Deframed.payloads_spilt] at hPayloads
          refine ⟨_,
            hShuts.events.trans (List.append_assoc _ _ _),
            ?_⟩
          intro event hMember
          rcases List.mem_append.mp hMember with
            hPacket | hNotice
          · rw [← hPayloads] at hPacket
            exact within_map_packet hBounded.inputRoom _ _
              event hPacket
          · unfold farewell at hNotice
            split at hNotice
            · cases hNotice
            · rw [List.mem_singleton] at hNotice
              subst hNotice
              exact trivial
        · refine ⟨[], ?_, by simp⟩
          change (s.readInput host).socket.events = _
          rw [hKept, List.append_nil]
  · refine
      ⟨_, (emits_perform s hReadable host).events, ?_⟩
    intro event hMember
    unfold Operation.news at hMember
    split at hMember
    · rw [List.mem_singleton] at hMember
      subst hMember
      exact trivial
    · split at hMember
      · cases hMember
      · rw [List.mem_singleton] at hMember
        subst hMember
        exact trivial
    · cases hMember

end Socket

------------------------------------------------------------
-- Bounds of a Life
------------------------------------------------------------

namespace Origin

variable {τ ω : Type} [Transport τ ω]

/- A socket is made within its bounds. -/
theorem bounded_started (origin : Origin τ ω) :
    Socket.Bounded origin.limit origin.started.socket := by
  have hShape := started_shape origin
  have hInput :
      origin.started.socket.input.filled = [] := by
    unfold started Socket.start
    dsimp only
    split
    · exact Buffer.filled_ofCapacity _
    · exact Buffer.filled_ofCapacity _
  have hRoom := congrArg Socket.Shape.inputRoom hShape
  simp only [Socket.shape] at hRoom
  constructor
  · exact Nat.min_le_right _ _
  · exact maxPacketSize_live origin []
  · exact hRoom
  · exact congrArg Socket.Shape.outputRoom hShape
  · rw [Socket.bufferedInput, Socket.capacity,
      ← Buffer.length_filled, hInput, hRoom]
    exact Nat.succ_pos _
  · rw [hInput]
    rfl

section Lives

variable
  (hWithin : Transport.ReceivesWithin τ)
  (origin : Origin τ ω)
  (moments : List (Moment τ ω))

include hWithin

/- Whatever happens, a socket stays within its bounds. -/
theorem bounded_live :
    Socket.Bounded origin.limit
      (origin.live moments).socket := by
  unfold live
  apply Socket.live_induction
    (motive := fun r => Socket.Bounded origin.limit r.socket)
  · exact bounded_started origin
  · intro r moment hBounded
    exact hBounded.pass hWithin moment

/- Every call that moves bytes is in range. -/
theorem inRange_journal :
    ∀ exchange ∈ (origin.journal moments).journal,
      exchange.InRange (origin.limit + Frame.prefixSize) := by
  have hBoth :
      Socket.Bounded origin.limit
          (origin.recorded moments).socket ∧
        ∀ exchange ∈ (origin.journal moments).journal,
          exchange.InRange
            (origin.limit + Frame.prefixSize) := by
    unfold journal recorded live Socket.live
    rw [List.foldl_map]
    apply List.foldlRecOn
      (motive := fun r : Life (Journaled τ) ω =>
        Socket.Bounded origin.limit r.socket ∧
          ∀ exchange ∈ r.socket.transport.journal,
            exchange.InRange
              (origin.limit + Frame.prefixSize))
      moments
    · refine ⟨bounded_started origin.journaled, ?_⟩
      have hNone :
          origin.journaled.started.socket.transport.journal =
            [] := by
        unfold started Socket.start
        dsimp only
        split
        · rfl
        · rfl
      dsimp only
      rw [hNone]
      intro exchange hMember
      cases hMember
    · intro r hHolds moment _
      rcases hHolds with ⟨hBounded, hCalls⟩
      refine
        ⟨hBounded.pass (Journaled.receivesWithin hWithin) _,
          ?_⟩
      cases moment with
      | operate operation =>
          exact hBounded.calls hWithin hCalls operation r.host
      | disturb change => exact hCalls
  exact hBoth.2

/- Every event is within the limit. -/
theorem within_live :
    ∀ event ∈ (origin.live moments).emitted,
      event.Within origin.limit := by
  have hBoth :
      Socket.Bounded origin.limit
          (origin.live moments).socket ∧
        ∀ event ∈ (origin.live moments).emitted,
          event.Within origin.limit := by
    unfold live
    apply Socket.live_induction
      (motive := fun r =>
        Socket.Bounded origin.limit r.socket ∧
          ∀ event ∈ Life.emitted r,
            event.Within origin.limit)
    · refine ⟨bounded_started origin, ?_⟩
      have hNone : origin.started.socket.events = [] := by
        unfold started Socket.start
        dsimp only
        split
        · rfl
        · rfl
      simp only [Life.emitted, hNone]
      intro event hMember
      cases hMember
    · intro r moment hHolds
      rcases hHolds with ⟨hBounded, hEvents⟩
      refine ⟨hBounded.pass hWithin moment, ?_⟩
      cases moment with
      | disturb change => exact hEvents
      | operate operation =>
          rcases hBounded.news hWithin operation r.host with
            ⟨news, hNews, hNew⟩
          rw [Life.emitted_operate hNews]
          intro event hMember
          rcases List.mem_append.mp hMember with hOld | hAdded
          · exact hEvents event hOld
          · exact hNew event hAdded
  exact hBoth.2

end Lives

/-
  Whatever happens to a socket, over a stream whose receives
  yield no more than there is room for and whose other calls
  come to anything at all.  Both buffers have room for one
  frame of the limit.  The input is not full and no complete
  frame starts it; the output holds no more than fits.  Every
  receive had room to offer, every send had bytes, and no
  operation reaches beyond a buffer.  No packet is larger
  than the limit, and the connections of a listener are
  sockets of the same limit.
-/
theorem bounds_live
    (hWithin : Transport.ReceivesWithin τ)
    (origin : Origin τ ω)
    (moments : List (Moment τ ω)) :
    let life := origin.live moments
    let s := life.socket
    let room :=
      min origin.framing.maxPacketSize.toNat
          Frame.maxPayload + Frame.prefixSize
    s.input.capacity = room ∧
      s.output.capacity = room ∧
      s.bufferedInput < s.capacity ∧
      Frame.completeLength? s.input.filled = none ∧
      s.pendingOutput ≤ s.capacity ∧
      (∀ exchange ∈ (origin.journal moments).journal,
        exchange.InRange s.capacity) ∧
      s.Indexed life.host ∧
      ∀ event ∈ life.emitted,
        event.Within s.maxPacketSize := by
  intro life s room
  have hBounded : Socket.Bounded origin.limit s :=
    bounded_live hWithin origin moments
  have hCapacity :
      s.capacity = origin.limit + Frame.prefixSize :=
    hBounded.inputRoom
  refine ⟨hBounded.inputRoom, hBounded.outputRoom,
    hBounded.buffered, hBounded.undecided, ?_, ?_,
    hBounded.indexed hWithin life.host, ?_⟩
  · rw [hCapacity, ← hBounded.outputRoom]
    exact s.output.size_le
  · rw [hCapacity]
    exact inRange_journal hWithin origin moments
  · rw [hBounded.packet]
    exact within_live hWithin origin moments

end Origin

------------------------------------------------------------
-- A Rough Stream
------------------------------------------------------------

/- A script yields no more bytes than there is room for. -/
theorem Scripted.receivesWithin :
    Transport.ReceivesWithin Scripted := by
  intro t room w bs hResult
  change (t.receive room).result = .ok bs at hResult
  unfold receive at hResult
  dsimp only at hResult
  split at hResult
  · cases hResult
  · split at hResult
    · cases hResult
    · cases hResult
      exact List.length_take_le room _

namespace Origin

/-
  A socket for single bytes over a stream that claims to have
  written too much, then nothing, and fails to read.
-/
def roughened : Origin Scripted Unit where
  transport :=
    { script :=
        { sends := [.claims 9, .claims 0]
          receives :=
            [.yields [0, 5, 1], .fails { kind := .other },
              .yields [0, 1, 7, 0], .yields [1]]
          closes := [some { kind := .other }] } }
  framing := { maxPacketSize := 1 }
  host := { world := () }

/- It is told to send, to read and to write. -/
def roughMoments : List (Moment Scripted Unit) :=
  [.operate (.send [7]), .operate (.notify .readable),
    .operate (.sendRaw [1, 2, 3]),
    .operate (.notify .readable), .operate .flush,
    .operate (.notify .readable),
    .operate (.notify .readable)]

/- Seven calls are made, all of them in range. -/
theorem bounds_live_rough :
    Transport.ReceivesWithin Scripted ∧
      (roughened.live roughMoments).socket.capacity = 3 ∧
      (roughened.live roughMoments).socket.bufferedInput <
        3 ∧
      (roughened.journal roughMoments).journal.length = 7 ∧
      (∀ exchange ∈ (roughened.journal roughMoments).journal,
        exchange.InRange 3) ∧
      (roughened.live roughMoments).packets.map Prod.fst =
        [[7]] ∧
      (roughened.live
        roughMoments).socket.pendingOutput = 3 := by
  have hCapacity :
      (roughened.live roughMoments).socket.capacity = 3 := by
    decide +kernel
  have hBounds :=
    bounds_live Scripted.receivesWithin roughened roughMoments
  dsimp only at hBounds
  rw [hCapacity] at hBounds
  rcases hBounds with
    ⟨_, _, hBuffered, _, _, hCalls, _, _⟩
  refine ⟨Scripted.receivesWithin, hCapacity, hBuffered, ?_,
    hCalls, ?_, ?_⟩
  · decide +kernel
  · decide +kernel
  · decide +kernel

end Origin

end FrameLink
