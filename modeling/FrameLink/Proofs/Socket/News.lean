import FrameLink.Proofs.Socket.Accepting
import FrameLink.Proofs.Socket.Overflow

/-
  What is new to the consumer.

  What an operation adds to the events of a socket can be
  told from the socket and the answer of its stream
  (`Socket.emits_news`), and over any stream: bytes that do
  not fit the input are not taken, so they add nothing.  A
  connection that a listener hands over has a life of its
  own, with the limits and the counters of the listener
  (`Origin.inherits_live`).

  Key definitions include:
    * `Socket.overflows`
    * `Socket.readingNews`, `Socket.acceptingNews`
    * `Socket.news`
    * `Event.Inherits`
-/

------------------------------------------------------------
-- Reading
------------------------------------------------------------

namespace FrameLink

namespace Socket

variable {τ ω : Type} [Transport τ ω]

/- The input with bytes behind it, cut into payloads. -/
def cutWith
    (s : Socket τ)
    (bs : Bytes) : List Bytes × Bytes :=
  Frame.unframe (s.input.filled ++ bs.take s.input.remaining)

/-
  A connection that is told to read now would find its input
  full, with no complete frame at the front of it.
-/
def overflows (s : Socket τ) (host : Host ω) : Bool :=
  match
    (Transport.receive s.transport s.input.remaining
      host.world).result
  with
  | .ok bs => s.input.capacity ≤ (s.cutWith bs).2.length
  | .error _ => false

/- What a connection tells its consumer of what it reads. -/
def readingNews
    (s : Socket τ)
    (host : Host ω) : List (Event τ) :=
  let o :=
    Transport.receive s.transport s.input.remaining
      host.world
  match o.result with
  | .ok bs =>
      (s.cutWith bs).1.map
          (Event.packet ·
            (Transport.remoteAddress o.transport)) ++
        if s.framing.overflowPolicy = .close ∧
            s.overflows host = true then
          s.farewell
        else
          []
  | .error _ => []

/- Bytes that come in add packets, and perhaps a farewell. -/
theorem emits_takeBytes
    (s : Socket τ)
    (bs : Bytes)
    (host : Host ω) :
    Emits s
      ((s.cutWith bs).1.map
          (Event.packet ·
            (Transport.remoteAddress s.transport)) ++
        if s.framing.overflowPolicy = .close ∧
            s.input.capacity ≤ (s.cutWith bs).2.length then
          s.farewell
        else
          [])
      (resulting (fun _ => .done) (s.takeBytes bs host)) := by
  let filled : Socket τ :=
    { s with input := s.input.fill bs }
  have hCut :
      Frame.unframe filled.input.filled = s.cutWith bs :=
    congrArg Frame.unframe (Buffer.filled_fill _ _)
  have hFull :
      (deliver filled).1.input.isFull = true ↔
        s.input.capacity ≤ (s.cutWith bs).2.length := by
    rw [isFull_deliver_iff, hCut]
    change (s.input.fill bs).capacity ≤ _ ↔ _
    rw [Buffer.capacity_fill]
  have hPackets :
      (deliver filled).1.events =
        s.events ++
          (s.cutWith bs).1.map
            (Event.packet ·
              (Transport.remoteAddress s.transport)) := by
    rw [← hCut]
    rfl
  have hQuiet :
      ∀ r : Reply τ ω Unit,
        r.socket.events = (deliver filled).1.events →
          r.socket.closed = s.closed →
            Emits s
              ((s.cutWith bs).1.map
                  (Event.packet ·
                    (Transport.remoteAddress
                      s.transport)) ++ [])
              (resulting (fun _ => .done) r) := by
    intro r hEvents hClosed
    rw [List.append_nil]
    refine ⟨hEvents.trans hPackets, ?_⟩
    rw [any_isClosed_map_packet, Bool.or_false]
    exact hClosed
  unfold takeBytes
  dsimp only
  by_cases hOver :
      s.input.capacity ≤ (s.cutWith bs).2.length
  · rw [if_pos (hFull.mpr hOver)]
    cases hPolicy : s.framing.overflowPolicy with
    | reset =>
        have hOverflow :=
          overflow_of_reset
            (s := (deliver filled).1) hPolicy host
        rw [if_neg (by simp)]
        apply hQuiet
        · exact congrArg (·.socket.events) hOverflow
        · exact congrArg (·.socket.closed) hOverflow
    | close =>
        have hShuts :=
          (shuts_overflow
            (s := (deliver filled).1) hPolicy host).emits
        rw [if_pos ⟨rfl, hOver⟩]
        constructor
        · refine hShuts.events.trans ?_
          rw [hPackets, List.append_assoc]
          rfl
        · refine hShuts.closed.trans ?_
          rw [List.any_append, List.any_append,
            any_isClosed_map_packet, any_isClosed_map_packet]
          rfl
  · rw [if_neg (fun hLess => hOver (hFull.mp hLess)),
      if_neg (fun hBoth => hOver hBoth.2)]
    exact hQuiet _ rfl rfl

/- A readable connection adds what it makes of its input. -/
theorem emits_readInput
    (s : Socket τ)
    (host : Host ω) :
    Emits s (s.readingNews host)
      (resulting (fun _ => .done) (s.readInput host)) := by
  unfold readingNews overflows
  dsimp only
  cases hResult :
      (Transport.receive s.transport s.input.remaining
        host.world).result with
  | ok bs =>
      simp only [decide_eq_true_eq]
      rw [readInput_of_ok hResult]
      have hTaken :=
        emits_takeBytes
          { s with
            transport :=
              (Transport.receive s.transport
                s.input.remaining host.world).transport }
          bs
          { host with
            world :=
              (Transport.receive s.transport
                s.input.remaining host.world).world }
      exact ⟨hTaken.events, hTaken.closed⟩
  | error e =>
      rcases readInput_of_error hResult with ⟨hSocket, _, _⟩
      constructor
      · change (s.readInput host).socket.events = _
        rw [hSocket]
        exact (List.append_nil _).symm
      · change (s.readInput host).socket.closed = _
        rw [hSocket]
        exact (Bool.or_false _).symm

------------------------------------------------------------
-- Accepting
------------------------------------------------------------

/- What a listener tells its consumer of what it takes. -/
def acceptingNews
    (s : Socket τ)
    (host : Host ω) : List (Event τ) :=
  let o := Transport.accept s.transport host.world
  match o.result with
  | .ok (stream, _) =>
      [.newConnection
        (admitted
          (s.admission stream
            { host with world := o.world })).socket]
  | .error _ => []

/- A readable listener adds the connection that it takes. -/
theorem emits_acceptConnection
    (s : Socket τ)
    (host : Host ω) :
    Emits s (s.acceptingNews host)
      (resulting (fun _ => .done)
        (s.acceptConnection host)) := by
  unfold acceptingNews
  dsimp only
  cases admits_acceptConnection s host with
  | taken hCall hResult hConnection hSocket hHost =>
      subst hCall hConnection
      rw [hResult]
      constructor
      · exact congrArg Socket.events hSocket
      · refine (congrArg Socket.closed hSocket).trans ?_
        exact (Bool.or_false _).symm
  | missed hCall hResult hSocket hHost =>
      subst hCall
      rw [hResult]
      constructor
      · refine (congrArg Socket.events hSocket).trans ?_
        exact (List.append_nil _).symm
      · refine (congrArg Socket.closed hSocket).trans ?_
        exact (Bool.or_false _).symm

------------------------------------------------------------
-- All Operations
------------------------------------------------------------

/- What any operation adds to the events. -/
def news
    (s : Socket τ)
    (operation : Operation)
    (host : Host ω) : List (Event τ) :=
  if operation = .notify .readable then
    if s.listener then
      s.acceptingNews host
    else
      s.readingNews host
  else
    operation.news s

/- Every operation adds its news, behind all other events. -/
theorem emits_news
    (s : Socket τ)
    (operation : Operation)
    (host : Host ω) :
    Emits s (s.news operation host)
      (s.perform operation host) := by
  unfold news
  by_cases hReadable : operation = .notify .readable
  · subst hReadable
    rw [if_pos rfl]
    cases hListener : s.listener with
    | true =>
        rw [perform_readable_of_listener hListener]
        exact emits_acceptConnection s host
    | false =>
        rw [perform_readable hListener]
        exact emits_readInput s host
  · rw [if_neg hReadable]
    exact emits_perform s hReadable host

end Socket

------------------------------------------------------------
-- Connections Handed Over
------------------------------------------------------------

/-
  A connection inside the event was made with limits and
  counters that are given, and has been told to read once.
-/
def Event.Inherits
    {τ ω : Type}
    [Transport τ ω]
    (framing : FramingConfig)
    (meter : Nat) : Event τ → Prop
  | .newConnection socket =>
      ∃ origin : Origin τ ω,
        origin.listener = false ∧
          origin.framing = framing ∧
          origin.meter = meter ∧
          socket = (Socket.admitted origin).socket
  | .connected => True
  | .packet _ _ => True
  | .closed _ => True

/- A connection that is new has what its listener has. -/
theorem Socket.inherits_news
    {τ ω : Type}
    [Transport τ ω]
    (s : Socket τ)
    (operation : Operation)
    (host : Host ω) :
    ∀ event ∈ s.news operation host,
      event.Inherits s.framing s.meter := by
  intro event hMember
  cases event with
  | connected | packet | closed => exact trivial
  | newConnection connection =>
      unfold news at hMember
      split at hMember
      · split at hMember
        · unfold acceptingNews at hMember
          dsimp only at hMember
          split at hMember
          · rw [List.mem_singleton] at hMember
            cases hMember
            exact ⟨_, rfl, rfl, rfl, rfl⟩
          · cases hMember
        · unfold readingNews farewell at hMember
          dsimp only at hMember
          split at hMember
          · rcases List.mem_append.mp hMember with
              hPacket | hNotice
            · rcases List.mem_map.mp hPacket with
                ⟨payload, _, hPacket⟩
              cases hPacket
            · split at hNotice
              · split at hNotice
                · cases hNotice
                · rw [List.mem_singleton] at hNotice
                  cases hNotice
              · cases hNotice
          · cases hMember
      · unfold Operation.news at hMember
        split at hMember
        · rw [List.mem_singleton] at hMember
          cases hMember
        · split at hMember
          · cases hMember
          · rw [List.mem_singleton] at hMember
            cases hMember
        · cases hMember

namespace Origin

variable {τ ω : Type} [Transport τ ω]

/- Every connection handed over has what its listener has. -/
theorem inherits_live
    (origin : Origin τ ω)
    (moments : List (Moment τ ω)) :
    ∀ event ∈ (origin.live moments).emitted,
      event.Inherits origin.framing.clamped
        origin.meter := by
  have hAll :
      ((origin.live moments).socket.framing =
            origin.framing.clamped ∧
          (origin.live moments).socket.meter =
            origin.meter) ∧
        ∀ event ∈ (origin.live moments).emitted,
          event.Inherits origin.framing.clamped
            origin.meter := by
    unfold live
    apply Socket.live_induction
      (motive := fun r =>
        (r.socket.framing = origin.framing.clamped ∧
            r.socket.meter = origin.meter) ∧
          ∀ event ∈ Life.emitted r,
            event.Inherits origin.framing.clamped
              origin.meter)
    · unfold started Socket.start
      dsimp only
      split
      · exact ⟨⟨rfl, rfl⟩, by simp [Life.emitted, Socket.make]⟩
      · exact ⟨⟨rfl, rfl⟩, by simp [Life.emitted, Socket.make]⟩
    · rintro r moment ⟨⟨hFraming, hMeter⟩, hEvents⟩
      cases moment with
      | disturb change =>
          exact ⟨⟨hFraming, hMeter⟩, hEvents⟩
      | operate operation =>
          rcases Socket.perform_reach r.socket operation
              r.host with
            ⟨transport, closed, input, output, events,
              hReach⟩
          refine ⟨⟨?_, ?_⟩, ?_⟩
          · exact
              (congrArg Socket.framing hReach).trans hFraming
          · exact (congrArg Socket.meter hReach).trans hMeter
          · rw [Life.emitted_operate
              (Socket.emits_news r.socket operation
                r.host).events]
            intro event hMember
            rcases List.mem_append.mp hMember with
              hOld | hNew
            · exact hEvents event hOld
            · rw [← hFraming, ← hMeter]
              exact
                Socket.inherits_news r.socket operation
                  r.host event hNew
  exact hAll.2

end Origin

end FrameLink
