import FrameLink.Proofs.Socket.Reassembly
import FrameLink.Proofs.Transport.Mute

/-
  Overflows under the closing policy.

  The events of a socket, handed out or still queued, grow at
  the end only, and whether a close has been announced can be
  read off them (`Origin.closed_live`).  The read in which
  the input overflows adds the packets that it completes and
  then, unless a close has been announced before, the notice
  of the close (`Life.Closes.readable`).  After that the
  socket receives nothing and announces no other close
  (`Socket.silent_perform`).

  Key definitions include:
    * `Event.isClosed`
    * `Socket.Operation.news`, `Socket.Emits`
    * `Life.farewell`, `Life.Closes`
    * `Socket.Silent`
-/

------------------------------------------------------------
-- News
------------------------------------------------------------

namespace FrameLink

/- The event tells of a close. -/
def Event.isClosed {τ : Type} : Event τ → Bool
  | .closed _ => true
  | _ => false

namespace Socket

variable {τ ω : Type} [Transport τ ω]

/- What an operation adds to the events if it reads nothing. -/
def Operation.news
    (s : Socket τ) : Operation → List (Event τ)
  | .notify .connected => [.connected]
  | .notify (.closed code) =>
      if s.closed then [] else [.closed code]
  | _ => []

/-
  Events are added behind all others, and the socket takes
  note of a close among them.
-/
structure Emits
    (s : Socket τ)
    (news : List (Event τ))
    (r : Reply τ ω (Result τ)) : Prop where
  events :
    r.result.events ++ r.socket.events = s.events ++ news
  closed :
    r.socket.closed = (s.closed || news.any Event.isClosed)

omit [Transport τ ω] in
/- What changes the sending side alone adds nothing. -/
theorem Emits.of_reach
    {s : Socket τ}
    {r : Reply τ ω (Result τ)}
    (hReach :
      ∃ transport output,
        r.socket = { s with transport, output })
    (hResult : r.result.events = []) :
    Emits s [] r := by
  rcases hReach with ⟨transport, output, hSocket⟩
  constructor
  · rw [hSocket, hResult, List.append_nil]
    rfl
  · rw [hSocket]
    exact (Bool.or_false _).symm

/- Only a readable notification adds what is not its own. -/
theorem emits_perform
    (s : Socket τ)
    {operation : Operation}
    (hOther : operation ≠ .notify .readable)
    (host : Host ω) :
    Emits s (operation.news s) (s.perform operation host) := by
  cases operation with
  | send payload =>
      exact .of_reach (send_reach s payload host) rfl
  | sendTo payload address =>
      exact .of_reach (sendTo_reach s payload address host) rfl
  | sendRaw data =>
      exact .of_reach (sendRaw_reach s data host) rfl
  | flush => exact .of_reach (flush_reach s host) rfl
  | poll =>
      unfold perform poll
      dsimp only
      split
      · rename_i hEvents
        refine ⟨?_, (Bool.or_false _).symm⟩
        exact (List.append_nil _).symm
      · rename_i event events hEvents
        refine ⟨?_, (Bool.or_false _).symm⟩
        rw [hEvents]
        exact (List.append_nil _).symm
  | drain => exact ⟨rfl, (Bool.or_false _).symm⟩
  | notify notification =>
      cases notification with
      | readable => exact absurd rfl hOther
      | connected => exact ⟨rfl, (Bool.or_false _).symm⟩
      | writable =>
          exact .of_reach (onWritable_reach s host) rfl
      | closed code =>
          unfold perform handle announceClose Operation.news
          dsimp only [resulting]
          by_cases hClosed : s.closed = true
          · rw [if_pos hClosed, if_pos hClosed]
            exact ⟨(List.append_nil _).symm,
              (Bool.or_false _).symm⟩
          · rw [if_neg hClosed, if_neg hClosed]
            exact ⟨rfl, (Bool.or_true _).symm⟩

omit [Transport τ ω] in
theorem any_isClosed_map_packet
    (payloads : List Bytes)
    (remote : Option Address) :
    (payloads.map (Event.packet (τ := τ) · remote)).any
        Event.isClosed =
      false := by
  rw [List.any_eq_false]
  intro event hMember hClosed
  rcases List.mem_map.mp hMember with ⟨payload, _, rfl⟩
  cases hClosed

theorem Cuts.emits
    {s : Socket τ}
    {d : Deframed}
    {r : Reply τ ω Unit}
    (hCuts : Cuts s d r) :
    Emits s
      (d.payloads.map
        (Event.packet ·
          (Transport.remoteAddress s.transport)))
      (resulting (fun _ => .done) r) := by
  refine ⟨hCuts.events, ?_⟩
  rw [any_isClosed_map_packet, Bool.or_false]
  exact hCuts.closed

/- Closing adds the notice of it behind the packets. -/
theorem Shuts.emits
    {s : Socket τ}
    {host : Host ω}
    {payloads : List Bytes}
    {r : Reply τ ω Unit}
    (hShuts : Shuts s host payloads r) :
    Emits s
      (payloads.map
          (Event.packet ·
            (Transport.remoteAddress s.transport)) ++
        s.farewell)
      (resulting (fun _ => .done) r) := by
  constructor
  · exact hShuts.events.trans (List.append_assoc _ _ _)
  · rw [List.any_append, any_isClosed_map_packet,
      Bool.false_or]
    refine hShuts.closed.trans ?_
    unfold farewell
    cases hClosed : s.closed with
    | true => rfl
    | false => rfl

/- A readable connection adds events as well. -/
theorem emits_readable
    (hWithin : Transport.ReceivesWithin τ)
    {s : Socket τ}
    (hListener : s.listener = false)
    (hRoom : Frame.prefixSize ≤ s.input.capacity)
    (host : Host ω) :
    ∃ news,
      Emits s news (s.perform (.notify .readable) host) := by
  rw [perform_readable hListener]
  rcases readInput_cases hWithin hRoom host with
    ⟨bs, hResult, ⟨_, hCuts⟩ |
      ⟨payloads, _, hSpilt, hShuts⟩⟩ |
    ⟨e, hResult, hKept, _, hNone⟩
  · exact ⟨_, hCuts.emits.events, hCuts.emits.closed⟩
  · exact ⟨_, hShuts.emits.events, hShuts.emits.closed⟩
  · refine ⟨[], ?_, ?_⟩
    · change (s.readInput host).socket.events = _
      rw [hKept, List.append_nil]
    · change (s.readInput host).socket.closed = _
      rw [hKept]
      exact (Bool.or_false _).symm

end Socket

------------------------------------------------------------
-- Announced Closes
------------------------------------------------------------

namespace Life

variable {τ ω : Type} [Transport τ ω]

/- The events of a life grow by what an operation adds. -/
theorem emitted_operate
    {r : Life τ ω}
    {operation : Socket.Operation}
    {news : List (Event τ)}
    (hEvents :
      (r.socket.perform operation r.host).result.events ++
          (r.socket.perform operation r.host).socket.events =
        r.socket.events ++ news) :
    emitted (Socket.pass r (.operate operation)) =
      emitted r ++ news := by
  rw [emitted, emitted, List.append_assoc, ← hEvents,
    Socket.pass]
  dsimp only
  rw [List.flatMap_append, List.flatMap_cons,
    List.flatMap_nil, List.append_nil, List.append_assoc]

theorem overflows_operate
    (r : Life τ ω)
    (operation : Socket.Operation) :
    overflows (Socket.pass r (.operate operation)) =
      overflows r +
        (Report.measures
          (r.socket.perform operation r.host).reports).count
            .bufferOverflow := by
  rw [overflows, overflows, Socket.pass,
    Report.measures_append, List.count_append]

/- The notice of an overflow, unless a close was announced. -/
def farewell (r : Life τ ω) : List (Event τ) :=
  if (emitted r).any Event.isClosed then
    []
  else
    [.closed (some .bufferOverflow)]

end Life

namespace Origin

variable {τ ω : Type} [Transport τ ω]

/- A connection of a given origin has room for a prefix. -/
theorem room_of_shape
    {origin : Origin τ ω}
    {s : Socket τ}
    (hShape : s.shape = origin.started.socket.shape) :
    Frame.prefixSize ≤ s.input.capacity := by
  have hRoom :=
    congrArg Socket.Shape.inputRoom
      (hShape.trans (started_shape origin))
  simp only [Socket.shape] at hRoom
  omega

/- The flag of a socket tells whether a close is announced. -/
theorem closed_live
    (hWithin : Transport.ReceivesWithin τ)
    {origin : Origin τ ω}
    (hListener : origin.listener = false)
    (moments : List (Moment τ ω)) :
    (origin.live moments).socket.closed =
      (origin.live moments).emitted.any Event.isClosed := by
  have hBoth :
      (origin.live moments).socket.shape =
          origin.started.socket.shape ∧
        (origin.live moments).socket.closed =
          (origin.live moments).emitted.any
            Event.isClosed := by
    unfold live
    apply Socket.live_induction
      (motive := fun r =>
        r.socket.shape = origin.started.socket.shape ∧
          r.socket.closed =
            (Life.emitted r).any Event.isClosed)
    · refine ⟨rfl, ?_⟩
      rw [socket_started origin hListener]
      rfl
    · intro r moment hHolds
      rcases hHolds with ⟨hShape, hClosed⟩
      cases moment with
      | disturb change => exact ⟨hShape, hClosed⟩
      | operate operation =>
          refine
            ⟨(Socket.perform_shape _ _ _).trans hShape, ?_⟩
          have hEmits :
              ∃ news,
                Socket.Emits r.socket news
                  (r.socket.perform operation r.host) := by
            by_cases hReadable : operation = .notify .readable
            · subst hReadable
              apply Socket.emits_readable hWithin
              · exact
                  (congrArg Socket.Shape.listener
                    (hShape.trans
                      (started_shape origin))).trans
                    hListener
              · exact room_of_shape hShape
            · exact ⟨_, Socket.emits_perform _ hReadable _⟩
          rcases hEmits with ⟨news, hEmits⟩
          rw [Life.emitted_operate hEmits.events,
            List.any_append,
            ← hClosed]
          exact hEmits.closed
  exact hBoth.2

end Origin

------------------------------------------------------------
-- The First Overflow
------------------------------------------------------------

namespace Life

variable {τ ω : Type} [Transport τ ω]

/- What a life can close by itself for an overflow. -/
structure Closes (r : Life τ ω) : Prop where
  listener : r.socket.listener = false
  policy : r.socket.framing.overflowPolicy = .close
  room : Frame.prefixSize ≤ r.socket.input.capacity
  closed : r.socket.closed = (emitted r).any Event.isClosed

/-
  A connection under the closing policy that has not met an
  overflow is told to read, and meets one: it has delivered
  packets, announced the close and closed its stream.
-/
theorem Closes.readable
    (hWithin : Transport.ReceivesWithin τ)
    {r : Life τ ω}
    (hCloses : Closes r)
    (hNone : overflows r = 0)
    (hOver :
      overflows
        (Socket.pass r (.operate (.notify .readable))) ≠ 0) :
    let o :=
      Transport.receive r.socket.transport
        r.socket.input.remaining r.host.world
    let after :=
      Transport.close
        (Transport.setError o.transport .bufferOverflow)
        o.world
    let next := Socket.pass r (.operate (.notify .readable))
    (∃ payloads : List Bytes,
        emitted next =
          emitted r ++
            payloads.map
              (Event.packet ·
                (Transport.remoteAddress o.transport)) ++
            farewell r) ∧
      overflows next = 1 ∧
      next.socket.closed = true ∧
      next.socket.input.filled = [] ∧
      next.socket.transport = after.transport ∧
      next.host.world = after.world := by
  intro o after next
  have hRead :=
    Socket.perform_readable hCloses.listener r.host
  have hMeasured :
      overflows next =
        (Report.measures
          (r.socket.readInput r.host).reports).count
            .bufferOverflow := by
    rw [overflows_operate, hNone, Nat.zero_add, hRead]
    rfl
  have hSocket :
      next.socket = (r.socket.readInput r.host).socket :=
    congrArg Reply.socket hRead
  have hHost :
      next.host = (r.socket.readInput r.host).host :=
    congrArg Reply.host hRead
  rcases Socket.readInput_cases hWithin hCloses.room
      r.host with
    ⟨bs, hResult, ⟨hFew, hCuts⟩ |
      ⟨payloads, _, hSpilt, hShuts⟩⟩ |
    ⟨e, hResult, hKept, _, hNothing⟩
  · rw [hCloses.policy] at hFew
    rw [hCuts.measures, Segment.count_map_measure]
      at hMeasured
    rcases hFew with hFew | hReset
    · exact absurd (hMeasured.trans hFew) hOver
    · cases hReset
  · refine ⟨⟨payloads, ?_⟩, ?_, ?_, ?_, ?_, ?_⟩
    · have hEmits :
          Socket.Emits r.socket
            (payloads.map
                (Event.packet ·
                  (Transport.remoteAddress o.transport)) ++
              r.socket.farewell)
            (r.socket.perform (.notify .readable)
              r.host) := by
        rw [hRead]
        exact ⟨hShuts.emits.events, hShuts.emits.closed⟩
      rw [emitted_operate hEmits.events,
        ← List.append_assoc,
        farewell, ← hCloses.closed]
      rfl
    · rw [hMeasured, hShuts.measures,
        Segment.count_map_measure]
      exact Deframed.overflows_spilt payloads
    · rw [hSocket]
      exact hShuts.closed
    · rw [hSocket]
      exact hShuts.input
    · rw [hSocket]
      exact hShuts.transport
    · rw [hHost]
      exact hShuts.world
  · rw [Measure.count_overflow_eq_zero hNothing] at hMeasured
    exact absurd hMeasured hOver

omit [Transport τ ω] in
theorem filterMap_packet?_farewell (r : Life τ ω) :
    (farewell r).filterMap Event.packet? = [] := by
  unfold farewell
  split
  · rfl
  · rfl

omit [Transport τ ω] in
/- Of packets and a farewell, the packets are delivered. -/
theorem payloads_of_emitted
    {r next : Life τ ω}
    {payloads : List Bytes}
    {remote : Option Address}
    (hEmitted :
      next.emitted =
        r.emitted ++
          payloads.map (Event.packet · remote) ++
          r.farewell) :
    next.packets.map Prod.fst =
      r.packets.map Prod.fst ++ payloads := by
  have hPackets :
      next.packets = r.packets ++ payloads.map (·, remote) := by
    rw [packets, hEmitted, List.filterMap_append,
      List.filterMap_append, filterMap_packet?_farewell,
      List.append_nil, filterMap_packet?_map_packet]
    rfl
  rw [hPackets, List.map_append, List.map_map]
  exact congrArg (_ ++ ·) (List.map_id payloads)

end Life

/- A connection under the closing policy can close. -/
theorem Origin.closes_live
    {τ ω : Type}
    [Transport τ ω]
    (hWithin : Transport.ReceivesWithin τ)
    {origin : Origin τ ω}
    (hListener : origin.listener = false)
    (hPolicy : origin.framing.overflowPolicy = .close)
    (moments : List (Moment τ ω)) :
    Life.Closes (origin.live moments) where
  listener := (listener_live origin moments).trans hListener
  policy := (overflowPolicy_live origin moments).trans hPolicy
  room := room_of_shape (live_shape origin moments)
  closed := closed_live hWithin hListener moments

------------------------------------------------------------
-- Behind the Close
------------------------------------------------------------

namespace Socket

/-
  Nothing was received, nothing overflowed, and no event was
  added but that a connection was made.
-/
structure Silent
    (s : Socket Endpoint)
    (r : Reply Endpoint Network (Result Endpoint)) :
    Prop where
  input : r.socket.input = s.input
  closed : r.socket.closed = s.closed
  events :
    ∃ n,
      r.result.events ++ r.socket.events =
        s.events ++ List.replicate n .connected
  measures :
    (Report.measures r.reports).filter Measure.isInbound =
      []

/- Over a closed endpoint a read fails. -/
theorem silent_readable
    {s : Socket Endpoint}
    (hListener : s.listener = false)
    (hMute : s.transport.IsMute)
    (host : Host Network) :
    Silent s (s.perform (.notify .readable) host) := by
  rcases hMute.receive_failed s.input.remaining
      host.world with
    ⟨failure, hResult, hWorld⟩
  rcases readInput_of_error hResult with
    ⟨hSocket, _, hNone⟩
  rw [perform_readable hListener]
  constructor
  · change (s.readInput host).socket.input = _
    rw [hSocket]
  · change (s.readInput host).socket.closed = _
    rw [hSocket]
  · refine ⟨0, ?_⟩
    change (s.readInput host).socket.events = _
    rw [hSocket]
    exact (List.append_nil _).symm
  · exact hNone

/- A connection that is closed on both sides is silent. -/
theorem silent_perform
    {s : Socket Endpoint}
    (hListener : s.listener = false)
    (hAnnounced : s.closed = true)
    (hMute : s.transport.IsMute)
    (operation : Operation)
    (host : Host Network) :
    Silent s (s.perform operation host) := by
  by_cases hReadable : operation = .notify .readable
  · subst hReadable
    exact silent_readable hListener hMute host
  · have hAside := aside_perform s hReadable host
    have hEmits := emits_perform s hReadable host
    have hNews :
        ∃ n,
          operation.news s = List.replicate n .connected := by
      unfold Operation.news
      split
      · exact ⟨1, rfl⟩
      · rw [if_pos hAnnounced]
        exact ⟨0, rfl⟩
      · exact ⟨0, rfl⟩
    rcases hNews with ⟨n, hNews⟩
    refine ⟨hAside.input, ?_, ⟨n, ?_⟩, hAside.measures⟩
    · rw [hEmits.closed, hAnnounced]
      rfl
    · rw [hEmits.events, hNews]

end Socket

end FrameLink
