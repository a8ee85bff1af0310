import FrameLink.Proofs.Socket.Life

/-
  The queue of events.

  Events are put behind those that wait, and nothing that a
  socket does depends on which these are
  (`Socket.perform_behind`).  So it makes no difference to a
  life when its consumer polls: what has been handed out,
  with what still waits behind it, is what would wait had
  nobody ever polled (`Origin.emitted_live`), and that queue
  grows at its end only (`Origin.emitted_prefix`).  And what
  waits is handed out whenever it is asked for
  (`Life.handsOut`).

  Key definitions include:
    * `Socket.behind`, `Reply.behind`
    * `Socket.Operation.isPolling`, `Moment.isPolling`
    * `Life.handedOut`, `Life.HandsOut`
-/

------------------------------------------------------------
-- Queues with More in Front
------------------------------------------------------------

namespace FrameLink

/- The socket with more events in front of its queue. -/
def Socket.behind
    {τ : Type}
    (s : Socket τ)
    (front : List (Event τ)) : Socket τ :=
  { s with events := front ++ s.events }

/- The reply with more events in front of the queue. -/
def Reply.behind
    {τ ω α : Type}
    (r : Reply τ ω α)
    (front : List (Event τ)) : Reply τ ω α :=
  { r with socket := r.socket.behind front }

namespace Socket

variable {τ ω : Type} [Transport τ ω]

omit [Transport τ ω] in
/- Behind everything else is behind each part of it. -/
theorem behind_behind
    (s : Socket τ)
    (front middle : List (Event τ)) :
    (s.behind middle).behind front =
      s.behind (front ++ middle) := by
  simp only [behind, List.append_assoc]

omit [Transport τ ω] in
/- Any queue can be seen as being in front of none. -/
theorem eq_behind (s : Socket τ) :
    s = ({ s with events := [] } : Socket τ).behind
      s.events := by
  cases s
  simp only [behind, List.append_nil]

section Fields

variable {τ : Type} (s : Socket τ) (front : List (Event τ))

theorem transport_behind :
    (s.behind front).transport = s.transport := rfl

theorem listener_behind :
    (s.behind front).listener = s.listener := rfl

theorem closed_behind :
    (s.behind front).closed = s.closed := rfl

theorem input_behind :
    (s.behind front).input = s.input := rfl

theorem output_behind :
    (s.behind front).output = s.output := rfl

theorem framing_behind :
    (s.behind front).framing = s.framing := rfl

theorem maxPacketSize_behind :
    (s.behind front).maxPacketSize = s.maxPacketSize := rfl

end Fields

theorem setError_behind
    (s : Socket τ)
    (front : List (Event τ))
    (code : ErrorCode) :
    (s.behind front).setError code =
      (s.setError code).behind front := rfl

------------------------------------------------------------
-- What Waits Has No Part in Anything
------------------------------------------------------------

variable (s : Socket τ) (front : List (Event τ))

theorem flush_behind (host : Host ω) :
    (s.behind front).flush host =
      (s.flush host).behind front := by
  unfold flush
  rw [output_behind, transport_behind]
  split
  · rfl
  · dsimp only
    split
    · rfl
    · split
      · rfl
      · split
        · rfl
        · rfl

theorem sendFrame_behind
    (frame payload : Bytes)
    (host : Host ω) :
    (s.behind front).sendFrame frame payload host =
      (s.sendFrame frame payload host).behind front := by
  have hQueued :
      ({ s.behind front with
          output :=
            ((s.behind front).output.append frame).append
              payload } :
        Socket τ) =
      ({ s with
          output := (s.output.append frame).append payload } :
        Socket τ).behind front :=
    rfl
  unfold sendFrame
  dsimp only at hQueued ⊢
  rw [hQueued, flush_behind]
  dsimp only [Reply.behind]
  split
  · rfl
  · split
    · rfl
    · rfl

theorem send_behind
    (payload : Bytes)
    (host : Host ω) :
    (s.behind front).send payload host =
      (s.send payload host).behind front := by
  unfold send
  rw [maxPacketSize_behind, output_behind]
  split
  · rfl
  · split
    · exact sendFrame_behind s front _ payload host
    · rfl

theorem sendTo_behind
    (payload : Bytes)
    (address : Address)
    (host : Host ω) :
    (s.behind front).sendTo payload address host =
      (s.sendTo payload address host).behind front := by
  unfold sendTo
  rw [transport_behind]
  split
  · exact send_behind s front payload host
  · rfl

theorem sendRaw_behind
    (data : Bytes)
    (host : Host ω) :
    (s.behind front).sendRaw data host =
      (s.sendRaw data host).behind front := by
  unfold sendRaw
  rw [output_behind]
  split
  · rfl
  · rename_i output hRoom
    have hFlush := flush_behind { s with output } front host
    exact
      congrArg
        (fun r : Reply τ ω (Except SocketError Nat) =>
          { r with
            reports :=
              .measure
                  (.rawQueued (UInt64.ofNat data.length)) ::
                r.reports })
        hFlush

omit [Transport τ ω] in
theorem emit_behind (event : Event τ) :
    (s.behind front).emit event =
      (s.emit event).behind front := by
  simp only [emit, behind, List.append_assoc]

omit [Transport τ ω] in
theorem announceClose_behind (code : Option ErrorCode) :
    (s.behind front).announceClose code =
      ((s.announceClose code).1.behind front,
        (s.announceClose code).2) := by
  unfold announceClose
  rw [emit_behind, closed_behind]
  split
  · rfl
  · rfl

theorem deliver_behind :
    (s.behind front).deliver =
      ((s.deliver).1.behind front, (s.deliver).2) := by
  simp only [deliver, behind, List.append_assoc]

theorem overflow_behind (host : Host ω) :
    (s.behind front).overflow host =
      (s.overflow host).behind front := by
  have hMoved :
      ∀ (t : Socket τ) (u : τ),
        ({ t.behind front with transport := u } : Socket τ) =
          ({ t with transport := u } : Socket τ).behind
            front :=
    fun _ _ => rfl
  have hCleared :
      ({ s.behind front with
          input := (s.behind front).input.clear } :
        Socket τ) =
      ({ s with input := s.input.clear } :
        Socket τ).behind front :=
    rfl
  unfold overflow
  dsimp only
  rw [hCleared, framing_behind]
  cases s.framing.overflowPolicy with
  | reset => rfl
  | close =>
      dsimp only at hMoved
      rw [setError_behind, hMoved, transport_behind,
        announceClose_behind]
      rfl

theorem takeBytes_behind
    (bs : Bytes)
    (host : Host ω) :
    (s.behind front).takeBytes bs host =
      (s.takeBytes bs host).behind front := by
  have hFilled :
      ({ s.behind front with
          input := (s.behind front).input.fill bs } :
        Socket τ) =
      ({ s with input := s.input.fill bs } :
        Socket τ).behind front :=
    rfl
  unfold takeBytes
  rw [hFilled, deliver_behind]
  dsimp only
  rw [input_behind, overflow_behind]
  split
  · rfl
  · rfl

theorem readInput_behind (host : Host ω) :
    (s.behind front).readInput host =
      (s.readInput host).behind front := by
  unfold readInput
  rw [transport_behind, input_behind]
  dsimp only
  split
  · exact
      takeBytes_behind
        { s with
          transport :=
            (Transport.receive s.transport s.input.remaining
              host.world).transport }
        front _ _
  · split
    · rfl
    · rfl

theorem acceptConnection_behind (host : Host ω) :
    (s.behind front).acceptConnection host =
      (s.acceptConnection host).behind front := by
  have hMoved :
      ∀ u : τ,
        ({ s.behind front with transport := u } : Socket τ) =
          ({ s with transport := u } : Socket τ).behind
            front :=
    fun _ => rfl
  unfold acceptConnection
  dsimp only at hMoved ⊢
  rw [transport_behind, hMoved, framing_behind]
  split
  · rw [emit_behind]
    rfl
  · split
    · rfl
    · rfl

theorem handle_behind
    (notification : Notification)
    (host : Host ω) :
    (s.behind front).handle notification host =
      (s.handle notification host).behind front := by
  cases notification with
  | connected =>
      dsimp only [handle, Reply.behind]
      rw [emit_behind]
  | readable =>
      unfold handle onReadable
      dsimp only
      rw [listener_behind]
      split
      · exact acceptConnection_behind s front host
      · exact readInput_behind s front host
  | writable =>
      unfold handle onWritable
      dsimp only
      rw [output_behind, flush_behind]
      split
      · rfl
      · rfl
  | closed code =>
      unfold handle
      dsimp only
      rw [announceClose_behind]
      rfl

------------------------------------------------------------
-- Operations
------------------------------------------------------------

/- The operation hands events out. -/
def Operation.isPolling : Operation → Bool
  | .poll => true
  | .drain => true
  | _ => false

/-
  What waits has no part in anything but polling, and what
  is new goes behind it.
-/
theorem perform_behind
    {operation : Operation}
    (hOther : operation.isPolling = false)
    (host : Host ω) :
    (s.behind front).perform operation host =
      (s.perform operation host).behind front := by
  cases operation with
  | send payload =>
      exact
        congrArg (resulting .count)
          (send_behind s front payload host)
  | sendTo payload address =>
      exact
        congrArg (resulting .count)
          (sendTo_behind s front payload address host)
  | sendRaw data =>
      exact
        congrArg (resulting .count)
          (sendRaw_behind s front data host)
  | flush =>
      exact
        congrArg (resulting .count) (flush_behind s front host)
  | notify notification =>
      exact
        congrArg (resulting (fun _ => .done))
          (handle_behind s front notification host)
  | poll => cases hOther
  | drain => cases hOther

/- What polls hands out the front of the queue. -/
theorem perform_of_isPolling
    {operation : Operation}
    (hPolling : operation.isPolling = true)
    (host : Host ω) :
    let r := s.perform operation host
    r.socket.behind r.result.events = s ∧
      r.host = host ∧ r.reports = [] := by
  cases operation with
  | poll =>
      rcases s with
        ⟨id, transport, listener, closed, input, output,
          framing, events, meter⟩
      cases events with
      | nil => exact ⟨rfl, rfl, rfl⟩
      | cons event events => exact ⟨rfl, rfl, rfl⟩
  | drain =>
      refine ⟨?_, rfl, rfl⟩
      exact s.eq_behind.symm
  | send | sendTo | sendRaw | flush | notify => cases hPolling

/- What does not poll hands nothing out. -/
theorem events_perform_of_not_isPolling
    {operation : Operation}
    (hOther : operation.isPolling = false)
    (host : Host ω) :
    (s.perform operation host).result.events = [] := by
  cases operation with
  | poll | drain => cases hOther
  | send | sendTo | sendRaw | flush | notify => rfl

/- What was handed out or waits is there, and more behind. -/
theorem events_prefix_perform
    (operation : Operation)
    (host : Host ω) :
    s.events <+:
      (s.perform operation host).result.events ++
        (s.perform operation host).socket.events := by
  cases hPolling : operation.isPolling with
  | true =>
      have hSocket :=
        (perform_of_isPolling s hPolling host).1
      exact
        ⟨[], (List.append_nil _).trans
          (congrArg Socket.events hSocket).symm⟩
  | false =>
      have hBehind :=
        perform_behind ({ s with events := [] } : Socket τ)
          s.events hPolling host
      rw [← eq_behind] at hBehind
      rw [events_perform_of_not_isPolling s hPolling,
        hBehind, List.nil_append]
      exact ⟨_, rfl⟩

end Socket

------------------------------------------------------------
-- Lives That Nobody Polls
------------------------------------------------------------

/- The moment is one in which events are handed out. -/
def Moment.isPolling {τ ω : Type} : Moment τ ω → Bool
  | .operate operation => operation.isPolling
  | .disturb _ => false

namespace Life

variable {τ ω : Type} [Transport τ ω]

/- The events that a life has handed out. -/
def handedOut (r : Life τ ω) : List (Event τ) :=
  r.result.flatMap Socket.Result.events

theorem handedOut_operate
    (r : Life τ ω)
    (operation : Socket.Operation) :
    handedOut (Socket.pass r (.operate operation)) =
      handedOut r ++
        (r.socket.perform operation r.host).result.events := by
  rw [handedOut, handedOut, Socket.pass]
  dsimp only
  rw [List.flatMap_append, List.flatMap_cons,
    List.flatMap_nil, List.append_nil]

/-
  The consumer has only to ask: of polls in a row each hands
  out the event that has waited longest, as long as there is
  one, and a drain hands out all that wait.  What is handed
  out waits no longer, and nothing else changes.
-/
structure HandsOut (r : Life τ ω) : Prop where
  poll :
    ∀ n,
      (List.replicate n (.operate .poll)).foldl
          Socket.pass r =
        { r with
          result :=
            r.result ++
              (List.range n).map
                (fun i => .polled r.socket.events[i]?)
          socket :=
            { r.socket with
              events := r.socket.events.drop n } }
  drain :
    Socket.pass r (.operate .drain) =
      { r with
        result := r.result ++ [.drained r.socket.events]
        socket := { r.socket with events := [] } }

/- One poll takes the first event off the queue, if any. -/
theorem pass_poll (r : Life τ ω) :
    Socket.pass r (.operate .poll) =
      { r with
        result := r.result ++ [.polled r.socket.events.head?]
        socket :=
          { r.socket with
            events := r.socket.events.tail } } := by
  rcases r with ⟨result, socket, host, reports⟩
  rcases socket with
    ⟨id, transport, listener, closed, input, output, framing,
      events, meter⟩
  dsimp only [Socket.pass, Socket.perform, Socket.poll]
  rw [List.append_nil]
  cases events with
  | nil => rfl
  | cons event events => rfl

/- Whatever has happened, events are handed out on demand. -/
theorem handsOut (r : Life τ ω) : HandsOut r := by
  constructor
  · intro n
    induction n with
    | zero =>
        rw [List.range_zero, List.map_nil, List.append_nil,
          List.drop_zero]
        rcases r with ⟨result, socket, host, reports⟩
        cases socket
        rfl
    | succ n ih =>
        -- The last of the polls finds what the others left.
        rw [List.replicate_succ', List.foldl_append, ih,
          List.foldl_cons, List.foldl_nil, pass_poll]
        simp only [List.head?_drop, List.tail_drop,
          List.range_succ, List.map_append, List.map_cons,
          List.map_nil, List.append_assoc]
  · dsimp only [Socket.pass, Socket.perform, Socket.drain]
    rw [List.append_nil]

/-
  One life is another that nobody has polled: what the other
  has handed out still waits in front of its queue.
-/
structure IsUnpolled (unpolled r : Life τ ω) : Prop where
  socket :
    unpolled.socket = r.socket.behind (handedOut r)
  host : unpolled.host = r.host
  reports : unpolled.reports = r.reports

/- A moment in which nobody polls is one of both lives. -/
theorem IsUnpolled.pass
    {unpolled r : Life τ ω}
    (hUnpolled : IsUnpolled unpolled r)
    {moment : Moment τ ω}
    (hOther : moment.isPolling = false) :
    IsUnpolled (Socket.pass unpolled moment)
      (Socket.pass r moment) := by
  rcases hUnpolled with ⟨hSocket, hHost, hReports⟩
  cases moment with
  | disturb change =>
      constructor
      · dsimp only [Socket.pass]
        rw [hSocket, hHost]
        rfl
      · dsimp only [Socket.pass]
        rw [hSocket, hHost]
        rfl
      · exact hReports
  | operate operation =>
      have hNone :=
        Socket.events_perform_of_not_isPolling r.socket hOther
          r.host
      have hBehind :=
        Socket.perform_behind r.socket (handedOut r) hOther
          r.host
      rw [← hSocket, ← hHost] at hBehind
      constructor
      · rw [handedOut_operate, hNone, List.append_nil]
        dsimp only [Socket.pass]
        rw [hBehind, hHost]
        rfl
      · dsimp only [Socket.pass]
        rw [hBehind, hHost]
        rfl
      · dsimp only [Socket.pass]
        rw [hBehind, hHost, hReports]
        rfl

/- Polling is for the other life only. -/
theorem IsUnpolled.poll
    {unpolled r : Life τ ω}
    (hUnpolled : IsUnpolled unpolled r)
    {operation : Socket.Operation}
    (hPolling : operation.isPolling = true) :
    IsUnpolled unpolled
      (Socket.pass r (.operate operation)) := by
  rcases Socket.perform_of_isPolling r.socket hPolling
      r.host with
    ⟨hSocket, hHost, hReports⟩
  constructor
  · rw [handedOut_operate, ← Socket.behind_behind,
      hUnpolled.socket]
    exact congrArg (Socket.behind · (handedOut r)) hSocket.symm
  · exact hUnpolled.host.trans hHost.symm
  · dsimp only [Socket.pass]
    rw [hReports, List.append_nil]
    exact hUnpolled.reports

end Life

namespace Origin

variable {τ ω : Type} [Transport τ ω]
variable (origin : Origin τ ω) (moments : List (Moment τ ω))

/- Leaving out all polling leaves all else as it is. -/
theorem isUnpolled_live :
    Life.IsUnpolled
      (origin.live (moments.filter (!·.isPolling)))
      (origin.live moments) := by
  have hAfter :
      ∀ unpolled r : Life τ ω,
        Life.IsUnpolled unpolled r →
          Life.IsUnpolled
            ((moments.filter (!·.isPolling)).foldl
              Socket.pass unpolled)
            (moments.foldl Socket.pass r) := by
    induction moments with
    | nil =>
        intro unpolled r hUnpolled
        exact hUnpolled
    | cons moment moments ih =>
        intro unpolled r hUnpolled
        cases hPolling : moment.isPolling with
        | false =>
            rw [List.filter_cons_of_pos (by simp [hPolling]),
              List.foldl_cons, List.foldl_cons]
            exact ih _ _ (hUnpolled.pass hPolling)
        | true =>
            rw [List.filter_cons_of_neg (by simp [hPolling]),
              List.foldl_cons]
            apply ih
            cases moment with
            | operate operation =>
                exact hUnpolled.poll hPolling
            | disturb change => cases hPolling
  apply hAfter
  refine ⟨?_, rfl, rfl⟩
  cases origin.started.socket
  rfl

/-
  What has been handed out and what waits are, one behind the
  other, the queue of a socket that nobody has polled.
-/
theorem emitted_live :
    (origin.live moments).emitted =
      (origin.live
        (moments.filter (!·.isPolling))).socket.events := by
  rw [(isUnpolled_live origin moments).socket]
  rfl

end Origin

/- A moment adds events behind all others. -/
theorem Life.emitted_prefix_pass
    {τ ω : Type}
    [Transport τ ω]
    (r : Life τ ω)
    (moment : Moment τ ω) :
    r.emitted <+: (Socket.pass r moment).emitted := by
  cases moment with
  | disturb change => exact List.prefix_rfl
  | operate operation =>
      change
        handedOut r ++ r.socket.events <+:
          handedOut (Socket.pass r (.operate operation)) ++
            (r.socket.perform operation r.host).socket.events
      rw [handedOut_operate, List.append_assoc,
        List.prefix_append_right_inj]
      exact
        Socket.events_prefix_perform r.socket operation r.host

/- The events of a life are there at every later time. -/
theorem Origin.emitted_prefix
    {τ ω : Type}
    [Transport τ ω]
    (origin : Origin τ ω)
    (moments later : List (Moment τ ω)) :
    (origin.live moments).emitted <+:
      (origin.live (moments ++ later)).emitted := by
  rw [live, live, Socket.live, Socket.live, List.foldl_append]
  apply List.foldlRecOn later Socket.pass
    (motive := fun r =>
      Life.emitted (moments.foldl Socket.pass _) <+:
        Life.emitted r)
  · exact List.prefix_rfl
  · intro r hPrefix moment _
    exact hPrefix.trans (Life.emitted_prefix_pass r moment)

end FrameLink
