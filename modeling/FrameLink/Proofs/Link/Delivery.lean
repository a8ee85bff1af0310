import FrameLink.Proofs.Link.Basic

/-
  Delivery over a link.

  What the left end has written is a front of the frames of
  the packets it has accepted, and what the right end has
  received is a front of that.  The reference cuts whole
  frames that fit back into the packets, and what it cuts
  from a front stays cut.  So the right end has a front of
  the packets accepted, whole and in order, and has them all
  when nothing waits anywhere (`Link.delivers`).
-/

------------------------------------------------------------
-- Lives Go On
------------------------------------------------------------

namespace FrameLink

namespace Link

variable {o : Opening} {link : Link}
variable {lefts rights : List (Moment Endpoint Network)}

/- An orderly action at the left end sends no raw bytes. -/
theorem Action.moment_ne_sendRaw
    {action : Action}
    (hOrderly : action.IsOrderly)
    (hLeft : action.side = .left)
    (data : Bytes) :
    action.moment ≠ .operate (.sendRaw data) := by
  cases action with
  | handle side operation => exact nofun
  | operate side operation =>
      intro hRaw
      cases hLeft
      cases hRaw
      exact hOrderly

/- The lives go on with what is done at the left end. -/
theorem Lived.act_left
    (hLived : Lived o link lefts rights)
    {action : Action}
    (hOrderly : action.IsOrderly)
    (hLeft : action.side = .left) :
    ∃ host,
      Lived o (link.act action) (lefts ++ [action.moment])
        (rights ++ [.elsewhere host]) := by
  have hHost :
      (Socket.pass link.left action.moment).host =
        (o.left.recorded (lefts ++ [action.moment])).host := by
    rw [hLived.left, ← Origin.live_concat, Origin.host_live]
  have hFeeds :=
    Action.feeds_pass hLived.sends.listener hLived.feeds
      hOrderly hLeft
  rw [← Origin.recorded_concat] at hFeeds
  refine
    ⟨(Socket.pass link.left action.moment).host, ?_⟩
  constructor
  · rw [act, hLeft, Origin.live_concat, hLived.left]
  · rw [act, hLeft, live_elsewhere, hLived.right]
  · rw [recorded_elsewhere, hHost]
  · rw [act, hLeft, hLived.left]
    exact
      Origin.sends_concat Endpoint.sendsWithin hLived.sends
        action.moment
        (Action.moment_ne_sendRaw hOrderly hLeft)
  · rw [recorded_elsewhere]
    exact hLived.reads
  · rw [Origin.journal, recorded_elsewhere]
    exact hFeeds
  · rw [Origin.journal, Origin.journal, recorded_elsewhere,
      hHost]
    exact hLived.drains.refeed hFeeds

/- The lives go on with what is done at the right end. -/
theorem Lived.act_right
    (hLived : Lived o link lefts rights)
    {action : Action}
    (hOrderly : action.IsOrderly)
    (hRight : action.side = .right) :
    ∃ host,
      Lived o (link.act action) (lefts ++ [.elsewhere host])
        (rights ++ [action.moment]) := by
  have hHost :
      (Socket.pass link.right action.moment).host =
        (o.right.recorded
          (rights ++ [action.moment])).host := by
    rw [hLived.right, ← Origin.live_concat, Origin.host_live]
  have hDrains :=
    Action.drains_pass hLived.reads hLived.drains hOrderly
      hRight
  rw [← Origin.recorded_concat] at hDrains
  have hShape :
      (o.right.recorded
          (rights ++ [action.moment])).socket.shape =
        (o.right.recorded rights).socket.shape :=
    (Origin.live_shape o.right.journaled _).trans
      (Origin.live_shape o.right.journaled _).symm
  refine
    ⟨(Socket.pass link.right action.moment).host, ?_⟩
  constructor
  · rw [act, hRight, live_elsewhere, hLived.left]
  · rw [act, hRight, Origin.live_concat, hLived.right]
  · rw [recorded_elsewhere, hHost]
  · have hSends :
        Life.Sends _ _ (link.accepted ++ []) :=
      Origin.sends_concat Endpoint.sendsWithin hLived.sends
        (.elsewhere
          (Socket.pass link.right action.moment).host)
        (fun _ => nofun)
    rw [List.append_nil] at hSends
    rw [act, hRight]
    exact hSends
  · exact (congrArg Socket.Shape.listener hShape).trans
      hLived.reads
  · rw [Origin.journal, Origin.journal, recorded_elsewhere,
      hHost]
    exact hLived.feeds.redrain hDrains
  · rw [Origin.journal, recorded_elsewhere]
    exact hDrains

/- The pipe of a new link is there and empty. -/
theorem Opening.pipe_ends (o : Opening) :
    o.pipe < o.ends.2.pipes.size ∧
      (o.ends.2.pipe o.pipe).bytes = [] := by
  have hPipes :
      o.ends.2.pipes =
        (o.host.world.pipes.push {}).push {} :=
    rfl
  have hOne : o.pipe < (o.host.world.pipes.push {}).size := by
    rw [Array.size_push]
    exact Nat.lt_succ_self _
  constructor
  · rw [hPipes, Array.size_push]
    exact Nat.lt_succ_of_lt hOne
  · have hPipe : o.ends.2.pipes[o.pipe]? = some {} := by
      rw [hPipes, Array.getElem?_push,
        if_neg (Nat.ne_of_lt hOne), pipe,
        Array.getElem?_push_size]
    rw [Network.pipe, Array.getD_eq_getD_getElem?, hPipe]
    rfl

/- A link that is opened has lived through nothing. -/
theorem lived_link (o : Opening) :
    Lived o o.link [.elsewhere o.right.started.host] [] := by
  rcases o.pipe_ends with ⟨hPipe, hEmpty⟩
  have hLeft :=
    recorded_elsewhere o.left [] o.right.started.host
  have hLeftMade :=
    Origin.socket_started o.left.journaled rfl
  have hRightMade :=
    Origin.socket_started o.right.journaled rfl
  have hRightHost := Origin.host_live o.right []
  have hWorld : o.right.started.host.world = o.ends.2 := by
    rw [Origin.host_started _ rfl]
    change o.left.started.host.world = _
    rw [Origin.host_started _ rfl]
    rfl
  rw [List.nil_append] at hLeft
  constructor
  · exact (live_elsewhere o.left [] _).symm
  · rfl
  · rw [hLeft]
    exact hRightHost
  · have hSends : Life.Sends _ _ ([] ++ []) :=
      Origin.sends_concat Endpoint.sendsWithin
        (Origin.sends_nil o.left rfl)
        (.elsewhere o.right.started.host) (fun _ => nofun)
    exact hSends
  · exact congrArg Socket.listener hRightMade
  · rw [Origin.journal, Origin.journal, hLeft]
    change
      Journaled.Feeds o.pipe
        o.right.journaled.started.socket.transport.received
        o.left.journaled.started.socket.transport
        o.right.started.host.world
    rw [hLeftMade, hRightMade, hWorld]
    refine ⟨hPipe, ⟨_, rfl, ?_⟩, ?_⟩
    · exact Nat.succ_ne_self _
    · rw [hEmpty]
      rfl
  · rw [Origin.journal, Origin.journal, hLeft,
      ← hRightHost]
    change
      Journaled.Drains o.pipe
        o.left.journaled.started.socket.transport.written
        o.right.journaled.started.socket.transport
        o.right.started.host.world
    rw [hLeftMade, hRightMade, hWorld]
    refine ⟨hPipe, ⟨_, rfl, ?_⟩, ?_⟩
    · exact Nat.succ_ne_self _
    · rw [hEmpty]
      rfl

/- Whatever orderly is done, both ends live their lives. -/
theorem lived_run
    (o : Opening)
    {actions : List Action}
    (hOrderly : ∀ action ∈ actions, action.IsOrderly) :
    ∃ lefts rights,
      Lived o (o.link.run actions) lefts rights := by
  unfold run
  apply List.foldlRecOn
    (motive := fun link =>
      ∃ lefts rights, Lived o link lefts rights)
    actions act
  · exact ⟨_, _, lived_link o⟩
  · intro link hSome action hMember
    rcases hSome with ⟨lefts, rights, hLived⟩
    have hThis := hOrderly action hMember
    cases hSide : action.side with
    | left =>
        rcases hLived.act_left hThis hSide with
          ⟨host, hNext⟩
        exact ⟨_, _, hNext⟩
    | right =>
        rcases hLived.act_right hThis hSide with
          ⟨host, hNext⟩
        exact ⟨_, _, hNext⟩

------------------------------------------------------------
-- Delivery
------------------------------------------------------------

/-
  What is received, what is on its way and what waits are the
  frames of the packets accepted.
-/
theorem Lived.flatMap_bytes_accepted
    (hLived : Lived o link lefts rights) :
    (o.right.journal rights).received ++
        (o.onTheWay link.right.host.world ++
          link.left.socket.output.filled) =
      link.accepted.flatMap Frame.bytes := by
  have hBalance := hLived.sends.balanced.balance
  rw [hLived.sends.frames, ← List.flatMap_def] at hBalance
  have hWritten := hLived.drains.bytes
  rw [Origin.journal] at hWritten
  rw [hWritten, List.append_assoc] at hBalance
  rw [hLived.left, hLived.right, Origin.output_live,
    Origin.host_live]
  exact hBalance

/- The packets accepted fit the right end. -/
theorem Lived.deframe_accepted
    (hLived : Lived o link lefts rights)
    (hLimit : o.left.limit ≤ o.right.limit) :
    Frame.deframe (o.right.limit + Frame.prefixSize)
        (link.accepted.flatMap Frame.bytes) =
      ⟨link.accepted.map .packet, []⟩ := by
  apply Frame.deframe_flatMap_bytes
  intro payload hMember
  have hFits := hLived.sends.fits payload hMember
  have hLeft :
      (o.left.recorded lefts).socket.maxPacketSize =
        o.left.limit :=
    Origin.maxPacketSize_live o.left.journaled _
  have hMost : o.right.limit ≤ Frame.maxPayload :=
    Nat.min_le_right _ _
  have hLess := Frame.maxPayload_le_maxAnnounced
  omega

/- Segments cut from a front of the stream are packets. -/
theorem Lived.segments_prefix
    (hLived : Lived o link lefts rights)
    (hLimit : o.left.limit ≤ o.right.limit) :
    (Frame.deframe (o.right.limit + Frame.prefixSize)
        (o.right.journal rights).received).segments <+:
      link.accepted.map .packet := by
  have hPrefix :=
    Frame.segments_deframe_prefix
      (o.right.limit + Frame.prefixSize)
      (o.right.journal rights).received
      (o.onTheWay link.right.host.world ++
        link.left.socket.output.filled)
  rw [hLived.flatMap_bytes_accepted,
    hLived.deframe_accepted hLimit] at hPrefix
  exact hPrefix

/- What waits at the right endpoint is on its way. -/
theorem Lived.available_eq
    (hLived : Lived o link lefts rights) :
    link.right.socket.transport.available
        link.right.host.world =
      (o.onTheWay link.right.host.world).length := by
  rcases hLived.drains.role with ⟨outbound, hRole, _⟩
  rw [hLived.right, Origin.transport_live,
    Endpoint.available, hRole]
  rfl

/-
  Over any orderly schedule, the packets delivered are a
  front of those accepted, and nothing overflows.  Where
  nothing waits at the left end or on the way, all of them
  are delivered, nothing is left in the input, and as many
  are counted as sent.
-/
theorem delivers
    {o : Opening}
    (hPolicy : o.rightFraming.overflowPolicy = .reset)
    (hLimit : o.left.limit ≤ o.right.limit)
    {actions : List Action}
    (hOrderly : ∀ action ∈ actions, action.IsOrderly) :
    let link := o.link.run actions
    let delivered := link.right.packets.map Prod.fst
    delivered <+: link.accepted ∧
      link.right.overflows = 0 ∧
      (link.left.socket.pendingOutput = 0 →
        link.right.socket.transport.available
          link.right.host.world = 0 →
        delivered = link.accepted ∧
          link.right.socket.bufferedInput = 0 ∧
          (Metrics.ofMeasures
              (Report.measures
                link.left.reports)).packetsSent =
            UInt64.ofNat delivered.length) := by
  intro link delivered
  rcases lived_run o hOrderly with ⟨lefts, rights, hLived⟩
  have hPrefix := hLived.segments_prefix hLimit
  have hMade : o.right.listener = false := rfl
  have hPayloads :=
    Origin.payloads_live Endpoint.receivesWithin hMade
      hPolicy rights
  have hOverflows :=
    Origin.overflows_live Endpoint.receivesWithin hMade
      hPolicy rights
  have hInput :=
    Origin.filled_input_live Endpoint.receivesWithin hMade
      hPolicy rights
  rw [← hLived.right] at hPayloads hOverflows hInput
  refine ⟨?_, ?_, ?_⟩
  · have hFront := hPrefix.filterMap Segment.payload?
    rw [Segment.filterMap_payload?_map_packet] at hFront
    change (o.link.run actions).right.packets.map _ <+: _
    rw [hPayloads]
    exact hFront
  · rw [hOverflows]
    apply List.count_eq_zero.mpr
    intro hMember
    exact Segment.overflow_notMem_map_packet _
      (hPrefix.subset hMember)
  · intro hPending hAvailable
    have hWaiting : link.left.socket.output.filled = [] :=
      Socket.filled_output_eq_nil_iff.mpr hPending
    have hOnTheWay :
        o.onTheWay link.right.host.world = [] :=
      List.length_eq_zero_iff.mp
        (hLived.available_eq.symm.trans hAvailable)
    have hStream := hLived.flatMap_bytes_accepted
    rw [hOnTheWay, hWaiting, List.append_nil,
      List.append_nil] at hStream
    rw [hStream, hLived.deframe_accepted hLimit]
      at hPayloads hInput
    have hDelivered : delivered = link.accepted :=
      hPayloads.trans
        (Segment.filterMap_payload?_map_packet _)
    refine ⟨hDelivered, ?_, ?_⟩
    · rw [Socket.bufferedInput, ← Buffer.length_filled, hInput]
      rfl
    · have hCounted := hLived.sends.counted
      rw [← Origin.reports_live, ← hLived.left] at hCounted
      rw [Metrics.packetsSent_ofMeasures, hCounted, hDelivered]

/- A link that carries packets of four bytes at most. -/
def shortOpening : Opening where
  leftAddress := .loopback 40001
  rightAddress := .loopback 40002
  leftFraming := { maxPacketSize := 4 }
  rightFraming := { maxPacketSize := 4 }
  host := { world := {} }

/-
  A frame is torn by a narrow window, a packet is shed behind
  it, a receive fails, and the left end closes at last.
-/
def tornSchedule : List Action :=
  [.handle .left (.setWindow (some 3)),
    .operate .left (.send [7, 8]),
    .operate .left (.send [9]),
    .operate .right (.notify .readable),
    .handle .left (.setWindow none),
    .operate .left (.notify .writable),
    .handle .right (.failNextReceive .connectionReset),
    .operate .right (.notify .readable),
    .operate .right (.notify .readable),
    .operate .right .drain,
    .operate .left (.send [5]),
    .handle .left .close,
    .operate .right (.notify .readable)]

/- Of three packets one is shed and two are delivered. -/
theorem delivers_torn :
    shortOpening.rightFraming.overflowPolicy = .reset ∧
      shortOpening.left.limit ≤ shortOpening.right.limit ∧
      (∀ action ∈ tornSchedule, action.IsOrderly) ∧
      (shortOpening.link.run tornSchedule).accepted =
        [[7, 8], [5]] ∧
      (shortOpening.link.run tornSchedule).right.packets.map
        Prod.fst = [[7, 8], [5]] ∧
      (Metrics.ofMeasures
          (Report.measures
            (shortOpening.link.run
              tornSchedule).left.reports)).packetsSent =
        2 := by
  have hOrderly :
      ∀ action ∈ tornSchedule, action.IsOrderly := by
    intro action hMember
    simp only [tornSchedule, List.mem_cons, List.not_mem_nil,
      or_false] at hMember
    rcases hMember with rfl | rfl | rfl | rfl | rfl | rfl |
      rfl | rfl | rfl | rfl | rfl | rfl | rfl
    all_goals exact trivial
  have hAccepted :
      (shortOpening.link.run tornSchedule).accepted =
        [[7, 8], [5]] := by
    decide +kernel
  have hLimit :
      shortOpening.left.limit ≤ shortOpening.right.limit :=
    Nat.le_refl _
  rcases delivers (o := shortOpening) rfl hLimit hOrderly with
    ⟨hPrefix, hOverflows, hQuiet⟩
  rcases hQuiet (by decide +kernel) (by decide +kernel) with
    ⟨hDelivered, hInput, hSent⟩
  rw [hDelivered, hAccepted] at hSent
  exact ⟨rfl, hLimit, hOrderly, hAccepted,
    hDelivered.trans hAccepted, hSent⟩

end Link

end FrameLink
