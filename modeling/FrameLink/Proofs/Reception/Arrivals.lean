import FrameLink.Proofs.Reception.Service

/-
  What is kept at a reception.

  Whatever clients, listener and connections do, in any
  order: the connections handed over are the far ends of the
  clients that have connected first, in that order, each with
  the limits and the meter of the listener, and what a client
  has written is what was read of it and what is still there
  (`Reception.attended_run`).

  Key definitions include:
    * `Reception.Inherits`, `Reception.Attended`
-/

------------------------------------------------------------
-- Attendance
------------------------------------------------------------

namespace FrameLink

namespace Reception

/- The socket has the limits and the meter of a listener. -/
structure Inherits
    (framing : FramingConfig)
    (meter : Nat)
    (s : Socket Endpoint) : Prop where
  listener : s.listener = false
  framing : s.framing = framing.clamped
  meter : s.meter = meter

/-
  The listener is as it was opened, the clients are kept, the
  connections handed over are those that have come first, and
  each of them has read of its client what is given.
-/
structure Attended
    (o : Opening)
    (read : List Bytes)
    (r : Reception) : Prop where
  connector : r.connector = o.ends.1.2
  listener : r.listener.socket.listener = true
  framing : r.listener.socket.framing = o.framing.clamped
  meter : r.listener.socket.meter = o.meter
  role :
    r.listener.socket.transport.role =
      .listener r.connector.queue true
  guests : r.guests.Kept o.base read
  order :
    r.listener.arrivals.map (·.transport.identity) =
      (r.guests.callers.take read.length).map
        (·.1.identity)
  inherits :
    ∀ s ∈ r.listener.arrivals, Inherits o.framing o.meter s
  size : r.connections.length = read.length
  same :
    r.connections.map (·.socket.id) =
      r.listener.arrivals.map Socket.id
  serves :
    ∀ (k : Nat) (c : Life Endpoint Network),
      r.connections[k]? = some c →
        ∃ caller,
          r.guests.callers[k]? = some caller ∧
            Served o.framing caller.1 (read.getD k []) c

variable {o : Opening} {read : List Bytes} {r : Reception}

/- Whoever has connected is among the clients. -/
theorem client_of_caller
    {g : Guests}
    {k : Nat}
    {caller : Endpoint × Address}
    (hCaller : g.callers[k]? = some caller) :
    ∃ client,
      g.clients[k]? = some client ∧
        client.caller g.connector = caller := by
  rw [Guests.callers, List.getElem?_map,
    Option.map_eq_some_iff] at hCaller
  exact hCaller

/- What is done with one connection is kept of its client. -/
theorem kept_operate
    {framing : FramingConfig}
    {base : Nat}
    {g : Guests}
    (hKept : g.Kept base read)
    {k : Nat}
    (hTaken : k < read.length)
    {caller : Endpoint × Address}
    (hCaller : g.callers[k]? = some caller)
    {c : Life Endpoint Network}
    (hServed :
      Served framing caller.1 (read.getD k []) c)
    (hWorld : c.host.world = g.net)
    (operation : Socket.Operation) :
    let life := Socket.pass c (.operate operation)
    ∃ more,
      Served framing caller.1 more life ∧
        Guests.Kept base (read.set k more)
          { g with net := life.host.world } := by
  intro life
  rcases client_of_caller hCaller with ⟨client, hClient, rfl⟩
  rcases List.getElem?_eq_some_iff.mp hClient with
    ⟨hLess, _⟩
  rcases hServed with ⟨origin, moments, hServes⟩
  have hPipes := hKept.pipes
  have hRole :
      (client.far g.connector).role =
        .stream (base + 2 * k) (base + 2 * k + 1) :=
    congrArg Role.opposite (hKept.role k client hClient)
  have hPipe : base + 2 * k < c.host.world.pipes.size := by
    rw [hWorld]
    omega
  have hFed :
      client.written =
        read.getD k [] ++
          (c.host.world.pipe (base + 2 * k)).bytes := by
    rw [hWorld]
    exact hKept.written k client hClient
  rcases hServes.operate hRole (by omega) hPipe hFed
      operation with
    ⟨more, hMore, hBytes, hConfined⟩
  rw [hWorld] at hConfined
  exact
    ⟨more, hMore,
      hKept.confined hTaken hClient hConfined hBytes⟩

------------------------------------------------------------
-- What Is Done
------------------------------------------------------------

/- Clients come behind those that are there. -/
theorem Attended.guest
    (hAttended : Attended o read r)
    (action : Guests.Action) :
    Attended o read (r.act (.guest action)) := by
  have hGuests :
      (r.act (.guest action)).guests =
        r.guests.act action :=
    congrArg (Guests.mk · _ _)
      (Guests.connector_act r.guests action).symm
  have hKept := hAttended.guests
  rcases hKept.callers_act action with ⟨more, hMore⟩
  have hTaken : read.length ≤ r.guests.callers.length := by
    rw [Guests.callers, List.length_map]
    exact hKept.taken
  constructor
  · exact hAttended.connector
  · exact hAttended.listener
  · exact hAttended.framing
  · exact hAttended.meter
  · exact hAttended.role
  · rw [hGuests]
    exact hKept.act action
  · rw [hGuests]
    refine hAttended.order.trans ?_
    rw [← hMore, List.take_append_of_le_length hTaken]
  · exact hAttended.inherits
  · exact hAttended.size
  · exact hAttended.same
  · intro k c hThere
    rcases hAttended.serves k c hThere with
      ⟨caller, hCaller, hServed⟩
    rcases List.getElem?_eq_some_iff.mp hCaller with
      ⟨hLess, _⟩
    refine ⟨caller, ?_, hServed⟩
    rw [hGuests, ← hMore, List.getElem?_append_left hLess]
    exact hCaller

/- What is done with a connection is its client's matter. -/
theorem Attended.connection
    (hAttended : Attended o read r)
    (k : Nat)
    (operation : Socket.Operation) :
    ∃ read',
      Attended o read' (r.act (.connection k operation)) := by
  cases hThere : r.connections[k]? with
  | none =>
      simp only [act, hThere]
      exact ⟨read, hAttended⟩
  | some c =>
      rcases List.getElem?_eq_some_iff.mp hThere with
        ⟨hLess, _⟩
      rw [hAttended.size] at hLess
      rcases hAttended.serves k c hThere with
        ⟨caller, hCaller, origin, moments, hServes⟩
      rcases kept_operate hAttended.guests hLess hCaller
          ⟨_, _, hServes.inHost r.host⟩ rfl operation with
        ⟨more, hMore, hKept⟩
      simp only [act, hThere]
      refine ⟨read.set k more, ?_⟩
      constructor
      · exact hAttended.connector
      · exact hAttended.listener
      · exact hAttended.framing
      · exact hAttended.meter
      · exact hAttended.role
      · exact hKept
      · rw [List.length_set]
        exact hAttended.order
      · exact hAttended.inherits
      · rw [List.length_set, List.length_set]
        exact hAttended.size
      · rcases Socket.perform_reach c.socket operation
            r.host with
          ⟨transport, closed, input, output, events, hReach⟩
        have hId :
            (c.socket.perform operation r.host).socket.id =
              c.socket.id := by
          rw [hReach]
        rw [List.map_set, set_of_getElem?]
        · exact hAttended.same
        · rw [List.getElem?_map, hThere]
          exact congrArg some hId.symm
      · intro j c' hOther
        rcases getElem?_set_cases hOther with
          ⟨hNe, hBefore⟩ | ⟨rfl, rfl⟩
        · rcases hAttended.serves j c' hBefore with
            ⟨caller', hCaller', hServed⟩
          refine ⟨caller', hCaller', ?_⟩
          rw [List.getD_eq_getElem?_getD,
            List.getElem?_set_ne hNe,
            ← List.getD_eq_getElem?_getD]
          exact hServed
        · refine ⟨caller, hCaller, ?_⟩
          rw [List.getD_eq_getElem?_getD,
            List.getElem?_set_self hLess]
          exact hMore

/- A listener stays the listener that it is. -/
theorem Attended.listens
    (hAttended : Attended o read r)
    (operation : Socket.Operation) :
    let s := (r.act (.listener operation)).listener.socket
    s.listener = true ∧
      s.framing = o.framing.clamped ∧ s.meter = o.meter := by
  intro s
  rcases Socket.perform_reach r.listener.socket operation
      r.host with
    ⟨transport, closed, input, output, events, hReach⟩
  have hSocket : s = _ := hReach
  rw [hSocket]
  exact
    ⟨hAttended.listener, hAttended.framing, hAttended.meter⟩

/- Where nobody is taken, all are kept. -/
theorem Attended.nobody
    (hAttended : Attended o read r)
    {operation : Socket.Operation}
    (hUndisturbed :
      Undisturbed r (r.act (.listener operation))) :
    Attended o read (r.act (.listener operation)) := by
  have hListens := hAttended.listens operation
  generalize r.act (.listener operation) = r'
    at hListens hUndisturbed ⊢
  have hGuests := hUndisturbed.guests
  constructor
  · rw [hUndisturbed.connector]
    exact hAttended.connector
  · exact hListens.1
  · exact hListens.2.1
  · exact hListens.2.2
  · rw [hUndisturbed.role, hUndisturbed.connector]
    exact hAttended.role
  · rw [hGuests]
    exact hAttended.guests
  · rw [hGuests, hUndisturbed.arrivals]
    exact hAttended.order
  · rw [hUndisturbed.arrivals]
    exact hAttended.inherits
  · rw [hUndisturbed.connections]
    exact hAttended.size
  · rw [hUndisturbed.connections, hUndisturbed.arrivals]
    exact hAttended.same
  · rw [hGuests, hUndisturbed.connections]
    exact hAttended.serves

/- A life without its result so far shows no less. -/
theorem Served.handedOver
    {framing : FramingConfig}
    {far : Endpoint}
    {bs : Bytes}
    {c : Life Endpoint Network}
    (hServed : Served framing far bs c)
    (hSilent :
      c.result.flatMap Socket.Result.events = []) :
    Served framing far bs (handedOver c.host c.socket) := by
  rcases hServed with ⟨origin, moments, hServes⟩
  refine ⟨origin, moments, hServes.listener, hServes.limits,
    ?_, hServes.identity, hServes.read, hServes.isOpen⟩
  refine
    ⟨hServes.shows.socket, hServes.shows.host, ?_⟩
  rw [← hServes.shows.events, hSilent]
  rfl

/- Who is taken is served, and what it wrote first read. -/
theorem kept_admitted
    {framing : FramingConfig}
    {base : Nat}
    {g : Guests}
    (hKept : g.Kept base read)
    {caller : Endpoint × Address}
    {rest : List (Endpoint × Address)}
    (hQueue :
      g.net.queue g.connector.queue = caller :: rest)
    {origin : Origin Endpoint Network}
    (hListener : origin.listener = false)
    (hLimits : origin.framing = framing.clamped)
    (hStream : origin.transport = caller.1)
    (hWorld :
      origin.host.world =
        g.net.changeQueue g.connector.queue List.tail) :
    let c := Socket.admitted origin
    g.callers[read.length]? = some caller ∧
      ∃ more,
        Served framing caller.1 more
            (handedOver c.host c.socket) ∧
          Guests.Kept base (read ++ [more])
            { g with net := c.host.world } := by
  intro c
  rcases hKept.take hQueue with ⟨hHead, hTake⟩
  refine ⟨hHead, ?_⟩
  rcases client_of_caller hHead with ⟨client, _, hCaller⟩
  have hOpen : origin.transport.IsOpen := by
    rw [hStream, ← hCaller]
    exact ⟨rfl, rfl⟩
  have hMade := serves_made hListener hLimits hOpen
  have hNothing : (read ++ [[]]).getD read.length [] = [] := by
    rw [List.getD_eq_getElem?_getD,
      List.getElem?_concat_length]
    rfl
  have hServed :
      Served framing caller.1
        ((read ++ [[]]).getD read.length [])
        (origin.live []) := by
    rw [hNothing, ← hStream]
    exact ⟨origin, [], hMade⟩
  have hFound :
      (origin.live []).host.world =
        g.net.changeQueue g.connector.queue List.tail := by
    refine Eq.trans ?_ hWorld
    change origin.started.host.world = _
    rw [Origin.host_started origin hListener]
  have hLess : read.length < (read ++ [[]]).length := by
    rw [List.length_append]
    exact Nat.lt_succ_self _
  rcases kept_operate hTake hLess hHead hServed hFound
      (.notify .readable) with
    ⟨more, hMore, hKeeps⟩
  rw [List.set_append_right _ _ (Nat.le_refl _),
    Nat.sub_self] at hKeeps
  exact ⟨more, hMore.handedOver rfl, hKeeps⟩

/- A connection that is welcomed is served and inherits. -/
theorem Attended.welcomed
    (hAttended : Attended o read r)
    {caller : Endpoint × Address}
    {c : Life Endpoint Network}
    {r' : Reception}
    (hWelcomed :
      Welcomed r.connector.queue caller c r r') :
    r.guests.callers[read.length]? = some caller ∧
      Inherits o.framing o.meter c.socket ∧
      ∃ more,
        Served o.framing caller.1 more
            (handedOver c.host c.socket) ∧
          Guests.Kept o.base (read ++ [more])
            { r.guests with net := c.host.world } := by
  rcases hWelcomed.waiting with ⟨rest, hQueue⟩
  have hAdmitted := hWelcomed.admitted
  generalize hOrigin :
    r.listener.socket.admission caller.1
      { r.host with
        world :=
          r.host.world.changeQueue r.connector.queue
            List.tail } = origin
    at hAdmitted
  subst hAdmitted
  have hReads : origin.listener = false := by
    rw [← hOrigin]
    rfl
  have hLimits : origin.framing = o.framing.clamped := by
    rw [← hOrigin]
    exact hAttended.framing
  have hMeter : origin.meter = o.meter := by
    rw [← hOrigin]
    exact hAttended.meter
  have hStream : origin.transport = caller.1 := by
    rw [← hOrigin]
    rfl
  have hWorld :
      origin.host.world =
        r.host.world.changeQueue r.connector.queue
          List.tail := by
    rw [← hOrigin]
    rfl
  rcases kept_admitted hAttended.guests hQueue hReads hLimits
      hStream hWorld with
    ⟨hHead, more, hServed, hKept⟩
  rcases Socket.admitted_inherits hReads with
    ⟨_, hConnection, hFraming, hMetered, _⟩
  refine
    ⟨hHead, ⟨hConnection, ?_, hMetered.trans hMeter⟩, more,
      hServed, hKept⟩
  rw [hFraming, hLimits, Origin.clamped_clamped]

/- Who is taken comes behind those taken before. -/
theorem Attended.somebody
    (hAttended : Attended o read r)
    {operation : Socket.Operation}
    {caller : Endpoint × Address}
    {c : Life Endpoint Network}
    (hWelcomed :
      Welcomed r.connector.queue caller c r
        (r.act (.listener operation))) :
    ∃ read',
      Attended o read' (r.act (.listener operation)) := by
  have hListens := hAttended.listens operation
  rcases hAttended.welcomed hWelcomed with
    ⟨hHead, hInherits, more, hServed, hKept⟩
  generalize r.act (.listener operation) = r'
    at hListens hWelcomed ⊢
  have hGuests := hWelcomed.guests
  refine ⟨read ++ [more], ?_⟩
  constructor
  · rw [hWelcomed.connector]
    exact hAttended.connector
  · exact hListens.1
  · exact hListens.2.1
  · exact hListens.2.2
  · rw [hWelcomed.role, hWelcomed.connector]
    exact hAttended.role
  · rw [hGuests]
    exact hKept
  · rcases hServed with ⟨_, _, hServes⟩
    rw [hGuests, hWelcomed.arrivals]
    change _ = (r.guests.callers.take _).map _
    rw [List.map_append, hAttended.order,
      List.length_append, List.length_singleton,
      List.take_add_one, hHead, List.map_append]
    exact congrArg (_ ++ [·]) hServes.identity
  · intro s hMember
    rw [hWelcomed.arrivals] at hMember
    rcases List.mem_append.mp hMember with hBefore | hLast
    · exact hAttended.inherits s hBefore
    · rw [List.mem_singleton.mp hLast]
      exact hInherits
  · rw [hWelcomed.connections, List.length_append,
      List.length_append, hAttended.size]
    rfl
  · rw [hWelcomed.connections, hWelcomed.arrivals,
      List.map_append, List.map_append, hAttended.same]
    rfl
  · intro k c' hThere
    rw [hWelcomed.connections] at hThere
    rw [hGuests]
    rcases getElem?_concat_cases hThere with
      hBefore | ⟨hLast, rfl⟩
    · rcases List.getElem?_eq_some_iff.mp hBefore with
        ⟨hLess, _⟩
      rw [hAttended.size] at hLess
      rcases hAttended.serves k c' hBefore with
        ⟨caller', hCaller, hOne⟩
      refine ⟨caller', hCaller, ?_⟩
      rw [List.getD_eq_getElem?_getD,
        List.getElem?_append_left hLess,
        ← List.getD_eq_getElem?_getD]
      exact hOne
    · rw [hLast, hAttended.size]
      refine ⟨_, hHead, ?_⟩
      rw [List.getD_eq_getElem?_getD,
        List.getElem?_concat_length]
      exact hServed

/- Whatever is done with the listener, all are kept. -/
theorem Attended.listened
    (hAttended : Attended o read r)
    (operation : Socket.Operation) :
    ∃ read',
      Attended o read' (r.act (.listener operation)) := by
  cases welcomes_listener hAttended.listener hAttended.role
      operation with
  | nobody _ _ hUndisturbed =>
      exact ⟨read, hAttended.nobody hUndisturbed⟩
  | somebody hReadable hWilling hWelcomed =>
      exact hAttended.somebody hWelcomed

------------------------------------------------------------
-- Runs
------------------------------------------------------------

/- One thing done keeps all. -/
theorem Attended.act
    (hAttended : Attended o read r)
    (action : Action) :
    ∃ read', Attended o read' (r.act action) := by
  cases action with
  | guest action => exact ⟨read, hAttended.guest action⟩
  | listener operation => exact hAttended.listened operation
  | connection k operation =>
      exact hAttended.connection k operation
  | failAccept | make =>
      rcases hAttended with
        ⟨hConnector, hListener, hFraming, hMeter, hRole,
          hGuests, hOrder, hInherits, hSize, hSame, hServes⟩
      exact
        ⟨read, hConnector, hListener, hFraming, hMeter,
          hRole, hGuests, hOrder, hInherits, hSize, hSame,
          hServes⟩

/- Nobody has been taken at first. -/
theorem attended_reception (o : Opening) :
    Attended o [] o.reception := by
  have hKept :
      Guests.Kept o.base []
        { connector := o.ends.1.2, net := o.ends.2 } := by
    constructor
    · change
        o.host.world.queues.size <
          (o.host.world.queues.push []).size
      rw [Array.size_push]
      exact Nat.lt_succ_self _
    · rfl
    · intro i client hClient
      cases hClient
    · exact Nat.le_refl 0
    · change (o.host.world.queues.push []).getD _ [] = []
      rw [Array.getD_eq_getD_getElem?]
      change
        (o.host.world.queues.push
          [])[o.host.world.queues.size]?.getD [] = []
      rw [Array.getElem?_push_size]
      rfl
    · intro i client hClient
      cases hClient
  have hConnector : o.guests.connector = o.ends.1.2 :=
    Guests.connector_run _ o.early
  have hGuests : o.reception.guests = o.guests :=
    congrArg (Guests.mk · _ _) hConnector.symm
  constructor
  · rfl
  · rfl
  · rfl
  · rfl
  · rfl
  · rw [hGuests]
    exact hKept.run o.early
  · rfl
  · intro s hMember
    cases hMember
  · rfl
  · rfl
  · intro k c hThere
    cases hThere

/- Whatever happens at a reception, all are kept. -/
theorem attended_run
    (o : Opening)
    (actions : List Action) :
    ∃ read, Attended o read (o.reception.run actions) := by
  unfold run
  apply List.foldlRecOn actions act
    (motive := fun r => ∃ read, Attended o read r)
  · exact ⟨[], attended_reception o⟩
  · rintro r ⟨read, hAttended⟩ action hMember
    exact hAttended.act action

end Reception

end FrameLink
