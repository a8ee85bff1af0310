import FrameLink.Proofs.Reception.Numbers

/-
  A listener loses no connection and mixes up none.

  At any time, the connections that a listener has handed
  over are the first that were made, in the order of their
  making, and the others wait in its queue in that order
  (`Reception.FansOut`).  Telling it to read hands over the
  next one if there is one and the accept does not fail, and
  nothing else hands over any (`Reception.Takes`).  Under the
  reset policy a connection that is told to read often enough
  delivers what its client has written
  (`Reception.fans_out`).

  Key definitions include:
    * `Reception.FansOut`, `Reception.Takes`
    * `Reception.Drives`
-/

------------------------------------------------------------
-- What Is Seen
------------------------------------------------------------

namespace FrameLink

namespace Reception

/- What can be seen of a reception at any time. -/
structure FansOut (o : Opening) (r : Reception) : Prop where
  /- The first connections made were handed over in order. -/
  order :
    r.listener.arrivals.map (·.transport.identity) =
      (r.guests.callers.take
        r.listener.arrivals.length).map (·.1.identity)
  /- All others wait, in order. -/
  waiting :
    r.host.world.queue r.connector.queue =
      r.guests.callers.drop r.listener.arrivals.length
  /- No two connections have the same pipes. -/
  distinct : (r.guests.callers.map (·.1.role)).Nodup
  /- A connection knows the address of its client. -/
  remote :
    r.listener.arrivals.map
        (Transport.remoteAddress ·.transport) =
      (r.clients.take r.listener.arrivals.length).map
        (some ·.endpoint.address)
  /- It has the limits and the meter of the listener. -/
  inherits :
    ∀ s ∈ r.listener.arrivals,
      s.listener = false ∧
        s.framing = r.listener.socket.framing ∧
        s.meter = r.listener.socket.meter
  /- Its number is among those of all sockets, in order. -/
  numbers :
    (r.listener.arrivals.map Socket.id).Sublist r.made
  /- Until the numbers run out, each is greater than before. -/
  ascending :
    o.host.nextId.number.toNat + r.made.length ≤
        UInt64.size →
      r.made.Pairwise (·.number < ·.number) ∧
        ∀ id ∈ r.made, o.host.nextId.number ≤ id.number
  /- Each is used as it was handed over. -/
  same :
    r.connections.map (·.socket.id) =
      r.listener.arrivals.map Socket.id
  /- It has delivered the packets in what it has read. -/
  delivered :
    ∀ (k : Nat) (c : Life Endpoint Network)
      (client : Client),
      r.connections[k]? = some c →
        r.clients[k]? = some client →
          ∃ seen unread,
            client.written = seen ++ unread ∧
              c.socket.transport.available r.host.world =
                unread.length ∧
              c.packets.map Prod.fst =
                (Frame.deframe c.socket.capacity
                  seen).payloads ∧
              c.socket.input.filled =
                (Frame.deframe c.socket.capacity seen).rest

/- What telling the listener to read comes to. -/
structure Takes (r : Reception) : Prop where
  /-
    Where the accept fails, or nobody waits, the consumer of
    the listener hears of nothing, and all stays.
  -/
  nobody :
    let r' := r.act (.listener (.notify .readable))
    r.listener.socket.transport.failNextAccept ≠ none ∨
        r.host.world.queue r.connector.queue = [] →
      r'.listener.emitted = r.listener.emitted ∧
        r'.listener.arrivals = r.listener.arrivals ∧
        r'.host = r.host
  /- Else it hands over who has waited longest. -/
  somebody :
    let r' := r.act (.listener (.notify .readable))
    ∀ caller rest,
      r.listener.socket.transport.failNextAccept = none →
        r.host.world.queue r.connector.queue =
            caller :: rest →
          r'.host.world.queue r'.connector.queue = rest ∧
            ∃ s,
              r'.listener.arrivals =
                  r.listener.arrivals ++ [s] ∧
                s.transport.identity = caller.1.identity
  /- Nothing else hands over any. -/
  others :
    ∀ action,
      action ≠ .listener (.notify .readable) →
        (r.act action).listener.arrivals =
          r.listener.arrivals

/-
  Told to read often enough, a connection has nothing left to
  read and has delivered what its client has written.
-/
def Drives (r : Reception) : Prop :=
  ∀ (k n : Nat) (c : Life Endpoint Network)
    (client : Client),
    r.connections[k]? = some c →
      r.clients[k]? = some client →
        c.socket.transport.available r.host.world ≤ n →
          let r' :=
            r.run
              (List.replicate n
                (.connection k (.notify .readable)))
          ∃ c',
            r'.connections[k]? = some c' ∧
              c'.socket.transport.available r'.host.world =
                0 ∧
              c'.packets.map Prod.fst =
                (Frame.deframe c.socket.capacity
                  client.written).payloads ∧
              c'.socket.input.filled =
                (Frame.deframe c.socket.capacity
                  client.written).rest

variable {o : Opening} {read : List Bytes} {r : Reception}

------------------------------------------------------------
-- Order
------------------------------------------------------------

/- As many were handed over as have something read of them. -/
theorem Attended.length_arrivals
    (hAttended : Attended o read r) :
    r.listener.arrivals.length = read.length := by
  have hLength := congrArg List.length hAttended.same
  rw [List.length_map, List.length_map] at hLength
  rw [← hLength, hAttended.size]

/- The far end of a client has a pair of pipes to itself. -/
theorem Attended.roles
    (hAttended : Attended o read r) :
    r.guests.callers.map (·.1.role) =
      (List.range r.clients.length).map
        (fun i =>
          Role.stream (o.base + 2 * i)
            (o.base + 2 * i + 1)) := by
  apply List.ext_getElem?
  intro i
  rw [Guests.callers, List.map_map, List.getElem?_map,
    List.getElem?_map]
  cases hClient : r.guests.clients[i]? with
  | none =>
      rw [List.getElem?_eq_none]
      · rfl
      · rw [List.length_range]
        exact List.getElem?_eq_none_iff.mp hClient
  | some client =>
      rcases List.getElem?_eq_some_iff.mp hClient with
        ⟨hLess, _⟩
      have hIndex :
          (List.range r.clients.length)[i]? = some i :=
        List.getElem?_range hLess
      rw [hIndex]
      have hRole := hAttended.guests.role i client hClient
      exact congrArg (some ·.opposite) hRole

/- No two clients have the same pipes. -/
theorem Attended.nodup_roles
    (hAttended : Attended o read r) :
    (r.guests.callers.map (·.1.role)).Nodup := by
  rw [hAttended.roles, List.nodup_iff_pairwise_ne,
    List.pairwise_map]
  refine List.pairwise_lt_range.imp ?_
  intro i j hLess hSame
  have hPipe := (Role.stream.inj hSame).1
  omega

/- Who was handed over knows its client. -/
theorem Attended.remote
    (hAttended : Attended o read r) :
    r.listener.arrivals.map
        (Transport.remoteAddress ·.transport) =
      (r.clients.take r.listener.arrivals.length).map
        (some ·.endpoint.address) := by
  have hPeers :=
    congrArg (List.map (·.2.2)) hAttended.order
  rw [List.map_map, List.map_map, Guests.callers,
    ← List.map_take, List.map_map] at hPeers
  rw [hAttended.length_arrivals]
  exact hPeers

------------------------------------------------------------
-- Turns
------------------------------------------------------------

/- With one more handed over, who waited first is taken. -/
theorem Attended.first_of_concat
    (hAttended : Attended o read r)
    {read' : List Bytes}
    {r' : Reception}
    (hAfter : Attended o read' r')
    (hCallers : r'.guests.callers = r.guests.callers)
    {s : Socket Endpoint}
    (hArrivals :
      r'.listener.arrivals = r.listener.arrivals ++ [s])
    {caller : Endpoint × Address}
    {rest : List (Endpoint × Address)}
    (hQueue :
      r.host.world.queue r.connector.queue =
        caller :: rest) :
    r'.host.world.queue r'.connector.queue = rest ∧
      s.transport.identity = caller.1.identity := by
  have hLength : read'.length = read.length + 1 := by
    rw [← hAttended.length_arrivals,
      ← hAfter.length_arrivals, hArrivals,
      List.length_append, List.length_singleton]
  have hWaiting :
      r.guests.callers.drop read.length = caller :: rest :=
    hAttended.guests.waiting.symm.trans hQueue
  have hFirst :
      r.guests.callers[read.length]? = some caller := by
    have hHead := congrArg (·[0]?) hWaiting
    simp only [List.getElem?_drop, Nat.add_zero] at hHead
    exact hHead
  constructor
  · refine hAfter.guests.waiting.trans ?_
    rw [hCallers, hLength, ← List.tail_drop, hWaiting]
    rfl
  · have hOrder := hAfter.order
    rw [hArrivals, hCallers, hLength, List.take_add_one,
      hFirst, List.map_append, List.map_append,
      ← hAttended.order] at hOrder
    exact List.singleton_inj.mp
      (List.append_cancel_left hOrder)

/- One turn takes who has waited longest, or nobody. -/
theorem Attended.takes
    (hAttended : Attended o read r) :
    Takes r := by
  have hReadable :=
    welcomes_readable hAttended.listener hAttended.role
  have hOthers :
      ∀ operation,
        operation ≠ .notify .readable →
          (r.act (.listener operation)).listener.arrivals =
            r.listener.arrivals := by
    intro operation hOther
    cases welcomes_listener hAttended.listener
        hAttended.role operation with
    | nobody _ _ hUndisturbed =>
        exact hUndisturbed.arrivals
    | somebody hReadable =>
        exact absurd hReadable hOther
  constructor
  · intro r' hReason
    cases hReadable with
    | nobody _ hSilent hUndisturbed =>
        exact
          ⟨hSilent rfl, hUndisturbed.arrivals,
            hUndisturbed.host⟩
    | somebody _ hWilling hWelcomed =>
        rcases hWelcomed.waiting with ⟨rest, hQueue⟩
        rcases hReason with hFail | hNobody
        · exact absurd hWilling hFail
        · cases hNobody.symm.trans hQueue
  · intro r' caller rest hWilling hQueue
    cases hReadable with
    | nobody hReason _ _ =>
        rcases hReason rfl with hFail | hNobody
        · exact absurd hWilling hFail
        · cases hNobody.symm.trans hQueue
    | somebody _ _ hWelcomed =>
        rcases hAttended.listened (.notify .readable) with
          ⟨read', hAfter⟩
        have hCallers :
            r'.guests.callers = r.guests.callers := by
          rw [hWelcomed.guests]
          rfl
        rcases hAttended.first_of_concat hAfter hCallers
            hWelcomed.arrivals hQueue with
          ⟨hRest, hIdentity⟩
        exact ⟨hRest, _, hWelcomed.arrivals, hIdentity⟩
  · intro action hOther
    cases action with
    | listener operation =>
        apply hOthers
        rintro rfl
        exact hOther rfl
    | connection k operation =>
        simp only [Reception.act]
        split
        · rfl
        · rfl
    | _ => rfl

------------------------------------------------------------
-- Delivery
------------------------------------------------------------

/- A connection has delivered what it has read. -/
theorem Serves.delivered
    {framing : FramingConfig}
    {far : Endpoint}
    {seen : Bytes}
    {c : Life Endpoint Network}
    {origin : Origin Endpoint Network}
    {moments : List (Moment Endpoint Network)}
    (hServes : Serves framing far seen c origin moments) :
    c.packets.map Prod.fst =
        (Frame.deframe c.socket.capacity seen).payloads ∧
      c.socket.input.filled =
        (Frame.deframe c.socket.capacity seen).rest := by
  rw [hServes.shows.packets, hServes.shows.socket,
    Origin.capacity_live, ← hServes.read]
  constructor
  · exact
      Origin.payloads_followed Endpoint.receivesWithin
        hServes.listener moments
  · exact
      Origin.filled_input_followed Endpoint.receivesWithin
        hServes.listener moments

theorem Serves.room
    {framing : FramingConfig}
    {far : Endpoint}
    {seen : Bytes}
    {c : Life Endpoint Network}
    {origin : Origin Endpoint Network}
    {moments : List (Moment Endpoint Network)}
    (hServes : Serves framing far seen c origin moments) :
    0 < c.socket.input.remaining := by
  have hCapacity : Frame.prefixSize ≤ c.socket.capacity := by
    rw [hServes.shows.socket, Origin.capacity_live]
    exact Nat.le_add_left _ _
  have hLess :=
    Frame.length_rest_deframe_lt hCapacity seen
  have hAll := Buffer.size_add_remaining c.socket.input
  rw [← hServes.delivered.2, Buffer.length_filled,
    Socket.capacity] at hLess
  omega

section Connections

variable
  (hAttended : Attended o read r)
  {k : Nat}
  {c : Life Endpoint Network}
  {client : Client}
  (hThere : r.connections[k]? = some c)
  (hClient : r.clients[k]? = some client)

include hAttended hThere hClient

/- A connection serves the client that it comes from. -/
theorem Attended.served :
    (∃ origin moments,
        Serves o.framing (client.far r.connector)
          (read.getD k []) c origin moments) ∧
      c.socket.transport.role =
        .stream (o.base + 2 * k) (o.base + 2 * k + 1) := by
  rcases hAttended.serves k c hThere with
    ⟨caller, hCaller, origin, moments, hServes⟩
  rcases client_of_caller hCaller with ⟨own, hOwn, rfl⟩
  cases hClient.symm.trans hOwn
  refine ⟨⟨origin, moments, hServes⟩, ?_⟩
  have hRole := hAttended.guests.role k client hOwn
  exact
    (congrArg Prod.fst hServes.identity).trans
      (congrArg Role.opposite hRole)

/- What a client has written is read or still there. -/
theorem Attended.delivered :
    ∃ seen unread,
      client.written = seen ++ unread ∧
        c.socket.transport.available r.host.world =
          unread.length ∧
        c.packets.map Prod.fst =
          (Frame.deframe c.socket.capacity seen).payloads ∧
        c.socket.input.filled =
          (Frame.deframe c.socket.capacity seen).rest := by
  rcases hAttended.served hThere hClient with
    ⟨⟨origin, moments, hServes⟩, hRole⟩
  refine
    ⟨_, _, hAttended.guests.written k client hClient, ?_,
      hServes.delivered⟩
  rw [Endpoint.available, hRole]
  rfl

/- Told to read, it leaves less to read than there was. -/
theorem Attended.readable
    (hReset : o.framing.overflowPolicy = .reset) :
    let r' := r.act (.connection k (.notify .readable))
    ∃ c',
      r'.connections[k]? = some c' ∧
        r'.clients = r.clients ∧
        c'.socket.capacity = c.socket.capacity ∧
        c'.socket.transport.available r'.host.world ≤
          c.socket.transport.available r.host.world - 1 := by
  intro r'
  rcases hAttended.served hThere hClient with
    ⟨⟨origin, moments, hServes⟩, hRole⟩
  rcases List.getElem?_eq_some_iff.mp hThere with
    ⟨hLess, _⟩
  rcases List.getElem?_eq_some_iff.mp hClient with
    ⟨hAmong, _⟩
  have hPipe : o.base + 2 * k < r.host.world.pipes.size := by
    have hPipes := hAttended.guests.pipes
    change r.host.world.pipes.size = _ at hPipes
    change _ = o.base + 2 * r.clients.length at hPipes
    omega
  have hTaken :=
    Socket.available_readable hServes.reads
      (hServes.policy.trans hReset) (hServes.isOpen hReset)
      hRole hPipe hServes.room
  have hNext :
      r' =
        { r.inHost (r.used c (.notify .readable)).host with
          connections :=
            r.connections.set k
              (r.used c (.notify .readable)) } := by
    simp only [r', Reception.act, hThere]
  rw [hNext]
  refine ⟨r.used c (.notify .readable),
    List.getElem?_set_self hLess, rfl, ?_, ?_⟩
  · exact
      congrArg Socket.Shape.inputRoom
        (Socket.perform_shape c.socket (.notify .readable)
          r.host)
  · refine Nat.le_trans (Nat.le_of_eq hTaken) ?_
    exact Nat.sub_le_sub_left hServes.room _

end Connections

/- Told to read often enough, it leaves nothing to read. -/
theorem Attended.drives
    (hReset : o.framing.overflowPolicy = .reset)
    (hAttended : Attended o read r) :
    Drives r := by
  intro k n
  induction n generalizing r read with
  | zero =>
      intro c client hThere hClient hNone r'
      have hNothing := Nat.le_zero.mp hNone
      rcases hAttended.delivered hThere hClient with
        ⟨seen, unread, hWritten, hAvailable, hPackets,
          hInput⟩
      have hUnread : unread = [] :=
        List.length_eq_zero_iff.mp
          (hAvailable.symm.trans hNothing)
      rw [hUnread, List.append_nil] at hWritten
      rw [← hWritten] at hPackets hInput
      exact ⟨c, hThere, hNothing, hPackets, hInput⟩
  | succ n ih =>
      intro c client hThere hClient hFew r'
      rcases hAttended.readable hThere hClient hReset with
        ⟨c', hThere', hClients, hCapacity, hLess⟩
      rcases hAttended.act
          (.connection k (.notify .readable)) with
        ⟨read', hAfter⟩
      rw [← hClients] at hClient
      rw [← hCapacity]
      exact
        ih hAfter c' client hThere' hClient
          (Nat.le_trans hLess (by omega))

------------------------------------------------------------
-- Fanning Out
------------------------------------------------------------

/-
  Whatever clients, listener and connections do, in any
  order, the listener hands over the connections that were
  made first, in order, each once, with its limits and its
  meter and with ascending numbers; each turn takes one, and
  a failed one none; and under the reset policy connections
  deliver what their clients have written.
-/
theorem fans_out
    (o : Opening)
    (actions : List Action) :
    let r := o.reception.run actions
    FansOut o r ∧
      Takes r ∧
        (o.framing.overflowPolicy = .reset → Drives r) := by
  intro r
  rcases attended_run o actions with ⟨read, hAttended⟩
  have hNumbered := numbered_run o actions
  have hLength := hAttended.length_arrivals
  refine
    ⟨?_, hAttended.takes,
      fun hReset => hAttended.drives hReset⟩
  constructor
  · rw [hLength]
    exact hAttended.order
  · rw [hLength]
    exact hAttended.guests.waiting
  · exact hAttended.nodup_roles
  · exact hAttended.remote
  · intro s hMember
    have hInherits := hAttended.inherits s hMember
    exact
      ⟨hInherits.listener,
        hInherits.framing.trans hAttended.framing.symm,
        hInherits.meter.trans hAttended.meter.symm⟩
  · exact hNumbered.arrivals
  · exact hNumbered.ascending
  · exact hAttended.same
  · intro k c client hThere hClient
    exact hAttended.delivered hThere hClient

/- A listener to which somebody connects early. -/
def lobby : Opening where
  address := .loopback 5222
  early := [.connect (.loopback 40001)]
  framing := { maxPacketSize := 3 }
  host := { world := {} }

/-
  The first client writes a packet and a byte more, and a
  second one connects.  An accept fails, and then both are
  taken, with a socket made in between.  The first client
  completes its second packet.
-/
def visits : List Action :=
  [.guest (.use 0 (.send [0, 1, 7, 0])),
    .guest (.connect (.loopback 40002)),
    .failAccept .connectionReset,
    .listener (.notify .readable),
    .listener (.notify .readable), .make,
    .listener (.notify .readable),
    .guest (.use 0 (.send [2, 8, 9]))]

/- Both are handed over, and nothing written is lost. -/
theorem fans_out_lobby :
    let r := lobby.reception.run visits
    r.listener.arrivals.map
          (Transport.remoteAddress ·.transport) =
        [some (.loopback 40001), some (.loopback 40002)] ∧
      r.made.Pairwise (·.number < ·.number) ∧
      (r.listener.arrivals.map Socket.id).Sublist r.made ∧
      lobby.framing.overflowPolicy = .reset ∧
      ∃ c,
        (r.run
              (List.replicate 3
                (.connection 0
                  (.notify .readable)))).connections[0]? =
            some c ∧
          c.packets.map Prod.fst = [[7], [8, 9]] := by
  intro r
  have hReset : lobby.framing.overflowPolicy = .reset := rfl
  have hMade : r.made.length = 4 := by
    decide +kernel
  have hSeen :
      r.connections[0]?.map
          (fun c =>
            (c.socket.transport.available r.host.world,
              c.socket.capacity)) =
        some (3, 5) := by
    decide +kernel
  have hWritten :
      r.clients[0]?.map Client.written =
        some [0, 1, 7, 0, 2, 8, 9] := by
    decide +kernel
  rcases Option.map_eq_some_iff.mp hWritten with
    ⟨client, hClient, hBytes⟩
  rcases Option.map_eq_some_iff.mp hSeen with
    ⟨before, hThere, hBoth⟩
  rcases Prod.mk.inj hBoth with ⟨hAvailable, hCapacity⟩
  rcases fans_out lobby visits with
    ⟨hFans, _, hDrives⟩
  have hAscending := hFans.ascending (by
    rw [hMade]
    decide +kernel)
  rcases hDrives hReset 0 3 before client hThere hClient
      (Nat.le_of_eq hAvailable) with
    ⟨c, hAfter, _, hPackets, _⟩
  refine
    ⟨hFans.remote.trans ?_, hAscending.1, hFans.numbers,
      hReset, c, hAfter, ?_⟩
  · decide +kernel
  · rw [hPackets, hCapacity, hBytes]
    decide +kernel

end Reception

end FrameLink
