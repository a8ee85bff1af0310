import FrameLink.Proofs.Link.Basic
import FrameLink.Proofs.Reception.Basic

/-
  What becomes of one connection of a listener.

  A connection that a listener has handed over has lived from
  its making on, and its first moment was the reading of what
  its client had written so far.  So whatever holds of lives
  holds of it, and what was read of its pipe is what has been
  cut into packets (`Reception.Serves.operate`).

  Under the reset policy nothing closes its endpoint, and a
  readable notification takes all bytes that are there or
  fills the room for them (`Socket.available_readable`).

  Key definitions include:
    * `Endpoint.identity`, `Endpoint.IsOpen`
    * `Life.Shows`
    * `Reception.Serves`, `Reception.Served`
-/

------------------------------------------------------------
-- Endpoints That Stay
------------------------------------------------------------

namespace FrameLink

namespace Endpoint

/- What an endpoint is for, where it is, and its peer. -/
def identity (e : Endpoint) : Role × Address × Option Address :=
  (e.role, e.address, e.peer)

/- Whatever is done with one end, it stays that end. -/
theorem Confined.identity
    {inbound outbound : Nat}
    {before after : Endpoint × Network}
    (hConfined : Confined inbound outbound before after) :
    after.1.identity = before.1.identity := by
  simp only [Endpoint.identity, hConfined.role,
    hConfined.address, hConfined.peer]

/- The endpoint can be read from. -/
def IsOpen (e : Endpoint) : Prop :=
  e.closed = false ∧ e.failNextReceive = none

theorem IsOpen.send
    {e : Endpoint}
    (hOpen : e.IsOpen)
    (bs : Bytes)
    (net : Network) :
    (e.send bs net).transport.IsOpen := by
  unfold Endpoint.send
  split
  · exact hOpen
  · exact hOpen
  · split
    · exact hOpen
    · exact hOpen

theorem IsOpen.receive
    {e : Endpoint}
    (hOpen : e.IsOpen)
    (room : Nat)
    (net : Network) :
    (e.receive room net).transport.IsOpen := by
  unfold Endpoint.receive
  split
  · exact ⟨hOpen.1, rfl⟩
  · split
    · exact hOpen
    · exact hOpen
    · dsimp only
      split
      · exact hOpen
      · split
        · split
          · exact hOpen
          · exact hOpen
        · exact hOpen

/- What is there is taken, as far as there is room. -/
theorem IsOpen.available_receive
    {e : Endpoint}
    (hOpen : e.IsOpen)
    {inbound outbound : Nat}
    (hRole : e.role = .stream inbound outbound)
    {net : Network}
    (hPipe : inbound < net.pipes.size)
    {room : Nat}
    (hRoom : 0 < room) :
    (e.receive room net).transport.available
        (e.receive room net).world =
      e.available net - room := by
  have hSome : room ≠ 0 := by omega
  rcases hOpen with ⟨hClosed, hFail⟩
  simp only [Endpoint.receive, hFail, hClosed, hRole,
    if_neg hSome]
  split
  · rename_i hEmpty
    have hNothing :
        ∀ e' : Endpoint,
          e'.role = .stream inbound outbound →
            e'.available net = e.available net - room := by
      intro e' hRole'
      simp only [available, hRole, hRole', hEmpty,
        List.length_nil, Nat.zero_sub]
    split
    · exact hNothing _ hRole
    · exact hNothing _ hRole
  · simp only [succeed, available, hRole]
    rw [Network.pipe_changePipe_same hPipe]
    exact List.length_drop

end Endpoint

namespace Socket

/- Under the reset policy a read makes one call. -/
theorem readInput_of_reset
    {τ ω : Type}
    [Transport τ ω]
    {s : Socket τ}
    (hReset : s.framing.overflowPolicy = .reset)
    (host : Host ω) :
    (s.readInput host).socket.transport =
        (Transport.receive s.transport s.input.remaining
          host.world).transport ∧
      (s.readInput host).host.world =
        (Transport.receive s.transport s.input.remaining
          host.world).world := by
  unfold readInput
  dsimp only
  split
  · unfold takeBytes
    dsimp only
    split
    · rename_i bs hResult hFull
      rw [overflow_of_reset
        (s :=
          (deliver
            { s with
              transport :=
                (Transport.receive s.transport
                  s.input.remaining host.world).transport
              input := s.input.fill bs }).1)
        hReset]
      exact ⟨rfl, rfl⟩
    · exact ⟨rfl, rfl⟩
  · split
    · exact ⟨rfl, rfl⟩
    · exact ⟨rfl, rfl⟩

variable {s : Socket Endpoint}

/- Under the reset policy nothing closes the endpoint. -/
theorem perform_isOpen
    (hListener : s.listener = false)
    (hReset : s.framing.overflowPolicy = .reset)
    (hOpen : s.transport.IsOpen)
    (operation : Operation)
    (host : Host Network) :
    (s.perform operation host).socket.transport.IsOpen := by
  by_cases hReadable : operation = .notify .readable
  · subst hReadable
    rw [perform_readable hListener]
    change (s.readInput host).socket.transport.IsOpen
    rw [(readInput_of_reset hReset host).1]
    exact hOpen.receive s.input.remaining host.world
  · apply perform_keeps
      (P := fun (e : Endpoint) (_ : Network) => e.IsOpen)
    · intro hThis
      exact absurd hThis hReadable
    · intro _ e bs net hBefore
      exact hBefore.send bs net
    · intro hThis
      exact absurd hThis hReadable
    · intro hThis
      exact absurd hThis hReadable
    · intro e code net hBefore
      exact hBefore
    · exact hOpen

/- A readable connection takes what there is room for. -/
theorem available_readable
    (hListener : s.listener = false)
    (hReset : s.framing.overflowPolicy = .reset)
    (hOpen : s.transport.IsOpen)
    {inbound outbound : Nat}
    (hRole : s.transport.role = .stream inbound outbound)
    {host : Host Network}
    (hPipe : inbound < host.world.pipes.size)
    (hRoom : 0 < s.input.remaining) :
    let r := s.perform (.notify .readable) host
    r.socket.transport.available r.host.world =
      s.transport.available host.world -
        s.input.remaining := by
  intro r
  have hRead := readInput_of_reset hReset host
  have hPerform : r = _ := perform_readable hListener host
  rw [hPerform]
  change
    (s.readInput host).socket.transport.available
      (s.readInput host).host.world = _
  rw [hRead.1, hRead.2]
  exact hOpen.available_receive hRole hPipe hRoom

end Socket

------------------------------------------------------------
-- Lives That Show
------------------------------------------------------------

/- A life has come to the same as another one. -/
structure Life.Shows
    {τ ω : Type}
    (c life : Life τ ω) : Prop where
  socket : c.socket = life.socket
  host : c.host = life.host
  events :
    c.result.flatMap Socket.Result.events =
      life.result.flatMap Socket.Result.events

theorem Life.Shows.operate
    {τ ω : Type}
    [Transport τ ω]
    {c life : Life τ ω}
    (hShows : Life.Shows c life)
    (operation : Socket.Operation) :
    Life.Shows (Socket.pass c (.operate operation))
      (Socket.pass life (.operate operation)) := by
  have hSame :
      c.socket.perform operation c.host =
        life.socket.perform operation life.host := by
    rw [hShows.socket, hShows.host]
  constructor
  · simp only [Socket.pass, hSame]
  · simp only [Socket.pass, hSame]
  · simp only [Socket.pass, List.flatMap_append,
      hShows.events, hSame]

theorem Life.Shows.packets
    {τ ω : Type}
    {c life : Life τ ω}
    (hShows : Life.Shows c life) :
    c.packets = life.packets := by
  simp only [Life.packets, Life.emitted, hShows.events,
    hShows.socket]

/- The law of a reader is kept by one more operation. -/
theorem Origin.drains_concat
    {origin : Origin Endpoint Network}
    (hListener : origin.listener = false)
    {i : Nat}
    {fed : Bytes}
    {moments : List (Moment Endpoint Network)}
    (hDrains :
      Journaled.Drains i fed (origin.journal moments)
        (origin.recorded moments).host.world)
    (operation : Socket.Operation) :
    let later := moments ++ [.operate operation]
    Journaled.Drains i fed (origin.journal later)
      (origin.recorded later).host.world := by
  intro later
  have hReads :
      (origin.recorded moments).socket.listener = false :=
    (listener_live origin.journaled _).trans hListener
  have hLater := recorded_concat origin moments
    (.operate operation)
  rw [journal, hLater]
  exact hDrains.perform hReads operation

------------------------------------------------------------
-- Connections Served
------------------------------------------------------------

namespace Reception

/-
  A connection over the far end of a client has lived through
  moments of its own, and has read what it has.
-/
structure Serves
    (framing : FramingConfig)
    (far : Endpoint)
    (read : Bytes)
    (c : Life Endpoint Network)
    (origin : Origin Endpoint Network)
    (moments : List (Moment Endpoint Network)) : Prop where
  listener : origin.listener = false
  limits : origin.framing = framing.clamped
  shows : Life.Shows c (origin.live moments)
  identity : c.socket.transport.identity = far.identity
  read : (origin.journal moments).received = read
  isOpen :
    framing.overflowPolicy = .reset →
      c.socket.transport.IsOpen

/- A connection serves the far end of a client. -/
def Served
    (framing : FramingConfig)
    (far : Endpoint)
    (read : Bytes)
    (c : Life Endpoint Network) : Prop :=
  ∃ origin moments, Serves framing far read c origin moments

variable {framing : FramingConfig} {far : Endpoint}
  {read : Bytes} {c : Life Endpoint Network}
  {origin : Origin Endpoint Network}
  {moments : List (Moment Endpoint Network)}

theorem Serves.reads
    (hServes : Serves framing far read c origin moments) :
    c.socket.listener = false := by
  rw [hServes.shows.socket, Origin.listener_live]
  exact hServes.listener

theorem Serves.policy
    (hServes : Serves framing far read c origin moments) :
    c.socket.framing.overflowPolicy =
      framing.overflowPolicy := by
  rw [hServes.shows.socket, Origin.overflowPolicy_live,
    hServes.limits, Origin.overflowPolicy_clamped]

/- A connection that is just made has read nothing. -/
theorem serves_made
    {origin : Origin Endpoint Network}
    (hListener : origin.listener = false)
    (hFraming : origin.framing = framing.clamped)
    (hOpen : origin.transport.IsOpen) :
    Serves framing origin.transport [] (origin.live [])
      origin [] := by
  have hSocket := Origin.socket_started origin hListener
  have hTransport :
      (origin.live []).socket.transport =
        origin.transport := by
    change origin.started.socket.transport = _
    rw [hSocket]
    rfl
  have hJournal :
      (origin.journal []).received = [] := by
    change origin.journaled.started.socket.transport.received = _
    rw [Origin.socket_started origin.journaled hListener]
    rfl
  refine ⟨hListener, hFraming, ⟨rfl, rfl, rfl⟩, ?_,
    hJournal, ?_⟩
  · rw [hTransport]
  · intro _
    rw [hTransport]
    exact hOpen

theorem Serves.inHost
    (hServes : Serves framing far read c origin moments)
    (host : Host Network) :
    Serves framing far read { c with host } origin
      (moments ++ [.elsewhere host]) := by
  have hLive := Link.live_elsewhere origin moments host
  have hRecorded :=
    Link.recorded_elsewhere origin moments host
  refine ⟨hServes.listener, hServes.limits, ?_,
    hServes.identity, ?_, hServes.isOpen⟩
  · rw [hLive]
    exact ⟨hServes.shows.socket, rfl, hServes.shows.events⟩
  · rw [Origin.journal, hRecorded]
    exact hServes.read

/-
  Whatever is done with a connection, its client's bytes are
  those read so far and those that are still there.
-/
theorem Serves.operate
    (hServes : Serves framing far read c origin moments)
    {inbound outbound : Nat}
    (hRole : far.role = .stream inbound outbound)
    (hOther : outbound ≠ inbound)
    (hPipe : inbound < c.host.world.pipes.size)
    {fed : Bytes}
    (hFed :
      fed = read ++ (c.host.world.pipe inbound).bytes)
    (operation : Socket.Operation) :
    let life := Socket.pass c (.operate operation)
    ∃ more,
      Served framing far more life ∧
        fed =
          more ++ (life.host.world.pipe inbound).bytes ∧
        Endpoint.Confined inbound outbound
          (c.socket.transport, c.host.world)
          (life.socket.transport, life.host.world) := by
  intro life
  have hOwn :
      c.socket.transport.role = .stream inbound outbound :=
    (congrArg Prod.fst hServes.identity).trans hRole
  have hConfined :=
    Socket.perform_confined hServes.reads hOwn operation
      c.host
  have hStream :
      (origin.journal moments).stream =
        c.socket.transport := by
    rw [← Origin.transport_live, hServes.shows.socket]
  have hHost :
      (origin.recorded moments).host = c.host := by
    rw [← Origin.host_live, hServes.shows.host]
  have hDrains :
      Journaled.Drains inbound fed (origin.journal moments)
        (origin.recorded moments).host.world := by
    rw [hHost]
    refine ⟨hPipe, ⟨outbound, ?_, hOther⟩, ?_⟩
    · rw [hStream]
      exact hOwn
    · rw [hServes.read]
      exact hFed
  have hAfter :=
    Origin.drains_concat hServes.listener hDrains operation
  have hShows := hServes.shows.operate operation
  rw [← Origin.live_concat] at hShows
  have hServed :
      Serves framing far
        (origin.journal
          (moments ++ [.operate operation])).received
        life origin (moments ++ [.operate operation]) := by
    refine ⟨hServes.listener, hServes.limits, hShows,
      hConfined.identity.trans hServes.identity, rfl, ?_⟩
    intro hReset
    exact
      Socket.perform_isOpen hServes.reads
        (hServes.policy.trans hReset) (hServes.isOpen hReset)
        operation c.host
  refine ⟨_, ⟨origin, _, hServed⟩, ?_, hConfined⟩
  have hBytes := hAfter.bytes
  rw [← Origin.host_live, ← hShows.host] at hBytes
  exact hBytes

end Reception

end FrameLink
