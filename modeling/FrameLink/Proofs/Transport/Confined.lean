import FrameLink.Proofs.Transport.Mute

/-
  How far an endpoint reaches into its network.

  Whatever is done with one end of a connection, it stays the
  end that it is, and in the network nothing changes but its
  two pipes (`Endpoint.perform_confined`).  The same holds of
  a socket over it (`Socket.perform_confined`).  A listener
  moves no bytes at all; it only takes connections from its
  queue (`Endpoint.accept_cases`).

  Key definitions include:
    * `Endpoint.Confined`
-/

------------------------------------------------------------
-- Ends of Connections
------------------------------------------------------------

namespace FrameLink

namespace Endpoint

/-
  From one moment to another the endpoint stays who it is,
  and the network stays as it is but for two pipes.
-/
structure Confined
    (inbound outbound : Nat)
    (before after : Endpoint × Network) : Prop where
  role : after.1.role = before.1.role
  address : after.1.address = before.1.address
  peer : after.1.peer = before.1.peer
  size : after.2.pipes.size = before.2.pipes.size
  queues : after.2.queues = before.2.queues
  pipe :
    ∀ i,
      i ≠ inbound →
        i ≠ outbound → after.2.pipe i = before.2.pipe i

variable {inbound outbound : Nat}

theorem Confined.still
    {e e' : Endpoint}
    {net : Network}
    (hRole : e'.role = e.role)
    (hAddress : e'.address = e.address)
    (hPeer : e'.peer = e.peer) :
    Confined inbound outbound (e, net) (e', net) :=
  ⟨hRole, hAddress, hPeer, rfl, rfl, fun _ _ _ => rfl⟩

theorem Confined.trans
    {before between after : Endpoint × Network}
    (hFirst : Confined inbound outbound before between)
    (hSecond : Confined inbound outbound between after) :
    Confined inbound outbound before after := by
  constructor
  · exact hSecond.role.trans hFirst.role
  · exact hSecond.address.trans hFirst.address
  · exact hSecond.peer.trans hFirst.peer
  · exact hSecond.size.trans hFirst.size
  · exact hSecond.queues.trans hFirst.queues
  · intro i hInbound hOutbound
    exact
      (hSecond.pipe i hInbound hOutbound).trans
        (hFirst.pipe i hInbound hOutbound)

/- A change of one of the two pipes is confined to them. -/
theorem Confined.change
    {e e' : Endpoint}
    {net : Network}
    {i : Nat}
    {f : Pipe → Pipe}
    (hOwn : i = inbound ∨ i = outbound)
    (hRole : e'.role = e.role)
    (hAddress : e'.address = e.address)
    (hPeer : e'.peer = e.peer) :
    Confined inbound outbound (e, net)
      (e', net.changePipe i f) := by
  refine ⟨hRole, hAddress, hPeer,
    Network.size_pipes_changePipe _ _ _, rfl, ?_⟩
  intro j hInbound hOutbound
  apply Network.pipe_changePipe_of_ne
  rintro rfl
  rcases hOwn with hThis | hThis
  · exact hInbound hThis
  · exact hOutbound hThis

variable {e : Endpoint}

theorem send_confined
    (hRole : e.role = .stream inbound outbound)
    (bs : Bytes)
    (net : Network) :
    Confined inbound outbound (e, net)
      ((e.send bs net).transport, (e.send bs net).world) := by
  cases hClosed : e.closed with
  | true =>
      simp only [send, hClosed]
      exact .still rfl rfl rfl
  | false =>
      simp only [send, hClosed, hRole]
      split
      · exact .still rfl rfl rfl
      · exact .change (.inr rfl) rfl rfl rfl

theorem receive_confined
    (hRole : e.role = .stream inbound outbound)
    (room : Nat)
    (net : Network) :
    Confined inbound outbound (e, net)
      ((e.receive room net).transport,
        (e.receive room net).world) := by
  cases hFail : e.failNextReceive with
  | some kind =>
      simp only [receive, hFail]
      exact .still rfl rfl rfl
  | none =>
      cases hClosed : e.closed with
      | true =>
          simp only [receive, hFail, hClosed]
          exact .still rfl rfl rfl
      | false =>
          simp only [receive, hFail, hClosed, hRole]
          split
          · exact .still rfl rfl rfl
          · split
            · split
              · exact .still rfl rfl rfl
              · exact .still rfl rfl rfl
            · exact .change (.inl rfl) rfl rfl rfl

/- Whatever is done with one end stays with its pipes. -/
theorem perform_confined
    (hRole : e.role = .stream inbound outbound)
    (operation : Operation)
    (net : Network) :
    Confined inbound outbound (e, net)
      ((e.perform operation net).endpoint,
        (e.perform operation net).network) := by
  cases operation with
  | send bs => exact send_confined hRole bs net
  | receive room => exact receive_confined hRole room net
  | listen =>
      cases hFail : e.failListen with
      | some kind =>
          simp only [perform, effect, listen, hFail]
          exact .still rfl rfl rfl
      | none =>
          simp only [perform, effect, listen, hFail, hRole]
          exact .still rfl rfl rfl
  | accept =>
      cases hFail : e.failNextAccept with
      | some kind =>
          simp only [perform, effect, accept, hFail]
          exact .still rfl rfl rfl
      | none =>
          simp only [perform, effect, accept, hFail, hRole]
          exact .still rfl rfl rfl
  | close =>
      simp only [perform, effect, close, hRole]
      exact .change (.inr rfl) hRole.symm rfl rfl
  | setError code => exact .still rfl rfl rfl
  | setWindow window => exact .still rfl rfl rfl
  | failNextReceive kind => exact .still rfl rfl rfl
  | failNextAccept kind => exact .still rfl rfl rfl
  | failListen kind => exact .still rfl rfl rfl

end Endpoint

/- A connection touches no pipes but those of its endpoint. -/
theorem Socket.perform_confined
    {s : Socket Endpoint}
    (hListener : s.listener = false)
    {inbound outbound : Nat}
    (hRole : s.transport.role = .stream inbound outbound)
    (operation : Operation)
    (host : Host Network) :
    Endpoint.Confined inbound outbound
      (s.transport, host.world)
      ((s.perform operation host).socket.transport,
        (s.perform operation host).host.world) := by
  apply perform_keeps_endpoint
    (P := fun e net =>
      Endpoint.Confined inbound outbound
        (s.transport, host.world) (e, net))
  · intro e net operation hBefore
    exact hBefore.trans
      (Endpoint.perform_confined (hBefore.role.trans hRole)
        operation net)
  · exact hListener
  · exact .still rfl rfl rfl

------------------------------------------------------------
-- Listeners
------------------------------------------------------------

namespace Endpoint

/-
  What trying to take a connection comes to: a failure that
  was asked for, an empty queue, or the first in the queue.
-/
theorem accept_cases
    {e : Endpoint}
    {queue : Nat}
    (hRole : e.role = .listener queue true)
    (net : Network) :
    (∃ kind,
        e.failNextAccept = some kind ∧
          (e.accept net).result = .error { kind } ∧
          (e.accept net).transport.role = e.role ∧
          (e.accept net).world = net) ∨
      (e.failNextAccept = none ∧
          net.queue queue = [] ∧
          (e.accept net).result =
            .error { kind := .wouldBlock } ∧
          (e.accept net).transport = e ∧
          (e.accept net).world = net) ∨
        ∃ connection rest,
          e.failNextAccept = none ∧
            net.queue queue = connection :: rest ∧
            (e.accept net).result = .ok connection ∧
            (e.accept net).transport = e ∧
            (e.accept net).world =
              net.changeQueue queue List.tail := by
  cases hFail : e.failNextAccept with
  | some kind =>
      have hAccept :
          e.accept net =
            fail { e with failNextAccept := none } kind net := by
        simp only [accept, hFail]
      rw [hAccept]
      exact .inl ⟨kind, rfl, rfl, rfl, rfl⟩
  | none =>
      cases hQueue : net.queue queue with
      | nil =>
          have hAccept : e.accept net = e.stall net := by
            simp only [accept, hFail, hRole, hQueue]
          rw [hAccept]
          exact .inr (.inl ⟨rfl, rfl, rfl, rfl, rfl⟩)
      | cons connection rest =>
          have hAccept :
              e.accept net =
                e.succeed connection
                  (net.changeQueue queue List.tail) := by
            simp only [accept, hFail, hRole, hQueue]
          rw [hAccept]
          exact .inr
            (.inr ⟨connection, rest, rfl, rfl, rfl, rfl, rfl⟩)

end Endpoint

end FrameLink
