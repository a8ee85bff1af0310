import FrameLink.Proofs.Socket.Reach
import FrameLink.Proofs.Transport.Journal
import FrameLink.Transport.Memory

/-
  What goes through a pipe in memory.

  A send of an endpoint puts what it reports as taken at the
  end of one pipe, a receive takes what it hands over from
  the front of another, and nothing else moves bytes.  So an
  endpoint that writes to a pipe and one that reads from it
  each keep a law of their own, whatever else they do
  (`Journaled.Feeds.perform`, `Journaled.Drains.perform`).

  Key definitions include:
    * `Endpoint.Moves`
    * `Journaled.Feeds`, `Journaled.Drains`
-/

------------------------------------------------------------
-- Pipes
------------------------------------------------------------

namespace FrameLink

namespace Network

theorem pipe_changePipe_same
    {net : Network}
    {i : Nat}
    (hPipe : i < net.pipes.size)
    (f : Pipe → Pipe) :
    (net.changePipe i f).pipe i = f (net.pipe i) := by
  simp [pipe, changePipe, hPipe, Array.getElem_modify]

theorem pipe_changePipe_of_ne
    {i j : Nat}
    (hOther : i ≠ j)
    (net : Network)
    (f : Pipe → Pipe) :
    (net.changePipe i f).pipe j = net.pipe j := by
  simp [pipe, changePipe, Array.getElem?_modify, hOther]

/- A change that keeps bytes keeps those of every pipe. -/
theorem bytes_pipe_changePipe
    (net : Network)
    (i j : Nat)
    {f : Pipe → Pipe}
    (hKeeps : ∀ p, (f p).bytes = p.bytes) :
    ((net.changePipe i f).pipe j).bytes =
      (net.pipe j).bytes := by
  by_cases hSame : i = j
  · subst hSame
    by_cases hPipe : i < net.pipes.size
    · rw [pipe_changePipe_same hPipe, hKeeps]
    · simp [pipe, changePipe, hPipe]
  · rw [pipe_changePipe_of_ne hSame]

@[simp]
theorem size_pipes_changePipe
    (net : Network)
    (i : Nat)
    (f : Pipe → Pipe) :
    (net.changePipe i f).pipes.size = net.pipes.size :=
  Array.size_modify

end Network

------------------------------------------------------------
-- Endpoints
------------------------------------------------------------

namespace Endpoint

/- An endpoint claims no more than it was offered. -/
theorem sendsWithin : Transport.SendsWithin Endpoint := by
  intro e offered net n hResult
  change (e.send offered net).result = .ok n at hResult
  unfold send at hResult
  split at hResult
  · cases hResult
  · cases hResult
  · split at hResult
    · cases hResult
    · have hTaken := Except.ok.inj hResult
      omega

/- An endpoint yields no more than there is room for. -/
theorem receivesWithin :
    Transport.ReceivesWithin Endpoint := by
  intro e room net bs hResult
  change (e.receive room net).result = .ok bs at hResult
  unfold receive at hResult
  split at hResult
  · cases hResult
  · split at hResult
    · cases hResult
    · cases hResult
    · dsimp only at hResult
      split at hResult
      · cases hResult
        exact Nat.zero_le room
      · split at hResult
        · split at hResult
          · cases hResult
            exact Nat.zero_le room
          · cases hResult
        · cases hResult
          exact List.length_take_le room _

/-
  From one moment to another the endpoint stays what it is
  for, the pipes stay, and the bytes of one pipe change by
  what is put at its end and what is taken from its front.
-/
structure Moves
    (i : Nat)
    (put took : Bytes)
    (before after : Endpoint × Network) : Prop where
  role : after.1.role = before.1.role
  size : after.2.pipes.size = before.2.pipes.size
  bytes :
    (before.2.pipe i).bytes ++ put =
      took ++ (after.2.pipe i).bytes

theorem Moves.still
    {i : Nat}
    {before after : Endpoint × Network}
    (hRole : after.1.role = before.1.role)
    (hNetwork : after.2 = before.2) :
    Moves i [] [] before after := by
  refine ⟨hRole, ?_, ?_⟩
  · rw [hNetwork]
  · rw [hNetwork, List.append_nil, List.nil_append]

variable {e : Endpoint} {inbound outbound : Nat}

/- A send fails or writes a front into the outgoing pipe. -/
theorem send_cases
    (hRole : e.role = .stream inbound outbound)
    (bs : Bytes)
    (net : Network) :
    (e.send bs net).transport.role = e.role ∧
      ((∃ failure,
          (e.send bs net).result = .error failure ∧
            (e.send bs net).world = net) ∨
        ∃ n,
          (e.send bs net).result = .ok n ∧
            (e.send bs net).world =
              net.changePipe outbound
                (fun p =>
                  { p with bytes := p.bytes ++ bs.take n })) := by
  cases hClosed : e.closed with
  | true =>
      simp only [send, hClosed]
      exact ⟨rfl, .inl ⟨_, rfl, rfl⟩⟩
  | false =>
      simp only [send, hClosed, hRole]
      split
      · exact ⟨hRole, .inl ⟨_, rfl, rfl⟩⟩
      · exact ⟨hRole, .inr ⟨_, rfl, rfl⟩⟩

/- A receive fails or takes the front of the incoming pipe. -/
theorem receive_cases
    (hRole : e.role = .stream inbound outbound)
    (room : Nat)
    (net : Network) :
    (e.receive room net).transport.role = e.role ∧
      ((∃ failure,
          (e.receive room net).result = .error failure ∧
            (e.receive room net).world = net) ∨
        ((e.receive room net).result = .ok [] ∧
            (e.receive room net).world = net) ∨
          (e.receive room net).result =
              .ok ((net.pipe inbound).bytes.take room) ∧
            (e.receive room net).world =
              net.changePipe inbound
                (fun p =>
                  { p with bytes := p.bytes.drop room })) := by
  cases hFail : e.failNextReceive with
  | some kind =>
      simp only [receive, hFail]
      exact ⟨rfl, .inl ⟨_, rfl, rfl⟩⟩
  | none =>
      cases hClosed : e.closed with
      | true =>
          simp only [receive, hFail, hClosed]
          exact ⟨rfl, .inl ⟨_, rfl, rfl⟩⟩
      | false =>
          simp only [receive, hFail, hClosed, hRole]
          split
          · exact ⟨hRole, .inr (.inl ⟨rfl, rfl⟩)⟩
          · split
            · split
              · exact ⟨hRole, .inr (.inl ⟨rfl, rfl⟩)⟩
              · exact ⟨hRole, .inl ⟨_, rfl, rfl⟩⟩
            · exact ⟨hRole, .inr (.inr ⟨rfl, rfl⟩)⟩

/- A send puts what is taken into the outgoing pipe. -/
theorem send_moves
    (hRole : e.role = .stream inbound outbound)
    {net : Network}
    (hPipe : outbound < net.pipes.size)
    (bs : Bytes) :
    Moves outbound
      (Exchange.sent bs (e.send bs net).result).taken
      [] (e, net)
      ((e.send bs net).transport, (e.send bs net).world) := by
  rcases send_cases hRole bs net with
    ⟨hKept, ⟨failure, hResult, hWorld⟩ |
      ⟨n, hResult, hWorld⟩⟩
  · rw [hResult, hWorld]
    exact .still hKept rfl
  · rw [hResult, hWorld]
    refine ⟨hKept, Network.size_pipes_changePipe _ _ _, ?_⟩
    rw [Network.pipe_changePipe_same hPipe]
    rfl

/- A send leaves all other pipes as they are. -/
theorem send_moves_of_ne
    (hRole : e.role = .stream inbound outbound)
    {i : Nat}
    (hOther : outbound ≠ i)
    (bs : Bytes)
    (net : Network) :
    Moves i [] [] (e, net)
      ((e.send bs net).transport, (e.send bs net).world) := by
  rcases send_cases hRole bs net with
    ⟨hKept, ⟨failure, hResult, hWorld⟩ |
      ⟨n, hResult, hWorld⟩⟩
  · rw [hWorld]
    exact .still hKept rfl
  · rw [hWorld]
    refine ⟨hKept, Network.size_pipes_changePipe _ _ _, ?_⟩
    rw [Network.pipe_changePipe_of_ne hOther]
    exact List.append_nil _

/- A receive takes what it yields off the incoming pipe. -/
theorem receive_moves
    (hRole : e.role = .stream inbound outbound)
    {net : Network}
    (hPipe : inbound < net.pipes.size)
    (room : Nat) :
    Moves inbound []
      ((e.receive room net).result.toOption.getD [])
      (e, net)
      ((e.receive room net).transport,
        (e.receive room net).world) := by
  rcases receive_cases hRole room net with
    ⟨hKept, ⟨failure, hResult, hWorld⟩ |
      ⟨hResult, hWorld⟩ | ⟨hResult, hWorld⟩⟩
  · rw [hResult, hWorld]
    exact .still hKept rfl
  · rw [hResult, hWorld]
    exact .still hKept rfl
  · rw [hResult, hWorld]
    refine ⟨hKept, Network.size_pipes_changePipe _ _ _, ?_⟩
    rw [Network.pipe_changePipe_same hPipe]
    exact
      (List.append_nil _).trans
        (List.take_append_drop room _).symm

/- A receive leaves all other pipes as they are. -/
theorem receive_moves_of_ne
    (hRole : e.role = .stream inbound outbound)
    {i : Nat}
    (hOther : inbound ≠ i)
    (room : Nat)
    (net : Network) :
    Moves i [] [] (e, net)
      ((e.receive room net).transport,
        (e.receive room net).world) := by
  rcases receive_cases hRole room net with
    ⟨hKept, ⟨failure, hResult, hWorld⟩ |
      ⟨hResult, hWorld⟩ | ⟨hResult, hWorld⟩⟩
  · rw [hWorld]
    exact .still hKept rfl
  · rw [hWorld]
    exact .still hKept rfl
  · rw [hWorld]
    refine ⟨hKept, Network.size_pipes_changePipe _ _ _, ?_⟩
    rw [Network.pipe_changePipe_of_ne hOther]
    exact List.append_nil _

/- A close moves no bytes. -/
theorem close_moves
    (e : Endpoint)
    (net : Network)
    (i : Nat) :
    Moves i [] [] (e, net)
      ((e.close net).transport, (e.close net).world) := by
  cases hRole : e.role with
  | listener queue listening =>
      simp only [close, hRole]
      exact .still hRole.symm rfl
  | stream inbound outbound =>
      simp only [close, hRole]
      refine ⟨hRole.symm,
        Network.size_pipes_changePipe _ _ _, ?_⟩
      rw [List.append_nil, List.nil_append]
      apply Eq.symm
      apply Network.bytes_pipe_changePipe
      intro p
      rfl

/- Neither a send nor a receive. -/
def Operation.IsStill : Operation → Prop
  | .send _ => False
  | .receive _ => False
  | _ => True

/- What neither sends nor receives moves no bytes. -/
theorem perform_moves_of_isStill
    (hRole : e.role = .stream inbound outbound)
    {operation : Operation}
    (hStill : operation.IsStill)
    {net : Network}
    {i : Nat} :
    Moves i [] [] (e, net)
      ((e.perform operation net).endpoint,
        (e.perform operation net).network) := by
  cases operation with
  | send | receive => cases hStill
  | listen =>
      cases hFail : e.failListen with
      | some kind =>
          simp only [perform, effect, listen, hFail]
          exact .still rfl rfl
      | none =>
          simp only [perform, effect, listen, hFail, hRole]
          exact .still rfl rfl
  | accept =>
      cases hFail : e.failNextAccept with
      | some kind =>
          simp only [perform, effect, accept, hFail]
          exact .still rfl rfl
      | none =>
          simp only [perform, effect, accept, hFail, hRole]
          exact .still rfl rfl
  | close => exact close_moves e net i
  | setError code => exact .still rfl rfl
  | setWindow window => exact .still rfl rfl
  | failNextReceive kind => exact .still rfl rfl
  | failNextAccept kind => exact .still rfl rfl
  | failListen kind => exact .still rfl rfl

end Endpoint

------------------------------------------------------------
-- Both Ends of a Pipe
------------------------------------------------------------

namespace Journaled

/-
  The endpoint writes to a pipe, and what it has written is
  what was drained from the pipe and what is still there.
-/
structure Feeds
    (i : Nat)
    (drained : Bytes)
    (j : Journaled Endpoint)
    (net : Network) : Prop where
  pipe : i < net.pipes.size
  role :
    ∃ inbound,
      j.stream.role = .stream inbound i ∧ inbound ≠ i
  bytes : j.written = drained ++ (net.pipe i).bytes

/-
  The endpoint reads from a pipe, and what it was fed is what
  it has received and what is still there.
-/
structure Drains
    (i : Nat)
    (fed : Bytes)
    (j : Journaled Endpoint)
    (net : Network) : Prop where
  pipe : i < net.pipes.size
  role :
    ∃ outbound,
      j.stream.role = .stream i outbound ∧ outbound ≠ i
  bytes : fed = j.received ++ (net.pipe i).bytes

variable {i : Nat} {drained fed : Bytes}

/- Moving no bytes keeps the law of the writer. -/
theorem Feeds.of_moves
    {j j' : Journaled Endpoint}
    {net net' : Network}
    (hFeeds : Feeds i drained j net)
    (hMoves :
      Endpoint.Moves i [] [] (j.stream, net)
        (j'.stream, net'))
    (hWritten : j'.written = j.written) :
    Feeds i drained j' net' := by
  rcases hFeeds with ⟨hPipe, ⟨inbound, hRole, hOther⟩, hBytes⟩
  rcases hMoves with ⟨hRoleKept, hSize, hMoved⟩
  rw [List.append_nil, List.nil_append] at hMoved
  refine ⟨?_, ⟨inbound, hRoleKept.trans hRole, hOther⟩, ?_⟩
  · exact Nat.lt_of_lt_of_eq hPipe hSize.symm
  · rw [hWritten, hBytes]
    exact congrArg (drained ++ ·) hMoved

/- Moving no bytes keeps the law of the reader. -/
theorem Drains.of_moves
    {j j' : Journaled Endpoint}
    {net net' : Network}
    (hDrains : Drains i fed j net)
    (hMoves :
      Endpoint.Moves i [] [] (j.stream, net)
        (j'.stream, net'))
    (hReceived : j'.received = j.received) :
    Drains i fed j' net' := by
  rcases hDrains with
    ⟨hPipe, ⟨outbound, hRole, hOther⟩, hBytes⟩
  rcases hMoves with ⟨hRoleKept, hSize, hMoved⟩
  rw [List.append_nil, List.nil_append] at hMoved
  refine ⟨?_, ⟨outbound, hRoleKept.trans hRole, hOther⟩, ?_⟩
  · exact Nat.lt_of_lt_of_eq hPipe hSize.symm
  · rw [hReceived, hBytes]
    exact congrArg (j.received ++ ·) hMoved

/- Whatever a writer does with its socket keeps its law. -/
theorem Feeds.perform
    {s : Socket (Journaled Endpoint)}
    (hListener : s.listener = false)
    {host : Host Network}
    (hFeeds : Feeds i drained s.transport host.world)
    (operation : Socket.Operation) :
    Feeds i drained
      (s.perform operation host).socket.transport
      (s.perform operation host).host.world := by
  apply Socket.perform_keeps (P := Feeds i drained)
  · intro _
    exact hListener
  · intro _ j bs net hFeeds
    rcases hFeeds with
      ⟨hPipe, ⟨inbound, hRole, hOther⟩, hBytes⟩
    rcases Endpoint.send_moves hRole hPipe bs with
      ⟨hRoleKept, hSize, hMoved⟩
    refine ⟨?_, ⟨inbound, hRoleKept.trans hRole, hOther⟩, ?_⟩
    · exact Nat.lt_of_lt_of_eq hPipe hSize.symm
    · rw [written_send, result_send, hBytes,
        List.append_assoc]
      exact congrArg (drained ++ ·) hMoved
  · intro _ j room net hFeeds
    rcases hFeeds.role with ⟨inbound, hRole, hOther⟩
    exact hFeeds.of_moves
      (Endpoint.receive_moves_of_ne hRole hOther room net)
      (written_receive j room net)
  · intro _ j net hFeeds
    exact hFeeds.of_moves (Endpoint.close_moves j.stream net i)
      rfl
  · intro j code net hFeeds
    exact hFeeds.of_moves (.still rfl rfl) rfl
  · exact hFeeds

/- Whatever a reader does with its socket keeps its law. -/
theorem Drains.perform
    {s : Socket (Journaled Endpoint)}
    (hListener : s.listener = false)
    {host : Host Network}
    (hDrains : Drains i fed s.transport host.world)
    (operation : Socket.Operation) :
    Drains i fed
      (s.perform operation host).socket.transport
      (s.perform operation host).host.world := by
  apply Socket.perform_keeps (P := Drains i fed)
  · intro _
    exact hListener
  · intro _ j bs net hDrains
    rcases hDrains.role with ⟨outbound, hRole, hOther⟩
    exact hDrains.of_moves
      (Endpoint.send_moves_of_ne hRole hOther bs net)
      (congrArg (List.flatMap Chunk.bytes)
        (chunks_send j bs net))
  · intro _ j room net hDrains
    rcases hDrains with
      ⟨hPipe, ⟨outbound, hRole, hOther⟩, hBytes⟩
    rcases Endpoint.receive_moves hRole hPipe room with
      ⟨hRoleKept, hSize, hMoved⟩
    refine
      ⟨?_, ⟨outbound, hRoleKept.trans hRole, hOther⟩, ?_⟩
    · exact Nat.lt_of_lt_of_eq hPipe hSize.symm
    · rw [List.append_nil] at hMoved
      rw [received_receive, result_receive, hBytes,
        List.append_assoc]
      exact congrArg (j.received ++ ·) hMoved
  · intro _ j net hDrains
    exact hDrains.of_moves
      (Endpoint.close_moves j.stream net i) rfl
  · intro j code net hDrains
    exact hDrains.of_moves (.still rfl rfl) rfl
  · exact hDrains

/- A writer keeps its law unless it is made to send. -/
theorem Feeds.handle
    {j : Journaled Endpoint}
    {net : Network}
    (hFeeds : Feeds i drained j net)
    {operation : Endpoint.Operation}
    (hSend : ∀ bs, operation ≠ .send bs) :
    Feeds i drained
      (j.moved (j.stream.perform operation net).endpoint)
      (j.stream.perform operation net).network := by
  rcases hFeeds.role with ⟨inbound, hRole, hOther⟩
  cases operation with
  | send bs => exact absurd rfl (hSend bs)
  | receive room =>
      exact hFeeds.of_moves
        (Endpoint.receive_moves_of_ne hRole hOther room net)
        rfl
  | _ =>
      refine hFeeds.of_moves
        (Endpoint.perform_moves_of_isStill hRole ?_) rfl
      exact trivial

/- A reader keeps its law unless it is made to receive. -/
theorem Drains.handle
    {j : Journaled Endpoint}
    {net : Network}
    (hDrains : Drains i fed j net)
    {operation : Endpoint.Operation}
    (hReceive : ∀ room, operation ≠ .receive room) :
    Drains i fed
      (j.moved (j.stream.perform operation net).endpoint)
      (j.stream.perform operation net).network := by
  rcases hDrains.role with ⟨outbound, hRole, hOther⟩
  cases operation with
  | receive room => exact absurd rfl (hReceive room)
  | send bs =>
      exact hDrains.of_moves
        (Endpoint.send_moves_of_ne hRole hOther bs net) rfl
  | _ =>
      refine hDrains.of_moves
        (Endpoint.perform_moves_of_isStill hRole ?_) rfl
      exact trivial

/- The reader's law holds of what the writer has written. -/
theorem Drains.refeed
    {j j' : Journaled Endpoint}
    {net net' : Network}
    (hDrains : Drains i fed j net)
    (hFeeds : Feeds i j.received j' net') :
    Drains i j'.written j net' :=
  ⟨hFeeds.pipe, hDrains.role, hFeeds.bytes⟩

/- The writer's law holds of what the reader has received. -/
theorem Feeds.redrain
    {j j' : Journaled Endpoint}
    {net net' : Network}
    (hFeeds : Feeds i drained j net)
    (hDrains : Drains i j.written j' net') :
    Feeds i j'.received j net' :=
  ⟨hDrains.pipe, hFeeds.role, hDrains.bytes⟩

end Journaled

end FrameLink
