import FrameLink.Proofs.Transport.Mute

/-
  The end of a stream in memory.

  An endpoint that has closed marks the pipe that it writes
  to, and whatever is done with it afterwards leaves that
  pipe as it is (`Endpoint.Ended.perform`).  The endpoint at
  the other end only takes bytes from the front of the pipe,
  so as long as it is open it can still read all of them, and
  finds the end behind them (`Endpoint.receive_ended`).

  Key definitions include:
    * `Endpoint.Result.bytes`
    * `Endpoint.Writes`, `Endpoint.Ended`
-/

------------------------------------------------------------
-- Writers
------------------------------------------------------------

namespace FrameLink

namespace Endpoint

/- The endpoint writes to a pipe of the network. -/
structure Writes
    (inbound outbound : Nat)
    (e : Endpoint)
    (net : Network) : Prop where
  role : e.role = .stream inbound outbound
  pipe : outbound < net.pipes.size

variable {inbound outbound : Nat} {left : Bytes}
variable {e : Endpoint} {net : Network}

/- Whatever is done with a writer, it remains one. -/
theorem Writes.perform
    (hWrites : Writes inbound outbound e net)
    (operation : Operation) :
    Writes inbound outbound
      (e.perform operation net).endpoint
      (e.perform operation net).network := by
  have hMoves :
      ∀ {put took : Bytes},
        Moves outbound put took (e, net)
            ((e.perform operation net).endpoint,
              (e.perform operation net).network) →
          Writes inbound outbound
            (e.perform operation net).endpoint
            (e.perform operation net).network := by
    intro put took hMoves
    exact ⟨hMoves.role.trans hWrites.role,
      Nat.lt_of_lt_of_eq hWrites.pipe hMoves.size.symm⟩
  cases operation with
  | send bs =>
      exact hMoves (send_moves hWrites.role hWrites.pipe bs)
  | receive room =>
      rcases receive_cases hWrites.role room net with
        ⟨hRole, hEither⟩
      refine ⟨hRole.trans hWrites.role, ?_⟩
      change outbound < (e.receive room net).world.pipes.size
      rcases hEither with
        ⟨_, _, hWorld⟩ | ⟨_, hWorld⟩ | ⟨_, hWorld⟩
      · rw [hWorld]
        exact hWrites.pipe
      · rw [hWorld]
        exact hWrites.pipe
      · rw [hWorld, Network.size_pipes_changePipe]
        exact hWrites.pipe
  | _ =>
      refine
        hMoves (perform_moves_of_isStill hWrites.role ?_)
      exact trivial

/-
  The endpoint has closed the pipe that it writes to, with
  some bytes left in it.
-/
structure Ended
    (inbound outbound : Nat)
    (left : Bytes)
    (e : Endpoint)
    (net : Network) : Prop
    extends Writes inbound outbound e net where
  closed : e.closed = true
  content :
    net.pipe outbound = { bytes := left, writerClosed := true }

theorem Writes.close
    (hWrites : Writes inbound outbound e net) :
    Ended inbound outbound
      ((e.close net).world.pipe outbound).bytes
      (e.close net).transport (e.close net).world := by
  refine ⟨hWrites.perform .close, rfl, ?_⟩
  simp only [Endpoint.close, hWrites.role, succeed,
    Network.pipe_changePipe_same hWrites.pipe]

/- Whatever is done with it, it leaves the pipe alone. -/
theorem Ended.perform
    (hEnded : Ended inbound outbound left e net)
    (operation : Operation) :
    Ended inbound outbound left
      (e.perform operation net).endpoint
      (e.perform operation net).network := by
  have hStays := perform_stays e operation net
  refine
    { hEnded.toWrites.perform operation with
      closed := hStays.closed hEnded.closed
      content := ?_ }
  have hMute : e.IsMute := .inl hEnded.closed
  have hSame :
      (e.perform operation net).network = net →
        (e.perform operation net).network.pipe outbound =
          { bytes := left, writerClosed := true } := by
    intro hNetwork
    rw [hNetwork]
    exact hEnded.content
  cases operation with
  | send bs =>
      apply hSame
      exact
        congrArg Outcome.world (hMute.send_eq bs net)
  | receive room =>
      rcases hMute.receive_failed room net with
        ⟨failure, _, hWorld⟩
      exact hSame hWorld
  | close =>
      simp only [Endpoint.perform, effect, close,
        hEnded.role, succeed,
        Network.pipe_changePipe_same hEnded.pipe,
        hEnded.content]
  | listen =>
      apply hSame
      simp only [Endpoint.perform, effect, listen]
      split
      · rfl
      · rfl
      · rfl
  | accept =>
      apply hSame
      simp only [Endpoint.perform, effect, accept,
        hEnded.role]
      split
      · rfl
      · rfl
  | _ => exact hSame rfl

------------------------------------------------------------
-- Readers
------------------------------------------------------------

/- The bytes that are handed over, if any. -/
def Result.bytes : Result → Bytes
  | .received (.ok bs) => bs
  | _ => []

/- A reader takes bytes from the front of its pipe only. -/
theorem perform_moves_reader
    (hRole : e.role = .stream inbound outbound)
    (hApart : outbound ≠ inbound)
    (hPipe : inbound < net.pipes.size)
    (operation : Operation) :
    Moves inbound []
      (e.perform operation net).result.bytes (e, net)
      ((e.perform operation net).endpoint,
        (e.perform operation net).network) := by
  cases operation with
  | send bs => exact send_moves_of_ne hRole hApart bs net
  | receive room =>
      have hMoves := receive_moves hRole hPipe room
      have hBytes :
          ((e.receive room net).result.toOption.getD []) =
            (e.perform (.receive room) net).result.bytes := by
        change _ = (Result.received _).bytes
        cases (e.receive room net).result with
        | error failure => rfl
        | ok bs => rfl
      rw [hBytes] at hMoves
      exact hMoves
  | _ =>
      refine perform_moves_of_isStill hRole ?_
      exact trivial

/- A reader does not mark its pipe. -/
theorem writerClosed_perform
    (hRole : e.role = .stream inbound outbound)
    (hApart : outbound ≠ inbound)
    (hPipe : inbound < net.pipes.size)
    (operation : Operation) :
    ((e.perform operation net).network.pipe
        inbound).writerClosed =
      (net.pipe inbound).writerClosed := by
  cases operation with
  | send bs =>
      change
        ((e.send bs net).world.pipe inbound).writerClosed = _
      rcases send_cases hRole bs net with
        ⟨_, ⟨_, _, hWorld⟩ | ⟨_, _, hWorld⟩⟩
      · rw [hWorld]
      · rw [hWorld, Network.pipe_changePipe_of_ne hApart]
  | receive room =>
      change
        ((e.receive room net).world.pipe
          inbound).writerClosed = _
      rcases receive_cases hRole room net with
        ⟨_, ⟨_, _, hWorld⟩ | ⟨_, hWorld⟩ | ⟨_, hWorld⟩⟩
      · rw [hWorld]
      · rw [hWorld]
      · rw [hWorld, Network.pipe_changePipe_same hPipe]
  | close =>
      simp only [perform, effect, close, hRole, succeed,
        Network.pipe_changePipe_of_ne hApart]
  | listen =>
      simp only [perform, effect, listen, hRole]
      split
      · rfl
      · rename_i hOther
        cases hOther
      · rfl
  | accept =>
      simp only [perform, effect, accept, hRole]
      split
      · rfl
      · rfl
  | _ => rfl

/-
  From a pipe that its writer has closed, an open reader gets
  the front of what is left, and nothing where nothing is.
  Only a failure made on purpose comes in between, once.
-/
theorem receive_ended
    (hRole : e.role = .stream inbound outbound)
    (hOpen : e.closed = false)
    (hPipe : inbound < net.pipes.size)
    (hContent :
      net.pipe inbound =
        { bytes := left, writerClosed := true })
    {room : Nat}
    (hRoom : 0 < room) :
    let r := e.receive room net
    r.transport.closed = false ∧
      r.transport.failNextReceive = none ∧
      if e.failNextReceive = none then
        r.result = .ok (left.take room) ∧
          (r.world.pipe inbound).bytes = left.drop room
      else
        (∃ failure, r.result = .error failure) ∧
          (r.world.pipe inbound).bytes = left := by
  intro r
  have hSome : room ≠ 0 := Nat.ne_of_gt hRoom
  cases hFail : e.failNextReceive with
  | some kind =>
      rw [if_neg nofun]
      simp only [r, receive, hFail, fail, hContent]
      exact ⟨hOpen, trivial, ⟨_, rfl⟩, trivial⟩
  | none =>
      rw [if_pos rfl]
      simp only [r, receive, hFail, hOpen, hRole, hContent,
        if_neg hSome, if_true]
      by_cases hEmpty : left = []
      · simp only [if_pos hEmpty, succeed, hContent]
        subst hEmpty
        refine ⟨hOpen, hFail, ?_, List.drop_nil.symm⟩
        rw [List.take_nil]
      · simp only [if_neg hEmpty, succeed,
          Network.pipe_changePipe_same hPipe, hContent]
        exact ⟨hOpen, hFail, trivial, trivial⟩

end Endpoint

end FrameLink
