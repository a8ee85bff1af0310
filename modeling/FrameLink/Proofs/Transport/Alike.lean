import FrameLink.Proofs.Socket.Halves
import FrameLink.Proofs.Transport.Account

/-
  Endpoints that write, or read, one pipe alike.

  Two endpoints write alike if neither sends nor the pipe
  tell them apart: both are closed or neither is, they have
  the same window and the same peer, and their pipes hold the
  same.  They read alike if receives do not tell them apart.
  What an endpoint does with the other one of its pipes makes
  no such difference.

  Key definitions include:
    * `Endpoint.IsWriter`, `Endpoint.IsReader`
    * `Endpoint.WritesAlike`, `Endpoint.ReadsAlike`
-/

------------------------------------------------------------
-- Writers and Readers
------------------------------------------------------------

namespace FrameLink

namespace Endpoint

/- The endpoint writes to a pipe and reads from another. -/
def IsWriter (i : Nat) (a : Endpoint × Network) : Prop :=
  ∃ inbound,
    inbound ≠ i ∧
      a.1.role = .stream inbound i ∧ i < a.2.pipes.size

/- The endpoint reads from a pipe and writes to another. -/
def IsReader (i : Nat) (a : Endpoint × Network) : Prop :=
  ∃ outbound,
    outbound ≠ i ∧
      a.1.role = .stream i outbound ∧ i < a.2.pipes.size

variable {i : Nat}
variable {a b c : Endpoint × Network}

theorem IsWriter.of_eq
    (hWriter : IsWriter i a)
    (hRole : b.1.role = a.1.role)
    (hSize : b.2.pipes.size = a.2.pipes.size) :
    IsWriter i b := by
  rcases hWriter with ⟨inbound, hOther, hStream, hPipe⟩
  exact
    ⟨inbound, hOther, hRole.trans hStream,
      Nat.lt_of_lt_of_eq hPipe hSize.symm⟩

theorem IsReader.of_eq
    (hReader : IsReader i a)
    (hRole : b.1.role = a.1.role)
    (hSize : b.2.pipes.size = a.2.pipes.size) :
    IsReader i b := by
  rcases hReader with ⟨outbound, hOther, hStream, hPipe⟩
  exact
    ⟨outbound, hOther, hRole.trans hStream,
      Nat.lt_of_lt_of_eq hPipe hSize.symm⟩

/- Sends do not tell the writers of two pipes apart. -/
structure WritesAlike
    (i : Nat)
    (a b : Endpoint × Network) : Prop where
  writer : IsWriter i a
  writer' : IsWriter i b
  closed : b.1.closed = a.1.closed
  window : b.1.window = a.1.window
  peer : b.1.peer = a.1.peer
  pipe : b.2.pipe i = a.2.pipe i

/- Receives do not tell the readers of two pipes apart. -/
structure ReadsAlike
    (i : Nat)
    (a b : Endpoint × Network) : Prop where
  reader : IsReader i a
  reader' : IsReader i b
  closed : b.1.closed = a.1.closed
  trouble : b.1.failNextReceive = a.1.failNextReceive
  peer : b.1.peer = a.1.peer
  pipe : b.2.pipe i = a.2.pipe i

theorem IsWriter.refl (hWriter : IsWriter i a) :
    WritesAlike i a a :=
  ⟨hWriter, hWriter, rfl, rfl, rfl, rfl⟩

theorem IsReader.refl (hReader : IsReader i a) :
    ReadsAlike i a a :=
  ⟨hReader, hReader, rfl, rfl, rfl, rfl⟩

theorem WritesAlike.trans
    (hFirst : WritesAlike i a b)
    (hSecond : WritesAlike i b c) :
    WritesAlike i a c :=
  ⟨hFirst.writer, hSecond.writer',
    hSecond.closed.trans hFirst.closed,
    hSecond.window.trans hFirst.window,
    hSecond.peer.trans hFirst.peer,
    hSecond.pipe.trans hFirst.pipe⟩

theorem ReadsAlike.trans
    (hFirst : ReadsAlike i a b)
    (hSecond : ReadsAlike i b c) :
    ReadsAlike i a c :=
  ⟨hFirst.reader, hSecond.reader',
    hSecond.closed.trans hFirst.closed,
    hSecond.trouble.trans hFirst.trouble,
    hSecond.peer.trans hFirst.peer,
    hSecond.pipe.trans hFirst.pipe⟩

------------------------------------------------------------
-- Sends and Receives
------------------------------------------------------------

/- What an outcome leaves. -/
def after
    {α : Type}
    (o : Outcome Endpoint Network α) : Endpoint × Network :=
  (o.transport, o.world)

theorem IsWriter.send
    (hWriter : IsWriter i a)
    (bs : Bytes) :
    IsWriter i (after (a.1.send bs a.2)) := by
  rcases hWriter with ⟨inbound, hOther, hRole, hPipe⟩
  have hMoves := send_moves hRole hPipe bs
  exact
    ⟨inbound, hOther, hMoves.role.trans hRole,
      Nat.lt_of_lt_of_eq hPipe hMoves.size.symm⟩

theorem IsReader.receive
    (hReader : IsReader i a)
    (room : Nat) :
    IsReader i (after (a.1.receive room a.2)) := by
  rcases hReader with ⟨outbound, hOther, hRole, hPipe⟩
  have hMoves := receive_moves hRole hPipe room
  exact
    ⟨outbound, hOther, hMoves.role.trans hRole,
      Nat.lt_of_lt_of_eq hPipe hMoves.size.symm⟩

/- What a send leaves of its window. -/
theorem window_after_send
    (a : Endpoint × Network)
    (bs : Bytes) :
    (after (a.1.send bs a.2)).1.window =
      match (a.1.send bs a.2).result with
      | .ok n => a.1.window.map (· - n)
      | .error _ => a.1.window := by
  unfold Endpoint.send after
  split
  · rfl
  · rfl
  · split
    · rfl
    · rfl

/- A pipe after the writer's send. -/
theorem IsWriter.pipe_send
    (hWriter : IsWriter i a)
    (bs : Bytes) :
    (after (a.1.send bs a.2)).2.pipe i =
      match (a.1.send bs a.2).result with
      | .ok n =>
          { a.2.pipe i with
            bytes := (a.2.pipe i).bytes ++ bs.take n }
      | .error _ => a.2.pipe i := by
  rcases hWriter with ⟨inbound, _, hRole, hPipe⟩
  unfold after
  rcases send_cases hRole bs a.2 with
    ⟨_, ⟨_, hResult, hWorld⟩ | ⟨_, hResult, hWorld⟩⟩
  · rw [hResult, hWorld]
  · rw [hResult, hWorld]
    exact Network.pipe_changePipe_same hPipe _

/- What a writer sends goes behind what is there. -/
theorem IsWriter.prefix_send
    (hWriter : IsWriter i a)
    (bs : Bytes) :
    (a.2.pipe i).bytes <+:
      ((after (a.1.send bs a.2)).2.pipe i).bytes := by
  rw [hWriter.pipe_send]
  split
  · exact List.prefix_append _ _
  · exact List.prefix_rfl

/- Writers answer alike and go on writing alike. -/
theorem WritesAlike.send
    (hAlike : WritesAlike i a b)
    (bs : Bytes) :
    (b.1.send bs b.2).result = (a.1.send bs a.2).result ∧
      WritesAlike i (after (a.1.send bs a.2))
        (after (b.1.send bs b.2)) := by
  rcases hAlike.writer with ⟨_, _, hRole, _⟩
  rcases hAlike.writer' with ⟨_, _, hRole', _⟩
  have hResult :
      (b.1.send bs b.2).result = (a.1.send bs a.2).result := by
    rw [result_send hRole, result_send hRole', hAlike.closed,
      hAlike.window]
  rcases send_reach a.1 bs a.2 with ⟨_, _, hReach⟩
  rcases send_reach b.1 bs b.2 with ⟨_, _, hReach'⟩
  refine ⟨hResult, ?_⟩
  constructor
  · exact hAlike.writer.send bs
  · exact hAlike.writer'.send bs
  · rw [after, after, hReach, hReach']
    exact hAlike.closed
  · rw [window_after_send, window_after_send, hResult,
      hAlike.window]
  · rw [after, after, hReach, hReach']
    exact hAlike.peer
  · rw [hAlike.writer'.pipe_send, hAlike.writer.pipe_send,
      hResult, hAlike.pipe]

/- A pipe after the reader's receive. -/
theorem IsReader.pipe_receive
    (hReader : IsReader i a)
    (room : Nat) :
    (after (a.1.receive room a.2)).2.pipe i =
      { a.2.pipe i with
        bytes :=
          (a.2.pipe i).bytes.drop
            ((a.1.receive room a.2).result.toOption.getD
              []).length } := by
  rcases hReader with ⟨outbound, hOther, hRole, hPipe⟩
  have hBytes := (receive_moves hRole hPipe room).bytes
  have hClosed :=
    writerClosed_perform hRole hOther hPipe (.receive room)
  rw [List.append_nil] at hBytes
  change
    Pipe.mk _
        (((a.1.receive room a.2).world.pipe i).writerClosed) =
      Pipe.mk _ _
  rw [hBytes, List.drop_left]
  exact congrArg (Pipe.mk _) hClosed

/- Readers answer alike and go on reading alike. -/
theorem ReadsAlike.receive
    (hAlike : ReadsAlike i a b)
    (room : Nat) :
    (b.1.receive room b.2).result =
        (a.1.receive room a.2).result ∧
      ReadsAlike i (after (a.1.receive room a.2))
        (after (b.1.receive room b.2)) := by
  rcases hAlike.reader with ⟨_, _, hRole, _⟩
  rcases hAlike.reader' with ⟨_, _, hRole', _⟩
  have hUnread : b.1.unread b.2 = a.1.unread a.2 := by
    unfold unread
    rw [hRole, hRole']
    exact congrArg Pipe.bytes hAlike.pipe
  have hResult :
      (b.1.receive room b.2).result =
        (a.1.receive room a.2).result := by
    rw [result_receive hRole, result_receive hRole',
      hAlike.closed, hAlike.trouble, hUnread, hAlike.pipe]
  rcases receive_reach a.1 room a.2 with ⟨_, hReach⟩
  rcases receive_reach b.1 room b.2 with ⟨_, hReach'⟩
  refine ⟨hResult, ?_⟩
  constructor
  · exact hAlike.reader.receive room
  · exact hAlike.reader'.receive room
  · rw [after, after, hReach, hReach']
    exact hAlike.closed
  · rw [after, after, hReach, hReach']
  · rw [after, after, hReach, hReach']
    exact hAlike.peer
  · rw [hAlike.reader'.pipe_receive,
      hAlike.reader.pipe_receive, hResult, hAlike.pipe]

theorem sendsAlike :
    Transport.SendsAlike
      (τ := Endpoint) (WritesAlike i) where
  result bs hAlike := (hAlike.send bs).1
  send bs hAlike := (hAlike.send bs).2
  setError _ hAlike :=
    ⟨hAlike.writer, hAlike.writer', hAlike.closed,
      hAlike.window, hAlike.peer, hAlike.pipe⟩
  remoteAddress hAlike := hAlike.peer

theorem receivesAlike :
    Transport.ReceivesAlike
      (τ := Endpoint) (ReadsAlike i) where
  result room hAlike := (hAlike.receive room).1
  receive room hAlike := (hAlike.receive room).2
  remoteAddress hAlike := hAlike.peer

------------------------------------------------------------
-- The Other Pipe
------------------------------------------------------------

/- A writer that reads writes as before. -/
theorem WritesAlike.receive_right
    (hAlike : WritesAlike i a b)
    (room : Nat) :
    WritesAlike i a (after (b.1.receive room b.2)) := by
  rcases hAlike.writer' with ⟨inbound, hOther, hRole, hPipe⟩
  have hMoves := receive_moves_of_ne hRole hOther room b.2
  rcases receive_reach b.1 room b.2 with ⟨_, hReach⟩
  refine
    hAlike.trans
      ⟨hAlike.writer', hAlike.writer'.of_eq hMoves.role
        hMoves.size, ?_, ?_, ?_, ?_⟩
  · rw [after, hReach]
  · rw [after, hReach]
  · rw [after, hReach]
  · rcases receive_cases hRole room b.2 with
      ⟨_, ⟨_, _, hWorld⟩ | ⟨_, hWorld⟩ | ⟨_, hWorld⟩⟩
    · rw [after, hWorld]
    · rw [after, hWorld]
    · rw [after, hWorld]
      exact Network.pipe_changePipe_of_ne hOther _ _

/- A reader that writes reads as before. -/
theorem ReadsAlike.send_right
    (hAlike : ReadsAlike i a b)
    (bs : Bytes) :
    ReadsAlike i a (after (b.1.send bs b.2)) := by
  rcases hAlike.reader' with ⟨outbound, hOther, hRole, hPipe⟩
  have hMoves := send_moves_of_ne hRole hOther bs b.2
  rcases send_reach b.1 bs b.2 with ⟨_, _, hReach⟩
  refine
    hAlike.trans
      ⟨hAlike.reader', hAlike.reader'.of_eq hMoves.role
        hMoves.size, ?_, ?_, ?_, ?_⟩
  · rw [after, hReach]
  · rw [after, hReach]
  · rw [after, hReach]
  · rcases send_cases hRole bs b.2 with
      ⟨_, ⟨_, _, hWorld⟩ | ⟨_, _, hWorld⟩⟩
    · rw [after, hWorld]
    · rw [after, hWorld]
      exact Network.pipe_changePipe_of_ne hOther _ _

------------------------------------------------------------
-- Other Operations
------------------------------------------------------------

namespace Operation

/- Neither a send nor a receive nor a close. -/
def IsMild : Operation → Prop
  | .send _ => False
  | .receive _ => False
  | .close => False
  | _ => True

/- The window after an operation that is no send. -/
def windowAfter
    (window : Option Nat) : Operation → Option Nat
  | .setWindow window => window
  | _ => window

end Operation

/- What an operation leaves. -/
def left
    (a : Endpoint × Network)
    (operation : Operation) : Endpoint × Network :=
  ((a.1.perform operation a.2).endpoint,
    (a.1.perform operation a.2).network)

/- What is mild sets failures, a window and errors only. -/
theorem left_of_isMild
    {inbound outbound : Nat}
    (hRole : a.1.role = .stream inbound outbound)
    {operation : Operation}
    (hMild : operation.IsMild) :
    ∃ lastError failNextAccept failListen,
      left a operation =
        ({ a.1 with
            window := operation.windowAfter a.1.window
            failNextReceive :=
              operation.troubleAfter a.1.failNextReceive
            lastError, failNextAccept, failListen },
          a.2) := by
  rcases a with ⟨⟨role, _, _, _, _, _, _, _, _⟩, net⟩
  cases hRole
  cases operation with
  | send | receive | close => cases hMild
  | listen =>
      unfold left Endpoint.perform listen
      dsimp only
      split
      · exact ⟨_, _, _, rfl⟩
      · rename_i hOther
        cases hOther
      · exact ⟨_, _, _, rfl⟩
  | accept =>
      unfold left Endpoint.perform accept
      dsimp only
      split
      · exact ⟨_, _, _, rfl⟩
      · exact ⟨_, _, _, rfl⟩
  | _ => exact ⟨_, _, _, rfl⟩

/- Writers that do the same mild thing go on writing alike. -/
theorem WritesAlike.perform
    (hAlike : WritesAlike i a b)
    {operation : Operation}
    (hMild : operation.IsMild) :
    WritesAlike i (left a operation) (left b operation) := by
  rcases hAlike.writer with ⟨_, _, hRole, _⟩
  rcases hAlike.writer' with ⟨_, _, hRole', _⟩
  rcases left_of_isMild hRole hMild with ⟨_, _, _, hLeft⟩
  rcases left_of_isMild hRole' hMild with ⟨_, _, _, hLeft'⟩
  rw [hLeft, hLeft']
  exact
    ⟨hAlike.writer, hAlike.writer', hAlike.closed,
      congrArg (Operation.windowAfter · operation)
        hAlike.window,
      hAlike.peer, hAlike.pipe⟩

/- Readers that do the same mild thing go on reading alike. -/
theorem ReadsAlike.perform
    (hAlike : ReadsAlike i a b)
    {operation : Operation}
    (hMild : operation.IsMild) :
    ReadsAlike i (left a operation) (left b operation) := by
  rcases hAlike.reader with ⟨_, _, hRole, _⟩
  rcases hAlike.reader' with ⟨_, _, hRole', _⟩
  rcases left_of_isMild hRole hMild with ⟨_, _, _, hLeft⟩
  rcases left_of_isMild hRole' hMild with ⟨_, _, _, hLeft'⟩
  rw [hLeft, hLeft']
  exact
    ⟨hAlike.reader, hAlike.reader', hAlike.closed,
      congrArg (Operation.troubleAfter · operation)
        hAlike.trouble,
      hAlike.peer, hAlike.pipe⟩

/- A writer writes as before unless its window is set. -/
theorem IsWriter.perform_right
    (hWriter : IsWriter i a)
    {operation : Operation}
    (hMild : operation.IsMild)
    (hUnset : ∀ window, operation ≠ .setWindow window) :
    WritesAlike i a (left a operation) := by
  rcases hWriter with ⟨inbound, hOther, hRole, hPipe⟩
  rcases left_of_isMild hRole hMild with ⟨_, _, _, hLeft⟩
  have hWindow :
      operation.windowAfter a.1.window = a.1.window := by
    cases operation with
    | setWindow window => exact absurd rfl (hUnset window)
    | _ => rfl
  rw [hLeft]
  exact
    ⟨⟨inbound, hOther, hRole, hPipe⟩,
      ⟨inbound, hOther, hRole, hPipe⟩, rfl, hWindow, rfl, rfl⟩

/- A reader reads as before unless it is made to fail. -/
theorem IsReader.perform_right
    (hReader : IsReader i a)
    {operation : Operation}
    (hMild : operation.IsMild)
    (hUntroubled :
      ∀ kind, operation ≠ .failNextReceive kind) :
    ReadsAlike i a (left a operation) := by
  rcases hReader with ⟨outbound, hOther, hRole, hPipe⟩
  rcases left_of_isMild hRole hMild with ⟨_, _, _, hLeft⟩
  have hTrouble :
      operation.troubleAfter a.1.failNextReceive =
        a.1.failNextReceive := by
    cases operation with
    | failNextReceive kind =>
        exact absurd rfl (hUntroubled kind)
    | receive room => cases hMild
    | _ => rfl
  rw [hLeft]
  exact
    ⟨⟨outbound, hOther, hRole, hPipe⟩,
      ⟨outbound, hOther, hRole, hPipe⟩, rfl, hTrouble, rfl,
      rfl⟩

------------------------------------------------------------
-- Both Ends of a Pipe
------------------------------------------------------------

/- What writers leave alike, readers find alike. -/
theorem ReadsAlike.elsewhere
    {d : Endpoint × Network}
    (hReads : ReadsAlike i a b)
    (hWrites : WritesAlike i c d) :
    ReadsAlike i (a.1, c.2) (b.1, d.2) := by
  rcases hReads.reader with ⟨outbound, hOther, hRole, _⟩
  rcases hReads.reader' with ⟨outbound', hOther', hRole', _⟩
  rcases hWrites.writer with ⟨_, _, _, hPipe⟩
  rcases hWrites.writer' with ⟨_, _, _, hPipe'⟩
  exact
    ⟨⟨outbound, hOther, hRole, hPipe⟩,
      ⟨outbound', hOther', hRole', hPipe'⟩, hReads.closed,
      hReads.trouble, hReads.peer, hWrites.pipe⟩

/- What readers leave alike, writers find alike. -/
theorem WritesAlike.elsewhere
    {d : Endpoint × Network}
    (hWrites : WritesAlike i a b)
    (hReads : ReadsAlike i c d) :
    WritesAlike i (a.1, c.2) (b.1, d.2) := by
  rcases hWrites.writer with ⟨inbound, hOther, hRole, _⟩
  rcases hWrites.writer' with ⟨inbound', hOther', hRole', _⟩
  rcases hReads.reader with ⟨_, _, _, hPipe⟩
  rcases hReads.reader' with ⟨_, _, _, hPipe'⟩
  exact
    ⟨⟨inbound, hOther, hRole, hPipe⟩,
      ⟨inbound', hOther', hRole', hPipe'⟩, hWrites.closed,
      hWrites.window, hWrites.peer, hReads.pipe⟩

end Endpoint

end FrameLink
