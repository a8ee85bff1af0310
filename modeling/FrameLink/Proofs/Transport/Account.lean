import FrameLink.Proofs.Reception.Guests
import FrameLink.Proofs.Transport.Ending

/-
  What becomes of an endpoint that something is done with.

  An endpoint is closed from its close on.  A failure that was
  asked for waits for the next receive, which meets it and
  uses it up.  A window shrinks by what the sends take, and
  never below nothing.  The pipe that an endpoint writes to is
  marked by its close and by nothing else.

  Every operation is taken account of here once, field by
  field, and so is what a send or a receive answers
  (`Endpoint.result_send`, `Endpoint.result_receive`).

  Key definitions include:
    * `Endpoint.Operation.troubleAfter`
    * `Endpoint.unread`
-/

------------------------------------------------------------
-- Fields of Endpoints
------------------------------------------------------------

namespace FrameLink

namespace Endpoint

theorem send_reach
    (e : Endpoint)
    (bs : Bytes)
    (net : Network) :
    ∃ window lastError,
      (e.send bs net).transport =
        { e with window, lastError } := by
  unfold send
  split
  · exact ⟨_, _, rfl⟩
  · exact ⟨_, _, rfl⟩
  · split
    · exact ⟨_, _, rfl⟩
    · exact ⟨_, _, rfl⟩

/- A receive uses up the failure that waits for it. -/
theorem receive_reach
    (e : Endpoint)
    (room : Nat)
    (net : Network) :
    ∃ lastError,
      (e.receive room net).transport =
        { e with failNextReceive := none, lastError } := by
  unfold receive
  split
  · exact ⟨_, rfl⟩
  · rename_i hNone
    have hSame :
        ∀ lastError : Option ErrorCode,
          { e with lastError } =
            { e with failNextReceive := none, lastError } := by
      intro lastError
      rw [← hNone]
    split
    · exact ⟨_, hSame _⟩
    · exact ⟨_, hSame _⟩
    · dsimp only
      split
      · exact ⟨_, hSame _⟩
      · split
        · split
          · exact ⟨_, hSame _⟩
          · exact ⟨_, hSame _⟩
        · exact ⟨_, hSame _⟩

theorem listen_reach
    (e : Endpoint)
    (net : Network) :
    ∃ role lastError,
      (e.listen net).transport =
        { e with role, lastError } := by
  unfold listen
  split
  · exact ⟨_, _, rfl⟩
  · exact ⟨_, _, rfl⟩
  · exact ⟨_, _, rfl⟩

theorem accept_reach
    (e : Endpoint)
    (net : Network) :
    ∃ failNextAccept lastError,
      (e.accept net).transport =
        { e with failNextAccept, lastError } := by
  unfold accept
  split
  · exact ⟨_, _, rfl⟩
  · split
    · split
      · exact ⟨_, _, rfl⟩
      · exact ⟨_, _, rfl⟩
    · exact ⟨_, _, rfl⟩

/- A close leaves an endpoint closed, and nothing else does. -/
theorem closed_perform
    (e : Endpoint)
    (operation : Operation)
    (net : Network) :
    (e.perform operation net).endpoint.closed =
      (e.closed || decide (operation = .close)) := by
  cases operation with
  | close => exact (Bool.or_true _).symm
  | send bs =>
      rcases send_reach e bs net with ⟨window, code, hReach⟩
      rw [perform, effect, hReach]
      exact (Bool.or_false _).symm
  | receive room =>
      rcases receive_reach e room net with ⟨code, hReach⟩
      rw [perform, effect, hReach]
      exact (Bool.or_false _).symm
  | listen =>
      rcases listen_reach e net with ⟨role, code, hReach⟩
      rw [perform, effect, hReach]
      exact (Bool.or_false _).symm
  | accept =>
      rcases accept_reach e net with ⟨kind, code, hReach⟩
      rw [perform, effect, hReach]
      exact (Bool.or_false _).symm
  | _ => exact (Bool.or_false _).symm

/-
  The failure that the next receive is to meet, after an
  operation that found a given one waiting.
-/
def Operation.troubleAfter
    (trouble : Option IoKind) : Operation → Option IoKind
  | .failNextReceive kind => some kind
  | .receive _ => none
  | _ => trouble

/- A failure waits until a receive has met it. -/
theorem failNextReceive_perform
    (e : Endpoint)
    (operation : Operation)
    (net : Network) :
    (e.perform operation net).endpoint.failNextReceive =
      operation.troubleAfter e.failNextReceive := by
  cases operation with
  | send bs =>
      rcases send_reach e bs net with ⟨window, code, hReach⟩
      rw [perform, effect, hReach]
      rfl
  | receive room =>
      rcases receive_reach e room net with ⟨code, hReach⟩
      rw [perform, effect, hReach]
      rfl
  | listen =>
      rcases listen_reach e net with ⟨role, code, hReach⟩
      rw [perform, effect, hReach]
      rfl
  | accept =>
      rcases accept_reach e net with ⟨kind, code, hReach⟩
      rw [perform, effect, hReach]
      rfl
  | _ => rfl

/- What a send takes is what its window is narrowed by. -/
theorem window_send
    {e : Endpoint}
    {w : Nat}
    (hWindow : e.window = some w)
    (bs : Bytes)
    (net : Network) :
    ∃ left,
      (e.send bs net).transport.window = some left ∧
        (Exchange.sent bs
            (e.send bs net).result).taken.length +
          left = w := by
  unfold send
  split
  · exact ⟨w, hWindow, Nat.zero_add w⟩
  · exact ⟨w, hWindow, Nat.zero_add w⟩
  · split
    · exact ⟨w, hWindow, Nat.zero_add w⟩
    · refine ⟨w - min bs.length w, ?_, ?_⟩
      · simp only [succeed, narrow, hWindow, Option.map_some,
          Option.getD_some]
      · simp only [succeed, Exchange.taken, hWindow,
          Option.getD_some, List.length_take]
        omega

/-
  Unless it is set anew, a window is left narrower by just
  what was taken, so no more is ever taken than there was.
-/
theorem window_perform
    {e : Endpoint}
    {w : Nat}
    (hWindow : e.window = some w)
    {operation : Operation}
    (hKept : ∀ window, operation ≠ .setWindow window)
    (net : Network) :
    ∃ left,
      (e.perform operation net).endpoint.window = some left ∧
        (operation.taken
            (e.perform operation net).result).length +
          left = w := by
  cases operation with
  | setWindow window => exact absurd rfl (hKept window)
  | send bs => exact window_send hWindow bs net
  | receive room =>
      rcases receive_reach e room net with ⟨code, hReach⟩
      rw [perform, effect, hReach]
      exact ⟨w, hWindow, Nat.zero_add w⟩
  | listen =>
      rcases listen_reach e net with ⟨role, code, hReach⟩
      rw [perform, effect, hReach]
      exact ⟨w, hWindow, Nat.zero_add w⟩
  | accept =>
      rcases accept_reach e net with ⟨kind, code, hReach⟩
      rw [perform, effect, hReach]
      exact ⟨w, hWindow, Nat.zero_add w⟩
  | _ => exact ⟨w, hWindow, Nat.zero_add w⟩

------------------------------------------------------------
-- Marks on Pipes
------------------------------------------------------------

variable {e : Endpoint} {inbound outbound : Nat}

/- A writer marks its pipe when it closes, and only then. -/
theorem writerClosed_perform_writer
    (hRole : e.role = .stream inbound outbound)
    (hApart : inbound ≠ outbound)
    {net : Network}
    (hPipe : outbound < net.pipes.size)
    (operation : Operation) :
    ((e.perform operation net).network.pipe
        outbound).writerClosed =
      ((net.pipe outbound).writerClosed ||
        decide (operation = .close)) := by
  have hSame :
      ∀ {after : Network},
        after = net →
          (after.pipe outbound).writerClosed =
            ((net.pipe outbound).writerClosed || false) := by
    rintro after rfl
    exact (Bool.or_false _).symm
  cases operation with
  | close =>
      simp only [perform, effect, close, hRole, succeed,
        Network.pipe_changePipe_same hPipe, decide_true,
        Bool.or_true]
  | send bs =>
      rcases send_cases hRole bs net with
        ⟨_, ⟨_, _, hWorld⟩ | ⟨_, _, hWorld⟩⟩
      · exact hSame hWorld
      · change ((e.send bs net).world.pipe _).writerClosed = _
        rw [hWorld, Network.pipe_changePipe_same hPipe]
        exact (Bool.or_false _).symm
  | receive room =>
      rcases receive_cases hRole room net with
        ⟨_, ⟨_, _, hWorld⟩ | ⟨_, hWorld⟩ | ⟨_, hWorld⟩⟩
      · exact hSame hWorld
      · exact hSame hWorld
      · change
          ((e.receive room net).world.pipe _).writerClosed = _
        rw [hWorld, Network.pipe_changePipe_of_ne hApart]
        exact (Bool.or_false _).symm
  | listen =>
      apply hSame
      change (e.listen net).world = net
      simp only [listen, hRole]
      split
      · rfl
      · rename_i hOther
        cases hOther
      · rfl
  | accept =>
      apply hSame
      change (e.accept net).world = net
      simp only [accept, hRole]
      split
      · rfl
      · rfl
  | _ => exact hSame rfl

------------------------------------------------------------
-- Answers
------------------------------------------------------------

/- The bytes that wait to be read. -/
def unread (e : Endpoint) (net : Network) : Bytes :=
  match e.role with
  | .stream inbound _ => (net.pipe inbound).bytes
  | .listener _ _ => []

/- The bytes that are available are those not read yet. -/
theorem available_eq_length_unread
    (e : Endpoint)
    (net : Network) :
    e.available net = (e.unread net).length := by
  unfold available unread
  cases e.role with
  | stream inbound outbound => rfl
  | listener queue listening => rfl

/- What a send at one end of a connection answers. -/
theorem result_send
    (hRole : e.role = .stream inbound outbound)
    (bs : Bytes)
    (net : Network) :
    (e.send bs net).result =
      if e.closed = true then
        .error { kind := .notConnected }
      else if e.window = some 0 ∧ bs ≠ [] then
        .error { kind := .wouldBlock }
      else
        .ok (min bs.length (e.window.getD bs.length)) := by
  cases hClosed : e.closed with
  | true =>
      simp only [send, hClosed]
      rfl
  | false =>
      simp only [send, hClosed, hRole]
      rw [if_neg Bool.false_ne_true]
      split
      · rfl
      · rfl

/- What a receive at one end of a connection answers. -/
theorem result_receive
    (hRole : e.role = .stream inbound outbound)
    (room : Nat)
    (net : Network) :
    (e.receive room net).result =
      match e.failNextReceive with
      | some kind => .error { kind }
      | none =>
          if e.closed = true then
            .error { kind := .notConnected }
          else if room = 0 then
            .ok []
          else if e.unread net = [] then
            if (net.pipe inbound).writerClosed = true then
              .ok []
            else
              .error { kind := .wouldBlock }
          else
            .ok ((e.unread net).take room) := by
  have hUnread : e.unread net = (net.pipe inbound).bytes := by
    unfold unread
    rw [hRole]
  rw [hUnread]
  cases hFail : e.failNextReceive with
  | some kind =>
      simp only [receive, hFail]
      rfl
  | none =>
      cases hClosed : e.closed with
      | true =>
          simp only [receive, hFail, hClosed]
          rfl
      | false =>
          simp only [receive, hFail, hClosed, hRole]
          rw [if_neg Bool.false_ne_true]
          split
          · rfl
          · split
            · split
              · rfl
              · rfl
            · rfl

/- A send that fails leaves the network as it is. -/
theorem world_send_of_error
    (hRole : e.role = .stream inbound outbound)
    {bs : Bytes}
    {net : Network}
    {failure : IoError}
    (hFailed : (e.send bs net).result = .error failure) :
    (e.send bs net).world = net := by
  rcases send_cases hRole bs net with
    ⟨_, ⟨_, _, hWorld⟩ | ⟨n, hOk, _⟩⟩
  · exact hWorld
  · rw [hOk] at hFailed
    cases hFailed

theorem world_receive_of_error
    (hRole : e.role = .stream inbound outbound)
    {room : Nat}
    {net : Network}
    {failure : IoError}
    (hFailed : (e.receive room net).result = .error failure) :
    (e.receive room net).world = net := by
  rcases receive_cases hRole room net with
    ⟨_, ⟨_, _, hWorld⟩ | ⟨_, hWorld⟩ | ⟨hOk, _⟩⟩
  · exact hWorld
  · exact hWorld
  · rw [hOk] at hFailed
    cases hFailed

/- An endpoint that has closed moves no byte. -/
theorem moved_of_closed
    (hClosed : e.closed = true)
    (operation : Operation)
    (net : Network) :
    operation.taken (e.perform operation net).result = [] ∧
      (e.perform operation net).result.bytes = [] := by
  cases operation with
  | send bs =>
      refine ⟨?_, rfl⟩
      simp only [perform, effect, send, hClosed]
      rfl
  | receive room =>
      refine ⟨rfl, ?_⟩
      simp only [perform, effect, receive, hClosed]
      split
      · rfl
      · rfl
  | _ => exact ⟨rfl, rfl⟩

end Endpoint

end FrameLink
