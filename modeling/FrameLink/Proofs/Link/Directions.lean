import FrameLink.Proofs.Link.Delivery
import FrameLink.Proofs.Transport.Alike

/-
  The two directions of a link.

  What the left end sends and what the right end receives
  belong to one direction, and what goes the other way to the
  other.  Both directions share the sockets, the endpoints
  and the host, and still, as long as nobody closes and an
  overflow closes nothing, neither is seen in the other: what
  is done for one direction comes to the same whatever is
  done for the other in between
  (`Link.outward_eq_of_filter`).

  A link with all that is done and one with what is done for
  the first direction only are compared step by step.  What
  is done for the direction keeps them agreed
  (`Link.Agrees.act`), and what is done besides leaves a link
  in agreement with what it was (`Link.Plain.agrees_act`).

  Key definitions include:
    * `Link.Action.isForward`, `Link.Action.IsMild`
    * `Link.puts`, `Link.wire`, `Link.Appends`
    * `Link.Outward`, `Link.Opening.outward`
    * `Link.Agrees`
-/

------------------------------------------------------------
-- Directions
------------------------------------------------------------

namespace FrameLink

namespace Link

namespace Action

/- The action is for the direction from left to right. -/
def isForward : Action → Bool
  | .operate .left (.send _) => true
  | .operate .left (.sendTo _ _) => true
  | .operate .left (.sendRaw _) => true
  | .operate .left .flush => true
  | .operate .left (.notify .writable) => true
  | .handle .left (.setWindow _) => true
  | .operate .right (.notify .readable) => true
  | .handle .right (.failNextReceive _) => true
  | _ => false

/- Nobody closes, or moves bytes past a socket. -/
def IsMild : Action → Prop
  | .operate _ _ => True
  | .handle _ operation => operation.IsMild

/- The left end sends just where it is not quiet. -/
theorem isForward_operate_left
    (operation : Socket.Operation) :
    (operate .left operation).isForward = true ↔
      ¬operation.IsQuiet := by
  cases operation with
  | send | sendTo | sendRaw | flush =>
      exact ⟨fun _ hQuiet => hQuiet, fun _ => rfl⟩
  | poll | drain =>
      exact ⟨nofun, fun hLoud => absurd trivial hLoud⟩
  | notify notification =>
      cases notification with
      | writable =>
          exact ⟨fun _ hQuiet => hQuiet, fun _ => rfl⟩
      | _ => exact ⟨nofun, fun hLoud => absurd trivial hLoud⟩

/- The right end receives just where it is readable. -/
theorem isForward_operate_right
    (operation : Socket.Operation) :
    (operate .right operation).isForward = true ↔
      operation = .notify .readable := by
  cases operation with
  | notify notification =>
      cases notification with
      | readable => exact ⟨fun _ => rfl, fun _ => rfl⟩
      | _ => exact ⟨nofun, nofun⟩
  | _ => exact ⟨nofun, nofun⟩

end Action

------------------------------------------------------------
-- What Is Seen of a Direction
------------------------------------------------------------

end Link

/- The answer to a call that sends or flushes. -/
def Socket.Result.answer?
    {τ : Type} :
    Socket.Result τ → Option (Except SocketError Nat)
  | .count answer => some answer
  | _ => none

/- The answers to the calls of a life that send or flush. -/
def Life.answers
    {τ ω : Type}
    (r : Life τ ω) : List (Except SocketError Nat) :=
  r.result.filterMap Socket.Result.answer?

namespace Link

/- The pipe of a given number, as the link finds it. -/
def pipe (link : Link) (i : Nat) : Pipe :=
  link.left.host.world.pipe i

/- The bytes that the left end puts into a pipe. -/
def puts
    (link : Link)
    (i : Nat)
    (action : Action) : Bytes :=
  match action.side with
  | .left =>
      ((link.act action).pipe i).bytes.drop
        (link.pipe i).bytes.length
  | .right => []

/- All the bytes that it puts there, in order. -/
def wire (link : Link) (i : Nat) : List Action → Bytes
  | [] => []
  | action :: actions =>
      link.puts i action ++ (link.act action).wire i actions

/-
  What the left end puts there goes behind what the pipe
  holds, and that is all that becomes of the pipe.
-/
def Appends (link : Link) (i : Nat) : List Action → Prop
  | [] => True
  | action :: actions =>
      (action.side = .left →
        ((link.act action).pipe i).bytes =
          (link.pipe i).bytes ++ link.puts i action) ∧
        (link.act action).Appends i actions

/- What is seen of the direction from left to right. -/
structure Outward where
  answers : List (Except SocketError Nat)
  pendingOutput : Nat
  wire : Bytes
  bufferedInput : Nat
  packets : List (Bytes × Option Address)

/- What is seen of it after some actions. -/
def Opening.outward
    (o : Opening)
    (actions : List Action) : Outward :=
  let link := o.link.run actions
  { answers := link.left.answers
    pendingOutput := link.left.socket.pendingOutput
    wire := o.link.wire o.pipe actions
    bufferedInput := link.right.socket.bufferedInput
    packets := link.right.packets }

------------------------------------------------------------
-- Agreement
------------------------------------------------------------

/- Two links that the direction does not tell apart. -/
structure Agrees
    (i : Nat)
    (link link' : Link) : Prop where
  sending :
    Socket.SendsAs (Endpoint.WritesAlike i)
      link.left.socket link.left.host
      link'.left.socket link'.left.host
  receiving :
    Socket.ReceivesAs (Endpoint.ReadsAlike i)
      link.right.socket link.right.host
      link'.right.socket link'.right.host
  answers : link'.left.answers = link.left.answers
  packets : link'.right.packets = link.right.packets

/- Both ends read, and close nothing, in one host. -/
structure Plain (link : Link) : Prop where
  shared : link.right.host = link.left.host
  leftReads : link.left.socket.listener = false
  leftReset :
    link.left.socket.framing.overflowPolicy = .reset
  rightReads : link.right.socket.listener = false
  rightReset :
    link.right.socket.framing.overflowPolicy = .reset

variable {i : Nat} {link link' link'' : Link}

theorem Agrees.trans
    (hFirst : Agrees i link link')
    (hSecond : Agrees i link' link'') :
    Agrees i link link'' where
  sending :=
    ⟨hSecond.sending.output.trans hFirst.sending.output,
      hSecond.sending.framing.trans hFirst.sending.framing,
      hFirst.sending.streams.trans hSecond.sending.streams⟩
  receiving :=
    ⟨hSecond.receiving.input.trans hFirst.receiving.input,
      hSecond.receiving.framing.trans
        hFirst.receiving.framing,
      hFirst.receiving.streams.trans
        hSecond.receiving.streams⟩
  answers := hSecond.answers.trans hFirst.answers
  packets := hSecond.packets.trans hFirst.packets

/- What another link agrees with agrees with itself. -/
theorem Agrees.refl_right
    (hAgrees : Agrees i link link') :
    Agrees i link' link' where
  sending :=
    ⟨rfl, rfl, hAgrees.sending.streams.writer'.refl⟩
  receiving :=
    ⟨rfl, rfl, hAgrees.receiving.streams.reader'.refl⟩
  answers := rfl
  packets := rfl

/- Whatever is done, the ends stay plain. -/
theorem Plain.act
    (hPlain : Plain link)
    (action : Action) :
    Plain (link.act action) := by
  cases action with
  | operate side operation =>
      cases side with
      | left =>
          have hShape :=
            Socket.perform_shape link.left.socket operation
              link.left.host
          exact
            ⟨rfl,
              (congrArg Socket.Shape.listener hShape).trans
                hPlain.leftReads,
              (congrArg (·.framing.overflowPolicy)
                hShape).trans hPlain.leftReset,
              hPlain.rightReads, hPlain.rightReset⟩
      | right =>
          have hShape :=
            Socket.perform_shape link.right.socket operation
              link.right.host
          exact
            ⟨rfl, hPlain.leftReads, hPlain.leftReset,
              (congrArg Socket.Shape.listener hShape).trans
                hPlain.rightReads,
              (congrArg (·.framing.overflowPolicy)
                hShape).trans hPlain.rightReset⟩
  | handle side operation =>
      cases side with
      | left =>
          exact
            ⟨rfl, hPlain.leftReads, hPlain.leftReset,
              hPlain.rightReads, hPlain.rightReset⟩
      | right =>
          exact
            ⟨rfl, hPlain.leftReads, hPlain.leftReset,
              hPlain.rightReads, hPlain.rightReset⟩

------------------------------------------------------------
-- One Action
------------------------------------------------------------

theorem answers_operate
    {τ ω : Type}
    [Transport τ ω]
    (r : Life τ ω)
    (operation : Socket.Operation) :
    (Socket.pass r (.operate operation)).answers =
      r.answers ++
        (r.socket.perform operation
          r.host).result.answer?.toList := by
  unfold Life.answers Socket.pass
  dsimp only
  rw [List.filterMap_append]
  rfl

/- What neither sends nor flushes is no such call. -/
theorem answer?_of_isQuiet
    {τ ω : Type}
    [Transport τ ω]
    (s : Socket τ)
    {operation : Socket.Operation}
    (hQuiet : operation.IsQuiet)
    (host : Host ω) :
    (s.perform operation host).result.answer? = none := by
  cases operation with
  | send | sendTo | sendRaw | flush => cases hQuiet
  | poll => rfl
  | drain => rfl
  | notify notification => rfl

/- A reader adds the packets among its new events. -/
theorem packets_readable
    {τ ω : Type}
    [Transport τ ω]
    {r : Life τ ω}
    (hListener : r.socket.listener = false)
    {news : List (Event τ)}
    (hEvents :
      (r.socket.readInput r.host).socket.events =
        r.socket.events ++ news) :
    (Socket.pass r
          (.operate (.notify .readable))).packets =
      r.packets ++ news.filterMap Event.packet? := by
  rw [Life.packets_operate, Socket.perform_readable hListener]
  change
    _ ++ (Socket.readInput _ _).socket.events.filterMap _ = _
  rw [hEvents, List.filterMap_append, ← List.append_assoc,
    ← Life.packets_eq]

theorem packets_aside
    {τ ω : Type}
    [Transport τ ω]
    (r : Life τ ω)
    {operation : Socket.Operation}
    (hOther : operation ≠ .notify .readable) :
    (Socket.pass r (.operate operation)).packets =
      r.packets := by
  have hAside := Socket.aside_perform r.socket hOther r.host
  rw [Life.packets_operate, hAside.packets, Life.packets_eq]

/- What is done on the left leaves what is right of it. -/
theorem Agrees.of_left
    (hAgrees : Agrees i link link')
    {after after' : Link}
    (hRight :
      after.right = { link.right with host := after.left.host })
    (hRight' :
      after'.right =
        { link'.right with host := after'.left.host })
    (hSending :
      Socket.SendsAs (Endpoint.WritesAlike i)
        after.left.socket after.left.host
        after'.left.socket after'.left.host)
    (hAnswers : after'.left.answers = after.left.answers) :
    Agrees i after after' := by
  refine ⟨hSending, ?_, hAnswers, ?_⟩
  · rw [hRight, hRight']
    exact
      ⟨hAgrees.receiving.input, hAgrees.receiving.framing,
        hAgrees.receiving.streams.elsewhere hSending.streams⟩
  · rw [hRight, hRight']
    exact hAgrees.packets

/- What is done on the right leaves what is left of it. -/
theorem Agrees.of_right
    (hAgrees : Agrees i link link')
    {after after' : Link}
    (hLeft :
      after.left = { link.left with host := after.right.host })
    (hLeft' :
      after'.left =
        { link'.left with host := after'.right.host })
    (hReceiving :
      Socket.ReceivesAs (Endpoint.ReadsAlike i)
        after.right.socket after.right.host
        after'.right.socket after'.right.host)
    (hPackets : after'.right.packets = after.right.packets) :
    Agrees i after after' := by
  refine ⟨?_, hReceiving, ?_, hPackets⟩
  · rw [hLeft, hLeft']
    exact
      ⟨hAgrees.sending.output, hAgrees.sending.framing,
        hAgrees.sending.streams.elsewhere
          hReceiving.streams⟩
  · rw [hLeft, hLeft']
    exact hAgrees.answers

/- What is done for the direction keeps links agreed. -/
theorem Agrees.act
    (hAgrees : Agrees i link link')
    (hPlain : Plain link)
    (hPlain' : Plain link')
    {action : Action}
    (hMild : action.IsMild)
    (hForward : action.isForward = true) :
    Agrees i (link.act action) (link'.act action) := by
  cases action with
  | operate side operation =>
      cases side with
      | left =>
          have hReplies :=
            hAgrees.sending.perform Endpoint.sendsAlike
              ((Action.isForward_operate_left operation).mp
                hForward)
          refine
            hAgrees.of_left rfl rfl hReplies.sends ?_
          refine (answers_operate _ _).trans ?_
          rw [hReplies.result, hAgrees.answers]
          exact (answers_operate _ _).symm
      | right =>
          cases
            (Action.isForward_operate_right operation).mp
              hForward
          have hHears :=
            hAgrees.receiving.readInput Endpoint.receivesAlike
              hPlain.rightReset
          have hReads :=
            Socket.perform_readable hPlain.rightReads
              link.right.host
          have hReads' :=
            Socket.perform_readable hPlain'.rightReads
              link'.right.host
          rcases hHears.news with ⟨news, hEvents, hEvents'⟩
          refine hAgrees.of_right rfl rfl ?_ ?_
          · change
              Socket.ReceivesAs _
                (link.right.socket.perform _ _).socket
                (link.right.socket.perform _ _).host
                (link'.right.socket.perform _ _).socket
                (link'.right.socket.perform _ _).host
            rw [hReads, hReads']
            exact hHears.receives
          · refine
              (packets_readable hPlain'.rightReads
                hEvents').trans ?_
            rw [hAgrees.packets]
            exact
              (packets_readable hPlain.rightReads
                hEvents).symm
  | handle side operation =>
      cases side with
      | left =>
          refine hAgrees.of_left rfl rfl ?_ hAgrees.answers
          exact
            ⟨hAgrees.sending.output, hAgrees.sending.framing,
              hAgrees.sending.streams.perform hMild⟩
      | right =>
          refine hAgrees.of_right rfl rfl ?_ hAgrees.packets
          exact
            ⟨hAgrees.receiving.input,
              hAgrees.receiving.framing,
              hAgrees.receiving.streams.perform hMild⟩

/- What is done besides makes no difference to a link. -/
theorem Plain.agrees_act
    (hPlain : Plain link)
    (hAgrees : Agrees i link link)
    {action : Action}
    (hMild : action.IsMild)
    (hBesides : action.isForward = false) :
    Agrees i link (link.act action) := by
  have hLeft :
      link.left =
        { link.left with host := link.right.host } := by
    rw [hPlain.shared]
  have hRight :
      link.right =
        { link.right with host := link.left.host } := by
    rw [← hPlain.shared]
  have hWrites := hAgrees.sending.streams
  have hReads := hAgrees.receiving.streams
  cases action with
  | operate side operation =>
      cases side with
      | left =>
          have hQuiet : operation.IsQuiet := by
            apply Classical.byContradiction
            intro hLoud
            rw [(Action.isForward_operate_left operation).mpr
              hLoud] at hBesides
            cases hBesides
          refine hAgrees.of_left hRight rfl ?_ ?_
          · exact
              Socket.sendsAs_perform_of_isQuiet
                hPlain.leftReads hPlain.leftReset hWrites
                (fun room => hWrites.receive_right room) hQuiet
          · refine (answers_operate _ _).trans ?_
            rw [answer?_of_isQuiet _ hQuiet]
            exact List.append_nil _
      | right =>
          have hOther : operation ≠ .notify .readable := by
            rintro rfl
            cases hBesides
          refine hAgrees.of_right hLeft rfl ?_ ?_
          · apply Socket.receivesAs_perform hReads
            · intro e bs net hBefore
              exact hBefore.send_right bs
            · intro e code net hBefore
              exact
                ⟨hBefore.reader, hBefore.reader',
                  hBefore.closed, hBefore.trouble,
                  hBefore.peer, hBefore.pipe⟩
            · exact hOther
          · exact packets_aside link.right hOther
  | handle side operation =>
      cases side with
      | left =>
          refine hAgrees.of_left hRight rfl ?_ rfl
          refine ⟨rfl, rfl, ?_⟩
          apply hWrites.writer.perform_right hMild
          rintro window rfl
          cases hBesides
      | right =>
          refine hAgrees.of_right hLeft rfl ?_ rfl
          refine ⟨rfl, rfl, ?_⟩
          apply hReads.reader.perform_right hMild
          rintro kind rfl
          cases hBesides

------------------------------------------------------------
-- The Wire
------------------------------------------------------------

/- Links that go on in agreement put the same on the wire. -/
theorem Agrees.puts_eq
    (hBefore : Agrees i link link')
    {action : Action}
    (hAfter : Agrees i (link.act action) (link'.act action)) :
    link'.puts i action = link.puts i action := by
  have hPipe : link'.pipe i = link.pipe i :=
    hBefore.sending.streams.pipe
  have hPipeAfter :
      (link'.act action).pipe i = (link.act action).pipe i :=
    hAfter.sending.streams.pipe
  unfold puts
  rw [hPipe, hPipeAfter]

/- What makes no difference puts nothing on the wire. -/
theorem Agrees.puts_eq_nil
    {action : Action}
    (hAgrees : Agrees i link (link.act action)) :
    link.puts i action = [] := by
  have hPipe : (link.act action).pipe i = link.pipe i :=
    hAgrees.sending.streams.pipe
  unfold puts
  rw [hPipe]
  split
  · exact List.drop_length
  · rfl

/- The left end only adds to the pipe. -/
theorem Plain.prefix_act
    (hPlain : Plain link)
    (hAgrees : Agrees i link link)
    {action : Action}
    (hMild : action.IsMild)
    (hLeft : action.side = .left) :
    (link.pipe i).bytes <+:
      ((link.act action).pipe i).bytes := by
  have hWriter := hAgrees.sending.streams.writer
  cases hForward : action.isForward with
  | false =>
      have hNext := hPlain.agrees_act hAgrees hMild hForward
      have hPipe : (link.act action).pipe i = link.pipe i :=
        hNext.sending.streams.pipe
      exact hPipe ▸ List.prefix_rfl
  | true =>
      cases action with
      | handle side operation =>
          cases hLeft
          rcases hWriter with ⟨_, _, hRole, _⟩
          rcases Endpoint.left_of_isMild hRole hMild with
            ⟨_, _, _, hEnd⟩
          have hNetwork := congrArg Prod.snd hEnd
          have hPipe :
              (link.act (.handle .left operation)).pipe i =
                link.pipe i :=
            congrArg (Network.pipe · i) hNetwork
          exact hPipe ▸ List.prefix_rfl
      | operate side operation =>
          cases hLeft
          have hOther : operation ≠ .notify .readable := by
            rintro rfl
            cases hForward
          refine
            (Socket.perform_keeps
              (P := fun e net =>
                Endpoint.IsWriter i (e, net) ∧
                  (link.pipe i).bytes <+: (net.pipe i).bytes)
              (fun hThis => absurd hThis hOther) ?_
              (fun hThis => absurd hThis hOther)
              (fun hThis => absurd hThis hOther) ?_
              ⟨hWriter, List.prefix_rfl⟩).2
          · intro _ e bs net hBefore
            exact
              ⟨hBefore.1.send bs,
                hBefore.2.trans (hBefore.1.prefix_send bs)⟩
          · intro e code net hBefore
            exact hBefore

/- What it adds is what it puts there. -/
theorem Plain.bytes_append_puts
    (hPlain : Plain link)
    (hAgrees : Agrees i link link)
    {action : Action}
    (hMild : action.IsMild)
    (hLeft : action.side = .left) :
    ((link.act action).pipe i).bytes =
      (link.pipe i).bytes ++ link.puts i action := by
  have hFront := hPlain.prefix_act hAgrees hMild hLeft
  unfold puts
  rw [hLeft]
  exact (List.prefix_iff_eq_append.mp hFront).symm

/- The left end only ever appends to its pipe. -/
theorem Plain.appends
    (hPlain : Plain link)
    (hAgrees : Agrees i link link)
    {actions : List Action}
    (hMild : ∀ action ∈ actions, action.IsMild) :
    link.Appends i actions := by
  induction actions generalizing link with
  | nil => exact trivial
  | cons action actions ih =>
      have hFirst := hMild action List.mem_cons_self
      have hNext :
          Agrees i (link.act action) (link.act action) := by
        cases hForward : action.isForward with
        | true =>
            exact hAgrees.act hPlain hPlain hFirst hForward
        | false =>
            have hAside :=
              hPlain.agrees_act hAgrees hFirst hForward
            exact hAside.refl_right
      refine
        ⟨hPlain.bytes_append_puts hAgrees hFirst,
          ih (hPlain.act action) hNext ?_⟩
      intro later hMember
      exact hMild later (List.mem_cons_of_mem action hMember)

/-
  A link with everything agrees with one with what is done
  for the direction, and both put the same on the wire.
-/
theorem Agrees.run
    (hAgrees : Agrees i link link')
    (hPlain : Plain link)
    (hPlain' : Plain link')
    {actions : List Action}
    (hMild : ∀ action ∈ actions, action.IsMild) :
    Agrees i (link.run (actions.filter Action.isForward))
        (link'.run actions) ∧
      link'.wire i actions =
        link.wire i (actions.filter Action.isForward) := by
  induction actions generalizing link link' with
  | nil => exact ⟨hAgrees, rfl⟩
  | cons action actions ih =>
      have hFirst := hMild action List.mem_cons_self
      have hLater :
          ∀ action ∈ actions, action.IsMild := by
        intro later hMember
        exact hMild later (List.mem_cons_of_mem action hMember)
      cases hForward : action.isForward with
      | true =>
          have hNext :=
            hAgrees.act hPlain hPlain' hFirst hForward
          rcases ih hNext (hPlain.act action)
              (hPlain'.act action) hLater with
            ⟨hRun, hWire⟩
          rw [List.filter_cons_of_pos hForward]
          refine ⟨hRun, ?_⟩
          rw [wire, wire, hWire, hAgrees.puts_eq hNext]
      | false =>
          have hNext :=
            hPlain'.agrees_act hAgrees.refl_right hFirst
              hForward
          rcases ih (hAgrees.trans hNext) hPlain
              (hPlain'.act action) hLater with
            ⟨hRun, hWire⟩
          rw [List.filter_cons_of_neg
            (ne_true_of_eq_false hForward)]
          refine ⟨hRun, ?_⟩
          rw [wire, hWire, hNext.puts_eq_nil, List.nil_append]

------------------------------------------------------------
-- Opened Links
------------------------------------------------------------

/- A link is opened plain under the reset policy. -/
theorem plain_opened
    {o : Opening}
    (hLeft : o.leftFraming.overflowPolicy = .reset)
    (hRight : o.rightFraming.overflowPolicy = .reset) :
    Plain o.link := by
  have hLeftMade := Origin.socket_started o.left rfl
  have hRightMade := Origin.socket_started o.right rfl
  constructor
  · rfl
  · exact congrArg Socket.listener hLeftMade
  · refine
      (congrArg (·.framing.overflowPolicy) hLeftMade).trans ?_
    exact (Origin.overflowPolicy_clamped _).trans hLeft
  · exact congrArg Socket.listener hRightMade
  · refine
      (congrArg (·.framing.overflowPolicy) hRightMade).trans ?_
    exact (Origin.overflowPolicy_clamped _).trans hRight

/- An opened link agrees with itself. -/
theorem agrees_opened (o : Opening) :
    Agrees o.pipe o.link o.link := by
  have hWorld : o.right.started.host.world = o.ends.2 := by
    rw [Origin.host_started _ rfl]
    change o.left.started.host.world = _
    rw [Origin.host_started _ rfl]
    rfl
  have hPipe :
      o.pipe < o.right.started.host.world.pipes.size := by
    rw [hWorld]
    exact o.pipe_ends.1
  have hLeft :
      o.left.started.socket.transport.role =
        .stream (o.pipe + 1) o.pipe := by
    rw [Origin.socket_started o.left rfl]
    rfl
  have hRight :
      o.right.started.socket.transport.role =
        .stream o.pipe (o.pipe + 1) := by
    rw [Origin.socket_started o.right rfl]
    rfl
  have hApart : o.pipe + 1 ≠ o.pipe := Nat.succ_ne_self _
  have hWriter :
      Endpoint.IsWriter o.pipe
        (o.link.left.socket.transport,
          o.link.left.host.world) :=
    ⟨_, hApart, hLeft, hPipe⟩
  have hReader :
      Endpoint.IsReader o.pipe
        (o.link.right.socket.transport,
          o.link.right.host.world) :=
    ⟨_, hApart, hRight, hPipe⟩
  exact
    ⟨⟨rfl, rfl, hWriter.refl⟩, ⟨rfl, rfl, hReader.refl⟩, rfl,
      rfl⟩

/- What is done besides a direction is not seen in it. -/
theorem outward_filter
    {o : Opening}
    (hLeft : o.leftFraming.overflowPolicy = .reset)
    (hRight : o.rightFraming.overflowPolicy = .reset)
    {actions : List Action}
    (hMild : ∀ action ∈ actions, action.IsMild) :
    o.outward actions =
      o.outward (actions.filter Action.isForward) := by
  have hPlain := plain_opened hLeft hRight
  rcases (agrees_opened o).run hPlain hPlain hMild with
    ⟨hAgrees, hWire⟩
  unfold Opening.outward
  dsimp only
  rw [hAgrees.answers, hAgrees.packets, hWire,
    Socket.pendingOutput, hAgrees.sending.output,
    Socket.bufferedInput, hAgrees.receiving.input]
  rfl

/-
  Where overflows close nothing and nobody closes, all that
  is seen of a direction depends on what is done for it: what
  is done for the other direction may be added, left out or
  done in another order.  The bytes seen on the wire are
  those that the left end appends to its pipe.
-/
theorem outward_eq_of_filter
    {o : Opening}
    (hLeft : o.leftFraming.overflowPolicy = .reset)
    (hRight : o.rightFraming.overflowPolicy = .reset)
    {actions others : List Action}
    (hMild : ∀ action ∈ actions, action.IsMild)
    (hMildToo : ∀ action ∈ others, action.IsMild)
    (hSame :
      actions.filter Action.isForward =
        others.filter Action.isForward) :
    o.outward actions = o.outward others ∧
      o.link.Appends o.pipe actions := by
  constructor
  · rw [outward_filter hLeft hRight hMild, hSame,
      ← outward_filter hLeft hRight hMildToo]
  · exact
      (plain_opened hLeft hRight).appends (agrees_opened o)
        hMild

/- Both ends take four bytes in a packet at most. -/
def narrowOpening : Opening where
  leftAddress := .loopback 40001
  rightAddress := .loopback 40002
  leftFraming := { maxPacketSize := 4 }
  rightFraming := { maxPacketSize := 4 }
  host := { world := {} }

/- A frame is torn, and a receive is made to fail. -/
def oneWay : List Action :=
  [.handle .left (.setWindow (some 3)),
    .operate .left (.send [7, 8]),
    .operate .right (.notify .readable),
    .handle .left (.setWindow none),
    .operate .left (.notify .writable),
    .handle .right (.failNextReceive .connectionReset),
    .operate .right (.notify .readable),
    .operate .right (.notify .readable)]

/-
  The same, while the right end sends raw bytes that the left
  one can never complete, and a receive fails there as well.
-/
def bothWays : List Action :=
  [.handle .right (.setWindow (some 6)),
    .operate .right (.sendRaw [0, 9, 1, 2, 3, 4]),
    .handle .left (.setWindow (some 3)),
    .operate .left (.send [7, 8]),
    .operate .left (.notify .readable),
    .operate .right (.notify .readable),
    .operate .right (.send [1]),
    .handle .left (.setWindow none),
    .handle .left (.failNextReceive .timedOut),
    .operate .left (.notify .writable),
    .operate .left (.notify .readable),
    .handle .right (.failNextReceive .connectionReset),
    .operate .right (.notify .readable),
    .operate .right .drain,
    .operate .right (.notify .readable)]

/- The overflow on the left is not seen on the right. -/
theorem outward_both_ways :
    (∀ action ∈ bothWays, action.IsMild) ∧
      (∀ action ∈ oneWay, action.IsMild) ∧
      bothWays.filter Action.isForward =
        oneWay.filter Action.isForward ∧
      Report.measures
          (narrowOpening.link.run bothWays).left.reports =
        [.packetSent 2, .bufferOverflow, .readError] ∧
      narrowOpening.outward bothWays =
        narrowOpening.outward oneWay ∧
      narrowOpening.link.Appends narrowOpening.pipe
        bothWays ∧
      (narrowOpening.outward bothWays).wire = [0, 2, 7, 8] ∧
      (narrowOpening.outward bothWays).packets.map Prod.fst =
        [[7, 8]] := by
  have hMild : ∀ action ∈ bothWays, action.IsMild := by
    intro action hMember
    simp only [bothWays, List.mem_cons, List.not_mem_nil,
      or_false] at hMember
    rcases hMember with rfl | rfl | rfl | rfl | rfl | rfl |
      rfl | rfl | rfl | rfl | rfl | rfl | rfl | rfl | rfl
    all_goals exact trivial
  have hMildToo : ∀ action ∈ oneWay, action.IsMild := by
    intro action hMember
    simp only [oneWay, List.mem_cons, List.not_mem_nil,
      or_false] at hMember
    rcases hMember with rfl | rfl | rfl | rfl | rfl | rfl |
      rfl | rfl
    all_goals exact trivial
  have hSame :
      bothWays.filter Action.isForward =
        oneWay.filter Action.isForward := by
    decide
  have hReset :
      narrowOpening.leftFraming.overflowPolicy = .reset := rfl
  rcases outward_eq_of_filter hReset rfl hMild hMildToo
      hSame with
    ⟨hOutward, hAppends⟩
  refine
    ⟨hMild, hMildToo, hSame, ?_, hOutward, hAppends, ?_, ?_⟩
  · decide +kernel
  · decide +kernel
  · decide +kernel

end Link

end FrameLink
