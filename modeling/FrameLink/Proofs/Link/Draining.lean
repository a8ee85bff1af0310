import FrameLink.Proofs.Link.Delivery
import FrameLink.Proofs.Socket.Draining

/-
  A link is emptied by writing and reading.

  The left end writes through windows of any size, and the
  right end reads behind each write, until nothing waits to
  be written; then the right end reads until nothing is on
  its way.  Both loops end, within as many turns as there
  were bytes, and if only packets were sent, all that were
  accepted are delivered in the end (`Link.draining_ends`).

  Key definitions include:
    * `Link.rounds`, `Link.reads`
    * `Link.Ready`
    * `Link.Empties`
-/

------------------------------------------------------------
-- Rounds
------------------------------------------------------------

namespace FrameLink

namespace Link

/- The right end is told that it can read. -/
def Action.read : Action :=
  .operate .right (.notify .readable)

/- The left end writes through a window, the right one reads. -/
def round (w : Nat) : List Action :=
  [.handle .left (.setWindow (some w)),
    .operate .left (.notify .writable), .read]

/- One round after the other. -/
def rounds (link : Link) (windows : Nat → Nat) : Nat → Link
  | 0 => link
  | n + 1 => (link.rounds windows n).run (round (windows n))

/- One read after the other. -/
def reads (link : Link) : Nat → Link
  | 0 => link
  | n + 1 => (link.reads n).act .read

------------------------------------------------------------
-- Links at Work
------------------------------------------------------------

/- Only packets were sent, and both ends are working. -/
structure Ready (o : Opening) (link : Link) : Prop where
  orderly :
    ∃ actions : List Action,
      (∀ action ∈ actions, action.IsOrderly) ∧
        link = o.link.run actions
  left : link.left.Working
  right : link.right.Working

variable {o : Opening} {link : Link}

/- Open ends that have been orderly are working. -/
theorem ready_run
    {actions : List Action}
    (hOrderly : ∀ action ∈ actions, action.IsOrderly)
    (hLeft : o.leftFraming.overflowPolicy = .reset)
    (hRight : o.rightFraming.overflowPolicy = .reset)
    (hLeftOpen :
      (o.link.run actions).left.socket.transport.IsOpen)
    (hRightOpen :
      (o.link.run actions).right.socket.transport.IsOpen) :
    Ready o (o.link.run actions) := by
  rcases lived_run o hOrderly with ⟨lefts, rights, hLived⟩
  refine ⟨⟨actions, hOrderly, rfl⟩, ?_, ?_⟩
  · refine ⟨⟨o.left, lefts, rfl, hLeft, hLived.left⟩,
      hLeftOpen, ?_⟩
    rcases hLived.feeds.role with ⟨inbound, hRole, _⟩
    rw [hLived.left, Origin.transport_live]
    exact ⟨inbound, o.pipe, hRole⟩
  · refine ⟨⟨o.right, rights, rfl, hRight, hLived.right⟩,
      hRightOpen, ?_⟩
    rcases hLived.drains.role with ⟨outbound, hRole, _⟩
    rw [hLived.right, Origin.transport_live]
    exact ⟨o.pipe, outbound, hRole⟩

/- Doing one more thing leaves the link orderly. -/
theorem Ready.orderly_act
    (hReady : Ready o link)
    {action : Action}
    (hOrderly : action.IsOrderly) :
    ∃ actions : List Action,
      (∀ action ∈ actions, action.IsOrderly) ∧
        link.act action = o.link.run actions := by
  rcases hReady.orderly with ⟨actions, hActions, rfl⟩
  refine ⟨actions ++ [action], ?_, ?_⟩
  · intro other hMember
    rcases List.mem_append.mp hMember with hBefore | hLast
    · exact hActions other hBefore
    · rw [List.mem_singleton.mp hLast]
      exact hOrderly
  · rw [run, run, List.foldl_append]
    rfl

theorem Ready.read (hReady : Ready o link) :
    Ready o (link.act .read) where
  orderly := hReady.orderly_act trivial
  left := hReady.left.elsewhere _
  right := hReady.right.operate (.notify .readable)

theorem Ready.setWindow
    (hReady : Ready o link)
    (w : Nat) :
    Ready o
      (link.act (.handle .left (.setWindow (some w)))) where
  orderly := hReady.orderly_act trivial
  left := hReady.left.pass_windowed w
  right := hReady.right.elsewhere _

theorem Ready.write (hReady : Ready o link) :
    Ready o
      (link.act (.operate .left (.notify .writable))) where
  orderly := hReady.orderly_act trivial
  left := hReady.left.operate (.notify .writable)
  right := hReady.right.elsewhere _

theorem Ready.rounds
    (hReady : Ready o link)
    (windows : Nat → Nat)
    (n : Nat) :
    Ready o (link.rounds windows n) := by
  induction n with
  | zero => exact hReady
  | succ n ih => exact (ih.setWindow (windows n)).write.read

theorem Ready.reads
    (hReady : Ready o link)
    (n : Nat) :
    Ready o (link.reads n) := by
  induction n with
  | zero => exact hReady
  | succ n ih => exact ih.read

theorem accepted_rounds
    (link : Link)
    (windows : Nat → Nat)
    (n : Nat) :
    (link.rounds windows n).accepted = link.accepted := by
  induction n with
  | zero => rfl
  | succ n ih =>
      have hBoth :
          (link.rounds windows (n + 1)).accepted =
            (link.rounds windows n).accepted ++ [] ++ [] :=
        rfl
      rw [hBoth, List.append_nil, List.append_nil, ih]

theorem accepted_reads
    (link : Link)
    (n : Nat) :
    (link.reads n).accepted = link.accepted := by
  induction n with
  | zero => rfl
  | succ n ih => exact ih

------------------------------------------------------------
-- Loops That End
------------------------------------------------------------

/- Rounds with open windows leave nothing to write. -/
theorem Ready.rounds_endsWithin
    (hReady : Ready o link)
    {windows : Nat → Nat}
    (hWindows : ∀ n, 0 < windows n) :
    EndsWithin
      (fun n =>
        (link.rounds windows n).left.socket.pendingOutput)
      link.left.socket.pendingOutput := by
  refine endsWithin_of_lt (fun n hSome => ?_)
  have hOpen := hWindows n
  have hWorking := (hReady.rounds windows n).left
  have hAfter := hWorking.pendingOutput_windowed (windows n)
  change
    (link.rounds windows
      (n + 1)).left.socket.pendingOutput = _ at hAfter
  omega

/- Reads leave nothing on its way. -/
theorem Ready.reads_endsWithin (hReady : Ready o link) :
    EndsWithin (fun n => (link.reads n).right.available)
      link.right.available := by
  refine endsWithin_of_lt (fun n hSome => ?_)
  have hTakesIn := (hReady.reads n).right.takesIn hSome
  have hLess := hTakesIn.some
  have hAfter := hTakesIn.available
  change (link.reads (n + 1)).right.available = _ at hAfter
  omega

/- Where nothing waits or is on its way, all is delivered. -/
theorem Ready.delivered
    (hReady : Ready o link)
    (hPolicy : o.rightFraming.overflowPolicy = .reset)
    (hLimit : o.left.limit ≤ o.right.limit)
    (hPending : link.left.socket.pendingOutput = 0)
    (hAvailable : link.right.available = 0) :
    link.right.packets.map Prod.fst = link.accepted ∧
      link.right.overflows = 0 ∧
      link.right.socket.bufferedInput = 0 := by
  rcases hReady.orderly with ⟨actions, hOrderly, rfl⟩
  rcases lived_run o hOrderly with ⟨lefts, rights, hLived⟩
  have hOnTheWay :=
    List.length_eq_zero_iff.mp
      (hLived.available_eq.symm.trans hAvailable)
  have hStream := hLived.flatMap_bytes_accepted
  rw [hOnTheWay,
    Socket.filled_output_eq_nil_iff.mpr hPending,
    List.append_nil, List.append_nil] at hStream
  have hAll := hLived.deframe_accepted hLimit
  rw [← hStream] at hAll
  have hMade : o.right.listener = false := rfl
  have hPayloads :=
    Origin.payloads_live Endpoint.receivesWithin hMade
      hPolicy rights
  have hOverflows :=
    Origin.overflows_live Endpoint.receivesWithin hMade
      hPolicy rights
  have hInput :=
    Origin.filled_input_live Endpoint.receivesWithin hMade
      hPolicy rights
  rw [← hLived.right, hAll]
    at hPayloads hOverflows hInput
  refine ⟨?_, ?_, ?_⟩
  · exact
      hPayloads.trans
        (Segment.filterMap_payload?_map_packet _)
  · exact
      hOverflows.trans
        (List.count_eq_zero.mpr
          (Segment.overflow_notMem_map_packet _))
  · rw [Socket.bufferedInput, ← Buffer.length_filled, hInput]
    rfl

------------------------------------------------------------
-- Draining
------------------------------------------------------------

/-
  Rounds with open windows leave nothing to write, reads
  leave nothing on its way, and where either has come to its
  end, every packet that was accepted is delivered.
-/
structure Empties (link : Link) : Prop where
  writes :
    ∀ windows : Nat → Nat,
      (∀ n, 0 < windows n) →
        EndsWithin
          (fun n =>
            (link.rounds windows n).left.socket.pendingOutput)
          link.left.socket.pendingOutput
  reads :
    ∀ windows n,
      EndsWithin
        (fun m =>
          ((link.rounds windows n).reads m).right.available)
        (link.rounds windows n).right.available
  delivers :
    ∀ windows n m,
      let last := (link.rounds windows n).reads m
      last.left.socket.pendingOutput = 0 →
        last.right.available = 0 →
          last.right.packets.map Prod.fst = link.accepted ∧
            last.right.overflows = 0 ∧
            last.right.socket.bufferedInput = 0

theorem Ready.empties
    (hReady : Ready o link)
    (hPolicy : o.rightFraming.overflowPolicy = .reset)
    (hLimit : o.left.limit ≤ o.right.limit) :
    Empties link where
  writes := fun _ => hReady.rounds_endsWithin
  reads := fun windows n =>
    (hReady.rounds windows n).reads_endsWithin
  delivers := by
    intro windows n m last hPending hAvailable
    have hLast : Ready o last :=
      (hReady.rounds windows n).reads m
    have hAccepted : last.accepted = link.accepted :=
      (accepted_reads _ m).trans
        (link.accepted_rounds windows n)
    rw [← hAccepted]
    exact hLast.delivered hPolicy hLimit hPending hAvailable

/-
  A connection under the reset policy goes on reading and
  writing until nothing is left, whatever has happened to it,
  as long as its stream is open and no failure is pending.
  Two of them empty the link between them, and if only
  packets were sent, all that were accepted are delivered.
-/
theorem draining_ends :
    (∀ r : Life Endpoint Network, r.Working → r.Progresses) ∧
      ∀ (o : Opening) (actions : List Action),
        o.leftFraming.overflowPolicy = .reset →
          o.rightFraming.overflowPolicy = .reset →
            o.left.limit ≤ o.right.limit →
              (∀ action ∈ actions, action.IsOrderly) →
                let link := o.link.run actions
                link.left.socket.transport.IsOpen →
                  link.right.socket.transport.IsOpen →
                    Empties link := by
  refine ⟨fun _ hWorking => hWorking.progresses, ?_⟩
  intro o actions hLeft hRight hLimit hOrderly link hLeftOpen
    hRightOpen
  have hReady :=
    ready_run hOrderly hLeft hRight hLeftOpen hRightOpen
  exact hReady.empties hRight hLimit

/- A packet is sent, and one byte of its frame is written. -/
def stuckSchedule : List Action :=
  [.handle .left (.setWindow (some 1)),
    .operate .left (.send [7, 8])]

/- The other three are written in two rounds, and read. -/
theorem draining_ends_stuck :
    let link := shortOpening.link.run stuckSchedule
    link.left.socket.pendingOutput = 3 ∧
      link.right.Progresses ∧
      ((link.rounds (fun _ => 2) 2).reads 0).right.packets.map
        Prod.fst = [[7, 8]] := by
  intro link
  have hOrderly :
      ∀ action ∈ stuckSchedule, action.IsOrderly := by
    intro action hMember
    simp only [stuckSchedule, List.mem_cons,
      List.not_mem_nil, or_false] at hMember
    rcases hMember with rfl | rfl
    all_goals exact trivial
  have hLeftOpen : link.left.socket.transport.IsOpen := by
    constructor
    · decide +kernel
    · decide +kernel
  have hRightOpen : link.right.socket.transport.IsOpen := by
    constructor
    · decide +kernel
    · decide +kernel
  have hReady : Ready shortOpening link :=
    ready_run hOrderly rfl rfl hLeftOpen hRightOpen
  have hEmpties :=
    draining_ends.2 shortOpening stuckSchedule rfl rfl
      (Nat.le_refl _) hOrderly hLeftOpen hRightOpen
  refine
    ⟨by decide +kernel, draining_ends.1 _ hReady.right, ?_⟩
  have hDelivered :=
    hEmpties.delivers (fun _ => 2) 2 0 (by decide +kernel)
      (by decide +kernel)
  exact hDelivered.1.trans (by decide +kernel)

end Link

end FrameLink
