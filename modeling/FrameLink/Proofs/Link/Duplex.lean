import FrameLink.Proofs.Link.Basic
import FrameLink.Proofs.Transport.Account

/-
  The two bare endpoints of one connection.

  Anything may be done at either end, in any order.  A duplex
  is what that has come to, and its history lists what was
  done with the answers that were given.

  The history alone tells whether an endpoint is closed,
  which failure waits for it, and which bytes are still in
  the pipe to it: those that one side has written are read by
  the other side, once and in order, or wait there
  (`Duplex.Kept.run`).

  Key definitions include:
    * `Duplex`, `Duplex.Action`, `Duplex.Deed`
    * `Duplex.run`, `Duplex.history`, `Duplex.opened`
    * `Duplex.written`, `Duplex.read`, `Duplex.trouble`
    * `Duplex.Kept`
-/

------------------------------------------------------------
-- Both Ends
------------------------------------------------------------

namespace FrameLink

/- The side at the other end. -/
def Side.other : Side → Side
  | .left => .right
  | .right => .left

/- Either a side is a given one or it is across from it. -/
theorem Side.eq_or_eq_other (side this : Side) :
    side = this ∨ side = this.other := by
  cases side with
  | left =>
      cases this with
      | left => exact .inl rfl
      | right => exact .inr rfl
  | right =>
      cases this with
      | left => exact .inr rfl
      | right => exact .inl rfl

theorem Side.other_ne (side : Side) : side.other ≠ side := by
  cases side with
  | left => exact nofun
  | right => exact nofun

@[simp]
theorem Side.other_other (side : Side) :
    side.other.other = side := by
  cases side with
  | left => rfl
  | right => rfl

/- Two endpoints in one network. -/
structure Duplex where
  left : Endpoint
  right : Endpoint
  net : Network

namespace Duplex

/- Something that is done with the endpoint at one side. -/
structure Action where
  side : Side
  operation : Endpoint.Operation
  deriving DecidableEq

/- What was done, and what it has resulted in. -/
structure Deed where
  action : Action
  result : Endpoint.Result

/- The endpoint at one side. -/
def endAt (d : Duplex) : Side → Endpoint
  | .left => d.left
  | .right => d.right

/- What an action comes to. -/
def effect (d : Duplex) (action : Action) : Endpoint.Effect :=
  (d.endAt action.side).perform action.operation d.net

/- Do one thing. -/
def act (d : Duplex) (action : Action) : Duplex :=
  let effect := d.effect action
  match action.side with
  | .left =>
      { d with left := effect.endpoint, net := effect.network }
  | .right =>
      { d with
        right := effect.endpoint, net := effect.network }

/- Do one thing after the other. -/
def run (d : Duplex) (actions : List Action) : Duplex :=
  actions.foldl act d

theorem run_append
    (d : Duplex)
    (actions later : List Action) :
    d.run (actions ++ later) = (d.run actions).run later :=
  List.foldl_append

/- The actions with what they have resulted in. -/
def history (d : Duplex) : List Action → List Deed
  | [] => []
  | action :: actions =>
      ⟨action, (d.effect action).result⟩ ::
        (d.act action).history actions

/- The two ends of a new connection. -/
def opened (net : Network) (a b : Address) : Duplex where
  left := (net.pair a b).1.1
  right := (net.pair a b).1.2
  net := (net.pair a b).2

theorem endAt_act
    (d : Duplex)
    (action : Action) :
    (d.act action).endAt action.side =
      (d.effect action).endpoint := by
  unfold act
  cases hSide : action.side with
  | left => rfl
  | right => rfl

/- The endpoint across from it is not. -/
theorem endAt_act_of_ne
    (d : Duplex)
    {action : Action}
    {side : Side}
    (hOther : action.side ≠ side) :
    (d.act action).endAt side = d.endAt side := by
  unfold act
  cases hSide : action.side with
  | left =>
      cases side with
      | left => exact absurd hSide hOther
      | right => rfl
  | right =>
      cases side with
      | left => rfl
      | right => exact absurd hSide hOther

theorem net_act
    (d : Duplex)
    (action : Action) :
    (d.act action).net = (d.effect action).network := by
  unfold act
  cases action.side with
  | left => rfl
  | right => rfl

------------------------------------------------------------
-- What a History Tells
------------------------------------------------------------

/- The bytes that a side was reported to have written. -/
def Deed.written (side : Side) (deed : Deed) : Bytes :=
  if deed.action.side = side then
    deed.action.operation.taken deed.result
  else
    []

/- The bytes that were handed over to a side. -/
def Deed.read (side : Side) (deed : Deed) : Bytes :=
  if deed.action.side = side then deed.result.bytes else []

/- All bytes that a side was reported to have written. -/
def written (side : Side) (deeds : List Deed) : Bytes :=
  deeds.flatMap (Deed.written side)

/- All bytes that were handed over to a side. -/
def read (side : Side) (deeds : List Deed) : Bytes :=
  deeds.flatMap (Deed.read side)

/- The side has closed. -/
def HasClosed (side : Side) (actions : List Action) : Prop :=
  ⟨side, .close⟩ ∈ actions

instance (side : Side) (actions : List Action) :
    Decidable (HasClosed side actions) :=
  inferInstanceAs (Decidable (_ ∈ actions))

/-
  The failure that was asked for at a side last and that no
  receive at that side has met since.
-/
def troubleBehind
    (side : Side)
    (trouble : Option IoKind)
    (actions : List Action) : Option IoKind :=
  actions.foldl
    (fun trouble action =>
      if action.side = side then
        action.operation.troubleAfter trouble
      else
        trouble)
    trouble

/- The same after actions before which nothing was asked. -/
def trouble
    (side : Side)
    (actions : List Action) : Option IoKind :=
  troubleBehind side none actions

theorem trouble_append
    (side : Side)
    (actions later : List Action) :
    trouble side (actions ++ later) =
      troubleBehind side (trouble side actions) later :=
  List.foldl_append

/- No failure is asked for at a side. -/
def Unprovoked (side : Side) (actions : List Action) : Prop :=
  ∀ kind, ⟨side, .failNextReceive kind⟩ ∉ actions

/- Nothing waits where nothing was asked for. -/
theorem troubleBehind_none
    {side : Side}
    {actions : List Action}
    (hNever :
      ∀ kind, ⟨side, .failNextReceive kind⟩ ∉ actions) :
    troubleBehind side none actions = none := by
  unfold troubleBehind
  refine
    List.foldlRecOn (motive := (· = none)) actions _ rfl ?_
  rintro trouble rfl ⟨this, operation⟩ hMember
  split
  · rename_i hHere
    cases hHere
    cases operation with
    | failNextReceive kind =>
        exact absurd hMember (hNever kind)
    | _ => rfl
  · rfl

/- What waits is neither met nor replaced by other actions. -/
theorem troubleBehind_of_unmet
    {side : Side}
    {actions : List Action}
    (hNever : Unprovoked side actions)
    (hUnmet : ∀ room, ⟨side, .receive room⟩ ∉ actions)
    (trouble : Option IoKind) :
    troubleBehind side trouble actions = trouble := by
  unfold troubleBehind
  refine
    List.foldlRecOn (motive := (· = trouble)) actions _ rfl ?_
  rintro waiting rfl ⟨this, operation⟩ hMember
  split
  · rename_i hHere
    cases hHere
    cases operation with
    | failNextReceive kind =>
        exact absurd hMember (hNever kind)
    | receive room => exact absurd hMember (hUnmet room)
    | _ => rfl
  · rfl

------------------------------------------------------------
-- What Is Kept
------------------------------------------------------------

/- The pipe that a side writes to, of two from a base on. -/
def pipeOf (base : Nat) : Side → Nat
  | .left => base
  | .right => base + 1

theorem pipeOf_ne
    (base : Nat)
    {side this : Side}
    (hOther : side ≠ this) :
    pipeOf base side ≠ pipeOf base this := by
  cases side with
  | left =>
      cases this with
      | left => exact absurd rfl hOther
      | right => exact Nat.ne_of_lt (Nat.lt_succ_self base)
  | right =>
      cases this with
      | left => exact Nat.succ_ne_self base
      | right => exact absurd rfl hOther

/-
  Each endpoint and the pipe that it writes to are as the
  history tells, and what was written is what was read and
  what is still in the pipe.
-/
structure Kept
    (base : Nat)
    (actions : List Action)
    (deeds : List Deed)
    (d : Duplex) : Prop where
  pipes : base + 1 < d.net.pipes.size
  role :
    ∀ side,
      (d.endAt side).role =
        .stream (pipeOf base side.other) (pipeOf base side)
  closed :
    ∀ side,
      (d.endAt side).closed = decide (HasClosed side actions)
  ended :
    ∀ side,
      (d.net.pipe (pipeOf base side)).writerClosed =
        decide (HasClosed side actions)
  trouble :
    ∀ side,
      (d.endAt side).failNextReceive = trouble side actions
  bytes :
    ∀ side,
      written side deeds =
        read side.other deeds ++
          (d.net.pipe (pipeOf base side)).bytes

variable {base : Nat} {actions : List Action}
variable {deeds : List Deed} {d : Duplex}

theorem Kept.pipe
    (hKept : Kept base actions deeds d)
    (side : Side) :
    pipeOf base side < d.net.pipes.size := by
  cases side with
  | left => exact Nat.lt_of_succ_lt hKept.pipes
  | right => exact hKept.pipes

theorem hasClosed_concat
    (side : Side)
    (actions : List Action)
    (action : Action) :
    decide (HasClosed side (actions ++ [action])) =
      (decide (HasClosed side actions) ||
        decide (action = ⟨side, .close⟩)) := by
  rw [← Bool.decide_or]
  apply decide_eq_decide.mpr
  rw [HasClosed, HasClosed, List.mem_append,
    List.mem_singleton, eq_comm (a := action)]

/- What is done elsewhere does not close a side. -/
theorem hasClosed_concat_of_ne
    {action : Action}
    {side : Side}
    (hOther : action.side ≠ side)
    (actions : List Action) :
    decide (HasClosed side (actions ++ [action])) =
      decide (HasClosed side actions) := by
  have hNot : decide (action = ⟨side, .close⟩) = false := by
    apply decide_eq_false
    rintro rfl
    exact hOther rfl
  rw [hasClosed_concat, hNot, Bool.or_false]

/- A close closes the side at which it is done. -/
theorem hasClosed_concat_self
    (actions : List Action)
    (action : Action) :
    decide (HasClosed action.side (actions ++ [action])) =
      (decide (HasClosed action.side actions) ||
        decide (action.operation = .close)) := by
  rw [hasClosed_concat]
  apply congrArg (_ || ·)
  apply decide_eq_decide.mpr
  rcases action with ⟨side, operation⟩
  exact ⟨fun h => congrArg Action.operation h,
    fun h => congrArg (Action.mk side) h⟩

/- A new connection is kept with an empty history. -/
theorem kept_opened
    (net : Network)
    (a b : Address) :
    Kept net.pipes.size [] [] (opened net a b) := by
  have hSize :
      (opened net a b).net.pipes.size =
        net.pipes.size + 1 + 1 := by
    change ((net.pipes.push {}).push {}).size = _
    rw [Array.size_push, Array.size_push]
  have hPipe :
      ∀ side,
        (opened net a b).net.pipe
            (pipeOf net.pipes.size side) =
          {} := by
    intro side
    have hBefore :
        (opened net a b).net.pipe
            (pipeOf net.pipes.size side) =
          net.pipe (pipeOf net.pipes.size side) :=
      (Network.pipe_push
        { net with pipes := net.pipes.push {} } _).trans
        (Network.pipe_push net _)
    have hBehind :
        net.pipes.size ≤ pipeOf net.pipes.size side := by
      cases side with
      | left => exact Nat.le_refl _
      | right => exact Nat.le_succ _
    rw [hBefore, Network.pipe, Array.getD_eq_getD_getElem?,
      Array.getElem?_eq_none hBehind]
    rfl
  constructor
  · rw [hSize]
    exact Nat.lt_succ_self _
  · intro side
    cases side with
    | left => rfl
    | right => rfl
  · intro side
    cases side with
    | left => rfl
    | right => rfl
  · intro side
    rw [hPipe]
    rfl
  · intro side
    cases side with
    | left => rfl
    | right => rfl
  · intro side
    rw [hPipe]
    rfl

/- One more thing that is done is kept account of. -/
theorem Kept.act
    (hKept : Kept base actions deeds d)
    (action : Action) :
    Kept base (actions ++ [action])
      (deeds ++ [⟨action, (d.effect action).result⟩])
      (d.act action) := by
  have hHere := endAt_act d action
  have hRole := hKept.role action.side
  have hOwn := hKept.pipe action.side
  have hAcross := hKept.pipe action.side.other
  have hApart :=
    pipeOf_ne base (Side.other_ne action.side)
  have hMoves :=
    Endpoint.perform_moves hRole hApart hOwn action.operation
  have hReads :=
    Endpoint.perform_moves_reader hRole hApart.symm hAcross
      action.operation
  have hBytes := hMoves.bytes
  have hTaken := hReads.bytes
  rw [List.nil_append] at hBytes
  rw [List.append_nil] at hTaken
  constructor
  · rw [net_act]
    exact Nat.lt_of_lt_of_eq hKept.pipes hMoves.size.symm
  · intro side
    by_cases hSide : action.side = side
    · rw [← hSide, hHere]
      exact hMoves.role.trans hRole
    · rw [endAt_act_of_ne d hSide]
      exact hKept.role side
  · intro side
    by_cases hSide : action.side = side
    · rw [← hSide, hHere, hasClosed_concat_self,
        ← hKept.closed]
      exact Endpoint.closed_perform _ _ _
    · rw [endAt_act_of_ne d hSide,
        hasClosed_concat_of_ne hSide]
      exact hKept.closed side
  · intro side
    rw [net_act]
    rcases Side.eq_or_eq_other side action.side with
      rfl | rfl
    · rw [hasClosed_concat_self, ← hKept.ended]
      exact
        Endpoint.writerClosed_perform_writer hRole hApart
          hOwn action.operation
    · rw [hasClosed_concat_of_ne
        (Side.other_ne action.side).symm, ← hKept.ended]
      exact
        Endpoint.writerClosed_perform hRole hApart.symm
          hAcross action.operation
  · intro side
    rw [trouble_append]
    change
      _ =
        if action.side = side then
          action.operation.troubleAfter (Duplex.trouble side _)
        else
          Duplex.trouble side _
    by_cases hSide : action.side = side
    · rw [if_pos hSide, ← hSide, hHere, ← hKept.trouble]
      exact Endpoint.failNextReceive_perform _ _ _
    · rw [if_neg hSide, endAt_act_of_ne d hSide]
      exact hKept.trouble side
  · intro side
    simp only [written, read, List.flatMap_append,
      List.flatMap_cons, List.flatMap_nil, List.append_nil,
      net_act]
    rcases Side.eq_or_eq_other side action.side with
      rfl | rfl
    · rw [Deed.written, if_pos rfl, Deed.read,
        if_neg (Side.other_ne action.side).symm,
        List.append_nil]
      refine
        (congrArg (· ++ _) (hKept.bytes action.side)).trans ?_
      rw [List.append_assoc]
      exact congrArg (_ ++ ·) hBytes
    · rw [Deed.written,
        if_neg (Side.other_ne action.side).symm, Deed.read,
        Side.other_other, if_pos rfl, List.append_nil]
      refine (hKept.bytes action.side.other).trans ?_
      rw [Side.other_other, List.append_assoc]
      exact congrArg (_ ++ ·) hTaken

/- A run keeps account as each of its actions does. -/
theorem Kept.run
    (hKept : Kept base actions deeds d)
    (later : List Action) :
    Kept base (actions ++ later) (deeds ++ d.history later)
      (d.run later) := by
  induction later generalizing actions deeds d with
  | nil =>
      rw [history, List.append_nil, List.append_nil]
      exact hKept
  | cons action later ih =>
      have hNext := ih (hKept.act action)
      rw [List.append_assoc, List.append_assoc] at hNext
      exact hNext

end Duplex

end FrameLink
