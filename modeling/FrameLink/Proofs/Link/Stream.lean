import FrameLink.Proofs.Link.Duplex
import Mathlib.Algebra.GroupWithZero.Nat

/-
  A connection in memory is a faithful stream both ways.

  What a send or a receive answers is told by the history, by
  the window and by the bytes that wait (`Duplex.granted`,
  `Duplex.due`).  A window that is set is used up by what is
  written later and by nothing else (`Duplex.window_run`).  An
  endpoint that has closed moves no more bytes
  (`Duplex.still_of_closed`), and the one across from it can
  still read all that waits there (`Duplex.read_receives`).

  Both ends of a new connection keep to this whatever is done
  at either of them (`Duplex.faithful_opened`).

  Key definitions include:
    * `Duplex.sends`, `Duplex.receives`, `Duplex.unread`
    * `Duplex.granted`, `Duplex.due`, `Duplex.OwnFailure`
    * `Duplex.Faithful`
-/

------------------------------------------------------------
-- Answers by the History
------------------------------------------------------------

namespace FrameLink

namespace Duplex

/- What a send at a side would answer now. -/
def sends
    (d : Duplex)
    (side : Side)
    (bs : Bytes) : Except IoError Nat :=
  ((d.endAt side).send bs d.net).result

/- What a receive at a side would answer now. -/
def receives
    (d : Duplex)
    (side : Side)
    (room : Nat) : Except IoError Bytes :=
  ((d.endAt side).receive room d.net).result

/- The bytes that wait to be read at a side. -/
def unread (d : Duplex) (side : Side) : Bytes :=
  (d.endAt side).unread d.net

/- The bytes of a send that a side is to take. -/
def granted
    (actions : List Action)
    (side : Side)
    (window : Option Nat)
    (bs : Bytes) : Except IoError Nat :=
  if HasClosed side actions then
    .error { kind := .notConnected }
  else if window = some 0 ∧ bs ≠ [] then
    .error { kind := .wouldBlock }
  else
    .ok (min bs.length (window.getD bs.length))

/-
  What a receive is to answer at a reader for whom some bytes
  wait.
-/
def due
    (actions : List Action)
    (reader : Side)
    (waiting : Bytes)
    (room : Nat) : Except IoError Bytes :=
  match trouble reader actions with
  | some kind => .error { kind }
  | none =>
      if HasClosed reader actions then
        .error { kind := .notConnected }
      else if room = 0 then
        .ok []
      else if waiting = [] then
        if HasClosed reader.other actions then
          .ok []
        else
          .error { kind := .wouldBlock }
      else
        .ok (waiting.take room)

variable {base : Nat} {actions : List Action}
variable {deeds : List Deed} {d : Duplex}

/- A send that has bytes waits for its window, and only so. -/
theorem granted_eq_wouldBlock
    {side : Side}
    {window : Option Nat}
    {bs : Bytes}
    (hSome : bs ≠ []) :
    granted actions side window bs =
        .error { kind := .wouldBlock } ↔
      ¬HasClosed side actions ∧ window = some 0 := by
  unfold granted
  split
  · rename_i hClosed
    exact ⟨nofun, fun h => absurd hClosed h.1⟩
  · rename_i hOpen
    split
    · rename_i hFull
      exact ⟨fun _ => ⟨hOpen, hFull.1⟩, fun _ => rfl⟩
    · rename_i hRoom
      exact ⟨nofun, fun h => absurd ⟨h.2, hSome⟩ hRoom⟩

theorem Kept.sends_eq
    (hKept : Kept base actions deeds d)
    (side : Side)
    (bs : Bytes) :
    d.sends side bs =
      granted actions side (d.endAt side).window bs := by
  unfold sends granted
  rw [Endpoint.result_send (hKept.role side), hKept.closed]
  simp only [decide_eq_true_eq]

theorem Kept.receives_eq
    (hKept : Kept base actions deeds d)
    (reader : Side)
    (room : Nat) :
    d.receives reader room =
      due actions reader (d.unread reader) room := by
  unfold receives due
  rw [Endpoint.result_receive (hKept.role reader),
    hKept.trouble, hKept.closed, hKept.ended]
  simp only [decide_eq_true_eq]
  rfl

/- What waits at a reader is in the pipe to it. -/
theorem Kept.unread_other
    (hKept : Kept base actions deeds d)
    (side : Side) :
    d.unread side.other =
      (d.net.pipe (pipeOf base side)).bytes := by
  unfold unread Endpoint.unread
  rw [hKept.role, Side.other_other]

/- Only at the end is nothing read where there is room. -/
theorem due_eq_nil
    {reader : Side}
    {waiting : Bytes}
    {room : Nat}
    (hRoom : 0 < room)
    (hEnd : due actions reader waiting room = .ok []) :
    trouble reader actions = none ∧
      ¬HasClosed reader actions ∧
      waiting = [] ∧
      HasClosed reader.other actions := by
  unfold due at hEnd
  cases hTrouble : trouble reader actions with
  | some kind =>
      rw [hTrouble] at hEnd
      cases hEnd
  | none =>
      simp only [hTrouble] at hEnd
      split at hEnd
      · cases hEnd
      · rename_i hOpen
        rw [if_neg (Nat.ne_of_gt hRoom)] at hEnd
        split at hEnd
        · rename_i hNothing
          split at hEnd
          · rename_i hPeer
            exact ⟨rfl, hOpen, hNothing, hPeer⟩
          · cases hEnd
        · rename_i hSome
          have hTake := Except.ok.inj hEnd
          rcases List.take_eq_nil_iff.mp hTake with
            hZero | hNothing
          · exact absurd hZero (Nat.ne_of_gt hRoom)
          · exact absurd hNothing hSome

/- A failure for which nobody has asked. -/
def OwnFailure
    (actions : List Action)
    (reader : Side)
    (failure : IoError) : Prop :=
  (failure = { kind := .notConnected } ∧
      HasClosed reader actions) ∨
    (failure = { kind := .wouldBlock } ∧
      ¬HasClosed reader.other actions)

/- A receive that nothing troubles fails on its own account. -/
theorem due_eq_error
    {reader : Side}
    {waiting : Bytes}
    {room : Nat}
    {failure : IoError}
    (hTrouble : trouble reader actions = none)
    (hFails :
      due actions reader waiting room = .error failure) :
    OwnFailure actions reader failure := by
  unfold due at hFails
  simp only [hTrouble] at hFails
  split at hFails
  · rename_i hClosed
    exact .inl ⟨(Except.error.inj hFails).symm, hClosed⟩
  · split at hFails
    · cases hFails
    · split at hFails
      · split at hFails
        · cases hFails
        · rename_i hPeer
          exact .inr ⟨(Except.error.inj hFails).symm, hPeer⟩
      · cases hFails

/- A receive at a side that has closed fails. -/
theorem due_of_closed
    {reader : Side}
    (hClosed : HasClosed reader actions)
    (waiting : Bytes)
    (room : Nat) :
    ∃ failure,
      due actions reader waiting room = .error failure := by
  unfold due
  cases trouble reader actions with
  | some kind => exact ⟨_, rfl⟩
  | none => exact ⟨_, if_pos hClosed⟩

/- An open reader gets what waits, up to the room it has. -/
theorem due_of_open
    {reader : Side}
    {waiting : Bytes}
    {room : Nat}
    (hTrouble : trouble reader actions = none)
    (hOpen : ¬HasClosed reader actions)
    (hRoom : 0 < room)
    (hMore : waiting ≠ [] ∨ HasClosed reader.other actions) :
    due actions reader waiting room =
      .ok (waiting.take room) := by
  unfold due
  simp only [hTrouble]
  rw [if_neg hOpen, if_neg (Nat.ne_of_gt hRoom)]
  split
  · rename_i hNothing
    rcases hMore with hSome | hPeer
    · exact absurd hNothing hSome
    · rw [if_pos hPeer, hNothing, List.take_nil]
  · rfl

------------------------------------------------------------
-- What Comes Later
------------------------------------------------------------

/- A window is used up by what is written, and not else. -/
theorem window_run
    {side : Side}
    {w : Nat}
    (hWindow : (d.endAt side).window = some w)
    {later : List Action}
    (hUnset : ∀ window, ⟨side, .setWindow window⟩ ∉ later) :
    ∃ left,
      ((d.run later).endAt side).window = some left ∧
        (written side (d.history later)).length + left = w := by
  induction later generalizing d w with
  | nil => exact ⟨w, hWindow, Nat.zero_add w⟩
  | cons action later ih =>
      have hLater :
          ∀ window, ⟨side, .setWindow window⟩ ∉ later := by
        intro window hMember
        exact hUnset window (List.mem_cons_of_mem _ hMember)
      change
        ∃ left,
          (((d.act action).run later).endAt side).window =
              some left ∧
            (Deed.written side ⟨action, _⟩ ++
                  written side _).length +
                left = w
      by_cases hSide : action.side = side
      · cases hSide
        have hFirst :
            ∀ window, action.operation ≠ .setWindow window := by
          intro window hSet
          apply hUnset window
          rw [← hSet]
          exact List.mem_cons_self
        rcases
            Endpoint.window_perform hWindow hFirst d.net with
          ⟨middle, hMiddle, hTaken⟩
        rcases
            ih ((congrArg Endpoint.window
                (endAt_act d action)).trans hMiddle)
              hLater with
          ⟨left, hLeft, hCount⟩
        refine ⟨left, hLeft, ?_⟩
        rw [Deed.written, if_pos rfl, List.length_append,
          Nat.add_assoc, hCount]
        exact hTaken
      · rw [← endAt_act_of_ne d hSide] at hWindow
        rw [Deed.written, if_neg hSide]
        exact ih hWindow hLater

theorem window_since
    (start : Duplex)
    {side : Side}
    (before : List Action)
    (w : Nat)
    {after : List Action}
    (hUnset : ∀ window, ⟨side, .setWindow window⟩ ∉ after) :
    ∃ left,
      ((start.run
          (before ++
            ⟨side, .setWindow (some w)⟩ :: after)).endAt
        side).window = some left ∧
        (written side
              ((start.run
                (before ++
                  [⟨side, .setWindow (some w)⟩])).history
                after)).length +
            left =
          w := by
  have hSet :
      ((start.run
          (before ++ [⟨side, .setWindow (some w)⟩])).endAt
        side).window = some w := by
    rw [run_append]
    exact
      congrArg Endpoint.window
        (endAt_act (start.run before)
          ⟨side, .setWindow (some w)⟩)
  have hSplit :
      before ++ ⟨side, .setWindow (some w)⟩ :: after =
        (before ++ [⟨side, .setWindow (some w)⟩]) ++ after := by
    rw [List.append_assoc]
    rfl
  rw [hSplit, run_append start _ after]
  exact window_run hSet hUnset

/- An endpoint that has closed moves no more bytes. -/
theorem still_of_closed
    {side : Side}
    (hClosed : (d.endAt side).closed = true)
    (later : List Action) :
    written side (d.history later) = [] ∧
      read side (d.history later) = [] := by
  induction later generalizing d with
  | nil => exact ⟨rfl, rfl⟩
  | cons action later ih =>
      change
        Deed.written side ⟨action, _⟩ ++ written side _ = [] ∧
          Deed.read side ⟨action, _⟩ ++ read side _ = []
      by_cases hSide : action.side = side
      · cases hSide
        have hStill :
            ((d.act action).endAt action.side).closed =
              true := by
          rw [endAt_act]
          exact
            (Endpoint.closed_perform _ _ _).trans
              (by rw [hClosed, Bool.true_or])
        rcases ih hStill with ⟨hWritten, hRead⟩
        rcases
            Endpoint.moved_of_closed hClosed action.operation
              d.net with
          ⟨hTaken, hBytes⟩
        rw [hWritten, hRead, Deed.written, if_pos rfl,
          Deed.read, if_pos rfl]
        exact
          ⟨(List.append_nil _).trans hTaken,
            (List.append_nil _).trans hBytes⟩
      · rw [← endAt_act_of_ne d hSide] at hClosed
        rw [Deed.written, if_neg hSide, Deed.read,
          if_neg hSide]
        exact ih hClosed

/- A failure is met by no more than one receive. -/
theorem trouble_of_met
    {reader : Side}
    {later : List Action}
    (hNever : Unprovoked reader later)
    (room : Nat) :
    trouble reader
        (actions ++ ⟨reader, .receive room⟩ :: later) =
      none := by
  rw [trouble_append]
  change
    troubleBehind reader
        (if reader = reader then none else _) later =
      none
  rw [if_pos rfl]
  exact troubleBehind_none hNever

theorem trouble_of_asked
    {reader : Side}
    {later : List Action}
    (hNever : Unprovoked reader later)
    (hUnmet : ∀ room, ⟨reader, .receive room⟩ ∉ later)
    (kind : IoKind) :
    trouble reader
        (actions ++ ⟨reader, .failNextReceive kind⟩ :: later) =
      some kind := by
  rw [trouble_append]
  change
    troubleBehind reader
        (if reader = reader then some kind else _) later =
      some kind
  rw [if_pos rfl]
  exact troubleBehind_of_unmet hNever hUnmet _

------------------------------------------------------------
-- Reading All
------------------------------------------------------------

/- What an open and untroubled reader gets of what waits. -/
theorem bytes_due
    {reader : Side}
    (hTrouble : trouble reader actions = none)
    (hOpen : ¬HasClosed reader actions)
    (waiting : Bytes)
    (room : Nat) :
    (Endpoint.Result.received
        (due actions reader waiting room)).bytes =
      waiting.take room := by
  unfold due
  simp only [hTrouble]
  rw [if_neg hOpen]
  split
  · rename_i hRoom
    rw [hRoom, List.take_zero]
    rfl
  · split
    · rename_i hNothing
      rw [hNothing, List.take_nil]
      split
      · rfl
      · rfl
    · rfl

/- What a receive hands over is missing from what waits. -/
theorem Kept.unread_receive
    (hKept : Kept base actions deeds d)
    (reader : Side)
    (room : Nat) :
    d.unread reader =
      (Endpoint.Result.received
          (d.receives reader room)).bytes ++
        (d.act ⟨reader, .receive room⟩).unread reader := by
  have hRole := hKept.role reader
  have hNext := (hKept.act ⟨reader, .receive room⟩).role reader
  have hReads :=
    Endpoint.perform_moves_reader hRole
      (pipeOf_ne base (Side.other_ne reader)).symm
      (hKept.pipe reader.other) (.receive room)
  have hBytes := hReads.bytes
  rw [List.append_nil] at hBytes
  unfold unread Endpoint.unread
  rw [hRole, hNext, net_act]
  exact hBytes

/- An open and untroubled reader gets what waits, in order. -/
theorem Kept.read_receives
    (hKept : Kept base actions deeds d)
    {reader : Side}
    (hTrouble : Duplex.trouble reader actions = none)
    (hOpen : ¬HasClosed reader actions)
    (rooms : List Nat) :
    read reader
        (d.history
          (rooms.map (fun room => ⟨reader, .receive room⟩))) =
      (d.unread reader).take rooms.sum := by
  induction rooms generalizing actions deeds d with
  | nil => exact List.take_zero.symm
  | cons room rooms ih =>
      have hUntroubled :
          Duplex.trouble reader
              (actions ++ [⟨reader, .receive room⟩]) =
            none :=
        trouble_of_met (fun _ => List.not_mem_nil) room
      have hStillOpen :
          ¬HasClosed reader
            (actions ++ [⟨reader, .receive room⟩]) := by
        intro hClosed
        rcases List.mem_append.mp hClosed with hBefore | hLast
        · exact hOpen hBefore
        · cases List.mem_singleton.mp hLast
      have hFirst := hKept.unread_receive reader room
      have hHanded :=
        bytes_due hTrouble hOpen (d.unread reader) room
      rw [← hKept.receives_eq] at hHanded
      rw [hHanded] at hFirst
      have hRest :
          (d.act ⟨reader, .receive room⟩).unread reader =
            (d.unread reader).drop room := by
        apply List.append_cancel_left
        apply hFirst.symm.trans
        exact (List.take_append_drop room _).symm
      change
        Deed.read reader ⟨⟨reader, .receive room⟩, _⟩ ++
            read reader _ =
          _
      rw [ih (hKept.act _) hUntroubled hStillOpen, hRest,
        Deed.read, if_pos rfl, List.sum_cons, List.take_add]
      exact congrArg (· ++ _) hHanded

------------------------------------------------------------
-- Faithful Streams
------------------------------------------------------------

/-
  What a duplex is, as a stream from one side to the other,
  after actions from a start on.
-/
structure Faithful
    (start : Duplex)
    (actions : List Action)
    (d : Duplex)
    (side : Side) : Prop where
  /- What was written is what was read and what is available. -/
  carried :
    written side (start.history actions) =
      read side.other (start.history actions) ++
        d.unread side.other
  available :
    (d.endAt side.other).available d.net =
      (d.unread side.other).length
  /- What is left of a window is what was not written. -/
  windowed :
    ∀ before w after,
      actions = before ++ ⟨side, .setWindow (some w)⟩ :: after →
        (∀ window, ⟨side, .setWindow window⟩ ∉ after) →
          ∃ left,
            (d.endAt side).window = some left ∧
              (written side
                    ((start.run
                      (before ++
                        [⟨side, .setWindow (some w)⟩])).history
                      after)).length +
                  left =
                w
  sent :
    ∀ bs,
      d.sends side bs =
        granted actions side (d.endAt side).window bs
  blocked :
    ∀ bs,
      bs ≠ [] →
        (d.sends side bs = .error { kind := .wouldBlock } ↔
          ¬HasClosed side actions ∧
            (d.endAt side).window = some 0)
  received :
    ∀ room,
      d.receives side.other room =
        due actions side.other (d.unread side.other) room
  /- The end is met once all is read, and from then on. -/
  ended :
    ∀ room,
      0 < room →
        d.receives side.other room = .ok [] →
          HasClosed side actions ∧
            read side.other (start.history actions) =
              written side (start.history actions) ∧
            ∀ later,
              ¬HasClosed side.other later →
                Unprovoked side.other later →
                  ∀ room,
                    0 < room →
                      (d.run later).receives side.other room =
                        .ok []
  /- A failure that was asked for is met by one receive. -/
  troubled :
    ∀ before kind after,
      actions =
          before ++
            ⟨side.other, .failNextReceive kind⟩ :: after →
        Unprovoked side.other after →
          (∀ room, ⟨side.other, .receive room⟩ ∉ after) →
            ∀ room,
              d.receives side.other room = .error { kind } ∧
                ∀ later,
                  Unprovoked side.other later →
                    ∀ next failure,
                      (d.run
                          (⟨side.other, .receive room⟩ ::
                            later)).receives side.other next =
                          .error failure →
                        OwnFailure
                          (actions ++
                            ⟨side.other, .receive room⟩ ::
                              later)
                          side.other failure
  unsent :
    ∀ bs failure,
      d.sends side bs = .error failure →
        (d.act ⟨side, .send bs⟩).net = d.net
  unreceived :
    ∀ room failure,
      d.receives side.other room = .error failure →
        (d.act ⟨side.other, .receive room⟩).net = d.net
  /- A side that has closed neither writes nor reads. -/
  closed :
    HasClosed side actions →
      ∀ later,
        (∀ bs,
          (d.run later).sends side bs =
            .error { kind := .notConnected }) ∧
          (∀ room,
            ∃ failure,
              (d.run later).receives side room =
                .error failure) ∧
          written side (d.history later) = [] ∧
          read side (d.history later) = []
  /- The side across from it can still read what waits. -/
  drained :
    ¬HasClosed side.other actions →
      trouble side.other actions = none →
        ∀ rooms : List Nat,
          read side.other
              (d.history
                (rooms.map
                  (fun room =>
                    ⟨side.other, .receive room⟩))) =
            (d.unread side.other).take rooms.sum

/- A new connection has kept account of all that was done. -/
theorem kept_run_opened
    (net : Network)
    (a b : Address)
    (actions : List Action) :
    Kept net.pipes.size actions
      ((opened net a b).history actions)
      ((opened net a b).run actions) :=
  (kept_opened net a b).run actions

theorem HasClosed.append
    {side : Side}
    (hClosed : HasClosed side actions)
    (later : List Action) :
    HasClosed side (actions ++ later) :=
  List.mem_append_left later hClosed

/- Past its end, a stream stays at its end. -/
theorem Kept.ended_run
    (hKept : Kept base actions deeds d)
    {side : Side}
    (hClosed : HasClosed side actions)
    (hAll : d.unread side.other = [])
    (hTrouble : Duplex.trouble side.other actions = none)
    (hOpen : ¬HasClosed side.other actions)
    {later : List Action}
    (hStillOpen : ¬HasClosed side.other later)
    (hNever : Unprovoked side.other later)
    {room : Nat}
    (hRoom : 0 < room) :
    (d.run later).receives side.other room = .ok [] := by
  have hLater := hKept.run later
  have hStill :
      (d.endAt side).closed = true := by
    rw [hKept.closed]
    exact decide_eq_true hClosed
  have hNothing : (d.run later).unread side.other = [] := by
    have hBefore := hKept.bytes side
    have hAfter := hLater.bytes side
    rw [← hKept.unread_other, hAll, List.append_nil] at hBefore
    simp only [written, read, List.flatMap_append] at hAfter
    rw [← hLater.unread_other] at hAfter
    change
      written side deeds ++ written side _ =
        read side.other deeds ++ read side.other _ ++
          _ at hAfter
    rw [(still_of_closed hStill later).1, List.append_nil,
      hBefore, List.append_assoc] at hAfter
    have hEmpty := List.self_eq_append_right.mp hAfter
    exact (List.append_eq_nil_iff.mp hEmpty).2
  rw [hLater.receives_eq, hNothing]
  refine (due_of_open ?_ ?_ hRoom (.inr ?_)).trans ?_
  · rw [trouble_append, hTrouble]
    exact troubleBehind_none hNever
  · intro hBoth
    rcases List.mem_append.mp hBoth with hFirst | hSecond
    · exact hOpen hFirst
    · exact hStillOpen hSecond
  · rw [Side.other_other]
    exact hClosed.append later
  · rw [List.take_nil]

/- Either direction of a new connection is faithful. -/
theorem faithful_opened
    (net : Network)
    (a b : Address)
    (actions : List Action)
    (side : Side) :
    Faithful (opened net a b) actions
      ((opened net a b).run actions) side := by
  have hKept := kept_run_opened net a b actions
  have hCarried := hKept.bytes side
  rw [← hKept.unread_other] at hCarried
  constructor
  case carried => exact hCarried
  case available =>
    exact Endpoint.available_eq_length_unread _ _
  case windowed =>
    rintro before w after rfl hUnset
    exact window_since _ before w hUnset
  case sent => exact hKept.sends_eq side
  case blocked =>
    intro bs hSome
    rw [hKept.sends_eq]
    exact granted_eq_wouldBlock hSome
  case received => exact hKept.receives_eq side.other
  case ended =>
    intro room hRoom hEnd
    rw [hKept.receives_eq] at hEnd
    rcases due_eq_nil hRoom hEnd with
      ⟨hTrouble, hOpen, hNothing, hPeer⟩
    rw [Side.other_other] at hPeer
    rw [hNothing, List.append_nil] at hCarried
    refine ⟨hPeer, hCarried.symm, ?_⟩
    intro later hStillOpen hNever room hRoom
    exact
      hKept.ended_run hPeer hNothing hTrouble hOpen hStillOpen
        hNever hRoom
  case troubled =>
    rintro before kind after rfl hNever hUnmet room
    refine ⟨?_, ?_⟩
    · rw [hKept.receives_eq]
      unfold due
      rw [trouble_of_asked hNever hUnmet]
    · intro later hLater next failure hFails
      have hAfter :=
        hKept.run (⟨side.other, .receive room⟩ :: later)
      rw [hAfter.receives_eq] at hFails
      exact due_eq_error (trouble_of_met hLater room) hFails
  case unsent =>
    intro bs failure hFails
    rw [net_act]
    exact
      Endpoint.world_send_of_error (hKept.role side) hFails
  case unreceived =>
    intro room failure hFails
    rw [net_act]
    exact
      Endpoint.world_receive_of_error (hKept.role side.other)
        hFails
  case closed =>
    intro hClosed later
    have hLater := hKept.run later
    have hStill := hClosed.append later
    refine ⟨?_, ?_, ?_⟩
    · intro bs
      rw [hLater.sends_eq]
      exact if_pos hStill
    · intro room
      rw [hLater.receives_eq]
      exact due_of_closed hStill _ room
    · apply still_of_closed
      rw [hKept.closed]
      exact decide_eq_true hClosed
  case drained =>
    intro hOpen hTrouble rooms
    exact hKept.read_receives hTrouble hOpen rooms

/-
  Four bytes are let through of six, the reader takes two of
  them, and is troubled once before it gets the others; then
  it meets the end.
-/
theorem faithful_hanging_up :
    ∃ start actions,
      actions =
          [⟨.left, .setWindow (some 4)⟩,
            ⟨.left, .send [1, 2, 3]⟩, ⟨.right, .receive 2⟩,
            ⟨.left, .send [4, 5, 6]⟩,
            ⟨.right, .failNextReceive .connectionReset⟩,
            ⟨.left, .close⟩] ∧
        Faithful start actions (start.run actions) .left ∧
        written .left (start.history actions) = [1, 2, 3, 4] ∧
        read .right (start.history actions) = [1, 2] ∧
        (start.run actions).unread .right = [3, 4] ∧
        (start.run actions).receives .right 9 =
          .error { kind := .connectionReset } ∧
        read .right
            ((start.run actions).history
              [⟨.right, .receive 9⟩, ⟨.right, .receive 9⟩]) =
          [3, 4] ∧
        (start.run
            (actions ++
              [⟨.right, .receive 9⟩,
                ⟨.right, .receive 9⟩])).receives .right 9 =
          .ok [] :=
  ⟨opened {} Network.pairAddresses.1 Network.pairAddresses.2,
    _, rfl, faithful_opened {} _ _ _ .left, rfl, rfl, rfl, rfl,
    rfl, rfl⟩

end Duplex

end FrameLink
