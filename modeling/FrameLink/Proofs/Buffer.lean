import FrameLink.Buffer

/-
  A buffer is a queue of bytes with bounded room.

  Bytes are appended all or not at all, are dropped from the
  front, or come in through the free tail: it is lent out to
  be written anywhere, and then so many of its first bytes
  count as filled.  A queue does the same with a list of
  bytes.  It is told which bytes of the lent tail count, and
  that is all it learns of the arena.

  Whatever is done, the filled bytes of a buffer are those of
  the queue (`Buffer.refines_queue`).  So what earlier bytes
  have left in the arena is seen again only where it is
  counted as a part of the lent tail.

  Key definitions include:
    * `Buffer.Operation`, `Buffer.perform`, `Buffer.run`
    * `Buffer.lent`, `Buffer.told`
    * `Queue.Operation`, `Queue.step`, `Queue.run`
    * `Buffer.Operation.Overwrites`
-/

------------------------------------------------------------
-- The Free Tail
------------------------------------------------------------

namespace FrameLink

namespace Buffer

/- The free tail is what stands behind the filled bytes. -/
theorem freeTail_eq_drop (b : Buffer) :
    b.freeTail = b.cells.drop b.size := by
  simp only [freeTail, cells, ByteArray.data_extract,
    Array.toList_extract, List.extract_eq_take_drop]
  apply List.take_of_length_le
  apply Nat.le_of_eq
  rw [List.length_drop, Array.length_toList,
    ByteArray.size_data]

@[simp]
theorem length_freeTail (b : Buffer) :
    b.freeTail.length = b.remaining := by
  rw [freeTail_eq_drop, List.length_drop, cells,
    Array.length_toList, ByteArray.size_data]
  rfl

/- A write replaces cells behind the filled ones. -/
theorem cells_put (b : Buffer) (bs : Bytes) :
    (b.put bs).cells =
      b.filled ++
        (bs.take b.remaining ++ b.freeTail.drop bs.length) := by
  have hSize := b.size_le
  have hBehind :
      b.freeTail.drop bs.length =
        b.freeTail.drop (min b.remaining bs.length) := by
    by_cases hFits : bs.length ≤ b.remaining
    · rw [Nat.min_eq_right hFits]
    · have hOver : b.remaining ≤ bs.length := by omega
      rw [Nat.min_eq_left hOver, List.drop_of_length_le,
        List.drop_of_length_le]
      · exact Nat.le_of_eq b.length_freeTail
      · rw [length_freeTail]
        exact hOver
  rw [hBehind, freeTail_eq_drop, List.drop_drop, filled]
  simp only [put, cells, ByteArray.data_append,
    ByteArray.data_extract, Array.toList_append,
    Array.toList_extract, List.extract_eq_take_drop,
    List.size_toByteArray, List.length_take,
    List.data_toByteArray, List.append_assoc]
  congr 2
  apply List.take_of_length_le
  apply Nat.le_of_eq
  rw [List.length_drop, Array.length_toList,
    ByteArray.size_data]

@[simp]
theorem filled_put (b : Buffer) (bs : Bytes) :
    (b.put bs).filled = b.filled := by
  rw [filled_eq_take, cells_put]
  exact List.take_left' b.length_filled

theorem freeTail_put (b : Buffer) (bs : Bytes) :
    (b.put bs).freeTail =
      bs.take b.remaining ++ b.freeTail.drop bs.length := by
  rw [freeTail_eq_drop, cells_put]
  exact List.drop_left' b.length_filled

/- Counting takes in the front of the free tail. -/
theorem filled_advance (b : Buffer) (n : Nat) :
    (b.advance n).filled = b.filled ++ b.freeTail.take n := by
  have hCells : (b.advance n).cells = b.cells := rfl
  have hMost :
      b.cells.take (b.size + n) =
        b.cells.take (min (b.size + n) b.arena.size) := by
    rw [List.take_eq_take_iff, cells, Array.length_toList,
      ByteArray.size_data, Nat.min_assoc, Nat.min_self]
  rw [filled_eq_take, hCells, advance, ← hMost,
    List.take_add, filled_eq_take, freeTail_eq_drop]

/- An append gives a longer queue or leaves the buffer. -/
theorem append_eq_ite (b : Buffer) (bs : Bytes) :
    b.append bs =
      if bs.length ≤ b.remaining then b.fill bs else b := by
  unfold append append?
  split
  · rfl
  · rfl

------------------------------------------------------------
-- Operations
------------------------------------------------------------

/- Something that is done with a buffer. -/
inductive Operation where
  /- Put bytes behind the filled ones, or none of them. -/
  | append (bs : Bytes)
  /- Drop so many bytes from the front. -/
  | consume (n : Nat)
  /-
    Lend the free tail to a writer, who puts other bytes into
    its place, and count so many of its first bytes as filled.
  -/
  | lend (write : Bytes → Bytes) (n : Nat)
  /- Read the free tail. -/
  | look
  | clear

/- Do one thing with a buffer. -/
def perform (b : Buffer) : Operation → Buffer
  | .append bs => b.append bs
  | .consume n => b.consume n
  | .lend write n => (b.put (write b.freeTail)).advance n
  | .look => b
  | .clear => b.clear

/- What an append answers: whether the bytes were taken. -/
def answer (b : Buffer) : Operation → Option Bool
  | .append bs => some (b.append? bs).isSome
  | _ => none

/- Do one thing after the other. -/
def run (b : Buffer) (operations : List Operation) : Buffer :=
  operations.foldl perform b

/- The answers to all appends of a run. -/
def answers (b : Buffer) : List Operation → List Bool
  | [] => []
  | operation :: operations =>
      (b.answer operation).toList ++
        answers (b.perform operation) operations

end Buffer

------------------------------------------------------------
-- Queues
------------------------------------------------------------

namespace Queue

/- Something that is done with a queue of bytes. -/
inductive Operation where
  | append (bs : Bytes)
  | drop (n : Nat)
  /- Take in bytes that were written to the lent tail. -/
  | take (bs : Bytes)
  | look
  | clear
  deriving DecidableEq

/- Do one thing with a queue of bounded room. -/
def step (capacity : Nat) (q : Bytes) : Operation → Bytes
  | .append bs =>
      if q.length + bs.length ≤ capacity then q ++ bs else q
  | .drop n => q.drop (min n q.length)
  | .take bs => q ++ bs
  | .look => q
  | .clear => []

/- What an append answers: whether there was room. -/
def answer (capacity : Nat) (q : Bytes) :
    Operation → Option Bool
  | .append bs => some (q.length + bs.length ≤ capacity)
  | _ => none

/- Do one thing after the other. -/
def run
    (capacity : Nat)
    (q : Bytes)
    (operations : List Operation) : Bytes :=
  operations.foldl (step capacity) q

/- The answers to all appends of a run. -/
def answers (capacity : Nat) (q : Bytes) :
    List Operation → List Bool
  | [] => []
  | operation :: operations =>
      (answer capacity q operation).toList ++
        answers capacity (step capacity q operation) operations

end Queue

------------------------------------------------------------
-- Buffers as Queues
------------------------------------------------------------

namespace Buffer

/-
  What a lent tail holds when it comes back.  A writer cannot
  make it longer, and where nothing is written it stays.
-/
def lent (write : Bytes → Bytes) (tail : Bytes) : Bytes :=
  (write tail).take tail.length ++
    tail.drop (write tail).length

/-
  What a queue is told of an operation: all there is to it,
  and of a lent tail just the bytes that are counted.
-/
def tell (b : Buffer) : Operation → Queue.Operation
  | .append bs => .append bs
  | .consume n => .drop n
  | .lend write n => .take ((lent write b.freeTail).take n)
  | .look => .look
  | .clear => .clear

/- What a queue is told of a run. -/
def told (b : Buffer) : List Operation → List Queue.Operation
  | [] => []
  | operation :: operations =>
      b.tell operation :: told (b.perform operation) operations

/- An operation keeps the capacity. -/
@[simp]
theorem capacity_perform (b : Buffer) (operation : Operation) :
    (b.perform operation).capacity = b.capacity := by
  cases operation with
  | append bs =>
      rw [perform, append_eq_ite]
      split
      · exact b.capacity_fill bs
      · rfl
  | consume n => exact b.capacity_consume n
  | lend write n => exact b.capacity_put (write b.freeTail)
  | look => rfl
  | clear => rfl

/- Bytes fit a buffer exactly when they fit the queue. -/
theorem length_le_remaining_iff (b : Buffer) (bs : Bytes) :
    bs.length ≤ b.remaining ↔
      b.filled.length + bs.length ≤ b.capacity := by
  have hAll := b.size_add_remaining
  rw [length_filled]
  omega

/- One operation does to the queue what the queue does. -/
theorem filled_perform (b : Buffer) (operation : Operation) :
    (b.perform operation).filled =
      Queue.step b.capacity b.filled (b.tell operation) := by
  cases operation with
  | append bs =>
      rw [perform, append_eq_ite, tell, Queue.step]
      by_cases hFits : bs.length ≤ b.remaining
      · rw [if_pos hFits, filled_fill,
          List.take_of_length_le hFits,
          if_pos ((b.length_le_remaining_iff bs).mp hFits)]
      · rw [if_neg hFits, if_neg]
        exact fun hRoom =>
          hFits ((b.length_le_remaining_iff bs).mpr hRoom)
  | consume n =>
      rw [perform, filled_consume, tell, Queue.step,
        List.drop_eq_drop_min]
  | lend write n =>
      rw [perform, filled_advance, filled_put, freeTail_put,
        ← length_freeTail]
      rfl
  | look => rfl
  | clear => exact b.filled_clear

theorem answer_eq (b : Buffer) (operation : Operation) :
    b.answer operation =
      Queue.answer b.capacity b.filled (b.tell operation) := by
  cases operation with
  | append bs =>
      rw [answer, tell, Queue.answer, append?]
      by_cases hFits : bs.length ≤ b.remaining
      · rw [if_pos hFits, Option.isSome_some,
          decide_eq_true
            ((b.length_le_remaining_iff bs).mp hFits)]
      · rw [if_neg hFits, Option.isSome_none,
          decide_eq_false (fun hRoom =>
            hFits ((b.length_le_remaining_iff bs).mpr hRoom))]
  | consume n => rfl
  | lend write n => rfl
  | look => rfl
  | clear => rfl

@[simp]
theorem capacity_run
    (b : Buffer)
    (operations : List Operation) :
    (b.run operations).capacity = b.capacity := by
  induction operations generalizing b with
  | nil => rfl
  | cons operation operations ih =>
      exact (ih _).trans (b.capacity_perform operation)

/- A run does to the queue what the queue does. -/
theorem filled_run
    (b : Buffer)
    (operations : List Operation) :
    (b.run operations).filled =
      Queue.run b.capacity b.filled (b.told operations) := by
  induction operations generalizing b with
  | nil => rfl
  | cons operation operations ih =>
      have hRest := ih (b.perform operation)
      rw [capacity_perform, filled_perform] at hRest
      exact hRest

/- A run over a buffer gets the answers of the queue. -/
theorem answers_eq (b : Buffer) (operations : List Operation) :
    b.answers operations =
      Queue.answers b.capacity b.filled
        (b.told operations) := by
  induction operations generalizing b with
  | nil => rfl
  | cons operation operations ih =>
      rw [answers, told, Queue.answers, answer_eq, ih,
        capacity_perform, filled_perform]

------------------------------------------------------------
-- What Is Left Over
------------------------------------------------------------

/-
  The bytes that are counted do not depend on what the tail
  held before.
-/
def Operation.Overwrites : Operation → Prop
  | .lend write n =>
      ∀ tail other : Bytes,
        tail.length = other.length →
          (lent write tail).take n = (lent write other).take n
  | _ => True

/- What is counted of a long enough write was written. -/
theorem take_lent
    {bs : Bytes}
    {n : Nat}
    (hCounted : n ≤ bs.length)
    (tail : Bytes) :
    (lent (fun _ => bs) tail).take n =
      bs.take (min n tail.length) := by
  unfold lent
  by_cases hFits : bs.length ≤ tail.length
  · rw [List.take_of_length_le hFits,
      List.take_append_of_le_length hCounted,
      Nat.min_eq_left (Nat.le_trans hCounted hFits)]
  · have hOver : tail.length ≤ bs.length :=
      Nat.le_of_not_le hFits
    rw [List.drop_of_length_le hOver, List.append_nil,
      List.take_take]

theorem overwrites_of_le
    {bs : Bytes}
    {n : Nat}
    (hCounted : n ≤ bs.length) :
    (Operation.lend (fun _ => bs) n).Overwrites := by
  intro tail other hLength
  rw [take_lent hCounted, take_lent hCounted, hLength]

/-
  Buffers that differ in what is left over tell a queue the
  same, as long as what is counted has been overwritten.
-/
theorem told_congr
    {b c : Buffer}
    (hCapacity : c.capacity = b.capacity)
    (hFilled : c.filled = b.filled)
    {operations : List Operation}
    (hOverwrites : ∀ op ∈ operations, op.Overwrites) :
    c.told operations = b.told operations := by
  induction operations generalizing b c with
  | nil => rfl
  | cons operation operations ih =>
      have hTell : c.tell operation = b.tell operation := by
        cases operation with
        | lend write n =>
            have hLength :
                c.freeTail.length = b.freeTail.length := by
              have hSize := congrArg List.length hFilled
              rw [length_filled, length_filled] at hSize
              rw [length_freeTail, length_freeTail, remaining,
                remaining, hCapacity, hSize]
            exact
              congrArg Queue.Operation.take
                (hOverwrites _ List.mem_cons_self _ _ hLength)
        | _ => rfl
      have hNext :
          (c.perform operation).filled =
            (b.perform operation).filled := by
        rw [filled_perform, filled_perform, hTell, hCapacity,
          hFilled]
      rw [told, told, hTell,
        ih (by simp only [capacity_perform, hCapacity]) hNext
          (fun op hMember =>
            hOverwrites op (List.mem_cons_of_mem _ hMember))]

------------------------------------------------------------
-- Refinement
------------------------------------------------------------

/-
  A new buffer is a queue of bounded room through every run.
  Of a lent tail the queue takes in the bytes written, if no
  more are counted.  Another buffer of this room and with
  these filled bytes, whatever else its arena holds, goes on
  as the same queue where the same bytes are counted, and
  these are the same where they have been overwritten.
-/
theorem refines_queue
    (capacity : Nat)
    (operations : List Operation) :
    let made := ofCapacity capacity
    let b := made.run operations
    let q := Queue.run capacity [] (made.told operations)
    (b.filled = q ∧
        made.answers operations =
          Queue.answers capacity [] (made.told operations)) ∧
      (b.capacity = capacity ∧
        b.size + b.remaining = capacity ∧
        b.size ≤ capacity ∧
        b.freeTail.length = capacity - q.length) ∧
      ((b.isFull = true ↔ q.length = capacity) ∧
        (b.isEmpty = true ↔ q = [])) ∧
      (∀ (bs : Bytes) (n : Nat),
        n ≤ bs.length →
          n ≤ b.remaining →
            b.tell (.lend (fun _ => bs) n) =
              .take (bs.take n)) ∧
      ∀ (c : Buffer) (later : List Operation),
        c.capacity = capacity →
          c.filled = b.filled →
            (c.told later = b.told later →
                c.answers later = b.answers later ∧
                  (c.run later).filled =
                    (b.run later).filled) ∧
              ((∀ op ∈ later, op.Overwrites) →
                c.told later = b.told later) := by
  intro made b q
  have hCapacity : b.capacity = capacity := by
    rw [capacity_run, capacity_ofCapacity]
  have hFilled : b.filled = q := by
    rw [filled_run, capacity_ofCapacity, filled_ofCapacity]
  have hSize : b.size = q.length := by
    rw [← hFilled, length_filled]
  have hAll := b.size_add_remaining
  rw [hCapacity] at hAll
  refine ⟨⟨hFilled, ?_⟩, ⟨hCapacity, hAll, ?_, ?_⟩,
    ⟨?_, ?_⟩, ?_, ?_⟩
  · rw [answers_eq, capacity_ofCapacity, filled_ofCapacity]
  · omega
  · rw [length_freeTail]
    omega
  · rw [isFull, decide_eq_true_iff, hCapacity, hSize]
    omega
  · rw [isEmpty, beq_iff_eq, hSize, List.length_eq_zero_iff]
  · intro bs n hCounted hRoom
    rw [tell, take_lent hCounted, length_freeTail,
      Nat.min_eq_left hRoom]
  · intro c later hSame hHeld
    refine ⟨?_, told_congr (hSame.trans hCapacity.symm) hHeld⟩
    intro hTold
    constructor
    · rw [c.answers_eq, b.answers_eq, hTold, hSame, hCapacity,
        hHeld]
    · rw [c.filled_run, b.filled_run, hTold, hSame, hCapacity,
        hHeld]

/-
  Three bytes are dropped from a full buffer and stay behind
  in its arena.  A new buffer with the same byte left has
  zeros there; written over, both hold the same.
-/
theorem refines_queue_stale :
    let b :=
      (ofCapacity 4).run [.append [1, 2, 3, 4], .consume 3]
    let c := (ofCapacity 4).run [.append [4]]
    b.freeTail = [2, 3, 4] ∧
      c.freeTail = [0, 0, 0] ∧
      c.filled = b.filled ∧
      (c.run [.lend (fun _ => [7, 8]) 2, .look]).filled =
        (b.run [.lend (fun _ => [7, 8]) 2, .look]).filled ∧
      (b.run [.lend (fun _ => [7]) 2]).filled = [4, 7, 3] := by
  intro b c
  have hHeld : c.filled = b.filled := by decide +kernel
  have hOverwrites :
      ∀ op ∈ [Operation.lend (fun _ => [7, 8]) 2, .look],
        op.Overwrites := by
    simp only [List.forall_mem_cons, List.not_mem_nil,
      false_implies, implies_true, and_true]
    exact ⟨overwrites_of_le (Nat.le_refl 2), trivial⟩
  have hSame :=
    (refines_queue 4
      [.append [1, 2, 3, 4], .consume 3]).2.2.2.2 c
      [.lend (fun _ => [7, 8]) 2, .look] rfl hHeld
  refine ⟨?_, ?_, hHeld, (hSame.1 (hSame.2 hOverwrites)).2, ?_⟩
  · decide +kernel
  · decide +kernel
  · decide +kernel

end Buffer

end FrameLink
