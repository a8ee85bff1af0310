import FrameLink.Bytes

/-
  Byte buffers of fixed capacity.

  A buffer is an arena of bytes with a count of how many of
  them, from the start on, are filled.  Taking bytes from the
  front moves the others to the start of the arena, so what
  is filled always starts there.  Behind the filled bytes the
  arena keeps whatever was last written to it.

  `Buffer.filled` is the view of a buffer as a queue of
  bytes, and each operation has a lemma that says what it
  does to that view.

  Key definitions include:
    * `Buffer`, `Buffer.ofCapacity`
    * `Buffer.filled`, `Buffer.freeTail`
    * `Buffer.put`, `Buffer.advance`, `Buffer.fill`
    * `Buffer.append?`, `Buffer.append`
    * `Buffer.consume`, `Buffer.clear`
-/

------------------------------------------------------------
-- Buffers
------------------------------------------------------------

namespace FrameLink

/- An arena of bytes, filled from its start up to `size`. -/
structure Buffer where
  arena : ByteArray
  size : Nat
  size_le : size ≤ arena.size

namespace Buffer

/- An empty buffer whose arena holds zeros. -/
def ofCapacity (n : Nat) : Buffer where
  arena := ⟨Array.replicate n 0⟩
  size := 0
  size_le := Nat.zero_le _

/- How many bytes the buffer can hold. -/
def capacity (b : Buffer) : Nat :=
  b.arena.size

/- How many more bytes the buffer can hold. -/
def remaining (b : Buffer) : Nat :=
  b.capacity - b.size

/- Nothing is filled. -/
def isEmpty (b : Buffer) : Bool :=
  b.size == 0

/- Everything is filled. -/
def isFull (b : Buffer) : Bool :=
  b.capacity ≤ b.size

/- All bytes of the arena. -/
def cells (b : Buffer) : Bytes :=
  b.arena.data.toList

/- The filled bytes, oldest first. -/
def filled (b : Buffer) : Bytes :=
  (b.arena.extract 0 b.size).data.toList

/- The bytes of the arena behind the filled ones. -/
def freeTail (b : Buffer) : Bytes :=
  (b.arena.extract b.size b.arena.size).data.toList

/- A buffer as it shows itself. -/
def describe (b : Buffer) : String :=
  s!"FixedBuffer \x7b len: {b.size}, " ++
    s!"capacity: {b.capacity} \x7d"

------------------------------------------------------------
-- Filling
------------------------------------------------------------

/-
  Write into the start of the free tail, without filling it.
  Bytes that do not fit are left out.
-/
def put (b : Buffer) (bs : Bytes) : Buffer :=
  let new := (bs.take b.remaining).toByteArray
  { arena :=
      b.arena.extract 0 b.size ++ new ++
        b.arena.extract (b.size + new.size) b.arena.size
    size := b.size
    size_le := by
      have := b.size_le
      simp only [ByteArray.size_append,
        ByteArray.size_extract]
      omega }

/- Count the next `n` bytes of the free tail as filled. -/
def advance (b : Buffer) (n : Nat) : Buffer :=
  { b with
    size := min (b.size + n) b.arena.size
    size_le := Nat.min_le_right _ _ }

/- Write into the free tail and fill what was written. -/
def fill (b : Buffer) (bs : Bytes) : Buffer :=
  (b.put bs).advance (min bs.length b.remaining)

/- Put bytes behind the filled ones, if all of them fit. -/
def append? (b : Buffer) (bs : Bytes) : Option Buffer :=
  if bs.length ≤ b.remaining then
    some (b.fill bs)
  else
    none

/- Put bytes behind the filled ones, or none of them. -/
def append (b : Buffer) (bs : Bytes) : Buffer :=
  (b.append? bs).getD b

------------------------------------------------------------
-- Taking
------------------------------------------------------------

/-
  Drop `n` bytes from the front, or all if there are fewer.
  The other filled bytes are copied to the start of the
  arena, and nothing else in it changes.
-/
def consume (b : Buffer) (n : Nat) : Buffer :=
  let k := min n b.size
  { arena :=
      b.arena.extract k b.size ++
        b.arena.extract (b.size - k) b.arena.size
    size := b.size - k
    size_le := by
      have := b.size_le
      simp only [ByteArray.size_append,
        ByteArray.size_extract]
      omega }

/- Forget all filled bytes. -/
def clear (b : Buffer) : Buffer :=
  { b with
    size := 0
    size_le := Nat.zero_le _ }

------------------------------------------------------------
-- The View as a Queue
------------------------------------------------------------

theorem filled_eq_take (b : Buffer) :
    b.filled = b.cells.take b.size := by
  simp [filled, cells]

@[simp]
theorem length_filled (b : Buffer) :
    b.filled.length = b.size := by
  have := b.size_le
  simp only [filled, Array.length_toList,
    ByteArray.size_data, ByteArray.size_extract]
  omega

/- Filled bytes and room make up the capacity. -/
theorem size_add_remaining (b : Buffer) :
    b.size + b.remaining = b.capacity := by
  have := b.size_le
  simp only [remaining, capacity]
  omega

@[simp]
theorem filled_ofCapacity (n : Nat) :
    (ofCapacity n).filled = [] := by
  simp [filled_eq_take, ofCapacity]

@[simp]
theorem capacity_ofCapacity (n : Nat) :
    (ofCapacity n).capacity = n := by
  simp [capacity, ofCapacity, ByteArray.size]

@[simp]
theorem capacity_put (b : Buffer) (bs : Bytes) :
    (b.put bs).capacity = b.capacity := by
  have := b.size_le
  simp only [put, capacity, remaining,
    ByteArray.size_append, ByteArray.size_extract,
    List.size_toByteArray, List.length_take]
  omega

@[simp]
theorem capacity_advance (b : Buffer) (n : Nat) :
    (b.advance n).capacity = b.capacity := rfl

@[simp]
theorem capacity_fill (b : Buffer) (bs : Bytes) :
    (b.fill bs).capacity = b.capacity := by
  simp [fill]

@[simp]
theorem capacity_consume (b : Buffer) (n : Nat) :
    (b.consume n).capacity = b.capacity := by
  have := b.size_le
  simp only [consume, capacity, ByteArray.size_append,
    ByteArray.size_extract]
  omega

@[simp]
theorem capacity_clear (b : Buffer) :
    b.clear.capacity = b.capacity := rfl

/- Filling appends what fits. -/
theorem filled_fill (b : Buffer) (bs : Bytes) :
    (b.fill bs).filled =
      b.filled ++ bs.take b.remaining := by
  have hSize := b.size_le
  rw [filled_eq_take, filled_eq_take]
  simp only [fill, put, advance, cells, remaining, capacity,
    ByteArray.size_append, ByteArray.size_extract,
    List.size_toByteArray, List.length_take,
    ByteArray.data_append, ByteArray.data_extract,
    List.data_toByteArray, Array.toList_append,
    Array.toList_extract, List.extract_eq_take_drop]
  rw [List.drop_zero, Nat.sub_zero,
    List.take_append_of_le_length]
  · apply List.take_of_length_le
    simp only [List.length_append, List.length_take,
      Array.length_toList, ByteArray.size_data]
    omega
  · simp only [List.length_append, List.length_take,
      Array.length_toList, ByteArray.size_data]
    omega

/- Appending succeeds exactly when the bytes fit. -/
theorem append?_eq_some_iff
    {b c : Buffer} {bs : Bytes} :
    b.append? bs = some c ↔
      bs.length ≤ b.remaining ∧ b.fill bs = c := by
  by_cases h : bs.length ≤ b.remaining
  · simp [append?, h]
  · simp [append?, h]

theorem filled_append?
    {b c : Buffer} {bs : Bytes}
    (h : b.append? bs = some c) :
    c.filled = b.filled ++ bs := by
  obtain ⟨hRoom, rfl⟩ := append?_eq_some_iff.mp h
  rw [filled_fill, List.take_of_length_le hRoom]

/- Consuming drops from the front. -/
@[simp]
theorem filled_consume (b : Buffer) (n : Nat) :
    (b.consume n).filled = b.filled.drop n := by
  have hSize := b.size_le
  rw [filled_eq_take, filled_eq_take]
  simp only [consume, cells, ByteArray.data_append,
    ByteArray.data_extract, Array.toList_append,
    Array.toList_extract, List.extract_eq_take_drop]
  rw [List.take_append_of_le_length]
  · rw [List.drop_take, List.take_of_length_le]
    · by_cases h : n ≤ b.size
      · rw [Nat.min_eq_left h]
      · have hMin : min n b.size = b.size := by omega
        have hZero : b.size - n = 0 := by omega
        rw [hMin, hZero, Nat.sub_self, List.take_zero,
          List.take_zero]
    · simp only [List.length_take, List.length_drop,
        Array.length_toList, ByteArray.size_data]
      omega
  · simp only [List.length_take, List.length_drop,
      Array.length_toList, ByteArray.size_data]
    omega

@[simp]
theorem filled_clear (b : Buffer) :
    b.clear.filled = [] := by
  simp [filled_eq_take, clear]

end Buffer

end FrameLink
