import FrameLink.Codec
import FrameLink.Proofs.Frame.Deframe

/-
  Decoding a stream in chunks.

  A codec is fed chunk by chunk, and after each chunk it
  decodes until an attempt yields no frame.  What it yields
  in all does not depend on the chunks
  (`Codec.feed_eq_decodeAll`).

  Up to the point where a codec refuses a frame it agrees
  with the reference for receiving.  What the reference makes
  of the rest depends on whether the bytes that are refused
  fill the buffer (`Codec.deframe_of_limit_lt`).

  Key definitions include:
    * `Codec.feed`
-/

------------------------------------------------------------
-- Single Attempts
------------------------------------------------------------

namespace FrameLink

namespace Codec

variable {codec : Codec}

/- Without a whole prefix the codec waits. -/
theorem decode_of_decodePrefix?_eq_none
    {bs : Bytes}
    (hPrefix : Frame.decodePrefix? bs = none) :
    decode codec bs = (.waiting, bs) := by
  unfold decode
  rw [hPrefix]

/- With a whole prefix, limit and length decide. -/
theorem decode_of_decodePrefix?_eq_some
    {bs : Bytes}
    {n : Nat}
    (hPrefix : Frame.decodePrefix? bs = some n) :
    decode codec bs =
      if codec.limit < n then
        (.refused (.messageTooLarge n), bs)
      else if n + Frame.prefixSize ≤ bs.length then
        (.frame ((bs.drop Frame.prefixSize).take n),
          bs.drop (n + Frame.prefixSize))
      else
        (.waiting, bs) := by
  unfold decode
  rw [hPrefix]
  dsimp only
  by_cases hLimit : codec.limit < n
  · rw [if_pos hLimit, if_pos hLimit]
  · rw [if_neg hLimit, if_neg hLimit,
      Frame.read?_eq_ite hPrefix]
    by_cases hThere : n + Frame.prefixSize ≤ bs.length
    · rw [if_pos hThere, if_pos hThere]
    · rw [if_neg hThere, if_neg hThere]

/-
  What one attempt comes to: a frame is cut off, or nothing
  is, and a refusal names the length that is announced.
-/
theorem decode_cases
    (codec : Codec)
    (bs : Bytes) :
    (∃ payload rest,
        decode codec bs = (.frame payload, rest) ∧
          bs = Frame.bytes payload ++ rest ∧
          payload.length ≤ codec.limit ∧
          payload.length ≤ Frame.maxAnnounced) ∨
      decode codec bs = (.waiting, bs) ∨
        ∃ n,
          decode codec bs =
              (.refused (.messageTooLarge n), bs) ∧
            Frame.decodePrefix? bs = some n ∧
            codec.limit < n := by
  cases hPrefix : Frame.decodePrefix? bs with
  | none =>
      exact .inr (.inl
        (decode_of_decodePrefix?_eq_none hPrefix))
  | some n =>
      have hDecode : decode codec bs = _ :=
        decode_of_decodePrefix?_eq_some hPrefix
      by_cases hLimit : codec.limit < n
      · rw [if_pos hLimit] at hDecode
        exact .inr (.inr ⟨n, hDecode, rfl, hLimit⟩)
      · rw [if_neg hLimit] at hDecode
        by_cases hThere : n + Frame.prefixSize ≤ bs.length
        · rw [if_pos hThere] at hDecode
          have hRead := Frame.read?_eq_ite hPrefix
          rw [if_pos hThere] at hRead
          obtain ⟨frame, hFrame, hBytes⟩ :=
            Frame.exists_of_read? hRead
          rw [hFrame.eq_bytes] at hBytes
          have hTaken :=
            List.length_take_le n (bs.drop Frame.prefixSize)
          exact .inl
            ⟨_, _, hDecode, hBytes, by omega,
              hFrame.length_le⟩
        · rw [if_neg hThere] at hDecode
          exact .inr (.inl hDecode)

/- A frame that is allowed is cut off. -/
theorem decode_bytes
    {payload : Bytes}
    (hLimit : payload.length ≤ codec.limit)
    (hAnnounced : payload.length ≤ Frame.maxAnnounced)
    (more : Bytes) :
    decode codec (Frame.bytes payload ++ more) =
      (.frame payload, more) := by
  rw [decode_of_decodePrefix?_eq_some
      (Frame.decodePrefix?_bytes hAnnounced more),
    if_neg (by omega),
    if_pos (Frame.length_bytes_append_le _ _),
    Frame.take_drop_bytes, Frame.drop_bytes]

/- A prefix that is refused is refused whatever follows. -/
theorem decode_of_limit_lt
    {bs : Bytes}
    {n : Nat}
    (hPrefix : Frame.decodePrefix? bs = some n)
    (hLimit : codec.limit < n)
    (more : Bytes) :
    decode codec (bs ++ more) =
      (.refused (.messageTooLarge n), bs ++ more) := by
  rw [decode_of_decodePrefix?_eq_some
      (Frame.decodePrefix?_append hPrefix more),
    if_pos hLimit]

------------------------------------------------------------
-- Whole Strings
------------------------------------------------------------

/- A frame at the front is the first of those decoded. -/
theorem decodeAll_of_frame
    {bs payload rest : Bytes}
    (hDecode : decode codec bs = (.frame payload, rest)) :
    decodeAll codec bs =
      (payload :: (decodeAll codec rest).1,
        (decodeAll codec rest).2) := by
  rw [decodeAll]
  split
  · rename_i payload' rest' hSame
    rw [hDecode] at hSame
    rcases Prod.mk.inj hSame with ⟨hFrame, rfl⟩
    cases hFrame
    rfl
  · rename_i hOther hSame
    rw [hDecode] at hSame
    exact absurd (Prod.mk.inj hSame).1.symm (hOther payload)

/- Without a frame at the front none is decoded. -/
theorem decodeAll_of_ne_frame
    {bs rest : Bytes}
    {last : Decoded}
    (hDecode : decode codec bs = (last, rest))
    (hOther : ∀ payload, last ≠ .frame payload) :
    decodeAll codec bs = ([], last, rest) := by
  rw [decodeAll]
  split
  · rename_i payload rest' hFrame
    rw [hDecode] at hFrame
    exact absurd (Prod.mk.inj hFrame).1 (hOther payload)
  · rename_i hSame
    rw [hDecode] at hSame
    rcases Prod.mk.inj hSame with ⟨rfl, rfl⟩
    rfl

/-
  How a string is decoded: frames are cut off one by one,
  until the codec waits or refuses what is left.
-/
theorem decodeAll_induction
    {motive : Bytes → List Bytes × Decoded × Bytes → Prop}
    (hFrame :
      ∀ payload rest,
        payload.length ≤ codec.limit →
        payload.length ≤ Frame.maxAnnounced →
        motive rest (decodeAll codec rest) →
        motive (Frame.bytes payload ++ rest)
          (payload :: (decodeAll codec rest).1,
            (decodeAll codec rest).2))
    (hWaiting :
      ∀ bs, decode codec bs = (.waiting, bs) →
        motive bs ([], .waiting, bs))
    (hRefused :
      ∀ bs n,
        decode codec bs =
          (.refused (.messageTooLarge n), bs) →
        Frame.decodePrefix? bs = some n →
        codec.limit < n →
        motive bs ([], .refused (.messageTooLarge n), bs))
    (bs : Bytes) :
    motive bs (decodeAll codec bs) := by
  rcases decode_cases codec bs with
    ⟨payload, rest, hDecode, hBytes, hLimit, hAnnounced⟩ |
      hDecode | ⟨n, hDecode, hPrefix, hLimit⟩
  · have hShorter : rest.length < bs.length :=
      length_lt_of_decode hDecode
    rw [decodeAll_of_frame hDecode, hBytes]
    exact hFrame payload rest hLimit hAnnounced
      (decodeAll_induction hFrame hWaiting hRefused rest)
  · rw [decodeAll_of_ne_frame hDecode (by simp)]
    exact hWaiting bs hDecode
  · rw [decodeAll_of_ne_frame hDecode (by simp)]
    exact hRefused bs n hDecode hPrefix hLimit
termination_by bs.length

/- One more attempt repeats the last and changes nothing. -/
theorem decode_left
    (codec : Codec)
    (bs : Bytes) :
    decode codec (decodeAll codec bs).2.2 =
      (decodeAll codec bs).2 := by
  apply decodeAll_induction
    (motive := fun _ d => decode codec d.2.2 = d.2)
  · intro payload rest hLimit hAnnounced hRest
    exact hRest
  · intro bs hDecode
    exact hDecode
  · intro bs n hDecode hPrefix hLimit
    exact hDecode

/- Decoding can go on from what is left. -/
theorem decodeAll_append
    (codec : Codec)
    (front back : Bytes) :
    decodeAll codec (front ++ back) =
      ((decodeAll codec front).1 ++
          (decodeAll codec
            ((decodeAll codec front).2.2 ++ back)).1,
        (decodeAll codec
          ((decodeAll codec front).2.2 ++ back)).2) := by
  apply decodeAll_induction
    (motive := fun front d =>
      decodeAll codec (front ++ back) =
        (d.1 ++ (decodeAll codec (d.2.2 ++ back)).1,
          (decodeAll codec (d.2.2 ++ back)).2))
  · intro payload rest hLimit hAnnounced hRest
    rw [List.append_assoc,
      decodeAll_of_frame
        (decode_bytes hLimit hAnnounced (rest ++ back)),
      hRest]
    rfl
  · intro bs hDecode
    rfl
  · intro bs n hDecode hPrefix hLimit
    rfl

/- Nothing is lost: the frames and what is left remain. -/
theorem flatMap_bytes_append_left
    (codec : Codec)
    (bs : Bytes) :
    (decodeAll codec bs).1.flatMap Frame.bytes ++
        (decodeAll codec bs).2.2 = bs := by
  apply decodeAll_induction
    (motive := fun bs d =>
      d.1.flatMap Frame.bytes ++ d.2.2 = bs)
  · intro payload rest hLimit hAnnounced hRest
    rw [List.flatMap_cons, List.append_assoc, hRest]
  · intro bs hDecode
    rfl
  · intro bs n hDecode hPrefix hLimit
    rfl

/- Behind the frames of what is decoded stands what is left. -/
theorem drop_flatMap_bytes
    (codec : Codec)
    (bs : Bytes) :
    bs.drop
        ((decodeAll codec bs).1.flatMap Frame.bytes).length =
      (decodeAll codec bs).2.2 := by
  have hAll := flatMap_bytes_append_left codec bs
  exact (congrArg (List.drop _) hAll.symm).trans List.drop_left

/-
  In the end the codec waits, or it refuses what is left for
  the length that is announced there.
-/
theorem last_decodeAll
    (codec : Codec)
    (bs : Bytes) :
    (decodeAll codec bs).2.1 = .waiting ∨
      ∃ n,
        (decodeAll codec bs).2.1 =
            .refused (.messageTooLarge n) ∧
          Frame.decodePrefix? (decodeAll codec bs).2.2 =
            some n ∧
          codec.limit < n := by
  apply decodeAll_induction
    (motive := fun _ d =>
      d.2.1 = .waiting ∨
        ∃ n,
          d.2.1 = .refused (.messageTooLarge n) ∧
            Frame.decodePrefix? d.2.2 = some n ∧
            codec.limit < n)
  · intro payload rest hLimit hAnnounced hRest
    exact hRest
  · intro bs hDecode
    exact .inl rfl
  · intro bs n hDecode hPrefix hLimit
    exact .inr ⟨n, rfl, hPrefix, hLimit⟩

------------------------------------------------------------
-- Chunks
------------------------------------------------------------

/- Take one more chunk, and decode all there is. -/
def feedChunk
    (codec : Codec)
    (fed : List Bytes × Decoded × Bytes)
    (chunk : Bytes) : List Bytes × Decoded × Bytes :=
  let (payloads, last) := decodeAll codec (fed.2.2 ++ chunk)
  (fed.1 ++ payloads, last)

/-
  What the codec yields when it is fed chunk by chunk: all
  payloads, the last attempt, and the bytes left.
-/
def feed
    (codec : Codec)
    (chunks : List Bytes) : List Bytes × Decoded × Bytes :=
  chunks.foldl (feedChunk codec) ([], .waiting, [])

/- Chunks yield what their bytes yield at once. -/
theorem feed_eq_decodeAll
    (codec : Codec)
    (chunks : List Bytes) :
    feed codec chunks = decodeAll codec chunks.flatten := by
  have hAfter :
      ∀ seen,
        chunks.foldl (feedChunk codec)
            (decodeAll codec seen) =
          decodeAll codec (seen ++ chunks.flatten) := by
    induction chunks with
    | nil =>
        intro seen
        rw [List.foldl_nil, List.flatten_nil, List.append_nil]
    | cons chunk chunks ih =>
        intro seen
        rw [List.foldl_cons, List.flatten_cons,
          ← List.append_assoc, ← ih, decodeAll_append]
        rfl
  have hEmpty :
      decodeAll codec [] = ([], .waiting, []) :=
    decodeAll_of_ne_frame
      (decode_of_decodePrefix?_eq_none rfl) (by simp)
  rw [feed, ← hEmpty]
  exact hAfter []

------------------------------------------------------------
-- The Reference
------------------------------------------------------------

/- The reference cuts the same frames off, and goes on. -/
theorem deframe_eq_decodeAll
    {capacity : Nat}
    (hCapacity : codec.limit + Frame.prefixSize = capacity)
    (bs : Bytes) :
    Frame.deframe capacity bs =
      ⟨(decodeAll codec bs).1.map .packet ++
          (Frame.deframe capacity
            (decodeAll codec bs).2.2).segments,
        (Frame.deframe capacity
          (decodeAll codec bs).2.2).rest⟩ := by
  apply decodeAll_induction
    (motive := fun bs d =>
      Frame.deframe capacity bs =
        ⟨d.1.map Segment.packet ++
            (Frame.deframe capacity d.2.2).segments,
          (Frame.deframe capacity d.2.2).rest⟩)
  · intro payload rest hLimit hAnnounced hRest
    rw [Frame.deframe_bytes (by omega) hAnnounced, hRest]
    rfl
  · intro bs hDecode
    rfl
  · intro bs n hDecode hPrefix hLimit
    rfl

/- Where the codec waits the reference waits too. -/
theorem deframe_of_waiting
    {capacity : Nat}
    (hCapacity : codec.limit + Frame.prefixSize = capacity)
    {bs : Bytes}
    (hDecode : decode codec bs = (.waiting, bs)) :
    Frame.deframe capacity bs = ⟨[], bs⟩ := by
  cases hPrefix : Frame.decodePrefix? bs with
  | none =>
      exact
        Frame.deframe_of_decodePrefix?_eq_none capacity hPrefix
  | some n =>
      rw [decode_of_decodePrefix?_eq_some hPrefix] at hDecode
      split at hDecode
      · cases hDecode
      · rename_i hLimit
        split at hDecode
        · cases hDecode
        · rename_i hMissing
          rw [Frame.deframe_of_decodePrefix?_eq_some capacity
              hPrefix,
            if_pos (by omega), if_neg hMissing]

/- The reference cuts off what a waiting codec has decoded. -/
theorem deframe_of_last_waiting
    {capacity : Nat}
    (hCapacity : codec.limit + Frame.prefixSize = capacity)
    {bs : Bytes}
    (hWaiting : (decodeAll codec bs).2.1 = .waiting) :
    Frame.deframe capacity bs =
      ⟨(decodeAll codec bs).1.map .packet,
        (decodeAll codec bs).2.2⟩ := by
  have hAgain :
      decode codec (decodeAll codec bs).2.2 =
        (.waiting, (decodeAll codec bs).2.2) :=
    (decode_left codec bs).trans (Prod.ext hWaiting rfl)
  rw [deframe_eq_decodeAll hCapacity,
    deframe_of_waiting hCapacity hAgain, List.append_nil]

/-
  Where the codec refuses, the reference gives up a buffer
  full of bytes as soon as they are there.
-/
theorem deframe_of_limit_lt
    {capacity : Nat}
    (hCapacity : codec.limit + Frame.prefixSize = capacity)
    {bs : Bytes}
    {n : Nat}
    (hPrefix : Frame.decodePrefix? bs = some n)
    (hLimit : codec.limit < n) :
    Frame.deframe capacity bs =
      if capacity ≤ bs.length then
        ⟨.overflow ::
            (Frame.deframe capacity
              (bs.drop capacity)).segments,
          (Frame.deframe capacity (bs.drop capacity)).rest⟩
      else
        ⟨[], bs⟩ := by
  have hPositive : 0 < capacity := by
    rw [← hCapacity, Frame.prefixSize]
    omega
  rw [Frame.deframe_of_decodePrefix?_eq_some capacity hPrefix,
    if_neg (by omega)]
  by_cases hFull : capacity ≤ bs.length
  · rw [if_pos ⟨hPositive, hFull⟩, if_pos hFull]
  · rw [if_neg (fun h => hFull h.2), if_neg hFull]

/-
  Where the codec has refused, the reference counts overflows
  exactly if what is left fills a buffer.
-/
theorem overflows_deframe_pos_iff
    {capacity : Nat}
    (hCapacity : codec.limit + Frame.prefixSize = capacity)
    {bs : Bytes}
    {n : Nat}
    (hPrefix :
      Frame.decodePrefix? (decodeAll codec bs).2.2 = some n)
    (hLimit : codec.limit < n) :
    0 < (Frame.deframe capacity bs).overflows ↔
      capacity ≤ (decodeAll codec bs).2.2.length := by
  rw [deframe_eq_decodeAll hCapacity, Deframed.overflows,
    List.count_append,
    List.count_eq_zero.mpr
      (Segment.overflow_notMem_map_packet _),
    Nat.zero_add,
    deframe_of_limit_lt hCapacity hPrefix hLimit]
  split
  · rename_i hFull
    rw [List.count_cons_self]
    constructor
    · intro _
      exact hFull
    · intro _
      exact Nat.succ_pos _
  · rename_i hRoomLeft
    constructor
    · intro hSome
      exact absurd hSome (Nat.lt_irrefl 0)
    · intro hFull
      exact absurd hFull hRoomLeft

end Codec

end FrameLink
