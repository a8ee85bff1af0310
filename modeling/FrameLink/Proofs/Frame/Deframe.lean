import FrameLink.Proofs.Frame.PrefixCode

/-
  The reference for receiving: cutting a stream into packets
  with no regard to how it arrives.

  A receiver has a buffer of some capacity.  A frame that
  fits the capacity becomes a packet as soon as all of it is
  there.  A frame that does not fit loses the capacity's
  worth of bytes as soon as so many are there, and whatever
  stands behind them is taken for the next prefix.

  The bytes left undecided sum up the past: the stream goes
  on from them alone (`deframe_append`).  Bytes that fit a
  buffer are cut as a buffer is emptied: first all complete
  frames, then, if the buffer is still full, everything
  (`deframe_of_length_le`).  A stream of whole frames gives
  back the payloads (`deframe_flatMap_bytes`).

  Key definitions include:
    * `Segment`, `Deframed`, `Deframed.spilt`
    * `Frame.deframe`
-/

------------------------------------------------------------
-- Segments
------------------------------------------------------------

namespace FrameLink

/- What a stretch of a stream turns out to be. -/
inductive Segment where
  /- A complete frame with its payload. -/
  | packet (payload : Bytes)
  /- As many bytes as a buffer holds, with no frame. -/
  | overflow
  deriving DecidableEq

namespace Segment

/- The payload of a packet. -/
def payload? : Segment → Option Bytes
  | .packet payload => some payload
  | .overflow => none

@[simp]
theorem payload?_packet (payload : Bytes) :
    (packet payload).payload? = some payload := rfl

@[simp]
theorem payload?_overflow :
    overflow.payload? = none := rfl

@[simp]
theorem filterMap_payload?_map_packet
    (payloads : List Bytes) :
    (payloads.map packet).filterMap payload? =
      payloads := by
  induction payloads with
  | nil => rfl
  | cons payload payloads ih => simp [ih]

theorem overflow_notMem_map_packet
    (payloads : List Bytes) :
    overflow ∉ payloads.map packet := by
  simp

end Segment

/- A stream cut into segments, and the bytes undecided. -/
structure Deframed where
  segments : List Segment
  rest : Bytes
  deriving DecidableEq

namespace Deframed

/- The payloads of the packets, in order. -/
def payloads (d : Deframed) : List Bytes :=
  d.segments.filterMap Segment.payload?

/- How often the buffer has overflowed. -/
def overflows (d : Deframed) : Nat :=
  d.segments.count .overflow

/- Packets, behind which the buffer overflows. -/
def spilt (payloads : List Bytes) : Deframed where
  segments := payloads.map .packet ++ [.overflow]
  rest := []

@[simp]
theorem payloads_spilt (packets : List Bytes) :
    (spilt packets).payloads = packets := by
  rw [payloads, spilt, List.filterMap_append,
    Segment.filterMap_payload?_map_packet]
  exact List.append_nil packets

@[simp]
theorem overflows_spilt (packets : List Bytes) :
    (spilt packets).overflows = 1 := by
  rw [overflows, spilt, List.count_append,
    List.count_eq_zero.mpr
      (Segment.overflow_notMem_map_packet packets)]
  rfl

end Deframed

------------------------------------------------------------
-- Deframing
------------------------------------------------------------

namespace Frame

/-
  Cut a stream as a receiver of a given capacity does.  Where
  a frame does not fit, as many bytes as fit are given up.
-/
def deframe (capacity : Nat) (bs : Bytes) : Deframed :=
  match hPrefix : decodePrefix? bs with
  | none => ⟨[], bs⟩
  | some n =>
      have : prefixSize ≤ bs.length :=
        prefixSize_le_of_decodePrefix? hPrefix
      if n + prefixSize ≤ capacity then
        if n + prefixSize ≤ bs.length then
          let later :=
            deframe capacity (bs.drop (n + prefixSize))
          ⟨.packet ((bs.drop prefixSize).take n) ::
            later.segments, later.rest⟩
        else
          ⟨[], bs⟩
      else if 0 < capacity ∧ capacity ≤ bs.length then
        let later := deframe capacity (bs.drop capacity)
        ⟨.overflow :: later.segments, later.rest⟩
      else
        ⟨[], bs⟩
termination_by bs.length
decreasing_by
  all_goals
    simp only [prefixSize, List.length_drop] at *
    omega

/- Without a whole prefix nothing is decided. -/
theorem deframe_of_decodePrefix?_eq_none
    (capacity : Nat)
    {bs : Bytes}
    (hPrefix : decodePrefix? bs = none) :
    deframe capacity bs = ⟨[], bs⟩ := by
  unfold deframe
  split
  · rfl
  · rename_i n hSome
    rw [hPrefix] at hSome
    cases hSome

/- With a whole prefix, frame and buffer are compared. -/
theorem deframe_of_decodePrefix?_eq_some
    (capacity : Nat)
    {bs : Bytes}
    {n : Nat}
    (hPrefix : decodePrefix? bs = some n) :
    deframe capacity bs =
      if n + prefixSize ≤ capacity then
        if n + prefixSize ≤ bs.length then
          ⟨.packet ((bs.drop prefixSize).take n) ::
              (deframe capacity
                (bs.drop (n + prefixSize))).segments,
            (deframe capacity
              (bs.drop (n + prefixSize))).rest⟩
        else
          ⟨[], bs⟩
      else if 0 < capacity ∧ capacity ≤ bs.length then
        ⟨.overflow ::
            (deframe capacity (bs.drop capacity)).segments,
          (deframe capacity (bs.drop capacity)).rest⟩
      else
        ⟨[], bs⟩ := by
  rw [deframe]
  split
  · rename_i hNone
    rw [hPrefix] at hNone
    cases hNone
  · rename_i k hSome
    obtain rfl : n = k :=
      Option.some.inj (hPrefix.symm.trans hSome)
    rfl

@[simp]
theorem deframe_nil (capacity : Nat) :
    deframe capacity [] = ⟨[], []⟩ :=
  deframe_of_decodePrefix?_eq_none capacity rfl

------------------------------------------------------------
-- Going On
------------------------------------------------------------

/-
  A stream goes on from the bytes left undecided.  The
  induction is on the cuts made in the front; where it stops
  the undecided bytes are all that is left of the front.
-/
theorem deframe_append
    (capacity : Nat)
    (front back : Bytes) :
    deframe capacity (front ++ back) =
      ⟨(deframe capacity front).segments ++
          (deframe capacity
            ((deframe capacity front).rest ++
              back)).segments,
        (deframe capacity
          ((deframe capacity front).rest ++ back)).rest⟩ := by
  fun_induction deframe capacity front with
  | case1 front hPrefix => rfl
  | case2 front n hPrefix hLength hFits hThere later
      ih =>
      have hMore : n + prefixSize ≤ (front ++ back).length := by
        simp only [List.length_append]
        omega
      rw [deframe_of_decodePrefix?_eq_some capacity
          (decodePrefix?_append hPrefix back),
        if_pos hFits, if_pos hMore,
        List.drop_append_of_le_length hThere, ih,
        List.drop_append_of_le_length
          (prefixSize_le_of_decodePrefix? hPrefix),
        List.take_append_of_le_length (by
          simp only [List.length_drop]
          omega)]
      rfl
  | case3 front n hPrefix hLength hFits hThere => rfl
  | case4 front n hPrefix hLength hFits hFull later ih =>
      have hMore :
          0 < capacity ∧
            capacity ≤ (front ++ back).length := by
        simp only [List.length_append]
        omega
      rw [deframe_of_decodePrefix?_eq_some capacity
          (decodePrefix?_append hPrefix back),
        if_neg hFits, if_pos hMore,
        List.drop_append_of_le_length hFull.2, ih]
      rfl
  | case5 front n hPrefix hLength hFits hFull => rfl

/- What is cut from a front stays cut. -/
theorem segments_deframe_prefix
    (capacity : Nat)
    (front back : Bytes) :
    (deframe capacity front).segments <+:
      (deframe capacity (front ++ back)).segments := by
  rw [deframe_append]
  exact List.prefix_append _ _

------------------------------------------------------------
-- Emptying a Buffer
------------------------------------------------------------

/-
  Bytes that fit the buffer yield their complete frames, and
  what is left is given up only where it fills the buffer.
-/
theorem deframe_of_length_le
    {capacity : Nat}
    (hRoom : prefixSize ≤ capacity)
    {bs : Bytes}
    (hLength : bs.length ≤ capacity) :
    deframe capacity bs =
      if capacity ≤ (unframe bs).2.length then
        ⟨(unframe bs).1.map .packet ++ [.overflow], []⟩
      else
        ⟨(unframe bs).1.map .packet, (unframe bs).2⟩ := by
  fun_induction unframe bs with
  | case1 bs hRead =>
      change
        deframe capacity bs =
          if capacity ≤ bs.length then
            ⟨[.overflow], []⟩
          else
            ⟨[], bs⟩
      cases hPrefix : decodePrefix? bs with
      | none =>
          have hShort := decodePrefix?_eq_none_iff.mp hPrefix
          rw [deframe_of_decodePrefix?_eq_none capacity
            hPrefix, if_neg (by omega)]
      | some n =>
          have hMissing : ¬ n + prefixSize ≤ bs.length := by
            intro hThere
            rw [read?_eq_ite hPrefix, if_pos hThere] at hRead
            cases hRead
          have hPositive : 0 < capacity :=
            Nat.lt_of_lt_of_le (by decide) hRoom
          rw [deframe_of_decodePrefix?_eq_some capacity
            hPrefix, if_neg hMissing]
          by_cases hFull : capacity ≤ bs.length
          · rw [if_neg (by omega),
              if_pos ⟨hPositive, hFull⟩, if_pos hFull,
              List.drop_eq_nil_of_le hLength, deframe_nil]
          · have hRoomLeft :
                ¬ (0 < capacity ∧ capacity ≤ bs.length) :=
              fun h => hFull h.2
            rw [if_neg hRoomLeft, if_neg hFull, ite_self]
  | case2 bs payload rest hRead hShorter payloads left
      hLater ih =>
      cases hPrefix : decodePrefix? bs with
      | none =>
          rw [read?_eq_none_of_decodePrefix? hPrefix]
            at hRead
          cases hRead
      | some n =>
          rw [read?_eq_ite hPrefix] at hRead
          split at hRead
          · rename_i hThere
            obtain ⟨rfl, rfl⟩ :=
              Prod.mk.inj (Option.some.inj hRead)
            have hLater' := ih (by omega)
            rw [hLater] at hLater'
            rw [deframe_of_decodePrefix?_eq_some capacity
                hPrefix,
              if_pos (by omega), if_pos hThere, hLater']
            split
            · rfl
            · rfl
          · cases hRead

/- The undecided bytes leave room in the buffer. -/
theorem length_rest_deframe_lt
    {capacity : Nat}
    (hRoom : prefixSize ≤ capacity)
    (bs : Bytes) :
    (deframe capacity bs).rest.length < capacity := by
  simp only [prefixSize] at hRoom
  fun_induction deframe capacity bs with
  | case1 bs hPrefix =>
      have hShort := decodePrefix?_eq_none_iff.mp hPrefix
      change bs.length < capacity
      simp only [prefixSize] at hShort
      omega
  | case2 bs n hPrefix hLength hFits hThere later ih => exact ih
  | case3 bs n hPrefix hLength hFits hThere =>
      change bs.length < capacity
      omega
  | case4 bs n hPrefix hLength hFits hFull later ih => exact ih
  | case5 bs n hPrefix hLength hFits hFull =>
      change bs.length < capacity
      omega

/- No complete frame is among the undecided bytes. -/
theorem completeLength?_rest_deframe
    {capacity : Nat}
    (hRoom : prefixSize ≤ capacity)
    (bs : Bytes) :
    completeLength? (deframe capacity bs).rest = none := by
  simp only [prefixSize] at hRoom
  fun_induction deframe capacity bs with
  | case1 bs hPrefix =>
      change completeLength? bs = none
      rw [completeLength?, hPrefix]
  | case2 bs n hPrefix hLength hFits hThere later ih => exact ih
  | case3 bs n hPrefix hLength hFits hThere =>
      change completeLength? bs = none
      rw [completeLength?_eq_ite hPrefix, if_neg (by omega)]
  | case4 bs n hPrefix hLength hFits hFull later ih => exact ih
  | case5 bs n hPrefix hLength hFits hFull =>
      change completeLength? bs = none
      rw [completeLength?_eq_ite hPrefix, if_neg (by omega)]

/- The payload of a packet leaves room for its prefix. -/
theorem length_le_of_mem_payloads_deframe
    {capacity : Nat}
    {bs payload : Bytes}
    (hPacket : payload ∈ (deframe capacity bs).payloads) :
    payload.length + prefixSize ≤ capacity := by
  unfold Deframed.payloads at hPacket
  fun_induction deframe capacity bs with
  | case1 bs hPrefix => cases hPacket
  | case2 bs n hPrefix hLength hFits hThere later ih =>
      rw [List.filterMap_cons_some (Segment.payload?_packet _),
        List.mem_cons] at hPacket
      rcases hPacket with rfl | hLater
      · have hTaken := List.length_take_le n (bs.drop prefixSize)
        omega
      · exact ih hLater
  | case3 bs n hPrefix hLength hFits hThere => cases hPacket
  | case4 bs n hPrefix hLength hFits hFull later ih =>
      rw [List.filterMap_cons_none Segment.payload?_overflow]
        at hPacket
      exact ih hPacket
  | case5 bs n hPrefix hLength hFits hFull => cases hPacket

------------------------------------------------------------
-- Streams of Frames
------------------------------------------------------------

theorem deframe_bytes
    {capacity : Nat}
    {payload : Bytes}
    (hFits : payload.length + prefixSize ≤ capacity)
    (hLength : payload.length ≤ maxAnnounced)
    (more : Bytes) :
    deframe capacity (bytes payload ++ more) =
      ⟨.packet payload :: (deframe capacity more).segments,
        (deframe capacity more).rest⟩ := by
  rw [deframe_of_decodePrefix?_eq_some capacity
      (decodePrefix?_bytes hLength more),
    if_pos hFits, if_pos (length_bytes_append_le _ _),
    take_drop_bytes, drop_bytes]

/-
  A frame that is one byte larger than the buffer is given
  up, all but its last byte.
-/
theorem deframe_bytes_of_one_over
    {capacity : Nat}
    {payload : Bytes}
    (hRoom : prefixSize ≤ capacity)
    (hOver :
      payload.length + prefixSize = capacity + 1)
    (hLength : payload.length ≤ maxAnnounced) :
    (deframe capacity (bytes payload)).segments =
      [.overflow] := by
  have hAnnounced :=
    decodePrefix?_bytes hLength []
  rw [List.append_nil] at hAnnounced
  have hAll := length_bytes payload
  have hLast :
      decodePrefix?
          ((bytes payload).drop capacity) = none := by
    rw [decodePrefix?_eq_none_iff, List.length_drop,
      hAll]
    simp only [prefixSize] at hRoom hOver ⊢
    omega
  simp only [prefixSize] at hRoom
  rw [deframe_of_decodePrefix?_eq_some capacity
      hAnnounced,
    if_neg (by omega), if_pos (by omega),
    deframe_of_decodePrefix?_eq_none capacity hLast]

/- Whole frames that fit give back their payloads. -/
theorem deframe_flatMap_bytes
    {capacity : Nat}
    {payloads : List Bytes}
    (hFits :
      ∀ payload ∈ payloads,
        payload.length + prefixSize ≤ capacity ∧
          payload.length ≤ maxAnnounced) :
    deframe capacity (payloads.flatMap bytes) =
      ⟨payloads.map .packet, []⟩ := by
  induction payloads with
  | nil => exact deframe_nil capacity
  | cons payload payloads ih =>
      have hHead := hFits payload (by simp)
      have hTail := ih (fun p hp => hFits p (by simp [hp]))
      rw [List.flatMap_cons,
        deframe_bytes hHead.1 hHead.2, hTail]
      rfl

end Frame

end FrameLink
