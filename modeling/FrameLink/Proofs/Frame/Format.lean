import FrameLink.Frame

/-
  Facts of the frame format.

  The length that a prefix announces does not depend on what
  follows the prefix, and the two bytes of a prefix can be
  told from the length that they announce.  Taking a frame
  off the front either fails, where there are fewer bytes
  than the prefix announces, or cuts them off exactly.

  Main statements:
    * `Bytes.split?_eq_ite`
    * `Frame.decodePrefix?_bytes`
    * `Frame.take_prefixSize_eq`
    * `Frame.read?_eq_ite`
    * `Frame.completeLength?_eq_ite`
-/

------------------------------------------------------------
-- Cuts
------------------------------------------------------------

namespace FrameLink

namespace Bytes

/- A cut is a `take` and a `drop` where it can be made. -/
theorem split?_eq_ite
    (n : Nat)
    (bs : Bytes) :
    split? n bs =
      if n ≤ bs.length then
        some (bs.take n, bs.drop n)
      else
        none := by
  by_cases hEnough : n ≤ bs.length
  · rw [if_pos hEnough, split?_eq_some_iff]
    refine ⟨(List.take_append_drop n bs).symm, ?_⟩
    simp [hEnough]
  · rw [if_neg hEnough, split?_eq_none_iff]
    omega

end Bytes

------------------------------------------------------------
-- Prefixes
------------------------------------------------------------

namespace Frame

@[simp]
theorem length_prefixBytes (n : Nat) :
    (prefixBytes n).length = prefixSize := rfl

@[simp]
theorem length_bytes (payload : Bytes) :
    (bytes payload).length =
      prefixSize + payload.length := by
  simp [bytes]

theorem maxPayload_le_maxAnnounced :
    maxPayload ≤ maxAnnounced := by
  decide

/- The room for one frame grows with the limit, to a point. -/
theorem capacity_eq (limit : Nat) :
    capacity limit = min limit maxPayload + prefixSize := by
  unfold capacity maxFrame
  split
  · omega
  · omega

/- A prefix is made exactly for a payload that is allowed. -/
theorem encodePrefix_eq_ok_iff
    {length limit : Nat}
    {front : Bytes} :
    encodePrefix length limit = .ok front ↔
      length ≤ limit ∧ length ≤ maxAnnounced ∧
        prefixBytes length = front := by
  unfold encodePrefix
  split
  · rename_i hTooLarge
    simp only [reduceCtorEq, false_iff]
    omega
  · rename_i hAllowed
    simp only [Except.ok.injEq]
    constructor
    · intro hFront
      exact ⟨by omega, by omega, hFront⟩
    · intro hAll
      exact hAll.2.2

/- Nothing is announced where a prefix is cut short. -/
theorem decodePrefix?_eq_none_iff
    {bs : Bytes} :
    decodePrefix? bs = none ↔ bs.length < prefixSize := by
  match bs with
  | [] => simp [decodePrefix?, prefixSize]
  | [_] => simp [decodePrefix?, prefixSize]
  | _ :: _ :: _ => simp [decodePrefix?, prefixSize]

theorem prefixSize_le_of_decodePrefix?
    {bs : Bytes}
    {n : Nat}
    (hPrefix : decodePrefix? bs = some n) :
    prefixSize ≤ bs.length := by
  apply Nat.le_of_not_lt
  intro hShort
  rw [decodePrefix?_eq_none_iff.mpr hShort] at hPrefix
  cases hPrefix

theorem decodePrefix?_append
    {bs : Bytes}
    {n : Nat}
    (hPrefix : decodePrefix? bs = some n)
    (more : Bytes) :
    decodePrefix? (bs ++ more) = some n := by
  match bs, hPrefix with
  | _ :: _ :: _, hPrefix => exact hPrefix

/- Two bytes announce no more than fits in them. -/
theorem le_maxAnnounced_of_decodePrefix?
    {bs : Bytes}
    {n : Nat}
    (hPrefix : decodePrefix? bs = some n) :
    n ≤ maxAnnounced := by
  match bs, hPrefix with
  | high :: low :: _, hPrefix =>
      have hHigh := high.toNat_lt
      have hLow := low.toNat_lt
      have hSum : high.toNat * 256 + low.toNat = n :=
        Option.some.inj hPrefix
      simp only [maxAnnounced]
      omega

theorem decodePrefix?_bytes
    {payload : Bytes}
    (hLength : payload.length ≤ maxAnnounced)
    (more : Bytes) :
    decodePrefix? (bytes payload ++ more) =
      some payload.length := by
  simp only [maxAnnounced] at hLength
  simp only [bytes, prefixBytes, decodePrefix?,
    List.cons_append, UInt8.toNat_ofNat', Option.some.injEq]
  omega

/- A length tells the two bytes that announce it. -/
theorem take_prefixSize_eq
    {bs : Bytes}
    {n : Nat}
    (hPrefix : decodePrefix? bs = some n) :
    bs.take prefixSize = prefixBytes n := by
  match bs, hPrefix with
  | high :: low :: _, hPrefix =>
      have hHigh := high.toNat_lt
      have hLow := low.toNat_lt
      have hSum : high.toNat * 256 + low.toNat = n :=
        Option.some.inj hPrefix
      have hFirst : UInt8.ofNat (n / 256) = high := by
        apply UInt8.toNat_inj.mp
        rw [UInt8.toNat_ofNat']
        omega
      have hSecond : UInt8.ofNat n = low := by
        apply UInt8.toNat_inj.mp
        rw [UInt8.toNat_ofNat']
        omega
      simp [prefixSize, prefixBytes, hFirst, hSecond]

------------------------------------------------------------
-- Reading
------------------------------------------------------------

/- Without a prefix there is no frame. -/
theorem read?_eq_none_of_decodePrefix?
    {bs : Bytes}
    (hPrefix : decodePrefix? bs = none) :
    read? bs = none := by
  match bs, hPrefix with
  | [], _ => rfl
  | [_], _ => rfl

/- A frame is cut off where all that it announces is there. -/
theorem read?_eq_ite
    {bs : Bytes}
    {n : Nat}
    (hPrefix : decodePrefix? bs = some n) :
    read? bs =
      if n + prefixSize ≤ bs.length then
        some ((bs.drop prefixSize).take n,
          bs.drop (n + prefixSize))
      else
        none := by
  match bs, hPrefix with
  | high :: low :: tail, hPrefix =>
      have hSum : high.toNat * 256 + low.toNat = n :=
        Option.some.inj hPrefix
      simp only [read?, hSum, Bytes.split?_eq_ite,
        prefixSize, List.length_cons,
        Nat.add_le_add_iff_right, List.drop_succ_cons,
        List.drop_zero]

/- A frame is complete where all that it announces is there. -/
theorem completeLength?_eq_ite
    {bs : Bytes}
    {n : Nat}
    (hPrefix : decodePrefix? bs = some n) :
    completeLength? bs =
      if prefixSize + n ≤ bs.length then
        some (prefixSize + n)
      else
        none := by
  rw [completeLength?, hPrefix]

/- A complete frame has a prefix and lies in the string. -/
theorem le_of_completeLength?
    {bs : Bytes}
    {n : Nat}
    (hComplete : completeLength? bs = some n) :
    prefixSize ≤ n ∧ n ≤ bs.length := by
  cases hPrefix : decodePrefix? bs with
  | none =>
      rw [completeLength?, hPrefix] at hComplete
      cases hComplete
  | some k =>
      rw [completeLength?_eq_ite hPrefix] at hComplete
      split at hComplete
      · rename_i hThere
        cases hComplete
        exact ⟨Nat.le_add_right _ _, hThere⟩
      · cases hComplete

------------------------------------------------------------
-- Cutting Frames Off
------------------------------------------------------------

theorem take_drop_bytes (payload more : Bytes) :
    ((bytes payload ++ more).drop prefixSize).take
        payload.length = payload := by
  simp [bytes, prefixBytes, prefixSize]

theorem drop_bytes (payload more : Bytes) :
    (bytes payload ++ more).drop
        (payload.length + prefixSize) = more := by
  rw [Nat.add_comm, ← length_bytes]
  exact List.drop_left

theorem length_bytes_append_le (payload more : Bytes) :
    payload.length + prefixSize ≤
      (bytes payload ++ more).length := by
  rw [List.length_append, length_bytes]
  omega

end Frame

end FrameLink
