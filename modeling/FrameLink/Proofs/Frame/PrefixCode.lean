import FrameLink.Proofs.Frame.Format

/-
  Frames can be told from what follows them.

  A frame is recognised exactly where a string begins with
  one (`Frame.completeLength?_eq_some_iff`), whatever stands
  behind it, and nothing that is cut short is taken for one.
  So no frame begins with another, and a string of frames
  stands for one list of payloads only
  (`Frame.Carries.unique`).

  Cutting all frames off a string finds that list, and stops
  where no frame is complete (`Frame.unframe_eq_iff`).

  Key definitions include:
    * `Frame.IsFrame`
    * `Frame.Carries`
-/

------------------------------------------------------------
-- Single Frames
------------------------------------------------------------

namespace FrameLink

namespace Frame

/-
  A string is the frame of a payload: two bytes, high byte
  first, that announce the length of the payload, and then
  the payload and no more.
-/
def IsFrame (frame payload : Bytes) : Prop :=
  ∃ high low : UInt8,
    high.toNat * 256 + low.toNat = payload.length ∧
      frame = high :: low :: payload

variable {bs frame payload : Bytes}

namespace IsFrame

theorem length_eq (hFrame : IsFrame frame payload) :
    frame.length = prefixSize + payload.length := by
  obtain ⟨high, low, -, rfl⟩ := hFrame
  rw [List.length_cons, List.length_cons, prefixSize]
  omega

theorem decodePrefix?_append
    (hFrame : IsFrame frame payload)
    (more : Bytes) :
    decodePrefix? (frame ++ more) = some payload.length := by
  obtain ⟨high, low, hLength, rfl⟩ := hFrame
  exact congrArg some hLength

theorem length_le (hFrame : IsFrame frame payload) :
    payload.length ≤ maxAnnounced :=
  le_maxAnnounced_of_decodePrefix?
    (hFrame.decodePrefix?_append [])

/- A frame is recognised whatever follows it. -/
theorem completeLength?_append
    (hFrame : IsFrame frame payload)
    (more : Bytes) :
    completeLength? (frame ++ more) = some frame.length := by
  have hThere :
      prefixSize + payload.length ≤
        (frame ++ more).length := by
    rw [List.length_append, hFrame.length_eq]
    exact Nat.le_add_right _ _
  rw [completeLength?_eq_ite
      (hFrame.decodePrefix?_append more),
    if_pos hThere, hFrame.length_eq]

theorem read?_append
    (hFrame : IsFrame frame payload)
    (more : Bytes) :
    read? (frame ++ more) = some (payload, more) := by
  obtain ⟨high, low, hLength, rfl⟩ := hFrame
  exact Bytes.split?_eq_some_iff.mpr ⟨rfl, hLength.symm⟩

/- A payload has one frame. -/
theorem eq_bytes (hFrame : IsFrame frame payload) :
    frame = bytes payload := by
  obtain ⟨high, low, hLength, rfl⟩ := hFrame
  have hFront :
      (high :: low :: payload).take prefixSize =
        prefixBytes payload.length :=
    take_prefixSize_eq (congrArg some hLength)
  rw [bytes, ← hFront]
  rfl

end IsFrame

theorem isFrame_bytes
    (hLength : payload.length ≤ maxAnnounced) :
    IsFrame (bytes payload) payload := by
  refine ⟨_, _, ?_, rfl⟩
  have hPrefix := decodePrefix?_bytes hLength []
  exact Option.some.inj hPrefix

/- What is cut off is a frame. -/
theorem exists_of_read?
    {rest : Bytes}
    (hRead : read? bs = some (payload, rest)) :
    ∃ frame, IsFrame frame payload ∧ bs = frame ++ rest := by
  match bs, hRead with
  | high :: low :: tail, hRead =>
      obtain ⟨rfl, hLength⟩ :=
        Bytes.split?_eq_some_iff.mp hRead
      exact
        ⟨high :: low :: payload,
          ⟨high, low, hLength.symm, rfl⟩, rfl⟩

/- What is recognised is a frame. -/
theorem exists_of_completeLength?
    {n : Nat}
    (hComplete : completeLength? bs = some n) :
    ∃ payload, IsFrame (bs.take n) payload := by
  have hThere := (le_of_completeLength? hComplete).2
  match bs, hComplete with
  | high :: low :: tail, hComplete =>
      rw [completeLength?_eq_ite rfl] at hComplete
      split at hComplete
      · cases hComplete
        refine
          ⟨tail.take (high.toNat * 256 + low.toNat), high, low,
            ?_, ?_⟩
        · rw [List.length_take]
          simp only [prefixSize, List.length_cons] at hThere
          omega
        · rw [prefixSize, Nat.add_comm, List.take_succ_cons,
            List.take_succ_cons]
      · cases hComplete

------------------------------------------------------------
-- Recognition
------------------------------------------------------------

/- A frame is recognised where the string begins with one. -/
theorem completeLength?_eq_some_iff
    {n : Nat} :
    completeLength? bs = some n ↔
      n ≤ bs.length ∧
        ∃ payload, IsFrame (bs.take n) payload := by
  constructor
  · intro hComplete
    exact
      ⟨(le_of_completeLength? hComplete).2,
        exists_of_completeLength? hComplete⟩
  · rintro ⟨hThere, payload, hFrame⟩
    have hComplete :=
      hFrame.completeLength?_append (bs.drop n)
    rwa [List.take_append_drop, List.length_take,
      Nat.min_eq_left hThere] at hComplete

/- What follows a complete frame does not change it. -/
theorem completeLength?_append
    {n : Nat}
    (hComplete : completeLength? bs = some n)
    (more : Bytes) :
    completeLength? (bs ++ more) = some n := by
  rw [completeLength?_eq_some_iff] at hComplete ⊢
  obtain ⟨hThere, hFrame⟩ := hComplete
  rw [List.take_append_of_le_length hThere,
    List.length_append]
  exact ⟨by omega, hFrame⟩

/-
  A front that is taken for complete holds all of the frame
  it belongs to.
-/
theorem completeLength?_eq_none_of_prefix
    {front : Bytes}
    (hFrame : IsFrame frame payload)
    (hFront : front <+: frame)
    (hProper : front ≠ frame) :
    completeLength? front = none := by
  obtain ⟨back, rfl⟩ := hFront
  cases hComplete : completeLength? front with
  | none => rfl
  | some n =>
      have hThere := (le_of_completeLength? hComplete).2
      have hWhole := hFrame.completeLength?_append []
      rw [List.append_nil,
        completeLength?_append hComplete back,
        List.length_append] at hWhole
      have hLength : n = front.length + back.length :=
        Option.some.inj hWhole
      have hBack : back = [] :=
        List.eq_nil_of_length_eq_zero (by omega)
      rw [hBack, List.append_nil] at hProper
      exact absurd rfl hProper

/- Frames are cut off where one is complete. -/
theorem read?_eq_none_iff :
    read? bs = none ↔ completeLength? bs = none := by
  cases hPrefix : decodePrefix? bs with
  | none =>
      rw [read?_eq_none_of_decodePrefix? hPrefix,
        completeLength?, hPrefix]
      simp only
  | some n =>
      rw [read?_eq_ite hPrefix,
        completeLength?_eq_ite hPrefix, Nat.add_comm]
      split
      · simp only [reduceCtorEq]
      · simp only

------------------------------------------------------------
-- Streams of Frames
------------------------------------------------------------

/- A string is the frames of payloads, back to back. -/
inductive Carries : Bytes → List Bytes → Prop where
  | nil : Carries [] []
  | cons {frame payload stream : Bytes}
      {payloads : List Bytes}
      (hFrame : IsFrame frame payload)
      (hLater : Carries stream payloads) :
      Carries (frame ++ stream) (payload :: payloads)

variable {stream rest : Bytes} {payloads : List Bytes}

/- Where no frame can be cut off, all is left. -/
theorem unframe_of_read?_eq_none
    (hRead : read? bs = none) :
    unframe bs = ([], bs) := by
  rw [unframe]
  split
  · rfl
  · rename_i hSome
    rw [hRead] at hSome
    cases hSome

/- A frame that can be cut off is the first to be. -/
theorem unframe_of_read?
    (hRead : read? bs = some (payload, rest)) :
    unframe bs =
      (payload :: (unframe rest).1, (unframe rest).2) := by
  rw [unframe]
  split
  · rename_i hNone
    rw [hRead] at hNone
    cases hNone
  · rename_i hSome
    cases hRead.symm.trans hSome
    rfl

/-
  All frames of a stream are cut off, up to bytes that hold
  none.  The induction is on the frames; each of them is
  recognised before what stands behind it.
-/
theorem Carries.unframe_append
    (hCarries : Carries stream payloads)
    (hRest : completeLength? rest = none) :
    unframe (stream ++ rest) = (payloads, rest) := by
  induction hCarries with
  | nil =>
      exact
        unframe_of_read?_eq_none (read?_eq_none_iff.mpr hRest)
  | cons hFrame hLater ih =>
      rw [List.append_assoc,
        unframe_of_read? (hFrame.read?_append _), ih]

/- What is cut off is a stream of frames. -/
theorem exists_of_unframe (bs : Bytes) :
    ∃ stream,
      Carries stream (unframe bs).1 ∧
        bs = stream ++ (unframe bs).2 ∧
          completeLength? (unframe bs).2 = none := by
  fun_induction unframe bs with
  | case1 bs hRead =>
      exact ⟨[], .nil, rfl, read?_eq_none_iff.mp hRead⟩
  | case2 bs payload rest hRead hShorter payloads left
      hLater ih =>
      rw [hLater] at ih
      obtain ⟨stream, hCarries, hRest, hLeft⟩ := ih
      obtain ⟨frame, hFrame, hBytes⟩ := exists_of_read? hRead
      refine
        ⟨frame ++ stream, .cons hFrame hCarries, ?_, hLeft⟩
      rw [hBytes, hRest, List.append_assoc]

/- The bytes left behind the frames end the string. -/
theorem snd_unframe_suffix (bs : Bytes) :
    (unframe bs).2 <:+ bs := by
  obtain ⟨stream, -, hAll, -⟩ := exists_of_unframe bs
  exact ⟨stream, hAll.symm⟩

/-
  The payloads and the rest that are found are those of the
  one way to read a string as frames and bytes behind them
  of which no frame is complete.
-/
theorem unframe_eq_iff :
    unframe bs = (payloads, rest) ↔
      ∃ stream,
        Carries stream payloads ∧
          bs = stream ++ rest ∧
            completeLength? rest = none := by
  constructor
  · intro hFound
    have hExists := exists_of_unframe bs
    rwa [hFound] at hExists
  · rintro ⟨stream, hCarries, rfl, hRest⟩
    exact hCarries.unframe_append hRest

/- A stream carries one list of payloads. -/
theorem Carries.unique
    {others : List Bytes}
    (hCarries : Carries stream payloads)
    (hOthers : Carries stream others) :
    payloads = others := by
  have hAll : stream = stream ++ [] :=
    (List.append_nil stream).symm
  have hFirst : unframe stream = (payloads, []) :=
    unframe_eq_iff.mpr ⟨stream, hCarries, hAll, rfl⟩
  have hSecond : unframe stream = (others, []) :=
    unframe_eq_iff.mpr ⟨stream, hOthers, hAll, rfl⟩
  exact (Prod.mk.inj (hFirst.symm.trans hSecond)).1

------------------------------------------------------------
-- Writing
------------------------------------------------------------

/- A frame is made for a payload of allowed length. -/
theorem encode_eq_ok_iff :
    encode payload = .ok frame ↔
      payload.length ≤ maxPayload ∧ bytes payload = frame := by
  unfold encode
  cases hFront : encodePrefix payload.length maxPayload with
  | error e =>
      have hTooLarge : ¬ payload.length ≤ maxPayload := by
        intro hAllowed
        rw [encodePrefix_eq_ok_iff.mpr
          ⟨hAllowed,
            Nat.le_trans hAllowed maxPayload_le_maxAnnounced,
            rfl⟩] at hFront
        cases hFront
      simp only [Except.map, reduceCtorEq, hTooLarge,
        false_and]
  | ok front =>
      obtain ⟨hAllowed, -, rfl⟩ :=
        encodePrefix_eq_ok_iff.mp hFront
      simp only [Except.map, Except.ok.injEq, hAllowed,
        true_and, bytes]

/- What is made is the frame of the payload. -/
theorem isFrame_of_encode
    (hFrame : encode payload = .ok frame) :
    IsFrame frame payload := by
  obtain ⟨hAllowed, rfl⟩ := encode_eq_ok_iff.mp hFrame
  exact isFrame_bytes
    (Nat.le_trans hAllowed maxPayload_le_maxAnnounced)

/- The frames made of payloads carry them. -/
theorem carries_of_mapM_encode
    {frames : List Bytes}
    (hFrames : payloads.mapM encode = .ok frames) :
    Carries frames.flatten payloads := by
  induction payloads generalizing frames with
  | nil =>
      rw [List.mapM_nil] at hFrames
      cases hFrames
      exact .nil
  | cons payload payloads ih =>
      rw [List.mapM_cons] at hFrames
      cases hFrame : encode payload with
      | error e =>
          rw [hFrame] at hFrames
          cases hFrames
      | ok frame =>
          cases hLater : payloads.mapM encode with
          | error e =>
              rw [hFrame, hLater] at hFrames
              cases hFrames
          | ok later =>
              rw [hFrame, hLater] at hFrames
              cases hFrames
              exact .cons (isFrame_of_encode hFrame) (ih hLater)

------------------------------------------------------------
-- Delimiting
------------------------------------------------------------

/-
  A frame is recognised exactly where a string begins with
  one, and a string begins with one frame only.  What follows
  a frame does not matter to it, and no proper front of a
  frame is taken for one.

  Writing makes the frame of any payload of allowed length,
  and of no other; what follows it, its size and the length
  of the payload are recognised.  A string of frames, of
  whatever length, tells the payloads, and so do the frames
  that writing makes.
-/
theorem self_delimiting :
    (∀ (bs : Bytes) (n : Nat),
      completeLength? bs = some n ↔
        n ≤ bs.length ∧
          ∃ payload : Bytes,
            payload.length ≤ maxAnnounced ∧
              IsFrame (bs.take n) payload) ∧
    (∀ (bs payload other : Bytes) (m n : Nat),
      m ≤ bs.length →
        n ≤ bs.length →
          IsFrame (bs.take m) payload →
            IsFrame (bs.take n) other → m = n) ∧
    (∀ (bs more : Bytes) (n : Nat),
      completeLength? bs = some n →
        completeLength? (bs ++ more) = some n) ∧
    (∀ frame payload front : Bytes,
      IsFrame frame payload →
        front <+: frame →
          front ≠ frame → completeLength? front = none) ∧
    (∀ payload : Bytes,
      (∃ frame, encode payload = .ok frame) ↔
        payload.length ≤ maxPayload) ∧
    (∀ payload frame more : Bytes,
      encode payload = .ok frame →
        IsFrame frame payload ∧
          completeLength? (frame ++ more) =
            some (payload.length + prefixSize) ∧
          decodePrefix? (frame ++ more) =
            some payload.length) ∧
    (∀ (stream : Bytes) (payloads others : List Bytes),
      Carries stream payloads →
        Carries stream others → payloads = others) ∧
    ∀ payloads others frames otherFrames : List Bytes,
      payloads.mapM encode = .ok frames →
        others.mapM encode = .ok otherFrames →
          frames.flatten = otherFrames.flatten →
            payloads = others := by
  refine ⟨?_, ?_, ?_, ?_, ?_, ?_, ?_, ?_⟩
  · intro bs n
    rw [completeLength?_eq_some_iff]
    constructor
    · rintro ⟨hThere, payload, hFrame⟩
      exact ⟨hThere, payload, hFrame.length_le, hFrame⟩
    · rintro ⟨hThere, payload, -, hFrame⟩
      exact ⟨hThere, payload, hFrame⟩
  · intro bs payload other m n hM hN hFrame hOther
    have hFirst :=
      completeLength?_eq_some_iff.mpr ⟨hM, payload, hFrame⟩
    have hSecond :=
      completeLength?_eq_some_iff.mpr ⟨hN, other, hOther⟩
    exact Option.some.inj (hFirst.symm.trans hSecond)
  · intro bs more n hComplete
    exact completeLength?_append hComplete more
  · intro frame payload front hFrame hFront hProper
    exact
      completeLength?_eq_none_of_prefix hFrame hFront hProper
  · intro payload
    constructor
    · rintro ⟨frame, hFrame⟩
      exact (encode_eq_ok_iff.mp hFrame).1
    · intro hAllowed
      exact
        ⟨bytes payload, encode_eq_ok_iff.mpr ⟨hAllowed, rfl⟩⟩
  · intro payload frame more hEncode
    have hFrame := isFrame_of_encode hEncode
    refine
      ⟨hFrame, ?_, hFrame.decodePrefix?_append more⟩
    rw [hFrame.completeLength?_append, hFrame.length_eq,
      Nat.add_comm]
  · intro stream payloads others hCarries hOthers
    exact hCarries.unique hOthers
  · intro payloads others frames otherFrames hFrames
      hOthers hSame
    have hOther := carries_of_mapM_encode hOthers
    rw [← hSame] at hOther
    exact (carries_of_mapM_encode hFrames).unique hOther

/-
  A payload of two zeros is framed, and bytes stand behind it
  that look like another frame.  Its frame is recognised with
  them and without, but not without its own last byte, and
  two frames tell their payloads.
-/
theorem self_delimiting_cut :
    let frame : Bytes := [0, 2, 0, 0]
    let bs : Bytes := [0, 2, 0, 0, 0, 0, 0, 9]
    encode [0, 0] = .ok frame ∧
      completeLength? bs = some 4 ∧
      completeLength? (bs ++ [7]) = some 4 ∧
      (∀ n ≤ bs.length, ∀ payload : Bytes,
        IsFrame (bs.take n) payload → n = 4) ∧
      completeLength? [0, 2, 0] = none ∧
      decodePrefix? (frame ++ [1]) = some 2 ∧
      (∀ others : List Bytes,
        Carries [0, 2, 0, 0, 0, 0] others →
          others = [[0, 0], []]) ∧
      ∀ others : List Bytes,
        others.mapM encode = .ok [frame, [0, 0]] →
          others = [[0, 0], []] := by
  intro frame bs
  have hFrame : IsFrame frame [0, 0] := ⟨0, 2, rfl, rfl⟩
  have hEncode : encode [0, 0] = .ok frame := rfl
  have hComplete : completeLength? bs = some 4 :=
    (self_delimiting.1 bs 4).mpr
      ⟨by decide, [0, 0], by decide, hFrame⟩
  refine ⟨hEncode, hComplete, ?_, ?_, ?_, ?_, ?_, ?_⟩
  · exact self_delimiting.2.2.1 bs [7] 4 hComplete
  · intro n hThere payload hOther
    exact
      self_delimiting.2.1 bs payload [0, 0] n 4 hThere
        (by decide) hOther hFrame
  · exact
      self_delimiting.2.2.2.1 frame [0, 0] [0, 2, 0] hFrame
        ⟨[0], rfl⟩ (by decide)
  · have hWritten :=
      self_delimiting.2.2.2.2.2.1 [0, 0] frame [1] hEncode
    exact hWritten.2.2
  · intro others hOthers
    have hEmpty : IsFrame [0, 0] [] := ⟨0, 0, rfl, rfl⟩
    have hBoth :
        Carries [0, 2, 0, 0, 0, 0] [[0, 0], []] :=
      .cons hFrame (.cons hEmpty .nil)
    exact
      self_delimiting.2.2.2.2.2.2.1 _ others _ hOthers hBoth
  · intro others hOthers
    have hBoth :
        [[0, 0], []].mapM encode = .ok [frame, [0, 0]] := rfl
    exact
      self_delimiting.2.2.2.2.2.2.2 others [[0, 0], []] _ _
        hOthers hBoth rfl

end Frame

end FrameLink
