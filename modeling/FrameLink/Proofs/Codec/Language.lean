import FrameLink.Proofs.Codec.Decoding
import FrameLink.Proofs.Socket.Calls
import FrameLink.Transport.Scripted

/-
  The language of a codec.

  A codec writes the concatenations of frames whose payloads
  are within its limit, and that is what it reads
  (`Codec.language`).  Whatever it decodes can be encoded
  again, and the bytes come out the same.  An attempt that
  comes to nothing leaves the bytes as they are.  A stream
  that has ended is decoded without complaint exactly if it
  is such a concatenation.

  Key definitions include:
    * `Codec.encodeEach`
    * `Codec.decodeAllAtEnd`
-/

------------------------------------------------------------
-- Encoding One after Another
------------------------------------------------------------

namespace FrameLink

namespace Codec

variable {codec : Codec}

/- All payloads are within the limit and can be announced. -/
def Passes (codec : Codec) (payloads : List Bytes) : Prop :=
  ∀ payload ∈ payloads,
    payload.length ≤ codec.limit ∧
      payload.length ≤ Frame.maxAnnounced

/- The limit that a codec is given can be announced. -/
theorem passes_withLimit_iff
    {limit : Nat}
    {payloads : List Bytes} :
    Passes (withLimit limit) payloads ↔
      ∀ payload ∈ payloads,
        payload.length ≤ min limit Frame.maxAnnounced := by
  apply forall₂_congr
  intro payload _
  change
    payload.length ≤ min limit Frame.maxAnnounced ∧ _ ↔ _
  omega

theorem Passes.tail
    {payload : Bytes}
    {payloads : List Bytes}
    (hPass : Passes codec (payload :: payloads)) :
    Passes codec payloads :=
  fun later hMember =>
    hPass later (List.mem_cons_of_mem _ hMember)

/- Put the frames of payloads at the end, one by one. -/
def encodeEach
    (codec : Codec)
    (payloads : List Bytes)
    (buffer : Bytes) : Except SocketError Bytes :=
  payloads.foldlM
    (fun before payload => encode codec payload before)
    buffer

/- A payload within the limit adds its frame. -/
theorem encode_eq_ok
    {payload : Bytes}
    (hLimit : payload.length ≤ codec.limit)
    (hAnnounced : payload.length ≤ Frame.maxAnnounced)
    (buffer : Bytes) :
    encode codec payload buffer =
      .ok (buffer ++ Frame.bytes payload) := by
  unfold encode encodeInto
  rw [Frame.encodePrefix_eq_ok_iff.mpr
    ⟨hLimit, hAnnounced, rfl⟩]
  dsimp only
  rw [List.append_assoc]
  rfl

/- Payloads within the limit add their frames. -/
theorem encodeEach_eq_ok
    {payloads : List Bytes}
    (hPass : Passes codec payloads)
    (buffer : Bytes) :
    encodeEach codec payloads buffer =
      .ok (buffer ++ payloads.flatMap Frame.bytes) := by
  induction payloads generalizing buffer with
  | nil =>
      rw [List.flatMap_nil, List.append_nil]
      rfl
  | cons payload payloads ih =>
      have hHead := hPass payload List.mem_cons_self
      rw [encodeEach, List.foldlM_cons,
        encode_eq_ok hHead.1 hHead.2, List.flatMap_cons,
        ← List.append_assoc, ← ih hPass.tail]
      rfl

/- A payload that is refused leaves the buffer. -/
theorem snd_encodeInto_of_error
    {payload buffer : Bytes}
    {e : SocketError}
    (hRefused :
      (encodeInto codec payload buffer).1 = .error e) :
    (encodeInto codec payload buffer).2 = buffer := by
  unfold encodeInto at hRefused ⊢
  split
  · rename_i front hFront
    rw [hFront] at hRefused
    cases hRefused
  · rfl

------------------------------------------------------------
-- Decoding What Was Encoded
------------------------------------------------------------

/- What is decoded is within the limit. -/
theorem passes_decodeAll
    (codec : Codec)
    (bs : Bytes) :
    Passes codec (decodeAll codec bs).1 := by
  apply decodeAll_induction
    (motive := fun _ d => Passes codec d.1)
  · intro payload rest hLimit hAnnounced hRest later hMember
    rcases List.mem_cons.mp hMember with rfl | hLater
    · exact ⟨hLimit, hAnnounced⟩
    · exact hRest later hLater
  · intro bs hDecode payload hMember
    cases hMember
  · intro bs n hDecode hPrefix hLimit payload hMember
    cases hMember

/- Frames within the limit are decoded one by one. -/
theorem decodeAll_flatMap_bytes
    {payloads : List Bytes}
    (hPass : Passes codec payloads) :
    decodeAll codec (payloads.flatMap Frame.bytes) =
      (payloads, .waiting, []) := by
  induction payloads with
  | nil =>
      exact decodeAll_of_ne_frame
        (decode_of_decodePrefix?_eq_none rfl) (by simp)
  | cons payload payloads ih =>
      have hHead := hPass payload List.mem_cons_self
      rw [List.flatMap_cons,
        decodeAll_of_frame (decode_bytes hHead.1 hHead.2 _),
        ih hPass.tail]

/- A codec that waits in the end has waited all along. -/
theorem waiting_of_append
    {front back : Bytes}
    (hWaiting :
      (decodeAll codec (front ++ back)).2.1 = .waiting) :
    (decodeAll codec front).2.1 = .waiting := by
  rcases last_decodeAll codec front with
    hBefore | ⟨n, hRefused, hPrefix, hLimit⟩
  · exact hBefore
  · have hAgain :=
      decode_of_limit_lt hPrefix hLimit back
    rw [decodeAll_append,
      decodeAll_of_ne_frame hAgain (by simp)] at hWaiting
    cases hWaiting

/- Fed with frames in chunks, a codec gives the payloads. -/
theorem feed_of_flatten_eq
    {payloads chunks : List Bytes}
    (hPass : Passes codec payloads)
    (hChunks :
      chunks.flatten = payloads.flatMap Frame.bytes) :
    feed codec chunks = (payloads, .waiting, []) ∧
      ∀ count,
        (feed codec (chunks.take count)).2.1 = .waiting := by
  have hAll := decodeAll_flatMap_bytes hPass
  rw [← hChunks] at hAll
  refine ⟨(feed_eq_decodeAll codec chunks).trans hAll, ?_⟩
  intro count
  have hParts :
      (chunks.take count).flatten ++
          (chunks.drop count).flatten =
        chunks.flatten := by
    rw [← List.flatten_append, List.take_append_drop]
  rw [feed_eq_decodeAll]
  rw [← hParts] at hAll
  exact waiting_of_append (congrArg (·.2.1) hAll)

------------------------------------------------------------
-- Streams That Have Ended
------------------------------------------------------------

/- A frame at the end of a stream is cut off as any other. -/
theorem decodeAtEnd_eq
    (codec : Codec)
    (bs : Bytes) :
    decodeAtEnd codec bs =
      if (decode codec bs).1 = .waiting ∧
          (decode codec bs).2 ≠ [] then
        (.refused leftOver, (decode codec bs).2)
      else
        decode codec bs := by
  unfold decodeAtEnd
  rcases decode codec bs with ⟨last, rest⟩
  cases last with
  | frame payload => simp
  | refused e => simp
  | waiting =>
      cases rest with
      | nil => simp
      | cons b bs => simp

theorem length_lt_of_decodeAtEnd
    {bs payload rest : Bytes}
    (hDecode :
      decodeAtEnd codec bs = (.frame payload, rest)) :
    rest.length < bs.length := by
  rw [decodeAtEnd_eq] at hDecode
  split at hDecode
  · cases hDecode
  · exact length_lt_of_decode hDecode

/-
  Decode what is left of a stream that has ended, until an
  attempt yields no frame.  The result lists the payloads,
  that last attempt, and the bytes left.
-/
def decodeAllAtEnd
    (codec : Codec)
    (bs : Bytes) : List Bytes × Decoded × Bytes :=
  match hDecode : decodeAtEnd codec bs with
  | (.frame payload, rest) =>
      have : rest.length < bs.length :=
        length_lt_of_decodeAtEnd hDecode
      let (payloads, last) := decodeAllAtEnd codec rest
      (payload :: payloads, last)
  | (last, rest) => ([], last, rest)
termination_by bs.length

/- A frame at the front is the first of those decoded. -/
theorem decodeAllAtEnd_of_frame
    {bs payload rest : Bytes}
    (hDecode :
      decodeAtEnd codec bs = (.frame payload, rest)) :
    decodeAllAtEnd codec bs =
      (payload :: (decodeAllAtEnd codec rest).1,
        (decodeAllAtEnd codec rest).2) := by
  rw [decodeAllAtEnd]
  split
  · rename_i payload' rest' hSame
    rw [hDecode] at hSame
    rcases Prod.mk.inj hSame with ⟨hFrame, rfl⟩
    cases hFrame
    rfl
  · rename_i hOther hSame
    rw [hDecode] at hSame
    exact absurd (Prod.mk.inj hSame).1.symm (hOther payload)

/- Without a frame at the front none is decoded. -/
theorem decodeAllAtEnd_of_ne_frame
    {bs rest : Bytes}
    {last : Decoded}
    (hDecode : decodeAtEnd codec bs = (last, rest))
    (hOther : ∀ payload, last ≠ .frame payload) :
    decodeAllAtEnd codec bs = ([], last, rest) := by
  rw [decodeAllAtEnd]
  split
  · rename_i payload rest' hFrame
    rw [hDecode] at hFrame
    exact absurd (Prod.mk.inj hFrame).1 (hOther payload)
  · rename_i hSame
    rw [hDecode] at hSame
    rcases Prod.mk.inj hSame with ⟨rfl, rfl⟩
    rfl

/-
  Frames are decoded as before the end.  Only where the codec
  would wait for more is it refused, unless nothing is left.
-/
theorem decodeAllAtEnd_eq
    (codec : Codec)
    (bs : Bytes) :
    decodeAllAtEnd codec bs =
      ((decodeAll codec bs).1,
        if (decodeAll codec bs).2.1 = .waiting ∧
            (decodeAll codec bs).2.2 ≠ [] then
          (.refused leftOver, (decodeAll codec bs).2.2)
        else
          (decodeAll codec bs).2) := by
  apply decodeAll_induction
    (motive := fun bs d =>
      decodeAllAtEnd codec bs =
        (d.1,
          if d.2.1 = .waiting ∧ d.2.2 ≠ [] then
            (.refused leftOver, d.2.2)
          else
            d.2))
  · intro payload rest hLimit hAnnounced hRest
    have hDecode :
        decodeAtEnd codec (Frame.bytes payload ++ rest) =
          (.frame payload, rest) := by
      rw [decodeAtEnd_eq, decode_bytes hLimit hAnnounced,
        if_neg (by simp)]
    rw [decodeAllAtEnd_of_frame hDecode, hRest]
  · intro bs hDecode
    have hEnd := decodeAtEnd_eq codec bs
    rw [hDecode] at hEnd
    by_cases hNone : bs = []
    · rw [if_neg (by simp [hNone])] at hEnd ⊢
      exact decodeAllAtEnd_of_ne_frame hEnd (by simp)
    · rw [if_pos ⟨rfl, hNone⟩] at hEnd ⊢
      exact decodeAllAtEnd_of_ne_frame hEnd (by simp)
  · intro bs n hDecode hPrefix hLimit
    have hEnd := decodeAtEnd_eq codec bs
    rw [hDecode, if_neg (by simp)] at hEnd
    rw [if_neg (by simp)]
    exact decodeAllAtEnd_of_ne_frame hEnd (by simp)

/-
  A stream that has ended is decoded without complaint if it
  is a row of frames within the limit, and only then.
-/
theorem waiting_decodeAllAtEnd_iff
    (codec : Codec)
    (bs : Bytes) :
    (decodeAllAtEnd codec bs).2.1 = .waiting ↔
      ∃ payloads,
        Passes codec payloads ∧
          bs = payloads.flatMap Frame.bytes := by
  rw [decodeAllAtEnd_eq]
  dsimp only
  constructor
  · intro hWaiting
    split at hWaiting
    · cases hWaiting
    · rename_i hNothing
      have hLeft : (decodeAll codec bs).2.2 = [] := by
        apply Classical.byContradiction
        intro hSome
        exact hNothing ⟨hWaiting, hSome⟩
      have hAll := flatMap_bytes_append_left codec bs
      rw [hLeft, List.append_nil] at hAll
      exact ⟨(decodeAll codec bs).1,
        passes_decodeAll codec bs, hAll.symm⟩
  · rintro ⟨payloads, hPass, rfl⟩
    rw [decodeAll_flatMap_bytes hPass, if_neg (by simp)]

/-
  In the end the codec is content with what there was, or it
  refuses what is left: for being there, or for the length
  that is announced there.
-/
theorem last_decodeAllAtEnd
    (codec : Codec)
    (bs : Bytes) :
    let (_, last, left) := decodeAllAtEnd codec bs
    (last = .waiting ∧ left = []) ∨
      (last = .refused leftOver ∧ left ≠ []) ∨
        ∃ n,
          last = .refused (.messageTooLarge n) ∧
            Frame.decodePrefix? left = some n ∧
            codec.limit < n := by
  rw [decodeAllAtEnd_eq]
  rcases last_decodeAll codec bs with
    hWaiting | ⟨n, hRefused, hAnnounced⟩
  · by_cases hNone : (decodeAll codec bs).2.2 = []
    · rw [if_neg (fun hBoth => hBoth.2 hNone)]
      exact .inl ⟨hWaiting, hNone⟩
    · rw [if_pos ⟨hWaiting, hNone⟩]
      exact .inr (.inl ⟨rfl, hNone⟩)
  · rw [if_neg]
    · exact .inr (.inr ⟨n, hRefused, hAnnounced⟩)
    · rintro ⟨hWaiting, _⟩
      rw [hRefused] at hWaiting
      cases hWaiting

------------------------------------------------------------
-- The Language
------------------------------------------------------------

/- Unless a frame is decoded the bytes stay. -/
theorem snd_decode_of_ne_frame
    {bs : Bytes}
    (hNone :
      ∀ payload, (decode codec bs).1 ≠ .frame payload) :
    (decode codec bs).2 = bs := by
  rcases decode_cases codec bs with
    ⟨payload, rest, hDecode, _⟩ | hDecode | ⟨n, hDecode, _⟩
  · rw [hDecode] at hNone
    exact absurd rfl (hNone payload)
  · rw [hDecode]
  · rw [hDecode]

/- The end of a stream changes neither payloads nor rest. -/
theorem decodeAllAtEnd_agrees
    (codec : Codec)
    (bs : Bytes) :
    (decodeAllAtEnd codec bs).1 = (decodeAll codec bs).1 ∧
      (decodeAllAtEnd codec bs).2.2 =
        (decodeAll codec bs).2.2 := by
  rw [decodeAllAtEnd_eq]
  refine ⟨rfl, ?_⟩
  dsimp only
  split
  · rfl
  · rfl

/-
  A codec of any limit reads what it writes and nothing else.
  Payloads within its ceiling are written frame by frame, and
  are read back from any chunks; the frames are those that a
  socket offers to its stream.  What is read of any bytes is
  within the ceiling and is written back to the same bytes.
  Attempts that come to nothing change nothing.  Where the
  stream has ended, the codec is content exactly with rows
  of such frames; else it has read the same payloads and is
  refused, with the same bytes left.
-/
theorem language
    (τ : Type)
    {ω : Type}
    [Transport τ ω]
    (limit : Nat) :
    let codec := withLimit limit
    let ceiling := min limit Frame.maxAnnounced
    (∀ payloads : List Bytes,
      (∀ payload ∈ payloads, payload.length ≤ ceiling) →
        (∀ buffer,
          codec.encodeEach payloads buffer =
            .ok (buffer ++ payloads.flatMap Frame.bytes)) ∧
        (∀ chunks : List Bytes,
          chunks.flatten = payloads.flatMap Frame.bytes →
            codec.feed chunks = (payloads, .waiting, []) ∧
              ∀ count,
                (codec.feed (chunks.take count)).2.1 =
                  .waiting)) ∧
    (∀ payload : Bytes,
      payload.length ≤ Frame.maxPayload →
        Frame.encode payload = .ok (Frame.bytes payload) ∧
          ∀ (origin : Origin τ ω)
            (moments : List (Moment τ ω)),
            payload.length ≤
                (origin.live moments).socket.maxPacketSize →
              (origin.live moments).socket.pendingOutput =
                  0 →
                ∃ answer,
                  (origin.journal
                      (moments ++
                        [.operate
                          (.send payload)])).journal =
                    (origin.journal moments).journal ++
                      [.sent (Frame.bytes payload)
                        answer]) ∧
    (∀ bs : Bytes,
      let (payloads, _, left) := codec.decodeAll bs
      (∀ payload ∈ payloads, payload.length ≤ ceiling) ∧
        ∃ again,
          codec.encodeEach payloads [] = .ok again ∧
            again ++ left = bs) ∧
    (∀ bs : Bytes,
      (∀ payload, (codec.decode bs).1 ≠ .frame payload) →
        (codec.decode bs).2 = bs) ∧
    (∀ (payload buffer : Bytes) (e : SocketError),
      (codec.encodeInto payload buffer).1 = .error e →
        (codec.encodeInto payload buffer).2 = buffer) ∧
    (∀ bs : Bytes,
      let (payloads, last, left) := codec.decodeAllAtEnd bs
      payloads = (codec.decodeAll bs).1 ∧
        left = (codec.decodeAll bs).2.2 ∧
        ((last = .waiting ∧ left = []) ∨
          (last = .refused leftOver ∧ left ≠ []) ∨
            ∃ n,
              last = .refused (.messageTooLarge n) ∧
                Frame.decodePrefix? left = some n ∧
                ceiling < n) ∧
        (last = .waiting ↔
          ∃ frames : List Bytes,
            (∀ payload ∈ frames,
              payload.length ≤ ceiling) ∧
              bs = frames.flatMap Frame.bytes)) := by
  intro codec ceiling
  refine ⟨?_, ?_, ?_, ?_, ?_, ?_⟩
  · intro payloads hCeiling
    have hPass : Passes codec payloads :=
      passes_withLimit_iff.mpr hCeiling
    exact ⟨encodeEach_eq_ok hPass,
      fun chunks hChunks => feed_of_flatten_eq hPass hChunks⟩
  · intro payload hMost
    have hAnnounced := Frame.maxPayload_le_maxAnnounced
    refine ⟨?_, ?_⟩
    · rw [Frame.encode,
        Frame.encodePrefix_eq_ok_iff.mpr
          ⟨hMost, by omega, rfl⟩]
      rfl
    · intro origin moments hFits hIdle
      exact origin.journal_send_of_idle moments hFits hIdle
  · intro bs
    have hPass := passes_decodeAll codec bs
    refine ⟨passes_withLimit_iff.mp hPass, _,
      encodeEach_eq_ok hPass [], ?_⟩
    exact flatMap_bytes_append_left codec bs
  · intro bs hNone
    exact snd_decode_of_ne_frame hNone
  · intro payload buffer e hRefused
    exact snd_encodeInto_of_error hRefused
  · intro bs
    rcases decodeAllAtEnd_agrees codec bs with
      ⟨hPayloads, hLeft⟩
    refine ⟨hPayloads, hLeft, last_decodeAllAtEnd codec bs,
      ?_⟩
    refine (waiting_decodeAllAtEnd_iff codec bs).trans ?_
    apply exists_congr
    intro frames
    rw [passes_withLimit_iff]

/- A socket over a stream that takes and gives nothing. -/
def idler : Origin Scripted Unit where
  transport := { script := {} }
  framing := { maxPacketSize := 4 }
  host := { world := () }

/-
  Two payloads, one of which looks like a prefix, and bytes
  that a codec of single bytes refuses.  At the end of the
  stream the codec is content with the two payloads, and not
  with half a prefix.
-/
theorem language_small :
    (withLimit 4).encodeEach [[0, 1], []] [9] =
        .ok [9, 0, 2, 0, 1, 0, 0] ∧
      (withLimit 4).feed [[0], [2, 0, 1, 0], [0]] =
        ([[0, 1], []], .waiting, []) ∧
      Frame.encode [0, 1] = .ok [0, 2, 0, 1] ∧
      (∃ answer,
        (idler.journal
            [.operate (.send [0, 1])]).journal =
          [.sent [0, 2, 0, 1] answer]) ∧
      ((withLimit 1).decode [0, 2, 0, 1]).2 =
        [0, 2, 0, 1] ∧
      ((withLimit 1).encodeInto [0, 1] [9]).2 = [9] ∧
      ((withLimit 4).decodeAllAtEnd
          [0, 2, 0, 1, 0, 0]).2.1 =
        .waiting ∧
      (withLimit 4).decodeAllAtEnd [0, 1, 7, 0] =
        ([[7]], .refused leftOver, [0]) := by
  have hFour := language Scripted 4
  have hOne := language Scripted 1
  rcases hFour with ⟨hWritten, hFramed, _, _, _, hEnd⟩
  rcases hOne with ⟨_, _, _, hDecode, hEncode, _⟩
  have hCeiling :
      ∀ payload ∈ [[0, 1], ([] : Bytes)],
        payload.length ≤ min 4 Frame.maxAnnounced := by
    decide
  rcases hWritten [[0, 1], []] hCeiling with ⟨hEach, hFed⟩
  rcases hFramed [0, 1] (by decide) with ⟨hFrame, hOffer⟩
  refine ⟨hEach [9], ?_, hFrame, ?_, ?_, ?_, ?_, ?_⟩
  · exact (hFed [[0], [2, 0, 1, 0], [0]] rfl).1
  · exact hOffer idler [] (by decide) rfl
  · apply hDecode
    intro payload hFrame
    cases hFrame
  · exact hEncode [0, 1] [9] (.messageTooLarge 2) rfl
  · exact
      (hEnd [0, 2, 0, 1, 0, 0]).2.2.2.mpr
        ⟨[[0, 1], []], hCeiling, rfl⟩
  · rcases hEnd [0, 1, 7, 0] with
      ⟨hPayloads, hLeft, hLast, _⟩
    have hSeven :
        ((withLimit 4).decodeAll [0, 1, 7, 0]).1 = [[7]] := by
      decide +kernel
    have hHalf :
        ((withLimit 4).decodeAll [0, 1, 7, 0]).2.2 = [0] := by
      decide +kernel
    rw [hSeven] at hPayloads
    rw [hHalf] at hLeft
    rw [hLeft] at hLast
    rcases hLast with
      ⟨_, hNone⟩ | ⟨hRefused, _⟩ | ⟨n, _, hAnnounced, _⟩
    · cases hNone
    · exact Prod.ext hPayloads (Prod.ext hRefused hLeft)
    · cases hAnnounced

end Codec

end FrameLink
