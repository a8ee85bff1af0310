import FrameLink.Frame

/-
  A codec for streams that are read without events.

  The codec turns payloads into frames at the end of a byte
  string and frames at its front back into payloads.  It
  refuses a frame as soon as the prefix announces more than
  the limit, and then leaves the bytes as they are.

  Key definitions include:
    * `Codec`, `Codec.withLimit`
    * `Codec.encodeInto`, `Codec.encode`
    * `Codec.decode`
    * `Codec.decodeAtEnd`
    * `Codec.decodeAll`
-/

------------------------------------------------------------
-- Codecs
------------------------------------------------------------

namespace FrameLink

/- A codec, by the greatest payload that it lets pass. -/
structure Codec where
  limit : Nat
  deriving DecidableEq

namespace Codec

/- The codec that lets every packet pass. -/
def standard : Codec :=
  ⟨Frame.maxPayload⟩

/- A codec with a given limit, at most what fits a prefix. -/
def withLimit (limit : Nat) : Codec :=
  ⟨min limit Frame.maxAnnounced⟩

------------------------------------------------------------
-- Encoding
------------------------------------------------------------

/-
  Put the frame of a payload at the end of a string.  If the
  payload is refused the bytes stay as they are.
-/
def encodeInto
    (codec : Codec)
    (payload buffer : Bytes) :
    Except SocketError Unit × Bytes :=
  match Frame.encodePrefix payload.length codec.limit with
  | .ok front => (.ok (), buffer ++ front ++ payload)
  | .error e => (.error e, buffer)

/- The string with the frame at its end, if there is one. -/
def encode
    (codec : Codec)
    (payload buffer : Bytes) : Except SocketError Bytes :=
  match encodeInto codec payload buffer with
  | (.ok _, after) => .ok after
  | (.error e, _) => .error e

------------------------------------------------------------
-- Decoding
------------------------------------------------------------

/- What one attempt to decode comes to. -/
inductive Decoded where
  | frame (payload : Bytes)
  | waiting
  | refused (error : SocketError)
  deriving DecidableEq

/-
  Take one frame off the front.  Unless a frame is taken the
  bytes stay as they are.
-/
def decode
    (codec : Codec)
    (buffer : Bytes) : Decoded × Bytes :=
  match Frame.decodePrefix? buffer with
  | none => (.waiting, buffer)
  | some n =>
      if codec.limit < n then
        (.refused (.messageTooLarge n), buffer)
      else
        match Frame.read? buffer with
        | some (payload, rest) => (.frame payload, rest)
        | none => (.waiting, buffer)

/- A stream that ends must not leave bytes behind. -/
def leftOver : SocketError :=
  .transportFailure
    ⟨.other, some "bytes remaining on stream"⟩

/- Take one frame off the front of a stream that has ended. -/
def decodeAtEnd
    (codec : Codec)
    (buffer : Bytes) : Decoded × Bytes :=
  match decode codec buffer with
  | (.waiting, rest) =>
      if rest.isEmpty then
        (.waiting, rest)
      else
        (.refused leftOver, rest)
  | taken => taken

/- A frame that is decoded leaves fewer bytes. -/
theorem length_lt_of_decode
    {codec : Codec} {buffer payload rest : Bytes}
    (h : decode codec buffer = (.frame payload, rest)) :
    rest.length < buffer.length := by
  unfold decode at h
  split at h
  · simp at h
  · split at h
    · simp at h
    · split at h
      · rename_i hRead
        obtain ⟨hPayload, rfl⟩ := Prod.mk.inj h
        exact Frame.length_lt_of_read? hRead
      · simp at h

/-
  Decode until an attempt yields no frame.  The result lists
  the payloads, that last attempt, and the bytes left.
-/
def decodeAll
    (codec : Codec)
    (buffer : Bytes) : List Bytes × Decoded × Bytes :=
  match h : decode codec buffer with
  | (.frame payload, rest) =>
      have : rest.length < buffer.length :=
        length_lt_of_decode h
      let (payloads, last) := decodeAll codec rest
      (payload :: payloads, last)
  | (last, rest) => ([], last, rest)
termination_by buffer.length

end Codec

end FrameLink
