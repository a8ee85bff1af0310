import FrameLink.Bytes
import FrameLink.Error

/-
  Frames: the form in which packets travel on a byte stream.

  A frame is a prefix of two bytes, the length of the payload
  with its high byte first, and then the payload.  Frames
  stand back to back, with nothing between them.

  Key definitions include:
    * `Frame.prefixSize`, `Frame.maxPayload`
    * `Frame.capacity`
    * `Frame.encodePrefix`, `Frame.decodePrefix?`
    * `Frame.encode`
    * `Frame.completeLength?`
    * `Frame.read?`
    * `Frame.unframe`
-/

------------------------------------------------------------
-- Limits
------------------------------------------------------------

namespace FrameLink

namespace Frame

/- The bytes of a prefix. -/
def prefixSize : Nat := 2

/- The greatest length that two bytes can announce. -/
def maxAnnounced : Nat := 65535

/- The greatest payload of a packet. -/
def maxPayload : Nat := 64 * 1024 - prefixSize

/- The room for the greatest frame. -/
def maxFrame : Nat := maxPayload + prefixSize

/-
  The room for one frame whose payload is at most `limit`,
  and never more than the greatest frame needs.
-/
def capacity (limit : Nat) : Nat :=
  if maxPayload < limit then
    maxFrame
  else
    limit + prefixSize

------------------------------------------------------------
-- Writing
------------------------------------------------------------

/- The two bytes that announce a length. -/
def prefixBytes (length : Nat) : Bytes :=
  [UInt8.ofNat (length / 256), UInt8.ofNat length]

/- The prefix of a payload, if the payload is allowed. -/
def encodePrefix
    (length limit : Nat) : Except SocketError Bytes :=
  if limit < length ∨ maxAnnounced < length then
    .error (.messageTooLarge length)
  else
    .ok (prefixBytes length)

/- The frame of a payload, with no regard to limits. -/
def bytes (payload : Bytes) : Bytes :=
  prefixBytes payload.length ++ payload

/- The frame of a payload of allowed length. -/
def encode (payload : Bytes) : Except SocketError Bytes :=
  (encodePrefix payload.length maxPayload).map
    (· ++ payload)

------------------------------------------------------------
-- Reading
------------------------------------------------------------

/- The length that the first two bytes announce. -/
def decodePrefix? : Bytes → Option Nat
  | high :: low :: _ => some (high.toNat * 256 + low.toNat)
  | _ => none

/- The size of the frame at the front, if it is all there. -/
def completeLength? (bs : Bytes) : Option Nat :=
  match decodePrefix? bs with
  | none => none
  | some n =>
      if prefixSize + n ≤ bs.length then
        some (prefixSize + n)
      else
        none

/-
  The payload of the frame at the front and what follows it,
  if the frame is all there.
-/
def read? : Bytes → Option (Bytes × Bytes)
  | high :: low :: rest =>
      Bytes.split? (high.toNat * 256 + low.toNat) rest
  | _ => none

/- A frame takes its prefix at least. -/
theorem length_lt_of_read?
    {bs payload rest : Bytes}
    (h : read? bs = some (payload, rest)) :
    rest.length < bs.length := by
  match bs, h with
  | high :: low :: tail, h =>
      obtain ⟨rfl, _⟩ := Bytes.split?_eq_some_iff.mp h
      simp only [List.length_cons, List.length_append]
      omega

/-
  The payloads of all complete frames at the front, in order,
  and the bytes behind the last of them.
-/
def unframe (bs : Bytes) : List Bytes × Bytes :=
  match h : read? bs with
  | none => ([], bs)
  | some (payload, rest) =>
      have : rest.length < bs.length := length_lt_of_read? h
      let (payloads, left) := unframe rest
      (payload :: payloads, left)
termination_by bs.length

end Frame

end FrameLink
