import FrameLink.Address
import FrameLink.Text.Quoted
import FrameLink.Text.Scan

/-
  Written addresses.

  Four octets are written with dots.  Eight groups are written
  in brackets, in lower-case hexadecimal; the longest run of at
  least two zero groups, the first of equals, shrinks to a
  double colon, and an address that embeds four octets ends in
  them.  A scope other than zero follows a percent sign.

  Reading takes every written form, also one with needless
  zeros in a group or a port, or with a run of zeros in full.

  Key definitions include:
    * `Address.toText`
    * `Address.ofText?`
-/

------------------------------------------------------------
-- Writing
------------------------------------------------------------

namespace FrameLink

namespace IpAddress

/- Four octets with dots between them. -/
def octetsText (a b c d : UInt8) : String :=
  ".".intercalate ([a, b, c, d].map (toString ·.toNat))

/- The length of the run of zero groups at the front. -/
def zeroRun (groups : List UInt16) : Nat :=
  (groups.takeWhile (· == 0)).length

/-
  Start and length of the longest run of zero groups, the
  first one of equals; the length is zero without any.
-/
def longestRun (groups : List UInt16) : Nat × Nat :=
  (List.range groups.length).foldl
    (fun best i =>
      let n := zeroRun (groups.drop i)
      if best.2 < n then (i, n) else best)
    (0, 0)

/- Groups with colons between them. -/
def groupsText (groups : List UInt16) : String :=
  ":".intercalate (groups.map (Text.hex ·.toNat))

/- The octets of an address that embeds four of them. -/
def embedded? : List UInt16 → Option (UInt16 × UInt16)
  | [0, 0, 0, 0, 0, 0xFFFF, g, h] => some (g, h)
  | _ => none

/- Eight groups, with the longest run of zeros shortened. -/
def v6Text (groups : List UInt16) : String :=
  match embedded? groups with
  | some (g, h) =>
      "::ffff:" ++
        octetsText (g >>> 8).toUInt8 g.toUInt8
          (h >>> 8).toUInt8 h.toUInt8
  | none =>
      let (start, n) := longestRun groups
      if n < 2 then
        groupsText groups
      else
        groupsText (groups.take start) ++ "::" ++
          groupsText (groups.drop (start + n))

end IpAddress

namespace Address

/- The written form of an address. -/
def toText (address : Address) : String :=
  let port := ":" ++ toString address.port.toNat
  match address.ip with
  | .v4 a b c d => IpAddress.octetsText a b c d ++ port
  | .v6 groups scope =>
      let mark :=
        if scope = 0 then "" else "%" ++ toString scope.toNat
      "[" ++ IpAddress.v6Text groups.toList ++ mark ++ "]" ++ port

end Address

------------------------------------------------------------
-- Reading
------------------------------------------------------------

namespace Address

open Text (after? digit?)

/- The number that a list of digits stands for. -/
def digitsValue (base : Nat) (ds : List Char) : Nat :=
  ds.foldl
    (fun n c => n * base + (digit? base c).getD 0)
    0

/-
  The number at the front, of at most `most` digits and at
  most `top`; a leading zero stands alone unless `padded`.
-/
def number?
    (base most top : Nat)
    (padded : Bool)
    (cs : List Char) : Option (Nat × List Char) :=
  let ds := cs.takeWhile (fun c => (digit? base c).isSome)
  let n := digitsValue base ds
  if ds.isEmpty || most < ds.length || top < n then
    none
  else if !padded && ds.head? == some '0' &&
      ds.length != 1 then
    none
  else
    some (n, cs.drop ds.length)

/- One octet: up to three digits, without a needless zero. -/
def octet? (cs : List Char) : Option (UInt8 × List Char) :=
  (number? 10 3 255 false cs).map
    (fun (n, r) => (UInt8.ofNat n, r))

/- Four octets at the front. -/
def octets?
    (cs : List Char) :
    Option ((UInt8 × UInt8 × UInt8 × UInt8) × List Char) := do
  let (a, r) ← octet? cs
  let (b, r) ← octet? (← after? '.' r)
  let (c, r) ← octet? (← after? '.' r)
  let (d, r) ← octet? (← after? '.' r)
  return ((a, b, c, d), r)

/- Two octets as one group. -/
def pairGroup (a b : UInt8) : UInt16 :=
  a.toUInt16 <<< 8 ||| b.toUInt16

/-
  At most `slots` groups at the front, with colons between
  them, and whether four octets took the place of the last
  two.
-/
def groups
    (first : Bool) :
    Nat → List Char → List UInt16 × Bool × List Char
  | 0, cs => ([], false, cs)
  | slots + 1, cs =>
      match if first then some cs else after? ':' cs with
      | none => ([], false, cs)
      | some inner =>
          match if slots = 0 then none else octets? inner with
          | some ((a, b, c, d), r) =>
              ([pairGroup a b, pairGroup c d], true, r)
          | none =>
              match number? 16 4 0xFFFF true inner with
              | none => ([], false, cs)
              | some (g, r) =>
                  let (gs, four, r) := groups false slots r
                  (UInt16.ofNat g :: gs, four, r)

/- Eight groups, a double colon standing for zeros. -/
def v6Groups?
    (cs : List Char) :
    Option (Vector UInt16 8 × List Char) :=
  let build (gs : List UInt16) :=
    Vector.ofFn (fun i : Fin 8 => gs.getD i 0)
  match groups true 8 cs with
  | (head, four, r) =>
      if head.length = 8 then
        some (build head, r)
      else if four then
        none
      else do
        let r ← after? ':' (← after? ':' r)
        let (tail, _, r) := groups true (7 - head.length) r
        let gap := 8 - head.length - tail.length
        return (build (head ++ List.replicate gap 0 ++ tail), r)

/- A port at the very end. -/
def port? (cs : List Char) : Option UInt16 := do
  let (n, r) ←
    number? 10 cs.length 0xFFFF true (← after? ':' cs)
  if r.isEmpty then some (UInt16.ofNat n) else none

/- The scope at the front, zero where none is written. -/
def scope (cs : List Char) : UInt32 × List Char :=
  let written := do
    number? 10 cs.length 0xFFFFFFFF true (← after? '%' cs)
  match written with
  | some (n, r) => (UInt32.ofNat n, r)
  | none => (0, cs)

/- An address with four octets. -/
def ofText4? (cs : List Char) : Option Address := do
  let ((a, b, c, d), r) ← octets? cs
  return ⟨.v4 a b c d, ← port? r⟩

/- An address with eight groups. -/
def ofText6? (cs : List Char) : Option Address := do
  let (gs, r) ← v6Groups? (← after? '[' cs)
  let (n, r) := scope r
  return ⟨.v6 gs n, ← port? (← after? ']' r)⟩

/- The address that a text is the written form of. -/
def ofText? (s : String) : Option Address :=
  (ofText4? s.toList).or (ofText6? s.toList)

end Address

end FrameLink
