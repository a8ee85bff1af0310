import FrameLink.Binary64

/-
  The shortest decimal that reads back as a given number.

  A decimal reads back as a number when it lies between the
  points halfway to the numbers next to it; the points
  themselves count when the significand is even.  Of all such
  decimals those with the fewest digits are taken, of these
  the one nearest to the number, and of two equally near the
  greater.

  The text of a number is positional, with a point in every
  case, however large or small the number is.

  Key definitions include:
    * `Binary64.magnitude`
    * `Binary64.onGrid?`
    * `Binary64.shortest`
    * `Binary64.toText`
-/

------------------------------------------------------------
-- Decimal Grids
------------------------------------------------------------

namespace FrameLink

namespace Binary64

/-
  The least power of ten above a positive fraction, by its
  exponent.
-/
def magnitude (num den : Nat) : Int :=
  if den ≤ num then
    (Nat.toDigits 10 (num / den)).length
  else
    1 - ((Nat.toDigits 10 ((den - 1) / num)).length : Int)

/-
  The best multiple of a power of ten that reads back as a
  number, if there is one.  All is counted in quarters of the
  distance to the next number.
-/
def onGrid?
    (m : Nat)
    (e scale : Int) : Option Nat :=
  let unit := powNum 2 (e - 2) * powDen 10 scale
  let step := powNum 10 scale * powDen 2 (e - 2)
  let below :=
    if m = Nat.pow 2 52 ∧ minExponent < e then 1 else 2
  let low := (4 * m - below) * unit
  let high := (4 * m + 2) * unit
  let inside (c : Nat) : Bool :=
    if m % 2 = 0 then
      low ≤ c * step && c * step ≤ high
    else
      low < c * step && c * step < high
  let c := 4 * m * unit / step
  match inside c, inside (c + 1) with
  | true, true =>
      let twice := 2 * (4 * m * unit)
      if twice < (2 * c + 1) * step then
        some c
      else
        some (c + 1)
  | true, false => some c
  | false, true => some (c + 1)
  | false, false => none

/-
  The first hit on the grids from so many digits on, with the
  exponent of its grid.
-/
def firstHit
    (m : Nat)
    (e top : Int) :
    Nat → Nat → Nat × Int
  | 0, digits =>
      ((onGrid? m e (top - digits)).getD 0, top - digits)
  | more + 1, digits =>
      match onGrid? m e (top - digits) with
      | some c => (c, top - digits)
      | none => firstHit m e top more (digits + 1)

/- The shortest decimal, as digits and a power of ten. -/
def shortest (m : Nat) (e : Int) : Nat × Int :=
  firstHit m e (magnitude (m * powNum 2 e) (powDen 2 e)) 16 1

------------------------------------------------------------
-- Texts
------------------------------------------------------------

/- Digits without the zeros at their end. -/
def trimZeros (digits : List Char) : List Char :=
  (digits.reverse.dropWhile (· = '0')).reverse

/-
  Digits with a point so many places behind their start.
-/
def positional
    (digits : List Char)
    (point : Int) : List Char :=
  let size := digits.length
  if point ≤ 0 then
    '0' :: '.' ::
      (List.replicate (-point).toNat '0' ++ digits)
  else if size ≤ point.toNat then
    digits ++ List.replicate (point.toNat - size) '0' ++
      ['.', '0']
  else
    digits.take point.toNat ++
      '.' :: digits.drop point.toNat

/- The text of a magnitude. -/
def magnitudeText (m : Nat) (e : Int) : List Char :=
  if m = 0 then
    ['0', '.', '0']
  else
    let (c, scale) := shortest m e
    let digits := Nat.toDigits 10 c
    positional (trimZeros digits) (digits.length + scale)

/- The text of a number. -/
def toText : Binary64 → String
  | .nan => "NaN"
  | .infinite negative => if negative then "-inf" else "inf"
  | .finite negative m e =>
      let sign := if negative then ['-'] else []
      String.ofList (sign ++ magnitudeText m e)

end Binary64

end FrameLink
