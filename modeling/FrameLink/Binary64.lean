import FrameLink.Text.Scan

/-
  Floating-point numbers of 64 bits.

  A finite number is a whole significand of at most 53 bits
  times a power of two, with a sign.  A decimal is read as the
  nearest such number, and of two that are equally near as the
  one whose significand is even.

  Key definitions include:
    * `Binary64`
    * `Binary64.nearest`
    * `Binary64.leading`
    * `Binary64.ofDecimal`
-/

------------------------------------------------------------
-- Numbers
------------------------------------------------------------

namespace FrameLink

/- A number of 64 bits in binary floating point. -/
inductive Binary64 where
  | nan
  | infinite (negative : Bool)
  /- The significand times two to the exponent. -/
  | finite (negative : Bool) (significand : Nat)
      (exponent : Int)
  deriving DecidableEq

namespace Binary64

/- The least exponent of a finite number. -/
def minExponent : Int := -1074

/- The greatest exponent of a finite number. -/
def maxExponent : Int := 971

/- A power whose exponent may be negative, as a numerator. -/
def powNum (base : Nat) (e : Int) : Nat :=
  base.pow e.toNat

/- A power whose exponent may be negative, as a divisor. -/
def powDen (base : Nat) (e : Int) : Nat :=
  base.pow (-e).toNat

------------------------------------------------------------
-- Rounding
------------------------------------------------------------

/- The whole number nearest to a fraction; a half is even. -/
def roundHalfEven (num den : Nat) : Nat :=
  let n := num / den
  let r := num % den
  if 2 * r < den then n
  else if den < 2 * r then n + 1
  else n + n % 2

/-
  The exponent of the highest bit of a positive fraction.
-/
def highBit (num den : Nat) : Int :=
  let e : Int := Nat.log2 num - Nat.log2 den
  if den * powNum 2 e ≤ num * powDen 2 e then e else e - 1

/- The number nearest to a positive fraction. -/
def nearest (negative : Bool) (num den : Nat) : Binary64 :=
  let e := max (highBit num den - 52) minExponent
  let m := roundHalfEven (num * powDen 2 e) (den * powNum 2 e)
  let (m, e) :=
    if m = Nat.pow 2 53 then (Nat.pow 2 52, e + 1) else (m, e)
  if maxExponent < e then
    .infinite negative
  else
    .finite negative m e

------------------------------------------------------------
-- Decimals
------------------------------------------------------------

/-
  So many digits suffice to find the nearest number: no point
  halfway between two numbers has more of them behind its
  leading zeros.
-/
def decisiveDigits : Nat := 800

/-
  The decisive digits of a decimal.  Of those behind them it
  counts only whether all are zero, which a one in their place
  says as well.
-/
def leading (digits : List Nat) : List Nat :=
  let front := digits.take decisiveDigits
  if (digits.drop decisiveDigits).all (· == 0) then
    front
  else
    front ++ [1]

/-
  The number nearest to digits times a power of ten.  Powers
  far out of range are not computed.
-/
def ofDecimal
    (negative : Bool)
    (digits : List Nat)
    (power : Int) : Binary64 :=
  let digits := digits.dropWhile (· == 0)
  let top := power + digits.length
  if digits = [] ∨ top < -400 then
    .finite negative 0 minExponent
  else if 400 < top then
    .infinite negative
  else
    let front := leading digits
    let power := top - front.length
    nearest negative
      (Text.numberOf 10 front * powNum 10 power)
      (powDen 10 power)

end Binary64

end FrameLink
