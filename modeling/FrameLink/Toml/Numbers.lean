import FrameLink.Toml.Node
import FrameLink.Toml.Strings

/-
  Numbers and booleans of a document.

  A whole number is decimal with an optional sign and without
  leading zeros, or it has a prefix for its base and no sign.
  It fits into 64 bits with a sign.  A number with a point or
  an exponent is a decimal; infinity and not-a-number are
  decimals too, but no decimal may overflow to infinity.
  Single underscores may stand between digits.

  Key definitions include:
    * `Toml.digits?`
    * `Toml.integerOf?`, `Toml.integerOfDigits?`
    * `Toml.exponentOf`
    * `Toml.number?`
    * `Toml.boolean?`
-/

------------------------------------------------------------
-- Digits
------------------------------------------------------------

namespace FrameLink

namespace Toml

open Text (digit? numberOf)

/-
  Further digits, with single underscores between them, and
  the rest.
-/
def moreDigits?
    (base : Nat) :
    List Char → Option (List Nat × List Char)
  | [] => some ([], [])
  | '_' :: c :: cs =>
      match digit? base c with
      | some d =>
          (moreDigits? base cs).map
            (fun (ds, rest) => (d :: ds, rest))
      | none => none
  | ['_'] => none
  | c :: cs =>
      match digit? base c with
      | some d =>
          (moreDigits? base cs).map
            (fun (ds, rest) => (d :: ds, rest))
      | none => some ([], c :: cs)

/- One digit and further ones. -/
def digits?
    (base : Nat) :
    List Char → Option (List Nat × List Char)
  | [] => none
  | c :: cs =>
      match digit? base c with
      | some _ => moreDigits? base (c :: cs)
      | none => none

/- A sign, and whether it is a minus. -/
def sign : List Char → Bool × List Char
  | '-' :: cs => (true, cs)
  | '+' :: cs => (false, cs)
  | cs => (false, cs)

/- Decimal digits without a leading zero, or one zero. -/
def wholePart? :
    List Char → Option (List Nat × List Char)
  | '0' :: cs => some ([0], cs)
  | cs => digits? 10 cs

------------------------------------------------------------
-- Whole Numbers
------------------------------------------------------------

/- A whole number, if it fits into 64 bits with a sign. -/
def integerOf? (negative : Bool) (n : Nat) : Option Node :=
  if negative then
    if n ≤ Nat.pow 2 63 then
      some (.integer (-(n : Int)))
    else
      none
  else
    if n < Nat.pow 2 63 then
      some (.integer n)
    else
      none

/-
  The whole number that digits stand for.  More than 64 of
  them behind the leading zeros fit in no base.
-/
def integerOfDigits?
    (negative : Bool)
    (base : Nat)
    (digits : List Nat) : Option Node :=
  let digits := digits.dropWhile (· == 0)
  if 64 < digits.length then
    none
  else
    integerOf? negative (numberOf base digits)

/- A whole number in a base that a prefix has named. -/
def prefixed?
    (base : Nat)
    (cs : List Char) : Option (Node × List Char) := do
  let (digits, rest) ← digits? base cs
  return (← integerOfDigits? false base digits, rest)

------------------------------------------------------------
-- Decimals
------------------------------------------------------------

/- A decimal, unless it overflows above. -/
def decimalOf?
    (negative : Bool)
    (digits : List Nat)
    (power : Int) : Option Node :=
  match Binary64.ofDecimal negative digits power with
  | .infinite false => none
  | value => some (.decimal value)

/-
  The size of an exponent.  Its digits are taken in until the
  value reaches two to the sixteenth; those that follow have
  no effect.
-/
def exponentOf (digits : List Nat) : Nat :=
  digits.foldl
    (fun n d => if n < Nat.pow 2 16 then n * 10 + d else n) 0

/- An exponent with its sign. -/
def exponent?
    (cs : List Char) : Option (Int × List Char) := do
  let (negative, cs) := sign cs
  let (digits, rest) ← digits? 10 cs
  let n : Int := exponentOf digits
  return (if negative then -n else n, rest)

/- An exponent and its mark, or nothing with value zero. -/
def optionalExponent? :
    List Char → Option (Int × List Char)
  | 'e' :: cs => exponent? cs
  | 'E' :: cs => exponent? cs
  | cs => some (0, cs)

/- What follows the whole part of a number. -/
def behindWhole?
    (negative : Bool)
    (whole : List Nat) :
    List Char → Option (Node × List Char)
  | '.' :: cs => do
      let (places, rest) ← digits? 10 cs
      let (power, rest) ← optionalExponent? rest
      let node ←
        decimalOf? negative (whole ++ places)
          (power - places.length)
      return (node, rest)
  | 'e' :: cs => do
      let (power, rest) ← exponent? cs
      return (← decimalOf? negative whole power, rest)
  | 'E' :: cs => do
      let (power, rest) ← exponent? cs
      return (← decimalOf? negative whole power, rest)
  | cs => do
      return (← integerOfDigits? negative 10 whole, cs)

/- Infinity or not-a-number. -/
def special?
    (negative : Bool) :
    List Char → Option (Node × List Char)
  | 'i' :: 'n' :: 'f' :: cs =>
      some (.decimal (.infinite negative), cs)
  | 'n' :: 'a' :: 'n' :: cs => some (.decimal .nan, cs)
  | _ => none

------------------------------------------------------------
-- Numbers
------------------------------------------------------------

/- A number with an optional sign. -/
def signed?
    (cs : List Char) : Option (Node × List Char) :=
  let (negative, cs) := sign cs
  match wholePart? cs with
  | some (whole, rest) => behindWhole? negative whole rest
  | none => special? negative cs

/- A number of any kind. -/
def number? :
    List Char → Option (Node × List Char)
  | '0' :: 'x' :: cs => prefixed? 16 cs
  | '0' :: 'o' :: cs => prefixed? 8 cs
  | '0' :: 'b' :: cs => prefixed? 2 cs
  | cs => signed? cs

/- A boolean. -/
def boolean? :
    List Char → Option (Node × List Char)
  | 't' :: 'r' :: 'u' :: 'e' :: cs =>
      some (.boolean true, cs)
  | 'f' :: 'a' :: 'l' :: 's' :: 'e' :: cs =>
      some (.boolean false, cs)
  | _ => none

end Toml

end FrameLink
