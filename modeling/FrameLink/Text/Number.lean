import FrameLink.Text.Scan

/-
  Whole numbers as words.

  A number is written in decimal digits, with a plus sign in
  front if one likes, and with as many zeros in front as one
  likes.  Digits are read from the left, and the first fault
  that is met decides: a character that is no digit, or a
  value beyond the greatest that is allowed.

  Key definitions include:
    * `Text.NumberFault`
    * `Text.readNumber`
-/

------------------------------------------------------------
-- Numbers
------------------------------------------------------------

namespace FrameLink

namespace Text

/- Why a word is no number. -/
inductive NumberFault where
  | empty
  | invalidDigit
  | tooLarge
  deriving DecidableEq

namespace NumberFault

/- The words for a fault. -/
def message : NumberFault → String
  | .empty => "cannot parse integer from empty string"
  | .invalidDigit => "invalid digit found in string"
  | .tooLarge => "number too large to fit in target type"

end NumberFault

/- Read digits behind a value, up to the greatest value. -/
def readDigits
    (top : Nat) :
    Nat → List Char → Except NumberFault Nat
  | n, [] => .ok n
  | n, c :: cs =>
      match digit? 10 c with
      | none => .error .invalidDigit
      | some d =>
          if top < n * 10 + d then
            .error .tooLarge
          else
            readDigits top (n * 10 + d) cs

/- Read a word as a number of at most `top`. -/
def readNumber
    (top : Nat)
    (word : List Char) : Except NumberFault Nat :=
  match word with
  | [] => .error .empty
  | ['+'] => .error .invalidDigit
  | '+' :: cs => readDigits top 0 cs
  | cs => readDigits top 0 cs

end Text

end FrameLink
