/-
  Reading characters from the front of a text.

  A scanner takes the characters that are left of a text and
  yields those behind what it has read; it fails where that is
  not there.

  A digit has a value below its base.  From ten on the values
  are given by letters, of either case.

  Key definitions include:
    * `Text.after?`
    * `Text.digit?`
    * `Text.numberOf`
-/

------------------------------------------------------------
-- Single Characters
------------------------------------------------------------

namespace FrameLink

namespace Text

/- The rest behind a given character. -/
def after? (c : Char) : List Char → Option (List Char)
  | d :: cs => if d = c then some cs else none
  | [] => none

/- The character is there exactly when it can be skipped. -/
theorem after?_eq_some_iff
    {c : Char} {cs rest : List Char} :
    after? c cs = some rest ↔ cs = c :: rest := by
  cases cs with
  | nil => simp [after?]
  | cons d cs =>
      by_cases h : d = c
      · simp [after?, h]
      · simp [after?, h]

------------------------------------------------------------
-- Digits
------------------------------------------------------------

/- The value of a digit or letter, if it is one. -/
def digitValue? (c : Char) : Option Nat :=
  if '0' ≤ c ∧ c ≤ '9' then some (c.toNat - 48)
  else if 'a' ≤ c ∧ c ≤ 'f' then some (c.toNat - 87)
  else if 'A' ≤ c ∧ c ≤ 'F' then some (c.toNat - 55)
  else none

/- The value of a digit in a base of at most sixteen. -/
def digit? (base : Nat) (c : Char) : Option Nat :=
  (digitValue? c).filter (· < base)

/- The number that digits stand for, the highest digit first. -/
def numberOf (base : Nat) (digits : List Nat) : Nat :=
  digits.foldl (fun n d => n * base + d) 0

/- Zeros in front do not count. -/
theorem numberOf_dropWhile
    (base : Nat)
    (digits : List Nat) :
    numberOf base (digits.dropWhile (· == 0)) =
      numberOf base digits := by
  induction digits with
  | nil => rfl
  | cons d digits ih =>
      by_cases h : d = 0
      · subst h
        simpa [numberOf] using ih
      · simp [h]

end Text

end FrameLink
