import FrameLink.Toml.Strings

/-
  Dates and times of a document.

  A date has year, month and day, and the day exists in that
  month.  A time has hour, minute and second, perhaps with
  digits behind a point.  A date may be followed by a time,
  and that by an offset.

  Only the extent of a date or a time is read here; what it
  says is of no use to any reader of a document.

  Key definitions include:
    * `Toml.date?`
    * `Toml.time?`
    * `Toml.dateTime?`
-/

------------------------------------------------------------
-- Fields
------------------------------------------------------------

namespace FrameLink

namespace Toml

open Text (after? digit?)

/- A number of exactly two digits within bounds. -/
def twoDigits?
    (least most : Nat) :
    List Char → Option (Nat × List Char)
  | a :: b :: cs => do
      let n := (← digit? 10 a) * 10 + (← digit? 10 b)
      if least ≤ n ∧ n ≤ most then some (n, cs) else none
  | _ => none

/- A number of exactly four digits. -/
def year? : List Char → Option (Nat × List Char)
  | a :: b :: c :: d :: cs => do
      let high := (← digit? 10 a) * 10 + (← digit? 10 b)
      let low := (← digit? 10 c) * 10 + (← digit? 10 d)
      return (high * 100 + low, cs)
  | _ => none

------------------------------------------------------------
-- Dates
------------------------------------------------------------

/- A year with a day more. -/
def isLeapYear (year : Nat) : Bool :=
  year % 4 == 0 && (year % 100 != 0 || year % 400 == 0)

/- The days of a month. -/
def daysIn (year month : Nat) : Nat :=
  if month = 2 then
    if isLeapYear year then 29 else 28
  else if month ∈ [4, 6, 9, 11] then
    30
  else
    31

/- A date. -/
def date? (cs : List Char) : Option (List Char) := do
  let (year, cs) ← year? cs
  let (month, cs) ← twoDigits? 1 12 (← after? '-' cs)
  let (_, cs) ←
    twoDigits? 1 (daysIn year month) (← after? '-' cs)
  return cs

------------------------------------------------------------
-- Times
------------------------------------------------------------

/- Digits behind a point, if there is one. -/
def fraction? : List Char → Option (List Char)
  | '.' :: c :: cs =>
      if c.isDigit then
        some (cs.dropWhile Char.isDigit)
      else
        none
  | ['.'] => none
  | cs => some cs

/- A time of the day. -/
def time? (cs : List Char) : Option (List Char) := do
  let (_, cs) ← twoDigits? 0 23 cs
  let (_, cs) ← twoDigits? 0 59 (← after? ':' cs)
  let (_, cs) ← twoDigits? 0 60 (← after? ':' cs)
  fraction? cs

/- The hours and minutes of an offset. -/
def offsetBody? (cs : List Char) : Option (List Char) := do
  let (_, cs) ← twoDigits? 0 23 cs
  let (_, cs) ← twoDigits? 0 59 (← after? ':' cs)
  return cs

/- An offset, or nothing. -/
def offset? : List Char → Option (List Char)
  | 'Z' :: cs => some cs
  | 'z' :: cs => some cs
  | '+' :: cs => offsetBody? cs
  | '-' :: cs => offsetBody? cs
  | cs => some cs

------------------------------------------------------------
-- Dates with Times
------------------------------------------------------------

/- A time and an offset behind a date, or nothing. -/
def behindDate? : List Char → Option (List Char)
  | 'T' :: cs => (time? cs).bind offset?
  | 't' :: cs => (time? cs).bind offset?
  | ' ' :: c :: cs =>
      if c.isDigit then
        (time? (c :: cs)).bind offset?
      else
        some (' ' :: c :: cs)
  | cs => some cs

/- A date, a time, or both. -/
def dateTime? (cs : List Char) : Option (List Char) :=
  match date? cs with
  | some rest => behindDate? rest
  | none => time? cs

end Toml

end FrameLink
