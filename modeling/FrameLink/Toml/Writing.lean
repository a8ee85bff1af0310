/-
  Writing strings of a document.

  A string is written in the plainest way that shows it as it
  is.  Between double quotes it can go on one line, if it has
  nothing to escape; else between single quotes, if it has
  none itself; else over several lines, between three double
  or three single quotes.  Where none of these will do, it is
  written with escapes.

  Key definitions include:
    * `Toml.Style`, `Toml.styleOf`
    * `Toml.writeBody`
    * `Toml.writeString`
-/

------------------------------------------------------------
-- What a String Holds
------------------------------------------------------------

namespace FrameLink

namespace Toml

/- A control character that is written by an escape only. -/
def needsEscape (c : Char) : Bool :=
  c != '\t' && c != '\n' &&
    (c.toNat < 0x20 || c.toNat == 0x7F)

/-
  The longest run of a character, given the length of the run
  that has just been passed.
-/
def longestRun (quote : Char) : Nat → List Char → Nat
  | n, [] => n
  | n, c :: cs =>
      if c = quote then
        longestRun quote (n + 1) cs
      else
        max n (longestRun quote 0 cs)

------------------------------------------------------------
-- Styles
------------------------------------------------------------

/- The ways to write a string. -/
inductive Style where
  | basic
  | literal
  | basicLines
  | literalLines
  deriving DecidableEq

/- The way in which a string is written. -/
def styleOf (cs : List Char) : Style :=
  let controls := cs.any needsEscape
  let backslash := cs.contains '\\'
  let newline := cs.contains '\n'
  let doubles := longestRun '"' 0 cs
  let singles := longestRun '\'' 0 cs
  if !controls && !backslash && doubles == 0 && !newline then
    .basic
  else if !controls && singles == 0 && !newline then
    .literal
  else if !controls && !backslash && doubles ≤ 2 then
    .basicLines
  else if !controls && singles ≤ 2 then
    .literalLines
  else if newline then
    .basicLines
  else
    .basic

------------------------------------------------------------
-- Escapes
------------------------------------------------------------

/- Upper-case hexadecimal digits, at least four. -/
def hexFour (n : Nat) : List Char :=
  let digits := (Nat.toDigits 16 n).map Char.toUpper
  List.replicate (4 - digits.length) '0' ++ digits

/- A character that is not a quote, between double quotes. -/
def writeChar (lines : Bool) (c : Char) : List Char :=
  match c with
  | '\x08' => ['\\', 'b']
  | '\t' => ['\\', 't']
  | '\n' => if lines then ['\n'] else ['\\', 'n']
  | '\x0c' => ['\\', 'f']
  | '\r' => ['\\', 'r']
  | '\\' => ['\\', '\\']
  | c =>
      if needsEscape c then
        '\\' :: 'u' :: hexFour c.toNat
      else
        [c]

/-
  Characters between double quotes.  Over several lines two
  quotes in a row stand for themselves, and the next one is
  escaped; on one line every quote is.  The number counts the
  quotes just written.
-/
def writeBody (lines : Bool) : Nat → List Char → List Char
  | _, [] => []
  | n, '"' :: cs =>
      if lines && n < 2 then
        '"' :: writeBody lines (n + 1) cs
      else
        '\\' :: '"' :: writeBody lines 0 cs
  | _, c :: cs => writeChar lines c ++ writeBody lines 0 cs

------------------------------------------------------------
-- Strings
------------------------------------------------------------

/- The line end that opens a string with line ends. -/
def openingLine (cs : List Char) : List Char :=
  if cs.contains '\n' then ['\n'] else []

/- A string as it is written in a document. -/
def writeString (cs : List Char) : List Char :=
  match styleOf cs with
  | .basic => '"' :: writeBody false 0 cs ++ ['"']
  | .literal => '\'' :: cs ++ ['\'']
  | .basicLines =>
      ['"', '"', '"'] ++ openingLine cs ++
        writeBody true 0 cs ++ ['"', '"', '"']
  | .literalLines =>
      ['\'', '\'', '\''] ++ openingLine cs ++ cs ++
        ['\'', '\'', '\'']

end Toml

end FrameLink
