import FrameLink.Text.Scan
import FrameLink.Toml.Lines

/-
  Strings of a document.

  A string stands between double quotes, with escapes, or
  between single quotes, as it is.  Between three quotes of
  either kind it may run over several lines; a line end right
  behind the opening quotes does not belong to it, and up to
  two quotes may stand right before the closing ones.

  Key definitions include:
    * `Toml.escape?`
    * `Toml.basicBody?`, `Toml.literalBody?`
    * `Toml.basicLines?`, `Toml.literalLines?`
    * `Toml.string?`
-/

------------------------------------------------------------
-- Escapes
------------------------------------------------------------

namespace FrameLink

namespace Toml

open Text (digit?)

/- The number of exactly so many hexadecimal digits. -/
def hexNumber? :
    Nat → Nat → List Char → Option (Nat × List Char)
  | 0, n, cs => some (n, cs)
  | _ + 1, _, [] => none
  | more + 1, n, c :: cs =>
      match digit? 16 c with
      | some d => hexNumber? more (n * 16 + d) cs
      | none => none

/- A character given by so many hexadecimal digits. -/
def codePoint?
    (digits : Nat)
    (cs : List Char) : Option (Char × List Char) :=
  match hexNumber? digits 0 cs with
  | some (n, rest) =>
      if n.isValidChar then
        some (Char.ofNat n, rest)
      else
        none
  | none => none

/- The character that an escape stands for. -/
def escape? : List Char → Option (Char × List Char)
  | 'b' :: cs => some ('\x08', cs)
  | 't' :: cs => some ('\t', cs)
  | 'n' :: cs => some ('\n', cs)
  | 'f' :: cs => some ('\x0c', cs)
  | 'r' :: cs => some ('\r', cs)
  | '"' :: cs => some ('"', cs)
  | '\\' :: cs => some ('\\', cs)
  | 'u' :: cs => codePoint? 4 cs
  | 'U' :: cs => codePoint? 8 cs
  | _ => none

/- Put characters before what a scanner has read. -/
def andThen
    (front : List Char) :
    Option (List Char × List Char) →
      Option (List Char × List Char)
  | some (cs, rest) => some (front ++ cs, rest)
  | none => none

------------------------------------------------------------
-- Strings on One Line
------------------------------------------------------------

/-
  A string with escapes, up to its closing quote.  The first
  argument bounds the number of characters.
-/
def basicBody? :
    Nat → List Char → Option (List Char × List Char)
  | 0, _ => none
  | _ + 1, [] => none
  | _ + 1, '"' :: cs => some ([], cs)
  | fuel + 1, '\\' :: cs =>
      match escape? cs with
      | some (c, rest) => andThen [c] (basicBody? fuel rest)
      | none => none
  | fuel + 1, c :: cs =>
      if isPlain c then
        andThen [c] (basicBody? fuel cs)
      else
        none

/- A string without escapes, up to its closing quote. -/
def literalBody? :
    List Char → Option (List Char × List Char)
  | [] => none
  | '\'' :: cs => some ([], cs)
  | c :: cs =>
      if isPlain c then
        andThen [c] (literalBody? cs)
      else
        none

------------------------------------------------------------
-- Strings over Several Lines
------------------------------------------------------------

/- Skip a line end at the very start. -/
def skipNewline (cs : List Char) : List Char :=
  (newline? cs).getD cs

/- Skip blanks and line ends. -/
def skipBreaks : List Char → List Char
  | ' ' :: cs => skipBreaks cs
  | '\t' :: cs => skipBreaks cs
  | '\n' :: cs => skipBreaks cs
  | '\r' :: '\n' :: cs => skipBreaks cs
  | cs => cs

/-
  What follows a backslash that ends its line, from the next
  character that is no blank and no line end.
-/
def foldedLine? (cs : List Char) : Option (List Char) :=
  (newline? (skipBlanks cs)).map skipBreaks

/-
  A run of quotes inside or at the end of a string: one or two
  belong to it, and of three to five the last three close it.
-/
inductive Quotes where
  | inside (n : Nat)
  | closing (n : Nat)
  | tooMany

/- What a run of so many quotes means. -/
def quotesOf (n : Nat) : Quotes :=
  if n < 3 then .inside n
  else if n ≤ 5 then .closing (n - 3)
  else .tooMany

/- The length of the run of a character at the front. -/
def runLength (quote : Char) (cs : List Char) : Nat :=
  (cs.takeWhile (· == quote)).length

/- The rest behind the run of a character at the front. -/
def behindRun (quote : Char) (cs : List Char) : List Char :=
  cs.dropWhile (· == quote)

/-
  A string with escapes over several lines.  The first
  argument bounds the number of characters.
-/
def basicLines? :
    Nat → List Char → Option (List Char × List Char)
  | 0, _ => none
  | _ + 1, [] => none
  | fuel + 1, '"' :: cs =>
      let n := runLength '"' cs + 1
      let rest := behindRun '"' cs
      match quotesOf n with
      | .inside n =>
          andThen (List.replicate n '"')
            (basicLines? fuel rest)
      | .closing n => some (List.replicate n '"', rest)
      | .tooMany => none
  | fuel + 1, '\\' :: cs =>
      match foldedLine? cs with
      | some rest => basicLines? fuel rest
      | none =>
          match escape? cs with
          | some (c, rest) =>
              andThen [c] (basicLines? fuel rest)
          | none => none
  | fuel + 1, c :: cs =>
      match newline? (c :: cs) with
      | some rest => andThen ['\n'] (basicLines? fuel rest)
      | none =>
          if isPlain c then
            andThen [c] (basicLines? fuel cs)
          else
            none

/-
  A string without escapes over several lines.  The first
  argument bounds the number of characters.
-/
def literalLines? :
    Nat → List Char → Option (List Char × List Char)
  | 0, _ => none
  | _ + 1, [] => none
  | fuel + 1, '\'' :: cs =>
      let n := runLength '\'' cs + 1
      let rest := behindRun '\'' cs
      match quotesOf n with
      | .inside n =>
          andThen (List.replicate n '\'')
            (literalLines? fuel rest)
      | .closing n => some (List.replicate n '\'', rest)
      | .tooMany => none
  | fuel + 1, c :: cs =>
      match newline? (c :: cs) with
      | some rest => andThen ['\n'] (literalLines? fuel rest)
      | none =>
          if isPlain c then
            andThen [c] (literalLines? fuel cs)
          else
            none

------------------------------------------------------------
-- Strings
------------------------------------------------------------

/- A string of one line, of either kind. -/
def lineString? :
    List Char → Option (List Char × List Char)
  | '"' :: cs => basicBody? (cs.length + 1) cs
  | '\'' :: cs => literalBody? cs
  | _ => none

/- A string of any kind. -/
def string? :
    List Char → Option (List Char × List Char)
  | '"' :: '"' :: '"' :: cs =>
      basicLines? (cs.length + 1) (skipNewline cs)
  | '\'' :: '\'' :: '\'' :: cs =>
      literalLines? (cs.length + 1) (skipNewline cs)
  | cs => lineString? cs

end Toml

end FrameLink
