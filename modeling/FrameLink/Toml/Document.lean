import FrameLink.Toml.Values

/-
  Reading a document.

  A document is a sequence of lines.  A line is blank, or it
  holds a comment, a pair, or a header, and a value in a pair
  may make it run on.  The pairs before the first header
  belong to the document itself, and those below a header to
  the section of that header.  A byte-order mark at the very
  start is skipped.

  Key definitions include:
    * `Toml.Line`
    * `Toml.lines?`
    * `Toml.sections`
    * `Toml.Table.ofText?`
-/

------------------------------------------------------------
-- Lines
------------------------------------------------------------

namespace FrameLink

namespace Toml

open Text (after?)

/- What a line of a document holds. -/
inductive Line where
  | blank
  | pair (pair : Pair)
  | header (repeated : Bool) (path : List Key) (key : Key)
      (span : Span)

/- How deep values may be nested. -/
def nesting : Nat := depthLimit - 1

/- A header, from behind its opening brackets. -/
def headerBody?
    (repeated : Bool)
    (start cs : List Char) : Option (Line × List Char) := do
  let ((path, key), rest) ← key? cs
  let rest ← after? ']' rest
  let rest ← if repeated then after? ']' rest else some rest
  let line := Line.header repeated path key (spanOf start rest)
  return (line, ← closeLine? rest)

/- The line at the front, blanks before it skipped. -/
def line? (cs : List Char) : Option (Line × List Char) :=
  match cs with
  | '#' :: _ => (closeLine? cs).map (fun r => (.blank, r))
  | '\n' :: _ => (newline? cs).map (fun r => (.blank, r))
  | '\r' :: _ => (newline? cs).map (fun r => (.blank, r))
  | '[' :: '[' :: rest => headerBody? true cs rest
  | '[' :: rest => headerBody? false cs rest
  | _ => do
      let (pair, rest) ← pair? (value? nesting) cs
      return (.pair pair, ← closeLine? rest)

/-
  All lines of a document.  The first argument bounds their
  number.
-/
def lines? : Nat → List Char → Option (List Line)
  | 0, _ => none
  | more + 1, cs =>
      match skipBlanks cs with
      | [] => some []
      | cs =>
          match line? cs with
          | some (line, rest) =>
              (lines? more rest).map (line :: ·)
          | none => none

------------------------------------------------------------
-- Sections
------------------------------------------------------------

/-
  The pairs before the first header, and the section of each
  header.
-/
def sections : List Line → List Pair × List Section
  | [] => ([], [])
  | .blank :: lines => sections lines
  | .pair pair :: lines =>
      let (pairs, rest) := sections lines
      (pair :: pairs, rest)
  | .header repeated path key span :: lines =>
      let (pairs, rest) := sections lines
      ([], ⟨repeated, path, key, span, pairs⟩ :: rest)

------------------------------------------------------------
-- Documents
------------------------------------------------------------

/- Skip a byte-order mark. -/
def skipMark : List Char → List Char
  | '\uFEFF' :: cs => cs
  | cs => cs

/- The table that a document stands for, if it is valid. -/
def Table.ofText? (document : List Char) : Option Table := do
  let cs := skipMark document
  let (pairs, rest) := sections (← lines? (cs.length + 1) cs)
  Table.ofSections? pairs rest

end Toml

end FrameLink
