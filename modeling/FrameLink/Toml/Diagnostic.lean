import FrameLink.Mismatch
import FrameLink.Toml.Node

/-
  Messages about a place in a document.

  A message shows the line in which a span begins, with marks
  below as much of the span as is on that line.  Lines and
  columns are counted from one, columns in characters, and the
  marks number the bytes of the span.

  Key definitions include:
    * `Toml.Misfit`
    * `Toml.Place`, `Toml.placeOf`
    * `Toml.Misfit.message`
-/

------------------------------------------------------------
-- Misfits
------------------------------------------------------------

namespace FrameLink

namespace Toml

/- A value that does not fit, and where it is written. -/
structure Misfit where
  reason : Mismatch
  span : Option Span := none
  deriving DecidableEq

namespace Misfit

/- Place a misfit that has no place yet. -/
def placedAt (m : Misfit) (span : Option Span) : Misfit :=
  { m with span := m.span.or span }

end Misfit

------------------------------------------------------------
-- Places
------------------------------------------------------------

/- The number of bytes of a text. -/
def byteLength (cs : List Char) : Nat :=
  (String.ofList cs).utf8ByteSize

/- A span as a message shows it. -/
structure Place where
  line : Nat
  column : Nat
  /- The line in which the span begins. -/
  content : List Char
  marks : Nat
  deriving DecidableEq

/- The characters before the first line feed. -/
def firstLine (cs : List Char) : List Char :=
  cs.takeWhile (· != '\n')

/- The characters behind the last line feed. -/
def lastLine (cs : List Char) : List Char :=
  (firstLine cs.reverse).reverse

/- The place of a span in a document. -/
def placeOf (document : List Char) (span : Span) : Place :=
  let size := document.length
  let before := document.take (size - span.start)
  let rest := document.drop (size - span.start)
  let inside := rest.take (span.start - span.stop)
  let lead := lastLine before
  let content := lead ++ firstLine rest
  { line := before.count '\n' + 1
    column := lead.length + 1
    content
    marks :=
      max 1
        (min (byteLength inside)
          (byteLength content - lead.length)) }

------------------------------------------------------------
-- Messages
------------------------------------------------------------

/- So many times the same character. -/
def repeated (c : Char) (n : Nat) : String :=
  String.ofList (List.replicate n c)

/- A place with its line and the marks below it. -/
def Place.text (p : Place) : String :=
  let number := toString p.line
  let gutter := repeated ' ' (number.length + 1)
  s!"TOML parse error at line {p.line}, " ++
    s!"column {p.column}\n" ++
    gutter ++ "|\n" ++
    number ++ " | " ++ String.ofList p.content ++ "\n" ++
    gutter ++ "|" ++ repeated ' ' p.column ++
    repeated '^' p.marks ++ "\n"

/- The message about a misfit in a document. -/
def Misfit.message
    (document : List Char)
    (m : Misfit) : String :=
  let place :=
    match m.span with
    | some span => (placeOf document span).text
    | none => ""
  place ++ m.reason.message ++ "\n"

end Toml

end FrameLink
