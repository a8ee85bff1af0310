/-
  Blanks, comments and line ends of a document.

  Blanks are spaces and tabs.  A line ends with a line feed,
  which may follow a carriage return; a carriage return never
  stands alone.  A comment runs from a number sign to the end
  of its line and holds no control character but tabs.

  A scanner takes the rest of a document and yields the rest
  behind what it has read; it fails where that is not there.

  Key definitions include:
    * `Toml.skipBlanks`
    * `Toml.newline?`, `Toml.lineEnd?`
    * `Toml.closeLine?`
    * `Toml.skipGap?`
-/

------------------------------------------------------------
-- Characters
------------------------------------------------------------

namespace FrameLink

namespace Toml

/- A space or a tab. -/
def isBlank (c : Char) : Bool :=
  c == ' ' || c == '\t'

/- Any character but controls; tabs are allowed. -/
def isPlain (c : Char) : Bool :=
  c == '\t' || (0x20 ≤ c.toNat && c.toNat != 0x7F)

------------------------------------------------------------
-- Lines
------------------------------------------------------------

/- Skip blanks. -/
def skipBlanks (cs : List Char) : List Char :=
  cs.dropWhile isBlank

/- A line end within the document. -/
def newline? : List Char → Option (List Char)
  | '\n' :: cs => some cs
  | '\r' :: '\n' :: cs => some cs
  | _ => none

/- A line end, or the end of the document. -/
def lineEnd? : List Char → Option (List Char)
  | [] => some []
  | cs => newline? cs

/- Blanks, perhaps a comment, and the end of a line. -/
def closeLine? (cs : List Char) : Option (List Char) :=
  match skipBlanks cs with
  | '#' :: cs => lineEnd? (cs.dropWhile isPlain)
  | cs => lineEnd? cs

/-
  Skip blanks, line ends and comments, of which each is ended
  by a line end.  The flag tells that a comment has begun.
-/
def skipGap? : Bool → List Char → Option (List Char)
  | false, '#' :: cs => skipGap? true cs
  | _, '\n' :: cs => skipGap? false cs
  | _, '\r' :: '\n' :: cs => skipGap? false cs
  | _, '\r' :: _ => none
  | true, c :: cs =>
      if isPlain c then skipGap? true cs else none
  | true, [] => none
  | false, c :: cs =>
      if isBlank c then skipGap? false cs else some (c :: cs)
  | false, [] => some []

end Toml

end FrameLink
