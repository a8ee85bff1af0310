import FrameLink.Toml.Node
import FrameLink.Toml.Strings

/-
  Keys of a document.

  A key has parts with dots between them, and blanks may stand
  around each part.  A part is bare, of letters, digits,
  underscores and hyphens, or it is a string on one line.  A
  key of too many parts is refused.

  Key definitions include:
    * `Toml.keyPart?`
    * `Toml.key?`
-/

------------------------------------------------------------
-- Parts
------------------------------------------------------------

namespace FrameLink

namespace Toml

/- How deep keys, arrays and tables may go, less one. -/
def depthLimit : Nat := 80

/- A character of a bare part. -/
def isBare (c : Char) : Bool :=
  c.isAlphanum || c == '_' || c == '-'

/- A bare part. -/
def barePart?
    (cs : List Char) : Option (List Char × List Char) :=
  let name := cs.takeWhile isBare
  if name.isEmpty then
    none
  else
    some (name, cs.dropWhile isBare)

/- One part of a key. -/
def keyPart? (cs : List Char) : Option (Key × List Char) :=
  let part :=
    match cs with
    | '"' :: _ => lineString? cs
    | '\'' :: _ => lineString? cs
    | _ => barePart? cs
  match part with
  | some (name, rest) =>
      some (⟨String.ofList name, spanOf cs rest⟩, rest)
  | none => none

------------------------------------------------------------
-- Keys
------------------------------------------------------------

/-
  Parts with dots between them.  The first argument bounds
  their number.
-/
def keyParts? :
    Nat → List Char → Option (List Key × List Char)
  | 0, _ => none
  | more + 1, cs =>
      match keyPart? (skipBlanks cs) with
      | none => none
      | some (key, rest) =>
          match skipBlanks rest with
          | '.' :: rest =>
              match keyParts? more rest with
              | some (keys, rest) => some (key :: keys, rest)
              | none => none
          | rest => some ([key], rest)

/- A key, as the parts before the last, and the last. -/
def key? (cs : List Char) :
    Option ((List Key × Key) × List Char) :=
  match keyParts? (depthLimit - 1) cs with
  | some (keys, rest) =>
      keys.getLast?.map
        (fun last => ((keys.dropLast, last), rest))
  | none => none

end Toml

end FrameLink
