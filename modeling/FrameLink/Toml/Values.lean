import FrameLink.Toml.DateTimes
import FrameLink.Toml.Keys
import FrameLink.Toml.Numbers
import FrameLink.Toml.Tables

/-
  Values of a document.

  A value is a string, a number, a boolean, a date or a time,
  an array between brackets, or a table between braces.  An
  array may run over several lines, may hold comments, and may
  end in a comma; a table between braces may not.

  Values may be nested only so deep.  The bound decreases with
  each level, so reading is recursive on it.

  Key definitions include:
    * `Toml.arrayItems?`
    * `Toml.inlinePairs?`
    * `Toml.value?`
-/

------------------------------------------------------------
-- Scalars
------------------------------------------------------------

namespace FrameLink

namespace Toml

open Text (after?)

/- A date, a time, or a number. -/
def numberOrDate?
    (cs : List Char) : Option (Node × List Char) :=
  match dateTime? cs with
  | some rest => some (.dateTime, rest)
  | none => number? cs

/- A value with no values inside. -/
def scalar? (cs : List Char) : Option (Node × List Char) :=
  match cs with
  | '"' :: _ =>
      (string? cs).map
        (fun (s, rest) => (.text (String.ofList s), rest))
  | '\'' :: _ =>
      (string? cs).map
        (fun (s, rest) => (.text (String.ofList s), rest))
  | 't' :: _ => boolean? cs
  | 'f' :: _ => boolean? cs
  | _ => numberOrDate? cs

------------------------------------------------------------
-- Arrays and Tables
------------------------------------------------------------

/- A reader of items. -/
abbrev ItemReader := List Char → Option (Item × List Char)

/-
  The items of an array up to its closing bracket.  The first
  argument bounds their number.
-/
def arrayItems?
    (read : ItemReader) :
    Nat → List Char → Option (List Item × List Char)
  | 0, _ => none
  | more + 1, cs => do
      match ← skipGap? false cs with
      | ']' :: rest => some ([], rest)
      | cs =>
          let (item, rest) ← read cs
          match ← skipGap? false rest with
          | ',' :: rest =>
              let (items, rest) ← arrayItems? read more rest
              some (item :: items, rest)
          | ']' :: rest => some ([item], rest)
          | _ => none

/- A key, an equals sign, and a value. -/
def pair?
    (read : ItemReader)
    (cs : List Char) : Option (Pair × List Char) := do
  let ((path, key), rest) ← key? cs
  let rest ← after? '=' rest
  let (item, rest) ← read (skipBlanks rest)
  return (⟨path, key, item⟩, rest)

/-
  The pairs between braces up to the closing one.  The first
  argument bounds their number.
-/
def inlinePairs?
    (read : ItemReader) :
    Nat → List Char → Option (List Pair × List Char)
  | 0, _ => none
  | more + 1, cs => do
      let (pair, rest) ← pair? read cs
      match skipBlanks rest with
      | ',' :: rest =>
          let (pairs, rest) ← inlinePairs? read more rest
          some (pair :: pairs, rest)
      | '}' :: rest => some ([pair], rest)
      | _ => none

/- What is between braces, up to the closing one. -/
def inlineTable?
    (read : ItemReader)
    (cs : List Char) : Option (Node × List Char) := do
  let (pairs, rest) ←
    match skipBlanks cs with
    | '}' :: rest => some ([], rest)
    | _ => inlinePairs? read (cs.length + 1) cs
  let table ← (Table.empty .inline).addPairs? pairs
  return (.table table, rest)

/- A node with the span of what was read. -/
def spanned
    (cs : List Char) :
    Option (Node × List Char) → Option (Item × List Char)
  | some (node, rest) =>
      some (⟨some (spanOf cs rest), node⟩, rest)
  | none => none

/-
  A value.  The first argument bounds the depth to which
  arrays and tables are nested.
-/
def value? : Nat → List Char → Option (Item × List Char)
  | 0, cs =>
      match cs with
      | '[' :: _ => none
      | '\x7b' :: _ => none
      | _ => spanned cs (scalar? cs)
  | depth + 1, cs =>
      match cs with
      | '[' :: rest =>
          spanned cs
            ((arrayItems? (value? depth) (rest.length + 1)
              rest).map (fun (items, r) => (.array items, r)))
      | '\x7b' :: rest =>
          spanned cs (inlineTable? (value? depth) rest)
      | _ => spanned cs (scalar? cs)

end Toml

end FrameLink
