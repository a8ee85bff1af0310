import FrameLink.Text.Quoted

/-
  Why a value does not fit where it stands.

  A reader that expects one form of value and finds another
  says which of the two it met and which it wanted.  The
  causes are kept apart from their wording, which is in
  `Mismatch.message` alone.

  Key definitions include:
    * `Found`
    * `Found.words`
    * `Mismatch`
    * `Mismatch.message`
-/

------------------------------------------------------------
-- Found Values
------------------------------------------------------------

namespace FrameLink

/- A value as a message names it. -/
inductive Found where
  | null
  | boolean (value : Bool)
  | integer (value : Int)
  | decimal (digits : String)
  | text (value : String)
  | sequence
  | map
  | unitVariant
  deriving DecidableEq

namespace Found

/- The words for a found value. -/
def words : Found → String
  | .null => "null"
  | .boolean value => s!"boolean `{value}`"
  | .integer value => s!"integer `{value}`"
  | .decimal digits => s!"floating point `{digits}`"
  | .text value => "string " ++ Text.quote value
  | .sequence => "sequence"
  | .map => "map"
  | .unitVariant => "unit variant"

end Found

------------------------------------------------------------
-- Mismatches
------------------------------------------------------------

/- The cause for which a value is refused. -/
inductive Mismatch where
  | wrongType (found : Found) (expected : String)
  | outOfRange (found : Found) (expected : String)
  | unknownVariant (name : String) (known : List String)
  | neitherTextNorTable
  | noElement
  | manyElements
  | payload (expected : String)
  | payloadKind (found : String)
  deriving DecidableEq

namespace Mismatch

/- The names that were possible, in words. -/
def choice (known : List String) : String :=
  let ticked := known.map (fun name => "`" ++ name ++ "`")
  match ticked with
  | [] => "nothing"
  | [a] => a
  | [a, b] => a ++ " or " ++ b
  | _ => "one of " ++ ", ".intercalate ticked

/- The words for a mismatch. -/
def message : Mismatch → String
  | .wrongType found expected =>
      s!"invalid type: {found.words}, expected {expected}"
  | .outOfRange found expected =>
      s!"invalid value: {found.words}, expected {expected}"
  | .unknownVariant name known =>
      s!"unknown variant `{name}`, expected {choice known}"
  | .neitherTextNorTable => "wanted string or table"
  | .noElement =>
      "wanted exactly 1 element, found 0 elements"
  | .manyElements =>
      "wanted exactly 1 element, more than 1 element"
  | .payload expected => s!"expected {expected}"
  | .payloadKind found => s!"expected table, found {found}"

end Mismatch

end FrameLink
