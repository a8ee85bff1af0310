import FrameLink.Binary64.Shortest
import FrameLink.Error
import FrameLink.Mismatch

/-
  Error codes kept as data.

  A code without a kind is kept as its name, a code with one
  as a table from the name of the code to the name of the
  kind.  Reading knows the kinds of `storedKinds` and takes
  any other name of a kind for `IoKind.other`; it refuses
  whatever is not of one of the two forms.

  Data may have numbers that are not whole, of any type that
  says how they are named.  Codes are kept without them.

  Key definitions include:
    * `Decimals`, `Datum`
    * `ErrorCode.toDatum`
    * `ErrorCode.ofDatum`
-/

------------------------------------------------------------
-- Data
------------------------------------------------------------

namespace FrameLink

/- Numbers that need not be whole, and how they are named. -/
class Decimals (δ : Type) where
  digits : δ → String

/- There may be none. -/
instance : Decimals Empty where
  digits := nofun

instance : Decimals Binary64 where
  digits := Binary64.toText

/- Data that says of what form it is. -/
inductive Datum (δ : Type := Empty) where
  | null
  | boolean (value : Bool)
  | integer (value : Int)
  | decimal (value : δ)
  | text (value : String)
  | list (items : List (Datum δ))
  | table (entries : List (String × Datum δ))

namespace Datum

/- How a message names a datum. -/
def found {δ : Type} [Decimals δ] : Datum δ → Found
  | .null => .null
  | .boolean value => .boolean value
  | .integer value => .integer value
  | .decimal value => .decimal (Decimals.digits value)
  | .text value => .text value
  | .list _ => .sequence
  | .table _ => .map

end Datum

------------------------------------------------------------
-- Stored Codes
------------------------------------------------------------

namespace ErrorCode

/- The kinds that reading knows by name. -/
def storedKinds : List IoKind :=
  [ .notFound, .permissionDenied, .connectionRefused,
    .connectionReset, .connectionAborted, .notConnected,
    .addrInUse, .addrNotAvailable, .brokenPipe,
    .alreadyExists, .wouldBlock, .invalidInput, .invalidData,
    .timedOut, .writeZero, .interrupted, .unsupported,
    .unexpectedEof, .outOfMemory, .other ]

/- The kind that a stored name stands for. -/
def kindOfName (s : String) : IoKind :=
  (storedKinds.find? (fun k => k.name = s)).getD .other

/- The names of the codes. -/
def names : List String :=
  ["MessageTooLarge", "NotConnected", "BufferOverflow", "Io"]

/- A code as data. -/
def toDatum : ErrorCode → Datum
  | .messageTooLarge => .text "MessageTooLarge"
  | .notConnected => .text "NotConnected"
  | .bufferOverflow => .text "BufferOverflow"
  | .io kind => .table [("Io", .text kind.name)]

/- A code that has no kind. -/
def bare?
    (name : String) : Option ErrorCode :=
  match name with
  | "MessageTooLarge" => some .messageTooLarge
  | "NotConnected" => some .notConnected
  | "BufferOverflow" => some .bufferOverflow
  | _ => none

/- The code of a name that stands alone. -/
def ofName (name : String) : Except Mismatch ErrorCode :=
  match bare? name with
  | some code => .ok code
  | none =>
      if name = "Io" then
        .error (.wrongType .unitVariant "newtype variant")
      else
        .error (.unknownVariant name names)

section

variable {δ : Type} [Decimals δ]

/- The code of a name with what is kept beside it. -/
def ofEntry
    (name : String)
    (value : Datum δ) : Except Mismatch ErrorCode :=
  match bare? name, value with
  | some code, .null => .ok code
  | some _, value => .error (.wrongType value.found "unit")
  | none, value =>
      if name = "Io" then
        match value with
        | .text kind => .ok (.io (kindOfName kind))
        | value => .error (.wrongType value.found "a string")
      else
        .error (.unknownVariant name names)

/- The code that a datum stands for. -/
def ofDatum : Datum δ → Except Mismatch ErrorCode
  | .text name => ofName name
  | .table [(name, value)] => ofEntry name value
  | .table _ =>
      .error
        (.outOfRange .map "map with a single key")
  | value =>
      .error (.wrongType value.found "string or map")

end

end ErrorCode

end FrameLink
