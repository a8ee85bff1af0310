import FrameLink.Config
import FrameLink.Text.Blank
import FrameLink.Text.Number

/-
  Single values of a configuration as words.

  White space around a word does not count, nor does the case
  of ASCII letters.  A policy is given by its name.  A level
  is given by its name or by a number, from 1 for errors up to
  5 for traces.

  Key definitions include:
    * `OverflowPolicy.ofText`
    * `LogLevel.ofText`
-/

------------------------------------------------------------
-- Letters
------------------------------------------------------------

namespace FrameLink

namespace Text

/- A word with its ASCII letters in lower case. -/
def lower (word : List Char) : List Char :=
  word.map Char.toLower

end Text

------------------------------------------------------------
-- Policies
------------------------------------------------------------

namespace OverflowPolicy

/- The policy of a given name. -/
def named? (word : List Char) : Option OverflowPolicy :=
  all.find? (fun policy => policy.name.toList = word)

/- The failure to read a policy. -/
def unknown (word : List Char) : SocketError :=
  .configError
    (s!"Invalid overflow policy: '{String.ofList word}' " ++
      "(expected 'reset' or 'close')")

/- Read a policy. -/
def ofText (s : String) : Except SocketError OverflowPolicy :=
  let word := Text.lower (Text.trim s.toList)
  match named? word with
  | some policy => .ok policy
  | none => .error (unknown word)

end OverflowPolicy

------------------------------------------------------------
-- Levels
------------------------------------------------------------

namespace LogLevel

/- The level of a given name. -/
def named? (word : List Char) : Option LogLevel :=
  all.find? (fun level => level.name.toList = word)

/- The level of a given number. -/
def numbered? : Nat → Option LogLevel
  | 1 => some .error
  | 2 => some .warn
  | 3 => some .info
  | 4 => some .debug
  | 5 => some .trace
  | _ => none

/- The level that a word stands for. -/
def ofWord? (word : List Char) : Option LogLevel :=
  match Text.readNumber (UInt64.size - 1) word with
  | .ok n => numbered? n
  | .error _ => named? (Text.lower word)

/- Read a level. -/
def ofText (s : String) : Except SocketError LogLevel :=
  match ofWord? (Text.trim s.toList) with
  | some level => .ok level
  | none => .error (.configError s!"Invalid log level: {s}")

end LogLevel

end FrameLink
