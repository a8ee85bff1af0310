import FrameLink.Bytes

/-
  Files, and the paths that lead to them.

  Paths start in a folder, or with a slash at the top of all
  folders.  A path is taken apart at its slashes into steps,
  of which each stays, leads to the folder above, or is a
  name.  The folder and those above it hold files, and no
  other folders are known in them; so a name that is not the
  last step leads nowhere.

  A slash behind the last step asks for a folder: a file of
  that name is none, and none is made under such a path.

  Key definitions include:
    * `FileFault`
    * `Path`, `Path.ofText`
    * `Level`, `Folder`
    * `Folder.read`, `Folder.write`
    * `Folder.readText`, `Folder.writeText`
-/

------------------------------------------------------------
-- Faults
------------------------------------------------------------

namespace FrameLink

/- Why a file cannot be used. -/
inductive FileFault where
  | notFound
  | notDirectory
  | isDirectory
  | nameTooLong
  | zeroInPath
  | notText
  deriving DecidableEq

namespace FileFault

/- The words for a fault. -/
def message : FileFault → String
  | .notFound => "No such file or directory (os error 2)"
  | .notDirectory => "Not a directory (os error 20)"
  | .isDirectory => "Is a directory (os error 21)"
  | .nameTooLong => "File name too long (os error 36)"
  | .zeroInPath =>
      "file name contained an unexpected NUL byte"
  | .notText => "stream did not contain valid UTF-8"

end FileFault

------------------------------------------------------------
-- Paths
------------------------------------------------------------

/- A step of a path. -/
inductive Step where
  | stay
  | up
  | name (name : String)
  deriving DecidableEq

/- A path, taken apart. -/
structure Path where
  /- The path starts at the top. -/
  absolute : Bool
  /- The steps before the last one. -/
  steps : List Step
  last : Step
  /- A slash stands behind the last step. -/
  slashed : Bool
  deriving DecidableEq

namespace Step

/- The step that is written between two slashes. -/
def ofPart : List Char → Step
  | [] => .stay
  | ['.'] => .stay
  | ['.', '.'] => .up
  | part => .name (String.ofList part)

end Step

namespace Path

/- The greatest length of a path, in bytes. -/
def maxSize : Nat := 4095

/- The greatest length of a name, in bytes. -/
def maxNameSize : Nat := 255

/- What stands between the slashes. -/
def parts : List Char → List (List Char)
  | [] => [[]]
  | c :: cs =>
      if c = '/' then
        [] :: parts cs
      else
        match parts cs with
        | part :: rest => (c :: part) :: rest
        | [] => [[c]]

/- The path of given parts; of slashes alone, the top. -/
def ofParts (parts : List (List Char)) : Path :=
  let absolute := parts.head? = some []
  match parts.reverse.dropWhile List.isEmpty with
  | [] =>
      { absolute, steps := [], last := .stay, slashed := true }
  | last :: before =>
      { absolute
        steps := before.reverse.map Step.ofPart
        last := Step.ofPart last
        slashed := parts.getLast? = some [] }

/- The path that a text is the written form of. -/
def ofText (text : String) : Except FileFault Path :=
  if text.toList.contains '\x00' then
    .error .zeroInPath
  else if maxSize < text.utf8ByteSize then
    .error .nameTooLong
  else if text = "" then
    .error .notFound
  else
    .ok (ofParts (parts text.toList))

end Path

------------------------------------------------------------
-- Folders
------------------------------------------------------------

/- One of the folders to which a path can lead. -/
inductive Level where
  /- So many folders above the one where paths start. -/
  | above (n : Nat)
  | top
  deriving DecidableEq

namespace Level

/- The level where a path starts. -/
def start (path : Path) : Level :=
  if path.absolute then .top else .above 0

/- The next level above. -/
def up : Level → Level
  | .above n => .above (n + 1)
  | .top => .top

end Level

/- The files of all levels, under their names. -/
abbrev Folder := List ((Level × String) × Bytes)

namespace Folder

/- What a file of a given level holds. -/
def find
    (folder : Folder)
    (level : Level)
    (name : String) : Except FileFault Bytes :=
  if Path.maxNameSize < name.utf8ByteSize then
    .error .nameTooLong
  else
    match folder.lookup (level, name) with
    | some bs => .ok bs
    | none => .error .notFound

/- Take a step that is not the last one. -/
def walk
    (folder : Folder)
    (level : Level) : Step → Except FileFault Level
  | .stay => .ok level
  | .up => .ok level.up
  | .name name =>
      match folder.find level name with
      | .ok _ => .error .notDirectory
      | .error fault => .error fault

/- The level in which the last step of a path is taken. -/
def levelOf
    (folder : Folder)
    (path : Path) : Except FileFault Level :=
  path.steps.foldlM folder.walk (Level.start path)

/- Read a file. -/
def read
    (folder : Folder)
    (text : String) : Except FileFault Bytes := do
  let path ← Path.ofText text
  let level ← folder.levelOf path
  match path.last with
  | .name name =>
      let bs ← folder.find level name
      if path.slashed then .error .notDirectory else .ok bs
  | _ => .error .isDirectory

/- Write a file, in place of one of that name. -/
def write
    (folder : Folder)
    (text : String)
    (bs : Bytes) : Except FileFault Folder := do
  let path ← Path.ofText text
  let level ← folder.levelOf path
  match path.last with
  | .name name =>
      if path.slashed then
        .error .isDirectory
      else if Path.maxNameSize < name.utf8ByteSize then
        .error .nameTooLong
      else
        let others := folder.filter (·.1 != (level, name))
        .ok (((level, name), bs) :: others)
  | _ => .error .isDirectory

------------------------------------------------------------
-- Texts
------------------------------------------------------------

/- Read a file as text. -/
def readText
    (folder : Folder)
    (path : String) : Except FileFault String :=
  match folder.read path with
  | .error fault => .error fault
  | .ok bs =>
      match String.fromUTF8? bs.toByteArray with
      | some text => .ok text
      | none => .error .notText

/- Write a text into a file. -/
def writeText
    (folder : Folder)
    (path text : String) : Except FileFault Folder :=
  folder.write path text.toUTF8.data.toList

end Folder

end FrameLink
