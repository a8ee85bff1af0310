import FrameLink.Config.Reading
import FrameLink.Config.Writing
import FrameLink.Folder

/-
  Configuration in files.

  A configuration is read from a file that holds it as a
  document, and saved as one.

  Key definitions include:
    * `SocketConfig.ofFile`
    * `SocketConfig.store`, `SocketConfig.save`
-/

------------------------------------------------------------
-- Configuration Files
------------------------------------------------------------

namespace FrameLink

namespace SocketConfig

/- A file cannot be read. -/
def unopened (path : String) (fault : FileFault) : SocketError :=
  .configError
    s!"Failed to open config file {path}: {fault.message}"

/- A file cannot be written. -/
def unsaved (fault : FileFault) : SocketError :=
  .configError s!"Failed to write config file: {fault.message}"

/- The configuration that a file gives. -/
def ofFile
    (folder : Folder)
    (path : String) : Except SocketError SocketConfig :=
  match folder.readText path with
  | .error fault => .error (unopened path fault)
  | .ok text => ofToml text

/-
  Write a configuration into a file, with the folder as it is
  left.  The document is made first, so one that cannot be
  made leaves all files as they are, as does a file that
  cannot be written.
-/
def store
    (c : SocketConfig)
    (path : String)
    (folder : Folder) : Except SocketError Unit × Folder :=
  match c.toToml with
  | .error e => (.error e, folder)
  | .ok text =>
      match folder.writeText path text with
      | .ok after => (.ok (), after)
      | .error fault => (.error (unsaved fault), folder)

/- The folder with a configuration saved in a file of it. -/
def save
    (c : SocketConfig)
    (path : String)
    (folder : Folder) : Except SocketError Folder :=
  let (result, after) := c.store path folder
  result.map (fun _ => after)

end SocketConfig

end FrameLink
