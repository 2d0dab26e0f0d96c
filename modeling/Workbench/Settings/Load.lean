import Workbench.Settings.Document
import Workbench.World
namespace Workbench

/-!
Where settings come from.  A file that is named must be readable and sound.
Without one, a file beside the process and then a file of the user are tried; one of
these that is missing or spoilt is passed over, and with neither the defaults
hold.
-/

namespace Settings

/-- Why a named file gives no settings. -/
inductive Fault where
  | unreadable (path : String) (cause : Cause)
  | unsound (path : String)
  deriving DecidableEq, Repr

namespace Fault

/-- What went wrong, from the outermost description inwards. -/
def chain : Fault → List String
  | unreadable path cause =>
    ["Failed to load config from " ++ path, "Failed to read config file", cause.message]
  | unsound path => ["Failed to load config from " ++ path, "Failed to parse config file"]

end Fault

/-- The settings in a file. -/
def ofFile (tree : Node) (standing : List String) (path : String) : Except Fault Settings :=
  match tree.readText standing path with
  | .error cause => .error (.unreadable path cause)
  | .ok text =>
    match ofText? text with
    | some settings => .ok settings
    | none => .error (.unsound path)

/-- The settings file beside the process. -/
def localFile : String := ".toolcmd.yml"

/-- The directory of the user's settings, if the variables tell it: a full path of
its own, or a place in the user's home. -/
def userDirectory? (bindings : List (String × String)) : Option String :=
  let fromHome :=
    match bindings.lookup "HOME" with
    | some home => if home.isEmpty then none else some (Path.join home ".config")
    | none => none
  match bindings.lookup "XDG_CONFIG_HOME" with
  | some directory => if Path.isAbsolute directory.toList then some directory else fromHome
  | none => fromHome

/-- The files that are tried when none is named. -/
def fallbacks (bindings : List (String × String)) : List String :=
  localFile ::
    (match userDirectory? bindings with
      | some directory => [Path.join (Path.join directory "toolcmd") "toolcmd.yml"]
      | none => [])

/-- The settings in the first sound file of a list, or the defaults. -/
def firstSound (tree : Node) (standing : List String) : List String → Settings
  | [] => {}
  | path :: others =>
    if tree.existsAt standing path then
      match ofFile tree standing path with
      | .ok settings => settings
      | .error _ => firstSound tree standing others
    else firstSound tree standing others

/-- The settings of a process: those of the named file, or of the first sound
fallback. -/
def load (tree : Node) (host : Host) (named : Option String) : Except Fault Settings :=
  match named with
  | some path => ofFile tree host.standing path
  | none => .ok (firstSound tree host.standing (fallbacks host.bindings))

end Settings

end Workbench
