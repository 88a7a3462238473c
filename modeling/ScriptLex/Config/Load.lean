import ScriptLex.Failure
import ScriptLex.Files

/-! Where a configuration comes from. -/

set_option autoImplicit false

namespace ScriptLex.Config

open ScriptLex.Text

/-- The directories that are searched for a configuration: the working directory, or the reason why
it is not known, and the one for the user's configurations if there is one. -/
structure Directories where
  working : Except String String
  user : Option String
  deriving Repr

def fileName : String := "spartie.toml"

-- The files that are looked for when none is named, the first one first. None is looked for where
-- the working directory is not known.
def candidates (directories : Directories) : Except String (List String) :=
  directories.working.map fun working =>
    joinPath working fileName ::
      (directories.user.map fun user => joinPath (joinPath user "spartie") fileName).toList

-- The one file that decides: the one that was named, or else the first candidate that exists.
def locate (files : Files) (directories : Directories) (named : Option String) :
    Except String (Option String) :=
  match named with
  | some path => .ok (some path)
  | none => (candidates directories).map (·.find? fun path => (files path).isSome)

def readFile (files : Files) (path : String) : Except ConfigError Config :=
  match files path with
  | none => .error (.notFound path)
  | some node =>
    match node.contents with
    | .error reason => .error (.unreadable path reason)
    | .ok bytes =>
      match Utf8.decode bytes with
      | .error _ => .error (.unreadable path "stream did not contain valid UTF-8")
      | .ok text => parse (String.ofList text)

/-- The configuration of the file that decides, or the defaults if there is none. -/
def load (files : Files) (directories : Directories) (named : Option String) :
    Except Failure Config :=
  match locate files directories named with
  | .error reason => .error (.io reason)
  | .ok none => .ok {}
  | .ok (some path) => (readFile files path).mapError .ofConfigError

end ScriptLex.Config
