import ScriptLex.Program

/-! The command line program. -/

set_option autoImplicit false

namespace ScriptLex.Main

def nodeAt (path : String) : IO (Option Node) := do
  try
    let bytes ← IO.FS.readBinFile path
    return some (.file bytes.toList)
  catch
    | .noFileOrDirectory .. => return none
    | .inappropriateType _ code _ => return if code = 21 then some .directory else none
    | error => return some (.unreadable (toString error))

-- The user's configuration directory: an absolute path in its own variable, or else the usual place
-- below the home directory.
def userDirectory (own home : Option String) : Option String :=
  match own.filter (·.startsWith "/") with
  | some path => some path
  | none => (home.filter (· ≠ "")).map (joinPath · ".config")

-- The working directory. One that was removed while the program stands in it has no path.
def workingDirectory : IO (Except String String) := do
  try
    return .ok (← IO.currentDir).toString
  catch _ => return .error "No such file or directory (os error 2)"

def environment : IO Environment := do
  let names :=
    [CommandLine.verboseVariable, CommandLine.noColorVariable, CommandLine.configVariable]
  let values ← names.mapM fun name => do return (name, ← IO.getEnv name)
  let working ← workingDirectory
  let user := userDirectory (← IO.getEnv "XDG_CONFIG_HOME") (← IO.getEnv "HOME")
  return {
    lookup := fun name => (values.lookup name).join
    directories := ⟨working, user⟩ }

-- The part of the file system that a run may look at.
def filesFor (environment : Environment) (arguments : List String) : IO Files := do
  match CommandLine.parse arguments environment.lookup with
  | .run arguments =>
    let nodes ← (Program.paths environment arguments).mapM fun path => do
      return (path, ← nodeAt path)
    return fun path => (nodes.lookup path).join
  | _ => return fun _ => none

def colored (line : String) : String := "\x1b[34m" ++ line ++ "\x1b[0m"

def write (outcome : Outcome) : IO Unit := do
  for line in outcome.log do
    IO.eprintln (if outcome.coloredLog then colored line else line)
  IO.print outcome.output
  IO.eprint outcome.errors

end ScriptLex.Main

def main (arguments : List String) : IO UInt32 := do
  let environment ← ScriptLex.Main.environment
  let files ← ScriptLex.Main.filesFor environment arguments
  let outcome := ScriptLex.Program.run files environment arguments
  ScriptLex.Main.write outcome
  return outcome.exitCode.toUInt32
