import GoRebuild.Cli.Run
import GoRebuild.Grammar.Tree

/-!
# The program

Files and standard input come from the operating system. Programs are scripts and tools that `Shell` runs.
-/

namespace GoRebuild
open Shell

/-- Why a file could not be used. -/
def fileError : IO.Error → FileError
  | .noFileOrDirectory _ _ _ => .notFound
  | .inappropriateType _ _ _ => .notDirectory
  | e => .other (toString e)

def readText (path : String) : IO (Except FileError String) := do
  try
    return .ok (← IO.FS.readFile path)
  catch e => return .error (fileError e)

def writeText (path text : String) : IO (Except FileError Unit) := do
  try
    IO.FS.writeFile path text
    return .ok ()
  catch e => return .error (fileError e)

/-- The script in a file that can be run. -/
def script? (name : String) : IO (Option String) := do
  match ← readText name with
  | .ok text => return if text.startsWith "#!" then some text else none
  | .error _ => return none

/-- Runs a script or a tool of the shell. -/
def runNamed (name : String) (args : List String) (input : String) (folder : Folder) : IO Finished := do
  match ← script? name with
  | some text => return runScript name text args input folder
  | none =>
    return (runTool? name args input folder).getD ⟨.code 127, "", name ++ ": not found\n", folder⟩

/-- Files, standard input and programs. -/
def realSystem : System IO where
  parser := Grammar.parser
  read := readText
  write := writeText
  stdin := do (← IO.getStdin).readToEnd
  configHome := do
    match ← IO.getEnv "XDG_CONFIG_HOME" with
    | some home => return some home
    | none => return (← IO.getEnv "HOME").map (· ++ "/.config")
  has name := do
    if name.contains '/' then return (← script? name).isSome
    else return name = "sh" || (tool? name).isSome
  runIn name args folder := runNamed name args "" folder
  filter name input := runNamed name [] input []

end GoRebuild

def main (args : List String) : IO UInt32 := do
  let exit ← GoRebuild.realSystem.main args
  IO.print exit.out
  IO.eprint exit.err
  return UInt32.ofNat exit.code
