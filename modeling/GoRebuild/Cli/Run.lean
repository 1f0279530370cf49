import GoRebuild.Cli.Args
import GoRebuild.Cli.System
import GoRebuild.Program.Generate
import GoRebuild.Verify.Compare

/-!
# Running commands

* `ToolError`, `CommandError` : why a command fails, and the wording;
* `System.verify` : a generated program, run and compared with the source;
* `System.perform` : what a command shows;
* `System.main` : the command line from its arguments to its exit.
-/

namespace GoRebuild
open Shell (ExitStatus Finished Folder)

/-- Why a tool fails. -/
inductive ToolError where
  | missing (program : String)
  | failed (command : String) (status : ExitStatus) (output : String)
  deriving DecidableEq, Repr

def ToolError.message : ToolError → String
  | missing program =>
    "cannot find \x60" ++ program ++ "\x60 on PATH: cannot find binary path"
  | failed command status output =>
    "\x60" ++ command ++ "\x60 exited with " ++ status.display ++ ":\n" ++ output

/-- Why a command fails. -/
inductive CommandError where
  | unreadable (path : String) (cause : FileError)
  | unwritable (path : String) (cause : FileError)
  | noProgram (path : String) (cause : Failure)
  | noTree (path : String) (cause : Failure)
  | tool (cause : ToolError)
  | differs (path : String) (outcome : Verify.Outcome)
  deriving DecidableEq, Repr

def CommandError.message : CommandError → String
  | unreadable path cause => "failed to read " ++ path ++ ": " ++ cause.message
  | unwritable path cause => "failed to write " ++ path ++ ": " ++ cause.message
  | noProgram path cause => "failed to generate from " ++ path ++ ": " ++ cause.message
  | noTree path cause => "failed to read syntax tree of " ++ path ++ ": " ++ cause.message
  | tool cause => cause.message
  | differs path outcome => path ++ ": " ++ outcome.message

/-- What a command prints and reports. -/
structure Shown where
  out : String := ""
  err : String := ""

/-- How the command line ends. -/
structure Exit where
  code : Nat
  out : String
  err : String
  deriving DecidableEq, Repr

/-- The module file beside a generated program. -/
def moduleFile : String := "module jenjenrun\n\ngo 1.21\n"

/-- The name and version of the program. -/
def versionText : String := "jenjen 0.2.0\n"

/-- What is said where the arguments are no command. -/
def usageText : String :=
  "error: invalid arguments\n\nUsage: jenjen [OPTIONS] <COMMAND>\n"

namespace System

variable {m : Type → Type} [Monad m] (sys : System m)

/-- The text of a source file, or of standard input for a dash. -/
def source (path : String) : ExceptT CommandError m String := do
  if path = "-" then sys.stdin
  else
    match ← sys.read path with
    | .ok text => return text
    | .error e => throw (.unreadable path e)

/-- The configuration: the user's, then that of the project. -/
def config : m Config := do
  let user ← match ← sys.configHome with
    | some home => do pure (← sys.read (home ++ "/jenjen/config.toml")).toOption
    | none => pure none
  let project ← sys.read ".jenjen/config.toml"
  return Config.load [user, project.toOption]

/-! ## Tools -/

/-- A program that has to succeed. -/
def succeed (command output : String) (status : ExitStatus) : ExceptT ToolError m Unit :=
  if status = .code 0 then pure () else throw (.failed command status output)

/-- Runs a generated program, and gives all that it prints. Its imports are resolved first. -/
def runProgram (go program : String) : ExceptT ToolError m String := do
  let tidied ← sys.runIn go ["mod", "tidy"] [("main.go", program), ("go.mod", moduleFile)]
  succeed "go mod tidy" (tidied.out ++ tidied.err) tidied.status
  let done ← sys.runIn go ["run", "main.go"] tidied.folder
  succeed "go run main.go" (done.out ++ done.err) done.status
  return done.out ++ done.err

def formatSource (gofmt text : String) : ExceptT ToolError m String := do
  let done ← sys.filter gofmt text
  succeed "gofmt" done.err done.status
  return done.out

/-- Runs a generated program and compares what it prints with the source. -/
def verify (c : Config) (source program : String) : ExceptT ToolError m Verify.Outcome := do
  unless ← sys.has c.go do throw (.missing c.go)
  unless ← sys.has c.gofmt do throw (.missing c.gofmt)
  Verify.roundTrip (sys.runProgram c.go) (sys.formatSource c.gofmt) source program

/-! ## Commands -/

/-- What a command shows. -/
def perform (c : Config) : Command → ExceptT CommandError m Shown
  | .version => return { out := versionText }
  | .ast input => do
    let text ← sys.source input
    match dumpTree sys.parser c.limit text with
    | .ok tree => return { out := tree ++ "\n" }
    | .error e => throw (.noTree input e)
  | .generate args => do
    let text ← sys.source args.input
    match generate sys.parser (args.options c) (args.layout c) text, args.output with
    | .error e, _ => throw (.noProgram args.input e)
    | .ok program, none => return { out := program }
    | .ok program, some path =>
      match ← sys.write path program with
      | .ok () => return { err := "Generated " ++ args.input ++ " -> " ++ path ++ "\n" }
      | .error e => throw (.unwritable path e)
  | .verify input => do
    let text ← sys.source input
    let o : Options := { entryPoint := true, parallel := c.parallel, limit := c.limit }
    match generate sys.parser o c.layout text with
    | .error e => throw (.noProgram input e)
    | .ok program =>
      match ← (sys.verify c text program).run with
      | .error e => throw (.tool e)
      | .ok .agree => return { err := input ++ ": " ++ Verify.Outcome.agree.message ++ "\n" }
      | .ok outcome => throw (.differs input outcome)

def main (args : List String) : m Exit := do
  match Command.parse? args with
  | none => return ⟨2, "", usageText⟩
  | some c =>
    match ← (sys.perform (← sys.config) c).run with
    | .ok shown => return ⟨0, shown.out, shown.err⟩
    | .error e => return ⟨1, "", "error: " ++ e.message ++ "\n"⟩

end System

end GoRebuild
