import GoRebuild.Parse.Node
import GoRebuild.Shell.Run

/-!
# What the command line needs around it

* `FileError` : why a file cannot be read or written, and the wording;
* `System m` : files, standard input, programs and a parser, in a monad `m`.
-/

namespace GoRebuild
open Shell (Folder Finished)

/-- Why a file cannot be read or written. -/
inductive FileError where
  | notFound
  | notDirectory
  | isDirectory
  | other (reason : String)
  deriving DecidableEq, Repr

def FileError.message : FileError → String
  | notFound => "No such file or directory (os error 2)"
  | notDirectory => "Not a directory (os error 20)"
  | isDirectory => "Is a directory (os error 21)"
  | other reason => reason

/-- Files, standard input, programs and a parser. -/
structure System (m : Type → Type) where
  parser : SourceParser
  read : String → m (Except FileError String)
  write : String → String → m (Except FileError Unit)
  stdin : m String
  /-- The directory of the user's configuration. -/
  configHome : m (Option String)
  /-- Whether there is a program of a name. -/
  has : String → m Bool
  /-- Runs a program with arguments in a folder of its own. -/
  runIn : String → List String → Folder → m Finished
  /-- Runs a program without arguments on an input. -/
  filter : String → String → m Finished

end GoRebuild
