import GoRebuild.Program.Render
import GoRebuild.Reader.Source
import GoRebuild.Tree.Encode
import GoRebuild.Json.Printer

/-!
# From source to generated program

* `Failure` : why a source gives no program, and the wording;
* `generate` : the program that rebuilds a source;
* `dumpTree` : the syntax tree of a source as JSON.
-/

namespace GoRebuild

/-- Why a source gives no program. -/
inductive Failure where
  | read (cause : ReadError)
  | synth (cause : SynthError)
  | render (cause : RenderError)
  deriving DecidableEq, Repr

def Failure.message : Failure → String
  | read e => "failed to parse Go source: " ++ e.message
  | synth e => e.message
  | render e => e.message

/-- The text of the program that rebuilds a source. The limit holds for reading and for synthesis. -/
def generate (parser : SourceParser) (o : Options) (l : Layout) (source : String) : Except Failure String := do
  let file ← (File.read parser o.limit source).mapError .read
  let program ← (assemble file o).mapError .synth
  (program.render l).mapError .render

/-- The syntax tree of a source as JSON over several lines. -/
def dumpTree (parser : SourceParser) (limit : Nat) (source : String) : Except Failure String := do
  let file ← (File.read parser limit source).mapError .read
  return file.encode.pretty

end GoRebuild
