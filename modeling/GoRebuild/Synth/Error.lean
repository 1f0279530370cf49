import GoRebuild.Text.Escaped
import GoRebuild.Tree.Basic

/-!
# Failures of synthesis

* `SynthError` : why a tree gives no program;
* `SynthError.message` : the wording.
-/

namespace GoRebuild
open Text

/-- Why a tree gives no program. -/
inductive SynthError where
  /-- a construct without builder calls -/
  | unsupported (kind : String) (pos : Pos)
  /-- an import that hides which names it brings -/
  | dotImport (path : String) (pos : Pos)
  /-- two imports under one local name -/
  | duplicateAlias (name first second : String) (pos : Pos)
  /-- a program without a package name -/
  | emptyProgramName
  /-- nodes nested deeper than allowed -/
  | tooDeep (limit : Nat) (pos : Pos)
  deriving DecidableEq, Repr

def SynthError.message : SynthError → String
  | unsupported kind pos => pos.display ++ ": unsupported " ++ kind
  | dotImport path pos =>
    pos.display ++ ": dot import of " ++ Escaped.display path ++ " is not supported"
  | duplicateAlias name first second pos =>
    pos.display ++ ": import alias " ++ Escaped.display name ++ " refers to both "
      ++ Escaped.display first ++ " and " ++ Escaped.display second
  | emptyProgramName => "program name must not be empty"
  | tooDeep limit pos =>
    pos.display ++ ": nesting deeper than " ++ toString limit ++ " levels"

end GoRebuild
