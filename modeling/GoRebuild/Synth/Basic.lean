import GoRebuild.Chain.Basic
import GoRebuild.Symbols

/-!
# The setting of synthesis

* `Scope` : the symbol table and the limit on nesting;
* `Synth` : a computation that counts how deep it is nested and may fail; the count outlives a failure;
* `Synth.nested` : one level deeper, refused at the limit.
-/

namespace GoRebuild

/-- How deep nodes may be nested unless something else is said. -/
def defaultLimit : Nat := 256

/-- What synthesis looks up. -/
structure Scope where
  table : SymbolTable
  /-- The deepest nesting that is not refused. -/
  limit : Nat

/-- A computation with a depth counter that may fail. -/
abbrev Synth (α : Type) := ExceptT SynthError (StateM Nat) α

namespace Synth

/-- Runs a computation one level deeper and comes back up, whether it fails or not. -/
def nested {α : Type} (s : Scope) (pos : Pos) (act : Synth α) : Synth α := fun depth =>
  if s.limit ≤ depth then (.error (.tooDeep s.limit pos), depth)
  else
    let r := act (depth + 1)
    (r.1, r.2 - 1)

/-- Refuses a construct. -/
def unsupported {α : Type} (kind : String) (pos : Pos) : Synth α :=
  throw (.unsupported kind pos)

/-- The answer of a computation from a depth of zero. -/
def answer {α : Type} (act : Synth α) : Except SynthError α :=
  (act.run.run 0).1

end Synth

/-- The import path behind an expression that is a bare local name. -/
def Scope.qualifier? (s : Scope) : Expr → Option String
  | .mk (.ident base) _ => s.table.resolve base
  | _ => none

end GoRebuild
