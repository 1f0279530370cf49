import GoRebuild.Program.Generator
import GoRebuild.Text.Blank

/-!
# Assembling the generated program

* `Program` : the generators of a file and what the program says about its imports;
* `Options` : the choices of the user;
* `assemble` : the program that rebuilds a file, with one depth counter for all declarations or, in
  parallel, one for each.
-/

namespace GoRebuild

/-- The program that rebuilds a file. -/
structure Program where
  /-- The package of the program itself. -/
  package : String
  /-- The package of the file that it rebuilds. -/
  name : String
  /-- Paths imported for their side effects. -/
  anonymous : List String
  /-- Paths with the names written before them. -/
  aliases : List (String × String)
  units : List Generator
  /-- Whether a `main` prints the rebuilt file. -/
  entryPoint : Bool

/-- The choices of the user. -/
structure Options where
  package : String := "main"
  entryPoint : Bool := false
  parallel : Bool := false
  /-- The deepest nesting that is not refused. -/
  limit : Nat := defaultLimit
  deriving DecidableEq, Repr

/-- The generators of declarations, one after the other. -/
def synthInTurn (s : Scope) : List Decl → Synth (List (Option Generator))
  | [] => pure []
  | d :: ds => return (← d.synth s) :: (← synthInTurn s ds)

/-- The generators of declarations, each on its own. -/
def synthApart (s : Scope) : List Decl → Except SynthError (List (Option Generator))
  | [] => pure []
  | d :: ds => return (← (d.synth s).answer) :: (← synthApart s ds)

/-- The program that rebuilds a file. An empty package name and ambiguous imports are refused before
any declaration is looked at. -/
def assemble (file : File) (o : Options) : Except SynthError Program := do
  if Text.isBlankText o.package then throw .emptyProgramName
  let table ← SymbolTable.build file.imports
  let scope : Scope := ⟨table, o.limit⟩
  let units ←
    if o.parallel then synthApart scope file.decls else (synthInTurn scope file.decls).answer
  return {
    package := o.package
    name := file.package.name
    anonymous := table.anonymous
    aliases := table.explicit
    units := renamed (units.filterMap id)
    entryPoint := o.entryPoint }

end GoRebuild
