import GoRebuild.Synth.Rules

/-!
# Generators

Each declaration has a generator: a function of the generated program that returns its chain.

* `Decl.generatorName` : the name a declaration gives its generator;
* `Decl.synth` : the generator of a declaration, none for imports;
* `renamed gs` : the generators with a later one renamed where its name is taken.
-/

namespace GoRebuild

/-- A function of the generated program that returns a chain. -/
structure Generator where
  name : String
  chain : Chain
  /-- The position of the declaration. -/
  pos : Pos

/-- The name a declaration gives its generator: that of a function, with the type of a receiver before
it, or the offset of any other declaration. -/
def Decl.generatorName : Decl → String
  | gen d => "genDeclAt" ++ toString d.pos.offset.toNat
  | func d => "genFunc" ++ d.receiver?.getD "" ++ d.name.name

/-- The generator of a declaration. Imports have none: they only fill the symbol table. -/
def Decl.synth (s : Scope) (d : Decl) : Synth (Option Generator) :=
  match d with
  | gen (.mk .importTok _ _ _) => pure none
  | gen g => return some ⟨d.generatorName, ← g.synth s, d.pos⟩
  | func f => return some ⟨d.generatorName, ← f.synth s, d.pos⟩

/-! ## Distinct names -/

/-- The first free name among `base_n`, `base_(n+1)` and so on; the bound counts the tries. -/
def searchName (taken : List String) (base : String) : Nat → Nat → String
  | 0, n => base ++ "_" ++ toString n
  | bound + 1, n =>
    let name := base ++ "_" ++ toString n
    if taken.contains name then searchName taken base bound (n + 1) else name

/-- `base`, or `base_2`, `base_3` and so on, whichever is free first. -/
def freshName (taken : List String) (base : String) : String :=
  if taken.contains base then searchName taken base taken.length 2 else base

/-- The generator under a name that is not taken. -/
def Generator.rename (taken : List String) (g : Generator) : Generator :=
  if taken.contains g.name then
    { g with name := freshName taken (g.name ++ "At" ++ toString g.pos.offset.toNat) }
  else g

/-- Renames every generator whose name is taken, by an earlier one or from the start. -/
def renamedFrom (taken : List String) : List Generator → List Generator
  | [] => []
  | g :: gs =>
    let g := g.rename taken
    g :: renamedFrom (g.name :: taken) gs

/-- Renames every generator whose name an earlier one has. -/
def renamed (gs : List Generator) : List Generator :=
  renamedFrom [] gs

end GoRebuild
