import GoRebuild.Synth.Error

/-!
# Imports and their local names

* `defaultAlias path` : the local name of an import without one of its own, the last segment of the path
  without its major version;
* `SymbolTable` : local names with their paths, and what was imported under an explicit name or for
  its side effects;
* `SymbolTable.build` : the table of a list of imports, which refuses dot imports and a local name
  that is used twice;
* `SymbolTable.resolve` : the path behind a local name.
-/

namespace GoRebuild

/-! ## The name an import path implies -/

/-- The value of a row of digits that may follow a plus sign, below `2 ^ 64`. -/
def wordValue? (cs : List Char) : Option Nat :=
  let ds := match cs with
    | '+' :: ds => ds
    | ds => ds
  if ds.isEmpty || !ds.all Char.isDigit then none
  else
    let n := ds.foldl (fun n d => n * 10 + (d.toNat - 48)) 0
    if n < Nat.pow 2 64 then some n else none

/-- The number of a version element: `v` and the number. -/
def majorVersion? : List Char → Option Nat
  | 'v' :: cs => wordValue? cs
  | _ => none

/-- The segments of a path, split at each slash. -/
def segments : List Char → List (List Char)
  | [] => [[]]
  | c :: cs =>
    match segments cs with
    | [] => [[c]]
    | s :: ss => if c = '/' then [] :: s :: ss else (c :: s) :: ss

/-- A text before and after its last dot. -/
def splitAtLastDot? (cs : List Char) : Option (List Char × List Char) :=
  let after := cs.reverse.takeWhile (· ≠ '.')
  match cs.reverse.dropWhile (· ≠ '.') with
  | [] => none
  | _ :: before => some (before.reverse, after.reverse)

/-- The segment that names the package: the last, or the one before it if the last is a major version
of at least two. -/
def packageSegment (path : List Char) : List Char :=
  match (segments path).reverse with
  | last :: parent :: _ =>
    match majorVersion? last with
    | some n => if 2 ≤ n then parent else last
    | none => last
  | [last] => last
  | [] => path

/-- The local name of an import that has no name of its own. A version after a dot is dropped, too. -/
def defaultAlias (path : String) : String :=
  let segment := packageSegment path.toList
  match splitAtLastDot? segment with
  | some (name, version) =>
    if !name.isEmpty && (majorVersion? version).isSome then String.ofList name
    else String.ofList segment
  | none => String.ofList segment

/-! ## The table -/

/-- Local names and imports of a file. -/
structure SymbolTable where
  /-- Local names with their paths, in the order of the imports. -/
  paths : List (String × String) := []
  /-- Paths with the names written before them. -/
  explicit : List (String × String) := []
  /-- Paths imported for their side effects. -/
  anonymous : List String := []
  deriving Repr, Inhabited

namespace SymbolTable

/-- The path behind a local name. -/
def resolve (t : SymbolTable) (name : String) : Option String :=
  t.paths.lookup name

/-- How many local names there are. -/
def size (t : SymbolTable) : Nat :=
  t.paths.length

/-- Binds a local name, unless it is bound. -/
def bind (t : SymbolTable) (name : String) (spec : ImportSpec) : Except SynthError SymbolTable :=
  match t.resolve name with
  | some first => .error (.duplicateAlias name first spec.path spec.pos)
  | none => .ok { t with paths := t.paths ++ [(name, spec.path)] }

/-- The table with one more import. -/
def add (t : SymbolTable) (spec : ImportSpec) : Except SynthError SymbolTable :=
  match spec.name with
  | some .dot => .error (.dotImport spec.path spec.pos)
  | some .blank => .ok { t with anonymous := t.anonymous ++ [spec.path] }
  | some (.named name) =>
    ({ t with explicit := t.explicit ++ [(spec.path, name)] } : SymbolTable).bind name spec
  | none => t.bind (defaultAlias spec.path) spec

/-- The table of a list of imports. -/
def build (imports : List ImportSpec) : Except SynthError SymbolTable :=
  imports.foldlM add {}

end SymbolTable

end GoRebuild
