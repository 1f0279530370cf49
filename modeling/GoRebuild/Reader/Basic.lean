import GoRebuild.Parse.Node
import GoRebuild.Tree.Basic

/-!
# The setting of reading

* `ReadError`, `ReadError.message` : why a source has no syntax tree, and the wording;
* `Reading` : a computation that knows how deep it is nested and may fail;
* `Node.pos`, `Node.ident` : where a node starts, and a node as a name;
* `Node.require`, `Node.entries`, `Node.entriesIn`, `Node.firstEntry`, `Node.hasToken` : children of a node, comments
  and commas left aside;
* `Node.nested` : one level deeper, refused at the limit.
-/

namespace GoRebuild

/-- Why a source has no syntax tree. -/
inductive ReadError where
  /-- the parser gave no tree -/
  | gaveUp
  /-- the grammar does not derive the source -/
  | badSyntax (pos : Pos)
  | noPackage
  | missingField (kind field : String) (pos : Pos)
  | emptyNode (kind : String) (pos : Pos)
  /-- a construct that syntax trees have no node for -/
  | unsupported (kind : String) (pos : Pos)
  | unexpectedNode (expected got : String) (pos : Pos)
  /-- nodes nested deeper than allowed -/
  | tooDeep (limit : Nat) (pos : Pos)
  deriving DecidableEq, Repr

def ReadError.message : ReadError → String
  | gaveUp => "parse error: failed to parse"
  | badSyntax pos => "parse error: " ++ pos.display ++ ": syntax error in source"
  | noPackage => "parse error: missing package clause"
  | missingField kind field pos => "parse error: " ++ pos.display ++ ": " ++ kind ++ " missing " ++ field
  | emptyNode kind pos => "parse error: " ++ pos.display ++ ": empty " ++ kind
  | unsupported kind pos => pos.display ++ ": unsupported syntax: " ++ kind
  | unexpectedNode expected got pos => pos.display ++ ": expected " ++ expected ++ ", got " ++ got
  | tooDeep limit pos =>
    pos.display ++ ": nesting deeper than " ++ toString limit ++ " levels"

/-- A computation at some depth that may fail. -/
abbrev Reading (α : Type) := ReaderT Nat (Except ReadError) α

namespace Parse.Node

/-- Where a node starts; lines and columns begin at one. -/
def pos (t : Node) : Pos :=
  ⟨UInt32.ofNat t.info.start, UInt32.ofNat t.info.row + 1, UInt32.ofNat t.info.column + 1⟩

def ident (t : Node) : Ident :=
  ⟨t.text, t.pos⟩

/-- The child in a field that has to be there. -/
def require (t : Node) (field : String) : Reading Node :=
  match t.child? field with
  | some c => pure c
  | none => throw (.missingField t.kind field t.pos)

/-- The children that are named, without comments. -/
def entries (t : Node) : List Node :=
  t.namedChildren.filter (·.kind != "comment")

/-- The named children in a field, without the commas between them. -/
def entriesIn (t : Node) (field : String) : List Node :=
  (t.childrenIn field).filter isNamed

def firstEntry (t : Node) : Reading Node :=
  match t.entries.head? with
  | some c => pure c
  | none => throw (.emptyNode t.kind t.pos)

/-- Whether a symbol or keyword is a child. -/
def hasToken (t : Node) (token : String) : Bool :=
  t.children.any fun c => !c.isNamed && c.kind == token

def unsupported {α : Type} (t : Node) : Reading α :=
  throw (.unsupported t.kind t.pos)

/-- Refuses generic parameters and arguments. -/
def rejectGenerics (t : Node) : Reading Unit :=
  match t.child? "type_parameters" with
  | some ps => ps.unsupported
  | none =>
    match t.child? "type_arguments" with
    | some as => as.unsupported
    | none => pure ()

/-- Runs a computation one level deeper, which must be no deeper than a limit. -/
def nested {α : Type} (limit : Nat) (t : Node) (act : Reading α) : Reading α := fun depth =>
  if limit < depth + 1 then .error (.tooDeep limit t.pos) else act (depth + 1)

end Parse.Node

end GoRebuild
