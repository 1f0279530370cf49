import GoRebuild.Reader.Statements

/-!
# Reading a source file

* `sourceLanguage`, `sourceExtensions` : which files are sources;
* `unquoted` : an import path without its quotes;
* `TopLevel`, `Readers.topLevel` : what an entry at top level becomes;
* `File.ofParts` : the file with some entries;
* `File.read` : the tree of a source.
-/

namespace GoRebuild
open Parse (Node)
open Parse.Node

/-- The language of the sources. -/
def sourceLanguage : String := "go"

/-- The extensions of the names of source files. -/
def sourceExtensions : List String := ["go"]

/-- A literal without the quotes around it. -/
def unquoted (literal : String) : String :=
  let isQuote (c : Char) : Bool := c = '"' || c = '\x60'
  let cs := literal.toList.dropWhile isQuote
  String.ofList (cs.reverse.dropWhile isQuote).reverse

/-! ## Imports -/

/-- The local name of an import, by the kind of its node. -/
def importName (t : Node) : ImportName :=
  match t.kind with
  | "dot" => .dot
  | "blank_identifier" => .blank
  | _ => .named t.text

def importSpec (t : Node) : Reading Spec := do
  let path := (← t.require "path").text
  return .imported ⟨(t.child? "name").map importName, unquoted path, t.pos⟩

def importDecl (t : Node) : Reading GenDecl := do
  let rows ← t.entries.mapM fun c =>
    match c.kind with
    | "import_spec" => return [← importSpec c]
    | "import_spec_list" => c.entries.mapM importSpec
    | _ => c.unsupported
  return .mk .importTok t.pos (t.entries.any (·.kind == "import_spec_list")) rows.flatten

/-! ## Entries at top level -/

/-- What an entry at top level becomes. -/
inductive TopLevel where
  | package (name : Ident)
  | decl (d : Decl)

namespace TopLevel

/-- The package name that it states. -/
def package? : TopLevel → Option Ident
  | package n => some n
  | decl _ => none

/-- The declaration that it is. -/
def decl? : TopLevel → Option Decl
  | decl d => some d
  | package _ => none

end TopLevel

namespace Readers
variable (r : Readers)

/-- A function or method: its receiver, its body, then its signature. -/
def funcDecl (t : Node) : Reading FuncDecl := do
  t.rejectGenerics
  let recv ← (t.child? "receiver").mapM r.params
  let body ← (t.child? "body").mapM r.block
  return ⟨recv, (← t.require "name").ident, ← r.signature t, body, t.pos⟩

/-- An entry at top level, where only declarations may stand. -/
def topLevel (t : Node) : Reading TopLevel :=
  match t.kind with
  | "package_clause" => return .package (← t.firstEntry).ident
  | "import_declaration" => return .decl (.gen (← importDecl t))
  | "function_declaration" | "method_declaration" => return .decl (.func (← r.funcDecl t))
  | "const_declaration" | "var_declaration" | "type_declaration" => return .decl (.gen (← r.genDecl t))
  | _ => t.unsupported

end Readers

/-! ## Files -/

/-- The import that an entry is. -/
def Spec.import? : Spec → Option ImportSpec
  | imported i => some i
  | _ => none

/-- The imports in a declaration. -/
def Decl.imports : Decl → List ImportSpec
  | gen d => d.specs.filterMap Spec.import?
  | func _ => []

/-- The file with some entries. The last package clause counts. -/
def File.ofParts (parts : List TopLevel) : Except ReadError File :=
  let decls := parts.filterMap TopLevel.decl?
  match (parts.filterMap TopLevel.package?).getLast? with
  | some package => .ok ⟨package, decls.flatMap Decl.imports, decls⟩
  | none => .error .noPackage

/-- The file of a parse tree, with nodes nested no deeper than a limit. -/
def readFile (limit : Nat) (root : Node) : Reading File := do
  if root.hasError then
    throw (.badSyntax ((root.firstError.map pos).getD .none))
  let parts ← root.entries.mapM (Readers.upTo limit root.height).topLevel
  File.ofParts parts

/-- The tree of a source, with nodes nested no deeper than a limit. -/
def File.read (parser : SourceParser) (limit : Nat) (source : String) : Except ReadError File :=
  match parser source with
  | some root => (readFile limit root).run 0
  | none => .error .gaveUp

end GoRebuild
