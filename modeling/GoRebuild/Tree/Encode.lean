import GoRebuild.Json.Basic
import GoRebuild.Tree.Basic

/-!
# Syntax trees as JSON

A record is an object with its fields in order, an absent part is `null`, a list an array. A variant
without content is its name as a string, any other an object with its name as the only key.

* `Pos.encode`, `Ident.encode`, `ImportSpec.encode`, `BasicLit.encode`;
* `Expr.encode`, `Stmt.encode`, `GenDecl.encode`, `FuncDecl.encode`, `Decl.encode`, `File.encode`.
-/

namespace GoRebuild
open Json

/-- A variant with content. -/
def Json.variant (name : String) (content : Json) : Json :=
  obj [(name, content)]

/-- An absent part is `null`. -/
def Json.option {α : Type} (f : α → Json) : Option α → Json
  | none => null
  | some a => f a

/-- An integer without sign. -/
def Json.nat (n : Nat) : Json :=
  int n

def Pos.encode (p : Pos) : Json :=
  obj [("offset", nat p.offset.toNat), ("line", nat p.line.toNat), ("column", nat p.column.toNat)]

def Ident.encode (i : Ident) : Json :=
  obj [("name", str i.name), ("pos", i.pos.encode)]

def ImportName.encode : ImportName → Json
  | named n => variant "Alias" (str n)
  | dot => str "Dot"
  | blank => str "Blank"

def ImportSpec.encode (s : ImportSpec) : Json :=
  obj [("name", option ImportName.encode s.name), ("path", str s.path), ("pos", s.pos.encode)]

/-- The keyword of a declaration, capitalised. -/
def DeclToken.encode : DeclToken → Json
  | importTok => str "Import"
  | constTok => str "Const"
  | typeTok => str "Type"
  | varTok => str "Var"

def LitKind.encode : LitKind → Json
  | int => str "Int"
  | float => str "Float"
  | imag => str "Imag"
  | char => str "Char"
  | string => str "String"

def BasicLit.encode (l : BasicLit) : Json :=
  obj [("kind", l.kind.encode), ("value", str l.value)]

def ChanDir.encode : ChanDir → Json
  | both => str "Both"
  | send => str "Send"
  | recv => str "Recv"

def IncDec.encode : IncDec → Json
  | inc => str "Inc"
  | dec => str "Dec"

def BranchTok.encode : BranchTok → Json
  | breakTok => str "Break"
  | continueTok => str "Continue"
  | gotoTok => str "Goto"
  | fallthroughTok => str "Fallthrough"

/-- A list of fields is a record with one part. -/
def Json.fieldList (fields : List Json) : Json :=
  obj [("fields", arr fields)]

mutual

def Expr.encode : Expr → Json
  | .mk k p => obj [("kind", k.encode), ("pos", p.encode)]

def ExprKind.encode : ExprKind → Json
  | .bad k => variant "Bad" (obj [("kind", str k)])
  | .ident n => variant "Ident" (str n)
  | .ellipsis e => variant "Ellipsis" (Expr.encodeOption e)
  | .basicLit l => variant "BasicLit" l.encode
  | .funcLit t b => variant "FuncLit" (obj [("ty", t.encode), ("body", b.encode)])
  | .compositeLit t es =>
    variant "CompositeLit" (obj [("ty", Expr.encodeOption t), ("elts", arr (Expr.encodeList es))])
  | .paren x => variant "Paren" x.encode
  | .selector x s => variant "Selector" (obj [("x", x.encode), ("sel", s.encode)])
  | .index x i => variant "Index" (obj [("x", x.encode), ("index", i.encode)])
  | .slice x l h m s3 =>
    variant "Slice" (obj [("x", x.encode), ("low", Expr.encodeOption l),
      ("high", Expr.encodeOption h), ("max", Expr.encodeOption m), ("slice3", bool s3)])
  | .typeAssert x t => variant "TypeAssert" (obj [("x", x.encode), ("ty", Expr.encodeOption t)])
  | .call f as e =>
    variant "Call" (obj [("fun", f.encode), ("args", arr (Expr.encodeList as)),
      ("ellipsis", bool e)])
  | .star x => variant "Star" x.encode
  | .unary op x => variant "Unary" (obj [("op", str op), ("x", x.encode)])
  | .binary x op y => variant "Binary" (obj [("x", x.encode), ("op", str op), ("y", y.encode)])
  | .keyValue k v => variant "KeyValue" (obj [("key", k.encode), ("value", v.encode)])
  | .arrayType n t => variant "ArrayType" (obj [("len", Expr.encodeOption n), ("elt", t.encode)])
  | .structType fs => variant "StructType" (fieldList (Field.encodeList fs))
  | .funcType t => variant "FuncType" t.encode
  | .interfaceType ms => variant "InterfaceType" (fieldList (Field.encodeList ms))
  | .mapType k v => variant "MapType" (obj [("key", k.encode), ("value", v.encode)])
  | .chanType d v => variant "ChanType" (obj [("dir", d.encode), ("value", v.encode)])

def Expr.encodeOption : Option Expr → Json
  | none => null
  | some e => e.encode

def Expr.encodeList : List Expr → List Json
  | [] => []
  | e :: es => e.encode :: Expr.encodeList es

def FuncType.encode : FuncType → Json
  | .mk ps rs =>
    obj [("params", fieldList (Field.encodeList ps)), ("results", Field.encodeResults rs)]

def Field.encodeResults : Option (List Field) → Json
  | none => null
  | some fs => fieldList (Field.encodeList fs)

def Field.encode : Field → Json
  | .mk ns t tag =>
    obj [("names", arr (ns.map Ident.encode)), ("ty", t.encode),
      ("tag", option BasicLit.encode tag)]

def Field.encodeList : List Field → List Json
  | [] => []
  | f :: fs => f.encode :: Field.encodeList fs

def Block.encode : Block → Json
  | .mk ss p => obj [("stmts", arr (Stmt.encodeList ss)), ("pos", p.encode)]

def Stmt.encode : Stmt → Json
  | .mk k p => obj [("kind", k.encode), ("pos", p.encode)]

def Stmt.encodeOption : Option Stmt → Json
  | none => null
  | some s => s.encode

def Stmt.encodeList : List Stmt → List Json
  | [] => []
  | s :: ss => s.encode :: Stmt.encodeList ss

def StmtKind.encode : StmtKind → Json
  | .bad k => variant "Bad" (obj [("kind", str k)])
  | .decl d => variant "Decl" d.encode
  | .empty => str "Empty"
  | .labeled l s => variant "Labeled" (obj [("label", l.encode), ("stmt", s.encode)])
  | .expr x => variant "Expr" x.encode
  | .send c v => variant "Send" (obj [("chan", c.encode), ("value", v.encode)])
  | .incDec x t => variant "IncDec" (obj [("x", x.encode), ("tok", t.encode)])
  | .assign l t r =>
    variant "Assign" (obj [("lhs", arr (Expr.encodeList l)), ("tok", str t),
      ("rhs", arr (Expr.encodeList r))])
  | .goStmt c => variant "Go" c.encode
  | .deferStmt c => variant "Defer" c.encode
  | .returnStmt rs => variant "Return" (arr (Expr.encodeList rs))
  | .branch t l =>
    variant "Branch" (obj [("tok", t.encode), ("label", option Ident.encode l)])
  | .block b => variant "Block" b.encode
  | .ifStmt i c b e =>
    variant "If" (obj [("init", Stmt.encodeOption i), ("cond", c.encode), ("body", b.encode),
      ("els", Stmt.encodeOption e)])
  | .caseClause l b =>
    variant "CaseClause" (obj [("list", arr (Expr.encodeList l)), ("body", arr (Stmt.encodeList b))])
  | .switchStmt i t b =>
    variant "Switch" (obj [("init", Stmt.encodeOption i), ("tag", Expr.encodeOption t),
      ("body", b.encode)])
  | .typeSwitch i a b =>
    variant "TypeSwitch" (obj [("init", Stmt.encodeOption i), ("assign", a.encode),
      ("body", b.encode)])
  | .commClause c b =>
    variant "CommClause" (obj [("comm", Stmt.encodeOption c), ("body", arr (Stmt.encodeList b))])
  | .selectStmt b => variant "Select" (obj [("body", b.encode)])
  | .forStmt i c p b =>
    variant "For" (obj [("init", Stmt.encodeOption i), ("cond", Expr.encodeOption c),
      ("post", Stmt.encodeOption p), ("body", b.encode)])
  | .rangeStmt k v t x b =>
    variant "Range" (obj [("key", Expr.encodeOption k), ("value", Expr.encodeOption v),
      ("tok", option str t), ("x", x.encode), ("body", b.encode)])

def GenDecl.encode : GenDecl → Json
  | .mk t p g ss =>
    obj [("tok", t.encode), ("pos", p.encode), ("grouped", bool g), ("specs", arr (Spec.encodeList ss))]

def Spec.encode : Spec → Json
  | .imported s => variant "Import" s.encode
  | .value ns t vs =>
    variant "Value" (obj [("names", arr (ns.map Ident.encode)), ("ty", Expr.encodeOption t),
      ("values", arr (Expr.encodeList vs))])
  | .type n a t =>
    variant "Type" (obj [("name", n.encode), ("alias", bool a), ("ty", t.encode)])

def Spec.encodeList : List Spec → List Json
  | [] => []
  | s :: ss => s.encode :: Spec.encodeList ss

end

def FuncDecl.encode (d : FuncDecl) : Json :=
  obj [("recv", Field.encodeResults d.recv), ("name", d.name.encode), ("ty", d.ty.encode),
    ("body", option Block.encode d.body), ("pos", d.pos.encode)]

def Decl.encode : Decl → Json
  | gen d => variant "Gen" d.encode
  | func d => variant "Func" d.encode

def File.encode (f : File) : Json :=
  obj [("package", f.package.encode), ("imports", arr (f.imports.map ImportSpec.encode)),
    ("decls", arr (f.decls.map Decl.encode))]

end GoRebuild
