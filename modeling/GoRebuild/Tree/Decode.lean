import GoRebuild.Json.Basic
import GoRebuild.Tree.Basic

/-!
# Syntax trees from JSON

The inverse of `GoRebuild.Tree.Encode`, more tolerant than what it writes: unknown fields are passed
over, an optional field may be missing, and a record may be an array of its fields in order. Anything
else that `encode` does not write is refused.

* `Pos.decode?`, `Ident.decode?`, `ImportSpec.decode?`, `BasicLit.decode?`;
* `Expr.decode?`, `Stmt.decode?`, `GenDecl.decode?`, `FuncDecl.decode?`, `Decl.decode?`, `File.decode?`.

The functions named `decodeAt?` take a bound on the nesting of the value.
-/

namespace GoRebuild
open Json

/-- The name and content of a variant. -/
def Json.variant? : Json → Option (String × Option Json)
  | str s => some (s, none)
  | obj [(k, v)] => some (k, some v)
  | _ => none

/-- The name of a variant without content, which may also be given as `null`. -/
def Json.unit? (v : Json) : Option String :=
  match v.variant? with
  | some (k, none) => some k
  | some (k, some null) => some k
  | _ => none

/-- A part that may be missing or `null`. -/
def Json.optional? {α : Type} (f : Json → Option α) : Option Json → Option (Option α)
  | none => some none
  | some null => some none
  | some v => (f v).map some

/-- The elements of an array, each decoded. -/
def Json.list? {α : Type} (f : Json → Option α) : Json → Option (List α)
  | arr vs => vs.mapM f
  | _ => none

/-- An unsigned integer of 32 bits. -/
def Json.uint32? (v : Json) : Option UInt32 :=
  (v.word? 32).map UInt32.ofNat

def Pos.decode? (v : Json) : Option Pos := do
  match ← v.record? ["offset", "line", "column"] with
  | [some o, some l, some c] => some ⟨← o.uint32?, ← l.uint32?, ← c.uint32?⟩
  | _ => none

def Ident.decode? (v : Json) : Option Ident := do
  match ← v.record? ["name", "pos"] with
  | [some n, some p] => some ⟨← n.text?, ← Pos.decode? p⟩
  | _ => none

def ImportName.decode? (v : Json) : Option ImportName :=
  match v.variant? with
  | some ("Alias", some n) => n.text?.map .named
  | _ =>
    match v.unit? with
    | some "Dot" => some .dot
    | some "Blank" => some .blank
    | _ => none

def ImportSpec.decode? (v : Json) : Option ImportSpec := do
  match ← v.record? ["name", "path", "pos"] with
  | [n, some p, some q] => some ⟨← optional? ImportName.decode? n, ← p.text?, ← Pos.decode? q⟩
  | _ => none

def DeclToken.decode? (v : Json) : Option DeclToken :=
  match v.unit? with
  | some "Import" => some .importTok
  | some "Const" => some .constTok
  | some "Type" => some .typeTok
  | some "Var" => some .varTok
  | _ => none

def LitKind.decode? (v : Json) : Option LitKind :=
  match v.unit? with
  | some "Int" => some .int
  | some "Float" => some .float
  | some "Imag" => some .imag
  | some "Char" => some .char
  | some "String" => some .string
  | _ => none

def BasicLit.decode? (v : Json) : Option BasicLit := do
  match ← v.record? ["kind", "value"] with
  | [some k, some t] => some ⟨← LitKind.decode? k, ← t.text?⟩
  | _ => none

def ChanDir.decode? (v : Json) : Option ChanDir :=
  match v.unit? with
  | some "Both" => some .both
  | some "Send" => some .send
  | some "Recv" => some .recv
  | _ => none

def IncDec.decode? (v : Json) : Option IncDec :=
  match v.unit? with
  | some "Inc" => some .inc
  | some "Dec" => some .dec
  | _ => none

def BranchTok.decode? (v : Json) : Option BranchTok :=
  match v.unit? with
  | some "Break" => some .breakTok
  | some "Continue" => some .continueTok
  | some "Goto" => some .gotoTok
  | some "Fallthrough" => some .fallthroughTok
  | _ => none

/-- The elements of a list of fields. -/
def Json.fields? {α : Type} (f : Json → Option α) (v : Json) : Option (List α) := do
  match ← v.record? ["fields"] with
  | [some fs] => fs.list? f
  | _ => none

mutual

/-- An expression or type. -/
def Expr.decodeAt? : Nat → Json → Option Expr
  | 0, _ => none
  | n + 1, v => do
    match ← v.record? ["kind", "pos"] with
    | [some k, some p] => some (.mk (← ExprKind.decodeAt? n k) (← Pos.decode? p))
    | _ => none

def ExprKind.decodeAt? : Nat → Json → Option ExprKind
  | 0, _ => none
  | n + 1, v => do
    let expr := Expr.decodeAt? n
    let some (name, some c) := v.variant? | none
    match name with
    | "Bad" =>
      match ← c.namedRecord? ["kind"] with
      | [some k] => some (.bad (← k.text?))
      | _ => none
    | "Ident" => some (.ident (← c.text?))
    | "Ellipsis" => some (.ellipsis (← optional? expr (some c)))
    | "BasicLit" => some (.basicLit (← BasicLit.decode? c))
    | "FuncLit" =>
      match ← c.namedRecord? ["ty", "body"] with
      | [some t, some b] => some (.funcLit (← FuncType.decodeAt? n t) (← Block.decodeAt? n b))
      | _ => none
    | "CompositeLit" =>
      match ← c.namedRecord? ["ty", "elts"] with
      | [t, some es] => some (.compositeLit (← optional? expr t) (← es.list? expr))
      | _ => none
    | "Paren" => some (.paren (← expr c))
    | "Selector" =>
      match ← c.namedRecord? ["x", "sel"] with
      | [some x, some s] => some (.selector (← expr x) (← Ident.decode? s))
      | _ => none
    | "Index" =>
      match ← c.namedRecord? ["x", "index"] with
      | [some x, some i] => some (.index (← expr x) (← expr i))
      | _ => none
    | "Slice" =>
      match ← c.namedRecord? ["x", "low", "high", "max", "slice3"] with
      | [some x, l, h, m, some s] =>
        some (.slice (← expr x) (← optional? expr l) (← optional? expr h) (← optional? expr m)
          (← s.bool?))
      | _ => none
    | "TypeAssert" =>
      match ← c.namedRecord? ["x", "ty"] with
      | [some x, t] => some (.typeAssert (← expr x) (← optional? expr t))
      | _ => none
    | "Call" =>
      match ← c.namedRecord? ["fun", "args", "ellipsis"] with
      | [some f, some as, some e] => some (.call (← expr f) (← as.list? expr) (← e.bool?))
      | _ => none
    | "Star" => some (.star (← expr c))
    | "Unary" =>
      match ← c.namedRecord? ["op", "x"] with
      | [some o, some x] => some (.unary (← o.text?) (← expr x))
      | _ => none
    | "Binary" =>
      match ← c.namedRecord? ["x", "op", "y"] with
      | [some x, some o, some y] => some (.binary (← expr x) (← o.text?) (← expr y))
      | _ => none
    | "KeyValue" =>
      match ← c.namedRecord? ["key", "value"] with
      | [some k, some w] => some (.keyValue (← expr k) (← expr w))
      | _ => none
    | "ArrayType" =>
      match ← c.namedRecord? ["len", "elt"] with
      | [l, some t] => some (.arrayType (← optional? expr l) (← expr t))
      | _ => none
    | "StructType" => some (.structType (← c.fields? (Field.decodeAt? n)))
    | "FuncType" => some (.funcType (← FuncType.decodeAt? n c))
    | "InterfaceType" => some (.interfaceType (← c.fields? (Field.decodeAt? n)))
    | "MapType" =>
      match ← c.namedRecord? ["key", "value"] with
      | [some k, some w] => some (.mapType (← expr k) (← expr w))
      | _ => none
    | "ChanType" =>
      match ← c.namedRecord? ["dir", "value"] with
      | [some d, some w] => some (.chanType (← ChanDir.decode? d) (← expr w))
      | _ => none
    | _ => none

def FuncType.decodeAt? : Nat → Json → Option FuncType
  | 0, _ => none
  | n + 1, v => do
    match ← v.record? ["params", "results"] with
    | [some ps, rs] =>
      some (.mk (← ps.fields? (Field.decodeAt? n)) (← optional? (fields? (Field.decodeAt? n)) rs))
    | _ => none

def Field.decodeAt? : Nat → Json → Option Field
  | 0, _ => none
  | n + 1, v => do
    match ← v.record? ["names", "ty", "tag"] with
    | [some ns, some t, tag] =>
      some (.mk (← ns.list? Ident.decode?) (← Expr.decodeAt? n t) (← optional? BasicLit.decode? tag))
    | _ => none

def Block.decodeAt? : Nat → Json → Option Block
  | 0, _ => none
  | n + 1, v => do
    match ← v.record? ["stmts", "pos"] with
    | [some ss, some p] => some (.mk (← ss.list? (Stmt.decodeAt? n)) (← Pos.decode? p))
    | _ => none

def Stmt.decodeAt? : Nat → Json → Option Stmt
  | 0, _ => none
  | n + 1, v => do
    match ← v.record? ["kind", "pos"] with
    | [some k, some p] => some (.mk (← StmtKind.decodeAt? n k) (← Pos.decode? p))
    | _ => none

def StmtKind.decodeAt? : Nat → Json → Option StmtKind
  | 0, _ => none
  | n + 1, v => do
    let expr := Expr.decodeAt? n
    let stmt := Stmt.decodeAt? n
    let block := Block.decodeAt? n
    if v.unit? = some "Empty" then return .empty
    let some (name, some c) := v.variant? | none
    match name with
    | "Bad" =>
      match ← c.namedRecord? ["kind"] with
      | [some k] => some (.bad (← k.text?))
      | _ => none
    | "Decl" => some (.decl (← GenDecl.decodeAt? n c))
    | "Labeled" =>
      match ← c.namedRecord? ["label", "stmt"] with
      | [some l, some s] => some (.labeled (← Ident.decode? l) (← stmt s))
      | _ => none
    | "Expr" => some (.expr (← expr c))
    | "Send" =>
      match ← c.namedRecord? ["chan", "value"] with
      | [some x, some w] => some (.send (← expr x) (← expr w))
      | _ => none
    | "IncDec" =>
      match ← c.namedRecord? ["x", "tok"] with
      | [some x, some t] => some (.incDec (← expr x) (← IncDec.decode? t))
      | _ => none
    | "Assign" =>
      match ← c.namedRecord? ["lhs", "tok", "rhs"] with
      | [some l, some t, some r] => some (.assign (← l.list? expr) (← t.text?) (← r.list? expr))
      | _ => none
    | "Go" => some (.goStmt (← expr c))
    | "Defer" => some (.deferStmt (← expr c))
    | "Return" => some (.returnStmt (← c.list? expr))
    | "Branch" =>
      match ← c.namedRecord? ["tok", "label"] with
      | [some t, l] => some (.branch (← BranchTok.decode? t) (← optional? Ident.decode? l))
      | _ => none
    | "Block" => some (.block (← block c))
    | "If" =>
      match ← c.namedRecord? ["init", "cond", "body", "els"] with
      | [i, some x, some b, e] =>
        some (.ifStmt (← optional? stmt i) (← expr x) (← block b) (← optional? stmt e))
      | _ => none
    | "CaseClause" =>
      match ← c.namedRecord? ["list", "body"] with
      | [some l, some b] => some (.caseClause (← l.list? expr) (← b.list? stmt))
      | _ => none
    | "Switch" =>
      match ← c.namedRecord? ["init", "tag", "body"] with
      | [i, t, some b] => some (.switchStmt (← optional? stmt i) (← optional? expr t) (← block b))
      | _ => none
    | "TypeSwitch" =>
      match ← c.namedRecord? ["init", "assign", "body"] with
      | [i, some a, some b] => some (.typeSwitch (← optional? stmt i) (← stmt a) (← block b))
      | _ => none
    | "CommClause" =>
      match ← c.namedRecord? ["comm", "body"] with
      | [x, some b] => some (.commClause (← optional? stmt x) (← b.list? stmt))
      | _ => none
    | "Select" =>
      match ← c.namedRecord? ["body"] with
      | [some b] => some (.selectStmt (← block b))
      | _ => none
    | "For" =>
      match ← c.namedRecord? ["init", "cond", "post", "body"] with
      | [i, x, p, some b] =>
        some (.forStmt (← optional? stmt i) (← optional? expr x) (← optional? stmt p) (← block b))
      | _ => none
    | "Range" =>
      match ← c.namedRecord? ["key", "value", "tok", "x", "body"] with
      | [k, w, t, some x, some b] =>
        some (.rangeStmt (← optional? expr k) (← optional? expr w) (← optional? text? t) (← expr x)
          (← block b))
      | _ => none
    | _ => none

def GenDecl.decodeAt? : Nat → Json → Option GenDecl
  | 0, _ => none
  | n + 1, v => do
    match ← v.record? ["tok", "pos", "grouped", "specs"] with
    | [some t, some p, some g, some ss] =>
      some (.mk (← DeclToken.decode? t) (← Pos.decode? p) (← g.bool?) (← ss.list? (Spec.decodeAt? n)))
    | _ => none

def Spec.decodeAt? : Nat → Json → Option Spec
  | 0, _ => none
  | n + 1, v => do
    let expr := Expr.decodeAt? n
    match v.variant? with
    | some ("Import", some c) => some (.imported (← ImportSpec.decode? c))
    | some ("Value", some c) =>
      match ← c.record? ["names", "ty", "values"] with
      | [some ns, t, some vs] =>
        some (.value (← ns.list? Ident.decode?) (← optional? expr t) (← vs.list? expr))
      | _ => none
    | some ("Type", some c) =>
      match ← c.record? ["name", "alias", "ty"] with
      | [some i, some a, some t] => some (.type (← Ident.decode? i) (← a.bool?) (← expr t))
      | _ => none
    | _ => none

end

def Expr.decode? (v : Json) : Option Expr :=
  Expr.decodeAt? (v.depth + 1) v

def FuncType.decode? (v : Json) : Option FuncType :=
  FuncType.decodeAt? (v.depth + 1) v

def Field.decodeList? (v : Json) : Option (List Field) :=
  v.fields? (Field.decodeAt? (v.depth + 1))

def Block.decode? (v : Json) : Option Block :=
  Block.decodeAt? (v.depth + 1) v

def Stmt.decode? (v : Json) : Option Stmt :=
  Stmt.decodeAt? (v.depth + 1) v

def GenDecl.decode? (v : Json) : Option GenDecl :=
  GenDecl.decodeAt? (v.depth + 1) v

def FuncDecl.decode? (v : Json) : Option FuncDecl := do
  match ← v.record? ["recv", "name", "ty", "body", "pos"] with
  | [r, some n, some t, b, some p] =>
    some ⟨← optional? Field.decodeList? r, ← Ident.decode? n, ← FuncType.decode? t,
      ← optional? Block.decode? b, ← Pos.decode? p⟩
  | _ => none

def Decl.decode? (v : Json) : Option Decl :=
  match v.variant? with
  | some ("Gen", some c) => (GenDecl.decode? c).map .gen
  | some ("Func", some c) => (FuncDecl.decode? c).map .func
  | _ => none

def File.decode? (v : Json) : Option File := do
  match ← v.record? ["package", "imports", "decls"] with
  | [some p, some is, some ds] =>
    some ⟨← Ident.decode? p, ← is.list? ImportSpec.decode?, ← ds.list? Decl.decode?⟩
  | _ => none

end GoRebuild
