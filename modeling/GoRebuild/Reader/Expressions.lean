import GoRebuild.Reader.Basic

/-!
# Reading expressions and types

What a node of a parse tree becomes is told by the name of its kind. The rules do not call themselves but take what
they need of the nodes below from `Readers`, which `Readers.upTo` ties together.

* `Readers` : what reads the nodes below;
* `Readers.exprList`, `Readers.boxed`, `Readers.optBoxed` : lists, and children that have to be there or may be;
* `Readers.stmtList`, `Readers.block` : statements in a row;
* `Readers.params`, `Readers.signature` : parameters and results;
* `Readers.args`, `Readers.keyedElement`, `Readers.structFields`, `Readers.interface`, `chanDir` : parts of expressions and
  types;
* `Readers.exprKindRule` : an expression or type.
-/

namespace GoRebuild
open Parse (Node)
open Parse.Node

/-- What reads the nodes below a node. -/
structure Readers where
  expr : Node → Reading Expr
  /-- An expression that is no level of its own. -/
  exprKind : Node → Reading ExprKind
  stmt : Node → Reading Stmt
  /-- The statements of a row. -/
  stmts : Node → Reading (List Stmt)

namespace Readers
variable (r : Readers)

/-! ## Lists and children -/

/-- The expressions of a list, or the only one. -/
def exprList (t : Node) : Reading (List Expr) :=
  if t.kind = "expression_list" then t.entries.mapM r.expr
  else return [← r.expr t]

/-- The child in a field. -/
def boxed (t : Node) (field : String) : Reading Expr := do
  r.expr (← t.require field)

/-- The child in a field, if there is one. -/
def optBoxed (t : Node) (field : String) : Reading (Option Expr) :=
  match t.child? field with
  | none => pure none
  | some c => return some (← r.expr c)

/-- The statement in a field, if there is one. -/
def optStmt (t : Node) (field : String) : Reading (Option Stmt) :=
  match t.child? field with
  | none => pure none
  | some c => return some (← r.stmt c)

/-- The statements among the children, but for some of these. -/
def stmtList (t : Node) (skip : List Nat) : Reading (List Stmt) := do
  let rows ← (t.entries.filter fun c => !skip.contains c.nodeId).mapM fun c =>
    if c.kind = "statement_list" then r.stmts c
    else return [← r.stmt c]
  return rows.flatten

def block (t : Node) : Reading Block :=
  return .mk (← r.stmtList t []) t.pos

/-! ## Parameters and results -/

/-- Parameters that share a type. -/
def param (t : Node) : Reading Field := do
  let names := (t.entriesIn "name").map ident
  let ty ← r.expr (← t.require "type")
  match t.kind with
  | "parameter_declaration" => return .mk names ty none
  | "variadic_parameter_declaration" => return .mk names (.mk (.ellipsis (some ty)) t.pos) none
  | _ => t.unsupported

def params (t : Node) : Reading (List Field) :=
  t.entries.mapM r.param

/-- Parameters and results of a function declaration, literal or type. -/
def signature (t : Node) : Reading FuncType := do
  let ps ← r.params (← t.require "parameters")
  match t.child? "result" with
  | none => return .mk ps none
  | some result =>
    if result.kind = "parameter_list" then return .mk ps (some (← r.params result))
    else return .mk ps (some [.mk [] (← r.expr result) none])

/-! ## Parts of expressions and types -/

/-- What a child of an argument list stands for, and whether it spreads an argument. -/
def arg (t : Node) : Reading (List Expr × Bool) :=
  match t.kind with
  | "..." => pure ([], true)
  | "comment" => pure ([], false)
  | "variadic_argument" => return ([← r.expr (← t.firstEntry)], true)
  | _ => if t.isNamed then return ([← r.expr t], false) else pure ([], false)

/-- Arguments, and whether any is spread. -/
def args (t : Node) : Reading (List Expr × Bool) := do
  let parts ← t.children.mapM r.arg
  return (parts.flatMap Prod.fst, parts.any Prod.snd)

/-- The elements of a literal in braces. -/
def literalValue (t : Node) : Reading (List Expr) :=
  t.entries.mapM r.expr

/-- Key and value, by their fields or as the first and the last child. -/
def keyedElement (t : Node) : Reading ExprKind := do
  let key ← match t.child? "key" <|> t.entries.head? with
    | some k => pure k
    | none => t.unsupported
  let value ← match t.child? "value" <|> t.entries.getLast? with
    | some v => pure v
    | none => t.unsupported
  return .keyValue (← r.expr key) (← r.expr value)

/-- An entry of a struct. -/
def structField (t : Node) : Reading Field := do
  if t.kind ≠ "field_declaration" then
    t.unsupported
  let names := (t.entriesIn "name").map ident
  let ty ← r.expr (← t.require "type")
  let tag := (t.child? "tag").map fun c => ⟨.string, c.text⟩
  if names.isEmpty && t.hasToken "*" then return .mk names (.mk (.star ty) t.pos) tag
  else return .mk names ty tag

def structFields (t : Node) : Reading (List Field) :=
  t.entries.mapM r.structField

/-- An entry of an interface. -/
def element (t : Node) : Reading Field :=
  match t.kind with
  | "method_elem" | "method_spec" => do
    let sig ← r.signature t
    return .mk [(← t.require "name").ident] (.mk (.funcType sig) t.pos) none
  | "type_elem" | "constraint_elem" =>
    match t.entries with
    | [single] => return .mk [] (← r.expr single) none
    | _ => t.unsupported
  | _ => return .mk [] (← r.expr t) none

def interface (t : Node) : Reading (List Field) :=
  t.entries.mapM r.element

end Readers

/-- The direction of a channel type. -/
def chanDir (t : Node) : ChanDir :=
  match (t.children.filter fun c => !c.isNamed).map kind with
  | "<-" :: "chan" :: _ => .recv
  | "chan" :: "<-" :: _ => .send
  | _ => .both

/-- A node as a literal. -/
def literal (t : Node) (kind : LitKind) : ExprKind :=
  .basicLit ⟨kind, t.text⟩

namespace Readers
variable (r : Readers)

/-! ## Expressions and types -/

def sliceRule (t : Node) : Reading ExprKind := do
  let colons := t.children.countP (·.kind == ":")
  let x ← r.boxed t "operand"
  let low ← r.optBoxed t "start"
  let high ← r.optBoxed t "end"
  let max ← r.optBoxed t "capacity"
  return .slice x low high max (colons == 2)

/-- A call: the arguments come before the callee. -/
def callRule (t : Node) : Reading ExprKind := do
  t.rejectGenerics
  let (args, spread) ← r.args (← t.require "arguments")
  return .call (← r.boxed t "function") args spread

def unaryRule (t : Node) : Reading ExprKind := do
  let op := (← t.require "operator").text
  let x ← r.boxed t "operand"
  if op = "*" then return .star x else return .unary op x

/-- An expression or type, by the kind of its node. -/
def exprKindRule (t : Node) : Reading ExprKind :=
  match t.kind with
  | "identifier" | "field_identifier" | "type_identifier" | "package_identifier" | "label_name"
  | "blank_identifier" | "nil" | "true" | "false" | "iota" => return .ident t.text
  | "int_literal" => return literal t .int
  | "float_literal" => return literal t .float
  | "imaginary_literal" => return literal t .imag
  | "rune_literal" => return literal t .char
  | "interpreted_string_literal" | "raw_string_literal" => return literal t .string
  | "parenthesized_expression" | "parenthesized_type" => return .paren (← r.expr (← t.firstEntry))
  | "selector_expression" => return .selector (← r.boxed t "operand") (← t.require "field").ident
  | "qualified_type" => return .selector (← r.boxed t "package") (← t.require "name").ident
  | "index_expression" => return .index (← r.boxed t "operand") (← r.boxed t "index")
  | "slice_expression" => r.sliceRule t
  | "type_assertion_expression" => return .typeAssert (← r.boxed t "operand") (some (← r.boxed t "type"))
  | "call_expression" => r.callRule t
  | "type_conversion_expression" => return .call (← r.boxed t "type") [← r.boxed t "operand"] false
  | "unary_expression" => r.unaryRule t
  | "binary_expression" =>
    return .binary (← r.boxed t "left") (← t.require "operator").text (← r.boxed t "right")
  | "composite_literal" =>
    return .compositeLit (some (← r.boxed t "type")) (← r.literalValue (← t.require "body"))
  | "literal_value" => return .compositeLit none (← r.literalValue t)
  | "literal_element" => do r.exprKind (← t.firstEntry)
  | "keyed_element" => r.keyedElement t
  | "func_literal" => return .funcLit (← r.signature t) (← r.block (← t.require "body"))
  | "pointer_type" => return .star (← r.expr (← t.firstEntry))
  | "array_type" => return .arrayType (some (← r.boxed t "length")) (← r.boxed t "element")
  | "implicit_length_array_type" =>
    return .arrayType (some (.mk (.ellipsis none) t.pos)) (← r.boxed t "element")
  | "slice_type" => return .arrayType none (← r.boxed t "element")
  | "struct_type" => return .structType (← r.structFields (← t.firstEntry))
  | "interface_type" => return .interfaceType (← r.interface t)
  | "map_type" => return .mapType (← r.boxed t "key") (← r.boxed t "value")
  | "channel_type" => return .chanType (chanDir t) (← r.boxed t "value")
  | "function_type" => return .funcType (← r.signature t)
  | _ => t.unsupported

end Readers

end GoRebuild
