import GoRebuild.Grammar.Source
import GoRebuild.Lexical.Scanner
import GoRebuild.Parse.Node

/-!
# From items to trees of nodes

* `Comment`, `comments` : the comments of a source;
* `Surroundings`, `weave` : where tokens and comments stand, and nodes with the comments between them;
* `leaf`, `symbol`, `fork` : nodes of each sort;
* `Node.tree`, `Stmt.tree`, `Item.tree` and the rest : what was read, as nodes;
* `parser` : a parser by the grammar.

Of the symbols a node has only those that tell it from others, and the commas that stand in a field. The opening bracket
of an empty list has no place among the items, so that such a list begins where its parent does.
-/

namespace GoRebuild.Grammar
open Lexical (Place Cursor)

/-! ## Comments -/

structure Comment where
  text : String
  start : Cursor
  deriving DecidableEq, Repr

/-- The comments in the rest of a source. The bound is on the number of steps. -/
def commentsFrom : Nat → Cursor → List Char → List Comment
  | 0, _, _ => []
  | _ + 1, _, [] => []
  | n + 1, p, c :: cs =>
    if Lexical.isSpace c then commentsFrom n (p.advance c) cs
    else
      let behind (k : Nat) := commentsFrom n (p.advanceBy ((c :: cs).take k)) ((c :: cs).drop k)
      match Lexical.commentLength (c :: cs), Lexical.lexeme? (c :: cs) with
      | some k, _ => ⟨String.ofList ((c :: cs).take k), p⟩ :: behind k
      | none, some (_, k) => behind k
      | none, none => []

def comments (source : String) : List Comment :=
  match source.toList with
  | '\ufeff' :: cs => commentsFrom (cs.length + 1) (Cursor.start.advance '\ufeff') cs
  | cs => commentsFrom (cs.length + 1) .start cs

/-! ## Nodes -/

/-- What is known of a source besides its items. -/
structure Surroundings where
  /-- Where each token starts. -/
  cursors : Array Cursor
  comments : List Comment

def Surroundings.cursor (e : Surroundings) (p : Place) : Cursor :=
  let q := e.cursors.getD p.token .start
  ⟨q.offset + p.shift, q.row, q.column + p.shift⟩

/-- What a node is to its parent. -/
structure Role where
  field : Option String
  id : Nat

/-- A node that begins at a position. -/
def nodeAt (kind text : String) (isNamed : Bool) (p : Cursor) (r : Role) (children : List Parse.Node) : Parse.Node :=
  .mk ⟨kind, isNamed, r.field, r.id, text, p.offset, p.row, p.column, false, false⟩ children

def Comment.node (id : Nat) (c : Comment) : Parse.Node :=
  nodeAt "comment" c.text true c.start ⟨none, id⟩ []

mutual

/-- The offset of the last node in a tree. -/
def reach : Parse.Node → Nat
  | .mk i cs => max i.start (reachAll cs)

def reachAll : List Parse.Node → Nat
  | [] => 0
  | c :: cs => max (reach c) (reachAll cs)

end

section
variable (e : Surroundings)

/-- The comments between two offsets. -/
def between (id low high : Nat) : List Parse.Node :=
  (e.comments.filter fun c => low ≤ c.start.offset && c.start.offset < high).map fun c =>
    c.node (id + c.start.offset)

/-- Nodes with the comments that stand between them, from some offset on. -/
def weave (id : Nat) : Nat → List Parse.Node → List Parse.Node
  | _, [] => []
  | low, c :: cs =>
    if c.isNamed then between e id low c.info.start ++ c :: weave id (reach c + 1) cs
    else c :: weave id low cs

/-- A node that is one token, or that nothing is known of but its place. -/
def leaf (kind text : String) (p : Place) (r : Role) : Parse.Node :=
  nodeAt kind text true (e.cursor p) r []

/-- A symbol or keyword of a node at a place. -/
def symbol (text : String) (p : Place) (r : Role) : Parse.Node :=
  nodeAt text text false (e.cursor p) r []

/-- A node with others in it. -/
def fork (kind : String) (p : Place) (r : Role) (children : List Parse.Node) : Parse.Node :=
  let c := e.cursor p
  nodeAt kind "" true c r (weave e children.length (c.offset + 1) children)

end

/-- The place of the token behind one. -/
def after (p : Place) : Place := ⟨p.token + 1, 0⟩

/-- The place of the token before one. -/
def before (p : Place) : Place := ⟨p.token - 1, 0⟩

/-! ## Names of kinds -/

def nameKind (text : String) : String :=
  if ["nil", "true", "false", "iota"].contains text then text else "identifier"

def stringKind (text : String) : String :=
  if text.startsWith "\x60" then "raw_string_literal" else "interpreted_string_literal"

def literalKind (lit : BasicLit) : String :=
  match lit.kind with
  | .int => "int_literal"
  | .float => "float_literal"
  | .imag => "imaginary_literal"
  | .char => "rune_literal"
  | .string => stringKind lit.value

/-- Whether an element of a literal has a key. -/
def Node.isKeyed : Node → Bool
  | .mk (.keyed _ _) _ => true
  | _ => false

/-! ## Expressions, types and statements -/

section
variable (e : Surroundings)

def Name.tree (kind : String) (n : Name) (r : Role) : Parse.Node :=
  leaf e kind n.text n.place r

/-- Names with a comma between any two, which stands in the field or not. -/
def nameTrees (kind : String) (comma : Option String) : Nat → List Name → List Parse.Node
  | _, [] => []
  | i, [n] => [n.tree e kind ⟨"name", i⟩]
  | i, n :: m :: ns =>
    n.tree e kind ⟨"name", i⟩ :: symbol e "," n.place ⟨comma, i + 1⟩ :: nameTrees kind comma (i + 2) (m :: ns)

def tagTrees (p : Place) (id : Nat) : Option String → List Parse.Node
  | none => []
  | some text => [leaf e (stringKind text) text p ⟨"tag", id⟩]

/-- The words of a channel type. -/
def chanTrees (p : Place) : ChanDir → List Parse.Node
  | .both => [symbol e "chan" p ⟨none, 0⟩]
  | .send => [symbol e "chan" p ⟨none, 0⟩, symbol e "<-" p ⟨none, 1⟩]
  | .recv => [symbol e "<-" p ⟨none, 0⟩, symbol e "chan" p ⟨none, 1⟩]

/-- Where a list in brackets opens that begins with some node. -/
def opening (default : Place) (first : Option Place) : Place :=
  (first.map before).getD default

mutual

def Node.tree : Node → Role → Parse.Node
  | .mk kind start, r => kind.tree start r

def NodeKind.tree : NodeKind → Place → Role → Parse.Node
  | .name text, p, r => leaf e (nameKind text) text p r
  | .literal lit, p, r => leaf e (literalKind lit) lit.value p r
  | .paren x, p, r => fork e "parenthesized_expression" p r [x.tree ⟨none, 0⟩]
  | .select x m, p, r =>
    fork e "selector_expression" p r [x.tree ⟨"operand", 0⟩, m.tree e "field_identifier" ⟨"field", 1⟩]
  | .index x i, p, r => fork e "index_expression" p r [x.tree ⟨"operand", 0⟩, i.tree ⟨"index", 1⟩]
  | .slice x low high, p, r =>
    fork e "slice_expression" p r
      (x.tree ⟨"operand", 0⟩ :: (optionTree "start" 1 low ++ symbol e ":" p ⟨none, 2⟩ :: optionTree "end" 3 high))
  | .slice3 x low high max, p, r =>
    fork e "slice_expression" p r
      (x.tree ⟨"operand", 0⟩ ::
        (optionTree "start" 1 low ++
          [symbol e ":" p ⟨none, 2⟩, high.tree ⟨"end", 3⟩, symbol e ":" p ⟨none, 4⟩, max.tree ⟨"capacity", 5⟩]))
  | .assert x ty, p, r =>
    fork e "type_assertion_expression" p r [x.tree ⟨"operand", 0⟩, ty.tree ⟨"type", 1⟩]
  | .call fn args, p, r =>
    fork e "call_expression" p r
      [fn.tree ⟨"function", 0⟩,
        fork e "argument_list" (opening p (args.head?.map Arg.start)) ⟨"arguments", 1⟩ (argTrees 0 args)]
  | .convert ty x, p, r => fork e "type_conversion_expression" p r [ty.tree ⟨"type", 0⟩, x.tree ⟨"operand", 1⟩]
  | .star x, p, r =>
    if x.isPureType then fork e "pointer_type" p r [x.tree ⟨none, 0⟩]
    else fork e "unary_expression" p r [symbol e "*" p ⟨"operator", 0⟩, x.tree ⟨"operand", 1⟩]
  | .unary op x, p, r =>
    fork e "unary_expression" p r [symbol e op.text p ⟨"operator", 0⟩, x.tree ⟨"operand", 1⟩]
  | .binary x op y, p, r =>
    fork e "binary_expression" p r [x.tree ⟨"left", 0⟩, symbol e op p ⟨"operator", 1⟩, y.tree ⟨"right", 2⟩]
  | .composite ty elems, p, r =>
    fork e "composite_literal" p r
      [ty.tree ⟨"type", 0⟩,
        fork e "literal_value" (opening p (elems.head?.map Node.start)) ⟨"body", 1⟩ (elementTrees 0 elems)]
  | .braces elems, p, r => fork e "literal_value" p r (elementTrees 0 elems)
  | .keyed key value, p, r =>
    fork e "keyed_element" p r
      [fork e "literal_element" key.start ⟨"key", 0⟩ [key.tree ⟨none, 0⟩],
        symbol e ":" p ⟨none, 1⟩,
        fork e "literal_element" value.start ⟨"value", 2⟩ [value.tree ⟨none, 0⟩]]
  | .func sig body, p, r => fork e "func_literal" p r (sig.trees (after p) ++ [body.tree ⟨"body", 3⟩])
  | .array len elt, p, r => fork e "array_type" p r [len.tree ⟨"length", 0⟩, elt.tree ⟨"element", 1⟩]
  | .openArray elt, p, r => fork e "implicit_length_array_type" p r [elt.tree ⟨"element", 0⟩]
  | .sliceOf elt, p, r => fork e "slice_type" p r [elt.tree ⟨"element", 0⟩]
  | .struct members, p, r =>
    fork e "struct_type" p r [fork e "field_declaration_list" (after p) ⟨none, 0⟩ (memberTrees 0 members)]
  | .interface elems, p, r => fork e "interface_type" p r (elemTrees 0 elems)
  | .map key value, p, r => fork e "map_type" p r [key.tree ⟨"key", 0⟩, value.tree ⟨"value", 1⟩]
  | .chan dir value, p, r => fork e "channel_type" p r (chanTrees e p dir ++ [value.tree ⟨"value", 2⟩])
  | .funcType sig, p, r => fork e "function_type" p r (sig.trees (after p))
  | .generic .typeArguments place, p, r =>
    fork e "call_expression" p r [leaf e "type_arguments" "" place ⟨"type_arguments", 0⟩]
  | .generic form _, p, r => leaf e form.kindName "" p r

def optionTree (field : String) (id : Nat) : Option Node → List Parse.Node
  | none => []
  | some x => [x.tree ⟨field, id⟩]

/-- Nodes in a row. -/
def nodeTrees : Nat → List Node → List Parse.Node
  | _, [] => []
  | i, x :: xs => x.tree ⟨none, i⟩ :: nodeTrees (i + 1) xs

/-- Types behind commas, all in a field. -/
def typeTrees : Nat → List Node → List Parse.Node
  | _, [] => []
  | i, x :: xs => symbol e "," x.start ⟨"type", i⟩ :: x.tree ⟨"type", i + 1⟩ :: typeTrees (i + 2) xs

/-- Elements in braces: those without a key are wrapped. -/
def elementTrees : Nat → List Node → List Parse.Node
  | _, [] => []
  | i, x :: xs =>
    (if x.isKeyed then x.tree ⟨none, i⟩ else fork e "literal_element" x.start ⟨none, i⟩ [x.tree ⟨none, 0⟩])
      :: elementTrees (i + 1) xs

def argTrees : Nat → List Arg → List Parse.Node
  | _, [] => []
  | i, .plain x :: as => x.tree ⟨none, i⟩ :: argTrees (i + 1) as
  | i, .spread x :: as =>
    fork e "variadic_argument" x.start ⟨none, i⟩ [x.tree ⟨none, 0⟩, symbol e "..." x.start ⟨none, 1⟩]
      :: argTrees (i + 1) as

/-- Parameters and results; the place is where the parameters open if there are none. -/
def Signature.trees : Signature → Place → List Parse.Node
  | .mk params none, p =>
    [fork e "parameter_list" (opening p (params.head?.map Param.start)) ⟨"parameters", 1⟩ (paramTrees 0 params)]
  | .mk params (some results), p =>
    [fork e "parameter_list" (opening p (params.head?.map Param.start)) ⟨"parameters", 1⟩ (paramTrees 0 params),
      (loneResult? results).getD
        (fork e "parameter_list" (opening (after p) (results.head?.map Param.start)) ⟨"result", 2⟩
          (paramTrees 0 results))]

/-- A result without a name, which needs no parentheses. -/
def loneResult? : List Param → Option Parse.Node
  | [.mk [] none ty] => some (ty.tree ⟨"result", 2⟩)
  | _ => none

def paramTrees : Nat → List Param → List Parse.Node
  | _, [] => []
  | i, .mk names none ty :: ps =>
    fork e "parameter_declaration" ((names.head?.map Name.place).getD ty.start) ⟨none, i⟩
      (nameTrees e "identifier" none 1 names ++ [ty.tree ⟨"type", 0⟩]) :: paramTrees (i + 1) ps
  | i, .mk names (some dots) ty :: ps =>
    fork e "variadic_parameter_declaration" ((names.head?.map Name.place).getD dots) ⟨none, i⟩
      (nameTrees e "identifier" none 1 names ++ [ty.tree ⟨"type", 0⟩]) :: paramTrees (i + 1) ps

def memberTrees : Nat → List Member → List Parse.Node
  | _, [] => []
  | i, .named n more ty tag :: ms =>
    fork e "field_declaration" n.place ⟨none, i⟩
      (nameTrees e "field_identifier" none 2 (n :: more) ++ ty.tree ⟨"type", 0⟩ :: tagTrees e (after ty.start) 1 tag)
      :: memberTrees (i + 1) ms
  | i, .embedded none ty tag :: ms =>
    fork e "field_declaration" ty.start ⟨none, i⟩ (ty.tree ⟨"type", 0⟩ :: tagTrees e (after ty.start) 1 tag)
      :: memberTrees (i + 1) ms
  | i, .embedded (some star) ty tag :: ms =>
    fork e "field_declaration" star ⟨none, i⟩
      (symbol e "*" star ⟨none, 2⟩ :: ty.tree ⟨"type", 0⟩ :: tagTrees e (after ty.start) 1 tag)
      :: memberTrees (i + 1) ms

/-- The entries of an interface. -/
def elemTrees : Nat → List Element → List Parse.Node
  | _, [] => []
  | i, .method n sig :: es =>
    fork e "method_elem" n.place ⟨none, i⟩ (n.tree e "field_identifier" ⟨"name", 0⟩ :: sig.trees (after n.place))
      :: elemTrees (i + 1) es
  | i, .embedded ty :: es => fork e "type_elem" ty.start ⟨none, i⟩ [ty.tree ⟨none, 0⟩] :: elemTrees (i + 1) es
  | i, .union start :: es => leaf e "type_elem" "" start ⟨none, i⟩ :: elemTrees (i + 1) es

def Block.tree : Block → Role → Parse.Node
  | .mk ss start, r => fork e "block" start r (rowTrees 0 ss)

/-- The statements of a row as one node, if there are any. -/
def rowTrees (id : Nat) : List Stmt → List Parse.Node
  | [] => []
  | x :: xs => [fork e "statement_list" x.start ⟨none, id⟩ (x.tree ⟨none, 0⟩ :: stmtTrees 1 xs)]

def stmtTrees : Nat → List Stmt → List Parse.Node
  | _, [] => []
  | i, x :: xs => x.tree ⟨none, i⟩ :: stmtTrees (i + 1) xs

def Stmt.tree : Stmt → Role → Parse.Node
  | .mk kind start, r => kind.tree false start r

def stmtTree? (field : String) (id : Nat) : Option Stmt → List Parse.Node
  | none => []
  | some x => [x.tree ⟨field, id⟩]

/-- A statement, which may be what a clause of a `select` waits for. -/
def StmtKind.tree (waits : Bool) : StmtKind → Place → Role → Parse.Node
  | .decl d, p, r => d.tree p r
  | .expr x, p, r =>
    if waits then fork e "receive_statement" p r [x.tree ⟨"right", 0⟩]
    else fork e "expression_statement" p r [x.tree ⟨none, 0⟩]
  | .send ch value, p, r => fork e "send_statement" p r [ch.tree ⟨"channel", 0⟩, value.tree ⟨"value", 1⟩]
  | .step x .inc, p, r => fork e "inc_statement" p r [x.tree ⟨none, 0⟩]
  | .step x .dec, p, r => fork e "dec_statement" p r [x.tree ⟨none, 0⟩]
  | .assign left op right, p, r =>
    if op = ":=" then
      fork e "short_var_declaration" p r [listTree "left" 0 left, listTree "right" 2 right]
    else
      fork e "assignment_statement" p r
        [listTree "left" 0 left, symbol e op p ⟨"operator", 1⟩, listTree "right" 2 right]
  | .receive left op right, p, r =>
    fork e "receive_statement" p r [listTree "left" 0 left, symbol e op.text p ⟨none, 1⟩, right.tree ⟨"right", 2⟩]
  | .returnStmt results, p, r => fork e "return_statement" p r (valueTrees none 0 results)
  | .goStmt x, p, r => fork e "go_statement" p r [x.tree ⟨none, 0⟩]
  | .deferStmt x, p, r => fork e "defer_statement" p r [x.tree ⟨none, 0⟩]
  | .labeled label none, p, r => fork e "labeled_statement" p r [label.tree e "label_name" ⟨"label", 0⟩]
  | .labeled label (some x), p, r =>
    fork e "labeled_statement" p r [label.tree e "label_name" ⟨"label", 0⟩, x.tree ⟨none, 1⟩]
  | .branch jump, p, r =>
    fork e (StmtKind.branch jump).kindName p r (jump.label.toList.map fun n => n.tree e "label_name" ⟨none, 0⟩)
  | .block (.mk ss _), p, r => fork e "block" p r (rowTrees 0 ss)
  | .empty, p, r => leaf e "empty_statement" ";" p r
  | .conditional c, p, r => c.tree p r
  | .loop header body, p, r => fork e "for_statement" p r (header.trees (after p) ++ [body.tree ⟨"body", 1⟩])
  | .switch init tag clauses, p, r =>
    fork e "expression_switch_statement" p r
      (stmtTree? "initializer" 0 init ++ (optionTree "value" 1 tag ++ clauseTrees false 2 clauses))
  | .typeSwitch init names value clauses, p, r =>
    fork e "type_switch_statement" p r
      (stmtTree? "initializer" 0 init ++
        (valueTrees "alias" 1 names ++ value.tree ⟨"value", 2⟩ :: clauseTrees true 3 clauses))
  | .select clauses, p, r => fork e "select_statement" p r (commTrees 0 clauses)

/-- Expressions as one node. -/
def listTree (field : String) (id : Nat) : List Node → Parse.Node
  | [] => leaf e "expression_list" "" ⟨0, 0⟩ ⟨field, id⟩
  | x :: xs => fork e "expression_list" x.start ⟨field, id⟩ (x.tree ⟨none, 0⟩ :: nodeTrees 1 xs)

/-- Expressions as one node, if there are any. -/
def valueTrees (field : Option String) (id : Nat) : List Node → List Parse.Node
  | [] => []
  | x :: xs => [fork e "expression_list" x.start ⟨field, id⟩ (x.tree ⟨none, 0⟩ :: nodeTrees 1 xs)]

def Conditional.tree : Conditional → Place → Role → Parse.Node
  | .mk init cond body els _, p, r =>
    fork e "if_statement" p r
      (stmtTree? "initializer" 0 init ++
        cond.tree ⟨"condition", 1⟩ :: body.tree ⟨"consequence", 2⟩ :: elseTrees els)

def elseTrees : Option Else → List Parse.Node
  | none => []
  | some (.block b) => [b.tree ⟨"alternative", 3⟩]
  | some (.chain (.mk init cond body els start)) =>
    [fork e "if_statement" start ⟨"alternative", 3⟩
      (stmtTree? "initializer" 0 init ++
        cond.tree ⟨"condition", 1⟩ :: body.tree ⟨"consequence", 2⟩ :: elseTrees els)]

/-- What stands between `for` and the body, from a place on. -/
def LoopHeader.trees : LoopHeader → Place → List Parse.Node
  | .forever, _ => []
  | .while cond, _ => [cond.tree ⟨none, 0⟩]
  | .steps init cond post, p =>
    [fork e "for_clause" p ⟨none, 0⟩
      (stmtTree? "initializer" 0 init ++ (optionTree "condition" 1 cond ++ stmtTree? "update" 2 post))]
  | .over x, p => [fork e "range_clause" p ⟨none, 0⟩ [x.tree ⟨"right", 2⟩]]
  | .assigning first more op x, p =>
    [fork e "range_clause" p ⟨none, 0⟩
      [fork e "expression_list" first.start ⟨"left", 0⟩ (first.tree ⟨none, 0⟩ :: nodeTrees 1 more),
        symbol e op.text p ⟨none, 1⟩, x.tree ⟨"right", 2⟩]]

/-- Clauses, for types or for values. -/
def clauseTrees (types : Bool) : Nat → List Clause → List Parse.Node
  | _, [] => []
  | i, .case first more body start :: cs =>
    (if types then
      fork e "type_case" start ⟨none, i⟩ (first.tree ⟨"type", 1⟩ :: (typeTrees 2 more ++ rowTrees 0 body))
    else
      fork e "expression_case" start ⟨none, i⟩
        (fork e "expression_list" first.start ⟨"value", 1⟩ (first.tree ⟨none, 0⟩ :: nodeTrees 1 more)
          :: rowTrees 0 body))
      :: clauseTrees types (i + 1) cs
  | i, .otherwise body start :: cs =>
    fork e "default_case" start ⟨none, i⟩ (rowTrees 0 body) :: clauseTrees types (i + 1) cs

def commTrees : Nat → List CommClause → List Parse.Node
  | _, [] => []
  | i, .mk none body start :: cs =>
    fork e "default_case" start ⟨none, i⟩ (rowTrees 0 body) :: commTrees (i + 1) cs
  | i, .mk (some (.mk comm p)) body start :: cs =>
    fork e "communication_case" start ⟨none, i⟩ (comm.tree true p ⟨"communication", 1⟩ :: rowTrees 0 body)
      :: commTrees (i + 1) cs

def Decl.tree : Decl → Place → Role → Parse.Node
  | .value tok spec _, p, r => fork e tok.declKind p r [spec.tree tok ⟨none, 0⟩]
  | .values .constTok specs _, p, r =>
    fork e "const_declaration" p r (symbol e "(" p ⟨none, 0⟩ :: valueSpecTrees .constTok 1 specs)
  | .values .varTok specs _, p, r =>
    fork e "var_declaration" p r [fork e "var_spec_list" (after p) ⟨none, 0⟩ (valueSpecTrees .varTok 0 specs)]
  | .type spec _, p, r => fork e "type_declaration" p r [spec.tree ⟨none, 0⟩]
  | .types specs _, p, r => fork e "type_declaration" p r (symbol e "(" p ⟨none, 0⟩ :: typeSpecTrees 1 specs)

def ValueSpec.tree (tok : ValueTok) : ValueSpec → Role → Parse.Node
  | .mk name more ty values, r =>
    fork e tok.specKind name.place r
      (nameTrees e "identifier" (if tok = .constTok then some "name" else none) 2 (name :: more) ++
        (optionTree "type" 0 ty ++ valueTrees "value" 1 values))

def valueSpecTrees (tok : ValueTok) : Nat → List ValueSpec → List Parse.Node
  | _, [] => []
  | i, x :: xs => x.tree tok ⟨none, i⟩ :: valueSpecTrees tok (i + 1) xs

def TypeSpec.tree : TypeSpec → Role → Parse.Node
  | .mk name params aliased ty, r =>
    fork e (if aliased then "type_alias" else "type_spec") name.place r
      (name.tree e "type_identifier" ⟨"name", 0⟩ ::
        ((params.toList.map fun p => leaf e "type_parameter_list" "" p ⟨"type_parameters", 1⟩) ++
          [ty.tree ⟨"type", 2⟩]))

def typeSpecTrees : Nat → List TypeSpec → List Parse.Node
  | _, [] => []
  | i, x :: xs => x.tree ⟨none, i⟩ :: typeSpecTrees (i + 1) xs

end

/-! ## Entries at top level -/

def importNameTrees (p : Place) : Option ImportName → List Parse.Node
  | none => []
  | some .dot => [leaf e "dot" "." p ⟨"name", 0⟩]
  | some .blank => [leaf e "blank_identifier" "_" p ⟨"name", 0⟩]
  | some (.named text) => [leaf e "package_identifier" text p ⟨"name", 0⟩]

def Import.tree (i : Import) (r : Role) : Parse.Node :=
  let path := if i.name.isSome then after i.start else i.start
  fork e "import_spec" i.start r
    (importNameTrees e i.start i.name ++ [leaf e (stringKind i.path) i.path path ⟨"path", 1⟩])

def Func.tree (f : Func) (r : Role) : Parse.Node :=
  fork e (if f.recv.isSome then "method_declaration" else "function_declaration") f.start r
    ((f.recv.toList.map fun ps => fork e "parameter_list" (after f.start) ⟨"receiver", 0⟩ (paramTrees e 0 ps)) ++
      f.name.tree e "identifier" ⟨"name", 4⟩ ::
        ((f.typeParams.toList.map fun p => leaf e "type_parameter_list" "" p ⟨"type_parameters", 5⟩) ++
          (f.sig.trees e (after f.name.place) ++ f.body.toList.map fun b => b.tree e ⟨"body", 3⟩)))

def Item.tree (id : Nat) : Item → Parse.Node
  | .package n => fork e "package_clause" (before n.place) ⟨none, id⟩ [n.tree e "package_identifier" ⟨none, 0⟩]
  | .importOne spec start => fork e "import_declaration" start ⟨none, id⟩ [spec.tree e ⟨none, 0⟩]
  | .imports specs start =>
    fork e "import_declaration" start ⟨none, id⟩
      [fork e "import_spec_list" (after start) ⟨none, 0⟩ (specs.mapIdx fun i spec => spec.tree e ⟨none, i⟩)]
  | .func f => f.tree e ⟨none, id⟩
  | .stmt s => s.tree e ⟨none, id⟩

end

/-! ## Sources -/

/-- The tree of a source that holds some items. -/
def fileTree (e : Surroundings) (text : String) (items : List Item) : Parse.Node :=
  let cs := items.mapIdx fun i x => x.tree e i
  let inner := weave e cs.length 0 cs
  let low := if cs.isEmpty then 0 else reachAll cs + 1
  nodeAt "source_file" text true .start ⟨none, 0⟩ (inner ++ between e cs.length low (text.utf8ByteSize + 1))

/-- The tree of a source that the grammar does not derive. -/
def errorTree (text : String) : Parse.Node :=
  .mk ⟨"ERROR", true, none, 0, text, 0, 0, 0, true, false⟩ []

/-- The tree of a source. -/
def parser : SourceParser := fun source =>
  let root : Option Parse.Node := do
    let tokens ← Lexical.scan source
    let items ← items? (tokens.map (·.1))
    return fileTree ⟨(tokens.map (·.2)).toArray, comments source⟩ source items
  some (root.getD (errorTree source))

end GoRebuild.Grammar
