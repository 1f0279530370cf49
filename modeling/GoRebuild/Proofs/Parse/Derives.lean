import GoRebuild.Grammar.Basic
import GoRebuild.Parse.Node
import GoRebuild.Reader.Basic
import Mathlib.Data.List.Forall2

/-!
# The trees that the grammar derives

Which trees of nodes stand for a derivation. What a production demands of a node is said in the terms that parsers have
for it: its kind, its parts in order, the fields that they stand in, and its symbols. Comments may stand among the
children of any node, as they are neither parts nor symbols and stand in no field.

* `Node.isPart`, `Node.parts`, `Node.symbols`, `Node.Shape` : the children of a node, comments left aside;
* `Node.entries_eq_parts`, `Node.hasToken_eq` : what the reader asks of them;
* `Name.Derives`, `Node.Derives`, `Stmt.Derives`, `Decl.Derives`, `Item.Derives` and the rest : the productions;
* `FileDerives` : a whole source.

Nodes begin at the positions of the places where the derivation says that they start.
-/

namespace GoRebuild

namespace Parse.Node

/-- Neither a symbol nor a comment. -/
def isPart (t : Node) : Bool :=
  t.isNamed && t.kind != "comment"

/-- The children that are neither symbols nor comments. -/
def parts (t : Node) : List Node :=
  t.children.filter isPart

/-- The parts in a field. Its commas stand in it as well. -/
def partsIn (t : Node) (field : String) : List Node :=
  (t.childrenIn field).filter isNamed

/-- The symbols and keywords among the children. -/
def symbols (t : Node) : List String :=
  (t.children.filter fun c => !c.isNamed).map kind

/-- The parts of a node are those in some fields, in this order. Other fields among these have none. -/
def Shape (t : Node) (fields : List (String × Option Node)) : Prop :=
  t.parts = fields.filterMap Prod.snd ∧ ∀ f ∈ fields, t.child? f.1 = f.2

/-! ## The reader's way to the children -/

variable {t c : Node} {field : String} {o : Option Node} {fields : List (String × Option Node)}

theorem entries_eq_parts (t : Node) : t.entries = t.parts := by
  simp only [entries, namedChildren, parts, List.filter_filter, Bool.and_comm]
  rfl

theorem entriesIn_eq_partsIn (t : Node) (field : String) : t.entriesIn field = t.partsIn field :=
  rfl

theorem hasToken_eq (t : Node) (token : String) : t.hasToken token = decide (token ∈ t.symbols) := by
  rw [Bool.eq_iff_iff, decide_eq_true_iff]
  simp [hasToken, symbols, and_assoc]

theorem Shape.child? (h : t.Shape fields) (hf : (field, o) ∈ fields) : t.child? field = o :=
  h.2 _ hf

theorem mem_children_of_child? (h : t.child? field = some c) : c ∈ t.children :=
  List.mem_of_find?_eq_some h

theorem mem_children_of_parts (h : c ∈ t.parts) : c ∈ t.children :=
  List.mem_of_mem_filter h

theorem isNamed_of_parts (h : c ∈ t.parts) : c.isNamed :=
  (Bool.and_eq_true_iff.mp (List.mem_filter.mp h).2).1

theorem height_lt_of_mem (h : c ∈ t.children) : c.height < t.height := by
  obtain ⟨i, cs⟩ := t
  rw [height]
  have hbelow : ∀ {cs : List Node}, c ∈ cs → c.height < heightBelow cs := by
    intro cs h
    induction cs with
    | nil => cases h
    | cons d ds ih =>
      rw [heightBelow]
      rcases List.mem_cons.mp h with rfl | h
      · omega
      · have := ih h
        omega
  exact hbelow h

theorem height_lt_of_child? (h : t.child? field = some c) : c.height < t.height :=
  height_lt_of_mem (mem_children_of_child? h)

theorem height_lt_of_parts (h : c ∈ t.parts) : c.height < t.height :=
  height_lt_of_mem (mem_children_of_parts h)

section
variable {n : Nat}

theorem parts_height_lt (hn : t.height ≤ n) : ∀ c ∈ t.parts, c.height < n :=
  fun _ hc => Nat.lt_of_lt_of_le (height_lt_of_parts hc) hn

theorem only_height_lt (h : t.parts = [c]) (hn : t.height ≤ n) : c.height < n :=
  parts_height_lt hn c (h ▸ List.mem_singleton_self c)

theorem child?_height_lt (h : t.child? field = o) (hn : t.height ≤ n) : ∀ c ∈ o, c.height < n :=
  fun _ hc => Nat.lt_of_lt_of_le (height_lt_of_child? (h.trans hc)) hn

theorem Shape.option_height_lt (h : t.Shape fields) (hf : (field, o) ∈ fields) (hn : t.height ≤ n) :
    ∀ c ∈ o, c.height < n :=
  child?_height_lt (h.child? hf) hn

theorem Shape.height_lt (h : t.Shape fields) (hf : (field, some c) ∈ fields) (hn : t.height ≤ n) : c.height < n :=
  h.option_height_lt hf hn c rfl

end

end Parse.Node

namespace Grammar
open Lexical (Place)

/-! ## Kinds of nodes -/

def nameKinds : List String :=
  ["identifier", "field_identifier", "type_identifier", "package_identifier", "label_name", "blank_identifier",
   "nil", "true", "false", "iota"]

def literalKinds : LitKind → List String
  | .int => ["int_literal"]
  | .float => ["float_literal"]
  | .imag => ["imaginary_literal"]
  | .char => ["rune_literal"]
  | .string => ["interpreted_string_literal", "raw_string_literal"]

/-- The symbols of a channel type. -/
def chanSymbols : ChanDir → List String
  | .both => ["chan"]
  | .send => ["chan", "<-"]
  | .recv => ["<-", "chan"]

def IncDec.stmtKind : IncDec → String
  | .inc => "inc_statement"
  | .dec => "dec_statement"

/-- The operator of an assignment that is no field. -/
def assignOp (t : Parse.Node) : String :=
  if ":=" ∈ t.symbols then ":=" else "="

section
variable (pos : Place → Pos)

def Name.Derives (n : Name) (t : Parse.Node) : Prop :=
  t.text = n.text ∧ t.pos = pos n.place

def Name.AllDerive : List Name → List Parse.Node → Prop :=
  List.Forall₂ (Name.Derives pos)

/-- The tag of a struct field. -/
def TagDerives : Option String → Option Parse.Node → Prop
  | none, t => t = none
  | some text, t => ∃ c, t = some c ∧ c.text = text

/-- Type parameters at a place, or none. -/
def ParamsDerive : Option Place → Option Parse.Node → Prop
  | none, t => t = none
  | some p, t => ∃ c, t = some c ∧ c.kind = "type_parameter_list" ∧ c.pos = pos p

/-! ## Expressions, types and statements -/

mutual

/-- An expression or type. Elements of literals may be wrapped. -/
def Node.Derives : Node → Parse.Node → Prop
  | .mk k p, t =>
    t.pos = pos p ∧
      (k.Derives t ∨ t.kind = "literal_element" ∧ ∃ c, t.parts = [c] ∧ c.pos = pos p ∧ k.Derives c)

def NodeKind.Derives : NodeKind → Parse.Node → Prop
  | .name text, t => t.kind ∈ nameKinds ∧ t.text = text
  | .literal lit, t => t.kind ∈ literalKinds lit.kind ∧ t.text = lit.value
  | .paren x, t =>
    t.kind ∈ ["parenthesized_expression", "parenthesized_type"] ∧ ∃ c, t.parts = [c] ∧ x.Derives c
  | .select x m, t =>
    (t.kind = "selector_expression" ∧
      ∃ a b, t.Shape [("operand", some a), ("field", some b)] ∧ x.Derives a ∧ m.Derives pos b) ∨
    (t.kind = "qualified_type" ∧
      ∃ a b, t.Shape [("package", some a), ("name", some b)] ∧ x.Derives a ∧ m.Derives pos b)
  | .index x i, t =>
    t.kind = "index_expression" ∧
      ∃ a b, t.Shape [("operand", some a), ("index", some b)] ∧ x.Derives a ∧ i.Derives b
  | .slice x low high, t =>
    t.kind = "slice_expression" ∧ t.children.countP (·.kind == ":") = 1 ∧
      ∃ a b c, t.Shape [("operand", some a), ("start", b), ("end", c), ("capacity", none)] ∧
        x.Derives a ∧ Node.OptionDerives low b ∧ Node.OptionDerives high c
  | .slice3 x low high max, t =>
    t.kind = "slice_expression" ∧ t.children.countP (·.kind == ":") = 2 ∧
      ∃ a b c d, t.Shape [("operand", some a), ("start", b), ("end", some c), ("capacity", some d)] ∧
        x.Derives a ∧ Node.OptionDerives low b ∧ high.Derives c ∧ max.Derives d
  | .assert x ty, t =>
    t.kind = "type_assertion_expression" ∧
      ∃ a b, t.Shape [("operand", some a), ("type", some b)] ∧ x.Derives a ∧ ty.Derives b
  | .call fn args, t =>
    t.kind = "call_expression" ∧ t.child? "type_parameters" = none ∧
      ∃ f as, t.Shape [("function", some f), ("type_arguments", none), ("arguments", some as)] ∧
        as.symbols ⊆ ["(", ",", ")"] ∧ fn.Derives f ∧ Arg.AllDerive args as.parts
  | .convert ty x, t =>
    t.kind = "type_conversion_expression" ∧
      ∃ a b, t.Shape [("type", some a), ("operand", some b)] ∧ ty.Derives a ∧ x.Derives b
  | .star x, t =>
    (t.kind = "pointer_type" ∧ ∃ c, t.parts = [c] ∧ x.Derives c) ∨
    (t.kind = "unary_expression" ∧
      ∃ o c, t.child? "operator" = some o ∧ o.text = "*" ∧ t.Shape [("operand", some c)] ∧ x.Derives c)
  | .unary op x, t =>
    t.kind = "unary_expression" ∧
      ∃ o c, t.child? "operator" = some o ∧ o.text = op.text ∧ t.Shape [("operand", some c)] ∧ x.Derives c
  | .binary x op y, t =>
    t.kind = "binary_expression" ∧
      ∃ a o b, t.child? "operator" = some o ∧ o.text = op ∧ t.Shape [("left", some a), ("right", some b)] ∧
        x.Derives a ∧ y.Derives b
  | .composite ty elems, t =>
    t.kind = "composite_literal" ∧
      ∃ a b, t.Shape [("type", some a), ("body", some b)] ∧ b.kind = "literal_value" ∧ ty.Derives a ∧
        Node.AllDerive elems b.parts
  | .braces elems, t => t.kind = "literal_value" ∧ Node.AllDerive elems t.parts
  | .keyed key value, t =>
    t.kind = "keyed_element" ∧
      ∃ a b, t.Shape [("key", some a), ("value", some b)] ∧ key.Derives a ∧ value.Derives b
  | .func sig body, t =>
    t.kind = "func_literal" ∧
      ∃ a b c, t.Shape [("parameters", some a), ("result", b), ("body", some c)] ∧ sig.Derives a b ∧ body.Derives c
  | .array len elt, t =>
    t.kind = "array_type" ∧
      ∃ a b, t.Shape [("length", some a), ("element", some b)] ∧ len.Derives a ∧ elt.Derives b
  | .openArray elt, t =>
    t.kind = "implicit_length_array_type" ∧ ∃ a, t.Shape [("element", some a)] ∧ elt.Derives a
  | .sliceOf elt, t => t.kind = "slice_type" ∧ ∃ a, t.Shape [("element", some a)] ∧ elt.Derives a
  | .struct members, t =>
    t.kind = "struct_type" ∧
      ∃ c, t.parts = [c] ∧ c.kind = "field_declaration_list" ∧ Member.AllDerive members c.parts
  | .interface elems, t => t.kind = "interface_type" ∧ Element.AllDerive elems t.parts
  | .map key value, t =>
    t.kind = "map_type" ∧
      ∃ a b, t.Shape [("key", some a), ("value", some b)] ∧ key.Derives a ∧ value.Derives b
  | .chan dir value, t =>
    t.kind = "channel_type" ∧ t.symbols = chanSymbols dir ∧ ∃ a, t.Shape [("value", some a)] ∧ value.Derives a
  | .funcType sig, t =>
    t.kind = "function_type" ∧ ∃ a b, t.Shape [("parameters", some a), ("result", b)] ∧ sig.Derives a b
  | .generic .typeArguments bracket, t =>
    t.kind = "call_expression" ∧ t.child? "type_parameters" = none ∧
      ∃ c, t.child? "type_arguments" = some c ∧ c.kind = "type_arguments" ∧ c.pos = pos bracket
  | .generic form _, t => t.kind = form.kindName

def Node.OptionDerives : Option Node → Option Parse.Node → Prop
  | none, t => t = none
  | some x, t => ∃ c, t = some c ∧ x.Derives c

def Node.AllDerive : List Node → List Parse.Node → Prop
  | [], ts => ts = []
  | x :: xs, ts => ∃ c cs, ts = c :: cs ∧ x.Derives c ∧ Node.AllDerive xs cs

/-- Expressions as one node. -/
def Node.ListDerives : List Node → Parse.Node → Prop
  | [], t => t.kind = "expression_list" ∧ t.parts = []
  | x :: xs, t =>
    t.kind = "expression_list" ∧ t.pos = pos x.start ∧
      ∃ c cs, t.parts = c :: cs ∧ x.Derives c ∧ Node.AllDerive xs cs

/-- Expressions as one node, or none. -/
def Node.ListDerives? : List Node → Option Parse.Node → Prop
  | [], t => t = none
  | x :: xs, t =>
    ∃ l, t = some l ∧ l.kind = "expression_list" ∧ l.pos = pos x.start ∧
      ∃ c cs, l.parts = c :: cs ∧ x.Derives c ∧ Node.AllDerive xs cs

def Arg.AllDerive : List Arg → List Parse.Node → Prop
  | [], ts => ts = []
  | .plain x :: as, ts => ∃ c cs, ts = c :: cs ∧ x.Derives c ∧ Arg.AllDerive as cs
  | .spread x :: as, ts =>
    ∃ c cs d, ts = c :: cs ∧ c.kind = "variadic_argument" ∧ c.pos = pos x.start ∧ c.parts = [d] ∧ x.Derives d ∧
      Arg.AllDerive as cs

/-- Parameters and results. A single result without a name may stand alone. -/
def Signature.Derives : Signature → Parse.Node → Option Parse.Node → Prop
  | .mk params none, t, r => t.kind = "parameter_list" ∧ Param.AllDerive params t.parts ∧ r = none
  | .mk params (some results), t, r =>
    t.kind = "parameter_list" ∧ Param.AllDerive params t.parts ∧
      ∃ c, r = some c ∧
        (c.kind = "parameter_list" ∧ Param.AllDerive results c.parts ∨ Param.AloneDerives results c)

def Param.AllDerive : List Param → List Parse.Node → Prop
  | [], ts => ts = []
  | .mk names dots ty :: ps, ts =>
    ∃ c cs ns d, ts = c :: cs ∧
      c.kind = (if dots.isSome then "variadic_parameter_declaration" else "parameter_declaration") ∧
      c.pos = pos (Param.mk names dots ty).start ∧ c.parts = ns ++ [d] ∧ c.partsIn "name" = ns ∧
      c.child? "type" = some d ∧ Name.AllDerive pos names ns ∧ ty.Derives d ∧ Param.AllDerive ps cs

/-- A result without a name and parentheses. -/
def Param.AloneDerives : List Param → Parse.Node → Prop
  | [.mk [] none ty], t => ty.Derives t
  | _, _ => False

def Member.AllDerive : List Member → List Parse.Node → Prop
  | [], ts => ts = []
  | .named n more ty tag :: ms, ts =>
    ∃ c cs ns d g, ts = c :: cs ∧ c.kind = "field_declaration" ∧ c.pos = pos n.place ∧
      c.parts = ns ++ d :: g.toList ∧ c.partsIn "name" = ns ∧ c.child? "type" = some d ∧ c.child? "tag" = g ∧
      Name.AllDerive pos (n :: more) ns ∧ ty.Derives d ∧ TagDerives tag g ∧ Member.AllDerive ms cs
  | .embedded star ty tag :: ms, ts =>
    ∃ c cs d g, ts = c :: cs ∧ c.kind = "field_declaration" ∧ c.pos = pos (star.getD ty.start) ∧
      c.Shape [("type", some d), ("tag", g)] ∧ c.partsIn "name" = [] ∧ ("*" ∈ c.symbols ↔ star.isSome) ∧
      ty.Derives d ∧ TagDerives tag g ∧ Member.AllDerive ms cs

def Element.AllDerive : List Element → List Parse.Node → Prop
  | [], ts => ts = []
  | .method n sig :: es, ts =>
    ∃ c cs a b d, ts = c :: cs ∧ c.kind ∈ ["method_elem", "method_spec"] ∧ c.pos = pos n.place ∧
      c.Shape [("name", some a), ("parameters", some b), ("result", d)] ∧ n.Derives pos a ∧ sig.Derives b d ∧
      Element.AllDerive es cs
  | .embedded ty :: es, ts =>
    ∃ c cs d, ts = c :: cs ∧ c.kind ∈ ["type_elem", "constraint_elem"] ∧ c.pos = pos ty.start ∧ c.parts = [d] ∧
      ty.Derives d ∧ Element.AllDerive es cs
  | .union start :: es, ts =>
    ∃ c cs, ts = c :: cs ∧ c.kind = "type_elem" ∧ c.pos = pos start ∧ c.parts.length ≠ 1 ∧ Element.AllDerive es cs

def Block.Derives : Block → Parse.Node → Prop
  | .mk ss start, t => t.kind = "block" ∧ t.pos = pos start ∧ Stmt.RowDerives ss t.parts

/-- The statements of a block or clause as one node, or none. -/
def Stmt.RowDerives : List Stmt → List Parse.Node → Prop
  | [], ts => ts = []
  | x :: xs, ts =>
    ∃ l c cs, ts = [l] ∧ l.kind = "statement_list" ∧ l.parts = c :: cs ∧ x.Derives c ∧ Stmt.AllDerive xs cs

def Stmt.AllDerive : List Stmt → List Parse.Node → Prop
  | [], ts => ts = []
  | x :: xs, ts => ∃ c cs, ts = c :: cs ∧ x.Derives c ∧ Stmt.AllDerive xs cs

def Stmt.Derives : Stmt → Parse.Node → Prop
  | .mk k p, t => t.pos = pos p ∧ k.Derives t

def Stmt.OptionDerives : Option Stmt → Option Parse.Node → Prop
  | none, t => t = none
  | some x, t => ∃ c, t = some c ∧ x.Derives c

def StmtKind.Derives : StmtKind → Parse.Node → Prop
  | .decl d, t => d.Derives t
  | .expr x, t =>
    (t.kind = "expression_statement" ∧ ∃ c, t.parts = [c] ∧ x.Derives c) ∨
    (t.kind = "receive_statement" ∧ ∃ c, t.Shape [("left", none), ("right", some c)] ∧ x.Derives c)
  | .send ch value, t =>
    t.kind = "send_statement" ∧
      ∃ a b, t.Shape [("channel", some a), ("value", some b)] ∧ ch.Derives a ∧ value.Derives b
  | .step x tok, t => t.kind = IncDec.stmtKind tok ∧ ∃ c, t.parts = [c] ∧ x.Derives c
  | .assign left op right, t =>
    ∃ a b, t.Shape [("left", some a), ("right", some b)] ∧ Node.ListDerives left a ∧ Node.ListDerives right b ∧
      (t.kind = "short_var_declaration" ∧ op = ":=" ∨
        t.kind = "assignment_statement" ∧ ∃ o, t.child? "operator" = some o ∧ o.text = op)
  | .receive left op right, t =>
    t.kind = "receive_statement" ∧ op.text = assignOp t ∧
      ∃ a b, t.Shape [("left", some a), ("right", some b)] ∧ Node.ListDerives left a ∧ right.Derives b
  | .returnStmt results, t =>
    t.kind = "return_statement" ∧ ∃ l : Option Parse.Node, t.parts = l.toList ∧ Node.ListDerives? results l
  | .goStmt x, t => t.kind = "go_statement" ∧ ∃ c, t.parts = [c] ∧ x.Derives c
  | .deferStmt x, t => t.kind = "defer_statement" ∧ ∃ c, t.parts = [c] ∧ x.Derives c
  | .labeled label x, t =>
    t.kind ∈ ["labeled_statement", "empty_labeled_statement"] ∧
      ∃ l c, t.child? "label" = some l ∧ t.parts = l :: Option.toList c ∧ (∀ d ∈ c, d.nodeId ≠ l.nodeId) ∧
        label.Derives pos l ∧ Stmt.OptionDerives x c
  | .branch jump, t => t.kind = (StmtKind.branch jump).kindName ∧ Name.AllDerive pos jump.label.toList t.parts
  | .block (.mk ss _), t => t.kind = "block" ∧ Stmt.RowDerives ss t.parts
  | .empty, t => t.kind = "empty_statement"
  | .conditional c, t => c.Derives t
  | .loop header body, t =>
    t.kind = "for_statement" ∧
      ∃ h b, t.child? "body" = some b ∧ t.parts = Option.toList h ++ [b] ∧ (∀ d ∈ h, d.nodeId ≠ b.nodeId) ∧
        header.Derives h ∧ body.Derives b
  | .switch init tag clauses, t =>
    t.kind = "expression_switch_statement" ∧
      ∃ a b cs, t.child? "initializer" = a ∧ t.child? "value" = b ∧ t.parts = a.toList ++ b.toList ++ cs ∧
        Stmt.OptionDerives init a ∧ Node.OptionDerives tag b ∧ Clause.AllDerive false clauses cs
  | .typeSwitch init names value clauses, t =>
    t.kind = "type_switch_statement" ∧
      ∃ a b c cs, t.child? "initializer" = a ∧ t.child? "alias" = b ∧ t.child? "value" = some c ∧
        t.parts = a.toList ++ b.toList ++ c :: cs ∧ Stmt.OptionDerives init a ∧ Node.ListDerives? names b ∧
        value.Derives c ∧ Clause.AllDerive true clauses cs
  | .select clauses, t => t.kind = "select_statement" ∧ CommClause.AllDerive clauses t.parts

def Conditional.Derives : Conditional → Parse.Node → Prop
  | .mk init cond body els _, t =>
    t.kind = "if_statement" ∧
      ∃ a b c d,
        t.Shape [("initializer", a), ("condition", some b), ("consequence", some c), ("alternative", d)] ∧
        Stmt.OptionDerives init a ∧ cond.Derives b ∧ body.Derives c ∧ Else.OptionDerives els d

/-- What follows `else`, if anything does. -/
def Else.OptionDerives : Option Else → Option Parse.Node → Prop
  | none, t => t = none
  | some (.block b), t => ∃ c, t = some c ∧ b.Derives c
  | some (.chain (.mk init cond body els start)), t =>
    ∃ e, t = some e ∧ e.pos = pos start ∧ e.kind = "if_statement" ∧
      ∃ a b c d,
        e.Shape [("initializer", a), ("condition", some b), ("consequence", some c), ("alternative", d)] ∧
        Stmt.OptionDerives init a ∧ cond.Derives b ∧ body.Derives c ∧ Else.OptionDerives els d

/-- What stands between `for` and the body, if anything does. -/
def LoopHeader.Derives : LoopHeader → Option Parse.Node → Prop
  | .forever, t => t = none
  | .while cond, t => ∃ h, t = some h ∧ cond.Derives h
  | .steps init cond post, t =>
    ∃ h, t = some h ∧ h.kind = "for_clause" ∧
      ∃ a b c, h.Shape [("initializer", a), ("condition", b), ("update", c)] ∧ Stmt.OptionDerives init a ∧
        Node.OptionDerives cond b ∧ Stmt.OptionDerives post c
  | .over x, t =>
    ∃ h, t = some h ∧ h.kind = "range_clause" ∧ ∃ a, h.Shape [("left", none), ("right", some a)] ∧ x.Derives a
  | .assigning first more op x, t =>
    ∃ h, t = some h ∧ h.kind = "range_clause" ∧ op.text = assignOp h ∧
      ∃ l a, h.Shape [("left", some l), ("right", some a)] ∧ l.kind = "expression_list" ∧
        (∃ c cs, l.parts = c :: cs ∧ first.Derives c ∧ Node.AllDerive more cs) ∧ x.Derives a

/-- Clauses in a row, for types or for values. -/
def Clause.AllDerive (types : Bool) : List Clause → List Parse.Node → Prop
  | [], ts => ts = []
  | .case first more body start :: cs, ts =>
    ∃ t rest, ts = t :: rest ∧ t.pos = pos start ∧
      (∃ vs row, t.parts = vs ++ row ∧ (∀ d ∈ row, ∀ v ∈ vs, d.nodeId ≠ v.nodeId) ∧ Stmt.RowDerives body row ∧
        if types then
          t.kind = "type_case" ∧ t.partsIn "type" = vs ∧
            ∃ c cs, vs = c :: cs ∧ first.Derives c ∧ Node.AllDerive more cs
        else
          t.kind = "expression_case" ∧
            ∃ v c cs, vs = [v] ∧ t.child? "value" = some v ∧ v.kind = "expression_list" ∧ v.parts = c :: cs ∧
              first.Derives c ∧ Node.AllDerive more cs) ∧
      Clause.AllDerive types cs rest
  | .otherwise body start :: cs, ts =>
    ∃ t rest, ts = t :: rest ∧ t.pos = pos start ∧ t.kind = "default_case" ∧ Stmt.RowDerives body t.parts ∧
      Clause.AllDerive types cs rest

def CommClause.AllDerive : List CommClause → List Parse.Node → Prop
  | [], ts => ts = []
  | .mk none body start :: cs, ts =>
    ∃ t rest, ts = t :: rest ∧ t.pos = pos start ∧ t.kind = "default_case" ∧ Stmt.RowDerives body t.parts ∧
      CommClause.AllDerive cs rest
  | .mk (some comm) body start :: cs, ts =>
    ∃ t rest c row, ts = t :: rest ∧ t.pos = pos start ∧ t.kind = "communication_case" ∧
      t.child? "communication" = some c ∧ t.parts = c :: row ∧ (∀ d ∈ row, d.nodeId ≠ c.nodeId) ∧
      comm.Derives c ∧ Stmt.RowDerives body row ∧ CommClause.AllDerive cs rest

/-- A declaration. Entries in parentheses may be the parts of a list. -/
def Decl.Derives : Decl → Parse.Node → Prop
  | .value tok spec _, t =>
    t.kind = tok.declKind ∧ "(" ∉ t.symbols ∧ ∃ c, t.parts = [c] ∧ spec.Derives tok c
  | .values tok specs _, t =>
    t.kind = tok.declKind ∧
      ("(" ∈ t.symbols ∧ ValueSpec.AllDerive tok specs t.parts ∨
        ∃ l, t.parts = [l] ∧ l.kind = "var_spec_list" ∧ ValueSpec.AllDerive tok specs l.parts)
  | .type spec _, t => t.kind = "type_declaration" ∧ "(" ∉ t.symbols ∧ ∃ c, t.parts = [c] ∧ spec.Derives c
  | .types specs _, t => t.kind = "type_declaration" ∧ "(" ∈ t.symbols ∧ TypeSpec.AllDerive specs t.parts

def ValueSpec.Derives (tok : ValueTok) : ValueSpec → Parse.Node → Prop
  | .mk name more ty values, t =>
    t.kind = tok.specKind ∧ t.pos = pos name.place ∧
      ∃ ns a b, t.parts = ns ++ (Option.toList a ++ Option.toList b) ∧ t.partsIn "name" = ns ∧
        t.child? "type" = a ∧ t.child? "value" = b ∧ Name.AllDerive pos (name :: more) ns ∧
        Node.OptionDerives ty a ∧ Node.ListDerives? values b

def ValueSpec.AllDerive (tok : ValueTok) : List ValueSpec → List Parse.Node → Prop
  | [], ts => ts = []
  | x :: xs, ts => ∃ c cs, ts = c :: cs ∧ x.Derives tok c ∧ ValueSpec.AllDerive tok xs cs

def TypeSpec.Derives : TypeSpec → Parse.Node → Prop
  | .mk name params aliased ty, t =>
    t.kind = (if aliased then "type_alias" else "type_spec") ∧ t.pos = pos name.place ∧
      t.child? "type_arguments" = none ∧
      ∃ a b c, t.Shape [("name", some a), ("type_parameters", b), ("type", some c)] ∧ name.Derives pos a ∧
        ParamsDerive pos params b ∧ ty.Derives c

def TypeSpec.AllDerive : List TypeSpec → List Parse.Node → Prop
  | [], ts => ts = []
  | x :: xs, ts => ∃ c cs, ts = c :: cs ∧ x.Derives c ∧ TypeSpec.AllDerive xs cs

end

/-! ## Entries at top level -/

/-- The local name of an import. -/
def ImportNameDerives : Option ImportName → Option Parse.Node → Prop
  | none, t => t = none
  | some .dot, t => ∃ c, t = some c ∧ c.kind = "dot"
  | some .blank, t => ∃ c, t = some c ∧ c.kind = "blank_identifier"
  | some (.named text), t => ∃ c, t = some c ∧ c.kind = "package_identifier" ∧ c.text = text

def Import.Derives (i : Import) (t : Parse.Node) : Prop :=
  t.kind = "import_spec" ∧ t.pos = pos i.start ∧
    ∃ a b, t.Shape [("name", a), ("path", some b)] ∧ ImportNameDerives i.name a ∧ b.text = i.path

/-- The receiver of a method. -/
def ReceiverDerives : Option (List Param) → Option Parse.Node → Prop
  | none, t => t = none
  | some ps, t => ∃ c, t = some c ∧ c.kind = "parameter_list" ∧ Param.AllDerive pos ps c.parts

def Block.OptionDerives : Option Block → Option Parse.Node → Prop
  | none, t => t = none
  | some b, t => ∃ c, t = some c ∧ b.Derives pos c

def Func.Derives (f : Func) (t : Parse.Node) : Prop :=
  t.kind ∈ ["function_declaration", "method_declaration"] ∧ t.pos = pos f.start ∧
    t.child? "type_arguments" = none ∧
    ∃ a b c d e g,
      t.Shape [("receiver", a), ("name", some b), ("type_parameters", c), ("parameters", some d), ("result", e),
        ("body", g)] ∧
      ReceiverDerives pos f.recv a ∧ f.name.Derives pos b ∧ ParamsDerive pos f.typeParams c ∧ f.sig.Derives pos d e ∧
      Block.OptionDerives pos f.body g

def Item.Derives : Item → Parse.Node → Prop
  | .package n, t => t.kind = "package_clause" ∧ ∃ c, t.parts = [c] ∧ n.Derives pos c
  | .importOne spec start, t =>
    t.kind = "import_declaration" ∧ t.pos = pos start ∧ ∃ c, t.parts = [c] ∧ spec.Derives pos c
  | .imports specs start, t =>
    t.kind = "import_declaration" ∧ t.pos = pos start ∧
      ∃ l, t.parts = [l] ∧ l.kind = "import_spec_list" ∧ List.Forall₂ (Import.Derives pos) specs l.parts
  | .func f, t => f.Derives pos t
  | .stmt x, t => t.kind = x.kind.kindName ∧ x.Derives pos t

/-- A whole source. -/
def FileDerives (items : List Item) (root : Parse.Node) : Prop :=
  root.kind = "source_file" ∧ List.Forall₂ (Item.Derives pos) items root.parts

end

/-! ## What a derived node is not -/

/-- Kinds of nodes that are no expressions, types or statements, but that something else depends on. -/
def otherKinds : List String :=
  ["comment", "...", "variadic_argument", "parameter_list", "statement_list", "for_clause", "range_clause",
   "expression_case", "type_case", "default_case", "communication_case"]

variable {pos : Place → Pos} {t : Parse.Node}

theorem NodeKind.Derives.not_other {k : NodeKind} (h : k.Derives pos t) : t.kind ∉ otherKinds := by
  have among {ks : List String} (ht : t.kind ∈ ks) (hks : ∀ a ∈ ks, a ∉ otherKinds) : t.kind ∉ otherKinds := hks _ ht
  have is {a : String} (ht : t.kind = a) (ha : a ∉ otherKinds) : t.kind ∉ otherKinds := ht ▸ ha
  cases k with
  | name text => exact among h.1 (by decide)
  | literal lit => exact among h.1 (by cases lit.kind <;> decide)
  | paren x => exact among h.1 (by decide)
  | select x m =>
    rcases h with h | h
    · exact is h.1 (by decide)
    · exact is h.1 (by decide)
  | star x =>
    rcases h with h | h
    · exact is h.1 (by decide)
    · exact is h.1 (by decide)
  | generic form bracket =>
    cases form with
    | typeArguments => exact is h.1 (by decide)
    | _ => exact is h (by decide)
  | _ => exact is h.1 (by decide)

theorem Node.Derives.not_other {x : Node} (h : x.Derives pos t) : t.kind ∉ otherKinds := by
  obtain ⟨k, p⟩ := x
  obtain ⟨-, h | h⟩ := h
  · exact h.not_other
  · rw [h.1]
    decide

theorem Stmt.Derives.not_other {x : Stmt} (h : x.Derives pos t) : t.kind ∉ otherKinds := by
  have is {a : String} (ht : t.kind = a) (ha : a ∉ otherKinds) : t.kind ∉ otherKinds := ht ▸ ha
  obtain ⟨k, p⟩ := x
  replace h := h.2
  cases k with
  | decl d =>
    cases d with
    | value tok spec start => cases tok <;> exact is h.1 (by decide)
    | values tok specs start => cases tok <;> exact is h.1 (by decide)
    | _ => exact is h.1 (by decide)
  | expr x =>
    rcases h with h | h
    · exact is h.1 (by decide)
    · exact is h.1 (by decide)
  | step x tok => cases tok <;> exact is h.1 (by decide)
  | assign left op right =>
    obtain ⟨a, b, -, -, -, h | h⟩ := h
    · exact is h.1 (by decide)
    · exact is h.1 (by decide)
  | labeled label x => exact fun ht => absurd ht ((by decide : ∀ a ∈ _, a ∉ otherKinds) _ h.1)
  | branch jump => cases jump <;> exact is h.1 (by simp [StmtKind.kindName, otherKinds])
  | block b =>
    obtain ⟨ss, start⟩ := b
    exact is h.1 (by decide)
  | empty => exact is h (by decide)
  | conditional c =>
    obtain ⟨i, c, b, e, start⟩ := c
    exact is h.1 (by decide)
  | _ => exact is h.1 (by decide)

end Grammar

end GoRebuild
