import GoRebuild.Proofs.Parse.Derives
import GoRebuild.Reader.Statements

/-!
# What the rules do on nodes of some shape

The rules of the reader look for kinds of nodes and for fields by their names. Where a node has the parts that its
production gives it, they find those, whatever comments stand between them.

* `require_eq`, `firstEntry_eq`, `map_mapM_filter` : fields, and rows in which some entries do not count;
* `Readers.signature_eq`, `Readers.args_eq`, `Readers.structField_named` and the rest : parts of expressions and types;
* `Readers.exprKindRule_name` and the rest : expressions and types.
-/

namespace GoRebuild
open Parse (Node)
open Parse.Node

variable {t a b c d : Node} {o : Option Node} {field : String}

/-! ## Fields and rows -/

theorem require_eq (h : t.child? field = some c) : t.require field = pure c := by
  rw [require, h]

theorem firstEntry_eq {cs : List Node} (h : t.parts = c :: cs) : t.firstEntry = pure c := by
  rw [firstEntry, entries_eq_parts, h]
  rfl

theorem rejectGenerics_eq (hparams : t.child? "type_parameters" = none) (hargs : t.child? "type_arguments" = none) :
    t.rejectGenerics = pure () := by
  rw [rejectGenerics, hparams, hargs]

/-- Entries that give an answer without a failure may be left out, if what becomes of the answers ignores that one. -/
theorem map_mapM_filter {α β γ : Type} {f : α → Reading β} {p : α → Bool} {skip : β} {cs : List α}
    (hf : ∀ c ∈ cs, ¬p c → f c = pure skip) {g : List β → γ} (hg : ∀ xs ys, g (xs ++ skip :: ys) = g (xs ++ ys)) :
    g <$> cs.mapM f = g <$> (cs.filter p).mapM f := by
  induction cs generalizing g with
  | nil => rfl
  | cons c cs ih =>
    obtain ⟨hc, hcs⟩ := List.forall_mem_cons.mp hf
    by_cases hp : p c
    · have hcons (x : β) : (g ∘ List.cons x) <$> cs.mapM f = (g ∘ List.cons x) <$> (cs.filter p).mapM f :=
        ih hcs fun xs ys => hg (x :: xs) ys
      simp only [List.filter_cons_of_pos hp, List.mapM_cons, map_bind, ← map_eq_pure_bind, Functor.map_map]
      exact bind_congr hcons
    · have hskip : g ∘ List.cons skip = g := funext (hg [])
      rw [List.filter_cons_of_neg hp, List.mapM_cons, hc hp, pure_bind, ← ih hcs hg, ← map_eq_pure_bind,
        Functor.map_map]
      exact congrArg (· <$> cs.mapM f) hskip

namespace Readers
variable (r : Readers)

/-- A node that may be absent. -/
def option : Option Node → Reading (Option Expr)
  | none => pure none
  | some c => return some (← r.expr c)

/-- A statement that may be absent. -/
def stmtOption : Option Node → Reading (Option Stmt)
  | none => pure none
  | some c => return some (← r.stmt c)

variable {r}

theorem option_some : r.option (some c) = do return some (← r.expr c) :=
  rfl

theorem stmtOption_some : r.stmtOption (some c) = do return some (← r.stmt c) :=
  rfl

theorem boxed_eq (h : t.child? field = some c) : r.boxed t field = r.expr c := by
  rw [boxed, require_eq h, pure_bind]

theorem optBoxed_eq (h : t.child? field = o) : r.optBoxed t field = r.option o := by
  subst h
  unfold optBoxed option
  cases t.child? field <;> rfl

theorem optStmt_eq (h : t.child? field = o) : r.optStmt t field = r.stmtOption o := by
  subst h
  unfold optStmt stmtOption
  cases t.child? field <;> rfl

theorem exprList_eq (h : t.kind = "expression_list") : r.exprList t = t.parts.mapM r.expr := by
  rw [exprList, if_pos h, entries_eq_parts]

/-! ## Parts of expressions and types -/

variable (r) in
/-- The results of a signature, in parentheses or alone. -/
def results : Option Node → Reading (Option (List Field))
  | none => pure none
  | some c =>
    if c.kind = "parameter_list" then return some (← c.parts.mapM r.param)
    else return some [.mk [] (← r.expr c) none]

theorem results_list (h : c.kind = "parameter_list") : r.results (some c) = do return some (← c.parts.mapM r.param) :=
  if_pos h

theorem results_alone (h : c.kind ∉ Grammar.otherKinds) : r.results (some c) = do return some [.mk [] (← r.expr c) none] :=
  if_neg fun hk => h (by rw [hk]; decide)

theorem signature_eq (hparams : t.child? "parameters" = some a) (hresult : t.child? "result" = o) :
    r.signature t = do return .mk (← a.parts.mapM r.param) (← r.results o) := by
  subst hresult
  rw [signature, require_eq hparams]
  simp only [pure_bind, params, entries_eq_parts]
  refine bind_congr fun ps => ?_
  cases t.child? "result" with
  | none => rfl
  | some c =>
    simp only [results]
    split <;> simp only [bind_assoc, pure_bind]

theorem param_plain (h : t.kind = "parameter_declaration") (htype : t.child? "type" = some c) :
    r.param t = do return .mk ((t.partsIn "name").map ident) (← r.expr c) none := by
  rw [param, require_eq htype, pure_bind, h]
  rfl

theorem param_variadic (h : t.kind = "variadic_parameter_declaration") (htype : t.child? "type" = some c) :
    r.param t = do
      return .mk ((t.partsIn "name").map ident) (.mk (.ellipsis (some (← r.expr c))) t.pos) none := by
  rw [param, require_eq htype, pure_bind, h]
  rfl

/-- The tag of a struct field as a literal. -/
def tagOf (o : Option Node) : Option BasicLit :=
  o.map fun c => ⟨.string, c.text⟩

theorem structField_named (h : t.kind = "field_declaration") (hnames : t.partsIn "name" ≠ [])
    (htype : t.child? "type" = some c) (htag : t.child? "tag" = o) :
    r.structField t = do return .mk ((t.partsIn "name").map ident) (← r.expr c) (tagOf o) := by
  have hnone : ((t.partsIn "name").map ident).isEmpty = false := by simpa using hnames
  subst htag
  simp only [structField, h, ne_eq, not_true_eq_false, if_false, require_eq htype, pure_bind, entriesIn_eq_partsIn, hnone,
    Bool.false_and, Bool.false_eq_true]
  rfl

theorem structField_embedded {star : Bool} (h : t.kind = "field_declaration") (hnames : t.partsIn "name" = [])
    (hstar : "*" ∈ t.symbols ↔ star) (htype : t.child? "type" = some c) (htag : t.child? "tag" = o) :
    r.structField t = do
      let ty ← r.expr c
      return .mk [] (if star then .mk (.star ty) t.pos else ty) (tagOf o) := by
  subst htag
  have htoken : t.hasToken "*" = star := by rw [hasToken_eq, Bool.eq_iff_iff, decide_eq_true_iff, hstar]
  simp only [structField, h, ne_eq, not_true_eq_false, if_false, require_eq htype, pure_bind, entriesIn_eq_partsIn,
    hnames, List.map_nil, List.isEmpty_nil, Bool.true_and, htoken]
  refine bind_congr fun ty => ?_
  cases star <;> rfl

theorem element_method (h : t.kind ∈ ["method_elem", "method_spec"]) (hname : t.child? "name" = some a) :
    r.element t = do
      let sig ← r.signature t
      return .mk [a.ident] (.mk (.funcType sig) t.pos) none := by
  simp only [List.mem_cons, List.not_mem_nil, or_false] at h
  rcases h with h | h <;> rw [element, h, require_eq hname] <;> rfl

theorem element_embedded (h : t.kind ∈ ["type_elem", "constraint_elem"]) (hc : t.parts = [c]) :
    r.element t = do return .mk [] (← r.expr c) none := by
  simp only [List.mem_cons, List.not_mem_nil, or_false] at h
  rcases h with h | h <;> rw [element, h, entries_eq_parts, hc] <;> rfl

theorem element_union (h : t.kind = "type_elem") (hparts : t.parts.length ≠ 1) : r.element t = t.unsupported := by
  rw [element, h, entries_eq_parts]
  match hp : t.parts with
  | [] => rfl
  | [c] => exact absurd (by rw [hp]; rfl) hparts
  | c :: d :: cs => rfl

/-! ## Expressions and types -/

theorem exprKindRule_name (h : t.kind ∈ Grammar.nameKinds) : r.exprKindRule t = pure (.ident t.text) := by
  simp only [Grammar.nameKinds, List.mem_cons, List.not_mem_nil, or_false] at h
  rcases h with h | h | h | h | h | h | h | h | h | h <;> delta exprKindRule <;> rw [h] <;> rfl

theorem exprKindRule_literal {kind : LitKind} (h : t.kind ∈ Grammar.literalKinds kind) :
    r.exprKindRule t = pure (.basicLit ⟨kind, t.text⟩) := by
  cases kind <;> simp only [Grammar.literalKinds, List.mem_cons, List.not_mem_nil, or_false] at h
  case string => rcases h with h | h <;> delta exprKindRule <;> rw [h] <;> rfl
  all_goals
    delta exprKindRule
    rw [h]
    rfl

theorem exprKindRule_paren (h : t.kind ∈ ["parenthesized_expression", "parenthesized_type"]) (hc : t.parts = [c]) :
    r.exprKindRule t = do return .paren (← r.expr c) := by
  simp only [List.mem_cons, List.not_mem_nil, or_false] at h
  rcases h with h | h <;> delta exprKindRule <;> rw [h, firstEntry_eq hc] <;> rfl

theorem exprKindRule_selector (h : t.kind = "selector_expression")
    (hs : t.Shape [("operand", some a), ("field", some b)]) :
    r.exprKindRule t = do return .selector (← r.expr a) b.ident := by
  delta exprKindRule
  rw [h, boxed_eq (hs.child? (.head _)), require_eq (hs.child? (.tail _ (.head _)))]
  rfl

theorem exprKindRule_qualified (h : t.kind = "qualified_type") (hs : t.Shape [("package", some a), ("name", some b)]) :
    r.exprKindRule t = do return .selector (← r.expr a) b.ident := by
  delta exprKindRule
  rw [h, boxed_eq (hs.child? (.head _)), require_eq (hs.child? (.tail _ (.head _)))]
  rfl

theorem exprKindRule_index (h : t.kind = "index_expression") (hs : t.Shape [("operand", some a), ("index", some b)]) :
    r.exprKindRule t = do return .index (← r.expr a) (← r.expr b) := by
  delta exprKindRule
  rw [h, boxed_eq (hs.child? (.head _)), boxed_eq (hs.child? (.tail _ (.head _)))]
  rfl

theorem exprKindRule_slice {k : Nat} {low high max : Option Node} (h : t.kind = "slice_expression")
    (hcolons : t.children.countP (·.kind == ":") = k)
    (hs : t.Shape [("operand", some a), ("start", low), ("end", high), ("capacity", max)]) :
    r.exprKindRule t = do
      return .slice (← r.expr a) (← r.option low) (← r.option high) (← r.option max) (k == 2) := by
  delta exprKindRule
  rw [h, sliceRule, hcolons, boxed_eq (hs.child? (.head _)),
    optBoxed_eq (hs.child? (.tail _ (.head _))), optBoxed_eq (hs.child? (.tail _ (.tail _ (.head _)))),
    optBoxed_eq (hs.child? (.tail _ (.tail _ (.tail _ (.head _)))))]
  rfl

theorem exprKindRule_assert (h : t.kind = "type_assertion_expression")
    (hs : t.Shape [("operand", some a), ("type", some b)]) :
    r.exprKindRule t = do return .typeAssert (← r.expr a) (some (← r.expr b)) := by
  delta exprKindRule
  rw [h, boxed_eq (hs.child? (.head _)), boxed_eq (hs.child? (.tail _ (.head _)))]
  rfl

/-- Only the parts of an argument list are arguments. -/
theorem args_eq (h : t.symbols ⊆ ["(", ",", ")"]) :
    r.args t = (fun ps => (ps.flatMap Prod.fst, ps.any Prod.snd)) <$> t.parts.mapM r.arg := by
  rw [args, ← map_eq_pure_bind]
  refine @map_mapM_filter _ _ _ r.arg _ ([], false) t.children (fun c hc hpart => ?_) _ fun xs ys => by simp
  by_cases hnamed : c.isNamed
  · have hkind : c.kind = "comment" := by simpa [isPart, hnamed] using hpart
    simp only [arg, hkind]
  · have hkind : c.kind ∈ ["(", ",", ")"] :=
      h (List.mem_map.mpr ⟨c, List.mem_filter.mpr ⟨hc, by simp [hnamed]⟩, rfl⟩)
    simp only [List.mem_cons, List.not_mem_nil, or_false] at hkind
    rcases hkind with hkind | hkind | hkind <;> simp only [arg, hkind, hnamed] <;> rfl

theorem arg_plain (hnamed : c.isNamed) (hkind : c.kind ∉ Grammar.otherKinds) :
    r.arg c = (fun x => ([x], false)) <$> r.expr c := by
  simp only [Grammar.otherKinds, List.mem_cons, not_or] at hkind
  unfold arg
  split <;> simp_all

theorem arg_spread (hkind : c.kind = "variadic_argument") (hparts : c.parts = [d]) :
    r.arg c = (fun x => ([x], true)) <$> r.expr d := by
  simp only [arg, hkind, firstEntry_eq hparts, pure_bind, map_eq_pure_bind]

theorem args_cons {cs : List Node} {act : Reading (List Expr × Bool)} (h : r.arg c = act) :
    (fun ps => (ps.flatMap Prod.fst, ps.any Prod.snd)) <$> (c :: cs).mapM r.arg = do
      let p ← act
      let q ← (fun ps => (ps.flatMap Prod.fst, ps.any Prod.snd)) <$> cs.mapM r.arg
      return (p.1 ++ q.1, p.2 || q.2) := by
  rw [List.mapM_cons, h]
  simp only [map_eq_pure_bind, bind_assoc, pure_bind, List.flatMap_cons, List.any_cons]

theorem exprKindRule_call {as : Node} (h : t.kind = "call_expression") (hparams : t.child? "type_parameters" = none)
    (hs : t.Shape [("function", some a), ("type_arguments", none), ("arguments", some as)])
    (hsymbols : as.symbols ⊆ ["(", ",", ")"]) :
    r.exprKindRule t = (do
      let args ← (fun ps => (ps.flatMap Prod.fst, ps.any Prod.snd)) <$> as.parts.mapM r.arg
      return .call (← r.expr a) args.1 args.2) := by
  have hrule : r.exprKindRule t = r.callRule t := by
    delta exprKindRule
    rw [h]
    rfl
  rw [hrule, callRule, rejectGenerics_eq hparams (hs.child? (.tail _ (.head _))), pure_bind,
    require_eq (hs.child? (.tail _ (.tail _ (.head _)))), pure_bind, args_eq hsymbols, boxed_eq (hs.child? (.head _))]

theorem exprKindRule_typeArguments (h : t.kind = "call_expression") (hparams : t.child? "type_parameters" = none)
    (hargs : t.child? "type_arguments" = some c) : r.exprKindRule t = c.unsupported := by
  delta exprKindRule
  rw [h, callRule, rejectGenerics, hparams, hargs]
  rfl

theorem exprKindRule_convert (h : t.kind = "type_conversion_expression")
    (hs : t.Shape [("type", some a), ("operand", some b)]) :
    r.exprKindRule t = do return .call (← r.expr a) [← r.expr b] false := by
  delta exprKindRule
  rw [h, boxed_eq (hs.child? (.head _)), boxed_eq (hs.child? (.tail _ (.head _)))]
  rfl

theorem exprKindRule_pointer (h : t.kind = "pointer_type") (hc : t.parts = [c]) :
    r.exprKindRule t = do return .star (← r.expr c) := by
  delta exprKindRule
  rw [h, firstEntry_eq hc]
  rfl

theorem exprKindRule_deref (h : t.kind = "unary_expression") (ho : t.child? "operator" = some a) (hstar : a.text = "*")
    (hs : t.Shape [("operand", some b)]) : r.exprKindRule t = do return .star (← r.expr b) := by
  have hrule : r.exprKindRule t = r.unaryRule t := by
    delta exprKindRule
    rw [h]
    rfl
  simp only [hrule, unaryRule, require_eq ho, boxed_eq (hs.child? (.head _)), pure_bind, if_pos hstar]

theorem exprKindRule_unary (h : t.kind = "unary_expression") (ho : t.child? "operator" = some a) (hstar : a.text ≠ "*")
    (hs : t.Shape [("operand", some b)]) : r.exprKindRule t = do return .unary a.text (← r.expr b) := by
  have hrule : r.exprKindRule t = r.unaryRule t := by
    delta exprKindRule
    rw [h]
    rfl
  simp only [hrule, unaryRule, require_eq ho, boxed_eq (hs.child? (.head _)), pure_bind, if_neg hstar]

theorem exprKindRule_binary (h : t.kind = "binary_expression") (ho : t.child? "operator" = some b)
    (hs : t.Shape [("left", some a), ("right", some c)]) :
    r.exprKindRule t = do return .binary (← r.expr a) b.text (← r.expr c) := by
  delta exprKindRule
  rw [h, require_eq ho, boxed_eq (hs.child? (.head _)), boxed_eq (hs.child? (.tail _ (.head _)))]
  rfl

theorem exprKindRule_composite (h : t.kind = "composite_literal")
    (hs : t.Shape [("type", some a), ("body", some b)]) :
    r.exprKindRule t = do return .compositeLit (some (← r.expr a)) (← b.parts.mapM r.expr) := by
  have hrule : r.exprKindRule t = do
      return .compositeLit (some (← r.boxed t "type")) (← r.literalValue (← t.require "body")) := by
    delta exprKindRule
    rw [h]
    rfl
  simp only [hrule, boxed_eq (hs.child? (.head _)), require_eq (hs.child? (.tail _ (.head _))), pure_bind, literalValue,
    entries_eq_parts]

theorem exprKindRule_braces (h : t.kind = "literal_value") :
    r.exprKindRule t = do return .compositeLit none (← t.parts.mapM r.expr) := by
  have hrule : r.exprKindRule t = do return .compositeLit none (← r.literalValue t) := by
    delta exprKindRule
    rw [h]
    rfl
  rw [hrule, literalValue, entries_eq_parts]

theorem exprKindRule_element (h : t.kind = "literal_element") (hc : t.parts = [c]) :
    r.exprKindRule t = r.exprKind c := by
  delta exprKindRule
  rw [h, firstEntry_eq hc]
  rfl

theorem exprKindRule_keyed (h : t.kind = "keyed_element") (hs : t.Shape [("key", some a), ("value", some b)]) :
    r.exprKindRule t = do return .keyValue (← r.expr a) (← r.expr b) := by
  delta exprKindRule
  rw [h, keyedElement, hs.child? (.head _), hs.child? (.tail _ (.head _))]
  rfl

theorem exprKindRule_func (h : t.kind = "func_literal") (hbody : t.child? "body" = some c) :
    r.exprKindRule t = do return .funcLit (← r.signature t) (← r.block c) := by
  delta exprKindRule
  rw [h, require_eq hbody]
  rfl

theorem exprKindRule_array (h : t.kind = "array_type") (hs : t.Shape [("length", some a), ("element", some b)]) :
    r.exprKindRule t = do return .arrayType (some (← r.expr a)) (← r.expr b) := by
  delta exprKindRule
  rw [h, boxed_eq (hs.child? (.head _)), boxed_eq (hs.child? (.tail _ (.head _)))]
  rfl

theorem exprKindRule_openArray (h : t.kind = "implicit_length_array_type") (hs : t.Shape [("element", some a)]) :
    r.exprKindRule t = do return .arrayType (some (.mk (.ellipsis none) t.pos)) (← r.expr a) := by
  delta exprKindRule
  rw [h, boxed_eq (hs.child? (.head _))]
  rfl

theorem exprKindRule_sliceOf (h : t.kind = "slice_type") (hs : t.Shape [("element", some a)]) :
    r.exprKindRule t = do return .arrayType none (← r.expr a) := by
  delta exprKindRule
  rw [h, boxed_eq (hs.child? (.head _))]
  rfl

theorem exprKindRule_struct (h : t.kind = "struct_type") (hc : t.parts = [c]) :
    r.exprKindRule t = do return .structType (← c.parts.mapM r.structField) := by
  have hrule : r.exprKindRule t = do return .structType (← r.structFields (← t.firstEntry)) := by
    delta exprKindRule
    rw [h]
    rfl
  rw [hrule, firstEntry_eq hc, pure_bind, structFields, entries_eq_parts]

theorem exprKindRule_interface (h : t.kind = "interface_type") :
    r.exprKindRule t = do return .interfaceType (← t.parts.mapM r.element) := by
  have hrule : r.exprKindRule t = do return .interfaceType (← r.interface t) := by
    delta exprKindRule
    rw [h]
    rfl
  rw [hrule, interface, entries_eq_parts]

theorem exprKindRule_map (h : t.kind = "map_type") (hs : t.Shape [("key", some a), ("value", some b)]) :
    r.exprKindRule t = do return .mapType (← r.expr a) (← r.expr b) := by
  delta exprKindRule
  rw [h, boxed_eq (hs.child? (.head _)), boxed_eq (hs.child? (.tail _ (.head _)))]
  rfl

theorem exprKindRule_chan {dir : ChanDir} (h : t.kind = "channel_type") (hdir : t.symbols = Grammar.chanSymbols dir)
    (hs : t.Shape [("value", some a)]) : r.exprKindRule t = do return .chanType dir (← r.expr a) := by
  have hchan : chanDir t = dir := by
    have hwords : (t.children.filter fun c => !c.isNamed).map kind = Grammar.chanSymbols dir := hdir
    rw [chanDir, hwords]
    cases dir <;> rfl
  delta exprKindRule
  rw [h, hchan, boxed_eq (hs.child? (.head _))]
  rfl

theorem exprKindRule_funcType (h : t.kind = "function_type") :
    r.exprKindRule t = do return .funcType (← r.signature t) := by
  delta exprKindRule
  rw [h]
  rfl

theorem exprKindRule_generic {form : Grammar.Generic} (h : t.kind = form.kindName) (hform : form ≠ .typeArguments) :
    r.exprKindRule t = t.unsupported := by
  cases form with
  | typeArguments => exact absurd rfl hform
  | _ => delta exprKindRule; rw [h]; rfl

end Readers

end GoRebuild
