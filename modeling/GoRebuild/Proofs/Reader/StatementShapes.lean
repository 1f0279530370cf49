import GoRebuild.Proofs.Reader.Shapes

/-!
# What the rules for statements do on nodes of some shape

* `Readers.rowStmts`, `Readers.stmtList_eq`, `Readers.stmtList_row` : the statements of a block or clause;
* `Readers.spec_value`, `Readers.genDecl_one` and the rest : declarations;
* `Readers.caseClause_values`, `Readers.typeClause_types`, `Readers.commClause_waiting` and the rest : clauses;
* `Readers.stmtKindRule_expr` and the rest : statements.
-/

namespace GoRebuild
open Parse (Node)
open Parse.Node

variable {t a b c d : Node} {o : Option Node} {field : String}

namespace Readers
variable {r : Readers}

/-! ## Statements in a row -/

variable (r) in
/-- What stands in a block or clause: a row of statements, or nothing. -/
def rowStmts : List Node → Reading (List Stmt)
  | [] => pure []
  | c :: _ => r.stmts c

theorem rowStmts_one : r.rowStmts [c] = r.stmts c :=
  rfl

theorem stmts_upTo {limit n : Nat} : (upTo limit (n + 1)).stmts t = (upTo limit n).stmtList t [] :=
  rfl

/-- The statements of a node that has a row of them behind other parts. -/
theorem stmtList_eq {before row : List Node} (hparts : t.parts = before ++ row)
    (hids : ∀ d ∈ row, ∀ v ∈ before, d.nodeId ≠ v.nodeId) (hrow : row = [] ∨ ∃ l, row = [l] ∧ l.kind = "statement_list") :
    r.stmtList t (before.map nodeId) = r.rowStmts row := by
  have hfilter : (t.parts.filter fun c => !(before.map nodeId).contains c.nodeId) = row := by
    rw [hparts, List.filter_append, List.filter_eq_nil_iff.mpr, List.filter_eq_self.mpr, List.nil_append]
    · intro d hd
      simpa using fun v hv => (hids d hd v hv).symm
    · intro v hv
      simpa using ⟨v, hv, rfl⟩
  rw [stmtList, entries_eq_parts, hfilter]
  rcases hrow with rfl | ⟨l, rfl, hl⟩
  · rfl
  · simp [rowStmts, hl]

/-- The statements in a row. -/
theorem stmtList_row (h : ∀ c ∈ t.parts, c.kind ≠ "statement_list") : r.stmtList t [] = t.parts.mapM r.stmt := by
  have hall : (t.parts.filter fun c => !([] : List Nat).contains c.nodeId) = t.parts :=
    List.filter_eq_self.mpr fun _ _ => rfl
  rw [stmtList, entries_eq_parts, hall]
  generalize t.parts = cs at h
  induction cs with
  | nil => rfl
  | cons c cs ih =>
    obtain ⟨hc, hcs⟩ := List.forall_mem_cons.mp h
    rw [List.mapM_cons, List.mapM_cons, ← ih hcs]
    simp only [if_neg hc, bind_assoc, pure_bind, List.flatten_cons, List.singleton_append]

theorem stmtList_all (hrow : t.parts = [] ∨ ∃ l, t.parts = [l] ∧ l.kind = "statement_list") :
    r.stmtList t [] = r.rowStmts t.parts :=
  @stmtList_eq t r [] t.parts rfl (fun _ _ _ h => nomatch h) hrow

theorem block_eq (hrow : t.parts = [] ∨ ∃ l, t.parts = [l] ∧ l.kind = "statement_list") :
    r.block t = do return .mk (← r.rowStmts t.parts) t.pos := by
  rw [block, stmtList_all hrow]

/-! ## Declarations -/

theorem declToken_value {tok : Grammar.ValueTok} (h : t.kind = tok.declKind) :
    declToken t = pure tok.declToken := by
  cases tok <;> rw [declToken, h] <;> rfl

theorem declToken_type (h : t.kind = "type_declaration") : declToken t = pure .typeTok := by
  rw [declToken, h]
  rfl

theorem not_isSpecList (h : t.kind ∈ ["const_spec", "var_spec", "type_spec", "type_alias"]) : isSpecList t = false :=
  (by decide : ∀ a ∈ ["const_spec", "var_spec", "type_spec", "type_alias"],
    "_spec_list".toList.isSuffixOf a.toList = false) _ h

theorem genDecl_one {tok : DeclToken} (htok : declToken t = pure tok) (hgroup : "(" ∉ t.symbols) (hc : t.parts = [c])
    (hspec : isSpecList c = false) : r.genDecl t = do return .mk tok t.pos false [← r.spec c] := by
  have htoken : t.hasToken "(" = false := by rw [hasToken_eq, decide_eq_false hgroup]
  rw [genDecl, htok, pure_bind, entries_eq_parts, hc]
  simp [hspec, htoken]

theorem genDecl_many {tok : DeclToken} (htok : declToken t = pure tok) (hgroup : "(" ∈ t.symbols)
    (hspec : ∀ c ∈ t.parts, isSpecList c = false) :
    r.genDecl t = do return .mk tok t.pos true (← t.parts.mapM r.spec) := by
  have htoken : t.hasToken "(" = true := by rw [hasToken_eq, decide_eq_true hgroup]
  have hrows : (do
      let rows ← t.parts.mapM fun c => if isSpecList c then c.entries.mapM r.spec else return [← r.spec c]
      return rows.flatten) = t.parts.mapM r.spec := by
    generalize t.parts = cs at hspec
    induction cs with
    | nil => rfl
    | cons c cs ih =>
      obtain ⟨hc, hcs⟩ := List.forall_mem_cons.mp hspec
      rw [List.mapM_cons, List.mapM_cons, ← ih hcs]
      simp only [hc, Bool.false_eq_true, if_false, bind_assoc, pure_bind, List.flatten_cons, List.singleton_append]
  rw [genDecl, htok, pure_bind, ← hrows, entries_eq_parts, htoken]
  simp only [bind_assoc, pure_bind, Bool.true_or]

theorem genDecl_list {tok : DeclToken} (htok : declToken t = pure tok) (hc : t.parts = [c])
    (hkind : c.kind = "var_spec_list") : r.genDecl t = do return .mk tok t.pos true (← c.parts.mapM r.spec) := by
  have hlist : isSpecList c = true := by
    rw [isSpecList, hkind]
    decide
  rw [genDecl, htok, pure_bind, entries_eq_parts, hc]
  simp [hlist, entries_eq_parts]

variable (r) in
/-- Expressions as one node, which may be absent. -/
def listOption : Option Node → Reading (List Expr)
  | none => pure []
  | some c => r.exprList c

theorem listOption_some : r.listOption (some c) = r.exprList c :=
  rfl

theorem spec_value {tok : Grammar.ValueTok} {p : Option Node} (h : t.kind = tok.specKind) (htype : t.child? "type" = o)
    (hvalue : t.child? "value" = p) :
    r.spec t = do return .value ((t.partsIn "name").map ident) (← r.option o) (← r.listOption p) := by
  subst htype hvalue
  have hrule : r.spec t = do
      return .value ((t.entriesIn "name").map ident) (← r.optBoxed t "type") (← r.listOption (t.child? "value")) := by
    cases tok <;> rw [spec, h] <;> cases t.child? "value" <;> rfl
  rw [hrule, optBoxed_eq rfl]
  rfl

theorem spec_type {aliased : Bool} (h : t.kind = if aliased then "type_alias" else "type_spec")
    (hargs : t.child? "type_arguments" = none)
    (hs : t.Shape [("name", some a), ("type_parameters", none), ("type", some b)]) :
    r.spec t = do return .type a.ident aliased (← r.expr b) := by
  have hrule : r.spec t = do
      t.rejectGenerics
      return .type (← t.require "name").ident (t.kind == "type_alias") (← r.boxed t "type") := by
    cases aliased <;> rw [spec, h] <;> rfl
  have halias : (t.kind == "type_alias") = aliased := by
    rw [h]
    cases aliased <;> decide
  simp only [hrule, rejectGenerics_eq (hs.child? (.tail _ (.head _))) hargs, require_eq (hs.child? (.head _)),
    boxed_eq (hs.child? (.tail _ (.tail _ (.head _)))), pure_bind, halias]

theorem spec_generic {aliased : Bool} (h : t.kind = if aliased then "type_alias" else "type_spec")
    (hparams : t.child? "type_parameters" = some c) : r.spec t = c.unsupported := by
  cases aliased <;> rw [spec, h, rejectGenerics, hparams] <;> rfl

/-! ## Clauses -/

/-- Clauses are read in order; the header of their statement has none. -/
theorem clauses_eq {f : Node → Reading (Option Stmt)} {header cs : List Node} (hf : ∀ c ∈ header, f c = pure none) :
    List.filterMap id <$> (header ++ cs).mapM f = List.filterMap id <$> cs.mapM f := by
  induction header with
  | nil => rfl
  | cons c header ih =>
    obtain ⟨hc, hheader⟩ := List.forall_mem_cons.mp hf
    rw [List.cons_append, List.mapM_cons, hc, pure_bind, ← ih hheader, ← map_eq_pure_bind, Functor.map_map]
    rfl

theorem clauses_cons {f : Node → Reading (Option Stmt)} {cs : List Node} {act : Reading Stmt}
    (h : f c = some <$> act) :
    List.filterMap id <$> (c :: cs).mapM f = do return (← act) :: (← List.filterMap id <$> cs.mapM f) := by
  rw [List.mapM_cons, h]
  simp only [map_eq_pure_bind, bind_assoc, pure_bind, List.filterMap_cons, id_eq]

theorem caseClause_header (h : c.kind ∉ Grammar.otherKinds) : r.caseClause c = pure none := by
  simp only [Grammar.otherKinds, List.mem_cons, not_or] at h
  unfold caseClause
  split <;> simp_all

theorem typeClause_header (h : c.kind ∉ Grammar.otherKinds) : r.typeClause c = pure none := by
  simp only [Grammar.otherKinds, List.mem_cons, not_or] at h
  unfold typeClause
  split <;> simp_all

theorem caseClause_values {row : List Node} (h : t.kind = "expression_case") (hvalue : t.child? "value" = some a)
    (hlist : a.kind = "expression_list") (hparts : t.parts = [a] ++ row)
    (hids : ∀ d ∈ row, ∀ v ∈ [a], d.nodeId ≠ v.nodeId) (hrow : row = [] ∨ ∃ l, row = [l] ∧ l.kind = "statement_list") :
    r.caseClause t = some <$> do
      let list ← a.parts.mapM r.expr
      return .mk (.caseClause list (← r.rowStmts row)) t.pos := by
  rw [caseClause, h, ← stmtList_eq hparts hids hrow, ← exprList_eq hlist]
  simp only [require_eq hvalue, pure_bind, map_bind, map_pure, List.map_cons, List.map_nil]

theorem typeClause_types {row ts : List Node} (h : t.kind = "type_case") (htypes : t.partsIn "type" = ts)
    (hparts : t.parts = ts ++ row) (hids : ∀ d ∈ row, ∀ v ∈ ts, d.nodeId ≠ v.nodeId)
    (hrow : row = [] ∨ ∃ l, row = [l] ∧ l.kind = "statement_list") :
    r.typeClause t = some <$> do
      let list ← ts.mapM r.expr
      return .mk (.caseClause list (← r.rowStmts row)) t.pos := by
  rw [typeClause, h, ← stmtList_eq hparts hids hrow]
  simp only [entriesIn_eq_partsIn, htypes, map_bind, map_pure]

theorem defaultClause_eq (hrow : t.parts = [] ∨ ∃ l, t.parts = [l] ∧ l.kind = "statement_list") :
    r.defaultClause t = do return .mk (.caseClause [] (← r.rowStmts t.parts)) t.pos := by
  rw [defaultClause, stmtList_all hrow]

theorem caseClause_default (h : t.kind = "default_case")
    (hrow : t.parts = [] ∨ ∃ l, t.parts = [l] ∧ l.kind = "statement_list") :
    r.caseClause t = some <$> do return .mk (.caseClause [] (← r.rowStmts t.parts)) t.pos := by
  rw [caseClause, h, ← defaultClause_eq hrow, map_eq_pure_bind]
  rfl

theorem typeClause_default (h : t.kind = "default_case")
    (hrow : t.parts = [] ∨ ∃ l, t.parts = [l] ∧ l.kind = "statement_list") :
    r.typeClause t = some <$> do return .mk (.caseClause [] (← r.rowStmts t.parts)) t.pos := by
  rw [typeClause, h, ← defaultClause_eq hrow, map_eq_pure_bind]
  rfl

theorem commClause_waiting {row : List Node} (h : t.kind = "communication_case")
    (hcomm : t.child? "communication" = some a) (hparts : t.parts = [a] ++ row)
    (hids : ∀ d ∈ row, ∀ v ∈ [a], d.nodeId ≠ v.nodeId) (hrow : row = [] ∨ ∃ l, row = [l] ∧ l.kind = "statement_list") :
    r.commClause t = some <$> do
      let comm ← r.stmt a
      return .mk (.commClause (some comm) (← r.rowStmts row)) t.pos := by
  rw [commClause, h, ← stmtList_eq hparts hids hrow]
  simp only [require_eq hcomm, pure_bind, map_bind, map_pure, List.map_cons, List.map_nil]

theorem commClause_default (h : t.kind = "default_case")
    (hrow : t.parts = [] ∨ ∃ l, t.parts = [l] ∧ l.kind = "statement_list") :
    r.commClause t = some <$> do return .mk (.commClause none (← r.rowStmts t.parts)) t.pos := by
  rw [commClause, h, ← stmtList_all hrow]
  simp only [map_bind, map_pure]

/-! ## Statements -/

theorem stmtKindRule_decl (h : t.kind ∈ ["const_declaration", "var_declaration", "type_declaration"]) :
    r.stmtKindRule t = do return .decl (← r.genDecl t) := by
  simp only [List.mem_cons, List.not_mem_nil, or_false] at h
  rcases h with h | h | h <;> delta stmtKindRule <;> rw [h] <;> rfl

theorem stmtKindRule_expr (h : t.kind = "expression_statement") (hc : t.parts = [c]) :
    r.stmtKindRule t = do return .expr (← r.expr c) := by
  delta stmtKindRule
  rw [h, firstEntry_eq hc]
  rfl

theorem stmtKindRule_send (h : t.kind = "send_statement") (hs : t.Shape [("channel", some a), ("value", some b)]) :
    r.stmtKindRule t = do return .send (← r.expr a) (← r.expr b) := by
  delta stmtKindRule
  rw [h, boxed_eq (hs.child? (.head _)), boxed_eq (hs.child? (.tail _ (.head _)))]
  rfl

theorem stmtKindRule_received (h : t.kind = "receive_statement") (hs : t.Shape [("left", none), ("right", some c)]) :
    r.stmtKindRule t = do return .expr (← r.expr c) := by
  have hrule : r.stmtKindRule t = r.receiveRule t := by
    delta stmtKindRule
    rw [h]
    rfl
  rw [hrule, receiveRule, boxed_eq (hs.child? (.tail _ (.head _))), hs.child? (.head _)]

theorem stmtKindRule_receive (h : t.kind = "receive_statement")
    (hs : t.Shape [("left", some a), ("right", some b)]) :
    r.stmtKindRule t = do
      let y ← r.expr b
      return .assign (← r.exprList a) (Grammar.assignOp t) [y] := by
  have hrule : r.stmtKindRule t = r.receiveRule t := by
    delta stmtKindRule
    rw [h]
    rfl
  rw [hrule, receiveRule, boxed_eq (hs.child? (.tail _ (.head _))), hs.child? (.head _)]
  simp only [hasToken_eq, decide_eq_true_eq, Grammar.assignOp]

theorem stmtKindRule_step {tok : IncDec} (h : t.kind = Grammar.IncDec.stmtKind tok) (hc : t.parts = [c]) :
    r.stmtKindRule t = do return .incDec (← r.expr c) tok := by
  cases tok <;> delta stmtKindRule <;> rw [h, firstEntry_eq hc] <;> rfl

theorem stmtKindRule_assign (h : t.kind = "assignment_statement") (hs : t.Shape [("left", some a), ("right", some b)])
    (ho : t.child? "operator" = some c) :
    r.stmtKindRule t = do return .assign (← r.exprList a) c.text (← r.exprList b) := by
  delta stmtKindRule
  rw [h, require_eq (hs.child? (.head _)), require_eq (hs.child? (.tail _ (.head _))), require_eq ho]
  rfl

theorem stmtKindRule_define (h : t.kind = "short_var_declaration") (hs : t.Shape [("left", some a), ("right", some b)]) :
    r.stmtKindRule t = do return .assign (← r.exprList a) ":=" (← r.exprList b) := by
  delta stmtKindRule
  rw [h, require_eq (hs.child? (.head _)), require_eq (hs.child? (.tail _ (.head _)))]
  rfl

theorem stmtKindRule_return (h : t.kind = "return_statement") (hparts : t.parts = o.toList) :
    r.stmtKindRule t = do return .returnStmt (← r.listOption o) := by
  delta stmtKindRule
  rw [h, entries_eq_parts, hparts]
  cases o <;> rfl

theorem stmtKindRule_go (h : t.kind = "go_statement") (hc : t.parts = [c]) :
    r.stmtKindRule t = do return .goStmt (← r.expr c) := by
  delta stmtKindRule
  rw [h, firstEntry_eq hc]
  rfl

theorem stmtKindRule_defer (h : t.kind = "defer_statement") (hc : t.parts = [c]) :
    r.stmtKindRule t = do return .deferStmt (← r.expr c) := by
  delta stmtKindRule
  rw [h, firstEntry_eq hc]
  rfl

/-- The part of a node that is not some other one, which stands before or behind it. -/
theorem find?_nodeId (hids : ∀ d ∈ o, d.nodeId ≠ a.nodeId) :
    (a :: o.toList).find? (·.nodeId != a.nodeId) = o ∧ (o.toList ++ [a]).find? (·.nodeId != a.nodeId) = o := by
  cases o with
  | none => simp
  | some d => simp [hids d rfl]

theorem stmtKindRule_labeled (h : t.kind ∈ ["labeled_statement", "empty_labeled_statement"])
    (hlabel : t.child? "label" = some a) (hparts : t.parts = a :: o.toList) (hids : ∀ d ∈ o, d.nodeId ≠ a.nodeId) :
    r.stmtKindRule t = (do
      match o with
      | some c => return .labeled a.ident (← r.stmt c)
      | none => return .labeled a.ident (.mk .empty t.pos)) := by
  have hrule : r.stmtKindRule t = r.labeledRule t := by
    simp only [List.mem_cons, List.not_mem_nil, or_false] at h
    rcases h with h | h <;> delta stmtKindRule <;> rw [h] <;> rfl
  have hfind := (find?_nodeId hids).1
  rw [hrule, labeledRule, require_eq hlabel, pure_bind, entries_eq_parts, hparts]
  generalize (a :: o.toList).find? (·.nodeId != a.nodeId) = found at hfind ⊢
  subst hfind
  cases found <;> rfl

theorem stmtKindRule_branch {jump : Grammar.Jump} (h : t.kind = (Grammar.StmtKind.branch jump).kindName)
    (hlabel : jump = .fallthrough → t.parts = []) :
    r.stmtKindRule t = pure (.branch jump.tok (t.parts.head?.map ident)) := by
  rw [← entries_eq_parts] at hlabel ⊢
  cases jump with
  | fallthrough =>
    rw [hlabel rfl]
    delta stmtKindRule
    rw [h]
    rfl
  | _ =>
    delta stmtKindRule
    rw [h]
    rfl

theorem stmtKindRule_block (h : t.kind = "block") : r.stmtKindRule t = do return .block (← r.block t) := by
  delta stmtKindRule
  rw [h]
  rfl

theorem stmtKindRule_empty (h : t.kind = "empty_statement") : r.stmtKindRule t = pure .empty := by
  delta stmtKindRule
  rw [h]
  rfl

theorem stmtKindRule_if {e : Option Node} (h : t.kind = "if_statement")
    (hs : t.Shape [("initializer", o), ("condition", some b), ("consequence", some c), ("alternative", e)]) :
    r.stmtKindRule t = do
      let els ← r.stmtOption e
      return .ifStmt (← r.stmtOption o) (← r.expr b) (← r.block c) els := by
  have hrule : r.stmtKindRule t = r.ifRule t := by
    delta stmtKindRule
    rw [h]
    rfl
  rw [hrule, ifRule, optStmt_eq (hs.child? (.head _)), boxed_eq (hs.child? (.tail _ (.head _))),
    require_eq (hs.child? (.tail _ (.tail _ (.head _)))),
    optStmt_eq (hs.child? (.tail _ (.tail _ (.tail _ (.head _)))))]
  simp only [pure_bind]

theorem loopHeader_clause {body : Block} {p q : Option Node} (h : t.kind = "for_clause")
    (hs : t.Shape [("initializer", o), ("condition", p), ("update", q)]) :
    r.loopHeader t body = do return .forStmt (← r.stmtOption o) (← r.option p) (← r.stmtOption q) body := by
  rw [loopHeader, h, optStmt_eq (hs.child? (.head _)), optBoxed_eq (hs.child? (.tail _ (.head _))),
    optStmt_eq (hs.child? (.tail _ (.tail _ (.head _))))]
  rfl

theorem loopHeader_over {body : Block} (h : t.kind = "range_clause") (hs : t.Shape [("left", none), ("right", some a)]) :
    r.loopHeader t body = do return .rangeStmt none none none (← r.expr a) body := by
  rw [loopHeader, h, rangeVars, hs.child? (.head _), boxed_eq (hs.child? (.tail _ (.head _)))]
  rfl

theorem loopHeader_range {body : Block} (h : t.kind = "range_clause")
    (hs : t.Shape [("left", some a), ("right", some b)]) (hlist : a.kind = "expression_list") :
    r.loopHeader t body = do
      let names ← a.parts.mapM r.expr
      return .rangeStmt names.head? names.tail.head? (some (Grammar.assignOp t)) (← r.expr b) body := by
  rw [loopHeader, h, rangeVars, hs.child? (.head _), boxed_eq (hs.child? (.tail _ (.head _))), ← exprList_eq hlist]
  simp only [hasToken_eq, decide_eq_true_eq, Grammar.assignOp, bind_assoc, pure_bind]

theorem loopHeader_while {body : Block} (h : t.kind ∉ Grammar.otherKinds) :
    r.loopHeader t body = do return .forStmt none (some (← r.expr t)) none body := by
  simp only [Grammar.otherKinds, List.mem_cons, not_or] at h
  unfold loopHeader
  split <;> simp_all

variable (r) in
/-- A loop with its body, by what stands between `for` and that. -/
def header (body : Block) : Option Node → Reading StmtKind
  | none => pure (.forStmt none none none body)
  | some c => r.loopHeader c body

theorem header_some {body : Block} : r.header body (some c) = r.loopHeader c body :=
  rfl

theorem stmtKindRule_for (h : t.kind = "for_statement") (hbody : t.child? "body" = some b)
    (hparts : t.parts = o.toList ++ [b]) (hids : ∀ d ∈ o, d.nodeId ≠ b.nodeId) :
    r.stmtKindRule t = (do r.header (← r.block b) o) := by
  have hrule : r.stmtKindRule t = r.forRule t := by
    delta stmtKindRule
    rw [h]
    rfl
  rw [hrule, forRule, require_eq hbody, pure_bind, entries_eq_parts, hparts, (find?_nodeId hids).2]
  cases o <;> rfl

theorem stmtKindRule_switch {header cs : List Node} {p : Option Node} (h : t.kind = "expression_switch_statement")
    (hinit : t.child? "initializer" = o) (htag : t.child? "value" = p) (hparts : t.parts = header ++ cs)
    (hheader : ∀ c ∈ header, c.kind ∉ Grammar.otherKinds) :
    r.stmtKindRule t = do
      let clauses ← List.filterMap id <$> cs.mapM r.caseClause
      return .switchStmt (← r.stmtOption o) (← r.option p) (.mk clauses t.pos) := by
  have hrule : r.stmtKindRule t = r.switchRule t := by
    delta stmtKindRule
    rw [h]
    rfl
  rw [hrule, switchRule, entries_eq_parts, optStmt_eq hinit, optBoxed_eq htag,
    ← clauses_eq fun c hc => caseClause_header (hheader c hc), hparts]
  simp only [map_eq_pure_bind, bind_assoc, pure_bind]

theorem typeSwitchAssign_plain (halias : t.child? "alias" = none) :
    r.typeSwitchAssign t a = do return .mk (.expr (.mk (.typeAssert (← r.expr a) none) a.pos)) a.pos := by
  rw [typeSwitchAssign, halias]

theorem typeSwitchAssign_names (halias : t.child? "alias" = some b) (hlist : b.kind = "expression_list") :
    r.typeSwitchAssign t a = do
      let x ← r.expr a
      return .mk (.assign (← b.parts.mapM r.expr) ":=" [.mk (.typeAssert x none) a.pos]) b.pos := by
  rw [typeSwitchAssign, halias, ← exprList_eq hlist]

theorem stmtKindRule_typeSwitch {header cs : List Node} (h : t.kind = "type_switch_statement")
    (hinit : t.child? "initializer" = o) (hvalue : t.child? "value" = some a) (hparts : t.parts = header ++ cs)
    (hheader : ∀ c ∈ header, c.kind ∉ Grammar.otherKinds) :
    r.stmtKindRule t = do
      let assign ← r.typeSwitchAssign t a
      let clauses ← List.filterMap id <$> cs.mapM r.typeClause
      return .typeSwitch (← r.stmtOption o) assign (.mk clauses t.pos) := by
  have hrule : r.stmtKindRule t = r.typeSwitchRule t := by
    delta stmtKindRule
    rw [h]
    rfl
  rw [hrule, typeSwitchRule, entries_eq_parts, optStmt_eq hinit, require_eq hvalue, pure_bind,
    ← clauses_eq fun c hc => typeClause_header (hheader c hc), hparts]
  simp only [map_eq_pure_bind, bind_assoc, pure_bind]

theorem stmtKindRule_select (h : t.kind = "select_statement") :
    r.stmtKindRule t = do return .selectStmt (.mk (← List.filterMap id <$> t.parts.mapM r.commClause) t.pos) := by
  have hrule : r.stmtKindRule t = r.selectRule t := by
    delta stmtKindRule
    rw [h]
    rfl
  rw [hrule, selectRule, entries_eq_parts]
  simp only [map_eq_pure_bind, bind_assoc, pure_bind]

end Readers

end GoRebuild
