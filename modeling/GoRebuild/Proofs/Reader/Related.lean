import GoRebuild.Proofs.Parse.Derives
import GoRebuild.Reader.Source

/-!
# Readings by related readers

The rules use the readers only on nodes below the one that they are for, and do nothing else with the depth. So a
relation that goes through computations holds between what a rule makes of two readers, if it holds between these on
the nodes below.

* `ReadError.IsTooDeep` : the failures for the nesting, which no rule has of its own;
* `Reading.Keeps R` : a relation goes through computations;
* `Readers.Related R r r' n` : two readers are related on nodes of less than some height;
* `Related.exprKindRule`, `Related.stmtKindRule`, `Related.topLevel` and the rest : so are the rules, by what they use;
* `Related.upTo_succ`, `readFile_related` : the readers of higher trees, and the reading of a file.
-/

namespace GoRebuild
open Parse (Node)
open Parse.Node

/-- Nodes of a source are nested deeper than allowed. -/
def ReadError.IsTooDeep : ReadError → Prop
  | tooDeep _ _ => True
  | _ => False

/-- A relation between readings goes through computations, and through failures that are not for the nesting. -/
structure Reading.Keeps (R : ∀ α : Type, Reading α → Reading α → Prop) : Prop where
  pure : ∀ {α : Type} (a : α), R α (pure a) (pure a)
  throw : ∀ {α : Type} {e : ReadError}, ¬e.IsTooDeep → R α (throw e) (throw e)
  bind : ∀ {α β : Type} {act act' : Reading α} {k k' : α → Reading β}, R α act act' → (∀ a, R β (k a) (k' a)) →
    R β (act >>= k) (act' >>= k')

/-- Two readers are related on nodes of less than some height. -/
structure Readers.Related (R : ∀ α : Type, Reading α → Reading α → Prop) (r r' : Readers) (n : Nat) : Prop where
  expr : ∀ c, c.height < n → R Expr (r.expr c) (r'.expr c)
  exprKind : ∀ c, c.height < n → R ExprKind (r.exprKind c) (r'.exprKind c)
  stmt : ∀ c, c.height < n → R Stmt (r.stmt c) (r'.stmt c)
  stmts : ∀ c, c.height < n → R (List Stmt) (r.stmts c) (r'.stmts c)

section
variable {t c : Node} {field : String} {n : Nat}

theorem entries_height_lt (h : c ∈ t.entries) (ht : t.height ≤ n) : c.height < n :=
  Nat.lt_of_lt_of_le (height_lt_of_mem (List.mem_of_mem_filter (List.mem_of_mem_filter h))) ht

theorem entriesIn_height_lt (h : c ∈ t.entriesIn field) (ht : t.height ≤ n) : c.height < n :=
  Nat.lt_of_lt_of_le (height_lt_of_mem (List.mem_of_mem_filter (List.mem_of_mem_filter h))) ht

end

variable {R : ∀ α : Type, Reading α → Reading α → Prop} {t : Node} {field : String} {n : Nat} {α β : Type}

/-! ## Computations -/

namespace Reading

theorem related_ite {p : Prop} [Decidable p] {act act' other other' : Reading α} (hact : R α act act')
    (hother : R α other other') : R α (if p then act else other) (if p then act' else other') := by
  split
  · exact hact
  · exact hother

namespace Keeps
variable (h : Keeps R)
include h

theorem unsupported : R α t.unsupported t.unsupported :=
  h.throw id

theorem map {act act' : Reading α} (hact : R α act act') (f : α → β) :
    R β (do return f (← act)) (do return f (← act')) :=
  h.bind hact fun _ => h.pure _

theorem mapM {f f' : α → Reading β} {cs : List α} (hf : ∀ c ∈ cs, R β (f c) (f' c)) :
    R (List β) (cs.mapM f) (cs.mapM f') := by
  induction cs with
  | nil => exact h.pure _
  | cons c cs ih =>
    rw [List.forall_mem_cons] at hf
    rw [List.mapM_cons, List.mapM_cons]
    exact h.bind hf.1 fun _ => h.bind (ih hf.2) fun _ => h.pure _

theorem rejectGenerics : R Unit t.rejectGenerics t.rejectGenerics := by
  unfold Node.rejectGenerics
  split
  · exact h.unsupported
  · split
    · exact h.unsupported
    · exact h.pure _

/-! Children are lower than their node. -/

section
variable (ht : t.height ≤ n)
include ht

theorem entries {f f' : Node → Reading β} (hf : ∀ c, c.height < n → R β (f c) (f' c)) :
    R (List β) (t.entries.mapM f) (t.entries.mapM f') :=
  h.mapM fun c hc => hf c (entries_height_lt hc ht)

theorem option {f f' : Node → Reading β} (hf : ∀ c, c.height < n → R β (f c) (f' c)) :
    R (Option β) ((t.child? field).mapM f) ((t.child? field).mapM f') := by
  cases hc : t.child? field with
  | none => exact h.pure _
  | some c => exact h.map (hf c (child?_height_lt hc ht c rfl)) _

variable {k k' : Node → Reading α} (hk : ∀ c, c.height < n → R α (k c) (k' c))
include hk

theorem require : R α (t.require field >>= k) (t.require field >>= k') := by
  cases hc : t.child? field with
  | some c =>
    rw [Node.require, hc, pure_bind, pure_bind]
    exact hk c (child?_height_lt hc ht c rfl)
  | none =>
    rw [Node.require, hc]
    exact h.throw id

theorem firstEntry : R α (t.firstEntry >>= k) (t.firstEntry >>= k') := by
  cases hc : t.entries.head? with
  | some c =>
    rw [Node.firstEntry, hc, pure_bind, pure_bind]
    exact hk c (entries_height_lt (List.mem_of_head? hc) ht)
  | none =>
    rw [Node.firstEntry, hc]
    exact h.throw id

end

end Keeps

end Reading

/-! ## Expressions and types -/

namespace Readers.Related
open Reading (related_ite)

variable {r r' : Readers} (h : Reading.Keeps R) (hr : Related R r r' n)
include h hr

theorem exprList (ht : t.height < n) : R _ (r.exprList t) (r'.exprList t) :=
  related_ite (h.entries (Nat.le_of_lt ht) hr.expr) (h.map (hr.expr t ht) _)

theorem arg (ht : t.height < n) : R _ (r.arg t) (r'.arg t) := by
  unfold Readers.arg
  split
  · exact h.pure _
  · exact h.pure _
  · exact h.firstEntry (Nat.le_of_lt ht) fun c hc => h.map (hr.expr c hc) _
  · exact related_ite (h.map (hr.expr t ht) _) (h.pure _)

variable (ht : t.height ≤ n)
include ht

theorem boxed : R _ (r.boxed t field) (r'.boxed t field) :=
  h.require ht hr.expr

theorem optBoxed : R _ (r.optBoxed t field) (r'.optBoxed t field) := by
  unfold Readers.optBoxed
  cases hc : t.child? field with
  | none => exact h.pure _
  | some c => exact h.map (hr.expr c (child?_height_lt hc ht c rfl)) _

theorem optStmt : R _ (r.optStmt t field) (r'.optStmt t field) := by
  unfold Readers.optStmt
  cases hc : t.child? field with
  | none => exact h.pure _
  | some c => exact h.map (hr.stmt c (child?_height_lt hc ht c rfl)) _

theorem stmtList (skip : List Nat) : R _ (r.stmtList t skip) (r'.stmtList t skip) := by
  refine h.map (h.mapM fun c hc => ?_) _
  have hc : c.height < n := entries_height_lt (List.mem_of_mem_filter hc) ht
  exact related_ite (hr.stmts c hc) (h.map (hr.stmt c hc) _)

theorem block : R _ (r.block t) (r'.block t) :=
  h.map (hr.stmtList h ht []) _

theorem param : R _ (r.param t) (r'.param t) := by
  refine h.require ht fun c hc => h.bind (hr.expr c hc) fun _ => ?_
  split
  · exact h.pure _
  · exact h.pure _
  · exact h.unsupported

theorem params : R _ (r.params t) (r'.params t) :=
  h.entries ht fun _ hc => hr.param h (Nat.le_of_lt hc)

theorem signature : R _ (r.signature t) (r'.signature t) := by
  refine h.require ht fun c hc => h.bind (hr.params h (Nat.le_of_lt hc)) fun _ => ?_
  cases hresult : t.child? "result" with
  | none => exact h.pure _
  | some c =>
    have hc : c.height < n := child?_height_lt hresult ht c rfl
    exact related_ite (h.map (hr.params h (Nat.le_of_lt hc)) _) (h.map (hr.expr c hc) _)

theorem args : R _ (r.args t) (r'.args t) :=
  h.map (h.mapM fun _ hc => hr.arg h (Nat.lt_of_lt_of_le (height_lt_of_mem hc) ht)) _

theorem literalValue : R _ (r.literalValue t) (r'.literalValue t) :=
  h.entries ht hr.expr

theorem keyedElement : R _ (r.keyedElement t) (r'.keyedElement t) := by
  have height_lt {field : String} {o : Option Node} (ho : ∀ c ∈ o, c ∈ t.entries) {c : Node}
      (hc : (t.child? field <|> o) = some c) : c.height < n := by
    cases hchild : t.child? field with
    | some d =>
      rw [hchild] at hc
      cases hc
      exact child?_height_lt hchild ht c rfl
    | none =>
      rw [hchild] at hc
      exact entries_height_lt (ho c hc) ht
  unfold Readers.keyedElement
  dsimp only
  cases hkey : (t.child? "key" <|> t.entries.head?) with
  | none => exact h.throw id
  | some k =>
    cases hvalue : (t.child? "value" <|> t.entries.getLast?) with
    | none => exact h.throw id
    | some v =>
      have hk : k.height < n := height_lt (fun _ => List.mem_of_head?) hkey
      have hv : v.height < n := height_lt (fun _ => List.mem_of_getLast?) hvalue
      simp only [pure_bind]
      exact h.bind (hr.expr k hk) fun _ => h.map (hr.expr v hv) _

theorem structField : R _ (r.structField t) (r'.structField t) := by
  refine related_ite (h.bind h.unsupported fun _ => ?_) ?_
  all_goals
    exact h.require ht fun c hc => h.bind (hr.expr c hc) fun _ => related_ite (h.pure _) (h.pure _)

theorem structFields : R _ (r.structFields t) (r'.structFields t) :=
  h.entries ht fun _ hc => hr.structField h (Nat.le_of_lt hc)

theorem element (hlt : t.height < n) : R _ (r.element t) (r'.element t) := by
  have height_lt {c : Node} (hc : t.entries = [c]) : c.height < n :=
    entries_height_lt (hc ▸ List.mem_singleton_self c) ht
  unfold Readers.element
  split
  -- a type alone, or a union
  case h_3 | h_4 =>
    split
    · rename_i c hc
      exact h.map (hr.expr c (height_lt hc)) _
    · exact h.unsupported
  · exact h.bind (hr.signature h ht) fun _ => h.require ht fun _ _ => h.pure _
  · exact h.bind (hr.signature h ht) fun _ => h.require ht fun _ _ => h.pure _
  · exact h.map (hr.expr t hlt) _

theorem interface : R _ (r.interface t) (r'.interface t) :=
  h.entries ht fun _ hc => hr.element h (Nat.le_of_lt hc) hc

theorem sliceRule : R _ (r.sliceRule t) (r'.sliceRule t) :=
  h.bind (hr.boxed h ht) fun _ => h.bind (hr.optBoxed h ht) fun _ => h.bind (hr.optBoxed h ht) fun _ =>
    h.map (hr.optBoxed h ht) _

theorem callRule : R _ (r.callRule t) (r'.callRule t) :=
  h.bind h.rejectGenerics fun _ => h.require ht fun _ hc => h.bind (hr.args h (Nat.le_of_lt hc)) fun _ =>
    h.map (hr.boxed h ht) _

theorem unaryRule : R _ (r.unaryRule t) (r'.unaryRule t) :=
  h.require ht fun _ _ => h.bind (hr.boxed h ht) fun _ => related_ite (h.pure _) (h.pure _)

theorem exprKindRule : R _ (r.exprKindRule t) (r'.exprKindRule t) := by
  have hfirst (f : Expr → ExprKind) :
      R _ (do return f (← r.expr (← t.firstEntry))) (do return f (← r'.expr (← t.firstEntry))) :=
    h.firstEntry ht fun c hc => h.map (hr.expr c hc) f
  have htwo (left right : String) (f : Expr → Expr → ExprKind) :
      R _ (do return f (← r.boxed t left) (← r.boxed t right)) (do return f (← r'.boxed t left) (← r'.boxed t right)) :=
    h.bind (hr.boxed h ht) fun _ => h.map (hr.boxed h ht) _
  unfold Readers.exprKindRule
  -- by the kind of the node; names and literals have no nodes below
  split
  any_goals exact h.pure _
  · exact hfirst _
  · exact hfirst _
  · exact h.bind (hr.boxed h ht) fun _ => h.require ht fun _ _ => h.pure _
  · exact h.bind (hr.boxed h ht) fun _ => h.require ht fun _ _ => h.pure _
  · exact htwo _ _ _
  · exact hr.sliceRule h ht
  · exact htwo _ _ _
  · exact hr.callRule h ht
  · exact htwo _ _ _
  · exact hr.unaryRule h ht
  · exact h.bind (hr.boxed h ht) fun _ => h.require ht fun _ _ => h.map (hr.boxed h ht) _
  · exact h.bind (hr.boxed h ht) fun _ => h.require ht fun _ hc => h.map (hr.literalValue h (Nat.le_of_lt hc)) _
  · exact h.map (hr.literalValue h ht) _
  · exact h.firstEntry ht hr.exprKind
  · exact hr.keyedElement h ht
  · exact h.bind (hr.signature h ht) fun _ => h.require ht fun _ hc => h.map (hr.block h (Nat.le_of_lt hc)) _
  · exact hfirst _
  · exact htwo _ _ _
  · exact h.map (hr.boxed h ht) _
  · exact h.map (hr.boxed h ht) _
  · exact h.firstEntry ht fun _ hc => h.map (hr.structFields h (Nat.le_of_lt hc)) _
  · exact h.map (hr.interface h ht) _
  · exact htwo _ _ _
  · exact h.map (hr.boxed h ht) _
  · exact h.map (hr.signature h ht) _
  · exact h.unsupported

/-! ## Declarations -/

theorem spec : R _ (r.spec t) (r'.spec t) := by
  unfold Readers.spec
  split
  case h_1 | h_2 =>
    refine h.bind (hr.optBoxed h ht) fun _ => ?_
    cases hvalue : t.child? "value" with
    | none => exact h.pure _
    | some c => exact h.map (hr.exprList h (child?_height_lt hvalue ht c rfl)) _
  · exact h.bind h.rejectGenerics fun _ => h.require ht fun _ _ => h.map (hr.boxed h ht) _
  · exact h.bind h.rejectGenerics fun _ => h.require ht fun _ _ => h.map (hr.boxed h ht) _
  · exact h.unsupported

theorem genDecl : R _ (r.genDecl t) (r'.genDecl t) := by
  have hdeclToken : R _ (declToken t) (declToken t) := by
    unfold declToken
    split
    · exact h.pure _
    · exact h.pure _
    · exact h.pure _
    · exact h.throw id
  exact h.bind hdeclToken fun _ => h.map (h.entries ht fun c hc =>
    related_ite (h.entries (Nat.le_of_lt hc) fun d hd => hr.spec h (Nat.le_of_lt hd))
      (h.map (hr.spec h (Nat.le_of_lt hc)) _)) _

/-! ## Statements -/

theorem receiveRule : R _ (r.receiveRule t) (r'.receiveRule t) := by
  refine h.bind (hr.boxed h ht) fun _ => ?_
  cases hleft : t.child? "left" with
  | none => exact h.pure _
  | some c => exact h.map (hr.exprList h (child?_height_lt hleft ht c rfl)) _

theorem ifRule : R _ (r.ifRule t) (r'.ifRule t) :=
  h.bind (hr.optStmt h ht) fun _ => h.bind (hr.optStmt h ht) fun _ => h.bind (hr.boxed h ht) fun _ =>
    h.require ht fun _ hc => h.map (hr.block h (Nat.le_of_lt hc)) _

theorem rangeVars : R _ (r.rangeVars t) (r'.rangeVars t) := by
  unfold Readers.rangeVars
  cases hleft : t.child? "left" with
  | none => exact h.pure _
  | some c => exact h.map (hr.exprList h (child?_height_lt hleft ht c rfl)) _

theorem loopHeader (hlt : t.height < n) (body : Block) : R _ (r.loopHeader t body) (r'.loopHeader t body) := by
  unfold Readers.loopHeader
  split
  · exact h.bind (hr.optStmt h ht) fun _ => h.bind (hr.optBoxed h ht) fun _ => h.map (hr.optStmt h ht) _
  · exact h.bind (hr.rangeVars h ht) fun _ => h.map (hr.boxed h ht) _
  · exact h.map (hr.expr t hlt) _

theorem forRule : R _ (r.forRule t) (r'.forRule t) := by
  refine h.require ht fun b hb => h.bind (hr.block h (Nat.le_of_lt hb)) fun body => ?_
  cases hheader : t.entries.find? (·.nodeId != b.nodeId) with
  | none => exact h.pure _
  | some c =>
    have hc : c.height < n := entries_height_lt (List.mem_of_find?_eq_some hheader) ht
    exact hr.loopHeader h (Nat.le_of_lt hc) hc body

theorem defaultClause : R _ (r.defaultClause t) (r'.defaultClause t) :=
  h.map (hr.stmtList h ht []) _

theorem caseClause : R _ (r.caseClause t) (r'.caseClause t) := by
  unfold Readers.caseClause
  split
  · exact h.require ht fun c hc => h.bind (hr.exprList h hc) fun _ => h.map (hr.stmtList h ht _) _
  · exact h.map (hr.defaultClause h ht) _
  · exact h.pure _

theorem switchRule : R _ (r.switchRule t) (r'.switchRule t) :=
  h.bind (h.entries ht fun _ hc => hr.caseClause h (Nat.le_of_lt hc)) fun _ => h.bind (hr.optStmt h ht) fun _ =>
    h.map (hr.optBoxed h ht) _

theorem typeClause : R _ (r.typeClause t) (r'.typeClause t) := by
  unfold Readers.typeClause
  split
  · exact h.bind (h.mapM fun c hc => hr.expr c (entriesIn_height_lt hc ht)) fun _ => h.map (hr.stmtList h ht _) _
  · exact h.map (hr.defaultClause h ht) _
  · exact h.pure _

theorem typeSwitchAssign {value : Node} (hvalue : value.height < n) :
    R _ (r.typeSwitchAssign t value) (r'.typeSwitchAssign t value) := by
  refine h.bind (hr.expr value hvalue) fun _ => ?_
  cases halias : t.child? "alias" with
  | none => exact h.pure _
  | some c => exact h.map (hr.exprList h (child?_height_lt halias ht c rfl)) _

theorem typeSwitchRule : R _ (r.typeSwitchRule t) (r'.typeSwitchRule t) :=
  h.require ht fun _ hc => h.bind (hr.typeSwitchAssign h ht hc) fun _ =>
    h.bind (h.entries ht fun _ hc => hr.typeClause h (Nat.le_of_lt hc)) fun _ => h.map (hr.optStmt h ht) _

theorem commClause : R _ (r.commClause t) (r'.commClause t) := by
  unfold Readers.commClause
  split
  · exact h.require ht fun c hc => h.bind (hr.stmt c hc) fun _ => h.map (hr.stmtList h ht _) _
  · exact h.map (hr.stmtList h ht []) _
  · exact h.pure _

theorem selectRule : R _ (r.selectRule t) (r'.selectRule t) :=
  h.map (h.entries ht fun _ hc => hr.commClause h (Nat.le_of_lt hc)) _

theorem labeledRule : R _ (r.labeledRule t) (r'.labeledRule t) := by
  refine h.require ht fun l _ => ?_
  cases hstmt : t.entries.find? (·.nodeId != l.nodeId) with
  | none => exact h.pure _
  | some c =>
    exact h.map (hr.stmt c (entries_height_lt (List.mem_of_find?_eq_some hstmt) ht)) _

theorem stmtKindRule : R _ (r.stmtKindRule t) (r'.stmtKindRule t) := by
  have hfirst (f : Expr → StmtKind) :
      R _ (do return f (← r.expr (← t.firstEntry))) (do return f (← r'.expr (← t.firstEntry))) :=
    h.firstEntry ht fun c hc => h.map (hr.expr c hc) f
  unfold Readers.stmtKindRule
  split
  any_goals exact h.pure _
  · exact h.map (hr.genDecl h ht) _
  · exact h.map (hr.genDecl h ht) _
  · exact h.map (hr.genDecl h ht) _
  · exact hfirst _
  · exact h.bind (hr.boxed h ht) fun _ => h.map (hr.boxed h ht) _
  · exact hr.receiveRule h ht
  · exact hfirst _
  · exact hfirst _
  · exact h.require ht fun _ hc => h.bind (hr.exprList h hc) fun _ => h.require ht fun _ _ =>
      h.require ht fun _ hc => h.map (hr.exprList h hc) _
  · exact h.require ht fun _ hc => h.bind (hr.exprList h hc) fun _ => h.require ht fun _ hc =>
      h.map (hr.exprList h hc) _
  · cases hlist : t.entries.head? with
    | none => exact h.pure _
    | some c => exact h.map (hr.exprList h (entries_height_lt (List.mem_of_head? hlist) ht)) _
  · exact hfirst _
  · exact hfirst _
  · exact hr.labeledRule h ht
  · exact hr.labeledRule h ht
  · exact h.map (hr.block h ht) _
  · exact hr.ifRule h ht
  · exact hr.forRule h ht
  · exact hr.switchRule h ht
  · exact hr.typeSwitchRule h ht
  · exact hr.selectRule h ht
  · exact h.unsupported

/-! ## Source files -/

theorem funcDecl : R _ (r.funcDecl t) (r'.funcDecl t) :=
  h.bind h.rejectGenerics fun _ => h.bind (h.option ht fun _ hc => hr.params h (Nat.le_of_lt hc)) fun _ =>
    h.bind (h.option ht fun _ hc => hr.block h (Nat.le_of_lt hc)) fun _ => h.require ht fun _ _ =>
      h.map (hr.signature h ht) _

theorem topLevel : R _ (r.topLevel t) (r'.topLevel t) := by
  have himport {c : Node} : R _ (importSpec c) (importSpec c) :=
    h.require (Nat.le_refl _) fun _ _ => h.pure _
  have himports : R _ (importDecl t) (importDecl t) := by
    refine h.map (h.mapM fun c _ => ?_) _
    split
    · exact h.map himport _
    · exact h.mapM fun _ _ => himport
    · exact h.unsupported
  unfold Readers.topLevel
  split
  · exact h.firstEntry ht fun _ _ => h.pure _
  · exact h.map himports _
  · exact h.map (hr.funcDecl h ht) _
  · exact h.map (hr.funcDecl h ht) _
  · exact h.map (hr.genDecl h ht) _
  · exact h.map (hr.genDecl h ht) _
  · exact h.map (hr.genDecl h ht) _
  · exact h.unsupported

omit hr ht in
/-- Readers of higher trees are related as their rules are, one level deeper. -/
theorem upTo_succ {R' : ∀ α : Type, Reading α → Reading α → Prop} {l l' m m' : Nat}
    (hr : Related R (upTo l m) (upTo l' m') n) (hweak : ∀ {α : Type} {act act' : Reading α}, R α act act' → R' α act act')
    (hnested : ∀ {α : Type} (t : Node) {act act' : Reading α}, R α act act' → R' α (t.nested l act) (t.nested l' act')) :
    Related R' (upTo l (m + 1)) (upTo l' (m' + 1)) (n + 1) where
  expr c hc := hnested c (h.map (hr.exprKindRule h (Nat.le_of_lt_succ hc)) _)
  exprKind _ hc := hweak (hr.exprKindRule h (Nat.le_of_lt_succ hc))
  stmt c hc := hnested c (h.map (hr.stmtKindRule h (Nat.le_of_lt_succ hc)) _)
  stmts _ hc := hweak (hr.stmtList h (Nat.le_of_lt_succ hc) [])

end Readers.Related

/-- Reading a file is related as the readers of its tree are. -/
theorem readFile_related (h : Reading.Keeps R) {l l' : Nat}
    (hr : Readers.Related R (Readers.upTo l t.height) (Readers.upTo l' t.height) t.height) :
    R _ (readFile l t) (readFile l' t) := by
  have hparts (parts : List TopLevel) : R File (liftM (File.ofParts parts)) (liftM (File.ofParts parts)) := by
    cases hfile : File.ofParts parts with
    | ok f => exact h.pure f
    | error e =>
      refine h.throw fun he => ?_
      unfold File.ofParts at hfile
      split at hfile
      · cases hfile
      · cases hfile
        exact he
  refine Reading.related_ite (h.throw id) (h.bind (h.entries (Nat.le_refl _) fun _ hc => ?_) hparts)
  exact hr.topLevel h (Nat.le_of_lt hc)

end GoRebuild
