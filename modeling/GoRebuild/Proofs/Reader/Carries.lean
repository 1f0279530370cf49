import GoRebuild.Proofs.Parse.Parsers
import GoRebuild.Proofs.Tree.Moved

/-!
# Two readings of one derivation

Where tokens stand decides about positions, and how deep nodes may be nested decides about whether there is a tree. Both
decide about nothing else.

* `Reading.Carried g h r r'` : what a reading gives another gives too, unless the first is nested too deep: the same
  tree to `h`, or the same refusal at a place that is the same to `g`;
* `Reading.Carries g h act act'` : so it is with two readings at every depth;
* `Node.carries_read`, `Stmt.carries_read`, `Decl.carries_read`, `Func.carries_read`, `Item.carries_read` : what a
  derivation is read to in one setting it is read to in another with the same positions up to a move and no lower a limit;
* `File.ofParts_moved` : the file of parts that stand elsewhere is the file of the parts, elsewhere;
* `File.carries_read` : two sources with the same derivation are read to the same.
-/

namespace GoRebuild

/-- A failure at another position. -/
def ReadError.moved (g : Pos → Pos) : ReadError → ReadError
  | gaveUp => gaveUp
  | badSyntax pos => badSyntax (g pos)
  | noPackage => noPackage
  | missingField kind field pos => missingField kind field (g pos)
  | emptyNode kind pos => emptyNode kind (g pos)
  | unsupported kind pos => unsupported kind (g pos)
  | unexpectedNode expected got pos => unexpectedNode expected got (g pos)
  | tooDeep limit pos => tooDeep limit (g pos)

theorem ReadError.moved_id (e : ReadError) : e.moved id = e := by
  cases e <;> rfl

/-- A setting has the positions of another, up to a move, and no higher a limit. -/
structure Setting.Below (g : Pos → Pos) (s s' : Setting) : Prop where
  pos : ∀ place, g (s.pos place) = g (s'.pos place)
  limit : s.limit ≤ s'.limit

namespace Reading

variable {α β γ δ : Type}

/-- Unless the first is nested too deep, two readings give the same to a function, or refuse the same. -/
inductive Carried (g : Pos → Pos) (h : α → γ) : Except ReadError α → Except ReadError α → Prop
  | ok {x x'} : h x = h x' → Carried g h (.ok x) (.ok x')
  | error {e e'} : e.moved g = e'.moved g → Carried g h (.error e) (.error e')
  | tooDeep {limit pos r} : Carried g h (.error (.tooDeep limit pos)) r

/-- What one reading gives another gives too, at every depth where the first is not nested too deep. -/
def Carries (g : Pos → Pos) (h : α → γ) (act act' : Reading α) : Prop :=
  ∀ depth, Carried g h (act depth) (act' depth)

variable {g : Pos → Pos} {h : α → γ} {act act' : Reading α}

theorem Carries.pure {x x' : α} (hx : h x = h x') : Carries g h (pure x) (pure x') :=
  fun _ => .ok hx

theorem Carries.bind {k : β → δ} {f f' : α → Reading β} (hact : Carries g h act act')
    (hf : ∀ x x', h x = h x' → Carries g k (f x) (f' x')) : Carries g k (act >>= f) (act' >>= f') := by
  intro depth
  have hcarried := hact depth
  change Carried g k (act depth >>= fun x => f x depth) (act' depth >>= fun x => f' x depth)
  generalize act depth = r at hcarried
  generalize act' depth = r' at hcarried
  cases hcarried with
  | ok hx => exact hf _ _ hx depth
  | error he => exact .error he
  | tooDeep => exact .tooDeep

/-- A step whose result is only passed on. -/
theorem Carries.map {k : β → δ} {f f' : α → β} (hact : Carries g h act act')
    (hf : ∀ x x', h x = h x' → k (f x) = k (f' x')) :
    Carries g k (act >>= fun x => Pure.pure (f x)) (act' >>= fun x => Pure.pure (f' x)) :=
  hact.bind fun x x' hx => .pure (hf x x' hx)

theorem Carries.visit {s s' : Setting} (hs : s.Below g s') (start : Lexical.Place)
    (hact : Carries g h act act') : Carries g h (visit s start act) (visit s' start act') := by
  intro depth
  unfold Reading.visit
  split
  · exact .tooDeep
  · have hlimit := hs.limit
    rw [if_neg (by omega)]
    exact hact (depth + 1)

theorem Carries.refuse {s s' : Setting} (hs : s.Below g s') (kind : String) (place : Lexical.Place) :
    Carries g h (refuse s kind place : Reading α) (refuse s' kind place) :=
  fun _ => .error (by simp only [ReadError.moved, hs.pos])

end Reading

theorem Expr.movedOption_head? (g : Pos → Pos) (xs : List Expr) :
    Expr.movedOption g xs.head? = (Expr.movedList g xs).head? := by
  cases xs <;> rfl

/-! ## Moving the parts of a file -/

/-- What stands at top level, elsewhere. -/
def TopLevel.moved (g : Pos → Pos) : TopLevel → TopLevel
  | package n => package (n.moved g)
  | decl d => decl (d.moved g)

section
variable (g : Pos → Pos)

theorem Spec.import?_movedList (specs : List Spec) :
    (Spec.movedList g specs).filterMap Spec.import? = (specs.filterMap Spec.import?).map (ImportSpec.moved g) := by
  induction specs with
  | nil => rfl
  | cons x xs ih =>
    cases x with
    | imported i => exact congrArg (i.moved g :: ·) ih
    | value _ _ _ => exact ih
    | type _ _ _ => exact ih

theorem Decl.imports_moved : ∀ d : Decl, (d.moved g).imports = d.imports.map (ImportSpec.moved g)
  | gen (.mk _ _ _ specs) => Spec.import?_movedList g specs
  | func _ => rfl

theorem TopLevel.decls_moved (parts : List TopLevel) :
    (parts.map (TopLevel.moved g)).filterMap TopLevel.decl? = (parts.filterMap TopLevel.decl?).map (Decl.moved g) := by
  induction parts with
  | nil => rfl
  | cons p ps ih =>
    cases p with
    | package n => exact ih
    | decl d => exact congrArg (d.moved g :: ·) ih

theorem TopLevel.packages_moved (parts : List TopLevel) :
    (parts.map (TopLevel.moved g)).filterMap TopLevel.package? =
      (parts.filterMap TopLevel.package?).map (Ident.moved g) := by
  induction parts with
  | nil => rfl
  | cons p ps ih =>
    cases p with
    | package n => exact congrArg (n.moved g :: ·) ih
    | decl d => exact ih

/-- The file of parts that stand elsewhere is the file of the parts, elsewhere. -/
theorem File.ofParts_moved (parts : List TopLevel) :
    File.ofParts (parts.map (TopLevel.moved g)) = (File.ofParts parts).map (File.moved g) := by
  rw [File.ofParts, TopLevel.packages_moved, TopLevel.decls_moved, List.getLast?_map, File.ofParts]
  cases (parts.filterMap TopLevel.package?).getLast? with
  | none => rfl
  | some n =>
    simp only [Option.map_some, Except.map, File.moved, List.map_flatMap, List.flatMap_map, Decl.imports_moved]

end

namespace Grammar
open Lexical (Place)
open Reading

/-! ## Expressions, statements and declarations -/

section
variable {g : Pos → Pos} {s s' : Setting} (hs : s.Below g s')
include hs

theorem Name.moved_ident (n : Name) : (n.ident s).moved g = (n.ident s').moved g := by
  simp only [Name.ident, Ident.moved, hs.pos]

theorem moved_idents (ns : List Name) :
    (ns.map (Name.ident s)).map (Ident.moved g) = (ns.map (Name.ident s')).map (Ident.moved g) := by
  rw [List.map_map, List.map_map]
  exact List.map_congr_left fun n _ => n.moved_ident hs

-- some rules need the hypothesis only for the rules that they call
set_option linter.unusedSectionVars false

mutual

theorem Node.carries_read : ∀ x : Node, Carries g (Expr.moved g) (x.read s) (x.read s')
  | .mk k p => .visit hs p ((k.carries_read p).map fun _ _ hk => by simp only [Expr.moved, hk, hs.pos])
termination_by structural x => x

theorem NodeKind.carries_read (start : Place) :
    ∀ k : NodeKind, Carries g (ExprKind.moved g) (k.read s start) (k.read s' start)
  | .name _ => .pure rfl
  | .literal _ => .pure rfl
  | .paren x => x.carries_read.map fun _ _ hx => by simp only [ExprKind.moved, hx]
  | .select x n => x.carries_read.map fun _ _ hx => by simp only [ExprKind.moved, hx, n.moved_ident hs]
  | .index x i => x.carries_read.bind fun _ _ hx => i.carries_read.map fun _ _ hi => by
    simp only [ExprKind.moved, hx, hi]
  | .slice x low high => x.carries_read.bind fun _ _ hx => (carries_readOption low).bind fun _ _ hlow =>
    (carries_readOption high).map fun _ _ hhigh => by simp only [ExprKind.moved, hx, hlow, hhigh]
  | .slice3 x low high max => x.carries_read.bind fun _ _ hx => (carries_readOption low).bind fun _ _ hlow =>
    high.carries_read.bind fun _ _ hhigh => max.carries_read.map fun _ _ hmax => by
      simp only [ExprKind.moved, Expr.movedOption, hx, hlow, hhigh, hmax]
  | .assert x t => x.carries_read.bind fun _ _ hx => t.carries_read.map fun _ _ ht => by
    simp only [ExprKind.moved, Expr.movedOption, hx, ht]
  | .call f as => (carries_readArgs as).bind fun _ _ has => f.carries_read.map fun _ _ hf => by
    simp only [ExprKind.moved, has, hf]
  | .convert t x => t.carries_read.bind fun _ _ ht => x.carries_read.map fun _ _ hx => by
    simp only [ExprKind.moved, Expr.movedList, ht, hx]
  | .star x => x.carries_read.map fun _ _ hx => by simp only [ExprKind.moved, hx]
  | .unary _ x => x.carries_read.map fun _ _ hx => by simp only [ExprKind.moved, hx]
  | .binary x _ y => x.carries_read.bind fun _ _ hx => y.carries_read.map fun _ _ hy => by
    simp only [ExprKind.moved, hx, hy]
  | .composite t es => t.carries_read.bind fun _ _ ht => (carries_readAll es).map fun _ _ hes => by
    simp only [ExprKind.moved, Expr.movedOption, ht, hes]
  | .braces es => (carries_readAll es).map fun _ _ hes => by simp only [ExprKind.moved, Expr.movedOption, hes]
  | .keyed k v => k.carries_read.bind fun _ _ hk => v.carries_read.map fun _ _ hv => by
    simp only [ExprKind.moved, hk, hv]
  | .func t b => t.carries_read.bind fun _ _ ht => b.carries_read.map fun _ _ hb => by
    simp only [ExprKind.moved, ht, hb]
  | .array n t => n.carries_read.bind fun _ _ hn => t.carries_read.map fun _ _ ht => by
    simp only [ExprKind.moved, Expr.movedOption, hn, ht]
  | .openArray t => t.carries_read.map fun _ _ ht => by
    simp only [ExprKind.moved, Expr.movedOption, Expr.moved, hs.pos, ht]
  | .sliceOf t => t.carries_read.map fun _ _ ht => by simp only [ExprKind.moved, Expr.movedOption, ht]
  | .struct ms => (carries_readMembers ms).map fun _ _ hms => by simp only [ExprKind.moved, hms]
  | .interface es => (carries_readElements es).map fun _ _ hes => by simp only [ExprKind.moved, hes]
  | .map k v => k.carries_read.bind fun _ _ hk => v.carries_read.map fun _ _ hv => by
    simp only [ExprKind.moved, hk, hv]
  | .chan _ v => v.carries_read.map fun _ _ hv => by simp only [ExprKind.moved, hv]
  | .funcType t => t.carries_read.map fun _ _ ht => by simp only [ExprKind.moved, ht]
  | .generic form bracket => .refuse hs _ (form.place start bracket)
termination_by structural k => k

theorem carries_readOption :
    ∀ x : Option Node, Carries g (Expr.movedOption g) (readOption s x) (readOption s' x)
  | none => .pure rfl
  | some x => x.carries_read.map fun _ _ hx => by simp only [Expr.movedOption, hx]
termination_by structural x => x

theorem carries_readAll : ∀ xs : List Node, Carries g (Expr.movedList g) (readAll s xs) (readAll s' xs)
  | [] => .pure rfl
  | x :: xs => x.carries_read.bind fun _ _ hx => (carries_readAll xs).map fun _ _ hxs => by
    simp only [Expr.movedList, hx, hxs]
termination_by structural xs => xs

theorem carries_readArgs : ∀ as : List Arg, Carries g (Expr.movedList g) (readArgs s as) (readArgs s' as)
  | [] => .pure rfl
  | .plain x :: as => x.carries_read.bind fun _ _ hx => (carries_readArgs as).map fun _ _ has => by
    simp only [Expr.movedList, hx, has]
  | .spread x :: as => x.carries_read.bind fun _ _ hx => (carries_readArgs as).map fun _ _ has => by
    simp only [Expr.movedList, hx, has]
termination_by structural as => as

theorem Signature.carries_read : ∀ t : Signature, Carries g (FuncType.moved g) (t.read s) (t.read s')
  | .mk ps none => (carries_readParams ps).map fun _ _ hps => by
    simp only [FuncType.moved, Field.movedResults, hps]
  | .mk ps (some rs) => (carries_readParams ps).bind fun _ _ hps => (carries_readParams rs).map fun _ _ hrs => by
    simp only [FuncType.moved, Field.movedResults, hps, hrs]
termination_by structural t => t

theorem carries_readParams : ∀ ps : List Param, Carries g (Field.movedList g) (readParams s ps) (readParams s' ps)
  | [] => .pure rfl
  | .mk ns none t :: ps => t.carries_read.bind fun _ _ ht => (carries_readParams ps).map fun _ _ hps => by
    simp only [Field.movedList, Field.moved, moved_idents hs ns, ht, hps]
  | .mk ns (some _) t :: ps => t.carries_read.bind fun _ _ ht => (carries_readParams ps).map fun _ _ hps => by
    simp only [Field.movedList, Field.moved, Expr.moved, ExprKind.moved, Expr.movedOption, moved_idents hs ns, hs.pos,
      ht, hps]
termination_by structural ps => ps

theorem carries_readMembers :
    ∀ ms : List Member, Carries g (Field.movedList g) (readMembers s ms) (readMembers s' ms)
  | [] => .pure rfl
  | .named n ns t _ :: ms => t.carries_read.bind fun _ _ ht => (carries_readMembers ms).map fun _ _ hms => by
    simp only [Field.movedList, Field.moved, moved_idents hs (n :: ns), ht, hms]
  | .embedded none t _ :: ms => t.carries_read.bind fun _ _ ht => (carries_readMembers ms).map fun _ _ hms => by
    simp only [Field.movedList, Field.moved, ht, hms]
  | .embedded (some _) t _ :: ms => t.carries_read.bind fun _ _ ht => (carries_readMembers ms).map fun _ _ hms => by
    simp only [Field.movedList, Field.moved, Expr.moved, ExprKind.moved, hs.pos, ht, hms]
termination_by structural ms => ms

theorem carries_readElements :
    ∀ es : List Element, Carries g (Field.movedList g) (readElements s es) (readElements s' es)
  | [] => .pure rfl
  | .method n t :: es => t.carries_read.bind fun _ _ ht => (carries_readElements es).map fun _ _ hes => by
    simp only [Field.movedList, Field.moved, Expr.moved, ExprKind.moved, List.map_cons, List.map_nil,
      n.moved_ident hs, hs.pos, ht, hes]
  | .embedded t :: es => t.carries_read.bind fun _ _ ht => (carries_readElements es).map fun _ _ hes => by
    simp only [Field.movedList, Field.moved, ht, hes]
  | .union start :: _ => .refuse hs _ start
termination_by structural es => es

theorem Block.carries_read : ∀ b : Block, Carries g (GoRebuild.Block.moved g) (b.read s) (b.read s')
  | .mk ss _ => (carries_readStmts ss).map fun _ _ hss => by simp only [GoRebuild.Block.moved, hss, hs.pos]
termination_by structural b => b

theorem Stmt.carries_read : ∀ x : Stmt, Carries g (GoRebuild.Stmt.moved g) (x.read s) (x.read s')
  | .mk k p => .visit hs p ((k.carries_read p).map fun _ _ hk => by simp only [GoRebuild.Stmt.moved, hk, hs.pos])
termination_by structural x => x

theorem carries_readStmts :
    ∀ ss : List Stmt, Carries g (GoRebuild.Stmt.movedList g) (readStmts s ss) (readStmts s' ss)
  | [] => .pure rfl
  | x :: xs => x.carries_read.bind fun _ _ hx => (carries_readStmts xs).map fun _ _ hxs => by
    simp only [GoRebuild.Stmt.movedList, hx, hxs]
termination_by structural ss => ss

theorem carries_readStmt? :
    ∀ x : Option Stmt, Carries g (GoRebuild.Stmt.movedOption g) (readStmt? s x) (readStmt? s' x)
  | none => .pure rfl
  | some x => x.carries_read.map fun _ _ hx => by simp only [GoRebuild.Stmt.movedOption, hx]
termination_by structural x => x

theorem StmtKind.carries_read (start : Place) :
    ∀ k : StmtKind, Carries g (GoRebuild.StmtKind.moved g) (k.read s start) (k.read s' start)
  | .decl d => (d.carries_read start).map fun _ _ hd => by simp only [GoRebuild.StmtKind.moved, hd]
  | .expr x => x.carries_read.map fun _ _ hx => by simp only [GoRebuild.StmtKind.moved, hx]
  | .send x y => x.carries_read.bind fun _ _ hx => y.carries_read.map fun _ _ hy => by
    simp only [GoRebuild.StmtKind.moved, hx, hy]
  | .step x _ => x.carries_read.map fun _ _ hx => by simp only [GoRebuild.StmtKind.moved, hx]
  | .assign l _ r => (carries_readAll l).bind fun _ _ hl => (carries_readAll r).map fun _ _ hr => by
    simp only [GoRebuild.StmtKind.moved, hl, hr]
  | .receive l _ y => y.carries_read.bind fun _ _ hy => (carries_readAll l).map fun _ _ hl => by
    simp only [GoRebuild.StmtKind.moved, Expr.movedList, hy, hl]
  | .returnStmt rs => (carries_readAll rs).map fun _ _ hrs => by simp only [GoRebuild.StmtKind.moved, hrs]
  | .goStmt x => x.carries_read.map fun _ _ hx => by simp only [GoRebuild.StmtKind.moved, hx]
  | .deferStmt x => x.carries_read.map fun _ _ hx => by simp only [GoRebuild.StmtKind.moved, hx]
  | .labeled n none => .pure (by simp only [GoRebuild.StmtKind.moved, GoRebuild.Stmt.moved, n.moved_ident hs, hs.pos])
  | .labeled n (some x) => x.carries_read.map fun _ _ hx => by
    simp only [GoRebuild.StmtKind.moved, n.moved_ident hs, hx]
  | .branch jump => .pure (by cases jump.label <;> simp only [GoRebuild.StmtKind.moved, Option.map, Name.moved_ident hs])
  | .block (.mk ss _) => (carries_readStmts ss).map fun _ _ hss => by
    simp only [GoRebuild.StmtKind.moved, GoRebuild.Block.moved, hss, hs.pos]
  | .empty => .pure rfl
  | .conditional c => c.carries_read
  | .loop h b => b.carries_read.bind fun _ _ hb => h.carries_read hb
  | .switch i t cs => (carries_readClauses cs).bind fun _ _ hcs => (carries_readStmt? i).bind fun _ _ hi =>
    (carries_readOption t).map fun _ _ ht => by
      simp only [GoRebuild.StmtKind.moved, GoRebuild.Block.moved, hcs, hi, ht, hs.pos]
  | .typeSwitch i ns x cs => x.carries_read.bind fun _ _ hx => (carries_readAll ns).bind fun _ _ hns =>
    (carries_readClauses cs).bind fun _ _ hcs => (carries_readStmt? i).map fun _ _ hi => by
      cases ns <;>
        simp only [GoRebuild.StmtKind.moved, GoRebuild.Stmt.moved, GoRebuild.Block.moved, Expr.moved, ExprKind.moved,
          Expr.movedList, Expr.movedOption, hx, hns, hcs, hi, hs.pos]
  | .select cs => (carries_readCommClauses cs).map fun _ _ hcs => by
    simp only [GoRebuild.StmtKind.moved, GoRebuild.Block.moved, hcs, hs.pos]
termination_by structural k => k

theorem Conditional.carries_read :
    ∀ c : Conditional, Carries g (GoRebuild.StmtKind.moved g) (c.read s) (c.read s')
  | .mk i c b e _ => (carries_readElse e).bind fun _ _ he => (carries_readStmt? i).bind fun _ _ hi =>
    c.carries_read.bind fun _ _ hc => b.carries_read.map fun _ _ hb => by
      simp only [GoRebuild.StmtKind.moved, he, hi, hc, hb]
termination_by structural c => c

theorem carries_readElse :
    ∀ e : Option Else, Carries g (GoRebuild.Stmt.movedOption g) (readElse s e) (readElse s' e)
  | none => .pure rfl
  | some (.block (.mk ss p)) => .visit hs p ((carries_readStmts ss).map fun _ _ hss => by
    simp only [GoRebuild.Stmt.movedOption, GoRebuild.Stmt.moved, GoRebuild.StmtKind.moved, GoRebuild.Block.moved, hss,
      hs.pos])
  | some (.chain c) => .visit hs c.start (c.carries_read.map fun _ _ hc => by
    simp only [GoRebuild.Stmt.movedOption, GoRebuild.Stmt.moved, hc, hs.pos])
termination_by structural e => e

theorem LoopHeader.carries_read (h : LoopHeader) {b b' : GoRebuild.Block} (hb : b.moved g = b'.moved g) :
    Carries g (GoRebuild.StmtKind.moved g) (h.read s b) (h.read s' b') :=
  match h with
  | .forever => .pure (by simp only [GoRebuild.StmtKind.moved, hb])
  | .while c => c.carries_read.map fun _ _ hc => by
    simp only [GoRebuild.StmtKind.moved, Expr.movedOption, hc, hb]
  | .steps i c p => (carries_readStmt? i).bind fun _ _ hi => (carries_readOption c).bind fun _ _ hc =>
    (carries_readStmt? p).map fun _ _ hp => by simp only [GoRebuild.StmtKind.moved, hi, hc, hp, hb]
  | .over x => x.carries_read.map fun _ _ hx => by
    simp only [GoRebuild.StmtKind.moved, hx, hb]
  | .assigning k more _ x => k.carries_read.bind fun _ _ hk => (carries_readAll more).bind fun _ _ hmore =>
    x.carries_read.map fun _ _ hx => by
      simp only [GoRebuild.StmtKind.moved, Expr.movedOption, Expr.movedOption_head?, hk, hmore, hx, hb]
termination_by structural h

theorem carries_readClauses :
    ∀ cs : List Clause, Carries g (GoRebuild.Stmt.movedList g) (readClauses s cs) (readClauses s' cs)
  | [] => .pure rfl
  | .case x xs b _ :: cs => x.carries_read.bind fun _ _ hx => (carries_readAll xs).bind fun _ _ hxs =>
    (carries_readStmts b).bind fun _ _ hb => (carries_readClauses cs).map fun _ _ hcs => by
      simp only [GoRebuild.Stmt.movedList, GoRebuild.Stmt.moved, GoRebuild.StmtKind.moved, Expr.movedList, hx, hxs, hb,
        hcs, hs.pos]
  | .otherwise b _ :: cs => (carries_readStmts b).bind fun _ _ hb => (carries_readClauses cs).map fun _ _ hcs => by
    simp only [GoRebuild.Stmt.movedList, GoRebuild.Stmt.moved, GoRebuild.StmtKind.moved, hb, hcs, hs.pos]
termination_by structural cs => cs

theorem carries_readCommClauses :
    ∀ cs : List CommClause, Carries g (GoRebuild.Stmt.movedList g) (readCommClauses s cs) (readCommClauses s' cs)
  | [] => .pure rfl
  | .mk c b _ :: cs => (carries_readStmt? c).bind fun _ _ hc => (carries_readStmts b).bind fun _ _ hb =>
    (carries_readCommClauses cs).map fun _ _ hcs => by
      simp only [GoRebuild.Stmt.movedList, GoRebuild.Stmt.moved, GoRebuild.StmtKind.moved, hc, hb, hcs, hs.pos]
termination_by structural cs => cs

theorem Decl.carries_read (start : Place) : ∀ d : Decl, Carries g (GenDecl.moved g) (d.read s start) (d.read s' start)
  | .value _ x _ => x.carries_read.map fun _ _ hx => by simp only [GenDecl.moved, Spec.movedList, hx, hs.pos]
  | .values _ xs _ => (carries_readValueSpecs xs).map fun _ _ hxs => by simp only [GenDecl.moved, hxs, hs.pos]
  | .type x _ => x.carries_read.map fun _ _ hx => by simp only [GenDecl.moved, Spec.movedList, hx, hs.pos]
  | .types xs _ => (carries_readTypeSpecs xs).map fun _ _ hxs => by simp only [GenDecl.moved, hxs, hs.pos]
termination_by structural d => d

theorem ValueSpec.carries_read : ∀ x : ValueSpec, Carries g (Spec.moved g) (x.read s) (x.read s')
  | .mk n ns t vs => (carries_readOption t).bind fun _ _ ht => (carries_readAll vs).map fun _ _ hvs => by
    simp only [Spec.moved, moved_idents hs (n :: ns), ht, hvs]
termination_by structural x => x

theorem carries_readValueSpecs :
    ∀ xs : List ValueSpec, Carries g (Spec.movedList g) (readValueSpecs s xs) (readValueSpecs s' xs)
  | [] => .pure rfl
  | x :: xs => x.carries_read.bind fun _ _ hx => (carries_readValueSpecs xs).map fun _ _ hxs => by
    simp only [Spec.movedList, hx, hxs]
termination_by structural xs => xs

theorem TypeSpec.carries_read : ∀ x : TypeSpec, Carries g (Spec.moved g) (x.read s) (x.read s')
  | .mk _ (some params) _ _ => .refuse hs _ params
  | .mk n none _ t => t.carries_read.map fun _ _ ht => by simp only [Spec.moved, n.moved_ident hs, ht]
termination_by structural x => x

theorem carries_readTypeSpecs :
    ∀ xs : List TypeSpec, Carries g (Spec.movedList g) (readTypeSpecs s xs) (readTypeSpecs s' xs)
  | [] => .pure rfl
  | x :: xs => x.carries_read.bind fun _ _ hx => (carries_readTypeSpecs xs).map fun _ _ hxs => by
    simp only [Spec.movedList, hx, hxs]
termination_by structural xs => xs

end

/-! ## Entries at top level -/

theorem Func.carries_read (f : Func) : Carries g (FuncDecl.moved g) (f.read s) (f.read s') := by
  obtain ⟨recv, n, params, sig, body, start⟩ := f
  unfold Func.read
  cases params with
  | some p =>
    exact fun _ => .error (by simp only [ReadError.moved, hs.pos])
  | none =>
    have hrecv : Carries g (Field.movedResults g) (recv.mapM (readParams s)) (recv.mapM (readParams s')) := by
      cases recv with
      | none => exact .pure rfl
      | some ps => exact (carries_readParams hs ps).map fun _ _ hps => by simp only [Field.movedResults, hps]
    have hbody : Carries g (Option.map (GoRebuild.Block.moved g)) (body.mapM (Block.read s))
        (body.mapM (Block.read s')) := by
      cases body with
      | none => exact .pure rfl
      | some b => exact (b.carries_read hs).map fun _ _ hb => by simp only [Option.map_some, hb]
    exact hrecv.bind fun _ _ hrecv => hbody.bind fun _ _ hbody => (sig.carries_read hs).map fun _ _ hsig => by
      simp only [FuncDecl.moved, n.moved_ident hs, hrecv, hbody, hsig, hs.pos]

theorem Import.moved_read (i : Import) : (i.read s).moved g = (i.read s').moved g := by
  simp only [Import.read, ImportSpec.moved, hs.pos]

theorem Item.carries_read (i : Item) : Carries g (TopLevel.moved g) (i.read s) (i.read s') := by
  cases i with
  | package n => exact .pure (by simp only [TopLevel.moved, n.moved_ident hs])
  | importOne i start =>
    refine .pure ?_
    simp only [TopLevel.moved, Decl.moved, GenDecl.moved, Spec.movedList, Spec.moved, i.moved_read hs, hs.pos]
  | imports is start =>
    refine .pure ?_
    have hspecs : Spec.movedList g (is.map fun i => .imported (i.read s)) =
        Spec.movedList g (is.map fun i => .imported (i.read s')) := by
      induction is with
      | nil => rfl
      | cons i is ih => simp only [List.map_cons, Spec.movedList, Spec.moved, i.moved_read hs, ih]
    simp only [TopLevel.moved, Decl.moved, GenDecl.moved, hspecs, hs.pos]
  | func f => exact (f.carries_read hs).map fun _ _ hf => by simp only [TopLevel.moved, Decl.moved, hf]
  | stmt x =>
    obtain ⟨k, p⟩ := x
    cases k with
    | decl d => exact (d.carries_read hs p).map fun _ _ hd => by simp only [TopLevel.moved, Decl.moved, hd]
    | _ => exact .refuse hs _ p

theorem carries_readItems (items : List Item) :
    Carries g (List.map (TopLevel.moved g)) (items.mapM fun i : Item => i.read s)
      (items.mapM fun i : Item => i.read s') := by
  induction items with
  | nil => exact .pure rfl
  | cons i is ih =>
    rw [List.mapM_cons, List.mapM_cons]
    exact (i.carries_read hs).bind fun _ _ hi => ih.map fun _ _ his => by rw [List.map_cons, List.map_cons, hi, his]

/-- What the file of some items is in one setting it is in the other. -/
theorem ofParts_carried (items : List Item) :
    Carried g (File.moved g) ((items.mapM fun i : Item => i.read s).run 0 >>= File.ofParts)
      ((items.mapM fun i : Item => i.read s').run 0 >>= File.ofParts) := by
  have hitems : Carried g _ ((items.mapM fun i : Item => i.read s).run 0)
      ((items.mapM fun i : Item => i.read s').run 0) :=
    carries_readItems hs items 0
  generalize (items.mapM fun i : Item => i.read s).run 0 = r at hitems ⊢
  generalize (items.mapM fun i : Item => i.read s').run 0 = r' at hitems ⊢
  cases hitems with
  | @ok parts parts' hparts =>
    have hfile : (File.ofParts parts).map (File.moved g) = (File.ofParts parts').map (File.moved g) := by
      rw [← File.ofParts_moved, ← File.ofParts_moved, hparts]
    change Carried g (File.moved g) (File.ofParts parts) (File.ofParts parts')
    generalize File.ofParts parts = file at hfile
    generalize File.ofParts parts' = file' at hfile
    match file, file', hfile with
    | .error e, .error _, rfl => exact .error rfl
    | .ok f, .ok f', hfile => exact .ok (Except.ok.inj hfile)
  | error he => exact .error he
  | tooDeep => exact .tooDeep

end

end Grammar

open Grammar Lexical Reading

/-- What a source is read to, another with the same derivation is read to, up to a move of its positions. -/
theorem File.carries_read {parser : SourceParser} {g : Pos → Pos} {source source' : String} {items : List Item}
    {pos pos' : Place → Pos} (h : parser.Derives source items pos) (h' : parser.Derives source' items pos')
    {limit limit' : Nat} (hs : Setting.Below g ⟨pos, limit⟩ ⟨pos', limit'⟩) :
    Carried g (File.moved g) (File.read parser limit source) (File.read parser limit' source') := by
  rw [File.read_derived h, File.read_derived h']
  exact ofParts_carried hs items

end GoRebuild
