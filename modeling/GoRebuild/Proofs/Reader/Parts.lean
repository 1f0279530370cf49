import GoRebuild.Proofs.Parse.Simple
import GoRebuild.Proofs.Reader.Carries
import GoRebuild.Proofs.Reader.Complete

/-!
# The tree of a source of imports and functions

* `Node.Denotes x e` : a derivation in which nothing is refused, and every reading of which gives a tree; `Stmt.Denotes`,
  `Signature.Denotes`, `Func.Denotes`, `Item.Denotes` : the same of what expressions stand in;
* `Primary.Forms.denotes`, `Line.Forms.denotes`, `Routine.Forms.denotes`, `Part.Forms.denotes` : what was written denotes
  the tree of it;
* `File.exists_read` : from some limit on, a source whose tokens are those of parts is read to the file of what they
  become.
-/

namespace GoRebuild.Grammar
open Lexical Reading
open Outline (refusals_append)

/-! ## Expressions -/

/-- Nothing is refused in a derivation, and every reading of it gives a tree. -/
structure Node.Denotes (x : Node) (e : Expr) : Prop where
  plain : x.outline.refusals = []
  reads : ∀ s, Gives (x.read s) (·.moved .nowhere = e)

/-- The same of arguments, none of which is spread. -/
structure ArgsDenote (as : List Arg) (es : List Expr) : Prop where
  plain : (Arg.outlineList as).refusals = []
  reads : ∀ s, Gives (readArgs s as) (Expr.movedList .nowhere · = es)
  not_spread : as.any Arg.isSpread = false

theorem Node.denotes {kind : NodeKind} {kind' : ExprKind} (start : Place) (hplain : (kind.outline start).refusals = [])
    (hreads : ∀ s, Gives (kind.read s start) (·.moved .nowhere = kind')) : (Node.mk kind start).Denotes (.mk kind' .none) := by
  constructor
  · rw [Node.outline, Outline.node, Outline.refusals, Outline.refusals, List.append_nil, hplain]
  · intro s
    rw [Node.read]
    refine .visit s start (.bind (hreads s) fun y hy => .pure ?_)
    rw [Expr.moved, hy]

section
variable {x : Node} {e : Expr}

theorem Node.Denotes.select (h : x.Denotes e) (m : Name) (start : Place) :
    (Node.mk (.select x m) start).Denotes (.mk (.selector e ⟨m.text, .none⟩) .none) := by
  refine Node.denotes start h.plain fun s => .bind (h.reads s) fun y hy => .pure ?_
  rw [ExprKind.moved, hy]
  rfl

theorem Node.Denotes.star (h : x.Denotes e) (start : Place) : (Node.mk (.star x) start).Denotes (.mk (.star e) .none) := by
  refine Node.denotes start h.plain fun s => .bind (h.reads s) fun y hy => .pure ?_
  rw [ExprKind.moved, hy]

theorem Node.Denotes.call {as : List Arg} {es : List Expr} (h : x.Denotes e) (has : ArgsDenote as es) (start : Place) :
    (Node.mk (.call x as) start).Denotes (.mk (.call e es false) .none) := by
  refine Node.denotes start ?_ fun s => .bind (has.reads s) fun ys hys => .bind (h.reads s) fun y hy => .pure ?_
  · change (Arg.outlineList as ++ x.outline).refusals = []
    rw [refusals_append, has.plain, h.plain, List.append_nil]
  · rw [ExprKind.moved, hy, hys, has.not_spread]

end

mutual

/-- An expression that was written denotes its tree. -/
theorem Primary.Forms.denotes : ∀ {x : Primary} {y : Node}, x.Forms y → y.Denotes x.tree
  | .name _, _, ⟨p, rfl⟩ | .literal _, _, ⟨p, rfl⟩ => Node.denotes p rfl fun _ => .pure rfl
  | .select _ _, _, ⟨_, n, p, rfl, hz, rfl⟩ => hz.denotes.select n p
  | .call _ _ _, _, ⟨_, _, p, rfl, hg, hbs⟩ => hg.denotes.call hbs.denotes p

theorem Primary.AllForm.denotes : ∀ {as : List Primary} {bs : List Arg}, AllForm as bs → ArgsDenote bs (trees as)
  | [], _, rfl => ⟨rfl, fun _ => .pure rfl, rfl⟩
  | a :: as, _, ⟨x, cs, rfl, hx, hcs⟩ => by
    have hx := hx.denotes
    have hcs := hcs.denotes
    refine ⟨?_, fun s => ?_, hcs.not_spread⟩
    · rw [Arg.outlineList, refusals_append, hx.plain, hcs.plain, List.append_nil]
    · rw [readArgs]
      refine .bind (hx.reads s) fun y hy => .bind (hcs.reads s) fun ys hys => .pure ?_
      rw [Expr.movedList, hy, hys, trees]

end

/-! ## Statements -/

/-- Nothing is refused in a statement, and every reading of it gives a tree. -/
structure Stmt.Denotes (x : Stmt) (e : GoRebuild.Stmt) : Prop where
  plain : x.outline.refusals = []
  reads : ∀ s, Gives (x.read s) (·.moved .nowhere = e)

/-- The same of statements in braces. -/
structure Block.Denotes (b : Block) (es : List GoRebuild.Stmt) : Prop where
  plain : b.outline.refusals = []
  reads : ∀ s, Gives (b.read s) (·.moved .nowhere = .mk es .none)

theorem Stmt.denotes {kind : StmtKind} {kind' : GoRebuild.StmtKind} (start : Place) (hplain : kind.outline.refusals = [])
    (hreads : ∀ s, Gives (kind.read s start) (·.moved .nowhere = kind')) : (Stmt.mk kind start).Denotes (.mk kind' .none) := by
  constructor
  · rw [Stmt.outline, Outline.node, Outline.refusals, Outline.refusals, List.append_nil, hplain]
  · intro s
    rw [Stmt.read]
    refine .visit s start (.bind (hreads s) fun y hy => .pure ?_)
    rw [GoRebuild.Stmt.moved, hy]

section
variable {x y : Node} {e e' : Expr}

theorem Node.Denotes.plain_one (h : x.Denotes e) : (Node.outlineList [x]).refusals = [] := by
  rw [Node.outlineList, Node.outlineList, Outline.append_done, h.plain]

theorem Node.Denotes.reads_one (h : x.Denotes e) (s : Setting) : Gives (readAll s [x]) (Expr.movedList .nowhere · = [e]) := by
  rw [readAll, readAll]
  refine .bind (h.reads s) fun y hy => .bind (.pure rfl) fun ys hys => .pure ?_
  rw [Expr.movedList, hy, ← hys]
  rfl

theorem Stmt.denotes_giveBack (h : x.Denotes e) (start : Place) :
    (Stmt.mk (.returnStmt [x]) start).Denotes (.mk (.returnStmt [e]) .none) := by
  refine Stmt.denotes start h.plain_one fun s => .bind (h.reads_one s) fun ys hys => .pure ?_
  rw [GoRebuild.StmtKind.moved, hys]

theorem Stmt.denotes_define (hx : x.Denotes e) (hy : y.Denotes e') (op : String) (start : Place) :
    (Stmt.mk (.assign [x] op [y]) start).Denotes (.mk (.assign [e] op [e']) .none) := by
  refine Stmt.denotes start ?_ fun s => .bind (hx.reads_one s) fun xs hxs => .bind (hy.reads_one s) fun ys hys => .pure ?_
  · change (Node.outlineList [x] ++ Node.outlineList [y]).refusals = []
    rw [refusals_append, hx.plain_one, hy.plain_one, List.append_nil]
  · rw [GoRebuild.StmtKind.moved, hxs, hys]

theorem Stmt.denotes_expr (h : x.Denotes e) (start : Place) : (Stmt.mk (.expr x) start).Denotes (.mk (.expr e) .none) := by
  refine Stmt.denotes start h.plain fun s => .bind (h.reads s) fun y hy => .pure ?_
  rw [GoRebuild.StmtKind.moved, hy]

end

/-- A statement that was written denotes its tree. -/
theorem Line.Forms.denotes : ∀ {x : Line} {s : Stmt}, x.Forms s → s.Denotes x.tree
  | .giveBack _, _, ⟨_, p, rfl, hy⟩ => Stmt.denotes_giveBack hy.denotes p
  | .define _ _, _, ⟨_, _, p, rfl, hy, hz⟩ => Stmt.denotes_define hy.denotes hz.denotes ":=" p
  | .call _ _ _, _, ⟨_, p, rfl, hy⟩ => Stmt.denotes_expr hy.denotes p

theorem Block.denotes {ss : List Line} {xs : List Stmt} (h : List.Forall₂ Line.Forms ss xs) (start : Place) :
    (Block.mk xs start).Denotes (ss.map Line.tree) := by
  have hplain : (Stmt.outlineList xs).refusals = [] := by
    induction h with
    | nil => rfl
    | cons hx _ ih => rw [Stmt.outlineList, refusals_append, hx.denotes.plain, ih, List.append_nil]
  have hreads (s : Setting) : Gives (readStmts s xs) (GoRebuild.Stmt.movedList .nowhere · = ss.map Line.tree) := by
    clear hplain
    induction h with
    | nil => exact .pure rfl
    | cons hx _ ih =>
      rw [readStmts]
      refine .bind (hx.denotes.reads s) fun y hy => .bind ih fun ys hys => .pure ?_
      rw [GoRebuild.Stmt.movedList, hy, hys, List.map_cons]
  refine ⟨hplain, fun s => ?_⟩
  rw [Block.read]
  refine .bind (hreads s) fun ys hys => .pure ?_
  rw [GoRebuild.Block.moved, hys]

/-! ## Functions -/

/-- Nothing is refused in a signature without parameters, and every reading of it gives these results. -/
structure Signature.Denotes (x : Signature) (results : Option (List Field)) : Prop where
  plain : x.outline.refusals = []
  reads : ∀ s, Gives (x.read s) (·.moved .nowhere = .mk [] results)

/-- Nothing is refused in a function, and every reading of it gives a tree. -/
structure Func.Denotes (x : Func) (d : FuncDecl) : Prop where
  plain : x.outline.refusals = []
  reads : ∀ s, Gives (x.read s) (·.moved .nowhere = d)

theorem Node.Denotes.result {x : Node} {e : Expr} (h : x.Denotes e) :
    (Signature.mk [] (some [.mk [] none x])).Denotes (some [.mk [] e none]) := by
  constructor
  · rw [Signature.outline, Param.outlineList, Param.outlineList, Param.outlineList, Outline.done_append,
      Outline.append_done, h.plain]
  · intro s
    have hresults : Gives (readParams s [.mk [] none x]) (Field.movedList .nowhere · = [.mk [] e none]) := by
      rw [readParams, readParams]
      refine .bind (h.reads s) fun y hy => .bind (.pure rfl) fun fs hfs => .pure ?_
      rw [Field.movedList, Field.moved, hy, ← hfs]
      rfl
    rw [Signature.read, readParams]
    refine .bind (.pure rfl) fun ps hps => .bind hresults fun fs hfs => .pure ?_
    rw [FuncType.moved, Field.movedResults, hfs, ← hps]
    rfl

theorem Result.Forms.denotes : ∀ {r : Result} {x : Signature}, r.Forms x → x.Denotes r.tree
  | .nothing, _, rfl => ⟨rfl, fun _ => .bind (.pure rfl) fun fs hfs => .pure (by rw [← hfs]; rfl)⟩
  | .type false _ _, _, ⟨_, rfl, hx⟩ => hx.denotes.result
  | .type true _ _, _, ⟨_, start, rfl, hx⟩ => (hx.denotes.star start).result

/-- A function that was written denotes its tree. -/
theorem Routine.Forms.denotes {r : Routine} {f : Func} (h : r.Forms f) : f.Denotes r.tree := by
  obtain ⟨name, sig, stmts, p, q, rfl, hname, hsig, hstmts⟩ := h
  have hsig := hsig.denotes
  have hbody := Block.denotes hstmts p
  constructor
  · simp only [Func.outline, typeParamsOutline, Param.outlineReceiver, Block.outlineOption, Outline.done_append,
      refusals_append, hsig.plain, hbody.plain, List.append_nil]
  · intro s
    have hbodies : Gives ((some (Block.mk stmts p)).mapM (Block.read s))
        (Option.map (GoRebuild.Block.moved .nowhere) · = some (.mk (r.body.map Line.tree) .none)) :=
      .bind (hbody.reads s) fun b hb => .pure (by rw [Option.map_some, hb])
    rw [Func.read]
    refine .bind (.pure rfl) fun recv hrecv => .bind hbodies fun b hb => .bind (hsig.reads s) fun t ht => .pure ?_
    rw [FuncDecl.moved, hb, ht, ← hrecv, tree, ← hname]
    rfl

/-! ## Sources -/

/-- Nothing is refused in an entry at top level, and every reading of it gives this. -/
structure Item.Denotes (i : Item) (t : TopLevel) : Prop where
  plain : i.outline.refusals = []
  reads : ∀ s, Gives (i.read s) (·.moved .nowhere = t)

theorem Imported.Forms.read {i : Imported} {j : Import} (h : i.Forms j) (s : Setting) : (j.read s).moved .nowhere = i.tree := by
  rw [Import.read, ImportSpec.moved, h.1, h.2]
  rfl

/-- An entry at top level that was written denotes what it becomes. -/
theorem Part.Forms.denotes : ∀ {p : Part} {i : Item}, p.Forms i → i.Denotes p.tree
  | .package _, _, ⟨_, rfl, rfl⟩ => ⟨rfl, fun _ => .pure rfl⟩
  | .importOne i, _, ⟨_, _, rfl, hx⟩ => by
    refine ⟨rfl, fun s => .pure ?_⟩
    rw [TopLevel.moved, Decl.moved, GenDecl.moved, Spec.movedList, Spec.movedList, Spec.moved, hx.read]
    rfl
  | .imports is, _, ⟨xs, _, rfl, hxs⟩ => by
    refine ⟨rfl, fun s => .pure ?_⟩
    have hspecs : Spec.movedList .nowhere (xs.map fun x => .imported (x.read s)) = is.map fun i => .imported i.tree := by
      induction hxs with
      | nil => rfl
      | cons hx _ ih => rw [List.map_cons, Spec.movedList, ih, Spec.moved, hx.read, List.map_cons]
    rw [TopLevel.moved, Decl.moved, GenDecl.moved, hspecs]
    rfl
  | .routine _, _, ⟨_, rfl, hf⟩ => by
    refine ⟨hf.denotes.plain, fun s => ?_⟩
    rw [Item.read]
    refine .bind (hf.denotes.reads s) fun y hy => .pure ?_
    rw [TopLevel.moved, Decl.moved, hy]
    rfl

end GoRebuild.Grammar

namespace GoRebuild
open Grammar Lexical Reading

variable {items : List Item} {ps : List Part}

theorem outlineAll_refusals (h : List.Forall₂ Part.Forms ps items) : (outlineAll items).refusals = [] := by
  induction h with
  | nil => rfl
  | cons hi _ ih => rw [outlineAll, Outline.refusals_append, hi.denotes.plain, ih, List.append_nil]

theorem gives_readAll (s : Setting) (h : List.Forall₂ Part.Forms ps items) :
    Gives (items.mapM fun i : Item => i.read s) fun parts => parts.map (TopLevel.moved .nowhere) = ps.map Part.tree := by
  induction h with
  | nil => exact .pure rfl
  | cons hi _ ih =>
    rw [List.mapM_cons]
    refine .bind (hi.denotes.reads s) fun t ht => .bind ih fun parts hparts => .pure ?_
    rw [List.map_cons, ht, hparts, List.map_cons]

/-- From some limit on, a source whose tokens are those of parts is read to the file of what they become. -/
theorem File.exists_read {parser : SourceParser} (hsimple : parser.ParsesParts) {source : String}
    {tokens : List (Token × Cursor)} {p : Part} {ps : List Part} {g : File} (hscan : scan source = some tokens)
    (htokens : tokens.map (·.1.spelling) = Part.rows false (p :: ps)) (hplain : ∀ q ∈ p :: ps, q.isPlain)
    (hfile : File.ofParts ((p :: ps).map Part.tree) = .ok g) :
    ∃ bound, ∀ limit, bound ≤ limit → ∃ f, File.read parser limit source = .ok f ∧ f.moved .nowhere = g := by
  obtain ⟨items, pos, hderives, hforms⟩ := hsimple source tokens p ps hscan htokens hplain
  refine ⟨(outlineAll items).height, fun limit hlimit => ?_⟩
  obtain ⟨parts, hparts⟩ := (follows_readAll ⟨pos, limit⟩ items).answers_iff.mpr ⟨outlineAll_refusals hforms, hlimit⟩
  have hgives : parts.map (TopLevel.moved .nowhere) = (p :: ps).map Part.tree := gives_readAll _ hforms 0 parts hparts
  rw [← hgives, File.ofParts_moved] at hfile
  rw [File.read_derived hderives, hparts]
  change ∃ f, File.ofParts parts = .ok f ∧ f.moved .nowhere = g
  cases hf : File.ofParts parts with
  | error e => rw [hf] at hfile; cases hfile
  | ok f =>
    rw [hf] at hfile
    exact ⟨f, rfl, Except.ok.inj hfile⟩

end GoRebuild
