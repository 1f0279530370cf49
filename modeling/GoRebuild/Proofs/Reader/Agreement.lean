import GoRebuild.Proofs.Reader.Faithful

/-!
# The tree of a parse tree

* `Reading.Gives act Q` : every result of a reading has a property;
* `Node.read_agrees`, `Stmt.read_agrees`, `Decl.read_agrees`, `Func.read_agrees` : the pieces of a tree agree
  with those of the parse tree that it was read from.
-/

namespace GoRebuild.Reading

/-- Every result has a property. -/
def Gives {α : Type} (act : Reading α) (Q : α → Prop) : Prop :=
  ∀ depth x, act depth = .ok x → Q x

variable {α β : Type} {act : Reading α} {Q : α → Prop} {R : β → Prop}

theorem Gives.pure {x : α} (h : Q x) : Gives (pure x) Q := by
  intro depth y hy
  cases hy
  exact h

theorem Gives.bind (h : Gives act Q) {k : α → Reading β} (hk : ∀ x, Q x → Gives (k x) R) :
    Gives (act >>= k) R := by
  intro depth y hy
  change (act depth >>= fun x => k x depth) = .ok y at hy
  cases hx : act depth with
  | error e =>
    rw [hx] at hy
    cases hy
  | ok x =>
    rw [hx] at hy
    exact hk x (h depth x hx) depth y hy

theorem Gives.visit (s : Setting) (start : Lexical.Place) (h : Gives act Q) : Gives (visit s start act) Q := by
  intro depth x hx
  unfold Reading.visit at hx
  split at hx
  · cases hx
  · exact h _ x hx

theorem Gives.refuse (s : Setting) (kind : String) (place : Lexical.Place) :
    Gives (refuse s kind place : Reading α) Q := by
  intro depth x hx
  cases hx

theorem Gives.any (act : Reading α) : Gives act fun _ => True :=
  fun _ _ _ => trivial

/-- What comes of a list comes of its entries. -/
theorem gives_mapM {f : α → Reading β} (h : ∀ x, Gives (f x) R) :
    ∀ xs : List α, Gives (xs.mapM f) fun ys => ∀ y ∈ ys, R y
  | [] => .pure nofun
  | x :: xs => by
    rw [List.mapM_cons]
    exact .bind (h x) fun _ hy => .bind (gives_mapM h xs) fun _ hys => .pure (List.forall_mem_cons.mpr ⟨hy, hys⟩)

end GoRebuild.Reading

namespace GoRebuild.Grammar
open Piece Reading

/-- What is a name in the tree was one, and dots without a type were no node. -/
theorem NodeKind.read_kind (s : Setting) (start : Lexical.Place) (k : NodeKind) :
    Gives (k.read s start) fun k' => (∀ n, k' = .ident n → k = .name n) ∧ k' ≠ .ellipsis none := by
  cases k
  case name n => exact .pure ⟨fun m h => by cases h; rfl, nofun⟩
  all_goals
    first
      | exact .refuse s _ _
      | exact .pure ⟨nofun, nofun⟩
      | exact .bind (.any _) fun _ _ => .pure ⟨nofun, nofun⟩
      | exact .bind (.any _) fun _ _ => .bind (.any _) fun _ _ => .pure ⟨nofun, nofun⟩
      | exact .bind (.any _) fun _ _ => .bind (.any _) fun _ _ => .bind (.any _) fun _ _ => .pure ⟨nofun, nofun⟩
      | exact .bind (.any _) fun _ _ => .bind (.any _) fun _ _ => .bind (.any _) fun _ _ =>
          .bind (.any _) fun _ _ => .pure ⟨nofun, nofun⟩

theorem Node.read_kind (s : Setting) (k : NodeKind) (p : Lexical.Place) :
    Gives ((Node.mk k p).read s) fun e => (∀ n, e.kind = .ident n → k = .name n) ∧ e.kind ≠ .ellipsis none :=
  .visit s p (.bind (k.read_kind s p) fun _ h => .pure h)

theorem Node.basePieces_of_ne {k : NodeKind} {p : Lexical.Place} (h : ∀ n, k ≠ .name n) :
    (Node.mk k p).basePieces = k.pieces := by
  cases k with
  | name n => exact absurd rfl (h n)
  | _ => rfl

theorem base_of_ne {k : ExprKind} {p : Pos} (h : ∀ n, k ≠ .ident n) : (Expr.mk k p).basePieces = k.pieces := by
  cases k with
  | ident n => exact absurd rfl (h n)
  | _ => rfl

/-- Before a dot, too. -/
theorem Node.read_base (s : Setting) (x : Node) (h : Gives (x.read s) fun e => Agree x.isFaithful x.pieces e.pieces) :
    Gives (x.read s) fun e => Agree x.isFaithful x.basePieces e.basePieces := by
  obtain ⟨k, p⟩ := x
  by_cases hk : ∃ n, k = .name n
  · obtain ⟨n, rfl⟩ := hk
    refine .visit s p ?_
    exact .bind (.pure (Q := (· = ExprKind.ident n)) rfl) fun k' hk' => .pure (by rw [hk']; exact .refl rfl)
  · intro depth e he
    have hname := (Node.read_kind s k p depth e he).1
    obtain ⟨k', q⟩ := e
    have hagree := h depth _ he
    rw [Node.basePieces_of_ne fun n hn => hk ⟨n, hn⟩, base_of_ne (k := k') fun n hn => hk ⟨n, hname n hn⟩]
    exact hagree

/-! ## Parts that may be absent -/

/-- Parts that are both absent, or both there and agree. -/
def AgreeOption {α β : Type} (f : α → List Piece) (g : β → List Piece) (same : α → Bool) :
    Option α → Option β → Prop
  | none, none => True
  | some x, some y => Agree (same x) (f x) (g y)
  | _, _ => False

abbrev AgreeNode? := AgreeOption Node.pieces Expr.pieces Node.isFaithful

abbrev AgreeStmt? := AgreeOption Stmt.pieces GoRebuild.Stmt.pieces Stmt.isFaithful

theorem AgreeOption.node {x : Option Node} {e : Option Expr} (h : AgreeNode? x e) :
    Agree (Node.isFaithfulOption x) (Node.piecesOption x) (Expr.piecesOption e) := by
  cases x <;> cases e
  · exact .refl rfl
  · exact h.elim
  · exact h.elim
  · exact h

theorem AgreeOption.nodeRows {x : Option Node} {e : Option Expr} (h : AgreeNode? x e) :
    AgreeRows (Node.isFaithfulOption x) (Node.rows x) (Expr.rows e) := by
  cases x <;> cases e
  · exact .nil
  · exact h.elim
  · exact h.elim
  · exact .one h

theorem AgreeOption.stmt {x : Option Stmt} {e : Option GoRebuild.Stmt} (h : AgreeStmt? x e) :
    Agree (Stmt.isFaithfulOption x) (Stmt.piecesOption x) (GoRebuild.Stmt.piecesOption e) := by
  cases x <;> cases e
  · exact .refl rfl
  · exact h.elim
  · exact h.elim
  · exact h

theorem AgreeOption.stmtRows {x : Option Stmt} {e : Option GoRebuild.Stmt} (h : AgreeStmt? x e) :
    AgreeRows (Stmt.isFaithfulOption x) (Stmt.rows x) (GoRebuild.Stmt.rows e) := by
  cases x <;> cases e
  · exact .nil
  · exact h.elim
  · exact h.elim
  · exact .one h

/-! ## Constructs from their parts -/

/-- Expressions that agree, each with the one at its place. -/
inductive AgreeNodes : List Node → List Expr → Prop
  | nil : AgreeNodes [] []
  | cons {x : Node} {e : Expr} {xs : List Node} {es : List Expr} : Agree x.isFaithful x.pieces e.pieces →
    AgreeNodes xs es → AgreeNodes (x :: xs) (e :: es)

theorem AgreeNodes.rows {xs : List Node} {es : List Expr} (h : AgreeNodes xs es) :
    AgreeRows (Node.areFaithful xs) (Node.piecesList xs) (Expr.piecesList es) := by
  induction h with
  | nil => exact .nil
  | cons h _ ih => exact .cons h ih

/-- Behind a comma each, arguments agree, with the dots behind the last. -/
def AgreeArgs (as : List Arg) (es : List Expr) : Prop :=
  Agree (Arg.areFaithful as) ((Arg.rows as).flatMap (sym "," :: ·))
    ((Expr.piecesList es).flatMap (sym "," :: ·) ++ if as.any Arg.isSpread then [sym "..."] else [])

theorem Arg.starts (a : Arg) (as : List Arg) :
    StartsIfPlain ((Arg.rows (a :: as)).flatMap (sym "," :: ·)) := by
  intro hkept hplain
  refine .behind_silent [_] rfl ?_
  cases a with
  | plain x => exact starts_left x.starts _ hkept hplain
  | spread x => exact starts_left (starts_left x.starts [sym "..."]) _ hkept hplain

theorem AgreeArgs.plain {x : Node} {e : Expr} {as : List Arg} {es : List Expr}
    (h : Agree x.isFaithful x.pieces e.pieces) (h' : AgreeArgs as es) :
    AgreeArgs (.plain x :: as) (e :: es) := by
  have happend := (h.behind [sym ","] rfl).append h'
  have hfaithful : Arg.areFaithful (.plain x :: as) = (x.isFaithful && Arg.areFaithful as) := by
    cases as with
    | nil => exact (Bool.and_true _).symm
    | cons a as => rfl
  rw [← List.append_assoc] at happend
  rw [AgreeArgs, hfaithful]
  exact happend

theorem AgreeArgs.spread {x : Node} {e : Expr} {as : List Arg} {es : List Expr}
    (h : Agree x.isFaithful x.pieces e.pieces) (hlength : es.length = as.length) (h' : AgreeArgs as es) :
    AgreeArgs (.spread x :: as) (e :: es) := by
  cases as with
  | nil =>
    obtain rfl := List.eq_nil_of_length_eq_zero hlength
    change Agree _ (sym "," :: (x.pieces ++ [sym "..."]) ++ []) ((sym "," :: e.pieces ++ []) ++ [sym "..."])
    rw [List.append_nil, List.append_nil]
    exact (h.behind [sym ","] rfl).before [sym "..."] rfl
  | cons a as =>
    have hstart : StartsIfPlain (sym "," :: x.pieces) := fun hkept hplain =>
      .behind_silent [_] rfl (x.starts hkept hplain)
    have hspread := (h.behind [sym ","] rfl).spread hstart h' (Arg.starts a as)
    exact hspread

theorem AgreeArgs.parens {as : List Arg} {es : List Expr} (h : AgreeArgs as es) (hlength : es.length = as.length) :
    Agree (Arg.areFaithful as) (Piece.parens (Arg.rows as))
      (Piece.arguments (as.any Arg.isSpread) (Expr.piecesList es)) := by
  suffices hrows : Agree (Arg.areFaithful as) (Piece.separated (sym ",") (Arg.rows as))
      (Piece.separated (sym ",") (Expr.piecesList es) ++ if as.any Arg.isSpread then [sym "..."] else []) from
    (hrows.behind [sym "("] rfl).before [comma, sym ")"] rfl
  cases as with
  | nil =>
    obtain rfl := List.eq_nil_of_length_eq_zero hlength
    exact .refl rfl
  | cons a as =>
    cases es with
    | nil => cases hlength
    | cons e es =>
      refine .of_comma ?_
      have hread : sym "," :: Piece.separated (sym ",") (Arg.rows (a :: as)) =
          (Arg.rows (a :: as)).flatMap (sym "," :: ·) := separator_cons_separated _ (List.cons_ne_nil _ _)
      have hkept : sym "," :: Piece.separated (sym ",") (Expr.piecesList (e :: es)) =
          (Expr.piecesList (e :: es)).flatMap (sym "," :: ·) := separator_cons_separated _ (List.cons_ne_nil _ _)
      rw [AgreeArgs, ← hread, ← hkept] at h
      exact h

theorem agree_slice {x : Node} {low high : Option Node} {e : Expr} {low' high' : Option Expr}
    (h : Agree x.isFaithful x.pieces e.pieces) (hlow : AgreeNode? low low') (hhigh : AgreeNode? high high') :
    Agree (NodeKind.slice x low high).isFaithful (NodeKind.slice x low high).pieces
      (ExprKind.slice e low' high' none false).pieces :=
  h.append ((AgreeRows.cons hlow.node (.one hhigh.node)).separated (s := sym ":") rfl).brackets

theorem agree_slice3 {x high max : Node} {low : Option Node} {e high' max' : Expr} {low' : Option Expr}
    (h : Agree x.isFaithful x.pieces e.pieces) (hlow : AgreeNode? low low')
    (hhigh : Agree high.isFaithful high.pieces high'.pieces) (hmax : Agree max.isFaithful max.pieces max'.pieces) :
    Agree (NodeKind.slice3 x low high max).isFaithful (NodeKind.slice3 x low high max).pieces
      (ExprKind.slice e low' (some high') (some max') true).pieces :=
  h.append ((AgreeRows.cons hlow.node (.cons hhigh (.one hmax))).separated (s := sym ":") rfl).brackets

theorem agree_convert {t x : Node} {e f : Expr} (h : Agree t.isFaithful t.pieces e.pieces)
    (h' : Agree x.isFaithful x.pieces f.pieces) :
    Agree (NodeKind.convert t x).isFaithful (NodeKind.convert t x).pieces (ExprKind.call e [f] false).pieces := by
  have hparens := (AgreeRows.one h').parens
  refine h.append ?_
  unfold Piece.arguments
  rw [if_neg Bool.false_ne_true, List.append_nil]
  exact hparens

/-! ## Parameters -/

theorem map_ident (s : Setting) (ns : List Name) : (ns.map (Name.ident s)).map Ident.name = ns.map Name.text := by
  rw [List.map_map]
  rfl

/-- Entries of a parameter list, each with the names that it had. -/
inductive AgreeParams (s : Setting) : List Param → List Field → Prop
  | nil : AgreeParams s [] []
  | cons {ns : List Name} {dots : Option Lexical.Place} {t : Node} {t' : Expr} {ps : List Param} {fs : List Field} :
    Agree t.isFaithful (dotsPieces dots.isSome ++ t.pieces) t'.pieces → AgreeParams s ps fs →
    AgreeParams s (.mk ns dots t :: ps) (.mk (ns.map (Name.ident s)) t' none :: fs)

theorem allKept_names (ns : List String) : allKept (names ns) := by
  cases ns with
  | nil => rfl
  | cons n ns =>
    rw [names_cons]
    induction ns with
    | nil => rfl
    | cons m ns ih => exact ih

theorem agree_param (s : Setting) {ns : List Name} {dots : Option Lexical.Place} {t : Node} {t' : Expr}
    (h : Agree t.isFaithful (dotsPieces dots.isSome ++ t.pieces) t'.pieces) :
    Agree t.isFaithful (Param.mk ns dots t).pieces (Field.mk (ns.map (Name.ident s)) t' none).pieces := by
  have hnames := h.behind (names (ns.map Name.text)) (allKept_names _)
  rw [Param.pieces, Field.pieces, map_ident, List.append_assoc, Piece.tag, List.append_nil]
  exact hnames

theorem AgreeParams.rows {s : Setting} {ps : List Param} {fs : List Field} (h : AgreeParams s ps fs) :
    AgreeRows (Param.areFaithful ps) (Param.rows ps) (Field.piecesList fs) := by
  induction h with
  | nil => exact .nil
  | cons h _ ih => exact .cons (agree_param s h) ih

theorem AgreeParams.results {s : Setting} {rs : List Param} {fs : List Field} (h : AgreeParams s rs fs) :
    Agree (Param.areFaithful rs) (Param.resultPieces (some rs)) (Field.resultPieces (some fs)) := by
  have hparens := h.rows.parens
  cases h with
  | nil => exact hparens
  | @cons ns dots t t' ps fs h hrest =>
    cases ns with
    | cons n ns =>
      cases hrest <;> exact hparens
    | nil =>
      cases hrest with
      | cons _ _ => exact hparens
      | nil =>
        have hlone : Agree t.isFaithful [lone (dotsPieces dots.isSome ++ t.pieces)] [lone (t'.pieces ++ [])] := by
          rw [List.append_nil]
          exact h.lone
        change Agree (t.isFaithful && true) _ _
        rw [Bool.and_true]
        exact hlone

/-! ## Statements from their parts -/

theorem agree_steps {i : Option Stmt} {c : Option Node} {p : Option Stmt} {i' p' : Option GoRebuild.Stmt}
    {c' : Option Expr} {b : Bool} {bs : List Piece} {body : GoRebuild.Block} (hi : AgreeStmt? i i')
    (hc : AgreeNode? c c') (hp : AgreeStmt? p p') (hb : Agree b bs body.pieces) :
    Agree ((LoopHeader.steps i c p).isFaithful && b) ((LoopHeader.steps i c p).pieces ++ bs)
      (GoRebuild.StmtKind.forStmt i' c' p' body).pieces := by
  have hrows := ((AgreeRows.cons hi.stmt (.cons hc.node (.one hp.stmt))).header "for").append hb
  have hbare := (hc.nodeRows.header "for").append hb
  cases i <;> cases i'
  · cases p <;> cases p'
    · -- neither statement stands in the header, and no ends
      change Agree ((true && (Node.isFaithfulOption c && true)) && b) _ _
      rw [Bool.true_and, Bool.and_true]
      exact hbare
    · exact hp.elim
    · exact hp.elim
    · exact hrows
  · exact hi.elim
  · exact hi.elim
  · exact hrows

theorem agree_switch {i : Option Stmt} {t : Option Node} {cs : List Clause} {i' : Option GoRebuild.Stmt}
    {t' : Option Expr} {cs' : List GoRebuild.Stmt} {p : Pos} (hi : AgreeStmt? i i') (ht : AgreeNode? t t')
    (hcs : AgreeRows (Clause.areFaithful cs) (Clause.rows cs) (GoRebuild.Stmt.piecesList cs')) :
    Agree (StmtKind.switch i t cs).isFaithful (StmtKind.switch i t cs).pieces
      (GoRebuild.StmtKind.switchStmt i' t' (.mk cs' p)).pieces := by
  cases i <;> cases i'
  · exact (ht.nodeRows.header "switch").append hcs.braces
  · exact hi.elim
  · exact hi.elim
  · exact ((AgreeRows.cons hi (.one ht.node)).header "switch").append hcs.braces

theorem agree_conditional {i : Option Stmt} {c : Node} {b : Block} {e : Option Else} {p : Lexical.Place}
    {i' : Option GoRebuild.Stmt} {c' : Expr} {b' : GoRebuild.Block} {e' : Option GoRebuild.Stmt}
    (hi : AgreeStmt? i i') (hc : Agree c.isFaithful c.pieces c'.pieces) (hb : Agree b.isFaithful b.pieces b'.pieces)
    (he : AgreeOption Else.pieces GoRebuild.Stmt.pieces (fun e => Else.isFaithful (some e)) e e') :
    Agree (Conditional.mk i c b e p).isFaithful (Conditional.mk i c b e p).pieces
      (GoRebuild.StmtKind.ifStmt i' c' b' e').pieces := by
  have hheader := ((hi.stmtRows.append (.one hc)).header "if").append hb
  cases e <;> cases e'
  · change Agree (((Stmt.isFaithfulOption i && c.isFaithful) && b.isFaithful) && true) _ _
    rw [Bool.and_true]
    exact hheader
  · exact he.elim
  · exact he.elim
  · exact (hheader.before [key "else"] rfl).append he

/-- The header of a `range` and its body, from the variables. -/
theorem agree_over {b b' b'' : Bool} {ps qs bs : List Piece} {op : String} {x : Node} {x' : Expr}
    {body : GoRebuild.Block} (h : Agree b ps qs) (hx : Agree b' x.pieces x'.pieces) (hb : Agree b'' bs body.pieces) :
    Agree ((b && b') && b'') (header "for" [ps ++ [sym op] ++ [key "range"] ++ x.pieces] ++ bs)
      (header "for" [qs ++ [sym op] ++ [key "range"] ++ x'.pieces] ++ body.pieces) :=
  ((AgreeRows.one (((h.before [sym op] rfl).before [key "range"] rfl).append hx)).header "for").append hb

/-- Variables behind the second are dropped. -/
theorem agree_two {k v w : Node} {ws : List Node} {k' v' : Expr} {ws' : List (List Piece)} {b : Bool}
    (hk : Agree k.isFaithful k.pieces k'.pieces) (hv : Agree v.isFaithful v.pieces v'.pieces)
    (hws : AgreeRows b (Node.piecesList (w :: ws)) ws') :
    Agree false (Piece.separated (sym ",") (Node.piecesList (k :: v :: w :: ws)))
      (Piece.separated (sym ",") (Expr.piecesList [k', v'])) := by
  have hkept := (AgreeRows.cons hk (.one hv)).separated (s := sym ",") rfl
  have hdropped := hws.flatMap (s := sym ",") rfl
  have hrow : Piece.separated (sym ",") (Node.piecesList (k :: v :: w :: ws)) =
      Piece.separated (sym ",") [k.pieces, v.pieces] ++ (Node.piecesList (w :: ws)).flatMap (sym "," :: ·) := by
    simp [Node.piecesList, separated_cons]
  rw [hrow]
  refine hkept.drop ?_ hdropped ?_
  · rw [separated_cons]
    exact starts_left k.starts _
  · exact fun hkept hplain => .behind_silent [_] rfl (starts_left w.starts _ hkept hplain)

/-- A `range` keeps two of its variables. -/
theorem agree_assigning {k : Node} {more : List Node} {op : AssignTok} {x : Node} {k' : Expr} {more' : List Expr}
    {x' : Expr} {b : Bool} {bs : List Piece} {body : GoRebuild.Block}
    (hk : Agree k.isFaithful k.pieces k'.pieces) (hmore : AgreeNodes more more')
    (hx : Agree x.isFaithful x.pieces x'.pieces) (hb : Agree b bs body.pieces) :
    Agree ((LoopHeader.assigning k more op x).isFaithful && b) ((LoopHeader.assigning k more op x).pieces ++ bs)
      (GoRebuild.StmtKind.rangeStmt (some k') more'.head? (some op.text) x' body).pieces := by
  cases hmore with
  | nil => exact agree_over ((AgreeRows.one hk).separated rfl) hx hb
  | cons hv hmore =>
    cases hmore with
    | nil => exact agree_over ((AgreeRows.cons hk (.one hv)).separated rfl) hx hb
    | cons hw hws => exact agree_over (agree_two hk hv (AgreeNodes.cons hw hws).rows) hx hb

theorem agree_single {b : Bool} {ps : List Piece} {x : Expr} (h : Agree b ps x.pieces) :
    Agree b ps (Piece.separated (sym ",") (Expr.piecesList [x])) := by
  change Agree b ps (Piece.separated (sym ",") [x.pieces])
  rwa [separated_one]

theorem agree_receive {l : List Node} {t : AssignTok} {y : Node} {l' : List Expr} {y' : Expr} (h : AgreeNodes l l')
    (hy : Agree y.isFaithful y.pieces y'.pieces) :
    Agree (StmtKind.receive l t y).isFaithful (StmtKind.receive l t y).pieces
      (GoRebuild.StmtKind.assign l' t.text [y']).pieces :=
  ((h.rows.separated (s := sym ",") rfl).before [sym t.text] rfl).append (agree_single hy)

theorem agree_guardless {i : Option Stmt} {x : Node} {cs : List Clause} {i' : Option GoRebuild.Stmt} {x' : Expr}
    {cs' : List GoRebuild.Stmt} {p q : Pos} (hi : AgreeStmt? i i') (hx : Agree x.isFaithful x.pieces x'.pieces)
    (hcs : AgreeRows (Clause.areFaithful cs) (Clause.rows cs) (GoRebuild.Stmt.piecesList cs')) :
    Agree (StmtKind.typeSwitch i [] x cs).isFaithful (StmtKind.typeSwitch i [] x cs).pieces
      (GoRebuild.StmtKind.typeSwitch i' (.mk (.expr (.mk (.typeAssert x' none) p)) p) (.mk cs' q)).pieces :=
  ((hi.stmtRows.append (.one (hx.before (asserted [key "type"]) rfl))).header "switch").append hcs.braces

theorem agree_typeSwitch {i : Option Stmt} {n : Node} {ns : List Node} {x : Node} {cs : List Clause}
    {i' : Option GoRebuild.Stmt} {ns' : List Expr} {x' : Expr} {cs' : List GoRebuild.Stmt} {p q r : Pos}
    (hi : AgreeStmt? i i') (hns : AgreeNodes (n :: ns) ns') (hx : Agree x.isFaithful x.pieces x'.pieces)
    (hcs : AgreeRows (Clause.areFaithful cs) (Clause.rows cs) (GoRebuild.Stmt.piecesList cs')) :
    Agree (StmtKind.typeSwitch i (n :: ns) x cs).isFaithful (StmtKind.typeSwitch i (n :: ns) x cs).pieces
      (GoRebuild.StmtKind.typeSwitch i' (.mk (.assign ns' ":=" [.mk (.typeAssert x' none) p]) r) (.mk cs' q)).pieces := by
  have hguard := ((hns.rows.separated (s := sym ",") rfl).before [sym ":="] rfl).append
    (agree_single (x := .mk (.typeAssert x' none) p) (hx.before (asserted [key "type"]) rfl))
  exact ((hi.stmtRows.append (.one hguard)).header "switch").append hcs.braces

theorem agree_comm {c : Option Stmt} {b : List Stmt} {p : Lexical.Place} {c' : Option GoRebuild.Stmt}
    {b' : List GoRebuild.Stmt} (hc : AgreeStmt? c c')
    (hb : AgreeRows (Stmt.areFaithful b) (Stmt.piecesList b) (GoRebuild.Stmt.piecesList b')) :
    Agree (Stmt.isFaithfulOption c && Stmt.areFaithful b) (CommClause.mk c b p).pieces
      (GoRebuild.StmtKind.commClause c' b').pieces := by
  have hbody := hb.separated (s := stop) rfl
  cases c <;> cases c'
  · exact hbody.behind [key "default", sym ":"] rfl
  · exact hc.elim
  · exact hc.elim
  · exact ((Agree.behind hc [key "case"] rfl).before [sym ":"] rfl).append hbody

/-! ## Declarations from their parts -/

theorem agree_named {n : Name} {more : List Name} {t : Node} {text : Option String} {t' : Expr}
    (s : Setting) (h : Agree t.isFaithful t.pieces t'.pieces) :
    Agree t.isFaithful (Member.named n more t text).pieces
      (Field.mk ((n :: more).map (Name.ident s)) t' (tagLit text)).pieces := by
  rw [Member.pieces, Field.pieces, map_ident]
  exact (h.behind _ (allKept_names _)).before _ (by cases text <;> rfl)

theorem agree_embedded {star : Option Lexical.Place} {t : Node} {text : Option String} {t' : Expr}
    (h : Agree t.isFaithful (starPieces star.isSome ++ t.pieces) t'.pieces) :
    Agree t.isFaithful (Member.embedded star t text).pieces (Field.mk [] t' (tagLit text)).pieces :=
  h.before _ (by cases text <;> rfl)

theorem agree_method (s : Setting) {n : Name} {t : Signature} {t' : FuncType}
    (h : Agree t.isFaithful t.pieces t'.pieces) :
    Agree t.isFaithful (Element.method n t).pieces ([name (n.ident s).name] ++ t'.pieces ++ Piece.tag none) := by
  rw [Piece.tag, List.append_nil]
  exact h.behind [name n.text] rfl

theorem agree_element {t : Node} {t' : Expr} (h : Agree t.isFaithful t.pieces t'.pieces) :
    Agree t.isFaithful (Element.embedded t).pieces (Field.mk [] t' none).pieces := by
  rw [Field.pieces, Piece.tag, List.append_nil]
  exact h

theorem agree_values (t : ValueTok) (grouped : Bool) {b : Bool} {rows : List (List Piece)} {xs : List Spec} {p : Pos}
    (h : AgreeRows b rows (Spec.piecesList xs)) :
    Agree b ([key t.text] ++ defs grouped rows) (GenDecl.mk t.declToken p grouped xs).pieces := by
  cases t with
  | constTok => exact (h.defs grouped).behind [key "const"] rfl
  | varTok => exact (h.defs grouped).behind [key "var"] rfl

theorem agree_valueSpec (s : Setting) {n : Name} {more : List Name} {t : Option Node} {vs : List Node}
    {t' : Option Expr} {vs' : List Expr} (ht : AgreeNode? t t') (hvs : AgreeNodes vs vs') :
    Agree (ValueSpec.mk n more t vs).isFaithful (ValueSpec.mk n more t vs).pieces
      (Spec.value ((n :: more).map (Name.ident s)) t' vs').pieces := by
  have hnames : Agree (Node.isFaithfulOption t) (names ((n :: more).map Name.text) ++ Node.piecesOption t)
      (names (((n :: more).map (Name.ident s)).map Ident.name) ++ Expr.piecesOption t') := by
    rw [map_ident]
    exact ht.node.behind _ (allKept_names _)
  cases hvs with
  | nil =>
    change Agree (Node.isFaithfulOption t && true) _ _
    rw [Bool.and_true]
    exact hnames
  | cons h hs => exact (hnames.before [sym "="] rfl).append ((AgreeNodes.cons h hs).rows.separated rfl)

theorem agree_typeSpec (s : Setting) {n : Name} {aliased : Bool} {t : Node} {t' : Expr}
    (h : Agree t.isFaithful t.pieces t'.pieces) :
    Agree t.isFaithful (TypeSpec.mk n none aliased t).pieces (Spec.type (n.ident s) aliased t').pieces := by
  cases aliased with
  | true => exact h.behind [name n.text, sym "="] rfl
  | false => exact h.behind [name n.text] rfl

/-! ## The tree -/

variable (s : Setting)

theorem agree_branch (j : Jump) : Agree (StmtKind.branch j).isFaithful (StmtKind.branch j).pieces
    (GoRebuild.StmtKind.branch j.tok (j.label.map (Name.ident s))).pieces := by
  rw [StmtKind.pieces]
  cases j.label <;> exact .refl rfl

mutual

theorem Node.read_agrees : ∀ x : Node, Gives (x.read s) fun e => Agree x.isFaithful x.pieces e.pieces
  | .mk k p => .visit s p (.bind (k.read_agrees p) fun _ hk => .pure hk)

theorem NodeKind.read_agrees (start : Lexical.Place) :
    ∀ k : NodeKind, Gives (k.read s start) fun k' => Agree k.isFaithful k.pieces k'.pieces
  | .name _ => .pure (.refl rfl)
  | .literal _ => .pure (.refl rfl)
  | .paren x => .bind x.read_agrees fun _ h => .pure ((h.behind [sym "("] rfl).before [sym ")"] rfl)
  | .select x m => .bind (x.read_base s x.read_agrees) fun _ h => .pure (h.before [sym ".", name m.text] rfl)
  | .index x i => .bind x.read_agrees fun _ h => .bind i.read_agrees fun _ h' => .pure (h.append h'.brackets)
  | .slice x low high =>
    .bind x.read_agrees fun _ h => .bind (readOption_agrees low) fun _ hlow =>
      .bind (readOption_agrees high) fun _ hhigh => .pure (agree_slice h hlow hhigh)
  | .slice3 x low high max =>
    .bind x.read_agrees fun _ h => .bind (readOption_agrees low) fun _ hlow =>
      .bind high.read_agrees fun _ hhigh => .bind max.read_agrees fun _ hmax =>
        .pure (agree_slice3 h hlow hhigh hmax)
  | .assert x t => .bind x.read_agrees fun _ h => .bind t.read_agrees fun _ h' => .pure (h.append h'.asserted)
  | .call f as =>
    .bind (readArgs_agrees as) fun _ has => .bind f.read_agrees fun _ h => .pure (h.append (has.1.parens has.2))
  | .convert t x => .bind t.read_agrees fun _ h => .bind x.read_agrees fun _ h' => .pure (agree_convert h h')
  | .star x => .bind x.read_agrees fun _ h => .pure (h.behind [sym "*"] rfl)
  | .unary o x => .bind x.read_agrees fun _ h => .pure (h.behind [sym o.text] rfl)
  | .binary x o y =>
    .bind x.read_agrees fun _ h => .bind y.read_agrees fun _ h' => .pure ((h.before [sym o] rfl).append h')
  | .composite t es =>
    .bind t.read_agrees fun _ h => .bind (readAll_agrees es) fun _ hes => .pure (h.append hes.rows.values)
  | .braces es => .bind (readAll_agrees es) fun _ hes => .pure hes.rows.values
  | .keyed k v =>
    .bind k.read_agrees fun _ h => .bind v.read_agrees fun _ h' => .pure ((h.before [sym ":"] rfl).append h')
  | .func t b =>
    .bind t.read_agrees fun _ h => .bind b.read_agrees fun _ h' => .pure ((h.behind [key "func"] rfl).append h')
  | .array n t => .bind n.read_agrees fun _ h => .bind t.read_agrees fun _ h' => .pure (h.brackets.append h')
  | .openArray t => .bind t.read_agrees fun _ h => .pure (h.behind (brackets [sym "..."]) rfl)
  | .sliceOf t => .bind t.read_agrees fun _ h => .pure (h.behind (brackets []) rfl)
  | .struct ms => .bind (readMembers_agrees ms) fun _ h => .pure (h.braces.behind [key "struct"] rfl)
  | .interface es => .bind (readElements_agrees es) fun _ h => .pure (h.braces.behind [key "interface"] rfl)
  | .map k v =>
    .bind k.read_agrees fun _ h => .bind v.read_agrees fun _ h' =>
      .pure ((h.brackets.behind [key "map"] rfl).append h')
  | .chan d v => .bind v.read_agrees fun _ h => .pure (h.behind d.pieces (by cases d <;> rfl))
  | .funcType t => .bind t.read_agrees fun _ h => .pure (h.behind [key "func"] rfl)
  | .generic form bracket => .refuse s _ (form.place start bracket)

theorem readOption_agrees : ∀ x : Option Node, Gives (readOption s x) fun e => AgreeNode? x e
  | none => .pure trivial
  | some x => .bind x.read_agrees fun _ h => .pure h

theorem readAll_agrees : ∀ xs : List Node, Gives (readAll s xs) fun es => AgreeNodes xs es
  | [] => .pure .nil
  | x :: xs => .bind x.read_agrees fun _ h => .bind (readAll_agrees xs) fun _ hs => .pure (.cons h hs)

theorem readArgs_agrees : ∀ as : List Arg, Gives (readArgs s as) fun es => AgreeArgs as es ∧ es.length = as.length
  | [] => .pure ⟨.refl rfl, rfl⟩
  | .plain x :: as =>
    .bind x.read_agrees fun _ h => .bind (readArgs_agrees as) fun _ hs =>
      .pure ⟨.plain h hs.1, congrArg (· + 1) hs.2⟩
  | .spread x :: as =>
    .bind x.read_agrees fun _ h => .bind (readArgs_agrees as) fun _ hs =>
      .pure ⟨.spread h hs.2 hs.1, congrArg (· + 1) hs.2⟩

theorem Signature.read_agrees : ∀ t : Signature, Gives (t.read s) fun t' => Agree t.isFaithful t.pieces t'.pieces
  | .mk ps none => .bind (readParams_agrees ps) fun _ h => .pure (h.rows.parens.before [] rfl)
  | .mk ps (some rs) =>
    .bind (readParams_agrees ps) fun _ h => .bind (readParams_agrees rs) fun _ h' =>
      .pure (h.rows.parens.append h'.results)

theorem readParams_agrees : ∀ ps : List Param, Gives (readParams s ps) fun fs => AgreeParams s ps fs
  | [] => .pure .nil
  | .mk _ none t :: ps =>
    .bind t.read_agrees fun _ h => .bind (readParams_agrees ps) fun _ hs => .pure (.cons h hs)
  | .mk _ (some _) t :: ps =>
    .bind t.read_agrees fun _ h => .bind (readParams_agrees ps) fun _ hs =>
      .pure (.cons (h.behind [sym "..."] rfl) hs)

theorem readMembers_agrees : ∀ ms : List Member,
    Gives (readMembers s ms) fun fs => AgreeRows (Member.areFaithful ms) (Member.rows ms) (Field.piecesList fs)
  | [] => .pure .nil
  | .named _ _ t _ :: ms =>
    .bind t.read_agrees fun _ h => .bind (readMembers_agrees ms) fun _ hs => .pure (.cons (agree_named s h) hs)
  | .embedded none t _ :: ms =>
    .bind t.read_agrees fun _ h => .bind (readMembers_agrees ms) fun _ hs => .pure (.cons (agree_embedded h) hs)
  | .embedded (some _) t _ :: ms =>
    .bind t.read_agrees fun _ h => .bind (readMembers_agrees ms) fun _ hs =>
      .pure (.cons (agree_embedded (h.behind [sym "*"] rfl)) hs)

theorem readElements_agrees : ∀ es : List Element,
    Gives (readElements s es) fun fs => AgreeRows (Element.areFaithful es) (Element.rows es) (Field.elementPieces fs)
  | [] => .pure .nil
  | .method _ t :: es =>
    .bind t.read_agrees fun _ h => .bind (readElements_agrees es) fun _ hs =>
      .pure (.cons (agree_method s h) hs)
  | .embedded t :: es =>
    .bind t.read_agrees fun _ h => .bind (readElements_agrees es) fun _ hs => .pure (.cons (agree_element h) hs)
  | .union start :: _ => .refuse s _ start

theorem Block.read_agrees : ∀ b : Block, Gives (b.read s) fun b' => Agree b.isFaithful b.pieces b'.pieces
  | .mk ss _ => .bind (readStmts_agrees ss) fun _ h => .pure h.braces

theorem Stmt.read_agrees : ∀ x : Stmt, Gives (x.read s) fun x' => Agree x.isFaithful x.pieces x'.pieces
  | .mk k p => .visit s p (.bind (k.read_agrees p) fun _ hk => .pure hk)

theorem readStmts_agrees : ∀ ss : List Stmt,
    Gives (readStmts s ss) fun ss' => AgreeRows (Stmt.areFaithful ss) (Stmt.piecesList ss)
      (GoRebuild.Stmt.piecesList ss')
  | [] => .pure .nil
  | x :: xs => .bind x.read_agrees fun _ h => .bind (readStmts_agrees xs) fun _ hs => .pure (.cons h hs)

theorem readStmt?_agrees : ∀ x : Option Stmt, Gives (readStmt? s x) fun x' => AgreeStmt? x x'
  | none => .pure trivial
  | some x => .bind x.read_agrees fun _ h => .pure h

theorem StmtKind.read_agrees (start : Lexical.Place) :
    ∀ k : StmtKind, Gives (k.read s start) fun k' => Agree k.isFaithful k.pieces k'.pieces
  | .decl d => .bind (d.read_agrees start) fun _ h => .pure h
  | .expr x => .bind x.read_agrees fun _ h => .pure h
  | .send x y => .bind x.read_agrees fun _ h => .bind y.read_agrees fun _ h' =>
    .pure ((h.before [sym "<-"] rfl).append h')
  | .step x t => .bind x.read_agrees fun _ h => .pure (h.before [sym t.text] rfl)
  | .assign l t r => .bind (readAll_agrees l) fun _ h => .bind (readAll_agrees r) fun _ h' =>
    .pure (((h.rows.separated (s := sym ",") rfl).before [sym t] rfl).append (h'.rows.separated rfl))
  | .receive l _ y => .bind y.read_agrees fun _ h' => .bind (readAll_agrees l) fun _ h =>
    .pure (agree_receive h h')
  | .returnStmt rs => .bind (readAll_agrees rs) fun _ h => .pure ((h.rows.separated (s := sym ",") rfl).behind [key "return"] rfl)
  | .goStmt x => .bind x.read_agrees fun _ h => .pure (h.behind [key "go"] rfl)
  | .deferStmt x => .bind x.read_agrees fun _ h => .pure (h.behind [key "defer"] rfl)
  | .labeled _ none => .pure (.refl rfl)
  | .labeled l (some x) => .bind x.read_agrees fun _ h => .pure (h.behind [name l.text, sym ":"] rfl)
  | .branch j => .pure (agree_branch s j)
  | .block (.mk ss _) => .bind (readStmts_agrees ss) fun _ h => .pure h.braces
  | .empty => .pure (.refl rfl)
  | .conditional c => c.read_agrees
  | .loop h b => .bind b.read_agrees fun _ hb => h.read_agrees hb
  | .switch i t cs =>
    .bind (readClauses_agrees cs) fun _ hcs => .bind (readStmt?_agrees i) fun _ hi =>
      .bind (readOption_agrees t) fun _ ht => .pure (agree_switch hi ht hcs)
  | .typeSwitch i [] x cs =>
    .bind x.read_agrees fun _ hx => .bind (.any _) fun _ _ => .bind (readClauses_agrees cs) fun _ hcs =>
      .bind (readStmt?_agrees i) fun _ hi => .pure (agree_guardless hi hx hcs)
  | .typeSwitch i (n :: ns) x cs =>
    .bind x.read_agrees fun _ hx => .bind (readAll_agrees (n :: ns)) fun _ hns =>
      .bind (readClauses_agrees cs) fun _ hcs => .bind (readStmt?_agrees i) fun _ hi =>
        .pure (agree_typeSwitch hi hns hx hcs)
  | .select cs => .bind (readCommClauses_agrees cs) fun _ h => .pure (h.braces.behind [key "select"] rfl)

theorem Conditional.read_agrees : ∀ c : Conditional, Gives (c.read s) fun k => Agree c.isFaithful c.pieces k.pieces
  | .mk i c b e _ =>
    .bind (readElse_agrees e) fun _ he => .bind (readStmt?_agrees i) fun _ hi =>
      .bind c.read_agrees fun _ hc => .bind b.read_agrees fun _ hb => .pure (agree_conditional hi hc hb he)

theorem readElse_agrees : ∀ e : Option Else, Gives (readElse s e) fun e' =>
    AgreeOption Else.pieces GoRebuild.Stmt.pieces (fun e => Else.isFaithful (some e)) e e'
  | none => .pure trivial
  | some (.block (.mk ss p)) => .visit s p (.bind (readStmts_agrees ss) fun _ h => .pure h.braces)
  | some (.chain c) => .visit s c.start (.bind c.read_agrees fun _ h => .pure h)

theorem LoopHeader.read_agrees {body : GoRebuild.Block} {b : Bool} {bs : List Piece} (hb : Agree b bs body.pieces) :
    ∀ h : LoopHeader, Gives (h.read s body) fun k => Agree (h.isFaithful && b) (h.pieces ++ bs) k.pieces
  | .forever => .pure (hb.behind (header "for" []) rfl)
  | .while c => .bind c.read_agrees fun _ h => .pure (((AgreeRows.one h).header "for").append hb)
  | .steps i c p =>
    .bind (readStmt?_agrees i) fun _ hi => .bind (readOption_agrees c) fun _ hc =>
      .bind (readStmt?_agrees p) fun _ hp => .pure (agree_steps hi hc hp hb)
  | .over x =>
    .bind x.read_agrees fun _ h => .pure (((AgreeRows.one (h.behind [key "range"] rfl)).header "for").append hb)
  | .assigning k more _ x =>
    .bind k.read_agrees fun _ hk => .bind (readAll_agrees more) fun _ hmore => .bind x.read_agrees fun _ hx =>
      .pure (agree_assigning hk hmore hx hb)

theorem readClauses_agrees : ∀ cs : List Clause,
    Gives (readClauses s cs) fun cs' => AgreeRows (Clause.areFaithful cs) (Clause.rows cs)
      (GoRebuild.Stmt.piecesList cs')
  | [] => .pure .nil
  | .case x xs b _ :: cs =>
    .bind x.read_agrees fun _ h => .bind (readAll_agrees xs) fun _ hs => .bind (readStmts_agrees b) fun _ hb =>
      .bind (readClauses_agrees cs) fun _ hcs => .pure (.cons
        (((((AgreeRows.cons h hs.rows).separated (s := sym ",") rfl).behind [key "case"] rfl).before [sym ":"] rfl).append
          (hb.separated (s := stop) rfl)) hcs)
  | .otherwise b _ :: cs =>
    .bind (readStmts_agrees b) fun _ hb => .bind (readClauses_agrees cs) fun _ hcs =>
      .pure (.cons ((hb.separated (s := stop) rfl).behind [key "default", sym ":"] rfl) hcs)

theorem readCommClauses_agrees : ∀ cs : List CommClause,
    Gives (readCommClauses s cs) fun cs' => AgreeRows (CommClause.areFaithful cs) (CommClause.rows cs)
      (GoRebuild.Stmt.piecesList cs')
  | [] => .pure .nil
  | .mk c b _ :: cs =>
    .bind (readStmt?_agrees c) fun _ hc => .bind (readStmts_agrees b) fun _ hb =>
      .bind (readCommClauses_agrees cs) fun _ hcs => .pure (.cons (agree_comm hc hb) hcs)

theorem Decl.read_agrees (start : Lexical.Place) : ∀ d : Decl, Gives (d.read s start) fun d' => Agree d.isFaithful d.pieces d'.pieces
  | .value t x _ => .bind x.read_agrees fun _ h => .pure (agree_values t false (.one h))
  | .values t xs _ => .bind (readValueSpecs_agrees xs) fun _ h => .pure (agree_values t true h)
  | .type x _ => .bind x.read_agrees fun _ h => .pure (((AgreeRows.one h).defs false).behind [key "type"] rfl)
  | .types xs _ => .bind (readTypeSpecs_agrees xs) fun _ h => .pure ((h.defs true).behind [key "type"] rfl)

theorem ValueSpec.read_agrees : ∀ x : ValueSpec, Gives (x.read s) fun x' => Agree x.isFaithful x.pieces x'.pieces
  | .mk _ _ t vs =>
    .bind (readOption_agrees t) fun _ ht => .bind (readAll_agrees vs) fun _ hvs => .pure (agree_valueSpec s ht hvs)

theorem readValueSpecs_agrees : ∀ xs : List ValueSpec,
    Gives (readValueSpecs s xs) fun xs' => AgreeRows (ValueSpec.areFaithful xs) (ValueSpec.rows xs)
      (Spec.piecesList xs')
  | [] => .pure .nil
  | x :: xs => .bind x.read_agrees fun _ h => .bind (readValueSpecs_agrees xs) fun _ hs => .pure (.cons h hs)

theorem TypeSpec.read_agrees : ∀ x : TypeSpec, Gives (x.read s) fun x' => Agree x.isFaithful x.pieces x'.pieces
  | .mk _ (some params) _ _ => .refuse s _ params
  | .mk _ none _ t => .bind t.read_agrees fun _ h => .pure (agree_typeSpec s h)

theorem readTypeSpecs_agrees : ∀ xs : List TypeSpec,
    Gives (readTypeSpecs s xs) fun xs' => AgreeRows (TypeSpec.areFaithful xs) (TypeSpec.rows xs)
      (Spec.piecesList xs')
  | [] => .pure .nil
  | x :: xs => .bind x.read_agrees fun _ h => .bind (readTypeSpecs_agrees xs) fun _ hs => .pure (.cons h hs)

end

end GoRebuild.Grammar
