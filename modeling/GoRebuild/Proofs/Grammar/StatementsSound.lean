import GoRebuild.Grammar.Statements
import GoRebuild.Proofs.Grammar.ExpressionsSound

/-!
# Declarations and statements are read as they stand

* `declaration_sound` : declarations in functions;
* `simple_sound` : expressions, sends, steps and assignments;
* `blockRule_sound`, `conditionalRule_sound`, `loopHeader_sound`, `switchRule_sound`, `selectRule_sound` :
  statements with blocks;
* `stmtRule_sound` : statements.
-/

namespace GoRebuild.Grammar
open Lexical Piece Scan

/-- An option and its row. -/
theorem Node.piecesOption_eq (x : Option Node) : Node.piecesOption x = ofOption Node.pieces x := by
  cases x <;> rfl

/-- A `;` needs no piece. -/
theorem fits_semicolon : Fits [sym ";"] [] := by
  intro us h
  generalize hps : [sym ";"] = ps at h
  induction h with
  | skip t ht _ ih => exact .skip t ht (ih hps)
  | token t ht h _ =>
    cases hps
    refine .skip t ?_ h
    simp [Lexeme.isEnd, show t.text = ";" from ht]
  | _ => cases hps

/-- A `;` is an end. -/
theorem fits_semicolon_stop : Fits [sym ";"] [stop] :=
  fits_semicolon.trans .add_stop

/-- Between entries an end may be missing. -/
theorem fits_flatten_separated (rows : List (List Piece)) :
    Fits rows.flatten (Piece.separated stop rows) := by
  induction rows with
  | nil => exact .refl []
  | cons row rows ih => exact ((Fits.refl row).append ih).trans (fits_separated row rows)

/-- Names behind the first one. -/
theorem names_pieces (n : Name) (more : List Name) :
    names ((n :: more).map Name.text) = [name n.text] ++ more.flatMap fun m => sym "," :: [name m.text] := by
  rw [List.map_cons, names_cons, List.flatMap_map]
  rfl

variable {l : Layer} (hl : l.IsSound)
include hl

/-! ## Declarations -/

theorem exprList_sound (f : Follow) :
    Sound (exprList l f) fun xs => Piece.separated (sym ",") (Node.piecesList xs) := by
  have hmore : Sound (do require (!(← ends f.line)); let _ ← take ","; l.expr f 1)
      fun x => sym "," :: x.pieces :=
    Continues.sound (.peek (peeks_ends f.line) fun _ => .require fun _ => .bind (sound_sym ",") fun _ =>
      (hl.expr f 1).continues)
  refine Continues.sound (.bind (hl.expr f 1) fun x => .bind (sound_many hmore l.bound) fun xs => .pure ?_)
  rw [Node.piecesList_eq_map, List.map_cons, separated_cons, List.flatMap_map]
  rfl

omit hl in
theorem exprList_ensures (f : Follow) : Ensures (exprList l f) (· ≠ []) :=
  .bind fun x => .bind fun xs => .pure (List.cons_ne_nil x xs)

omit hl in
/-- An entry with values. -/
theorem ValueSpec.pieces_of_ne_nil (n : Name) (more : List Name) (t : Option Node) {vs : List Node}
    (h : vs ≠ []) : (ValueSpec.mk n more t vs).pieces = names ((n :: more).map Name.text)
      ++ ofOption Node.pieces t ++ [sym "="] ++ Piece.separated (sym ",") (Node.piecesList vs) := by
  cases vs with
  | nil => exact absurd rfl h
  | cons v vs =>
    rw [← Node.piecesOption_eq]
    rfl

theorem constSpec_sound : Sound (constSpec l) ValueSpec.pieces := by
  have hmore : Sound (do require (!(← ends true)); let _ ← take ","; takeName)
      fun n => sym "," :: [name n.text] :=
    Continues.sound (.peek (peeks_ends true) fun _ => .require fun _ => .bind (sound_sym ",") fun _ =>
      sound_takeName.continues)
  refine Continues.sound (.bind sound_takeName fun n => .bind (sound_many hmore l.bound) fun more => ?_)
  refine .before (.of_eq (names_pieces n more).symm) (.orElse ?_ (.pure (List.append_nil _).symm))
  refine .peek (peeks_ends true) fun _ => .require fun _ => .peek (peeks_sees "=") fun _ =>
    .bind (sound_only _ (hl.type false)) fun t => .bind (sound_sym "=") fun _ =>
      .bind_of (exprList_ensures _) (exprList_sound hl _) fun vs hvs => .pure ?_
  exact (ValueSpec.pieces_of_ne_nil n more t hvs).symm

theorem varSpec_sound : Sound (varSpec l) ValueSpec.pieces := by
  refine Continues.sound (.bind sound_takeName fun n => .bind (sound_commaTail sound_takeName l.bound) fun more =>
    .before (.of_eq (names_pieces n more).symm) (.takes ?_ ?_))
  · refine .bind_of (exprList_ensures _) (exprList_sound hl _) fun vs hvs => .pure ?_
    rw [ValueSpec.pieces_of_ne_nil n more none hvs]
    simp [ofOption]
  · refine .bind (hl.type true) fun t => .peek (peeks_ends true) fun _ => .peek (peeks_sees "=") fun _ => ?_
    split
    · refine .bind (sound_sym "=") fun _ => .bind_of (exprList_ensures _) (exprList_sound hl _) fun vs hvs =>
        .pure ?_
      exact (ValueSpec.pieces_of_ne_nil n more (some t) hvs).symm
    · exact .pure rfl

theorem typeSpec_sound : Sound (typeSpec l) TypeSpec.pieces := by
  refine Continues.sound (.bind sound_takeName fun n => .takes ?_ (.orElse ?_ ?_))
  · exact .bind (hl.type true) fun t => .pure (by simp [TypeSpec.pieces, typeParamPieces])
  · exact .bind (hl.type true) fun t => .pure (by simp [TypeSpec.pieces, typeParamPieces])
  · refine .bind (typeParameters_sound hl) fun params => .bind (sound_takes "=") fun aliased =>
      .bind (hl.type true) fun t => .pure ?_
    rfl

omit hl in
theorem valueDecl_sound {tok : ValueTok} {word : String} (hword : tok.text = word) {spec : Parser ValueSpec}
    (hspec : Sound spec ValueSpec.pieces) : Sound (valueDecl l tok word spec) Decl.pieces := by
  subst hword
  refine Continues.sound (.bind (sound_key tok.text) fun _ => .peek (peeks_sees "(") fun _ => ?_)
  split
  · refine .bind (enclosed_sound hspec "(" ")" true) fun xs => .pure ?_
    rw [Decl.pieces, ValueSpec.rows_eq_map]
    rfl
  · refine .bind hspec fun x => .pure ?_
    simp [Decl.pieces, defs, Piece.separated]

theorem typeDecl_sound : Sound (typeDecl l) Decl.pieces := by
  refine Continues.sound (.bind (sound_key "type") fun _ => .peek (peeks_sees "(") fun _ => ?_)
  split
  · refine .bind (enclosed_sound (typeSpec_sound hl) "(" ")" false) fun xs => .pure ?_
    rw [Decl.pieces, TypeSpec.rows_eq_map]
    rfl
  · refine .bind (typeSpec_sound hl) fun x => .pure ?_
    simp [Decl.pieces, defs, Piece.separated]

theorem declaration_sound : Sound (declaration l) Decl.pieces :=
  .orElse (valueDecl_sound rfl (constSpec_sound hl))
    (.orElse (valueDecl_sound rfl (varSpec_sound hl)) (typeDecl_sound hl))

/-! ## Simple statements -/

/-- Expressions with commas between them. -/
def rowPieces (xs : List Node) : List Piece :=
  Piece.separated (sym ",") (Node.piecesList xs)

omit hl in
theorem rowPieces_cons (x : Node) (xs : List Node) :
    rowPieces (x :: xs) = x.pieces ++ xs.flatMap fun y => sym "," :: y.pieces := by
  rw [rowPieces, Node.piecesList_eq_map, List.map_cons, separated_cons, List.flatMap_map]

omit hl in
theorem rowPieces_singleton (x : Node) : rowPieces [x] = x.pieces := by
  rw [rowPieces_cons, List.flatMap_nil, List.append_nil]

theorem targets_sound (f : Follow) : Sound (targets l f) fun r => rowPieces (r.1 :: r.2) := by
  refine Continues.sound (.bind (hl.expr f 1) fun x => .peek (peeks_ends f.line) fun _ => ?_)
  split
  · exact .pure (rowPieces_singleton x).symm
  · exact .bind (sound_commaTail (hl.expr f.target 1) l.bound) fun more => .pure (rowPieces_cons x more).symm

omit hl in
theorem takeOp_sound (ops : List String) : Sound (takeOp ops) fun op => [sym op] := by
  intro ts x rest h
  unfold takeOp at h
  split at h
  · split at h
    · cases h
      exact .one (.one rfl)
    · cases h
  · cases h

omit hl in
theorem takeAssign_sound : Sound takeAssign fun op => [sym op.text] :=
  Continues.sound (.takes (.pure rfl) (.bind (sound_sym "=") fun _ => .pure rfl))

/-- Whether an assignment has something on its left. -/
def Stmt.HasTargets : Stmt → Prop
  | .mk (.assign xs _ _) _ => xs ≠ []
  | _ => True

theorem simpleTail_sound (pre : List Piece) (f : Follow) (x : Node) (more : List Node) :
    Continues (pre ++ rowPieces (x :: more)) (simpleTail l f x more) fun s => pre ++ s.pieces := by
  have hone (h : more = []) : rowPieces (x :: more) = x.pieces := by rw [h, rowPieces_singleton]
  refine .peek (peeks_ends f.line) fun stop => ?_
  split
  · rename_i h
    simp only [Bool.and_eq_true, List.isEmpty_iff] at h
    exact .pure (by rw [hone h.2]; rfl)
  refine .bind (sound_optional (takeOp_sound assignOps)) fun op => ?_
  cases op with
  | some op => exact .bind (exprList_sound hl f.value) fun right => .pure (by simp [Stmt.pieces, StmtKind.pieces,
      rowPieces, ofOption, Node.piecesList])
  | none =>
    refine .require fun h => ?_
    rw [ofOption, List.append_nil, hone (List.isEmpty_iff.mp h)]
    refine .takes ?_ (.takes ?_ (.takes ?_ (.pure rfl)))
    · exact .pure (List.append_assoc _ _ _)
    · exact .pure (List.append_assoc _ _ _)
    · exact .bind (hl.expr f.value 1) fun y => .pure (by simp [Stmt.pieces, StmtKind.pieces])

omit hl in
theorem simpleTail_ensures (f : Follow) (x : Node) (more : List Node) :
    Ensures (simpleTail l f x more) Stmt.HasTargets := by
  refine .bind fun stop => ?_
  split
  · exact .pure trivial
  refine .bind fun op => ?_
  split
  · exact .bind fun right => .pure (List.cons_ne_nil x more)
  · refine .bind fun _ => .bind fun _ => ?_
    split
    · exact .pure trivial
    refine .bind fun _ => ?_
    split
    · exact .pure trivial
    refine .bind fun _ => ?_
    split
    · exact .bind fun _ => .pure trivial
    · exact .pure trivial

theorem simple_sound (f : Follow) : Sound (simple l f) Stmt.pieces :=
  Continues.sound (.bind (targets_sound hl f) fun r => simpleTail_sound hl [] f r.1 r.2)

omit hl in
theorem simple_ensures (f : Follow) : Ensures (simple l f) Stmt.HasTargets :=
  .bind fun r => simpleTail_ensures f r.1 r.2

/-! ## Statements in a row -/

omit hl in
theorem peeks_rowEnds : Peeks rowEnds :=
  (peeks_sees "\x7d").bind fun _ => (peeks_sees "case").bind fun _ => (peeks_sees "default").bind fun _ =>
    peeks_pure _

omit hl in
theorem takeLabel_sound : Sound takeLabel fun n => [name n.text, sym ":"] :=
  Continues.sound (.bind sound_takeName fun _ => .peek (peeks_ends true) fun _ => .require fun _ =>
    .bind (sound_sym ":") fun _ => .pure rfl)

omit hl in
theorem lastLabel_sound : Sound lastLabel Stmt.pieces :=
  Continues.sound (.bind takeLabel_sound fun _ => .peek peeks_rowEnds fun _ => .require fun _ =>
    .pure rfl)

theorem stmts_sound (n : Nat) :
    Sound (stmts l n) fun ss => Piece.separated stop (Stmt.piecesList ss) := by
  induction n with
  | zero => exact sound_failure
  | succ n ih =>
    refine Continues.sound (.peek peeks_rowEnds fun _ => ?_)
    split
    · exact .pure rfl
    · refine .bind (.orElse lastLabel_sound hl.stmt) fun s => .peek peeks_rowEnds fun _ => ?_
      dsimp only
      split
      · exact .bind sound_takeEnd fun _ => .bind ih fun ss => .pure_fits (fits_stop_separated _ _)
      · exact .bind ih fun ss => .pure_fits (fits_separated _ _)

theorem blockRule_sound : Sound (blockRule l) Block.pieces :=
  Continues.sound (.bind (sound_sym "\x7b") fun _ => .bind (stmts_sound hl (l.bound + 1)) fun _ =>
    .bind (sound_sym "\x7d") fun _ => .pure rfl)

/-! ## Statements with blocks -/

/-- The first statement of a header and its end. -/
def initPieces (init : Option Stmt) : List Piece :=
  ofOption (fun s => s.pieces ++ [stop]) init

omit hl in
theorem header_one (keyword : String) (row : List Piece) : header keyword [row] = key keyword :: row := by
  rw [header, separated_one]

omit hl in
theorem header_rows (keyword : String) (init : Option Stmt) (row : List Piece) :
    header keyword (Stmt.rows init ++ [row]) = key keyword :: initPieces init ++ row := by
  cases init with
  | none => simp [header, Stmt.rows, initPieces, ofOption, Piece.separated]
  | some s => simp [header, Stmt.rows, initPieces, ofOption, Piece.separated]

theorem conditionalRule_sound : Sound (conditionalRule l) Conditional.pieces := by
  refine Continues.sound (.bind (sound_key "if") fun start => .bind (simple_sound hl .header) fun s => ?_)
  refine .andThen (f := fun r : Option Stmt × Node => key "if" :: initPieces r.1 ++ r.2.pieces) ?_ ?_
  · refine .takes ?_ ?_
    · refine .bind (hl.expr Follow.header.value 1) fun c => .pure_fits ?_
      have hinit := ((Fits.refl (key "if" :: s.pieces)).append fits_semicolon_stop).append (.refl c.pieces)
      simpa [initPieces, ofOption] using hinit
    · simp only [Bool.false_eq_true, if_false]
      split
      · exact .pure rfl
      · exact .failure
  · intro r
    obtain ⟨init, c⟩ := r
    dsimp only
    rw [← header_rows]
    refine .bind hl.block fun body => .peek (peeks_ends true) fun _ => .peek (peeks_sees "else") fun _ => ?_
    split
    · refine .bind (sound_key "else") fun _ => .peek (peeks_sees "if") fun _ => ?_
      split
      · exact .bind hl.conditional fun _ => .pure rfl
      · exact .bind hl.block fun _ => .pure rfl
    · exact .pure rfl

omit hl in
theorem fits_steps (init : Option Stmt) (c : Option Node) (post : Option Stmt) :
    Fits (key "for" :: Stmt.piecesOption init ++ [sym ";"] ++ ofOption Node.pieces c ++ [sym ";"]
      ++ ofOption Stmt.pieces post) (LoopHeader.steps init c post).pieces := by
  have hstops := ((((Fits.refl (key "for" :: Stmt.piecesOption init)).append fits_semicolon_stop).append
    (.refl (ofOption Node.pieces c))).append fits_semicolon_stop).append (.refl (ofOption Stmt.pieces post))
  cases init with
  | some i =>
    refine hstops.trans (.of_eq ?_)
    cases c <;> cases post <;> simp [LoopHeader.pieces, header, Piece.separated, Stmt.piecesOption,
      Node.piecesOption, ofOption]
  | none =>
    cases post with
    | some p =>
      refine hstops.trans (.of_eq ?_)
      cases c <;> simp [LoopHeader.pieces, header, Piece.separated, Stmt.piecesOption, Node.piecesOption,
        ofOption]
    | none =>
      -- both ends go
      have hnone := (((Fits.refl [key "for"]).append fits_semicolon).append
        (.refl (ofOption Node.pieces c))).append fits_semicolon
      cases c with
      | none => simpa [LoopHeader.pieces, header, Piece.separated, Stmt.piecesOption, Node.rows,
          ofOption] using hnone
      | some c => simpa [LoopHeader.pieces, header, Piece.separated, Stmt.piecesOption, Node.rows,
          ofOption] using hnone

theorem loopSteps_sound (init : Option Stmt) :
    Continues (key "for" :: Stmt.piecesOption init ++ [sym ";"]) (loopSteps l init) LoopHeader.pieces :=
  .peek (peeks_sees ";") fun _ => .bind (sound_only _ (hl.expr Follow.header.value 1)) fun c =>
    .bind (sound_sym ";") fun _ => .peek (peeks_sees "\x7b") fun _ =>
      .bind (sound_only _ (simple_sound hl .header)) fun post => .pure_fits (fits_steps init c post)

theorem loopHeader_sound : Continues [key "for"] (loopHeader l) LoopHeader.pieces := by
  refine .peek (peeks_sees "\x7b") fun _ => ?_
  split
  · exact .pure rfl
  refine .takes ?_ ?_
  · exact .before ((Fits.refl [key "for"]).append (.key_of_sym "range"))
      (.bind (hl.expr Follow.header.value 1) fun x => .pure (header_one "for" _).symm)
  refine .takes (loopSteps_sound hl none) ?_
  refine .bind (targets_sound hl .header) fun r => ?_
  obtain ⟨x, more⟩ := r
  refine .peek (peeks_seesAll _) fun _ => .peek (peeks_seesAll _) fun _ => ?_
  split
  · refine .bind takeAssign_sound fun op => .bind (sound_key "range") fun _ =>
      .bind (hl.expr Follow.header.value 1) fun y => .pure ?_
    simp [LoopHeader.pieces, header, Piece.separated, rowPieces, Node.piecesList]
  · refine .andThen (f := fun s => key "for" :: s.pieces) ?_ fun s => ?_
    · exact simpleTail_sound hl [key "for"] .header x more
    · refine .takes (loopSteps_sound hl (some s)) ?_
      simp only [Bool.false_eq_true, if_false]
      split
      · exact .pure (header_one "for" _).symm
      · exact .failure

/-! ## Clauses -/

omit hl in
/-- Clauses follow each other without an end. -/
theorem clauseRow_sound {α : Type} {p : Parser α} {f : α → List Piece} (hp : Sound p f) (n : Nat) :
    Sound (many p n) fun xs => Piece.separated stop (xs.map f) :=
  (sound_many hp n).fits fun xs => by
    rw [List.flatMap_def]
    exact fits_flatten_separated _

theorem caseClause_sound {list : Parser (List Node)} (hlist : Sound list rowPieces) :
    Sound (caseClause l list) Clause.pieces := by
  refine Continues.sound (.bind (sound_key "case") fun start => .bind hlist fun xs =>
    .bind (sound_sym ":") fun _ => .bind (stmts_sound hl (l.bound + 1)) fun body => ?_)
  cases xs with
  | nil => exact .failure
  | cons x more => exact .pure rfl

theorem defaultClause_sound : Sound (defaultClause l) Clause.pieces :=
  Continues.sound (.bind (sound_key "default") fun _ => .bind (sound_sym ":") fun _ =>
    .bind (stmts_sound hl (l.bound + 1)) fun _ => .pure rfl)

theorem clauses_sound {list : Parser (List Node)} (hlist : Sound list rowPieces) :
    Sound (clauses l list) fun cs => braces (Clause.rows cs) := by
  refine Continues.sound (.bind (sound_sym "\x7b") fun _ => .bind (clauseRow_sound
    (.orElse (caseClause_sound hl hlist) (defaultClause_sound hl)) l.bound) fun cs =>
      .bind (sound_sym "\x7d") fun _ => .pure ?_)
  rw [Clause.rows_eq_map]
  rfl

theorem typeRow_sound : Sound (commaList (l.type false) l.bound) rowPieces :=
  (sound_commaList (hl.type false) l.bound).fits fun xs => .of_eq (by rw [rowPieces, Node.piecesList_eq_map])

/-- What stands before the value of a switch over types. -/
def guardPieces : List Node → List Piece
  | [] => []
  | x :: xs => rowPieces (x :: xs) ++ [sym ":="]

theorem typeSwitchTail_sound (init : Option Stmt) (ns : List Node) (x : Node) :
    Continues (key "switch" :: initPieces init ++ (guardPieces ns ++ x.pieces))
      (typeSwitchTail l init ns x) StmtKind.pieces := by
  refine .require fun _ => .bind (sound_sym ".") fun _ => .bind (sound_sym "(") fun _ =>
    .bind (sound_key "type") fun _ => .bind (sound_sym ")") fun _ =>
      .bind (clauses_sound hl (typeRow_sound hl)) fun cs => .pure ?_
  cases ns with
  | nil =>
    rw [StmtKind.pieces, header_rows]
    simp [guardPieces, asserted]
  | cons n ns =>
    rw [StmtKind.pieces, header_rows]
    simp [guardPieces, asserted, rowPieces, Node.piecesList]

omit hl in
theorem switch_pieces (init : Option Stmt) (t : Option Node) (cs : List Clause) :
    (StmtKind.switch init t cs).pieces =
      key "switch" :: initPieces init ++ ofOption Node.pieces t ++ braces (Clause.rows cs) := by
  cases init <;> cases t <;> simp [StmtKind.pieces, header, Node.rows, Node.piecesOption, initPieces, ofOption,
    Piece.separated]

theorem switchTail_sound (init last : Option Stmt) (hlast : ∀ s ∈ last, s.HasTargets) :
    Continues (key "switch" :: initPieces init ++ ofOption Stmt.pieces last) (switchTail l init last)
      StmtKind.pieces := by
  refine .peek (peeks_sees ".") fun _ => ?_
  split
  · split
    · exact typeSwitchTail_sound hl init [] _
    · rename_i ns x p
      have hns : ns ≠ [] := hlast _ rfl
      cases ns with
      | nil => exact absurd rfl hns
      | cons n ns =>
        refine .before (.of_eq ?_) (typeSwitchTail_sound hl init (n :: ns) x)
        simp [ofOption, guardPieces, Stmt.pieces, StmtKind.pieces, rowPieces, Node.piecesList]
    · exact .failure
  · refine .bind (clauses_sound hl (exprList_sound hl .inside)) fun cs => ?_
    split
    · exact .pure (switch_pieces init none cs).symm
    · exact .pure (switch_pieces init (some _) cs).symm
    · exact .failure

theorem switchRule_sound : Sound (switchRule l) StmtKind.pieces := by
  refine Continues.sound (.bind (sound_key "switch") fun _ => .peek (peeks_sees "\x7b") fun _ => ?_)
  split
  · exact switchTail_sound hl none none (by simp)
  refine .bind_of (simple_ensures .header) (simple_sound hl .header) fun s hs => .takes ?_ ?_
  · refine .peek (peeks_sees "\x7b") fun bare => .bind_of ((simple_ensures _).only (!bare))
      (sound_only (!bare) (simple_sound hl _)) fun t ht => ?_
    have hinit := ((Fits.refl (key "switch" :: s.pieces)).append fits_semicolon_stop).append
      (.refl (ofOption Stmt.pieces t))
    refine .before (hinit.trans (.of_eq ?_)) (switchTail_sound hl (some s) t ht)
    simp [initPieces, ofOption]
  · exact switchTail_sound hl none (some s) (by simpa using hs)

/-! ## Select -/

theorem communication_sound : Sound (communication l) Stmt.pieces := by
  refine Continues.sound (.bind (targets_sound hl _) fun r => ?_)
  obtain ⟨x, more⟩ := r
  refine .bind (sound_optional takeAssign_sound) fun op => ?_
  cases op with
  | some op => exact .bind (hl.expr _ 1) fun y => .pure rfl
  | none =>
    refine .require fun h => ?_
    rw [ofOption, List.append_nil, List.isEmpty_iff.mp h, rowPieces_singleton]
    exact .takes (.bind (hl.expr _ 1) fun y => .pure rfl) (.pure rfl)

theorem commClause_sound : Sound (commClause l) CommClause.pieces := by
  refine Continues.sound (.peek peeks_here fun start => .takes ?_ ?_)
  · refine .before (Fits.key_of_sym "case")
      (.bind_of (ensures_only _ _) (sound_only _ (communication_sound hl)) fun comm hcomm => ?_)
    cases comm with
    | none => cases hcomm
    | some c => exact .bind (sound_sym ":") fun _ => .bind (stmts_sound hl (l.bound + 1)) fun _ => .pure rfl
  · refine .bind_of (ensures_only _ _) (sound_only _ (communication_sound hl)) fun comm hcomm => ?_
    cases comm with
    | none =>
      exact .bind (sound_key "default") fun _ => .bind (sound_sym ":") fun _ =>
        .bind (stmts_sound hl (l.bound + 1)) fun _ => .pure rfl
    | some c => cases hcomm

theorem selectRule_sound : Sound (selectRule l) StmtKind.pieces := by
  refine Continues.sound (.bind (sound_key "select") fun _ => .bind (sound_sym "\x7b") fun _ =>
    .bind (clauseRow_sound (commClause_sound hl) l.bound) fun cs => .bind (sound_sym "\x7d") fun _ => .pure ?_)
  rw [StmtKind.pieces, CommClause.rows_eq_map]
  rfl

/-! ## Statements -/

theorem labeled_sound : Sound (labeled l) StmtKind.pieces :=
  Continues.sound (.bind takeLabel_sound fun _ => .bind hl.stmt fun _ => .pure rfl)

omit hl in
theorem jumpLabel_sound : Sound jumpLabel fun label => label.toList.map fun n => name n.text := by
  refine Continues.sound (.peek (peeks_ends true) fun _ => ?_)
  split
  · exact .pure rfl
  · refine (sound_optional sound_takeName).continues.mono fun label => .of_eq ?_
    cases label <;> rfl

theorem returnStmt_sound : Sound (keywordStmt l "return") StmtKind.pieces := by
  refine Continues.sound (.bind (sound_key "return") fun _ => .peek (peeks_ends true) fun _ => ?_)
  split
  · exact .pure rfl
  · refine .bind (sound_optional (exprList_sound hl _)) fun xs => .pure ?_
    cases xs <;> rfl

theorem keywordStmt_sound (word : String) : Sound (keywordStmt l word) StmtKind.pieces := by
  unfold keywordStmt
  split
  · exact Continues.sound (.bind hl.block fun _ => .pure rfl)
  · exact Continues.sound (.bind (sound_sym ";") fun _ => .pure_fits fits_semicolon)
  · exact returnStmt_sound hl
  · exact Continues.sound (.bind (sound_key "go") fun _ => .bind (hl.expr _ 1) fun _ => .pure rfl)
  · exact Continues.sound (.bind (sound_key "defer") fun _ => .bind (hl.expr _ 1) fun _ => .pure rfl)
  · exact Continues.sound (.bind (sound_key "break") fun _ => .bind jumpLabel_sound fun _ => .pure rfl)
  · exact Continues.sound (.bind (sound_key "continue") fun _ => .bind jumpLabel_sound fun _ => .pure rfl)
  · exact Continues.sound (.bind (sound_key "goto") fun _ => .bind sound_takeName fun _ => .pure rfl)
  · exact Continues.sound (.bind (sound_key "fallthrough") fun _ => .pure rfl)
  · exact Continues.sound (.bind (conditionalRule_sound hl) fun _ => .pure rfl)
  · exact Continues.sound (.bind (sound_key "for") fun _ => .andThen (loopHeader_sound hl) fun _ =>
      .bind hl.block fun _ => .pure rfl)
  · exact switchRule_sound hl
  · exact selectRule_sound hl
  · exact Continues.sound (.bind (declaration_sound hl) fun _ => .pure rfl)
  · exact Continues.sound (.bind (declaration_sound hl) fun _ => .pure rfl)
  · exact Continues.sound (.bind (declaration_sound hl) fun _ => .pure rfl)
  · exact labeled_sound hl

theorem stmtRule_sound : Sound (stmtRule l) Stmt.pieces := by
  refine Continues.sound (.peek peeks_next fun t => ?_)
  cases t with
  | none => exact .failure
  | some t =>
    exact .orElse (.bind (keywordStmt_sound hl t.text) fun _ => .pure rfl) (simple_sound hl .statement).continues

end GoRebuild.Grammar
