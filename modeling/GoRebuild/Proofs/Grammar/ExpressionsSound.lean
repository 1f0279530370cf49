import GoRebuild.Grammar.Expressions
import GoRebuild.Proofs.Grammar.TypesSound

/-!
# Expressions are read as they stand

* `callTail_sound`, `indexTail_sound`, `instanceTail_sound` : what follows an operand;
* `operand_sound`, `postfixes_sound` : operands;
* `IsOperator`, `takeHalf_sound` : an operator, which may be the first character of its token;
* `exprRule_sound`, `bracesRule_sound` : expressions and the elements of literals.
-/

namespace GoRebuild.Grammar
open Lexical Piece Scan

/-- A callee that is read as a generic type stands for the same tokens. -/
theorem Node.fits_asGeneric (x t : Node) (h : x.asGeneric? = some t) : Fits x.pieces t.pieces := by
  induction x using Node.asGeneric?.induct generalizing t with
  | case1 x i p hcond =>
    rw [Node.asGeneric?, if_pos hcond] at h
    cases h
    exact fits_anything _
  | case2 x i p hcond =>
    rw [Node.asGeneric?, if_neg hcond] at h
    cases h
  | case3 x p ih =>
    rw [Node.asGeneric?, Option.map_eq_some_iff] at h
    obtain ⟨t, ht, rfl⟩ := h
    exact ((Fits.refl [sym "("]).append (ih t ht)).append (.refl [sym ")"])
  | case4 x p ih =>
    rw [Node.asGeneric?, Option.map_eq_some_iff] at h
    obtain ⟨t, ht, rfl⟩ := h
    exact (Fits.refl [sym "*"]).append (ih t ht)
  | case5 q p =>
    cases h
    exact fits_anything _
  | case6 x hindex hparen hstar hgeneric =>
    rw [Node.asGeneric?] at h
    · cases h
    all_goals assumption

theorem peeks_seesBraces (f : Follow) : Peeks (seesBraces f) :=
  (peeks_ends f.line).bind fun _ => (peeks_sees "\x7b").bind fun _ => peeks_pure _

/-- Parentheses with nothing in them. -/
theorem fits_parens_nil : Fits [sym "(", sym ")"] (parens []) :=
  ((Fits.refl [sym "("]).append .add_comma).append (.refl [sym ")"])

variable {l : Layer} (hl : l.IsSound)
include hl

/-! ## Calls -/

theorem argument_sound : Sound (argument l) Arg.pieces := by
  refine Continues.sound (.bind (hl.expr .inside 1) fun x => .takes ?_ ?_)
  · exact .pure rfl
  · exact .pure rfl

theorem argList_sound : Sound (argList l) fun as => parens (Arg.rows as) := by
  refine Continues.sound (.bind (sound_sym "(") fun _ => .takes ?_ ?_)
  · exact .pure_fits fits_parens_nil
  · refine .bind (sound_commaList (argument_sound hl) l.bound) fun as => .bind (sound_closing ")") fun _ =>
      .pure ?_
    rw [Arg.rows_eq_map]
    rfl

theorem typeFirstArgs_sound : Sound (typeFirstArgs l) fun as => parens (Arg.rows as) := by
  refine Continues.sound (.bind (sound_sym "(") fun _ => .takes ?_ ?_)
  · exact .pure_fits fits_parens_nil
  · refine .bind (hl.type false) fun t => .bind (sound_commaTail (hl.expr .inside 1) l.bound) fun more =>
      .bind (sound_closing ")") fun _ => .pure ?_
    have hrows : Piece.separated (sym ",") (Arg.rows (.plain t :: more.map .plain)) =
        t.pieces ++ more.flatMap fun x => sym "," :: x.pieces := by
      rw [Arg.rows_eq_map, List.map_cons, separated_cons, List.map_map, List.flatMap_map]
      rfl
    rw [parens, hrows]
    simp

theorem callTail_sound (fn : Node) : Continues fn.pieces (callTail l fn) Node.pieces := by
  refine .bind (argList_sound hl) fun as => ?_
  split
  · rename_i x t ht
    exact .pure_fits ((fn.fits_asGeneric t ht).append (.refl (parens [x.pieces])))
  · split
    · exact .pure_fits (fits_anything _)
    · exact .pure rfl

theorem convertTail_sound (t : Node) : Continues t.pieces (convertTail l t) Node.pieces :=
  .bind (sound_sym "(") fun _ => .bind (hl.expr .inside 1) fun x => .bind (sound_closing ")") fun _ =>
    .pure (by simp [Node.pieces, NodeKind.pieces, parens, Piece.separated])

theorem compositeTail_sound (t : Node) : Continues t.pieces (compositeTail l t) Node.pieces :=
  .bind hl.braces fun _ => .pure rfl

/-! ## Brackets -/

theorem sliceTail_sound (x : Node) (low : Option Node) :
    Continues (x.pieces ++ [sym "["] ++ Node.piecesOption low ++ [sym ":"]) (sliceTail l x low)
      Node.pieces := by
  refine .peek (peeks_sees "]") fun stop => .bind (sound_only (!stop) (hl.expr .inside 1)) fun high => ?_
  cases high with
  | none =>
    exact .bind (sound_sym "]") fun _ => .pure (by
      simp [Node.pieces, NodeKind.pieces, brackets, Piece.separated, ofOption, Node.piecesOption])
  | some h =>
    refine .takes ?_ ?_
    · exact .bind (hl.expr .inside 1) fun max => .bind (sound_sym "]") fun _ => .pure (by
        simp [Node.pieces, NodeKind.pieces, brackets, Piece.separated, ofOption])
    · exact .bind (sound_sym "]") fun _ => .pure (by
        simp [Node.pieces, NodeKind.pieces, brackets, Piece.separated, ofOption, Node.piecesOption])

theorem indexTail_sound (f : Follow) (x : Node) :
    Continues x.pieces (indexTail l f x) Node.pieces := by
  refine .bind (sound_sym "[") fun _ => .takes ?_ ?_
  · exact .before (.of_eq (by simp [Node.piecesOption])) (sliceTail_sound hl x none)
  · refine .bind (hl.expr .inside 1) fun i => .takes ?_ ?_
    · exact sliceTail_sound hl x (some i)
    · refine .bind (sound_sym "]") fun _ => .peek (peeks_seesBraces f) fun _ => ?_
      split
      · exact .before (fits_anything _) (compositeTail_sound hl (.refused .genericType x.start))
      · exact .pure (by simp [Node.pieces, NodeKind.pieces, brackets])

theorem instanceTail_sound (f : Follow) (x : Node) :
    Continues x.pieces (instanceTail l f x) Node.pieces := by
  refine .peek peeks_here fun place => .bind (typeArguments_sound hl) fun single =>
    .peek (peeks_ends f.line) fun stop => .peek (peeks_sees "(") fun _ => ?_
  split
  · refine .bind (argList_sound hl) fun as => ?_
    split
    · rename_i y
      split
      · exact .pure_fits ((fits_anything _).append (.refl (parens [y.pieces])))
      · exact .pure_fits (fits_anything _)
    · exact .pure_fits (fits_anything _)
  · refine .peek (peeks_seesBraces f) fun _ => ?_
    split
    · exact .before (fits_anything _) (compositeTail_sound hl (.refused .genericType x.start))
    · exact .require fun _ => .pure_fits (fits_anything _)

/-! ## Operands -/

theorem pureInstance_sound (f : Follow) (t : Node) :
    Continues t.pieces (pureInstance l f t) Node.pieces :=
  .bind (sound_optional (typeArguments_sound hl)) fun _ => .peek (peeks_seesBraces f) fun _ =>
    .require fun _ => .pure_fits (fits_anything _)

theorem typeOperand_sound (f : Follow) : Sound (typeOperand l f) Node.pieces := by
  refine Continues.sound (.bind (typeRule_sound hl false) fun t => .require fun _ =>
    .peek (peeks_sees "\x7b") fun _ => ?_)
  split
  · exact compositeTail_sound hl t
  · exact .orElse (convertTail_sound hl t) (pureInstance_sound hl f t)

theorem openArrayOperand_sound : Sound (openArrayOperand l) Node.pieces :=
  Continues.sound (.bind (sound_sym "[") fun start => .bind (sound_sym "...") fun _ =>
    .bind (sound_sym "]") fun _ => .bind (hl.type false) fun t =>
      compositeTail_sound hl (.mk (.openArray t) start))

theorem funcOperand_sound : Sound (funcOperand l) Node.pieces :=
  Continues.sound (.bind (sound_key "func") fun _ => .bind (signature_sound hl false) fun _ =>
    .bind hl.block fun _ => .pure rfl)

theorem parenOperand_sound : Sound (parenOperand l) Node.pieces :=
  Continues.sound (.bind (sound_sym "(") fun _ => .bind (hl.expr .inside 1) fun _ =>
    .bind (sound_sym ")") fun _ => .pure rfl)

theorem wordOperand_sound (f : Follow) : Sound (wordOperand l f) Node.pieces := by
  refine Continues.sound (.bind sound_takeName fun n => .peek (peeks_ends f.line) fun _ =>
    .peek (peeks_sees "(") fun _ => ?_)
  split
  · exact .bind (typeFirstArgs_sound hl) fun _ => .pure rfl
  · exact .pure rfl

omit hl in
theorem literalOperand_sound : Sound literalOperand Node.pieces := by
  intro ts x rest h
  unfold literalOperand at h
  split at h
  · cases h
    exact .one (.one rfl)
  · cases h

theorem operand_sound (f : Follow) : Sound (operand l f) Node.pieces := by
  refine Continues.sound (.peek peeks_next fun t => ?_)
  cases t with
  | none => exact .failure
  | some t =>
    dsimp only
    split
    · exact .preferring (typeOperand_sound hl f).continues (parenOperand_sound hl).continues _
    · exact .orElse (openArrayOperand_sound hl).continues (typeOperand_sound hl f).continues
    · exact .orElse (funcOperand_sound hl).continues (typeOperand_sound hl f).continues
    · exact .orElse (wordOperand_sound hl f).continues
        (.orElse literalOperand_sound.continues (typeOperand_sound hl f).continues)

theorem postfixes_sound (f : Follow) (n : Nat) (x : Node) :
    Continues x.pieces (postfixes l f n x) Node.pieces := by
  induction n generalizing x with
  | zero => exact .pure rfl
  | succ n ih =>
    refine .peek (peeks_ends f.line) fun _ => ?_
    split
    · exact .pure rfl
    refine .peek (peeks_seesAll _) fun _ => ?_
    split
    · exact .pure rfl
    refine .peek (peeks_sees ".") fun _ => ?_
    split
    · refine .bind (sound_sym ".") fun _ => .takes ?_ ?_
      · refine .bind (hl.type false) fun t => .bind (sound_sym ")") fun _ => .before ?_ (ih _)
        exact .of_eq (by simp [Node.pieces, NodeKind.pieces, asserted])
      · refine .bind sound_takeName fun m => .before ?_ (ih _)
        exact ((x.fits_basePieces.append (.refl [sym "."])).append (.refl [name m.text])).trans
          (.of_eq (List.append_assoc _ _ _))
    refine .peek (peeks_sees "[") fun _ => ?_
    split
    · exact .andThen (.preferring (instanceTail_sound hl f x) (indexTail_sound hl f x) _) fun y => ih y
    refine .peek (peeks_sees "(") fun _ => ?_
    split
    · exact .andThen (callTail_sound hl x) fun y => ih y
    refine .peek (peeks_seesBraces f) fun _ => ?_
    split
    · exact .andThen (compositeTail_sound hl x) fun y => ih y
    · exact .pure rfl

/-! ## Operators -/

/-- An operator that is the token `text`, or the first character of it. -/
def IsOperator (text op : String) (half : Bool) : Prop :=
  if half then ∃ a b, text = String.ofList [a, b] ∧ op = a.toString ∧ twofold.contains text
  else op = text

omit hl in
theorem take_sound {t : Token} {op : String} (h : IsOperator t.text op false) :
    SoundAt t (take t.text) fun _ => [sym op] := by
  obtain rfl : op = t.text := h
  exact fun ts x rest => sound_sym t.text (t :: ts) x rest

omit hl in
/-- A token of two characters is left with its second one. -/
theorem takeHalf_sound {t : Token} {op : String} (h : IsOperator t.text op true) :
    SoundAt t takeHalf fun _ => [sym op] := by
  obtain ⟨a, b, htext, rfl, hab⟩ := h
  intro ts x rest h hts
  -- no token for the end of a source is such an operator
  have hkind : t.kind ≠ .stop := by
    intro hstop
    rw [hts t (.head _) hstop] at hab
    exact absurd hab (by decide)
  have hchars : t.text.toList = [a, b] := by rw [htext, String.toList_ofList]
  unfold takeHalf at h
  simp only [hchars] at h
  cases h
  refine ⟨fun u hu => ?_, [⟨t.kind, a.toString⟩], ?_, .one rfl⟩
  · rcases List.mem_cons.mp hu with rfl | hu
    · exact fun hstop => absurd hstop hkind
    · exact hts u (.tail _ hu)
  · rw [htext] at hab
    have hsplit : Splits (⟨t.kind, String.ofList [a, b]⟩ :: lexemes ts)
        (⟨t.kind, a.toString⟩ :: ⟨t.kind, b.toString⟩ :: lexemes ts) := .split _ a b hab (.refl _)
    rw [← htext] at hsplit
    exact hsplit

omit hl in
theorem isOperator_ofToken {text : String} {op : PrefixOp} {half : Bool}
    (h : PrefixOp.ofToken? text = some (op, half)) : IsOperator text op.text half := by
  unfold PrefixOp.ofToken? at h
  split at h
  all_goals cases h
  all_goals first | rfl | exact ⟨_, _, rfl, rfl, by decide⟩

omit hl in
theorem isOperator_operatorOf (f : Follow) (text : String) :
    IsOperator text (operatorOf f text).1 (operatorOf f text).2 := by
  unfold operatorOf
  simp only [Bool.and_eq_true, decide_eq_true_eq]
  split
  · rename_i hplus
    exact ⟨'+', '+', hplus.1, rfl, by rw [hplus.1]; decide⟩
  split
  · rename_i hminus
    exact ⟨'-', '-', hminus.1, rfl, by rw [hminus.1]; decide⟩
  split
  · rename_i harrow
    exact ⟨'<', '-', harrow.1, rfl, by rw [harrow.1]; decide⟩
  · rfl

theorem typePostfixes_sound (f : Follow) :
    Sound (do let x ← typeOperand l f; postfixes l f l.bound x) Node.pieces :=
  Continues.sound (.bind (typeOperand_sound hl f) fun x => postfixes_sound hl f l.bound x)

theorem unary_sound (f : Follow) : Sound (unary l f) Node.pieces := by
  refine Continues.sound (.next .failure fun t => ?_)
  dsimp only
  split
  · refine .orElse ((typePostfixes_sound hl f).continues.here t) (Continues.here t ?_)
    exact .bind (sound_sym "*") fun _ => .bind (hl.expr f 6) fun _ => .pure rfl
  · split
    · rename_i op half hop
      refine .orElse ((typePostfixes_sound hl f).continues.here t) ?_
      have hop := isOperator_ofToken hop
      split
      · rename_i hhalf
        subst hhalf
        exact .bind (takeHalf_sound hop) fun _ => .bind (hl.expr f 6) fun _ => .pure rfl
      · rename_i hhalf
        rw [Bool.not_eq_true] at hhalf
        subst hhalf
        exact .bind (take_sound hop) fun _ => .bind (hl.expr f 6) fun _ => .pure rfl
    · refine Continues.here t ?_
      exact .bind (operand_sound hl f) fun x => postfixes_sound hl f l.bound x

theorem infixes_sound (f : Follow) (level n : Nat) (x : Node) :
    Continues x.pieces (infixes l f level n x) Node.pieces := by
  induction n generalizing x with
  | zero => exact .pure rfl
  | succ n ih =>
    refine .peek (peeks_ends f.line) fun _ => ?_
    split
    · exact .pure rfl
    refine .next (.pure rfl) fun t => ?_
    have hop := isOperator_operatorOf f t.text
    dsimp only
    generalize operatorOf f t.text = r at hop ⊢
    obtain ⟨op, half⟩ := r
    split
    · exact Continues.here t (.pure rfl)
    -- the operand behind the operator, and the operators behind that
    cases half with
    | true =>
      refine .bind (takeHalf_sound hop) fun _ => .bind (hl.expr f _) fun y => ?_
      exact ih (.mk (.binary x op y) x.start)
    | false =>
      refine .bind (take_sound hop) fun _ => .bind (hl.expr f _) fun y => ?_
      exact ih (.mk (.binary x op y) x.start)

theorem exprRule_sound (f : Follow) (level : Nat) : Sound (exprRule l f level) Node.pieces :=
  Continues.sound (.bind (unary_sound hl f) fun x => infixes_sound hl f level l.bound x)

/-! ## Elements of literals -/

theorem plainElement_sound : Sound (plainElement l) Node.pieces := by
  refine Continues.sound (.peek (peeks_sees "\x7b") fun _ => ?_)
  split
  · exact .peek peeks_here fun _ => .bind hl.braces fun _ => .pure rfl
  · exact (hl.expr .inside 1).continues

theorem literalElement_sound : Sound (literalElement l) Node.pieces := by
  refine Continues.sound (.bind (plainElement_sound hl) fun x => .takes ?_ ?_)
  · exact .bind (plainElement_sound hl) fun _ => .pure rfl
  · exact .pure rfl

theorem bracesRule_sound : Sound (bracesRule l) fun es => values (Node.piecesList es) := by
  have helems : Sound (commaList (literalElement l) l.bound <|> pure [])
      fun es => Piece.separated (sym ",") (es.map Node.pieces) :=
    .orElse (sound_commaList (literalElement_sound hl) l.bound) (sound_pure rfl)
  refine Continues.sound (.bind (sound_sym "\x7b") fun _ => .bind helems fun es =>
    .bind (sound_closing "\x7d") fun _ => .pure ?_)
  rw [Node.piecesList_eq_map]
  rfl

end GoRebuild.Grammar
