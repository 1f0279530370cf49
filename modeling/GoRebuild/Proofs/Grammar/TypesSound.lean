import GoRebuild.Grammar.Types
import GoRebuild.Proofs.Grammar.Pieces
import GoRebuild.Proofs.Grammar.Reads

/-!
# Types are read as they stand

* `Layer.IsSound` : the parsers for what may stand inside itself are sound;
* `typeRule_sound` : so is that for types, built from them (`signature_sound`, `member_sound`,
  `element_sound` and so on).
-/

namespace GoRebuild.Grammar
open Lexical Piece Scan

/-- The parsers of a layer are sound. -/
structure Layer.IsSound (l : Layer) : Prop where
  expr : ∀ f level, Sound (l.expr f level) Node.pieces
  type : ∀ line, Sound (l.type line) Node.pieces
  braces : Sound l.braces fun es => values (Node.piecesList es)
  block : Sound l.block Block.pieces
  stmt : Sound l.stmt Stmt.pieces
  conditional : Sound l.conditional Conditional.pieces

/-! ## Rows -/

/-- An end behind the last entry of a row is no entry. -/
theorem fits_stop_separated (row : List Piece) (rows : List (List Piece)) :
    Fits (row ++ [stop] ++ Piece.separated stop rows) (Piece.separated stop (row :: rows)) := by
  cases rows with
  | nil =>
    have hlast := (Fits.refl row).append .drop_stop
    simpa [Piece.separated] using hlast
  | cons row' rows => exact .of_eq (by simp [Piece.separated])

/-- An end between two entries may be missing. -/
theorem fits_separated (row : List Piece) (rows : List (List Piece)) :
    Fits (row ++ Piece.separated stop rows) (Piece.separated stop (row :: rows)) := by
  have hend := ((Fits.refl row).append .add_stop).append (.refl (Piece.separated stop rows))
  rw [List.append_nil] at hend
  exact hend.trans (fits_stop_separated row rows)

theorem entries_sound {α : Type} {p : Parser α} {f : α → List Piece} (hp : Sound p f) (bracket : String)
    (strict : Bool) (n : Nat) :
    Sound (entries p bracket strict n) fun xs => Piece.separated stop (xs.map f) := by
  induction n with
  | zero => exact sound_failure
  | succ n ih =>
    refine Continues.sound (.peek (peeks_sees bracket) fun _ => ?_)
    split
    · exact .pure rfl
    · refine .bind hp fun x => .peek (peeks_sees bracket) fun _ => ?_
      have hstop (xs : List α) := fits_stop_separated (f x) (xs.map f)
      have hnone (xs : List α) := fits_separated (f x) (xs.map f)
      dsimp only
      split
      · exact .bind sound_takeEnd fun _ => .bind ih fun xs => .pure_fits (hstop xs)
      · exact .bind ih fun xs => .pure_fits (hnone xs)

/-- A base before a dot is read as a name. -/
theorem Node.fits_basePieces (x : Node) : Fits x.pieces x.basePieces := by
  obtain ⟨k, p⟩ := x
  cases k with
  | name n =>
    intro us h
    generalize hps : Node.pieces (.mk (.name n) p) = ps at h
    induction h with
    | skip t ht _ ih => exact .skip t ht (ih hps)
    | token t ht h _ => cases hps; exact .token t ht h
    | _ => cases hps
  | _ => exact .refl _

/-- Where the pieces are not kept, any tokens will do. -/
theorem fits_anything (ps : List Piece) : Fits ps [anything] := by
  intro us h
  have hany : Renders [anything] (us ++ []) := .anything us .nil
  rwa [List.append_nil] at hany

variable {l : Layer} (hl : l.IsSound)
include hl

/-! ## Names and generic lists -/

theorem unionTail_sound (line : Bool) :
    Sound (unionTail l line) fun ts => ts.flatMap fun t => sym "|" :: t.pieces :=
  sound_many (Continues.sound (.peek (peeks_ends line) fun _ => .require fun _ =>
    .bind (sound_sym "|") fun _ => (hl.type line).continues)) l.bound

theorem typeElem_sound : Sound (typeElem l) fun _ => [anything] :=
  Continues.sound (.bind (hl.type false) fun _ => .bind (unionTail_sound hl false) fun _ =>
    .pure_fits (fits_anything _))

theorem typeArguments_sound : Sound (typeArguments l) fun _ => [anything] :=
  Continues.sound (.bind (sound_sym "[") fun _ =>
    .bind (sound_commaList (typeElem_sound hl) l.bound) fun _ => .bind (sound_closing "]") fun _ =>
      .pure_fits (fits_anything _))

theorem typeParameters_sound : Sound (typeParameters l) fun _ => [anything] :=
  Continues.sound (.bind (sound_sym "[") fun _ => .bind (sound_commaList (f := fun _ => [anything])
    (Continues.sound (.bind sound_takeName fun _ =>
      (sound_optional (typeElem_sound hl)).continues.mono fun _ => fits_anything _)) l.bound) fun _ =>
      .require fun _ => .bind (sound_closing "]") fun _ => .pure_fits (fits_anything _))

omit hl in
theorem qualifiedName_sound (line : Bool) : Sound (qualifiedName line) Node.pieces := by
  refine Continues.sound (.bind sound_takeName fun n => .peek (peeks_ends line) fun _ =>
    .peek (peeks_sees ".") fun _ => ?_)
  split
  · exact .bind (sound_sym ".") fun _ => .bind sound_takeName fun m =>
      .pure_fits ((n.node.fits_basePieces.append (.refl [sym "."])).append (.refl [name m.text]))
  · exact .pure rfl

theorem namedType_sound (line : Bool) : Sound (namedType l line) Node.pieces := by
  refine Continues.sound (.bind (qualifiedName_sound line) fun x => .peek (peeks_ends line) fun _ =>
    .peek (peeks_sees "[") fun _ => ?_)
  split
  · exact .bind (typeArguments_sound hl) fun _ => .pure_fits (fits_anything _)
  · exact .pure rfl

/-! ## Channels -/

/-- A word before the value type of a channel. -/
def ChanWord.piece : ChanWord → Piece
  | chan => key "chan"
  | arrow => sym "<-"

omit hl in
theorem chanWords_sound : Sound (chanWords l) fun ws => ws.map fun w => w.1.piece := by
  have hwords := sound_many (f := fun w : ChanWord × Place => [w.1.piece]) (Sound.orElse
    (Continues.sound (.bind (sound_key "chan") fun p => .pure (x := (ChanWord.chan, p)) rfl))
    (Continues.sound (.bind (sound_sym "<-") fun p => .pure (x := (ChanWord.arrow, p)) rfl))) l.bound
  exact hwords.fits fun ws => .of_eq List.map_eq_flatMap.symm

omit hl in
/-- A channel type is written as the words, which come last one first, and the value type. -/
theorem chanType_pieces (ws : List (ChanWord × Place)) (t t' : Node) (h : chanType ws t = some t') :
    t'.pieces = (ws.reverse.map fun w => w.1.piece) ++ t.pieces := by
  induction ws, t using chanType.induct with
  | case1 t =>
    cases h
    rfl
  | case2 q p ws t ih =>
    rw [ih h]
    simp [Node.pieces, NodeKind.pieces, ChanDir.pieces, ChanWord.piece]
  | case3 q p ws t ih =>
    rw [ih h]
    simp [Node.pieces, NodeKind.pieces, ChanDir.pieces, ChanWord.piece]
  | case4 p ws t hne ih =>
    rw [chanType] at h
    · rw [ih h]
      simp [Node.pieces, NodeKind.pieces, ChanDir.pieces, ChanWord.piece]
    · exact hne
  | case5 q ws t hne =>
    rw [chanType] at h
    · cases h
    · exact hne

/-! ## Parameters and results -/

/-- An entry of a parameter list. -/
def ParamEntry.pieces : ParamEntry → List Piece
  | .bare n => [name n.text]
  | .typed n t => [name n.text] ++ t.pieces
  | .plain t => t.pieces
  | .dotted n _ t => ofOption (fun n => [name n.text]) n ++ [sym "..."] ++ t.pieces

omit hl in
theorem peeks_paramEnds : Peeks paramEnds :=
  (peeks_sees ",").bind fun _ => (peeks_sees ")").bind fun _ => peeks_pure _

theorem paramEntry_sound : Sound (paramEntry l) ParamEntry.pieces := by
  refine Sound.orElse ?_ (Sound.orElse ?_ (Sound.orElse ?_ ?_))
  · exact Continues.sound (.bind sound_takeName fun n => .peek peeks_paramEnds fun _ =>
      .require fun _ => .pure rfl)
  · exact Continues.sound (.bind (sound_optional sound_takeName) fun n => .bind (sound_sym "...") fun dots =>
      .bind (hl.type false) fun t => .pure rfl)
  · exact Continues.sound (.bind sound_takeName fun n => .bind (hl.type false) fun t =>
      .peek peeks_paramEnds fun _ => .require fun _ => .pure rfl)
  · exact Continues.sound (.bind (hl.type false) fun t => .pure rfl)

omit hl in
/-- Parameters are written as the names that wait for a type and the entries, in order. -/
theorem groupParams_pieces (ns : List Name) (es : List ParamEntry) :
    ((groupParams ns es).map Param.pieces).flatMap (sym "," :: ·) =
      (ns.map (fun n => [name n.text]) ++ es.map ParamEntry.pieces).flatMap (sym "," :: ·) := by
  have hparam (ns : List Name) : (ns.map Name.param).map Param.pieces = ns.map fun n => [name n.text] := by
    rw [List.map_map]
    rfl
  induction ns, es using groupParams.induct with
  | case1 ns => rw [groupParams, hparam, List.map_nil, List.append_nil]
  | case2 ns n es ih =>
    rw [groupParams, ih]
    simp [ParamEntry.pieces]
  | case3 ns n t es ih =>
    -- the names that share the type, the last of them in this entry
    have hnames : sym "," :: Piece.separated (sym ",") ((ns ++ [n]).map fun m => [name m.text]) =
        ((ns ++ [n]).map fun m => [name m.text]).flatMap (sym "," :: ·) := separator_cons_separated _ (by simp)
    rw [groupParams, List.map_cons, List.flatMap_cons, ih]
    simp only [Param.pieces, dotsPieces, names, List.map_map, Function.comp_def, Option.isSome_none,
      Bool.false_eq_true, if_false, List.append_nil]
    rw [← List.cons_append, hnames]
    simp [ParamEntry.pieces]
  | case4 ns t es ih =>
    rw [groupParams, List.map_append, hparam, List.flatMap_append, List.map_cons, List.flatMap_cons, ih]
    simp [ParamEntry.pieces, Param.pieces, names, Piece.separated, dotsPieces]
  | case5 ns n dots t es ih =>
    rw [groupParams, List.map_append, hparam, List.flatMap_append, List.map_cons, List.flatMap_cons, ih]
    cases n <;> simp [ParamEntry.pieces, Param.pieces, names, Piece.separated, dotsPieces, ofOption]

theorem paramList_sound : Sound (paramList l) fun ps => parens (Param.rows ps) := by
  have hentries : Sound (commaList (paramEntry l) l.bound <|> pure [])
      fun es => Piece.separated (sym ",") (es.map ParamEntry.pieces) :=
    .orElse (sound_commaList (paramEntry_sound hl) l.bound) (sound_pure rfl)
  refine Continues.sound (.bind (sound_sym "(") fun _ => .bind hentries fun es =>
    .bind (sound_closing ")") fun _ => .pure ?_)
  have hgroup : Piece.separated (sym ",") (Param.rows (groupParams [] es)) =
      Piece.separated (sym ",") (es.map ParamEntry.pieces) := by
    rw [Param.rows_eq_map, separated_eq_tail, groupParams_pieces, separated_eq_tail]
    rfl
  rw [parens, hgroup]
  rfl

omit hl in
theorem fits_resultPieces (rs : List Param) :
    Fits (parens (Param.rows rs)) (Param.resultPieces (some rs)) := by
  rcases rs with _ | ⟨⟨ns, dots, t⟩, _ | ⟨r, rs⟩⟩
  · exact .refl _
  · cases ns with
    | nil => exact .lone_of_parens _
    | cons n ns => exact .refl _
  · cases ns <;> exact .refl _

theorem signature_sound (line : Bool) : Sound (signature l line) Signature.pieces := by
  refine Continues.sound (.bind (paramList_sound hl) fun ps => .peek (peeks_ends line) fun stop => ?_)
  split
  · exact .pure (List.append_nil _).symm
  · refine .peek (peeks_sees "(") fun _ => ?_
    split
    · exact .bind (paramList_sound hl) fun rs =>
        .pure_fits (.append (.refl (parens (Param.rows ps))) (fits_resultPieces rs))
    · refine .bind (sound_optional (hl.type line)) fun r => ?_
      cases r with
      | none => exact .pure rfl
      | some t => exact .pure_fits (.append (.refl (parens (Param.rows ps))) (.lone_of_bare t.pieces))

/-! ## Structs and interfaces -/

omit hl in
theorem enclosed_sound {α : Type} {p : Parser α} {f : α → List Piece} (hp : Sound p f)
    (opening bracket : String) (strict : Bool) :
    Sound (enclosed l opening bracket strict p) fun xs =>
      sym opening :: Piece.separated stop (xs.map f) ++ [sym bracket] :=
  Continues.sound (.bind (sound_sym opening) fun _ =>
    .bind (entries_sound hp bracket strict (l.bound + 1)) fun _ => .bind (sound_sym bracket) fun _ =>
      .pure rfl)

omit hl in
theorem fieldTag_sound : Sound fieldTag fun text => tag (tagLit text) := by
  refine Continues.sound (.peek (peeks_ends true) fun _ => ?_)
  split
  · exact .pure rfl
  · refine (sound_optional sound_takeText).continues.mono fun text => .of_eq ?_
    cases text <;> rfl

omit hl in
theorem star_sound : Sound (optional (take "*")) fun star => starPieces star.isSome :=
  (sound_optional (sound_sym "*")).fits fun star => .of_eq (by cases star <;> rfl)

omit hl in
theorem peeks_memberEnds : Peeks memberEnds := by
  intro ts x rest h
  unfold memberEnds at h
  split at h <;> cases h <;> rfl

theorem embeddedGeneric_sound : Sound (embeddedGeneric l) Member.pieces :=
  Continues.sound (.bind star_sound fun _ => .bind (namedType_sound hl true) fun _ =>
    .require fun _ => .bind fieldTag_sound fun _ => .peek peeks_memberEnds fun _ =>
      .require fun _ => .pure rfl)

theorem member_sound : Sound (member l) Member.pieces := by
  refine Sound.orElse (embeddedGeneric_sound hl) (Sound.orElse ?_ ?_)
  · refine Continues.sound (.bind sound_takeName fun n => .peek (peeks_ends true) fun _ =>
      .require fun _ => .bind (sound_commaTail sound_takeName l.bound) fun more =>
        .bind (hl.type true) fun t => .bind fieldTag_sound fun text => .pure ?_)
    rw [Member.pieces, List.map_cons, names_cons, List.flatMap_map]
    rfl
  · exact Continues.sound (.bind star_sound fun _ => .bind (qualifiedName_sound true) fun _ =>
      .bind fieldTag_sound fun _ => .pure rfl)

theorem element_sound : Sound (element l) Element.pieces := by
  refine Sound.orElse ?_ ?_
  · exact Continues.sound (.bind sound_takeName fun n => .peek (peeks_ends true) fun _ =>
      .peek (peeks_sees "(") fun _ => .require fun _ => .bind (signature_sound hl true) fun _ =>
        .pure rfl)
  · refine Continues.sound (.peek peeks_here fun _ => .bind (hl.type true) fun t =>
      .bind (unionTail_sound hl true) fun more => ?_)
    cases more with
    | nil => exact .pure (List.append_nil _)
    | cons u us => exact .pure_fits (fits_anything _)

/-! ## Types -/

theorem bracketType_sound (line : Bool) : Sound (bracketType l line) Node.pieces := by
  refine Continues.sound (.bind (sound_sym "[") fun start => .bind (sound_takes "]") fun taken => ?_)
  cases taken with
  | true => exact .bind (hl.type line) fun t => .pure rfl
  | false =>
    exact .bind (hl.expr .inside 1) fun n => .bind (sound_sym "]") fun _ =>
      .bind (hl.type line) fun t => .pure (by simp [Node.pieces, NodeKind.pieces, brackets])

theorem channelType_sound (line : Bool) : Sound (channelType l line) Node.pieces := by
  refine Continues.sound (.bind chanWords_sound fun ws => .require fun _ => .bind (hl.type line) fun t => ?_)
  intro start ts x rest hpre h
  cases htype : chanType ws.reverse t with
  | none =>
    rw [htype] at h
    cases h
  | some t' =>
    rw [htype] at h
    cases h
    have hpieces := chanType_pieces ws.reverse t _ htype
    rw [List.reverse_reverse] at hpieces
    rw [hpieces]
    exact hpre

theorem mapType_sound (line : Bool) : Sound (mapType l line) Node.pieces :=
  Continues.sound (.bind (sound_key "map") fun _ => .bind (sound_sym "[") fun _ =>
    .bind (hl.type false) fun k => .bind (sound_sym "]") fun _ => .bind (hl.type line) fun v =>
      .pure (by simp [Node.pieces, NodeKind.pieces, brackets]))

theorem typeRule_sound (line : Bool) : Sound (typeRule l line) Node.pieces := by
  refine Continues.sound (.peek peeks_next fun t => ?_)
  cases t with
  | none => exact .failure
  | some t =>
    dsimp only
    split
    · exact .bind (sound_sym "(") fun _ => .bind (hl.type false) fun x => .bind (sound_sym ")") fun _ =>
        .pure rfl
    · exact .bind (sound_sym "*") fun _ => .bind (hl.type line) fun x => .pure rfl
    · exact .bind (sound_sym "~") fun _ => .bind (hl.type line) fun _ => .pure_fits (fits_anything _)
    · exact (bracketType_sound hl line).continues
    · exact (mapType_sound hl line).continues
    · exact (channelType_sound hl line).continues
    · exact (channelType_sound hl line).continues
    · refine .bind (sound_key "struct") fun _ =>
        .bind (enclosed_sound (member_sound hl) "\x7b" "\x7d" false) fun ms => .pure ?_
      rw [Node.pieces, NodeKind.pieces, Member.rows_eq_map]
      rfl
    · refine .bind (sound_key "interface") fun _ =>
        .bind (enclosed_sound (element_sound hl) "\x7b" "\x7d" false) fun es => .pure ?_
      rw [Node.pieces, NodeKind.pieces, Element.rows_eq_map]
      rfl
    · exact .bind (sound_key "func") fun _ => .bind (signature_sound hl line) fun sig => .pure rfl
    · exact (namedType_sound hl line).continues

end GoRebuild.Grammar
