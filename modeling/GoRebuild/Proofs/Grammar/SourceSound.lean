import GoRebuild.Grammar.Source
import GoRebuild.Proofs.Grammar.StatementsSound
import GoRebuild.Proofs.Lexical.Scanner

/-!
# A source is read as it stands

* `build_sound` : the rules are sound, however deep they are nested;
* `item_sound` : what stands at top level;
* `proper_scan` : the scanner gives the kind of an end to NUL characters only;
* `items_read` : the items of a source render its tokens.
-/

namespace GoRebuild.Grammar
open Lexical Piece Scan

/-- Rules of layers are sound, by induction on the depth. -/
theorem build_sound (bound n : Nat) : (Layer.build bound n).IsSound := by
  induction n with
  | zero =>
    exact ⟨fun _ _ => sound_failure, fun _ => sound_failure, sound_failure, sound_failure, sound_failure,
      sound_failure⟩
  | succ n ih =>
    exact ⟨exprRule_sound ih, typeRule_sound ih, bracesRule_sound ih, blockRule_sound ih, stmtRule_sound ih,
      conditionalRule_sound ih⟩

/-! ## Top level -/

/-- The name of an import. -/
def importNamePieces : ImportName → List Piece
  | .named n => [name n]
  | .dot => [sym "."]
  | .blank => [name "_"]

theorem importName_sound : Sound importName importNamePieces := by
  refine Sound.orElse (Continues.sound (.bind (sound_sym ".") fun _ => .pure rfl)) ?_
  refine Continues.sound (.bind sound_takeName fun n => ?_)
  split
  · rename_i hblank
    exact .pure (by simp [importNamePieces, hblank])
  · exact .pure rfl

/-- An import path is its literal without the quotes, or it is kept as the literal. -/
theorem Import.fits_path (i : Import) :
    Fits [lit ⟨.string, i.path⟩] [if i.isExact then Piece.path (unquoted i.path) else lit ⟨.string, i.path⟩] := by
  split
  · rename_i hexact
    rw [Import.isExact, Bool.or_eq_true, beq_iff_eq, beq_iff_eq] at hexact
    intro us h
    generalize hps : [lit ⟨.string, i.path⟩] = ps at h
    induction h with
    | skip t ht _ ih => exact .skip t ht (ih hps)
    | token t ht h _ =>
      cases hps
      obtain rfl : t = ⟨.literal .string, i.path⟩ := ht
      exact .token _ hexact h
    | _ => cases hps
  · exact .refl _

theorem importSpec_sound : Sound importSpec Import.pieces := by
  refine Continues.sound (.peek peeks_here fun start => .bind (sound_optional importName_sound) fun n =>
    .bind sound_takeText fun text => ?_)
  have hpath := (Fits.refl (ofOption importNamePieces n)).append (Import.fits_path ⟨n, text, start⟩)
  refine .pure_fits (hpath.trans (.of_eq ?_))
  rcases n with _ | n | _ | _ <;> rfl

variable {l : Layer} (hl : l.IsSound)
include hl

omit hl in
theorem importDecl_sound : Sound (importDecl l) Item.pieces := by
  refine Continues.sound (.bind (sound_key "import") fun start => .peek (peeks_sees "(") fun _ => ?_)
  split
  · exact .bind (enclosed_sound importSpec_sound "(" ")" false) fun _ => .pure rfl
  · refine .bind importSpec_sound fun i => .pure ?_
    simp [Item.pieces, defs]

theorem funcDecl_sound : Sound (funcDecl l) Func.pieces := by
  refine Continues.sound (.bind (sound_key "func") fun start => .peek (peeks_sees "(") fun _ =>
    .bind (sound_only _ (paramList_sound hl)) fun recv => .bind sound_takeName fun n =>
      .peek (peeks_sees "[") fun _ => .bind (sound_only _ (typeParameters_sound hl)) fun params =>
        .bind (signature_sound hl true) fun sig => .peek (peeks_ends true) fun _ =>
          .peek (peeks_sees "\x7b") fun _ => .bind (sound_only _ hl.block) fun body => .pure ?_)
  cases recv <;> cases params <;> cases body <;> rfl

theorem item_sound : Sound (item l) Item.pieces := by
  refine Continues.sound (.peek peeks_next fun t => ?_)
  cases t with
  | none => exact .failure
  | some t =>
    dsimp only
    split
    · exact .bind (sound_key "package") fun _ => .bind sound_takeName fun _ => .pure rfl
    · exact importDecl_sound.continues
    · exact .orElse (.bind (funcDecl_sound hl) fun _ => .pure rfl) (.bind hl.stmt fun _ => .pure rfl)

theorem allItems_sound (n : Nat) :
    Sound (allItems l n) fun xs => Piece.separated stop (xs.map Item.pieces) := by
  induction n with
  | zero => exact sound_failure
  | succ n ih =>
    refine Continues.sound (.peek peeks_next fun t => ?_)
    cases t with
    | none => exact .pure rfl
    | some t =>
      exact .bind (item_sound hl) fun x => .bind sound_takeEnd fun _ => .bind ih fun xs =>
        .pure_fits (fits_stop_separated _ _)

omit hl in
/-- All tokens are taken. -/
theorem allItems_rest (n : Nat) {ts rest : List Token} {xs : List Item}
    (h : allItems l n ts = some (xs, rest)) : rest = [] := by
  induction n generalizing ts xs with
  | zero => cases h
  | succ n ih =>
    obtain ⟨t, mid, ht, h⟩ := bind_eq_some.mp h
    cases ts with
    | nil =>
      cases ht
      cases h
      rfl
    | cons t ts =>
      cases ht
      obtain ⟨x, mid, -, h⟩ := bind_eq_some.mp h
      obtain ⟨u, mid, -, h⟩ := bind_eq_some.mp h
      obtain ⟨ys, mid, hys, h⟩ := bind_eq_some.mp h
      cases h
      exact ih hys

/-! ## Tokens of a source -/

omit hl in
theorem proper_scan {source : String} {tokens : List (Token × Cursor)} (h : scan source = some tokens) :
    Proper (tokens.map (·.1)) := by
  intro t ht hstop
  obtain ⟨u, hu, rfl⟩ := List.mem_map.mp ht
  have hdescribes := describes_of_scan h u hu
  rw [hstop] at hdescribes
  exact hdescribes

omit hl in
/-- **The items of a source render its tokens.** -/
theorem items_read {tokens : List Token} {items : List Item} (hproper : Proper tokens)
    (h : items? tokens = some items) :
    ∃ us, Splits (lexemes tokens) us ∧ Renders (Piece.separated stop (items.map Item.pieces)) us := by
  unfold items? at h
  rw [Option.map_eq_some_iff] at h
  obtain ⟨⟨xs, rest⟩, h, rfl⟩ := h
  obtain rfl := allItems_rest _ h
  obtain ⟨-, us, hsplit, hus⟩ := allItems_sound (build_sound _ _) _ _ _ _ h hproper
  refine ⟨us, ?_, hus⟩
  simpa [lexemes] using hsplit

end GoRebuild.Grammar
