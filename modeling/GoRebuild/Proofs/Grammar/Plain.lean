import GoRebuild.Proofs.Grammar.Renders
import GoRebuild.Proofs.Lexical.Scanner

/-!
# Names and literals leave one mark each

* `Piece.allPlain` : names are identifiers and literals look like literals;
* `Lexeme.Plain` : the same of tokens, as the scanner gives them (`plain_of_describes`);
* `Renders.allPlain` : what plain tokens render is plain.
-/

namespace GoRebuild
open Lexical

mutual

/-- Whether a name is an identifier and a literal looks like one. -/
def Piece.isPlain : Piece → Bool
  | .name n | .qualifier n => isWord n
  | .lit l => startsLiteral l.value.toList
  | .lone ps => Piece.allPlain ps
  | _ => true

/-- Whether all pieces are so. -/
def Piece.allPlain : List Piece → Bool
  | [] => true
  | p :: ps => p.isPlain && Piece.allPlain ps

end

@[simp] theorem allPlain_append (ps qs : List Piece) :
    Piece.allPlain (ps ++ qs) = (Piece.allPlain ps && Piece.allPlain qs) := by
  induction ps with
  | nil => rfl
  | cons p ps ih => simp only [List.cons_append, Piece.allPlain, ih, Bool.and_assoc]

/-! ## Marks -/

/-- Whether a text starts as a name or a literal does. -/
def startsPlain (cs : List Char) : Bool :=
  startsLiteral cs || cs.head?.any Text.isIdentifierStart

theorem startsPlain_of_word {text : String} (h : isWord text) : startsPlain text.toList := by
  unfold isWord at h
  split at h
  · rename_i c cs hchars
    simp only [Bool.and_eq_true] at h
    simp [startsPlain, hchars, h.1.1]
  · cases h

/-- Such a text is no symbol, so that it has one mark, and not the dots. -/
theorem marksOf_of_startsPlain {text : String} (h : startsPlain text.toList) :
    ∃ m, marksOf text = [m] ∧ m ≠ .dots := by
  have hsymbols : ∀ s ∈ "..." :: silent ++ symbols, startsPlain s.toList = false := by decide
  have hmem : text ∉ "..." :: silent ++ symbols := by
    intro hmem
    rw [hsymbols text hmem] at h
    cases h
  simp only [List.cons_append, List.mem_cons, List.mem_append, not_or] at hmem
  unfold marksOf
  simp only [List.contains_iff_mem, hmem, if_false, beq_iff_eq]
  cases quotedInner? text with
  | some inner => exact ⟨_, rfl, nofun⟩
  | none => exact ⟨_, rfl, nofun⟩

theorem marks_of_word {n : String} (h : isWord n) : ∃ m, marksOf n = [m] ∧ m ≠ .dots :=
  marksOf_of_startsPlain (startsPlain_of_word h)

theorem marks_of_literal {text : String} (h : startsLiteral text.toList) :
    ∃ m, marksOf text = [m] ∧ m ≠ .dots :=
  marksOf_of_startsPlain (by rw [startsPlain, h, Bool.true_or])

/-! ## Tokens -/

/-- A token that names something is an identifier, a literal looks like one. -/
def Lexeme.Plain (t : Lexeme) : Prop :=
  (t.kind = .word → isWord t.text) ∧ (∀ k, t.kind = .literal k → startsLiteral t.text.toList)

theorem plain_of_describes {t : Token} (h : t.kind.describes t.text) : t.lexeme.Plain := by
  refine ⟨fun hk => ?_, fun k hk => ?_⟩
  · change t.kind = _ at hk
    rw [hk] at h
    exact h
  · change t.kind = _ at hk
    rw [hk] at h
    exact h

/-- Symbols that are read as two are no names. -/
theorem Splits.plain {ts us : List Lexeme} (h : Splits ts us) (hts : ∀ t ∈ ts, t.Plain) :
    ∀ u ∈ us, u.Plain := by
  induction h with
  | nil => exact hts
  | keep t _ ih =>
    intro u hu
    rcases List.mem_cons.mp hu with rfl | hu
    · exact hts _ (.head _)
    · exact ih (fun t ht => hts t (.tail _ ht)) u hu
  | split k a b hab _ ih =>
    have hsymbols : ∀ s ∈ twofold, startsPlain s.toList = false := by decide
    have hstart := hsymbols _ (List.contains_iff_mem.mp hab)
    have hplain := hts _ (.head _)
    have hkind (c : Char) : Lexeme.Plain ⟨k, c.toString⟩ := by
      refine ⟨fun hk => ?_, fun j hk => ?_⟩
      · rw [startsPlain_of_word (hplain.1 hk)] at hstart
        cases hstart
      · rw [startsPlain, hplain.2 j hk] at hstart
        cases hstart
    intro u hu
    rcases List.mem_cons.mp hu with rfl | hu
    · exact hkind a
    rcases List.mem_cons.mp hu with rfl | hu
    · exact hkind b
    · exact ih (fun t ht => hts t (.tail _ ht)) u hu

theorem Piece.isPlain_of_fits {p : Piece} {t : Lexeme} (h : p.fits t) (ht : t.Plain) : p.isPlain := by
  cases p with
  | name n => cases h; exact ht.1 rfl
  | qualifier b => cases h; exact ht.1 rfl
  | lit l => cases h; exact ht.2 l.kind rfl
  | lone ps => exact h.elim
  | _ => rfl

theorem Renders.allPlain {ps : List Piece} {us : List Lexeme} (h : Renders ps us) (hus : ∀ t ∈ us, t.Plain) :
    Piece.allPlain ps := by
  induction h with
  | nil => rfl
  | skip t _ _ ih => exact ih fun u hu => hus u (.tail _ hu)
  | stop _ ih => exact ih hus
  | token t ht _ ih =>
    rw [Piece.allPlain, Piece.isPlain_of_fits ht (hus t (.head _)), ih fun u hu => hus u (.tail _ hu)]
    rfl
  | comma t _ _ ih => exact ih fun u hu => hus u (.tail _ hu)
  | noComma _ ih => exact ih hus
  | bare _ ih => simpa [Piece.allPlain, Piece.isPlain] using ih hus
  | wrapped _ ih => simpa [Piece.allPlain, Piece.isPlain] using ih hus
  | anything ts _ ih => exact ih fun u hu => hus u (List.mem_append_right ts hu)

end GoRebuild
