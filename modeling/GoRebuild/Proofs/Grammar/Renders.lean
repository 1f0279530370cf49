import GoRebuild.Grammar.Parser
import GoRebuild.Proofs.Tree.Pieces

/-!
# Tokens that write pieces

* `Lexeme` : a token without its place;
* `Renders ps us` : the tokens `us` are those of the pieces `ps`, in order. Line ends and `;` may stand
  anywhere, a comma and the parentheses around a lone result where the pieces leave a choice;
* `Splits ts us` : `us` is `ts` where some symbols of two characters are two symbols;
* `Mark`, `marksOf` : what is left of tokens and of pieces without those freedoms: `Renders.marks_eq`,
  `Splits.marks_eq`.
-/

namespace GoRebuild
open Lexical

/-- A token without its place. -/
structure Lexeme where
  kind : TokenKind
  text : String
  deriving DecidableEq, Repr

def Lexical.Token.lexeme (t : Token) : Lexeme :=
  ⟨t.kind, t.text⟩

/-- Tokens without their places. -/
def lexemes (ts : List Token) : List Lexeme :=
  ts.map Token.lexeme

/-- Whether a token only ends a line or statement. -/
def Lexeme.isEnd (t : Lexeme) : Bool :=
  t.text == ";" || t.text == "\x00"

/-- Whether a token writes a piece. -/
def Piece.fits : Piece → Lexeme → Prop
  | .name n, t | .qualifier n, t => t = ⟨.word, n⟩
  | .lit l, t => t = ⟨.literal l.kind, l.value⟩
  | .key w, t | .sym w, t => t.text = w
  | .path p, t => t.text = "\"" ++ p ++ "\"" ∨ t.text = "\x60" ++ p ++ "\x60"
  | _, _ => False

/-- Tokens write pieces. -/
inductive Renders : List Piece → List Lexeme → Prop
  | nil : Renders [] []
  /-- an end of a line anywhere -/
  | skip {ps us} (t : Lexeme) : t.isEnd → Renders ps us → Renders ps (t :: us)
  | stop {ps us} : Renders ps us → Renders (.stop :: ps) us
  | token {p ps us} (t : Lexeme) : p.fits t → Renders ps us → Renders (p :: ps) (t :: us)
  | comma {ps us} (t : Lexeme) : t.text = "," → Renders ps us → Renders (.comma :: ps) (t :: us)
  | noComma {ps us} : Renders ps us → Renders (.comma :: ps) us
  | bare {inner ps us} : Renders (inner ++ ps) us → Renders (.lone inner :: ps) us
  | wrapped {inner ps us} :
    Renders (.sym "(" :: inner ++ [.comma, .sym ")"] ++ ps) us → Renders (.lone inner :: ps) us
  | anything {ps us} (ts : List Lexeme) : Renders ps us → Renders (.anything :: ps) (ts ++ us)

namespace Renders

variable {ps qs : List Piece} {us vs : List Lexeme}

theorem one {p : Piece} {t : Lexeme} (h : p.fits t) : Renders [p] [t] :=
  token t h nil

theorem append (h : Renders ps us) (h' : Renders qs vs) : Renders (ps ++ qs) (us ++ vs) := by
  induction h with
  | nil => exact h'
  | skip t ht _ ih => exact skip t ht ih
  | stop _ ih => exact stop ih
  | token t ht _ ih => exact token t ht ih
  | comma t ht _ ih => exact comma t ht ih
  | noComma _ ih => exact noComma ih
  | bare _ ih => exact bare (by rwa [List.append_assoc] at ih)
  | wrapped _ ih => exact wrapped (by rwa [List.append_assoc] at ih)
  | anything ts _ ih => exact List.append_assoc ts _ vs ▸ anything ts ih

/-- The parts of pieces are written one behind the other. -/
theorem of_append (h : Renders (ps ++ qs) us) :
    ∃ vs ws, us = vs ++ ws ∧ Renders ps vs ∧ Renders qs ws := by
  generalize hps : ps ++ qs = rs at h
  induction h generalizing ps with
  | nil =>
    obtain ⟨rfl, rfl⟩ := List.append_eq_nil_iff.mp hps
    exact ⟨[], [], rfl, nil, nil⟩
  | skip t ht _ ih =>
    obtain ⟨vs, ws, rfl, hv, hw⟩ := ih hps
    exact ⟨t :: vs, ws, rfl, skip t ht hv, hw⟩
  | stop h ih =>
    rcases List.append_eq_cons_iff.mp hps with ⟨rfl, rfl⟩ | ⟨ps, rfl, rfl⟩
    · exact ⟨[], _, rfl, nil, stop h⟩
    · obtain ⟨vs, ws, rfl, hv, hw⟩ := ih rfl
      exact ⟨vs, ws, rfl, stop hv, hw⟩
  | token t ht h ih =>
    rcases List.append_eq_cons_iff.mp hps with ⟨rfl, rfl⟩ | ⟨ps, rfl, rfl⟩
    · exact ⟨[], _, rfl, nil, token t ht h⟩
    · obtain ⟨vs, ws, rfl, hv, hw⟩ := ih rfl
      exact ⟨t :: vs, ws, rfl, token t ht hv, hw⟩
  | comma t ht h ih =>
    rcases List.append_eq_cons_iff.mp hps with ⟨rfl, rfl⟩ | ⟨ps, rfl, rfl⟩
    · exact ⟨[], _, rfl, nil, comma t ht h⟩
    · obtain ⟨vs, ws, rfl, hv, hw⟩ := ih rfl
      exact ⟨t :: vs, ws, rfl, comma t ht hv, hw⟩
  | noComma h ih =>
    rcases List.append_eq_cons_iff.mp hps with ⟨rfl, rfl⟩ | ⟨ps, rfl, rfl⟩
    · exact ⟨[], _, rfl, nil, noComma h⟩
    · obtain ⟨vs, ws, rfl, hv, hw⟩ := ih rfl
      exact ⟨vs, ws, rfl, noComma hv, hw⟩
  | bare h ih =>
    rcases List.append_eq_cons_iff.mp hps with ⟨rfl, rfl⟩ | ⟨ps, rfl, rfl⟩
    · exact ⟨[], _, rfl, nil, bare h⟩
    · obtain ⟨vs, ws, rfl, hv, hw⟩ := ih (List.append_assoc _ _ _)
      exact ⟨vs, ws, rfl, bare hv, hw⟩
  | wrapped h ih =>
    rcases List.append_eq_cons_iff.mp hps with ⟨rfl, rfl⟩ | ⟨ps, rfl, rfl⟩
    · exact ⟨[], _, rfl, nil, wrapped h⟩
    · obtain ⟨vs, ws, rfl, hv, hw⟩ := ih (List.append_assoc _ _ _)
      exact ⟨vs, ws, rfl, wrapped hv, hw⟩
  | anything ts h ih =>
    rcases List.append_eq_cons_iff.mp hps with ⟨rfl, rfl⟩ | ⟨ps, rfl, rfl⟩
    · exact ⟨[], _, rfl, nil, anything ts h⟩
    · obtain ⟨vs, ws, rfl, hv, hw⟩ := ih rfl
      exact ⟨ts ++ vs, ws, (List.append_assoc _ _ _).symm, anything ts hv, hw⟩

end Renders

/-! ## Rows that may be written otherwise -/

/-- Whatever tokens write `ps` also write `qs`. -/
def Fits (ps qs : List Piece) : Prop :=
  ∀ us, Renders ps us → Renders qs us

namespace Fits

variable {ps qs rs ss : List Piece}

theorem refl (ps : List Piece) : Fits ps ps := fun _ h => h

theorem of_eq (h : ps = qs) : Fits ps qs := h ▸ refl ps

theorem trans (h : Fits ps qs) (h' : Fits qs rs) : Fits ps rs := fun us hus => h' us (h us hus)

theorem append (h : Fits ps qs) (h' : Fits rs ss) : Fits (ps ++ rs) (qs ++ ss) := by
  intro us hus
  obtain ⟨vs, ws, rfl, hv, hw⟩ := hus.of_append
  exact (h vs hv).append (h' ws hw)

/-- An end of a line needs no token. -/
theorem add_stop : Fits [] [.stop] := by
  intro us h
  have hstop := h.append (.stop .nil)
  rwa [List.append_nil, List.nil_append] at hstop

theorem drop_stop : Fits [.stop] [] := by
  intro us h
  generalize hps : [Piece.stop] = ps at h
  induction h with
  | skip t ht _ ih => exact .skip t ht (ih hps)
  | stop h => cases hps; exact h
  | token t ht _ _ => cases hps; exact ht.elim
  | _ => cases hps

/-- A comma before a closing bracket may be left out. -/
theorem add_comma : Fits [] [.comma] := by
  intro us h
  have hcomma := h.append (.noComma .nil)
  rwa [List.append_nil, List.nil_append] at hcomma

theorem comma_of_sym : Fits [.sym ","] [.comma] := by
  intro us h
  generalize hps : [Piece.sym ","] = ps at h
  induction h with
  | skip t ht _ ih => exact .skip t ht (ih hps)
  | token t ht h _ => cases hps; exact .comma t ht h
  | _ => cases hps

/-- A keyword is taken as any token is. -/
theorem key_of_sym (w : String) : Fits [.sym w] [.key w] := by
  intro us h
  generalize hps : [Piece.sym w] = ps at h
  induction h with
  | skip t ht _ ih => exact .skip t ht (ih hps)
  | token t ht h _ => cases hps; exact .token t ht h
  | _ => cases hps

/-- The only entry in parentheses is a lone result. -/
theorem lone_of_parens (row : List Piece) : Fits (Piece.parens [row]) [.lone row] := by
  intro us h
  have hrow : Piece.parens [row] = Piece.sym "(" :: row ++ [.comma, .sym ")"] ++ [] := by
    simp [Piece.parens]
  exact .wrapped (hrow ▸ h)

theorem lone_of_bare (row : List Piece) : Fits row [.lone row] := by
  intro us h
  exact .bare (by simpa using h)

end Fits

/-! ## Symbols that are read as two -/

/-- The symbols of two characters that may be two symbols. -/
def twofold : List String :=
  ["++", "--", "<-", "&&", "&^"]

/-- The same tokens, some symbols of two characters in two. -/
inductive Splits : List Lexeme → List Lexeme → Prop
  | nil : Splits [] []
  | keep {ts us} (t : Lexeme) : Splits ts us → Splits (t :: ts) (t :: us)
  | split {ts us} (k : TokenKind) (a b : Char) : twofold.contains (String.ofList [a, b]) →
    Splits ts us → Splits (⟨k, String.ofList [a, b]⟩ :: ts) (⟨k, a.toString⟩ :: ⟨k, b.toString⟩ :: us)

namespace Splits

variable {ts us vs ws : List Lexeme}

theorem refl : ∀ ts : List Lexeme, Splits ts ts
  | [] => nil
  | t :: ts => keep t (refl ts)

/-- A single character is not split again. -/
theorem of_char {k : TokenKind} {a : Char} (h : Splits (⟨k, a.toString⟩ :: us) vs) :
    ∃ ws, vs = ⟨k, a.toString⟩ :: ws ∧ Splits us ws := by
  generalize hus : (⟨k, a.toString⟩ :: us : List Lexeme) = rs at h
  cases h with
  | nil => cases hus
  | keep t h =>
    injection hus with ht hus
    subst ht hus
    exact ⟨_, rfl, h⟩
  | split k' b c _ h =>
    -- its text is one character long
    injection hus with ht hus
    have htext := congrArg (fun t : Lexeme => t.text.toList.length) ht
    simp at htext

theorem trans (h : Splits ts us) (h' : Splits us vs) : Splits ts vs := by
  induction h generalizing vs with
  | nil => exact h'
  | keep t _ ih =>
    cases h' with
    | keep _ h' => exact keep t (ih h')
    | split k a b hab h' => exact split k a b hab (ih h')
  | split k a b hab _ ih =>
    obtain ⟨ws, rfl, hb⟩ := h'.of_char
    obtain ⟨ws, rfl, hrest⟩ := hb.of_char
    exact split k a b hab (ih hrest)

theorem append_left (us : List Lexeme) (h : Splits ts vs) : Splits (us ++ ts) (us ++ vs) := by
  induction us with
  | nil => exact h
  | cons u us ih => exact keep u ih

end Splits

/-! ## Marks -/

/-- What is left of a token: nothing of brackets and ends that may come and go, the characters of other
symbols, strings without their quotes. -/
inductive Mark where
  | char (c : Char)
  | dots
  | word (text : String)
  | quoted (inner : String)
  deriving DecidableEq, Repr

/-- The tokens that pieces may leave out or that end lines. -/
def silent : List String :=
  ["(", ")", ",", ";", "\x00"]

/-- What stands between quotes of either kind. -/
def quotedInner? (text : String) : Option String :=
  match text.toList with
  | q :: rest =>
    if (q == '"' || q == '\x60') && rest.getLast? == some q then some (String.ofList rest.dropLast)
    else none
  | [] => none

/-- The marks of a token. -/
def marksOf (text : String) : List Mark :=
  if silent.contains text then []
  else if text == "..." then [.dots]
  else if symbols.contains text then text.toList.map .char
  else
    match quotedInner? text with
    | some inner => [.quoted inner]
    | none => [.word text]

/-- The marks of tokens. -/
def marks (ts : List Lexeme) : List Mark :=
  ts.flatMap fun t => marksOf t.text

mutual

/-- The marks of a piece. -/
def Piece.marks : Piece → List Mark
  | .name t | .qualifier t | .key t | .sym t => marksOf t
  | .lit l => marksOf l.value
  | .path p => [.quoted p]
  | .stop | .comma | .unread | .anything => []
  | .lone ps => Piece.allMarks ps

/-- The marks of pieces. -/
def Piece.allMarks : List Piece → List Mark
  | [] => []
  | p :: ps => p.marks ++ Piece.allMarks ps

end

mutual

/-- Whether a piece stands for tokens that are all kept. -/
def Piece.isKept : Piece → Bool
  | .anything => false
  | .lone ps => Piece.allKept ps
  | _ => true

/-- Whether all pieces do. -/
def Piece.allKept : List Piece → Bool
  | [] => true
  | p :: ps => p.isKept && Piece.allKept ps

end

@[simp] theorem allMarks_append (ps qs : List Piece) :
    Piece.allMarks (ps ++ qs) = Piece.allMarks ps ++ Piece.allMarks qs := by
  induction ps with
  | nil => rfl
  | cons p ps ih => simp only [List.cons_append, Piece.allMarks, ih, List.append_assoc]

@[simp] theorem allKept_append (ps qs : List Piece) :
    Piece.allKept (ps ++ qs) = (Piece.allKept ps && Piece.allKept qs) := by
  induction ps with
  | nil => rfl
  | cons p ps ih => simp only [List.cons_append, Piece.allKept, ih, Bool.and_assoc]

/-- A text in quotes is a string, and no symbol. -/
theorem marksOf_quoted {text p : String} {q : Char} (hq : q = '"' ∨ q = '\x60')
    (h : text.toList = q :: p.toList ++ [q]) : marksOf text = [.quoted p] := by
  have hsymbol : ∀ s ∈ "..." :: silent ++ symbols, s.toList.head? ≠ some '"' ∧ s.toList.head? ≠ some '\x60' := by
    decide
  have hmem : text ∉ "..." :: silent ++ symbols := by
    intro hmem
    have hhead := hsymbol text hmem
    rw [h] at hhead
    rcases hq with rfl | rfl
    · exact hhead.1 rfl
    · exact hhead.2 rfl
  have hinner : quotedInner? text = some p := by
    unfold quotedInner?
    rw [h]
    have hlast : (p.toList ++ [q]).getLast? = some q := by simp
    rcases hq with rfl | rfl <;> simp [hlast]
  simp only [List.cons_append, List.mem_cons, List.mem_append, not_or] at hmem
  unfold marksOf
  simp [hmem, hinner]

/-- A text with the mark of a string is one in quotes. -/
theorem eq_of_marksOf_quoted {text p : String} (h : marksOf text = [.quoted p]) :
    text = "\"" ++ p ++ "\"" ∨ text = "\x60" ++ p ++ "\x60" := by
  unfold marksOf at h
  split at h
  · cases h
  split at h
  · cases h
  split at h
  · obtain ⟨c, -, hc⟩ := List.mem_map.mp (h ▸ List.mem_singleton.mpr rfl : Mark.quoted p ∈ text.toList.map Mark.char)
    cases hc
  cases hinner : quotedInner? text with
  | none =>
    rw [hinner] at h
    cases h
  | some inner =>
    rw [hinner] at h
    cases h
    unfold quotedInner? at hinner
    split at hinner
    · rename_i q rest hchars
      split at hinner
      · rename_i hq
        cases hinner
        simp only [Bool.and_eq_true, Bool.or_eq_true, beq_iff_eq] at hq
        obtain ⟨inner, rfl⟩ := List.getLast?_eq_some_iff.mp hq.2
        have htext : text = String.ofList (q :: (inner ++ [q])) := by rw [← hchars, String.ofList_toList]
        rw [List.dropLast_concat]
        rcases hq.1 with rfl | rfl
        · left
          rw [htext, ← String.toList_inj]
          simp
        · right
          rw [htext, ← String.toList_inj]
          simp
      · cases hinner
    · cases hinner

theorem Piece.marks_of_fits {p : Piece} {t : Lexeme} (h : p.fits t) : marksOf t.text = p.marks := by
  cases p with
  | name n => cases h; rfl
  | qualifier b => cases h; rfl
  | lit l => cases h; rfl
  | key w => cases h; rfl
  | sym w => cases h; rfl
  | path p =>
    rcases h with h | h
    · exact marksOf_quoted (.inl rfl) (by rw [h]; simp)
    · exact marksOf_quoted (.inr rfl) (by rw [h]; simp)
  | _ => exact h.elim

theorem marksOf_of_isEnd {t : Lexeme} (h : t.isEnd) : marksOf t.text = [] := by
  simp only [Lexeme.isEnd, Bool.or_eq_true, beq_iff_eq] at h
  rcases h with h | h <;> rw [h] <;> decide

theorem Renders.marks_eq {ps : List Piece} {us : List Lexeme} (h : Renders ps us)
    (hkept : Piece.allKept ps) : marks us = Piece.allMarks ps := by
  induction h with
  | nil => rfl
  | skip t ht _ ih =>
    change marksOf t.text ++ marks _ = _
    rw [marksOf_of_isEnd ht, ih hkept]
    rfl
  | stop _ ih => exact ih hkept
  | token t ht _ ih =>
    simp only [Piece.allKept, Bool.and_eq_true] at hkept
    change marksOf t.text ++ marks _ = _
    rw [Piece.marks_of_fits ht, ih hkept.2]
    rfl
  | comma t ht _ ih =>
    change marksOf t.text ++ marks _ = _
    rw [ht, ih hkept]
    rfl
  | noComma _ ih => exact ih hkept
  | bare _ ih =>
    rw [ih (by simpa [Piece.allKept, Piece.isKept] using hkept), allMarks_append]
    rfl
  | wrapped _ ih =>
    -- the parentheses leave no marks
    have hmarks := ih (by simpa [Piece.allKept, Piece.isKept] using hkept)
    rw [hmarks]
    simp [Piece.allMarks, Piece.marks, show marksOf "(" = [] by decide, show marksOf ")" = [] by decide]
  | anything ts _ _ => simp [Piece.allKept, Piece.isKept] at hkept

theorem marksOf_twofold {a b : Char} (h : twofold.contains (String.ofList [a, b])) :
    marksOf (String.ofList [a, b]) = marksOf a.toString ++ marksOf b.toString := by
  simp only [twofold, List.contains_cons, Bool.or_eq_true, beq_iff_eq, List.contains_nil,
    Bool.false_eq_true, or_false] at h
  rcases h with h | h | h | h | h <;>
    · have hab := congrArg String.toList h
      rw [String.toList_ofList] at hab
      cases hab
      decide

theorem Splits.marks_eq {ts us : List Lexeme} (h : Splits ts us) : marks us = marks ts := by
  induction h with
  | nil => rfl
  | keep t _ ih =>
    change marksOf t.text ++ marks _ = marksOf t.text ++ marks _
    rw [ih]
  | split k a b hab _ ih =>
    change marksOf a.toString ++ (marksOf b.toString ++ marks _) = marksOf _ ++ marks _
    rw [ih, marksOf_twofold hab, List.append_assoc]

end GoRebuild
