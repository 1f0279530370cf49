import GoRebuild.Proofs.Lexical.Scans
import GoRebuild.Proofs.Synth.Decimal
import GoRebuild.Proofs.Text.StringValue

/-!
# Tokens that are written

A token is scanned as it was written, if what is written behind it does not go on with it.

* `stringLength_encode` : an encoded string is a string literal, whatever follows; `encode_append_inj` : what it denotes and
  where it ends are told by the text;
* `numberLength_digits` : a row of digits without a leading zero is an integer literal;
* `Scans.word`, `Scans.keyword`, `Scans.string`, `Scans.number`, `Scans.bracket`, `Scans.dot`, `Scans.star`,
  `Scans.define` : the tokens of written programs;
* `Scans.blank`, `Scans.line`, `Scans.tabs` : the white space between them.
-/

namespace GoRebuild.Lexical
open Text
open Verify (isQuote)

variable {newLine : Bool} {cs : List Char} {spans : List Span}

/-- No part of a word comes first in a text. -/
def EndsWord (cs : List Char) : Prop :=
  ∀ c ∈ cs.head?, isIdentifierPart c = false

/-! ## Strings -/

theorem stringTailLength_self {c : Char} (hslash : c ≠ '\\') (hquote : c ≠ '"') (hnewline : c ≠ '\n') (cs : List Char) :
    stringTailLength (c :: cs) = (stringTailLength cs).map (· + 1) := by
  rw [stringTailLength]
  · simp [hslash, hquote, hnewline]
  · rintro d ds rfl
    exact absurd rfl hslash

theorem stringTailLength_slash {c : Char} (cs : List Char) (hescape : isStringEscape (c :: cs)) :
    stringTailLength ('\\' :: c :: cs) = (stringTailLength cs).map (· + 2) := by
  rw [stringTailLength, if_pos hescape]

/-- What is written for a character is passed over as a whole. -/
theorem stringTailLength_escape (c : Char) (cs : List Char) :
    stringTailLength (Quoted.escape c ++ cs) = (stringTailLength cs).map (· + (Quoted.escape c).length) := by
  unfold Quoted.escape
  split
  · exact stringTailLength_slash cs rfl
  split
  · exact stringTailLength_slash cs rfl
  split
  · exact stringTailLength_slash cs rfl
  split
  · exact stringTailLength_slash cs rfl
  split
  · exact stringTailLength_slash cs rfl
  split
  · rename_i hcontrol
    have hlt : c.toNat < 128 := by omega
    obtain ⟨hhigh, hlow, -⟩ := number_hexDigits c.toNat hlt
    have hescape : isStringEscape ('x' :: hexDigit (c.toNat / 16) :: hexDigit (c.toNat % 16) :: cs) := by
      simp [isStringEscape, startsWithHex, hhigh, hlow]
    have hself {d : Char} (hd : isHexDigit d) (ds : List Char) :
        stringTailLength (d :: ds) = (stringTailLength ds).map (· + 1) := by
      have hne (e : Char) (he : isHexDigit e = false) : d ≠ e := by
        rintro rfl
        rw [hd] at he
        cases he
      exact stringTailLength_self (hne _ (by decide)) (hne _ (by decide)) (hne _ (by decide)) ds
    refine (stringTailLength_slash _ hescape).trans ?_
    rw [hself hhigh, hself hlow]
    cases stringTailLength cs <;> rfl
  · rename_i hquote hslash hnewline _ _ _
    exact stringTailLength_self hslash hquote hnewline cs

theorem stringTailLength_encode (text cs : List Char) :
    stringTailLength (text.flatMap Quoted.escape ++ '"' :: cs) = some ((text.flatMap Quoted.escape).length + 1) := by
  induction text with
  | nil => rfl
  | cons c text ih =>
    rw [List.flatMap_cons, List.append_assoc, stringTailLength_escape, ih, Option.map_some, List.length_append]
    congr 1
    omega

/-- An encoded string is a string literal, whatever follows. -/
theorem stringLength_encode (text : String) (cs : List Char) :
    stringLength ((Quoted.encode text).toList ++ cs) = some (Quoted.encode text).length := by
  have htail := stringTailLength_encode text.toList cs
  rw [Quoted.encode, String.toList_ofList, Quoted.encodeChars, List.cons_append, List.append_assoc, stringLength,
    List.cons_append, List.nil_append, htail, String.length_ofList]
  simp

/-- A string literal ends at its closing quote, whatever text it denotes. -/
theorem encode_append_inj {s s' : String} {r r' : List Char}
    (h : (Quoted.encode s).toList ++ r = (Quoted.encode s').toList ++ r') : s = s' ∧ r = r' := by
  have hlength : (Quoted.encode s).toList.length = (Quoted.encode s').toList.length := by
    have hlit := stringLength_encode s r
    rw [h, stringLength_encode s' r'] at hlit
    rw [String.length_toList, String.length_toList, Option.some.inj hlit]
  obtain ⟨hlit, hrest⟩ := List.append_inj h hlength
  have hvalue := stringValue_encode s
  rw [String.toList_inj.mp hlit, stringValue_encode s'] at hvalue
  exact ⟨(String.toByteArray_inj.mp (Option.some.inj hvalue)).symm, hrest⟩

/-! ## Tokens -/

/-- A token is scanned where it was written. -/
theorem Scans.written {kind : TokenKind} {text : String} (hstart : StartsToken (text.toList ++ cs))
    (hlexeme : lexeme? (text.toList ++ cs) = some (kind, text.length)) (h : Scans false cs spans) :
    Scans newLine (text.toList ++ cs) (.token ⟨kind, text, newLine⟩ :: spans) := by
  have hdrop : (text.toList ++ cs).drop text.length = cs := List.drop_left' (String.length_toList)
  have htake : (text.toList ++ cs).take text.length = text.toList := List.take_left' (String.length_toList)
  have hscans := @Scans.token newLine _ _ _ _ hstart hlexeme (hdrop.symm ▸ h)
  rwa [htake, String.ofList_toList] at hscans

/-- The first token of a text that starts as a word does. -/
theorem lexeme_of_parts {c : Char} {v : List Char} (hc : isIdentifierStart c) (hv : v.all isIdentifierPart)
    (hcs : EndsWord cs) : lexeme? (c :: v ++ cs) =
      some (if keywords.contains (String.ofList (c :: v)) then .keyword else .word, (c :: v).length) := by
  have htake : (v ++ cs).takeWhile isIdentifierPart = v := by
    have hnil : cs.takeWhile isIdentifierPart = [] := by
      cases cs with
      | nil => rfl
      | cons d ds => simp [hcs d rfl]
    rw [List.takeWhile_append_of_pos (by simpa using hv), hnil, List.append_nil]
  rw [List.cons_append, lexeme?, if_pos hc, htake]

theorem not_digit_of_start {c : Char} (h : isIdentifierStart c) : c.isDigit = false := by
  have hdigits : ∀ n < 58, 48 ≤ n → isIdentifierStart (Char.ofNat n) = false := by decide
  rw [← Bool.not_eq_true]
  intro hdigit
  have hrange : 48 ≤ c.toNat ∧ c.toNat ≤ 57 := Char.isDigit_iff_toNat.mp hdigit
  have hstart := hdigits c.toNat (by omega) hrange.1
  rw [Char.ofNat_toNat, h] at hstart
  cases hstart

theorem ne_slash_of_start {c : Char} (h : isIdentifierStart c) : c ≠ '/' := by
  rintro rfl
  cases h

theorem Scans.word {text : String} (hword : isWord text) (hcs : EndsWord cs) (h : Scans false cs spans) :
    Scans newLine (text.toList ++ cs) (.token ⟨.word, text, newLine⟩ :: spans) := by
  unfold isWord at hword
  split at hword
  · rename_i c v htext
    simp only [Bool.and_eq_true, Bool.not_eq_true'] at hword
    obtain ⟨⟨hc, hv⟩, hkeyword⟩ := hword
    have hlexeme := lexeme_of_parts hc hv hcs
    rw [← htext, String.ofList_toList, hkeyword, String.length_toList] at hlexeme
    refine .written ?_ hlexeme h
    rw [htext] at hlexeme ⊢
    exact startsToken_of_lexeme hlexeme (ne_slash_of_start hc)
  · cases hword

theorem Scans.keyword {text : String} (hkeyword : keywords.contains text) (hcs : EndsWord cs) (h : Scans false cs spans) :
    Scans newLine (text.toList ++ cs) (.token ⟨.keyword, text, newLine⟩ :: spans) := by
  have hparts : ∀ text ∈ keywords, text.toList.head?.any isIdentifierStart ∧ text.toList.tail.all isIdentifierPart := by
    decide +kernel
  obtain ⟨hhead, hv⟩ := hparts text (List.contains_iff_mem.mp hkeyword)
  rw [Option.any_eq_true] at hhead
  obtain ⟨c, hhead, hc⟩ := hhead
  obtain ⟨v, htext⟩ := List.head?_eq_some_iff.mp hhead
  rw [htext, List.tail_cons] at hv
  have hlexeme := lexeme_of_parts hc hv hcs
  rw [← htext, String.ofList_toList, hkeyword, String.length_toList] at hlexeme
  refine .written ?_ hlexeme h
  rw [htext] at hlexeme ⊢
  exact startsToken_of_lexeme hlexeme (ne_slash_of_start hc)

theorem Scans.string (text : String) (h : Scans false cs spans) :
    Scans newLine ((Quoted.encode text).toList ++ cs) (.token ⟨.literal .string, Quoted.encode text, newLine⟩ :: spans) := by
  have hlength := stringLength_encode text cs
  have hquote : ∃ v, (Quoted.encode text).toList = '"' :: v := by
    rw [Quoted.encode, String.toList_ofList]
    exact ⟨_, rfl⟩
  obtain ⟨v, hv⟩ := hquote
  have hlexeme : lexeme? ((Quoted.encode text).toList ++ cs) = some (.literal .string, (Quoted.encode text).length) := by
    rw [hv, List.cons_append] at hlength ⊢
    change (stringLength _).map _ = _
    rw [hlength]
    rfl
  refine .written ?_ hlexeme h
  rw [hv] at hlexeme ⊢
  exact startsToken_of_lexeme hlexeme (by decide)

theorem digitTail_digits {ds : List Char} (hds : ds.all Char.isDigit) : digitTail Char.isDigit ds = ds.length := by
  induction ds with
  | nil => rfl
  | cons d ds ih =>
    rw [List.all_cons, Bool.and_eq_true] at hds
    have hne : d ≠ '_' := by
      rintro rfl
      cases hds.1
    rw [digitTail_cons hne, if_pos hds.1, ih hds.2, List.length_cons]

/-- A row of digits without a leading zero is an integer literal. -/
theorem numberLength_digits {d : Char} {ds : List Char} (hd : d.isDigit) (hds : ds.all Char.isDigit)
    (hzero : d = '0' → ds = []) : numberLength (d :: ds) = some (.integer, ds.length + 1) := by
  have hrun : digitRun Char.isDigit (d :: ds) = ds.length + 1 := by
    rw [digitRun, if_pos hd, digitTail_digits hds]
  have hdrop : (d :: ds).drop (ds.length + 1) = [] := List.drop_eq_nil_of_le (Nat.le_refl _)
  have hfloat : decimalFloatLength (d :: ds) = 0 := by
    rw [decimalFloatLength_whole]
    · rw [hrun, hdrop, if_neg (Nat.succ_ne_zero _)]
      rfl
    · rw [hrun, hdrop]
      simp
  have hboth : integerLength (d :: ds) = ds.length + 1 ∧ floatLength (d :: ds) = 0 := by
    by_cases hlead : d = '0'
    · subst hlead
      rw [hzero rfl]
      decide
    · rw [integerLength_of_ne_zero hlead, floatLength_of_ne_zero hlead]
      exact ⟨hrun, hfloat⟩
  unfold numberLength
  simp [hboth, hrun]

/-- The digits of an integer that is written by its value. -/
theorem digits_of_decimal {text : String} {n : Int} (h : decimal? text = some n) :
    ∃ d ds, text.toList = d :: ds ∧ d.isDigit ∧ ds.all Char.isDigit ∧ (d = '0' → ds = []) := by
  obtain ⟨-, -, ⟨hne, hall, hlead⟩, -, -⟩ := decimal?_eq_some_iff.mp h
  obtain ⟨d, ds, htext⟩ := List.exists_cons_of_ne_nil hne
  rw [htext, List.all_cons, Bool.and_eq_true] at hall
  refine ⟨d, ds, htext, hall.1, hall.2, ?_⟩
  rintro rfl
  rw [htext] at hlead
  exact (List.cons.inj (hlead rfl)).2

/-- An integer that is written by its value is an integer literal. -/
theorem Scans.number {text : String} {n : Int} (hn : decimal? text = some n) (hcs : Breaks cs)
    (h : Scans false cs spans) :
    Scans newLine (text.toList ++ cs) (.token ⟨.literal .int, text, newLine⟩ :: spans) := by
  obtain ⟨d, ds, htext, hd, hds, hzero⟩ := digits_of_decimal hn
  have hne (c : Char) (hc : c.isDigit = false) : d ≠ c := by
    rintro rfl
    rw [hd] at hc
    cases hc
  have hquote : isQuote d = false := by
    simp [isQuote, hne '"' (by decide), hne '\x60' (by decide), hne '\'' (by decide)]
  have hlexeme : lexeme? (text.toList ++ cs) = some (.literal .int, text.length) := by
    rw [htext, lexeme_append hcs hquote, lexeme?, if_neg, if_neg (hne _ (by decide)), if_neg (hne _ (by decide)),
      if_neg (hne _ (by decide)), if_neg (hne _ (by decide)), numberLength_digits hd hds hzero, ← String.length_toList,
      htext]
    · rfl
    · intro hstart
      rw [not_digit_of_start hstart] at hd
      cases hd
  refine .written ?_ hlexeme h
  rw [htext, List.cons_append] at hlexeme ⊢
  exact startsToken_of_lexeme hlexeme (hne _ (by decide))

/-! ## Symbols -/

theorem Scans.symbol {c : Char} {v : List Char} (hstart : isIdentifierStart c = false) (hquote : isQuote c = false)
    (hnul : c ≠ '\x00') (hslash : c ≠ '/') (hnumber : numberLength (c :: v ++ cs) = none)
    (hsymbol : symbolLength (c :: v ++ cs) = some (c :: v).length) (h : Scans false cs spans) :
    Scans newLine (c :: v ++ cs) (.token ⟨.symbol, String.ofList (c :: v), newLine⟩ :: spans) := by
  simp only [isQuote, Bool.or_eq_false_iff, decide_eq_false_iff_not] at hquote
  have hlexeme : lexeme? (c :: v ++ cs) = some (.symbol, (String.ofList (c :: v)).length) := by
    rw [List.cons_append] at hnumber hsymbol ⊢
    simp [lexeme?, hstart, hquote, hnul, hnumber, hsymbol, Nat.add_comm]
  have hwritten := @Scans.written newLine cs spans .symbol (String.ofList (c :: v))
  rw [String.toList_ofList] at hwritten
  exact hwritten (startsToken_of_lexeme hlexeme hslash) hlexeme h

theorem numberLength_of_break {c : Char} (hc : isBreak c) (v : List Char) : numberLength (c :: v) = none :=
  numberLength_append (.cons hc v) []

/-- The symbols that are tokens whatever follows. -/
theorem Scans.bracket {c : Char} (hc : ['(', ')', '\x7b', '\x7d', ','].contains c) (h : Scans false cs spans) :
    Scans newLine (c :: cs) (.token ⟨.symbol, c.toString, newLine⟩ :: spans) := by
  simp only [List.contains_cons, List.contains_nil, Bool.or_false, Bool.or_eq_true, beq_iff_eq] at hc
  rcases hc with rfl | rfl | rfl | rfl | rfl
  all_goals
    exact @Scans.symbol newLine cs spans _ [] (by decide) (by decide) (by decide) (by decide)
      (numberLength_of_break (by decide) cs) rfl h

theorem Scans.dot {c : Char} (hc : isIdentifierStart c) (h : Scans false (c :: cs) spans) :
    Scans newLine ('.' :: c :: cs) (.token ⟨.symbol, ".", newLine⟩ :: spans) := by
  have hdigit : c.isDigit = false := not_digit_of_start hc
  have hdot : ('.' == c) = false := by
    rw [beq_eq_false_iff_ne]
    rintro rfl
    cases hc
  refine @Scans.symbol newLine (c :: cs) spans '.' [] (by decide) (by decide) (by decide) (by decide) ?_ ?_ h
  · have hfloat : decimalFloatLength ('.' :: c :: cs) = 0 := by
      rw [decimalFloatLength_fraction rfl, if_pos ⟨digitRun_eq_zero (by decide) _, digitRun_eq_zero hdigit cs⟩]
    have hrun : digitRun Char.isDigit ('.' :: c :: cs) = 0 := digitRun_eq_zero (by decide) _
    simp [numberLength, integerLength_eq_zero, floatLength_of_not_digit, hfloat, hrun]
  · simp [symbolLength, symbols, List.find?, List.isPrefixOf, hdot]
    rfl

theorem Scans.star {c : Char} (hc : isIdentifierStart c) (h : Scans false (c :: cs) spans) :
    Scans newLine ('*' :: c :: cs) (.token ⟨.symbol, "*", newLine⟩ :: spans) := by
  refine @Scans.symbol newLine (c :: cs) spans '*' [] (by decide) (by decide) (by decide) (by decide)
    (numberLength_of_break (by decide) _) ?_ h
  have hequals : ('=' == c) = false := by
    rw [beq_eq_false_iff_ne]
    rintro rfl
    cases hc
  simp [symbolLength, symbols, List.find?, List.isPrefixOf, hequals]
  rfl

theorem Scans.define (h : Scans false cs spans) :
    Scans newLine (':' :: '=' :: cs) (.token ⟨.symbol, ":=", newLine⟩ :: spans) :=
  @Scans.symbol newLine cs spans ':' ['='] (by decide) (by decide) (by decide) (by decide)
    (numberLength_of_break (by decide) _) rfl h

/-! ## White space -/

theorem Scans.blank (h : Scans newLine cs spans) : Scans newLine (' ' :: cs) spans :=
  .space (by decide) (by simpa using h)

theorem Scans.tab (h : Scans newLine cs spans) : Scans newLine ('\t' :: cs) spans :=
  .space (by decide) (by simpa using h)

theorem Scans.line (h : Scans true cs spans) : Scans newLine ('\n' :: cs) spans :=
  .space (by decide) (by simpa using h)

end GoRebuild.Lexical
