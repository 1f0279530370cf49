import GoRebuild.Lexical.Scanner

/-!
# What the scanner gives

* `isWord` : whether a text is an identifier;
* `startsLiteral` : whether a text starts as a literal does;
* `startsLiteral_of_number`, `describes_of_lexeme` : the texts of tokens by their kinds;
* `describes_of_scan` : the texts of all tokens of a source.
-/

namespace GoRebuild.Lexical
open Text

/-- Whether a text is an identifier. -/
def isWord (text : String) : Bool :=
  match text.toList with
  | c :: cs => isIdentifierStart c && cs.all isIdentifierPart && !keywords.contains text
  | [] => false

/-- Whether a text starts as a literal does: with a quote, a digit, or a dot before a digit. -/
def startsLiteral : List Char → Bool
  | [] => false
  | [c] => c.isDigit || c = '"' || c = '\x60' || c = '\''
  | c :: d :: _ => c.isDigit || c = '"' || c = '\x60' || c = '\'' || (c = '.' && d.isDigit)

theorem startsLiteral_of_quote {c : Char} (hc : c = '"' ∨ c = '\x60' ∨ c = '\'') (cs : List Char) :
    startsLiteral (c :: cs) := by
  rcases hc with rfl | rfl | rfl <;> cases cs <;> rfl

theorem startsLiteral_of_digit {c : Char} (hc : c.isDigit) (cs : List Char) : startsLiteral (c :: cs) := by
  cases cs <;> simp [startsLiteral, hc]

/-! ## Numbers -/

theorem digitRun_eq_zero {digit : Char → Bool} {c : Char} (hc : digit c = false) (cs : List Char) :
    digitRun digit (c :: cs) = 0 := by
  simp [digitRun, hc]

theorem integerLength_eq_zero {c : Char} (hc : c.isDigit = false) (cs : List Char) :
    integerLength (c :: cs) = 0 := by
  unfold integerLength
  split
  · rename_i heq
    injection heq with hzero
    rw [hzero] at hc
    cases hc
  · exact digitRun_eq_zero hc cs

theorem floatLength_of_not_digit {c : Char} (hc : c.isDigit = false) (cs : List Char) :
    floatLength (c :: cs) = decimalFloatLength (c :: cs) := by
  unfold floatLength
  split
  · rename_i heq
    injection heq with hzero
    rw [hzero] at hc
    cases hc
  · rfl

theorem decimalFloatLength_eq_zero {c : Char} (hc : c.isDigit = false) (hdot : c ≠ '.') (cs : List Char) :
    decimalFloatLength (c :: cs) = 0 := by
  unfold decimalFloatLength
  simp only [digitRun_eq_zero hc, List.drop_zero]
  split
  · rename_i heq
    injection heq with h
    exact absurd h hdot
  · rfl

theorem decimalFloatLength_dot (cs : List Char) (h : decimalFloatLength ('.' :: cs) ≠ 0) :
    ∃ d ds, cs = d :: ds ∧ d.isDigit ∧ 2 ≤ decimalFloatLength ('.' :: cs) := by
  have hwhole : digitRun Char.isDigit ('.' :: cs) = 0 := digitRun_eq_zero (by decide) cs
  have hlength : decimalFloatLength ('.' :: cs) = if digitRun Char.isDigit cs = 0 then 0
      else 1 + digitRun Char.isDigit cs + exponentLength 'e' 'E' (cs.drop (digitRun Char.isDigit cs)) := by
    unfold decimalFloatLength
    simp [hwhole]
  rw [hlength] at h ⊢
  split at h
  · exact absurd rfl h
  · rename_i hfrac
    cases cs with
    | nil => exact absurd rfl hfrac
    | cons d ds =>
      cases hd : d.isDigit with
      | false => exact absurd (digitRun_eq_zero hd ds) hfrac
      | true =>
        refine ⟨d, ds, rfl, hd, ?_⟩
        rw [if_neg hfrac]
        omega

/-- A number begins with a digit, or with a dot before a digit. -/
theorem startsLiteral_of_number {cs : List Char} {kind : NumberKind} {n : Nat}
    (h : numberLength cs = some (kind, n)) : startsLiteral (cs.take n) := by
  cases cs with
  | nil => cases h
  | cons c cs =>
    have hpos : 0 < n := by
      unfold numberLength at h
      dsimp only at h
      split at h
      · cases h
        omega
      split at h
      · cases h
        omega
      split at h
      · cases h
        omega
      · cases h
    obtain ⟨m, rfl⟩ : ∃ m, n = m + 1 := ⟨n - 1, by omega⟩
    rw [List.take_succ_cons]
    cases hc : c.isDigit with
    | true => exact startsLiteral_of_digit hc _
    | false =>
      have hint := integerLength_eq_zero hc cs
      have hfloat := floatLength_of_not_digit hc cs
      by_cases hdot : c = '.'
      · subst hdot
        by_cases hzero : decimalFloatLength ('.' :: cs) = 0
        · simp [numberLength, hint, hfloat, hzero, digitRun_eq_zero hc] at h
        obtain ⟨d, ds, rfl, hd, htwo⟩ := decimalFloatLength_dot cs hzero
        -- the digit behind the dot is part of it
        have hm : m ≠ 0 := by
          unfold numberLength at h
          simp only [hint, hfloat, digitRun_eq_zero hc] at h
          generalize decimalFloatLength ('.' :: d :: ds) = k at h htwo
          split at h
          · cases h
            omega
          split at h
          · cases h
            omega
          · simp at h
        obtain ⟨k, rfl⟩ : ∃ k, m = k + 1 := ⟨m - 1, by omega⟩
        rw [List.take_succ_cons]
        simp [startsLiteral, hd]
      · -- nothing else begins a number
        rw [decimalFloatLength_eq_zero hc hdot] at hfloat
        simp [numberLength, hint, hfloat, digitRun_eq_zero hc] at h

/-! ## Tokens -/

theorem stringLength_pos {cs : List Char} {n : Nat} (h : stringLength cs = some n) : 0 < n := by
  unfold stringLength at h
  split at h
  · obtain ⟨m, -, rfl⟩ := Option.map_eq_some_iff.mp h
    omega
  · cases h

theorem rawStringLength_pos {cs : List Char} {n : Nat} (h : rawStringLength cs = some n) : 0 < n := by
  unfold rawStringLength at h
  split at h
  · obtain ⟨m, -, rfl⟩ := Option.map_eq_some_iff.mp h
    omega
  · cases h

theorem runeLength_pos {cs : List Char} {n : Nat} (h : runeLength cs = some n) : 0 < n := by
  unfold runeLength at h
  split at h
  · split at h
    · split at h
      · cases h
        omega
      · cases h
    · cases h
  · split at h
    · cases h
    · cases h
      omega
  · cases h

/-- What a token is like, by its kind. -/
def TokenKind.describes (kind : TokenKind) (text : String) : Prop :=
  match kind with
  | .word => isWord text
  | .keyword => keywords.contains text
  | .literal _ => startsLiteral text.toList
  | .stop => text = "\x00"
  | .symbol => symbols.contains text

/-- The next token of a text is of its kind. -/
theorem describes_of_lexeme {cs : List Char} {kind : TokenKind} {n : Nat}
    (h : lexeme? cs = some (kind, n)) : kind.describes (String.ofList (cs.take n)) := by
  cases cs with
  | nil => cases h
  | cons c cs =>
    have hquote {k : LitKind} {o : Option Nat} (hc : c = '"' ∨ c = '\x60' ∨ c = '\'')
        (hpos : ∀ n, o = some n → 0 < n) (h : o.map (fun n => (TokenKind.literal k, n)) = some (kind, n)) :
        kind.describes (String.ofList ((c :: cs).take n)) := by
      obtain ⟨m, ho, hm⟩ := Option.map_eq_some_iff.mp h
      cases hm
      obtain ⟨i, rfl⟩ : ∃ i, n = i + 1 := ⟨n - 1, by have := hpos n ho; omega⟩
      change startsLiteral (String.ofList _).toList
      rw [String.toList_ofList, List.take_succ_cons]
      exact startsLiteral_of_quote hc _
    rw [lexeme?] at h
    split at h
    · rename_i hstart
      cases h
      have htake : (c :: cs).take (c :: cs.takeWhile isIdentifierPart).length = c :: cs.takeWhile isIdentifierPart := by
        rw [List.length_cons, List.take_succ_cons]
        exact congrArg (c :: ·) (List.prefix_iff_eq_take.mp (List.takeWhile_prefix _)).symm
      rw [htake]
      split
      · rename_i hkeyword
        exact hkeyword
      · rename_i hkeyword
        have hpart : (cs.takeWhile isIdentifierPart).all isIdentifierPart := List.all_takeWhile
        change isWord _
        unfold isWord
        simp only [String.toList_ofList, hstart, hpart, Bool.true_and, Bool.not_eq_true']
        exact Bool.eq_false_iff.mpr hkeyword
    split at h
    · rename_i hc
      exact hquote (.inl hc) (fun n => stringLength_pos) h
    split at h
    · rename_i hc
      exact hquote (.inr (.inl hc)) (fun n => rawStringLength_pos) h
    split at h
    · rename_i hc
      exact hquote (.inr (.inr hc)) (fun n => runeLength_pos) h
    split at h
    · rename_i hnul
      cases h
      rw [hnul]
      rfl
    split at h
    · rename_i number m hnumber
      cases h
      change startsLiteral (String.ofList _).toList
      rw [String.toList_ofList]
      exact startsLiteral_of_number hnumber
    · obtain ⟨m, hsymbol, hm⟩ := Option.map_eq_some_iff.mp h
      cases hm
      obtain ⟨s, hs, rfl⟩ := Option.map_eq_some_iff.mp hsymbol
      have hfound := List.find?_some hs
      have hprefix : s.toList <+: c :: cs := List.isPrefixOf_iff_prefix.mp hfound
      have htake : (c :: cs).take s.length = s.toList := (List.prefix_iff_eq_take.mp hprefix).symm
      rw [htake, String.ofList_toList]
      exact List.contains_iff_mem.mpr (List.mem_of_find?_eq_some hs)

/-- All tokens of a source are of their kinds. -/
theorem describes_of_scanFrom {n index : Nat} {p : Cursor} {cs : List Char} {tokens : List (Token × Cursor)}
    (h : scanFrom n index p cs = some tokens) : ∀ t ∈ tokens, t.1.kind.describes t.1.text := by
  induction n generalizing index p cs tokens with
  | zero => cases h
  | succ n ih =>
    rw [scanFrom] at h
    generalize skipBlanks cs.length p false cs = r at h
    obtain ⟨p, newLine, cs⟩ := r
    dsimp only at h
    split at h
    · cases h
      exact fun t ht => nomatch ht
    · cases hlexeme : lexeme? cs with
      | none =>
        rw [hlexeme] at h
        cases h
      | some r =>
        obtain ⟨kind, m⟩ := r
        rw [hlexeme] at h
        cases hrest : scanFrom n (index + 1) (p.advanceBy (cs.take m)) (cs.drop m) with
        | none => simp [hrest] at h
        | some rest =>
          simp only [hrest, Option.bind_eq_bind, Option.bind_some] at h
          cases h
          intro t ht
          rcases List.mem_cons.mp ht with rfl | ht
          · exact describes_of_lexeme hlexeme
          · exact ih hrest t ht

theorem describes_of_scan {source : String} {tokens : List (Token × Cursor)} (h : scan source = some tokens) :
    ∀ t ∈ tokens, t.1.kind.describes t.1.text := by
  unfold scan at h
  split at h
  · exact describes_of_scanFrom h
  · exact describes_of_scanFrom h

end GoRebuild.Lexical
