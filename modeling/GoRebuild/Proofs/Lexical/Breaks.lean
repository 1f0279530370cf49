import GoRebuild.Proofs.Lexical.Scanner
import GoRebuild.Verify.Compare

/-!
# Where tokens end

* `isBreak` : the characters that go on with no word, number or symbol; white space and slashes are some;
* `Breaks s` : a text is empty or begins with one;
* `break_of_blank`, `plain_of_not_break` : white space is a break, and so are quotes and slashes;
* `digitRun_append`, `numberLength_append`, `symbolLength_append` : what stands behind a break does not count;
* `lexeme_append` : so for every token that is not in quotes;
* `stringLength_append`, `rawStringLength_append`, `runeLength_append` : a token in quotes is read from itself
  alone.
-/

namespace GoRebuild.Lexical
open Text
open Verify (isQuote)

/-! ## Breaks -/

/-- A character that goes on with no word, number or symbol. -/
def isBreak (c : Char) : Bool :=
  !isIdentifierPart c && !(['.', '+', '-', '<', '>', '=', '^', '&', '|'].contains c)

/-- Nothing that goes on with a token comes first. -/
def Breaks (s : List Char) : Prop :=
  ∀ c ∈ s.head?, isBreak c

variable {s : List Char}

theorem Breaks.nil : Breaks [] := nofun

theorem Breaks.cons {c : Char} (h : isBreak c) (cs : List Char) : Breaks (c :: cs) := by
  rintro d ⟨⟩
  exact h

theorem Breaks.head {c : Char} {cs : List Char} (h : Breaks (c :: cs)) : isBreak c :=
  h c rfl

theorem Breaks.append {s t : List Char} (hs : Breaks s) (ht : Breaks t) : Breaks (s ++ t) := by
  cases s with
  | nil => exact ht
  | cons c s => exact hs

theorem not_part_of_break {c : Char} (h : isBreak c) : isIdentifierPart c = false := by
  unfold isBreak at h
  simp only [Bool.and_eq_true, Bool.not_eq_true'] at h
  exact h.1

theorem ne_of_break {c d : Char} (h : isBreak c) (hd : isBreak d = false) : c ≠ d := by
  rintro rfl
  rw [hd] at h
  cases h

theorem part_of_alphanum {c : Char} (h : c.isAlphanum) : isIdentifierPart c := by
  simp [isIdentifierPart, h]

theorem start_is_part {c : Char} (h : c.isAlpha) : isIdentifierPart c :=
  part_of_alphanum (by simp [Char.isAlphanum, h])

/-! ## White space -/

theorem blank_of_space {c : Char} (h : isSpace c) : isBlank c := by
  simp only [isSpace, Bool.or_eq_true, decide_eq_true_eq, Bool.and_eq_true] at h
  rcases h with rfl | h
  · decide
  · simp [isBlank, h]

/-- The code points of white space. -/
def blanks : List Nat :=
  [9, 10, 11, 12, 13, 0x20, 0x85, 0xA0, 0x1680, 0x2000, 0x2001, 0x2002, 0x2003, 0x2004, 0x2005, 0x2006, 0x2007, 0x2008,
   0x2009, 0x200A, 0x2028, 0x2029, 0x202F, 0x205F, 0x3000]

theorem mem_blanks {c : Char} (h : isBlank c) : c.toNat ∈ blanks := by
  simp only [isBlank, Bool.or_eq_true, Bool.and_eq_true, decide_eq_true_eq] at h
  generalize c.toNat = n at h ⊢
  have hlow : ∀ n ∈ List.range' 9 5, n ∈ blanks := by decide
  have hwide : ∀ n ∈ List.range' 0x2000 11, n ∈ blanks := by decide
  obtain (((((((((h | rfl) | rfl) | rfl) | rfl) | h) | rfl) | rfl) | rfl) | rfl) | rfl := h
  · exact hlow n (List.mem_range'_1.mpr (by omega))
  all_goals first
    | decide
    | exact hwide n (List.mem_range'_1.mpr (by omega))

theorem break_of_blank {c : Char} (h : isBlank c) : isBreak c := by
  have hall : ∀ n ∈ blanks, isBreak (Char.ofNat n) := by decide +kernel
  have hbreak := hall c.toNat (mem_blanks h)
  rwa [Char.ofNat_toNat] at hbreak

theorem not_blank_of_not_break {c : Char} (h : isBreak c = false) : isBlank c = false := by
  cases hc : isBlank c with
  | false => rfl
  | true => rw [break_of_blank hc] at h; cases h

/-- Neither a quote nor a slash goes on with a token. -/
theorem plain_of_not_break {c : Char} (h : isBreak c = false) : isQuote c = false ∧ c ≠ '/' := by
  have hne (d : Char) (hd : isBreak d) : c ≠ d := by
    rintro rfl
    rw [hd] at h
    cases h
  refine ⟨?_, hne '/' (by decide)⟩
  simp [isQuote, hne '"' (by decide), hne '\x60' (by decide), hne '\'' (by decide)]

/-! ## Digits -/

/-- A class of digits: they are parts of words, and the underscore is none. -/
structure IsDigits (digit : Char → Bool) : Prop where
  part : ∀ c, digit c → isIdentifierPart c
  underscore : digit '_' = false

theorem IsDigits.not_break {digit : Char → Bool} (hdigit : IsDigits digit) {c : Char} (h : isBreak c) :
    digit c = false := by
  have hpart := not_part_of_break h
  cases hc : digit c with
  | false => rfl
  | true => rw [hdigit.part c hc] at hpart; cases hpart

theorem isDigits_decimal : IsDigits Char.isDigit :=
  ⟨fun c h => part_of_alphanum (by simp [Char.isAlphanum, h]), by decide⟩

theorem isDigits_hex : IsDigits isHexDigit := by
  refine ⟨fun c h => ?_, by decide⟩
  simp only [isHexDigit, Bool.or_eq_true, Bool.and_eq_true, decide_eq_true_eq] at h
  rcases h with (h | ⟨h, h'⟩) | ⟨h, h'⟩
  · exact isDigits_decimal.part c h
  · have hlower : c.isLower := Bool.and_eq_true_iff.mpr ⟨decide_eq_true h, decide_eq_true (Nat.le_trans h' (by decide))⟩
    exact start_is_part (Bool.or_eq_true_iff.mpr (.inr hlower))
  · have hupper : c.isUpper := decide_eq_true ⟨h, Nat.le_trans h' (by decide)⟩
    exact start_is_part (Bool.or_eq_true_iff.mpr (.inl hupper))

theorem isDigits_octal : IsDigits isOctalDigit := by
  refine ⟨fun c h => isDigits_decimal.part c ?_, by decide⟩
  simp only [isOctalDigit, Bool.and_eq_true, decide_eq_true_eq] at h
  simp only [Char.isDigit, Bool.and_eq_true, decide_eq_true_eq]
  exact ⟨h.1, Nat.le_trans h.2 (by decide)⟩

theorem isDigits_binary : IsDigits isBinaryDigit := by
  refine ⟨fun c h => ?_, by decide⟩
  simp only [isBinaryDigit, Bool.or_eq_true, decide_eq_true_eq] at h
  rcases h with rfl | rfl <;> decide

/-! ## Runs of digits -/

section
variable {digit : Char → Bool}

theorem digitTail_cons {c : Char} (hc : c ≠ '_') (cs : List Char) :
    digitTail digit (c :: cs) = if digit c then digitTail digit cs + 1 else 0 := by
  rw [digitTail]
  intro d ds heq _
  exact hc heq

theorem digitTail_append (hdigit : IsDigits digit) (hs : Breaks s) (v : List Char) :
    digitTail digit (v ++ s) = digitTail digit v := by
  have hbreak : digitTail digit s = 0 := by
    cases s with
    | nil => rfl
    | cons c s =>
      have hc := hs.head
      rw [digitTail_cons (ne_of_break hc (by decide)), hdigit.not_break hc]
      rfl
  fun_induction digitTail digit v with
  | case1 => exact hbreak
  | case2 d cs hd ih => simp [digitTail, hd, ih]
  | case3 d cs hd => simp [digitTail, hd]
  | case4 c cs hne hc ih =>
    cases cs with
    | nil =>
      have hnot : c ≠ '_' := by
        rintro rfl
        rw [hdigit.underscore] at hc
        cases hc
      rw [List.cons_append, List.nil_append, digitTail_cons hnot, if_pos hc, hbreak]
      rfl
    | cons d cs =>
      rw [List.cons_append, digitTail, if_pos hc, ih]
      intro e es heq hes
      exact hne d cs heq rfl
  | case5 c cs hne hc =>
    cases cs with
    | nil =>
      rw [List.cons_append, List.nil_append]
      by_cases hunder : c = '_'
      · subst hunder
        cases s with
        | nil => simp [digitTail, hc]
        | cons d s => simp [digitTail, hdigit.not_break hs.head]
      · rw [digitTail_cons hunder, if_neg hc]
    | cons d cs =>
      rw [List.cons_append, digitTail, if_neg hc]
      intro e es heq hes
      exact hne d cs heq rfl

theorem digitTail_le (v : List Char) : digitTail digit v ≤ v.length := by
  fun_induction digitTail digit v <;> simp <;> omega

theorem digitRun_append (hdigit : IsDigits digit) (hs : Breaks s) (v : List Char) :
    digitRun digit (v ++ s) = digitRun digit v := by
  cases v with
  | nil =>
    cases s with
    | nil => rfl
    | cons c s => exact digitRun_eq_zero (hdigit.not_break hs.head) s
  | cons c v => rw [List.cons_append, digitRun, digitRun, digitTail_append hdigit hs]

theorem digitRun_le (v : List Char) : digitRun digit v ≤ v.length := by
  cases v with
  | nil => exact Nat.le_refl 0
  | cons c v =>
    have htail := @digitTail_le digit v
    rw [digitRun, List.length_cons]
    split <;> omega

theorem looseRun_append (hdigit : IsDigits digit) (hs : Breaks s) (v : List Char) :
    looseRun digit (v ++ s) = looseRun digit v := by
  cases v with
  | nil =>
    cases s with
    | nil => rfl
    | cons c s =>
      have hne : c ≠ '_' := ne_of_break hs.head (by decide)
      rw [List.nil_append, looseRun]
      · exact digitRun_append hdigit hs []
      · intro cs heq
        exact hne (List.cons.inj heq).1
  | cons c v =>
    by_cases hunder : c = '_'
    · subst hunder
      rw [List.cons_append, looseRun, looseRun, digitRun_append hdigit hs]
    · rw [List.cons_append, looseRun, looseRun]
      · exact digitRun_append hdigit hs (c :: v)
      · intro cs heq
        exact hunder (List.cons.inj heq).1
      · intro cs heq
        exact hunder (List.cons.inj heq).1

theorem looseRun_le (v : List Char) : looseRun digit v ≤ v.length := by
  unfold looseRun
  split
  · rename_i cs
    have hrun := @digitRun_le digit cs
    rw [List.length_cons]
    split <;> omega
  · exact digitRun_le v

end

/-! ## Numbers -/

theorem integerLength_of_ne_zero {c : Char} (hc : c ≠ '0') (cs : List Char) :
    integerLength (c :: cs) = digitRun Char.isDigit (c :: cs) := by
  unfold integerLength
  split
  · rename_i heq
    exact absurd (List.cons.inj heq).1 hc
  · rfl

theorem integerLength_append (hs : Breaks s) (v : List Char) : integerLength (v ++ s) = integerLength v := by
  have hnot {c d : Char} (hc : isBreak c) (hd : isBreak d = false) : (c = d) = False := eq_false (ne_of_break hc hd)
  cases v with
  | nil =>
    cases s with
    | nil => rfl
    | cons c s => exact integerLength_eq_zero (isDigits_decimal.not_break hs.head) s
  | cons c v =>
    by_cases hzero : c = '0'
    · subst hzero
      cases v with
      | nil =>
        cases s with
        | nil => rfl
        | cons c s =>
          -- no letter for a base follows, and no digit
          have hrun := looseRun_append isDigits_octal hs []
          have hc := hs.head
          rw [List.nil_append] at hrun
          simp only [List.cons_append, List.nil_append, integerLength, hrun, hnot hc (by decide : isBreak 'b' = false),
            hnot hc (by decide : isBreak 'B' = false), hnot hc (by decide : isBreak 'o' = false),
            hnot hc (by decide : isBreak 'O' = false), hnot hc (by decide : isBreak 'x' = false),
            hnot hc (by decide : isBreak 'X' = false), decide_false, Bool.or_self]
          rfl
      | cons c v =>
        have hoctal := looseRun_append isDigits_octal hs (c :: v)
        rw [List.cons_append] at hoctal
        simp only [List.cons_append, integerLength, looseRun_append isDigits_binary hs, looseRun_append isDigits_octal hs,
          looseRun_append isDigits_hex hs, hoctal]
    · rw [List.cons_append, integerLength_of_ne_zero hzero, integerLength_of_ne_zero hzero]
      exact digitRun_append isDigits_decimal hs (c :: v)

theorem after_le {n run k : Nat} (h : n + run ≤ k) : after n run ≤ k := by
  unfold after
  split <;> omega

theorem integerLength_le (v : List Char) : integerLength v ≤ v.length := by
  unfold integerLength
  split
  · rename_i c cs
    have hbinary := @looseRun_le isBinaryDigit cs
    have hoctal := @looseRun_le isOctalDigit cs
    have hhex := @looseRun_le isHexDigit cs
    have hrun := @looseRun_le isOctalDigit (c :: cs)
    simp only [List.length_cons] at hrun ⊢
    split
    · exact Nat.max_le.mpr ⟨by omega, after_le (by omega)⟩
    split
    · exact Nat.max_le.mpr ⟨by omega, after_le (by omega)⟩
    split
    · exact Nat.max_le.mpr ⟨by omega, after_le (by omega)⟩
    · omega
  · exact digitRun_le v

section
variable {small big : Char}

/-- An exponent with a sign. -/
theorem exponentLength_signed {sign : Char} (hsign : sign = '+' ∨ sign = '-') (c : Char) (ds : List Char) :
    exponentLength small big (c :: sign :: ds) =
      if c = small || c = big then after 2 (digitRun Char.isDigit ds) else 0 := by
  rcases hsign with rfl | rfl <;> rfl

/-- An exponent without a sign. -/
theorem exponentLength_bare (c : Char) {ds : List Char} (hplus : ds.head? ≠ some '+') (hminus : ds.head? ≠ some '-') :
    exponentLength small big (c :: ds) =
      if c = small || c = big then after 1 (digitRun Char.isDigit ds) else 0 := by
  rw [exponentLength]
  · rintro ds rfl
    exact hplus rfl
  · rintro ds rfl
    exact hminus rfl

theorem exponentLength_append (hsmall : isBreak small = false) (hbig : isBreak big = false) (hs : Breaks s)
    (v : List Char) : exponentLength small big (v ++ s) = exponentLength small big v := by
  have hsign {d : Char} (hd : isBreak d = false) : s.head? ≠ some d := by
    intro hhead
    have hbreak := hs d hhead
    rw [hd] at hbreak
    cases hbreak
  match v with
  | [] =>
    cases s with
    | nil => rfl
    | cons c s => simp [exponentLength, ne_of_break hs.head hsmall, ne_of_break hs.head hbig]
  | [c] =>
    have hrun := digitRun_append isDigits_decimal hs []
    rw [List.nil_append] at hrun
    rw [List.cons_append, List.nil_append, exponentLength_bare c (hsign (by decide)) (hsign (by decide)),
      exponentLength_bare c (by simp) (by simp), hrun]
  | c :: d :: v =>
    by_cases hd : d = '+' ∨ d = '-'
    · rw [List.cons_append, List.cons_append, exponentLength_signed hd, exponentLength_signed hd,
        digitRun_append isDigits_decimal hs]
    · rw [not_or] at hd
      have hrun := digitRun_append isDigits_decimal hs (d :: v)
      rw [List.cons_append] at hrun
      rw [List.cons_append, List.cons_append, exponentLength_bare c (by simpa using hd.1) (by simpa using hd.2),
        exponentLength_bare c (by simpa using hd.1) (by simpa using hd.2), hrun]

theorem exponentLength_le (v : List Char) : exponentLength small big v ≤ v.length := by
  unfold exponentLength
  split
  · split
    · split
      · exact after_le (Nat.le_trans (Nat.add_le_add_left (digitRun_le _) 2) (by simp only [List.length_cons]; omega))
      · exact after_le (Nat.le_trans (Nat.add_le_add_left (digitRun_le _) 2) (by simp only [List.length_cons]; omega))
      · exact after_le (Nat.le_trans (Nat.add_le_add_left (digitRun_le _) 1) (by simp only [List.length_cons]; omega))
    · exact Nat.zero_le _
  · exact Nat.le_refl 0

end

theorem drop_of_le {v : List Char} {n : Nat} (h : n ≤ v.length) : (v ++ s).drop n = v.drop n ++ s := by
  rw [List.drop_append, Nat.sub_eq_zero_of_le h, List.drop_zero]

/-- A character that goes on with tokens is not that of a break. -/
theorem head_drop_append (hs : Breaks s) {c : Char} (hc : isBreak c = false) {v : List Char} {n : Nat}
    (h : n ≤ v.length) : ((v ++ s).drop n).head? = some c ↔ (v.drop n).head? = some c := by
  rw [drop_of_le h]
  cases hdrop : v.drop n with
  | cons d ds => simp
  | nil =>
    rw [List.nil_append]
    constructor
    · intro hhead
      have hbreak := hs c hhead
      rw [hc] at hbreak
      cases hbreak
    · intro hhead
      cases hhead

/-- A decimal floating-point literal with a dot. -/
theorem decimalFloatLength_fraction {v rest : List Char} (h : v.drop (digitRun Char.isDigit v) = '.' :: rest) :
    decimalFloatLength v =
      if digitRun Char.isDigit v = 0 ∧ digitRun Char.isDigit rest = 0 then 0
      else digitRun Char.isDigit v + 1 + digitRun Char.isDigit rest +
        exponentLength 'e' 'E' (rest.drop (digitRun Char.isDigit rest)) := by
  unfold decimalFloatLength
  simp only [h]

/-- A decimal floating-point literal without a dot. -/
theorem decimalFloatLength_whole {v : List Char} (h : (v.drop (digitRun Char.isDigit v)).head? ≠ some '.') :
    decimalFloatLength v =
      if digitRun Char.isDigit v = 0 then 0
      else after (digitRun Char.isDigit v) (exponentLength 'e' 'E' (v.drop (digitRun Char.isDigit v))) := by
  unfold decimalFloatLength
  dsimp only
  split
  · rename_i heq
    rw [heq] at h
    exact absurd rfl h
  · rfl

theorem decimalFloatLength_append (hs : Breaks s) (v : List Char) :
    decimalFloatLength (v ++ s) = decimalFloatLength v := by
  have hwhole := digitRun_append isDigits_decimal hs v
  have hle := @digitRun_le Char.isDigit v
  have hexponent (u : List Char) : exponentLength 'e' 'E' (u ++ s) = exponentLength 'e' 'E' u :=
    exponentLength_append (by decide) (by decide) hs u
  by_cases hdot : (v.drop (digitRun Char.isDigit v)).head? = some '.'
  · obtain ⟨rest, hrest⟩ := List.head?_eq_some_iff.mp hdot
    have hrest' : (v ++ s).drop (digitRun Char.isDigit (v ++ s)) = '.' :: (rest ++ s) := by
      rw [hwhole, drop_of_le hle, hrest, List.cons_append]
    rw [decimalFloatLength_fraction hrest', decimalFloatLength_fraction hrest, hwhole,
      digitRun_append isDigits_decimal hs rest, drop_of_le (digitRun_le rest), hexponent]
  · have hdot' : ((v ++ s).drop (digitRun Char.isDigit (v ++ s))).head? ≠ some '.' := by
      rwa [hwhole, ne_eq, head_drop_append hs (by decide) hle]
    rw [decimalFloatLength_whole hdot', decimalFloatLength_whole hdot, hwhole, drop_of_le hle, hexponent]

theorem decimalFloatLength_le (v : List Char) : decimalFloatLength v ≤ v.length := by
  have hle := @digitRun_le Char.isDigit v
  have hdrop := List.length_drop (i := digitRun Char.isDigit v) (l := v)
  by_cases hdot : (v.drop (digitRun Char.isDigit v)).head? = some '.'
  · obtain ⟨rest, hrest⟩ := List.head?_eq_some_iff.mp hdot
    rw [hrest, List.length_cons] at hdrop
    have hfrac := @digitRun_le Char.isDigit rest
    have hexponent := @exponentLength_le 'e' 'E' (rest.drop (digitRun Char.isDigit rest))
    rw [List.length_drop] at hexponent
    rw [decimalFloatLength_fraction hrest]
    split <;> omega
  · have hexponent := @exponentLength_le 'e' 'E' (v.drop (digitRun Char.isDigit v))
    rw [decimalFloatLength_whole hdot]
    split
    · exact Nat.zero_le _
    · exact after_le (by omega)

/-- The mantissa of a hexadecimal floating-point literal. -/
def hexMantissa (v : List Char) : Nat :=
  match v.drop (looseRun isHexDigit v) with
  | '.' :: rest =>
    if looseRun isHexDigit v = 0 ∧ digitRun isHexDigit rest = 0 then 0
    else looseRun isHexDigit v + 1 + digitRun isHexDigit rest
  | _ => looseRun isHexDigit v

theorem hexFloatLength_eq (v : List Char) : hexFloatLength v =
    if hexMantissa v = 0 then 0
    else after (2 + hexMantissa v) (exponentLength 'p' 'P' (v.drop (hexMantissa v))) := rfl

theorem hexMantissa_fraction {v rest : List Char} (h : v.drop (looseRun isHexDigit v) = '.' :: rest) :
    hexMantissa v =
      if looseRun isHexDigit v = 0 ∧ digitRun isHexDigit rest = 0 then 0
      else looseRun isHexDigit v + 1 + digitRun isHexDigit rest := by
  unfold hexMantissa
  simp only [h]

theorem hexMantissa_whole {v : List Char} (h : (v.drop (looseRun isHexDigit v)).head? ≠ some '.') :
    hexMantissa v = looseRun isHexDigit v := by
  unfold hexMantissa
  split
  · rename_i heq
    rw [heq] at h
    exact absurd rfl h
  · rfl

theorem hexMantissa_append (hs : Breaks s) (v : List Char) : hexMantissa (v ++ s) = hexMantissa v := by
  have hwhole := looseRun_append isDigits_hex hs v
  have hle := @looseRun_le isHexDigit v
  by_cases hdot : (v.drop (looseRun isHexDigit v)).head? = some '.'
  · obtain ⟨rest, hrest⟩ := List.head?_eq_some_iff.mp hdot
    have hrest' : (v ++ s).drop (looseRun isHexDigit (v ++ s)) = '.' :: (rest ++ s) := by
      rw [hwhole, drop_of_le hle, hrest, List.cons_append]
    rw [hexMantissa_fraction hrest', hexMantissa_fraction hrest, hwhole, digitRun_append isDigits_hex hs rest]
  · have hdot' : ((v ++ s).drop (looseRun isHexDigit (v ++ s))).head? ≠ some '.' := by
      rwa [hwhole, ne_eq, head_drop_append hs (by decide) hle]
    rw [hexMantissa_whole hdot', hexMantissa_whole hdot, hwhole]

theorem hexMantissa_le (v : List Char) : hexMantissa v ≤ v.length := by
  have hle := @looseRun_le isHexDigit v
  by_cases hdot : (v.drop (looseRun isHexDigit v)).head? = some '.'
  · obtain ⟨rest, hrest⟩ := List.head?_eq_some_iff.mp hdot
    have hdrop := List.length_drop (i := looseRun isHexDigit v) (l := v)
    rw [hrest, List.length_cons] at hdrop
    have hfrac := @digitRun_le isHexDigit rest
    rw [hexMantissa_fraction hrest]
    split <;> omega
  · rw [hexMantissa_whole hdot]
    exact hle

theorem hexFloatLength_append (hs : Breaks s) (v : List Char) : hexFloatLength (v ++ s) = hexFloatLength v := by
  rw [hexFloatLength_eq, hexFloatLength_eq, hexMantissa_append hs, drop_of_le (hexMantissa_le v),
    exponentLength_append (by decide) (by decide) hs]

theorem hexFloatLength_le (v : List Char) : hexFloatLength v ≤ v.length + 2 := by
  have hmantissa := hexMantissa_le v
  have hexponent := @exponentLength_le 'p' 'P' (v.drop (hexMantissa v))
  rw [List.length_drop] at hexponent
  rw [hexFloatLength_eq]
  split
  · exact Nat.zero_le _
  · exact after_le (by omega)

theorem floatLength_of_ne_zero {c : Char} (hc : c ≠ '0') (cs : List Char) :
    floatLength (c :: cs) = decimalFloatLength (c :: cs) := by
  unfold floatLength
  split
  · rename_i heq
    exact absurd (List.cons.inj heq).1 hc
  · rfl

theorem floatLength_append (hs : Breaks s) (v : List Char) : floatLength (v ++ s) = floatLength v := by
  have hdecimal := decimalFloatLength_append hs v
  match v with
  | [] =>
    cases s with
    | nil => rfl
    | cons c s =>
      have hzero : c ≠ '0' := ne_of_break hs.head (by decide)
      rw [List.nil_append, floatLength_of_ne_zero hzero]
      exact hdecimal
  | [c] =>
    by_cases hzero : c = '0'
    · subst hzero
      cases s with
      | nil => rfl
      | cons d s =>
        have hsmall : d ≠ 'x' := ne_of_break hs.head (by decide)
        have hbig : d ≠ 'X' := ne_of_break hs.head (by decide)
        simpa [floatLength, hsmall, hbig] using hdecimal
    · rw [List.cons_append, floatLength_of_ne_zero hzero, floatLength_of_ne_zero hzero]
      exact hdecimal
  | c :: d :: v =>
    by_cases hzero : c = '0'
    · subst hzero
      rw [List.cons_append, List.cons_append, floatLength, floatLength, hexFloatLength_append hs]
      split
      · rfl
      · exact hdecimal
    · rw [List.cons_append, floatLength_of_ne_zero hzero, floatLength_of_ne_zero hzero]
      exact hdecimal

theorem floatLength_le (v : List Char) : floatLength v ≤ v.length := by
  unfold floatLength
  split
  · rename_i d rest
    split
    · exact hexFloatLength_le rest
    · exact decimalFloatLength_le _
  · exact decimalFloatLength_le v

theorem numberLength_append (hs : Breaks s) (v : List Char) : numberLength (v ++ s) = numberLength v := by
  have hlongest : max (max (integerLength v) (floatLength v)) (digitRun Char.isDigit v) ≤ v.length :=
    Nat.max_le.mpr ⟨Nat.max_le.mpr ⟨integerLength_le v, floatLength_le v⟩, digitRun_le v⟩
  unfold numberLength
  simp only [integerLength_append hs, floatLength_append hs, digitRun_append isDigits_decimal hs,
    head_drop_append hs (by decide : isBreak 'i' = false) hlongest]

theorem numberLength_le {v : List Char} {kind : NumberKind} {n : Nat} (h : numberLength v = some (kind, n)) :
    n ≤ v.length := by
  have hint := integerLength_le v
  have hfloat := floatLength_le v
  have hrun := @digitRun_le Char.isDigit v
  unfold numberLength at h
  dsimp only at h
  generalize hlongest : max (max (integerLength v) (floatLength v)) (digitRun Char.isDigit v) = longest at h
  split at h
  · rename_i himaginary
    cases h
    -- the letter is there
    have hlt : longest < v.length := by
      rw [← Nat.not_le]
      intro hle
      rw [List.drop_eq_nil_of_le hle] at himaginary
      cases himaginary.2
    exact hlt
  split at h
  · cases h
    exact hfloat
  split at h
  · cases h
    exact hint
  · cases h

/-! ## Words and symbols -/

theorem takeWhile_append_of_breaks (hs : Breaks s) (v : List Char) :
    (v ++ s).takeWhile isIdentifierPart = v.takeWhile isIdentifierPart := by
  induction v with
  | nil =>
    cases s with
    | nil => rfl
    | cons c s => simp [not_part_of_break hs.head]
  | cons c v ih => rw [List.cons_append, List.takeWhile_cons, List.takeWhile_cons, ih]

theorem isPrefixOf_append {u : List Char} (hu : ∀ c ∈ u, isBreak c = false) (hs : Breaks s) (v : List Char) :
    u.isPrefixOf (v ++ s) = u.isPrefixOf v := by
  induction u generalizing v with
  | nil => simp
  | cons c u ih =>
    cases v with
    | nil =>
      cases s with
      | nil => rfl
      | cons d s =>
        have hne : c ≠ d := (ne_of_break hs.head (hu c List.mem_cons_self)).symm
        simp [List.isPrefixOf, hne]
    | cons d v =>
      rw [List.cons_append, List.isPrefixOf, List.isPrefixOf, ih fun e he => hu e (List.mem_cons_of_mem c he)]

/-- Behind its first character a symbol has no break. -/
theorem tail_of_symbol : ∀ t ∈ symbols, ∀ c ∈ t.toList.tail, isBreak c = false := by
  have hall : symbols.all (fun t => t.toList.tail.all fun c => !isBreak c) = true := by decide +kernel
  intro t ht c hc
  have htail := List.all_eq_true.mp hall t ht
  exact Bool.not_eq_true' _ ▸ List.all_eq_true.mp htail c hc

theorem symbolLength_append (hs : Breaks s) (c : Char) (v : List Char) :
    symbolLength (c :: v ++ s) = symbolLength (c :: v) := by
  have hprefix : ∀ t ∈ symbols, t.toList.isPrefixOf (c :: v ++ s) = t.toList.isPrefixOf (c :: v) := by
    intro t ht
    have htail := tail_of_symbol t ht
    cases htext : t.toList with
    | nil => simp
    | cons d u =>
      rw [htext, List.tail_cons] at htail
      rw [List.cons_append, List.isPrefixOf, List.isPrefixOf, isPrefixOf_append htail hs]
  unfold symbolLength
  generalize symbols = ts at hprefix
  induction ts with
  | nil => rfl
  | cons t ts ih =>
    rw [List.find?_cons, List.find?_cons, hprefix t List.mem_cons_self]
    split
    · rfl
    · exact ih fun u hu => hprefix u (List.mem_cons_of_mem t hu)

theorem symbolLength_le {v : List Char} {n : Nat} (h : symbolLength v = some n) : n ≤ v.length := by
  obtain ⟨t, ht, rfl⟩ := Option.map_eq_some_iff.mp h
  have hfound := List.find?_some ht
  have hprefix : t.toList <+: v := List.isPrefixOf_iff_prefix.mp hfound
  exact hprefix.length_le

/-! ## Tokens without quotes -/

/-- What stands behind a break does not count for a token that is not in quotes. -/
theorem lexeme_append (hs : Breaks s) {c : Char} (hc : isQuote c = false) (v : List Char) :
    lexeme? (c :: v ++ s) = lexeme? (c :: v) := by
  simp only [isQuote, Bool.or_eq_false_iff, decide_eq_false_iff_not] at hc
  have hnumber := numberLength_append hs (c :: v)
  have hsymbol := symbolLength_append hs c v
  rw [List.cons_append] at hnumber hsymbol ⊢
  simp only [lexeme?, hc, if_false, takeWhile_append_of_breaks hs, hnumber, hsymbol]

theorem lexeme_le {c : Char} (hc : isQuote c = false) {v : List Char} {kind : TokenKind} {n : Nat}
    (h : lexeme? (c :: v) = some (kind, n)) : n ≤ (c :: v).length := by
  simp only [isQuote, Bool.or_eq_false_iff, decide_eq_false_iff_not] at hc
  simp only [lexeme?, hc, if_false] at h
  split at h
  · cases h
    exact Nat.succ_le_succ (List.takeWhile_prefix isIdentifierPart).length_le
  split at h
  · cases h
    simp
  split at h
  · rename_i hnumber
    cases h
    exact numberLength_le hnumber
  · obtain ⟨m, hm, heq⟩ := Option.map_eq_some_iff.mp h
    cases heq
    exact symbolLength_le hm

/-- A token that is not in quotes has no break behind its first character. -/
theorem not_break_of_lexeme {c : Char} (hc : isQuote c = false) {v : List Char} {kind : TokenKind} {n : Nat}
    (h : lexeme? (c :: v) = some (kind, n)) : ∀ d ∈ v.take (n - 1), isBreak d = false := by
  intro d hd
  rw [← Bool.not_eq_true]
  intro hbreak
  -- up to the break the same token would be read, and it would end there
  obtain ⟨before, after, hsplit⟩ := List.append_of_mem hd
  have hv : v = before ++ d :: (after ++ v.drop (n - 1)) := by
    rw [← List.cons_append, ← List.append_assoc, ← hsplit, List.take_append_drop]
  rw [hv, ← List.cons_append, lexeme_append (.cons hbreak _) hc] at h
  have hle := lexeme_le hc h
  have hlength := congrArg List.length hsplit
  rw [List.length_take, List.length_append, List.length_cons] at hlength
  rw [List.length_cons] at hle
  omega

/-! ## Tokens in quotes -/

theorem startsWithHex_take {k j : Nat} {cs : List Char} (h : startsWithHex k cs) (hj : k ≤ j) (s : List Char) :
    startsWithHex k (cs.take j ++ s) := by
  induction k generalizing j cs with
  | zero => rfl
  | succ k ih =>
    cases cs with
    | nil => cases h
    | cons c cs =>
      obtain ⟨j, rfl⟩ : ∃ i, j = i + 1 := ⟨j - 1, by omega⟩
      rw [startsWithHex, Bool.and_eq_true] at h
      rw [List.take_succ_cons, List.cons_append, startsWithHex, h.1, Bool.true_and]
      exact ih h.2 (by omega)

/-- Hexadecimal digits are not the end of a string. -/
theorem lt_of_startsWithHex {k n : Nat} {cs : List Char} (hhex : startsWithHex k cs)
    (h : stringTailLength cs = some n) : k < n := by
  induction k generalizing n cs with
  | zero =>
    unfold stringTailLength at h
    split at h
    · cases h
    · split at h
      · obtain ⟨m, -, rfl⟩ := Option.map_eq_some_iff.mp h
        omega
      · cases h
    · split at h
      · cases h
        omega
      split at h
      · cases h
      · obtain ⟨m, -, rfl⟩ := Option.map_eq_some_iff.mp h
        omega
  | succ k ih =>
    cases cs with
    | nil => cases hhex
    | cons c cs =>
      rw [startsWithHex, Bool.and_eq_true] at hhex
      have hne (d : Char) (hd : isHexDigit d = false) : c ≠ d := by
        rintro rfl
        rw [hhex.1] at hd
        cases hd
      rw [stringTailLength, if_neg (hne '"' (by decide)), if_neg] at h
      · obtain ⟨m, hm, rfl⟩ := Option.map_eq_some_iff.mp h
        have := ih hhex.2 hm
        omega
      · simp [hne '\n' (by decide), hne '\\' (by decide)]
      · intro d ds heq _
        exact hne '\\' (by decide) heq

theorem isStringEscape_take {cs : List Char} {n : Nat} {c : Char} (hescape : isStringEscape (c :: cs))
    (h : stringTailLength cs = some n) (s : List Char) : isStringEscape (c :: (cs.take n ++ s)) := by
  rw [isStringEscape] at hescape ⊢
  have hhex {k : Nat} (hk : startsWithHex k cs) : startsWithHex k (cs.take n ++ s) :=
    startsWithHex_take hk (Nat.le_of_lt (lt_of_startsWithHex hk h)) s
  split
  · rename_i hx
    rw [if_pos hx] at hescape
    exact hhex hescape
  rename_i hx
  rw [if_neg hx] at hescape
  split
  · rename_i hu
    rw [if_pos hu] at hescape
    exact hhex hescape
  rename_i hu
  rw [if_neg hu] at hescape
  split
  · rename_i hU
    rw [if_pos hU] at hescape
    exact hhex hescape
  · rfl

theorem stringTailLength_append {cs : List Char} {n : Nat} (h : stringTailLength cs = some n) (s : List Char) :
    stringTailLength (cs.take n ++ s) = some n := by
  fun_induction stringTailLength cs generalizing n with
  | case1 => cases h
  | case2 c cs hescape ih =>
    obtain ⟨m, hm, rfl⟩ := Option.map_eq_some_iff.mp h
    have hescape' := isStringEscape_take hescape hm s
    rw [List.take_succ_cons, List.take_succ_cons, List.cons_append, List.cons_append, stringTailLength,
      if_pos hescape', ih hm]
    rfl
  | case3 c cs hescape => cases h
  | case4 cs hne => cases h; rfl
  | case5 c cs hne hquote hend => cases h
  | case6 c cs hne hquote hend ih =>
    obtain ⟨m, hm, rfl⟩ := Option.map_eq_some_iff.mp h
    have hbackslash : c ≠ '\\' := by
      rintro rfl
      simp at hend
    rw [List.take_succ_cons, List.cons_append, stringTailLength, if_neg hquote, if_neg hend, ih hm]
    · rfl
    · intro d ds heq _
      exact hbackslash heq

theorem stringLength_append {cs : List Char} {n : Nat} (h : stringLength cs = some n) (s : List Char) :
    stringLength (cs.take n ++ s) = some n := by
  unfold stringLength at h
  split at h
  · obtain ⟨m, hm, rfl⟩ := Option.map_eq_some_iff.mp h
    rw [List.take_succ_cons, List.cons_append, stringLength, stringTailLength_append hm]
    rfl
  · cases h

theorem rawTailLength_append {cs : List Char} {n : Nat} (h : rawTailLength cs = some n) (s : List Char) :
    rawTailLength (cs.take n ++ s) = some n := by
  induction cs generalizing n with
  | nil => cases h
  | cons c cs ih =>
    rw [rawTailLength] at h
    split at h
    · rename_i hc
      cases h
      simp [rawTailLength, hc]
    · rename_i hc
      obtain ⟨m, hm, rfl⟩ := Option.map_eq_some_iff.mp h
      rw [List.take_succ_cons, List.cons_append, rawTailLength, if_neg hc, ih hm]
      rfl

theorem rawStringLength_append {cs : List Char} {n : Nat} (h : rawStringLength cs = some n) (s : List Char) :
    rawStringLength (cs.take n ++ s) = some n := by
  unfold rawStringLength at h
  split at h
  · obtain ⟨m, hm, rfl⟩ := Option.map_eq_some_iff.mp h
    rw [List.take_succ_cons, List.cons_append, rawStringLength, rawTailLength_append hm]
    rfl
  · cases h

theorem startsWithOctal_eq_false {c : Char} (hc : isOctalDigit c = false) (cs : List Char) :
    startsWithOctal (c :: cs) = false := by
  unfold startsWithOctal
  split
  · rename_i heq
    rw [← (List.cons.inj heq).1]
    unfold isOctalDigit at hc
    simp [hc]
  · rfl

theorem not_octal_of_letter :
    ∀ c ∈ ['a', 'b', 'f', 'n', 'r', 't', 'v', '\\', '\'', '"'], isOctalDigit c = false := by
  simp [isOctalDigit]

/-- Three octal digits are at hand where an escape begins with such. -/
theorem octal_digits {a : Char} {cs : List Char} (h : startsWithOctal (a :: cs)) :
    ∃ b c rest, cs = b :: c :: rest ∧ isOctalDigit b ∧ isOctalDigit c := by
  obtain _ | ⟨b, _ | ⟨c, rest⟩⟩ := cs
  · cases h
  · cases h
  · simp only [startsWithOctal, Bool.and_eq_true] at h
    exact ⟨b, c, rest, rfl, Bool.and_eq_true_iff.mpr ⟨h.1.1.1.2, h.1.1.2⟩, Bool.and_eq_true_iff.mpr ⟨h.1.2, h.2⟩⟩

theorem runeEscapeLength_append {cs : List Char} {n : Nat} (h : runeEscapeLength cs = some n) (s : List Char) :
    runeEscapeLength (cs.take (n + 1) ++ s) = some n := by
  cases cs with
  | nil => cases h
  | cons c cs =>
    rw [List.take_succ_cons, List.cons_append]
    rw [runeEscapeLength] at h ⊢
    have hhex {k : Nat} (h : (if startsWithHex k cs then some (k + 1) else none) = some n) :
        (if startsWithHex k (cs.take n ++ s) then some (k + 1) else none) = some n := by
      split at h
      · rename_i hk
        cases h
        rw [if_pos (startsWithHex_take hk (Nat.le_succ k) s)]
      · cases h
    split
    · rename_i hx
      rw [if_pos hx] at h
      exact hhex h
    rename_i hx
    rw [if_neg hx] at h
    split
    · rename_i hu
      rw [if_pos hu] at h
      exact hhex h
    rename_i hu
    rw [if_neg hu] at h
    split
    · rename_i hU
      rw [if_pos hU] at h
      exact hhex h
    rename_i hU
    rw [if_neg hU] at h
    by_cases hoctal : startsWithOctal (c :: cs)
    · rw [if_pos hoctal] at h
      cases h
      obtain ⟨d, e, cs, rfl, -⟩ := octal_digits hoctal
      exact if_pos hoctal
    · rw [if_neg hoctal] at h
      split at h
      · rename_i hletter
        have hnot := not_octal_of_letter c (List.contains_iff_mem.mp hletter)
        rw [startsWithOctal_eq_false hnot, if_neg Bool.false_ne_true, if_pos hletter]
        exact h
      · cases h

theorem runeLength_append {cs : List Char} {n : Nat} (h : runeLength cs = some n) (s : List Char) :
    runeLength (cs.take n ++ s) = some n := by
  unfold runeLength at h
  split at h
  · rename_i cs
    split at h
    · rename_i k hk
      split at h
      · rename_i hquote
        cases h
        obtain ⟨rest, hrest⟩ := List.head?_eq_some_iff.mp hquote
        have htake : cs.take (k + 1) = cs.take k ++ ['\''] := by
          rw [List.take_add, hrest]
          rfl
        have hk' := runeEscapeLength_append hk s
        have hdrop : (cs.take (k + 1) ++ s).drop k = '\'' :: s := by
          have hlength : (cs.take k).length = k := by
            have hle := congrArg List.length hrest
            rw [List.length_drop, List.length_cons] at hle
            rw [List.length_take]
            omega
          rw [htake, List.append_assoc, List.drop_append, hlength, Nat.sub_self, List.drop_of_length_le (by omega)]
          rfl
        rw [List.take_succ_cons, List.take_succ_cons, List.cons_append, List.cons_append, runeLength, hk']
        dsimp only
        rw [hdrop]
        rfl
      · cases h
    · cases h
  · rename_i c cs hne
    split at h
    · cases h
    · rename_i hc
      cases h
      rw [List.take_succ_cons, List.take_succ_cons, List.take_succ_cons, List.take_zero, List.cons_append,
        List.cons_append, List.cons_append, List.nil_append, runeLength, if_neg hc]
      exact hne
  · cases h

theorem stringTailLength_le {cs : List Char} {n : Nat} (h : stringTailLength cs = some n) : n ≤ cs.length := by
  fun_induction stringTailLength cs generalizing n with
  | case1 => cases h
  | case2 c cs _ ih =>
    obtain ⟨m, hm, rfl⟩ := Option.map_eq_some_iff.mp h
    have := ih hm
    simp only [List.length_cons]
    omega
  | case3 => cases h
  | case4 =>
    cases h
    simp
  | case5 => cases h
  | case6 c cs _ _ _ ih =>
    obtain ⟨m, hm, rfl⟩ := Option.map_eq_some_iff.mp h
    exact Nat.succ_le_succ (ih hm)

theorem rawTailLength_le {cs : List Char} {n : Nat} (h : rawTailLength cs = some n) : n ≤ cs.length := by
  induction cs generalizing n with
  | nil => cases h
  | cons c cs ih =>
    rw [rawTailLength] at h
    split at h
    · cases h
      simp
    · obtain ⟨m, hm, rfl⟩ := Option.map_eq_some_iff.mp h
      exact Nat.succ_le_succ (ih hm)

theorem runeLength_le {cs : List Char} {n : Nat} (h : runeLength cs = some n) : n ≤ cs.length := by
  unfold runeLength at h
  split at h
  · rename_i cs
    split at h
    · rename_i k _
      split at h
      · rename_i hquote
        cases h
        -- the closing quote is there
        have hlt : k < cs.length := by
          rw [← Nat.not_le]
          intro hle
          rw [List.drop_eq_nil_of_le hle] at hquote
          cases hquote
        simp only [List.length_cons]
        omega
      · cases h
    · cases h
  · split at h
    · cases h
    · cases h
      simp
  · cases h

/-- A token is part of the text. -/
theorem length_le_of_lexeme {cs : List Char} {kind : TokenKind} {n : Nat} (h : lexeme? cs = some (kind, n)) :
    n ≤ cs.length := by
  cases cs with
  | nil => cases h
  | cons c v =>
    cases hc : isQuote c with
    | false => exact lexeme_le hc h
    | true =>
      simp only [isQuote, Bool.or_eq_true, decide_eq_true_eq] at hc
      rcases hc with (rfl | rfl) | rfl
      · obtain ⟨m, hm, heq⟩ := Option.map_eq_some_iff.mp (h : (stringLength ('"' :: v)).map _ = _)
        cases heq
        obtain ⟨k, hk, rfl⟩ := Option.map_eq_some_iff.mp hm
        exact Nat.succ_le_succ (stringTailLength_le hk)
      · obtain ⟨m, hm, heq⟩ := Option.map_eq_some_iff.mp (h : (rawStringLength ('\x60' :: v)).map _ = _)
        cases heq
        obtain ⟨k, hk, rfl⟩ := Option.map_eq_some_iff.mp hm
        exact Nat.succ_le_succ (rawTailLength_le hk)
      · obtain ⟨m, hm, heq⟩ := Option.map_eq_some_iff.mp (h : (runeLength ('\'' :: v)).map _ = _)
        cases heq
        exact runeLength_le hm

end GoRebuild.Lexical
