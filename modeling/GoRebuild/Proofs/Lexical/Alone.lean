import GoRebuild.Proofs.Lexical.Scans
import Mathlib.Data.List.TakeWhile

/-!
# Tokens alone

What is behind a token does not make it a token: cut off behind it, a text still begins with it.

* `digitRun_take`, `integerLength_take`, `floatLength_take`, `numberLength_take` : a number is read again from its own
  characters;
* `lexeme_take` : so is every token.
-/

namespace GoRebuild.Lexical
open Text
open Verify (isQuote)

/-! ## Runs of digits -/

section
variable {digit : Char → Bool}

theorem digitTail_take (hdigit : IsDigits digit) {v : List Char} {k : Nat} (h : digitTail digit v ≤ k) :
    digitTail digit (v.take k) = digitTail digit v := by
  fun_induction digitTail digit v generalizing k with
  | case1 => rw [List.take_nil, digitTail]
  | case2 d cs hd ih =>
    obtain ⟨j, rfl⟩ : ∃ j, k = j + 2 := ⟨k - 2, by omega⟩
    rw [List.take_succ_cons, List.take_succ_cons, digitTail, if_pos hd, ih (by omega)]
  | case3 d cs hd =>
    obtain _ | _ | k := k
    · rfl
    · simp [digitTail, hdigit.underscore]
    · simp [digitTail, hd]
  | case4 c cs hne hc ih =>
    have hunder : c ≠ '_' := by
      rintro rfl
      rw [hdigit.underscore] at hc
      cases hc
    obtain ⟨j, rfl⟩ : ∃ j, k = j + 1 := ⟨k - 1, by omega⟩
    rw [List.take_succ_cons, digitTail_cons hunder, if_pos hc, ih (by omega)]
  | case5 c cs hne hc =>
    cases k with
    | zero => rfl
    | succ k =>
      rw [List.take_succ_cons]
      by_cases hunder : c = '_'
      · subst hunder
        cases cs with
        | nil => simp [digitTail, hdigit.underscore]
        | cons d cs => exact absurd rfl (hne d cs rfl)
      · rw [digitTail_cons hunder, if_neg hc]

theorem digitRun_take (hdigit : IsDigits digit) {v : List Char} {k : Nat} (h : digitRun digit v ≤ k) :
    digitRun digit (v.take k) = digitRun digit v := by
  cases v with
  | nil => rw [List.take_nil]
  | cons c v =>
    cases k with
    | zero => exact (Nat.le_zero.mp h).symm
    | succ k =>
      rw [digitRun] at h
      rw [List.take_succ_cons, digitRun, digitRun]
      split
      · rename_i hc
        rw [if_pos hc] at h
        rw [digitTail_take hdigit (by omega)]
      · rfl

theorem looseRun_of_ne {c : Char} (hc : c ≠ '_') (cs : List Char) :
    looseRun digit (c :: cs) = digitRun digit (c :: cs) := by
  rw [looseRun]
  intro ds heq
  exact hc (List.cons.inj heq).1

theorem looseRun_take (hdigit : IsDigits digit) {v : List Char} {k : Nat} (h : looseRun digit v ≤ k) :
    looseRun digit (v.take k) = looseRun digit v := by
  cases v with
  | nil => rw [List.take_nil]
  | cons c v =>
    cases k with
    | zero => exact (Nat.le_zero.mp h).symm
    | succ k =>
      by_cases hunder : c = '_'
      · subst hunder
        rw [List.take_succ_cons, looseRun, looseRun]
        rw [looseRun] at h
        rw [digitRun_take hdigit]
        split at h <;> omega
      · rw [looseRun_of_ne hunder] at h
        have hrun := digitRun_take hdigit h
        rw [List.take_succ_cons] at hrun ⊢
        rw [looseRun_of_ne hunder, looseRun_of_ne hunder, hrun]

theorem mem_take_digitTail {v : List Char} : ∀ c ∈ v.take (digitTail digit v), digit c ∨ c = '_' := by
  fun_induction digitTail digit v with
  | case1 => simp
  | case2 d cs hd ih =>
    intro c hc
    rw [List.take_succ_cons, List.take_succ_cons, List.mem_cons, List.mem_cons] at hc
    rcases hc with rfl | rfl | hc
    · exact .inr rfl
    · exact .inl hd
    · exact ih c hc
  | case3 => simp
  | case4 c cs hne hc ih =>
    intro d hd
    rw [List.take_succ_cons, List.mem_cons] at hd
    rcases hd with rfl | hd
    · exact .inl hc
    · exact ih d hd
  | case5 => simp

theorem mem_take_digitRun {v : List Char} : ∀ c ∈ v.take (digitRun digit v), digit c ∨ c = '_' := by
  cases v with
  | nil => simp
  | cons c v =>
    rw [digitRun]
    split
    · rename_i hc
      intro d hd
      rw [List.take_succ_cons, List.mem_cons] at hd
      rcases hd with rfl | hd
      · exact .inl hc
      · exact mem_take_digitTail d hd
    · simp

theorem mem_take_looseRun {v : List Char} : ∀ c ∈ v.take (looseRun digit v), digit c ∨ c = '_' := by
  cases v with
  | nil => simp
  | cons c v =>
    by_cases hunder : c = '_'
    · subst hunder
      rw [looseRun]
      split
      · simp
      · rename_i n hn
        intro d hd
        rw [List.take_succ_cons, List.mem_cons] at hd
        rcases hd with rfl | hd
        · exact .inr rfl
        · exact mem_take_digitRun d hd
    · rw [looseRun_of_ne hunder]
      exact mem_take_digitRun

end

/-! ## Integers -/

theorem after_eq_zero {n run : Nat} (h : after n run ≤ n) : after n run = 0 := by
  unfold after at h ⊢
  split at h
  · rename_i hrun
    exact if_pos hrun
  · omega

theorem eq_add_of_after_pos {n run : Nat} (h : 0 < after n run) : after n run = n + run ∧ 0 < run := by
  unfold after at h ⊢
  split at h
  · cases h
  · rename_i hrun
    exact ⟨if_neg hrun, Nat.pos_of_ne_zero hrun⟩

theorem run_le_of_after_le {n run k : Nat} (h : after n run ≤ k + n) : run ≤ k := by
  unfold after at h
  split at h <;> omega

theorem integerLength_take {v : List Char} {k : Nat} (h : integerLength v ≤ k) :
    integerLength (v.take k) = integerLength v := by
  match v with
  | [] => rw [List.take_nil]
  | [c] =>
    cases k with
    | zero => exact (Nat.le_zero.mp h).symm
    | succ k => rw [List.take_succ_cons, List.take_nil]
  | c :: d :: v =>
    by_cases hzero : c = '0'
    · subst hzero
      match k with
      | 0 => exact (Nat.le_zero.mp h).symm
      | 1 =>
        -- the zero alone
        have hone : 1 ≤ integerLength ('0' :: d :: v) := by
          rw [integerLength]
          split
          · exact Nat.le_max_left _ _
          split
          · exact Nat.le_max_left _ _
          split
          · exact Nat.le_max_left _ _
          · exact Nat.le_add_right _ _
        exact (Nat.le_antisymm h hone).symm
      | k + 2 =>
        rw [List.take_succ_cons, List.take_succ_cons, integerLength, integerLength]
        rw [integerLength] at h
        split
        · rename_i hd
          rw [if_pos hd, Nat.max_le] at h
          rw [looseRun_take isDigits_binary (run_le_of_after_le h.2)]
        rename_i hbinary
        rw [if_neg hbinary] at h
        split
        · rename_i hd
          rw [if_pos hd, Nat.max_le] at h
          rw [looseRun_take isDigits_octal (run_le_of_after_le h.2)]
        rename_i hoctal
        rw [if_neg hoctal] at h
        split
        · rename_i hd
          rw [if_pos hd, Nat.max_le] at h
          rw [looseRun_take isDigits_hex (run_le_of_after_le h.2)]
        rename_i hhex
        rw [if_neg hhex] at h
        have hrun := looseRun_take (v := d :: v) (k := k + 1) isDigits_octal (by omega)
        rw [List.take_succ_cons] at hrun
        rw [hrun]
    · cases k with
      | zero => exact (Nat.le_zero.mp h).symm
      | succ k =>
        rw [integerLength_of_ne_zero hzero] at h ⊢
        have hrun := digitRun_take isDigits_decimal h
        rw [List.take_succ_cons] at hrun ⊢
        rw [integerLength_of_ne_zero hzero, hrun]

/-! ## Floating-point literals -/

section
variable {small big : Char}

theorem exponentLength_take {v : List Char} {k : Nat} (h : exponentLength small big v ≤ k) :
    exponentLength small big (v.take k) = exponentLength small big v := by
  match v, k with
  | v, 0 => exact (Nat.le_zero.mp h).symm
  | [], k + 1 => rfl
  | [c], k + 1 => rw [List.take_succ_cons, List.take_nil]
  | c :: d :: v, k + 1 =>
    rw [List.take_succ_cons]
    by_cases hd : d = '+' ∨ d = '-'
    · rw [exponentLength_signed hd] at h ⊢
      cases k with
      | zero =>
        rw [List.take_zero, exponentLength_bare c (by simp) (by simp)]
        split
        · rename_i hc
          rw [if_pos hc] at h
          rw [after_eq_zero (Nat.le_succ_of_le h)]
          rfl
        · rfl
      | succ k =>
        rw [List.take_succ_cons, exponentLength_signed hd]
        split
        · rename_i hc
          rw [if_pos hc] at h
          rw [digitRun_take isDigits_decimal (run_le_of_after_le h)]
        · rfl
    · rw [not_or] at hd
      have hbare : exponentLength small big (c :: d :: v) = _ :=
        exponentLength_bare c (by simpa using hd.1) (by simpa using hd.2)
      rw [hbare] at h ⊢
      rw [exponentLength_bare c]
      · split
        · rename_i hc
          rw [if_pos hc] at h
          rw [digitRun_take isDigits_decimal (run_le_of_after_le h)]
        · rfl
      · cases k with
        | zero => simp
        | succ k => simpa using hd.1
      · cases k with
        | zero => simp
        | succ k => simpa using hd.2

end

/-- What is left of a text that is cut off begins as the text does, if anything is left. -/
theorem drop_take_dot {v rest : List Char} {n k : Nat} (hdrop : v.drop n = '.' :: rest) (hk : n + 1 ≤ k) :
    (v.take k).drop n = '.' :: rest.take (k - (n + 1)) := by
  obtain ⟨j, rfl⟩ : ∃ j, k = n + (j + 1) := ⟨k - (n + 1), by omega⟩
  rw [List.drop_take, hdrop, show n + (j + 1) - n = j + 1 by omega, List.take_succ_cons,
    show n + (j + 1) - (n + 1) = j by omega]

theorem head_drop_take {v : List Char} {n k : Nat} {c : Char} (h : (v.drop n).head? ≠ some c) :
    ((v.take k).drop n).head? ≠ some c := by
  rw [List.drop_take]
  cases hdrop : v.drop n with
  | nil => simp
  | cons d ds =>
    rw [hdrop] at h
    cases k - n with
    | zero => simp
    | succ j => simpa using h

theorem decimalFloatLength_take {v : List Char} {k : Nat} (hpos : 0 < decimalFloatLength v)
    (h : decimalFloatLength v ≤ k) : decimalFloatLength (v.take k) = decimalFloatLength v := by
  by_cases hdot : (v.drop (digitRun Char.isDigit v)).head? = some '.'
  · obtain ⟨rest, hrest⟩ := List.head?_eq_some_iff.mp hdot
    rw [decimalFloatLength_fraction hrest] at hpos h ⊢
    split at hpos
    · cases hpos
    rename_i hnonempty
    rw [if_neg hnonempty] at h ⊢
    have hwhole : digitRun Char.isDigit (v.take k) = digitRun Char.isDigit v :=
      digitRun_take isDigits_decimal (by omega)
    have hrest' : (v.take k).drop (digitRun Char.isDigit (v.take k)) =
        '.' :: rest.take (k - (digitRun Char.isDigit v + 1)) := by
      rw [hwhole]
      exact drop_take_dot hrest (by omega)
    rw [decimalFloatLength_fraction hrest', hwhole, digitRun_take isDigits_decimal (v := rest) (by omega),
      if_neg hnonempty, List.drop_take, exponentLength_take (by omega)]
  · rw [decimalFloatLength_whole hdot] at hpos h ⊢
    split at hpos
    · cases hpos
    rename_i hnonempty
    rw [if_neg hnonempty] at h ⊢
    rw [(eq_add_of_after_pos hpos).1] at h
    have hwhole : digitRun Char.isDigit (v.take k) = digitRun Char.isDigit v :=
      digitRun_take isDigits_decimal (by omega)
    rw [decimalFloatLength_whole (by rw [hwhole]; exact head_drop_take hdot), hwhole, if_neg hnonempty, List.drop_take,
      exponentLength_take (by omega)]

theorem hexMantissa_take {v : List Char} {k : Nat} (hpos : 0 < hexMantissa v) (h : hexMantissa v ≤ k) :
    hexMantissa (v.take k) = hexMantissa v := by
  by_cases hdot : (v.drop (looseRun isHexDigit v)).head? = some '.'
  · obtain ⟨rest, hrest⟩ := List.head?_eq_some_iff.mp hdot
    rw [hexMantissa_fraction hrest] at hpos h ⊢
    split at hpos
    · cases hpos
    rename_i hnonempty
    rw [if_neg hnonempty] at h ⊢
    have hwhole : looseRun isHexDigit (v.take k) = looseRun isHexDigit v := looseRun_take isDigits_hex (by omega)
    have hrest' : (v.take k).drop (looseRun isHexDigit (v.take k)) =
        '.' :: rest.take (k - (looseRun isHexDigit v + 1)) := by
      rw [hwhole]
      exact drop_take_dot hrest (by omega)
    rw [hexMantissa_fraction hrest', hwhole, digitRun_take isDigits_hex (v := rest) (by omega), if_neg hnonempty]
  · rw [hexMantissa_whole hdot] at h ⊢
    have hwhole : looseRun isHexDigit (v.take k) = looseRun isHexDigit v := looseRun_take isDigits_hex h
    rw [hexMantissa_whole (by rw [hwhole]; exact head_drop_take hdot), hwhole]

theorem hexFloatLength_take {v : List Char} {k : Nat} (hpos : 0 < hexFloatLength v) (h : hexFloatLength v ≤ k + 2) :
    hexFloatLength (v.take k) = hexFloatLength v := by
  rw [hexFloatLength_eq] at hpos h
  split at hpos
  · cases hpos
  rename_i hmantissa
  rw [if_neg hmantissa] at h
  rw [(eq_add_of_after_pos hpos).1] at h
  rw [hexFloatLength_eq, hexFloatLength_eq, hexMantissa_take (by omega) (by omega), List.drop_take,
    exponentLength_take (by omega)]

theorem two_lt_hexFloatLength {v : List Char} (hpos : 0 < hexFloatLength v) : 2 < hexFloatLength v := by
  rw [hexFloatLength_eq] at hpos ⊢
  split at hpos
  · cases hpos
  rename_i hmantissa
  have hsum := eq_add_of_after_pos hpos
  rw [if_neg hmantissa, hsum.1]
  omega

theorem floatLength_take {v : List Char} {k : Nat} (hpos : 0 < floatLength v) (h : floatLength v ≤ k) :
    floatLength (v.take k) = floatLength v := by
  match v, k with
  | v, 0 => omega
  | [], k + 1 => rfl
  | [c], k + 1 => rw [List.take_succ_cons, List.take_nil]
  | c :: d :: v, k + 1 =>
    by_cases hzero : c = '0'
    · subst hzero
      rw [floatLength] at hpos h ⊢
      cases k with
      | zero =>
        split at hpos
        · rename_i hd
          rw [if_pos hd] at h
          have htwo := two_lt_hexFloatLength hpos
          omega
        · rename_i hd
          rw [if_neg hd] at h ⊢
          exact decimalFloatLength_take hpos h
      | succ k =>
        rw [List.take_succ_cons, List.take_succ_cons, floatLength]
        split
        · rename_i hd
          rw [if_pos hd] at hpos h
          exact hexFloatLength_take hpos h
        · rename_i hd
          rw [if_neg hd] at hpos h
          exact decimalFloatLength_take (k := k + 2) hpos h
    · rw [floatLength_of_ne_zero hzero] at hpos h ⊢
      rw [List.take_succ_cons, floatLength_of_ne_zero hzero]
      exact decimalFloatLength_take (k := k + 1) hpos h

/-! ## Imaginary literals -/

/-- No digit is the letter of an imaginary literal. -/
theorem ne_imaginary {digit : Char → Bool} (hdigit : digit 'i' = false) {c : Char} (h : digit c ∨ c = '_') :
    c ≠ 'i' := by
  rintro rfl
  rcases h with h | h
  · rw [hdigit] at h
    cases h
  · exact absurd h (by decide)

theorem mem_take_exponent {small big : Char} (hsmall : small ≠ 'i') (hbig : big ≠ 'i') {v : List Char} :
    ∀ c ∈ v.take (exponentLength small big v), c ≠ 'i' := by
  have hafter {n run : Nat} {u w : List Char} (hu : u.length = n) (hne : ∀ c ∈ u, c ≠ 'i')
      (hrun : ∀ c ∈ w.take run, c ≠ 'i') : ∀ c ∈ (u ++ w).take (after n run), c ≠ 'i' := by
    intro c hc
    unfold after at hc
    split at hc
    · rw [List.take_zero] at hc
      cases hc
    · rw [← hu, List.take_length_add_append, List.mem_append] at hc
      exact hc.elim (hne c) (hrun c)
  have hdigits (w : List Char) : ∀ c ∈ w.take (digitRun Char.isDigit w), c ≠ 'i' :=
    fun c hc => ne_imaginary (by decide) (mem_take_digitRun c hc)
  cases v with
  | nil => nofun
  | cons c v =>
    unfold exponentLength
    dsimp only
    split
    · rename_i hc
      have hletter : c ≠ 'i' := by
        simp only [Bool.or_eq_true, decide_eq_true_eq] at hc
        rcases hc with rfl | rfl
        · exact hsmall
        · exact hbig
      split
      · rename_i ds
        exact hafter (u := [c, '+']) rfl (by simpa using hletter) (hdigits ds)
      · rename_i ds
        exact hafter (u := [c, '-']) rfl (by simpa using hletter) (hdigits ds)
      · exact hafter (u := [c]) rfl (by simpa using hletter) (hdigits v)
    · nofun

/-- A row in two parts. -/
theorem mem_take_add {P : Char → Prop} {v : List Char} {m n : Nat} (hm : ∀ c ∈ v.take m, P c)
    (hn : ∀ c ∈ (v.drop m).take n, P c) : ∀ c ∈ v.take (m + n), P c := by
  intro c hc
  rw [List.take_add, List.mem_append] at hc
  exact hc.elim (hm c) (hn c)

theorem mem_take_dot {v rest : List Char} {m n : Nat} (hm : ∀ c ∈ v.take m, c ≠ 'i') (hdrop : v.drop m = '.' :: rest)
    (hn : ∀ c ∈ rest.take n, c ≠ 'i') : ∀ c ∈ v.take (m + 1 + n), c ≠ 'i' := by
  rw [Nat.add_assoc, Nat.add_comm 1 n]
  refine mem_take_add hm ?_
  rw [hdrop, List.take_succ_cons]
  exact List.forall_mem_cons.mpr ⟨by decide, hn⟩

theorem mem_take_decimalFloat {v : List Char} : ∀ c ∈ v.take (decimalFloatLength v), c ≠ 'i' := by
  have hdigits (w : List Char) : ∀ c ∈ w.take (digitRun Char.isDigit w), c ≠ 'i' :=
    fun c hc => ne_imaginary (by decide) (mem_take_digitRun c hc)
  by_cases hdot : (v.drop (digitRun Char.isDigit v)).head? = some '.'
  · obtain ⟨rest, hrest⟩ := List.head?_eq_some_iff.mp hdot
    rw [decimalFloatLength_fraction hrest]
    split
    · nofun
    · rw [Nat.add_assoc]
      exact mem_take_dot (hdigits v) hrest
        (mem_take_add (hdigits rest) (mem_take_exponent (by decide) (by decide)))
  · rw [decimalFloatLength_whole hdot]
    split
    · nofun
    · unfold after
      split
      · nofun
      · exact mem_take_add (hdigits v) (mem_take_exponent (by decide) (by decide))

theorem mem_take_hexMantissa {v : List Char} : ∀ c ∈ v.take (hexMantissa v), c ≠ 'i' := by
  have hwhole : ∀ c ∈ v.take (looseRun isHexDigit v), c ≠ 'i' :=
    fun c hc => ne_imaginary (by decide) (mem_take_looseRun c hc)
  by_cases hdot : (v.drop (looseRun isHexDigit v)).head? = some '.'
  · obtain ⟨rest, hrest⟩ := List.head?_eq_some_iff.mp hdot
    rw [hexMantissa_fraction hrest]
    split
    · nofun
    · exact mem_take_dot hwhole hrest fun c hc => ne_imaginary (by decide) (mem_take_digitRun c hc)
  · rw [hexMantissa_whole hdot]
    exact hwhole

/-- A floating-point literal does not have the letter of an imaginary one. -/
theorem mem_take_float {v : List Char} : ∀ c ∈ v.take (floatLength v), c ≠ 'i' := by
  unfold floatLength
  split
  · rename_i d rest
    split
    · rename_i hd
      rw [hexFloatLength_eq]
      split
      · nofun
      · unfold after
        split
        · nofun
        · rw [Nat.add_assoc, Nat.add_comm 2, List.take_succ_cons, List.take_succ_cons]
          refine List.forall_mem_cons.mpr ⟨by decide, List.forall_mem_cons.mpr ⟨?_, ?_⟩⟩
          · rintro rfl
            exact absurd hd (by decide)
          · exact mem_take_add mem_take_hexMantissa (mem_take_exponent (by decide) (by decide))
    · exact mem_take_decimalFloat
  · exact mem_take_decimalFloat

/-! ## Numbers -/

theorem numberLength_take {v : List Char} {kind : NumberKind} {n : Nat} (h : numberLength v = some (kind, n)) :
    numberLength (v.take n) = some (kind, n) := by
  have hle := numberLength_le h
  have hlength : (v.take n).length = n := by rw [List.length_take, Nat.min_eq_left hle]
  have hint' := integerLength_le (v.take n)
  have hfloat' := floatLength_le (v.take n)
  have hrun' := @digitRun_le Char.isDigit (v.take n)
  rw [hlength] at hint' hfloat' hrun'
  unfold numberLength at h ⊢
  dsimp only at h ⊢
  generalize hlongest : max (max (integerLength v) (floatLength v)) (digitRun Char.isDigit v) = longest at h
  -- what is not imaginary takes up all that is left, so no letter follows
  have hend {k : Nat} (hk : n ≤ k) : ¬ ((v.take n).drop k).head? = some 'i' := by
    rw [List.drop_eq_nil_of_le (by omega)]
    nofun
  split at h
  · rename_i himaginary
    cases h
    have hint : integerLength (v.take (longest + 1)) = integerLength v := integerLength_take (by omega)
    have hrun : digitRun Char.isDigit (v.take (longest + 1)) = digitRun Char.isDigit v :=
      digitRun_take isDigits_decimal (by omega)
    have hlast : (v.take (longest + 1)).drop longest = ['i'] := by
      obtain ⟨rest, hrest⟩ := List.head?_eq_some_iff.mp himaginary.2
      rw [List.drop_take, hrest, Nat.add_sub_cancel_left, List.take_succ_cons, List.take_zero]
    -- a floating-point literal stops before the letter
    have hfloat : floatLength (v.take (longest + 1)) ≤ longest := by
      rw [← Nat.not_lt]
      intro hlt
      have hall := @mem_take_float (v.take (longest + 1))
      rw [List.take_of_length_le (by omega), ← List.take_append_drop longest (v.take (longest + 1)), hlast] at hall
      exact hall 'i' (List.mem_append_right _ List.mem_cons_self) rfl
    have hsame : max (max (integerLength (v.take (longest + 1))) (floatLength (v.take (longest + 1))))
        (digitRun Char.isDigit (v.take (longest + 1))) = longest := by
      rw [hint, hrun]
      by_cases hpos : 0 < floatLength v
      · rw [floatLength_take hpos (by omega), hlongest]
      · omega
    rw [hsame, if_pos ⟨himaginary.1, by rw [hlast]; rfl⟩]
  split at h
  · rename_i hfloat
    cases h
    have hsame : floatLength (v.take (floatLength v)) = floatLength v := floatLength_take (by omega) (Nat.le_refl _)
    rw [if_neg (fun himaginary => hend (by omega) himaginary.2), hsame,
      if_pos (by rw [integerLength_take (by omega)]; exact hfloat)]
  split at h
  · rename_i hint
    cases h
    have hsame : integerLength (v.take (integerLength v)) = integerLength v := integerLength_take (Nat.le_refl _)
    rw [if_neg (fun himaginary => hend (by omega) himaginary.2), hsame, if_neg (by omega), if_pos hint]
  · cases h

/-! ## Tokens -/

theorem takeWhile_take (p : Char → Bool) (v : List Char) :
    (v.take (v.takeWhile p).length).takeWhile p = v.takeWhile p := by
  rw [← List.prefix_iff_eq_take.mp (List.takeWhile_prefix p)]
  exact List.takeWhile_eq_self_iff.mpr fun c hc => List.mem_takeWhile_imp hc

theorem take_of_symbolLength {v : List Char} {n : Nat} (h : symbolLength v = some n) :
    ∃ t ∈ symbols, v.take n = t.toList ∧ t.length = n := by
  obtain ⟨t, ht, rfl⟩ := Option.map_eq_some_iff.mp h
  refine ⟨t, List.mem_of_find?_eq_some ht, ?_, rfl⟩
  have hprefix := List.find?_some ht
  rw [← String.length_toList]
  exact (List.prefix_iff_eq_take.mp (List.isPrefixOf_iff_prefix.mp hprefix)).symm

theorem lexeme_of_symbol : ∀ t ∈ symbols, lexeme? t.toList = some (.symbol, t.length) := by
  decide +kernel

theorem lexeme_take_of_not_quote {c : Char} (hc : isQuote c = false) {v : List Char} {kind : TokenKind} {n : Nat}
    (h : lexeme? (c :: v) = some (kind, n)) : lexeme? ((c :: v).take n) = some (kind, n) := by
  simp only [isQuote, Bool.or_eq_false_iff, decide_eq_false_iff_not] at hc
  have h' := h
  simp only [lexeme?, hc, if_false] at h
  split at h
  · rename_i hstart
    cases h
    rw [List.length_cons, List.take_succ_cons, lexeme?, if_pos hstart, takeWhile_take]
    rfl
  rename_i hstart
  split at h
  · rename_i hnul
    cases h
    rw [List.take_succ_cons, List.take_zero, hnul]
    rfl
  rename_i hnul
  split at h
  · rename_i number m hnumber
    cases h
    have htake := numberLength_take hnumber
    obtain ⟨k, rfl⟩ : ∃ k, n = k + 1 := ⟨n - 1, by have := lexeme_pos h'; omega⟩
    rw [List.take_succ_cons] at htake ⊢
    simp [lexeme?, hstart, hc, hnul, htake]
  · obtain ⟨m, hm, heq⟩ := Option.map_eq_some_iff.mp h
    cases heq
    obtain ⟨t, ht, htake, rfl⟩ := take_of_symbolLength hm
    rw [htake]
    exact lexeme_of_symbol t ht

/-- What stands behind a token does not make it a token: a break may stand there as well. -/
theorem lexeme_take {cs : List Char} {kind : TokenKind} {n : Nat} (h : lexeme? cs = some (kind, n)) {s : List Char}
    (hs : Breaks s) : lexeme? (cs.take n ++ s) = some (kind, n) := by
  obtain ⟨k, rfl⟩ : ∃ k, n = k + 1 := ⟨n - 1, by have := lexeme_pos h; omega⟩
  cases cs with
  | nil => cases h
  | cons c v =>
    cases hc : isQuote c with
    | false =>
      have htake := lexeme_take_of_not_quote hc h
      rw [List.take_succ_cons] at htake ⊢
      rw [lexeme_append hs hc, htake]
    | true =>
      simp only [isQuote, Bool.or_eq_true, decide_eq_true_eq] at hc
      rcases hc with (rfl | rfl) | rfl
      · obtain ⟨m, hm, heq⟩ := Option.map_eq_some_iff.mp (h : (stringLength ('"' :: v)).map _ = _)
        cases heq
        have htake := stringLength_append hm s
        change (stringLength (('"' :: v).take (k + 1) ++ s)).map _ = _
        rw [htake]
        rfl
      · obtain ⟨m, hm, heq⟩ := Option.map_eq_some_iff.mp (h : (rawStringLength ('\x60' :: v)).map _ = _)
        cases heq
        have htake := rawStringLength_append hm s
        change (rawStringLength (('\x60' :: v).take (k + 1) ++ s)).map _ = _
        rw [htake]
        rfl
      · obtain ⟨m, hm, heq⟩ := Option.map_eq_some_iff.mp (h : (runeLength ('\'' :: v)).map _ = _)
        cases heq
        have htake := runeLength_append hm s
        change (runeLength (('\'' :: v).take (k + 1) ++ s)).map _ = _
        rw [htake]
        rfl

end GoRebuild.Lexical
