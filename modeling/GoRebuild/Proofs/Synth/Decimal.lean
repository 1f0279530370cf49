import GoRebuild.Chain.Printer
import GoRebuild.Proofs.Chain.Tokens
import GoRebuild.Proofs.Synth.Results
import GoRebuild.Proofs.Text.Digits
import Mathlib.Algebra.Group.Int.Defs
import Mathlib.Algebra.Group.Nat.Defs

/-!
# Integers by value

An integer literal is written as a number only where that number in decimal is the literal.

* `IsDecimal` : the literals that are written as a number, and which (`decimal?_eq_some_iff`, `decimal?_eq_none_iff`);
* `isDecimal_iff` : they are what numbers below `2 ^ 63` are in decimal;
* `integers_keep_spelling` : the chain of an integer literal, and when it is a number.
-/

namespace GoRebuild
open Text

variable {text : String} {n : Nat} {i : Int}

/-- The spelling of a number that is written by its value: `0`, or digits that begin with another one, below `2 ^ 63`. -/
structure IsDecimal (text : String) (n : Nat) : Prop where
  numeral : IsNumeral text.toList
  value : Nat.ofDigitChars 10 text.toList 0 = n
  lt : n < 2 ^ 63

/-- The literals that are written as a number. -/
theorem decimal?_eq_some_iff : decimal? text = some i ↔ ∃ n : Nat, i = n ∧ IsDecimal text n := by
  have hlead : (text.toList != ['0'] && text.toList.head? == some '0') = true ↔
      ¬(text.toList.head? = some '0' → text.toList = ['0']) := by
    rw [Bool.and_eq_true, bne_iff_ne, beq_iff_eq, Classical.not_imp, and_comm]
  have hdigits : (text.toList.isEmpty || !text.toList.all Char.isDigit) = true ↔
      ¬(text.toList ≠ [] ∧ text.toList.all Char.isDigit) := by
    simp [Classical.or_iff_not_imp_left]
  unfold decimal?
  simp only [hlead, hdigits, foldl_eq_ofDigitChars, Nat.pow_eq]
  constructor
  · intro h
    split at h
    · cases h
    · rename_i hl
      split at h
      · cases h
      · rename_i hd
        split at h
        · rename_i hlt
          have hrow := Classical.not_not.mp hd
          exact ⟨_, (Option.some.inj h).symm, ⟨hrow.1, hrow.2, Classical.not_not.mp hl⟩, rfl, hlt⟩
        · cases h
  · rintro ⟨n, rfl, ⟨hne, hall, hl⟩, rfl, hlt⟩
    rw [if_neg (not_not_intro hl), if_neg (not_not_intro ⟨hne, hall⟩), if_pos hlt]

/-- They are what numbers below `2 ^ 63` are in decimal. -/
theorem isDecimal_iff : IsDecimal text n ↔ n < 2 ^ 63 ∧ toString n = text := by
  constructor
  · rintro ⟨hnumeral, rfl, hlt⟩
    refine ⟨hlt, ?_⟩
    rw [Nat.toString_eq_ofList_toDigits, hnumeral.toDigits_eq, String.ofList_toList]
  · rintro ⟨hlt, rfl⟩
    have hchars : (toString n).toList = Nat.toDigits 10 n := by
      rw [Nat.toString_eq_ofList_toDigits, String.toList_ofList]
    exact ⟨hchars ▸ isNumeral_toDigits n, hchars ▸ Nat.ofDigitChars_ten_toDigits, hlt⟩

/-- The value of a literal that is written as a number: not negative, and in decimal the literal. -/
theorem decimal?_eq_some (h : decimal? text = some i) : ∃ n : Nat, i = n ∧ toString n = text := by
  obtain ⟨n, hi, hn⟩ := decimal?_eq_some_iff.mp h
  exact ⟨n, hi, (isDecimal_iff.mp hn).2⟩

/-- The literals that are not: without digits, with something else, with a zero before others, or of a larger number. -/
theorem decimal?_eq_none_iff : decimal? text = none ↔
    text = "" ∨ (∃ c ∈ text.toList, ¬c.isDigit) ∨ (∃ c cs, text.toList = '0' :: c :: cs) ∨
      2 ^ 63 ≤ Nat.ofDigitChars 10 text.toList 0 := by
  have hnone : decimal? text = none ↔ ¬∃ n, IsDecimal text n := by
    constructor
    · rintro h ⟨n, hn⟩
      rw [decimal?_eq_some_iff.mpr ⟨n, rfl, hn⟩] at h
      cases h
    · intro h
      refine Option.eq_none_iff_forall_ne_some.mpr fun i hi => h ?_
      obtain ⟨n, -, hn⟩ := decimal?_eq_some_iff.mp hi
      exact ⟨n, hn⟩
  rw [hnone]
  constructor
  · intro h
    by_contra hall
    simp only [not_or, not_exists, not_and, Classical.not_not, Nat.not_le] at hall
    obtain ⟨hne, hdigits, hlead, hlt⟩ := hall
    refine h ⟨_, ⟨?_, List.all_eq_true.mpr hdigits, fun hhead => ?_⟩, rfl, hlt⟩
    · exact fun hnil => hne (String.toList_eq_nil_iff.mp hnil)
    · obtain ⟨cs, hcs⟩ := List.head?_eq_some_iff.mp hhead
      cases cs with
      | nil => exact hcs
      | cons c cs => exact absurd hcs (hlead c cs)
  · rintro h ⟨n, ⟨hne, hdigits, hlead⟩, rfl, hlt⟩
    rcases h with rfl | ⟨c, hc, hdigit⟩ | ⟨c, cs, hcs⟩ | hlarge
    · exact hne rfl
    · exact hdigit (List.all_eq_true.mp hdigits c hc)
    · rw [hcs] at hlead
      cases hlead rfl
    · exact absurd hlt (Nat.not_lt.mpr hlarge)

/-- The number that is written is the one that has the literal as its text. -/
theorem decimal?_eq_some_iff_text : decimal? text = some i ↔ 0 ≤ i ∧ i < 2 ^ 63 ∧ (Arg.int i).text = text := by
  rw [decimal?_eq_some_iff]
  constructor
  · rintro ⟨n, rfl, hn⟩
    obtain ⟨hlt, htext⟩ := isDecimal_iff.mp hn
    exact ⟨Int.natCast_nonneg n, by omega, htext⟩
  · rintro ⟨hnonneg, hlt, htext⟩
    obtain ⟨n, rfl⟩ := Int.eq_ofNat_of_zero_le hnonneg
    exact ⟨n, rfl, isDecimal_iff.mpr ⟨by omega, htext⟩⟩

/-! ## The chain of an integer -/

section
variable (text : String) (pos : Pos)

theorem BasicLit.synth_int : BasicLit.synth ⟨.int, text⟩ pos = pure (match decimal? text with
    | some n => Chain.call "Lit" [.int n]
    | none => Chain.name text) := by
  rw [BasicLit.synth]
  cases decimal? text <;> rfl

theorem BasicLit.synth_eq_lit_iff : BasicLit.synth ⟨.int, text⟩ pos = pure (Chain.call "Lit" [.int i]) ↔
    decimal? text = some i := by
  rw [BasicLit.synth_int, Synth.pure_inj]
  cases decimal? text <;> simp [Chain.call, Chain.name]

theorem BasicLit.synth_eq_name_iff : BasicLit.synth ⟨.int, text⟩ pos = pure (Chain.name text) ↔ decimal? text = none := by
  rw [BasicLit.synth_int, Synth.pure_inj]
  cases decimal? text <;> simp [Chain.call, Chain.name]

end

/-- **Integers keep their spelling and their value.** The chain of an integer literal prints the literal and nothing else. It
is a number exactly for `0` and digits that begin with another one, below `2 ^ 63`: where a number below `2 ^ 63` is the
literal in decimal. Any other literal stands as it is: one without digits, with something else, with a zero before others,
or of a larger number. -/
theorem integers_keep_spelling (text : String) (pos : Pos) :
    (∃ c, BasicLit.synth ⟨.int, text⟩ pos = pure c ∧ (∀ pkg, c.tokens pkg = [text]) ∧
      (c = Chain.name text ∨ ∃ i, c = Chain.call "Lit" [.int i] ∧ (Arg.int i).text = text)) ∧
    (∀ i, (BasicLit.synth ⟨.int, text⟩ pos = pure (Chain.call "Lit" [.int i]) ↔ ∃ n : Nat, i = n ∧ IsDecimal text n) ∧
      (BasicLit.synth ⟨.int, text⟩ pos = pure (Chain.call "Lit" [.int i]) ↔
        0 ≤ i ∧ i < 2 ^ 63 ∧ (Arg.int i).text = text)) ∧
    (BasicLit.synth ⟨.int, text⟩ pos = pure (Chain.name text) ↔
      text = "" ∨ (∃ c ∈ text.toList, ¬c.isDigit) ∨ (∃ c cs, text.toList = '0' :: c :: cs) ∨
        2 ^ 63 ≤ Nat.ofDigitChars 10 text.toList 0) := by
  refine ⟨?_, fun i => ⟨?_, ?_⟩, ?_⟩
  · cases hn : decimal? text with
    | none => exact ⟨_, (BasicLit.synth_eq_name_iff text pos).mpr hn, fun _ => (Chain.shows_name text).tokens_eq, .inl rfl⟩
    | some i =>
      obtain ⟨-, -, htext⟩ := decimal?_eq_some_iff_text.mp hn
      refine ⟨_, (BasicLit.synth_eq_lit_iff text pos).mpr hn, fun pkg => ?_, .inr ⟨i, rfl, htext⟩⟩
      exact (Chain.shows_call "Lit" (by decide) [.int i]).tokens_eq.trans (congrArg (fun t => [t]) htext)
  · exact (BasicLit.synth_eq_lit_iff text pos).trans decimal?_eq_some_iff
  · exact (BasicLit.synth_eq_lit_iff text pos).trans decimal?_eq_some_iff_text
  · exact (BasicLit.synth_eq_name_iff text pos).trans decimal?_eq_none_iff

/-- The largest number of 63 bits is written as a number, and the one behind it is not. -/
example : decimal? "9223372036854775807" = some 9223372036854775807 ∧ decimal? "9223372036854775808" = none := by
  decide +kernel

end GoRebuild
