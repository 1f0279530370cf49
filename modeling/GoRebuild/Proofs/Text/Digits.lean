/-!
# Numbers in decimal

* `foldl_eq_ofDigitChars` : the value of a row of digits, digit by digit;
* `IsNumeral` : the rows of digits that numbers are written with;
* `IsNumeral.toDigits_eq`, `isNumeral_toDigits` : such a row is the digits of its value, and the digits of a number are one.
-/

namespace GoRebuild.Text

/-- At least one digit, and no zero before others. -/
structure IsNumeral (ds : List Char) : Prop where
  ne_nil : ds ≠ []
  digits : ds.all Char.isDigit
  lead : ds.head? = some '0' → ds = ['0']

/-! ## The value of digits -/

theorem foldl_eq_ofDigitChars (ds : List Char) (v : Nat) :
    ds.foldl (fun n d => n * 10 + (d.toNat - 48)) v = Nat.ofDigitChars 10 ds v := by
  simp [Nat.ofDigitChars, Nat.mul_comm]

theorem digitChar_of_isDigit {d : Char} (hd : d.isDigit) : d.toNat - 48 < 10 ∧ (d.toNat - 48).digitChar = d := by
  have hrange : 48 ≤ d.toNat ∧ d.toNat ≤ 57 := Char.isDigit_iff_toNat.mp hd
  have hlt : d.toNat - 48 < 10 := by omega
  refine ⟨hlt, Char.toNat_inj.mp ?_⟩
  rw [Nat.toNat_digitChar_of_lt_ten hlt]
  omega

/-- Digits behind a positive number: the digits of the whole are those of the number and these. -/
theorem toDigits_ofDigitChars {ds : List Char} (hds : ds.all Char.isDigit) {v : Nat} (hv : 0 < v) :
    Nat.toDigits 10 (Nat.ofDigitChars 10 ds v) = Nat.toDigits 10 v ++ ds := by
  induction ds generalizing v with
  | nil => rw [Nat.ofDigitChars_nil, List.append_nil]
  | cons d ds ih =>
    rw [List.all_cons, Bool.and_eq_true] at hds
    obtain ⟨hlt, hchar⟩ := digitChar_of_isDigit hds.1
    have hpos : 0 < 10 * v + (d.toNat - 48) := by omega
    calc Nat.toDigits 10 (Nat.ofDigitChars 10 (d :: ds) v)
      _ = Nat.toDigits 10 (Nat.ofDigitChars 10 ds (10 * v + (d.toNat - 48))) := by rw [Nat.ofDigitChars_cons]; rfl
      _ = Nat.toDigits 10 (10 * v + (d.toNat - 48)) ++ ds := ih hds.2 hpos
      _ = Nat.toDigits 10 v ++ [d] ++ ds := by
        rw [← Nat.toDigits_append_toDigits (by decide) hv hlt, Nat.toDigits_of_lt_base hlt, hchar]
      _ = Nat.toDigits 10 v ++ d :: ds := by rw [List.append_assoc, List.singleton_append]

/-! ## The digits of a value -/

theorem IsNumeral.toDigits_eq {ds : List Char} (h : IsNumeral ds) :
    Nat.toDigits 10 (Nat.ofDigitChars 10 ds 0) = ds := by
  obtain ⟨hne, hdigits, hlead⟩ := h
  cases ds with
  | nil => exact absurd rfl hne
  | cons d ds =>
    by_cases hzero : d = '0'
    · -- a zero in front is alone
      subst hzero
      rw [hlead rfl]
      decide
    · rw [List.all_cons, Bool.and_eq_true] at hdigits
      obtain ⟨hlt, hchar⟩ := digitChar_of_isDigit hdigits.1
      have hpos : 0 < d.toNat - 48 := by
        refine Nat.pos_of_ne_zero fun h => hzero ?_
        rw [h] at hchar
        exact hchar.symm
      have hcons : Nat.ofDigitChars 10 (d :: ds) 0 = Nat.ofDigitChars 10 ds (d.toNat - 48) := by
        rw [Nat.ofDigitChars_cons, Nat.mul_zero, Nat.zero_add]
        rfl
      rw [hcons, toDigits_ofDigitChars hdigits.2 hpos, Nat.toDigits_of_lt_base hlt, hchar, List.singleton_append]

theorem isDigit_of_mem_toDigits {n : Nat} {c : Char} (hc : c ∈ Nat.toDigits 10 n) : c.isDigit :=
  Nat.isDigit_of_mem_toDigits (by decide) (by decide) hc

theorem head?_toDigits_ne_zero {n : Nat} (hn : 0 < n) : (Nat.toDigits 10 n).head? ≠ some '0' := by
  have hdigit : ∀ d < 10, 0 < d → d.digitChar ≠ '0' := by decide
  induction n using Nat.strongRecOn with
  | ind n ih =>
    rw [Nat.toDigits_eq_if (by decide)]
    split
    · next hlt => simpa using hdigit n hlt hn
    · next hge =>
      have htop := ih (n / 10) (by omega) (by omega)
      obtain ⟨d, ds, hds⟩ := List.exists_cons_of_ne_nil (Nat.toDigits_ne_nil (b := 10) (n := n / 10))
      rw [hds] at htop ⊢
      exact htop

theorem isNumeral_toDigits (n : Nat) : IsNumeral (Nat.toDigits 10 n) := by
  refine ⟨Nat.toDigits_ne_nil, List.all_eq_true.mpr fun _ => isDigit_of_mem_toDigits, fun hhead => ?_⟩
  obtain rfl | hn := Nat.eq_zero_or_pos n
  · rfl
  · exact absurd hhead (head?_toDigits_ne_zero hn)

end GoRebuild.Text
