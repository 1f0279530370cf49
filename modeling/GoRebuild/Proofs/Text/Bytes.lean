import Mathlib.Data.List.Basic

/-!
# Texts in UTF-8

* `utf8` : the bytes of a text;
* `le_of_mem_utf8`, `utf8EncodeChar_of_ascii`, `eq_of_mem_utf8` : a byte below 128 is a character.
-/

namespace GoRebuild.Text

/-- A text in UTF-8. -/
def utf8 (cs : List Char) : List UInt8 :=
  cs.flatMap String.utf8EncodeChar

theorem utf8_append (cs ds : List Char) : utf8 (cs ++ ds) = utf8 cs ++ utf8 ds :=
  List.flatMap_append

theorem length_utf8 (source : String) : (utf8 source.toList).length = source.utf8ByteSize := by
  rw [String.utf8ByteSize, ← String.utf8Encode_toList, List.utf8Encode, List.size_toByteArray, utf8]

theorem utf8_cons (c : Char) (cs : List Char) : utf8 (c :: cs) = String.utf8EncodeChar c ++ utf8 cs := rfl

/-- A text has no more characters than bytes. -/
theorem length_le_utf8 (cs : List Char) : cs.length ≤ (utf8 cs).length := by
  induction cs with
  | nil => exact Nat.le_refl _
  | cons c cs ih =>
    have hc := c.utf8Size_pos
    rw [utf8_cons, List.length_append, String.length_utf8EncodeChar, List.length_cons]
    omega

variable {c d : Char} {b : UInt8}

/-- A character below U+0080 is one byte. -/
theorem utf8EncodeChar_of_lt (h : c.toNat < 128) : String.utf8EncodeChar c = [UInt8.ofNat c.toNat] := by
  have hle : c.val.toNat ≤ 127 := Nat.le_of_lt_succ h
  unfold String.utf8EncodeChar
  simp only [hle, if_true]
  rfl

/-- A character above U+007F has no byte below 128. -/
theorem le_of_mem_utf8 (hc : 128 ≤ c.toNat) (hb : b ∈ String.utf8EncodeChar c) : 128 ≤ b.toNat := by
  have hlarge : ¬c.val.toNat ≤ 127 := Nat.not_le.mpr hc
  unfold String.utf8EncodeChar at hb
  simp only [hlarge, if_false] at hb
  split at hb
  · simp only [List.mem_cons, List.not_mem_nil, or_false] at hb
    rcases hb with rfl | rfl <;> simp <;> omega
  · split at hb
    · simp only [List.mem_cons, List.not_mem_nil, or_false] at hb
      rcases hb with rfl | rfl | rfl <;> simp <;> omega
    · simp only [List.mem_cons, List.not_mem_nil, or_false] at hb
      rcases hb with rfl | rfl | rfl | rfl <;> simp <;> omega

theorem utf8EncodeChar_of_ascii (hd : d.toNat < 128) : String.utf8EncodeChar d = [d.toUInt8] := by
  rw [utf8EncodeChar_of_lt hd]
  rfl

theorem toNat_toUInt8 (hd : d.toNat < 128) : d.toUInt8.toNat = d.toNat := by
  have hmod : d.toUInt8.toNat = d.toNat % 256 := rfl
  omega

theorem ne_toUInt8_of_le (hd : d.toNat < 128) (hb : 128 ≤ b.toNat) : b ≠ d.toUInt8 := by
  rintro rfl
  rw [toNat_toUInt8 hd] at hb
  omega

/-- A byte below 128 is a character. -/
theorem eq_of_mem_utf8 (hd : d.toNat < 128) (hb : d.toUInt8 ∈ String.utf8EncodeChar c) : c = d := by
  by_cases hc : c.toNat < 128
  · rw [utf8EncodeChar_of_ascii hc, List.mem_singleton] at hb
    have hvalue := congrArg UInt8.toNat hb
    rw [toNat_toUInt8 hd, toNat_toUInt8 hc] at hvalue
    exact (Char.toNat_inj.mp hvalue).symm
  · exact absurd rfl (ne_toUInt8_of_le hd (le_of_mem_utf8 (Nat.not_lt.mp hc) hb))

theorem ne_of_mem_utf8 (hd : d.toNat < 128) (hne : c ≠ d) (hb : b ∈ String.utf8EncodeChar c) : b ≠ d.toUInt8 := by
  rintro rfl
  exact hne (eq_of_mem_utf8 hd hb)

/-- No byte but the first of a character is below 128. -/
theorem exists_utf8EncodeChar (c : Char) : ∃ b bs, String.utf8EncodeChar c = b :: bs ∧ ∀ b ∈ bs, 128 ≤ b.toNat := by
  by_cases hc : c.toNat < 128
  · exact ⟨_, [], utf8EncodeChar_of_ascii hc, nofun⟩
  · cases hbytes : String.utf8EncodeChar c with
    | nil => exact absurd hbytes String.utf8EncodeChar_ne_nil
    | cons b bs =>
      refine ⟨b, bs, rfl, fun b' hb' => le_of_mem_utf8 (Nat.not_lt.mp hc) ?_⟩
      rw [hbytes]
      exact List.mem_cons_of_mem _ hb'

end GoRebuild.Text
