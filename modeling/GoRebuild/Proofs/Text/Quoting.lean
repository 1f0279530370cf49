import GoRebuild.Proofs.Lexical.Written
import GoRebuild.Synth.Rules
import GoRebuild.Tree.Build

/-!
# Texts between quotes

A text stands between double quotes in two ways: as the literal that denotes it (`Quoted.encode`), and as messages show
it (`Escaped.display`). A literal built by hand has the second text.

* `Escaped.isWritten c` : a character is shown as it is written in a literal;
* `display_eq_encode_iff`, `stringValue_display_iff` : a text that is shown is the literal that denotes it exactly if all
  its characters are of that kind, and no literal that denotes it otherwise;
* `quoted_reads_back` : the literal of a text is read back, from any text that begins with it;
* `ofString_denotes_iff` : what a string built by hand denotes.
-/

namespace GoRebuild.Text
open Lexical

/-! ## The literal of a text -/

theorem not_control_hexDigit : ∀ n < 16, 0x20 ≤ (hexDigit n).toNat ∧ (hexDigit n).toNat ≠ 0x7F := by
  decide

/-- No control character stands in what is written for a character. -/
theorem not_control_of_mem_escape {c d : Char} (h : d ∈ Quoted.escape c) : 0x20 ≤ d.toNat ∧ d.toNat ≠ 0x7F := by
  have hletter {e : Char} (he : 0x20 ≤ e.toNat ∧ e.toNat ≠ 0x7F) (hd : d ∈ ['\\', e]) :
      0x20 ≤ d.toNat ∧ d.toNat ≠ 0x7F := by
    rcases List.mem_cons.mp hd with rfl | hd
    · decide
    · exact List.mem_singleton.mp hd ▸ he
  unfold Quoted.escape at h
  split at h
  · exact hletter (by decide) h
  split at h
  · exact hletter (by decide) h
  split at h
  · exact hletter (by decide) h
  split at h
  · exact hletter (by decide) h
  split at h
  · exact hletter (by decide) h
  split at h
  · rename_i hcontrol
    have hhigh : c.toNat / 16 < 16 := by omega
    have hlow : c.toNat % 16 < 16 := Nat.mod_lt _ (by decide)
    simp only [List.mem_cons, List.not_mem_nil, or_false] at h
    rcases h with rfl | rfl | rfl | rfl
    · decide
    · decide
    · exact not_control_hexDigit _ hhigh
    · exact not_control_hexDigit _ hlow
  · rename_i hplain
    obtain rfl := List.mem_singleton.mp h
    omega

theorem not_control_of_mem_encode {s : String} {d : Char} (h : d ∈ (Quoted.encode s).toList) :
    0x20 ≤ d.toNat ∧ d.toNat ≠ 0x7F := by
  rw [Quoted.encode, String.toList_ofList, Quoted.encodeChars, List.mem_cons, List.mem_append,
    List.mem_singleton] at h
  rcases h with rfl | h | rfl
  · decide
  · obtain ⟨c, -, hd⟩ := List.mem_flatMap.mp h
    exact not_control_of_mem_escape hd
  · decide

/-- The literal of a text is the next token of any text that begins with it. -/
theorem lexeme_encode (s : String) (rest : List Char) :
    lexeme? ((Quoted.encode s).toList ++ rest) = some (.literal .string, (Quoted.encode s).length) := by
  have hlength := stringLength_encode s rest
  have hquote : (Quoted.encode s).toList ++ rest = '"' :: (s.toList.flatMap Quoted.escape ++ ['"'] ++ rest) := by
    rw [Quoted.encode, String.toList_ofList]
    rfl
  rw [hquote] at hlength ⊢
  rw [lexeme?, if_neg (by decide), if_pos rfl, hlength, Option.map_some]

/-- **The literal of a text is read back.** It is in quotes and has no control character, it denotes the text, and it is the
first token of every text that begins with it; so the text and where its literal ends are told by what is written. -/
theorem quoted_reads_back (s : String) :
    (∃ inner, (Quoted.encode s).toList = '"' :: (inner ++ ['"'])) ∧
    (∀ c ∈ (Quoted.encode s).toList, 0x20 ≤ c.toNat ∧ c.toNat ≠ 0x7F) ∧
    stringValue? (Quoted.encode s) = some s.toUTF8 ∧
    (∀ rest, lexeme? ((Quoted.encode s).toList ++ rest) = some (.literal .string, (Quoted.encode s).length)) ∧
    ∀ t, (Quoted.encode s = Quoted.encode t ↔ s = t) ∧
      ((Quoted.encode s).toList <+: (Quoted.encode t).toList ↔ s = t) := by
  have hends : (Quoted.encode s).toList = '"' :: (s.toList.flatMap Quoted.escape ++ ['"']) := by
    rw [Quoted.encode, String.toList_ofList]
    rfl
  have hbegins (t : String) (h : (Quoted.encode s).toList <+: (Quoted.encode t).toList) : s = t := by
    obtain ⟨rest, hrest⟩ := h
    exact (encode_append_inj (hrest.trans (List.append_nil _).symm)).1
  refine ⟨⟨_, hends⟩, fun _ => not_control_of_mem_encode, stringValue_encode s, lexeme_encode s, fun t => ⟨?_, ?_⟩⟩
  · exact ⟨fun h => hbegins t (h ▸ List.prefix_rfl), congrArg _⟩
  · exact ⟨hbegins t, fun h => h ▸ List.prefix_rfl⟩

/-- A text that ends in a backslash and a text that is a literal itself. -/
theorem quoted_reads_back_slash :
    Quoted.encode "a\\" = "\x22a\\\\\x22" ∧ '\\' ∈ (Quoted.encode "a\\").toList ∧ 0x20 ≤ '\\'.toNat ∧
      lexeme? ((Quoted.encode "a\\").toList ++ (Quoted.encode "\x22").toList) = some (.literal .string, 5) := by
  have hslash : '\\' ∈ (Quoted.encode "a\\").toList := by decide
  obtain ⟨-, hcontrol, -, hread, -⟩ := quoted_reads_back "a\\"
  exact ⟨by decide, hslash, (hcontrol _ hslash).1, hread _⟩

/-! ## The literal of a text as shown -/

/-- Whether a character is shown as it is written in a literal: it prints, or it is a tab or ends a line. -/
def Escaped.isWritten (c : Char) : Bool :=
  c = '\t' || c = '\n' || c = '\r' || !(isExtending c || isUnprintable c)

theorem escape_of_isWritten {c : Char} (h : Escaped.isWritten c) : Escaped.escape c = Quoted.escape c := by
  unfold Escaped.escape Quoted.escape
  by_cases htab : c = '\t'
  · subst htab; decide
  by_cases hnewline : c = '\n'
  · subst hnewline; decide
  by_cases hreturn : c = '\r'
  · subst hreturn; decide
  have hprints : isExtending c = false ∧ isUnprintable c = false := by
    simpa [Escaped.isWritten, htab, hnewline, hreturn] using h
  have hcontrol : ¬(c.toNat < 0x20 ∨ c.toNat = 0x7F) := by
    have hnot := hprints.2
    simp only [isUnprintable, Bool.or_eq_false_iff, decide_eq_false_iff_not] at hnot
    omega
  have hnull : c ≠ '\x00' := by
    rintro rfl
    exact hcontrol (by decide)
  by_cases hslash : c = '\\'
  · subst hslash; decide
  by_cases hquote : c = '"'
  · subst hquote; decide
  simp [hnull, htab, hnewline, hreturn, hslash, hquote, hprints, hcontrol]

theorem escape_of_not_isWritten {c : Char} (h : Escaped.isWritten c = false) :
    c = '\x00' ∨ Escaped.escape c = Escaped.codePoint c := by
  by_cases hnull : c = '\x00'
  · exact .inl hnull
  right
  simp only [Escaped.isWritten, Bool.or_eq_false_iff, decide_eq_false_iff_not, Bool.not_eq_false'] at h
  obtain ⟨⟨⟨htab, hnewline⟩, hreturn⟩, hshown⟩ := h
  have hslash : c ≠ '\\' := by
    rintro rfl
    revert hshown
    decide
  have hquote : c ≠ '"' := by
    rintro rfl
    revert hshown
    decide
  simp only [Escaped.escape, hnull, htab, hreturn, hnewline, hslash, hquote, hshown, if_false, if_true]

/-- A code point in braces is no escape of a literal. -/
theorem interpretedValue_codePoint (c : Char) (cs : List Char) :
    interpretedValue? (Escaped.codePoint c ++ cs) = none := by
  have hescape : escapeValue? ('u' :: '\x7b' :: (hex c.toNat ++ ['\x7d'] ++ cs)) = none := rfl
  have hshown : Escaped.codePoint c ++ cs = '\\' :: 'u' :: '\x7b' :: (hex c.toNat ++ ['\x7d'] ++ cs) := rfl
  rw [hshown, interpretedValue?, if_pos rfl, hescape]
  rfl

/-- A character is shown as itself or behind a backslash. -/
theorem escape_eq_self_or_slash (c : Char) : Escaped.escape c = [c] ∨ ∃ e, Escaped.escape c = '\\' :: e := by
  unfold Escaped.escape
  iterate 7
    split
    · exact .inr ⟨_, rfl⟩
  exact .inl rfl

/-- An octal digit in what is shown of a text stands for itself. -/
theorem exists_of_octal_shown {cs shown : List Char} {d : Char} (h : cs.flatMap Escaped.escape = d :: shown)
    (hd : isOctalDigit d) : ∃ ds, cs = d :: ds ∧ shown = ds.flatMap Escaped.escape := by
  cases cs with
  | nil => cases h
  | cons c cs =>
    rw [List.flatMap_cons] at h
    rcases escape_eq_self_or_slash c with hself | ⟨e, he⟩
    · rw [hself] at h
      obtain ⟨rfl, rfl⟩ := List.cons.inj h
      exact ⟨cs, rfl, rfl⟩
    · rw [he] at h
      obtain rfl := (List.cons.inj h).1
      cases hd

/-- NUL is shown as a backslash and a zero: a literal reads two more octal digits there. -/
theorem exists_of_null_shown {cs : List Char} {bytes : List UInt8}
    (h : interpretedValue? ('\\' :: '0' :: cs.flatMap Escaped.escape) = some bytes) :
    ∃ d e ds b rest, cs = d :: e :: ds ∧ interpretedValue? (ds.flatMap Escaped.escape) = some rest ∧ bytes = b :: rest := by
  rw [interpretedValue?, if_pos rfl] at h
  obtain ⟨⟨b, n⟩, hescape, h⟩ := Option.bind_eq_some_iff.mp h
  obtain ⟨rest, hrest, hbytes⟩ := Option.bind_eq_some_iff.mp h
  have hlookup : escapeBytes.lookup '0' = none := by decide
  rw [escapeValue?, if_neg (by decide), if_neg (by decide), if_neg (by decide), hlookup] at hescape
  dsimp only at hescape
  split at hescape
  · rename_i hoctal
    cases hescape
    rw [Bool.and_eq_true] at hoctal
    obtain ⟨d, e, shown, hshown, hd, he⟩ := octal_digits hoctal.1
    rw [hshown] at hrest
    obtain ⟨ds, rfl, hds⟩ := exists_of_octal_shown hshown hd
    obtain ⟨es, rfl, rfl⟩ := exists_of_octal_shown hds.symm he
    exact ⟨d, e, es, _, rest, rfl, hrest, (Option.some.inj hbytes).symm⟩
  · cases hescape

/-- A literal that is shown denotes no more bytes than the text has, and fewer if a character is not shown as it is written. -/
theorem value_of_shown : ∀ (cs : List Char) (bytes : List UInt8), interpretedValue? (cs.flatMap Escaped.escape) = some bytes →
    bytes.length ≤ (cs.flatMap String.utf8EncodeChar).length ∧
      (bytes.length = (cs.flatMap String.utf8EncodeChar).length → cs.all Escaped.isWritten)
  | [], bytes, h => by
    rw [List.flatMap_nil, interpretedValue?] at h
    cases h
    exact ⟨Nat.le_refl _, fun _ => rfl⟩
  | c :: cs, bytes, h => by
    rw [List.flatMap_cons] at h
    by_cases hwritten : Escaped.isWritten c
    · rw [escape_of_isWritten hwritten, interpretedValue_escape] at h
      obtain ⟨rest, hrest, rfl⟩ := Option.map_eq_some_iff.mp h
      obtain ⟨hle, heq⟩ := value_of_shown cs rest hrest
      rw [List.flatMap_cons, List.length_append, List.length_append, List.all_cons, hwritten, Bool.true_and]
      exact ⟨Nat.add_le_add_left hle _, fun hlength => heq (Nat.add_left_cancel hlength)⟩
    · rcases escape_of_not_isWritten (eq_false_of_ne_true hwritten) with rfl | hpoint
      · obtain ⟨d, e, ds, b, rest, rfl, hrest, rfl⟩ := exists_of_null_shown h
        obtain ⟨hle, -⟩ := value_of_shown ds rest hrest
        have hd := d.utf8Size_pos
        have he := e.utf8Size_pos
        simp only [List.flatMap_cons, List.length_append, List.length_cons, String.length_utf8EncodeChar]
        omega
      · rw [hpoint, interpretedValue_codePoint] at h
        cases h
termination_by cs => cs.length

theorem display_eq_encode_of_isWritten {s : String} (h : s.toList.all Escaped.isWritten) :
    Escaped.display s = Quoted.encode s := by
  have hshown : s.toList.flatMap Escaped.escape = s.toList.flatMap Quoted.escape := by
    rw [List.flatMap_def, List.flatMap_def]
    exact congrArg List.flatten (List.map_congr_left fun c hc => escape_of_isWritten (List.all_eq_true.mp h c hc))
  rw [Escaped.display, hshown]
  rfl

/-- A text that is shown is a literal that denotes it exactly if each character is shown as it is written. -/
theorem stringValue_display_iff (s : String) :
    stringValue? (Escaped.display s) = some s.toUTF8 ↔ s.toList.all Escaped.isWritten := by
  constructor
  · intro h
    have hlast : (s.toList.flatMap Escaped.escape ++ ['"']).getLast? = some '"' := by simp
    rw [Escaped.display, stringValue?, String.toList_ofList] at h
    simp only [hlast, if_true, List.dropLast_concat] at h
    obtain ⟨bytes, hbytes, hvalue⟩ := Option.map_eq_some_iff.mp h
    refine (value_of_shown _ _ hbytes).2 ?_
    have hsize := congrArg ByteArray.size hvalue
    rwa [String.toUTF8_eq_toByteArray, ← String.utf8Encode_toList, List.utf8Encode, List.size_toByteArray,
      List.size_toByteArray] at hsize
  · intro h
    rw [display_eq_encode_of_isWritten h, stringValue_encode]

theorem display_eq_encode_iff (s : String) : Escaped.display s = Quoted.encode s ↔ s.toList.all Escaped.isWritten :=
  ⟨fun h => (stringValue_display_iff s).mp (h ▸ stringValue_encode s), display_eq_encode_of_isWritten⟩

/-- A zero behind a backslash takes two more octal digits. -/
example : stringValue? (Escaped.display "\x0012") = some "\n".toUTF8 := by decide +kernel

end GoRebuild.Text

namespace GoRebuild
open Text

/-- **What a string built by hand denotes.** Its literal is the text as shown. It denotes the text, and it is the literal
that is written for the text, exactly if each character is shown as it is written; synthesis names the literal as it
stands. -/
theorem ofString_denotes_iff (v : String) :
    ∃ text, Expr.ofString v = Expr.literal .string text ∧
      (stringValue? text = some v.toUTF8 ↔ v.toList.all Escaped.isWritten) ∧
      (text = Quoted.encode v ↔ v.toList.all Escaped.isWritten) ∧
      ∀ table limit, ((Expr.ofString v).synth ⟨table, limit + 1⟩).answer = .ok (Chain.name text) := by
  refine ⟨Escaped.display v, rfl, stringValue_display_iff v, display_eq_encode_iff v, fun table limit => ?_⟩
  have hlimit : ¬limit + 1 ≤ 0 := Nat.not_succ_le_zero limit
  change (Synth.nested ⟨table, limit + 1⟩ .none (pure (Chain.name (Escaped.display v))) 0).1 = _
  rw [Synth.nested, if_neg hlimit]
  rfl

end GoRebuild
