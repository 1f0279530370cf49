import GoRebuild.Proofs.Text.StringValue
import GoRebuild.Proofs.Verify.Literals
import GoRebuild.Reader.Source
import Mathlib.Data.List.DropRight

/-!
# Literals without their quotes

The path of an import is its literal without any quotes at either end; escapes are kept as they are written.

* `trimmed`, `unquoted_eq` : what is left of a literal;
* `isPlain` : whether a literal denotes what stands between its quotes, with no quote at either end of that;
* `Interprets` : what the text between double quotes denotes; a quote at either end of it is at that end of what it
  denotes, which has no more bytes and fewer behind an escape (`Interprets.head`, `Interprets.last`, `Interprets.length`);
* `IsLiteral` : a string literal as written (`isLiteral_of_lexeme`);
* `stringValue_unquoted_iff` : a literal denotes its path exactly if it is plain.
-/

namespace GoRebuild.Text
open Lexical

/-- A quote of string literals. -/
def isDelimiter (c : Char) : Bool :=
  c = '"' || c = '\x60'

/-- A text without the quotes at either end. -/
def trimmed (cs : List Char) : List Char :=
  (cs.dropWhile isDelimiter).rdropWhile isDelimiter

theorem unquoted_eq (literal : String) : unquoted literal = String.ofList (trimmed literal.toList) := rfl

/-- Whether a literal has neither escapes nor, between backquotes, carriage returns, and no quote behind its first or
before its last. -/
def isPlain (literal : String) : Bool :=
  let content := literal.toList.tail.dropLast
  !content.head?.any isDelimiter && !content.getLast?.any isDelimiter &&
    !content.contains (if literal.toList.head? = some '"' then '\\' else '\r')

/-! ## Quotes at the ends -/

section
variable {cs : List Char} {q : Char}

theorem trimmed_quoted (hq : isDelimiter q) (cs : List Char) : trimmed (q :: (cs ++ [q])) = trimmed cs := by
  rw [trimmed, List.dropWhile_cons_of_pos hq, List.dropWhile_append, trimmed]
  split
  · rename_i hnil
    rw [List.isEmpty_iff.mp hnil, List.dropWhile_cons_of_pos hq]
    rfl
  · rw [List.rdropWhile_concat_pos _ _ _ hq]

theorem trimmed_eq_self (hhead : cs.head?.any isDelimiter = false) (hlast : cs.getLast?.any isDelimiter = false) :
    trimmed cs = cs := by
  have hdrop : cs.dropWhile isDelimiter = cs := by
    cases cs with
    | nil => rfl
    | cons c cs => exact List.dropWhile_cons_of_neg (Bool.eq_false_iff.mp hhead)
  rw [trimmed, hdrop, List.rdropWhile_eq_self_iff]
  intro hne hdelimiter
  rw [List.getLast?_eq_some_getLast hne, Option.any_some, hdelimiter] at hlast
  cases hlast

theorem head_trimmed {c : Char} (h : (trimmed cs).head? = some c) : isDelimiter c = false := by
  obtain ⟨rest, hrest⟩ := List.rdropWhile_prefix isDelimiter (cs.dropWhile isDelimiter)
  have hhead : (cs.dropWhile isDelimiter).head? = some c := by
    rw [← hrest, List.head?_append]
    exact h.symm ▸ rfl
  have hnot := List.head?_dropWhile_not isDelimiter cs
  rw [hhead] at hnot
  exact hnot

theorem getLast_trimmed {c : Char} (h : (trimmed cs).getLast? = some c) : isDelimiter c = false := by
  have hne : trimmed cs ≠ [] := by
    rintro hnil
    rw [hnil] at h
    cases h
  rw [List.getLast?_eq_some_getLast hne] at h
  obtain rfl := Option.some.inj h
  exact Bool.eq_false_iff.mpr (List.rdropWhile_last_not _ _ hne)

end

/-! ## Bytes at the ends -/

section
variable {cs : List Char} {c d : Char}

theorem ascii_of_isDelimiter (h : isDelimiter c) : c.toNat < 128 := by
  simp only [isDelimiter, Bool.or_eq_true, decide_eq_true_eq] at h
  rcases h with rfl | rfl <;> decide

theorem head_of_utf8 (hd : d.toNat < 128) (h : (utf8 cs).head? = some d.toUInt8) : cs.head? = some d := by
  cases cs with
  | nil => cases h
  | cons c cs =>
    obtain ⟨b, bs, hbytes, -⟩ := exists_utf8EncodeChar c
    rw [utf8_cons, hbytes] at h
    have hmem : d.toUInt8 ∈ String.utf8EncodeChar c := by
      rw [hbytes, ← Option.some.inj h]
      exact List.mem_cons_self
    rw [eq_of_mem_utf8 hd hmem]
    rfl

theorem getLast_of_utf8 (hd : d.toNat < 128) (h : (utf8 cs).getLast? = some d.toUInt8) : cs.getLast? = some d := by
  rcases List.eq_nil_or_concat' cs with rfl | ⟨cs, c, rfl⟩
  · cases h
  · have hne : String.utf8EncodeChar c ≠ [] := String.utf8EncodeChar_ne_nil
    rw [utf8_append, List.getLast?_append, utf8_cons, utf8, List.flatMap_nil, List.append_nil,
      List.getLast?_eq_some_getLast hne, Option.some_or] at h
    have hmem : d.toUInt8 ∈ String.utf8EncodeChar c := Option.some.inj h ▸ List.getLast_mem hne
    rw [eq_of_mem_utf8 hd hmem, List.getLast?_concat]

/-- Where bytes begin and end with the quotes that a text begins and ends with, they are that text without its quotes only
if there are none. -/
theorem trimmed_eq_self_of_bytes {bytes : List UInt8} (hbytes : bytes = utf8 (trimmed cs))
    (hhead : ∀ c, cs.head? = some c → isDelimiter c → bytes.head? = some c.toUInt8)
    (hlast : ∀ c, cs.getLast? = some c → isDelimiter c → bytes.getLast? = some c.toUInt8) :
    cs.head?.any isDelimiter = false ∧ cs.getLast?.any isDelimiter = false := by
  subst hbytes
  constructor
  · refine (Option.any_eq_false _ _).mpr fun c hc => Bool.eq_false_iff.mpr fun hdelimiter => ?_
    have hfirst := head_of_utf8 (ascii_of_isDelimiter hdelimiter) (hhead c hc hdelimiter)
    exact Bool.eq_false_iff.mp (head_trimmed hfirst) hdelimiter
  · refine (Option.any_eq_false _ _).mpr fun c hc => Bool.eq_false_iff.mpr fun hdelimiter => ?_
    have hend := getLast_of_utf8 (ascii_of_isDelimiter hdelimiter) (hlast c hc hdelimiter)
    exact Bool.eq_false_iff.mp (getLast_trimmed hend) hdelimiter

theorem utf8_inj {cs ds : List Char} (h : utf8 cs = utf8 ds) : cs = ds := by
  have hencoded : cs.utf8Encode = ds.utf8Encode := congrArg List.toByteArray h
  rw [← String.toByteArray_ofList, ← String.toByteArray_ofList, String.toByteArray_inj] at hencoded
  exact String.ofList_injective hencoded

end

/-! ## What stands between double quotes -/

/-- What the text between double quotes denotes, escape by escape and character by character. -/
inductive Interprets : List Char → List UInt8 → Prop
  | nil : Interprets [] []
  | escape {cs b n rest} : escapeValue? cs = some (b, n) → Interprets (cs.drop n) rest →
    Interprets ('\\' :: cs) (b ++ rest)
  | char {c cs rest} : c ≠ '\\' → Interprets cs rest → Interprets (c :: cs) (String.utf8EncodeChar c ++ rest)

theorem interprets_of_value : ∀ (cs : List Char) (bytes : List UInt8), interpretedValue? cs = some bytes →
    Interprets cs bytes
  | [], bytes, h => by
    rw [interpretedValue?] at h
    exact Option.some.inj h ▸ .nil
  | c :: cs, bytes, h => by
    rw [interpretedValue?] at h
    split at h
    · rename_i hc
      obtain ⟨⟨b, n⟩, hescape, h⟩ := Option.bind_eq_some_iff.mp h
      obtain ⟨rest, hrest, hbytes⟩ := Option.bind_eq_some_iff.mp h
      obtain rfl := Option.some.inj hbytes
      exact hc ▸ .escape hescape (interprets_of_value _ rest hrest)
    · rename_i hc
      split at h
      · cases h
      · obtain ⟨rest, hrest, hbytes⟩ := Option.bind_eq_some_iff.mp h
        obtain rfl := Option.some.inj hbytes
        exact .char hc (interprets_of_value cs rest hrest)
termination_by cs => cs.length
decreasing_by
  all_goals
    simp only [List.length_drop, List.length_cons]
    omega

/-- What an escape is: more characters than bytes, and no quote at its end that is not its byte. -/
structure IsEscape (cs : List Char) (b : List UInt8) (n : Nat) : Prop where
  length : b.length ≤ n
  within : n ≤ cs.length
  last : ∀ c, (cs.take n).getLast? = some c → isDelimiter c → b.getLast? = some c.toUInt8

theorem length_of_startsWithHex {k : Nat} {cs : List Char} (h : startsWithHex k cs) : k ≤ cs.length := by
  induction k generalizing cs with
  | zero => exact Nat.zero_le _
  | succ k ih =>
    cases cs with
    | nil => cases h
    | cons c cs =>
      rw [startsWithHex, Bool.and_eq_true] at h
      exact Nat.succ_le_succ (ih h.2)

theorem not_delimiter_of_hex {c : Char} (h : isHexDigit c) : ¬isDelimiter c := by
  intro hc
  simp only [isDelimiter, Bool.or_eq_true, decide_eq_true_eq] at hc
  rcases hc with rfl | rfl <;> cases h

/-- Hexadecimal digits behind a letter are an escape of fewer bytes. -/
theorem isEscape_of_hex {k : Nat} {c : Char} {cs : List Char} {b : List UInt8} (h : startsWithHex (k + 1) cs)
    (hb : b.length ≤ k + 2) : IsEscape (c :: cs) b (k + 2) where
  length := hb
  within := Nat.succ_le_succ (length_of_startsWithHex h)
  last d hd hdelimiter := by
    have hmem : d ∈ cs.take (k + 1) := by
      have hne : cs.take (k + 1) ≠ [] := List.ne_nil_of_length_pos (by
        rw [List.length_take, Nat.min_eq_left (length_of_startsWithHex h)]
        exact Nat.succ_pos k)
      rw [List.take_succ_cons, List.getLast?_cons_of_ne_nil hne] at hd
      exact List.mem_of_getLast? hd
    exact absurd hdelimiter (not_delimiter_of_hex (Verify.hex_of_startsWithHex h d hmem))

theorem isEscape_of_value {cs : List Char} {b : List UInt8} {n : Nat} (h : escapeValue? cs = some (b, n)) :
    IsEscape cs b n := by
  cases cs with
  | nil => cases h
  | cons c cs =>
    have hpoint {k : Nat} (hk : 3 ≤ k) (h : codePoint? (k + 1) cs = some (b, n)) : IsEscape (c :: cs) b n := by
      unfold codePoint? at h
      dsimp only at h
      split at h
      · rename_i hhex
        cases h
        rw [Bool.and_eq_true] at hhex
        refine isEscape_of_hex hhex.1 ?_
        rw [String.length_utf8EncodeChar]
        exact Nat.le_trans (Char.utf8Size_le_four _) (by omega)
      · cases h
    rw [escapeValue?] at h
    split at h
    · split at h
      · rename_i hhex
        cases h
        exact isEscape_of_hex hhex (by simp)
      · cases h
    split at h
    · exact hpoint (Nat.le_refl 3) h
    split at h
    · exact hpoint (by omega) h
    split at h
    · rename_i byte hletter
      cases h
      refine ⟨Nat.le_refl _, Nat.succ_le_succ (Nat.zero_le _), fun d hd hdelimiter => ?_⟩
      obtain rfl : c = d := Option.some.inj hd
      simp only [isDelimiter, Bool.or_eq_true, decide_eq_true_eq] at hdelimiter
      rcases hdelimiter with rfl | rfl
      · cases hletter
        rfl
      · cases hletter
    · dsimp only at h
      split at h
      · rename_i hoctal
        cases h
        rw [Bool.and_eq_true] at hoctal
        obtain ⟨d, e, cs, rfl, -, he⟩ := octal_digits hoctal.1
        refine ⟨by simp, by simp, fun f hf hdelimiter => ?_⟩
        obtain rfl : e = f := Option.some.inj hf
        exact absurd hdelimiter (not_delimiter_of_hex (Verify.hex_of_octal he))
      · cases h

namespace Interprets

variable {cs : List Char} {bytes : List UInt8}

/-- A quote at the start of a text is at the start of what it denotes. -/
theorem head (h : Interprets cs bytes) {d : Char} (hhead : cs.head? = some d) (hd : isDelimiter d) :
    bytes.head? = some d.toUInt8 := by
  cases h with
  | nil => cases hhead
  | escape =>
    obtain rfl := Option.some.inj hhead
    cases hd
  | char =>
    obtain rfl := Option.some.inj hhead
    rw [utf8EncodeChar_of_ascii (ascii_of_isDelimiter hd)]
    rfl

/-- A quote at the end of a text is at the end of what it denotes. -/
theorem last (h : Interprets cs bytes) {d : Char} (hlast : cs.getLast? = some d) (hd : isDelimiter d) :
    bytes.getLast? = some d.toUInt8 := by
  induction h with
  | nil => cases hlast
  | @escape cs b n rest hescape hrest ih =>
    have hsplit : '\\' :: cs = ('\\' :: cs.take n) ++ cs.drop n := by rw [List.cons_append, List.take_append_drop]
    rw [hsplit, List.getLast?_append] at hlast
    rw [List.getLast?_append]
    cases hbehind : (cs.drop n).getLast? with
    | some e =>
      rw [hbehind] at hlast
      rw [ih (hbehind.trans hlast), Option.some_or]
    | none =>
      -- the text ends with the escape
      rw [List.getLast?_eq_none_iff] at hbehind
      rw [hbehind] at hrest hlast
      cases hrest
      refine (isEscape_of_value hescape).last d ?_ hd
      cases htake : cs.take n with
      | nil =>
        rw [htake] at hlast
        obtain rfl : '\\' = d := Option.some.inj hlast
        cases hd
      | cons e es => rwa [htake] at hlast
  | @char c cs rest hslash hrest ih =>
    rw [List.getLast?_append]
    cases cs with
    | nil =>
      cases hrest
      obtain rfl : c = d := Option.some.inj hlast
      rw [utf8EncodeChar_of_ascii (ascii_of_isDelimiter hd)]
      rfl
    | cons e es => rw [ih hlast, Option.some_or]

/-- A text denotes no more bytes than it has, and fewer if there is an escape. -/
theorem length (h : Interprets cs bytes) :
    bytes.length ≤ (utf8 cs).length ∧ (bytes.length = (utf8 cs).length → '\\' ∉ cs) := by
  induction h with
  | nil => exact ⟨Nat.le_refl _, fun _ => List.not_mem_nil⟩
  | @escape cs b n rest hescape _ ih =>
    obtain ⟨hlength, hwithin, -⟩ := isEscape_of_value hescape
    have htake := length_le_utf8 (cs.take n)
    have hsplit : utf8 cs = utf8 (cs.take n) ++ utf8 (cs.drop n) := by rw [← utf8_append, List.take_append_drop]
    rw [List.length_take, Nat.min_eq_left hwithin] at htake
    have hshorter : (b ++ rest).length < (utf8 ('\\' :: cs)).length := by
      rw [utf8_cons, hsplit, utf8EncodeChar_of_ascii (by decide)]
      simp only [List.length_append, List.length_cons, List.length_nil]
      omega
    exact ⟨Nat.le_of_lt hshorter, fun heq => absurd heq (Nat.ne_of_lt hshorter)⟩
  | char hslash _ ih =>
    rw [utf8_cons, List.length_append, List.length_append]
    exact ⟨Nat.add_le_add_left ih.1 _, fun heq =>
      List.not_mem_cons_of_ne_of_not_mem (Ne.symm hslash) (ih.2 (Nat.add_left_cancel heq))⟩

end Interprets

/-- Without escapes a text denotes itself, if it may stand between double quotes. -/
theorem interpretedValue_of_plain {cs : List Char} (hslash : '\\' ∉ cs) (hplain : ∀ c ∈ cs, c ≠ '"' ∧ c ≠ '\n') :
    interpretedValue? cs = some (utf8 cs) := by
  induction cs with
  | nil => rw [interpretedValue?]; rfl
  | cons c cs ih =>
    rw [List.forall_mem_cons] at hplain
    rw [List.mem_cons, not_or] at hslash
    rw [interpretedValue?, if_neg (Ne.symm hslash.1), if_neg (by simp [hplain.1]), ih hslash.2 hplain.2]
    rfl

/-! ## Literals of a source -/

/-- The characters between double quotes. -/
theorem content_of_string {cs : List Char} {n : Nat} (h : stringTailLength cs = some n) :
    ∃ content, cs.take n = content ++ ['"'] ∧ ('\\' ∉ content → ∀ c ∈ content, c ≠ '"' ∧ c ≠ '\n') := by
  fun_induction stringTailLength cs generalizing n with
  | case1 => cases h
  | case2 c cs _ ih =>
    obtain ⟨m, hm, rfl⟩ := Option.map_eq_some_iff.mp h
    obtain ⟨content, htake, -⟩ := ih hm
    exact ⟨'\\' :: c :: content, by rw [List.take_succ_cons, List.take_succ_cons, htake]; rfl, by simp⟩
  | case3 => cases h
  | case4 =>
    cases h
    exact ⟨[], rfl, fun _ => List.forall_mem_nil _⟩
  | case5 => cases h
  | case6 c cs _ hquote hend ih =>
    obtain ⟨m, hm, rfl⟩ := Option.map_eq_some_iff.mp h
    obtain ⟨content, htake, hcontent⟩ := ih hm
    refine ⟨c :: content, by rw [List.take_succ_cons, htake]; rfl, fun hslash => ?_⟩
    simp only [Bool.or_eq_true, decide_eq_true_eq, not_or] at hend
    exact List.forall_mem_cons.mpr ⟨⟨hquote, hend.1⟩, hcontent fun hmem => hslash (List.mem_cons_of_mem c hmem)⟩

/-- The characters between backquotes. -/
theorem content_of_raw {cs : List Char} {n : Nat} (h : rawTailLength cs = some n) :
    ∃ content, cs.take n = content ++ ['\x60'] ∧ '\x60' ∉ content := by
  induction cs generalizing n with
  | nil => cases h
  | cons c cs ih =>
    rw [rawTailLength] at h
    split at h
    · rename_i hc
      cases h
      exact ⟨[], by rw [hc]; rfl, List.not_mem_nil⟩
    · rename_i hc
      obtain ⟨m, hm, rfl⟩ := Option.map_eq_some_iff.mp h
      obtain ⟨content, htake, hcontent⟩ := ih hm
      exact ⟨c :: content, by rw [List.take_succ_cons, htake]; rfl,
        List.not_mem_cons_of_ne_of_not_mem (Ne.symm hc) hcontent⟩

/-- A string literal as written: its quotes and what stands between them. -/
inductive IsLiteral : List Char → Prop
  | string {content} : ('\\' ∉ content → ∀ c ∈ content, c ≠ '"' ∧ c ≠ '\n') → IsLiteral ('"' :: (content ++ ['"']))
  | raw {content} : '\x60' ∉ content → IsLiteral ('\x60' :: (content ++ ['\x60']))

theorem isLiteral_of_lexeme {cs : List Char} (h : lexeme? cs = some (.literal .string, cs.length)) : IsLiteral cs := by
  cases cs with
  | nil => cases h
  | cons c cs =>
    rw [lexeme?] at h
    split at h
    · dsimp only at h
      split at h <;> cases h
    split at h
    · rename_i hc
      obtain ⟨m, hm, heq⟩ := Option.map_eq_some_iff.mp h
      cases heq
      subst hc
      obtain ⟨k, hk, hlength⟩ := Option.map_eq_some_iff.mp hm
      obtain ⟨content, htake, hcontent⟩ := content_of_string hk
      rw [List.take_of_length_le (by rw [List.length_cons] at hlength; omega)] at htake
      exact htake ▸ .string hcontent
    split at h
    · rename_i hc
      obtain ⟨m, hm, heq⟩ := Option.map_eq_some_iff.mp h
      cases heq
      subst hc
      obtain ⟨k, hk, hlength⟩ := Option.map_eq_some_iff.mp hm
      obtain ⟨content, htake, hcontent⟩ := content_of_raw hk
      rw [List.take_of_length_le (by rw [List.length_cons] at hlength; omega)] at htake
      exact htake ▸ .raw hcontent
    split at h
    · obtain ⟨m, -, heq⟩ := Option.map_eq_some_iff.mp h
      cases heq
    split at h
    · cases h
    split at h
    · rename_i kind m _
      cases kind <;> cases h
    · obtain ⟨m, -, heq⟩ := Option.map_eq_some_iff.mp h
      cases heq

/-! ## The path of a literal -/

/-- Bytes that begin and end as a text does are what is left of it without the quotes at its ends exactly if they are the
whole text, and it has no such quotes. -/
theorem eq_trimmed_iff {cs : List Char} {bytes : List UInt8}
    (hhead : ∀ c, cs.head? = some c → isDelimiter c → bytes.head? = some c.toUInt8)
    (hlast : ∀ c, cs.getLast? = some c → isDelimiter c → bytes.getLast? = some c.toUInt8) :
    bytes = utf8 (trimmed cs) ↔
      (cs.head?.any isDelimiter = false ∧ cs.getLast?.any isDelimiter = false) ∧ bytes = utf8 cs := by
  constructor
  · intro hbytes
    have hends := trimmed_eq_self_of_bytes hbytes hhead hlast
    rw [trimmed_eq_self hends.1 hends.2] at hbytes
    exact ⟨hends, hbytes⟩
  · rintro ⟨hends, hbytes⟩
    rw [trimmed_eq_self hends.1 hends.2, hbytes]

theorem interpreted_iff {content : List Char} (hcontent : '\\' ∉ content → ∀ c ∈ content, c ≠ '"' ∧ c ≠ '\n') :
    interpretedValue? content = some (utf8 (trimmed content)) ↔
      (content.head?.any isDelimiter = false ∧ content.getLast?.any isDelimiter = false) ∧ '\\' ∉ content := by
  constructor
  · intro h
    have hreads := interprets_of_value _ _ h
    obtain ⟨hends, hbytes⟩ := (eq_trimmed_iff (fun c => hreads.head) (fun c => hreads.last)).mp rfl
    exact ⟨hends, hreads.length.2 (congrArg List.length hbytes)⟩
  · rintro ⟨hends, hslash⟩
    rw [interpretedValue_of_plain hslash (hcontent hslash), trimmed_eq_self hends.1 hends.2]

theorem raw_iff (content : List Char) :
    utf8 (content.filter (· ≠ '\r')) = utf8 (trimmed content) ↔
      (content.head?.any isDelimiter = false ∧ content.getLast?.any isDelimiter = false) ∧ '\r' ∉ content := by
  have hkept {c : Char} (hc : isDelimiter c) : decide (c ≠ '\r') = true := by
    refine decide_eq_true fun hreturn => ?_
    rw [hreturn] at hc
    cases hc
  rw [eq_trimmed_iff]
  · refine and_congr_right fun _ => ⟨fun h hmem => ?_, fun h => ?_⟩
    · have hself := List.filter_eq_self.mp (utf8_inj h) '\r' hmem
      exact absurd rfl (of_decide_eq_true hself)
    · have hall : ∀ c ∈ content, decide (c ≠ '\r') = true := by
        intro c hc
        refine decide_eq_true ?_
        rintro rfl
        exact h hc
      rw [List.filter_eq_self.mpr hall]
  · intro c hhead hc
    obtain ⟨cs, rfl⟩ := List.head?_eq_some_iff.mp hhead
    rw [List.filter_cons_of_pos (p := (· ≠ '\r')) (hkept hc), utf8_cons, utf8EncodeChar_of_ascii (ascii_of_isDelimiter hc)]
    rfl
  · intro c hlast hc
    obtain ⟨cs, rfl⟩ := List.getLast?_eq_some_iff.mp hlast
    rw [List.filter_append, List.filter_cons_of_pos (p := (· ≠ '\r')) (hkept hc), List.filter_nil, utf8_append, utf8_cons,
      utf8EncodeChar_of_ascii (ascii_of_isDelimiter hc)]
    exact List.getLast?_concat

theorem toByteArray_inj {bs cs : List UInt8} (h : bs.toByteArray = cs.toByteArray) : bs = cs := by
  have hdata := congrArg ByteArray.data h
  rw [List.data_toByteArray, List.data_toByteArray] at hdata
  exact List.toArray_inj hdata

theorem isPlain_iff {literal : String} {q : Char} {content : List Char} (h : literal.toList = q :: (content ++ [q])) :
    isPlain literal ↔ (content.head?.any isDelimiter = false ∧ content.getLast?.any isDelimiter = false) ∧
      (if q = '"' then '\\' else '\r') ∉ content := by
  unfold isPlain
  rw [h]
  simp

theorem stringValue_string {literal : String} {content : List Char} (h : literal.toList = '"' :: (content ++ ['"'])) :
    stringValue? literal = (interpretedValue? content).map List.toByteArray := by
  simp only [stringValue?, h, List.getLast?_concat, if_true, List.dropLast_concat]

theorem stringValue_raw {literal : String} {content : List Char} (h : literal.toList = '\x60' :: (content ++ ['\x60']))
    (hcontent : '\x60' ∉ content) :
    stringValue? literal = some (utf8 (content.filter (· ≠ '\r'))).toByteArray := by
  have hclosed : content.contains '\x60' = false := by simpa using hcontent
  simp only [stringValue?, h, List.getLast?_concat, List.dropLast_concat, hclosed, decide_true, Bool.not_false,
    Bool.and_self, if_true]
  rfl

/-- **The path of an import is what its literal denotes exactly if the literal is plain.** -/
theorem stringValue_unquoted_iff {literal : String} (h : IsLiteral literal.toList) :
    stringValue? literal = some (unquoted literal).toUTF8 ↔ isPlain literal := by
  have hpath : (unquoted literal).toUTF8 = (utf8 (trimmed literal.toList)).toByteArray := by
    rw [unquoted_eq, String.toUTF8_eq_toByteArray, String.toByteArray_ofList]
    rfl
  rw [hpath]
  generalize hcs : literal.toList = cs at h
  cases h with
  | @string content hcontent =>
    rw [stringValue_string hcs, isPlain_iff hcs, trimmed_quoted rfl, if_pos rfl, ← interpreted_iff hcontent]
    constructor
    · intro h
      obtain ⟨bytes, hbytes, heq⟩ := Option.map_eq_some_iff.mp h
      rw [hbytes, toByteArray_inj heq]
    · intro h
      rw [h]
      rfl
  | @raw content hcontent =>
    rw [stringValue_raw hcs hcontent, isPlain_iff hcs, trimmed_quoted rfl, if_neg (by decide), ← raw_iff,
      Option.some.injEq]
    exact ⟨toByteArray_inj, congrArg List.toByteArray⟩

end GoRebuild.Text
