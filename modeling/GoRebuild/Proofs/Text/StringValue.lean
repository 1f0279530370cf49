import GoRebuild.Lexical.Literal
import GoRebuild.Proofs.Text.Bytes
import GoRebuild.Text.Quoted

/-!
# What string literals denote

A string literal denotes bytes. Between double quotes a backslash begins an escape: a letter, three octal digits or two
hexadecimal ones for a byte, four or eight hexadecimal digits for a code point. Between backquotes every character
stands for itself, carriage returns apart.

* `escapeValue?` : the bytes of an escape, and how many characters it takes behind its backslash;
* `interpretedValue?`, `stringValue?` : the bytes of what stands between double quotes, and of a literal;
* `stringValue_encode` : the literal that is written for a text denotes that text.
-/

namespace GoRebuild.Text
open Lexical

/-! ## Literals -/

/-- The letters and signs that stand for a byte behind a backslash. -/
def escapeBytes : List (Char × UInt8) :=
  [('a', 7), ('b', 8), ('t', 9), ('n', 10), ('v', 11), ('f', 12), ('r', 13), ('"', 34), ('\\', 92)]

/-- The number that digits denote in some base. -/
def number (base : Nat) (digits : List Char) : Nat :=
  digits.foldl (fun n d => base * n + hexValue d) 0

/-- A code point in so many hexadecimal digits, behind the letter that says how many. -/
def codePoint? (k : Nat) (cs : List Char) : Option (List UInt8 × Nat) :=
  let n := number 16 (cs.take k)
  if startsWithHex k cs && decide n.isValidChar then some (String.utf8EncodeChar (Char.ofNat n), k + 1) else none

/-- The bytes of the escape at the start of a text, its backslash taken, and how many characters it has. -/
def escapeValue? : List Char → Option (List UInt8 × Nat)
  | [] => none
  | c :: cs =>
    if c = 'x' then
      if startsWithHex 2 cs then some ([UInt8.ofNat (number 16 (cs.take 2))], 3) else none
    else if c = 'u' then codePoint? 4 cs
    else if c = 'U' then codePoint? 8 cs
    else
      match escapeBytes.lookup c with
      | some b => some ([b], 1)
      | none =>
        let n := number 8 ((c :: cs).take 3)
        if startsWithOctal (c :: cs) && n < 256 then some ([UInt8.ofNat n], 3) else none

/-- The bytes of what stands between double quotes. -/
def interpretedValue? : List Char → Option (List UInt8)
  | [] => some []
  | c :: cs =>
    if c = '\\' then do
      let (bytes, n) ← escapeValue? cs
      let rest ← interpretedValue? (cs.drop n)
      return bytes ++ rest
    else if c = '"' || c = '\n' then none
    else do
      let rest ← interpretedValue? cs
      return String.utf8EncodeChar c ++ rest
termination_by cs => cs.length
decreasing_by
  · rw [List.length_drop, List.length_cons]
    omega
  · exact Nat.lt_succ_self _

/-- The bytes of a string literal. -/
def stringValue? (literal : String) : Option ByteArray :=
  match literal.toList with
  | '"' :: cs => if cs.getLast? = some '"' then (interpretedValue? cs.dropLast).map List.toByteArray else none
  | '\x60' :: cs =>
    if cs.getLast? = some '\x60' && !cs.dropLast.contains '\x60' then
      some ((cs.dropLast.filter (· ≠ '\r')).flatMap String.utf8EncodeChar).toByteArray
    else none
  | _ => none

/-! ## Written literals -/

/-- The two digits of a small number denote it. -/
theorem number_hexDigits : ∀ n < 128, isHexDigit (hexDigit (n / 16)) ∧ isHexDigit (hexDigit (n % 16)) ∧
    number 16 [hexDigit (n / 16), hexDigit (n % 16)] = n := by
  decide

/-- A letter or sign behind a backslash. -/
theorem interpretedValue_letter {c : Char} {b : UInt8} (hx : c ≠ 'x' ∧ c ≠ 'u' ∧ c ≠ 'U')
    (hb : escapeBytes.lookup c = some b) (cs : List Char) :
    interpretedValue? ('\\' :: c :: cs) = (interpretedValue? cs).map ([b] ++ ·) := by
  have hescape : escapeValue? (c :: cs) = some ([b], 1) := by
    simp only [escapeValue?, hx, if_false, hb]
  rw [interpretedValue?]
  simp only [if_true, hescape, Option.bind_eq_bind, Option.bind_some, List.drop_succ_cons, List.drop_zero]
  cases interpretedValue? cs <;> rfl

/-- A byte in two hexadecimal digits. -/
theorem interpretedValue_hex {n : Nat} (hn : n < 128) (cs : List Char) :
    interpretedValue? ('\\' :: 'x' :: hexDigit (n / 16) :: hexDigit (n % 16) :: cs) =
      (interpretedValue? cs).map ([UInt8.ofNat n] ++ ·) := by
  obtain ⟨hhigh, hlow, hvalue⟩ := number_hexDigits n hn
  have hescape : escapeValue? ('x' :: hexDigit (n / 16) :: hexDigit (n % 16) :: cs) = some ([UInt8.ofNat n], 3) := by
    simp [escapeValue?, startsWithHex, hhigh, hlow, hvalue]
  rw [interpretedValue?]
  simp only [if_true, hescape, Option.bind_eq_bind, Option.bind_some, List.drop_succ_cons, List.drop_zero]
  cases interpretedValue? cs <;> rfl

/-- A character that stands for itself. -/
theorem interpretedValue_self {c : Char} (hslash : c ≠ '\\') (hquote : c ≠ '"') (hnewline : c ≠ '\n')
    (cs : List Char) : interpretedValue? (c :: cs) = (interpretedValue? cs).map (String.utf8EncodeChar c ++ ·) := by
  rw [interpretedValue?]
  simp only [hslash, hquote, hnewline, if_false, decide_false, Bool.or_self, Bool.false_eq_true]
  cases interpretedValue? cs <;> rfl

/-- What is written for a character denotes it. -/
theorem interpretedValue_escape (c : Char) (cs : List Char) :
    interpretedValue? (Quoted.escape c ++ cs) = (interpretedValue? cs).map (String.utf8EncodeChar c ++ ·) := by
  unfold Quoted.escape
  split
  · rename_i hc
    subst hc
    exact interpretedValue_letter (by decide) (by decide) cs
  split
  · rename_i hc
    subst hc
    exact interpretedValue_letter (by decide) (by decide) cs
  split
  · rename_i hc
    subst hc
    exact interpretedValue_letter (by decide) (by decide) cs
  split
  · rename_i hc
    subst hc
    exact interpretedValue_letter (by decide) (by decide) cs
  split
  · rename_i hc
    subst hc
    exact interpretedValue_letter (by decide) (by decide) cs
  split
  · rename_i hcontrol
    have hlt : c.toNat < 128 := by omega
    rw [utf8EncodeChar_of_lt hlt]
    exact interpretedValue_hex hlt cs
  · rename_i hquote hslash hnewline _ _ _
    exact interpretedValue_self hslash hquote hnewline cs

theorem interpretedValue_encode (cs : List Char) :
    interpretedValue? (cs.flatMap Quoted.escape) = some (cs.flatMap String.utf8EncodeChar) := by
  induction cs with
  | nil => rw [List.flatMap_nil, interpretedValue?]; rfl
  | cons c cs ih => rw [List.flatMap_cons, interpretedValue_escape, ih, List.flatMap_cons]; rfl

/-- **The literal that is written for a text denotes that text.** -/
theorem stringValue_encode (text : String) : stringValue? (Quoted.encode text) = some text.toUTF8 := by
  have hlast : (text.toList.flatMap Quoted.escape ++ ['"']).getLast? = some '"' := by simp
  rw [Quoted.encode, stringValue?, String.toList_ofList, Quoted.encodeChars]
  simp only [hlast, if_true, List.dropLast_concat, interpretedValue_encode, Option.map_some]
  exact congrArg some String.utf8Encode_toList

end GoRebuild.Text
