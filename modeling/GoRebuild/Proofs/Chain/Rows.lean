import GoRebuild.Chain.Printer
import GoRebuild.Proofs.Lexical.Written

/-!
# The tokens of written chains

* `Step.isWritable`, `Arg.isWritable` : methods are identifiers, and integers are those that literals are written as;
* `Step.row`, `Step.rowOf`, `Arg.row` : the tokens of a call, a chain and an argument, with the line breaks of a
  layout;
* `Step.scans_write`, `Step.scans_writeOf`, `Arg.scans_write` : these are the tokens of the written text.
-/

namespace GoRebuild
open Lexical Text

/-! ## Rows -/

section
variable (l : Layout)

mutual

/-- A chain that may be empty, behind a line break or not. -/
def Step.rowOf (newLine : Bool) : List Step → List Spelling
  | [] => [⟨.word, "jen", newLine⟩, sign ".", inLine .word "Null", sign "(", sign ")"]
  | s :: ss => ⟨.word, "jen", newLine⟩ :: (s.row ++ Step.rowRest ss)

/-- The calls of a chain. -/
def Step.rowRest : List Step → List Spelling
  | [] => []
  | s :: ss => s.row ++ Step.rowRest ss

def Step.row : Step → List Spelling
  | .mk m [] => [sign ".", inLine .word m, sign "(", sign ")"]
  | .mk m (a :: as) =>
    sign "." :: inLine .word m :: sign "(" :: (a.row (l.breaks m (as.length + 1))
      ++ (Arg.rowRest (l.breaks m (as.length + 1)) as ++ callEnd (l.breaks m (as.length + 1))))

/-- The arguments after the first, each on a line of its own or not. -/
def Arg.rowRest (broken : Bool) : List Arg → List Spelling
  | [] => []
  | a :: as => sign "," :: (a.row broken ++ Arg.rowRest broken as)

/-- One argument, behind a line break or not. -/
def Arg.row (newLine : Bool) : Arg → List Spelling
  | .code c => Step.rowOf newLine c
  | .quoted s => [⟨.literal .string, Quoted.encode s, newLine⟩]
  | .int n => [⟨.literal .int, toString n, newLine⟩]

end

end

/-! ## Chains that can be written -/

mutual

/-- Whether a call can be written: its method is an identifier. -/
def Step.isWritable : Step → Bool
  | .mk m as => isWord m && Arg.allWritable as

/-- Whether all calls can be. -/
def Step.allWritable : List Step → Bool
  | [] => true
  | s :: ss => s.isWritable && Step.allWritable ss

/-- Whether an argument can be: an integer has to be that of a literal. -/
def Arg.isWritable : Arg → Bool
  | .code c => Step.allWritable c
  | .quoted _ => true
  | .int n => decimal? (toString n) == some n

/-- Whether all arguments can be. -/
def Arg.allWritable : List Arg → Bool
  | [] => true
  | a :: as => a.isWritable && Arg.allWritable as

end

/-! ## Scanning -/

theorem Lexical.Scans.tabs {newLine : Bool} {cs : List Char} {spans : List Span} (n : Nat) (h : Scans newLine cs spans) :
    Scans newLine ((GoRebuild.tabs n).toList ++ cs) spans := by
  rw [GoRebuild.tabs, String.toList_ofList]
  induction n with
  | zero => exact h
  | succ n ih => exact ih.tab

/-- A dot before a word. -/
theorem Lexical.Scans.dotted {m : String} {cs : List Char} {spans : List Span} (hm : isWord m)
    (h : Scans false (m.toList ++ cs) spans) (newLine : Bool) :
    Scans newLine ('.' :: (m.toList ++ cs)) (.token ⟨.symbol, ".", newLine⟩ :: spans) := by
  unfold isWord at hm
  split at hm
  · rename_i c v hm'
    rw [hm', List.cons_append] at h ⊢
    simp only [Bool.and_eq_true] at hm
    exact .dot hm.1.1 h
  · cases hm

section
variable (l : Layout)

theorem endsWord_cons {c : Char} (hc : isIdentifierPart c = false) (cs : List Char) : EndsWord (c :: cs) := by
  rintro _ ⟨⟩
  exact hc

/-- The name of the builder before its first call. -/
theorem scans_jen {newLine : Bool} {cs : List Char} {spans : List Span} (h : Scans false ('.' :: cs) spans) :
    Scans newLine ("jen".toList ++ '.' :: cs) (.token ⟨.word, "jen", newLine⟩ :: spans) :=
  .word (by decide) (endsWord_cons (by decide) _) h

theorem scans_comma {cs : List Char} {spans : List Span} (h : Scans false cs spans) :
    Scans false (',' :: cs) (.token (sign ",") :: spans) :=
  .bracket (by decide) h

theorem scans_close {cs : List Char} {spans : List Span} (h : Scans false cs spans) :
    Scans false (')' :: cs) (.token (sign ")") :: spans) :=
  .bracket (by decide) h

/-- A call up to its opening parenthesis. -/
theorem scans_method {m : String} {cs : List Char} {spans : List Span} (hm : isWord m) (h : Scans false cs spans) :
    Scans false ('.' :: (m.toList ++ '(' :: cs))
      (.token (sign ".") :: .token (inLine .word m) :: .token (sign "(") :: spans) :=
  .dotted hm (.word hm (endsWord_cons (by decide) _) (.bracket (by decide) h)) false

/-- A call is written from its dot on. -/
theorem Step.exists_dot (n : Nat) (s : Step) : ∃ cs, (s.write l n).toList = '.' :: cs := by
  cases s with
  | mk m as =>
    cases as with
    | nil => exact ⟨m.toList ++ ['(', ')'], by simp [Step.write]⟩
    | cons a as =>
      rw [Step.write]
      split
      · exact ⟨m.toList ++ '(' :: '\n' :: ((tabs (n + 1)).toList ++ ((a.write l (n + 1)).toList ++ ',' :: '\n' ::
          ((Arg.writeLines l (n + 1) as).toList ++ ((tabs n).toList ++ [')'])))), by simp⟩
      · exact ⟨m.toList ++ '(' :: ((a.write l n).toList ++ ((Arg.writeRest l n as).toList ++ [')'])), by simp⟩

/-- What follows an argument on its line is no part of it. -/
theorem Arg.breaks_writeRest (n : Nat) {cs : List Char} (hcs : Breaks cs) (as : List Arg) :
    Breaks ((Arg.writeRest l n as).toList ++ cs) := by
  cases as with
  | nil => exact hcs
  | cons a as =>
    have htext : (Arg.writeRest l n (a :: as)).toList ++ cs =
        ',' :: ' ' :: ((a.write l n).toList ++ ((Arg.writeRest l n as).toList ++ cs)) := by
      simp [Arg.writeRest]
    rw [htext]
    exact .cons (by decide) _

mutual

theorem Step.scans_writeOf (n : Nat) (newLine : Bool) {cs : List Char} {spans : List Span} (h : Scans false cs spans) :
    ∀ c : List Step, Step.allWritable c →
      Scans newLine ((Step.writeOf l n c).toList ++ cs) ((Step.rowOf l newLine c).map Span.token ++ spans)
  | [], _ => by
    have hnull : isWord "Null" := by decide
    have hjen := @scans_jen newLine _ _ (scans_method hnull (scans_close h))
    simpa [Step.writeOf, Step.rowOf] using hjen
  | s :: ss, hc => by
    rw [Step.allWritable, Bool.and_eq_true] at hc
    have hs := Step.scans_write n (Step.scans_writeRest n h ss hc.2) s hc.1
    obtain ⟨cs', hdot⟩ := s.exists_dot l n
    rw [hdot, List.cons_append] at hs
    have hjen := @scans_jen newLine _ _ hs
    simpa [Step.writeOf, Step.rowOf, hdot] using hjen

theorem Step.scans_writeRest (n : Nat) {cs : List Char} {spans : List Span} (h : Scans false cs spans) :
    ∀ ss : List Step, Step.allWritable ss →
      Scans false ((Step.writeRest l n ss).toList ++ cs) ((Step.rowRest l ss).map Span.token ++ spans)
  | [], _ => h
  | s :: ss, hc => by
    rw [Step.allWritable, Bool.and_eq_true] at hc
    have hs := Step.scans_write n (Step.scans_writeRest n h ss hc.2) s hc.1
    simpa only [Step.writeRest, Step.rowRest, String.toList_append, List.append_assoc, List.map_append] using hs

theorem Step.scans_write (n : Nat) {cs : List Char} {spans : List Span} (h : Scans false cs spans) :
    ∀ s : Step, s.isWritable →
      Scans false ((s.write l n).toList ++ cs) ((s.row l).map Span.token ++ spans)
  | .mk m [], hs => by
    rw [Step.isWritable, Bool.and_eq_true] at hs
    have hcall := scans_method hs.1 (scans_close h)
    simpa [Step.write, Step.row] using hcall
  | .mk m (a :: as), hs => by
    rw [Step.isWritable, Arg.allWritable, Bool.and_eq_true, Bool.and_eq_true] at hs
    obtain ⟨hm, ha, has⟩ := hs
    rw [Step.write, Step.row]
    cases l.breaks m (as.length + 1) with
    | true =>
      have hend : Scans true ((tabs n).toList ++ ')' :: cs) _ := .tabs n (.bracket (by decide) h)
      have hfirst := Arg.scans_write (n + 1) true (.cons (by decide) _) (Arg.scans_writeLines (n + 1) hend as has) a ha
      have hcall := scans_method hm (hfirst.tabs (n + 1)).line
      simpa [callEnd] using hcall
    | false =>
      have hrest := Arg.scans_writeRest n (.cons (by decide) _) (scans_close h) as has
      have hfirst := Arg.scans_write n false (Arg.breaks_writeRest l n (.cons (by decide) _) as) hrest a ha
      have hcall := scans_method hm hfirst
      simpa [callEnd] using hcall

/-- The arguments after the first, each on a line of its own, behind the comma of the one before. -/
theorem Arg.scans_writeLines (n : Nat) {cs : List Char} {spans : List Span} (h : Scans true cs spans) :
    ∀ as : List Arg, Arg.allWritable as →
      Scans false (',' :: '\n' :: ((Arg.writeLines l n as).toList ++ cs))
        ((Arg.rowRest l true as).map Span.token ++ .token (sign ",") :: spans)
  | [], _ => .bracket (by decide) h.line
  | a :: as, has => by
    rw [Arg.allWritable, Bool.and_eq_true] at has
    have hlines := Arg.scans_writeLines n h as has.2
    have ha := Arg.scans_write n true (.cons (by decide) _) hlines a has.1
    have hline := scans_comma (ha.tabs n).line
    simpa [Arg.writeLines, Arg.rowRest] using hline

theorem Arg.scans_writeRest (n : Nat) {cs : List Char} {spans : List Span} (hcs : Breaks cs) (h : Scans false cs spans) :
    ∀ as : List Arg, Arg.allWritable as →
      Scans false ((Arg.writeRest l n as).toList ++ cs) ((Arg.rowRest l false as).map Span.token ++ spans)
  | [], _ => h
  | a :: as, has => by
    rw [Arg.allWritable, Bool.and_eq_true] at has
    have hrest := Arg.scans_writeRest n hcs h as has.2
    have ha := Arg.scans_write n false (Arg.breaks_writeRest l n hcs as) hrest a has.1
    have hnext := scans_comma ha.blank
    simpa [Arg.writeRest, Arg.rowRest] using hnext

theorem Arg.scans_write (n : Nat) (newLine : Bool) {cs : List Char} {spans : List Span} (hcs : Breaks cs)
    (h : Scans false cs spans) : ∀ a : Arg, a.isWritable →
      Scans newLine ((a.write l n).toList ++ cs) ((a.row l newLine).map Span.token ++ spans)
  | .code c, ha => Step.scans_writeOf n newLine h c ha
  | .quoted s, _ => .string s h
  | .int _, ha => .number (beq_iff_eq.mp ha) hcs h

end

end

end GoRebuild
