import GoRebuild.Proofs.Verify.Sound

/-!
# Comments make no difference

Lines are compared without their line comments. A general comment stays, and so does a line comment on a line
that begins inside a literal, since what a literal has begun on an earlier line is not known there.

* `Part`, `parts` : white space, tokens and comments, as a source has them; `text_parts` : nothing else;
* `codeLines` : the lines of a source without any comment, white space at their ends and blank lines;
* `onlyLineComments` : all comments are line comments, on lines that begin outside literals;
* `Stripped` : a text, and what is left of it without such comments; `stripped_code` : of a source;
* `compare_ignores_comments` : sources with such comments and the same lines of code agree;
* `compare_general_comment`, `compare_comment_behind_raw` : other comments are differences.
-/

namespace GoRebuild.Verify
open Text Lexical

/-! ## Sources without comments -/

/-- A part of a source as written. -/
inductive Part where
  | space (c : Char)
  | token (text : List Char)
  | comment (text : List Char)
  deriving DecidableEq, Repr

/-- The part as written. -/
def Part.text : Part → List Char
  | space c => [c]
  | token t | comment t => t

/-- What is left of the part without comments. -/
def Part.code : Part → List Char
  | space c => [c]
  | token t => t
  | comment _ => []

/-- The parts of the rest of a source; the bound is on their number. -/
def partsFrom : Nat → List Char → Option (List Part)
  | 0, _ => none
  | _ + 1, [] => some []
  | bound + 1, c :: cs =>
    if isSpace c then (partsFrom bound cs).map (.space c :: ·)
    else
      match commentLength (c :: cs) with
      | some n => (partsFrom bound ((c :: cs).drop n)).map (.comment ((c :: cs).take n) :: ·)
      | none =>
        match lexeme? (c :: cs) with
        | some (_, n) => (partsFrom bound ((c :: cs).drop n)).map (.token ((c :: cs).take n) :: ·)
        | none => none

/-- The parts of a source. A byte order mark at its start counts as white space. -/
def parts (source : String) : Option (List Part) :=
  match source.toList with
  | '\ufeff' :: cs => (partsFrom (cs.length + 1) cs).map (.space '\ufeff' :: ·)
  | cs => partsFrom (cs.length + 1) cs

/-- The text of parts without comments. -/
def code (ps : List Part) : List Char :=
  ps.flatMap Part.code

/-- The lines of a text without white space at their ends, blank lines left out. -/
def proseLines (cs : List Char) : List (List Char) :=
  ((pieces cs).map dropBlankEnd).filter fun l => !l.isEmpty

/-- The lines that are left of parts without comments, white space at their ends and blank lines. -/
def codeLines (ps : List Part) : List (List Char) :=
  proseLines (code ps)

/-- Whether all comments are line comments, on lines that do not begin inside a literal; the current line does or
does not. -/
def onlyLineComments : Bool → List Part → Bool
  | _, [] => true
  | inside, .space c :: ps => onlyLineComments (inside && c ≠ '\n') ps
  | inside, .token t :: ps => onlyLineComments (inside || t.contains '\n') ps
  | inside, .comment ('/' :: '/' :: _) :: ps => !inside && onlyLineComments inside ps
  | _, .comment _ :: _ => false

variable {cs out : List Char} {ps : List Part}

theorem code_cons (p : Part) (ps : List Part) : code (p :: ps) = p.code ++ code ps := rfl

theorem text_partsFrom {bound : Nat} (h : partsFrom bound cs = some ps) : ps.flatMap Part.text = cs := by
  induction bound generalizing cs ps with
  | zero => cases h
  | succ bound ih =>
    cases cs with
    | nil => cases h; rfl
    | cons c cs =>
      rw [partsFrom] at h
      split at h
      · obtain ⟨rest, hrest, rfl⟩ := Option.map_eq_some_iff.mp h
        rw [List.flatMap_cons, ih hrest]
        rfl
      · split at h
        · obtain ⟨rest, hrest, rfl⟩ := Option.map_eq_some_iff.mp h
          rw [List.flatMap_cons, ih hrest]
          exact List.take_append_drop _ _
        · split at h
          · obtain ⟨rest, hrest, rfl⟩ := Option.map_eq_some_iff.mp h
            rw [List.flatMap_cons, ih hrest]
            exact List.take_append_drop _ _
          · cases h

/-- A source is its parts, one behind the other. -/
theorem text_parts {source : String} (h : parts source = some ps) : ps.flatMap Part.text = source.toList := by
  unfold parts at h
  split at h
  · rename_i cs hmark
    obtain ⟨rest, hrest, rfl⟩ := Option.map_eq_some_iff.mp h
    rw [List.flatMap_cons, text_partsFrom hrest, hmark]
    rfl
  · exact text_partsFrom h

/-! ## Stripping twice -/

/-- A line that has been stripped is not stripped of more. -/
theorem stripFrom_stripFrom (q : Option Char) (x : List Char) : stripFrom q (stripFrom q x) = stripFrom q x := by
  fun_induction stripFrom q x with
  | case1 q => cases q <;> rfl
  | case2 q cs ih => rw [stripFrom_close, ih]
  | case3 q c hne hescape =>
    rw [stripFrom, if_neg hne, if_pos hescape]
  | case4 q c hne hescape d ds ih =>
    obtain ⟨rfl, hq⟩ := hescape
    rw [stripFrom_escape hne hq, ih]
  | case5 q c cs hne hescape ih => rw [stripFrom_inside hne hescape, ih]
  | case6 c cs hquote ih => rw [stripFrom_open hquote, ih]
  | case7 c cs hquote hslash => rfl
  | case8 c cs hquote hslash ih =>
    have hslash' : ¬(c = '/' ∧ (stripFrom none cs).head? = some '/') := by
      rintro ⟨hc, hhead⟩
      obtain ⟨rest, hcs, -⟩ := exists_stripFrom none cs
      obtain ⟨ds, hds⟩ := List.head?_eq_some_iff.mp hhead
      refine hslash ⟨hc, ?_⟩
      rw [hcs, hds]
      rfl
    rw [stripFrom_plain (eq_false_of_ne_true hquote) hslash', ih]

/-! ## Texts without line comments -/

/-- A text, from somewhere in a line on that began inside a literal or not, and what is left of it without line
comments. The lines behind are compared alike; the first is the same, or stripping takes just the comment. -/
def Stripped (inside : Bool) (cs out : List Char) : Prop :=
  ∃ l ls l' ls', pieces cs = l :: ls ∧ pieces out = l' :: ls' ∧ kept ls = kept ls' ∧
    (l = l' ∨ inside = false ∧ stripFrom none l = l')

namespace Stripped

variable {inside : Bool}

/-- From the start of a line on, the lines are compared alike. -/
theorem kept_eq (h : Stripped false cs out) : kept (pieces cs) = kept (pieces out) := by
  obtain ⟨l, ls, l', ls', hcs, hout, hrest, hline⟩ := h
  have hclean : clean l = clean l' := by
    rcases hline with rfl | ⟨-, rfl⟩
    · rfl
    · unfold clean stripComment
      rw [stripFrom_stripFrom]
  rw [hcs, hout, kept_cons, kept_cons, hclean, hrest]

theorem nil : Stripped inside [] [] := ⟨[], [], [], [], rfl, rfl, rfl, .inl rfl⟩

theorem of_inside (h : Stripped true cs out) : Stripped inside cs out := by
  obtain ⟨l, ls, l', ls', hcs, hout, hrest, hline⟩ := h
  refine ⟨l, ls, l', ls', hcs, hout, hrest, .inl ?_⟩
  rcases hline with hline | ⟨hinside, -⟩
  · exact hline
  · cases hinside

/-- A line break ends the line that began inside a literal. -/
theorem newline (h : Stripped false cs out) : Stripped inside ('\n' :: cs) ('\n' :: out) :=
  ⟨[], pieces cs, [], pieces out, pieces_newline cs, pieces_newline out, h.kept_eq, .inl rfl⟩

/-- White space on a line. -/
theorem blank {c : Char} (hc : c ≠ '\n') (hquote : isQuote c = false) (hslash : c ≠ '/') (h : Stripped inside cs out) :
    Stripped inside (c :: cs) (c :: out) := by
  obtain ⟨l, ls, l', ls', hcs, hout, hrest, hline⟩ := h
  refine ⟨c :: l, ls, c :: l', ls', pieces_cons hc hcs, pieces_cons hc hout, hrest, ?_⟩
  rcases hline with rfl | ⟨hinside, rfl⟩
  · exact .inl rfl
  · exact .inr ⟨hinside, stripFrom_plain hquote fun hboth => hslash hboth.1⟩

/-- On a line that began inside a literal nothing is taken away. -/
theorem append (x : List Char) (h : Stripped true cs out) : Stripped true (x ++ cs) (x ++ out) := by
  induction x with
  | nil => exact h
  | cons c x ih =>
    by_cases hc : c = '\n'
    · subst hc
      exact ih.of_inside.newline
    · obtain ⟨l, ls, l', ls', hcs, hout, hrest, hline⟩ := ih
      refine ⟨c :: l, ls, c :: l', ls', pieces_cons hc hcs, pieces_cons hc hout, hrest, .inl ?_⟩
      rcases hline with rfl | ⟨hinside, -⟩
      · rfl
      · cases hinside

/-- A token on one line. -/
theorem token {kind : TokenKind} {n : Nat} (hstart : StartsToken cs) (hlexeme : lexeme? cs = some (kind, n))
    (hbreak : '\n' ∉ cs.take n) (h : Stripped inside (cs.drop n) out) : Stripped inside cs (cs.take n ++ out) := by
  obtain ⟨l, ls, l', ls', hcs, hout, hrest, hline⟩ := h
  have hpieces := pieces_append hbreak hcs
  rw [List.take_append_drop] at hpieces
  refine ⟨_, ls, _, ls', hpieces, pieces_append hbreak hout, hrest, ?_⟩
  rcases hline with rfl | ⟨hinside, rfl⟩
  · exact .inl rfl
  · exact .inr ⟨hinside, stripFrom_token hstart hlexeme fun c => head_of_line hcs⟩

/-- A line comment is taken away. -/
theorem comment {x : List Char} (hbreak : '\n' ∉ x) (hend : ∀ c ∈ cs.head?, c = '\n') (h : Stripped false cs out) :
    Stripped false ('/' :: '/' :: x ++ cs) out := by
  obtain ⟨l, ls, l', ls', hcs, hout, hrest, hline⟩ := h
  obtain rfl : l = [] := by
    cases l with
    | nil => rfl
    | cons c l =>
      -- the line would go on behind the comment
      obtain rfl := hend c (head_of_line hcs rfl)
      obtain ⟨ds, rfl⟩ := List.head?_eq_some_iff.mp (head_of_line hcs rfl)
      rw [pieces_newline] at hcs
      cases hcs
  obtain rfl : l' = [] := by
    rcases hline with rfl | ⟨-, rfl⟩ <;> rfl
  have hslashes : '\n' ∉ '/' :: '/' :: x := by simpa using hbreak
  exact ⟨_, ls, [], ls', pieces_append hslashes hcs, hout, hrest, .inr ⟨rfl, stripFrom_comment _⟩⟩

end Stripped

/-- A line comment reaches up to the end of its line. -/
theorem exists_lineComment {inside : Bool} {n : Nat} (h : commentLength cs = some n)
    (hline : onlyLineComments inside (.comment (cs.take n) :: ps)) :
    ∃ x, cs.take n = '/' :: '/' :: x ∧ '\n' ∉ x ∧ (∀ c ∈ (cs.drop n).head?, c = '\n') ∧
      inside = false ∧ onlyLineComments false ps := by
  unfold commentLength at h
  split at h
  · rename_i rest
    cases h
    have hsplit : rest.takeWhile (· ≠ '\n') ++ rest.dropWhile (· ≠ '\n') = rest := List.takeWhile_append_dropWhile
    obtain ⟨htake, hdrop⟩ := List.append_inj (hsplit.trans (List.take_append_drop _ _).symm)
      (List.length_take_of_le (List.takeWhile_prefix _).length_le).symm
    rw [Nat.add_comm, List.take_succ_cons, List.take_succ_cons, ← htake] at hline ⊢
    rw [onlyLineComments, Bool.and_eq_true, Bool.not_eq_true'] at hline
    obtain ⟨rfl, hline⟩ := hline
    refine ⟨_, rfl, fun hmem => by simpa using List.mem_takeWhile_imp hmem, fun c hc => ?_, rfl, hline⟩
    rw [List.drop_succ_cons, List.drop_succ_cons, ← hdrop, Option.mem_def] at hc
    have hnot := List.head?_dropWhile_not (fun c : Char => decide (c ≠ '\n')) rest
    rw [hc] at hnot
    simpa using hnot
  · -- a general comment is none of those
    rename_i rest
    obtain ⟨m, -, rfl⟩ := Option.map_eq_some_iff.mp h
    rw [List.take_succ_cons, List.take_succ_cons] at hline
    cases hline
  · cases h

/-- What is left of a source whose comments are line comments. -/
theorem stripped_code {bound : Nat} {inside : Bool} (h : partsFrom bound cs = some ps)
    (hps : onlyLineComments inside ps) : Stripped inside cs (code ps) := by
  induction bound generalizing cs ps inside with
  | zero => cases h
  | succ bound ih =>
    cases cs with
    | nil => cases h; exact .nil
    | cons c cs =>
      rw [partsFrom] at h
      split at h
      · rename_i hspace
        obtain ⟨rest, hrest, rfl⟩ := Option.map_eq_some_iff.mp h
        have hstripped : Stripped (inside && c ≠ '\n') cs (code rest) := ih hrest hps
        rw [code_cons]
        by_cases hc : c = '\n'
        · subst hc
          exact Stripped.newline (by simpa using hstripped)
        · obtain ⟨hquote, hslash⟩ := plain_of_space hspace
          exact .blank hc hquote hslash (by simpa [hc] using hstripped)
      · rename_i hspace
        split at h
        · rename_i n hlength
          obtain ⟨rest, hrest, rfl⟩ := Option.map_eq_some_iff.mp h
          rw [code_cons]
          obtain ⟨x, htake, hbreak, hend, hoff, hlater⟩ := exists_lineComment hlength hps
          subst hoff
          have hstripped := ih hrest hlater
          have hcomment := Stripped.comment hbreak hend hstripped
          rwa [← htake, List.take_append_drop] at hcomment
        · rename_i hcomment
          split at h
          · rename_i kind n hlexeme
            obtain ⟨rest, hrest, rfl⟩ := Option.map_eq_some_iff.mp h
            have hstripped : Stripped (inside || ((c :: cs).take n).contains '\n') ((c :: cs).drop n) (code rest) :=
              ih hrest hps
            rw [code_cons]
            by_cases hbreak : '\n' ∈ (c :: cs).take n
            · -- the line on which the token ends begins inside it
              have hinside : Stripped true ((c :: cs).drop n) (code rest) := by
                simpa [hbreak] using hstripped
              have happend := hinside.append ((c :: cs).take n)
              rw [List.take_append_drop] at happend
              exact happend.of_inside
            · have hstart : StartsToken (c :: cs) := by
                refine ⟨?_, hcomment⟩
                rintro d ⟨⟩
                exact eq_false_of_ne_true hspace
              exact .token hstart hlexeme hbreak (by simpa [hbreak] using hstripped)
          · cases h

theorem stripped_parts {source : String} (h : parts source = some ps) (hps : onlyLineComments false ps) :
    Stripped false source.toList (code ps) := by
  unfold parts at h
  split at h
  · rename_i cs hmark
    obtain ⟨rest, hrest, rfl⟩ := Option.map_eq_some_iff.mp h
    rw [hmark, code_cons]
    exact .blank (by decide) (by decide) (by decide) (stripped_code hrest hps)
  · exact stripped_code h hps

/-! ## Comparison -/

/-- The lines of code are all that is compared of a text without comments. -/
theorem kept_proseLines (cs : List Char) : kept (proseLines cs) = kept (pieces cs) := by
  have hlines (ls : List (List Char)) : kept ((ls.map dropBlankEnd).filter fun l => !l.isEmpty) = kept ls := by
    induction ls with
    | nil => rfl
    | cons l ls ih =>
      rw [List.map_cons, List.filter_cons, kept_cons, ← clean_dropBlankEnd]
      split
      · rw [kept_cons, ih]
      · rename_i hempty
        rw [Bool.not_eq_true, Bool.not_eq_false', List.isEmpty_iff] at hempty
        rw [hempty, ih]
        rfl
  exact hlines (pieces cs)

/-- What is compared of a source with no comments but line comments depends on its lines of code. -/
theorem kept_codeLines {source : String} (h : parts source = some ps) (hps : onlyLineComments false ps) :
    kept (pieces source.toList) = kept (codeLines ps) := by
  rw [(stripped_parts h hps).kept_eq, codeLines, kept_proseLines]

/-- **Line comments make no difference** where they stand on lines that begin outside literals: two sources with the same lines
of code agree, whatever comments stand behind or between those. Other comments are differences (`compare_general_comment`,
`compare_comment_behind_raw`). -/
theorem compare_ignores_comments {expected actual : String} {es as : List Part} (hexpected : parts expected = some es)
    (hactual : parts actual = some as) (hes : onlyLineComments false es) (has : onlyLineComments false as)
    (h : codeLines es = codeLines as) : compare expected actual = .agree := by
  rw [compare_eq_agree_iff, kept_codeLines hexpected hes, kept_codeLines hactual has, h]

/-- Comments with quotes and slashes, behind code and alone, before and behind a literal of two lines. -/
theorem compare_ignores_comments_quoted :
    ∃ es as, parts "// it's // one\nx := \x60a // \x22\n// b\x60\n\ny := '/' // \x22\n" = some es ∧
      parts "x := \x60a // \x22\n// b\x60\ny := '/'\n" = some as ∧
      onlyLineComments false es ∧ onlyLineComments false as ∧ codeLines es = codeLines as ∧
      compare "// it's // one\nx := \x60a // \x22\n// b\x60\n\ny := '/' // \x22\n"
        "x := \x60a // \x22\n// b\x60\ny := '/'\n" = .agree := by
  have hlines : (parts "// it's // one\nx := \x60a // \x22\n// b\x60\n\ny := '/' // \x22\n").any (onlyLineComments false) ∧
      (parts "x := \x60a // \x22\n// b\x60\ny := '/'\n").any (onlyLineComments false) ∧
      (parts "// it's // one\nx := \x60a // \x22\n// b\x60\n\ny := '/' // \x22\n").map codeLines =
        (parts "x := \x60a // \x22\n// b\x60\ny := '/'\n").map codeLines := by decide +kernel
  obtain ⟨hes, has, heq⟩ := hlines
  obtain ⟨es, hexpected, hes⟩ := (Option.any_eq_true _ _).mp hes
  obtain ⟨as, hactual, has⟩ := (Option.any_eq_true _ _).mp has
  rw [hexpected, hactual, Option.map_some, Option.map_some, Option.some.injEq] at heq
  exact ⟨es, as, hexpected, hactual, hes, has, heq, compare_ignores_comments hexpected hactual hes has heq⟩

/-- A general comment is a difference. -/
theorem compare_general_comment :
    (parts "var x = 1 /* one */\n").map codeLines = some ["var x = 1".toList] ∧
      (parts "var x = 1\n").map codeLines = some ["var x = 1".toList] ∧
      compare "var x = 1 /* one */\n" "var x = 1\n" = .differ 1 "var x = 1 /* one */" "var x = 1" := by
  decide +kernel

/-- A line comment is a difference on a line that begins inside a literal. -/
theorem compare_comment_behind_raw :
    (parts "var s = \x60a\nb\x60 // c\n").map codeLines = some ["var s = \x60a".toList, "b\x60".toList] ∧
      (parts "var s = \x60a\nb\x60\n").map codeLines = some ["var s = \x60a".toList, "b\x60".toList] ∧
      compare "var s = \x60a\nb\x60 // c\n" "var s = \x60a\nb\x60\n" = .differ 2 "b\x60 // c" "b\x60" := by
  decide +kernel

end GoRebuild.Verify
