import GoRebuild.Proofs.Lexical.Scans
import GoRebuild.Proofs.Verify.Literals

/-!
# What an agreement says

Lines are compared, and what is dropped from them is found without regard to what a literal or comment has begun on
an earlier line, or in a comment before on the same line.

* `isLineWise` : a token stands on one line, and a general comment has nothing in it that opens a literal or
  looks like a line comment;
* `cleaned` : a text as it is compared, from somewhere in a line on;
* `scans_cleaned` : where all spans are so, cleaning keeps the tokens;
* `lineWise` : a source of such spans; two of them that agree have the same tokens (`compare_sound`);
* `compare_agree_raw` : a line of a raw string may be lost otherwise.
-/

namespace GoRebuild.Verify
open Text Lexical

/-! ## Spans that lines do not cut -/

/-- Whether two slashes follow each other. -/
def hasSlashes : List Char → Bool
  | '/' :: '/' :: _ => true
  | _ :: cs => hasSlashes cs
  | [] => false

/-- Whether a span is the same read line by line: a token on one line, a line comment, or a general comment
without quotes and double slashes, also at its end. -/
def isLineWise : Span → Bool
  | .token t => !t.text.toList.contains '\n'
  | .comment ('/' :: '/' :: _) _ => true
  | .comment text next => !text.any isQuote && !hasSlashes (text ++ next.toList)

theorem hasSlashes_cons {c : Char} {cs : List Char} (h : hasSlashes (c :: cs) = false) :
    ¬(c = '/' ∧ cs.head? = some '/') ∧ hasSlashes cs = false := by
  by_cases hslash : c = '/' ∧ cs.head? = some '/'
  · obtain ⟨rfl, hhead⟩ := hslash
    obtain ⟨ds, rfl⟩ := List.head?_eq_some_iff.mp hhead
    cases h
  · refine ⟨hslash, ?_⟩
    rwa [hasSlashes] at h
    rintro ds rfl rfl
    exact hslash ⟨rfl, rfl⟩

/-! ## Cleaning a text -/

/-- What is dropped from a line begins where a token can end. -/
theorem exists_clean (l : List Char) : ∃ rest, l = clean l ++ rest ∧ Breaks rest := by
  obtain ⟨cut, hcut, hslash⟩ := exists_stripFrom none l
  obtain ⟨white, hwhite, hall⟩ := exists_blank_end (stripFrom none l)
  refine ⟨white ++ cut, ?_, .append ?_ ?_⟩
  · rw [clean, stripComment, ← List.append_assoc, ← hwhite]
    exact hcut
  · cases white with
    | nil => exact .nil
    | cons c white =>
      rw [List.all_cons, Bool.and_eq_true] at hall
      exact .cons (break_of_blank hall.1) white
  · intro c hc
    rw [hslash c hc]
    decide

/-- Lines with their ends. -/
def joined (lines : List (List Char)) : List Char :=
  lines.flatMap (· ++ ['\n'])

/-- A text as it is compared, from somewhere in a line on. -/
def cleaned (cs : List Char) : List Char :=
  match pieces cs with
  | [] => ['\n']
  | l :: ls => clean l ++ '\n' :: joined (kept ls)

variable {cs l : List Char} {ls : List (List Char)}

/-- A text is its first line and what follows it. -/
theorem exists_line (h : pieces cs = l :: ls) : ∃ rest, cs = l ++ rest ∧ ∀ c ∈ rest.head?, c = '\n' := by
  induction cs generalizing l ls with
  | nil =>
    cases h
    exact ⟨[], rfl, nofun⟩
  | cons c cs ih =>
    by_cases hc : c = '\n'
    · subst hc
      rw [pieces_newline] at h
      cases h
      refine ⟨'\n' :: cs, rfl, ?_⟩
      rintro d ⟨⟩
      rfl
    · obtain ⟨l', ls', h'⟩ := exists_pieces cs
      rw [pieces_cons hc h'] at h
      cases h
      obtain ⟨rest, rfl, hrest⟩ := ih h'
      exact ⟨rest, rfl, hrest⟩

theorem head_of_line {c : Char} (h : pieces cs = l :: ls) (hhead : l.head? = some c) : cs.head? = some c := by
  obtain ⟨rest, rfl, -⟩ := exists_line h
  obtain ⟨l', rfl⟩ := List.head?_eq_some_iff.mp hhead
  rfl

theorem cleaned_eq (h : pieces cs = l :: ls) : cleaned cs = clean l ++ '\n' :: joined (kept ls) := by
  rw [cleaned, h]

/-- The first character of a clean text is that of the text, or a line break. -/
theorem head_cleaned (cs : List Char) {c : Char} (h : (cleaned cs).head? = some c) : cs.head? = some c ∨ c = '\n' := by
  obtain ⟨l, ls, hpieces⟩ := exists_pieces cs
  rw [cleaned_eq hpieces] at h
  cases hclean : clean l with
  | nil =>
    rw [hclean] at h
    cases h
    exact .inr rfl
  | cons d ds =>
    rw [hclean] at h
    cases h
    obtain ⟨rest, hl, -⟩ := exists_clean l
    refine .inl (head_of_line hpieces ?_)
    rw [hl, hclean]
    rfl

theorem joined_kept_pieces (cs : List Char) :
    '\n' :: joined (kept (pieces cs)) = '\n' :: cleaned cs ∨ '\n' :: joined (kept (pieces cs)) = cleaned cs := by
  obtain ⟨l, ls, h⟩ := exists_pieces cs
  rw [cleaned_eq h, h, kept_cons]
  split
  · rename_i hempty
    right
    rw [hempty]
    rfl
  · left
    simp [joined]

/-- A line break stays, or the line that it ends is dropped. -/
theorem cleaned_newline (cs : List Char) : cleaned ('\n' :: cs) = '\n' :: cleaned cs ∨ cleaned ('\n' :: cs) = cleaned cs := by
  rw [cleaned_eq (pieces_newline cs)]
  exact joined_kept_pieces cs

/-- A character that is stripped of nothing stays, or it is white space at the end of its line. -/
theorem cleaned_cons {c : Char} (hc : c ≠ '\n') (hquote : isQuote c = false)
    (hslash : ¬(c = '/' ∧ cs.head? = some '/')) :
    cleaned (c :: cs) = c :: cleaned cs ∨ isBlank c ∧ cleaned (c :: cs) = cleaned cs := by
  obtain ⟨l, ls, h⟩ := exists_pieces cs
  have hstrip : stripFrom none (c :: l) = c :: stripFrom none l :=
    stripFrom_plain hquote fun hboth => hslash ⟨hboth.1, head_of_line h hboth.2⟩
  have hclean : clean (c :: l) = if clean l = [] then dropBlankEnd [c] else c :: clean l := by
    rw [clean, stripComment, hstrip]
    exact dropBlankEnd_append [c] (stripFrom none l)
  rw [cleaned_eq (pieces_cons hc h), cleaned_eq h, hclean]
  split
  · rename_i hempty
    rw [hempty]
    cases hblank : isBlank c with
    | true => exact .inr ⟨rfl, by rw [dropBlankEnd_eq_nil_of_blank (by simpa using hblank)]⟩
    | false =>
      left
      rw [dropBlankEnd_eq_self]
      · rfl
      · rintro d ⟨⟩
        exact hblank
  · exact .inl rfl

/-- What is stripped of nothing stays. -/
theorem cleaned_append {x : List Char} (hx : '\n' ∉ x) (hlast : ∀ c ∈ x.getLast?, isBlank c = false)
    (hstrip : ∀ l, (∀ c, l.head? = some c → cs.head? = some c) → stripFrom none (x ++ l) = x ++ stripFrom none l) :
    cleaned (x ++ cs) = x ++ cleaned cs := by
  obtain ⟨l, ls, h⟩ := exists_pieces cs
  have hclean : clean (x ++ l) = x ++ clean l := by
    rw [clean, stripComment, hstrip l fun c => head_of_line h, dropBlankEnd_append]
    split
    · rename_i hempty
      rw [dropBlankEnd_eq_self hlast, clean, stripComment, hempty, List.append_nil]
    · rfl
  rw [cleaned_eq (pieces_append hx h), cleaned_eq h, hclean, List.append_assoc]

/-! ## Tokens -/

theorem stripFrom_plains {y : List Char} (hy : ∀ c ∈ y, isQuote c = false ∧ c ≠ '/') (l : List Char) :
    stripFrom none (y ++ l) = y ++ stripFrom none l := by
  induction y with
  | nil => rfl
  | cons c y ih =>
    obtain ⟨hquote, hslash⟩ := hy c List.mem_cons_self
    rw [List.cons_append, stripFrom_plain hquote fun hboth => hslash hboth.1,
      ih fun d hd => hy d (List.mem_cons_of_mem c hd), List.cons_append]

variable {kind : TokenKind} {n : Nat}

/-- What follows a token on its line is stripped by itself. -/
theorem stripFrom_token (hstart : StartsToken cs) (h : lexeme? cs = some (kind, n)) {l : List Char}
    (hl : ∀ c, l.head? = some c → (cs.drop n).head? = some c) :
    stripFrom none (cs.take n ++ l) = cs.take n ++ stripFrom none l := by
  obtain ⟨c, v, rfl⟩ := List.exists_cons_of_ne_nil (lexeme_ne_nil h)
  cases hquote : isQuote c with
  | true =>
    obtain ⟨x, htake, hx, -⟩ := exists_inside hquote h
    rw [htake]
    exact hx.strip hquote l
  | false =>
    have hplain := not_break_of_lexeme hquote h
    obtain ⟨m, rfl⟩ : ∃ m, n = m + 1 := ⟨n - 1, by have := lexeme_pos h; omega⟩
    rw [Nat.add_sub_cancel] at hplain
    rw [List.take_succ_cons, List.cons_append, stripFrom_plain hquote,
      stripFrom_plains fun d hd => plain_of_not_break (hplain d hd), List.cons_append]
    rintro ⟨rfl, hhead⟩
    -- two slashes would be a comment
    have hcomment := hstart.comment
    cases htake : v.take m with
    | nil =>
      rw [htake, List.nil_append] at hhead
      have hdrop := hl _ hhead
      rw [List.drop_succ_cons] at hdrop
      have hv : v.drop m = v := by
        conv_rhs => rw [← List.take_append_drop m v, htake, List.nil_append]
      rw [hv] at hdrop
      obtain ⟨ds, rfl⟩ := List.head?_eq_some_iff.mp hdrop
      cases hcomment
    | cons e es =>
      rw [htake] at hhead hplain
      cases hhead
      exact (plain_of_not_break (hplain '/' List.mem_cons_self)).2 rfl

/-- A token does not end with white space. -/
theorem not_blank_last_of_lexeme (h : lexeme? cs = some (kind, n)) : ∀ c ∈ (cs.take n).getLast?, isBlank c = false := by
  obtain ⟨c, v, rfl⟩ := List.exists_cons_of_ne_nil (lexeme_ne_nil h)
  cases hquote : isQuote c with
  | true =>
    obtain ⟨x, htake, -, -⟩ := exists_inside hquote h
    rw [htake, List.getLast?_concat]
    rintro d ⟨⟩
    exact not_blank_of_lexeme h
  | false =>
    have hplain := not_break_of_lexeme hquote h
    obtain ⟨m, rfl⟩ : ∃ m, n = m + 1 := ⟨n - 1, by have := lexeme_pos h; omega⟩
    rw [Nat.add_sub_cancel] at hplain
    rw [List.take_succ_cons]
    cases htake : v.take m with
    | nil =>
      rintro d ⟨⟩
      exact not_blank_of_lexeme h
    | cons e es =>
      rw [htake] at hplain
      intro d hd
      rw [List.getLast?_cons_cons] at hd
      exact not_blank_of_not_break (hplain d (List.mem_of_getLast? hd))

/-- A token on one line stays as it is. -/
theorem cleaned_token (hstart : StartsToken cs) (h : lexeme? cs = some (kind, n)) (hline : '\n' ∉ cs.take n) :
    cleaned cs = cs.take n ++ cleaned (cs.drop n) := by
  conv_lhs => rw [← List.take_append_drop n cs]
  exact cleaned_append hline (not_blank_last_of_lexeme h) fun l hl => stripFrom_token hstart h hl

/-- A token on one line is the same before what is left of the text. -/
theorem lexeme_cleaned (h : lexeme? cs = some (kind, n)) :
    lexeme? (cs.take n ++ cleaned (cs.drop n)) = some (kind, n) := by
  obtain ⟨c, v, rfl⟩ := List.exists_cons_of_ne_nil (lexeme_ne_nil h)
  cases hquote : isQuote c with
  | true =>
    obtain ⟨x, -, -, hself⟩ := exists_inside hquote h
    exact hself _
  | false =>
    -- up to the end of the line both texts are alike, and no token goes on there
    obtain ⟨m, rfl⟩ : ∃ m, n = m + 1 := ⟨n - 1, by have := lexeme_pos h; omega⟩
    rw [List.take_succ_cons, List.drop_succ_cons]
    obtain ⟨l, ls, hpieces⟩ := exists_pieces (v.drop m)
    obtain ⟨below, hbelow, hnewline⟩ := exists_line hpieces
    obtain ⟨rest, hrest, hbreaks⟩ := exists_clean l
    have hbreaks' : Breaks (rest ++ below) := hbreaks.append fun d hd => by rw [hnewline d hd]; decide
    have hv : c :: v = c :: (v.take m ++ clean l) ++ (rest ++ below) := by
      rw [List.cons_append, List.append_assoc, ← List.append_assoc (clean l), ← hrest, ← hbelow, List.take_append_drop]
    have hcleaned : c :: v.take m ++ cleaned (v.drop m) =
        c :: (v.take m ++ clean l) ++ '\n' :: joined (kept ls) := by
      rw [cleaned_eq hpieces, List.cons_append, List.cons_append, List.append_assoc]
    rw [hv, lexeme_append hbreaks' hquote] at h
    rw [hcleaned, lexeme_append (.cons (by decide) _) hquote]
    exact h

/-! ## Comments -/

/-- A general comment is closed exactly if its end comes at all. -/
theorem commentTailLength_eq_none_iff {cs : List Char} : commentTailLength cs = none ↔ ¬['*', '/'] <:+: cs := by
  fun_induction commentTailLength cs with
  | case1 => simp
  | case2 cs => simpa using (List.prefix_append ['*', '/'] cs).isInfix
  | case3 c cs hne ih =>
    have hprefix : ¬['*', '/'] <+: c :: cs := by
      rintro ⟨rest, heq⟩
      cases heq
      exact hne rest rfl rfl
    simp [List.infix_cons_iff, hprefix, ih]

theorem infix_of_lines {x y : List Char} (h : ['*', '/'] <:+: x ++ '\n' :: y) : ['*', '/'] <:+: x ∨ ['*', '/'] <:+: y := by
  induction x with
  | nil =>
    rw [List.nil_append, List.infix_cons_iff] at h
    rcases h with ⟨rest, heq⟩ | h
    · cases heq
    · exact .inr h
  | cons c x ih =>
    rw [List.cons_append, List.infix_cons_iff] at h
    rcases h with ⟨rest, heq⟩ | h
    · cases x with
      | nil => cases heq
      | cons d x =>
        cases heq
        exact .inl (List.prefix_append ['*', '/'] x).isInfix
    · exact (ih h).imp_left fun hx => hx.trans (List.suffix_cons c x).isInfix

theorem infix_of_clean {l : List Char} (h : ['*', '/'] <:+: clean l) : ['*', '/'] <:+: l := by
  obtain ⟨rest, hl, -⟩ := exists_clean l
  exact h.trans ⟨[], rest, by rw [List.nil_append, ← hl]⟩

theorem infix_of_joined (h : ['*', '/'] <:+: joined (kept ls)) : ∃ l ∈ ls, ['*', '/'] <:+: l := by
  induction ls with
  | nil => cases List.infix_nil.mp h
  | cons l ls ih =>
    have hrest (h : ['*', '/'] <:+: joined (kept ls)) : ∃ k ∈ l :: ls, ['*', '/'] <:+: k := by
      obtain ⟨k, hk, hinfix⟩ := ih h
      exact ⟨k, List.mem_cons_of_mem l hk, hinfix⟩
    rw [kept_cons] at h
    split at h
    · exact hrest h
    · have hlines : joined (clean l :: kept ls) = clean l ++ '\n' :: joined (kept ls) := by simp [joined]
      rw [hlines] at h
      rcases infix_of_lines h with h | h
      · exact ⟨l, List.mem_cons_self, infix_of_clean h⟩
      · exact hrest h

theorem infix_of_mem_pieces (h : l ∈ pieces cs) : l <:+: cs := by
  induction cs generalizing l with
  | nil =>
    cases List.mem_singleton.mp h
    exact List.infix_rfl
  | cons c cs ih =>
    by_cases hc : c = '\n'
    · subst hc
      rw [pieces_newline] at h
      cases h with
      | head => exact List.nil_infix
      | tail _ h => exact (ih h).trans (List.suffix_cons _ cs).isInfix
    · obtain ⟨l', ls', h'⟩ := exists_pieces cs
      rw [pieces_cons hc h'] at h
      cases h with
      | head =>
        obtain ⟨rest, hrest, -⟩ := exists_line h'
        exact ⟨[], rest, by rw [List.nil_append, List.cons_append, ← hrest]⟩
      | tail _ h => exact (ih (h' ▸ List.mem_cons_of_mem l' h)).trans (List.suffix_cons c cs).isInfix

/-- No comment is closed in the clean text that is not closed in the text. -/
theorem infix_of_cleaned (h : ['*', '/'] <:+: cleaned cs) : ['*', '/'] <:+: cs := by
  obtain ⟨l, ls, hpieces⟩ := exists_pieces cs
  rw [cleaned_eq hpieces] at h
  rcases infix_of_lines h with h | h
  · exact (infix_of_clean h).trans (infix_of_mem_pieces (hpieces ▸ List.mem_cons_self))
  · obtain ⟨k, hk, hinfix⟩ := infix_of_joined h
    exact hinfix.trans (infix_of_mem_pieces (hpieces ▸ List.mem_cons_of_mem l hk))

theorem commentLength_of_second {d : Char} (hslash : d ≠ '/') (hstar : d ≠ '*') (c : Char) (cs : List Char) :
    commentLength (c :: d :: cs) = none := by
  unfold commentLength
  split
  · rename_i heq
    cases heq
    exact absurd rfl hslash
  · rename_i heq
    cases heq
    exact absurd rfl hstar
  · rfl

/-- What begins a token begins one in the clean text. -/
theorem startsToken_cleaned (hstart : StartsToken cs) (h : lexeme? cs = some (kind, n)) :
    StartsToken (cs.take n ++ cleaned (cs.drop n)) := by
  obtain ⟨c, v, rfl⟩ := List.exists_cons_of_ne_nil (lexeme_ne_nil h)
  obtain ⟨m, rfl⟩ : ∃ m, n = m + 1 := ⟨n - 1, by have := lexeme_pos h; omega⟩
  rw [List.take_succ_cons, List.drop_succ_cons, List.cons_append]
  refine ⟨fun d hd => hstart.space d hd, ?_⟩
  have hcomment := hstart.comment
  by_cases hc : c = '/'
  · subst hc
    have hplain := not_break_of_lexeme (by decide) h
    rw [Nat.add_sub_cancel] at hplain
    cases htake : v.take m with
    | cons e es =>
      -- a longer symbol
      rw [htake] at hplain
      have he := hplain e List.mem_cons_self
      have hstar : e ≠ '*' := by
        rintro rfl
        cases he
      exact commentLength_of_second (plain_of_not_break he).2 hstar _ _
    | nil =>
      have hv : v.drop m = v := by
        conv_rhs => rw [← List.take_append_drop m v, htake, List.nil_append]
      rw [hv, List.nil_append]
      cases hclean : cleaned v with
      | nil => rfl
      | cons e es =>
        have hhead := head_cleaned v (c := e) (by rw [hclean]; rfl)
        by_cases hslash : e = '/'
        · subst hslash
          rcases hhead with hhead | hhead
          · obtain ⟨ds, rfl⟩ := List.head?_eq_some_iff.mp hhead
            cases hcomment
          · cases hhead
        by_cases hstar : e = '*'
        · subst hstar
          rcases hhead with hhead | hhead
          · -- the slash opens no comment, for none is closed
            obtain ⟨ds, rfl⟩ := List.head?_eq_some_iff.mp hhead
            rcases cleaned_cons (by decide) (by decide : isQuote '*' = false)
              (fun hboth => absurd hboth.1 (by decide)) with heq | ⟨hblank, -⟩
            · rw [hclean] at heq
              cases heq
              have hopen : commentTailLength ds = none := Option.map_eq_none_iff.mp hcomment
              refine Option.map_eq_none_iff.mpr (commentTailLength_eq_none_iff.mpr fun h => ?_)
              exact commentTailLength_eq_none_iff.mp hopen (infix_of_cleaned h)
            · cases hblank
          · cases hhead
        · exact commentLength_of_second hslash hstar _ _
  · exact commentLength_of_ne hc _

/-- A line comment is cut, up to the end of its line. -/
theorem cleaned_lineComment (v : List Char) :
    cleaned ('/' :: '/' :: v) = cleaned (v.dropWhile (· ≠ '\n')) := by
  have hsplit : '/' :: '/' :: v = '/' :: '/' :: v.takeWhile (· ≠ '\n') ++ v.dropWhile (· ≠ '\n') := by
    rw [List.cons_append, List.cons_append, List.takeWhile_append_dropWhile]
  have hline : '\n' ∉ '/' :: '/' :: v.takeWhile (· ≠ '\n') := by
    simp only [List.mem_cons, not_or]
    refine ⟨by decide, by decide, fun h => ?_⟩
    simpa using List.mem_takeWhile_imp h
  have hrest : ∃ ls, pieces (v.dropWhile (· ≠ '\n')) = [] :: ls := by
    cases hdrop : v.dropWhile (· ≠ '\n') with
    | nil => exact ⟨[], rfl⟩
    | cons c cs =>
      have hc := List.head?_dropWhile_not (fun c : Char => decide (c ≠ '\n')) v
      rw [hdrop] at hc
      simp only [List.head?_cons, decide_eq_false_iff_not, not_not] at hc
      subst hc
      exact ⟨_, pieces_newline cs⟩
  obtain ⟨ls, hpieces⟩ := hrest
  rw [hsplit, cleaned_eq (pieces_append hline hpieces), cleaned_eq hpieces]
  rfl

/-- The rest of a general comment stays one, with white space dropped from it. -/
theorem cleaned_commentTail {v : List Char} {m : Nat} (h : commentTailLength v = some m)
    (hquote : ∀ c ∈ v.take m, isQuote c = false) (hslashes : hasSlashes (v.take (m + 1)) = false) :
    ∃ k, commentTailLength (cleaned v) = some k ∧ (cleaned v).drop k = cleaned (v.drop m) := by
  fun_induction commentTailLength v generalizing m with
  | case1 => cases h
  | case2 v =>
    cases h
    have hnext : v.head? ≠ some '/' := by
      intro hhead
      obtain ⟨ds, rfl⟩ := List.head?_eq_some_iff.mp hhead
      cases hslashes
    have hclean : cleaned ('*' :: '/' :: v) = '*' :: '/' :: cleaned v := by
      refine @cleaned_append v ['*', '/'] (by decide) (by rintro _ ⟨⟩; decide) fun l hl => ?_
      rw [List.cons_append, List.cons_append, List.nil_append, stripFrom_plain (by decide), stripFrom_plain (by decide)]
      · rfl
      · exact fun hboth => hnext (hl _ hboth.2)
      · exact fun hboth => absurd hboth.1 (by decide)
    rw [hclean]
    exact ⟨2, rfl, rfl⟩
  | case3 c v hne ih =>
    obtain ⟨k, hk, rfl⟩ := Option.map_eq_some_iff.mp h
    rw [List.take_succ_cons] at hquote hslashes
    obtain ⟨hslash, hslashes⟩ := hasSlashes_cons hslashes
    obtain ⟨j, hj, hdrop⟩ := ih hk (fun d hd => hquote d (List.mem_cons_of_mem c hd)) hslashes
    have hhead : v.head? = (v.take (k + 1)).head? := by cases v <;> rfl
    have hkeep (heq : cleaned (c :: v) = c :: cleaned v) :
        ∃ j, commentTailLength (cleaned (c :: v)) = some j ∧ (cleaned (c :: v)).drop j = cleaned ((c :: v).drop (k + 1)) := by
      refine ⟨j + 1, ?_, ?_⟩
      · rw [heq, commentTailLength, hj]
        · rfl
        · -- the slash would come next in the text, too
          rintro ds rfl hds
          rcases head_cleaned v (c := '/') (by rw [hds]; rfl) with hnext | hnext
          · obtain ⟨es, rfl⟩ := List.head?_eq_some_iff.mp hnext
            exact hne es rfl rfl
          · cases hnext
      · rw [heq, List.drop_succ_cons, List.drop_succ_cons, hdrop]
    have hskip (heq : cleaned (c :: v) = cleaned v) :
        ∃ j, commentTailLength (cleaned (c :: v)) = some j ∧ (cleaned (c :: v)).drop j = cleaned ((c :: v).drop (k + 1)) :=
      ⟨j, by rw [heq, hj], by rw [heq, hdrop, List.drop_succ_cons]⟩
    by_cases hc : c = '\n'
    · subst hc
      exact (cleaned_newline v).elim hkeep hskip
    · rcases cleaned_cons hc (hquote c List.mem_cons_self) (by rwa [hhead]) with heq | ⟨-, heq⟩
      · exact hkeep heq
      · exact hskip heq

/-! ## Texts -/

theorem plain_of_space {c : Char} (h : isSpace c) : isQuote c = false ∧ c ≠ '/' := by
  have hne (d : Char) (hd : isSpace d = false) : c ≠ d := by
    rintro rfl
    rw [hd] at h
    cases h
  refine ⟨?_, hne '/' (by decide)⟩
  simp [isQuote, hne '"' (by decide), hne '\x60' (by decide), hne '\'' (by decide)]

/-- White space stays, or is dropped at the end of its line or with it. -/
theorem scans_cleaned_space {newLine : Bool} {c : Char} {spans : List Span} (hc : isSpace c)
    (h : Scans (newLine || c = '\n') (cleaned cs) spans) : Scans newLine (cleaned (c :: cs)) spans := by
  by_cases hnewline : c = '\n'
  · subst hnewline
    rcases cleaned_newline cs with hclean | hclean
    · rw [hclean]
      exact .space hc h
    · -- a line break comes first all the same
      rw [cleaned_eq (pieces_newline cs)] at hclean ⊢
      rw [← hclean] at h
      cases h with
      | space _ hrest => exact .space hc (by simpa using hrest)
      | comment hlength _ => cases hlength
      | token hstart _ _ => cases hstart.space '\n' rfl
  · obtain ⟨hquote, hslash⟩ := plain_of_space hc
    rcases cleaned_cons hnewline hquote fun hboth => hslash hboth.1 with hclean | ⟨-, hclean⟩
    · rw [hclean]
      exact .space hc h
    · rw [hclean]
      simpa [hnewline] using h

/-- A line comment is dropped, and a general comment stays one. -/
theorem scans_cleaned_comment {newLine : Bool} {spans : List Span} (hlength : commentLength cs = some n)
    (hline : isLineWise (.comment (cs.take n) (cs.drop n).head?))
    (h : Scans newLine (cleaned (cs.drop n)) spans) :
    ∃ others, Scans newLine (cleaned cs) others ∧ spellings others = spellings spans := by
  unfold commentLength at hlength
  split at hlength
  · rename_i v
    cases hlength
    have hsplit : v.takeWhile (· ≠ '\n') ++ v.dropWhile (· ≠ '\n') = v := List.takeWhile_append_dropWhile
    have hdrop : v.drop (v.takeWhile (· ≠ '\n')).length = v.dropWhile (· ≠ '\n') := by
      calc v.drop (v.takeWhile (· ≠ '\n')).length
          = (v.takeWhile (· ≠ '\n') ++ v.dropWhile (· ≠ '\n')).drop (v.takeWhile (· ≠ '\n')).length := by rw [hsplit]
        _ = v.dropWhile (· ≠ '\n') := List.drop_left
    rw [Nat.add_comm, List.drop_succ_cons, List.drop_succ_cons, hdrop, ← cleaned_lineComment] at h
    exact ⟨spans, h, rfl⟩
  · rename_i v
    obtain ⟨m, hm, rfl⟩ := Option.map_eq_some_iff.mp hlength
    rw [List.drop_succ_cons, List.drop_succ_cons] at h hline
    rw [List.take_succ_cons, List.take_succ_cons] at hline
    have htake : v.take m ++ (v.drop m).head?.toList = v.take (m + 1) := by
      rw [List.take_add, List.take_one]
    change (!('/' :: '*' :: v.take m).any isQuote &&
      !hasSlashes ('/' :: '*' :: (v.take m ++ (v.drop m).head?.toList))) = true at hline
    simp only [htake, Bool.and_eq_true, Bool.not_eq_true', List.any_cons, Bool.or_eq_false_iff] at hline
    obtain ⟨⟨-, -, hquote⟩, hslashes⟩ := hline
    obtain ⟨-, hslashes⟩ := hasSlashes_cons hslashes
    obtain ⟨-, hslashes⟩ := hasSlashes_cons hslashes
    obtain ⟨k, hk, hdrop⟩ := cleaned_commentTail hm (by simpa using hquote) hslashes
    have hclean : cleaned ('/' :: '*' :: v) = '/' :: '*' :: cleaned v := by
      refine @cleaned_append v ['/', '*'] (by decide) (by rintro _ ⟨⟩; decide) fun l _ => ?_
      rw [List.cons_append, List.cons_append, List.nil_append, stripFrom_plain (by decide) (by simp),
        stripFrom_plain (by decide) (by simp)]
      rfl
    have hcomment : commentLength ('/' :: '*' :: cleaned v) = some (k + 2) := by
      change (commentTailLength (cleaned v)).map (· + 2) = _
      rw [hk]
      rfl
    rw [hclean]
    rw [← hdrop] at h
    exact ⟨_, .comment hcomment h, rfl⟩
  · cases hlength

/-- Where lines cut no span, the tokens of a text are those of the clean text. -/
theorem scans_cleaned {newLine : Bool} {spans : List Span} (h : Scans newLine cs spans)
    (hspans : spans.all isLineWise) :
    ∃ others, Scans newLine (cleaned cs) others ∧ spellings others = spellings spans := by
  induction h with
  | @nil newLine => exact ⟨[], .space (by decide) .nil, rfl⟩
  | space hc _ ih =>
    obtain ⟨others, hothers, heq⟩ := ih hspans
    exact ⟨others, scans_cleaned_space hc hothers, heq⟩
  | comment hlength _ ih =>
    rw [List.all_cons, Bool.and_eq_true] at hspans
    obtain ⟨others, hothers, heq⟩ := ih hspans.2
    obtain ⟨all, hall, heq'⟩ := scans_cleaned_comment hlength hspans.1 hothers
    exact ⟨all, hall, heq'.trans heq⟩
  | @token newLine cs kind n spans hstart hlexeme _ ih =>
    rw [List.all_cons, Bool.and_eq_true] at hspans
    obtain ⟨others, hothers, heq⟩ := ih hspans.2
    have hline : '\n' ∉ cs.take n := by simpa [isLineWise] using hspans.1
    have hlength : (cs.take n).length = n := List.length_take_of_le (length_le_of_lexeme hlexeme)
    have htake : (cs.take n ++ cleaned (cs.drop n)).take n = cs.take n := List.take_left' hlength
    have hdrop : (cs.take n ++ cleaned (cs.drop n)).drop n = cleaned (cs.drop n) := List.drop_left' hlength
    have hscans := @Scans.token newLine _ _ _ _ (startsToken_cleaned hstart hlexeme) (lexeme_cleaned hlexeme)
      (hdrop ▸ hothers)
    rw [htake] at hscans
    rw [cleaned_token hstart hlexeme hline]
    exact ⟨_, hscans, congrArg (_ :: ·) heq⟩

/-! ## Agreement -/

/-- Whether a source is the same read line by line. -/
def lineWise (source : String) : Bool :=
  (spans source).any fun row => row.all isLineWise

theorem exists_spans {source : String} (h : lineWise source) :
    ∃ row, Scans false (body source) row ∧ row.all isLineWise := by
  unfold lineWise at h
  cases hrow : spans source with
  | none =>
    rw [hrow] at h
    cases h
  | some row =>
    rw [hrow] at h
    exact ⟨row, scans_of_spansFrom hrow, h⟩

/-- A byte order mark is kept. -/
theorem cleaned_mark (cs : List Char) : cleaned ('\ufeff' :: cs) = '\ufeff' :: cleaned cs := by
  rcases @cleaned_cons cs _ (by decide) (by decide : isQuote '\ufeff' = false)
    (fun hboth => absurd hboth.1 (by decide)) with heq | ⟨hblank, -⟩
  · exact heq
  · cases hblank

/-- A byte order mark is no part of a source but at its start. -/
theorem not_scans_mark {newLine : Bool} {spans : List Span} : ¬Scans newLine ('\ufeff' :: cs) spans := by
  intro h
  cases h with
  | space hc _ => cases hc
  | comment hlength _ => rw [commentLength_of_ne (by decide)] at hlength; cases hlength
  | token _ hlexeme _ =>
    have hnone := @lexeme_eq_none '\ufeff' (by decide +kernel) (by decide) (by decide) (by decide +kernel)
      (by decide +kernel) cs
    rw [hnone] at hlexeme
    cases hlexeme


/-- The lines that are compared, with a line break before them. -/
def comparedLines (source : String) : List Char :=
  '\n' :: joined (kept (pieces source.toList))

/-- The first token is taken to stand on a new line. -/
def firstOnLine (tokens : List Spelling) : List Spelling :=
  tokens.modifyHead fun t => ⟨t.kind, t.text, true⟩

/-- The lines that are compared have the tokens of the source, behind the byte order mark if it has one. -/
theorem exists_scans_compared {source : String} {row : List Span} (h : Scans false (body source) row)
    (hrow : row.all isLineWise) :
    ∃ others, spellings others = firstOnLine (spellings row) ∧
      (Scans true (comparedLines source) others ∨
        ∃ cs, comparedLines source = '\n' :: '\ufeff' :: cs ∧ Scans true cs others) := by
  obtain ⟨same, hsame, heq⟩ := scans_cleaned h hrow
  obtain ⟨others, hothers, hfirst⟩ := hsame.behindBreak
  rw [heq] at hfirst
  refine ⟨others, hfirst, ?_⟩
  unfold body at hothers
  split at hothers
  · rename_i cs hmark
    right
    refine ⟨cleaned cs, ?_, hothers⟩
    have hlines := joined_kept_pieces ('\ufeff' :: cs)
    rw [cleaned_mark] at hlines
    unfold comparedLines
    rw [hmark]
    rcases hlines with hlines | hlines
    · exact hlines
    · cases hlines
  · left
    rcases joined_kept_pieces source.toList with hlines | hlines
    · unfold comparedLines
      rw [hlines]
      exact .space (by decide) hothers
    · unfold comparedLines
      rw [hlines]
      exact hothers

theorem map_firstOnLine (tokens : List Spelling) :
    (firstOnLine tokens).map (fun t => (t.kind, t.text)) = tokens.map fun t => (t.kind, t.text) := by
  cases tokens <;> rfl

theorem tail_firstOnLine (tokens : List Spelling) : (firstOnLine tokens).tail = tokens.tail := by
  cases tokens <;> rfl

/-- Tokens that differ at most in a line break before the first. -/
theorem same_of_firstOnLine {ts us : List (Token × Cursor)}
    (h : firstOnLine (ts.map (·.1.spelling)) = firstOnLine (us.map (·.1.spelling))) :
    ts.map (fun t => (t.1.kind, t.1.text)) = us.map (fun t => (t.1.kind, t.1.text)) ∧
      ts.tail.map (·.1.newLine) = us.tail.map (·.1.newLine) := by
  constructor
  · have hmap := congrArg (List.map fun t : Spelling => (t.kind, t.text)) h
    rwa [map_firstOnLine, map_firstOnLine, List.map_map, List.map_map] at hmap
  · have htail := congrArg (fun row : List Spelling => row.tail.map Spelling.newLine) h
    simp only [tail_firstOnLine, ← List.map_tail, List.map_map] at htail
    exact htail

/-- **Sources that agree have the same tokens** and the same line breaks before all but the first, if both are the same read
line by line (`lineWise`): in neither a token goes over several lines, or a general comment holds a quote or two slashes.
Without that condition a line of a raw string may be lost (`compare_agree_raw`). -/
theorem compare_sound {expected actual : String} (hexpected : lineWise expected) (hactual : lineWise actual)
    (h : compare expected actual = .agree) :
    ∃ ts us, scan expected = some ts ∧ scan actual = some us ∧
      ts.map (fun t => (t.1.kind, t.1.text)) = us.map (fun t => (t.1.kind, t.1.text)) ∧
      ts.tail.map (·.1.newLine) = us.tail.map (·.1.newLine) := by
  obtain ⟨row, hrow, hall⟩ := exists_spans hexpected
  obtain ⟨row', hrow', hall'⟩ := exists_spans hactual
  obtain ⟨ts, hscan, hts⟩ := hrow.scan
  obtain ⟨us, hscan', hus⟩ := hrow'.scan
  have hlines : comparedLines expected = comparedLines actual := by
    rw [comparedLines, compare_eq_agree_iff.mp h, comparedLines]
  obtain ⟨others, hfirst, hothers⟩ := exists_scans_compared hrow hall
  obtain ⟨others', hfirst', hothers'⟩ := exists_scans_compared hrow' hall'
  have hunmarked {source : String} {cs : List Char} {o : List Span} (hmark : comparedLines source = '\n' :: '\ufeff' :: cs)
      (hscans : Scans true (comparedLines source) o) : False := by
    rw [hmark] at hscans
    cases hscans with
    | space _ hrest => exact not_scans_mark hrest
    | comment hlength _ => cases hlength
    | token hstart _ _ => cases hstart.space '\n' rfl
  have hsame : others = others' := by
    rcases hothers with hothers | ⟨cs, hmark, hothers⟩
    · rcases hothers' with hothers' | ⟨cs, hmark, -⟩
      · rw [hlines] at hothers
        exact hothers.unique hothers'
      · rw [← hlines] at hmark
        exact absurd hothers fun hscans => hunmarked hmark hscans
    · rcases hothers' with hothers' | ⟨cs', hmark', hothers'⟩
      · rw [hlines] at hmark
        exact absurd hothers' fun hscans => hunmarked hmark hscans
      · rw [hlines, hmark'] at hmark
        cases hmark
        exact hothers.unique hothers'
  refine ⟨ts, us, hscan, hscan', same_of_firstOnLine ?_⟩
  rw [hts, hus, ← hfirst, ← hfirst', hsame]

/-- A comment behind a token, and the same token without it. -/
theorem compare_sound_comment :
    (lineWise "x // c\n" ∧ lineWise "x\n" ∧ compare "x // c\n" "x\n" = .agree) ∧
      ∃ ts us, scan "x // c\n" = some ts ∧ scan "x\n" = some us ∧
        ts.map (fun t => (t.1.kind, t.1.text)) = us.map (fun t => (t.1.kind, t.1.text)) ∧
        ts.tail.map (·.1.newLine) = us.tail.map (·.1.newLine) :=
  have hexpected : lineWise "x // c\n" := by decide +kernel
  have hactual : lineWise "x\n" := by decide +kernel
  have hagree : compare "x // c\n" "x\n" = .agree := by decide +kernel
  ⟨⟨hexpected, hactual, hagree⟩, compare_sound hexpected hactual hagree⟩

/-- A raw string loses a line that looks like a comment, and the texts agree all the same. -/
theorem compare_agree_raw :
    compare "var s = \x60a\n// x\nb\x60\n" "var s = \x60a\nb\x60\n" = .agree ∧
      (scan "var s = \x60a\n// x\nb\x60\n").map (·.map (·.1.text)) =
        some ["var", "s", "=", "\x60a\n// x\nb\x60"] ∧
      (scan "var s = \x60a\nb\x60\n").map (·.map (·.1.text)) = some ["var", "s", "=", "\x60a\nb\x60"] := by
  decide +kernel

end GoRebuild.Verify
