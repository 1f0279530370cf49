import GoRebuild.Proofs.Chain.Steps
import GoRebuild.Proofs.Text.StringValue

/-!
# Chains read as one line

* `Quoting` : whether a place in a text is inside a string literal; what is written for a character stays inside its
  literal (`staysInside_escape`);
* `reflowed` : a text read as one line, without line breaks and the tabs behind them, without commas before closing
  parentheses, and with the same separator between all arguments;
* `Chain.reflowed_write` : in any layout, and at any level, a chain that is read as one line is its text.
-/

namespace GoRebuild
open Text

/-! ## Reading a text as one line -/

/-- Where a place in a text is: outside of string literals, in one, or in one behind a backslash. -/
inductive Quoting where
  | outside
  | inside
  | escaped
  deriving DecidableEq

/-- The place behind a character. -/
def Quoting.next (c : Char) : Quoting → Quoting
  | outside => if c = '"' then inside else outside
  | inside => if c = '"' then outside else if c = '\\' then escaped else inside
  | escaped => inside

/-- A text without line breaks and the tabs behind them, from a place that is behind them or not. -/
def joinedFrom : Bool → List Char → List Char
  | _, [] => []
  | atStart, c :: cs =>
    if c = '\n' ∨ atStart = true ∧ c = '\t' then joinedFrom true cs else c :: joinedFrom false cs

/-- What a comma is read as that stands before a text: as nothing before a closing parenthesis, and with a blank behind
it otherwise. -/
def separator : List Char → List Char
  | ')' :: _ => []
  | ' ' :: _ => [',']
  | _ => [',', ' ']

/-- A text with its commas outside of string literals read as separators. -/
def respaced : Quoting → List Char → List Char
  | _, [] => []
  | q, c :: cs => (if q = .outside ∧ c = ',' then separator cs else [c]) ++ respaced (q.next c) cs

/-- A text read as one line, from some place on. -/
def reflowedFrom (q : Quoting) (cs : List Char) : List Char :=
  respaced q (joinedFrom false cs)

/-- A text read as one line. -/
def reflowed (text : String) : String :=
  String.ofList (reflowedFrom .outside text.toList)

/-- A character that no layout has a use for. -/
def isQuiet (c : Char) : Bool :=
  !(['\n', '\t', ' ', '"', ',', '(', ')'].contains c)

/-- A text that stays inside the string literal it begins in, with no break of a line. -/
def StaysInside : Quoting → List Char → Prop
  | q, [] => q = .inside
  | q, c :: cs => q ≠ .outside ∧ c ≠ '\n' ∧ c ≠ '\t' ∧ StaysInside (q.next c) cs

theorem StaysInside.append {a b : List Char} (hb : StaysInside .inside b) :
    ∀ {q : Quoting}, StaysInside q a → StaysInside q (a ++ b) := by
  induction a with
  | nil =>
    rintro q rfl
    exact hb
  | cons c cs ih =>
    rintro q ⟨hq, hline, htab, hcs⟩
    exact ⟨hq, hline, htab, ih hcs⟩

/-- A character that stands for itself between quotes. -/
theorem staysInside_self {c : Char} (hquote : c ≠ '"') (hslash : c ≠ '\\') (hline : c ≠ '\n') (htab : c ≠ '\t') :
    StaysInside .inside [c] := by
  refine ⟨Quoting.noConfusion, hline, htab, ?_⟩
  show (if c = '"' then Quoting.outside else if c = '\\' then .escaped else .inside) = .inside
  rw [if_neg hquote, if_neg hslash]

theorem staysInside_slash {c : Char} (hline : c ≠ '\n') (htab : c ≠ '\t') : StaysInside .inside ['\\', c] :=
  ⟨Quoting.noConfusion, by decide, by decide, Quoting.noConfusion, hline, htab, rfl⟩

theorem staysInside_hexDigit {d : Char} (hd : isHexDigit d) : StaysInside .inside [d] := by
  have hne (c : Char) (hc : isHexDigit c = false) : d ≠ c := by
    rintro rfl
    rw [hd] at hc
    cases hc
  exact staysInside_self (hne _ (by decide)) (hne _ (by decide)) (hne _ (by decide)) (hne _ (by decide))

/-- What is written for a character stays inside its literal. -/
theorem staysInside_escape (c : Char) : StaysInside .inside (Quoted.escape c) := by
  unfold Quoted.escape
  split
  · exact staysInside_slash (by decide) (by decide)
  split
  · exact staysInside_slash (by decide) (by decide)
  split
  · exact staysInside_slash (by decide) (by decide)
  split
  · exact staysInside_slash (by decide) (by decide)
  split
  · exact staysInside_slash (by decide) (by decide)
  split
  · rename_i hcontrol
    have hlt : c.toNat < 128 := by omega
    obtain ⟨hhigh, hlow, -⟩ := number_hexDigits c.toNat hlt
    have hdigits := (staysInside_hexDigit hlow).append (staysInside_hexDigit hhigh)
    exact hdigits.append (staysInside_slash (by decide) (by decide))
  · rename_i hquote hslash hline _ htab _
    exact staysInside_self hquote hslash hline htab

theorem staysInside_escapes (text : List Char) : StaysInside .inside (text.flatMap Quoted.escape) := by
  induction text with
  | nil => rfl
  | cons c text ih => exact .append ih (staysInside_escape c)

/-! ### Character by character -/

theorem ne_of_isQuiet {c d : Char} (hc : isQuiet c) (hd : isQuiet d = false) : c ≠ d := by
  rintro rfl
  rw [hc] at hd
  cases hd

section
variable {q : Quoting} {c : Char} {cs : List Char}

theorem joinedFrom_cons (hline : c ≠ '\n') (htab : c ≠ '\t') (b : Bool) :
    joinedFrom b (c :: cs) = c :: joinedFrom false cs := by
  rw [joinedFrom, if_neg]
  rintro (h | ⟨-, h⟩)
  · exact hline h
  · exact htab h

theorem joinedFrom_tabs (n : Nat) (cs : List Char) : joinedFrom true ((tabs n).toList ++ cs) = joinedFrom true cs := by
  rw [tabs, String.toList_ofList]
  induction n with
  | zero => rfl
  | succ n ih =>
    rw [List.replicate_succ, List.cons_append, joinedFrom, if_pos (.inr ⟨rfl, rfl⟩), ih]

/-- A line break and the tabs behind it are left out. -/
theorem joinedFrom_line (hline : c ≠ '\n') (htab : c ≠ '\t') (n : Nat) :
    joinedFrom false ('\n' :: ((tabs n).toList ++ c :: cs)) = joinedFrom false (c :: cs) := by
  rw [joinedFrom, if_pos (.inl rfl), joinedFrom_tabs, joinedFrom_cons hline htab, joinedFrom_cons hline htab]

theorem reflowedFrom_line (hline : c ≠ '\n') (htab : c ≠ '\t') (n : Nat) :
    reflowedFrom q ('\n' :: ((tabs n).toList ++ c :: cs)) = reflowedFrom q (c :: cs) :=
  congrArg (respaced q) (joinedFrom_line hline htab n)

/-- A character that is no comma outside of string literals stays. -/
theorem reflowedFrom_cons (hline : c ≠ '\n') (htab : c ≠ '\t') (hcomma : q ≠ .outside ∨ c ≠ ',') :
    reflowedFrom q (c :: cs) = c :: reflowedFrom (q.next c) cs := by
  have hstays : ¬(q = .outside ∧ c = ',') := by tauto
  rw [reflowedFrom, joinedFrom_cons hline htab, respaced, if_neg hstays]
  rfl

theorem reflowedFrom_outside (hline : c ≠ '\n') (htab : c ≠ '\t') (hcomma : c ≠ ',') (hquote : c ≠ '"') :
    reflowedFrom .outside (c :: cs) = c :: reflowedFrom .outside cs := by
  rw [reflowedFrom_cons hline htab (.inr hcomma), Quoting.next, if_neg hquote]

theorem reflowedFrom_comma (cs : List Char) :
    reflowedFrom .outside (',' :: cs) = separator (joinedFrom false cs) ++ reflowedFrom .outside cs := by
  rw [reflowedFrom, joinedFrom_cons (by decide) (by decide), respaced, if_pos ⟨rfl, rfl⟩]
  rfl

theorem reflowedFrom_quiet {text : List Char} (h : ∀ c ∈ text, isQuiet c) (cs : List Char) :
    reflowedFrom .outside (text ++ cs) = text ++ reflowedFrom .outside cs := by
  induction text with
  | nil => rfl
  | cons c text ih =>
    obtain ⟨hc, htext⟩ := List.forall_mem_cons.mp h
    have hne {d : Char} (hd : isQuiet d = false) : c ≠ d := ne_of_isQuiet hc hd
    rw [List.cons_append, reflowedFrom_outside (hne (by decide)) (hne (by decide)) (hne (by decide)) (hne (by decide)),
      ih htext, List.cons_append]

theorem reflowedFrom_inside {text : List Char} (cs : List Char) :
    ∀ {q : Quoting}, StaysInside q text → reflowedFrom q (text ++ cs) = text ++ reflowedFrom .inside cs := by
  induction text with
  | nil =>
    rintro q rfl
    rfl
  | cons c text ih =>
    rintro q ⟨hq, hline, htab, htext⟩
    rw [List.cons_append, reflowedFrom_cons hline htab (.inl hq), ih htext, List.cons_append]

/-- A string literal stays as it is. -/
theorem reflowedFrom_quoted (s : String) (cs : List Char) :
    reflowedFrom .outside ((Quoted.encode s).toList ++ cs) = (Quoted.encode s).toList ++ reflowedFrom .outside cs := by
  have hclose : reflowedFrom .inside ('"' :: cs) = '"' :: reflowedFrom .outside cs :=
    reflowedFrom_cons (by decide) (by decide) (.inr (by decide))
  have hopen (ds : List Char) : reflowedFrom .outside ('"' :: ds) = '"' :: reflowedFrom .inside ds :=
    reflowedFrom_cons (by decide) (by decide) (.inr (by decide))
  rw [Quoted.encode, String.toList_ofList, Quoted.encodeChars, List.cons_append, List.append_assoc, hopen,
    reflowedFrom_inside _ (staysInside_escapes s.toList)]
  show '"' :: (_ ++ reflowedFrom .inside ('"' :: cs)) = _
  rw [hclose, List.cons_append, List.append_assoc]
  rfl

end

/-! ### Chains -/

theorem IsName.quiet {m : String} (h : IsName m) : ∀ c ∈ m.toList, isQuiet c := by
  intro c hc
  have hne {d : Char} (hd : isNameChar d = false) : c ≠ d := h.ne hc hd
  simp [isQuiet, hne (show isNameChar '\n' = false by decide), hne (show isNameChar '\t' = false by decide),
    hne (show isNameChar ' ' = false by decide), hne (show isNameChar '"' = false by decide),
    hne (show isNameChar ',' = false by decide), hne (show isNameChar '(' = false by decide),
    hne (show isNameChar ')' = false by decide)]

theorem quiet_int (i : Int) : ∀ c ∈ (toString i).toList, isQuiet c := by
  intro c hc
  rcases mem_toString_int hc with rfl | hdigit
  · decide
  · have hne {d : Char} (hd : d.isDigit = false) : c ≠ d := by
      rintro rfl
      rw [hdigit] at hd
      cases hd
    simp [isQuiet, hne (show '\n'.isDigit = false by decide), hne (show '\t'.isDigit = false by decide),
      hne (show ' '.isDigit = false by decide), hne (show '"'.isDigit = false by decide),
      hne (show ','.isDigit = false by decide), hne (show '('.isDigit = false by decide),
      hne (show ')'.isDigit = false by decide)]

/-- No argument begins like something that closes or separates. -/
theorem IsOpening.not_space {c : Char} (h : IsOpening c) : c ≠ '\n' ∧ c ≠ '\t' ∧ c ≠ ' ' ∧ c ≠ ')' := by
  refine ⟨h.ne ?_, h.ne ?_, h.ne ?_, h.ne ?_⟩ <;> decide

/-- A comma before an argument is a separator. -/
theorem separator_opening {c : Char} (h : IsOpening c) (cs : List Char) : separator (c :: cs) = [',', ' '] := by
  obtain ⟨-, -, hblank, hclose⟩ := h.not_space
  unfold separator
  split
  · rename_i heq
    exact absurd (List.cons.inj heq).1 hclose
  · rename_i heq
    exact absurd (List.cons.inj heq).1 hblank
  · rfl

/-- The name of the builder stays. -/
theorem reflowedFrom_jen (cs : List Char) :
    reflowedFrom .outside ("jen".toList ++ cs) = "jen".toList ++ reflowedFrom .outside cs :=
  reflowedFrom_quiet isName_jen.quiet cs

/-- The head of a call stays. -/
theorem reflowedFrom_method {m : String} (h : IsName m) (cs : List Char) :
    reflowedFrom .outside ('.' :: (m.toList ++ '(' :: cs)) = '.' :: (m.toList ++ '(' :: reflowedFrom .outside cs) := by
  rw [reflowedFrom_outside (by decide) (by decide) (by decide) (by decide), reflowedFrom_quiet h.quiet,
    reflowedFrom_outside (by decide) (by decide) (by decide) (by decide)]

theorem reflowedFrom_close (cs : List Char) : reflowedFrom .outside (')' :: cs) = ')' :: reflowedFrom .outside cs :=
  reflowedFrom_outside (by decide) (by decide) (by decide) (by decide)

/-- The comma behind the last argument of a broken call is left out, with the line break behind it. -/
theorem reflowedFrom_lastComma (n : Nat) (cs : List Char) :
    reflowedFrom .outside (',' :: '\n' :: ((tabs n).toList ++ ')' :: cs)) = ')' :: reflowedFrom .outside cs := by
  rw [reflowedFrom_comma, joinedFrom_line (by decide) (by decide), joinedFrom_cons (by decide) (by decide),
    reflowedFrom_line (by decide) (by decide), reflowedFrom_close]
  rfl

section
variable (l : Layout)

/-- The line break before an argument is left out, with the tabs behind it. -/
theorem reflowedFrom_argLine (q : Quoting) (n k : Nat) (a : Arg) (cs : List Char) :
    reflowedFrom q ('\n' :: ((tabs k).toList ++ ((a.write l n).toList ++ cs))) =
      reflowedFrom q ((a.write l n).toList ++ cs) := by
  obtain ⟨c, ds, hc, hopening⟩ := a.exists_opening l n
  obtain ⟨hline, htab, -⟩ := hopening.not_space
  rw [hc, List.cons_append, reflowedFrom_line hline htab]

/-- A comma and a line break before an argument are a separator. -/
theorem reflowedFrom_nextLine (n k : Nat) (a : Arg) (cs : List Char) :
    reflowedFrom .outside (',' :: '\n' :: ((tabs k).toList ++ ((a.write l n).toList ++ cs))) =
      ',' :: ' ' :: reflowedFrom .outside ((a.write l n).toList ++ cs) := by
  obtain ⟨c, ds, hc, hopening⟩ := a.exists_opening l n
  obtain ⟨hline, htab, -⟩ := hopening.not_space
  rw [reflowedFrom_comma, reflowedFrom_argLine, hc, List.cons_append, joinedFrom_line hline htab,
    joinedFrom_cons hline htab, separator_opening hopening]
  rfl

mutual

/-- A chain that is read as one line is its text. -/
theorem Step.reflowedFrom_writeOf (n : Nat) (cs : List Char) : ∀ c : List Step, (∀ s ∈ Step.deepAll c, IsName s.method) →
    reflowedFrom .outside ((Step.writeOf l n c).toList ++ cs) = (Step.textOf c).toList ++ reflowedFrom .outside cs
  | [], _ => by
    have hnull := reflowedFrom_method isName_null (')' :: cs)
    rw [reflowedFrom_close] at hnull
    have hjen := reflowedFrom_jen ('.' :: ("Null".toList ++ '(' :: ')' :: cs))
    rw [hnull] at hjen
    simpa [Step.writeOf, Step.textOf] using hjen
  | s :: ss, h => by
    rw [Step.deepAll, List.forall_mem_append] at h
    rw [Step.writeOf, Step.textOf]
    simp only [String.toList_append, List.append_assoc]
    rw [reflowedFrom_jen, Step.reflowedFrom_write n _ s h.1, Step.reflowedFrom_writeRest n cs ss h.2]

theorem Step.reflowedFrom_writeRest (n : Nat) (cs : List Char) : ∀ ss : List Step,
    (∀ s ∈ Step.deepAll ss, IsName s.method) →
      reflowedFrom .outside ((Step.writeRest l n ss).toList ++ cs) =
        (Step.textRest ss).toList ++ reflowedFrom .outside cs
  | [], _ => rfl
  | s :: ss, h => by
    rw [Step.deepAll, List.forall_mem_append] at h
    rw [Step.writeRest, Step.textRest]
    simp only [String.toList_append, List.append_assoc]
    rw [Step.reflowedFrom_write n _ s h.1, Step.reflowedFrom_writeRest n cs ss h.2]

theorem Step.reflowedFrom_write (n : Nat) (cs : List Char) : ∀ s : Step, (∀ t ∈ s.deep, IsName t.method) →
    reflowedFrom .outside ((s.write l n).toList ++ cs) = s.text.toList ++ reflowedFrom .outside cs
  | .mk m [], h => by
    rw [Step.deep, List.forall_mem_cons] at h
    have hm : IsName m := h.1
    rw [Step.toList_write_nil, Step.toList_text_nil]
    have hcall := reflowedFrom_method hm (')' :: cs)
    rw [reflowedFrom_close] at hcall
    simpa using hcall
  | .mk m (a :: as), h => by
    rw [Step.deep, Arg.deepAll_cons, List.forall_mem_cons, List.forall_mem_append] at h
    obtain ⟨hname, ha, has⟩ := h
    have hm : IsName m := hname
    rw [Step.toList_text_cons]
    cases hbreaks : l.breaks m (as.length + 1) with
    | true =>
      rw [Step.toList_write_broken hbreaks]
      have hcall := reflowedFrom_method hm ('\n' :: ((tabs (n + 1)).toList ++ ((a.write l (n + 1)).toList ++
        ',' :: '\n' :: ((Arg.writeLines l (n + 1) as).toList ++ ((tabs n).toList ++ ')' :: cs)))))
      rw [reflowedFrom_argLine, Arg.reflowedFrom_write (n + 1) _ a ha,
        Arg.reflowedFrom_writeLines (n + 1) n cs as has] at hcall
      simpa using hcall
    | false =>
      rw [Step.toList_write_inline hbreaks]
      have hcall := reflowedFrom_method hm ((a.write l n).toList ++ ((Arg.writeRest l n as).toList ++ ')' :: cs))
      rw [Arg.reflowedFrom_write n _ a ha, Arg.reflowedFrom_writeRest n _ as has, reflowedFrom_close] at hcall
      simpa using hcall

/-- The arguments after the first, each on a line of its own, behind the comma of the one before. -/
theorem Arg.reflowedFrom_writeLines (n k : Nat) (cs : List Char) : ∀ as : List Arg,
    (∀ s ∈ Arg.deepAll as, IsName s.method) →
      reflowedFrom .outside (',' :: '\n' :: ((Arg.writeLines l n as).toList ++ ((tabs k).toList ++ ')' :: cs))) =
        (Arg.textRest as).toList ++ ')' :: reflowedFrom .outside cs
  | [], _ => reflowedFrom_lastComma k cs
  | a :: as, h => by
    rw [Arg.deepAll_cons, List.forall_mem_append] at h
    have hline := reflowedFrom_nextLine l n n a (',' :: '\n' :: ((Arg.writeLines l n as).toList ++
      ((tabs k).toList ++ ')' :: cs)))
    rw [Arg.reflowedFrom_write n _ a h.1, Arg.reflowedFrom_writeLines n k cs as h.2] at hline
    rw [Arg.toList_writeLines_cons, Arg.toList_textRest_cons]
    simpa using hline

theorem Arg.reflowedFrom_writeRest (n : Nat) (cs : List Char) : ∀ as : List Arg,
    (∀ s ∈ Arg.deepAll as, IsName s.method) →
      reflowedFrom .outside ((Arg.writeRest l n as).toList ++ cs) = (Arg.textRest as).toList ++ reflowedFrom .outside cs
  | [], _ => rfl
  | a :: as, h => by
    rw [Arg.deepAll_cons, List.forall_mem_append] at h
    have hblank : reflowedFrom .outside (',' :: ' ' :: ((a.write l n).toList ++ ((Arg.writeRest l n as).toList ++ cs))) =
        ',' :: ' ' :: reflowedFrom .outside ((a.write l n).toList ++ ((Arg.writeRest l n as).toList ++ cs)) := by
      rw [reflowedFrom_comma, joinedFrom_cons (by decide) (by decide),
        reflowedFrom_outside (by decide) (by decide) (by decide) (by decide)]
      rfl
    rw [Arg.reflowedFrom_write n _ a h.1, Arg.reflowedFrom_writeRest n cs as h.2] at hblank
    rw [Arg.toList_writeRest_cons, Arg.toList_textRest_cons]
    simpa using hblank

theorem Arg.reflowedFrom_write (n : Nat) (cs : List Char) : ∀ a : Arg, (∀ s ∈ Arg.deepAll [a], IsName s.method) →
    reflowedFrom .outside ((a.write l n).toList ++ cs) = a.text.toList ++ reflowedFrom .outside cs
  | .code c, h => by
    rw [Arg.deepAll, Arg.deepAll, List.append_nil] at h
    exact Step.reflowedFrom_writeOf n cs c h
  | .quoted s, _ => reflowedFrom_quoted s cs
  | .int i, _ => reflowedFrom_quiet (quiet_int i) cs

end

end

/-- What is written for a chain is its text, read as one line. -/
theorem Chain.reflowed_write {c : Chain} (hc : c.Named) (l : Layout) (n : Nat) : reflowed (c.write l n) = c.text := by
  have h := Step.reflowedFrom_writeOf l n [] c hc
  rw [List.append_nil] at h
  unfold reflowed Chain.write Chain.text
  rw [h]
  show String.ofList ((Step.textOf c).toList ++ []) = Step.textOf c
  rw [List.append_nil, String.ofList_toList]

end GoRebuild
