import GoRebuild.Proofs.Chain.Reflow

/-!
# Layout changes layout only

* `Writer`, `emitChain` : the writer that keeps its level of indentation as it goes; what it writes for a chain is
  `Chain.write` at its level (`Writer.chain_eq`);
* `WellIndented` : every line begins with as many tabs as there are broken calls open around it
  (`Chain.wellIndented_write`);
* `layout_changes_layout_only` : the broken text of a chain is its text read as one line, and is well indented.
-/

namespace GoRebuild
open Text

/-! ## The writer -/

/-- A writer of programs: the layout, the level of indentation and what is written. -/
structure Writer where
  layout : Layout
  indent : Nat
  output : String

namespace Writer

def push (w : Writer) (text : String) : Writer :=
  { w with output := w.output ++ text }

/-- Write the tabs that a line begins with. -/
def pushIndent (w : Writer) : Writer :=
  w.push (tabs w.indent)

/-- Go one level in. -/
def inward (w : Writer) : Writer :=
  { w with indent := w.indent + 1 }

/-- Go one level out. -/
def outward (w : Writer) : Writer :=
  { w with indent := w.indent - 1 }

mutual

def chain (w : Writer) : List Step → Writer
  | [] => w.push "jen.Null()"
  | s :: ss => ((w.push "jen").step s).steps ss

def steps (w : Writer) : List Step → Writer
  | [] => w
  | s :: ss => (w.step s).steps ss

def step (w : Writer) : Step → Writer
  | .mk m args =>
    let opened := ((w.push ".").push m).push "("
    if w.layout.breaks m args.length then
      (((opened.push "\n").inward.lines args).outward.pushIndent).push ")"
    else (opened.inline true args).push ")"

/-- Write arguments, each on a line of its own. -/
def lines (w : Writer) : List Arg → Writer
  | [] => w
  | a :: as => ((w.pushIndent.arg a).push ",\n").lines as

/-- Write arguments on one line, the first of them or further ones. -/
def inline (w : Writer) (first : Bool) : List Arg → Writer
  | [] => w
  | a :: as => ((if first then w else w.push ", ").arg a).inline false as

def arg (w : Writer) : Arg → Writer
  | .code c => w.chain c
  | .quoted s => w.push (Quoted.encode s)
  | .int i => w.push (toString i)

end

@[simp] theorem push_layout (w : Writer) (text : String) : (w.push text).layout = w.layout := rfl

@[simp] theorem push_indent (w : Writer) (text : String) : (w.push text).indent = w.indent := rfl

@[simp] theorem inward_layout (w : Writer) : w.inward.layout = w.layout := rfl

@[simp] theorem inward_indent (w : Writer) : w.inward.indent = w.indent + 1 := rfl

theorem push_push (w : Writer) (s t : String) : (w.push s).push t = w.push (s ++ t) := by
  show Writer.mk w.layout w.indent (w.output ++ s ++ t) = Writer.mk w.layout w.indent (w.output ++ (s ++ t))
  rw [String.append_assoc]

theorem push_empty (w : Writer) : w.push "" = w := by
  show Writer.mk w.layout w.indent (w.output ++ "") = w
  rw [String.append_empty]

/-- A level in and out again. -/
theorem outward_inward (w : Writer) (text : String) : (w.inward.push text).outward = w.push text := rfl

mutual

/-- A chain is written at the level of the writer, which stays as it is. -/
theorem chain_eq (w : Writer) : ∀ c : List Step, w.chain c = w.push (Step.writeOf w.layout w.indent c)
  | [] => rfl
  | s :: ss => by
    rw [chain, step_eq, steps_eq, push_push, push_push, Step.writeOf]
    rfl

theorem steps_eq (w : Writer) : ∀ ss : List Step, w.steps ss = w.push (Step.writeRest w.layout w.indent ss)
  | [] => w.push_empty.symm
  | s :: ss => by
    rw [steps, step_eq, steps_eq, push_push, Step.writeRest]
    rfl

theorem step_eq (w : Writer) : ∀ s : Step, w.step s = w.push (s.write w.layout w.indent)
  | .mk m [] => by
    have hbreaks : w.layout.breaks m 0 = false := by
      unfold Layout.breaks
      rw [bne_self_eq_false, Bool.and_false, Bool.false_and]
    rw [step, List.length_nil, hbreaks, if_neg Bool.false_ne_true, inline, push_push, push_push, push_push, Step.write]
    exact congrArg w.push String.append_assoc.symm
  | .mk m (a :: as) => by
    rw [step, List.length_cons, Step.write]
    split
    · rw [lines, lines_eq, arg_eq, pushIndent, pushIndent]
      simp only [push_push, push_indent, push_layout, inward_indent, inward_layout, outward_inward, String.append_assoc]
      rfl
    · rw [inline, if_pos rfl, arg_eq, inline_eq]
      simp only [push_push, push_indent, push_layout, String.append_assoc]

theorem lines_eq (w : Writer) : ∀ as : List Arg, w.lines as = w.push (Arg.writeLines w.layout w.indent as)
  | [] => w.push_empty.symm
  | a :: as => by
    rw [lines, arg_eq, lines_eq, Arg.writeLines, pushIndent]
    simp only [push_push, push_indent, push_layout, String.append_assoc]

theorem inline_eq (w : Writer) : ∀ as : List Arg, w.inline false as = w.push (Arg.writeRest w.layout w.indent as)
  | [] => w.push_empty.symm
  | a :: as => by
    rw [inline, if_neg Bool.false_ne_true, arg_eq, inline_eq, Arg.writeRest]
    simp only [push_push, push_indent, push_layout, String.append_assoc]

theorem arg_eq (w : Writer) : ∀ a : Arg, w.arg a = w.push (a.write w.layout w.indent)
  | .code c => by rw [arg, chain_eq, Arg.write]
  | .quoted _ | .int _ => rfl

end

end Writer

/-- What is written for a chain. -/
def emitChain (c : Chain) (l : Layout) : String :=
  ((Writer.mk l 0 "").chain c).output

theorem emitChain_eq (c : Chain) (l : Layout) : emitChain c l = c.write l 0 := by
  unfold emitChain
  rw [Writer.chain_eq]
  exact String.empty_append

/-! ## Indentation -/

/-- The calls that are open behind a character, the innermost first, and whether each is broken. -/
def callsBehind (q : Quoting) (c : Char) (cs : List Char) (calls : List Bool) : List Bool :=
  if q = .outside ∧ c = '(' then (cs.head? == some '\n') :: calls
  else if q = .outside ∧ c = ')' then calls.tail
  else calls

/-- How many of the broken calls are open around a line. One that the line closes first is not. -/
def around (calls : List Bool) (line : List Char) : Nat :=
  (if line.head? = some ')' then calls.tail else calls).count true

/-- A line begins with tabs for the levels that its text is inside of and for the broken calls around the line. -/
def BeginsIndented (base : Nat) (calls : List Bool) (line : List Char) : Prop :=
  (line.takeWhile (· = '\t')).length = base + around calls (line.dropWhile (· = '\t'))

/-- So does every line behind a line break. -/
def LinesIndented (base : Nat) : Quoting → List Bool → List Char → Prop
  | _, _, [] => True
  | q, calls, c :: cs =>
    (c = '\n' → BeginsIndented base calls cs) ∧ LinesIndented base (q.next c) (callsBehind q c cs calls) cs

/-- Every line of a text begins with exactly as many tabs as there are broken calls open around it. -/
def WellIndented (text : String) : Prop :=
  BeginsIndented 0 [] text.toList ∧ LinesIndented 0 .outside [] text.toList

section
variable {base : Nat} {q : Quoting} {calls : List Bool} {cs : List Char}

theorem linesIndented_nil : LinesIndented base q calls [] :=
  trivial

/-- A character that neither opens nor closes a call. -/
theorem linesIndented_cons {c : Char} (hline : c ≠ '\n') (hparens : q ≠ .outside ∨ c ≠ '(' ∧ c ≠ ')')
    (h : LinesIndented base (q.next c) calls cs) : LinesIndented base q calls (c :: cs) := by
  refine ⟨fun hc => absurd hc hline, ?_⟩
  have hopens : ¬(q = .outside ∧ c = '(') := by tauto
  have hcloses : ¬(q = .outside ∧ c = ')') := by tauto
  unfold callsBehind
  rwa [if_neg hopens, if_neg hcloses]

theorem linesIndented_outside {c : Char} (hline : c ≠ '\n') (hquote : c ≠ '"') (hparens : c ≠ '(' ∧ c ≠ ')')
    (h : LinesIndented base .outside calls cs) : LinesIndented base .outside calls (c :: cs) := by
  apply linesIndented_cons hline (.inr hparens)
  rwa [Quoting.next, if_neg hquote]

theorem linesIndented_quiet {text : List Char} (htext : ∀ c ∈ text, isQuiet c)
    (h : LinesIndented base .outside calls cs) : LinesIndented base .outside calls (text ++ cs) := by
  induction text with
  | nil => exact h
  | cons c text ih =>
    obtain ⟨hc, htext⟩ := List.forall_mem_cons.mp htext
    have hne {d : Char} (hd : isQuiet d = false) : c ≠ d := ne_of_isQuiet hc hd
    exact linesIndented_outside (hne (by decide)) (hne (by decide)) ⟨hne (by decide), hne (by decide)⟩ (ih htext)

theorem linesIndented_inside {text : List Char} (h : LinesIndented base .inside calls cs) :
    ∀ {q : Quoting}, StaysInside q text → LinesIndented base q calls (text ++ cs) := by
  induction text with
  | nil =>
    rintro q rfl
    exact h
  | cons c text ih =>
    rintro q ⟨hq, hline, -, htext⟩
    exact linesIndented_cons hline (.inl hq) (ih htext)

/-- What stands in a string literal opens no call. -/
theorem linesIndented_quoted (s : String) (h : LinesIndented base .outside calls cs) :
    LinesIndented base .outside calls ((Quoted.encode s).toList ++ cs) := by
  rw [Quoted.encode, String.toList_ofList, Quoted.encodeChars, List.cons_append, List.append_assoc]
  apply linesIndented_cons (by decide) (.inr (by decide))
  refine linesIndented_inside ?_ (staysInside_escapes s.toList)
  exact linesIndented_cons (by decide) (.inr (by decide)) h

/-- The head of a call opens it. -/
theorem linesIndented_method {m : String} (hm : IsName m)
    (h : LinesIndented base .outside ((cs.head? == some '\n') :: calls) cs) :
    LinesIndented base .outside calls ('.' :: (m.toList ++ '(' :: cs)) := by
  apply linesIndented_outside (by decide) (by decide) (by decide)
  apply linesIndented_quiet hm.quiet
  exact ⟨fun hc => absurd hc (by decide), h⟩

/-- The head of a broken call. -/
theorem linesIndented_broken {m : String} (hm : IsName m) (h : LinesIndented base .outside (true :: calls) ('\n' :: cs)) :
    LinesIndented base .outside calls ('.' :: (m.toList ++ '(' :: '\n' :: cs)) :=
  linesIndented_method hm h

/-- The head of a call on one line. -/
theorem linesIndented_unbroken {m : String} (hm : IsName m) {c : Char} (hc : c ≠ '\n')
    (h : LinesIndented base .outside (false :: calls) (c :: cs)) :
    LinesIndented base .outside calls ('.' :: (m.toList ++ '(' :: c :: cs)) := by
  apply linesIndented_method hm
  have hhead : ((c :: cs).head? == some '\n') = false := by simpa using hc
  rwa [hhead]

theorem linesIndented_close {broken : Bool} (h : LinesIndented base .outside calls cs) :
    LinesIndented base .outside (broken :: calls) (')' :: cs) :=
  ⟨fun hc => absurd hc (by decide), h⟩

theorem forall_mem_tabs (n : Nat) : ∀ c ∈ (tabs n).toList, decide (c = '\t') = true := by
  intro c hc
  rw [tabs, String.toList_ofList] at hc
  exact decide_eq_true (List.eq_of_mem_replicate hc)

theorem takeWhile_tabs {c : Char} (htab : c ≠ '\t') (n : Nat) (cs : List Char) :
    ((tabs n).toList ++ c :: cs).takeWhile (· = '\t') = (tabs n).toList := by
  rw [List.takeWhile_append_of_pos (forall_mem_tabs n), List.takeWhile_cons_of_neg (by simpa using htab),
    List.append_nil]

theorem dropWhile_tabs {c : Char} (htab : c ≠ '\t') (n : Nat) (cs : List Char) :
    ((tabs n).toList ++ c :: cs).dropWhile (· = '\t') = c :: cs := by
  rw [List.dropWhile_append_of_pos (forall_mem_tabs n), List.dropWhile_cons_of_neg (by simpa using htab)]

theorem linesIndented_tabs (n : Nat) (h : LinesIndented base .outside calls cs) :
    LinesIndented base .outside calls ((tabs n).toList ++ cs) := by
  rw [tabs, String.toList_ofList]
  induction n with
  | zero => exact h
  | succ n ih => exact linesIndented_outside (by decide) (by decide) (by decide) ih

/-- A line that begins with the tabs it should. -/
theorem linesIndented_line {c : Char} {n : Nat} (htab : c ≠ '\t') (hn : n = base + around calls (c :: cs))
    (h : LinesIndented base .outside calls (c :: cs)) :
    LinesIndented base .outside calls ('\n' :: ((tabs n).toList ++ c :: cs)) := by
  refine ⟨fun _ => ?_, linesIndented_tabs n h⟩
  show _ = _
  rw [takeWhile_tabs htab, dropWhile_tabs htab, tabs, String.toList_ofList, List.length_replicate, hn]

-- from here on a text is only walked over with the lemmas above
attribute [irreducible] LinesIndented

theorem around_open {c : Char} (hc : c ≠ ')') (cs : List Char) : around calls (c :: cs) = calls.count true := by
  have hhead : (c :: cs).head? ≠ some ')' := by simpa using hc
  rw [around, if_neg hhead]

theorem around_close (broken : Bool) (cs : List Char) : around (broken :: calls) (')' :: cs) = calls.count true := by
  rw [around, List.head?_cons, if_pos rfl, List.tail_cons]

end

section
variable (l : Layout) (base : Nat)

/-- An argument on a line of its own. -/
theorem linesIndented_argLine (a : Arg) {calls : List Bool} {n : Nat} (hn : n = base + calls.count true)
    {cs : List Char} (h : LinesIndented base .outside calls ((a.write l n).toList ++ cs)) :
    LinesIndented base .outside calls ('\n' :: ((tabs n).toList ++ ((a.write l n).toList ++ cs))) := by
  obtain ⟨c, ds, hc, hopening⟩ := a.exists_opening l n
  obtain ⟨-, htab, -, hclose⟩ := hopening.not_space
  rw [hc, List.cons_append] at h ⊢
  refine linesIndented_line htab ?_ h
  rw [around_open hclose, hn]

mutual

theorem Step.linesIndented_writeOf {calls : List Bool} {n : Nat} (hn : n = base + calls.count true) {cs : List Char}
    (h : LinesIndented base .outside calls cs) : ∀ c : List Step, (∀ s ∈ Step.deepAll c, IsName s.method) →
      LinesIndented base .outside calls ((Step.writeOf l n c).toList ++ cs)
  | [], _ => by
    have hnull := linesIndented_unbroken isName_null (by decide) (linesIndented_close h)
    have hjen := linesIndented_quiet isName_jen.quiet hnull
    simpa [Step.writeOf] using hjen
  | s :: ss, hc => by
    rw [Step.deepAll, List.forall_mem_append] at hc
    have hrest := Step.linesIndented_writeRest hn h ss hc.2
    have hcall := Step.linesIndented_write hn hrest s hc.1
    have hjen := linesIndented_quiet isName_jen.quiet hcall
    simpa [Step.writeOf] using hjen

theorem Step.linesIndented_writeRest {calls : List Bool} {n : Nat} (hn : n = base + calls.count true) {cs : List Char}
    (h : LinesIndented base .outside calls cs) : ∀ ss : List Step, (∀ s ∈ Step.deepAll ss, IsName s.method) →
      LinesIndented base .outside calls ((Step.writeRest l n ss).toList ++ cs)
  | [], _ => h
  | s :: ss, hc => by
    rw [Step.deepAll, List.forall_mem_append] at hc
    have hrest := Step.linesIndented_writeRest hn h ss hc.2
    have hcall := Step.linesIndented_write hn hrest s hc.1
    simpa [Step.writeRest] using hcall

theorem Step.linesIndented_write {calls : List Bool} {n : Nat} (hn : n = base + calls.count true) {cs : List Char}
    (h : LinesIndented base .outside calls cs) : ∀ s : Step, (∀ t ∈ s.deep, IsName t.method) →
      LinesIndented base .outside calls ((s.write l n).toList ++ cs)
  | .mk m [], hs => by
    rw [Step.deep, List.forall_mem_cons] at hs
    have hm : IsName m := hs.1
    have hcall := linesIndented_unbroken hm (by decide) (linesIndented_close h)
    rw [Step.toList_write_nil]
    simpa using hcall
  | .mk m (a :: as), hs => by
    rw [Step.deep, Arg.deepAll_cons, List.forall_mem_cons, List.forall_mem_append] at hs
    obtain ⟨hname, ha, has⟩ := hs
    have hm : IsName m := hname
    cases hbreaks : l.breaks m (as.length + 1) with
    | true =>
      -- inside of a broken call there is one more around every line
      have hn' : n + 1 = base + (true :: calls).count true := by
        rw [List.count_cons_self]
        omega
      have hend : LinesIndented base .outside (true :: calls) ('\n' :: ((tabs n).toList ++ ')' :: cs)) := by
        refine linesIndented_line (by decide) ?_ (linesIndented_close h)
        rw [around_close, hn]
      have hlines := Arg.linesIndented_writeLines hn' hend as has
      have hfirst := linesIndented_argLine l base a hn' (Arg.linesIndented_write hn' hlines a ha)
      have hcall := linesIndented_broken hm hfirst
      rw [Step.toList_write_broken hbreaks]
      simpa using hcall
    | false =>
      have hn' : n = base + (false :: calls).count true := by
        rw [List.count_cons_of_ne (by decide), hn]
      have hrest := Arg.linesIndented_writeRest hn' (linesIndented_close h) as has
      have hfirst := Arg.linesIndented_write hn' hrest a ha
      obtain ⟨c, ds, hc, hopening⟩ := a.exists_opening l n
      rw [Step.toList_write_inline hbreaks]
      rw [hc, List.cons_append] at hfirst ⊢
      have hcall := linesIndented_unbroken hm hopening.not_space.1 hfirst
      simpa using hcall

/-- The arguments after the first, each on a line of its own, behind the comma of the one before. -/
theorem Arg.linesIndented_writeLines {calls : List Bool} {n : Nat} (hn : n = base + calls.count true) {cs : List Char}
    (h : LinesIndented base .outside calls ('\n' :: cs)) : ∀ as : List Arg,
      (∀ s ∈ Arg.deepAll as, IsName s.method) →
        LinesIndented base .outside calls (',' :: '\n' :: ((Arg.writeLines l n as).toList ++ cs))
  | [], _ => linesIndented_outside (by decide) (by decide) (by decide) h
  | a :: as, has => by
    rw [Arg.deepAll_cons, List.forall_mem_append] at has
    have hlines := Arg.linesIndented_writeLines hn h as has.2
    have hline := linesIndented_argLine l base a hn (Arg.linesIndented_write hn hlines a has.1)
    have hcomma := linesIndented_outside (c := ',') (by decide) (by decide) (by decide) hline
    rw [Arg.toList_writeLines_cons]
    simpa using hcomma

theorem Arg.linesIndented_writeRest {calls : List Bool} {n : Nat} (hn : n = base + calls.count true) {cs : List Char}
    (h : LinesIndented base .outside calls cs) : ∀ as : List Arg, (∀ s ∈ Arg.deepAll as, IsName s.method) →
      LinesIndented base .outside calls ((Arg.writeRest l n as).toList ++ cs)
  | [], _ => h
  | a :: as, has => by
    rw [Arg.deepAll_cons, List.forall_mem_append] at has
    have hrest := Arg.linesIndented_writeRest hn h as has.2
    have hblank := linesIndented_outside (c := ' ') (by decide) (by decide) (by decide)
      (Arg.linesIndented_write hn hrest a has.1)
    have hcomma := linesIndented_outside (c := ',') (by decide) (by decide) (by decide) hblank
    rw [Arg.toList_writeRest_cons]
    simpa using hcomma

theorem Arg.linesIndented_write {calls : List Bool} {n : Nat} (hn : n = base + calls.count true) {cs : List Char}
    (h : LinesIndented base .outside calls cs) : ∀ a : Arg, (∀ s ∈ Arg.deepAll [a], IsName s.method) →
      LinesIndented base .outside calls ((a.write l n).toList ++ cs)
  | .code c, ha => by
    rw [Arg.deepAll, Arg.deepAll, List.append_nil] at ha
    exact Step.linesIndented_writeOf hn h c ha
  | .quoted s, _ => linesIndented_quoted s h
  | .int i, _ => linesIndented_quiet (quiet_int i) h

end

end

/-- Every line that is written for a chain is indented for the broken calls around it. -/
theorem Chain.linesIndented_write {c : Chain} (hc : c.Named) (l : Layout) (n : Nat) :
    LinesIndented n .outside [] (c.write l n).toList := by
  have hcalls : n = n + [].count true := rfl
  have h := Step.linesIndented_writeOf l n hcalls linesIndented_nil c hc
  rwa [List.append_nil] at h

theorem Chain.wellIndented_write {c : Chain} (hc : c.Named) (l : Layout) : WellIndented (c.write l 0) := by
  refine ⟨?_, c.linesIndented_write hc l 0⟩
  obtain ⟨d, ds, hd, hopening⟩ := (Arg.code c).exists_opening l 0
  obtain ⟨-, htab, -, hclose⟩ := hopening.not_space
  have htext : (c.write l 0).toList = (tabs 0).toList ++ d :: ds := hd
  show _ = _
  rw [htext, takeWhile_tabs htab, dropWhile_tabs htab, around_open hclose]
  rfl

/-- **Layout changes layout only.** On one line a chain is written as its text. Broken over lines it is the same text if
it is read as one line, and each line begins with as many tabs as there are broken calls open around it. The writer
ends at the level of indentation at which it began. -/
theorem layout_changes_layout_only (c : Chain) (hc : c.Named) :
    emitChain c .compact = c.text ∧ reflowed (emitChain c .pretty) = c.text ∧ WellIndented (emitChain c .pretty) ∧
      ∀ w : Writer, (w.chain c).indent = w.indent := by
  rw [emitChain_eq, emitChain_eq]
  refine ⟨Step.writeOf_compact 0 c, c.reflowed_write hc .pretty 0, c.wellIndented_write hc .pretty, fun w => ?_⟩
  rw [w.chain_eq, Writer.push_indent]

/-- A broken call inside of one, and a text that looks like the end of both. -/
theorem layout_changes_layout_only_nested :
    let c : Chain := Chain.group "Block" [Chain.name "x" ++ Chain.group "Values" [Chain.name ",)\n\t", Chain.op ":="]]
    c.Named ∧ reflowed (emitChain c .pretty) = c.text ∧
      emitChain c .pretty = "jen.Block(\n\tjen.Id(\"x\").Values(\n\t\tjen.Id(\",)\\n\\t\"),\n\t\tjen.Op(\":=\"),\n\t),\n)" := by
  intro c
  have hc : c.Named := by decide +kernel
  obtain ⟨-, hreflowed, -, -⟩ := layout_changes_layout_only c hc
  exact ⟨hc, hreflowed, by decide +kernel⟩

end GoRebuild
