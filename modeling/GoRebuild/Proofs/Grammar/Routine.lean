import GoRebuild.Proofs.Grammar.Primary

/-!
# Parsing functions without parameters

* `Line.size`, `Line.sizes` : how many tokens statements have at least;
* `parses_stmts` : statements that return, define or call, in braces, are parsed to what was written;
* `Routine.parses_funcDecl` : so is a function of them.
-/

namespace GoRebuild.Grammar
open Lexical Scan

variable {l : Layer} {f : Follow} {newLine : Bool} {bound k : Nat} {u v : Spelling} {us vs : List Spelling}

/-- How many tokens the expression has at least. -/
def Line.size : Line → Nat
  | giveBack x | define _ x => x.size
  | call x m args => (called x m args).size

/-! ## Parsing statements -/

/-- An expression in a row of its own, which the next line ends. -/
theorem parses_exprList {x : Primary} (hplain : x.isPlain) (hk : x.size ≤ k) (hbound : x.size ≤ bound)
    (hline : (f.line && u.newLine) = true) : Parses (exprList (Layer.build bound (k + 1)) f) (x.row newLine ++ u :: us) (u :: us)
      fun ys => ∃ y, ys = [y] ∧ x.Forms y := by
  refine .bind (x.parses_expr hplain hk hbound (.inl hline)) fun y hy =>
    .bind (parses_many_nil (Parses.fails (parses_ends f.line) fun b hb => ?_) _) fun ys hys => .pure ⟨y, by rw [hys], hy⟩
  rw [hb, hline]
  exact .bind (.require rfl)

theorem keywordStmt_word {n : String} (h : isWord n) : keywordStmt l n = labeled l := by
  unfold keywordStmt
  split
  case h_17 => rfl
  all_goals exact absurd rfl (ne_of_word h (by decide))

/-- A label has its colon behind it. -/
theorem fails_takeLabel {kind : TokenKind} {text : String} (hv : kind = .word → v.text ≠ ":") :
    Fails takeLabel (⟨kind, text, newLine⟩ :: v :: us) := by
  by_cases hkind : kind = .word
  · refine Parses.fails (parses_takeName hkind) fun n _ => Parses.fails (parses_ends true) fun b _ => ?_
    cases hlabel : !isSpecialWord n.text && !b with
    | true => exact Parses.fails (.require rfl) fun _ _ => .bind (fails_take (hv hkind))
    | false => exact .bind (.require rfl)
  · exact .bind (fails_takeName hkind)

/-- Whether statements end at a token. -/
def isRowEnd (text : String) : Bool :=
  ["\x7d", "case", "default"].contains text

theorem parses_rowEnds : Parses rowEnds (u :: us) (u :: us) (· = isRowEnd u.text) := by
  refine .bind (parses_sees _) fun a ha => .bind (parses_sees _) fun b hb => .bind (parses_sees _) fun c hc => .pure ?_
  rw [ha, hb, hc, isRowEnd, List.contains_cons, List.contains_cons, List.contains_cons, List.contains_nil, Bool.or_false,
    Bool.or_assoc]

theorem not_isRowEnd_of_word {n : String} (h : isWord n) : isRowEnd n = false := by
  have hne {text : String} (htext : isWord text = false) : n ≠ text := ne_of_word h htext
  simp [isRowEnd, @hne "\x7d" (by decide), @hne "case" (by decide), @hne "default" (by decide)]

/-- Statements do not end at the first token of one, and it is no label. -/
theorem Line.exists_row : ∀ s : Line, s.isPlain → ∃ kind text v rest,
    (∀ newLine, s.row newLine = ⟨kind, text, newLine⟩ :: v :: rest) ∧ isRowEnd text = false ∧ (kind = .word → v.text ≠ ":")
  | giveBack x, h => by
    obtain ⟨kind, text, rest, hrow, -⟩ := x.exists_row h
    exact ⟨.keyword, "return", _, _, fun _ => by rw [row, hrow], rfl, nofun⟩
  | define n x, h => by
    rw [isPlain, Primary.isPlain, Bool.and_eq_true, Bool.and_eq_true] at h
    exact ⟨_, _, _, _, fun _ => rfl, not_isRowEnd_of_word h.1.1, fun _ => by decide⟩
  | call x m args, h => by
    rw [isPlain, called, Primary.isPlain, Primary.isPlain, Primary.isPlain] at h
    simp only [Bool.and_eq_true] at h
    cases args with
    | nil => exact ⟨_, _, _, _, fun _ => rfl, not_isRowEnd_of_word h.1.1.1, fun _ => by decide⟩
    | cons a as => exact ⟨_, _, _, _, fun _ => rfl, not_isRowEnd_of_word h.1.1.1, fun _ => by decide⟩

/-- A word that is no label starts a simple statement. -/
theorem parses_stmtRule_word {n : String} {P : Stmt → Prop} (hword : isWord n) (hv : v.text ≠ ":")
    (h : Parses (simple l .statement) (⟨.word, n, newLine⟩ :: v :: us) vs P) :
    Parses (stmtRule l) (⟨.word, n, newLine⟩ :: v :: us) vs P := by
  refine .bind parses_next fun t ht => ?_
  obtain ⟨t, rfl, hu⟩ := Option.map_eq_some_iff.mp ht
  have htext : t.text = n := congrArg Spelling.text hu
  have hlabeled : Fails (labeled l) (⟨.word, n, newLine⟩ :: v :: us) := .bind (fails_takeLabel fun _ => hv)
  dsimp only
  rw [htext, keywordStmt_word hword]
  exact Fails.orElse (.bind hlabeled) h

theorem parses_takeOp {ops : List String} (h : ops.contains u.text) : Parses (takeOp ops) (u :: us) us (· = u.text) := by
  intro ts hts
  obtain ⟨t, rest, rfl, rfl, hrest⟩ := exists_cons_of_spellings hts
  exact ⟨_, _, if_pos h, hrest, rfl⟩

namespace Line

/-- A statement that the next line ends is parsed to what was written. -/
theorem parses_stmt (hline : u.newLine) : ∀ s : Line, s.isPlain → s.size ≤ k → s.size ≤ bound →
    Parses (Layer.build bound (k + 2)).stmt (s.row newLine ++ u :: us) (u :: us) s.Forms
  | giveBack x, hplain, hk, hbound => by
    obtain ⟨kind, text, rest, hrow, -⟩ := x.exists_row hplain
    have hreturn : Parses (keywordStmt (Layer.build bound (k + 1)) "return") ((giveBack x).row newLine ++ u :: us) (u :: us)
        fun y => ∃ z, y = .returnStmt [z] ∧ x.Forms z := by
      have hends : Parses (ends true) (x.row false ++ u :: us) (x.row false ++ u :: us) (· = false) := by
        rw [hrow]
        exact parses_ends true
      have hlist : Parses (valueList (Layer.build bound (k + 1))) (x.row false ++ u :: us) (u :: us) _ :=
        parses_exprList hplain hk hbound hline
      refine .bind (parses_take rfl) fun _ _ => .ifFalse hends (.bind (.optional hlist) fun ys hys => .pure ?_)
      obtain ⟨_, rfl, z, rfl, hz⟩ := hys
      exact ⟨z, rfl, hz⟩
    refine .bind parses_next fun t ht => ?_
    obtain ⟨t, rfl, hu⟩ := Option.map_eq_some_iff.mp ht
    have htext : t.text = "return" := congrArg Spelling.text hu
    dsimp only
    rw [htext]
    refine .orElse (.bind hreturn fun y hy => .pure ?_)
    obtain ⟨z, rfl, hz⟩ := hy
    exact ⟨z, _, rfl, hz⟩
  | define n x, hplain, hk, hbound => by
    rw [isPlain, Bool.and_eq_true] at hplain
    have hword : isWord n := by
      have hname := hplain.1
      rw [Primary.isPlain, Bool.and_eq_true] at hname
      exact hname.1
    have hpos := x.posts_lt_size
    rw [size] at hk hbound
    have hleft : Parses ((Layer.build bound (k + 1)).expr .statement 1)
        (⟨.word, n, newLine⟩ :: sign ":=" :: (x.row false ++ u :: us)) (sign ":=" :: (x.row false ++ u :: us))
        (Primary.name n).Forms :=
      Primary.parses_expr hplain.1 (by rw [Primary.size]; omega) (by rw [Primary.size]; omega) (.inr rfl)
    have hright : Parses (exprList (Layer.build bound (k + 1)) Follow.statement.value) (x.row false ++ u :: us) (u :: us) _ :=
      parses_exprList hplain.2 hk hbound hline
    have htargets : Parses (targets (Layer.build bound (k + 1)) .statement)
        (⟨.word, n, newLine⟩ :: sign ":=" :: (x.row false ++ u :: us)) (sign ":=" :: (x.row false ++ u :: us))
        fun p => p.2 = [] ∧ (Primary.name n).Forms p.1 :=
      .bind hleft fun y hy => .ifFalse (parses_ends true) (.bind (parses_many_nil (.bind (fails_take (by decide))) _)
        fun more hmore => .pure ⟨hmore, hy⟩)
    refine parses_stmtRule_word hword (by decide) (.bind htargets ?_)
    rintro ⟨y, more⟩ ⟨rfl, hy⟩
    refine .bind (parses_ends true) fun b hb => ?_
    rw [hb]
    refine .bind (.optional (parses_takeOp (by decide))) fun op hop => ?_
    obtain ⟨_, rfl, rfl⟩ := hop
    refine .bind hright fun zs hzs => .pure ?_
    obtain ⟨z, rfl, hz⟩ := hzs
    exact ⟨y, z, _, rfl, hy, hz⟩
  | call x m args, hplain, hk, hbound => by
    have hword : isWord x := by
      have hname := hplain
      rw [isPlain, called, Primary.isPlain, Primary.isPlain, Primary.isPlain] at hname
      simp only [Bool.and_eq_true] at hname
      exact hname.1.1.1
    have hexpr : Parses ((Layer.build bound (k + 1)).expr .statement 1) ((called x m args).row newLine ++ u :: us) (u :: us) _ :=
      Primary.parses_expr hplain hk hbound (.inl hline)
    have htargets : Parses (targets (Layer.build bound (k + 1)) .statement) ((called x m args).row newLine ++ u :: us) (u :: us)
        fun p => p.2 = [] ∧ (called x m args).Forms p.1 :=
      .bind hexpr fun y hy => .ifTrue (.mono (parses_ends true) fun _ hb => hb.trans hline) (.pure ⟨rfl, hy⟩)
    have hsimple : Parses (simple (Layer.build bound (k + 1)) .statement) ((called x m args).row newLine ++ u :: us) (u :: us)
        (call x m args).Forms := by
      refine .bind htargets ?_
      rintro ⟨y, more⟩ ⟨rfl, hy⟩
      refine .bind (parses_ends true) fun b hb => ?_
      rw [hb, hline]
      exact .pure ⟨y, _, rfl, hy⟩
    cases args with
    | nil => exact parses_stmtRule_word hword (by decide) hsimple
    | cons a as => exact parses_stmtRule_word hword (by decide) hsimple

end Line

/-- How many tokens statements have at least. -/
def Line.sizes : List Line → Nat
  | [] => 0
  | s :: ss => s.size + Line.sizes ss

theorem Line.size_pos : ∀ s : Line, 0 < s.size
  | giveBack x | define _ x => Nat.zero_lt_of_lt x.posts_lt_size
  | call x m args => Nat.zero_lt_of_lt (called x m args).posts_lt_size

theorem Line.size_le (newLine : Bool) : ∀ s : Line, s.size ≤ (s.row newLine).length
  | giveBack x => Nat.le_succ_of_le (x.size_le false)
  | define _ x => Nat.le_succ_of_le (Nat.le_succ_of_le (x.size_le false))
  | call x m args => (called x m args).size_le newLine

theorem Line.sizes_le (newLine : Bool) : ∀ ss : List Line, Line.sizes ss ≤ (Line.rows newLine ss).length
  | [] => Nat.le_refl _
  | s :: ss => by
    rw [Line.sizes, Line.rows, List.length_append]
    exact Nat.add_le_add (s.size_le newLine) (Line.sizes_le true ss)

theorem Line.length_le_sizes : ∀ ss : List Line, ss.length ≤ Line.sizes ss
  | [] => Nat.le_refl _
  | s :: ss => by
    have := s.size_pos
    have := Line.length_le_sizes ss
    rw [Line.sizes, List.length_cons]
    omega

/-- Statements on lines of their own are parsed to what was written. -/
theorem parses_stmts : ∀ (ss : List Line) (newLine : Bool) (m : Nat), (∀ s ∈ ss, s.isPlain) → Line.sizes ss ≤ k →
    Line.sizes ss ≤ bound → ss.length < m →
    Parses (stmts (Layer.build bound (k + 2)) m) (Line.rows newLine ss ++ blockEnd :: us) (blockEnd :: us)
      (List.Forall₂ Line.Forms ss)
  | [], _, m, _, _, _, hm => by
    obtain ⟨m, rfl⟩ : ∃ m', m = m' + 1 := ⟨m - 1, by omega⟩
    exact .ifTrue (.mono parses_rowEnds fun _ hb => hb.trans rfl) (.pure .nil)
  | s :: ss, newLine, m, hplain, hk, hbound, hm => by
    rw [List.length_cons] at hm
    rw [Line.sizes] at hk hbound
    obtain ⟨m, rfl⟩ : ∃ m', m = m' + 1 := ⟨m - 1, by omega⟩
    have hs := hplain s List.mem_cons_self
    obtain ⟨kind, text, v, rest, hrow, hend, hcolon⟩ := s.exists_row hs
    have hlabel : Fails lastLabel (s.row newLine ++ (Line.rows true ss ++ blockEnd :: us)) := by
      rw [hrow]
      exact .bind (fails_takeLabel hcolon)
    have hends : Parses rowEnds (s.row newLine ++ (Line.rows true ss ++ blockEnd :: us))
        (s.row newLine ++ (Line.rows true ss ++ blockEnd :: us)) (· = false) := by
      rw [hrow]
      exact .mono parses_rowEnds fun _ hb => hb.trans hend
    rw [Line.rows, List.append_assoc]
    cases ss with
    | nil =>
      have hmore := parses_stmts [] true m nofun (Nat.zero_le k) (Nat.zero_le bound) (by omega)
      refine .ifFalse hends (.bind (Fails.orElse hlabel (s.parses_stmt rfl hs (by omega) (by omega))) fun y hy =>
        .bind parses_rowEnds fun b hb => ?_)
      rw [hb]
      exact .bind hmore fun ys hys => .pure (.cons hy hys)
    | cons s' ss =>
      have hmore := parses_stmts (s' :: ss) false m (fun t ht => hplain t (List.mem_cons_of_mem s ht)) (by omega) (by omega)
        (by omega)
      obtain ⟨kind', text', v', rest', hrow', hend', -⟩ := s'.exists_row (hplain s' (List.mem_cons_of_mem s List.mem_cons_self))
      rw [Line.rows, hrow'] at hmore hlabel hends ⊢
      refine .ifFalse hends (.bind (Fails.orElse hlabel (s.parses_stmt rfl hs (by omega) (by omega))) fun y hy =>
        .bind parses_rowEnds fun b hb => ?_)
      rw [hb, hend']
      exact .bind (parses_takeEnd rfl) fun _ _ => .bind hmore fun ys hys => .pure (.cons hy hys)

theorem parses_block {ss : List Line} (hplain : ∀ s ∈ ss, s.isPlain) (hk : Line.sizes ss ≤ k)
    (hbound : Line.sizes ss ≤ bound) :
    Parses (Layer.build bound (k + 3)).block (sign "\x7b" :: (Line.rows true ss ++ blockEnd :: us)) us
      fun b => ∃ xs p, b = .mk xs p ∧ List.Forall₂ Line.Forms ss xs := by
  have hlength : ss.length < bound + 1 := by
    have := Line.length_le_sizes ss
    omega
  exact .bind (parses_take rfl) fun start _ => .bind (parses_stmts ss true _ hplain hk hbound hlength) fun ys hys =>
    .bind (parses_take rfl) fun _ _ => .pure ⟨ys, start, rfl, hys⟩

/-! ## Functions -/

theorem parses_qualifiedName {p n : String} {line : Bool} :
    Parses (qualifiedName line) (inLine .word p :: sign "." :: inLine .word n :: us) us (Result.named p n).Forms := by
  refine .bind (parses_takeName rfl) fun a ha => .bind (parses_ends line) fun b hb => .bind (parses_sees_self rfl) fun c hc => ?_
  rw [hb, hc, if_pos (by cases line <;> rfl)]
  refine .bind (parses_take rfl) fun _ _ => .bind (parses_takeName rfl) fun m hm => .pure ?_
  exact ⟨a.node, m, _, rfl, ⟨a.place, by rw [Name.node, ha, inLine]⟩, hm⟩

/-- A type in a package is parsed where no list of types follows. -/
theorem parses_namedType {p n : String} (hp : isWord p) (hu : u.text ≠ "[") :
    Parses ((Layer.build bound (k + 1)).type true) (inLine .word p :: sign "." :: inLine .word n :: u :: us) (u :: us)
      (Result.named p n).Forms := by
  refine .bind parses_next fun t ht => ?_
  obtain ⟨t, rfl, hspelling⟩ := Option.map_eq_some_iff.mp ht
  have htext : t.text = p := congrArg Spelling.text hspelling
  dsimp only
  split
  case h_11 =>
    refine .bind parses_qualifiedName fun y hy => .bind (parses_ends true) fun b hb => .bind (parses_sees_not hu) fun c hc => ?_
    rw [hc, Bool.and_false, if_neg Bool.false_ne_true]
    exact .pure hy
  all_goals
    rename_i heq
    exact absurd (htext.symm.trans heq) (ne_of_word hp (by decide))

/-- A pointer to a type is parsed as the type is. -/
theorem parses_pointer {P : Node → Prop} (h : Parses ((Layer.build bound (k + 1)).type true) us vs P) :
    Parses ((Layer.build bound (k + 2)).type true) (sign "*" :: us) vs fun y => ∃ x start, y = .mk (.star x) start ∧ P x := by
  refine .bind parses_next fun t ht => ?_
  obtain ⟨t, rfl, hspelling⟩ := Option.map_eq_some_iff.mp ht
  have htext : t.text = "*" := congrArg Spelling.text hspelling
  dsimp only
  rw [htext]
  exact .bind (parses_take rfl) fun _ _ => .bind h fun y hy => .pure ⟨y, _, rfl, hy⟩

/-- An empty list of parameters. -/
theorem parses_paramList : Parses (paramList (Layer.build bound k)) (sign "(" :: sign ")" :: us) us (· = []) := by
  have htype {line : Bool} : Fails ((Layer.build bound k).type line) (sign ")" :: us) := fails_type bound k line nofun rfl
  have hname : Fails takeName (sign ")" :: us) := fails_takeName nofun
  have hentry : Fails (paramEntry (Layer.build bound k)) (sign ")" :: us) :=
    .both (.bind hname) (.both (Parses.fails hname.optional fun _ _ => .bind (fails_take (by decide)))
      (.both (.bind hname) (.bind htype)))
  exact .bind (parses_take rfl) fun _ _ => .bind (Fails.orElse (.bind hentry) (.pure rfl)) fun es hes =>
    .bind (parses_closing (by decide) rfl) fun _ _ => .pure (by rw [← hes]; rfl)

theorem parses_signature : ∀ r : Result, r.isPlain →
    Parses (signature (Layer.build bound (k + 2)) true) (sign "(" :: sign ")" :: (r.row ++ sign "\x7b" :: us))
      (sign "\x7b" :: us) r.Forms
  | .nothing, _ => by
    refine .bind parses_paramList fun ps hps => .ifFalse (parses_ends true) (.ifFalse (parses_sees_not (by decide))
      (.bind (Fails.optional (fails_type bound _ true nofun rfl)) fun result hresult => .pure ?_))
    rw [hps, hresult]
    rfl
  | .type false p n, h => by
    rw [Result.isPlain, Bool.and_eq_true] at h
    have htype : Parses ((Layer.build bound (k + 2)).type true) (Result.row (.type false p n) ++ sign "\x7b" :: us)
        (sign "\x7b" :: us) (Result.named p n).Forms :=
      parses_namedType h.1 (by decide)
    refine .bind parses_paramList fun ps hps => .ifFalse (parses_ends true)
      (.ifFalse (parses_sees_not (ne_of_word h.1 (by decide))) (.bind (.optional htype) fun result hresult => .pure ?_))
    obtain ⟨y, rfl, hy⟩ := hresult
    exact ⟨y, by rw [hps, Option.map_some], hy⟩
  | .type true p n, h => by
    rw [Result.isPlain, Bool.and_eq_true] at h
    have htype : Parses ((Layer.build bound (k + 2)).type true) (Result.row (.type true p n) ++ sign "\x7b" :: us)
        (sign "\x7b" :: us) fun y => ∃ x start, y = .mk (.star x) start ∧ (Result.named p n).Forms x :=
      parses_pointer (parses_namedType h.1 (by decide))
    refine .bind parses_paramList fun ps hps => .ifFalse (parses_ends true)
      (.ifFalse (parses_sees_not (by decide)) (.bind (.optional htype) fun result hresult => .pure ?_))
    obtain ⟨_, rfl, x, start, rfl, hx⟩ := hresult
    exact ⟨x, start, by rw [hps, Option.map_some], hx⟩

/-- A function is parsed to what was written. -/
theorem Routine.parses_funcDecl {r : Routine} (hplain : r.isPlain) (hk : Line.sizes r.body ≤ k)
    (hbound : Line.sizes r.body ≤ bound) :
    Parses (funcDecl (Layer.build bound (k + 3))) (r.row newLine ++ us) us r.Forms := by
  rw [isPlain, Bool.and_eq_true, Bool.and_eq_true, List.all_eq_true] at hplain
  obtain ⟨⟨hname, hresult⟩, hbody⟩ := hplain
  have hrow : r.row newLine ++ us = ⟨.keyword, "func", newLine⟩ :: inLine .word r.name :: sign "(" :: sign ")" ::
      (r.result.row ++ sign "\x7b" :: (Line.rows true r.body ++ blockEnd :: us)) := by
    simp [row]
  rw [hrow]
  refine .bind (parses_take rfl) fun start _ => .bind (parses_sees_not (ne_of_word hname (by decide))) fun b hb => ?_
  rw [hb]
  refine .bind .omitted fun recv hrecv => .bind (parses_takeName rfl) fun name hname => .bind (parses_sees_not (by decide))
    fun c hc => ?_
  rw [hc, Bool.and_false, hrecv]
  refine .bind .omitted fun params hparams => .bind (parses_signature _ hresult) fun sig hsig => .bind (parses_ends true)
    fun stop hstop => .bind (parses_sees_self rfl) fun d hd => ?_
  rw [hd, hstop, hparams]
  refine .bind (.only (parses_block hbody hk hbound)) fun body hblock => .pure ?_
  obtain ⟨_, rfl, xs, p, rfl, hxs⟩ := hblock
  exact ⟨name, sig, xs, p, _, rfl, hname, hsig, hxs⟩

end GoRebuild.Grammar
