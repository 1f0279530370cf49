import GoRebuild.Grammar.Source
import GoRebuild.Proofs.Grammar.Parses
import GoRebuild.Proofs.Parse.Simple

/-!
# Parsing calls of members

* `Primary.size`, `Primary.posts` : how many tokens an expression has, and how many of them stand behind its operand;
* `Stops f u` : a token behind which an expression does not go on;
* `Primary.parses_expr` : the tokens of a name, a literal, a member or a call are parsed to what was written.
-/

namespace GoRebuild.Grammar
open Lexical Scan

/-! ## How long expressions are -/

namespace Primary

mutual

/-- How many tokens an expression has at least. -/
def size : Primary → Nat
  | .name _ => 1
  | .literal _ => 1
  | .select x _ => x.size + 2
  | .call f as _ => f.size + 2 + sizes as

/-- The same of arguments. -/
def sizes : List Primary → Nat
  | [] => 0
  | a :: as => a.size + sizes as

end

/-- How many members and calls stand behind the first token. -/
def posts : Primary → Nat
  | .name _ => 0
  | .literal _ => 0
  | .select x _ => x.posts + 1
  | .call f _ _ => f.posts + 1

theorem posts_lt_size : ∀ x : Primary, x.posts < x.size
  | .name _ | .literal _ => Nat.zero_lt_one
  | .select x _ => by
    have := x.posts_lt_size
    rw [posts, size]
    omega
  | .call f _ _ => by
    have := f.posts_lt_size
    rw [posts, size]
    omega

theorem length_le_sizes : ∀ as : List Primary, as.length ≤ sizes as
  | [] => Nat.le_refl _
  | a :: as => by
    have := a.posts_lt_size
    have := length_le_sizes as
    rw [sizes, List.length_cons]
    omega

mutual

theorem size_le (newLine : Bool) : ∀ x : Primary, x.size ≤ (x.row newLine).length
  | .name _ | .literal _ => Nat.le_refl _
  | .select x _ => by
    have := x.size_le newLine
    rw [size, row, List.length_append]
    simpa
  | .call f [] _ => by
    have := f.size_le newLine
    rw [size, sizes, row, List.length_append]
    simpa
  | .call f (a :: as) broken => by
    have hfn := f.size_le newLine
    have ha := a.size_le broken
    have has := sizes_le broken as
    have hend : 1 ≤ (callEnd broken).length := by cases broken <;> decide
    simp only [size, sizes, row, List.length_append, List.length_cons]
    omega

theorem sizes_le (broken : Bool) : ∀ as : List Primary, sizes as ≤ (rowRest broken as).length
  | [] => Nat.le_refl _
  | a :: as => by
    have := a.size_le broken
    have := sizes_le broken as
    rw [sizes, rowRest, List.length_cons, List.length_append]
    omega

end

/-- An expression that was written is no list of types. -/
theorem Forms.asGeneric? : ∀ {x : Primary} {y : Node}, x.Forms y → y.asGeneric? = none
  | .name _, _, ⟨_, rfl⟩ | .literal _, _, ⟨_, rfl⟩ => rfl
  | .select .., _, ⟨_, _, _, rfl, _⟩ | .call .., _, ⟨_, _, _, rfl, _⟩ => rfl

theorem Forms.typeArgumentPlace? : ∀ {x : Primary} {y : Node}, x.Forms y → y.typeArgumentPlace? = none
  | .name _, _, ⟨_, rfl⟩ | .literal _, _, ⟨_, rfl⟩ => rfl
  | .select .., _, ⟨_, _, _, rfl, _⟩ | .call .., _, ⟨_, _, _, rfl, _⟩ => rfl

end Primary

/-! ## Operands -/

variable {l : Layer} {f : Follow} {n : String} {newLine : Bool} {u v : Spelling} {us vs : List Spelling}

theorem ne_of_word {text : String} (h : isWord n) (htext : isWord text = false) : n ≠ text := by
  rintro rfl
  rw [h] at htext
  cases htext

theorem startsOperand_of_word (h : isWord n) : startsOperand n :=
  startsOperand_of isWord h (by decide)

theorem ofToken?_eq_none (h : startsOperand n) : PrefixOp.ofToken? n = none := by
  unfold PrefixOp.ofToken?
  split
  case h_11 => rfl
  all_goals cases h

theorem starts_of_spelling {t : Token} (ht : t.spelling = u) (h : startsOperand u.text) : startsOperand t.text :=
  (congrArg (fun u => startsOperand u.text) ht).trans h

theorem parses_wordOperand (h : ["make", "new"].contains n = false) :
    Parses (wordOperand l f) (⟨.word, n, newLine⟩ :: v :: us) (v :: us) fun x => ∃ p, x = .mk (.name n) p := by
  refine .bind (parses_takeName rfl) fun m hm => .bind (parses_ends f.line) fun stop _ =>
    .bind (parses_sees "(") fun b _ => ?_
  rw [hm, h, Bool.false_and, Bool.false_and, if_neg Bool.false_ne_true]
  exact .pure ⟨m.place, by rw [Name.node, hm]⟩

theorem parses_literalOperand (lit : BasicLit) :
    Parses literalOperand (⟨.literal lit.kind, lit.value, newLine⟩ :: us) us fun x => ∃ p, x = .mk (.literal lit) p := by
  intro ts hts
  obtain ⟨⟨kind, text, line, place⟩, rest, rfl, hu, hrest⟩ := exists_cons_of_spellings hts
  cases hu
  exact ⟨_, rest, rfl, hrest, place, rfl⟩

/-- What is no bracket and no function is a name, a literal or a type. -/
theorem operand_eq (t : Token) (ts : List Token) (h : startsOperand t.text) :
    operand l f (t :: ts) = (wordOperand l f <|> literalOperand <|> typeOperand l f) (t :: ts) := by
  dsimp only [operand, bind, StateT.bind, next?, List.head?, Option.bind]
  refine congrFun ?_ (t :: ts)
  split
  case h_4 => rfl
  all_goals
    rename_i heq
    rw [heq] at h
    cases h

/-- An operand that is no operator is read with what binds tighter than operators. -/
theorem unary_eq (t : Token) (ts : List Token) (h : startsOperand t.text) :
    unary l f (t :: ts) = (do
      let x ← operand l f
      postfixes l f l.bound x) (t :: ts) := by
  have hstar : ¬(t.text == "*") := by
    intro heq
    rw [beq_iff_eq.mp heq] at h
    cases h
  dsimp only [unary, bind, StateT.bind, next?, List.head?, Option.bind]
  rw [if_neg hstar, ofToken?_eq_none h]
  rfl

theorem parses_operand_name (hword : isWord n) (h : ["make", "new"].contains n = false) :
    Parses (operand l f) (⟨.word, n, newLine⟩ :: v :: us) (v :: us) fun x => ∃ p, x = .mk (.name n) p :=
  .congr (.orElse (parses_wordOperand h)) fun t ts ht => operand_eq t ts (starts_of_spelling ht (startsOperand_of_word hword))

theorem parses_operand_literal (lit : BasicLit) (h : startsOperand lit.value) :
    Parses (operand l f) (⟨.literal lit.kind, lit.value, newLine⟩ :: us) us fun x => ∃ p, x = .mk (.literal lit) p :=
  .congr (Fails.orElse (.bind (fails_takeName nofun)) (.orElse (parses_literalOperand lit))) fun t ts ht =>
    operand_eq t ts (starts_of_spelling ht h)

/-! ## What does not go on -/

/-- A token behind which an expression does not go on: a comma, a closing parenthesis, an operator of assignments or,
where line breaks end expressions, one on another line. -/
def Stops (f : Follow) (u : Spelling) : Prop :=
  (f.line && u.newLine) = true ∨ [",", ")", ":="].contains u.text

theorem Stops.text_ne (h : Stops f u) (hline : (f.line && u.newLine) = false) {text : String}
    (htext : [",", ")", ":="].contains text = false) : u.text ≠ text := by
  rintro rfl
  rw [Stops, hline, htext] at h
  simp at h

theorem parses_seesBraces (hu : u.text ≠ "\x7b") : Parses (seesBraces f) (u :: us) (u :: us) (· = false) :=
  .bind (parses_ends f.line) fun stop _ => .bind (parses_sees_not hu) fun brace hbrace =>
    .pure (by rw [hbrace, Bool.and_false])

theorem Stops.parses_postfixes (h : Stops f u) (x : Node) (m : Nat) :
    Parses (postfixes l f m x) (u :: us) (u :: us) (· = x) := by
  cases m with
  | zero => exact .pure rfl
  | succ m =>
    cases hline : f.line && u.newLine with
    | true => exact .ifTrue (.mono (parses_ends f.line) fun _ hb => hb.trans hline) (.pure rfl)
    | false =>
      have hne {text : String} (htext : [",", ")", ":="].contains text = false) := h.text_ne hline htext
      have hall : Parses (seesAll [".", "(", "type"]) (u :: us) (u :: us) (· = false) := by
        refine .mono (parses_seesAll _) fun b hb => hb.trans ?_
        have hdot : "." ≠ u.text := (@hne "." (by decide)).symm
        simp [List.isPrefixOf, hdot]
      refine .ifFalse (.mono (parses_ends f.line) fun _ hb => hb.trans hline) (.ifFalse hall
        (.ifFalse (parses_sees_not (hne (by decide))) (.ifFalse (parses_sees_not (hne (by decide)))
          (.ifFalse (parses_sees_not (hne (by decide))) (.bind (parses_seesBraces (hne (by decide))) fun b hb => ?_)))))
      rw [hb, Bool.and_false, if_neg Bool.false_ne_true]
      exact .pure rfl

theorem Stops.parses_infixes (h : Stops f u) (x : Node) (k m : Nat) :
    Parses (infixes l f k m x) (u :: us) (u :: us) (· = x) := by
  cases m with
  | zero => exact .pure rfl
  | succ m =>
    cases hline : f.line && u.newLine with
    | true => exact .ifTrue (.mono (parses_ends f.line) fun _ hb => hb.trans hline) (.pure rfl)
    | false =>
      refine .ifFalse (.mono (parses_ends f.line) fun _ hb => hb.trans hline) (.bind parses_next fun t ht => ?_)
      obtain ⟨t, rfl, rfl⟩ := Option.map_eq_some_iff.mp ht
      have htext : [",", ")", ":="].contains t.text := by
        rcases h with h | h
        · rw [hline] at h
          cases h
        · exact h
      have hprecedence : precedence (operatorOf f t.text).1 = 0 := by
        simp only [List.contains_eq_mem, List.mem_cons, List.not_mem_nil, or_false, decide_eq_true_eq] at htext
        rcases htext with h | h | h <;> rw [h] <;> rfl
      dsimp only
      rw [hprecedence]
      exact .pure rfl

/-! ## Members and calls -/

/-- No type starts with a closing parenthesis or an opening brace. -/
theorem fails_typeRule (line : Bool) (hkind : u.kind ≠ .word) (htext : [")", "\x7b"].contains u.text) :
    Fails (typeRule l line) (u :: us) := by
  refine Parses.fails parses_next fun t ht => ?_
  obtain ⟨t, rfl, rfl⟩ := Option.map_eq_some_iff.mp ht
  have hne {text : String} (h : [")", "\x7b"].contains text = false) : t.text ≠ text := by
    rintro rfl
    exact Bool.false_ne_true (h.symm.trans htext)
  dsimp only
  split
  case h_11 => exact .bind (.bind (fails_takeName hkind))
  all_goals
    rename_i heq
    exact absurd heq (hne (by decide))

theorem fails_type (bound k : Nat) (line : Bool) (hkind : u.kind ≠ .word) (htext : [")", "\x7b"].contains u.text) :
    Fails ((Layer.build bound k).type line) (u :: us) := by
  cases k with
  | zero => exact .failure
  | succ k => exact fails_typeRule line hkind htext

/-- Nor does an expression start with a closing parenthesis. -/
theorem fails_expr (bound k : Nat) (level : Nat) :
    Fails ((Layer.build bound k).expr f level) (⟨.symbol, ")", newLine⟩ :: us) := by
  cases k with
  | zero => exact .failure
  | succ k =>
    have hword {l : Layer} : Fails (wordOperand l f) (⟨.symbol, ")", newLine⟩ :: us) := .bind (fails_takeName nofun)
    have hliteral : Fails literalOperand (⟨.symbol, ")", newLine⟩ :: us) := by
      intro ts hts
      obtain ⟨⟨kind, text, line, place⟩, rest, rfl, hu, hrest⟩ := exists_cons_of_spellings hts
      cases hu
      rfl
    have hoperand : Fails (operand (Layer.build bound k) f) (⟨.symbol, ")", newLine⟩ :: us) :=
      .congr (.both hword (.both hliteral (.bind (fails_typeRule false nofun rfl)))) fun t ts ht =>
        operand_eq t ts (starts_of_spelling ht rfl)
    exact .bind (.congr (.bind hoperand) fun t ts ht => unary_eq t ts (starts_of_spelling ht rfl))

/-- A layer above has the same bound. -/
theorem bound_build (bound : Nat) : ∀ n, (Layer.build bound n).bound = bound
  | 0 => rfl
  | _ + 1 => rfl

/-- A member behind an expression. -/
theorem parses_postfixes_select {m : Nat} {x : Node} {member : String} {P : Node → Prop} (hmember : isWord member)
    (h : ∀ y : Name, y.text = member → Parses (postfixes l f m (.mk (.select x y) x.start)) us vs P) :
    Parses (postfixes l f (m + 1) x) (sign "." :: inLine .word member :: us) vs P := by
  have hparen : member ≠ "(" := ne_of_word hmember (by decide)
  have hends : Parses (ends f.line) (sign "." :: inLine .word member :: us) (sign "." :: inLine .word member :: us)
      (· = false) :=
    .mono (parses_ends f.line) fun _ hb => hb.trans (Bool.and_false _)
  have hall : Parses (seesAll [".", "(", "type"]) (sign "." :: inLine .word member :: us)
      (sign "." :: inLine .word member :: us) (· = false) := by
    refine .mono (parses_seesAll _) fun b hb => hb.trans ?_
    simp [List.isPrefixOf, sign, inLine, hparen.symm]
  refine .ifFalse hends (.ifFalse hall (.ifTrue (parses_sees_self rfl) (.bind (parses_take rfl) fun _ _ =>
    .ifFalse (parses_takes_not hparen) (.bind (parses_takeName rfl) h))))

/-- Arguments behind an expression. -/
theorem parses_postfixes_call {m : Nat} {fn : Primary} {x : Node} (as : List Primary) {P : Node → Prop} (hx : fn.Forms x)
    (has : Parses (argList l) (sign "(" :: us) vs (Primary.AllForm as))
    (h : ∀ bs, Primary.AllForm as bs → Parses (postfixes l f m (.mk (.call x bs) x.start)) vs ws P) :
    Parses (postfixes l f (m + 1) x) (sign "(" :: us) ws P := by
  have hends : Parses (ends f.line) (sign "(" :: us) (sign "(" :: us) (· = false) :=
    .mono (parses_ends f.line) fun _ hb => hb.trans (Bool.and_false _)
  have hall : Parses (seesAll [".", "(", "type"]) (sign "(" :: us) (sign "(" :: us) (· = false) :=
    .mono (parses_seesAll _) fun b hb => hb.trans rfl
  have hcall : Parses (callTail l x) (sign "(" :: us) vs fun y => ∃ bs, y = .mk (.call x bs) x.start ∧ Primary.AllForm as bs := by
    refine .bind has fun bs hbs => ?_
    rw [hx.asGeneric?]
    split
    · rename_i heq
      cases heq
    · rw [hx.typeArgumentPlace?]
      exact .pure ⟨_, rfl, hbs⟩
  refine .ifFalse hends (.ifFalse hall (.ifFalse (parses_sees_not (by decide)) (.ifFalse (parses_sees_not (by decide))
    (.ifTrue (parses_sees_self rfl) (.bind hcall fun y hy => ?_)))))
  obtain ⟨bs, rfl, hbs⟩ := hy
  exact h bs hbs

/-! ## Whole expressions -/

namespace Primary

/-- The first token of an expression starts an operand. -/
theorem exists_row : ∀ x : Primary, x.isPlain →
    ∃ kind text rest, (∀ newLine, x.row newLine = ⟨kind, text, newLine⟩ :: rest) ∧ startsOperand text ∧ text ≠ ")"
  | .name n, h => by
    rw [isPlain, Bool.and_eq_true] at h
    exact ⟨_, _, _, fun _ => rfl, startsOperand_of_word h.1, ne_of_word h.1 (by decide)⟩
  | .literal l, h => by
    rw [isPlain, Bool.and_eq_true] at h
    exact ⟨_, _, _, fun _ => rfl, h.1, bne_iff_ne.mp h.2⟩
  | .select x m, h => by
    rw [isPlain, Bool.and_eq_true] at h
    obtain ⟨kind, text, rest, hrow, hstarts⟩ := x.exists_row h.1
    exact ⟨kind, text, _, fun newLine => by rw [row, hrow]; rfl, hstarts⟩
  | .call f as broken, h => by
    rw [isPlain, Bool.and_eq_true] at h
    obtain ⟨kind, text, rest, hrow, hstarts⟩ := f.exists_row h.1
    cases as with
    | nil => exact ⟨kind, text, _, fun newLine => by rw [row, hrow]; rfl, hstarts⟩
    | cons a as => exact ⟨kind, text, _, fun newLine => by rw [row, hrow]; rfl, hstarts⟩

/-- Behind an argument a comma or a parenthesis stands. -/
theorem exists_rest (broken : Bool) (us : List Spelling) (as : List Primary) :
    ∃ u rest, rowRest broken as ++ (callEnd broken ++ us) = u :: rest ∧ [",", ")"].contains u.text := by
  cases as with
  | nil =>
    cases broken with
    | true => exact ⟨_, _, rfl, rfl⟩
    | false => exact ⟨_, _, rfl, rfl⟩
  | cons a as => exact ⟨_, _, rfl, rfl⟩

section
variable {bound k : Nat}

/-- An expression is parsed if its operand and members are, where nothing goes on behind them. -/
theorem parses_exprRule {x : Primary} {level : Nat} (hplain : x.isPlain) (hbound : x.size ≤ bound) (hstop : Stops f u)
    (h : (∀ y : Node, x.Forms y →
        Parses (postfixes (Layer.build bound k) f (bound - x.posts) y) (u :: us) (u :: us) x.Forms) →
      Parses (do
        let y ← operand (Layer.build bound k) f
        postfixes (Layer.build bound k) f (bound - x.posts + x.posts) y) (x.row newLine ++ u :: us) (u :: us)
        x.Forms) :
    Parses (exprRule (Layer.build bound k) f level) (x.row newLine ++ u :: us) (u :: us) x.Forms := by
  have hposts := x.posts_lt_size
  have hoperand := h fun y hy => .mono (hstop.parses_postfixes y _) fun z hz => hz ▸ hy
  rw [Nat.sub_add_cancel (by omega)] at hoperand
  obtain ⟨kind, text, rest, hrow, hstarts, -⟩ := x.exists_row hplain
  rw [hrow] at hoperand ⊢
  refine .bind (.congr ?_ fun t ts ht => unary_eq t ts (starts_of_spelling ht hstarts)) fun y hy =>
    .mono (hstop.parses_infixes y level _) fun z hz => hz ▸ hy
  rwa [bound_build]

/-- What ends an argument. -/
theorem stops_inside (hu : [",", ")"].contains u.text) : Stops .inside u := by
  refine .inr ?_
  simp only [List.contains_eq_mem, List.mem_cons, List.not_mem_nil, or_false, decide_eq_true_eq] at hu ⊢
  tauto

/-- An argument is an expression one layer below. -/
theorem parses_argument {x : Primary} (hu : [",", ")"].contains u.text)
    (h : Parses (exprRule (Layer.build bound k) .inside 1) (x.row newLine ++ u :: us) (u :: us) x.Forms) :
    Parses (argument (Layer.build bound (k + 1))) (x.row newLine ++ u :: us) (u :: us)
      fun a => ∃ y, a = .plain y ∧ x.Forms y :=
  .bind h fun y hy => .ifFalse (parses_takes_not ((stops_inside hu).text_ne rfl rfl)) (.pure ⟨y, rfl, hy⟩)

/-- Where no argument follows, arguments end. -/
theorem parses_rest_nil {k m : Nat} (broken : Bool) : Parses (commaTail (argument (Layer.build bound k)) m)
    (callEnd broken ++ us) (callEnd broken ++ us) (· = []) := by
  refine parses_many_nil ?_ m
  cases broken with
  | true => exact Parses.fails (parses_take rfl) fun _ _ => .bind (fails_expr bound k 1)
  | false => exact .bind (fails_take (by decide))

theorem parses_callEnd (broken : Bool) : Parses (closing ")") (callEnd broken ++ us) us fun _ => True := by
  cases broken with
  | true => exact parses_closing_comma rfl rfl
  | false => exact parses_closing (by decide) rfl

mutual

/-- An operand and what binds tighter than operators is parsed up to where something else parses on. -/
theorem parses_operand {k : Nat} : ∀ x : Primary, x.isPlain → x.size ≤ k → x.size ≤ bound →
    ∀ {m f newLine u us vs} {P : Node → Prop}, (∀ y : Node, x.Forms y → Parses (postfixes (Layer.build bound k) f m y) (u :: us) vs P) →
      Parses (do
        let y ← operand (Layer.build bound k) f
        postfixes (Layer.build bound k) f (m + x.posts) y) (x.row newLine ++ u :: us) vs P
  | .name n, hplain, _, _, _, _, _, _, _, _, _, hrest => by
    rw [isPlain, Bool.and_eq_true, Bool.not_eq_true'] at hplain
    exact .bind (parses_operand_name hplain.1 hplain.2) hrest
  | .literal lit, hplain, _, _, _, _, _, _, _, _, _, hrest => by
    rw [isPlain, Bool.and_eq_true] at hplain
    exact .bind (parses_operand_literal lit hplain.1) hrest
  | .select x member, hplain, hk, hbound, _, _, _, _, _, _, _, hrest => by
    rw [isPlain, Bool.and_eq_true] at hplain
    rw [size] at hk hbound
    rw [posts, row, List.append_assoc, ← Nat.add_assoc, Nat.add_right_comm]
    refine x.parses_operand hplain.1 (by omega) (by omega) fun y hy => parses_postfixes_select hplain.2 fun z hz => ?_
    exact hrest _ ⟨y, z, _, rfl, hy, hz⟩
  | .call fn [] broken, hplain, hk, hbound, _, _, _, _, _, _, _, hrest => by
    rw [isPlain, Bool.and_eq_true] at hplain
    rw [size] at hk hbound
    rw [posts, row, List.append_assoc, ← Nat.add_assoc, Nat.add_right_comm]
    exact fn.parses_operand hplain.1 (by omega) (by omega) fun y hy => parses_postfixes_call [] hy
      (.bind (parses_take rfl) fun _ _ => .ifTrue (parses_takes rfl) (.pure rfl)) fun bs hbs => hrest _ ⟨y, bs, _, rfl, hy, hbs⟩
  | .call fn (a :: as) broken, hplain, hk, hbound, _, _, _, u, us, _, _, hrest => by
    rw [isPlain, arePlain, Bool.and_eq_true, Bool.and_eq_true] at hplain
    obtain ⟨hfn, ha, has⟩ := hplain
    rw [size, sizes] at hk hbound
    obtain ⟨k, rfl⟩ : ∃ k', k = k' + 1 := ⟨k - 1, by omega⟩
    obtain ⟨v, rest, hnext, hv⟩ := exists_rest broken (u :: us) as
    have hmore := parses_rest (m := bound) as broken (u :: us) has (k := k + 1) (by omega) (by omega)
      (Nat.le_trans (length_le_sizes as) (by omega))
    have hfirst : Parses (argument (Layer.build bound (k + 1))) (a.row broken ++ v :: rest) (v :: rest)
        fun b => ∃ y, b = .plain y ∧ a.Forms y :=
      parses_argument hv (parses_exprRule ha (by omega) (stops_inside hv) (a.parses_operand ha (k := k) (by omega) (by omega)))
    rw [posts, row, List.append_assoc, List.cons_append, List.append_assoc, List.append_assoc, hnext, ← Nat.add_assoc,
      Nat.add_right_comm]
    rw [hnext] at hmore
    have hopen : Parses (takes ")") (a.row broken ++ v :: rest) (a.row broken ++ v :: rest) (· = false) := by
      obtain ⟨kind, text, tail, hrow, -, hclose⟩ := a.exists_row ha
      rw [hrow]
      exact parses_takes_not hclose
    refine fn.parses_operand hfn (by omega) (by omega) fun y hy => parses_postfixes_call (a :: as) hy
      (.bind (parses_take rfl) fun _ _ => .ifFalse hopen ?_) fun bs hbs =>
      hrest _ ⟨y, bs, _, rfl, hy, hbs⟩
    refine .bind (.bind hfirst fun b hb => .bind hmore fun bs hbs => .pure ?_) fun bs hbs =>
      .bind (parses_callEnd broken) fun _ _ => .pure hbs
    obtain ⟨y, rfl, hy⟩ := hb
    exact ⟨y, bs, rfl, hy, hbs⟩

/-- The arguments after the first. -/
theorem parses_rest {m k : Nat} : ∀ (as : List Primary) (broken : Bool) (us : List Spelling), arePlain as →
    sizes as < k → sizes as ≤ bound → as.length ≤ m →
    Parses (commaTail (argument (Layer.build bound k)) m) (rowRest broken as ++ (callEnd broken ++ us))
      (callEnd broken ++ us) (AllForm as)
  | [], broken, _, _, _, _, _ => .mono (parses_rest_nil broken) fun _ hbs => hbs
  | a :: as, broken, us, hplain, hk, hbound, hm => by
    rw [arePlain, Bool.and_eq_true] at hplain
    rw [sizes] at hk hbound
    obtain ⟨k, rfl⟩ : ∃ k', k = k' + 1 := ⟨k - 1, by omega⟩
    obtain ⟨m, rfl⟩ : ∃ m', m = m' + 1 := ⟨m - 1, by rw [List.length_cons] at hm; omega⟩
    obtain ⟨v, rest, hnext, hv⟩ := exists_rest broken us as
    have hmore := parses_rest (m := m) (k := k + 1) as broken us hplain.2 (by omega) (by omega)
      (Nat.le_of_succ_le_succ hm)
    have hfirst : Parses (argument (Layer.build bound (k + 1))) (a.row broken ++ v :: rest) (v :: rest)
        fun b => ∃ y, b = .plain y ∧ a.Forms y :=
      parses_argument hv
        (parses_exprRule hplain.1 (by omega) (stops_inside hv) (a.parses_operand hplain.1 (k := k) (by omega) (by omega)))
    rw [rowRest, List.cons_append, List.append_assoc, hnext]
    rw [hnext] at hmore
    refine .mono (parses_many_cons (.bind (parses_take rfl) fun _ _ => hfirst) hmore) ?_
    rintro _ ⟨_, bs, rfl, ⟨y, rfl, hy⟩, hbs⟩
    exact ⟨y, bs, rfl, hy, hbs⟩

end

/-- An expression is parsed to what was written, where nothing goes on behind it. -/
theorem parses_expr {x : Primary} (hplain : x.isPlain) {level : Nat} (hk : x.size ≤ k) (hbound : x.size ≤ bound)
    (hstop : Stops f u) : Parses ((Layer.build bound (k + 1)).expr f level) (x.row newLine ++ u :: us) (u :: us)
      x.Forms :=
  parses_exprRule hplain hbound hstop (x.parses_operand hplain hk hbound)

end

end Primary

end GoRebuild.Grammar
