import GoRebuild.Proofs.Grammar.Plain
import GoRebuild.Proofs.Parse.Conformance
import GoRebuild.Proofs.Reader.Agreement

/-!
# What reading keeps of the tokens

* `Func.read_agrees`, `Item.read_agrees` : entries at top level;
* `AgreeTops` : all entries of a source, package clauses and declarations;
* `File.Writes f tokens` : the tree, written in its order, gives the tokens of the source;
* `File.read_writes_iff` : it does so exactly where it has room for the source.
-/

namespace GoRebuild.Grammar
open Lexical Piece Reading

variable (s : Setting)

/-! ## Entries at top level -/

theorem readReceiver_agrees (recv : Option (List Param)) :
    Gives (recv.mapM (readParams s)) fun fs =>
      Agree (Param.isFaithfulReceiver recv) (Param.receiverPieces recv) (Field.receiverPieces fs) := by
  cases recv with
  | none => exact .pure (.refl rfl)
  | some ps => exact .bind (readParams_agrees s ps) fun _ h => .pure h.rows.parens

theorem readBody_agrees (body : Option Block) :
    Gives (body.mapM (Block.read s)) fun b =>
      Agree (Block.isFaithfulOption body) (Block.piecesOption body) (GoRebuild.Block.piecesOption b) := by
  cases body with
  | none => exact .pure (.refl rfl)
  | some b => exact .bind (b.read_agrees s) fun _ h => .pure h

theorem Func.read_agrees (f : Func) : Gives (f.read s) fun d => Agree f.isFaithful f.pieces d.pieces := by
  obtain ⟨recv, n, params, sig, body, start⟩ := f
  unfold Func.read
  cases params with
  | some p => exact .bind (Q := fun _ => False) (.refuse s _ p) fun _ h => h.elim
  | none =>
    refine .bind (readReceiver_agrees s recv) fun _ hrecv =>
      .bind (readBody_agrees s body) fun _ hbody => .bind (sig.read_agrees s) fun _ hsig => .pure ?_
    have hname := (hrecv.behind [key "func"] rfl).before [Piece.name n.text] rfl
    rw [← List.append_nil ([key "func"] ++ Param.receiverPieces recv ++ [Piece.name n.text])] at hname
    exact (hname.append hsig).append hbody

theorem agree_path (i : Import) :
    Agree i.isExact [if i.isExact then Piece.path (unquoted i.path) else lit ⟨.string, i.path⟩]
      [Piece.path (unquoted i.path)] := by
  cases hexact : i.isExact with
  | true => exact .refl rfl
  | false =>
    intro hplain
    have hliteral : startsLiteral i.path.toList := by simpa [allPlain, isPlain] using hplain
    obtain ⟨m, hm, -⟩ := marks_of_literal hliteral
    have hread : allMarks [lit ⟨.string, i.path⟩] = [m] := by
      change marksOf i.path ++ [] = [m]
      rw [hm]
      rfl
    refine ⟨rfl, rfl, rfl, by simp, ?_, fun _ => .of_mark (m := .quoted (unquoted i.path)) rfl (by simp) [],
      fun heq => ?_⟩
    · change _ ≤ (allMarks [lit ⟨.string, i.path⟩]).length
      rw [hread]
      exact Nat.le_refl 1
    · -- the literal is the path in quotes
      change [Mark.quoted (unquoted i.path)] = allMarks [lit ⟨.string, i.path⟩] at heq
      rw [hread, ← hm] at heq
      rw [← hexact, Import.isExact, Bool.or_eq_true, beq_iff_eq, beq_iff_eq]
      exact eq_of_marksOf_quoted heq.symm

theorem Import.read_agrees (i : Import) : Agree i.isExact i.pieces (i.read s).pieces := by
  obtain ⟨n, path, start⟩ := i
  rcases n with _ | n | _ | _
  · exact (agree_path _).behind [] rfl
  · exact (agree_path _).behind [Piece.name n] rfl
  · exact (agree_path _).behind [sym "."] rfl
  · exact (agree_path _).behind [Piece.name "_"] rfl

theorem imports_agree (is : List Import) :
    AgreeRows (is.all Import.isExact) (is.map Import.pieces)
      (Spec.piecesList (is.map fun i => .imported (i.read s))) := by
  induction is with
  | nil => exact .nil
  | cons i is ih => exact .cons (i.read_agrees s) ih

/-- The first mark is there and is not the word of package clauses. -/
def StartsOther (ps : List Piece) : Prop :=
  ∃ m, (allMarks ps).head? = some m ∧ m ≠ .word "package"

theorem startsOther_key {w : String} (hw : marksOf w = [.word w]) (hne : w ≠ "package") (ps : List Piece) :
    StartsOther (key w :: ps) :=
  ⟨.word w, by rw [allMarks, Piece.marks, hw]; rfl, fun h => hne (Mark.word.inj h)⟩

/-- What an entry becomes: a package clause with its name, or a declaration that agrees with it and begins
with another word. -/
def AgreeTop : Item → TopLevel → Prop
  | .package n, .package m => m.name = n.text
  | .package _, .decl _ => False
  | i, .decl d => Agree i.isFaithful i.pieces d.pieces ∧ StartsOther i.pieces
  | _, .package _ => False

theorem Decl.startsOther (d : Decl) : StartsOther d.pieces := by
  cases d with
  | value t x _ => cases t <;> exact startsOther_key (by decide) (by decide) _
  | values t xs _ => cases t <;> exact startsOther_key (by decide) (by decide) _
  | type x _ => exact startsOther_key (w := "type") (by decide) (by decide) _
  | types xs _ => exact startsOther_key (w := "type") (by decide) (by decide) _

theorem Item.read_agrees (i : Item) : Gives (i.read s) (AgreeTop i) := by
  have himport : marksOf "import" = [.word "import"] := by decide
  have hfunc : marksOf "func" = [.word "func"] := by decide
  cases i with
  | package n => exact .pure rfl
  | importOne i start =>
    refine .pure ⟨?_, startsOther_key himport (by decide) _⟩
    exact ((AgreeRows.one (i.read_agrees s)).defs false).behind [key "import"] rfl
  | imports is start =>
    refine .pure ⟨?_, startsOther_key himport (by decide) _⟩
    exact ((imports_agree s is).defs true).behind [key "import"] rfl
  | func f => exact .bind (f.read_agrees s) fun _ h => .pure ⟨h, startsOther_key hfunc (by decide) _⟩
  | stmt x =>
    obtain ⟨k, p⟩ := x
    cases k with
    | decl d => exact .bind (d.read_agrees s p) fun _ h => .pure ⟨h, d.startsOther⟩
    | _ => exact .refuse s _ _

/-! ## All entries -/

/-- Entries, each with what it becomes. -/
inductive AgreeTops : List Item → List TopLevel → Prop
  | nil : AgreeTops [] []
  | cons {i : Item} {t : TopLevel} {is : List Item} {ts : List TopLevel} : AgreeTop i t → AgreeTops is ts →
    AgreeTops (i :: is) (t :: ts)

theorem readAllItems_agrees (items : List Item) : Gives (items.mapM fun i : Item => i.read s) (AgreeTops items) := by
  induction items with
  | nil => exact .pure .nil
  | cons i is ih =>
    rw [List.mapM_cons]
    exact .bind (i.read_agrees s) fun _ h => .bind ih fun _ hs => .pure (.cons h hs)

/-- The pieces of entries and of declarations. -/
abbrev itemRows (is : List Item) : List (List Piece) := is.map Item.pieces

abbrev declRows (ts : List TopLevel) : List (List Piece) := (ts.filterMap TopLevel.decl?).map GoRebuild.Decl.pieces

/-- A declaration, and no package clause, comes first. -/
theorem AgreeTop.decl {i : Item} {d : GoRebuild.Decl} (h : AgreeTop i (.decl d)) :
    i.isPackage = false ∧ Agree i.isFaithful i.pieces d.pieces ∧ StartsOther i.pieces := by
  cases i with
  | package n => exact h.elim
  | _ => exact ⟨rfl, h⟩

theorem AgreeTop.package {i : Item} {m : Ident} (h : AgreeTop i (.package m)) :
    ∃ n, i = .package n ∧ m.name = n.text := by
  cases i with
  | package n => exact ⟨n, rfl, h⟩
  | _ => exact h.elim

namespace AgreeTops

variable {is : List Item} {ts : List TopLevel}

/-- Without a package clause, row by row. -/
theorem rows (h : AgreeTops is ts) (hnone : ts.filterMap TopLevel.package? = []) :
    AgreeRows (is.all Item.isFaithful) (itemRows is) (declRows ts) ∧ is.all (fun j => !j.isPackage) := by
  induction h with
  | nil => exact ⟨.nil, rfl⟩
  | @cons i t is ts htop _ ih =>
    cases t with
    | package m => cases hnone
    | decl d =>
      obtain ⟨hpackage, hagree, -⟩ := htop.decl
      obtain ⟨hrows, hall⟩ := ih hnone
      exact ⟨.cons hagree hrows, by rw [List.all_cons, hpackage, hall]; rfl⟩

theorem no_package (h : AgreeTops is ts) (hall : is.all fun j => !j.isPackage) :
    ts.filterMap TopLevel.package? = [] := by
  induction h with
  | nil => rfl
  | @cons i t is ts htop _ ih =>
    rw [List.all_cons, Bool.and_eq_true] at hall
    cases t with
    | package m =>
      obtain ⟨n, rfl, -⟩ := htop.package
      cases hall.1
    | decl d => exact ih hall.2

theorem allMarks_package {n : String} (hn : isWord n) :
    ∃ m, allMarks [key "package", Piece.name n] = [.word "package", m] := by
  obtain ⟨m, hm, -⟩ := marks_of_word hn
  refine ⟨m, ?_⟩
  rw [allMarks, allMarks, allMarks, Piece.marks, Piece.marks, hm, show marksOf "package" = [.word "package"] by decide]
  rfl

/-- All is kept, and each package clause has two marks. -/
theorem marks_le (h : AgreeTops is ts) (hplain : allPlain (itemRows is).flatten) :
    allKept (itemRows is).flatten ∧ allKept (declRows ts).flatten ∧
      (allMarks (declRows ts).flatten).length + 2 * (ts.filterMap TopLevel.package?).length
        ≤ (allMarks (itemRows is).flatten).length := by
  induction h with
  | nil => exact ⟨rfl, rfl, Nat.le_refl 0⟩
  | @cons i t is ts htop _ ih =>
    have hcons : (itemRows (i :: is)).flatten = i.pieces ++ (itemRows is).flatten := rfl
    rw [hcons, allPlain_append, Bool.and_eq_true] at hplain
    obtain ⟨hread, hkept, hle⟩ := ih hplain.2
    rw [hcons, allKept_append, allMarks_append, List.length_append]
    cases t with
    | package m =>
      obtain ⟨n, rfl, -⟩ := htop.package
      have hn : isWord n.text := by simpa [Item.pieces, allPlain, isPlain] using hplain.1
      obtain ⟨w, hw⟩ := allMarks_package hn
      refine ⟨by rw [hread]; rfl, hkept, ?_⟩
      rw [Item.pieces, hw]
      change (allMarks (declRows ts).flatten).length + 2 * ((ts.filterMap TopLevel.package?).length + 1) ≤ 2 + _
      omega
    | decl d =>
      obtain ⟨-, hagree, -⟩ := htop.decl
      obtain ⟨hread', hkept', -, -, hle', -, -⟩ := hagree hplain.1
      refine ⟨by rw [hread, hread']; rfl, ?_, ?_⟩
      · change allKept (d.pieces ++ (declRows ts).flatten)
        rw [allKept_append, hkept', hkept]
        rfl
      · change (allMarks (d.pieces ++ (declRows ts).flatten)).length + 2 * (ts.filterMap TopLevel.package?).length ≤ _
        rw [allMarks_append, List.length_append]
        omega

end AgreeTops

/-! ## The source -/

/-- What does not see ends does not see them before rows. -/
theorem eq_flatten {α : Type} {g : List Piece → α} {op : α → α → α} (hg : ∀ ps qs, g (ps ++ qs) = op (g ps) (g qs))
    (hstop : ∀ ps, g (stop :: ps) = g ps) (rows : List (List Piece)) :
    g (rows.flatMap (stop :: ·)) = g rows.flatten := by
  induction rows with
  | nil => rfl
  | cons row rows ih => rw [List.flatMap_cons, List.flatten_cons, List.cons_append, hstop, hg, hg, ih]

theorem allMarks_more (rows : List (List Piece)) : allMarks (rows.flatMap (stop :: ·)) = allMarks rows.flatten :=
  eq_flatten allMarks_append (fun _ => rfl) rows

theorem allPlain_more (rows : List (List Piece)) : allPlain (rows.flatMap (stop :: ·)) = allPlain rows.flatten :=
  eq_flatten allPlain_append (fun _ => rfl) rows

/-- Rows with ends between them, behind an end. -/
theorem separated_eq_flatten {α : Type} {g : List Piece → α} {op : α → α → α}
    (hg : ∀ ps qs, g (ps ++ qs) = op (g ps) (g qs)) (hstop : ∀ ps, g (stop :: ps) = g ps) (rows : List (List Piece)) :
    g (Piece.separated stop rows) = g rows.flatten := by
  cases rows with
  | nil => rfl
  | cons row rows => rw [separated_cons, List.flatten_cons, hg, hg, eq_flatten hg hstop]

/-- A file of some entries: its package is that of the last clause. -/
theorem ofParts_pieces {parts : List TopLevel} {f : File} (h : File.ofParts parts = .ok f) :
    ∃ m, (parts.filterMap TopLevel.package?).getLast? = some m ∧
      f.pieces = Piece.separated stop ([key "package", Piece.name m.name] :: declRows parts) := by
  unfold File.ofParts at h
  dsimp only at h
  split at h
  · rename_i m hm
    cases h
    exact ⟨m, hm, rfl⟩
  · cases h

/-- The declarations of a file are those among its entries. -/
theorem decls_of_ofParts {parts : List TopLevel} {f : File} (h : File.ofParts parts = .ok f) :
    f.decls = parts.filterMap TopLevel.decl? := by
  unfold File.ofParts at h
  dsimp only at h
  split at h
  · cases h
    rfl
  · cases h

/-- The tree of a source that it has room for is written as the source is. -/
theorem pieces_of_faithful {items : List Item} {parts : List TopLevel} {f : File} (h : AgreeTops items parts)
    (hf : File.ofParts parts = .ok f) (hplain : allPlain (itemRows items).flatten) (hfaithful : faithful items) :
    f.pieces = Piece.separated stop (itemRows items) := by
  obtain ⟨m, hm, hpieces⟩ := ofParts_pieces hf
  cases h with
  | nil => cases hm
  | @cons i t is ts htop hrest =>
    simp only [faithful, Bool.and_eq_true] at hfaithful
    obtain ⟨⟨hpackage, hnone⟩, hall⟩ := hfaithful
    cases t with
    | decl d => rw [htop.decl.1] at hpackage; cases hpackage
    | package m' =>
      obtain ⟨n, rfl, hn⟩ := htop.package
      have hnil := hrest.no_package hnone
      have hone : (TopLevel.package m' :: ts).filterMap TopLevel.package? = [m'] := congrArg (m' :: ·) hnil
      rw [hone] at hm
      obtain rfl : m' = m := Option.some.inj hm
      -- the rows behind the clause are the same
      have hrows := (hrest.rows hnil).1.flatMap (s := stop) rfl
      rw [hall] at hrows
      have hmore : allPlain ((itemRows is).flatMap (stop :: ·)) := by
        have hplain' : allPlain ((Item.package n).pieces ++ (itemRows is).flatten) := hplain
        rw [allPlain_append, Bool.and_eq_true, ← allPlain_more] at hplain'
        exact hplain'.2
      have hsame := (hrows hmore).eq_of_same rfl
      rw [hpieces, separated_cons]
      change _ ++ (declRows ts).flatMap (stop :: ·) = Piece.separated stop ((Item.package n).pieces :: itemRows is)
      rw [separated_cons, hsame, hn]
      rfl

/-- The name of a package clause is an identifier. -/
theorem AgreeTops.word_of_package {items : List Item} {parts : List TopLevel} (h : AgreeTops items parts)
    (hplain : allPlain (itemRows items).flatten) : ∀ m ∈ parts.filterMap TopLevel.package?, isWord m.name := by
  induction h with
  | nil => exact fun m hm => nomatch hm
  | @cons i t is ts htop _ ih =>
    have hplain' : allPlain (i.pieces ++ (itemRows is).flatten) := hplain
    rw [allPlain_append, Bool.and_eq_true] at hplain'
    cases t with
    | decl d => exact ih hplain'.2
    | package m' =>
      obtain ⟨n, rfl, hn⟩ := htop.package
      intro m hm
      rcases List.mem_cons.mp hm with rfl | hm
      · rw [hn]
        simpa [Item.pieces, allPlain, isPlain] using hplain'.1
      · exact ih hplain'.2 m hm

/-- The pieces of a source and of its tree have the same marks only where the tree has room for the source. -/
theorem faithful_of_marks {items : List Item} {parts : List TopLevel} {f : File} (h : AgreeTops items parts)
    (hf : File.ofParts parts = .ok f) (hplain : allPlain (itemRows items).flatten)
    (hmarks : allMarks f.pieces = allMarks (itemRows items).flatten) : faithful items := by
  obtain ⟨m, hm, hpieces⟩ := ofParts_pieces hf
  obtain ⟨w, hw⟩ := AgreeTops.allMarks_package (h.word_of_package hplain m (List.mem_of_getLast? hm))
  obtain ⟨-, -, hle⟩ := h.marks_le hplain
  have hkept : allMarks f.pieces = [.word "package", w] ++ allMarks (declRows parts).flatten := by
    rw [hpieces, separated_eq_flatten allMarks_append (fun _ => rfl), List.flatten_cons, allMarks_append, hw]
  rw [hkept] at hmarks
  have hlength := congrArg List.length hmarks
  rw [List.length_append] at hlength
  change 2 + _ = _ at hlength
  cases h with
  | nil => cases hm
  | @cons i t is ts htop hrest =>
    cases t with
    | decl d =>
      -- the source begins with another word than the tree
      obtain ⟨m', hhead, hne⟩ := htop.decl.2.2
      have hfirst := congrArg List.head? hmarks
      change _ = (allMarks (i.pieces ++ (itemRows is).flatten)).head? at hfirst
      rw [allMarks_append, List.head?_append, List.head?_append, hhead] at hfirst
      exact absurd (Option.some.inj hfirst).symm hne
    | package m' =>
      obtain ⟨n, rfl, hn⟩ := htop.package
      -- a second clause would have marks that the tree has not
      have hnil : ts.filterMap TopLevel.package? = [] := by
        change _ + 2 * ((ts.filterMap TopLevel.package?).length + 1) ≤ _ at hle
        exact List.eq_nil_of_length_eq_zero (by omega)
      have hone : (TopLevel.package m' :: ts).filterMap TopLevel.package? = [m'] := congrArg (m' :: ·) hnil
      rw [hone] at hm
      obtain rfl : m' = m := Option.some.inj hm
      obtain ⟨hrows, hnone⟩ := hrest.rows hnil
      have hmore : allPlain ((itemRows is).flatMap (stop :: ·)) := by
        have hplain' : allPlain ((Item.package n).pieces ++ (itemRows is).flatten) := hplain
        rw [allPlain_append, Bool.and_eq_true, ← allPlain_more] at hplain'
        exact hplain'.2
      have hrest : allMarks ((declRows ts).flatMap (stop :: ·)) = allMarks ((itemRows is).flatMap (stop :: ·)) := by
        change _ = allMarks ((Item.package n).pieces ++ (itemRows is).flatten) at hmarks
        rw [allMarks_append, Item.pieces, ← hn, hw] at hmarks
        rw [allMarks_more, allMarks_more]
        exact List.append_cancel_left hmarks
      have hall := (hrows.flatMap (s := stop) rfl hmore).same_of_eq hrest
      simp only [faithful, Bool.and_eq_true]
      exact ⟨⟨rfl, hnone⟩, hall⟩

end GoRebuild.Grammar

namespace GoRebuild
open Grammar Lexical

/-- A tree writes tokens: read in the order of its parts, it gives them. A symbol that was read as two
operators is two. -/
def File.Writes (f : File) (tokens : List Token) : Prop :=
  ∃ us, Splits (lexemes tokens) us ∧ Renders f.pieces us

/-- The names and literals of a source are those of its tokens. -/
theorem items_plain {source : String} {tokens : List (Token × Cursor)} {us : List Lexeme} {ps : List Piece}
    (hscan : scan source = some tokens) (hsplit : Splits (lexemes (tokens.map (·.1))) us) (hus : Renders ps us) :
    Piece.allPlain ps := by
  refine hus.allPlain (hsplit.plain fun t ht => ?_)
  rw [lexemes, List.map_map] at ht
  obtain ⟨u, hu, rfl⟩ := List.mem_map.mp ht
  exact plain_of_describes (describes_of_scan hscan u hu)

/-- **A tree writes the tokens of its source exactly where it has room for all of them.** Each source that is read has a
derivation; whichever it is, the tree has room for all of its items or it does not write the tokens. -/
theorem File.read_writes_iff {parser : SourceParser} (hparser : parser.FollowsGrammar) {limit : Nat} {source : String}
    {f : File} (h : File.read parser limit source = .ok f) :
    ∃ tokens, scan source = some tokens ∧ (∃ items pos, parser.Derives source items pos) ∧
      ∀ items pos, parser.Derives source items pos → (f.Writes (tokens.map (·.1)) ↔ faithful items) := by
  obtain ⟨items, pos, hderives⟩ := File.exists_derivation hparser h
  obtain ⟨tokens, hscan, -⟩ := hderives.tokens
  refine ⟨tokens, hscan, ⟨items, pos, hderives⟩, fun items pos hderives => ?_⟩
  obtain ⟨tokens', hscan', hspell⟩ := hderives.tokens
  cases hscan.symm.trans hscan'
  obtain ⟨us, hsplit, hus⟩ := hspell.renders
  obtain ⟨parts, hparts, hf⟩ := File.parts_of_read hderives h
  have htops := readAllItems_agrees _ items 0 parts hparts
  have hplain := items_plain hscan hsplit hus
  rw [separated_eq_flatten allPlain_append (fun _ => rfl)] at hplain
  obtain ⟨hread, hkept, -⟩ := htops.marks_le hplain
  constructor
  · -- both rows of pieces have the marks of the tokens
    rintro ⟨vs, hsplit', hvs⟩
    refine faithful_of_marks htops hf hplain ?_
    obtain ⟨m, -, hpieces⟩ := ofParts_pieces hf
    have htree : Piece.allKept f.pieces := by
      rw [hpieces, separated_eq_flatten allKept_append (fun _ => rfl), List.flatten_cons, allKept_append, hkept]
      rfl
    have hitem : Piece.allKept (Piece.separated .stop (itemRows items)) := by
      rw [separated_eq_flatten allKept_append (fun _ => rfl), hread]
    rw [← hvs.marks_eq htree, hsplit'.marks_eq, ← hsplit.marks_eq, hus.marks_eq hitem,
      separated_eq_flatten allMarks_append (fun _ => rfl)]
  · intro hfaithful
    refine ⟨us, hsplit, ?_⟩
    rw [pieces_of_faithful htops hf hplain hfaithful]
    exact hus

/-- A source with a `range` of three variables is read, and the tree does not write its tokens. -/
theorem File.not_writes_three_variables :
    ∃ f tokens, File.read Grammar.parser 256 "package p\nfunc f() \x7b for a, b, c := range x \x7b \x7d \x7d" = .ok f ∧
      scan "package p\nfunc f() \x7b for a, b, c := range x \x7b \x7d \x7d" = some tokens ∧
      ¬f.Writes (tokens.map (·.1)) := by
  generalize hsource : "package p\nfunc f() \x7b for a, b, c := range x \x7b \x7d \x7d" = source
  have hok : (File.read Grammar.parser 256 source).toOption.isSome = true := by
    rw [← hsource]
    decide +kernel
  have hroom : ((scan source).bind fun ts => (items? (ts.map (·.1))).map faithful) = some false := by
    rw [← hsource]
    decide +kernel
  obtain ⟨tokens, hscan, hitems⟩ := Option.bind_eq_some_iff.mp hroom
  obtain ⟨items, hitems, hfaithful⟩ := Option.map_eq_some_iff.mp hitems
  cases hf : File.read Grammar.parser 256 source with
  | error e =>
    rw [hf] at hok
    cases hok
  | ok f =>
    obtain ⟨tokens', hscan', -, hwrites⟩ := File.read_writes_iff parser_followsGrammar hf
    cases hscan.symm.trans hscan'
    refine ⟨f, tokens, rfl, hscan, fun h => ?_⟩
    rw [(hwrites items _ (derives_of_items hscan hitems)).mp h] at hfaithful
    cases hfaithful

end GoRebuild
