import GoRebuild.Proofs.Program.Names
import GoRebuild.Proofs.Reader.Tokens
import GoRebuild.Proofs.Synth.Writable

/-!
# Names of generators are identifiers

* `part_of_start` : what starts an identifier can also continue one;
* `isPart` : the characters of identifiers, closed under appending;
* `IsGeneratorName.isWord` : a name of a generator that has no others is an identifier;
* `Decl.isPart_generatorName`, `isPart_renamedFrom` : the names that declarations give, and those they get;
* `File.plain_of_read` : the names in a file that was read are identifiers;
* `units_of_assemble` : the generators of such a file have identifiers as names, and chains that can be written.
-/

namespace GoRebuild
open Lexical Text Piece

/-! ## Characters -/

/-- Whether each range lies in one of others, where both come in order. -/
def Text.Ranges.within : Ranges → Ranges → Bool
  | [], _ => true
  | r :: rs, qs =>
    let rest := qs.dropWhile fun q => q.2 < r.1
    rest.head?.any (fun q => q.1 ≤ r.1 && r.2 ≤ q.2) && within rs rest

theorem Text.Ranges.has_of_within {c : Char} : ∀ {rs qs : Ranges}, within rs qs → rs.has c → qs.has c
  | [], _, _, h => nomatch h
  | r :: rs, qs, hwithin, h => by
    rw [within, Bool.and_eq_true, Option.any_eq_true] at hwithin
    obtain ⟨⟨q, hq, hcovers⟩, hrest⟩ := hwithin
    have hsubset {q : Nat × Nat} (hq : q ∈ qs.dropWhile fun q => q.2 < r.1) : q ∈ qs := (List.dropWhile_sublist _).subset hq
    rw [Bool.and_eq_true, decide_eq_true_eq, decide_eq_true_eq] at hcovers
    obtain ⟨s, hs, hle, hge⟩ := has_iff.mp h
    rcases List.mem_cons.mp hs with rfl | hs
    · exact has_iff.mpr ⟨q, hsubset (List.mem_of_mem_head? hq), Nat.le_trans hcovers.1 hle, Nat.le_trans hge hcovers.2⟩
    · obtain ⟨q, hq, hc⟩ := has_iff.mp (has_of_within hrest (has_iff.mpr ⟨s, hs, hle, hge⟩))
      exact has_iff.mpr ⟨q, hsubset hq, hc⟩

/-- What starts an identifier can also continue one. -/
theorem part_of_start {c : Char} (h : isIdentifierStart c) : isIdentifierPart c := by
  have hwithin : startRanges.within partRanges := by decide +kernel
  rw [isIdentifierStart, Bool.or_eq_true, Bool.or_eq_true, Bool.and_eq_true] at h
  rw [isIdentifierPart, Bool.or_eq_true, Bool.or_eq_true, Bool.and_eq_true]
  rcases h with (h | h) | ⟨hhigh, h⟩
  · exact .inl (.inl (by rw [Char.isAlphanum, h, Bool.true_or]))
  · exact .inl (.inr h)
  · exact .inr ⟨hhigh, Ranges.has_of_within hwithin h⟩

/-- Whether a text has only characters that can continue identifiers. -/
def isPart (text : String) : Bool :=
  text.toList.all isIdentifierPart

theorem isPart_append {a b : String} (ha : isPart a) (hb : isPart b) : isPart (a ++ b) := by
  rw [isPart, String.toList_append, List.all_append, Bool.and_eq_true]
  exact ⟨ha, hb⟩

theorem isPart_of_word {n : String} (h : isWord n) : isPart n := by
  unfold isWord at h
  split at h
  · rename_i c cs hchars
    simp only [Bool.and_eq_true] at h
    rw [isPart, hchars, List.all_cons, part_of_start h.1.1, h.1.2]
    rfl
  · cases h

theorem isPart_toString (n : Nat) : isPart (toString n) := by
  rw [isPart, Nat.toString_eq_ofList_toDigits, String.toList_ofList, List.all_eq_true]
  intro c hc
  have hdigit : c.isDigit := isDigit_of_mem_toDigits hc
  exact part_of_alphanum (by rw [Char.isAlphanum, hdigit, Bool.or_true])

/-- No keyword begins as generators do. -/
theorem IsGeneratorName.isWord {n : String} (h : IsGeneratorName n) (hpart : isPart n) : isWord n := by
  have hkeywords : ∀ k ∈ keywords, ¬"gen".toList <+: k.toList := by decide
  have hprefix : "gen".toList <+: n.toList := by
    rcases h with h | h
    · exact .trans (by decide) h
    · exact .trans (by decide) h
  obtain ⟨cs, hcs⟩ := hprefix
  have hchars : n.toList = 'g' :: 'e' :: 'n' :: cs := hcs.symm
  have hkeyword : keywords.contains n = false := by
    rw [List.contains_eq_mem, decide_eq_false_iff_not]
    exact fun hmem => hkeywords n hmem ⟨cs, hcs⟩
  rw [isPart, hchars, List.all_cons, Bool.and_eq_true] at hpart
  unfold Lexical.isWord
  rw [hchars]
  simp only [hpart.2, hkeyword]
  rfl

/-! ## Names that generators get -/

theorem isPart_searchName (taken : List String) {base : String} (h : isPart base) (bound n : Nat) :
    isPart (searchName taken base bound n) := by
  have hnumbered (n : Nat) : isPart (base ++ "_" ++ toString n) :=
    isPart_append (isPart_append h (by decide)) (isPart_toString n)
  induction bound generalizing n with
  | zero => exact hnumbered n
  | succ bound ih =>
    rw [searchName]
    split
    · exact ih (n + 1)
    · exact hnumbered n

theorem Generator.isPart_rename (taken : List String) {g : Generator} (h : isPart g.name) : isPart (g.rename taken).name := by
  have hplaced : isPart (g.name ++ "At" ++ toString g.pos.offset.toNat) :=
    isPart_append (isPart_append h (by decide)) (isPart_toString _)
  unfold rename
  split
  · unfold freshName
    split
    · exact isPart_searchName taken hplaced _ _
    · exact hplaced
  · exact h

theorem isPart_renamedFrom (taken : List String) {gs : List Generator} (h : ∀ g ∈ gs, isPart g.name) :
    ∀ g ∈ renamedFrom taken gs, isPart g.name := by
  induction gs generalizing taken with
  | nil => exact fun g hg => nomatch hg
  | cons g gs ih =>
    rw [List.forall_mem_cons] at h
    rw [renamedFrom, List.forall_mem_cons]
    exact ⟨Generator.isPart_rename taken h.1, ih _ h.2⟩

/-! ## Names that declarations give -/

/-- The name at the bottom of a type of names. -/
theorem Expr.word_of_baseName : ∀ (e : Expr) {n : String}, allPlain e.pieces → e.baseName? = some n → isWord n
  | .mk (.star x) _, n, hplain, h => by
    have hx : allPlain x.pieces := hplain
    exact x.word_of_baseName hx h
  | .mk (.paren x) _, n, hplain, h => by
    have hparen : allPlain ([sym "("] ++ x.pieces ++ [sym ")"]) := hplain
    rw [allPlain_append, allPlain_append, Bool.and_eq_true, Bool.and_eq_true] at hparen
    exact x.word_of_baseName hparen.1.2 h
  | .mk (.ident m) _, n, hplain, h => by
    cases h
    have hname : (isWord m && true) = true := hplain
    rwa [Bool.and_true] at hname

/-- The type of a receiver is among the pieces of a function. -/
theorem FuncDecl.word_of_receiver {d : FuncDecl} {n : String} (hplain : allPlain d.pieces) (h : d.receiver? = some n) :
    isWord n := by
  obtain ⟨recv, name, ty, body, pos⟩ := d
  cases recv with
  | none => cases h
  | some fs =>
    cases fs with
    | nil => cases h
    | cons f fs =>
      obtain ⟨ns, t, tag⟩ := f
      rw [FuncDecl.pieces, Field.receiverPieces, Field.piecesList, parens, separated_cons, Field.pieces] at hplain
      simp only [allPlain_append, allPlain, Bool.and_eq_true] at hplain
      exact t.word_of_baseName (by tauto) h

theorem Decl.isPart_generatorName {d : Decl} (hplain : allPlain d.pieces) : isPart d.generatorName := by
  cases d with
  | gen d => exact isPart_append (by decide) (isPart_toString _)
  | func d =>
    have hfunc : allPlain d.pieces := hplain
    have hreceiver : isPart (d.receiver?.getD "") := by
      cases h : d.receiver? with
      | none => rfl
      | some n => exact isPart_of_word (d.word_of_receiver hfunc h)
    rw [FuncDecl.pieces, allPlain_append, allPlain_append, allPlain_append, Bool.and_eq_true, Bool.and_eq_true,
      Bool.and_eq_true] at hfunc
    have hname : (isWord d.name.name && true) = true := hfunc.1.1.2
    rw [Bool.and_true] at hname
    exact isPart_append (isPart_append (by decide) hreceiver) (isPart_of_word hname)

/-! ## Files that were read -/

namespace Grammar

/-- The names in declarations are identifiers where those in their items are. -/
theorem AgreeTops.plain_decls {items : List Item} {parts : List TopLevel} (h : AgreeTops items parts)
    (hplain : allPlain (itemRows items).flatten) : ∀ d ∈ parts.filterMap TopLevel.decl?, allPlain d.pieces := by
  induction h with
  | nil => exact fun d hd => nomatch hd
  | @cons i t is ts htop _ ih =>
    have hplain' : allPlain (i.pieces ++ (itemRows is).flatten) := hplain
    rw [allPlain_append, Bool.and_eq_true] at hplain'
    cases t with
    | package m => exact ih hplain'.2
    | decl d =>
      obtain ⟨-, hagree, -⟩ := htop.decl
      exact List.forall_mem_cons.mpr ⟨(hagree hplain'.1).plain, ih hplain'.2⟩

end Grammar

open Grammar in
/-- The names in a file that was read are identifiers. -/
theorem File.plain_of_read {parser : SourceParser} (hparser : parser.FollowsGrammar) {limit : Nat} {source : String}
    {f : File} (h : File.read parser limit source = .ok f) : ∀ d ∈ f.decls, allPlain d.pieces := by
  obtain ⟨items, pos, hderives⟩ := File.exists_derivation hparser h
  obtain ⟨parts, hparts, hf⟩ := File.parts_of_read hderives h
  obtain ⟨tokens, hscan, hspells⟩ := hderives.tokens
  obtain ⟨us, hsplit, hus⟩ := hspells.renders
  have hplain := items_plain hscan hsplit hus
  have htops : AgreeTops items parts := readAllItems_agrees _ items 0 parts hparts
  rw [separated_eq_flatten allPlain_append (fun _ => rfl)] at hplain
  rw [decls_of_ofParts hf]
  exact htops.plain_decls hplain

/-! ## Programs -/

theorem Synth.Gives.of_answer {α : Type} {act : Synth α} {P : α → Prop} (h : Synth.Gives act P) {a : α}
    (ha : act.answer = .ok a) : P a :=
  h 0 a _ (Prod.ext ha rfl)

theorem forall_right {α β : Type} {R : α → β → Prop} {P : β → Prop} {as : List α} {bs : List β} (h : List.Forall₂ R as bs)
    (hP : ∀ a ∈ as, ∀ b, R a b → P b) : ∀ b ∈ bs, P b := by
  induction h with
  | nil => exact fun b hb => nomatch hb
  | @cons a b as bs hab _ ih =>
    rw [List.forall_mem_cons] at hP ⊢
    exact ⟨hP.1 b hab, ih hP.2⟩

/-- The generators of a file with identifiers as names have such names, too, and chains that can be written. -/
theorem units_of_assemble {file : File} {o : Options} {p : Program} (hp : assemble file o = .ok p)
    (hplain : ∀ d ∈ file.decls, allPlain d.pieces) :
    ∀ u ∈ p.units, IsGeneratorName u.name ∧ isWord u.name ∧ Writable u.chain := by
  rw [assemble_eq_assembleBy, assembleBy_eq_ok_iff] at hp
  obtain ⟨-, table, gs, htable, hgs, rfl⟩ := hp
  have hgenerators := forall₂_generators (synthApart_eq_ok_iff.mp hgs)
  have hpart : ∀ g ∈ gs.filterMap id, isPart g.name := forall_right hgenerators fun d hd g hg => by
    rw [hg.2.1]
    exact Decl.isPart_generatorName (hplain d (List.mem_of_mem_filter hd))
  have hname : ∀ g ∈ gs.filterMap id, IsGeneratorName g.name := forall_right hgenerators fun d _ g hg => by
    rw [hg.2.1]
    exact d.isGeneratorName
  have hchain : ∀ u ∈ renamed (gs.filterMap id), Writable u.chain :=
    forall_right (own_renamedFrom hgenerators []) fun d _ u hu =>
      (d.writable_synth _).of_answer hu.1 ⟨d.generatorName, u.chain, d.pos⟩ rfl
  have hunit := isGeneratorName_renamedFrom [] hname
  exact fun u hu => ⟨hunit u hu, (hunit u hu).isWord (isPart_renamedFrom [] hpart u hu), hchain u hu⟩

end GoRebuild
