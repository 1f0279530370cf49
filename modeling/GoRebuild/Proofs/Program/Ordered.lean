import GoRebuild.Proofs.Parse.Conformance
import GoRebuild.Proofs.Parse.Ordered
import GoRebuild.Proofs.Program.Names
import GoRebuild.Proofs.Reader.Ordered

/-!
# Positions are real and in order

* `File.read_ordered` : the tree of a source is in order;
* `renamedFrom_declared` : declarations behind one another keep their names, unless they are functions;
* `positions_real_and_ordered` : both, and the names are distinct.
-/

namespace GoRebuild
open Grammar Text

section
variable {parser : SourceParser} (hparser : parser.FollowsGrammar) (hplaces : parser.PlacesNodes)
include hparser hplaces

/-- The tree of a source is in order. -/
theorem File.read_ordered {limit : Nat} {source : String} {f : File} (h : File.read parser limit source = .ok f)
    (hsize : source.utf8ByteSize < 2 ^ 32) : f.Ordered (Pos.IsReal source) := by
  obtain ⟨items, pos, hderives⟩ := File.exists_derivation hparser h
  obtain ⟨parts, hparts, hfile⟩ := File.parts_of_read hderives h
  obtain ⟨root, hroot, herror, htree⟩ := hderives.tree
  have hitems := htree.ordered hsize (hplaces source root hroot herror)
  exact File.ofParts_ordered (readItems_ordered ⟨pos, limit⟩ items hitems 0 parts hparts) hfile

end

/-! ## Names of generators -/

/-- Whether a declaration has a keyword and is no function. -/
def Decl.isGen : Decl → Bool
  | gen _ => true
  | func _ => false

/-- No two declarations with keywords derive one name. -/
theorem Decl.generatorName_ne {d e : Decl} (hd : d.isGen) (he : e.isGen) (hlt : d.pos.offset < e.pos.offset) :
    d.generatorName ≠ e.generatorName := by
  intro h
  cases d with
  | func d => cases hd
  | gen d =>
    cases e with
    | func e => cases he
    | gen e =>
      have hoffset : d.pos.offset.toNat = e.pos.offset.toNat := Nat.repr_inj.mp ((String.append_right_inj _).mp h)
      exact absurd hoffset (Nat.ne_of_lt hlt)

/-- What is behind a name when it is changed. -/
theorem Generator.name_prefix_rename (taken : List String) (g : Generator) :
    g.name.toList <+: (g.rename taken).name.toList := by
  have hsearch (base : String) (bound n : Nat) : base.toList <+: (searchName taken base bound n).toList := by
    induction bound generalizing n with
    | zero => rw [searchName, String.toList_append, String.toList_append, List.append_assoc]; exact List.prefix_append _ _
    | succ bound ih =>
      rw [searchName]
      split
      · exact ih (n + 1)
      · rw [String.toList_append, String.toList_append, List.append_assoc]
        exact List.prefix_append _ _
  unfold rename
  split
  · have hbase : g.name.toList <+: (g.name ++ "At" ++ toString g.pos.offset.toNat).toList := by
      rw [String.toList_append, String.toList_append, List.append_assoc]
      exact List.prefix_append _ _
    unfold freshName
    split
    · exact hbase.trans (hsearch _ _ _)
    · exact hbase
  · exact List.prefix_rfl

/-- A function is not named as a declaration with a keyword is, however often it is renamed. -/
theorem Decl.generatorName_ne_renamed {d e : Decl} {g : Generator} (hd : ¬d.isGen) (he : e.isGen)
    (hname : g.name = d.generatorName) (taken : List String) : e.generatorName ≠ (g.rename taken).name := by
  intro h
  cases d with
  | gen d => exact hd rfl
  | func d =>
    cases e with
    | func e => cases he
    | gen e =>
      have hfunc : "genF".toList <+: (g.rename taken).name.toList := by
        refine List.IsPrefix.trans ?_ (g.name_prefix_rename taken)
        rw [hname, generatorName, String.append_assoc, String.toList_append]
        exact (by decide : "genF".toList <+: "genFunc".toList).trans (List.prefix_append _ _)
      have hdecl : "genD".toList <+: (g.rename taken).name.toList := by
        rw [← h, generatorName, String.toList_append]
        exact (by decide : "genD".toList <+: "genDeclAt".toList).trans (List.prefix_append _ _)
      exact absurd ((List.prefix_of_prefix_length_le hfunc hdecl (by decide)).eq_of_length (by decide)) (by decide)

/-- A declaration with a keyword keeps its name behind functions and behind declarations that start before it. -/
theorem renamedFrom_declared {ds : List Decl} {gs : List Generator} {taken : List String}
    (h : List.Forall₂ (fun d g => g.name = d.generatorName) ds gs)
    (hds : ds.Pairwise fun d e => d.pos.offset < e.pos.offset) (hfree : ∀ d ∈ ds, d.isGen → d.generatorName ∉ taken) :
    List.Forall₂ (fun d g => d.isGen → g.name = d.generatorName) ds (renamedFrom taken gs) := by
  induction h generalizing taken with
  | nil => exact .nil
  | @cons d g ds gs hname _ ih =>
    rw [List.forall_mem_cons] at hfree
    obtain ⟨hbefore, hds⟩ := List.pairwise_cons.mp hds
    have hkept (hd : d.isGen) : (g.rename taken).name = d.generatorName := by
      rw [Generator.rename_of_not_mem (hname ▸ hfree.1 hd), hname]
    refine .cons hkept (ih hds fun e he hgen => List.not_mem_cons_of_ne_of_not_mem ?_ (hfree.2 e he hgen))
    by_cases hd : d.isGen
    · rw [hkept hd]
      exact (Decl.generatorName_ne hd hgen (hbefore e he)).symm
    · exact Decl.generatorName_ne_renamed hd hgen hname taken

/-- **Positions are real and in order.** In the tree of a source of less than 4 GiB each position has an offset in the
source, the line after as many line breaks as there are before it and the column after as many bytes as there are
behind the last of these. No node starts before the one that it is part of, and in lists each starts behind the start of
the one before it. So the names that declarations derive from offsets are distinct, and they are kept. The parser gives
trees of the grammar, whose nodes are in their places. -/
theorem positions_real_and_ordered {parser : SourceParser} (hparser : parser.FollowsGrammar)
    (hplaces : parser.PlacesNodes) {limit : Nat} {source : String} {f : File} (h : File.read parser limit source = .ok f)
    (hsize : source.utf8ByteSize < 2 ^ 32) :
    f.Ordered (Pos.IsReal source) ∧
    (f.decls.Pairwise fun d e => d.isGen → e.isGen → d.generatorName ≠ e.generatorName) ∧
    ∀ o p, assemble f o = .ok p →
      List.Forall₂ (fun d u => d.isGen → u.name = d.generatorName) f.generating p.units := by
  have hordered := File.read_ordered hparser hplaces h hsize
  have hpairwise := hordered.decls.pairwise
  refine ⟨hordered, hpairwise.imp fun hlt hd he => Decl.generatorName_ne hd he hlt, fun o p hp => ?_⟩
  rw [assemble_eq_assembleBy, assembleBy_eq_ok_iff] at hp
  obtain ⟨-, table, gs, -, hgs, rfl⟩ := hp
  have hnames := forall₂_generators (synthApart_eq_ok_iff.mp hgs)
  exact renamedFrom_declared (hnames.imp fun _ _ h => h.2.1) (hpairwise.filter _) fun _ _ _ => List.not_mem_nil

/-- Behind a byte order mark, and a comment and a literal with characters of several bytes. -/
theorem positions_real_and_ordered_bytes :
    ∃ source f, source = "\ufeffpackage p\n// é\nvar s = \x22日\x22; func f() \x7b s++ \x7d" ∧
      File.read (Grammar.parser.on source) 256 source = .ok f ∧
      f.decls.map Decl.pos = [⟨19, 3, 1⟩, ⟨34, 3, 16⟩] ∧ f.Ordered (Pos.IsReal source) := by
  generalize hsource : "\ufeffpackage p\n// é\nvar s = \x22日\x22; func f() \x7b s++ \x7d" = source
  have hplaces : (Grammar.parser.on source).PlacesNodes := by
    refine SourceParser.placesNodes_on ?_
    rw [← hsource]
    decide +kernel
  have hdecls : (File.read (Grammar.parser.on source) 256 source).toOption.map (fun f => f.decls.map Decl.pos) =
      some [⟨19, 3, 1⟩, ⟨34, 3, 16⟩] := by
    rw [← hsource]
    decide +kernel
  have hsize : source.utf8ByteSize < 2 ^ 32 := by
    rw [← hsource]
    decide +kernel
  cases hf : File.read (Grammar.parser.on source) 256 source with
  | error e =>
    rw [hf] at hdecls
    cases hdecls
  | ok f =>
    rw [hf] at hdecls
    exact ⟨source, f, rfl, hf, Option.some.inj hdecls,
      (positions_real_and_ordered Grammar.parser_followsGrammar.on hplaces hf hsize).1⟩

end GoRebuild
