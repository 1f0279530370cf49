import GoRebuild.Proofs.Parse.Conformance
import GoRebuild.Proofs.Program.Positions
import GoRebuild.Proofs.Reader.Carries

/-!
# White space and comments do not matter

* `Decl.chain_of_moved`, `assemble_of_moved` : trees that are the same up to positions have the same chains and programs,
  whatever the limits;
* `File.read_relaid` : a source that is read is read to the same up to positions when it is laid out anew;
* `reading_ignores_layout` : hence it gives the same chains.
-/

namespace GoRebuild
open Lexical

/-! ## Programs of trees at other positions -/

section
variable {g : Pos → Pos}

/-- A declaration has its chain wherever it stands, whatever the limit. -/
theorem Decl.chain_of_moved {d d' : Decl} (h : d.moved g = d'.moved g) {table : SymbolTable} {l l' : Nat}
    {a a' : Option Generator} (ha : (d.synth ⟨table, l⟩).answer = .ok a) (ha' : (d'.synth ⟨table, l'⟩).answer = .ok a') :
    a.map Generator.chain = a'.map Generator.chain := by
  -- both are carried to the declaration elsewhere, with the higher limit
  have hd := d.carries_chain (Nat.le_max_left l l') g (.refl table _) 0
  have hd' := d'.carries_chain (Nat.le_max_right l l') g (.refl table _) 0
  rw [← h] at hd'
  unfold Synth.answer at ha ha'
  generalize (d.synth ⟨table, l⟩).run.run 0 = r at ha hd
  generalize (d'.synth ⟨table, l'⟩).run.run 0 = r' at ha' hd'
  generalize ((d.moved g).synth ⟨table, max l l'⟩).run.run 0 = q at hd hd'
  cases hd with
  | ok hchain =>
    cases hd' with
    | ok hchain' =>
      cases ha
      cases ha'
      exact hchain.trans hchain'.symm
    | tooDeep => cases ha'
  | unsupported => cases ha
  | tooDeep => cases ha

theorem synthApart_of_moved {ds ds' : List Decl} (h : ds.map (Decl.moved g) = ds'.map (Decl.moved g))
    {table : SymbolTable} {l l' : Nat} {gs gs' : List (Option Generator)} (hgs : synthApart ⟨table, l⟩ ds = .ok gs)
    (hgs' : synthApart ⟨table, l'⟩ ds' = .ok gs') :
    gs.map (Option.map Generator.chain) = gs'.map (Option.map Generator.chain) := by
  rw [synthApart_eq_ok_iff] at hgs hgs'
  induction hgs generalizing ds' gs' with
  | nil =>
    rw [List.map_nil, eq_comm, List.map_eq_nil_iff] at h
    subst h
    cases hgs'
    rfl
  | cons ha _ ih =>
    cases hgs' with
    | nil => cases h
    | cons ha' hrest =>
      rw [List.map_cons, List.map_cons, List.cons.injEq] at h
      rw [List.map_cons, List.map_cons, Decl.chain_of_moved h.1 ha ha', ih h.2 hrest]

/-- Files that are the same up to positions give programs with the same chains and imports, whatever the options. -/
theorem assemble_of_moved {f f' : File} (h : f.moved g = f'.moved g) {o o' : Options} {p p' : Program}
    (hp : assemble f o = .ok p) (hp' : assemble f' o' = .ok p') :
    p.units.map Generator.chain = p'.units.map Generator.chain ∧ p.anonymous = p'.anonymous ∧ p.aliases = p'.aliases := by
  rw [assemble_eq_assembleBy, assembleBy_eq_ok_iff] at hp hp'
  obtain ⟨-, table, gs, htable, hgs, rfl⟩ := hp
  obtain ⟨-, table', gs', htable', hgs', rfl⟩ := hp'
  simp only [File.moved, File.mk.injEq] at h
  have htables := SymbolTable.build_alike h.2.1
  rw [htable, htable'] at htables
  cases htables with
  | ok hsame =>
    obtain rfl : table = table' := hsame
    have hchains := synthApart_of_moved h.2.2 hgs hgs'
    exact ⟨by rw [map_chain_renamed, map_chain_renamed, hchains], rfl, rfl⟩

end

/-! ## Sources that are laid out anew -/

section
variable {parser : SourceParser} (hparser : parser.IgnoresLayout) {limit : Nat} {source text : String} {f : File}
include hparser

/-- A source that is read is read to the same, up to positions, when its tokens are laid out anew. -/
theorem File.read_relaid (hread : File.read parser limit source = .ok f) (h : Relaid source text) :
    ∃ f', File.read parser limit text = .ok f' ∧ f.moved .nowhere = f'.moved .nowhere := by
  obtain ⟨root, hroot, herror⟩ := File.tree_of_read hread
  obtain ⟨items, pos, pos', hderives, hderives'⟩ := hparser source text root hroot herror h
  have hcarried : Reading.Carried .nowhere (File.moved .nowhere) (File.read parser limit source)
      (File.read parser limit text) := File.carries_read hderives hderives' ⟨fun _ => rfl, Nat.le_refl limit⟩
  rw [hread] at hcarried
  generalize File.read parser limit text = r at hcarried
  cases hcarried with
  | ok hf => exact ⟨_, rfl, hf⟩

/-- **White space and comments do not matter.** A source that is read is read as well when its tokens are laid out anew,
with line breaks outside comments between the same tokens, and to a tree that is the same up to positions. Where both
trees are assembled, the programs have the same chains, anonymous imports and aliases. -/
theorem reading_ignores_layout (hread : File.read parser limit source = .ok f) (h : Relaid source text) :
    ∃ f', File.read parser limit text = .ok f' ∧ f.alike f' ∧
      ∀ o o' p p', assemble f o = .ok p → assemble f' o' = .ok p' →
        p.units.map Generator.chain = p'.units.map Generator.chain ∧ p.anonymous = p'.anonymous ∧
          p.aliases = p'.aliases := by
  obtain ⟨f', hf', hmoved⟩ := File.read_relaid hparser hread h
  exact ⟨f', hf', File.alike_iff.mpr hmoved, fun _ _ _ _ => assemble_of_moved hmoved⟩

end

/-- A sum with comments: one before the end of a line, one between two tokens. -/
theorem reading_ignores_layout_comments :
    ∃ f, File.read Grammar.parser 256 "package p\nvar x = a+b" = .ok f ∧
      Relaid "package p\nvar x = a+b" "package p // c\n var x=a /* d */ + b" ∧
      ∃ f', File.read Grammar.parser 256 "package p // c\n var x=a /* d */ + b" = .ok f' ∧ f.alike f' := by
  generalize hsource : "package p\nvar x = a+b" = source
  have hread : (File.read Grammar.parser 256 source).toOption.isSome := by
    rw [← hsource]
    decide +kernel
  have hspellings : (scan source).map (fun tokens => tokens.map (·.1.spelling)) =
      some [inLine .keyword "package", inLine .word "p", ⟨.keyword, "var", true⟩, inLine .word "x", sign "=",
        inLine .word "a", sign "+", inLine .word "b"] := by
    rw [← hsource]
    decide +kernel
  generalize htext : "package p // c\n var x=a /* d */ + b" = text
  have hbody : body text = "package".toList ++ ' ' :: ("p".toList ++ ' ' :: ("// c".toList ++ '\n' :: ' ' ::
      ("var".toList ++ ' ' :: ("x".toList ++ ("=".toList ++ ("a".toList ++ ' ' :: ("/* d */".toList ++ ' ' ::
        ("+".toList ++ ' ' :: ("b".toList ++ []))))))))) := by
    rw [← htext]
    decide +kernel
  have hrelaid : Relaid source text := by
    obtain ⟨tokens, hscan, htokens⟩ := Option.map_eq_some_iff.mp hspellings
    refine ⟨tokens, hscan, ?_⟩
    rw [htokens, hbody]
    have hblank {cs : List Char} : ∀ c ∈ (' ' :: cs).head?, isSpace c := by
      rintro c ⟨⟩
      rfl
    refine .cons .nil (.inl hblank) (.cons (Gap.nil.blank) (.inl hblank) ?_)
    refine .cons (.blank (.comment ⟨by decide +kernel, by decide +kernel⟩ ?_ (.line (.blank .nil)))) (.inl hblank) ?_
    · rintro - c ⟨⟩
      rfl
    refine .cons Gap.nil.blank (.inr (by decide +kernel)) (.cons .nil (.inr (by decide +kernel)) ?_)
    refine .cons .nil (.inl hblank) (.cons (.blank (.comment ⟨by decide +kernel, by decide +kernel⟩ ?_ Gap.nil.blank))
      (.inl hblank) ?_)
    · exact fun h => absurd h (by decide +kernel)
    exact .cons Gap.nil.blank (.inl nofun) (.nil .nil)
  cases hf : File.read Grammar.parser 256 source with
  | error e =>
    rw [hf] at hread
    cases hread
  | ok f =>
    obtain ⟨f', hf', halike, -⟩ := reading_ignores_layout Grammar.parser_ignoresLayout hf hrelaid
    exact ⟨f, rfl, hrelaid, f', hf', halike⟩

end GoRebuild
