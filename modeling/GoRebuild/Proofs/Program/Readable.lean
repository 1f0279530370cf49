import GoRebuild.Proofs.Parse.Conformance
import GoRebuild.Proofs.Program.Rows
import GoRebuild.Proofs.Program.Words
import GoRebuild.Proofs.Reader.Parts

/-!
# Written programs can be read

* `Program.tree` : the tree of a program, which stands nowhere and has no layout;
* `Program.isPlain_parts`, `Program.exists_read` : its text is plain, and is read to that tree in every layout;
* `Program.WrittenAs` : the functions of a file are those of a program, and return the calls of its chains;
* `program_readable` : a program that was assembled for a source is read to such a file.
-/

namespace GoRebuild
open Grammar (Primary Line Part)
open Lexical Text

/-! ## The tree of a program -/

/-- The functions among declarations. -/
def Decl.func? : Decl → Option FuncDecl
  | func d => some d
  | gen _ => none

/-- The functions of a file, in order. -/
def File.functions (f : File) : List FuncDecl :=
  f.decls.filterMap Decl.func?

namespace Program

/-- The function of a generator as a tree. -/
def unitTree (g : Generator) : FuncDecl :=
  ⟨none, ⟨g.name, .none⟩, .mk [] (some [.mk [] ((Expr.ofName "jen").select "Code") none]),
    some (.mk [.giveBack [g.chain.tree]] .none), .none⟩

/-- The functions of a program as trees. -/
def functions (p : Program) : List FuncDecl :=
  p.units.map unitTree ++ (p.fileRoutine.tree :: if p.entryPoint then [mainRoutine.tree] else [])

/-- The imports of a program as a tree. -/
def importTree (p : Program) : GenDecl :=
  if p.entryPoint then
    .mk .importTok .none true [.imported ⟨none, unquoted (Quoted.encode "fmt"), .none⟩, .imported builder.tree]
  else .mk .importTok .none false [.imported builder.tree]

/-- The tree of a program. -/
def tree (p : Program) : File :=
  ⟨⟨p.package, .none⟩, (Decl.gen p.importTree).imports, .gen p.importTree :: p.functions.map .func⟩

theorem tree_unit (l : Layout) (g : Generator) : (g.routine l).tree = unitTree g := by
  rw [Generator.routine, Grammar.Routine.tree, unitTree, List.map_cons, Line.tree, Chain.tree_primary]
  rfl

theorem trees_routines (l : Layout) (p : Program) : (p.routines l).map Grammar.Routine.tree = p.functions := by
  rw [routines, functions, List.map_append, List.map_map, List.map_cons]
  congr 1
  · exact List.map_congr_left fun g _ => tree_unit l g
  · cases p.entryPoint <;> rfl

theorem tree_imports (p : Program) : p.importPart.tree = .decl (.gen p.importTree) := by
  rw [importPart, importTree]
  cases p.entryPoint <;> rfl

theorem trees_parts (l : Layout) (p : Program) : (p.parts l).map Part.tree =
    .package ⟨p.package, .none⟩ :: .decl (.gen p.importTree) :: p.functions.map fun d => .decl (.func d) := by
  have hfuncs : ((p.routines l).map Part.routine).map Part.tree = p.functions.map fun d => .decl (.func d) := by
    rw [← trees_routines l, List.map_map, List.map_map]
    rfl
  rw [parts, List.map_cons, List.map_cons, tree_imports, hfuncs]
  rfl

/-- What the parts become is the file of the program. -/
theorem ofParts_parts (l : Layout) (p : Program) : File.ofParts ((p.parts l).map Part.tree) = .ok p.tree := by
  have hdecls : (p.functions.map fun d => TopLevel.decl (.func d)).filterMap TopLevel.decl? = p.functions.map .func := by
    rw [List.filterMap_map]
    exact congrFun List.filterMap_eq_map _
  have hpackages : (p.functions.map fun d => TopLevel.decl (.func d)).filterMap TopLevel.package? = [] := by
    rw [List.filterMap_map]
    exact List.filterMap_eq_nil_iff.mpr fun _ _ => rfl
  have himports : (p.functions.map Decl.func).flatMap Decl.imports = [] := by
    rw [List.flatMap_map]
    exact List.flatMap_eq_nil_iff.mpr fun _ _ => rfl
  rw [trees_parts, File.ofParts]
  simp only [List.filterMap_cons, TopLevel.decl?, TopLevel.package?, hdecls, hpackages, List.getLast?_singleton,
    List.flatMap_cons, himports, List.append_nil]
  rfl

/-! ## Reading the text -/

theorem arePlain_texts : ∀ ss : List String, Primary.arePlain (ss.map Primary.text)
  | [] => rfl
  | s :: ss => by
    rw [List.map_cons, Primary.arePlain, Primary.text, isPlain_quoted, arePlain_texts ss]
    rfl

/-- A call of a member of the file that is built. -/
theorem isPlain_called {member : String} (hmember : isWord member) {args : List Primary} (hargs : Primary.arePlain args) :
    (Line.call "ret" member args).isPlain := by
  have hret : (Primary.name "ret").isPlain := by decide
  rw [Line.isPlain, Line.called, Primary.isPlain, Primary.isPlain, hret, hmember, hargs]
  rfl

theorem isPlain_unit (l : Layout) {g : Generator} (hname : isWord g.name) (hchain : Writable g.chain) :
    (g.routine l).isPlain := by
  have hresult : (Grammar.Result.type false "jen" "Code").isPlain := by decide
  have hbody : (Line.giveBack (g.chain.primary l)).isPlain := Chain.isPlain_primary l hchain
  rw [Generator.routine, Grammar.Routine.isPlain, hname, hresult, List.all_cons, hbody]
  rfl

/-- The name of a generator is that of no function that takes a type. -/
theorem isPlain_name {n : String} (hgen : IsGeneratorName n) (hword : isWord n) : (Primary.name n).isPlain := by
  have hspecial : ["make", "new"].contains n = false := by
    rw [List.contains_eq_mem, decide_eq_false_iff_not]
    intro hmem
    rcases hgen with h | h <;> rcases List.mem_pair.mp hmem with rfl | rfl <;> revert h <;> decide
  rw [Primary.isPlain, hword, hspecial]
  rfl

theorem isPlain_file {p : Program} (hunits : ∀ g ∈ p.units, IsGeneratorName g.name ∧ isWord g.name) :
    p.fileRoutine.isPlain := by
  have hfile : isWord fileFunction := by decide
  have hresult : (Grammar.Result.type true "jen" "File").isPlain := by decide
  have hcallee : ((Primary.name "jen").select "NewFile").isPlain := by decide
  have hret : (Primary.name "ret").isPlain := by decide
  have hnew : (Line.define "ret" (.call (.select (.name "jen") "NewFile") [.text p.name] false)).isPlain := by
    rw [Line.isPlain, hret, Primary.isPlain, hcallee, Bool.true_and, Bool.true_and]
    exact arePlain_texts [p.name]
  have hanonymous : p.anonymousLines.all Line.isPlain := by
    rw [anonymousLines]
    split
    · rfl
    · rw [List.all_cons, isPlain_called (by decide) (arePlain_texts p.anonymous)]
      rfl
  have haliases : (p.aliases.map aliasLine).all Line.isPlain := by
    rw [List.all_eq_true, List.forall_mem_map]
    exact fun a _ => isPlain_called (by decide) (arePlain_texts [a.1, a.2])
  have hcalls : (p.units.map unitLine).all Line.isPlain := by
    rw [List.all_eq_true, List.forall_mem_map]
    intro g hg
    refine isPlain_called (by decide) ?_
    rw [Primary.arePlain, Primary.run, Primary.isPlain, isPlain_name (hunits g hg).1 (hunits g hg).2]
    rfl
  have hback : (Line.giveBack (.name "ret")).isPlain := hret
  rw [fileRoutine, Grammar.Routine.isPlain, hfile, hresult, List.all_cons, List.all_append, List.all_append, List.all_append,
    hnew, hanonymous, haliases, hcalls, List.all_cons, hback]
  rfl

section
variable (l : Layout) {p : Program} (hpackage : isWord p.package)
  (hunits : ∀ g ∈ p.units, IsGeneratorName g.name ∧ isWord g.name ∧ Writable g.chain)
include hpackage hunits

/-- Names are identifiers and all expressions plain, if the generators can be written. -/
theorem isPlain_parts : ∀ q ∈ p.parts l, q.isPlain := by
  have himport : p.importPart.isPlain := by
    rw [importPart]
    cases p.entryPoint <;> decide +kernel
  have hroutines : ∀ r ∈ p.routines l, r.isPlain := by
    rw [routines, List.forall_mem_append, List.forall_mem_cons, List.forall_mem_map]
    refine ⟨fun g hg => isPlain_unit l (hunits g hg).2.1 (hunits g hg).2.2,
      isPlain_file fun g hg => ⟨(hunits g hg).1, (hunits g hg).2.1⟩, ?_⟩
    split
    · rw [List.forall_mem_singleton]
      decide +kernel
    · exact List.forall_mem_nil _
  rw [parts, List.forall_mem_cons, List.forall_mem_cons, List.forall_mem_map]
  exact ⟨hpackage, himport, hroutines⟩

/-- From some limit on, the text of a program is read to its tree. -/
theorem exists_read {parser : SourceParser} (hsimple : parser.ParsesParts) :
    ∃ bound, ∀ limit, bound ≤ limit → ∃ f, File.read parser limit (p.text l) = .ok f ∧ f.moved .nowhere = p.tree := by
  have hbody : Lexical.body (p.text l) = (p.text l).toList := by
    rw [Lexical.body, text_eq, String.toList_append]
    rfl
  obtain ⟨tokens, hscan, htokens⟩ := Scans.scan (hbody ▸ scans_text l hpackage fun g hg => (hunits g hg).2)
  have hspellings : spellings ((Part.rows false (p.parts l)).map Span.token) = Part.rows false (p.parts l) := by
    rw [spellings, List.filterMap_map]
    exact List.filterMap_some
  exact File.exists_read hsimple hscan (htokens.trans hspellings) (isPlain_parts l hpackage hunits) (ofParts_parts l p)

end

/-! ## What the text says -/

/-- The functions of a file are those of a program: one for each generator, which returns the calls of its chain, the
file function, and `main` if it is wanted. -/
structure WrittenAs (p : Program) (f : File) : Prop where
  package : f.package.name = p.package
  names : f.functions.map (·.name.name) =
    p.units.map Generator.name ++ fileFunction :: if p.entryPoint then ["main"] else []
  bodies : ∀ (i : Nat) (g : Generator) (d : FuncDecl), p.units[i]? = some g → f.functions[i]? = some d →
    d.body.map (Block.moved .nowhere) = some (.mk [.giveBack [g.chain.tree]] .none)

theorem functions_moved (g : Pos → Pos) (f : File) : (f.moved g).functions = f.functions.map (FuncDecl.moved g) := by
  rw [File.functions, File.moved, File.functions, List.filterMap_map, List.map_filterMap]
  refine List.filterMap_congr fun d _ => ?_
  cases d <;> rfl

theorem functions_tree (p : Program) : p.tree.functions = p.functions := by
  rw [File.functions, tree, List.filterMap_cons, Decl.func?, List.filterMap_map]
  exact List.filterMap_some

theorem writtenAs_of_moved {p : Program} {f : File} (h : f.moved .nowhere = p.tree) : p.WrittenAs f := by
  have hfunctions : f.functions.map (FuncDecl.moved .nowhere) = p.functions := by
    rw [← functions_moved, h, functions_tree]
  refine ⟨congrArg (fun f : File => f.package.name) h, ?_, fun i g d hg hd => ?_⟩
  · have hnames : p.functions.map (·.name.name) = f.functions.map (·.name.name) := by
      rw [← hfunctions, List.map_map]
      rfl
    rw [← hnames, functions, List.map_append, List.map_map, List.map_cons]
    cases p.entryPoint <;> rfl
  · have htree : p.functions[i]? = some (d.moved .nowhere) := by rw [← hfunctions, List.getElem?_map, hd, Option.map_some]
    have hlt := (List.getElem?_eq_some_iff.mp hg).1
    rw [functions, List.getElem?_append_left (by rwa [List.length_map]), List.getElem?_map, hg, Option.map_some,
      Option.some.injEq] at htree
    rw [unitTree] at htree
    exact congrArg FuncDecl.body htree.symm

/-- The texts of a program are read, from some limit on, to files that are alike and have its functions. -/
def Readable (parser : SourceParser) (p : Program) : Prop :=
  ∃ compact pretty, p.render .compact = .ok compact ∧ p.render .pretty = .ok pretty ∧
    ∃ bound, ∀ limit, bound ≤ limit → ∃ f g, File.read parser limit compact = .ok f ∧ File.read parser limit pretty = .ok g ∧
      f.alike g ∧ p.WrittenAs f ∧ p.WrittenAs g

end Program

/-- **A program that was assembled can be read, in both layouts, and says what its chains say.** Its package has to be
an identifier. A function of a generator returns the tree of the chain; the literals in such trees denote the texts in
the chain. The parser gives trees of the grammar, so that names in them are identifiers, and it parses what is as simple
as programs are. -/
theorem program_readable {parser : SourceParser} (hparser : parser.FollowsGrammar) (hsimple : parser.ParsesParts)
    {limit : Nat} {source : String} {f : File} {o : Options} {p : Program} (hread : File.read parser limit source = .ok f)
    (hpackage : isWord o.package) (hp : assemble f o = .ok p) :
    p.Readable parser ∧ ∀ text : String, stringValue? (Quoted.encode text) = some text.toUTF8 := by
  refine ⟨?_, stringValue_encode⟩
  have hunits := units_of_assemble hp (File.plain_of_read hparser hread)
  rw [assemble_eq_assembleBy, assembleBy_eq_ok_iff] at hp
  obtain ⟨-, table, gs, htable, hgs, rfl⟩ := hp
  have happart := namedApart_renamed (forall₂_generators (synthApart_eq_ok_iff.mp hgs))
  obtain ⟨m, hm⟩ := Program.exists_read .compact hpackage hunits hsimple
  obtain ⟨n, hn⟩ := Program.exists_read .pretty hpackage hunits hsimple
  refine ⟨_, _, Program.render_eq_text happart.nodup happart.not_file _, Program.render_eq_text happart.nodup
    happart.not_file _, max m n, fun d hd => ?_⟩
  obtain ⟨g, hg, hgtree⟩ := hm d (Nat.le_trans (Nat.le_max_left m n) hd)
  obtain ⟨h, hh, hhtree⟩ := hn d (Nat.le_trans (Nat.le_max_right m n) hd)
  exact ⟨g, h, hg, hh, File.alike_iff.mpr (hgtree.trans hhtree.symm), Program.writtenAs_of_moved hgtree,
    Program.writtenAs_of_moved hhtree⟩

/-- A string with escapes in a variable, and a method. -/
theorem program_readable_method :
    ∃ f p, File.read Grammar.parser 256 "package p\nvar s = `a\n\"b\\`\nfunc (t *T) m() \x7b f(s, 1) \x7d" = .ok f ∧ isWord "gen" ∧
      assemble f { package := "gen", entryPoint := true } = .ok p ∧
      p.units.map Generator.name = ["genDeclAt10", "genFuncTm"] ∧ p.Readable Grammar.parser := by
  generalize hsource : "package p\nvar s = `a\n\"b\\`\nfunc (t *T) m() \x7b f(s, 1) \x7d" = source
  have hword : isWord "gen" := by decide
  have hnames : ((File.read Grammar.parser 256 source).toOption.bind fun f =>
      (assemble f { package := "gen", entryPoint := true }).toOption.map fun p => p.units.map Generator.name) =
        some ["genDeclAt10", "genFuncTm"] := by
    rw [← hsource]
    decide +kernel
  cases hf : File.read Grammar.parser 256 source with
  | error e =>
    rw [hf] at hnames
    cases hnames
  | ok f =>
    rw [hf, Except.toOption, Option.bind_some] at hnames
    cases hp : assemble f { package := "gen", entryPoint := true } with
    | error e =>
      rw [hp] at hnames
      cases hnames
    | ok p =>
      rw [hp, Except.toOption, Option.map_some, Option.some.injEq] at hnames
      exact ⟨f, p, rfl, hword, hp, hnames, (program_readable Grammar.parser_followsGrammar Grammar.parser_parsesParts hf hword hp).1⟩

end GoRebuild
