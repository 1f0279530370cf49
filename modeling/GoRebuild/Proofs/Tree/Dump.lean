import GoRebuild.Grammar.Tree
import GoRebuild.Program.Generate
import GoRebuild.Proofs.Json.Text
import GoRebuild.Proofs.Tree.RoundTrip

/-!
# The JSON of a tree as text

* `File.encode_integral` : a tree as JSON has no numbers but integers, and so `Json.parse?_pretty` holds of its text;
* `dumpTree_eq_ok` : what is shown of a source is the text of the tree that is read from it;
* `tree_json_round_trips` : trees can be read back from their JSON, and their JSON from the text that is shown, where the
  reader has room for as many arrays and objects in each other as the tree needs.
-/

namespace GoRebuild
open Json

/-! ## Numbers in trees -/

namespace Json

theorem str_integral (s : String) : (str s).integral := rfl

@[simp]
theorem variant_integral (k : String) (c : Json) : (variant k c).integral = c.integral := by
  simp [variant, integral, integralMembers]

@[simp]
theorem fieldList_integral (vs : List Json) : (fieldList vs).integral = integralItems vs := by
  simp [fieldList, integral, integralMembers]

variable {α : Type} {f : α → Json}

theorem map_integral (h : ∀ a, (f a).integral) : ∀ as : List α, integralItems (as.map f)
  | [] => rfl
  | a :: as => by simp [integralItems, h a, map_integral h as]

theorem option_integral (h : ∀ a, (f a).integral) : ∀ o : Option α, (option f o).integral
  | none => rfl
  | some a => h a

end Json

theorem Pos.encode_integral (p : Pos) : p.encode.integral := rfl

theorem Ident.encode_integral (i : Ident) : i.encode.integral := rfl

theorem ImportName.encode_integral (n : ImportName) : n.encode.integral := by
  cases n <;> rfl

theorem ImportSpec.encode_integral (s : ImportSpec) : s.encode.integral := by
  simp [ImportSpec.encode, integral, integralMembers, option_integral ImportName.encode_integral, Pos.encode_integral]

theorem DeclToken.encode_integral (t : DeclToken) : t.encode.integral := by
  cases t <;> rfl

theorem BasicLit.encode_integral (l : BasicLit) : l.encode.integral := by
  obtain ⟨k, v⟩ := l
  cases k <;> rfl

theorem ChanDir.encode_integral (d : ChanDir) : d.encode.integral := by
  cases d <;> rfl

theorem IncDec.encode_integral (t : IncDec) : t.encode.integral := by
  cases t <;> rfl

theorem BranchTok.encode_integral (t : BranchTok) : t.encode.integral := by
  cases t <;> rfl

mutual

theorem Expr.encode_integral : ∀ x : Expr, x.encode.integral
  | .mk k p => by
    simp [Expr.encode, integral, integralMembers, k.encode_integral, p.encode_integral]
termination_by structural x => x

theorem ExprKind.encode_integral (k : ExprKind) : k.encode.integral := by
  cases k <;> simp [ExprKind.encode, integral, integralMembers, Expr.encode_integral, Expr.encodeOption_integral,
    Expr.encodeList_integral, FuncType.encode_integral, Block.encode_integral, Field.encodeList_integral,
    BasicLit.encode_integral, Ident.encode_integral, ChanDir.encode_integral]
termination_by structural k

theorem Expr.encodeOption_integral : ∀ x : Option Expr, (Expr.encodeOption x).integral
  | none => rfl
  | some x => x.encode_integral
termination_by structural x => x

theorem Expr.encodeList_integral : ∀ xs : List Expr, integralItems (Expr.encodeList xs)
  | [] => rfl
  | x :: xs => by simp [Expr.encodeList, integralItems, x.encode_integral, Expr.encodeList_integral xs]
termination_by structural xs => xs

theorem FuncType.encode_integral : ∀ t : FuncType, t.encode.integral
  | .mk ps rs => by
    simp [FuncType.encode, integral, integralMembers, Field.encodeList_integral ps, Field.encodeResults_integral rs]
termination_by structural t => t

theorem Field.encodeResults_integral : ∀ rs : Option (List Field), (Field.encodeResults rs).integral
  | none => rfl
  | some fs => by simp [Field.encodeResults, Field.encodeList_integral fs]
termination_by structural rs => rs

theorem Field.encode_integral : ∀ f : Field, f.encode.integral
  | .mk ns t tag => by
    simp [Field.encode, integral, integralMembers, map_integral Ident.encode_integral, t.encode_integral,
      option_integral BasicLit.encode_integral]
termination_by structural f => f

theorem Field.encodeList_integral : ∀ fs : List Field, integralItems (Field.encodeList fs)
  | [] => rfl
  | f :: fs => by simp [Field.encodeList, integralItems, f.encode_integral, Field.encodeList_integral fs]
termination_by structural fs => fs

theorem Block.encode_integral : ∀ b : Block, b.encode.integral
  | .mk ss p => by
    simp [Block.encode, integral, integralMembers, Stmt.encodeList_integral ss, p.encode_integral]
termination_by structural b => b

theorem Stmt.encode_integral : ∀ s : Stmt, s.encode.integral
  | .mk k p => by
    simp [Stmt.encode, integral, integralMembers, k.encode_integral, p.encode_integral]
termination_by structural s => s

theorem StmtKind.encode_integral (k : StmtKind) : k.encode.integral := by
  cases k <;> simp [StmtKind.encode, integral, integralMembers, Expr.encode_integral, Expr.encodeOption_integral,
    Expr.encodeList_integral, Stmt.encode_integral, Stmt.encodeOption_integral, Stmt.encodeList_integral,
    Block.encode_integral, GenDecl.encode_integral, Ident.encode_integral, IncDec.encode_integral,
    BranchTok.encode_integral, option_integral Ident.encode_integral, option_integral str_integral]
termination_by structural k

theorem Stmt.encodeOption_integral : ∀ s : Option Stmt, (Stmt.encodeOption s).integral
  | none => rfl
  | some s => s.encode_integral
termination_by structural s => s

theorem Stmt.encodeList_integral : ∀ ss : List Stmt, integralItems (Stmt.encodeList ss)
  | [] => rfl
  | s :: ss => by simp [Stmt.encodeList, integralItems, s.encode_integral, Stmt.encodeList_integral ss]
termination_by structural ss => ss

theorem GenDecl.encode_integral : ∀ d : GenDecl, d.encode.integral
  | .mk t p g ss => by
    simp [GenDecl.encode, integral, integralMembers, t.encode_integral, p.encode_integral, Spec.encodeList_integral ss]
termination_by structural d => d

theorem Spec.encode_integral (s : Spec) : s.encode.integral := by
  cases s <;> simp [Spec.encode, integral, integralMembers, ImportSpec.encode_integral, Ident.encode_integral,
    map_integral Ident.encode_integral, Expr.encode_integral, Expr.encodeOption_integral, Expr.encodeList_integral]
termination_by structural s

theorem Spec.encodeList_integral : ∀ ss : List Spec, integralItems (Spec.encodeList ss)
  | [] => rfl
  | s :: ss => by simp [Spec.encodeList, integralItems, s.encode_integral, Spec.encodeList_integral ss]
termination_by structural ss => ss

end

theorem FuncDecl.encode_integral (d : FuncDecl) : d.encode.integral := by
  simp [FuncDecl.encode, integral, integralMembers, Field.encodeResults_integral, Ident.encode_integral,
    FuncType.encode_integral, option_integral Block.encode_integral, Pos.encode_integral]

theorem Decl.encode_integral : ∀ d : Decl, d.encode.integral
  | .gen d => by simp [Decl.encode, d.encode_integral]
  | .func d => by simp [Decl.encode, d.encode_integral]

theorem File.encode_integral (f : File) : f.encode.integral := by
  simp [File.encode, integral, integralMembers, Ident.encode_integral, map_integral ImportSpec.encode_integral,
    map_integral Decl.encode_integral]

/-! ## Trees and their JSON -/

section
variable {parser : SourceParser} {limit : Nat} {source text : String}

/-- The syntax tree of a source as text is JSON for the tree that is read from the source. -/
theorem dumpTree_eq_ok :
    dumpTree parser limit source = .ok text ↔ ∃ f, File.read parser limit source = .ok f ∧ f.encode.pretty = text := by
  unfold dumpTree
  cases File.read parser limit source <;> simp [Except.mapError]

end

/-- **Trees can be read back from their JSON**, whatever stands in them: each tree has its own JSON, and fields that no tree
has, or fields without a value left out, change nothing. And from the text that shows the tree of a source, the JSON of
that tree can be read, exactly where the reader of the text has room for arrays and objects as deep in each other as the
tree has them: readers of JSON stop at some depth, and many of them after 127. -/
theorem tree_json_round_trips :
    RoundTrips File.encode File.decode? ∧ RoundTrips Decl.encode Decl.decode? ∧
    RoundTrips Stmt.encode Stmt.decode? ∧ RoundTrips Expr.encode Expr.decode? ∧
    (∀ parser limit source f, File.read parser limit source = .ok f →
      ∃ text, dumpTree parser limit source = .ok text ∧
        ∀ room, parse? room text = if f.encode.depth ≤ room then some f.encode else none) ∧
    ∀ parser limit source text, dumpTree parser limit source = .ok text →
      ∃ f, File.read parser limit source = .ok f ∧
        ∀ room, parse? room text = if f.encode.depth ≤ room then some f.encode else none := by
  refine ⟨.of_reads File.reads, .of_reads Decl.reads, .of_reads Stmt.reads_decode, .of_reads Expr.reads_decode,
    fun parser limit source f hf => ?_, fun parser limit source text htext => ?_⟩
  · exact ⟨f.encode.pretty, dumpTree_eq_ok.mpr ⟨f, hf, rfl⟩, parse?_pretty f.encode_integral⟩
  · obtain ⟨f, hf, rfl⟩ := dumpTree_eq_ok.mp htext
    exact ⟨f, hf, parse?_pretty f.encode_integral⟩

/-- The type of a slice without the length that it has not, and with a comment; and the source `package p`, whose tree is
three objects deep: a reader with room for 127 reads it, and one with room for two does not. -/
theorem tree_json_round_trips_slice :
    let elt : Expr := .mk (.ident "int") ⟨2, 1, 3⟩
    let slice : Expr := .mk (.arrayType none elt) ⟨0, 1, 1⟩
    let loosened := obj [("comment", str "a slice"), ("kind", variant "ArrayType" (obj [("elt", elt.encode)])),
      ("pos", slice.pos.encode)]
    Loosened slice.encode loosened ∧ Expr.decode? loosened = some slice ∧
    ∃ f text, File.read Grammar.parser 256 "package p\n" = .ok f ∧ dumpTree Grammar.parser 256 "package p\n" = .ok text ∧
      parse? 127 text = some f.encode ∧ parse? 2 text = none := by
  intro elt slice loosened
  have hkind : Loosened slice.kind.encode (variant "ArrayType" (obj [("elt", elt.encode)])) :=
    .of_content (@Loosened.null_left_out "len" [] [("elt", elt.encode)] rfl (by decide))
  have hloosened : Loosened slice.encode loosened := by
    refine .of_members (List.forall_mem_cons.mpr ⟨hkind, List.forall_mem_singleton.mpr (.refl _)⟩) fun k v h _ => ?_
    cases h
  have hdepth : (File.read Grammar.parser 256 "package p\n").toOption.map (·.encode.depth) = some 3 := by
    decide +kernel
  cases hf : File.read Grammar.parser 256 "package p\n" with
  | error e =>
    rw [hf] at hdepth
    cases hdepth
  | ok f =>
    rw [hf] at hdepth
    have hdepth : f.encode.depth = 3 := Option.some.inj hdepth
    obtain ⟨-, -, -, hexpr, hdump, -⟩ := tree_json_round_trips
    obtain ⟨text, htext, hparse⟩ := hdump Grammar.parser 256 "package p\n" f hf
    exact ⟨hloosened, hexpr.tolerant slice loosened hloosened, f, text, rfl, htext,
      (hparse 127).trans (if_pos (by rw [hdepth]; decide)), (hparse 2).trans (if_neg (by rw [hdepth]; decide))⟩

end GoRebuild
