import GoRebuild.Proofs.Grammar.Pieces
import GoRebuild.Proofs.Grammar.Renders
import GoRebuild.Proofs.Lexical.Relaid
import GoRebuild.Proofs.Parse.Simple
import GoRebuild.Proofs.Reader.DerivedSource

/-!
# What is asked of a parser

The reader takes the trees of a parser as they are. What is proved of it needs that these are the trees of the grammar;
where a theorem needs more of the parser than that, it says so.

* `Grammar.Spells` : items that are made of given tokens, in their order;
* `SourceParser.Derives` : the tree of a source is derived from items that are made of its tokens;
* `SourceParser.FollowsGrammar` : each tree without errors is derived so;
* `SourceParser.IgnoresLayout` : a source that is laid out anew has a tree of the same derivation;
* `SourceParser.ParsesParts` : simple sources have trees without errors, of what was written;
* `File.read_derived`, `File.read_error` : what is read of a source is what is read of the items of its tree, if that is
  without errors.
-/

namespace GoRebuild
open Grammar Lexical

/-- The imports in an entry at top level. -/
def Grammar.Item.specs : Item → List Import
  | .importOne i _ => [i]
  | .imports is _ => is
  | _ => []

/-- Items are made of tokens. -/
structure Grammar.Spells (items : List Item) (tokens : List Token) : Prop where
  /-- They are the tokens in their order: none is left over and none is made up. A symbol that was read as two operators is
  two. -/
  renders : ∃ us, Splits (lexemes tokens) us ∧ Renders (Piece.separated .stop (items.map Item.pieces)) us
  /-- The path of an import is a string literal, as it stands. -/
  literals : ∀ i ∈ items.flatMap Item.specs, ∃ t ∈ tokens, t.kind = .literal .string ∧ t.text = i.path

namespace SourceParser

/-- The tree of a source is without errors, and is derived from items that are made of the tokens of the source. -/
structure Derives (parser : SourceParser) (source : String) (items : List Item) (pos : Place → Pos) : Prop where
  tree : ∃ root, parser source = some root ∧ root.hasError = false ∧ FileDerives pos items root
  tokens : ∃ tokens, scan source = some tokens ∧ Spells items (tokens.map (·.1))

/-- Trees without errors are derived by the grammar. -/
def FollowsGrammar (parser : SourceParser) : Prop :=
  ∀ source root, parser source = some root → root.hasError = false → ∃ items pos, parser.Derives source items pos

/-- White space and comments between the tokens of a source decide where the nodes of its tree stand, but not which
these are. -/
def IgnoresLayout (parser : SourceParser) : Prop :=
  ∀ source text root, parser source = some root → root.hasError = false → Relaid source text →
    ∃ items pos pos', parser.Derives source items pos ∧ parser.Derives text items pos'

/-- A source of imports and functions, the statements of which return, define or call, has a tree without errors, and this
is a tree of what was written: a call is read as a call, and an import as an import. -/
def ParsesParts (parser : SourceParser) : Prop :=
  ∀ source tokens p ps, scan source = some tokens → tokens.map (·.1.spelling) = Part.rows false (p :: ps) →
    (∀ q ∈ p :: ps, q.isPlain) → ∃ items pos, parser.Derives source items pos ∧ List.Forall₂ Part.Forms (p :: ps) items

end SourceParser

namespace File
variable {parser : SourceParser} {source : String} {items : List Item} {pos : Place → Pos}

/-- Reading a source is reading the items of its tree and putting the parts together. -/
theorem read_derived (h : parser.Derives source items pos) (limit : Nat) : File.read parser limit source =
    (items.mapM fun i : Item => i.read ⟨pos, limit⟩).run 0 >>= File.ofParts := by
  obtain ⟨root, hroot, herror, hderives⟩ := h.tree
  have hread := @readFile_derived ⟨pos, limit⟩ items root hderives herror
  rw [File.read, hroot]
  exact congrArg (fun act : Reading File => act.run 0) hread

/-- The parts of a source that is read, and the file that they are. -/
theorem parts_of_read (h : parser.Derives source items pos) {limit : Nat} {f : File}
    (hread : File.read parser limit source = .ok f) :
    ∃ parts, (items.mapM fun i : Item => i.read ⟨pos, limit⟩).run 0 = .ok parts ∧ File.ofParts parts = .ok f := by
  rw [read_derived h] at hread
  cases hparts : (items.mapM fun i : Item => i.read ⟨pos, limit⟩).run 0 with
  | error e =>
    rw [hparts] at hread
    cases hread
  | ok parts =>
    rw [hparts] at hread
    exact ⟨parts, rfl, hread⟩

/-- A tree with errors is refused for the first of them. -/
theorem read_error {root : Parse.Node} (hroot : parser source = some root) (herror : root.hasError) (limit : Nat) :
    File.read parser limit source = .error (.badSyntax ((root.firstError.map Parse.Node.pos).getD .none)) := by
  rw [File.read, hroot]
  change (readFile limit root).run 0 = _
  rw [readFile, herror]
  rfl

/-- A source that is read has a tree without errors. -/
theorem tree_of_read {limit : Nat} {f : File} (h : File.read parser limit source = .ok f) :
    ∃ root, parser source = some root ∧ root.hasError = false := by
  cases hroot : parser source with
  | none =>
    rw [File.read, hroot] at h
    cases h
  | some root =>
    refine ⟨root, rfl, Bool.eq_false_iff.mpr fun herror => ?_⟩
    rw [read_error hroot herror] at h
    cases h

/-- A source that is read has a derivation. -/
theorem exists_derivation (hparser : parser.FollowsGrammar) {limit : Nat} {f : File}
    (h : File.read parser limit source = .ok f) : ∃ items pos, parser.Derives source items pos := by
  obtain ⟨root, hroot, herror⟩ := tree_of_read h
  exact hparser source root hroot herror

end File

end GoRebuild
