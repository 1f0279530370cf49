import GoRebuild.Proofs.Chain.Rows
import GoRebuild.Proofs.Parse.Simple
import GoRebuild.Tree.Build

/-!
# The expression that a chain is

* `Chain.tree` : the calls of a chain, applied from left to right to the name of the builder. Chains that are
  arguments are such expressions, texts are encoded strings and integers are in decimal;
* `Chain.primary` : the same with the line breaks of a layout;
* `Chain.row_primary`, `Chain.tree_primary`, `Chain.isPlain_primary` : its tokens are those that are written, its tree
  is that of the chain, and it is plain if the chain can be written.
-/

namespace GoRebuild
open Grammar (Primary)
open Lexical Text

/-! ## Trees -/

mutual

/-- An expression with a call applied to it. -/
def Step.applied (x : Expr) : Step → Expr
  | .mk m args => (x.select m).apply (Arg.trees args)

/-- An expression with all calls applied to it, from left to right. -/
def Step.allApplied (x : Expr) : List Step → Expr
  | [] => x
  | s :: ss => Step.allApplied (s.applied x) ss

/-- The expression of a chain that may be empty. -/
def Step.treeOf : List Step → Expr
  | [] => ((Expr.ofName "jen").select "Null").apply []
  | s :: ss => Step.allApplied (s.applied (Expr.ofName "jen")) ss

def Arg.tree : Arg → Expr
  | .code c => Step.treeOf c
  | .quoted s => Expr.literal .string (Quoted.encode s)
  | .int n => Expr.ofInt n

def Arg.trees : List Arg → List Expr
  | [] => []
  | a :: as => a.tree :: Arg.trees as

end

/-- The expression that a chain is. -/
def Chain.tree (c : Chain) : Expr :=
  Step.treeOf c

/-! ## Trees in a layout -/

section
variable (l : Layout)

mutual

/-- An expression with a call applied to it, in a layout. -/
def Step.onto (x : Primary) : Step → Primary
  | .mk m args => .call (.select x m) (Arg.primaries args) (l.breaks m args.length)

/-- An expression with all calls applied to it, in a layout. -/
def Step.allOnto (x : Primary) : List Step → Primary
  | [] => x
  | s :: ss => Step.allOnto (s.onto x) ss

/-- The expression of a chain that may be empty, in a layout. -/
def Step.primaryOf : List Step → Primary
  | [] => .call (.select (.name "jen") "Null") [] false
  | s :: ss => Step.allOnto (s.onto (.name "jen")) ss

def Arg.primary : Arg → Primary
  | .code c => Step.primaryOf c
  | .quoted s => .literal ⟨.string, Quoted.encode s⟩
  | .int n => .literal ⟨.int, toString n⟩

def Arg.primaries : List Arg → List Primary
  | [] => []
  | a :: as => a.primary :: Arg.primaries as

end

/-- The expression that a chain is, in a layout. -/
def Chain.primary (c : Chain) : Primary :=
  Step.primaryOf l c

/-! ### Tokens -/

mutual

theorem Step.row_onto (newLine : Bool) (x : Primary) : ∀ s : Step, (s.onto l x).row newLine = x.row newLine ++ s.row l
  | .mk m [] => by simp [Step.onto, Arg.primaries, Primary.row, Step.row]
  | .mk m (a :: as) => by
    simp [Step.onto, Arg.primaries, Primary.row, Step.row, Arg.row_primary _ a, Arg.rowRest_primaries _ as]

theorem Step.row_allOnto (newLine : Bool) : ∀ (ss : List Step) (x : Primary),
    (Step.allOnto l x ss).row newLine = x.row newLine ++ Step.rowRest l ss
  | [], x => (List.append_nil _).symm
  | s :: ss, x => by
    rw [Step.allOnto, Step.row_allOnto newLine ss, Step.row_onto newLine x s, Step.rowRest, List.append_assoc]

theorem Step.row_primaryOf (newLine : Bool) : ∀ c : List Step, (Step.primaryOf l c).row newLine = Step.rowOf l newLine c
  | [] => rfl
  | s :: ss => by
    rw [Step.primaryOf, Step.row_allOnto newLine ss, Step.row_onto newLine _ s, List.append_assoc]
    rfl

theorem Arg.row_primary (newLine : Bool) : ∀ a : Arg, (a.primary l).row newLine = a.row l newLine
  | .code c => Step.row_primaryOf newLine c
  | .quoted _ | .int _ => rfl

theorem Arg.rowRest_primaries (broken : Bool) : ∀ as : List Arg, Primary.rowRest broken (Arg.primaries l as) = Arg.rowRest l broken as
  | [] => rfl
  | a :: as => by
    rw [Arg.primaries, Primary.rowRest, Arg.row_primary broken a, Arg.rowRest_primaries broken as, Arg.rowRest]

end

/-! ### Trees -/

theorem Grammar.Primary.pos_tree (x : Primary) : x.tree.pos = .none := by
  cases x <;> rfl

mutual

theorem Step.tree_onto (x : Primary) : ∀ s : Step, (s.onto l x).tree = s.applied x.tree
  | .mk m args => by
    rw [Step.onto, Primary.tree, Primary.tree, Arg.trees_primaries args, Step.applied, Expr.select, Expr.apply, x.pos_tree]
    rfl

theorem Step.tree_allOnto : ∀ (ss : List Step) (x : Primary), (Step.allOnto l x ss).tree = Step.allApplied x.tree ss
  | [], _ => rfl
  | s :: ss, x => by rw [Step.allOnto, Step.tree_allOnto ss, Step.tree_onto x s, Step.allApplied]

theorem Step.tree_primaryOf : ∀ c : List Step, (Step.primaryOf l c).tree = Step.treeOf c
  | [] => rfl
  | s :: ss => by
    rw [Step.primaryOf, Step.tree_allOnto ss, Step.tree_onto _ s, Step.treeOf]
    rfl

theorem Arg.tree_primary : ∀ a : Arg, (a.primary l).tree = a.tree
  | .code c => Step.tree_primaryOf c
  | .quoted _ | .int _ => rfl

theorem Arg.trees_primaries : ∀ as : List Arg, Primary.trees (Arg.primaries l as) = Arg.trees as
  | [] => rfl
  | a :: as => by rw [Arg.primaries, Primary.trees, Arg.tree_primary a, Arg.trees_primaries as, Arg.trees]

end

/-! ### Names and literals -/

theorem Grammar.Primary.isPlain_literal {kind : LitKind} {text : String} (p : String → Bool) (h : p text)
    (hopenings : Grammar.openings.any p = false) (hclose : p ")" = false) : (Primary.literal ⟨kind, text⟩).isPlain := by
  rw [Primary.isPlain, Bool.and_eq_true, bne_iff_ne]
  refine ⟨Grammar.startsOperand_of p h hopenings, ?_⟩
  rintro rfl
  rw [h] at hclose
  cases hclose

theorem isPlain_quoted (s : String) : (Primary.literal ⟨.string, Quoted.encode s⟩).isPlain := by
  refine Primary.isPlain_literal (fun text => text.toList.head? == some '"') ?_ (by decide) (by decide)
  rw [Quoted.encode, String.toList_ofList, Quoted.encodeChars]
  rfl

theorem isPlain_int {n : Int} (h : decimal? (toString n) == some n) : (Primary.literal ⟨.int, toString n⟩).isPlain := by
  obtain ⟨d, ds, htext, hd, -⟩ := digits_of_decimal (beq_iff_eq.mp h)
  refine Primary.isPlain_literal (fun text => text.toList.head?.any Char.isDigit) ?_ (by decide) (by decide)
  rw [htext]
  exact hd

mutual

theorem Step.isPlain_onto {x : Primary} (hx : x.isPlain) : ∀ s : Step, s.isWritable → (s.onto l x).isPlain
  | .mk m args, hs => by
    rw [Step.isWritable, Bool.and_eq_true] at hs
    rw [Step.onto, Primary.isPlain, Primary.isPlain, hx, hs.1, Arg.isPlain_primaries args hs.2]
    rfl

theorem Step.isPlain_allOnto : ∀ (ss : List Step) {x : Primary}, x.isPlain → Step.allWritable ss → (Step.allOnto l x ss).isPlain
  | [], _, hx, _ => hx
  | s :: ss, _, hx, hss => by
    rw [Step.allWritable, Bool.and_eq_true] at hss
    exact Step.isPlain_allOnto ss (Step.isPlain_onto hx s hss.1) hss.2

theorem Step.isPlain_primaryOf : ∀ c : List Step, Step.allWritable c → (Step.primaryOf l c).isPlain
  | [], _ =>
    have hnull : (Primary.call (.select (.name "jen") "Null") [] false).isPlain := by decide
    hnull
  | s :: ss, hc => by
    rw [Step.allWritable, Bool.and_eq_true] at hc
    exact Step.isPlain_allOnto ss (Step.isPlain_onto (by decide) s hc.1) hc.2

theorem Arg.isPlain_primary : ∀ a : Arg, a.isWritable → (a.primary l).isPlain
  | .code c, ha => Step.isPlain_primaryOf c ha
  | .quoted s, _ => isPlain_quoted s
  | .int _, ha => isPlain_int ha

theorem Arg.isPlain_primaries : ∀ as : List Arg, Arg.allWritable as → Primary.arePlain (Arg.primaries l as)
  | [], _ => rfl
  | a :: as, has => by
    rw [Arg.allWritable, Bool.and_eq_true] at has
    rw [Arg.primaries, Primary.arePlain, Arg.isPlain_primary a has.1, Arg.isPlain_primaries as has.2]
    rfl

end

/-! ### Chains -/

theorem Chain.row_primary (newLine : Bool) (c : Chain) : (c.primary l).row newLine = Step.rowOf l newLine c :=
  Step.row_primaryOf l newLine c

theorem Chain.tree_primary (c : Chain) : (c.primary l).tree = c.tree :=
  Step.tree_primaryOf l c

theorem Chain.isPlain_primary {c : Chain} (h : Step.allWritable c) : (c.primary l).isPlain :=
  Step.isPlain_primaryOf l c h

end

end GoRebuild
