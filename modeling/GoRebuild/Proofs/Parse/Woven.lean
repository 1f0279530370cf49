import GoRebuild.Grammar.Tree
import GoRebuild.Proofs.Parse.Derives

/-!
# Nodes with comments between them

* `Surroundings.pos` : the position of a place;
* `filter_weave` : comments between nodes are neither parts nor symbols of their parent;
* `parts_fork`, `child?_fork`, `symbols_fork` : the children of a node, whatever comments are between them;
* `HasRole`, `Node.hasRole_tree`, `Stmt.hasRole_tree` and the rest : the tree of an item is a part of its parent, in its
  field;
* `Standing`, `Standing.shape` : children with their fields as the shape of their parent.
-/

namespace GoRebuild.Grammar
open Parse.Node
open Lexical (Place)

/-- The position of a place in a tree. -/
def Surroundings.pos (e : Surroundings) (p : Place) : Pos :=
  let c := e.cursor p
  ⟨UInt32.ofNat c.offset, UInt32.ofNat c.row + 1, UInt32.ofNat c.column + 1⟩

variable {e : Surroundings} {kind text field : String} {p : Place} {r : Role}

/-! ## Nodes and the comments between them -/

theorem filter_between {q : Parse.Node → Bool} (hq : ∀ id (c : Comment), q (c.node id) = false) (id low high : Nat) :
    (between e id low high).filter q = [] := by
  rw [between, List.filter_eq_nil_iff]
  rintro _ h
  obtain ⟨c, -, rfl⟩ := List.mem_map.mp h
  rw [hq]
  exact Bool.false_ne_true

theorem filter_weave {q : Parse.Node → Bool} (hq : ∀ id (c : Comment), q (c.node id) = false) (id low : Nat)
    (cs : List Parse.Node) : (weave e id low cs).filter q = cs.filter q := by
  induction cs generalizing low with
  | nil => rfl
  | cons c cs ih =>
    rw [weave]
    split
    · rw [List.filter_append, filter_between hq, List.nil_append, List.filter_cons, List.filter_cons, ih]
    · rw [List.filter_cons, List.filter_cons, ih]

theorem parts_fork {cs : List Parse.Node} : (fork e kind p r cs).parts = cs.filter isPart :=
  filter_weave (fun _ _ => rfl) _ _ cs

theorem partsIn_fork {cs : List Parse.Node} :
    (fork e kind p r cs).partsIn field = (cs.filter (·.field? == some field)).filter isNamed :=
  congrArg (List.filter isNamed) (filter_weave (fun _ _ => rfl) _ _ cs)

theorem symbols_fork {cs : List Parse.Node} :
    (fork e kind p r cs).symbols = (cs.filter fun c => !c.isNamed).map Parse.Node.kind :=
  congrArg (List.map Parse.Node.kind) (filter_weave (fun _ _ => rfl) _ _ cs)

theorem child?_fork {cs : List Parse.Node} :
    (fork e kind p r cs).child? field = cs.find? (·.field? == some field) := by
  rw [child?, ← List.head?_filter, ← List.head?_filter]
  exact congrArg List.head? (filter_weave (fun _ _ => rfl) _ _ cs)

theorem colons_fork {cs : List Parse.Node} :
    (fork e kind p r cs).children.countP (·.kind == ":") = cs.countP (·.kind == ":") := by
  rw [List.countP_eq_length_filter, List.countP_eq_length_filter]
  exact congrArg List.length (filter_weave (fun _ _ => rfl) _ _ cs)

/-! ## What a node is to its parent -/

/-- A node at some place with some role that is neither a symbol nor a comment. -/
structure HasRole (e : Surroundings) (p : Place) (r : Role) (t : Parse.Node) : Prop where
  part : t.isPart
  colon : t.kind ≠ ":"
  field : t.field? = r.field
  id : t.nodeId = r.id
  pos : t.pos = e.pos p

theorem HasRole.named {t : Parse.Node} (h : HasRole e p r t) : t.isNamed :=
  (Bool.and_eq_true_iff.mp h.part).1

theorem HasRole.fork {cs : List Parse.Node} (h : kind ∉ ["comment", ":"]) : HasRole e p r (fork e kind p r cs) :=
  ⟨bne_iff_ne.mpr fun hk => h (hk ▸ .head _), fun hk => h (hk ▸ .tail _ (.head _)), rfl, rfl, rfl⟩

theorem HasRole.leaf (h : kind ∉ ["comment", ":"]) : HasRole e p r (leaf e kind text p r) :=
  ⟨bne_iff_ne.mpr fun hk => h (hk ▸ .head _), fun hk => h (hk ▸ .tail _ (.head _)), rfl, rfl, rfl⟩

theorem nameKind_mem (text : String) : nameKind text ∈ nameKinds := by
  unfold nameKind
  split
  · next h =>
    simp only [List.contains_iff_mem] at h
    exact (by decide : ∀ a ∈ ["nil", "true", "false", "iota"], a ∈ nameKinds) _ h
  · decide

theorem stringKind_mem (text : String) : stringKind text ∈ literalKinds .string := by
  unfold stringKind
  split <;> decide

theorem literalKind_mem (lit : BasicLit) : literalKind lit ∈ literalKinds lit.kind := by
  obtain ⟨kind, value⟩ := lit
  cases kind with
  | string => exact stringKind_mem value
  | _ => exact .head _

theorem not_mem_of_mem {kinds others : List String} (h : kind ∈ kinds) (hkinds : ∀ k ∈ kinds, k ∉ others) :
    kind ∉ others :=
  hkinds kind h

theorem NodeKind.hasRole_tree (k : NodeKind) (p : Place) (r : Role) : HasRole e p r (k.tree e p r) := by
  cases k with
  | name text => exact .leaf (not_mem_of_mem (nameKind_mem text) (by decide))
  | literal lit => exact .leaf (not_mem_of_mem (literalKind_mem lit) (by cases lit.kind <;> decide))
  | star x =>
    rw [NodeKind.tree]
    split
    · exact .fork (by decide)
    · exact .fork (by decide)
  | generic form place =>
    cases form with
    | typeArguments => exact .fork (by decide)
    | _ => exact .leaf (by decide)
  | _ => exact .fork (by decide)

theorem Node.hasRole_tree (x : Node) (r : Role) : HasRole e x.start r (x.tree e r) := by
  obtain ⟨k, p⟩ := x
  exact k.hasRole_tree p r

theorem Conditional.hasRole_tree (c : Conditional) (p : Place) (r : Role) : HasRole e p r (c.tree e p r) := by
  obtain ⟨init, cond, body, els, start⟩ := c
  exact .fork (by decide)

theorem Decl.hasRole_tree (d : Decl) (p : Place) (r : Role) : HasRole e p r (d.tree e p r) := by
  cases d with
  | value tok spec start => exact .fork (by cases tok <;> decide)
  | values tok specs start =>
    cases tok with
    | constTok => exact .fork (by decide)
    | varTok => exact .fork (by decide)
  | type spec start => exact .fork (by decide)
  | types specs start => exact .fork (by decide)

theorem StmtKind.hasRole_tree (k : StmtKind) (waits : Bool) (p : Place) (r : Role) :
    HasRole e p r (k.tree e waits p r) := by
  cases k with
  | decl d => exact d.hasRole_tree p r
  | expr x =>
    rw [StmtKind.tree]
    split
    · exact .fork (by decide)
    · exact .fork (by decide)
  | step x tok =>
    cases tok with
    | inc => exact .fork (by decide)
    | dec => exact .fork (by decide)
  | assign left op right =>
    rw [StmtKind.tree]
    split
    · exact .fork (by decide)
    · exact .fork (by decide)
  | labeled label x =>
    cases x with
    | none => exact .fork (by decide)
    | some x => exact .fork (by decide)
  | branch jump => exact .fork (by cases jump <;> simp [StmtKind.kindName])
  | block b =>
    obtain ⟨ss, start⟩ := b
    exact .fork (by decide)
  | empty => exact .leaf (by decide)
  | conditional c => exact c.hasRole_tree p r
  | _ => exact .fork (by decide)

theorem Stmt.hasRole_tree (x : Stmt) (r : Role) : HasRole e x.start r (x.tree e r) := by
  obtain ⟨k, p⟩ := x
  exact k.hasRole_tree false p r

section
variable {t : String} {cs : List Parse.Node}

@[simp] theorem isPart_fork : (fork e kind p r cs).isPart = !decide (kind = "comment") := rfl
@[simp] theorem kind_fork : (fork e kind p r cs).kind = kind := rfl
@[simp] theorem isNamed_fork : (fork e kind p r cs).isNamed = true := rfl
@[simp] theorem field?_fork : (fork e kind p r cs).field? = r.field := rfl
@[simp] theorem nodeId_fork : (fork e kind p r cs).nodeId = r.id := rfl
@[simp] theorem isPart_leaf : (leaf e kind text p r).isPart = !decide (kind = "comment") := rfl
@[simp] theorem isNamed_leaf : (leaf e kind text p r).isNamed = true := rfl
@[simp] theorem field?_leaf : (leaf e kind text p r).field? = r.field := rfl
@[simp] theorem nodeId_leaf : (leaf e kind text p r).nodeId = r.id := rfl
@[simp] theorem isPart_symbol : (symbol e t p r).isPart = false := rfl
@[simp] theorem isNamed_symbol : (symbol e t p r).isNamed = false := rfl
@[simp] theorem field?_symbol : (symbol e t p r).field? = r.field := rfl
@[simp] theorem kind_symbol : (symbol e t p r).kind = t := rfl

@[simp] theorem Node.isPart_tree (x : Node) : (x.tree e r).isPart = true := (x.hasRole_tree r).part
@[simp] theorem Node.kind_tree (x : Node) : (x.tree e r).kind ≠ ":" := (x.hasRole_tree r).colon
@[simp] theorem Node.isNamed_tree (x : Node) : (x.tree e r).isNamed = true := (x.hasRole_tree r).named
@[simp] theorem Node.field?_tree (x : Node) : (x.tree e r).field? = r.field := (x.hasRole_tree r).field
@[simp] theorem Node.nodeId_tree (x : Node) : (x.tree e r).nodeId = r.id := (x.hasRole_tree r).id
@[simp] theorem Stmt.isPart_tree (x : Stmt) : (x.tree e r).isPart = true := (x.hasRole_tree r).part
@[simp] theorem Stmt.isNamed_tree (x : Stmt) : (x.tree e r).isNamed = true := (x.hasRole_tree r).named
@[simp] theorem Stmt.field?_tree (x : Stmt) : (x.tree e r).field? = r.field := (x.hasRole_tree r).field
@[simp] theorem Stmt.nodeId_tree (x : Stmt) : (x.tree e r).nodeId = r.id := (x.hasRole_tree r).id
@[simp] theorem Block.isPart_tree (b : Block) : (b.tree e r).isPart = true := by
  obtain ⟨ss, p⟩ := b
  rfl
@[simp] theorem Block.field?_tree (b : Block) : (b.tree e r).field? = r.field := by
  obtain ⟨ss, p⟩ := b
  rfl
@[simp] theorem Block.nodeId_tree (b : Block) : (b.tree e r).nodeId = r.id := by
  obtain ⟨ss, p⟩ := b
  rfl

end

/-! ## Children in fields -/

/-- The parts among some children stand in some fields, each at most once, and no symbol stands in one of these. -/
structure Standing (cs : List Parse.Node) (fields : List (String × Option Parse.Node)) : Prop where
  parts : cs.filter isPart = fields.flatMap fun f => f.2.toList
  roles : ∀ f ∈ fields, ∀ c ∈ f.2, c.field? = some f.1
  apart : (fields.map Prod.fst).Nodup
  symbols : ∀ c ∈ cs, ¬c.isPart → ∀ f ∈ fields, c.field? ≠ some f.1

theorem find?_of_roles {fields : List (String × Option Parse.Node)} (hroles : ∀ f ∈ fields, ∀ c ∈ f.2, c.field? = some f.1)
    (hapart : (fields.map Prod.fst).Nodup) :
    ∀ f ∈ fields, (fields.flatMap fun f => f.2.toList).find? (·.field? == some f.1) = f.2 := by
  induction fields with
  | nil => exact fun f hf => nomatch hf
  | cons g fields ih =>
    obtain ⟨hg, hbehind⟩ := List.forall_mem_cons.mp hroles
    obtain ⟨hnew, hapart⟩ := List.nodup_cons.mp hapart
    intro f hf
    rw [List.flatMap_cons, List.find?_append]
    rcases List.mem_cons.mp hf with rfl | hf
    · clear ih
      cases ho : f.2 with
      | some c => simp [hg c ho]
      | none =>
        rw [Option.toList_none, List.find?_nil, Option.none_or, List.find?_eq_none]
        intro c hc hfield
        obtain ⟨h, hh, hc⟩ := List.mem_flatMap.mp hc
        have hname := hbehind h hh c (Option.mem_toList.mp hc)
        rw [hname] at hfield
        exact hnew (List.mem_map.mpr ⟨h, hh, Option.some.inj (eq_of_beq hfield)⟩)
    · have hne : f.1 ≠ g.1 := fun hfg => hnew (hfg ▸ List.mem_map_of_mem hf)
      have hnone : g.2.toList.find? (·.field? == some f.1) = none := by
        rw [List.find?_eq_none]
        intro c hc hfield
        rw [hg c (Option.mem_toList.mp hc)] at hfield
        exact hne (Option.some.inj (eq_of_beq hfield)).symm
      rw [hnone, Option.none_or, ih hbehind hapart f hf]

theorem flatMap_toList (fields : List (String × Option Parse.Node)) :
    (fields.flatMap fun f => f.2.toList) = fields.filterMap Prod.snd := by
  induction fields with
  | nil => rfl
  | cons f fields ih =>
    rw [List.flatMap_cons, List.filterMap_cons, ih]
    cases f.2 <;> rfl

theorem Standing.shape {cs : List Parse.Node} {fields : List (String × Option Parse.Node)} (h : Standing cs fields) :
    (fork e kind p r cs).Shape fields := by
  refine ⟨by rw [parts_fork, h.parts, flatMap_toList], fun f hf => ?_⟩
  rw [child?_fork, ← find?_of_roles h.roles h.apart f hf, ← h.parts, ← List.head?_filter, ← List.head?_filter,
    List.filter_filter]
  refine congrArg List.head? (List.filter_congr fun c hc => ?_)
  by_cases hpart : c.isPart
  · simp [hpart]
  · simp [hpart, h.symbols c hc hpart f hf]

theorem Standing.child?_other {cs : List Parse.Node} {fields : List (String × Option Parse.Node)} (h : Standing cs fields)
    (hfield : field ∉ fields.map Prod.fst) (hparts : ∀ c ∈ cs, c.isPart) : (fork e kind p r cs).child? field = none := by
  rw [child?_fork, List.find?_eq_none]
  intro c hc hin
  have hmem : c ∈ fields.flatMap fun f => f.2.toList := h.parts ▸ List.mem_filter.mpr ⟨hc, hparts c hc⟩
  obtain ⟨f, hf, hcf⟩ := List.mem_flatMap.mp hmem
  rw [h.roles f hf c (Option.mem_toList.mp hcf)] at hin
  exact hfield (List.mem_map.mpr ⟨f, hf, Option.some.inj (eq_of_beq hin)⟩)

theorem Standing.one {i : Nat} {a : Parse.Node} (ha : HasRole e p ⟨some field, i⟩ a) :
    Standing [a] [(field, some a)] :=
  ⟨by simp [ha.part], by simpa using ha.field, by simp, by simp [ha.part]⟩

theorem Standing.two {i j : Nat} {field' : String} {q : Place} {a b : Parse.Node} (ha : HasRole e p ⟨some field, i⟩ a)
    (hb : HasRole e q ⟨some field', j⟩ b) (hne : field ≠ field') :
    Standing [a, b] [(field, some a), (field', some b)] :=
  ⟨by simp [ha.part, hb.part], by simpa using ⟨ha.field, hb.field⟩, by simpa using hne, by simp [ha.part, hb.part]⟩

end GoRebuild.Grammar
