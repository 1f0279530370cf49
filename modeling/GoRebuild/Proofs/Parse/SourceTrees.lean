import GoRebuild.Proofs.Parse.Trees

/-!
# The tree of a source is derived from its items

* `Import.tree_derives`, `Func.tree_derives`, `Item.tree_derives` : entries at top level;
* `fileTree_derives` : the tree of a source.
-/

namespace GoRebuild.Grammar
open Parse.Node
open Lexical (Place)

variable {e : Surroundings}

theorem Import.tree_derives (i : Import) (r : Role) : i.Derives e.pos (i.tree e r) := by
  obtain ⟨name, path, start⟩ := i
  match name with
  | none =>
    exact ⟨rfl, rfl, none, leaf e (stringKind path) path start ⟨"path", 1⟩,
      Standing.shape (by constructor <;> simp [importNameTrees]), rfl, rfl⟩
  | some .dot =>
    exact ⟨rfl, rfl, leaf e "dot" "." start ⟨"name", 0⟩, leaf e (stringKind path) path (after start) ⟨"path", 1⟩,
      Standing.shape (by constructor <;> simp [importNameTrees]), ⟨_, rfl, rfl⟩, rfl⟩
  | some .blank =>
    exact ⟨rfl, rfl, leaf e "blank_identifier" "_" start ⟨"name", 0⟩,
      leaf e (stringKind path) path (after start) ⟨"path", 1⟩,
      Standing.shape (by constructor <;> simp [importNameTrees]), ⟨_, rfl, rfl⟩, rfl⟩
  | some (.named text) =>
    exact ⟨rfl, rfl, leaf e "package_identifier" text start ⟨"name", 0⟩,
      leaf e (stringKind path) path (after start) ⟨"path", 1⟩,
      Standing.shape (by constructor <;> simp [importNameTrees]), ⟨_, rfl, rfl, rfl⟩, rfl⟩

theorem importTrees_derive (specs : List Import) (roles : Nat → Role) :
    List.Forall₂ (Import.Derives e.pos) specs (specs.mapIdx fun i spec => spec.tree e (roles i)) := by
  induction specs generalizing roles with
  | nil => exact .nil
  | cons spec specs ih =>
    rw [List.mapIdx_cons]
    exact .cons (spec.tree_derives _) (ih fun i => roles (i + 1))

theorem importTrees_parts (specs : List Import) (roles : Nat → Role) :
    AllParts (specs.mapIdx fun i spec => spec.tree e (roles i)) := by
  induction specs generalizing roles with
  | nil => exact fun t h => nomatch h
  | cons spec specs ih =>
    rw [List.mapIdx_cons]
    exact List.forall_mem_cons.mpr ⟨rfl, ih fun i => roles (i + 1)⟩

theorem ReceiverDerives.of_tree (recv : Option (List Param)) (p : Place) (i : Nat) :
    ReceiverDerives e.pos recv
      (recv.map fun ps => fork e "parameter_list" p ⟨"receiver", i⟩ (paramTrees e 0 ps)) := by
  cases recv with
  | none => rfl
  | some ps => exact ⟨_, rfl, rfl, (paramTrees_parts ps 0).parts.symm ▸ paramTrees_derive ps 0⟩

theorem Block.OptionDerives.of_tree (body : Option Block) (r : Role) :
    Block.OptionDerives e.pos body (body.map fun b => b.tree e r) := by
  cases body with
  | none => rfl
  | some b => exact ⟨_, rfl, b.tree_derives r⟩

theorem Func.tree_derives (f : Func) (r : Role) : f.Derives e.pos (f.tree e r) := by
  obtain ⟨recv, name, params, sig, body, start⟩ := f
  let recvTree : Option Parse.Node :=
    recv.map fun ps => fork e "parameter_list" (after start) ⟨"receiver", 0⟩ (paramTrees e 0 ps)
  let nameTree : Parse.Node := name.tree e "identifier" ⟨"name", 4⟩
  let paramsTree : Option Parse.Node :=
    params.map fun p => leaf e "type_parameter_list" "" p ⟨"type_parameters", 5⟩
  let bodyTree : Option Parse.Node := body.map fun b => b.tree e ⟨"body", 3⟩
  have hcs : Func.tree e ⟨recv, name, params, sig, body, start⟩ r =
      fork e (if recv.isSome then "method_declaration" else "function_declaration") start r
        ((recvTree.toList ++ nameTree :: paramsTree.toList) ++ (sig.trees e (after name.place) ++ bodyTree.toList)) := by
    cases recv <;> cases params <;> cases body <;> rfl
  have hparts : AllParts ((recvTree.toList ++ nameTree :: paramsTree.toList) ++ bodyTree.toList) := by
    cases recv <;> cases params <;> cases body <;> simp [AllParts, recvTree, nameTree, paramsTree, bodyTree, Name.tree]
  have hstanding := @standing_signature e sig (after name.place) (recvTree.toList ++ nameTree :: paramsTree.toList)
    bodyTree.toList [("receiver", recvTree), ("name", some nameTree), ("type_parameters", paramsTree)] [("body", bodyTree)]
    (by cases recv <;> cases params <;> simp [recvTree, nameTree, paramsTree, Name.tree])
    (by cases body <;> simp [bodyTree])
    (by cases recv <;> cases params <;> cases body <;> simp [recvTree, nameTree, paramsTree, bodyTree, Name.tree])
    (by simp) hparts
  have hall : AllParts
      ((recvTree.toList ++ nameTree :: paramsTree.toList) ++ (sig.trees e (after name.place) ++ bodyTree.toList)) := by
    obtain ⟨hbefore, hbody⟩ := List.forall_mem_append.mp hparts
    exact List.forall_mem_append.mpr ⟨hbefore, List.forall_mem_append.mpr ⟨sig.trees_parts _, hbody⟩⟩
  rw [hcs]
  refine ⟨by cases recv <;> simp, rfl, ?_, recvTree, nameTree, paramsTree, _, _, bodyTree, ?_, .of_tree recv _ 0,
    ⟨rfl, rfl⟩, .of_tree params 5, sig.trees_derive (after name.place), .of_tree body _⟩
  · exact hstanding.child?_other (by simp) hall
  · simpa using hstanding.shape

/-- A statement has the kind that it is refused as at top level. -/
theorem Stmt.kind_tree (x : Stmt) (r : Role) : (x.tree e r).kind = x.kind.kindName := by
  obtain ⟨k, p⟩ := x
  cases k with
  | decl d =>
    cases d with
    | value tok spec start => cases tok <;> rfl
    | values tok specs start => cases tok <;> rfl
    | _ => rfl
  | step x tok => cases tok <;> rfl
  | assign left op right =>
    simp only [Stmt.tree, StmtKind.tree, Stmt.kind, StmtKind.kindName]
    split <;> rfl
  | labeled label x => cases x <;> rfl
  | block b => cases b; rfl
  | conditional c => cases c; rfl
  | _ => rfl

theorem Item.tree_derives (i : Item) (id : Nat) : i.Derives e.pos (i.tree e id) := by
  cases i with
  | package n => exact ⟨rfl, n.tree e "package_identifier" ⟨none, 0⟩, by simp [Item.tree, parts_fork, Name.tree], rfl, rfl⟩
  | importOne spec start =>
    exact ⟨rfl, rfl, spec.tree e ⟨none, 0⟩, by simp [Item.tree, parts_fork, Import.tree], spec.tree_derives _⟩
  | imports specs start =>
    exact ⟨rfl, rfl,
      fork e "import_spec_list" (after start) ⟨none, 0⟩ (specs.mapIdx fun i spec => spec.tree e ⟨none, i⟩),
      by simp [Item.tree, parts_fork], rfl, (importTrees_parts specs _).parts.symm ▸ importTrees_derive specs _⟩
  | func f => exact f.tree_derives _
  | stmt x => exact ⟨x.kind_tree _, x.tree_derives _⟩

theorem Item.isPart_tree (i : Item) (id : Nat) : (i.tree e id).isPart := by
  cases i with
  | func f =>
    obtain ⟨_ | recv, name, params, sig, body, start⟩ := f
    · rfl
    · rfl
  | stmt x => exact x.isPart_tree
  | _ => rfl

theorem fileTree_derives (text : String) (items : List Item) :
    FileDerives e.pos items (fileTree e text items) := by
  have hderive (ids : Nat → Nat) :
      List.Forall₂ (Item.Derives e.pos) items (items.mapIdx fun i x => x.tree e (ids i)) := by
    induction items generalizing ids with
    | nil => exact .nil
    | cons i items ih =>
      rw [List.mapIdx_cons]
      exact .cons (i.tree_derives _) (ih fun j => ids (j + 1))
  have hparts (ids : Nat → Nat) : AllParts (items.mapIdx fun i x => x.tree e (ids i)) := by
    clear hderive
    induction items generalizing ids with
    | nil => exact fun t h => nomatch h
    | cons i items ih =>
      rw [List.mapIdx_cons]
      exact List.forall_mem_cons.mpr ⟨i.isPart_tree _, ih fun j => ids (j + 1)⟩
  have hroot : (fileTree e text items).parts = items.mapIdx fun i x => x.tree e i := by
    refine (List.filter_append _ _).trans ?_
    rw [filter_between fun _ _ => rfl, List.append_nil]
    exact (filter_weave (fun _ _ => rfl) _ _ _).trans (hparts id).filter
  exact ⟨rfl, hroot ▸ hderive id⟩

end GoRebuild.Grammar
