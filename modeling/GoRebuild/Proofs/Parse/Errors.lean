import GoRebuild.Proofs.Parse.Woven

/-!
# The trees of items are without errors

* `hasError_fork`, `anyError_weave` : a node and the comments between its children;
* `Node.hasError_tree`, `Stmt.hasError_tree`, `Decl.hasError_tree` and the rest : the trees of nodes;
* `Item.hasError_tree` : entries at top level;
* `hasError_fileTree` : the tree of a source.

The recursion is on what the tree is of.
-/

namespace GoRebuild.Grammar
open Parse.Node
open Lexical (Place)

variable {e : Surroundings} {kind text : String} {p : Place} {r : Role}

theorem anyError_append (ts us : List Parse.Node) : anyError (ts ++ us) = (anyError ts || anyError us) := by
  induction ts with
  | nil => rfl
  | cons t ts ih => rw [List.cons_append, anyError, anyError, ih, Bool.or_assoc]

theorem anyError_between (id low high : Nat) : anyError (between e id low high) = false := by
  rw [between]
  generalize e.comments.filter _ = cs
  induction cs with
  | nil => rfl
  | cons c cs ih => rw [List.map_cons, anyError, ih]; rfl

theorem anyError_weave (id low : Nat) (ts : List Parse.Node) : anyError (weave e id low ts) = anyError ts := by
  induction ts generalizing low with
  | nil => rfl
  | cons t ts ih =>
    rw [weave]
    split
    · rw [anyError_append, anyError_between, Bool.false_or, anyError, anyError, ih]
    · rw [anyError, anyError, ih]

@[simp] theorem hasError_fork {ts : List Parse.Node} : (fork e kind p r ts).hasError = anyError ts :=
  anyError_weave _ _ ts

@[simp] theorem hasError_leaf : (leaf e kind text p r).hasError = false :=
  rfl

@[simp] theorem hasError_symbol : (symbol e text p r).hasError = false :=
  rfl

@[simp] theorem anyError_nil : anyError [] = false :=
  rfl

@[simp] theorem anyError_cons (t : Parse.Node) (ts : List Parse.Node) : anyError (t :: ts) = (t.hasError || anyError ts) :=
  rfl

@[simp] theorem Name.hasError_tree (n : Name) : (n.tree e kind r).hasError = false :=
  rfl

theorem nameTrees_sound (comma : Option String) (i : Nat) (names : List Name) :
    anyError (nameTrees e kind comma i names) = false := by
  induction names generalizing i with
  | nil => rfl
  | cons n names ih =>
    cases names with
    | nil => rfl
    | cons m ms => exact ih (i + 2)

theorem tagTrees_sound (i : Nat) (tag : Option String) : anyError (tagTrees e p i tag) = false := by
  cases tag <;> rfl

theorem chanTrees_sound (dir : ChanDir) : anyError (chanTrees e p dir) = false := by
  cases dir <;> rfl

mutual

theorem Node.hasError_tree : ∀ (x : Node) (r : Role), (x.tree e r).hasError = false
  | .mk k p, r => k.hasError_tree p r

theorem NodeKind.hasError_tree : ∀ (k : NodeKind) (p : Place) (r : Role), (k.tree e p r).hasError = false
  | .name text, _, _ => rfl
  | .literal lit, _, _ => rfl
  | .paren x, _, _ => by simp [NodeKind.tree, x.hasError_tree]
  | .select x m, _, _ => by simp [NodeKind.tree, x.hasError_tree]
  | .index x i, _, _ => by simp [NodeKind.tree, x.hasError_tree, i.hasError_tree]
  | .slice x low high, _, _ => by
    simp [NodeKind.tree, anyError_append, x.hasError_tree, optionTree_sound low, optionTree_sound high]
  | .slice3 x low high max, _, _ => by
    simp [NodeKind.tree, anyError_append, x.hasError_tree, optionTree_sound low, high.hasError_tree, max.hasError_tree]
  | .assert x ty, _, _ => by simp [NodeKind.tree, x.hasError_tree, ty.hasError_tree]
  | .call fn args, _, _ => by simp [NodeKind.tree, fn.hasError_tree, argTrees_sound args]
  | .convert ty x, _, _ => by simp [NodeKind.tree, ty.hasError_tree, x.hasError_tree]
  | .star x, _, _ => by
    rw [NodeKind.tree]
    split <;> simp [x.hasError_tree]
  | .unary op x, _, _ => by simp [NodeKind.tree, x.hasError_tree]
  | .binary x op y, _, _ => by simp [NodeKind.tree, x.hasError_tree, y.hasError_tree]
  | .composite ty elems, _, _ => by simp [NodeKind.tree, ty.hasError_tree, elementTrees_sound elems]
  | .braces elems, _, _ => by simp [NodeKind.tree, elementTrees_sound elems]
  | .keyed key value, _, _ => by simp [NodeKind.tree, key.hasError_tree, value.hasError_tree]
  | .func sig body, _, _ => by simp [NodeKind.tree, anyError_append, sig.trees_sound, body.hasError_tree]
  | .array len elt, _, _ => by simp [NodeKind.tree, len.hasError_tree, elt.hasError_tree]
  | .openArray elt, _, _ => by simp [NodeKind.tree, elt.hasError_tree]
  | .sliceOf elt, _, _ => by simp [NodeKind.tree, elt.hasError_tree]
  | .struct members, _, _ => by simp [NodeKind.tree, memberTrees_sound members]
  | .interface elems, _, _ => by simp [NodeKind.tree, elemTrees_sound elems]
  | .map key value, _, _ => by simp [NodeKind.tree, key.hasError_tree, value.hasError_tree]
  | .chan dir value, _, _ => by simp [NodeKind.tree, anyError_append, chanTrees_sound, value.hasError_tree]
  | .funcType sig, _, _ => by simp [NodeKind.tree, sig.trees_sound]
  | .generic form _, _, _ => by cases form <;> simp [NodeKind.tree]

theorem optionTree_sound : ∀ (x : Option Node) (field : String) (i : Nat), anyError (optionTree e field i x) = false
  | none, _, _ => rfl
  | some x, _, _ => by simp [optionTree, x.hasError_tree]

theorem nodeTrees_sound : ∀ (xs : List Node) (i : Nat), anyError (nodeTrees e i xs) = false
  | [], _ => rfl
  | x :: xs, i => by simp [nodeTrees, x.hasError_tree, nodeTrees_sound xs]

theorem typeTrees_sound : ∀ (xs : List Node) (i : Nat), anyError (typeTrees e i xs) = false
  | [], _ => rfl
  | x :: xs, i => by simp [typeTrees, x.hasError_tree, typeTrees_sound xs]

theorem elementTrees_sound : ∀ (xs : List Node) (i : Nat), anyError (elementTrees e i xs) = false
  | [], _ => rfl
  | x :: xs, i => by
    rw [elementTrees]
    split <;> simp [x.hasError_tree, elementTrees_sound xs]

theorem argTrees_sound : ∀ (as : List Arg) (i : Nat), anyError (argTrees e i as) = false
  | [], _ => rfl
  | .plain x :: as, i => by simp [argTrees, x.hasError_tree, argTrees_sound as]
  | .spread x :: as, i => by simp [argTrees, x.hasError_tree, argTrees_sound as]

theorem Signature.trees_sound : ∀ (sig : Signature) (p : Place), anyError (sig.trees e p) = false
  | .mk params none, p => by simp [Signature.trees, paramTrees_sound params]
  | .mk params (some [.mk [] none ty]), p => by
    simp [Signature.trees, loneResult?, paramTrees_sound params, ty.hasError_tree]
  | .mk params (some []), p => by simp [Signature.trees, loneResult?, paramTrees, paramTrees_sound params]
  | .mk params (some (.mk [] none ty :: q :: ps)), p => by
    simp [Signature.trees, loneResult?, paramTrees_sound params, paramTrees_sound (.mk [] none ty :: q :: ps)]
  | .mk params (some (.mk (n :: ns) dots ty :: ps)), p => by
    simp [Signature.trees, loneResult?, paramTrees_sound params, paramTrees_sound (.mk (n :: ns) dots ty :: ps)]
  | .mk params (some (.mk [] (some dots) ty :: ps)), p => by
    simp [Signature.trees, loneResult?, paramTrees_sound params, paramTrees_sound (.mk [] (some dots) ty :: ps)]

theorem paramTrees_sound : ∀ (ps : List Param) (i : Nat), anyError (paramTrees e i ps) = false
  | [], _ => rfl
  | .mk names none ty :: ps, i => by
    simp [paramTrees, anyError_append, nameTrees_sound, ty.hasError_tree, paramTrees_sound ps]
  | .mk names (some dots) ty :: ps, i => by
    simp [paramTrees, anyError_append, nameTrees_sound, ty.hasError_tree, paramTrees_sound ps]

theorem memberTrees_sound : ∀ (ms : List Member) (i : Nat), anyError (memberTrees e i ms) = false
  | [], _ => rfl
  | .named n more ty tag :: ms, i => by
    simp [memberTrees, anyError_append, nameTrees_sound, tagTrees_sound, ty.hasError_tree, memberTrees_sound ms]
  | .embedded none ty tag :: ms, i => by
    simp [memberTrees, tagTrees_sound, ty.hasError_tree, memberTrees_sound ms]
  | .embedded (some star) ty tag :: ms, i => by
    simp [memberTrees, tagTrees_sound, ty.hasError_tree, memberTrees_sound ms]

theorem elemTrees_sound : ∀ (es : List Element) (i : Nat), anyError (elemTrees e i es) = false
  | [], _ => rfl
  | .method n sig :: es, i => by simp [elemTrees, sig.trees_sound, elemTrees_sound es]
  | .embedded ty :: es, i => by simp [elemTrees, ty.hasError_tree, elemTrees_sound es]
  | .union start :: es, i => by simp [elemTrees, elemTrees_sound es]

theorem Block.hasError_tree : ∀ (b : Block) (r : Role), (b.tree e r).hasError = false
  | .mk ss start, r => by simp [Block.tree, rowTrees_sound ss]

theorem rowTrees_sound : ∀ (ss : List Stmt) (i : Nat), anyError (rowTrees e i ss) = false
  | [], _ => rfl
  | x :: xs, i => by simp [rowTrees, x.hasError_tree, stmtTrees_sound xs]

theorem stmtTrees_sound : ∀ (xs : List Stmt) (i : Nat), anyError (stmtTrees e i xs) = false
  | [], _ => rfl
  | x :: xs, i => by simp [stmtTrees, x.hasError_tree, stmtTrees_sound xs]

theorem Stmt.hasError_tree : ∀ (x : Stmt) (r : Role), (x.tree e r).hasError = false
  | .mk k p, r => k.hasError_tree false p r

theorem stmtTree?_sound : ∀ (x : Option Stmt) (field : String) (i : Nat), anyError (stmtTree? e field i x) = false
  | none, _, _ => rfl
  | some x, _, _ => by simp [stmtTree?, x.hasError_tree]

theorem StmtKind.hasError_tree : ∀ (k : StmtKind) (waits : Bool) (p : Place) (r : Role),
    (k.tree e waits p r).hasError = false
  | .decl d, _, p, r => d.hasError_tree p r
  | .expr x, waits, _, _ => by
    rw [StmtKind.tree]
    split <;> simp [x.hasError_tree]
  | .send ch value, _, _, _ => by simp [StmtKind.tree, ch.hasError_tree, value.hasError_tree]
  | .step x .inc, _, _, _ => by simp [StmtKind.tree, x.hasError_tree]
  | .step x .dec, _, _, _ => by simp [StmtKind.tree, x.hasError_tree]
  | .assign left op right, _, _, _ => by
    rw [StmtKind.tree]
    split <;> simp [listTree_sound left, listTree_sound right]
  | .receive left op right, _, _, _ => by simp [StmtKind.tree, listTree_sound left, right.hasError_tree]
  | .returnStmt results, _, _, _ => by simp [StmtKind.tree, valueTrees_sound results]
  | .goStmt x, _, _, _ => by simp [StmtKind.tree, x.hasError_tree]
  | .deferStmt x, _, _, _ => by simp [StmtKind.tree, x.hasError_tree]
  | .labeled label none, _, _, _ => by simp [StmtKind.tree]
  | .labeled label (some x), _, _, _ => by simp [StmtKind.tree, x.hasError_tree]
  | .branch jump, _, _, _ => by
    rw [StmtKind.tree]
    cases jump.label <;> simp
  | .block (.mk ss _), _, _, _ => by simp [StmtKind.tree, rowTrees_sound ss]
  | .empty, _, _, _ => rfl
  | .conditional c, _, p, r => c.hasError_tree p r
  | .loop header body, _, _, _ => by simp [StmtKind.tree, anyError_append, header.trees_sound, body.hasError_tree]
  | .switch init tag clauses, _, _, _ => by
    simp [StmtKind.tree, anyError_append, stmtTree?_sound init, optionTree_sound tag, clauseTrees_sound false clauses]
  | .typeSwitch init names value clauses, _, _, _ => by
    simp [StmtKind.tree, anyError_append, stmtTree?_sound init, valueTrees_sound names, value.hasError_tree,
      clauseTrees_sound true clauses]
  | .select clauses, _, _, _ => by simp [StmtKind.tree, commTrees_sound clauses]

theorem listTree_sound : ∀ (xs : List Node) (field : String) (i : Nat), (listTree e field i xs).hasError = false
  | [], _, _ => rfl
  | x :: xs, _, _ => by simp [listTree, x.hasError_tree, nodeTrees_sound xs]

theorem valueTrees_sound : ∀ (xs : List Node) (field : Option String) (i : Nat),
    anyError (valueTrees e field i xs) = false
  | [], _, _ => rfl
  | x :: xs, _, _ => by simp [valueTrees, x.hasError_tree, nodeTrees_sound xs]

theorem Conditional.hasError_tree : ∀ (c : Conditional) (p : Place) (r : Role), (c.tree e p r).hasError = false
  | .mk init cond body els _, _, _ => by
    simp [Conditional.tree, anyError_append, stmtTree?_sound init, cond.hasError_tree, body.hasError_tree,
      elseTrees_sound els]

theorem elseTrees_sound : ∀ els : Option Else, anyError (elseTrees e els) = false
  | none => rfl
  | some (.block b) => by simp [elseTrees, b.hasError_tree]
  | some (.chain (.mk init cond body els _)) => by
    simp [elseTrees, anyError_append, stmtTree?_sound init, cond.hasError_tree, body.hasError_tree, elseTrees_sound els]

theorem LoopHeader.trees_sound : ∀ (header : LoopHeader) (p : Place), anyError (header.trees e p) = false
  | .forever, _ => rfl
  | .while cond, _ => by simp [LoopHeader.trees, cond.hasError_tree]
  | .steps init cond post, _ => by
    simp [LoopHeader.trees, anyError_append, stmtTree?_sound init, optionTree_sound cond, stmtTree?_sound post]
  | .over x, _ => by simp [LoopHeader.trees, x.hasError_tree]
  | .assigning first more op x, _ => by
    simp [LoopHeader.trees, first.hasError_tree, nodeTrees_sound more, x.hasError_tree]

theorem clauseTrees_sound : ∀ (types : Bool) (cs : List Clause) (i : Nat),
    anyError (clauseTrees e types i cs) = false
  | _, [], _ => rfl
  | false, .case first more body _ :: cs, _ => by
    simp [clauseTrees, first.hasError_tree, nodeTrees_sound more, rowTrees_sound body, clauseTrees_sound false cs]
  | true, .case first more body _ :: cs, _ => by
    simp [clauseTrees, anyError_append, first.hasError_tree, typeTrees_sound more, rowTrees_sound body,
      clauseTrees_sound true cs]
  | types, .otherwise body _ :: cs, _ => by simp [clauseTrees, rowTrees_sound body, clauseTrees_sound types cs]

theorem commTrees_sound : ∀ (cs : List CommClause) (i : Nat), anyError (commTrees e i cs) = false
  | [], _ => rfl
  | .mk none body _ :: cs, _ => by simp [commTrees, rowTrees_sound body, commTrees_sound cs]
  | .mk (some (.mk comm p)) body _ :: cs, _ => by
    simp [commTrees, comm.hasError_tree true, rowTrees_sound body, commTrees_sound cs]

theorem Decl.hasError_tree : ∀ (d : Decl) (p : Place) (r : Role), (d.tree e p r).hasError = false
  | .value tok spec _, _, _ => by simp [Decl.tree, spec.hasError_tree]
  | .values .constTok specs _, _, _ => by simp [Decl.tree, valueSpecTrees_sound specs]
  | .values .varTok specs _, _, _ => by simp [Decl.tree, valueSpecTrees_sound specs]
  | .type spec _, _, _ => by simp [Decl.tree, spec.hasError_tree]
  | .types specs _, _, _ => by simp [Decl.tree, typeSpecTrees_sound specs]

theorem ValueSpec.hasError_tree : ∀ (x : ValueSpec) (tok : ValueTok) (r : Role), (x.tree e tok r).hasError = false
  | .mk name more ty values, tok, r => by
    simp [ValueSpec.tree, anyError_append, nameTrees_sound, optionTree_sound ty, valueTrees_sound values]

theorem valueSpecTrees_sound : ∀ (xs : List ValueSpec) (tok : ValueTok) (i : Nat),
    anyError (valueSpecTrees e tok i xs) = false
  | [], _, _ => rfl
  | x :: xs, tok, i => by simp [valueSpecTrees, x.hasError_tree, valueSpecTrees_sound xs]

theorem TypeSpec.hasError_tree : ∀ (x : TypeSpec) (r : Role), (x.tree e r).hasError = false
  | .mk name params aliased ty, r => by
    cases params <;> simp [TypeSpec.tree, ty.hasError_tree]

theorem typeSpecTrees_sound : ∀ (xs : List TypeSpec) (i : Nat), anyError (typeSpecTrees e i xs) = false
  | [], _ => rfl
  | x :: xs, i => by simp [typeSpecTrees, x.hasError_tree, typeSpecTrees_sound xs]

end

theorem Import.hasError_tree (i : Import) (r : Role) : (i.tree e r).hasError = false := by
  obtain ⟨_ | _ | _ | _, path, start⟩ := i <;> simp [Import.tree, importNameTrees]

theorem importTrees_sound (specs : List Import) (roles : Nat → Role) :
    anyError (specs.mapIdx fun i spec => spec.tree e (roles i)) = false := by
  induction specs generalizing roles with
  | nil => rfl
  | cons spec specs ih =>
    rw [List.mapIdx_cons, anyError_cons, Import.hasError_tree, Bool.false_or]
    exact ih fun i => roles (i + 1)

theorem Func.hasError_tree (f : Func) (r : Role) : (f.tree e r).hasError = false := by
  obtain ⟨recv, name, params, sig, body, start⟩ := f
  cases recv <;> cases params <;> cases body <;>
    simp [Func.tree, anyError_append, paramTrees_sound, sig.trees_sound, Block.hasError_tree]

theorem Item.hasError_tree (i : Item) (id : Nat) : (i.tree e id).hasError = false := by
  cases i with
  | package n => simp [Item.tree]
  | importOne spec start => simp [Item.tree, Import.hasError_tree]
  | imports specs start => simp [Item.tree, importTrees_sound]
  | func f => exact f.hasError_tree _
  | stmt x => exact x.hasError_tree _

theorem itemTrees_sound (items : List Item) (ids : Nat → Nat) :
    anyError (items.mapIdx fun i x => x.tree e (ids i)) = false := by
  induction items generalizing ids with
  | nil => rfl
  | cons i items ih =>
    rw [List.mapIdx_cons, anyError_cons, Item.hasError_tree, Bool.false_or]
    exact ih fun j => ids (j + 1)

theorem hasError_fileTree (text : String) (items : List Item) : (fileTree e text items).hasError = false := by
  refine (anyError_append _ _).trans ?_
  rw [anyError_weave, anyError_between, Bool.or_false]
  exact itemTrees_sound items id

end GoRebuild.Grammar
