import GoRebuild.Proofs.Parse.Rows

/-!
# The trees of items are derived from them

* `wrapped_derives` : an element of a literal in a node of its own;
* `Node.tree_derives`, `Stmt.tree_derives`, `Decl.tree_derives` and the rest : the trees of nodes.

The recursion is on what the tree is of.
-/

namespace GoRebuild.Grammar
open Parse.Node
open Lexical (Place)

variable {e : Surroundings}

theorem AllParts.symbols {kind : String} {p : Place} {r : Role} {ts : List Parse.Node} (h : AllParts ts) :
    (fork e kind p r ts).symbols = [] := by
  rw [symbols_fork, List.map_eq_nil_iff, List.filter_eq_nil_iff]
  intro t ht
  simp [(Bool.and_eq_true_iff.mp (h t ht)).1]

theorem AllParts.parts {kind : String} {p : Place} {r : Role} {ts : List Parse.Node} (h : AllParts ts) :
    (fork e kind p r ts).parts = ts := by
  rw [parts_fork, h.filter]

/-- An element of a literal in a node of its own. -/
theorem wrapped_derives {k : NodeKind} {p : Place} (h : k.Derives e.pos (k.tree e p ⟨none, 0⟩)) (r : Role) :
    Node.Derives e.pos (.mk k p) (fork e "literal_element" p r [(Node.mk k p).tree e ⟨none, 0⟩]) :=
  ⟨rfl, .inr ⟨rfl, (Node.mk k p).tree e ⟨none, 0⟩, by simp [parts_fork], (k.hasRole_tree p _).pos, h⟩⟩

theorem ParamsDerive.of_tree (params : Option Place) (i : Nat) :
    ParamsDerive e.pos params
      (params.map fun p => leaf e "type_parameter_list" "" p ⟨"type_parameters", i⟩) := by
  cases params with
  | none => rfl
  | some p => exact ⟨_, rfl, rfl, rfl⟩

theorem assignOp_fork {kind : String} {p : Place} {r : Role} {op : AssignTok} {cs : List Parse.Node}
    (hcs : cs.filter (fun c => !c.isNamed) = [symbol e op.text p ⟨none, 1⟩]) :
    op.text = assignOp (fork e kind p r cs) := by
  rw [assignOp, symbols_fork, hcs]
  cases op <;> simp [AssignTok.text]

/-- Results in parentheses. -/
theorem listed_derives {params results : List Param} {p : Place} (hlone : loneResult? e results = none)
    (hparams : Param.AllDerive e.pos params (paramTrees e 0 params))
    (hresults : Param.AllDerive e.pos results (paramTrees e 0 results)) :
    (Signature.mk params (some results)).Derives e.pos ((Signature.mk params (some results)).paramsTree e p)
      ((Signature.mk params (some results)).resultTree? e p) := by
  rw [Signature.paramsTree, Signature.resultTree?, hlone, Option.getD_none]
  refine ⟨rfl, ?_, _, rfl, .inl ⟨rfl, ?_⟩⟩
  · rwa [(paramTrees_parts params 0).parts]
  · rwa [(paramTrees_parts results 0).parts]

mutual

theorem Node.tree_derives : ∀ (x : Node) (r : Role), x.Derives e.pos (x.tree e r)
  | .mk k p, r => ⟨(k.hasRole_tree p r).pos, .inl (k.tree_derives p r)⟩

theorem NodeKind.tree_derives : ∀ (k : NodeKind) (p : Place) (r : Role), k.Derives e.pos (k.tree e p r)
  | .name text, _, _ => ⟨nameKind_mem text, rfl⟩
  | .literal lit, _, _ => ⟨literalKind_mem lit, rfl⟩
  | .paren x, _, _ => ⟨.head _, x.tree e ⟨none, 0⟩, by simp [NodeKind.tree, parts_fork], x.tree_derives _⟩
  | .select x m, _, _ =>
    .inl ⟨rfl, _, _, (Standing.two (x.hasRole_tree _) (.leaf (by decide)) (by decide)).shape, x.tree_derives _, rfl, rfl⟩
  | .index x i, _, _ =>
    ⟨rfl, _, _, (Standing.two (x.hasRole_tree _) (i.hasRole_tree _) (by decide)).shape, x.tree_derives _,
      i.tree_derives _⟩
  | .slice x low high, p, r =>
    ⟨rfl, by rw [NodeKind.tree, colons_fork]; cases low <;> cases high <;> simp [optionTree],
      x.tree e ⟨"operand", 0⟩, _, _,
      Standing.shape (by cases low <;> cases high <;> constructor <;> simp [optionTree]), x.tree_derives _,
      optionTree_derives low "start" 1, optionTree_derives high "end" 3⟩
  | .slice3 x low high max, p, r =>
    ⟨rfl, by rw [NodeKind.tree, colons_fork]; cases low <;> simp [optionTree],
      x.tree e ⟨"operand", 0⟩, _, high.tree e ⟨"end", 3⟩, max.tree e ⟨"capacity", 5⟩,
      Standing.shape (by cases low <;> constructor <;> simp [optionTree]), x.tree_derives _,
      optionTree_derives low "start" 1, high.tree_derives _, max.tree_derives _⟩
  | .assert x ty, _, _ =>
    ⟨rfl, _, _, (Standing.two (x.hasRole_tree _) (ty.hasRole_tree _) (by decide)).shape, x.tree_derives _,
      ty.tree_derives _⟩
  | .call fn args, p, _ => by
    refine ⟨rfl, by simp [NodeKind.tree, child?_fork], fn.tree e ⟨"function", 0⟩,
      fork e "argument_list" (opening p (args.head?.map Arg.start)) ⟨"arguments", 1⟩ (argTrees e 0 args),
      Standing.shape (by constructor <;> simp), ?_, fn.tree_derives _, ?_⟩
    · rw [(argTrees_parts args 0).symbols]
      exact List.nil_subset _
    · rw [(argTrees_parts args 0).parts]
      exact argTrees_derive args 0
  | .convert ty x, _, _ =>
    ⟨rfl, _, _, (Standing.two (ty.hasRole_tree _) (x.hasRole_tree _) (by decide)).shape, ty.tree_derives _,
      x.tree_derives _⟩
  | .star x, p, r => by
    rw [NodeKind.tree]
    split
    · exact .inl ⟨rfl, x.tree e ⟨none, 0⟩, by simp [parts_fork], x.tree_derives _⟩
    · exact .inr ⟨rfl, symbol e "*" p ⟨"operator", 0⟩, x.tree e ⟨"operand", 1⟩, by simp [child?_fork], rfl,
        Standing.shape (by constructor <;> simp), x.tree_derives _⟩
  | .unary op x, p, r =>
    ⟨rfl, symbol e op.text p ⟨"operator", 0⟩, x.tree e ⟨"operand", 1⟩, by simp [NodeKind.tree, child?_fork], rfl,
      Standing.shape (by constructor <;> simp), x.tree_derives _⟩
  | .binary x op y, p, r =>
    ⟨rfl, x.tree e ⟨"left", 0⟩, symbol e op p ⟨"operator", 1⟩, y.tree e ⟨"right", 2⟩,
      by simp [NodeKind.tree, child?_fork], rfl, Standing.shape (by constructor <;> simp), x.tree_derives _,
      y.tree_derives _⟩
  | .composite ty elems, p, _ => by
    refine ⟨rfl, ty.tree e ⟨"type", 0⟩,
      fork e "literal_value" (opening p (elems.head?.map Node.start)) ⟨"body", 1⟩ (elementTrees e 0 elems),
      Standing.shape (by constructor <;> simp), rfl, ty.tree_derives _, ?_⟩
    rw [(elementTrees_parts elems 0).parts]
    exact elementTrees_derive elems 0
  | .braces elems, _, _ => by
    refine ⟨rfl, ?_⟩
    rw [NodeKind.tree, (elementTrees_parts elems 0).parts]
    exact elementTrees_derive elems 0
  | .keyed (.mk k q) (.mk k' q'), p, r =>
    ⟨rfl, fork e "literal_element" q ⟨"key", 0⟩ [(Node.mk k q).tree e ⟨none, 0⟩],
      fork e "literal_element" q' ⟨"value", 2⟩ [(Node.mk k' q').tree e ⟨none, 0⟩],
      Standing.shape (by constructor <;> simp [Node.start]), wrapped_derives (k.tree_derives q _) _,
      wrapped_derives (k'.tree_derives q' _) _⟩
  | .func sig body, p, r =>
    ⟨rfl, _, _, body.tree e ⟨"body", 3⟩,
      (@standing_signature e sig (after p) [] [body.tree e ⟨"body", 3⟩] [] [("body", some (body.tree e ⟨"body", 3⟩))] rfl
        (by simp) (by simp) (by simp) (by simp [AllParts])).shape,
      sig.trees_derive (after p), body.tree_derives _⟩
  | .array len elt, _, _ =>
    ⟨rfl, _, _, (Standing.two (len.hasRole_tree _) (elt.hasRole_tree _) (by decide)).shape, len.tree_derives _,
      elt.tree_derives _⟩
  | .openArray elt, _, _ => ⟨rfl, _, (Standing.one (elt.hasRole_tree _)).shape, elt.tree_derives _⟩
  | .sliceOf elt, _, _ => ⟨rfl, _, (Standing.one (elt.hasRole_tree _)).shape, elt.tree_derives _⟩
  | .struct members, p, _ => by
    refine ⟨rfl, fork e "field_declaration_list" (after p) ⟨none, 0⟩ (memberTrees e 0 members),
      by simp [NodeKind.tree, parts_fork], rfl, ?_⟩
    rw [(memberTrees_parts members 0).parts]
    exact memberTrees_derive members 0
  | .interface elems, _, _ => by
    refine ⟨rfl, ?_⟩
    rw [NodeKind.tree, (elemTrees_parts elems 0).parts]
    exact elemTrees_derive elems 0
  | .map key value, _, _ =>
    ⟨rfl, _, _, (Standing.two (key.hasRole_tree _) (value.hasRole_tree _) (by decide)).shape, key.tree_derives _,
      value.tree_derives _⟩
  | .chan dir value, p, r =>
    ⟨rfl, by rw [NodeKind.tree, symbols_fork]; cases dir <;> simp [chanTrees, chanSymbols], value.tree e ⟨"value", 2⟩,
      Standing.shape (by cases dir <;> constructor <;> simp [chanTrees]), value.tree_derives _⟩
  | .funcType sig, p, r =>
    ⟨rfl, _, _,
      Standing.shape (by
        simpa using @standing_signature e sig (after p) [] [] [] [] rfl rfl (by simp) (by simp) (by simp [AllParts])),
      sig.trees_derive (after p)⟩
  | .generic .typeArguments place, p, r =>
    ⟨rfl, by simp [NodeKind.tree, child?_fork], leaf e "type_arguments" "" place ⟨"type_arguments", 0⟩,
      by simp [NodeKind.tree, child?_fork], rfl, rfl⟩
  | .generic .typeParameters _, _, _ | .generic .genericType _, _, _ | .generic .instantiation _, _, _
  | .generic .approximation _, _, _ | .generic .union _, _, _ => rfl

theorem optionTree_derives : ∀ (x : Option Node) (field : String) (i : Nat),
    Node.OptionDerives e.pos x (x.map fun x => x.tree e ⟨field, i⟩)
  | none, _, _ => rfl
  | some x, _, _ => ⟨_, rfl, x.tree_derives _⟩

theorem nodeTrees_derive : ∀ (xs : List Node) (i : Nat), Node.AllDerive e.pos xs (nodeTrees e i xs)
  | [], _ => rfl
  | x :: xs, i => ⟨_, _, rfl, x.tree_derives _, nodeTrees_derive xs (i + 1)⟩

theorem elementTrees_derive : ∀ (xs : List Node) (i : Nat), Node.AllDerive e.pos xs (elementTrees e i xs)
  | [], _ => rfl
  | .mk k p :: xs, i => by
    refine ⟨_, _, rfl, ?_, elementTrees_derive xs (i + 1)⟩
    split
    · exact ⟨(k.hasRole_tree p _).pos, .inl (k.tree_derives p _)⟩
    · exact wrapped_derives (k.tree_derives p _) _

theorem argTrees_derive : ∀ (as : List Arg) (i : Nat), Arg.AllDerive e.pos as (argTrees e i as)
  | [], _ => rfl
  | .plain x :: as, i => ⟨_, _, rfl, x.tree_derives _, argTrees_derive as (i + 1)⟩
  | .spread x :: as, i =>
    ⟨_, _, x.tree e ⟨none, 0⟩, rfl, rfl, rfl, by simp [parts_fork], x.tree_derives _, argTrees_derive as (i + 1)⟩

theorem Signature.trees_derive : ∀ (sig : Signature) (p : Place),
    sig.Derives e.pos (sig.paramsTree e p) (sig.resultTree? e p)
  | .mk params none, p => by
    refine ⟨rfl, ?_, rfl⟩
    rw [Signature.paramsTree, (paramTrees_parts params 0).parts]
    exact paramTrees_derive params 0
  | .mk params (some [.mk [] none ty]), p =>
    ⟨rfl, (paramTrees_parts params 0).parts.symm ▸ paramTrees_derive params 0, _, rfl, .inr (ty.tree_derives _)⟩
  | .mk params (some []), p =>
    listed_derives rfl (paramTrees_derive params 0) rfl
  | .mk params (some (.mk [] none ty :: q :: ps)), p =>
    listed_derives rfl (paramTrees_derive params 0) (paramTrees_derive (.mk [] none ty :: q :: ps) 0)
  | .mk params (some (.mk (n :: ns) dots ty :: ps)), p =>
    listed_derives rfl (paramTrees_derive params 0) (paramTrees_derive (.mk (n :: ns) dots ty :: ps) 0)
  | .mk params (some (.mk [] (some dots) ty :: ps)), p =>
    listed_derives rfl (paramTrees_derive params 0) (paramTrees_derive (.mk [] (some dots) ty :: ps) 0)

theorem paramTrees_derive : ∀ (ps : List Param) (i : Nat), Param.AllDerive e.pos ps (paramTrees e i ps)
  | [], _ => rfl
  | .mk names none ty :: ps, i =>
    ⟨_, _, (nameTrees e "identifier" none 1 names).filter isPart, ty.tree e ⟨"type", 0⟩, rfl, rfl, by cases names <;> rfl,
      by simp [parts_names], partsIn_names (by decide) (by simp), (child?_names (by decide) (by simp)).trans (by simp),
      nameTrees_derive (by decide) none 1 names, ty.tree_derives _, paramTrees_derive ps (i + 1)⟩
  | .mk names (some dots) ty :: ps, i =>
    ⟨_, _, (nameTrees e "identifier" none 1 names).filter isPart, ty.tree e ⟨"type", 0⟩, rfl, rfl, by cases names <;> rfl,
      by simp [parts_names], partsIn_names (by decide) (by simp), (child?_names (by decide) (by simp)).trans (by simp),
      nameTrees_derive (by decide) none 1 names, ty.tree_derives _, paramTrees_derive ps (i + 1)⟩

theorem memberTrees_derive : ∀ (ms : List Member) (i : Nat), Member.AllDerive e.pos ms (memberTrees e i ms)
  | [], _ => rfl
  | .named n more ty tag :: ms, i =>
    ⟨_, _, (nameTrees e "field_identifier" none 2 (n :: more)).filter isPart, ty.tree e ⟨"type", 0⟩,
      tagTree? e (after ty.start) tag, rfl, rfl, rfl, by rw [parts_names, tagTrees_eq]; cases tag <;> simp [tagTree?],
      partsIn_names (by decide) (by rw [tagTrees_eq]; cases tag <;> simp [tagTree?]),
      (child?_names (by decide) (by simp)).trans (by simp),
      (child?_names (by decide) (by simp)).trans (by rw [tagTrees_eq]; cases tag <;> simp [tagTree?]),
      nameTrees_derive (by decide) none 2 (n :: more), ty.tree_derives _, tagTree?_derives tag,
      memberTrees_derive ms (i + 1)⟩
  | .embedded none ty tag :: ms, i =>
    ⟨_, _, ty.tree e ⟨"type", 0⟩, tagTree? e (after ty.start) tag, rfl, rfl, rfl,
      Standing.shape (by rw [tagTrees_eq]; cases tag <;> constructor <;> simp [tagTree?]),
      by rw [partsIn_fork, tagTrees_eq]; cases tag <;> simp [tagTree?],
      by rw [symbols_fork, tagTrees_eq]; cases tag <;> simp [tagTree?], ty.tree_derives _, tagTree?_derives tag,
      memberTrees_derive ms (i + 1)⟩
  | .embedded (some star) ty tag :: ms, i =>
    ⟨_, _, ty.tree e ⟨"type", 0⟩, tagTree? e (after ty.start) tag, rfl, rfl, rfl,
      Standing.shape (by rw [tagTrees_eq]; cases tag <;> constructor <;> simp [tagTree?]),
      by rw [partsIn_fork, tagTrees_eq]; cases tag <;> simp [tagTree?],
      by rw [symbols_fork, tagTrees_eq]; cases tag <;> simp [tagTree?], ty.tree_derives _, tagTree?_derives tag,
      memberTrees_derive ms (i + 1)⟩

theorem elemTrees_derive : ∀ (es : List Element) (i : Nat), Element.AllDerive e.pos es (elemTrees e i es)
  | [], _ => rfl
  | .method n sig :: es, i =>
    ⟨_, _, n.tree e "field_identifier" ⟨"name", 0⟩, _, _, rfl, .head _, rfl,
      Standing.shape (by
        simpa using @standing_signature e sig (after n.place) [n.tree e "field_identifier" ⟨"name", 0⟩] []
          [("name", some (n.tree e "field_identifier" ⟨"name", 0⟩))] [] (by simp [Name.tree]) rfl (by simp [Name.tree])
          (by simp) (by simp [AllParts, Name.tree])),
      ⟨rfl, rfl⟩, sig.trees_derive _, elemTrees_derive es (i + 1)⟩
  | .embedded ty :: es, i =>
    ⟨_, _, ty.tree e ⟨none, 0⟩, rfl, .head _, rfl, by simp [parts_fork], ty.tree_derives _, elemTrees_derive es (i + 1)⟩
  | .union start :: es, i => ⟨_, _, rfl, rfl, rfl, Nat.zero_ne_one, elemTrees_derive es (i + 1)⟩

theorem Block.tree_derives : ∀ (b : Block) (r : Role), b.Derives e.pos (b.tree e r)
  | .mk ss start, r => by
    refine ⟨rfl, rfl, ?_⟩
    rw [Block.tree, (rowTrees_parts ss 0).parts]
    exact rowTrees_derive ss 0

theorem rowTrees_derive : ∀ (ss : List Stmt) (i : Nat), Stmt.RowDerives e.pos ss (rowTrees e i ss)
  | [], _ => rfl
  | x :: xs, i =>
    ⟨_, x.tree e ⟨none, 0⟩, stmtTrees e 1 xs, rfl, rfl, by simp [parts_fork, (stmtTrees_parts xs 1).filter],
      x.tree_derives _, stmtTrees_derive xs 1⟩

theorem stmtTrees_derive : ∀ (xs : List Stmt) (i : Nat), Stmt.AllDerive e.pos xs (stmtTrees e i xs)
  | [], _ => rfl
  | x :: xs, i => ⟨_, _, rfl, x.tree_derives _, stmtTrees_derive xs (i + 1)⟩

theorem Stmt.tree_derives : ∀ (x : Stmt) (r : Role), x.Derives e.pos (x.tree e r)
  | .mk k p, r => ⟨(k.hasRole_tree false p r).pos, k.tree_derives false p r⟩

theorem stmtTree?_derives : ∀ (x : Option Stmt) (field : String) (i : Nat),
    Stmt.OptionDerives e.pos x (x.map fun x => x.tree e ⟨field, i⟩)
  | none, _, _ => rfl
  | some x, _, _ => ⟨_, rfl, x.tree_derives _⟩

theorem StmtKind.tree_derives : ∀ (k : StmtKind) (waits : Bool) (p : Place) (r : Role),
    k.Derives e.pos (k.tree e waits p r)
  | .decl d, _, p, r => d.tree_derives p r
  | .expr x, false, _, _ => .inl ⟨rfl, x.tree e ⟨none, 0⟩, by simp [StmtKind.tree, parts_fork], x.tree_derives _⟩
  | .expr x, true, _, _ =>
    .inr ⟨rfl, x.tree e ⟨"right", 0⟩, Standing.shape (by constructor <;> simp), x.tree_derives _⟩
  | .send ch value, _, _, _ =>
    ⟨rfl, _, _, (Standing.two (ch.hasRole_tree _) (value.hasRole_tree _) (by decide)).shape, ch.tree_derives _,
      value.tree_derives _⟩
  | .step x .inc, _, _, _ => ⟨rfl, x.tree e ⟨none, 0⟩, by simp [StmtKind.tree, parts_fork], x.tree_derives _⟩
  | .step x .dec, _, _, _ => ⟨rfl, x.tree e ⟨none, 0⟩, by simp [StmtKind.tree, parts_fork], x.tree_derives _⟩
  | .assign left op right, _, p, r => by
    rw [StmtKind.tree]
    split
    · next hop =>
      exact ⟨listTree e "left" 0 left, listTree e "right" 2 right, Standing.shape (by constructor <;> simp),
        listTree_derives left _ _, listTree_derives right _ _, .inl ⟨rfl, hop⟩⟩
    · exact ⟨listTree e "left" 0 left, listTree e "right" 2 right, Standing.shape (by constructor <;> simp),
        listTree_derives left _ _, listTree_derives right _ _,
        .inr ⟨rfl, symbol e op p ⟨"operator", 1⟩, by simp [child?_fork], rfl⟩⟩
  | .receive left op right, _, p, r =>
    ⟨rfl, assignOp_fork (by simp), listTree e "left" 0 left, right.tree e ⟨"right", 2⟩,
      Standing.shape (by constructor <;> simp), listTree_derives left _ _, right.tree_derives _⟩
  | .returnStmt results, _, p, r =>
    ⟨rfl, valueTree? e none 0 results, by
      rw [StmtKind.tree, parts_fork, valueTrees_eq]
      cases results <;> simp [valueTree?], valueTree?_derives results none 0⟩
  | .goStmt x, _, _, _ => ⟨rfl, x.tree e ⟨none, 0⟩, by simp [StmtKind.tree, parts_fork], x.tree_derives _⟩
  | .deferStmt x, _, _, _ => ⟨rfl, x.tree e ⟨none, 0⟩, by simp [StmtKind.tree, parts_fork], x.tree_derives _⟩
  | .labeled label none, _, _, _ =>
    ⟨.head _, label.tree e "label_name" ⟨"label", 0⟩, none, by simp [StmtKind.tree, child?_fork, Name.tree],
      by simp [StmtKind.tree, parts_fork, Name.tree], nofun, ⟨rfl, rfl⟩, rfl⟩
  | .labeled label (some x), _, _, _ =>
    ⟨.head _, label.tree e "label_name" ⟨"label", 0⟩, x.tree e ⟨none, 1⟩,
      by simp [StmtKind.tree, child?_fork, Name.tree], by simp [StmtKind.tree, parts_fork, Name.tree],
      by simp [Name.tree], ⟨rfl, rfl⟩, _, rfl, x.tree_derives _⟩
  | .branch jump, _, _, _ =>
    ⟨rfl, by
      rw [StmtKind.tree, parts_fork]
      cases jump.label with
      | none => exact .nil
      | some n => exact .cons ⟨rfl, rfl⟩ .nil⟩
  | .block (.mk ss _), _, _, _ =>
    ⟨rfl, by
      rw [StmtKind.tree, (rowTrees_parts ss 0).parts]
      exact rowTrees_derive ss 0⟩
  | .empty, _, _, _ => rfl
  | .conditional c, _, p, r => c.tree_derives p r
  | .loop header body, _, p, _ =>
    ⟨rfl, header.tree? e (after p), body.tree e ⟨"body", 1⟩,
      by rw [StmtKind.tree, child?_fork]; cases header <;> simp [LoopHeader.trees],
      by rw [StmtKind.tree, parts_fork, LoopHeader.trees_eq]; cases header <;> simp [LoopHeader.tree?, LoopHeader.trees],
      by cases header <;> simp [LoopHeader.tree?, LoopHeader.trees], header.tree_derives (after p), body.tree_derives _⟩
  | .switch init tag clauses, _, _, _ =>
    ⟨rfl, init.map fun x => x.tree e ⟨"initializer", 0⟩, tag.map fun x => x.tree e ⟨"value", 1⟩,
      clauseTrees e false 2 clauses,
      by
        rw [StmtKind.tree, ← List.append_assoc, child?_before (clauseTrees_field false clauses 2)]
        cases init <;> cases tag <;> simp [stmtTree?, optionTree],
      by
        rw [StmtKind.tree, ← List.append_assoc, child?_before (clauseTrees_field false clauses 2)]
        cases init <;> cases tag <;> simp [stmtTree?, optionTree],
      by
        rw [StmtKind.tree, ← List.append_assoc, parts_fork, List.filter_append, (clauseTrees_parts false clauses 2).filter]
        cases init <;> cases tag <;> simp [stmtTree?, optionTree],
      stmtTree?_derives init _ _, optionTree_derives tag _ _, clauseTrees_derive false clauses 2⟩
  | .typeSwitch init names value clauses, _, _, _ =>
    ⟨rfl, init.map fun x => x.tree e ⟨"initializer", 0⟩, valueTree? e "alias" 1 names, value.tree e ⟨"value", 2⟩,
      clauseTrees e true 3 clauses,
      by
        rw [StmtKind.tree, List.append_cons, ← List.append_assoc, child?_before (clauseTrees_field true clauses 3)]
        cases init <;> cases names <;> simp [stmtTree?, valueTrees],
      by
        rw [StmtKind.tree, List.append_cons, ← List.append_assoc, child?_before (clauseTrees_field true clauses 3)]
        cases init <;> cases names <;> simp [stmtTree?, valueTrees, valueTree?],
      by
        rw [StmtKind.tree, List.append_cons, ← List.append_assoc, child?_before (clauseTrees_field true clauses 3)]
        cases init <;> cases names <;> simp [stmtTree?, valueTrees],
      by
        rw [StmtKind.tree, List.append_cons, ← List.append_assoc, parts_fork, List.filter_append,
          (clauseTrees_parts true clauses 3).filter]
        cases init <;> cases names <;> simp [stmtTree?, valueTrees, valueTree?],
      stmtTree?_derives init _ _, valueTree?_derives names _ _, value.tree_derives _, clauseTrees_derive true clauses 3⟩
  | .select clauses, _, _, _ =>
    ⟨rfl, by
      rw [StmtKind.tree, (commTrees_parts clauses 0).parts]
      exact commTrees_derive clauses 0⟩

theorem listTree_derives : ∀ (xs : List Node) (field : String) (i : Nat),
    Node.ListDerives e.pos xs (listTree e field i xs)
  | [], _, _ => ⟨rfl, rfl⟩
  | x :: xs, _, _ =>
    ⟨rfl, rfl, x.tree e ⟨none, 0⟩, nodeTrees e 1 xs, by simp [listTree, parts_fork, (nodeTrees_parts xs 1).filter],
      x.tree_derives _, nodeTrees_derive xs 1⟩

theorem valueTree?_derives : ∀ (xs : List Node) (field : Option String) (i : Nat),
    Node.ListDerives? e.pos xs (valueTree? e field i xs)
  | [], _, _ => rfl
  | x :: xs, _, _ =>
    ⟨_, rfl, rfl, rfl, x.tree e ⟨none, 0⟩, nodeTrees e 1 xs, by simp [parts_fork, (nodeTrees_parts xs 1).filter],
      x.tree_derives _, nodeTrees_derive xs 1⟩

theorem Conditional.tree_derives : ∀ (c : Conditional) (p : Place) (r : Role), c.Derives e.pos (c.tree e p r)
  | .mk init cond body els _, _, _ =>
    ⟨rfl, _, _, _, _, shape_conditional init cond body els, stmtTree?_derives init _ _, cond.tree_derives _,
      body.tree_derives _, elseTree?_derives els⟩

theorem elseTree?_derives : ∀ els : Option Else, Else.OptionDerives e.pos els (elseTree? e els)
  | none => rfl
  | some (.block b) => ⟨_, rfl, b.tree_derives _⟩
  | some (.chain (.mk init cond body els _)) =>
    ⟨_, rfl, rfl, rfl, _, _, _, _, shape_conditional init cond body els, stmtTree?_derives init _ _, cond.tree_derives _,
      body.tree_derives _, elseTree?_derives els⟩

theorem LoopHeader.tree_derives : ∀ (header : LoopHeader) (p : Place), header.Derives e.pos (header.tree? e p)
  | .forever, _ => rfl
  | .while cond, _ => ⟨_, rfl, cond.tree_derives _⟩
  | .steps init cond post, p =>
    ⟨_, rfl, rfl, _, _, _,
      Standing.shape (by
        cases init <;> cases cond <;> cases post <;> constructor <;> simp [stmtTree?, optionTree]),
      stmtTree?_derives init "initializer" 0, optionTree_derives cond "condition" 1, stmtTree?_derives post "update" 2⟩
  | .over x, _ => ⟨_, rfl, rfl, x.tree e ⟨"right", 2⟩, Standing.shape (by constructor <;> simp), x.tree_derives _⟩
  | .assigning first more op x, p =>
    ⟨_, rfl, rfl, assignOp_fork (by simp),
      fork e "expression_list" first.start ⟨"left", 0⟩ (first.tree e ⟨none, 0⟩ :: nodeTrees e 1 more),
      x.tree e ⟨"right", 2⟩, Standing.shape (by constructor <;> simp), rfl,
      ⟨first.tree e ⟨none, 0⟩, nodeTrees e 1 more, by simp [parts_fork, (nodeTrees_parts more 1).filter],
        first.tree_derives _, nodeTrees_derive more 1⟩, x.tree_derives _⟩

theorem typeTrees_derive : ∀ (xs : List Node) (i : Nat),
    Node.AllDerive e.pos xs ((typeTrees e i xs).filter isPart)
  | [], _ => rfl
  | x :: xs, i =>
    ⟨x.tree e ⟨"type", i + 1⟩, (typeTrees e (i + 2) xs).filter isPart, by simp [typeTrees], x.tree_derives _,
      typeTrees_derive xs (i + 2)⟩

theorem clauseTrees_derive : ∀ (types : Bool) (cs : List Clause) (i : Nat),
    Clause.AllDerive e.pos types cs (clauseTrees e types i cs)
  | _, [], _ => rfl
  | false, .case first more body start :: cs, i =>
    ⟨_, _, rfl, rfl,
      ⟨[fork e "expression_list" first.start ⟨"value", 1⟩ (first.tree e ⟨none, 0⟩ :: nodeTrees e 1 more)],
        rowTrees e 0 body, by simp [parts_fork, (rowTrees_parts body 0).filter],
        by
          rintro d hd v hv
          rw [(rowTrees_role body 0 d hd).2, List.mem_singleton.mp hv]
          exact Nat.zero_ne_one,
        rowTrees_derive body 0, rfl, _, first.tree e ⟨none, 0⟩, nodeTrees e 1 more, rfl, by simp [child?_fork], rfl,
        by simp [parts_fork, (nodeTrees_parts more 1).filter], first.tree_derives _, nodeTrees_derive more 1⟩,
      clauseTrees_derive false cs (i + 1)⟩
  | true, .case first more body start :: cs, i =>
    ⟨_, _, rfl, rfl,
      ⟨first.tree e ⟨"type", 1⟩ :: (typeTrees e 2 more).filter isPart, rowTrees e 0 body,
        by simp [parts_fork, (rowTrees_parts body 0).filter],
        by
          rintro d hd v hv
          rw [(rowTrees_role body 0 d hd).2]
          rcases List.mem_cons.mp hv with rfl | hv
          · rw [Node.nodeId_tree]
            exact Nat.zero_ne_one
          · have := typeTrees_id more 2 v (List.mem_of_mem_filter hv)
            omega,
        rowTrees_derive body 0, rfl,
        by
          have hrow : (rowTrees e 0 body).filter (·.field? == some "type") = [] :=
            List.filter_eq_nil_iff.mpr fun c hc h => by simp [(rowTrees_role body 0 c hc).1] at h
          simp [partsIn_fork, hrow, ← typeTrees_named],
        first.tree e ⟨"type", 1⟩, _, rfl, first.tree_derives _, typeTrees_derive more 2⟩,
      clauseTrees_derive true cs (i + 1)⟩
  | types, .otherwise body start :: cs, i =>
    ⟨_, _, rfl, rfl, rfl, by rw [(rowTrees_parts body 0).parts]; exact rowTrees_derive body 0,
      clauseTrees_derive types cs (i + 1)⟩

theorem commTrees_derive : ∀ (cs : List CommClause) (i : Nat), CommClause.AllDerive e.pos cs (commTrees e i cs)
  | [], _ => rfl
  | .mk none body start :: cs, i =>
    ⟨_, _, rfl, rfl, rfl, by rw [(rowTrees_parts body 0).parts]; exact rowTrees_derive body 0, commTrees_derive cs (i + 1)⟩
  | .mk (some (.mk comm p)) body start :: cs, i =>
    have hcomm : HasRole e p ⟨"communication", 1⟩ _ := comm.hasRole_tree true p _
    ⟨_, _, comm.tree e true p ⟨"communication", 1⟩, rowTrees e 0 body, rfl, rfl, rfl,
      by simp [child?_fork, hcomm.field],
      by simp [parts_fork, hcomm.part, (rowTrees_parts body 0).filter],
      fun d hd => by
        rw [(rowTrees_role body 0 d hd).2, hcomm.id]
        exact Nat.zero_ne_one,
      ⟨hcomm.pos, comm.tree_derives true p _⟩, rowTrees_derive body 0, commTrees_derive cs (i + 1)⟩

theorem Decl.tree_derives : ∀ (d : Decl) (p : Place) (r : Role), d.Derives e.pos (d.tree e p r)
  | .value tok spec _, _, _ =>
    ⟨rfl, by simp [Decl.tree, symbols_fork], spec.tree e tok ⟨none, 0⟩, by simp [Decl.tree, parts_fork],
      spec.tree_derives tok _⟩
  | .values .constTok specs _, _, _ =>
    ⟨rfl, .inl ⟨by simp [Decl.tree, symbols_fork], by
      rw [Decl.tree, parts_fork, List.filter_cons_of_neg (by simp), (valueSpecTrees_parts .constTok specs 1).filter]
      exact valueSpecTrees_derive specs .constTok 1⟩⟩
  | .values .varTok specs _, p, _ =>
    ⟨rfl, .inr ⟨fork e "var_spec_list" (after p) ⟨none, 0⟩ (valueSpecTrees e .varTok 0 specs),
      by simp [Decl.tree, parts_fork], rfl, by
        rw [(valueSpecTrees_parts .varTok specs 0).parts]
        exact valueSpecTrees_derive specs .varTok 0⟩⟩
  | .type spec _, _, _ =>
    ⟨rfl, by simp [Decl.tree, symbols_fork], spec.tree e ⟨none, 0⟩, by simp [Decl.tree, parts_fork],
      spec.tree_derives _⟩
  | .types specs _, _, _ =>
    ⟨rfl, by simp [Decl.tree, symbols_fork], by
      rw [Decl.tree, parts_fork, List.filter_cons_of_neg (by simp), (typeSpecTrees_parts specs 1).filter]
      exact typeSpecTrees_derive specs 1⟩

theorem ValueSpec.tree_derives : ∀ (x : ValueSpec) (tok : ValueTok) (r : Role), x.Derives e.pos tok (x.tree e tok r)
  | .mk name more ty values, tok, r =>
    have hrest : ∀ c ∈ optionTree e "type" 0 ty ++ valueTrees e "value" 1 values, c.field? ≠ some "name" := by
      cases ty <;> cases values <;> simp [optionTree, valueTrees]
    ⟨rfl, rfl, (nameTrees e "identifier" (if tok = .constTok then some "name" else none) 2 (name :: more)).filter isPart,
      ty.map fun x => x.tree e ⟨"type", 0⟩, valueTree? e "value" 1 values,
      by
        rw [ValueSpec.tree, parts_names]
        cases ty <;> cases values <;> simp [optionTree, valueTrees, valueTree?],
      partsIn_names (by decide) hrest,
      (child?_names (by decide) (by cases tok <;> simp)).trans (by
        cases ty <;> cases values <;> simp [optionTree, valueTrees]),
      (child?_names (by decide) (by cases tok <;> simp)).trans (by
        cases ty <;> cases values <;> simp [optionTree, valueTrees, valueTree?]),
      nameTrees_derive (by decide) _ 2 (name :: more), optionTree_derives ty _ _, valueTree?_derives values _ _⟩

theorem valueSpecTrees_derive : ∀ (xs : List ValueSpec) (tok : ValueTok) (i : Nat),
    ValueSpec.AllDerive e.pos tok xs (valueSpecTrees e tok i xs)
  | [], _, _ => rfl
  | x :: xs, tok, i => ⟨_, _, rfl, x.tree_derives tok _, valueSpecTrees_derive xs tok (i + 1)⟩

theorem TypeSpec.tree_derives : ∀ (x : TypeSpec) (r : Role), x.Derives e.pos (x.tree e r)
  | .mk name params aliased ty, r =>
    ⟨rfl, rfl, by cases params <;> simp [TypeSpec.tree, child?_fork, Name.tree],
      name.tree e "type_identifier" ⟨"name", 0⟩, params.map fun p => leaf e "type_parameter_list" "" p ⟨"type_parameters", 1⟩,
      ty.tree e ⟨"type", 2⟩, Standing.shape (by cases params <;> constructor <;> simp [Name.tree]), ⟨rfl, rfl⟩,
      .of_tree params 1, ty.tree_derives _⟩

theorem typeSpecTrees_derive : ∀ (xs : List TypeSpec) (i : Nat), TypeSpec.AllDerive e.pos xs (typeSpecTrees e i xs)
  | [], _ => rfl
  | x :: xs, i => ⟨_, _, rfl, x.tree_derives _, typeSpecTrees_derive xs (i + 1)⟩

end

end GoRebuild.Grammar
