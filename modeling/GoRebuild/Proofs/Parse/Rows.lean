import GoRebuild.Proofs.Parse.Woven

/-!
# Children in rows, and children that may be absent

* `AllParts`, `nodeTrees_parts`, `stmtTrees_parts` and the rest : rows of nodes hold neither symbols nor comments;
* `nameTrees_derive`, `parts_names`, `partsIn_names`, `child?_names` : names with the commas between them, and what
  stands behind them;
* `tagTrees_eq`, `Signature.trees_eq`, `valueTrees_eq`, `elseTrees_eq` : children that may be absent;
* `standing_signature`, `shape_conditional` : parameters and results among other children, and an `if`;
* `clauseTrees_field`, `rowTrees_role`, `typeTrees_named` : clauses.
-/

namespace GoRebuild.Grammar
open Parse.Node
open Lexical (Place)

variable {e : Surroundings} {kind text : String} {p : Place} {r : Role}

/-! ## Rows -/

/-- Parts in a row. -/
def AllParts (ts : List Parse.Node) : Prop :=
  ∀ t ∈ ts, t.isPart

theorem AllParts.filter {ts : List Parse.Node} (h : AllParts ts) : ts.filter isPart = ts :=
  List.filter_eq_self.mpr h

theorem nodeTrees_parts (xs : List Node) (i : Nat) : AllParts (nodeTrees e i xs) := by
  induction xs generalizing i with
  | nil => exact fun t h => nomatch h
  | cons x xs ih => exact List.forall_mem_cons.mpr ⟨(x.hasRole_tree _).part, ih (i + 1)⟩

theorem elementTrees_parts (xs : List Node) (i : Nat) : AllParts (elementTrees e i xs) := by
  induction xs generalizing i with
  | nil => exact fun t h => nomatch h
  | cons x xs ih =>
    refine List.forall_mem_cons.mpr ⟨?_, ih (i + 1)⟩
    split
    · exact (x.hasRole_tree _).part
    · rfl

theorem argTrees_parts (as : List Arg) (i : Nat) : AllParts (argTrees e i as) := by
  induction as generalizing i with
  | nil => exact fun t h => nomatch h
  | cons a as ih =>
    cases a with
    | plain x => exact List.forall_mem_cons.mpr ⟨(x.hasRole_tree _).part, ih (i + 1)⟩
    | spread x => exact List.forall_mem_cons.mpr ⟨rfl, ih (i + 1)⟩

theorem paramTrees_parts (ps : List Param) (i : Nat) : AllParts (paramTrees e i ps) := by
  induction ps generalizing i with
  | nil => exact fun t h => nomatch h
  | cons q ps ih =>
    obtain ⟨names, _ | dots, ty⟩ := q
    · exact List.forall_mem_cons.mpr ⟨rfl, ih (i + 1)⟩
    · exact List.forall_mem_cons.mpr ⟨rfl, ih (i + 1)⟩

theorem memberTrees_parts (ms : List Member) (i : Nat) : AllParts (memberTrees e i ms) := by
  induction ms generalizing i with
  | nil => exact fun t h => nomatch h
  | cons m ms ih =>
    obtain ⟨n, more, ty, tag⟩ | ⟨_ | star, ty, tag⟩ := m
    · exact List.forall_mem_cons.mpr ⟨rfl, ih (i + 1)⟩
    · exact List.forall_mem_cons.mpr ⟨rfl, ih (i + 1)⟩
    · exact List.forall_mem_cons.mpr ⟨rfl, ih (i + 1)⟩

theorem elemTrees_parts (es : List Element) (i : Nat) : AllParts (elemTrees e i es) := by
  induction es generalizing i with
  | nil => exact fun t h => nomatch h
  | cons x es ih => cases x <;> exact List.forall_mem_cons.mpr ⟨rfl, ih (i + 1)⟩

theorem stmtTrees_parts (ss : List Stmt) (i : Nat) : AllParts (stmtTrees e i ss) := by
  induction ss generalizing i with
  | nil => exact fun t h => nomatch h
  | cons x ss ih => exact List.forall_mem_cons.mpr ⟨(x.hasRole_tree _).part, ih (i + 1)⟩

theorem rowTrees_parts (ss : List Stmt) (i : Nat) : AllParts (rowTrees e i ss) := by
  cases ss with
  | nil => exact fun t h => nomatch h
  | cons x ss => exact List.forall_mem_cons.mpr ⟨rfl, fun t h => nomatch h⟩

theorem clauseTrees_parts (types : Bool) (cs : List Clause) (i : Nat) : AllParts (clauseTrees e types i cs) := by
  induction cs generalizing i with
  | nil => exact fun t h => nomatch h
  | cons c cs ih =>
    cases c with
    | case first more body start =>
      refine List.forall_mem_cons.mpr ⟨?_, ih (i + 1)⟩
      cases types <;> rfl
    | otherwise body start => exact List.forall_mem_cons.mpr ⟨rfl, ih (i + 1)⟩

theorem commTrees_parts (cs : List CommClause) (i : Nat) : AllParts (commTrees e i cs) := by
  induction cs generalizing i with
  | nil => exact fun t h => nomatch h
  | cons c cs ih =>
    obtain ⟨_ | ⟨comm, p⟩, body, start⟩ := c
    · exact List.forall_mem_cons.mpr ⟨rfl, ih (i + 1)⟩
    · exact List.forall_mem_cons.mpr ⟨rfl, ih (i + 1)⟩

theorem valueSpecTrees_parts (tok : ValueTok) (xs : List ValueSpec) (i : Nat) :
    AllParts (valueSpecTrees e tok i xs) := by
  induction xs generalizing i with
  | nil => exact fun t h => nomatch h
  | cons x xs ih =>
    obtain ⟨name, more, ty, values⟩ := x
    refine List.forall_mem_cons.mpr ⟨?_, ih (i + 1)⟩
    cases tok <;> rfl

theorem typeSpecTrees_parts (xs : List TypeSpec) (i : Nat) : AllParts (typeSpecTrees e i xs) := by
  induction xs generalizing i with
  | nil => exact fun t h => nomatch h
  | cons x xs ih =>
    obtain ⟨name, params, aliased, ty⟩ := x
    refine List.forall_mem_cons.mpr ⟨?_, ih (i + 1)⟩
    cases aliased <;> rfl

/-! ## Names -/

/-- Names with the commas between them, which may stand in the field too. -/
theorem nameTrees_derive (hkind : kind ∉ ["comment", ":"]) (comma : Option String) (i : Nat) (names : List Name) :
    Name.AllDerive e.pos names ((nameTrees e kind comma i names).filter isPart) := by
  induction names generalizing i with
  | nil => exact .nil
  | cons n names ih =>
    have hpart (j : Nat) : (n.tree e kind ⟨"name", j⟩).isPart := (HasRole.leaf hkind).part
    cases names with
    | nil =>
      rw [nameTrees, List.filter_cons_of_pos (hpart i)]
      exact .cons ⟨rfl, rfl⟩ .nil
    | cons m ms =>
      rw [nameTrees, List.filter_cons_of_pos (hpart i), List.filter_cons_of_neg (by exact Bool.false_ne_true)]
      exact .cons ⟨rfl, rfl⟩ (ih (i + 2))

theorem nameTrees_named (hkind : kind ∉ ["comment", ":"]) (comma : Option String) (i : Nat) (names : List Name) :
    ((nameTrees e kind comma i names).filter (·.field? == some "name")).filter isNamed =
      (nameTrees e kind comma i names).filter isPart := by
  rw [List.filter_filter]
  refine List.filter_congr fun c hc => ?_
  induction names generalizing i with
  | nil => cases hc
  | cons n names ih =>
    have hpart (j : Nat) : (n.tree e kind ⟨"name", j⟩).isPart := (HasRole.leaf hkind).part
    cases names with
    | nil =>
      rw [List.mem_singleton.mp hc, hpart]
      rfl
    | cons m ms =>
      rcases List.mem_cons.mp hc with rfl | hc
      · rw [hpart]
        rfl
      · rcases List.mem_cons.mp hc with rfl | hc
        · rfl
        · exact ih (i + 2) hc

/-- Names and the commas between them stand in no other field. -/
theorem nameTrees_field {comma : Option String} {field : String} (hfield : field ≠ "name") (hcomma : comma ≠ some field)
    (i : Nat) (names : List Name) : ∀ c ∈ nameTrees e kind comma i names, c.field? ≠ some field := by
  induction names generalizing i with
  | nil => exact fun c hc => nomatch hc
  | cons n names ih =>
    have hname : (some "name" : Option String) ≠ some field := fun h => hfield (Option.some.inj h).symm
    cases names with
    | nil => exact List.forall_mem_singleton.mpr hname
    | cons m ms => exact List.forall_mem_cons.mpr ⟨hname, List.forall_mem_cons.mpr ⟨hcomma, ih (i + 2)⟩⟩

/-- Names before other children that are in the field `name` no more than these. -/
theorem parts_names {comma : Option String} {i : Nat} {names : List Name} {rest : List Parse.Node} :
    (fork e kind p r (nameTrees e text comma i names ++ rest)).parts =
      (nameTrees e text comma i names).filter isPart ++ rest.filter isPart := by
  rw [parts_fork, List.filter_append]

theorem partsIn_names (htext : text ∉ ["comment", ":"]) {comma : Option String} {i : Nat} {names : List Name}
    {rest : List Parse.Node} (hrest : ∀ c ∈ rest, c.field? ≠ some "name") :
    (fork e kind p r (nameTrees e text comma i names ++ rest)).partsIn "name" =
      (nameTrees e text comma i names).filter isPart := by
  have hnone : rest.filter (·.field? == some "name") = [] :=
    List.filter_eq_nil_iff.mpr fun c hc hfield => hrest c hc (eq_of_beq hfield)
  rw [partsIn_fork, List.filter_append, hnone, List.append_nil, nameTrees_named htext]

theorem child?_names {comma : Option String} {field : String} (hfield : field ≠ "name") (hcomma : comma ≠ some field)
    {i : Nat} {names : List Name} {rest : List Parse.Node} :
    (fork e kind p r (nameTrees e text comma i names ++ rest)).child? field =
      rest.find? (·.field? == some field) := by
  have hnone : (nameTrees e text comma i names).find? (·.field? == some field) = none :=
    List.find?_eq_none.mpr fun c hc h => nameTrees_field hfield hcomma i names c hc (eq_of_beq h)
  rw [child?_fork, List.find?_append, hnone, Option.none_or]

/-! ## Children that may be absent -/

@[simp] theorem stringKind_ne (text : String) : stringKind text ≠ "comment" := by
  unfold stringKind
  split <;> decide

/-- The tag of a struct field as a node. -/
def tagTree? (e : Surroundings) (p : Place) (tag : Option String) : Option Parse.Node :=
  tag.map fun text => leaf e (stringKind text) text p ⟨"tag", 1⟩

theorem tagTrees_eq (tag : Option String) : tagTrees e p 1 tag = (tagTree? e p tag).toList := by
  cases tag <;> rfl

theorem tagTree?_derives (tag : Option String) : TagDerives tag (tagTree? e p tag) := by
  cases tag with
  | none => rfl
  | some text => exact ⟨_, rfl, rfl⟩

/-- The parameters of a signature as a node. -/
def Signature.paramsTree (e : Surroundings) : Signature → Place → Parse.Node
  | .mk params _, p =>
    fork e "parameter_list" (opening p (params.head?.map Param.start)) ⟨"parameters", 1⟩ (paramTrees e 0 params)

/-- The results of a signature as a node, if there are any. -/
def Signature.resultTree? (e : Surroundings) : Signature → Place → Option Parse.Node
  | .mk _ none, _ => none
  | .mk _ (some results), p =>
    some ((loneResult? e results).getD
      (fork e "parameter_list" (opening (after p) (results.head?.map Param.start)) ⟨"result", 2⟩
        (paramTrees e 0 results)))

theorem Signature.trees_eq (sig : Signature) (p : Place) :
    sig.trees e p = sig.paramsTree e p :: (sig.resultTree? e p).toList := by
  obtain ⟨params, _ | results⟩ := sig <;> rfl

theorem Signature.resultTree?_role {sig : Signature} {c : Parse.Node} (h : sig.resultTree? e p = some c) :
    c.isPart ∧ c.field? = some "result" := by
  obtain ⟨params, _ | results⟩ := sig
  · cases h
  · have hfork (q : Place) (cs : List Parse.Node) : (fork e "parameter_list" q ⟨"result", 2⟩ cs).isPart ∧
        (fork e "parameter_list" q ⟨"result", 2⟩ cs).field? = some "result" := ⟨rfl, rfl⟩
    cases h
    match results with
    | [.mk [] none ty] => exact ⟨ty.isPart_tree, ty.field?_tree⟩
    | [] => exact hfork _ _
    | .mk (_ :: _) _ _ :: _ => exact hfork _ _
    | .mk [] (some _) _ :: _ => exact hfork _ _
    | .mk [] none _ :: _ :: _ => exact hfork _ _

theorem Signature.trees_parts (sig : Signature) (p : Place) : AllParts (sig.trees e p) := by
  rw [Signature.trees_eq]
  refine List.forall_mem_cons.mpr ⟨?_, fun c hc => (Signature.resultTree?_role (Option.mem_toList.mp hc)).1⟩
  obtain ⟨params, results⟩ := sig
  rfl

/-- A signature and what stands before and behind it. -/
theorem standing_signature (sig : Signature) (q : Place) {before behind : List Parse.Node}
    {fields fields' : List (String × Option Parse.Node)} (hbefore : before.filter isPart = fields.flatMap fun f => f.2.toList)
    (hbehind : behind.filter isPart = fields'.flatMap fun f => f.2.toList)
    (hroles : ∀ f ∈ fields ++ fields', ∀ c ∈ f.2, c.field? = some f.1)
    (hapart : ((fields ++ ("parameters", none) :: ("result", none) :: fields').map Prod.fst).Nodup)
    (hparts : AllParts (before ++ behind)) :
    Standing (before ++ (sig.trees e q ++ behind))
      (fields ++ ("parameters", some (sig.paramsTree e q)) :: ("result", sig.resultTree? e q) :: fields') := by
  have hparams : (sig.paramsTree e q).isPart ∧ (sig.paramsTree e q).field? = some "parameters" := by
    obtain ⟨params, results⟩ := sig
    exact ⟨rfl, rfl⟩
  have hresult : (sig.resultTree? e q).toList.filter isPart = (sig.resultTree? e q).toList :=
    AllParts.filter fun c hc => (Signature.resultTree?_role (Option.mem_toList.mp hc)).1
  obtain ⟨hleft, hright⟩ := List.forall_mem_append.mp hroles
  obtain ⟨hb, hb'⟩ := List.forall_mem_append.mp hparts
  rw [Signature.trees_eq]
  constructor
  · simp [hbefore, hbehind, hparams.1, hresult]
  · refine List.forall_mem_append.mpr ⟨hleft, List.forall_mem_cons.mpr ⟨?_, List.forall_mem_cons.mpr ⟨?_, hright⟩⟩⟩
    · rintro c ⟨⟩
      exact hparams.2
    · exact fun c hc => (Signature.resultTree?_role hc).2
  · simpa using hapart
  · intro c hc hpart
    simp only [List.mem_append, List.mem_cons, Option.mem_toList] at hc
    rcases hc with hc | (rfl | hc) | hc
    · exact absurd (hb c hc) hpart
    · exact absurd hparams.1 hpart
    · exact absurd (Signature.resultTree?_role hc).1 hpart
    · exact absurd (hb' c hc) hpart

@[simp] theorem isPart_listTree (field : String) (i : Nat) (xs : List Node) : (listTree e field i xs).isPart = true := by
  cases xs <;> rfl

@[simp] theorem isNamed_listTree (field : String) (i : Nat) (xs : List Node) :
    (listTree e field i xs).isNamed = true := by
  cases xs <;> rfl

@[simp] theorem field?_listTree (field : String) (i : Nat) (xs : List Node) :
    (listTree e field i xs).field? = some field := by
  cases xs <;> rfl

/-- Expressions as one node, if there are any. -/
def valueTree? (e : Surroundings) (field : Option String) (i : Nat) : List Node → Option Parse.Node
  | [] => none
  | x :: xs => some (fork e "expression_list" x.start ⟨field, i⟩ (x.tree e ⟨none, 0⟩ :: nodeTrees e 1 xs))

theorem valueTrees_eq (field : Option String) (i : Nat) (xs : List Node) :
    valueTrees e field i xs = (valueTree? e field i xs).toList := by
  cases xs <;> rfl

/-- What follows `else` as a node, if anything does. -/
def elseTree? (e : Surroundings) : Option Else → Option Parse.Node
  | none => none
  | some (.block b) => some (b.tree e ⟨"alternative", 3⟩)
  | some (.chain c) => some (c.tree e c.start ⟨"alternative", 3⟩)

theorem elseTrees_eq (els : Option Else) : elseTrees e els = (elseTree? e els).toList := by
  rcases els with _ | b | ⟨_, _, _, _, _⟩ <;> rfl

/-- What stands between `for` and the body as a node, if anything does. -/
def LoopHeader.tree? (e : Surroundings) (header : LoopHeader) (p : Place) : Option Parse.Node :=
  (header.trees e p).head?

theorem LoopHeader.trees_eq (header : LoopHeader) (p : Place) : header.trees e p = (header.tree? e p).toList := by
  cases header <;> rfl

/-! ## Clauses and declarations -/

theorem clauseTrees_field (types : Bool) (cs : List Clause) (i : Nat) :
    ∀ c ∈ clauseTrees e types i cs, c.field? = none := by
  induction cs generalizing i with
  | nil => exact fun c hc => nomatch hc
  | cons c cs ih =>
    cases c with
    | case first more body start =>
      refine List.forall_mem_cons.mpr ⟨?_, ih (i + 1)⟩
      cases types <;> rfl
    | otherwise body start => exact List.forall_mem_cons.mpr ⟨rfl, ih (i + 1)⟩

/-- Children in no field, behind others. -/
theorem child?_before {field : String} {before rows : List Parse.Node} (hrows : ∀ c ∈ rows, c.field? = none) :
    (fork e kind p r (before ++ rows)).child? field = before.find? (·.field? == some field) := by
  have hnone : rows.find? (·.field? == some field) = none :=
    List.find?_eq_none.mpr fun c hc h => by simp [hrows c hc] at h
  rw [child?_fork, List.find?_append, hnone, Option.or_none]

theorem rowTrees_role (ss : List Stmt) (i : Nat) : ∀ c ∈ rowTrees e i ss, c.field? = none ∧ c.nodeId = i := by
  cases ss with
  | nil => exact fun c hc => nomatch hc
  | cons x ss => exact List.forall_mem_singleton.mpr ⟨rfl, rfl⟩

theorem typeTrees_id (xs : List Node) (i : Nat) : ∀ c ∈ typeTrees e i xs, i ≤ c.nodeId := by
  induction xs generalizing i with
  | nil => exact fun c hc => nomatch hc
  | cons x xs ih =>
    refine List.forall_mem_cons.mpr ⟨Nat.le_refl i, List.forall_mem_cons.mpr ⟨?_, fun c hc => ?_⟩⟩
    · rw [Node.nodeId_tree]
      exact Nat.le_succ i
    · have := ih (i + 2) c hc
      omega

theorem typeTrees_named (xs : List Node) (i : Nat) :
    ((typeTrees e i xs).filter (·.field? == some "type")).filter isNamed = (typeTrees e i xs).filter isPart := by
  induction xs generalizing i with
  | nil => rfl
  | cons x xs ih => simpa [typeTrees] using ih (i + 2)

/-- What follows `else` stands in its field. -/
theorem elseTree?_role {els : Option Else} {c : Parse.Node} (h : elseTree? e els = some c) :
    c.isPart ∧ c.field? = some "alternative" := by
  match els with
  | some (.block b) =>
    cases h
    exact ⟨b.isPart_tree, b.field?_tree⟩
  | some (.chain (.mk _ _ _ _ _)) =>
    cases h
    exact ⟨rfl, rfl⟩

theorem shape_conditional (init : Option Stmt) (cond : Node) (body : Block) (els : Option Else) :
    (fork e kind p r (stmtTree? e "initializer" 0 init ++
      cond.tree e ⟨"condition", 1⟩ :: body.tree e ⟨"consequence", 2⟩ :: elseTrees e els)).Shape
      [("initializer", init.map fun x => x.tree e ⟨"initializer", 0⟩), ("condition", some (cond.tree e ⟨"condition", 1⟩)),
        ("consequence", some (body.tree e ⟨"consequence", 2⟩)), ("alternative", elseTree? e els)] := by
  rw [elseTrees_eq]
  refine Standing.shape ?_
  cases hels : elseTree? e els with
  | none => cases init <;> constructor <;> simp [stmtTree?]
  | some c =>
    obtain ⟨hpart, hfield⟩ := elseTree?_role hels
    cases init <;> constructor <;> simp [stmtTree?, hpart, hfield]

@[simp] theorem ValueSpec.isPart_tree (tok : ValueTok) (x : ValueSpec) : (x.tree e tok r).isPart = true := by
  cases x
  cases tok <;> rfl

@[simp] theorem ValueSpec.isNamed_tree (tok : ValueTok) (x : ValueSpec) : (x.tree e tok r).isNamed = true := by
  cases x
  rfl

@[simp] theorem TypeSpec.isPart_tree (x : TypeSpec) : (x.tree e r).isPart = true := by
  obtain ⟨name, params, aliased, ty⟩ := x
  cases aliased <;> rfl

@[simp] theorem TypeSpec.isNamed_tree (x : TypeSpec) : (x.tree e r).isNamed = true := by
  cases x
  rfl

end GoRebuild.Grammar
