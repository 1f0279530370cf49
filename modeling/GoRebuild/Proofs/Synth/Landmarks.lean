import GoRebuild.Proofs.Chain.Steps
import GoRebuild.Proofs.Program.Words
import GoRebuild.Proofs.Tree.Landmarks

/-!
# The landmarks of a tree in its chain

* `Chain.quals`, `Chain.sizes` : the calls of `Qual` in a chain, and how many arguments each call has that groups the
  parts of a node;
* `Chain.Dense` : no argument at any depth is an empty chain, and no call is that of `Null`;
* `Accounts s ls c` : the chain has the landmarks in their order, and is dense if all values have names; `Stands`,
  `Fills` : it is not empty, either; `AllFill` : the same of the chains of a list;
* `Expr.stands_synth`, `Stmt.stands_synth`, `GenDecl.stands_synth`, `FuncDecl.stands_synth` : the rules.
-/

namespace GoRebuild
open Chain Synth

/-- The calls whose arguments are the parts of one node. -/
def groupingMethods : List String :=
  ["Block", "Call", "Values", "Case", "Struct", "Interface", "Defs", "Params"]

/-- The arguments of a call of `Qual`. -/
def Step.qual? : Step → Option (List Arg)
  | .mk m args => if m = "Qual" then some args else none

/-- How many parts of a node a call groups. -/
def Step.size? : Step → Option (String × Nat)
  | .mk m args => if groupingMethods.contains m then some (m, args.length) else none

namespace Chain

/-- The arguments of the calls of `Qual`, from left to right. -/
def quals (c : Chain) : List (List Arg) :=
  c.deep.filterMap Step.qual?

/-- The calls that group parts, from left to right, and how many parts each has. -/
def sizes (c : Chain) : List (String × Nat) :=
  c.deep.filterMap Step.size?

/-- No argument at any depth is an empty chain, and no call is that of `Null`. -/
def Dense (c : Chain) : Prop :=
  ∀ s ∈ c.deep, s.method ≠ "Null" ∧ .code [] ∉ s.args

end Chain

namespace Landmark

/-- The arguments of `Qual` for a selector whose base is the local name of a package. -/
def qual? (t : SymbolTable) : Landmark → Option (List Arg)
  | selector base member => (t.resolve base).map fun path => [.quoted path, .quoted member]
  | group _ _ | names _ => none

/-- The call of a node that groups its parts, and how many parts it has. -/
def size? : Landmark → Option (String × Nat)
  | group m n => some (m, n)
  | selector _ _ | names _ => none

end Landmark

variable (s : Scope)

/-- A chain has the landmarks of a tree. -/
structure Accounts (ls : List Landmark) (c : Chain) : Prop where
  quals : c.quals = ls.filterMap (Landmark.qual? s.table)
  sizes : c.sizes = ls.filterMap Landmark.size?
  dense : AllNamed ls → c.Dense

/-- The chain is not empty. -/
structure Stands (ls : List Landmark) (c : Chain) : Prop extends Accounts s ls c where
  nonempty : c ≠ []

/-- The chain is not empty if all values have names. -/
structure Fills (ls : List Landmark) (c : Chain) : Prop extends Accounts s ls c where
  nonempty : AllNamed ls → c ≠ []

/-- The chains of so many trees have their landmarks, and none is empty if all values have names. -/
structure AllFill (n : Nat) (ls : List Landmark) (cs : List Chain) : Prop where
  length : cs.length = n
  quals : cs.flatMap Chain.quals = ls.filterMap (Landmark.qual? s.table)
  sizes : cs.flatMap Chain.sizes = ls.filterMap Landmark.size?
  dense : AllNamed ls → ∀ c ∈ cs, c ≠ [] ∧ c.Dense

variable {s} {c d k : Chain} {cs ds : List Chain} {ls ms : List Landmark} {m : String} {n : Nat}

/-! ## Chains -/

theorem accounts_nil : Accounts s [] [] :=
  ⟨rfl, rfl, fun _ => by rintro _ ⟨⟩⟩

theorem Accounts.append (hc : Accounts s ls c) (hd : Accounts s ms d) : Accounts s (ls ++ ms) (c ++ d) where
  quals := by rw [Chain.quals, deep_append, List.filterMap_append, List.filterMap_append, ← hc.quals, ← hd.quals]; rfl
  sizes := by rw [Chain.sizes, deep_append, List.filterMap_append, List.filterMap_append, ← hc.sizes, ← hd.sizes]; rfl
  dense := by
    intro h
    obtain ⟨hls, hms⟩ := allNamed_append.mp h
    unfold Chain.Dense
    rw [deep_append, List.forall_mem_append]
    exact ⟨hc.dense hls, hd.dense hms⟩

/-- A chain behind which something stands that has no landmarks. -/
theorem Accounts.behind (hc : Accounts s ls c) (hk : Accounts s [] k) : Accounts s ls (c ++ k) := by
  have h := hc.append hk
  rwa [List.append_nil] at h

theorem Stands.append (hc : Stands s ls c) (hd : Accounts s ms d) : Stands s (ls ++ ms) (c ++ d) :=
  ⟨hc.toAccounts.append hd, List.append_ne_nil_of_left_ne_nil hc.nonempty d⟩

theorem Stands.behind (hc : Stands s ls c) (hk : Accounts s [] k) : Stands s ls (c ++ k) :=
  ⟨hc.toAccounts.behind hk, List.append_ne_nil_of_left_ne_nil hc.nonempty k⟩

theorem Accounts.before (hk : Accounts s [] k) (hc : Stands s ls c) : Stands s ls (k ++ c) :=
  ⟨hk.append hc.toAccounts, List.append_ne_nil_of_right_ne_nil k hc.nonempty⟩

theorem Accounts.append_stands (hc : Accounts s ls c) (hd : Stands s ms d) : Stands s (ls ++ ms) (c ++ d) :=
  ⟨hc.append hd.toAccounts, List.append_ne_nil_of_right_ne_nil c hd.nonempty⟩

theorem Fills.append (hc : Fills s ls c) (hd : Accounts s ms d) : Fills s (ls ++ ms) (c ++ d) :=
  ⟨hc.toAccounts.append hd, fun h => List.append_ne_nil_of_left_ne_nil (hc.nonempty (allNamed_append.mp h).1) d⟩

theorem Fills.behind (hc : Fills s ls c) (hk : Accounts s [] k) : Fills s ls (c ++ k) := by
  have h := hc.append hk
  rwa [List.append_nil] at h

theorem Stands.fills (h : Stands s ls c) : Fills s ls c :=
  ⟨h.toAccounts, fun _ => h.nonempty⟩

namespace AllFill

theorem nil : AllFill s 0 [] [] :=
  ⟨rfl, rfl, rfl, fun _ => by rintro _ ⟨⟩⟩

theorem cons (hc : Fills s ls c) (hcs : AllFill s n ms cs) : AllFill s (n + 1) (ls ++ ms) (c :: cs) where
  length := by rw [List.length_cons, hcs.length]
  quals := by rw [List.flatMap_cons, List.filterMap_append, hc.quals, hcs.quals]
  sizes := by rw [List.flatMap_cons, List.filterMap_append, hc.sizes, hcs.sizes]
  dense := by
    intro h
    obtain ⟨hls, hms⟩ := allNamed_append.mp h
    exact List.forall_mem_cons.mpr ⟨⟨hc.nonempty hls, hc.dense hls⟩, hcs.dense hms⟩

theorem one (hc : Fills s ls c) : AllFill s 1 ls [c] := by
  have h := cons hc nil
  rwa [List.append_nil] at h

theorem append {k : Nat} (hcs : AllFill s n ls cs) (hds : AllFill s k ms ds) :
    AllFill s (n + k) (ls ++ ms) (cs ++ ds) where
  length := by rw [List.length_append, hcs.length, hds.length]
  quals := by rw [List.flatMap_append, List.filterMap_append, hcs.quals, hds.quals]
  sizes := by rw [List.flatMap_append, List.filterMap_append, hcs.sizes, hds.sizes]
  dense := by
    intro h
    obtain ⟨hls, hms⟩ := allNamed_append.mp h
    exact List.forall_mem_append.mpr ⟨hcs.dense hls, hds.dense hms⟩

end AllFill

/-- A method that is neither that of `Qual` or `Null` nor one that groups. -/
def isOrdinary (m : String) : Bool :=
  m != "Qual" && m != "Null" && !groupingMethods.contains m

/-- A call on which all is said by its own arguments. -/
theorem stands_call {args : List Arg} (hargs : Arg.deepAll args = []) (hcode : .code [] ∉ args)
    (hm : isOrdinary m = true := by decide) : Stands s [] (call m args) := by
  simp only [isOrdinary, Bool.and_eq_true, bne_iff_ne, ne_eq, Bool.not_eq_true'] at hm
  refine ⟨⟨?_, ?_, fun _ => ?_⟩, List.cons_ne_nil _ _⟩
  · rw [Chain.quals, deep_call, hargs, List.filterMap_cons_none (by rw [Step.qual?, if_neg hm.1.1])]
    rfl
  · rw [Chain.sizes, deep_call, hargs, List.filterMap_cons_none (by rw [Step.size?, hm.2, if_neg Bool.false_ne_true])]
    rfl
  · unfold Chain.Dense
    rw [deep_call, hargs, List.forall_mem_cons]
    exact ⟨⟨hm.1.2, hcode⟩, by rintro _ ⟨⟩⟩

theorem stands_keyword (m : String) (hm : isOrdinary m = true := by decide) : Stands s [] (keyword m) :=
  stands_call rfl List.not_mem_nil hm

theorem stands_name (text : String) : Stands s [] (name text) :=
  stands_call rfl (by simp)

theorem stands_op (text : String) : Stands s [] (op text) :=
  stands_call rfl (by simp)

theorem stands_slot : Stands s [] slot :=
  stands_keyword "Empty" (by decide)

theorem stands_dot (text : String) : Stands s [] (call "Dot" [.quoted text]) :=
  stands_call rfl (by simp)

/-- What the arguments of a call say that takes chains. -/
theorem AllFill.quals_deep (h : AllFill s n ls cs) :
    (cs.flatMap deep).filterMap Step.qual? = ls.filterMap (Landmark.qual? s.table) := by
  rw [List.filterMap_flatMap, ← h.quals]
  rfl

theorem AllFill.sizes_deep (h : AllFill s n ls cs) :
    (cs.flatMap deep).filterMap Step.size? = ls.filterMap Landmark.size? := by
  rw [List.filterMap_flatMap, ← h.sizes]
  rfl

theorem AllFill.dense_group (h : AllFill s n ls cs) (hm : m ≠ "Null") (hls : AllNamed ls) : (group m cs).Dense := by
  unfold Chain.Dense
  rw [deep_group, List.forall_mem_cons]
  refine ⟨⟨hm, fun hempty => ?_⟩, ?_⟩
  · obtain ⟨c, hc, heq⟩ := List.mem_map.mp hempty
    injection heq with hnil
    exact (h.dense hls c hc).1 hnil
  · intro t ht
    obtain ⟨c, hc, ht⟩ := List.mem_flatMap.mp ht
    exact (h.dense hls c hc).2 t ht

/-- A call whose arguments are slots. -/
theorem stands_group (h : AllFill s n ls cs) (hm : isOrdinary m = true := by decide) : Stands s ls (group m cs) := by
  simp only [isOrdinary, Bool.and_eq_true, bne_iff_ne, ne_eq, Bool.not_eq_true'] at hm
  refine ⟨⟨?_, ?_, h.dense_group hm.1.2⟩, List.cons_ne_nil _ _⟩
  · rw [Chain.quals, deep_group, List.filterMap_cons_none (by rw [Step.qual?, if_neg hm.1.1]), h.quals_deep]
  · rw [Chain.sizes, deep_group, List.filterMap_cons_none (by rw [Step.size?, hm.2, if_neg Bool.false_ne_true]),
      h.sizes_deep]

/-- A call whose arguments are the parts of a node. -/
theorem stands_parts (h : AllFill s n ls cs) (hm : groupingMethods.contains m = true := by decide) :
    Stands s (.group m n :: ls) (group m cs) := by
  have hqual : m ≠ "Qual" := by
    rintro rfl
    exact absurd hm (by decide)
  have hnull : m ≠ "Null" := by
    rintro rfl
    exact absurd hm (by decide)
  refine ⟨⟨?_, ?_, fun hls => h.dense_group hnull (allNamed_group.mp hls)⟩, List.cons_ne_nil _ _⟩
  · rw [Chain.quals, deep_group, List.filterMap_cons_none (by rw [Step.qual?, if_neg hqual]), h.quals_deep]
    rfl
  · have hsize : (Step.mk m (cs.map .code)).size? = some (m, n) := by
      rw [Step.size?, hm, if_pos rfl, List.length_map, h.length]
    rw [Chain.sizes, deep_group, List.filterMap_cons_some hsize, h.sizes_deep]
    rfl

/-- A selector on the local name of a package. -/
theorem stands_qual {base path member : String} (h : s.table.resolve base = some path) :
    Stands s [.selector base member] (call "Qual" [.quoted path, .quoted member]) := by
  refine ⟨⟨?_, rfl, fun _ => ?_⟩, List.cons_ne_nil _ _⟩
  · rw [List.filterMap_cons_some (by rw [Landmark.qual?, h]; rfl)]
    rfl
  · unfold Chain.Dense
    rw [deep_call, List.forall_mem_cons]
    refine ⟨⟨?_, by simp [Step.args]⟩, by rintro _ ⟨⟩⟩
    show "Qual" ≠ "Null"
    decide

/-- A selector on any other identifier. -/
theorem stands_member {base member : String} (h : s.table.resolve base = none) (hc : Stands s [] c) :
    Stands s [.selector base member] (c ++ call "Dot" [.quoted member]) := by
  have hdot : Stands s [] (c ++ call "Dot" [.quoted member]) := hc.behind (stands_dot member).toAccounts
  refine ⟨⟨?_, hdot.sizes, fun _ => hdot.dense allNamed_nil⟩, hdot.nonempty⟩
  rw [List.filterMap_cons_none (by rw [Landmark.qual?, h]; rfl)]
  exact hdot.quals

theorem accounts_listed (h : AllFill s n ls cs) : Accounts s ls (listed cs) := by
  unfold listed
  split
  · refine ⟨h.quals, h.sizes, fun _ => ?_⟩
    rintro _ ⟨⟩
  · rename_i c
    refine ⟨?_, ?_, fun hls => (h.dense hls c List.mem_cons_self).2⟩
    · rw [← h.quals, List.flatMap_cons, List.flatMap_nil, List.append_nil]
    · rw [← h.sizes, List.flatMap_cons, List.flatMap_nil, List.append_nil]
  · exact (stands_group h (by decide)).toAccounts

theorem allFill_names (ns : List Ident) : AllFill s ns.length [] (ns.map fun n => name n.name) := by
  induction ns with
  | nil => exact .nil
  | cons n ns ih => exact .cons (stands_name n.name).fills ih

theorem accounts_nameChain (ns : List Ident) : Accounts s [] (nameChain ns) :=
  accounts_listed (allFill_names ns)

theorem fills_names (ns : List Ident) : Fills s [.names (ns.map Ident.name)] (nameChain ns) := by
  have h : Accounts s [] (nameChain ns) := accounts_nameChain ns
  refine ⟨⟨h.quals, h.sizes, fun _ => h.dense allNamed_nil⟩, fun hls => ?_⟩
  obtain ⟨hns, -⟩ := allNamed_names.mp hls
  unfold nameChain
  cases ns with
  | nil => exact absurd rfl hns
  | cons n ns =>
    cases ns with
    | nil => exact List.cons_ne_nil _ _
    | cons n' ns => exact List.cons_ne_nil _ _

/-- An operator behind a chain adds no landmark. -/
theorem quals_append_op (c : Chain) (text : String) : (c ++ op text).quals = c.quals := by
  rw [Chain.quals, deep_append, List.filterMap_append]
  exact List.append_nil _

theorem sizes_append_op (c : Chain) (text : String) : (c ++ op text).sizes = c.sizes := by
  rw [Chain.sizes, deep_append, List.filterMap_append]
  exact List.append_nil _

theorem dense_append_op (hc : c.Dense) (text : String) : (c ++ op text).Dense := by
  have hop : Stands ⟨{}, 0⟩ [] (op text) := stands_op text
  unfold Chain.Dense
  rw [deep_append, List.forall_mem_append]
  exact ⟨hc, hop.dense allNamed_nil⟩

theorem allFill_spreadLast (spread : Bool) (h : AllFill s n ls cs) : AllFill s n ls (spreadLast spread cs) := by
  unfold spreadLast
  split
  · rename_i last hlast
    obtain ⟨front, rfl⟩ := List.getLast?_eq_some_iff.mp hlast
    rw [List.dropLast_concat]
    have hlength := h.length
    have hquals := h.quals
    have hsizes := h.sizes
    rw [List.length_append, List.length_singleton] at hlength
    rw [List.flatMap_append, List.flatMap_cons, List.flatMap_nil, List.append_nil] at hquals hsizes
    refine ⟨?_, ?_, ?_, fun hls => ?_⟩
    · rw [List.length_append, List.length_singleton, hlength]
    · rw [List.flatMap_append, List.flatMap_cons, List.flatMap_nil, List.append_nil, quals_append_op, hquals]
    · rw [List.flatMap_append, List.flatMap_cons, List.flatMap_nil, List.append_nil, sizes_append_op, hsizes]
    · obtain ⟨hfront, hend⟩ := List.forall_mem_append.mp (h.dense hls)
      obtain ⟨hnonempty, hdense⟩ := hend last List.mem_cons_self
      refine List.forall_mem_append.mpr ⟨hfront, List.forall_mem_singleton.mpr ⟨?_, dense_append_op hdense "..."⟩⟩
      exact List.append_ne_nil_of_left_ne_nil hnonempty _
  · exact h

/-! ## Parts without parts -/

theorem BasicLit.stands_synth (l : BasicLit) (pos : Pos) : Gives (l.synth pos) (Stands s []) := by
  unfold BasicLit.synth
  split
  · split
    · exact gives_pure (stands_call rfl (by simp))
    · exact gives_pure (stands_name _)
  · exact gives_unsupported _ _
  all_goals exact gives_pure (stands_name _)

theorem BranchTok.stands_chain (t : BranchTok) : Stands s [] t.chain := by
  cases t <;> exact stands_keyword _ (by decide)

theorem ChanDir.stands_chain (d : ChanDir) : Stands s [] d.chain := by
  cases d with
  | both => exact stands_keyword "Chan" (by decide)
  | send => exact (stands_keyword "Chan" (by decide)).behind (stands_op "<-").toAccounts
  | recv => exact (stands_op "<-").behind (stands_keyword "Chan" (by decide)).toAccounts

/-! ## Expressions, statements and declarations -/

section
variable (s)

mutual

theorem Expr.stands_synth : ∀ e : Expr, Gives (e.synth s) (Stands s e.landmarks)
  | .mk k p => (ExprKind.stands_synth p k).nested s p

theorem ExprKind.stands_synth (pos : Pos) : ∀ k : ExprKind, Gives (k.synth s pos) (Stands s k.landmarks)
  | .bad _ => gives_unsupported _ _
  | .ident n => gives_pure (stands_name n)
  | .ellipsis none => gives_pure (stands_op "...")
  | .ellipsis (some t) => (Expr.stands_synth t).map fun _ ht => (stands_op "...").toAccounts.before ht
  | .basicLit l => l.stands_synth pos
  | .funcLit t b =>
    (FuncType.stands_signature t).bind fun _ ht => (Block.stands_synth b).map fun _ hb =>
      ((stands_keyword "Func").toAccounts.before ht).append hb.toAccounts
  | .compositeLit none es =>
    gives_pure_bind <| (Expr.allFill_synthList es).map fun _ hes => accounts_nil.before (stands_parts hes)
  | .compositeLit (some t) es =>
    (Expr.stands_synth t).bind fun _ ht => (Expr.allFill_synthList es).map fun _ hes =>
      ht.append (stands_parts hes).toAccounts
  | .paren x => (Expr.stands_synth x).map fun _ hx => stands_group (.one hx.fills)
  | .selector x sel => by
    have hx := Expr.stands_synth x
    rw [ExprKind.synth_selector, Scope.qualifier?_eq, ExprKind.landmarks_selector]
    cases hbare : x.bareName? with
    | none => exact hx.map fun _ hx => hx.behind (stands_dot sel.name).toAccounts
    | some base =>
      rw [Expr.landmarks_of_bareName hbare] at hx
      rw [Option.bind_some]
      cases hresolve : s.table.resolve base with
      | none => exact hx.map fun _ hx => stands_member hresolve hx
      | some path => exact gives_pure (stands_qual hresolve)
  | .index x i =>
    (Expr.stands_synth i).bind fun _ hi => (Expr.stands_synth x).map fun _ hx =>
      hx.append (stands_group (.one hi.fills)).toAccounts
  | .slice x low high max false =>
    (Expr.stands_synthSlot low).bind fun _ hl => (Expr.stands_synthSlot high).bind fun _ hh =>
      gives_pure_bind <| (Expr.stands_synth x).map fun _ hx =>
        hx.append (stands_group (.cons hl.fills (.cons hh.fills .nil))).toAccounts
  | .slice x low high max true =>
    (Expr.stands_synthSlot low).bind fun _ hl => (Expr.stands_synthSlot high).bind fun _ hh =>
      (Expr.stands_synthSlot max).bind fun _ hm => gives_pure_bind <| (Expr.stands_synth x).map fun _ hx =>
        hx.append (stands_group (.cons hl.fills (.cons hh.fills (.one hm.fills)))).toAccounts
  | .typeAssert x none =>
    gives_pure_bind <| (Expr.stands_synth x).map fun _ hx =>
      hx.append (stands_group (.one (stands_keyword "Type").fills)).toAccounts
  | .typeAssert x (some t) =>
    (Expr.stands_synth t).bind fun _ ht => (Expr.stands_synth x).map fun _ hx =>
      hx.append (stands_group (.one ht.fills)).toAccounts
  | .call f as spread =>
    (Expr.allFill_synthList as).bind fun _ has => (Expr.stands_synth f).map fun _ hf =>
      hf.append (stands_parts (allFill_spreadLast spread has)).toAccounts
  | .star x => (Expr.stands_synth x).map fun _ hx => (stands_op "*").toAccounts.before hx
  | .unary o x => (Expr.stands_synth x).map fun _ hx => (stands_op o).toAccounts.before hx
  | .binary x o y =>
    (Expr.stands_synth x).bind fun _ hx => (Expr.stands_synth y).map fun _ hy =>
      (hx.behind (stands_op o).toAccounts).append hy.toAccounts
  | .keyValue k v =>
    (Expr.stands_synth k).bind fun _ hk => (Expr.stands_synth v).map fun _ hv =>
      (hk.behind (stands_op ":").toAccounts).append hv.toAccounts
  | .arrayType none t => (Expr.stands_synth t).map fun _ ht => (stands_keyword "Index").toAccounts.before ht
  | .arrayType (some n) t => by
    have hn := Expr.stands_synth n
    have ht := Expr.stands_synth t
    by_cases hdots : ∃ p, n = .mk (.ellipsis none) p
    · obtain ⟨p, rfl⟩ := hdots
      exact ht.map fun _ ht => (stands_group (.one (stands_op "...").fills)).toAccounts.before ht
    · rw [ExprKind.synth_arrayType s pos hdots]
      exact hn.bind fun _ hn => ht.map fun _ ht => (stands_group (.one hn.fills)).append ht.toAccounts
  | .structType fs => (Field.allFill_synthList fs).map fun _ hfs => stands_parts hfs
  | .funcType t => (FuncType.stands_signature t).map fun _ ht => (stands_keyword "Func").toAccounts.before ht
  | .interfaceType ms => (Field.allFill_synthElements ms).map fun _ hms => stands_parts hms
  | .mapType k v =>
    (Expr.stands_synth k).bind fun _ hk => (Expr.stands_synth v).map fun _ hv =>
      (stands_group (.one hk.fills)).append hv.toAccounts
  | .chanType d v => (Expr.stands_synth v).map fun _ hv => d.stands_chain.toAccounts.before hv

theorem Expr.allFill_synthList : ∀ xs : List Expr,
    Gives (Expr.synthList s xs) (AllFill s xs.length (Expr.listLandmarks xs))
  | [] => gives_pure .nil
  | x :: xs => (Expr.stands_synth x).bind fun _ hx => (Expr.allFill_synthList xs).map fun _ hxs => .cons hx.fills hxs

theorem Expr.stands_synthSlot : ∀ x : Option Expr, Gives (Expr.synthSlot s x) (Stands s (Expr.optionLandmarks x))
  | none => gives_pure stands_slot
  | some x => Expr.stands_synth x

theorem Expr.allFill_synthPresent : ∀ x : Option Expr,
    Gives (Expr.synthPresent s x) (AllFill s x.toList.length (Expr.optionLandmarks x))
  | none => gives_pure .nil
  | some x => (Expr.stands_synth x).map fun _ hx => .one hx.fills

theorem FuncType.stands_signature : ∀ t : FuncType, Gives (t.signature s) (Stands s t.landmarks)
  | .mk ps none => (Field.allFill_synthList ps).map fun _ hps => stands_parts hps
  | .mk ps (some [.mk [] t _]) =>
    (Field.allFill_synthList ps).bind fun _ hps => (Expr.stands_synth t).map fun _ ht =>
      (stands_parts hps).append ht.toAccounts
  | .mk ps (some []) =>
    (Field.allFill_synthList ps).bind fun _ hps => (Field.allFill_synthList []).map fun _ hrs =>
      (stands_parts hps).append (stands_parts hrs).toAccounts
  | .mk ps (some (.mk (n :: ns) t tag :: rs)) =>
    (Field.allFill_synthList ps).bind fun _ hps => (Field.allFill_synthList (.mk (n :: ns) t tag :: rs)).map fun _ hrs =>
      (stands_parts hps).append (stands_parts hrs).toAccounts
  | .mk ps (some (.mk [] t tag :: f :: rs)) =>
    (Field.allFill_synthList ps).bind fun _ hps => (Field.allFill_synthList (.mk [] t tag :: f :: rs)).map fun _ hrs =>
      (stands_parts hps).append (stands_parts hrs).toAccounts

theorem Field.stands_synth : ∀ f : Field, Gives (f.synth s) (Stands s f.landmarks)
  | .mk ns t none => (Expr.stands_synth t).map fun _ ht => (accounts_nameChain ns).before ht
  | .mk ns t (some l) =>
    (Expr.stands_synth t).map fun _ ht => ((accounts_nameChain ns).before ht).behind (stands_name l.value).toAccounts

theorem Field.allFill_synthList : ∀ fs : List Field,
    Gives (Field.synthList s fs) (AllFill s fs.length (Field.listLandmarks fs))
  | [] => gives_pure .nil
  | f :: fs => (Field.stands_synth f).bind fun _ hf => (Field.allFill_synthList fs).map fun _ hfs => .cons hf.fills hfs

theorem Field.allFill_synthElements : ∀ fs : List Field,
    Gives (Field.synthElements s fs) (AllFill s fs.length (Field.listLandmarks fs))
  | [] => gives_pure .nil
  | .mk [] t tag :: fs =>
    (Expr.stands_synth t).bind fun _ ht => (Field.allFill_synthElements fs).map fun _ hfs => .cons ht.fills hfs
  | .mk [n] (.mk k p) tag :: fs => by
    have hfs := Field.allFill_synthElements fs
    cases k with
    | funcType t =>
      exact (FuncType.stands_signature t).bind fun _ ht => hfs.map fun _ hfs =>
        .cons ((stands_name n.name).toAccounts.before ht).fills hfs
    | _ => exact gives_unsupported _ _
  | .mk (_ :: _ :: _) _ _ :: _ => gives_unsupported _ _

theorem Block.stands_synth : ∀ b : Block, Gives (b.synth s) (Stands s b.landmarks)
  | .mk ss _ => (Stmt.allFill_synthList ss).map fun _ hss => stands_parts hss

theorem Stmt.stands_synth : ∀ x : Stmt, Gives (x.synth s) (Stands s x.landmarks)
  | .mk k p => (StmtKind.stands_synth p k).nested s p

theorem Stmt.allFill_synthList : ∀ ss : List Stmt,
    Gives (Stmt.synthList s ss) (AllFill s ss.length (Stmt.listLandmarks ss))
  | [] => gives_pure .nil
  | x :: xs => (Stmt.stands_synth x).bind fun _ hx => (Stmt.allFill_synthList xs).map fun _ hxs => .cons hx.fills hxs

theorem Stmt.stands_synthSlot : ∀ x : Option Stmt, Gives (Stmt.synthSlot s x) (Stands s (Stmt.optionLandmarks x))
  | none => gives_pure stands_slot
  | some x => Stmt.stands_synth x

theorem Stmt.allFill_synthInit : ∀ x : Option Stmt,
    Gives (Stmt.synthInit s x) (AllFill s x.toList.length (Stmt.optionLandmarks x))
  | none => gives_pure .nil
  | some x => (Stmt.stands_synth x).map fun _ hx => .one hx.fills

theorem StmtKind.stands_synth (pos : Pos) : ∀ k : StmtKind, Gives (k.synth s pos) (Stands s k.landmarks)
  | .bad _ => gives_unsupported _ _
  | .decl d => GenDecl.stands_synth d
  | .empty => gives_pure stands_slot
  | .labeled l x => (Stmt.stands_synth x).map fun _ hx =>
      (((stands_name l.name).behind (stands_op ":").toAccounts).behind (stands_keyword "Line").toAccounts).toAccounts.before hx
  | .expr x => Expr.stands_synth x
  | .send c v =>
    (Expr.stands_synth c).bind fun _ hc => (Expr.stands_synth v).map fun _ hv =>
      (hc.behind (stands_op "<-").toAccounts).append hv.toAccounts
  | .incDec x t => (Expr.stands_synth x).map fun _ hx => hx.behind (stands_op t.text).toAccounts
  | .assign l t r =>
    (Expr.allFill_synthList l).bind fun _ hl => (Expr.allFill_synthList r).map fun _ hr => by
      have htarget := (accounts_listed hl).append_stands (stands_op t)
      rw [List.append_nil] at htarget
      exact htarget.append (accounts_listed hr)
  | .goStmt c => (Expr.stands_synth c).map fun _ hc => (stands_keyword "Go").toAccounts.before hc
  | .deferStmt c => (Expr.stands_synth c).map fun _ hc => (stands_keyword "Defer").toAccounts.before hc
  | .returnStmt rs => (Expr.allFill_synthList rs).map fun _ hrs => (stands_keyword "Return").append (accounts_listed hrs)
  | .branch t none => gives_pure t.stands_chain
  | .branch t (some l) => gives_pure (t.stands_chain.behind (stands_name l.name).toAccounts)
  | .block b => Block.stands_synth b
  | .ifStmt i c b none =>
    (Stmt.allFill_synthInit i).bind fun _ hi => (Expr.stands_synth c).bind fun _ hc =>
      (Block.stands_synth b).map fun _ hb => by
        have hif := (stands_group (m := "If") (hi.append (.one hc.fills))).append hb.toAccounts
        change Stands s (Stmt.optionLandmarks i ++ c.landmarks ++ b.landmarks ++ []) _
        rw [List.append_nil]
        exact hif
  | .ifStmt i c b (some e) =>
    (Stmt.allFill_synthInit i).bind fun _ hi => (Expr.stands_synth c).bind fun _ hc =>
      (Block.stands_synth b).bind fun _ hb => (Stmt.stands_synth e).map fun _ he =>
        (((stands_group (hi.append (.one hc.fills))).append hb.toAccounts).behind
          (stands_keyword "Else").toAccounts).append he.toAccounts
  | .caseClause [] b =>
    gives_pure_bind <| (Stmt.allFill_synthList b).map fun _ hb =>
      (stands_keyword "Default").toAccounts.before (stands_parts hb)
  | .caseClause (x :: xs) b =>
    (Expr.stands_synth x).bind fun _ hx => (Expr.allFill_synthList xs).bind fun _ hxs =>
      gives_pure_bind <| (Stmt.allFill_synthList b).map fun _ hb =>
        (stands_parts (.cons hx.fills hxs)).append (stands_parts hb).toAccounts
  | .switchStmt i none b =>
    (Stmt.allFill_synthInit i).bind fun header hi => gives_pure_bind <| (Block.stands_synth b).map fun _ hb => by
      refine Stands.append ?_ hb.toAccounts
      split
      · rename_i hempty
        rw [List.isEmpty_iff] at hempty
        subst hempty
        rw [Expr.optionLandmarks, List.append_nil]
        exact stands_group hi
      · exact stands_group (hi.append (.one stands_slot.fills))
  | .switchStmt i (some t) b =>
    (Stmt.allFill_synthInit i).bind fun _ hi => (Expr.stands_synth t).bind fun _ ht =>
      gives_pure_bind <| (Block.stands_synth b).map fun _ hb =>
        (stands_group (hi.append (.one ht.fills))).append hb.toAccounts
  | .typeSwitch i a b =>
    (Stmt.allFill_synthInit i).bind fun _ hi => (Stmt.stands_synth a).bind fun _ ha =>
      (Block.stands_synth b).map fun _ hb => (stands_group (hi.append (.one ha.fills))).append hb.toAccounts
  | .commClause none b =>
    gives_pure_bind <| (Stmt.allFill_synthList b).map fun _ hb =>
      (stands_keyword "Default").toAccounts.before (stands_parts hb)
  | .commClause (some x) b =>
    (Stmt.stands_synth x).bind fun _ hx => gives_pure_bind <|
      (Stmt.allFill_synthList b).map fun _ hb => (stands_parts (.one hx.fills)).append (stands_parts hb).toAccounts
  | .selectStmt b => (Block.stands_synth b).map fun _ hb => (stands_keyword "Select").toAccounts.before hb
  | .forStmt none none none b =>
    gives_pure_bind <| (Block.stands_synth b).map fun _ hb => (stands_group .nil).toAccounts.before hb
  | .forStmt none (some c) none b =>
    (Expr.stands_synth c).bind fun _ hc => gives_pure_bind <|
      (Block.stands_synth b).map fun _ hb => (stands_group (.cons hc.fills .nil)).append hb.toAccounts
  | .forStmt none c (some p) b =>
    gives_pure_bind <| (Expr.stands_synthSlot c).bind fun _ hc => (Stmt.stands_synth p).bind fun _ hp =>
      (Block.stands_synth b).map fun _ hb =>
        (stands_group (.cons stands_slot.fills (.cons hc.fills (.one hp.fills)))).append hb.toAccounts
  | .forStmt (some i) c p b =>
    (Stmt.stands_synth i).bind fun _ hi => (Expr.stands_synthSlot c).bind fun _ hc =>
      (Stmt.stands_synthSlot p).bind fun _ hp => (Block.stands_synth b).map fun _ hb =>
        (stands_group (.cons hi.fills (.cons hc.fills (.one hp.fills)))).append hb.toAccounts
  | .rangeStmt _ _ none x b =>
    (Expr.stands_synth x).bind fun _ hx => gives_pure_bind <| (Block.stands_synth b).map fun _ hb =>
      (stands_group (.one ((stands_keyword "Range").toAccounts.before hx).fills)).append hb.toAccounts
  | .rangeStmt k v (some t) x b =>
    (Expr.stands_synth x).bind fun _ hx => (Expr.allFill_synthPresent k).bind fun _ hk =>
      (Expr.allFill_synthPresent v).bind fun _ hv => gives_pure_bind <| (Block.stands_synth b).map fun _ hb =>
        (stands_group (.one ((((accounts_listed (hk.append hv)).behind (stands_op t).toAccounts).behind
          (stands_keyword "Range").toAccounts).append_stands hx).fills)).append hb.toAccounts

theorem GenDecl.stands_synth : ∀ d : GenDecl, Gives (d.synth s) (Stands s d.landmarks)
  | .mk tok pos grouped specs => by
    have hspecs := Spec.allFill_synthList pos specs
    have hrest {head : Chain} (hhead : Stands s [] head) :
        Gives (Spec.synthList s pos specs >>= fun cs => match grouped, cs with
          | false, [c] => pure (head ++ c)
          | _, cs => pure (head ++ group "Defs" cs)) (Stands s (GenDecl.mk tok pos grouped specs).landmarks) := by
      refine hspecs.bind fun cs hcs => ?_
      have hlength := hcs.length
      rw [GenDecl.landmarks.eq_def]
      split
      · rename_i c
        -- one chain comes from one entry
        obtain ⟨x, rfl⟩ := List.length_eq_one_iff.mp hlength.symm
        have hc : Accounts s _ c := accounts_listed hcs
        rw [Spec.listLandmarks, Spec.listLandmarks, List.append_nil] at hc
        exact gives_pure (hhead.append hc)
      · rename_i hlist
        split
        · rename_i x heq
          cases heq
          obtain ⟨c, rfl⟩ := List.length_eq_one_iff.mp hlength
          exact absurd rfl (hlist c rfl)
        · rename_i heq
          cases heq
          exact gives_pure (hhead.append (stands_parts hcs).toAccounts)
    refine Gives.nested s pos ?_
    cases tok with
    | importTok => exact (gives_unsupported (P := fun _ => False) _ _).bind fun _ hfalse => hfalse.elim
    | _ => exact gives_pure_bind (hrest (stands_keyword _))

theorem Spec.fills_synth (pos : Pos) : ∀ x : Spec, Gives (x.synth s pos) (Fills s x.landmarks)
  | .imported _ => gives_unsupported _ _
  | .value ns none [] => gives_pure_bind <| gives_pure ((fills_names ns).append accounts_nil)
  | .value ns (some t) [] => (Expr.stands_synth t).map fun _ ht => by
    have hnames := (fills_names ns).append ht.toAccounts
    rwa [← List.append_nil (_ ++ t.landmarks)] at hnames
  | .value ns none (v :: vs) =>
    gives_pure_bind <| (Expr.stands_synth v).bind fun _ hv => (Expr.allFill_synthList vs).map fun _ hvs =>
      (((fills_names ns).append accounts_nil).behind (stands_op "=").toAccounts).append
        (accounts_listed (.cons hv.fills hvs))
  | .value ns (some t) (v :: vs) =>
    (Expr.stands_synth t).bind fun _ ht => (Expr.stands_synth v).bind fun _ hv =>
      (Expr.allFill_synthList vs).map fun _ hvs =>
        (((fills_names ns).append ht.toAccounts).behind (stands_op "=").toAccounts).append
          (accounts_listed (.cons hv.fills hvs))
  | .type n false t =>
    (Expr.stands_synth t).map fun _ ht => (((stands_name n.name).behind accounts_nil).toAccounts.before ht).fills
  | .type n true t =>
    (Expr.stands_synth t).map fun _ ht =>
      (((stands_name n.name).behind (stands_op "=").toAccounts).toAccounts.before ht).fills

theorem Spec.allFill_synthList (pos : Pos) : ∀ xs : List Spec,
    Gives (Spec.synthList s pos xs) (AllFill s xs.length (Spec.listLandmarks xs))
  | [] => gives_pure .nil
  | x :: xs => (Spec.fills_synth pos x).bind fun _ hx => (Spec.allFill_synthList pos xs).map fun _ hxs => .cons hx hxs

end

/-- No chain in the answer for expressions is empty. -/
theorem Expr.nonempty_synthList : ∀ xs : List Expr, Gives (Expr.synthList s xs) fun cs => ∀ c ∈ cs, c ≠ []
  | [] => gives_pure fun _ hc => nomatch hc
  | x :: xs => (Expr.stands_synth s x).bind fun _ hx => (Expr.nonempty_synthList xs).map fun _ hxs =>
      List.forall_mem_cons.mpr ⟨hx.nonempty, hxs⟩

theorem FuncDecl.stands_synth : ∀ d : FuncDecl, Gives (d.synth s) (Stands s d.landmarks)
  | ⟨none, n, t, none, pos⟩ =>
    Gives.nested s pos <| gives_pure_bind <| (FuncType.stands_signature s t).bind fun _ ht => gives_pure_bind <|
      gives_pure (((((stands_keyword "Func").append accounts_nil).behind (stands_name n.name).toAccounts).append
        ht.toAccounts).append accounts_nil)
  | ⟨none, n, t, some b, pos⟩ =>
    Gives.nested s pos <| gives_pure_bind <| (FuncType.stands_signature s t).bind fun _ ht =>
      (Block.stands_synth s b).map fun _ hb =>
        ((((stands_keyword "Func").append accounts_nil).behind (stands_name n.name).toAccounts).append
          ht.toAccounts).append hb.toAccounts
  | ⟨some fs, n, t, none, pos⟩ =>
    Gives.nested s pos <| (Field.allFill_synthList s fs).bind fun _ hfs => gives_pure_bind <|
      (FuncType.stands_signature s t).bind fun _ ht => gives_pure_bind <|
        gives_pure (((((stands_keyword "Func").append (stands_parts hfs).toAccounts).behind
          (stands_name n.name).toAccounts).append ht.toAccounts).append accounts_nil)
  | ⟨some fs, n, t, some b, pos⟩ =>
    Gives.nested s pos <| (Field.allFill_synthList s fs).bind fun _ hfs => gives_pure_bind <|
      (FuncType.stands_signature s t).bind fun _ ht => (Block.stands_synth s b).map fun _ hb =>
        ((((stands_keyword "Func").append (stands_parts hfs).toAccounts).behind
          (stands_name n.name).toAccounts).append ht.toAccounts).append hb.toAccounts

end

/-! ## Requests -/

/-- The chains in an answer. -/
def Answer.all : Answer → List Chain
  | chain c => [c]
  | chains cs => cs
  | generator g => (g.map Generator.chain).toList

/-- The chains of an answer have the landmarks of what was asked for, and stand for something. -/
structure Request.Accounts (s : Scope) (r : Request) (a : Answer) : Prop where
  quals : a.all.flatMap Chain.quals = r.landmarks.filterMap (Landmark.qual? s.table)
  sizes : a.all.flatMap Chain.sizes = r.landmarks.filterMap Landmark.size?
  dense : AllNamed r.landmarks → ∀ c ∈ a.all, c.Dense
  nonempty : r ≠ .listed [] → ∀ c ∈ a.all, c ≠ []

theorem Stands.answers {r : Request} (h : Stands s r.landmarks c) : r.Accounts s (.chain c) where
  quals := by rw [Answer.all, List.flatMap_cons, List.flatMap_nil, List.append_nil, h.quals]
  sizes := by rw [Answer.all, List.flatMap_cons, List.flatMap_nil, List.append_nil, h.sizes]
  dense hr := List.forall_mem_singleton.mpr (h.dense hr)
  nonempty _ := List.forall_mem_singleton.mpr h.nonempty

theorem Stands.answers_decl {d : Decl} {name : String} {pos : Pos} (h : Stands s d.landmarks c) :
    (Request.decl d).Accounts s (.generator (some ⟨name, c, pos⟩)) := by
  have hchain : (Request.decl d).Accounts s (.chain c) := Stands.answers h
  exact ⟨hchain.quals, hchain.sizes, hchain.dense, hchain.nonempty⟩

theorem AllFill.answers {xs : List Expr} (h : AllFill s n (Expr.listLandmarks xs) cs) (hcs : ∀ c ∈ cs, c ≠ []) :
    (Request.exprs xs).Accounts s (.chains cs) :=
  ⟨h.quals, h.sizes, fun hr c hc => (h.dense hr c hc).2, fun _ => hcs⟩

/-- A list is only empty if it is one of nothing. -/
theorem AllFill.answers_listed {xs : List Expr} (h : AllFill s xs.length (Expr.listLandmarks xs) cs)
    (hcs : ∀ c ∈ cs, c ≠ []) : (Request.listed xs).Accounts s (.chain (listed cs)) := by
  have hlisted := accounts_listed h
  refine ⟨?_, ?_, fun hr => List.forall_mem_singleton.mpr (hlisted.dense hr), fun hr => ?_⟩
  · rw [Answer.all, List.flatMap_cons, List.flatMap_nil, List.append_nil, hlisted.quals]
    rfl
  · rw [Answer.all, List.flatMap_cons, List.flatMap_nil, List.append_nil, hlisted.sizes]
    rfl
  · refine List.forall_mem_singleton.mpr ?_
    unfold listed
    split
    · exact absurd (congrArg Request.listed (List.length_eq_zero_iff.mp h.length.symm)) hr
    · exact hcs _ List.mem_cons_self
    · exact List.cons_ne_nil _ _

theorem Synth.Gives.and {α : Type} {act : Synth α} {P Q : α → Prop} (hP : Gives act P) (hQ : Gives act Q) :
    Gives act fun a => P a ∧ Q a :=
  fun depth a depth' hrun => ⟨hP depth a depth' hrun, hQ depth a depth' hrun⟩

section
variable (s)

theorem Decl.accounts_synth (d : Decl) : Gives (d.synth s) fun g => (Request.decl d).Accounts s (.generator g) := by
  cases d with
  | gen d =>
    obtain ⟨tok, pos, grouped, specs⟩ := d
    have hchain := GenDecl.stands_synth s (.mk tok pos grouped specs)
    cases tok with
    | importTok =>
      apply gives_pure
      refine ⟨rfl, rfl, fun _ _ hc => ?_, fun _ _ hc => ?_⟩ <;> cases hc
    | _ => exact hchain.map fun _ hc => Stands.answers_decl hc
  | func d => exact (FuncDecl.stands_synth s d).map fun _ hc => Stands.answers_decl hc

/-- Whatever is asked for, the chains of the answer have its landmarks and stand for something. -/
theorem Request.accounts_run (r : Request) : Gives (r.run s) (r.Accounts s) := by
  cases r with
  | expr x | type x => exact (Expr.stands_synth s x).map fun _ hx => hx.answers
  | exprs xs => exact ((Expr.allFill_synthList s xs).and (Expr.nonempty_synthList s xs)).map fun _ h => h.1.answers h.2
  | listed xs =>
    have hxs := (Expr.allFill_synthList s xs).and (Expr.nonempty_synthList s xs)
    have hlisted : Gives (Expr.synthListed s xs) fun c => (Request.listed xs).Accounts s (.chain c) :=
      hxs.map fun _ h => h.1.answers_listed h.2
    exact hlisted.map fun _ h => h
  | signature t => exact (FuncType.stands_signature s t).map fun _ ht => ht.answers
  | stmt x => exact (Stmt.stands_synth s x).map fun _ hx => hx.answers
  | block b => exact (Block.stands_synth s b).map fun _ hb => hb.answers
  | gen d => exact (GenDecl.stands_synth s d).map fun _ hd => hd.answers
  | func d => exact (FuncDecl.stands_synth s d).map fun _ hd => hd.answers
  | decl d => exact (Decl.accounts_synth s d).map fun _ h => h

end

end GoRebuild
