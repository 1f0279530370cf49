import GoRebuild.Proofs.Tree.Moved
import GoRebuild.Tree.Encode

/-!
# Equality up to positions, and as JSON

* `Json.without`, `Json.Matches`, `Json.Alike` : two values match, whatever the order of members, once their positions
  are taken out;
* `Expr.encode_alike_iff`, `Stmt.encode_alike_iff`, `Decl.encode_alike_iff`, `File.encode_alike_iff` : trees are
  written as JSON that is alike exactly if they are the same without their positions, so no two constructors collide;
* `alike_up_to_positions` : `alike` is equality once every node is put at one place.
-/

namespace GoRebuild

namespace Json

/-! ## Values without a member -/

mutual

/-- A value without its members under a key, however deep. -/
def without (k : String) : Json → Json
  | null => null
  | bool b => bool b
  | int n => int n
  | decimal t => decimal t
  | str s => str s
  | arr vs => arr (withoutItems k vs)
  | obj ms => obj (withoutMembers k ms)

/-- Items without their members under a key. -/
def withoutItems (k : String) : List Json → List Json
  | [] => []
  | v :: vs => v.without k :: withoutItems k vs

/-- Members other than those under a key. -/
def withoutMembers (k : String) : List (String × Json) → List (String × Json)
  | [] => []
  | (k', v) :: ms => if k' = k then withoutMembers k ms else (k', v.without k) :: withoutMembers k ms

end

theorem lookup_eq_none {k : String} {ms : List (String × Json)} (h : k ∉ ms.map Prod.fst) : lookup k ms = none := by
  induction ms with
  | nil => rfl
  | cons m ms ih =>
    rw [List.map_cons, List.mem_cons, not_or] at h
    rw [lookup, ih h.2, if_neg (Ne.symm h.1)]

theorem lookup_withoutMembers {k k' : String} {ms : List (String × Json)} (hms : lookup k' ms = none) :
    lookup k' (withoutMembers k ms) = none := by
  induction ms with
  | nil => rfl
  | cons m ms ih =>
    obtain ⟨n, v⟩ := m
    rw [lookup] at hms
    cases hrest : lookup k' ms with
    | some w => rw [hrest] at hms; cases hms
    | none =>
      rw [hrest] at hms
      by_cases hn : n = k'
      · rw [if_pos hn] at hms; cases hms
      · rw [withoutMembers]
        split
        · exact ih hrest
        · rw [lookup, ih hrest, if_neg hn]

/-! ## Matching values -/

/-- Equal values, where members are compared by their keys and not in order. -/
inductive Matches : Json → Json → Prop where
  | null : Matches null null
  | bool (b : Bool) : Matches (bool b) (bool b)
  | int (n : Int) : Matches (int n) (int n)
  | decimal (t : String) : Matches (decimal t) (decimal t)
  | str (s : String) : Matches (str s) (str s)
  | arr {vs ws : List Json} (length : vs.length = ws.length)
      (items : ∀ (i : Nat) (v w : Json), vs[i]? = some v → ws[i]? = some w → Matches v w) : Matches (arr vs) (arr ws)
  | obj {ms ns : List (String × Json)} (keys : ∀ k, (lookup k ms).isSome = (lookup k ns).isSome)
      (members : ∀ (k : String) (v w : Json),
          lookup k ms = some v → lookup k ns = some w → Matches v w) : Matches (obj ms) (obj ns)

theorem matches_items_cons {v w : Json} {vs ws : List Json} :
    Matches (arr (v :: vs)) (arr (w :: ws)) ↔ Matches v w ∧ Matches (arr vs) (arr ws) := by
  constructor
  · rintro (_ | _ | _ | _ | _ | ⟨hlength, hitems⟩ | _)
    exact ⟨hitems 0 v w rfl rfl, .arr (Nat.succ.inj hlength) fun i => hitems (i + 1)⟩
  · rintro ⟨hv, _ | _ | _ | _ | _ | ⟨hlength, hitems⟩ | _⟩
    refine .arr (congrArg Nat.succ hlength) fun i => ?_
    cases i with
    | zero => intro a b ha hb; cases ha; cases hb; exact hv
    | succ i => exact hitems i

/-- A member whose key comes once is matched on its own. -/
theorem matches_members_cons {k : String} {v w : Json} {ms ns : List (String × Json)} (hms : lookup k ms = none)
    (hns : lookup k ns = none) :
    Matches (obj ((k, v) :: ms)) (obj ((k, w) :: ns)) ↔ Matches v w ∧ Matches (obj ms) (obj ns) := by
  have hhere (u : Json) {ls : List (String × Json)} (hls : lookup k ls = none) :
      lookup k ((k, u) :: ls) = some u := by
    rw [lookup, hls, if_pos rfl]
  have hthere (u : Json) {ls : List (String × Json)} {k' : String} (hk : k ≠ k') :
      lookup k' ((k, u) :: ls) = lookup k' ls := by
    rw [lookup, if_neg hk]
    cases lookup k' ls <;> rfl
  constructor
  · rintro (_ | _ | _ | _ | _ | _ | ⟨hkeys, hmembers⟩)
    refine ⟨hmembers k v w (hhere v hms) (hhere w hns), .obj (fun k' => ?_) fun k' a b ha hb => ?_⟩
    · by_cases hk : k = k'
      · rw [← hk, hms, hns]
      · have hsome := hkeys k'
        rwa [hthere v hk, hthere w hk] at hsome
    · have hk : k ≠ k' := by rintro rfl; rw [hms] at ha; cases ha
      exact hmembers k' a b ((hthere v hk).trans ha) ((hthere w hk).trans hb)
  · rintro ⟨hv, _ | _ | _ | _ | _ | _ | ⟨hkeys, hmembers⟩⟩
    refine .obj (fun k' => ?_) fun k' a b ha hb => ?_
    · by_cases hk : k = k'
      · rw [← hk, hhere v hms, hhere w hns]; rfl
      · rw [hthere v hk, hthere w hk, hkeys]
    · by_cases hk : k = k'
      · subst hk
        rw [hhere v hms] at ha
        rw [hhere w hns] at hb
        cases ha; cases hb
        exact hv
      · exact hmembers k' a b ((hthere v hk).symm.trans ha) ((hthere w hk).symm.trans hb)

/-! ## Values alike -/

/-- They match once every position is taken out. -/
def Alike (v w : Json) : Prop :=
  Matches (v.without "pos") (w.without "pos")

theorem alike_null_iff {v : Json} : Alike null v ↔ v = null := by
  constructor
  · intro h
    cases v with
    | null => rfl
    | _ => cases h
  · rintro rfl
    exact .null

theorem alike_iff_null {v : Json} : Alike v null ↔ v = null := by
  constructor
  · intro h
    cases v with
    | null => rfl
    | _ => cases h
  · rintro rfl
    exact .null

@[simp] theorem alike_bool {a b : Bool} : Alike (bool a) (bool b) ↔ a = b :=
  ⟨fun h => by cases h; rfl, fun h => h ▸ .bool a⟩

@[simp] theorem alike_str {s t : String} : Alike (str s) (str t) ↔ s = t :=
  ⟨fun h => by cases h; rfl, fun h => h ▸ .str s⟩

@[simp] theorem alike_nil : Alike (arr []) (arr []) :=
  .arr rfl nofun

@[simp] theorem not_alike_nil_cons {v : Json} {vs : List Json} : ¬ Alike (arr []) (arr (v :: vs)) := by
  rintro (_ | _ | _ | _ | _ | ⟨hlength, _⟩ | _)
  cases hlength

@[simp] theorem not_alike_cons_nil {v : Json} {vs : List Json} : ¬ Alike (arr (v :: vs)) (arr []) := by
  rintro (_ | _ | _ | _ | _ | ⟨hlength, _⟩ | _)
  cases hlength

@[simp] theorem alike_cons {v w : Json} {vs ws : List Json} :
    Alike (arr (v :: vs)) (arr (w :: ws)) ↔ Alike v w ∧ Alike (arr vs) (arr ws) :=
  matches_items_cons

@[simp] theorem alike_noMembers : Alike (obj []) (obj []) :=
  .obj (fun _ => rfl) nofun

@[simp] theorem alike_pos {v w : Json} {ms ns : List (String × Json)} :
    Alike (obj (("pos", v) :: ms)) (obj (("pos", w) :: ns)) ↔ Alike (obj ms) (obj ns) :=
  Iff.rfl

/-- Records are alike part by part. -/
theorem alike_members {k : String} {v w : Json} {ms ns : List (String × Json)} (hk : k ≠ "pos")
    (hms : k ∉ ms.map Prod.fst) (hns : k ∉ ns.map Prod.fst) :
    Alike (obj ((k, v) :: ms)) (obj ((k, w) :: ns)) ↔ Alike v w ∧ Alike (obj ms) (obj ns) := by
  rw [Alike, without, without, withoutMembers, withoutMembers, if_neg hk, if_neg hk,
    matches_members_cons (lookup_withoutMembers (lookup_eq_none hms))
      (lookup_withoutMembers (lookup_eq_none hns))]
  rfl

theorem alike_variant {n : String} {c d : Json} (hn : n ≠ "pos") : Alike (variant n c) (variant n d) ↔ Alike c d := by
  rw [variant, variant, alike_members hn List.not_mem_nil List.not_mem_nil, and_iff_left alike_noMembers]

theorem alike_fieldList {vs ws : List Json} : Alike (fieldList vs) (fieldList ws) ↔ Alike (arr vs) (arr ws) := by
  rw [fieldList, fieldList, alike_members (by decide) List.not_mem_nil List.not_mem_nil, and_iff_left alike_noMembers]

theorem alike_option {α β : Type} {f : α → Json} {g : α → β} (hf : ∀ a b, Alike (f a) (f b) ↔ g a = g b)
    (hnull : ∀ a, f a ≠ null) : ∀ a b : Option α, Alike (option f a) (option f b) ↔ a.map g = b.map g
  | none, none => iff_of_true .null rfl
  | none, some b => iff_of_false (fun h => hnull b (alike_null_iff.mp h)) nofun
  | some a, none => iff_of_false (fun h => hnull a (alike_iff_null.mp h)) nofun
  | some a, some b => by rw [option, option, hf, Option.map_some, Option.map_some, Option.some.injEq]

theorem alike_map {α β : Type} {f : α → Json} {g : α → β} (hf : ∀ a b, Alike (f a) (f b) ↔ g a = g b) :
    ∀ as bs : List α, Alike (arr (as.map f)) (arr (bs.map f)) ↔ as.map g = bs.map g
  | [], [] => iff_of_true alike_nil rfl
  | [], _ :: _ => iff_of_false not_alike_nil_cons nofun
  | _ :: _, [] => iff_of_false not_alike_cons_nil nofun
  | a :: as, b :: bs => by
    rw [List.map_cons, List.map_cons, alike_cons, hf, alike_map hf as bs, List.map_cons, List.map_cons,
        List.cons.injEq]

/-- A name alone, or the only key of an object. -/
inductive Tagged (n : String) : Json → Prop where
  | name : Tagged n (str n)
  | content (c : Json) : Tagged n (variant n c)

/-- Variants alike have one name. -/
theorem Tagged.eq_of_alike {n m : String} {v w : Json} (hv : Tagged n v) (hw : Tagged m w) (hn : n ≠ "pos")
    (hm : m ≠ "pos") (h : Alike v w) : n = m := by
  cases hv with
  | name =>
    cases hw with
    | name => exact alike_str.mp h
    | content d => cases h
  | content c =>
    cases hw with
    | name => cases h
    | content d =>
      simp only [Alike, variant, without, withoutMembers, if_neg hn, if_neg hm] at h
      obtain _ | _ | _ | _ | _ | _ | ⟨hkeys, _⟩ := h
      have hkey := hkeys n
      simp only [lookup, if_true] at hkey
      by_cases hnm : m = n
      · exact hnm.symm
      · rw [if_neg hnm] at hkey
        cases hkey

theorem alike_optionStr (a b : Option String) : Alike (option str a) (option str b) ↔ a = b := by
  have hiff := alike_option (f := str) (g := id) (fun _ _ => alike_str) (fun _ => nofun) a b
  rwa [Option.map_id, id, id] at hiff

end Json

open Json

/-! ## Leaves -/

theorem ImportName.encode_alike_iff : ∀ a b : ImportName, Alike a.encode b.encode ↔ a = b
  | named n, named m => by rw [encode, encode, alike_variant (by decide), alike_str, named.injEq]
  | dot, dot => iff_of_true (.str _) rfl
  | blank, blank => iff_of_true (.str _) rfl
  | named _, dot | named _, blank | dot, named _ | blank, named _ => iff_of_false nofun nofun
  | dot, blank | blank, dot => iff_of_false (by rw [encode, encode, alike_str]; decide) nofun

theorem DeclToken.encode_alike_iff (a b : DeclToken) : Alike a.encode b.encode ↔ a = b := by
  cases a <;> cases b <;> simp [encode]

theorem LitKind.encode_alike_iff (a b : LitKind) : Alike a.encode b.encode ↔ a = b := by
  cases a <;> cases b <;> simp [encode]

theorem ChanDir.encode_alike_iff (a b : ChanDir) : Alike a.encode b.encode ↔ a = b := by
  cases a <;> cases b <;> simp [encode]

theorem IncDec.encode_alike_iff (a b : IncDec) : Alike a.encode b.encode ↔ a = b := by
  cases a <;> cases b <;> simp [encode]

theorem BranchTok.encode_alike_iff (a b : BranchTok) : Alike a.encode b.encode ↔ a = b := by
  cases a <;> cases b <;> simp [encode]

theorem Ident.encode_alike_iff (a b : Ident) : Alike a.encode b.encode ↔ a.moved .nowhere = b.moved .nowhere := by
  simp [encode, moved, alike_members]

theorem ImportSpec.encode_alike_iff (a b : ImportSpec) :
    Alike a.encode b.encode ↔ a.moved .nowhere = b.moved .nowhere := by
  have hname := alike_option (g := id) ImportName.encode_alike_iff (by rintro ⟨⟩ <;> exact nofun) a.name b.name
  simp [encode, moved, alike_members, hname]

theorem BasicLit.encode_alike_iff (a b : BasicLit) : Alike a.encode b.encode ↔ a = b := by
  cases a
  cases b
  simp [encode, alike_members, LitKind.encode_alike_iff]

theorem Json.alike_optionIdent (a b : Option Ident) : Alike (option Ident.encode a) (option Ident.encode b) ↔
    a.map (Ident.moved .nowhere) = b.map (Ident.moved .nowhere) :=
  alike_option Ident.encode_alike_iff (fun _ => nofun) a b

theorem Json.alike_optionLit (a b : Option BasicLit) :
    Alike (option BasicLit.encode a) (option BasicLit.encode b) ↔ a = b := by
  rw [alike_option (g := id) BasicLit.encode_alike_iff (fun _ => nofun), Option.map_id, id, id]

/-! ## Trees -/

/-- The names under which the kinds of expressions are written, in the order of their constructors. -/
def ExprKind.variants : List String :=
  ["Bad", "Ident", "Ellipsis", "BasicLit", "FuncLit", "CompositeLit", "Paren", "Selector", "Index", "Slice",
    "TypeAssert", "Call", "Star", "Unary", "Binary", "KeyValue", "ArrayType", "StructType", "FuncType",
    "InterfaceType", "MapType", "ChanType"]

theorem ExprKind.tagged (k : ExprKind) : ∃ n, variants[k.ctorIdx]? = some n ∧ Tagged n k.encode := by
  cases k <;> exact ⟨_, rfl, by constructor⟩

theorem ExprKind.ctorIdx_of_alike {a b : ExprKind} (h : Alike a.encode b.encode) : a.ctorIdx = b.ctorIdx := by
  have hnodup : variants.Nodup := by decide +kernel
  have hpos : ∀ n ∈ variants, n ≠ "pos" := by decide +kernel
  obtain ⟨n, hn, ha⟩ := a.tagged
  obtain ⟨m, hm, hb⟩ := b.tagged
  have hname := ha.eq_of_alike hb (hpos n (List.mem_of_getElem? hn)) (hpos m (List.mem_of_getElem? hm)) h
  subst hname
  exact (List.getElem?_inj (List.getElem?_eq_some_iff.mp hn).1 hnodup).mp (hn.trans hm.symm)

/-- Two kinds by different constructors differ, and so does their JSON. -/
theorem ExprKind.encode_alike_iff_of_paired {a : ExprKind}
    (h : ∀ b, Paired a b → (Alike a.encode b.encode ↔ a.moved .nowhere = b.moved .nowhere)) (b : ExprKind) :
    Alike a.encode b.encode ↔ a.moved .nowhere = b.moved .nowhere := by
  by_cases hc : a.ctorIdx = b.ctorIdx
  · exact h b (paired hc)
  · refine iff_of_false (hc ∘ ctorIdx_of_alike) fun hm => hc ?_
    rw [← ctorIdx_moved .nowhere a, hm, ctorIdx_moved]

/-- The names under which the kinds of statements are written, in the order of their constructors. -/
def StmtKind.variants : List String :=
  ["Bad", "Decl", "Empty", "Labeled", "Expr", "Send", "IncDec", "Assign", "Go", "Defer", "Return", "Branch",
    "Block", "If", "CaseClause", "Switch", "TypeSwitch", "CommClause", "Select", "For", "Range"]

theorem StmtKind.tagged (k : StmtKind) : ∃ n, variants[k.ctorIdx]? = some n ∧ Tagged n k.encode := by
  cases k <;> exact ⟨_, rfl, by constructor⟩

theorem StmtKind.ctorIdx_of_alike {a b : StmtKind} (h : Alike a.encode b.encode) : a.ctorIdx = b.ctorIdx := by
  have hnodup : variants.Nodup := by decide +kernel
  have hpos : ∀ n ∈ variants, n ≠ "pos" := by decide +kernel
  obtain ⟨n, hn, ha⟩ := a.tagged
  obtain ⟨m, hm, hb⟩ := b.tagged
  have hname := ha.eq_of_alike hb (hpos n (List.mem_of_getElem? hn)) (hpos m (List.mem_of_getElem? hm)) h
  subst hname
  exact (List.getElem?_inj (List.getElem?_eq_some_iff.mp hn).1 hnodup).mp (hn.trans hm.symm)

/-- Two kinds by different constructors differ, and so does their JSON. -/
theorem StmtKind.encode_alike_iff_of_paired {a : StmtKind}
    (h : ∀ b, Paired a b → (Alike a.encode b.encode ↔ a.moved .nowhere = b.moved .nowhere)) (b : StmtKind) :
    Alike a.encode b.encode ↔ a.moved .nowhere = b.moved .nowhere := by
  by_cases hc : a.ctorIdx = b.ctorIdx
  · exact h b (paired hc)
  · refine iff_of_false (hc ∘ ctorIdx_of_alike) fun hm => hc ?_
    rw [← ctorIdx_moved .nowhere a, hm, ctorIdx_moved]

theorem Expr.encode_ne_null (x : Expr) : x.encode ≠ null := by
  cases x
  simp [Expr.encode]

theorem Stmt.encode_ne_null (x : Stmt) : x.encode ≠ null := by
  cases x
  simp [Stmt.encode]

mutual

theorem Expr.encode_alike_iff : ∀ a b : Expr, Alike a.encode b.encode ↔ a.moved .nowhere = b.moved .nowhere
  | .mk k _, .mk k' _ => by simp [Expr.encode, Expr.moved, alike_members, ExprKind.encode_alike_iff k k']
termination_by structural a => a

theorem ExprKind.encode_alike_iff : ∀ a b : ExprKind, Alike a.encode b.encode ↔ a.moved .nowhere = b.moved .nowhere
  | .bad k => ExprKind.encode_alike_iff_of_paired fun _ h => by
    cases h with
    | bad _ k' => simp [ExprKind.encode, ExprKind.moved, alike_variant, alike_members]
  | .ident n => ExprKind.encode_alike_iff_of_paired fun _ h => by
    cases h with
    | ident _ n' => simp [ExprKind.encode, ExprKind.moved, alike_variant]
  | .ellipsis e => ExprKind.encode_alike_iff_of_paired fun _ h => by
    cases h with
    | ellipsis _ e' => simp [ExprKind.encode, ExprKind.moved, alike_variant, Expr.encodeOption_alike_iff e e']
  | .basicLit l => ExprKind.encode_alike_iff_of_paired fun _ h => by
    cases h with
    | basicLit _ l' => simp [ExprKind.encode, ExprKind.moved, alike_variant, BasicLit.encode_alike_iff]
  | .funcLit t b => ExprKind.encode_alike_iff_of_paired fun _ h => by
    cases h with
    | funcLit _ _ t' b' => simp [ExprKind.encode, ExprKind.moved, alike_variant, alike_members,
        FuncType.encode_alike_iff t t', Block.encode_alike_iff b b']
  | .compositeLit t es => ExprKind.encode_alike_iff_of_paired fun _ h => by
    cases h with
    | compositeLit _ _ t' es' => simp [ExprKind.encode, ExprKind.moved, alike_variant, alike_members,
        Expr.encodeOption_alike_iff t t', Expr.encodeList_alike_iff es es']
  | .paren x => ExprKind.encode_alike_iff_of_paired fun _ h => by
    cases h with
    | paren _ x' => simp [ExprKind.encode, ExprKind.moved, alike_variant, Expr.encode_alike_iff x x']
  | .selector x s => ExprKind.encode_alike_iff_of_paired fun _ h => by
    cases h with
    | selector _ _ x' s' => simp [ExprKind.encode, ExprKind.moved, alike_variant, alike_members,
        Expr.encode_alike_iff x x', Ident.encode_alike_iff]
  | .index x i => ExprKind.encode_alike_iff_of_paired fun _ h => by
    cases h with
    | index _ _ x' i' => simp [ExprKind.encode, ExprKind.moved, alike_variant, alike_members,
        Expr.encode_alike_iff x x', Expr.encode_alike_iff i i']
  | .slice x l h m s3 => ExprKind.encode_alike_iff_of_paired fun _ h => by
    cases h with
    | slice _ _ _ _ _ x' l' h' m' s3' => simp [ExprKind.encode, ExprKind.moved, alike_variant, alike_members,
        Expr.encode_alike_iff x x', Expr.encodeOption_alike_iff l l', Expr.encodeOption_alike_iff h h', Expr.encodeOption_alike_iff m m']
  | .typeAssert x t => ExprKind.encode_alike_iff_of_paired fun _ h => by
    cases h with
    | typeAssert _ _ x' t' => simp [ExprKind.encode, ExprKind.moved, alike_variant, alike_members,
        Expr.encode_alike_iff x x', Expr.encodeOption_alike_iff t t']
  | .call f as e => ExprKind.encode_alike_iff_of_paired fun _ h => by
    cases h with
    | call _ _ _ f' as' e' => simp [ExprKind.encode, ExprKind.moved, alike_variant, alike_members,
        Expr.encode_alike_iff f f', Expr.encodeList_alike_iff as as']
  | .star x => ExprKind.encode_alike_iff_of_paired fun _ h => by
    cases h with
    | star _ x' => simp [ExprKind.encode, ExprKind.moved, alike_variant, Expr.encode_alike_iff x x']
  | .unary op x => ExprKind.encode_alike_iff_of_paired fun _ h => by
    cases h with
    | unary _ _ op' x' => simp [ExprKind.encode, ExprKind.moved, alike_variant, alike_members,
        Expr.encode_alike_iff x x']
  | .binary x op y => ExprKind.encode_alike_iff_of_paired fun _ h => by
    cases h with
    | binary _ _ _ x' op' y' => simp [ExprKind.encode, ExprKind.moved, alike_variant, alike_members,
        Expr.encode_alike_iff x x', Expr.encode_alike_iff y y']
  | .keyValue k v => ExprKind.encode_alike_iff_of_paired fun _ h => by
    cases h with
    | keyValue _ _ k' v' => simp [ExprKind.encode, ExprKind.moved, alike_variant, alike_members,
        Expr.encode_alike_iff k k', Expr.encode_alike_iff v v']
  | .arrayType n t => ExprKind.encode_alike_iff_of_paired fun _ h => by
    cases h with
    | arrayType _ _ n' t' => simp [ExprKind.encode, ExprKind.moved, alike_variant, alike_members,
        Expr.encodeOption_alike_iff n n', Expr.encode_alike_iff t t']
  | .structType fs => ExprKind.encode_alike_iff_of_paired fun _ h => by
    cases h with
    | structType _ fs' => simp [ExprKind.encode, ExprKind.moved, alike_variant, Field.encodeList_alike_iff fs fs',
        alike_fieldList]
  | .funcType t => ExprKind.encode_alike_iff_of_paired fun _ h => by
    cases h with
    | funcType _ t' => simp [ExprKind.encode, ExprKind.moved, alike_variant, FuncType.encode_alike_iff t t']
  | .interfaceType ms => ExprKind.encode_alike_iff_of_paired fun _ h => by
    cases h with
    | interfaceType _ ms' => simp [ExprKind.encode, ExprKind.moved, alike_variant,
        Field.encodeList_alike_iff ms ms', alike_fieldList]
  | .mapType k v => ExprKind.encode_alike_iff_of_paired fun _ h => by
    cases h with
    | mapType _ _ k' v' => simp [ExprKind.encode, ExprKind.moved, alike_variant, alike_members,
        Expr.encode_alike_iff k k', Expr.encode_alike_iff v v']
  | .chanType d v => ExprKind.encode_alike_iff_of_paired fun _ h => by
    cases h with
    | chanType _ _ d' v' => simp [ExprKind.encode, ExprKind.moved, alike_variant, alike_members,
        ChanDir.encode_alike_iff, Expr.encode_alike_iff v v']
termination_by structural a => a

theorem Expr.encodeOption_alike_iff : ∀ a b : Option Expr,
    Alike (Expr.encodeOption a) (Expr.encodeOption b) ↔ Expr.movedOption .nowhere a = Expr.movedOption .nowhere b
  | none, none => iff_of_true .null rfl
  | none, some y => iff_of_false (fun h => Expr.encode_ne_null y (alike_null_iff.mp h)) nofun
  | some x, none => iff_of_false (fun h => Expr.encode_ne_null x (alike_iff_null.mp h)) nofun
  | some x, some y => by simp [Expr.encodeOption, Expr.movedOption, Expr.encode_alike_iff x y]
termination_by structural a => a

theorem Expr.encodeList_alike_iff : ∀ a b : List Expr,
    Alike (arr (Expr.encodeList a)) (arr (Expr.encodeList b)) ↔ Expr.movedList .nowhere a = Expr.movedList .nowhere b
  | [], [] => iff_of_true alike_nil rfl
  | [], _ :: _ => iff_of_false not_alike_nil_cons nofun
  | _ :: _, [] => iff_of_false not_alike_cons_nil nofun
  | x :: xs, y :: ys => by
    simp [Expr.encodeList, Expr.movedList, Expr.encode_alike_iff x y, Expr.encodeList_alike_iff xs ys]
termination_by structural a => a

theorem FuncType.encode_alike_iff : ∀ a b : FuncType, Alike a.encode b.encode ↔ a.moved .nowhere = b.moved .nowhere
  | .mk ps rs, .mk ps' rs' => by
    simp [FuncType.encode, FuncType.moved, alike_members, alike_fieldList, Field.encodeList_alike_iff ps ps',
      Field.encodeResults_alike_iff rs rs']
termination_by structural a => a

theorem Field.encodeResults_alike_iff : ∀ a b : Option (List Field), Alike (Field.encodeResults a)
    (Field.encodeResults b) ↔ Field.movedResults .nowhere a = Field.movedResults .nowhere b
  | none, none => iff_of_true .null rfl
  | none, some _ => iff_of_false (fun h => nomatch alike_null_iff.mp h) nofun
  | some _, none => iff_of_false (fun h => nomatch alike_iff_null.mp h) nofun
  | some fs, some gs => by
    simp [Field.encodeResults, Field.movedResults, alike_fieldList, Field.encodeList_alike_iff fs gs]
termination_by structural a => a

theorem Field.encode_alike_iff : ∀ a b : Field, Alike a.encode b.encode ↔ a.moved .nowhere = b.moved .nowhere
  | .mk ns t tag, .mk ns' t' tag' => by
    simp [Field.encode, Field.moved, alike_members, alike_map Ident.encode_alike_iff, Expr.encode_alike_iff t t',
      alike_optionLit]
termination_by structural a => a

theorem Field.encodeList_alike_iff : ∀ a b : List Field,
    Alike (arr (Field.encodeList a)) (arr (Field.encodeList b)) ↔ Field.movedList .nowhere a = Field.movedList .nowhere b
  | [], [] => iff_of_true alike_nil rfl
  | [], _ :: _ => iff_of_false not_alike_nil_cons nofun
  | _ :: _, [] => iff_of_false not_alike_cons_nil nofun
  | x :: xs, y :: ys => by
    simp [Field.encodeList, Field.movedList, Field.encode_alike_iff x y, Field.encodeList_alike_iff xs ys]
termination_by structural a => a

theorem Block.encode_alike_iff : ∀ a b : Block, Alike a.encode b.encode ↔ a.moved .nowhere = b.moved .nowhere
  | .mk ss _, .mk ss' _ => by simp [Block.encode, Block.moved, alike_members, Stmt.encodeList_alike_iff ss ss']
termination_by structural a => a

theorem Stmt.encode_alike_iff : ∀ a b : Stmt, Alike a.encode b.encode ↔ a.moved .nowhere = b.moved .nowhere
  | .mk k _, .mk k' _ => by simp [Stmt.encode, Stmt.moved, alike_members, StmtKind.encode_alike_iff k k']
termination_by structural a => a

theorem Stmt.encodeOption_alike_iff : ∀ a b : Option Stmt,
    Alike (Stmt.encodeOption a) (Stmt.encodeOption b) ↔ Stmt.movedOption .nowhere a = Stmt.movedOption .nowhere b
  | none, none => iff_of_true .null rfl
  | none, some y => iff_of_false (fun h => Stmt.encode_ne_null y (alike_null_iff.mp h)) nofun
  | some x, none => iff_of_false (fun h => Stmt.encode_ne_null x (alike_iff_null.mp h)) nofun
  | some x, some y => by simp [Stmt.encodeOption, Stmt.movedOption, Stmt.encode_alike_iff x y]
termination_by structural a => a

theorem Stmt.encodeList_alike_iff : ∀ a b : List Stmt,
    Alike (arr (Stmt.encodeList a)) (arr (Stmt.encodeList b)) ↔ Stmt.movedList .nowhere a = Stmt.movedList .nowhere b
  | [], [] => iff_of_true alike_nil rfl
  | [], _ :: _ => iff_of_false not_alike_nil_cons nofun
  | _ :: _, [] => iff_of_false not_alike_cons_nil nofun
  | x :: xs, y :: ys => by
    simp [Stmt.encodeList, Stmt.movedList, Stmt.encode_alike_iff x y, Stmt.encodeList_alike_iff xs ys]
termination_by structural a => a

theorem StmtKind.encode_alike_iff : ∀ a b : StmtKind, Alike a.encode b.encode ↔ a.moved .nowhere = b.moved .nowhere
  | .bad k => StmtKind.encode_alike_iff_of_paired fun _ h => by
    cases h with
    | bad _ k' => simp [StmtKind.encode, StmtKind.moved, alike_variant, alike_members]
  | .decl d => StmtKind.encode_alike_iff_of_paired fun _ h => by
    cases h with
    | decl _ d' => simp [StmtKind.encode, StmtKind.moved, alike_variant, GenDecl.encode_alike_iff d d']
  | .empty => StmtKind.encode_alike_iff_of_paired fun _ h => by
    cases h with
    | empty => simp [StmtKind.encode, StmtKind.moved]
  | .labeled l s => StmtKind.encode_alike_iff_of_paired fun _ h => by
    cases h with
    | labeled _ _ l' s' => simp [StmtKind.encode, StmtKind.moved, alike_variant, alike_members,
        Ident.encode_alike_iff, Stmt.encode_alike_iff s s']
  | .expr x => StmtKind.encode_alike_iff_of_paired fun _ h => by
    cases h with
    | expr _ x' => simp [StmtKind.encode, StmtKind.moved, alike_variant, Expr.encode_alike_iff x x']
  | .send c v => StmtKind.encode_alike_iff_of_paired fun _ h => by
    cases h with
    | send _ _ c' v' => simp [StmtKind.encode, StmtKind.moved, alike_variant, alike_members,
        Expr.encode_alike_iff c c', Expr.encode_alike_iff v v']
  | .incDec x t => StmtKind.encode_alike_iff_of_paired fun _ h => by
    cases h with
    | incDec _ _ x' t' => simp [StmtKind.encode, StmtKind.moved, alike_variant, alike_members,
        Expr.encode_alike_iff x x', IncDec.encode_alike_iff]
  | .assign l t r => StmtKind.encode_alike_iff_of_paired fun _ h => by
    cases h with
    | assign _ _ _ l' t' r' => simp [StmtKind.encode, StmtKind.moved, alike_variant, alike_members,
        Expr.encodeList_alike_iff l l', Expr.encodeList_alike_iff r r']
  | .goStmt c => StmtKind.encode_alike_iff_of_paired fun _ h => by
    cases h with
    | goStmt _ c' => simp [StmtKind.encode, StmtKind.moved, alike_variant, Expr.encode_alike_iff c c']
  | .deferStmt c => StmtKind.encode_alike_iff_of_paired fun _ h => by
    cases h with
    | deferStmt _ c' => simp [StmtKind.encode, StmtKind.moved, alike_variant, Expr.encode_alike_iff c c']
  | .returnStmt rs => StmtKind.encode_alike_iff_of_paired fun _ h => by
    cases h with
    | returnStmt _ rs' => simp [StmtKind.encode, StmtKind.moved, alike_variant, Expr.encodeList_alike_iff rs rs']
  | .branch t l => StmtKind.encode_alike_iff_of_paired fun _ h => by
    cases h with
    | branch _ _ t' l' => simp [StmtKind.encode, StmtKind.moved, alike_variant, alike_members,
        BranchTok.encode_alike_iff, alike_optionIdent]
  | .block b => StmtKind.encode_alike_iff_of_paired fun _ h => by
    cases h with
    | block _ b' => simp [StmtKind.encode, StmtKind.moved, alike_variant, Block.encode_alike_iff b b']
  | .ifStmt i c b e => StmtKind.encode_alike_iff_of_paired fun _ h => by
    cases h with
    | ifStmt _ _ _ _ i' c' b' e' => simp [StmtKind.encode, StmtKind.moved, alike_variant, alike_members,
        Stmt.encodeOption_alike_iff i i', Expr.encode_alike_iff c c', Block.encode_alike_iff b b', Stmt.encodeOption_alike_iff e e']
  | .caseClause l b => StmtKind.encode_alike_iff_of_paired fun _ h => by
    cases h with
    | caseClause _ _ l' b' => simp [StmtKind.encode, StmtKind.moved, alike_variant, alike_members,
        Expr.encodeList_alike_iff l l', Stmt.encodeList_alike_iff b b']
  | .switchStmt i t b => StmtKind.encode_alike_iff_of_paired fun _ h => by
    cases h with
    | switchStmt _ _ _ i' t' b' => simp [StmtKind.encode, StmtKind.moved, alike_variant, alike_members,
        Stmt.encodeOption_alike_iff i i', Expr.encodeOption_alike_iff t t', Block.encode_alike_iff b b']
  | .typeSwitch i a b => StmtKind.encode_alike_iff_of_paired fun _ h => by
    cases h with
    | typeSwitch _ _ _ i' a' b' => simp [StmtKind.encode, StmtKind.moved, alike_variant, alike_members,
        Stmt.encodeOption_alike_iff i i', Stmt.encode_alike_iff a a', Block.encode_alike_iff b b']
  | .commClause c b => StmtKind.encode_alike_iff_of_paired fun _ h => by
    cases h with
    | commClause _ _ c' b' => simp [StmtKind.encode, StmtKind.moved, alike_variant, alike_members,
        Stmt.encodeOption_alike_iff c c', Stmt.encodeList_alike_iff b b']
  | .selectStmt b => StmtKind.encode_alike_iff_of_paired fun _ h => by
    cases h with
    | selectStmt _ b' => simp [StmtKind.encode, StmtKind.moved, alike_variant, alike_members,
        Block.encode_alike_iff b b']
  | .forStmt i c p b => StmtKind.encode_alike_iff_of_paired fun _ h => by
    cases h with
    | forStmt _ _ _ _ i' c' p' b' => simp [StmtKind.encode, StmtKind.moved, alike_variant, alike_members,
        Stmt.encodeOption_alike_iff i i', Expr.encodeOption_alike_iff c c', Stmt.encodeOption_alike_iff p p', Block.encode_alike_iff b b']
  | .rangeStmt k v t x b => StmtKind.encode_alike_iff_of_paired fun _ h => by
    cases h with
    | rangeStmt _ _ _ _ _ k' v' t' x' b' => simp [StmtKind.encode, StmtKind.moved, alike_variant, alike_members,
        Expr.encodeOption_alike_iff k k', Expr.encodeOption_alike_iff v v', Expr.encode_alike_iff x x', Block.encode_alike_iff b b', alike_optionStr]
termination_by structural a => a

theorem GenDecl.encode_alike_iff : ∀ a b : GenDecl, Alike a.encode b.encode ↔ a.moved .nowhere = b.moved .nowhere
  | .mk _ _ _ ss, .mk _ _ _ ss' => by
    simp [GenDecl.encode, GenDecl.moved, alike_members, DeclToken.encode_alike_iff, Spec.encodeList_alike_iff ss ss']
termination_by structural a => a

theorem Spec.encode_alike_iff : ∀ a b : Spec, Alike a.encode b.encode ↔ a.moved .nowhere = b.moved .nowhere
  | .imported i, .imported i' => by
    simp [Spec.encode, Spec.moved, alike_variant, ImportSpec.encode_alike_iff]
  | .value ns t vs, .value ns' t' vs' => by
    simp [Spec.encode, Spec.moved, alike_variant, alike_members, alike_map Ident.encode_alike_iff,
      Expr.encodeOption_alike_iff t t', Expr.encodeList_alike_iff vs vs']
  | .type n a t, .type n' a' t' => by
    simp [Spec.encode, Spec.moved, alike_variant, alike_members, Ident.encode_alike_iff, Expr.encode_alike_iff t t']
  | .imported _, .value _ _ _ | .imported _, .type _ _ _ | .value _ _ _, .imported _ | .value _ _ _, .type _ _ _
  | .type _ _ _, .imported _ | .type _ _ _, .value _ _ _ =>
    iff_of_false (fun h => absurd ((Tagged.content _).eq_of_alike (.content _) (by decide) (by decide) h) (by decide))
      nofun
termination_by structural a => a

theorem Spec.encodeList_alike_iff : ∀ a b : List Spec,
    Alike (arr (Spec.encodeList a)) (arr (Spec.encodeList b)) ↔ Spec.movedList .nowhere a = Spec.movedList .nowhere b
  | [], [] => iff_of_true alike_nil rfl
  | [], _ :: _ => iff_of_false not_alike_nil_cons nofun
  | _ :: _, [] => iff_of_false not_alike_cons_nil nofun
  | x :: xs, y :: ys => by
    simp [Spec.encodeList, Spec.movedList, Spec.encode_alike_iff x y, Spec.encodeList_alike_iff xs ys]
termination_by structural a => a

end

theorem FuncDecl.encode_alike_iff (a b : FuncDecl) :
    Alike a.encode b.encode ↔ a.moved .nowhere = b.moved .nowhere := by
  have hbody := alike_option Block.encode_alike_iff (by rintro ⟨⟩; exact nofun) a.body b.body
  simp [encode, moved, alike_members, Field.encodeResults_alike_iff, Ident.encode_alike_iff, FuncType.encode_alike_iff,
    hbody]

theorem Decl.encode_alike_iff : ∀ a b : Decl, Alike a.encode b.encode ↔ a.moved .nowhere = b.moved .nowhere
  | gen d, gen d' => by simp [encode, moved, alike_variant, GenDecl.encode_alike_iff]
  | func d, func d' => by simp [encode, moved, alike_variant, FuncDecl.encode_alike_iff]
  | gen _, func _ | func _, gen _ =>
    iff_of_false (fun h => absurd ((Tagged.content _).eq_of_alike (.content _) (by decide) (by decide) h) (by decide))
      nofun

theorem File.encode_alike_iff (a b : File) : Alike a.encode b.encode ↔ a.moved .nowhere = b.moved .nowhere := by
  simp [encode, moved, alike_members, Ident.encode_alike_iff, alike_map ImportSpec.encode_alike_iff,
    alike_map Decl.encode_alike_iff]

/-! ## Equality up to positions -/

/-- What it is for `alike` to be equality up to positions. -/
structure UpToPositions {α : Type} (alike same : α → α → Bool) (moved : (Pos → Pos) → α → α) (encode : α → Json) :
    Prop where
  /-- Equality is that of trees. -/
  same_iff : ∀ a b, same a b = true ↔ a = b
  /-- Trees are alike exactly if they are equal once all their nodes stand at one place, whichever it is. -/
  placed : ∀ q a b, alike a b = true ↔ same (moved (fun _ => q) a) (moved (fun _ => q) b) = true
  /-- Trees are alike exactly if their JSON matches without its positions. -/
  json : ∀ a b, alike a b = true ↔ ((encode a).without "pos").Matches ((encode b).without "pos")
  equivalence : Equivalence fun a b => alike a b = true
  of_same : ∀ a b, same a b = true → alike a b = true
  /-- It does not matter where the nodes stand. -/
  moves : ∀ g h a b, alike (moved g a) (moved h b) = alike a b
  /-- Anything that is read off trees without their positions tells no two trees apart that are alike: a name, an
  operator, a literal, a direction, a flag, whether an optional child is there, how many children there are and in
  which order. -/
  differ : ∀ {β : Type} (observe : α → β), (∀ q a, observe (moved (fun _ => q) a) = observe a) → ∀ a b,
    observe a ≠ observe b → alike a b = false

/-- What follows if the test of positions is the only thing that `alike` and `same` do not share. -/
theorem upToPositions {α : Type} {sameBy : (Pos → Pos → Bool) → α → α → Bool} {moved : (Pos → Pos) → α → α}
    {encode : α → Json}
    (hsame : ∀ {p : Pos → Pos → Bool} {g : Pos → Pos}, (∀ x y, p x y = true ↔ g x = g y) → ∀ a b,
      sameBy p a b = true ↔ moved g a = moved g b)
    (hmoved : ∀ g h a, moved h (moved g a) = moved (h ∘ g) a) (hid : ∀ a, moved id a = a)
    (hjson : ∀ a b, Alike (encode a) (encode b) ↔ moved .nowhere a = moved .nowhere b) :
    UpToPositions (sameBy fun _ _ => true) (sameBy (· == ·)) moved encode := by
  have halike (q : Pos) (a b : α) :
      sameBy (fun _ _ => true) a b = true ↔ moved (fun _ => q) a = moved (fun _ => q) b :=
    hsame (fun _ _ => iff_of_true rfl rfl) a b
  have heq (a b : α) : sameBy (· == ·) a b = true ↔ a = b := by
    have h := hsame (p := (· == ·)) (g := id) (fun _ _ => beq_iff_eq) a b
    rwa [hid, hid] at h
  refine ⟨heq, fun q a b => ?_, fun a b => ?_, ⟨fun a => ?_, fun h => ?_, fun h h' => ?_⟩, fun a b h => ?_,
    fun g h a b => ?_, fun observe hobserve a b hab => ?_⟩
  · rw [halike q, heq]
  · rw [halike .none]
    exact (hjson a b).symm
  · exact (halike .none a a).mpr rfl
  · exact (halike .none _ _).mpr ((halike .none _ _).mp h).symm
  · exact (halike .none _ _).mpr (((halike .none _ _).mp h).trans ((halike .none _ _).mp h'))
  · rw [(heq a b).mp h]
    exact (halike .none b b).mpr rfl
  · rw [Bool.eq_iff_iff, halike .none, halike .none, hmoved, hmoved]
    rfl
  · refine Bool.eq_false_iff.mpr fun h => hab ?_
    rw [← hobserve .none a, (halike .none a b).mp h, hobserve]

/-- **`alike` is equality up to positions**, of files, declarations, statements and expressions: moving the nodes makes no
difference to it, it holds exactly between the JSON of two trees without their positions, and with all positions alike the
trees are equal. -/
theorem alike_up_to_positions :
    UpToPositions File.alike File.same File.moved File.encode ∧
      UpToPositions Decl.alike Decl.same Decl.moved Decl.encode ∧
      UpToPositions Stmt.alike Stmt.same Stmt.moved Stmt.encode ∧
      UpToPositions Expr.alike Expr.same Expr.moved Expr.encode :=
  ⟨upToPositions File.sameBy_iff File.moved_moved File.moved_id File.encode_alike_iff,
    upToPositions Decl.sameBy_iff Decl.moved_moved Decl.moved_id Decl.encode_alike_iff,
    upToPositions Stmt.sameBy_iff Stmt.moved_moved Stmt.moved_id Stmt.encode_alike_iff,
    upToPositions Expr.sameBy_iff Expr.moved_moved Expr.moved_id Expr.encode_alike_iff⟩

end GoRebuild
