import GoRebuild.Proofs.Json.Reads

/-!
# Trees from their JSON

The decoder of each kind of node gives the node for its encoding, also where fields are added or left out: one lemma per
kind, and one case per constructor (`Json.ReadsAs`). The decoders bound the nesting of a value by a number that falls with
every level, and so the lemmas hold of any number above the depth of the value.

* `Expr.reads`, `ExprKind.reads`, `Stmt.reads`, `StmtKind.reads`, `GenDecl.reads`, `Spec.reads` : nodes inside each other;
* `Expr.reads_decode`, `Stmt.reads_decode` : the same with the depth of the value itself as the bound;
* `Decl.reads`, `File.reads` : declarations and files.
-/

namespace GoRebuild
open Json

/-! ## Records and names -/

theorem Pos.reads (p : Pos) : ReadsAs (fun _ => Pos.decode?) p.encode p :=
  .record fun _ _ h => by
    obtain ⟨_, ho, ho'⟩ := h.needed (reads_uint32 p.offset) "offset" rfl
    obtain ⟨_, hl, hl'⟩ := h.needed (reads_uint32 p.line) "line" rfl
    obtain ⟨_, hc, hc'⟩ := h.needed (reads_uint32 p.column) "column" rfl
    simp [Pos.decode?, ho, hl, hc, ho', hl', hc']

theorem Ident.reads (i : Ident) : ReadsAs (fun _ => Ident.decode?) i.encode i :=
  .record fun _ _ h => by
    obtain ⟨_, hn, hn'⟩ := h.needed (reads_text i.name) "name" rfl
    obtain ⟨_, hp, hp'⟩ := h.needed i.pos.reads "pos" rfl
    simp [Ident.decode?, hn, hp, hn', hp']

theorem ImportName.reads : ∀ n : ImportName, ReadsAs (fun _ => ImportName.decode?) n.encode n
  | .named n => .newtype rfl (reads_text n) fun _ _ hd => congrArg (Option.map ImportName.named) hd
  | .dot => .str fun _ => rfl
  | .blank => .str fun _ => rfl

theorem ImportSpec.reads (s : ImportSpec) : ReadsAs (fun _ => ImportSpec.decode?) s.encode s :=
  .record fun _ _ h => by
    have hn := h.optional (.of_option ImportName.reads s.name) "name" rfl
    obtain ⟨_, hp, hp'⟩ := h.needed (reads_text s.path) "path" rfl
    obtain ⟨_, hq, hq'⟩ := h.needed s.pos.reads "pos" rfl
    simp [ImportSpec.decode?, hn, hp, hq, hp', hq']

theorem DeclToken.reads (t : DeclToken) : ReadsAs (fun _ => DeclToken.decode?) t.encode t := by
  cases t <;> exact .str fun _ => rfl

theorem LitKind.reads (k : LitKind) : ReadsAs (fun _ => LitKind.decode?) k.encode k := by
  cases k <;> exact .str fun _ => rfl

theorem BasicLit.reads (l : BasicLit) : ReadsAs (fun _ => BasicLit.decode?) l.encode l :=
  .record fun _ _ h => by
    obtain ⟨_, hk, hk'⟩ := h.needed l.kind.reads "kind" rfl
    obtain ⟨_, hv, hv'⟩ := h.needed (reads_text l.value) "value" rfl
    simp [BasicLit.decode?, hk, hv, hk', hv']

theorem ChanDir.reads (d : ChanDir) : ReadsAs (fun _ => ChanDir.decode?) d.encode d := by
  cases d <;> exact .str fun _ => rfl

theorem IncDec.reads (t : IncDec) : ReadsAs (fun _ => IncDec.decode?) t.encode t := by
  cases t <;> exact .str fun _ => rfl

theorem BranchTok.reads (t : BranchTok) : ReadsAs (fun _ => BranchTok.decode?) t.encode t := by
  cases t <;> exact .str fun _ => rfl

/-! ## Nodes -/

mutual

theorem Expr.reads : ∀ x : Expr, ReadsAs Expr.decodeAt? x.encode x
  | .mk k p => .record fun _ _ h => by
    obtain ⟨_, hk, hk'⟩ := h.needed k.reads "kind" rfl
    obtain ⟨_, hp, hp'⟩ := h.needed p.reads "pos" rfl
    simp [Expr.decodeAt?, hk, hp, hk', hp']
termination_by structural x => x

theorem ExprKind.reads : ∀ k : ExprKind, ReadsAs ExprKind.decodeAt? k.encode k
  | .bad k => .variantRecord rfl fun _ _ h => by
    obtain ⟨_, hk, hk'⟩ := h.needed (reads_text k) "kind" rfl
    simp [ExprKind.decodeAt?, hk, hk']
  | .ident n => .newtype rfl (reads_text n) fun _ _ h => by simp [ExprKind.decodeAt?, h]
  | .ellipsis e => .variantOption rfl (Expr.reads_option e) fun _ _ h => by simp [ExprKind.decodeAt?, h]
  | .basicLit l => .newtype rfl l.reads fun _ _ h => by simp [ExprKind.decodeAt?, h]
  | .funcLit t b => .variantRecord rfl fun _ _ h => by
    obtain ⟨_, ht, ht'⟩ := h.needed t.reads "ty" rfl
    obtain ⟨_, hb, hb'⟩ := h.needed b.reads "body" rfl
    simp [ExprKind.decodeAt?, ht, hb, ht', hb']
  | .compositeLit t es => .variantRecord rfl fun _ _ h => by
    have ht := h.optional (Expr.reads_option t) "ty" rfl
    obtain ⟨_, he, he'⟩ := h.needed (.list (Expr.reads_list es)) "elts" rfl
    simp [ExprKind.decodeAt?, ht, he, he']
  | .paren x => .newtype rfl x.reads fun _ _ h => by simp [ExprKind.decodeAt?, h]
  | .selector x s => .variantRecord rfl fun _ _ h => by
    obtain ⟨_, hx, hx'⟩ := h.needed x.reads "x" rfl
    obtain ⟨_, hs, hs'⟩ := h.needed s.reads "sel" rfl
    simp [ExprKind.decodeAt?, hx, hs, hx', hs']
  | .index x i => .variantRecord rfl fun _ _ h => by
    obtain ⟨_, hx, hx'⟩ := h.needed x.reads "x" rfl
    obtain ⟨_, hi, hi'⟩ := h.needed i.reads "index" rfl
    simp [ExprKind.decodeAt?, hx, hi, hx', hi']
  | .slice x l u m s => .variantRecord rfl fun _ _ h => by
    obtain ⟨_, hx, hx'⟩ := h.needed x.reads "x" rfl
    have hl := h.optional (Expr.reads_option l) "low" rfl
    have hu := h.optional (Expr.reads_option u) "high" rfl
    have hm := h.optional (Expr.reads_option m) "max" rfl
    obtain ⟨_, hs, hs'⟩ := h.needed (reads_bool s) "slice3" rfl
    simp [ExprKind.decodeAt?, hx, hl, hu, hm, hs, hx', hs']
  | .typeAssert x t => .variantRecord rfl fun _ _ h => by
    obtain ⟨_, hx, hx'⟩ := h.needed x.reads "x" rfl
    have ht := h.optional (Expr.reads_option t) "ty" rfl
    simp [ExprKind.decodeAt?, hx, ht, hx']
  | .call f as e => .variantRecord rfl fun _ _ h => by
    obtain ⟨_, hf, hf'⟩ := h.needed f.reads "fun" rfl
    obtain ⟨_, ha, ha'⟩ := h.needed (.list (Expr.reads_list as)) "args" rfl
    obtain ⟨_, he, he'⟩ := h.needed (reads_bool e) "ellipsis" rfl
    simp [ExprKind.decodeAt?, hf, ha, he, hf', ha', he']
  | .star x => .newtype rfl x.reads fun _ _ h => by simp [ExprKind.decodeAt?, h]
  | .unary op x => .variantRecord rfl fun _ _ h => by
    obtain ⟨_, ho, ho'⟩ := h.needed (reads_text op) "op" rfl
    obtain ⟨_, hx, hx'⟩ := h.needed x.reads "x" rfl
    simp [ExprKind.decodeAt?, ho, hx, ho', hx']
  | .binary x op y => .variantRecord rfl fun _ _ h => by
    obtain ⟨_, hx, hx'⟩ := h.needed x.reads "x" rfl
    obtain ⟨_, ho, ho'⟩ := h.needed (reads_text op) "op" rfl
    obtain ⟨_, hy, hy'⟩ := h.needed y.reads "y" rfl
    simp [ExprKind.decodeAt?, hx, ho, hy, hx', ho', hy']
  | .keyValue k v => .variantRecord rfl fun _ _ h => by
    obtain ⟨_, hk, hk'⟩ := h.needed k.reads "key" rfl
    obtain ⟨_, hv, hv'⟩ := h.needed v.reads "value" rfl
    simp [ExprKind.decodeAt?, hk, hv, hk', hv']
  | .arrayType n t => .variantRecord rfl fun _ _ h => by
    have hn := h.optional (Expr.reads_option n) "len" rfl
    obtain ⟨_, ht, ht'⟩ := h.needed t.reads "elt" rfl
    simp [ExprKind.decodeAt?, hn, ht, ht']
  | .structType fs => .newtype rfl (.fields (Field.reads_list fs)) fun _ _ h => by simp [ExprKind.decodeAt?, h]
  | .funcType t => .newtype rfl t.reads fun _ _ h => by simp [ExprKind.decodeAt?, h]
  | .interfaceType ms => .newtype rfl (.fields (Field.reads_list ms)) fun _ _ h => by simp [ExprKind.decodeAt?, h]
  | .mapType k v => .variantRecord rfl fun _ _ h => by
    obtain ⟨_, hk, hk'⟩ := h.needed k.reads "key" rfl
    obtain ⟨_, hv, hv'⟩ := h.needed v.reads "value" rfl
    simp [ExprKind.decodeAt?, hk, hv, hk', hv']
  | .chanType d v => .variantRecord rfl fun _ _ h => by
    obtain ⟨_, hd, hd'⟩ := h.needed d.reads "dir" rfl
    obtain ⟨_, hv, hv'⟩ := h.needed v.reads "value" rfl
    simp [ExprKind.decodeAt?, hd, hv, hd', hv']
termination_by structural k => k

theorem Expr.reads_option : ∀ x : Option Expr, ReadsOption Expr.decodeAt? (Expr.encodeOption x) x
  | none => .none
  | some x => .some x.reads
termination_by structural x => x

theorem Expr.reads_list : ∀ xs : List Expr, List.Forall₂ (ReadsAs Expr.decodeAt?) (Expr.encodeList xs) xs
  | [] => .nil
  | x :: xs => .cons x.reads (Expr.reads_list xs)
termination_by structural xs => xs

theorem FuncType.reads : ∀ t : FuncType, ReadsAs FuncType.decodeAt? t.encode t
  | .mk ps rs => .record fun _ _ h => by
    obtain ⟨_, hp, hp'⟩ := h.needed (.fields (Field.reads_list ps)) "params" rfl
    have hr := h.optional (Field.reads_results rs) "results" rfl
    simp [FuncType.decodeAt?, hp, hr, hp']
termination_by structural t => t

theorem Field.reads_results : ∀ rs : Option (List Field), ReadsOption (fun n v => v.fields? (Field.decodeAt? n)) (Field.encodeResults rs) rs
  | none => .none
  | some fs => .some (.fields (Field.reads_list fs))
termination_by structural rs => rs

theorem Field.reads : ∀ f : Field, ReadsAs Field.decodeAt? f.encode f
  | .mk ns t tag => .record fun _ _ h => by
    obtain ⟨_, hn, hn'⟩ := h.needed (.listMap Ident.reads ns) "names" rfl
    obtain ⟨_, ht, ht'⟩ := h.needed t.reads "ty" rfl
    have hg := h.optional (.of_option BasicLit.reads tag) "tag" rfl
    simp [Field.decodeAt?, hn, ht, hg, hn', ht']
termination_by structural f => f

theorem Field.reads_list : ∀ fs : List Field, List.Forall₂ (ReadsAs Field.decodeAt?) (Field.encodeList fs) fs
  | [] => .nil
  | f :: fs => .cons f.reads (Field.reads_list fs)
termination_by structural fs => fs

theorem Block.reads : ∀ b : Block, ReadsAs Block.decodeAt? b.encode b
  | .mk ss p => .record fun _ _ h => by
    obtain ⟨_, hs, hs'⟩ := h.needed (.list (Stmt.reads_list ss)) "stmts" rfl
    obtain ⟨_, hp, hp'⟩ := h.needed p.reads "pos" rfl
    simp [Block.decodeAt?, hs, hp, hs', hp']
termination_by structural b => b

theorem Stmt.reads : ∀ s : Stmt, ReadsAs Stmt.decodeAt? s.encode s
  | .mk k p => .record fun _ _ h => by
    obtain ⟨_, hk, hk'⟩ := h.needed k.reads "kind" rfl
    obtain ⟨_, hp, hp'⟩ := h.needed p.reads "pos" rfl
    simp [Stmt.decodeAt?, hk, hp, hk', hp']
termination_by structural s => s

theorem StmtKind.reads : ∀ k : StmtKind, ReadsAs StmtKind.decodeAt? k.encode k
  | .bad k => .variantRecord rfl fun _ _ h => by
    obtain ⟨_, hk, hk'⟩ := h.needed (reads_text k) "kind" rfl
    simp [StmtKind.decodeAt?, hk, hk']
  | .decl d => .newtype rfl d.reads fun _ _ h => by simp [StmtKind.decodeAt?, h]
  | .empty => .str fun n => by cases n <;> rfl
  | .labeled l s => .variantRecord rfl fun _ _ h => by
    obtain ⟨_, hl, hl'⟩ := h.needed l.reads "label" rfl
    obtain ⟨_, hs, hs'⟩ := h.needed s.reads "stmt" rfl
    simp [StmtKind.decodeAt?, hl, hs, hl', hs']
  | .expr x => .newtype rfl x.reads fun _ _ h => by simp [StmtKind.decodeAt?, h]
  | .send c v => .variantRecord rfl fun _ _ h => by
    obtain ⟨_, hc, hc'⟩ := h.needed c.reads "chan" rfl
    obtain ⟨_, hv, hv'⟩ := h.needed v.reads "value" rfl
    simp [StmtKind.decodeAt?, hc, hv, hc', hv']
  | .incDec x t => .variantRecord rfl fun _ _ h => by
    obtain ⟨_, hx, hx'⟩ := h.needed x.reads "x" rfl
    obtain ⟨_, ht, ht'⟩ := h.needed t.reads "tok" rfl
    simp [StmtKind.decodeAt?, hx, ht, hx', ht']
  | .assign l t r => .variantRecord rfl fun _ _ h => by
    obtain ⟨_, hl, hl'⟩ := h.needed (.list (Expr.reads_list l)) "lhs" rfl
    obtain ⟨_, ht, ht'⟩ := h.needed (reads_text t) "tok" rfl
    obtain ⟨_, hr, hr'⟩ := h.needed (.list (Expr.reads_list r)) "rhs" rfl
    simp [StmtKind.decodeAt?, hl, ht, hr, hl', ht', hr']
  | .goStmt c => .newtype rfl c.reads fun _ _ h => by simp [StmtKind.decodeAt?, h]
  | .deferStmt c => .newtype rfl c.reads fun _ _ h => by simp [StmtKind.decodeAt?, h]
  | .returnStmt rs => .newtype rfl (.list (Expr.reads_list rs)) fun _ _ h => by simp [StmtKind.decodeAt?, h]
  | .branch t l => .variantRecord rfl fun _ _ h => by
    obtain ⟨_, ht, ht'⟩ := h.needed t.reads "tok" rfl
    have hl := h.optional (.of_option Ident.reads l) "label" rfl
    simp [StmtKind.decodeAt?, ht, hl, ht']
  | .block b => .newtype rfl b.reads fun _ _ h => by simp [StmtKind.decodeAt?, h]
  | .ifStmt i c b e => .variantRecord rfl fun _ _ h => by
    have hi := h.optional (Stmt.reads_option i) "init" rfl
    obtain ⟨_, hc, hc'⟩ := h.needed c.reads "cond" rfl
    obtain ⟨_, hb, hb'⟩ := h.needed b.reads "body" rfl
    have he := h.optional (Stmt.reads_option e) "els" rfl
    simp [StmtKind.decodeAt?, hi, hc, hb, he, hc', hb']
  | .caseClause l b => .variantRecord rfl fun _ _ h => by
    obtain ⟨_, hl, hl'⟩ := h.needed (.list (Expr.reads_list l)) "list" rfl
    obtain ⟨_, hb, hb'⟩ := h.needed (.list (Stmt.reads_list b)) "body" rfl
    simp [StmtKind.decodeAt?, hl, hb, hl', hb']
  | .switchStmt i t b => .variantRecord rfl fun _ _ h => by
    have hi := h.optional (Stmt.reads_option i) "init" rfl
    have ht := h.optional (Expr.reads_option t) "tag" rfl
    obtain ⟨_, hb, hb'⟩ := h.needed b.reads "body" rfl
    simp [StmtKind.decodeAt?, hi, ht, hb, hb']
  | .typeSwitch i a b => .variantRecord rfl fun _ _ h => by
    have hi := h.optional (Stmt.reads_option i) "init" rfl
    obtain ⟨_, ha, ha'⟩ := h.needed a.reads "assign" rfl
    obtain ⟨_, hb, hb'⟩ := h.needed b.reads "body" rfl
    simp [StmtKind.decodeAt?, hi, ha, hb, ha', hb']
  | .commClause c b => .variantRecord rfl fun _ _ h => by
    have hc := h.optional (Stmt.reads_option c) "comm" rfl
    obtain ⟨_, hb, hb'⟩ := h.needed (.list (Stmt.reads_list b)) "body" rfl
    simp [StmtKind.decodeAt?, hc, hb, hb']
  | .selectStmt b => .variantRecord rfl fun _ _ h => by
    obtain ⟨_, hb, hb'⟩ := h.needed b.reads "body" rfl
    simp [StmtKind.decodeAt?, hb, hb']
  | .forStmt i c p b => .variantRecord rfl fun _ _ h => by
    have hi := h.optional (Stmt.reads_option i) "init" rfl
    have hc := h.optional (Expr.reads_option c) "cond" rfl
    have hp := h.optional (Stmt.reads_option p) "post" rfl
    obtain ⟨_, hb, hb'⟩ := h.needed b.reads "body" rfl
    simp [StmtKind.decodeAt?, hi, hc, hp, hb, hb']
  | .rangeStmt k v t x b => .variantRecord rfl fun _ _ h => by
    have hk := h.optional (Expr.reads_option k) "key" rfl
    have hv := h.optional (Expr.reads_option v) "value" rfl
    have ht := h.optional (.of_option reads_text t) "tok" rfl
    obtain ⟨_, hx, hx'⟩ := h.needed x.reads "x" rfl
    obtain ⟨_, hb, hb'⟩ := h.needed b.reads "body" rfl
    simp [StmtKind.decodeAt?, hk, hv, ht, hx, hb, hx', hb']
termination_by structural k => k

theorem Stmt.reads_option : ∀ s : Option Stmt, ReadsOption Stmt.decodeAt? (Stmt.encodeOption s) s
  | none => .none
  | some s => .some s.reads
termination_by structural s => s

theorem Stmt.reads_list : ∀ ss : List Stmt, List.Forall₂ (ReadsAs Stmt.decodeAt?) (Stmt.encodeList ss) ss
  | [] => .nil
  | s :: ss => .cons s.reads (Stmt.reads_list ss)
termination_by structural ss => ss

theorem GenDecl.reads : ∀ d : GenDecl, ReadsAs GenDecl.decodeAt? d.encode d
  | .mk t p g ss => .record fun _ _ h => by
    obtain ⟨_, ht, ht'⟩ := h.needed t.reads "tok" rfl
    obtain ⟨_, hp, hp'⟩ := h.needed p.reads "pos" rfl
    obtain ⟨_, hg, hg'⟩ := h.needed (reads_bool g) "grouped" rfl
    obtain ⟨_, hs, hs'⟩ := h.needed (.list (Spec.reads_list ss)) "specs" rfl
    simp [GenDecl.decodeAt?, ht, hp, hg, hs, ht', hp', hg', hs']
termination_by structural d => d

theorem Spec.reads : ∀ s : Spec, ReadsAs Spec.decodeAt? s.encode s
  | .imported s => .newtype rfl s.reads fun _ _ h => by simp [Spec.decodeAt?, h]
  | .value ns t vs => .variantRecord rfl fun _ _ h => by
    obtain ⟨_, hn, hn'⟩ := h.needed (.listMap Ident.reads ns) "names" rfl
    have ht := h.optional (Expr.reads_option t) "ty" rfl
    obtain ⟨_, hv, hv'⟩ := h.needed (.list (Expr.reads_list vs)) "values" rfl
    simp [Spec.decodeAt?, hn, ht, hv, hn', hv']
  | .type n a t => .variantRecord rfl fun _ _ h => by
    obtain ⟨_, hn, hn'⟩ := h.needed n.reads "name" rfl
    obtain ⟨_, ha, ha'⟩ := h.needed (reads_bool a) "alias" rfl
    obtain ⟨_, ht, ht'⟩ := h.needed t.reads "ty" rfl
    simp [Spec.decodeAt?, hn, ha, ht, hn', ha', ht']
termination_by structural s => s

theorem Spec.reads_list : ∀ ss : List Spec, List.Forall₂ (ReadsAs Spec.decodeAt?) (Spec.encodeList ss) ss
  | [] => .nil
  | s :: ss => .cons s.reads (Spec.reads_list ss)
termination_by structural ss => ss

end

/-! ## Files -/

theorem Expr.reads_decode (x : Expr) : ReadsAs (fun _ => Expr.decode?) x.encode x :=
  x.reads.ofDepth

theorem FuncType.reads_decode (t : FuncType) : ReadsAs (fun _ => FuncType.decode?) t.encode t :=
  t.reads.ofDepth

theorem Field.results_reads_decode (rs : Option (List Field)) :
    ReadsOption (fun _ => Field.decodeList?) (Field.encodeResults rs) rs :=
  (Field.reads_results rs).ofDepth

theorem Block.reads_decode (b : Block) : ReadsAs (fun _ => Block.decode?) b.encode b :=
  b.reads.ofDepth

theorem Stmt.reads_decode (s : Stmt) : ReadsAs (fun _ => Stmt.decode?) s.encode s :=
  s.reads.ofDepth

theorem GenDecl.reads_decode (d : GenDecl) : ReadsAs (fun _ => GenDecl.decode?) d.encode d :=
  d.reads.ofDepth

theorem FuncDecl.reads (d : FuncDecl) : ReadsAs (fun _ => FuncDecl.decode?) d.encode d :=
  .record fun _ _ h => by
    have hr := h.optional (Field.results_reads_decode d.recv) "recv" rfl
    obtain ⟨_, hn, hn'⟩ := h.needed d.name.reads "name" rfl
    obtain ⟨_, ht, ht'⟩ := h.needed d.ty.reads_decode "ty" rfl
    have hb := h.optional (.of_option Block.reads_decode d.body) "body" rfl
    obtain ⟨_, hp, hp'⟩ := h.needed d.pos.reads "pos" rfl
    simp [FuncDecl.decode?, hr, hn, ht, hb, hp, hn', ht', hp']

theorem Decl.reads : ∀ d : Decl, ReadsAs (fun _ => Decl.decode?) d.encode d
  | .gen d => .newtype rfl d.reads_decode fun _ _ h => by simp [Decl.decode?, h]
  | .func d => .newtype rfl d.reads fun _ _ h => by simp [Decl.decode?, h]

theorem File.reads (f : File) : ReadsAs (fun _ => File.decode?) f.encode f :=
  .record fun _ _ h => by
    obtain ⟨_, hp, hp'⟩ := h.needed f.package.reads "package" rfl
    obtain ⟨_, hi, hi'⟩ := h.needed (.listMap ImportSpec.reads f.imports) "imports" rfl
    obtain ⟨_, hd, hd'⟩ := h.needed (.listMap Decl.reads f.decls) "decls" rfl
    simp [File.decode?, hp, hi, hd, hp', hi', hd']

end GoRebuild
