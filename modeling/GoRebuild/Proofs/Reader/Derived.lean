import GoRebuild.Proofs.Reader.Rules
import GoRebuild.Proofs.Reader.StatementShapes

/-!
# Reading nodes is reading what they are derived from

The reader looks for kinds of nodes and for fields by their names. On trees that the grammar derives it finds what it
looks for, and does what the derivation says.

* `nested_eq`, `unsupported_eq` : one level deeper, and what is refused;
* `Name.idents_derived`, `tagOf_derived` : parts without nodes below;
* `Node.read_derived`, `Signature.read_derived`, `Stmt.read_derived`, `Decl.read_derived` and the rest : nodes by their
  productions.

The recursion is on the derivation. The bound of `Readers.upTo` is more than the height of the node that is read.
-/

namespace GoRebuild
open Parse.Node Reading
open Lexical (Place)

variable {s : Setting} {t c : Parse.Node} {n : Nat}

/-- One level deeper, at a node that starts at a place. -/
theorem nested_eq {α : Type} {act act' : Reading α} {p : Place} (hpos : t.pos = s.pos p) (hact : act = act') :
    t.nested s.limit act = visit s p act' := by
  subst hact
  funext depth
  simp only [nested, visit, hpos, Nat.lt_succ_iff]

theorem visit_map {α β : Type} {act : Reading α} {p : Place} (f : α → β) :
    (do return f (← visit s p act)) = visit s p do return f (← act) := by
  funext depth
  simp only [visit, bind, ReaderT.bind]
  split <;> rfl

theorem unsupported_eq {α : Type} {kind : String} {p : Place} (hkind : t.kind = kind) (hpos : t.pos = s.pos p) :
    (t.unsupported : Reading α) = refuse s kind p := by
  rw [unsupported, refuse, hkind, hpos]

namespace Grammar
open Readers

/-! ## Parts without nodes below -/

theorem Name.ident_derived {m : Name} (h : m.Derives s.pos t) : t.ident = m.ident s := by
  rw [Parse.Node.ident, Name.ident, h.1, h.2]

theorem Name.idents_derived {ms : List Name} {ts : List Parse.Node} (h : Name.AllDerive s.pos ms ts) :
    ts.map Parse.Node.ident = ms.map (Name.ident s) := by
  induction h with
  | nil => rfl
  | cons hm _ ih => rw [List.map_cons, List.map_cons, ih, Name.ident_derived hm]

theorem tagOf_derived {tag : Option String} {o : Option Parse.Node} (h : TagDerives tag o) : tagOf o = tagLit tag := by
  cases tag with
  | none => rw [show o = none from h]; rfl
  | some text =>
    obtain ⟨c, rfl, hc⟩ := h
    rw [tagOf, tagLit, Option.map_some, Option.map_some, hc]

theorem Stmt.AllDerive.not_other : ∀ {xs : List Stmt} {ts : List Parse.Node}, Stmt.AllDerive s.pos xs ts →
    ∀ c ∈ ts, c.kind ∉ otherKinds
  | [], ts, h, c, hc => by
    rw [show ts = [] from h] at hc
    cases hc
  | x :: xs, ts, h, c, hc => by
    obtain ⟨d, ds, rfl, hx, hxs⟩ := h
    rcases List.mem_cons.mp hc with rfl | hc
    · exact hx.not_other
    · exact hxs.not_other c hc

/-- The statements of a row begin with one. -/
theorem Stmt.RowDerives.row {ss : List Stmt} {ts : List Parse.Node} (h : Stmt.RowDerives s.pos ss ts) :
    ts = [] ∨ ∃ l, ts = [l] ∧ l.kind = "statement_list" := by
  cases ss with
  | nil => exact .inl h
  | cons x xs =>
    obtain ⟨l, c, cs, hts, hl, -⟩ := h
    exact .inr ⟨l, hts, hl⟩

theorem Node.OptionDerives.not_other {x : Option Node} {o : Option Parse.Node} (h : Node.OptionDerives s.pos x o) :
    ∀ c ∈ o, c.kind ∉ otherKinds := by
  cases x with
  | none =>
    rw [show o = none from h]
    exact fun c hc => nomatch hc
  | some x =>
    obtain ⟨c, rfl, hx⟩ := h
    rintro _ ⟨⟩
    exact hx.not_other

theorem Stmt.OptionDerives.not_other {x : Option Stmt} {o : Option Parse.Node} (h : Stmt.OptionDerives s.pos x o) :
    ∀ c ∈ o, c.kind ∉ otherKinds := by
  cases x with
  | none =>
    rw [show o = none from h]
    exact fun c hc => nomatch hc
  | some x =>
    obtain ⟨c, rfl, hx⟩ := h
    rintro _ ⟨⟩
    exact hx.not_other

theorem Node.ListDerives?.not_other {xs : List Node} {o : Option Parse.Node} (h : Node.ListDerives? s.pos xs o) :
    ∀ c ∈ o, c.kind ∉ otherKinds := by
  cases xs with
  | nil =>
    rw [show o = none from h]
    exact fun c hc => nomatch hc
  | cons x xs =>
    obtain ⟨l, rfl, hl, -⟩ := h
    rintro _ ⟨⟩
    rw [hl]
    decide

theorem Node.Derives.start {x : Node} (h : x.Derives s.pos t) : t.pos = s.pos x.start := by
  obtain ⟨k, p⟩ := x
  exact h.1

theorem Decl.Derives.kind {d : Decl} (h : d.Derives s.pos t) :
    t.kind ∈ ["const_declaration", "var_declaration", "type_declaration"] := by
  cases d with
  | value tok spec start => cases tok <;> simp [h.1, ValueTok.declKind]
  | values tok specs start => cases tok <;> simp [h.1, ValueTok.declKind]
  | type spec start => simp [h.1]
  | types specs start => simp [h.1]

theorem ValueSpec.Derives.not_list {tok : ValueTok} {x : ValueSpec} (h : x.Derives s.pos tok t) :
    isSpecList t = false := by
  obtain ⟨name, more, ty, values⟩ := x
  refine not_isSpecList ?_
  rw [h.1]
  cases tok <;> decide

theorem ValueSpec.AllDerive.not_list {tok : ValueTok} : ∀ {xs : List ValueSpec} {ts : List Parse.Node},
    ValueSpec.AllDerive s.pos tok xs ts → ∀ c ∈ ts, isSpecList c = false
  | [], ts, h, c, hc => by
    rw [show ts = [] from h] at hc
    cases hc
  | x :: xs, ts, h, c, hc => by
    obtain ⟨d, ds, rfl, hx, hxs⟩ := h
    rcases List.mem_cons.mp hc with rfl | hc
    · exact hx.not_list
    · exact hxs.not_list c hc

theorem TypeSpec.Derives.not_list {x : TypeSpec} (h : x.Derives s.pos t) : isSpecList t = false := by
  obtain ⟨name, params, aliased, ty⟩ := x
  refine not_isSpecList ?_
  rw [h.1]
  cases aliased <;> decide

theorem TypeSpec.AllDerive.not_list : ∀ {xs : List TypeSpec} {ts : List Parse.Node},
    TypeSpec.AllDerive s.pos xs ts → ∀ c ∈ ts, isSpecList c = false
  | [], ts, h, c, hc => by
    rw [show ts = [] from h] at hc
    cases hc
  | x :: xs, ts, h, c, hc => by
    obtain ⟨d, ds, rfl, hx, hxs⟩ := h
    rcases List.mem_cons.mp hc with rfl | hc
    · exact hx.not_list
    · exact hxs.not_list c hc

/-- A statement that may be absent, where it is there. -/
theorem stmtOption_nested {act : Reading GoRebuild.StmtKind} {p : Place} (hpos : t.pos = s.pos p)
    (hact : (upTo s.limit n).stmtKindRule t = act) :
    (upTo s.limit (n + 1)).stmtOption (some t) = visit s p do return some (GoRebuild.Stmt.mk (← act) (s.pos p)) := by
  subst hact
  have hstmt : (upTo s.limit (n + 1)).stmt t =
      visit s p do return GoRebuild.Stmt.mk (← (upTo s.limit n).stmtKindRule t) (s.pos p) :=
    nested_eq hpos (by rw [hpos])
  rw [stmtOption_some, hstmt, visit_map]
  simp only [bind_assoc, pure_bind]

/-! ## Expressions, types and statements -/

mutual

theorem Node.read_derived : ∀ (x : Node) {t : Parse.Node} {n : Nat}, x.Derives s.pos t → t.height < n →
    (upTo s.limit n).expr t = x.read s
  | .mk k p, t, n + 1, h, hn => by
    obtain ⟨hpos, h⟩ := h
    refine nested_eq hpos ?_
    have hkind : (upTo s.limit n).exprKindRule t = k.read s p := by
      rcases h with h | ⟨hk, c, hc, hcpos, h⟩
      · exact k.read_derived h hpos (Nat.le_of_lt_succ hn)
      · have hlt : c.height < t.height := height_lt_of_parts (hc ▸ List.mem_singleton_self c)
        obtain ⟨m, rfl⟩ : ∃ m, n = m + 1 := ⟨n - 1, by omega⟩
        rw [exprKindRule_element hk hc]
        exact k.read_derived h hcpos (by omega)
    rw [hkind, hpos]

theorem NodeKind.read_derived : ∀ (k : NodeKind) {t : Parse.Node} {p : Place} {n : Nat}, k.Derives s.pos t →
    t.pos = s.pos p → t.height ≤ n → (upTo s.limit n).exprKindRule t = k.read s p
  | .name text, t, p, n, h, _, _ => by
    rw [exprKindRule_name h.1, h.2]
    rfl
  | .literal lit, t, p, n, h, _, _ => by
    rw [exprKindRule_literal h.1, h.2]
    rfl
  | .paren x, t, p, n, h, _, hn => by
    obtain ⟨hk, c, hc, hx⟩ := h
    rw [exprKindRule_paren hk hc, x.read_derived hx (only_height_lt hc hn)]
    rfl
  | .select x m, t, p, n, h, _, hn => by
    rcases h with ⟨hk, a, b, hs, hx, hm⟩ | ⟨hk, a, b, hs, hx, hm⟩
    · rw [exprKindRule_selector hk hs, x.read_derived hx (hs.height_lt (.head _) hn), Name.ident_derived hm]
      rfl
    · rw [exprKindRule_qualified hk hs, x.read_derived hx (hs.height_lt (.head _) hn), Name.ident_derived hm]
      rfl
  | .index x i, t, p, n, h, _, hn => by
    obtain ⟨hk, a, b, hs, hx, hi⟩ := h
    rw [exprKindRule_index hk hs, x.read_derived hx (hs.height_lt (.head _) hn),
      i.read_derived hi (hs.height_lt (.tail _ (.head _)) hn)]
    rfl
  | .slice x low high, t, p, n, h, _, hn => by
    obtain ⟨hk, hcolons, a, b, c, hs, hx, hlow, hhigh⟩ := h
    rw [exprKindRule_slice hk hcolons hs, x.read_derived hx (hs.height_lt (.head _) hn),
      readOption_derived low hlow (hs.option_height_lt (.tail _ (.head _)) hn),
      readOption_derived high hhigh (hs.option_height_lt (.tail _ (.tail _ (.head _))) hn)]
    rfl
  | .slice3 x low high max, t, p, n, h, _, hn => by
    obtain ⟨hk, hcolons, a, b, c, d, hs, hx, hlow, hhigh, hmax⟩ := h
    rw [exprKindRule_slice hk hcolons hs, x.read_derived hx (hs.height_lt (.head _) hn),
      readOption_derived low hlow (hs.option_height_lt (.tail _ (.head _)) hn), option_some, option_some,
      high.read_derived hhigh (hs.height_lt (.tail _ (.tail _ (.head _))) hn),
      max.read_derived hmax (hs.height_lt (.tail _ (.tail _ (.tail _ (.head _)))) hn)]
    simp only [bind_assoc, pure_bind]
    rfl
  | .assert x ty, t, p, n, h, _, hn => by
    obtain ⟨hk, a, b, hs, hx, hty⟩ := h
    rw [exprKindRule_assert hk hs, x.read_derived hx (hs.height_lt (.head _) hn),
      ty.read_derived hty (hs.height_lt (.tail _ (.head _)) hn)]
    rfl
  | .call fn args, t, p, n, h, _, hn => by
    obtain ⟨hk, hparams, f, as, hs, hsymbols, hfn, hargs⟩ := h
    rw [exprKindRule_call hk hparams hs hsymbols,
      readArgs_derived args hargs (parts_height_lt (Nat.le_of_lt (hs.height_lt (.tail _ (.tail _ (.head _))) hn)))
        fun c hc => isNamed_of_parts hc,
      fn.read_derived hfn (hs.height_lt (.head _) hn)]
    simp only [map_eq_pure_bind, bind_assoc, pure_bind]
    rfl
  | .convert ty x, t, p, n, h, _, hn => by
    obtain ⟨hk, a, b, hs, hty, hx⟩ := h
    rw [exprKindRule_convert hk hs, ty.read_derived hty (hs.height_lt (.head _) hn),
      x.read_derived hx (hs.height_lt (.tail _ (.head _)) hn)]
    rfl
  | .star x, t, p, n, h, _, hn => by
    rcases h with ⟨hk, c, hc, hx⟩ | ⟨hk, o, c, ho, hop, hs, hx⟩
    · rw [exprKindRule_pointer hk hc, x.read_derived hx (only_height_lt hc hn)]
      rfl
    · rw [exprKindRule_deref hk ho hop hs, x.read_derived hx (hs.height_lt (.head _) hn)]
      rfl
  | .unary op x, t, p, n, h, _, hn => by
    obtain ⟨hk, o, c, ho, hop, hs, hx⟩ := h
    have hstar : o.text ≠ "*" := by
      rw [hop]
      cases op <;> decide
    rw [exprKindRule_unary hk ho hstar hs, x.read_derived hx (hs.height_lt (.head _) hn), hop]
    rfl
  | .binary x op y, t, p, n, h, _, hn => by
    obtain ⟨hk, a, o, b, ho, hop, hs, hx, hy⟩ := h
    rw [exprKindRule_binary hk ho hs, x.read_derived hx (hs.height_lt (.head _) hn), hop,
      y.read_derived hy (hs.height_lt (.tail _ (.head _)) hn)]
    rfl
  | .composite ty elems, t, p, n, h, _, hn => by
    obtain ⟨hk, a, b, hs, -, hty, helems⟩ := h
    rw [exprKindRule_composite hk hs, ty.read_derived hty (hs.height_lt (.head _) hn),
      readAll_derived elems helems (parts_height_lt (Nat.le_of_lt (hs.height_lt (.tail _ (.head _)) hn)))]
    rfl
  | .braces elems, t, p, n, h, _, hn => by
    rw [exprKindRule_braces h.1, readAll_derived elems h.2 (parts_height_lt hn)]
    rfl
  | .keyed key value, t, p, n, h, _, hn => by
    obtain ⟨hk, a, b, hs, hkey, hvalue⟩ := h
    rw [exprKindRule_keyed hk hs, key.read_derived hkey (hs.height_lt (.head _) hn),
      value.read_derived hvalue (hs.height_lt (.tail _ (.head _)) hn)]
    rfl
  | .func sig body, t, p, n, h, _, hn => by
    obtain ⟨hk, a, b, c, hs, hsig, hbody⟩ := h
    rw [exprKindRule_func hk (hs.child? (.tail _ (.tail _ (.head _)))),
      sig.read_derived hsig (hs.child? (.head _)) (hs.child? (.tail _ (.head _))) hn,
      body.read_derived hbody (Nat.le_of_lt (hs.height_lt (.tail _ (.tail _ (.head _))) hn))]
    rfl
  | .array len elt, t, p, n, h, _, hn => by
    obtain ⟨hk, a, b, hs, hlen, helt⟩ := h
    rw [exprKindRule_array hk hs, len.read_derived hlen (hs.height_lt (.head _) hn),
      elt.read_derived helt (hs.height_lt (.tail _ (.head _)) hn)]
    rfl
  | .openArray elt, t, p, n, h, hpos, hn => by
    obtain ⟨hk, a, hs, helt⟩ := h
    rw [exprKindRule_openArray hk hs, elt.read_derived helt (hs.height_lt (.head _) hn), hpos]
    rfl
  | .sliceOf elt, t, p, n, h, _, hn => by
    obtain ⟨hk, a, hs, helt⟩ := h
    rw [exprKindRule_sliceOf hk hs, elt.read_derived helt (hs.height_lt (.head _) hn)]
    rfl
  | .struct members, t, p, n, h, _, hn => by
    obtain ⟨hk, c, hc, -, hmembers⟩ := h
    rw [exprKindRule_struct hk hc, readMembers_derived members hmembers (parts_height_lt (Nat.le_of_lt (only_height_lt hc hn)))]
    rfl
  | .interface elems, t, p, n, h, _, hn => by
    rw [exprKindRule_interface h.1, readElements_derived elems h.2 (parts_height_lt hn)]
    rfl
  | .map key value, t, p, n, h, _, hn => by
    obtain ⟨hk, a, b, hs, hkey, hvalue⟩ := h
    rw [exprKindRule_map hk hs, key.read_derived hkey (hs.height_lt (.head _) hn),
      value.read_derived hvalue (hs.height_lt (.tail _ (.head _)) hn)]
    rfl
  | .chan dir value, t, p, n, h, _, hn => by
    obtain ⟨hk, hdir, a, hs, hvalue⟩ := h
    rw [exprKindRule_chan hk hdir hs, value.read_derived hvalue (hs.height_lt (.head _) hn)]
    rfl
  | .funcType sig, t, p, n, h, _, hn => by
    obtain ⟨hk, a, b, hs, hsig⟩ := h
    rw [exprKindRule_funcType hk, sig.read_derived hsig (hs.child? (.head _)) (hs.child? (.tail _ (.head _))) hn]
    rfl
  | .generic .typeArguments bracket, t, p, n, h, _, _ => by
    obtain ⟨hk, hparams, c, hc, hckind, hcpos⟩ := h
    rw [exprKindRule_typeArguments hk hparams hc, unsupported_eq hckind hcpos]
    rfl
  | .generic .typeParameters _, t, p, n, h, hpos, _ | .generic .genericType _, t, p, n, h, hpos, _
  | .generic .instantiation _, t, p, n, h, hpos, _ | .generic .approximation _, t, p, n, h, hpos, _
  | .generic .union _, t, p, n, h, hpos, _ => by
    rw [exprKindRule_generic h (by decide), unsupported_eq h hpos]
    rfl

theorem readOption_derived : ∀ (x : Option Node) {o : Option Parse.Node} {n : Nat}, Node.OptionDerives s.pos x o →
    (∀ c ∈ o, c.height < n) → (upTo s.limit n).option o = readOption s x
  | none, o, n, h, _ => by
    rw [show o = none from h]
    rfl
  | some x, o, n, h, hn => by
    obtain ⟨c, rfl, hx⟩ := h
    rw [option_some, x.read_derived hx (hn c rfl)]
    rfl

theorem readAll_derived : ∀ (xs : List Node) {ts : List Parse.Node} {n : Nat}, Node.AllDerive s.pos xs ts →
    (∀ c ∈ ts, c.height < n) → ts.mapM (upTo s.limit n).expr = readAll s xs
  | [], ts, n, h, _ => by
    rw [show ts = [] from h]
    rfl
  | x :: xs, ts, n, h, hn => by
    obtain ⟨c, cs, rfl, hx, hxs⟩ := h
    obtain ⟨hc, hcs⟩ := List.forall_mem_cons.mp hn
    rw [List.mapM_cons, x.read_derived hx hc, readAll_derived xs hxs hcs]
    rfl

theorem exprList_derived : ∀ (xs : List Node) {t : Parse.Node} {n : Nat}, Node.ListDerives s.pos xs t →
    t.height ≤ n → (upTo s.limit n).exprList t = readAll s xs
  | [], t, n, h, _ => by
    rw [exprList_eq h.1, h.2]
    rfl
  | x :: xs, t, n, h, hn => by
    obtain ⟨hk, -, c, cs, hparts, hx, hxs⟩ := h
    obtain ⟨hc, hcs⟩ := List.forall_mem_cons.mp (hparts ▸ parts_height_lt hn)
    rw [exprList_eq hk, hparts, List.mapM_cons, x.read_derived hx hc, readAll_derived xs hxs hcs]
    rfl

theorem listOption_derived : ∀ (xs : List Node) {o : Option Parse.Node} {n : Nat}, Node.ListDerives? s.pos xs o →
    (∀ c ∈ o, c.height < n) → (upTo s.limit n).listOption o = readAll s xs
  | [], o, n, h, _ => by
    rw [show o = none from h]
    rfl
  | x :: xs, o, n, h, hn => by
    obtain ⟨t, rfl, hk, -, c, cs, hparts, hx, hxs⟩ := h
    obtain ⟨hc, hcs⟩ := List.forall_mem_cons.mp (hparts ▸ parts_height_lt (Nat.le_of_lt (hn t rfl)))
    rw [listOption_some, exprList_eq hk, hparts, List.mapM_cons, x.read_derived hx hc, readAll_derived xs hxs hcs]
    rfl

theorem readArgs_derived : ∀ (as : List Arg) {ts : List Parse.Node} {n : Nat}, Arg.AllDerive s.pos as ts →
    (∀ c ∈ ts, c.height < n) → (∀ c ∈ ts, c.isNamed) →
      (fun ps => (ps.flatMap Prod.fst, ps.any Prod.snd)) <$> ts.mapM (upTo s.limit n).arg =
        (fun xs => (xs, as.any Arg.isSpread)) <$> readArgs s as
  | [], ts, n, h, _, _ => by
    rw [show ts = [] from h]
    rfl
  | .plain x :: as, ts, n, h, hn, hnamed => by
    obtain ⟨c, cs, rfl, hx, has⟩ := h
    obtain ⟨hc, hcs⟩ := List.forall_mem_cons.mp hn
    obtain ⟨hcnamed, hcsnamed⟩ := List.forall_mem_cons.mp hnamed
    rw [args_cons (arg_plain hcnamed hx.not_other), readArgs_derived as has hcs hcsnamed, x.read_derived hx hc]
    simp only [readArgs, map_eq_pure_bind, bind_assoc, pure_bind]
    rfl
  | .spread x :: as, ts, n, h, hn, hnamed => by
    obtain ⟨c, cs, d, rfl, hk, -, hparts, hx, has⟩ := h
    obtain ⟨hc, hcs⟩ := List.forall_mem_cons.mp hn
    obtain ⟨-, hcsnamed⟩ := List.forall_mem_cons.mp hnamed
    rw [args_cons (arg_spread hk hparts), readArgs_derived as has hcs hcsnamed,
      x.read_derived hx (only_height_lt hparts (Nat.le_of_lt hc))]
    simp only [readArgs, map_eq_pure_bind, bind_assoc, pure_bind]
    rfl

theorem Signature.read_derived : ∀ (sig : Signature) {t a : Parse.Node} {o : Option Parse.Node} {n : Nat},
    sig.Derives s.pos a o → t.child? "parameters" = some a → t.child? "result" = o → t.height ≤ n →
      (upTo s.limit n).signature t = sig.read s
  | .mk params none, t, a, o, n, h, hparams, hresult, hn => by
    obtain ⟨-, hps, rfl⟩ := h
    rw [signature_eq hparams hresult, readParams_derived params hps (parts_height_lt (Nat.le_of_lt (child?_height_lt hparams hn a rfl)))]
    rfl
  | .mk params (some results), t, a, o, n, h, hparams, hresult, hn => by
    obtain ⟨-, hps, c, rfl, hc⟩ := h
    have hlt : c.height < n := child?_height_lt hresult hn c rfl
    rw [signature_eq hparams hresult, readParams_derived params hps (parts_height_lt (Nat.le_of_lt (child?_height_lt hparams hn a rfl)))]
    have hresults : (upTo s.limit n).results (some c) = do return some (← readParams s results) := by
      rcases hc with ⟨hk, hrs⟩ | hc
      · rw [results_list hk, readParams_derived results hrs (parts_height_lt (Nat.le_of_lt hlt))]
      · exact loneResult_derived results hc hlt
    rw [hresults]
    simp only [bind_assoc, pure_bind]
    rfl

theorem loneResult_derived : ∀ (ps : List Param) {c : Parse.Node} {n : Nat}, Param.AloneDerives s.pos ps c →
    c.height < n → (upTo s.limit n).results (some c) = do return some (← readParams s ps)
  | [.mk [] none ty], c, n, h, hn => by
    have hc : ty.Derives s.pos c := h
    rw [results_alone hc.not_other, ty.read_derived hc hn]
    simp only [readParams, bind_assoc, pure_bind, List.map_nil]
  | [], c, n, h, _ => h.elim
  | .mk (_ :: _) _ _ :: _, c, n, h, _ => h.elim
  | .mk [] (some _) _ :: _, c, n, h, _ => h.elim
  | .mk [] none _ :: _ :: _, c, n, h, _ => h.elim

theorem readParams_derived : ∀ (ps : List Param) {ts : List Parse.Node} {n : Nat}, Param.AllDerive s.pos ps ts →
    (∀ c ∈ ts, c.height < n) → ts.mapM (upTo s.limit n).param = readParams s ps
  | [], ts, n, h, _ => by
    rw [show ts = [] from h]
    rfl
  | .mk names none ty :: ps, ts, n, h, hn => by
    obtain ⟨c, cs, ns, d, rfl, hk, -, -, hnames, htype, hns, hty, hps⟩ := h
    obtain ⟨hc, hcs⟩ := List.forall_mem_cons.mp hn
    rw [List.mapM_cons, param_plain hk htype, hnames, Name.idents_derived hns,
      ty.read_derived hty (child?_height_lt htype (Nat.le_of_lt hc) d rfl), readParams_derived ps hps hcs]
    simp only [bind_assoc, pure_bind]
    rfl
  | .mk names (some dots) ty :: ps, ts, n, h, hn => by
    obtain ⟨c, cs, ns, d, rfl, hk, hcpos, -, hnames, htype, hns, hty, hps⟩ := h
    obtain ⟨hc, hcs⟩ := List.forall_mem_cons.mp hn
    have hstart : c.pos = s.pos ((names.head?.map Name.place).getD dots) := by
      rw [hcpos]
      cases names <;> rfl
    rw [List.mapM_cons, param_variadic hk htype, hnames, Name.idents_derived hns, hstart,
      ty.read_derived hty (child?_height_lt htype (Nat.le_of_lt hc) d rfl), readParams_derived ps hps hcs]
    simp only [bind_assoc, pure_bind]
    rfl

theorem readMembers_derived : ∀ (ms : List Member) {ts : List Parse.Node} {n : Nat}, Member.AllDerive s.pos ms ts →
    (∀ c ∈ ts, c.height < n) → ts.mapM (upTo s.limit n).structField = readMembers s ms
  | [], ts, n, h, _ => by
    rw [show ts = [] from h]
    rfl
  | .named m more ty tag :: ms, ts, n, h, hn => by
    obtain ⟨c, cs, ns, d, g, rfl, hk, -, -, hnames, htype, htag, hns, hty, hg, hms⟩ := h
    obtain ⟨hc, hcs⟩ := List.forall_mem_cons.mp hn
    have hsome : c.partsIn "name" ≠ [] := by
      rw [hnames]
      cases hns
      exact List.cons_ne_nil _ _
    rw [List.mapM_cons, structField_named hk hsome htype htag, hnames, Name.idents_derived hns, tagOf_derived hg,
      ty.read_derived hty (child?_height_lt htype (Nat.le_of_lt hc) d rfl), readMembers_derived ms hms hcs]
    simp only [bind_assoc, pure_bind]
    rfl
  | .embedded none ty tag :: ms, ts, n, h, hn => by
    obtain ⟨c, cs, d, g, rfl, hk, -, hs, hnames, hstar, hty, hg, hms⟩ := h
    obtain ⟨hc, hcs⟩ := List.forall_mem_cons.mp hn
    rw [List.mapM_cons, structField_embedded hk hnames hstar (hs.child? (.head _)) (hs.child? (.tail _ (.head _))),
      tagOf_derived hg, ty.read_derived hty (hs.height_lt (.head _) (Nat.le_of_lt hc)), readMembers_derived ms hms hcs]
    simp only [bind_assoc, pure_bind]
    rfl
  | .embedded (some star) ty tag :: ms, ts, n, h, hn => by
    obtain ⟨c, cs, d, g, rfl, hk, hcpos, hs, hnames, hstar, hty, hg, hms⟩ := h
    obtain ⟨hc, hcs⟩ := List.forall_mem_cons.mp hn
    rw [List.mapM_cons, structField_embedded hk hnames hstar (hs.child? (.head _)) (hs.child? (.tail _ (.head _))),
      tagOf_derived hg, ty.read_derived hty (hs.height_lt (.head _) (Nat.le_of_lt hc)), readMembers_derived ms hms hcs, hcpos]
    simp only [bind_assoc, pure_bind]
    rfl

theorem readElements_derived : ∀ (es : List Element) {ts : List Parse.Node} {n : Nat}, Element.AllDerive s.pos es ts →
    (∀ c ∈ ts, c.height < n) → ts.mapM (upTo s.limit n).element = readElements s es
  | [], ts, n, h, _ => by
    rw [show ts = [] from h]
    rfl
  | .method m sig :: es, ts, n, h, hn => by
    obtain ⟨c, cs, a, b, d, rfl, hk, hcpos, hs, hm, hsig, hes⟩ := h
    obtain ⟨hc, hcs⟩ := List.forall_mem_cons.mp hn
    rw [List.mapM_cons, element_method hk (hs.child? (.head _)), Name.ident_derived hm, hcpos,
      sig.read_derived hsig (hs.child? (.tail _ (.head _))) (hs.child? (.tail _ (.tail _ (.head _)))) (Nat.le_of_lt hc),
      readElements_derived es hes hcs]
    simp only [bind_assoc, pure_bind]
    rfl
  | .embedded ty :: es, ts, n, h, hn => by
    obtain ⟨c, cs, d, rfl, hk, -, hparts, hty, hes⟩ := h
    obtain ⟨hc, hcs⟩ := List.forall_mem_cons.mp hn
    rw [List.mapM_cons, element_embedded hk hparts, ty.read_derived hty (only_height_lt hparts (Nat.le_of_lt hc)),
      readElements_derived es hes hcs]
    simp only [bind_assoc, pure_bind]
    rfl
  | .union start :: es, ts, n, h, _ => by
    obtain ⟨c, cs, rfl, hk, hcpos, hparts, -⟩ := h
    rw [List.mapM_cons, element_union hk hparts, unsupported_eq hk hcpos]
    rfl

theorem Block.read_derived : ∀ (b : Block) {t : Parse.Node} {n : Nat}, b.Derives s.pos t → t.height ≤ n →
    (upTo s.limit n).block t = b.read s
  | .mk ss start, t, n, h, hn => by
    obtain ⟨-, hpos, hss⟩ := h
    rw [block_eq hss.row, readRow_derived ss hss (parts_height_lt hn), hpos]
    rfl

theorem readRow_derived : ∀ (ss : List Stmt) {ts : List Parse.Node} {n : Nat}, Stmt.RowDerives s.pos ss ts →
    (∀ c ∈ ts, c.height < n) → (upTo s.limit n).rowStmts ts = readStmts s ss
  | [], ts, n, h, _ => by
    rw [show ts = [] from h]
    rfl
  | x :: xs, ts, n, h, hn => by
    obtain ⟨l, c, cs, rfl, -, hparts, hx, hxs⟩ := h
    have hl : l.height < n := hn l (.head _)
    obtain ⟨m, rfl⟩ : ∃ m, n = m + 1 := ⟨n - 1, by omega⟩
    have hkinds : ∀ d ∈ l.parts, d.kind ≠ "statement_list" := by
      rw [hparts]
      refine fun d hd hk => ?_
      rcases List.mem_cons.mp hd with rfl | hd
      · exact hx.not_other (hk ▸ by decide)
      · exact hxs.not_other d hd (hk ▸ by decide)
    obtain ⟨hc, hcs⟩ := List.forall_mem_cons.mp (hparts ▸ parts_height_lt (Nat.le_of_lt_succ hl))
    rw [rowStmts_one, stmts_upTo, stmtList_row hkinds, hparts, List.mapM_cons, x.read_derived hx hc,
      readStmts_derived xs hxs hcs]
    rfl

theorem readStmts_derived : ∀ (xs : List Stmt) {ts : List Parse.Node} {n : Nat}, Stmt.AllDerive s.pos xs ts →
    (∀ c ∈ ts, c.height < n) → ts.mapM (upTo s.limit n).stmt = readStmts s xs
  | [], ts, n, h, _ => by
    rw [show ts = [] from h]
    rfl
  | x :: xs, ts, n, h, hn => by
    obtain ⟨c, cs, rfl, hx, hxs⟩ := h
    obtain ⟨hc, hcs⟩ := List.forall_mem_cons.mp hn
    rw [List.mapM_cons, x.read_derived hx hc, readStmts_derived xs hxs hcs]
    rfl

theorem readStmt?_derived : ∀ (x : Option Stmt) {o : Option Parse.Node} {n : Nat}, Stmt.OptionDerives s.pos x o →
    (∀ c ∈ o, c.height < n) → (upTo s.limit n).stmtOption o = readStmt? s x
  | none, o, n, h, _ => by
    rw [show o = none from h]
    rfl
  | some x, o, n, h, hn => by
    obtain ⟨c, rfl, hx⟩ := h
    rw [stmtOption_some, x.read_derived hx (hn c rfl)]
    rfl

theorem Stmt.read_derived : ∀ (x : Stmt) {t : Parse.Node} {n : Nat}, x.Derives s.pos t → t.height < n →
    (upTo s.limit n).stmt t = x.read s
  | .mk k p, t, n + 1, h, hn => by
    obtain ⟨hpos, h⟩ := h
    refine nested_eq hpos ?_
    rw [k.read_derived h hpos (Nat.le_of_lt_succ hn), hpos]

theorem StmtKind.read_derived : ∀ (k : StmtKind) {t : Parse.Node} {p : Place} {n : Nat}, k.Derives s.pos t →
    t.pos = s.pos p → t.height ≤ n → (upTo s.limit n).stmtKindRule t = k.read s p
  | .decl d, t, p, n, h, hpos, hn => by
    have hd : d.Derives s.pos t := h
    rw [stmtKindRule_decl hd.kind, d.read_derived hd hpos hn]
    rfl
  | .expr x, t, p, n, h, _, hn => by
    rcases h with ⟨hk, c, hc, hx⟩ | ⟨hk, c, hs, hx⟩
    · rw [stmtKindRule_expr hk hc, x.read_derived hx (only_height_lt hc hn)]
      rfl
    · rw [stmtKindRule_received hk hs, x.read_derived hx (hs.height_lt (.tail _ (.head _)) hn)]
      rfl
  | .send ch value, t, p, n, h, _, hn => by
    obtain ⟨hk, a, b, hs, hch, hvalue⟩ := h
    rw [stmtKindRule_send hk hs, ch.read_derived hch (hs.height_lt (.head _) hn),
      value.read_derived hvalue (hs.height_lt (.tail _ (.head _)) hn)]
    rfl
  | .step x tok, t, p, n, h, _, hn => by
    obtain ⟨hk, c, hc, hx⟩ := h
    rw [stmtKindRule_step hk hc, x.read_derived hx (only_height_lt hc hn)]
    rfl
  | .assign left op right, t, p, n, h, _, hn => by
    obtain ⟨a, b, hs, hleft, hright, hop⟩ := h
    have hrule : (upTo s.limit n).stmtKindRule t = do
        return .assign (← (upTo s.limit n).exprList a) op (← (upTo s.limit n).exprList b) := by
      rcases hop with ⟨hk, rfl⟩ | ⟨hk, o, ho, rfl⟩
      · exact stmtKindRule_define hk hs
      · exact stmtKindRule_assign hk hs ho
    rw [hrule, exprList_derived left hleft (Nat.le_of_lt (hs.height_lt (.head _) hn)),
      exprList_derived right hright (Nat.le_of_lt (hs.height_lt (.tail _ (.head _)) hn))]
    rfl
  | .receive left op right, t, p, n, h, _, hn => by
    obtain ⟨hk, hop, a, b, hs, hleft, hright⟩ := h
    rw [stmtKindRule_receive hk hs, ← hop, exprList_derived left hleft (Nat.le_of_lt (hs.height_lt (.head _) hn)),
      right.read_derived hright (hs.height_lt (.tail _ (.head _)) hn)]
    rfl
  | .returnStmt results, t, p, n, h, _, hn => by
    obtain ⟨hk, o, hparts, hresults⟩ := h
    rw [stmtKindRule_return hk hparts,
      listOption_derived results hresults fun c hc => parts_height_lt hn c (hparts ▸ Option.mem_toList.mpr hc)]
    rfl
  | .goStmt x, t, p, n, h, _, hn => by
    obtain ⟨hk, c, hc, hx⟩ := h
    rw [stmtKindRule_go hk hc, x.read_derived hx (only_height_lt hc hn)]
    rfl
  | .deferStmt x, t, p, n, h, _, hn => by
    obtain ⟨hk, c, hc, hx⟩ := h
    rw [stmtKindRule_defer hk hc, x.read_derived hx (only_height_lt hc hn)]
    rfl
  | .labeled label none, t, p, n, h, hpos, hn => by
    obtain ⟨hk, l, o, hlabel, hparts, hids, hl, rfl⟩ := h
    rw [stmtKindRule_labeled hk hlabel hparts hids, Name.ident_derived hl, hpos]
    rfl
  | .labeled label (some x), t, p, n, h, _, hn => by
    obtain ⟨hk, l, o, hlabel, hparts, hids, hl, c, rfl, hx⟩ := h
    have hc : c.height < n := parts_height_lt hn c (hparts ▸ .tail _ (.head _))
    rw [stmtKindRule_labeled hk hlabel hparts hids, Name.ident_derived hl]
    simp only [x.read_derived hx hc]
    rfl
  | .branch jump, t, p, n, h, _, _ => by
    obtain ⟨hk, hlabel⟩ := h
    have hempty (hjump : jump = .fallthrough) : t.parts = [] := by
      rw [hjump] at hlabel
      exact List.forall₂_nil_left_iff.mp hlabel
    rw [stmtKindRule_branch hk hempty, ← List.head?_map, Name.idents_derived hlabel, List.head?_map,
      Option.head?_toList]
    rfl
  | .block (.mk ss _), t, p, n, h, hpos, hn => by
    obtain ⟨hk, hss⟩ := h
    rw [stmtKindRule_block hk, block_eq hss.row, readRow_derived ss hss (parts_height_lt hn), hpos]
    simp only [bind_assoc, pure_bind]
    rfl
  | .empty, t, p, n, h, _, _ => by
    rw [stmtKindRule_empty h]
    rfl
  | .conditional c, t, p, n, h, _, hn => c.read_derived h hn
  | .loop header body, t, p, n, h, _, hn => by
    obtain ⟨hk, o, b, hchild, hparts, hids, hheader, hbody⟩ := h
    have hlt : ∀ c ∈ o, c.height < n := fun c hc =>
      parts_height_lt hn c (hparts ▸ List.mem_append_left _ (Option.mem_toList.mpr hc))
    rw [stmtKindRule_for hk hchild hparts hids, body.read_derived hbody (Nat.le_of_lt (child?_height_lt hchild hn b rfl))]
    exact bind_congr fun b => header.read_derived b hheader hlt
  | .switch init tag clauses, t, p, n, h, hpos, hn => by
    obtain ⟨hk, a, b, cs, hinit, hvalue, hparts, ha, hb, hcs⟩ := h
    have hheader : ∀ c ∈ a.toList ++ b.toList, c.kind ∉ otherKinds :=
      List.forall_mem_append.mpr ⟨fun c hc => ha.not_other c (Option.mem_toList.mp hc),
        fun c hc => hb.not_other c (Option.mem_toList.mp hc)⟩
    rw [stmtKindRule_switch hk hinit hvalue hparts hheader,
      readClauses_derived clauses hcs fun c hc => parts_height_lt hn c (hparts ▸ List.mem_append_right _ hc),
      readStmt?_derived init ha (child?_height_lt hinit hn), readOption_derived tag hb (child?_height_lt hvalue hn), hpos]
    rfl
  | .typeSwitch init names value clauses, t, p, n, h, hpos, hn => by
    obtain ⟨hk, a, b, c, cs, hinit, halias, hvalue, hparts, ha, hb, hc, hcs⟩ := h
    have hheader : ∀ d ∈ a.toList ++ b.toList ++ [c], d.kind ∉ otherKinds :=
      List.forall_mem_append.mpr
        ⟨List.forall_mem_append.mpr ⟨fun d hd => ha.not_other d (Option.mem_toList.mp hd),
          fun d hd => hb.not_other d (Option.mem_toList.mp hd)⟩, List.forall_mem_singleton.mpr hc.not_other⟩
    rw [List.append_cons] at hparts
    rw [stmtKindRule_typeSwitch hk hinit hvalue hparts hheader,
      typeSwitchAssign_derived names hb halias (value.read_derived hc (child?_height_lt hvalue hn c rfl)) hc.start hn,
      readTypeClauses_derived clauses hcs fun d hd => parts_height_lt hn d (hparts ▸ List.mem_append_right _ hd),
      readStmt?_derived init ha (child?_height_lt hinit hn), hpos]
    simp only [bind_assoc, pure_bind]
    rfl
  | .select clauses, t, p, n, h, hpos, hn => by
    rw [stmtKindRule_select h.1, readCommClauses_derived clauses h.2 (parts_height_lt hn), hpos]
    rfl

theorem typeSwitchAssign_derived : ∀ (names : List Node) {t a : Parse.Node} {o : Option Parse.Node} {n : Nat}
    {act : Reading Expr} {p : Place}, Node.ListDerives? s.pos names o → t.child? "alias" = o →
    (upTo s.limit n).expr a = act → a.pos = s.pos p → t.height ≤ n →
      (upTo s.limit n).typeSwitchAssign t a = do
        let x ← act
        let asserted : Expr := .mk (.typeAssert x none) (s.pos p)
        let left ← readAll s names
        return match names with
          | [] => .mk (.expr asserted) (s.pos p)
          | n :: _ => .mk (.assign left ":=" [asserted]) (s.pos n.start)
  | [], t, a, o, n, act, p, h, halias, hact, hpos, _ => by
    rw [typeSwitchAssign_plain (halias.trans h), hact, hpos]
    rfl
  | x :: xs, t, a, o, n, act, p, h, halias, hact, hpos, hn => by
    obtain ⟨l, rfl, hk, hlpos, c, cs, hparts, hx, hxs⟩ := h
    obtain ⟨hc, hcs⟩ := List.forall_mem_cons.mp (hparts ▸ parts_height_lt (Nat.le_of_lt (child?_height_lt halias hn l rfl)))
    rw [typeSwitchAssign_names halias hk, hact, hpos, hlpos, hparts, List.mapM_cons, x.read_derived hx hc,
      readAll_derived xs hxs hcs]
    rfl

theorem Conditional.read_derived : ∀ (c : Conditional) {t : Parse.Node} {n : Nat}, c.Derives s.pos t → t.height ≤ n →
    (upTo s.limit n).stmtKindRule t = c.read s
  | .mk init cond body els _, t, n, h, hn => by
    obtain ⟨hk, a, b, c, d, hs, hinit, hcond, hbody, hels⟩ := h
    rw [stmtKindRule_if hk hs,
      readElse_derived els hels (hs.option_height_lt (.tail _ (.tail _ (.tail _ (.head _)))) hn),
      readStmt?_derived init hinit (hs.option_height_lt (.head _) hn),
      cond.read_derived hcond (hs.height_lt (.tail _ (.head _)) hn),
      body.read_derived hbody (Nat.le_of_lt (hs.height_lt (.tail _ (.tail _ (.head _))) hn))]
    rfl

theorem readElse_derived : ∀ (els : Option Else) {o : Option Parse.Node} {n : Nat}, Else.OptionDerives s.pos els o →
    (∀ c ∈ o, c.height < n) → (upTo s.limit n).stmtOption o = readElse s els
  | none, o, n, h, _ => by
    rw [show o = none from h]
    rfl
  | some (.block (.mk ss start)), o, n, h, hn => by
    obtain ⟨t, rfl, hk, hpos, hss⟩ := h
    have hlt : t.height < n := hn t rfl
    obtain ⟨m, rfl⟩ : ∃ m, n = m + 1 := ⟨n - 1, by omega⟩
    have hblock : (upTo s.limit m).stmtKindRule t = do
        return .block (.mk (← readStmts s ss) (s.pos start)) := by
      rw [stmtKindRule_block hk, block_eq hss.row,
        readRow_derived ss hss (parts_height_lt (Nat.le_of_lt_succ hlt)), hpos]
      simp only [bind_assoc, pure_bind]
    rw [stmtOption_nested hpos hblock]
    simp only [readElse, bind_assoc, pure_bind]
  | some (.chain (.mk init cond body els start)), o, n, h, hn => by
    obtain ⟨t, rfl, hpos, hk, a, b, c, d, hs, hinit, hcond, hbody, hels⟩ := h
    have hlt : t.height < n := hn t rfl
    obtain ⟨m, rfl⟩ : ∃ m, n = m + 1 := ⟨n - 1, by omega⟩
    have hm : t.height ≤ m := Nat.le_of_lt_succ hlt
    have hif : (upTo s.limit m).stmtKindRule t = (Conditional.mk init cond body els start).read s := by
      rw [stmtKindRule_if hk hs,
        readElse_derived els hels (hs.option_height_lt (.tail _ (.tail _ (.tail _ (.head _)))) hm),
        readStmt?_derived init hinit (hs.option_height_lt (.head _) hm),
        cond.read_derived hcond (hs.height_lt (.tail _ (.head _)) hm),
        body.read_derived hbody (Nat.le_of_lt (hs.height_lt (.tail _ (.tail _ (.head _))) hm))]
      rfl
    rw [stmtOption_nested hpos hif]
    rfl

theorem LoopHeader.read_derived : ∀ (header : LoopHeader) (body : GoRebuild.Block) {o : Option Parse.Node} {n : Nat},
    header.Derives s.pos o → (∀ c ∈ o, c.height < n) → (upTo s.limit n).header body o = header.read s body
  | .forever, body, o, n, h, _ => by
    rw [show o = none from h]
    rfl
  | .while cond, body, o, n, h, hn => by
    obtain ⟨t, rfl, hcond⟩ := h
    rw [header_some, loopHeader_while hcond.not_other, cond.read_derived hcond (hn t rfl)]
    rfl
  | .steps init cond post, body, o, n, h, hn => by
    obtain ⟨t, rfl, hk, a, b, c, hs, hinit, hcond, hpost⟩ := h
    have hlt : t.height ≤ n := (Nat.le_of_lt (hn t rfl))
    rw [header_some, loopHeader_clause hk hs, readStmt?_derived init hinit (hs.option_height_lt (.head _) hlt),
      readOption_derived cond hcond (hs.option_height_lt (.tail _ (.head _)) hlt),
      readStmt?_derived post hpost (hs.option_height_lt (.tail _ (.tail _ (.head _))) hlt)]
    rfl
  | .over x, body, o, n, h, hn => by
    obtain ⟨t, rfl, hk, a, hs, hx⟩ := h
    rw [header_some, loopHeader_over hk hs, x.read_derived hx (hs.height_lt (.tail _ (.head _)) (Nat.le_of_lt (hn t rfl)))]
    rfl
  | .assigning first more op x, body, o, n, h, hn => by
    obtain ⟨t, rfl, hk, hop, l, a, hs, hl, ⟨c, cs, hparts, hfirst, hmore⟩, hx⟩ := h
    have hlt : t.height ≤ n := (Nat.le_of_lt (hn t rfl))
    obtain ⟨hc, hcs⟩ := List.forall_mem_cons.mp (hparts ▸ parts_height_lt (Nat.le_of_lt (hs.height_lt (.head _) hlt)))
    rw [header_some, loopHeader_range hk hs hl, ← hop, hparts, List.mapM_cons, first.read_derived hfirst hc,
      readAll_derived more hmore hcs, x.read_derived hx (hs.height_lt (.tail _ (.head _)) hlt)]
    simp only [bind_assoc, pure_bind]
    rfl

theorem readClauses_derived : ∀ (clauses : List Clause) {ts : List Parse.Node} {n : Nat},
    Clause.AllDerive s.pos false clauses ts → (∀ c ∈ ts, c.height < n) →
      List.filterMap id <$> ts.mapM (upTo s.limit n).caseClause = readClauses s clauses
  | [], ts, n, h, _ => by
    rw [show ts = [] from h]
    rfl
  | .case first more body start :: clauses, ts, n, h, hn => by
    obtain ⟨t, rest, rfl, hpos, ⟨vs, row, hparts, hids, hrow, hk, v, c, cs, rfl, hv, hvk, hvparts, hfirst, hmore⟩, hrest⟩ := h
    obtain ⟨ht, hts⟩ := List.forall_mem_cons.mp hn
    obtain ⟨hc, hcs⟩ := List.forall_mem_cons.mp (hvparts ▸ parts_height_lt (Nat.le_of_lt (child?_height_lt hv (Nat.le_of_lt ht) v rfl)))
    rw [clauses_cons (caseClause_values hk hv hvk hparts hids hrow.row), hvparts, List.mapM_cons,
      first.read_derived hfirst hc, readAll_derived more hmore hcs,
      readRow_derived body hrow fun d hd => parts_height_lt (Nat.le_of_lt ht) d (hparts ▸ List.mem_append_right _ hd),
      readClauses_derived clauses hrest hts, hpos]
    simp only [bind_assoc, pure_bind]
    rfl
  | .otherwise body start :: clauses, ts, n, h, hn => by
    obtain ⟨t, rest, rfl, hpos, hk, hrow, hrest⟩ := h
    obtain ⟨ht, hts⟩ := List.forall_mem_cons.mp hn
    rw [clauses_cons (caseClause_default hk hrow.row), readRow_derived body hrow (parts_height_lt (Nat.le_of_lt ht)),
      readClauses_derived clauses hrest hts, hpos]
    simp only [bind_assoc, pure_bind]
    rfl

theorem readTypeClauses_derived : ∀ (clauses : List Clause) {ts : List Parse.Node} {n : Nat},
    Clause.AllDerive s.pos true clauses ts → (∀ c ∈ ts, c.height < n) →
      List.filterMap id <$> ts.mapM (upTo s.limit n).typeClause = readClauses s clauses
  | [], ts, n, h, _ => by
    rw [show ts = [] from h]
    rfl
  | .case first more body start :: clauses, ts, n, h, hn => by
    obtain ⟨t, rest, rfl, hpos, ⟨vs, row, hparts, hids, hrow, hk, htypes, c, cs, rfl, hfirst, hmore⟩, hrest⟩ := h
    obtain ⟨ht, hts⟩ := List.forall_mem_cons.mp hn
    have hlt : ∀ d ∈ c :: cs ++ row, d.height < n := hparts ▸ parts_height_lt (Nat.le_of_lt ht)
    obtain ⟨hc, hcs⟩ := List.forall_mem_cons.mp (List.forall_mem_append.mp hlt).1
    rw [clauses_cons (typeClause_types hk htypes hparts hids hrow.row), List.mapM_cons, first.read_derived hfirst hc,
      readAll_derived more hmore hcs, readRow_derived body hrow (List.forall_mem_append.mp hlt).2,
      readTypeClauses_derived clauses hrest hts, hpos]
    simp only [bind_assoc, pure_bind]
    rfl
  | .otherwise body start :: clauses, ts, n, h, hn => by
    obtain ⟨t, rest, rfl, hpos, hk, hrow, hrest⟩ := h
    obtain ⟨ht, hts⟩ := List.forall_mem_cons.mp hn
    rw [clauses_cons (typeClause_default hk hrow.row), readRow_derived body hrow (parts_height_lt (Nat.le_of_lt ht)),
      readTypeClauses_derived clauses hrest hts, hpos]
    simp only [bind_assoc, pure_bind]
    rfl

theorem readCommClauses_derived : ∀ (clauses : List CommClause) {ts : List Parse.Node} {n : Nat},
    CommClause.AllDerive s.pos clauses ts → (∀ c ∈ ts, c.height < n) →
      List.filterMap id <$> ts.mapM (upTo s.limit n).commClause = readCommClauses s clauses
  | [], ts, n, h, _ => by
    rw [show ts = [] from h]
    rfl
  | .mk none body start :: clauses, ts, n, h, hn => by
    obtain ⟨t, rest, rfl, hpos, hk, hrow, hrest⟩ := h
    obtain ⟨ht, hts⟩ := List.forall_mem_cons.mp hn
    rw [clauses_cons (commClause_default hk hrow.row), readRow_derived body hrow (parts_height_lt (Nat.le_of_lt ht)),
      readCommClauses_derived clauses hrest hts, hpos]
    simp only [bind_assoc, pure_bind]
    rfl
  | .mk (some comm) body start :: clauses, ts, n, h, hn => by
    obtain ⟨t, rest, c, row, rfl, hpos, hk, hc, hparts, hids, hcomm, hrow, hrest⟩ := h
    obtain ⟨ht, hts⟩ := List.forall_mem_cons.mp hn
    rw [clauses_cons (commClause_waiting hk hc hparts (by simpa using hids) hrow.row),
      comm.read_derived hcomm (child?_height_lt hc (Nat.le_of_lt ht) c rfl),
      readRow_derived body hrow fun d hd => parts_height_lt (Nat.le_of_lt ht) d (hparts ▸ .tail _ hd),
      readCommClauses_derived clauses hrest hts, hpos]
    simp only [readCommClauses, readStmt?, bind_assoc, pure_bind]

theorem Decl.read_derived : ∀ (d : Decl) {t : Parse.Node} {p : Place} {n : Nat}, d.Derives s.pos t →
    t.pos = s.pos p → t.height ≤ n → (upTo s.limit n).genDecl t = d.read s p
  | .value tok spec _, t, p, n, h, hpos, hn => by
    obtain ⟨hk, hgroup, c, hc, hspec⟩ := h
    rw [genDecl_one (declToken_value hk) hgroup hc hspec.not_list,
      spec.read_derived hspec (Nat.le_of_lt (only_height_lt hc hn)), hpos]
    rfl
  | .values tok specs _, t, p, n, h, hpos, hn => by
    obtain ⟨hk, ⟨hgroup, hspecs⟩ | ⟨l, hl, hlk, hspecs⟩⟩ := h
    · rw [genDecl_many (declToken_value hk) hgroup hspecs.not_list,
        readValueSpecs_derived specs hspecs (parts_height_lt hn), hpos]
      rfl
    · rw [genDecl_list (declToken_value hk) hl hlk,
        readValueSpecs_derived specs hspecs (parts_height_lt (Nat.le_of_lt (only_height_lt hl hn))), hpos]
      rfl
  | .type spec _, t, p, n, h, hpos, hn => by
    obtain ⟨hk, hgroup, c, hc, hspec⟩ := h
    rw [genDecl_one (declToken_type hk) hgroup hc hspec.not_list,
      spec.read_derived hspec (Nat.le_of_lt (only_height_lt hc hn)), hpos]
    rfl
  | .types specs _, t, p, n, h, hpos, hn => by
    obtain ⟨hk, hgroup, hspecs⟩ := h
    rw [genDecl_many (declToken_type hk) hgroup hspecs.not_list,
      readTypeSpecs_derived specs hspecs (parts_height_lt hn), hpos]
    rfl

theorem ValueSpec.read_derived : ∀ (x : ValueSpec) {tok : ValueTok} {t : Parse.Node} {n : Nat},
    x.Derives s.pos tok t → t.height ≤ n → (upTo s.limit n).spec t = x.read s
  | .mk name more ty values, tok, t, n, h, hn => by
    obtain ⟨hk, -, ns, a, b, -, hnames, htype, hvalue, hns, hty, hvalues⟩ := h
    rw [spec_value hk htype hvalue, hnames, Name.idents_derived hns,
      readOption_derived ty hty (child?_height_lt htype hn),
      listOption_derived values hvalues (child?_height_lt hvalue hn)]
    rfl

theorem readValueSpecs_derived : ∀ (xs : List ValueSpec) {tok : ValueTok} {ts : List Parse.Node} {n : Nat},
    ValueSpec.AllDerive s.pos tok xs ts → (∀ c ∈ ts, c.height < n) →
      ts.mapM (upTo s.limit n).spec = readValueSpecs s xs
  | [], tok, ts, n, h, _ => by
    rw [show ts = [] from h]
    rfl
  | x :: xs, tok, ts, n, h, hn => by
    obtain ⟨c, cs, rfl, hx, hxs⟩ := h
    obtain ⟨hc, hcs⟩ := List.forall_mem_cons.mp hn
    rw [List.mapM_cons, x.read_derived hx (Nat.le_of_lt hc), readValueSpecs_derived xs hxs hcs]
    rfl

theorem TypeSpec.read_derived : ∀ (x : TypeSpec) {t : Parse.Node} {n : Nat}, x.Derives s.pos t → t.height ≤ n →
    (upTo s.limit n).spec t = x.read s
  | .mk name none aliased ty, t, n, h, hn => by
    obtain ⟨hk, -, hargs, a, b, c, hs, hname, rfl, hty⟩ := h
    rw [spec_type hk hargs hs, Name.ident_derived hname,
      ty.read_derived hty (hs.height_lt (.tail _ (.tail _ (.head _))) hn)]
    rfl
  | .mk name (some params) aliased ty, t, n, h, _ => by
    obtain ⟨hk, -, -, a, b, c, hs, -, ⟨d, rfl, hdk, hdpos⟩, -⟩ := h
    rw [spec_generic hk (hs.child? (.tail _ (.head _))), unsupported_eq hdk hdpos]
    rfl

theorem readTypeSpecs_derived : ∀ (xs : List TypeSpec) {ts : List Parse.Node} {n : Nat},
    TypeSpec.AllDerive s.pos xs ts → (∀ c ∈ ts, c.height < n) → ts.mapM (upTo s.limit n).spec = readTypeSpecs s xs
  | [], ts, n, h, _ => by
    rw [show ts = [] from h]
    rfl
  | x :: xs, ts, n, h, hn => by
    obtain ⟨c, cs, rfl, hx, hxs⟩ := h
    obtain ⟨hc, hcs⟩ := List.forall_mem_cons.mp hn
    rw [List.mapM_cons, x.read_derived hx (Nat.le_of_lt hc), readTypeSpecs_derived xs hxs hcs]
    rfl

end

end Grammar

end GoRebuild
