import GoRebuild.Proofs.Reader.Derived

/-!
# Reading a source is reading its derivation

* `Import.read_derived`, `importDecl_one`, `importDecl_list` : imports;
* `Func.read_derived`, `Item.read_derived` : entries at top level;
* `readFile_derived` : the tree of a source without errors.
-/

namespace GoRebuild
open Parse.Node Reading
open Lexical (Place)

namespace Grammar
open Readers

variable {s : Setting} {t c : Parse.Node} {p : Place} {n : Nat}

theorem importName_derived {name : Option ImportName} {o : Option Parse.Node} (h : ImportNameDerives name o) :
    o.map GoRebuild.importName = name := by
  match name with
  | none => rw [show o = none from h]; rfl
  | some .dot =>
    obtain ⟨c, rfl, hk⟩ := h
    rw [Option.map_some, GoRebuild.importName, hk]
    rfl
  | some .blank =>
    obtain ⟨c, rfl, hk⟩ := h
    rw [Option.map_some, GoRebuild.importName, hk]
    rfl
  | some (.named text) =>
    obtain ⟨c, rfl, hk, rfl⟩ := h
    rw [Option.map_some, GoRebuild.importName, hk]
    rfl

theorem Import.read_derived {i : Import} (h : i.Derives s.pos t) :
    GoRebuild.importSpec t = pure (.imported (i.read s)) := by
  obtain ⟨-, hpos, a, b, hs, hname, hpath⟩ := h
  rw [GoRebuild.importSpec, require_eq (hs.child? (.tail _ (.head _))), hs.child? (.head _), importName_derived hname, hpos,
    pure_bind, hpath]
  rfl

theorem Import.readAll_derived {is : List Import} {ts : List Parse.Node} (h : List.Forall₂ (Import.Derives s.pos) is ts) :
    ts.mapM GoRebuild.importSpec = pure (is.map fun i => .imported (i.read s)) := by
  induction h with
  | nil => rfl
  | cons hi _ ih => rw [List.mapM_cons, Import.read_derived hi, ih]; rfl

theorem importDecl_one {spec : Import} (hpos : t.pos = s.pos p) (hc : t.parts = [c]) (hspec : spec.Derives s.pos c) :
    GoRebuild.importDecl t = pure (.mk .importTok (s.pos p) false [.imported (spec.read s)]) := by
  have hnone : ([c].any fun d => d.kind == "import_spec_list") = false := by simp [hspec.1]
  rw [GoRebuild.importDecl, entries_eq_parts, hc, hnone, List.mapM_cons, hpos]
  simp only [hspec.1, Import.read_derived hspec]
  rfl

theorem importDecl_list {specs : List Import} (hpos : t.pos = s.pos p) (hc : t.parts = [c])
    (hk : c.kind = "import_spec_list") (hspecs : List.Forall₂ (Import.Derives s.pos) specs c.parts) :
    GoRebuild.importDecl t = pure (.mk .importTok (s.pos p) true (specs.map fun i => .imported (i.read s))) := by
  have hlist : ([c].any fun d => d.kind == "import_spec_list") = true := by simp [hk]
  rw [GoRebuild.importDecl, entries_eq_parts, hc, hlist, List.mapM_cons, hpos]
  simp only [hk, entries_eq_parts, Import.readAll_derived hspecs, List.mapM_nil, pure_bind, List.flatten_cons,
    List.flatten_nil, List.append_nil]

theorem Func.read_derived {f : Func} (h : f.Derives s.pos t) (hn : t.height ≤ n) :
    (upTo s.limit n).funcDecl t = f.read s := by
  obtain ⟨-, hpos, hargs, a, b, c, d, e, g, hs, hrecv, hname, hparams, hsig, hbody⟩ := h
  cases hp : f.typeParams with
  | some p =>
    obtain ⟨d, rfl, hk, hdpos⟩ : ParamsDerive s.pos (some p) c := hp ▸ hparams
    rw [Readers.funcDecl, rejectGenerics, hs.child? (.tail _ (.tail _ (.head _))), Func.read, hp]
    simp only [unsupported_eq hk hdpos]
    rfl
  | none =>
    have hnone : c = none := by
      rw [hp] at hparams
      exact hparams
    subst hnone
    have hrecv' : a.mapM (upTo s.limit n).params = f.recv.mapM (readParams s) := by
      cases hr : f.recv with
      | none =>
        rw [hr] at hrecv
        rw [show a = none from hrecv]
        rfl
      | some ps =>
        rw [hr] at hrecv
        obtain ⟨c, rfl, -, hps⟩ := hrecv
        have hlt : c.height < n := hs.height_lt (.head _) hn
        exact congrArg (some <$> ·)
          ((congrArg (List.mapM _) (entries_eq_parts c)).trans
            (readParams_derived ps hps (parts_height_lt (Nat.le_of_lt hlt))))
    have hbody' : g.mapM (upTo s.limit n).block = f.body.mapM (Block.read s) := by
      cases hb : f.body with
      | none =>
        rw [hb] at hbody
        rw [show g = none from hbody]
        rfl
      | some b =>
        rw [hb] at hbody
        obtain ⟨c, rfl, hb⟩ := hbody
        have hlt : c.height < n :=
          hs.height_lt (.tail _ (.tail _ (.tail _ (.tail _ (.tail _ (.head _)))))) hn
        exact congrArg (some <$> ·) (b.read_derived hb (Nat.le_of_lt hlt))
    rw [Readers.funcDecl, rejectGenerics_eq (hs.child? (.tail _ (.tail _ (.head _)))) hargs, pure_bind, hs.child? (.head _),
      hs.child? (.tail _ (.tail _ (.tail _ (.tail _ (.tail _ (.head _)))))), hrecv', hbody',
      require_eq (hs.child? (.tail _ (.head _))),
      f.sig.read_derived hsig (hs.child? (.tail _ (.tail _ (.tail _ (.head _)))))
        (hs.child? (.tail _ (.tail _ (.tail _ (.tail _ (.head _)))))) hn, hpos, Func.read, hp]
    simp only [pure_bind, Name.ident_derived hname]

theorem Item.read_derived {i : Item} (h : i.Derives s.pos t) (hn : t.height ≤ n) :
    (upTo s.limit n).topLevel t = i.read s := by
  cases i with
  | package m =>
    obtain ⟨hk, c, hc, hm⟩ := h
    rw [topLevel, hk, firstEntry_eq hc, Item.read, ← Name.ident_derived hm]
    rfl
  | importOne spec start =>
    obtain ⟨hk, hpos, c, hc, hspec⟩ := h
    rw [topLevel, hk, importDecl_one hpos hc hspec]
    rfl
  | imports specs start =>
    obtain ⟨hk, hpos, c, hc, hck, hspecs⟩ := h
    rw [topLevel, hk, importDecl_list hpos hc hck hspecs]
    rfl
  | func f =>
    have hk := h.1
    simp only [List.mem_cons, List.not_mem_nil, or_false] at hk
    rcases hk with hk | hk <;> rw [topLevel, hk, Func.read_derived h hn] <;> rfl
  | stmt x =>
    obtain ⟨k, p⟩ := x
    obtain ⟨hk, hpos, h⟩ := h
    cases k with
    | decl d =>
      have hd : d.Derives s.pos t := h
      have hkind := hd.kind
      simp only [List.mem_cons, List.not_mem_nil, or_false] at hkind
      rcases hkind with hkind | hkind | hkind <;> rw [topLevel, hkind, d.read_derived hd hpos hn] <;> rfl
    | step x tok => cases tok <;> rw [topLevel, hk, unsupported_eq hk hpos] <;> rfl
    | assign left op right =>
      have hname : t.kind = if op = ":=" then "short_var_declaration" else "assignment_statement" := hk
      by_cases hop : op = ":="
      · rw [if_pos hop] at hname
        rw [topLevel, hname, unsupported_eq hk hpos]
        rfl
      · rw [if_neg hop] at hname
        rw [topLevel, hname, unsupported_eq hk hpos]
        rfl
    | branch jump => cases jump <;> rw [topLevel, hk, unsupported_eq hk hpos] <;> rfl
    | _ => rw [topLevel, hk, unsupported_eq hk hpos]; rfl

theorem items_derived {is : List Item} {ts : List Parse.Node} (h : List.Forall₂ (Item.Derives s.pos) is ts)
    (hn : ∀ c ∈ ts, c.height ≤ n) : ts.mapM (upTo s.limit n).topLevel = is.mapM (Item.read s) := by
  induction h with
  | nil => rfl
  | cons hi _ ih =>
    obtain ⟨hc, hcs⟩ := List.forall_mem_cons.mp hn
    rw [List.mapM_cons, List.mapM_cons, Item.read_derived hi hc, ih hcs]

end Grammar

variable {s : Setting}

/-- **The tree of a source is read as its derivation is.** -/
theorem readFile_derived {items : List Grammar.Item} {root : Parse.Node} (h : Grammar.FileDerives s.pos items root)
    (herror : root.hasError = false) :
    readFile s.limit root = (do File.ofParts (← items.mapM (Grammar.Item.read s))) := by
  have hn : ∀ c ∈ root.parts, c.height ≤ root.height := fun c hc => Nat.le_of_lt (height_lt_of_parts hc)
  rw [readFile, herror, entries_eq_parts, Grammar.items_derived h.2 hn]
  rfl

end GoRebuild
