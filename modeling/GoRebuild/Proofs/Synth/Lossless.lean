import GoRebuild.Program.Generator
import GoRebuild.Proofs.Chain.Tokens
import GoRebuild.Proofs.Synth.Decimal
import GoRebuild.Proofs.Synth.Results
import GoRebuild.Proofs.Tree.Pieces
import GoRebuild.Proofs.Tree.Shape

/-!
# Synthesis loses nothing

The tokens that a chain prints are the tokens of the tree that it was made from, in order.

* `Scope.spelled` : what is printed before the dot of a selector: the local name of the package that the
  base names, or the base itself;
* `Builds s pkg c ps` : wherever the chain `c` stands, it prints the pieces `ps`;
* `Expr.builds_synth`, `Stmt.builds_synth`, `GenDecl.builds_synth`, `FuncDecl.builds_synth` : the rules;
* `synthesis_lossless` : the tokens of every chain.
-/

namespace GoRebuild
open Chain Synth

/-- What is printed for a base before a dot, where packages have these local names. -/
def Scope.spelled (s : Scope) (pkg : String → String) (base : String) : String :=
  match s.table.resolve base with
  | some path => pkg path
  | none => base

variable (s : Scope) (pkg : String → String)

/-! ## Chains and pieces -/

/-- The chain prints the pieces, or nothing for no pieces. -/
def Writes (c : Chain) (ps : List Piece) : Prop :=
  Prints pkg c (spellAll (s.spelled pkg) ps)

/-- The chain prints the pieces and takes a separator. -/
def Builds (c : Chain) (ps : List Piece) : Prop :=
  Shows pkg c (spellAll (s.spelled pkg) ps)

/-- Each chain of a list prints its pieces. -/
abbrev AllBuild (cs : List Chain) (rows : List (List Piece)) : Prop :=
  List.Forall₂ (Builds s pkg) cs rows

variable {s pkg} {c d : Chain} {cs ds : List Chain} {ps qs : List Piece} {rows : List (List Piece)}

theorem Builds.writes (h : Builds s pkg c ps) : Writes s pkg c ps :=
  h.toPrints

theorem writes_nil : Writes s pkg [] [] :=
  Prints.nil

theorem Builds.append_writes (hc : Builds s pkg c ps) (hd : Writes s pkg d qs) :
    Builds s pkg (c ++ d) (ps ++ qs) := by
  unfold Builds
  rw [spellAll_append]
  exact Shows.append hc hd

theorem Builds.append (hc : Builds s pkg c ps) (hd : Builds s pkg d qs) :
    Builds s pkg (c ++ d) (ps ++ qs) :=
  hc.append_writes hd.writes

theorem Writes.append_builds (hc : Writes s pkg c ps) (hd : Builds s pkg d qs) :
    Builds s pkg (c ++ d) (ps ++ qs) := by
  unfold Builds
  rw [spellAll_append]
  exact Prints.append_shows hc hd

theorem builds_name (text : String) : Builds s pkg (name text) [.name text] :=
  shows_name text

theorem builds_op (text : String) : Builds s pkg (op text) [.sym text] :=
  shows_op text

theorem builds_slot : Builds s pkg slot [] :=
  shows_slot

theorem builds_keyword (method text : String)
    (h : (isSolid method ∧ frame? method = none) ∧ word method = [text]) :
    Builds s pkg (keyword method) [.key text] := by
  have hshow : Shows pkg _ _ := shows_keyword method h.1
  rw [h.2] at hshow
  exact hshow

theorem AllBuild.one (h : Builds s pkg c ps) : AllBuild s pkg [c] [ps] :=
  .cons h .nil

theorem AllBuild.append {qrows : List (List Piece)} (hc : AllBuild s pkg cs rows)
    (hd : AllBuild s pkg ds qrows) : AllBuild s pkg (cs ++ ds) (rows ++ qrows) :=
  List.rel_append hc hd

theorem AllBuild.allShow (h : AllBuild s pkg cs rows) :
    AllShow pkg cs (rows.map (spellAll (s.spelled pkg))) := by
  rw [AllShow, List.forall₂_map_right_iff]
  exact h

/-- A call that takes chains prints them with pieces around and between them. -/
theorem builds_group (method : String) (opening separator closing : List Piece) {f : Frame}
    (hf : isSolid method ∧ frame? method = some f)
    (hp : f = ⟨spellAll (s.spelled pkg) opening, spellAll (s.spelled pkg) separator,
      spellAll (s.spelled pkg) closing⟩)
    (h : AllBuild s pkg cs rows) :
    Builds s pkg (group method cs) (opening ++ separator.intercalate rows ++ closing) := by
  subst hp
  have hshow := shows_group method hf h.allShow
  rwa [← spellAll_intercalate, ← spellAll_append, ← spellAll_append] at hshow

theorem builds_params (h : AllBuild s pkg cs rows) :
    Builds s pkg (group "Params" cs) (Piece.parens rows) :=
  builds_group "Params" [.sym "("] [.sym ","] [.comma, .sym ")"]
    (f := ⟨["("], [","], [")"]⟩) (by decide) rfl h

theorem builds_values (h : AllBuild s pkg cs rows) :
    Builds s pkg (group "Values" cs) (Piece.values rows) :=
  builds_group "Values" [.sym "\x7b"] [.sym ","] [.comma, .sym "\x7d"]
    (f := ⟨["\x7b"], [","], ["\x7d"]⟩) (by decide) rfl h

theorem builds_struct (h : AllBuild s pkg cs rows) :
    Builds s pkg (group "Struct" cs) (.key "struct" :: Piece.braces rows) :=
  builds_group "Struct" [.key "struct", .sym "\x7b"] [.stop] [.sym "\x7d"]
    (f := ⟨["struct", "\x7b"], [";"], ["\x7d"]⟩) (by decide) rfl h

theorem builds_interface (h : AllBuild s pkg cs rows) :
    Builds s pkg (group "Interface" cs) (.key "interface" :: Piece.braces rows) :=
  builds_group "Interface" [.key "interface", .sym "\x7b"] [.stop] [.sym "\x7d"]
    (f := ⟨["interface", "\x7b"], [";"], ["\x7d"]⟩) (by decide) rfl h

theorem builds_defs (h : AllBuild s pkg cs rows) :
    Builds s pkg (group "Defs" cs) (Piece.defs true rows) :=
  builds_group "Defs" [.sym "("] [.stop] [.sym ")"]
    (f := ⟨["("], [";"], [")"]⟩) (by decide) rfl h

theorem builds_index (h : AllBuild s pkg cs rows) :
    Builds s pkg (group "Index" cs) (Piece.brackets (Piece.separated (.sym ":") rows)) :=
  builds_group "Index" [.sym "["] [.sym ":"] [.sym "]"]
    (f := ⟨["["], [":"], ["]"]⟩) (by decide) rfl h

theorem builds_index_one (h : Builds s pkg c ps) :
    Builds s pkg (group "Index" [c]) (Piece.brackets ps) := by
  have hindex := builds_index (.one h)
  rwa [Piece.separated_one] at hindex

/-- A call with one chain. -/
theorem builds_group_one (method : String) (opening closing : List Piece) {f : Frame}
    (hf : isSolid method ∧ frame? method = some f)
    (hp : f = ⟨spellAll (s.spelled pkg) opening, [], spellAll (s.spelled pkg) closing⟩)
    (h : Builds s pkg c ps) : Builds s pkg (group method [c]) (opening ++ ps ++ closing) := by
  have hgroup := builds_group method opening [] closing hf hp (.one h)
  rwa [List.intercalate_singleton] at hgroup

theorem builds_parens (h : Builds s pkg c ps) :
    Builds s pkg (group "Parens" [c]) (.sym "(" :: ps ++ [.sym ")"]) :=
  builds_group_one "Parens" [.sym "("] [.sym ")"] (f := ⟨["("], [], [")"]⟩) (by decide) rfl h

theorem builds_map (h : Builds s pkg c ps) :
    Builds s pkg (group "Map" [c]) (.key "map" :: Piece.brackets ps) :=
  builds_group_one "Map" [.key "map", .sym "["] [.sym "]"]
    (f := ⟨["map", "["], [], ["]"]⟩) (by decide) rfl h

theorem builds_assert (h : Builds s pkg c ps) :
    Builds s pkg (group "Assert" [c]) (Piece.asserted ps) :=
  builds_group_one "Assert" [.sym ".", .sym "("] [.sym ")"]
    (f := ⟨[".", "("], [], [")"]⟩) (by decide) rfl h

/-- The header of a statement that begins with a keyword. -/
theorem builds_header (method keyword : String)
    (hf : isSolid method ∧ frame? method = some ⟨[keyword], [";"], []⟩)
    (h : AllBuild s pkg cs rows) : Builds s pkg (group method cs) (Piece.header keyword rows) := by
  have hgroup := builds_group method [.key keyword] [.stop] [] hf rfl h
  rwa [List.append_nil] at hgroup

theorem builds_if (h : AllBuild s pkg cs rows) :
    Builds s pkg (group "If" cs) (Piece.header "if" rows) :=
  builds_header "If" "if" (by decide) h

theorem builds_for (h : AllBuild s pkg cs rows) :
    Builds s pkg (group "For" cs) (Piece.header "for" rows) :=
  builds_header "For" "for" (by decide) h

theorem builds_switch (h : AllBuild s pkg cs rows) :
    Builds s pkg (group "Switch" cs) (Piece.header "switch" rows) :=
  builds_header "Switch" "switch" (by decide) h

/-- Dots behind the last of some chains are dots behind all of them. -/
theorem allBuild_spreadLast (h : AllBuild s pkg cs rows) (hne : cs ≠ []) :
    ∃ rows', AllBuild s pkg (spreadLast true cs) rows' ∧
      Piece.separated (.sym ",") rows' = Piece.separated (.sym ",") rows ++ [.sym "..."] := by
  induction h with
  | nil => exact absurd rfl hne
  | @cons c ps cs rows hc hcs ih =>
    cases cs with
    | nil =>
      cases hcs
      exact ⟨[ps ++ [.sym "..."]], .one (hc.append (builds_op "...")), by simp [Piece.separated]⟩
    | cons d cs =>
      obtain ⟨rows', hrows', heq⟩ := ih (by simp)
      have hlast : spreadLast true (c :: d :: cs) = c :: spreadLast true (d :: cs) := by
        simp [spreadLast, List.getLast?_eq_some_getLast]
      have hne : rows ≠ [] ∧ rows' ≠ [] := by
        constructor
        · rintro rfl
          cases hcs
        · rintro rfl
          simp [Piece.separated] at heq
      refine ⟨ps :: rows', hlast ▸ .cons hc hrows', ?_⟩
      unfold Piece.separated at heq ⊢
      rw [List.intercalate_cons_of_ne_nil hne.1, List.intercalate_cons_of_ne_nil hne.2, heq,
        List.append_assoc _ _ [Piece.sym "..."]]

theorem builds_call (h : AllBuild s pkg cs rows) (spread : Bool) (hspread : spread → cs ≠ []) :
    Builds s pkg (group "Call" (spreadLast spread cs)) (Piece.arguments spread rows) := by
  have hcall {cs : List Chain} {rows : List (List Piece)} (h : AllBuild s pkg cs rows) :=
    builds_group "Call" [.sym "("] [.sym ","] [.comma, .sym ")"]
      (f := ⟨["("], [","], [")"]⟩) (by decide) rfl h
  cases spread with
  | false => simpa [Piece.arguments, Piece.separated, spreadLast] using hcall h
  | true =>
    obtain ⟨rows', hrows', heq⟩ := allBuild_spreadLast h (hspread rfl)
    have hprint := hcall hrows'
    unfold Piece.separated at heq
    rw [heq] at hprint
    simpa [Piece.arguments, Piece.separated] using hprint

/-! ## Lists of chains -/

theorem allBuild_names (ns : List Ident) :
    AllBuild s pkg (ns.map fun n => name n.name) ((ns.map Ident.name).map fun n => [.name n]) := by
  induction ns with
  | nil => exact .nil
  | cons n ns ih => exact .cons (builds_name n.name) ih

/-- Several chains as one print a list without brackets. -/
theorem builds_listed (h : AllBuild s pkg cs rows) (hne : cs ≠ []) :
    Builds s pkg (listed cs) (Piece.separated (.sym ",") rows) := by
  cases h with
  | nil => exact absurd rfl hne
  | cons hc hcs =>
    cases hcs with
    | nil => simpa [listed, Piece.separated] using hc
    | cons hd hcs =>
      unfold Builds Piece.separated
      rw [spellAll_intercalate]
      exact shows_list (AllBuild.allShow (.cons hc (.cons hd hcs))) hne

theorem writes_listed (h : AllBuild s pkg cs rows) :
    Writes s pkg (listed cs) (Piece.separated (.sym ",") rows) := by
  cases h with
  | nil => exact writes_nil
  | cons hc hcs => exact (builds_listed (.cons hc hcs) (by simp)).writes

theorem writes_nameChain (ns : List Ident) : Writes s pkg (nameChain ns) (Piece.names (ns.map Ident.name)) :=
  writes_listed (allBuild_names ns)

theorem builds_nameChain {ns : List Ident} (h : ns ≠ []) :
    Builds s pkg (nameChain ns) (Piece.names (ns.map Ident.name)) :=
  builds_listed (allBuild_names ns) (by simpa using h)

/-! ## Blocks -/

theorem builds_block (h : AllBuild s pkg cs rows) :
    Builds s pkg (group "Block" cs) (Piece.braces rows) := by
  have hblock := shows_block h.allShow
  unfold Builds Piece.braces Piece.separated
  rwa [spellAll_append, spellAll, spellAll_intercalate]

theorem builds_default (h : AllBuild s pkg cs rows) :
    Builds s pkg (keyword "Default" ++ group "Block" cs)
      ([.key "default", .sym ":"] ++ Piece.separated .stop rows) := by
  have hclause := shows_clause "Default" [] (by decide) h.allShow
  unfold Builds Piece.separated
  rwa [spellAll_append, spellAll_intercalate]

theorem builds_case {xs : List Chain} {xrows : List (List Piece)} (hx : AllBuild s pkg xs xrows)
    (h : AllBuild s pkg cs rows) :
    Builds s pkg (group "Case" xs ++ group "Block" cs)
      (.key "case" :: Piece.separated (.sym ",") xrows ++ [.sym ":"] ++ Piece.separated .stop rows) := by
  have hclause := shows_clause "Case" (xs.map .code) (by decide) h.allShow
  rw [hx.allShow.items_eq] at hclause
  unfold Builds Piece.separated
  rwa [spellAll_append, spellAll_append, spellAll, spellAll_intercalate, spellAll_intercalate]

/-! ## Parts without parts -/

theorem BasicLit.builds_synth (l : BasicLit) (pos : Pos) :
    Gives (l.synth pos) fun c => Builds s pkg c [.lit l] := by
  have hname : Builds s pkg (name l.value) [.lit l] := shows_name l.value
  unfold BasicLit.synth
  split
  · split
    · rename_i n hn
      -- the literal is its value in decimal
      obtain ⟨m, rfl, htext⟩ := decimal?_eq_some hn
      have hlit : Builds s pkg (call "Lit" [.int m]) [.lit l] := by
        have hshow : Shows pkg _ _ := shows_call "Lit" (by decide) [.int m]
        change Shows pkg _ [toString m] at hshow
        rwa [htext] at hshow
      exact gives_pure hlit
    · exact gives_pure hname
  · exact gives_unsupported _ _
  all_goals exact gives_pure hname

theorem BranchTok.builds_chain (t : BranchTok) : Builds s pkg t.chain [.key t.text] := by
  cases t <;> exact builds_keyword _ _ (by decide)

theorem ChanDir.builds_chain (d : ChanDir) : Builds s pkg d.chain d.pieces := by
  have hchan : Builds s pkg (keyword "Chan") [.key "chan"] := builds_keyword _ _ (by decide)
  cases d with
  | both => exact hchan
  | send => exact hchan.append (builds_op "<-")
  | recv => exact (builds_op "<-").append hchan

theorem builds_func : Builds s pkg (keyword "Func") [.key "func"] :=
  builds_keyword _ _ (by decide)

theorem builds_range : Builds s pkg (keyword "Range") [.key "range"] :=
  builds_keyword _ _ (by decide)

theorem builds_tag (l : BasicLit) : Builds s pkg (name l.value) [.lit l] :=
  shows_name l.value

/-- The only result of a function, without parentheses. -/
theorem builds_lone (h : Builds s pkg c ps) : Builds s pkg c [.lone (ps ++ Piece.tag none)] := by
  unfold Builds at h ⊢
  simpa [spellAll, Piece.spell, Piece.tag] using h

theorem builds_member (n : String) : Builds s pkg (call "Dot" [.quoted n]) [.sym ".", .name n] :=
  shows_call "Dot" (by decide) [.quoted n]

/-- A selector on the name of a package. -/
theorem builds_qual {base path : String} (h : s.table.resolve base = some path) (n : String) :
    Builds s pkg (call "Qual" [.quoted path, .quoted n]) [.qualifier base, .sym ".", .name n] := by
  have hshow : Shows pkg _ _ := shows_call "Qual" (by decide) [.quoted path, .quoted n]
  change Shows pkg _ [pkg path, ".", n] at hshow
  unfold Builds
  simpa [spellAll, Piece.spell, Scope.spelled, h] using hshow

theorem spelled_of_resolve_none {base : String} (h : s.table.resolve base = none) :
    s.spelled pkg base = base := by
  rw [Scope.spelled, h]

/-! ## Expressions, statements and declarations -/

variable (s pkg)

mutual

theorem Expr.builds_synth : ∀ e : Expr, e.Shaped →
    Gives (e.synth s) fun c => Builds s pkg c e.pieces
  | .mk k p, h => (ExprKind.builds_synth p k h).nested s p

theorem ExprKind.builds_synth (pos : Pos) : ∀ k : ExprKind, k.Shaped →
    Gives (k.synth s pos) fun c => Builds s pkg c k.pieces
  | .bad _, _ => gives_unsupported _ _
  | .ident n, _ => gives_pure (builds_name n)
  | .ellipsis none, _ => gives_pure (builds_op "...")
  | .ellipsis (some t), h => (Expr.builds_synth t h).map fun _ ht => (builds_op "...").append ht
  | .basicLit l, _ => l.builds_synth pos
  | .funcLit t b, h =>
    (FuncType.builds_signature t h.1).bind fun _ ht => (Block.builds_synth b h.2).map fun _ hb =>
      (builds_func.append ht).append hb
  | .compositeLit none es, h =>
    gives_pure_bind <| (Expr.builds_synthList es h.2).map fun _ hes =>
      writes_nil.append_builds (builds_values hes)
  | .compositeLit (some t) es, h =>
    (Expr.builds_synth t h.1).bind fun _ ht => (Expr.builds_synthList es h.2).map fun _ hes =>
      ht.append (builds_values hes)
  | .paren x, h => (Expr.builds_synth x h).map fun _ hx => builds_parens hx
  | .selector (.mk k p) sel, h => by
    have hx := Expr.builds_synth (.mk k p) h
    rw [ExprKind.synth_selector]
    cases k with
    | ident base =>
      cases hbase : s.table.resolve base with
      | some path =>
        rw [Scope.qualifier?, hbase]
        exact gives_pure (builds_qual hbase sel.name)
      | none =>
        rw [Scope.qualifier?, hbase]
        refine hx.map fun c hc => ?_
        -- a name that is no package is printed as it is
        have hname : Builds s pkg c [.qualifier base] := by
          change Builds s pkg c [.name base] at hc
          unfold Builds at hc ⊢
          simpa [spellAll, Piece.spell, spelled_of_resolve_none hbase] using hc
        exact hname.append (builds_member sel.name)
    | _ => exact hx.map fun c hc => hc.append (builds_member sel.name)
  | .index x i, h =>
    (Expr.builds_synth i h.2).bind fun _ hi => (Expr.builds_synth x h.1).map fun _ hx =>
      hx.append (builds_index_one hi)
  | .slice x low high none slice3, h => by
    have hlow := Expr.builds_synthSlot low h.2.1
    have hhigh := Expr.builds_synthSlot high h.2.2.1
    have hx := Expr.builds_synth x h.1
    have hslice3 : slice3 = false := h.2.2.2.2
    subst hslice3
    refine hlow.bind fun _ hl => hhigh.bind fun _ hh => (gives_pure ?_).bind fun _ hb =>
      hx.map fun _ hx => hx.append (builds_index hb)
    exact .cons hl (.cons hh .nil)
  | .slice x low high (some max) slice3, h => by
    have hlow := Expr.builds_synthSlot low h.2.1
    have hhigh := Expr.builds_synthSlot high h.2.2.1
    have hmax := Expr.builds_synth max h.2.2.2.1
    have hx := Expr.builds_synth x h.1
    have hslice3 : slice3 = true := h.2.2.2.2
    subst hslice3
    refine hlow.bind fun _ hl => hhigh.bind fun _ hh => hmax.bind fun _ hm =>
      (gives_pure ?_).bind fun _ hb => hx.map fun _ hx => hx.append (builds_index hb)
    exact .cons hl (.cons hh (.cons hm .nil))
  | .typeAssert x none, h =>
    gives_pure_bind <| (Expr.builds_synth x h.1).map fun _ hx =>
      hx.append (builds_assert (builds_keyword "Type" "type" (by decide)))
  | .typeAssert x (some t), h =>
    (Expr.builds_synth t h.2).bind fun _ ht => (Expr.builds_synth x h.1).map fun _ hx =>
      hx.append (builds_assert ht)
  | .call f as spread, h =>
    (Expr.builds_synthList as h.2.1).bind fun cs has => (Expr.builds_synth f h.1).map fun _ hf =>
      hf.append (builds_call has spread fun hs hnil => by
        subst hnil
        cases as with
        | nil => exact h.2.2 hs rfl
        | cons a as => cases has)
  | .star x, h => (Expr.builds_synth x h).map fun _ hx => (builds_op "*").append hx
  | .unary o x, h => (Expr.builds_synth x h).map fun _ hx => (builds_op o).append hx
  | .binary x o y, h =>
    (Expr.builds_synth x h.1).bind fun _ hx => (Expr.builds_synth y h.2).map fun _ hy =>
      (hx.append (builds_op o)).append hy
  | .keyValue k v, h =>
    (Expr.builds_synth k h.1).bind fun _ hk => (Expr.builds_synth v h.2).map fun _ hv =>
      (hk.append (builds_op ":")).append hv
  | .arrayType none t, h =>
    (Expr.builds_synth t h.2).map fun _ ht => (builds_index .nil).append ht
  | .arrayType (some n) t, h => by
    have hn := Expr.builds_synth n h.1
    have ht := Expr.builds_synth t h.2
    by_cases hdots : ∃ p, n = .mk (.ellipsis none) p
    · obtain ⟨p, rfl⟩ := hdots
      exact ht.map fun _ ht => (builds_index_one (builds_op "...")).append ht
    · rw [ExprKind.synth_arrayType s pos hdots]
      exact hn.bind fun _ hn => ht.map fun _ ht => (builds_index_one hn).append ht
  | .structType fs, h => (Field.builds_synthList fs h).map fun _ hfs => builds_struct hfs
  | .funcType t, h => (FuncType.builds_signature t h).map fun _ ht => builds_func.append ht
  | .interfaceType ms, h => (Field.builds_synthElements ms h.1 h.2).map fun _ hms => builds_interface hms
  | .mapType k v, h =>
    (Expr.builds_synth k h.1).bind fun _ hk => (Expr.builds_synth v h.2).map fun _ hv =>
      (builds_map hk).append hv
  | .chanType d v, h => (Expr.builds_synth v h).map fun _ hv => d.builds_chain.append hv

theorem Expr.builds_synthList : ∀ xs : List Expr, Expr.AllShaped xs →
    Gives (Expr.synthList s xs) fun cs => AllBuild s pkg cs (Expr.piecesList xs)
  | [], _ => gives_pure .nil
  | x :: xs, h =>
    (Expr.builds_synth x h.1).bind fun _ hx => (Expr.builds_synthList xs h.2).map fun _ hxs =>
      .cons hx hxs

theorem Expr.builds_synthSlot : ∀ x : Option Expr, Expr.OptionShaped x →
    Gives (Expr.synthSlot s x) fun c => Builds s pkg c (Expr.piecesOption x)
  | none, _ => gives_pure builds_slot
  | some x, h => Expr.builds_synth x h

theorem Expr.builds_synthPresent : ∀ x : Option Expr, Expr.OptionShaped x →
    Gives (Expr.synthPresent s x) fun cs => AllBuild s pkg cs (Expr.rows x)
  | none, _ => gives_pure .nil
  | some x, h => (Expr.builds_synth x h).map fun _ hx => .one hx

theorem FuncType.builds_signature : ∀ t : FuncType, t.Shaped →
    Gives (t.signature s) fun c => Builds s pkg c t.pieces
  | .mk ps none, h => (Field.builds_synthList ps h.1).map fun _ hps => by
    have hparams := builds_params hps
    rwa [← List.append_nil (Piece.parens _)] at hparams
  | .mk ps (some [.mk [] t tag]), h =>
    (Field.builds_synthList ps h.1.1).bind fun _ hps => (Expr.builds_synth t h.2.1.1).map fun _ ht => by
      have htag : tag = none := h.2.2 _ (.head _)
      subst htag
      exact (builds_params hps).append (builds_lone ht)
  | .mk ps (some []), h =>
    (Field.builds_synthList ps h.1.1).bind fun _ hps =>
      (Field.builds_synthList [] h.2.1).map fun _ hrs => (builds_params hps).append (builds_params hrs)
  | .mk ps (some (.mk (n :: ns) t tag :: rs)), h =>
    (Field.builds_synthList ps h.1.1).bind fun _ hps =>
      (Field.builds_synthList (.mk (n :: ns) t tag :: rs) h.2.1).map fun _ hrs =>
        (builds_params hps).append (builds_params hrs)
  | .mk ps (some (.mk [] t tag :: f :: rs)), h =>
    (Field.builds_synthList ps h.1.1).bind fun _ hps =>
      (Field.builds_synthList (.mk [] t tag :: f :: rs) h.2.1).map fun _ hrs =>
        (builds_params hps).append (builds_params hrs)

theorem Field.builds_synth : ∀ f : Field, f.Shaped →
    Gives (f.synth s) fun c => Builds s pkg c f.pieces
  | .mk ns t none, h => (Expr.builds_synth t h).map fun _ ht => by
    simpa [Field.pieces, Piece.tag] using (writes_nameChain ns).append_builds ht
  | .mk ns t (some l), h => (Expr.builds_synth t h).map fun _ ht =>
    ((writes_nameChain ns).append_builds ht).append (builds_tag l)

theorem Field.builds_synthList : ∀ fs : List Field, Field.AllShaped fs →
    Gives (Field.synthList s fs) fun cs => AllBuild s pkg cs (Field.piecesList fs)
  | [], _ => gives_pure .nil
  | f :: fs, h =>
    (Field.builds_synth f h.1).bind fun _ hf => (Field.builds_synthList fs h.2).map fun _ hfs =>
      .cons hf hfs

theorem Field.builds_synthElements : ∀ fs : List Field, Field.AllShaped fs → Field.Untagged fs →
    Gives (Field.synthElements s fs) fun cs => AllBuild s pkg cs (Field.elementPieces fs)
  | [], _, _ => gives_pure .nil
  | .mk [] t tag :: fs, h, htags => by
    have ht := Expr.builds_synth t h.1
    have hfs := Field.builds_synthElements fs h.2 fun f hf => htags f (.tail _ hf)
    have htag : tag = none := htags _ (.head _)
    subst htag
    refine ht.bind fun _ ht => hfs.map fun _ hfs => .cons ?_ hfs
    simpa [Field.pieces, Piece.tag, Piece.names, Piece.separated] using ht
  | .mk [n] (.mk k p) tag :: fs, h, htags => by
    have hfs := Field.builds_synthElements fs h.2 fun f hf => htags f (.tail _ hf)
    have htag : tag = none := htags _ (.head _)
    subst htag
    cases k with
    | funcType t =>
      refine (FuncType.builds_signature t h.1).bind fun _ ht => hfs.map fun _ hfs => .cons ?_ hfs
      simpa [Piece.tag] using (builds_name n.name).append ht
    | _ => exact gives_unsupported _ _
  | .mk (_ :: _ :: _) _ _ :: _, _, _ => gives_unsupported _ _

theorem Block.builds_synth : ∀ b : Block, b.Shaped →
    Gives (b.synth s) fun c => Builds s pkg c b.pieces
  | .mk ss _, h => (Stmt.builds_synthList ss h).map fun _ hss => builds_block hss

theorem Stmt.builds_synth : ∀ x : Stmt, x.Shaped →
    Gives (x.synth s) fun c => Builds s pkg c x.pieces
  | .mk k p, h => (StmtKind.builds_synth p k h).nested s p

theorem Stmt.builds_synthList : ∀ ss : List Stmt, Stmt.AllShaped ss →
    Gives (Stmt.synthList s ss) fun cs => AllBuild s pkg cs (Stmt.piecesList ss)
  | [], _ => gives_pure .nil
  | x :: xs, h =>
    (Stmt.builds_synth x h.1).bind fun _ hx => (Stmt.builds_synthList xs h.2).map fun _ hxs =>
      .cons hx hxs

theorem Stmt.builds_synthSlot : ∀ x : Option Stmt, Stmt.OptionShaped x →
    Gives (Stmt.synthSlot s x) fun c => Builds s pkg c (Stmt.piecesOption x)
  | none, _ => gives_pure builds_slot
  | some x, h => Stmt.builds_synth x h

theorem Stmt.builds_synthInit : ∀ x : Option Stmt, Stmt.OptionShaped x →
    Gives (Stmt.synthInit s x) fun cs => AllBuild s pkg cs (Stmt.rows x)
  | none, _ => gives_pure .nil
  | some x, h => (Stmt.builds_synth x h).map fun _ hx => .one hx

theorem StmtKind.builds_synth (pos : Pos) : ∀ k : StmtKind, k.Shaped →
    Gives (k.synth s pos) fun c => Builds s pkg c k.pieces
  | .bad _, _ => gives_unsupported _ _
  | .decl d, h => GenDecl.builds_synth d h
  | .empty, _ => gives_pure builds_slot
  | .labeled l x, h => by
    refine (Stmt.builds_synth x h).map fun _ hx => ?_
    have hline : Writes s pkg (keyword "Line") [] := (shows_keyword "Line" (by decide)).toPrints
    have hlabel := ((builds_name l.name).append (builds_op ":")).append_writes hline
    rw [List.append_nil] at hlabel
    exact hlabel.append hx
  | .expr x, h => Expr.builds_synth x h
  | .send c v, h =>
    (Expr.builds_synth c h.1).bind fun _ hc => (Expr.builds_synth v h.2).map fun _ hv =>
      (hc.append (builds_op "<-")).append hv
  | .incDec x t, h => (Expr.builds_synth x h).map fun _ hx => hx.append (builds_op t.text)
  | .assign l t r, h =>
    (Expr.builds_synthList l h.1).bind fun _ hl => (Expr.builds_synthList r h.2).map fun _ hr =>
      ((writes_listed hl).append_builds (builds_op t)).append_writes (writes_listed hr)
  | .goStmt c, h => (Expr.builds_synth c h).map fun _ hc =>
    (builds_keyword "Go" "go" (by decide)).append hc
  | .deferStmt c, h => (Expr.builds_synth c h).map fun _ hc =>
    (builds_keyword "Defer" "defer" (by decide)).append hc
  | .returnStmt rs, h => (Expr.builds_synthList rs h).map fun _ hrs =>
    (builds_keyword "Return" "return" (by decide)).append_writes (writes_listed hrs)
  | .branch t none, _ => gives_pure t.builds_chain
  | .branch t (some l), _ => gives_pure (t.builds_chain.append (builds_name l.name))
  | .block b, h => Block.builds_synth b h
  | .ifStmt i c b none, h =>
    (Stmt.builds_synthInit i h.1).bind fun _ hi => (Expr.builds_synth c h.2.1).bind fun _ hc =>
      (Block.builds_synth b h.2.2.1).map fun _ hb =>
        (builds_if (hi.append (.one hc))).append hb
  | .ifStmt i c b (some e), h =>
    (Stmt.builds_synthInit i h.1).bind fun _ hi => (Expr.builds_synth c h.2.1).bind fun _ hc =>
      (Block.builds_synth b h.2.2.1).bind fun _ hb => (Stmt.builds_synth e h.2.2.2.1).map fun _ he =>
        (((builds_if (hi.append (.one hc))).append hb).append
          (builds_keyword "Else" "else" (by decide))).append he
  | .caseClause [] b, h =>
    gives_pure_bind <| (Stmt.builds_synthList b h.2).map fun _ hb => builds_default hb
  | .caseClause (x :: xs) b, h =>
    (Expr.builds_synth x h.1.1).bind fun _ hx => (Expr.builds_synthList xs h.1.2).bind fun _ hxs =>
      gives_pure_bind <| (Stmt.builds_synthList b h.2).map fun _ hb => builds_case (.cons hx hxs) hb
  | .switchStmt none none b, h =>
    gives_pure_bind <| gives_pure_bind <| (Block.builds_synth b h.2.2).map fun _ hb =>
      (builds_switch .nil).append hb
  | .switchStmt none (some t) b, h =>
    gives_pure_bind <| (Expr.builds_synth t h.2.1).bind fun _ ht => gives_pure_bind <|
      (Block.builds_synth b h.2.2).map fun _ hb => (builds_switch (.one ht)).append hb
  | .switchStmt (some i) none b, h =>
    (Stmt.builds_synthInit (some i) h.1).bind fun _ hi => by
      cases hi with
      | cons hi hnil =>
        cases hnil
        exact gives_pure_bind <| (Block.builds_synth b h.2.2).map fun _ hb =>
          (builds_switch (.cons hi (.cons builds_slot .nil))).append hb
  | .switchStmt (some i) (some t) b, h =>
    (Stmt.builds_synthInit (some i) h.1).bind fun _ hi => (Expr.builds_synth t h.2.1).bind fun _ ht =>
      gives_pure_bind <| (Block.builds_synth b h.2.2).map fun _ hb =>
        (builds_switch (hi.append (.one ht))).append hb
  | .typeSwitch i a b, h =>
    (Stmt.builds_synthInit i h.1).bind fun _ hi => (Stmt.builds_synth a h.2.1).bind fun _ ha =>
      (Block.builds_synth b h.2.2).map fun _ hb => (builds_switch (hi.append (.one ha))).append hb
  | .commClause none b, h =>
    gives_pure_bind <| (Stmt.builds_synthList b h.2).map fun _ hb => builds_default hb
  | .commClause (some x) b, h =>
    (Stmt.builds_synth x h.1).bind fun _ hx => gives_pure_bind <|
      (Stmt.builds_synthList b h.2).map fun _ hb => by
        have hclause := builds_case (.one hx) hb
        rwa [Piece.separated_one] at hclause
  | .selectStmt b, h => (Block.builds_synth b h).map fun _ hb =>
    (builds_keyword "Select" "select" (by decide)).append hb
  | .forStmt none none none b, h =>
    gives_pure_bind <| (Block.builds_synth b h.2.2.2).map fun _ hb => (builds_for .nil).append hb
  | .forStmt none (some c) none b, h =>
    (Expr.builds_synth c h.2.1).bind fun _ hc => gives_pure_bind <|
      (Block.builds_synth b h.2.2.2).map fun _ hb => (builds_for (.one hc)).append hb
  | .forStmt none c (some p) b, h =>
    gives_pure_bind <| (Expr.builds_synthSlot c h.2.1).bind fun _ hc =>
      (Stmt.builds_synth p h.2.2.1).bind fun _ hp =>
        (Block.builds_synth b h.2.2.2).map fun _ hb =>
          (builds_for (.cons builds_slot (.cons hc (.cons hp .nil)))).append hb
  | .forStmt (some i) c p b, h =>
    (Stmt.builds_synth i h.1).bind fun _ hi => (Expr.builds_synthSlot c h.2.1).bind fun _ hc =>
      (Stmt.builds_synthSlot p h.2.2.1).bind fun _ hp =>
        (Block.builds_synth b h.2.2.2).map fun _ hb =>
          (builds_for (.cons hi (.cons hc (.cons hp .nil)))).append hb
  | .rangeStmt none none none x b, h =>
    (Expr.builds_synth x h.2.2.1).bind fun _ hx => gives_pure_bind <|
      (Block.builds_synth b h.2.2.2.1).map fun _ hb =>
        (builds_for (.one ((writes_nil.append_builds builds_range).append hx))).append hb
  | .rangeStmt none (some _) none _ _, h => absurd (h.2.2.2.2.2 rfl) Bool.false_ne_true
  | .rangeStmt (some _) _ none _ _, h => absurd h.2.2.2.2.1 Bool.false_ne_true
  | .rangeStmt k v (some t) x b, h =>
    (Expr.builds_synth x h.2.2.1).bind fun _ hx => (Expr.builds_synthPresent k h.1).bind fun _ hk =>
      (Expr.builds_synthPresent v h.2.1).bind fun _ hv => gives_pure_bind <|
        (Block.builds_synth b h.2.2.2.1).map fun _ hb =>
          (builds_for (.one ((((writes_listed (hk.append hv)).append_builds (builds_op t)).append
            builds_range).append hx))).append hb

theorem GenDecl.builds_synth : ∀ d : GenDecl, d.Shaped →
    Gives (d.synth s) fun c => Builds s pkg c d.pieces
  | .mk tok pos grouped specs, h => by
    have hspecs := Spec.builds_synthList pos specs h.1
    -- the keyword, then the entries
    have hrest {head : Chain} (hhead : Builds s pkg head [.key tok.text]) :
        Gives (Spec.synthList s pos specs >>= fun cs => match grouped, cs with
          | false, [c] => pure (head ++ c)
          | _, cs => pure (head ++ group "Defs" cs))
          fun c => Builds s pkg c (GenDecl.mk tok pos grouped specs).pieces := by
      refine hspecs.bind fun cs hcs => ?_
      cases grouped with
      | true => exact gives_pure (hhead.append (builds_defs hcs))
      | false =>
        obtain ⟨x, rfl⟩ := List.length_eq_one_iff.mp (h.2 rfl)
        cases hcs with
        | cons hx hnil =>
          cases hnil
          refine gives_pure ?_
          simpa [GenDecl.pieces, Piece.defs, Spec.piecesList] using hhead.append hx
    refine Gives.nested s pos ?_
    cases tok with
    | importTok => exact (gives_unsupported (P := fun _ => False) _ _).bind fun _ hfalse => hfalse.elim
    | _ => exact gives_pure_bind (hrest (builds_keyword _ _ (by decide)))

theorem Spec.builds_synth (pos : Pos) : ∀ x : Spec, x.Shaped →
    Gives (x.synth s pos) fun c => Builds s pkg c x.pieces
  | .imported _, _ => gives_unsupported _ _
  | .value _ none [], h =>
    gives_pure_bind <| gives_pure ((builds_nameChain h.1).append_writes writes_nil)
  | .value _ (some t) [], h =>
    (Expr.builds_synth t h.2.1).map fun _ ht => (builds_nameChain h.1).append ht
  | .value _ none (v :: vs), h =>
    gives_pure_bind <| (Expr.builds_synth v h.2.2.1).bind fun _ hv =>
      (Expr.builds_synthList vs h.2.2.2).map fun _ hvs =>
        (((builds_nameChain h.1).append_writes writes_nil).append (builds_op "=")).append_writes
          (writes_listed (.cons hv hvs))
  | .value _ (some t) (v :: vs), h =>
    (Expr.builds_synth t h.2.1).bind fun _ ht => (Expr.builds_synth v h.2.2.1).bind fun _ hv =>
      (Expr.builds_synthList vs h.2.2.2).map fun _ hvs =>
        (((builds_nameChain h.1).append ht).append (builds_op "=")).append_writes
          (writes_listed (.cons hv hvs))
  | .type n false t, h => (Expr.builds_synth t h).map fun _ ht =>
    ((builds_name n.name).append_writes writes_nil).append ht
  | .type n true t, h => (Expr.builds_synth t h).map fun _ ht =>
    ((builds_name n.name).append (builds_op "=")).append ht

theorem Spec.builds_synthList (pos : Pos) : ∀ xs : List Spec, Spec.AllShaped xs →
    Gives (Spec.synthList s pos xs) fun cs => AllBuild s pkg cs (Spec.piecesList xs)
  | [], _ => gives_pure .nil
  | x :: xs, h =>
    (Spec.builds_synth pos x h.1).bind fun _ hx => (Spec.builds_synthList pos xs h.2).map fun _ hxs =>
      .cons hx hxs

end

theorem Expr.builds_synthListed (xs : List Expr) (h : Expr.AllShaped xs) :
    Gives (Expr.synthListed s xs) fun c =>
      Writes s pkg c (Piece.separated (.sym ",") (Expr.piecesList xs)) :=
  (Expr.builds_synthList s pkg xs h).map fun _ hxs => writes_listed hxs

theorem FuncDecl.builds_synth : ∀ d : FuncDecl, d.Shaped →
    Gives (d.synth s) fun c => Builds s pkg c d.pieces
  | ⟨none, n, t, none, pos⟩, h =>
    Gives.nested s pos <| gives_pure_bind <|
      (FuncType.builds_signature s pkg t h.2.1).bind fun _ ht => gives_pure_bind <|
        gives_pure ((((builds_func.append_writes writes_nil).append (builds_name n.name)).append
          ht).append_writes writes_nil)
  | ⟨none, n, t, some b, pos⟩, h =>
    Gives.nested s pos <| gives_pure_bind <|
      (FuncType.builds_signature s pkg t h.2.1).bind fun _ ht =>
        (Block.builds_synth s pkg b h.2.2).map fun _ hb =>
          (((builds_func.append_writes writes_nil).append (builds_name n.name)).append ht).append hb
  | ⟨some fs, n, t, none, pos⟩, h =>
    Gives.nested s pos <| (Field.builds_synthList s pkg fs h.1.1).bind fun _ hfs => gives_pure_bind <|
      (FuncType.builds_signature s pkg t h.2.1).bind fun _ ht => gives_pure_bind <|
        gives_pure ((((builds_func.append (builds_params hfs)).append (builds_name n.name)).append
          ht).append_writes writes_nil)
  | ⟨some fs, n, t, some b, pos⟩, h =>
    Gives.nested s pos <| (Field.builds_synthList s pkg fs h.1.1).bind fun _ hfs => gives_pure_bind <|
      (FuncType.builds_signature s pkg t h.2.1).bind fun _ ht =>
        (Block.builds_synth s pkg b h.2.2).map fun _ hb =>
          (((builds_func.append (builds_params hfs)).append (builds_name n.name)).append ht).append hb

theorem Decl.builds_synth (d : Decl) (h : d.Shaped) :
    Gives (d.synth s) fun g => ∀ u ∈ g, Builds s pkg u.chain d.pieces := by
  unfold Decl.synth
  split
  · exact gives_pure (by simp)
  · exact (GenDecl.builds_synth s pkg _ h).map fun c hc u hu => by cases hu; exact hc
  · exact (FuncDecl.builds_synth s pkg _ h).map fun c hc u hu => by cases hu; exact hc

/-! ## Every chain -/

/-- Each package is printed under the name that the source has for it. -/
def Scope.KeepsNames (s : Scope) (pkg : String → String) : Prop :=
  ∀ base path, s.table.resolve base = some path → pkg path = base

/-- A chain prints the tokens of a tree: those before dots under the names of their packages, and all of them
as they are where packages keep their names. -/
def PrintsTree (c : Chain) (ps : List Piece) : Prop :=
  c.tokens pkg = spellAll (s.spelled pkg) ps ∧ (s.KeepsNames pkg → c.tokens pkg = spellAll id ps)

variable {s pkg}

theorem Scope.KeepsNames.spelled_eq (h : s.KeepsNames pkg) : s.spelled pkg = id := by
  funext base
  unfold Scope.spelled
  split
  · rename_i path hbase
    exact h base path hbase
  · rfl

theorem Writes.printsTree (h : Writes s pkg c ps) : PrintsTree s pkg c ps := by
  have htokens : c.tokens pkg = spellAll (s.spelled pkg) ps := h.tokens "" (by decide)
  exact ⟨htokens, fun hkeep => by rw [htokens, hkeep.spelled_eq]⟩

variable (s pkg)

/-- **Synthesis loses nothing.** Whatever the symbol table, the limit and the depth at which it starts, a
chain that synthesis gives prints exactly the tokens of the tree, in order. -/
theorem synthesis_lossless :
    (∀ e : Expr, e.Shaped → Gives (e.synth s) fun c => PrintsTree s pkg c e.pieces) ∧
    (∀ xs : List Expr, Expr.AllShaped xs → Gives (Expr.synthListed s xs) fun c =>
      PrintsTree s pkg c (Piece.separated (.sym ",") (Expr.piecesList xs))) ∧
    (∀ t : FuncType, t.Shaped → Gives (t.signature s) fun c => PrintsTree s pkg c t.pieces) ∧
    (∀ x : Stmt, x.Shaped → Gives (x.synth s) fun c => PrintsTree s pkg c x.pieces) ∧
    (∀ b : Block, b.Shaped → Gives (b.synth s) fun c => PrintsTree s pkg c b.pieces) ∧
    (∀ d : GenDecl, d.Shaped → Gives (d.synth s) fun c => PrintsTree s pkg c d.pieces) ∧
    (∀ d : FuncDecl, d.Shaped → Gives (d.synth s) fun c => PrintsTree s pkg c d.pieces) ∧
    (∀ d : Decl, d.Shaped → Gives (d.synth s) fun g =>
      ∀ u ∈ g, PrintsTree s pkg u.chain d.pieces) := by
  refine ⟨fun e h => ?_, fun xs h => ?_, fun t h => ?_, fun x h => ?_, fun b h => ?_, fun d h => ?_,
    fun d h => ?_, fun d h => ?_⟩
  · exact (Expr.builds_synth s pkg e h).mono fun _ hc => hc.writes.printsTree
  · exact (Expr.builds_synthListed s pkg xs h).mono fun _ hc => hc.printsTree
  · exact (FuncType.builds_signature s pkg t h).mono fun _ hc => hc.writes.printsTree
  · exact (Stmt.builds_synth s pkg x h).mono fun _ hc => hc.writes.printsTree
  · exact (Block.builds_synth s pkg b h).mono fun _ hc => hc.writes.printsTree
  · exact (GenDecl.builds_synth s pkg d h).mono fun _ hc => hc.writes.printsTree
  · exact (FuncDecl.builds_synth s pkg d h).mono fun _ hc => hc.writes.printsTree
  · exact (Decl.builds_synth s pkg d h).mono fun _ hg u hu => (hg u hu).writes.printsTree

/-- The declaration `func (t *T) F(xs ...int) (n int) { for i, x := range xs { n += fmt.G(xs[:i]...) }; return }`. -/
def sumDecl : FuncDecl :=
  let e (k : ExprKind) : Expr := .mk k .none
  let i (n : String) : Expr := e (.ident n)
  let id (n : String) : Ident := ⟨n, .none⟩
  let x (k : StmtKind) : Stmt := .mk k .none
  { recv := some [.mk [id "t"] (e (.star (i "T"))) none]
    name := id "F"
    ty := .mk [.mk [id "xs"] (e (.ellipsis (some (i "int")))) none]
      (some [.mk [id "n"] (i "int") none])
    body := some (.mk [
      x (.rangeStmt (some (i "i")) (some (i "x")) (some ":=") (i "xs") (.mk [
        x (.assign [i "n"] "+=" [e (.call (e (.selector (i "fmt") (id "G")))
          [e (.slice (i "xs") none (some (i "i")) none false)] true)])] .none)),
      x (.returnStmt [])] .none)
    pos := .none }

theorem synthesis_lossless_sum : ∃ c, (sumDecl.synth ⟨⟨[("fmt", "fmt")], [], []⟩, 9⟩).answer = .ok c ∧
    c.tokens id = ["func", "(", "t", "*", "T", ")", "F", "(", "xs", "...", "int", ")", "(", "n", "int", ")",
      "\x7b", "for", "i", ",", "x", ":=", "range", "xs", "\x7b", "n", "+=", "fmt", ".", "G", "(", "xs",
      "[", ":", "i", "]", "...", ")", "\x7d", ";", "return", "\x7d"] := by
  refine ⟨_, rfl, ?_⟩
  have huntagged (ns : List Ident) (t : Expr) : Field.Untagged [.mk ns t none] := List.forall_mem_singleton.mpr rfl
  have hshaped : sumDecl.Shaped := by
    refine ⟨⟨⟨trivial, trivial⟩, huntagged _ _⟩,
      ⟨⟨⟨trivial, trivial⟩, huntagged _ _⟩, ⟨trivial, trivial⟩, huntagged _ _⟩, ?_, trivial, trivial⟩
    -- the loop: its variables, what it goes over, its body and its operator
    refine ⟨trivial, trivial, trivial, ⟨⟨⟨trivial, trivial⟩, ?_, trivial⟩, trivial⟩, rfl, fun _ => rfl⟩
    exact ⟨trivial, ⟨⟨trivial, trivial, trivial, trivial, rfl⟩, trivial⟩, fun _ => nofun⟩
  have hall := (synthesis_lossless ⟨⟨[("fmt", "fmt")], [], []⟩, 9⟩ id).2.2.2.2.2.2.1 sumDecl hshaped
  have h := (hall 0 _ 0 rfl).1
  rw [h]
  rfl

end GoRebuild
