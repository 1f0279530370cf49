import GoRebuild.Proofs.Grammar.Parts
import GoRebuild.Proofs.Grammar.SourceSound
import GoRebuild.Proofs.Parse.Errors
import GoRebuild.Proofs.Parse.Parsers
import GoRebuild.Proofs.Parse.SourceTrees

/-!
# The parser of the grammar does what is asked of it

* `Fine L ts`, `Gets L p Q` : tokens of which the string literals are among some texts, which all parsers leave so, and a
  parser that gives only what has a property there;
* `items_spell` : items are made of the tokens that they were read from;
* `derives_of_items` : the tree of a source that holds items is derived from them;
* `parser_followsGrammar`, `parser_ignoresLayout`, `parser_parsesParts` : `Grammar.parser` is a parser as the theorems about
  reading ask for.
-/

namespace GoRebuild.Grammar
open Lexical Scan

/-! ## String literals stay as they stand -/

section
variable (L : String → Prop)

/-- Tokens of which the string literals are among some texts, none of them a symbol that is read as two. -/
structure Fine (ts : List Token) : Prop where
  whole : ∀ text, L text → ¬twofold.contains text
  proper : Proper ts
  literals : ∀ u ∈ lexemes ts, u.kind = .literal .string → L u.text

/-- What a parser gives has a property, where the string literals are among some texts. -/
def Gets {α : Type} (p : Parser α) (Q : α → Prop) : Prop :=
  ∀ ts x rest, Fine L ts → p ts = some (x, rest) → Fine L rest ∧ Q x

end

variable {L : String → Prop}

theorem literals_of_splits (hwhole : ∀ text, L text → ¬twofold.contains text) {ts us : List Lexeme}
    (hts : ∀ u ∈ ts, u.kind = .literal .string → L u.text) (h : Splits ts us) :
    ∀ u ∈ us, u.kind = .literal .string → L u.text := by
  induction h with
  | nil => exact hts
  | keep t _ ih =>
    obtain ⟨ht, hts⟩ := List.forall_mem_cons.mp hts
    exact List.forall_mem_cons.mpr ⟨ht, ih hts⟩
  | split k a b hab _ ih =>
    obtain ⟨ht, hts⟩ := List.forall_mem_cons.mp hts
    have hk (hkind : k = .literal .string) : False := hwhole _ (ht hkind) hab
    exact List.forall_mem_cons.mpr ⟨fun h => (hk h).elim, List.forall_mem_cons.mpr ⟨fun h => (hk h).elim, ih hts⟩⟩

section
variable {α β : Type} {p q : Parser α} {k : α → Parser β} {f : α → List Piece} {P Q : α → Prop} {R : β → Prop}

theorem Sound.gets (hp : Sound p f) : Gets L p fun _ => True := by
  intro ts x rest hts h
  obtain ⟨hproper, us, hsplit, -⟩ := hp ts x rest h hts.proper
  have hliterals := literals_of_splits hts.whole hts.literals hsplit
  exact ⟨⟨hts.whole, hproper, fun u hu => hliterals u (List.mem_append_right _ hu)⟩, trivial⟩

theorem Gets.bind (hp : Gets L p P) (hk : ∀ x, P x → Gets L (k x) R) : Gets L (p >>= k) R := by
  intro ts y rest hts h
  obtain ⟨x, mid, hx, hy⟩ := bind_eq_some.mp h
  obtain ⟨hmid, hP⟩ := hp ts x mid hts hx
  exact hk x hP mid y rest hmid hy

theorem Gets.step (hp : Sound p f) (hk : ∀ x, Gets L (k x) R) : Gets L (p >>= k) R :=
  hp.gets.bind fun x _ => hk x

theorem Gets.peek (hp : Peeks p) (hk : ∀ x, Gets L (k x) R) : Gets L (p >>= k) R := by
  intro ts y rest hts h
  obtain ⟨x, mid, hx, hy⟩ := bind_eq_some.mp h
  obtain rfl := hp ts x mid hx
  exact hk x mid y rest hts hy

theorem Gets.pure {x : α} (h : Q x) : Gets L (Pure.pure x) Q := by
  intro ts y rest hts hy
  cases hy
  exact ⟨hts, h⟩

theorem Gets.failure : Gets L (failure : Parser α) Q := by
  intro ts y rest _ hy
  cases hy

theorem Gets.orElse (hp : Gets L p Q) (hq : Gets L q Q) : Gets L (p <|> q) Q := by
  intro ts y rest hts hy
  rcases of_orElse hy with h | h
  · exact hp ts y rest hts h
  · exact hq ts y rest hts h

end

/-! ## The paths of imports -/

theorem takeText_gets : Gets L takeText L := by
  intro ts text rest hts h
  obtain ⟨hrest, -⟩ := sound_takeText.gets ts text rest hts h
  unfold takeText at h
  split at h
  · rename_i t rest
    split at h
    · rename_i hkind
      cases h
      exact ⟨hrest, hts.literals t.lexeme (List.mem_cons_self ..) hkind⟩
    · cases h
  · cases h

theorem importSpec_gets : Gets L importSpec fun i => L i.path :=
  .peek peeks_here fun _ => .step (sound_optional importName_sound) fun _ => takeText_gets.bind fun _ h => .pure h

theorem entries_gets {α : Type} {p : Parser α} {Q : α → Prop} (hp : Gets L p Q) (bracket : String) (n : Nat) :
    Gets L (entries p bracket false n) fun xs => ∀ x ∈ xs, Q x := by
  induction n with
  | zero => exact .failure
  | succ n ih =>
    refine .peek (peeks_sees bracket) fun closed => ?_
    split
    · exact .pure fun x h => nomatch h
    · refine hp.bind fun x hx => .peek (peeks_sees bracket) fun last => ?_
      have hrest : Gets L (entries p bracket false n >>= fun xs => pure (x :: xs)) fun xs => ∀ y ∈ xs, Q y :=
        ih.bind fun xs hxs => .pure (List.forall_mem_cons.mpr ⟨hx, hxs⟩)
      cases last with
      | true => exact hrest
      | false => exact .step sound_takeEnd fun _ => hrest

variable {l : Layer} (hl : l.IsSound)
include hl

omit hl in
theorem importDecl_gets : Gets L (importDecl l) fun x => ∀ i ∈ x.specs, L i.path := by
  refine .step (sound_key "import") fun start => .peek (peeks_sees "(") fun _ => ?_
  split
  · exact .bind (.step (sound_key "(") fun _ => (entries_gets importSpec_gets ")" _).bind fun _ hspecs =>
      .step (sound_key ")") fun _ => .pure hspecs) fun _ h => .pure h
  · exact importSpec_gets.bind fun _ h => .pure (List.forall_mem_singleton.mpr h)

theorem item_gets : Gets L (item l) fun x => ∀ i ∈ x.specs, L i.path := by
  refine .peek peeks_next fun t => ?_
  cases t with
  | none => exact .failure
  | some t =>
    dsimp only
    split
    · exact .step (sound_key "package") fun _ => .step sound_takeName fun _ => .pure nofun
    · exact importDecl_gets
    · exact .orElse (.step (funcDecl_sound hl) fun _ => .pure nofun) (.step hl.stmt fun _ => .pure nofun)

theorem allItems_gets (n : Nat) : Gets L (allItems l n) fun xs => ∀ i ∈ xs.flatMap Item.specs, L i.path := by
  induction n with
  | zero => exact .failure
  | succ n ih =>
    refine .peek peeks_next fun t => ?_
    cases t with
    | none => exact .pure nofun
    | some t =>
      refine (item_gets hl).bind fun x hx => .step sound_takeEnd fun _ => ih.bind fun xs hxs => .pure ?_
      rw [List.flatMap_cons]
      exact List.forall_mem_append.mpr ⟨hx, hxs⟩

omit hl

/-! ## The tree -/

variable {source : String} {tokens : List (Token × Cursor)} {items : List Item}

/-- No string literal is a symbol that is read as two. -/
theorem fine_scan (h : scan source = some tokens) :
    Fine (fun text => ∃ t ∈ tokens.map (·.1), t.kind = .literal .string ∧ t.text = text) (tokens.map (·.1)) where
  whole := by
    rintro text ⟨t, ht, hkind, rfl⟩ hmem
    have hdescribes : t.kind.describes t.text := by
      obtain ⟨u, hu, rfl⟩ := List.mem_map.mp ht
      exact describes_of_scan h u hu
    rw [hkind] at hdescribes
    have hnone : ∀ s ∈ twofold, startsLiteral s.toList = false := by decide
    exact absurd hdescribes (Bool.eq_false_iff.mp (hnone t.text (List.contains_iff_mem.mp hmem)))
  proper := proper_scan h
  literals := by
    intro u hu hkind
    obtain ⟨t, ht, rfl⟩ := List.mem_map.mp hu
    exact ⟨t, ht, hkind, rfl⟩

/-- Items are made of the tokens that they were read from. -/
theorem items_spell (hscan : scan source = some tokens) (hitems : items? (tokens.map (·.1)) = some items) :
    Spells items (tokens.map (·.1)) where
  renders := items_read (proper_scan hscan) hitems
  literals := by
    unfold items? at hitems
    rw [Option.map_eq_some_iff] at hitems
    obtain ⟨⟨xs, rest⟩, h, rfl⟩ := hitems
    exact (allItems_gets (build_sound _ _) _ _ _ _ (fine_scan hscan) h).2

/-- What stands around the nodes of a source of some tokens. -/
abbrev surroundings (source : String) (tokens : List (Token × Cursor)) : Surroundings :=
  ⟨(tokens.map (·.2)).toArray, comments source⟩

theorem parser_of_items (hscan : scan source = some tokens) (hitems : items? (tokens.map (·.1)) = some items) :
    parser source = some (fileTree (surroundings source tokens) source items) := by
  simp only [parser, hscan, hitems, Option.bind_eq_bind, Option.bind_some, Option.pure_def, Option.getD_some]

/-- The tree of a source that holds items is derived from them. -/
theorem derives_of_items (hscan : scan source = some tokens) (hitems : items? (tokens.map (·.1)) = some items) :
    parser.Derives source items (surroundings source tokens).pos where
  tree := ⟨_, parser_of_items hscan hitems, hasError_fileTree source items, fileTree_derives source items⟩
  tokens := ⟨tokens, hscan, items_spell hscan hitems⟩

/-- A source has a tree without errors only if it holds items. -/
theorem exists_items_of_root {root : Parse.Node} (hroot : parser source = some root) (herror : root.hasError = false) :
    ∃ tokens items, scan source = some tokens ∧ items? (tokens.map (·.1)) = some items := by
  unfold parser at hroot
  cases hscan : scan source with
  | none =>
    rw [hscan] at hroot
    cases hroot
    cases herror
  | some tokens =>
    cases hitems : items? (tokens.map (·.1)) with
    | none =>
      simp only [hscan, hitems, Option.bind_eq_bind, Option.bind_some, Option.bind_none, Option.getD_none] at hroot
      cases hroot
      cases herror
    | some items => exact ⟨tokens, items, rfl, hitems⟩

theorem parser_followsGrammar : parser.FollowsGrammar := by
  intro source root hroot herror
  obtain ⟨tokens, items, hscan, hitems⟩ := exists_items_of_root hroot herror
  exact ⟨items, _, derives_of_items hscan hitems⟩

theorem parser_ignoresLayout : parser.IgnoresLayout := by
  intro source text root hroot herror hrelaid
  obtain ⟨tokens, items, hscan, hitems⟩ := exists_items_of_root hroot herror
  obtain ⟨tokens', hscan', heq⟩ := hrelaid.scan hscan
  exact ⟨items, _, _, derives_of_items hscan hitems, derives_of_items hscan' (heq ▸ hitems)⟩

theorem parser_parsesParts : parser.ParsesParts := by
  intro source tokens p ps hscan htokens hplain
  obtain ⟨items, hitems, hforms⟩ := @exists_items (tokens.map (·.1)) p ps hplain (by rw [List.map_map]; exact htokens)
  exact ⟨items, _, derives_of_items hscan hitems, hforms⟩

end GoRebuild.Grammar
