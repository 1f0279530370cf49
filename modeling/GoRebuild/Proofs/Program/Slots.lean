import GoRebuild.Proofs.Chain.Rows
import GoRebuild.Proofs.Parse.Conformance
import GoRebuild.Proofs.Program.Qualified
import GoRebuild.Proofs.Program.Words
import GoRebuild.Proofs.Reader.Shaped

/-!
# No slot vanishes

* `Step.names_rowOf` : a dense chain that is not empty is written without the name `Null`;
* `Chain.exists_scan` : so its text in a layout scans, and no token is that name;
* `File.allNamed_of_read` : in a file that was read each entry of a `const` or `var` has a name;
* `accounts_unit`, `sizes_units` : the chains of generators have the landmarks of their declarations;
* `slots_never_vanish` : each part of a node has an argument of its own, and none is empty.
-/

namespace GoRebuild
open Chain Lexical Synth Text

/-! ## The tokens of dense chains -/

/-- No argument of a call is an empty chain, and its method is not `Null`. -/
def Step.Solid (s : Step) : Prop :=
  s.method ≠ "Null" ∧ .code [] ∉ s.args

theorem encode_ne_null (text : String) : Quoted.encode text ≠ "Null" := by
  intro h
  have hchars := congrArg String.toList h
  rw [Quoted.encode, String.toList_ofList, Quoted.encodeChars] at hchars
  cases hchars

theorem toString_ne_null (i : Int) : toString i ≠ "Null" := by
  intro h
  have hmem : 'N' ∈ (toString i).toList := by
    rw [h]
    decide
  rcases mem_toString_int hmem with hsign | hdigit
  · exact absurd hsign (by decide)
  · exact absurd hdigit (by decide)

section
variable (l : Layout)

mutual

theorem Step.names_rowOf (newLine : Bool) : ∀ c : List Step, c ≠ [] → (∀ s ∈ Step.deepAll c, s.Solid) →
    ∀ t ∈ Step.rowOf l newLine c, t.text ≠ "Null"
  | [], hc, _ => absurd rfl hc
  | s :: ss, _, h => by
    rw [Step.deepAll, List.forall_mem_append] at h
    rw [Step.rowOf, List.forall_mem_cons, List.forall_mem_append]
    have hjen : "jen" ≠ "Null" := by decide
    exact ⟨hjen, Step.names_row s h.1, Step.names_rowRest ss h.2⟩

theorem Step.names_rowRest : ∀ ss : List Step, (∀ s ∈ Step.deepAll ss, s.Solid) →
    ∀ t ∈ Step.rowRest l ss, t.text ≠ "Null"
  | [], _ => fun _ ht => nomatch ht
  | s :: ss, h => by
    rw [Step.deepAll, List.forall_mem_append] at h
    rw [Step.rowRest, List.forall_mem_append]
    exact ⟨Step.names_row s h.1, Step.names_rowRest ss h.2⟩

theorem Step.names_row : ∀ s : Step, (∀ t ∈ s.deep, t.Solid) → ∀ t ∈ s.row l, t.text ≠ "Null"
  | .mk m [], h => by
    rw [Step.deep, List.forall_mem_cons] at h
    have hm : m ≠ "Null" := h.1.1
    rw [Step.row]
    simp [sign, inLine, hm]
  | .mk m (a :: as), h => by
    rw [Step.deep, List.forall_mem_cons, Arg.deepAll_cons, List.forall_mem_append] at h
    obtain ⟨⟨hm, hargs⟩, ha, has⟩ := h
    replace hm : m ≠ "Null" := hm
    obtain ⟨hempty, hrest⟩ := not_or.mp (mt List.mem_cons.mpr hargs)
    have hfirst := Arg.names_row (l.breaks m (as.length + 1)) a (Ne.symm hempty) ha
    have hlast := Arg.names_rowRest (l.breaks m (as.length + 1)) as hrest has
    have hend : ∀ t ∈ callEnd (l.breaks m (as.length + 1)), t.text ≠ "Null" := by
      cases l.breaks m (as.length + 1) <;> decide
    rw [Step.row]
    simp only [List.forall_mem_cons, List.forall_mem_append]
    exact ⟨by decide, hm, by decide, hfirst, hlast, hend⟩

theorem Arg.names_rowRest (broken : Bool) : ∀ as : List Arg, .code [] ∉ as → (∀ s ∈ Arg.deepAll as, s.Solid) →
    ∀ t ∈ Arg.rowRest l broken as, t.text ≠ "Null"
  | [], _, _ => fun _ ht => nomatch ht
  | a :: as, hargs, h => by
    rw [Arg.deepAll_cons, List.forall_mem_append] at h
    obtain ⟨hempty, hrest⟩ := not_or.mp (mt List.mem_cons.mpr hargs)
    rw [Arg.rowRest, List.forall_mem_cons, List.forall_mem_append]
    exact ⟨by decide, Arg.names_row broken a (Ne.symm hempty) h.1, Arg.names_rowRest broken as hrest h.2⟩

theorem Arg.names_row (newLine : Bool) : ∀ a : Arg, a ≠ .code [] → (∀ s ∈ Arg.deepAll [a], s.Solid) →
    ∀ t ∈ a.row l newLine, t.text ≠ "Null"
  | .code c, hc, h => by
    rw [Arg.deepAll, Arg.deepAll, List.append_nil] at h
    rw [Arg.row]
    exact Step.names_rowOf newLine c (fun hempty => hc (congrArg Arg.code hempty)) h
  | .quoted s, _, _ => by
    rw [Arg.row, List.forall_mem_singleton]
    exact encode_ne_null s
  | .int i, _, _ => by
    rw [Arg.row, List.forall_mem_singleton]
    exact toString_ne_null i

end

/-- A chain with identifiers as methods scans in each layout. It does without the name `Null` if it is dense. -/
theorem Chain.exists_scan (n : Nat) {c : Chain} (hwritable : Writable c) (hne : c ≠ []) (hdense : c.Dense) :
    ∃ tokens, scan (c.write l n) = some tokens ∧ ∀ t ∈ tokens, t.1.text ≠ "Null" := by
  obtain ⟨cs, hcs⟩ := Step.exists_writeOf l n c
  have hbody : body (c.write l n) = (Step.writeOf l n c).toList := by
    rw [Chain.write, body, hcs]
    rfl
  have hscans := Step.scans_writeOf l n false .nil c hwritable
  rw [List.append_nil, List.append_nil, ← hbody] at hscans
  obtain ⟨tokens, hscan, htokens⟩ := hscans.scan
  have hspellings : spellings ((Step.rowOf l false c).map Span.token) = Step.rowOf l false c := by
    rw [spellings, List.filterMap_map]
    exact List.filterMap_some
  refine ⟨tokens, hscan, fun t ht => ?_⟩
  have hmem : t.1.spelling ∈ Step.rowOf l false c := by
    rw [← hspellings, ← htokens]
    exact List.mem_map_of_mem ht
  exact Step.names_rowOf l false c hne hdense _ hmem

end

/-! ## Files -/

theorem allNamed_flatMap {α : Type} {xs : List α} {landmarks : α → List Landmark} :
    AllNamed (xs.flatMap landmarks) ↔ ∀ x ∈ xs, AllNamed (landmarks x) := by
  unfold AllNamed
  rw [List.mem_flatMap]
  push Not
  rfl

theorem File.allNamed_of_read {parser : SourceParser} (hparser : parser.FollowsGrammar) {limit : Nat} {source : String}
    {f : File} (h : File.read parser limit source = .ok f) : AllNamed f.landmarks :=
  allNamed_flatMap.mpr fun d hd => d.allNamed_of_shaped ((File.read_wellShaped hparser h).shaped d hd)

section
variable {s : Scope}

/-- The chain of a generator has the landmarks of its declaration. -/
theorem accounts_unit {d : Decl} {u : Generator}
    (h : (d.synth s).answer = .ok (some ⟨d.generatorName, u.chain, d.pos⟩)) :
    u.chain.sizes = d.landmarks.filterMap Landmark.size? ∧ u.chain ≠ [] ∧ (AllNamed d.landmarks → u.chain.Dense) := by
  have haccounts := (Decl.accounts_synth s d).of_answer h
  have hsizes := haccounts.sizes
  have hmem : u.chain ∈ (Answer.generator (some ⟨d.generatorName, u.chain, d.pos⟩)).all := List.mem_cons_self
  rw [Answer.all, Option.map_some, Option.toList_some, List.flatMap_cons, List.flatMap_nil, List.append_nil] at hsizes
  exact ⟨hsizes, haccounts.nonempty (by rintro ⟨⟩) _ hmem, fun hnamed => haccounts.dense hnamed _ hmem⟩

theorem sizes_units {ds : List Decl} {us : List Generator}
    (h : List.Forall₂ (fun d u => (d.synth s).answer = .ok (some ⟨d.generatorName, u.chain, d.pos⟩) ∧ u.pos = d.pos) ds us) :
    (us.map Generator.chain).flatMap Chain.sizes = (ds.flatMap Decl.landmarks).filterMap Landmark.size? := by
  induction h with
  | nil => rfl
  | cons hd _ ih =>
    rw [List.map_cons, List.flatMap_cons, List.flatMap_cons, List.filterMap_append, ih, (accounts_unit hd.1).1]

end

/-- The chains of generators stand for their declarations. -/
theorem units_account {file : File} {o : Options} {p : Program} (hp : assemble file o = .ok p) :
    (p.units.map Generator.chain).flatMap Chain.sizes = file.landmarks.filterMap Landmark.size? ∧
      ∀ u ∈ p.units, u.chain ≠ [] ∧ (AllNamed file.landmarks → u.chain.Dense) := by
  obtain ⟨table, -, hnamed⟩ := namedApart_of_assemble hp
  rw [File.landmarks_eq]
  refine ⟨sizes_units hnamed.own, forall_right hnamed.own fun d hd u hu => ?_⟩
  obtain ⟨-, hne, hdense⟩ := accounts_unit hu.1
  exact ⟨hne, fun hall => hdense (allNamed_flatMap.mp hall d hd)⟩

/-- **No slot vanishes.** Whatever is asked of synthesis, no chain in its answer is empty, the list of no expressions apart; if
each entry of a `const` or `var` has a name, no argument in it is an empty chain and no call is that of `Null`, at any depth;
and the calls that group the parts of nodes are, from left to right, those of the nodes, each with one argument for each part.
The same goes for the generators of a file, and in one that was read all entries have names; so the text of a generator
scans in both layouts without a token `Null`. -/
theorem slots_never_vanish :
    (∀ (s : Scope) (r : Request) (a : Answer), (r.run s).answer = .ok a →
      (r ≠ .listed [] → ∀ c ∈ a.all, c ≠ []) ∧ (AllNamed r.landmarks → ∀ c ∈ a.all, c.Dense) ∧
        a.all.flatMap Chain.sizes = r.landmarks.filterMap Landmark.size?) ∧
    (∀ (f : File) (o : Options) (p : Program), assemble f o = .ok p →
      (∀ u ∈ p.units, u.chain ≠ []) ∧ (AllNamed f.landmarks → ∀ u ∈ p.units, u.chain.Dense) ∧
        (p.units.map Generator.chain).flatMap Chain.sizes = f.landmarks.filterMap Landmark.size?) ∧
    ∀ parser : SourceParser, parser.FollowsGrammar → ∀ (limit : Nat) (source : String) (f : File) (o : Options) (p : Program),
      File.read parser limit source = .ok f → assemble f o = .ok p → AllNamed f.landmarks ∧
        ∀ u ∈ p.units, ∀ (l : Layout) (n : Nat),
          ∃ tokens, scan (u.chain.write l n) = some tokens ∧ ∀ t ∈ tokens, t.1.text ≠ "Null" := by
  refine ⟨?_, ?_, ?_⟩
  · intro s r a ha
    have haccounts := (Request.accounts_run s r).of_answer ha
    exact ⟨haccounts.nonempty, haccounts.dense, haccounts.sizes⟩
  · intro f o p hp
    obtain ⟨hsizes, hunits⟩ := units_account hp
    exact ⟨fun u hu => (hunits u hu).1, fun hall u hu => (hunits u hu).2 hall, hsizes⟩
  · intro parser hparser limit source f o p hread hp
    have hnamed := File.allNamed_of_read hparser hread
    refine ⟨hnamed, fun u hu l n => ?_⟩
    obtain ⟨hne, hdense⟩ := (units_account hp).2 u hu
    obtain ⟨-, -, hwritable⟩ := units_of_assemble hp (File.plain_of_read hparser hread) u hu
    exact Chain.exists_scan l n hwritable hne (hdense hnamed)

/-- A loop without a condition: the slots before the last in its header are calls of `Empty`. -/
theorem slots_never_vanish_loop :
    (∃ a, ((Request.listed []).run ⟨{}, 9⟩).answer = .ok a ∧ ∀ c ∈ a.all, c.Dense) ∧
    (∃ a, ((Request.expr (.mk (.ident "x") .none)).run ⟨{}, 9⟩).answer = .ok a ∧ ∀ c ∈ a.all, c ≠ []) ∧
    ∃ f p, File.read Grammar.parser 256 "package p\nfunc f() \x7b for ; ; i++ \x7b g(1, 2) \x7d \x7d" = .ok f ∧ assemble f {} = .ok p ∧
      AllNamed f.landmarks ∧ (∀ u ∈ p.units, u.chain.Dense) ∧
      f.landmarks.filterMap Landmark.size? = [("Params", 0), ("Block", 1), ("Block", 1), ("Call", 2)] ∧
      (p.units.map Generator.chain).flatMap Chain.sizes = f.landmarks.filterMap Landmark.size? ∧
      ∀ u ∈ p.units, ∀ n, ∃ tokens, scan (u.chain.write .pretty n) = some tokens ∧ ∀ t ∈ tokens, t.1.text ≠ "Null" := by
  refine ⟨⟨_, rfl, (slots_never_vanish.1 ⟨{}, 9⟩ (.listed []) _ rfl).2.1 allNamed_nil⟩,
    ⟨_, rfl, (slots_never_vanish.1 ⟨{}, 9⟩ (.expr (.mk (.ident "x") .none)) _ rfl).1 (by rintro ⟨⟩)⟩, ?_⟩
  generalize hsource : "package p\nfunc f() \x7b for ; ; i++ \x7b g(1, 2) \x7d \x7d" = source
  have hok : ((File.read Grammar.parser 256 source).toOption.bind fun f =>
      (assemble f {}).toOption.map fun _ => f.landmarks.filterMap Landmark.size?) =
        some [("Params", 0), ("Block", 1), ("Block", 1), ("Call", 2)] := by
    rw [← hsource]
    decide +kernel
  cases hf : File.read Grammar.parser 256 source with
  | error e =>
    rw [hf] at hok
    cases hok
  | ok f =>
    rw [hf, Except.toOption, Option.bind_some] at hok
    cases hp : assemble f {} with
    | error e =>
      rw [hp] at hok
      cases hok
    | ok p =>
      rw [hp, Except.toOption, Option.map_some, Option.some.injEq] at hok
      obtain ⟨-, hdense, hsizes⟩ := slots_never_vanish.2.1 f {} p hp
      obtain ⟨hnamed, htokens⟩ := slots_never_vanish.2.2 _ Grammar.parser_followsGrammar 256 source f {} p hf hp
      exact ⟨f, p, rfl, hp, hnamed, hdense hnamed, hok, hsizes, fun u hu => htokens u hu .pretty⟩

end GoRebuild
