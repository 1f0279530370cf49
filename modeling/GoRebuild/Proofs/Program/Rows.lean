import GoRebuild.Program.Render
import GoRebuild.Proofs.Chain.Tree

/-!
# The tokens of a written program

* `Program.parts` : the package clause, the imports and the functions of a program in a layout;
* `Program.Writes text row` : whole lines of text have these tokens, whatever lines follow;
* `Program.scans_text` : the tokens of the parts are those of the text of the program.
-/

namespace GoRebuild
open Grammar (Primary Line Routine Imported Part)
open Lexical Text

/-! ## Parts -/

/-- A string literal. -/
def Grammar.Primary.text (s : String) : Primary :=
  .literal ⟨.string, Quoted.encode s⟩

/-- A call of a function without arguments. -/
def Grammar.Primary.run (name : String) : Primary :=
  .call (.name name) [] false

/-- The function of a generator. -/
def Generator.routine (l : Layout) (g : Generator) : Routine :=
  ⟨g.name, .type false "jen" "Code", [.giveBack (g.chain.primary l)]⟩

namespace Program

/-- The import of the builder library. -/
def builder : Imported :=
  ⟨some "jen", Quoted.encode builderPath⟩

/-- The imports. -/
def importPart (p : Program) : Part :=
  if p.entryPoint then .imports [⟨none, Quoted.encode "fmt"⟩, builder] else .importOne builder

/-- The statement that registers imports for their side effects, if there are any. -/
def anonymousLines (p : Program) : List Line :=
  if p.anonymous.isEmpty then [] else [.call "ret" "Anon" (p.anonymous.map Primary.text)]

/-- The statement that names an import. -/
def aliasLine (a : String × String) : Line :=
  .call "ret" "ImportAlias" [.text a.1, .text a.2]

/-- The statement that adds what a generator returns. -/
def unitLine (g : Generator) : Line :=
  .call "ret" "Add" [.run g.name]

/-- The function that adds up the generators. -/
def fileRoutine (p : Program) : Routine :=
  ⟨fileFunction, .type true "jen" "File",
    .define "ret" (.call (.select (.name "jen") "NewFile") [.text p.name] false) ::
      (p.anonymousLines ++ (p.aliases.map aliasLine ++ (p.units.map unitLine ++ [.giveBack (.name "ret")])))⟩

/-- The function that prints the rebuilt file. -/
def mainRoutine : Routine :=
  ⟨"main", .nothing, [.define "ret" (.run fileFunction), .call "fmt" "Printf" [.text "%#v", .name "ret"]]⟩

/-- The functions in a layout. -/
def routines (l : Layout) (p : Program) : List Routine :=
  p.units.map (Generator.routine l) ++ (p.fileRoutine :: if p.entryPoint then [mainRoutine] else [])

/-- The parts in a layout. -/
def parts (l : Layout) (p : Program) : List Part :=
  .package p.package :: p.importPart :: (p.routines l).map .routine

end Program

/-! ## Whole lines -/

/-- Whole lines of text have these tokens behind a line break, whatever lines follow. -/
def Program.Writes (text : String) (row : List Spelling) : Prop :=
  ∀ (cs : List Char) (spans : List Span), Scans true cs spans →
    Scans true (text.toList ++ cs) (row.map Span.token ++ spans)

namespace Program.Writes

theorem nil : Writes "" [] :=
  fun _ _ h => h

theorem append {s t : String} {us vs : List Spelling} (hs : Writes s us) (ht : Writes t vs) : Writes (s ++ t) (us ++ vs) := by
  intro cs spans h
  have hboth := hs _ _ (ht _ _ h)
  rwa [String.toList_append, List.append_assoc, List.map_append, List.append_assoc]

theorem join {α : Type} {f : α → String} {g : α → List Spelling} :
    ∀ {xs : List α}, (∀ x ∈ xs, Writes (f x) (g x)) → Writes (String.join (xs.map f)) (xs.flatMap g)
  | [], _ => by
    rw [List.map_nil, String.join_nil]
    exact nil
  | x :: xs, h => by
    rw [List.map_cons, String.join_cons, List.flatMap_cons]
    exact (h x List.mem_cons_self).append (join fun y hy => h y (List.mem_cons_of_mem x hy))

end Program.Writes

theorem Grammar.Line.rows_eq_flatMap : ∀ ss : List Line, Line.rows true ss = ss.flatMap (Line.row true)
  | [] => rfl
  | s :: ss => by rw [Line.rows, rows_eq_flatMap ss, List.flatMap_cons]

theorem Grammar.Part.rows_eq_flatMap : ∀ ps : List Part, Part.rows true ps = ps.flatMap (Part.row true)
  | [] => rfl
  | p :: ps => by rw [Part.rows, rows_eq_flatMap ps, List.flatMap_cons]

/-! ## Statements -/

section
variable {newLine : Bool} {cs : List Char} {spans : List Span}

theorem scans_run {f : String} (hf : isWord f) (h : Scans false cs spans) :
    Scans newLine (f.toList ++ '(' :: ')' :: cs) (((Primary.run f).row newLine).map Span.token ++ spans) :=
  .word hf (endsWord_cons (by decide) _) (.bracket (by decide) (scans_close h))

/-- A name and the call of its member, up to the opening parenthesis. -/
theorem scans_member {x m : String} (hx : isWord x) (hm : isWord m) (h : Scans false cs spans) :
    Scans newLine (x.toList ++ '.' :: (m.toList ++ '(' :: cs))
      (.token ⟨.word, x, newLine⟩ :: .token (sign ".") :: .token (inLine .word m) :: .token (sign "(") :: spans) :=
  .word hx (endsWord_cons (by decide) _) (scans_method hm h)

/-- Strings with commas between them. -/
theorem scans_texts (h : Scans false cs spans) : ∀ (s : String) (ss : List String),
    Scans false ((", ".intercalate ((s :: ss).map Quoted.encode)).toList ++ cs)
      (((Primary.text s).row false ++ Primary.rowRest false (ss.map Primary.text)).map Span.token ++ spans)
  | s, [] => by
    rw [List.map_cons, List.map_nil, String.intercalate_singleton]
    exact Scans.string s h
  | s, s' :: ss => by
    have hmore := @Scans.string false _ _ s (scans_comma (scans_texts h s' ss).blank)
    simpa [Primary.row, Primary.rowRest, Primary.text] using hmore

end

namespace Program

theorem writes_alias (a : String × String) :
    Writes ("\tret.ImportAlias(" ++ Quoted.encode a.1 ++ ", " ++ Quoted.encode a.2 ++ ")\n") ((aliasLine a).row true) := by
  intro cs spans h
  have hret : isWord "ret" := by decide
  have halias : isWord "ImportAlias" := by decide
  have hargs := @Scans.string false _ _ a.1 (scans_comma (Scans.string a.2 (scans_close h.line)).blank)
  have hcall := @scans_member true _ _ "ret" "ImportAlias" hret halias hargs
  simpa [aliasLine, Line.row, Line.called, Primary.row, Primary.rowRest, Primary.text, callEnd] using hcall.tab

theorem writes_unitCall {g : Generator} (hg : isWord g.name) :
    Writes ("\tret.Add(" ++ g.name ++ "())\n") ((unitLine g).row true) := by
  intro cs spans h
  have hret : isWord "ret" := by decide
  have hadd : isWord "Add" := by decide
  have hcall := @scans_member true _ _ "ret" "Add" hret hadd (scans_run hg (scans_close h.line))
  simpa [unitLine, Line.row, Line.called, Primary.row, Primary.rowRest, Primary.run, callEnd] using hcall.tab

theorem writes_anonymous (p : Program) : Writes p.anonymousText (Line.rows true p.anonymousLines) := by
  rw [anonymousText, anonymousLines]
  cases p.anonymous with
  | nil => exact Writes.nil
  | cons s ss =>
    intro cs spans h
    have hret : isWord "ret" := by decide
    have hanon : isWord "Anon" := by decide
    have hcall := @scans_member true _ _ "ret" "Anon" hret hanon (scans_texts (scans_close h.line) s ss)
    simpa [Line.rows, Line.row, Line.called, Primary.row, callEnd] using hcall.tab

/-! ## Functions -/

/-- A function up to its result. -/
theorem scans_func {name : String} (hname : isWord name) {cs : List Char} {spans : List Span} (h : Scans false cs spans) :
    Scans true ("\nfunc ".toList ++ (name.toList ++ '(' :: ')' :: cs))
      (.token ⟨.keyword, "func", true⟩ :: .token (inLine .word name) :: .token (sign "(") :: .token (sign ")") :: spans) := by
  have hparens : Scans false (name.toList ++ '(' :: ')' :: cs) _ :=
    .word hname (endsWord_cons (by decide) _) (.bracket (by decide) (scans_close h))
  have hfunc : Scans true ("func".toList ++ ' ' :: (name.toList ++ '(' :: ')' :: cs)) _ :=
    .keyword (by decide) (endsWord_cons (by decide) _) hparens.blank
  exact hfunc.line

/-- A type of the builder library and the brace of a body. -/
theorem scans_result {name : String} (hname : isWord name) {cs : List Char} {spans : List Span} (h : Scans true cs spans) :
    Scans false ("jen".toList ++ '.' :: (name.toList ++ ' ' :: '\x7b' :: '\n' :: cs))
      (.token (inLine .word "jen") :: .token (sign ".") :: .token (inLine .word name) :: .token (sign "\x7b") :: spans) := by
  have hjen : isWord "jen" := by decide
  have hbrace : Scans false ('\x7b' :: '\n' :: cs) _ := .bracket (by decide) h.line
  exact .word hjen (endsWord_cons (by decide) _)
    (.dotted hname (.word hname (endsWord_cons (by decide) _) hbrace.blank) false)

/-- The same behind a star. -/
theorem scans_pointer {name : String} (hname : isWord name) {cs : List Char} {spans : List Span} (h : Scans true cs spans) :
    Scans false ('*' :: ("jen".toList ++ '.' :: (name.toList ++ ' ' :: '\x7b' :: '\n' :: cs)))
      (.token (sign "*") :: .token (inLine .word "jen") :: .token (sign ".") :: .token (inLine .word name) ::
        .token (sign "\x7b") :: spans) :=
  @Scans.star false _ _ 'j' (by decide) (scans_result hname h)

/-- The last lines of a body that returns something, from the keyword on. -/
theorem scans_return {cs : List Char} {spans : List Span} (h : Scans false (' ' :: cs) spans) :
    Scans true ("return".toList ++ ' ' :: cs) (.token ⟨.keyword, "return", true⟩ :: spans) :=
  .keyword (by decide) (endsWord_cons (by decide) _) h

theorem writes_unit (l : Layout) {g : Generator} (hname : isWord g.name) (hchain : Step.allWritable g.chain) :
    Writes (unitText l g) ((g.routine l).row true) := by
  intro cs spans h
  have hclose : Scans true ('\x7d' :: '\n' :: cs) _ := .bracket (by decide) h.line
  have hchain := (Step.scans_writeOf l 1 false hclose.line g.chain hchain).blank
  have hfunc := scans_func hname (@scans_result "Code" (by decide) _ _ (scans_return hchain).tab).blank
  simpa [unitText, Generator.routine, Grammar.Routine.row, Grammar.Result.row, Line.rows, Line.row, Chain.row_primary,
    Grammar.blockEnd, Chain.write, inLine, sign] using hfunc

/-- The first statement of the file function. -/
theorem writes_newFile (p : Program) :
    Writes ("\tret := jen.NewFile(" ++ Quoted.encode p.name ++ ")\n")
      (Line.row true (.define "ret" (.call (.select (.name "jen") "NewFile") [.text p.name] false))) := by
  intro cs spans h
  have hret : isWord "ret" := by decide
  have hjen : isWord "jen" := by decide
  have hnew : isWord "NewFile" := by decide
  have hname := @Scans.string false _ _ p.name (scans_close h.line)
  have hcall := (@scans_member false _ _ "jen" "NewFile" hjen hnew hname).blank
  have hdefine : Scans true ("ret".toList ++ ' ' :: ':' :: '=' :: _) _ :=
    .word hret (endsWord_cons (by decide) _) (.blank (.define hcall))
  simpa [Line.row, Primary.row, Primary.rowRest, Primary.text, callEnd, inLine, sign] using hdefine.tab

/-- The file function, from the text of its statements but the last. -/
theorem writes_fileFunction {text : String} {ss : List Line} (hlines : Writes text (Line.rows true ss)) :
    Writes ("\nfunc genFile() *jen.File \x7b\n" ++ text ++ "\treturn ret\n\x7d\n")
      (Grammar.Routine.row true ⟨fileFunction, .type true "jen" "File", ss ++ [.giveBack (.name "ret")]⟩) := by
  intro cs spans h
  have hret : isWord "ret" := by decide
  have hfile : isWord "File" := by decide
  have hname : isWord fileFunction := by decide
  have hclose : Scans true ('\x7d' :: '\n' :: cs) _ := .bracket (by decide) h.line
  have hback : Scans false ("ret".toList ++ '\n' :: '\x7d' :: '\n' :: cs) _ :=
    .word hret (endsWord_cons (by decide) _) hclose.line
  have hbody := hlines _ _ (scans_return hback.blank).tab
  have hfunc := scans_func hname (scans_pointer hfile hbody).blank
  simpa [Grammar.Routine.row, Grammar.Result.row, Line.rows, Line.rows_eq_flatMap, Line.row, Primary.row,
    Grammar.blockEnd, fileFunction, inLine, sign] using hfunc

theorem regroup (name anonymous aliases units : String) :
    "\nfunc genFile() *jen.File \x7b\n\tret := jen.NewFile(" ++ name ++ ")\n" ++ anonymous ++ aliases ++ units
        ++ "\treturn ret\n\x7d\n" =
      "\nfunc genFile() *jen.File \x7b\n" ++ ("\tret := jen.NewFile(" ++ name ++ ")\n" ++ (anonymous ++ (aliases ++ units)))
        ++ "\treturn ret\n\x7d\n" := by
  have hopening : "\nfunc genFile() *jen.File \x7b\n\tret := jen.NewFile(" =
    "\nfunc genFile() *jen.File \x7b\n" ++ "\tret := jen.NewFile(" := by decide +kernel
  rw [hopening]
  simp only [String.append_assoc]

/-- The file function, its statements but the last taken together. -/
theorem fileText_eq (p : Program) : p.fileText = "\nfunc genFile() *jen.File \x7b\n" ++
    ("\tret := jen.NewFile(" ++ Quoted.encode p.name ++ ")\n" ++ (p.anonymousText ++
      (String.join (p.aliases.map fun a => "\tret.ImportAlias(" ++ Quoted.encode a.1 ++ ", " ++ Quoted.encode a.2 ++ ")\n")
        ++ String.join (p.units.map fun g => "\tret.Add(" ++ g.name ++ "())\n")))) ++ "\treturn ret\n\x7d\n" :=
  regroup _ _ _ _

theorem writes_file {p : Program} (hunits : ∀ g ∈ p.units, isWord g.name) :
    Writes p.fileText (p.fileRoutine.row true) := by
  have haliases := Writes.join fun a (_ : a ∈ p.aliases) => writes_alias a
  have hcalls := Writes.join fun g hg => writes_unitCall (hunits g hg)
  have hlines := p.writes_newFile.append (p.writes_anonymous.append (haliases.append hcalls))
  have hrows : Line.rows true (.define "ret" (.call (.select (.name "jen") "NewFile") [.text p.name] false) ::
      (p.anonymousLines ++ (p.aliases.map aliasLine ++ p.units.map unitLine))) = _ :=
    Line.rows_eq_flatMap _
  rw [List.flatMap_cons, List.flatMap_append, List.flatMap_append, List.flatMap_map, List.flatMap_map,
    ← Line.rows_eq_flatMap p.anonymousLines] at hrows
  rw [← hrows] at hlines
  have hfunc := writes_fileFunction hlines
  rw [List.cons_append, List.append_assoc, List.append_assoc] at hfunc
  rw [fileText_eq]
  exact hfunc

theorem writes_main :
    Writes "\nfunc main() \x7b\n\tret := genFile()\n\tfmt.Printf(\"%#v\", ret)\n\x7d\n" (mainRoutine.row true) := by
  intro cs spans h
  have hret : isWord "ret" := by decide
  have hclose : Scans true ('\x7d' :: '\n' :: cs) _ := .bracket (by decide) h.line
  have hlast : Scans false ("ret".toList ++ ')' :: '\n' :: '\x7d' :: '\n' :: cs) _ :=
    .word hret (endsWord_cons (by decide) _) (scans_close hclose.line)
  have hprint := @scans_member true _ _ "fmt" "Printf" (by decide) (by decide)
    (Scans.string "%#v" (scans_comma hlast.blank))
  have hrun := @scans_run false _ _ fileFunction (by decide) hprint.tab.line
  have hdefine : Scans true ("ret".toList ++ ' ' :: ':' :: '=' :: _) _ :=
    .word hret (endsWord_cons (by decide) _) (.blank (.define hrun.blank))
  have hbrace : Scans false ('\x7b' :: '\n' :: _) _ := .bracket (by decide) hdefine.tab.line
  have hfunc := @scans_func "main" (by decide) _ _ hbrace.blank
  have hformat : Quoted.encode "%#v" = "\"%#v\"" := by decide +kernel
  simpa [mainRoutine, Grammar.Routine.row, Grammar.Result.row, Line.rows, Line.row, Line.called, Primary.row,
    Primary.rowRest, Primary.text, Primary.run, callEnd, Grammar.blockEnd, fileFunction, hformat, inLine, sign] using hfunc

/-! ## The package clause and the imports -/

theorem writes_importOne (path : String) :
    Writes ("import jen " ++ Quoted.encode path ++ "\n") (Part.row true (.importOne ⟨some "jen", Quoted.encode path⟩)) := by
  intro cs spans h
  have hpath := @Scans.string false _ _ path h.line
  have hjen : Scans false ("jen".toList ++ ' ' :: _) _ :=
    .word (by decide) (endsWord_cons (by decide) _) hpath.blank
  have himport : Scans true ("import".toList ++ ' ' :: _) _ :=
    .keyword (by decide) (endsWord_cons (by decide) _) hjen.blank
  simpa [Part.row, Imported.row, inLine, sign] using himport

theorem writes_importTwo (path : String) :
    Writes ("import (\n\t\"fmt\"\n\n\tjen " ++ Quoted.encode path ++ "\n)\n")
      (Part.row true (.imports [⟨none, Quoted.encode "fmt"⟩, ⟨some "jen", Quoted.encode path⟩])) := by
  intro cs spans h
  have hclose : Scans true (')' :: '\n' :: cs) _ := .bracket (by decide) h.line
  have hpath := @Scans.string false _ _ path hclose.line
  have hjen : Scans true ("jen".toList ++ ' ' :: _) _ :=
    .word (by decide) (endsWord_cons (by decide) _) hpath.blank
  have hfmt := @Scans.string true _ _ "fmt" hjen.tab.line.line
  have hopen : Scans false ('(' :: '\n' :: _) _ := .bracket (by decide) hfmt.tab.line
  have himport : Scans true ("import".toList ++ ' ' :: _) _ :=
    .keyword (by decide) (endsWord_cons (by decide) _) hopen.blank
  have hliteral : Quoted.encode "fmt" = "\"fmt\"" := by decide +kernel
  simpa [Part.row, Imported.rows, Imported.row, hliteral, inLine, sign] using himport

/-- The imports of a program as text. -/
def importText (p : Program) : String :=
  if p.entryPoint then "import (\n\t\"fmt\"\n\n\tjen " ++ Quoted.encode builderPath ++ "\n)\n"
  else "import jen " ++ Quoted.encode builderPath ++ "\n"

theorem writes_imports (p : Program) : Writes p.importText (p.importPart.row true) := by
  rw [importText, importPart]
  cases p.entryPoint with
  | true => exact writes_importTwo builderPath
  | false => exact writes_importOne builderPath

/-- The function that prints the rebuilt file, if there is to be one. -/
def lastRoutines (p : Program) : List Routine :=
  if p.entryPoint then [mainRoutine] else []

theorem writes_last (p : Program) : Writes p.mainText (Part.rows true (p.lastRoutines.map .routine)) := by
  have hrow : Part.rows true ([mainRoutine].map .routine) = mainRoutine.row true := List.append_nil _
  rw [mainText, lastRoutines]
  cases p.entryPoint with
  | true =>
    rw [if_pos rfl, if_pos rfl, hrow]
    exact writes_main
  | false => exact Writes.nil

theorem text_eq (l : Layout) (p : Program) : p.text l = "package " ++ (p.package ++ ("\n\n" ++
    (p.importText ++ (String.join (p.units.map (unitText l)) ++ (p.fileText ++ p.mainText))))) := by
  have hheader : p.header = "package " ++ p.package ++ "\n\n" ++ p.importText := rfl
  rw [text, hheader]
  simp only [String.append_assoc]

theorem rows_parts (l : Layout) (p : Program) : Part.rows false (p.parts l) =
    ⟨.keyword, "package", false⟩ :: inLine .word p.package :: (p.importPart.row true ++
      (p.units.flatMap (fun g => (g.routine l).row true) ++
        (p.fileRoutine.row true ++ Part.rows true (p.lastRoutines.map .routine)))) := by
  rw [parts, Part.rows, Part.rows_eq_flatMap, routines, ← lastRoutines, Part.rows_eq_flatMap, List.flatMap_cons, List.flatMap_map,
    List.flatMap_append, List.flatMap_map, List.flatMap_cons, List.flatMap_map]
  rfl

/-- **The tokens of the parts of a program are those of its text.** -/
theorem scans_text (l : Layout) {p : Program} (hpackage : isWord p.package)
    (hunits : ∀ g ∈ p.units, isWord g.name ∧ Step.allWritable g.chain) :
    Scans false (p.text l).toList ((Part.rows false (p.parts l)).map Span.token) := by
  have hfuncs := Writes.join fun g hg => writes_unit l (hunits g hg).1 (hunits g hg).2
  have hfile := writes_file fun g hg => (hunits g hg).1
  have hbody := (p.writes_imports.append (hfuncs.append (hfile.append p.writes_last))) [] [] .nil
  rw [List.append_nil, List.append_nil] at hbody
  rw [text_eq, rows_parts]
  revert hbody
  generalize p.importText ++ _ = rest
  intro hbody
  have hname : Scans false (p.package.toList ++ '\n' :: '\n' :: rest.toList) _ :=
    .word hpackage (endsWord_cons (by decide) _) hbody.line.line
  have hclause : Scans false ("package".toList ++ ' ' :: (p.package.toList ++ '\n' :: '\n' :: rest.toList)) _ :=
    .keyword (by decide) (endsWord_cons (by decide) _) hname.blank
  simpa [inLine] using hclause

end Program

end GoRebuild
