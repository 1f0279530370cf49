import GoRebuild.Chain.Printer
import GoRebuild.Program.Assemble

/-!
# Writing the generated program

* `builderPath` : the import path of the builder library;
* `RenderError` : why a program cannot be written;
* `Program.duplicate?` : the first generator whose name is taken;
* `Program.render` : the text of a program;
* `Sink`, `Program.writeTo` : the text written to a place that takes only so many bytes.
-/

namespace GoRebuild
open Text

/-- The import path of the builder library. -/
def builderPath : String := "github.com/dave/jennifer/jen"

/-- Why a program cannot be written. -/
inductive RenderError where
  /-- the sink failed -/
  | io (reason : String)
  /-- two functions would have this name -/
  | duplicateUnit (name : String)
  deriving DecidableEq, Repr

def RenderError.message : RenderError → String
  | io reason => "write failed: " ++ reason
  | duplicateUnit name => "duplicate unit name " ++ Escaped.display name

/-- A place for bytes that takes only so many. -/
structure Sink where
  written : List UInt8
  /-- How many more bytes fit. -/
  room : Nat

/-- Writes what fits, and says whether that was all. -/
def Sink.write (sink : Sink) (bytes : List UInt8) : Bool × Sink :=
  (bytes.length ≤ sink.room,
    ⟨sink.written ++ bytes.take sink.room, sink.room - bytes.length⟩)

/-- The name of the function that adds all generators up. -/
def fileFunction : String := "genFile"

/-- The first name that an earlier generator or the file function has. -/
def duplicateFrom (seen : List String) : List Generator → Option String
  | [] => none
  | g :: gs =>
    if seen.contains g.name || g.name == fileFunction then some g.name
    else duplicateFrom (g.name :: seen) gs

namespace Program

/-- The first generator name that is taken. -/
def duplicate? (p : Program) : Option String :=
  duplicateFrom [] p.units

/-- The package clause and the imports. -/
def header (p : Program) : String :=
  "package " ++ p.package ++ "\n\n" ++
    if p.entryPoint then
      "import (\n\t\"fmt\"\n\n\tjen " ++ Quoted.encode builderPath ++ "\n)\n"
    else "import jen " ++ Quoted.encode builderPath ++ "\n"

/-- The function of a generator. -/
def unitText (l : Layout) (g : Generator) : String :=
  "\nfunc " ++ g.name ++ "() jen.Code \x7b\n\treturn " ++ g.chain.write l 1 ++ "\n\x7d\n"

/-- The call that registers imports for their side effects, if there are any. -/
def anonymousText (p : Program) : String :=
  if p.anonymous.isEmpty then ""
  else "\tret.Anon(" ++ ", ".intercalate (p.anonymous.map Quoted.encode) ++ ")\n"

/-- The function that adds up the generators. -/
def fileText (p : Program) : String :=
  "\nfunc genFile() *jen.File \x7b\n\tret := jen.NewFile(" ++ Quoted.encode p.name ++ ")\n"
    ++ p.anonymousText
    ++ String.join (p.aliases.map fun a =>
      "\tret.ImportAlias(" ++ Quoted.encode a.1 ++ ", " ++ Quoted.encode a.2 ++ ")\n")
    ++ String.join (p.units.map fun g => "\tret.Add(" ++ g.name ++ "())\n")
    ++ "\treturn ret\n\x7d\n"

/-- The function that prints the rebuilt file, if there is to be one. -/
def mainText (p : Program) : String :=
  if p.entryPoint then
    "\nfunc main() \x7b\n\tret := genFile()\n\tfmt.Printf(\"%#v\", ret)\n\x7d\n"
  else ""

/-- The text of a program whose generators have distinct names. -/
def text (l : Layout) (p : Program) : String :=
  p.header ++ String.join (p.units.map (unitText l)) ++ p.fileText ++ p.mainText

def render (l : Layout) (p : Program) : Except RenderError String :=
  match p.duplicate? with
  | some name => .error (.duplicateUnit name)
  | none => .ok (p.text l)

/-- Writes the text of a program to a sink. -/
def writeTo (l : Layout) (p : Program) (sink : Sink) : Except RenderError Unit × Sink :=
  match p.render l with
  | .error e => (.error e, sink)
  | .ok text =>
    match sink.write text.toUTF8.toList with
    | (true, sink) => (.ok (), sink)
    | (false, sink) => (.error (.io "disk full"), sink)

end Program

end GoRebuild
