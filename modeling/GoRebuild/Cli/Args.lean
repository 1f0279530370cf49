import GoRebuild.Config

/-!
# The command line

* `GenerateArgs`, `Command` : what the user asks for;
* `Command.parse?` : the command that some arguments ask for, `none` where they are no command;
* `GenerateArgs.options`, `GenerateArgs.layout` : flags first, then the configuration.

Options may stand before, between and behind the positions of a command, short ones together behind one dash,
values behind an option, behind `=` or, for a short one, directly. A single dash is a position.
-/

namespace GoRebuild

structure GenerateArgs where
  input : String
  output : Option String := none
  package : Option String := none
  main : Bool := false
  pretty : Bool := false
  parallel : Bool := false
  deriving DecidableEq, Repr

/-- What the user asks for. -/
inductive Command where
  | generate (args : GenerateArgs)
  | ast (input : String)
  | verify (input : String)
  | version
  deriving DecidableEq, Repr

namespace GenerateArgs

/-- The choices of flags and configuration. -/
def options (a : GenerateArgs) (c : Config) : Options where
  package := a.package.getD c.package
  entryPoint := a.main || c.entryPoint
  parallel := a.parallel || c.parallel
  limit := c.limit

/-- The layout of flags and configuration. -/
def layout (a : GenerateArgs) (c : Config) : Layout :=
  if a.pretty then .pretty else c.layout

end GenerateArgs

namespace Command

/-- The commands by their names. -/
inductive Name where
  | gen | ast | verify
  deriving DecidableEq, Repr

def Name.ofText? : String → Option Name
  | "gen" => some .gen
  | "ast" => some .ast
  | "verify" => some .verify
  | _ => none

/-- What the arguments read so far say. -/
structure Partial where
  name : Option Name := none
  positions : List String := []
  package : Option String := none
  main : Bool := false
  pretty : Bool := false
  parallel : Bool := false
  version : Bool := false

namespace Partial

/-- One more position. The first is the name of a command; `gen` takes two, the others one. -/
def place? (p : Partial) (arg : String) : Option Partial :=
  match p.name with
  | none => (Name.ofText? arg).map fun n => { p with name := some n }
  | some n =>
    let most := if n = .gen then 2 else 1
    if p.positions.length < most then some { p with positions := p.positions ++ [arg] } else none

/-- An option without value, in its long spelling. No option but the one for messages may be repeated. -/
def flag? (p : Partial) (name : String) : Option Partial :=
  match name with
  | "verbose" => some p
  | "version" => if p.name.isNone then some { p with version := true } else none
  | "main" => if p.name = some .gen ∧ !p.main then some { p with main := true } else none
  | "pretty" => if p.name = some .gen ∧ !p.pretty then some { p with pretty := true } else none
  | "parallel" =>
    if p.name = some .gen ∧ !p.parallel then some { p with parallel := true } else none
  | _ => none

/-- The package as an option. -/
def package? (p : Partial) (value : String) : Option Partial :=
  if p.name = some .gen ∧ p.package.isNone then some { p with package := some value } else none

/-- Short options behind one dash; also whether the next argument is the value of the last. -/
def shorts? (p : Partial) : List Char → Option (Partial × Bool)
  | [] => some (p, false)
  | 'p' :: [] => some (p, true)
  | 'p' :: '=' :: value => (p.package? (String.ofList value)).map (·, false)
  | 'p' :: value => (p.package? (String.ofList value)).map (·, false)
  | 'v' :: cs => p.shorts? cs
  | 'V' :: _ => (p.flag? "version").map (·, false)
  | 'm' :: cs => do
    let p ← p.flag? "main"
    p.shorts? cs
  | _ :: _ => none

/-- The command, if nothing is missing. -/
def finish? (p : Partial) : Option Command :=
  match p.name, p.positions with
  | some .gen, input :: rest =>
    some (.generate ⟨input, rest.head?, p.package, p.main, p.pretty, p.parallel⟩)
  | some .ast, [input] => some (.ast input)
  | some .verify, [input] => some (.verify input)
  | _, _ => none

end Partial

/-- Whether an argument is an option and no position. -/
def isOption (arg : String) : Bool :=
  arg.startsWith "-" && arg ≠ "-"

/-- The command, from what was read and the arguments to come. The version is shown as soon as it is
asked for. -/
def parseFrom? (p : Partial) : List String → Option Command
  | [] => p.finish?
  | "--" :: rest => do
    let _ ← p.name
    (← rest.foldlM Partial.place? p).finish?
  | arg :: rest =>
    match arg.toList with
    | '-' :: '-' :: long =>
      let name := String.ofList (long.takeWhile (· ≠ '='))
      match long.dropWhile (· ≠ '=') with
      | _ :: value =>
        if name = "package" then do parseFrom? (← p.package? (String.ofList value)) rest else none
      | [] =>
        if name = "package" then
          match rest with
          | value :: rest =>
            if isOption value then none else do parseFrom? (← p.package? value) rest
          | [] => none
        else do
          let p ← p.flag? name
          if p.version then some .version else parseFrom? p rest
    | '-' :: c :: cs =>
      match p.shorts? (c :: cs) with
      | some (p, false) => if p.version then some .version else parseFrom? p rest
      | some (p, true) =>
        match rest with
        | value :: rest =>
          if isOption value then none else do parseFrom? (← p.package? value) rest
        | [] => none
      | none => none
    | _ => do parseFrom? (← p.place? arg) rest

/-- The command that some arguments ask for. -/
def parse? (args : List String) : Option Command :=
  parseFrom? {} args

end Command

end GoRebuild
