import GoRebuild.Chain.Printer
import GoRebuild.Program.Assemble
import GoRebuild.Toml.Document

/-!
# Configuration

* `Config` : what configuration files set;
* `Config.ofTable?` : the settings in a TOML document, `none` where one has the wrong type;
* `Config.merge`, `Config.load` : several files, the later ones first;
* `Config.package` and so on : a setting or its default.

Unknown keys are ignored one by one, a file with a bad setting as a whole. A section may also be an array, which
gives the settings in their order.
-/

namespace GoRebuild

structure GenerateSettings where
  package : Option String := none
  entryPoint : Option Bool := none
  layout : Option Layout := none
  parallel : Option Bool := none
  limit : Option Nat := none
  deriving DecidableEq, Repr

structure VerifySettings where
  go : Option String := none
  gofmt : Option String := none
  deriving DecidableEq, Repr

/-- What configuration files set. -/
structure Config where
  generate : GenerateSettings := {}
  verify : VerifySettings := {}
  deriving DecidableEq, Repr

/-! ## Settings in a document -/

namespace Toml

/-- Fields by their names in a table or by their places in an array. -/
def fields? (names : List String) : Toml → Option (List (Option Toml))
  | table _ es => some (names.map fun k => es.lookup k)
  | array vs => some ((List.range names.length).map fun i => vs[i]?)
  | tables vs => some ((List.range names.length).map fun i => vs[i]?)
  | _ => none

def text? : Toml → Option String
  | text s => some s
  | _ => none

def bool? : Toml → Option Bool
  | bool b => some b
  | _ => none

/-- An integer that is not negative. -/
def nat? : Toml → Option Nat
  | int (.ofNat n) => some n
  | _ => none

/-- Whether a value holds nothing. -/
def isEmpty : Toml → Bool
  | table _ es => es.isEmpty
  | array vs => vs.isEmpty
  | tables vs => vs.isEmpty
  | _ => false

/-- A choice by its name, which is a text or the only key of a table without content. -/
def choice? : Toml → Option String
  | text s => some s
  | table _ [(k, v)] => if v.isEmpty then some k else none
  | _ => none

/-- A setting that may be absent, but must not be wrong. -/
def setting? {α : Type} (f : Toml → Option α) : Option Toml → Option (Option α)
  | none => some none
  | some v => (f v).map some

end Toml

def Layout.ofToml? (v : Toml) : Option Layout :=
  match v.choice? with
  | some "compact" => some .compact
  | some "pretty" => some .pretty
  | _ => none

/-- The settings of a section `generate`. -/
def GenerateSettings.ofToml? (v : Toml) : Option GenerateSettings := do
  match ← v.fields? ["package", "entry_point", "layout", "parallel", "max_depth"] with
  | [package, entryPoint, layout, parallel, limit] =>
    return ⟨← Toml.setting? Toml.text? package, ← Toml.setting? Toml.bool? entryPoint,
      ← Toml.setting? Layout.ofToml? layout, ← Toml.setting? Toml.bool? parallel,
      ← Toml.setting? Toml.nat? limit⟩
  | _ => none

/-- The settings of a section `verify`. -/
def VerifySettings.ofToml? (v : Toml) : Option VerifySettings := do
  match ← v.fields? ["go", "gofmt"] with
  | [go, gofmt] => return ⟨← Toml.setting? Toml.text? go, ← Toml.setting? Toml.text? gofmt⟩
  | _ => none

namespace Config

/-- The settings in a document. -/
def ofTable? (t : Toml.Table) : Option Config := do
  let generate ← Toml.setting? GenerateSettings.ofToml? (t.lookup "generate")
  let verify ← Toml.setting? VerifySettings.ofToml? (t.lookup "verify")
  return ⟨generate.getD {}, verify.getD {}⟩

def parse? (text : String) : Option Config :=
  (Toml.parse? text).bind ofTable?

/-! ## Several files -/

/-- The settings of two files, those of the second first. -/
def merge (a b : Config) : Config where
  generate := {
    package := b.generate.package <|> a.generate.package
    entryPoint := b.generate.entryPoint <|> a.generate.entryPoint
    layout := b.generate.layout <|> a.generate.layout
    parallel := b.generate.parallel <|> a.generate.parallel
    limit := b.generate.limit <|> a.generate.limit }
  verify := {
    go := b.verify.go <|> a.verify.go
    gofmt := b.verify.gofmt <|> a.verify.gofmt }

/-- The settings of some files, of which the later ones come first. A file that is absent or bad sets
nothing. -/
def load (texts : List (Option String)) : Config :=
  (texts.filterMap fun t => t.bind parse?).foldl merge {}

/-! ## Settings and defaults -/

/-- The package of the generated program. -/
def package (c : Config) : String := c.generate.package.getD "main"

/-- Whether the generated program has a `main`. -/
def entryPoint (c : Config) : Bool := c.generate.entryPoint.getD false

/-- How chains are laid out. -/
def layout (c : Config) : Layout := c.generate.layout.getD .compact

/-- Whether declarations are synthesized apart. -/
def parallel (c : Config) : Bool := c.generate.parallel.getD false

/-- The deepest nesting that is not refused. -/
def limit (c : Config) : Nat := c.generate.limit.getD defaultLimit

/-- The program that runs the generated program. -/
def go (c : Config) : String := c.verify.go.getD "go"

/-- The program that formats sources. -/
def gofmt (c : Config) : String := c.verify.gofmt.getD "gofmt"

end Config

end GoRebuild
