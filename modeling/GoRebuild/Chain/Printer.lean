import GoRebuild.Chain.Basic
import GoRebuild.Text.Quoted

/-!
# Writing chains

* `Chain.text c` : the chain on one line, from `jen` on; an empty chain is `jen.Null()`;
* `Layout` : whether calls that group are broken over lines;
* `Chain.write l n c` : the chain in a layout, inside `n` levels of indentation.

A broken call has each argument on a line of its own, one level further in and with a comma after it,
and its closing parenthesis on the next line.
-/

namespace GoRebuild
open Text

/-- How chains are laid out. -/
inductive Layout where
  /-- each chain on one line -/
  | compact
  /-- calls that group broken, one argument a line -/
  | pretty
  deriving DecidableEq, Repr, Inhabited

/-- Whether a call with so many arguments is broken over lines. -/
def Layout.breaks (l : Layout) (method : String) (args : Nat) : Bool :=
  l == .pretty && args != 0 &&
    (["Block", "Defs", "Struct", "Interface", "Values"].contains method ||
      (method == "Params" && 2 ≤ args))

/-- So many tabs. -/
def tabs (n : Nat) : String :=
  String.ofList (List.replicate n '\t')

mutual

/-- A chain that may be empty. -/
def Step.textOf : List Step → String
  | [] => "jen.Null()"
  | s :: ss => "jen" ++ s.text ++ Step.textRest ss

/-- The calls of a chain. -/
def Step.textRest : List Step → String
  | [] => ""
  | s :: ss => s.text ++ Step.textRest ss

def Step.text : Step → String
  | .mk m [] => "." ++ m ++ "()"
  | .mk m (a :: as) => "." ++ m ++ "(" ++ a.text ++ Arg.textRest as ++ ")"

/-- The arguments after the first. -/
def Arg.textRest : List Arg → String
  | [] => ""
  | a :: as => ", " ++ a.text ++ Arg.textRest as

def Arg.text : Arg → String
  | .code c => Step.textOf c
  | .quoted s => Quoted.encode s
  | .int n => toString n

end

mutual

/-- A chain that may be empty, in a layout and at a level of indentation. -/
def Step.writeOf (l : Layout) (n : Nat) : List Step → String
  | [] => "jen.Null()"
  | s :: ss => "jen" ++ s.write l n ++ Step.writeRest l n ss

/-- The calls of a chain. -/
def Step.writeRest (l : Layout) (n : Nat) : List Step → String
  | [] => ""
  | s :: ss => s.write l n ++ Step.writeRest l n ss

def Step.write (l : Layout) (n : Nat) : Step → String
  | .mk m [] => "." ++ m ++ "()"
  | .mk m (a :: as) =>
    if l.breaks m (as.length + 1) then
      "." ++ m ++ "(\n" ++ tabs (n + 1) ++ a.write l (n + 1) ++ ",\n"
        ++ Arg.writeLines l (n + 1) as ++ tabs n ++ ")"
    else
      "." ++ m ++ "(" ++ a.write l n ++ Arg.writeRest l n as ++ ")"

/-- Further arguments, each on a line. -/
def Arg.writeLines (l : Layout) (n : Nat) : List Arg → String
  | [] => ""
  | a :: as => tabs n ++ a.write l n ++ ",\n" ++ Arg.writeLines l n as

/-- Further arguments on the same line. -/
def Arg.writeRest (l : Layout) (n : Nat) : List Arg → String
  | [] => ""
  | a :: as => ", " ++ a.write l n ++ Arg.writeRest l n as

def Arg.write (l : Layout) (n : Nat) : Arg → String
  | .code c => Step.writeOf l n c
  | .quoted s => Quoted.encode s
  | .int i => toString i

end

/-- A chain on one line. -/
def Chain.text (c : Chain) : String :=
  Step.textOf c

/-- A chain in a layout, inside so many levels of indentation. -/
def Chain.write (l : Layout) (n : Nat) (c : Chain) : String :=
  Step.writeOf l n c

end GoRebuild
