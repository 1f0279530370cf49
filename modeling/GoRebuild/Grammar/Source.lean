import GoRebuild.Grammar.Statements

/-!
# Reading a source

* `Layer.build` : the rules, nested to some depth;
* `item` : a clause, declaration or statement at top level;
* `items?` : all of a row of tokens, `none` where the grammar does not derive it.
-/

namespace GoRebuild.Grammar
open Lexical (Token Place)
open Scan

/-- The rules, where constructs may be nested so deep. -/
def Layer.build (bound : Nat) : Nat → Layer
  | 0 => .none bound
  | n + 1 =>
    let l := build bound n
    ⟨bound, exprRule l, typeRule l, bracesRule l, blockRule l, stmtRule l, conditionalRule l⟩

variable (l : Layer)

/-- The local name of an import. -/
def importName : Parser ImportName :=
  (do
    let _ ← take "."
    pure .dot) <|>
  (do
    let n ← takeName
    pure (if n.text = "_" then .blank else .named n.text))

def importSpec : Parser Import := do
  let start ← here
  let name ← optional importName
  let path ← takeText
  pure ⟨name, path, start⟩

def importDecl : Parser Item := do
  let start ← take "import"
  if ← sees "(" then
    let specs ← enclosed l "(" ")" false importSpec
    pure (.imports specs start)
  else
    let spec ← importSpec
    pure (.importOne spec start)

/-- A function or method. Its body has to begin on the line where its signature ends. -/
def funcDecl : Parser Func := do
  let start ← take "func"
  let recv ← only (← sees "(") (paramList l)
  let name ← takeName
  let params ← only (recv.isNone && (← sees "[")) (typeParameters l)
  let sig ← signature l true
  let stop ← ends true
  let body ← only (!stop && (← sees "\x7b")) l.block
  pure ⟨recv, name, params, sig, body, start⟩

/-- What stands at top level. -/
def item : Parser Item := do
  let some t ← next? | failure
  match t.text with
  | "package" =>
    let _ ← take "package"
    let n ← takeName
    pure (.package n)
  | "import" => importDecl l
  | _ =>
    (do
      let f ← funcDecl l
      pure (.func f)) <|>
    (do
      let s ← l.stmt
      pure (.stmt s))

/-- What stands at top level, each with its end. -/
def allItems : Nat → Parser (List Item)
  | 0 => failure
  | n + 1 => do
    match ← next? with
    | none => pure []
    | some _ =>
      let x ← item l
      takeEnd
      let xs ← allItems n
      pure (x :: xs)

/-- What a row of tokens holds at top level. -/
def items? (tokens : List Token) : Option (List Item) :=
  let bound := tokens.length
  (allItems (Layer.build bound (2 * bound + 2)) (bound + 1) tokens).map (·.1)

end GoRebuild.Grammar
