import GoRebuild.Grammar.Types

/-!
# Reading declarations

* `constSpec`, `varSpec`, `typeSpec` : entries;
* `declaration` : a declaration of constants, variables or types.

A line break ends names of constants, which may stand alone, but not names of variables, which need a type
or values. After `type T [` an array is tried first, then type parameters.
-/

namespace GoRebuild.Grammar
open Lexical (Token Place)
open Scan

variable (l : Layer)

/-- Expressions with a comma between any two; a line break ends them or does not. -/
def exprList (f : Follow) : Parser (List Node) := do
  let x ← l.expr f 1
  let xs ← many (do
    require (!(← ends f.line))
    let _ ← take ","
    l.expr f 1) l.bound
  pure (x :: xs)

/-- Values to the end of a statement. -/
def valueList : Parser (List Node) := exprList l Follow.statement.value

/-- Names of constants, with a type and values or without both. -/
def constSpec : Parser ValueSpec := do
  let n ← takeName
  let more ← many (do
    require (!(← ends true))
    let _ ← take ","
    takeName) l.bound
  (do
    require (!(← ends true))
    let typed := !(← sees "=")
    let t ← only typed (l.type false)
    let _ ← take "="
    let vs ← valueList l
    pure (.mk n more t vs)) <|> pure (.mk n more none [])

/-- Names of variables, with a type, values or both. -/
def varSpec : Parser ValueSpec := do
  let n ← takeName
  let more ← commaTail takeName l.bound
  if ← takes "=" then
    let vs ← valueList l
    pure (.mk n more none vs)
  else
    let t ← l.type true
    let stop ← ends true
    if !stop && (← sees "=") then
      let _ ← take "="
      let vs ← valueList l
      pure (.mk n more (some t) vs)
    else pure (.mk n more (some t) [])

/-- A name for a type. -/
def typeSpec : Parser TypeSpec := do
  let n ← takeName
  if ← takes "=" then
    let t ← l.type true
    pure (.mk n none true t)
  else
    (do
      let t ← l.type true
      pure (.mk n none false t)) <|>
    (do
      let params ← typeParameters l
      let aliased ← takes "="
      let t ← l.type true
      pure (.mk n (some params) aliased t))

/-- A declaration of constants or variables. -/
def valueDecl (tok : ValueTok) (word : String) (spec : Parser ValueSpec) : Parser Decl := do
  let start ← take word
  if ← sees "(" then
    let specs ← enclosed l "(" ")" true spec
    pure (.values tok specs start)
  else
    let s ← spec
    pure (.value tok s start)

def typeDecl : Parser Decl := do
  let start ← take "type"
  if ← sees "(" then
    let specs ← enclosed l "(" ")" false (typeSpec l)
    pure (.types specs start)
  else
    let s ← typeSpec l
    pure (.type s start)

def declaration : Parser Decl :=
  valueDecl l .constTok "const" (constSpec l) <|> valueDecl l .varTok "var" (varSpec l) <|> typeDecl l

end GoRebuild.Grammar
