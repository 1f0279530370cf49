import GoRebuild.Grammar.Parser

/-!
# Reading types

* `typeRule` : a type;
* `signature`, `paramList` : parameters and results;
* `member`, `element` : entries of structs and interfaces;
* `typeArguments`, `typeParameters` : generic lists, which are only recognised.

In a list of parameters a name alone can be a parameter or a type. Names directly before a parameter with a
type share that type, others are types: `a, b T` has two names, `a T, b` has the types `T` and `b`.
-/

namespace GoRebuild.Grammar
open Lexical (Token TokenKind Place)
open Scan

variable (l : Layer)

/-! ## Names and generic lists -/

/-- More types, each behind a `|`. -/
def unionTail (line : Bool) : Parser (List Node) :=
  many (do
    require (!(← ends line))
    let _ ← take "|"
    l.type line) l.bound

/-- A type or a union of types; gives whether it is a single one. -/
def typeElem : Parser Bool := do
  let _ ← l.type false
  let more ← unionTail l false
  pure more.isEmpty

/-- `[A, B]` behind a generic name; gives whether there is no union in it. -/
def typeArguments : Parser Bool := do
  let _ ← take "["
  let single ← commaList (typeElem l) l.bound
  closing "]"
  pure (single.all id)

/-- `[K comparable, V any]`; the last name has a constraint. -/
def typeParameters : Parser Place := do
  let start ← take "["
  let entries ← commaList (do
    let _ ← takeName
    optional (typeElem l)) l.bound
  require (entries.getLast?.bind id).isSome
  closing "]"
  pure start

/-- A name or a name in a package. -/
def qualifiedName (line : Bool) : Parser Node := do
  let n ← takeName
  if !(← ends line) && (← sees ".") then
    let _ ← take "."
    let m ← takeName
    pure (.mk (.select n.node m) n.place)
  else pure n.node

/-- A name as a type, with its type arguments. -/
def namedType (line : Bool) : Parser Node := do
  let x ← qualifiedName line
  if !(← ends line) && (← sees "[") then
    let _ ← typeArguments l
    pure (.refused .genericType x.start)
  else pure x

/-! ## Channels -/

/-- Words before the value type of a channel type. -/
inductive ChanWord where
  | chan | arrow
  deriving DecidableEq, Repr

/-- The words before the value type, with their places. -/
def chanWords : Parser (List (ChanWord × Place)) :=
  many ((do
    let p ← take "chan"
    pure (.chan, p)) <|> (do
    let p ← take "<-"
    pure (.arrow, p)))
  l.bound

/-- The channel type that words, the last one first, make of a value type. An arrow goes with the
`chan` behind it, if there is one. -/
def chanType : List (ChanWord × Place) → Node → Option Node
  | [], t => some t
  | (.chan, _) :: (.arrow, p) :: ws, t => chanType ws (.mk (.chan .recv t) p)
  | (.arrow, _) :: (.chan, p) :: ws, t => chanType ws (.mk (.chan .send t) p)
  | (.chan, p) :: ws, t => chanType ws (.mk (.chan .both t) p)
  | (.arrow, _) :: _, _ => none

/-! ## Parameters and results -/

/-- An entry of a parameter list, before names are grouped. -/
inductive ParamEntry where
  | bare (name : Name)
  | typed (name : Name) (ty : Node)
  | plain (ty : Node)
  | dotted (name : Option Name) (dots : Place) (ty : Node)

/-- Whether the list may go on or end here. -/
def paramEnds : Parser Bool := do
  pure ((← sees ",") || (← sees ")"))

def paramEntry : Parser ParamEntry :=
  (do
    let n ← takeName
    require (← paramEnds)
    pure (.bare n)) <|>
  (do
    let n ← optional takeName
    let dots ← take "..."
    let t ← l.type false
    pure (.dotted n dots t)) <|>
  (do
    let n ← takeName
    let t ← l.type false
    require (← paramEnds)
    pure (.typed n t)) <|>
  (do
    let t ← l.type false
    pure (.plain t))

/-- A parameter without a name. -/
def Name.param (n : Name) : Param :=
  .mk [] none n.node

/-- The parameters, from names that wait for a type and entries. -/
def groupParams : List Name → List ParamEntry → List Param
  | ns, [] => ns.map Name.param
  | ns, .bare n :: es => groupParams (ns ++ [n]) es
  | ns, .typed n t :: es => .mk (ns ++ [n]) none t :: groupParams [] es
  | ns, .plain t :: es => ns.map Name.param ++ .mk [] none t :: groupParams [] es
  | ns, .dotted n dots t :: es =>
    ns.map Name.param ++ .mk n.toList (some dots) t :: groupParams [] es

/-- Parameters in parentheses. -/
def paramList : Parser (List Param) := do
  let _ ← take "("
  let entries ← commaList (paramEntry l) l.bound <|> pure []
  closing ")"
  pure (groupParams [] entries)

/-- Parameters and results; a line break ends them or does not. -/
def signature (line : Bool) : Parser Signature := do
  let params ← paramList l
  if ← ends line then pure (.mk params none)
  else if ← sees "(" then
    let results ← paramList l
    pure (.mk params (some results))
  else
    let result ← optional (l.type line)
    pure (.mk params (result.map fun t => [.mk [] none t]))

/-! ## Structs and interfaces -/

/-- Entries up to a closing bracket, each but the last with an end, which the last has `strict`ly or not. -/
def entries {α : Type} (p : Parser α) (bracket : String) (strict : Bool) : Nat → Parser (List α)
  | 0 => failure
  | n + 1 => do
    if ← sees bracket then pure []
    else
      let x ← p
      if strict || !(← sees bracket) then takeEnd
      let xs ← entries p bracket strict n
      pure (x :: xs)

/-- Entries in brackets. -/
def enclosed {α : Type} (opening bracket : String) (strict : Bool) (p : Parser α) :
    Parser (List α) := do
  let _ ← take opening
  let xs ← entries p bracket strict (l.bound + 1)
  let _ ← take bracket
  pure xs

/-- The tag of a struct field, on its line. -/
def fieldTag : Parser (Option String) := do
  if ← ends true then pure none
  else optional takeText

/-- Whether an entry of a struct ends here, and not just a line of it: the next line starts an entry. -/
def memberEnds : Parser Bool := fun ts =>
  match ts with
  | t :: _ =>
    let opens := t.kind = .word || t.text == "*"
    some ((t.newLine && opens) || ["\x7d", ";"].contains t.text || t.kind = .stop, ts)
  | [] => some (true, ts)

/-- An embedded generic type. Up to its closing bracket it could be a field with an array type. -/
def embeddedGeneric : Parser Member := do
  let star ← optional (take "*")
  let t ← namedType l true
  require t.isGeneric
  let tag ← fieldTag
  require (← memberEnds)
  pure (.embedded star t tag)

/-- An entry of a struct. A line break behind the first name ends the entry. -/
def member : Parser Member :=
  embeddedGeneric l <|>
  (do
    let n ← takeName
    require (!(← ends true))
    let more ← commaTail takeName l.bound
    let t ← l.type true
    pure (.named n more t (← fieldTag))) <|>
  (do
    let star ← optional (take "*")
    let t ← qualifiedName true
    pure (.embedded star t (← fieldTag)))

/-- An entry of an interface. -/
def element : Parser Element :=
  (do
    let n ← takeName
    require (!(← ends true) && (← sees "("))
    let sig ← signature l true
    pure (.method n sig)) <|>
  (do
    let start ← here
    let t ← l.type true
    let more ← unionTail l true
    if more.isEmpty then pure (.embedded t) else pure (.union start))

/-! ## Types -/

/-- A type that begins with a bracket. -/
def bracketType (line : Bool) : Parser Node := do
  let start ← take "["
  if ← takes "]" then
    let t ← l.type line
    pure (.mk (.sliceOf t) start)
  else
    let n ← l.inner
    let _ ← take "]"
    let t ← l.type line
    pure (.mk (.array n t) start)

/-- A type that begins with `chan` or an arrow. -/
def channelType (line : Bool) : Parser Node := do
  let words ← chanWords l
  require (!words.isEmpty)
  let t ← l.type line
  StateT.lift (chanType words.reverse t)

def mapType (line : Bool) : Parser Node := do
  let start ← take "map"
  let _ ← take "["
  let key ← l.type false
  let _ ← take "]"
  let value ← l.type line
  pure (.mk (.map key value) start)

/-- A type; a line break ends it or does not. -/
def typeRule (line : Bool) : Parser Node := do
  let some t ← next? | failure
  let start := t.place
  match t.text with
  | "(" =>
    let _ ← take "("
    let x ← l.type false
    let _ ← take ")"
    pure (.mk (.paren x) start)
  | "*" =>
    let _ ← take "*"
    let x ← l.type line
    pure (.mk (.star x) start)
  | "~" =>
    let _ ← take "~"
    let _ ← l.type line
    pure (.refused .approximation start)
  | "[" => bracketType l line
  | "map" => mapType l line
  | "chan" => channelType l line
  | "<-" => channelType l line
  | "struct" =>
    let _ ← take "struct"
    let ms ← enclosed l "\x7b" "\x7d" false (member l)
    pure (.mk (.struct ms) start)
  | "interface" =>
    let _ ← take "interface"
    let es ← enclosed l "\x7b" "\x7d" false (element l)
    pure (.mk (.interface es) start)
  | "func" =>
    let _ ← take "func"
    let sig ← signature l line
    pure (.mk (.funcType sig) start)
  | _ => namedType l line

end GoRebuild.Grammar
