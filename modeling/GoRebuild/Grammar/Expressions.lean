import GoRebuild.Grammar.Types

/-!
# Reading expressions

* `Node.isPureType` : types that are no expressions; `Node.isTypeName`, `Node.isType` : expressions that can
  be types; `Node.preference` : which of both an expression in brackets is; `Node.asGeneric?` : an expression as
  a generic type;
* `operand`, `postfixes` : what binds tightest;
* `unary`, `infixes`, `exprRule` : operators;
* `bracesRule` : the elements of a literal.

Where an expression can also be read as a type, it is an expression, but for brackets behind a name. If they
can hold a type and are followed by a call, the reading with more weight counts, and by equal weight it is a
generic type before one argument, an index before others.
-/

namespace GoRebuild.Grammar
open Lexical (Token TokenKind Place)
open Scan

/-! ## Types among expressions -/

/-- Words with a meaning of their own, where they stand in an expression. -/
def isSpecialWord (s : String) : Bool :=
  ["nil", "true", "false", "iota", "new", "make"].contains s

namespace Node

/-- Whether a type cannot be read as an expression. -/
def isPureType : Node → Bool
  | mk (.array _ _) _ | mk (.sliceOf _) _ | mk (.map _ _) _ | mk (.chan _ _) _ => true
  | mk (.struct _) _ | mk (.interface _) _ | mk (.funcType _) _ => true
  | mk (.generic .approximation _) _ => true
  | mk (.star x) _ => x.isPureType
  | mk (.paren x) _ => x.isPureType
  | _ => false

/-- Whether a pure type can stand before the braces of a literal. -/
def isLiteralType : Node → Bool
  | mk (.array _ _) _ | mk (.sliceOf _) _ | mk (.map _ _) _ | mk (.struct _) _ => true
  | _ => false

/-- Whether an expression is a name or a name in a package, so that it can be a type by itself. -/
def isTypeName : Node → Bool
  | mk (.name s) _ => !isSpecialWord s
  | mk (.select (mk (.name s) _) _) _ => !isSpecialWord s
  | _ => false

/-- Whether it is a name or a name in a package, whatever the words mean. -/
def isPlainName : Node → Bool
  | mk (.name _) _ => true
  | mk (.select (mk (.name _) _) _) _ => true
  | _ => false

/-- How much speaks for reading an expression as a type, or as a union of types: each generic type speaks for it,
each name alone against it. `none` if it cannot be read so. -/
def typeWeight (union : Bool) : Node → Option Int
  | mk (.name _) _ => some (-1)
  | mk (.select (mk (.name _) _) _) _ => some 0
  | mk (.star x) _ => x.typeWeight false
  | mk (.paren x) _ => x.typeWeight false
  | mk (.index x i) _ => if x.isPlainName then (i.typeWeight true).map (3 + ·) else none
  | mk (.binary x op y) _ =>
    if union && op = "|" then do return (← x.typeWeight true) + (← y.typeWeight false) else none
  | mk (.generic .instantiation _) _ => some 0
  | _ => none

/-- How much speaks for reading it as an expression: each index does. -/
def indexWeight : Node → Int
  | mk (.star x) _ => x.indexWeight
  | mk (.paren x) _ => x.indexWeight
  | mk (.index _ i) _ => 1 + i.indexWeight
  | mk (.binary x _ y) _ => x.indexWeight + y.indexWeight
  | _ => 0

/-- Whether an expression can be read as a type. -/
def isType (x : Node) : Bool :=
  (x.typeWeight false).isSome

/-- Whether an expression in brackets can be read as a type argument. -/
def isTypeArgument (i : Node) : Bool :=
  (i.typeWeight true).isSome

/-- By how much a type argument is preferred to an index. -/
def preference (i : Node) : Option Int :=
  (i.typeWeight true).map fun w => 2 + w - (1 + i.indexWeight)

/-- Whether the first word of an expression has a meaning of its own, so that no type begins there. -/
def startsSpecial : Node → Bool
  | mk (.name s) _ => isSpecialWord s
  | mk (.select x _) _ => x.startsSpecial
  | mk (.star x) _ => x.startsSpecial
  | mk (.paren x) _ => x.startsSpecial
  | mk (.index x _) _ => x.startsSpecial
  | _ => false

/-- Whether an expression is a list of types behind a type, in brackets of any kind and behind stars or not. -/
def isInstance : Node → Bool
  | mk (.generic .instantiation _) _ => true
  | mk (.paren x) _ => x.isInstance
  | mk (.star x) _ => x.isInstance
  | mk (.index _ i) _ => i.isInstance
  | _ => false

/-- Whether the last part of a type is a generic type, which can also be a type and a list of types. -/
def endsGeneric : Node → Bool
  | mk (.generic .genericType _) _ => true
  | mk (.star x) _ => x.endsGeneric
  | mk (.array _ x) _ => x.endsGeneric
  | mk (.sliceOf x) _ => x.endsGeneric
  | mk (.map _ x) _ => x.endsGeneric
  | mk (.chan _ x) _ => x.endsGeneric
  | mk (.funcType (.mk _ (some [.mk [] none x]))) _ => x.endsGeneric
  | _ => false

/-- An expression as a generic type, in parentheses and behind stars or not. -/
def asGeneric? : Node → Option Node
  | mk (.index x i) p =>
    if x.isTypeName && i.preference.any (0 ≤ ·) then some (refused .genericType p) else none
  | mk (.paren x) p => x.asGeneric?.map fun t => mk (.paren t) p
  | mk (.star x) p => x.asGeneric?.map fun t => mk (.star t) p
  | mk (.generic .instantiation _) p => some (refused .genericType p)
  | _ => none

/-- Where the brackets open behind a callee that hold a type argument rather than an index. -/
def typeArgumentPlace? : Node → Option Place
  | mk (.index _ i) _ =>
    if i.preference.any (0 < ·) then some ⟨i.start.token - 1, 0⟩ else none
  | _ => none

end Node

variable (l : Layer)

/-! ## Calls -/

/-- An argument. -/
def argument : Parser Arg := do
  let x ← l.inner
  if ← takes "..." then pure (.spread x) else pure (.plain x)

/-- Arguments in parentheses. -/
def argList : Parser (List Arg) := do
  let _ ← take "("
  if ← takes ")" then pure []
  else
    let args ← commaList (argument l) l.bound
    closing ")"
    pure args

/-- The arguments of `make` and `new`, the first of which is a type. -/
def typeFirstArgs : Parser (List Arg) := do
  let _ ← take "("
  if ← takes ")" then pure []
  else
    let t ← l.type false
    let more ← commaTail l.inner l.bound
    closing ")"
    pure (.plain t :: more.map .plain)

def callTail (fn : Node) : Parser Node := do
  let args ← argList l
  match args, fn.asGeneric? with
  | [.plain x], some t => pure (.mk (.convert t x) fn.start)
  | _, _ =>
    match fn.typeArgumentPlace? with
    | some place => pure (.mk (.generic .typeArguments place) fn.start)
    | none => pure (.mk (.call fn args) fn.start)

/-- The one argument behind a type. -/
def convertTail (t : Node) : Parser Node := do
  let _ ← take "("
  let x ← l.inner
  closing ")"
  pure (.mk (.convert t x) t.start)

/-- Braces behind a type. -/
def compositeTail (t : Node) : Parser Node := do
  let elems ← l.braces
  pure (.mk (.composite t elems) t.start)

/-! ## Brackets -/

/-- Whether an opening brace follows that can belong to a literal. -/
def seesBraces (f : Follow) : Parser Bool := do
  let stop ← ends f.line
  let brace ← sees "\x7b"
  pure (!f.block && !stop && brace)

/-- The rest of a slice behind its first colon. -/
def sliceTail (x : Node) (low : Option Node) : Parser Node := do
  let stop ← sees "]"
  let high ← only (!stop) l.inner
  match high with
  | none =>
    let _ ← take "]"
    pure (.mk (.slice x low none) x.start)
  | some h =>
    if ← takes ":" then
      let max ← l.inner
      let _ ← take "]"
      pure (.mk (.slice3 x low h max) x.start)
    else
      let _ ← take "]"
      pure (.mk (.slice x low (some h)) x.start)

/-- An index or slice. -/
def indexTail (f : Follow) (x : Node) : Parser Node := do
  let _ ← take "["
  if ← takes ":" then sliceTail l x none
  else
    let i ← l.inner
    if ← takes ":" then sliceTail l x (some i)
    else
      let _ ← take "]"
      if (x.isTypeName && i.isTypeArgument) && (← seesBraces f) then
        compositeTail l (.refused .genericType x.start)
      else pure (.mk (.index x i) x.start)

/-- A list of types, and what is done with it. -/
def instanceTail (f : Follow) (x : Node) : Parser Node := do
  let place ← here
  let single ← typeArguments l
  let alone := single && x.isType && !x.startsSpecial
  let stop ← ends f.line
  if !(stop && alone) && (← sees "(") then
    let args ← argList l
    match args with
    | [.plain y] =>
      if x.isTypeName then pure (.mk (.convert (.refused .genericType x.start) y) x.start)
      else pure (.mk (.generic .typeArguments place) x.start)
    | _ => pure (.mk (.generic .typeArguments place) x.start)
  else if x.isTypeName && (← seesBraces f) then
    compositeTail l (.refused .genericType x.start)
  else
    require alone
    pure (.refused .instantiation x.start)

/-! ## Operands -/

/-- A list of types behind a type that is no expression, or that was taken as the end of that type. -/
def pureInstance (f : Follow) (t : Node) : Parser Node := do
  let single ← optional (typeArguments l)
  require (single.getD t.endsGeneric && !(← seesBraces f))
  pure (.refused .instantiation t.start)

/-- A type that is no expression, and what is done with it: a literal, a conversion or an instance. -/
def typeOperand (f : Follow) : Parser Node := do
  let t ← typeRule l false
  require t.isPureType
  if t.isLiteralType && (← sees "\x7b") then compositeTail l t
  else convertTail l t <|> pureInstance l f t

/-- A literal of an array that is as long as the literal. -/
def openArrayOperand : Parser Node := do
  let start ← take "["
  let _ ← take "..."
  let _ ← take "]"
  let t ← l.type false
  compositeTail l (.mk (.openArray t) start)

def funcOperand : Parser Node := do
  let start ← take "func"
  let sig ← signature l false
  let body ← l.block
  pure (.mk (.func sig body) start)

/-- An expression in parentheses. -/
def parenOperand : Parser Node := do
  let start ← take "("
  let x ← l.inner
  let _ ← take ")"
  pure (.mk (.paren x) start)

/-- A name, or a call of `make` or `new`. -/
def wordOperand (f : Follow) : Parser Node := do
  let n ← takeName
  let stop ← ends f.line
  if ["make", "new"].contains n.text && !stop && (← sees "(") then
    let args ← typeFirstArgs l
    pure (.mk (.call n.node args) n.place)
  else pure n.node

def literalOperand : Parser Node := fun ts =>
  match ts with
  | ⟨.literal kind, text, _, place⟩ :: rest => some (.mk (.literal ⟨kind, text⟩) place, rest)
  | _ => none

/-- What an expression is made of. -/
def operand (f : Follow) : Parser Node := do
  let some t ← next? | failure
  match t.text with
  | "(" => preferring (typeOperand l f) Node.isInstance (parenOperand l)
  | "[" => openArrayOperand l <|> typeOperand l f
  | "func" => funcOperand l <|> typeOperand l f
  | _ => wordOperand l f <|> literalOperand <|> typeOperand l f

/-- What binds tighter than any operator. -/
def postfixes (f : Follow) : Nat → Node → Parser Node
  | 0, x => pure x
  | n + 1, x => do
    if ← ends f.line then pure x
    else if ← seesAll [".", "(", "type"] then pure x
    else if ← sees "." then
      let _ ← take "."
      if ← takes "(" then
        let t ← l.type false
        let _ ← take ")"
        postfixes f n (.mk (.assert x t) x.start)
      else
        let m ← takeName
        postfixes f n (.mk (.select x m) x.start)
    else if ← sees "[" then
      let y ← preferring (instanceTail l f x) Node.isInstance (indexTail l f x)
      postfixes f n y
    else if ← sees "(" then
      let y ← callTail l x
      postfixes f n y
    else if x.isTypeName && (← seesBraces f) then
      let y ← compositeTail l x
      postfixes f n y
    else pure x

/-! ## Operators -/

/-- An operator before an operand; a token of two characters counts by its first. -/
def PrefixOp.ofToken? : String → Option (PrefixOp × Bool)
  | "+" => some (.plus, false)
  | "-" => some (.minus, false)
  | "!" => some (.not, false)
  | "^" => some (.complement, false)
  | "&" => some (.address, false)
  | "<-" => some (.receive, false)
  | "++" => some (.plus, true)
  | "--" => some (.minus, true)
  | "&&" => some (.address, true)
  | "&^" => some (.address, true)
  | _ => none

/-- An operator and its operand, or an operand alone. -/
def unary (f : Follow) : Parser Node := do
  let some t ← next? | failure
  if t.text == "*" then
    (do
      let x ← typeOperand l f
      postfixes l f l.bound x) <|>
    (do
      let start ← take "*"
      let x ← l.expr f 6
      pure (.mk (.star x) start))
  else
    match PrefixOp.ofToken? t.text with
    | some (op, half) =>
      (do
        let x ← typeOperand l f
        postfixes l f l.bound x) <|>
      (do
        let start ← if half then takeHalf else take t.text
        let x ← l.expr f 6
        pure (.mk (.unary op x) start))
    | none => do
      let x ← operand l f
      postfixes l f l.bound x

/-- How tightly an operator between operands binds, 0 if it is none. -/
def precedence (op : String) : Nat :=
  if ["*", "/", "%", "<<", ">>", "&", "&^"].contains op then 5
  else if ["+", "-", "|", "^"].contains op then 4
  else if ["==", "!=", "<", "<=", ">", ">="].contains op then 3
  else if op = "&&" then 2
  else if op = "||" then 1
  else 0

/-- The operator that a token between operands is, and whether it is only half of the token. -/
def operatorOf (f : Follow) (text : String) : String × Bool :=
  if text = "++" && !f.step then ("+", true)
  else if text = "--" && !f.step then ("-", true)
  else if text = "<-" && !f.send then ("<", true)
  else (text, false)

/-- Operators behind an operand, those that bind at least so tightly. -/
def infixes (f : Follow) (level : Nat) : Nat → Node → Parser Node
  | 0, x => pure x
  | n + 1, x => do
    if ← ends f.line then pure x
    else
      let some t ← next? | pure x
      let (op, half) := operatorOf f t.text
      let k := precedence op
      if k = 0 || k < level then pure x
      else
        let _ ← if half then takeHalf else take t.text
        let y ← l.expr f (k + 1)
        infixes f level n (.mk (.binary x op y) x.start)

def exprRule (f : Follow) (level : Nat) : Parser Node := do
  let x ← unary l f
  infixes l f level l.bound x

/-! ## Elements of literals -/

/-- An element without a key. -/
def plainElement : Parser Node := do
  if ← sees "\x7b" then
    let start ← here
    let elems ← l.braces
    pure (.mk (.braces elems) start)
  else l.inner

/-- An element. -/
def literalElement : Parser Node := do
  let x ← plainElement l
  if ← takes ":" then
    let y ← plainElement l
    pure (.mk (.keyed x y) x.start)
  else pure x

/-- The elements of a literal in braces. -/
def bracesRule : Parser (List Node) := do
  let _ ← take "\x7b"
  let elems ← commaList (literalElement l) l.bound <|> pure []
  closing "\x7d"
  pure elems

end GoRebuild.Grammar
