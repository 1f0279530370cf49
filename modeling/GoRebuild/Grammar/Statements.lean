import GoRebuild.Grammar.Declarations
import GoRebuild.Grammar.Expressions

/-!
# Reading statements

* `simple` : expressions, sends, steps and assignments;
* `stmts`, `blockRule` : statements in a row;
* `conditionalRule`, `loopHeader`, `switchRule`, `selectRule` : statements with blocks;
* `stmtRule` : a statement.

In a row of statements each but the last needs an end, and a label without a statement can stand last.
-/

namespace GoRebuild.Grammar
open Lexical (Token TokenKind Place)
open Scan

variable (l : Layer)

/-! ## Simple statements -/

/-- Expressions on the left of an assignment, or one that stands alone. -/
def targets (f : Follow) : Parser (Node × List Node) := do
  let x ← l.expr f 1
  if ← ends f.line then pure (x, [])
  else
    let more ← commaTail (l.expr f.target 1) l.bound
    pure (x, more)

/-- The operators of assignments. -/
def assignOps : List String :=
  ["=", ":=", "*=", "/=", "%=", "<<=", ">>=", "&=", "&^=", "+=", "-=", "|=", "^="]

/-- Takes an operator of these. -/
def takeOp (ops : List String) : Parser String := fun ts =>
  match ts with
  | t :: rest => if ops.contains t.text then some (t.text, rest) else none
  | [] => none

/-- Takes the operator before a `range` or a received value. -/
def takeAssign : Parser AssignTok := do
  if ← takes ":=" then pure .define
  else
    let _ ← take "="
    pure .assign

/-- A simple statement from its first expressions on. -/
def simpleTail (f : Follow) (x : Node) (more : List Node) : Parser Stmt := do
  let stop ← ends f.line
  if stop && more.isEmpty then pure (.mk (.expr x) x.start)
  else
    match ← optional (takeOp assignOps) with
    | some op =>
      let right ← exprList l f.value
      pure (.mk (.assign (x :: more) op right) x.start)
    | none =>
      require more.isEmpty
      if ← takes "++" then pure (.mk (.step x .inc) x.start)
      else if ← takes "--" then pure (.mk (.step x .dec) x.start)
      else if ← takes "<-" then
        let y ← l.expr f.value 1
        pure (.mk (.send x y) x.start)
      else pure (.mk (.expr x) x.start)

def simple (f : Follow) : Parser Stmt := do
  let (x, more) ← targets l f
  simpleTail l f x more

/-! ## Statements in a row -/

/-- Whether a row of statements ends here. -/
def rowEnds : Parser Bool := do
  pure ((← sees "\x7d") || (← sees "case") || (← sees "default"))

/-- A label, its colon on the same line. -/
def takeLabel : Parser Name := do
  let n ← takeName
  require (!isSpecialWord n.text && !(← ends true))
  let _ ← take ":"
  pure n

/-- A label at the end of a row. -/
def lastLabel : Parser Stmt := do
  let n ← takeLabel
  require (← rowEnds)
  pure (.mk (.labeled n none) n.place)

/-- Statements in a row. -/
def stmts : Nat → Parser (List Stmt)
  | 0 => failure
  | n + 1 => do
    if ← rowEnds then pure []
    else
      let s ← lastLabel <|> l.stmt
      if !(← rowEnds) then takeEnd
      let ss ← stmts n
      pure (s :: ss)

/-- Statements in braces. -/
def blockRule : Parser Block := do
  let start ← take "\x7b"
  let ss ← stmts l (l.bound + 1)
  let _ ← take "\x7d"
  pure (.mk ss start)

/-! ## Statements with blocks -/

def conditionalRule : Parser Conditional := do
  let start ← take "if"
  let s ← simple l .header
  let (init, cond) ← (do
    if ← takes ";" then
      let c ← l.expr Follow.header.value 1
      pure (some s, c)
    else
      match s with
      | .mk (.expr c) _ => pure (none, c)
      | _ => failure : Parser (Option Stmt × Node))
  let body ← l.block
  let stop ← ends true
  if !stop && (← sees "else") then
    let _ ← take "else"
    if ← sees "if" then
      let c ← l.conditional
      pure (.mk init cond body (some (.chain c)) start)
    else
      let b ← l.block
      pure (.mk init cond body (some (.block b)) start)
  else pure (.mk init cond body none start)

/-- Condition and step of a loop, behind the first semicolon. -/
def loopSteps (init : Option Stmt) : Parser LoopHeader := do
  let bare ← sees ";"
  let cond ← only (!bare) (l.expr Follow.header.value 1)
  let _ ← take ";"
  let last ← sees "\x7b"
  let post ← only (!last) (simple l .header)
  pure (.steps init cond post)

/-- What stands between `for` and the body. -/
def loopHeader : Parser LoopHeader := do
  if ← sees "\x7b" then pure .forever
  else if ← takes "range" then
    let x ← l.expr Follow.header.value 1
    pure (.over x)
  else if ← takes ";" then loopSteps l none
  else
    let (x, more) ← targets l .header
    if (← seesAll ["=", "range"]) || (← seesAll [":=", "range"]) then
      let op ← takeAssign
      let _ ← take "range"
      let y ← l.expr Follow.header.value 1
      pure (.assigning x more op y)
    else
      let s ← simpleTail l .header x more
      if ← takes ";" then loopSteps l (some s)
      else
        match s with
        | .mk (.expr c) _ => pure (.while c)
        | _ => failure

/-- A clause for some expressions. -/
def caseClause (list : Parser (List Node)) : Parser Clause := do
  let start ← take "case"
  let xs ← list
  let _ ← take ":"
  let body ← stmts l (l.bound + 1)
  match xs with
  | x :: more => pure (.case x more body start)
  | [] => failure

/-- A clause for all else. -/
def defaultClause : Parser Clause := do
  let start ← take "default"
  let _ ← take ":"
  let body ← stmts l (l.bound + 1)
  pure (.otherwise body start)

/-- The clauses of a `switch`, in braces. -/
def clauses (list : Parser (List Node)) : Parser (List Clause) := do
  let _ ← take "\x7b"
  let cs ← many (caseClause l list <|> defaultClause l) l.bound
  let _ ← take "\x7d"
  pure cs

/-- Whether an expression can stand before `.(type)`: no operator is outermost in it. -/
def Node.isPrimary : Node → Bool
  | .mk (.unary _ _) _ | .mk (.star _) _ | .mk (.binary _ _ _) _ => false
  | _ => true

/-- A `switch` over types, from `.(type)` on. -/
def typeSwitchTail (init : Option Stmt) (names : List Node) (value : Node) : Parser StmtKind := do
  require value.isPrimary
  let _ ← take "."
  let _ ← take "("
  let _ ← take "type"
  let _ ← take ")"
  let cs ← clauses l (commaList (l.type false) l.bound)
  pure (.typeSwitch init names value cs)

/-- A `switch`, from behind the statement that its header ends with. -/
def switchTail (init last : Option Stmt) : Parser StmtKind := do
  if ← sees "." then
    match last with
    | some (.mk (.expr x) _) => typeSwitchTail l init [] x
    | some (.mk (.assign names ":=" [x]) _) => typeSwitchTail l init names x
    | _ => failure
  else
    let cs ← clauses l (exprList l .inside)
    match last with
    | none => pure (.switch init none cs)
    | some (.mk (.expr x) _) => pure (.switch init (some x) cs)
    | _ => failure

def switchRule : Parser StmtKind := do
  let _ ← take "switch"
  if ← sees "\x7b" then switchTail l none none
  else
    let s ← simple l .header
    if ← takes ";" then
      let bare ← sees "\x7b"
      let t ← only (!bare) (simple l Follow.header.value)
      switchTail l (some s) t
    else switchTail l none (some s)

/-- What a clause of a `select` waits for. -/
def communication : Parser Stmt := do
  let f : Follow := ⟨false, false, false, true⟩
  let (x, more) ← targets l f
  match ← optional takeAssign with
  | some op =>
    let y ← l.expr f.value 1
    pure (.mk (.receive (x :: more) op y) x.start)
  | none =>
    require more.isEmpty
    if ← takes "<-" then
      let y ← l.expr f.value 1
      pure (.mk (.send x y) x.start)
    else pure (.mk (.expr x) x.start)

def commClause : Parser CommClause := do
  let start ← here
  let waits ← takes "case"
  let comm ← only waits (communication l)
  if !waits then
    let _ ← take "default"
  let _ ← take ":"
  let body ← stmts l (l.bound + 1)
  pure (.mk comm body start)

def selectRule : Parser StmtKind := do
  let _ ← take "select"
  let _ ← take "\x7b"
  let cs ← many (commClause l) l.bound
  let _ ← take "\x7d"
  pure (.select cs)

/-! ## Statements -/

/-- A label with its statement. -/
def labeled : Parser StmtKind := do
  let n ← takeLabel
  let s ← l.stmt
  pure (.labeled n (some s))

/-- The label of a jump on the same line, if there is one. -/
def jumpLabel : Parser (Option Name) := do
  if ← ends true then pure none
  else optional takeName

/-- The kind of a statement that begins with a keyword or bracket. -/
def keywordStmt (word : String) : Parser StmtKind :=
  match word with
  | "\x7b" => do
    let b ← l.block
    pure (.block b)
  | ";" => do
    let _ ← take ";"
    pure .empty
  | "return" => do
    let _ ← take "return"
    if ← ends true then pure (.returnStmt [])
    else
      let xs ← optional (valueList l)
      pure (.returnStmt (xs.getD []))
  | "go" => do
    let _ ← take "go"
    let x ← l.expr Follow.statement.value 1
    pure (.goStmt x)
  | "defer" => do
    let _ ← take "defer"
    let x ← l.expr Follow.statement.value 1
    pure (.deferStmt x)
  | "break" => do
    let _ ← take "break"
    let label ← jumpLabel
    pure (.branch (.breakOut label))
  | "continue" => do
    let _ ← take "continue"
    let label ← jumpLabel
    pure (.branch (.continueAt label))
  | "goto" => do
    let _ ← take "goto"
    let n ← takeName
    pure (.branch (.goto n))
  | "fallthrough" => do
    let _ ← take "fallthrough"
    pure (.branch .fallthrough)
  | "if" => do
    let c ← conditionalRule l
    pure (.conditional c)
  | "for" => do
    let _ ← take "for"
    let header ← loopHeader l
    let body ← l.block
    pure (.loop header body)
  | "switch" => switchRule l
  | "select" => selectRule l
  | "const" | "var" | "type" => do
    let d ← declaration l
    pure (.decl d)
  | _ => labeled l

def stmtRule : Parser Stmt := do
  let some t ← next? | failure
  (do
    let kind ← keywordStmt l t.text
    pure (.mk kind t.place)) <|> simple l .statement

end GoRebuild.Grammar
