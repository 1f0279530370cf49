import GoRebuild.Scan

/-!
# Shell scripts

The part of the shell language that small tool scripts need: commands with redirections, joined by `;`, line
breaks, `&&`, `||` and `|`, `if`, groups, quotes and parameters.

* `Part`, `Word` : words before expansion;
* `Redirect`, `Command` : commands;
* `tokens` : the words and operators of a script;
* `parse?` : the command that a script is, `none` where it is not in this language.
-/

namespace GoRebuild.Shell
open Scan

/-! ## Commands -/

/-- A part of a word. -/
inductive Part where
  | plain (s : String)
  | quoted (s : String)
  /-- a parameter, in double quotes or not -/
  | param (name : String) (inQuotes : Bool)
  deriving DecidableEq, Repr

abbrev Word := List Part

/-- Where a stream goes or comes from. -/
inductive Redirect where
  | write (stream : Nat) (append : Bool) (file : Word)
  | copy (stream source : Nat)
  | read (file : Word)
  deriving DecidableEq, Repr

inductive Command where
  | nothing
  | simple (words : List Word)
  | redirected (c : Command) (redirects : List Redirect)
  | pipe (a b : Command)
  | both (a b : Command)
  | either (a b : Command)
  | negated (c : Command)
  | inOrder (a b : Command)
  | choose (cond yes no : Command)
  deriving Repr

/-! ## Tokens -/

/-- A word, an operator, or the start of a redirection with its stream. -/
inductive Token where
  | word (w : Word)
  | operator (text : String)
  | arrow (stream : Nat) (text : String)
  deriving DecidableEq, Repr

/-- A scan of characters. -/
abbrev Chars (α : Type) := Scan Char α

/-- Takes this character. -/
def char (c : Char) : Chars Unit := do
  let _ ← item (· = c)

/-- Takes these characters. -/
def text : List Char → Chars Unit
  | [] => pure ()
  | c :: cs => do
    char c
    text cs

/-- A character of a name. -/
def isNameChar (c : Char) : Bool :=
  c.isAlphanum || c = '_'

/-- A parameter behind its dollar sign. -/
def paramName : Chars String :=
  (do
    char '\x7b'
    let cs ← while' isNameChar
    char '\x7d'
    pure (String.ofList cs)) <|> (do
    let c ← item fun c => c.isDigit || ['#', '?', '@', '*', '$', '!'].contains c
    pure c.toString) <|> (do
    let cs ← while' isNameChar
    require (!cs.isEmpty)
    pure (String.ofList cs))

/-- A part inside double quotes. -/
def doubleQuotedPart : Chars Part :=
  (do
    char '\\'
    let c ← item fun c => ['$', '"', '\\', '\x60'].contains c
    pure (.quoted c.toString)) <|> (do
    char '$'
    let n ← paramName
    pure (.param n true)) <|> (do
    let c ← item fun c => c ≠ '"' && c ≠ '\x60'
    pure (.quoted c.toString))

/-- The parts in double quotes; nothing in quotes is a part, too. -/
def doubleQuoted : Chars (List Part) := do
  char '"'
  let ps ← many doubleQuotedPart (← left)
  char '"'
  pure (.quoted "" :: ps)

/-- Characters that end a word. -/
def endsWord (c : Char) : Bool :=
  [' ', '\t', '\n', ';', '&', '|', '<', '>', '(', ')'].contains c

/-- Parts of a word outside quotes, or quotes with all that they hold. -/
def wordPart : Chars (List Part) :=
  (do
    char '\''
    let cs ← while' (· ≠ '\'')
    char '\''
    pure [.quoted (String.ofList cs)]) <|> doubleQuoted <|> (do
    char '\\'
    let c ← item (· ≠ '\n')
    pure [.quoted c.toString]) <|> (do
    char '$'
    let n ← paramName
    pure [.param n false]) <|> (do
    let c ← item fun c => !(endsWord c || ['"', '\'', '\\', '\x60'].contains c)
    pure [.plain c.toString])

/-- Neighbouring plain parts as one. -/
def joinParts : List Part → List Part
  | .plain a :: ps =>
    match joinParts ps with
    | .plain b :: qs => .plain (a ++ b) :: qs
    | qs => .plain a :: qs
  | p :: ps => p :: joinParts ps
  | [] => []

/-- A word. -/
def word : Chars Token := do
  let ps ← many wordPart (← left)
  require (!ps.isEmpty)
  pure (.word (joinParts ps.flatten))

/-- One of these texts. -/
def oneOf : List String → Chars String
  | [] => failure
  | s :: ss => (do
      text s.toList
      pure s) <|> oneOf ss

/-- The start of a redirection. -/
def arrow : Chars Token := do
  let d ← optional (item Char.isDigit)
  let s ← oneOf [">>", ">&", ">", "<"]
  let stream := match d with
    | some c => c.toNat - 48
    | none => if s = "<" then 0 else 1
  pure (.arrow stream s)

def operator : Chars Token := do
  let s ← oneOf ["&&", "||", "|", ";", "\n", "(", ")"]
  pure (.operator s)

/-- A token, with blanks before it. A comment runs to the end of its line. -/
def token : Chars Token := do
  let _ ← while' fun c => c = ' ' || c = '\t'
  let _ ← optional (do
    char '#'
    while' (· ≠ '\n'))
  arrow <|> operator <|> word

/-- The tokens of a script. -/
def tokens (script : String) : Option (List Token) := do
  let cs := script.toList
  let (ts, rest) ← many token cs.length cs
  if rest.all fun c => c = ' ' || c = '\t' then some ts else none

/-! ## Reading commands -/

/-- The words that structure commands. -/
def reserved : List String := ["if", "then", "elif", "else", "fi", "!", "\x7b", "\x7d"]

def takeOp (s : String) : Scan Token Unit := do
  let _ ← item (· = .operator s)

/-- Takes a reserved word. -/
def takeWord (s : String) : Scan Token Unit := do
  let _ ← item (· = .word [.plain s])

def redirect : Scan Token Redirect := fun ts =>
  match ts with
  | .arrow stream s :: .word w :: rest =>
    if s = "<" then some (.read w, rest)
    else if s = ">&" then
      match w with
      | [.plain "1"] => some (.copy stream 1, rest)
      | [.plain "2"] => some (.copy stream 2, rest)
      | _ => none
    else some (.write stream (s = ">>") w, rest)
  | _ => none

def argument : Scan Token Word := fun ts =>
  match ts with
  | .word w :: rest => some (w, rest)
  | _ => none

/-- A command with its redirections. -/
def withRedirects (c : Command) : Scan Token Command := do
  let rs ← many redirect (← left)
  pure (if rs.isEmpty then c else .redirected c rs)

/-- Words and redirections in any order, the first word not reserved. -/
def simple : Scan Token Command := do
  let first ← next?
  require (!(reserved.map fun s => Token.word [.plain s]).contains (first.getD (.operator "")))
  let parts ← many ((do
    let w ← argument
    pure (Sum.inl w)) <|> (do
    let r ← redirect
    pure (Sum.inr r))) (← left)
  require (!parts.isEmpty)
  let words := parts.filterMap fun p => p.getLeft?
  let rs := parts.filterMap fun p => p.getRight?
  pure (if rs.isEmpty then .simple words else .redirected (.simple words) rs)

def lineBreaks : Scan Token Unit := do
  let _ ← many (takeOp "\n") (← left)

/-- What ends a command that another may follow. -/
def separators : Scan Token Unit := do
  let _ ← many (takeOp ";" <|> takeOp "\n") (← left)

/-- The rest of an `if` behind a condition. -/
def branches (list : Scan Token Command) : Nat → Scan Token Command
  | 0 => failure
  | n + 1 => do
    let cond ← list
    takeWord "then"
    let yes ← list
    let no ← (do
      takeWord "elif"
      branches list n) <|> (do
      takeWord "else"
      let no ← list
      takeWord "fi"
      pure no) <|> (do
      takeWord "fi"
      pure .nothing)
    pure (.choose cond yes no)

/-- A command that is not joined to others. -/
def single (list : Scan Token Command) : Scan Token Command :=
  (do
    takeWord "if"
    let c ← branches list (← left)
    withRedirects c) <|> (do
    takeOp "("
    let c ← list
    takeOp ")"
    withRedirects c) <|> (do
    takeWord "\x7b"
    let c ← list
    takeWord "\x7d"
    withRedirects c) <|> simple

/-- Commands joined by pipes, negated or not. -/
def pipeline (list : Scan Token Command) : Scan Token Command := do
  let bang ← optional (takeWord "!")
  let c ← single list
  let more ← many (do
    takeOp "|"
    lineBreaks
    single list) (← left)
  let c := more.foldl .pipe c
  pure (if bang.isSome then .negated c else c)

/-- Pipelines joined by `&&` and `||`, from the left. -/
def andOr (list : Scan Token Command) : Scan Token Command := do
  let c ← pipeline list
  let more ← many ((do
    takeOp "&&"
    lineBreaks
    let d ← pipeline list
    pure (true, d)) <|> (do
    takeOp "||"
    lineBreaks
    let d ← pipeline list
    pure (false, d))) (← left)
  pure (more.foldl (fun a b => if b.1 then .both a b.2 else .either a b.2) c)

/-- Commands in order, nested so deep. -/
def commandList : Nat → Scan Token Command
  | 0 => failure
  | n + 1 => do
    separators
    let cs ← many (do
      let c ← andOr (commandList n)
      separators
      pure c) (← left)
    pure (cs.foldr .inOrder .nothing)

/-- The command that a script is. -/
def parse? (script : String) : Option Command := do
  let ts ← tokens script
  let (c, rest) ← commandList (ts.length + 1) ts
  if rest.isEmpty then some c else none

end GoRebuild.Shell
