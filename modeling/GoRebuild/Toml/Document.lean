import GoRebuild.Toml.Scalar

/-!
# Reading TOML

* `key`, `value` : keys and values;
* `expressions` : the lines of a document;
* `Toml.parse?` : the table that a text writes.

Arrays and tables in braces are nested less than 80 deep, and a dotted key has less than 80 parts.
-/

namespace GoRebuild.Toml
open Scan Text

/-! ## Keys -/

/-- A character of a key without quotes. -/
def isKeyChar (c : Char) : Bool :=
  c.isAlphanum || c = '-' || c = '_'

/-- A key without quotes. -/
def bareKey : Chars String := do
  let cs ← while' isKeyChar
  require (!cs.isEmpty)
  pure (String.ofList cs)

/-- One part of a key, with white space around it. -/
def keyPart : Chars String := do
  blanks
  let k ← basicString <|> literalString <|> bareKey
  blanks
  pure k

/-- A key: the parts before the last, and the last. -/
def key : Chars (List String × String) := do
  let parts ← separated (char '.') keyPart (← left)
  require (parts.length < 80)
  match parts.getLast? with
  | some k => pure (parts.dropLast, k)
  | none => failure

/-! ## Values -/

def comment : Chars Unit := do
  char '#'
  let _ ← while' isPlain

/-- White space, line breaks and comments, which line breaks end. -/
def gap : Chars Unit := do
  let _ ← all (item (fun c => c = ' ' || c = '\t') *> pure () <|> lineBreak <|> (do
    comment
    lineBreak))

def keyValue (value : Chars Toml) : Chars Entry := do
  let (path, k) ← key
  char '='
  blanks
  let v ← value
  blanks
  pure ⟨path, k, v⟩

/-- The items of an array. -/
def arrayItems (value : Chars Toml) : Chars (List Toml) := do
  char '['
  let items ← optional (do
    let vs ← separated (char ',') (do
      gap
      let v ← value
      gap
      pure v) (← left)
    let _ ← optional (char ',')
    pure vs)
  gap
  char ']'
  pure (items.getD [])

/-- The entries of a table in braces, which stand on one line. -/
def braceEntries (value : Chars Toml) : Chars (List Entry) := do
  char '\x7b'
  let es ← optional (separated (char ',') (keyValue value) (← left))
  blanks
  char '\x7d'
  pure (es.getD [])

/-- A value, with arrays and tables nested so deep. -/
def value : Nat → Chars Toml
  | 0 => scalar
  | n + 1 =>
    (do
      let vs ← arrayItems (value n)
      pure (.array vs)) <|> (do
      let es ← braceEntries (value n)
      let t ← StateT.lift (Table.addEntries [] es)
      pure (.table .braces t)) <|> scalar

/-! ## Documents -/

/-- The end of a line or document. -/
def lineEnd : Chars Unit := do
  blanks
  let _ ← optional comment
  let c ← next?
  if c.isSome then lineBreak

/-- A line that says something. -/
inductive Expression where
  | entry (e : Entry)
  | header (repeated : Bool) (path : List String) (key : String)

def header : Chars Expression :=
  (do
    word ['[', '[']
    let (path, k) ← key
    word [']', ']']
    pure (.header true path k)) <|> (do
    char '['
    let (path, k) ← key
    char ']'
    pure (.header false path k))

/-- A line, if it says something. -/
def expression : Chars (Option Expression) := do
  blanks
  let c ← next?
  let x ← match c with
    | none | some '#' | some '\n' | some '\r' => pure none
    | some '[' => (do
      let h ← header
      pure (some h) : Chars (Option Expression))
    | some _ => do
      let e ← keyValue (value 79)
      pure (some (.entry e))
  lineEnd
  pure x

/-- All lines that say something. -/
def expressions : Nat → Chars (List Expression)
  | 0 => failure
  | n + 1 => do
    let c ← next?
    if c.isNone then pure []
    else
      let x ← expression
      let xs ← expressions n
      pure (x.toList ++ xs)

/-- The entries up to the first header. -/
def entriesOf : List Expression → List Entry
  | .entry e :: xs => e :: entriesOf xs
  | _ => []

/-- The headers, each with the entries up to the next. -/
def sectionsOf : List Expression → List Section
  | [] => []
  | .entry _ :: xs => sectionsOf xs
  | .header repeated path k :: xs => ⟨repeated, path, k, entriesOf xs⟩ :: sectionsOf xs

/-- The table that a text writes. A byte order mark at its start is passed over. -/
def parse? (text : String) : Option Table := do
  let cs := match text.toList with
    | '\ufeff' :: cs => cs
    | cs => cs
  let (xs, _) ← expressions (cs.length + 1) cs
  Table.ofSections (entriesOf xs) (sectionsOf xs)

end GoRebuild.Toml
