import GoRebuild.Tree.Basic

/-!
# Tokens

* `Place` : where a token or a part of it stands in the row of tokens;
* `Token` : a word, keyword, literal or symbol, and whether a line break stands before it;
* `keywords`, `symbols` : the spellings that are not free.
-/

namespace GoRebuild.Lexical

/-- A place in a row of tokens: a token, and how many of its characters come before. -/
structure Place where
  token : Nat
  shift : Nat
  deriving DecidableEq, Repr

inductive TokenKind where
  | word
  | keyword
  | literal (kind : LitKind)
  | symbol
  /-- a NUL character, which ends a statement as the end of the source does -/
  | stop
  deriving DecidableEq, Repr

structure Token where
  kind : TokenKind
  text : String
  /-- Whether a line break outside comments stands before it. -/
  newLine : Bool
  place : Place
  deriving DecidableEq, Repr

/-- The words that name nothing. -/
def keywords : List String :=
  ["break", "case", "chan", "const", "continue", "default", "defer", "else", "fallthrough", "for",
   "func", "go", "goto", "if", "import", "interface", "map", "package", "range", "return", "select",
   "struct", "switch", "type", "var"]

/-- The symbols, longer ones first. -/
def symbols : List String :=
  ["<<=", ">>=", "&^=", "...", "<<", ">>", "&^", "+=", "-=", "*=", "/=", "%=", "&=", "|=", "^=",
   "&&", "||", "<-", "++", "--", "==", "!=", "<=", ">=", ":=", "+", "-", "*", "/", "%", "&", "|",
   "^", "<", ">", "=", "!", "(", ")", "[", "]", "\x7b", "\x7d", ",", ";", ".", ":", "~"]

end GoRebuild.Lexical
