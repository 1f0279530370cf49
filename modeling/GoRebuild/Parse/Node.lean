/-!
# The trees of a parser

What a parser of sources hands over, and what can be asked of it. A node knows what kind of node it is, by name, and
in which field of its parent it stands. Comments are nodes as well: they may stand between any two others, in no field.

* `Node` : a node and its children, symbols and comments among them;
* `Node.child?`, `Node.childrenIn`, `Node.namedChildren` : children by field, and those that are no symbols;
* `Node.hasError`, `Node.firstError` : where the parser had to guess;
* `Node.height` : how many nodes are below a node, at most;
* `SourceParser` : a parser.
-/

namespace GoRebuild.Parse

/-- What a node says of itself. -/
structure Info where
  kind : String
  /-- Symbols and keywords are not named. -/
  isNamed : Bool
  field : Option String
  /-- No two children of a node have the same. -/
  id : Nat
  /-- The piece of the source that the node covers. -/
  text : String
  /-- The offset of its first byte. -/
  start : Nat
  /-- How many lines are before its first byte, and how many bytes before that on its line. -/
  row : Nat
  column : Nat
  /-- Stands for text that no rule derives. -/
  isError : Bool
  /-- Stands for a token that is not in the source. -/
  isMissing : Bool
  deriving DecidableEq, Repr

/-- A node of a parse tree. -/
inductive Node where
  | mk (info : Info) (children : List Node)
  deriving Repr

namespace Node

def info : Node → Info
  | mk i _ => i

def children : Node → List Node
  | mk _ cs => cs

def kind (t : Node) : String := t.info.kind

def isNamed (t : Node) : Bool := t.info.isNamed

def field? (t : Node) : Option String := t.info.field

def nodeId (t : Node) : Nat := t.info.id

def text (t : Node) : String := t.info.text

/-- The first child in a field. -/
def child? (t : Node) (field : String) : Option Node :=
  t.children.find? (·.field? == some field)

/-- All children in a field, the commas between them as well. -/
def childrenIn (t : Node) (field : String) : List Node :=
  t.children.filter (·.field? == some field)

def namedChildren (t : Node) : List Node :=
  t.children.filter isNamed

mutual

/-- Whether the source had to be mended anywhere in it. -/
def hasError : Node → Bool
  | mk i cs => i.isError || i.isMissing || anyError cs

def anyError : List Node → Bool
  | [] => false
  | c :: cs => c.hasError || anyError cs

end

mutual

/-- The first node that stands for an error, before what is in it. -/
def firstError : Node → Option Node
  | mk i cs => if i.isError || i.isMissing then some (mk i cs) else firstErrorIn cs

def firstErrorIn : List Node → Option Node
  | [] => none
  | c :: cs => c.firstError <|> firstErrorIn cs

end

mutual

/-- The number of nodes on the longest way down. -/
def height : Node → Nat
  | mk _ cs => heightBelow cs

def heightBelow : List Node → Nat
  | [] => 0
  | c :: cs => max (c.height + 1) (heightBelow cs)

end

end Node

end GoRebuild.Parse

namespace GoRebuild

/-- A parser of sources. It may give up; a source that the grammar does not derive still has a tree, with errors in it. -/
abbrev SourceParser := String → Option Parse.Node

end GoRebuild
