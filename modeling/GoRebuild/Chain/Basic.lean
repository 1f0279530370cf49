/-!
# Chains of builder calls

A chain is a fragment of the generated program, the calls `jen.A(..).B(..)` in order.

* `Step` : one call, a method and its arguments;
* `Arg` : a chain, a text or an integer;
* `Chain` : the calls of a chain; the empty chain stands for nothing, and appending chains appends
  their calls;
* `Chain.name`, `Chain.op`, `Chain.keyword`, `Chain.group`, `Chain.listed` : the chains that synthesis
  uses.
-/

namespace GoRebuild

mutual
/-- One call. -/
inductive Step where
  | mk (method : String) (args : List Arg)
/-- An argument of a call. -/
inductive Arg where
  /-- a chain of its own -/
  | code (steps : List Step)
  /-- a text, written as a string literal -/
  | quoted (text : String)
  /-- an integer, written in decimal -/
  | int (n : Int)
end

/-- The calls of a chain, in order. -/
abbrev Chain := List Step

def Step.method : Step → String
  | mk m _ => m

def Step.args : Step → List Arg
  | mk _ as => as

namespace Chain

/-- A chain of one call. -/
def call (method : String) (args : List Arg) : Chain :=
  [.mk method args]

/-- A call without arguments. -/
def keyword (method : String) : Chain :=
  call method []

/-- A call with chains as arguments. -/
def group (method : String) (items : List Chain) : Chain :=
  call method (items.map .code)

/-- An identifier, or any other token as it is written. -/
def name (text : String) : Chain :=
  call "Id" [.quoted text]

def op (text : String) : Chain :=
  call "Op" [.quoted text]

def slot : Chain :=
  keyword "Empty"

/-- Nothing for no chains, a chain itself, or a list of several. -/
def listed : List Chain → Chain
  | [] => []
  | [c] => c
  | cs => group "List" cs

/-- The names of the methods called, in order. -/
def methods (c : Chain) : List String :=
  c.map Step.method

end Chain

end GoRebuild
