import GoRebuild.Grammar.Basic
import GoRebuild.Reader.Source

/-!
# Reading what the grammar derives

The trees that the grammar derives have no names of kinds and fields to look up, and no comments. What the reader makes
of them is plain recursion, which proofs about the reader go by.

* `Setting` : where the places of the source are, and the limit on nesting;
* `visit`, `refuse` : one level deeper, and a construct that is refused;
* `Node.read`, `Stmt.read`, `Block.read`, `Decl.read`, `Func.read`, `Item.read` : the syntax tree of a derivation;
* `Signature.read` : parameters and results.
-/

namespace GoRebuild
open Lexical (Place)

structure Setting where
  /-- The position of each place. -/
  pos : Place → Pos
  /-- The deepest nesting that is not refused. -/
  limit : Nat

namespace Reading

/-- Runs a computation for the node at a place, one level deeper. -/
def visit {α : Type} (s : Setting) (start : Place) (act : Reading α) : Reading α := fun depth =>
  if s.limit ≤ depth then .error (.tooDeep s.limit (s.pos start)) else act (depth + 1)

/-- Refuses a construct. -/
def refuse {α : Type} (s : Setting) (kind : String) (place : Place) : Reading α :=
  throw (.unsupported kind (s.pos place))

end Reading

namespace Grammar
open Reading

variable (s : Setting)

/-- A name in a syntax tree. -/
def Name.ident (n : Name) : Ident :=
  ⟨n.text, s.pos n.place⟩

/-- Whether an argument is spread. -/
def Arg.isSpread : Arg → Bool
  | .spread _ => true
  | .plain _ => false

/-- The tag of a struct field in a syntax tree. -/
def tagLit (tag : Option String) : Option BasicLit :=
  tag.map fun text => ⟨.string, text⟩

/-- Where a generic construct is refused: the arguments of a call at their bracket, others where they start. -/
def Generic.place (start bracket : Place) : Generic → Place
  | typeArguments => bracket
  | _ => start

mutual

/-- An expression or type, one level down. -/
def Node.read : Node → Reading Expr
  | .mk kind start => visit s start do
    let k ← kind.read start
    pure (.mk k (s.pos start))

def NodeKind.read (start : Place) : NodeKind → Reading ExprKind
  | .name text => pure (.ident text)
  | .literal lit => pure (.basicLit lit)
  | .paren x => return .paren (← x.read)
  | .select x m => return .selector (← x.read) (m.ident s)
  | .index x i => return .index (← x.read) (← i.read)
  | .slice x low high => return .slice (← x.read) (← readOption low) (← readOption high) none false
  | .slice3 x low high max => do
    let x ← x.read
    let low ← readOption low
    let high ← high.read
    let max ← max.read
    return .slice x low (some high) (some max) true
  | .assert x ty => return .typeAssert (← x.read) (some (← ty.read))
  | .call fn args => do
    let xs ← readArgs args
    let f ← fn.read
    return .call f xs (args.any Arg.isSpread)
  | .convert ty x => return .call (← ty.read) [← x.read] false
  | .star x => return .star (← x.read)
  | .unary op x => return .unary op.text (← x.read)
  | .binary x op y => return .binary (← x.read) op (← y.read)
  | .composite ty elems => return .compositeLit (some (← ty.read)) (← readAll elems)
  | .braces elems => return .compositeLit none (← readAll elems)
  | .keyed key value => return .keyValue (← key.read) (← value.read)
  | .func sig body => return .funcLit (← sig.read) (← body.read)
  | .array len elt => return .arrayType (some (← len.read)) (← elt.read)
  | .openArray elt => return .arrayType (some (.mk (.ellipsis none) (s.pos start))) (← elt.read)
  | .sliceOf elt => return .arrayType none (← elt.read)
  | .struct members => return .structType (← readMembers members)
  | .interface elems => return .interfaceType (← readElements elems)
  | .map key value => return .mapType (← key.read) (← value.read)
  | .chan dir value => return .chanType dir (← value.read)
  | .funcType sig => return .funcType (← sig.read)
  | .generic form bracket => refuse s form.kindName (form.place start bracket)

def readOption : Option Node → Reading (Option Expr)
  | none => pure none
  | some x => return some (← x.read)

def readAll : List Node → Reading (List Expr)
  | [] => pure []
  | x :: xs => return (← x.read) :: (← readAll xs)

def readArgs : List Arg → Reading (List Expr)
  | [] => pure []
  | .plain x :: as => return (← x.read) :: (← readArgs as)
  | .spread x :: as => return (← x.read) :: (← readArgs as)

def Signature.read : Signature → Reading FuncType
  | .mk params none => return .mk (← readParams params) none
  | .mk params (some results) => return .mk (← readParams params) (some (← readParams results))

def readParams : List Param → Reading (List Field)
  | [] => pure []
  | .mk names none ty :: ps => do
    let t ← ty.read
    return .mk (names.map (Name.ident s)) t none :: (← readParams ps)
  | .mk names (some dots) ty :: ps => do
    let t ← ty.read
    let start := (names.head?.map Name.place).getD dots
    return .mk (names.map (Name.ident s)) (.mk (.ellipsis (some t)) (s.pos start)) none
      :: (← readParams ps)

def readMembers : List Member → Reading (List Field)
  | [] => pure []
  | .named n more ty tag :: ms => do
    let t ← ty.read
    return .mk ((n :: more).map (Name.ident s)) t (tagLit tag) :: (← readMembers ms)
  | .embedded none ty tag :: ms => do
    let t ← ty.read
    return .mk [] t (tagLit tag) :: (← readMembers ms)
  | .embedded (some star) ty tag :: ms => do
    let t ← ty.read
    return .mk [] (.mk (.star t) (s.pos star)) (tagLit tag) :: (← readMembers ms)

def readElements : List Element → Reading (List Field)
  | [] => pure []
  | .method n sig :: es => do
    let f ← sig.read
    return .mk [n.ident s] (.mk (.funcType f) (s.pos n.place)) none :: (← readElements es)
  | .embedded ty :: es => do
    let t ← ty.read
    return .mk [] t none :: (← readElements es)
  | .union start :: _ => refuse s Generic.union.kindName start

def Block.read : Block → Reading GoRebuild.Block
  | .mk ss start => return .mk (← readStmts ss) (s.pos start)

def Stmt.read : Stmt → Reading GoRebuild.Stmt
  | .mk kind start => visit s start do
    let k ← kind.read start
    pure (.mk k (s.pos start))

def readStmts : List Stmt → Reading (List GoRebuild.Stmt)
  | [] => pure []
  | x :: xs => return (← x.read) :: (← readStmts xs)

def readStmt? : Option Stmt → Reading (Option GoRebuild.Stmt)
  | none => pure none
  | some x => return some (← x.read)

def StmtKind.read (start : Place) : StmtKind → Reading GoRebuild.StmtKind
  | .decl d => return .decl (← d.read start)
  | .expr x => return .expr (← x.read)
  | .send ch value => return .send (← ch.read) (← value.read)
  | .step x tok => return .incDec (← x.read) tok
  | .assign left op right => return .assign (← readAll left) op (← readAll right)
  | .receive left op right => do
    let y ← right.read
    return .assign (← readAll left) op.text [y]
  | .returnStmt results => return .returnStmt (← readAll results)
  | .goStmt x => return .goStmt (← x.read)
  | .deferStmt x => return .deferStmt (← x.read)
  | .labeled label none => pure (.labeled (label.ident s) (.mk .empty (s.pos start)))
  | .labeled label (some x) => return .labeled (label.ident s) (← x.read)
  | .branch jump => pure (.branch jump.tok (jump.label.map (Name.ident s)))
  | .block (.mk ss _) => return .block (.mk (← readStmts ss) (s.pos start))
  | .empty => pure .empty
  | .conditional c => c.read
  | .loop header body => do
    let b ← body.read
    header.read b
  | .switch init tag clauses => do
    let cs ← readClauses clauses
    let i ← readStmt? init
    let t ← readOption tag
    return .switchStmt i t (.mk cs (s.pos start))
  | .typeSwitch init names value clauses => do
    let x ← value.read
    let pos := s.pos value.start
    let asserted : Expr := .mk (.typeAssert x none) pos
    let left ← readAll names
    let assign : GoRebuild.Stmt := match names with
      | [] => .mk (.expr asserted) pos
      | n :: _ => .mk (.assign left ":=" [asserted]) (s.pos n.start)
    let cs ← readClauses clauses
    let i ← readStmt? init
    return .typeSwitch i assign (.mk cs (s.pos start))
  | .select clauses => return .selectStmt (.mk (← readCommClauses clauses) (s.pos start))

def Conditional.read : Conditional → Reading GoRebuild.StmtKind
  | .mk init cond body els _ => do
    let e ← readElse els
    let i ← readStmt? init
    let c ← cond.read
    let b ← body.read
    return .ifStmt i c b e

def readElse : Option Else → Reading (Option GoRebuild.Stmt)
  | none => pure none
  | some (.block (.mk ss start)) => visit s start do
    let xs ← readStmts ss
    return some (.mk (.block (.mk xs (s.pos start))) (s.pos start))
  | some (.chain c) => visit s c.start do
    let k ← c.read
    return some (.mk k (s.pos c.start))

def LoopHeader.read (body : GoRebuild.Block) : LoopHeader → Reading GoRebuild.StmtKind
  | .forever => pure (.forStmt none none none body)
  | .while cond => return .forStmt none (some (← cond.read)) none body
  | .steps init cond post => do
    let i ← readStmt? init
    let c ← readOption cond
    let p ← readStmt? post
    return .forStmt i c p body
  | .over x => return .rangeStmt none none none (← x.read) body
  | .assigning first more op x => do
    let key ← first.read
    let rest ← readAll more
    return .rangeStmt (some key) rest.head? (some op.text) (← x.read) body

def readClauses : List Clause → Reading (List GoRebuild.Stmt)
  | [] => pure []
  | .case first more body start :: cs => do
    let x ← first.read
    let xs ← readAll more
    let b ← readStmts body
    return .mk (.caseClause (x :: xs) b) (s.pos start) :: (← readClauses cs)
  | .otherwise body start :: cs => do
    let b ← readStmts body
    return .mk (.caseClause [] b) (s.pos start) :: (← readClauses cs)

def readCommClauses : List CommClause → Reading (List GoRebuild.Stmt)
  | [] => pure []
  | .mk comm body start :: cs => do
    let c ← readStmt? comm
    let b ← readStmts body
    return .mk (.commClause c b) (s.pos start) :: (← readCommClauses cs)

def Decl.read (start : Place) : Decl → Reading GenDecl
  | .value tok spec _ => return .mk tok.declToken (s.pos start) false [← spec.read]
  | .values tok specs _ => return .mk tok.declToken (s.pos start) true (← readValueSpecs specs)
  | .type spec _ => return .mk .typeTok (s.pos start) false [← spec.read]
  | .types specs _ => return .mk .typeTok (s.pos start) true (← readTypeSpecs specs)

def ValueSpec.read : ValueSpec → Reading Spec
  | .mk n more ty values => do
    let t ← readOption ty
    let vs ← readAll values
    return .value ((n :: more).map (Name.ident s)) t vs

def readValueSpecs : List ValueSpec → Reading (List Spec)
  | [] => pure []
  | x :: xs => return (← x.read) :: (← readValueSpecs xs)

def TypeSpec.read : TypeSpec → Reading Spec
  | .mk _ (some params) _ _ => refuse s Generic.typeParameters.kindName params
  | .mk n none aliased ty => return .type (n.ident s) aliased (← ty.read)

def readTypeSpecs : List TypeSpec → Reading (List Spec)
  | [] => pure []
  | x :: xs => return (← x.read) :: (← readTypeSpecs xs)

end

/-- A function or method: its receiver, its body, then its signature. -/
def Func.read (f : Func) : Reading FuncDecl := do
  if let some params := f.typeParams then
    refuse s Generic.typeParameters.kindName params
  let recv ← f.recv.mapM (readParams s)
  let body ← f.body.mapM (Block.read s)
  let sig ← f.sig.read s
  return ⟨recv, f.name.ident s, sig, body, s.pos f.start⟩

def Import.read (i : Import) : ImportSpec :=
  ⟨i.name, unquoted i.path, s.pos i.start⟩

/-- An entry at top level, where only declarations may stand. -/
def Item.read : Item → Reading TopLevel
  | .package n => pure (.package (n.ident s))
  | .importOne spec start =>
    pure (.decl (.gen (.mk .importTok (s.pos start) false [.imported (spec.read s)])))
  | .imports specs start =>
    pure (.decl (.gen (.mk .importTok (s.pos start) true (specs.map fun i => .imported (i.read s)))))
  | .func f => return .decl (.func (← f.read s))
  | .stmt (.mk (.decl d) start) => return .decl (.gen (← d.read s start))
  | .stmt (.mk kind start) => refuse s kind.kindName start

end Grammar

end GoRebuild
