import GoRebuild.Synth.Basic

/-!
# From syntax to chains

Each node has the chain that rebuilds it. Tokens that have no call of their own are printed as they
were written, through `Id` and `Op`.

* `decimal?` : the integer literals that are written as numbers;
* `Expr.synth`, `Stmt.synth`, `Block.synth`, `GenDecl.synth`, `FuncDecl.synth` : the chain of a node;
* `FuncType.signature` : parameters and results.

Expressions, statements and declarations count as a level of nesting. The base of a qualified
selector, the dots of an array length and the function type of an interface method do not.
-/

namespace GoRebuild
open Chain Synth

/-- The value of an integer literal that is written as a number: `0`, or decimal digits without a
leading zero, up to `2 ^ 63 - 1`. -/
def decimal? (text : String) : Option Int :=
  let ds := text.toList
  if ds != ['0'] && ds.head? == some '0' then none
  else if ds.isEmpty || !ds.all Char.isDigit then none
  else
    let n : Nat := ds.foldl (fun n d => n * 10 + (d.toNat - 48)) 0
    if n < Nat.pow 2 63 then some n else none

/-- The chain of a literal: a decimal integer by value, any other token as written. -/
def BasicLit.synth (lit : BasicLit) (pos : Pos) : Synth Chain :=
  match lit.kind with
  | .int =>
    match decimal? lit.value with
    | some n => pure (call "Lit" [.int n])
    | none => pure (name lit.value)
  | .imag => unsupported "imaginary literal" pos
  | .float | .char | .string => pure (name lit.value)

/-- The names of a field or entry, as one chain. -/
def nameChain (names : List Ident) : Chain :=
  listed (names.map fun n => name n.name)

/-- The arguments of a call whose last one may be spread. -/
def spreadLast (ellipsis : Bool) (args : List Chain) : List Chain :=
  match ellipsis, args.getLast? with
  | true, some last => args.dropLast ++ [last ++ op "..."]
  | _, _ => args

/-- The keyword of a branch statement as a call. -/
def BranchTok.chain : BranchTok → Chain
  | breakTok => keyword "Break"
  | continueTok => keyword "Continue"
  | gotoTok => keyword "Goto"
  | fallthroughTok => keyword "Fallthrough"

/-- The start of a channel type. -/
def ChanDir.chain : ChanDir → Chain
  | both => keyword "Chan"
  | send => keyword "Chan" ++ op "<-"
  | recv => op "<-" ++ keyword "Chan"

variable (s : Scope)

mutual

/-- An expression or type, one level down. -/
def Expr.synth : Expr → Synth Chain
  | .mk k p => nested s p (k.synth p)

def ExprKind.synth (pos : Pos) : ExprKind → Synth Chain
  | .bad kind => unsupported kind pos
  | .ident n => pure (name n)
  | .ellipsis none => pure (op "...")
  | .ellipsis (some t) => return op "..." ++ (← t.synth)
  | .basicLit l => l.synth pos
  | .funcLit t b => return keyword "Func" ++ (← t.signature) ++ (← b.synth)
  | .compositeLit t es => do
    let head ← match t with
      | some t => t.synth
      | none => pure []
    return head ++ group "Values" (← Expr.synthList es)
  | .paren x => return group "Parens" [← x.synth]
  | .selector x sel =>
    match s.qualifier? x with
    | some path => pure (call "Qual" [.quoted path, .quoted sel.name])
    | none => return (← x.synth) ++ call "Dot" [.quoted sel.name]
  | .index x i => do
    let i ← i.synth
    return (← x.synth) ++ group "Index" [i]
  | .slice x low high max slice3 => do
    let low ← Expr.synthSlot low
    let high ← Expr.synthSlot high
    let bounds ← if slice3 then do pure [low, high, ← Expr.synthSlot max] else pure [low, high]
    return (← x.synth) ++ group "Index" bounds
  | .typeAssert x t => do
    let t ← match t with
      | some t => t.synth
      | none => pure (keyword "Type")
    return (← x.synth) ++ group "Assert" [t]
  | .call f as ellipsis => do
    let as ← Expr.synthList as
    return (← f.synth) ++ group "Call" (spreadLast ellipsis as)
  | .star x => return op "*" ++ (← x.synth)
  | .unary o x => return op o ++ (← x.synth)
  | .binary x o y => return (← x.synth) ++ op o ++ (← y.synth)
  | .keyValue k v => return (← k.synth) ++ op ":" ++ (← v.synth)
  | .arrayType none t => return keyword "Index" ++ (← t.synth)
  | .arrayType (some (.mk (.ellipsis none) _)) t => return group "Index" [op "..."] ++ (← t.synth)
  | .arrayType (some n) t => return group "Index" [← n.synth] ++ (← t.synth)
  | .structType fs => return group "Struct" (← Field.synthList fs)
  | .funcType t => return keyword "Func" ++ (← t.signature)
  | .interfaceType ms => return group "Interface" (← Field.synthElements ms)
  | .mapType k v => return group "Map" [← k.synth] ++ (← v.synth)
  | .chanType d v => return d.chain ++ (← v.synth)

def Expr.synthList : List Expr → Synth (List Chain)
  | [] => pure []
  | x :: xs => return (← x.synth) :: (← Expr.synthList xs)

/-- An expression, or an empty slot. -/
def Expr.synthSlot : Option Expr → Synth Chain
  | none => pure slot
  | some x => x.synth

/-- Parameters and results. One unnamed result stands without parentheses. -/
def FuncType.signature : FuncType → Synth Chain
  | .mk ps none => return group "Params" (← Field.synthList ps)
  | .mk ps (some [.mk [] t _]) => return group "Params" (← Field.synthList ps) ++ (← t.synth)
  | .mk ps (some rs) =>
    return group "Params" (← Field.synthList ps) ++ group "Params" (← Field.synthList rs)

def Field.synth : Field → Synth Chain
  | .mk ns t tag => do
    let c := nameChain ns ++ (← t.synth)
    match tag with
    | some l => return c ++ name l.value
    | none => return c

def Field.synthList : List Field → Synth (List Chain)
  | [] => pure []
  | f :: fs => return (← f.synth) :: (← Field.synthList fs)

/-- Each element of an interface: a method, or an embedded type. -/
def Field.synthElements : List Field → Synth (List Chain)
  | [] => pure []
  | .mk [n] (.mk (.funcType t) _) _ :: fs => do
    let c := name n.name ++ (← t.signature)
    return c :: (← Field.synthElements fs)
  | .mk [] t _ :: fs => return (← t.synth) :: (← Field.synthElements fs)
  | .mk _ t _ :: _ => unsupported "interface element" t.pos

def Block.synth : Block → Synth Chain
  | .mk ss _ => return group "Block" (← Stmt.synthList ss)

/-- A statement, one level down. -/
def Stmt.synth : Stmt → Synth Chain
  | .mk k p => nested s p (k.synth p)

def Stmt.synthList : List Stmt → Synth (List Chain)
  | [] => pure []
  | x :: xs => return (← x.synth) :: (← Stmt.synthList xs)

/-- A statement, or an empty slot. -/
def Stmt.synthSlot : Option Stmt → Synth Chain
  | none => pure slot
  | some x => x.synth

/-- A statement that takes no slot when it is absent. -/
def Stmt.synthInit : Option Stmt → Synth (List Chain)
  | none => pure []
  | some x => return [← x.synth]

def StmtKind.synth (pos : Pos) : StmtKind → Synth Chain
  | .bad kind => unsupported kind pos
  | .decl d => d.synth
  | .empty => pure slot
  | .labeled l x => return name l.name ++ op ":" ++ keyword "Line" ++ (← x.synth)
  | .expr x => x.synth
  | .send c v => return (← c.synth) ++ op "<-" ++ (← v.synth)
  | .incDec x t => return (← x.synth) ++ op t.text
  | .assign l t r => return listed (← Expr.synthList l) ++ op t ++ listed (← Expr.synthList r)
  | .goStmt c => return keyword "Go" ++ (← c.synth)
  | .deferStmt c => return keyword "Defer" ++ (← c.synth)
  | .returnStmt rs => return keyword "Return" ++ listed (← Expr.synthList rs)
  | .branch t none => pure t.chain
  | .branch t (some l) => pure (t.chain ++ name l.name)
  | .block b => b.synth
  | .ifStmt i c b e => do
    let header := (← Stmt.synthInit i) ++ [← c.synth]
    let c := group "If" header ++ (← b.synth)
    match e with
    | some e => return c ++ keyword "Else" ++ (← e.synth)
    | none => return c
  | .caseClause xs b => do
    let head ← match xs with
      | [] => pure (keyword "Default")
      | x :: xs => do pure (group "Case" ((← x.synth) :: (← Expr.synthList xs)))
    return head ++ group "Block" (← Stmt.synthList b)
  | .switchStmt i t b => do
    let header ← Stmt.synthInit i
    let header ← match t with
      | some t => do pure (header ++ [← t.synth])
      | none => pure (if header.isEmpty then [] else header ++ [slot])
    return group "Switch" header ++ (← b.synth)
  | .typeSwitch i a b => do
    let header := (← Stmt.synthInit i) ++ [← a.synth]
    return group "Switch" header ++ (← b.synth)
  | .commClause c b => do
    let head ← match c with
      | some c => do pure (group "Case" [← c.synth])
      | none => pure (keyword "Default")
    return head ++ group "Block" (← Stmt.synthList b)
  | .selectStmt b => return keyword "Select" ++ (← b.synth)
  | .forStmt none c none b => do
    let header ← match c with
      | some c => do pure [← c.synth]
      | none => pure []
    return group "For" header ++ (← b.synth)
  | .forStmt i c p b => do
    let i ← Stmt.synthSlot i
    let c ← Expr.synthSlot c
    let p ← Stmt.synthSlot p
    return group "For" [i, c, p] ++ (← b.synth)
  | .rangeStmt k v t x b => do
    let x ← x.synth
    let head ← match t with
      | some t => do
        let k ← Expr.synthPresent k
        let v ← Expr.synthPresent v
        pure (listed (k ++ v) ++ op t)
      | none => pure []
    return group "For" [head ++ keyword "Range" ++ x] ++ (← b.synth)

/-- An expression that takes no slot when it is absent. -/
def Expr.synthPresent : Option Expr → Synth (List Chain)
  | none => pure []
  | some x => return [← x.synth]

/-- A declaration with a keyword, one level down. Its entries are grouped unless it is a single one
without parentheses. -/
def GenDecl.synth : GenDecl → Synth Chain
  | .mk tok pos grouped specs => nested s pos do
    let head ← match tok with
      | .constTok => pure (keyword "Const")
      | .varTok => pure (keyword "Var")
      | .typeTok => pure (keyword "Type")
      | .importTok => unsupported "nested import declaration" pos
    match grouped, ← Spec.synthList pos specs with
    | false, [c] => return head ++ c
    | _, cs => return head ++ group "Defs" cs

/-- An entry of the declaration at a position. -/
def Spec.synth (pos : Pos) : Spec → Synth Chain
  | .imported i =>
    unsupported ("import of " ++ Text.Escaped.display i.path ++ " outside an import declaration") pos
  | .value ns t vs => do
    let t ← match t with
      | some t => t.synth
      | none => pure []
    match vs with
    | [] => return nameChain ns ++ t
    | v :: vs => return nameChain ns ++ t ++ op "=" ++ listed ((← v.synth) :: (← Expr.synthList vs))
  | .type n aliased t =>
    return name n.name ++ (if aliased then op "=" else []) ++ (← t.synth)

def Spec.synthList (pos : Pos) : List Spec → Synth (List Chain)
  | [] => pure []
  | x :: xs => return (← x.synth pos) :: (← Spec.synthList pos xs)

end

variable (pos : Pos)

/-- A selector on the name of an imported package is printed with its path, any other behind its base. -/
theorem ExprKind.synth_selector (x : Expr) (sel : Ident) :
    ExprKind.synth s pos (.selector x sel) =
      match s.qualifier? x with
      | some path => pure (Chain.call "Qual" [.quoted path, .quoted sel.name])
      | none => return (← x.synth s) ++ Chain.call "Dot" [.quoted sel.name] := rfl

/-- A length other than the dots is an expression like any other. -/
theorem ExprKind.synth_arrayType {n : Expr} (hn : ¬∃ p, n = .mk (.ellipsis none) p) (t : Expr) :
    ExprKind.synth s pos (.arrayType (some n) t) =
      (do return group "Index" [← n.synth s] ++ (← t.synth s)) := by
  obtain ⟨k, p⟩ := n
  cases k with
  | ellipsis t =>
    cases t with
    | none => exact absurd ⟨p, rfl⟩ hn
    | some _ => rfl
  | _ => rfl

/-- Expressions as one chain: nothing, the expression, or a list. -/
def Expr.synthListed (xs : List Expr) : Synth Chain :=
  return listed (← Expr.synthList s xs)

/-- A function or method, one level down. -/
def FuncDecl.synth (d : FuncDecl) : Synth Chain :=
  nested s d.pos do
    let recv ← match d.recv with
      | some fs => do pure (group "Params" (← Field.synthList s fs))
      | none => pure []
    let sig ← d.ty.signature s
    let body ← match d.body with
      | some b => b.synth s
      | none => pure []
    return keyword "Func" ++ recv ++ Chain.name d.name.name ++ sig ++ body

end GoRebuild
