import GoRebuild.Proofs.Reader.Rules
import GoRebuild.Proofs.Tree.Pieces

/-!
# The tokens of a parse tree

A parse tree is written as the row of pieces that it was read from, in the order of the text. Generic
constructs, which parse trees do not keep, are `Piece.anything`.

* `Node.pieces`, `Stmt.pieces`, `Decl.pieces`, `Func.pieces`, `Item.pieces` : the pieces of a parse tree;
* `Import.isExact` : whether an import path is its literal without the quotes.
-/

namespace GoRebuild.Grammar
open Piece

/-- Three dots, which may be absent. -/
def dotsPieces (dots : Bool) : List Piece :=
  if dots then [sym "..."] else []

/-- A star, which may be absent. -/
def starPieces (star : Bool) : List Piece :=
  if star then [sym "*"] else []

/-- Type parameters, which may be absent. -/
def typeParamPieces (params : Bool) : List Piece :=
  if params then [anything] else []

def ValueTok.text : ValueTok → String
  | constTok => "const"
  | varTok => "var"

mutual

/-- An expression or type. -/
def Node.pieces : Node → List Piece
  | .mk k _ => k.pieces

/-- An expression before the dot of a selector. -/
def Node.basePieces : Node → List Piece
  | .mk (.name b) _ => [qualifier b]
  | .mk k _ => k.pieces

def NodeKind.pieces : NodeKind → List Piece
  | .name n => [name n]
  | .literal l => [lit l]
  | .paren x => sym "(" :: x.pieces ++ [sym ")"]
  | .select x m => x.basePieces ++ [sym ".", name m.text]
  | .index x i => x.pieces ++ brackets i.pieces
  | .slice x low high =>
    x.pieces ++ brackets (separated (sym ":") [Node.piecesOption low, Node.piecesOption high])
  | .slice3 x low high max =>
    x.pieces ++ brackets (separated (sym ":") [Node.piecesOption low, high.pieces, max.pieces])
  | .assert x t => x.pieces ++ asserted t.pieces
  | .call f as => f.pieces ++ parens (Arg.rows as)
  | .convert t x => t.pieces ++ parens [x.pieces]
  | .star x => [sym "*"] ++ x.pieces
  | .unary o x => [sym o.text] ++ x.pieces
  | .binary x o y => x.pieces ++ [sym o] ++ y.pieces
  | .composite t es => t.pieces ++ values (Node.piecesList es)
  | .braces es => values (Node.piecesList es)
  | .keyed k v => k.pieces ++ [sym ":"] ++ v.pieces
  | .func t b => [key "func"] ++ t.pieces ++ b.pieces
  | .array n t => brackets n.pieces ++ t.pieces
  | .openArray t => brackets [sym "..."] ++ t.pieces
  | .sliceOf t => brackets [] ++ t.pieces
  | .struct ms => key "struct" :: braces (Member.rows ms)
  | .interface es => key "interface" :: braces (Element.rows es)
  | .map k v => key "map" :: brackets k.pieces ++ v.pieces
  | .chan d v => d.pieces ++ v.pieces
  | .funcType t => [key "func"] ++ t.pieces
  | .generic _ _ => [anything]

def Node.piecesOption : Option Node → List Piece
  | none => []
  | some x => x.pieces

def Node.piecesList : List Node → List (List Piece)
  | [] => []
  | x :: xs => x.pieces :: Node.piecesList xs

/-- An expression that takes no separator when it is absent. -/
def Node.rows : Option Node → List (List Piece)
  | none => []
  | some x => [x.pieces]

def Arg.pieces : Arg → List Piece
  | .plain x => x.pieces
  | .spread x => x.pieces ++ [sym "..."]

def Arg.rows : List Arg → List (List Piece)
  | [] => []
  | a :: as => a.pieces :: Arg.rows as

def Signature.pieces : Signature → List Piece
  | .mk ps rs => parens (Param.rows ps) ++ Param.resultPieces rs

/-- Results. -/
def Param.resultPieces : Option (List Param) → List Piece
  | none => []
  | some [.mk [] dots t] => [lone (dotsPieces dots.isSome ++ t.pieces)]
  | some rs => parens (Param.rows rs)

def Param.pieces : Param → List Piece
  | .mk ns dots t => names (ns.map Name.text) ++ dotsPieces dots.isSome ++ t.pieces

def Param.rows : List Param → List (List Piece)
  | [] => []
  | p :: ps => p.pieces :: Param.rows ps

def Member.pieces : Member → List Piece
  | .named n more t text => names ((n :: more).map Name.text) ++ t.pieces ++ tag (tagLit text)
  | .embedded star t text => starPieces star.isSome ++ t.pieces ++ tag (tagLit text)

def Member.rows : List Member → List (List Piece)
  | [] => []
  | m :: ms => m.pieces :: Member.rows ms

def Element.pieces : Element → List Piece
  | .method n t => [name n.text] ++ t.pieces
  | .embedded t => t.pieces
  | .union _ => [anything]

def Element.rows : List Element → List (List Piece)
  | [] => []
  | e :: es => e.pieces :: Element.rows es

def Block.pieces : Block → List Piece
  | .mk ss _ => braces (Stmt.piecesList ss)

def Stmt.pieces : Stmt → List Piece
  | .mk k _ => k.pieces

def Stmt.piecesList : List Stmt → List (List Piece)
  | [] => []
  | x :: xs => x.pieces :: Stmt.piecesList xs

def Stmt.piecesOption : Option Stmt → List Piece
  | none => []
  | some x => x.pieces

/-- A statement that takes no separator when it is absent. -/
def Stmt.rows : Option Stmt → List (List Piece)
  | none => []
  | some x => [x.pieces]

def StmtKind.pieces : StmtKind → List Piece
  | .decl d => d.pieces
  | .expr x => x.pieces
  | .send c v => c.pieces ++ [sym "<-"] ++ v.pieces
  | .step x t => x.pieces ++ [sym t.text]
  | .assign l t r =>
    separated (sym ",") (Node.piecesList l) ++ [sym t] ++ separated (sym ",") (Node.piecesList r)
  | .receive l t y => separated (sym ",") (Node.piecesList l) ++ [sym t.text] ++ y.pieces
  | .returnStmt rs => [key "return"] ++ separated (sym ",") (Node.piecesList rs)
  | .goStmt x => [key "go"] ++ x.pieces
  | .deferStmt x => [key "defer"] ++ x.pieces
  | .labeled l x => [name l.text] ++ [sym ":"] ++ Stmt.piecesOption x
  | .branch j => key j.tok.text :: j.label.toList.map fun l => name l.text
  | .block b => b.pieces
  | .empty => []
  | .conditional c => c.pieces
  | .loop h b => h.pieces ++ b.pieces
  | .switch none t cs => header "switch" (Node.rows t) ++ braces (Clause.rows cs)
  | .switch (some i) t cs =>
    header "switch" [i.pieces, Node.piecesOption t] ++ braces (Clause.rows cs)
  | .typeSwitch i [] x cs =>
    header "switch" (Stmt.rows i ++ [x.pieces ++ asserted [key "type"]]) ++ braces (Clause.rows cs)
  | .typeSwitch i (n :: ns) x cs =>
    header "switch"
        (Stmt.rows i ++ [separated (sym ",") (n.pieces :: Node.piecesList ns) ++ [sym ":="]
          ++ (x.pieces ++ asserted [key "type"])])
      ++ braces (Clause.rows cs)
  | .select cs => [key "select"] ++ braces (CommClause.rows cs)

def Conditional.pieces : Conditional → List Piece
  | .mk i c b none _ => header "if" (Stmt.rows i ++ [c.pieces]) ++ b.pieces
  | .mk i c b (some e) _ =>
    header "if" (Stmt.rows i ++ [c.pieces]) ++ b.pieces ++ [key "else"] ++ e.pieces

def Else.pieces : Else → List Piece
  | .block b => b.pieces
  | .chain c => c.pieces

def LoopHeader.pieces : LoopHeader → List Piece
  | .forever => header "for" []
  | .while c => header "for" [c.pieces]
  | .steps none c none => header "for" (Node.rows c)
  | .steps (some i) c p => header "for" [i.pieces, Node.piecesOption c, Stmt.piecesOption p]
  | .steps none c (some p) => header "for" [[], Node.piecesOption c, p.pieces]
  | .over x => header "for" [[key "range"] ++ x.pieces]
  | .assigning k more op x =>
    header "for"
      [separated (sym ",") (k.pieces :: Node.piecesList more) ++ [sym op.text] ++ [key "range"] ++ x.pieces]

def Clause.pieces : Clause → List Piece
  | .case x xs b _ =>
    key "case" :: separated (sym ",") (x.pieces :: Node.piecesList xs) ++ [sym ":"]
      ++ separated stop (Stmt.piecesList b)
  | .otherwise b _ => [key "default", sym ":"] ++ separated stop (Stmt.piecesList b)

def Clause.rows : List Clause → List (List Piece)
  | [] => []
  | c :: cs => c.pieces :: Clause.rows cs

def CommClause.pieces : CommClause → List Piece
  | .mk none b _ => [key "default", sym ":"] ++ separated stop (Stmt.piecesList b)
  | .mk (some c) b _ => key "case" :: c.pieces ++ [sym ":"] ++ separated stop (Stmt.piecesList b)

def CommClause.rows : List CommClause → List (List Piece)
  | [] => []
  | c :: cs => c.pieces :: CommClause.rows cs

def Decl.pieces : Decl → List Piece
  | .value t x _ => [key t.text] ++ defs false [x.pieces]
  | .values t xs _ => [key t.text] ++ defs true (ValueSpec.rows xs)
  | .type x _ => [key "type"] ++ defs false [x.pieces]
  | .types xs _ => [key "type"] ++ defs true (TypeSpec.rows xs)

def ValueSpec.pieces : ValueSpec → List Piece
  | .mk n more t [] => names ((n :: more).map Name.text) ++ Node.piecesOption t
  | .mk n more t (v :: vs) =>
    names ((n :: more).map Name.text) ++ Node.piecesOption t ++ [sym "="]
      ++ separated (sym ",") (v.pieces :: Node.piecesList vs)

def ValueSpec.rows : List ValueSpec → List (List Piece)
  | [] => []
  | x :: xs => x.pieces :: ValueSpec.rows xs

def TypeSpec.pieces : TypeSpec → List Piece
  | .mk n params aliased t =>
    [name n.text] ++ typeParamPieces params.isSome ++ (if aliased then [sym "="] else []) ++ t.pieces

/-- Each entry of a declaration of types. -/
def TypeSpec.rows : List TypeSpec → List (List Piece)
  | [] => []
  | x :: xs => x.pieces :: TypeSpec.rows xs

end

-- Derives the equations of the long definitions here, and not in each proof that is the first to need them.
section
attribute [local simp] Node.pieces NodeKind.pieces Node.piecesList Stmt.pieces StmtKind.pieces LoopHeader.pieces
  Conditional.pieces ValueSpec.pieces
end

/-! ## Rows as maps -/

/-- A function that goes through a list entry by entry is a map. -/
theorem eq_map_of_cons {α : Type} {f : α → List Piece} {rows : List α → List (List Piece)}
    (hnil : rows [] = []) (hcons : ∀ x xs, rows (x :: xs) = f x :: rows xs) (xs : List α) :
    rows xs = xs.map f := by
  induction xs with
  | nil => exact hnil
  | cons x xs ih => rw [hcons, ih, List.map_cons]

theorem Node.piecesList_eq_map (xs : List Node) : Node.piecesList xs = xs.map Node.pieces :=
  eq_map_of_cons rfl (fun _ _ => rfl) xs

theorem Arg.rows_eq_map (as : List Arg) : Arg.rows as = as.map Arg.pieces :=
  eq_map_of_cons rfl (fun _ _ => rfl) as

theorem Param.rows_eq_map (ps : List Param) : Param.rows ps = ps.map Param.pieces :=
  eq_map_of_cons rfl (fun _ _ => rfl) ps

theorem Member.rows_eq_map (ms : List Member) : Member.rows ms = ms.map Member.pieces :=
  eq_map_of_cons rfl (fun _ _ => rfl) ms

theorem Element.rows_eq_map (es : List Element) : Element.rows es = es.map Element.pieces :=
  eq_map_of_cons rfl (fun _ _ => rfl) es

theorem Clause.rows_eq_map (cs : List Clause) : Clause.rows cs = cs.map Clause.pieces :=
  eq_map_of_cons rfl (fun _ _ => rfl) cs

theorem CommClause.rows_eq_map (cs : List CommClause) : CommClause.rows cs = cs.map CommClause.pieces :=
  eq_map_of_cons rfl (fun _ _ => rfl) cs

theorem ValueSpec.rows_eq_map (xs : List ValueSpec) : ValueSpec.rows xs = xs.map ValueSpec.pieces :=
  eq_map_of_cons rfl (fun _ _ => rfl) xs

theorem TypeSpec.rows_eq_map (xs : List TypeSpec) : TypeSpec.rows xs = xs.map TypeSpec.pieces :=
  eq_map_of_cons rfl (fun _ _ => rfl) xs

/-! ## Top level -/

/-- Whether the path is the literal without its quotes. -/
def Import.isExact (i : Import) : Bool :=
  i.path == "\"" ++ unquoted i.path ++ "\"" || i.path == "\x60" ++ unquoted i.path ++ "\x60"

/-- An import. A literal that is not its path in quotes stands for itself. -/
def Import.pieces (i : Import) : List Piece :=
  (match i.name with
    | none => []
    | some (.named n) => [Piece.name n]
    | some .dot => [sym "."]
    | some .blank => [Piece.name "_"])
    ++ [if i.isExact then Piece.path (unquoted i.path) else lit ⟨.string, i.path⟩]

def Param.receiverPieces : Option (List Param) → List Piece
  | none => []
  | some ps => parens (Param.rows ps)

def Block.piecesOption : Option Block → List Piece
  | none => []
  | some b => b.pieces

def Func.pieces (f : Func) : List Piece :=
  [key "func"] ++ Param.receiverPieces f.recv ++ [Piece.name f.name.text]
    ++ typeParamPieces f.typeParams.isSome ++ f.sig.pieces ++ Block.piecesOption f.body

def Item.pieces : Item → List Piece
  | .package n => [key "package", name n.text]
  | .importOne i _ => [key "import"] ++ defs false [i.pieces]
  | .imports is _ => [key "import"] ++ defs true (is.map Import.pieces)
  | .func f => f.pieces
  | .stmt s => s.pieces

end GoRebuild.Grammar
