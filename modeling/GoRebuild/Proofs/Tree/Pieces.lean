import GoRebuild.Text.Quoted
import GoRebuild.Tree.Basic

/-!
# The tokens of a tree

A tree is written as a row of pieces, in the order of its parts. Nothing that a tree holds is left out.

* `Piece` : a token, or a place where a writer may choose: the end of a line, a comma before a closing
  bracket, the parentheses around the only result of a function;
* `Expr.pieces`, `Stmt.pieces`, `GenDecl.pieces`, `FuncDecl.pieces`, `File.pieces` : the pieces of a tree;
* `Piece.spell`, `spellAll` : the tokens as gofmt writes them, a `;` for each line that ends a statement.
-/

namespace GoRebuild

/-- A token of a tree, or a place where a writer may choose. -/
inductive Piece where
  | name (text : String)
  /-- a name before the dot of a selector, which may be that of a package -/
  | qualifier (base : String)
  | lit (lit : BasicLit)
  | key (text : String)
  | sym (text : String)
  | path (importPath : String)
  /-- the end of a statement, field or entry -/
  | stop
  /-- a comma that may stand before a closing bracket -/
  | comma
  /-- the only result of a function, which has no name: with parentheses or without -/
  | lone (inner : List Piece)
  /-- source that could not be read, for which no token stands -/
  | unread
  /-- tokens that were recognised and are not kept -/
  | anything

namespace Piece

/-- Rows with a separator between any two. -/
def separated (separator : Piece) (rows : List (List Piece)) : List Piece :=
  [separator].intercalate rows

@[simp] theorem separated_one (separator : Piece) (row : List Piece) :
    separated separator [row] = row :=
  List.intercalate_singleton

/-- A row and more, each behind a separator. -/
theorem separated_cons (separator : Piece) (row : List Piece) (rows : List (List Piece)) :
    separated separator (row :: rows) = row ++ rows.flatMap (separator :: ·) := by
  induction rows generalizing row with
  | nil => simp
  | cons row' rows ih =>
    unfold separated at ih ⊢
    rw [List.intercalate_cons_cons, ih]
    simp

/-- Behind the separator, rows are written behind one separator each. -/
theorem separator_cons_separated (separator : Piece) {rows : List (List Piece)} (h : rows ≠ []) :
    separator :: separated separator rows = rows.flatMap (separator :: ·) := by
  cases rows with
  | nil => exact absurd rfl h
  | cons row rows => rw [separated_cons]; rfl

theorem separated_eq_tail (separator : Piece) (rows : List (List Piece)) :
    separated separator rows = (rows.flatMap (separator :: ·)).tail := by
  cases rows with
  | nil => rfl
  | cons row rows => rw [separated_cons]; rfl

/-- Entries in parentheses, with commas between them. -/
def parens (rows : List (List Piece)) : List Piece :=
  sym "(" :: separated (sym ",") rows ++ [comma, sym ")"]

/-- Arguments in parentheses, the last one spread or not. -/
def arguments (spread : Bool) (rows : List (List Piece)) : List Piece :=
  sym "(" :: separated (sym ",") rows ++ (if spread then [sym "..."] else []) ++ [comma, sym ")"]

/-- The elements of a literal. -/
def values (rows : List (List Piece)) : List Piece :=
  sym "\x7b" :: separated (sym ",") rows ++ [comma, sym "\x7d"]

/-- Entries in braces, each on its line. -/
def braces (rows : List (List Piece)) : List Piece :=
  sym "\x7b" :: separated stop rows ++ [sym "\x7d"]

/-- What stands in brackets. -/
def brackets (inner : List Piece) : List Piece :=
  sym "[" :: inner ++ [sym "]"]

/-- A type assertion behind an expression. -/
def asserted (inner : List Piece) : List Piece :=
  sym "." :: sym "(" :: inner ++ [sym ")"]

/-- A keyword and the parts of a header. -/
def header (keyword : String) (rows : List (List Piece)) : List Piece :=
  key keyword :: separated stop rows

/-- The entries of a declaration, in parentheses or not. -/
def defs (grouped : Bool) (rows : List (List Piece)) : List Piece :=
  if grouped then sym "(" :: separated stop rows ++ [sym ")"] else separated stop rows

/-- Names with commas between them. -/
def names (ns : List String) : List Piece :=
  separated (sym ",") (ns.map fun n => [name n])

theorem names_cons (n : String) (ns : List String) :
    names (n :: ns) = name n :: ns.flatMap fun m => [sym ",", name m] := by
  unfold names
  rw [List.map_cons, separated_cons, List.flatMap_map]
  rfl

/-- The tag of a field, which may be absent. -/
def tag : Option BasicLit → List Piece
  | none => []
  | some l => [lit l]

end Piece

open Piece

/-- The start of a channel type. -/
def ChanDir.pieces : ChanDir → List Piece
  | both => [key "chan"]
  | send => [key "chan", sym "<-"]
  | recv => [sym "<-", key "chan"]

def BranchTok.text : BranchTok → String
  | breakTok => "break"
  | continueTok => "continue"
  | gotoTok => "goto"
  | fallthroughTok => "fallthrough"

/-- An import, the path without its quotes. -/
def ImportSpec.pieces (i : ImportSpec) : List Piece :=
  (match i.name with
    | none => []
    | some (.named n) => [Piece.name n]
    | some .dot => [sym "."]
    | some .blank => [Piece.name "_"]) ++ [Piece.path i.path]

/-! ## Expressions, statements and declarations -/

mutual

/-- An expression or type. -/
def Expr.pieces : Expr → List Piece
  | .mk k _ => k.pieces

/-- An expression before the dot of a selector. -/
def Expr.basePieces : Expr → List Piece
  | .mk (.ident b) _ => [qualifier b]
  | .mk k _ => k.pieces

def ExprKind.pieces : ExprKind → List Piece
  | .bad _ => [unread]
  | .ident n => [name n]
  | .ellipsis t => [sym "..."] ++ Expr.piecesOption t
  | .basicLit l => [lit l]
  | .funcLit t b => [key "func"] ++ t.pieces ++ b.pieces
  | .compositeLit t es => Expr.piecesOption t ++ values (Expr.piecesList es)
  | .paren x => sym "(" :: x.pieces ++ [sym ")"]
  | .selector x sel => x.basePieces ++ [sym ".", name sel.name]
  | .index x i => x.pieces ++ brackets i.pieces
  | .slice x low high none false =>
    x.pieces ++ brackets (separated (sym ":") [Expr.piecesOption low, Expr.piecesOption high])
  | .slice x low high none true =>
    x.pieces ++ brackets (separated (sym ":") [Expr.piecesOption low, Expr.piecesOption high, []])
  | .slice x low high (some max) _ =>
    x.pieces
      ++ brackets (separated (sym ":") [Expr.piecesOption low, Expr.piecesOption high, max.pieces])
  | .typeAssert x none => x.pieces ++ asserted [key "type"]
  | .typeAssert x (some t) => x.pieces ++ asserted t.pieces
  | .call f as ellipsis => f.pieces ++ arguments ellipsis (Expr.piecesList as)
  | .star x => [sym "*"] ++ x.pieces
  | .unary o x => [sym o] ++ x.pieces
  | .binary x o y => x.pieces ++ [sym o] ++ y.pieces
  | .keyValue k v => k.pieces ++ [sym ":"] ++ v.pieces
  | .arrayType n t => brackets (Expr.piecesOption n) ++ t.pieces
  | .structType fs => key "struct" :: braces (Field.piecesList fs)
  | .funcType t => [key "func"] ++ t.pieces
  | .interfaceType ms => key "interface" :: braces (Field.elementPieces ms)
  | .mapType k v => key "map" :: brackets k.pieces ++ v.pieces
  | .chanType d v => d.pieces ++ v.pieces

def Expr.piecesOption : Option Expr → List Piece
  | none => []
  | some x => x.pieces

def Expr.piecesList : List Expr → List (List Piece)
  | [] => []
  | x :: xs => x.pieces :: Expr.piecesList xs

/-- An expression that takes no separator when it is absent. -/
def Expr.rows : Option Expr → List (List Piece)
  | none => []
  | some x => [x.pieces]

def FuncType.pieces : FuncType → List Piece
  | .mk ps rs => parens (Field.piecesList ps) ++ Field.resultPieces rs

/-- Results. -/
def Field.resultPieces : Option (List Field) → List Piece
  | none => []
  | some [.mk [] t tag] => [lone (t.pieces ++ Piece.tag tag)]
  | some rs => parens (Field.piecesList rs)

/-- Names, type and tag. -/
def Field.pieces : Field → List Piece
  | .mk ns t tag => names (ns.map Ident.name) ++ t.pieces ++ Piece.tag tag

/-- Each field of a list. -/
def Field.piecesList : List Field → List (List Piece)
  | [] => []
  | f :: fs => f.pieces :: Field.piecesList fs

/-- Each element of an interface. The type of a method has no `func`. -/
def Field.elementPieces : List Field → List (List Piece)
  | [] => []
  | .mk [n] (.mk (.funcType t) _) tag :: fs =>
    ([name n.name] ++ t.pieces ++ Piece.tag tag) :: Field.elementPieces fs
  | f :: fs => f.pieces :: Field.elementPieces fs

def Block.pieces : Block → List Piece
  | .mk ss _ => braces (Stmt.piecesList ss)

def Stmt.pieces : Stmt → List Piece
  | .mk k _ => k.pieces

def Stmt.piecesList : List Stmt → List (List Piece)
  | [] => []
  | x :: xs => x.pieces :: Stmt.piecesList xs

def Stmt.piecesOption : Option Stmt → List Piece
  | none => []
  | some x => x.pieces

/-- A statement that takes no separator when it is absent. -/
def Stmt.rows : Option Stmt → List (List Piece)
  | none => []
  | some x => [x.pieces]

def StmtKind.pieces : StmtKind → List Piece
  | .bad _ => [unread]
  | .decl d => d.pieces
  | .empty => []
  | .labeled l x => [name l.name] ++ [sym ":"] ++ x.pieces
  | .expr x => x.pieces
  | .send c v => c.pieces ++ [sym "<-"] ++ v.pieces
  | .incDec x t => x.pieces ++ [sym t.text]
  | .assign l t r =>
    separated (sym ",") (Expr.piecesList l) ++ [sym t] ++ separated (sym ",") (Expr.piecesList r)
  | .goStmt c => [key "go"] ++ c.pieces
  | .deferStmt c => [key "defer"] ++ c.pieces
  | .returnStmt rs => [key "return"] ++ separated (sym ",") (Expr.piecesList rs)
  | .branch t none => [key t.text]
  | .branch t (some l) => [key t.text] ++ [name l.name]
  | .block b => b.pieces
  | .ifStmt i c b none => header "if" (Stmt.rows i ++ [c.pieces]) ++ b.pieces
  | .ifStmt i c b (some e) =>
    header "if" (Stmt.rows i ++ [c.pieces]) ++ b.pieces ++ [key "else"] ++ e.pieces
  | .caseClause [] b => [key "default", sym ":"] ++ separated stop (Stmt.piecesList b)
  | .caseClause (x :: xs) b =>
    key "case" :: separated (sym ",") (x.pieces :: Expr.piecesList xs) ++ [sym ":"]
      ++ separated stop (Stmt.piecesList b)
  | .switchStmt none t b => header "switch" (Expr.rows t) ++ b.pieces
  | .switchStmt (some i) t b => header "switch" [i.pieces, Expr.piecesOption t] ++ b.pieces
  | .typeSwitch i a b => header "switch" (Stmt.rows i ++ [a.pieces]) ++ b.pieces
  | .commClause none b => [key "default", sym ":"] ++ separated stop (Stmt.piecesList b)
  | .commClause (some c) b =>
    key "case" :: c.pieces ++ [sym ":"] ++ separated stop (Stmt.piecesList b)
  | .selectStmt b => [key "select"] ++ b.pieces
  | .forStmt none c none b => header "for" (Expr.rows c) ++ b.pieces
  | .forStmt (some i) c p b =>
    header "for" [i.pieces, Expr.piecesOption c, Stmt.piecesOption p] ++ b.pieces
  | .forStmt none c (some p) b => header "for" [[], Expr.piecesOption c, p.pieces] ++ b.pieces
  | .rangeStmt k v none x b =>
    header "for" [separated (sym ",") (Expr.rows k ++ Expr.rows v) ++ [key "range"] ++ x.pieces]
      ++ b.pieces
  | .rangeStmt k v (some t) x b =>
    header "for"
        [separated (sym ",") (Expr.rows k ++ Expr.rows v) ++ [sym t] ++ [key "range"] ++ x.pieces]
      ++ b.pieces

def GenDecl.pieces : GenDecl → List Piece
  | .mk tok _ grouped specs => [key tok.text] ++ defs grouped (Spec.piecesList specs)

def Spec.pieces : Spec → List Piece
  | .imported i => i.pieces
  | .value ns t [] => names (ns.map Ident.name) ++ Expr.piecesOption t
  | .value ns t (v :: vs) =>
    names (ns.map Ident.name) ++ Expr.piecesOption t ++ [sym "="]
      ++ separated (sym ",") (v.pieces :: Expr.piecesList vs)
  | .type n aliased t => [name n.name] ++ (if aliased then [sym "="] else []) ++ t.pieces

def Spec.piecesList : List Spec → List (List Piece)
  | [] => []
  | x :: xs => x.pieces :: Spec.piecesList xs

end

def Field.receiverPieces : Option (List Field) → List Piece
  | none => []
  | some fs => parens (Field.piecesList fs)

def Block.piecesOption : Option Block → List Piece
  | none => []
  | some b => b.pieces

def FuncDecl.pieces (d : FuncDecl) : List Piece :=
  [key "func"] ++ Field.receiverPieces d.recv ++ [Piece.name d.name.name] ++ d.ty.pieces
    ++ Block.piecesOption d.body

def Decl.pieces : Decl → List Piece
  | .gen d => d.pieces
  | .func d => d.pieces

/-- A file: the package clause, then each declaration. -/
def File.pieces (f : File) : List Piece :=
  separated stop ([key "package", name f.package.name] :: f.decls.map Decl.pieces)

/-! ## Spelling -/

mutual

/-- The tokens of a piece as gofmt writes it, where names before dots are spelled by a function. -/
def Piece.spell (q : String → String) : Piece → List String
  | .name t | .key t | .sym t => [t]
  | .qualifier b => [q b]
  | .lit l => [l.value]
  | .path p => [Text.Quoted.encode p]
  | .stop => [";"]
  | .comma | .unread | .anything => []
  | .lone ps => spellAll q ps

/-- The tokens of a row of pieces. -/
def spellAll (q : String → String) : List Piece → List String
  | [] => []
  | p :: ps => p.spell q ++ spellAll q ps

end

@[simp] theorem spellAll_append (q : String → String) (ps rs : List Piece) :
    spellAll q (ps ++ rs) = spellAll q ps ++ spellAll q rs := by
  induction ps with
  | nil => rfl
  | cons p ps ih => simp only [List.cons_append, spellAll, ih, List.append_assoc]

/-- Rows with a separator are spelled row by row. -/
theorem spellAll_intercalate (q : String → String) (separator : List Piece) (rows : List (List Piece)) :
    spellAll q (separator.intercalate rows) =
      (spellAll q separator).intercalate (rows.map (spellAll q)) := by
  induction rows with
  | nil => rfl
  | cons row rows ih =>
    cases rows with
    | nil => simp
    | cons row' rows =>
      rw [List.intercalate_cons_cons, List.map_cons, List.map_cons, List.intercalate_cons_cons,
        ← List.map_cons, ← ih, spellAll_append, spellAll_append]

end GoRebuild
