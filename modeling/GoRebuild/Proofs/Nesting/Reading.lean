import GoRebuild.Proofs.Nesting.Outline
import GoRebuild.Proofs.Reader.Rules

/-!
# Reading follows the outline of a parse tree

* `Node.outline`, `Stmt.outline`, `Decl.outline`, `Func.outline`, `Item.outline` : what reading comes across in a
  parse tree, in its order: generic constructs are refused wherever they stand, and so are statements at top level
  that are no declarations;
* `Node.refuses`, `Stmt.refuses`, `Decl.refuses`, `Item.refuses` : nothing else is refused;
* `Reading.Follows s act o` : a reading succeeds where a walk along an outline does, and fails for the same
  reason where it does not;
* `Node.follows_read`, `Stmt.follows_read`, `Item.follows_read` : every rule follows the outline of its tree.
-/

namespace GoRebuild.Grammar
open Lexical (Place)
open Outline

/-! ## Outlines of parse trees -/

/-- A generic construct is refused. -/
def Generic.outline (form : Generic) (place : Place) : Outline Place :=
  refusal form.kindName place

/-- Type parameters, which may be absent, are refused. -/
def typeParamsOutline : Option Place → Outline Place
  | none => done
  | some place => Generic.typeParameters.outline place

mutual

def Node.outline : Node → Outline Place
  | .mk k start => node start (k.outline start)

/-- What is in an expression or type that starts at a place. The arguments of a call come before the callee. -/
def NodeKind.outline (start : Place) : NodeKind → Outline Place
  | .name _ | .literal _ => done
  | .paren x | .star x | .unary _ x | .openArray x | .sliceOf x | .chan _ x | .select x _ => x.outline
  | .index x y | .assert x y | .convert x y | .binary x _ y | .keyed x y | .array x y | .map x y =>
    x.outline ++ y.outline
  | .slice x low high => x.outline ++ (Node.outlineOption low ++ Node.outlineOption high)
  | .slice3 x low high max => x.outline ++ (Node.outlineOption low ++ (high.outline ++ max.outline))
  | .call f as => Arg.outlineList as ++ f.outline
  | .composite t es => t.outline ++ Node.outlineList es
  | .braces es => Node.outlineList es
  | .func t b => t.outline ++ b.outline
  | .struct ms => Member.outlineList ms
  | .interface es => Element.outlineList es
  | .funcType t => t.outline
  | .generic form bracket => form.outline (form.place start bracket)

def Node.outlineOption : Option Node → Outline Place
  | none => done
  | some x => x.outline

def Node.outlineList : List Node → Outline Place
  | [] => done
  | x :: xs => x.outline ++ Node.outlineList xs

def Arg.outlineList : List Arg → Outline Place
  | [] => done
  | .plain x :: as | .spread x :: as => x.outline ++ Arg.outlineList as

def Signature.outline : Signature → Outline Place
  | .mk ps none => Param.outlineList ps
  | .mk ps (some rs) => Param.outlineList ps ++ Param.outlineList rs

def Param.outlineList : List Param → Outline Place
  | [] => done
  | .mk _ _ t :: ps => t.outline ++ Param.outlineList ps

def Member.outlineList : List Member → Outline Place
  | [] => done
  | .named _ _ t _ :: ms | .embedded _ t _ :: ms => t.outline ++ Member.outlineList ms

def Element.outlineList : List Element → Outline Place
  | [] => done
  | .method _ t :: es => t.outline ++ Element.outlineList es
  | .embedded t :: es => t.outline ++ Element.outlineList es
  | .union start :: es => Generic.union.outline start ++ Element.outlineList es

def Block.outline : Block → Outline Place
  | .mk ss _ => Stmt.outlineList ss

def Stmt.outline : Stmt → Outline Place
  | .mk k start => node start k.outline

def Stmt.outlineList : List Stmt → Outline Place
  | [] => done
  | x :: xs => x.outline ++ Stmt.outlineList xs

def Stmt.outlineOption : Option Stmt → Outline Place
  | none => done
  | some x => x.outline

/-- What is in a statement. The body of a loop comes before its header, and clauses before theirs. -/
def StmtKind.outline : StmtKind → Outline Place
  | .decl d => d.outline
  | .expr x | .step x _ | .goStmt x | .deferStmt x => x.outline
  | .send x y => x.outline ++ y.outline
  | .assign l _ r => Node.outlineList l ++ Node.outlineList r
  | .receive l _ y => y.outline ++ Node.outlineList l
  | .returnStmt rs => Node.outlineList rs
  | .labeled _ x => Stmt.outlineOption x
  | .branch _ | .empty => done
  | .block b => b.outline
  | .conditional c => c.outline
  | .loop h b => b.outline ++ h.outline
  | .switch i t cs => Clause.outlineList cs ++ (Stmt.outlineOption i ++ Node.outlineOption t)
  | .typeSwitch i ns x cs =>
    x.outline ++ (Node.outlineList ns ++ (Clause.outlineList cs ++ Stmt.outlineOption i))
  | .select cs => CommClause.outlineList cs

def Conditional.outline : Conditional → Outline Place
  | .mk i c b e _ => Else.outlineOption e ++ (Stmt.outlineOption i ++ (c.outline ++ b.outline))

def Else.outlineOption : Option Else → Outline Place
  | none => done
  | some (.block (.mk ss start)) => node start (Stmt.outlineList ss)
  | some (.chain c) => node c.start c.outline

def LoopHeader.outline : LoopHeader → Outline Place
  | .forever => done
  | .while c => c.outline
  | .steps i c p => Stmt.outlineOption i ++ (Node.outlineOption c ++ Stmt.outlineOption p)
  | .over x => x.outline
  | .assigning k more _ x => k.outline ++ (Node.outlineList more ++ x.outline)

def Clause.outlineList : List Clause → Outline Place
  | [] => done
  | .case x xs b _ :: cs =>
    x.outline ++ (Node.outlineList xs ++ (Stmt.outlineList b ++ Clause.outlineList cs))
  | .otherwise b _ :: cs => Stmt.outlineList b ++ Clause.outlineList cs

def CommClause.outlineList : List CommClause → Outline Place
  | [] => done
  | .mk c b _ :: cs => Stmt.outlineOption c ++ (Stmt.outlineList b ++ CommClause.outlineList cs)

def Decl.outline : Decl → Outline Place
  | .value _ x _ => x.outline
  | .values _ xs _ => ValueSpec.outlineList xs
  | .type x _ => x.outline
  | .types xs _ => TypeSpec.outlineList xs

def ValueSpec.outline : ValueSpec → Outline Place
  | .mk _ _ t vs => Node.outlineOption t ++ Node.outlineList vs

def ValueSpec.outlineList : List ValueSpec → Outline Place
  | [] => done
  | x :: xs => x.outline ++ ValueSpec.outlineList xs

def TypeSpec.outline : TypeSpec → Outline Place
  | .mk _ params _ t => typeParamsOutline params ++ t.outline

def TypeSpec.outlineList : List TypeSpec → Outline Place
  | [] => done
  | x :: xs => x.outline ++ TypeSpec.outlineList xs

end

def Param.outlineReceiver : Option (List Param) → Outline Place
  | none => done
  | some ps => Param.outlineList ps

def Block.outlineOption : Option Block → Outline Place
  | none => done
  | some b => b.outline

def Func.outline (f : Func) : Outline Place :=
  typeParamsOutline f.typeParams ++
    (Param.outlineReceiver f.recv ++ (Block.outlineOption f.body ++ f.sig.outline))

/-- An entry at top level. Only declarations may stand there, and they are no level of nesting. -/
def Item.outline : Item → Outline Place
  | .package _ | .importOne _ _ | .imports _ _ => done
  | .func f => f.outline
  | .stmt (.mk (.decl d) _) => d.outline
  | .stmt (.mk kind start) => refusal kind.kindName start

/-! ## What is refused -/

/-- Whether a name is that of a generic construct. -/
def IsGeneric (kind : String) : Prop :=
  ∃ form : Generic, kind = form.kindName

theorem Generic.refuses (form : Generic) (place : Place) : (form.outline place).Refuses IsGeneric :=
  .refusal ⟨form, rfl⟩ place

theorem typeParams_refuses : ∀ params : Option Place, (typeParamsOutline params).Refuses IsGeneric
  | none => .done
  | some place => Generic.refuses _ place

mutual

theorem Node.refuses : ∀ x : Node, x.outline.Refuses IsGeneric
  | .mk k start => .node start (k.refuses start)

theorem NodeKind.refuses (start : Place) : ∀ k : NodeKind, (k.outline start).Refuses IsGeneric
  | .name _ | .literal _ => .done
  | .paren x | .star x | .unary _ x | .openArray x | .sliceOf x | .chan _ x | .select x _ => x.refuses
  | .index x y | .assert x y | .convert x y | .binary x _ y | .keyed x y | .array x y | .map x y =>
    x.refuses.append y.refuses
  | .slice x low high => x.refuses.append ((Node.refusesOption low).append (Node.refusesOption high))
  | .slice3 x low high max =>
    x.refuses.append ((Node.refusesOption low).append (high.refuses.append max.refuses))
  | .call f as => (Arg.refusesList as).append f.refuses
  | .composite t es => t.refuses.append (Node.refusesList es)
  | .braces es => Node.refusesList es
  | .func t b => t.refuses.append b.refuses
  | .struct ms => Member.refusesList ms
  | .interface es => Element.refusesList es
  | .funcType t => t.refuses
  | .generic form bracket => form.refuses (form.place start bracket)

theorem Node.refusesOption : ∀ x : Option Node, (Node.outlineOption x).Refuses IsGeneric
  | none => .done
  | some x => x.refuses

theorem Node.refusesList : ∀ xs : List Node, (Node.outlineList xs).Refuses IsGeneric
  | [] => .done
  | x :: xs => x.refuses.append (Node.refusesList xs)

theorem Arg.refusesList : ∀ as : List Arg, (Arg.outlineList as).Refuses IsGeneric
  | [] => .done
  | .plain x :: as | .spread x :: as => x.refuses.append (Arg.refusesList as)

theorem Signature.refuses : ∀ t : Signature, t.outline.Refuses IsGeneric
  | .mk ps none => Param.refusesList ps
  | .mk ps (some rs) => (Param.refusesList ps).append (Param.refusesList rs)

theorem Param.refusesList : ∀ ps : List Param, (Param.outlineList ps).Refuses IsGeneric
  | [] => .done
  | .mk _ _ t :: ps => t.refuses.append (Param.refusesList ps)

theorem Member.refusesList : ∀ ms : List Member, (Member.outlineList ms).Refuses IsGeneric
  | [] => .done
  | .named _ _ t _ :: ms | .embedded _ t _ :: ms => t.refuses.append (Member.refusesList ms)

theorem Element.refusesList : ∀ es : List Element, (Element.outlineList es).Refuses IsGeneric
  | [] => .done
  | .method _ t :: es => t.refuses.append (Element.refusesList es)
  | .embedded t :: es => t.refuses.append (Element.refusesList es)
  | .union start :: es => (Generic.union.refuses start).append (Element.refusesList es)

theorem Block.refuses : ∀ b : Block, b.outline.Refuses IsGeneric
  | .mk ss _ => Stmt.refusesList ss

theorem Stmt.refuses : ∀ x : Stmt, x.outline.Refuses IsGeneric
  | .mk k start => .node start k.refuses

theorem Stmt.refusesList : ∀ ss : List Stmt, (Stmt.outlineList ss).Refuses IsGeneric
  | [] => .done
  | x :: xs => x.refuses.append (Stmt.refusesList xs)

theorem Stmt.refusesOption : ∀ x : Option Stmt, (Stmt.outlineOption x).Refuses IsGeneric
  | none => .done
  | some x => x.refuses

theorem StmtKind.refuses : ∀ k : StmtKind, k.outline.Refuses IsGeneric
  | .decl d => d.refuses
  | .expr x | .step x _ | .goStmt x | .deferStmt x => x.refuses
  | .send x y => x.refuses.append y.refuses
  | .assign l _ r => (Node.refusesList l).append (Node.refusesList r)
  | .receive l _ y => y.refuses.append (Node.refusesList l)
  | .returnStmt rs => Node.refusesList rs
  | .labeled _ x => Stmt.refusesOption x
  | .branch _ | .empty => .done
  | .block b => b.refuses
  | .conditional c => c.refuses
  | .loop h b => b.refuses.append h.refuses
  | .switch i t cs => (Clause.refusesList cs).append ((Stmt.refusesOption i).append (Node.refusesOption t))
  | .typeSwitch i ns x cs =>
    x.refuses.append ((Node.refusesList ns).append ((Clause.refusesList cs).append (Stmt.refusesOption i)))
  | .select cs => CommClause.refusesList cs

theorem Conditional.refuses : ∀ c : Conditional, c.outline.Refuses IsGeneric
  | .mk i c b e _ =>
    (Else.refusesOption e).append ((Stmt.refusesOption i).append (c.refuses.append b.refuses))

theorem Else.refusesOption : ∀ e : Option Else, (Else.outlineOption e).Refuses IsGeneric
  | none => .done
  | some (.block (.mk ss start)) => .node start (Stmt.refusesList ss)
  | some (.chain c) => .node c.start c.refuses

theorem LoopHeader.refuses : ∀ h : LoopHeader, h.outline.Refuses IsGeneric
  | .forever => .done
  | .while c => c.refuses
  | .steps i c p => (Stmt.refusesOption i).append ((Node.refusesOption c).append (Stmt.refusesOption p))
  | .over x => x.refuses
  | .assigning k more _ x => k.refuses.append ((Node.refusesList more).append x.refuses)

theorem Clause.refusesList : ∀ cs : List Clause, (Clause.outlineList cs).Refuses IsGeneric
  | [] => .done
  | .case x xs b _ :: cs =>
    x.refuses.append ((Node.refusesList xs).append ((Stmt.refusesList b).append (Clause.refusesList cs)))
  | .otherwise b _ :: cs => (Stmt.refusesList b).append (Clause.refusesList cs)

theorem CommClause.refusesList : ∀ cs : List CommClause, (CommClause.outlineList cs).Refuses IsGeneric
  | [] => .done
  | .mk c b _ :: cs => (Stmt.refusesOption c).append ((Stmt.refusesList b).append (CommClause.refusesList cs))

theorem Decl.refuses : ∀ d : Decl, d.outline.Refuses IsGeneric
  | .value _ x _ => x.refuses
  | .values _ xs _ => ValueSpec.refusesList xs
  | .type x _ => x.refuses
  | .types xs _ => TypeSpec.refusesList xs

theorem ValueSpec.refuses : ∀ x : ValueSpec, x.outline.Refuses IsGeneric
  | .mk _ _ t vs => (Node.refusesOption t).append (Node.refusesList vs)

theorem ValueSpec.refusesList : ∀ xs : List ValueSpec, (ValueSpec.outlineList xs).Refuses IsGeneric
  | [] => .done
  | x :: xs => x.refuses.append (ValueSpec.refusesList xs)

theorem TypeSpec.refuses : ∀ x : TypeSpec, x.outline.Refuses IsGeneric
  | .mk _ params _ t => (typeParams_refuses params).append t.refuses

theorem TypeSpec.refusesList : ∀ xs : List TypeSpec, (TypeSpec.outlineList xs).Refuses IsGeneric
  | [] => .done
  | x :: xs => x.refuses.append (TypeSpec.refusesList xs)

end

theorem Func.refuses (f : Func) : f.outline.Refuses IsGeneric := by
  have hrecv : (Param.outlineReceiver f.recv).Refuses IsGeneric := by
    cases f.recv with
    | none => exact .done
    | some ps => exact Param.refusesList ps
  have hbody : (Block.outlineOption f.body).Refuses IsGeneric := by
    cases f.body with
    | none => exact .done
    | some b => exact b.refuses
  exact (typeParams_refuses _).append (hrecv.append (hbody.append f.sig.refuses))

/-- The statement that an item is, if it is not a declaration. -/
def Item.stray? : Item → Option StmtKind
  | .stmt (.mk (.decl _) _) => none
  | .stmt (.mk kind _) => some kind
  | _ => none

/-- In an item generic constructs are refused, and the item itself if it is a statement but no declaration. -/
theorem Item.refuses (i : Item) :
    i.outline.Refuses fun kind => IsGeneric kind ∨ ∃ x, i.stray? = some x ∧ kind = x.kindName := by
  cases i with
  | package n => exact .done
  | importOne i start => exact .done
  | imports is start => exact .done
  | func f => exact f.refuses.mono fun _ => .inl
  | stmt x =>
    obtain ⟨k, start⟩ := x
    cases k with
    | decl d => exact d.refuses.mono fun _ => .inl
    | _ => exact .refusal (.inr ⟨_, rfl, rfl⟩) start

end GoRebuild.Grammar

/-! ## Readings along an outline -/

namespace GoRebuild

/-- The failure of a pass as reading tells it. -/
def Stop.readError (s : Setting) : Stop Lexical.Place → ReadError
  | .refused kind place => .unsupported kind (s.pos place)
  | .tooDeep place => .tooDeep s.limit (s.pos place)

namespace Reading
open Outline
open Lexical (Place)

variable {α β : Type} {s : Setting} {act : Reading α} {o p : Outline Place}

/-- At every depth a reading succeeds if a walk along an outline does, and fails as the walk does. -/
def Follows (s : Setting) (act : Reading α) (o : Outline Place) : Prop :=
  ∀ depth, (act depth).map (fun _ => ()) = (o.walk s.limit depth).mapError (Stop.readError s)

theorem Follows.pure (x : α) : Follows s (pure x) done := fun _ => rfl

theorem Follows.refuse (kind : String) (place : Place) (o : Outline Place) :
    Follows s (refuse s kind place : Reading α) (refusal kind place ++ o) := fun _ => rfl

theorem Follows.bind (h : Follows s act o) {k : α → Reading β} (hk : ∀ x, Follows s (k x) p) :
    Follows s (act >>= k) (o ++ p) := by
  intro depth
  have hact := h depth
  rw [walk_append]
  change (act depth >>= fun x => k x depth).map _ = _
  cases hx : act depth with
  | ok x =>
    rw [hx] at hact
    cases hwalk : o.walk s.limit depth with
    | ok u => exact hk x depth
    | error stop =>
      rw [hwalk] at hact
      cases hact
  | error e =>
    rw [hx] at hact
    cases hwalk : o.walk s.limit depth with
    | ok u =>
      rw [hwalk] at hact
      cases hact
    | error stop =>
      rw [hwalk] at hact
      exact hact

/-- A step whose result is only passed on. -/
theorem Follows.map (h : Follows s act o) (f : α → β) : Follows s (act >>= fun x => Pure.pure (f x)) o := by
  have hbind := h.bind fun x => Follows.pure (f x)
  rwa [append_done] at hbind

theorem Follows.visit (start : Place) (h : Follows s act o) : Follows s (visit s start act) (node start o) := by
  intro depth
  rw [walk_node]
  unfold Reading.visit
  split
  · rfl
  · exact h (depth + 1)

end Reading

namespace Grammar
open Outline Reading

variable (s : Setting)

mutual

theorem Node.follows_read : ∀ x : Node, Follows s (x.read s) x.outline
  | .mk k p => .visit p ((k.follows_read p).map _)

theorem NodeKind.follows_read (start : Lexical.Place) : ∀ k : NodeKind, Follows s (k.read s start) (k.outline start)
  | .name _ => .pure _
  | .literal _ => .pure _
  | .paren x => x.follows_read.map _
  | .select x _ => x.follows_read.map _
  | .index x i => x.follows_read.bind fun _ => i.follows_read.map _
  | .slice x low high =>
    x.follows_read.bind fun _ => (readOption_follows low).bind fun _ => (readOption_follows high).map _
  | .slice3 x low high max =>
    x.follows_read.bind fun _ => (readOption_follows low).bind fun _ => high.follows_read.bind fun _ =>
      max.follows_read.map _
  | .assert x t => x.follows_read.bind fun _ => t.follows_read.map _
  | .call f as => (readArgs_follows as).bind fun _ => f.follows_read.map _
  | .convert t x => t.follows_read.bind fun _ => x.follows_read.map _
  | .star x => x.follows_read.map _
  | .unary _ x => x.follows_read.map _
  | .binary x _ y => x.follows_read.bind fun _ => y.follows_read.map _
  | .composite t es => t.follows_read.bind fun _ => (readAll_follows es).map _
  | .braces es => (readAll_follows es).map _
  | .keyed k v => k.follows_read.bind fun _ => v.follows_read.map _
  | .func t b => t.follows_read.bind fun _ => b.follows_read.map _
  | .array n t => n.follows_read.bind fun _ => t.follows_read.map _
  | .openArray t => t.follows_read.map _
  | .sliceOf t => t.follows_read.map _
  | .struct ms => (readMembers_follows ms).map _
  | .interface es => (readElements_follows es).map _
  | .map k v => k.follows_read.bind fun _ => v.follows_read.map _
  | .chan _ v => v.follows_read.map _
  | .funcType t => t.follows_read.map _
  | .generic form bracket => .refuse _ (form.place start bracket) done

theorem readOption_follows : ∀ x : Option Node, Follows s (readOption s x) (Node.outlineOption x)
  | none => .pure _
  | some x => x.follows_read.map _

theorem readAll_follows : ∀ xs : List Node, Follows s (readAll s xs) (Node.outlineList xs)
  | [] => .pure _
  | x :: xs => x.follows_read.bind fun _ => (readAll_follows xs).map _

theorem readArgs_follows : ∀ as : List Arg, Follows s (readArgs s as) (Arg.outlineList as)
  | [] => .pure _
  | .plain x :: as => x.follows_read.bind fun _ => (readArgs_follows as).map _
  | .spread x :: as => x.follows_read.bind fun _ => (readArgs_follows as).map _

theorem Signature.follows_read : ∀ t : Signature, Follows s (t.read s) t.outline
  | .mk ps none => (readParams_follows ps).map _
  | .mk ps (some rs) => (readParams_follows ps).bind fun _ => (readParams_follows rs).map _

theorem readParams_follows : ∀ ps : List Param, Follows s (readParams s ps) (Param.outlineList ps)
  | [] => .pure _
  | .mk _ none t :: ps => t.follows_read.bind fun _ => (readParams_follows ps).map _
  | .mk _ (some _) t :: ps => t.follows_read.bind fun _ => (readParams_follows ps).map _

theorem readMembers_follows : ∀ ms : List Member, Follows s (readMembers s ms) (Member.outlineList ms)
  | [] => .pure _
  | .named _ _ t _ :: ms => t.follows_read.bind fun _ => (readMembers_follows ms).map _
  | .embedded none t _ :: ms => t.follows_read.bind fun _ => (readMembers_follows ms).map _
  | .embedded (some _) t _ :: ms => t.follows_read.bind fun _ => (readMembers_follows ms).map _

theorem readElements_follows : ∀ es : List Element, Follows s (readElements s es) (Element.outlineList es)
  | [] => .pure _
  | .method _ t :: es => t.follows_read.bind fun _ => (readElements_follows es).map _
  | .embedded t :: es => t.follows_read.bind fun _ => (readElements_follows es).map _
  | .union start :: _ => .refuse _ start _

theorem Block.follows_read : ∀ b : Block, Follows s (b.read s) b.outline
  | .mk ss _ => (readStmts_follows ss).map _

theorem Stmt.follows_read : ∀ x : Stmt, Follows s (x.read s) x.outline
  | .mk k p => .visit p ((k.follows_read p).map _)

theorem readStmts_follows : ∀ ss : List Stmt, Follows s (readStmts s ss) (Stmt.outlineList ss)
  | [] => .pure _
  | x :: xs => x.follows_read.bind fun _ => (readStmts_follows xs).map _

theorem readStmt?_follows : ∀ x : Option Stmt, Follows s (readStmt? s x) (Stmt.outlineOption x)
  | none => .pure _
  | some x => x.follows_read.map _

theorem StmtKind.follows_read (start : Lexical.Place) : ∀ k : StmtKind, Follows s (k.read s start) k.outline
  | .decl d => (d.follows_read start).map _
  | .expr x => x.follows_read.map _
  | .send x y => x.follows_read.bind fun _ => y.follows_read.map _
  | .step x _ => x.follows_read.map _
  | .assign l _ r => (readAll_follows l).bind fun _ => (readAll_follows r).map _
  | .receive l _ y => y.follows_read.bind fun _ => (readAll_follows l).map _
  | .returnStmt rs => (readAll_follows rs).map _
  | .goStmt x => x.follows_read.map _
  | .deferStmt x => x.follows_read.map _
  | .labeled _ none => .pure _
  | .labeled _ (some x) => x.follows_read.map _
  | .branch _ => .pure _
  | .block (.mk ss _) => (readStmts_follows ss).map _
  | .empty => .pure _
  | .conditional c => c.follows_read
  | .loop h b => b.follows_read.bind fun _ => h.follows_read _
  | .switch i t cs =>
    (readClauses_follows cs).bind fun _ => (readStmt?_follows i).bind fun _ => (readOption_follows t).map _
  | .typeSwitch i ns x cs =>
    x.follows_read.bind fun _ => (readAll_follows ns).bind fun _ => (readClauses_follows cs).bind fun _ =>
      (readStmt?_follows i).map _
  | .select cs => (readCommClauses_follows cs).map _

theorem Conditional.follows_read : ∀ c : Conditional, Follows s (c.read s) c.outline
  | .mk i c b e _ =>
    (readElse_follows e).bind fun _ => (readStmt?_follows i).bind fun _ => c.follows_read.bind fun _ =>
      b.follows_read.map _

theorem readElse_follows : ∀ e : Option Else, Follows s (readElse s e) (Else.outlineOption e)
  | none => .pure _
  | some (.block (.mk ss p)) => .visit p ((readStmts_follows ss).map _)
  | some (.chain c) => .visit c.start (c.follows_read.map _)

theorem LoopHeader.follows_read (body : GoRebuild.Block) : ∀ h : LoopHeader, Follows s (h.read s body) h.outline
  | .forever => .pure _
  | .while c => c.follows_read.map _
  | .steps i c p =>
    (readStmt?_follows i).bind fun _ => (readOption_follows c).bind fun _ => (readStmt?_follows p).map _
  | .over x => x.follows_read.map _
  | .assigning k more _ x =>
    k.follows_read.bind fun _ => (readAll_follows more).bind fun _ => x.follows_read.map _

theorem readClauses_follows : ∀ cs : List Clause, Follows s (readClauses s cs) (Clause.outlineList cs)
  | [] => .pure _
  | .case x xs b _ :: cs =>
    x.follows_read.bind fun _ => (readAll_follows xs).bind fun _ => (readStmts_follows b).bind fun _ =>
      (readClauses_follows cs).map _
  | .otherwise b _ :: cs => (readStmts_follows b).bind fun _ => (readClauses_follows cs).map _

theorem readCommClauses_follows : ∀ cs : List CommClause, Follows s (readCommClauses s cs) (CommClause.outlineList cs)
  | [] => .pure _
  | .mk c b _ :: cs =>
    (readStmt?_follows c).bind fun _ => (readStmts_follows b).bind fun _ => (readCommClauses_follows cs).map _

theorem Decl.follows_read (start : Lexical.Place) : ∀ d : Decl, Follows s (d.read s start) d.outline
  | .value _ x _ => x.follows_read.map _
  | .values _ xs _ => (readValueSpecs_follows xs).map _
  | .type x _ => x.follows_read.map _
  | .types xs _ => (readTypeSpecs_follows xs).map _

theorem ValueSpec.follows_read : ∀ x : ValueSpec, Follows s (x.read s) x.outline
  | .mk _ _ t vs => (readOption_follows t).bind fun _ => (readAll_follows vs).map _

theorem readValueSpecs_follows : ∀ xs : List ValueSpec, Follows s (readValueSpecs s xs) (ValueSpec.outlineList xs)
  | [] => .pure _
  | x :: xs => x.follows_read.bind fun _ => (readValueSpecs_follows xs).map _

theorem TypeSpec.follows_read : ∀ x : TypeSpec, Follows s (x.read s) x.outline
  | .mk _ (some params) _ _ => .refuse _ params _
  | .mk _ none _ t => t.follows_read.map _

theorem readTypeSpecs_follows : ∀ xs : List TypeSpec, Follows s (readTypeSpecs s xs) (TypeSpec.outlineList xs)
  | [] => .pure _
  | x :: xs => x.follows_read.bind fun _ => (readTypeSpecs_follows xs).map _

end

theorem Func.follows_read (f : Func) : Follows s (f.read s) f.outline := by
  obtain ⟨recv, n, params, sig, body, start⟩ := f
  unfold Func.read
  cases params with
  | some p => exact .refuse _ p _
  | none =>
    have hrecv : Follows s (recv.mapM (readParams s)) (Param.outlineReceiver recv) := by
      cases recv with
      | none => exact .pure _
      | some ps => exact (readParams_follows s ps).map _
    have hbody : Follows s (body.mapM (Block.read s)) (Block.outlineOption body) := by
      cases body with
      | none => exact .pure _
      | some b => exact (b.follows_read s).map _
    exact hrecv.bind fun _ => hbody.bind fun _ => (sig.follows_read s).map _

theorem Item.follows_read (i : Item) : Follows s (i.read s) i.outline := by
  cases i with
  | package n => exact .pure _
  | importOne i start => exact .pure _
  | imports is start => exact .pure _
  | func f => exact (f.follows_read s).map _
  | stmt x =>
    obtain ⟨k, p⟩ := x
    cases k with
    | decl d => exact (d.follows_read s p).map _
    | _ => exact .refuse _ _ done

end Grammar

end GoRebuild
