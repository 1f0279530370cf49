import GoRebuild.Proofs.Grammar.Ordered
import GoRebuild.Proofs.Parse.Places

/-!
# Derivations of trees in place

A derivation of a tree whose nodes are where the parser says, each behind the start of the one before it, is in order:
`Node.Derives.ordered`, `Stmt.Derives.ordered`, `Decl.Derives.ordered`, `FileDerives.ordered` and the rest.
-/

namespace GoRebuild.Grammar
open Lexical (Place)
open Parse (InOrder)
open Text

section
variable {source : String} {pos : Place → Pos} (hsize : source.utf8ByteSize < 2 ^ 32)
include hsize

theorem Name.Derives.ordered {n : Name} {t : Parse.Node} {lo : Nat} (h : n.Derives pos t)
    (ht : t.Located (utf8 source.toList) lo) : (pos n.place).Ordered (Pos.IsReal source) lo :=
  ht.at hsize h.2

theorem Name.AllDerive.ordered {ns : List Name} {ts : List Parse.Node} {lo : Nat} (h : Name.AllDerive pos ns ts)
    (hts : InOrder (utf8 source.toList) lo ts) : Name.AllOrdered (Pos.IsReal source) pos lo ns := by
  induction h generalizing lo with
  | nil => trivial
  | cons hn _ ih => exact ⟨hn.ordered hsize hts.1, ih (hts.tail hsize hn.2)⟩

omit hsize in
theorem Node.Derives.pos_start {x : Node} {t : Parse.Node} (h : x.Derives pos t) : t.pos = pos x.start := by
  cases x
  exact h.1

omit hsize in
theorem Stmt.Derives.pos_start {x : Stmt} {t : Parse.Node} (h : x.Derives pos t) : t.pos = pos x.start := by
  cases x
  exact h.1

/-! ## Expressions, statements and declarations -/

set_option linter.unusedSectionVars false in
mutual

theorem Node.Derives.ordered : ∀ {x : Node} {t : Parse.Node} {lo : Nat}, x.Derives pos t →
    t.Located (utf8 source.toList) lo → x.Ordered (Pos.IsReal source) pos lo
  | .mk k p, t, lo, ⟨hp, hk⟩, ht => by
    have hself := ht.self hsize hp
    refine ⟨ht.at hsize hp, ?_⟩
    rcases hk with hk | ⟨-, c, hparts, -, hk⟩
    · exact hk.ordered hself
    · exact hk.ordered (hself.only hparts)
termination_by structural x => x

theorem NodeKind.Derives.ordered : ∀ {k : NodeKind} {t : Parse.Node} {lo : Nat}, k.Derives pos t →
    t.Located (utf8 source.toList) lo → k.Ordered (Pos.IsReal source) pos lo
  | .name _, _, _, _, _ => trivial
  | .literal _, _, _, _, _ => trivial
  | .paren _, _, _, ⟨_, _, hparts, hx⟩, ht => hx.ordered (ht.only hparts)
  | .select _ _, _, _, .inl ⟨_, _, _, hs, hx, hm⟩, ht =>
    ⟨hx.ordered (ht.field hs (by simp)), hm.ordered hsize (ht.field hs (by simp))⟩
  | .select _ _, _, _, .inr ⟨_, _, _, hs, hx, hm⟩, ht =>
    ⟨hx.ordered (ht.field hs (by simp)), hm.ordered hsize (ht.field hs (by simp))⟩
  | .index _ _, _, _, ⟨_, _, _, hs, hx, hy⟩, ht =>
    ⟨hx.ordered (ht.field hs (by simp)), hy.ordered (ht.field hs (by simp))⟩
  | .slice _ _ _, _, _, ⟨_, _, _, _, _, hs, hx, hlow, hhigh⟩, ht =>
    ⟨hx.ordered (ht.field hs (by simp)), hlow.ordered (ht.option hs (by simp)), hhigh.ordered (ht.option hs (by simp))⟩
  | .slice3 _ _ _ _, _, _, ⟨_, _, _, _, _, _, hs, hx, hlow, hhigh, hmax⟩, ht =>
    ⟨hx.ordered (ht.field hs (by simp)), hlow.ordered (ht.option hs (by simp)), hhigh.ordered (ht.field hs (by simp)),
      hmax.ordered (ht.field hs (by simp))⟩
  | .assert _ _, _, _, ⟨_, _, _, hs, hx, hy⟩, ht =>
    ⟨hx.ordered (ht.field hs (by simp)), hy.ordered (ht.field hs (by simp))⟩
  | .call _ _, _, _, ⟨_, _, _, _, hs, _, hf, has⟩, ht =>
    ⟨hf.ordered (ht.field hs (by simp)), has.ordered (ht.field hs (by simp)).parts⟩
  | .convert _ _, _, _, ⟨_, _, _, hs, hx, hy⟩, ht =>
    ⟨hx.ordered (ht.field hs (by simp)), hy.ordered (ht.field hs (by simp))⟩
  | .star _, _, _, .inl ⟨_, _, hparts, hx⟩, ht => hx.ordered (ht.only hparts)
  | .star _, _, _, .inr ⟨_, _, _, _, _, hs, hx⟩, ht => hx.ordered (ht.field hs (by simp))
  | .unary _ _, _, _, ⟨_, _, _, _, _, hs, hx⟩, ht => hx.ordered (ht.field hs (by simp))
  | .binary _ _ _, _, _, ⟨_, _, _, _, _, _, hs, hx, hy⟩, ht =>
    ⟨hx.ordered (ht.field hs (by simp)), hy.ordered (ht.field hs (by simp))⟩
  | .composite _ _, _, _, ⟨_, _, _, hs, _, hty, hes⟩, ht =>
    ⟨hty.ordered (ht.field hs (by simp)), hes.ordered (ht.field hs (by simp)).parts⟩
  | .braces _, _, _, ⟨_, hes⟩, ht => hes.ordered ht.parts
  | .keyed _ _, _, _, ⟨_, _, _, hs, hx, hy⟩, ht =>
    ⟨hx.ordered (ht.field hs (by simp)), hy.ordered (ht.field hs (by simp))⟩
  | .func _ _, _, _, ⟨_, _, _, _, hs, hsig, hbody⟩, ht =>
    ⟨hsig.ordered (ht.field hs (by simp)) (ht.option hs (by simp)), hbody.ordered (ht.field hs (by simp))⟩
  | .array _ _, _, _, ⟨_, _, _, hs, hx, hy⟩, ht =>
    ⟨hx.ordered (ht.field hs (by simp)), hy.ordered (ht.field hs (by simp))⟩
  | .openArray _, _, _, ⟨_, _, hs, hx⟩, ht => hx.ordered (ht.field hs (by simp))
  | .sliceOf _, _, _, ⟨_, _, hs, hx⟩, ht => hx.ordered (ht.field hs (by simp))
  | .struct _, _, _, ⟨_, _, hparts, _, hms⟩, ht => hms.ordered (ht.only hparts).parts
  | .interface _, _, _, ⟨_, hes⟩, ht => hes.ordered ht.parts
  | .map _ _, _, _, ⟨_, _, _, hs, hx, hy⟩, ht =>
    ⟨hx.ordered (ht.field hs (by simp)), hy.ordered (ht.field hs (by simp))⟩
  | .chan _ _, _, _, ⟨_, _, _, hs, hx⟩, ht => hx.ordered (ht.field hs (by simp))
  | .funcType _, _, _, ⟨_, _, _, hs, hsig⟩, ht => hsig.ordered (ht.field hs (by simp)) (ht.option hs (by simp))
  | .generic _ _, _, _, _, _ => trivial
termination_by structural k => k

theorem Node.OptionDerives.ordered : ∀ {x : Option Node} {o : Option Parse.Node} {lo : Nat}, Node.OptionDerives pos x o →
    (∀ c ∈ o, c.Located (utf8 source.toList) lo) → Node.OptionOrdered (Pos.IsReal source) pos lo x
  | none, _, _, _, _ => trivial
  | some _, _, _, ⟨c, hc, hx⟩, ho => hx.ordered (ho c hc)
termination_by structural x => x

theorem Node.AllDerive.ordered : ∀ {xs : List Node} {ts : List Parse.Node} {lo : Nat}, Node.AllDerive pos xs ts →
    InOrder (utf8 source.toList) lo ts → Node.AllOrdered (Pos.IsReal source) pos lo xs
  | [], _, _, _, _ => trivial
  | _ :: _, _, _, ⟨_, _, rfl, hx, hxs⟩, hts => ⟨hx.ordered hts.1, hxs.ordered (hts.tail hsize hx.pos_start)⟩
termination_by structural xs => xs

/-- Expressions that are one node. -/
theorem Node.ListDerives.ordered : ∀ {xs : List Node} {t : Parse.Node} {lo : Nat}, Node.ListDerives pos xs t →
    t.Located (utf8 source.toList) lo → Node.AllOrdered (Pos.IsReal source) pos lo xs
  | [], _, _, _, _ => trivial
  | _ :: _, _, _, ⟨_, _, _, _, hparts, hx, hxs⟩, ht =>
    have hts := hparts ▸ ht.parts
    ⟨hx.ordered hts.1, hxs.ordered (hts.tail hsize hx.pos_start)⟩
termination_by structural xs => xs

theorem Node.ListDerives?.ordered : ∀ {xs : List Node} {o : Option Parse.Node} {lo : Nat}, Node.ListDerives? pos xs o →
    (∀ c ∈ o, c.Located (utf8 source.toList) lo) → Node.AllOrdered (Pos.IsReal source) pos lo xs
  | [], _, _, _, _ => trivial
  | _ :: _, _, _, ⟨l, hl, _, _, _, _, hparts, hx, hxs⟩, ho =>
    have hts := hparts ▸ (ho l hl).parts
    ⟨hx.ordered hts.1, hxs.ordered (hts.tail hsize hx.pos_start)⟩
termination_by structural xs => xs

theorem Arg.AllDerive.ordered : ∀ {as : List Arg} {ts : List Parse.Node} {lo : Nat}, Arg.AllDerive pos as ts →
    InOrder (utf8 source.toList) lo ts → Arg.AllOrdered (Pos.IsReal source) pos lo as
  | [], _, _, _, _ => trivial
  | .plain _ :: _, _, _, ⟨_, _, rfl, hx, has⟩, hts => ⟨hx.ordered hts.1, has.ordered (hts.tail hsize hx.pos_start)⟩
  | .spread _ :: _, _, _, ⟨_, _, _, rfl, _, hpos, hparts, hx, has⟩, hts =>
    ⟨hx.ordered (hts.1.only hparts), has.ordered (hts.tail hsize hpos)⟩
termination_by structural as => as

theorem Signature.Derives.ordered : ∀ {x : Signature} {t : Parse.Node} {r : Option Parse.Node} {lo : Nat},
    x.Derives pos t r → t.Located (utf8 source.toList) lo → (∀ c ∈ r, c.Located (utf8 source.toList) lo) →
      x.Ordered (Pos.IsReal source) pos lo
  | .mk _ none, _, _, _, ⟨_, hps, _⟩, ht, _ => hps.ordered ht.parts
  | .mk _ (some _), _, _, _, ⟨_, hps, c, hc, .inl ⟨_, hrs⟩⟩, ht, hr => ⟨hps.ordered ht.parts, hrs.ordered (hr c hc).parts⟩
  | .mk _ (some _), _, _, _, ⟨_, hps, c, hc, .inr hrs⟩, ht, hr => ⟨hps.ordered ht.parts, hrs.ordered (hr c hc)⟩
termination_by structural x => x

/-- The type of a parameter stands behind its first name, or its dots. -/
theorem Param.AllDerive.ordered : ∀ {ps : List Param} {ts : List Parse.Node} {lo : Nat}, Param.AllDerive pos ps ts →
    InOrder (utf8 source.toList) lo ts → Param.AllOrdered (Pos.IsReal source) pos lo ps
  | [], _, _, _, _ => trivial
  | .mk (_ :: _) _ _ :: _, _, _, ⟨_, _, _, _, rfl, _, hpos, hparts, _, _, hns, hty, hps⟩, hts =>
    ⟨⟨hns.ordered hsize (hparts ▸ hts.1.parts).left, hty.ordered ((hts.1.self hsize hpos).part (by simp [hparts]))⟩,
      hps.ordered (hts.tail hsize hpos)⟩
  | .mk [] (some _) _ :: _, _, _, ⟨_, _, _, _, rfl, _, hpos, hparts, _, _, _, hty, hps⟩, hts =>
    ⟨⟨hts.1.at hsize hpos, hty.ordered ((hts.1.self hsize hpos).part (by simp [hparts]))⟩, hps.ordered (hts.tail hsize hpos)⟩
  | .mk [] none _ :: _, _, _, ⟨_, _, _, _, rfl, _, hpos, hparts, _, _, _, hty, hps⟩, hts =>
    ⟨hty.ordered (hts.1.part (by simp [hparts])), hps.ordered (hts.tail hsize hpos)⟩
termination_by structural ps => ps

theorem Param.AloneDerives.ordered : ∀ {ps : List Param} {t : Parse.Node} {lo : Nat}, Param.AloneDerives pos ps t →
    t.Located (utf8 source.toList) lo → Param.AllOrdered (Pos.IsReal source) pos lo ps
  | [.mk [] none _], _, _, h, ht => ⟨Node.Derives.ordered h ht, trivial⟩
  | [], _, _, h, _ => h.elim
  | .mk (_ :: _) _ _ :: _, _, _, h, _ => h.elim
  | .mk [] (some _) _ :: _, _, _, h, _ => h.elim
  | .mk [] none _ :: _ :: _, _, _, h, _ => h.elim
termination_by structural ps => ps

theorem Member.AllDerive.ordered : ∀ {ms : List Member} {ts : List Parse.Node} {lo : Nat}, Member.AllDerive pos ms ts →
    InOrder (utf8 source.toList) lo ts → Member.AllOrdered (Pos.IsReal source) pos lo ms
  | [], _, _, _, _ => trivial
  | .named _ _ _ _ :: _, _, _, ⟨_, _, _, _, _, rfl, _, hpos, hparts, _, _, _, hns, hty, _, hms⟩, hts =>
    ⟨⟨hns.ordered hsize (hparts ▸ hts.1.parts).left, hty.ordered ((hts.1.self hsize hpos).part (by simp [hparts]))⟩,
      hms.ordered (hts.tail hsize hpos)⟩
  | .embedded (some _) _ _ :: _, _, _, ⟨_, _, _, _, rfl, _, hpos, hs, _, _, hty, _, hms⟩, hts =>
    ⟨⟨hts.1.at hsize hpos, hty.ordered ((hts.1.self hsize hpos).field hs (by simp))⟩, hms.ordered (hts.tail hsize hpos)⟩
  | .embedded none _ _ :: _, _, _, ⟨_, _, _, _, rfl, _, hpos, hs, _, _, hty, _, hms⟩, hts =>
    ⟨hty.ordered (hts.1.field hs (by simp)), hms.ordered (hts.tail hsize hpos)⟩
termination_by structural ms => ms

theorem Element.AllDerive.ordered : ∀ {es : List Element} {ts : List Parse.Node} {lo : Nat}, Element.AllDerive pos es ts →
    InOrder (utf8 source.toList) lo ts → Element.AllOrdered (Pos.IsReal source) pos lo es
  | [], _, _, _, _ => trivial
  | .method _ _ :: _, _, _, ⟨_, _, _, _, _, rfl, _, hpos, hs, _, hsig, hes⟩, hts =>
    have hself := hts.1.self hsize hpos
    ⟨⟨hts.1.at hsize hpos, hsig.ordered (hself.field hs (by simp)) (hself.option hs (by simp))⟩,
      hes.ordered (hts.tail hsize hpos)⟩
  | .embedded _ :: _, _, _, ⟨_, _, _, rfl, _, hpos, hparts, hty, hes⟩, hts =>
    ⟨hty.ordered (hts.1.only hparts), hes.ordered (hts.tail hsize hpos)⟩
  | .union _ :: _, _, _, ⟨_, _, rfl, _, hpos, _, hes⟩, hts => ⟨hts.1.at hsize hpos, hes.ordered (hts.tail hsize hpos)⟩
termination_by structural es => es

theorem Block.Derives.ordered : ∀ {b : Block} {t : Parse.Node} {lo : Nat}, b.Derives pos t →
    t.Located (utf8 source.toList) lo → b.Ordered (Pos.IsReal source) pos lo
  | .mk _ _, _, _, ⟨_, hpos, hrow⟩, ht => ⟨ht.at hsize hpos, hrow.ordered (ht.self hsize hpos).parts⟩
termination_by structural b => b

/-- The statements of a row are the parts of one node. -/
theorem Stmt.RowDerives.ordered : ∀ {ss : List Stmt} {ts : List Parse.Node} {lo : Nat}, Stmt.RowDerives pos ss ts →
    InOrder (utf8 source.toList) lo ts → Stmt.AllOrdered (Pos.IsReal source) pos lo ss
  | [], _, _, _, _ => trivial
  | _ :: _, _, _, ⟨_, _, _, rfl, _, hparts, hx, hxs⟩, hts =>
    have hrow := hparts ▸ hts.1.parts
    ⟨hx.ordered hrow.1, hxs.ordered (hrow.tail hsize hx.pos_start)⟩
termination_by structural ss => ss

theorem Stmt.AllDerive.ordered : ∀ {ss : List Stmt} {ts : List Parse.Node} {lo : Nat}, Stmt.AllDerive pos ss ts →
    InOrder (utf8 source.toList) lo ts → Stmt.AllOrdered (Pos.IsReal source) pos lo ss
  | [], _, _, _, _ => trivial
  | _ :: _, _, _, ⟨_, _, rfl, hx, hxs⟩, hts => ⟨hx.ordered hts.1, hxs.ordered (hts.tail hsize hx.pos_start)⟩
termination_by structural ss => ss

theorem Stmt.Derives.ordered : ∀ {x : Stmt} {t : Parse.Node} {lo : Nat}, x.Derives pos t →
    t.Located (utf8 source.toList) lo → x.Ordered (Pos.IsReal source) pos lo
  | .mk _ _, _, _, ⟨hp, hk⟩, ht => ⟨ht.at hsize hp, hk.ordered (ht.self hsize hp)⟩
termination_by structural x => x

theorem Stmt.OptionDerives.ordered : ∀ {x : Option Stmt} {o : Option Parse.Node} {lo : Nat}, Stmt.OptionDerives pos x o →
    (∀ c ∈ o, c.Located (utf8 source.toList) lo) → Stmt.OptionOrdered (Pos.IsReal source) pos lo x
  | none, _, _, _, _ => trivial
  | some _, _, _, ⟨c, hc, hx⟩, ho => hx.ordered (ho c hc)
termination_by structural x => x

theorem StmtKind.Derives.ordered : ∀ {k : StmtKind} {t : Parse.Node} {lo : Nat}, k.Derives pos t →
    t.Located (utf8 source.toList) lo → k.Ordered (Pos.IsReal source) pos lo
  | .decl _, _, _, hd, ht => Decl.Derives.ordered hd ht
  | .expr _, _, _, .inl ⟨_, _, hparts, hx⟩, ht => hx.ordered (ht.only hparts)
  | .expr _, _, _, .inr ⟨_, _, hs, hx⟩, ht => hx.ordered (ht.field hs (by simp))
  | .send _ _, _, _, ⟨_, _, _, hs, hx, hy⟩, ht => ⟨hx.ordered (ht.field hs (by simp)), hy.ordered (ht.field hs (by simp))⟩
  | .step _ _, _, _, ⟨_, _, hparts, hx⟩, ht => hx.ordered (ht.only hparts)
  | .assign _ _ _, _, _, ⟨_, _, hs, hl, hr, _⟩, ht =>
    ⟨hl.ordered (ht.field hs (by simp)), hr.ordered (ht.field hs (by simp))⟩
  | .receive _ _ _, _, _, ⟨_, _, _, _, hs, hl, hr⟩, ht =>
    ⟨hl.ordered (ht.field hs (by simp)), hr.ordered (ht.field hs (by simp))⟩
  | .returnStmt _, _, _, ⟨_, _, hparts, hrs⟩, ht => hrs.ordered fun c hc => ht.part (by simp [hparts, Option.mem_def.mp hc])
  | .goStmt _, _, _, ⟨_, _, hparts, hx⟩, ht => hx.ordered (ht.only hparts)
  | .deferStmt _, _, _, ⟨_, _, hparts, hx⟩, ht => hx.ordered (ht.only hparts)
  | .labeled _ _, _, _, ⟨_, _, _, _, hparts, _, hl, hx⟩, ht =>
    ⟨hl.ordered hsize (ht.part (by simp [hparts])),
      hx.ordered fun c hc => ht.part (by simp [hparts, Option.mem_def.mp hc])⟩
  | .branch jump, _, _, ⟨_, hns⟩, ht => by
    have hnames := hns.ordered hsize ht.parts
    intro n hn
    rw [Option.mem_def.mp hn] at hnames
    exact hnames.1
  | .block (.mk _ _), _, _, ⟨_, hrow⟩, ht => hrow.ordered ht.parts
  | .empty, _, _, _, _ => trivial
  | .conditional _, _, _, hc, ht => Conditional.Derives.ordered hc ht
  | .loop _ _, _, _, ⟨_, _, _, _, hparts, _, hh, hb⟩, ht =>
    ⟨hh.ordered fun c hc => ht.part (by simp [hparts, Option.mem_def.mp hc]), hb.ordered (ht.part (by simp [hparts]))⟩
  | .switch _ _ _, _, _, ⟨_, _, _, _, _, _, hparts, hi, htag, hcs⟩, ht =>
    ⟨hi.ordered fun c hc => ht.part (by simp [hparts, Option.mem_def.mp hc]),
      htag.ordered fun c hc => ht.part (by simp [hparts, Option.mem_def.mp hc]), hcs.ordered (hparts ▸ ht.parts).right⟩
  | .typeSwitch _ [] _ _, _, _, ⟨_, _, _, _, _, _, _, _, hparts, hi, _, hx, hcs⟩, ht =>
    ⟨hi.ordered fun c hc => ht.part (by simp [hparts, Option.mem_def.mp hc]), hx.ordered (ht.part (by simp [hparts])),
      hcs.ordered (hparts ▸ ht.parts).right.rest⟩
  | .typeSwitch _ (_ :: _) _ _, _, _, ⟨_, _, b, _, _, _, _, _, hparts, hi, hns, hx, hcs⟩, ht => by
    obtain ⟨l, hl, -, hpos, -⟩ := id hns
    have hrow := hparts ▸ ht.parts
    rw [hl, List.append_assoc] at hrow
    exact ⟨hi.ordered fun c hc => ht.part (by simp [hparts, Option.mem_def.mp hc]),
      hns.ordered fun c hc => ht.part (by simp [hparts, Option.mem_def.mp hc]),
      hx.ordered ((hrow.right.tail hsize hpos).1.mono (Nat.le_succ _)), hcs.ordered hrow.right.rest.rest⟩
  | .select _, _, _, ⟨_, hcs⟩, ht => hcs.ordered ht.parts
termination_by structural k => k

theorem Conditional.Derives.ordered : ∀ {c : Conditional} {t : Parse.Node} {lo : Nat}, c.Derives pos t →
    t.Located (utf8 source.toList) lo → c.Ordered (Pos.IsReal source) pos lo
  | .mk _ _ _ _ _, _, _, ⟨_, _, _, _, _, hs, hi, hc, hb, he⟩, ht =>
    ⟨hi.ordered (ht.option hs (by simp)), hc.ordered (ht.field hs (by simp)), hb.ordered (ht.field hs (by simp)),
      he.ordered (ht.option hs (by simp))⟩
termination_by structural c => c

theorem Else.OptionDerives.ordered : ∀ {e : Option Else} {o : Option Parse.Node} {lo : Nat}, Else.OptionDerives pos e o →
    (∀ c ∈ o, c.Located (utf8 source.toList) lo) → Else.OptionOrdered (Pos.IsReal source) pos lo e
  | none, _, _, _, _ => trivial
  | some (.block _), _, _, ⟨c, hc, hb⟩, ho => hb.ordered (ho c hc)
  | some (.chain (.mk _ _ _ _ _)), _, _, ⟨e, he, hpos, _, _, _, _, _, hs, hi, hc, hb, helse⟩, ho =>
    have hself := (ho e he).self hsize hpos
    ⟨(ho e he).at hsize hpos, hi.ordered (hself.option hs (by simp)), hc.ordered (hself.field hs (by simp)),
      hb.ordered (hself.field hs (by simp)), helse.ordered (hself.option hs (by simp))⟩
termination_by structural e => e

theorem LoopHeader.Derives.ordered : ∀ {h : LoopHeader} {o : Option Parse.Node} {lo : Nat}, h.Derives pos o →
    (∀ c ∈ o, c.Located (utf8 source.toList) lo) → h.Ordered (Pos.IsReal source) pos lo
  | .forever, _, _, _, _ => trivial
  | .while _, _, _, ⟨t, ht, hc⟩, ho => hc.ordered (ho t ht)
  | .steps _ _ _, _, _, ⟨t, ht, _, _, _, _, hs, hi, hc, hp⟩, ho =>
    ⟨hi.ordered ((ho t ht).option hs (by simp)), hc.ordered ((ho t ht).option hs (by simp)),
      hp.ordered ((ho t ht).option hs (by simp))⟩
  | .over _, _, _, ⟨t, ht, _, _, hs, hx⟩, ho => hx.ordered ((ho t ht).field hs (by simp))
  | .assigning _ _ _ _, _, _, ⟨t, ht, _, _, _, _, hs, _, ⟨_, _, hparts, hk, hmore⟩, hx⟩, ho =>
    have hrow := hparts ▸ ((ho t ht).field hs (by simp)).parts
    ⟨hk.ordered hrow.1, hmore.ordered (hrow.tail hsize hk.pos_start), hx.ordered ((ho t ht).field hs (by simp))⟩
termination_by structural h => h

theorem Clause.AllDerive.ordered : ∀ {types : Bool} {cs : List Clause} {ts : List Parse.Node} {lo : Nat},
    Clause.AllDerive pos types cs ts → InOrder (utf8 source.toList) lo ts → Clause.AllOrdered (Pos.IsReal source) pos lo cs
  | _, [], _, _, _, _ => trivial
  | true, .case _ _ _ _ :: _, _, _, ⟨t, _, rfl, hpos, ⟨_, _, hparts, _, hb, _, _, _, _, rfl, hx, hxs⟩, hcs⟩, hts =>
    have hrow := hparts ▸ (hts.1.self hsize hpos).parts
    ⟨⟨hts.1.at hsize hpos, hx.ordered hrow.left.1, hxs.ordered (hrow.left.tail hsize hx.pos_start), hb.ordered hrow.right⟩,
      hcs.ordered (hts.tail hsize hpos)⟩
  | false, .case _ _ _ _ :: _, _, _,
      ⟨t, _, rfl, hpos, ⟨_, _, hparts, _, hb, _, _, _, _, rfl, _, _, hvalues, hx, hxs⟩, hcs⟩, hts =>
    have hrow := hparts ▸ (hts.1.self hsize hpos).parts
    have hvs := hvalues ▸ hrow.left.1.parts
    ⟨⟨hts.1.at hsize hpos, hx.ordered hvs.1, hxs.ordered (hvs.tail hsize hx.pos_start), hb.ordered hrow.right⟩,
      hcs.ordered (hts.tail hsize hpos)⟩
  | _, .otherwise _ _ :: _, _, _, ⟨_, _, rfl, hpos, _, hb, hcs⟩, hts =>
    ⟨⟨hts.1.at hsize hpos, hb.ordered (hts.1.self hsize hpos).parts⟩, hcs.ordered (hts.tail hsize hpos)⟩
termination_by structural _ cs => cs

theorem CommClause.AllDerive.ordered : ∀ {cs : List CommClause} {ts : List Parse.Node} {lo : Nat},
    CommClause.AllDerive pos cs ts → InOrder (utf8 source.toList) lo ts →
      CommClause.AllOrdered (Pos.IsReal source) pos lo cs
  | [], _, _, _, _ => trivial
  | .mk none _ _ :: _, _, _, ⟨_, _, rfl, hpos, _, hb, hcs⟩, hts =>
    ⟨⟨hts.1.at hsize hpos, trivial, hb.ordered (hts.1.self hsize hpos).parts⟩, hcs.ordered (hts.tail hsize hpos)⟩
  | .mk (some _) _ _ :: _, _, _, ⟨_, _, _, _, rfl, hpos, _, _, hparts, _, hc, hb, hcs⟩, hts =>
    have hrow := hparts ▸ (hts.1.self hsize hpos).parts
    ⟨⟨hts.1.at hsize hpos, hc.ordered hrow.1, hb.ordered hrow.rest⟩,
      hcs.ordered (hts.tail hsize hpos)⟩
termination_by structural cs => cs

theorem Decl.Derives.ordered : ∀ {d : Decl} {t : Parse.Node} {lo : Nat}, d.Derives pos t →
    t.Located (utf8 source.toList) lo → d.Ordered (Pos.IsReal source) pos lo
  | .value _ _ _, _, _, ⟨_, _, _, hparts, hx⟩, ht => hx.ordered (ht.only hparts)
  | .values _ _ _, _, _, ⟨_, .inl ⟨_, hxs⟩⟩, ht => hxs.ordered ht.parts
  | .values _ _ _, _, _, ⟨_, .inr ⟨_, hparts, _, hxs⟩⟩, ht => hxs.ordered (ht.only hparts).parts
  | .type _ _, _, _, ⟨_, _, _, hparts, hx⟩, ht => hx.ordered (ht.only hparts)
  | .types _ _, _, _, ⟨_, _, hxs⟩, ht => hxs.ordered ht.parts
termination_by structural d => d

theorem ValueSpec.Derives.ordered : ∀ {tok : ValueTok} {x : ValueSpec} {t : Parse.Node} {lo : Nat}, x.Derives pos tok t →
    t.Located (utf8 source.toList) lo → x.Ordered (Pos.IsReal source) pos lo
  | _, .mk _ _ _ _, _, _, ⟨_, _, _, _, _, hparts, _, _, _, hns, hty, hvs⟩, ht =>
    ⟨hns.ordered hsize (hparts ▸ ht.parts).left, hty.ordered fun c hc => ht.part (by simp [hparts, Option.mem_def.mp hc]),
      hvs.ordered fun c hc => ht.part (by simp [hparts, Option.mem_def.mp hc])⟩
termination_by structural _ x => x

theorem ValueSpec.AllDerive.ordered : ∀ {tok : ValueTok} {xs : List ValueSpec} {ts : List Parse.Node} {lo : Nat},
    ValueSpec.AllDerive pos tok xs ts → InOrder (utf8 source.toList) lo ts →
      ValueSpec.AllOrdered (Pos.IsReal source) pos lo xs
  | _, [], _, _, _, _ => trivial
  | _, .mk _ _ _ _ :: _, _, _, ⟨_, _, rfl, hx, hxs⟩, hts =>
    ⟨ValueSpec.Derives.ordered hx hts.1, hxs.ordered (hts.tail hsize hx.2.1)⟩
termination_by structural _ xs => xs

theorem TypeSpec.Derives.ordered : ∀ {x : TypeSpec} {t : Parse.Node} {lo : Nat}, x.Derives pos t →
    t.Located (utf8 source.toList) lo → x.Ordered (Pos.IsReal source) pos lo
  | .mk _ _ _ _, _, _, ⟨_, hpos, _, _, _, _, hs, _, _, hty⟩, ht => ⟨ht.at hsize hpos, hty.ordered (ht.field hs (by simp))⟩
termination_by structural x => x

theorem TypeSpec.AllDerive.ordered : ∀ {xs : List TypeSpec} {ts : List Parse.Node} {lo : Nat}, TypeSpec.AllDerive pos xs ts →
    InOrder (utf8 source.toList) lo ts → TypeSpec.AllOrdered (Pos.IsReal source) pos lo xs
  | [], _, _, _, _ => trivial
  | .mk _ _ _ _ :: _, _, _, ⟨_, _, rfl, hx, hxs⟩, hts =>
    ⟨TypeSpec.Derives.ordered hx hts.1, hxs.ordered (hts.tail hsize hx.2.1)⟩
termination_by structural xs => xs

end

/-! ## Entries at top level -/

theorem importsDerive_ordered {is : List Import} {ts : List Parse.Node} {lo : Nat} (h : List.Forall₂ (Import.Derives pos) is ts)
    (hts : InOrder (utf8 source.toList) lo ts) : Import.AllOrdered (Pos.IsReal source) pos lo is := by
  induction h generalizing lo with
  | nil => trivial
  | cons hi _ ih => exact ⟨hts.1.at hsize hi.2.1, ih (hts.tail hsize hi.2.1)⟩

theorem Func.Derives.ordered {f : Func} {t : Parse.Node} {lo : Nat} (h : f.Derives pos t)
    (ht : t.Located (utf8 source.toList) lo) : f.Ordered (Pos.IsReal source) pos lo := by
  obtain ⟨-, hpos, -, a, b, c, d, e, g, hs, hrecv, hname, -, hsig, hbody⟩ := h
  have hself := ht.self hsize hpos
  refine ⟨ht.at hsize hpos, ?_, hname.ordered hsize (hself.field hs (by simp)),
    hsig.ordered hsize (hself.field hs (by simp)) (hself.option hs (by simp)), ?_⟩
  · intro ps hps
    rw [Option.mem_def.mp hps] at hrecv
    obtain ⟨r, rfl, -, hparams⟩ := hrecv
    exact hparams.ordered hsize (hself.field hs (by simp)).parts
  · intro body hb
    rw [Option.mem_def.mp hb] at hbody
    obtain ⟨r, rfl, hbody⟩ := hbody
    exact hbody.ordered hsize (hself.field hs (by simp))

theorem itemsDerive_ordered {items : List Item} {ts : List Parse.Node} {lo : Nat}
    (h : List.Forall₂ (Item.Derives pos) items ts) (hts : InOrder (utf8 source.toList) lo ts) :
    Item.AllOrdered (Pos.IsReal source) pos lo items := by
  induction h generalizing lo with
  | nil => trivial
  | @cons i t _ _ hi _ ih =>
    cases i with
    | package n =>
      obtain ⟨-, c, hparts, hn⟩ := hi
      exact ⟨(hn.ordered hsize (hts.1.only hparts)).2, ih hts.rest⟩
    | importOne i p =>
      obtain ⟨-, hpos, c, hparts, -, hspec, -⟩ := hi
      exact ⟨hts.1.at hsize hpos, ((hts.1.self hsize hpos).only hparts).at hsize hspec, ih (hts.tail hsize hpos)⟩
    | imports is p =>
      obtain ⟨-, hpos, l, hparts, -, hspecs⟩ := hi
      exact ⟨hts.1.at hsize hpos, importsDerive_ordered hsize hspecs ((hts.1.self hsize hpos).only hparts).parts,
        ih (hts.tail hsize hpos)⟩
    | func f => exact ⟨Func.Derives.ordered hsize hi hts.1, ih (hts.tail hsize hi.2.1)⟩
    | stmt x => exact ⟨hi.2.ordered hsize hts.1, ih (hts.tail hsize hi.2.pos_start)⟩

/-- The derivation of a tree in place is in order. -/
theorem FileDerives.ordered {items : List Item} {root : Parse.Node} (h : FileDerives pos items root)
    (hroot : root.Located (utf8 source.toList) 0) : Item.AllOrdered (Pos.IsReal source) pos 0 items :=
  itemsDerive_ordered hsize h.2 hroot.parts

end

end GoRebuild.Grammar
