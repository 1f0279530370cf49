import GoRebuild.Proofs.Parse.Parsers
import GoRebuild.Proofs.Text.Bytes
import GoRebuild.Proofs.Tree.Ordered

/-!
# Where the nodes of a parser stand

* `Pos.IsReal` : a position that is what the bytes of the source before it say;
* `Info.isReal`, `Node.Located` : a parser says so of a node and of all parts below it, and no part starts before the node or
  before the part next to it;
* `SourceParser.PlacesNodes` : a parser says so of its trees without errors; `SourceParser.on` : of only one source;
* `InOrder`, `Node.Located.parts` : the parts of such a node; `InOrder.sublist` : some of them;
* `Node.Located.pos` : the reader makes a real position of it.
-/

namespace GoRebuild
open Text

/-- A position in a source: on the line after as many line breaks as there are before it, and in the column after as
many bytes as there are behind the last of these. -/
structure Pos.IsReal (source : String) (p : Pos) : Prop where
  inside : p.offset.toNat < source.utf8ByteSize
  line : p.line.toNat = 1 + ((utf8 source.toList).take p.offset.toNat).count '\n'.toUInt8
  column : p.column.toNat =
    1 + (((utf8 source.toList).take p.offset.toNat).reverse.takeWhile (· ≠ '\n'.toUInt8)).length

namespace Parse

/-- The row of a node is the number of line breaks before it, and its column that of the bytes behind the last of them. -/
def Info.isReal (bytes : List UInt8) (i : Info) : Bool :=
  decide (i.start < bytes.length) && i.row == (bytes.take i.start).count '\n'.toUInt8 &&
    i.column == ((bytes.take i.start).reverse.takeWhile (· ≠ '\n'.toUInt8)).length

mutual

/-- Whether a node starts at an offset or behind it, and its parts in order from there. Symbols and comments stand anywhere. -/
def Node.located (bytes : List UInt8) (lo : Nat) : Node → Bool
  | .mk i cs => decide (lo ≤ i.start) && i.isReal bytes && allLocated bytes i.start cs

def Node.allLocated (bytes : List UInt8) (lo : Nat) : List Node → Bool
  | [] => true
  | c :: cs =>
    if c.isPart then c.located bytes lo && allLocated bytes (c.info.start + 1) cs else allLocated bytes lo cs

end

/-- A node is where the parser says, no earlier than an offset, and so are its parts, which are in order. -/
def Node.Located (bytes : List UInt8) (lo : Nat) (t : Node) : Prop :=
  t.located bytes lo

instance (bytes : List UInt8) (lo : Nat) (t : Node) : Decidable (t.Located bytes lo) :=
  inferInstanceAs (Decidable (_ = true))

end Parse

/-- The nodes of trees without errors are where the parser says, each behind the start of the one before it. -/
def SourceParser.PlacesNodes (parser : SourceParser) : Prop :=
  ∀ source root, parser source = some root → root.hasError = false → root.Located (utf8 source.toList) 0

namespace SourceParser

/-- A parser that gives up on all sources but one. -/
def on (parser : SourceParser) (source : String) : SourceParser :=
  fun s => if s = source then parser s else none

variable {parser : SourceParser} {source : String}

theorem on_eq_some {s : String} {root : Parse.Node} (h : parser.on source s = some root) :
    s = source ∧ parser source = some root := by
  rw [on] at h
  split at h
  · rename_i hs
    exact ⟨hs, hs ▸ h⟩
  · cases h

theorem on_self : parser.on source source = parser source :=
  if_pos rfl

theorem FollowsGrammar.on (h : parser.FollowsGrammar) : (parser.on source).FollowsGrammar := by
  intro s root hroot herror
  obtain ⟨rfl, hroot⟩ := on_eq_some hroot
  obtain ⟨items, pos, htree, htokens⟩ := h s root hroot herror
  exact ⟨items, pos, by rwa [on_self], htokens⟩

theorem placesNodes_on (h : ∀ root ∈ parser source, root.Located (utf8 source.toList) 0) :
    (parser.on source).PlacesNodes := by
  intro s root hroot _
  obtain ⟨rfl, hroot⟩ := on_eq_some hroot
  exact h root hroot

end SourceParser

namespace Parse

/-- Nodes from an offset on, each behind the start of the one before it. -/
def InOrder (bytes : List UInt8) : Nat → List Node → Prop
  | _, [] => True
  | lo, c :: cs => c.Located bytes lo ∧ InOrder bytes (c.info.start + 1) cs

variable {bytes : List UInt8} {lo lo' : Nat} {t c : Node} {ts us : List Node}

theorem Node.located_iff : t.Located bytes lo ↔ lo ≤ t.info.start ∧ t.Located bytes t.info.start := by
  obtain ⟨i, cs⟩ := t
  simp only [Located, located, info, Bool.and_eq_true, decide_eq_true_eq, Nat.le_refl, true_and, and_assoc]

theorem Node.Located.le (h : t.Located bytes lo) : lo ≤ t.info.start :=
  (Node.located_iff.mp h).1

theorem Node.Located.mono (h : t.Located bytes lo') (hle : lo ≤ lo') : t.Located bytes lo :=
  Node.located_iff.mpr ⟨Nat.le_trans hle h.le, (Node.located_iff.mp h).2⟩

theorem Node.Located.isReal (h : t.Located bytes lo) : t.info.isReal bytes := by
  obtain ⟨i, cs⟩ := t
  rw [Located, located, Bool.and_eq_true, Bool.and_eq_true] at h
  exact h.1.2

theorem inOrder_filter : ∀ {ts : List Node} {lo : Nat}, Node.allLocated bytes lo ts → InOrder bytes lo (ts.filter Node.isPart)
  | [], _, _ => trivial
  | c :: cs, lo, h => by
    rw [Node.allLocated] at h
    by_cases hc : c.isPart
    · rw [if_pos hc, Bool.and_eq_true] at h
      rw [List.filter_cons_of_pos hc]
      exact ⟨h.1, inOrder_filter h.2⟩
    · rw [if_neg hc] at h
      rw [List.filter_cons_of_neg hc]
      exact inOrder_filter h

namespace InOrder

theorem mono (h : InOrder bytes lo' ts) (hle : lo ≤ lo') : InOrder bytes lo ts := by
  cases ts with
  | nil => trivial
  | cons c cs => exact ⟨h.1.mono hle, h.2⟩

theorem sublist (hsub : us.Sublist ts) (h : InOrder bytes lo ts) : InOrder bytes lo us := by
  induction hsub generalizing lo with
  | slnil => trivial
  | cons c _ ih => exact (ih h.2).mono (Nat.le_succ_of_le h.1.le)
  | cons_cons c _ ih => exact ⟨h.1, ih h.2⟩

theorem rest (h : InOrder bytes lo (c :: ts)) : InOrder bytes lo ts :=
  h.sublist (List.sublist_cons_self c ts)

theorem of_mem (h : InOrder bytes lo ts) (hc : c ∈ ts) : c.Located bytes lo :=
  (h.sublist (List.singleton_sublist.mpr hc)).1

theorem left (h : InOrder bytes lo (ts ++ us)) : InOrder bytes lo ts :=
  h.sublist (List.sublist_append_left ts us)

theorem right (h : InOrder bytes lo (ts ++ us)) : InOrder bytes lo us :=
  h.sublist (List.sublist_append_right ts us)

end InOrder

theorem Node.Located.parts (h : t.Located bytes lo) : InOrder bytes lo t.parts := by
  have hle := h.le
  obtain ⟨i, cs⟩ := t
  rw [Located, located, Bool.and_eq_true] at h
  exact (inOrder_filter h.2).mono hle

theorem Node.Located.part (h : t.Located bytes lo) (hc : c ∈ t.parts) : c.Located bytes lo :=
  h.parts.of_mem hc

theorem Node.Located.only (h : t.Located bytes lo) (hparts : t.parts = [c]) : c.Located bytes lo :=
  h.part (hparts ▸ List.mem_singleton_self c)

section
variable {fields : List (String × Option Node)} {o : Option Node}

/-- A part that may stand in a field. -/
theorem Node.Located.option (h : t.Located bytes lo) (hshape : t.Shape fields) (hfield : o ∈ fields.map Prod.snd) :
    ∀ c ∈ o, c.Located bytes lo := by
  intro c hc
  obtain ⟨f, hf, rfl⟩ := List.mem_map.mp hfield
  refine h.part ?_
  rw [hshape.1]
  exact List.mem_filterMap.mpr ⟨f, hf, hc⟩

/-- A part in a field. -/
theorem Node.Located.field (h : t.Located bytes lo) (hshape : t.Shape fields) (hfield : some c ∈ fields.map Prod.snd) :
    c.Located bytes lo :=
  h.option hshape hfield c rfl

end

/-! ## What the reader makes of it -/

section
variable {source : String} {g : Lexical.Place → Pos} {p : Lexical.Place} (hsize : source.utf8ByteSize < 2 ^ 32)
include hsize

theorem Node.Located.toNat_offset (h : t.Located (utf8 source.toList) lo) : t.pos.offset.toNat = t.info.start := by
  have hreal := h.isReal
  rw [Info.isReal, Bool.and_eq_true, Bool.and_eq_true, decide_eq_true_eq, length_utf8] at hreal
  exact UInt32.toNat_ofNat_of_lt' (Nat.lt_trans hreal.1.1 hsize)

/-- The position of a node is a real one. -/
theorem Node.Located.pos (h : t.Located (utf8 source.toList) lo) : t.pos.Ordered (Pos.IsReal source) lo := by
  have hoffset := h.toNat_offset hsize
  have hreal := h.isReal
  simp only [Info.isReal, Bool.and_eq_true, decide_eq_true_eq, beq_iff_eq, length_utf8] at hreal
  obtain ⟨⟨hstart, hrow⟩, hcolumn⟩ := hreal
  have hcount : ((utf8 source.toList).take t.info.start).count '\n'.toUInt8 ≤ t.info.start :=
    Nat.le_trans List.count_le_length (List.length_take_le _ _)
  have hwhile : (((utf8 source.toList).take t.info.start).reverse.takeWhile (· ≠ '\n'.toUInt8)).length ≤ t.info.start :=
    Nat.le_trans (List.takeWhile_sublist _).length_le (by rw [List.length_reverse]; exact List.length_take_le _ _)
  have hnext {n : Nat} (hn : n ≤ t.info.start) : (UInt32.ofNat n + 1).toNat = 1 + n := by
    rw [← UInt32.ofNat_one, ← UInt32.ofNat_add, UInt32.toNat_ofNat_of_lt' (by rw [UInt32.size]; omega), Nat.add_comm]
  refine ⟨hoffset ▸ h.le, hoffset ▸ hstart, ?_, ?_⟩
  · rw [hoffset, ← hrow]
    exact hnext (hrow ▸ hcount)
  · rw [hoffset, ← hcolumn]
    exact hnext (hcolumn ▸ hwhile)

/-- The place at which a node starts is at a real position. -/
theorem Node.Located.at (h : t.Located (utf8 source.toList) lo) (hp : t.pos = g p) :
    (g p).Ordered (Pos.IsReal source) lo :=
  hp ▸ h.pos hsize

theorem Node.Located.self (h : t.Located (utf8 source.toList) lo) (hp : t.pos = g p) :
    t.Located (utf8 source.toList) (g p).offset.toNat := by
  rw [← hp, h.toNat_offset hsize]
  exact (Node.located_iff.mp h).2

theorem InOrder.tail (h : InOrder (utf8 source.toList) lo (t :: ts)) (hp : t.pos = g p) :
    InOrder (utf8 source.toList) ((g p).offset.toNat + 1) ts := by
  rw [← hp, h.1.toNat_offset hsize]
  exact h.2

end

end Parse

end GoRebuild
