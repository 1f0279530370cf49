import GoRebuild.Chain.Basic
import Mathlib.Data.List.Forall2

/-!
# What a chain prints

The builder prints the calls of a chain one behind the other. A line break is read as `;` where it ends
something, as nothing elsewhere.

* `Frame`, `frame?` : what a call that takes chains puts around and between them;
* `word` : what a call without arguments prints;
* `Step.allNull` : chains that print nothing and take no separator;
* `Chain.tokens pkg c` : the tokens of a chain, where `pkg` is the local name of each import path. A
  block directly behind `Case` or `Default` has no braces;
* `Chain.Prints`, `Chain.Shows` : what a chain prints wherever it stands (`Prints.append`, `shows_group`).
-/

namespace GoRebuild

/-- What stands before, between and behind the items of a call. -/
structure Frame where
  opening : List String
  separator : List String
  closing : List String
  deriving DecidableEq

/-- The frame of a call that takes chains. -/
def frame? : String → Option Frame
  | "List" => some ⟨[], [","], []⟩
  | "Call" => some ⟨["("], [","], [")"]⟩
  | "Params" => some ⟨["("], [","], [")"]⟩
  | "Parens" => some ⟨["("], [], [")"]⟩
  | "Index" => some ⟨["["], [":"], ["]"]⟩
  | "Values" => some ⟨["\x7b"], [","], ["\x7d"]⟩
  | "Block" => some ⟨["\x7b"], [";"], ["\x7d"]⟩
  | "Struct" => some ⟨["struct", "\x7b"], [";"], ["\x7d"]⟩
  | "Interface" => some ⟨["interface", "\x7b"], [";"], ["\x7d"]⟩
  | "Defs" => some ⟨["("], [";"], [")"]⟩
  | "Map" => some ⟨["map", "["], [], ["]"]⟩
  | "Assert" => some ⟨[".", "("], [], [")"]⟩
  | "If" => some ⟨["if"], [";"], []⟩
  | "For" => some ⟨["for"], [";"], []⟩
  | "Switch" => some ⟨["switch"], [";"], []⟩
  | "Case" => some ⟨["case"], [","], [":"]⟩
  | _ => none

/-- What a call without arguments prints. -/
def word : String → List String
  | "Break" => ["break"]
  | "Chan" => ["chan"]
  | "Const" => ["const"]
  | "Continue" => ["continue"]
  | "Default" => ["default", ":"]
  | "Defer" => ["defer"]
  | "Else" => ["else"]
  | "Fallthrough" => ["fallthrough"]
  | "Func" => ["func"]
  | "Go" => ["go"]
  | "Goto" => ["goto"]
  | "Range" => ["range"]
  | "Return" => ["return"]
  | "Select" => ["select"]
  | "Type" => ["type"]
  | "Var" => ["var"]
  -- `Empty` and `Line` print no token, nor does `Null`
  | _ => []

/-- Whether a block behind a call of this method has no braces. -/
def opensClause (method : String) : Bool :=
  ["Case", "Default"].contains method

mutual

/-- Whether a call prints nothing and takes no separator. -/
def Step.isNull : Step → Bool
  | .mk m as => m == "Null" || m == "List" && Arg.allNull as

/-- Whether all calls do. -/
def Step.allNull : List Step → Bool
  | [] => true
  | s :: ss => s.isNull && Step.allNull ss

/-- Whether all arguments do. -/
def Arg.allNull : List Arg → Bool
  | [] => true
  | .code c :: as => Step.allNull c && Arg.allNull as
  | .quoted _ :: _ | .int _ :: _ => false

end

/-- What a call prints behind another, from the tokens of the chains among its arguments. -/
def printed (pkg : String → String) (previous method : String) (args : List Arg)
    (items : List (List String)) : List String :=
  match frame? method with
  | some f =>
    if method == "Block" && opensClause previous then f.separator.intercalate items
    else f.opening ++ f.separator.intercalate items ++ f.closing
  | none =>
    match args, method with
    | [.quoted text], "Id" => [text]
    | [.quoted text], "Op" => [text]
    | [.int n], "Lit" => [toString n]
    | [.quoted n], "Dot" => [".", n]
    | [.quoted path, .quoted n], "Qual" => [pkg path, ".", n]
    | _, _ => word method

mutual

/-- The tokens of a call behind a call of some method. -/
def Step.tokens (pkg : String → String) (previous : String) : Step → List String
  | .mk m as => printed pkg previous m as (Arg.items pkg as)

/-- The tokens of calls behind a call of some method. -/
def Step.tokensAfter (pkg : String → String) (previous : String) : List Step → List String
  | [] => []
  | s :: ss => s.tokens pkg previous ++ Step.tokensAfter pkg s.method ss

/-- The tokens of each chain among arguments that is not null. -/
def Arg.items (pkg : String → String) : List Arg → List (List String)
  | [] => []
  | .code c :: as =>
    if Step.allNull c then Arg.items pkg as
    else Step.tokensAfter pkg "" c :: Arg.items pkg as
  | .quoted _ :: as | .int _ :: as => Arg.items pkg as

end

namespace Chain

/-- The tokens of a chain. -/
def tokens (pkg : String → String) (c : Chain) : List String :=
  Step.tokensAfter pkg "" c

/-- The method called last. -/
def lastMethod (previous : String) : Chain → String
  | [] => previous
  | s :: ss => lastMethod s.method ss

@[simp] theorem lastMethod_append (previous : String) (c d : Chain) :
    lastMethod previous (c ++ d) = lastMethod (lastMethod previous c) d := by
  induction c generalizing previous with
  | nil => rfl
  | cons s ss ih => exact ih s.method

theorem tokensAfter_append (pkg : String → String) (previous : String) (c d : Chain) :
    Step.tokensAfter pkg previous (c ++ d) =
      Step.tokensAfter pkg previous c ++ Step.tokensAfter pkg (lastMethod previous c) d := by
  induction c generalizing previous with
  | nil => rfl
  | cons s ss ih =>
    rw [List.cons_append, Step.tokensAfter, ih, Step.tokensAfter, lastMethod, List.append_assoc]

theorem allNull_append (c d : Chain) :
    Step.allNull (c ++ d) = (Step.allNull c && Step.allNull d) := by
  induction c with
  | nil => rfl
  | cons s ss ih => rw [List.cons_append, Step.allNull, ih, Step.allNull, Bool.and_assoc]

/-! ## What a chain prints wherever it stands -/

variable {pkg : String → String} {c d : Chain} {ts us : List String}

/-- The tokens of a chain behind any call but `Case` and `Default`, neither of which it ends with. -/
structure Prints (pkg : String → String) (c : Chain) (ts : List String) : Prop where
  tokens : ∀ previous, opensClause previous = false → Step.tokensAfter pkg previous c = ts
  last : ∀ previous, opensClause previous = false → opensClause (lastMethod previous c) = false

/-- A chain that prints these tokens and takes a separator. -/
structure Shows (pkg : String → String) (c : Chain) (ts : List String) : Prop
    extends Prints pkg c ts where
  present : Step.allNull c = false

theorem Prints.nil : Prints pkg [] [] :=
  ⟨fun _ _ => rfl, fun _ h => h⟩

theorem Prints.append (hc : Prints pkg c ts) (hd : Prints pkg d us) :
    Prints pkg (c ++ d) (ts ++ us) := by
  constructor
  · intro previous h
    rw [tokensAfter_append, hc.tokens previous h, hd.tokens _ (hc.last previous h)]
  · intro previous h
    rw [lastMethod_append]
    exact hd.last _ (hc.last previous h)

theorem Shows.append (hc : Shows pkg c ts) (hd : Prints pkg d us) :
    Shows pkg (c ++ d) (ts ++ us) :=
  ⟨hc.toPrints.append hd, by rw [allNull_append, hc.present, Bool.false_and]⟩

theorem Prints.append_shows (hc : Prints pkg c ts) (hd : Shows pkg d us) :
    Shows pkg (c ++ d) (ts ++ us) :=
  ⟨hc.append hd.toPrints, by rw [allNull_append, hd.present, Bool.and_false]⟩

/-- A chain that is not empty prints these tokens also on its own. -/
theorem Shows.tokens_eq (hc : Shows pkg c ts) : c.tokens pkg = ts :=
  hc.tokens "" (by decide)

/-- The methods of calls that print the same tokens wherever they stand. -/
def isSolid (method : String) : Bool :=
  !(["Block", "Case", "Default", "List", "Null"].contains method)

theorem shows_call (method : String) (h : isSolid method) (args : List Arg) :
    Shows pkg (call method args) (printed pkg "" method args (Arg.items pkg args)) := by
  have hm : method ≠ "Block" ∧ opensClause method = false ∧ method ≠ "List" ∧ method ≠ "Null" := by
    simp [isSolid] at h
    simp [opensClause, h]
  refine ⟨⟨fun previous _ => ?_, fun _ _ => hm.2.1⟩, ?_⟩
  · change printed pkg previous method args _ ++ [] = _
    unfold printed
    simp [hm.1]
  · simp [call, Step.allNull, Step.isNull, hm]

/-- A keyword: a call without arguments that takes no chains. -/
theorem shows_keyword (method : String) (h : isSolid method ∧ frame? method = none) :
    Shows pkg (keyword method) (word method) := by
  have hshow : Shows pkg _ _ := shows_call method h.1 []
  have hword : printed pkg "" method [] (Arg.items pkg []) = word method := by
    unfold printed
    rw [h.2]
  rwa [hword] at hshow

theorem shows_name (text : String) : Shows pkg (name text) [text] :=
  shows_call "Id" (by decide) [.quoted text]

theorem shows_op (text : String) : Shows pkg (op text) [text] :=
  shows_call "Op" (by decide) [.quoted text]

theorem shows_slot : Shows pkg slot [] :=
  shows_keyword "Empty" (by decide)

/-! ## Lists of chains -/

variable {cs ds : List Chain} {tss uss : List (List String)}

/-- The tokens of each chain of a list, none of which is null. -/
abbrev AllShow (pkg : String → String) (cs : List Chain) (tss : List (List String)) : Prop :=
  List.Forall₂ (Shows pkg) cs tss

theorem AllShow.items_eq (h : AllShow pkg cs tss) : Arg.items pkg (cs.map .code) = tss := by
  induction h with
  | nil => rfl
  | cons hc _ ih => rw [List.map_cons, Arg.items, hc.present, ih]; simp [hc.tokens "" (by decide)]

theorem AllShow.allNull_eq (h : AllShow pkg cs tss) (hne : cs ≠ []) :
    Arg.allNull (cs.map .code) = false := by
  cases h with
  | nil => exact absurd rfl hne
  | cons hc _ => rw [List.map_cons, Arg.allNull, hc.present, Bool.false_and]

/-- A call that takes chains prints them in its frame. -/
theorem shows_group (method : String) {f : Frame} (hf : isSolid method ∧ frame? method = some f)
    (h : AllShow pkg cs tss) :
    Shows pkg (group method cs) (f.opening ++ f.separator.intercalate tss ++ f.closing) := by
  have hshow : Shows pkg _ _ := shows_call method hf.1 (cs.map .code)
  have hblock : method ≠ "Block" := by
    rintro rfl
    exact absurd hf.1 (by decide)
  unfold printed at hshow
  rw [h.items_eq, hf.2] at hshow
  simpa [group, hblock] using hshow

theorem shows_list (h : AllShow pkg cs tss) (hne : cs ≠ []) :
    Shows pkg (group "List" cs) ([","].intercalate tss) := by
  refine ⟨⟨fun previous _ => ?_, fun _ _ => rfl⟩, ?_⟩
  · rw [group, call, Step.tokensAfter, Step.tokens, h.items_eq]
    simp [printed, frame?, Step.tokensAfter]
  · simp [group, call, Step.allNull, Step.isNull, h.allNull_eq hne]

/-! ## Blocks -/

/-- The tokens of a block behind any call. -/
theorem tokensAfter_block (h : AllShow pkg cs tss) (previous : String) :
    Step.tokensAfter pkg previous (group "Block" cs) =
      if opensClause previous then [";"].intercalate tss
      else ["\x7b"] ++ [";"].intercalate tss ++ ["\x7d"] := by
  rw [group, call, Step.tokensAfter, Step.tokens, h.items_eq, Step.tokensAfter, List.append_nil]
  rfl

theorem shows_block (h : AllShow pkg cs tss) :
    Shows pkg (group "Block" cs) (["\x7b"] ++ [";"].intercalate tss ++ ["\x7d"]) := by
  refine ⟨⟨fun previous hp => ?_, fun _ _ => rfl⟩, rfl⟩
  rw [tokensAfter_block h, hp]
  rfl

/-- A clause: the call that opens it, which prints the same behind any call, and a block without braces. -/
theorem shows_clause (method : String) (args : List Arg) (hm : opensClause method = true)
    (h : AllShow pkg cs tss) :
    Shows pkg (call method args ++ group "Block" cs)
      (printed pkg "" method args (Arg.items pkg args) ++ [";"].intercalate tss) := by
  have hne : method ≠ "Block" := by
    rintro rfl
    exact absurd hm (by decide)
  refine ⟨⟨fun previous _ => ?_, fun _ _ => rfl⟩, ?_⟩
  · rw [tokensAfter_append, tokensAfter_block h]
    change (printed pkg previous method args _ ++ []) ++ (if opensClause method then _ else _) = _
    rw [hm, List.append_nil]
    unfold printed
    simp [hne]
  · rw [allNull_append, Bool.and_eq_false_iff]
    exact .inr rfl

end Chain

end GoRebuild
