import Mathlib.Tactic.SplitIfs
import GoRebuild.Json.Parser
import GoRebuild.Json.Printer
import GoRebuild.Proofs.Text.Digits

/-!
# JSON read back from its text

* `string?_quote` : a string from its literal, escape by escape (`stringBody?_escape`);
* `number?_toString` : an integer from its digits, which have no zero before the others (`isNumeral_toDigits`);
* `items?_pretty`, `members?_pretty` : elements and members line by line, if each value can be read back;
* `Json.ReadBack`, `readBack` : a value of integers, on whatever level it stands and in whatever room; where there is less
  room than the value is deep, it is refused. The parser is bounded by a number that falls with every value and every
  comma, and twice the length of the text is enough;
* `parse?_pretty` : the value from its whole text, or nothing where the value is deeper than the room.
-/

namespace GoRebuild.Json
open GoRebuild.Text

/-! ## Strings -/

theorem hexDigit_lt_sixteen : ∀ d < 16, isHexDigit (hexDigit d) ∧ hexValue (hexDigit d) = d := by
  decide

/-- The four digits of a control character. -/
theorem unicode?_control (n : Nat) (hn : n < 0x20) (cs : List Char) :
    unicode? ('0' :: '0' :: hexDigit (n / 16) :: hexDigit (n % 16) :: cs) = some (Char.ofNat n, cs) := by
  obtain ⟨hhigh, hhigh'⟩ := hexDigit_lt_sixteen (n / 16) (by omega)
  obtain ⟨hlow, hlow'⟩ := hexDigit_lt_sixteen (n % 16) (Nat.mod_lt _ (by decide))
  have hzero : isHexDigit '0' ∧ hexValue '0' = 0 := by decide
  have hvalue : ((0 * 16 + 0) * 16 + n / 16) * 16 + n % 16 = n := by omega
  have hhex : hex4? ('0' :: '0' :: hexDigit (n / 16) :: hexDigit (n % 16) :: cs) = some (n, cs) := by
    simp only [hex4?, hzero, hhigh, hhigh', hlow, hlow', Bool.and_self, if_true, hvalue]
  simp only [unicode?, hhex, Option.bind_eq_bind, Option.bind_some]
  rw [if_neg (by omega), if_neg (by omega)]

theorem stringBody?_escape (n : Nat) (acc : List Char) (c : Char) (cs : List Char) :
    stringBody? (n + 1) acc (escape c ++ cs) = stringBody? n (c :: acc) cs := by
  have hcontrol {m : Nat} (h : c.toNat = m) : c = Char.ofNat m := by rw [← h, Char.ofNat_toNat]
  unfold escape
  split
  · next hquote => subst hquote; rfl
  next hquote =>
  split
  · next hslash => subst hslash; rfl
  next hslash =>
  split
  · next hn => subst hn; rfl
  split
  · next hr => subst hr; rfl
  split
  · next ht => subst ht; rfl
  split
  · next hb => cases hcontrol hb; rfl
  split
  · next hf => cases hcontrol hf; rfl
  split
  · next hlow =>
    have hu := unicode?_control c.toNat hlow cs
    rw [Char.ofNat_toNat] at hu
    simp only [List.cons_append, List.nil_append, stringBody?, hu]
    rfl
  · next hlow =>
    simp only [List.cons_append, List.nil_append, stringBody?, if_neg hquote, if_neg hslash, if_neg hlow]

theorem stringBody?_escaped (s : List Char) : ∀ (n : Nat) (acc rest : List Char), s.length < n →
    stringBody? n acc (s.flatMap escape ++ '"' :: rest) = some (String.ofList (acc.reverse ++ s), rest) := by
  induction s with
  | nil =>
    rintro (_ | n) acc rest h
    · cases h
    · simp [stringBody?]
  | cons c s ih =>
    rintro (_ | n) acc rest h
    · cases h
    · rw [List.flatMap_cons, List.append_assoc, stringBody?_escape, ih n (c :: acc) rest (Nat.lt_of_succ_lt_succ h),
        List.reverse_cons, List.append_assoc, List.singleton_append]

theorem length_le_escaped (s : List Char) : s.length ≤ (s.flatMap escape).length := by
  have hpos (c : Char) : 1 ≤ (escape c).length := by
    unfold escape
    repeat' split
    all_goals exact Nat.le_add_left _ _
  induction s with
  | nil => exact Nat.le_refl 0
  | cons c s ih =>
    have := hpos c
    rw [List.flatMap_cons, List.length_append, List.length_cons]
    omega

theorem string?_quote (s : String) (rest : List Char) : string? ((quote s).toList ++ rest) = some (s, rest) := by
  have hlength := length_le_escaped s.toList
  simp only [quote, String.toList_ofList, List.cons_append, List.append_assoc, List.nil_append, string?]
  rw [stringBody?_escaped, List.reverse_nil, List.nil_append, String.ofList_toList]
  simp only [List.length_append, List.length_cons]
  omega

/-! ## Numbers -/

/-- What may follow a value: nothing, a comma or a line break. -/
inductive Stops : List Char → Prop where
  | nil : Stops []
  | comma (cs : List Char) : Stops (',' :: cs)
  | newline (cs : List Char) : Stops ('\n' :: cs)

theorem digitsValue_toDigits (n : Nat) : digitsValue (Nat.toDigits 10 n) = n := by
  rw [digitsValue, foldl_eq_ofDigitChars, Nat.ofDigitChars_ten_toDigits]

/-- A number has no zeros before its other digits. -/
theorem toDigits_no_leading_zero (n : Nat) :
    ¬((Nat.toDigits 10 n).length > 1 ∧ (Nat.toDigits 10 n).head? = some '0') := by
  rintro ⟨hlength, hhead⟩
  rw [(isNumeral_toDigits n).lead hhead] at hlength
  exact absurd hlength (by decide)

section
variable {rest : List Char} (n : Nat) (h : Stops rest)
include h

theorem takeWhile_toDigits : (Nat.toDigits 10 n ++ rest).takeWhile Char.isDigit = Nat.toDigits 10 n := by
  rw [List.takeWhile_append_of_pos fun _ => isDigit_of_mem_toDigits]
  cases h <;> simp

theorem dropWhile_toDigits : (Nat.toDigits 10 n ++ rest).dropWhile Char.isDigit = rest := by
  rw [List.dropWhile_append_of_pos fun _ => isDigit_of_mem_toDigits]
  cases h <;> simp

theorem fraction?_of_stops : fraction? rest = some ([], rest) := by
  cases h <;> rfl

theorem exponent?_of_stops : exponent? rest = some ([], rest) := by
  cases h <;> rfl

theorem number?_toDigits : number? (Nat.toDigits 10 n ++ rest) = some (int n, rest) := by
  have hne : Nat.toDigits 10 n ≠ [] := Nat.toDigits_ne_nil
  have hlead := toDigits_no_leading_zero n
  have hdigits := takeWhile_toDigits n h
  unfold number?
  split
  next neg cs hsign =>
    split at hsign
    · next cs' hminus =>
      -- a minus is no digit
      rw [hminus] at hdigits
      exact absurd hdigits.symm hne
    · cases hsign
      simp only [hdigits, dropWhile_toDigits n h, fraction?_of_stops h, exponent?_of_stops h, digitsValue_toDigits,
        Option.bind_eq_bind, Option.bind_some]
      rw [if_neg (by simp only [List.isEmpty_iff, hne, hlead, or_self, not_false_eq_true])]
      rfl

theorem number?_minus (hn : 0 < n) : number? ('-' :: (Nat.toDigits 10 n ++ rest)) = some (int (-n), rest) := by
  have hne : Nat.toDigits 10 n ≠ [] := Nat.toDigits_ne_nil
  have hlead := toDigits_no_leading_zero n
  simp only [number?, takeWhile_toDigits n h, dropWhile_toDigits n h, fraction?_of_stops h, exponent?_of_stops h,
    digitsValue_toDigits, Option.bind_eq_bind, Option.bind_some]
  rw [if_neg (by simp only [List.isEmpty_iff, hne, hlead, or_self, not_false_eq_true])]
  simp [Nat.ne_of_gt hn]

theorem number?_toString : ∀ i : Int, number? ((toString i).toList ++ rest) = some (int i, rest)
  | .ofNat n => by
    rw [show (toString (Int.ofNat n)).toList = Nat.toDigits 10 n from String.toList_ofList]
    exact number?_toDigits n h
  | .negSucc n => by
    have htext : (toString (Int.negSucc n)).toList = '-' :: Nat.toDigits 10 (n + 1) := by
      rw [Int.toString_eq_repr, Int.repr, String.toList_append, Nat.repr, String.toList_ofList,
        String.toList_ofList]
      rfl
    rw [htext]
    exact number?_minus (n + 1) h (Nat.succ_pos n)

end

/-! ## White space -/

theorem skipSpace_newline (level : Nat) (cs : List Char) : skipSpace ((newline level).toList ++ cs) = skipSpace cs := by
  have hblank : ∀ c ∈ (newline level).toList, isSpace c := by
    intro c hc
    rw [newline, String.toList_ofList] at hc
    obtain rfl | hc := List.mem_cons.mp hc
    · rfl
    · rw [List.eq_of_mem_replicate hc]
      rfl
  exact List.dropWhile_append_of_pos hblank

theorem skipSpace_blank (cs : List Char) : skipSpace (' ' :: cs) = skipSpace cs := rfl

theorem skipSpace_quote (s : String) (cs : List Char) : skipSpace ((quote s).toList ++ cs) = (quote s).toList ++ cs := by
  rw [quote, String.toList_ofList]
  rfl

theorem quote_ne_brace (s : String) (rest cs : List Char) : (quote s).toList ++ rest ≠ '\x7d' :: cs := by
  rw [quote, String.toList_ofList]
  exact fun heq => absurd (List.cons.inj heq).1 (by decide)

/-- A value starts with no white space, and not with the end of an array. -/
theorem starts_of_value? {room n : Nat} {c : Char} {cs : List Char} {r : Json × List Char}
    (h : value? room n (c :: cs) = some r) : isSpace c = false ∧ c ≠ ']' := by
  cases n with
  | zero => cases h
  | succ n =>
    refine ⟨?_, ?_⟩
    · rw [Bool.eq_false_iff]
      intro hspace
      simp only [isSpace, Bool.or_eq_true, decide_eq_true_eq] at hspace
      obtain ((rfl | rfl) | rfl) | rfl := hspace <;> exact nomatch h
    · rintro rfl
      exact nomatch h

theorem skipSpace_of_value? {room n : Nat} {cs : List Char} {r : Json × List Char} (h : value? room n cs = some r) :
    skipSpace cs = cs := by
  cases cs with
  | nil => rfl
  | cons c cs => exact List.dropWhile_cons_of_neg (by rw [(starts_of_value? h).1]; exact Bool.false_ne_true)

/-! ## Arrays and objects -/

section
variable {room n : Nat} {cs cs' cs'' rest : List Char} {k : String} {v : Json}

theorem items?_refused (hv : value? room n cs = none) : items? room (n + 1) cs = none := by
  simp only [items?, hv]

theorem items?_last (hv : value? room n cs = some (v, cs')) (hend : skipSpace cs' = ']' :: rest) :
    items? room (n + 1) cs = some ([v], rest) := by
  simp only [items?, hv, hend]

theorem items?_more (hv : value? room n cs = some (v, cs')) (hcomma : skipSpace cs' = ',' :: cs'') :
    items? room (n + 1) cs = (items? room n (skipSpace cs'')).map fun r => (v :: r.1, r.2) := by
  simp only [items?, hv, hcomma]

theorem value?_items (hstart : ∀ cs', skipSpace cs ≠ ']' :: cs') :
    value? (room + 1) (n + 1) ('[' :: cs) = (items? room n (skipSpace cs)).map fun r => (arr r.1, r.2) := by
  simp only [value?, if_true, Nat.add_eq_zero_iff, Nat.succ_ne_self, and_false, if_false, Nat.add_sub_cancel]

theorem members?_refused (hk : string? cs = some (k, ':' :: cs')) (hv : value? room n (skipSpace cs') = none) :
    members? room (n + 1) cs = none := by
  have hcolon : skipSpace (':' :: cs') = ':' :: cs' := rfl
  simp only [members?, hk, hcolon, hv]

theorem members?_last (hk : string? cs = some (k, ':' :: cs')) (hv : value? room n (skipSpace cs') = some (v, cs''))
    (hend : skipSpace cs'' = '\x7d' :: rest) : members? room (n + 1) cs = some ([(k, v)], rest) := by
  have hcolon : skipSpace (':' :: cs') = ':' :: cs' := rfl
  simp only [members?, hk, hcolon, hv, hend]

theorem members?_more {cs₃ : List Char} (hk : string? cs = some (k, ':' :: cs'))
    (hv : value? room n (skipSpace cs') = some (v, cs'')) (hcomma : skipSpace cs'' = ',' :: cs₃) :
    members? room (n + 1) cs = (members? room n (skipSpace cs₃)).map fun r => ((k, v) :: r.1, r.2) := by
  have hcolon : skipSpace (':' :: cs') = ':' :: cs' := rfl
  simp only [members?, hk, hcolon, hv, hcomma]

theorem value?_members (hstart : ∀ cs', skipSpace cs ≠ '\x7d' :: cs') :
    value? (room + 1) (n + 1) ('\x7b' :: cs) = (members? room n (skipSpace cs)).map fun r => (obj r.1, r.2) := by
  have hbrace : ('\x7b' : Char) ≠ '[' := by decide
  simp only [value?, if_neg hbrace, if_true, Nat.succ_ne_zero, if_false, Nat.add_sub_cancel]

end

/-! ## Texts of values -/

mutual

/-- Whether all numbers are integers. -/
def integral : Json → Bool
  | decimal _ => false
  | arr vs => integralItems vs
  | obj ms => integralMembers ms
  | _ => true

/-- Whether all numbers in the elements are integers. -/
def integralItems : List Json → Bool
  | [] => true
  | v :: vs => integral v && integralItems vs

/-- Whether all numbers in the members are integers. -/
def integralMembers : List (String × Json) → Bool
  | [] => true
  | (_, v) :: ms => integral v && integralMembers ms

end

theorem value?_of_string? {room n : Nat} {cs rest : List Char} {s : String} (h : string? cs = some (s, rest)) :
    value? room (n + 1) cs = some (str s, rest) := by
  unfold string? at h
  split at h
  · simp only [value?, Char.reduceEq, if_false, if_true, string?, h, Option.map_some]
  · cases h

theorem value?_of_number? {room n : Nat} {cs : List Char} {r : Json × List Char} (h : number? cs = some r) :
    value? room (n + 1) cs = some r := by
  cases cs with
  | nil => cases h
  | cons c cs =>
    -- a number starts with a minus or a digit, and with nothing that starts another value
    have hother : ∀ d ∈ ['[', '\x7b', '"', 'n', 't', 'f'], c ≠ d := by
      intro d hd
      simp only [List.mem_cons, List.not_mem_nil, or_false] at hd
      rintro rfl
      obtain rfl | rfl | rfl | rfl | rfl | rfl := hd <;> exact nomatch h
    simp only [List.forall_mem_cons, List.not_mem_nil] at hother
    obtain ⟨h₁, h₂, h₃, h₄, h₅, h₆, -⟩ := hother
    simp only [value?, if_neg h₁, if_neg h₂, if_neg h₃, if_neg h₄, if_neg h₅, if_neg h₆, h]

/-! ### Layout -/

theorem toList_prettyItems_cons (level : Nat) (v : Json) (vs : List Json) : (prettyItems level (v :: vs)).toList =
    ',' :: ((newline level).toList ++ ((prettyAt level v).toList ++ (prettyItems level vs).toList)) := by
  simp [prettyItems]

theorem toList_prettyAt_arr (level : Nat) (v : Json) (vs : List Json) : (prettyAt level (arr (v :: vs))).toList =
    '[' :: ((newline (level + 1)).toList ++ ((prettyAt (level + 1) v).toList ++
      ((prettyItems (level + 1) vs).toList ++ ((newline level).toList ++ [']'])))) := by
  simp [prettyAt]

theorem prettyAt_arr_starts (level : Nat) (vs : List Json) : ∃ cs, (prettyAt level (arr vs)).toList = '[' :: cs := by
  cases vs with
  | nil => exact ⟨[']'], by simp [prettyAt]⟩
  | cons v vs => exact ⟨_, toList_prettyAt_arr level v vs⟩

theorem toList_prettyMembers_cons (level : Nat) (k : String) (v : Json) (ms : List (String × Json)) :
    (prettyMembers level ((k, v) :: ms)).toList = ',' :: ((newline level).toList ++ ((quote k).toList ++
      ':' :: ' ' :: ((prettyAt level v).toList ++ (prettyMembers level ms).toList))) := by
  simp [prettyMembers]

theorem toList_prettyAt_obj (level : Nat) (k : String) (v : Json) (ms : List (String × Json)) :
    (prettyAt level (obj ((k, v) :: ms))).toList = '\x7b' :: ((newline (level + 1)).toList ++ ((quote k).toList ++
      ':' :: ' ' :: ((prettyAt (level + 1) v).toList ++ ((prettyMembers (level + 1) ms).toList ++
        ((newline level).toList ++ ['\x7d']))))) := by
  simp [prettyAt]

theorem prettyAt_obj_starts (level : Nat) (ms : List (String × Json)) :
    ∃ cs, (prettyAt level (obj ms)).toList = '\x7b' :: cs := by
  cases ms with
  | nil => exact ⟨['\x7d'], by simp [prettyAt]⟩
  | cons m ms => exact ⟨_, toList_prettyAt_obj level m.1 m.2 ms⟩

theorem stops_newline (level : Nat) (rest : List Char) : Stops ((newline level).toList ++ rest) := by
  rw [newline, String.toList_ofList]
  exact .newline _

theorem stops_items (level close : Nat) (vs : List Json) (rest : List Char) :
    Stops ((prettyItems level vs).toList ++ ((newline close).toList ++ rest)) := by
  cases vs with
  | nil => exact stops_newline close rest
  | cons v vs =>
    rw [toList_prettyItems_cons]
    exact .comma _

theorem stops_members (level close : Nat) (ms : List (String × Json)) (rest : List Char) :
    Stops ((prettyMembers level ms).toList ++ ((newline close).toList ++ rest)) := by
  cases ms with
  | nil => exact stops_newline close rest
  | cons m ms =>
    rw [toList_prettyMembers_cons]
    exact .comma _

/-! ### Reading back -/

/-- The text of a value, on whatever level it stands, gives the value back where there is room for it. -/
def ReadBack (v : Json) : Prop :=
  ∀ (room level n : Nat) (rest : List Char), 2 * (prettyAt level v).toList.length < n → Stops rest →
    value? room n ((prettyAt level v).toList ++ rest) = if v.depth ≤ room then some (v, rest) else none

namespace ReadBack

variable {v : Json} {room level n : Nat} {rest : List Char}

theorem of_room (h : ReadBack v) (hroom : v.depth ≤ room) (hn : 2 * (prettyAt level v).toList.length < n)
    (hrest : Stops rest) : value? room n ((prettyAt level v).toList ++ rest) = some (v, rest) :=
  (h room level n rest hn hrest).trans (if_pos hroom)

theorem of_no_room (h : ReadBack v) (hroom : ¬v.depth ≤ room) (hn : 2 * (prettyAt level v).toList.length < n)
    (hrest : Stops rest) : value? room n ((prettyAt level v).toList ++ rest) = none :=
  (h room level n rest hn hrest).trans (if_neg hroom)

/-- White space before a value that is read back. -/
theorem skipSpace (h : ReadBack v) (level : Nat) (hrest : Stops rest) :
    skipSpace ((prettyAt level v).toList ++ rest) = (prettyAt level v).toList ++ rest :=
  skipSpace_of_value? (h.of_room (Nat.le_refl _) (Nat.lt_succ_self _) hrest)

theorem starts (h : ReadBack v) (hrest : Stops rest) (cs : List Char) :
    (prettyAt level v).toList ++ rest ≠ ']' :: cs := by
  intro heq
  have hv := h.of_room (Nat.le_refl _) (Nat.lt_succ_self (2 * (prettyAt level v).toList.length)) hrest
  rw [heq] at hv
  exact (starts_of_value? hv).2 rfl

end ReadBack

theorem depthList_cons_le {v : Json} {vs : List Json} {room : Nat} (h : v.depth ≤ room) :
    depthList (v :: vs) ≤ room ↔ depthList vs ≤ room := by
  rw [depthList, Nat.max_le, and_iff_right h]

theorem depthMembers_cons_le {k : String} {v : Json} {ms : List (String × Json)} {room : Nat} (h : v.depth ≤ room) :
    depthMembers ((k, v) :: ms) ≤ room ↔ depthMembers ms ≤ room := by
  rw [depthMembers, Nat.max_le, and_iff_right h]

theorem items?_pretty {room level close : Nat} {rest : List Char} (vs : List Json) : ∀ (v : Json) (n : Nat),
    (∀ w ∈ v :: vs, ReadBack w) →
    2 * ((prettyAt level v).toList.length + (prettyItems level vs).toList.length) + 1 < n →
    items? room n ((prettyAt level v).toList ++
      ((prettyItems level vs).toList ++ ((newline close).toList ++ ']' :: rest))) =
        if depthList (v :: vs) ≤ room then some (v :: vs, rest) else none := by
  induction vs with
  | nil =>
    rintro v (_ | n) h hn
    · cases hn
    · have hv : ReadBack v := h v List.mem_cons_self
      have hstops := stops_items level close [] (']' :: rest)
      simp only [depthList, Nat.max_zero]
      split_ifs with hroom
      · exact items?_last (hv.of_room hroom (by omega) hstops) (skipSpace_newline close _)
      · exact items?_refused (hv.of_no_room hroom (by omega) hstops)
  | cons w vs ih =>
    rintro v (_ | n) h hn
    · cases hn
    · have hv : ReadBack v := h v List.mem_cons_self
      have hw : ReadBack w := h w (List.mem_cons_of_mem v List.mem_cons_self)
      have hstops := stops_items level close (w :: vs) (']' :: rest)
      by_cases hroom : v.depth ≤ room
      · have hvalue := hv.of_room hroom (show 2 * (prettyAt level v).toList.length < n by omega) hstops
        simp only [toList_prettyItems_cons, List.length_cons, List.length_append] at hn
        have hvs := ih w n (fun u hu => h u (List.mem_cons_of_mem v hu)) (by omega)
        simp only [toList_prettyItems_cons, List.cons_append, List.append_assoc] at hvalue ⊢
        rw [items?_more hvalue rfl, skipSpace_newline, hw.skipSpace level (stops_items level close vs (']' :: rest)), hvs]
        simp only [depthList_cons_le hroom]
        split <;> rfl
      · rw [items?_refused (hv.of_no_room hroom (by omega) hstops), if_neg]
        exact fun hle => hroom (Nat.le_trans (Nat.le_max_left _ _) hle)

theorem members?_pretty {room level close : Nat} {rest : List Char} (ms : List (String × Json)) :
    ∀ (k : String) (v : Json) (n : Nat), (∀ m ∈ (k, v) :: ms, ReadBack m.2) →
    2 * ((prettyAt level v).toList.length + (prettyMembers level ms).toList.length) + 1 < n →
    members? room n ((quote k).toList ++ (':' :: ' ' :: ((prettyAt level v).toList ++
      ((prettyMembers level ms).toList ++ ((newline close).toList ++ '\x7d' :: rest))))) =
        if depthMembers ((k, v) :: ms) ≤ room then some ((k, v) :: ms, rest) else none := by
  induction ms with
  | nil =>
    rintro k v (_ | n) h hn
    · cases hn
    · have hv : ReadBack v := h (k, v) List.mem_cons_self
      have hstops := stops_members level close [] ('\x7d' :: rest)
      have hskip := (skipSpace_blank _).trans (hv.skipSpace level hstops)
      simp only [depthMembers, Nat.max_zero]
      split_ifs with hroom
      · have hvalue := (congrArg (value? room n) hskip).trans (hv.of_room hroom (by omega) hstops)
        exact members?_last (string?_quote k _) hvalue (skipSpace_newline close _)
      · have hvalue := (congrArg (value? room n) hskip).trans (hv.of_no_room hroom (by omega) hstops)
        exact members?_refused (string?_quote k _) hvalue
  | cons m ms ih =>
    obtain ⟨k', w⟩ := m
    rintro k v (_ | n) h hn
    · cases hn
    · have hv : ReadBack v := h (k, v) List.mem_cons_self
      have hstops := stops_members level close ((k', w) :: ms) ('\x7d' :: rest)
      have hskip := (skipSpace_blank _).trans (hv.skipSpace level hstops)
      by_cases hroom : v.depth ≤ room
      · have hvalue := (congrArg (value? room n) hskip).trans (hv.of_room hroom (by omega) hstops)
        simp only [toList_prettyMembers_cons, List.length_cons, List.length_append] at hn
        have hms := ih k' w n (fun u hu => h u (List.mem_cons_of_mem (k, v) hu)) (by omega)
        simp only [toList_prettyMembers_cons, List.cons_append, List.append_assoc] at hvalue ⊢
        rw [members?_more (string?_quote k _) hvalue rfl, skipSpace_newline, skipSpace_quote, hms]
        simp only [depthMembers_cons_le hroom]
        split <;> rfl
      · have hvalue := (congrArg (value? room n) hskip).trans (hv.of_no_room hroom (by omega) hstops)
        rw [members?_refused (string?_quote k _) hvalue, if_neg]
        exact fun hle => hroom (Nat.le_trans (Nat.le_max_left _ _) hle)

theorem ReadBack.arr {vs : List Json} (h : ∀ v ∈ vs, ReadBack v) : ReadBack (arr vs) := by
  rintro (_ | room) level (_ | n) rest hn _
  · cases hn
  · obtain ⟨cs, hcs⟩ := prettyAt_arr_starts level vs
    rw [hcs]
    rfl
  · cases hn
  · cases vs with
    | nil => simp [prettyAt, value?, depth, depthList, Json.skipSpace, isSpace]
    | cons v vs =>
      have hv := h v List.mem_cons_self
      simp only [toList_prettyAt_arr, List.length_cons, List.length_append] at hn
      simp only [toList_prettyAt_arr, List.cons_append, List.append_assoc, List.nil_append]
      have hstops := stops_items (level + 1) level vs (']' :: rest)
      have hskip := (skipSpace_newline (level + 1) _).trans (hv.skipSpace (level + 1) hstops)
      rw [value?_items (by rw [hskip]; exact hv.starts hstops), hskip, items?_pretty vs v n h (by omega), depth]
      simp only [Nat.add_le_add_iff_right]
      split <;> rfl

theorem ReadBack.obj {ms : List (String × Json)} (h : ∀ m ∈ ms, ReadBack m.2) : ReadBack (obj ms) := by
  rintro (_ | room) level (_ | n) rest hn _
  · cases hn
  · obtain ⟨cs, hcs⟩ := prettyAt_obj_starts level ms
    rw [hcs]
    rfl
  · cases hn
  · cases ms with
    | nil => simp [prettyAt, value?, depth, depthMembers, Json.skipSpace, isSpace]
    | cons m ms =>
      obtain ⟨k, v⟩ := m
      simp only [toList_prettyAt_obj, List.length_cons, List.length_append] at hn
      simp only [toList_prettyAt_obj, List.cons_append, List.append_assoc, List.nil_append]
      have hskip (cs : List Char) := (skipSpace_newline (level + 1) _).trans (skipSpace_quote k cs)
      rw [value?_members (by rw [hskip]; exact quote_ne_brace k _), hskip, members?_pretty ms k v n h (by omega), depth]
      simp only [Nat.add_le_add_iff_right]
      split <;> rfl

mutual

theorem readBack : ∀ v : Json, v.integral → ReadBack v
  | .null, _ => by
    rintro _ _ (_ | _) _ hn _
    · cases hn
    · simp [prettyAt, value?, word, depth]
  | .bool b, _ => by
    rintro _ _ (_ | _) _ hn _
    · cases hn
    · cases b <;> simp [prettyAt, value?, word, depth]
  | .int i, _ => by
    rintro room _ (_ | _) rest hn h
    · cases hn
    · exact (value?_of_number? (number?_toString h i)).trans (if_pos (Nat.zero_le room)).symm
  | .decimal _, h => absurd h Bool.false_ne_true
  | .str s, _ => by
    rintro room _ (_ | _) rest hn h
    · cases hn
    · exact (value?_of_string? (string?_quote s rest)).trans (if_pos (Nat.zero_le room)).symm
  | .arr vs, h => .arr (readBack_items vs h)
  | .obj ms, h => .obj (readBack_members ms h)
termination_by structural v => v

theorem readBack_items : ∀ vs : List Json, integralItems vs → ∀ v ∈ vs, ReadBack v
  | [], _ => nofun
  | v :: vs, h => by
    rw [integralItems, Bool.and_eq_true] at h
    exact List.forall_mem_cons.mpr ⟨readBack v h.1, readBack_items vs h.2⟩
termination_by structural vs => vs

theorem readBack_members : ∀ ms : List (String × Json), integralMembers ms → ∀ m ∈ ms, ReadBack m.2
  | [], _ => nofun
  | (k, v) :: ms, h => by
    rw [integralMembers, Bool.and_eq_true] at h
    exact List.forall_mem_cons.mpr ⟨readBack v h.1, readBack_members ms h.2⟩
termination_by structural ms => ms

end

/-- The text of a value over several lines gives the value back, unless it is deeper than there is room. -/
theorem parse?_pretty {v : Json} (h : v.integral) (room : Nat) :
    parse? room v.pretty = if v.depth ≤ room then some v else none := by
  have hv := readBack v h
  have hspace := hv.skipSpace 0 .nil
  have hvalue := hv room 0 (2 * v.pretty.toList.length + 2) [] (by rw [pretty]; omega) .nil
  rw [List.append_nil] at hspace hvalue
  rw [parse?, pretty, hspace]
  rw [pretty] at hvalue
  rw [hvalue]
  split_ifs <;> rfl

end GoRebuild.Json
