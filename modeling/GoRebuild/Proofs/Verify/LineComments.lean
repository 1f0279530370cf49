import GoRebuild.Proofs.Text.StringValue
import GoRebuild.Proofs.Verify.Comments

/-!
# Where a line is cut

A line is characters and literals up to its line comment, or up to a literal that is not closed on it.

* `Enclosed q x` : what stands between two quotes;
* `Cut line before` : all literals before the line comment are closed, and `before` is what comes before the comment;
* `EndsOpen line` : a literal is not closed on the line;
* `commentStart` : the scan for the comment byte by byte; `commentStart_utf8` : it ends where the line is cut;
* `line_cut_at_comment` : the line is cut at its first two slashes outside literals.
-/

namespace GoRebuild.Verify
open Text Lexical

/-! ## Lines and literals -/

/-- What stands between two quotes: a backslash takes the next character with it, except between backquotes. -/
inductive Enclosed (q : Char) : List Char → Prop
  | nil : Enclosed q []
  | escape {d : Char} {x : List Char} (hq : q ≠ '\x60') (hx : Enclosed q x) : Enclosed q ('\\' :: d :: x)
  | char {c : Char} {x : List Char} (hc : c ≠ q) (hescape : c = '\\' → q = '\x60') (hx : Enclosed q x) : Enclosed q (c :: x)

/-- A line whose literals are closed, and what comes before its first two slashes outside them. -/
inductive Cut : List Char → List Char → Prop
  | done : Cut [] []
  | comment {x : List Char} : Cut ('/' :: '/' :: x) []
  | char {c : Char} {line before : List Char} (hquote : isQuote c = false) (hslash : ¬['/', '/'] <+: c :: line)
    (h : Cut line before) : Cut (c :: line) (c :: before)
  | literal {q : Char} {x line before : List Char} (hquote : isQuote q) (hx : Enclosed q x) (h : Cut line before) :
    Cut (q :: x ++ [q] ++ line) (q :: x ++ [q] ++ before)

/-- A line that ends inside a literal, without two slashes outside literals. -/
inductive EndsOpen : List Char → Prop
  | literal {q : Char} {x : List Char} (hquote : isQuote q) (hx : Enclosed q x) : EndsOpen (q :: x)
  | slash {q : Char} {x : List Char} (hquote : isQuote q) (hq : q ≠ '\x60') (hx : Enclosed q x) : EndsOpen (q :: x ++ ['\\'])
  | char {c : Char} {line : List Char} (hquote : isQuote c = false) (hslash : ¬['/', '/'] <+: c :: line)
    (h : EndsOpen line) : EndsOpen (c :: line)
  | closed {q : Char} {x line : List Char} (hquote : isQuote q) (hx : Enclosed q x) (h : EndsOpen line) :
    EndsOpen (q :: x ++ [q] ++ line)

variable {q c : Char} {x line before cs : List Char}

theorem slashes_prefix_iff : ['/', '/'] <+: c :: cs ↔ c = '/' ∧ cs.head? = some '/' := by
  cases cs with
  | nil => simp
  | cons d cs => simp [List.cons_prefix_cons, eq_comm]

theorem ne_slash_of_isQuote (h : isQuote q) : '\\' ≠ q := by
  rintro rfl
  cases h

theorem Enclosed.inside (hquote : isQuote q) (h : Enclosed q x) : Inside q x := by
  induction h with
  | nil => exact .nil
  | escape hq _ ih => exact .escape (ne_slash_of_isQuote hquote) hq _ ih
  | char hc hescape _ ih => exact .cons hc (fun hboth => hboth.2 (hescape hboth.1)) ih

/-- What comes before the comment is kept. -/
theorem Cut.strip (h : Cut line before) : stripComment line = before := by
  induction h with
  | done => rfl
  | comment => exact stripFrom_comment _
  | char hquote hslash _ ih => exact (stripFrom_plain hquote (mt slashes_prefix_iff.mpr hslash)).trans (congrArg _ ih)
  | literal hquote hx _ ih => exact ((hx.inside hquote).strip hquote _).trans (congrArg _ ih)

/-- What is cut is empty or begins with two slashes. -/
theorem Cut.exists_rest (h : Cut line before) : ∃ rest, line = before ++ rest ∧ (rest = [] ∨ ['/', '/'] <+: rest) := by
  induction h with
  | done => exact ⟨[], rfl, .inl rfl⟩
  | @comment x => exact ⟨_, rfl, .inr ⟨x, rfl⟩⟩
  | char _ _ _ ih =>
    obtain ⟨rest, rfl, hrest⟩ := ih
    exact ⟨rest, rfl, hrest⟩
  | literal _ _ _ ih =>
    obtain ⟨rest, rfl, hrest⟩ := ih
    exact ⟨rest, (List.append_assoc _ _ _).symm, hrest⟩

theorem strip_open (hquote : isQuote q) (hx : Enclosed q x) (l : List Char) :
    stripComment (q :: x ++ l) = q :: x ++ stripFrom (some q) l := by
  rw [stripComment, List.cons_append, stripFrom_open hquote, hx.inside hquote, List.cons_append]

/-- A line with an open literal is kept as a whole. -/
theorem EndsOpen.strip (h : EndsOpen line) : stripComment line = line := by
  induction h with
  | @literal q x hquote hx => simpa [stripFrom] using strip_open hquote hx []
  | @slash q x hquote hq hx =>
    rw [strip_open hquote hx, stripFrom.eq_def]
    simp [ne_slash_of_isQuote hquote, hq]
  | char hquote hslash _ ih => exact (stripFrom_plain hquote (mt slashes_prefix_iff.mpr hslash)).trans (congrArg _ ih)
  | closed hquote hx _ ih => exact ((hx.inside hquote).strip hquote _).trans (congrArg _ ih)

/-- Behind an opening quote: the closing one, or the end of the line. -/
theorem exists_enclosed (q : Char) : ∀ cs : List Char, (∃ x line, cs = x ++ [q] ++ line ∧ Enclosed q x) ∨ Enclosed q cs ∨
    ∃ x, cs = x ++ ['\\'] ∧ q ≠ '\x60' ∧ Enclosed q x
  | [] => .inr (.inl .nil)
  | c :: cs => by
    by_cases hc : c = q
    · subst hc
      exact .inl ⟨[], cs, rfl, .nil⟩
    by_cases hescape : c = '\\' ∧ q ≠ '\x60'
    · obtain ⟨rfl, hq⟩ := hescape
      cases cs with
      | nil => exact .inr (.inr ⟨[], rfl, hq, .nil⟩)
      | cons d ds =>
        rcases exists_enclosed q ds with ⟨x, line, rfl, hx⟩ | hds | ⟨x, rfl, -, hx⟩
        · exact .inl ⟨'\\' :: d :: x, line, rfl, .escape hq hx⟩
        · exact .inr (.inl (.escape hq hds))
        · exact .inr (.inr ⟨'\\' :: d :: x, rfl, hq, .escape hq hx⟩)
    · have hplain : c = '\\' → q = '\x60' := fun hslash => not_not.mp fun hq => hescape ⟨hslash, hq⟩
      rcases exists_enclosed q cs with ⟨x, line, rfl, hx⟩ | hcs | ⟨x, rfl, hq, hx⟩
      · exact .inl ⟨c :: x, line, rfl, .char hc hplain hx⟩
      · exact .inr (.inl (.char hc hplain hcs))
      · exact .inr (.inr ⟨c :: x, rfl, hq, .char hc hplain hx⟩)

/-- Every line is of one kind or the other. -/
theorem endsOpen_or_cut : ∀ line : List Char, EndsOpen line ∨ ∃ before, Cut line before
  | [] => .inr ⟨[], .done⟩
  | c :: cs => by
    by_cases hquote : isQuote c
    · rcases exists_enclosed c cs with ⟨x, line, rfl, hx⟩ | hcs | ⟨x, rfl, hq, hx⟩
      · rcases endsOpen_or_cut line with hopen | ⟨before, hcut⟩
        · exact .inl (.closed hquote hx hopen)
        · exact .inr ⟨_, .literal hquote hx hcut⟩
      · exact .inl (.literal hquote hcs)
      · exact .inl (.slash hquote hq hx)
    · by_cases hslash : ['/', '/'] <+: c :: cs
      · obtain ⟨x, hx⟩ := hslash
        exact .inr ⟨[], hx ▸ .comment⟩
      · rcases endsOpen_or_cut cs with hopen | ⟨before, hcut⟩
        · exact .inl (.char (eq_false_of_ne_true hquote) hslash hopen)
        · exact .inr ⟨_, .char (eq_false_of_ne_true hquote) hslash hcut⟩
termination_by line => line.length

/-- A comment behind a line changes nothing, but for the space before it. -/
theorem Cut.append (h : Cut line before) (t : List Char) :
    ∃ space, Cut (line ++ ' ' :: '/' :: '/' :: t) (before ++ space) ∧ space.all isBlank := by
  induction h with
  | done => exact ⟨[' '], .char (by decide) (by simp) .comment, by decide⟩
  | comment => exact ⟨[], .comment, rfl⟩
  | @char c line before hquote hslash _ ih =>
    obtain ⟨space, hcut, hspace⟩ := ih
    refine ⟨space, .char hquote ?_ hcut, hspace⟩
    rw [slashes_prefix_iff] at hslash ⊢
    cases line with
    | nil => simp
    | cons d line => exact hslash
  | @literal q x line before hquote hx _ ih =>
    obtain ⟨space, hcut, hspace⟩ := ih
    refine ⟨space, ?_, hspace⟩
    rw [List.append_assoc _ line, List.append_assoc _ before]
    exact .literal hquote hx hcut

/-! ## The scan byte by byte -/

/-- The quotes that open a literal, as bytes. -/
def isQuoteByte (b : UInt8) : Bool :=
  b = '"'.toUInt8 || b = '\x60'.toUInt8 || b = '\''.toUInt8

/-- How many bytes of a line come before its line comment, from an index on; `quote` is the literal that is open. A
backslash takes the next byte with it, which may be behind the end of the line. -/
def commentStart (bytes : List UInt8) (quote : Option UInt8) (i : Nat) : Nat :=
  if h : i < bytes.length then
    match quote with
    | some q =>
      if bytes[i] = q then commentStart bytes none (i + 1)
      else if bytes[i] = '\\'.toUInt8 ∧ q ≠ '\x60'.toUInt8 then commentStart bytes quote (i + 2)
      else commentStart bytes quote (i + 1)
    | none =>
      if isQuoteByte bytes[i] then commentStart bytes (some bytes[i]) (i + 1)
      else if bytes[i] = '/'.toUInt8 ∧ bytes[i + 1]? = some '/'.toUInt8 then i
      else commentStart bytes none (i + 1)
  else bytes.length
termination_by bytes.length - i

variable {c d : Char} {b : UInt8}

section
variable (pre rest : List UInt8) (b q : UInt8)

theorem commentStart_end (quote : Option UInt8) (i : Nat) (h : pre.length ≤ i) : commentStart pre quote i = pre.length := by
  rw [commentStart, dif_neg (Nat.not_lt.mpr h)]

theorem commentStart_inside : commentStart (pre ++ b :: rest) (some q) pre.length =
    if b = q then commentStart (pre ++ b :: rest) none (pre.length + 1)
    else if b = '\\'.toUInt8 ∧ q ≠ '\x60'.toUInt8 then commentStart (pre ++ b :: rest) (some q) (pre.length + 2)
    else commentStart (pre ++ b :: rest) (some q) (pre.length + 1) := by
  rw [commentStart]
  simp

theorem commentStart_outside : commentStart (pre ++ b :: rest) none pre.length =
    if isQuoteByte b then commentStart (pre ++ b :: rest) (some b) (pre.length + 1)
    else if b = '/'.toUInt8 ∧ rest.head? = some '/'.toUInt8 then pre.length
    else commentStart (pre ++ b :: rest) none (pre.length + 1) := by
  have hnext : (pre ++ b :: rest)[pre.length + 1]? = rest.head? := by
    rw [List.getElem?_append_right (Nat.le_add_right _ 1), Nat.add_sub_cancel_left, List.getElem?_cons_succ,
      List.head?_eq_getElem?]
  rw [commentStart, hnext]
  simp

/-- Bytes that mean nothing inside a literal. -/
theorem commentStart_skip {bs : List UInt8} (hbs : ∀ b ∈ bs, b ≠ q ∧ ¬(b = '\\'.toUInt8 ∧ q ≠ '\x60'.toUInt8)) :
    commentStart (pre ++ (bs ++ rest)) (some q) pre.length =
      commentStart (pre ++ (bs ++ rest)) (some q) (pre ++ bs).length := by
  induction bs generalizing pre with
  | nil => rw [List.append_nil]
  | cons b bs ih =>
    obtain ⟨hb, hbs⟩ := List.forall_mem_cons.mp hbs
    rw [List.cons_append, commentStart_inside, if_neg hb.1, if_neg hb.2]
    simpa using ih (pre ++ [b]) hbs

/-- Bytes that mean nothing outside literals. -/
theorem commentStart_pass {bs : List UInt8} (hbs : ∀ b ∈ bs, isQuoteByte b = false ∧ b ≠ '/'.toUInt8) :
    commentStart (pre ++ (bs ++ rest)) none pre.length =
      commentStart (pre ++ (bs ++ rest)) none (pre ++ bs).length := by
  induction bs generalizing pre with
  | nil => rw [List.append_nil]
  | cons b bs ih =>
    obtain ⟨hb, hbs⟩ := List.forall_mem_cons.mp hbs
    rw [List.cons_append, commentStart_outside, if_neg (Bool.eq_false_iff.mp hb.1), if_neg fun hboth => hb.2 hboth.1]
    simpa using ih (pre ++ [b]) hbs

end

theorem ascii_of_isQuote (h : isQuote c) : c.toNat < 128 := by
  simp only [isQuote, Bool.or_eq_true, decide_eq_true_eq] at h
  rcases h with (rfl | rfl) | rfl <;> decide

/-- The scan of the bytes ends where the line is cut. -/
theorem commentStart_utf8 (pre : List UInt8) (quote : Option Char) (hquote : ∀ q ∈ quote, isQuote q) (cs : List Char) :
    commentStart (pre ++ utf8 cs) (quote.map Char.toUInt8) pre.length = (pre ++ utf8 (stripFrom quote cs)).length := by
  fun_induction stripFrom quote cs generalizing pre with
  | case1 quote =>
    exact commentStart_end _ _ _ (Nat.le_of_eq (congrArg List.length (List.append_nil pre)))
  | case2 q cs ih =>
    have hq := utf8EncodeChar_of_ascii (ascii_of_isQuote (hquote q rfl))
    have hrest := ih (pre ++ [q.toUInt8]) (by simp)
    rw [List.append_assoc, List.append_assoc] at hrest
    rw [utf8_cons, utf8_cons, hq, ← hrest, List.singleton_append, Option.map_some, commentStart_inside, if_pos rfl,
      List.length_append]
    rfl
  | case3 q c hne hescape =>
    obtain ⟨rfl, hraw⟩ := hescape
    have hq := ascii_of_isQuote (hquote q rfl)
    have hslash : '\\'.toUInt8 ≠ q.toUInt8 := ne_of_mem_utf8 hq hne (by decide)
    have hnot : q.toUInt8 ≠ '\x60'.toUInt8 := ne_of_mem_utf8 (by decide) hraw (by rw [utf8EncodeChar_of_ascii hq]; simp)
    rw [utf8_cons, utf8EncodeChar_of_ascii (by decide), List.singleton_append, Option.map_some, commentStart_inside,
      if_neg hslash, if_pos ⟨rfl, hnot⟩, commentStart_end]
    simp [utf8]
  | case4 q c hne hescape d ds ih =>
    obtain ⟨rfl, hraw⟩ := hescape
    have hq := ascii_of_isQuote (hquote q rfl)
    have hslash : '\\'.toUInt8 ≠ q.toUInt8 := ne_of_mem_utf8 hq hne (by decide)
    have hnot : q.toUInt8 ≠ '\x60'.toUInt8 := ne_of_mem_utf8 (by decide) hraw (by rw [utf8EncodeChar_of_ascii hq]; simp)
    -- the scan passes over one byte of the character, and the others mean nothing
    obtain ⟨b, bs, hbytes, hbs⟩ := exists_utf8EncodeChar d
    have hmeans : ∀ b ∈ bs, b ≠ q.toUInt8 ∧ ¬(b = '\\'.toUInt8 ∧ q.toUInt8 ≠ '\x60'.toUInt8) := fun b hb =>
      ⟨ne_toUInt8_of_le hq (hbs b hb), fun hboth => ne_toUInt8_of_le (by decide) (hbs b hb) hboth.1⟩
    have hskip := commentStart_skip (pre ++ ['\\'.toUInt8, b]) (utf8 ds) q.toUInt8 hmeans
    have hrest := ih (pre ++ ['\\'.toUInt8, b] ++ bs) hquote
    rw [List.append_assoc, Option.map_some, ← hskip] at hrest
    rw [utf8_cons, utf8_cons, utf8_cons, utf8_cons, hbytes, utf8EncodeChar_of_ascii (by decide), Option.map_some,
      List.singleton_append, commentStart_inside, if_neg hslash, if_pos ⟨rfl, hnot⟩]
    simpa using hrest
  | case5 q c cs hne hescape ih =>
    have hq := ascii_of_isQuote (hquote q rfl)
    have hrest := ih (pre ++ String.utf8EncodeChar c) hquote
    rw [List.append_assoc, List.append_assoc] at hrest
    rw [utf8_cons, utf8_cons, ← hrest]
    refine commentStart_skip _ _ _ fun b hb => ⟨ne_of_mem_utf8 hq hne hb, fun hboth => ?_⟩
    obtain ⟨rfl, hraw⟩ := hboth
    refine hescape ⟨eq_of_mem_utf8 (by decide) hb, ?_⟩
    rintro rfl
    exact hraw rfl
  | case6 c cs hopen ih =>
    have hc := utf8EncodeChar_of_ascii (ascii_of_isQuote hopen)
    have hbyte : isQuoteByte c.toUInt8 := by
      simp only [isQuote, Bool.or_eq_true, decide_eq_true_eq] at hopen
      rcases hopen with (rfl | rfl) | rfl <;> decide
    have hrest := ih (pre ++ [c.toUInt8]) (by rintro _ ⟨⟩; exact hopen)
    rw [List.append_assoc, List.append_assoc] at hrest
    rw [utf8_cons, utf8_cons, hc, ← hrest, List.singleton_append, Option.map_none, commentStart_outside, if_pos hbyte,
      List.length_append]
    rfl
  | case7 c cs hopen hslash =>
    obtain ⟨rfl, hhead⟩ := hslash
    obtain ⟨ds, rfl⟩ := List.head?_eq_some_iff.mp hhead
    rw [utf8_cons, utf8EncodeChar_of_ascii (by decide), List.singleton_append, Option.map_none, commentStart_outside,
      if_neg (by decide), if_pos ⟨rfl, rfl⟩]
    simp [utf8]
  | case8 c cs hopen hslash ih =>
    have hrest := ih (pre ++ String.utf8EncodeChar c) (by simp)
    rw [List.append_assoc, List.append_assoc] at hrest
    rw [utf8_cons, utf8_cons, ← hrest]
    by_cases hc : c = '/'
    · subst hc
      have hnext : ¬('/'.toUInt8 = '/'.toUInt8 ∧ (utf8 cs).head? = some '/'.toUInt8) := by
        rintro ⟨-, hhead⟩
        cases cs with
        | nil => cases hhead
        | cons d ds =>
          obtain ⟨b, bs, hbytes, -⟩ := exists_utf8EncodeChar d
          rw [utf8_cons, hbytes, List.cons_append, List.head?_cons, Option.some.injEq] at hhead
          have hmem : '/'.toUInt8 ∈ String.utf8EncodeChar d := by rw [hbytes, hhead]; exact List.mem_cons_self
          exact hslash ⟨rfl, congrArg some (eq_of_mem_utf8 (by decide) hmem)⟩
      rw [utf8EncodeChar_of_ascii (by decide), List.singleton_append, Option.map_none, commentStart_outside,
        if_neg (by decide), if_neg hnext, List.length_append]
      rfl
    · refine commentStart_pass _ _ fun b hb => ⟨?_, ne_of_mem_utf8 (by decide) hc hb⟩
      have hplain (d : Char) (hd : d.toNat < 128) (hquote : isQuote d) : b ≠ d.toUInt8 :=
        ne_of_mem_utf8 hd (fun hcd : c = d => hopen (hcd ▸ hquote)) hb
      simp [isQuoteByte, hplain '"' (by decide) (by decide), hplain '\x60' (by decide) (by decide),
        hplain '\'' (by decide) (by decide)]

/-! ## Where a line is cut -/

/-- **A line is cut at its comment.** What is left is a prefix that is not stripped of more, and the scan of the bytes ends
behind its last character. Every line either has all literals closed up to its comment, or ends inside one. In the first
case it is cut at the first two slashes outside literals, and a comment that is added makes no difference but for white
space; in the second it is kept. -/
theorem line_cut_at_comment (line : List Char) :
    stripComment line <+: line ∧ stripComment (stripComment line) = stripComment line ∧
    (utf8 line).take (commentStart (utf8 line) none 0) = utf8 (stripComment line) ∧
    (EndsOpen line ∨ ∃ before, Cut line before) ∧
    (∀ before, Cut line before → stripComment line = before ∧
      (∃ rest, line = before ++ rest ∧ (rest = [] ∨ ['/', '/'] <+: rest)) ∧
      ∀ t, dropBlankEnd (stripComment (line ++ ' ' :: '/' :: '/' :: t)) = dropBlankEnd (stripComment line)) ∧
    (EndsOpen line → stripComment line = line) := by
  obtain ⟨rest, hrest, -⟩ := exists_stripFrom none line
  have hbytes : utf8 line = utf8 (stripComment line) ++ utf8 rest :=
    (congrArg utf8 hrest).trans List.flatMap_append
  have hscan : commentStart (utf8 line) none 0 = (utf8 (stripComment line)).length :=
    commentStart_utf8 [] none nofun line
  refine ⟨⟨rest, hrest.symm⟩, stripFrom_stripFrom none line, ?_, endsOpen_or_cut line, fun before hcut => ?_, EndsOpen.strip⟩
  · rw [hscan, hbytes, List.take_left]
  · refine ⟨hcut.strip, hcut.exists_rest, fun t => ?_⟩
    obtain ⟨space, happend, hspace⟩ := hcut.append t
    rw [happend.strip, hcut.strip, dropBlankEnd_append, dropBlankEnd_eq_nil_of_blank hspace, if_pos rfl]

/-- Slashes behind an escaped quote, a quote in the comment, and a raw string that the line does not close. -/
theorem line_cut_at_comment_literals :
    (Cut "\x22\\\x22//\x22 // it's".toList "\x22\\\x22//\x22 ".toList ∧
      stripComment "\x22\\\x22//\x22 // it's".toList = "\x22\\\x22//\x22 ".toList) ∧
    EndsOpen "\x60a // b".toList ∧ stripComment "\x60a // b".toList = "\x60a // b".toList := by
  have hinside : Enclosed '"' ['\\', '"', '/', '/'] :=
    .escape (by decide) (.char (by decide) nofun (.char (by decide) nofun .nil))
  have hcut : Cut "\x22\\\x22//\x22 // it's".toList "\x22\\\x22//\x22 ".toList :=
    .literal (by decide) hinside (.char (by decide) (by decide) .comment)
  have hopen : EndsOpen "\x60a // b".toList :=
    .literal (by decide) (.char (by decide) nofun (.char (by decide) nofun (.char (by decide) nofun
      (.char (by decide) nofun (.char (by decide) nofun (.char (by decide) nofun .nil))))))
  obtain ⟨-, -, -, -, hkept, -⟩ := line_cut_at_comment "\x22\\\x22//\x22 // it's".toList
  obtain ⟨-, -, -, -, -, hwhole⟩ := line_cut_at_comment "\x60a // b".toList
  exact ⟨⟨hcut, (hkept _ hcut).1⟩, hopen, hwhole hopen⟩

end GoRebuild.Verify
