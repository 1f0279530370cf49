import GoRebuild.Proofs.Lexical.Breaks

/-!
# What a text consists of

* `Spelling` : a token without its place; `inLine`, `sign`, `callEnd` : some that end no line;
* `Span` : a token, or a comment with the character behind it; `spellings` : the tokens among spans;
* `Scans newLine cs spans` : a text consists of spans with white space between them, behind a line break or not.
  Each token is checked with what follows it in the text;
* `Scans.unique`, `Scans.scan` : a text has one row of spans, whose tokens are those of `scan`;
* `spans` : the spans of a source.
-/

namespace GoRebuild.Lexical
open Text
open Verify (isQuote)

/-- A token without its place. -/
structure Spelling where
  kind : TokenKind
  text : String
  newLine : Bool
  deriving DecidableEq, Repr

def Token.spelling (t : Token) : Spelling :=
  ⟨t.kind, t.text, t.newLine⟩

/-- A token on the line of the one before. -/
def inLine (kind : TokenKind) (text : String) : Spelling :=
  ⟨kind, text, false⟩

/-- A symbol on the line of the token before. -/
def sign (text : String) : Spelling :=
  inLine .symbol text

/-- The end of a call that is broken over lines or not. -/
def callEnd (broken : Bool) : List Spelling :=
  if broken then [sign ",", ⟨.symbol, ")", true⟩] else [sign ")"]

/-- What a text consists of besides white space. -/
inductive Span where
  | token (t : Spelling)
  /-- a comment, and the character behind it -/
  | comment (text : List Char) (next : Option Char)
  deriving DecidableEq, Repr

/-- The token that a span is. -/
def Span.token? : Span → Option Spelling
  | token t => some t
  | comment _ _ => none

/-- The tokens among spans. -/
def spellings (spans : List Span) : List Spelling :=
  spans.filterMap Span.token?

/-- Neither white space nor a comment comes first. -/
structure StartsToken (cs : List Char) : Prop where
  space : ∀ c ∈ cs.head?, isSpace c = false
  comment : commentLength cs = none

/-- The spans of a text behind a line break or not. -/
inductive Scans : Bool → List Char → List Span → Prop
  | nil {newLine} : Scans newLine [] []
  | space {newLine c cs spans} : isSpace c → Scans (newLine || c = '\n') cs spans → Scans newLine (c :: cs) spans
  | comment {newLine cs n spans} : commentLength cs = some n → Scans newLine (cs.drop n) spans →
    Scans newLine cs (.comment (cs.take n) (cs.drop n).head? :: spans)
  | token {newLine cs kind n spans} : StartsToken cs → lexeme? cs = some (kind, n) →
    Scans false (cs.drop n) spans → Scans newLine cs (.token ⟨kind, String.ofList (cs.take n), newLine⟩ :: spans)

theorem commentLength_of_ne {c : Char} (hc : c ≠ '/') (cs : List Char) : commentLength (c :: cs) = none := by
  unfold commentLength
  split
  · rename_i heq
    exact absurd (List.cons.inj heq).1 hc
  · rename_i heq
    exact absurd (List.cons.inj heq).1 hc
  · rfl

theorem commentLength_of_space {c : Char} (hc : isSpace c) (cs : List Char) : commentLength (c :: cs) = none := by
  refine commentLength_of_ne ?_ cs
  rintro rfl
  cases hc

theorem commentLength_pos {cs : List Char} {n : Nat} (h : commentLength cs = some n) : 0 < n := by
  unfold commentLength at h
  split at h
  · cases h
    omega
  · obtain ⟨m, -, rfl⟩ := Option.map_eq_some_iff.mp h
    omega
  · cases h

theorem commentTailLength_append {v : List Char} {n : Nat} (h : commentTailLength v = some n) (s : List Char) :
    commentTailLength (v ++ s) = some n := by
  fun_induction commentTailLength v generalizing n with
  | case1 => cases h
  | case2 => exact h
  | case3 c cs hne ih =>
    obtain ⟨m, hm, rfl⟩ := Option.map_eq_some_iff.mp h
    rw [List.cons_append, commentTailLength, ih hm]
    · rfl
    · -- the end of the comment is part of it
      intro tail hstar hslash
      cases cs with
      | nil => cases hm
      | cons d ds => exact hne ds hstar (by rw [(List.cons.inj hslash).1])

theorem lexeme_pos {cs : List Char} {kind : TokenKind} {n : Nat} (h : lexeme? cs = some (kind, n)) : 0 < n := by
  rw [Nat.pos_iff_ne_zero]
  rintro rfl
  -- no kind has the empty text
  have hdescribes := describes_of_lexeme h
  rw [List.take_zero] at hdescribes
  cases kind with
  | word => cases hdescribes
  | keyword => cases hdescribes
  | literal k => cases hdescribes
  | symbol => cases hdescribes
  | stop =>
    have hnul : String.ofList [] ≠ "\x00" := by decide
    exact absurd hdescribes hnul

theorem lexeme_ne_nil {cs : List Char} {kind : TokenKind} {n : Nat} (h : lexeme? cs = some (kind, n)) : cs ≠ [] := by
  rintro rfl
  cases h

/-! ## Where no token begins -/

/-- What begins no word, literal or symbol begins no token. -/
theorem lexeme_eq_none {c : Char} (hstart : isIdentifierStart c = false) (hquote : isQuote c = false) (hnul : c ≠ '\x00')
    (hbreak : isBreak c) (hsymbol : ∀ t ∈ symbols, t.toList.head? ≠ some c) (v : List Char) : lexeme? (c :: v) = none := by
  simp only [isQuote, Bool.or_eq_false_iff, decide_eq_false_iff_not] at hquote
  have hnumber : numberLength (c :: v) = none := numberLength_append (.cons hbreak v) []
  have hnone : symbolLength (c :: v) = none := by
    refine Option.map_eq_none_iff.mpr (List.find?_eq_none.mpr fun t ht hprefix => ?_)
    have hhead := hsymbol t ht
    have hne : t.toList ≠ [] := by
      intro hnil
      have hall : ∀ t ∈ symbols, t.toList ≠ [] := by decide +kernel
      exact hall t ht hnil
    obtain ⟨d, u, htext⟩ := List.exists_cons_of_ne_nil hne
    rw [htext, List.isPrefixOf, Bool.and_eq_true, beq_iff_eq] at hprefix
    rw [htext, hprefix.1] at hhead
    exact hhead rfl
  simp [lexeme?, hstart, hquote, hnul, hnumber, hnone]

theorem not_blank_of_lexeme {c : Char} {v : List Char} {kind : TokenKind} {n : Nat}
    (h : lexeme? (c :: v) = some (kind, n)) : isBlank c = false := by
  have hplain : ∀ n ∈ blanks, isIdentifierStart (Char.ofNat n) = false ∧ isQuote (Char.ofNat n) = false ∧
      Char.ofNat n ≠ '\x00' := by
    decide +kernel
  have hsymbol : ∀ t ∈ symbols, t.toList.head?.all (fun d => !isBlank d) = true := by
    decide +kernel
  rw [← Bool.not_eq_true]
  intro hblank
  obtain ⟨hstart, hquote, hnul⟩ := hplain c.toNat (mem_blanks hblank)
  rw [Char.ofNat_toNat] at hstart hquote hnul
  rw [lexeme_eq_none hstart hquote hnul (break_of_blank hblank)] at h
  · cases h
  · intro t ht hhead
    have hfirst := hsymbol t ht
    rw [hhead, Option.all_some, hblank] at hfirst
    cases hfirst

/-- A token is no comment but for its slash. -/
theorem startsToken_of_lexeme {c : Char} {v : List Char} {kind : TokenKind} {n : Nat}
    (h : lexeme? (c :: v) = some (kind, n)) (hc : c ≠ '/') : StartsToken (c :: v) := by
  refine ⟨?_, commentLength_of_ne hc v⟩
  rintro d ⟨⟩
  rw [← Bool.not_eq_true]
  intro hspace
  have hblank := not_blank_of_lexeme h
  rw [blank_of_space hspace] at hblank
  cases hblank

/-! ## The spans of a text are unique -/

namespace Scans

variable {newLine : Bool} {cs : List Char} {spans others : List Span}

theorem unique (h : Scans newLine cs spans) (h' : Scans newLine cs others) : spans = others := by
  induction h generalizing others with
  | nil =>
    cases h' with
    | nil => rfl
    | comment hlength _ => cases hlength
    | token _ hlexeme _ => cases hlexeme
  | space hc _ ih =>
    cases h' with
    | space _ hrest => exact ih hrest
    | comment hlength _ => rw [commentLength_of_space hc] at hlength; cases hlength
    | token hstart _ _ => rw [hstart.space _ rfl] at hc; cases hc
  | comment hlength _ ih =>
    cases h' with
    | nil => cases hlength
    | space hc _ => rw [commentLength_of_space hc] at hlength; cases hlength
    | comment hlength' hrest =>
      rw [hlength] at hlength'
      cases hlength'
      rw [ih hrest]
    | token hstart _ _ => rw [hstart.comment] at hlength; cases hlength
  | token hstart hlexeme _ ih =>
    cases h' with
    | nil => cases hlexeme
    | space hc _ => rw [hstart.space _ rfl] at hc; cases hc
    | comment hlength _ => rw [hstart.comment] at hlength; cases hlength
    | token _ hlexeme' hrest =>
      rw [hlexeme] at hlexeme'
      cases hlexeme'
      rw [ih hrest]

/-! ## Scanning -/

/-- What scanning comes to behind white space and comments: the end, or the first token. -/
theorem skipBlanks (h : Scans newLine cs spans) {n : Nat} (hn : cs.length ≤ n) (p : Cursor) :
    ∃ q newLine' cs', skipBlanks n p newLine cs = (q, newLine', cs') ∧ cs'.length ≤ cs.length ∧
      (cs' = [] ∧ spellings spans = [] ∨
        ∃ kind m rest, StartsToken cs' ∧ lexeme? cs' = some (kind, m) ∧ Scans false (cs'.drop m) rest ∧
          spellings spans = ⟨kind, String.ofList (cs'.take m), newLine'⟩ :: spellings rest) := by
  induction h generalizing n p with
  | @nil newLine =>
    refine ⟨p, newLine, [], ?_, Nat.le_refl _, .inl ⟨rfl, rfl⟩⟩
    cases n <;> rfl
  | @space newLine c cs spans hc _ ih =>
    rw [List.length_cons] at hn
    obtain ⟨m, rfl⟩ : ∃ m, n = m + 1 := ⟨n - 1, by omega⟩
    obtain ⟨q, newLine', cs', hskip, hle, hend⟩ := ih (n := m) (by omega) (p.advance c)
    refine ⟨q, newLine', cs', ?_, ?_, hend⟩
    · rw [Lexical.skipBlanks, if_pos hc, hskip]
    · rw [List.length_cons]
      omega
  | @comment newLine cs k spans hlength _ ih =>
    have hk := commentLength_pos hlength
    have hdrop := List.length_drop (i := k) (l := cs)
    cases cs with
    | nil => cases hlength
    | cons c cs =>
      have hc : ¬isSpace c := by
        intro hc
        rw [commentLength_of_space hc] at hlength
        cases hlength
      rw [List.length_cons] at hn hdrop
      obtain ⟨m, rfl⟩ : ∃ m, n = m + 1 := ⟨n - 1, by omega⟩
      obtain ⟨q, newLine', cs', hskip, hle, hend⟩ :=
        ih (n := m) (by omega) (p.advanceBy ((c :: cs).take k))
      refine ⟨q, newLine', cs', ?_, ?_, hend⟩
      · rw [Lexical.skipBlanks, if_neg hc, hlength]
        exact hskip
      · rw [List.length_cons]
        omega
  | @token newLine cs kind k spans hstart hlexeme hrest _ =>
    refine ⟨p, newLine, cs, ?_, Nat.le_refl _, .inr ⟨kind, k, spans, hstart, hlexeme, hrest, rfl⟩⟩
    cases cs with
    | nil => cases hlexeme
    | cons c cs =>
      rw [List.length_cons] at hn
      obtain ⟨m, rfl⟩ : ∃ m, n = m + 1 := ⟨n - 1, by omega⟩
      rw [Lexical.skipBlanks, if_neg (by rw [hstart.space c rfl]; exact Bool.false_ne_true), hstart.comment]

/-- A text with spans scans, and its tokens are those among the spans. -/
theorem scanFrom (h : Scans false cs spans) {n : Nat} (hn : cs.length < n) (index : Nat) (p : Cursor) :
    ∃ tokens, scanFrom n index p cs = some tokens ∧ tokens.map (·.1.spelling) = spellings spans := by
  induction n generalizing cs spans index p with
  | zero => omega
  | succ n ih =>
    obtain ⟨q, newLine', cs', hskip, hle, hend⟩ := h.skipBlanks (Nat.le_refl cs.length) p
    rw [Lexical.scanFrom, hskip]
    dsimp only
    rcases hend with ⟨rfl, hspellings⟩ | ⟨kind, m, rest, -, hlexeme, hrest, hspellings⟩
    · exact ⟨[], rfl, hspellings.symm⟩
    · have hm := lexeme_pos hlexeme
      have hne := lexeme_ne_nil hlexeme
      have hpos := List.length_pos_iff.mpr hne
      have hdrop := List.length_drop (i := m) (l := cs')
      obtain ⟨tokens, htokens, heq⟩ := ih hrest (by omega) (index + 1) (q.advanceBy (cs'.take m))
      rw [if_neg (by simpa using hne), hlexeme]
      simp only [Option.bind_eq_bind, Option.bind_some, htokens]
      exact ⟨_, rfl, by rw [List.map_cons, heq, hspellings]; rfl⟩

/-- Whether a line break comes before the first token matters for that token only. -/
theorem behindBreak (h : Scans newLine cs spans) :
    ∃ others, Scans true cs others ∧
      spellings others = (spellings spans).modifyHead fun t => ⟨t.kind, t.text, true⟩ := by
  induction h with
  | nil => exact ⟨[], .nil, rfl⟩
  | space hc _ ih =>
    obtain ⟨others, hothers, heq⟩ := ih
    exact ⟨others, .space hc hothers, heq⟩
  | comment hlength _ ih =>
    obtain ⟨others, hothers, heq⟩ := ih
    exact ⟨_, .comment hlength hothers, heq⟩
  | token hstart hlexeme hrest _ => exact ⟨_, .token hstart hlexeme hrest, rfl⟩

end Scans

/-! ## The spans of a source -/

/-- The text of a source without a byte order mark at its start. -/
def body (source : String) : List Char :=
  match source.toList with
  | '\ufeff' :: cs => cs
  | cs => cs

/-- The spans of the rest of a source; the bound is on the number of steps. -/
def spansFrom : Nat → Bool → List Char → Option (List Span)
  | 0, _, _ => none
  | _ + 1, _, [] => some []
  | bound + 1, newLine, c :: cs =>
    if isSpace c then spansFrom bound (newLine || c = '\n') cs
    else
      match commentLength (c :: cs) with
      | some n =>
        (spansFrom bound newLine ((c :: cs).drop n)).map
          (.comment ((c :: cs).take n) ((c :: cs).drop n).head? :: ·)
      | none => do
        let (kind, n) ← lexeme? (c :: cs)
        let rest ← spansFrom bound false ((c :: cs).drop n)
        some (.token ⟨kind, String.ofList ((c :: cs).take n), newLine⟩ :: rest)

/-- The spans of a source. -/
def spans (source : String) : Option (List Span) :=
  spansFrom ((body source).length + 1) false (body source)

theorem scans_of_spansFrom {bound : Nat} {newLine : Bool} {cs : List Char} {row : List Span}
    (h : spansFrom bound newLine cs = some row) : Scans newLine cs row := by
  induction bound generalizing newLine cs row with
  | zero => cases h
  | succ bound ih =>
    cases cs with
    | nil =>
      cases h
      exact .nil
    | cons c cs =>
      rw [spansFrom] at h
      split at h
      · rename_i hc
        exact .space hc (ih h)
      · rename_i hc
        cases hlength : commentLength (c :: cs) with
        | some n =>
          rw [hlength] at h
          obtain ⟨rest, hrest, rfl⟩ := Option.map_eq_some_iff.mp h
          exact .comment hlength (ih hrest)
        | none =>
          rw [hlength] at h
          cases hlexeme : lexeme? (c :: cs) with
          | none =>
            rw [hlexeme] at h
            cases h
          | some r =>
            obtain ⟨kind, n⟩ := r
            rw [hlexeme] at h
            simp only [Option.bind_eq_bind, Option.bind_some, Option.bind_eq_some_iff] at h
            obtain ⟨rest, hrest, heq⟩ := h
            cases heq
            refine .token ⟨?_, hlength⟩ hlexeme (ih hrest)
            rintro d ⟨⟩
            exact eq_false_of_ne_true hc

/-- A text that consists of spans scans, and its tokens are those among them. -/
theorem Scans.scan {source : String} {row : List Span} (h : Scans false (body source) row) :
    ∃ tokens, Lexical.scan source = some tokens ∧ tokens.map (·.1.spelling) = spellings row := by
  by_cases hmark : ∃ cs, source.toList = '\ufeff' :: cs
  · obtain ⟨cs, hcs⟩ := hmark
    unfold body at h
    unfold Lexical.scan
    rw [hcs] at h ⊢
    exact h.scanFrom (Nat.lt_succ_self _) 0 _
  · have hbody : body source = source.toList := by
      unfold body
      split
      · rename_i cs hcs
        exact absurd ⟨cs, hcs⟩ hmark
      · rfl
    have hscan : Lexical.scan source = Lexical.scanFrom (source.toList.length + 1) 0 .start source.toList := by
      unfold Lexical.scan
      split
      · rename_i cs hcs
        exact absurd ⟨cs, hcs⟩ hmark
      · rfl
    rw [hscan]
    exact (hbody ▸ h).scanFrom (Nat.lt_succ_self _) 0 _

end GoRebuild.Lexical
