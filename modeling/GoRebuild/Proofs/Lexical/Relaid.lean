import GoRebuild.Proofs.Lexical.Alone
import GoRebuild.Proofs.Lexical.Written

/-!
# The same tokens, laid out anew

* `Spelling.IsWhole`, `placed` : a token that is read from its text alone, and tokens with their places; those of a
  source are such (`tokens_of_scan`);
* `Gap` : white space and comments between two tokens, with a line break outside the comments or without;
* `Spelling.Apart` : a token is not run into by what follows it;
* `Laid`, `Relaid` : a text of given tokens, and a text of the tokens of a source;
* `Laid.scans`, `Relaid.scan` : such a text is scanned to these tokens.
-/

namespace GoRebuild.Lexical
open Verify (isQuote)

/-! ## Tokens of a source -/

/-- A token that is read from its text alone. -/
def Spelling.IsWhole (t : Spelling) : Prop :=
  lexeme? t.text.toList = some (t.kind, t.text.length)

/-- Tokens with their places, from some place on. -/
def placed : Nat → List Spelling → List Token
  | _, [] => []
  | index, t :: ts => ⟨t.kind, t.text, t.newLine, ⟨index, 0⟩⟩ :: placed (index + 1) ts

theorem whole_of_lexeme {cs : List Char} {kind : TokenKind} {n : Nat} (h : lexeme? cs = some (kind, n))
    (newLine : Bool) : Spelling.IsWhole ⟨kind, String.ofList (cs.take n), newLine⟩ := by
  have htake := lexeme_take h .nil
  rw [List.append_nil] at htake
  rw [Spelling.IsWhole, String.toList_ofList, String.length_ofList, List.length_take,
    Nat.min_eq_left (length_le_of_lexeme h), htake]

theorem tokens_of_scanFrom {n index : Nat} {p : Cursor} {cs : List Char} {tokens : List (Token × Cursor)}
    (h : scanFrom n index p cs = some tokens) :
    (∀ t ∈ tokens, t.1.spelling.IsWhole) ∧ tokens.map (·.1) = placed index (tokens.map (·.1.spelling)) := by
  induction n generalizing index p cs tokens with
  | zero => cases h
  | succ n ih =>
    rw [scanFrom] at h
    generalize skipBlanks cs.length p false cs = r at h
    obtain ⟨p, newLine, cs⟩ := r
    dsimp only at h
    split at h
    · cases h
      exact ⟨List.forall_mem_nil _, rfl⟩
    · cases hlexeme : lexeme? cs with
      | none =>
        rw [hlexeme] at h
        cases h
      | some r =>
        obtain ⟨kind, m⟩ := r
        rw [hlexeme] at h
        cases hrest : scanFrom n (index + 1) (p.advanceBy (cs.take m)) (cs.drop m) with
        | none => simp [hrest] at h
        | some rest =>
          simp only [hrest, Option.bind_eq_bind, Option.bind_some] at h
          cases h
          obtain ⟨hwhole, hplaced⟩ := ih hrest
          refine ⟨List.forall_mem_cons.mpr ⟨whole_of_lexeme hlexeme newLine, hwhole⟩, ?_⟩
          rw [List.map_cons, hplaced]
          rfl

theorem tokens_of_scan {source : String} {tokens : List (Token × Cursor)} (h : scan source = some tokens) :
    (∀ t ∈ tokens, t.1.spelling.IsWhole) ∧ tokens.map (·.1) = placed 0 (tokens.map (·.1.spelling)) := by
  unfold scan at h
  split at h
  · exact tokens_of_scanFrom h
  · exact tokens_of_scanFrom h

/-! ## White space and comments -/

/-- A comment as a whole, on one line. -/
structure IsComment (text : List Char) : Prop where
  length : commentLength text = some text.length
  line : '\n' ∉ text

/-- A comment goes on to the end of its line. -/
def endsLine (text : List Char) : Bool :=
  ['/', '/'].isPrefixOf text

/-- White space and comments before a text, with a line break outside the comments or without. A comment that goes
on to the end of its line is followed by a line break, or by nothing. -/
inductive Gap : Bool → List Char → List Char → Prop
  | nil {rest} : Gap false rest rest
  | space {newLine c cs rest} : isSpace c → Gap newLine cs rest → Gap (c = '\n' || newLine) (c :: cs) rest
  | comment {newLine text cs rest} : IsComment text → (endsLine text → ∀ c ∈ cs.head?, c = '\n') →
    Gap newLine cs rest → Gap newLine (text ++ cs) rest

theorem Gap.blank {newLine : Bool} {cs rest : List Char} (h : Gap newLine cs rest) : Gap newLine (' ' :: cs) rest :=
  @Gap.space newLine ' ' cs rest rfl h

theorem Gap.line {newLine : Bool} {cs rest : List Char} (h : Gap newLine cs rest) : Gap true ('\n' :: cs) rest :=
  @Gap.space newLine '\n' cs rest rfl h

theorem commentLength_append {text cs : List Char} (h : IsComment text)
    (hend : endsLine text → ∀ c ∈ cs.head?, c = '\n') : commentLength (text ++ cs) = some text.length := by
  obtain ⟨hlength, hline⟩ := h
  unfold commentLength at hlength
  split at hlength
  · rename_i v
    have hall : v.takeWhile (· ≠ '\n') = v := by
      refine List.takeWhile_eq_self_iff.mpr fun c hc => decide_eq_true ?_
      rintro rfl
      exact hline (by simp [hc])
    have hnone : cs.takeWhile (· ≠ '\n') = [] := by
      cases cs with
      | nil => rfl
      | cons c cs => rw [hend rfl c rfl]; rfl
    change some (2 + ((v ++ cs).takeWhile (· ≠ '\n')).length) = _
    rw [List.takeWhile_append, hall, if_pos rfl, hnone, List.append_nil, List.length_cons, List.length_cons,
      Nat.add_comm]
  · rename_i v
    obtain ⟨m, hm, heq⟩ := Option.map_eq_some_iff.mp hlength
    change (commentTailLength (v ++ cs)).map (· + 2) = _
    rw [commentTailLength_append hm, ← heq]
    rfl
  · cases hlength

theorem Gap.scans {newLine behind : Bool} {cs rest : List Char} {row : List Span} (h : Gap newLine cs rest)
    (hrest : Scans (behind || newLine) rest row) : ∃ all, Scans behind cs all ∧ spellings all = spellings row := by
  induction h generalizing behind with
  | nil =>
    rw [Bool.or_false] at hrest
    exact ⟨row, hrest, rfl⟩
  | @space newLine c cs rest hc _ ih =>
    rw [← Bool.or_assoc] at hrest
    obtain ⟨all, hall, heq⟩ := ih hrest
    exact ⟨all, .space hc hall, heq⟩
  | @comment newLine text cs rest htext hend _ ih =>
    obtain ⟨all, hall, heq⟩ := ih hrest
    have hdrop : (text ++ cs).drop text.length = cs := List.drop_left
    exact ⟨_, .comment (commentLength_append htext hend) (by rwa [hdrop]), heq⟩

/-! ## Texts of given tokens -/

/-- A token is not run into by the text behind it: white space or nothing comes next, or else the token is still the
longest one there, and begins no comment. -/
def Spelling.Apart (t : Spelling) (rest : List Char) : Prop :=
  (∀ c ∈ rest.head?, isSpace c) ∨
    lexeme? (t.text.toList ++ rest) = some (t.kind, t.text.length) ∧ commentLength (t.text.toList ++ rest) = none

/-- A text of given tokens, each on a new line or not, with white space and comments between them. -/
inductive Laid : List Spelling → List Char → Prop
  | nil {newLine cs} : Gap newLine cs [] → Laid [] cs
  | cons {t ts cs rest} : Gap t.newLine cs (t.text.toList ++ rest) → t.Apart rest → Laid ts rest → Laid (t :: ts) cs

/-- A text of the tokens of a source, with other white space and other comments between them, but with line breaks
between the same tokens. -/
def Relaid (source text : String) : Prop :=
  ∃ tokens, scan source = some tokens ∧ Laid (tokens.map (·.1.spelling)) (body text)

/-- A token with white space behind it begins no comment. -/
theorem commentLength_of_lexeme {v : List Char} {kind : TokenKind} (h : lexeme? v = some (kind, v.length))
    {rest : List Char} (hrest : ∀ c ∈ rest.head?, isSpace c) : commentLength (v ++ rest) = none := by
  cases v with
  | nil => cases h
  | cons c v =>
    by_cases hc : c = '/'
    · subst hc
      -- what opens a comment goes on with no token and is no white space
      have hnext (d : Char) (hbreak : isBreak d) (hspace : isSpace d = false) : (v ++ rest).head? ≠ some d := by
        intro hd
        cases v with
        | nil =>
          rw [hrest d hd] at hspace
          cases hspace
        | cons e v =>
          obtain rfl : e = d := Option.some.inj hd
          rw [not_break_of_lexeme rfl h e List.mem_cons_self] at hbreak
          cases hbreak
      rw [List.cons_append]
      generalize v ++ rest = w at hnext
      unfold commentLength
      split
      · rename_i heq
        rw [(List.cons.inj heq).2] at hnext
        exact absurd rfl (hnext '/' (by decide) (by decide))
      · rename_i heq
        rw [(List.cons.inj heq).2] at hnext
        exact absurd rfl (hnext '*' (by decide) (by decide))
      · rfl
    · exact commentLength_of_ne hc _

theorem Spelling.Apart.starts {t : Spelling} (ht : t.IsWhole) {rest : List Char} (h : t.Apart rest) :
    StartsToken (t.text.toList ++ rest) ∧ lexeme? (t.text.toList ++ rest) = some (t.kind, t.text.length) := by
  have hlexeme : lexeme? (t.text.toList ++ rest) = some (t.kind, t.text.length) := by
    rcases h with hspace | ⟨hlexeme, -⟩
    · have htake := lexeme_take ht fun c hc => break_of_blank (blank_of_space (hspace c hc))
      rwa [List.take_of_length_le (by rw [String.length_toList])] at htake
    · exact hlexeme
  refine ⟨⟨fun c hc => ?_, ?_⟩, hlexeme⟩
  · obtain ⟨v, hv⟩ := List.head?_eq_some_iff.mp hc
    rw [hv] at hlexeme
    rw [← Bool.not_eq_true]
    intro hspace
    have hblank := not_blank_of_lexeme hlexeme
    rw [blank_of_space hspace] at hblank
    cases hblank
  · rcases h with hspace | ⟨-, hcomment⟩
    · exact commentLength_of_lexeme (by rw [ht, String.length_toList]) hspace
    · exact hcomment

theorem Laid.scans {ts : List Spelling} {cs : List Char} (h : Laid ts cs) (hts : ∀ t ∈ ts, t.IsWhole) :
    ∃ row, Scans false cs row ∧ spellings row = ts := by
  induction h with
  | nil hgap => exact hgap.scans .nil
  | @cons t ts cs rest hgap hapart _ ih =>
    rw [List.forall_mem_cons] at hts
    obtain ⟨row, hrow, rfl⟩ := ih hts.2
    obtain ⟨hstart, hlexeme⟩ := hapart.starts hts.1
    exact hgap.scans (.written hstart hlexeme hrow)

/-- A text of the tokens of a source is scanned to these tokens. -/
theorem Relaid.scan {source text : String} {tokens : List (Token × Cursor)} (h : Relaid source text)
    (hscan : scan source = some tokens) :
    ∃ tokens', Lexical.scan text = some tokens' ∧ tokens'.map (·.1) = tokens.map (·.1) := by
  obtain ⟨tokens', hscan', hlaid⟩ := h
  rw [hscan] at hscan'
  cases hscan'
  obtain ⟨hwhole, hplaced⟩ := tokens_of_scan hscan
  obtain ⟨row, hrow, hspellings⟩ := hlaid.scans (List.forall_mem_map.mpr hwhole)
  obtain ⟨tokens', hscan', heq⟩ := hrow.scan
  refine ⟨tokens', hscan', ?_⟩
  rw [(tokens_of_scan hscan').2, heq, hspellings, hplaced]

end GoRebuild.Lexical
