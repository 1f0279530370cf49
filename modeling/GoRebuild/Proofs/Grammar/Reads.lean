import GoRebuild.Grammar.Parser
import GoRebuild.Proofs.Grammar.Renders

/-!
# Parsers that read pieces

* `Reads ps ts rest` : the tokens that `ts` has more than `rest` render the pieces `ps`;
* `Sound p f` : whenever `p` gives `x`, the tokens it took render `f x`;
* `Continues pre p f` : the same behind tokens that render `pre`, which is how a `do` block is read from
  step to step (`Continues.bind`, `Continues.peek`, `Continues.pure`);
* the soundness of each parser for one token, and of rows.
-/

namespace GoRebuild.Grammar
open Lexical Piece Scan

/-- Only the character that ends the source as such is a token of that kind. -/
def Proper (ts : List Token) : Prop :=
  ∀ t ∈ ts, t.kind = .stop → t.text = "\x00"

/-- The tokens before `rest` render pieces. -/
def Reads (ps : List Piece) (ts rest : List Token) : Prop :=
  Proper ts → Proper rest ∧ ∃ us, Splits (lexemes ts) (us ++ lexemes rest) ∧ Renders ps us

variable {ps qs : List Piece} {ts us rest : List Token}

theorem Reads.nil : Reads [] ts ts :=
  fun h => ⟨h, [], Splits.refl _, .nil⟩

theorem Reads.append (h : Reads ps ts us) (h' : Reads qs us rest) : Reads (ps ++ qs) ts rest := by
  intro hts
  obtain ⟨hus, vs, hsplit, hvs⟩ := h hts
  obtain ⟨hrest, ws, hsplit', hws⟩ := h' hus
  refine ⟨hrest, vs ++ ws, ?_, hvs.append hws⟩
  rw [List.append_assoc]
  exact hsplit.trans (hsplit'.append_left vs)

theorem Reads.fits (h : Reads ps ts rest) (hfits : Fits ps qs) : Reads qs ts rest := by
  intro hts
  obtain ⟨hrest, us, hsplit, hus⟩ := h hts
  exact ⟨hrest, us, hsplit, hfits us hus⟩

/-- One token that is taken. -/
theorem Reads.one {t : Token} (hrender : Renders ps [t.lexeme]) : Reads ps (t :: rest) rest :=
  fun h => ⟨fun u hu => h u (.tail _ hu), [t.lexeme], Splits.refl _, hrender⟩

/-- The pieces of what may be absent. -/
def ofOption {α : Type} (f : α → List Piece) : Option α → List Piece
  | none => []
  | some x => f x

/-! ## Parsers -/

variable {α β : Type}

/-- The tokens that a parser takes render what it gives. -/
def Sound (p : Parser α) (f : α → List Piece) : Prop :=
  ∀ ts x rest, p ts = some (x, rest) → Reads (f x) ts rest

/-- Behind tokens for some pieces, a parser goes on to what it gives. -/
def Continues (pre : List Piece) (p : Parser α) (f : α → List Piece) : Prop :=
  ∀ start ts x rest, Reads pre start ts → p ts = some (x, rest) → Reads (f x) start rest

/-- A parser that takes nothing. -/
def Peeks (p : Parser α) : Prop :=
  ∀ ts x rest, p ts = some (x, rest) → rest = ts

variable {pre : List Piece} {p q : Parser α} {k : α → Parser β} {f : α → List Piece}
  {g : β → List Piece}

theorem Continues.sound (h : Continues [] p f) : Sound p f :=
  fun ts x rest hp => h ts ts x rest .nil hp

theorem Sound.continues (h : Sound p f) : Continues pre p fun x => pre ++ f x :=
  fun _ ts x rest hpre hp => hpre.append (h ts x rest hp)

/-- A step and what follows, taken apart. -/
theorem bind_eq_some {p : Parser α} {k : α → Parser β} {ts rest : List Token} {y : β} :
    (p >>= k) ts = some (y, rest) ↔ ∃ x mid, p ts = some (x, mid) ∧ k x mid = some (y, rest) := by
  change (p ts >>= fun r => k r.1 r.2) = _ ↔ _
  cases hp : p ts with
  | none => simp
  | some r =>
    constructor
    · exact fun h => ⟨r.1, r.2, rfl, h⟩
    · rintro ⟨x, mid, hr, h⟩
      cases hr
      exact h

theorem Continues.bind (hp : Sound p f) (hk : ∀ x, Continues (pre ++ f x) (k x) g) :
    Continues pre (p >>= k) g := by
  intro start ts y rest hpre h
  obtain ⟨x, mid, hx, hy⟩ := bind_eq_some.mp h
  exact hk x start mid y rest (hpre.append (hp ts x mid hx)) hy

theorem Continues.peek (hp : Peeks p) (hk : ∀ x, Continues pre (k x) g) :
    Continues pre (p >>= k) g := by
  intro start ts y rest hpre h
  obtain ⟨x, mid, hx, hy⟩ := bind_eq_some.mp h
  obtain rfl := hp ts x mid hx
  exact hk x start mid y rest hpre hy

/-- A step that goes on itself, and what follows. -/
theorem Continues.andThen (hp : Continues pre p f) (hk : ∀ x, Continues (f x) (k x) g) :
    Continues pre (p >>= k) g := by
  intro start ts y rest hpre h
  obtain ⟨x, mid, hx, hy⟩ := bind_eq_some.mp h
  exact hk x start mid y rest (hp start ts x mid hpre hx) hy

theorem Continues.pure_fits {x : α} (h : Fits pre (f x)) : Continues pre (pure x) f := by
  intro start ts y rest hpre hp
  cases hp
  exact hpre.fits h

theorem Continues.pure {x : α} (h : pre = f x) : Continues pre (pure x) f :=
  pure_fits (.of_eq h)

theorem Continues.failure : Continues pre (failure : Parser α) f := by
  intro start ts y rest hpre hp
  cases hp

/-- What a choice gives, one of its parsers gives. -/
theorem of_orElse {p q : Parser α} {ts rest : List Token} {x : α}
    (h : (p <|> q) ts = some (x, rest)) : p ts = some (x, rest) ∨ q ts = some (x, rest) := by
  change (p ts <|> q ts) = _ at h
  cases hpt : p ts with
  | none => exact .inr (by simpa [hpt] using h)
  | some r =>
    rw [hpt] at h
    exact .inl h

theorem Continues.orElse (hp : Continues pre p f) (hq : Continues pre q f) :
    Continues pre (p <|> q) f := by
  intro start ts x rest hpre h
  rcases of_orElse h with h | h
  · exact hp start ts x rest hpre h
  · exact hq start ts x rest hpre h

theorem Continues.require {b : Bool} {k : Unit → Parser β} (hk : b = true → Continues pre (k ()) g) :
    Continues pre (require b >>= k) g := by
  intro start ts y rest hpre h
  obtain ⟨x, mid, hx, hy⟩ := bind_eq_some.mp h
  cases b with
  | false => cases hx
  | true =>
    cases hx
    exact hk rfl start ts y rest hpre hy

theorem Continues.mono (h : Continues pre p f) {f' : α → List Piece} (hf : ∀ x, Fits (f x) (f' x)) :
    Continues pre p f' :=
  fun start ts x rest hpre hp => (h start ts x rest hpre hp).fits (hf x)

/-- The pieces before may be other ones that the tokens render, too. -/
theorem Continues.before {pre' : List Piece} (hpre : Fits pre pre') (h : Continues pre' p f) :
    Continues pre p f :=
  fun start ts x rest hread hp => h start ts x rest (hread.fits hpre) hp

theorem Sound.fits (hp : Sound p f) {f' : α → List Piece} (h : ∀ x, Fits (f x) (f' x)) :
    Sound p f' :=
  fun ts x rest hx => (hp ts x rest hx).fits (h x)

theorem Sound.orElse (hp : Sound p f) (hq : Sound q f) : Sound (p <|> q) f :=
  Continues.sound (.orElse hp.continues hq.continues)

theorem sound_pure {x : α} (h : f x = []) : Sound (pure x) f :=
  Continues.sound (.pure h.symm)

theorem sound_failure : Sound (failure : Parser α) f :=
  Continues.sound .failure

/-! ## One token -/

theorem peeks_sees (text : String) : Peeks (sees text) := by
  intro ts x rest h
  unfold sees at h
  split at h <;> cases h <;> rfl

theorem peeks_seesAll (texts : List String) : Peeks (seesAll texts) := by
  intro ts x rest h
  cases h
  rfl

theorem peeks_ends (line : Bool) : Peeks (ends line) := by
  intro ts x rest h
  unfold ends at h
  split at h <;> cases h <;> rfl

theorem peeks_here : Peeks here := by
  intro ts x rest h
  unfold here at h
  split at h <;> cases h
  rfl

theorem peeks_next : Peeks (next? : Parser (Option Token)) := by
  intro ts x rest h
  cases h
  rfl

theorem peeks_pure (x : α) : Peeks (pure x) := by
  intro ts y rest h
  cases h
  rfl

theorem Peeks.bind (hp : Peeks p) (hk : ∀ x, Peeks (k x)) : Peeks (p >>= k) := by
  intro ts y rest h
  obtain ⟨x, mid, hx, hy⟩ := bind_eq_some.mp h
  obtain rfl := hp ts x mid hx
  exact hk x mid y rest hy

/-! ## What a result is like -/

/-- Whatever a parser gives has a property. -/
def Ensures (p : Parser α) (Q : α → Prop) : Prop :=
  ∀ ts x rest, p ts = some (x, rest) → Q x

theorem Ensures.bind {Q : β → Prop} (hk : ∀ x, Ensures (k x) Q) : Ensures (p >>= k) Q := by
  intro ts y rest h
  obtain ⟨x, mid, hx, hy⟩ := bind_eq_some.mp h
  exact hk x mid y rest hy

theorem Ensures.pure {Q : α → Prop} {x : α} (h : Q x) : Ensures (pure x) Q := by
  intro ts y rest hp
  cases hp
  exact h

/-- `Continues.bind`, knowing something of the result of the first step. -/
theorem Continues.bind_of {Q : α → Prop} (hQ : Ensures p Q) (hp : Sound p f)
    (hk : ∀ x, Q x → Continues (pre ++ f x) (k x) g) : Continues pre (p >>= k) g := by
  intro start ts y rest hpre h
  obtain ⟨x, mid, hx, hy⟩ := bind_eq_some.mp h
  exact hk x (hQ ts x mid hx) start mid y rest (hpre.append (hp ts x mid hx)) hy

/-! ## Behind a look at the next token -/

/-- `Sound` where the next token is known. -/
def SoundAt (t : Token) (p : Parser α) (f : α → List Piece) : Prop :=
  ∀ ts x rest, p (t :: ts) = some (x, rest) → Reads (f x) (t :: ts) rest

/-- `Continues` where the next token is known. -/
def ContinuesAt (t : Token) (pre : List Piece) (p : Parser α) (f : α → List Piece) : Prop :=
  ∀ start ts x rest, Reads pre start (t :: ts) → p (t :: ts) = some (x, rest) → Reads (f x) start rest

theorem Continues.here (t : Token) (h : Continues pre p f) : ContinuesAt t pre p f :=
  fun start ts x rest hpre hp => h start (t :: ts) x rest hpre hp

theorem Continues.next {k : Option Token → Parser β} (hnone : Continues pre (k none) g)
    (hsome : ∀ t, ContinuesAt t pre (k (some t)) g) : Continues pre (next? >>= k) g := by
  intro start ts y rest hpre h
  obtain ⟨t, mid, ht, h⟩ := bind_eq_some.mp h
  cases ts with
  | nil =>
    cases ht
    exact hnone start [] y rest hpre h
  | cons t ts =>
    cases ht
    exact hsome t start ts y rest hpre h

theorem ContinuesAt.bind {t : Token} (hp : SoundAt t p f) (hk : ∀ x, Continues (pre ++ f x) (k x) g) :
    ContinuesAt t pre (p >>= k) g := by
  intro start ts y rest hpre h
  obtain ⟨x, mid, hx, hy⟩ := bind_eq_some.mp h
  exact hk x start mid y rest (hpre.append (hp ts x mid hx)) hy

theorem ContinuesAt.orElse {t : Token} (hp : ContinuesAt t pre p f) (hq : ContinuesAt t pre q f) :
    ContinuesAt t pre (p <|> q) f := by
  intro start ts x rest hpre h
  rcases of_orElse h with h | h
  · exact hp start ts x rest hpre h
  · exact hq start ts x rest hpre h

theorem sound_take {text : String} {p : Piece} (hp : ∀ t : Lexeme, t.text = text → p.fits t) :
    Sound (take text) fun _ => [p] := by
  intro ts x rest h
  unfold take at h
  split at h
  · rename_i t rest
    split at h
    · rename_i htext
      cases h
      exact .one (.one (hp _ (eq_of_beq htext)))
    · cases h
  · cases h

theorem sound_sym (text : String) : Sound (take text) fun _ => [sym text] :=
  sound_take fun _ h => h

theorem sound_key (text : String) : Sound (take text) fun _ => [key text] :=
  sound_take fun _ h => h

theorem sound_takes (text : String) :
    Sound (takes text) fun taken => if taken then [sym text] else [] := by
  intro ts x rest h
  unfold takes at h
  split at h
  · rename_i t rest
    split at h
    · rename_i htext
      cases h
      exact .one (.one (eq_of_beq htext))
    · cases h
      exact .nil
  · cases h
    exact .nil

/-- A token that may be there: either way it goes on. -/
theorem Continues.takes {text : String} {k : Bool → Parser β}
    (htaken : Continues (pre ++ [sym text]) (k true) g) (hnone : Continues pre (k false) g) :
    Continues pre (takes text >>= k) g := by
  refine .bind (sound_takes text) fun taken => ?_
  cases taken with
  | true => exact htaken
  | false => exact hnone.before (.of_eq (List.append_nil pre))

theorem sound_takeName : Sound takeName fun n => [name n.text] := by
  intro ts x rest h
  unfold takeName at h
  split at h
  · rename_i t rest
    split at h
    · rename_i hkind
      cases h
      exact .one (.one (by simp [fits, Token.lexeme, hkind]))
    · cases h
  · cases h

theorem sound_takeText : Sound takeText fun text => [lit ⟨.string, text⟩] := by
  intro ts x rest h
  unfold takeText at h
  split at h
  · rename_i t rest
    split at h
    · rename_i hkind
      cases h
      exact .one (.one (by simp [fits, Token.lexeme, hkind]))
    · cases h
  · cases h

/-- An end of a statement may be a token or not. -/
theorem sound_takeEnd : Sound takeEnd fun _ => [stop] := by
  intro ts x rest h
  unfold takeEnd at h
  split at h
  · cases h
    exact Reads.nil.fits .add_stop
  · rename_i t rest
    split at h
    · -- only the line break before the token is used up
      cases h
      intro hts
      refine ⟨fun u hu => ?_, [], Splits.refl _, .stop .nil⟩
      rcases List.mem_cons.mp hu with rfl | hu
      · exact hts t (.head _)
      · exact hts u (.tail _ hu)
    · split at h
      · rename_i hend
        cases h
        intro hts
        refine ⟨fun u hu => hts u (.tail _ hu), [t.lexeme], Splits.refl _, .stop (.skip _ ?_ .nil)⟩
        simp only [Bool.or_eq_true, beq_iff_eq, decide_eq_true_eq] at hend
        rcases hend with hend | hend
        · simp [Lexeme.isEnd, Token.lexeme, hend]
        · simp [Lexeme.isEnd, Token.lexeme, hts t (.head _) hend]
      · cases h

/-! ## Rows -/

theorem sound_optional (hp : Sound p f) :
    Sound (optional p) (ofOption f) := by
  refine Sound.orElse ?_ (sound_pure rfl)
  rw [map_eq_pure_bind]
  exact Continues.sound (.bind hp fun x => .pure rfl)

theorem sound_many (hp : Sound p f) (n : Nat) : Sound (many p n) fun xs => xs.flatMap f := by
  induction n with
  | zero => exact sound_pure rfl
  | succ n ih =>
    refine Sound.orElse ?_ (sound_pure rfl)
    refine Continues.sound (.bind hp fun x => .bind ih fun xs => .pure ?_)
    simp

/-- More entries, each behind a comma. -/
theorem sound_commaTail (hp : Sound p f) (n : Nat) :
    Sound (commaTail p n) fun xs => xs.flatMap fun x => sym "," :: f x :=
  sound_many (Continues.sound (.bind (sound_sym ",") fun _ => hp.continues)) n

theorem sound_commaList (hp : Sound p f) (n : Nat) :
    Sound (commaList p n) fun xs => Piece.separated (sym ",") (xs.map f) := by
  refine Continues.sound (.bind hp fun x => .bind (sound_commaTail hp n) fun xs => .pure ?_)
  rw [List.map_cons, separated_cons, List.flatMap_map]
  rfl

theorem sound_closing (bracket : String) : Sound (closing bracket) fun _ => [comma, sym bracket] := by
  refine Continues.sound (.bind (sound_takes ",") fun taken => .bind (sound_sym bracket) fun _ =>
    .pure_fits ?_)
  have hcomma : Fits (if taken then [sym ","] else []) [comma] := by
    cases taken with
    | true => exact .comma_of_sym
    | false => exact .add_comma
  exact hcomma.append (.refl [sym bracket])

theorem Continues.preferring (hp : Continues pre p f) (hq : Continues pre q f) (odd : α → Bool) :
    Continues pre (preferring p odd q) f := by
  intro start ts x rest hpre h
  unfold Grammar.preferring at h
  split at h
  · rename_i y mid hy
    split at h
    · cases hpt : p ts with
      | none =>
        rw [hpt] at h
        cases h
        exact hq start ts x rest hpre hy
      | some r =>
        rw [hpt] at h
        cases h
        exact hp start ts x rest hpre hpt
    · cases h
      exact hq start ts x rest hpre hy
  · exact hp start ts x rest hpre h

theorem sound_only (b : Bool) (hp : Sound p f) :
    Sound (only b p) (ofOption f) := by
  unfold only
  split
  · exact Continues.sound (.bind hp fun x => .pure rfl)
  · exact sound_pure rfl

theorem Ensures.only {Q : α → Prop} (h : Ensures p Q) (b : Bool) :
    Ensures (only b p) fun r => ∀ x ∈ r, Q x := by
  intro ts r rest hr x hx
  unfold Scan.only at hr
  split at hr
  · obtain ⟨y, mid, hy, hr⟩ := bind_eq_some.mp hr
    cases hr
    cases hx
    exact h _ _ _ hy
  · cases hr
    cases hx

theorem ensures_only (b : Bool) (p : Parser α) : Ensures (only b p) fun x => x.isSome = b := by
  unfold only
  split
  · rename_i hb
    exact .bind fun x => .pure hb.symm
  · rename_i hb
    exact .pure (Bool.eq_false_iff.mpr hb).symm

end GoRebuild.Grammar
