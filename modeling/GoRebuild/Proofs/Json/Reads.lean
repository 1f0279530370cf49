import Mathlib.Data.List.Forall2
import GoRebuild.Proofs.Json.Loosened

/-!
# Decoders that pass over what they do not know

* `Json.ReadsAs dec v a` : a decoder gives a value for all that another value can be loosened to, if its bound on the
  nesting is high enough; `Json.ReadsOption` is the same for a part that may be missing;
* `Members.needed`, `Members.optional` : what it gives for a field of a loosened record;
* `ReadsAs.record`, `ReadsAs.variant`, `ReadsAs.variantRecord`, `ReadsAs.newtype`, `ReadsAs.list`, `ReadsAs.fields` : the
  decoder of a record, a variant or a list is such a decoder, if those of the parts are;
* `Json.RoundTrips encode decode?` : what is encoded can be read back, loosened or not.
-/

namespace GoRebuild.Json

/-! ## Parts of values -/

@[simp]
theorem record?_obj (names : List String) (ms : List (String × Json)) :
    (obj ms).record? names = some (names.map fun k => lookup k ms) :=
  rfl

@[simp]
theorem namedRecord?_obj (names : List String) (ms : List (String × Json)) :
    (obj ms).namedRecord? names = some (names.map fun k => lookup k ms) :=
  rfl

@[simp]
theorem variant?_variant (k : String) (c : Json) : (variant k c).variant? = some (k, some c) :=
  rfl

@[simp]
theorem unit?_variant_eq_some {k s : String} {c : Json} : (variant k c).unit? = some s ↔ k = s ∧ c = null := by
  cases c <;> simp [unit?]

/-! ## Decoders -/

/-- A decoder gives a value for all that a value that is not `null` can be loosened to, where its bound on the nesting is
high enough. -/
structure ReadsAs {α : Type} (dec : Nat → Json → Option α) (v : Json) (a : α) : Prop where
  ne_null : v ≠ null
  decodes : ∀ n w, Loosened v w → w.depth < n → dec n w = some a

/-- So it does for a part that may be `null` or missing. -/
def ReadsOption {α : Type} (dec : Nat → Json → Option α) (v : Json) (o : Option α) : Prop :=
  ∀ n slot, KeptAs v slot → (∀ w ∈ slot, w.depth < n) → optional? (dec n) slot = some o

section
variable {α : Type} {dec : Nat → Json → Option α} {v : Json} {a : α}

theorem ReadsOption.none : ReadsOption dec null none := by
  intro n slot hkept _
  cases slot with
  | none => rfl
  | some w =>
    cases hkept
    rfl

theorem ReadsOption.some (h : ReadsAs dec v a) : ReadsOption dec v (some a) := by
  intro n slot hkept hdepth
  cases slot with
  | none => exact absurd hkept h.ne_null
  | some w =>
    have hw := h.decodes n w hkept (hdepth w rfl)
    have hnull := Loosened.ne_null hkept h.ne_null
    cases w with
    | null => exact absurd rfl hnull
    | _ => exact congrArg (Option.map Option.some) hw

theorem ReadsOption.ofDepth {o : Option α} (h : ReadsOption dec v o) :
    ReadsOption (fun _ w => dec (w.depth + 1) w) v o := by
  intro n slot hkept _
  cases slot with
  | none => exact h 0 Option.none hkept nofun
  | some w =>
    rw [← h (w.depth + 1) (Option.some w) hkept fun _ hw => by cases hw; exact Nat.lt_succ_self _]
    cases w <;> rfl

/-- An option that is written part by part. -/
theorem ReadsOption.of_option {f : α → Json} (h : ∀ a, ReadsAs dec (f a) a) :
    ∀ o : Option α, ReadsOption dec (option f o) o
  | .none => .none
  | .some a => .some (h a)

namespace Members

variable {n : Nat} {ms ns : List (String × Json)}

/-- A field that has to be there. -/
theorem needed (h : Members n ms ns) (hr : ReadsAs dec v a) (k : String) (hk : lookup k ms = some v) :
    ∃ w, lookup k ns = some w ∧ dec n w = some a := by
  have hkept := h.kept k v hk
  have hdepth := h.depth_lt k
  cases hw : lookup k ns with
  | none =>
    rw [hw] at hkept
    exact absurd hkept hr.ne_null
  | some w =>
    rw [hw] at hkept
    exact ⟨w, rfl, hr.decodes n w hkept (hdepth w hw)⟩

/-- A field that may be missing. -/
theorem optional {o : Option α} (h : Members n ms ns) (hr : ReadsOption dec v o) (k : String)
    (hk : lookup k ms = some v) : optional? (dec n) (lookup k ns) = some o :=
  hr n _ (h.kept k v hk) fun w hw => h.depth_lt k w hw

end Members

namespace ReadsAs

theorem record {ms : List (String × Json)} (h : ∀ n ns, Members n ms ns → dec (n + 1) (obj ns) = some a) :
    ReadsAs dec (obj ms) a where
  ne_null := nofun
  decodes
    | n + 1, w, hw, hdepth => by
      obtain ⟨ns, rfl, hns⟩ := hw.of_record hdepth
      exact h n ns hns

theorem variant {k : String} {c : Json} (hk : isVariantName k)
    (h : ∀ n d, Loosened c d → d.depth < n → dec (n + 1) (variant k d) = some a) : ReadsAs dec (variant k c) a where
  ne_null := nofun
  decodes
    | n + 1, w, hw, hdepth => by
      obtain ⟨d, rfl, hd, hlt⟩ := hw.of_variant hk hdepth
      exact h n d hd hlt

/-- A variant with fields of its own. -/
theorem variantRecord {k : String} {ms : List (String × Json)} (hk : isVariantName k)
    (h : ∀ n ns, Members n ms ns → dec (n + 1) (Json.variant k (obj ns)) = some a) :
    ReadsAs dec (Json.variant k (obj ms)) a :=
  variant hk fun n d hd hdepth => by
    obtain ⟨ns, rfl, hns⟩ := hd.of_record (Nat.lt_succ_of_lt hdepth)
    exact h n ns hns

/-- A variant with a content of its own type. -/
theorem newtype {β : Type} {dec' : Nat → Json → Option β} {b : β} {k : String} {c : Json} (hk : isVariantName k)
    (hc : ReadsAs dec' c b) (h : ∀ n d, dec' n d = some b → dec (n + 1) (Json.variant k d) = some a) :
    ReadsAs dec (Json.variant k c) a :=
  variant hk fun n d hd hdepth => h n d (hc.decodes n d hd hdepth)

/-- A variant whose content may be `null`. -/
theorem variantOption {β : Type} {dec' : Nat → Json → Option β} {o : Option β} {k : String} {c : Json}
    (hk : isVariantName k) (hc : ReadsOption dec' c o)
    (h : ∀ n d, optional? (dec' n) (some d) = some o → dec (n + 1) (Json.variant k d) = some a) :
    ReadsAs dec (Json.variant k c) a :=
  variant hk fun n d hd hdepth => h n d (hc n (some d) hd fun _ hw => by
    cases hw
    exact hdepth)

theorem list {vs : List Json} {as : List α} (h : List.Forall₂ (ReadsAs dec) vs as) :
    ReadsAs (fun n v => v.list? (dec n)) (arr vs) as where
  ne_null := nofun
  decodes n w hw hdepth := by
    cases hw with
    | @arr _ ws hlength items =>
      rw [depth] at hdepth
      have hbound : ∀ i (w : Json), ws[i]? = some w → w.depth < n := fun i w hi =>
        Nat.lt_of_le_of_lt (depth_le_of_item hi) (Nat.lt_of_succ_lt hdepth)
      clear hdepth
      change ws.mapM (dec n) = some as
      induction h generalizing ws with
      | nil =>
        obtain rfl := List.eq_nil_of_length_eq_zero hlength.symm
        rfl
      | @cons v a vs as hv _ ih =>
        cases ws with
        | nil => cases hlength
        | cons w ws =>
          have hw := hv.decodes n w (items 0 v w rfl rfl) (hbound 0 w rfl)
          have hws := ih (Nat.succ.inj hlength) (fun i => items (i + 1)) fun i => hbound (i + 1)
          rw [List.mapM_cons, hw, Option.bind_eq_bind, Option.bind_some, hws]
          rfl

theorem fields {vs : List Json} {as : List α} (h : List.Forall₂ (ReadsAs dec) vs as) :
    ReadsAs (fun n v => v.fields? (dec n)) (fieldList vs) as where
  ne_null := nofun
  decodes n w hw hdepth := by
    obtain ⟨ns, rfl, hns⟩ := hw.of_record (Nat.lt_succ_of_lt hdepth)
    obtain ⟨w, hlookup, hw⟩ := hns.needed (list h) "fields" rfl
    simp only [fields?, record?, List.map_cons, List.map_nil, hlookup, Option.bind_eq_bind, Option.bind_some]
    exact hw

/-- A list of equal parts. -/
theorem listMap {f : α → Json} (h : ∀ a, ReadsAs dec (f a) a) (as : List α) :
    ReadsAs (fun n v => v.list? (dec n)) (arr (as.map f)) as :=
  list (List.forall₂_map_left_iff.mpr (List.forall₂_same.mpr fun a _ => h a))

/-- Nothing can be added to a string, and nothing left out. -/
theorem str {s : String} (h : ∀ n, dec (n + 1) (str s) = some a) : ReadsAs dec (Json.str s) a where
  ne_null := nofun
  decodes
    | n + 1, _, hw, _ => by
      cases hw
      exact h n

/-- A decoder that takes the depth of the value as the bound. -/
theorem ofDepth (h : ReadsAs dec v a) : ReadsAs (fun _ w => dec (w.depth + 1) w) v a where
  ne_null := h.ne_null
  decodes _ w hw _ := h.decodes _ w hw (Nat.lt_succ_self _)

theorem decode_loosened {dec : Json → Option α} {w : Json} (h : ReadsAs (fun _ => dec) v a) (hw : Loosened v w) :
    dec w = some a :=
  h.decodes (w.depth + 1) w hw (Nat.lt_succ_self _)

theorem decode_self {dec : Json → Option α} (h : ReadsAs (fun _ => dec) v a) : dec v = some a :=
  h.decode_loosened (.refl v)

end ReadsAs

end

/-! ## Atoms -/

theorem reads_text (s : String) : ReadsAs (fun _ => text?) (str s) s :=
  .str fun _ => rfl

theorem reads_bool (b : Bool) : ReadsAs (fun _ => bool?) (bool b) b where
  ne_null := nofun
  decodes _ _ hw _ := by
    cases hw
    rfl

theorem reads_uint32 (n : UInt32) : ReadsAs (fun _ => uint32?) (nat n.toNat) n where
  ne_null := nofun
  decodes _ _ hw _ := by
    cases hw
    have hn : n.toNat < Nat.pow 2 32 := n.toNat_lt
    simp only [uint32?, word?, if_pos hn, Option.map_some, UInt32.ofNat_toNat]

/-! ## Encodings -/

/-- What is encoded can be read back, whatever is added to its records and whichever `null` is left out of them. -/
structure RoundTrips {α : Type} (encode : α → Json) (decode? : Json → Option α) : Prop where
  inverse : ∀ a, decode? (encode a) = some a
  injective : Function.Injective encode
  tolerant : ∀ a w, Loosened (encode a) w → decode? w = some a

theorem RoundTrips.of_reads {α : Type} {encode : α → Json} {decode? : Json → Option α}
    (h : ∀ a, ReadsAs (fun _ => decode?) (encode a) a) : RoundTrips encode decode? where
  inverse a := (h a).decode_self
  injective a b hab := by
    have ha := (h a).decode_self
    rw [hab, (h b).decode_self] at ha
    exact (Option.some.inj ha).symm
  tolerant a _ hw := (h a).decode_loosened hw

end GoRebuild.Json
