import GoRebuild.Tree.Decode
import GoRebuild.Tree.Encode

/-!
# JSON that says the same and more

Whoever writes a tree as JSON may know fields that this library does not, and may leave out fields without a value.

* `Json.isVariantName` : variants have names with a capital letter, fields have not;
* `Json.Loosened v w` : a value, with fields added to its records, and fields that are `null` left out, however deep;
* `Loosened.refl`, `Loosened.field_added`, `Loosened.null_left_out` : nothing, one field more, one `null` less;
* `Loosened.of_members`, `Loosened.of_content` : parts may be loosened themselves;
* `Loosened.of_record`, `Loosened.of_variant` : what a loosened record or variant consists of (`Json.Members`).
-/

namespace GoRebuild.Json

/-! ## Loosening -/

/-- Whether a key is the name of a variant and not that of a field. -/
def isVariantName (k : String) : Bool :=
  k.toList.head?.any Char.isUpper

/-- A value in which records may have more fields, in any order, and lack some that were `null`. A variant keeps its name
as the only key. -/
inductive Loosened : Json → Json → Prop where
  | null : Loosened null null
  | bool (b : Bool) : Loosened (bool b) (bool b)
  | int (n : Int) : Loosened (int n) (int n)
  | decimal (t : String) : Loosened (decimal t) (decimal t)
  | str (s : String) : Loosened (str s) (str s)
  | arr {vs ws : List Json} (length : vs.length = ws.length)
      (items : ∀ (i : Nat) (v w : Json), vs[i]? = some v → ws[i]? = some w → Loosened v w) : Loosened (arr vs) (arr ws)
  | obj {ms ns : List (String × Json)}
      (kept : ∀ (k : String) (v w : Json), lookup k ms = some v → lookup k ns = some w → Loosened v w)
      (missing : ∀ (k : String) (v : Json), lookup k ms = some v → lookup k ns = none → v = null)
      (variant : ∀ (k : String) (v : Json), ms = [(k, v)] → isVariantName k → ∃ w, ns = [(k, w)]) :
      Loosened (obj ms) (obj ns)

mutual

theorem Loosened.refl : ∀ v : Json, Loosened v v
  | .null => .null
  | .bool b => .bool b
  | .int n => .int n
  | .decimal t => .decimal t
  | .str s => .str s
  | .arr vs => .arr rfl fun i v w hv hw => by
    obtain rfl := Option.some.inj (hv.symm.trans hw)
    exact reflItems vs i v hv
  | .obj ms => .obj
    (fun k v w hv hw => by
      obtain rfl := Option.some.inj (hv.symm.trans hw)
      exact reflMembers ms k v hv)
    (fun k v hv hw => by rw [hv] at hw; cases hw)
    fun k v hms _ => ⟨v, hms⟩

theorem Loosened.reflItems : ∀ (vs : List Json) (i : Nat) (v : Json), vs[i]? = some v → Loosened v v
  | [], _, _, h => nomatch h
  | v :: _, 0, _, h => by
    cases h
    exact refl v
  | _ :: vs, i + 1, v, h => reflItems vs i v h

theorem Loosened.reflMembers : ∀ (ms : List (String × Json)) (k : String) (v : Json), lookup k ms = some v → Loosened v v
  | [], _, _, h => nomatch h
  | (k', u) :: ms, k, v, h => by
    have hu := refl u
    rw [lookup] at h
    cases hrest : lookup k ms with
    | some w =>
      rw [hrest] at h
      cases h
      exact reflMembers ms k v hrest
    | none =>
      rw [hrest] at h
      cases (Option.ite_none_right_eq_some.mp h).2
      exact hu

end

/-- What a loosened record has in place of a field. -/
def KeptAs (v : Json) : Option Json → Prop
  | some w => Loosened v w
  | none => v = null

theorem mem_of_lookup {k : String} {v : Json} {ms : List (String × Json)} (h : lookup k ms = some v) : (k, v) ∈ ms := by
  induction ms with
  | nil => cases h
  | cons m ms ih =>
    obtain ⟨k', u⟩ := m
    rw [lookup] at h
    cases hrest : lookup k ms with
    | some w =>
      rw [hrest] at h
      cases h
      exact List.mem_cons_of_mem _ (ih hrest)
    | none =>
      rw [hrest] at h
      obtain ⟨rfl, hu⟩ := Option.ite_none_right_eq_some.mp h
      cases hu
      exact List.mem_cons_self

/-- A record can be loosened part by part. -/
theorem Loosened.of_members {ms ns : List (String × Json)} (h : ∀ m ∈ ms, KeptAs m.2 (lookup m.1 ns))
    (hvariant : ∀ k v, ms = [(k, v)] → ¬isVariantName k) : Loosened (Json.obj ms) (Json.obj ns) := by
  refine .obj (fun k v w hv hw => ?_) (fun k v hv hw => ?_) fun k v hms hk => absurd hk (hvariant k v hms)
  · have hkept := h (k, v) (mem_of_lookup hv)
    rwa [hw] at hkept
  · have hkept := h (k, v) (mem_of_lookup hv)
    rwa [hw] at hkept

theorem lookup_singleton_eq_some {j k : String} {v w : Json} : lookup j [(k, v)] = some w ↔ k = j ∧ v = w := by
  rw [lookup, lookup, Option.ite_none_right_eq_some, Option.some.injEq]

theorem Loosened.of_content {k : String} {c d : Json} (h : Loosened c d) :
    Loosened (Json.variant k c) (Json.variant k d) := by
  refine .obj (fun j v w hv hw => ?_) (fun j v hv hw => ?_) fun j v hms _ => ?_
  · obtain ⟨-, rfl⟩ := lookup_singleton_eq_some.mp hv
    obtain ⟨-, rfl⟩ := lookup_singleton_eq_some.mp hw
    exact h
  · obtain ⟨rfl, -⟩ := lookup_singleton_eq_some.mp hv
    rw [lookup_singleton_eq_some.mpr ⟨rfl, rfl⟩] at hw
    cases hw
  · cases hms
    exact ⟨d, rfl⟩

section
variable {j k : String} {v : Json} {ms ns : List (String × Json)}

theorem lookup_insert_of_ne (h : k ≠ j) : lookup j (ms ++ (k, v) :: ns) = lookup j (ms ++ ns) := by
  induction ms with
  | nil =>
    rw [List.nil_append, List.nil_append, lookup, if_neg h]
    cases lookup j ns <;> rfl
  | cons m ms ih => rw [List.cons_append, List.cons_append, lookup, lookup, ih]

theorem lookup_insert_self (h : lookup k (ms ++ ns) = none) : lookup k (ms ++ (k, v) :: ns) = some v := by
  induction ms with
  | nil =>
    rw [List.nil_append] at h ⊢
    rw [lookup, h, if_pos rfl]
  | cons m ms ih =>
    rw [List.cons_append, lookup] at h ⊢
    cases hrest : lookup k (ms ++ ns) with
    | none => rw [ih hrest]
    | some w =>
      rw [hrest] at h
      cases h

/-- A field that a record lacks can be added anywhere. -/
theorem Loosened.field_added (hk : lookup k (ms ++ ns) = none)
    (hvariant : ∀ j c, ms ++ ns = [(j, c)] → ¬isVariantName j) :
    Loosened (Json.obj (ms ++ ns)) (Json.obj (ms ++ (k, v) :: ns)) := by
  have hne {j : String} {u : Json} (hj : lookup j (ms ++ ns) = some u) : k ≠ j := by
    rintro rfl
    rw [hk] at hj
    cases hj
  refine .obj (fun j u w hu hw => ?_) (fun j u hu hw => ?_) fun j c hms hj => absurd hj (hvariant j c hms)
  · rw [lookup_insert_of_ne (hne hu), hu] at hw
    cases hw
    exact .refl u
  · rw [lookup_insert_of_ne (hne hu), hu] at hw
    cases hw

/-- A field that is `null` can be left out. -/
theorem Loosened.null_left_out (hk : lookup k (ms ++ ns) = none) (hvariant : ¬isVariantName k) :
    Loosened (Json.obj (ms ++ (k, Json.null) :: ns)) (Json.obj (ms ++ ns)) := by
  refine .obj (fun j u w hu hw => ?_) (fun j u hu hw => ?_) fun j c hms hj => ?_
  · have hne : k ≠ j := by
      rintro rfl
      rw [hk] at hw
      cases hw
    rw [lookup_insert_of_ne hne, hw] at hu
    cases hu
    exact .refl _
  · by_cases hkj : k = j
    · subst hkj
      rw [lookup_insert_self hk] at hu
      exact (Option.some.inj hu).symm
    · rw [lookup_insert_of_ne hkj, hw] at hu
      cases hu
  · obtain ⟨-, hjc⟩ | ⟨-, hnil⟩ := List.append_eq_singleton_iff.mp hms
    · cases hjc
      exact absurd hj hvariant
    · cases hnil

end

/-! ## Depth of parts -/

theorem depth_le_of_item {ws : List Json} {i : Nat} {w : Json} (h : ws[i]? = some w) : w.depth ≤ depthList ws := by
  induction ws generalizing i with
  | nil => cases h
  | cons u ws ih =>
    rw [depthList]
    cases i with
    | zero =>
      cases h
      exact Nat.le_max_left _ _
    | succ i => exact Nat.le_trans (ih h) (Nat.le_max_right _ _)

theorem depth_le_of_lookup {k : String} {ns : List (String × Json)} {w : Json} (h : lookup k ns = some w) :
    w.depth ≤ depthMembers ns := by
  induction ns with
  | nil => cases h
  | cons n ns ih =>
    obtain ⟨k', u⟩ := n
    rw [lookup] at h
    rw [depthMembers]
    cases hrest : lookup k ns with
    | some u' =>
      rw [hrest] at h
      cases h
      exact Nat.le_trans (ih hrest) (Nat.le_max_right _ _)
    | none =>
      rw [hrest] at h
      cases (Option.ite_none_right_eq_some.mp h).2
      exact Nat.le_max_left _ _

/-! ## Parts of loosened values -/

/-- The fields of a loosened record, which are nested less deep than a bound. -/
structure Members (n : Nat) (ms ns : List (String × Json)) : Prop where
  kept : ∀ k v, lookup k ms = some v → KeptAs v (lookup k ns)
  depth_lt : ∀ k w, lookup k ns = some w → w.depth < n

theorem Loosened.of_record {n : Nat} {ms : List (String × Json)} {w : Json}
    (h : Loosened (Json.obj ms) w) (hdepth : w.depth < n + 1) : ∃ ns, w = Json.obj ns ∧ Members n ms ns := by
  cases h with
  | @obj _ ns kept missing variant =>
    refine ⟨ns, rfl, fun k v hv => ?_, fun k w hw => ?_⟩
    · cases hw : lookup k ns with
      | none => exact missing k v hv hw
      | some w => exact kept k v w hv hw
    · have hle := depth_le_of_lookup hw
      rw [depth] at hdepth
      omega

theorem Loosened.of_variant {n : Nat} {k : String} {c w : Json} (hk : isVariantName k) (h : Loosened (variant k c) w)
    (hdepth : w.depth < n + 1) : ∃ d, w = variant k d ∧ Loosened c d ∧ d.depth < n := by
  cases h with
  | @obj _ ns kept missing variant =>
    obtain ⟨d, rfl⟩ := variant k c rfl hk
    have hhere (u : Json) : lookup k [(k, u)] = some u := by simp [lookup]
    refine ⟨d, rfl, kept k c d (hhere c) (hhere d), ?_⟩
    rw [depth, depthMembers, depthMembers] at hdepth
    omega

theorem Loosened.ne_null {v w : Json} (h : Loosened v w) (hv : v ≠ Json.null) : w ≠ Json.null := by
  rintro rfl
  cases h
  exact hv rfl

end GoRebuild.Json
