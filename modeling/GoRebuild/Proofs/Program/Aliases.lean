import GoRebuild.Proofs.Text.Digits
import GoRebuild.Symbols
import Mathlib.Algebra.Group.Nat.Defs
import Mathlib.Data.List.Infix
import Mathlib.Data.List.TakeWhile

/-!
# The local name that an import path implies

A path is split at its slashes. The last segment names the package, or the one before it if the last is a version of at
least two; from that segment a version behind a dot is dropped.

* `IsVersion`, `CountsAsVersion` : `v` and digits, and what is taken for that: there may be a plus sign before the digits,
  and the number is below `2 ^ 64` (`majorVersion_eq_some_iff`);
* `NamingSegment`, `SegmentName` : the segment that names the package, and the name that it gives;
* `namingSegment_packageSegment`, `segmentName_defaultAlias` : both as they are computed;
* `default_alias_by_version` : the name of a path, and when that is the name by versions proper.
-/

namespace GoRebuild

/-! ## Versions -/

/-- A version: `v` and the digits of a number. -/
def IsVersion (cs : List Char) (n : Nat) : Prop :=
  ∃ ds, cs = 'v' :: ds ∧ ds ≠ [] ∧ ds.all Char.isDigit ∧ Nat.ofDigitChars 10 ds 0 = n

/-- What is taken for a version: a plus sign may stand before the digits, and the number is below `2 ^ 64`. -/
def CountsAsVersion (cs : List Char) (n : Nat) : Prop :=
  n < 2 ^ 64 ∧ (IsVersion cs n ∨ ∃ ds, cs = 'v' :: '+' :: ds ∧ IsVersion ('v' :: ds) n)

/-- Whether no ending of a segment is `v+` with what follows, or a version whose number has more than 64 bits. -/
def hasPlainVersions (path : List Char) : Bool :=
  (path.splitOn '/').all fun s => s.tails.all fun
    | 'v' :: '+' :: _ => false
    | 'v' :: ds => !ds.all Char.isDigit || Nat.ofDigitChars 10 ds 0 < 2 ^ 64
    | _ => true

variable {cs : List Char} {n : Nat}

theorem IsVersion.not_mem_dot (h : IsVersion cs n) : '.' ∉ cs := by
  obtain ⟨ds, rfl, -, hdigits, -⟩ := h
  intro hmem
  rcases List.mem_cons.mp hmem with hdot | hmem
  · cases hdot
  · cases List.all_eq_true.mp hdigits _ hmem

theorem CountsAsVersion.not_mem_dot (h : CountsAsVersion cs n) : '.' ∉ cs := by
  rcases h with ⟨-, h | ⟨ds, rfl, h⟩⟩
  · exact h.not_mem_dot
  · have hdot := h.not_mem_dot
    simpa using hdot

/-- Digits and their number. -/
theorem isVersion_cons_iff {ds : List Char} : IsVersion ('v' :: ds) n ↔
    ds ≠ [] ∧ ds.all Char.isDigit ∧ ds.foldl (fun n d => n * 10 + (d.toNat - 48)) 0 = n := by
  rw [Text.foldl_eq_ofDigitChars]
  constructor
  · rintro ⟨_, h, hne, hdigits, hn⟩
    obtain rfl := (List.cons.inj h).2
    exact ⟨hne, hdigits, hn⟩
  · rintro ⟨hne, hdigits, hn⟩
    exact ⟨ds, rfl, hne, hdigits, hn⟩

theorem not_isVersion_plus {ds : List Char} : ¬IsVersion ('v' :: '+' :: ds) n := by
  rw [isVersion_cons_iff]
  rintro ⟨-, hdigits, -⟩
  cases (Bool.and_eq_true_iff.mp hdigits).1

/-- The versions that are found. -/
theorem majorVersion_eq_some_iff : majorVersion? cs = some n ↔ CountsAsVersion cs n := by
  have hdigits (ds : List Char) : (if ds.isEmpty || !ds.all Char.isDigit then none else
      let n := ds.foldl (fun n d => n * 10 + (d.toNat - 48)) 0
      if n < Nat.pow 2 64 then some n else none) = some n ↔ n < 2 ^ 64 ∧ IsVersion ('v' :: ds) n := by
    rw [isVersion_cons_iff, Nat.pow_eq]
    grind
  unfold CountsAsVersion
  rcases cs with _ | ⟨c, cs⟩
  · simp [majorVersion?, IsVersion]
  by_cases hv : c = 'v'
  · subst hv
    by_cases hplus : ∃ ds, cs = '+' :: ds
    · obtain ⟨ds, rfl⟩ := hplus
      rw [majorVersion?, wordValue?, hdigits, or_iff_right not_isVersion_plus]
      simp
    · have hnot : ¬∃ ds, 'v' :: cs = 'v' :: '+' :: ds ∧ IsVersion ('v' :: ds) n := by
        rintro ⟨ds, h, -⟩
        exact hplus ⟨ds, (List.cons.inj h).2⟩
      rw [majorVersion?, wordValue?, hdigits, or_iff_left hnot]
      exact fun ds hds => hplus ⟨ds, hds⟩
  · have hnone : majorVersion? (c :: cs) = none := by
      rw [majorVersion?]
      simpa using hv
    simp [hnone, IsVersion, hv]

/-! ## Pieces of a path -/

theorem segments_eq_splitOn (cs : List Char) : segments cs = cs.splitOn '/' := by
  induction cs with
  | nil => rfl
  | cons c cs ih =>
    rw [List.splitOn_eq_splitOnP, List.splitOnP_cons_eq_if_modifyHead, ← List.splitOn_eq_splitOnP, ← ih, segments]
    cases hrest : segments cs with
    | nil => exact absurd (ih.symm.trans hrest) (List.splitOn_ne_nil _ _)
    | cons s ss => simp

theorem splitAtLastDot_append {a b : List Char} (hb : '.' ∉ b) : splitAtLastDot? (a ++ '.' :: b) = some (a, b) := by
  have hreverse : (a ++ '.' :: b).reverse = b.reverse ++ '.' :: a.reverse := by simp
  have hafter : ∀ c ∈ b.reverse, decide (c ≠ '.') = true := by
    intro c hc
    exact decide_eq_true fun hdot => hb (hdot ▸ List.mem_reverse.mp hc)
  unfold splitAtLastDot?
  rw [hreverse, List.takeWhile_append_of_pos hafter, List.dropWhile_append_of_pos hafter]
  simp

theorem splitAtLastDot_of_not_mem (h : '.' ∉ cs) : splitAtLastDot? cs = none := by
  have hnil : cs.reverse.dropWhile (· ≠ '.') = [] := by
    rw [List.dropWhile_eq_nil_iff]
    intro c hc
    exact decide_eq_true fun hdot => h (hdot ▸ List.mem_reverse.mp hc)
  unfold splitAtLastDot?
  rw [hnil]

/-- A text with a dot has a last one. -/
theorem exists_last_dot (h : '.' ∈ cs) : ∃ a b, cs = a ++ '.' :: b ∧ '.' ∉ b := by
  obtain ⟨b, a, hreverse, hb⟩ := List.eq_append_cons_of_mem (List.mem_reverse.mpr h)
  refine ⟨a.reverse, b.reverse, ?_, fun hmem => hb (List.mem_reverse.mp hmem)⟩
  rw [← List.reverse_reverse cs, hreverse]
  simp

/-! ## The name -/

section
variable (V : List Char → Nat → Prop)

/-- The segment of a path that names the package: the one before the last if that is a version of at least two. -/
inductive NamingSegment : List (List Char) → List Char → Prop
  | beforeVersion {front : List (List Char)} {parent last : List Char} {n : Nat} (hlast : V last n) (hn : 2 ≤ n) :
    NamingSegment (front ++ [parent, last]) parent
  | last {front : List (List Char)} {last : List Char} (h : ∀ n, V last n → 2 ≤ n → front = []) :
    NamingSegment (front ++ [last]) last

/-- The name that a segment gives: the part before a version behind a dot, or all of it. -/
inductive SegmentName : List Char → List Char → Prop
  | unversioned {name v : List Char} {n : Nat} (hname : name ≠ []) (hv : V v n) : SegmentName (name ++ '.' :: v) name
  | whole {segment : List Char} (h : ∀ name v n, segment = name ++ '.' :: v → V v n → name = []) :
    SegmentName segment segment

end

variable {V : List Char → Nat → Prop} {ss : List (List Char)} {segment segment' name name' : List Char}

theorem NamingSegment.unique (h : NamingSegment V ss segment) (h' : NamingSegment V ss segment') : segment = segment' := by
  cases h with
  | @beforeVersion front parent last n hlast hn =>
    generalize hss : front ++ [segment, last] = ss at h'
    cases h' with
    | @beforeVersion front' _ last' n' hlast' hn' =>
      have hends := (List.append_inj' hss rfl).2
      simpa using (List.cons.inj hends).1
    | @last front' _ h' =>
      rw [List.append_cons] at hss
      obtain ⟨hfront, hlast'⟩ := List.append_inj' hss rfl
      obtain rfl := (List.cons.inj hlast').1
      rw [h' n hlast hn] at hfront
      exact absurd hfront (by simp)
  | @last front _ h =>
    generalize hss : front ++ [segment] = ss at h'
    cases h' with
    | @beforeVersion front' _ last' n' hlast' hn' =>
      rw [List.append_cons front'] at hss
      obtain ⟨hfront, hlast⟩ := List.append_inj' hss rfl
      obtain rfl := (List.cons.inj hlast).1
      rw [h n' hlast' hn'] at hfront
      exact absurd hfront.symm (by simp)
    | @last front' _ h' =>
      have hends := (List.append_inj' hss rfl).2
      exact (List.cons.inj hends).1

theorem SegmentName.unique (hV : ∀ v n, V v n → '.' ∉ v) (h : SegmentName V segment name)
    (h' : SegmentName V segment name') : name = name' := by
  cases h with
  | @unversioned _ v n hname hv =>
    generalize hs : name ++ '.' :: v = segment at h'
    cases h' with
    | @unversioned _ v' n' hname' hv' =>
      have hsplit := splitAtLastDot_append (a := name) (hV v n hv)
      rw [hs, splitAtLastDot_append (hV v' n' hv')] at hsplit
      exact (Prod.mk.inj (Option.some.inj hsplit)).1.symm
    | whole h' => exact absurd (h' name v n hs.symm hv) hname
  | whole h =>
    generalize hs : segment = s at h'
    cases h' with
    | @unversioned _ v' n' hname' hv' => exact absurd (h name' v' n' hs hv') hname'
    | whole h' => rfl

/-- The segment that is taken. -/
theorem namingSegment_packageSegment (path : List Char) :
    NamingSegment CountsAsVersion (path.splitOn '/') (packageSegment path) := by
  rw [← segments_eq_splitOn]
  have hne : segments path ≠ [] := segments_eq_splitOn path ▸ List.splitOn_ne_nil _ _
  have hreverse := List.reverse_reverse (segments path)
  unfold packageSegment
  rcases hrev : (segments path).reverse with _ | ⟨last, _ | ⟨parent, front⟩⟩
  · exact absurd (List.reverse_eq_nil_iff.mp hrev) hne
  · rw [← hreverse, hrev]
    exact @NamingSegment.last CountsAsVersion [] last fun _ _ _ => rfl
  · rw [← hreverse, hrev, List.reverse_cons]
    cases hversion : majorVersion? last with
    | none =>
      simp only [hversion]
      refine .last fun n hlast => ?_
      rw [majorVersion_eq_some_iff.mpr hlast] at hversion
      cases hversion
    | some n =>
      by_cases hn : 2 ≤ n
      · simp only [hversion, hn, if_true, List.reverse_cons, List.append_assoc, List.singleton_append]
        exact .beforeVersion (majorVersion_eq_some_iff.mp hversion) hn
      · simp only [hversion, hn, if_false]
        refine .last fun m hlast hm => ?_
        rw [majorVersion_eq_some_iff.mpr hlast] at hversion
        exact absurd (Option.some.inj hversion ▸ hm) hn

/-- The name that is given. -/
theorem segmentName_defaultAlias (path : String) :
    SegmentName CountsAsVersion (packageSegment path.toList) (defaultAlias path).toList := by
  unfold defaultAlias
  generalize packageSegment path.toList = segment
  by_cases hdot : '.' ∈ segment
  · obtain ⟨name, v, rfl, hv⟩ := exists_last_dot hdot
    have honly {name' v' : List Char} {n : Nat} (h : name ++ '.' :: v = name' ++ '.' :: v') (hversion : CountsAsVersion v' n) :
        name' = name ∧ v' = v := by
      have hsplit := splitAtLastDot_append (a := name) hv
      rw [h, splitAtLastDot_append hversion.not_mem_dot] at hsplit
      exact Prod.mk.inj (Option.some.inj hsplit)
    simp only [splitAtLastDot_append hv, Bool.and_eq_true, Bool.not_eq_true', List.isEmpty_eq_false_iff]
    split
    · rename_i h
      obtain ⟨n, hn⟩ := Option.isSome_iff_exists.mp h.2
      rw [String.toList_ofList]
      exact .unversioned h.1 (majorVersion_eq_some_iff.mp hn)
    · rename_i h
      rw [String.toList_ofList]
      refine .whole fun name' v' n hsegment hversion => ?_
      obtain ⟨rfl, rfl⟩ := honly hsegment hversion
      by_contra hname
      exact h ⟨hname, Option.isSome_iff_exists.mpr ⟨n, majorVersion_eq_some_iff.mpr hversion⟩⟩
  · simp only [splitAtLastDot_of_not_mem hdot, String.toList_ofList]
    refine .whole fun name v n hsegment _ => absurd ?_ hdot
    rw [hsegment]
    exact List.mem_append_right _ List.mem_cons_self

/-! ## Plain versions -/

theorem NamingSegment.mono {V W : List Char → Nat → Prop} (hVW : ∀ s ∈ ss, ∀ n, V s n ↔ W s n)
    (h : NamingSegment V ss segment) : NamingSegment W ss segment := by
  cases h with
  | beforeVersion hlast hn => exact .beforeVersion ((hVW _ (by simp) _).mp hlast) hn
  | last h => exact .last fun n hlast => h n ((hVW _ (by simp) _).mpr hlast)

theorem SegmentName.mono {V W : List Char → Nat → Prop} (hVW : ∀ v, v <:+ segment → ∀ n, V v n ↔ W v n)
    (h : SegmentName V segment name) : SegmentName W segment name := by
  cases h with
  | @unversioned _ v n hname hv =>
    exact .unversioned hname ((hVW v (List.suffix_append_of_suffix (List.suffix_cons _ _)) n).mp hv)
  | whole h =>
    refine .whole fun name v n hsegment hv => h name v n hsegment ((hVW v ?_ n).mpr hv)
    rw [hsegment]
    exact List.suffix_append_of_suffix (List.suffix_cons _ _)

theorem NamingSegment.mem (h : NamingSegment V ss segment) : segment ∈ ss := by
  cases h <;> simp

/-- The versions of such a path are those that are found. -/
theorem countsAsVersion_iff_of_plain {path s v : List Char} (h : hasPlainVersions path) (hs : s ∈ path.splitOn '/')
    (hv : v <:+ s) (n : Nat) : CountsAsVersion v n ↔ IsVersion v n := by
  have hcheck := List.all_eq_true.mp (List.all_eq_true.mp h s hs) v ((List.mem_tails v s).mpr hv)
  constructor
  · rintro ⟨-, hversion | ⟨ds, rfl, -⟩⟩
    · exact hversion
    · cases hcheck
  · intro hversion
    refine ⟨?_, .inl hversion⟩
    obtain ⟨ds, rfl, -, hdigits, rfl⟩ := hversion
    split at hcheck
    · cases hcheck
    · rename_i heq
      obtain rfl := (List.cons.inj heq).2
      simpa [hdigits] using hcheck
    · rename_i hne
      exact absurd rfl (hne ds)

/-- The name of a path, where versions are those that are found. -/
theorem defaultAlias_eq_iff {path name : String} (hdot : ∀ v n, V v n → '.' ∉ v)
    (hV : ∀ s ∈ path.toList.splitOn '/', ∀ v, v <:+ s → ∀ n, CountsAsVersion v n ↔ V v n) :
    defaultAlias path = name ↔
      ∃ segment, NamingSegment V (path.toList.splitOn '/') segment ∧ SegmentName V segment name.toList := by
  have hsegment : NamingSegment V (path.toList.splitOn '/') (packageSegment path.toList) :=
    (namingSegment_packageSegment _).mono fun s hs => hV s hs s List.suffix_rfl
  have hname : SegmentName V (packageSegment path.toList) (defaultAlias path).toList :=
    (segmentName_defaultAlias path).mono (hV _ hsegment.mem)
  constructor
  · rintro rfl
    exact ⟨_, hsegment, hname⟩
  · rintro ⟨segment, hsegment', hname'⟩
    rw [hsegment'.unique hsegment] at hname'
    exact String.toList_inj.mp (hname.unique hdot hname')

/-- **The local name that a path implies.** The segment before a version of at least two names the package, otherwise the
last one, and a version behind its last dot is dropped. A plus sign is passed over in a version, and a number of more than
64 bits makes none; where the path has nothing of the kind, versions are `v` and digits. -/
theorem default_alias_by_version (path name : String) :
    (defaultAlias path = name ↔ ∃ segment, NamingSegment CountsAsVersion (path.toList.splitOn '/') segment ∧
      SegmentName CountsAsVersion segment name.toList) ∧
    (hasPlainVersions path.toList → (defaultAlias path = name ↔
      ∃ segment, NamingSegment IsVersion (path.toList.splitOn '/') segment ∧ SegmentName IsVersion segment name.toList)) :=
  ⟨defaultAlias_eq_iff (fun _ _ => CountsAsVersion.not_mem_dot) fun _ _ _ _ _ => Iff.rfl,
    fun h => defaultAlias_eq_iff (fun _ _ => IsVersion.not_mem_dot) fun _ hs _ => countsAsVersion_iff_of_plain h hs⟩

/-- Both versions of a path are dropped. -/
theorem default_alias_by_version_both :
    hasPlainVersions "gopkg.in/yaml.v3/v2".toList ∧
      ∃ segment, NamingSegment IsVersion ("gopkg.in/yaml.v3/v2".toList.splitOn '/') segment ∧
        SegmentName IsVersion segment "yaml".toList := by
  have hplain : hasPlainVersions "gopkg.in/yaml.v3/v2".toList := by decide +kernel
  exact ⟨hplain, ((default_alias_by_version "gopkg.in/yaml.v3/v2" "yaml").2 hplain).mp (by decide +kernel)⟩

/-- A plus sign is passed over. -/
example : defaultAlias "example.com/pkg/v+2" = "pkg" := by decide +kernel

/-- A number of 65 bits is none. -/
example : defaultAlias "example.com/pkg/v18446744073709551616" = "v18446744073709551616" := by decide +kernel

end GoRebuild
