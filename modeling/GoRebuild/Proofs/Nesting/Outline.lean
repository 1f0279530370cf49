import Mathlib.Tactic.Tauto

/-!
# Outlines

What a pass over a tree comes across, in the order in which it does: nodes that count as a level of nesting,
with all that is in them, and constructs that it refuses. Nothing else decides whether the pass succeeds.

* `Outline` : nodes and refusals at places of some kind; outlines are put behind each other by `++`;
* `Outline.refusals` : all that is refused;
* `Outline.Refuses P` : only constructs whose names have a property are refused;
* `Outline.height` : the number of nodes on the longest way down;
* `Outline.walk` : a pass that stops at the first refusal, or where it is nested too deep;
* `Outline.walk_eq_ok_iff`, `Outline.mem_refusals_of_walk`, `Outline.lt_height_of_walk` : how a walk ends.
-/

namespace GoRebuild

/-- What a pass over a tree comes across. -/
inductive Outline (α : Type) where
  | done
  /-- a construct that is refused, and what would come behind it -/
  | refuse (kind : String) (place : α) (rest : Outline α)
  /-- a node one level deeper with what is in it, and what comes behind it -/
  | visit (place : α) (inside rest : Outline α)

/-- Why a pass stops. -/
inductive Stop (α : Type) where
  | refused (kind : String) (place : α)
  | tooDeep (place : α)

namespace Outline

variable {α : Type}

/-- One outline behind another. -/
def append : Outline α → Outline α → Outline α
  | done, p => p
  | refuse kind place rest, p => refuse kind place (rest.append p)
  | visit place inside rest, p => visit place inside (rest.append p)

instance : Append (Outline α) := ⟨append⟩

theorem done_append (p : Outline α) : done ++ p = p := rfl

theorem append_done (o : Outline α) : o ++ done = o := by
  induction o with
  | done => rfl
  | refuse kind place rest ih => exact congrArg (refuse kind place) ih
  | visit place inside rest _ ih => exact congrArg (visit place inside) ih

theorem append_assoc (o p q : Outline α) : o ++ p ++ q = o ++ (p ++ q) := by
  induction o with
  | done => rfl
  | refuse kind place rest ih => exact congrArg (refuse kind place) ih
  | visit place inside rest _ ih => exact congrArg (visit place inside) ih

/-- A single refusal. -/
def refusal (kind : String) (place : α) : Outline α :=
  refuse kind place done

/-- A single node. -/
def node (place : α) (inside : Outline α) : Outline α :=
  visit place inside done

/-- All that is refused, in order. -/
def refusals : Outline α → List (String × α)
  | done => []
  | refuse kind place rest => (kind, place) :: rest.refusals
  | visit _ inside rest => inside.refusals ++ rest.refusals

/-- How many nodes are nested in each other, at most. -/
def height : Outline α → Nat
  | done => 0
  | refuse _ _ rest => rest.height
  | visit _ inside rest => max (inside.height + 1) rest.height

theorem refusals_append (o p : Outline α) : (o ++ p).refusals = o.refusals ++ p.refusals := by
  induction o with
  | done => rfl
  | refuse kind place rest ih => exact congrArg ((kind, place) :: ·) ih
  | visit place inside rest _ ih =>
    change inside.refusals ++ (rest ++ p).refusals = inside.refusals ++ rest.refusals ++ p.refusals
    rw [ih, List.append_assoc]

theorem height_append (o p : Outline α) : (o ++ p).height = max o.height p.height := by
  induction o with
  | done => exact (Nat.zero_max _).symm
  | refuse kind place rest ih => exact ih
  | visit place inside rest _ ih =>
    change max (inside.height + 1) (rest ++ p).height = max (max (inside.height + 1) rest.height) p.height
    rw [ih, Nat.max_assoc]

theorem height_node (place : α) (inside : Outline α) : (node place inside).height = inside.height + 1 :=
  Nat.max_zero _

/-- The names of all constructs that are refused have a property. -/
def Refuses (P : String → Prop) (o : Outline α) : Prop :=
  ∀ r ∈ o.refusals, P r.1

namespace Refuses

variable {P Q : String → Prop} {o p : Outline α}

theorem done : Refuses P (Outline.done : Outline α) := nofun

theorem append (ho : o.Refuses P) (hp : p.Refuses P) : (o ++ p).Refuses P := by
  intro r hr
  rw [refusals_append, List.mem_append] at hr
  exact hr.elim (ho r) (hp r)

theorem node (place : α) (ho : o.Refuses P) : (node place o).Refuses P := by
  intro r hr
  rw [Outline.node, refusals, refusals, List.append_nil] at hr
  exact ho r hr

theorem refusal {kind : String} (h : P kind) (place : α) : (refusal kind place).Refuses P := by
  rintro r (_ | ⟨_, ⟨⟩⟩)
  exact h

theorem mono (ho : o.Refuses P) (h : ∀ kind, P kind → Q kind) : o.Refuses Q :=
  fun r hr => h r.1 (ho r hr)

end Refuses

/-- A pass from some depth, where nodes may be nested as deep as a limit says. -/
def walk (limit : Nat) : Nat → Outline α → Except (Stop α) Unit
  | _, done => .ok ()
  | _, refuse kind place _ => .error (.refused kind place)
  | depth, visit place inside rest =>
    if limit ≤ depth then .error (.tooDeep place)
    else do
      walk limit (depth + 1) inside
      walk limit depth rest

variable {limit depth : Nat}

theorem walk_append (o p : Outline α) :
    (o ++ p).walk limit depth = o.walk limit depth >>= fun _ => p.walk limit depth := by
  induction o with
  | done => rfl
  | refuse kind place rest => rfl
  | visit place inside rest _ ih =>
    change (visit place inside (rest ++ p)).walk limit depth = _
    rw [walk, walk]
    split
    · rfl
    · rw [ih]
      cases inside.walk limit (depth + 1) <;> rfl

/-- Nothing comes behind a single node. -/
theorem walk_node (place : α) (inside : Outline α) :
    (node place inside).walk limit depth =
      if limit ≤ depth then .error (.tooDeep place) else inside.walk limit (depth + 1) := by
  rw [node, walk]
  split
  · rfl
  · cases inside.walk limit (depth + 1) <;> rfl

/-! ## How a walk ends -/

/-- A walk comes through exactly if nothing is refused and no way down is longer than the levels left. -/
theorem walk_eq_ok_iff (o : Outline α) :
    o.walk limit depth = .ok () ↔ o.refusals = [] ∧ o.height ≤ limit - depth := by
  induction o generalizing depth with
  | done => simp [walk, refusals, height]
  | refuse kind place rest _ => simp [walk, refusals]
  | visit place inside rest ihinside ihrest =>
    rw [walk, refusals, height, List.append_eq_nil_iff, Nat.max_le]
    split
    · rename_i hdepth
      simp
      omega
    · rename_i hdepth
      have hinside := @ihinside (depth + 1)
      have hlevels : inside.height ≤ limit - (depth + 1) ↔ inside.height + 1 ≤ limit - depth := by omega
      rw [hlevels] at hinside
      cases hwalk : inside.walk limit (depth + 1) with
      | error e =>
        rw [hwalk] at hinside
        have hnot : ¬(inside.refusals = [] ∧ inside.height + 1 ≤ limit - depth) :=
          fun h => nomatch hinside.mpr h
        simp only [bind, Except.bind, reduceCtorEq, false_iff]
        tauto
      | ok u =>
        rw [hwalk] at hinside
        have hboth := hinside.mp rfl
        simp only [bind, Except.bind, ihrest]
        tauto

/-- What a walk refuses is one of the refusals. -/
theorem mem_refusals_of_walk {o : Outline α} {kind : String} {place : α}
    (h : o.walk limit depth = .error (.refused kind place)) : (kind, place) ∈ o.refusals := by
  induction o generalizing depth with
  | done => cases h
  | refuse kind' place' rest _ =>
    cases h
    exact List.mem_cons_self
  | visit place' inside rest ihinside ihrest =>
    rw [walk] at h
    rw [refusals, List.mem_append]
    split at h
    · cases h
    · cases hwalk : inside.walk limit (depth + 1) with
      | error e =>
        rw [hwalk] at h
        cases h
        exact .inl (ihinside hwalk)
      | ok u =>
        rw [hwalk] at h
        exact .inr (ihrest h)

/-- Where a walk is nested too deep, some way down is longer than the levels left. -/
theorem lt_height_of_walk {o : Outline α} {place : α} (h : o.walk limit depth = .error (.tooDeep place)) :
    limit < depth + o.height := by
  induction o generalizing depth with
  | done => cases h
  | refuse kind place' rest _ => cases h
  | visit place' inside rest ihinside ihrest =>
    rw [walk] at h
    rw [height]
    split at h
    · omega
    · cases hwalk : inside.walk limit (depth + 1) with
      | error e =>
        rw [hwalk] at h
        cases h
        have := ihinside hwalk
        omega
      | ok u =>
        rw [hwalk] at h
        have := ihrest h
        omega

end Outline

end GoRebuild
