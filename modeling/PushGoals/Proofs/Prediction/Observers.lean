import PushGoals.Prediction.Forecast
import PushGoals.Proofs.Goal.Merging

/-!
# What is seen of a forecast

Of a forecast only six things matter for what is predicted: the names of its
definite sets, the names of all its sets, whether a lock is certain, whether a
lock is possible, whether a road is unknown, and whether it is empty.  Here each
way of putting forecasts together is described by what it does to them.

`Forecast.addUp` is the merge of contributions in order, over forecasts that
have been made already.
-/

namespace PushGoals
namespace Forecast

def definiteNames (f : Forecast) : List String := f.definite.flatMap GoalSet.uniqueNames

def names (f : Forecast) : List String := (f.definite ++ f.possible).flatMap GoalSet.uniqueNames

def settled : Option GoalSet → Forecast
  | some set => certain set
  | none => nothing

/-- Contributions in order: a certain lock ends the merge, and after a possible
one the later contributions are only possible. -/
def addUp (forecast : Forecast) (lockPossible : Bool) : List Forecast → Forecast
  | [] => forecast
  | next :: rest =>
      let next := if lockPossible then next.demote else next
      let merged := forecast.merge next
      if next.locks then merged else addUp merged (lockPossible || next.mayLock) rest

/-! ## Unions of sets -/

/-- A property of sets that does not tell equal sets apart is not lost by leaving
out sets that are there already. -/
theorem exists_mem_union {P : GoalSet → Prop} (hsame : ∀ a b, a.isSame b = true → (P a ↔ P b))
    (sets more : List GoalSet) :
    (∃ set ∈ union sets more, P set) ↔ (∃ set ∈ sets, P set) ∨ ∃ set ∈ more, P set := by
  induction more generalizing sets with
  | nil => simp [union]
  | cons next more ih =>
      have hstep : union sets (next :: more) =
          union (if sets.any (·.isSame next) then sets else sets ++ [next]) more := rfl
      rw [hstep, ih]
      by_cases hthere : sets.any (·.isSame next) = true
      · rw [if_pos hthere]
        obtain ⟨set, hset, heq⟩ := List.any_eq_true.mp hthere
        constructor
        · rintro (h | ⟨other, hother, hP⟩)
          · exact .inl h
          · exact .inr ⟨other, List.mem_cons_of_mem _ hother, hP⟩
        · rintro (h | ⟨other, hother, hP⟩)
          · exact .inl h
          · rcases List.mem_cons.mp hother with rfl | hmore
            · exact .inl ⟨set, hset, (hsame set other heq).mpr hP⟩
            · exact .inr ⟨other, hmore, hP⟩
      · rw [if_neg hthere]
        simp [or_and_right, exists_or, or_assoc]

theorem mem_names_union {sets more : List GoalSet} {name : String} :
    name ∈ (union sets more).flatMap GoalSet.uniqueNames ↔
      name ∈ sets.flatMap GoalSet.uniqueNames ∨ name ∈ more.flatMap GoalSet.uniqueNames := by
  simp only [List.mem_flatMap]
  apply exists_mem_union
  intro a b hab
  rw [(GoalSet.isSame_iff.mp hab).2.1]

theorem any_locked_union (sets more : List GoalSet) :
    (union sets more).any (·.locked) = (sets.any (·.locked) || more.any (·.locked)) := by
  rw [Bool.eq_iff_iff, Bool.or_eq_true]
  simp only [List.any_eq_true]
  apply exists_mem_union
  intro a b hab
  rw [(GoalSet.isSame_iff.mp hab).2.2]

theorem isEmpty_union (sets more : List GoalSet) :
    (union sets more).isEmpty = (sets.isEmpty && more.isEmpty) := by
  have hempty (list : List GoalSet) : list.isEmpty = true ↔ ¬∃ set ∈ list, True := by
    cases list <;> simp
  rw [Bool.eq_iff_iff, Bool.and_eq_true, hempty, hempty, hempty,
    exists_mem_union (fun _ _ _ => Iff.rfl), not_or]

@[simp] theorem union_nil (sets : List GoalSet) : union sets [] = sets := rfl

theorem isEmpty_append {α : Type} (first second : List α) :
    (first ++ second).isEmpty = (first.isEmpty && second.isEmpty) := by
  cases first <;> rfl

/-! ## Merging -/

theorem mem_definiteNames_merge {f g : Forecast} {name : String} :
    name ∈ (f.merge g).definiteNames ↔ name ∈ f.definiteNames ∨ name ∈ g.definiteNames :=
  mem_names_union

theorem mem_names_merge {f g : Forecast} {name : String} :
    name ∈ (f.merge g).names ↔ name ∈ f.names ∨ name ∈ g.names := by
  simp only [names, merge, List.flatMap_append, List.mem_append, mem_names_union]
  constructor
  · rintro ((h | h) | (h | h)) <;> simp [h]
  · rintro ((h | h) | (h | h)) <;> simp [h]

@[simp] theorem locks_merge (f g : Forecast) : (f.merge g).locks = (f.locks || g.locks) :=
  any_locked_union f.definite g.definite

@[simp] theorem mayLock_merge (f g : Forecast) :
    (f.merge g).mayLock = (f.mayLock || g.mayLock) := by
  simp only [mayLock, merge, List.any_append, any_locked_union, isEmpty_append, Bool.not_and]
  ac_rfl

@[simp] theorem isEmpty_merge (f g : Forecast) :
    (f.merge g).isEmpty = (f.isEmpty && g.isEmpty) := by
  simp only [isEmpty, merge, isEmpty_union, isEmpty_append]
  ac_rfl

@[simp] theorem unknown_merge (f g : Forecast) : (f.merge g).unknown = f.unknown ++ g.unknown :=
  rfl

/-! ## Demoting -/

@[simp] theorem locks_demote (f : Forecast) : f.demote.locks = false := rfl

theorem mem_names_demote {f : Forecast} {name : String} :
    name ∈ f.demote.names ↔ name ∈ f.names := by
  simp only [names, demote, List.nil_append, List.flatMap_append, List.mem_append, mem_names_union]

@[simp] theorem mayLock_demote (f : Forecast) : f.demote.mayLock = f.mayLock := by
  simp only [mayLock, demote, List.nil_append, List.any_append, any_locked_union]

@[simp] theorem isEmpty_demote (f : Forecast) : f.demote.isEmpty = f.isEmpty := by
  simp only [isEmpty, demote, isEmpty_union, List.isEmpty_nil, Bool.true_and]

/-! ## Known results -/

@[simp] theorem definiteNames_settled (given : Option GoalSet) :
    (settled given).definiteNames = GoalSet.namesOf given := by
  cases given with
  | none => rfl
  | some set => exact List.append_nil set.uniqueNames

@[simp] theorem names_settled (given : Option GoalSet) :
    (settled given).names = GoalSet.namesOf given := by
  cases given with
  | none => rfl
  | some set => exact List.append_nil set.uniqueNames

@[simp] theorem locks_settled (given : Option GoalSet) :
    (settled given).locks = Rule.closed given := by
  cases given with
  | none => rfl
  | some set => exact Bool.or_false set.locked

@[simp] theorem mayLock_settled (given : Option GoalSet) :
    (settled given).mayLock = Rule.closed given := by
  cases given with
  | none => rfl
  | some set => exact Bool.or_false set.locked

@[simp] theorem unknown_settled (given : Option GoalSet) : (settled given).unknown = [] := by
  cases given <;> rfl

theorem mayLock_of_locks {f : Forecast} (hlocks : f.locks = true) : f.mayLock = true := by
  unfold locks at hlocks
  unfold mayLock
  rw [List.any_append, hlocks, Bool.true_or, Bool.or_true]

/-- Known contributions up to the first locked one become definite, and nothing
else happens. -/
theorem addUp_settled (f : Forecast) (results : List (Option GoalSet)) :
    f.addUp false (results.map settled) =
      { f with definite := union f.definite (GoalSet.untilLocked (results.filterMap id)) } := by
  induction results generalizing f with
  | nil => rfl
  | cons given rest ih =>
      cases given with
      | none =>
          have hmerge : f.merge (settled none) = f := by
            simp [merge, settled, nothing]
          rw [List.map_cons, addUp]
          simp only [Bool.false_eq_true, if_false, locks_settled, mayLock_settled,
            GoalSet.closed_none, Bool.or_false]
          rw [hmerge, ih]
          rfl
      | some set =>
          have hmerge : f.merge (settled (some set)) =
              { f with definite := union f.definite [set] } := by
            simp [merge, settled, certain]
          rw [List.map_cons, addUp]
          simp only [Bool.false_eq_true, if_false, locks_settled, mayLock_settled,
            GoalSet.closed_some, Bool.false_or]
          have hgiven : List.filterMap id (some set :: rest) = set :: rest.filterMap id := rfl
          rw [hmerge, hgiven]
          by_cases hlocked : set.locked = true
          · rw [if_pos hlocked, GoalSet.untilLocked_cons_of_locked _ hlocked]
          · rw [if_neg hlocked, Bool.eq_false_iff.mpr hlocked, ih,
              GoalSet.untilLocked_cons_of_open _ (Bool.eq_false_iff.mpr hlocked)]
            rfl

/-! ## A head that may match -/

theorem orElse_of_isEmpty {head : Forecast} (hhead : head.isEmpty = true) (tail : Forecast) :
    head.orElse tail = tail := if_pos hhead

section Standing

variable {head : Forecast} (hhead : head.isEmpty = false) (tail : Forecast)
include hhead

theorem definite_orElse : (head.orElse tail).definite = [] := by
  simp [orElse, hhead]

theorem unknown_orElse : (head.orElse tail).unknown = head.unknown ++ tail.unknown := by
  simp [orElse, hhead]

theorem mem_names_orElse {name : String} :
    name ∈ (head.orElse tail).names ↔ name ∈ head.names ∨ name ∈ tail.names := by
  simp only [orElse, hhead, names, List.flatMap_append, List.mem_append]
  simp only [Bool.false_eq_true, if_false, List.flatMap_nil, List.not_mem_nil, false_or,
    mem_names_union, or_assoc]

theorem mayLock_orElse : (head.orElse tail).mayLock = (head.mayLock || tail.mayLock) := by
  simp only [orElse, hhead, mayLock, List.any_append]
  simp only [Bool.false_eq_true, if_false, List.any_nil, Bool.false_or, any_locked_union,
    isEmpty_append, Bool.not_and]
  ac_rfl

theorem isEmpty_orElse : (head.orElse tail).isEmpty = false := by
  simp only [isEmpty] at hhead
  simp only [orElse, isEmpty, hhead]
  simp only [Bool.false_eq_true, if_false, List.isEmpty_nil, isEmpty_union, isEmpty_append,
    Bool.true_and]
  cases hdefinite : head.definite.isEmpty <;> cases hpossible : head.possible.isEmpty <;>
    simp_all

end Standing

/-! ## Flattening -/

theorem mem_definiteNames_flatten {f : Forecast} {name : String} :
    name ∈ f.flatten.definiteNames ↔ name ∈ f.definiteNames := by
  unfold flatten Prediction.definiteNames definiteNames
  rw [Goal.mem_names_dedupe, List.map_flatMap]
  rfl

theorem mem_names_flatten {f : Forecast} {name : String} :
    name ∈ f.flatten.definiteNames ∨ name ∈ f.flatten.possibleNames ↔ name ∈ f.names := by
  have hpossible : name ∈ (Goal.dedupe (f.possible.flatMap (·.goals))).map (·.uniqueName) ↔
      name ∈ f.possible.flatMap GoalSet.uniqueNames := by
    rw [Goal.mem_names_dedupe, List.map_flatMap]
    rfl
  rw [mem_definiteNames_flatten, names, List.flatMap_append, List.mem_append, ← hpossible]
  change name ∈ f.definiteNames ∨ _ ↔ name ∈ f.definiteNames ∨ _
  by_cases hdefinite : name ∈ f.definiteNames
  · simp [hdefinite]
  · have hkept (g : Goal) (hg : g.uniqueName = name) :
        (!(Goal.dedupe (f.definite.flatMap (·.goals))).any (·.isSame g)) = true := by
      rw [Bool.not_eq_true', List.any_eq_false]
      intro other hother hsame
      apply hdefinite
      rw [← mem_definiteNames_flatten, ← hg, ← (beq_iff_eq.mp hsame : other.uniqueName = _)]
      exact List.mem_map_of_mem hother
    simp only [hdefinite, false_or, flatten, Prediction.possibleNames, List.mem_map,
      List.mem_filter]
    constructor
    · rintro ⟨g, ⟨hg, _⟩, hname⟩
      exact ⟨g, hg, hname⟩
    · rintro ⟨g, hg, hname⟩
      exact ⟨g, ⟨hg, hkept g hname⟩, hname⟩

end Forecast
end PushGoals
