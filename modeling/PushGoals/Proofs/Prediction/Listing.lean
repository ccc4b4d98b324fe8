import PushGoals.Prediction.Classification
import PushGoals.Proofs.Goal.Flattening
import PushGoals.Proofs.Prediction.Agreement

/-!
# The goals that a prediction lists

Forecasts leave out sets that they hold already, and sets are held to be equal
when their names, locks and goal names are, whatever else the goals say.  A set is
moved from one side of a forecast to the other, and flattening then leaves out
goals that are listed already.  None of this loses a name: up to repetitions a
forecast holds, on each side and in order, the goals of all the sets that were
put into it, and its prediction lists each name once, at its first occurrence on
its most certain side.
-/

namespace PushGoals

namespace Goal

theorem nodup_names_dedupeFrom (seen : List String) (goals : List Goal) :
    ((dedupeFrom seen goals).map (·.uniqueName)).Nodup := by
  induction goals generalizing seen with
  | nil => exact List.nodup_nil
  | cons g rest ih =>
      by_cases hg : g.uniqueName ∈ seen
      · rw [dedupeFrom_cons_of_mem rest hg]
        exact ih seen
      · rw [dedupeFrom_cons_of_not_mem rest hg, List.map_cons, List.nodup_cons]
        refine ⟨?_, ih (g.uniqueName :: seen)⟩
        intro hagain
        exact (mem_names_dedupeFrom.mp hagain).1 List.mem_cons_self

end Goal

/-- Each goal has one place in the prediction. -/
structure Prediction.ListsOnce (p : Prediction) : Prop where
  definite : p.definiteNames.Nodup
  possible : p.possibleNames.Nodup
  apart : ∀ name ∈ p.definiteNames, name ∉ p.possibleNames

namespace Forecast

def possibleNames (f : Forecast) : List String := f.possible.flatMap GoalSet.uniqueNames

/-! ## Flattening -/

/-- What is possible is read behind the names that are definite. -/
theorem possibleGoals_flatten (f : Forecast) :
    f.flatten.possibleGoals = Goal.dedupeFrom f.definiteNames (f.possible.flatMap (·.goals)) := by
  rw [Goal.dedupeFrom_eq_filter]
  apply List.filter_congr
  intro g _
  congr 1
  rw [Bool.eq_iff_iff, List.contains_iff_mem, ← mem_definiteNames_flatten, List.any_eq_true]
  constructor
  · rintro ⟨other, hother, hsame⟩
    have hname : other.uniqueName = g.uniqueName := beq_iff_eq.mp hsame
    rw [← hname]
    exact List.mem_map_of_mem hother
  · intro hname
    obtain ⟨other, hother, heq⟩ := List.mem_map.mp hname
    exact ⟨other, hother, beq_iff_eq.mpr heq⟩

theorem flatten_listsOnce (f : Forecast) : f.flatten.ListsOnce where
  definite := Goal.nodup_names_dedupeFrom [] _
  possible := by
    unfold Prediction.possibleNames
    rw [possibleGoals_flatten]
    exact Goal.nodup_names_dedupeFrom f.definiteNames _
  apart := by
    intro name hdefinite hpossible
    unfold Prediction.possibleNames at hpossible
    rw [possibleGoals_flatten] at hpossible
    have hnew : name ∉ f.definiteNames := (Goal.mem_names_dedupeFrom.mp hpossible).1
    exact hnew (mem_definiteNames_flatten.mp hdefinite)

/-! ## Forecasts put together -/

theorem mem_possibleNames_merge {f g : Forecast} {name : String} :
    name ∈ (f.merge g).possibleNames ↔ name ∈ f.possibleNames ∨ name ∈ g.possibleNames :=
  mem_names_union

theorem mem_possibleNames_demote {f : Forecast} {name : String} :
    name ∈ f.demote.possibleNames ↔ name ∈ f.definiteNames ∨ name ∈ f.possibleNames :=
  mem_names_union

theorem dedupe_goals_union_congr {sets sets' more more' : List GoalSet}
    (hsets : Goal.dedupe (sets.flatMap (·.goals)) = Goal.dedupe (sets'.flatMap (·.goals)))
    (hmore : Goal.dedupe (more.flatMap (·.goals)) = Goal.dedupe (more'.flatMap (·.goals))) :
    Goal.dedupe ((union sets more).flatMap (·.goals)) =
      Goal.dedupe ((sets' ++ more').flatMap (·.goals)) := by
  rw [dedupe_goals_union, List.flatMap_append, List.flatMap_append]
  exact Goal.dedupe_append_congr hsets hmore

/-- How a forecast came about by merging and demoting. -/
inductive Assembly where
  | given (f : Forecast)
  | merge (first second : Assembly)
  | demote (all : Assembly)

namespace Assembly

def forecast : Assembly → Forecast
  | .given f => f
  | .merge first second => first.forecast.merge second.forecast
  | .demote all => all.forecast.demote

/-- The sets put in, none left out, that have stayed definite. -/
def definite : Assembly → List GoalSet
  | .given f => f.definite
  | .merge first second => first.definite ++ second.definite
  | .demote _ => []

/-- The sets put in, none left out, that are merely possible. -/
def possible : Assembly → List GoalSet
  | .given f => f.possible
  | .merge first second => first.possible ++ second.possible
  | .demote all => all.definite ++ all.possible

def definiteNames (assembly : Assembly) : List String :=
  assembly.definite.flatMap GoalSet.uniqueNames

def possibleNames (assembly : Assembly) : List String :=
  assembly.possible.flatMap GoalSet.uniqueNames

theorem dedupe_definite (assembly : Assembly) :
    Goal.dedupe (assembly.forecast.definite.flatMap (·.goals)) =
      Goal.dedupe (assembly.definite.flatMap (·.goals)) := by
  induction assembly with
  | given f => rfl
  | merge first second ihFirst ihSecond => exact dedupe_goals_union_congr ihFirst ihSecond
  | demote all _ => rfl

theorem dedupe_possible (assembly : Assembly) :
    Goal.dedupe (assembly.forecast.possible.flatMap (·.goals)) =
      Goal.dedupe (assembly.possible.flatMap (·.goals)) := by
  induction assembly with
  | given f => rfl
  | merge first second ihFirst ihSecond => exact dedupe_goals_union_congr ihFirst ihSecond
  | demote all ih => exact dedupe_goals_union_congr all.dedupe_definite ih

theorem mem_definiteNames (assembly : Assembly) (name : String) :
    name ∈ assembly.forecast.definiteNames ↔ name ∈ assembly.definiteNames := by
  have hnames (sets : List GoalSet) :
      name ∈ sets.flatMap GoalSet.uniqueNames ↔
        name ∈ (Goal.dedupe (sets.flatMap (·.goals))).map (·.uniqueName) := by
    rw [Goal.mem_names_dedupe, List.map_flatMap]
    rfl
  unfold Forecast.definiteNames definiteNames
  rw [hnames, dedupe_definite, ← hnames]

theorem definiteNames_flatten (assembly : Assembly) :
    assembly.forecast.flatten.definiteNames = assembly.definiteNames.eraseDups := by
  unfold flatten Prediction.definiteNames definiteNames
  rw [dedupe_definite, Goal.names_dedupe, List.map_flatMap]
  rfl

theorem possibleNames_flatten (assembly : Assembly) :
    assembly.forecast.flatten.possibleNames =
      (assembly.possibleNames.filter
        fun name => !assembly.definiteNames.contains name).eraseDups := by
  unfold Prediction.possibleNames
  rw [possibleGoals_flatten, Goal.dedupeFrom_eq_filter, dedupe_possible,
    ← Goal.dedupeFrom_eq_filter, Goal.names_dedupeFrom, List.map_flatMap]
  congr 1
  apply List.filter_congr
  intro name _
  rw [List.contains_eq_mem, List.contains_eq_mem]
  simp only [mem_definiteNames]

end Assembly

end Forecast

/-- A prediction lists each goal once, and no way of putting its forecast together
loses one. -/
theorem predictions_list_each_goal_once :
    (∀ (rule : GoalRule) (ctx : Context) (engine : Engine),
      ((Prediction.ofRule rule ctx).run engine).1.ListsOnce) ∧
    (∀ (chains : List GoalRule) (ctx : Context) (engine : Engine),
      ((Prediction.ofChains chains ctx).run engine).1.ListsOnce) ∧
    (∀ (f g : Forecast) (name : String),
      (name ∈ (f.merge g).definiteNames ↔ name ∈ f.definiteNames ∨ name ∈ g.definiteNames) ∧
      (name ∈ (f.merge g).possibleNames ↔ name ∈ f.possibleNames ∨ name ∈ g.possibleNames)) ∧
    (∀ (f : Forecast) (name : String),
      name ∉ f.demote.definiteNames ∧
      (name ∈ f.demote.possibleNames ↔ name ∈ f.definiteNames ∨ name ∈ f.possibleNames)) ∧
    (∀ f : Forecast,
      f.flatten.definiteNames = f.definiteNames.eraseDups ∧
      f.flatten.possibleNames =
        (f.possibleNames.filter fun name => !f.definiteNames.contains name).eraseDups) ∧
    (∀ assembly : Forecast.Assembly,
      assembly.forecast.flatten.definiteNames = assembly.definiteNames.eraseDups ∧
      assembly.forecast.flatten.possibleNames =
        (assembly.possibleNames.filter
          fun name => !assembly.definiteNames.contains name).eraseDups) := by
  refine ⟨?ofRule, ?ofChains, ?merge, ?demote, ?flatten, ?assembly⟩
  case ofRule =>
    intro rule ctx engine
    exact Forecast.flatten_listsOnce _
  case ofChains =>
    intro chains ctx engine
    exact Forecast.flatten_listsOnce _
  case merge =>
    intro f g name
    exact ⟨Forecast.mem_definiteNames_merge, Forecast.mem_possibleNames_merge⟩
  case demote =>
    intro f name
    exact ⟨List.not_mem_nil, Forecast.mem_possibleNames_demote⟩
  case flatten =>
    intro f
    exact ⟨(Forecast.Assembly.given f).definiteNames_flatten,
      (Forecast.Assembly.given f).possibleNames_flatten⟩
  case assembly =>
    exact fun assembly => ⟨assembly.definiteNames_flatten, assembly.possibleNames_flatten⟩

end PushGoals
