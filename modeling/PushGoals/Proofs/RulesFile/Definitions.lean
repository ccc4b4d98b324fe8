import Mathlib.Data.List.Forall2
import Mathlib.Data.List.Nodup
import Mathlib.Logic.Relation
import PushGoals.Proofs.Graph.Identifiers
import PushGoals.Proofs.Knowledge
import PushGoals.RulesFile.Build

/-!
# Goals as a file defines them

The goals of a rules file are defined one by one, each behind the goals that it depends
on (`DefinedInOrder`).  So a goal says what its declaration says, the goals inside it are
at any depth the goals that are defined under their names, and all of them were declared
before it.  No goal stands below itself, and the graph of any of these goals has no cycle.
-/

namespace PushGoals

/-- The goal `d` is a precondition of the goal, or of one of its preconditions, at any
depth. -/
def Goal.Below : Goal → Goal → Prop := Relation.TransGen fun d goal => d ∈ goal.dependsOn

def Goal.namesOf (goals : List Goal) : List String := goals.map (·.uniqueName)

/-- The error that an answer is, if it is one. -/
def fault? {ε α : Type} : Except ε α → Option ε
  | .ok _ => none
  | .error e => some e

theorem fault?_map {ε α β : Type} (answer : Except ε α) (f : α → β) :
    fault? (do let a ← answer; return f a) = fault? answer := by
  cases answer <;> rfl

namespace GoalSpec

/-- The goal says what the declaration says. -/
structure Defines (spec : GoalSpec) (goal : Goal) : Prop where
  name : goal.uniqueName = spec.name
  displayName : goal.displayName = spec.displayName
  environment : goal.environment = spec.environment.getD codeEnvironment
  orderedName : goal.orderedName = spec.name
  descriptions : goal.descriptions = {}
  approvalRequired : goal.approvalRequired = spec.approvalRequired
  preApprovalRequired : goal.preApprovalRequired = spec.preApprovalRequired
  retryFeasible : goal.retryFeasible = spec.retryFeasible
  /-- The preconditions in their order, as often as they are listed. -/
  dependsOn : Goal.namesOf goal.dependsOn = spec.dependsOn

/-- The declaration can stand behind goals of these names. -/
structure WellPlaced (earlier : List String) (spec : GoalSpec) : Prop where
  fresh : spec.name ∉ earlier
  dependsOn : ∀ name ∈ spec.dependsOn, name ∈ earlier

/-- What is wrong with a declaration behind goals of these names. -/
inductive Fault (earlier : List String) (spec : GoalSpec) : RulesError → Prop
  | duplicate (htaken : spec.name ∈ earlier) : Fault earlier spec (.duplicateGoal spec.name)
  | undefined {missing : String} (hfresh : spec.name ∉ earlier)
      (hmissing : spec.dependsOn.find? (· ∉ earlier) = some missing) :
      Fault earlier spec (.undefinedPrecondition spec.name missing)

theorem Fault.not_wellPlaced {earlier : List String} {spec : GoalSpec} {e : RulesError}
    (hfault : spec.Fault earlier e) : ¬ spec.WellPlaced earlier := by
  intro hplaced
  cases hfault with
  | duplicate htaken => exact hplaced.fresh htaken
  | undefined _ hmissing =>
      have hdeclared := hplaced.dependsOn _ (List.mem_of_find?_eq_some hmissing)
      have habsent := List.find?_some hmissing
      simp [hdeclared] at habsent

theorem defines_toGoal {spec : GoalSpec} {dependsOn : List Goal}
    (hnames : Goal.namesOf dependsOn = spec.dependsOn) : spec.Defines (spec.toGoal dependsOn) :=
  ⟨rfl, rfl, rfl, rfl, rfl, rfl, rfl, rfl, hnames⟩

end GoalSpec

namespace RulesFile

open Goal (namesOf)

variable {goals : List Goal}

/-! ## Look-ups -/

theorem findGoal_name {name : String} {goal : Goal} (hfound : findGoal goals name = some goal) :
    goal.uniqueName = name := by
  have hname := List.find?_some hfound
  exact beq_iff_eq.mp hname

theorem findGoal_isSome_iff (goals : List Goal) (name : String) :
    (findGoal goals name).isSome ↔ name ∈ namesOf goals := by
  simp [findGoal, namesOf]

/-- Where names are unique, every goal is found under its own. -/
theorem findGoal_of_mem (hunique : (namesOf goals).Nodup) {goal : Goal} (hgoal : goal ∈ goals) :
    findGoal goals goal.uniqueName = some goal := by
  have hname : goal.uniqueName ∈ namesOf goals := List.mem_map_of_mem hgoal
  obtain ⟨found, hfound⟩ := Option.isSome_iff_exists.mp
    ((findGoal_isSome_iff goals goal.uniqueName).mpr hname)
  have hsame : found = goal := List.inj_on_of_nodup_map hunique
    (List.mem_of_find?_eq_some hfound) hgoal (findGoal_name hfound)
  rw [hfound, hsame]

theorem resolve_eq_ok {names : List String} {found : List Goal}
    (hresolve : resolve goals names = .ok found) :
    found = names.filterMap (findGoal goals) ∧ found.map (·.uniqueName) = names := by
  induction names generalizing found with
  | nil =>
      cases hresolve
      exact ⟨rfl, rfl⟩
  | cons name rest ih =>
      unfold resolve at hresolve
      cases hgoal : findGoal goals name with
      | none =>
          rw [hgoal] at hresolve
          cases hresolve
      | some goal =>
          rw [hgoal] at hresolve
          obtain ⟨more, hmore, hfound⟩ := ok_of_bind hresolve
          cases hfound
          obtain ⟨hrest, hnames⟩ := ih hmore
          rw [List.filterMap_cons_some hgoal, List.map_cons, findGoal_name hgoal, hnames, hrest]
          exact ⟨rfl, rfl⟩

theorem resolve_subset {names : List String} {found : List Goal}
    (hresolve : resolve goals names = .ok found) : found ⊆ goals := by
  rw [(resolve_eq_ok hresolve).1]
  intro goal hgoal
  obtain ⟨name, -, hfound⟩ := List.mem_filterMap.mp hgoal
  exact List.mem_of_find?_eq_some hfound

/-- The first name that is not defined is reported. -/
theorem fault?_resolve (goals : List Goal) (names : List String) :
    fault? (resolve goals names) = names.find? (· ∉ namesOf goals) := by
  induction names with
  | nil => rfl
  | cons name rest ih =>
      have hdefined := findGoal_isSome_iff goals name
      rw [resolve]
      cases hgoal : findGoal goals name with
      | none =>
          rw [hgoal] at hdefined
          have habsent : name ∉ namesOf goals := fun hmem => nomatch hdefined.mpr hmem
          rw [List.find?_cons_of_pos (by simpa using habsent)]
          rfl
      | some goal =>
          rw [hgoal] at hdefined
          have hmem : name ∈ namesOf goals := hdefined.mp rfl
          rw [List.find?_cons_of_neg (by simpa using hmem), ← ih]
          exact fault?_map _ _

/-! ## Definitions one by one -/

/-- A declaration that can stand where it stands is defined behind the goals before it,
and any other is refused. -/
theorem defineGoals_cons (defined : List Goal) (spec : GoalSpec) (rest : List GoalSpec) :
    (spec.WellPlaced (namesOf defined) ∧ ∃ dependsOn,
        resolve defined spec.dependsOn = .ok dependsOn ∧
        defineGoals defined (spec :: rest) =
          defineGoals (defined ++ [spec.toGoal dependsOn]) rest) ∨
      ∃ e, spec.Fault (namesOf defined) e ∧ defineGoals defined (spec :: rest) = .error e := by
  have htaken := findGoal_isSome_iff defined spec.name
  rw [defineGoals]
  by_cases hmem : spec.name ∈ namesOf defined
  · rw [if_pos (htaken.mpr hmem)]
    exact .inr ⟨_, .duplicate hmem, rfl⟩
  · rw [if_neg (mt htaken.mp hmem)]
    have hfault := fault?_resolve defined spec.dependsOn
    cases hresolve : resolve defined spec.dependsOn with
    | error missing =>
        rw [hresolve] at hfault
        exact .inr ⟨_, .undefined hmem hfault.symm, rfl⟩
    | ok dependsOn =>
        rw [hresolve] at hfault
        have hall : ∀ name ∈ spec.dependsOn, name ∈ namesOf defined := by
          simpa using List.find?_eq_none.mp hfault.symm
        exact .inl ⟨⟨hmem, hall⟩, dependsOn, rfl, rfl⟩

/-- The goals are defined by the declarations, each behind those before it. -/
inductive DefinedInOrder : List GoalSpec → List Goal → Prop
  | none : DefinedInOrder [] []
  | next {specs : List GoalSpec} {goals : List Goal} {spec : GoalSpec} {dependsOn : List Goal}
      (hearlier : DefinedInOrder specs goals) (hplaced : spec.WellPlaced (namesOf goals))
      (hresolve : resolve goals spec.dependsOn = .ok dependsOn) :
      DefinedInOrder (specs ++ [spec]) (goals ++ [spec.toGoal dependsOn])

theorem definedInOrder_of_defineGoals {earlier specs : List GoalSpec} {defined : List Goal}
    (hearlier : DefinedInOrder earlier defined) (hdefine : defineGoals defined specs = .ok goals) :
    DefinedInOrder (earlier ++ specs) goals := by
  induction specs generalizing earlier defined with
  | nil =>
      cases hdefine
      rwa [List.append_nil]
  | cons spec rest ih =>
      rcases defineGoals_cons defined spec rest with
        ⟨hplaced, dependsOn, hresolve, hnext⟩ | ⟨e, -, herror⟩
      · have hrest := ih (hearlier.next hplaced hresolve) (hnext.symm.trans hdefine)
        rwa [List.append_assoc] at hrest
      · cases herror.symm.trans hdefine

namespace DefinedInOrder

variable {specs : List GoalSpec}

theorem defines (hdefined : DefinedInOrder specs goals) :
    List.Forall₂ GoalSpec.Defines specs goals := by
  induction hdefined with
  | none => exact .nil
  | next _ _ hresolve ih =>
      exact List.rel_append ih (.cons (GoalSpec.defines_toGoal (resolve_eq_ok hresolve).2) .nil)

theorem namesOf_eq (hdefined : DefinedInOrder specs goals) :
    namesOf goals = specs.map (·.name) := by
  induction hdefined with
  | none => rfl
  | next _ _ _ ih =>
      rw [List.map_append, ← ih, namesOf, namesOf, List.map_append]
      rfl

theorem nodup (hdefined : DefinedInOrder specs goals) : (namesOf goals).Nodup := by
  induction hdefined with
  | none => exact .nil
  | @next specs goals spec dependsOn _ hplaced _ ih =>
      have hnames : namesOf (goals ++ [spec.toGoal dependsOn]) = namesOf goals ++ [spec.name] :=
        List.map_append
      rw [hnames, List.nodup_append]
      refine ⟨ih, List.nodup_singleton _, ?_⟩
      rintro name hname _ hmem rfl
      exact hplaced.fresh (List.mem_singleton.mp hmem ▸ hname)

/-- Every goal was defined behind goals that hold all its preconditions. -/
theorem behind (hdefined : DefinedInOrder specs goals) {goal : Goal} (hgoal : goal ∈ goals) :
    ∃ before spec after earlier, specs = before ++ spec :: after ∧
      spec.name = goal.uniqueName ∧ DefinedInOrder before earlier ∧ earlier ⊆ goals ∧
      goal.uniqueName ∉ namesOf earlier ∧ goal.dependsOn ⊆ earlier := by
  induction hdefined with
  | none => cases hgoal
  | @next specs goals last dependsOn hearlier hplaced hresolve ih =>
      rcases List.mem_append.mp hgoal with hold | hnew
      · obtain ⟨before, spec, after, earlier, rfl, hname, hbefore, hsubset, hfresh, hdependsOn⟩ :=
          ih hold
        exact ⟨before, spec, after ++ [last], earlier, by simp, hname, hbefore,
          List.subset_append_of_subset_left _ hsubset, hfresh, hdependsOn⟩
      · obtain rfl := List.mem_singleton.mp hnew
        exact ⟨specs, last, [], goals, rfl, rfl, hearlier, List.subset_append_left _ _,
          hplaced.fresh, resolve_subset hresolve⟩

/-- The definitions are closed: what stands below one of them is another. -/
theorem mem_of_below (hdefined : DefinedInOrder specs goals) {d goal : Goal} (hgoal : goal ∈ goals)
    (hbelow : d.Below goal) : d ∈ goals := by
  induction hbelow with
  | single hdependsOn =>
      obtain ⟨_, _, _, earlier, _, _, _, hsubset, _, hall⟩ := hdefined.behind hgoal
      exact hsubset (hall hdependsOn)
  | tail _ hdependsOn ih =>
      obtain ⟨_, _, _, earlier, _, _, _, hsubset, _, hall⟩ := hdefined.behind hgoal
      exact ih (hsubset (hall hdependsOn))

/-- What stands below a goal was declared before it. -/
theorem declared_before (hdefined : DefinedInOrder specs goals) {goal : Goal}
    (hgoal : goal ∈ goals) :
    ∃ before spec after, specs = before ++ spec :: after ∧ spec.name = goal.uniqueName ∧
      goal.uniqueName ∉ before.map (·.name) ∧
      ∀ d : Goal, d.Below goal → d.uniqueName ∈ before.map (·.name) := by
  obtain ⟨before, spec, after, earlier, hspecs, hname, hbefore, -, hfresh, hdependsOn⟩ :=
    hdefined.behind hgoal
  rw [hbefore.namesOf_eq] at hfresh
  refine ⟨before, spec, after, hspecs, hname, hfresh, fun d hbelow => ?_⟩
  have hmem : d ∈ earlier := by
    cases hbelow with
    | single hd => exact hdependsOn hd
    | tail hinner hd => exact hbefore.mem_of_below (hdependsOn hd) hinner
  rw [← hbefore.namesOf_eq]
  exact List.mem_map_of_mem hmem

theorem name_ne_of_below (hdefined : DefinedInOrder specs goals) {d goal : Goal}
    (hgoal : goal ∈ goals) (hbelow : d.Below goal) : d.uniqueName ≠ goal.uniqueName := by
  obtain ⟨before, _, _, _, _, hfresh, hall⟩ := hdefined.declared_before hgoal
  exact fun hsame => hfresh (hsame ▸ hall d hbelow)

/-- A way through the graph of definitions leads from a goal to one that it stands
below. -/
theorem below_of_precedes (hdefined : DefinedInOrder specs goals) {set : GoalSet}
    (hset : set.goals ⊆ goals) {first last : String}
    (hway : Relation.TransGen (Graph.Precedes set) first last) :
    ∃ d goal : Goal, goal ∈ goals ∧ d.uniqueName = first ∧ goal.uniqueName = last ∧
      d.Below goal := by
  induction hway with
  | single hedge =>
      obtain ⟨⟨d, goal⟩, hlink, hfirst, hlast⟩ := hedge
      obtain ⟨hgoal, hdependsOn⟩ := Graph.mem_links_iff.mp hlink
      exact ⟨d, goal, hset hgoal, hfirst, hlast, .single hdependsOn⟩
  | tail _ hedge ih =>
      obtain ⟨d, between, hbetween, hfirst, hname, hbelow⟩ := ih
      obtain ⟨⟨inner, goal⟩, hlink, hinner, hlast⟩ := hedge
      obtain ⟨hgoal, hdependsOn⟩ := Graph.mem_links_iff.mp hlink
      have hmem : inner ∈ goals := hdefined.mem_of_below (hset hgoal) (.single hdependsOn)
      -- The goal inside is the one defined under its name, where the way has come to.
      have hsame : between = inner := List.inj_on_of_nodup_map hdefined.nodup hbetween hmem
        (hname.trans hinner.symm)
      exact ⟨d, goal, hset hgoal, hfirst, hlast, hbelow.tail (hsame ▸ hdependsOn)⟩

theorem not_precedes_self (hdefined : DefinedInOrder specs goals) {set : GoalSet}
    (hset : set.goals ⊆ goals) (name : String) :
    ¬ Relation.TransGen (Graph.Precedes set) name name := by
  intro hcycle
  obtain ⟨d, goal, hgoal, hfirst, hlast, hbelow⟩ := hdefined.below_of_precedes hset hcycle
  exact hdefined.name_ne_of_below hgoal hbelow (hfirst.trans hlast.symm)

end DefinedInOrder

/-! ## All goals of a file -/

/-- The goals are closed, consistent and acyclic definitions of what is declared. -/
structure SoundDefinitions (specs : List GoalSpec) (goals : List Goal) : Prop where
  /-- Exactly the declared names are defined. -/
  keys : ∀ name, (findGoal goals name).isSome ↔ name ∈ specs.map (·.name)
  defines : List.Forall₂ GoalSpec.Defines specs goals
  found : ∀ goal ∈ goals, findGoal goals goal.uniqueName = some goal
  /-- At any depth, a goal inside another one is in every field the one that is defined
  under its name. -/
  consistent : ∀ goal ∈ goals, ∀ d : Goal, d.Below goal → findGoal goals d.uniqueName = some d
  /-- What stands below a goal is declared strictly earlier. -/
  earlier : ∀ goal ∈ goals, ∃ before spec after, specs = before ++ spec :: after ∧
    spec.name = goal.uniqueName ∧ goal.uniqueName ∉ before.map (·.name) ∧
    ∀ d : Goal, d.Below goal → d.uniqueName ∈ before.map (·.name)
  irreflexive : ∀ goal ∈ goals, ∀ d : Goal, d.Below goal → d.uniqueName ≠ goal.uniqueName
  /-- The edges in the graph of any of these goals are drawn from links that form no
  cycle. -/
  acyclic : ∀ set : GoalSet, set.goals ⊆ goals →
    Graph.edges set =
        (Graph.links set).map (fun link => (Graph.nodeId link.1, Graph.nodeId link.2)) ∧
      ∀ name, ¬ Relation.TransGen (Graph.Precedes set) name name

/-- Whatever a file defines is closed, consistent and acyclic. -/
theorem goalDefinitions_sound {file : RulesFile} (hdefine : file.goalDefinitions = .ok goals) :
    SoundDefinitions file.goals goals := by
  have hdefined : DefinedInOrder file.goals goals := definedInOrder_of_defineGoals .none hdefine
  have hfound (goal : Goal) (hgoal : goal ∈ goals) :
      findGoal goals goal.uniqueName = some goal := findGoal_of_mem hdefined.nodup hgoal
  refine ⟨fun name => ?_, hdefined.defines, hfound, fun goal hgoal d hbelow => ?_,
    fun goal hgoal => hdefined.declared_before hgoal,
    fun goal hgoal d hbelow => hdefined.name_ne_of_below hgoal hbelow,
    fun set hset => ⟨Graph.edges_eq_map_links set, hdefined.not_precedes_self hset⟩⟩
  · rw [findGoal_isSome_iff, hdefined.namesOf_eq]
  · exact hfound d (hdefined.mem_of_below hgoal hbelow)

/-- A deployment waits for the tests twice, and for the build also through them. -/
def serviceFile : RulesFile where
  goals :=
    [{ name := "build", displayName := some "Build" },
     { name := "test", dependsOn := ["build"], retryFeasible := true },
     { name := "deploy", environment := some "1-staging", dependsOn := ["test", "build", "test"],
       approvalRequired := true }]

def buildGoal : Goal := { Goal.ofName "build" with displayName := some "Build" }

def testGoal : Goal := { Goal.ofName "test" with retryFeasible := true, dependsOn := [buildGoal] }

def deployGoal : Goal :=
  { Goal.ofName "deploy" with
    environment := "1-staging", approvalRequired := true,
    dependsOn := [testGoal, buildGoal, testGoal] }

/-- The build stands below the deployment twice over; it is the one that is declared, and
the graph of the service has no cycle. -/
theorem serviceFile_sound :
    serviceFile.goalDefinitions = .ok [buildGoal, testGoal, deployGoal] ∧
      buildGoal.Below deployGoal ∧
      findGoal [buildGoal, testGoal, deployGoal] "build" = some buildGoal ∧
      ∀ name, ¬ Relation.TransGen
        (Graph.Precedes { name := "service", goals := [deployGoal, testGoal] }) name name := by
  have hdefine : serviceFile.goalDefinitions = .ok [buildGoal, testGoal, deployGoal] := rfl
  have hbelow : buildGoal.Below deployGoal := by
    have htest : testGoal.Below deployGoal := .single List.mem_cons_self
    exact .head (List.mem_singleton_self buildGoal) htest
  have hsound := goalDefinitions_sound hdefine
  refine ⟨hdefine, hbelow, hsound.consistent deployGoal (by simp) buildGoal hbelow, ?_⟩
  exact (hsound.acyclic _ (by simp)).2

end RulesFile

end PushGoals
