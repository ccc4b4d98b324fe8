import PushGoals.Proofs.Written.Record
import PushGoals.Rule.Description

/-!
# Trees read back

A goal is written with its preconditions inside it, a description with its guard and
its components.  Each is nested less deeply than what it stands in, so that a tree is
read back within the depth of its written form.  A description leaves out its style,
its guard, its halt and its components where there are none, and what is left out is
read as that.
-/

namespace PushGoals

namespace Value

theorem depth_le_depthItems {v : Value} {items : List Value} (hv : v ∈ items) :
    v.depth ≤ depthItems items := by
  induction items with
  | nil => cases hv
  | cons first rest ih =>
      rw [depthItems]
      rcases List.mem_cons.mp hv with rfl | hrest
      · exact Nat.le_max_left _ _
      · exact Nat.le_trans (ih hrest) (Nat.le_max_right _ _)

theorem depth_le_depthFields {key : String} {v : Value} {fields : List (String × Value)}
    (hv : (key, v) ∈ fields) : v.depth ≤ depthFields fields := by
  induction fields with
  | nil => cases hv
  | cons first rest ih =>
      rw [depthFields]
      rcases List.mem_cons.mp hv with rfl | hrest
      · exact Nat.le_max_left _ _
      · exact Nat.le_trans (ih hrest) (Nat.le_max_right _ _)

theorem depth_lt_array {v : Value} {items : List Value} (hv : v ∈ items) :
    v.depth < (array items).depth := by
  rw [depth]
  exact Nat.lt_succ_of_le (depth_le_depthItems hv)

theorem depth_lt_object {key : String} {v : Value} {fields : List (String × Value)}
    (hv : (key, v) ∈ fields) : v.depth < (object fields).depth := by
  rw [depth]
  exact Nat.lt_succ_of_le (depth_le_depthFields hv)

/-- There is a level left to read an object in. -/
theorem exists_level {fields : List (String × Value)} {depth : Nat}
    (hdepth : (object fields).depth ≤ depth) : ∃ inner, depth = inner + 1 := by
  rw [Value.depth] at hdepth
  exact Nat.exists_eq_add_one.mpr (Nat.zero_lt_of_lt hdepth)

/-- Whatever stands behind a key is one of the fields. -/
theorem mem_of_field? {key : String} {v : Value} {fields : List (String × Value)}
    (hfound : field? key fields = some v) : (key, v) ∈ fields := by
  induction fields with
  | nil => cases hfound
  | cons first rest ih =>
      obtain ⟨k, w⟩ := first
      rw [field?] at hfound
      split at hfound
      · next hkey =>
          cases hfound
          rw [beq_iff_eq.mp hkey]
          exact List.mem_cons_self
      · exact List.mem_cons_of_mem _ (ih hfound)

end Value

/-! ## Goals -/

namespace Goal

/-- Induction on goals, with the hypothesis for every precondition. -/
theorem induct {motive : Goal → Prop}
    (step : ∀ goal : Goal, (∀ d ∈ goal.dependsOn, motive d) → motive goal)
    (goal : Goal) : motive goal := by
  refine @Goal.rec motive (fun goals => ∀ g ∈ goals, motive g) ?_ ?_ ?_ goal
  · intro uniqueName displayName environment orderedName descriptions approvalRequired
      preApprovalRequired retryFeasible dependsOn hdependsOn
    exact step _ hdependsOn
  · intro g hg
    cases hg
  · intro g rest hhead hrest
    exact List.forall_mem_cons.mpr ⟨hhead, hrest⟩

theorem toValues_eq_map (goals : List Goal) : toValues goals = goals.map toValue := by
  induction goals with
  | nil => rfl
  | cons g rest ih => rw [toValues, ih, List.map_cons]

theorem field?_toValue (goal : Goal) : ∃ fields, goal.toValue = .object fields ∧
    Value.field? "depends_on" fields = some (.array (goal.dependsOn.map toValue)) := by
  obtain ⟨uniqueName, displayName, environment, orderedName, descriptions, approvalRequired,
    preApprovalRequired, retryFeasible, dependsOn⟩ := goal
  rw [← toValues_eq_map, toValue]
  exact ⟨_, rfl, rfl⟩

theorem depth_lt_of_mem {goal d : Goal} (hd : d ∈ goal.dependsOn) :
    d.toValue.depth < goal.toValue.depth := by
  obtain ⟨fields, hwritten, hfound⟩ := goal.field?_toValue
  rw [hwritten]
  exact Nat.lt_trans (Value.depth_lt_array (List.mem_map_of_mem hd))
    (Value.depth_lt_object (Value.mem_of_field? hfound))

theorem ofValueWithin_toValue (goal : Goal) (depth : Nat) (hdepth : goal.toValue.depth ≤ depth) :
    ofValueWithin depth goal.toValue = some goal := by
  induction goal using Goal.induct generalizing depth with
  | step goal ih =>
      obtain ⟨fields, hwritten, -⟩ := goal.field?_toValue
      obtain ⟨depth, rfl⟩ := Value.exists_level (hwritten ▸ hdepth)
      have hdependsOn : Decode.list (ofValueWithin depth) (.array (toValues goal.dependsOn)) =
          some goal.dependsOn := by
        rw [toValues_eq_map]
        refine Decode.list_map fun d hd => ih d hd depth ?_
        exact Nat.le_of_lt_succ (Nat.lt_of_lt_of_le (depth_lt_of_mem hd) hdepth)
      obtain ⟨uniqueName, displayName, environment, orderedName, descriptions, approvalRequired,
        preApprovalRequired, retryFeasible, dependsOn⟩ := goal
      change (do
        let displayName ← Decode.nullable Decode.text (.ofText? displayName)
        let descriptions ← GoalDescriptions.ofValue descriptions.toValue
        let dependsOn ← Decode.list (ofValueWithin depth) (.array (toValues dependsOn))
        some
          { uniqueName, displayName, environment, orderedName, descriptions, approvalRequired,
            preApprovalRequired, retryFeasible, dependsOn : Goal }) = _
      rw [Decode.nullable_ofText?, GoalDescriptions.ofValue_toValue, hdependsOn]
      rfl

theorem ofValue_toValue (goal : Goal) : ofValue goal.toValue = some goal :=
  goal.ofValueWithin_toValue _ (Nat.le_refl _)

theorem list_map_toValue (goals : List Goal) :
    Decode.list ofValue (.array (goals.map toValue)) = some goals :=
  Decode.list_map fun goal _ => goal.ofValue_toValue

end Goal

theorem GoalSet.ofValue_toValue (set : GoalSet) : GoalSet.ofValue set.toValue = some set := by
  change (do
    let goals ← Decode.list Goal.ofValue (.array (set.goals.map Goal.toValue))
    some { name := set.name, goals, locked := set.locked : GoalSet }) = some set
  rw [Goal.list_map_toValue]
  rfl

theorem Prediction.ofValue_toValue (p : Prediction) :
    Prediction.ofValue p.toValue = some p := by
  have hroads : Decode.list UnknownRoad.ofValue
      (.array (p.unknownRoads.map UnknownRoad.toValue)) = some p.unknownRoads :=
    Decode.list_map fun road _ => road.ofValue_toValue
  change (do
    let definiteGoals ← Decode.list Goal.ofValue (.array (p.definiteGoals.map Goal.toValue))
    let possibleGoals ← Decode.list Goal.ofValue (.array (p.possibleGoals.map Goal.toValue))
    let unknownRoads ← Decode.list UnknownRoad.ofValue
      (.array (p.unknownRoads.map UnknownRoad.toValue))
    some { definiteGoals, possibleGoals, unknownRoads }) = some p
  rw [Goal.list_map_toValue, Goal.list_map_toValue, hroads]
  rfl

/-! ## Descriptions of rules -/

namespace RuleDescription

/-- Induction on descriptions, with the hypothesis for the guard and every component. -/
theorem induct {motive : RuleDescription → Prop}
    (step : ∀ d : RuleDescription, (∀ g ∈ d.guard, motive g) → (∀ c ∈ d.components, motive c) →
      motive d)
    (d : RuleDescription) : motive d := by
  refine @RuleDescription.rec motive (fun guard => ∀ g ∈ guard, motive g)
    (fun components => ∀ c ∈ components, motive c) ?_ ?_ ?_ ?_ ?_ d
  · intro name style cost guard halts components hguard hcomponents
    exact step _ hguard hcomponents
  · intro g hg
    cases hg
  · intro guard hguard g hg
    cases hg
    exact hguard
  · intro c hc
    cases hc
  · intro c rest hhead hrest
    exact List.forall_mem_cons.mpr ⟨hhead, hrest⟩

theorem toValues_eq_map (descriptions : List RuleDescription) :
    toValues descriptions = descriptions.map toValue := by
  induction descriptions with
  | nil => rfl
  | cons d rest ih => rw [toValues, ih, List.map_cons]

/-- What is found under each key of a written description. -/
structure WrittenAs (d : RuleDescription) (fields : List (String × Value)) : Prop where
  fields? : shape.fields? .json (.object fields) = some fields
  name : Value.field? "name" fields = some (.string d.name)
  style : Value.field? "style" fields = d.style.map fun s => .string s.name
  cost : Value.field? "cost" fields = some (.string d.cost.name)
  guard : Value.field? "guard" fields = d.guard.map toValue
  halts : Value.field? "halts" fields = if d.halts then some (.bool d.halts) else none
  components : Value.field? "components" fields =
    if d.components ≠ [] then some (.array (d.components.map toValue)) else none

theorem toValue_writtenAs (d : RuleDescription) :
    ∃ fields, d.toValue = .object fields ∧ WrittenAs d fields := by
  obtain ⟨name, style, cost, guard, halts, components⟩ := d
  -- Each way of leaving out fields is a list of keys of its own.
  cases style <;> cases guard <;> cases halts <;> rcases components with _ | ⟨c, rest⟩ <;>
    refine ⟨_, by rw [toValue], ?_⟩ <;>
    constructor <;> first | rfl | (rw [toValues_eq_map]; rfl)

theorem depth_lt_of_guard {d g : RuleDescription} (hg : g ∈ d.guard) :
    g.toValue.depth < d.toValue.depth := by
  obtain ⟨fields, hwritten, hfields⟩ := d.toValue_writtenAs
  have hguard := hfields.guard
  rw [Option.mem_def.mp hg, Option.map_some] at hguard
  rw [hwritten]
  exact Value.depth_lt_object (Value.mem_of_field? hguard)

theorem depth_lt_of_mem {d c : RuleDescription} (hc : c ∈ d.components) :
    c.toValue.depth < d.toValue.depth := by
  obtain ⟨fields, hwritten, hfields⟩ := d.toValue_writtenAs
  have hcomponents := hfields.components
  rw [if_pos (List.ne_nil_of_mem hc)] at hcomponents
  rw [hwritten]
  exact Nat.lt_trans (Value.depth_lt_array (List.mem_map_of_mem hc))
    (Value.depth_lt_object (Value.mem_of_field? hcomponents))

/-- A value is never written as `null`. -/
theorem toValue_ne_null (d : RuleDescription) : d.toValue ≠ .null := by
  obtain ⟨fields, hwritten, -⟩ := d.toValue_writtenAs
  rw [hwritten]
  exact fun hnull => nomatch hnull

theorem ofValueWithin_toValue (d : RuleDescription) (depth : Nat)
    (hdepth : d.toValue.depth ≤ depth) : ofValueWithin depth d.toValue = some d := by
  induction d using RuleDescription.induct generalizing depth with
  | step d ihguard ihcomponents =>
      obtain ⟨fields, hwritten, hfields⟩ := d.toValue_writtenAs
      obtain ⟨depth, rfl⟩ := Value.exists_level (hwritten ▸ hdepth)
      have hstyle : Decode.optional fields "style" (Decode.constant .json Style.ofName?) =
          some d.style :=
        Decode.optional_of_found hfields.style (fun _ hnull => nomatch hnull)
          fun s _ => s.ofName?_name
      have hguard : Decode.optional fields "guard" (ofValueWithin depth) = some d.guard := by
        refine Decode.optional_of_found hfields.guard toValue_ne_null fun g hg => ?_
        exact ihguard g hg depth
          (Nat.le_of_lt_succ (Nat.lt_of_lt_of_le (depth_lt_of_guard hg) hdepth))
      have hhalts : Decode.fallback fields "halts" false Decode.flag = some d.halts :=
        Decode.fallback_of_found hfields.halts (fun hhalts => eq_false_of_ne_true hhalts) rfl
      have hcomponents : Decode.fallback fields "components" []
          (Decode.list (ofValueWithin depth)) = some d.components := by
        refine Decode.fallback_of_found hfields.components Decidable.not_not.mp
          (Decode.list_map fun c hc => ?_)
        exact ihcomponents c hc depth
          (Nat.le_of_lt_succ (Nat.lt_of_lt_of_le (depth_lt_of_mem hc) hdepth))
      rw [hwritten, ofValueWithin, hfields.fields?, Option.bind_eq_bind, Option.bind_some,
        Decode.required_of_found hfields.name, hstyle, Decode.required_of_found hfields.cost,
        hguard, hhalts, hcomponents]
      change (do
        let cost ← Cost.ofName? d.cost.name
        some { name := d.name, style := d.style, cost, guard := d.guard, halts := d.halts,
               components := d.components : RuleDescription }) = some d
      rw [Cost.ofName?_name]
      cases d
      rfl

theorem ofValue_toValue (d : RuleDescription) : ofValue d.toValue = some d :=
  d.ofValueWithin_toValue _ (Nat.le_refl _)

end RuleDescription

/-- Whatever is written is read back as it was, with every field of it; and a push that is
read as a partial one is that push, known in all its fields. -/
theorem reading_undoes_writing :
    (∀ goal : Goal, Goal.ofValue goal.toValue = some goal) ∧
    (∀ set : GoalSet, GoalSet.ofValue set.toValue = some set) ∧
    (∀ push : Push, Push.ofValue push.toValue = some push) ∧
    (∀ p : PartialPush, PartialPush.ofValue p.toValue = some p) ∧
    (∀ id : PushId, PushId.ofValue id.toValue = some id) ∧
    (∀ p : Prediction, Prediction.ofValue p.toValue = some p) ∧
    (∀ d : RuleDescription, RuleDescription.ofValue d.toValue = some d) ∧
    ∀ push : Push, PartialPush.ofValue push.toValue = some push.toPartial ∧
      push.toPartial.complete? = some push :=
  ⟨Goal.ofValue_toValue, GoalSet.ofValue_toValue, Push.ofValue_toValue,
    PartialPush.ofValue_toValue, PushId.ofValue_toValue, Prediction.ofValue_toValue,
    RuleDescription.ofValue_toValue,
    fun push => ⟨PartialPush.ofValue_push push, push.complete?_toPartial⟩⟩

end PushGoals
