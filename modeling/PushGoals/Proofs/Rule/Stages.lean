import PushGoals.Proofs.Passes
import PushGoals.Rule.Evaluation
import PushGoals.Rule.Tree
import PushGoals.Script

/-!
# Decision nodes stage by stage

A decision node is put together by calls that register tests, preparations and hooks, and
by what stands behind it (`NodePlan`).  Its evaluation goes through stages: the
preparations as they were registered, then the tests, then hooks, then what stands behind
the node.  A stage lets the evaluation go on or ends it, and `Stage.Run` lists the stages
that ran.

Of the hooks that were registered a node runs the last one only.  Where no more than one
was registered, all hooks run, in order, as the preparations do.
-/

namespace PushGoals

variable {V : Type}

namespace Pass

/-- The pass with its scratch changed. -/
def prepare (p : Pass) (preparation : Preparation) : Pass := p.withScratch (preparation p.scratch)

/-- The pass after preparations, the first of them made first. -/
def prepared (p : Pass) (preparations : List Preparation) : Pass := preparations.foldl prepare p

/-- The scratch is one of the pass: it has the policy and the failures of its scope. -/
def Begins (p : Pass) (s : Scratch) : Prop :=
  s.policy = p.scope.policy ∧ s.earlier = p.scope.failures

theorem prepare_withScratch {p : Pass} {s : Scratch} (hbegins : p.Begins s)
    (preparation : Preparation) :
    (p.withScratch s).prepare preparation = p.withScratch (preparation.run s) := by
  obtain ⟨hpolicy, hearlier⟩ := hbegins
  have hscratch : (p.withScratch s).scratch =
      { s with earlier := s.earlier ++ s.recorded, recorded := [] } := by
    simp [scratch, withScratch, hpolicy, hearlier]
  unfold prepare
  rw [hscratch]
  simp [withScratch, Preparation.run]

theorem prepare_runAll (p : Pass) (preparations : List Preparation) :
    p.prepare (Preparation.runAll preparations) = p.prepared preparations := by
  have hfold (s : Scratch) (hbegins : p.Begins s) :
      p.withScratch (Preparation.runAll preparations s) =
        (p.withScratch s).prepared preparations := by
    induction preparations generalizing s with
    | nil => rfl
    | cons preparation rest ih =>
        rw [prepared, List.foldl_cons, prepare_withScratch hbegins]
        exact ih (preparation.run s) hbegins
  exact hfold p.scratch ⟨rfl, rfl⟩

end Pass

/-- What stands behind a decision node. -/
inductive Behind (V : Type) where
  | value (v : V)
  | children (rules : List (Rule V))

namespace Behind

variable [Contribution V]

def eval (ctx : Context) : Behind V → Eval (Outcome V)
  | .value v => return .matched v
  | .children rules => Rule.evalFirst ctx rules

end Behind

/-- The calls that put a decision node together, those of one kind in their order. -/
structure NodePlan (V : Type) where
  tests : List Guard
  preparations : List Preparation := []
  name : String
  hooks : List Hook := []
  behind : Behind V

namespace NodePlan

def given (plan : NodePlan V) : Given :=
  plan.preparations.foldl Given.prepare { tests := plan.tests }

def node (plan : NodePlan V) : Node :=
  plan.hooks.foldl Node.compute (plan.given.means plan.name)

def rule (plan : NodePlan V) : Rule V :=
  match plan.behind with
  | .value v => plan.node.gives v
  | .children rules => plan.node.leadsTo rules

end NodePlan

/-! ## Stages -/

/-- What is evaluated of a decision node at one time. -/
inductive Stage (V : Type) where
  | preparation (prepare : Preparation)
  | guard (tests : List Guard)
  | hook (work : Hook)
  | body (behind : Behind V)

namespace Stage

variable [Contribution V] {ctx : Context}

/-- The evaluation of a stage: an outcome ends the evaluation of the node, and without
one it goes on. -/
def eval (ctx : Context) : Stage V → Eval (Option (Outcome V))
  | .preparation prepare => do
      Eval.ofProbe (modify prepare)
      return none
  | .guard tests => do
      if ← (Guard.allOf tests).passes ctx then return none else return some .noMatch
  | .hook work => do
      Eval.ofProbe (work ctx)
      return none
  | .body behind => do
      let outcome ← behind.eval ctx
      return some outcome

/-- From the pass `p` exactly these stages run, one after another; the last of them ends
the evaluation with the answer, at the pass `q`. -/
inductive Run (ctx : Context) :
    List (Stage V) → (p : Pass) → Except GoalError (Outcome V) → (q : Pass) → Prop
  | ends {stage : Stage V} {p q : Pass} {outcome : Outcome V}
      (hstage : (stage.eval ctx).run.run p = (.ok (some outcome), q)) :
      Run ctx [stage] p (.ok outcome) q
  | fails {stage : Stage V} {p q : Pass} {e : GoalError}
      (hstage : (stage.eval ctx).run.run p = (.error e, q)) :
      Run ctx [stage] p (.error e) q
  | next {stage : Stage V} {later : List (Stage V)} {p between q : Pass}
      {answer : Except GoalError (Outcome V)}
      (hstage : (stage.eval ctx).run.run p = (.ok none, between))
      (hlater : Run ctx later between answer q) :
      Run ctx (stage :: later) p answer q

theorem not_run_nil {p q : Pass} {answer : Except GoalError (Outcome V)} :
    ¬ Run ctx ([] : List (Stage V)) p answer q :=
  fun hrun => nomatch hrun

/-- The stages that ran tell the answer. -/
theorem Run.unique {ran : List (Stage V)} {p q q' : Pass}
    {answer answer' : Except GoalError (Outcome V)} (hrun : Run ctx ran p answer q)
    (hrun' : Run ctx ran p answer' q') : answer = answer' ∧ q = q' := by
  induction hrun with
  | ends hstage =>
      cases hrun' with
      | ends hstage' =>
          cases hstage.symm.trans hstage'
          exact ⟨rfl, rfl⟩
      | fails hstage' => cases hstage.symm.trans hstage'
      | next _ hlater => exact absurd hlater not_run_nil
  | fails hstage =>
      cases hrun' with
      | ends hstage' => cases hstage.symm.trans hstage'
      | fails hstage' =>
          cases hstage.symm.trans hstage'
          exact ⟨rfl, rfl⟩
      | next _ hlater => exact absurd hlater not_run_nil
  | next hstage hlater ih =>
      cases hrun' with
      | ends _ => exact absurd hlater not_run_nil
      | fails _ => exact absurd hlater not_run_nil
      | next hstage' hlater' =>
          cases hstage.symm.trans hstage'
          exact ih hlater'

/-- Preparations run one after another and never end an evaluation. -/
theorem Run.behind_preparations {preparations : List Preparation} {later : List (Stage V)}
    {p q : Pass} {answer : Except GoalError (Outcome V)}
    (hlater : Run ctx later (p.prepared preparations) answer q) :
    Run ctx (preparations.map .preparation ++ later) p answer q := by
  induction preparations generalizing p with
  | nil => exact hlater
  | cons preparation rest ih => exact .next rfl (ih hlater)

/-- What stands behind a node ends its evaluation. -/
theorem Run.body (behind : Behind V) (p : Pass) :
    Run ctx [.body behind] p ((behind.eval ctx).run.run p).1 ((behind.eval ctx).run.run p).2 := by
  have hstage : ((Stage.body behind).eval ctx).run.run p =
      (((behind.eval ctx).run.run p).1.map some, ((behind.eval ctx).run.run p).2) :=
    Eval.run_map _ _ _
  cases hanswer : ((behind.eval ctx).run.run p).1 with
  | error e =>
      rw [hanswer] at hstage
      exact .fails hstage
  | ok outcome =>
      rw [hanswer] at hstage
      exact .ends hstage

end Stage

/-! ## The course of an evaluation -/

namespace NodePlan

/-- What runs in any case: the preparations, then the tests. -/
def opening (plan : NodePlan V) : List (Stage V) :=
  plan.preparations.map .preparation ++ [.guard plan.tests]

/-- All stages with these hooks, in the order of their registration. -/
def schedule (plan : NodePlan V) (hooks : List Hook) : List (Stage V) :=
  plan.opening ++ (hooks.map .hook ++ [.body plan.behind])

/-- What the tests answer once the preparations have been made, and the pass after that. -/
def tested (plan : NodePlan V) (ctx : Context) (p : Pass) : Except GoalError Bool × Pass :=
  ((Guard.allOf plan.tests).passes ctx).run.run (p.prepared plan.preparations)

/-- The evaluation of the node at the pass `p`, if it has these hooks and exactly these
stages ran. -/
structure Course [Contribution V] (plan : NodePlan V) (hooks : List Hook) (ctx : Context) (p : Pass)
    (ran : List (Stage V)) : Prop where
  run : Stage.Run ctx ran p ((plan.rule.eval ctx).run.run p).1 ((plan.rule.eval ctx).run.run p).2
  /-- Behind a guard that fails or does not pass, nothing runs. -/
  closed : ∀ answer, (plan.tested ctx p).1 = answer → answer ≠ .ok true →
    ran = plan.opening ∧ (plan.rule.eval ctx).run.run p =
      (answer.map fun _ => .noMatch, (plan.tested ctx p).2)
  /-- Behind a guard that passes all hooks run, and then the body; or one of them fails,
  and neither those behind it nor the body run. -/
  passed : (plan.tested ctx p).1 = .ok true →
    ran = plan.schedule hooks ∨
      ∃ before failing after e, hooks = before ++ failing :: after ∧
        ran = plan.opening ++ (before ++ [failing]).map .hook ∧
        ((plan.rule.eval ctx).run.run p).1 = .error e

theorem given_eq (plan : NodePlan V) :
    plan.given = { tests := plan.tests, preparations := plan.preparations } := by
  have hfold (given : Given) (preparations : List Preparation) :
      preparations.foldl Given.prepare given =
        { given with preparations := given.preparations ++ preparations } := by
    induction preparations generalizing given with
    | nil => simp
    | cons preparation rest ih => simp [ih, Given.prepare]
  exact hfold _ _

/-- Each hook takes the place of the one before it. -/
theorem node_eq (plan : NodePlan V) :
    plan.node = { name := plan.name, guard := plan.given.guard, hook := plan.hooks.getLast? } := by
  -- For any node: a hook that it has already stays only if no other is registered.
  have hfold (node : Node) (hooks : List Hook) :
      hooks.foldl Node.compute node = { node with hook := hooks.getLast?.or node.hook } := by
    induction hooks generalizing node with
    | nil => rfl
    | cons hook rest ih =>
        rw [List.foldl_cons, ih, List.getLast?_cons]
        cases rest.getLast? <;> rfl
  rw [node, hfold]
  simp [Given.means]

/-- The guard of a node answers what its tests answer after the preparations. -/
theorem run_guard (plan : NodePlan V) (ctx : Context) (p : Pass) :
    (plan.given.guard.passes ctx).run.run p = plan.tested ctx p := by
  rw [given_eq, Given.guard, Guard.preparedBy, tested, ← Pass.prepare_runAll]
  cases plan.preparations <;> rfl

section Evaluation

variable [Contribution V]

theorem eval_rule (plan : NodePlan V) (ctx : Context) :
    plan.rule.eval ctx = (do
      if ← plan.given.guard.passes ctx then
        Rule.runHook plan.hooks.getLast? ctx
        plan.behind.eval ctx
      else return .noMatch) := by
  rw [rule, node_eq]
  cases plan.behind <;> rfl

variable {plan : NodePlan V} {ctx : Context} {p : Pass}

/-- The stage of the tests lets the evaluation go on if they pass. -/
theorem run_guardStage (plan : NodePlan V) (ctx : Context) (p : Pass) :
    ((Stage.guard (V := V) plan.tests).eval ctx).run.run (p.prepared plan.preparations) =
      ((plan.tested ctx p).1.map fun pass => if pass then none else some .noMatch,
        (plan.tested ctx p).2) := by
  rw [Stage.eval, Eval.run_bind, ← tested]
  cases (plan.tested ctx p).1 with
  | error e => rfl
  | ok pass => cases pass <;> rfl

/-- A guard that fails or does not pass ends the evaluation. -/
theorem run_of_closed {answer : Except GoalError Bool} (hanswer : (plan.tested ctx p).1 = answer)
    (hclosed : answer ≠ .ok true) :
    (plan.rule.eval ctx).run.run p = (answer.map fun _ => .noMatch, (plan.tested ctx p).2) ∧
      Stage.Run ctx plan.opening p (answer.map fun _ => .noMatch) (plan.tested ctx p).2 := by
  have hstage := run_guardStage plan ctx p
  rw [hanswer] at hstage
  rw [eval_rule, Eval.run_bind, run_guard, hanswer]
  cases answer with
  | error e => exact ⟨rfl, .behind_preparations (.fails hstage)⟩
  | ok pass =>
      cases pass with
      | false => exact ⟨rfl, .behind_preparations (.ends hstage)⟩
      | true => exact absurd rfl hclosed

/-- Behind a guard that passes the stages of the hook and of the body run. -/
theorem run_of_passed (hpassed : (plan.tested ctx p).1 = .ok true) :
    (plan.rule.eval ctx).run.run p =
        (do Rule.runHook plan.hooks.getLast? ctx; plan.behind.eval ctx : Eval (Outcome V)).run.run
          (plan.tested ctx p).2 ∧
      ∀ {later answer q}, Stage.Run ctx later (plan.tested ctx p).2 answer q →
        Stage.Run ctx (plan.opening ++ later) p answer q := by
  constructor
  · rw [eval_rule, Eval.run_bind, run_guard, hpassed]
    rfl
  · intro later answer q hlater
    have hstage := run_guardStage plan ctx p
    rw [hpassed] at hstage
    rw [opening, List.append_assoc]
    exact .behind_preparations (.next hstage hlater)

/-- Of the hooks that were registered the last one runs, and no other. -/
theorem last_hook_runs (plan : NodePlan V) (ctx : Context) (p : Pass) :
    ∃ ran, plan.Course plan.hooks.getLast?.toList ctx p ran := by
  by_cases hpassed : (plan.tested ctx p).1 = .ok true
  · obtain ⟨hrun, hbehind⟩ := run_of_passed hpassed
    have hopen : ∀ answer, (plan.tested ctx p).1 = answer → answer ≠ .ok true → False :=
      fun answer hanswer hclosed => hclosed (hanswer.symm.trans hpassed)
    -- Behind the tests the answer of the hook says whether the body runs.
    cases hhook : plan.hooks.getLast? with
    | none =>
        rw [hhook] at hrun
        refine ⟨plan.schedule [], ?_, fun _ h h' => (hopen _ h h').elim, fun _ => .inl rfl⟩
        rw [hrun]
        exact hbehind (.body plan.behind _)
    | some hook =>
        rw [hhook, Rule.runHook, Eval.run_bind] at hrun
        have hstage := Eval.run_bind (Eval.ofProbe (hook ctx))
          (fun _ => pure (none : Option (Outcome V))) (plan.tested ctx p).2
        cases hanswer : ((Eval.ofProbe (hook ctx)).run.run (plan.tested ctx p).2).1 with
        | error e =>
            rw [hanswer] at hrun hstage
            refine ⟨plan.opening ++ [.hook hook], ?_, fun _ h h' => (hopen _ h h').elim,
              fun _ => .inr ⟨[], hook, [], e, rfl, rfl, congrArg Prod.fst hrun⟩⟩
            rw [hrun]
            exact hbehind (.fails hstage)
        | ok _ =>
            rw [hanswer] at hrun hstage
            refine ⟨plan.schedule [hook], ?_, fun _ h h' => (hopen _ h h').elim,
              fun _ => .inl rfl⟩
            rw [hrun]
            exact hbehind (.next hstage (.body plan.behind _))
  · obtain ⟨hrun, hopening⟩ := run_of_closed rfl hpassed
    refine ⟨plan.opening, ?_, ?_, fun h => absurd h hpassed⟩
    · rw [hrun]
      exact hopening
    · rintro _ rfl _
      exact ⟨rfl, hrun⟩

/-- Whatever was registered, the preparations run in order and before the tests, and the
last hook runs between the tests and what stands behind the node.  Of at most one hook
this says that all registered hooks run, in order; the first that fails ends the
evaluation. -/
theorem registered_hooks_run_in_order (plan : NodePlan V) (ctx : Context) (p : Pass) :
    (∃ ran, plan.Course plan.hooks.getLast?.toList ctx p ran) ∧
      (plan.hooks.length ≤ 1 → ∃ ran, plan.Course plan.hooks ctx p ran) := by
  have hlast := last_hook_runs plan ctx p
  refine ⟨hlast, fun hone => ?_⟩
  have hall : plan.hooks.getLast?.toList = plan.hooks := by
    cases hhooks : plan.hooks with
    | nil => rfl
    | cons hook rest =>
        rw [hhooks, List.length_cons] at hone
        rw [List.length_eq_zero_iff.mp (by omega : rest.length = 0)]
        rfl
  rwa [hall] at hlast

end Evaluation

/-! ## Images -/

/-- Whether there is an image, and the tag that it gets. -/
def noteImage : Hook := HookStep.hook [.set "image" (.bool true)]

def noteTag : Hook := HookStep.hook [.set "tag" (.string "latest")]

def publishImage : Rule Value :=
  .leaf "publish" (.allOf [.test (Script.comparing "image" .cheap "image" (.bool true))]) none
    (.string "published")

/-- Two preparations count, one behind the other, and the hook comes behind the tests. -/
def imagePlan : NodePlan Value where
  tests := [.test (Script.counting "second" .cheap "count" 3)]
  preparations :=
    [HookStep.preparation [.increment "count"], HookStep.preparation [.increment "count"]]
  name := "image"
  hooks := [noteImage]
  behind := .children [publishImage]

theorem imagePlan_runs_in_full :
    imagePlan.Course imagePlan.hooks {} default (imagePlan.schedule imagePlan.hooks) ∧
      ((imagePlan.rule.eval {}).run.run default).1 = .ok (.matched (.string "published")) := by
  have hanswer : ((imagePlan.rule.eval {}).run.run default).1 =
      .ok (.matched (.string "published")) := rfl
  obtain ⟨ran, hcourse⟩ := (registered_hooks_run_in_order imagePlan {} default).2 (by decide)
  rcases hcourse.passed (by decide +kernel) with rfl | ⟨_, _, _, e, _, _, hfails⟩
  · exact ⟨hcourse, hanswer⟩
  · cases hanswer.symm.trans hfails

/-- The image is noted by the first of two hooks. -/
def taggedPlan : NodePlan Value := { imagePlan with hooks := [noteImage, noteTag] }

/-- With two hooks the first is lost, and the node behind it finds nothing. -/
theorem first_hook_is_lost :
    ¬ ∃ ran, taggedPlan.Course taggedPlan.hooks {} default ran := by
  rintro ⟨ran, hcourse⟩
  have hanswer : ((taggedPlan.rule.eval {}).run.run default).1 = .ok .noMatch := rfl
  rcases hcourse.passed (by decide +kernel) with rfl | ⟨_, _, _, e, _, _, hfails⟩
  · have hfull : ∃ q, Stage.Run {} (taggedPlan.schedule taggedPlan.hooks) default
        (.ok (.matched (.string "published"))) q :=
      ⟨_, .next rfl (.next rfl (.next rfl (.next rfl (.next rfl (.ends rfl)))))⟩
    obtain ⟨q, hfull⟩ := hfull
    cases hanswer.symm.trans (hcourse.run.unique hfull).1
  · cases hanswer.symm.trans hfails

end NodePlan

end PushGoals
