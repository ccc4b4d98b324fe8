import PushGoals.Proofs.Rule.Answer
import PushGoals.Proofs.Passes

/-!
# How a rule can fail

A rule fails with an error of its tests, hooks and computations and with no other.
So what holds of all answers of the work in it, and survives putting answers
together, holds of what the rule answers in any pass: a rule over work that never
lacks data never lacks data itself, and one over work that fails for data only fails
for data only.
-/

namespace PushGoals

variable {α β : Type} {Q : {α : Type} → Except GoalError α → Prop}

theorem lacksData_compositional :
    Compositional fun {α : Type} (answer _ : Except GoalError α) => lacksData answer = false where
  ok _ := rfl
  bind {_ _ answer _ _ _} hanswer hnext := by
    cases answer with
    | error e => exact hanswer
    | ok a => exact hnext a rfl

/-- The work never lacks data for `ctx`. -/
def NeverLacks (ctx : Context) (work : Context → Probe α) : Prop :=
  ∀ scratch, lacksData ((work ctx).run scratch).1 = false

/-- The work fails for `ctx` for want of data only. -/
def NeverBreaks (ctx : Context) (work : Context → Probe α) : Prop :=
  ∀ scratch, LacksDataOnly ((work ctx).run scratch).1

namespace Eval

/-- What the step answers has property `Q`, whatever the pass. -/
def Always (Q : {α : Type} → Except GoalError α → Prop) (step : Eval α) : Prop :=
  ∀ p, Q (step.run.run p).1

section

variable (hQ : Compositional fun {α : Type} (answer _ : Except GoalError α) => Q answer)

include hQ

theorem always_ok (a : α) : Always Q (pure a : Eval α) := fun _ => hQ.ok a

theorem Always.bind {step : Eval α} {next : α → Eval β} (hstep : Always Q step)
    (hnext : ∀ a, Always Q (next a)) : Always Q (step >>= next) := by
  intro p
  have hanswer := hstep p
  rw [run_bind]
  cases hgiven : (step.run.run p).1 with
  | error e =>
      rw [hgiven] at hanswer
      exact @Compositional.bind _ hQ α β (.error e) (.error e) (fun _ => .error e)
        (fun _ => .error e) hanswer fun _ hok => nomatch hok
  | ok a => exact hnext a _

theorem Always.map {step : Eval α} (hstep : Always Q step) (f : α → β) :
    Always Q (do let x ← step; return f x) :=
  hstep.bind hQ fun a => always_ok hQ (f a)

theorem always_lift (work : Work α) : Always Q (liftM work : Eval α) :=
  fun p => hQ.ok (work.run p).1

theorem Always.allSettled {steps : List (Eval α)} (hsteps : ∀ step ∈ steps, Always Q step) :
    Always Q (Eval.allSettled steps) := by
  have hsettle (p : Pass) :
      List.Forall₂ (fun answer _ => Q answer) ((settle steps).run p).1
        ((settle steps).run p).1 := by
    induction steps generalizing p with
    | nil => exact .nil
    | cons step rest ih =>
        obtain ⟨hhead, hrest⟩ := List.forall_mem_cons.mp hsteps
        rw [run_settle_cons]
        exact .cons (hhead p) (ih hrest _)
  intro p
  rw [run_allSettled]
  exact hQ.collect (hsettle p)

theorem Always.memoized {ctx : Context} {ref : CacheRef} {name : String}
    {step : Eval (Outcome Bool)} (hstep : Always Q step) :
    Always Q (Eval.memoized ctx ref name step) := by
  unfold Eval.memoized
  cases ctx.id with
  | none => exact hstep
  | some id =>
      apply (always_lift hQ _).bind hQ
      intro hit
      cases hit with
      | some v => exact always_ok hQ (Outcome.matched v)
      | none =>
          apply hstep.bind hQ
          intro outcome
          cases outcome with
          | matched v =>
              exact (always_lift hQ _).bind hQ fun _ => always_ok hQ (Outcome.matched v)
          | noMatch => exact always_ok hQ Outcome.noMatch
          | halt => exact always_ok hQ Outcome.halt

theorem Always.supervised {V : Type} {name : Work String} {step : Eval (Outcome V)}
    (hstep : Always Q step) : Always Q (Eval.supervised name step) := by
  intro p
  have hanswer := hstep p
  unfold Eval.supervised
  rw [run_bind]
  have hattempt : ((attempt step).run.run p) =
      (.ok (step.run.run p).1, (step.run.run p).2) := rfl
  rw [hattempt]
  cases hgiven : (step.run.run p).1 with
  | ok outcome =>
      by_cases hmatched : outcome.isMatched = true
      · simp only [if_pos hmatched]
        exact hQ.ok outcome
      · simp only [if_neg hmatched]
        exact hQ.ok outcome
  | error e =>
      rw [hgiven] at hanswer
      generalize (step.run.run p).2 = after
      obtain ⟨engine, policy, values, failures⟩ := after
      cases policy with
      | failFast => exact hanswer
      | isolateAndReport => exact hQ.ok Outcome.noMatch

end

end Eval

variable {P : {α : Type} → (Context → Probe α) → Prop} {ctx : Context}
  (hQ : Compositional fun {α : Type} (answer _ : Except GoalError α) => Q answer)
  (hwork : ∀ {α : Type} {work : Context → Probe α}, P work →
    ∀ scratch, Q ((work ctx).run scratch).1)

include hQ hwork

theorem Guard.eval_always {guard : Guard} (hguard : guard.Every P) :
    Eval.Always Q (guard.eval ctx) := by
  have hprobe {α : Type} {work : Context → Probe α} (hP : P work) :
      Eval.Always Q (Eval.ofProbe (work ctx)) := fun p => hwork hP _
  have hformula {parts : List Guard}
      (ih : ∀ g ∈ parts, g.Every P → Eval.Always Q (g.eval ctx)) (hparts : EveryAmong P parts) :
      Eval.Always Q (Eval.allSettled (evalEach ctx parts)) := by
    apply Eval.Always.allSettled hQ
    rw [evalEach_eq_map, List.forall_mem_map]
    exact fun g hg => ih g hg (everyAmong_iff.mp hparts g hg)
  induction guard using Guard.induct with
  | test t => exact (hprobe hguard).map hQ Outcome.matched
  | custom name cost run => exact hprobe hguard
  | all parts ih => exact (hformula ih hguard).map hQ _
  | any parts ih => exact (hformula ih hguard).map hQ _
  | negation inner ih => exact (ih hguard).map hQ _
  | memo cache inner ih => exact (ih hguard).memoized hQ
  | prepared preparations inner ih => exact (hprobe hguard.1).bind hQ fun _ => ih hguard.2
  | mapped f inner ih => exact (ih hguard).map hQ _

theorem Rule.eval_always {V : Type} [Contribution V] {rule : Rule V} (hrule : rule.Every P) :
    Eval.Always Q (rule.eval ctx) := by
  have hprobe {α : Type} {work : Context → Probe α} (hP : P work) :
      Eval.Always Q (Eval.ofProbe (work ctx)) := fun p => hwork hP _
  have hpasses {guard : Guard} (hguard : guard.Every P) : Eval.Always Q (guard.passes ctx) :=
    (Guard.eval_always hQ hwork hguard).map hQ Outcome.passes
  have hhook {hook : Option Hook} (hhook : ∀ work, hook = some work → P work) :
      Eval.Always Q (runHook hook ctx) := by
    cases hook with
    | none => exact Eval.always_ok hQ ()
    | some work => exact hprobe (hhook work rfl)
  have hfirst {rules : List (Rule V)}
      (ih : ∀ rule ∈ rules, rule.Every P → Eval.Always Q (rule.eval ctx))
      (hrules : EveryAmong P rules) : Eval.Always Q (evalFirst ctx rules) := by
    induction rules with
    | nil => exact Eval.always_ok hQ Outcome.noMatch
    | cons rule rest ihRest =>
        obtain ⟨hhead, htail⟩ := List.forall_mem_cons.mp ih
        apply ((hhead hrules.1).supervised hQ).bind hQ
        intro outcome
        cases outcome with
        | matched value => exact Eval.always_ok hQ (Outcome.matched value)
        | noMatch => exact ihRest htail hrules.2
        | halt =>
            apply (Eval.always_lift hQ _).bind hQ
            intro name
            exact (Eval.always_lift hQ _).bind hQ fun _ => Eval.always_ok hQ Outcome.noMatch
  induction rule using Rule.induct with
  | fixed guard reason value =>
      apply (hpasses hrule).bind hQ
      intro passes
      cases passes <;> exact Eval.always_ok hQ _
  | halting guard reason =>
      apply (hpasses hrule).bind hQ
      intro passes
      cases passes <;> exact Eval.always_ok hQ _
  | computed key guard reason compute =>
      apply (hpasses hrule.1).bind hQ
      intro passes
      cases passes with
      | false => exact Eval.always_ok hQ Outcome.noMatch
      | true =>
          apply (hprobe (hrule.2 _)).bind hQ
          intro given
          exact (Eval.always_lift hQ _).bind hQ fun _ => Eval.always_ok hQ _
  | firstMatch name rules ih => exact hfirst ih hrule
  | allMatches name contributors ih =>
      have heach : ∀ step ∈ superviseEach ctx contributors, Eval.Always Q step := by
        rw [superviseEach_eq_map, List.forall_mem_map]
        exact fun rule hmem => (ih rule hmem (everyAmong_iff.mp hrule rule hmem)).supervised hQ
      exact (Eval.Always.allSettled hQ heach).map hQ _
  | enriched name base extension ihBase ihExtension =>
      apply ((ihBase hrule.1).supervised hQ).bind hQ
      intro given
      by_cases hclosed : closed given.value? = true
      · simp only [if_pos hclosed]
        exact Eval.always_ok hQ _
      · simp only [if_neg hclosed]
        exact ((ihExtension hrule.2).supervised hQ).map hQ _
  | leaf name guard hook value =>
      apply (hpasses hrule.1).bind hQ
      intro passes
      cases passes with
      | false => exact Eval.always_ok hQ Outcome.noMatch
      | true => exact (hhook hrule.2).map hQ _
  | branch name guard hook children ih =>
      apply (hpasses hrule.1).bind hQ
      intro passes
      cases passes with
      | false => exact Eval.always_ok hQ Outcome.noMatch
      | true => exact (hhook hrule.2.1).bind hQ fun _ => hfirst ih hrule.2.2
  | mapped f inner ih => exact (ih hrule).map hQ _
  | custom name cost run => exact hprobe hrule

end PushGoals
