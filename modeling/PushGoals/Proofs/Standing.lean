import PushGoals.Proofs.Rule.FirstMatch
import PushGoals.Proofs.Prediction.Lockstep
import PushGoals.Proofs.Prediction.Soundness

/-!
# Passes whose keys stand

A rule that leaves some keys alone can be attempted and walked without harm: what stands
under these keys afterwards is what stood there before, and what failed fails again.
A rule set in isolation does not fail at all.
-/

namespace PushGoals

variable {keys : Set String} {ctx later : Context} {known : List Guard}
  {policy : FailurePolicy} {values : ScopeValues} {rule : GoalRule}

/-! ## Standing -/

/-- The caches are truthful, and under `keys` the scope has the given values. -/
structure Pass.Standing (ctx : Context) (known : List Guard) (policy : FailurePolicy)
    (keys : Set String) (values : ScopeValues) (p : Pass) : Prop where
  faithful : p.Faithful ctx known policy
  values : p.scope.values.AgreeOn keys values

namespace Pass

variable {p q : Pass}

theorem Ahead.of_standing (hp : p.Standing ctx known .failFast keys values)
    (hq : q.Standing later known policy keys values) : p.Ahead ctx later known policy keys q :=
  ⟨hp.faithful, hq.faithful, hp.values.trans hq.values.symm⟩

theorem Ahead.standing (hpq : p.Ahead ctx later known policy keys q) :
    p.Standing ctx known .failFast keys q.scope.values :=
  ⟨hpq.early, hpq.values⟩

theorem Faithful.standing (hp : p.Faithful ctx known policy) :
    p.Standing ctx known policy keys p.scope.values :=
  ⟨hp, .refl _⟩

theorem steady_standing :
    Steady True (Pass.Alone (Pass.Standing ctx known policy keys values)) :=
  steady_alone (fun _ _ hp => ⟨⟨hp.faithful.policy, hp.faithful.caches⟩, hp.values⟩)
    fun _ _ _ hp => ⟨⟨hp.faithful.policy, hp.faithful.caches⟩, hp.values⟩

end Pass

namespace Rule

theorem inStep_standing (hknown : Guard.Dependable known) (hmem : rule.remembered ⊆ known)
    (hleaves : rule.Every (Leaves keys)) :
    rule.InStep True ctx (Pass.Alone (Pass.Standing ctx known policy keys values)) := by
  apply Rule.inStep_alone _ _ _ _ _ hleaves
  · exact fun _ _ hp => ⟨⟨hp.faithful.policy, hp.faithful.caches⟩, hp.values⟩
  · exact fun _ _ _ hp => ⟨⟨hp.faithful.policy, hp.faithful.caches⟩, hp.values⟩
  · intro p key name hp
    cases name <;> exact ⟨⟨hp.faithful.policy, hp.faithful.caches⟩, hp.values⟩
  · rintro ref guard hguard _ p _ ⟨rfl, hp⟩
    refine ⟨rfl, rfl, (hknown.memoized_gives (hmem hguard) ref p hp.faithful).2, ?_⟩
    rw [Guard.memoized_values (hknown.detached guard (hmem hguard)) ref p]
    exact hp.values
  · intro α work hwork p hp
    exact ⟨⟨hp.faithful.policy, hp.faithful.caches⟩, (hwork ctx _).trans hp.values⟩

theorem eval_standing (hknown : Guard.Dependable known) (hmem : rule.remembered ⊆ known)
    (hleaves : rule.Every (Leaves keys)) {p : Pass}
    (hp : p.Standing ctx known policy keys values) :
    ((rule.eval ctx).run.run p).2.Standing ctx known policy keys values :=
  (eval_inStep Pass.steady_standing (inStep_standing hknown hmem hleaves)).keeps hp

theorem supervise_standing (hknown : Guard.Dependable known) (hmem : rule.remembered ⊆ known)
    (hleaves : rule.Every (Leaves keys)) {p : Pass}
    (hp : p.Standing ctx known policy keys values) :
    ((rule.supervise (rule.eval ctx)).run.run p).2.Standing ctx known policy keys values :=
  (Pass.steady_standing.supervise rule
    (eval_inStep Pass.steady_standing (inStep_standing hknown hmem hleaves))).keeps hp

theorem classifyFailed_standing (hknown : Guard.Dependable known) (hmem : rule.remembered ⊆ known)
    (hleaves : rule.Every (Leaves keys)) (e : GoalError) {p : Pass}
    (hp : p.Standing ctx known policy keys values) :
    ((classifyFailed ctx e rule).run p).2.Standing ctx known policy keys values :=
  (classifyFailed_inStep Pass.steady_standing (inStep_standing hknown hmem hleaves) e).keeps hp

/-- What fails fails again as long as the keys stand. -/
theorem fails_again (hknown : Guard.Dependable known) (hmem : rule.remembered ⊆ known)
    (hrule : rule.Contained ctx keys) {p q : Pass}
    (hp : p.Standing ctx known .failFast keys values)
    (hq : q.Standing ctx known .failFast keys values)
    (hfails : ∀ o, ((rule.eval ctx).run.run p).1 ≠ .ok o) :
    ∀ o, ((rule.eval ctx).run.run q).1 ≠ .ok o := by
  intro o hok
  -- Had the second attempt succeeded, it would forerun the first.
  have hqp : q.Ahead ctx ctx known .failFast keys p := .of_standing hq hp
  exact hfails o (eval_foreruns hknown ctx.extendedBy_refl hmem hrule q p hqp o hok).1

theorem Discreet.leaves_of_fails (hrule : rule.Discreet (NeverFails ctx) keys) {p : Pass}
    (hfails : ∀ o, ((rule.eval ctx).run.run p).1 ≠ .ok o) : rule.Every (Leaves keys) := by
  rcases hrule with hnever | hleaves
  · obtain ⟨o, ho⟩ := eval_always succeeds_compositional (fun hwork => hwork) hnever p
    exact absurd ho (hfails o)
  · exact hleaves

/-! ## Composite rules do not fail in isolation -/

theorem supervise_isolated (ctx : Context) (rule : GoalRule) {p : Pass}
    (hpolicy : p.scope.policy = .isolateAndReport) :
    (∃ o, ((rule.supervise (rule.eval ctx)).run.run p).1 = .ok o) ∧
      ((rule.supervise (rule.eval ctx)).run.run p).2.scope.policy = .isolateAndReport := by
  constructor
  · unfold supervise
    rw [Eval.supervised_fst, rule.eval_policy, hpolicy]
    exact supervised_isolated _
  · rw [rule.supervise_policy]
    exact hpolicy

theorem evalFirst_runs {rules : List GoalRule} {p : Pass}
    (hpolicy : p.scope.policy = .isolateAndReport) :
    ∃ o, ((evalFirst ctx rules).run.run p).1 = .ok o := by
  induction rules generalizing p with
  | nil => exact ⟨.noMatch, rfl⟩
  | cons rule rest ih =>
      obtain ⟨⟨outcome, houtcome⟩, hthen⟩ := supervise_isolated ctx rule hpolicy
      unfold evalFirst
      rw [Eval.run_bind, houtcome]
      cases outcome with
      | matched value => exact ⟨.matched value, rfl⟩
      | noMatch => exact ih hthen
      | halt => exact ⟨.noMatch, rfl⟩

theorem superviseEach_runs {rules : List GoalRule} {p : Pass}
    (hpolicy : p.scope.policy = .isolateAndReport) :
    ∃ outcomes,
      Eval.collect ((Eval.settle (superviseEach ctx rules)).run p).1 = .ok outcomes := by
  induction rules generalizing p with
  | nil => exact ⟨[], rfl⟩
  | cons rule rest ih =>
      obtain ⟨⟨outcome, houtcome⟩, hthen⟩ := supervise_isolated ctx rule hpolicy
      obtain ⟨outcomes, houtcomes⟩ := ih hthen
      unfold superviseEach
      rw [Eval.run_settle_cons, houtcome]
      simp only [Eval.collect]
      rw [houtcomes]
      exact ⟨outcome :: outcomes, rfl⟩

theorem allMatches_runs {name : String} {contributors : List GoalRule} {p : Pass}
    (hpolicy : p.scope.policy = .isolateAndReport) :
    ∃ o, (((allMatches name contributors : GoalRule).eval ctx).run.run p).1 = .ok o := by
  obtain ⟨outcomes, houtcomes⟩ := superviseEach_runs hpolicy
  unfold eval
  rw [Eval.run_bind, Eval.run_allSettled, houtcomes]
  exact ⟨_, rfl⟩

theorem enriched_runs {name : String} {base extension : GoalRule} {p : Pass}
    (hpolicy : p.scope.policy = .isolateAndReport) :
    ∃ o, (((enriched name base extension : GoalRule).eval ctx).run.run p).1 = .ok o := by
  obtain ⟨⟨given, hgiven⟩, hthen⟩ := supervise_isolated ctx base hpolicy
  obtain ⟨⟨added, hadded⟩, _⟩ := supervise_isolated ctx extension hthen
  unfold eval
  rw [Eval.run_bind, hgiven]
  by_cases hclosed : closed given.value? = true
  · simp only [if_pos hclosed]
    exact ⟨_, rfl⟩
  · simp only [if_neg hclosed]
    rw [Eval.run_bind, hadded]
    exact ⟨_, rfl⟩

/-- A step that does not fail in isolation gives as a member of a rule set what it gives. -/
theorem supervised_of_runs {step : Eval (Outcome GoalSet)} {q : Pass}
    (hpolicy : q.scope.policy = policy)
    (hruns : q.scope.policy = .isolateAndReport → ∃ o, (step.run.run q).1 = .ok o) :
    policy.supervised (step.run.run q).1 = (step.run.run q).1 := by
  cases policy with
  | failFast => rfl
  | isolateAndReport =>
      obtain ⟨o, ho⟩ := hruns hpolicy
      rw [ho]
      rfl

end Rule

end PushGoals
