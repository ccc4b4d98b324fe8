import PushGoals.Proofs.Standing

/-!
# Walking ahead

A rule whose evaluation fails for want of data is walked, and the walk has to leave room
for everything that the rule may give in a later pass, where more is known.  It does if
the rule is contained: what is written on the way, in a pass that has already gone wrong,
is then seen only where the later pass writes it as well.
-/

namespace PushGoals

variable {keys seen inside : Set String} {ctx later : Context} {known : List Guard}
  {policy : FailurePolicy} {values : ScopeValues} {rule : GoalRule}

/-! ## Foretelling works -/

/-- From passes in `R` the forecast leaves room for what the step gives as a member of a
rule set. -/
def Work.Foretells (R : Pass → Pass → Prop) (policy : FailurePolicy) (work : Work Forecast)
    (step : Eval (Outcome GoalSet)) : Prop :=
  ∀ p q, R p q → ∀ o, policy.supervised (step.run.run q).1 = .ok o →
    (work.run p).1.Foretells o

theorem Work.Foretells.log {R : Pass → Pass → Prop} {e : Event}
    (hR : ∀ p q, R p q → R (p.emit e) q) {work : Work Forecast} {step : Eval (Outcome GoalSet)}
    (hwork : work.Foretells R policy step) :
    Work.Foretells R policy (modify (·.emit e) >>= fun _ => work) step :=
  fun p q hpq => hwork _ q (hR p q hpq)

/-- The first step is looked at in both passes; then what is left of the second is told
by its answer. -/
theorem Work.Foretells.bind {α : Type} {R S : Pass → Pass → Prop}
    {attempt : Work (Except GoalError α)} {next : Except GoalError α → Work Forecast}
    {step : Eval α} {rest : α → Eval (Outcome GoalSet)}
    (hstep : Work.Lockstep R S SuccessKept attempt step.run)
    (hnext : ∀ answer again, SuccessKept answer again →
      (next answer).Foretells S policy (liftM again >>= rest)) :
    (attempt >>= next).Foretells R policy (step >>= rest) := by
  intro p q hpq o hlater
  obtain ⟨hkept, hthen⟩ := hstep p q hpq
  apply hnext _ _ hkept _ _ hthen o
  rw [Eval.run_bind] at hlater
  rw [Eval.run_bind]
  exact hlater

namespace Rule

theorem classifyGuard_foretells {guard : Guard}
    (hguard : Work.Lockstep (Pass.Ahead ctx later known policy keys)
      (Pass.Ahead ctx later known policy seen) SuccessKept (guard.passes ctx).run
      (guard.passes later).run)
    (name : String) {body : Work Forecast} {next : Eval (Outcome GoalSet)}
    (hbody : body.Foretells (Pass.Ahead ctx later known policy seen) policy next) :
    Work.Foretells (Pass.Ahead ctx later known policy keys) policy
      (classifyGuard name guard ctx (some body))
      (do if ← guard.passes later then next else return .noMatch) := by
  unfold classifyGuard
  apply Work.Foretells.log fun p q hpq =>
    ⟨⟨hpq.early.policy, hpq.early.caches⟩, hpq.late, hpq.values⟩
  apply Work.Foretells.bind hguard
  intro answer again hkept p q hpq o hlater
  cases answer with
  | ok passes =>
      rw [hkept passes rfl] at hlater
      cases passes with
      | true => exact hbody p q hpq o hlater
      | false =>
          have hnone : o = .noMatch := supervised_ok_inj hlater
          subst hnone
          exact .nothing
  | error e =>
      by_cases hdata : e.isInsufficientData = true
      · simp only [if_pos hdata]
        cases again with
        | error d =>
            rw [supervised_error_eq_ok hlater]
            exact .demote_noMatch _
        | ok passes =>
            cases passes with
            | true => exact (hbody p q hpq o hlater).demote
            | false =>
                have hnone : o = .noMatch := supervised_ok_inj hlater
                subst hnone
                exact .demote_noMatch _
      · simp only [if_neg hdata]
        exact .road name e.message o

theorem classifyBody_foretells {hook : Option Hook}
    (hhook : Eval.Foreruns (Pass.Ahead ctx later known policy seen)
      (Pass.Ahead ctx later known policy inside) (runHook hook ctx) (runHook hook later))
    (name : String) {body : Work Forecast} {next : Eval (Outcome GoalSet)}
    (hbody : body.Foretells (Pass.Ahead ctx later known policy inside) policy next) :
    Work.Foretells (Pass.Ahead ctx later known policy seen) policy
      (classifyBody name hook ctx body) (do runHook hook later; next) := by
  intro p q hpq o hlater
  have hbehind := hhook p q hpq ()
  unfold classifyBody
  rw [Work.run_bind]
  cases hgiven : ((runHook hook ctx).run.run p).1 with
  | ok _ =>
      obtain ⟨hagain, hthen⟩ := hbehind hgiven
      rw [Eval.run_bind, hagain] at hlater
      exact hbody _ _ hthen o hlater
  | error e =>
      by_cases hdata : e.isInsufficientData = true
      · simp only [if_pos hdata]
        apply Forecast.Foretells.of_unknown rfl
        exact List.append_ne_nil_of_right_ne_nil _ (List.cons_ne_nil _ _)
      · simp only [if_neg hdata]
        exact .road name e.message o

/-- What is asked of a rule so that its classification comes true: that its work is
contained, that it is discreet where its evaluation may fail, and that walking its
structure foretells what comes of it. -/
structure Foreseen (ctx later : Context) (known : List Guard) (policy : FailurePolicy)
    (keys : Set String) (rule : GoalRule) : Prop where
  remembered : rule.remembered ⊆ known
  contained : rule.Contained ctx keys
  discreet : rule.Discreet (NeverFails ctx) keys
  walked : ∀ (e : GoalError) (p q : Pass), p.Ahead ctx later known policy keys q →
    (∀ o, ((rule.eval ctx).run.run p).1 ≠ .ok o) →
      ∀ o, policy.supervised ((rule.eval later).run.run q).1 = .ok o →
        ((classifyFailed ctx e rule).run p).1.Foretells o

theorem supervise_fst {q : Pass} (hpolicy : q.scope.policy = policy) :
    ((rule.supervise (rule.eval later)).run.run q).1 =
      policy.supervised ((rule.eval later).run.run q).1 := by
  unfold supervise
  rw [Eval.supervised_fst, rule.eval_policy, hpolicy]

namespace Foreseen

theorem succeeds (hknown : Guard.Dependable known) (hmore : ctx.ExtendedBy later)
    (hrule : rule.Foreseen ctx later known policy keys) {p q : Pass}
    (hpq : p.Ahead ctx later known policy keys q) {o : Outcome GoalSet}
    (hok : ((rule.eval ctx).run.run p).1 = .ok o) :
    ((rule.supervise (rule.eval later)).run.run q).1 = .ok o ∧
      ((rule.eval ctx).run.run p).2.Ahead ctx later known policy keys
        ((rule.supervise (rule.eval later)).run.run q).2 := by
  obtain ⟨hagain, hthen⟩ :=
    eval_foreruns hknown hmore hrule.remembered hrule.contained p q hpq o hok
  unfold supervise
  rw [Eval.run_supervised_ok (fun _ => rfl) hagain]
  refine ⟨rfl, ?_⟩
  by_cases hmatched : o.isMatched = true
  · simp only [if_pos hmatched]
    exact ⟨hthen.early, ⟨hthen.late.policy, hthen.late.caches⟩, hthen.values⟩
  · simp only [if_neg hmatched]
    exact hthen

/-- A rule whose evaluation failed: its walk foretells what it gives as a member of a
rule set, and the passes stay related. -/
theorem fails (hknown : Guard.Dependable known)
    (hrule : rule.Foreseen ctx later known policy keys) {p q : Pass}
    (hpq : p.Ahead ctx later known policy keys q) {e : GoalError}
    (herror : ((rule.eval ctx).run.run p).1 = .error e) :
    (∀ o, ((rule.supervise (rule.eval later)).run.run q).1 = .ok o →
      ((classifyFailed ctx e rule).run ((rule.eval ctx).run.run p).2).1.Foretells o) ∧
      ((classifyFailed ctx e rule).run ((rule.eval ctx).run.run p).2).2.Ahead ctx later known
        policy keys ((rule.supervise (rule.eval later)).run.run q).2 := by
  have hfails : ∀ o, ((rule.eval ctx).run.run p).1 ≠ .ok o := by
    rw [herror]
    exact fun o hok => nomatch hok
  have hleaves := hrule.discreet.leaves_of_fails hfails
  have hattempted := eval_standing hknown hrule.remembered hleaves hpq.standing
  have hlate : q.Standing later known policy keys q.scope.values := hpq.late.standing
  constructor
  · intro o ho
    -- The walk starts from where the attempt ended, which is no other place under the keys.
    rw [supervise_fst hpq.late.policy] at ho
    exact hrule.walked e _ q (.of_standing hattempted hlate)
      (fails_again hknown hrule.remembered hrule.contained hpq.standing hattempted hfails) o ho
  · exact .of_standing (classifyFailed_standing hknown hrule.remembered hleaves e hattempted)
      (supervise_standing hknown hrule.remembered hleaves hlate)

theorem classify (hknown : Guard.Dependable known) (hmore : ctx.ExtendedBy later)
    (hrule : rule.Foreseen ctx later known policy keys) :
    Work.Lockstep (Pass.Ahead ctx later known policy keys)
      (Pass.Ahead ctx later known policy keys)
      (fun f answer => ∀ o, answer = .ok o → f.SharpenedBy (.settled o.value?))
      (rule.classify ctx) (rule.supervise (rule.eval later)).run := by
  intro p q hpq
  unfold Rule.classify classifyBy
  rw [Work.run_bind]
  cases hnow : ((rule.eval ctx).run.run p).1 with
  | ok outcome =>
      obtain ⟨hagain, hthen⟩ := hrule.succeeds hknown hmore hpq hnow
      rw [hagain]
      cases outcome <;> exact ⟨fun _ ho => Except.ok.inj ho ▸ .refl _, hthen⟩
  | error e =>
      obtain ⟨hforetells, hthen⟩ := hrule.fails hknown hpq hnow
      exact ⟨fun o ho => (hforetells o ho).sharpened, hthen⟩

end Foreseen

theorem classifyFirst_sharpened (hknown : Guard.Dependable known) (hmore : ctx.ExtendedBy later)
    {rules : List GoalRule}
    (hrules : ∀ rule ∈ rules, rule.Foreseen ctx later known policy keys) {p q : Pass}
    (hpq : p.Ahead ctx later known policy keys q) {o : Outcome GoalSet}
    (hlater : ((evalFirst later rules).run.run q).1 = .ok o) :
    ((classifyFirst ctx rules).run p).1.SharpenedBy (.settled o.value?) := by
  induction rules generalizing p q with
  | nil =>
      cases hlater
      exact .refl Forecast.nothing
  | cons rule rest ih =>
      obtain ⟨hhead, hrest⟩ := List.forall_mem_cons.mp hrules
      unfold evalFirst at hlater
      rw [Eval.run_bind] at hlater
      unfold classifyFirst
      rw [Work.run_bind]
      cases hnow : ((rule.eval ctx).run.run p).1 with
      | ok outcome =>
          obtain ⟨hagain, hthen⟩ := hhead.succeeds hknown hmore hpq hnow
          rw [hagain] at hlater
          cases outcome with
          | matched goals =>
              cases hlater
              exact .refl (Forecast.certain goals)
          | noMatch => exact ih hrest hthen hlater
          | halt =>
              cases hlater
              exact .refl Forecast.nothing
      | error e =>
          obtain ⟨hforetells, hthen⟩ := hhead.fails hknown hpq hnow
          cases hgiven : ((rule.supervise (rule.eval later)).run.run q).1 with
          | error d =>
              rw [hgiven] at hlater
              cases hlater
          | ok outcome =>
              have hforetold := hforetells outcome hgiven
              rw [hgiven] at hlater
              cases outcome with
              | matched goals =>
                  cases hlater
                  exact hforetold.sharpened.orElse_head rfl _
              | noMatch => exact (ih hrest hthen hlater).orElse_tail _
              | halt =>
                  cases hlater
                  exact .nothing (Forecast.definite_orElse (hforetold.halt rfl) _)

end Rule

/-- Contributions in order come to what their forecasts, each made in its place, add up
to. -/
theorem Forecast.run_additive (steps : List (Work Forecast)) (f : Forecast) (lockPossible : Bool)
    (p : Pass) :
    ((additive f lockPossible steps).run p).1 =
      f.addUp lockPossible ((steps.mapM id).run p).1 := by
  induction steps generalizing f lockPossible p with
  | nil => rfl
  | cons step rest ih =>
      have hsteps : ((step :: rest).mapM id).run p =
          ((step.run p).1 :: ((rest.mapM id).run (step.run p).2).1,
            ((rest.mapM id).run (step.run p).2).2) := by
        rw [List.mapM_cons]
        rfl
      rw [hsteps]
      unfold additive
      rw [Work.run_bind]
      simp only [addUp]
      generalize (if lockPossible then (step.run p).1.demote else (step.run p).1) = next
      by_cases hlocks : next.locks = true
      · rw [if_pos hlocks, if_pos hlocks]
        rfl
      · rw [if_neg hlocks, if_neg hlocks]
        exact ih _ _ _

namespace Rule

theorem classifyEach_settle (hknown : Guard.Dependable known) (hmore : ctx.ExtendedBy later)
    {rules : List GoalRule}
    (hrules : ∀ rule ∈ rules, rule.Foreseen ctx later known policy keys) :
    Work.Lockstep (Pass.Ahead ctx later known policy keys)
      (Pass.Ahead ctx later known policy keys)
      (List.Forall₂ fun f answer => ∀ o, answer = .ok o → f.SharpenedBy (.settled o.value?))
      ((classifyEach ctx rules).mapM id) (Eval.settle (superviseEach later rules)) := by
  induction rules with
  | nil => exact Work.Lockstep.pure .nil
  | cons rule rest ih =>
      obtain ⟨hhead, hrest⟩ := List.forall_mem_cons.mp hrules
      unfold classifyEach superviseEach Eval.settle
      rw [List.mapM_cons]
      apply (hhead.classify hknown hmore).bind
      intro f answer hf
      apply (ih hrest).bind
      intro fs answers hfs
      exact Work.Lockstep.pure (.cons hf hfs)

theorem classifyEach_sharpened (hknown : Guard.Dependable known) (hmore : ctx.ExtendedBy later)
    {rules : List GoalRule}
    (hrules : ∀ rule ∈ rules, rule.Foreseen ctx later known policy keys) {p q : Pass}
    (hpq : p.Ahead ctx later known policy keys q) {outcomes : List (Outcome GoalSet)}
    (hlater : Eval.collect ((Eval.settle (superviseEach later rules)).run q).1 = .ok outcomes) :
    ((Forecast.additive .nothing false (classifyEach ctx rules)).run p).1.SharpenedBy
      (.settled (GoalSet.merge (outcomes.filterMap Outcome.value?))) := by
  obtain ⟨heach, _⟩ := classifyEach_settle hknown hmore hrules p q hpq
  rw [Eval.collect_eq_ok_iff.mp hlater, List.forall₂_map_right_iff] at heach
  rw [Forecast.run_additive]
  have hgiven : List.Forall₂ Forecast.SharpenedBy (((classifyEach ctx rules).mapM id).run p).1
      ((outcomes.map Outcome.value?).map Forecast.settled) := by
    rw [List.map_map, List.forall₂_map_right_iff]
    exact heach.imp fun f o hf => hf o rfl
  apply Forecast.SharpenedBy.addUp_joined hgiven
  rw [List.filterMap_map]
  exact GoalSet.joins_merge (outcomes.filterMap Outcome.value?)

theorem classifyEnriched_foretells (hknown : Guard.Dependable known)
    (hmore : ctx.ExtendedBy later) {name : String} {base extension : GoalRule}
    (hbase : base.Foreseen ctx later known policy keys)
    (hextension : extension.Foreseen ctx later known policy keys) {p q : Pass}
    (hpq : p.Ahead ctx later known policy keys q) {o : Outcome GoalSet}
    (hlater : (((enriched name base extension).eval later).run.run q).1 = .ok o) :
    ((Forecast.additive .nothing false [base.classify ctx, extension.classify ctx]).run
      p).1.Foretells o := by
  obtain ⟨hgiven, hthen⟩ := hbase.classify hknown hmore p q hpq
  obtain ⟨hadded, _⟩ := hextension.classify hknown hmore _ _ hthen
  rw [Forecast.run_additive]
  have hsteps : (([base.classify ctx, extension.classify ctx].mapM id).run p).1 =
      [((base.classify ctx).run p).1,
        ((extension.classify ctx).run ((base.classify ctx).run p).2).1] := by
    rw [List.mapM_cons, List.mapM_cons, List.mapM_nil]
    rfl
  rw [hsteps]
  unfold eval at hlater
  rw [Eval.run_bind] at hlater
  cases hfirst : ((base.supervise (base.eval later)).run.run q).1 with
  | error e =>
      rw [hfirst] at hlater
      cases hlater
  | ok given =>
      rw [hfirst] at hlater
      by_cases hclosed : closed given.value? = true
      · simp only [if_pos hclosed] at hlater
        cases hlater
        exact ofOption_foretold ((hgiven given hfirst).addUp_closed hclosed _)
      · simp only [if_neg hclosed] at hlater
        rw [Eval.run_bind] at hlater
        cases hsecond : ((extension.supervise (extension.eval later)).run.run
            ((base.supervise (base.eval later)).run.run q).2).1 with
        | error e =>
            rw [hsecond] at hlater
            cases hlater
        | ok added =>
            rw [hsecond] at hlater
            cases hlater
            have hjoins := GoalSet.joins_combine (Bool.eq_false_iff.mpr hclosed) added.value?
            apply ofOption_foretold
            apply Forecast.SharpenedBy.addUp_joined _ hjoins
            exact .cons (hgiven given hfirst) (.cons (hadded added hsecond) .nil)

theorem lookInto_foretells_run (name : String) (e : GoalError) {work : Work Forecast} {p : Pass}
    {o : Outcome GoalSet} (hwork : (work.run p).1.Foretells o) :
    (StateT.run (if !e.isInsufficientData then return .road name e.message else work) p).1.Foretells
      o := by
  by_cases hroad : (!e.isInsufficientData) = true
  · rw [if_pos hroad]
    exact .road name e.message o
  · rw [if_neg hroad]
    exact hwork

/-- A first-match sequence never gives a halt, so that its outlook leaves room for what
it gives. -/
theorem classifySequence_foretells (hknown : Guard.Dependable known)
    (hmore : ctx.ExtendedBy later) {rules : List GoalRule}
    (hrules : ∀ rule ∈ rules, rule.Foreseen ctx later known policy keys) {p q : Pass}
    (hpq : p.Ahead ctx later known policy keys q) {o : Outcome GoalSet}
    (hlater : policy.supervised ((evalFirst later rules).run.run q).1 = .ok o) :
    ((classifyFirst ctx rules).run p).1.Foretells o := by
  rw [supervised_of_runs hpq.late.policy evalFirst_runs] at hlater
  refine ⟨classifyFirst_sharpened hknown hmore hrules hpq hlater, ?_⟩
  intro hhalt
  rw [hhalt] at hlater
  exact absurd hlater (evalFirst_run_ne_halt rules q)

/-- A halt that could not be decided is an unknown road. -/
theorem classifyHalt_foretells (hknown : Guard.Dependable known) {guard : Guard}
    {reason : Option String} (hmem : guard.remembered ⊆ known)
    (hguard : guard.ShowsAhead ctx keys seen) {p : Pass}
    (hp : p.Standing ctx known .failFast keys values)
    (hfails : ∀ o, (((halting guard reason : GoalRule).eval ctx).run.run p).1 ≠ .ok o)
    (name : String) (o : Outcome GoalSet) :
    ((classifyGuard name guard ctx none).run p).1.Foretells o := by
  unfold classifyGuard
  rw [Work.run_bind, Work.run_bind]
  have hlogged : (StateT.run (modify (·.emit (.guardAlone name guard.name guard.cost)) :
      Work PUnit) p).2.Standing ctx known .failFast keys values :=
    ⟨⟨hp.faithful.policy, hp.faithful.caches⟩, hp.values⟩
  generalize (StateT.run (modify (·.emit (.guardAlone name guard.name guard.cost)) :
    Work PUnit) p).2 = q at hlogged ⊢
  cases hnow : ((guard.passes ctx).run.run q).1 with
  | error e =>
      by_cases hdata : e.isInsufficientData = true
      · simp only [if_pos hdata]
        exact .road name _ o
      · simp only [if_neg hdata]
        exact .road name _ o
  | ok passes =>
      -- The guard alone gives what it gave when the rule was evaluated.
      have hagain := Guard.passes_ahead hknown ctx.extendedBy_refl hmem hguard _ _
        (.of_standing hlogged hp)
      have hok := hagain.1 passes hnow
      refine absurd ?_ (hfails (if passes then .halt else .noMatch))
      unfold eval
      rw [Eval.run_bind, hok]
      cases passes <;> rfl

/-- Behind a hook the children are attempted together and then one by one. -/
theorem classifyChildren_foretells (hknown : Guard.Dependable known)
    (hmore : ctx.ExtendedBy later) {name : String} {children : List GoalRule}
    (hmem : rememberedAmong children ⊆ known) (hbehind : ContainedAmong ctx inside children)
    (hdiscreet : Discreet (NeverFails ctx) inside (.firstMatch name children))
    (hchildren : ∀ rule ∈ children, rule.Foreseen ctx later known policy inside) :
    Work.Foretells (Pass.Ahead ctx later known policy inside) policy
      (classifyBy (evalFirst ctx children) fun e =>
        if !e.isInsufficientData then return .road name e.message
        else classifyFirst ctx children)
      (evalFirst later children) := by
  have hsequence : (firstMatch name children : GoalRule).Contained ctx inside := hbehind
  have hremembered : (firstMatch name children : GoalRule).remembered ⊆ known := hmem
  intro p q hpq o hlater
  unfold classifyBy
  rw [Work.run_bind]
  cases hnow : ((evalFirst ctx children).run.run p).1 with
  | ok outcome =>
      obtain ⟨hagain, _⟩ := eval_foreruns hknown hmore hremembered hsequence p q hpq outcome hnow
      have hsame : o = outcome := by
        have hgiven : policy.supervised (.ok outcome) = .ok o := hagain ▸ hlater
        exact supervised_ok_inj hgiven
      subst hsame
      cases o with
      | matched goals => exact .certain goals
      | noMatch => exact .nothing
      | halt => exact absurd hnow (evalFirst_run_ne_halt children p)
  | error e =>
      have hfails : ∀ o,
          (((firstMatch name children : GoalRule).eval ctx).run.run p).1 ≠ .ok o := by
        intro o hok
        rw [show (((firstMatch name children : GoalRule).eval ctx).run.run p).1 = .error e
          from hnow] at hok
        cases hok
      have hattempted := eval_standing hknown hremembered (hdiscreet.leaves_of_fails hfails)
        hpq.standing
      apply lookInto_foretells_run
      exact classifySequence_foretells hknown hmore hchildren
        (.of_standing hattempted hpq.late.standing) hlater

/-- Walking the structure of a rule whose evaluation failed foretells what the rule gives
when more is known. -/
theorem classifyFailed_foretells (hknown : Guard.Dependable known) (hmore : ctx.ExtendedBy later)
    (hmem : rule.remembered ⊆ known) (hrule : rule.Contained ctx keys)
    (hleaves : rule.Every (Leaves keys)) (e : GoalError) (p q : Pass)
    (hpq : p.Ahead ctx later known policy keys q)
    (hfails : ∀ o, ((rule.eval ctx).run.run p).1 ≠ .ok o) (o : Outcome GoalSet)
    (hlater : policy.supervised ((rule.eval later).run.run q).1 = .ok o) :
    ((classifyFailed ctx e rule).run p).1.Foretells o := by
  have hmembers {rules : List GoalRule} {keys : Set String}
      (ih : ∀ rule ∈ rules, ∀ {keys : Set String}, rule.remembered ⊆ known →
        rule.Contained ctx keys → rule.Every (Leaves keys) → ∀ (e : GoalError) (p q : Pass),
          p.Ahead ctx later known policy keys q →
            (∀ o, ((rule.eval ctx).run.run p).1 ≠ .ok o) →
              ∀ o, policy.supervised ((rule.eval later).run.run q).1 = .ok o →
                ((classifyFailed ctx e rule).run p).1.Foretells o)
      (hmem : rememberedAmong rules ⊆ known) (hrules : ContainedAmong ctx keys rules)
      (hdiscreet : ∀ rule ∈ rules, rule.Discreet (NeverFails ctx) keys) :
      ∀ rule ∈ rules, rule.Foreseen ctx later known policy keys := by
    intro rule hrule
    have hwithin := remembered_of_mem hmem hrule
    have hcontained := containedAmong_iff.mp hrules rule hrule
    refine ⟨hwithin, hcontained, hdiscreet rule hrule, ?_⟩
    intro e p q hpq hfails
    exact ih rule hrule hwithin hcontained
      ((hdiscreet rule hrule).leaves_of_fails hfails) e p q hpq hfails
  have hpasses {guard : Guard} {keys seen : Set String} (hmem : guard.remembered ⊆ known)
      (hguard : guard.ShowsAhead ctx keys seen) :
      Work.Lockstep (Pass.Ahead ctx later known policy keys)
        (Pass.Ahead ctx later known policy seen) SuccessKept (guard.passes ctx).run
        (guard.passes later).run :=
    Guard.passes_ahead hknown hmore hmem hguard
  -- For all keys: behind a hook a part sees more of the scope than the rule around it.
  induction rule using Rule.induct generalizing keys e p q o with
  | fixed guard reason value =>
      obtain ⟨seen, hguard⟩ := hrule
      apply lookInto_foretells_run
      refine classifyGuard_foretells (hpasses hmem hguard) _ ?_ p q hpq o hlater
      intro p q _ o ho
      rw [supervised_ok_inj ho]
      exact .certain value
  | halting guard reason =>
      obtain ⟨seen, hguard⟩ := hrule
      apply lookInto_foretells_run
      exact classifyHalt_foretells hknown hmem hguard hpq.standing hfails _ o
  | computed key guard reason compute => exact .road _ _ o
  | firstMatch name rules ih =>
      apply lookInto_foretells_run
      exact classifySequence_foretells hknown hmore
        (hmembers ih hmem hrule fun rule hmem => .inr (everyAmong_iff.mp hleaves rule hmem)) hpq
        hlater
  | allMatches name contributors ih =>
      apply lookInto_foretells_run
      -- A composite does not fail in isolation, so that its own answer is what it gives.
      rw [supervised_of_runs hpq.late.policy allMatches_runs] at hlater
      unfold eval at hlater
      rw [Eval.run_bind, Eval.run_allSettled] at hlater
      cases houtcomes : Eval.collect ((Eval.settle (superviseEach later contributors)).run q).1 with
      | error d =>
          rw [houtcomes] at hlater
          cases hlater
      | ok outcomes =>
          rw [houtcomes] at hlater
          cases hlater
          apply ofOption_foretold
          exact classifyEach_sharpened hknown hmore (hmembers ih hmem hrule fun rule hmem =>
            .inr (everyAmong_iff.mp hleaves rule hmem)) hpq houtcomes
  | enriched name base extension ihBase ihExtension =>
      obtain ⟨hmemBase, hmemExtension⟩ := List.append_subset.mp hmem
      apply lookInto_foretells_run
      rw [supervised_of_runs hpq.late.policy enriched_runs] at hlater
      exact classifyEnriched_foretells hknown hmore
        ⟨hmemBase, hrule.1, .inr hleaves.1, ihBase hmemBase hrule.1 hleaves.1⟩
        ⟨hmemExtension, hrule.2, .inr hleaves.2, ihExtension hmemExtension hrule.2 hleaves.2⟩
        hpq hlater
  | leaf name guard hook value =>
      obtain ⟨seen, hguard, hbody⟩ := hrule
      apply lookInto_foretells_run
      refine classifyGuard_foretells (hpasses hmem hguard) name ?_ p q hpq o hlater
      apply classifyBody_foretells (runHook_foreruns hmore hbody)
      intro p q _ o ho
      rw [supervised_ok_inj ho]
      exact .certain value
  | branch name guard hook children ih =>
      obtain ⟨seen, inside, _, hguard, hbody, hchildren, hdiscreet⟩ := hrule
      obtain ⟨hmemGuard, hmemChildren⟩ := List.append_subset.mp hmem
      apply lookInto_foretells_run
      refine classifyGuard_foretells (hpasses hmemGuard hguard) name ?_ p q hpq o hlater
      apply classifyBody_foretells (runHook_foreruns hmore hbody)
      exact classifyChildren_foretells hknown hmore hmemChildren hchildren hdiscreet
        (hmembers ih hmemChildren hchildren fun rule hmem => hdiscreet.of_mem hmem)
  | mapped f inner ih => exact .road _ _ o
  | custom name cost run => exact .road _ _ o

end Rule

end PushGoals
