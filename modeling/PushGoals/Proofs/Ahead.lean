import PushGoals.Proofs.Decision
import PushGoals.Proofs.Rule.Failure
import PushGoals.Proofs.Visibility

/-!
# Passes that run ahead

A pass that predicts runs ahead of the one in which the same push is decided once more
of it is known.  A step foreruns another when the first, should it succeed, tells
what the second gives, and leaves the passes related.

The scope may be asked for what nodes have put into it, as long as the two passes
agree on that: a rule is contained when its work sees keys on which they agree, and
those that are shown on the way to it.  Such a rule foreruns itself.
-/

namespace PushGoals

variable {α β : Type} {R S T : Pass → Pass → Prop} {keys seen inside : Set String}
  {ctx later : Context} {known : List Guard} {policy : FailurePolicy}

/-- From passes in `R`, if the first step succeeds, so does the second with the same
result, and the passes are in `S`. -/
def Eval.Foreruns (R S : Pass → Pass → Prop) (step again : Eval α) : Prop :=
  ∀ p q, R p q → ∀ a, (step.run.run p).1 = .ok a →
    (again.run.run q).1 = .ok a ∧ S (step.run.run p).2 (again.run.run q).2

namespace Eval

/-- What a step that succeeded gives, and what else it did, as a member of a rule set. -/
theorem run_supervised_ok {V : Type} {name : Work String} (hname : ∀ p, (name.run p).2 = p)
    {step : Eval (Outcome V)} {p : Pass} {outcome : Outcome V}
    (hok : (step.run.run p).1 = .ok outcome) :
    (supervised name step).run.run p =
      (.ok outcome,
        if outcome.isMatched then
          (step.run.run p).2.emit (.ruleMatched (name.run (step.run.run p).2).1)
        else (step.run.run p).2) := by
  have hattempt : (attempt step).run.run p = (.ok (step.run.run p).1, (step.run.run p).2) := rfl
  unfold supervised
  rw [run_bind, hattempt, hok]
  by_cases hmatched : outcome.isMatched = true
  · simp only [if_pos hmatched]
    change (Except.ok outcome, (name.run (step.run.run p).2).2.emit _) = _
    rw [hname]
    rfl
  · simp only [if_neg hmatched]
    rfl

theorem run_supervised_error {V : Type} (name : Work String) {step : Eval (Outcome V)}
    {p : Pass} {e : GoalError} (herror : (step.run.run p).1 = .error e)
    (hpolicy : (step.run.run p).2.scope.policy = .failFast) :
    (supervised name step).run.run p = (.error e, (step.run.run p).2) := by
  have hattempt : (attempt step).run.run p = (.ok (step.run.run p).1, (step.run.run p).2) := rfl
  unfold supervised
  rw [run_bind, hattempt, herror]
  generalize (step.run.run p).2 = after at hpolicy ⊢
  obtain ⟨engine, policy, values, failures⟩ := after
  cases hpolicy
  rfl

/-- What a step gives as a member of a rule set. -/
theorem supervised_fst {V : Type} (name : Work String) (step : Eval (Outcome V)) (p : Pass) :
    ((supervised name step).run.run p).1 =
      (step.run.run p).2.scope.policy.supervised (step.run.run p).1 := by
  have hattempt : (attempt step).run.run p = (.ok (step.run.run p).1, (step.run.run p).2) := rfl
  unfold supervised
  rw [run_bind, hattempt]
  cases hanswer : (step.run.run p).1 with
  | ok outcome =>
      rw [FailurePolicy.supervised_ok]
      by_cases hmatched : outcome.isMatched = true
      · simp only [if_pos hmatched]
        rfl
      · simp only [if_neg hmatched]
        rfl
  | error e =>
      generalize (step.run.run p).2 = after
      obtain ⟨engine, policy, values, failures⟩ := after
      cases policy <;> rfl

namespace Foreruns

theorem of_lockstep {step again : Eval α}
    (hstep : Work.Lockstep R S SuccessKept step.run again.run) : Foreruns R S step again :=
  fun p q hpq a ha => ⟨(hstep p q hpq).1 a ha, (hstep p q hpq).2⟩

theorem ok (hRS : R ≤ S) (a : α) : Foreruns R S (pure a) (pure a) :=
  fun p q hpq _ hok => ⟨hok, hRS p q hpq⟩

theorem mono {R' S' : Pass → Pass → Prop} {step again : Eval α} (hstep : Foreruns R S step again)
    (hR : R' ≤ R) (hS : S ≤ S') : Foreruns R' S' step again := by
  intro p q hpq a ha
  obtain ⟨hagain, hthen⟩ := hstep p q (hR p q hpq) a ha
  exact ⟨hagain, hS _ _ hthen⟩

theorem bind {step again : Eval α} {next nextAgain : α → Eval β}
    (hstep : Foreruns R S step again) (hnext : ∀ a, Foreruns S T (next a) (nextAgain a)) :
    Foreruns R T (step >>= next) (again >>= nextAgain) := by
  intro p q hpq b hb
  rw [run_bind] at hb
  rw [run_bind, run_bind]
  cases hgiven : (step.run.run p).1 with
  | error e =>
      rw [hgiven] at hb
      cases hb
  | ok a =>
      obtain ⟨hagain, hthen⟩ := hstep p q hpq a hgiven
      rw [hgiven] at hb
      rw [hagain]
      exact hnext a _ _ hthen b hb

theorem map {step again : Eval α} (hstep : Foreruns R S step again) (f : α → β) :
    Foreruns R S (do let x ← step; return f x) (do let x ← again; return f x) :=
  hstep.bind fun a => ok (le_refl S) (f a)

theorem allSettled {steps again : List (Eval α)}
    (hsteps : List.Forall₂ (Foreruns R R) steps again) :
    Foreruns R R (allSettled steps) (allSettled again) := by
  intro p q hpq as has
  rw [run_allSettled] at has
  rw [run_allSettled, run_allSettled]
  induction hsteps generalizing p q as with
  | nil => exact ⟨has, hpq⟩
  | @cons step later steps again hstep _ ih =>
      rw [run_settle_cons] at has
      rw [run_settle_cons, run_settle_cons]
      cases hgiven : (step.run.run p).1 with
      | error e =>
          rw [hgiven] at has
          cases has
      | ok a =>
          obtain ⟨hlater, hthen⟩ := hstep p q hpq a hgiven
          rw [hgiven] at has
          obtain ⟨rest, hrest, rfl⟩ := ok_of_map has
          obtain ⟨hagain, hend⟩ := ih _ _ hthen rest hrest
          simp only at hagain hend ⊢
          rw [hlater, Eval.collect, hagain]
          exact ⟨rfl, hend⟩

end Foreruns

end Eval

/-! ## Guards ahead -/

/-- What tests that are remembered are held to: they keep off the scope, what they know
they keep, and those of one name are the same test. -/
structure Guard.Dependable (known : List Guard) : Prop where
  detached : ∀ guard ∈ known, guard.Every Detached
  stable : ∀ guard ∈ known, guard.Every Stable
  sameNamed : Guard.SameNamed known
  within : ∀ guard ∈ known, guard.remembered ⊆ known

theorem Guard.Dependable.memorable (hknown : Guard.Dependable known) : Guard.Memorable known where
  scopeFree guard hguard := (hknown.detached guard hguard).imp fun hwork => hwork.scopeFree
  sameNamed := hknown.sameNamed
  within := hknown.within

/-- A pass that predicts for `ctx` and one that decides for `later`; the scopes agree on
`keys`. -/
structure Pass.Ahead (ctx later : Context) (known : List Guard) (policy : FailurePolicy)
    (keys : Set String) (p q : Pass) : Prop where
  early : p.Faithful ctx known .failFast
  late : q.Faithful later known policy
  values : p.scope.values.AgreeOn keys q.scope.values

namespace Pass.Ahead

theorem mono (hkeys : keys ⊆ seen) :
    Pass.Ahead ctx later known policy seen ≤ Pass.Ahead ctx later known policy keys :=
  fun _ _ hpq => ⟨hpq.early, hpq.late, hpq.values.mono hkeys⟩

theorem emit {p q : Pass} {e d : Event} (hpq : p.Ahead ctx later known policy keys q) :
    (p.emit e).Ahead ctx later known policy keys (q.emit d) :=
  ⟨⟨hpq.early.policy, hpq.early.caches⟩, ⟨hpq.late.policy, hpq.late.caches⟩, hpq.values⟩

end Pass.Ahead

theorem Eval.ofProbe_ahead {probe again : Probe α}
    (hprobe : probe.Shows SuccessKept keys seen again) :
    Work.Lockstep (Pass.Ahead ctx later known policy keys)
      (Pass.Ahead ctx later known policy seen) SuccessKept (Eval.ofProbe probe).run
      (Eval.ofProbe again).run := by
  intro p q hpq
  obtain ⟨hanswer, hvalues⟩ := hprobe p.scratch
    q.scratch hpq.values
  exact ⟨hanswer, ⟨hpq.early.policy, hpq.early.caches⟩, ⟨hpq.late.policy, hpq.late.caches⟩,
    hvalues⟩

theorem Guard.Dependable.memoized_gives (hknown : Guard.Dependable known) {guard : Guard}
    (hguard : guard ∈ known) (ref : CacheRef) :
    Eval.Gives (Pass.Faithful ctx known policy)
      (Eval.memoized ctx ref guard.name (guard.eval ctx)) (guard.answer ctx) :=
  hknown.memorable.memoized_gives hguard ref

theorem Guard.rememberedLockstep_ahead (hknown : Guard.Dependable known)
    (hmore : ctx.ExtendedBy later) {guards : List Guard} (hguards : guards ⊆ known) :
    Guard.RememberedLockstep SuccessKept ctx later (Pass.Ahead ctx later known policy)
      guards := by
  intro ref guard hguard keys _ p q hpq
  have hmem := hguards hguard
  have hdetached := hknown.detached guard hmem
  obtain ⟨hanswer, hearly⟩ := hknown.memoized_gives hmem ref p hpq.early
  obtain ⟨hagain, hlate⟩ := hknown.memoized_gives hmem ref q hpq.late
  refine ⟨?_, hearly, hlate, ?_⟩
  · rw [hanswer, hagain]
    exact Guard.answer_related ctx later SuccessKept.compositional
      (fun hstable => (hstable ctx later hmore).success) (hknown.stable guard hmem)
  · rw [Guard.memoized_values hdetached ref p, Guard.memoized_values hdetached ref q]
    exact hpq.values

theorem Context.extendedBy_refl (ctx : Context) : ctx.ExtendedBy ctx := by
  constructor <;> exact fun _ ha => ha

/-- Whatever becomes known of the push, the guard sees `keys` and shows `seen`. -/
def Guard.ShowsAhead (ctx : Context) (keys seen : Set String) (guard : Guard) : Prop :=
  ∀ later, ctx.ExtendedBy later → guard.Shows SuccessKept ctx later keys seen

theorem Guard.ShowsAhead.subset {guard : Guard} (hguard : guard.ShowsAhead ctx keys seen) :
    keys ⊆ seen :=
  (hguard ctx ctx.extendedBy_refl).subset

theorem Guard.passes_ahead (hknown : Guard.Dependable known) (hmore : ctx.ExtendedBy later)
    {guard : Guard} (hmem : guard.remembered ⊆ known) (hguard : guard.ShowsAhead ctx keys seen) :
    Work.Lockstep (Pass.Ahead ctx later known policy keys)
      (Pass.Ahead ctx later known policy seen) SuccessKept (guard.passes ctx).run
      (guard.passes later).run := by
  have heval : Work.Lockstep (Pass.Ahead ctx later known policy keys)
      (Pass.Ahead ctx later known policy seen) SuccessKept (guard.eval ctx).run
      (guard.eval later).run :=
    Guard.eval_shows SuccessKept.compositional Pass.Ahead.mono Eval.ofProbe_ahead
      (Guard.rememberedLockstep_ahead hknown hmore hmem) (hguard later hmore)
  exact Eval.map_lockstep SuccessKept.compositional heval Outcome.passes

/-! ## Rules ahead -/

/-- From scopes that agree on `keys`, if the first probe succeeds, so does the second,
and the scopes agree on `seen`. -/
def Probe.Foreruns (keys seen : Set String) (probe again : Probe α) : Prop :=
  ∀ s t : Scratch, s.values.AgreeOn keys t.values → ∀ a, (probe.run s).1 = .ok a →
    (again.run t).1 = .ok a ∧ (probe.run s).2.values.AgreeOn seen (again.run t).2.values

theorem Eval.ofProbe_foreruns {probe again : Probe α} (hprobe : probe.Foreruns keys seen again) :
    Eval.Foreruns (Pass.Ahead ctx later known policy keys)
      (Pass.Ahead ctx later known policy seen) (Eval.ofProbe probe) (Eval.ofProbe again) := by
  intro p q hpq a ha
  obtain ⟨hagain, hvalues⟩ := hprobe p.scratch
    q.scratch hpq.values a ha
  exact ⟨hagain, ⟨hpq.early.policy, hpq.early.caches⟩, ⟨hpq.late.policy, hpq.late.caches⟩,
    hvalues⟩

/-- The work never fails for `ctx`. -/
def NeverFails (ctx : Context) (work : Context → Probe α) : Prop :=
  ∀ scratch, ∃ a, ((work ctx).run scratch).1 = .ok a

theorem succeeds_compositional :
    Compositional fun {α : Type} (answer _ : Except GoalError α) => ∃ a, answer = .ok a where
  ok a := ⟨a, rfl⟩
  bind := by
    rintro _ _ _ _ _ _ ⟨a, rfl⟩ hnext
    exact hnext a rfl

namespace Rule

variable {V : Type}

def HookForeruns (ctx : Context) (keys inside : Set String) : Option Hook → Prop
  | none => inside ⊆ keys
  | some work => ∀ later, ctx.ExtendedBy later → (work ctx).Foreruns keys inside (work later)

theorem runHook_foreruns (hmore : ctx.ExtendedBy later) {hook : Option Hook}
    (hhook : HookForeruns ctx keys inside hook) :
    Eval.Foreruns (Pass.Ahead ctx later known policy keys)
      (Pass.Ahead ctx later known policy inside) (runHook hook ctx) (runHook hook later) := by
  cases hook with
  | none => exact Eval.Foreruns.ok (Pass.Ahead.mono hhook) ()
  | some work => exact Eval.ofProbe_foreruns (hhook later hmore)

mutual

/-- Work in the rule sees `keys` and what is shown on the way to it; what stands behind
a hook and may fail leaves all of that alone. -/
def Contained (ctx : Context) : Set String → Rule V → Prop
  | keys, .fixed guard _ _ => ∃ seen, guard.ShowsAhead ctx keys seen
  | keys, .halting guard _ => ∃ seen, guard.ShowsAhead ctx keys seen
  | keys, .computed _ guard reason compute =>
      ∃ seen, guard.ShowsAhead ctx keys seen ∧
        ∀ later, ctx.ExtendedBy later → (compute ctx (statedName guard reason)).Foreruns seen keys
          (compute later (statedName guard reason))
  | keys, .firstMatch _ rules => ContainedAmong ctx keys rules
  | keys, .allMatches _ contributors => ContainedAmong ctx keys contributors
  | keys, .enriched _ base extension => Contained ctx keys base ∧ Contained ctx keys extension
  | keys, .leaf _ guard hook _ =>
      ∃ seen, guard.ShowsAhead ctx keys seen ∧ HookForeruns ctx seen keys hook
  | keys, .branch name guard hook children =>
      ∃ seen inside, keys ⊆ inside ∧ guard.ShowsAhead ctx keys seen ∧
        HookForeruns ctx seen inside hook ∧ ContainedAmong ctx inside children ∧
        Discreet (NeverFails ctx) inside (.firstMatch name children)
  | keys, .mapped _ inner => Contained ctx keys inner
  | keys, .custom _ _ run =>
      ∀ later, ctx.ExtendedBy later → (run ctx).Foreruns keys keys (run later)

def ContainedAmong (ctx : Context) : Set String → List (Rule V) → Prop
  | _, [] => True
  | keys, rule :: rest => Contained ctx keys rule ∧ ContainedAmong ctx keys rest

end

@[simp] theorem containedAmong_iff {rules : List (Rule V)} :
    ContainedAmong ctx keys rules ↔ ∀ rule ∈ rules, rule.Contained ctx keys := by
  induction rules with
  | nil => simp [ContainedAmong]
  | cons rule rest ih => simp [ContainedAmong, ih]

variable [Contribution V]

/-- A member of a rule set foreruns itself as it does by itself: the early pass is one
in which a failure ends all. -/
theorem supervise_foreruns {rule : Rule V}
    (hrule : Eval.Foreruns (Pass.Ahead ctx later known policy keys)
      (Pass.Ahead ctx later known policy keys) (rule.eval ctx) (rule.eval later)) :
    Eval.Foreruns (Pass.Ahead ctx later known policy keys)
      (Pass.Ahead ctx later known policy keys) (rule.supervise (rule.eval ctx))
      (rule.supervise (rule.eval later)) := by
  intro p q hpq outcome houtcome
  have hok : ((rule.eval ctx).run.run p).1 = .ok outcome := by
    unfold supervise at houtcome
    rw [Eval.supervised_fst, rule.eval_policy, hpq.early.policy] at houtcome
    exact houtcome
  obtain ⟨hagain, hthen⟩ := hrule p q hpq outcome hok
  unfold supervise
  rw [Eval.run_supervised_ok (fun _ => rfl) hok, Eval.run_supervised_ok (fun _ => rfl) hagain]
  refine ⟨rfl, ?_⟩
  by_cases hmatched : outcome.isMatched = true
  · simp only [if_pos hmatched]
    exact hthen.emit
  · simp only [if_neg hmatched]
    exact hthen

theorem evalFirst_foreruns {rules : List (Rule V)}
    (hrules : ∀ rule ∈ rules, Eval.Foreruns (Pass.Ahead ctx later known policy keys)
      (Pass.Ahead ctx later known policy keys) (rule.eval ctx) (rule.eval later)) :
    Eval.Foreruns (Pass.Ahead ctx later known policy keys)
      (Pass.Ahead ctx later known policy keys) (evalFirst ctx rules) (evalFirst later rules) := by
  induction rules with
  | nil => exact Eval.Foreruns.ok (le_refl _) Outcome.noMatch
  | cons rule rest ih =>
      obtain ⟨hhead, hrest⟩ := List.forall_mem_cons.mp hrules
      apply (supervise_foreruns hhead).bind
      intro outcome
      cases outcome with
      | matched value => exact Eval.Foreruns.ok (le_refl _) (Outcome.matched value)
      | noMatch => exact ih hrest
      | halt => exact fun p q hpq _ hok => ⟨hok, hpq.emit⟩

theorem eval_foreruns (hknown : Guard.Dependable known) (hmore : ctx.ExtendedBy later)
    {rule : Rule V} (hmem : rule.remembered ⊆ known) (hrule : rule.Contained ctx keys) :
    Eval.Foreruns (Pass.Ahead ctx later known policy keys)
      (Pass.Ahead ctx later known policy keys) (rule.eval ctx) (rule.eval later) := by
  have hpasses {guard : Guard} {keys seen : Set String} (hmem : guard.remembered ⊆ known)
      (hguard : guard.ShowsAhead ctx keys seen) :
      Eval.Foreruns (Pass.Ahead ctx later known policy keys)
        (Pass.Ahead ctx later known policy seen) (guard.passes ctx) (guard.passes later) :=
    .of_lockstep (Guard.passes_ahead hknown hmore hmem hguard)
  have hmembers {rules : List (Rule V)} {keys : Set String}
      (ih : ∀ rule ∈ rules, ∀ {keys : Set String}, rule.remembered ⊆ known →
        rule.Contained ctx keys → Eval.Foreruns (Pass.Ahead ctx later known policy keys)
          (Pass.Ahead ctx later known policy keys) (rule.eval ctx) (rule.eval later))
      (hmem : rememberedAmong rules ⊆ known) (hrules : ContainedAmong ctx keys rules) :
      ∀ rule ∈ rules, Eval.Foreruns (Pass.Ahead ctx later known policy keys)
        (Pass.Ahead ctx later known policy keys) (rule.eval ctx) (rule.eval later) :=
    fun rule hrule => ih rule hrule (remembered_of_mem hmem hrule)
      (containedAmong_iff.mp hrules rule hrule)
  induction rule using Rule.induct generalizing keys with
  | fixed guard reason value =>
      obtain ⟨seen, hguard⟩ := hrule
      apply (hpasses hmem hguard).bind
      intro passes
      cases passes <;> exact Eval.Foreruns.ok (Pass.Ahead.mono hguard.subset) _
  | halting guard reason =>
      obtain ⟨seen, hguard⟩ := hrule
      apply (hpasses hmem hguard).bind
      intro passes
      cases passes <;> exact Eval.Foreruns.ok (Pass.Ahead.mono hguard.subset) _
  | computed key guard reason compute =>
      obtain ⟨seen, hguard, hcompute⟩ := hrule
      apply (hpasses hmem hguard).bind
      intro passes
      cases passes with
      | false => exact Eval.Foreruns.ok (Pass.Ahead.mono hguard.subset) Outcome.noMatch
      | true =>
          apply (Eval.ofProbe_foreruns (hcompute later hmore)).bind
          rintro ⟨name, value⟩
          cases name with
          | none => exact Eval.Foreruns.ok (le_refl _) (Outcome.matched value)
          | some name =>
              exact fun p q hpq _ hok => ⟨hok, ⟨hpq.early.policy, hpq.early.caches⟩,
                ⟨hpq.late.policy, hpq.late.caches⟩, hpq.values⟩
  | firstMatch name rules ih => exact evalFirst_foreruns (hmembers ih hmem hrule)
  | allMatches name contributors ih =>
      have heach : List.Forall₂ (Eval.Foreruns (Pass.Ahead ctx later known policy keys)
          (Pass.Ahead ctx later known policy keys)) (superviseEach ctx contributors)
          (superviseEach later contributors) := by
        rw [superviseEach_eq_map, superviseEach_eq_map]
        exact forall₂_map_map.mpr fun rule hmember =>
          supervise_foreruns (hmembers ih hmem hrule rule hmember)
      exact (Eval.Foreruns.allSettled heach).map _
  | enriched name base extension ihBase ihExtension =>
      obtain ⟨hbase, hextension⟩ := List.append_subset.mp hmem
      apply (supervise_foreruns (ihBase hbase hrule.1)).bind
      intro given
      by_cases hclosed : closed given.value? = true
      · simp only [if_pos hclosed]
        exact Eval.Foreruns.ok (le_refl _) _
      · simp only [if_neg hclosed]
        exact (supervise_foreruns (ihExtension hextension hrule.2)).map _
  | leaf name guard hook value =>
      obtain ⟨seen, hguard, hbody⟩ := hrule
      apply (hpasses hmem hguard).bind
      intro passes
      cases passes with
      | false => exact Eval.Foreruns.ok (Pass.Ahead.mono hguard.subset) Outcome.noMatch
      | true => exact (runHook_foreruns hmore hbody).map _
  | branch name guard hook children ih =>
      obtain ⟨seen, inside, hinside, hguard, hbody, hchildren, _⟩ := hrule
      obtain ⟨hmemGuard, hmemChildren⟩ := List.append_subset.mp hmem
      apply (hpasses hmemGuard hguard).bind
      intro passes
      cases passes with
      | false => exact Eval.Foreruns.ok (Pass.Ahead.mono hguard.subset) Outcome.noMatch
      | true =>
          have hbehind := evalFirst_foreruns (hmembers ih hmemChildren hchildren)
          exact (runHook_foreruns hmore hbody).bind fun _ =>
            hbehind.mono (le_refl _) (Pass.Ahead.mono hinside)
  | mapped f inner ih => exact (ih hmem hrule).map _
  | custom name cost run => exact Eval.ofProbe_foreruns (hrule later hmore)

end Rule

end PushGoals
