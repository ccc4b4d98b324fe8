import PushGoals.Proofs.Rule.Answer

/-!
# Evaluation gives the meaning

From a pass with truthful caches, a rule whose work does not hang on the scratch
evaluates to what it means under the policy of the pass, and the caches stay
truthful.  The rest of the pass may change: names are learned, failures are
recorded, hooks write into the scope; none of it is read again.

More may be asked of the passes than truthful caches, as long as evaluations uphold
it: the tests and the log, recorded failures, and the learning of names by rules that
compute what they answer.
-/

namespace PushGoals

variable {V : Type} {ctx : Context} {known : List Guard} {policy : FailurePolicy}
  {inv : Pass → Prop}

/-- Neither the log nor the record of an isolated failure can break the property, which
tells the policy of the pass. -/
structure Pass.Tame (policy : FailurePolicy) (inv : Pass → Prop) : Prop where
  policy : ∀ p, inv p → p.scope.policy = policy
  emit : ∀ p e, inv p → inv (p.emit e)
  isolate : ∀ p name e, inv p → inv ((Eval.isolate name e).run p).2

theorem Pass.Faithful.tame : Tame policy (Faithful ctx known policy) where
  policy _ hp := hp.policy
  emit _ _ hp := ⟨hp.policy, hp.caches⟩
  isolate _ _ _ hp := ⟨hp.policy, hp.caches⟩

/-- Evaluations under `policy` uphold the property: what is evaluated of guards and
hooks keeps it and gives its meaning, and a rule of `computing` may learn a name if it
answers. -/
structure Pass.Upheld [Contribution V] (ctx : Context) (known : List Guard)
    (policy : FailurePolicy) (computing : List (Rule V)) (inv : Pass → Prop) : Prop where
  tame : Tame policy inv
  probe : ∀ {α : Type} {work : Context → Probe α}, ScopeFree work →
    Eval.Gives inv (Eval.ofProbe (work ctx)) (work ctx).answer
  guard : ∀ {g : Guard}, g.Every ScopeFree → (∀ h ∈ g.remembered, h ∈ known) →
    Eval.Gives inv (g.passes ctx) (g.holds ctx)
  learn : ∀ {key : RuleKey} {g : Guard} {reason : Option String}
    {compute : Context → String → Probe (Option String × V)} {outcome : Outcome V},
    .computed key g reason compute ∈ computing →
      (Rule.computed key g reason compute).answer policy ctx = .ok outcome →
        ∀ name, Work.Yields inv (Eval.learn key name) fun _ => True

namespace Eval

variable {α : Type}

theorem attempt_gives {step : Eval α} {answer : Except GoalError α}
    (hstep : Gives inv step answer) : Gives inv (attempt step) (.ok answer) := by
  intro p hp
  have hrun := hstep p hp
  exact ⟨congrArg Except.ok hrun.1, hrun.2⟩

theorem learn_yields (key : RuleKey) (name : Option String) :
    Work.Yields (Pass.Faithful ctx known policy) (learn key name) (fun _ => True) := by
  cases name with
  | none => exact Work.Yields.pure trivial
  | some name => exact fun _ hp => ⟨trivial, hp.policy, hp.caches⟩

end Eval

theorem Rule.currentName_yields (rule : Rule V) :
    Work.Yields inv rule.currentName (fun _ => True) :=
  fun _ hp => ⟨trivial, hp⟩

theorem Rule.runHook_gives_of_probe {hook : Option Hook}
    (hwork : ∀ work, hook = some work →
      Eval.Gives inv (Eval.ofProbe (work ctx)) (work ctx).answer) :
    Eval.Gives inv (runHook hook ctx) (answerHook hook ctx) := by
  cases hook with
  | none => exact Eval.gives_ok ()
  | some work => exact hwork work rfl

namespace Pass.Tame

open Rule

theorem supervised_gives (htame : Tame policy inv) {name : Work String}
    {evaluation : Eval (Outcome V)} {answer : Except GoalError (Outcome V)}
    (hname : Work.Yields inv name (fun _ => True)) (heval : Eval.Gives inv evaluation answer) :
    Eval.Gives inv (Eval.supervised name evaluation) (policy.supervised answer) := by
  have hbind : Eval.Gives inv (Eval.supervised name evaluation)
      (Except.ok answer >>= policy.supervised) := by
    apply (Eval.attempt_gives heval).bind
    intro given hgiven
    cases hgiven
    cases answer with
    | ok outcome =>
        rw [policy.supervised_ok]
        simp only
        by_cases hmatched : outcome.isMatched = true
        · simp only [if_pos hmatched]
          apply Eval.gives_lift_bind hname
          intro called _
          apply Eval.gives_lift_bind (Work.yields_modify fun p hp => htame.emit p _ hp)
          exact fun _ _ => Eval.gives_ok outcome
        · simp only [if_neg hmatched]
          exact Eval.gives_ok outcome
    | error e =>
        apply Eval.gives_lift_bind Work.yields_get
        intro p hp
        rw [htame.policy p hp]
        cases policy with
        | failFast => exact Eval.gives_error e
        | isolateAndReport =>
            apply Eval.gives_lift_bind hname
            intro called _
            have hisolate : Work.Yields inv (Eval.isolate called e) fun _ => True :=
              fun p hp => ⟨trivial, htame.isolate p called e hp⟩
            exact Eval.gives_lift_bind hisolate fun _ _ => Eval.gives_ok Outcome.noMatch
  exact hbind

theorem supervise_gives (htame : Tame policy inv) (rule : Rule V)
    {evaluation : Eval (Outcome V)} {answer : Except GoalError (Outcome V)}
    (heval : Eval.Gives inv evaluation answer) :
    Eval.Gives inv (supervise rule evaluation) (policy.supervised answer) :=
  htame.supervised_gives (currentName_yields rule) heval

variable [Contribution V]

theorem evalFirst_gives (htame : Tame policy inv) {rules : List (Rule V)}
    (hrules : ∀ rule ∈ rules, Eval.Gives inv (rule.eval ctx) (rule.answer policy ctx)) :
    Eval.Gives inv (evalFirst ctx rules) (answerFirst policy ctx rules) := by
  induction rules with
  | nil => exact Eval.gives_ok Outcome.noMatch
  | cons rule rest ih =>
      obtain ⟨hhead, hrest⟩ := List.forall_mem_cons.mp hrules
      apply (htame.supervise_gives rule hhead).bind
      intro outcome _
      cases outcome with
      | matched value => exact Eval.gives_ok (Outcome.matched value)
      | noMatch => exact ih hrest
      | halt =>
          apply Eval.gives_lift_bind (currentName_yields rule)
          intro called _
          apply Eval.gives_lift_bind (Work.yields_modify fun p hp => htame.emit p _ hp)
          exact fun _ _ => Eval.gives_ok Outcome.noMatch

theorem superviseEach_gives (htame : Tame policy inv) {rules : List (Rule V)}
    (hrules : ∀ rule ∈ rules, Eval.Gives inv (rule.eval ctx) (rule.answer policy ctx)) :
    List.Forall₂ (Eval.Gives inv) (superviseEach ctx rules) (answerEach policy ctx rules) := by
  rw [superviseEach_eq_map, answerEach_eq_map, forall₂_map_map]
  exact fun rule hrule => htame.supervise_gives rule (hrules rule hrule)

end Pass.Tame

namespace Pass.Upheld

open Rule

variable [Contribution V] {computing : List (Rule V)}

theorem runHook_gives (hinv : Upheld ctx known policy computing inv) {hook : Option Hook}
    (hfree : ∀ work, hook = some work → ScopeFree work) :
    Eval.Gives inv (runHook hook ctx) (answerHook hook ctx) :=
  runHook_gives_of_probe fun work hwork => hinv.probe (hfree work hwork)

/-- Where evaluations uphold a property, a rule evaluates to its meaning. -/
theorem eval_gives (hinv : Upheld ctx known policy computing inv) {rule : Rule V}
    (hfree : rule.Every ScopeFree) (hknown : ∀ g ∈ rule.remembered, g ∈ known)
    (hcomputing : ∀ inner ∈ rule.computations, inner ∈ computing) :
    Eval.Gives inv (rule.eval ctx) (rule.answer policy ctx) := by
  have hmembers {rules : List (Rule V)}
      (ih : ∀ rule ∈ rules, rule.Every ScopeFree → (∀ g ∈ rule.remembered, g ∈ known) →
        (∀ inner ∈ rule.computations, inner ∈ computing) →
          Eval.Gives inv (rule.eval ctx) (rule.answer policy ctx))
      (hrules : EveryAmong ScopeFree rules)
      (hmem : ∀ g ∈ rememberedAmong rules, g ∈ known)
      (hinner : ∀ inner ∈ computationsAmong rules, inner ∈ computing) :
      ∀ rule ∈ rules, Eval.Gives inv (rule.eval ctx) (rule.answer policy ctx) :=
    fun rule hrule =>
      ih rule hrule (everyAmong_iff.mp hrules rule hrule) (remembered_of_mem hmem hrule)
        (computations_of_mem hinner hrule)
  induction rule using Rule.induct with
  | fixed guard reason value =>
      apply (hinv.guard hfree hknown).bind
      intro passes _
      cases passes with
      | false => exact Eval.gives_ok Outcome.noMatch
      | true => exact Eval.gives_ok (Outcome.matched value)
  | halting guard reason =>
      apply (hinv.guard hfree hknown).bind
      intro passes _
      cases passes with
      | false => exact Eval.gives_ok Outcome.noMatch
      | true => exact Eval.gives_ok Outcome.halt
  | computed key guard reason compute =>
      apply (hinv.guard hfree.1 hknown).bind
      intro passes hpasses
      cases passes with
      | false => exact Eval.gives_ok Outcome.noMatch
      | true =>
          apply (hinv.probe (hfree.2 _)).bind
          intro given hgiven
          have hanswer : (computed key guard reason compute).answer policy ctx =
              .ok (.matched given.2) := by
            rw [answer, hpasses]
            change (compute ctx (statedName guard reason)).answer >>= _ = _
            rw [hgiven]
            rfl
          have hmem := hcomputing _ (List.mem_singleton.mpr rfl)
          apply Eval.gives_lift_bind (hinv.learn hmem hanswer given.1)
          exact fun _ _ => Eval.gives_ok (Outcome.matched given.2)
  | firstMatch name rules ih =>
      exact hinv.tame.evalFirst_gives (hmembers ih hfree hknown hcomputing)
  | allMatches name contributors ih =>
      have heach := hinv.tame.superviseEach_gives (hmembers ih hfree hknown hcomputing)
      exact (Eval.allSettled_gives heach).bind fun _ _ => Eval.gives_ok _
  | enriched name base extension ihBase ihExtension =>
      obtain ⟨hbase, hextension⟩ := List.forall_mem_append.mp hknown
      obtain ⟨hinBase, hinExtension⟩ := List.forall_mem_append.mp hcomputing
      apply (hinv.tame.supervise_gives base (ihBase hfree.1 hbase hinBase)).bind
      intro given _
      by_cases hclosed : closed given.value? = true
      · simp only [if_pos hclosed]
        exact Eval.gives_ok _
      · simp only [if_neg hclosed]
        exact (hinv.tame.supervise_gives extension
          (ihExtension hfree.2 hextension hinExtension)).bind fun _ _ => Eval.gives_ok _
  | leaf name guard hook value =>
      apply (hinv.guard hfree.1 hknown).bind
      intro passes _
      cases passes with
      | false => exact Eval.gives_ok Outcome.noMatch
      | true => exact (hinv.runHook_gives hfree.2).bind fun _ _ => Eval.gives_ok _
  | branch name guard hook children ih =>
      obtain ⟨hguard, hchildren⟩ := List.forall_mem_append.mp hknown
      apply (hinv.guard hfree.1 hguard).bind
      intro passes _
      cases passes with
      | false => exact Eval.gives_ok Outcome.noMatch
      | true =>
          apply (hinv.runHook_gives hfree.2.1).bind
          exact fun _ _ =>
            hinv.tame.evalFirst_gives (hmembers ih hfree.2.2 hchildren hcomputing)
  | mapped f inner ih => exact (ih hfree hknown hcomputing).map _
  | custom name cost run => exact hinv.probe hfree

end Pass.Upheld

/-! ## Passes with truthful caches -/

theorem Pass.Faithful.upheld [Contribution V] (hnames : Guard.SameNamed known)
    (computing : List (Rule V)) :
    Upheld ctx known policy computing (Faithful ctx known policy) where
  tame := tame
  probe hwork := Eval.ofProbe_gives hwork ctx
  guard hfree hknown := Guard.passes_gives hfree hnames hknown
  learn _ _ name := Eval.learn_yields _ name

namespace Rule

theorem supervise_gives (rule : Rule V) {evaluation : Eval (Outcome V)}
    {answer : Except GoalError (Outcome V)}
    (heval : Eval.Gives (Pass.Faithful ctx known policy) evaluation answer) :
    Eval.Gives (Pass.Faithful ctx known policy) (supervise rule evaluation)
      (policy.supervised answer) :=
  Pass.Faithful.tame.supervise_gives rule heval

theorem runHook_gives {hook : Option Hook} (hfree : ∀ work, hook = some work → ScopeFree work)
    (ctx : Context) :
    Eval.Gives (Pass.Faithful ctx known policy) (runHook hook ctx) (answerHook hook ctx) :=
  runHook_gives_of_probe fun work hwork => Eval.ofProbe_gives (hfree work hwork) ctx

variable [Contribution V]

theorem evalFirst_gives {rules : List (Rule V)}
    (hrules : ∀ rule ∈ rules,
      Eval.Gives (Pass.Faithful ctx known policy) (rule.eval ctx) (rule.answer policy ctx)) :
    Eval.Gives (Pass.Faithful ctx known policy) (evalFirst ctx rules)
      (answerFirst policy ctx rules) :=
  Pass.Faithful.tame.evalFirst_gives hrules

theorem superviseEach_gives {rules : List (Rule V)}
    (hrules : ∀ rule ∈ rules,
      Eval.Gives (Pass.Faithful ctx known policy) (rule.eval ctx) (rule.answer policy ctx)) :
    List.Forall₂ (Eval.Gives (Pass.Faithful ctx known policy)) (superviseEach ctx rules)
      (answerEach policy ctx rules) :=
  Pass.Faithful.tame.superviseEach_gives hrules

/-- From truthful caches a rule evaluates to its meaning. -/
theorem eval_gives {rule : Rule V} (hfree : rule.Every ScopeFree)
    (hnames : Guard.SameNamed known) (hknown : ∀ g ∈ rule.remembered, g ∈ known) :
    Eval.Gives (Pass.Faithful ctx known policy) (rule.eval ctx) (rule.answer policy ctx) :=
  (Pass.Faithful.upheld hnames rule.computations).eval_gives hfree hknown fun _ hinner => hinner

end Rule

end PushGoals
