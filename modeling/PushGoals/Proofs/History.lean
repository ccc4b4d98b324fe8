import PushGoals.Proofs.Frame
import PushGoals.Proofs.Guard.Formula
import PushGoals.Proofs.Recording
import PushGoals.Proofs.Replay

/-!
# What earlier calls leave behind

An engine outlives its calls.  What a call for another push leaves in it are cache
entries that are never read for this one, counts and log entries, which nothing
reads, and names: a rule that computes a goal set is called by that set's name from
then on.  So two histories of such calls lead to the same answers, up to the names
that rules go by; and to wholly the same answers when no computation brings a name.
-/

namespace PushGoals

/-- A call on a decider. -/
inductive Call where
  | decide (ctx : Context)
  | predict (ctx : Context)

namespace Call

def context : Call → Context
  | .decide ctx => ctx
  | .predict ctx => ctx

/-- The call is for another push than that of `ctx`, or for one that is not known. -/
def Foreign (ctx : Context) (call : Call) : Prop :=
  ∀ id, call.context.id = some id → ctx.id ≠ some id

end Call

namespace Decider

/-- The engine that a call leaves. -/
def after (decider : Decider) (engine : Engine) : Call → Engine
  | .decide ctx => ((decider.decide ctx).run engine).2
  | .predict ctx => ((decider.predict ctx).run engine).2

def afterAll (decider : Decider) (engine : Engine) (calls : List Call) : Engine :=
  calls.foldl decider.after engine

end Decider

/-- No computation brings a name along. -/
def Rule.Nameless {V : Type} (computing : List (Rule V)) : Prop :=
  ∀ key guard reason compute, .computed key guard reason compute ∈ computing →
    ∀ ctx fallback scratch given, ((compute ctx fallback).run scratch).1 = .ok given →
      given.1 = none

variable {ctx other : Context} {known : List Guard} {policy : FailurePolicy}
  {learned : LearnedNames} {named : Prop}

/-! ## Calls for other pushes -/

/-- No entry is filed under the push of `ctx`. -/
def Caches.Foreign (ctx : Context) (caches : Caches) : Prop :=
  ∀ ref, ∀ entry ∈ (caches.get ref).entries, ctx.id ≠ some entry.1.push

namespace Caches.Foreign

variable {caches : Caches}

theorem of_empty (hempty : caches.Empty) : caches.Foreign ctx := by
  intro ref entry hentry
  rw [hempty ref] at hentry
  cases hentry

theorem truthful (hforeign : caches.Foreign ctx) : caches.Truthful ctx known :=
  fun ref entry hentry _ _ hpush => absurd hpush (hforeign ref entry hentry)

theorem set (hforeign : caches.Foreign ctx) {ref : CacheRef} {cache : PushTestCache}
    (hcache : ∀ entry ∈ cache.entries, ctx.id ≠ some entry.1.push) :
    (caches.set ref cache).Foreign ctx := by
  intro another entry hentry
  by_cases hanother : another = ref
  · subst another
    rw [get_set_self] at hentry
    exact hcache entry hentry
  · rw [get_set_of_ne hanother] at hentry
    exact hforeign another entry hentry

end Caches.Foreign

/-- The engine holds nothing of the push of `ctx`.  If `named`, it has learned just
the names in `learned`. -/
structure Engine.Apart (named : Prop) (ctx : Context) (learned : LearnedNames)
    (engine : Engine) : Prop where
  caches : engine.caches.Foreign ctx
  learned : named → engine.learned = learned

namespace Rule

variable {V : Type}

theorem computation_apart {key : RuleKey} {guard : Guard} {reason : Option String}
    {compute : Context → String → Probe (Option String × V)}
    (hnameless : named → ∀ ctx fallback scratch given,
      ((compute ctx fallback).run scratch).1 = .ok given → given.1 = none)
    {p : Pass} (hp : p.engine.Apart named ctx learned) :
    ((computation key guard reason compute other).run.run p).2.engine.Apart named ctx learned := by
  unfold computation
  rw [Eval.run_bind]
  cases hgiven : ((Eval.ofProbe (compute other (statedName guard reason))).run.run p).1 with
  | error e => exact ⟨hp.caches, hp.learned⟩
  | ok given =>
      obtain ⟨name, value⟩ := given
      cases name with
      | none => exact ⟨hp.caches, hp.learned⟩
      | some name =>
          refine ⟨hp.caches, fun hnamed => ?_⟩
          exact nomatch hnameless hnamed _ _ _ _ hgiven

/-- A rule that is evaluated for another push leaves nothing for this one. -/
theorem inStep_apart {rule : Rule V} (hother : ∀ id, other.id = some id → ctx.id ≠ some id)
    (hnameless : named → Nameless rule.computations) :
    rule.InStep True other (Pass.Alone fun p => p.engine.Apart named ctx learned) := by
  apply inStep_of_every _ _ _ _ (rule.every_of_forall fun _ => trivial)
  · exact steady_alone (fun _ _ hp => ⟨hp.caches, hp.learned⟩)
      fun _ _ _ hp => ⟨hp.caches, hp.learned⟩
  · exact fun _ => .alone fun _ hp => ⟨hp.caches, hp.learned⟩
  · intro ref guard _ hguard
    apply Eval.memoized_inStep _ _ hguard
    · intro id hid
      apply Work.Lockstep.alone
      intro p hp
      refine ⟨hp.caches.set fun entry hentry => ?_, hp.learned⟩
      exact hp.caches ref entry (PushTestCache.mem_entries_of_mem_get hentry)
    · intro id v hid
      apply Work.Lockstep.alone
      intro p hp
      refine ⟨hp.caches.set fun entry hentry => ?_, hp.learned⟩
      rcases PushTestCache.mem_entries_of_mem_insert hentry with hold | rfl
      · exact hp.caches ref entry hold
      · exact hother id hid
  · intro key guard reason compute hmem _
    exact .alone fun _ => computation_apart fun hnamed =>
      hnameless hnamed key guard reason compute hmem

end Rule

namespace Decider

variable {decider : Decider} {engine : Engine}

theorem decide_engine (decider : Decider) (ctx : Context) (engine : Engine) :
    ((decider.decide ctx).run engine).2.caches =
        ((Eval.settle (Rule.superviseEach ctx decider.chains)).run
          (decider.start ctx engine)).2.engine.caches ∧
      ((decider.decide ctx).run engine).2.learned =
        ((Eval.settle (Rule.superviseEach ctx decider.chains)).run
          (decider.start ctx engine)).2.engine.learned := by
  rw [decide_run]
  cases Eval.collect ((Eval.settle (Rule.superviseEach ctx decider.chains)).run
    (decider.start ctx engine)).1 <;> exact ⟨rfl, rfl⟩

theorem after_apart (hnameless : named → Rule.Nameless (decider.chains.flatMap Rule.computations))
    {call : Call} (hcall : call.Foreign ctx) (happart : engine.Apart named ctx learned) :
    (decider.after engine call).Apart named ctx learned := by
  have hsteady : Steady True (Pass.Alone fun p => p.engine.Apart named ctx learned) :=
    steady_alone (fun _ _ hp => ⟨hp.caches, hp.learned⟩) fun _ _ _ hp => ⟨hp.caches, hp.learned⟩
  have hchains : ∀ rule ∈ decider.chains, rule.InStep True call.context
      (Pass.Alone fun p => p.engine.Apart named ctx learned) := by
    intro rule hrule
    apply Rule.inStep_apart hcall
    intro hnamed key guard reason compute hmem
    exact hnameless hnamed key guard reason compute (List.mem_flatMap_of_mem hrule hmem)
  have heval : ∀ rule ∈ decider.chains, Eval.InStep
      (Pass.Alone fun p => p.engine.Apart named ctx learned)
      (Pass.Alone fun p => p.engine.Apart named ctx learned) (rule.eval call.context) :=
    fun rule hrule => Rule.eval_inStep hsteady (hchains rule hrule)
  cases call with
  | decide other =>
      have hsettle := Eval.InStep.settle (Rule.superviseEach_inStep hsteady heval)
      have hstart : (decider.start other engine).engine.Apart named ctx learned :=
        ⟨happart.caches, happart.learned⟩
      have hend := hsettle.keeps hstart
      obtain ⟨hcaches, hlearned⟩ := decider.decide_engine other engine
      refine ⟨?_, fun hnamed => ?_⟩
      · change ((decider.decide other).run engine).2.caches.Foreign ctx
        rw [hcaches]
        exact hend.caches
      · change ((decider.decide other).run engine).2.learned = learned
        rw [hlearned]
        exact hend.learned hnamed
  | predict other =>
      have hadd := Forecast.additive_inStep (Rule.classifyEach_inStep heval fun rule hrule =>
        Rule.classifyFailed_inStep hsteady (hchains rule hrule)) (.refl Forecast.nothing) false
      have hend := hadd.keeps (p := ⟨engine, {}⟩) happart
      exact ⟨hend.caches, hend.learned⟩

theorem afterAll_apart
    (hnameless : named → Rule.Nameless (decider.chains.flatMap Rule.computations))
    {calls : List Call} (hcalls : ∀ call ∈ calls, call.Foreign ctx)
    (happart : engine.Apart named ctx learned) :
    (decider.afterAll engine calls).Apart named ctx learned := by
  induction calls generalizing engine with
  | nil => exact happart
  | cons call rest ih =>
      obtain ⟨hhead, hrest⟩ := List.forall_mem_cons.mp hcalls
      exact ih hrest (after_apart hnameless hhead happart)

end Decider

/-! ## Two passes for one push -/

/-- Failures of one reason; if `named`, of rules of one name too. -/
def RuleFailure.Matches (named : Prop) (f g : RuleFailure) : Prop :=
  f.reason = g.reason ∧ (named → f.rule = g.rule)

/-- What the work answers, leaves in the scope and records in it hangs on the push and on
the values of the scope alone. -/
structure SelfContained {α : Type} (work : Context → Probe α) : Prop where
  journalFree : JournalFree work
  recorded : ∀ ctx (s t : Scratch), s.values = t.values → s.recorded = t.recorded →
    ((work ctx).run s).2.recorded = ((work ctx).run t).2.recorded

theorem SelfContained.of_recordsNothing {α : Type} {work : Context → Probe α}
    (hfree : JournalFree work) (hquiet : RecordsNothing work) : SelfContained work where
  journalFree := hfree
  recorded ctx s t _ hrecorded :=
    (hquiet ctx s).trans (hrecorded.trans (hquiet ctx t).symm)

/-- Two passes for one push that differ in nothing that tests, hooks or computations
could tell. -/
structure Pass.Abreast (named : Prop) (ctx : Context) (known : List Guard)
    (policy : FailurePolicy) (p q : Pass) : Prop where
  first : p.Faithful ctx known policy
  second : q.Faithful ctx known policy
  values : p.scope.values = q.scope.values
  learned : named → p.engine.learned = q.engine.learned
  failures : List.Forall₂ (RuleFailure.Matches named) p.scope.failures q.scope.failures

namespace Pass.Abreast

theorem steady : Steady named (Abreast named ctx known policy) where
  policy hpq := hpq.first.policy.trans hpq.second.policy.symm
  learned hnamed hpq := hpq.learned hnamed
  emit _ hpq := ⟨⟨hpq.first.policy, hpq.first.caches⟩, ⟨hpq.second.policy, hpq.second.caches⟩,
    hpq.values, hpq.learned, hpq.failures⟩
  isolate _ hsame hpq := ⟨⟨hpq.first.policy, hpq.first.caches⟩,
    ⟨hpq.second.policy, hpq.second.caches⟩, hpq.values, hpq.learned,
    List.rel_append hpq.failures (.cons ⟨rfl, hsame⟩ .nil)⟩

end Pass.Abreast

namespace Eval

variable {α : Type}

theorem ofProbe_abreast {work : Context → Probe α} (hwork : SelfContained work) :
    InStep (Pass.Abreast named ctx known policy) (Pass.Abreast named ctx known policy)
      (ofProbe (work ctx)) := by
  intro p q hpq
  obtain ⟨hanswer, hvalues⟩ := hwork.journalFree ctx p.scratch q.scratch hpq.values
  have hrecorded := hwork.recorded ctx p.scratch q.scratch hpq.values rfl
  refine ⟨hanswer, ⟨hpq.first.policy, hpq.first.caches⟩, ⟨hpq.second.policy, hpq.second.caches⟩,
    hvalues, hpq.learned, ?_⟩
  change List.Forall₂ (RuleFailure.Matches named)
    (p.withScratch ((work ctx).run p.scratch).2).scope.failures
    (q.withScratch ((work ctx).run q.scratch).2).scope.failures
  rw [Pass.failures_withScratch, Pass.failures_withScratch, hrecorded]
  exact List.rel_append hpq.failures (List.forall₂_same.mpr fun f _ => ⟨rfl, fun _ => rfl⟩)

/-- A step that gives a known answer and leaves scope and names alone does so in both
passes, whatever it finds in the caches. -/
theorem Gives.abreast {step : Eval α} {answer : Except GoalError α}
    (hgives : Gives (Pass.Faithful ctx known policy) step answer) (hnames : KeepsNames step)
    (hfailures : KeepsFailures step)
    (hvalues : ∀ p, (step.run.run p).2.scope.values = p.scope.values) :
    InStep (Pass.Abreast named ctx known policy) (Pass.Abreast named ctx known policy) step := by
  intro p q hpq
  obtain ⟨hanswer, hfirst⟩ := hgives p hpq.first
  obtain ⟨hagain, hsecond⟩ := hgives q hpq.second
  have hrecorded : (step.run.run p).2.scope.failures = p.scope.failures := hfailures p
  have hrecordedAgain : (step.run.run q).2.scope.failures = q.scope.failures := hfailures q
  refine ⟨hanswer.trans hagain.symm, hfirst, hsecond, ?_, fun hnamed => ?_, ?_⟩
  · exact (hvalues p).trans (hpq.values.trans (hvalues q).symm)
  · exact (hnames p).trans ((hpq.learned hnamed).trans (hnames q).symm)
  · rw [hrecorded, hrecordedAgain]
    exact hpq.failures

end Eval

theorem Guard.rememberedInStep_abreast {guards : List Guard} (hnames : SameNamed known)
    (hdetached : ∀ guard ∈ known, guard.Every Detached)
    (hquiet : ∀ guard ∈ known, guard.Every RecordsNothing)
    (hwithin : ∀ guard ∈ known, guard.remembered ⊆ known) (hknown : guards ⊆ known) :
    RememberedInStep (Pass.Abreast named ctx known policy) ctx guards := by
  intro ref guard hguard _
  have hmem := hknown hguard
  have hfree : guard.Every ScopeFree := (hdetached guard hmem).imp fun hwork => hwork.scopeFree
  have hgives : Eval.Gives (Pass.Faithful ctx known policy)
      (Eval.memoized ctx ref guard.name (guard.eval ctx)) (guard.answer ctx) :=
    Eval.memoized_gives hnames hmem ref (eval_gives hfree hnames (hwithin guard hmem))
  exact hgives.abreast
    ((guard.eval_keepsNames ctx).memoized (fun _ _ _ => rfl) ctx ref guard.name)
    ((eval_keepsFailures ctx (hquiet guard hmem)).memoized (fun _ _ _ => rfl) ctx ref guard.name)
    (memoized_values (hdetached guard hmem) ref)

theorem Rule.computation_abreast {V : Type} {key : RuleKey} {guard : Guard}
    {reason : Option String} {compute : Context → String → Probe (Option String × V)}
    (hcompute : SelfContained fun ctx => compute ctx (statedName guard reason)) :
    Eval.InStep (Pass.Abreast named ctx known policy) (Pass.Abreast named ctx known policy)
      (computation key guard reason compute ctx) := by
  have hlearn (name : Option String) : Work.Lockstep (Pass.Abreast named ctx known policy)
      (Pass.Abreast named ctx known policy) (fun _ _ => True) (Eval.learn key name)
      (Eval.learn key name) := by
    cases name with
    | none => exact Work.Lockstep.pure trivial
    | some name =>
        refine fun p q hpq => ⟨trivial, ⟨hpq.first.policy, hpq.first.caches⟩,
          ⟨hpq.second.policy, hpq.second.caches⟩, hpq.values, fun hnamed => ?_, hpq.failures⟩
        exact congrArg (·.set key name) (hpq.learned hnamed)
  apply (Eval.ofProbe_abreast hcompute).bind _ (le_refl _)
  intro given
  exact Eval.InStep.lift_bind (hlearn given.1) fun _ _ _ =>
    Eval.InStep.ok (le_refl _) (Outcome.matched given.2)

namespace Decider

/-- What keeps pushes apart: work hangs on the push and on the scope of its own pass,
remembered tests keep off the scope, and those of one name are the same test. -/
structure Separable (decider : Decider) : Prop where
  selfContained : ∀ rule ∈ decider.chains, rule.Every SelfContained
  detached : ∀ guard ∈ decider.chains.flatMap Rule.remembered, guard.Every Detached
  recordsNothing : ∀ guard ∈ decider.chains.flatMap Rule.remembered, guard.Every RecordsNothing
  sameNamed : Guard.SameNamed (decider.chains.flatMap Rule.remembered)

variable {decider : Decider} {engine first second : Engine}

theorem Separable.chain_abreast (hrules : decider.Separable) {rule : GoalRule}
    (hrule : rule ∈ decider.chains) :
    rule.InStep named ctx
      (Pass.Abreast named ctx (decider.chains.flatMap Rule.remembered) policy) := by
  have hknown : rule.remembered ⊆ decider.chains.flatMap Rule.remembered :=
    fun guard hguard => List.mem_flatMap_of_mem hrule hguard
  refine Rule.inStep_of_every Pass.Abreast.steady Eval.ofProbe_abreast ?_ ?_
    (hrules.selfContained rule hrule)
  · exact Guard.rememberedInStep_abreast hrules.sameNamed hrules.detached
      hrules.recordsNothing Rule.remembered_within hknown
  · exact fun key guard reason compute _ hwork => Rule.computation_abreast (hwork _)

/-- Engines that hold nothing of a push decide it alike. -/
theorem Separable.decide_matches (hrules : decider.Separable)
    (hfirst : first.caches.Foreign ctx) (hsecond : second.caches.Foreign ctx)
    (hlearned : named → first.learned = second.learned) :
    ∃ (goals : Except GoalError (Option GoalSet)) (failures again : List RuleFailure),
      List.Forall₂ (RuleFailure.Matches named) failures again ∧
      ((decider.decide ctx).run first).1 =
        goals.map (fun goals => { push := ctx.id.map PushId.text, goals, failures }) ∧
      ((decider.decide ctx).run second).1 =
        goals.map (fun goals =>
          { push := ctx.id.map PushId.text, goals, failures := again }) := by
  have hstart : Pass.Abreast named ctx (decider.chains.flatMap Rule.remembered)
      decider.settings.failurePolicy (decider.start ctx first) (decider.start ctx second) :=
    ⟨⟨rfl, hfirst.truthful⟩, ⟨rfl, hsecond.truthful⟩, rfl, hlearned, .nil⟩
  have hsettle : Work.Lockstep
      (Pass.Abreast named ctx (decider.chains.flatMap Rule.remembered)
        decider.settings.failurePolicy)
      (Pass.Abreast named ctx (decider.chains.flatMap Rule.remembered)
        decider.settings.failurePolicy) (· = ·)
      (Eval.settle (Rule.superviseEach ctx decider.chains))
      (Eval.settle (Rule.superviseEach ctx decider.chains)) :=
    Eval.InStep.settle (Rule.superviseEach_inStep Pass.Abreast.steady fun rule hrule =>
      Rule.eval_inStep Pass.Abreast.steady (hrules.chain_abreast hrule))
  obtain ⟨hanswers, hend⟩ := hsettle _ _ hstart
  refine ⟨(Eval.collect ((Eval.settle (Rule.superviseEach ctx decider.chains)).run
    (decider.start ctx first)).1).map fun outcomes =>
      GoalSet.merge (outcomes.filterMap Outcome.value?), _, _, hend.failures, ?_, ?_⟩
  · rw [decide_eq]
    cases Eval.collect ((Eval.settle (Rule.superviseEach ctx decider.chains)).run
      (decider.start ctx first)).1 <;> rfl
  · rw [decide_eq, ← hanswers]
    cases Eval.collect ((Eval.settle (Rule.superviseEach ctx decider.chains)).run
      (decider.start ctx first)).1 <;> rfl

theorem Separable.predict_matches (hrules : decider.Separable)
    (hfirst : first.caches.Foreign ctx) (hsecond : second.caches.Foreign ctx)
    (hlearned : named → first.learned = second.learned) :
    ∃ f g : Forecast, f.Matches named g ∧
      ((decider.predict ctx).run first).1 = f.flatten ∧
      ((decider.predict ctx).run second).1 = g.flatten := by
  have hstart : Pass.Abreast named ctx (decider.chains.flatMap Rule.remembered) .failFast
      ⟨first, {}⟩ ⟨second, {}⟩ :=
    ⟨⟨rfl, hfirst.truthful⟩, ⟨rfl, hsecond.truthful⟩, rfl, hlearned, .nil⟩
  have hadd : Work.Lockstep
      (Pass.Abreast named ctx (decider.chains.flatMap Rule.remembered) .failFast)
      (Pass.Abreast named ctx (decider.chains.flatMap Rule.remembered) .failFast)
      (Forecast.Matches named)
      (Forecast.additive .nothing false (Rule.classifyEach ctx decider.chains))
      (Forecast.additive .nothing false (Rule.classifyEach ctx decider.chains)) := by
    refine Forecast.additive_inStep (Rule.classifyEach_inStep ?_ ?_) (.refl _) false
    · exact fun rule hrule =>
        Rule.eval_inStep Pass.Abreast.steady (hrules.chain_abreast hrule)
    · exact fun rule hrule =>
        Rule.classifyFailed_inStep Pass.Abreast.steady (hrules.chain_abreast hrule)
  exact ⟨_, _, (hadd _ _ hstart).1, rfl, rfl⟩

end Decider

/-- The decision without the names of the rules that failed. -/
def Decision.unnamed (d : Decision) : Decision :=
  { d with failures := d.failures.map fun f => { f with rule := "" } }

/-- The prediction without the names of its unknown roads. -/
def Prediction.unnamed (p : Prediction) : Prediction :=
  { p with unknownRoads := p.unknownRoads.map fun r => { r with name := "" } }

namespace RuleDescription

mutual

/-- The description without the names that rules go by.  Guards keep theirs. -/
def unnamed : RuleDescription → RuleDescription
  | ⟨_, style, cost, guard, halts, components⟩ =>
      ⟨"", style, cost, guard, halts, unnamedEach components⟩

def unnamedEach : List RuleDescription → List RuleDescription
  | [] => []
  | d :: rest => unnamed d :: unnamedEach rest

end

@[simp] theorem unnamedEach_eq_map (descriptions : List RuleDescription) :
    unnamedEach descriptions = descriptions.map unnamed := by
  induction descriptions with
  | nil => rfl
  | cons d rest ih => simp [unnamedEach, ih]

end RuleDescription

namespace Rule

variable {V : Type}

@[simp] theorem describeEach_eq_map (learned : LearnedNames) (rules : List (Rule V)) :
    describeEach learned rules = rules.map (describe learned) := by
  induction rules with
  | nil => rfl
  | cons rule rest ih => simp [describeEach, ih]

/-- Learned names are all that a description takes from earlier calls. -/
theorem describe_unnamed (learned again : LearnedNames) (rule : Rule V) :
    (rule.describe learned).unnamed = (rule.describe again).unnamed := by
  induction rule using Rule.induct with
  | fixed guard reason value => rfl
  | halting guard reason => rfl
  | computed key guard reason compute => rfl
  | firstMatch name rules ih => simpa [describe, RuleDescription.unnamed] using ih
  | allMatches name contributors ih => simpa [describe, RuleDescription.unnamed] using ih
  | enriched name base extension ihBase ihExtension =>
      simp [describe, RuleDescription.unnamed, ihBase, ihExtension]
  | leaf name guard hook value => rfl
  | branch name guard hook children ih => simpa [describe, RuleDescription.unnamed] using ih
  | mapped f inner ih => rfl
  | custom name cost run => rfl

end Rule

theorem RuleFailure.unnamed_eq {failures again : List RuleFailure}
    (hfailures : List.Forall₂ (RuleFailure.Matches named) failures again) :
    failures.map (fun f => { f with rule := "" }) = again.map fun f => { f with rule := "" } := by
  apply map_eq_of_forall₂
  apply hfailures.imp
  intro f g hmatch
  rw [hmatch.1]

theorem RuleFailure.eq_of_named {failures again : List RuleFailure}
    (hfailures : List.Forall₂ (RuleFailure.Matches named) failures again) (hnamed : named) :
    failures = again := by
  rw [← List.forall₂_eq_eq_eq]
  apply hfailures.imp
  rintro ⟨rule, reason⟩ ⟨other, text⟩ ⟨hreason, hrule⟩
  rw [mk.injEq]
  exact ⟨hrule hnamed, hreason⟩

theorem Forecast.Matches.unnamed_eq {f g : Forecast} (hforecast : f.Matches named g) :
    f.flatten.unnamed = g.flatten.unnamed := by
  have hroads : f.unknown.map (fun r => { r with name := "" }) =
      g.unknown.map fun r => { r with name := "" } := by
    apply map_eq_of_forall₂
    apply hforecast.unknown.imp
    intro r s hmatch
    rw [hmatch.1]
  unfold Prediction.unnamed flatten
  rw [hroads, hforecast.definite, hforecast.possible]

namespace Decider

variable {decider : Decider} {engine : Engine}

theorem describe_unnamed (learned again : LearnedNames) :
    (decider.describe learned).map RuleDescription.unnamed =
      (decider.describe again).map RuleDescription.unnamed := by
  unfold describe
  rw [Rule.describeEach_eq_map, Rule.describeEach_eq_map, List.map_map, List.map_map]
  exact List.map_congr_left fun rule _ => Rule.describe_unnamed learned again rule

/-- A tree that counts in its hook, a rule that reads the count, one whose test is
remembered and one that fails where the branch is not known. -/
def mixed : Decider where
  chains :=
    [.branch "count" (.test .onAnyPush)
      (some fun _ => do
        let _ ← Probe.increment "visits"
        return ())
      [.fixed (.test ⟨"visited", .cheap, fun _ => do return (← Probe.get? "visits").isSome⟩) none
        ⟨"greet", [.ofName "greet"], false⟩],
     .fixed (.allOf [.test (.hasFile "Dockerfile")]) none ⟨"image", [.ofName "image"], false⟩,
     .fixed (.test (.toBranch "main")) (some "release") ⟨"release", [.ofName "release"], false⟩]
  settings := { failurePolicy := .isolateAndReport }

theorem mixed_separable : mixed.Separable where
  selfContained := by
    have hopen : SelfContained PushTest.onAnyPush.run :=
      .of_recordsNothing (.pure true) StandardTest.onAnyPush.recordsNothing
    have hcount : ∀ work : Hook, some (fun _ => do
        let _ ← Probe.increment "visits"
        return ()) = some work → SelfContained work := by
      rintro _ ⟨⟩
      refine .of_recordsNothing (fun ctx s t hvalues => ⟨rfl, ?_⟩)
        ((RecordsNothing.increment "visits").bind fun _ => .pure ())
      change s.values.increment "visits" = t.values.increment "visits"
      rw [hvalues]
    have hvisits : SelfContained fun _ => (do
        return (← Probe.get? "visits").isSome : Probe Bool) :=
      .of_recordsNothing ((JournalFree.get? "visits").bind fun _ => .pure _)
        ((RecordsNothing.get? "visits").bind fun _ => .pure _)
    have hfile : SelfContained (PushTest.hasFile "Dockerfile").run :=
      .of_recordsNothing
        ((JournalFree.ofExcept _).bind fun _ => (JournalFree.note _).bind fun _ => .ofExcept _)
        (StandardTest.hasFile "Dockerfile").recordsNothing
    have hbranch : SelfContained (PushTest.toBranch "main").run :=
      .of_recordsNothing ((JournalFree.ofExcept _).bind fun _ => .pure _)
        (StandardTest.toBranch "main").recordsNothing
    apply Rule.everyAmong_iff.mp
    exact ⟨⟨hopen, hcount, hvisits, trivial⟩, ⟨hfile, trivial⟩, hbranch, trivial⟩
  detached := by
    intro guard hguard
    rw [List.mem_singleton.mp hguard]
    refine ⟨(PushTest.hasFile_lasting "Dockerfile").scopeFree, ?_⟩
    intro ctx scratch
    obtain ⟨_, _, _, project, _, _⟩ := ctx
    cases project <;> rfl
  recordsNothing := by
    intro guard hguard
    rw [List.mem_singleton.mp hguard]
    exact (StandardTest.hasFile "Dockerfile").recordsNothing
  sameNamed := by
    intro g hg h hh _ ctx
    rw [List.mem_singleton.mp hg, List.mem_singleton.mp hh]

/-- A push of which only the identity is known. -/
def pushOf (sha : String) : Context := Context.empty.withId ⟨"acme", "site", "main", sha⟩

/-- A chain that computes goals named after the branch. -/
def planning : Decider where
  chains :=
    [Rule.computeGoals 0 (.test .onAnyPush) (some "plan") fun ctx => do
      let branch ← Probe.ofExcept ctx.branch?
      return .set ⟨"goals for " ++ branch, [.ofName "build"], false⟩]
  settings := { failurePolicy := .isolateAndReport }

theorem planning_separable : planning.Separable where
  selfContained := by
    have hcompute (fallback : String) : SelfContained fun ctx => (do
        let goals ← (do
          let branch ← Probe.ofExcept ctx.branch?
          return Component.set ⟨"goals for " ++ branch, [.ofName "build"], false⟩ :
            Probe Component)
        return (goals.name?, goals.toGoalSet fallback) : Probe (Option String × GoalSet)) :=
      .of_recordsNothing (((JournalFree.ofExcept _).bind fun _ => .pure _).bind fun _ => .pure _)
        (((RecordsNothing.ofExcept _).bind fun _ => .pure _).bind fun _ => .pure _)
    intro rule hrule
    rw [List.mem_singleton.mp hrule]
    exact ⟨.of_recordsNothing (.pure true) (.pure true), hcompute⟩
  detached _ hguard := nomatch hguard
  recordsNothing _ hguard := nomatch hguard
  sameNamed _ hguard := nomatch hguard

end Decider

end PushGoals
