import PushGoals.Proofs.Rule.Failure
import PushGoals.Proofs.Visibility

/-!
# Abandoned attempts

A prediction first evaluates a rule as a whole and, when data is lacking, walks its
structure in the scope that the attempt has left.  A rule is sheltered when whatever
its work sees is either among the keys that are settled from outside or written on
the way to it, by the preparations and hooks of the nodes that it stands behind.  If
an attempt that may be abandoned leaves the settled keys alone, it leaves no trace:
the walk comes to what it comes to when the scope is first put back.

Without shelter the attempt shows: a hook that counts has run once too often when the
rules behind it are looked at.
-/

namespace PushGoals

variable {α : Type} {keys more : Set String} {ctx : Context} {rule : GoalRule}

/-- Passes with the same caches and names, under one policy, whose scopes agree. -/
structure Pass.AgreeOn (keys : Set String) (p q : Pass) : Prop where
  caches : p.engine.caches = q.engine.caches
  learned : p.engine.learned = q.engine.learned
  policy : p.scope.policy = q.scope.policy
  values : p.scope.values.AgreeOn keys q.scope.values

namespace Pass.AgreeOn

theorem refl (p : Pass) : p.AgreeOn keys p := ⟨rfl, rfl, rfl, .refl _⟩

theorem mono (hkeys : keys ⊆ more) : Pass.AgreeOn more ≤ Pass.AgreeOn keys :=
  fun _ _ hpq => ⟨hpq.caches, hpq.learned, hpq.policy, hpq.values.mono hkeys⟩

theorem steady : Steady True (Pass.AgreeOn keys) where
  policy hpq := hpq.policy
  learned _ hpq := hpq.learned
  emit _ hpq := ⟨hpq.caches, hpq.learned, hpq.policy, hpq.values⟩
  isolate _ _ hpq := ⟨hpq.caches, hpq.learned, hpq.policy, hpq.values⟩

end Pass.AgreeOn

namespace Eval

theorem ofProbe_agreeOn {probe : Probe α} (hprobe : probe.Shows SameAnswer keys more probe) :
    InStep (Pass.AgreeOn keys) (Pass.AgreeOn more) (ofProbe probe) := by
  intro p q hpq
  obtain ⟨hanswer, hvalues⟩ := hprobe p.scratch
    q.scratch hpq.values
  exact ⟨hanswer, hpq.caches, hpq.learned, hpq.policy, hvalues⟩

theorem memoized_agreeOn {ref : CacheRef} {name : String} {step : Eval (Outcome Bool)}
    (hstep : InStep (Pass.AgreeOn keys) (Pass.AgreeOn keys) step) :
    InStep (Pass.AgreeOn keys) (Pass.AgreeOn keys) (memoized ctx ref name step) := by
  apply memoized_inStep _ _ hstep
  · intro id _ p q hpq
    refine ⟨?_, ?_, hpq.learned, hpq.policy, hpq.values⟩
    · change ((p.engine.caches.get ref).get _).1 = ((q.engine.caches.get ref).get _).1
      rw [hpq.caches]
    · change p.engine.caches.set ref ((p.engine.caches.get ref).get _).2 =
        q.engine.caches.set ref ((q.engine.caches.get ref).get _).2
      rw [hpq.caches]
  · intro id v _ p q hpq
    refine ⟨rfl, ?_, hpq.learned, hpq.policy, hpq.values⟩
    change p.engine.caches.set ref ((p.engine.caches.get ref).insert _ v) =
      q.engine.caches.set ref ((q.engine.caches.get ref).insert _ v)
    rw [hpq.caches]

end Eval

/-- Where passes agree on what a guard sees, it gives one answer and they agree on what
it shows. -/
theorem Guard.passes_agreeOn {guard : Guard} {seen : Set String}
    (hguard : guard.Shows SameAnswer ctx ctx keys seen) :
    Eval.InStep (Pass.AgreeOn keys) (Pass.AgreeOn seen) (guard.passes ctx) := by
  have heval : Eval.InStep (Pass.AgreeOn keys) (Pass.AgreeOn seen) (guard.eval ctx) := by
    apply Guard.eval_shows SameAnswer.compositional Pass.AgreeOn.mono _ _ hguard
    · intro α keys more probe again hprobe p q hpq
      obtain ⟨hanswer, hvalues⟩ := hprobe p.scratch
        q.scratch hpq.values
      exact ⟨hanswer, hpq.caches, hpq.learned, hpq.policy, hvalues⟩
    · exact fun _ _ _ _ hstep => Eval.memoized_agreeOn hstep
  exact heval.map Outcome.passes

namespace Rule

variable {V : Type}

def HookShows (ctx : Context) (keys more : Set String) : Option Hook → Prop
  | none => more ⊆ keys
  | some work => (work ctx).Shows SameAnswer keys more (work ctx)

theorem runHook_agreeOn {hook : Option Hook} (hhook : HookShows ctx keys more hook) :
    Eval.InStep (Pass.AgreeOn keys) (Pass.AgreeOn more) (runHook hook ctx) := by
  cases hook with
  | none => exact Eval.InStep.ok (Pass.AgreeOn.mono hhook) ()
  | some work => exact Eval.ofProbe_agreeOn hhook

mutual

/-- Work in the rule sees `keys` and what is shown on the way to it; what stands behind
a hook is discreet about all that the hook shows. -/
def Sheltered (ctx : Context) : Set String → Rule V → Prop
  | keys, .fixed guard _ _ => ∃ seen, guard.Shows SameAnswer ctx ctx keys seen
  | keys, .halting guard _ => ∃ seen, guard.Shows SameAnswer ctx ctx keys seen
  | keys, .computed _ guard reason compute =>
      ∃ seen, guard.Shows SameAnswer ctx ctx keys seen ∧
        (compute ctx (statedName guard reason)).Shows SameAnswer seen keys
          (compute ctx (statedName guard reason))
  | keys, .firstMatch _ rules => ShelteredAmong ctx keys rules
  | keys, .allMatches _ contributors => ShelteredAmong ctx keys contributors
  | keys, .enriched _ base extension => Sheltered ctx keys base ∧ Sheltered ctx keys extension
  | keys, .leaf _ guard hook _ =>
      ∃ seen, guard.Shows SameAnswer ctx ctx keys seen ∧ HookShows ctx seen keys hook
  | keys, .branch name guard hook children =>
      ∃ seen more, keys ⊆ more ∧ guard.Shows SameAnswer ctx ctx keys seen ∧
        HookShows ctx seen more hook ∧ ShelteredAmong ctx more children ∧
        Discreet (NeverLacks ctx) more (.firstMatch name children)
  | keys, .mapped _ inner => Sheltered ctx keys inner
  | keys, .custom _ _ run => (run ctx).Shows SameAnswer keys keys (run ctx)

def ShelteredAmong (ctx : Context) : Set String → List (Rule V) → Prop
  | _, [] => True
  | keys, rule :: rest => Sheltered ctx keys rule ∧ ShelteredAmong ctx keys rest

end

@[simp] theorem shelteredAmong_iff {rules : List (Rule V)} :
    ShelteredAmong ctx keys rules ↔ ∀ rule ∈ rules, rule.Sheltered ctx keys := by
  induction rules with
  | nil => simp [ShelteredAmong]
  | cons rule rest ih => simp [ShelteredAmong, ih]

theorem computation_agreeOn {key : RuleKey} {guard : Guard} {reason : Option String}
    {compute : Context → String → Probe (Option String × V)}
    (hcompute : (compute ctx (statedName guard reason)).Shows SameAnswer keys more
      (compute ctx (statedName guard reason))) :
    Eval.InStep (Pass.AgreeOn keys) (Pass.AgreeOn more)
      (computation key guard reason compute ctx) := by
  have hlearn (name : Option String) : Work.Lockstep (Pass.AgreeOn more) (Pass.AgreeOn more)
      (fun _ _ => True) (Eval.learn key name) (Eval.learn key name) := by
    cases name with
    | none => exact Work.Lockstep.pure trivial
    | some name =>
        exact fun p q hpq => ⟨trivial, hpq.caches, congrArg (·.set key name) hpq.learned,
          hpq.policy, hpq.values⟩
  apply (Eval.ofProbe_agreeOn hcompute).bind _ (le_refl _)
  intro given
  exact Eval.InStep.lift_bind (hlearn given.1) fun _ _ _ =>
    Eval.InStep.ok (le_refl _) (Outcome.matched given.2)

theorem inStep_of_sheltered {rule : Rule V} (hrule : rule.Sheltered ctx keys) :
    rule.InStep True ctx (Pass.AgreeOn keys) := by
  have hmembers {rules : List (Rule V)} {keys : Set String}
      (ih : ∀ rule ∈ rules, ∀ {keys : Set String}, rule.Sheltered ctx keys →
        rule.InStep True ctx (Pass.AgreeOn keys))
      (hrules : ShelteredAmong ctx keys rules) :
      InStepAmong True ctx (Pass.AgreeOn keys) rules :=
    inStepAmong_iff.mpr fun rule hmem => ih rule hmem (shelteredAmong_iff.mp hrules rule hmem)
  induction rule using Rule.induct generalizing keys with
  | fixed guard reason value =>
      obtain ⟨seen, hguard⟩ := hrule
      exact (Guard.passes_agreeOn hguard).mono (le_refl _) (Pass.AgreeOn.mono hguard.subset)
  | halting guard reason =>
      obtain ⟨seen, hguard⟩ := hrule
      exact (Guard.passes_agreeOn hguard).mono (le_refl _) (Pass.AgreeOn.mono hguard.subset)
  | computed key guard reason compute =>
      obtain ⟨seen, hguard, hcompute⟩ := hrule
      exact ⟨Pass.AgreeOn seen, Pass.AgreeOn.mono hguard.subset,
        Guard.passes_agreeOn hguard, computation_agreeOn hcompute⟩
  | firstMatch name rules ih => exact hmembers ih hrule
  | allMatches name contributors ih => exact hmembers ih hrule
  | enriched name base extension ihBase ihExtension =>
      exact ⟨ihBase hrule.1, ihExtension hrule.2⟩
  | leaf name guard hook value =>
      obtain ⟨seen, hguard, hhook⟩ := hrule
      exact ⟨Pass.AgreeOn seen, Pass.AgreeOn.mono hguard.subset,
        Guard.passes_agreeOn hguard, runHook_agreeOn hhook⟩
  | branch name guard hook children ih =>
      obtain ⟨seen, more, hmore, hguard, hhook, hchildren, _⟩ := hrule
      exact ⟨Pass.AgreeOn seen, Pass.AgreeOn.mono hguard.subset, Pass.AgreeOn more,
        Pass.AgreeOn.mono hmore, Guard.passes_agreeOn hguard, runHook_agreeOn hhook,
        Pass.AgreeOn.steady, hmembers ih hchildren⟩
  | mapped f inner ih => exact ih hrule
  | custom name cost run => exact Eval.ofProbe_agreeOn hrule

end Rule

/-! ## Putting the scope back -/

def Pass.withValues (p : Pass) (values : ScopeValues) : Pass :=
  { p with scope := { p.scope with values } }

/-- The step, with the values of the scope put back if it lacks data. -/
def Eval.undoing (step : Eval α) : Eval α :=
  ExceptT.mk do
    let before ← get
    let answer ← step.run
    modify fun after => if lacksData answer then after.withValues before.scope.values else after
    return answer

namespace Rule

mutual

/-- The forecast of a rule whose evaluation failed with `e`, every further attempt that
lacks data being undone. -/
def classifyFailedUndoing (ctx : Context) (e : GoalError) : GoalRule → Work Forecast
  | .firstMatch name rules =>
      if !e.isInsufficientData then return .road name e.message
      else classifyFirstUndoing ctx rules
  | .allMatches name contributors =>
      if !e.isInsufficientData then return .road name e.message
      else Forecast.additive .nothing false (classifyEachUndoing ctx contributors)
  | .enriched name base extension =>
      if !e.isInsufficientData then return .road name e.message
      else
        Forecast.additive .nothing false
          [classifyBy (eval ctx base).undoing (fun e => classifyFailedUndoing ctx e base),
           classifyBy (eval ctx extension).undoing
            (fun e => classifyFailedUndoing ctx e extension)]
  | .branch name guard hook children =>
      if !e.isInsufficientData then return .road name e.message
      else
        classifyGuard name guard ctx
          (some
            (classifyBody name hook ctx
              (classifyBy (evalFirst ctx children).undoing
                (fun e =>
                  if !e.isInsufficientData then return .road name e.message
                  else classifyFirstUndoing ctx children))))
  -- No further attempt is made at any other rule.
  | rule => classifyFailed ctx e rule

def classifyFirstUndoing (ctx : Context) : List GoalRule → Work Forecast
  | [] => return .nothing
  | rule :: rest => do
      match ← (eval ctx rule).undoing.run with
      | .ok .halt => return .nothing
      | .ok .noMatch => classifyFirstUndoing ctx rest
      | .ok (.matched goals) => return .certain goals
      | .error e =>
          let head ← classifyFailedUndoing ctx e rule
          let tail ← classifyFirstUndoing ctx rest
          return head.orElse tail

def classifyEachUndoing (ctx : Context) : List GoalRule → List (Work Forecast)
  | [] => []
  | rule :: rest =>
      classifyBy (eval ctx rule).undoing (fun e => classifyFailedUndoing ctx e rule) ::
        classifyEachUndoing ctx rest

end

/-- The classification of a rule in which no abandoned attempt leaves a trace. -/
def classifyUndoing (ctx : Context) (rule : GoalRule) : Work Forecast :=
  classifyBy (eval ctx rule).undoing (fun e => classifyFailedUndoing ctx e rule)

theorem classifyEachUndoing_eq_map (ctx : Context) (rules : List GoalRule) :
    classifyEachUndoing ctx rules = rules.map (classifyUndoing ctx) := by
  induction rules with
  | nil => rfl
  | cons rule rest ih =>
      rw [classifyEachUndoing, ih]
      rfl

theorem Discreet.keeps_lacking {rule : GoalRule} (hrule : rule.Discreet (NeverLacks ctx) keys)
    {p : Pass} (hlacks : lacksData ((rule.eval ctx).run.run p).1 = true) :
    ((rule.eval ctx).run.run p).2.scope.values.AgreeOn keys p.scope.values := by
  rcases hrule with hnever | hleaves
  · have hanswer := Rule.eval_always lacksData_compositional (fun hwork => hwork) hnever p
    rw [hanswer] at hlacks
    cases hlacks
  · have hstep := Rule.eval_inStep (steady_alone (fun _ _ hp => hp) fun _ _ _ hp => hp)
      (Rule.inStep_of_scope ctx (fun _ values => values.AgreeOn keys p.scope.values)
        (fun hwork _ scratch hp => (hwork ctx scratch).trans hp) hleaves)
    exact hstep.keeps (.refl _)

/-- Undoing an attempt that is discreet about the keys does not show in them. -/
theorem Discreet.undoing_lockstep {rule : GoalRule} (hrule : rule.Discreet (NeverLacks ctx) keys)
    (heval : Eval.InStep (Pass.AgreeOn keys) (Pass.AgreeOn keys) (rule.eval ctx)) :
    Work.Lockstep (Pass.AgreeOn keys) (Pass.AgreeOn keys) (· = ·) (rule.eval ctx).run
      (rule.eval ctx).undoing.run := by
  intro p q hpq
  obtain ⟨hanswer, hthen⟩ := heval p q hpq
  refine ⟨hanswer, ?_⟩
  change Pass.AgreeOn keys _ (if lacksData ((rule.eval ctx).run.run q).1 then
    ((rule.eval ctx).run.run q).2.withValues q.scope.values else ((rule.eval ctx).run.run q).2)
  by_cases hlacks : lacksData ((rule.eval ctx).run.run q).1 = true
  · rw [if_pos hlacks]
    refine ⟨hthen.caches, hthen.learned, hthen.policy, ?_⟩
    rw [← hanswer] at hlacks
    exact (hrule.keeps_lacking hlacks).trans hpq.values
  · rw [if_neg hlacks]
    exact hthen

theorem classifyFirst_undoing {rules : List GoalRule}
    (heval : ∀ rule ∈ rules, Work.Lockstep (Pass.AgreeOn keys) (Pass.AgreeOn keys) (· = ·)
      (rule.eval ctx).run (rule.eval ctx).undoing.run)
    (hfailed : ∀ rule ∈ rules, ∀ e, Work.Lockstep (Pass.AgreeOn keys) (Pass.AgreeOn keys)
      (Forecast.Matches True) (classifyFailed ctx e rule) (classifyFailedUndoing ctx e rule)) :
    Work.Lockstep (Pass.AgreeOn keys) (Pass.AgreeOn keys) (Forecast.Matches True)
      (classifyFirst ctx rules) (classifyFirstUndoing ctx rules) := by
  induction rules with
  | nil => exact Work.Lockstep.pure (.refl _)
  | cons rule rest ih =>
      obtain ⟨hevalHead, hevalRest⟩ := List.forall_mem_cons.mp heval
      obtain ⟨hfailedHead, hfailedRest⟩ := List.forall_mem_cons.mp hfailed
      unfold classifyFirst classifyFirstUndoing
      apply hevalHead.bind
      rintro answer _ rfl
      cases answer with
      | ok outcome =>
          cases outcome with
          | matched goals => exact Work.Lockstep.pure (.refl _)
          | noMatch => exact ih hevalRest hfailedRest
          | halt => exact Work.Lockstep.pure (.refl _)
      | error e =>
          apply (hfailedHead e).bind
          intro head headAgain hhead
          apply (ih hevalRest hfailedRest).bind
          intro tail tailAgain htail
          exact Work.Lockstep.pure (hhead.orElse htail)

theorem classifyEach_undoing {rules : List GoalRule}
    (heval : ∀ rule ∈ rules, Work.Lockstep (Pass.AgreeOn keys) (Pass.AgreeOn keys) (· = ·)
      (rule.eval ctx).run (rule.eval ctx).undoing.run)
    (hfailed : ∀ rule ∈ rules, ∀ e, Work.Lockstep (Pass.AgreeOn keys) (Pass.AgreeOn keys)
      (Forecast.Matches True) (classifyFailed ctx e rule) (classifyFailedUndoing ctx e rule)) :
    List.Forall₂
      (Work.Lockstep (Pass.AgreeOn keys) (Pass.AgreeOn keys) (Forecast.Matches True))
      (classifyEach ctx rules) (classifyEachUndoing ctx rules) := by
  rw [classifyEach_eq_map, classifyEachUndoing_eq_map]
  exact forall₂_map_map.mpr fun rule hrule =>
    classifyBy_inStep (heval rule hrule) (hfailed rule hrule)

/-- The structure of a sheltered rule is walked as if every attempt were undone. -/
theorem classifyFailed_undoing {rule : GoalRule} (hrule : rule.Sheltered ctx keys)
    (hdiscreet : rule.Discreet (NeverLacks ctx) keys) (e : GoalError) :
    Work.Lockstep (Pass.AgreeOn keys) (Pass.AgreeOn keys) (Forecast.Matches True)
      (classifyFailed ctx e rule) (classifyFailedUndoing ctx e rule) := by
  have hplain {rule : GoalRule} {keys : Set String} (hrule : rule.Sheltered ctx keys)
      (e : GoalError) :=
    classifyFailed_inStep Pass.AgreeOn.steady (inStep_of_sheltered hrule) e
  have hattempt {rule : GoalRule} {keys : Set String} (hrule : rule.Sheltered ctx keys)
      (hdiscreet : rule.Discreet (NeverLacks ctx) keys) :=
    hdiscreet.undoing_lockstep (eval_inStep Pass.AgreeOn.steady (inStep_of_sheltered hrule))
  induction rule using Rule.induct generalizing keys e with
  | fixed guard reason value => exact hplain hrule e
  | halting guard reason => exact hplain hrule e
  | computed key guard reason compute => exact hplain hrule e
  | firstMatch name rules ih =>
      have hrules := shelteredAmong_iff.mp hrule
      apply lookInto_inStep
      apply classifyFirst_undoing
      · exact fun rule hmem => hattempt (hrules rule hmem) (hdiscreet.of_mem hmem)
      · exact fun rule hmem => ih rule hmem (hrules rule hmem) (hdiscreet.of_mem hmem)
  | allMatches name contributors ih =>
      have hrules := shelteredAmong_iff.mp hrule
      have hmembers : Discreet (NeverLacks ctx) keys (.firstMatch name contributors) := hdiscreet
      apply lookInto_inStep
      apply Forecast.additive_inStep (classifyEach_undoing _ _) (.refl _) false
      · exact fun rule hmem => hattempt (hrules rule hmem) (hmembers.of_mem hmem)
      · exact fun rule hmem => ih rule hmem (hrules rule hmem) (hmembers.of_mem hmem)
  | enriched name base extension ihBase ihExtension =>
      obtain ⟨hbase, hextension⟩ := hrule
      have hbaseDiscreet : base.Discreet (NeverLacks ctx) keys :=
        hdiscreet.imp And.left And.left
      have hextensionDiscreet : extension.Discreet (NeverLacks ctx) keys :=
        hdiscreet.imp And.right And.right
      apply lookInto_inStep
      refine Forecast.additive_inStep (.cons ?_ (.cons ?_ .nil)) (.refl _) false
      · exact classifyBy_inStep (hattempt hbase hbaseDiscreet) (ihBase hbase hbaseDiscreet)
      · exact classifyBy_inStep (hattempt hextension hextensionDiscreet)
          (ihExtension hextension hextensionDiscreet)
  | leaf name guard hook value => exact hplain hrule e
  | branch name guard hook children ih =>
      obtain ⟨seen, more, hmore, hguard, hhook, hchildren, hbehind⟩ := hrule
      have hrules := shelteredAmong_iff.mp hchildren
      apply lookInto_inStep
      apply classifyGuard_inStep Pass.AgreeOn.steady (Pass.AgreeOn.mono hguard.subset)
        (Guard.passes_agreeOn hguard) _ (.some _)
      apply classifyBody_inStep (Pass.AgreeOn.mono hmore) (runHook_agreeOn hhook) name
      -- The children are attempted as a first-match sequence and then one by one.
      have hsequence : Work.Lockstep (Pass.AgreeOn more) (Pass.AgreeOn more) _
          (eval ctx (.firstMatch name children)).run _ := hattempt hchildren hbehind
      apply (classifyBy_inStep hsequence _).mono (le_refl _) (Pass.AgreeOn.mono hmore)
      intro e
      apply lookInto_inStep
      apply classifyFirst_undoing
      · exact fun rule hmem => hattempt (hrules rule hmem) (hbehind.of_mem hmem)
      · exact fun rule hmem => ih rule hmem (hrules rule hmem) (hbehind.of_mem hmem)
  | mapped f inner ih => exact hplain hrule e
  | custom name cost run => exact hplain hrule e

theorem classify_undoing {rule : GoalRule} (hrule : rule.Sheltered ctx keys)
    (hdiscreet : rule.Discreet (NeverLacks ctx) keys) :
    Work.Lockstep (Pass.AgreeOn keys) (Pass.AgreeOn keys) (Forecast.Matches True)
      (classify ctx rule) (classifyUndoing ctx rule) :=
  classifyBy_inStep
    (hdiscreet.undoing_lockstep (eval_inStep Pass.AgreeOn.steady (inStep_of_sheltered hrule)))
    (classifyFailed_undoing hrule hdiscreet)

end Rule

/-! ## Predictions -/

namespace Prediction

/-- Chains that are sheltered and discreet are predicted as if every abandoned attempt
at a rule, or at rules in it, were undone; and so is each by itself, whatever the scope
holds. -/
theorem abandoned_attempts_leave_no_trace {chains : List GoalRule}
    (hsheltered : ∀ rule ∈ chains, rule.Sheltered ctx keys)
    (hdiscreet : ∀ rule ∈ chains, rule.Discreet (NeverLacks ctx) keys) :
    (∀ engine, ((ofChains chains ctx).run engine).1 =
      ((ofClassification
        (Forecast.additive .nothing false (Rule.classifyEachUndoing ctx chains))).run engine).1) ∧
      ∀ rule ∈ chains, ∀ p : Pass,
        ((rule.classify ctx).run p).1 = ((rule.classifyUndoing ctx).run p).1 := by
  have hclassify : ∀ rule ∈ chains, Work.Lockstep (Pass.AgreeOn keys) (Pass.AgreeOn keys)
      (Forecast.Matches True) (rule.classify ctx) (rule.classifyUndoing ctx) :=
    fun rule hmem => Rule.classify_undoing (hsheltered rule hmem) (hdiscreet rule hmem)
  have hchains : Work.Lockstep (Pass.AgreeOn keys) (Pass.AgreeOn keys) (Forecast.Matches True)
      (Forecast.additive .nothing false (Rule.classifyEach ctx chains))
      (Forecast.additive .nothing false (Rule.classifyEachUndoing ctx chains)) := by
    rw [Rule.classifyEach_eq_map, Rule.classifyEachUndoing_eq_map]
    exact Forecast.additive_inStep (forall₂_map_map.mpr hclassify) (.refl _) false
  constructor
  · exact fun engine => congrArg Forecast.flatten
      ((hchains _ _ (.refl ⟨engine, {}⟩)).1.eq_of_named trivial)
  · exact fun rule hmem p => (hclassify rule hmem p p (.refl p)).1.eq_of_named trivial

/-- A counter, set back before it is counted up and read behind the node that counts;
and a value that one chain leaves for the next. -/
def settled : List GoalRule :=
  [.branch "count"
    (.prepared [fun s => { s with values := s.values.set "visits" (.ofInt 0) }]
      (.test .onAnyPush))
    (some fun _ => do
      let _ ← Probe.increment "visits"
      return ())
    [.fixed (.allOf [.test (.scopeHolds "visits" (.ofInt 1)), .test (.toBranch "main")]) none
      ⟨"build", [.ofName "build"], false⟩],
   .leaf "announce" (.test .onAnyPush) (some fun _ => Probe.set "announced" (.bool true))
     ⟨"announce", [.ofName "announce"], false⟩,
   .fixed (.test (.scopeHolds "announced" (.bool true))) none
     ⟨"deliver", [.ofName "deploy"], false⟩]

theorem settled_sheltered : ∀ rule ∈ settled, rule.Sheltered .empty {"announced"} := by
  apply Rule.shelteredAmong_iff.mp
  refine ⟨?_, ?_, ?_, trivial⟩
  · refine ⟨{"visits", "announced"}, {"visits", "announced"}, Set.subset_insert _ _, ?_, ?_, ?_, ?_⟩
    · exact ⟨_, Set.subset_insert _ _, Probe.Shows.set "visits" (.ofInt 0), le_refl _, .pure true⟩
    · exact (Probe.Shows.increment (Set.mem_insert _ _)).bind (fun _ => .pure ()) (le_refl _)
    · refine ⟨⟨_, _, ⟨le_refl _, PushTest.scopeHolds_shows (Set.mem_insert _ _) _⟩,
        {"visits", "announced"}, ?_, rfl⟩, trivial⟩
      exact ⟨le_refl _, (Probe.Shows.ofExcept _).bind (fun _ => .pure _) (le_refl _)⟩
    · exact .inr ⟨⟨PushTest.scopeHolds_leaves _ _, PushTest.toBranch_leaves _, trivial⟩, trivial⟩
  · exact ⟨_, ⟨le_refl _, .pure true⟩,
      (Probe.Shows.set "announced" (.bool true)).mono (le_refl _) (Set.subset_insert _ _)⟩
  · exact ⟨_, le_refl _, PushTest.scopeHolds_shows (Set.mem_singleton _) _⟩

theorem settled_discreet : ∀ rule ∈ settled, rule.Discreet (NeverLacks .empty) {"announced"} := by
  have hother : "visits" ∉ ({"announced"} : Set String) := by
    rw [Set.mem_singleton_iff]
    decide
  have hcount : ∀ work : Hook, some (fun _ => do
      let _ ← Probe.increment "visits"
      return ()) = some work → Leaves {"announced"} work := by
    rintro _ ⟨⟩
    exact (Leaves.increment hother).bind fun _ => .pure ()
  refine List.forall_mem_cons.mpr ⟨?_, List.forall_mem_cons.mpr ⟨?_,
    List.forall_mem_singleton.mpr ?_⟩⟩
  · exact .inr ⟨⟨Leaves.set hother _, .pure true⟩, hcount,
      ⟨PushTest.scopeHolds_leaves _ _, PushTest.toBranch_leaves _, trivial⟩, trivial⟩
  · left
    refine ⟨fun _ => rfl, ?_⟩
    rintro _ ⟨⟩ scratch
    rfl
  · exact .inr (PushTest.scopeHolds_leaves _ _)

/-- Where the branch is not known, the count and the announcement are as they would be
had nothing been attempted before. -/
theorem settled_leaves_no_trace :
    (∀ rule ∈ settled, rule.Sheltered .empty {"announced"}) ∧
      (∀ rule ∈ settled, rule.Discreet (NeverLacks .empty) {"announced"}) ∧
      ((ofChains settled .empty).run {}).1 =
        ((ofClassification
          (Forecast.additive .nothing false (Rule.classifyEachUndoing .empty settled))).run {}).1 :=
  ⟨settled_sheltered, settled_discreet,
    (abandoned_attempts_leave_no_trace settled_sheltered settled_discreet).1 {}⟩

/-- A node that counts, with a rule behind it for the second visit. -/
def counting : GoalRule :=
  .branch "count" (.test .onAnyPush)
    (some fun _ => do
      let _ ← Probe.increment "visits"
      return ())
    [.fixed (.test (.scopeHolds "visits" (.ofInt 2))) none ⟨"deliver", [.ofName "deploy"], false⟩,
     .fixed (.test (.toBranch "main")) none ⟨"build", [.ofName "build"], false⟩]

/-- The attempt at the node has counted before its structure is walked, which counts
again: the goal of a second visit is predicted as definite, where without the attempt
the goal to build is possible, and only that one is set when the branch is known. -/
theorem abandoned_attempt_counts :
    ((ofChains [counting] .empty).run {}).1.definiteNames = ["deploy"] ∧
      ((ofClassification
        (Forecast.additive .nothing false (Rule.classifyEachUndoing .empty [counting]))).run
          {}).1.definiteNames = [] ∧
      ((ofClassification
        (Forecast.additive .nothing false (Rule.classifyEachUndoing .empty [counting]))).run
          {}).1.possibleNames = ["build"] ∧
      (((Decider.mk [counting] {}).decide (.ofPartial { branch := some "main" })).run {}).1.map
        (fun decision => GoalSet.namesOf decision.goals) = .ok ["build"] := by
  decide +kernel

end Prediction

end PushGoals
