import PushGoals.Proofs.Guard.Standard
import PushGoals.Proofs.Prediction.Outlook

/-!
# Predictions come true

The outlook of a rule is sharpened by what the rule gives once more of the push
is known, under either failure policy.  A rule whose evaluation lacked data needs
one thing more: where its outlook is empty, it does not turn out to be a halt,
for the sequence it stands in goes on behind it.
-/

namespace PushGoals

/-- The forecast `f` of a failed rule leaves room for the outcome `o`. -/
structure Forecast.Foretells (f : Forecast) (o : Outcome GoalSet) : Prop where
  sharpened : f.SharpenedBy (.settled o.value?)
  halt : o = .halt → f.isEmpty = false

namespace Forecast.Foretells

theorem of_unknown {f : Forecast} (hdefinite : f.definite = []) (hunknown : f.unknown ≠ [])
    (o : Outcome GoalSet) : f.Foretells o where
  sharpened := .of_unknown hdefinite hunknown
  halt _ := by simp [isEmpty, hunknown]

theorem road (name reason : String) (o : Outcome GoalSet) :
    (Forecast.road name reason).Foretells o :=
  of_unknown rfl (List.cons_ne_nil _ _) o

theorem nothing : Forecast.nothing.Foretells .noMatch :=
  ⟨.refl Forecast.nothing, fun hhalt => nomatch hhalt⟩

theorem certain (goals : GoalSet) : (Forecast.certain goals).Foretells (.matched goals) :=
  ⟨.refl (Forecast.certain goals), fun hhalt => nomatch hhalt⟩

theorem demote {f : Forecast} {o : Outcome GoalSet} (hf : f.Foretells o) :
    f.demote.Foretells o where
  sharpened := hf.sharpened.demote_left
  halt hhalt := by
    rw [isEmpty_demote]
    exact hf.halt hhalt

theorem demote_noMatch (f : Forecast) : f.demote.Foretells .noMatch :=
  ⟨.nothing rfl, fun hhalt => nomatch hhalt⟩

end Forecast.Foretells

namespace Rule

variable {ctx more : Context} {policy : FailurePolicy}

theorem outlookBy_sharpened {answer later : Except GoalError (Outcome GoalSet)}
    {failed : GoalError → Forecast} {o : Outcome GoalSet} (hkept : SuccessKept answer later)
    (hlater : later = .ok o)
    (hfailed : ∀ e, answer = .error e → (failed e).SharpenedBy (.settled o.value?)) :
    (outlookBy answer failed).SharpenedBy (.settled o.value?) := by
  cases answer with
  | error e => exact hfailed e rfl
  | ok outcome =>
      have hsame : outcome = o := by
        have hok := hkept outcome rfl
        rw [hlater] at hok
        cases hok
        rfl
      subst hsame
      exact .refl _

theorem outlookGuard_foretells {guard : Guard} (hstable : guard.Every Stable)
    (hmore : ctx.ExtendedBy more) (name : String) {body : Forecast}
    {later : Except GoalError (Outcome GoalSet)}
    (hbody : ∀ o, policy.supervised later = .ok o → body.Foretells o) {o : Outcome GoalSet}
    (hlater : policy.supervised (do if ← guard.holds more then later else return .noMatch) =
      .ok o) :
    (outlookGuard name guard ctx (some body)).Foretells o := by
  have hkept := Guard.holds_stable hstable hmore
  unfold outlookGuard
  cases hnow : guard.holds ctx with
  | ok passes =>
      rw [hkept.success passes hnow] at hlater
      cases passes with
      | true => exact hbody o hlater
      | false =>
          have hnone : o = .noMatch := supervised_ok_inj hlater
          subst hnone
          exact .nothing
  | error e =>
      by_cases hdata : e.isInsufficientData = true
      · simp only [if_pos hdata]
        cases hthen : guard.holds more with
        | ok passes =>
            rw [hthen] at hlater
            cases passes with
            | true => exact (hbody o hlater).demote
            | false =>
                have hnone : o = .noMatch := supervised_ok_inj hlater
                subst hnone
                exact .demote_noMatch body
        | error d =>
            rw [hthen] at hlater
            rw [supervised_error_eq_ok hlater]
            exact .demote_noMatch body
      · simp only [if_neg hdata]
        exact .road name e.message o

/-- A halt that could not be decided is an unknown road. -/
theorem outlookGuard_of_halting {guard : Guard} {reason : Option String} {e : GoalError}
    (hnow : (halting guard reason : GoalRule).answer .failFast ctx = .error e) (name : String) :
    ∃ text, outlookGuard name guard ctx none = .road name text := by
  unfold answer at hnow
  unfold outlookGuard
  cases hholds : guard.holds ctx with
  | ok passes =>
      rw [hholds] at hnow
      cases passes <;> cases hnow
  | error d =>
      by_cases hdata : d.isInsufficientData = true
      · exact ⟨"may halt: " ++ d.message, if_pos hdata⟩
      · exact ⟨d.message, if_neg hdata⟩

theorem outlookBody_foretells {hook : Option Hook}
    (hstable : ∀ work, hook = some work → Stable work) (hmore : ctx.ExtendedBy more)
    (name : String) {body : Forecast} {later : Except GoalError (Outcome GoalSet)}
    (hbody : ∀ o, policy.supervised later = .ok o → body.Foretells o) (o : Outcome GoalSet)
    (hlater : policy.supervised (do answerHook hook more; later) = .ok o) :
    (outlookBody name hook ctx body).Foretells o := by
  have hkept := answerHook_stable hstable hmore
  unfold outlookBody
  cases hnow : answerHook hook ctx with
  | ok _ =>
      rw [hkept.success _ hnow] at hlater
      exact hbody o hlater
  | error e =>
      by_cases hdata : e.isInsufficientData = true
      · simp only [if_pos hdata]
        apply Forecast.Foretells.of_unknown rfl
        simp [Forecast.withRoad]
      · simp only [if_neg hdata]
        exact .road name e.message o

theorem outlookFirst_sharpened {rules : List GoalRule}
    (hstable : ∀ rule ∈ rules, rule.Every Stable) (hmore : ctx.ExtendedBy more)
    (hfailed : ∀ rule ∈ rules, ∀ e, rule.answer .failFast ctx = .error e →
      ∀ o, policy.supervised (rule.answer policy more) = .ok o →
        (outlookFailed ctx e rule).Foretells o)
    {o : Outcome GoalSet} (hlater : answerFirst policy more rules = .ok o) :
    (outlookFirst ctx rules).SharpenedBy (.settled o.value?) := by
  induction rules with
  | nil =>
      cases hlater
      exact .refl Forecast.nothing
  | cons rule rest ih =>
      obtain ⟨hstableHead, hstableRest⟩ := List.forall_mem_cons.mp hstable
      obtain ⟨hfailedHead, hfailedRest⟩ := List.forall_mem_cons.mp hfailed
      unfold answerFirst at hlater
      unfold outlookFirst
      cases hnow : rule.answer .failFast ctx with
      | ok outcome =>
          rw [answer_settled hstableHead hmore policy outcome hnow] at hlater
          cases outcome with
          | matched goals =>
              cases hlater
              exact .refl (Forecast.certain goals)
          | noMatch => exact ih hstableRest hfailedRest hlater
          | halt =>
              cases hlater
              exact .refl Forecast.nothing
      | error e =>
          obtain ⟨outcome, hhead, hrest⟩ := ok_of_bind hlater
          have hforetold := hfailedHead e hnow outcome hhead
          cases outcome with
          | matched goals =>
              cases hrest
              exact hforetold.sharpened.orElse_head rfl _
          | noMatch => exact (ih hstableRest hfailedRest hrest).orElse_tail _
          | halt =>
              cases hrest
              exact .nothing (Forecast.definite_orElse (hforetold.halt rfl) _)

theorem lookInto_foretells (name : String) (e : GoalError) {f : Forecast} {o : Outcome GoalSet}
    (hf : f.Foretells o) :
    (if !e.isInsufficientData then Forecast.road name e.message else f).Foretells o := by
  by_cases hroad : (!e.isInsufficientData) = true
  · rw [if_pos hroad]
    exact .road name e.message o
  · rw [if_neg hroad]
    exact hf

theorem outlookSequence_foretells {rules : List GoalRule}
    (hstable : ∀ rule ∈ rules, rule.Every Stable) (hmore : ctx.ExtendedBy more)
    (hfailed : ∀ rule ∈ rules, ∀ e, rule.answer .failFast ctx = .error e →
      ∀ o, policy.supervised (rule.answer policy more) = .ok o →
        (outlookFailed ctx e rule).Foretells o)
    (name : String) (e : GoalError) (o : Outcome GoalSet)
    (hlater : policy.supervised (answerFirst policy more rules) = .ok o) :
    (if !e.isInsufficientData then Forecast.road name e.message
      else outlookFirst ctx rules).Foretells o := by
  rw [supervised_answerFirst] at hlater
  apply lookInto_foretells
  refine ⟨outlookFirst_sharpened hstable hmore hfailed hlater, ?_⟩
  intro hhalt
  rw [hhalt] at hlater
  exact absurd hlater (answerFirst_ne_halt more policy rules)

theorem outlook_sharpened_of_failed {rule : GoalRule} (hstable : rule.Every Stable)
    (hmore : ctx.ExtendedBy more)
    (hfailed : ∀ e, rule.answer .failFast ctx = .error e →
      ∀ o, policy.supervised (rule.answer policy more) = .ok o →
        (outlookFailed ctx e rule).Foretells o)
    {o : Outcome GoalSet} (hlater : policy.supervised (rule.answer policy more) = .ok o) :
    (rule.outlook ctx).SharpenedBy (.settled o.value?) :=
  outlookBy_sharpened (answer_settled hstable hmore policy) hlater
    fun e hnow => (hfailed e hnow o hlater).sharpened

theorem ofOption_foretold {f : Forecast} {given : Option GoalSet}
    (hf : f.SharpenedBy (.settled given)) : f.Foretells (.ofOption given) := by
  cases given with
  | none => exact ⟨hf, fun hhalt => nomatch hhalt⟩
  | some goals => exact ⟨hf, fun hhalt => nomatch hhalt⟩

theorem outlookEach_sharpened {rules : List GoalRule}
    (hrules : ∀ rule ∈ rules, ∀ o, policy.supervised (rule.answer policy more) = .ok o →
      (rule.outlook ctx).SharpenedBy (.settled o.value?))
    {outcomes : List (Outcome GoalSet)}
    (hlater : Eval.collect (answerEach policy more rules) = .ok outcomes) :
    (Forecast.nothing.addUp false (outlookEach ctx rules)).SharpenedBy
      (.settled (GoalSet.merge (outcomes.filterMap Outcome.value?))) := by
  have hgiven : List.Forall₂ Forecast.SharpenedBy (outlookEach ctx rules)
      ((outcomes.map Outcome.value?).map Forecast.settled) := by
    rw [Eval.collect_eq_ok_iff] at hlater
    induction rules generalizing outcomes with
    | nil =>
        rw [List.map_eq_nil_iff.mp hlater.symm]
        exact .nil
    | cons rule rest ih =>
        obtain ⟨hhead, hrest⟩ := List.forall_mem_cons.mp hrules
        cases outcomes with
        | nil => cases hlater
        | cons outcome outcomes =>
            obtain ⟨hanswer, hanswers⟩ := List.cons.inj hlater
            exact .cons (hhead outcome hanswer) (ih hrest hanswers)
  apply Forecast.SharpenedBy.addUp_joined hgiven
  rw [List.filterMap_map]
  exact GoalSet.joins_merge (outcomes.filterMap Outcome.value?)

theorem enriched_sharpened {name : String} {base extension : GoalRule}
    (hbase : ∀ o, policy.supervised (base.answer policy more) = .ok o →
      (base.outlook ctx).SharpenedBy (.settled o.value?))
    (hextension : ∀ o, policy.supervised (extension.answer policy more) = .ok o →
      (extension.outlook ctx).SharpenedBy (.settled o.value?))
    {o : Outcome GoalSet} (hlater : (enriched name base extension).answer policy more = .ok o) :
    (Forecast.nothing.addUp false [base.outlook ctx, extension.outlook ctx]).Foretells o := by
  unfold answer at hlater
  obtain ⟨given, hgiven, hrest⟩ := ok_of_bind hlater
  by_cases hclosed : closed given.value? = true
  · rw [if_pos hclosed] at hrest
    cases hrest
    apply ofOption_foretold
    exact (hbase given hgiven).addUp_closed hclosed _
  · rw [if_neg hclosed] at hrest
    obtain ⟨added, hadded, hcombined⟩ := ok_of_bind hrest
    cases hcombined
    have hjoins := GoalSet.joins_combine (Bool.eq_false_iff.mpr hclosed) added.value?
    apply ofOption_foretold
    apply Forecast.SharpenedBy.addUp_joined _ hjoins
    exact .cons (hbase given hgiven) (.cons (hextension added hadded) .nil)

/-- The outlook of a rule that lacked data foretells what comes of the rule. -/
theorem outlookFailed_foretells {rule : GoalRule} (hstable : rule.Every Stable)
    (hmore : ctx.ExtendedBy more) (e : GoalError) (hnow : rule.answer .failFast ctx = .error e)
    (o : Outcome GoalSet) (hlater : policy.supervised (rule.answer policy more) = .ok o) :
    (outlookFailed ctx e rule).Foretells o := by
  induction rule using Rule.induct generalizing e o with
  | fixed guard reason value =>
      apply lookInto_foretells
      apply outlookGuard_foretells hstable hmore _ _ hlater
      intro o ho
      rw [supervised_ok_inj ho]
      exact .certain value
  | halting guard reason =>
      apply lookInto_foretells
      obtain ⟨text, hroad⟩ := outlookGuard_of_halting hnow (statedName guard reason)
      rw [hroad]
      exact .road _ text o
  | computed key guard reason compute => exact .road _ _ o
  | firstMatch name rules ih =>
      have hmembers := everyAmong_iff.mp hstable
      exact outlookSequence_foretells hmembers hmore
        (fun rule hrule => ih rule hrule (hmembers rule hrule)) name e o hlater
  | allMatches name contributors ih =>
      have hmembers := everyAmong_iff.mp hstable
      rw [supervised_allMatches] at hlater
      unfold answer at hlater
      obtain ⟨outcomes, houtcomes, hmerged⟩ := ok_of_bind hlater
      cases hmerged
      apply lookInto_foretells
      apply ofOption_foretold
      apply outlookEach_sharpened _ houtcomes
      intro rule hrule o ho
      exact outlook_sharpened_of_failed (hmembers rule hrule) hmore
        (ih rule hrule (hmembers rule hrule)) ho
  | enriched name base extension ihBase ihExtension =>
      rw [supervised_enriched] at hlater
      apply lookInto_foretells
      refine enriched_sharpened ?_ ?_ hlater
      · exact fun o ho => outlook_sharpened_of_failed hstable.1 hmore (ihBase hstable.1) ho
      · exact fun o ho => outlook_sharpened_of_failed hstable.2 hmore (ihExtension hstable.2) ho
  | leaf name guard hook value =>
      apply lookInto_foretells
      apply outlookGuard_foretells hstable.1 hmore name _ hlater
      apply outlookBody_foretells hstable.2 hmore
      intro o ho
      rw [supervised_ok_inj ho]
      exact .certain value
  | branch name guard hook children ih =>
      have hmembers := everyAmong_iff.mp hstable.2.2
      have hfailed := fun rule hrule => ih rule hrule (hmembers rule hrule)
      apply lookInto_foretells
      apply outlookGuard_foretells hstable.1 hmore name _ hlater
      apply outlookBody_foretells hstable.2.1 hmore
      intro o ho
      -- Behind its hook a node is the first-match sequence of its children.
      have hsequence : (firstMatch name children).Every Stable := hstable.2.2
      have hsharpened : ((firstMatch name children).outlook ctx).SharpenedBy
          (.settled o.value?) :=
        outlook_sharpened_of_failed hsequence hmore
          (fun e _ => outlookSequence_foretells hmembers hmore hfailed name e) ho
      refine ⟨hsharpened, ?_⟩
      intro hhalt
      rw [supervised_answerFirst, hhalt] at ho
      exact absurd ho (answerFirst_ne_halt more policy children)
  | mapped f inner ih => exact .road _ _ o
  | custom name cost run => exact .road _ _ o

/-- What a rule gives when more is known sharpens its outlook. -/
theorem outlook_sharpened {rule : GoalRule} (hstable : rule.Every Stable)
    (hmore : ctx.ExtendedBy more) {o : Outcome GoalSet}
    (hlater : policy.supervised (rule.answer policy more) = .ok o) :
    (rule.outlook ctx).SharpenedBy (.settled o.value?) :=
  outlook_sharpened_of_failed hstable hmore (outlookFailed_foretells hstable hmore) hlater

end Rule

namespace Decider

theorem Reliable.outlook_sharpened {decider : Decider} (hrules : decider.Reliable)
    {ctx more : Context} (hmore : ctx.ExtendedBy more) {goals : Option GoalSet}
    (hanswer : decider.answer more = .ok goals) :
    (decider.outlook ctx).SharpenedBy (.settled goals) := by
  unfold answer at hanswer
  obtain ⟨outcomes, houtcomes, hmerged⟩ := ok_of_bind hanswer
  cases hmerged
  apply Rule.outlookEach_sharpened _ houtcomes
  intro rule hrule o ho
  exact Rule.outlook_sharpened (hrules.stable rule hrule) hmore ho

/-- A prediction comes from a forecast that every later decision sharpens. -/
theorem Reliable.prediction_sharpened {decider : Decider} (hrules : decider.Reliable)
    {ctx more : Context} (hmore : ctx.ExtendedBy more) {engine later : Engine}
    (hengine : engine.caches.Empty) (hlater : later.caches.Empty) {decision : Decision}
    (hdecide : ((decider.decide more).run later).1 = .ok decision) :
    ∃ f : Forecast, ((decider.predict ctx).run engine).1 = f.flatten ∧
      f.SharpenedBy (.settled decision.goals) := by
  obtain ⟨f, hflatten, halike⟩ := hrules.predict_alike ctx hengine
  have hanswer := answer_of_decide hrules hlater hdecide
  exact ⟨f, hflatten, halike.sharpened.trans (hrules.outlook_sharpened hmore hanswer)⟩

/-- Two chains: pushes that pass the gate are deployed and others only built, and
every push is checked. -/
def gated (gate : Guard) : Decider where
  chains :=
    [.firstMatch "delivery"
      [.fixed gate none ⟨"deploy", [.ofName "build", .ofName "deploy"], false⟩,
       .fixed (.test .onAnyPush) none ⟨"build", [.ofName "build"], false⟩],
     .fixed (.test .onAnyPush) none ⟨"check", [.ofName "check"], false⟩]

theorem gated_reliable {gate : Guard} (hfree : gate.Every ScopeFree) (hstable : gate.Every Stable)
    (hnames : Guard.SameNamed gate.remembered) : (gated gate).Reliable := by
  refine ⟨Rule.everyAmong_iff.mp ?_, Rule.everyAmong_iff.mp ?_, ?_⟩
  · exact ⟨⟨hfree, PushTest.onAnyPush_lasting.scopeFree, trivial⟩,
      PushTest.onAnyPush_lasting.scopeFree, trivial⟩
  · exact ⟨⟨hstable, PushTest.onAnyPush_lasting.stable, trivial⟩,
      PushTest.onAnyPush_lasting.stable, trivial⟩
  · have hremembered : (gated gate).chains.flatMap Rule.remembered = gate.remembered := by
      simp [gated, Rule.remembered, Guard.remembered]
    rw [hremembered]
    exact hnames

/-- A gate of a cheap and an expensive test; the expensive one is remembered. -/
def dockerGate : Guard := .allOf [.test (.toBranch "main"), .test (.hasFile "Dockerfile")]

def dockerPush : Context :=
  (Context.ofPush ⟨⟨"owner", "repo", "main"⟩, "main", [], none⟩).withProject
    (.inMemory [("Dockerfile", "")] [])

theorem gated_docker_reliable : (gated dockerGate).Reliable := by
  have hbranch := PushTest.toBranch_lasting "main"
  have hfile := PushTest.hasFile_lasting "Dockerfile"
  apply gated_reliable
  · exact ⟨hbranch.scopeFree, hfile.scopeFree, trivial⟩
  · exact ⟨hbranch.stable, hfile.stable, trivial⟩
  · have hremembered : dockerGate.remembered = [.test (.hasFile "Dockerfile")] := rfl
    rw [hremembered]
    intro g hg h hh _ ctx
    rw [List.mem_singleton.mp hg, List.mem_singleton.mp hh]

theorem gated_docker_decides : ∃ decision,
    (((gated dockerGate).decide dockerPush).run {}).1 = .ok decision ∧
      GoalSet.namesOf decision.goals = ["build", "deploy", "check"] := by
  have hnames : (((gated dockerGate).decide dockerPush).run {}).1.map
      (fun decision => GoalSet.namesOf decision.goals) = .ok ["build", "deploy", "check"] := by
    decide
  exact ok_of_map hnames

/-! ## What a prediction promises -/

variable {decider : Decider} {ctx more : Context} {engine later : Engine} {decision : Decision}

/-- Definite goals are really set: whatever becomes known of the push, a decision
sets every goal that was predicted as definite.  Either failure policy will do,
and rules with hooks, mapped rules and rules of the caller's own are included. -/
theorem definite_goals_are_set (hrules : decider.Reliable) (hmore : ctx.ExtendedBy more)
    (hengine : engine.caches.Empty) (hlater : later.caches.Empty)
    (hdecide : ((decider.decide more).run later).1 = .ok decision) :
    ∀ name ∈ ((decider.predict ctx).run engine).1.definiteNames,
      name ∈ GoalSet.namesOf decision.goals := by
  obtain ⟨f, hflatten, hsharpened⟩ :=
    hrules.prediction_sharpened hmore hengine hlater hdecide
  intro name hname
  rw [hflatten, Forecast.mem_definiteNames_flatten] at hname
  have hset := hsharpened.definite name hname
  rw [Forecast.definiteNames_settled] at hset
  exact hset

/-- Of a push of which nothing is known yet, the check is definite, and it is set
when the push turns out to be one to deploy. -/
theorem definite_check_is_set :
    "check" ∈ (((gated dockerGate).predict .empty).run {}).1.definiteNames ∧
      ∃ decision, (((gated dockerGate).decide dockerPush).run {}).1 = .ok decision ∧
        "check" ∈ GoalSet.namesOf decision.goals := by
  have hcheck : "check" ∈ (((gated dockerGate).predict .empty).run {}).1.definiteNames := by
    decide +kernel
  obtain ⟨decision, hdecide, _⟩ := gated_docker_decides
  refine ⟨hcheck, decision, hdecide, ?_⟩
  exact definite_goals_are_set gated_docker_reliable (Context.empty_extendedBy dockerPush)
    Caches.empty_default Caches.empty_default hdecide "check" hcheck

/-- A prediction misses nothing: whatever becomes known of the push, a decision
sets no goal that was not predicted, unless there was an unknown road. -/
theorem prediction_misses_nothing (hrules : decider.Reliable) (hmore : ctx.ExtendedBy more)
    (hengine : engine.caches.Empty) (hlater : later.caches.Empty)
    (hdecide : ((decider.decide more).run later).1 = .ok decision) :
    ∀ name ∈ GoalSet.namesOf decision.goals,
      name ∈ ((decider.predict ctx).run engine).1.definiteNames ∨
        name ∈ ((decider.predict ctx).run engine).1.possibleNames ∨
          ((decider.predict ctx).run engine).1.unknownRoads ≠ [] := by
  obtain ⟨f, hflatten, hsharpened⟩ :=
    hrules.prediction_sharpened hmore hengine hlater hdecide
  intro name hname
  rw [hflatten]
  by_cases hknown : f.unknown = []
  · have hpredicted : name ∈ f.names := by
      apply hsharpened.named hknown
      rw [Forecast.names_settled]
      exact hname
    rcases Forecast.mem_names_flatten.mpr hpredicted with hdefinite | hpossible
    · exact .inl hdefinite
    · exact .inr (.inl hpossible)
  · exact .inr (.inr hknown)

/-- The goal to deploy, set once the push is known, was predicted before. -/
theorem deployment_was_not_missed :
    ∃ decision, (((gated dockerGate).decide dockerPush).run {}).1 = .ok decision ∧
      "deploy" ∈ GoalSet.namesOf decision.goals ∧
      ("deploy" ∈ (((gated dockerGate).predict .empty).run {}).1.definiteNames ∨
        "deploy" ∈ (((gated dockerGate).predict .empty).run {}).1.possibleNames ∨
          (((gated dockerGate).predict .empty).run {}).1.unknownRoads ≠ []) := by
  obtain ⟨decision, hdecide, hnames⟩ := gated_docker_decides
  have hdeploy : "deploy" ∈ GoalSet.namesOf decision.goals := by
    rw [hnames]
    decide
  refine ⟨decision, hdecide, hdeploy, ?_⟩
  exact prediction_misses_nothing gated_docker_reliable (Context.empty_extendedBy dockerPush)
    Caches.empty_default Caches.empty_default hdecide "deploy" hdeploy

end Decider

end PushGoals
