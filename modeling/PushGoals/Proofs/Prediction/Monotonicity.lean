import PushGoals.Proofs.Prediction.Soundness

/-!
# Knowing more sharpens a prediction

When all work fails for want of data only, the outlook of a rule is sharpened by
its outlook for any context that knows more.  A rule that is decided there falls
under what a prediction promises of decisions; a rule that still lacks data is
looked into as before, and its parts are sharpened one by one.
-/

namespace PushGoals

namespace Rule

variable {ctx more : Context}

/-- Outlooks are compared part by part only while both lack data. -/
theorem outlook_mono_of_failed {rule : GoalRule} (hstable : rule.Every Stable)
    (hmore : ctx.ExtendedBy more)
    (hfailed : ∀ e, rule.answer .failFast ctx = .error e →
      ∀ d, rule.answer .failFast more = .error d →
        (outlookFailed ctx e rule).SharpenedBy (outlookFailed more d rule)) :
    (rule.outlook ctx).SharpenedBy (rule.outlook more) := by
  cases hthen : rule.answer .failFast more with
  | ok o =>
      have hsettled : rule.outlook more = .settled o.value? := by
        unfold outlook outlookBy
        rw [hthen]
      have hlater : FailurePolicy.failFast.supervised (rule.answer .failFast more) = .ok o := hthen
      rw [hsettled]
      exact outlook_sharpened hstable hmore hlater
  | error d =>
      cases hnow : rule.answer .failFast ctx with
      | ok o =>
          rw [(answer_stable hstable hmore).success o hnow] at hthen
          cases hthen
      | error e =>
          unfold outlook outlookBy
          rw [hthen, hnow]
          exact hfailed e hnow d hthen

theorem outlookGuard_mono {guard : Guard} (hstable : guard.Every Stable)
    (hdata : guard.Every FailsForData) (hmore : ctx.ExtendedBy more) (name : String)
    {body later : Forecast} (hbody : body.SharpenedBy later) :
    (outlookGuard name guard ctx (some body)).SharpenedBy
      (outlookGuard name guard more (some later)) := by
  have hkept := Guard.holds_stable hstable hmore
  unfold outlookGuard
  cases hnow : guard.holds ctx with
  | ok passes =>
      rw [hkept.success passes hnow]
      cases passes with
      | false => exact .refl Forecast.nothing
      | true => exact hbody
  | error e =>
      simp only [if_pos (Guard.holds_lacksDataOnly hdata ctx e hnow)]
      cases hthen : guard.holds more with
      | ok passes =>
          cases passes with
          | false => exact .nothing rfl
          | true => exact hbody.demote_left
      | error d =>
          simp only [if_pos (Guard.holds_lacksDataOnly hdata more d hthen)]
          exact hbody.demote

theorem outlookBody_mono {hook : Option Hook}
    (hstable : ∀ work, hook = some work → Stable work) (hmore : ctx.ExtendedBy more)
    (name : String) {body later : Forecast} (hbody : body.SharpenedBy later) :
    (outlookBody name hook ctx body).SharpenedBy (outlookBody name hook more later) := by
  unfold outlookBody
  cases hnow : answerHook hook ctx with
  | ok _ =>
      rw [(answerHook_stable hstable hmore).success _ hnow]
      exact hbody
  | error e =>
      by_cases hlacks : e.isInsufficientData = true
      · simp only [if_pos hlacks]
        exact .withRoad body name e.message
      · simp only [if_neg hlacks]
        exact .road name e.message

theorem outlookFirst_mono {rules : List GoalRule}
    (hstable : ∀ rule ∈ rules, rule.Every Stable) (hmore : ctx.ExtendedBy more)
    (hfailed : ∀ rule ∈ rules, ∀ e, rule.answer .failFast ctx = .error e →
      ∀ d, rule.answer .failFast more = .error d →
        (outlookFailed ctx e rule).SharpenedBy (outlookFailed more d rule)) :
    (outlookFirst ctx rules).SharpenedBy (outlookFirst more rules) := by
  induction rules with
  | nil => exact .refl Forecast.nothing
  | cons rule rest ih =>
      obtain ⟨hstableHead, hstableRest⟩ := List.forall_mem_cons.mp hstable
      obtain ⟨hfailedHead, hfailedRest⟩ := List.forall_mem_cons.mp hfailed
      have hrest := ih hstableRest hfailedRest
      unfold outlookFirst
      cases hnow : rule.answer .failFast ctx with
      | ok outcome =>
          rw [(answer_stable hstableHead hmore).success outcome hnow]
          cases outcome with
          | matched goals => exact .refl (Forecast.certain goals)
          | noMatch => exact hrest
          | halt => exact .refl Forecast.nothing
      | error e =>
          cases hthen : rule.answer .failFast more with
          | error d => exact (hfailedHead e hnow d hthen).orElse hrest
          | ok outcome =>
              have hlater : FailurePolicy.failFast.supervised (rule.answer .failFast more) =
                  .ok outcome := hthen
              have hforetold := outlookFailed_foretells hstableHead hmore e hnow outcome hlater
              cases outcome with
              | matched goals => exact hforetold.sharpened.orElse_head rfl _
              | noMatch => exact hrest.orElse_tail _
              | halt => exact .nothing (Forecast.definite_orElse (hforetold.halt rfl) _)

theorem outlookEach_mono {rules : List GoalRule}
    (hrules : ∀ rule ∈ rules, (rule.outlook ctx).SharpenedBy (rule.outlook more)) :
    (Forecast.nothing.addUp false (outlookEach ctx rules)).SharpenedBy
      (Forecast.nothing.addUp false (outlookEach more rules)) := by
  refine Forecast.SharpenedBy.addUp ?_ (.refl Forecast.nothing) id
  rw [outlookEach_eq_map, outlookEach_eq_map, forall₂_map_map]
  exact hrules

theorem lookInto_mono (name : String) (e : GoalError) {d : GoalError}
    (hlacks : d.isInsufficientData = true) {f g : Forecast} (hf : f.SharpenedBy g) :
    (if !e.isInsufficientData then Forecast.road name e.message else f).SharpenedBy
      (if !d.isInsufficientData then Forecast.road name d.message else g) := by
  have hlooked : (if !d.isInsufficientData then Forecast.road name d.message else g) = g := by
    rw [hlacks]
    rfl
  rw [hlooked]
  by_cases hroad : (!e.isInsufficientData) = true
  · rw [if_pos hroad]
    exact .road name e.message
  · rw [if_neg hroad]
    exact hf

/-- The outlook of a rule that lacks data is sharpened as long as it lacks data. -/
theorem outlookFailed_mono {rule : GoalRule} (hstable : rule.Every Stable)
    (hdata : rule.Every FailsForData) (hmore : ctx.ExtendedBy more) (e : GoalError)
    (hnow : rule.answer .failFast ctx = .error e) (d : GoalError)
    (hthen : rule.answer .failFast more = .error d) :
    (outlookFailed ctx e rule).SharpenedBy (outlookFailed more d rule) := by
  induction rule using Rule.induct generalizing e d with
  | fixed guard reason value =>
      apply lookInto_mono _ e (answer_lacksDataOnly more hdata d hthen)
      exact outlookGuard_mono hstable hdata hmore _ (.refl (Forecast.certain value))
  | halting guard reason =>
      apply lookInto_mono _ e (answer_lacksDataOnly more hdata d hthen)
      obtain ⟨text, hroad⟩ := outlookGuard_of_halting hnow (statedName guard reason)
      rw [hroad]
      exact .road _ text
  | computed key guard reason compute => exact .road _ _
  | firstMatch name rules ih =>
      have hmembers := everyAmong_iff.mp hstable
      have hmembersData := everyAmong_iff.mp hdata
      apply lookInto_mono _ e (answer_lacksDataOnly more hdata d hthen)
      apply outlookFirst_mono hmembers hmore
      exact fun rule hrule => ih rule hrule (hmembers rule hrule) (hmembersData rule hrule)
  | allMatches name contributors ih =>
      have hmembers := everyAmong_iff.mp hstable
      have hmembersData := everyAmong_iff.mp hdata
      apply lookInto_mono _ e (answer_lacksDataOnly more hdata d hthen)
      apply outlookEach_mono
      intro rule hrule
      apply outlook_mono_of_failed (hmembers rule hrule) hmore
      exact ih rule hrule (hmembers rule hrule) (hmembersData rule hrule)
  | enriched name base extension ihBase ihExtension =>
      have hbase := outlook_mono_of_failed hstable.1 hmore (ihBase hstable.1 hdata.1)
      have hextension := outlook_mono_of_failed hstable.2 hmore (ihExtension hstable.2 hdata.2)
      apply lookInto_mono _ e (answer_lacksDataOnly more hdata d hthen)
      exact Forecast.SharpenedBy.addUp (.cons hbase (.cons hextension .nil))
        (.refl Forecast.nothing) id
  | leaf name guard hook value =>
      apply lookInto_mono _ e (answer_lacksDataOnly more hdata d hthen)
      apply outlookGuard_mono hstable.1 hdata.1 hmore
      exact outlookBody_mono hstable.2 hmore name (.refl (Forecast.certain value))
  | branch name guard hook children ih =>
      have hmembers := everyAmong_iff.mp hstable.2.2
      have hmembersData := everyAmong_iff.mp hdata.2.2
      -- Behind its hook a node is the first-match sequence of its children.
      have hsequenceStable : (firstMatch name children).Every Stable := hstable.2.2
      have hsequenceData : (firstMatch name children).Every FailsForData := hdata.2.2
      have hsequence : ((firstMatch name children).outlook ctx).SharpenedBy
          ((firstMatch name children).outlook more) := by
        apply outlook_mono_of_failed hsequenceStable hmore
        intro e _ d hd
        apply lookInto_mono _ e (answer_lacksDataOnly more hsequenceData d hd)
        apply outlookFirst_mono hmembers hmore
        exact fun rule hrule => ih rule hrule (hmembers rule hrule) (hmembersData rule hrule)
      apply lookInto_mono _ e (answer_lacksDataOnly more hdata d hthen)
      apply outlookGuard_mono hstable.1 hdata.1 hmore
      exact outlookBody_mono hstable.2.1 hmore name hsequence
  | mapped f inner ih => exact .road _ _
  | custom name cost run => exact .road _ _

theorem outlook_mono {rule : GoalRule} (hstable : rule.Every Stable)
    (hdata : rule.Every FailsForData) (hmore : ctx.ExtendedBy more) :
    (rule.outlook ctx).SharpenedBy (rule.outlook more) :=
  outlook_mono_of_failed hstable hmore (outlookFailed_mono hstable hdata hmore)

end Rule

namespace Decider

variable {decider : Decider} {ctx more : Context} {engine later : Engine}

theorem Reliable.outlook_mono (hrules : decider.Reliable)
    (hdata : ∀ rule ∈ decider.chains, rule.Every FailsForData) (hmore : ctx.ExtendedBy more) :
    (decider.outlook ctx).SharpenedBy (decider.outlook more) := by
  apply Rule.outlookEach_mono
  exact fun rule hrule =>
    Rule.outlook_mono (hrules.stable rule hrule) (hdata rule hrule) hmore

theorem gated_branch_reliable : (gated (.test (.toBranch "main"))).Reliable := by
  have hbranch := PushTest.toBranch_lasting "main"
  apply gated_reliable
  · exact hbranch.scopeFree
  · exact hbranch.stable
  · intro g hg
    cases hg

theorem gated_failsForData {gate : Guard} (hgate : gate.Every FailsForData) :
    ∀ rule ∈ (gated gate).chains, rule.Every FailsForData := by
  apply Rule.everyAmong_iff.mp
  exact ⟨⟨hgate, PushTest.onAnyPush_failsForData, trivial⟩,
    PushTest.onAnyPush_failsForData, trivial⟩

/-- Knowing more only sharpens a prediction: what was definite stays definite, and
where no road was unknown, no road becomes unknown and no goal comes up that was
not predicted. -/
theorem knowing_more_sharpens (hrules : decider.Reliable)
    (hdata : ∀ rule ∈ decider.chains, rule.Every FailsForData) (hmore : ctx.ExtendedBy more)
    (hengine : engine.caches.Empty) (hlater : later.caches.Empty) :
    let early := ((decider.predict ctx).run engine).1
    let late := ((decider.predict more).run later).1
    (∀ name ∈ early.definiteNames, name ∈ late.definiteNames) ∧
      (early.unknownRoads = [] →
        late.unknownRoads = [] ∧
          ∀ name, name ∈ late.definiteNames ∨ name ∈ late.possibleNames →
            name ∈ early.definiteNames ∨ name ∈ early.possibleNames) := by
  obtain ⟨f, hearly, hf⟩ := hrules.predict_alike ctx hengine
  obtain ⟨g, hlate, hg⟩ := hrules.predict_alike more hlater
  have hsharpened : f.SharpenedBy g :=
    (hf.sharpened.trans (hrules.outlook_mono hdata hmore)).trans hg.sharpens
  simp only [hearly, hlate]
  refine ⟨?_, ?_⟩
  · intro name hname
    rw [Forecast.mem_definiteNames_flatten] at hname ⊢
    exact hsharpened.definite name hname
  · intro hknown
    refine ⟨hsharpened.known hknown, ?_⟩
    intro name hname
    rw [Forecast.mem_names_flatten] at hname ⊢
    exact hsharpened.named hknown name hname

/-- Once the branch is known to be another one, the check is still definite, no
road is unknown, and the build was predicted before. -/
theorem branch_sharpens_prediction :
    let early := (((gated (.test (.toBranch "main"))).predict .empty).run {}).1
    let late :=
      (((gated (.test (.toBranch "main"))).predict (.ofPartial { branch := some "dev" })).run {}).1
    "check" ∈ late.definiteNames ∧ late.unknownRoads = [] ∧
      ("build" ∈ early.definiteNames ∨ "build" ∈ early.possibleNames) := by
  have hempty : ({} : Engine).caches.Empty := Caches.empty_default
  obtain ⟨hdefinite, hknown⟩ := knowing_more_sharpens gated_branch_reliable
    (gated_failsForData (PushTest.toBranch_failsForData "main"))
    (Context.empty_extendedBy (.ofPartial { branch := some "dev" })) hempty hempty
  have hcheck :
      "check" ∈ (((gated (.test (.toBranch "main"))).predict .empty).run {}).1.definiteNames := by
    decide +kernel
  have hroads :
      (((gated (.test (.toBranch "main"))).predict .empty).run {}).1.unknownRoads = [] := by
    decide +kernel
  obtain ⟨hlateRoads, hpredicted⟩ := hknown hroads
  have hbuild :
      "build" ∈ (((gated (.test (.toBranch "main"))).predict
        (.ofPartial { branch := some "dev" })).run {}).1.definiteNames := by
    decide +kernel
  exact ⟨hdefinite "check" hcheck, hlateRoads, hpredicted "build" (.inl hbuild)⟩

end Decider

end PushGoals
