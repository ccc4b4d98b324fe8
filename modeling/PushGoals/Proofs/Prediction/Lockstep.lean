import PushGoals.Proofs.Prediction.Outlook
import PushGoals.Proofs.Rule.Lockstep

/-!
# Classifications in lockstep

From related passes a rule in step is classified alike: the forecasts have the same
sets, and their roads have the same reasons.  The roads also bear the same names if
the passes have learned the same.
-/

namespace PushGoals

variable {ctx : Context} {R S T : Pass → Pass → Prop} {named : Prop}

/-- Roads of one reason; if `named`, of one name too. -/
def UnknownRoad.Matches (named : Prop) (r s : UnknownRoad) : Prop :=
  r.reason = s.reason ∧ (named → r.name = s.name)

namespace Forecast

/-- The same sets, and roads that match one by one. -/
structure Matches (named : Prop) (f g : Forecast) : Prop where
  definite : f.definite = g.definite
  possible : f.possible = g.possible
  unknown : List.Forall₂ (UnknownRoad.Matches named) f.unknown g.unknown

namespace Matches

variable {f f' g g' : Forecast}

theorem refl (f : Forecast) : f.Matches named f where
  definite := rfl
  possible := rfl
  unknown := List.forall₂_same.mpr fun _ _ => ⟨rfl, fun _ => rfl⟩

theorem road {name other : String} (hname : named → name = other) (reason : String) :
    (Forecast.road name reason).Matches named (Forecast.road other reason) :=
  ⟨rfl, rfl, .cons ⟨rfl, hname⟩ .nil⟩

theorem merge (hf : f.Matches named f') (hg : g.Matches named g') :
    (f.merge g).Matches named (f'.merge g') where
  definite := by rw [Forecast.merge, Forecast.merge, hf.definite, hg.definite]
  possible := by rw [Forecast.merge, Forecast.merge, hf.possible, hg.possible]
  unknown := List.rel_append hf.unknown hg.unknown

theorem demote (hf : f.Matches named g) : f.demote.Matches named g.demote where
  definite := rfl
  possible := by rw [Forecast.demote, Forecast.demote, hf.definite, hf.possible]
  unknown := hf.unknown

theorem withRoad (hf : f.Matches named g) {name other : String} (hname : named → name = other)
    (reason : String) : (f.withRoad name reason).Matches named (g.withRoad other reason) where
  definite := hf.definite
  possible := hf.possible
  unknown := List.rel_append hf.unknown (.cons ⟨rfl, hname⟩ .nil)

theorem unknown_isEmpty_eq (hf : f.Matches named g) : f.unknown.isEmpty = g.unknown.isEmpty := by
  have hunknown := hf.unknown
  generalize f.unknown = roads at hunknown
  generalize g.unknown = others at hunknown
  cases hunknown <;> rfl

theorem isEmpty_eq (hf : f.Matches named g) : f.isEmpty = g.isEmpty := by
  rw [isEmpty, isEmpty, hf.definite, hf.possible, hf.unknown_isEmpty_eq]

theorem locks_eq (hf : f.Matches named g) : f.locks = g.locks := by
  rw [locks, locks, hf.definite]

theorem mayLock_eq (hf : f.Matches named g) : f.mayLock = g.mayLock := by
  rw [mayLock, mayLock, hf.definite, hf.possible, hf.unknown_isEmpty_eq]

theorem orElse (hf : f.Matches named f') (hg : g.Matches named g') :
    (f.orElse g).Matches named (f'.orElse g') := by
  unfold Forecast.orElse
  rw [hf.isEmpty_eq]
  by_cases hempty : f'.isEmpty = true
  · rw [if_pos hempty, if_pos hempty]
    exact hg
  · rw [if_neg hempty, if_neg hempty]
    refine ⟨rfl, ?_, List.rel_append hf.unknown hg.unknown⟩
    rw [hf.definite, hf.possible, hg.definite, hg.possible]

theorem eq_of_named (hf : f.Matches named g) (hnamed : named) : f = g := by
  have hroads : List.Forall₂ (· = ·) f.unknown g.unknown := by
    apply hf.unknown.imp
    rintro ⟨name, reason⟩ ⟨other, text⟩ ⟨hreason, hname⟩
    rw [UnknownRoad.mk.injEq]
    exact ⟨hname hnamed, hreason⟩
  rw [List.forall₂_eq_eq_eq] at hroads
  obtain ⟨definite, possible, unknown⟩ := f
  obtain ⟨definite', possible', unknown'⟩ := g
  rw [mk.injEq]
  exact ⟨hf.definite, hf.possible, hroads⟩

end Matches

theorem additive_inStep {steps again : List (Work Forecast)}
    (hsteps : List.Forall₂ (Work.Lockstep R R (Matches named)) steps again) {f g : Forecast}
    (hf : f.Matches named g) (lockPossible : Bool) :
    Work.Lockstep R R (Matches named) (additive f lockPossible steps)
      (additive g lockPossible again) := by
  induction hsteps generalizing f g lockPossible with
  | nil => exact Work.Lockstep.pure hf
  | cons hstep _ ih =>
      unfold additive
      apply hstep.bind
      intro given other hgiven
      have hcounted : (if lockPossible then given.demote else given).Matches named
          (if lockPossible then other.demote else other) := by
        cases lockPossible with
        | false => exact hgiven
        | true => exact hgiven.demote
      generalize (if lockPossible then given.demote else given) = counted at hcounted ⊢
      generalize (if lockPossible then other.demote else other) = expected at hcounted ⊢
      simp only
      rw [hcounted.locks_eq, hcounted.mayLock_eq]
      by_cases hlocks : expected.locks = true
      · simp only [if_pos hlocks]
        exact Work.Lockstep.pure (hf.merge hcounted)
      · simp only [if_neg hlocks]
        exact ih (hf.merge hcounted) (lockPossible || expected.mayLock)

end Forecast

namespace Rule

theorem classifyBy_inStep {evaluation again : Eval (Outcome GoalSet)}
    {failed failedAgain : GoalError → Work Forecast}
    (heval : Work.Lockstep R R (· = ·) evaluation.run again.run)
    (hfailed : ∀ e, Work.Lockstep R R (Forecast.Matches named) (failed e) (failedAgain e)) :
    Work.Lockstep R R (Forecast.Matches named) (classifyBy evaluation failed)
      (classifyBy again failedAgain) := by
  unfold classifyBy
  apply heval.bind
  rintro answer _ rfl
  cases answer with
  | ok outcome => cases outcome <;> exact Work.Lockstep.pure (.refl _)
  | error e => exact hfailed e

/-- The guard may narrow the relation for what stands behind it. -/
theorem classifyGuard_inStep (hR : Steady named R) (hSR : S ≤ R) {guard : Guard}
    (hguard : Eval.InStep R S (guard.passes ctx)) (name : String)
    {behind behindAgain : Option (Work Forecast)}
    (hbehind : Option.Rel (Work.Lockstep S R (Forecast.Matches named)) behind behindAgain) :
    Work.Lockstep R R (Forecast.Matches named) (classifyGuard name guard ctx behind)
      (classifyGuard name guard ctx behindAgain) := by
  have hsettled (f : Forecast) :
      Work.Lockstep S R (Forecast.Matches named) (pure f) (pure f) :=
    (Work.Lockstep.pure (.refl f)).mono (le_refl S) hSR
  unfold classifyGuard
  apply (hR.log fun _ => rfl).bind
  rintro ⟨⟩ ⟨⟩ _
  apply Work.Lockstep.bind hguard
  rintro answer _ rfl
  cases answer with
  | ok passes =>
      cases passes with
      | false => exact hsettled _
      | true =>
          cases hbehind with
          | none => exact hsettled _
          | some hbody => exact hbody
  | error e =>
      by_cases hlacking : e.isInsufficientData = true
      · simp only [if_pos hlacking]
        cases hbehind with
        | none => exact hsettled _
        | some hbody =>
            apply hbody.bind
            intro given other hgiven
            exact Work.Lockstep.pure hgiven.demote
      · simp only [if_neg hlacking]
        exact hsettled _

/-- The hook may narrow the relation for the body. -/
theorem classifyBody_inStep (hTR : T ≤ R) {hook : Option Hook}
    (hhook : Eval.InStep S T (runHook hook ctx)) (name : String) {body bodyAgain : Work Forecast}
    (hbody : Work.Lockstep T R (Forecast.Matches named) body bodyAgain) :
    Work.Lockstep S R (Forecast.Matches named) (classifyBody name hook ctx body)
      (classifyBody name hook ctx bodyAgain) := by
  unfold classifyBody
  apply Work.Lockstep.bind hhook
  rintro answer _ rfl
  cases answer with
  | ok _ => exact hbody
  | error e =>
      by_cases hlacking : e.isInsufficientData = true
      · simp only [if_pos hlacking]
        apply hbody.bind
        intro given other hgiven
        exact Work.Lockstep.pure (hgiven.demote.withRoad (fun _ => rfl) e.message)
      · simp only [if_neg hlacking]
        exact (Work.Lockstep.pure (.refl _)).mono (le_refl T) hTR

theorem namedRoad_inStep (hR : Steady named R) (rule : GoalRule) (e : GoalError) :
    Work.Lockstep R R (Forecast.Matches named)
      (do
        let called ← rule.currentName
        return Forecast.road called e.message)
      (do
        let called ← rule.currentName
        return Forecast.road called e.message) := by
  apply (hR.currentName rule).bind
  intro called again hcalled
  exact Work.Lockstep.pure (.road hcalled e.message)

theorem lookInto_inStep (name : String) (e : GoalError) {work again : Work Forecast}
    (hwork : Work.Lockstep R R (Forecast.Matches named) work again) :
    Work.Lockstep R R (Forecast.Matches named)
      (if !e.isInsufficientData then return .road name e.message else work)
      (if !e.isInsufficientData then return .road name e.message else again) := by
  by_cases hroad : (!e.isInsufficientData) = true
  · rw [if_pos hroad, if_pos hroad]
    exact Work.Lockstep.pure (.refl _)
  · rw [if_neg hroad, if_neg hroad]
    exact hwork

theorem classifyFirst_inStep {rules : List GoalRule}
    (heval : ∀ rule ∈ rules, Eval.InStep R R (rule.eval ctx))
    (hfailed : ∀ rule ∈ rules, ∀ e, Work.Lockstep R R (Forecast.Matches named)
      (classifyFailed ctx e rule) (classifyFailed ctx e rule)) :
    Work.Lockstep R R (Forecast.Matches named) (classifyFirst ctx rules)
      (classifyFirst ctx rules) := by
  induction rules with
  | nil => exact Work.Lockstep.pure (.refl _)
  | cons rule rest ih =>
      obtain ⟨hevalHead, hevalRest⟩ := List.forall_mem_cons.mp heval
      obtain ⟨hfailedHead, hfailedRest⟩ := List.forall_mem_cons.mp hfailed
      unfold classifyFirst
      apply Work.Lockstep.bind hevalHead
      rintro answer _ rfl
      cases answer with
      | ok outcome =>
          cases outcome with
          | matched goals => exact Work.Lockstep.pure (.refl _)
          | noMatch => exact ih hevalRest hfailedRest
          | halt => exact Work.Lockstep.pure (.refl _)
      | error e =>
          apply (hfailedHead e).bind
          intro head headAgain hhead
          apply (ih hevalRest hfailedRest).bind
          intro tail tailAgain htail
          exact Work.Lockstep.pure (hhead.orElse htail)

theorem classifyEach_inStep {rules : List GoalRule}
    (heval : ∀ rule ∈ rules, Eval.InStep R R (rule.eval ctx))
    (hfailed : ∀ rule ∈ rules, ∀ e, Work.Lockstep R R (Forecast.Matches named)
      (classifyFailed ctx e rule) (classifyFailed ctx e rule)) :
    List.Forall₂ (Work.Lockstep R R (Forecast.Matches named)) (classifyEach ctx rules)
      (classifyEach ctx rules) := by
  rw [classifyEach_eq_map]
  exact forall₂_map_map.mpr fun rule hrule =>
    classifyBy_inStep (heval rule hrule) (hfailed rule hrule)

/-- From related passes the structure of a rule in step is walked alike. -/
theorem classifyFailed_inStep {rule : GoalRule} (hR : Steady named R)
    (hrule : rule.InStep named ctx R) (e : GoalError) :
    Work.Lockstep R R (Forecast.Matches named) (classifyFailed ctx e rule)
      (classifyFailed ctx e rule) := by
  have heval {rules : List GoalRule} {R : Pass → Pass → Prop} (hR : Steady named R)
      (hrules : InStepAmong named ctx R rules) :
      ∀ rule ∈ rules, Eval.InStep R R (rule.eval ctx) :=
    fun rule hmem => eval_inStep hR (inStepAmong_iff.mp hrules rule hmem)
  have hfailed {rules : List GoalRule} {R : Pass → Pass → Prop} (hR : Steady named R)
      (ih : ∀ rule ∈ rules, ∀ {R : Pass → Pass → Prop}, Steady named R →
        rule.InStep named ctx R → ∀ e, Work.Lockstep R R (Forecast.Matches named)
          (classifyFailed ctx e rule) (classifyFailed ctx e rule))
      (hrules : InStepAmong named ctx R rules) :
      ∀ rule ∈ rules, ∀ e, Work.Lockstep R R (Forecast.Matches named)
        (classifyFailed ctx e rule) (classifyFailed ctx e rule) :=
    fun rule hmem e => ih rule hmem hR (inStepAmong_iff.mp hrules rule hmem) e
  induction rule using Rule.induct generalizing R e with
  | fixed guard reason value =>
      apply lookInto_inStep
      apply classifyGuard_inStep hR (le_refl R) hrule _ (.some _)
      exact classifyBody_inStep (le_refl R) (Eval.InStep.ok (le_refl R) ()) _
        (Work.Lockstep.pure (.refl _))
  | halting guard reason =>
      apply lookInto_inStep
      exact classifyGuard_inStep hR (le_refl R) hrule _ .none
  | computed key guard reason compute => exact namedRoad_inStep hR _ e
  | firstMatch name rules ih =>
      apply lookInto_inStep
      exact classifyFirst_inStep (heval hR hrule) (hfailed hR ih hrule)
  | allMatches name contributors ih =>
      apply lookInto_inStep
      exact Forecast.additive_inStep
        (classifyEach_inStep (heval hR hrule) (hfailed hR ih hrule)) (.refl _) false
  | enriched name base extension ihBase ihExtension =>
      apply lookInto_inStep
      refine Forecast.additive_inStep (.cons ?_ (.cons ?_ .nil)) (.refl _) false
      · exact classifyBy_inStep (eval_inStep hR hrule.1) (ihBase hR hrule.1)
      · exact classifyBy_inStep (eval_inStep hR hrule.2) (ihExtension hR hrule.2)
  | leaf name guard hook value =>
      obtain ⟨S, hSR, hguard, hhook⟩ := hrule
      apply lookInto_inStep
      apply classifyGuard_inStep hR hSR hguard _ (.some _)
      exact classifyBody_inStep (le_refl R) hhook name (Work.Lockstep.pure (.refl _))
  | branch name guard hook children ih =>
      obtain ⟨S, hSR, T, hTR, hguard, hhook, hT, hchildren⟩ := hrule
      have hevalChildren := heval hT hchildren
      apply lookInto_inStep
      apply classifyGuard_inStep hR hSR hguard _ (.some _)
      apply classifyBody_inStep hTR hhook name
      apply Work.Lockstep.mono _ (le_refl T) hTR
      apply classifyBy_inStep (evalFirst_inStep hT hevalChildren)
      intro e
      apply lookInto_inStep
      exact classifyFirst_inStep hevalChildren (hfailed hT ih hchildren)
  | mapped f inner ih => exact namedRoad_inStep hR _ e
  | custom name cost run => exact Work.Lockstep.pure (.refl _)

theorem classify_inStep {rule : GoalRule} (hR : Steady named R)
    (hrule : rule.InStep named ctx R) :
    Work.Lockstep R R (Forecast.Matches named) (classify ctx rule) (classify ctx rule) :=
  classifyBy_inStep (eval_inStep hR hrule) (classifyFailed_inStep hR hrule)

end Rule

end PushGoals
