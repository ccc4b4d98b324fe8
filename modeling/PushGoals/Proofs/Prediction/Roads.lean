import PushGoals.Proofs.Prediction.Lockstep
import PushGoals.Proofs.Rule.Alarm

/-!
# Alarms and unknown roads

When a rule whose evaluation failed is walked, its parts are evaluated once more, and
what breaks then becomes an unknown road.  What had broken before does so only if the
walk is sure to come to it again: a rule is honest if its evaluation does not raise the
alarm without failing, in a way that leaves a road to be found by every later walk.
Walks of rules whose parts are honest report the alarm by a road.
-/

namespace PushGoals

variable {alarm : Journal → Prop} {inv : Pass → Prop} {ctx : Context}

namespace Forecast

/-- Some road is unknown. -/
def HasRoad (f : Forecast) : Prop := f.unknown ≠ []

variable {f g : Forecast}

theorem hasRoad_road (name reason : String) : (road name reason).HasRoad :=
  List.cons_ne_nil _ _

theorem hasRoad_withRoad (f : Forecast) (name reason : String) :
    (f.withRoad name reason).HasRoad :=
  List.append_ne_nil_of_right_ne_nil _ (List.cons_ne_nil _ _)

theorem HasRoad.demote (hf : f.HasRoad) : f.demote.HasRoad := hf

theorem HasRoad.merge_left (hf : f.HasRoad) : (f.merge g).HasRoad :=
  List.append_ne_nil_of_left_ne_nil hf _

theorem HasRoad.merge_right (hg : g.HasRoad) : (f.merge g).HasRoad :=
  List.append_ne_nil_of_right_ne_nil _ hg

theorem hasRoad_orElse {head tail : Forecast} (hroad : head.HasRoad ∨ tail.HasRoad) :
    (head.orElse tail).HasRoad := by
  by_cases hempty : head.isEmpty = true
  · rw [orElse_of_isEmpty hempty]
    refine hroad.resolve_left ?_
    intro hhead
    simp [isEmpty, show head.unknown ≠ [] from hhead] at hempty
  · unfold HasRoad
    rw [unknown_orElse (Bool.eq_false_iff.mpr hempty)]
    exact hroad.elim (fun hhead => List.append_ne_nil_of_left_ne_nil hhead _)
      (List.append_ne_nil_of_right_ne_nil _)

theorem HasRoad.ite_demote (hf : f.HasRoad) (lockPossible : Bool) :
    (if lockPossible then f.demote else f).HasRoad := by
  cases lockPossible with
  | false => exact hf
  | true => exact hf.demote

theorem HasRoad.additive (hf : f.HasRoad) (lockPossible : Bool) (steps : List (Work Forecast))
    (p : Pass) : ((additive f lockPossible steps).run p).1.HasRoad := by
  induction steps generalizing f lockPossible p with
  | nil => exact hf
  | cons step rest ih =>
      unfold Forecast.additive
      rw [Work.run_bind]
      generalize (if lockPossible then (step.run p).1.demote else (step.run p).1) = next
      simp only
      by_cases hlocks : next.locks = true
      · rw [if_pos hlocks]
        exact hf.merge_left
      · rw [if_neg hlocks]
        exact ih hf.merge_left _ _

theorem additive_reports {steps : List (Work Forecast)}
    (hsteps : ∀ step ∈ steps, Work.Reports alarm inv step HasRoad) (f : Forecast)
    (lockPossible : Bool) :
    Work.Reports alarm inv (additive f lockPossible steps) HasRoad := by
  induction steps generalizing f lockPossible with
  | nil => exact .pure f
  | cons step rest ih =>
      obtain ⟨hhead, hrest⟩ := List.forall_mem_cons.mp hsteps
      unfold additive
      apply hhead.bind
      · intro given
        generalize (if lockPossible then given.demote else given) = next
        simp only
        by_cases hlocks : next.locks = true
        · simp only [if_pos hlocks]
          exact .pure _
        · simp only [if_neg hlocks]
          exact ih hrest _ _
      · intro given hgiven p _
        have hnext := hgiven.ite_demote lockPossible
        generalize (if lockPossible then given.demote else given) = next at hnext ⊢
        simp only
        by_cases hlocks : next.locks = true
        · simp only [if_pos hlocks]
          exact hnext.merge_right
        · simp only [if_neg hlocks]
          exact hnext.merge_right.additive _ _ _

end Forecast

namespace Rule

/-- From every pass with `inv` the work finds an unknown road. -/
def FindsRoad (inv : Pass → Prop) (work : Work Forecast) : Prop :=
  ∀ p, inv p → (work.run p).1.HasRoad

/-- Walking a rule that has broken is no walk at all. -/
theorem classifyFailed_findsRoad (rule : GoalRule) {e : GoalError}
    (hreal : e.isInsufficientData = false) : FindsRoad inv (classifyFailed ctx e rule) := by
  intro p _
  have hlook : (!e.isInsufficientData) = true := by rw [hreal]; rfl
  cases rule <;> simp only [classifyFailed, if_pos hlook] <;> exact Forecast.hasRoad_road _ _

/-- If the evaluation raises the alarm, it fails with an error that leads to a road. -/
def Attempt (alarm : Journal → Prop) (inv : Pass → Prop) (evaluation : Eval (Outcome GoalSet))
    (failed : GoalError → Work Forecast) : Prop :=
  Work.Reports alarm inv evaluation.run fun answer =>
    ∃ e, answer = .error e ∧ FindsRoad inv (failed e)

/-- The rule owns up to what breaks in its evaluation. -/
def Honest (alarm : Journal → Prop) (inv : Pass → Prop) (ctx : Context) (rule : GoalRule) :
    Prop :=
  Attempt alarm inv (rule.eval ctx) fun e => classifyFailed ctx e rule

theorem classifyBy_reports {evaluation : Eval (Outcome GoalSet)}
    {failed : GoalError → Work Forecast} (hattempt : Attempt alarm inv evaluation failed)
    (hfailed : ∀ e, Work.Reports alarm inv (failed e) Forecast.HasRoad) :
    Work.Reports alarm inv (classifyBy evaluation failed) Forecast.HasRoad := by
  unfold classifyBy
  apply Work.Reports.bind hattempt
  · intro answer
    cases answer with
    | ok outcome => cases outcome <;> exact .pure _
    | error e => exact hfailed e
  · rintro _ ⟨e, rfl, hroad⟩ p hp
    exact hroad p hp

theorem classifyGuard_reports (hemit : ∀ p e, inv p → inv (p.emit e)) {guard : Guard}
    (hguard : Work.Reports alarm inv (guard.passes ctx).run Breaks) (name : String)
    {behind : Option (Work Forecast)}
    (hbehind : ∀ body, behind = some body → Work.Reports alarm inv body Forecast.HasRoad) :
    Work.Reports alarm inv (classifyGuard name guard ctx behind) Forecast.HasRoad := by
  unfold classifyGuard
  have hlogged : Work.Reports alarm inv
      (modify (·.emit (.guardAlone name guard.name guard.cost)) : Work PUnit) fun _ => False :=
    .modify (fun p => hemit p _) fun _ => rfl
  apply hlogged.bind _ fun _ hfalse => hfalse.elim
  intro _
  apply hguard.bind
  · intro answer
    cases answer with
    | ok passes =>
        cases passes with
        | false => exact .pure _
        | true =>
            cases behind with
            | none => exact .pure _
            | some body => exact hbehind body rfl
    | error e =>
        by_cases hdata : e.isInsufficientData = true
        · simp only [if_pos hdata]
          cases behind with
          | none => exact .pure _
          | some body => exact (hbehind body rfl).bind (fun _ => .pure _) fun _ hf _ _ => hf.demote
        · simp only [if_neg hdata]
          exact .pure _
  · rintro _ ⟨e, rfl, hreal⟩ p _
    simp only [hreal]
    exact Forecast.hasRoad_road _ _

theorem classifyBody_reports {hook : Option Hook}
    (hhook : Work.Reports alarm inv (runHook hook ctx).run Breaks) (name : String)
    {body : Work Forecast} (hbody : Work.Reports alarm inv body Forecast.HasRoad) :
    Work.Reports alarm inv (classifyBody name hook ctx body) Forecast.HasRoad := by
  unfold classifyBody
  apply hhook.bind
  · intro answer
    cases answer with
    | ok _ => exact hbody
    | error e =>
        by_cases hdata : e.isInsufficientData = true
        · simp only [if_pos hdata]
          exact hbody.bind (fun _ => .pure _) fun _ _ _ _ => Forecast.hasRoad_withRoad _ _ _
        · simp only [if_neg hdata]
          exact .pure _
  · rintro _ ⟨e, rfl, hreal⟩ p _
    simp only [hreal]
    exact Forecast.hasRoad_road _ _

theorem classifyFirst_reports {rules : List GoalRule}
    (hhonest : ∀ rule ∈ rules, rule.Honest alarm inv ctx)
    (hfailed : ∀ rule ∈ rules, ∀ e,
      Work.Reports alarm inv (classifyFailed ctx e rule) Forecast.HasRoad) :
    Work.Reports alarm inv (classifyFirst ctx rules) Forecast.HasRoad := by
  induction rules with
  | nil => exact .pure _
  | cons rule rest ih =>
      obtain ⟨hhead, hrest⟩ := List.forall_mem_cons.mp hhonest
      obtain ⟨hfailedHead, hfailedRest⟩ := List.forall_mem_cons.mp hfailed
      unfold Honest Attempt at hhead
      unfold classifyFirst
      apply hhead.bind
      · intro answer
        cases answer with
        | ok outcome =>
            cases outcome with
            | matched goals => exact .pure _
            | noMatch => exact ih hrest hfailedRest
            | halt => exact .pure _
        | error e =>
            apply (hfailedHead e).bind
            · intro head
              apply (ih hrest hfailedRest).bind (fun _ => .pure _)
              exact fun tail htail _ _ => Forecast.hasRoad_orElse (.inr htail)
            · exact fun head hhead _ _ => Forecast.hasRoad_orElse (.inl hhead)
      · rintro _ ⟨e, rfl, hroad⟩ p hp
        exact Forecast.hasRoad_orElse (.inl (hroad p hp))

theorem lookInto_reports (name : String) (e : GoalError) {work : Work Forecast}
    (hwork : Work.Reports alarm inv work Forecast.HasRoad) :
    Work.Reports alarm inv (if !e.isInsufficientData then return .road name e.message else work)
      Forecast.HasRoad := by
  by_cases hroad : (!e.isInsufficientData) = true
  · rw [if_pos hroad]
    exact .pure _
  · rw [if_neg hroad]
    exact hwork

/-- The parts of rules over work with `P`, in which contributors stand in `pair` and
which remember guards in `known`, are honest. -/
structure Attested (alarm : Journal → Prop) (inv : Pass → Prop) (ctx : Context)
    (P : {α : Type} → (Context → Probe α) → Prop) (pair : GoalRule → GoalRule → Prop)
    (known : List Guard) : Prop where
  emit : ∀ p e, inv p → inv (p.emit e)
  hook : ∀ {hook : Option Hook}, (∀ work, hook = some work → Rings alarm ctx work) →
    (∀ work, hook = some work → P work) → Work.Reports alarm inv (runHook hook ctx).run Breaks
  guard : ∀ {guard : Guard}, guard.remembered ⊆ known → guard.Every (Rings alarm ctx) →
    guard.Every P → guard.Unmasked ctx → Work.Reports alarm inv (guard.passes ctx).run Breaks
  rule : ∀ {rule : GoalRule}, rule.remembered ⊆ known → rule.Every (Rings alarm ctx) →
    rule.Every P → rule.Unmasked ctx pair → rule.Honest alarm inv ctx

variable {P : {α : Type} → (Context → Probe α) → Prop} {pair : GoalRule → GoalRule → Prop}
  {known : List Guard}

theorem classifyFailed_reports (hparts : Attested alarm inv ctx P pair known) {rule : GoalRule}
    (hmem : rule.remembered ⊆ known) (hrings : rule.Every (Rings alarm ctx))
    (hP : rule.Every P) (hrule : rule.Unmasked ctx pair) (e : GoalError) :
    Work.Reports alarm inv (classifyFailed ctx e rule) Forecast.HasRoad := by
  have hhonest {rules : List GoalRule} (hmem : rememberedAmong rules ⊆ known)
      (hrings : EveryAmong (Rings alarm ctx) rules) (hP : EveryAmong P rules)
      (hrules : UnmaskedAmong ctx pair rules) : ∀ rule ∈ rules, rule.Honest alarm inv ctx :=
    fun rule hin => hparts.rule (remembered_of_mem hmem hin) (everyAmong_iff.mp hrings rule hin)
      (everyAmong_iff.mp hP rule hin) (unmaskedAmong_iff.mp hrules rule hin)
  have hwalks {rules : List GoalRule}
      (ih : ∀ rule ∈ rules, rule.remembered ⊆ known → rule.Every (Rings alarm ctx) →
        rule.Every P → rule.Unmasked ctx pair → ∀ e,
          Work.Reports alarm inv (classifyFailed ctx e rule) Forecast.HasRoad)
      (hmem : rememberedAmong rules ⊆ known)
      (hrings : EveryAmong (Rings alarm ctx) rules) (hP : EveryAmong P rules)
      (hrules : UnmaskedAmong ctx pair rules) : ∀ rule ∈ rules, ∀ e,
        Work.Reports alarm inv (classifyFailed ctx e rule) Forecast.HasRoad :=
    fun rule hin => ih rule hin (remembered_of_mem hmem hin) (everyAmong_iff.mp hrings rule hin)
      (everyAmong_iff.mp hP rule hin) (unmaskedAmong_iff.mp hrules rule hin)
  induction rule using Rule.induct generalizing e with
  | fixed guard reason value =>
      apply lookInto_reports
      apply classifyGuard_reports hparts.emit (hparts.guard hmem hrings hP hrule)
      rintro _ ⟨⟩
      apply classifyBody_reports _ _ (.pure _)
      exact hparts.hook (fun _ hwork => nomatch hwork) fun _ hwork => nomatch hwork
  | halting guard reason =>
      apply lookInto_reports
      apply classifyGuard_reports hparts.emit (hparts.guard hmem hrings hP hrule)
      exact fun _ hbody => nomatch hbody
  | computed key guard reason compute => exact fun p hp => ⟨hp, .inl⟩
  | firstMatch name rules ih =>
      apply lookInto_reports
      exact classifyFirst_reports (hhonest hmem hrings hP hrule) (hwalks ih hmem hrings hP hrule)
  | allMatches name contributors ih =>
      apply lookInto_reports
      apply Forecast.additive_reports
      rw [classifyEach_eq_map, List.forall_mem_map]
      exact fun rule hin => classifyBy_reports (hhonest hmem hrings hP hrule.1 rule hin)
        (hwalks ih hmem hrings hP hrule.1 rule hin)
  | enriched name base extension ihBase ihExtension =>
      obtain ⟨hmemBase, hmemExtension⟩ := List.append_subset.mp hmem
      apply lookInto_reports
      apply Forecast.additive_reports
      refine List.forall_mem_cons.mpr ⟨?_, List.forall_mem_singleton.mpr ?_⟩
      · exact classifyBy_reports (hparts.rule hmemBase hrings.1 hP.1 hrule.1)
          (ihBase hmemBase hrings.1 hP.1 hrule.1)
      · exact classifyBy_reports (hparts.rule hmemExtension hrings.2 hP.2 hrule.2)
          (ihExtension hmemExtension hrings.2 hP.2 hrule.2)
  | leaf name guard hook value =>
      apply lookInto_reports
      apply classifyGuard_reports hparts.emit (hparts.guard hmem hrings.1 hP.1 hrule)
      rintro _ ⟨⟩
      exact classifyBody_reports (hparts.hook hrings.2 hP.2) _ (.pure _)
  | branch name guard hook children ih =>
      obtain ⟨hmemGuard, hmemChildren⟩ := List.append_subset.mp hmem
      apply lookInto_reports
      apply classifyGuard_reports hparts.emit (hparts.guard hmemGuard hrings.1 hP.1 hrule.1)
      rintro _ ⟨⟩
      apply classifyBody_reports (hparts.hook hrings.2.1 hP.2.1)
      -- The children are attempted as a first-match sequence.
      have hsequence : Honest alarm inv ctx (.firstMatch name children) :=
        hparts.rule hmemChildren hrings.2.2 hP.2.2 hrule.2
      apply classifyBy_reports hsequence
      intro e
      apply lookInto_reports
      exact classifyFirst_reports (hhonest hmemChildren hrings.2.2 hP.2.2 hrule.2)
        (hwalks ih hmemChildren hrings.2.2 hP.2.2 hrule.2)
  | mapped f inner ih => exact fun p hp => ⟨hp, .inl⟩
  | custom name cost run => exact .pure _

theorem classify_reports (hparts : Attested alarm inv ctx P pair known) {rule : GoalRule}
    (hmem : rule.remembered ⊆ known) (hrings : rule.Every (Rings alarm ctx))
    (hP : rule.Every P) (hrule : rule.Unmasked ctx pair) :
    Work.Reports alarm inv (rule.classify ctx) Forecast.HasRoad :=
  classifyBy_reports (hparts.rule hmem hrings hP hrule)
    (classifyFailed_reports hparts hmem hrings hP hrule)

end Rule

end PushGoals
