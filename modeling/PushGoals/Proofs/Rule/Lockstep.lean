import PushGoals.Proofs.Isolation
import PushGoals.Proofs.Lockstep

/-!
# Rules in lockstep

A rule is in step for a relation between passes when its guards, hooks and
computations are.  What stands behind a guard may be in step for a narrower relation
only, one that the hook of the node brings about.  Such a rule evaluates to the same
in passes that are related.
-/

namespace PushGoals

variable {ctx : Context} {R S T : Pass → Pass → Prop} {named : Prop}

theorem Eval.memoized_inStep {ref : CacheRef} {name : String} {step : Eval (Outcome Bool)}
    (hlookUp : ∀ id, ctx.id = some id →
      Work.Lockstep R R (· = ·) (lookUp ref ⟨id, name⟩) (lookUp ref ⟨id, name⟩))
    (hremember : ∀ id v, ctx.id = some id →
      Work.Lockstep R R (· = ·) (remember ref ⟨id, name⟩ v) (remember ref ⟨id, name⟩ v))
    (hstep : InStep R R step) : InStep R R (memoized ctx ref name step) := by
  unfold memoized
  cases hid : ctx.id with
  | none => exact hstep
  | some id =>
      apply InStep.lift_bind (hlookUp id hid)
      rintro hit _ rfl
      cases hit with
      | some v => exact InStep.ok (le_refl R) (Outcome.matched v)
      | none =>
          apply hstep.bind _ (le_refl R)
          intro outcome
          cases outcome with
          | matched v => exact (hremember id v hid).then_ok (Outcome.matched v)
          | noMatch => exact InStep.ok (le_refl R) Outcome.noMatch
          | halt => exact InStep.ok (le_refl R) Outcome.halt

namespace Guard

/-- Remembering their answers keeps the guards in step. -/
def RememberedInStep (R : Pass → Pass → Prop) (ctx : Context) (guards : List Guard) : Prop :=
  ∀ ref, ∀ guard ∈ guards, Eval.InStep R R (guard.eval ctx) →
    Eval.InStep R R (Eval.memoized ctx ref guard.name (guard.eval ctx))

theorem RememberedInStep.mono {guards fewer : List Guard} (hguards : RememberedInStep R ctx guards)
    (hfewer : fewer ⊆ guards) : RememberedInStep R ctx fewer :=
  fun ref guard hguard => hguards ref guard (hfewer hguard)

/-- A guard whose tests are in step is in step itself, if its remembered parts are. -/
theorem eval_inStep {P : {α : Type} → (Context → Probe α) → Prop} {guard : Guard}
    (hprobe : ∀ {α : Type} {work : Context → Probe α}, P work →
      Eval.InStep R R (Eval.ofProbe (work ctx)))
    (hmemo : RememberedInStep R ctx guard.remembered) (hguard : guard.Every P) :
    Eval.InStep R R (guard.eval ctx) := by
  have hformula {parts : List Guard}
      (ih : ∀ g ∈ parts, RememberedInStep R ctx g.remembered → g.Every P →
        Eval.InStep R R (g.eval ctx))
      (hmemo : RememberedInStep R ctx (rememberedAmong parts)) (hparts : EveryAmong P parts) :
      Eval.InStep R R (Eval.allSettled (evalEach ctx parts)) := by
    apply Eval.InStep.allSettled
    rw [evalEach_eq_map, List.forall_mem_map]
    rw [rememberedAmong_eq_flatMap] at hmemo
    intro g hg
    have hwithin : g.remembered ⊆ parts.flatMap remembered :=
      fun inner hinner => List.mem_flatMap_of_mem hg hinner
    exact ih g hg (hmemo.mono hwithin) (everyAmong_iff.mp hparts g hg)
  induction guard using Guard.induct with
  | test t => exact (hprobe hguard).map Outcome.matched
  | custom name cost run => exact hprobe hguard
  | all parts ih => exact (hformula ih hmemo hguard).map _
  | any parts ih => exact (hformula ih hmemo hguard).map _
  | negation inner ih => exact (ih hmemo hguard).map _
  | memo cache inner ih =>
      exact hmemo cache inner List.mem_cons_self
        (ih (hmemo.mono (List.subset_cons_self inner _)) hguard)
  | prepared preparations inner ih =>
      exact (hprobe hguard.1).bind (fun _ => ih hmemo hguard.2) (le_refl R)
  | mapped f inner ih => exact (ih hmemo hguard).map _

end Guard

namespace Rule

variable {V : Type}

/-- What a computed rule does once its guard has passed. -/
def computation (key : RuleKey) (guard : Guard) (reason : Option String)
    (compute : Context → String → Probe (Option String × V)) (ctx : Context) :
    Eval (Outcome V) := do
  let given ← Eval.ofProbe (compute ctx (statedName guard reason))
  Eval.learn key given.1
  return .matched given.2

mutual

/-- In passes in `R` the rule meets the same, inside as well. -/
def InStep (named : Prop) (ctx : Context) : (Pass → Pass → Prop) → Rule V → Prop
  | R, .fixed guard _ _ => Eval.InStep R R (guard.passes ctx)
  | R, .halting guard _ => Eval.InStep R R (guard.passes ctx)
  | R, .computed key guard reason compute =>
      ∃ S ≤ R, Eval.InStep R S (guard.passes ctx) ∧
        Eval.InStep S R (computation key guard reason compute ctx)
  | R, .firstMatch _ rules => InStepAmong named ctx R rules
  | R, .allMatches _ contributors => InStepAmong named ctx R contributors
  | R, .enriched _ base extension => InStep named ctx R base ∧ InStep named ctx R extension
  | R, .leaf _ guard hook _ =>
      ∃ S ≤ R, Eval.InStep R S (guard.passes ctx) ∧ Eval.InStep S R (runHook hook ctx)
  | R, .branch _ guard hook children =>
      ∃ S ≤ R, ∃ T ≤ R, Eval.InStep R S (guard.passes ctx) ∧
        Eval.InStep S T (runHook hook ctx) ∧ Steady named T ∧ InStepAmong named ctx T children
  | R, .mapped _ inner => InStep named ctx R inner
  | R, .custom _ _ run => Eval.InStep R R (Eval.ofProbe (run ctx))

def InStepAmong (named : Prop) (ctx : Context) : (Pass → Pass → Prop) → List (Rule V) → Prop
  | _, [] => True
  | R, rule :: rest => InStep named ctx R rule ∧ InStepAmong named ctx R rest

end

@[simp] theorem inStepAmong_iff {rules : List (Rule V)} :
    InStepAmong named ctx R rules ↔ ∀ rule ∈ rules, rule.InStep named ctx R := by
  induction rules with
  | nil => simp [InStepAmong]
  | cons rule rest ih => simp [InStepAmong, ih]

section Evaluation

variable [Contribution V]

theorem evalFirst_inStep (hR : Steady named R) {rules : List (Rule V)}
    (hrules : ∀ rule ∈ rules, Eval.InStep R R (rule.eval ctx)) :
    Eval.InStep R R (evalFirst ctx rules) := by
  induction rules with
  | nil => exact Eval.InStep.ok (le_refl R) Outcome.noMatch
  | cons rule rest ih =>
      obtain ⟨hhead, hrest⟩ := List.forall_mem_cons.mp hrules
      refine (hR.supervise rule hhead).bind ?_ (le_refl R)
      intro outcome
      cases outcome with
      | matched value => exact Eval.InStep.ok (le_refl R) (Outcome.matched value)
      | noMatch => exact ih hrest
      | halt =>
          apply Eval.InStep.lift_bind (hR.currentName rule)
          intro called calledAgain hcalled
          have hlog := hR.log fun hnamed => congrArg Event.ruleHalted (hcalled hnamed)
          exact hlog.then_ok Outcome.noMatch

theorem superviseEach_inStep (hR : Steady named R) {rules : List (Rule V)}
    (hrules : ∀ rule ∈ rules, Eval.InStep R R (rule.eval ctx)) :
    ∀ step ∈ superviseEach ctx rules, Eval.InStep R R step := by
  rw [superviseEach_eq_map, List.forall_mem_map]
  exact fun rule hrule => hR.supervise rule (hrules rule hrule)

/-- A rule in step gives one answer in passes that are related. -/
theorem eval_inStep {rule : Rule V} (hR : Steady named R) (hrule : rule.InStep named ctx R) :
    Eval.InStep R R (rule.eval ctx) := by
  have hmembers {rules : List (Rule V)} {R : Pass → Pass → Prop} (hR : Steady named R)
      (ih : ∀ rule ∈ rules, ∀ {R : Pass → Pass → Prop}, Steady named R →
        rule.InStep named ctx R → Eval.InStep R R (rule.eval ctx))
      (hrules : InStepAmong named ctx R rules) :
      ∀ rule ∈ rules, Eval.InStep R R (rule.eval ctx) :=
    fun rule hmem => ih rule hmem hR (inStepAmong_iff.mp hrules rule hmem)
  -- For all relations: a node may narrow the one for its children.
  induction rule using Rule.induct generalizing R with
  | fixed guard reason value =>
      apply Eval.InStep.bind hrule _ (le_refl R)
      intro passes
      cases passes <;> exact Eval.InStep.ok (le_refl R) _
  | halting guard reason =>
      apply Eval.InStep.bind hrule _ (le_refl R)
      intro passes
      cases passes <;> exact Eval.InStep.ok (le_refl R) _
  | computed key guard reason compute =>
      obtain ⟨S, hSR, hguard, hcompute⟩ := hrule
      apply hguard.bind _ hSR
      intro passes
      cases passes with
      | false => exact Eval.InStep.ok hSR Outcome.noMatch
      | true => exact hcompute
  | firstMatch name rules ih => exact evalFirst_inStep hR (hmembers hR ih hrule)
  | allMatches name contributors ih =>
      exact (Eval.InStep.allSettled (superviseEach_inStep hR (hmembers hR ih hrule))).bind
        (fun _ => Eval.InStep.ok (le_refl R) _) (le_refl R)
  | enriched name base extension ihBase ihExtension =>
      apply (hR.supervise base (ihBase hR hrule.1)).bind _ (le_refl R)
      intro given
      by_cases hclosed : closed given.value? = true
      · simp only [if_pos hclosed]
        exact Eval.InStep.ok (le_refl R) _
      · simp only [if_neg hclosed]
        exact (hR.supervise extension (ihExtension hR hrule.2)).bind
          (fun _ => Eval.InStep.ok (le_refl R) _) (le_refl R)
  | leaf name guard hook value =>
      obtain ⟨S, hSR, hguard, hhook⟩ := hrule
      apply hguard.bind _ hSR
      intro passes
      cases passes with
      | false => exact Eval.InStep.ok hSR Outcome.noMatch
      | true => exact hhook.bind (fun _ => Eval.InStep.ok (le_refl R) _) (le_refl R)
  | branch name guard hook children ih =>
      obtain ⟨S, hSR, T, hTR, hguard, hhook, hT, hchildren⟩ := hrule
      apply hguard.bind _ hSR
      intro passes
      cases passes with
      | false => exact Eval.InStep.ok hSR Outcome.noMatch
      | true =>
          have hbehind := evalFirst_inStep hT (hmembers hT ih hchildren)
          exact hhook.bind (fun _ => hbehind.mono (le_refl T) hTR) hTR
  | mapped f inner ih => exact (ih hR hrule).map _
  | custom name cost run => exact hrule

end Evaluation

/-- Those of the computations are in step whose work has property `P`. -/
def ComputationsInStep (P : {α : Type} → (Context → Probe α) → Prop) (R : Pass → Pass → Prop)
    (ctx : Context) (computing : List (Rule V)) : Prop :=
  ∀ key guard reason compute, .computed key guard reason compute ∈ computing →
    (∀ fallback, P fun ctx => compute ctx fallback) →
      Eval.InStep R R (computation key guard reason compute ctx)

theorem ComputationsInStep.mono {P : {α : Type} → (Context → Probe α) → Prop}
    {computing fewer : List (Rule V)} (hcomputing : ComputationsInStep P R ctx computing)
    (hfewer : fewer ⊆ computing) : ComputationsInStep P R ctx fewer :=
  fun key guard reason compute hmem => hcomputing key guard reason compute (hfewer hmem)

/-- A rule whose work is in step for one relation throughout. -/
theorem inStep_of_every {P : {α : Type} → (Context → Probe α) → Prop} {rule : Rule V}
    (hR : Steady named R)
    (hprobe : ∀ {α : Type} {work : Context → Probe α}, P work →
      Eval.InStep R R (Eval.ofProbe (work ctx)))
    (hmemo : Guard.RememberedInStep R ctx rule.remembered)
    (hcompute : ComputationsInStep P R ctx rule.computations) (hrule : rule.Every P) :
    rule.InStep named ctx R := by
  have hguard {guard : Guard} (hmemo : Guard.RememberedInStep R ctx guard.remembered)
      (hguard : guard.Every P) : Eval.InStep R R (guard.passes ctx) :=
    (Guard.eval_inStep hprobe hmemo hguard).map Outcome.passes
  have hhook {hook : Option Hook} (hhook : ∀ work, hook = some work → P work) :
      Eval.InStep R R (runHook hook ctx) := by
    cases hook with
    | none => exact Eval.InStep.ok (le_refl R) ()
    | some work => exact hprobe (hhook work rfl)
  have hmembers {rules : List (Rule V)}
      (ih : ∀ rule ∈ rules, Guard.RememberedInStep R ctx rule.remembered →
        ComputationsInStep P R ctx rule.computations → rule.Every P → rule.InStep named ctx R)
      (hmemo : Guard.RememberedInStep R ctx (rememberedAmong rules))
      (hcompute : ComputationsInStep P R ctx (computationsAmong rules))
      (hrules : EveryAmong P rules) : InStepAmong named ctx R rules := by
    rw [rememberedAmong_eq_flatMap] at hmemo
    rw [computationsAmong_eq_flatMap] at hcompute
    rw [inStepAmong_iff]
    intro rule hrule
    have hremembered : rule.remembered ⊆ rules.flatMap remembered :=
      fun g hg => List.mem_flatMap_of_mem hrule hg
    have hcomputing : rule.computations ⊆ rules.flatMap computations :=
      fun inner hinner => List.mem_flatMap_of_mem hrule hinner
    exact ih rule hrule (hmemo.mono hremembered) (hcompute.mono hcomputing)
      (everyAmong_iff.mp hrules rule hrule)
  induction rule using Rule.induct with
  | fixed guard reason value => exact hguard hmemo hrule
  | halting guard reason => exact hguard hmemo hrule
  | computed key guard reason compute =>
      exact ⟨R, le_refl R, hguard hmemo hrule.1,
        hcompute key guard reason compute (List.mem_singleton.mpr rfl) hrule.2⟩
  | firstMatch name rules ih => exact hmembers ih hmemo hcompute hrule
  | allMatches name contributors ih => exact hmembers ih hmemo hcompute hrule
  | enriched name base extension ihBase ihExtension =>
      constructor
      · exact ihBase (hmemo.mono (List.subset_append_left _ _))
          (hcompute.mono (List.subset_append_left _ _)) hrule.1
      · exact ihExtension (hmemo.mono (List.subset_append_right _ _))
          (hcompute.mono (List.subset_append_right _ _)) hrule.2
  | leaf name guard hook value =>
      exact ⟨R, le_refl R, hguard hmemo hrule.1, hhook hrule.2⟩
  | branch name guard hook children ih =>
      exact ⟨R, le_refl R, R, le_refl R,
        hguard (hmemo.mono (List.subset_append_left _ _)) hrule.1, hhook hrule.2.1, hR,
        hmembers ih (hmemo.mono (List.subset_append_right _ _)) hcompute hrule.2.2⟩
  | mapped f inner ih => exact ih hmemo hcompute hrule
  | custom name cost run => exact hprobe hrule

end Rule

end PushGoals
