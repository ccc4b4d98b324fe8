import PushGoals.Prediction.Classification
import PushGoals.Proofs.Decision
import PushGoals.Proofs.Prediction.Sharpening

/-!
# The outlook of a rule

What a classification comes to when the work in a rule does not hang on the
scratch: `Rule.outlook` is a function of the context alone, made of the answers
of rules and guards instead of their evaluations.  From truthful caches a rule is
classified as its outlook says.  The two may differ in the name of an unknown
road, since a rule may have learned a name meanwhile, and in nothing that a
prediction is judged by.
-/

namespace PushGoals

namespace Forecast

/-- Two forecasts that say the same of goals and locks. -/
structure Alike (f g : Forecast) : Prop where
  sharpened : f.SharpenedBy g
  sharpens : g.SharpenedBy f

namespace Alike

variable {f f' g g' : Forecast}

theorem refl (f : Forecast) : f.Alike f := ⟨.refl f, .refl f⟩

theorem demote (hf : f.Alike g) : f.demote.Alike g.demote :=
  ⟨hf.sharpened.demote, hf.sharpens.demote⟩

theorem merge (hf : f.Alike f') (hg : g.Alike g') : (f.merge g).Alike (f'.merge g') :=
  ⟨hf.sharpened.merge hg.sharpened, hf.sharpens.merge hg.sharpens⟩

theorem orElse (hf : f.Alike f') (hg : g.Alike g') : (f.orElse g).Alike (f'.orElse g') :=
  ⟨hf.sharpened.orElse hg.sharpened, hf.sharpens.orElse hg.sharpens⟩

theorem road (name other reason : String) :
    (Forecast.road name reason).Alike (Forecast.road other reason) :=
  ⟨.road name reason, .road other reason⟩

theorem withRoad (f g : Forecast) (name reason : String) :
    (f.demote.withRoad name reason).Alike (g.demote.withRoad name reason) :=
  ⟨.withRoad f name reason, .withRoad g name reason⟩

theorem locks_eq (hf : f.Alike g) : f.locks = g.locks :=
  Bool.eq_iff_iff.mpr ⟨hf.sharpened.locks, hf.sharpens.locks⟩

theorem mayLock_eq (hf : f.Alike g) : f.mayLock = g.mayLock :=
  Bool.eq_iff_iff.mpr ⟨hf.sharpens.mayLock, hf.sharpened.mayLock⟩

end Alike

theorem additive_yields {inv : Pass → Prop} {steps : List (Work Forecast)} {known : List Forecast}
    (hsteps : List.Forall₂ (fun step f => Work.Yields inv step (·.Alike f)) steps known)
    {f g : Forecast} (hf : f.Alike g) (lockPossible : Bool) :
    Work.Yields inv (additive f lockPossible steps) (·.Alike (g.addUp lockPossible known)) := by
  induction hsteps generalizing f g lockPossible with
  | nil => exact Work.Yields.pure hf
  | @cons step next steps known hstep _ ih =>
      unfold additive
      apply hstep.bind
      intro given hgiven
      have hcounted : (if lockPossible then given.demote else given).Alike
          (if lockPossible then next.demote else next) := by
        cases lockPossible with
        | false => exact hgiven
        | true => exact hgiven.demote
      simp only [addUp]
      generalize (if lockPossible then given.demote else given) = counted at hcounted ⊢
      generalize (if lockPossible then next.demote else next) = expected at hcounted ⊢
      have hmerged : (f.merge counted).Alike (g.merge expected) := hf.merge hcounted
      rw [hcounted.locks_eq, hcounted.mayLock_eq]
      by_cases hlocks : expected.locks = true
      · simp only [if_pos hlocks]
        exact Work.Yields.pure hmerged
      · simp only [if_neg hlocks]
        exact ih hmerged (lockPossible || expected.mayLock)

end Forecast

namespace Rule

def outlookBy (answer : Except GoalError (Outcome GoalSet)) (failed : GoalError → Forecast) :
    Forecast :=
  match answer with
  | .ok outcome => .settled outcome.value?
  | .error e => failed e

def outlookGuard (name : String) (guard : Guard) (ctx : Context) (behind : Option Forecast) :
    Forecast :=
  match guard.holds ctx with
  | .ok true => behind.getD .nothing
  | .ok false => .nothing
  | .error e =>
      if e.isInsufficientData then
        match behind with
        | none => .road name ("may halt: " ++ e.message)
        | some body => body.demote
      else .road name e.message

def outlookBody (name : String) (hook : Option Hook) (ctx : Context) (body : Forecast) :
    Forecast :=
  match answerHook hook ctx with
  | .ok _ => body
  | .error e =>
      if e.isInsufficientData then body.demote.withRoad name e.message
      else .road name e.message

mutual

/-- The outlook of a rule whose answer is the failure `e`. -/
def outlookFailed (ctx : Context) (e : GoalError) : GoalRule → Forecast
  | .fixed guard reason value =>
      if !e.isInsufficientData then .road (statedName guard reason) e.message
      else outlookGuard (statedName guard reason) guard ctx (some (.certain value))
  | .halting guard reason =>
      if !e.isInsufficientData then .road (statedName guard reason) e.message
      else outlookGuard (statedName guard reason) guard ctx none
  | .computed _ guard reason _ => .road (statedName guard reason) e.message
  | .firstMatch name rules =>
      if !e.isInsufficientData then .road name e.message else outlookFirst ctx rules
  | .allMatches name contributors =>
      if !e.isInsufficientData then .road name e.message
      else Forecast.nothing.addUp false (outlookEach ctx contributors)
  | .enriched name base extension =>
      if !e.isInsufficientData then .road name e.message
      else
        Forecast.nothing.addUp false
          [outlookBy (answer .failFast ctx base) (fun e => outlookFailed ctx e base),
           outlookBy (answer .failFast ctx extension) (fun e => outlookFailed ctx e extension)]
  | .leaf name guard hook value =>
      if !e.isInsufficientData then .road name e.message
      else outlookGuard name guard ctx (some (outlookBody name hook ctx (.certain value)))
  | .branch name guard hook children =>
      if !e.isInsufficientData then .road name e.message
      else
        outlookGuard name guard ctx
          (some
            (outlookBody name hook ctx
              (outlookBy (answerFirst .failFast ctx children)
                (fun e =>
                  if !e.isInsufficientData then .road name e.message
                  else outlookFirst ctx children))))
  | .mapped _ inner => .road (inner.name []) e.message
  | .custom name _ _ => .road name e.message

def outlookFirst (ctx : Context) : List GoalRule → Forecast
  | [] => .nothing
  | rule :: rest =>
      match answer .failFast ctx rule with
      | .ok .halt => .nothing
      | .ok .noMatch => outlookFirst ctx rest
      | .ok (.matched goals) => .certain goals
      | .error e => (outlookFailed ctx e rule).orElse (outlookFirst ctx rest)

def outlookEach (ctx : Context) : List GoalRule → List Forecast
  | [] => []
  | rule :: rest =>
      outlookBy (answer .failFast ctx rule) (fun e => outlookFailed ctx e rule) ::
        outlookEach ctx rest

end

def outlook (ctx : Context) (rule : GoalRule) : Forecast :=
  outlookBy (answer .failFast ctx rule) fun e => outlookFailed ctx e rule

@[simp] theorem outlookEach_eq_map (ctx : Context) (rules : List GoalRule) :
    outlookEach ctx rules = rules.map (outlook ctx) := by
  induction rules with
  | nil => rfl
  | cons rule rest ih =>
      rw [outlookEach, ih]
      rfl

@[simp] theorem classifyEach_eq_map (ctx : Context) (rules : List GoalRule) :
    classifyEach ctx rules = rules.map (classify ctx) := by
  induction rules with
  | nil => rfl
  | cons rule rest ih =>
      rw [classifyEach, ih]
      rfl

/-! ## Classification follows the outlook -/

section Classification

variable {ctx : Context} {known : List Guard}

theorem classifyBy_yields {evaluation : Eval (Outcome GoalSet)}
    {answer : Except GoalError (Outcome GoalSet)} {failed : GoalError → Work Forecast}
    {failedOutlook : GoalError → Forecast}
    (heval : Eval.Gives (Pass.Faithful ctx known .failFast) evaluation answer)
    (hfailed : ∀ e,
      Work.Yields (Pass.Faithful ctx known .failFast) (failed e) (·.Alike (failedOutlook e))) :
    Work.Yields (Pass.Faithful ctx known .failFast) (classifyBy evaluation failed)
      (·.Alike (outlookBy answer failedOutlook)) := by
  apply Work.Yields.bind heval
  rintro given rfl
  cases given with
  | error e => exact hfailed e
  | ok outcome => cases outcome <;> exact Work.Yields.pure (.refl _)

theorem classifyGuard_yields {guard : Guard}
    (hguard : Eval.Gives (Pass.Faithful ctx known .failFast) (guard.passes ctx) (guard.holds ctx))
    (name : String) {behind : Option (Work Forecast)} {behindOutlook : Option Forecast}
    (hbehind : Option.Rel
      (fun work f => Work.Yields (Pass.Faithful ctx known .failFast) work (·.Alike f))
      behind behindOutlook) :
    Work.Yields (Pass.Faithful ctx known .failFast) (classifyGuard name guard ctx behind)
      (·.Alike (outlookGuard name guard ctx behindOutlook)) := by
  unfold classifyGuard outlookGuard
  apply Work.Yields.bind (Work.yields_modify fun _ hp => ⟨hp.policy, hp.caches⟩)
  intro _ _
  apply Work.Yields.bind hguard
  rintro _ rfl
  cases guard.holds ctx with
  | ok passes =>
      cases passes with
      | false => exact Work.Yields.pure (.refl _)
      | true =>
          cases hbehind with
          | none => exact Work.Yields.pure (.refl _)
          | some hbody => exact hbody
  | error e =>
      by_cases hdata : e.isInsufficientData = true
      · simp only [if_pos hdata]
        cases hbehind with
        | none => exact Work.Yields.pure (.refl _)
        | some hbody =>
            apply hbody.bind
            intro given hgiven
            exact Work.Yields.pure hgiven.demote
      · simp only [if_neg hdata]
        exact Work.Yields.pure (.refl _)

theorem classifyBody_yields {hook : Option Hook}
    (hfree : ∀ work, hook = some work → ScopeFree work) (name : String) {body : Work Forecast}
    {bodyOutlook : Forecast}
    (hbody : Work.Yields (Pass.Faithful ctx known .failFast) body (·.Alike bodyOutlook)) :
    Work.Yields (Pass.Faithful ctx known .failFast) (classifyBody name hook ctx body)
      (·.Alike (outlookBody name hook ctx bodyOutlook)) := by
  unfold classifyBody outlookBody
  apply Work.Yields.bind (runHook_gives hfree ctx)
  rintro _ rfl
  cases answerHook hook ctx with
  | ok _ => exact hbody
  | error e =>
      by_cases hdata : e.isInsufficientData = true
      · simp only [if_pos hdata]
        apply hbody.bind
        intro given _
        exact Work.Yields.pure (.withRoad given bodyOutlook name e.message)
      · simp only [if_neg hdata]
        exact Work.Yields.pure (.refl _)

theorem namedRoad_yields (rule : GoalRule) (name : String) (e : GoalError) :
    Work.Yields (Pass.Faithful ctx known .failFast)
      (do
        let called ← rule.currentName
        return Forecast.road called e.message)
      (·.Alike (.road name e.message)) := by
  apply (currentName_yields rule).bind
  intro called _
  exact Work.Yields.pure (.road called name e.message)

theorem classifyFirst_yields {rules : List GoalRule}
    (heval : ∀ rule ∈ rules,
      Eval.Gives (Pass.Faithful ctx known .failFast) (rule.eval ctx) (rule.answer .failFast ctx))
    (hfailed : ∀ rule ∈ rules, ∀ e,
      Work.Yields (Pass.Faithful ctx known .failFast) (classifyFailed ctx e rule)
        (·.Alike (outlookFailed ctx e rule))) :
    Work.Yields (Pass.Faithful ctx known .failFast) (classifyFirst ctx rules)
      (·.Alike (outlookFirst ctx rules)) := by
  induction rules with
  | nil => exact Work.Yields.pure (.refl _)
  | cons rule rest ih =>
      obtain ⟨hevalHead, hevalRest⟩ := List.forall_mem_cons.mp heval
      obtain ⟨hfailedHead, hfailedRest⟩ := List.forall_mem_cons.mp hfailed
      unfold classifyFirst outlookFirst
      apply Work.Yields.bind hevalHead
      rintro _ rfl
      cases rule.answer .failFast ctx with
      | ok outcome =>
          cases outcome with
          | matched goals => exact Work.Yields.pure (.refl _)
          | noMatch => exact ih hevalRest hfailedRest
          | halt => exact Work.Yields.pure (.refl _)
      | error e =>
          apply (hfailedHead e).bind
          intro head hhead
          apply (ih hevalRest hfailedRest).bind
          intro tail htail
          exact Work.Yields.pure (hhead.orElse htail)

theorem classifyEach_yields {rules : List GoalRule}
    (heval : ∀ rule ∈ rules,
      Eval.Gives (Pass.Faithful ctx known .failFast) (rule.eval ctx) (rule.answer .failFast ctx))
    (hfailed : ∀ rule ∈ rules, ∀ e,
      Work.Yields (Pass.Faithful ctx known .failFast) (classifyFailed ctx e rule)
        (·.Alike (outlookFailed ctx e rule))) :
    List.Forall₂
      (fun step f => Work.Yields (Pass.Faithful ctx known .failFast) step (·.Alike f))
      (classifyEach ctx rules) (outlookEach ctx rules) := by
  rw [classifyEach_eq_map, outlookEach_eq_map, forall₂_map_map]
  exact fun rule hrule => classifyBy_yields (heval rule hrule) (hfailed rule hrule)

theorem lookInto_yields (name : String) (e : GoalError) {work : Work Forecast} {f : Forecast}
    (hwork : Work.Yields (Pass.Faithful ctx known .failFast) work (·.Alike f)) :
    Work.Yields (Pass.Faithful ctx known .failFast)
      (if !e.isInsufficientData then return .road name e.message else work)
      (·.Alike (if !e.isInsufficientData then .road name e.message else f)) := by
  by_cases hroad : (!e.isInsufficientData) = true
  · rw [if_pos hroad, if_pos hroad]
    exact Work.Yields.pure (.refl _)
  · rw [if_neg hroad, if_neg hroad]
    exact hwork

/-- From truthful caches the classification of a failed rule follows its outlook. -/
theorem classifyFailed_yields {rule : GoalRule} (hfree : rule.Every ScopeFree)
    (hnames : Guard.SameNamed known) (hknown : ∀ g ∈ rule.remembered, g ∈ known) (e : GoalError) :
    Work.Yields (Pass.Faithful ctx known .failFast) (classifyFailed ctx e rule)
      (·.Alike (outlookFailed ctx e rule)) := by
  have heval {rules : List GoalRule} (hrules : EveryAmong ScopeFree rules)
      (hmem : ∀ g ∈ rememberedAmong rules, g ∈ known) :
      ∀ rule ∈ rules,
        Eval.Gives (Pass.Faithful ctx known .failFast) (rule.eval ctx)
          (rule.answer .failFast ctx) :=
    fun rule hrule =>
      eval_gives (everyAmong_iff.mp hrules rule hrule) hnames (remembered_of_mem hmem hrule)
  have hfailed {rules : List GoalRule}
      (ih : ∀ rule ∈ rules, rule.Every ScopeFree → (∀ g ∈ rule.remembered, g ∈ known) →
        ∀ e, Work.Yields (Pass.Faithful ctx known .failFast) (classifyFailed ctx e rule)
          (·.Alike (outlookFailed ctx e rule)))
      (hrules : EveryAmong ScopeFree rules)
      (hmem : ∀ g ∈ rememberedAmong rules, g ∈ known) :
      ∀ rule ∈ rules, ∀ e,
        Work.Yields (Pass.Faithful ctx known .failFast) (classifyFailed ctx e rule)
          (·.Alike (outlookFailed ctx e rule)) :=
    fun rule hrule =>
      ih rule hrule (everyAmong_iff.mp hrules rule hrule) (remembered_of_mem hmem hrule)
  induction rule using Rule.induct generalizing e with
  | fixed guard reason value =>
      apply lookInto_yields
      apply classifyGuard_yields (Guard.passes_gives hfree hnames hknown)
      have hnoHook : ∀ work, (none : Option Hook) = some work → ScopeFree work :=
        fun _ hwork => nomatch hwork
      exact .some (classifyBody_yields hnoHook _ (Work.Yields.pure (.refl (.certain value))))
  | halting guard reason =>
      apply lookInto_yields
      exact classifyGuard_yields (Guard.passes_gives hfree hnames hknown) _ .none
  | computed key guard reason compute => exact namedRoad_yields _ _ e
  | firstMatch name rules ih =>
      apply lookInto_yields
      exact classifyFirst_yields (heval hfree hknown) (hfailed ih hfree hknown)
  | allMatches name contributors ih =>
      apply lookInto_yields
      apply Forecast.additive_yields _ (.refl Forecast.nothing)
      exact classifyEach_yields (heval hfree hknown) (hfailed ih hfree hknown)
  | enriched name base extension ihBase ihExtension =>
      obtain ⟨hbase, hextension⟩ := List.forall_mem_append.mp hknown
      apply lookInto_yields
      apply Forecast.additive_yields _ (.refl Forecast.nothing)
      refine .cons ?_ (.cons ?_ .nil)
      · exact classifyBy_yields (eval_gives hfree.1 hnames hbase) (ihBase hfree.1 hbase)
      · exact classifyBy_yields (eval_gives hfree.2 hnames hextension)
          (ihExtension hfree.2 hextension)
  | leaf name guard hook value =>
      apply lookInto_yields
      apply classifyGuard_yields (Guard.passes_gives hfree.1 hnames hknown)
      exact .some (classifyBody_yields hfree.2 name (Work.Yields.pure (.refl (.certain value))))
  | branch name guard hook children ih =>
      obtain ⟨hguard, hchildren⟩ := List.forall_mem_append.mp hknown
      have hevalChildren := heval hfree.2.2 hchildren
      apply lookInto_yields
      apply classifyGuard_yields (Guard.passes_gives hfree.1 hnames hguard)
      refine .some (classifyBody_yields hfree.2.1 name ?_)
      apply classifyBy_yields (evalFirst_gives hevalChildren)
      intro e
      apply lookInto_yields
      exact classifyFirst_yields hevalChildren (hfailed ih hfree.2.2 hchildren)
  | mapped f inner ih => exact namedRoad_yields _ _ e
  | custom name cost run => exact Work.Yields.pure (.refl _)

end Classification

end Rule

namespace Decider

def outlook (decider : Decider) (ctx : Context) : Forecast :=
  Forecast.nothing.addUp false (Rule.outlookEach ctx decider.chains)

/-- A prediction from empty caches is made of a forecast that says what the
outlook says. -/
theorem Reliable.predict_alike {decider : Decider} (hrules : decider.Reliable) (ctx : Context)
    {engine : Engine} (hempty : engine.caches.Empty) :
    ∃ f : Forecast,
      ((decider.predict ctx).run engine).1 = f.flatten ∧ f.Alike (decider.outlook ctx) := by
  have hchain (rule : GoalRule) (hrule : rule ∈ decider.chains) (e : GoalError) :
      Work.Yields
        (Pass.Faithful ctx (decider.chains.flatMap Rule.remembered) .failFast)
        (rule.classifyFailed ctx e) (·.Alike (rule.outlookFailed ctx e)) := by
    apply Rule.classifyFailed_yields (hrules.scopeFree rule hrule) hrules.sameNamed
    exact fun g hg => List.mem_flatMap_of_mem hrule hg
  have heach := Rule.classifyEach_yields
    (fun _ => chain_gives hrules.scopeFree hrules.sameNamed) hchain
  have hyields := Forecast.additive_yields heach (.refl Forecast.nothing) false
  have hstart : Pass.Faithful ctx (decider.chains.flatMap Rule.remembered) .failFast
      ⟨engine, {}⟩ := ⟨rfl, hempty.truthful ctx _⟩
  exact ⟨_, rfl, (hyields _ hstart).1⟩

end Decider

end PushGoals
