import PushGoals.Proofs.Isolation
import PushGoals.Proofs.Prediction.Outlook

/-!
# Classification is determined

From passes that hold what evaluations uphold, a rule has one forecast, down to the
names of its unknown roads.  For a road is named after a rule that failed, and a rule
that fails on a push never learned a name from it: whatever was evaluated before, the
rule is called what it was called at the start.
-/

namespace PushGoals

variable {ctx : Context} {known : List Guard} {computing : List GoalRule}
  {learned : LearnedNames} {inv : Pass → Prop} {α β : Type}

/-! ## Determined work -/

/-- From every pass with `inv` the work comes to one result and keeps `inv`. -/
def Work.Determined (inv : Pass → Prop) (work : Work α) : Prop :=
  ∃ a, Work.Yields inv work (· = a)

namespace Work.Determined

theorem pure (a : α) : Determined inv (pure a) := ⟨a, Work.Yields.pure rfl⟩

theorem known_bind {work : Work α} {next : α → Work β} {a : α}
    (hwork : Work.Yields inv work (· = a)) (hnext : Determined inv (next a)) :
    Determined inv (work >>= next) := by
  obtain ⟨b, hb⟩ := hnext
  refine ⟨b, hwork.bind ?_⟩
  rintro _ rfl
  exact hb

theorem bind {work : Work α} {next : α → Work β} (hwork : Determined inv work)
    (hnext : ∀ a, Determined inv (next a)) : Determined inv (work >>= next) := by
  obtain ⟨a, ha⟩ := hwork
  exact known_bind ha (hnext a)

end Work.Determined

theorem Forecast.additive_adds_up {steps : List (Work Forecast)} {given : List Forecast}
    (hsteps : List.Forall₂ (fun step f => Work.Yields inv step (· = f)) steps given)
    (f : Forecast) (lockPossible : Bool) :
    Work.Yields inv (additive f lockPossible steps) (· = f.addUp lockPossible given) := by
  induction hsteps generalizing f lockPossible with
  | nil => exact Work.Yields.pure rfl
  | cons hstep _ ih =>
      apply hstep.bind
      rintro next rfl
      simp only [addUp]
      generalize (if lockPossible then next.demote else next) = counted
      by_cases hlocks : counted.locks = true
      · simp only [if_pos hlocks]
        exact Work.Yields.pure rfl
      · simp only [if_neg hlocks]
        exact ih _ _

theorem Forecast.additive_determined {steps : List (Work Forecast)}
    (hsteps : ∀ step ∈ steps, Work.Determined inv step) (f : Forecast) (lockPossible : Bool) :
    Work.Determined inv (additive f lockPossible steps) := by
  have hgiven : ∃ given, List.Forall₂ (fun step f => Work.Yields inv step (· = f)) steps given := by
    induction steps with
    | nil => exact ⟨[], .nil⟩
    | cons step rest ih =>
        obtain ⟨⟨next, hnext⟩, hrest⟩ := List.forall_mem_cons.mp hsteps
        obtain ⟨given, hgiven⟩ := ih hrest
        exact ⟨next :: given, .cons hnext hgiven⟩
  obtain ⟨given, hgiven⟩ := hgiven
  exact ⟨_, additive_adds_up hgiven f lockPossible⟩

/-! ## Names of rules that fail -/

/-- In the pass a rule that fails on `ctx` is called what it was called when `learned`
was known. -/
def Pass.NamesFailing (ctx : Context) (computing : List GoalRule) (learned : LearnedNames)
    (p : Pass) : Prop :=
  ∀ key, Rule.FailingKey ctx computing key → p.engine.learned.get? key = learned.get? key

/-- A pass with truthful caches in which failing rules have kept their names. -/
structure Pass.Settled (ctx : Context) (known : List Guard) (computing : List GoalRule)
    (learned : LearnedNames) (p : Pass) : Prop where
  faithful : p.Faithful ctx known .failFast
  names : p.NamesFailing ctx computing learned

namespace Rule

/-- What learns a name answers alike under both policies. -/
theorem answer_of_key {rule : GoalRule} {key : RuleKey} (hkey : rule.key? = some key)
    (policy later : FailurePolicy) : rule.answer policy ctx = rule.answer later ctx := by
  induction rule using Rule.induct with
  | computed _ guard reason compute => rfl
  | mapped f inner ih => rw [answer, answer, ih hkey]
  | _ => cases hkey

theorem name_of_error {rule : GoalRule} (hrule : ∀ inner ∈ rule.computations, inner ∈ computing)
    {e : GoalError} (herror : rule.answer .failFast ctx = .error e) {p : Pass}
    (hp : p.NamesFailing ctx computing learned) :
    rule.name p.engine.learned = rule.name learned := by
  apply name_congr
  intro key hkey
  rw [answer_of_key hkey .failFast .isolateAndReport] at herror
  exact hp key (failingKey_of_error hrule herror hkey)

end Rule

theorem Eval.Gives.settled {step : Eval α} {answer : Except GoalError α}
    (hgives : Gives (Pass.Faithful ctx known .failFast) step answer) (hnames : KeepsNames step) :
    Gives (Pass.Settled ctx known computing learned) step answer := by
  intro p hp
  obtain ⟨hanswer, hfaithful⟩ := hgives p hp.faithful
  have hlearned : (step.run.run p).2.engine.learned = p.engine.learned := hnames p
  refine ⟨hanswer, hfaithful, ?_⟩
  intro key hkey
  rw [hlearned]
  exact hp.names key hkey

theorem Eval.learn_settled {key : RuleKey} (hkey : ¬Rule.FailingKey ctx computing key)
    (name : Option String) :
    Work.Yields (Pass.Settled ctx known computing learned) (learn key name) fun _ => True := by
  cases name with
  | none => exact Work.Yields.pure trivial
  | some name =>
      intro p hp
      refine ⟨trivial, ⟨hp.faithful.policy, hp.faithful.caches⟩, ?_⟩
      intro other hother
      have hne : other ≠ key := fun heq => hkey (heq ▸ hother)
      exact (LearnedNames.get?_set_of_ne hne _ name).trans (hp.names other hother)

theorem Pass.Settled.upheld (hnames : Guard.SameNamed known) (hkeys : Rule.KeysTell computing) :
    Upheld ctx known .failFast computing (Settled ctx known computing learned) where
  tame :=
    { policy := fun _ hp => hp.faithful.policy
      emit := fun _ _ hp => ⟨⟨hp.faithful.policy, hp.faithful.caches⟩, hp.names⟩
      isolate := fun _ _ _ hp => ⟨⟨hp.faithful.policy, hp.faithful.caches⟩, hp.names⟩ }
  probe hwork := (Eval.ofProbe_gives hwork ctx).settled (Eval.ofProbe_keepsNames _)
  guard {g} hfree hknown :=
    (Guard.passes_gives hfree hnames hknown).settled (g.passes_keepsNames ctx)
  learn {key _ _ _ _} hmem hanswer name := by
    have hkey : ¬Rule.FailingKey ctx computing key := Rule.not_failingKey hkeys hmem rfl
      ((Rule.answer_of_key rfl .isolateAndReport .failFast).trans hanswer)
    exact Eval.learn_settled hkey name

/-! ## Classification -/

namespace Rule

theorem classifyBy_determined {evaluation : Eval (Outcome GoalSet)}
    {answer : Except GoalError (Outcome GoalSet)} {failed : GoalError → Work Forecast}
    (heval : Eval.Gives inv evaluation answer)
    (hfailed : ∀ e, answer = .error e → Work.Determined inv (failed e)) :
    Work.Determined inv (classifyBy evaluation failed) := by
  apply Work.Determined.known_bind heval
  cases answer with
  | error e => exact hfailed e rfl
  | ok outcome => cases outcome <;> exact .pure _

theorem classifyGuard_determined (htame : Pass.Tame .failFast inv) {guard : Guard}
    (hguard : Eval.Gives inv (guard.passes ctx) (guard.holds ctx)) (name : String)
    {behind : Option (Work Forecast)}
    (hbehind : ∀ body, behind = some body → Work.Determined inv body) :
    Work.Determined inv (classifyGuard name guard ctx behind) := by
  unfold classifyGuard
  have hlog : Work.Yields inv
      (modify (·.emit (.guardAlone name guard.name guard.cost)) : Work PUnit) (· = ⟨⟩) :=
    fun p hp => ⟨rfl, htame.emit p _ hp⟩
  apply Work.Determined.known_bind hlog
  apply Work.Determined.known_bind hguard
  cases guard.holds ctx with
  | ok passes =>
      cases passes with
      | false => exact .pure _
      | true =>
          cases behind with
          | none => exact .pure _
          | some body => exact hbehind body rfl
  | error e =>
      by_cases hdata : e.isInsufficientData = true
      · simp only [if_pos hdata]
        cases behind with
        | none => exact .pure _
        | some body => exact (hbehind body rfl).bind fun _ => .pure _
      · simp only [if_neg hdata]
        exact .pure _

theorem classifyBody_determined {hook : Option Hook}
    (hhook : Eval.Gives inv (runHook hook ctx) (answerHook hook ctx)) (name : String)
    {body : Work Forecast} (hbody : Work.Determined inv body) :
    Work.Determined inv (classifyBody name hook ctx body) := by
  unfold classifyBody
  apply Work.Determined.known_bind hhook
  cases answerHook hook ctx with
  | ok _ => exact hbody
  | error e =>
      by_cases hdata : e.isInsufficientData = true
      · simp only [if_pos hdata]
        exact hbody.bind fun _ => .pure _
      · simp only [if_neg hdata]
        exact .pure _

theorem lookInto_determined (name : String) (e : GoalError) {work : Work Forecast}
    (hwork : Work.Determined inv work) :
    Work.Determined inv (if !e.isInsufficientData then return .road name e.message else work) := by
  by_cases hroad : (!e.isInsufficientData) = true
  · rw [if_pos hroad]
    exact .pure _
  · rw [if_neg hroad]
    exact hwork

theorem classifyFirst_determined {rules : List GoalRule}
    (heval : ∀ rule ∈ rules, Eval.Gives inv (rule.eval ctx) (rule.answer .failFast ctx))
    (hfailed : ∀ rule ∈ rules, ∀ e, rule.answer .failFast ctx = .error e →
      Work.Determined inv (classifyFailed ctx e rule)) :
    Work.Determined inv (classifyFirst ctx rules) := by
  induction rules with
  | nil => exact .pure _
  | cons rule rest ih =>
      obtain ⟨hevalHead, hevalRest⟩ := List.forall_mem_cons.mp heval
      obtain ⟨hfailedHead, hfailedRest⟩ := List.forall_mem_cons.mp hfailed
      unfold classifyFirst
      apply Work.Determined.known_bind hevalHead
      cases hanswer : rule.answer .failFast ctx with
      | ok outcome =>
          cases outcome with
          | matched goals => exact .pure _
          | noMatch => exact ih hevalRest hfailedRest
          | halt => exact .pure _
      | error e =>
          apply (hfailedHead e hanswer).bind
          intro head
          exact (ih hevalRest hfailedRest).bind fun _ => .pure _

/-- The road of a rule that failed bears the name that the rule had at the start. -/
theorem namedRoad_determined {rule : GoalRule}
    (hrule : ∀ inner ∈ rule.computations, inner ∈ computing) {e : GoalError}
    (herror : rule.answer .failFast ctx = .error e) :
    Work.Determined (Pass.Settled ctx known computing learned) (do
      let called ← rule.currentName
      return Forecast.road called e.message) := by
  have hname : Work.Yields (Pass.Settled ctx known computing learned) rule.currentName
      (· = rule.name learned) :=
    fun _ hp => ⟨name_of_error hrule herror hp.names, hp⟩
  exact Work.Determined.known_bind hname (.pure _)

section Rules

variable (hnames : Guard.SameNamed known) (hkeys : KeysTell computing)
include hnames hkeys

/-- A rule that failed is classified in one way. -/
theorem classifyFailed_determined {rule : GoalRule} (hfree : rule.Every ScopeFree)
    (hknown : ∀ g ∈ rule.remembered, g ∈ known)
    (hcomputing : ∀ inner ∈ rule.computations, inner ∈ computing) {e : GoalError}
    (herror : rule.answer .failFast ctx = .error e) :
    Work.Determined (Pass.Settled ctx known computing learned) (classifyFailed ctx e rule) := by
  have hinv : Pass.Upheld ctx known .failFast computing
      (Pass.Settled ctx known computing learned) := Pass.Settled.upheld hnames hkeys
  have heval {rules : List GoalRule} (hrules : EveryAmong ScopeFree rules)
      (hmem : ∀ g ∈ rememberedAmong rules, g ∈ known)
      (hinner : ∀ inner ∈ computationsAmong rules, inner ∈ computing) :
      ∀ rule ∈ rules, Eval.Gives (Pass.Settled ctx known computing learned) (rule.eval ctx)
        (rule.answer .failFast ctx) :=
    fun rule hrule => hinv.eval_gives (everyAmong_iff.mp hrules rule hrule)
      (remembered_of_mem hmem hrule) (computations_of_mem hinner hrule)
  have hfailed {rules : List GoalRule}
      (ih : ∀ rule ∈ rules, rule.Every ScopeFree → (∀ g ∈ rule.remembered, g ∈ known) →
        (∀ inner ∈ rule.computations, inner ∈ computing) → ∀ {e},
          rule.answer .failFast ctx = .error e →
            Work.Determined (Pass.Settled ctx known computing learned)
              (classifyFailed ctx e rule))
      (hrules : EveryAmong ScopeFree rules)
      (hmem : ∀ g ∈ rememberedAmong rules, g ∈ known)
      (hinner : ∀ inner ∈ computationsAmong rules, inner ∈ computing) :
      ∀ rule ∈ rules, ∀ e, rule.answer .failFast ctx = .error e →
        Work.Determined (Pass.Settled ctx known computing learned) (classifyFailed ctx e rule) :=
    fun rule hrule e herror => ih rule hrule (everyAmong_iff.mp hrules rule hrule)
      (remembered_of_mem hmem hrule) (computations_of_mem hinner hrule) herror
  induction rule using Rule.induct generalizing e with
  | fixed guard reason value =>
      apply lookInto_determined
      apply classifyGuard_determined hinv.tame (hinv.guard hfree hknown)
      rintro _ ⟨⟩
      exact classifyBody_determined (Eval.gives_ok ()) _ (.pure _)
  | halting guard reason =>
      apply lookInto_determined
      apply classifyGuard_determined hinv.tame (hinv.guard hfree hknown)
      exact fun _ hbody => nomatch hbody
  | computed key guard reason compute => exact namedRoad_determined hcomputing herror
  | firstMatch name rules ih =>
      apply lookInto_determined
      exact classifyFirst_determined (heval hfree hknown hcomputing)
        (hfailed ih hfree hknown hcomputing)
  | allMatches name contributors ih =>
      apply lookInto_determined
      apply Forecast.additive_determined
      rw [classifyEach_eq_map, List.forall_mem_map]
      exact fun rule hrule => classifyBy_determined (heval hfree hknown hcomputing rule hrule)
        (hfailed ih hfree hknown hcomputing rule hrule)
  | enriched name base extension ihBase ihExtension =>
      obtain ⟨hbase, hextension⟩ := List.forall_mem_append.mp hknown
      obtain ⟨hinBase, hinExtension⟩ := List.forall_mem_append.mp hcomputing
      apply lookInto_determined
      apply Forecast.additive_determined
      refine List.forall_mem_cons.mpr ⟨?_, List.forall_mem_singleton.mpr ?_⟩
      · exact classifyBy_determined (hinv.eval_gives hfree.1 hbase hinBase)
          fun e herror => ihBase hfree.1 hbase hinBase herror
      · exact classifyBy_determined (hinv.eval_gives hfree.2 hextension hinExtension)
          fun e herror => ihExtension hfree.2 hextension hinExtension herror
  | leaf name guard hook value =>
      apply lookInto_determined
      apply classifyGuard_determined hinv.tame (hinv.guard hfree.1 hknown)
      rintro _ ⟨⟩
      exact classifyBody_determined (hinv.runHook_gives hfree.2) name (.pure _)
  | branch name guard hook children ih =>
      obtain ⟨hguard, hchildren⟩ := List.forall_mem_append.mp hknown
      have hevalChildren := heval hfree.2.2 hchildren hcomputing
      apply lookInto_determined
      apply classifyGuard_determined hinv.tame (hinv.guard hfree.1 hguard)
      rintro _ ⟨⟩
      apply classifyBody_determined (hinv.runHook_gives hfree.2.1) name
      apply classifyBy_determined (hinv.tame.evalFirst_gives hevalChildren)
      intro e _
      apply lookInto_determined
      exact classifyFirst_determined hevalChildren
        (hfailed ih hfree.2.2 hchildren hcomputing)
  | mapped f inner ih => exact namedRoad_determined hcomputing herror
  | custom name cost run => exact .pure _

/-- A rule has one forecast. -/
theorem classify_determined {rule : GoalRule} (hfree : rule.Every ScopeFree)
    (hknown : ∀ g ∈ rule.remembered, g ∈ known)
    (hcomputing : ∀ inner ∈ rule.computations, inner ∈ computing) :
    Work.Determined (Pass.Settled ctx known computing learned) (classify ctx rule) :=
  classifyBy_determined ((Pass.Settled.upheld hnames hkeys).eval_gives hfree hknown hcomputing)
    fun _ herror => classifyFailed_determined hnames hkeys hfree hknown hcomputing herror

end Rules

end Rule

end PushGoals
