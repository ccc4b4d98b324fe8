import PushGoals.Rule.Evaluation
import PushGoals.Proofs.Guard.Memory

/-!
# What rules answer

The meaning of a rule whose tests, hooks and computations do not hang on the
scratch.  `Rule.answer` is a function of the context and the failure policy
alone: a sequence goes through the answers of its rules, a set collects and
merges them, and wherever rules stand in a set the policy says what becomes of a
failure.

Under the policy that ends the pass at the first failure, a rule over stable work
is stable; and what it answers there without a failure it answers under either
policy.
-/

namespace PushGoals

/-- What becomes of the answer of a rule that stands in a set. -/
def FailurePolicy.supervised {V : Type} :
    FailurePolicy → Except GoalError (Outcome V) → Except GoalError (Outcome V)
  | .isolateAndReport, .error _ => .ok .noMatch
  | _, answer => answer

@[simp] theorem FailurePolicy.supervised_ok {V : Type} (policy : FailurePolicy) (o : Outcome V) :
    policy.supervised (.ok o) = .ok o := by
  cases policy <;> rfl

namespace Rule

variable {V : Type}

@[elab_as_elim]
theorem induct {motive : Rule V → Prop}
    (fixed : ∀ guard reason value, motive (.fixed guard reason value))
    (halting : ∀ guard reason, motive (.halting guard reason))
    (computed : ∀ key guard reason compute, motive (.computed key guard reason compute))
    (firstMatch : ∀ name rules, (∀ rule ∈ rules, motive rule) → motive (.firstMatch name rules))
    (allMatches : ∀ name contributors, (∀ rule ∈ contributors, motive rule) →
      motive (.allMatches name contributors))
    (enriched : ∀ name base extension, motive base → motive extension →
      motive (.enriched name base extension))
    (leaf : ∀ name guard hook value, motive (.leaf name guard hook value))
    (branch : ∀ name guard hook children, (∀ rule ∈ children, motive rule) →
      motive (.branch name guard hook children))
    (mapped : ∀ f inner, motive inner → motive (.mapped f inner))
    (custom : ∀ name cost run, motive (.custom name cost run))
    (rule : Rule V) : motive rule := by
  refine @Rule.rec V motive (fun rules => ∀ rule ∈ rules, motive rule)
    fixed halting computed firstMatch allMatches enriched leaf branch mapped custom ?_ ?_ rule
  · intro rule hrule
    cases hrule
  · intro rule rest hhead hrest
    exact List.forall_mem_cons.mpr ⟨hhead, hrest⟩

mutual

def Every (P : {α : Type} → (Context → Probe α) → Prop) : Rule V → Prop
  | .fixed guard _ _ => guard.Every P
  | .halting guard _ => guard.Every P
  | .computed _ guard _ compute =>
      guard.Every P ∧ ∀ fallback, P (fun ctx => compute ctx fallback)
  | .firstMatch _ rules => EveryAmong P rules
  | .allMatches _ contributors => EveryAmong P contributors
  | .enriched _ base extension => Every P base ∧ Every P extension
  | .leaf _ guard hook _ => guard.Every P ∧ ∀ work, hook = some work → P work
  | .branch _ guard hook children =>
      guard.Every P ∧ (∀ work, hook = some work → P work) ∧ EveryAmong P children
  | .mapped _ inner => Every P inner
  | .custom _ _ run => P run

def EveryAmong (P : {α : Type} → (Context → Probe α) → Prop) : List (Rule V) → Prop
  | [] => True
  | rule :: rest => Every P rule ∧ EveryAmong P rest

end

@[simp] theorem everyAmong_iff {P : {α : Type} → (Context → Probe α) → Prop}
    {rules : List (Rule V)} : EveryAmong P rules ↔ ∀ rule ∈ rules, rule.Every P := by
  induction rules with
  | nil => simp [EveryAmong]
  | cons rule rest ih => simp [EveryAmong, ih]

mutual

def remembered : Rule V → List Guard
  | .fixed guard _ _ => guard.remembered
  | .halting guard _ => guard.remembered
  | .computed _ guard _ _ => guard.remembered
  | .firstMatch _ rules => rememberedAmong rules
  | .allMatches _ contributors => rememberedAmong contributors
  | .enriched _ base extension => remembered base ++ remembered extension
  | .leaf _ guard _ _ => guard.remembered
  | .branch _ guard _ children => guard.remembered ++ rememberedAmong children
  | .mapped _ inner => remembered inner
  | .custom .. => []

def rememberedAmong : List (Rule V) → List Guard
  | [] => []
  | rule :: rest => remembered rule ++ rememberedAmong rest

end

@[simp] theorem rememberedAmong_eq_flatMap (rules : List (Rule V)) :
    rememberedAmong rules = rules.flatMap remembered := by
  induction rules with
  | nil => rfl
  | cons rule rest ih => simp [rememberedAmong, ih]

theorem remembered_of_mem {rules : List (Rule V)} {known : List Guard}
    (hknown : ∀ g ∈ rememberedAmong rules, g ∈ known) {rule : Rule V} (hrule : rule ∈ rules) :
    ∀ g ∈ rule.remembered, g ∈ known := by
  rw [rememberedAmong_eq_flatMap] at hknown
  exact fun g hg => hknown g (List.mem_flatMap_of_mem hrule hg)

mutual

/-- The rules that compute their goals, wherever they stand. -/
def computations : Rule V → List (Rule V)
  | .computed key guard reason compute => [.computed key guard reason compute]
  | .firstMatch _ rules => computationsAmong rules
  | .allMatches _ contributors => computationsAmong contributors
  | .enriched _ base extension => computations base ++ computations extension
  | .branch _ _ _ children => computationsAmong children
  | .mapped _ inner => computations inner
  | .fixed .. | .halting .. | .leaf .. | .custom .. => []

def computationsAmong : List (Rule V) → List (Rule V)
  | [] => []
  | rule :: rest => computations rule ++ computationsAmong rest

end

@[simp] theorem computationsAmong_eq_flatMap (rules : List (Rule V)) :
    computationsAmong rules = rules.flatMap computations := by
  induction rules with
  | nil => rfl
  | cons rule rest ih => simp [computationsAmong, ih]

theorem computations_of_mem {rules computing : List (Rule V)}
    (hall : ∀ rule ∈ computationsAmong rules, rule ∈ computing) {rule : Rule V}
    (hrule : rule ∈ rules) : ∀ inner ∈ rule.computations, inner ∈ computing := by
  rw [computationsAmong_eq_flatMap] at hall
  exact fun inner hinner => hall inner (List.mem_flatMap_of_mem hrule hinner)

def answerHook (hook : Option Hook) (ctx : Context) : Except GoalError Unit :=
  match hook with
  | none => .ok ()
  | some work => (work ctx).answer

mutual

/-- What a rule means for a context under a failure policy. -/
def answer [Contribution V] (policy : FailurePolicy) (ctx : Context) :
    Rule V → Except GoalError (Outcome V)
  | .fixed guard _ value => do
      if ← guard.holds ctx then return .matched value else return .noMatch
  | .halting guard _ => do
      if ← guard.holds ctx then return .halt else return .noMatch
  | .computed _ guard reason compute => do
      if ← guard.holds ctx then
        let given ← (compute ctx (statedName guard reason)).answer
        return .matched given.2
      else return .noMatch
  | .firstMatch _ rules => answerFirst policy ctx rules
  | .allMatches _ contributors => do
      let outcomes ← Eval.collect (answerEach policy ctx contributors)
      return .ofOption (Contribution.merge (outcomes.filterMap Outcome.value?))
  | .enriched _ base extension => do
      let given ← policy.supervised (answer policy ctx base)
      if closed given.value? then return .ofOption given.value?
      let added ← policy.supervised (answer policy ctx extension)
      return .ofOption (combine given.value? added.value?)
  | .leaf _ guard hook value => do
      if ← guard.holds ctx then
        answerHook hook ctx
        return .matched value
      else return .noMatch
  | .branch _ guard hook children => do
      if ← guard.holds ctx then
        answerHook hook ctx
        answerFirst policy ctx children
      else return .noMatch
  | .mapped f inner => (answer policy ctx inner).map (Outcome.map f)
  | .custom _ _ run => (run ctx).answer

def answerFirst [Contribution V] (policy : FailurePolicy) (ctx : Context) :
    List (Rule V) → Except GoalError (Outcome V)
  | [] => .ok .noMatch
  | rule :: rest => do
      match ← policy.supervised (answer policy ctx rule) with
      | .matched value => return .matched value
      | .noMatch => answerFirst policy ctx rest
      | .halt => return .noMatch

def answerEach [Contribution V] (policy : FailurePolicy) (ctx : Context) :
    List (Rule V) → List (Except GoalError (Outcome V))
  | [] => []
  | rule :: rest => policy.supervised (answer policy ctx rule) :: answerEach policy ctx rest

end

@[simp] theorem superviseEach_eq_map [Contribution V] (ctx : Context) (rules : List (Rule V)) :
    superviseEach ctx rules = rules.map fun rule => supervise rule (eval ctx rule) := by
  induction rules with
  | nil => rfl
  | cons rule rest ih => simp [superviseEach, ih]

@[simp] theorem answerEach_eq_map [Contribution V] (policy : FailurePolicy) (ctx : Context)
    (rules : List (Rule V)) :
    answerEach policy ctx rules =
      rules.map fun rule => policy.supervised (answer policy ctx rule) := by
  induction rules with
  | nil => rfl
  | cons rule rest ih => simp [answerEach, ih]

/-! ## Answers for two contexts -/

section Related

variable {R : {α : Type} → Except GoalError α → Except GoalError α → Prop}
  {P : {α : Type} → (Context → Probe α) → Prop} (ctx more : Context)

theorem answerHook_related (hR : Compositional R)
    (hwork : ∀ {α : Type} {work : Context → Probe α}, P work →
      R (work ctx).answer (work more).answer)
    {hook : Option Hook} (hhook : ∀ work, hook = some work → P work) :
    R (answerHook hook ctx) (answerHook hook more) := by
  cases hook with
  | none => exact hR.ok ()
  | some work => exact hwork (hhook work rfl)

variable [Contribution V] {policy later : FailurePolicy}

theorem answerFirst_related (hR : Compositional R) {rules : List (Rule V)}
    (hrules : ∀ rule ∈ rules, R (policy.supervised (rule.answer policy ctx))
      (later.supervised (rule.answer later more))) :
    R (answerFirst policy ctx rules) (answerFirst later more rules) := by
  induction rules with
  | nil => exact hR.ok Outcome.noMatch
  | cons rule rest ih =>
      obtain ⟨hhead, hrest⟩ := List.forall_mem_cons.mp hrules
      apply hR.bind hhead
      intro outcome _
      cases outcome with
      | matched value => exact hR.ok _
      | noMatch => exact ih hrest
      | halt => exact hR.ok _

/-- What holds between the answers of the work for two contexts, and survives the
failure policies, holds between the answers of the rule. -/
theorem answer_related (policy later : FailurePolicy) (hR : Compositional R)
    (hwork : ∀ {α : Type} {work : Context → Probe α}, P work →
      R (work ctx).answer (work more).answer)
    (hsupervised : ∀ {answer laterAnswer : Except GoalError (Outcome V)},
      R answer laterAnswer → R (policy.supervised answer) (later.supervised laterAnswer))
    {rule : Rule V} (hrule : rule.Every P) :
    R (rule.answer policy ctx) (rule.answer later more) := by
  have hguarded {guard : Guard} (hguard : guard.Every P)
      {next laterNext : Except GoalError (Outcome V)} (hnext : R next laterNext) :
      R (guard.holds ctx >>= fun passes => if passes then next else .ok .noMatch)
        (guard.holds more >>= fun passes => if passes then laterNext else .ok .noMatch) := by
    apply hR.bind (Guard.holds_related ctx more hR hwork hguard)
    intro passes _
    cases passes with
    | false => exact hR.ok Outcome.noMatch
    | true => exact hnext
  have heach {rules : List (Rule V)}
      (ih : ∀ rule ∈ rules, rule.Every P → R (rule.answer policy ctx) (rule.answer later more))
      (hrules : EveryAmong P rules) :
      ∀ rule ∈ rules, R (policy.supervised (rule.answer policy ctx))
        (later.supervised (rule.answer later more)) :=
    fun rule hmem => hsupervised (ih rule hmem (everyAmong_iff.mp hrules rule hmem))
  induction rule using Rule.induct with
  | fixed guard reason value => exact hguarded hrule (hR.ok (Outcome.matched value))
  | halting guard reason => exact hguarded hrule (hR.ok Outcome.halt)
  | computed key guard reason compute =>
      apply hguarded hrule.1
      apply hR.bind (hwork (hrule.2 _))
      exact fun given _ => hR.ok (Outcome.matched given.2)
  | firstMatch name rules ih => exact answerFirst_related ctx more hR (heach ih hrule)
  | allMatches name contributors ih =>
      apply hR.bind _ fun outcomes _ => hR.ok _
      apply hR.collect
      rw [answerEach_eq_map, answerEach_eq_map, forall₂_map_map]
      exact heach ih hrule
  | enriched name base extension ihBase ihExtension =>
      apply hR.bind (hsupervised (ihBase hrule.1))
      intro given _
      by_cases hclosed : closed given.value? = true
      · simp only [if_pos hclosed]
        exact hR.ok _
      · simp only [if_neg hclosed]
        exact hR.bind (hsupervised (ihExtension hrule.2)) fun added _ => hR.ok _
  | leaf name guard hook value =>
      apply hguarded hrule.1
      apply hR.bind (answerHook_related ctx more hR hwork hrule.2)
      exact fun _ _ => hR.ok (Outcome.matched value)
  | branch name guard hook children ih =>
      apply hguarded hrule.1
      apply hR.bind (answerHook_related ctx more hR hwork hrule.2.1)
      exact fun _ _ => answerFirst_related ctx more hR (heach ih hrule.2.2)
  | mapped f inner ih => exact hR.map (ih hrule) _
  | custom name cost run => exact hwork hrule

end Related

section Knowledge

variable {ctx more : Context}

theorem answerHook_stable {hook : Option Hook} (hstable : ∀ work, hook = some work → Stable work)
    (hmore : ctx.ExtendedBy more) : AnswerKept (answerHook hook ctx) (answerHook hook more) :=
  answerHook_related ctx more AnswerKept.compositional (fun hwork => hwork ctx more hmore) hstable

theorem supervised_success {policy : FailurePolicy} {answer later : Except GoalError (Outcome V)}
    (hkept : SuccessKept answer later) :
    SuccessKept (FailurePolicy.failFast.supervised answer) (policy.supervised later) := by
  intro o ho
  rw [hkept o ho]
  exact policy.supervised_ok o

variable [Contribution V] {rule : Rule V}

/-- A rule over stable work is stable as long as the first failure ends the pass. -/
theorem answer_stable (hstable : rule.Every Stable) (hmore : ctx.ExtendedBy more) :
    AnswerKept (rule.answer .failFast ctx) (rule.answer .failFast more) := by
  refine answer_related ctx more .failFast .failFast AnswerKept.compositional ?_ ?_ hstable
  · exact fun hwork => hwork ctx more hmore
  · exact fun hkept => hkept

theorem answer_lacksDataOnly (ctx : Context) (hdata : rule.Every FailsForData) :
    LacksDataOnly (rule.answer .failFast ctx) := by
  refine answer_related ctx ctx .failFast .failFast LacksDataOnly.compositional ?_ ?_ hdata
  · exact fun hwork => hwork ctx
  · exact fun hanswer => hanswer

/-- What a stable rule answers without a failure it answers, under either policy,
also when more is known. -/
theorem answer_settled (hstable : rule.Every Stable) (hmore : ctx.ExtendedBy more)
    (policy : FailurePolicy) :
    SuccessKept (rule.answer .failFast ctx) (policy.supervised (rule.answer policy more)) :=
  supervised_success (answer_related ctx more .failFast policy SuccessKept.compositional
    (fun hwork => (hwork ctx more hmore).success) supervised_success hstable)

end Knowledge

/-! ## Isolated failures -/

section Isolated

theorem supervised_ok_inj {policy : FailurePolicy} {outcome o : Outcome V}
    (hsupervised : policy.supervised (.ok outcome) = .ok o) : o = outcome := by
  rw [policy.supervised_ok] at hsupervised
  cases hsupervised
  rfl

theorem supervised_error_eq_ok {policy : FailurePolicy} {e : GoalError} {o : Outcome V}
    (hsupervised : policy.supervised (.error e) = .ok o) : o = .noMatch := by
  cases policy with
  | failFast => cases hsupervised
  | isolateAndReport =>
      cases hsupervised
      rfl

theorem supervised_eq_self (answer : FailurePolicy → Except GoalError (Outcome V))
    (hisolated : ∃ o, answer .isolateAndReport = .ok o) (policy : FailurePolicy) :
    policy.supervised (answer policy) = answer policy := by
  cases policy with
  | failFast => rfl
  | isolateAndReport =>
      obtain ⟨o, ho⟩ := hisolated
      rw [ho]
      rfl

theorem supervised_isolated (answer : Except GoalError (Outcome V)) :
    ∃ o, FailurePolicy.isolateAndReport.supervised answer = .ok o := by
  cases answer with
  | ok o => exact ⟨o, rfl⟩
  | error e => exact ⟨.noMatch, rfl⟩

variable [Contribution V] (ctx : Context)

theorem answerFirst_isolated (rules : List (Rule V)) :
    ∃ o, answerFirst .isolateAndReport ctx rules = .ok o := by
  induction rules with
  | nil => exact ⟨.noMatch, rfl⟩
  | cons rule rest ih =>
      obtain ⟨outcome, houtcome⟩ := supervised_isolated (rule.answer .isolateAndReport ctx)
      unfold answerFirst
      rw [houtcome]
      cases outcome with
      | matched value => exact ⟨.matched value, rfl⟩
      | noMatch => exact ih
      | halt => exact ⟨.noMatch, rfl⟩

theorem allMatches_isolated (name : String) (contributors : List (Rule V)) :
    ∃ o, (allMatches name contributors).answer .isolateAndReport ctx = .ok o := by
  have heach : ∃ outcomes,
      Eval.collect (answerEach .isolateAndReport ctx contributors) = .ok outcomes := by
    induction contributors with
    | nil => exact ⟨[], rfl⟩
    | cons rule rest ih =>
        obtain ⟨outcome, houtcome⟩ := supervised_isolated (rule.answer .isolateAndReport ctx)
        obtain ⟨outcomes, houtcomes⟩ := ih
        unfold answerEach
        rw [houtcome, Eval.collect, houtcomes]
        exact ⟨outcome :: outcomes, rfl⟩
  obtain ⟨outcomes, houtcomes⟩ := heach
  unfold answer
  rw [houtcomes]
  exact ⟨_, rfl⟩

theorem enriched_isolated (name : String) (base extension : Rule V) :
    ∃ o, (enriched name base extension).answer .isolateAndReport ctx = .ok o := by
  obtain ⟨given, hgiven⟩ := supervised_isolated (base.answer .isolateAndReport ctx)
  obtain ⟨added, hadded⟩ := supervised_isolated (extension.answer .isolateAndReport ctx)
  unfold answer
  rw [hgiven]
  by_cases hclosed : closed given.value? = true
  · exact ⟨.ofOption given.value?, if_pos hclosed⟩
  · refine ⟨.ofOption (combine given.value? added.value?), ?_⟩
    change (if closed given.value? = true then _ else _) = _
    rw [if_neg hclosed, hadded]
    rfl

theorem supervised_answerFirst (policy : FailurePolicy) (rules : List (Rule V)) :
    policy.supervised (answerFirst policy ctx rules) = answerFirst policy ctx rules :=
  supervised_eq_self (fun policy => answerFirst policy ctx rules)
    (answerFirst_isolated ctx rules) policy

theorem supervised_allMatches (policy : FailurePolicy) (name : String)
    (contributors : List (Rule V)) :
    policy.supervised ((allMatches name contributors).answer policy ctx) =
      (allMatches name contributors).answer policy ctx :=
  supervised_eq_self (fun policy => (allMatches name contributors).answer policy ctx)
    (allMatches_isolated ctx name contributors) policy

theorem supervised_enriched (policy : FailurePolicy) (name : String) (base extension : Rule V) :
    policy.supervised ((enriched name base extension).answer policy ctx) =
      (enriched name base extension).answer policy ctx :=
  supervised_eq_self (fun policy => (enriched name base extension).answer policy ctx)
    (enriched_isolated ctx name base extension) policy

theorem answerFirst_ne_halt (policy : FailurePolicy) (rules : List (Rule V)) :
    answerFirst policy ctx rules ≠ .ok .halt := by
  intro hhalt
  induction rules with
  | nil => cases hhalt
  | cons rule rest ih =>
      unfold answerFirst at hhalt
      obtain ⟨outcome, _, hrest⟩ := ok_of_bind hhalt
      cases outcome with
      | matched value => cases hrest
      | noMatch => exact ih hrest
      | halt => cases hrest

end Isolated

end Rule

end PushGoals
