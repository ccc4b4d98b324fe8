import PushGoals.Proofs.Rule.Evaluation

/-!
# Failing rules and silenced rules

`Rule.ownAnswer` is what a rule gives by itself while failures inside it are
isolated.  Sets and sequences never fail that way, so the rules that fail are
those whose own guard, hook or computation does.  `Rule.visited` lists the members
that are evaluated, `Rule.failures` the entries for those of them that fail, and
`Rule.silenced` puts a rule that never matches in the place of every failing member.

A silenced rule answers under either policy what the rule answers with its
failures isolated.
-/

namespace PushGoals

def Pass.isolating : Pass := ⟨{}, { policy := .isolateAndReport }⟩

namespace Rule

section Definitions

variable {V : Type} [Contribution V] (ctx : Context)

/-- What the rule gives by itself in a fresh pass that isolates failures. -/
def ownAnswer (rule : Rule V) : Except GoalError (Outcome V) :=
  ((rule.eval ctx).run.run .isolating).1

/-- What the rule counts as in a set: a failing member does not match. -/
def standing (rule : Rule V) : Outcome V :=
  match ownAnswer ctx rule with
  | .ok outcome => outcome
  | .error _ => .noMatch

def fails (rule : Rule V) : Bool :=
  match ownAnswer ctx rule with
  | .ok _ => false
  | .error _ => true

/-- An empty sequence never matches. -/
def never : Rule V := .firstMatch "" []

/-- Does the evaluation of a decision node get behind its guard and its hook? -/
def enters (guard : Guard) (hook : Option Hook) : Eval Bool := do
  if ← guard.passes ctx then
    runHook hook ctx
    return true
  else return false

mutual

/-- The members inside a rule that are evaluated, in the order in which their
evaluations end. -/
def visited : Rule V → List (Rule V)
  | .firstMatch _ rules => visitedFirst rules
  | .allMatches _ contributors => visitedEach contributors
  | .enriched _ base extension =>
      (visited base ++ [base]) ++
        if closed (standing ctx base).value? then [] else visited extension ++ [extension]
  | .branch _ guard hook children =>
      if ((enters ctx guard hook).run.run .isolating).1 = .ok true then visitedFirst children
      else []
  | .mapped _ inner => visited inner
  | .fixed .. | .halting .. | .computed .. | .leaf .. | .custom .. => []

/-- A sequence is evaluated up to the first member that matches or halts. -/
def visitedFirst : List (Rule V) → List (Rule V)
  | [] => []
  | rule :: rest =>
      (visited rule ++ [rule]) ++
        match standing ctx rule with
        | .noMatch => visitedFirst rest
        | .matched _ | .halt => []

def visitedEach : List (Rule V) → List (Rule V)
  | [] => []
  | rule :: rest => (visited rule ++ [rule]) ++ visitedEach rest

end

/-- The entry for a failing rule: the name it has and the text of its error. -/
def failure? (learned : LearnedNames) (rule : Rule V) : Option RuleFailure :=
  match ownAnswer ctx rule with
  | .ok _ => none
  | .error e => some ⟨rule.name learned, e.message⟩

def failures (learned : LearnedNames) (rules : List (Rule V)) : List RuleFailure :=
  rules.filterMap (failure? ctx learned)

mutual

/-- The rule with every failing member inside it silenced. -/
def silenced : Rule V → Rule V
  | .firstMatch name rules => .firstMatch name (silencedEach rules)
  | .allMatches name contributors => .allMatches name (silencedEach contributors)
  | .enriched name base extension =>
      .enriched name (if fails ctx base then never else silenced base)
        (if fails ctx extension then never else silenced extension)
  | .branch name guard hook children => .branch name guard hook (silencedEach children)
  | .mapped f inner => .mapped f (silenced inner)
  | .fixed guard reason value => .fixed guard reason value
  | .halting guard reason => .halting guard reason
  | .computed key guard reason compute => .computed key guard reason compute
  | .leaf name guard hook value => .leaf name guard hook value
  | .custom name cost run => .custom name cost run

def silencedEach : List (Rule V) → List (Rule V)
  | [] => []
  | rule :: rest => (if fails ctx rule then never else silenced rule) :: silencedEach rest

end

/-- A member of a set, or a rule that never matches in its place if it fails. -/
def silencedMember (rule : Rule V) : Rule V := if fails ctx rule then never else silenced ctx rule

@[simp] theorem silencedEach_eq_map (rules : List (Rule V)) :
    silencedEach ctx rules = rules.map (silencedMember ctx) := by
  induction rules with
  | nil => rfl
  | cons rule rest ih =>
      rw [silencedEach, ih]
      rfl

end Definitions

/-! ## The work in silenced rules -/

section Work

variable {V : Type} [Contribution V] {ctx : Context}
  {P : {α : Type} → (Context → Probe α) → Prop}

theorem silencedMember_induct {motive : Rule V → Prop} {rule : Rule V} (hnever : motive never)
    (hsilenced : motive (silenced ctx rule)) : motive (silencedMember ctx rule) := by
  unfold silencedMember
  cases fails ctx rule with
  | false => exact hsilenced
  | true => exact hnever

theorem every_silencedMember {rule : Rule V} (hrule : (silenced ctx rule).Every P) :
    (silencedMember ctx rule).Every P :=
  silencedMember_induct (motive := fun rule => rule.Every P) trivial hrule

theorem every_silenced {rule : Rule V} (hrule : rule.Every P) : (silenced ctx rule).Every P := by
  have heach {rules : List (Rule V)}
      (ih : ∀ rule ∈ rules, rule.Every P → (silenced ctx rule).Every P)
      (hrules : EveryAmong P rules) : EveryAmong P (silencedEach ctx rules) := by
    rw [silencedEach_eq_map, everyAmong_iff, List.forall_mem_map]
    exact fun rule hmem =>
      every_silencedMember (ih rule hmem (everyAmong_iff.mp hrules rule hmem))
  induction rule using Rule.induct with
  | firstMatch name rules ih => exact heach ih hrule
  | allMatches name contributors ih => exact heach ih hrule
  | enriched name base extension ihBase ihExtension =>
      exact ⟨every_silencedMember (ihBase hrule.1), every_silencedMember (ihExtension hrule.2)⟩
  | branch name guard hook children ih => exact ⟨hrule.1, hrule.2.1, heach ih hrule.2.2⟩
  | mapped f inner ih => exact ih hrule
  | _ => exact hrule

theorem remembered_silencedMember {rule : Rule V} {known : List Guard}
    (hrule : ∀ g ∈ (silenced ctx rule).remembered, g ∈ known) :
    ∀ g ∈ (silencedMember ctx rule).remembered, g ∈ known :=
  silencedMember_induct (motive := fun rule => ∀ g ∈ rule.remembered, g ∈ known)
    (fun _ hg => nomatch hg) hrule

theorem remembered_silenced {rule : Rule V} {known : List Guard}
    (hknown : ∀ g ∈ rule.remembered, g ∈ known) :
    ∀ g ∈ (silenced ctx rule).remembered, g ∈ known := by
  have heach {rules : List (Rule V)}
      (ih : ∀ rule ∈ rules, (∀ g ∈ rule.remembered, g ∈ known) →
        ∀ g ∈ (silenced ctx rule).remembered, g ∈ known)
      (hrules : ∀ g ∈ rememberedAmong rules, g ∈ known) :
      ∀ g ∈ rememberedAmong (silencedEach ctx rules), g ∈ known := by
    intro g hg
    rw [silencedEach_eq_map, rememberedAmong_eq_flatMap, List.flatMap_map] at hg
    obtain ⟨rule, hmem, hg⟩ := List.mem_flatMap.mp hg
    exact remembered_silencedMember (ih rule hmem (remembered_of_mem hrules hmem)) g hg
  induction rule using Rule.induct with
  | firstMatch name rules ih => exact heach ih hknown
  | allMatches name contributors ih => exact heach ih hknown
  | enriched name base extension ihBase ihExtension =>
      obtain ⟨hbase, hextension⟩ := List.forall_mem_append.mp hknown
      exact List.forall_mem_append.mpr ⟨remembered_silencedMember (ihBase hbase),
        remembered_silencedMember (ihExtension hextension)⟩
  | branch name guard hook children ih =>
      obtain ⟨hguard, hchildren⟩ := List.forall_mem_append.mp hknown
      exact List.forall_mem_append.mpr ⟨hguard, heach ih hchildren⟩
  | mapped f inner ih => exact ih hknown
  | _ => exact hknown

end Work

/-! ## The work in visited rules -/

section Visited

variable {V : Type} [Contribution V] {ctx : Context}
  {P : {α : Type} → (Context → Probe α) → Prop} {known : List Guard}

theorem visitedFirst_subset (rules : List (Rule V)) :
    visitedFirst ctx rules ⊆ visitedEach ctx rules := by
  induction rules with
  | nil => exact fun _ h => h
  | cons rule rest ih =>
      rw [visitedFirst, visitedEach]
      refine List.append_subset.mpr ⟨List.subset_append_left _ _, ?_⟩
      cases standing ctx rule with
      | noMatch => exact List.Subset.trans ih (List.subset_append_right _ _)
      | matched value => exact List.nil_subset _
      | halt => exact List.nil_subset _

@[simp] theorem visitedEach_eq_flatMap (rules : List (Rule V)) :
    visitedEach ctx rules = rules.flatMap fun rule => visited ctx rule ++ [rule] := by
  induction rules with
  | nil => rfl
  | cons rule rest ih => rw [visitedEach, ih, List.flatMap_cons]

/-- What holds throughout the work of a rule holds throughout the members evaluated in
it, and what they remember it remembers. -/
theorem visited_within {rule : Rule V} (hrule : rule.Every P)
    (hknown : ∀ g ∈ rule.remembered, g ∈ known) :
    ∀ member ∈ visited ctx rule, member.Every P ∧ ∀ g ∈ member.remembered, g ∈ known := by
  have hmember {rule : Rule V} (hrule : rule.Every P) (hknown : ∀ g ∈ rule.remembered, g ∈ known)
      (ih : ∀ member ∈ visited ctx rule, member.Every P ∧ ∀ g ∈ member.remembered, g ∈ known) :
      ∀ member ∈ visited ctx rule ++ [rule],
        member.Every P ∧ ∀ g ∈ member.remembered, g ∈ known :=
    List.forall_mem_append.mpr ⟨ih, List.forall_mem_singleton.mpr ⟨hrule, hknown⟩⟩
  have heach {rules : List (Rule V)}
      (ih : ∀ rule ∈ rules, rule.Every P → (∀ g ∈ rule.remembered, g ∈ known) →
        ∀ member ∈ visited ctx rule, member.Every P ∧ ∀ g ∈ member.remembered, g ∈ known)
      (hrules : EveryAmong P rules) (hknown : ∀ g ∈ rememberedAmong rules, g ∈ known) :
      ∀ member ∈ visitedEach ctx rules,
        member.Every P ∧ ∀ g ∈ member.remembered, g ∈ known := by
    rw [visitedEach_eq_flatMap, List.forall_mem_flatMap]
    intro rule hmem
    have hwithin := everyAmong_iff.mp hrules rule hmem
    have hremembered := remembered_of_mem hknown hmem
    exact hmember hwithin hremembered (ih rule hmem hwithin hremembered)
  induction rule using Rule.induct with
  | firstMatch name rules ih =>
      exact fun member hmember => heach ih hrule hknown member (visitedFirst_subset rules hmember)
  | allMatches name contributors ih => exact heach ih hrule hknown
  | enriched name base extension ihBase ihExtension =>
      obtain ⟨hbase, hextension⟩ := List.forall_mem_append.mp hknown
      rw [visited, List.forall_mem_append]
      refine ⟨hmember hrule.1 hbase (ihBase hrule.1 hbase), ?_⟩
      by_cases hclosed : closed (standing ctx base).value? = true
      · rw [if_pos hclosed]
        exact fun _ h => nomatch h
      · rw [if_neg hclosed]
        exact hmember hrule.2 hextension (ihExtension hrule.2 hextension)
  | branch name guard hook children ih =>
      obtain ⟨_, hchildren⟩ := List.forall_mem_append.mp hknown
      rw [visited]
      by_cases henters : ((enters ctx guard hook).run.run .isolating).1 = .ok true
      · rw [if_pos henters]
        exact fun member hmember =>
          heach ih hrule.2.2 hchildren member (visitedFirst_subset children hmember)
      · rw [if_neg henters]
        exact fun _ h => nomatch h
  | mapped f inner ih => exact ih hrule hknown
  | _ => exact fun _ h => nomatch h

end Visited

/-! ## What silenced rules answer -/

section Answers

variable {V : Type} [Contribution V] {ctx : Context} {known : List Guard}

theorem isolating_faithful :
    Pass.Faithful ctx known .isolateAndReport .isolating :=
  ⟨rfl, Caches.empty_default.truthful ctx known⟩

theorem ownAnswer_eq (hnames : Guard.SameNamed known) {rule : Rule V}
    (hfree : rule.Every ScopeFree) (hknown : ∀ g ∈ rule.remembered, g ∈ known) :
    ownAnswer ctx rule = rule.answer .isolateAndReport ctx :=
  (eval_gives hfree hnames hknown _ isolating_faithful).1

theorem supervised_ownAnswer (rule : Rule V) :
    FailurePolicy.isolateAndReport.supervised (ownAnswer ctx rule) = .ok (standing ctx rule) := by
  unfold standing
  cases ownAnswer ctx rule <;> rfl

theorem error_of_fails {rule : Rule V} (hfails : fails ctx rule = true) :
    ∃ e, ownAnswer ctx rule = .error e := by
  unfold fails at hfails
  cases hown : ownAnswer ctx rule with
  | ok o =>
      rw [hown] at hfails
      cases hfails
  | error e => exact ⟨e, rfl⟩

theorem answer_silencedMember {rule : Rule V}
    (hown : ownAnswer ctx rule = rule.answer .isolateAndReport ctx)
    (hrule : (silenced ctx rule).answer .failFast ctx = rule.answer .isolateAndReport ctx) :
    FailurePolicy.failFast.supervised ((silencedMember ctx rule).answer .failFast ctx) =
      FailurePolicy.isolateAndReport.supervised (rule.answer .isolateAndReport ctx) := by
  unfold silencedMember fails
  rw [hown]
  cases hanswer : rule.answer .isolateAndReport ctx with
  | ok outcome =>
      rw [hanswer] at hrule
      simp only [Bool.false_eq_true, if_false, hrule]
      rfl
  | error e => rfl

/-- What `enters` gives, whatever is remembered. -/
def answerEnters (ctx : Context) (guard : Guard) (hook : Option Hook) : Except GoalError Bool := do
  if ← guard.holds ctx then
    answerHook hook ctx
    return true
  else return false

theorem enters_eq (ctx : Context) (hnames : Guard.SameNamed known) {guard : Guard}
    {hook : Option Hook}
    (hfree : guard.Every ScopeFree) (hhook : ∀ work, hook = some work → ScopeFree work)
    (hknown : ∀ g ∈ guard.remembered, g ∈ known) :
    ((enters ctx guard hook).run.run .isolating).1 = answerEnters ctx guard hook := by
  have hgives : Eval.Gives (Pass.Faithful ctx known .isolateAndReport) (enters ctx guard hook)
      (answerEnters ctx guard hook) := by
    apply (Guard.passes_gives hfree hnames hknown).bind
    intro passes _
    cases passes with
    | false => exact Eval.gives_ok false
    | true => exact (runHook_gives hhook ctx).bind fun _ _ => Eval.gives_ok true
  exact (hgives _ isolating_faithful).1

theorem parts?_of_error {rule : Rule V} {e : GoalError}
    (herror : rule.answer .isolateAndReport ctx = .error e) : rule.parts? = none := by
  cases rule with
  | firstMatch name rules =>
      obtain ⟨o, ho⟩ := answerFirst_isolated ctx rules
      rw [answer, ho] at herror
      cases herror
  | allMatches name contributors =>
      obtain ⟨o, ho⟩ := allMatches_isolated ctx name contributors
      rw [ho] at herror
      cases herror
  | enriched name base extension =>
      obtain ⟨o, ho⟩ := enriched_isolated ctx name base extension
      rw [ho] at herror
      cases herror
  | _ => rfl

/-- A failing rule fails by itself: no member inside it has been evaluated. -/
theorem visited_of_error (hnames : Guard.SameNamed known) {rule : Rule V}
    (hfree : rule.Every ScopeFree) (hknown : ∀ g ∈ rule.remembered, g ∈ known)
    {e : GoalError} (herror : rule.answer .isolateAndReport ctx = .error e) :
    visited ctx rule = [] := by
  induction rule using Rule.induct generalizing e with
  | firstMatch name rules => cases parts?_of_error herror
  | allMatches name contributors => cases parts?_of_error herror
  | enriched name base extension => cases parts?_of_error herror
  | branch name guard hook children =>
      obtain ⟨hguard, _⟩ := List.forall_mem_append.mp hknown
      have henters := enters_eq ctx hnames hfree.1 hfree.2.1 hguard
      obtain ⟨o, ho⟩ := answerFirst_isolated ctx children
      rw [answer] at herror
      rw [visited, henters]
      apply if_neg
      intro hentered
      obtain ⟨passes, hpasses, hthen⟩ := ok_of_bind hentered
      rw [hpasses] at herror
      cases passes with
      | false => cases hthen
      | true =>
          obtain ⟨_, hhook, _⟩ := ok_of_bind hthen
          change (answerHook hook ctx >>= fun _ => answerFirst .isolateAndReport ctx children) =
            .error e at herror
          rw [hhook] at herror
          cases ho.symm.trans herror
  | mapped f inner ih =>
      rw [answer] at herror
      cases hinner : inner.answer .isolateAndReport ctx with
      | ok o =>
          rw [hinner] at herror
          cases herror
      | error e => exact ih hfree hknown hinner
  | _ => rfl

/-- With its failing members silenced a rule answers as it does while its failures
are isolated. -/
theorem answer_silenced (hnames : Guard.SameNamed known) {rule : Rule V}
    (hfree : rule.Every ScopeFree) (hknown : ∀ g ∈ rule.remembered, g ∈ known) :
    (silenced ctx rule).answer .failFast ctx = rule.answer .isolateAndReport ctx := by
  have hmember {rule : Rule V} (hfree : rule.Every ScopeFree)
      (hknown : ∀ g ∈ rule.remembered, g ∈ known)
      (ih : (silenced ctx rule).answer .failFast ctx = rule.answer .isolateAndReport ctx) :=
    answer_silencedMember (ownAnswer_eq hnames hfree hknown) ih
  have hmembers {rules : List (Rule V)}
      (ih : ∀ rule ∈ rules, rule.Every ScopeFree → (∀ g ∈ rule.remembered, g ∈ known) →
        (silenced ctx rule).answer .failFast ctx = rule.answer .isolateAndReport ctx)
      (hfree : EveryAmong ScopeFree rules) (hknown : ∀ g ∈ rememberedAmong rules, g ∈ known) :
      ∀ rule ∈ rules,
        FailurePolicy.failFast.supervised ((silencedMember ctx rule).answer .failFast ctx) =
          FailurePolicy.isolateAndReport.supervised (rule.answer .isolateAndReport ctx) := by
    intro rule hrule
    have hruleFree := everyAmong_iff.mp hfree rule hrule
    have hruleKnown := remembered_of_mem hknown hrule
    exact hmember hruleFree hruleKnown (ih rule hrule hruleFree hruleKnown)
  have hfirst {rules : List (Rule V)}
      (hrules : ∀ rule ∈ rules,
        FailurePolicy.failFast.supervised ((silencedMember ctx rule).answer .failFast ctx) =
          FailurePolicy.isolateAndReport.supervised (rule.answer .isolateAndReport ctx)) :
      answerFirst .failFast ctx (silencedEach ctx rules) =
        answerFirst .isolateAndReport ctx rules := by
    rw [silencedEach_eq_map]
    induction rules with
    | nil => rfl
    | cons rule rest ih =>
        obtain ⟨hhead, hrest⟩ := List.forall_mem_cons.mp hrules
        rw [List.map_cons, answerFirst, answerFirst, hhead, ih hrest]
  induction rule using Rule.induct with
  | firstMatch name rules ih => exact hfirst (hmembers ih hfree hknown)
  | allMatches name contributors ih =>
      have heach : answerEach .failFast ctx (silencedEach ctx contributors) =
          answerEach .isolateAndReport ctx contributors := by
        rw [answerEach_eq_map, answerEach_eq_map, silencedEach_eq_map, List.map_map]
        exact List.map_congr_left (hmembers ih hfree hknown)
      rw [silenced, answer, answer, heach]
  | enriched name base extension ihBase ihExtension =>
      obtain ⟨hbaseKnown, hextensionKnown⟩ := List.forall_mem_append.mp hknown
      have hbase := hmember hfree.1 hbaseKnown (ihBase hfree.1 hbaseKnown)
      have hextension := hmember hfree.2 hextensionKnown (ihExtension hfree.2 hextensionKnown)
      unfold silencedMember at hbase hextension
      rw [silenced, answer, answer, hbase, hextension]
  | branch name guard hook children ih =>
      obtain ⟨_, hchildren⟩ := List.forall_mem_append.mp hknown
      rw [silenced, answer, answer, hfirst (hmembers ih hfree.2.2 hchildren)]
  | mapped f inner ih => rw [silenced, answer, answer, ih hfree hknown]
  | _ => rfl

end Answers

end Rule

end PushGoals
