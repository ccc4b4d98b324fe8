import PushGoals.Proofs.Decision
import PushGoals.Proofs.Guard.Formula
import PushGoals.Proofs.Recording
import PushGoals.Proofs.Rule.Isolation

/-!
# Isolation is silencing

Under the policy that isolates failures a decision is never an error: it sets what
is set, under the other policy, by the chains with every failing member silenced,
and it lists the failing members that were evaluated, each once.

The entry for a failing rule bears the name that the rule has then.  A rule learns
a name only from goals that it computed, so a failing rule is still called what it
was called at the start, as long as no other rule has its key.
-/

namespace PushGoals

variable {V : Type} {ctx : Context} {known : List Guard} {learned : LearnedNames}

theorem LearnedNames.get?_set_of_ne {key other : RuleKey} (hne : other ≠ key)
    (names : LearnedNames) (name : String) :
    (names.set key name).get? other = names.get? other := by
  have hbeq : (other == key) = false := beq_eq_false_iff_ne.mpr hne
  induction names with
  | nil => simp [set, get?, List.lookup_cons, hbeq]
  | cons entry rest ih =>
      obtain ⟨entryKey, entryName⟩ := entry
      simp only [set, get?, List.lookup_cons, hbeq] at ih ⊢
      by_cases hentry : entryKey = key
      · subst entryKey
        simp [hbeq, ih]
      · simp [hentry, List.lookup_cons, ih]

namespace Rule

/-- The key under which the rule learns its name, if it learns one. -/
def key? : Rule V → Option RuleKey
  | .computed key _ _ _ => some key
  | .mapped _ inner => inner.key?
  | _ => none

theorem name_congr {first second : LearnedNames} (rule : Rule V)
    (hnames : ∀ key, rule.key? = some key → first.get? key = second.get? key) :
    rule.name first = rule.name second := by
  induction rule using Rule.induct with
  | computed key guard reason compute => rw [name, name, hnames key rfl]
  | mapped f inner ih => exact ih hnames
  | _ => rfl

/-- A key tells which rule it belongs to. -/
def KeysTell (computing : List (Rule V)) : Prop :=
  ∀ first ∈ computing, ∀ second ∈ computing, first.key? = second.key? → first = second

variable [Contribution V]

def FailingKey (ctx : Context) (computing : List (Rule V)) (key : RuleKey) : Prop :=
  ∃ rule ∈ computing, rule.key? = some key ∧
    ∃ e, rule.answer .isolateAndReport ctx = .error e

theorem failingKey_of_error {computing : List (Rule V)} {rule : Rule V}
    (hrule : ∀ inner ∈ rule.computations, inner ∈ computing) {e : GoalError}
    (herror : rule.answer .isolateAndReport ctx = .error e) {key : RuleKey}
    (hkey : rule.key? = some key) : FailingKey ctx computing key := by
  induction rule using Rule.induct generalizing e with
  | computed _ guard reason compute =>
      exact ⟨_, hrule _ (List.mem_singleton.mpr rfl), hkey, e, herror⟩
  | mapped f inner ih =>
      rw [answer] at herror
      cases hinner : inner.answer .isolateAndReport ctx with
      | ok o =>
          rw [hinner] at herror
          cases herror
      | error d => exact ih hrule hinner hkey
  | _ => cases hkey

theorem not_failingKey {computing : List (Rule V)} (hkeys : KeysTell computing)
    {rule : Rule V} (hrule : rule ∈ computing) {key : RuleKey} (hkey : rule.key? = some key)
    {o : Outcome V} (hanswer : rule.answer .isolateAndReport ctx = .ok o) :
    ¬ FailingKey ctx computing key := by
  rintro ⟨other, hother, hotherKey, e, herror⟩
  have hsame : other = rule := hkeys other hother rule hrule (hotherKey.trans hkey.symm)
  rw [hsame, hanswer] at herror
  cases herror

end Rule

/-- A pass that isolates failures, in which failing rules are called what they were
called when `learned` was known. -/
structure Pass.Isolating [Contribution V] (ctx : Context) (known : List Guard)
    (computing : List (Rule V)) (learned : LearnedNames) (p : Pass) : Prop where
  faithful : p.Faithful ctx known .isolateAndReport
  names : ∀ key, Rule.FailingKey ctx computing key → p.engine.learned.get? key = learned.get? key

namespace Eval

variable {α : Type} [Contribution V] {computing : List (Rule V)}

theorem Records.of_gives {step : Eval α} {answer : Except GoalError α}
    (hgives : Gives (Pass.Faithful ctx known .isolateAndReport) step answer)
    (hnames : KeepsNames step) (hfailures : KeepsFailures step) :
    Records (Pass.Isolating ctx known computing learned) step answer [] := by
  intro p hp
  obtain ⟨hanswer, hfaithful⟩ := hgives p hp.faithful
  have hlearned : (step.run.run p).2.engine.learned = p.engine.learned := hnames p
  refine ⟨hanswer, ⟨hfaithful, ?_⟩, ?_⟩
  · intro key hkey
    rw [hlearned]
    exact hp.names key hkey
  · rw [List.append_nil]
    exact hfailures p

theorem Records.of_probe {work : Context → Probe α} (hfree : ScopeFree work)
    (hquiet : RecordsNothing work) :
    Records (Pass.Isolating ctx known computing learned) (ofProbe (work ctx)) (work ctx).answer
      [] :=
  .of_gives (ofProbe_gives hfree ctx) (ofProbe_keepsNames _) (ofProbe_keepsFailures hquiet ctx)

theorem Records.learn {key : RuleKey} (hkey : ¬ Rule.FailingKey ctx computing key)
    (name : Option String) :
    Work.Records (Pass.Isolating ctx known computing learned) (learn key name) () [] := by
  cases name with
  | none => exact Work.Records.pure ()
  | some name =>
      intro p hp
      refine ⟨rfl, ⟨⟨hp.faithful.policy, hp.faithful.caches⟩, ?_⟩, (List.append_nil _).symm⟩
      intro other hother
      have hne : other ≠ key := fun heq => hkey (heq ▸ hother)
      exact (LearnedNames.get?_set_of_ne hne _ name).trans (hp.names other hother)

theorem Records.isolate (called : String) (e : GoalError) :
    Work.Records (Pass.Isolating ctx known computing learned) (isolate called e) ()
      [⟨called, e.message⟩] :=
  fun _ hp => ⟨rfl, ⟨⟨hp.faithful.policy, hp.faithful.caches⟩, hp.names⟩, rfl⟩

end Eval

namespace Rule

variable [Contribution V] {computing : List (Rule V)}

/-- In a pass with `inv` the rule gives its own answer and what is recorded are its
failing members. -/
def Reports (inv : Pass → Prop) (learned : LearnedNames) (ctx : Context) (rule : Rule V) : Prop :=
  Eval.Records inv (rule.eval ctx) (rule.answer .isolateAndReport ctx)
    (failures ctx learned (visited ctx rule))

/-- The rule is evaluated as a member of a set: it gives what it counts as, and its
failing members and the rule itself are recorded. -/
structure ReportsAsMember (inv : Pass → Prop) (learned : LearnedNames) (ctx : Context)
    (rule : Rule V) : Prop where
  own : ownAnswer ctx rule = rule.answer .isolateAndReport ctx
  records : Eval.Records inv (supervise rule (rule.eval ctx)) (.ok (standing ctx rule))
    (failures ctx learned (visited ctx rule ++ [rule]))

theorem failures_append (first rest : List (Rule V)) :
    failures ctx learned (first ++ rest) =
      failures ctx learned first ++ failures ctx learned rest :=
  List.filterMap_append

/-- As a member of a set the rule is recorded itself if it fails. -/
theorem reports_as_member (hnames : Guard.SameNamed known) {rule : Rule V}
    (hfree : rule.Every ScopeFree) (hknown : ∀ g ∈ rule.remembered, g ∈ known)
    (hcomputing : ∀ inner ∈ rule.computations, inner ∈ computing)
    (hrule : rule.Reports (Pass.Isolating ctx known computing learned) learned ctx) :
    rule.ReportsAsMember (Pass.Isolating ctx known computing learned) learned ctx := by
  have hown : ownAnswer ctx rule = rule.answer .isolateAndReport ctx :=
    ownAnswer_eq hnames hfree hknown
  refine ⟨hown, ?_⟩
  rw [failures_append]
  apply hrule.attempt.bind_ok
  cases hanswer : rule.answer .isolateAndReport ctx with
  | ok outcome =>
      rw [hanswer] at hown
      have hstanding : standing ctx rule = outcome := by
        unfold standing
        rw [hown]
      have hnone : failures ctx learned [rule] = [] := by
        simp [failures, failure?, hown]
      rw [hstanding, hnone]
      by_cases hmatched : outcome.isMatched = true
      · simp only [if_pos hmatched]
        exact fun _ hp => ⟨rfl, ⟨⟨hp.faithful.policy, hp.faithful.caches⟩, hp.names⟩,
          (List.append_nil _).symm⟩
      · simp only [if_neg hmatched]
        exact Eval.Records.ok outcome
  | error e =>
      rw [hanswer] at hown
      have hstanding : standing ctx rule = .noMatch := by
        unfold standing
        rw [hown]
      have hentry : failures ctx learned [rule] = [⟨rule.name learned, e.message⟩] := by
        simp [failures, failure?, hown]
      rw [hstanding, hentry]
      have hname : Work.Records (Pass.Isolating ctx known computing learned)
          rule.currentName (rule.name learned) [] := by
        intro p hp
        refine ⟨?_, hp, (List.append_nil _).symm⟩
        apply name_congr
        exact fun key hkey => hp.names key (failingKey_of_error hcomputing hanswer hkey)
      apply Eval.Records.get_bind
      intro p hp
      rw [hp.faithful.policy]
      apply Eval.Records.lift_bind hname
      exact Eval.Records.lift_bind (Eval.Records.isolate _ e) (Eval.Records.ok Outcome.noMatch)

theorem runHook_records {hook : Option Hook} (hfree : ∀ work, hook = some work → ScopeFree work)
    (hquiet : ∀ work, hook = some work → RecordsNothing work) :
    Eval.Records (Pass.Isolating ctx known computing learned) (runHook hook ctx)
      (answerHook hook ctx) [] := by
  cases hook with
  | none => exact Eval.Records.ok ()
  | some work => exact .of_probe (hfree work rfl) (hquiet work rfl)

section Members

variable {inv : Pass → Prop} {rules : List (Rule V)}

theorem settle_records (hrules : ∀ rule ∈ rules, rule.ReportsAsMember inv learned ctx) :
    Work.Records inv (Eval.settle (superviseEach ctx rules))
      (rules.map fun rule => .ok (standing ctx rule))
      (failures ctx learned (visitedEach ctx rules)) := by
  induction rules with
  | nil => exact Work.Records.pure []
  | cons rule rest ih =>
      obtain ⟨hhead, hrest⟩ := List.forall_mem_cons.mp hrules
      rw [visitedEach, failures_append]
      apply Work.Records.bind hhead.records
      rw [← List.append_nil (failures ctx learned (visitedEach ctx rest))]
      exact (ih hrest).bind (Work.Records.pure _)

theorem allSettled_records (hrules : ∀ rule ∈ rules, rule.ReportsAsMember inv learned ctx) :
    Eval.Records inv (Eval.allSettled (superviseEach ctx rules))
      (.ok (rules.map (standing ctx))) (failures ctx learned (visitedEach ctx rules)) := by
  have hcollect : Eval.collect (rules.map fun rule => .ok (standing ctx rule)) =
      .ok (rules.map (standing ctx)) := by
    rw [Eval.collect_eq_ok_iff, List.map_map]
    rfl
  rw [← hcollect, ← List.append_nil (failures ctx learned _)]
  exact Eval.Records.lift_bind (settle_records hrules) (Work.Records.pure _)

theorem ReportsAsMember.supervised {rule : Rule V} (hrule : rule.ReportsAsMember inv learned ctx) :
    FailurePolicy.isolateAndReport.supervised (rule.answer .isolateAndReport ctx) =
      .ok (standing ctx rule) := by
  rw [← hrule.own, supervised_ownAnswer]

theorem answerEach_of_standing (hrules : ∀ rule ∈ rules, rule.ReportsAsMember inv learned ctx) :
    Eval.collect (answerEach .isolateAndReport ctx rules) = .ok (rules.map (standing ctx)) := by
  rw [Eval.collect_eq_ok_iff, answerEach_eq_map, List.map_map]
  exact List.map_congr_left fun rule hrule => (hrules rule hrule).supervised

theorem enriched_of_standing (name : String) {base extension : Rule V}
    (hbase : base.ReportsAsMember inv learned ctx)
    (hextension : extension.ReportsAsMember inv learned ctx) :
    (enriched name base extension).answer .isolateAndReport ctx =
      .ok (.ofOption (if closed (standing ctx base).value? then (standing ctx base).value?
        else combine (standing ctx base).value? (standing ctx extension).value?)) := by
  rw [answer, hbase.supervised, hextension.supervised]
  change (if closed (standing ctx base).value? = true then _ else _) = _
  by_cases hclosed : closed (standing ctx base).value? = true
  · rw [if_pos hclosed, if_pos hclosed]
    rfl
  · rw [if_neg hclosed, if_neg hclosed]
    rfl

theorem evalFirst_records (hlogged : ∀ p e, inv p → inv (p.emit e))
    (hrules : ∀ rule ∈ rules, rule.ReportsAsMember inv learned ctx) :
    Eval.Records inv (evalFirst ctx rules) (answerFirst .isolateAndReport ctx rules)
      (failures ctx learned (visitedFirst ctx rules)) := by
  induction rules with
  | nil => exact Eval.Records.ok Outcome.noMatch
  | cons rule rest ih =>
      obtain ⟨hhead, hrest⟩ := List.forall_mem_cons.mp hrules
      rw [answerFirst, hhead.supervised, visitedFirst, failures_append]
      apply hhead.records.bind_ok
      cases standing ctx rule with
      | matched value => exact Eval.Records.ok (Outcome.matched value)
      | noMatch => exact ih hrest
      | halt =>
          exact fun p hp => ⟨rfl, hlogged p (.ruleHalted _) hp, (List.append_nil _).symm⟩

theorem enriched_records (name : String) {base extension : Rule V}
    (hbase : base.ReportsAsMember inv learned ctx)
    (hextension : extension.ReportsAsMember inv learned ctx) :
    (enriched name base extension).Reports inv learned ctx := by
  unfold Reports
  rw [enriched_of_standing name hbase hextension, visited, failures_append]
  apply hbase.records.bind_ok
  by_cases hclosed : closed (standing ctx base).value? = true
  · rw [if_pos hclosed, if_pos hclosed, if_pos hclosed]
    exact Eval.Records.ok _
  · rw [if_neg hclosed, if_neg hclosed, if_neg hclosed,
      ← List.append_nil (failures ctx learned _)]
    exact hextension.records.bind_ok (Eval.Records.ok _)

/-- The children of a decision node are evaluated if its guard passes and its hook does
not fail. -/
theorem branch_records (name : String) {guard : Guard} {hook : Option Hook}
    {children : List (Rule V)}
    (henters : ((enters ctx guard hook).run.run .isolating).1 = answerEnters ctx guard hook)
    (hpasses : Eval.Records inv (guard.passes ctx) (guard.holds ctx) [])
    (hwork : Eval.Records inv (runHook hook ctx) (answerHook hook ctx) [])
    (hchildren : Eval.Records inv (evalFirst ctx children)
      (answerFirst .isolateAndReport ctx children)
      (failures ctx learned (visitedFirst ctx children))) :
    (branch name guard hook children).Reports inv learned ctx := by
  unfold Reports
  rw [answer, visited, henters, answerEnters]
  cases hholds : guard.holds ctx with
  | error e =>
      rw [hholds] at hpasses
      exact hpasses.bind_error _
  | ok passes =>
      rw [hholds] at hpasses
      cases passes with
      | false => exact hpasses.bind_ok (Eval.Records.ok Outcome.noMatch)
      | true =>
          apply hpasses.bind_ok
          cases hanswer : answerHook hook ctx with
          | error e =>
              rw [hanswer] at hwork
              exact hwork.bind_error _
          | ok done =>
              rw [hanswer] at hwork
              exact hwork.bind_ok hchildren

end Members

/-- While failures are isolated a rule gives its own answer, and the members inside it
that are evaluated and fail are recorded, each once and in the order of evaluation. -/
theorem eval_records (hnames : Guard.SameNamed known) (hkeys : KeysTell computing)
    {rule : Rule V} (hfree : rule.Every ScopeFree) (hquiet : rule.Every RecordsNothing)
    (hknown : ∀ g ∈ rule.remembered, g ∈ known)
    (hcomputing : ∀ inner ∈ rule.computations, inner ∈ computing) :
    rule.Reports (Pass.Isolating ctx known computing learned) learned ctx := by
  have hguard {guard : Guard} (hfree : guard.Every ScopeFree)
      (hquiet : guard.Every RecordsNothing) (hknown : ∀ g ∈ guard.remembered, g ∈ known) :
      Eval.Records (Pass.Isolating ctx known computing learned)
        (guard.passes ctx) (guard.holds ctx) [] :=
    .of_gives (Guard.passes_gives hfree hnames hknown) (guard.passes_keepsNames ctx)
      (Guard.passes_keepsFailures ctx hquiet)
  have hmembers {rules : List (Rule V)}
      (ih : ∀ rule ∈ rules, rule.Every ScopeFree → rule.Every RecordsNothing →
        (∀ g ∈ rule.remembered, g ∈ known) → (∀ inner ∈ rule.computations, inner ∈ computing) →
        rule.Reports (Pass.Isolating ctx known computing learned) learned ctx)
      (hfree : EveryAmong ScopeFree rules) (hquiet : EveryAmong RecordsNothing rules)
      (hknown : ∀ g ∈ rememberedAmong rules, g ∈ known)
      (hcomputing : ∀ inner ∈ computationsAmong rules, inner ∈ computing) :
      ∀ rule ∈ rules,
        rule.ReportsAsMember (Pass.Isolating ctx known computing learned) learned ctx := by
    intro rule hrule
    have hruleFree := everyAmong_iff.mp hfree rule hrule
    have hruleKnown := remembered_of_mem hknown hrule
    have hruleComputing := computations_of_mem hcomputing hrule
    exact reports_as_member hnames hruleFree hruleKnown hruleComputing
      (ih rule hrule hruleFree (everyAmong_iff.mp hquiet rule hrule) hruleKnown hruleComputing)
  have hlogged : ∀ p e, Pass.Isolating ctx known computing learned p →
      Pass.Isolating ctx known computing learned (p.emit e) :=
    fun _ _ hp => ⟨⟨hp.faithful.policy, hp.faithful.caches⟩, hp.names⟩
  induction rule using Rule.induct with
  | fixed guard reason value =>
      apply (hguard hfree hquiet hknown).bind
      intro passes _
      cases passes with
      | false => exact Eval.Records.ok Outcome.noMatch
      | true => exact Eval.Records.ok (Outcome.matched value)
  | halting guard reason =>
      apply (hguard hfree hquiet hknown).bind
      intro passes _
      cases passes with
      | false => exact Eval.Records.ok Outcome.noMatch
      | true => exact Eval.Records.ok Outcome.halt
  | computed key guard reason compute =>
      apply (hguard hfree.1 hquiet.1 hknown).bind
      intro passes hpasses
      cases passes with
      | false => exact Eval.Records.ok Outcome.noMatch
      | true =>
          apply (Eval.Records.of_probe (hfree.2 _) (hquiet.2 _)).bind
          intro given hgiven
          have hanswer : (computed key guard reason compute).answer .isolateAndReport ctx =
              .ok (.matched given.2) := by
            rw [answer, hpasses]
            change ((compute ctx (statedName guard reason)).answer >>= fun given =>
              Except.ok (Outcome.matched given.2)) = _
            rw [hgiven]
            rfl
          -- The name is learnt by a rule that does not fail, so no failing rule is renamed.
          have hkey := not_failingKey hkeys (hcomputing _ (List.mem_singleton.mpr rfl)) rfl hanswer
          exact Eval.Records.lift_bind (Eval.Records.learn hkey given.1)
            (Eval.Records.ok (Outcome.matched given.2))
  | firstMatch name rules ih =>
      exact evalFirst_records hlogged (hmembers ih hfree hquiet hknown hcomputing)
  | allMatches name contributors ih =>
      have hrules := hmembers ih hfree hquiet hknown hcomputing
      unfold Reports
      rw [answer, answerEach_of_standing hrules, visited]
      exact (allSettled_records hrules).map _
  | enriched name base extension ihBase ihExtension =>
      obtain ⟨hbaseKnown, hextensionKnown⟩ := List.forall_mem_append.mp hknown
      obtain ⟨hbaseKeys, hextensionKeys⟩ := List.forall_mem_append.mp hcomputing
      exact enriched_records name
        (reports_as_member hnames hfree.1 hbaseKnown hbaseKeys
          (ihBase hfree.1 hquiet.1 hbaseKnown hbaseKeys))
        (reports_as_member hnames hfree.2 hextensionKnown hextensionKeys
          (ihExtension hfree.2 hquiet.2 hextensionKnown hextensionKeys))
  | leaf name guard hook value =>
      apply (hguard hfree.1 hquiet.1 hknown).bind
      intro passes _
      cases passes with
      | false => exact Eval.Records.ok Outcome.noMatch
      | true => exact (runHook_records hfree.2 hquiet.2).bind fun _ _ => Eval.Records.ok _
  | branch name guard hook children ih =>
      obtain ⟨hguardKnown, hchildrenKnown⟩ := List.forall_mem_append.mp hknown
      exact branch_records name (enters_eq ctx hnames hfree.1 hfree.2.1 hguardKnown)
        (hguard hfree.1 hquiet.1 hguardKnown) (runHook_records hfree.2.1 hquiet.2.1)
        (evalFirst_records hlogged
          (hmembers ih hfree.2.2 hquiet.2.2 hchildrenKnown hcomputing))
  | mapped f inner ih => exact (ih hfree hquiet hknown hcomputing).map _
  | custom name cost run =>
      exact .of_probe hfree hquiet

end Rule

namespace Decider

variable {decider : Decider} {engine other : Engine}

/-- The decider with every failing member silenced, under the policy that ends a pass
at the first failure. -/
def silenced (decider : Decider) (ctx : Context) : Decider where
  chains := decider.chains.map (Rule.silencedMember ctx)
  settings := { decider.settings with failurePolicy := .failFast }

/-- Every chain counts as what it stands for, and none ends the pass. -/
theorem isolated_settle (ctx : Context)
    (hpolicy : decider.settings.failurePolicy = .isolateAndReport)
    (hfree : ∀ rule ∈ decider.chains, rule.Every ScopeFree)
    (hnames : Guard.SameNamed (decider.chains.flatMap Rule.remembered))
    (hempty : engine.caches.Empty) :
    ((Eval.settle (Rule.superviseEach ctx decider.chains)).run (decider.start ctx engine)).1 =
      decider.chains.map fun rule => .ok (Rule.standing ctx rule) := by
  rw [settle_chains hfree hnames hempty, Rule.answerEach_eq_map, hpolicy]
  apply List.map_congr_left
  intro rule hrule
  have hknown : ∀ g ∈ rule.remembered, g ∈ decider.chains.flatMap Rule.remembered :=
    fun g hg => List.mem_flatMap_of_mem hrule hg
  rw [← Rule.ownAnswer_eq hnames (hfree rule hrule) hknown]
  exact Rule.supervised_ownAnswer rule

theorem isolated_failures (ctx : Context)
    (hpolicy : decider.settings.failurePolicy = .isolateAndReport)
    (hfree : ∀ rule ∈ decider.chains, rule.Every ScopeFree)
    (hplain : decider.Plain)
    (hnames : Guard.SameNamed (decider.chains.flatMap Rule.remembered))
    (hkeys : Rule.KeysTell (decider.chains.flatMap Rule.computations))
    (hempty : engine.caches.Empty) :
    ((Eval.settle (Rule.superviseEach ctx decider.chains)).run
        (decider.start ctx engine)).2.scope.failures =
      Rule.failures ctx engine.learned (Rule.visitedEach ctx decider.chains) := by
  have hstart : Pass.Isolating ctx (decider.chains.flatMap Rule.remembered)
      (decider.chains.flatMap Rule.computations) engine.learned (decider.start ctx engine) :=
    ⟨⟨hpolicy, hempty.truthful ctx _⟩, fun _ _ => rfl⟩
  have hchains : ∀ rule ∈ decider.chains, rule.ReportsAsMember
      (Pass.Isolating ctx (decider.chains.flatMap Rule.remembered)
        (decider.chains.flatMap Rule.computations) engine.learned) engine.learned ctx := by
    intro rule hrule
    have hknown : ∀ g ∈ rule.remembered, g ∈ decider.chains.flatMap Rule.remembered :=
      fun g hg => List.mem_flatMap_of_mem hrule hg
    have hcomputing : ∀ inner ∈ rule.computations,
        inner ∈ decider.chains.flatMap Rule.computations :=
      fun inner hinner => List.mem_flatMap_of_mem hrule hinner
    exact Rule.reports_as_member hnames (hfree rule hrule) hknown hcomputing
      (Rule.eval_records hnames hkeys (hfree rule hrule) (hplain rule hrule) hknown hcomputing)
  exact (Rule.settle_records hchains _ hstart).2.2

theorem silenced_settle (ctx : Context)
    (hfree : ∀ rule ∈ decider.chains, rule.Every ScopeFree)
    (hnames : Guard.SameNamed (decider.chains.flatMap Rule.remembered))
    (hempty : engine.caches.Empty) :
    ((Eval.settle (Rule.superviseEach ctx (decider.silenced ctx).chains)).run
        ((decider.silenced ctx).start ctx engine)).1 =
      decider.chains.map fun rule => .ok (Rule.standing ctx rule) := by
  have hsilencedFree : ∀ rule ∈ (decider.silenced ctx).chains, rule.Every ScopeFree :=
    List.forall_mem_map.mpr fun rule hrule =>
      Rule.every_silencedMember (Rule.every_silenced (hfree rule hrule))
  have hsubset : (decider.silenced ctx).chains.flatMap Rule.remembered ⊆
      decider.chains.flatMap Rule.remembered := by
    intro g hg
    rw [silenced, List.flatMap_map] at hg
    obtain ⟨rule, hrule, hg⟩ := List.mem_flatMap.mp hg
    have hinner : g ∈ rule.remembered :=
      Rule.remembered_silencedMember (Rule.remembered_silenced fun _ hg => hg) g hg
    exact List.mem_flatMap_of_mem hrule hinner
  have hsilencedNames : Guard.SameNamed
      ((decider.silenced ctx).chains.flatMap Rule.remembered) :=
    fun g hg h hh => hnames g (hsubset hg) h (hsubset hh)
  rw [settle_chains hsilencedFree hsilencedNames hempty, Rule.answerEach_eq_map, silenced,
    List.map_map]
  apply List.map_congr_left
  intro rule hrule
  have hknown : ∀ g ∈ rule.remembered, g ∈ decider.chains.flatMap Rule.remembered :=
    fun g hg => List.mem_flatMap_of_mem hrule hg
  have hown : Rule.ownAnswer ctx rule = rule.answer .isolateAndReport ctx :=
    Rule.ownAnswer_eq hnames (hfree rule hrule) hknown
  have hsilenced := Rule.answer_silencedMember hown
    (Rule.answer_silenced hnames (hfree rule hrule) hknown)
  rw [← hown, Rule.supervised_ownAnswer] at hsilenced
  exact hsilenced

/-- Failures at three levels: in a sequence inside a set, in a computation behind a
decision node, and in a chain. -/
def partlyFailing : Decider where
  chains :=
    [.allMatches "checks"
      [.fixed (.test .onAnyPush) none ⟨"build", [.ofName "build"], false⟩,
       .firstMatch "gates"
        [.fixed (.test (.toBranch "main")) (some "release") ⟨"release", [.ofName "release"], true⟩,
         .fixed (.allOf [.test (.hasFile "Dockerfile")]) none ⟨"image", [.ofName "image"], false⟩,
         .fixed (.test .onAnyPush) none ⟨"check", [.ofName "check"], false⟩]],
     .branch "delivery" (.test .onAnyPush) none
      [.computed 0 (.test .onAnyPush) (some "plan") fun _ _ =>
        Probe.ofExcept (.error (.config "no plan"))],
     .fixed (.test .toDefaultBranch) (some "default") ⟨"late", [.ofName "late"], false⟩]
  settings := { failurePolicy := .isolateAndReport }

end Decider

end PushGoals
