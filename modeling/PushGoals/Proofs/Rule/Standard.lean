import PushGoals.Proofs.Guard.Formula
import PushGoals.Proofs.Push.Coherence
import PushGoals.Proofs.Rule.Evaluation
import PushGoals.Rule.Tree

/-!
# Rules over the standard tests

The rules that are made of formulas over the standard tests: fixed and halting rules,
decision trees without hooks, sequences, sets and enriched rules of them.  What such a
rule answers lasts: unless data is wanting, its outcome or its failure stays the same
when more of the push becomes known.

A push is known as a whole once its repository, its branch and its commits are.  That it
has no earlier head is then known of it as well.
-/

namespace PushGoals

variable {V : Type} {P : {α : Type} → (Context → Probe α) → Prop} {ctx more : Context}
  {known : List Guard}

namespace PartialPush

/-- Fields become known that were not, and a push that was complete stays the same. -/
structure ExtendedBy (fields more : PartialPush) : Prop where
  repo : Kept fields.repo more.repo
  branch : Kept fields.branch more.branch
  commits : Kept fields.commits more.commits
  beforeSha : Kept fields.beforeSha more.beforeSha
  complete : fields.complete? ≠ none → more.beforeSha = fields.beforeSha

theorem ExtendedBy.ofPartial {fields more : PartialPush} (hmore : fields.ExtendedBy more) :
    (Context.ofPartial fields).ExtendedBy (Context.ofPartial more) := by
  have hpush : Kept fields.complete? more.complete? := by
    intro push hcomplete
    have hbefore := hmore.complete (by simp [hcomplete])
    obtain ⟨hrepo, hbranch, hcommits, hsha⟩ := complete?_eq_some_iff.mp hcomplete
    exact complete?_eq_some_iff.mpr ⟨hmore.repo _ hrepo, hmore.branch _ hbranch,
      hmore.commits _ hcommits, hbefore.trans hsha⟩
  refine ⟨?_, hpush, hmore.repo, hmore.branch, hmore.commits, hmore.beforeSha, ?_, ?_, ?_⟩
  · intro id hid
    obtain ⟨push, hcomplete, rfl⟩ := Option.map_eq_some_iff.mp hid
    exact Option.map_eq_some_iff.mpr ⟨push, hpush push hcomplete, rfl⟩
  all_goals exact fun _ hnone => nomatch hnone

end PartialPush

namespace Guard

/-- A formula over the standard tests; preparations may run before it. -/
def Standard (guard : Guard) : Prop :=
  ∃ (formula : Formula) (preparations : List Preparation),
    guard = formula.guard.preparedBy preparations

theorem Standard.every (hP : ∀ {α : Type} {work : Context → Probe α}, Lasting work → P work)
    {guard : Guard} (hguard : guard.Standard) : guard.Every P := by
  obtain ⟨formula, preparations, rfl⟩ := hguard
  have hformula : formula.guard.Every P := Formula.every_guard fun t _ => hP t.lasting
  unfold preparedBy
  split
  · exact hformula
  · exact ⟨hP (.const fun _ => rfl), hformula⟩

end Guard

namespace Rule

mutual

/-- The rule is put together from formulas over the standard tests, without hooks and
computations. -/
def Standard : Rule V → Prop
  | .fixed guard _ _ => guard.Standard
  | .halting guard _ => guard.Standard
  | .firstMatch _ rules => StandardEach rules
  | .allMatches _ contributors => StandardEach contributors
  | .enriched _ base extension => Standard base ∧ Standard extension
  | .leaf _ guard hook _ => guard.Standard ∧ hook = none
  | .branch _ guard hook children => guard.Standard ∧ hook = none ∧ StandardEach children
  | .computed .. | .mapped .. | .custom .. => False

def StandardEach : List (Rule V) → Prop
  | [] => True
  | rule :: rest => Standard rule ∧ StandardEach rest

end

@[simp] theorem standardEach_iff {rules : List (Rule V)} :
    StandardEach rules ↔ ∀ rule ∈ rules, rule.Standard := by
  induction rules with
  | nil => simp [StandardEach]
  | cons rule rest ih => simp [StandardEach, ih]

theorem Standard.every (hP : ∀ {α : Type} {work : Context → Probe α}, Lasting work → P work)
    {rule : Rule V} (hrule : rule.Standard) : rule.Every P := by
  have hmembers {rules : List (Rule V)} (ih : ∀ rule ∈ rules, rule.Standard → rule.Every P)
      (hrules : StandardEach rules) : EveryAmong P rules :=
    everyAmong_iff.mpr fun rule hmem => ih rule hmem (standardEach_iff.mp hrules rule hmem)
  have hunhooked {hook : Option Hook} (hnone : hook = none) : ∀ work, hook = some work → P work :=
    fun work hsome => nomatch hnone.symm.trans hsome
  induction rule using Rule.induct with
  | fixed guard reason value => exact Guard.Standard.every hP hrule
  | halting guard reason => exact Guard.Standard.every hP hrule
  | computed key guard reason compute => exact hrule.elim
  | firstMatch name rules ih => exact hmembers ih hrule
  | allMatches name contributors ih => exact hmembers ih hrule
  | enriched name base extension ihBase ihExtension =>
      exact ⟨ihBase hrule.1, ihExtension hrule.2⟩
  | leaf name guard hook value => exact ⟨hrule.1.every hP, hunhooked hrule.2⟩
  | branch name guard hook children ih =>
      exact ⟨hrule.1.every hP, hunhooked hrule.2.1, hmembers ih hrule.2.2⟩
  | mapped f inner ih => exact hrule.elim
  | custom name cost run => exact hrule.elim

end Rule

/-- Unless data is wanting for `ctx`, guards and rules over the standard tests answer
for every context that extends it what they answer for `ctx`. -/
theorem standard_answers_last [Contribution V] (hmore : ctx.ExtendedBy more)
    (hnames : Guard.SameNamed known) {p q : Pass} (hp : p.Faithful ctx known .failFast)
    (hq : q.Faithful more known .failFast) :
    (∀ formula : Formula, formula.guard.remembered ⊆ known →
      AnswerKept ((formula.guard.eval ctx).run.run p).1
        ((formula.guard.eval more).run.run q).1) ∧
    ∀ rule : Rule V, rule.Standard → rule.remembered ⊆ known →
      AnswerKept ((rule.eval ctx).run.run p).1 ((rule.eval more).run.run q).1 := by
  constructor
  · intro formula hknown
    have hstable : formula.guard.Every Stable := Formula.every_guard fun t _ => t.lasting.stable
    rw [(Guard.eval_gives formula.scopeFree hnames hknown p hp).1,
      (Guard.eval_gives formula.scopeFree hnames hknown q hq).1]
    exact Guard.answer_related ctx more AnswerKept.compositional
      (fun hwork => hwork ctx more hmore) hstable
  · intro rule hrule hknown
    have hfree : rule.Every ScopeFree := hrule.every Lasting.scopeFree
    rw [(Rule.eval_gives hfree hnames hknown p hp).1, (Rule.eval_gives hfree hnames hknown q hq).1]
    exact Rule.answer_stable (hrule.every Lasting.stable) hmore

/-- Nothing is built but from main; there, what has an image and material changes is
built. -/
def mainOnly : GoalRule :=
  .firstMatch "release"
    [.halting (Formula.negation (.test (.toBranch "main"))).guard none,
     Node.leadsTo
      ⟨"image",
        (Formula.all [.test (.hasFile "Dockerfile"), .test (.isMaterialChange ["rs"])]).guard,
        none⟩
      [.fixed (Formula.test .onAnyPush).guard none ⟨"build", [.ofName "build"], false⟩]]

theorem mainOnly_standard : mainOnly.Standard := by
  have hbare (formula : Formula) : formula.guard.Standard := ⟨formula, [], rfl⟩
  exact ⟨hbare _, ⟨hbare _, rfl, hbare _, trivial⟩, trivial⟩

def devBranch : PartialPush := { branch := some "dev" }

def devPush : PartialPush :=
  { repo := some ⟨"acme", "shop", "main"⟩, branch := some "dev", commits := some [] }

theorem devBranch_extendedBy : devBranch.ExtendedBy devPush where
  repo _ hrepo := nomatch hrepo
  branch _ hbranch := hbranch
  commits _ hcommits := nomatch hcommits
  beforeSha _ hsha := nomatch hsha
  complete hcomplete := absurd rfl hcomplete

/-- Without a word of the project it is clear of another branch that nothing is released
from it, and it stays so. -/
theorem dev_is_never_released :
    (Context.ofPartial devBranch).ExtendedBy (Context.ofPartial devPush) ∧ mainOnly.Standard ∧
      ((mainOnly.eval (Context.ofPartial devPush)).run.run ⟨{}, {}⟩).1 = .ok .noMatch := by
  have hnames : Guard.SameNamed mainOnly.remembered := Guard.sameNamed_of_nodup (by decide)
  have hfaithful (ctx : Context) :
      (Pass.mk {} {}).Faithful ctx mainOnly.remembered .failFast :=
    ⟨rfl, Caches.empty_default.truthful ctx _⟩
  have hkept := (standard_answers_last devBranch_extendedBy.ofPartial hnames (hfaithful _)
    (hfaithful _)).2 mainOnly mainOnly_standard (List.Subset.refl _)
  exact ⟨devBranch_extendedBy.ofPartial, mainOnly_standard, hkept rfl⟩

end PushGoals
