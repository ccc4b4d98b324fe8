import PushGoals.Proofs.Guard.Standard
import PushGoals.Proofs.Guard.Unremembered

/-!
# Formulas over the standard tests

The guards that are made of standard tests alone, by negation and by the two ways
of putting guards together.  Such a guard says what its formula says: a formula
negates, or joins, what its parts say, and fails with the first of its parts that
fails.
-/

namespace PushGoals

namespace Eval

theorem collect_map {α β : Type} (f : α → β) (answers : List (Except GoalError α)) :
    collect (answers.map (Except.map f)) = (collect answers).map (List.map f) := by
  induction answers with
  | nil => rfl
  | cons answer rest ih =>
      cases answer with
      | error e => rfl
      | ok a =>
          rw [List.map_cons, Except.map, collect, collect, ih]
          cases collect rest <;> rfl

theorem collect_append {α : Type} (first rest : List (Except GoalError α)) :
    collect (first ++ rest) =
      collect first >>= fun values => (collect rest).map (values ++ ·) := by
  induction first with
  | nil =>
      change collect rest = (collect rest).map ([] ++ ·)
      cases collect rest <;> rfl
  | cons answer first ih =>
      cases answer with
      | error e => rfl
      | ok a =>
          rw [List.cons_append, collect, collect, ih]
          cases collect first with
          | error e => rfl
          | ok values => cases collect rest <;> rfl

theorem collect_flatten {α : Type} (groups : List (List (Except GoalError α))) :
    collect groups.flatten = (collect (groups.map collect)).map List.flatten := by
  induction groups with
  | nil => rfl
  | cons group rest ih =>
      rw [List.flatten_cons, collect_append, ih, List.map_cons]
      cases collect group with
      | error e => rfl
      | ok values =>
          rw [collect]
          change ((collect (rest.map collect)).map List.flatten).map (values ++ ·) = _
          cases collect (rest.map collect) <;> rfl

end Eval

/-- A standard test and what it was given. -/
inductive StandardTest where
  | onAnyPush
  | toDefaultBranch
  | toBranch (branch : String)
  | toBranchMatching (pattern : Regex)
  | isRepo (owner name : String)
  | hasCommitMessageMatching (pattern : Regex)
  | hasFile (path : String)
  | hasFileContaining (path : String) (pattern : Regex)
  | isMaterialChange (extensions : List String)

namespace StandardTest

def test : StandardTest → PushTest
  | onAnyPush => .onAnyPush
  | toDefaultBranch => .toDefaultBranch
  | toBranch branch => .toBranch branch
  | toBranchMatching pattern => .toBranchMatching pattern
  | isRepo owner name => .isRepo owner name
  | hasCommitMessageMatching pattern => .hasCommitMessageMatching pattern
  | hasFile path => .hasFile path
  | hasFileContaining path pattern => .hasFileContaining path pattern
  | isMaterialChange extensions => .isMaterialChange extensions

theorem lasting (t : StandardTest) : Lasting t.test.run := by
  cases t with
  | onAnyPush => exact PushTest.onAnyPush_lasting
  | toDefaultBranch => exact PushTest.toDefaultBranch_lasting
  | toBranch branch => exact PushTest.toBranch_lasting branch
  | toBranchMatching pattern => exact PushTest.toBranchMatching_lasting pattern
  | isRepo owner name => exact PushTest.isRepo_lasting owner name
  | hasCommitMessageMatching pattern => exact PushTest.hasCommitMessageMatching_lasting pattern
  | hasFile path => exact PushTest.hasFile_lasting path
  | hasFileContaining path pattern => exact PushTest.hasFileContaining_lasting path pattern
  | isMaterialChange extensions => exact PushTest.isMaterialChange_lasting extensions

theorem recordsNothing (t : StandardTest) : RecordsNothing t.test.run := by
  have hreads {α β : Type} (read : Context → Except GoalError α) {next : Context → α → Probe β}
      (hnext : ∀ a, RecordsNothing fun ctx => next ctx a) :
      RecordsNothing fun ctx => Probe.ofExcept (read ctx) >>= next ctx :=
    (RecordsNothing.ofExcept read).bind hnext
  cases t with
  | onAnyPush => exact .pure true
  | toDefaultBranch => exact .ofExcept Context.isDefaultBranch?
  | toBranch branch => exact hreads Context.branch? fun actual => .pure (actual == branch)
  | toBranchMatching pattern => exact hreads Context.branch? fun _ => .pure _
  | isRepo owner name => exact hreads Context.repo? fun _ => .pure _
  | hasCommitMessageMatching pattern => exact hreads Context.commits? fun _ => .pure _
  | hasFile path => exact hreads Context.project? fun _ => fun _ _ => rfl
  | hasFileContaining path pattern =>
      exact hreads Context.project? fun project =>
        RecordsNothing.bind (fun _ _ => rfl) fun _ => .pure _
  | isMaterialChange extensions =>
      apply hreads Context.push?
      intro push
      cases push.beforeSha with
      | none => exact .pure true
      | some sha =>
          exact hreads Context.project? fun project =>
            RecordsNothing.bind (fun _ _ => rfl) fun _ => .pure _

end StandardTest

/-- A formula over standard tests. -/
inductive Formula where
  | test (t : StandardTest)
  | negation (inner : Formula)
  | all (parts : List Formula)
  | any (parts : List Formula)

namespace Formula

/-- Induction over formulas, with the hypothesis for every part. -/
@[elab_as_elim]
theorem induct {motive : Formula → Prop}
    (test : ∀ t, motive (.test t))
    (negation : ∀ inner, motive inner → motive (.negation inner))
    (all : ∀ parts, (∀ part ∈ parts, motive part) → motive (.all parts))
    (any : ∀ parts, (∀ part ∈ parts, motive part) → motive (.any parts))
    (formula : Formula) : motive formula := by
  refine @Formula.rec motive (fun parts => ∀ part ∈ parts, motive part)
    test negation all any ?_ ?_ formula
  · intro part hpart
    cases hpart
  · intro part rest hhead hrest
    exact List.forall_mem_cons.mpr ⟨hhead, hrest⟩

mutual

def guard : Formula → Guard
  | test t => .test t.test
  | negation inner => .negation (guard inner)
  | all parts => .allOf (guards parts)
  | any parts => .anyOf (guards parts)

def guards : List Formula → List Guard
  | [] => []
  | part :: rest => guard part :: guards rest

end

mutual

/-- The tests that a formula is made of. -/
def tests : Formula → List StandardTest
  | test t => [t]
  | negation inner => tests inner
  | all parts => testsAmong parts
  | any parts => testsAmong parts

def testsAmong : List Formula → List StandardTest
  | [] => []
  | part :: rest => tests part ++ testsAmong rest

end

@[simp] theorem guards_eq_map (parts : List Formula) : guards parts = parts.map guard := by
  induction parts with
  | nil => rfl
  | cons part rest ih => rw [guards, ih, List.map_cons]

@[simp] theorem testsAmong_eq_flatMap (parts : List Formula) :
    testsAmong parts = parts.flatMap tests := by
  induction parts with
  | nil => rfl
  | cons part rest ih => rw [testsAmong, ih, List.flatMap_cons]

/-- A property of the tests of a formula holds throughout its guard. -/
theorem every_guard {P : {α : Type} → (Context → Probe α) → Prop} {formula : Formula}
    (htests : ∀ t ∈ formula.tests, P t.test.run) : formula.guard.Every P := by
  have hparts {parts : List Formula}
      (ih : ∀ part ∈ parts, (∀ t ∈ part.tests, P t.test.run) → part.guard.Every P)
      (htests : ∀ t ∈ testsAmong parts, P t.test.run) :
      Guard.EveryAmong P ((guards parts).map Guard.memoize) := by
    rw [guards_eq_map, Guard.everyAmong_iff, List.forall_mem_map, List.forall_mem_map]
    rw [testsAmong_eq_flatMap, List.forall_mem_flatMap] at htests
    exact fun part hpart => Guard.every_memoize _ (ih part hpart (htests part hpart))
  induction formula using Formula.induct with
  | test t => exact htests t (List.mem_singleton_self t)
  | negation inner ih => exact ih htests
  | all parts ih => exact hparts ih htests
  | any parts ih => exact hparts ih htests

theorem scopeFree (formula : Formula) : formula.guard.Every ScopeFree :=
  every_guard fun t _ => t.lasting.scopeFree

/-! ## What a formula answers -/

/-- What the formula answers on a push. -/
def verdict (formula : Formula) (ctx : Context) : Except GoalError Bool := formula.guard.holds ctx

variable {ctx : Context}

theorem answers_guards (ctx : Context) (parts : List Formula) :
    Guard.answers ctx ((guards parts).map Guard.memoize) =
      parts.map fun part => part.guard.answer ctx := by
  rw [Guard.answers_eq_map, guards_eq_map, List.map_map, List.map_map]
  exact List.map_congr_left fun part _ => Guard.answer_memoize part.guard ctx

theorem collect_verdicts (ctx : Context) (parts : List Formula) :
    Eval.collect (parts.map fun part => part.verdict ctx) =
      (Eval.collect (parts.map fun part => part.guard.answer ctx)).map
        (List.map Outcome.passes) := by
  rw [← Eval.collect_map, List.map_map]
  rfl

theorem verdict_all (ctx : Context) (parts : List Formula) :
    (all parts).verdict ctx =
      (Eval.collect (parts.map fun part => part.verdict ctx)).map (·.all id) := by
  rw [collect_verdicts, ← answers_guards]
  change Except.map _ (Except.map _ (Eval.collect (Guard.answers ctx _))) = _
  cases Eval.collect (Guard.answers ctx ((guards parts).map Guard.memoize)) with
  | error e => rfl
  | ok given => exact congrArg Except.ok (by simp [Outcome.passes, List.all_map])

theorem verdict_any (ctx : Context) (parts : List Formula) :
    (any parts).verdict ctx =
      (Eval.collect (parts.map fun part => part.verdict ctx)).map (·.any id) := by
  rw [collect_verdicts, ← answers_guards]
  change Except.map _ (Except.map _ (Eval.collect (Guard.answers ctx _))) = _
  cases Eval.collect (Guard.answers ctx ((guards parts).map Guard.memoize)) with
  | error e => rfl
  | ok given => exact congrArg Except.ok (by simp [Outcome.passes, List.any_map])

theorem verdict_negation (ctx : Context) (inner : Formula) :
    (negation inner).verdict ctx = (inner.verdict ctx).map (!·) := by
  change Except.map _ (Except.map _ (inner.guard.answer ctx)) =
    Except.map _ (Except.map _ (inner.guard.answer ctx))
  cases inner.guard.answer ctx <;> rfl

/-- With nothing remembered, a formula matches with its verdict. -/
theorem direct_eq_verdict (formula : Formula) (ctx : Context) (p : Pass) :
    formula.guard.direct ctx p = (formula.verdict ctx).map .matched := by
  rw [Guard.direct_eq formula.scopeFree]
  have hmatched {α : Type} (answer : Except GoalError α) (f : α → Bool) :
      answer.map (fun a => Outcome.matched (f a)) =
        ((answer.map fun a => Outcome.matched (f a)).map Outcome.passes).map .matched := by
    cases answer <;> rfl
  cases formula with
  | test t => exact hmatched _ id
  | negation inner => exact hmatched _ _
  | all parts => exact hmatched _ _
  | any parts => exact hmatched _ _

end Formula

end PushGoals
