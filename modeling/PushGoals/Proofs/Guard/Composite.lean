import PushGoals.Proofs.Guard.Formula

/-!
# Composites are evaluated in full

A composite is put together from any guards, its leaves, by negation and by the two
ways of joining.  Where no leaf is expensive nothing is remembered: the leaves are
evaluated once each from left to right, whatever those before them have answered.
Then the first failure among the leaves is the failure of the composite, and without
one it matches with the value of the formula.
-/

namespace PushGoals

namespace Eval

theorem run_settle_append {α : Type} (first rest : List (Eval α)) (p : Pass) :
    (settle (first ++ rest)).run p =
      (((settle first).run p).1 ++ ((settle rest).run ((settle first).run p).2).1,
        ((settle rest).run ((settle first).run p).2).2) := by
  induction first generalizing p with
  | nil => rfl
  | cons step first ih => rw [List.cons_append, run_settle_cons, ih, run_settle_cons]; rfl

theorem length_settle {α : Type} (steps : List (Eval α)) (p : Pass) :
    ((settle steps).run p).1.length = steps.length := by
  induction steps generalizing p with
  | nil => rfl
  | cons step rest ih => rw [run_settle_cons, List.length_cons, ih, List.length_cons]

theorem length_of_collect {α : Type} {answers : List (Except GoalError α)} {values : List α}
    (hok : collect answers = .ok values) : values.length = answers.length := by
  rw [collect_eq_ok_iff.mp hok, List.length_map]

/-- The first failure counts, whatever stands behind it. -/
theorem collect_of_error {α : Type} (before : List α) (e : GoalError)
    (rest : List (Except GoalError α)) :
    collect (before.map .ok ++ .error e :: rest) = .error e := by
  rw [collect_append, collect_eq_ok_iff.mpr rfl]
  rfl

end Eval

/-- A boolean formula over guards. -/
inductive Composite where
  | leaf (guard : Guard)
  | negation (inner : Composite)
  | all (parts : List Composite)
  | any (parts : List Composite)

namespace Composite

/-- Induction over composites, with the hypothesis for every part. -/
@[elab_as_elim]
theorem induct {motive : Composite → Prop}
    (leaf : ∀ guard, motive (.leaf guard))
    (negation : ∀ inner, motive inner → motive (.negation inner))
    (all : ∀ parts, (∀ part ∈ parts, motive part) → motive (.all parts))
    (any : ∀ parts, (∀ part ∈ parts, motive part) → motive (.any parts))
    (composite : Composite) : motive composite := by
  refine @Composite.rec motive (fun parts => ∀ part ∈ parts, motive part)
    leaf negation all any ?_ ?_ composite
  · intro part hpart
    cases hpart
  · intro part rest hhead hrest
    exact List.forall_mem_cons.mpr ⟨hhead, hrest⟩

mutual

def guard : Composite → Guard
  | leaf g => g
  | negation inner => .negation (guard inner)
  | all parts => .allOf (guards parts)
  | any parts => .anyOf (guards parts)

def guards : List Composite → List Guard
  | [] => []
  | part :: rest => guard part :: guards rest

end

mutual

/-- The occurrences of leaves, from left to right. -/
def leaves : Composite → List Guard
  | leaf g => [g]
  | negation inner => leaves inner
  | all parts => leavesAmong parts
  | any parts => leavesAmong parts

def leavesAmong : List Composite → List Guard
  | [] => []
  | part :: rest => leaves part ++ leavesAmong rest

end

mutual

/-- The value of the formula when the occurrences of its leaves have these values. -/
def value : Composite → List Bool → Bool
  | leaf _, truths => truths.headD false
  | negation inner, truths => !value inner truths
  | all parts, truths => (values parts truths).all id
  | any parts, truths => (values parts truths).any id

def values : List Composite → List Bool → List Bool
  | [], _ => []
  | part :: rest, truths =>
      value part (truths.take (leaves part).length) ::
        values rest (truths.drop (leaves part).length)

end

/-- The guards are evaluated once each, in order, whatever those before them have
answered. -/
inductive InTurn (ctx : Context) :
    List Guard → Pass → List (Except GoalError (Outcome Bool)) → Pass → Prop
  | nil (p : Pass) : InTurn ctx [] p [] p
  | cons (g : Guard) (p : Pass) {rest : List Guard}
      {answers : List (Except GoalError (Outcome Bool))} {after : Pass}
      (hrest : InTurn ctx rest ((g.eval ctx).run.run p).2 answers after) :
      InTurn ctx (g :: rest) p (((g.eval ctx).run.run p).1 :: answers) after

@[simp] theorem guards_eq_map (parts : List Composite) : guards parts = parts.map guard := by
  induction parts with
  | nil => rfl
  | cons part rest ih => rw [guards, ih, List.map_cons]

@[simp] theorem leavesAmong_eq_flatMap (parts : List Composite) :
    leavesAmong parts = parts.flatMap leaves := by
  induction parts with
  | nil => rfl
  | cons part rest ih => rw [leavesAmong, ih, List.flatMap_cons]

theorem inTurn_settle (ctx : Context) (guards : List Guard) (p : Pass) :
    InTurn ctx guards p ((Eval.settle (Guard.evalEach ctx guards)).run p).1
      ((Eval.settle (Guard.evalEach ctx guards)).run p).2 := by
  induction guards generalizing p with
  | nil => exact .nil p
  | cons g rest ih => exact .cons g p (ih _)

/-! ## Nothing is remembered -/

section Cost

variable {parts : List Composite}

theorem costOfAll_ne_expensive {guards : List Guard} (hcheap : ∀ g ∈ guards, g.cost ≠ .expensive) :
    Guard.costOfAll guards ≠ .expensive := by
  induction guards with
  | nil => exact fun h => nomatch h
  | cons g rest ih =>
      obtain ⟨hhead, hrest⟩ := List.forall_mem_cons.mp hcheap
      rw [Guard.costOfAll]
      have hmax (c d : Cost) (hc : c ≠ .expensive) (hd : d ≠ .expensive) :
          c.max d ≠ .expensive := by
        cases c <;> cases d <;> simp_all [Cost.max]
      exact hmax _ _ hhead (ih hrest)

theorem map_memoize_of_cheap {guards : List Guard} (hcheap : ∀ g ∈ guards, g.cost ≠ .expensive) :
    guards.map Guard.memoize = guards := by
  have hsame : ∀ g ∈ guards, g.memoize = g := fun g hg => if_neg (hcheap g hg)
  rw [List.map_congr_left hsame, List.map_id']

/-- A composite of leaves that are not expensive is not expensive. -/
theorem cost_ne_expensive {composite : Composite}
    (hcheap : ∀ g ∈ composite.leaves, g.cost ≠ .expensive) :
    composite.guard.cost ≠ .expensive := by
  have hparts {parts : List Composite}
      (ih : ∀ part ∈ parts, (∀ g ∈ part.leaves, g.cost ≠ .expensive) →
        part.guard.cost ≠ .expensive)
      (hcheap : ∀ g ∈ leavesAmong parts, g.cost ≠ .expensive) :
      Guard.costOfAll ((guards parts).map Guard.memoize) ≠ .expensive := by
    rw [leavesAmong_eq_flatMap, List.forall_mem_flatMap] at hcheap
    have heach : ∀ g ∈ guards parts, g.cost ≠ .expensive := by
      rw [guards_eq_map, List.forall_mem_map]
      exact fun part hpart => ih part hpart (hcheap part hpart)
    rw [map_memoize_of_cheap heach]
    exact costOfAll_ne_expensive heach
  induction composite using Composite.induct with
  | leaf g => exact hcheap g (List.mem_singleton_self g)
  | negation inner ih => exact ih hcheap
  | all parts ih => exact hparts ih hcheap
  | any parts ih => exact hparts ih hcheap

theorem map_memoize_guards (hcheap : ∀ g ∈ leavesAmong parts, g.cost ≠ .expensive) :
    (guards parts).map Guard.memoize = guards parts := by
  rw [leavesAmong_eq_flatMap, List.forall_mem_flatMap] at hcheap
  apply map_memoize_of_cheap
  rw [guards_eq_map, List.forall_mem_map]
  exact fun part hpart => cost_ne_expensive (hcheap part hpart)

end Cost

/-! ## The leaves decide -/

section Evaluation

variable {α β : Type} {ctx : Context}

/-- What is judged of the leaves' answers: the first failure, or else what `judge` makes
of their truths. -/
def judged (judge : List Bool → α) (answers : List (Except GoalError (Outcome Bool))) :
    Except GoalError α :=
  (Eval.collect answers).map fun outcomes => judge (outcomes.map Outcome.passes)

theorem map_judged (f : α → β) (judge : List Bool → α)
    (answers : List (Except GoalError (Outcome Bool))) :
    (judged judge answers).map f = judged (fun truths => f (judge truths)) answers := by
  unfold judged
  cases Eval.collect answers <;> rfl

/-- The first part is judged by the answers of its own leaves, the others by the rest. -/
theorem judged_append (part : Composite) (rest : List Composite)
    {first others : List (Except GoalError (Outcome Bool))}
    (hlength : first.length = part.leaves.length) :
    judged (values (part :: rest)) (first ++ others) =
      judged part.value first >>= fun v => (judged (values rest) others).map (v :: ·) := by
  unfold judged
  rw [Eval.collect_append]
  cases hfirst : Eval.collect first with
  | error e => rfl
  | ok outcomes =>
      cases Eval.collect others with
      | error e => rfl
      | ok more =>
          have hown : (outcomes.map Outcome.passes).length = part.leaves.length := by
            rw [List.length_map, Eval.length_of_collect hfirst, hlength]
          apply congrArg Except.ok
          simp only [values, List.map_append]
          rw [← hown, List.take_left, List.drop_left]

theorem collect_cons_passes (answer : Except GoalError (Outcome Bool))
    (rest : List (Except GoalError (Outcome Bool))) :
    (Eval.collect (answer :: rest)).map (List.map Outcome.passes) =
      answer.map Outcome.passes >>= fun v =>
        ((Eval.collect rest).map (List.map Outcome.passes)).map (v :: ·) := by
  cases answer with
  | error e => rfl
  | ok outcome =>
      rw [Eval.collect]
      cases Eval.collect rest <;> rfl

/-- The step does what the leaves do, one after another, and gives what is judged of
their answers. -/
def DoneByLeaves (ctx : Context) (leaves : List Guard) (judge : List Bool → α) (step : Eval α) :
    Prop :=
  ∀ p, step.run.run p =
    (judged judge ((Eval.settle (Guard.evalEach ctx leaves)).run p).1,
      ((Eval.settle (Guard.evalEach ctx leaves)).run p).2)

theorem DoneByLeaves.map {leaves : List Guard} {judge : List Bool → α} {step : Eval α}
    (hstep : DoneByLeaves ctx leaves judge step) (f : α → β) :
    DoneByLeaves ctx leaves (fun truths => f (judge truths))
      (do let given ← step; return f given) := by
  intro p
  rw [Eval.run_map, hstep p, map_judged]

/-- Part by part the leaves are done, those of a later part after those of an earlier
one. -/
theorem parts_done {parts : List Composite}
    (hparts : ∀ part ∈ parts, DoneByLeaves ctx part.leaves part.value (part.guard.passes ctx)) :
    DoneByLeaves ctx (leavesAmong parts) (values parts)
      (do
        let given ← Eval.allSettled (Guard.evalEach ctx (guards parts))
        return given.map Outcome.passes) := by
  intro p
  rw [Eval.run_map, Eval.run_allSettled]
  induction parts generalizing p with
  | nil => rfl
  | cons part rest ih =>
      obtain ⟨hhead, hrest⟩ := List.forall_mem_cons.mp hparts
      have hpart := hhead p
      unfold Guard.passes at hpart
      rw [Eval.run_map, Prod.mk.injEq] at hpart
      have hleaves : Guard.evalEach ctx (leavesAmong (part :: rest)) =
          Guard.evalEach ctx part.leaves ++ Guard.evalEach ctx (leavesAmong rest) := by
        simp [List.map_flatMap]
      have hlength : ((Eval.settle (Guard.evalEach ctx part.leaves)).run p).1.length =
          part.leaves.length := by
        rw [Eval.length_settle, Guard.evalEach_eq_map, List.length_map]
      have hthen := ih hrest ((Eval.settle (Guard.evalEach ctx part.leaves)).run p).2
      rw [Prod.mk.injEq] at hthen
      rw [guards, Guard.evalEach, Eval.run_settle_cons, hleaves, Eval.run_settle_append,
        judged_append part rest hlength, collect_cons_passes, hpart.1, hpart.2, hthen.1, hthen.2]

/-! A composite tells what its parts tell. -/

theorem passes_negation (inner : Composite) :
    (negation inner).guard.passes ctx =
      (do let given ← inner.guard.passes ctx; return !given) := by
  simp [guard, Guard.passes, Guard.eval, Outcome.passes]

theorem passes_all (parts : List Guard) :
    (Guard.all parts).passes ctx =
      (do
        let given ← (do
          let given ← Eval.allSettled (Guard.evalEach ctx parts)
          return given.map Outcome.passes)
        return given.all id) := by
  simp [Guard.passes, Guard.eval, Outcome.passes, List.all_map]

theorem passes_any (parts : List Guard) :
    (Guard.any parts).passes ctx =
      (do
        let given ← (do
          let given ← Eval.allSettled (Guard.evalEach ctx parts)
          return given.map Outcome.passes)
        return given.any id) := by
  simp [Guard.passes, Guard.eval, Outcome.passes, List.any_map]

/-- What a composite of leaves that are not expensive does and tells. -/
theorem passes_done {composite : Composite}
    (hcheap : ∀ g ∈ composite.leaves, g.cost ≠ .expensive) (ctx : Context) :
    DoneByLeaves ctx composite.leaves composite.value (composite.guard.passes ctx) := by
  have hmembers {parts : List Composite}
      (ih : ∀ part ∈ parts, (∀ g ∈ part.leaves, g.cost ≠ .expensive) →
        DoneByLeaves ctx part.leaves part.value (part.guard.passes ctx))
      (hcheap : ∀ g ∈ leavesAmong parts, g.cost ≠ .expensive) :
      DoneByLeaves ctx (leavesAmong parts) (values parts)
        (do
          let given ← Eval.allSettled (Guard.evalEach ctx ((guards parts).map Guard.memoize))
          return given.map Outcome.passes) := by
    rw [map_memoize_guards hcheap]
    rw [leavesAmong_eq_flatMap, List.forall_mem_flatMap] at hcheap
    exact parts_done fun part hpart => ih part hpart (hcheap part hpart)
  induction composite using Composite.induct with
  | leaf g =>
      intro p
      have hsettle : (Eval.settle (Guard.evalEach ctx [g])).run p =
          ([((g.eval ctx).run.run p).1], ((g.eval ctx).run.run p).2) := rfl
      rw [leaves, hsettle, guard, Guard.passes, Eval.run_map]
      cases ((g.eval ctx).run.run p).1 <;> rfl
  | negation inner ih =>
      rw [passes_negation]
      exact (ih hcheap).map not
  | all parts ih =>
      rw [guard, Guard.allOf, passes_all]
      exact (hmembers ih hcheap).map (·.all id)
  | any parts ih =>
      rw [guard, Guard.anyOf, passes_any]
      exact (hmembers ih hcheap).map (·.any id)

/-- But for a bare leaf, a composite answers with a value. -/
theorem eval_eq_matched {composite : Composite} (hjoined : ∀ g, composite ≠ .leaf g) :
    composite.guard.eval ctx =
      (do let given ← composite.guard.passes ctx; return .matched given) := by
  cases composite with
  | leaf g => exact absurd rfl (hjoined g)
  | negation inner => simp [guard, Guard.passes, Guard.eval, Outcome.passes]
  | all parts => simp [guard, Guard.allOf, Guard.passes, Guard.eval, Outcome.passes]
  | any parts => simp [guard, Guard.anyOf, Guard.passes, Guard.eval, Outcome.passes]

/-- From `p` the leaves are evaluated once each, from left to right, and nothing else is
done; what they answer decides. -/
structure InFull (composite : Composite) (ctx : Context) (p : Pass)
    (answers : List (Except GoalError (Outcome Bool))) (after : Pass) : Prop where
  inTurn : InTurn ctx composite.leaves p answers after
  pass : ((composite.guard.eval ctx).run.run p).2 = after
  /-- The leftmost failure is the answer. -/
  failure (before : List (Outcome Bool)) (e : GoalError)
    (rest : List (Except GoalError (Outcome Bool))) :
      answers = before.map .ok ++ .error e :: rest →
        ((composite.guard.eval ctx).run.run p).1 = .error e
  /-- Without a failure it is the value of the formula; a leaf that does not apply or
  halts counts as false. -/
  value (outcomes : List (Outcome Bool)) :
    answers = outcomes.map .ok →
      ∃ outcome, ((composite.guard.eval ctx).run.run p).1 = .ok outcome ∧
        outcome.passes = composite.value (outcomes.map Outcome.passes) ∧
        ((∀ g, composite ≠ .leaf g) → outcome = .matched outcome.passes)

end Evaluation

/-- A push to main, unless releases are frozen; how often that was asked is counted. -/
def unlessFrozen : Composite :=
  .all [
    .any [
      .leaf (.test (.toBranch "main")),
      .leaf (.custom "asked" .unknown fun _ => do
        let _ ← Probe.increment "asked"
        return .noMatch)],
    .negation (.leaf (.custom "frozen" .cheap fun _ => return .halt)),
    .all []]

/-- Nothing is known of the branch, and still the leaf behind it has counted. -/
example :
    let ended := (unlessFrozen.guard.eval .empty).run.run default
    ended.1 = .error (.insufficientData "branch") ∧
      ended.2.scope.values = [("asked", .ofInt 1)] :=
  ⟨rfl, rfl⟩

end Composite

end PushGoals
