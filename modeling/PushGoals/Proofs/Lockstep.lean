import Mathlib.Data.List.Forall2
import Mathlib.Order.Basic
import PushGoals.Proofs.Passes
import PushGoals.Rule.Evaluation

/-!
# Passes in lockstep

Two works are in lockstep from one relation between passes to another when they
take related passes to related results and to passes that are related again.  The
rules follow the ways in which steps are put together.  A step that may fail is
compared with itself, and its answer is to be the same in both passes.

A relation is steady when neither the log nor the record of an isolated failure can
break it.  Whether names are to be the same in both passes is left open: a rule is
called by what it has learned, and the passes may have learned different names.
-/

namespace PushGoals

variable {α β γ δ : Type} {R S T : Pass → Pass → Prop}

theorem map_eq_of_forall₂ {f : α → β} {first second : List α}
    (heach : List.Forall₂ (fun a b => f a = f b) first second) : first.map f = second.map f := by
  induction heach with
  | nil => rfl
  | cons hhead _ ih => rw [List.map_cons, List.map_cons, hhead, ih]

/-- From passes in `R` the works come to results in `post` and to passes in `S`. -/
def Work.Lockstep (R S : Pass → Pass → Prop) (post : α → β → Prop) (work : Work α)
    (again : Work β) : Prop :=
  ∀ p q, R p q → post (work.run p).1 (again.run q).1 ∧ S (work.run p).2 (again.run q).2

/-- From passes in `R` the step gives one answer and leads to passes in `S`. -/
def Eval.InStep (R S : Pass → Pass → Prop) (step : Eval α) : Prop :=
  Work.Lockstep R S (· = ·) step.run step.run

namespace Work.Lockstep

theorem pure {post : α → β → Prop} {a : α} {b : β} (hpost : post a b) :
    Lockstep R R post (pure a) (pure b) :=
  fun _ _ hR => ⟨hpost, hR⟩

theorem bind {post : α → β → Prop} {post' : γ → δ → Prop} {work : Work α} {again : Work β}
    {next : α → Work γ} {nextAgain : β → Work δ} (hwork : Lockstep R S post work again)
    (hnext : ∀ a b, post a b → Lockstep S T post' (next a) (nextAgain b)) :
    Lockstep R T post' (work >>= next) (again >>= nextAgain) := by
  intro p q hR
  obtain ⟨hpost, hS⟩ := hwork p q hR
  exact hnext _ _ hpost _ _ hS

theorem mono {R' S' : Pass → Pass → Prop} {post : α → β → Prop} {work : Work α} {again : Work β}
    (hwork : Lockstep R S post work again) (hR : R' ≤ R) (hS : S ≤ S') :
    Lockstep R' S' post work again := by
  intro p q hpq
  obtain ⟨hpost, hthen⟩ := hwork p q (hR p q hpq)
  exact ⟨hpost, hS _ _ hthen⟩

theorem modify {change changeAgain : Pass → Pass}
    (hchange : ∀ p q, R p q → S (change p) (changeAgain q)) :
    Lockstep R S (fun _ _ => True) (modify change : Work PUnit) (modify changeAgain) :=
  fun p q hR => ⟨trivial, hchange p q hR⟩

theorem then_ok {work again : Work α} {post : α → α → Prop}
    (hwork : Lockstep R S post work again) (b : β) :
    Lockstep R S (· = ·) (liftM work >>= fun _ => (Pure.pure b : Eval β)).run
      (liftM again >>= fun _ => (Pure.pure b : Eval β)).run :=
  fun p q hR => ⟨rfl, (hwork p q hR).2⟩

end Work.Lockstep

namespace Eval.InStep

theorem ok (hRS : R ≤ S) (a : α) : InStep R S (pure a) :=
  fun p q hR => ⟨rfl, hRS p q hR⟩

theorem error (e : GoalError) : InStep R R (throw e : Eval α) :=
  fun _ _ hR => ⟨rfl, hR⟩

theorem mono {R' S' : Pass → Pass → Prop} {step : Eval α} (hstep : InStep R S step)
    (hR : R' ≤ R) (hS : S ≤ S') : InStep R' S' step :=
  Work.Lockstep.mono hstep hR hS

/-- The passes a failure leaves behind are to be related as those at the end are. -/
theorem bind {step : Eval α} {next : α → Eval β} (hstep : InStep R S step)
    (hnext : ∀ a, InStep S T (next a)) (hfail : S ≤ T) : InStep R T (step >>= next) := by
  unfold InStep
  rw [ExceptT.run_bind]
  apply Work.Lockstep.bind hstep
  rintro answer _ rfl
  cases answer with
  | error e => exact (Work.Lockstep.pure rfl).mono (le_refl S) hfail
  | ok a => exact hnext a

theorem map {step : Eval α} (hstep : InStep R S step) (f : α → β) :
    InStep R S (do let x ← step; return f x) :=
  hstep.bind (fun a => ok (le_refl S) (f a)) (le_refl S)

theorem lift_bind {work : Work α} {next : α → Eval β} {post : α → α → Prop}
    (hwork : Work.Lockstep R S post work work)
    (hnext : ∀ a b, post a b → Work.Lockstep S T (· = ·) (next a).run (next b).run) :
    InStep R T (liftM work >>= next) := by
  have hbind : Work.Lockstep R T (· = ·) (work >>= fun a => (next a).run)
      (work >>= fun a => (next a).run) := hwork.bind hnext
  exact hbind

theorem attempt {step : Eval α} (hstep : InStep R S step) : InStep R S (Eval.attempt step) := by
  intro p q hR
  obtain ⟨hanswer, hS⟩ := hstep p q hR
  exact ⟨congrArg Except.ok hanswer, hS⟩

theorem settle {steps : List (Eval α)} (hsteps : ∀ step ∈ steps, InStep R R step) :
    Work.Lockstep R R (· = ·) (Eval.settle steps) (Eval.settle steps) := by
  induction steps with
  | nil => exact Work.Lockstep.pure rfl
  | cons step rest ih =>
      obtain ⟨hhead, hrest⟩ := List.forall_mem_cons.mp hsteps
      unfold Eval.settle
      apply Work.Lockstep.bind hhead
      rintro answer _ rfl
      apply (ih hrest).bind
      rintro answers _ rfl
      exact Work.Lockstep.pure rfl

theorem allSettled {steps : List (Eval α)} (hsteps : ∀ step ∈ steps, InStep R R step) :
    InStep R R (Eval.allSettled steps) := by
  unfold Eval.allSettled
  apply lift_bind (settle hsteps)
  rintro answers _ rfl
  exact Work.Lockstep.pure rfl

end Eval.InStep

/-- Passes in `R` go by one policy, and stay in `R` when something is logged or a
failure is recorded.  If `named`, they have learned the same names. -/
structure Steady (named : Prop) (R : Pass → Pass → Prop) : Prop where
  policy {p q : Pass} : R p q → p.scope.policy = q.scope.policy
  learned {p q : Pass} : named → R p q → p.engine.learned = q.engine.learned
  emit {p q : Pass} {e d : Event} : (named → e = d) → R p q → R (p.emit e) (q.emit d)
  isolate {p q : Pass} {a b : String} (e : GoalError) : (named → a = b) → R p q →
    R ((Eval.isolate a e).run p).2 ((Eval.isolate b e).run q).2

namespace Steady

variable {V : Type} {named : Prop}

theorem currentName (hR : Steady named R) (rule : Rule V) :
    Work.Lockstep R R (fun a b => named → a = b) rule.currentName rule.currentName := by
  intro p q hpq
  refine ⟨?_, hpq⟩
  intro hnamed
  exact congrArg rule.name (hR.learned hnamed hpq)

theorem log (hR : Steady named R) {e d : Event} (hsame : named → e = d) :
    Work.Lockstep R R (fun _ _ => True) (modify (·.emit e) : Work PUnit) (modify (·.emit d)) :=
  .modify fun _ _ => hR.emit hsame

theorem supervised (hR : Steady named R) {name : Work String}
    (hname : Work.Lockstep R R (fun a b => named → a = b) name name)
    {step : Eval (Outcome V)} (hstep : Eval.InStep R R step) :
    Eval.InStep R R (Eval.supervised name step) := by
  unfold Eval.supervised
  refine hstep.attempt.bind ?_ (le_refl R)
  intro answer
  cases answer with
  | ok outcome =>
      by_cases hmatched : outcome.isMatched = true
      · simp only [if_pos hmatched]
        apply Eval.InStep.lift_bind hname
        intro called calledAgain hcalled
        have hlog := hR.log fun hnamed => congrArg Event.ruleMatched (hcalled hnamed)
        exact hlog.then_ok outcome
      · simp only [if_neg hmatched]
        exact Eval.InStep.ok (le_refl R) outcome
  | error e =>
      have hpolicy : Work.Lockstep R R (fun p q => p.scope.policy = q.scope.policy)
          (get : Work Pass) get := fun _ _ hpq => ⟨hR.policy hpq, hpq⟩
      apply Eval.InStep.lift_bind hpolicy
      intro p q hpq
      rw [hpq]
      cases q.scope.policy with
      | failFast => exact Eval.InStep.error e
      | isolateAndReport =>
          apply Eval.InStep.lift_bind hname
          intro called calledAgain hcalled
          have hisolate : Work.Lockstep R R (fun _ _ => True) (Eval.isolate called e)
              (Eval.isolate calledAgain e) :=
            fun _ _ hpq => ⟨trivial, hR.isolate e hcalled hpq⟩
          exact hisolate.then_ok Outcome.noMatch

theorem supervise (hR : Steady named R) (rule : Rule V) {step : Eval (Outcome V)}
    (hstep : Eval.InStep R R step) : Eval.InStep R R (rule.supervise step) :=
  hR.supervised (hR.currentName rule) hstep

end Steady

end PushGoals
