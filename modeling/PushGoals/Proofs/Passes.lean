import Mathlib.Data.List.Forall2
import PushGoals.Engine

/-!
# What steps of a pass keep and give

`Work.Yields` says that a step which cannot fail keeps a property of passes and
ends with a result of some kind.  `Eval.Gives` says the same of a step which may
fail and whose answer is known beforehand.  The rules below follow the ways in
which steps are put together.
-/

namespace PushGoals

variable {α β : Type} {inv : Pass → Prop}

/-- From a pass with `inv` the work comes to a pass with `inv` and a result that
satisfies `post`. -/
def Work.Yields (inv : Pass → Prop) (work : Work α) (post : α → Prop) : Prop :=
  ∀ p, inv p → post (work.run p).1 ∧ inv (work.run p).2

def Eval.Gives (inv : Pass → Prop) (step : Eval α) (answer : Except GoalError α) : Prop :=
  Work.Yields inv step.run (· = answer)

namespace Work

theorem Yields.pure {post : α → Prop} {a : α} (ha : post a) :
    Yields inv (pure a : Work α) post :=
  fun _ hp => ⟨ha, hp⟩

theorem Yields.bind {work : Work α} {next : α → Work β} {post : α → Prop} {post' : β → Prop}
    (hwork : Yields inv work post) (hnext : ∀ a, post a → Yields inv (next a) post') :
    Yields inv (work >>= next) post' := by
  intro p hp
  have hfirst := hwork p hp
  exact hnext _ hfirst.1 _ hfirst.2

theorem run_bind (work : Work α) (next : α → Work β) (p : Pass) :
    (work >>= next).run p = (next (work.run p).1).run (work.run p).2 := rfl

theorem yields_modify {change : Pass → Pass} (hchange : ∀ p, inv p → inv (change p)) :
    Yields inv (modify change : Work PUnit) (fun _ => True) :=
  fun p hp => ⟨trivial, hchange p hp⟩

theorem yields_get : Yields inv (get : Work Pass) inv :=
  fun _ hp => ⟨hp, hp⟩

end Work

namespace Eval

theorem gives_ok (a : α) : Gives inv (pure a) (.ok a) :=
  fun _ hp => ⟨rfl, hp⟩

theorem gives_error (e : GoalError) : Gives inv (throw e : Eval α) (.error e) :=
  fun _ hp => ⟨rfl, hp⟩

theorem Gives.bind {step : Eval α} {next : α → Eval β} {a : Except GoalError α}
    {b : α → Except GoalError β} (hstep : Gives inv step a)
    (hnext : ∀ x, a = .ok x → Gives inv (next x) (b x)) :
    Gives inv (step >>= next) (a >>= b) := by
  unfold Gives
  rw [ExceptT.run_bind]
  apply Work.Yields.bind hstep
  intro answer hanswer
  subst hanswer
  cases answer with
  | error e => exact Work.Yields.pure rfl
  | ok x => exact hnext x rfl

theorem Gives.bind_ok {step : Eval α} {next : α → Eval β} {a : α} {b : Except GoalError β}
    (hstep : Gives inv step (.ok a)) (hnext : Gives inv (next a) b) :
    Gives inv (step >>= next) b := by
  have hbind : Gives inv (step >>= next) (Except.ok a >>= fun _ => b) := by
    apply hstep.bind
    intro x hx
    cases hx
    exact hnext
  exact hbind

theorem Gives.map {step : Eval α} {a : Except GoalError α} (f : α → β)
    (hstep : Gives inv step a) :
    Gives inv (do let x ← step; return f x) (a.map f) := by
  have hbind : Gives inv (step >>= fun x => pure (f x)) (a >>= fun x => .ok (f x)) :=
    hstep.bind fun x _ => gives_ok (f x)
  cases a <;> exact hbind

theorem gives_lift_bind {work : Work α} {post : α → Prop} {next : α → Eval β}
    {b : Except GoalError β} (hwork : Work.Yields inv work post)
    (hnext : ∀ x, post x → Gives inv (next x) b) :
    Gives inv (liftM work >>= next) b := by
  intro p hp
  have hrun := hwork p hp
  exact hnext _ hrun.1 _ hrun.2

theorem gives_lift {work : Work α} {a : α} (hwork : Work.Yields inv work (· = a)) :
    Gives inv (liftM work : Eval α) (.ok a) := by
  intro p hp
  have hrun := hwork p hp
  exact ⟨congrArg Except.ok hrun.1, hrun.2⟩

theorem run_bind (step : Eval α) (next : α → Eval β) (p : Pass) :
    (step >>= next).run.run p =
      match (step.run.run p).1 with
      | .ok a => (next a).run.run (step.run.run p).2
      | .error e => (.error e, (step.run.run p).2) := by
  rw [ExceptT.run_bind, StateT.run_bind]
  rcases step.run.run p with ⟨answer, after⟩
  cases answer <;> rfl

theorem run_lift_bind (work : Work α) (next : α → Eval β) (p : Pass) :
    (liftM work >>= next).run.run p = (next (work.run p).1).run.run (work.run p).2 := rfl

theorem run_map (step : Eval α) (f : α → β) (p : Pass) :
    (do let a ← step; return f a : Eval β).run.run p =
      ((step.run.run p).1.map f, (step.run.run p).2) := by
  rw [run_bind]
  cases (step.run.run p).1 <;> rfl

theorem run_allSettled (steps : List (Eval α)) (p : Pass) :
    (allSettled steps).run.run p =
      (collect ((settle steps).run p).1, ((settle steps).run p).2) := rfl

theorem run_settle_cons (step : Eval α) (rest : List (Eval α)) (p : Pass) :
    (settle (step :: rest)).run p =
      ((step.run.run p).1 :: ((settle rest).run (step.run.run p).2).1,
        ((settle rest).run (step.run.run p).2).2) := rfl

theorem settle_yields {steps : List (Eval α)} {answers : List (Except GoalError α)}
    (hsteps : List.Forall₂ (Gives inv) steps answers) :
    Work.Yields inv (settle steps) (· = answers) := by
  induction hsteps with
  | nil => exact Work.Yields.pure rfl
  | cons hstep _ ih =>
      unfold settle
      apply Work.Yields.bind hstep
      rintro _ rfl
      apply Work.Yields.bind ih
      rintro _ rfl
      exact Work.Yields.pure rfl

theorem allSettled_gives {steps : List (Eval α)} {answers : List (Except GoalError α)}
    (hsteps : List.Forall₂ (Gives inv) steps answers) :
    Gives inv (allSettled steps) (collect answers) := by
  have hbind : Gives inv (allSettled steps) (Except.ok answers >>= collect) := by
    apply (gives_lift (settle_yields hsteps)).bind
    intro settled hsettled
    cases hsettled
    exact fun _ hp => ⟨rfl, hp⟩
  exact hbind

end Eval

end PushGoals
