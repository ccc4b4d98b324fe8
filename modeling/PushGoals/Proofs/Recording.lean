import PushGoals.Proofs.Guard.Memory
import PushGoals.Proofs.Rule.Evaluation

/-!
# What steps of a pass record

`Work.Records` says of a step which failures it adds to those recorded before it,
besides what it answers and which property of passes it keeps.  The rules follow
the ways in which steps are put together.  Guards and probes learn no names, and
they record nothing unless their work does so itself; a supervised rule that fails
is recorded by the name it has then.
-/

namespace PushGoals

variable {α β γ : Type} {inv : Pass → Prop}

/-- From a pass with `inv` the work comes to `a`, keeps `inv` and records the
failures behind those that are there. -/
def Work.Records (inv : Pass → Prop) (work : Work α) (a : α) (failures : List RuleFailure) :
    Prop :=
  ∀ p, inv p → (work.run p).1 = a ∧ inv (work.run p).2 ∧
    (work.run p).2.scope.failures = p.scope.failures ++ failures

def Eval.Records (inv : Pass → Prop) (step : Eval α) (answer : Except GoalError α)
    (failures : List RuleFailure) : Prop :=
  Work.Records inv step.run answer failures

namespace Work.Records

theorem pure (a : α) : Records inv (pure a : Work α) a [] :=
  fun _ hp => ⟨rfl, hp, (List.append_nil _).symm⟩

theorem bind {work : Work α} {next : α → Work β} {a : α} {b : β}
    {failures more : List RuleFailure} (hwork : Records inv work a failures)
    (hnext : Records inv (next a) b more) :
    Records inv (work >>= next) b (failures ++ more) := by
  intro p hp
  obtain ⟨ha, hmiddle, hfailures⟩ := hwork p hp
  obtain ⟨hb, hend, hmore⟩ := hnext _ hmiddle
  rw [Work.run_bind, ha]
  refine ⟨hb, hend, ?_⟩
  rw [hmore, hfailures, List.append_assoc]

end Work.Records

namespace Eval

/-- What is seen of the pass is the same after the step. -/
def Keeps (view : Pass → γ) (step : Eval α) : Prop := ∀ p, view (step.run.run p).2 = view p

/-- The step learns no name. -/
abbrev KeepsNames (step : Eval α) : Prop := Keeps (·.engine.learned) step

/-- The step records no failure. -/
abbrev KeepsFailures (step : Eval α) : Prop := Keeps (·.scope.failures) step

namespace Keeps

variable {view : Pass → γ}

theorem ok (a : α) : Keeps view (pure a : Eval α) := fun _ => rfl

theorem bind {step : Eval α} {next : α → Eval β} (hstep : Keeps view step)
    (hnext : ∀ a, Keeps view (next a)) : Keeps view (step >>= next) := by
  intro p
  have hkept := hstep p
  rw [run_bind]
  cases (step.run.run p).1 with
  | error e => exact hkept
  | ok a => exact (hnext a (step.run.run p).2).trans hkept

theorem map {step : Eval α} (f : α → β) (hstep : Keeps view step) :
    Keeps view (do let x ← step; return f x) :=
  hstep.bind fun a => ok (f a)

theorem allSettled {steps : List (Eval α)} (hsteps : ∀ step ∈ steps, Keeps view step) :
    Keeps view (Eval.allSettled steps) := by
  intro p
  rw [run_allSettled]
  induction steps generalizing p with
  | nil => rfl
  | cons step rest ih =>
      obtain ⟨hhead, hrest⟩ := List.forall_mem_cons.mp hsteps
      rw [run_settle_cons]
      exact (ih hrest (step.run.run p).2).trans (hhead p)

/-- Remembering touches caches and counters only. -/
theorem memoized
    (hfiled : ∀ (p : Pass) caches metrics,
      view { p with engine := { p.engine with caches, metrics } } = view p)
    {step : Eval (Outcome Bool)} (hstep : Keeps view step) (ctx : Context) (ref : CacheRef)
    (name : String) : Keeps view (Eval.memoized ctx ref name step) := by
  unfold Eval.memoized
  cases ctx.id with
  | none => exact hstep
  | some id =>
      have hlookUp : Keeps view (liftM (lookUp ref ⟨id, name⟩) : Eval (Option Bool)) :=
        fun p => hfiled p _ _
      apply hlookUp.bind
      intro hit
      cases hit with
      | some v => exact ok (Outcome.matched v)
      | none =>
          apply hstep.bind
          intro outcome
          cases outcome with
          | matched v =>
              have hremember : Keeps view (liftM (remember ref ⟨id, name⟩ v) : Eval Unit) :=
                fun p => hfiled p _ p.engine.metrics
              exact hremember.bind fun _ => ok (Outcome.matched v)
          | noMatch => exact ok Outcome.noMatch
          | halt => exact ok Outcome.halt

end Keeps

theorem ofProbe_keepsNames (probe : Probe α) : KeepsNames (Eval.ofProbe probe) := fun _ => rfl

theorem ofProbe_keepsFailures {work : Context → Probe α} (hwork : RecordsNothing work)
    (ctx : Context) : KeepsFailures (Eval.ofProbe (work ctx)) := by
  intro p
  change (p.withScratch ((work ctx).run p.scratch).2).scope.failures = p.scope.failures
  rw [Pass.failures_withScratch, hwork ctx p.scratch]
  exact List.append_nil p.scope.failures

namespace Records

theorem ok (a : α) : Records inv (pure a) (.ok a) [] := Work.Records.pure (Except.ok a)

theorem bind_ok {step : Eval α} {next : α → Eval β} {a : α} {b : Except GoalError β}
    {failures more : List RuleFailure} (hstep : Records inv step (.ok a) failures)
    (hnext : Records inv (next a) b more) :
    Records inv (step >>= next) b (failures ++ more) := by
  unfold Records
  rw [ExceptT.run_bind]
  exact Work.Records.bind hstep hnext

theorem bind_error {step : Eval α} (next : α → Eval β) {e : GoalError}
    {failures : List RuleFailure} (hstep : Records inv step (.error e) failures) :
    Records inv (step >>= next) (.error e) failures := by
  unfold Records
  rw [ExceptT.run_bind, ← List.append_nil failures]
  exact Work.Records.bind hstep (Work.Records.pure (Except.error e))

/-- What follows records nothing, if it is reached at all. -/
theorem bind {step : Eval α} {next : α → Eval β} {answer : Except GoalError α}
    {b : α → Except GoalError β} {failures : List RuleFailure}
    (hstep : Records inv step answer failures)
    (hnext : ∀ a, answer = .ok a → Records inv (next a) (b a) []) :
    Records inv (step >>= next) (answer >>= b) failures := by
  cases answer with
  | ok a =>
      have hbind := hstep.bind_ok (hnext a rfl)
      rwa [List.append_nil] at hbind
  | error e => exact hstep.bind_error next

theorem lift_bind {work : Work α} {next : α → Eval β} {a : α} {b : Except GoalError β}
    {failures more : List RuleFailure} (hwork : Work.Records inv work a failures)
    (hnext : Records inv (next a) b more) :
    Records inv (liftM work >>= next) b (failures ++ more) := by
  have hbind : Work.Records inv (work >>= fun a => (next a).run) b (failures ++ more) :=
    hwork.bind hnext
  exact hbind

theorem get_bind {next : Pass → Eval β} {b : Except GoalError β} {failures : List RuleFailure}
    (hnext : ∀ p, inv p → Records inv (next p) b failures) :
    Records inv (liftM (get : Work Pass) >>= next) b failures :=
  fun p hp => hnext p hp p hp

theorem attempt {step : Eval α} {answer : Except GoalError α} {failures : List RuleFailure}
    (hstep : Records inv step answer failures) :
    Records inv (Eval.attempt step) (.ok answer) failures := by
  intro p hp
  obtain ⟨hanswer, hkept, hfailures⟩ := hstep p hp
  exact ⟨congrArg Except.ok hanswer, hkept, hfailures⟩

theorem map {step : Eval α} {answer : Except GoalError α} {failures : List RuleFailure}
    (f : α → β) (hstep : Records inv step answer failures) :
    Records inv (do let x ← step; return f x) (answer.map f) failures := by
  have hbind : Records inv (step >>= fun x => pure (f x)) (answer >>= fun x => .ok (f x))
      failures := hstep.bind fun x _ => ok (f x)
  cases answer <;> exact hbind

end Records

end Eval

namespace Guard

variable {view : Pass → γ} {P : {α : Type} → (Context → Probe α) → Prop} {ctx : Context}

/-- What remembering and the work of a guard keep is kept by the guard. -/
theorem eval_keeps
    (hfiled : ∀ (p : Pass) caches metrics,
      view { p with engine := { p.engine with caches, metrics } } = view p)
    (hprobe : ∀ {α : Type} {work : Context → Probe α}, P work →
      Eval.Keeps view (Eval.ofProbe (work ctx)))
    {guard : Guard} (hguard : guard.Every P) : Eval.Keeps view (guard.eval ctx) := by
  have hformula {parts : List Guard}
      (ih : ∀ g ∈ parts, g.Every P → Eval.Keeps view (g.eval ctx)) (hparts : EveryAmong P parts) :
      Eval.Keeps view (Eval.allSettled (evalEach ctx parts)) := by
    apply Eval.Keeps.allSettled
    rw [evalEach_eq_map, List.forall_mem_map]
    exact fun g hg => ih g hg (everyAmong_iff.mp hparts g hg)
  induction guard using Guard.induct with
  | test t => exact (hprobe hguard).map Outcome.matched
  | custom name cost run => exact hprobe hguard
  | all parts ih => exact (hformula ih hguard).map _
  | any parts ih => exact (hformula ih hguard).map _
  | negation inner ih => exact (ih hguard).map _
  | memo cache inner ih => exact (ih hguard).memoized hfiled ctx cache inner.name
  | prepared preparations inner ih => exact (hprobe hguard.1).bind fun _ => ih hguard.2
  | mapped f inner ih => exact (ih hguard).map _

variable (guard : Guard) (ctx : Context)

theorem eval_keepsNames : Eval.KeepsNames (guard.eval ctx) :=
  eval_keeps (fun _ _ _ => rfl) (fun _ => Eval.ofProbe_keepsNames _)
    (guard.every_of_forall fun _ => trivial)

theorem passes_keepsNames : Eval.KeepsNames (guard.passes ctx) :=
  (guard.eval_keepsNames ctx).map Outcome.passes

variable {guard}

theorem eval_keepsFailures (hguard : guard.Every RecordsNothing) :
    Eval.KeepsFailures (guard.eval ctx) :=
  eval_keeps (fun _ _ _ => rfl) (fun hwork => Eval.ofProbe_keepsFailures hwork ctx) hguard

theorem passes_keepsFailures (hguard : guard.Every RecordsNothing) :
    Eval.KeepsFailures (guard.passes ctx) :=
  (eval_keepsFailures ctx hguard).map Outcome.passes

end Guard

end PushGoals
