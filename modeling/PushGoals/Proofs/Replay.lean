import Mathlib.Data.List.Forall2
import PushGoals.Proofs.Passes
import PushGoals.Proofs.Knowledge
import PushGoals.Rule.Evaluation

/-!
# Replaying a pass

Two passes that agree on caches and scope values take the same course as long as
the first of them records no failure, whatever their policies and whatever their
engines have counted, learned and logged.  The second one ends at the first
failure, so a failure that the first one isolates is where they part.
-/

namespace PushGoals

variable {α β : Type}

/-- What the work answers and leaves in the scope hangs on the push and on the
values of the scope alone. -/
def JournalFree (work : Context → Probe α) : Prop :=
  ∀ ctx (s t : Scratch), s.values = t.values →
    ((work ctx).run s).1 = ((work ctx).run t).1 ∧
      ((work ctx).run s).2.values = ((work ctx).run t).2.values

namespace JournalFree

theorem pure (a : α) : JournalFree fun _ => (Pure.pure a : Probe α) :=
  fun _ _ _ hvalues => ⟨rfl, hvalues⟩

theorem bind {work : Context → Probe α} {next : α → Context → Probe β}
    (hwork : JournalFree work) (hnext : ∀ a, JournalFree (next a)) :
    JournalFree fun ctx => work ctx >>= fun a => next a ctx := by
  intro ctx s t hvalues
  obtain ⟨hanswer, hthen⟩ := hwork ctx s t hvalues
  rw [Probe.run_bind, Probe.run_bind, hanswer]
  cases ((work ctx).run t).1 with
  | error e => exact ⟨rfl, hthen⟩
  | ok a => exact hnext a ctx _ _ hthen

theorem ofExcept (read : Context → Except GoalError α) :
    JournalFree fun ctx => Probe.ofExcept (read ctx) :=
  fun _ _ _ hvalues => ⟨rfl, hvalues⟩

theorem note (line : String) : JournalFree fun _ => Probe.note line :=
  fun _ _ _ hvalues => ⟨rfl, hvalues⟩

theorem get? (key : String) : JournalFree fun _ => Probe.get? key := by
  intro ctx s t hvalues
  refine ⟨?_, hvalues⟩
  change Except.ok (s.values.get? key) = Except.ok (t.values.get? key)
  rw [hvalues]

theorem set (key : String) (v : Value) : JournalFree fun _ => Probe.set key v := by
  intro ctx s t hvalues
  refine ⟨rfl, ?_⟩
  change s.values.set key v = t.values.set key v
  rw [hvalues]

end JournalFree

/-- `q` agrees with `p` and ends at the first failure. -/
structure Pass.Twin (p q : Pass) : Prop where
  caches : p.engine.caches = q.engine.caches
  values : p.scope.values = q.scope.values
  policy : q.scope.policy = .failFast

/-- Unless `work` records a failure, `again` does the same in a twin of its pass. -/
structure Work.Replays (work again : Work α) : Prop where
  recorded : ∀ p, p.scope.failures ≠ [] → (work.run p).2.scope.failures ≠ []
  twin : ∀ p q, p.Twin q → (work.run p).2.scope.failures = [] →
    (again.run q).1 = (work.run p).1 ∧ (work.run p).2.Twin (again.run q).2

def Eval.Replays (step again : Eval α) : Prop := Work.Replays step.run again.run

namespace Work.Replays

theorem pure (a : α) : Replays (pure a : Work α) (pure a) :=
  ⟨fun _ hp => hp, fun _ _ htwin _ => ⟨rfl, htwin⟩⟩

theorem bind {work again : Work α} {next nextAgain : α → Work β} (hwork : Replays work again)
    (hnext : ∀ a, Replays (next a) (nextAgain a)) :
    Replays (work >>= next) (again >>= nextAgain) where
  recorded p hp := (hnext (work.run p).1).recorded _ (hwork.recorded p hp)
  twin p q htwin hquiet := by
    have hmiddle : (work.run p).2.scope.failures = [] := by
      by_contra hrecorded
      exact (hnext (work.run p).1).recorded _ hrecorded hquiet
    obtain ⟨hanswer, hthen⟩ := hwork.twin p q htwin hmiddle
    have hrest := (hnext (work.run p).1).twin _ _ hthen hquiet
    rw [Work.run_bind, hanswer]
    exact hrest

theorem of_change {change changeAgain : Pass → Pass}
    (hcaches : ∀ p, (change p).engine.caches = p.engine.caches)
    (hscope : ∀ p, (change p).scope = p.scope)
    (hcachesAgain : ∀ p, (changeAgain p).engine.caches = p.engine.caches)
    (hscopeAgain : ∀ p, (changeAgain p).scope = p.scope) :
    Replays (modify change : Work PUnit) (modify changeAgain) where
  recorded p hp := by
    change (change p).scope.failures ≠ []
    rw [hscope]
    exact hp
  twin p q htwin _ := by
    refine ⟨rfl, ?_⟩
    change (change p).Twin (changeAgain q)
    constructor
    · rw [hcaches, hcachesAgain, htwin.caches]
    · rw [hscope, hscopeAgain, htwin.values]
    · rw [hscopeAgain, htwin.policy]

theorem emit (e d : Event) :
    Replays (modify (·.emit e) : Work PUnit) (modify (·.emit d)) :=
  of_change (fun _ => rfl) (fun _ => rfl) (fun _ => rfl) (fun _ => rfl)

end Work.Replays

namespace Eval.Replays

theorem bind {step again : Eval α} {next nextAgain : α → Eval β} (hstep : Replays step again)
    (hnext : ∀ a, Replays (next a) (nextAgain a)) :
    Replays (step >>= next) (again >>= nextAgain) := by
  unfold Replays
  rw [ExceptT.run_bind, ExceptT.run_bind]
  apply Work.Replays.bind hstep
  intro answer
  cases answer with
  | error e => exact Work.Replays.pure (Except.error e)
  | ok a => exact hnext a

theorem ok (a : α) : Replays (pure a) (pure a) := Work.Replays.pure (Except.ok a)

theorem map {step : Eval α} (f : α → β) (hstep : Replays step step) :
    Replays (do let x ← step; return f x) (do let x ← step; return f x) :=
  hstep.bind fun a => ok (f a)

theorem lift_bind {work again : Work α} {next nextAgain : α → Eval β}
    (hwork : Work.Replays work again) (hnext : ∀ a, Replays (next a) (nextAgain a)) :
    Replays (liftM work >>= next) (liftM again >>= nextAgain) := by
  have hbind : Work.Replays (work >>= fun a => (next a).run)
      (again >>= fun a => (nextAgain a).run) := hwork.bind hnext
  exact hbind

/-- What is only called by a name goes on alike under any name. -/
theorem named_bind {name nameAgain : Work String} {next nextAgain : String → Eval β}
    (hname : ∀ p, (name.run p).2 = p) (hnameAgain : ∀ p, (nameAgain.run p).2 = p)
    (hnext : ∀ a b, Replays (next a) (nextAgain b)) :
    Replays (liftM name >>= next) (liftM nameAgain >>= nextAgain) := by
  have hrun (p : Pass) : (liftM name >>= next : Eval β).run.run p =
      ((next (name.run p).1).run).run p := by
    change ((next (name.run p).1).run).run (name.run p).2 = _
    rw [hname]
  have hrunAgain (q : Pass) : (liftM nameAgain >>= nextAgain : Eval β).run.run q =
      ((nextAgain (nameAgain.run q).1).run).run q := by
    change ((nextAgain (nameAgain.run q).1).run).run (nameAgain.run q).2 = _
    rw [hnameAgain]
  constructor
  · intro p hp
    rw [hrun]
    exact (hnext _ "").recorded p hp
  · intro p q htwin hquiet
    rw [hrun] at hquiet ⊢
    rw [hrunAgain]
    exact (hnext _ _).twin p q htwin hquiet

theorem ofProbe {work : Context → Probe α} (hwork : JournalFree work) (ctx : Context) :
    Replays (Eval.ofProbe (work ctx)) (Eval.ofProbe (work ctx)) := by
  constructor
  · intro p hp
    change (p.withScratch _).scope.failures ≠ []
    rw [Pass.failures_withScratch]
    exact List.append_ne_nil_of_left_ne_nil hp _
  · intro p q htwin _
    obtain ⟨hanswer, hvalues⟩ := hwork ctx p.scratch
      q.scratch htwin.values
    exact ⟨hanswer.symm, htwin.caches, hvalues, htwin.policy⟩

theorem attempt {step again : Eval α} (hstep : Replays step again) :
    Replays (Eval.attempt step) (Eval.attempt again) := by
  constructor
  · exact hstep.recorded
  · intro p q htwin hquiet
    obtain ⟨hanswer, hthen⟩ := hstep.twin p q htwin hquiet
    exact ⟨congrArg Except.ok hanswer, hthen⟩

theorem settle {steps again : List (Eval α)} (hsteps : List.Forall₂ Replays steps again) :
    Work.Replays (Eval.settle steps) (Eval.settle again) := by
  induction hsteps with
  | nil => exact Work.Replays.pure []
  | cons hstep _ ih =>
      unfold Eval.settle
      apply Work.Replays.bind hstep
      intro answer
      apply ih.bind
      exact fun answers => Work.Replays.pure (answer :: answers)

theorem allSettled {steps again : List (Eval α)} (hsteps : List.Forall₂ Replays steps again) :
    Replays (Eval.allSettled steps) (Eval.allSettled again) := by
  unfold Eval.allSettled
  apply lift_bind (settle hsteps)
  exact fun answers => Work.Replays.pure (Eval.collect answers)

section Supervision

variable {V : Type} {name nameAgain : Work String} {step again : Eval (Outcome V)}

/-- A supervised failure is recorded, unless it ends the pass as it does in a twin. -/
theorem failed {e : GoalError}
    (hagain : ∀ q, q.scope.policy = .failFast → again.run.run q = (.error e, q)) :
    Replays (Eval.supervised name (throw e)) again := by
  constructor
  · intro p hp
    obtain ⟨engine, policy, values, failures⟩ := p
    cases policy with
    | failFast => exact hp
    | isolateAndReport => exact List.concat_ne_nil _ _
  · intro p q htwin hquiet
    obtain ⟨engine, policy, values, failures⟩ := p
    rw [hagain q htwin.policy]
    cases policy with
    | failFast => exact ⟨rfl, htwin⟩
    | isolateAndReport => exact absurd hquiet (List.concat_ne_nil _ _)

theorem supervised (hname : ∀ p, (name.run p).2 = p) (hnameAgain : ∀ p, (nameAgain.run p).2 = p)
    (hstep : Replays step again) :
    Replays (Eval.supervised name step) (Eval.supervised nameAgain again) := by
  unfold Eval.supervised
  apply hstep.attempt.bind
  intro answer
  cases answer with
  | ok outcome =>
      by_cases hmatched : outcome.isMatched = true
      · simp only [if_pos hmatched]
        apply named_bind hname hnameAgain
        intro a b
        apply lift_bind (Work.Replays.emit (.ruleMatched a) (.ruleMatched b))
        exact fun _ => ok outcome
      · simp only [if_neg hmatched]
        exact ok outcome
  | error e =>
      apply failed
      intro q hq
      obtain ⟨engine, policy, values, failures⟩ := q
      cases hq
      rfl

/-- A twin ends at the first failure, supervised or not. -/
theorem unsupervised (hname : ∀ p, (name.run p).2 = p) (hstep : Replays step again) :
    Replays (Eval.supervised name step) again := by
  have hagain : again = Eval.attempt again >>= Eval.ofExcept := rfl
  rw [hagain]
  unfold Eval.supervised
  apply hstep.attempt.bind
  intro answer
  cases answer with
  | ok outcome =>
      by_cases hmatched : outcome.isMatched = true
      · simp only [if_pos hmatched]
        constructor
        · intro p hp
          change (name.run p).2.scope.failures ≠ []
          rw [hname]
          exact hp
        · intro p q htwin _
          refine ⟨rfl, ?_⟩
          change ((name.run p).2.emit (.ruleMatched (name.run p).1)).Twin q
          rw [hname]
          exact ⟨htwin.caches, htwin.values, htwin.policy⟩
      · simp only [if_neg hmatched]
        exact ok outcome
  | error e => exact failed fun _ _ => rfl

end Supervision

end Eval.Replays

end PushGoals
