import PushGoals.Probe

/-!
# Knowing more of a push

One context extends another when it knows every field that the other knows, with
the same value.  A piece of work is looked at from outside here: what it answers
for a context, whether that answer hangs on the scratch it runs on, and whether
it may change when more of the push becomes known.

The answer of a probe is taken on an empty scratch.  For work that does not hang
on the scratch this is the answer on every scratch.
-/

namespace PushGoals

def Kept {α : Type} (known more : Option α) : Prop := ∀ a, known = some a → more = some a

/-- Every field that `ctx` knows, `more` knows with the same value. -/
structure Context.ExtendedBy (ctx more : Context) : Prop where
  id : Kept ctx.id more.id
  push : Kept ctx.push more.push
  repo : Kept ctx.fields.repo more.fields.repo
  branch : Kept ctx.fields.branch more.fields.branch
  commits : Kept ctx.fields.commits more.fields.commits
  beforeSha : Kept ctx.fields.beforeSha more.fields.beforeSha
  project : Kept ctx.project more.project
  credentials : Kept ctx.credentials more.credentials
  channel : Kept ctx.channel more.channel

theorem Context.empty_extendedBy (more : Context) : Context.empty.ExtendedBy more := by
  constructor <;> intro a ha <;> cases ha

def lacksData {α : Type} : Except GoalError α → Bool
  | .error e => e.isInsufficientData
  | .ok _ => false

/-- What a probe answers on an empty scratch. -/
def Probe.answer {α : Type} (probe : Probe α) : Except GoalError α := (probe.run {}).1

/-- The answer is the same on every scratch. -/
def ScopeFree {α : Type} (work : Context → Probe α) : Prop :=
  ∀ ctx scratch, ((work ctx).run scratch).1 = (work ctx).answer

/-- The later answer is the same, unless the first one was a want of data. -/
def AnswerKept {α : Type} (answer later : Except GoalError α) : Prop :=
  lacksData answer = false → later = answer

def SuccessKept {α : Type} (answer later : Except GoalError α) : Prop :=
  ∀ a, answer = .ok a → later = .ok a

/-- An answer other than a want of data is kept when more of the push is known. -/
def Stable {α : Type} (work : Context → Probe α) : Prop :=
  ∀ ctx more, ctx.ExtendedBy more → AnswerKept (work ctx).answer (work more).answer

def LacksDataOnly {α : Type} (answer : Except GoalError α) : Prop :=
  ∀ e, answer = .error e → e.isInsufficientData = true

/-- The work fails only for want of data. -/
def FailsForData {α : Type} (work : Context → Probe α) : Prop :=
  ∀ ctx, LacksDataOnly (work ctx).answer

section Success

variable {ε α β : Type}

theorem ok_of_bind {answer : Except ε α} {next : α → Except ε β} {b : β}
    (hok : answer >>= next = .ok b) : ∃ a, answer = .ok a ∧ next a = .ok b := by
  cases answer with
  | error e => cases hok
  | ok a => exact ⟨a, rfl, hok⟩

theorem ok_of_map {answer : Except ε α} {f : α → β} {b : β}
    (hok : answer.map f = .ok b) : ∃ a, answer = .ok a ∧ f a = b := by
  cases answer with
  | error e => cases hok
  | ok a => exact ⟨a, rfl, Except.ok.inj hok⟩

theorem error_of_map {answer : Except ε α} {f : α → β} {e : ε}
    (herror : answer.map f = .error e) : answer = .error e := by
  cases answer with
  | error d =>
      cases herror
      rfl
  | ok a => cases herror

end Success

/-! ## Answers that are kept -/

namespace AnswerKept

variable {α β : Type}

theorem rfl {answer : Except GoalError α} : AnswerKept answer answer := fun _ => Eq.refl answer

theorem success {answer later : Except GoalError α} (hkept : AnswerKept answer later) :
    SuccessKept answer later := by
  intro a ha
  subst ha
  exact hkept (Eq.refl false)

theorem bind {answer later : Except GoalError α} {next laterNext : α → Except GoalError β}
    (hkept : AnswerKept answer later)
    (hnext : ∀ a, answer = .ok a → AnswerKept (next a) (laterNext a)) :
    AnswerKept (answer >>= next) (later >>= laterNext) := by
  intro hdata
  cases answer with
  | error e =>
      rw [hkept hdata]
      exact Eq.refl (Except.error e)
  | ok a =>
      rw [hkept (Eq.refl false)]
      exact hnext a (Eq.refl (Except.ok a)) hdata

end AnswerKept

namespace SuccessKept

variable {α β : Type}

theorem rfl {answer : Except GoalError α} : SuccessKept answer answer := fun _ ha => ha

theorem bind {answer later : Except GoalError α} {next laterNext : α → Except GoalError β}
    (hkept : SuccessKept answer later)
    (hnext : ∀ a, answer = .ok a → SuccessKept (next a) (laterNext a)) :
    SuccessKept (answer >>= next) (later >>= laterNext) := by
  intro b hb
  cases answer with
  | error e => cases hb
  | ok a =>
      rw [hkept a (Eq.refl _)]
      exact hnext a (Eq.refl _) b hb

end SuccessKept

namespace LacksDataOnly

variable {α β : Type}

theorem ok (a : α) : LacksDataOnly (Except.ok a) := fun _ he => nomatch he

theorem bind {answer : Except GoalError α} {next : α → Except GoalError β}
    (hanswer : LacksDataOnly answer) (hnext : ∀ a, answer = .ok a → LacksDataOnly (next a)) :
    LacksDataOnly (answer >>= next) := by
  intro e he
  cases answer with
  | error d =>
      cases he
      exact hanswer e rfl
  | ok a => exact hnext a rfl e he

end LacksDataOnly

/-! ## Relations between answers -/

/-- A relation that holds between answers however they are put together. -/
structure Compositional
    (R : {α : Type} → Except GoalError α → Except GoalError α → Prop) : Prop where
  ok {α : Type} (a : α) : R (.ok a) (.ok a)
  bind {α β : Type} {answer later : Except GoalError α} {next laterNext : α → Except GoalError β} :
    R answer later → (∀ a, answer = .ok a → R (next a) (laterNext a)) →
      R (answer >>= next) (later >>= laterNext)

theorem AnswerKept.compositional : Compositional AnswerKept := ⟨fun _ => AnswerKept.rfl, .bind⟩

theorem SuccessKept.compositional : Compositional SuccessKept := ⟨fun _ => SuccessKept.rfl, .bind⟩

theorem LacksDataOnly.compositional :
    Compositional fun answer _ => LacksDataOnly answer :=
  ⟨LacksDataOnly.ok, .bind⟩

namespace Compositional

variable {R : {α : Type} → Except GoalError α → Except GoalError α → Prop} {α β : Type}

theorem map (hR : Compositional R) {answer later : Except GoalError α} (hanswer : R answer later)
    (f : α → β) : R (answer.map f) (later.map f) := by
  have hbind : R (answer >>= fun a => .ok (f a)) (later >>= fun a => .ok (f a)) :=
    hR.bind hanswer fun a _ => hR.ok (f a)
  have hmap (given : Except GoalError α) :
      (given >>= fun a => Except.ok (f a)) = given.map f := by
    cases given <;> rfl
  rw [hmap, hmap] at hbind
  exact hbind

end Compositional

/-! ## Work made of reads -/

section Reads

variable {α β : Type}

theorem Probe.run_bind (probe : Probe α) (next : α → Probe β) (scratch : Scratch) :
    (probe >>= next).run scratch =
      ExceptT.bindCont next (probe.run scratch).1 (probe.run scratch).2 := rfl

theorem Probe.run_bind_fst {probe : Probe α} {next : α → Probe β}
    (hfree : ∀ a scratch, ((next a).run scratch).1 = (next a).answer) (scratch : Scratch) :
    ((probe >>= next).run scratch).1 = (probe.run scratch).1 >>= fun a => (next a).answer := by
  rcases hrun : probe.run scratch with ⟨answer, after⟩
  rw [Probe.run_bind, hrun]
  cases answer with
  | error e => rfl
  | ok a => exact hfree a after

namespace FailsForData

theorem ofExcept {read : Context → Except GoalError α}
    (hread : ∀ ctx, LacksDataOnly (read ctx)) :
    FailsForData fun ctx => Probe.ofExcept (read ctx) :=
  hread

theorem pure (a : α) : FailsForData fun _ => (Pure.pure a : Probe α) :=
  fun _ => LacksDataOnly.ok a

theorem bind {work : Context → Probe α} {next : α → Context → Probe β}
    (hwork : FailsForData work) (hfree : ∀ a, ScopeFree (next a))
    (hnext : ∀ a, FailsForData (next a)) :
    FailsForData fun ctx => work ctx >>= fun a => next a ctx := by
  intro ctx
  have hanswer : (work ctx >>= fun a => next a ctx).answer =
      (work ctx).answer >>= fun a => (next a ctx).answer :=
    Probe.run_bind_fst (fun a => hfree a ctx) {}
  rw [hanswer]
  exact (hwork ctx).bind fun a _ => hnext a ctx

end FailsForData

/-- Work whose answer hangs on the push alone and lasts when more becomes known. -/
structure Lasting (work : Context → Probe α) : Prop where
  scopeFree : ScopeFree work
  stable : Stable work

namespace Lasting

theorem ofExcept {read : Context → Except GoalError α}
    (hread : ∀ ctx more, ctx.ExtendedBy more → AnswerKept (read ctx) (read more)) :
    Lasting fun ctx => Probe.ofExcept (read ctx) :=
  ⟨fun _ _ => rfl, hread⟩

theorem const {probe : Probe α} (hfree : ∀ scratch, (probe.run scratch).1 = probe.answer) :
    Lasting fun _ => probe :=
  ⟨fun _ => hfree, fun _ _ _ => AnswerKept.rfl⟩

theorem bind {work : Context → Probe α} {next : α → Context → Probe β} (hwork : Lasting work)
    (hnext : ∀ a, Lasting (next a)) : Lasting fun ctx => work ctx >>= fun a => next a ctx := by
  have hrun (ctx : Context) (scratch : Scratch) :
      ((work ctx >>= fun a => next a ctx).run scratch).1 =
        (work ctx).answer >>= fun a => (next a ctx).answer := by
    rw [Probe.run_bind_fst fun a => (hnext a).scopeFree ctx, hwork.scopeFree ctx scratch]
  have hanswer (ctx : Context) :
      (work ctx >>= fun a => next a ctx).answer =
        (work ctx).answer >>= fun a => (next a ctx).answer := hrun ctx {}
  constructor
  · intro ctx scratch
    exact (hrun ctx scratch).trans (hanswer ctx).symm
  · intro ctx more hmore
    simp only [hanswer]
    apply (hwork.stable ctx more hmore).bind
    exact fun a _ => (hnext a).stable ctx more hmore

end Lasting

theorem Context.available_kept {known more : Option α} (hkept : Kept known more)
    (field : String) : AnswerKept (available field known) (available field more) := by
  cases known with
  | none =>
      intro hdata
      cases hdata
  | some a =>
      rw [hkept a rfl]
      exact AnswerKept.rfl

theorem Context.available_lacksDataOnly (field : String) (known : Option α) :
    LacksDataOnly (available field known) := by
  intro e he
  cases known with
  | none =>
      cases he
      rfl
  | some a => cases he

/-- The work records no failure itself. -/
def RecordsNothing (work : Context → Probe α) : Prop :=
  ∀ ctx scratch, ((work ctx).run scratch).2.recorded = scratch.recorded

namespace RecordsNothing

theorem ofExcept (answer : Context → Except GoalError α) :
    RecordsNothing fun ctx => Probe.ofExcept (answer ctx) := fun _ _ => rfl

theorem pure (a : α) : RecordsNothing fun _ => (Pure.pure a : Probe α) := fun _ _ => rfl

theorem get? (key : String) : RecordsNothing fun _ => Probe.get? key := fun _ _ => rfl

theorem increment (key : String) : RecordsNothing fun _ => Probe.increment key := fun _ _ => rfl

theorem bind {work : Context → Probe α} {next : Context → α → Probe β}
    (hwork : RecordsNothing work) (hnext : ∀ a, RecordsNothing fun ctx => next ctx a) :
    RecordsNothing fun ctx => work ctx >>= next ctx := by
  intro ctx scratch
  have hkept := hwork ctx scratch
  rw [Probe.run_bind]
  cases ((work ctx).run scratch).1 with
  | error e => exact hkept
  | ok a => exact (hnext a ctx _).trans hkept

end RecordsNothing

end Reads

end PushGoals
