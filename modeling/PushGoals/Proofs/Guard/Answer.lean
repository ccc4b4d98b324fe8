import PushGoals.Guard.Evaluation
import PushGoals.Proofs.Knowledge
import Mathlib.Data.List.Forall2

/-!
# What guards answer

The meaning of a guard whose tests do not hang on the scratch: `Guard.answer`
is a function of the context alone, in which remembering and preparing play no
part.  A property of work holds throughout a guard when every test and every
preparation in it has the property.

A guard keeps its answer when more of the push becomes known, unless the answer
was a want of data, and it fails for data only if its tests do.
-/

namespace PushGoals

theorem forall₂_map_map {α β γ : Type} {R : β → γ → Prop} {f : α → β} {g : α → γ}
    {list : List α} :
    List.Forall₂ R (list.map f) (list.map g) ↔ ∀ a ∈ list, R (f a) (g a) := by
  rw [List.forall₂_map_left_iff, List.forall₂_map_right_iff, List.forall₂_same]

namespace Guard

/-- Induction over guards, with the hypothesis for every part of a formula. -/
@[elab_as_elim]
theorem induct {motive : Guard → Prop}
    (test : ∀ t, motive (.test t))
    (custom : ∀ name cost run, motive (.custom name cost run))
    (all : ∀ parts, (∀ g ∈ parts, motive g) → motive (.all parts))
    (any : ∀ parts, (∀ g ∈ parts, motive g) → motive (.any parts))
    (negation : ∀ inner, motive inner → motive (.negation inner))
    (memo : ∀ cache inner, motive inner → motive (.memo cache inner))
    (prepared : ∀ preparations inner, motive inner → motive (.prepared preparations inner))
    (mapped : ∀ f inner, motive inner → motive (.mapped f inner))
    (guard : Guard) : motive guard := by
  refine @Guard.rec motive (fun parts => ∀ g ∈ parts, motive g)
    test custom all any negation memo prepared mapped ?_ ?_ guard
  · intro g hg
    cases hg
  · intro g rest hhead hrest
    exact List.forall_mem_cons.mpr ⟨hhead, hrest⟩

mutual

/-- All work in the guard has property `P`. -/
def Every (P : {α : Type} → (Context → Probe α) → Prop) : Guard → Prop
  | .test t => P t.run
  | .custom _ _ run => P run
  | .all parts => EveryAmong P parts
  | .any parts => EveryAmong P parts
  | .negation inner => Every P inner
  | .memo _ inner => Every P inner
  | .prepared preparations inner =>
      P (fun _ => modify (Preparation.runAll preparations)) ∧
        Every P inner
  | .mapped _ inner => Every P inner

def EveryAmong (P : {α : Type} → (Context → Probe α) → Prop) : List Guard → Prop
  | [] => True
  | g :: rest => Every P g ∧ EveryAmong P rest

end

@[simp] theorem everyAmong_iff {P : {α : Type} → (Context → Probe α) → Prop}
    {parts : List Guard} : EveryAmong P parts ↔ ∀ g ∈ parts, g.Every P := by
  induction parts with
  | nil => simp [EveryAmong]
  | cons g rest ih => simp [EveryAmong, ih]

theorem every_of_forall {P : {α : Type} → (Context → Probe α) → Prop}
    (hall : ∀ {α : Type} (work : Context → Probe α), P work) (guard : Guard) : guard.Every P := by
  induction guard using Guard.induct with
  | test t => exact hall t.run
  | custom name cost run => exact hall run
  | all parts ih => exact everyAmong_iff.mpr ih
  | any parts ih => exact everyAmong_iff.mpr ih
  | negation inner ih => exact ih
  | memo cache inner ih => exact ih
  | prepared preparations inner ih => exact ⟨hall _, ih⟩
  | mapped f inner ih => exact ih

mutual

/-- The guards whose answers are remembered, wherever they stand. -/
def remembered : Guard → List Guard
  | .test _ => []
  | .custom .. => []
  | .all parts => rememberedAmong parts
  | .any parts => rememberedAmong parts
  | .negation inner => remembered inner
  | .memo _ inner => inner :: remembered inner
  | .prepared _ inner => remembered inner
  | .mapped _ inner => remembered inner

def rememberedAmong : List Guard → List Guard
  | [] => []
  | g :: rest => remembered g ++ rememberedAmong rest

end

@[simp] theorem rememberedAmong_eq_flatMap (parts : List Guard) :
    rememberedAmong parts = parts.flatMap remembered := by
  induction parts with
  | nil => rfl
  | cons g rest ih => simp [rememberedAmong, ih]

theorem remembered_of_mem {parts known : List Guard}
    (hknown : ∀ h ∈ rememberedAmong parts, h ∈ known) {g : Guard} (hg : g ∈ parts) :
    ∀ h ∈ g.remembered, h ∈ known := by
  rw [rememberedAmong_eq_flatMap] at hknown
  exact fun h hh => hknown h (List.mem_flatMap_of_mem hg hh)

mutual

/-- What a guard means for a context: the parts of a formula answer one by one,
and the first failure among them is a failure of the formula. -/
def answer (ctx : Context) : Guard → Except GoalError (Outcome Bool)
  | .test t => (t.run ctx).answer.map .matched
  | .custom _ _ run => (run ctx).answer
  | .all parts =>
      (Eval.collect (answers ctx parts)).map fun given => .matched (given.all Outcome.passes)
  | .any parts =>
      (Eval.collect (answers ctx parts)).map fun given => .matched (given.any Outcome.passes)
  | .negation inner => (answer ctx inner).map fun given => .matched (!given.passes)
  | .memo _ inner => answer ctx inner
  | .prepared _ inner => answer ctx inner
  | .mapped f inner => (answer ctx inner).map (Outcome.map f)

def answers (ctx : Context) : List Guard → List (Except GoalError (Outcome Bool))
  | [] => []
  | g :: rest => answer ctx g :: answers ctx rest

end

@[simp] theorem evalEach_eq_map (ctx : Context) (parts : List Guard) :
    evalEach ctx parts = parts.map (eval ctx) := by
  induction parts with
  | nil => rfl
  | cons g rest ih => simp [evalEach, ih]

@[simp] theorem answers_eq_map (ctx : Context) (parts : List Guard) :
    answers ctx parts = parts.map (answer ctx) := by
  induction parts with
  | nil => rfl
  | cons g rest ih => simp [answers, ih]

def holds (guard : Guard) (ctx : Context) : Except GoalError Bool :=
  (guard.answer ctx).map Outcome.passes

end Guard

namespace Compositional

variable {R : {α : Type} → Except GoalError α → Except GoalError α → Prop}

theorem collect (hR : Compositional R) {α : Type} {answers later : List (Except GoalError α)}
    (heach : List.Forall₂ R answers later) :
    R (Eval.collect answers) (Eval.collect later) := by
  have hcons (answer : Except GoalError α) (rest : List (Except GoalError α)) :
      Eval.collect (answer :: rest) =
        answer >>= fun a => (Eval.collect rest).map (a :: ·) := by
    cases answer <;> rfl
  induction heach with
  | nil => exact hR.ok []
  | cons hanswer _ ih =>
      rw [hcons, hcons]
      apply hR.bind hanswer
      exact fun a _ => hR.map ih (a :: ·)

end Compositional

namespace Guard

section Answers

variable {R : {α : Type} → Except GoalError α → Except GoalError α → Prop}
  {P : {α : Type} → (Context → Probe α) → Prop} {guard : Guard}

/-- What holds between the answers of the tests for two contexts holds between the
answers of the guard. -/
theorem answer_related (ctx more : Context) (hR : Compositional R)
    (hwork : ∀ {α : Type} {work : Context → Probe α}, P work →
      R (work ctx).answer (work more).answer)
    (hguard : guard.Every P) : R (guard.answer ctx) (guard.answer more) := by
  have hformula {parts : List Guard}
      (ih : ∀ g ∈ parts, g.Every P → R (g.answer ctx) (g.answer more))
      (hparts : EveryAmong P parts) :
      R (Eval.collect (answers ctx parts)) (Eval.collect (answers more parts)) := by
    apply hR.collect
    rw [answers_eq_map, answers_eq_map, forall₂_map_map]
    exact fun g hg => ih g hg (everyAmong_iff.mp hparts g hg)
  induction guard using Guard.induct with
  | test t => exact hR.map (hwork hguard) _
  | custom name cost run => exact hwork hguard
  | all parts ih => exact hR.map (hformula ih hguard) _
  | any parts ih => exact hR.map (hformula ih hguard) _
  | negation inner ih => exact hR.map (ih hguard) _
  | memo cache inner ih => exact ih hguard
  | prepared preparations inner ih => exact ih hguard.2
  | mapped f inner ih => exact hR.map (ih hguard) _

theorem holds_related (ctx more : Context) (hR : Compositional R)
    (hwork : ∀ {α : Type} {work : Context → Probe α}, P work →
      R (work ctx).answer (work more).answer)
    (hguard : guard.Every P) : R (guard.holds ctx) (guard.holds more) :=
  hR.map (answer_related ctx more hR hwork hguard) Outcome.passes

/-- A guard over stable tests is stable itself. -/
theorem holds_stable (hstable : guard.Every Stable) {ctx more : Context}
    (hmore : ctx.ExtendedBy more) : AnswerKept (guard.holds ctx) (guard.holds more) :=
  holds_related ctx more AnswerKept.compositional (fun hwork => hwork ctx more hmore) hstable

theorem holds_lacksDataOnly (hdata : guard.Every FailsForData) (ctx : Context) :
    LacksDataOnly (guard.holds ctx) :=
  holds_related ctx ctx LacksDataOnly.compositional (fun hwork => hwork ctx) hdata

end Answers

/-! ## Having answers remembered -/

section Memoize

variable (guard : Guard) (ctx : Context)

@[simp] theorem answer_memoize : guard.memoize.answer ctx = guard.answer ctx := by
  unfold memoize memoizeIn
  split <;> rfl

theorem every_memoize {P : {α : Type} → (Context → Probe α) → Prop} (hguard : guard.Every P) :
    guard.memoize.Every P := by
  unfold memoize memoizeIn
  split <;> exact hguard

/-- Beside what it remembers inside, only an expensive guard is remembered. -/
theorem mem_remembered_memoize {g : Guard} (hg : g ∈ guard.memoize.remembered) :
    g ∈ guard.remembered ∨ g = guard ∧ guard.cost = .expensive := by
  unfold memoize memoizeIn at hg
  by_cases hcost : guard.cost = .expensive
  · rw [if_pos hcost] at hg
    rcases List.mem_cons.mp hg with hself | hinside
    · exact .inr ⟨hself, hcost⟩
    · exact .inl hinside
  · rw [if_neg hcost] at hg
    exact .inl hg

end Memoize

end Guard

end PushGoals
