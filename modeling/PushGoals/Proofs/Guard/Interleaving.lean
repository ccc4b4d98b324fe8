import Mathlib.Logic.Relation
import PushGoals.Proofs.Guard.Answer
import PushGoals.Proofs.Passes

/-!
# Guards evaluated step by step

`Guard.eval` evaluates a guard without a break.  Where evaluations share caches,
other evaluations come between its look-ups, its tests and its insertions.
`Guard.Underway` is an evaluation at any point of its way, and a step of it is
what happens without a break: a test runs, an answer is looked up or stored, the
answers of a formula are put together.  The parts of a formula take their steps in
any order.

Each step brings an evaluation nearer to its end, an evaluation that is not over
has a next step whatever the caches hold, and `Guard.eval` is one way of taking
the steps.
-/

namespace PushGoals
namespace Guard

inductive Underway where
  | waiting (guard : Guard)
  /-- The parts of a formula, and what their answers are put together by. -/
  | joining (judge : List (Outcome Bool) → Bool) (parts : List Underway)
  | applying (f : Outcome Bool → Outcome Bool) (inner : Underway)
  /-- Looked up without a hit: the answer will be stored. -/
  | filling (ref : CacheRef) (key : CacheKey) (inner : Underway)
  | done (answer : Except GoalError (Outcome Bool))

/-- What an evaluation for `ctx` does next, and to which caches.  Work runs on any
scratch. -/
inductive Step (ctx : Context) : Caches → Underway → Caches → Underway → Prop
  | test (caches : Caches) (t : PushTest) (scratch : Scratch) :
      Step ctx caches (.waiting (.test t)) caches
        (.done (((t.run ctx).run scratch).1.map .matched))
  | custom (caches : Caches) (name : String) (cost : Cost)
      (run : Context → Probe (Outcome Bool)) (scratch : Scratch) :
      Step ctx caches (.waiting (.custom name cost run)) caches (.done ((run ctx).run scratch).1)
  | all (caches : Caches) (parts : List Guard) :
      Step ctx caches (.waiting (.all parts)) caches
        (.joining (·.all Outcome.passes) (parts.map .waiting))
  | any (caches : Caches) (parts : List Guard) :
      Step ctx caches (.waiting (.any parts)) caches
        (.joining (·.any Outcome.passes) (parts.map .waiting))
  | negation (caches : Caches) (inner : Guard) :
      Step ctx caches (.waiting (.negation inner)) caches
        (.applying (fun given => .matched (!given.passes)) (.waiting inner))
  | prepared (caches : Caches) (preparations : List Preparation) (inner : Guard) :
      Step ctx caches (.waiting (.prepared preparations inner)) caches (.waiting inner)
  | mapped (caches : Caches) (f : Bool → Bool) (inner : Guard) :
      Step ctx caches (.waiting (.mapped f inner)) caches
        (.applying (Outcome.map f) (.waiting inner))
  | unkeyed (caches : Caches) (ref : CacheRef) (inner : Guard) (hid : ctx.id = none) :
      Step ctx caches (.waiting (.memo ref inner)) caches (.waiting inner)
  | hit (caches : Caches) (ref : CacheRef) (inner : Guard) {id : PushId}
      (hid : ctx.id = some id) {v : Bool}
      (hhit : ((caches.get ref).get ⟨id, inner.name⟩).1 = some v) :
      Step ctx caches (.waiting (.memo ref inner))
        (caches.set ref ((caches.get ref).get ⟨id, inner.name⟩).2) (.done (.ok (.matched v)))
  | miss (caches : Caches) (ref : CacheRef) (inner : Guard) {id : PushId}
      (hid : ctx.id = some id) (hmiss : ((caches.get ref).get ⟨id, inner.name⟩).1 = none) :
      Step ctx caches (.waiting (.memo ref inner))
        (caches.set ref ((caches.get ref).get ⟨id, inner.name⟩).2)
        (.filling ref ⟨id, inner.name⟩ (.waiting inner))
  | part (judge : List (Outcome Bool) → Bool) (before after : List Underway)
      {caches caches' : Caches} {part part' : Underway}
      (hstep : Step ctx caches part caches' part') :
      Step ctx caches (.joining judge (before ++ part :: after)) caches'
        (.joining judge (before ++ part' :: after))
  | joined (caches : Caches) (judge : List (Outcome Bool) → Bool)
      (answers : List (Except GoalError (Outcome Bool))) :
      Step ctx caches (.joining judge (answers.map .done)) caches
        (.done ((Eval.collect answers).map fun given => .matched (judge given)))
  | within (f : Outcome Bool → Outcome Bool) {caches caches' : Caches} {inner inner' : Underway}
      (hstep : Step ctx caches inner caches' inner') :
      Step ctx caches (.applying f inner) caches' (.applying f inner')
  | applied (caches : Caches) (f : Outcome Bool → Outcome Bool)
      (answer : Except GoalError (Outcome Bool)) :
      Step ctx caches (.applying f (.done answer)) caches (.done (answer.map f))
  | behind (ref : CacheRef) (key : CacheKey) {caches caches' : Caches} {inner inner' : Underway}
      (hstep : Step ctx caches inner caches' inner') :
      Step ctx caches (.filling ref key inner) caches' (.filling ref key inner')
  | stored (caches : Caches) (ref : CacheRef) (key : CacheKey) (v : Bool) :
      Step ctx caches (.filling ref key (.done (.ok (.matched v))))
        (caches.set ref ((caches.get ref).insert key v)) (.done (.ok (.matched v)))
  | unstored (caches : Caches) (ref : CacheRef) (key : CacheKey)
      {answer : Except GoalError (Outcome Bool)} (hanswer : ∀ v, answer ≠ .ok (.matched v)) :
      Step ctx caches (.filling ref key (.done answer)) caches (.done answer)

/-- Any number of steps of one evaluation, with no other between them. -/
abbrev Steps (ctx : Context) : Caches × Underway → Caches × Underway → Prop :=
  Relation.ReflTransGen fun s t => Step ctx s.1 s.2 t.1 t.2

namespace Underway

@[elab_as_elim]
theorem induct {motive : Underway → Prop}
    (waiting : ∀ guard, motive (.waiting guard))
    (joining : ∀ judge parts, (∀ part ∈ parts, motive part) → motive (.joining judge parts))
    (applying : ∀ f inner, motive inner → motive (.applying f inner))
    (filling : ∀ ref key inner, motive inner → motive (.filling ref key inner))
    (done : ∀ answer, motive (.done answer))
    (run : Underway) : motive run := by
  refine @Underway.rec motive (fun parts => ∀ part ∈ parts, motive part)
    waiting joining applying filling done ?_ ?_ run
  · intro part hpart
    cases hpart
  · intro part rest hhead hrest
    exact List.forall_mem_cons.mpr ⟨hhead, hrest⟩

end Underway

/-! ## Evaluations come to an end -/

mutual

/-- How many steps the evaluation of a guard takes at most. -/
def steps : Guard → Nat
  | .test _ => 1
  | .custom .. => 1
  | .all parts => stepsAmong parts + 2
  | .any parts => stepsAmong parts + 2
  | .negation inner => steps inner + 2
  | .memo _ inner => steps inner + 2
  | .prepared _ inner => steps inner + 1
  | .mapped _ inner => steps inner + 2

def stepsAmong : List Guard → Nat
  | [] => 0
  | g :: rest => steps g + stepsAmong rest

end

namespace Underway

mutual

def remaining : Underway → Nat
  | .waiting guard => guard.steps
  | .joining _ parts => remainingAmong parts + 1
  | .applying _ inner => remaining inner + 1
  | .filling _ _ inner => remaining inner + 1
  | .done _ => 0

def remainingAmong : List Underway → Nat
  | [] => 0
  | part :: rest => remaining part + remainingAmong rest

end

theorem remainingAmong_append (first rest : List Underway) :
    remainingAmong (first ++ rest) = remainingAmong first + remainingAmong rest := by
  induction first with
  | nil => simp [remainingAmong]
  | cons part first ih => simp [remainingAmong, ih, Nat.add_assoc]

theorem remainingAmong_waiting (guards : List Guard) :
    remainingAmong (guards.map .waiting) = stepsAmong guards := by
  induction guards with
  | nil => rfl
  | cons g rest ih => simp [remainingAmong, stepsAmong, remaining, ih]

end Underway

/-- Each step brings an evaluation nearer to its end. -/
theorem Step.remaining_lt {ctx : Context} {caches caches' : Caches} {run run' : Underway}
    (hstep : Step ctx caches run caches' run') : run'.remaining < run.remaining := by
  induction hstep with
  | all caches parts | any caches parts =>
      simp only [Underway.remaining, Underway.remainingAmong_waiting, steps]
      omega
  | part judge before after hstep ih =>
      simp only [Underway.remaining, Underway.remainingAmong_append, Underway.remainingAmong]
      omega
  | _ => simp_all [Underway.remaining, steps]

theorem eq_map_done {parts : List Underway}
    (hparts : ∀ part ∈ parts, ∃ answer, part = .done answer) :
    ∃ answers : List (Except GoalError (Outcome Bool)), parts = answers.map .done := by
  induction parts with
  | nil => exact ⟨[], rfl⟩
  | cons part rest ih =>
      obtain ⟨⟨answer, hanswer⟩, hrest⟩ := List.forall_mem_cons.mp hparts
      obtain ⟨answers, hanswers⟩ := ih hrest
      exact ⟨answer :: answers, by rw [hanswer, hanswers, List.map_cons]⟩

/-- An evaluation that is not over has a next step, whatever the caches hold. -/
theorem Underway.progress (ctx : Context) (caches : Caches) (run : Underway) :
    (∃ answer, run = .done answer) ∨ ∃ caches' run', Step ctx caches run caches' run' := by
  induction run using Underway.induct with
  | waiting guard =>
      right
      cases guard with
      | test t => exact ⟨_, _, .test caches t {}⟩
      | custom name cost run => exact ⟨_, _, .custom caches name cost run {}⟩
      | all parts => exact ⟨_, _, .all caches parts⟩
      | any parts => exact ⟨_, _, .any caches parts⟩
      | negation inner => exact ⟨_, _, .negation caches inner⟩
      | memo ref inner =>
          cases hid : ctx.id with
          | none => exact ⟨_, _, .unkeyed caches ref inner hid⟩
          | some id =>
              cases hhit : ((caches.get ref).get ⟨id, inner.name⟩).1 with
              | none => exact ⟨_, _, .miss caches ref inner hid hhit⟩
              | some v => exact ⟨_, _, .hit caches ref inner hid hhit⟩
      | prepared preparations inner => exact ⟨_, _, .prepared caches preparations inner⟩
      | mapped f inner => exact ⟨_, _, .mapped caches f inner⟩
  | joining judge parts ih =>
      right
      -- A formula waits for its parts only while one of them has a next step.
      by_cases hmoves : ∃ part ∈ parts, ∃ caches' part', Step ctx caches part caches' part'
      · obtain ⟨part, hpart, caches', part', hstep⟩ := hmoves
        obtain ⟨before, after, rfl⟩ := List.append_of_mem hpart
        exact ⟨_, _, .part judge before after hstep⟩
      · have hover : ∀ part ∈ parts, ∃ answer, part = .done answer := fun part hpart =>
          (ih part hpart).resolve_right fun hstep => hmoves ⟨part, hpart, hstep⟩
        obtain ⟨answers, rfl⟩ := Guard.eq_map_done hover
        exact ⟨_, _, .joined caches judge answers⟩
  | applying f inner ih =>
      right
      rcases ih with ⟨answer, rfl⟩ | ⟨caches', inner', hstep⟩
      · exact ⟨_, _, .applied caches f answer⟩
      · exact ⟨_, _, .within f hstep⟩
  | filling ref key inner ih =>
      right
      rcases ih with ⟨answer, rfl⟩ | ⟨caches', inner', hstep⟩
      · by_cases hmatched : ∃ v, answer = .ok (.matched v)
        · obtain ⟨v, rfl⟩ := hmatched
          exact ⟨_, _, .stored caches ref key v⟩
        · exact ⟨_, _, .unstored caches ref key (not_exists.mp hmatched)⟩
      · exact ⟨_, _, .behind ref key hstep⟩
  | done answer => exact .inl ⟨answer, rfl⟩

/-! ## Evaluation without a break -/

section Whole

variable {ctx : Context} {s t : Caches × Underway}

theorem Steps.part (judge : List (Outcome Bool) → Bool) (before after : List Underway)
    (hsteps : Steps ctx s t) :
    Steps ctx (s.1, .joining judge (before ++ s.2 :: after))
      (t.1, .joining judge (before ++ t.2 :: after)) :=
  hsteps.lift (fun u => (u.1, Underway.joining judge (before ++ u.2 :: after)))
    fun _ _ hstep => .part judge before after hstep

theorem Steps.within (f : Outcome Bool → Outcome Bool) (hsteps : Steps ctx s t) :
    Steps ctx (s.1, .applying f s.2) (t.1, .applying f t.2) :=
  hsteps.lift (fun u => (u.1, Underway.applying f u.2)) fun _ _ hstep => .within f hstep

theorem Steps.behind (ref : CacheRef) (key : CacheKey) (hsteps : Steps ctx s t) :
    Steps ctx (s.1, .filling ref key s.2) (t.1, .filling ref key t.2) :=
  hsteps.lift (fun u => (u.1, Underway.filling ref key u.2)) fun _ _ hstep => .behind ref key hstep

/-- From the caches of `p` the evaluation can take its steps as `step` does. -/
def Follows (ctx : Context) (run : Underway) (step : Eval (Outcome Bool)) : Prop :=
  ∀ p : Pass, Steps ctx (p.engine.caches, run)
    ((step.run.run p).2.engine.caches, .done (step.run.run p).1)

theorem Follows.map {run : Underway} {step : Eval (Outcome Bool)}
    (f : Outcome Bool → Outcome Bool) (hstep : Follows ctx run step) :
    Follows ctx (.applying f run) (do let x ← step; return f x) := by
  intro p
  rw [Eval.run_map]
  exact (Steps.within f (hstep p)).tail (.applied _ f _)

theorem follows_settle (judge : List (Outcome Bool) → Bool) {parts : List Guard}
    (hparts : ∀ g ∈ parts, Follows ctx (.waiting g) (g.eval ctx))
    (before : List (Except GoalError (Outcome Bool))) (p : Pass) :
    Steps ctx (p.engine.caches, .joining judge (before.map .done ++ parts.map .waiting))
      (((Eval.settle (evalEach ctx parts)).run p).2.engine.caches,
        .joining judge
          ((before ++ ((Eval.settle (evalEach ctx parts)).run p).1).map .done)) := by
  induction parts generalizing before p with
  | nil =>
      rw [List.map_nil, List.append_nil]
      have hnone : ((Eval.settle (evalEach ctx [])).run p) = ([], p) := rfl
      rw [hnone, List.append_nil]
  | cons g rest ih =>
      obtain ⟨hhead, hrest⟩ := List.forall_mem_cons.mp hparts
      have hfirst := (hhead p).part judge (before.map .done) (rest.map .waiting)
      have hthen := ih hrest (before ++ [((g.eval ctx).run.run p).1]) ((g.eval ctx).run.run p).2
      rw [evalEach, Eval.run_settle_cons]
      simp only [List.map_append, List.append_assoc, List.map_cons, List.map_nil,
        List.cons_append, List.nil_append] at hfirst hthen ⊢
      exact hfirst.trans hthen

theorem follows_formula (judge : List (Outcome Bool) → Bool) {parts : List Guard}
    (hparts : ∀ g ∈ parts, Follows ctx (.waiting g) (g.eval ctx)) :
    Follows ctx (.joining judge (parts.map .waiting))
      (do
        let given ← Eval.allSettled (evalEach ctx parts)
        return .matched (judge given)) := by
  intro p
  have hrun : (do
        let given ← Eval.allSettled (evalEach ctx parts)
        return .matched (judge given) : Eval (Outcome Bool)).run.run p =
      ((Eval.collect ((Eval.settle (evalEach ctx parts)).run p).1).map
          fun given => .matched (judge given),
        ((Eval.settle (evalEach ctx parts)).run p).2) := by
    rw [Eval.run_bind, Eval.run_allSettled]
    cases Eval.collect ((Eval.settle (evalEach ctx parts)).run p).1 <;> rfl
  rw [hrun]
  exact (follows_settle judge hparts [] p).tail (.joined _ judge _)

theorem follows_memoized (ref : CacheRef) {inner : Guard}
    (hinner : Follows ctx (.waiting inner) (inner.eval ctx)) :
    Follows ctx (.waiting (.memo ref inner))
      (Eval.memoized ctx ref inner.name (inner.eval ctx)) := by
  intro p
  unfold Eval.memoized
  cases hid : ctx.id with
  | none => exact (hinner p).head (.unkeyed p.engine.caches ref inner hid)
  | some id =>
      let looked := ((Eval.lookUp ref ⟨id, inner.name⟩).run p).2
      have hlookUp : (liftM (Eval.lookUp ref ⟨id, inner.name⟩) : Eval (Option Bool)).run.run p =
          (.ok ((p.engine.caches.get ref).get ⟨id, inner.name⟩).1, looked) := rfl
      simp only
      rw [Eval.run_bind, hlookUp]
      cases hhit : ((p.engine.caches.get ref).get ⟨id, inner.name⟩).1 with
      | some v => exact .single (.hit p.engine.caches ref inner hid hhit)
      | none =>
          have hmiss : Step ctx p.engine.caches (.waiting (.memo ref inner)) looked.engine.caches
              (.filling ref ⟨id, inner.name⟩ (.waiting inner)) :=
            .miss p.engine.caches ref inner hid hhit
          have hsteps := Relation.ReflTransGen.head
            (a := (p.engine.caches, Underway.waiting (.memo ref inner))) hmiss
            ((hinner looked).behind ref ⟨id, inner.name⟩)
          simp only
          rw [Eval.run_bind]
          cases hanswer : ((inner.eval ctx).run.run looked).1 with
          | error e =>
              rw [hanswer] at hsteps
              exact hsteps.tail (.unstored _ ref _ fun _ h => nomatch h)
          | ok outcome =>
              rw [hanswer] at hsteps
              cases outcome with
              | matched v => exact hsteps.tail (.stored _ ref _ v)
              | noMatch => exact hsteps.tail (.unstored _ ref _ fun _ h => nomatch h)
              | halt => exact hsteps.tail (.unstored _ ref _ fun _ h => nomatch h)

/-- `Guard.eval` takes the steps of an evaluation without a break. -/
theorem eval_follows (guard : Guard) (ctx : Context) :
    Follows ctx (.waiting guard) (guard.eval ctx) := by
  induction guard using Guard.induct with
  | test t =>
      intro p
      have hrun : ((Guard.test t).eval ctx).run.run p =
          (((Eval.ofProbe (t.run ctx)).run.run p).1.map .matched,
            ((Eval.ofProbe (t.run ctx)).run.run p).2) := by
        rw [eval, Eval.run_bind]
        cases ((Eval.ofProbe (t.run ctx)).run.run p).1 <;> rfl
      rw [hrun]
      exact .single (.test p.engine.caches t p.scratch)
  | custom name cost run => exact fun p => .single (.custom _ name cost run _)
  | all parts ih => exact fun p => (follows_formula _ ih p).head (.all _ parts)
  | any parts ih => exact fun p => (follows_formula _ ih p).head (.any _ parts)
  | negation inner ih => exact fun p => (ih.map _ p).head (.negation _ inner)
  | memo cache inner ih => exact follows_memoized cache ih
  | prepared preparations inner ih =>
      exact fun p => (ih _).head (.prepared _ preparations inner)
  | mapped f inner ih => exact fun p => (ih.map _ p).head (.mapped _ f inner)

end Whole

end Guard
end PushGoals
