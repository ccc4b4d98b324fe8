import PushGoals.Proofs.Rule.Bookkeeping
import PushGoals.Proofs.Prediction.Outlook

/-!
# What predictions enter in the books

A prediction evaluates a rule and, if that fails for want of data, evaluates parts of it
again.  `Rule.consultedFailed` lists the memoized guards that are evaluated for a known
push in the second look at a rule; it follows the walk of the prediction: a guard apart
from what stands behind it, the members of a sequence up to one that is certain to end
it, and contributions up to one that is certain to be locked.
-/

namespace PushGoals

variable {α β : Type} {plain : Prop}

theorem Work.Books.bind_none {first : Pass → List Guard} {work : Work α} {next : α → Work β}
    (hwork : Books plain first work) (hnext : ∀ a, Books plain nothingConsulted (next a)) :
    Books plain first (work >>= next) := by
  intro p
  obtain ⟨emitted, hbooked⟩ := hwork.bind (fun _ => nothingConsulted) hnext p
  refine ⟨emitted, ?_⟩
  simp only [nothingConsulted, List.append_nil] at hbooked
  exact hbooked

theorem Work.Books.map {first : Pass → List Guard} {work : Work α} (hwork : Books plain first work)
    (f : α → β) : Books plain first (do return f (← work)) :=
  hwork.bind_none fun a => .pure (f a)

theorem Work.Books.ite {c : Prop} [Decidable c] {first second : Pass → List Guard}
    {work other : Work α} (hwork : Books plain first work) (hother : Books plain second other) :
    Books plain (fun p => if c then first p else second p) (if c then work else other) := by
  by_cases hc : c
  · simp only [if_pos hc]
    exact hwork
  · simp only [if_neg hc]
    exact hother

namespace Forecast

/-- A contribution in the making, and the memoized guards that it evaluates. -/
abbrev Contributing := Work Forecast × (Pass → List Guard)

/-- What contributions evaluate that are put together, up to a certain lock. -/
def consulted : Bool → List Contributing → Pass → List Guard
  | _, [], _ => []
  | lockPossible, (step, first) :: rest, p =>
      let next := if lockPossible then (step.run p).1.demote else (step.run p).1
      first p ++
        if next.locks then [] else consulted (lockPossible || next.mayLock) rest (step.run p).2

theorem additive_books {steps : List Contributing} (hsteps : ∀ s ∈ steps, Work.Books plain s.2 s.1)
    (forecast : Forecast) (lockPossible : Bool) :
    Work.Books plain (consulted lockPossible steps)
      (additive forecast lockPossible (steps.map Prod.fst)) := by
  induction steps generalizing forecast lockPossible with
  | nil => exact .pure forecast
  | cons step rest ih =>
      obtain ⟨hstep, hrest⟩ := List.forall_mem_cons.mp hsteps
      refine hstep.bind
        (fun given q =>
          let next := if lockPossible then given.demote else given
          if next.locks then [] else consulted (lockPossible || next.mayLock) rest q)
        fun given => ?_
      generalize (if lockPossible then given.demote else given) = next
      exact .ite (.pure (forecast.merge next)) (ih hrest _ _)

end Forecast

/-! ## Classification

What is recorded in a prediction is given up with its scope, so it does not matter here
whether work records failures itself. -/

namespace Rule

/-- What is evaluated where an evaluation is followed by a second look if it fails. -/
def consultedBy (evaluation : Eval (Outcome GoalSet)) (first : Pass → List Guard)
    (failed : GoalError → Pass → List Guard) (p : Pass) : List Guard :=
  first p ++
    match (evaluation.run.run p).1 with
    | .ok _ => []
    | .error e => failed e (evaluation.run.run p).2

/-- What is evaluated in a look at a guard alone, and then behind it. -/
def consultedGuard (name : String) (guard : Guard) (ctx : Context) (behind : Pass → List Guard)
    (p : Pass) : List Guard :=
  let looking := p.emit (.guardAlone name guard.name guard.cost)
  guard.consulted ctx looking ++
    match ((guard.passes ctx).run.run looking).1 with
    | .ok true => behind ((guard.passes ctx).run.run looking).2
    | .ok false => []
    | .error e =>
        if e.isInsufficientData then behind ((guard.passes ctx).run.run looking).2 else []

/-- What is evaluated behind a hook. -/
def consultedBody (hook : Option Hook) (ctx : Context) (body : Pass → List Guard) (p : Pass) :
    List Guard :=
  match ((runHook hook ctx).run.run p).1 with
  | .ok _ => body ((runHook hook ctx).run.run p).2
  | .error e => if e.isInsufficientData then body ((runHook hook ctx).run.run p).2 else []

variable (ctx : Context)

mutual

/-- The memoized guards that are evaluated for a known push in the second look at a rule
whose evaluation failed with `e`. -/
def consultedFailed (e : GoalError) : GoalRule → Pass → List Guard
  | .fixed guard reason _, p =>
      if !e.isInsufficientData then []
      else
        consultedGuard (statedName guard reason) guard ctx
          (consultedBody none ctx nothingConsulted) p
  | .halting guard reason, p =>
      if !e.isInsufficientData then []
      else consultedGuard (statedName guard reason) guard ctx nothingConsulted p
  | .firstMatch _ rules, p =>
      if !e.isInsufficientData then [] else consultedWalk rules p
  | .allMatches _ contributors, p =>
      if !e.isInsufficientData then []
      else Forecast.consulted false (contributing contributors) p
  | .enriched _ base extension, p =>
      if !e.isInsufficientData then []
      else
        Forecast.consulted false
          [(classify ctx base,
              consultedBy (eval ctx base) (base.consulted ctx) fun e => consultedFailed e base),
            (classify ctx extension,
              consultedBy (eval ctx extension) (extension.consulted ctx)
                fun e => consultedFailed e extension)] p
  | .leaf name guard hook _, p =>
      if !e.isInsufficientData then []
      else consultedGuard name guard ctx (consultedBody hook ctx nothingConsulted) p
  | .branch name guard hook children, p =>
      if !e.isInsufficientData then []
      else
        consultedGuard name guard ctx
          (consultedBody hook ctx
            (consultedBy (evalFirst ctx children) (consultedFirst ctx children)
              fun e q => if !e.isInsufficientData then [] else consultedWalk children q)) p
  | .computed .., _ => []
  | .mapped .., _ => []
  | .custom .., _ => []

/-- The same for the members of a sequence, up to one that is certain to end it. -/
def consultedWalk : List GoalRule → Pass → List Guard
  | [], _ => []
  | rule :: rest, p =>
      rule.consulted ctx p ++
        let q := ((eval ctx rule).run.run p).2
        match ((eval ctx rule).run.run p).1 with
        | .ok .noMatch => consultedWalk rest q
        | .ok (.matched _) => []
        | .ok .halt => []
        | .error e =>
            consultedFailed e rule q ++
              consultedWalk rest ((classifyFailed ctx e rule).run q).2

/-- The contributors of a set, each with what it evaluates. -/
def contributing : List GoalRule → List Forecast.Contributing
  | [] => []
  | rule :: rest =>
      (classify ctx rule,
          consultedBy (eval ctx rule) (rule.consulted ctx) fun e => consultedFailed e rule) ::
        contributing rest

end

variable {ctx}

theorem classifyBy_books {evaluation : Eval (Outcome GoalSet)} {first : Pass → List Guard}
    {failed : GoalError → Work Forecast} {again : GoalError → Pass → List Guard}
    (hevaluation : Eval.Books False first evaluation)
    (hfailed : ∀ e, Work.Books False (again e) (failed e)) :
    Work.Books False (consultedBy evaluation first again) (classifyBy evaluation failed) := by
  refine Work.Books.bind hevaluation
    (fun answer q =>
      match answer with
      | .ok _ => []
      | .error e => again e q)
    fun answer => ?_
  cases answer with
  | error e => exact hfailed e
  | ok outcome => cases outcome <;> exact .pure _

theorem classifyGuard_books (name : String) (guard : Guard) {behind : Option (Work Forecast)}
    {more : Pass → List Guard} (hbehind : Work.Books False more (behind.getD (pure .nothing))) :
    Work.Books False (consultedGuard name guard ctx more) (classifyGuard name guard ctx behind) := by
  have hlooking : Work.Books False nothingConsulted
      (modify (·.emit (.guardAlone name guard.name guard.cost))) :=
    fun p => ⟨_, .emit (e := .guardAlone ..) trivial rfl p⟩
  refine hlooking.bind _ fun _ => Work.Books.bind (Guard.passes_books ctx False.elim)
    (fun answer q =>
      match answer with
      | .ok true => more q
      | .ok false => []
      | .error e => if e.isInsufficientData then more q else [])
    fun answer => ?_
  cases answer with
  | ok passed =>
      cases passed with
      | true => exact hbehind
      | false => exact .pure _
  | error e =>
      refine .ite ?_ (.pure (Forecast.road name e.message))
      cases behind with
      | none => exact hbehind
      | some body => exact hbehind.map _

theorem classifyBody_books (name : String) (hook : Option Hook) {body : Work Forecast}
    {more : Pass → List Guard} (hbody : Work.Books False more body) :
    Work.Books False (consultedBody hook ctx more) (classifyBody name hook ctx body) := by
  have hhook : Eval.Books False nothingConsulted (runHook hook ctx) := runHook_books False.elim ctx
  refine Work.Books.bind hhook
    (fun answer q =>
      match answer with
      | .ok _ => more q
      | .error e => if e.isInsufficientData then more q else [])
    fun answer => ?_
  cases answer with
  | ok _ => exact hbody
  | error e => exact .ite (hbody.map _) (.pure (Forecast.road name e.message))

theorem classifyFirst_books {rules : List GoalRule}
    (hfailed : ∀ rule ∈ rules, ∀ e,
      Work.Books False (consultedFailed ctx e rule) (classifyFailed ctx e rule)) :
    Work.Books False (consultedWalk ctx rules) (classifyFirst ctx rules) := by
  induction rules with
  | nil => exact .pure Forecast.nothing
  | cons rule rest ih =>
      obtain ⟨hrule, hrest⟩ := List.forall_mem_cons.mp hfailed
      have heval : Eval.Books False (rule.consulted ctx) (rule.eval ctx) :=
        eval_books ctx False.elim
      refine Work.Books.bind heval
        (fun answer q =>
          match answer with
          | .ok .noMatch => consultedWalk ctx rest q
          | .ok (.matched _) => []
          | .ok .halt => []
          | .error e =>
              consultedFailed ctx e rule q ++
                consultedWalk ctx rest ((classifyFailed ctx e rule).run q).2)
        fun answer => ?_
      cases answer with
      | error e => exact (hrule e).bind _ fun head => (ih hrest).map head.orElse
      | ok outcome =>
          cases outcome with
          | matched goals => exact .pure _
          | noMatch => exact ih hrest
          | halt => exact .pure _

theorem contributing_books {rules : List GoalRule}
    (hfailed : ∀ rule ∈ rules, ∀ e,
      Work.Books False (consultedFailed ctx e rule) (classifyFailed ctx e rule)) :
    ∀ step ∈ contributing ctx rules, Work.Books False step.2 step.1 := by
  induction rules with
  | nil => exact fun _ hstep => nomatch hstep
  | cons rule rest ih =>
      obtain ⟨hrule, hrest⟩ := List.forall_mem_cons.mp hfailed
      exact List.forall_mem_cons.mpr
        ⟨classifyBy_books (eval_books ctx False.elim) hrule, ih hrest⟩

theorem map_fst_contributing (rules : List GoalRule) :
    (contributing ctx rules).map Prod.fst = classifyEach ctx rules := by
  induction rules with
  | nil => rfl
  | cons rule rest ih =>
      rw [contributing, List.map_cons, ih]
      rfl

theorem additive_contributing {rules : List GoalRule}
    (hfailed : ∀ rule ∈ rules, ∀ e,
      Work.Books False (consultedFailed ctx e rule) (classifyFailed ctx e rule)) :
    Work.Books False (Forecast.consulted false (contributing ctx rules))
      (Forecast.additive .nothing false (classifyEach ctx rules)) := by
  rw [← map_fst_contributing]
  exact Forecast.additive_books (contributing_books hfailed) .nothing false

theorem classifyFailed_books (ctx : Context) (rule : GoalRule) (e : GoalError) :
    Work.Books False (consultedFailed ctx e rule) (classifyFailed ctx e rule) := by
  induction rule using Rule.induct generalizing e with
  | fixed guard reason value =>
      exact .ite (.pure _) (classifyGuard_books _ guard (classifyBody_books _ none (.pure _)))
  | halting guard reason => exact .ite (.pure _) (classifyGuard_books _ guard (.pure _))
  | computed key guard reason compute => exact fun p => ⟨[], .refl p⟩
  | firstMatch name rules ih => exact .ite (.pure _) (classifyFirst_books ih)
  | allMatches name contributors ih => exact .ite (.pure _) (additive_contributing ih)
  | enriched name base extension ihBase ihExtension =>
      have hmembers := contributing_books (List.forall_mem_cons.mpr
        ⟨ihBase, List.forall_mem_singleton.mpr ihExtension⟩)
      exact .ite (.pure _) (Forecast.additive_books hmembers .nothing false)
  | leaf name guard hook value =>
      exact .ite (.pure _) (classifyGuard_books _ guard (classifyBody_books _ hook (.pure _)))
  | branch name guard hook children ih =>
      have hchildren (e : GoalError) : Work.Books False
          (fun q => if !e.isInsufficientData then [] else consultedWalk ctx children q)
          (if !e.isInsufficientData then return .road name e.message
            else classifyFirst ctx children) :=
        .ite (.pure _) (classifyFirst_books ih)
      have hevalFirst : Eval.Books False (consultedFirst ctx children) (evalFirst ctx children) :=
        evalFirst_books fun rule _ => eval_books ctx False.elim
      have hbody := classifyBy_books hevalFirst hchildren
      exact .ite (.pure _) (classifyGuard_books name guard (classifyBody_books name hook hbody))
  | mapped f inner ih => exact fun p => ⟨[], .refl p⟩
  | custom name cost run => exact .pure _

end Rule

end PushGoals
