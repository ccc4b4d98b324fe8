import PushGoals.Proofs.Guard.Composite
import PushGoals.Proofs.Guard.SharedMemory
import PushGoals.Proofs.Visibility

/-!
# Remembered answers and the state of the scope

Guards are evaluated one after another over the same caches, each time in a scope of
its own.  A test that looks into the scope is not to be answered out of another one.
Nor is it, as long as all that is remembered keeps off the scope: each evaluation then
answers what its guard answers in its scope when nothing is remembered.

Joining goes further than that.  A part is remembered as a whole as soon as one of its
tests is expensive, and a cheap test of the scope beside that one is remembered with it.
-/

namespace PushGoals

variable {α β : Type} {keys : Set String} {ctx : Context} {contexts : List Context}
  {known : List Guard}

/-- What the work answers and what it leaves under `keys` hang, of all the scope, on the
values under `keys` alone. -/
def Sees (keys : Set String) (work : Context → Probe α) : Prop :=
  ∀ ctx, (work ctx).Shows SameAnswer keys keys (work ctx)

/-- The work asks for nothing of the scope and leaves what stands under `keys`. -/
structure KeepsOff (keys : Set String) (work : Context → Probe α) : Prop where
  scopeFree : ScopeFree work
  leaves : Leaves keys work

theorem Detached.keepsOff {work : Context → Probe α} (hwork : Detached work) :
    KeepsOff keys work := by
  refine ⟨hwork.scopeFree, ?_⟩
  intro ctx scratch
  rw [hwork.values]
  exact .refl _

theorem KeepsOff.sees {work : Context → Probe α} (hwork : KeepsOff keys work) :
    Sees keys work := by
  intro ctx s t hagree
  have hanswer : ((work ctx).run s).1 = ((work ctx).run t).1 :=
    (hwork.scopeFree ctx s).trans (hwork.scopeFree ctx t).symm
  exact ⟨hanswer, (hwork.leaves ctx s).trans (hagree.trans (hwork.leaves ctx t).symm)⟩

theorem PushTest.hasFile_detached (path : String) : Detached (hasFile path).run := by
  apply (Detached.ofExcept _).bind
  exact fun project => ⟨fun _ _ => rfl, fun _ _ => rfl⟩

/-- Guards over work that leaves `keys` leave them, remembered or not. -/
theorem Guard.eval_leaves {guard : Guard} (hguard : guard.Every (Leaves keys)) (ctx : Context)
    (p : Pass) :
    ((guard.eval ctx).run.run p).2.scope.values.AgreeOn keys p.scope.values := by
  have hwork {γ : Type} {work : Context → Probe γ} (hleaves : Leaves keys work) :
      Eval.InStep (Pass.Alone fun q => q.scope.values.AgreeOn keys p.scope.values)
        (Pass.Alone fun q => q.scope.values.AgreeOn keys p.scope.values)
        (Eval.ofProbe (work ctx)) :=
    .alone fun q hq => (hleaves ctx q.scratch).trans hq
  have hmemo : RememberedInStep
      (Pass.Alone fun q => q.scope.values.AgreeOn keys p.scope.values) ctx guard.remembered :=
    rememberedInStep_of_scope (fun _ values => values.AgreeOn keys p.scope.values) _
  exact (eval_inStep hwork hmemo hguard).keeps (.refl _)

namespace Eval

/-- The pass once an answer has been filed, if it is one to remember. -/
def filed (ref : CacheRef) (key : CacheKey) (p : Pass) : Except GoalError (Outcome Bool) → Pass
  | .ok (.matched v) => ((remember ref key v).run p).2
  | _ => p

section Run

variable {ref : CacheRef} {name : String} {step : Eval (Outcome Bool)} {id : PushId} {p : Pass}

theorem run_memoized_of_hit (hid : ctx.id = some id) {v : Bool}
    (hhit : ((lookUp ref ⟨id, name⟩).run p).1 = some v) :
    (memoized ctx ref name step).run.run p =
      (.ok (.matched v), ((lookUp ref ⟨id, name⟩).run p).2) := by
  simp only [memoized, hid]
  rw [run_lift_bind, hhit]
  rfl

theorem run_memoized_of_miss (hid : ctx.id = some id)
    (hmiss : ((lookUp ref ⟨id, name⟩).run p).1 = none) :
    (memoized ctx ref name step).run.run p =
      ((step.run.run ((lookUp ref ⟨id, name⟩).run p).2).1,
        filed ref ⟨id, name⟩ (step.run.run ((lookUp ref ⟨id, name⟩).run p).2).2
          (step.run.run ((lookUp ref ⟨id, name⟩).run p).2).1) := by
  simp only [memoized, hid]
  rw [run_lift_bind, hmiss]
  simp only
  rw [run_bind]
  cases (step.run.run ((lookUp ref ⟨id, name⟩).run p).2).1 with
  | error e => rfl
  | ok outcome => cases outcome <;> rfl

end Run

end Eval

/-! ## Beside a pass that remembers nothing -/

/-- The caches of the first pass hold true answers only, and the scopes agree on what is
seen. -/
structure Pass.Beside (contexts : List Context) (known : List Guard) (keys : Set String)
    (p q : Pass) : Prop where
  settled : p.engine.caches.Settled contexts known
  agree : p.scope.values.AgreeOn keys q.scope.values

/-- Guards that can share caches whatever their scopes hold: what is remembered of them
keeps off the scope and answers by its name and the push. -/
structure Guard.Unfrozen (contexts : List Context) (known : List Guard) (keys : Set String) :
    Prop where
  keepsOff : ∀ g ∈ known, g.Every (KeepsOff keys)
  sameNamed : Guard.SameNamed known
  samePush : Guard.SamePush contexts known

namespace Pass.Beside

variable {p q : Pass}

theorem lookUp (hpq : p.Beside contexts known keys q) (ref : CacheRef) (key : CacheKey) :
    ((Eval.lookUp ref key).run p).2.Beside contexts known keys q :=
  ⟨hpq.settled.restrict fun _ hentry => PushTestCache.mem_entries_of_mem_get hentry, hpq.agree⟩

theorem filed (hknown : Guard.Unfrozen contexts known keys)
    (hpq : p.Beside contexts known keys q) (hctx : ctx ∈ contexts) {guard : Guard}
    (hguard : guard ∈ known) {id : PushId} (hid : ctx.id = some id)
    {answer : Except GoalError (Outcome Bool)} (hanswer : answer = guard.answer ctx)
    (ref : CacheRef) :
    (Eval.filed ref ⟨id, guard.name⟩ p answer).Beside contexts known keys q := by
  cases answer with
  | error e => exact hpq
  | ok outcome =>
      cases outcome with
      | noMatch => exact hpq
      | halt => exact hpq
      | matched v =>
          exact ⟨hpq.settled.insert hknown.sameNamed hknown.samePush hctx hguard hid rfl
            hanswer.symm ref, hpq.agree⟩

end Pass.Beside

namespace Eval

/-- From passes beside each other the steps come to one answer, and to passes beside each
other. -/
def Beside (contexts : List Context) (known : List Guard) (keys : Set String)
    (step again : Eval α) : Prop :=
  Work.Lockstep (Pass.Beside contexts known keys) (Pass.Beside contexts known keys) SameAnswer
    step.run again.run

namespace Beside

theorem ofProbe {probe again : Probe α} (hprobe : probe.Shows SameAnswer keys keys again) :
    Beside contexts known keys (Eval.ofProbe probe) (Eval.ofProbe again) := by
  intro p q hpq
  obtain ⟨hanswer, hthen⟩ :=
    hprobe p.scratch q.scratch hpq.agree
  exact ⟨hanswer, hpq.settled, hthen⟩

theorem map {step again : Eval α} (hstep : Beside contexts known keys step again) (f : α → β) :
    Beside contexts known keys (do let given ← step; return f given)
      (do let given ← again; return f given) :=
  Eval.map_lockstep SameAnswer.compositional hstep f

theorem allSettled {steps again : List (Eval α)}
    (hsteps : List.Forall₂ (Beside contexts known keys) steps again) :
    Beside contexts known keys (Eval.allSettled steps) (Eval.allSettled again) := by
  have hsettle : Work.Lockstep (Pass.Beside contexts known keys)
      (Pass.Beside contexts known keys) (List.Forall₂ SameAnswer) (settle steps)
      (settle again) := by
    induction hsteps with
    | nil => exact .pure .nil
    | cons hhead _ ih =>
        unfold settle
        apply Work.Lockstep.bind hhead
        intro answer other hanswer
        apply ih.bind
        intro answers others hanswers
        exact .pure (.cons hanswer hanswers)
  intro p q hpq
  obtain ⟨hanswers, hthen⟩ := hsettle p q hpq
  exact ⟨SameAnswer.compositional.collect hanswers, hthen⟩

end Beside

theorem lookUp_hit {p : Pass} (hsettled : p.engine.caches.Settled contexts known)
    (hctx : ctx ∈ contexts) {guard : Guard} (hguard : guard ∈ known) {id : PushId}
    (hid : ctx.id = some id) {ref : CacheRef} {v : Bool}
    (hhit : ((lookUp ref ⟨id, guard.name⟩).run p).1 = some v) :
    guard.answer ctx = .ok (.matched v) := by
  have hpeek : (p.engine.caches.get ref).peek? ⟨id, guard.name⟩ = some v := by
    rw [← PushTestCache.get_fst]
    exact hhit
  exact hsettled.truthful ctx hctx ref _ (PushTestCache.mem_of_peek?_eq_some hpeek) guard hguard
    hid rfl

/-- A guard that keeps off the scope may be remembered beside a pass in which it is not. -/
theorem memoized_beside (hknown : Guard.Unfrozen contexts known keys) (hctx : ctx ∈ contexts)
    {guard : Guard} (hguard : guard ∈ known) (ref : CacheRef)
    (hstep : Beside contexts known keys (guard.eval ctx) (guard.unremembered.eval ctx)) :
    Beside contexts known keys (memoized ctx ref guard.name (guard.eval ctx))
      (guard.unremembered.eval ctx) := by
  have hoff := hknown.keepsOff guard hguard
  have hdirect (q : Pass) : ((guard.unremembered.eval ctx).run.run q).1 = guard.answer ctx :=
    Guard.direct_eq (hoff.imp KeepsOff.scopeFree) ctx q
  intro p q hpq
  cases hid : ctx.id with
  | none =>
      simp only [memoized, hid]
      exact hstep p q hpq
  | some id =>
      have hlooked := hpq.lookUp ref ⟨id, guard.name⟩
      cases hfound : ((lookUp ref ⟨id, guard.name⟩).run p).1 with
      | some v =>
          -- Beside the hit the guard is evaluated, and leaves what is seen.
          have hleft := Guard.eval_leaves
            (Guard.every_unremembered (hoff.imp KeepsOff.leaves)) ctx q
          have hanswer := lookUp_hit hpq.settled hctx hguard hid hfound
          have hrun : (memoized ctx ref guard.name (guard.eval ctx)).run.run p = _ :=
            run_memoized_of_hit hid hfound
          rw [hrun]
          exact ⟨((hdirect q).trans hanswer).symm, hlooked.settled, hlooked.agree.trans hleft.symm⟩
      | none =>
          obtain ⟨hsame, hthen⟩ := hstep _ q hlooked
          have hanswer : ((guard.eval ctx).run.run
              ((lookUp ref ⟨id, guard.name⟩).run p).2).1 = guard.answer ctx :=
            Eq.trans hsame (hdirect q)
          have hrun : (memoized ctx ref guard.name (guard.eval ctx)).run.run p = _ :=
            run_memoized_of_miss hid hfound
          rw [hrun]
          exact ⟨hsame, hthen.filed hknown hctx hguard hid hanswer ref⟩

end Eval

namespace Guard

/-- A guard whose remembered parts keep off the scope answers what it answers when
nothing is remembered. -/
theorem eval_beside (hknown : Unfrozen contexts known keys) (hctx : ctx ∈ contexts)
    {guard : Guard} (hsees : guard.Every (Sees keys))
    (hmem : ∀ g ∈ guard.remembered, g ∈ known) :
    Eval.Beside contexts known keys (guard.eval ctx) (guard.unremembered.eval ctx) := by
  have hformula {parts : List Guard}
      (ih : ∀ g ∈ parts, g.Every (Sees keys) → (∀ h ∈ g.remembered, h ∈ known) →
        Eval.Beside contexts known keys (g.eval ctx) (g.unremembered.eval ctx))
      (hparts : EveryAmong (Sees keys) parts) (hmem : ∀ h ∈ rememberedAmong parts, h ∈ known) :
      Eval.Beside contexts known keys (Eval.allSettled (evalEach ctx parts))
        (Eval.allSettled (evalEach ctx (unrememberedEach parts))) := by
    apply Eval.Beside.allSettled
    rw [unrememberedEach_eq_map, evalEach_eq_map, evalEach_eq_map, List.map_map,
      forall₂_map_map]
    exact fun g hg => ih g hg (everyAmong_iff.mp hparts g hg) (remembered_of_mem hmem hg)
  induction guard using Guard.induct with
  | test t => exact (Eval.Beside.ofProbe (hsees ctx)).map Outcome.matched
  | custom name cost run => exact .ofProbe (hsees ctx)
  | all parts ih => exact (hformula ih hsees hmem).map _
  | any parts ih => exact (hformula ih hsees hmem).map _
  | negation inner ih => exact (ih hsees hmem).map _
  | memo cache inner ih =>
      obtain ⟨hinner, hrest⟩ := List.forall_mem_cons.mp hmem
      exact Eval.memoized_beside hknown hctx hinner cache (ih hsees hrest)
  | prepared preparations inner ih =>
      intro p q hpq
      -- Preparations do not fail, so the guard inside is always reached.
      obtain ⟨_, hafter⟩ := Eval.Beside.ofProbe (hsees.1 ctx) p q hpq
      exact ih hsees.2 hmem _ _ hafter
  | mapped f inner ih => exact (ih hsees hmem).map _

end Guard

/-! ## One evaluation after another -/

/-- A guard evaluated for a push in a scope. -/
structure Visit where
  guard : Guard
  ctx : Context
  scope : Scope

namespace Visit

/-- What the visits answer one after another, each in its own scope and all over the
engine that those before them have left. -/
def answers : List Visit → Engine → List (Except GoalError (Outcome Bool))
  | [], _ => []
  | visit :: rest, engine =>
      let ended := (visit.guard.eval visit.ctx).run.run ⟨engine, visit.scope⟩
      ended.1 :: answers rest ended.2.engine

/-- Over shared caches the guards answer what they answer in their own scopes when
nothing is remembered. -/
theorem answers_eq (hknown : Guard.Unfrozen contexts known keys) {visits : List Visit}
    (hctx : ∀ visit ∈ visits, visit.ctx ∈ contexts)
    (hsees : ∀ visit ∈ visits, visit.guard.Every (Sees keys))
    (hmem : ∀ visit ∈ visits, ∀ g ∈ visit.guard.remembered, g ∈ known) {engine : Engine}
    (hsettled : engine.caches.Settled contexts known) (other : Engine) :
    answers visits engine =
      visits.map fun visit => visit.guard.direct visit.ctx ⟨other, visit.scope⟩ := by
  induction visits generalizing engine with
  | nil => rfl
  | cons visit rest ih =>
      obtain ⟨hctxHead, hctxRest⟩ := List.forall_mem_cons.mp hctx
      obtain ⟨hseesHead, hseesRest⟩ := List.forall_mem_cons.mp hsees
      obtain ⟨hmemHead, hmemRest⟩ := List.forall_mem_cons.mp hmem
      have hbeside : (Pass.mk engine visit.scope).Beside contexts known keys ⟨other, visit.scope⟩ :=
        ⟨hsettled, .refl _⟩
      obtain ⟨hanswer, hafter⟩ :=
        Guard.eval_beside hknown hctxHead hseesHead hmemHead _ _ hbeside
      rw [answers, List.map_cons, ← ih hctxRest hseesRest hmemRest hafter.settled]
      exact congrArg (· :: _) hanswer

end Visit

namespace Composite

mutual

/-- A part that is joined to others and expensive is made of leaves that keep off the
scope. -/
def Unmixed (keys : Set String) : Composite → Prop
  | leaf g => ∀ h ∈ g.remembered, h.Every (KeepsOff keys)
  | negation inner => Unmixed keys inner
  | all parts => UnmixedEach keys parts
  | any parts => UnmixedEach keys parts

def UnmixedEach (keys : Set String) : List Composite → Prop
  | [] => True
  | part :: rest =>
      (Unmixed keys part ∧
        (part.guard.cost = .expensive → ∀ g ∈ part.leaves, g.Every (KeepsOff keys))) ∧
      UnmixedEach keys rest

end

theorem unmixedEach_iff {parts : List Composite} :
    UnmixedEach keys parts ↔ ∀ part ∈ parts, part.Unmixed keys ∧
      (part.guard.cost = .expensive → ∀ g ∈ part.leaves, g.Every (KeepsOff keys)) := by
  induction parts with
  | nil => simp [UnmixedEach]
  | cons part rest ih => simp [UnmixedEach, ih]

theorem every_guard {P : {α : Type} → (Context → Probe α) → Prop} {composite : Composite}
    (hleaves : ∀ g ∈ composite.leaves, g.Every P) : composite.guard.Every P := by
  have hparts {parts : List Composite}
      (ih : ∀ part ∈ parts, (∀ g ∈ part.leaves, g.Every P) → part.guard.Every P)
      (hleaves : ∀ g ∈ leavesAmong parts, g.Every P) :
      Guard.EveryAmong P ((guards parts).map Guard.memoize) := by
    rw [leavesAmong_eq_flatMap, List.forall_mem_flatMap] at hleaves
    rw [Guard.everyAmong_iff, guards_eq_map, List.forall_mem_map, List.forall_mem_map]
    exact fun part hpart => part.guard.every_memoize (ih part hpart (hleaves part hpart))
  induction composite using Composite.induct with
  | leaf g => exact hleaves g (List.mem_singleton_self g)
  | negation inner ih => exact ih hleaves
  | all parts ih => exact hparts ih hleaves
  | any parts ih => exact hparts ih hleaves

/-- What is remembered of an unmixed composite keeps off the scope. -/
theorem Unmixed.keepsOff {composite : Composite} (hunmixed : composite.Unmixed keys) :
    ∀ g ∈ composite.guard.remembered, g.Every (KeepsOff keys) := by
  have hparts {parts : List Composite}
      (ih : ∀ part ∈ parts, part.Unmixed keys →
        ∀ g ∈ part.guard.remembered, g.Every (KeepsOff keys))
      (hunmixed : UnmixedEach keys parts) :
      ∀ g ∈ Guard.rememberedAmong ((guards parts).map Guard.memoize),
        g.Every (KeepsOff keys) := by
    rw [Guard.rememberedAmong_eq_flatMap, List.forall_mem_flatMap, guards_eq_map,
      List.forall_mem_map, List.forall_mem_map]
    intro part hpart g hg
    obtain ⟨hinside, hexpensive⟩ := unmixedEach_iff.mp hunmixed part hpart
    rcases part.guard.mem_remembered_memoize hg with hmem | ⟨rfl, hcost⟩
    · exact ih part hpart hinside g hmem
    · exact every_guard (hexpensive hcost)
  induction composite using Composite.induct with
  | leaf g => exact hunmixed
  | negation inner ih => exact ih hunmixed
  | all parts ih => exact hparts ih hunmixed
  | any parts ih => exact hparts ih hunmixed

/-- However often an unmixed composite is evaluated, and whatever the scopes hold, it
answers each time what it answers in that scope when nothing is remembered. -/
theorem scopes_are_kept_apart {composite : Composite} (hunmixed : composite.Unmixed keys)
    (hsees : ∀ g ∈ composite.leaves, g.Every (Sees keys))
    (hnames : Guard.SameNamed composite.guard.remembered) {visits : List (Context × Scope)}
    (hpushes : Guard.SamePush (visits.map Prod.fst) composite.guard.remembered) {engine : Engine}
    (hsettled : engine.caches.Settled (visits.map Prod.fst) composite.guard.remembered)
    (other : Engine) :
    Visit.answers (visits.map fun visit => ⟨composite.guard, visit.1, visit.2⟩) engine =
      visits.map fun visit => composite.guard.direct visit.1 ⟨other, visit.2⟩ := by
  have hknown : Guard.Unfrozen (visits.map Prod.fst) composite.guard.remembered keys :=
    ⟨hunmixed.keepsOff, hnames, hpushes⟩
  rw [Visit.answers_eq hknown _ _ _ hsettled other, List.map_map]
  · rfl
  · exact List.forall_mem_map.mpr fun visit hvisit => List.mem_map_of_mem hvisit
  · exact List.forall_mem_map.mpr fun _ _ => every_guard hsees
  · exact List.forall_mem_map.mpr fun _ _ _ hg => hg

/-- There is an image, and the scope says that it is ready. -/
def readyImage : Composite :=
  .all [.leaf (.test (.hasFile "Dockerfile")), .leaf (.test (.scopeHolds "ready" (.bool true)))]

def readyScope : Scope := { values := [("ready", .bool true)] }

theorem readyImage_sees : ∀ g ∈ readyImage.leaves, g.Every (Sees Set.univ) := by
  simp only [readyImage, leaves, leavesAmong, List.forall_mem_append, List.forall_mem_singleton]
  refine ⟨(PushTest.hasFile_detached "Dockerfile").keepsOff.sees, ?_, List.forall_mem_nil _⟩
  exact fun _ => PushTest.scopeHolds_shows (Set.mem_univ "ready") (.bool true)

theorem readyImage_unmixed : readyImage.Unmixed Set.univ := by
  have hbare (t : PushTest) : (leaf (.test t)).Unmixed Set.univ :=
    fun _ h => absurd h List.not_mem_nil
  refine ⟨⟨hbare _, ?_⟩, ⟨hbare _, ?_⟩, trivial⟩
  · intro _
    exact List.forall_mem_singleton.mpr (PushTest.hasFile_detached "Dockerfile").keepsOff
  · intro hcost
    cases hcost

theorem readyImage_kept_apart :
    readyImage.Unmixed Set.univ ∧ (∀ g ∈ readyImage.leaves, g.Every (Sees Set.univ)) ∧
      Visit.answers [⟨readyImage.guard, Pool.imageContext, readyScope⟩,
          ⟨readyImage.guard, Pool.imageContext, {}⟩] {} =
        [.ok (.matched true), .ok (.matched false)] := by
  have hnames : Guard.SameNamed readyImage.guard.remembered :=
    Guard.sameNamed_of_nodup (by decide)
  have hpushes : Guard.SamePush
      ([(Pool.imageContext, readyScope), (Pool.imageContext, {})].map Prod.fst)
      readyImage.guard.remembered := by
    intro ctx hctx other hother _ _ g _
    simp only [List.map_cons, List.map_nil, List.mem_cons, List.not_mem_nil, or_false,
      or_self] at hctx hother
    rw [hctx, hother]
  have hsettled : ({} : Engine).caches.Settled
      ([(Pool.imageContext, readyScope), (Pool.imageContext, {})].map Prod.fst)
      readyImage.guard.remembered := Caches.empty_default.settled _ _
  refine ⟨readyImage_unmixed, readyImage_sees, ?_⟩
  exact scopes_are_kept_apart readyImage_unmixed readyImage_sees hnames hpushes hsettled {}

/-- As the one alternative of another test it is remembered as a whole, and the second
scope is answered out of the first. -/
theorem mixed_part_is_frozen :
    ¬ ∀ composite : Composite,
      (∀ g ∈ composite.leaves, g.cost = .expensive → g.Every Detached) →
      (∀ g ∈ composite.leaves, g.cost ≠ .expensive → g.Every (Sees Set.univ)) →
      Guard.SameNamed composite.guard.remembered → ∀ ctx : Context, ctx.id ≠ none →
      ∀ first second : Scope,
        Visit.answers [⟨composite.guard, ctx, first⟩, ⟨composite.guard, ctx, second⟩] {} =
          [composite.guard.direct ctx ⟨{}, first⟩, composite.guard.direct ctx ⟨{}, second⟩] := by
  intro hclaim
  have hsame := hclaim (.any [readyImage]) ?_ ?_ ?_ Pool.imageContext (by decide) readyScope {}
  · have hfrozen : [Except.ok (.matched true), .ok (.matched true)] =
        ([.ok (.matched true), .ok (.matched false)] :
          List (Except GoalError (Outcome Bool))) := hsame
    injection hfrozen with _ hrest
    injection hrest with hanswer _
    injection hanswer with houtcome
    injection houtcome with hvalue
    cases hvalue
  · change ∀ g ∈ readyImage.leaves, g.cost = .expensive → g.Every Detached
    simp only [readyImage, leaves, leavesAmong, List.forall_mem_append,
      List.forall_mem_singleton]
    refine ⟨fun _ => PushTest.hasFile_detached "Dockerfile", ?_, List.forall_mem_nil _⟩
    intro hcost
    cases hcost
  · exact fun g hg _ => readyImage_sees g hg
  · exact Guard.sameNamed_of_nodup (by decide)

end Composite

end PushGoals
