import PushGoals.Proofs.Guard.Memory

/-!
# Guards that remember nothing

`Guard.unremembered` is a guard with nothing remembered in it, and `Guard.direct`
what it answers in a pass.  A guard whose work does not hang on the scratch answers
directly what it means, in every pass.
-/

namespace PushGoals
namespace Guard

mutual

/-- The guard with nothing remembered in it. -/
def unremembered : Guard → Guard
  | .test t => .test t
  | .custom name cost run => .custom name cost run
  | .all parts => .all (unrememberedEach parts)
  | .any parts => .any (unrememberedEach parts)
  | .negation inner => .negation (unremembered inner)
  | .memo _ inner => unremembered inner
  | .prepared preparations inner => .prepared preparations (unremembered inner)
  | .mapped f inner => .mapped f (unremembered inner)

def unrememberedEach : List Guard → List Guard
  | [] => []
  | g :: rest => unremembered g :: unrememberedEach rest

end

@[simp] theorem unrememberedEach_eq_map (parts : List Guard) :
    unrememberedEach parts = parts.map unremembered := by
  induction parts with
  | nil => rfl
  | cons g rest ih => rw [unrememberedEach, ih, List.map_cons]

theorem answer_unremembered (guard : Guard) (ctx : Context) :
    guard.unremembered.answer ctx = guard.answer ctx := by
  have hparts {parts : List Guard}
      (ih : ∀ g ∈ parts, g.unremembered.answer ctx = g.answer ctx) :
      answers ctx (unrememberedEach parts) = answers ctx parts := by
    rw [unrememberedEach_eq_map, answers_eq_map, answers_eq_map, List.map_map]
    exact List.map_congr_left ih
  induction guard using Guard.induct with
  | test t => rfl
  | custom name cost run => rfl
  | all parts ih => rw [unremembered, answer, answer, hparts ih]
  | any parts ih => rw [unremembered, answer, answer, hparts ih]
  | negation inner ih => rw [unremembered, answer, answer, ih]
  | memo cache inner ih => exact ih
  | prepared preparations inner ih => exact ih
  | mapped f inner ih => rw [unremembered, answer, answer, ih]

theorem every_unremembered {P : {α : Type} → (Context → Probe α) → Prop} {guard : Guard}
    (hguard : guard.Every P) : guard.unremembered.Every P := by
  have hparts {parts : List Guard} (ih : ∀ g ∈ parts, g.Every P → g.unremembered.Every P)
      (hevery : EveryAmong P parts) : EveryAmong P (unrememberedEach parts) := by
    rw [unrememberedEach_eq_map, everyAmong_iff, List.forall_mem_map]
    exact fun g hg => ih g hg (everyAmong_iff.mp hevery g hg)
  induction guard using Guard.induct with
  | test t => exact hguard
  | custom name cost run => exact hguard
  | all parts ih => exact hparts ih hguard
  | any parts ih => exact hparts ih hguard
  | negation inner ih => exact ih hguard
  | memo cache inner ih => exact ih hguard
  | prepared preparations inner ih => exact ⟨hguard.1, ih hguard.2⟩
  | mapped f inner ih => exact ih hguard

theorem remembered_unremembered (guard : Guard) : guard.unremembered.remembered = [] := by
  have hparts {parts : List Guard} (ih : ∀ g ∈ parts, g.unremembered.remembered = []) :
      rememberedAmong (unrememberedEach parts) = [] := by
    rw [unrememberedEach_eq_map, rememberedAmong_eq_flatMap, List.flatMap_map]
    exact List.flatMap_eq_nil_iff.mpr ih
  induction guard using Guard.induct with
  | test t => rfl
  | custom name cost run => rfl
  | all parts ih => exact hparts ih
  | any parts ih => exact hparts ih
  | negation inner ih => exact ih
  | memo cache inner ih => exact ih
  | prepared preparations inner ih => exact ih
  | mapped f inner ih => exact ih

theorem every_remembered {P : {α : Type} → (Context → Probe α) → Prop} {guard : Guard}
    (hguard : guard.Every P) : ∀ g ∈ guard.remembered, g.Every P := by
  have hparts {parts : List Guard} (ih : ∀ g ∈ parts, g.Every P → ∀ h ∈ g.remembered, h.Every P)
      (hevery : EveryAmong P parts) : ∀ h ∈ rememberedAmong parts, h.Every P := by
    rw [rememberedAmong_eq_flatMap, List.forall_mem_flatMap]
    exact fun g hg => ih g hg (everyAmong_iff.mp hevery g hg)
  induction guard using Guard.induct with
  | test t => exact fun _ hg => nomatch hg
  | custom name cost run => exact fun _ hg => nomatch hg
  | all parts ih => exact hparts ih hguard
  | any parts ih => exact hparts ih hguard
  | negation inner ih => exact ih hguard
  | memo cache inner ih => exact List.forall_mem_cons.mpr ⟨hguard, ih hguard⟩
  | prepared preparations inner ih => exact ih hguard.2
  | mapped f inner ih => exact ih hguard

/-- What the guard answers in a pass when nothing is remembered. -/
def direct (guard : Guard) (ctx : Context) (p : Pass) : Except GoalError (Outcome Bool) :=
  ((guard.unremembered.eval ctx).run.run p).1

theorem direct_eq {guard : Guard} (hfree : guard.Every ScopeFree) (ctx : Context) (p : Pass) :
    guard.direct ctx p = guard.answer ctx := by
  have hnames : SameNamed [] := fun _ hg => nomatch hg
  have hknown : ∀ g ∈ guard.unremembered.remembered, g ∈ [] := by
    rw [remembered_unremembered]
    exact fun _ hg => hg
  have hp : p.Faithful ctx [] p.scope.policy := ⟨rfl, fun _ _ _ _ hg => nomatch hg⟩
  rw [← answer_unremembered]
  exact (eval_gives (every_unremembered hfree) hnames hknown p hp).1

end Guard
end PushGoals
