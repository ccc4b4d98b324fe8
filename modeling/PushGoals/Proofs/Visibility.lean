import Mathlib.Data.Set.Insert
import PushGoals.Proofs.Frame
import PushGoals.Proofs.Guard.Standard

/-!
# What work sees of the scope

Work sees certain keys of the scope when its answer hangs on their values alone.  It
shows more keys when, besides, what it leaves under them is settled by what it saw.
A preparation or a hook shows the keys that it writes to whatever stands behind it.

Two pieces of work are compared here, which may be one piece for two contexts, and
their answers are in a relation that survives putting answers together: they are
the same, or the second keeps what the first one knew.
-/

namespace PushGoals

variable {α β : Type} {keys seen more : Set String} {ctx later : Context}
  {Q : {α : Type} → Except GoalError α → Except GoalError α → Prop}

def SameAnswer {α : Type} (answer again : Except GoalError α) : Prop := answer = again

theorem SameAnswer.compositional : Compositional SameAnswer where
  ok _ := rfl
  bind {_ _ answer _ next nextAgain} hanswer hnext := by
    cases hanswer
    cases answer with
    | error e => rfl
    | ok a => exact hnext a rfl

/-- From scopes that agree on `keys` the probes give answers in `Q` and lead to scopes
that agree on `more`. -/
def Probe.Shows (Q : {α : Type} → Except GoalError α → Except GoalError α → Prop)
    (keys more : Set String) (probe again : Probe α) : Prop :=
  ∀ s t : Scratch, s.values.AgreeOn keys t.values →
    Q (probe.run s).1 (again.run t).1 ∧ (probe.run s).2.values.AgreeOn more (again.run t).2.values

namespace Probe.Shows

theorem mono {fewer wider : Set String} {probe again : Probe α}
    (hprobe : probe.Shows Q keys more again) (hkeys : keys ⊆ wider) (hmore : fewer ⊆ more) :
    probe.Shows Q wider fewer again := by
  intro s t hagree
  obtain ⟨hanswer, hthen⟩ := hprobe s t (hagree.mono hkeys)
  exact ⟨hanswer, hthen.mono hmore⟩

/-- Work that gives the same answer shows what it shows for any relation that holds
between equal answers. -/
theorem of_same {probe again : Probe α} (hprobe : probe.Shows SameAnswer keys more again)
    (hrefl : ∀ answer : Except GoalError α, Q answer answer) : probe.Shows Q keys more again := by
  intro s t hagree
  obtain ⟨hanswer, hthen⟩ := hprobe s t hagree
  refine ⟨?_, hthen⟩
  rw [show (again.run t).1 = (probe.run s).1 from hanswer.symm]
  exact hrefl _

theorem of_detached {work : Context → Probe α} (hwork : Detached work)
    (hanswer : Q (work ctx).answer (work later).answer) :
    (work ctx).Shows Q keys keys (work later) := by
  intro s t hagree
  rw [hwork.scopeFree ctx s, hwork.scopeFree later t, hwork.values, hwork.values]
  exact ⟨hanswer, hagree⟩

theorem pure (a : α) : (Pure.pure a : Probe α).Shows SameAnswer keys keys (Pure.pure a) :=
  fun _ _ hagree => ⟨rfl, hagree⟩

theorem ofExcept (answer : Except GoalError α) :
    (Probe.ofExcept answer).Shows SameAnswer keys keys (Probe.ofExcept answer) :=
  fun _ _ hagree => ⟨rfl, hagree⟩

theorem bind {probe : Probe α} {next : α → Probe β}
    (hprobe : probe.Shows SameAnswer keys seen probe)
    (hnext : ∀ a, (next a).Shows SameAnswer seen more (next a)) (hmore : more ⊆ seen) :
    (probe >>= next).Shows SameAnswer keys more (probe >>= next) := by
  intro s t hagree
  obtain ⟨hanswer, hthen⟩ := hprobe s t hagree
  rw [Probe.run_bind, Probe.run_bind, show (probe.run s).1 = (probe.run t).1 from hanswer]
  cases (probe.run t).1 with
  | error e => exact ⟨rfl, hthen.mono hmore⟩
  | ok a => exact hnext a _ _ hthen

theorem get? {key : String} (hkey : key ∈ keys) :
    (Probe.get? key).Shows SameAnswer keys keys (Probe.get? key) := by
  intro s t hagree
  refine ⟨?_, hagree⟩
  change Except.ok (s.values.get? key) = Except.ok (t.values.get? key)
  rw [hagree key hkey]

theorem set (key : String) (v : Value) :
    (Probe.set key v).Shows SameAnswer keys (insert key keys) (Probe.set key v) := by
  intro s t hagree
  refine ⟨rfl, ?_⟩
  intro other hother
  change (s.values.set key v).get? other = (t.values.set key v).get? other
  by_cases heq : other = key
  · rw [heq, ScopeValues.get?_set_self, ScopeValues.get?_set_self]
  · rw [ScopeValues.get?_set_of_ne heq, ScopeValues.get?_set_of_ne heq]
    exact hagree other ((Set.mem_insert_iff.mp hother).resolve_left heq)

theorem increment {key : String} (hkey : key ∈ keys) :
    (Probe.increment key).Shows SameAnswer keys keys (Probe.increment key) := by
  intro s t hagree
  have hsuccessor : s.values.successor key = t.values.successor key := by
    rw [ScopeValues.successor, ScopeValues.successor, hagree key hkey]
  have hset : (s.values.set key (.ofInt (s.values.successor key))).AgreeOn (insert key keys)
      (t.values.set key (.ofInt (s.values.successor key))) :=
    (set key (.ofInt (s.values.successor key)) s t hagree).2
  constructor
  · exact congrArg Except.ok hsuccessor
  · change (s.values.set key _).AgreeOn keys (t.values.set key _)
    rw [← hsuccessor]
    exact hset.mono (Set.subset_insert key keys)

end Probe.Shows

namespace PushTest

/-- Does the value `v` stand under `key`? -/
def scopeHolds (key : String) (v : Value) : PushTest where
  name := "scopeHolds(" ++ key ++ ")"
  cost := .cheap
  run _ := do return (← Probe.get? key).any v.same

theorem scopeHolds_shows {key : String} (hkey : key ∈ keys) (v : Value) :
    ((scopeHolds key v).run ctx).Shows SameAnswer keys keys ((scopeHolds key v).run later) :=
  (Probe.Shows.get? hkey).bind (fun _ => .pure _) (le_refl keys)

theorem toBranch_detached (branch : String) : Detached (toBranch branch).run :=
  (Detached.ofExcept _).bind fun _ => .pure _

theorem toBranch_leaves (branch : String) : Leaves keys (toBranch branch).run :=
  (Leaves.ofExcept _).bind fun _ => .pure _

theorem scopeHolds_leaves (key : String) (v : Value) : Leaves keys (scopeHolds key v).run :=
  (Leaves.get? key).bind fun _ => .pure _

end PushTest

theorem Eval.map_lockstep {R S : Pass → Pass → Prop} (hQ : Compositional Q) {step again : Eval α}
    (hstep : Work.Lockstep R S Q step.run again.run) (f : α → β) :
    Work.Lockstep R S Q (do let given ← step; return f given : Eval β).run
      (do let given ← again; return f given : Eval β).run := by
  intro p q hpq
  obtain ⟨hanswer, hthen⟩ := hstep p q hpq
  rw [Eval.run_map, Eval.run_map]
  exact ⟨hQ.map hanswer f, hthen⟩

namespace Guard

mutual

/-- The guard sees `keys` and shows `more`. -/
def Shows (Q : {α : Type} → Except GoalError α → Except GoalError α → Prop)
    (ctx later : Context) : Set String → Set String → Guard → Prop
  | keys, more, .test t => keys ⊆ more ∧ (t.run ctx).Shows Q keys more (t.run later)
  | keys, more, .custom _ _ run => keys ⊆ more ∧ (run ctx).Shows Q keys more (run later)
  | keys, more, .all parts => ShowAmong Q ctx later keys more parts
  | keys, more, .any parts => ShowAmong Q ctx later keys more parts
  | keys, more, .negation inner => Shows Q ctx later keys more inner
  -- What is remembered is not run again, and then shows nothing.
  | keys, more, .memo _ inner => keys = more ∧ ∃ inside, Shows Q ctx later keys inside inner
  | keys, more, .prepared preparations inner =>
      ∃ seen, keys ⊆ seen ∧
        (modify (Preparation.runAll preparations) : Probe Unit).Shows
          Q keys seen (modify (Preparation.runAll preparations)) ∧
        Shows Q ctx later seen more inner
  | keys, more, .mapped _ inner => Shows Q ctx later keys more inner

def ShowAmong (Q : {α : Type} → Except GoalError α → Except GoalError α → Prop)
    (ctx later : Context) : Set String → Set String → List Guard → Prop
  | keys, more, [] => keys = more
  | keys, more, guard :: rest =>
      ∃ seen, Shows Q ctx later keys seen guard ∧ ShowAmong Q ctx later seen more rest

end

theorem Shows.subset {guard : Guard} (hguard : guard.Shows Q ctx later keys more) :
    keys ⊆ more := by
  have hformula {parts : List Guard}
      (ih : ∀ g ∈ parts, ∀ {keys more : Set String}, g.Shows Q ctx later keys more → keys ⊆ more)
      {keys more : Set String} (hparts : ShowAmong Q ctx later keys more parts) :
      keys ⊆ more := by
    induction parts generalizing keys with
    | nil => exact subset_of_eq hparts
    | cons g rest ihRest =>
        obtain ⟨seen, hhead, hrest⟩ := hparts
        obtain ⟨ihHead, ihTail⟩ := List.forall_mem_cons.mp ih
        exact (ihHead hhead).trans (ihRest ihTail hrest)
  induction guard using Guard.induct generalizing keys more with
  | test t => exact hguard.1
  | custom name cost run => exact hguard.1
  | all parts ih => exact hformula ih hguard
  | any parts ih => exact hformula ih hguard
  | negation inner ih => exact ih hguard
  | memo cache inner ih => exact subset_of_eq hguard.1
  | prepared preparations inner ih =>
      obtain ⟨seen, hseen, _, hinner⟩ := hguard
      exact hseen.trans (ih hinner)
  | mapped f inner ih => exact ih hguard

/-- Where answers of the guards come from a cache, they are related as well. -/
def RememberedLockstep (Q : {α : Type} → Except GoalError α → Except GoalError α → Prop)
    (ctx later : Context) (R : Set String → Pass → Pass → Prop) (guards : List Guard) : Prop :=
  ∀ ref, ∀ guard ∈ guards, ∀ keys,
    Work.Lockstep (R keys) (R keys) Q (guard.eval ctx).run (guard.eval later).run →
      Work.Lockstep (R keys) (R keys) Q
        (Eval.memoized ctx ref guard.name (guard.eval ctx)).run
        (Eval.memoized later ref guard.name (guard.eval later)).run

theorem RememberedLockstep.mono {R : Set String → Pass → Pass → Prop} {guards fewer : List Guard}
    (hguards : RememberedLockstep Q ctx later R guards) (hfewer : fewer ⊆ guards) :
    RememberedLockstep Q ctx later R fewer :=
  fun ref guard hguard => hguards ref guard (hfewer hguard)

section Evaluation

variable {R : Set String → Pass → Pass → Prop} (hQ : Compositional Q)

include hQ

/-- Where passes agree on what a guard sees, its answers are related and they agree on
what it shows, as long as remembering its parts does no harm. -/
theorem eval_shows {guard : Guard}
    (hmono : ∀ {keys more : Set String}, keys ⊆ more → R more ≤ R keys)
    (hprobe : ∀ {α : Type} {keys more : Set String} {probe again : Probe α},
      probe.Shows Q keys more again →
        Work.Lockstep (R keys) (R more) Q (Eval.ofProbe probe).run (Eval.ofProbe again).run)
    (hmemo : RememberedLockstep Q ctx later R guard.remembered)
    (hguard : guard.Shows Q ctx later keys more) :
    Work.Lockstep (R keys) (R more) Q (guard.eval ctx).run (guard.eval later).run := by
  have hformula {parts : List Guard}
      (ih : ∀ g ∈ parts, ∀ {keys more : Set String},
        RememberedLockstep Q ctx later R g.remembered → g.Shows Q ctx later keys more →
          Work.Lockstep (R keys) (R more) Q (g.eval ctx).run (g.eval later).run)
      (hmemo : RememberedLockstep Q ctx later R (rememberedAmong parts))
      {keys more : Set String} (hparts : ShowAmong Q ctx later keys more parts) :
      Work.Lockstep (R keys) (R more) Q (Eval.allSettled (evalEach ctx parts)).run
        (Eval.allSettled (evalEach later parts)).run := by
    have hsettle : Work.Lockstep (R keys) (R more) (List.Forall₂ Q)
        (Eval.settle (evalEach ctx parts)) (Eval.settle (evalEach later parts)) := by
      induction parts generalizing keys with
      | nil =>
          have hsame : keys = more := hparts
          subst hsame
          exact Work.Lockstep.pure .nil
      | cons g rest ihRest =>
          obtain ⟨seen, hhead, hrest⟩ := hparts
          obtain ⟨ihHead, ihTail⟩ := List.forall_mem_cons.mp ih
          unfold evalEach Eval.settle
          apply (ihHead (hmemo.mono (List.subset_append_left _ _)) hhead).bind
          intro answer again hanswer
          apply (ihRest ihTail (hmemo.mono (List.subset_append_right _ _)) hrest).bind
          intro answers others hanswers
          exact Work.Lockstep.pure (.cons hanswer hanswers)
    intro p q hpq
    obtain ⟨hanswers, hthen⟩ := hsettle p q hpq
    rw [Eval.run_allSettled, Eval.run_allSettled]
    exact ⟨hQ.collect hanswers, hthen⟩
  induction guard using Guard.induct generalizing keys more with
  | test t => exact Eval.map_lockstep hQ (hprobe hguard.2) Outcome.matched
  | custom name cost run => exact hprobe hguard.2
  | all parts ih => exact Eval.map_lockstep hQ (hformula ih hmemo hguard) _
  | any parts ih => exact Eval.map_lockstep hQ (hformula ih hmemo hguard) _
  | negation inner ih => exact Eval.map_lockstep hQ (ih hmemo hguard) _
  | memo cache inner ih =>
      obtain ⟨rfl, inside, hinner⟩ := hguard
      apply hmemo cache inner List.mem_cons_self
      have hinside := ih (hmemo.mono (List.subset_cons_self inner _)) hinner
      exact hinside.mono (le_refl _) (hmono hinner.subset)
  | prepared preparations inner ih =>
      obtain ⟨seen, _, hprepared, hinner⟩ := hguard
      -- Preparations do not fail, so the guard inside is always reached.
      intro p q hpq
      obtain ⟨_, hafter⟩ := hprobe hprepared p q hpq
      exact ih hmemo hinner _ _ hafter
  | mapped f inner ih => exact Eval.map_lockstep hQ (ih hmemo hguard) _

end Evaluation

end Guard

end PushGoals
