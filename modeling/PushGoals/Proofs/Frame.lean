import PushGoals.Proofs.Prediction.Lockstep

/-!
# What evaluation leaves alone

A pass beside itself is the simplest pair in lockstep: what the rules of lockstep
say of such a pair is that a property of passes is kept.  So work that leaves a key
of the scope alone makes a rule that leaves it alone, and a guard whose work leaves
the whole scope alone does so too.
-/

namespace PushGoals

variable {α : Type} {inv : Pass → Prop}

/-- A pass with `inv` beside itself. -/
def Pass.Alone (inv : Pass → Prop) (p q : Pass) : Prop := p = q ∧ inv p

theorem Eval.InStep.alone {inv' : Pass → Prop} {step : Eval α}
    (hstep : ∀ p, inv p → inv' (step.run.run p).2) :
    InStep (Pass.Alone inv) (Pass.Alone inv') step := by
  rintro p _ ⟨rfl, hp⟩
  exact ⟨rfl, rfl, hstep p hp⟩

theorem Work.Lockstep.alone {work : Work α} (hwork : ∀ p, inv p → inv (work.run p).2) :
    Lockstep (Pass.Alone inv) (Pass.Alone inv) (· = ·) work work := by
  rintro p _ ⟨rfl, hp⟩
  exact ⟨rfl, rfl, hwork p hp⟩

theorem Work.Lockstep.keeps {post : α → α → Prop} {work : Work α}
    (hwork : Lockstep (Pass.Alone inv) (Pass.Alone inv) post work work) {p : Pass} (hp : inv p) :
    inv (work.run p).2 :=
  (hwork p p ⟨rfl, hp⟩).2.2

theorem steady_alone (hemit : ∀ p e, inv p → inv (p.emit e))
    (hisolate : ∀ p name e, inv p → inv ((Eval.isolate name e).run p).2) :
    Steady True (Pass.Alone inv) where
  policy hpq := congrArg (·.scope.policy) hpq.1
  learned _ hpq := congrArg (·.engine.learned) hpq.1
  emit hsame hpq := by
    obtain ⟨rfl, hp⟩ := hpq
    rw [hsame trivial]
    exact ⟨rfl, hemit _ _ hp⟩
  isolate e hsame hpq := by
    obtain ⟨rfl, hp⟩ := hpq
    rw [hsame trivial]
    exact ⟨rfl, hisolate _ _ e hp⟩

theorem Rule.every_of_forall {V : Type} {P : {α : Type} → (Context → Probe α) → Prop}
    (hall : ∀ {α : Type} (work : Context → Probe α), P work) (rule : Rule V) : rule.Every P := by
  have hguard (guard : Guard) : guard.Every P := guard.every_of_forall hall
  induction rule using Rule.induct with
  | fixed guard reason value => exact hguard guard
  | halting guard reason => exact hguard guard
  | computed key guard reason compute => exact ⟨hguard guard, fun _ => hall _⟩
  | firstMatch name rules ih => exact everyAmong_iff.mpr ih
  | allMatches name contributors ih => exact everyAmong_iff.mpr ih
  | enriched name base extension ihBase ihExtension => exact ⟨ihBase, ihExtension⟩
  | leaf name guard hook value => exact ⟨hguard guard, fun work _ => hall work⟩
  | branch name guard hook children ih =>
      exact ⟨hguard guard, fun work _ => hall work, everyAmong_iff.mpr ih⟩
  | mapped f inner ih => exact ih
  | custom name cost run => exact hall run

theorem Guard.Every.imp {P Q : {α : Type} → (Context → Probe α) → Prop} {guard : Guard}
    (himp : ∀ {α : Type} {work : Context → Probe α}, P work → Q work) (hguard : guard.Every P) :
    guard.Every Q := by
  have hformula {parts : List Guard} (ih : ∀ g ∈ parts, g.Every P → g.Every Q)
      (hparts : EveryAmong P parts) : EveryAmong Q parts :=
    everyAmong_iff.mpr fun g hg => ih g hg (everyAmong_iff.mp hparts g hg)
  induction guard using Guard.induct with
  | test t => exact himp hguard
  | custom name cost run => exact himp hguard
  | all parts ih => exact hformula ih hguard
  | any parts ih => exact hformula ih hguard
  | negation inner ih => exact ih hguard
  | memo cache inner ih => exact ih hguard
  | prepared preparations inner ih => exact ⟨himp hguard.1, ih hguard.2⟩
  | mapped f inner ih => exact ih hguard

theorem Guard.remembered_subset {guard inner : Guard} (hinner : inner ∈ guard.remembered) :
    inner.remembered ⊆ guard.remembered := by
  have hformula {parts : List Guard}
      (ih : ∀ g ∈ parts, inner ∈ g.remembered → inner.remembered ⊆ g.remembered)
      (hinner : inner ∈ rememberedAmong parts) :
      inner.remembered ⊆ rememberedAmong parts := by
    rw [rememberedAmong_eq_flatMap] at hinner ⊢
    obtain ⟨g, hg, hmem⟩ := List.mem_flatMap.mp hinner
    exact fun h hh => List.mem_flatMap_of_mem hg (ih g hg hmem hh)
  induction guard using Guard.induct with
  | test t => cases hinner
  | custom name cost run => cases hinner
  | all parts ih => exact hformula ih hinner
  | any parts ih => exact hformula ih hinner
  | negation part ih => exact ih hinner
  | memo cache part ih =>
      rcases List.mem_cons.mp hinner with rfl | hinside
      · exact List.subset_cons_self _ _
      · exact fun h hh => List.mem_cons_of_mem part (ih hinside hh)
  | prepared preparations part ih => exact ih hinner
  | mapped f part ih => exact ih hinner

theorem Rule.remembered_subset {V : Type} {rule : Rule V} {inner : Guard}
    (hinner : inner ∈ rule.remembered) : inner.remembered ⊆ rule.remembered := by
  have hmembers {rules : List (Rule V)}
      (ih : ∀ rule ∈ rules, inner ∈ rule.remembered → inner.remembered ⊆ rule.remembered)
      (hinner : inner ∈ rememberedAmong rules) :
      inner.remembered ⊆ rememberedAmong rules := by
    rw [rememberedAmong_eq_flatMap] at hinner ⊢
    obtain ⟨rule, hrule, hmem⟩ := List.mem_flatMap.mp hinner
    exact fun h hh => List.mem_flatMap_of_mem hrule (ih rule hrule hmem hh)
  induction rule using Rule.induct with
  | fixed guard reason value => exact Guard.remembered_subset hinner
  | halting guard reason => exact Guard.remembered_subset hinner
  | computed key guard reason compute => exact Guard.remembered_subset hinner
  | firstMatch name rules ih => exact hmembers ih hinner
  | allMatches name contributors ih => exact hmembers ih hinner
  | enriched name base extension ihBase ihExtension =>
      rcases List.mem_append.mp hinner with hbase | hextension
      · exact fun h hh => List.mem_append_left _ (ihBase hbase hh)
      · exact fun h hh => List.mem_append_right _ (ihExtension hextension hh)
  | leaf name guard hook value => exact Guard.remembered_subset hinner
  | branch name guard hook children ih =>
      rcases List.mem_append.mp hinner with hguard | hchildren
      · exact fun h hh => List.mem_append_left _ (Guard.remembered_subset hguard hh)
      · exact fun h hh => List.mem_append_right _ (hmembers ih hchildren hh)
  | mapped f part ih => exact ih hinner
  | custom name cost run => cases hinner

theorem Rule.remembered_within {V : Type} {rules : List (Rule V)} :
    ∀ guard ∈ rules.flatMap Rule.remembered,
      guard.remembered ⊆ rules.flatMap Rule.remembered := by
  intro guard hguard inner hinner
  obtain ⟨rule, hrule, hmem⟩ := List.mem_flatMap.mp hguard
  exact List.mem_flatMap_of_mem hrule (Rule.remembered_subset hmem hinner)

/-! ## The values of the scope -/

/-- The scopes have the same values under `keys`. -/
def ScopeValues.AgreeOn (keys : Set String) (s t : ScopeValues) : Prop :=
  ∀ key ∈ keys, s.get? key = t.get? key

namespace ScopeValues.AgreeOn

variable {keys more : Set String} {s t u : ScopeValues}

theorem refl (s : ScopeValues) : s.AgreeOn keys s := fun _ _ => rfl

theorem symm (hagree : s.AgreeOn keys t) : t.AgreeOn keys s :=
  fun key hkey => (hagree key hkey).symm

theorem trans (hst : s.AgreeOn keys t) (htu : t.AgreeOn keys u) : s.AgreeOn keys u :=
  fun key hkey => (hst key hkey).trans (htu key hkey)

theorem mono (hagree : s.AgreeOn more t) (hkeys : keys ⊆ more) : s.AgreeOn keys t :=
  fun key hkey => hagree key (hkeys hkey)

end ScopeValues.AgreeOn

/-- The work leaves what stands under `keys` as it is. -/
def Leaves (keys : Set String) (work : Context → Probe α) : Prop :=
  ∀ ctx scratch, ((work ctx).run scratch).2.values.AgreeOn keys scratch.values

namespace Leaves

variable {β : Type} {keys : Set String} {key : String}

theorem ofExcept (answer : Context → Except GoalError α) :
    Leaves keys fun ctx => Probe.ofExcept (answer ctx) := fun _ _ => .refl _

theorem pure (a : α) : Leaves keys fun _ => (Pure.pure a : Probe α) := fun _ _ => .refl _

theorem get? (key : String) : Leaves keys fun _ => Probe.get? key := fun _ _ => .refl _

theorem set (hkey : key ∉ keys) (v : Value) : Leaves keys fun _ => Probe.set key v :=
  fun _ scratch _ hother => ScopeValues.get?_set_of_ne (ne_of_mem_of_not_mem hother hkey)
    scratch.values v

theorem increment (hkey : key ∉ keys) : Leaves keys fun _ => Probe.increment key :=
  fun _ scratch _ hother => ScopeValues.get?_set_of_ne (ne_of_mem_of_not_mem hother hkey)
    scratch.values _

theorem bind {work : Context → Probe α} {next : Context → α → Probe β} (hwork : Leaves keys work)
    (hnext : ∀ a, Leaves keys fun ctx => next ctx a) :
    Leaves keys fun ctx => work ctx >>= next ctx := by
  intro ctx scratch
  have hkept := hwork ctx scratch
  rw [Probe.run_bind]
  cases ((work ctx).run scratch).1 with
  | error e => exact hkept
  | ok a => exact (hnext a ctx _).trans hkept

end Leaves

/-- The rule is over work with property `P`, or else over work that leaves `keys` alone. -/
def Rule.Discreet {V : Type} (P : {α : Type} → (Context → Probe α) → Prop) (keys : Set String)
    (rule : Rule V) : Prop :=
  rule.Every P ∨ rule.Every (Leaves keys)

theorem Rule.Discreet.of_mem {V : Type} {P : {α : Type} → (Context → Probe α) → Prop}
    {keys : Set String} {name : String} {rules : List (Rule V)}
    (hrules : Discreet P keys (.firstMatch name rules)) {rule : Rule V} (hmem : rule ∈ rules) :
    rule.Discreet P keys :=
  hrules.imp (everyAmong_iff.mp · rule hmem) (everyAmong_iff.mp · rule hmem)

/-- Work that neither asks for values of the scope nor changes them. -/
structure Detached (work : Context → Probe α) : Prop where
  scopeFree : ScopeFree work
  values : ∀ ctx scratch, ((work ctx).run scratch).2.values = scratch.values

namespace Detached

variable {β : Type}

theorem ofExcept (answer : Context → Except GoalError α) :
    Detached fun ctx => Probe.ofExcept (answer ctx) :=
  ⟨fun _ _ => rfl, fun _ _ => rfl⟩

theorem pure (a : α) : Detached fun _ => (Pure.pure a : Probe α) :=
  ⟨fun _ _ => rfl, fun _ _ => rfl⟩

theorem bind {work : Context → Probe α} {next : Context → α → Probe β} (hwork : Detached work)
    (hnext : ∀ a, Detached fun ctx => next ctx a) :
    Detached fun ctx => work ctx >>= next ctx := by
  have hrun (ctx : Context) (scratch : Scratch) : (work ctx >>= next ctx).run scratch =
      ExceptT.bindCont (next ctx) (work ctx).answer ((work ctx).run scratch).2 := by
    rw [Probe.run_bind, hwork.scopeFree ctx scratch]
  constructor
  · intro ctx scratch
    unfold Probe.answer
    rw [hrun, hrun]
    cases (work ctx).answer with
    | error e => rfl
    | ok a =>
        exact ((hnext a).scopeFree ctx _).trans ((hnext a).scopeFree ctx _).symm
  · intro ctx scratch
    have hkept := hwork.values ctx scratch
    rw [hrun]
    cases (work ctx).answer with
    | error e => exact hkept
    | ok a => exact ((hnext a).values ctx _).trans hkept

end Detached

section Alone

variable {V : Type} {ctx : Context} {P : {α : Type} → (Context → Probe α) → Prop}

/-- What log, failures, names, caches and work all keep is kept by a rule. -/
theorem Rule.inStep_alone {rule : Rule V} (hemit : ∀ p e, inv p → inv (p.emit e))
    (hisolate : ∀ p name e, inv p → inv ((Eval.isolate name e).run p).2)
    (hlearn : ∀ p key name, inv p → inv ((Eval.learn key name).run p).2)
    (hmemo : Guard.RememberedInStep (Pass.Alone inv) ctx rule.remembered)
    (hwork : ∀ {α : Type} {work : Context → Probe α}, P work →
      ∀ p, inv p → inv ((Eval.ofProbe (work ctx)).run.run p).2)
    (hrule : rule.Every P) : rule.InStep True ctx (Pass.Alone inv) := by
  have hprobe {α : Type} {work : Context → Probe α} (hP : P work) :
      Eval.InStep (Pass.Alone inv) (Pass.Alone inv) (Eval.ofProbe (work ctx)) :=
    .alone fun p hp => hwork hP p hp
  apply Rule.inStep_of_every (steady_alone hemit hisolate) hprobe hmemo _ hrule
  intro key guard reason compute _ hP
  apply (hprobe (hP _)).bind _ (le_refl _)
  intro given
  have hnamed : Work.Lockstep (Pass.Alone inv) (Pass.Alone inv) (· = ·) (Eval.learn key given.1)
      (Eval.learn key given.1) := .alone fun p hp => hlearn p key given.1 hp
  exact Eval.InStep.lift_bind hnamed fun _ _ _ => Eval.InStep.ok (le_refl _) _

theorem Eval.learn_scope (key : RuleKey) (name : Option String) (p : Pass) :
    ((learn key name).run p).2.scope = p.scope := by
  cases name <;> rfl

/-- Caches hold nothing of the scope. -/
theorem Guard.rememberedInStep_of_scope (inv : FailurePolicy → ScopeValues → Prop)
    (guards : List Guard) :
    RememberedInStep (Pass.Alone fun p => inv p.scope.policy p.scope.values) ctx guards := by
  intro ref guard _ hguard
  apply Eval.memoized_inStep _ _ hguard
  · exact fun _ _ => .alone fun _ hp => hp
  · exact fun _ _ _ => .alone fun _ hp => hp

/-- A property of the scope that work keeps is kept by rules over such work. -/
theorem Rule.inStep_of_scope (ctx : Context) (inv : FailurePolicy → ScopeValues → Prop)
    {rule : Rule V}
    (hwork : ∀ {α : Type} {work : Context → Probe α}, P work → ∀ policy scratch,
      inv policy scratch.values → inv policy ((work ctx).run scratch).2.values)
    (hrule : rule.Every P) :
    rule.InStep True ctx (Pass.Alone fun p => inv p.scope.policy p.scope.values) := by
  apply Rule.inStep_alone _ _ _ (Guard.rememberedInStep_of_scope inv _) _ hrule
  · exact fun _ _ hp => hp
  · exact fun _ _ _ hp => hp
  · intro p key name hp
    rw [Eval.learn_scope]
    exact hp
  · exact fun hP p hp => hwork hP p.scope.policy p.scratch hp

section Policy

theorem steady_policy (policy : FailurePolicy) :
    Steady True (Pass.Alone fun q => q.scope.policy = policy) :=
  steady_alone (fun _ _ hq => hq) fun _ _ _ hq => hq

theorem Rule.inStep_policy (rule : Rule V) (ctx : Context) (policy : FailurePolicy) :
    rule.InStep True ctx (Pass.Alone fun q => q.scope.policy = policy) :=
  Rule.inStep_of_scope ctx (fun later _ => later = policy) (fun _ _ _ hq => hq)
    (rule.every_of_forall fun _ => trivial)

variable [Contribution V] (rule : Rule V) (ctx : Context) (p : Pass)

theorem Rule.eval_policy : ((rule.eval ctx).run.run p).2.scope.policy = p.scope.policy :=
  (Rule.eval_inStep (steady_policy _) (rule.inStep_policy ctx _)).keeps rfl

theorem Rule.supervise_policy :
    ((rule.supervise (rule.eval ctx)).run.run p).2.scope.policy = p.scope.policy :=
  ((steady_policy _).supervise rule
    (Rule.eval_inStep (steady_policy _) (rule.inStep_policy ctx _))).keeps rfl

end Policy

end Alone

/-- A detached guard leaves the values of the scope alone, remembered or not. -/
theorem Guard.memoized_values {ctx : Context} {guard : Guard} (hguard : guard.Every Detached)
    (ref : CacheRef) (p : Pass) :
    ((Eval.memoized ctx ref guard.name (guard.eval ctx)).run.run p).2.scope.values =
      p.scope.values := by
  have hwork {α : Type} {work : Context → Probe α} (hdetached : Detached work) :
      Eval.InStep (Pass.Alone fun q => q.scope.values = p.scope.values)
        (Pass.Alone fun q => q.scope.values = p.scope.values) (Eval.ofProbe (work ctx)) :=
    .alone fun q hq => (hdetached.values ctx q.scratch).trans hq
  have hmemo (guards : List Guard) :
      RememberedInStep (Pass.Alone fun q => q.scope.values = p.scope.values) ctx guards :=
    rememberedInStep_of_scope (fun _ values => values = p.scope.values) guards
  have hstep := hmemo [guard] ref guard List.mem_cons_self (eval_inStep hwork (hmemo _) hguard)
  exact hstep.keeps rfl

/-! ## Caches -/

section Memorable

variable {ctx : Context} {known : List Guard} {policy : FailurePolicy}

/-- Tests that may be remembered: they do not hang on the scope, and those of one name
are the same test. -/
structure Guard.Memorable (known : List Guard) : Prop where
  scopeFree : ∀ guard ∈ known, guard.Every ScopeFree
  sameNamed : Guard.SameNamed known
  within : ∀ guard ∈ known, guard.remembered ⊆ known

namespace Guard.Memorable

theorem memoized_gives (hknown : Guard.Memorable known) {guard : Guard} (hguard : guard ∈ known)
    (ref : CacheRef) :
    Eval.Gives (Pass.Faithful ctx known policy)
      (Eval.memoized ctx ref guard.name (guard.eval ctx)) (guard.answer ctx) :=
  Eval.memoized_gives hknown.sameNamed hguard ref
    (Guard.eval_gives (hknown.scopeFree guard hguard) hknown.sameNamed
      (hknown.within guard hguard))

theorem rememberedInStep (hknown : Guard.Memorable known) {guards : List Guard}
    (hguards : guards ⊆ known) :
    Guard.RememberedInStep (Pass.Alone (Pass.Faithful ctx known policy)) ctx guards := by
  rintro ref guard hguard _ p _ ⟨rfl, hp⟩
  exact ⟨rfl, rfl, (hknown.memoized_gives (hguards hguard) ref p hp).2⟩

/-- Caches stay truthful, whatever rules ask of the scope. -/
theorem classify_faithful (hknown : Guard.Memorable known) {rule : GoalRule}
    (hmem : rule.remembered ⊆ known) {p : Pass} (hp : p.Faithful ctx known .failFast) :
    ((rule.classify ctx).run p).2.Faithful ctx known .failFast := by
  have hemit (q : Pass) (e : Event) (hq : q.Faithful ctx known .failFast) :
      (q.emit e).Faithful ctx known .failFast := ⟨hq.policy, hq.caches⟩
  have hisolate (q : Pass) (name : String) (e : GoalError)
      (hq : q.Faithful ctx known .failFast) :
      ((Eval.isolate name e).run q).2.Faithful ctx known .failFast := ⟨hq.policy, hq.caches⟩
  have hlearn (q : Pass) (key : RuleKey) (name : Option String)
      (hq : q.Faithful ctx known .failFast) :
      ((Eval.learn key name).run q).2.Faithful ctx known .failFast :=
    (Eval.learn_yields key name q hq).2
  have hrule : rule.InStep True ctx (Pass.Alone (Pass.Faithful ctx known .failFast)) :=
    Rule.inStep_alone hemit hisolate hlearn (hknown.rememberedInStep hmem)
      (fun _ q hq => ⟨hq.policy, hq.caches⟩) (rule.every_of_forall fun _ => trivial)
  exact (Rule.classify_inStep (steady_alone hemit hisolate) hrule).keeps hp

end Guard.Memorable

end Memorable

end PushGoals
