import Mathlib.Data.List.Nodup
import PushGoals.Proofs.Guard.Answer
import PushGoals.Proofs.Passes

/-!
# Remembered answers are true

Caches are truthful for a context when every entry filed under its identity is
what the guards of that name answer.  Looking up and remembering keep caches
truthful, whichever entries are refreshed or make room, as long as guards of one
name answer alike.  So from truthful caches a guard whose tests do not hang on
the scratch evaluates to its meaning, remembered or not.
-/

namespace PushGoals

namespace PushTestCache

theorem mem_of_peek?_eq_some {cache : PushTestCache} {key : CacheKey} {v : Bool}
    (hpeek : cache.peek? key = some v) : (key, v) ∈ cache.entries := by
  obtain ⟨before, after, hsplit, _⟩ := List.lookup_eq_some_iff.mp hpeek
  rw [hsplit]
  exact List.mem_append_right _ List.mem_cons_self

@[simp] theorem get_fst (cache : PushTestCache) (key : CacheKey) :
    (cache.get key).1 = cache.peek? key := by
  unfold get
  cases cache.peek? key <;> rfl

theorem mem_entries_of_mem_get {cache : PushTestCache} {key : CacheKey} {entry : CacheKey × Bool}
    (hmem : entry ∈ (cache.get key).2.entries) : entry ∈ cache.entries := by
  unfold get at hmem
  cases hpeek : cache.peek? key with
  | none =>
      rw [hpeek] at hmem
      exact hmem
  | some v =>
      rw [hpeek] at hmem
      rcases List.mem_append.mp hmem with hold | hnew
      · exact List.mem_of_mem_filter hold
      · rw [List.mem_singleton.mp hnew]
        exact mem_of_peek?_eq_some hpeek

theorem mem_entries_of_mem_insert {cache : PushTestCache} {key : CacheKey} {v : Bool}
    {entry : CacheKey × Bool} (hmem : entry ∈ (cache.insert key v).entries) :
    entry ∈ cache.entries ∨ entry = (key, v) := by
  unfold insert at hmem
  rcases List.mem_append.mp (List.mem_of_mem_drop hmem) with hold | hnew
  · exact .inl (List.mem_of_mem_filter hold)
  · exact .inr (List.mem_singleton.mp hnew)

end PushTestCache

namespace Caches

@[simp] theorem get_set_self (caches : Caches) (ref : CacheRef) (cache : PushTestCache) :
    (caches.set ref cache).get ref = cache := by
  cases ref with
  | shared => rfl
  | named name => simp [set, get]

theorem lookup_filter_of_ne {name other : String} (hne : (other == name) = false)
    (entries : List (String × PushTestCache)) :
    (entries.filter (·.1 != name)).lookup other = entries.lookup other := by
  induction entries with
  | nil => rfl
  | cons entry rest ih =>
      obtain ⟨entryName, cache⟩ := entry
      by_cases hentry : entryName = name
      · subst entryName
        simp [List.lookup_cons, hne, ih]
      · simp [List.lookup_cons, hentry, ih]

theorem get_set_of_ne {ref other : CacheRef} (hne : other ≠ ref) (caches : Caches)
    (cache : PushTestCache) : (caches.set ref cache).get other = caches.get other := by
  cases ref with
  | shared =>
      cases other with
      | shared => exact absurd rfl hne
      | named _ => rfl
  | named name =>
      cases other with
      | shared => rfl
      | named otherName =>
          have hname : (otherName == name) = false :=
            beq_eq_false_iff_ne.mpr fun heq => hne (congrArg CacheRef.named heq)
          simp only [set, get, List.lookup_cons, hname]
          rw [lookup_filter_of_ne hname]

/-- Every entry for the push of `ctx` is what the guards of its name answer. -/
def Truthful (ctx : Context) (known : List Guard) (caches : Caches) : Prop :=
  ∀ ref, ∀ entry ∈ (caches.get ref).entries, ∀ guard ∈ known,
    ctx.id = some entry.1.push → entry.1.test = guard.name →
      guard.answer ctx = .ok (.matched entry.2)

def Empty (caches : Caches) : Prop := ∀ ref, (caches.get ref).entries = []

theorem empty_default : ({} : Caches).Empty := by
  intro ref
  cases ref <;> rfl

theorem Empty.truthful {caches : Caches} (hempty : caches.Empty) (ctx : Context)
    (known : List Guard) : caches.Truthful ctx known := by
  intro ref entry hentry
  rw [hempty ref] at hentry
  cases hentry

theorem Truthful.set {ctx : Context} {known : List Guard} {caches : Caches}
    (htrue : caches.Truthful ctx known) {ref : CacheRef} {cache : PushTestCache}
    (hcache : ∀ entry ∈ cache.entries, ∀ guard ∈ known,
      ctx.id = some entry.1.push → entry.1.test = guard.name →
        guard.answer ctx = .ok (.matched entry.2)) :
    (caches.set ref cache).Truthful ctx known := by
  intro other entry hentry
  by_cases hother : other = ref
  · subst other
    rw [get_set_self] at hentry
    exact hcache entry hentry
  · rw [get_set_of_ne hother] at hentry
    exact htrue other entry hentry

end Caches

/-- Guards of one name answer alike on every context. -/
def Guard.SameNamed (known : List Guard) : Prop :=
  ∀ g ∈ known, ∀ h ∈ known, g.name = h.name → ∀ ctx, g.answer ctx = h.answer ctx

theorem Guard.sameNamed_of_nodup {known : List Guard} (hnames : (known.map Guard.name).Nodup) :
    SameNamed known := by
  intro g hg h hh hname ctx
  rw [List.inj_on_of_nodup_map hnames hg hh hname]

/-- A pass under `policy` whose caches are truthful for `ctx`. -/
structure Pass.Faithful (ctx : Context) (known : List Guard) (policy : FailurePolicy)
    (p : Pass) : Prop where
  policy : p.scope.policy = policy
  caches : p.engine.caches.Truthful ctx known

namespace Eval

variable {α : Type} {ctx : Context} {known : List Guard} {policy : FailurePolicy}

theorem ofProbe_gives {work : Context → Probe α} (hwork : ScopeFree work) (ctx : Context) :
    Gives (Pass.Faithful ctx known policy) (ofProbe (work ctx)) (work ctx).answer :=
  fun _ hp => ⟨hwork ctx _, hp.policy, hp.caches⟩

theorem lookUp_yields {guard : Guard} (hguard : guard ∈ known) {id : PushId}
    (hid : ctx.id = some id) (ref : CacheRef) :
    Work.Yields (Pass.Faithful ctx known policy) (lookUp ref ⟨id, guard.name⟩)
      (fun hit => ∀ v, hit = some v → guard.answer ctx = .ok (.matched v)) := by
  intro p hp
  constructor
  · intro v hhit
    have hpeek : (p.engine.caches.get ref).peek? ⟨id, guard.name⟩ = some v := by
      rw [← PushTestCache.get_fst]
      exact hhit
    exact hp.caches ref _ (PushTestCache.mem_of_peek?_eq_some hpeek) guard hguard hid rfl
  · refine ⟨hp.policy, hp.caches.set ?_⟩
    intro entry hentry
    exact hp.caches ref entry (PushTestCache.mem_entries_of_mem_get hentry)

theorem remember_yields (hnames : Guard.SameNamed known) {guard : Guard} (hguard : guard ∈ known)
    {id : PushId} (ref : CacheRef) {v : Bool} (hanswer : guard.answer ctx = .ok (.matched v)) :
    Work.Yields (Pass.Faithful ctx known policy) (remember ref ⟨id, guard.name⟩ v)
      (fun _ => True) := by
  intro p hp
  refine ⟨trivial, hp.policy, hp.caches.set ?_⟩
  intro entry hentry other hother hpush htest
  rcases PushTestCache.mem_entries_of_mem_insert hentry with hold | hnew
  · exact hp.caches ref entry hold other hother hpush htest
  · subst hnew
    rw [← hnames guard hguard other hother htest ctx]
    exact hanswer

theorem memoized_gives (hnames : Guard.SameNamed known) {guard : Guard} (hguard : guard ∈ known)
    (ref : CacheRef) {step : Eval (Outcome Bool)}
    (hstep : Gives (Pass.Faithful ctx known policy) step (guard.answer ctx)) :
    Gives (Pass.Faithful ctx known policy) (memoized ctx ref guard.name step)
      (guard.answer ctx) := by
  unfold memoized
  cases hid : ctx.id with
  | none => exact hstep
  | some id =>
      apply gives_lift_bind (lookUp_yields hguard hid ref)
      intro hit hhit
      cases hit with
      | some v =>
          rw [hhit v rfl]
          exact gives_ok _
      | none =>
          rw [← bind_pure (guard.answer ctx)]
          apply hstep.bind
          intro outcome houtcome
          cases outcome with
          | matched v =>
              exact gives_lift_bind (remember_yields hnames hguard ref houtcome)
                fun _ _ => gives_ok _
          | noMatch => exact gives_ok _
          | halt => exact gives_ok _

end Eval

namespace Guard

variable {ctx : Context} {known : List Guard} {policy : FailurePolicy}

/-- From truthful caches a guard evaluates to its meaning. -/
theorem eval_gives {guard : Guard} (hfree : guard.Every ScopeFree)
    (hnames : SameNamed known) (hknown : ∀ g ∈ guard.remembered, g ∈ known) :
    Eval.Gives (Pass.Faithful ctx known policy) (guard.eval ctx) (guard.answer ctx) := by
  have hformula {parts : List Guard}
      (ih : ∀ g ∈ parts, g.Every ScopeFree → (∀ h ∈ g.remembered, h ∈ known) →
        Eval.Gives (Pass.Faithful ctx known policy) (g.eval ctx) (g.answer ctx))
      (hparts : EveryAmong ScopeFree parts)
      (hmem : ∀ h ∈ rememberedAmong parts, h ∈ known) :
      Eval.Gives (Pass.Faithful ctx known policy) (Eval.allSettled (evalEach ctx parts))
        (Eval.collect (answers ctx parts)) := by
    apply Eval.allSettled_gives
    rw [evalEach_eq_map, answers_eq_map, forall₂_map_map]
    exact fun g hg => ih g hg (everyAmong_iff.mp hparts g hg) (remembered_of_mem hmem hg)
  induction guard using Guard.induct with
  | test t => exact (Eval.ofProbe_gives hfree ctx).map Outcome.matched
  | custom name cost run => exact Eval.ofProbe_gives hfree ctx
  | all parts ih => exact (hformula ih hfree hknown).map _
  | any parts ih => exact (hformula ih hfree hknown).map _
  | negation inner ih => exact (ih hfree hknown).map _
  | memo cache inner ih =>
      obtain ⟨hinner, hrest⟩ := List.forall_mem_cons.mp hknown
      exact Eval.memoized_gives hnames hinner cache (ih hfree hrest)
  | prepared preparations inner ih =>
      exact (Eval.ofProbe_gives hfree.1 ctx).bind fun _ _ => ih hfree.2 hknown
  | mapped f inner ih => exact (ih hfree hknown).map _

theorem passes_gives {guard : Guard} (hfree : guard.Every ScopeFree)
    (hnames : SameNamed known) (hknown : ∀ g ∈ guard.remembered, g ∈ known) :
    Eval.Gives (Pass.Faithful ctx known policy) (guard.passes ctx) (guard.holds ctx) :=
  (eval_gives hfree hnames hknown).map Outcome.passes

end Guard

end PushGoals
