import PushGoals.Proofs.Guard.Interleaving
import PushGoals.Proofs.Guard.Standard
import PushGoals.Proofs.Guard.Unremembered

/-!
# Shared caches

Any number of evaluations, for any pushes, run against the same caches; their steps
come in any order, entries are evicted and caches are cleared between them.  What
carries through is that every entry is the answer of the guards of its name for
the contexts of its push, and that every evaluation still means what its guard
means.  So remembering cannot be seen: evaluations end with the answers they would
have without it.
-/

namespace PushGoals
namespace Guard

/-! ## What an evaluation under way means -/

namespace Underway

mutual

def meaning (ctx : Context) : Underway → Except GoalError (Outcome Bool)
  | .waiting guard => guard.answer ctx
  | .joining judge parts =>
      (Eval.collect (meanings ctx parts)).map fun given => .matched (judge given)
  | .applying f inner => (meaning ctx inner).map f
  | .filling _ _ inner => meaning ctx inner
  | .done answer => answer

def meanings (ctx : Context) : List Underway → List (Except GoalError (Outcome Bool))
  | [] => []
  | part :: rest => meaning ctx part :: meanings ctx rest

end

@[simp] theorem meanings_eq_map (ctx : Context) (parts : List Underway) :
    meanings ctx parts = parts.map (meaning ctx) := by
  induction parts with
  | nil => rfl
  | cons part rest ih => rw [meanings, ih, List.map_cons]

mutual

/-- Nothing still to be run hangs on the scratch, and what will be stored is the
answer of a known guard, under its name and for the push of `ctx`. -/
def Sound (ctx : Context) (known : List Guard) : Underway → Prop
  | .waiting guard => guard.Every ScopeFree ∧ ∀ g ∈ guard.remembered, g ∈ known
  | .joining _ parts => SoundAmong ctx known parts
  | .applying _ inner => Sound ctx known inner
  | .filling _ key inner =>
      (∃ guard ∈ known, ctx.id = some key.push ∧ key.test = guard.name ∧
        guard.answer ctx = meaning ctx inner) ∧ Sound ctx known inner
  | .done _ => True

def SoundAmong (ctx : Context) (known : List Guard) : List Underway → Prop
  | [] => True
  | part :: rest => Sound ctx known part ∧ SoundAmong ctx known rest

end

@[simp] theorem soundAmong_iff {ctx : Context} {known : List Guard} {parts : List Underway} :
    SoundAmong ctx known parts ↔ ∀ part ∈ parts, part.Sound ctx known := by
  induction parts with
  | nil => simp [SoundAmong]
  | cons part rest ih => simp [SoundAmong, ih]

end Underway
end Guard

/-! ## Shared caches stay truthful -/

/-- The contexts of one push get the same answers from the guards. -/
def Guard.SamePush (contexts : List Context) (known : List Guard) : Prop :=
  ∀ ctx ∈ contexts, ∀ other ∈ contexts, ctx.id ≠ none → ctx.id = other.id →
    ∀ g ∈ known, g.answer ctx = g.answer other

/-- Every entry belongs to a known guard and one of the contexts, and is the answer
there. -/
structure Caches.Settled (contexts : List Context) (known : List Guard) (caches : Caches) :
    Prop where
  truthful : ∀ ctx ∈ contexts, caches.Truthful ctx known
  stated : ∀ ref, ∀ entry ∈ (caches.get ref).entries,
    ∃ ctx ∈ contexts, ∃ guard ∈ known, ctx.id = some entry.1.push ∧ entry.1.test = guard.name

theorem Caches.Empty.settled {caches : Caches} (hempty : caches.Empty) (contexts : List Context)
    (known : List Guard) : caches.Settled contexts known := by
  refine ⟨fun ctx _ => hempty.truthful ctx known, ?_⟩
  intro ref entry hentry
  rw [hempty ref] at hentry
  cases hentry

namespace Caches.Settled

variable {contexts : List Context} {known : List Guard} {caches : Caches}

theorem set (hsettled : caches.Settled contexts known) {ref : CacheRef} {cache : PushTestCache}
    (htrue : ∀ ctx ∈ contexts, ∀ entry ∈ cache.entries, ∀ guard ∈ known,
      ctx.id = some entry.1.push → entry.1.test = guard.name →
        guard.answer ctx = .ok (.matched entry.2))
    (hstated : ∀ entry ∈ cache.entries, ∃ ctx ∈ contexts, ∃ guard ∈ known,
      ctx.id = some entry.1.push ∧ entry.1.test = guard.name) :
    (caches.set ref cache).Settled contexts known := by
  refine ⟨fun ctx hctx => (hsettled.truthful ctx hctx).set (htrue ctx hctx), ?_⟩
  intro other entry hentry
  by_cases hother : other = ref
  · subst other
    rw [get_set_self] at hentry
    exact hstated entry hentry
  · rw [get_set_of_ne hother] at hentry
    exact hsettled.stated other entry hentry

/-- Refreshing, evicting and clearing add no entry. -/
theorem restrict (hsettled : caches.Settled contexts known) {ref : CacheRef}
    {cache : PushTestCache} (hsubset : cache.entries ⊆ (caches.get ref).entries) :
    (caches.set ref cache).Settled contexts known :=
  hsettled.set
    (fun ctx hctx entry hentry => hsettled.truthful ctx hctx ref entry (hsubset hentry))
    (fun entry hentry => hsettled.stated ref entry (hsubset hentry))

theorem insert (hsettled : caches.Settled contexts known) (hnames : Guard.SameNamed known)
    (hpushes : Guard.SamePush contexts known) {ctx : Context} (hctx : ctx ∈ contexts)
    {guard : Guard} (hguard : guard ∈ known) {key : CacheKey} (hid : ctx.id = some key.push)
    (htest : key.test = guard.name) {v : Bool} (hanswer : guard.answer ctx = .ok (.matched v))
    (ref : CacheRef) :
    (caches.set ref ((caches.get ref).insert key v)).Settled contexts known := by
  apply hsettled.set
  · intro other hother entry hentry g hg hpush hname
    rcases PushTestCache.mem_entries_of_mem_insert hentry with hold | hnew
    · exact hsettled.truthful other hother ref entry hold g hg hpush hname
    · subst hnew
      have hsame : g.answer other = guard.answer other :=
        hnames g hg guard hguard (hname.symm.trans htest) other
      have hpushed : guard.answer ctx = guard.answer other :=
        hpushes ctx hctx other hother (by simp [hid]) (hid.trans hpush.symm) guard hguard
      rw [hsame, ← hpushed]
      exact hanswer
  · intro entry hentry
    rcases PushTestCache.mem_entries_of_mem_insert hentry with hold | hnew
    · exact hsettled.stated ref entry hold
    · subst hnew
      exact ⟨ctx, hctx, guard, hguard, hid, htest⟩

end Caches.Settled

namespace Guard

variable {contexts : List Context} {known : List Guard} {ctx : Context}
  {caches caches' : Caches} {run run' : Underway}

/-- A step keeps the meaning of its evaluation and the truth of the caches. -/
theorem Step.keeps (hnames : SameNamed known) (hpushes : SamePush contexts known)
    (hctx : ctx ∈ contexts) (hstep : Step ctx caches run caches' run')
    (hrun : run.Sound ctx known) (hcaches : caches.Settled contexts known) :
    run'.Sound ctx known ∧ run'.meaning ctx = run.meaning ctx ∧
      caches'.Settled contexts known := by
  have hwaiting {parts : List Guard} (hfree : EveryAmong ScopeFree parts)
      (hknown : ∀ g ∈ rememberedAmong parts, g ∈ known) :
      Underway.SoundAmong ctx known (parts.map .waiting) ∧
        Underway.meanings ctx (parts.map .waiting) = answers ctx parts := by
    rw [Underway.soundAmong_iff, List.forall_mem_map, Underway.meanings_eq_map, List.map_map,
      answers_eq_map]
    exact ⟨fun g hg => ⟨everyAmong_iff.mp hfree g hg, remembered_of_mem hknown hg⟩, rfl⟩
  induction hstep with
  | test caches t scratch =>
      refine ⟨trivial, ?_, hcaches⟩
      have hfree : (((t.run ctx).run scratch).1) = (t.run ctx).answer := hrun.1 ctx scratch
      rw [Underway.meaning, hfree]
      rfl
  | custom caches name cost work scratch => exact ⟨trivial, hrun.1 ctx scratch, hcaches⟩
  | all caches parts =>
      obtain ⟨hsound, hmeanings⟩ := hwaiting hrun.1 hrun.2
      refine ⟨hsound, ?_, hcaches⟩
      rw [Underway.meaning, Underway.meaning, hmeanings]
      rfl
  | any caches parts =>
      obtain ⟨hsound, hmeanings⟩ := hwaiting hrun.1 hrun.2
      refine ⟨hsound, ?_, hcaches⟩
      rw [Underway.meaning, Underway.meaning, hmeanings]
      rfl
  | negation caches inner => exact ⟨hrun, rfl, hcaches⟩
  | prepared caches preparations inner => exact ⟨⟨hrun.1.2, hrun.2⟩, rfl, hcaches⟩
  | mapped caches f inner => exact ⟨hrun, rfl, hcaches⟩
  | unkeyed caches ref inner hid =>
      exact ⟨⟨hrun.1, (List.forall_mem_cons.mp hrun.2).2⟩, rfl, hcaches⟩
  | hit caches ref inner hid hhit =>
      rw [PushTestCache.get_fst] at hhit
      have hanswer := hcaches.truthful ctx hctx ref _ (PushTestCache.mem_of_peek?_eq_some hhit)
        inner (List.forall_mem_cons.mp hrun.2).1 hid rfl
      refine ⟨trivial, hanswer.symm, hcaches.restrict ?_⟩
      exact fun entry hentry => PushTestCache.mem_entries_of_mem_get hentry
  | miss caches ref inner hid hmiss =>
      obtain ⟨hinner, hrest⟩ := List.forall_mem_cons.mp hrun.2
      refine ⟨⟨⟨inner, hinner, hid, rfl, rfl⟩, hrun.1, hrest⟩, rfl, hcaches.restrict ?_⟩
      exact fun entry hentry => PushTestCache.mem_entries_of_mem_get hentry
  | part judge before after hstep ih =>
      have hparts := Underway.soundAmong_iff.mp hrun
      obtain ⟨hbefore, hrest⟩ := List.forall_mem_append.mp hparts
      obtain ⟨hpart, hafter⟩ := List.forall_mem_cons.mp hrest
      obtain ⟨hsound, hmeaning, hkept⟩ := ih hpart hcaches
      refine ⟨?_, ?_, hkept⟩
      · apply Underway.soundAmong_iff.mpr
        exact List.forall_mem_append.mpr ⟨hbefore, List.forall_mem_cons.mpr ⟨hsound, hafter⟩⟩
      · simp only [Underway.meaning, Underway.meanings_eq_map, List.map_append, List.map_cons,
          hmeaning]
  | joined caches judge answers =>
      refine ⟨trivial, ?_, hcaches⟩
      have hmeanings : Underway.meanings ctx (answers.map .done) = answers := by
        rw [Underway.meanings_eq_map, List.map_map]
        exact List.map_id answers
      rw [Underway.meaning, Underway.meaning, hmeanings]
  | within f hstep ih =>
      obtain ⟨hsound, hmeaning, hkept⟩ := ih hrun hcaches
      refine ⟨hsound, ?_, hkept⟩
      rw [Underway.meaning, Underway.meaning, hmeaning]
  | applied caches f answer => exact ⟨trivial, rfl, hcaches⟩
  | behind ref key hstep ih =>
      obtain ⟨⟨guard, hguard, hid, htest, hanswer⟩, hinner⟩ := hrun
      obtain ⟨hsound, hmeaning, hkept⟩ := ih hinner hcaches
      exact ⟨⟨⟨guard, hguard, hid, htest, hanswer.trans hmeaning.symm⟩, hsound⟩, hmeaning, hkept⟩
  | stored caches ref key v =>
      -- The name and the push leave no other answer open, so it does not matter who reads it.
      obtain ⟨⟨guard, hguard, hid, htest, hanswer⟩, _⟩ := hrun
      exact ⟨trivial, rfl, hcaches.insert hnames hpushes hctx hguard hid htest hanswer ref⟩
  | unstored caches ref key hanswer => exact ⟨trivial, rfl, hcaches⟩

/-- Without an identity of the push the caches are neither changed nor looked at. -/
theorem Step.anonymous (hstep : Step ctx caches run caches' run') (hid : ctx.id = none)
    (hrun : run.Sound ctx known) :
    caches' = caches ∧ ∀ other, Step ctx other run other run' := by
  induction hstep with
  | test caches t scratch => exact ⟨rfl, fun other => .test other t scratch⟩
  | custom caches name cost work scratch =>
      exact ⟨rfl, fun other => .custom other name cost work scratch⟩
  | all caches parts => exact ⟨rfl, fun other => .all other parts⟩
  | any caches parts => exact ⟨rfl, fun other => .any other parts⟩
  | negation caches inner => exact ⟨rfl, fun other => .negation other inner⟩
  | prepared caches preparations inner =>
      exact ⟨rfl, fun other => .prepared other preparations inner⟩
  | mapped caches f inner => exact ⟨rfl, fun other => .mapped other f inner⟩
  | unkeyed caches ref inner hid => exact ⟨rfl, fun other => .unkeyed other ref inner hid⟩
  | hit caches ref inner hkey hhit => exact nomatch hid.symm.trans hkey
  | miss caches ref inner hkey hmiss => exact nomatch hid.symm.trans hkey
  | part judge before after hstep ih =>
      have hparts := Underway.soundAmong_iff.mp hrun
      obtain ⟨hsame, hany⟩ := ih (hparts _ (List.mem_append_right _ List.mem_cons_self))
      exact ⟨hsame, fun other => .part judge before after (hany other)⟩
  | joined caches judge answers => exact ⟨rfl, fun other => .joined other judge answers⟩
  | within f hstep ih =>
      obtain ⟨hsame, hany⟩ := ih hrun
      exact ⟨hsame, fun other => .within f (hany other)⟩
  | applied caches f answer => exact ⟨rfl, fun other => .applied other f answer⟩
  | behind ref key hstep ih =>
      obtain ⟨hsame, hany⟩ := ih hrun.2
      exact ⟨hsame, fun other => .behind ref key (hany other)⟩
  | stored caches ref key v =>
      obtain ⟨⟨guard, _, hkey, _⟩, _⟩ := hrun
      exact nomatch hid.symm.trans hkey
  | unstored caches ref key hanswer => exact ⟨rfl, fun other => .unstored other ref key hanswer⟩

end Guard

/-! ## Any number of evaluations -/

structure Evaluation where
  ctx : Context
  guard : Guard
  run : Guard.Underway

structure Pool where
  caches : Caches
  evaluations : List Evaluation

namespace Pool

variable {guards : List Guard} {contexts : List Context} {pool pool' : Pool}

/-- What can happen next: an evaluation begins or takes a step, entries are evicted, a
cache is cleared. -/
inductive Step (guards : List Guard) (contexts : List Context) : Pool → Pool → Prop
  | begins (pool : Pool) (ctx : Context) (hctx : ctx ∈ contexts) (guard : Guard)
      (hguard : guard ∈ guards) :
      Step guards contexts pool
        { pool with evaluations := pool.evaluations ++ [⟨ctx, guard, .waiting guard⟩] }
  | advances (before : List Evaluation) (e : Evaluation) (after : List Evaluation)
      {caches caches' : Caches} {run' : Guard.Underway}
      (hstep : Guard.Step e.ctx caches e.run caches' run') :
      Step guards contexts ⟨caches, before ++ e :: after⟩
        ⟨caches', before ++ { e with run := run' } :: after⟩
  | evicts (pool : Pool) (ref : CacheRef) (kept : List (CacheKey × Bool))
      (hkept : kept.Sublist (pool.caches.get ref).entries) :
      Step guards contexts pool
        { pool with
          caches := pool.caches.set ref { pool.caches.get ref with entries := kept } }
  | clears (pool : Pool) (ref : CacheRef) :
      Step guards contexts pool
        { pool with caches := pool.caches.set ref (pool.caches.get ref).clear }

/-- What shared caches ask of the guards and the contexts they are used for. -/
structure Shareable (guards : List Guard) (contexts : List Context) : Prop where
  scopeFree : ∀ g ∈ guards, g.Every ScopeFree
  sameNamed : Guard.SameNamed (guards.flatMap Guard.remembered)
  samePush : Guard.SamePush contexts (guards.flatMap Guard.remembered)

/-- An evaluation for one of the contexts that still means what its guard means. -/
structure Faithful (guards : List Guard) (contexts : List Context) (e : Evaluation) : Prop where
  ctx : e.ctx ∈ contexts
  guard : e.guard ∈ guards
  sound : e.run.Sound e.ctx (guards.flatMap Guard.remembered)
  meaning : e.run.meaning e.ctx = e.guard.answer e.ctx

structure Consistent (guards : List Guard) (contexts : List Context) (pool : Pool) : Prop where
  caches : pool.caches.Settled contexts (guards.flatMap Guard.remembered)
  evaluations : ∀ e ∈ pool.evaluations, Faithful guards contexts e

theorem Consistent.step (hshare : Shareable guards contexts)
    (hpool : pool.Consistent guards contexts) (hstep : Step guards contexts pool pool') :
    pool'.Consistent guards contexts := by
  cases hstep with
  | begins _ ctx hctx guard hguard =>
      have hknown : ∀ g ∈ guard.remembered, g ∈ guards.flatMap Guard.remembered :=
        fun g hg => List.mem_flatMap_of_mem hguard hg
      have hnew : Faithful guards contexts ⟨ctx, guard, .waiting guard⟩ :=
        ⟨hctx, hguard, ⟨hshare.scopeFree guard hguard, hknown⟩, rfl⟩
      exact ⟨hpool.caches, List.forall_mem_append.mpr
        ⟨hpool.evaluations, List.forall_mem_singleton.mpr hnew⟩⟩
  | advances before e after hstep =>
      obtain ⟨hbefore, hrest⟩ := List.forall_mem_append.mp hpool.evaluations
      obtain ⟨he, hafter⟩ := List.forall_mem_cons.mp hrest
      obtain ⟨hsound, hmeaning, hcaches⟩ :=
        hstep.keeps hshare.sameNamed hshare.samePush he.ctx he.sound hpool.caches
      refine ⟨hcaches, List.forall_mem_append.mpr ⟨hbefore, List.forall_mem_cons.mpr ⟨?_, hafter⟩⟩⟩
      exact ⟨he.ctx, he.guard, hsound, hmeaning.trans he.meaning⟩
  | evicts _ ref kept hkept => exact ⟨hpool.caches.restrict hkept.subset, hpool.evaluations⟩
  | clears _ ref => exact ⟨hpool.caches.restrict (List.nil_subset _), hpool.evaluations⟩

theorem consistent_of_reachable (hshare : Shareable guards contexts) {caches : Caches}
    (hempty : caches.Empty)
    (hreach : Relation.ReflTransGen (Step guards contexts) ⟨caches, []⟩ pool) :
    pool.Consistent guards contexts := by
  induction hreach with
  | refl => exact ⟨hempty.settled contexts _, fun _ h => nomatch h⟩
  | tail _ hstep ih => exact ih.step hshare hstep

structure Invisible (guards : List Guard) (contexts : List Context) (pool : Pool) : Prop where
  /-- An evaluation that is over has the answer its guard gives when nothing is
  remembered. -/
  answers : ∀ e ∈ pool.evaluations, ∀ answer, e.run = .done answer →
    ∀ p, e.guard.direct e.ctx p = answer
  /-- The others are not held up, and each step of theirs brings them nearer to the end. -/
  progress : ∀ e ∈ pool.evaluations, (∃ answer, e.run = .done answer) ∨
    ∃ caches' run', Guard.Step e.ctx pool.caches e.run caches' run' ∧
      run'.remaining < e.run.remaining
  entries : ∀ ref, ∀ entry ∈ (pool.caches.get ref).entries,
    (∃ ctx ∈ contexts, ∃ guard ∈ guards.flatMap Guard.remembered,
      ctx.id = some entry.1.push ∧ entry.1.test = guard.name) ∧
    ∀ ctx ∈ contexts, ∀ guard ∈ guards.flatMap Guard.remembered,
      ctx.id = some entry.1.push → entry.1.test = guard.name →
        ∀ p, guard.direct ctx p = .ok (.matched entry.2)
  /-- Nothing is stored for a guard that does not answer with a value. -/
  failures : ∀ ctx ∈ contexts, ∀ guard ∈ guards.flatMap Guard.remembered, ∀ p,
    (∀ v, guard.direct ctx p ≠ .ok (.matched v)) → ∀ id, ctx.id = some id →
      ∀ ref, (pool.caches.get ref).peek? ⟨id, guard.name⟩ = none
  /-- Without an identity of the push a step neither changes nor reads the caches. -/
  anonymous : ∀ e ∈ pool.evaluations, e.ctx.id = none → ∀ caches' run',
    Guard.Step e.ctx pool.caches e.run caches' run' →
      caches' = pool.caches ∧ ∀ other, Guard.Step e.ctx other e.run other run'

/-- However evaluations over shared caches interleave, remembering cannot be seen. -/
theorem memoization_is_invisible (hshare : Shareable guards contexts) {caches : Caches}
    (hempty : caches.Empty)
    (hreach : Relation.ReflTransGen (Step guards contexts) ⟨caches, []⟩ pool) :
    pool.Invisible guards contexts := by
  have hpool := consistent_of_reachable hshare hempty hreach
  have hdirect : ∀ guard ∈ guards.flatMap Guard.remembered, ∀ ctx p,
      guard.direct ctx p = guard.answer ctx := by
    intro guard hguard ctx p
    obtain ⟨g, hg, hinner⟩ := List.mem_flatMap.mp hguard
    exact Guard.direct_eq (Guard.every_remembered (hshare.scopeFree g hg) guard hinner) ctx p
  refine ⟨?_, ?_, ?_, ?_, ?_⟩
  · intro e he answer hdone p
    have hmeaning := (hpool.evaluations e he).meaning
    rw [hdone] at hmeaning
    rw [Guard.direct_eq (hshare.scopeFree e.guard (hpool.evaluations e he).guard)]
    exact hmeaning.symm
  · intro e _
    rcases e.run.progress e.ctx pool.caches with hdone | ⟨caches', run', hstep⟩
    · exact .inl hdone
    · exact .inr ⟨caches', run', hstep, hstep.remaining_lt⟩
  · intro ref entry hentry
    refine ⟨hpool.caches.stated ref entry hentry, ?_⟩
    intro ctx hctx guard hguard hid htest p
    rw [hdirect guard hguard]
    exact hpool.caches.truthful ctx hctx ref entry hentry guard hguard hid htest
  · intro ctx hctx guard hguard p hfails id hid ref
    rw [hdirect guard hguard] at hfails
    cases hpeek : (pool.caches.get ref).peek? ⟨id, guard.name⟩ with
    | none => rfl
    | some v =>
        have hanswer := hpool.caches.truthful ctx hctx ref _
          (PushTestCache.mem_of_peek?_eq_some hpeek) guard hguard hid rfl
        exact absurd hanswer (hfails v)
  · intro e he hid caches' run' hstep
    exact hstep.anonymous hid (hpool.evaluations e he).sound

/-- An evaluation without a break, from the caches of a pool that can be reached, gives the
answer of its guard when nothing is remembered, and leaves a pool that can be reached. -/
theorem reachable_of_eval (hshare : Shareable guards contexts) {caches : Caches}
    (hempty : caches.Empty)
    (hreach : Relation.ReflTransGen (Step guards contexts) ⟨caches, []⟩ pool)
    {ctx : Context} (hctx : ctx ∈ contexts) {guard : Guard} (hguard : guard ∈ guards) {p : Pass}
    (hp : p.engine.caches = pool.caches) :
    ((guard.eval ctx).run.run p).1 = guard.direct ctx p ∧
      Relation.ReflTransGen (Step guards contexts) ⟨caches, []⟩
        { caches := ((guard.eval ctx).run.run p).2.engine.caches
          evaluations := pool.evaluations ++
            [⟨ctx, guard, .done ((guard.eval ctx).run.run p).1⟩] } := by
  have hbegun := hreach.tail (.begins pool ctx hctx guard hguard)
  have hsteps := Guard.eval_follows guard ctx p
  rw [hp] at hsteps
  let along (u : Caches × Guard.Underway) : Pool :=
    ⟨u.1, pool.evaluations ++ [⟨ctx, guard, u.2⟩]⟩
  -- No other evaluation takes a step meanwhile.
  have hlifted : Relation.ReflTransGen (Step guards contexts) (along _) (along _) :=
    hsteps.lift along fun u _ hstep => .advances pool.evaluations ⟨ctx, guard, u.2⟩ [] hstep
  have hover := hbegun.trans hlifted
  have hmeaning := ((consistent_of_reachable hshare hempty hover).evaluations
    ⟨ctx, guard, .done ((guard.eval ctx).run.run p).1⟩
    (List.mem_append_right _ (List.mem_singleton.mpr rfl))).meaning
  rw [Guard.direct_eq (hshare.scopeFree guard hguard)]
  exact ⟨hmeaning, hover⟩

def imageTest : Guard := .memo .shared (.test (.hasFile "Dockerfile"))

def imagePush : Push := ⟨⟨"owner", "repo", "main"⟩, "main", [], none⟩

def imageContext : Context :=
  (Context.ofPush imagePush).withProject (.inMemory [("Dockerfile", "")] [])

/-- The push of an image in two passes, one of which may also tell people about it. -/
def imagePasses : List Context := [imageContext, imageContext.withChannel "ops"]

def imagePool (caches : Caches) (first second : Guard.Underway) : Pool where
  caches
  evaluations :=
    [⟨imageContext, imageTest, first⟩, ⟨imageContext.withChannel "ops", imageTest, second⟩]

theorem imagePasses_shareable : Shareable [imageTest] imagePasses := by
  refine ⟨?_, ?_, ?_⟩
  · exact List.forall_mem_singleton.mpr (PushTest.hasFile_lasting "Dockerfile").scopeFree
  · intro g hg h hh _ ctx
    rw [List.mem_singleton.mp hg, List.mem_singleton.mp hh]
  · have hanswer : ∀ ctx ∈ imagePasses,
        (Guard.test (.hasFile "Dockerfile")).answer ctx = .ok (.matched true) := by
      simp only [imagePasses, List.forall_mem_cons]
      exact ⟨rfl, rfl, fun _ h => nomatch h⟩
    intro ctx hctx other hother _ _ g hg
    rw [List.mem_singleton.mp hg, hanswer ctx hctx, hanswer other hother]

section Crossing

variable {caches caches' : Caches} {run run' : Guard.Underway}

theorem imagePool_first (second : Guard.Underway)
    (hstep : Guard.Step imageContext caches run caches' run') :
    Step [imageTest] imagePasses (imagePool caches run second) (imagePool caches' run' second) :=
  .advances [] ⟨imageContext, imageTest, run⟩ _ hstep

theorem imagePool_second (first : Guard.Underway)
    (hstep : Guard.Step (imageContext.withChannel "ops") caches run caches' run') :
    Step [imageTest] imagePasses (imagePool caches first run) (imagePool caches' first run') :=
  .advances [_] ⟨imageContext.withChannel "ops", imageTest, run⟩ [] hstep

end Crossing

/-- Both passes look the answer up before either has stored it, and the cache is cleared
between the insertions. -/
theorem crossing_passes_agree :
    ∃ caches, Relation.ReflTransGen (Step [imageTest] imagePasses) ⟨{}, []⟩
        (imagePool caches (.done (.ok (.matched true))) (.done (.ok (.matched true)))) ∧
      (imagePool caches (.done (.ok (.matched true)))
        (.done (.ok (.matched true)))).Invisible [imageTest] imagePasses := by
  have hbegun : Relation.ReflTransGen (Step [imageTest] imagePasses) ⟨{}, []⟩
      (imagePool {} (.waiting imageTest) (.waiting imageTest)) :=
    (Relation.ReflTransGen.single
      (.begins ⟨{}, []⟩ imageContext (by simp [imagePasses]) imageTest (by simp))).tail
        (.begins ⟨{}, [⟨imageContext, imageTest, .waiting imageTest⟩]⟩
          (imageContext.withChannel "ops") (by simp [imagePasses]) imageTest (by simp))
  have hlooked := (hbegun.tail (imagePool_first _ (.miss {} .shared _ rfl rfl))).tail
    (imagePool_second _ (.miss {} .shared _ rfl rfl))
  have hstored := (hlooked.tail (imagePool_first _ (.behind .shared _ (.test _ _ {})))).tail
    (imagePool_first _ (.stored _ .shared _ true))
  have hcleared := hstored.tail (.clears _ .shared)
  have hover := (hcleared.tail (imagePool_second _ (.behind .shared _ (.test _ _ {})))).tail
    (imagePool_second _ (.stored _ .shared _ true))
  exact ⟨_, hover, memoization_is_invisible imagePasses_shareable Caches.empty_default hover⟩

end Pool

end PushGoals
