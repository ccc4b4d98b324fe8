import PushGoals.Proofs.Replay
import PushGoals.Proofs.Rule.Answer

/-!
# Rules can be replayed

A guard or a rule whose work hangs on the push and the values of the scope alone
takes the same course in a twin of its pass.  What it finds in the caches it
finds there too; the names it goes by are not read.
-/

namespace PushGoals

variable {ctx : Context}

namespace Eval

theorem lookUp_replays (ref : CacheRef) (key : CacheKey) :
    Work.Replays (lookUp ref key) (lookUp ref key) where
  recorded p hp := hp
  twin p q htwin _ := by
    refine ⟨?_, ?_, htwin.values, htwin.policy⟩
    · change ((q.engine.caches.get ref).get key).1 = ((p.engine.caches.get ref).get key).1
      rw [htwin.caches]
    · change p.engine.caches.set ref ((p.engine.caches.get ref).get key).2 =
        q.engine.caches.set ref ((q.engine.caches.get ref).get key).2
      rw [htwin.caches]

theorem remember_replays (ref : CacheRef) (key : CacheKey) (v : Bool) :
    Work.Replays (remember ref key v) (remember ref key v) where
  recorded p hp := hp
  twin p q htwin _ := by
    refine ⟨rfl, ?_, htwin.values, htwin.policy⟩
    change p.engine.caches.set ref ((p.engine.caches.get ref).insert key v) =
      q.engine.caches.set ref ((q.engine.caches.get ref).insert key v)
    rw [htwin.caches]

theorem memoized_replays (ref : CacheRef) (name : String) {step : Eval (Outcome Bool)}
    (hstep : Replays step step) :
    Replays (memoized ctx ref name step) (memoized ctx ref name step) := by
  unfold memoized
  cases ctx.id with
  | none => exact hstep
  | some id =>
      apply Replays.lift_bind (lookUp_replays ref ⟨id, name⟩)
      intro hit
      cases hit with
      | some v => exact Replays.ok (Outcome.matched v)
      | none =>
          apply hstep.bind
          intro outcome
          cases outcome with
          | matched v =>
              exact Replays.lift_bind (remember_replays ref ⟨id, name⟩ v)
                fun _ => Replays.ok (Outcome.matched v)
          | noMatch => exact Replays.ok Outcome.noMatch
          | halt => exact Replays.ok Outcome.halt

theorem learn_replays (key : RuleKey) (name : Option String) :
    Work.Replays (learn key name) (learn key name) := by
  cases name with
  | none => exact Work.Replays.pure ()
  | some name =>
      exact Work.Replays.of_change (fun _ => rfl) (fun _ => rfl) (fun _ => rfl) (fun _ => rfl)

end Eval

namespace Guard

theorem eval_replays {guard : Guard} (hguard : guard.Every JournalFree) :
    Eval.Replays (guard.eval ctx) (guard.eval ctx) := by
  have hformula {parts : List Guard}
      (ih : ∀ g ∈ parts, g.Every JournalFree → Eval.Replays (g.eval ctx) (g.eval ctx))
      (hparts : EveryAmong JournalFree parts) :
      Eval.Replays (Eval.allSettled (evalEach ctx parts))
        (Eval.allSettled (evalEach ctx parts)) := by
    apply Eval.Replays.allSettled
    rw [evalEach_eq_map, forall₂_map_map]
    exact fun g hg => ih g hg (everyAmong_iff.mp hparts g hg)
  induction guard using Guard.induct with
  | test t => exact (Eval.Replays.ofProbe hguard ctx).map Outcome.matched
  | custom name cost run => exact Eval.Replays.ofProbe hguard ctx
  | all parts ih => exact (hformula ih hguard).map _
  | any parts ih => exact (hformula ih hguard).map _
  | negation inner ih => exact (ih hguard).map _
  | memo cache inner ih => exact Eval.memoized_replays cache inner.name (ih hguard)
  | prepared preparations inner ih =>
      exact (Eval.Replays.ofProbe hguard.1 ctx).bind fun _ => ih hguard.2
  | mapped f inner ih => exact (ih hguard).map _

theorem passes_replays {guard : Guard} (hguard : guard.Every JournalFree) :
    Eval.Replays (guard.passes ctx) (guard.passes ctx) :=
  (eval_replays hguard).map Outcome.passes

end Guard

namespace Rule

variable {V : Type}

theorem runHook_replays {hook : Option Hook}
    (hhook : ∀ work, hook = some work → JournalFree work) :
    Eval.Replays (runHook hook ctx) (runHook hook ctx) := by
  cases hook with
  | none => exact Eval.Replays.ok ()
  | some work => exact Eval.Replays.ofProbe (hhook work rfl) ctx

theorem supervise_replays (rule : Rule V) {step : Eval (Outcome V)}
    (hstep : Eval.Replays step step) :
    Eval.Replays (supervise rule step) (supervise rule step) :=
  Eval.Replays.supervised (fun _ => rfl) (fun _ => rfl) hstep

variable [Contribution V]

theorem evalFirst_replays {rules : List (Rule V)}
    (hrules : ∀ rule ∈ rules, Eval.Replays (rule.eval ctx) (rule.eval ctx)) :
    Eval.Replays (evalFirst ctx rules) (evalFirst ctx rules) := by
  induction rules with
  | nil => exact Eval.Replays.ok Outcome.noMatch
  | cons rule rest ih =>
      obtain ⟨hhead, hrest⟩ := List.forall_mem_cons.mp hrules
      apply (supervise_replays rule hhead).bind
      intro outcome
      cases outcome with
      | matched value => exact Eval.Replays.ok (Outcome.matched value)
      | noMatch => exact ih hrest
      | halt =>
          apply Eval.Replays.named_bind (fun _ => rfl) (fun _ => rfl)
          intro name nameAgain
          apply Eval.Replays.lift_bind
            (Work.Replays.emit (.ruleHalted name) (.ruleHalted nameAgain))
          exact fun _ => Eval.Replays.ok Outcome.noMatch

theorem superviseEach_replays {rules : List (Rule V)}
    (hrules : ∀ rule ∈ rules, Eval.Replays (rule.eval ctx) (rule.eval ctx)) :
    List.Forall₂ Eval.Replays (superviseEach ctx rules) (superviseEach ctx rules) := by
  rw [superviseEach_eq_map, forall₂_map_map]
  exact fun rule hrule => supervise_replays rule (hrules rule hrule)

/-- In a twin of its pass a rule evaluates as it did, unless it recorded a failure. -/
theorem eval_replays {rule : Rule V} (hrule : rule.Every JournalFree) :
    Eval.Replays (rule.eval ctx) (rule.eval ctx) := by
  have hmembers {rules : List (Rule V)}
      (ih : ∀ rule ∈ rules, rule.Every JournalFree →
        Eval.Replays (rule.eval ctx) (rule.eval ctx))
      (hrules : EveryAmong JournalFree rules) :
      ∀ rule ∈ rules, Eval.Replays (rule.eval ctx) (rule.eval ctx) :=
    fun rule hrule => ih rule hrule (everyAmong_iff.mp hrules rule hrule)
  induction rule using Rule.induct with
  | fixed guard reason value =>
      apply (Guard.passes_replays hrule).bind
      intro passes
      cases passes <;> exact Eval.Replays.ok _
  | halting guard reason =>
      apply (Guard.passes_replays hrule).bind
      intro passes
      cases passes <;> exact Eval.Replays.ok _
  | computed key guard reason compute =>
      apply (Guard.passes_replays hrule.1).bind
      intro passes
      cases passes with
      | false => exact Eval.Replays.ok Outcome.noMatch
      | true =>
          apply (Eval.Replays.ofProbe (hrule.2 _) ctx).bind
          intro given
          apply Eval.Replays.lift_bind (Eval.learn_replays key given.1)
          exact fun _ => Eval.Replays.ok (Outcome.matched given.2)
  | firstMatch name rules ih => exact evalFirst_replays (hmembers ih hrule)
  | allMatches name contributors ih =>
      have heach := superviseEach_replays (hmembers ih hrule)
      exact (Eval.Replays.allSettled heach).bind fun _ => Eval.Replays.ok _
  | enriched name base extension ihBase ihExtension =>
      apply (supervise_replays base (ihBase hrule.1)).bind
      intro given
      by_cases hclosed : closed given.value? = true
      · simp only [if_pos hclosed]
        exact Eval.Replays.ok _
      · simp only [if_neg hclosed]
        exact (supervise_replays extension (ihExtension hrule.2)).bind
          fun _ => Eval.Replays.ok _
  | leaf name guard hook value =>
      apply (Guard.passes_replays hrule.1).bind
      intro passes
      cases passes with
      | false => exact Eval.Replays.ok Outcome.noMatch
      | true => exact (runHook_replays hrule.2).bind fun _ => Eval.Replays.ok _
  | branch name guard hook children ih =>
      apply (Guard.passes_replays hrule.1).bind
      intro passes
      cases passes with
      | false => exact Eval.Replays.ok Outcome.noMatch
      | true =>
          apply (runHook_replays hrule.2.1).bind
          exact fun _ => evalFirst_replays (hmembers ih hrule.2.2)
  | mapped f inner ih => exact (ih hrule).map _
  | custom name cost run => exact Eval.Replays.ofProbe hrule ctx

end Rule

end PushGoals
