import PushGoals.Guard.Standard
import PushGoals.Prediction.Classification
import PushGoals.Proofs.Decision
import PushGoals.Proofs.Prediction.Observers
import PushGoals.Proofs.Rule.Replay

/-!
# A decidable push is predicted as it is decided

When a decision comes about without a failure, the prediction from the same
caches replays it chain by chain.  It stops at the first locked set, behind which
the decision merges nothing, and it leaves out sets that are there already, whose
goals the decision leaves out one by one.
-/

namespace PushGoals

namespace Forecast

/-- Leaving out sets that are there already leaves no goal out. -/
theorem dedupe_goals_union (sets more : List GoalSet) :
    Goal.dedupe ((union sets more).flatMap (·.goals)) =
      Goal.dedupe ((sets ++ more).flatMap (·.goals)) := by
  induction more generalizing sets with
  | nil => rw [union_nil, List.append_nil]
  | cons next more ih =>
      have hstep : union sets (next :: more) =
          union (if sets.any (·.isSame next) then sets else sets ++ [next]) more := rfl
      rw [hstep, ih]
      by_cases hthere : sets.any (·.isSame next) = true
      · rw [if_pos hthere]
        obtain ⟨set, hset, hsame⟩ := List.any_eq_true.mp hthere
        have hnames : ∀ g ∈ next.goals,
            g.uniqueName ∈ [] ∨ g.uniqueName ∈ (sets.flatMap (·.goals)).map (·.uniqueName) := by
          intro g hg
          right
          have hname : g.uniqueName ∈ set.uniqueNames := by
            rw [(GoalSet.isSame_iff.mp hsame).2.1]
            exact List.mem_map_of_mem hg
          obtain ⟨other, hother, heq⟩ := List.mem_map.mp hname
          rw [← heq]
          exact List.mem_map_of_mem (List.mem_flatMap.mpr ⟨set, hset, hother⟩)
        rw [List.flatMap_append, List.flatMap_append, List.flatMap_cons]
        exact (Goal.dedupeFrom_append_repeated hnames _).symm
      · rw [if_neg hthere, List.append_assoc]
        rfl

end Forecast

namespace Rule

variable {ctx : Context}

theorem classifyBy_run_ok {evaluation : Eval (Outcome GoalSet)} {outcome : Outcome GoalSet}
    {p after : Pass} (heval : evaluation.run.run p = (.ok outcome, after))
    (failed : GoalError → Work Forecast) :
    (classifyBy evaluation failed).run p = (.settled outcome.value?, after) := by
  unfold classifyBy
  rw [StateT.run_bind, heval]
  cases outcome <;> rfl

/-- Chains that were evaluated without a failure add up, in a twin of the pass,
to what they gave. -/
theorem additive_replays {rules : List GoalRule} (hrules : ∀ rule ∈ rules, rule.Every JournalFree)
    {p q after : Pass} (htwin : p.Twin q) {outcomes : List (Outcome GoalSet)}
    (hsettle : (Eval.settle (superviseEach ctx rules)).run p = (outcomes.map .ok, after))
    (hquiet : after.scope.failures = []) (f : Forecast) :
    ((Forecast.additive f false (classifyEach ctx rules)).run q).1 =
      f.addUp false ((outcomes.map Outcome.value?).map Forecast.settled) := by
  induction rules generalizing p q outcomes f with
  | nil =>
      cases outcomes with
      | nil => rfl
      | cons outcome outcomes => cases hsettle
  | cons rule rest ih =>
      obtain ⟨hhead, hrest⟩ := List.forall_mem_cons.mp hrules
      have hreplays : Eval.Replays (supervise rule (eval ctx rule)) (eval ctx rule) :=
        Eval.Replays.unsupervised (fun _ => rfl) (eval_replays hhead)
      rw [superviseEach, Eval.run_settle_cons] at hsettle
      obtain ⟨hanswers, hlast⟩ := Prod.mk.inj hsettle
      cases outcomes with
      | nil => cases hanswers
      | cons outcome outcomes =>
          obtain ⟨hanswer, hothers⟩ := List.cons.inj hanswers
          have hmiddle :
              ((supervise rule (eval ctx rule)).run.run p).2.scope.failures = [] := by
            by_contra hrecorded
            have hothersReplay : Work.Replays (Eval.settle (superviseEach ctx rest))
                (Eval.settle (superviseEach ctx rest)) :=
              Eval.Replays.settle
                (superviseEach_replays fun rule hrule => eval_replays (hrest rule hrule))
            apply hothersReplay.recorded _ hrecorded
            rw [hlast]
            exact hquiet
          obtain ⟨hagain, hthen⟩ := hreplays.twin p q htwin hmiddle
          have hevaluated : (eval ctx rule).run.run q =
              (.ok outcome, ((eval ctx rule).run.run q).2) :=
            Prod.ext (hagain.trans hanswer) rfl
          have hfirst := classifyBy_run_ok hevaluated fun e => classifyFailed ctx e rule
          have hrests := ih hrest hthen (Prod.ext hothers hlast)
          unfold classifyEach Forecast.additive
          rw [StateT.run_bind, hfirst, List.map_cons, List.map_cons, Forecast.addUp]
          change (StateT.run
            (if (Forecast.settled outcome.value?).locks = true then
              pure (f.merge (.settled outcome.value?))
            else
              (f.merge (.settled outcome.value?)).additive
                (false || (Forecast.settled outcome.value?).mayLock) (classifyEach ctx rest))
            _).1 = _
          simp only [Bool.false_eq_true, if_false, Forecast.locks_settled,
            Forecast.mayLock_settled]
          by_cases hclosed : closed outcome.value? = true
          · rw [if_pos hclosed, if_pos hclosed]
            rfl
          · rw [if_neg hclosed, if_neg hclosed, Bool.eq_false_iff.mpr hclosed]
            exact hrests (f.merge (.settled outcome.value?))

end Rule

namespace Decider

variable {decider : Decider} {ctx : Context} {engine later : Engine} {decision : Decision}

/-- A push that is decided without a failure is predicted as it is decided: the
same goals in the same order, nothing merely possible and no unknown road.  Rules
may read and write the scope and the caches; the engines need to agree on the
caches only. -/
theorem decidable_push_is_predicted (hrules : ∀ rule ∈ decider.chains, rule.Every JournalFree)
    (hcaches : engine.caches = later.caches)
    (hdecide : ((decider.decide ctx).run engine).1 = .ok decision)
    (hquiet : decision.failures = []) :
    ((decider.predict ctx).run later).1 =
      { definiteGoals := (decision.goals.map (·.goals)).getD []
        possibleGoals := []
        unknownRoads := [] } := by
  rw [decide_eq] at hdecide
  rcases hsettle : (Eval.settle (Rule.superviseEach ctx decider.chains)).run
    (decider.start ctx engine) with ⟨answers, after⟩
  rw [hsettle] at hdecide
  obtain ⟨outcomes, houtcomes, hdecision⟩ := ok_of_map hdecide
  subst hdecision
  rw [Eval.collect_eq_ok_iff] at houtcomes
  subst houtcomes
  have htwin : (decider.start ctx engine).Twin ⟨later, {}⟩ := ⟨hcaches, rfl, rfl⟩
  have hforecast := Rule.additive_replays hrules htwin hsettle hquiet Forecast.nothing
  rw [Forecast.addUp_settled] at hforecast
  have hpredict : ((decider.predict ctx).run later).1 =
      ((Forecast.additive .nothing false (Rule.classifyEach ctx decider.chains)).run
        ⟨later, {}⟩).1.flatten := rfl
  have hgoals := Forecast.dedupe_goals_union []
    (GoalSet.untilLocked (outcomes.filterMap Outcome.value?))
  rw [hpredict, hforecast, List.filterMap_map, GoalSet.goals_merge]
  rw [List.nil_append] at hgoals
  rw [← hgoals]
  rfl

/-- A decider whose second chain reads what the hook of the first one wrote, and
closes the goals. -/
def staged : Decider where
  chains :=
    [.leaf "prepare" (.test .onAnyPush) (some fun _ => Probe.set "ready" (.bool true))
      ⟨"prepare", [.ofName "build"], false⟩,
     .fixed (.test ⟨"ready", .cheap, fun _ => do return (← Probe.get? "ready").isSome⟩) none
      ⟨"deliver", [.ofName "build", .ofName "deploy"], true⟩,
     .fixed (.test .onAnyPush) none ⟨"check", [.ofName "check"], false⟩]
  settings := { failurePolicy := .isolateAndReport }

theorem staged_journalFree : ∀ rule ∈ staged.chains, rule.Every JournalFree := by
  have hprepare : ∀ work : Hook, some (fun _ => Probe.set "ready" (.bool true)) = some work →
      JournalFree work := by
    intro work hwork
    cases hwork
    exact .set "ready" (.bool true)
  have hready : JournalFree fun _ => do return (← Probe.get? "ready").isSome :=
    (JournalFree.get? "ready").bind fun a => .pure a.isSome
  apply Rule.everyAmong_iff.mp
  exact ⟨⟨.pure true, hprepare⟩, hready, .pure true, trivial⟩

/-- The goals of the two first chains are predicted by an engine that has learned
a name in the meantime. -/
theorem staged_push_is_predicted :
    ∃ decision, ((staged.decide .empty).run {}).1 = .ok decision ∧ decision.failures = [] ∧
      ((staged.predict .empty).run { learned := [(0, "named")] }).1 =
        { definiteGoals := (decision.goals.map (·.goals)).getD []
          possibleGoals := []
          unknownRoads := [] } := by
  have hfailures : ((staged.decide .empty).run {}).1.map (·.failures) = .ok [] := by
    decide +kernel
  obtain ⟨decision, hdecide, hquiet⟩ := ok_of_map hfailures
  refine ⟨decision, hdecide, hquiet, ?_⟩
  have hcaches : ({} : Engine).caches =
      ({ learned := [(0, "named")] } : Engine).caches := rfl
  exact decidable_push_is_predicted staged_journalFree hcaches hdecide hquiet

end Decider

end PushGoals
