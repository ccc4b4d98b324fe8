import PushGoals.Proofs.History
import PushGoals.Proofs.Standing
import PushGoals.Proofs.Prediction.Bookkeeping

/-!
# Counters and events over a history

Every call on a decider is counted once, and what it does inside is accounted for: the
failures of the decision that it returns are counted, as many as there are, and each is
an event in the log, between the event that starts the decision and the one that
finishes it; every memoized guard that is evaluated for a known push is a hit or a miss.
So the counters after a history of calls are those before it and the sums over the
calls.
-/

namespace PushGoals

def Call.isDecision : Call → Bool
  | .decide _ => true
  | .predict _ => false

theorem reported_append (first rest : List Event) :
    reported (first ++ rest) = reported first ++ reported rest :=
  List.filterMap_append

/-- What a prediction adds to counters and log: it is counted once, and no failure is
counted or reported in it. -/
theorem Prediction.ofClassification_counts {classification : Work Forecast}
    {consulted : Pass → List Guard} (hbooks : Work.Books False consulted classification)
    (engine : Engine) :
    ((ofClassification classification).run engine).2.metrics.decisions =
        engine.metrics.decisions ∧
      ((ofClassification classification).run engine).2.metrics.predictions =
        engine.metrics.predictions + 1 ∧
      ((ofClassification classification).run engine).2.metrics.ruleFailures =
        engine.metrics.ruleFailures ∧
      ((ofClassification classification).run engine).2.metrics.lookUps =
        engine.metrics.lookUps + UInt64.ofNat (consulted ⟨engine, {}⟩).length ∧
      ∃ emitted, reported emitted = [] ∧
        ((ofClassification classification).run engine).2.events = engine.events ++ emitted := by
  obtain ⟨emitted, hbooked⟩ := hbooks ⟨engine, {}⟩
  -- The scope of a prediction fails fast, so nothing was isolated.
  have hnone : reported emitted = [] := hbooked.failFast rfl
  have hfailures := hbooked.ruleFailures
  rw [hnone] at hfailures
  let prediction := ((ofClassification classification).run engine).1
  refine ⟨hbooked.decisions, congrArg (· + 1) hbooked.predictions,
    hfailures.trans (UInt64.add_zero _), hbooked.lookUps,
    emitted ++ [.predictionFinished prediction.definiteGoals.length
      prediction.possibleGoals.length prediction.unknownRoads.length], ?_, ?_⟩
  · rw [reported_append, hnone]
    rfl
  · rw [← List.append_assoc, ← hbooked.events]
    rfl

namespace Decider

variable {decider : Decider} {ctx : Context} {engine : Engine}

/-- The failures of the decision that a call returns, if it returns one. -/
def returned (decider : Decider) (engine : Engine) : Call → List RuleFailure
  | .decide ctx =>
      match ((decider.decide ctx).run engine).1 with
      | .ok decision => decision.failures
      | .error _ => []
  | .predict _ => []

/-- The failures that a call reports in the log. -/
def reportedIn (decider : Decider) (engine : Engine) (call : Call) : List RuleFailure :=
  reported ((decider.after engine call).events.drop engine.events.length)

/-- The memoized guards that a call evaluates for a known push. -/
def consulted (decider : Decider) (engine : Engine) : Call → List Guard
  | .decide ctx => Rule.consultedEach ctx decider.chains (decider.start ctx engine)
  | .predict ctx => Forecast.consulted false (Rule.contributing ctx decider.chains) ⟨engine, {}⟩

/-- The event with which a decision ends, if it does. -/
def finished (ctx : Context) : Except GoalError Decision → List Event
  | .ok decision =>
      [.decisionFinished (pushLabel ctx) (decision.goals.map (·.name)) decision.goalCount
        decision.failures.length]
  | .error _ => []

/-! ## Decisions -/

/-- The pass that the chains of a decision lead to. -/
def settled (decider : Decider) (ctx : Context) (engine : Engine) : Pass :=
  ((Eval.settle (Rule.superviseEach ctx decider.chains)).run (decider.start ctx engine)).2

theorem failures_of_decide {decision : Decision}
    (hdecide : ((decider.decide ctx).run engine).1 = .ok decision) :
    decision.failures = (decider.settled ctx engine).scope.failures := by
  rw [decide_eq] at hdecide
  obtain ⟨outcomes, -, rfl⟩ := ok_of_map hdecide
  rfl

theorem failFast_of_decide {e : GoalError}
    (hdecide : ((decider.decide ctx).run engine).1 = .error e) :
    decider.settings.failurePolicy = .failFast := by
  cases hpolicy : decider.settings.failurePolicy with
  | failFast => rfl
  | isolateAndReport =>
      have hstart : (decider.start ctx engine).scope.policy = .isolateAndReport := hpolicy
      obtain ⟨outcomes, houtcomes⟩ := Rule.superviseEach_runs hstart
      rw [decide_eq, houtcomes] at hdecide
      cases hdecide

/-- What a decision leaves is what its chains lead to, and the event of its end. -/
theorem after_decide (decider : Decider) (ctx : Context) (engine : Engine) :
    (decider.after engine (.decide ctx)).metrics = (decider.settled ctx engine).engine.metrics ∧
      (decider.after engine (.decide ctx)).events =
        (decider.settled ctx engine).engine.events ++
          finished ctx ((decider.decide ctx).run engine).1 := by
  have hafter : decider.after engine (.decide ctx) = ((decider.decide ctx).run engine).2 := rfl
  rw [hafter, decide_run, settled]
  cases Eval.collect ((Eval.settle (Rule.superviseEach ctx decider.chains)).run
    (decider.start ctx engine)).1 with
  | ok outcomes => exact ⟨rfl, rfl⟩
  | error e => exact ⟨rfl, (List.append_nil _).symm⟩

theorem settled_booked (decider : Decider) (ctx : Context) (engine : Engine) :
    ∃ emitted, Pass.Booked decider.Plain emitted (decider.consulted engine (.decide ctx)).length
      (decider.start ctx engine) (decider.settled ctx engine) :=
  Rule.superviseEach_books (fun rule hrule => rule.eval_books ctx fun hplain => hplain rule hrule) _

/-- The failures that events report are among those of the decision, and are all of them
if nothing else records any. -/
theorem reported_sublist_returned {emitted : List Event} {lookUps : Nat}
    (hbooked : Pass.Booked decider.Plain emitted lookUps (decider.start ctx engine)
      (decider.settled ctx engine)) :
    (reported emitted).Sublist (decider.returned engine (.decide ctx)) ∧
      (decider.Plain → reported emitted = decider.returned engine (.decide ctx)) := by
  rw [returned]
  cases hdecide : ((decider.decide ctx).run engine).1 with
  | ok decision =>
      obtain ⟨added, hadded, hsublist, hplain⟩ := hbooked.failures
      have hfailures : decision.failures = added := (failures_of_decide hdecide).trans hadded
      change (reported emitted).Sublist decision.failures ∧
        (decider.Plain → reported emitted = decision.failures)
      rw [hfailures]
      exact ⟨hsublist, fun h => (hplain h).symm⟩
  | error e =>
      rw [hbooked.failFast (failFast_of_decide hdecide)]
      exact ⟨List.Sublist.slnil, fun _ => rfl⟩

/-- The log of a decision: its start, what its rules report, and its end, if it has one. -/
theorem events_of_decide (decider : Decider) (ctx : Context) (engine : Engine) :
    ∃ emitted, (∀ e ∈ emitted, e.Inner) ∧
      reported emitted = decider.reportedIn engine (.decide ctx) ∧
      (decider.after engine (.decide ctx)).events =
        engine.events ++
          .decisionStarted (pushLabel ctx) decider.chains.length :: emitted ++
          finished ctx ((decider.decide ctx).run engine).1 ∧
      Pass.Booked decider.Plain emitted (decider.consulted engine (.decide ctx)).length
        (decider.start ctx engine) (decider.settled ctx engine) := by
  obtain ⟨emitted, hbooked⟩ := decider.settled_booked ctx engine
  have hstart : (decider.start ctx engine).engine.events =
      engine.events ++ [.decisionStarted (pushLabel ctx) decider.chains.length] := rfl
  have hevents : (decider.after engine (.decide ctx)).events =
      engine.events ++
        .decisionStarted (pushLabel ctx) decider.chains.length :: emitted ++
        finished ctx ((decider.decide ctx).run engine).1 := by
    rw [(decider.after_decide ctx engine).2, hbooked.events, hstart,
      List.append_assoc engine.events]
    rfl
  refine ⟨emitted, hbooked.inner, ?_, hevents, hbooked⟩
  have hsilent : reported (finished ctx ((decider.decide ctx).run engine).1) = [] := by
    cases ((decider.decide ctx).run engine).1 <;> rfl
  rw [reportedIn, hevents, List.append_assoc, List.drop_left]
  change reported emitted = reported (emitted ++ finished ctx _)
  rw [reported_append, hsilent, List.append_nil]

/-! ## Calls -/

/-- What a call adds to the counters. -/
structure Counted (decider : Decider) (engine : Engine) (call : Call) : Prop where
  decisions : (decider.after engine call).metrics.decisions =
    engine.metrics.decisions + UInt64.ofNat (if call.isDecision then 1 else 0)
  predictions : (decider.after engine call).metrics.predictions =
    engine.metrics.predictions + UInt64.ofNat (if !call.isDecision then 1 else 0)
  ruleFailures : (decider.after engine call).metrics.ruleFailures =
    engine.metrics.ruleFailures + UInt64.ofNat (decider.reportedIn engine call).length
  lookUps : (decider.after engine call).metrics.lookUps =
    engine.metrics.lookUps + UInt64.ofNat (decider.consulted engine call).length

theorem counted_decide (decider : Decider) (ctx : Context) (engine : Engine) :
    decider.Counted engine (.decide ctx) := by
  obtain ⟨emitted, -, hreported, -, hbooked⟩ := decider.events_of_decide ctx engine
  have hmetrics := (decider.after_decide ctx engine).1
  refine ⟨?_, ?_, ?_, ?_⟩
  · rw [hmetrics, hbooked.decisions]
    rfl
  · rw [hmetrics, hbooked.predictions]
    exact (UInt64.add_zero _).symm
  · rw [hmetrics, hbooked.ruleFailures, hreported]
    rfl
  · rw [hmetrics, hbooked.lookUps]
    rfl

/-- What a prediction adds to the counters; it reports no failure. -/
theorem counted_predict (decider : Decider) (ctx : Context) (engine : Engine) :
    decider.Counted engine (.predict ctx) ∧ decider.reportedIn engine (.predict ctx) = [] := by
  have hbooks : Work.Books False (Forecast.consulted false (Rule.contributing ctx decider.chains))
      (Forecast.additive .nothing false (Rule.classifyEach ctx decider.chains)) :=
    Rule.additive_contributing fun rule _ => rule.classifyFailed_books ctx
  obtain ⟨hdecisions, hpredictions, hfailures, hlookUps, emitted, hnone, hevents⟩ :=
    Prediction.ofClassification_counts hbooks engine
  have hreported : decider.reportedIn engine (.predict ctx) = [] := by
    have hafter : (decider.after engine (.predict ctx)).events = engine.events ++ emitted := hevents
    rw [reportedIn, hafter, List.drop_left, hnone]
  refine ⟨⟨hdecisions.trans (UInt64.add_zero _).symm, hpredictions, ?_, hlookUps⟩, hreported⟩
  rw [hreported]
  exact hfailures.trans (UInt64.add_zero _).symm

theorem counted (decider : Decider) (engine : Engine) (call : Call) :
    decider.Counted engine call := by
  cases call with
  | decide ctx => exact decider.counted_decide ctx engine
  | predict ctx => exact (decider.counted_predict ctx engine).1

/-- No failure is reported in a prediction, nor where the first failure ends the pass. -/
theorem reportedIn_eq_nil {call : Call}
    (hcall : call.isDecision = false ∨ decider.settings.failurePolicy = .failFast) :
    decider.reportedIn engine call = [] := by
  cases call with
  | predict ctx => exact (decider.counted_predict ctx engine).2
  | decide ctx =>
      have hpolicy := hcall.resolve_left (fun hprediction => nomatch hprediction)
      obtain ⟨emitted, -, hreported, -, hbooked⟩ := decider.events_of_decide ctx engine
      rw [← hreported]
      exact hbooked.failFast hpolicy

/-- Where rule sets alone record failures, a call returns just those that it reports. -/
theorem Plain.reportedIn_eq (hplain : decider.Plain) (engine : Engine) (call : Call) :
    decider.reportedIn engine call = decider.returned engine call := by
  cases call with
  | predict ctx => exact (decider.counted_predict ctx engine).2
  | decide ctx =>
      obtain ⟨emitted, -, hreported, -, hbooked⟩ := decider.events_of_decide ctx engine
      rw [← hreported]
      exact (reported_sublist_returned hbooked).2 hplain

/-! ## Histories -/

/-- The engine after calls on deciders, one after another. -/
def afterEach : Engine → List (Decider × Call) → Engine
  | engine, [] => engine
  | engine, (decider, call) :: rest => afterEach (decider.after engine call) rest

/-- The sum over calls of what each counts for in the engine that it meets. -/
def total (count : Decider → Engine → Call → Nat) : Engine → List (Decider × Call) → Nat
  | _, [] => 0
  | engine, (decider, call) :: rest =>
      count decider engine call + total count (decider.after engine call) rest

theorem measure_afterEach (measure : Engine → UInt64) {count : Decider → Engine → Call → Nat}
    (hstep : ∀ decider engine call,
      measure (decider.after engine call) =
        measure engine + UInt64.ofNat (count decider engine call))
    (engine : Engine) (calls : List (Decider × Call)) :
    measure (afterEach engine calls) = measure engine + UInt64.ofNat (total count engine calls) := by
  induction calls generalizing engine with
  | nil => exact (UInt64.add_zero _).symm
  | cons first rest ih =>
      obtain ⟨decider, call⟩ := first
      rw [afterEach, total, ih, hstep, UInt64.ofNat_add, UInt64.add_assoc]

theorem total_congr {count again : Decider → Engine → Call → Nat} {calls : List (Decider × Call)}
    (hsame : ∀ entry ∈ calls, ∀ engine,
      count entry.1 engine entry.2 = again entry.1 engine entry.2) (engine : Engine) :
    total count engine calls = total again engine calls := by
  induction calls generalizing engine with
  | nil => rfl
  | cons first rest ih =>
      obtain ⟨hfirst, hrest⟩ := List.forall_mem_cons.mp hsame
      obtain ⟨decider, call⟩ := first
      rw [total, total, hfirst engine, ih hrest]

theorem total_eq_countP (P : Call → Bool) (engine : Engine) (calls : List (Decider × Call)) :
    total (fun _ _ call => if P call then 1 else 0) engine calls = calls.countP (P ·.2) := by
  induction calls generalizing engine with
  | nil => rfl
  | cons first rest ih =>
      obtain ⟨decider, call⟩ := first
      rw [total, ih, List.countP_cons, Nat.add_comm]

/-- The counters after a history and the log of each decision account for all that was
decided, predicted, isolated and looked up, as far as 64 bits go.  The failures of a
decision are among those counted and reported only if no test, hook or computation records
failures itself. -/
theorem counters_and_events_account (engine : Engine) (calls : List (Decider × Call)) :
    (afterEach engine calls).metrics.decisions =
        engine.metrics.decisions + UInt64.ofNat (calls.countP (·.2.isDecision)) ∧
      (afterEach engine calls).metrics.predictions =
        engine.metrics.predictions + UInt64.ofNat (calls.countP (!·.2.isDecision)) ∧
      (afterEach engine calls).metrics.ruleFailures =
        engine.metrics.ruleFailures + UInt64.ofNat (total
          (fun decider engine call => (decider.reportedIn engine call).length) engine calls) ∧
      ((∀ entry ∈ calls, entry.1.Plain) →
        (afterEach engine calls).metrics.ruleFailures =
          engine.metrics.ruleFailures + UInt64.ofNat (total
            (fun decider engine call => (decider.returned engine call).length) engine calls)) ∧
      (afterEach engine calls).metrics.cacheHits + (afterEach engine calls).metrics.cacheMisses =
        engine.metrics.cacheHits + engine.metrics.cacheMisses + UInt64.ofNat (total
          (fun decider engine call => (decider.consulted engine call).length) engine calls) ∧
      (∀ (decider : Decider) (engine : Engine) (call : Call),
        call.isDecision = false ∨ decider.settings.failurePolicy = .failFast →
          (decider.after engine call).metrics.ruleFailures = engine.metrics.ruleFailures) ∧
      ∀ (decider : Decider) (ctx : Context) (engine : Engine),
        ∃ emitted, (∀ e ∈ emitted, e.Inner) ∧
          (reported emitted).Sublist (decider.returned engine (.decide ctx)) ∧
          (decider.Plain → reported emitted = decider.returned engine (.decide ctx)) ∧
          reported emitted = decider.reportedIn engine (.decide ctx) ∧
          (decider.after engine (.decide ctx)).events =
            engine.events ++
              .decisionStarted (pushLabel ctx) decider.chains.length :: emitted ++
              finished ctx ((decider.decide ctx).run engine).1 := by
  have hfailures : (afterEach engine calls).metrics.ruleFailures =
      engine.metrics.ruleFailures + UInt64.ofNat (total
        (fun decider engine call => (decider.reportedIn engine call).length) engine calls) :=
    measure_afterEach (·.metrics.ruleFailures)
      (fun decider engine call => (decider.counted engine call).ruleFailures) engine calls
  refine ⟨?_, ?_, hfailures, fun hplain => ?_, ?_, ?_, fun decider ctx engine => ?_⟩
  · rw [← total_eq_countP Call.isDecision engine]
    exact measure_afterEach (·.metrics.decisions)
      (fun decider engine call => (decider.counted engine call).decisions) engine calls
  · rw [← total_eq_countP (!·.isDecision) engine]
    exact measure_afterEach (·.metrics.predictions)
      (fun decider engine call => (decider.counted engine call).predictions) engine calls
  · have hsame : total (fun decider engine call => (decider.reportedIn engine call).length)
          engine calls =
        total (fun decider engine call => (decider.returned engine call).length) engine calls :=
      total_congr (fun entry hentry engine =>
        congrArg List.length ((hplain entry hentry).reportedIn_eq engine entry.2)) engine
    rw [hfailures, hsame]
  · exact measure_afterEach (·.metrics.lookUps)
      (fun decider engine call => (decider.counted engine call).lookUps) engine calls
  · intro decider engine call hcall
    rw [(decider.counted engine call).ruleFailures, reportedIn_eq_nil hcall]
    exact UInt64.add_zero _
  · obtain ⟨emitted, hinner, hreported, hevents, hbooked⟩ := decider.events_of_decide ctx engine
    obtain ⟨hsublist, hplain⟩ := reported_sublist_returned hbooked
    exact ⟨emitted, hinner, hsublist, hplain, hreported, hevents⟩

/-- One rule that cannot be evaluated without a branch. -/
def brittle (policy : FailurePolicy) : Decider where
  chains := [.fixed (.test .toDefaultBranch) none ⟨"build", [.ofName "build"], false⟩]
  settings := { failurePolicy := policy }

/-- The failure ends the decision and is not counted; in isolation it is counted. -/
theorem brittle_is_counted_in_isolation :
    (((brittle .failFast).decide .empty).run {}).1 = .error (.insufficientData "branch") ∧
      ((brittle .failFast).after {} (.decide .empty)).metrics.ruleFailures = 0 ∧
      (brittle .isolateAndReport).returned {} (.decide .empty) =
        [⟨"toDefaultBranch", "insufficient data: branch is not available"⟩] ∧
      (afterEach {} [(brittle .isolateAndReport, .decide .empty)]).metrics.ruleFailures = 1 := by
  have hplain : (brittle .isolateAndReport).Plain := by
    intro rule hrule
    rw [List.mem_singleton.mp hrule]
    exact StandardTest.toDefaultBranch.recordsNothing
  have hfast := (counters_and_events_account {} []).2.2.2.2.2.1 (brittle .failFast) {}
    (.decide .empty) (.inr rfl)
  have hisolated := (counters_and_events_account {}
    [(brittle .isolateAndReport, .decide .empty)]).2.2.2.1 (List.forall_mem_singleton.mpr hplain)
  exact ⟨rfl, hfast, rfl, hisolated⟩

/-- A tree whose hook records a failure itself. -/
def candid : Decider where
  chains :=
    [.leaf "build" (.test .onAnyPush) (some fun _ => Probe.recordFailure "image" "no registry")
      ⟨"build", [.ofName "build"], false⟩]
  settings := { failurePolicy := .failFast }

/-- What the hook records is in the decision, under a policy that isolates nothing, and
is neither counted nor reported. -/
theorem recorded_failure_is_not_counted :
    candid.settings.failurePolicy = .failFast ∧
      candid.returned {} (.decide .empty) = [⟨"image", "no registry"⟩] ∧
      candid.reportedIn {} (.decide .empty) = [] ∧
      (candid.after {} (.decide .empty)).metrics.ruleFailures = 0 ∧
      (candid.after {} (.decide .empty)).metrics.ruleFailures ≠
        UInt64.ofNat (candid.returned {} (.decide .empty)).length := by
  refine ⟨rfl, rfl, rfl, rfl, ?_⟩
  decide

end Decider

end PushGoals
