import PushGoals.Proofs.Ahead
import PushGoals.Proofs.Recording

/-!
# What a pass enters in the books

A pass appends events to the log and failures to its scope, and it counts failures and
look-ups.  `Pass.Booked` says that these stay in step from one pass to a later one: the
failures that the events report are counted and are in the scope, in the same order, and
there are as many new look-ups as were made.  `Books` says so of a step, given the memoized
guards that it evaluates for a known push; for a guard these are listed by
`Guard.consulted`.

Tests, hooks and computations may record failures of their own, for which there is neither
an event nor a count.  In plain work they do not, and then the failures in the scope are
just those that the events report.
-/

namespace PushGoals

variable {α β : Type} {plain : Prop}

namespace Event

/-- The failure that an event reports. -/
def failure? : Event → Option RuleFailure
  | .ruleFailed rule error => some ⟨rule, error⟩
  | _ => none

/-- Events of the rules inside a call, not of the call as a whole. -/
def Inner : Event → Prop
  | .ruleMatched .. | .ruleFailed .. | .ruleHalted .. | .guardAlone .. => True
  | .decisionStarted .. | .decisionFinished .. | .predictionFinished .. | .countersFlushed .. =>
      False

end Event

/-- The failures that events report. -/
def reported (events : List Event) : List RuleFailure := events.filterMap Event.failure?

def Metrics.lookUps (m : Metrics) : UInt64 := m.cacheHits + m.cacheMisses

theorem Metrics.lookUps_increment (m : Metrics) (hit : Bool) :
    (m.increment (if hit then .cacheHits else .cacheMisses)).lookUps = m.lookUps + 1 := by
  cases hit with
  | false => exact (UInt64.add_assoc m.cacheHits m.cacheMisses 1).symm
  | true =>
      change m.cacheHits + 1 + m.cacheMisses = m.cacheHits + m.cacheMisses + 1
      rw [UInt64.add_assoc, UInt64.add_comm 1, ← UInt64.add_assoc]

/-- What happened from `p` to `q`, by what was emitted and how many look-ups there were;
`plain` if work records no failures itself. -/
structure Pass.Booked (plain : Prop) (emitted : List Event) (lookUps : Nat) (p q : Pass) :
    Prop where
  policy : q.scope.policy = p.scope.policy
  events : q.engine.events = p.engine.events ++ emitted
  inner : ∀ e ∈ emitted, e.Inner
  failures : ∃ added, q.scope.failures = p.scope.failures ++ added ∧
    (reported emitted).Sublist added ∧ (plain → added = reported emitted)
  ruleFailures : q.engine.metrics.ruleFailures =
    p.engine.metrics.ruleFailures + UInt64.ofNat (reported emitted).length
  lookUps : q.engine.metrics.lookUps = p.engine.metrics.lookUps + UInt64.ofNat lookUps
  decisions : q.engine.metrics.decisions = p.engine.metrics.decisions
  predictions : q.engine.metrics.predictions = p.engine.metrics.predictions
  failFast : p.scope.policy = .failFast → reported emitted = []

namespace Pass.Booked

variable {p q r : Pass} {emitted more : List Event} {lookUps others : Nat}

/-- Neither the log, the counters nor the failures were touched. -/
theorem unchanged (hpolicy : q.scope.policy = p.scope.policy)
    (hevents : q.engine.events = p.engine.events) (hmetrics : q.engine.metrics = p.engine.metrics)
    (hfailures : q.scope.failures = p.scope.failures) : Booked plain [] 0 p q where
  policy := hpolicy
  events := by rw [hevents, List.append_nil]
  inner _ he := nomatch he
  failures := ⟨[], hfailures.trans (List.append_nil _).symm, List.Sublist.slnil, fun _ => rfl⟩
  ruleFailures := by rw [hmetrics]; exact (UInt64.add_zero _).symm
  lookUps := by rw [hmetrics]; exact (UInt64.add_zero _).symm
  decisions := by rw [hmetrics]
  predictions := by rw [hmetrics]
  failFast _ := rfl

theorem refl (p : Pass) : Booked plain [] 0 p p := unchanged rfl rfl rfl rfl

theorem trans (hpq : Booked plain emitted lookUps p q) (hqr : Booked plain more others q r) :
    Booked plain (emitted ++ more) (lookUps + others) p r := by
  have hreported : reported (emitted ++ more) = reported emitted ++ reported more :=
    List.filterMap_append
  refine ⟨hqr.policy.trans hpq.policy, ?_, ?_, ?_, ?_, ?_, hqr.decisions.trans hpq.decisions,
    hqr.predictions.trans hpq.predictions, fun hpolicy => ?_⟩
  · rw [hqr.events, hpq.events, List.append_assoc]
  · exact List.forall_mem_append.mpr ⟨hpq.inner, hqr.inner⟩
  · obtain ⟨added, hadded, hsublist, hplain⟩ := hpq.failures
    obtain ⟨further, hfurther, hsublistMore, hplainMore⟩ := hqr.failures
    rw [hreported]
    refine ⟨added ++ further, ?_, hsublist.append hsublistMore, fun h => ?_⟩
    · rw [hfurther, hadded, List.append_assoc]
    · rw [hplain h, hplainMore h]
  · rw [hqr.ruleFailures, hpq.ruleFailures, hreported, List.length_append, UInt64.ofNat_add,
      UInt64.add_assoc]
  · rw [hqr.lookUps, hpq.lookUps, UInt64.ofNat_add, UInt64.add_assoc]
  · rw [hreported, hpq.failFast hpolicy, hqr.failFast (hpq.policy.trans hpolicy)]
    rfl

theorem emit {e : Event} (hinner : e.Inner) (hsilent : e.failure? = none) (p : Pass) :
    Booked plain [e] 0 p (p.emit e) := by
  have hreported : reported [e] = [] := List.filterMap_cons_none hsilent
  refine ⟨rfl, rfl, ?_, ?_, ?_, (UInt64.add_zero _).symm, rfl, rfl, fun _ => hreported⟩
  · exact List.forall_mem_singleton.mpr hinner
  · rw [hreported]
    exact ⟨[], (List.append_nil _).symm, List.Sublist.slnil, fun _ => rfl⟩
  · rw [hreported]
    exact (UInt64.add_zero _).symm

/-- Work adds to the failures what it records itself. -/
theorem probe {work : Context → Probe α} (hplain : plain → RecordsNothing work) (ctx : Context)
    (p : Pass) : Booked plain [] 0 p ((Eval.ofProbe (work ctx)).run.run p).2 := by
  have hfailures := p.failures_withScratch ((work ctx).run p.scratch).2
  refine ⟨rfl, (List.append_nil _).symm, fun _ he => (nomatch he),
    ⟨_, hfailures, List.nil_sublist _, fun h => hplain h ctx p.scratch⟩,
    (UInt64.add_zero _).symm, (UInt64.add_zero _).symm, rfl, rfl, fun _ => rfl⟩

/-- An isolated failure is noted in the log, in the scope and in the counters. -/
theorem isolate (hpolicy : p.scope.policy = .isolateAndReport) (name : String) (e : GoalError) :
    Booked plain [.ruleFailed name e.message] 0 p ((Eval.isolate name e).run p).2 where
  policy := rfl
  events := rfl
  inner := List.forall_mem_singleton.mpr trivial
  failures := ⟨[⟨name, e.message⟩], rfl, List.Sublist.refl _, fun _ => rfl⟩
  ruleFailures := rfl
  lookUps := (UInt64.add_zero _).symm
  decisions := rfl
  predictions := rfl
  failFast hfast := nomatch hpolicy.symm.trans hfast

/-- Hit or miss, a look-up is counted once. -/
theorem lookUp (ref : CacheRef) (key : CacheKey) (p : Pass) :
    Booked plain [] 1 p ((Eval.lookUp ref key).run p).2 := by
  let hit := ((p.engine.caches.get ref).get key).1.isSome
  have hmetrics : ((Eval.lookUp ref key).run p).2.engine.metrics =
      p.engine.metrics.increment (if hit then .cacheHits else .cacheMisses) := rfl
  refine ⟨rfl, (List.append_nil _).symm, fun _ he => (nomatch he),
    ⟨[], (List.append_nil _).symm, List.Sublist.slnil, fun _ => rfl⟩, ?_, ?_, ?_, ?_, fun _ => rfl⟩
  · rw [hmetrics]
    cases hit <;> exact (UInt64.add_zero _).symm
  · rw [hmetrics, Metrics.lookUps_increment]
    rfl
  · rw [hmetrics]
    cases hit <;> rfl
  · rw [hmetrics]
    cases hit <;> rfl

end Pass.Booked

/-! ## Steps -/

/-- The work keeps the books in step, and `consulted` lists what it looks up. -/
def Work.Books (plain : Prop) (consulted : Pass → List Guard) (work : Work α) : Prop :=
  ∀ p, ∃ emitted, Pass.Booked plain emitted (consulted p).length p (work.run p).2

def Eval.Books (plain : Prop) (consulted : Pass → List Guard) (step : Eval α) : Prop :=
  Work.Books plain consulted step.run

/-- Nothing is looked up. -/
def nothingConsulted (_ : Pass) : List Guard := []

/-- What is listed for the continuation of a step, if it succeeds. -/
def Eval.following (step : Eval α) (next : α → Pass → List Guard) (p : Pass) : List Guard :=
  match (step.run.run p).1 with
  | .ok a => next a (step.run.run p).2
  | .error _ => []

namespace Work.Books

theorem pure (a : α) : Books plain nothingConsulted (pure a : Work α) := fun p => ⟨[], .refl p⟩

theorem bind {work : Work α} {next : α → Work β} {first : Pass → List Guard}
    (hwork : Books plain first work) (second : α → Pass → List Guard)
    (hnext : ∀ a, Books plain (second a) (next a)) :
    Books plain (fun p => first p ++ second (work.run p).1 (work.run p).2) (work >>= next) := by
  intro p
  obtain ⟨emitted, hfirst⟩ := hwork p
  obtain ⟨more, hsecond⟩ := hnext (work.run p).1 (work.run p).2
  refine ⟨emitted ++ more, ?_⟩
  rw [run_bind, List.length_append]
  exact hfirst.trans hsecond

end Work.Books

/-- What a step that failed in isolation leaves behind. -/
theorem Eval.run_supervised_isolated {V : Type} {name : Work String}
    (hname : ∀ p, (name.run p).2 = p) {step : Eval (Outcome V)} {p : Pass} {e : GoalError}
    (herror : (step.run.run p).1 = .error e)
    (hpolicy : (step.run.run p).2.scope.policy = .isolateAndReport) :
    (supervised name step).run.run p =
      (.ok .noMatch, ((isolate (name.run (step.run.run p).2).1 e).run (step.run.run p).2).2) := by
  have hattempt : (attempt step).run.run p = (.ok (step.run.run p).1, (step.run.run p).2) := rfl
  have hthen := hname (step.run.run p).2
  unfold supervised
  rw [run_bind, hattempt, herror]
  generalize (step.run.run p).2 = after at hpolicy hthen ⊢
  obtain ⟨engine, policy, values, failures⟩ := after
  cases hpolicy
  change (Except.ok Outcome.noMatch, ((isolate _ e).run (name.run _).2).2) = _
  rw [hthen]
  rfl

namespace Eval.Books

variable {first : Pass → List Guard} {step : Eval α}

theorem ok (a : α) : Books plain nothingConsulted (pure a : Eval α) := fun p => ⟨[], .refl p⟩

theorem ofProbe {work : Context → Probe α} (hplain : plain → RecordsNothing work)
    (ctx : Context) : Books plain nothingConsulted (Eval.ofProbe (work ctx)) :=
  fun p => ⟨[], .probe hplain ctx p⟩

theorem learn (key : RuleKey) (name : Option String) :
    Books plain nothingConsulted (liftM (Eval.learn key name) : Eval Unit) := by
  intro p
  cases name with
  | none => exact ⟨[], .refl p⟩
  | some name => exact ⟨[], .unchanged rfl rfl rfl rfl⟩

theorem bind {next : α → Eval β} (hstep : Books plain first step) (second : α → Pass → List Guard)
    (hnext : ∀ a, Books plain (second a) (next a)) :
    Books plain (fun p => first p ++ step.following second p) (step >>= next) := by
  intro p
  obtain ⟨emitted, hfirst⟩ := hstep p
  unfold following
  rw [run_bind, List.length_append]
  cases (step.run.run p).1 with
  | error e => exact ⟨emitted, hfirst⟩
  | ok a =>
      obtain ⟨more, hsecond⟩ := hnext a (step.run.run p).2
      exact ⟨emitted ++ more, hfirst.trans hsecond⟩

/-- A continuation that looks nothing up. -/
theorem bind_none {next : α → Eval β} (hstep : Books plain first step)
    (hnext : ∀ a, Books plain nothingConsulted (next a)) : Books plain first (step >>= next) := by
  intro p
  obtain ⟨emitted, hbooked⟩ := hstep.bind (fun _ => nothingConsulted) hnext p
  have hfollowing : step.following (fun _ => nothingConsulted) p = [] := by
    unfold following
    cases (step.run.run p).1 <;> rfl
  simp only [hfollowing, List.append_nil] at hbooked
  exact ⟨emitted, hbooked⟩

theorem map (hstep : Books plain first step) (f : α → β) :
    Books plain first (do let a ← step; return f a) :=
  hstep.bind_none fun a => ok (f a)

/-- Under isolation a failure is reported once, by the name the rule has then. -/
theorem supervised {V : Type} {name : Work String} (hname : ∀ p, (name.run p).2 = p)
    {step : Eval (Outcome V)} (hstep : Books plain first step) :
    Books plain first (Eval.supervised name step) := by
  intro p
  obtain ⟨emitted, hbooked⟩ := hstep p
  cases hanswer : (step.run.run p).1 with
  | ok outcome =>
      rw [run_supervised_ok hname hanswer]
      by_cases hmatched : outcome.isMatched = true
      · rw [if_pos hmatched]
        have hmatch (called : String) : (Event.ruleMatched called).Inner := trivial
        exact ⟨_, hbooked.trans (.emit (hmatch _) rfl _)⟩
      · rw [if_neg hmatched]
        exact ⟨emitted, hbooked⟩
  | error e =>
      cases hpolicy : (step.run.run p).2.scope.policy with
      | failFast =>
          rw [run_supervised_error name hanswer hpolicy]
          exact ⟨emitted, hbooked⟩
      | isolateAndReport =>
          rw [run_supervised_isolated hname hanswer hpolicy]
          exact ⟨_, hbooked.trans (.isolate hpolicy _ e)⟩

/-- All steps of a list, each from the pass that those before it lead to. -/
theorem settle_cons {rest : List (Eval α)} {others : Pass → List Guard}
    (hstep : Books plain first step)
    (hrest : Work.Books plain others (settle rest)) :
    Work.Books plain (fun p => first p ++ others (step.run.run p).2) (settle (step :: rest)) := by
  intro p
  obtain ⟨emitted, hfirst⟩ := hstep p
  obtain ⟨more, hsecond⟩ := hrest (step.run.run p).2
  refine ⟨emitted ++ more, ?_⟩
  rw [run_settle_cons, List.length_append]
  exact hfirst.trans hsecond

theorem allSettled {steps : List (Eval α)} (hsteps : Work.Books plain first (settle steps)) :
    Books plain first (Eval.allSettled steps) := by
  intro p
  rw [run_allSettled]
  exact hsteps p

end Eval.Books

/-! ## Guards -/

namespace Guard

variable (ctx : Context)

mutual

/-- The memoized guards that are evaluated for a known push when a guard is evaluated from
`p`, in order.  What is inside a memoized guard is evaluated when nothing was found. -/
def consulted : Guard → Pass → List Guard
  | .test _, _ => []
  | .custom .., _ => []
  | .all parts, p => consultedEach parts p
  | .any parts, p => consultedEach parts p
  | .negation inner, p => consulted inner p
  | .memo cache inner, p =>
      match ctx.id with
      | none => consulted inner p
      | some id =>
          let found := (Eval.lookUp cache ⟨id, inner.name⟩).run p
          .memo cache inner :: if found.1.isSome then [] else consulted inner found.2
  | .prepared preparations inner, p =>
      let prepare : Eval Unit :=
        Eval.ofProbe (modify (Preparation.runAll preparations))
      consulted inner (prepare.run.run p).2
  | .mapped _ inner, p => consulted inner p

def consultedEach : List Guard → Pass → List Guard
  | [], _ => []
  | g :: rest, p => consulted g p ++ consultedEach rest ((g.eval ctx).run.run p).2

end

theorem memo_books (cache : CacheRef) {inner : Guard}
    (hinner : Eval.Books plain (inner.consulted ctx) (inner.eval ctx)) :
    Eval.Books plain (consulted ctx (.memo cache inner)) (eval ctx (.memo cache inner)) := by
  intro p
  rw [eval, Eval.memoized, consulted]
  cases ctx.id with
  | none => exact hinner p
  | some id =>
      let lookUp : Eval (Option Bool) := liftM (Eval.lookUp cache ⟨id, inner.name⟩)
      have hlookUp : Eval.Books plain (fun _ => [.memo cache inner]) lookUp :=
        fun p => ⟨[], .lookUp cache _ p⟩
      refine hlookUp.bind (fun hit q => if hit.isSome then [] else consulted ctx inner q)
        (fun hit => ?_) p
      cases hit with
      | some v => exact .ok _
      | none =>
          refine hinner.bind_none fun outcome => ?_
          cases outcome with
          | matched v => exact fun _ => ⟨[], .unchanged rfl rfl rfl rfl⟩
          | noMatch => exact .ok _
          | halt => exact .ok _

theorem eval_books {guard : Guard} (hplain : plain → guard.Every RecordsNothing) :
    Eval.Books plain (guard.consulted ctx) (guard.eval ctx) := by
  have hformula {parts : List Guard}
      (ih : ∀ g ∈ parts, (plain → g.Every RecordsNothing) →
        Eval.Books plain (g.consulted ctx) (g.eval ctx))
      (hplain : plain → EveryAmong RecordsNothing parts) :
      Eval.Books plain (consultedEach ctx parts) (Eval.allSettled (evalEach ctx parts)) := by
    apply Eval.Books.allSettled
    induction parts with
    | nil => exact Work.Books.pure []
    | cons g rest ihrest =>
        obtain ⟨hg, hrest⟩ := List.forall_mem_cons.mp ih
        exact (hg fun h => (hplain h).1).settle_cons (ihrest hrest fun h => (hplain h).2)
  induction guard using Guard.induct with
  | test t => exact (Eval.Books.ofProbe hplain ctx).map Outcome.matched
  | custom name cost run => exact Eval.Books.ofProbe hplain ctx
  | all parts ih => exact (hformula ih hplain).map _
  | any parts ih => exact (hformula ih hplain).map _
  | negation inner ih => exact (ih hplain).map _
  | memo cache inner ih => exact memo_books ctx cache (ih hplain)
  | prepared preparations inner ih =>
      let prepare : Eval Unit :=
        Eval.ofProbe (modify (Preparation.runAll preparations))
      have hprepare : Eval.Books plain nothingConsulted prepare :=
        .ofProbe (fun h => (hplain h).1) ctx
      intro p
      exact hprepare.bind (fun _ => consulted ctx inner) (fun _ => ih fun h => (hplain h).2) p
  | mapped f inner ih => exact (ih hplain).map _

theorem passes_books {guard : Guard} (hplain : plain → guard.Every RecordsNothing) :
    Eval.Books plain (guard.consulted ctx) (guard.passes ctx) :=
  (eval_books ctx hplain).map Outcome.passes

end Guard

end PushGoals
