import PushGoals.Proofs.Prediction.Revelation

/-!
# What breaks becomes an unknown road

A prediction evaluates a rule as a whole first, and if that fails for want of data, it
walks the rule.  Errors of other kinds are meant to become unknown roads.  They do if
nothing that may break stands behind something that may lack data, in any formula or set
of contributors: for then whatever breaks is what the evaluation fails with.

Contributors are looked at one by one once their set has failed.  So if nothing hangs on
the scope, they may stand in any order, except that a certain lock ends the walk: what
breaks behind it goes unseen.
-/

namespace PushGoals

variable {alarm : Journal → Prop} {ctx : Context} {known : List Guard} {rule : GoalRule}

namespace Rule

theorem attested_orderly :
    Attested alarm Pass.FailFast ctx (fun _ => True) (Orderly ctx) known where
  emit _ _ hp := hp
  hook hrings _ := runHook_frank hrings
  guard _ hrings _ hguard := Guard.passes_frank hrings hguard
  rule _ hrings _ hrule := by
    unfold Honest Attempt
    apply Work.Reports.imp (eval_frank hrings hrule)
    rintro _ ⟨e, herror, hreal⟩
    exact ⟨e, herror, classifyFailed_findsRoad _ hreal⟩

theorem attested_scopeFree (hknown : Guard.Memorable known) :
    Attested alarm (Pass.Faithful ctx known .failFast) ctx ScopeFree (Reaches ctx) known where
  emit _ _ hp := ⟨hp.policy, hp.caches⟩
  hook hrings hfree := (runHook_frank hrings).keeping (fun _ hp => hp.policy)
    fun p hp => (runHook_gives hfree ctx p hp).2
  guard hmem hrings hfree hguard :=
    (Guard.passes_frank hrings hguard).keeping (fun _ hp => hp.policy)
      fun p hp => (Guard.passes_gives hfree hknown.sameNamed hmem p hp).2
  rule hmem hrings hfree hrule := by
    intro p hp
    obtain ⟨hkept, hrevealed⟩ := eval_reveals hknown.sameNamed hmem hrings hfree hrule p hp
    refine ⟨hkept, fun halarm => (hrevealed halarm).imp id fun hroad => ?_⟩
    obtain ⟨e, hanswer, hwalk⟩ := error_of_hasRoad hroad
    refine ⟨e, (eval_gives hfree hknown.sameNamed hmem p hp).1.trans hanswer, ?_⟩
    intro q hq hnone
    have halike := (classifyFailed_yields hfree hknown.sameNamed hmem e q hq).1
    exact hwalk (halike.sharpened.known hnone)

theorem classify_reports_of_orderly (hrings : rule.Every (Rings alarm ctx))
    (hrule : rule.Unmasked ctx (Orderly ctx)) :
    Work.Reports alarm Pass.FailFast (rule.classify ctx) Forecast.HasRoad :=
  classify_reports attested_orderly (List.Subset.refl rule.remembered) hrings
    (rule.every_of_forall fun _ => trivial) hrule

/-- Either nothing in the rule that may break stands behind what may lack data, or nothing
hangs on the scope and, in sets, nothing that may break stands behind a certain lock. -/
def Candid (ctx : Context) (rule : GoalRule) : Prop :=
  rule.Unmasked ctx (Orderly ctx) ∨ rule.Every ScopeFree ∧ rule.Unmasked ctx (Reaches ctx)

theorem Candid.classify_reports (hrule : rule.Candid ctx) (hknown : Guard.Memorable known)
    (hmem : rule.remembered ⊆ known) (hrings : rule.Every (Rings alarm ctx)) :
    Work.Reports alarm (Pass.Faithful ctx known .failFast) (rule.classify ctx)
      Forecast.HasRoad := by
  rcases hrule with hrule | ⟨hfree, hrule⟩
  · exact (classify_reports_of_orderly hrings hrule).keeping (fun _ hp => hp.policy)
      fun _ hp => hknown.classify_faithful hmem hp
  · exact Rule.classify_reports (attested_scopeFree hknown) hmem hrings hfree hrule

end Rule

namespace Prediction

variable {chains : List GoalRule} {engine : Engine}

/-- No error of the chains is masked by a want of data before it or by a certain lock.
Where contributors stand in any order, remembered answers have to be true. -/
def Unmasked (ctx : Context) (engine : Engine) (chains : List GoalRule) : Prop :=
  (∀ rule ∈ chains, rule.Unmasked ctx (Rule.Orderly ctx)) ∨
    (∀ rule ∈ chains, rule.Candid ctx) ∧ Guard.Memorable (chains.flatMap Rule.remembered) ∧
      engine.caches.Truthful ctx (chains.flatMap Rule.remembered)

theorem Unmasked.classify_reports (hchains : Unmasked ctx engine chains)
    (hrings : ∀ rule ∈ chains, rule.Every (Rings alarm ctx)) :
    ∃ inv : Pass → Prop, inv ⟨engine, {}⟩ ∧
      ∀ rule ∈ chains, Work.Reports alarm inv (rule.classify ctx) Forecast.HasRoad := by
  rcases hchains with horderly | ⟨hcandid, hknown, hcaches⟩
  · refine ⟨Pass.FailFast, rfl, ?_⟩
    exact fun rule hrule =>
      Rule.classify_reports_of_orderly (hrings rule hrule) (horderly rule hrule)
  · refine ⟨Pass.Faithful ctx (chains.flatMap Rule.remembered) .failFast, ⟨rfl, hcaches⟩, ?_⟩
    exact fun rule hrule => (hcandid rule hrule).classify_reports hknown
      (fun guard hguard => List.mem_flatMap_of_mem hrule hguard) (hrings rule hrule)

theorem roads_of_reports {inv : Pass → Prop} {classification : Work Forecast}
    (hreports : Work.Reports alarm inv classification Forecast.HasRoad)
    (hstart : inv ⟨engine, {}⟩) (hcalm : ¬ alarm engine.journal)
    (halarm : alarm ((ofClassification classification).run engine).2.journal) :
    ((ofClassification classification).run engine).1.unknownRoads ≠ [] :=
  ((hreports ⟨engine, {}⟩ hstart).2 halarm).resolve_left hcalm

/-- A prediction swallows no error but wants of data, unless one of these masks it: when
some work in the rules has broken, there is an unknown road. -/
theorem unmasked_errors_become_roads (hchains : Unmasked ctx engine chains)
    (hrings : ∀ rule ∈ chains, rule.Every (Rings alarm ctx))
    (hcalm : ¬ alarm engine.journal) :
    (alarm ((ofChains chains ctx).run engine).2.journal →
        ((ofChains chains ctx).run engine).1.unknownRoads ≠ []) ∧
      ∀ rule ∈ chains, alarm ((ofRule rule ctx).run engine).2.journal →
        ((ofRule rule ctx).run engine).1.unknownRoads ≠ [] := by
  obtain ⟨inv, hstart, hreports⟩ := hchains.classify_reports hrings
  constructor
  · apply roads_of_reports _ hstart hcalm
    apply Forecast.additive_reports
    rw [Rule.classifyEach_eq_map, List.forall_mem_map]
    exact hreports
  · exact fun rule hrule => roads_of_reports (hreports rule hrule) hstart hcalm

def failedClone (_ : Context) : Probe Bool := Probe.ofExcept (.error (.project "clone failed"))

/-- A test that always breaks, and notes it. -/
def broken : PushTest where
  name := "broken"
  cost := .cheap
  run ctx := (failedClone ctx).sounding "alarm"

theorem broken_rings : Rings ("alarm" ∈ ·.lines) .empty broken.run := by
  have hquiet (scratch : Scratch) :
      "alarm" ∈ ((failedClone .empty).run scratch).2.journal.lines ↔
        "alarm" ∈ scratch.journal.lines := Iff.rfl
  exact Rings.sounding hquiet

theorem toBranch_rings (branch : String) :
    Rings ("alarm" ∈ ·.lines) .empty (PushTest.toBranch branch).run :=
  .of_neverBreaks (fun _ e he => by cases he; rfl) fun _ => rfl

/-- A node with an undecided guard, and behind it a rule that breaks. -/
def gated : GoalRule :=
  .branch "release" (.test (.toBranch "main")) none
    [.fixed (.test broken) none ⟨"release", [.ofName "release"], false⟩]

/-- The broken test stands behind a guard that lacks data, and still its error becomes an
unknown road. -/
theorem gated_error_becomes_a_road :
    Unmasked .empty {} [gated] ∧ gated.Every (Rings ("alarm" ∈ ·.lines) .empty) ∧
      "alarm" ∈ ((ofChains [gated] .empty).run {}).2.journal.lines ∧
      ((ofChains [gated] .empty).run {}).1.unknownRoads ≠ [] := by
  have hunmasked : Unmasked .empty {} [gated] :=
    .inl (List.forall_mem_singleton.mpr ⟨trivial, trivial, trivial⟩)
  have hrings : gated.Every (Rings ("alarm" ∈ ·.lines) .empty) :=
    ⟨toBranch_rings "main", (fun _ hwork => nomatch hwork), broken_rings, trivial⟩
  have halarm : "alarm" ∈ ((ofChains [gated] .empty).run {}).2.journal.lines := by
    decide +kernel
  refine ⟨hunmasked, hrings, halarm, ?_⟩
  exact (unmasked_errors_become_roads hunmasked (List.forall_mem_singleton.mpr hrings)
    List.not_mem_nil).1 halarm

/-- A set whose last contributor breaks behind one that certainly locks. -/
def outlocked : GoalRule :=
  .allMatches "checks"
    [.fixed (.test (.toBranch "main")) none ⟨"release", [.ofName "release"], false⟩,
     .fixed (.test .onAnyPush) none ⟨"lock", [.ofName "lock"], true⟩,
     .fixed (.test broken) none ⟨"deliver", [.ofName "deploy"], false⟩]

example :
    "alarm" ∈ ((ofRule outlocked .empty).run {}).2.journal.lines ∧
      ((ofRule outlocked .empty).run {}).1.unknownRoads = [] := by
  decide +kernel

/-- The guard of the rule breaks behind a part that lacks data. -/
def masked : GoalRule :=
  .fixed (.all [.test (.toBranch "main"), .test broken]) none
    ⟨"release", [.ofName "release"], false⟩

/-- Of a push of which nothing is known the broken test is evaluated, its error is not the
one that the guard fails with, and the prediction shows no unknown road. -/
theorem masked_error_is_swallowed :
    masked.Every (Rings ("alarm" ∈ ·.lines) .empty) ∧
      "alarm" ∉ ({} : Engine).journal.lines ∧
      "alarm" ∈ ((ofRule masked .empty).run {}).2.journal.lines ∧
      ((ofRule masked .empty).run {}).1.unknownRoads = [] ∧
      ((ofRule masked .empty).run {}).1.possibleNames = ["release"] := by
  refine ⟨⟨toBranch_rings "main", broken_rings, trivial⟩, ?_⟩
  decide +kernel

end Prediction

end PushGoals
