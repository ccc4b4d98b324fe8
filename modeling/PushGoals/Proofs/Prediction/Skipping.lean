import PushGoals.Proofs.Prediction.Soundness

/-!
# Skipping an empty head

A rule may fail for want of data and still have nothing to come: its forecast is empty
when the part that is not known could only have opened the way to rules that do not
match.  Such a rule gives no match once more of the push is known, and above all it
does not halt.  A sequence it stands at the head of comes to what the rules behind it
come to, so that the forecast of those is the forecast of the sequence.
-/

namespace PushGoals

namespace Forecast

theorem Alike.isEmpty_eq {f g : Forecast} (hf : f.Alike g) : f.isEmpty = g.isEmpty :=
  Bool.eq_iff_iff.mpr ⟨hf.sharpened.empty, hf.sharpens.empty⟩

theorem settled_isEmpty {given : Option GoalSet} (hempty : (settled given).isEmpty = true) :
    given = none := by
  cases given with
  | none => rfl
  | some goals => cases hempty

/-- An empty forecast leaves room for one outcome only.  A match would be in it, and a
halt is kept apart by the road that stands for it. -/
theorem Foretells.noMatch_of_isEmpty {f : Forecast} {o : Outcome GoalSet} (hf : f.Foretells o)
    (hempty : f.isEmpty = true) : o = .noMatch := by
  have hnone : o.value? = none := settled_isEmpty (hf.sharpened.empty hempty)
  cases o with
  | matched goals => cases hnone
  | noMatch => rfl
  | halt =>
      rw [hf.halt rfl] at hempty
      cases hempty

end Forecast

namespace Rule

variable {ctx more : Context} {known : List Guard} {policy : FailurePolicy} {rule : GoalRule}
  {rest : List GoalRule}

theorem answerFirst_skips (hhead : policy.supervised (rule.answer policy ctx) = .ok .noMatch) :
    answerFirst policy ctx (rule :: rest) = answerFirst policy ctx rest := by
  rw [answerFirst, hhead]
  rfl

/-- A head that failed and of which nothing is forecast leaves the forecast to the rest. -/
theorem classifyFirst_skips {start : Pass} {e : GoalError}
    (hfailed : ((rule.eval ctx).run.run start).1 = .error e)
    (hempty : ((classifyFailed ctx e rule).run
      ((rule.eval ctx).run.run start).2).1.isEmpty = true) :
    ((classifyFirst ctx (rule :: rest)).run start).1 =
      ((classifyFirst ctx rest).run ((classifyFailed ctx e rule).run
        ((rule.eval ctx).run.run start).2).2).1 := by
  rw [classifyFirst, Work.run_bind, hfailed]
  exact Forecast.orElse_of_isEmpty hempty _

/-- Where a failed rule has an empty outlook, only no match can come of it. -/
theorem outcome_of_empty_outlook (hstable : rule.Every Stable) (hmore : ctx.ExtendedBy more)
    {e : GoalError} (hnow : rule.answer .failFast ctx = .error e)
    (hempty : (outlookFailed ctx e rule).isEmpty = true) {o : Outcome GoalSet}
    (hlater : policy.supervised (rule.answer policy more) = .ok o) : o = .noMatch :=
  (outlookFailed_foretells hstable hmore e hnow o hlater).noMatch_of_isEmpty hempty

theorem answer_of_empty_outlook (hstable : rule.Every Stable) (hmore : ctx.ExtendedBy more)
    {e : GoalError} (hnow : rule.answer .failFast ctx = .error e)
    (hempty : (outlookFailed ctx e rule).isEmpty = true) (policy : FailurePolicy) :
    rule.answer policy more = .ok .noMatch ∨ ∃ d, rule.answer policy more = .error d := by
  cases hgiven : rule.answer policy more with
  | error d => exact .inr ⟨d, rfl⟩
  | ok o =>
      have hsupervised : policy.supervised (rule.answer policy more) = .ok o := by
        rw [hgiven, FailurePolicy.supervised_ok]
      exact .inl (congrArg Except.ok
        (outcome_of_empty_outlook hstable hmore hnow hempty hsupervised))

/-- What a sequence comes to, the rules behind such a head come to by themselves.  The
head may fail where it is not isolated, and then the sequence comes to nothing. -/
theorem answerFirst_of_empty_outlook (hstable : rule.Every Stable) (hmore : ctx.ExtendedBy more)
    {e : GoalError} (hnow : rule.answer .failFast ctx = .error e)
    (hempty : (outlookFailed ctx e rule).isEmpty = true) {o : Outcome GoalSet}
    (hlater : answerFirst policy more (rule :: rest) = .ok o) :
    answerFirst policy more rest = .ok o := by
  obtain ⟨outcome, hhead, _⟩ := ok_of_bind hlater
  rw [outcome_of_empty_outlook hstable hmore hnow hempty hhead] at hhead
  rwa [answerFirst_skips hhead] at hlater

/-- The forecast of a rule that failed, made in the pass the failure has left, is empty
only if its outlook is. -/
theorem outlook_empty_of_forecast (hfree : rule.Every ScopeFree) (hnames : Guard.SameNamed known)
    (hknown : ∀ g ∈ rule.remembered, g ∈ known) {start : Pass}
    (hstart : start.Faithful ctx known .failFast) {e : GoalError}
    (hfailed : ((rule.eval ctx).run.run start).1 = .error e)
    (hempty : ((classifyFailed ctx e rule).run
      ((rule.eval ctx).run.run start).2).1.isEmpty = true) :
    rule.answer .failFast ctx = .error e ∧ (outlookFailed ctx e rule).isEmpty = true := by
  obtain ⟨hanswer, hleft⟩ := eval_gives hfree hnames hknown start hstart
  obtain ⟨halike, _⟩ := classifyFailed_yields hfree hnames hknown e _ hleft
  refine ⟨hanswer.symm.trans hfailed, ?_⟩
  rw [← halike.isEmpty_eq]
  exact hempty

/-- Skipping a rule with an empty forecast is safe.  If a rule over stable tests and
computations fails for `ctx` and nothing is forecast of it, then for every context that
extends `ctx`, and under either failure policy, it gives no match or fails: it neither
matches nor halts.  A sequence with this rule at its head has the forecast of the rules
behind it, and what it comes to once more is known they come to by themselves. -/
theorem empty_forecast_never_matches (hfree : ∀ r ∈ rule :: rest, r.Every ScopeFree)
    (hstable : rule.Every Stable) (hnames : Guard.SameNamed (rememberedAmong (rule :: rest)))
    (hmore : ctx.ExtendedBy more) (start later : Pass) (hpolicy : start.scope.policy = .failFast)
    (hstart : start.engine.caches.Empty) (hlater : later.engine.caches.Empty) {e : GoalError}
    (hfailed : ((rule.eval ctx).run.run start).1 = .error e)
    (hempty : ((classifyFailed ctx e rule).run
      ((rule.eval ctx).run.run start).2).1.isEmpty = true) :
    (((rule.eval more).run.run later).1 = .ok .noMatch ∨
        ∃ d, ((rule.eval more).run.run later).1 = .error d) ∧
      ((classifyFirst ctx (rule :: rest)).run start).1 =
        ((classifyFirst ctx rest).run ((classifyFailed ctx e rule).run
          ((rule.eval ctx).run.run start).2).2).1 ∧
      ∀ o, ((evalFirst more (rule :: rest)).run.run later).1 = .ok o →
        ((evalFirst more rest).run.run later).1 = .ok o := by
  have hknown {r : GoalRule} (hr : r ∈ rule :: rest) :
      ∀ g ∈ r.remembered, g ∈ rememberedAmong (rule :: rest) :=
    remembered_of_mem (fun _ hg => hg) hr
  have hpass : start.Faithful ctx (rememberedAmong (rule :: rest)) .failFast :=
    ⟨hpolicy, hstart.truthful ctx _⟩
  have hlaterPass : later.Faithful more (rememberedAmong (rule :: rest)) later.scope.policy :=
    ⟨rfl, hlater.truthful more _⟩
  obtain ⟨hhead, _⟩ := List.forall_mem_cons.mp hfree
  obtain ⟨hnow, houtlook⟩ := outlook_empty_of_forecast hhead hnames
    (hknown List.mem_cons_self) hpass hfailed hempty
  have hgives : ∀ r ∈ rule :: rest,
      Eval.Gives (Pass.Faithful more (rememberedAmong (rule :: rest)) later.scope.policy)
        (r.eval more) (r.answer later.scope.policy more) :=
    fun r hr => eval_gives (hfree r hr) hnames (hknown hr)
  refine ⟨?_, classifyFirst_skips hfailed hempty, ?_⟩
  · rw [(hgives rule List.mem_cons_self later hlaterPass).1]
    exact answer_of_empty_outlook hstable hmore hnow houtlook later.scope.policy
  · intro o ho
    have hrest := (evalFirst_gives (fun r hr => hgives r (List.mem_cons_of_mem _ hr)) later
      hlaterPass).1
    rw [(evalFirst_gives hgives later hlaterPass).1] at ho
    exact hrest.trans (answerFirst_of_empty_outlook hstable hmore hnow houtlook ho)

/-- An image is built on the branch dev where there is a Dockerfile, but the candidates
for it stand on other branches. -/
def imageTree : GoalRule :=
  .branch "image" (.allOf [.test (.toBranch "dev"), .test (.hasFile "Dockerfile")]) none
    [.firstMatch "candidates"
      [.fixed (.test (.toBranch "main")) none ⟨"image", [.ofName "image"], true⟩,
       .halting (.test (.toBranch "wip")) none]]

theorem imageTree_every {P : {α : Type} → (Context → Probe α) → Prop}
    (hbranch : ∀ branch, P (PushTest.toBranch branch).run)
    (hfile : P (PushTest.hasFile "Dockerfile").run) : imageTree.Every P := by
  have hcandidates : EveryAmong P
      [.fixed (.test (.toBranch "main")) none (⟨"image", [.ofName "image"], true⟩ : GoalSet),
       .halting (.test (.toBranch "wip")) none] :=
    ⟨hbranch "main", hbranch "wip", trivial⟩
  exact ⟨⟨hbranch "dev", hfile, trivial⟩, (fun _ hwork => nomatch hwork), hcandidates, trivial⟩

def buildSet : GoalSet := ⟨"build", [.ofName "build"], false⟩

def buildAlways : GoalRule := .fixed (.test .onAnyPush) none buildSet

/-- Before the project of a push to dev is known, nothing is forecast of the tree.  When
there turns out to be a Dockerfile, the tree does not match, and the rule behind it sets
the goals. -/
theorem imageTree_is_skipped :
    let dev : Context := .ofPush ⟨⟨"acme", "shop", "main"⟩, "dev", [], none⟩
    let more := dev.withProject (.inMemory [("Dockerfile", "")] [])
    let start : Pass := ⟨{}, {}⟩
    let later : Pass := ⟨{}, { policy := .isolateAndReport }⟩
    dev.ExtendedBy more ∧
      ((imageTree.eval dev).run.run start).1 = .error (.insufficientData "project") ∧
      ((classifyFailed dev (.insufficientData "project") imageTree).run
        ((imageTree.eval dev).run.run start).2).1.isEmpty = true ∧
      (((imageTree.eval more).run.run later).1 = .ok .noMatch ∨
        ∃ d, ((imageTree.eval more).run.run later).1 = .error d) ∧
      ((evalFirst more [buildAlways]).run.run later).1 = .ok (.matched buildSet) := by
  have hbranch := PushTest.toBranch_lasting
  have hfile := PushTest.hasFile_lasting "Dockerfile"
  have hfree : ∀ r ∈ [imageTree, buildAlways], r.Every ScopeFree := by
    apply everyAmong_iff.mp
    exact ⟨imageTree_every (fun b => (hbranch b).scopeFree) hfile.scopeFree,
      PushTest.onAnyPush_lasting.scopeFree, trivial⟩
  have hstable : imageTree.Every Stable :=
    imageTree_every (fun b => (hbranch b).stable) hfile.stable
  have hnames : Guard.SameNamed (rememberedAmong [imageTree, buildAlways]) :=
    Guard.sameNamed_of_nodup (List.nodup_singleton _)
  intro dev more start later
  have hmore : dev.ExtendedBy more := by
    refine ⟨?_, ?_, ?_, ?_, ?_, ?_, (fun _ hproject => nomatch hproject), ?_, ?_⟩ <;>
      exact fun _ hknown => hknown
  have hfailed :
      ((imageTree.eval dev).run.run start).1 = .error (.insufficientData "project") := rfl
  have hempty : ((classifyFailed dev (.insufficientData "project") imageTree).run
      ((imageTree.eval dev).run.run start).2).1.isEmpty = true := by
    decide +kernel
  have hsequence :
      ((evalFirst more [imageTree, buildAlways]).run.run later).1 = .ok (.matched buildSet) :=
    rfl
  obtain ⟨hhead, _, hrest⟩ := empty_forecast_never_matches hfree hstable hnames hmore start later
    rfl Caches.empty_default Caches.empty_default hfailed hempty
  exact ⟨hmore, hfailed, hempty, hhead, hrest _ hsequence⟩

end Rule

end PushGoals
