import PushGoals.Proofs.Prediction.Roads

/-!
# Outlooks reveal what breaks

If nothing in a rule hangs on the scope, its outlook says what every walk of it finds.
Then the alarm cannot be raised in an evaluation unless the outlook has an unknown road,
except by contributors that stand behind a certain lock: they are evaluated with their
set, but a walk does not come to them.
-/

namespace PushGoals

variable {alarm : Journal → Prop} {ctx : Context} {known : List Guard}

/-! ## Known answers -/

namespace Work.Reports

variable {α β : Type} {inv : Pass → Prop} {Q : Prop}

theorem of_gives {step : Eval α} {answer : Except GoalError α}
    {post : Except GoalError α → Prop} (hstep : Reports alarm inv step.run post)
    (hgives : Eval.Gives inv step answer) : Reports alarm inv step.run fun _ => post answer := by
  intro p hp
  obtain ⟨hkept, hreported⟩ := hstep p hp
  rw [(hgives p hp).1] at hreported
  exact ⟨hkept, hreported⟩

theorem bind_ok {step : Eval α} {next : α → Eval β} {a : α}
    (hstep : Reports alarm inv step.run fun _ => Q) (hgives : Eval.Gives inv step (.ok a))
    (hnext : Reports alarm inv (next a).run fun _ => Q) :
    Reports alarm inv (step >>= next).run fun _ => Q := by
  intro p hp
  obtain ⟨hmiddle, hfirst⟩ := hstep p hp
  obtain ⟨hend, hsecond⟩ := hnext _ hmiddle
  rw [Eval.run_bind, (hgives p hp).1]
  exact ⟨hend, fun halarm => (hsecond halarm).elim hfirst .inr⟩

theorem bind_error {step : Eval α} {next : α → Eval β} {e : GoalError}
    (hstep : Reports alarm inv step.run fun _ => Q) (hgives : Eval.Gives inv step (.error e)) :
    Reports alarm inv (step >>= next).run fun _ => Q := by
  intro p hp
  rw [Eval.run_bind, (hgives p hp).1]
  exact hstep p hp

theorem map {step : Eval α} (hstep : Reports alarm inv step.run fun _ => Q) (f : α → β) :
    Reports alarm inv (do let x ← step; return f x : Eval β).run fun _ => Q := by
  intro p hp
  rw [Eval.run_map]
  exact hstep p hp

theorem settle {steps : List (Eval α)}
    (hsteps : ∀ step ∈ steps, Reports alarm inv step.run fun _ => Q) :
    Reports alarm inv (Eval.settle steps) fun _ => Q := by
  induction steps with
  | nil => exact .pure _
  | cons step rest ih =>
      obtain ⟨hhead, hrest⟩ := List.forall_mem_cons.mp hsteps
      unfold Eval.settle
      apply hhead.bind _ fun _ hQ _ _ => hQ
      exact fun answer => (ih hrest).bind (fun _ => .pure _) fun _ hQ _ _ => hQ

theorem allSettled {steps : List (Eval α)}
    (hsteps : ∀ step ∈ steps, Reports alarm inv step.run fun _ => Q) :
    Reports alarm inv (Eval.allSettled steps).run fun _ => Q := by
  intro p hp
  rw [Eval.run_allSettled]
  exact settle hsteps p hp

end Work.Reports

theorem Eval.Frank.shows {α : Type} {step : Eval α} {answer : Except GoalError α}
    (hstep : Eval.Frank alarm step)
    (hgives : Eval.Gives (Pass.Faithful ctx known .failFast) step answer) {Q : Prop}
    (hbreaks : Breaks answer → Q) :
    Work.Reports alarm (Pass.Faithful ctx known .failFast) step.run fun _ => Q := by
  have hreports := hstep.keeping (fun p hp => hp.policy) fun p hp => (hgives p hp).2
  exact (hreports.of_gives hgives).imp fun _ => hbreaks

/-! ## Outlooks with roads -/

namespace Forecast

theorem HasRoad.addUp {f : Forecast} (hf : f.HasRoad) (lockPossible : Bool) (fs : List Forecast) :
    (f.addUp lockPossible fs).HasRoad := by
  induction fs generalizing f lockPossible with
  | nil => exact hf
  | cons g rest ih =>
      simp only [Forecast.addUp]
      generalize (if lockPossible then g.demote else g) = next
      by_cases hlocks : next.locks = true
      · rw [if_pos hlocks]
        exact hf.merge_left
      · rw [if_neg hlocks]
        exact ih hf.merge_left _

theorem hasRoad_addUp_head {g : Forecast} (hg : g.HasRoad) (f : Forecast) (lockPossible : Bool)
    (rest : List Forecast) : (f.addUp lockPossible (g :: rest)).HasRoad := by
  have hnext := hg.ite_demote lockPossible
  simp only [addUp]
  generalize (if lockPossible then g.demote else g) = next at hnext ⊢
  by_cases hlocks : next.locks = true
  · rw [if_pos hlocks]
    exact hnext.merge_right
  · rw [if_neg hlocks]
    exact hnext.merge_right.addUp _ _

theorem addUp_of_not_locks {g : Forecast} (hg : g.locks = false) (f : Forecast)
    (lockPossible : Bool) (rest : List Forecast) :
    ∃ more lock, f.addUp lockPossible (g :: rest) = addUp more lock rest := by
  have hnext : (if lockPossible then g.demote else g).locks = false := by
    cases lockPossible with
    | false => exact hg
    | true => exact locks_demote g
  simp only [addUp]
  generalize (if lockPossible then g.demote else g) = next at hnext ⊢
  rw [hnext]
  exact ⟨_, _, rfl⟩

end Forecast

namespace Rule

variable {rule : GoalRule}

/-- The first rule is not certain to lock, or the second one never breaks. -/
def Reaches (ctx : Context) (a b : GoalRule) : Prop :=
  (a.outlook ctx).locks = false ∨ b.Every (NeverBreaks ctx)

theorem outlookFailed_hasRoad (rule : GoalRule) {e : GoalError}
    (hreal : e.isInsufficientData = false) : (outlookFailed ctx e rule).HasRoad := by
  have hlook : (!e.isInsufficientData) = true := by rw [hreal]; rfl
  cases rule <;> simp only [outlookFailed, if_pos hlook] <;> exact Forecast.hasRoad_road _ _

theorem outlook_of_error {e : GoalError} (hanswer : rule.answer .failFast ctx = .error e) :
    rule.outlook ctx = outlookFailed ctx e rule := by
  unfold outlook
  rw [hanswer]
  rfl

theorem error_of_hasRoad (hroad : (rule.outlook ctx).HasRoad) :
    ∃ e, rule.answer .failFast ctx = .error e ∧ (outlookFailed ctx e rule).HasRoad := by
  cases hanswer : rule.answer .failFast ctx with
  | ok outcome =>
      unfold outlook at hroad
      rw [hanswer] at hroad
      exact absurd (Forecast.unknown_settled _) hroad
  | error e =>
      rw [outlook_of_error hanswer] at hroad
      exact ⟨e, rfl, hroad⟩

theorem outlook_hasRoad_of_breaks (hbreaks : Breaks (rule.answer .failFast ctx)) :
    (rule.outlook ctx).HasRoad := by
  obtain ⟨e, hanswer, hreal⟩ := hbreaks
  rw [outlook_of_error hanswer]
  exact outlookFailed_hasRoad rule hreal

theorem lookInto_hasRoad (name : String) (e : GoalError) {f : Forecast} (hf : f.HasRoad) :
    (if !e.isInsufficientData then Forecast.road name e.message else f).HasRoad := by
  by_cases hroad : (!e.isInsufficientData) = true
  · rw [if_pos hroad]
    exact Forecast.hasRoad_road _ _
  · rw [if_neg hroad]
    exact hf

/-- If contributors are reached, the road of one that may break is a road of their set. -/
theorem addUp_hasRoad {rules : List GoalRule} (hpairs : rules.Pairwise (Reaches ctx))
    (hmem : rule ∈ rules) (hroad : (rule.outlook ctx).HasRoad)
    (hmay : ¬ rule.Every (NeverBreaks ctx)) (f : Forecast) (lockPossible : Bool) :
    (f.addUp lockPossible (outlookEach ctx rules)).HasRoad := by
  rw [outlookEach_eq_map]
  induction rules generalizing f lockPossible with
  | nil => cases hmem
  | cons head rest ih =>
      obtain ⟨hhead, hrest⟩ := List.pairwise_cons.mp hpairs
      rw [List.map_cons]
      rcases List.mem_cons.mp hmem with rfl | hbehind
      · exact Forecast.hasRoad_addUp_head hroad f lockPossible _
      · have hopen := (hhead rule hbehind).resolve_right hmay
        obtain ⟨more, lock, hskipped⟩ := Forecast.addUp_of_not_locks hopen f lockPossible _
        rw [hskipped]
        exact ih hrest hbehind more lock

/-! ## Evaluations reveal what breaks -/

/-- If the evaluation raises the alarm, the outlook of the rule has an unknown road. -/
def Reveals (alarm : Journal → Prop) (ctx : Context) (known : List Guard) (rule : GoalRule) :
    Prop :=
  Work.Reports alarm (Pass.Faithful ctx known .failFast) (rule.eval ctx).run
    fun _ => (rule.outlook ctx).HasRoad

theorem Reveals.of_frank
    (hgives : Eval.Gives (Pass.Faithful ctx known .failFast) (rule.eval ctx)
      (rule.answer .failFast ctx))
    (hfrank : Eval.Frank alarm (rule.eval ctx)) : rule.Reveals alarm ctx known :=
  hfrank.shows hgives outlook_hasRoad_of_breaks

theorem supervised_failFast {V : Type} (answer : Except GoalError (Outcome V)) :
    FailurePolicy.failFast.supervised answer = answer := by
  cases answer <;> rfl

theorem supervise_gives_failFast {answer : Except GoalError (Outcome GoalSet)}
    (hgives : Eval.Gives (Pass.Faithful ctx known .failFast) (rule.eval ctx) answer) :
    Eval.Gives (Pass.Faithful ctx known .failFast) (rule.supervise (rule.eval ctx)) answer := by
  have hsupervised := supervise_gives rule hgives
  rwa [supervised_failFast] at hsupervised

theorem Reveals.supervise (hrule : rule.Reveals alarm ctx known) :
    Work.Reports alarm (Pass.Faithful ctx known .failFast)
      (rule.supervise (rule.eval ctx)).run fun _ => (rule.outlook ctx).HasRoad :=
  Eval.supervised_reports (fun _ hp => hp.policy) (fun _ _ hp => ⟨hp.policy, hp.caches⟩)
    (fun _ => rfl) hrule

theorem evalFirst_reveals {rules : List GoalRule}
    (hgives : ∀ rule ∈ rules, Eval.Gives (Pass.Faithful ctx known .failFast) (rule.eval ctx)
      (rule.answer .failFast ctx))
    (hreveals : ∀ rule ∈ rules, rule.Reveals alarm ctx known) :
    Work.Reports alarm (Pass.Faithful ctx known .failFast) (evalFirst ctx rules).run fun _ =>
      ∃ e, answerFirst .failFast ctx rules = .error e ∧ (outlookFirst ctx rules).HasRoad := by
  induction rules with
  | nil => exact .pure _
  | cons rule rest ih =>
      obtain ⟨hgivesHead, hgivesRest⟩ := List.forall_mem_cons.mp hgives
      obtain ⟨hhead, hrest⟩ := List.forall_mem_cons.mp hreveals
      have hgiven := supervise_gives_failFast hgivesHead
      have hstep := hhead.supervise
      unfold evalFirst answerFirst outlookFirst
      rw [supervised_failFast]
      cases hanswer : rule.answer .failFast ctx with
      | error e =>
          rw [hanswer] at hgiven
          apply Work.Reports.bind_error _ hgiven
          apply hstep.imp
          intro _ hroad
          rw [outlook_of_error hanswer] at hroad
          exact ⟨e, rfl, Forecast.hasRoad_orElse (.inl hroad)⟩
      | ok outcome =>
          rw [hanswer] at hgiven
          apply Work.Reports.bind_ok _ hgiven
          · cases outcome with
            | matched goals => exact .pure _
            | noMatch => exact ih hgivesRest hrest
            | halt => exact fun p hp => ⟨⟨hp.policy, hp.caches⟩, .inl⟩
          · apply hstep.imp
            intro _ hroad
            obtain ⟨e, herror, _⟩ := error_of_hasRoad hroad
            rw [hanswer] at herror
            cases herror

theorem superviseEach_reveals {rules : List GoalRule}
    (hrings : ∀ rule ∈ rules, rule.Every (Rings alarm ctx))
    (hgives : ∀ rule ∈ rules, Eval.Gives (Pass.Faithful ctx known .failFast) (rule.eval ctx)
      (rule.answer .failFast ctx))
    (hreveals : ∀ rule ∈ rules, rule.Reveals alarm ctx known) :
    Work.Reports alarm (Pass.Faithful ctx known .failFast)
      (Eval.allSettled (superviseEach ctx rules)).run fun _ =>
        ∃ rule ∈ rules, (rule.outlook ctx).HasRoad ∧ ¬ rule.Every (NeverBreaks ctx) := by
  apply Work.Reports.allSettled
  rw [superviseEach_eq_map, List.forall_mem_map]
  intro rule hmem
  by_cases hnever : rule.Every (NeverBreaks ctx)
  · have hsilent := (eval_silent (hrings rule hmem) hnever).keeping (fun p hp => hp.policy)
      fun p hp => (hgives rule hmem p hp).2
    exact (Eval.supervised_reports (fun _ hp => hp.policy)
      (fun _ _ hp => ⟨hp.policy, hp.caches⟩) (fun _ => rfl) hsilent).imp fun _ => False.elim
  · exact (hreveals rule hmem).supervise.imp fun _ hroad => ⟨rule, hmem, hroad, hnever⟩

theorem answerEach_fails {rules : List GoalRule} (hmem : rule ∈ rules) {e : GoalError}
    (herror : rule.answer .failFast ctx = .error e) :
    ∃ d, Eval.collect (answerEach .failFast ctx rules) = .error d := by
  cases hcollected : Eval.collect (answerEach .failFast ctx rules) with
  | error d => exact ⟨d, rfl⟩
  | ok outcomes =>
      have hall := Eval.collect_eq_ok_iff.mp hcollected
      rw [answerEach_eq_map] at hall
      have hin : Except.error e ∈ outcomes.map (Except.ok (ε := GoalError)) := by
        rw [← hall]
        exact List.mem_map.mpr ⟨rule, hmem, by rw [supervised_failFast, herror]⟩
      obtain ⟨o, _, ho⟩ := List.mem_map.mp hin
      cases ho

theorem enriched_reveals {base extension : GoalRule}
    (hgivesBase : Eval.Gives (Pass.Faithful ctx known .failFast) (base.eval ctx)
      (base.answer .failFast ctx))
    (hbase : base.Reveals alarm ctx known) (hextension : extension.Reveals alarm ctx known)
    (name : String) : (enriched name base extension).Reveals alarm ctx known := by
  have hgiven := supervise_gives_failFast hgivesBase
  have hwalked {e : GoalError}
      (hanswer : (enriched name base extension).answer .failFast ctx = .error e)
      (hroad : (Forecast.nothing.addUp false [base.outlook ctx, extension.outlook ctx]).HasRoad) :
      ((enriched name base extension).outlook ctx).HasRoad := by
    rw [outlook_of_error hanswer]
    exact lookInto_hasRoad name e hroad
  unfold Reveals eval
  cases hanswer : base.answer .failFast ctx with
  | error e =>
      rw [hanswer] at hgiven
      apply Work.Reports.bind_error _ hgiven
      have hfails : (enriched name base extension).answer .failFast ctx = .error e := by
        unfold answer
        rw [supervised_failFast, hanswer]
        rfl
      exact hbase.supervise.imp fun _ hroad =>
        hwalked hfails (Forecast.hasRoad_addUp_head hroad _ _ _)
  | ok given =>
      rw [hanswer] at hgiven
      apply Work.Reports.bind_ok _ hgiven
      · by_cases hclosed : closed given.value? = true
        · simp only [if_pos hclosed]
          exact .pure _
        · simp only [if_neg hclosed]
          apply (hextension.supervise.map _).imp
          intro _ hroad
          obtain ⟨d, herror, _⟩ := error_of_hasRoad hroad
          have hopen : (base.outlook ctx).locks = false := by
            unfold outlook
            rw [hanswer]
            exact (Forecast.locks_settled _).trans (Bool.eq_false_iff.mpr hclosed)
          obtain ⟨more, lock, hskipped⟩ :=
            Forecast.addUp_of_not_locks hopen .nothing false [extension.outlook ctx]
          have hfails : (enriched name base extension).answer .failFast ctx = .error d := by
            unfold answer
            rw [supervised_failFast, supervised_failFast, hanswer, herror]
            exact if_neg hclosed
          apply hwalked hfails
          rw [hskipped]
          exact Forecast.hasRoad_addUp_head hroad more lock []
      · apply hbase.supervise.imp
        intro _ hroad
        obtain ⟨e, herror, _⟩ := error_of_hasRoad hroad
        rw [hanswer] at herror
        cases herror

/-- Behind a guard and a hook that hold, a node reveals what its children do. -/
theorem branch_reveals {guard : Guard} {hook : Option Hook} {children : List GoalRule}
    (hgivesGuard : Eval.Gives (Pass.Faithful ctx known .failFast) (guard.passes ctx)
      (guard.holds ctx))
    (hguard : Eval.Frank alarm (guard.passes ctx))
    (hgivesHook : Eval.Gives (Pass.Faithful ctx known .failFast) (runHook hook ctx)
      (answerHook hook ctx))
    (hhook : Eval.Frank alarm (runHook hook ctx))
    (hchildren : Work.Reports alarm (Pass.Faithful ctx known .failFast)
      (evalFirst ctx children).run fun _ =>
        ∃ e, answerFirst .failFast ctx children = .error e ∧ (outlookFirst ctx children).HasRoad)
    (name : String) : (branch name guard hook children).Reveals alarm ctx known := by
  have hguardBreaks (hbreaks : Breaks (guard.holds ctx)) :
      ((branch name guard hook children).outlook ctx).HasRoad := by
    obtain ⟨e, herror, hreal⟩ := hbreaks
    refine outlook_hasRoad_of_breaks ⟨e, ?_, hreal⟩
    unfold answer
    rw [herror]
    rfl
  have hguardShows := hguard.shows hgivesGuard hguardBreaks
  unfold Reveals eval
  cases hholds : guard.holds ctx with
  | error e =>
      rw [hholds] at hgivesGuard
      exact hguardShows.bind_error hgivesGuard
  | ok passes =>
      rw [hholds] at hgivesGuard
      apply hguardShows.bind_ok hgivesGuard
      cases passes with
      | false => exact .pure _
      | true =>
          have hhookBreaks (hbreaks : Breaks (answerHook hook ctx)) :
              ((branch name guard hook children).outlook ctx).HasRoad := by
            obtain ⟨e, herror, hreal⟩ := hbreaks
            refine outlook_hasRoad_of_breaks ⟨e, ?_, hreal⟩
            unfold answer
            rw [hholds, herror]
            rfl
          have hhookShows := hhook.shows hgivesHook hhookBreaks
          cases hran : answerHook hook ctx with
          | error e =>
              rw [hran] at hgivesHook
              exact hhookShows.bind_error hgivesHook
          | ok _ =>
              rw [hran] at hgivesHook
              apply hhookShows.bind_ok hgivesHook
              apply hchildren.imp
              rintro _ ⟨e, herror, hroad⟩
              have hanswer : (branch name guard hook children).answer .failFast ctx = .error e := by
                unfold answer
                rw [hholds, hran]
                exact herror
              rw [outlook_of_error hanswer]
              apply lookInto_hasRoad
              unfold outlookGuard
              rw [hholds]
              unfold outlookBody
              simp only [Option.getD_some]
              rw [hran, herror]
              exact lookInto_hasRoad name e hroad

/-- What breaks in a rule whose work does not hang on the scope is a road of its outlook. -/
theorem eval_reveals (hnames : Guard.SameNamed known) {rule : GoalRule}
    (hmem : rule.remembered ⊆ known) (hrings : rule.Every (Rings alarm ctx))
    (hfree : rule.Every ScopeFree) (hrule : rule.Unmasked ctx (Reaches ctx)) :
    rule.Reveals alarm ctx known := by
  have hgives {rule : GoalRule} (hmem : rule.remembered ⊆ known) (hfree : rule.Every ScopeFree) :
      Eval.Gives (Pass.Faithful ctx known .failFast) (rule.eval ctx)
        (rule.answer .failFast ctx) := eval_gives hfree hnames hmem
  have hmembers {rules : List GoalRule} (hmem : rememberedAmong rules ⊆ known)
      (hfree : EveryAmong ScopeFree rules) : ∀ rule ∈ rules,
        Eval.Gives (Pass.Faithful ctx known .failFast) (rule.eval ctx)
          (rule.answer .failFast ctx) :=
    fun rule hin => hgives (remembered_of_mem hmem hin) (everyAmong_iff.mp hfree rule hin)
  have hreveals {rules : List GoalRule}
      (ih : ∀ rule ∈ rules, rule.remembered ⊆ known → rule.Every (Rings alarm ctx) →
        rule.Every ScopeFree → rule.Unmasked ctx (Reaches ctx) → rule.Reveals alarm ctx known)
      (hmem : rememberedAmong rules ⊆ known) (hrings : EveryAmong (Rings alarm ctx) rules)
      (hfree : EveryAmong ScopeFree rules) (hrules : UnmaskedAmong ctx (Reaches ctx) rules) :
      ∀ rule ∈ rules, rule.Reveals alarm ctx known :=
    fun rule hin => ih rule hin (remembered_of_mem hmem hin) (everyAmong_iff.mp hrings rule hin)
      (everyAmong_iff.mp hfree rule hin) (unmaskedAmong_iff.mp hrules rule hin)
  induction rule using Rule.induct with
  | fixed guard reason value =>
      exact .of_frank (hgives hmem hfree) (eval_frank hrings hrule)
  | halting guard reason =>
      exact .of_frank (hgives hmem hfree) (eval_frank hrings hrule)
  | computed key guard reason compute =>
      exact .of_frank (hgives hmem hfree) (eval_frank hrings hrule)
  | leaf name guard hook value =>
      exact .of_frank (hgives hmem hfree) (eval_frank hrings hrule)
  | custom name cost run =>
      exact .of_frank (hgives hmem hfree) (eval_frank hrings hrule)
  | firstMatch name rules ih =>
      apply (evalFirst_reveals (hmembers hmem hfree) (hreveals ih hmem hrings hfree hrule)).imp
      rintro _ ⟨e, herror, hroad⟩
      have hanswer : (firstMatch name rules).answer .failFast ctx = .error e := herror
      rw [outlook_of_error hanswer]
      exact lookInto_hasRoad name e hroad
  | allMatches name contributors ih =>
      have heach := superviseEach_reveals (everyAmong_iff.mp hrings) (hmembers hmem hfree)
        (hreveals ih hmem hrings hfree hrule.1)
      apply (heach.map _).imp
      rintro _ ⟨rule, hin, hroad, hmay⟩
      obtain ⟨_, herror, _⟩ := error_of_hasRoad hroad
      obtain ⟨d, hfails⟩ := answerEach_fails hin herror
      have hanswer : (allMatches name contributors).answer .failFast ctx = .error d := by
        unfold answer
        rw [hfails]
        rfl
      rw [outlook_of_error hanswer]
      exact lookInto_hasRoad name d (addUp_hasRoad hrule.2 hin hroad hmay .nothing false)
  | enriched name base extension ihBase ihExtension =>
      obtain ⟨hmemBase, hmemExtension⟩ := List.append_subset.mp hmem
      exact enriched_reveals (hgives hmemBase hfree.1)
        (ihBase hmemBase hrings.1 hfree.1 hrule.1)
        (ihExtension hmemExtension hrings.2 hfree.2 hrule.2) name
  | branch name guard hook children ih =>
      obtain ⟨hmemGuard, hmemChildren⟩ := List.append_subset.mp hmem
      apply branch_reveals (Guard.passes_gives hfree.1 hnames hmemGuard)
        (Guard.passes_frank hrings.1 hrule.1) (runHook_gives hfree.2.1 ctx)
        (runHook_frank hrings.2.1)
      exact evalFirst_reveals (hmembers hmemChildren hfree.2.2)
        (hreveals ih hmemChildren hrings.2.2 hfree.2.2 hrule.2)
  | mapped f inner ih =>
      apply ((ih hmem hrings hfree hrule).map _).imp
      intro _ hroad
      obtain ⟨e, herror, _⟩ := error_of_hasRoad hroad
      have hanswer : (mapped f inner).answer .failFast ctx = .error e := by
        unfold answer
        rw [herror]
        rfl
      rw [outlook_of_error hanswer]
      exact Forecast.hasRoad_road _ _

end Rule

end PushGoals
