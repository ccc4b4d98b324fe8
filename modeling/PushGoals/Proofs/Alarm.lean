import PushGoals.Proofs.Rule.Failure

/-!
# Work that raises an alarm

A want of data is an open question, every other error a dead end.  To see whether
something has broken in the course of a pass, let work raise an alarm in the journal
whenever it breaks.  A step reports the alarm when it cannot have raised it without a
result that shows it.

A formula evaluates all its parts and fails with the first of their errors.  So it
reports what has broken unless a part that lacks data stands before one that breaks.
-/

namespace PushGoals

variable {α β : Type} {alarm : Journal → Prop} {inv : Pass → Prop}

/-- The answer is an error that more knowledge of the push does not mend. -/
def Breaks (answer : Except GoalError α) : Prop :=
  ∃ e, answer = .error e ∧ e.isInsufficientData = false

instance (answer : Except GoalError α) : Decidable (Breaks answer) :=
  match answer with
  | .ok _ => .isFalse fun ⟨_, hok, _⟩ => nomatch hok
  | .error e => decidable_of_iff (e.isInsufficientData = false)
      ⟨fun hreal => ⟨e, rfl, hreal⟩, fun ⟨_, he, hreal⟩ => Except.error.inj he ▸ hreal⟩

theorem Breaks.not_lacksDataOnly {answer : Except GoalError α} (hbreaks : Breaks answer) :
    ¬ LacksDataOnly answer := by
  obtain ⟨e, rfl, hreal⟩ := hbreaks
  intro hdata
  rw [hdata e rfl] at hreal
  cases hreal

/-- The alarm is up after the work if it was up before or the work has broken, and only
then. -/
def Rings (alarm : Journal → Prop) (ctx : Context) (work : Context → Probe α) : Prop :=
  ∀ scratch, alarm ((work ctx).run scratch).2.journal ↔
    alarm scratch.journal ∨ Breaks ((work ctx).run scratch).1

/-- The probe, with `line` noted in the journal if it breaks. -/
def Probe.sounding (line : String) (probe : Probe α) : Probe α :=
  ExceptT.mk fun scratch =>
    let (answer, after) := probe.run scratch
    (answer, if Breaks answer then { after with journal := after.journal.note line } else after)

/-- Work that neither breaks nor writes to the journal need not raise the alarm. -/
theorem Rings.of_neverBreaks {ctx : Context} {work : Context → Probe α}
    (hnever : ∀ scratch, LacksDataOnly ((work ctx).run scratch).1)
    (hjournal : ∀ scratch, ((work ctx).run scratch).2.journal = scratch.journal) :
    Rings alarm ctx work := by
  intro scratch
  rw [hjournal scratch]
  exact ⟨.inl, fun hup => hup.resolve_right fun hbreaks =>
    hbreaks.not_lacksDataOnly (hnever scratch)⟩

/-- Any work that leaves `line` to the alarm can be made to raise it. -/
theorem Rings.sounding {line : String} {ctx : Context} {work : Context → Probe α}
    (hquiet : ∀ scratch, line ∈ ((work ctx).run scratch).2.journal.lines ↔
      line ∈ scratch.journal.lines) :
    Rings (line ∈ ·.lines) ctx fun ctx => (work ctx).sounding line := by
  intro scratch
  change line ∈ (if Breaks ((work ctx).run scratch).1 then
    { ((work ctx).run scratch).2 with
      journal := ((work ctx).run scratch).2.journal.note line }
    else ((work ctx).run scratch).2).journal.lines ↔
      _ ∨ Breaks ((work ctx).run scratch).1
  by_cases hbreaks : Breaks ((work ctx).run scratch).1
  · rw [if_pos hbreaks]
    refine iff_of_true ?_ (.inr hbreaks)
    exact List.mem_append_right _ List.mem_cons_self
  · rw [if_neg hbreaks, hquiet scratch]
    exact ⟨.inl, fun hup => hup.resolve_right hbreaks⟩

/-- From passes with `inv` the work keeps `inv`, and it does not raise the alarm without
a result in `post`. -/
def Work.Reports (alarm : Journal → Prop) (inv : Pass → Prop) (work : Work α)
    (post : α → Prop) : Prop :=
  ∀ p, inv p → inv (work.run p).2 ∧
    (alarm (work.run p).2.engine.journal → alarm p.engine.journal ∨ post (work.run p).1)

/-- The pass ends at the first failure. -/
def Pass.FailFast (p : Pass) : Prop := p.scope.policy = .failFast

/-- A step of a pass that ends at the first failure: if it raises the alarm, it breaks. -/
def Eval.Frank (alarm : Journal → Prop) (step : Eval α) : Prop :=
  Work.Reports alarm Pass.FailFast step.run Breaks

namespace Work.Reports

variable {post : α → Prop} {post' : β → Prop}

theorem pure (a : α) : Reports alarm inv (pure a : Work α) post :=
  fun _ hp => ⟨hp, .inl⟩

theorem modify {change : Pass → Pass} {post : PUnit → Prop}
    (hchange : ∀ p, inv p → inv (change p))
    (hjournal : ∀ p, (change p).engine.journal = p.engine.journal) :
    Reports alarm inv (modify change : Work PUnit) post := by
  intro p hp
  refine ⟨hchange p hp, ?_⟩
  intro halarm
  rw [← hjournal p]
  exact .inl halarm

/-- What shows in the first result is to show in the last one. -/
theorem bind {work : Work α} {next : α → Work β} (hwork : Reports alarm inv work post)
    (hnext : ∀ a, Reports alarm inv (next a) post')
    (hshown : ∀ a, post a → ∀ p, inv p → post' ((next a).run p).1) :
    Reports alarm inv (work >>= next) post' := by
  intro p hp
  obtain ⟨hmiddle, hfirst⟩ := hwork p hp
  obtain ⟨hend, hsecond⟩ := hnext (work.run p).1 _ hmiddle
  rw [Work.run_bind]
  refine ⟨hend, ?_⟩
  intro halarm
  rcases hsecond halarm with hbetween | hpost
  · exact (hfirst hbetween).imp id fun ha => hshown _ ha _ hmiddle
  · exact .inr hpost

theorem imp {post' : α → Prop} {work : Work α} (hwork : Reports alarm inv work post)
    (himp : ∀ a, post a → post' a) : Reports alarm inv work post' :=
  fun p hp => ⟨(hwork p hp).1, fun halarm => ((hwork p hp).2 halarm).imp id (himp _)⟩

theorem keeping {inv' : Pass → Prop} {work : Work α} (hwork : Reports alarm inv work post)
    (himp : ∀ p, inv' p → inv p) (hkeeps : ∀ p, inv' p → inv' (work.run p).2) :
    Reports alarm inv' work post :=
  fun p hp => ⟨hkeeps p hp, (hwork p (himp p hp)).2⟩

end Work.Reports

namespace Eval.Frank

theorem ok (a : α) : Frank alarm (pure a : Eval α) := fun _ hp => ⟨hp, .inl⟩

theorem bind {step : Eval α} {next : α → Eval β} (hstep : Frank alarm step)
    (hnext : ∀ a, Frank alarm (next a)) : Frank alarm (step >>= next) := by
  unfold Frank
  rw [ExceptT.run_bind]
  apply Work.Reports.bind hstep
  · intro answer
    cases answer with
    | error e => exact Work.Reports.pure _
    | ok a => exact hnext a
  · rintro _ ⟨e, rfl, hreal⟩ p _
    exact ⟨e, rfl, hreal⟩

theorem map {step : Eval α} (hstep : Frank alarm step) (f : α → β) :
    Frank alarm (do let x ← step; return f x) :=
  hstep.bind fun a => ok (f a)

theorem lift_bind {work : Work α} {next : α → Eval β}
    (hwork : Work.Reports alarm Pass.FailFast work fun _ => False)
    (hnext : ∀ a, Frank alarm (next a)) : Frank alarm (liftM work >>= next) := by
  have hbind : Work.Reports alarm Pass.FailFast (work >>= fun a => (next a).run) Breaks :=
    hwork.bind hnext fun _ hfalse => hfalse.elim
  exact hbind

theorem ofProbe {ctx : Context} {work : Context → Probe α} (hwork : Rings alarm ctx work) :
    Frank alarm (Eval.ofProbe (work ctx)) :=
  fun p hp => ⟨hp, (hwork p.scratch).mp⟩

/-- All steps are run and the first error is kept, so nothing that may break is to stand
behind a step that may lack data. -/
theorem allSettled {steps : List (Eval α)} (hsteps : ∀ step ∈ steps, Frank alarm step)
    (horder : steps.Pairwise fun a b =>
      Always (fun answer => lacksData answer = false) a ∨ Always LacksDataOnly b) :
    Frank alarm (allSettled steps) := by
  intro p hp
  rw [run_allSettled]
  induction steps generalizing p with
  | nil => exact ⟨hp, .inl⟩
  | cons step rest ih =>
      obtain ⟨hhead, hrest⟩ := List.forall_mem_cons.mp hsteps
      obtain ⟨hpairs, hthen⟩ := List.pairwise_cons.mp horder
      obtain ⟨hmiddle, hfirst⟩ := hhead p hp
      obtain ⟨hend, hlater⟩ := ih hrest hthen _ hmiddle
      rw [run_settle_cons]
      refine ⟨hend, ?_⟩
      intro halarm
      rcases hlater halarm with hbetween | hbroken
      · refine (hfirst hbetween).imp id ?_
        rintro ⟨e, he, hreal⟩
        simp only [he, collect]
        exact ⟨e, rfl, hreal⟩
      · right
        cases hanswer : (step.run.run p).1 with
        | ok a =>
            obtain ⟨e, he, hreal⟩ := hbroken
            exact ⟨e, congrArg (Except.map (a :: ·)) he, hreal⟩
        | error d =>
            simp only [collect]
            refine ⟨d, rfl, Bool.eq_false_iff.mpr ?_⟩
            intro hlacks
            -- The rest has broken, so that the head is among the steps that never lack data.
            have hdata : Always LacksDataOnly (Eval.allSettled rest) := by
              apply Always.allSettled LacksDataOnly.compositional
              intro again hagain
              refine (hpairs again hagain).resolve_left ?_
              intro hnever
              have hgiven := hnever p
              rw [hanswer] at hgiven
              exact absurd hlacks (Bool.eq_false_iff.mp hgiven)
            exact hbroken.not_lacksDataOnly (hdata _)

theorem memoized {ctx : Context} {ref : CacheRef} {name : String} {step : Eval (Outcome Bool)}
    (hstep : Frank alarm step) :
    Frank alarm (Eval.memoized ctx ref name step) := by
  unfold Eval.memoized
  cases ctx.id with
  | none => exact hstep
  | some id =>
      have hlookUp : Work.Reports alarm Pass.FailFast (lookUp ref ⟨id, name⟩) fun _ => False :=
        fun _ hp => ⟨hp, .inl⟩
      apply lift_bind hlookUp
      intro hit
      cases hit with
      | some v => exact ok (Outcome.matched v)
      | none =>
          apply hstep.bind
          intro outcome
          cases outcome with
          | matched v =>
              have hremember : Work.Reports alarm Pass.FailFast (remember ref ⟨id, name⟩ v)
                  fun _ => False := fun _ hp => ⟨hp, .inl⟩
              exact lift_bind hremember fun _ => ok _
          | noMatch => exact ok Outcome.noMatch
          | halt => exact ok Outcome.halt

end Eval.Frank

/-! ## Guards -/

variable {ctx : Context}

namespace Guard

/-- The first guard never lacks data, or the second one never breaks. -/
def Orderly (ctx : Context) (a b : Guard) : Prop :=
  a.Every (NeverLacks ctx) ∨ b.Every (NeverBreaks ctx)

mutual

/-- In no formula of the guard does a part that may break stand behind one that may lack
data. -/
def Unmasked (ctx : Context) : Guard → Prop
  | .test _ => True
  | .custom .. => True
  | .all parts => UnmaskedAmong ctx parts ∧ parts.Pairwise (Orderly ctx)
  | .any parts => UnmaskedAmong ctx parts ∧ parts.Pairwise (Orderly ctx)
  | .negation inner => Unmasked ctx inner
  | .memo _ inner => Unmasked ctx inner
  | .prepared _ inner => Unmasked ctx inner
  | .mapped _ inner => Unmasked ctx inner

def UnmaskedAmong (ctx : Context) : List Guard → Prop
  | [] => True
  | g :: rest => Unmasked ctx g ∧ UnmaskedAmong ctx rest

end

@[simp] theorem unmaskedAmong_iff {parts : List Guard} :
    UnmaskedAmong ctx parts ↔ ∀ g ∈ parts, g.Unmasked ctx := by
  induction parts with
  | nil => simp [UnmaskedAmong]
  | cons g rest ih => simp [UnmaskedAmong, ih]

theorem unmasked_of_neverBreaks {guard : Guard} (hnever : guard.Every (NeverBreaks ctx)) :
    guard.Unmasked ctx := by
  have hformula {parts : List Guard}
      (ih : ∀ g ∈ parts, g.Every (NeverBreaks ctx) → g.Unmasked ctx)
      (hnever : EveryAmong (NeverBreaks ctx) parts) :
      UnmaskedAmong ctx parts ∧ parts.Pairwise (Orderly ctx) := by
    have heach := everyAmong_iff.mp hnever
    refine ⟨unmaskedAmong_iff.mpr fun g hg => ih g hg (heach g hg), ?_⟩
    exact List.pairwise_of_forall_mem_list fun a _ b hb => .inr (heach b hb)
  induction guard using Guard.induct with
  | test t => trivial
  | custom name cost run => trivial
  | all parts ih => exact hformula ih hnever
  | any parts ih => exact hformula ih hnever
  | negation inner ih => exact ih hnever
  | memo cache inner ih => exact ih hnever
  | prepared preparations inner ih => exact ih hnever.2
  | mapped f inner ih => exact ih hnever

theorem eval_frank {guard : Guard} (hrings : guard.Every (Rings alarm ctx))
    (hguard : guard.Unmasked ctx) : Eval.Frank alarm (guard.eval ctx) := by
  have hprobe {α : Type} {work : Context → Probe α} (hwork : Rings alarm ctx work) :
      Eval.Frank alarm (Eval.ofProbe (work ctx)) := .ofProbe hwork
  have hformula {parts : List Guard}
      (ih : ∀ g ∈ parts, g.Every (Rings alarm ctx) → g.Unmasked ctx →
        Eval.Frank alarm (g.eval ctx))
      (hrings : EveryAmong (Rings alarm ctx) parts)
      (hparts : UnmaskedAmong ctx parts ∧ parts.Pairwise (Orderly ctx)) :
      Eval.Frank alarm (Eval.allSettled (evalEach ctx parts)) := by
    rw [evalEach_eq_map]
    apply Eval.Frank.allSettled
    · rw [List.forall_mem_map]
      exact fun g hg => ih g hg (everyAmong_iff.mp hrings g hg)
        (unmaskedAmong_iff.mp hparts.1 g hg)
    · rw [List.pairwise_map]
      apply hparts.2.imp
      intro a b hab
      exact hab.imp (eval_always lacksData_compositional (fun hwork => hwork))
        (eval_always LacksDataOnly.compositional (fun hwork => hwork))
  induction guard using Guard.induct with
  | test t => exact (hprobe hrings).map Outcome.matched
  | custom name cost run => exact hprobe hrings
  | all parts ih => exact (hformula ih hrings hguard).map _
  | any parts ih => exact (hformula ih hrings hguard).map _
  | negation inner ih => exact (ih hrings hguard).map _
  | memo cache inner ih => exact (ih hrings hguard).memoized
  | prepared preparations inner ih =>
      exact (hprobe hrings.1).bind fun _ => ih hrings.2 hguard
  | mapped f inner ih => exact (ih hrings hguard).map _

theorem passes_frank {guard : Guard} (hrings : guard.Every (Rings alarm ctx))
    (hguard : guard.Unmasked ctx) : Eval.Frank alarm (guard.passes ctx) :=
  (eval_frank hrings hguard).map Outcome.passes

end Guard

end PushGoals
