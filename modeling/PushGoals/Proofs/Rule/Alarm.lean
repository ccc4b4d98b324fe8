import PushGoals.Proofs.Ahead
import PushGoals.Proofs.Alarm

/-!
# Rules that raise an alarm

The contributors of an all-matches set are all evaluated, and the set fails with the
first of their errors, as a formula does.  Everywhere else a rule comes to a halt where
something has broken.  So in a pass that ends at the first failure a rule reports what
has broken, unless a contributor that lacks data stands before one that breaks.
-/

namespace PushGoals

variable {V : Type} {α β : Type} {alarm : Journal → Prop} {inv : Pass → Prop} {ctx : Context}

/-- What a step shows alone it shows as a member of a rule set. -/
theorem Eval.supervised_reports (hinv : ∀ p, inv p → p.FailFast)
    (hemit : ∀ p e, inv p → inv (p.emit e)) {name : Work String} (hname : ∀ p, (name.run p).2 = p)
    {step : Eval (Outcome V)} {post : Except GoalError (Outcome V) → Prop}
    (hstep : Work.Reports alarm inv step.run post) :
    Work.Reports alarm inv (Eval.supervised name step).run post := by
  intro p hp
  obtain ⟨hkept, hreported⟩ := hstep p hp
  cases hanswer : (step.run.run p).1 with
  | error e =>
      rw [run_supervised_error name hanswer (hinv _ hkept), ← hanswer]
      exact ⟨hkept, hreported⟩
  | ok outcome =>
      rw [run_supervised_ok hname hanswer, ← hanswer]
      by_cases hmatched : outcome.isMatched = true
      · simp only [if_pos hmatched]
        exact ⟨hemit _ _ hkept, hreported⟩
      · simp only [if_neg hmatched]
        exact ⟨hkept, hreported⟩

namespace Rule

/-- The first rule never lacks data, or the second one never breaks. -/
def Orderly (ctx : Context) (a b : Rule V) : Prop :=
  a.Every (NeverLacks ctx) ∨ b.Every (NeverBreaks ctx)

mutual

/-- Guards in the rule are unmasked, and in sets of contributors each stands in `pair` to
those behind it. -/
def Unmasked (ctx : Context) (pair : Rule V → Rule V → Prop) : Rule V → Prop
  | .fixed guard _ _ => guard.Unmasked ctx
  | .halting guard _ => guard.Unmasked ctx
  | .computed _ guard _ _ => guard.Unmasked ctx
  | .firstMatch _ rules => UnmaskedAmong ctx pair rules
  | .allMatches _ contributors =>
      UnmaskedAmong ctx pair contributors ∧ contributors.Pairwise pair
  | .enriched _ base extension => Unmasked ctx pair base ∧ Unmasked ctx pair extension
  | .leaf _ guard _ _ => guard.Unmasked ctx
  | .branch _ guard _ children => guard.Unmasked ctx ∧ UnmaskedAmong ctx pair children
  | .mapped _ inner => Unmasked ctx pair inner
  | .custom .. => True

def UnmaskedAmong (ctx : Context) (pair : Rule V → Rule V → Prop) : List (Rule V) → Prop
  | [] => True
  | rule :: rest => Unmasked ctx pair rule ∧ UnmaskedAmong ctx pair rest

end

@[simp] theorem unmaskedAmong_iff {pair : Rule V → Rule V → Prop} {rules : List (Rule V)} :
    UnmaskedAmong ctx pair rules ↔ ∀ rule ∈ rules, rule.Unmasked ctx pair := by
  induction rules with
  | nil => simp [UnmaskedAmong]
  | cons rule rest ih => simp [UnmaskedAmong, ih]

theorem unmasked_of_neverBreaks {rule : Rule V} (hnever : rule.Every (NeverBreaks ctx)) :
    rule.Unmasked ctx (Orderly ctx) := by
  have hmembers {rules : List (Rule V)}
      (ih : ∀ rule ∈ rules, rule.Every (NeverBreaks ctx) → rule.Unmasked ctx (Orderly ctx))
      (hnever : EveryAmong (NeverBreaks ctx) rules) : UnmaskedAmong ctx (Orderly ctx) rules :=
    unmaskedAmong_iff.mpr fun rule hmem => ih rule hmem (everyAmong_iff.mp hnever rule hmem)
  induction rule using Rule.induct with
  | fixed guard reason value => exact Guard.unmasked_of_neverBreaks hnever
  | halting guard reason => exact Guard.unmasked_of_neverBreaks hnever
  | computed key guard reason compute => exact Guard.unmasked_of_neverBreaks hnever.1
  | firstMatch name rules ih => exact hmembers ih hnever
  | allMatches name contributors ih =>
      refine ⟨hmembers ih hnever, ?_⟩
      exact List.pairwise_of_forall_mem_list fun a _ b hb =>
        .inr (everyAmong_iff.mp hnever b hb)
  | enriched name base extension ihBase ihExtension =>
      exact ⟨ihBase hnever.1, ihExtension hnever.2⟩
  | leaf name guard hook value => exact Guard.unmasked_of_neverBreaks hnever.1
  | branch name guard hook children ih =>
      exact ⟨Guard.unmasked_of_neverBreaks hnever.1, hmembers ih hnever.2.2⟩
  | mapped f inner ih => exact ih hnever
  | custom name cost run => trivial

theorem runHook_frank {hook : Option Hook}
    (hrings : ∀ work, hook = some work → Rings alarm ctx work) :
    Eval.Frank alarm (runHook hook ctx) := by
  cases hook with
  | none => exact .ok ()
  | some work => exact .ofProbe (hrings work rfl)

variable [Contribution V]

theorem supervise_frank {rule : Rule V} (hrule : Eval.Frank alarm (rule.eval ctx)) :
    Eval.Frank alarm (rule.supervise (rule.eval ctx)) :=
  Eval.supervised_reports (fun _ hp => hp) (fun _ _ hp => hp) (fun _ => rfl) hrule

theorem supervise_always {Q : {α : Type} → Except GoalError α → Prop} {rule : Rule V}
    (hQ : Compositional fun {α : Type} (answer _ : Except GoalError α) => Q answer)
    (hwork : rule.Every fun work => ∀ scratch, Q ((work ctx).run scratch).1) :
    Eval.Always Q (rule.supervise (rule.eval ctx)) :=
  (eval_always hQ (fun hwork => hwork) hwork).supervised hQ

theorem evalFirst_frank {rules : List (Rule V)}
    (hrules : ∀ rule ∈ rules, Eval.Frank alarm (rule.eval ctx)) :
    Eval.Frank alarm (evalFirst ctx rules) := by
  induction rules with
  | nil => exact .ok Outcome.noMatch
  | cons rule rest ih =>
      obtain ⟨hhead, hrest⟩ := List.forall_mem_cons.mp hrules
      apply (supervise_frank hhead).bind
      intro outcome
      cases outcome with
      | matched value => exact .ok (Outcome.matched value)
      | noMatch => exact ih hrest
      | halt =>
          have hname : Work.Reports alarm Pass.FailFast rule.currentName fun _ => False :=
            fun _ hp => ⟨hp, .inl⟩
          apply Eval.Frank.lift_bind hname
          intro name
          apply Eval.Frank.lift_bind _ fun _ => .ok Outcome.noMatch
          exact .modify (fun _ hp => hp) fun _ => rfl

theorem eval_frank {rule : Rule V} (hrings : rule.Every (Rings alarm ctx))
    (hrule : rule.Unmasked ctx (Orderly ctx)) : Eval.Frank alarm (rule.eval ctx) := by
  have hmembers {rules : List (Rule V)}
      (ih : ∀ rule ∈ rules, rule.Every (Rings alarm ctx) → rule.Unmasked ctx (Orderly ctx) →
        Eval.Frank alarm (rule.eval ctx))
      (hrings : EveryAmong (Rings alarm ctx) rules)
      (hrules : UnmaskedAmong ctx (Orderly ctx) rules) :
      ∀ rule ∈ rules, Eval.Frank alarm (rule.eval ctx) :=
    fun rule hmem => ih rule hmem (everyAmong_iff.mp hrings rule hmem)
      (unmaskedAmong_iff.mp hrules rule hmem)
  induction rule using Rule.induct with
  | fixed guard reason value =>
      apply (Guard.passes_frank hrings hrule).bind
      intro passes
      cases passes <;> exact .ok _
  | halting guard reason =>
      apply (Guard.passes_frank hrings hrule).bind
      intro passes
      cases passes <;> exact .ok _
  | computed key guard reason compute =>
      apply (Guard.passes_frank hrings.1 hrule).bind
      intro passes
      cases passes with
      | false => exact .ok Outcome.noMatch
      | true =>
          apply (Eval.Frank.ofProbe (hrings.2 _)).bind
          rintro ⟨name, value⟩
          apply Eval.Frank.lift_bind _ fun _ => .ok (Outcome.matched value)
          cases name <;> exact fun _ hp => ⟨hp, .inl⟩
  | firstMatch name rules ih => exact evalFirst_frank (hmembers ih hrings hrule)
  | allMatches name contributors ih =>
      have heach := hmembers ih hrings hrule.1
      refine Eval.Frank.map ?_ _
      rw [superviseEach_eq_map]
      apply Eval.Frank.allSettled
      · rw [List.forall_mem_map]
        exact fun rule hmem => supervise_frank (heach rule hmem)
      · rw [List.pairwise_map]
        apply hrule.2.imp
        intro a b hab
        exact hab.imp (supervise_always lacksData_compositional)
          (supervise_always LacksDataOnly.compositional)
  | enriched name base extension ihBase ihExtension =>
      apply (supervise_frank (ihBase hrings.1 hrule.1)).bind
      intro given
      by_cases hclosed : closed given.value? = true
      · simp only [if_pos hclosed]
        exact .ok _
      · simp only [if_neg hclosed]
        exact (supervise_frank (ihExtension hrings.2 hrule.2)).map _
  | leaf name guard hook value =>
      apply (Guard.passes_frank hrings.1 hrule).bind
      intro passes
      cases passes with
      | false => exact .ok Outcome.noMatch
      | true => exact (runHook_frank hrings.2).map _
  | branch name guard hook children ih =>
      apply (Guard.passes_frank hrings.1 hrule.1).bind
      intro passes
      cases passes with
      | false => exact .ok Outcome.noMatch
      | true =>
          apply (runHook_frank hrings.2.1).bind
          exact fun _ => evalFirst_frank (hmembers ih hrings.2.2 hrule.2)
  | mapped f inner ih => exact (ih hrings hrule).map _
  | custom name cost run => exact .ofProbe hrings

/-- Rules over work that does not break do not raise the alarm. -/
theorem eval_silent {rule : Rule V} (hrings : rule.Every (Rings alarm ctx))
    (hnever : rule.Every (NeverBreaks ctx)) :
    Work.Reports alarm Pass.FailFast (rule.eval ctx).run fun _ => False := by
  intro p hp
  obtain ⟨hkept, hreported⟩ := eval_frank hrings (unmasked_of_neverBreaks hnever) p hp
  have hdata := eval_always LacksDataOnly.compositional (fun hwork => hwork) hnever p
  exact ⟨hkept, fun halarm => (hreported halarm).imp id fun hbreaks =>
    hbreaks.not_lacksDataOnly hdata⟩

end Rule

end PushGoals
