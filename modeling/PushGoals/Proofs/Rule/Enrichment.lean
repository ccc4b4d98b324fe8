import PushGoals.Proofs.OneSet

/-!
# Extensions of extensions

An enriched rule may be extended again, on either side.  However the extensions are
nested, the rules stand in one row and are evaluated from left to right up to the
first that gives a locked set, and what they have given is merged in that order.  The
nested rule leaves a line of its own in the log and nothing else behind: it cannot fail
where its parts are isolated, and where they are not, their failure is its own.
-/

namespace PushGoals

/-! ## Merging in turn -/

namespace Rule

/-- What contributions come to when each extends those before it. -/
def joinAll {V : Type} [Contribution V] (givens : List (Option V)) : Option V :=
  givens.foldr combine none

variable {base middle extension : Option GoalSet} {givens more : List (Option GoalSet)}

theorem closed_combine (base extension : Option GoalSet) :
    closed (combine base extension) = (closed base || closed extension) := by
  cases base with
  | none => rw [combine_none_left, GoalSet.closed_none, Bool.false_or]
  | some old =>
      cases extension with
      | none => rw [combine_none_right, GoalSet.closed_none, Bool.or_false]
      | some added =>
          have hclosed := (GoalSet.joins_merge [old, added]).closed
          rwa [List.any_cons, List.any_cons, List.any_nil, Bool.or_false] at hclosed

theorem combine_solid (hbase : ∀ set ∈ base, set.Solid)
    (hextension : ∀ set ∈ extension, set.Solid) :
    ∀ set ∈ combine base extension, set.Solid := by
  cases base with
  | none => rwa [combine_none_left]
  | some old =>
      cases extension with
      | none => rwa [combine_none_right]
      | some added => exact fun set hset => GoalSet.solid_of_merge hset

theorem combine_assoc (hbase : ∀ set ∈ base, set.Solid) (hmiddle : ∀ set ∈ middle, set.Solid)
    (hextension : ∀ set ∈ extension, set.Solid) :
    combine (combine base middle) extension = combine base (combine middle extension) := by
  cases base with
  | none => rw [combine_none_left, combine_none_left]
  | some a =>
      cases middle with
      | none => rw [combine_none_right, combine_none_left]
      | some b =>
          cases extension with
          | none => rw [combine_none_right, combine_none_right]
          | some c =>
              have hsolid : ∀ set ∈ [a, b, c], set.Solid := by
                simp [hbase a rfl, hmiddle b rfl, hextension c rfl]
              obtain ⟨first, hfirst⟩ :=
                Option.ne_none_iff_exists'.mp ((hbase a rfl).merge_ne_none [b])
              obtain ⟨last, hlast⟩ :=
                Option.ne_none_iff_exists'.mp ((hmiddle b rfl).merge_ne_none [c])
              have hleft : GoalSet.merge [first, c] = GoalSet.merge [a, b, c] :=
                GoalSet.Flattens.merge_eq
                  (.cons (.pair hfirst) (.cons (.single (some c)) .nil)) hsolid
              have hright : GoalSet.merge [a, last] = GoalSet.merge [a, b, c] :=
                GoalSet.Flattens.merge_eq
                  (.cons (.single (some a)) (.cons (.pair hlast) .nil)) hsolid
              calc combine (combine (some a) (some b)) (some c)
                  = combine (some first) (some c) := congrArg (combine · (some c)) hfirst
                _ = GoalSet.merge [a, b, c] := hleft
                _ = combine (some a) (some last) := hright.symm
                _ = combine (some a) (combine (some b) (some c)) :=
                    congrArg (combine (some a)) hlast.symm

theorem closed_joinAll (givens : List (Option GoalSet)) :
    closed (joinAll givens) = givens.any closed := by
  induction givens with
  | nil => rfl
  | cons given rest ih =>
      rw [List.any_cons, ← ih]
      exact closed_combine given (joinAll rest)

theorem joinAll_solid (hsolid : ∀ given ∈ givens, ∀ set ∈ given, set.Solid) :
    ∀ set ∈ joinAll givens, set.Solid := by
  induction givens with
  | nil => exact fun _ hset => nomatch hset
  | cons given rest ih =>
      obtain ⟨hhead, hrest⟩ := List.forall_mem_cons.mp hsolid
      exact combine_solid hhead (ih hrest)

theorem joinAll_append (hsolid : ∀ given ∈ givens ++ more, ∀ set ∈ given, set.Solid) :
    joinAll (givens ++ more) = combine (joinAll givens) (joinAll more) := by
  induction givens with
  | nil => exact (combine_none_left (joinAll more)).symm
  | cons given rest ih =>
      rw [List.cons_append, List.forall_mem_cons] at hsolid
      obtain ⟨hrest, hmore⟩ := List.forall_mem_append.mp hsolid.2
      calc joinAll (given :: rest ++ more)
          = combine given (combine (joinAll rest) (joinAll more)) :=
            congrArg (combine given) (ih hsolid.2)
        _ = combine (joinAll (given :: rest)) (joinAll more) :=
            (combine_assoc hsolid.1 (joinAll_solid hrest) (joinAll_solid hmore)).symm

end Rule

/-! ## Evaluating a row of rules -/

namespace Eval

open Rule (closed combine joinAll)

variable {V : Type} [Contribution V]

/-- The steps one after another, up to the first that gives a closed value. -/
def untilClosed : List (Eval (Outcome V)) → Eval (List (Outcome V))
  | [] => pure []
  | step :: rest => do
      let given ← step
      if closed given.value? then return [given]
      let others ← untilClosed rest
      return given :: others

def joinedValue (outcomes : List (Outcome V)) : Option V := joinAll (outcomes.map Outcome.value?)

/-- What a row of steps gives together. -/
def joined (steps : List (Eval (Outcome V))) : Eval (Outcome V) := do
  let outcomes ← untilClosed steps
  return .ofOption (joinedValue outcomes)

/-- What a second step adds to a first one. -/
def extended (base extension : Eval (Outcome V)) : Eval (Outcome V) := do
  let given ← base
  if closed given.value? then return .ofOption given.value?
  let added ← extension
  return .ofOption (combine given.value? added.value?)

theorem untilClosed_append (first second : List (Eval (Outcome V))) :
    untilClosed (first ++ second) = do
      let outcomes ← untilClosed first
      if outcomes.any (closed ·.value?) then return outcomes
      let others ← untilClosed second
      return outcomes ++ others := by
  induction first with
  | nil => simp [untilClosed]
  | cons step rest ih =>
      rw [List.cons_append, untilClosed, untilClosed, ih, bind_assoc]
      congr 1
      funext given
      by_cases hclosed : closed given.value? = true
      · simp [hclosed]
      · rw [if_neg hclosed, if_neg hclosed, bind_assoc, bind_assoc]
        congr 1
        funext outcomes
        have hany : (given :: outcomes).any (closed ·.value?) =
            outcomes.any (closed ·.value?) := by
          rw [List.any_cons, Bool.eq_false_iff.mpr hclosed, Bool.false_or]
        rw [pure_bind, hany]
        by_cases hrest : outcomes.any (closed ·.value?) = true
        · rw [if_pos hrest, if_pos hrest, pure_bind]
        · rw [if_neg hrest, if_neg hrest, bind_assoc]
          simp only [pure_bind, List.cons_append]

theorem joined_append (first second : List (Eval (Outcome V))) :
    joined (first ++ second) = do
      let outcomes ← untilClosed first
      if outcomes.any (closed ·.value?) then return .ofOption (joinedValue outcomes)
      let others ← untilClosed second
      return .ofOption (joinedValue (outcomes ++ others)) := by
  unfold joined
  rw [untilClosed_append, bind_assoc]
  congr 1
  funext outcomes
  by_cases hany : outcomes.any (closed ·.value?) = true
  · rw [if_pos hany, if_pos hany, pure_bind]
  · rw [if_neg hany, if_neg hany, bind_assoc]
    simp only [pure_bind]

theorem joined_singleton (step : Eval (Outcome V)) :
    joined [step] = do
      let given ← step
      return .ofOption given.value? := by
  unfold joined
  simp only [untilClosed, bind_assoc]
  congr 1
  funext given
  by_cases hclosed : closed given.value? = true
  · simp [hclosed, joinedValue, joinAll]
  · simp [hclosed, joinedValue, joinAll]

theorem extended_joined_left (step extension : Eval (Outcome V)) :
    extended (joined [step]) extension = extended step extension := by
  unfold extended
  simp only [joined_singleton, bind_assoc, pure_bind, Outcome.value?_ofOption]

theorem extended_joined_right (base step : Eval (Outcome V)) :
    extended base (joined [step]) = extended base step := by
  unfold extended
  simp only [joined_singleton, bind_assoc, pure_bind, Outcome.value?_ofOption]

theorem extended_eq_joined (base extension : Eval (Outcome V)) :
    extended base extension = joined [base, extension] := by
  unfold extended joined joinedValue
  simp only [untilClosed, bind_assoc]
  congr 1
  funext given
  by_cases hclosed : closed given.value? = true
  · simp [hclosed, joinAll]
  · rw [if_neg hclosed, if_neg hclosed, bind_assoc]
    congr 1
    funext added
    by_cases hadded : closed added.value? = true
    · simp [hadded, joinAll]
    · simp [hadded, joinAll]

theorem extended_joined_joined (first second : List (Eval (Outcome GoalSet))) :
    extended (joined first) (joined second) = do
      let outcomes ← untilClosed first
      if outcomes.any (closed ·.value?) then return .ofOption (joinedValue outcomes)
      let others ← untilClosed second
      return .ofOption (combine (joinedValue outcomes) (joinedValue others)) := by
  have hclosed (outcomes : List (Outcome GoalSet)) :
      closed (joinedValue outcomes) = outcomes.any (closed ·.value?) := by
    unfold joinedValue
    rw [Rule.closed_joinAll, List.any_map]
    rfl
  unfold extended joined
  simp only [bind_assoc, pure_bind, Outcome.value?_ofOption, hclosed]

/-- Extending one row by another is the row of all, as long as every set that is given
counts in a merge. -/
theorem extended_joined_run {first second : List (Eval (Outcome GoalSet))} {p : Pass}
    (hsolid : ∀ outcomes, ((untilClosed (first ++ second)).run.run p).1 = .ok outcomes →
      ∀ set ∈ outcomes.filterMap Outcome.value?, set.Solid) :
    (extended (joined first) (joined second)).run.run p =
      (joined (first ++ second)).run.run p := by
  rw [extended_joined_joined, joined_append, run_bind, run_bind]
  rw [untilClosed_append, run_bind] at hsolid
  cases hfirst : ((untilClosed first).run.run p).1 with
  | error e => rfl
  | ok outcomes =>
      rw [hfirst] at hsolid
      simp only at hsolid ⊢
      by_cases hany : outcomes.any (closed ·.value?) = true
      · rw [if_pos hany, if_pos hany]
      · rw [if_neg hany] at hsolid
        rw [if_neg hany, if_neg hany, run_map, run_map]
        rw [run_map] at hsolid
        cases hsecond : ((untilClosed second).run.run ((untilClosed first).run.run p).2).1 with
        | error e => rfl
        | ok others =>
            rw [hsecond] at hsolid
            have hgiven : ∀ given ∈ outcomes.map Outcome.value? ++ others.map Outcome.value?,
                ∀ set ∈ given, set.Solid := by
              intro given hmem set hset
              rw [← List.map_append] at hmem
              obtain ⟨outcome, houtcome, rfl⟩ := List.mem_map.mp hmem
              exact hsolid _ rfl set (List.mem_filterMap.mpr ⟨outcome, houtcome, hset⟩)
            have hjoined : joinedValue (outcomes ++ others) =
                combine (joinedValue outcomes) (joinedValue others) := by
              unfold joinedValue
              rw [List.map_append]
              exact Rule.joinAll_append hgiven
            simp only [Except.map, hjoined]

end Eval

/-! ## Up to lines of the log -/

namespace Pass.SameButLines

variable {extra : Event → Bool} {p q : Pass}

theorem refl (p : Pass) : p.SameButLines extra p := ⟨p.engine.events, rfl, rfl⟩

theorem emit_extra {e : Event} (hextra : extra e = true) (hpq : p.SameButLines extra q) :
    (p.emit e).SameButLines extra q := by
  obtain ⟨events, rfl, hlines⟩ := hpq
  refine ⟨events, rfl, ?_⟩
  have hafter : (p.emit e).engine.events = p.engine.events ++ [e] := rfl
  rw [hafter, List.filter_append, hlines]
  simp [hextra]

/-- Passes that differ from a third in their logs differ in their logs. -/
theorem sameButLog {r : Pass} {other : Event → Bool} (hpr : p.SameButLines extra r)
    (hqr : q.SameButLines other r) : p.SameButLog q := by
  obtain ⟨first, hp, _⟩ := hpr
  obtain ⟨second, hq, _⟩ := hqr
  have hwritten : q = { r with engine := { r.engine with events := q.engine.events } } := by
    rw [hq]
  refine ⟨q.engine.events, ?_⟩
  rw [hp] at hwritten
  exact hwritten

end Pass.SameButLines

namespace Eval

variable {α β V : Type} {extra : Event → Bool}

/-- From passes that differ in lines that `extra` picks out, the steps give one answer and
leave such passes behind. -/
def SameButLines (extra : Event → Bool) (step again : Eval α) : Prop :=
  Work.Lockstep (Pass.SameButLines extra) (Pass.SameButLines extra) (· = ·) step.run again.run

/-- Where the first failure does not end the pass, the step never fails. -/
def FailsFast (step : Eval α) : Prop :=
  ∀ p e, (step.run.run p).1 = .error e → (step.run.run p).2.scope.policy = .failFast

theorem FailsFast.extended [Contribution V] {base extension : Eval (Outcome V)}
    (hbase : FailsFast base) (hextension : FailsFast extension) :
    FailsFast (extended base extension) := by
  intro p e
  unfold Eval.extended
  rw [run_bind]
  cases hgiven : (base.run.run p).1 with
  | error d => exact fun _ => hbase p d hgiven
  | ok given =>
      simp only
      by_cases hclosed : Rule.closed given.value? = true
      · rw [if_pos hclosed]
        exact fun herror => nomatch herror
      · rw [if_neg hclosed, run_map]
        exact fun herror => hextension _ e (error_of_map herror)

namespace SameButLines

theorem bind {step again : Eval α} {next nextAgain : α → Eval β}
    (hstep : SameButLines extra step again)
    (hnext : ∀ a, SameButLines extra (next a) (nextAgain a)) :
    SameButLines extra (step >>= next) (again >>= nextAgain) := by
  unfold SameButLines
  rw [ExceptT.run_bind, ExceptT.run_bind]
  apply Work.Lockstep.bind hstep
  rintro answer _ rfl
  cases answer with
  | error e => exact Work.Lockstep.pure rfl
  | ok a => exact hnext a

theorem extended [Contribution V] {base again extension extensionAgain : Eval (Outcome V)}
    (hbase : SameButLines extra base again)
    (hextension : SameButLines extra extension extensionAgain) :
    SameButLines extra (extended base extension) (Eval.extended again extensionAgain) := by
  apply hbase.bind
  intro given
  by_cases hclosed : Rule.closed given.value? = true
  · simp only [if_pos hclosed]
    exact Work.Lockstep.pure rfl
  · simp only [if_neg hclosed]
    exact hextension.bind fun added => Work.Lockstep.pure rfl

/-- Supervising a step that fails only where that ends the pass adds a line to the log
when the step matches, and nothing else. -/
theorem supervised {step again : Eval (Outcome V)} (hstep : SameButLines extra step again)
    (hfails : FailsFast step) {name : Work String} {called : String}
    (hname : ∀ p, name.run p = (called, p)) (hextra : extra (.ruleMatched called) = true) :
    SameButLines extra (supervised name step) again := by
  intro p q hpq
  obtain ⟨hanswer, hthen⟩ := hstep p q hpq
  cases hgiven : (step.run.run p).1 with
  | error e =>
      rw [run_supervised_error name hgiven (hfails p e hgiven)]
      exact ⟨hgiven.symm.trans hanswer, hthen⟩
  | ok outcome =>
      rw [run_supervised_ok (fun p => congrArg Prod.snd (hname p)) hgiven]
      refine ⟨hgiven.symm.trans hanswer, ?_⟩
      by_cases hmatched : outcome.isMatched = true
      · simp only [if_pos hmatched, hname]
        exact hthen.emit_extra hextra
      · simp only [if_neg hmatched]
        exact hthen

/-- What extends one row by another gives what the row of all gives. -/
theorem run_joined {step : Eval (Outcome GoalSet)} {first second : List (Eval (Outcome GoalSet))}
    {p : Pass} (hstep : SameButLines extra step (Eval.extended (joined first) (joined second)))
    (hsolid : ∀ outcomes, ((untilClosed (first ++ second)).run.run p).1 = .ok outcomes →
      ∀ set ∈ outcomes.filterMap Outcome.value?, set.Solid) :
    (step.run.run p).1 = ((joined (first ++ second)).run.run p).1 ∧
      (step.run.run p).2.SameButLines extra ((untilClosed (first ++ second)).run.run p).2 := by
  have hafter : ((joined (first ++ second)).run.run p).2 =
      ((untilClosed (first ++ second)).run.run p).2 := congrArg Prod.snd (run_map _ _ p)
  rw [← hafter, ← extended_joined_run hsolid]
  exact hstep p p (.refl p)

end SameButLines

end Eval

namespace Rule

variable {ctx : Context} {extra : Event → Bool}

theorem supervise_failsFast (rule : GoalRule) (ctx : Context) :
    Eval.FailsFast (rule.supervise (rule.eval ctx)) := by
  intro p e herror
  rw [rule.supervise_policy]
  exact (supervise_error_iff.mp herror).1

theorem supervise_sameButLines (rule : GoalRule) (ctx : Context) :
    Eval.SameButLines extra (rule.supervise (rule.eval ctx)) (rule.supervise (rule.eval ctx)) :=
  (Pass.SameButLines.steady extra).supervise rule
    (eval_inStep (Pass.SameButLines.steady extra) (rule.inStep_sameButLines ctx extra))

theorem eval_enriched {V : Type} [Contribution V] (ctx : Context) (name : String)
    (base extension : Rule V) :
    (enriched name base extension).eval ctx =
      Eval.extended (base.supervise (base.eval ctx))
        (extension.supervise (extension.eval ctx)) := by
  rw [eval]
  rfl

/-- Of an enriched rule as a member of a rule set nothing is seen but its two rules and a
line of its own in the log. -/
theorem supervise_enriched (ctx : Context) (name : String) (base extension : GoalRule) :
    Eval.SameButLines (· == .ruleMatched name)
      ((enriched name base extension).supervise ((enriched name base extension).eval ctx))
      (Eval.extended (base.supervise (base.eval ctx))
        (extension.supervise (extension.eval ctx))) := by
  rw [eval_enriched]
  refine Eval.SameButLines.supervised ?_ ?_ (fun _ => rfl) (beq_self_eq_true _)
  · exact (supervise_sameButLines base ctx).extended (supervise_sameButLines extension ctx)
  · exact (supervise_failsFast base ctx).extended (supervise_failsFast extension ctx)

theorem eval_enriched_left (ctx : Context) (name inner : String) (a b c : GoalRule) :
    Eval.SameButLines (· == .ruleMatched inner) ((enriched name (enriched inner a b) c).eval ctx)
      (Eval.extended (Eval.joined (superviseEach ctx [a, b]))
        (Eval.joined (superviseEach ctx [c]))) := by
  simp only [superviseEach, Eval.extended_joined_right, ← Eval.extended_eq_joined]
  rw [eval_enriched]
  exact (supervise_enriched ctx inner a b).extended (supervise_sameButLines c ctx)

theorem eval_enriched_right (ctx : Context) (name inner : String) (a b c : GoalRule) :
    Eval.SameButLines (· == .ruleMatched inner) ((enriched name a (enriched inner b c)).eval ctx)
      (Eval.extended (Eval.joined (superviseEach ctx [a]))
        (Eval.joined (superviseEach ctx [b, c]))) := by
  simp only [superviseEach, Eval.extended_joined_left, ← Eval.extended_eq_joined]
  rw [eval_enriched]
  exact (supervise_sameButLines a ctx).extended (supervise_enriched ctx inner b c)

/-- Extending an extension and extending by an extension come to the same: the three
rules are evaluated in their order, up to the first that gives a locked set.  Each
nested rule adds its own line to the log of that, and nothing else. -/
theorem enrich_associative (learned : LearnedNames) {a b c : GoalRule} {ctx : Context} {p : Pass}
    (hsolid : ∀ outcomes,
      ((Eval.untilClosed (superviseEach ctx [a, b, c])).run.run p).1 = .ok outcomes →
        ∀ set ∈ outcomes.filterMap Outcome.value?, set.Solid) :
    (∀ now, (enrich learned (enrich learned a b) c).name now =
        (enrich learned a (enrich learned b c)).name now) ∧
      (((enrich learned (enrich learned a b) c).eval ctx).run.run p).1 =
        (((enrich learned a (enrich learned b c)).eval ctx).run.run p).1 ∧
      (((enrich learned (enrich learned a b) c).eval ctx).run.run p).2.SameButLog
        (((enrich learned a (enrich learned b c)).eval ctx).run.run p).2 ∧
      (((enrich learned (enrich learned a b) c).eval ctx).run.run p).2.SameButLines
        (· == .ruleMatched ((enrich learned a b).name learned))
        ((Eval.untilClosed (superviseEach ctx [a, b, c])).run.run p).2 ∧
      (((enrich learned a (enrich learned b c)).eval ctx).run.run p).2.SameButLines
        (· == .ruleMatched ((enrich learned b c).name learned))
        ((Eval.untilClosed (superviseEach ctx [a, b, c])).run.run p).2 := by
  obtain ⟨hleft, hleftAfter⟩ := (eval_enriched_left ctx
    ((enrich learned a b).name learned ++ ", " ++ c.name learned)
    ((enrich learned a b).name learned) a b c).run_joined hsolid
  obtain ⟨hright, hrightAfter⟩ := (eval_enriched_right ctx
    (a.name learned ++ ", " ++ (enrich learned b c).name learned)
    ((enrich learned b c).name learned) a b c).run_joined hsolid
  refine ⟨?_, hleft.trans hright.symm, hleftAfter.sameButLog hrightAfter, hleftAfter, hrightAfter⟩
  intro now
  simp only [enrich, name, String.append_assoc]

/-- Leaves a value in the scope for rules behind it. -/
def preparing : GoalRule :=
  .leaf "prepare" (.test .onAnyPush) (some fun _ => Probe.set "ready" (.bool true))
    ⟨"prepare", [.ofName "build"], false⟩

def breaking : GoalRule := .custom "broken" .cheap fun _ => throw (.project "gone")

/-- Asks for the value and gives a locked set. -/
def shipping : GoalRule :=
  .fixed (.test (.scopeHolds "ready" (.bool true))) none
    ⟨"ship", [.ofName "build", .ofName "deploy"], true⟩

def isolating : Pass := ⟨{}, { policy := .isolateAndReport }⟩

/-- Of three rules of which the second fails, either grouping gives the locked set of the
other two, and records the failure. -/
theorem shipping_regroups :
    (((enrich [] (enrich [] preparing breaking) shipping).eval .empty).run.run isolating).1 =
        (((enrich [] preparing (enrich [] breaking shipping)).eval .empty).run.run isolating).1 ∧
      (((enrich [] (enrich [] preparing breaking) shipping).eval .empty).run.run isolating).1.map
          (fun outcome => outcome.value?.map fun set => (set.name, set.uniqueNames, set.locked)) =
        .ok (some ("prepare, ship", ["build", "deploy"], true)) ∧
      (((enrich [] preparing (enrich [] breaking shipping)).eval .empty).run.run
          isolating).2.scope.failures =
        [⟨"broken", "project error: gone"⟩] := by
  have hchecked : ((Eval.untilClosed (superviseEach .empty
      [preparing, breaking, shipping])).run.run isolating).1.map
        (fun outcomes => (outcomes.filterMap Outcome.value?).all fun set =>
          set.locked || !set.goals.isEmpty) = .ok true := by
    decide +kernel
  have hsolid : ∀ outcomes, ((Eval.untilClosed (superviseEach .empty
      [preparing, breaking, shipping])).run.run isolating).1 = .ok outcomes →
        ∀ set ∈ outcomes.filterMap Outcome.value?, set.Solid := by
    intro outcomes houtcomes set hset
    rw [houtcomes] at hchecked
    have hcounts := List.all_eq_true.mp (Except.ok.inj hchecked) set hset
    rw [Bool.or_eq_true, Bool.not_eq_true', List.isEmpty_eq_false_iff] at hcounts
    exact hcounts
  refine ⟨(enrich_associative [] hsolid).2.1, ?_⟩
  decide +kernel

end Rule

end PushGoals
