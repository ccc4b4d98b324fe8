import PushGoals.Guard.Standard
import PushGoals.Proofs.Ahead
import PushGoals.Proofs.Goal.Flattening
import PushGoals.Proofs.Guard.Standard
import PushGoals.Proofs.Prediction.Outlook
import PushGoals.Proofs.Rule.Failure

/-!
# Rules that can be seen through

A rule is transparent if it is made of guards and written values alone, put
together in sequences, sets, extensions and nodes without hooks.  As long as its
guards fail for want of data only, no part of it is ever out of sight: whatever
fails leads on to a guard with a value behind it, and the goals that are predicted
are goals that somebody wrote down.

`Eval.Reaches` says of an evaluation that it comes to a result of some kind or
lacks data, and `Forecast.Clear` of a forecast that it knows all roads and holds
sets of some kind only.
-/

namespace PushGoals

variable {α β V : Type}

/-! ## Evaluations that succeed or lack data -/

/-- A result that satisfies `post`, or a want of data. -/
def Reached (post : α → Prop) : Except GoalError α → Prop
  | .ok a => post a
  | .error e => e.isInsufficientData = true

namespace Eval

/-- In any pass the step comes to a result that satisfies `post`, or it lacks data. -/
def Reaches (step : Eval α) (post : α → Prop) : Prop :=
  ∀ p, Reached post (step.run.run p).1

variable {post : α → Prop}

theorem reaches_pure {a : α} (ha : post a) : Reaches (pure a) post := fun _ => ha

theorem Reaches.bind {step : Eval α} {next : α → Eval β} {post' : β → Prop}
    (hstep : Reaches step post) (hnext : ∀ a, post a → Reaches (next a) post') :
    Reaches (step >>= next) post' := by
  intro p
  have hanswer := hstep p
  rw [run_bind]
  cases hgiven : (step.run.run p).1 with
  | error e =>
      rw [hgiven] at hanswer
      exact hanswer
  | ok a =>
      rw [hgiven] at hanswer
      exact hnext a hanswer _

theorem Reaches.allSettled {steps : List (Eval α)} (hsteps : ∀ step ∈ steps, Reaches step post) :
    Reaches (Eval.allSettled steps) (fun results => ∀ a ∈ results, post a) := by
  intro p
  rw [run_allSettled]
  induction steps generalizing p with
  | nil => exact List.forall_mem_nil post
  | cons step rest ih =>
      obtain ⟨hhead, hrest⟩ := List.forall_mem_cons.mp hsteps
      have hanswer := hhead p
      have hothers := ih hrest (step.run.run p).2
      rw [run_settle_cons]
      cases hgiven : (step.run.run p).1 with
      | error e =>
          rw [hgiven] at hanswer
          exact hanswer
      | ok a =>
          rw [hgiven] at hanswer
          rw [collect]
          generalize collect ((settle rest).run (step.run.run p).2).1 = collected at hothers ⊢
          cases collected with
          | error e => exact hothers
          | ok results => exact List.forall_mem_cons.mpr ⟨hanswer, hothers⟩

theorem Reaches.supervised {post : Outcome V → Prop} {step : Eval (Outcome V)}
    (hstep : Reaches step post) (hnone : post .noMatch) (name : Work String) :
    Reaches (Eval.supervised name step) post := by
  intro p
  have hanswer := hstep p
  rw [supervised_fst]
  cases hgiven : (step.run.run p).1 with
  | ok outcome =>
      rw [hgiven] at hanswer
      rw [FailurePolicy.supervised_ok]
      exact hanswer
  | error e =>
      rw [hgiven] at hanswer
      cases (step.run.run p).2.scope.policy with
      | failFast => exact hanswer
      | isolateAndReport => exact hnone

theorem reaches_of_always {step : Eval α} (hstep : Always LacksDataOnly step) :
    Reaches step fun _ => True := by
  intro p
  have hanswer := hstep p
  cases hgiven : (step.run.run p).1 with
  | ok a => trivial
  | error e => exact hanswer e hgiven

end Eval

/-- Work that does not hang on the scratch fails for want of data only, if it does so on an
empty one. -/
theorem FailsForData.neverBreaks {work : Context → Probe α} (hdata : FailsForData work)
    (hfree : ScopeFree work) (ctx : Context) : NeverBreaks ctx work := by
  intro scratch
  rw [hfree ctx scratch]
  exact hdata ctx

theorem Guard.passes_reaches {ctx : Context} {guard : Guard}
    (hguard : guard.Every (NeverBreaks ctx)) :
    Eval.Reaches (guard.passes ctx) fun _ => True := by
  have heval : Eval.Always LacksDataOnly (guard.eval ctx) :=
    Guard.eval_always LacksDataOnly.compositional (fun hwork => hwork) hguard
  exact Eval.reaches_of_always (heval.map LacksDataOnly.compositional Outcome.passes)

/-! ## Transparent rules -/

namespace Rule

mutual

/-- Made of guards and written values alone. -/
def Transparent : Rule V → Prop
  | .fixed .. => True
  | .firstMatch _ rules => TransparentAmong rules
  | .allMatches _ contributors => TransparentAmong contributors
  | .enriched _ base extension => Transparent base ∧ Transparent extension
  | .leaf _ _ hook _ => hook = none
  | .branch _ _ hook children => hook = none ∧ TransparentAmong children
  | .halting .. | .computed .. | .mapped .. | .custom .. => False

def TransparentAmong : List (Rule V) → Prop
  | [] => True
  | rule :: rest => Transparent rule ∧ TransparentAmong rest

end

@[simp] theorem transparentAmong_iff {rules : List (Rule V)} :
    TransparentAmong rules ↔ ∀ rule ∈ rules, rule.Transparent := by
  induction rules with
  | nil => simp [TransparentAmong]
  | cons rule rest ih => simp [TransparentAmong, ih]

mutual

/-- The values of the static rules and leaves, wherever they stand. -/
def written : Rule V → List V
  | .fixed _ _ value => [value]
  | .firstMatch _ rules => writtenAmong rules
  | .allMatches _ contributors => writtenAmong contributors
  | .enriched _ base extension => written base ++ written extension
  | .leaf _ _ _ value => [value]
  | .branch _ _ _ children => writtenAmong children
  | .mapped _ inner => written inner
  | .halting .. | .computed .. | .custom .. => []

def writtenAmong : List (Rule V) → List V
  | [] => []
  | rule :: rest => written rule ++ writtenAmong rest

end

@[simp] theorem writtenAmong_eq_flatMap (rules : List (Rule V)) :
    writtenAmong rules = rules.flatMap written := by
  induction rules with
  | nil => rfl
  | cons rule rest ih => simp [writtenAmong, ih]

/-- The rule is transparent, its guards fail for `ctx` for want of data only, and what
is written in it has property `P`. -/
inductive Legible (ctx : Context) (P : V → Prop) : Rule V → Prop where
  | fixed {guard : Guard} {reason : Option String} {value : V}
      (hguard : guard.Every (NeverBreaks ctx)) (hvalue : P value) :
      Legible ctx P (.fixed guard reason value)
  | firstMatch {name : String} {rules : List (Rule V)}
      (hrules : ∀ rule ∈ rules, Legible ctx P rule) : Legible ctx P (.firstMatch name rules)
  | allMatches {name : String} {contributors : List (Rule V)}
      (hrules : ∀ rule ∈ contributors, Legible ctx P rule) :
      Legible ctx P (.allMatches name contributors)
  | enriched {name : String} {base extension : Rule V} (hbase : Legible ctx P base)
      (hextension : Legible ctx P extension) : Legible ctx P (.enriched name base extension)
  | leaf {name : String} {guard : Guard} {value : V} (hguard : guard.Every (NeverBreaks ctx))
      (hvalue : P value) : Legible ctx P (.leaf name guard none value)
  | branch {name : String} {guard : Guard} {children : List (Rule V)}
      (hguard : guard.Every (NeverBreaks ctx)) (hrules : ∀ rule ∈ children, Legible ctx P rule) :
      Legible ctx P (.branch name guard none children)

theorem legible_of_transparent {ctx : Context} {P : V → Prop} {rule : Rule V}
    (htransparent : rule.Transparent) (hguards : rule.Every (NeverBreaks ctx))
    (hwritten : ∀ v ∈ rule.written, P v) : rule.Legible ctx P := by
  have hamong {rules : List (Rule V)}
      (ih : ∀ rule ∈ rules, rule.Transparent → rule.Every (NeverBreaks ctx) →
        (∀ v ∈ rule.written, P v) → rule.Legible ctx P)
      (htransparent : TransparentAmong rules) (hguards : EveryAmong (NeverBreaks ctx) rules)
      (hwritten : ∀ v ∈ writtenAmong rules, P v) : ∀ rule ∈ rules, rule.Legible ctx P := by
    intro rule hrule
    rw [writtenAmong_eq_flatMap, List.forall_mem_flatMap] at hwritten
    exact ih rule hrule (transparentAmong_iff.mp htransparent rule hrule)
      (everyAmong_iff.mp hguards rule hrule) (hwritten rule hrule)
  induction rule using Rule.induct with
  | fixed guard reason value => exact .fixed hguards (hwritten value List.mem_cons_self)
  | halting guard reason => exact htransparent.elim
  | computed key guard reason compute => exact htransparent.elim
  | firstMatch name rules ih => exact .firstMatch (hamong ih htransparent hguards hwritten)
  | allMatches name contributors ih => exact .allMatches (hamong ih htransparent hguards hwritten)
  | enriched name base extension ihBase ihExtension =>
      obtain ⟨hbase, hextension⟩ := List.forall_mem_append.mp hwritten
      exact .enriched (ihBase htransparent.1 hguards.1 hbase)
        (ihExtension htransparent.2 hguards.2 hextension)
  | leaf name guard hook value =>
      have hnoHook : hook = none := htransparent
      subst hnoHook
      exact .leaf hguards.1 (hwritten value List.mem_cons_self)
  | branch name guard hook children ih =>
      obtain ⟨rfl, hchildren⟩ := htransparent
      exact .branch hguards.1 (hamong ih hchildren hguards.2.2 hwritten)
  | mapped f inner ih => exact htransparent.elim
  | custom name cost run => exact htransparent.elim

/-! ## What transparent rules give -/

/-- Merging values with property `P` gives such a value, or nothing. -/
def KeptByMerge [Contribution V] (P : V → Prop) : Prop :=
  ∀ values : List V, (∀ v ∈ values, P v) → ∀ v ∈ Contribution.merge values, P v

/-- The outcome gives no value, or one with property `P`. -/
def Brings (P : V → Prop) (outcome : Outcome V) : Prop := ∀ v ∈ outcome.value?, P v

section Evaluation

variable {ctx : Context} {P : V → Prop}

theorem brings_noMatch : Brings P .noMatch := fun _ hv => nomatch hv

theorem brings_matched {v : V} (hv : P v) : Brings P (.matched v) := by
  rintro _ ⟨⟩
  exact hv

theorem brings_ofOption {given : Option V} (hgiven : ∀ v ∈ given, P v) :
    Brings P (.ofOption given) := by
  unfold Brings
  rwa [Outcome.value?_ofOption]

theorem gated_reaches {guard : Guard} (hguard : guard.Every (NeverBreaks ctx))
    {behind : Eval (Outcome V)} (hbehind : Eval.Reaches behind (Brings P)) :
    Eval.Reaches (do if ← guard.passes ctx then behind else return .noMatch) (Brings P) := by
  apply (Guard.passes_reaches hguard).bind
  intro passes _
  cases passes with
  | false => exact Eval.reaches_pure brings_noMatch
  | true => exact hbehind

variable [Contribution V]

theorem combine_brings (hmerge : KeptByMerge P) {base extension : Option V}
    (hbase : ∀ v ∈ base, P v) (hextension : ∀ v ∈ extension, P v) :
    ∀ v ∈ combine base extension, P v := by
  cases base with
  | none => cases extension <;> exact hextension
  | some old =>
      cases extension with
      | none => exact hbase
      | some added =>
          apply hmerge
          exact List.forall_mem_cons.mpr
            ⟨hbase old rfl, List.forall_mem_singleton.mpr (hextension added rfl)⟩

theorem supervise_reaches {rule : Rule V} (hrule : Eval.Reaches (rule.eval ctx) (Brings P)) :
    Eval.Reaches (supervise rule (rule.eval ctx)) (Brings P) :=
  hrule.supervised brings_noMatch rule.currentName

theorem evalFirst_reaches {rules : List (Rule V)}
    (hrules : ∀ rule ∈ rules, Eval.Reaches (rule.eval ctx) (Brings P)) :
    Eval.Reaches (evalFirst ctx rules) (Brings P) := by
  induction rules with
  | nil => exact Eval.reaches_pure brings_noMatch
  | cons rule rest ih =>
      obtain ⟨hhead, hrest⟩ := List.forall_mem_cons.mp hrules
      apply (supervise_reaches hhead).bind
      intro outcome houtcome
      cases outcome with
      | matched value => exact Eval.reaches_pure houtcome
      | noMatch => exact ih hrest
      | halt => exact fun _ => brings_noMatch

theorem eval_reaches (hmerge : KeptByMerge P) {rule : Rule V} (hrule : rule.Legible ctx P) :
    Eval.Reaches (rule.eval ctx) (Brings P) := by
  induction hrule with
  | fixed hguard hvalue => exact gated_reaches hguard (Eval.reaches_pure (brings_matched hvalue))
  | firstMatch _ ih => exact evalFirst_reaches ih
  | @allMatches name contributors _ ih =>
      have heach : ∀ step ∈ superviseEach ctx contributors, Eval.Reaches step (Brings P) := by
        rw [superviseEach_eq_map, List.forall_mem_map]
        exact fun rule hrule => supervise_reaches (ih rule hrule)
      apply (Eval.Reaches.allSettled heach).bind
      intro outcomes houtcomes
      apply Eval.reaches_pure
      apply brings_ofOption
      apply hmerge
      intro v hv
      obtain ⟨outcome, houtcome, hgiven⟩ := List.mem_filterMap.mp hv
      exact houtcomes outcome houtcome v hgiven
  | enriched _ _ ihBase ihExtension =>
      apply (supervise_reaches ihBase).bind
      intro given hgiven
      by_cases hclosed : closed given.value? = true
      · simp only [if_pos hclosed]
        exact Eval.reaches_pure (brings_ofOption hgiven)
      · simp only [if_neg hclosed]
        apply (supervise_reaches ihExtension).bind
        intro added hadded
        exact Eval.reaches_pure (brings_ofOption (combine_brings hmerge hgiven hadded))
  | leaf hguard hvalue => exact gated_reaches hguard (Eval.reaches_pure (brings_matched hvalue))
  | branch hguard _ ih => exact gated_reaches hguard (evalFirst_reaches ih)

end Evaluation

end Rule

/-! ## Forecasts without unknown roads -/

namespace Forecast

/-- No road is unknown, and every set that is held has property `P`. -/
structure Clear (P : GoalSet → Prop) (f : Forecast) : Prop where
  roads : f.unknown = []
  definite : ∀ set ∈ f.definite, P set
  possible : ∀ set ∈ f.possible, P set

theorem forall_mem_union {P : GoalSet → Prop} {sets more : List GoalSet}
    (hsets : ∀ set ∈ sets, P set) (hmore : ∀ set ∈ more, P set) :
    ∀ set ∈ union sets more, P set := by
  induction more generalizing sets with
  | nil => exact hsets
  | cons next more ih =>
      obtain ⟨hnext, hrest⟩ := List.forall_mem_cons.mp hmore
      have hstep : union sets (next :: more) =
          union (if sets.any (·.isSame next) then sets else sets ++ [next]) more := rfl
      rw [hstep]
      apply ih _ hrest
      by_cases hthere : sets.any (·.isSame next) = true
      · rw [if_pos hthere]
        exact hsets
      · rw [if_neg hthere]
        exact List.forall_mem_append.mpr ⟨hsets, List.forall_mem_singleton.mpr hnext⟩

namespace Clear

variable {P : GoalSet → Prop} {f g : Forecast}

theorem nothing : Forecast.nothing.Clear P :=
  ⟨rfl, List.forall_mem_nil P, List.forall_mem_nil P⟩

theorem certain {set : GoalSet} (hset : P set) : (Forecast.certain set).Clear P :=
  ⟨rfl, List.forall_mem_singleton.mpr hset, List.forall_mem_nil P⟩

theorem demote (hf : f.Clear P) : f.demote.Clear P :=
  ⟨hf.roads, List.forall_mem_nil P, forall_mem_union hf.definite hf.possible⟩

theorem merge (hf : f.Clear P) (hg : g.Clear P) : (f.merge g).Clear P where
  roads := by rw [unknown_merge, hf.roads, hg.roads, List.nil_append]
  definite := forall_mem_union hf.definite hg.definite
  possible := forall_mem_union hf.possible hg.possible

theorem orElse (hf : f.Clear P) (hg : g.Clear P) : (f.orElse g).Clear P := by
  cases hempty : f.isEmpty with
  | true =>
      rw [orElse_of_isEmpty hempty]
      exact hg
  | false =>
      refine ⟨?_, ?_, ?_⟩
      · rw [unknown_orElse hempty, hf.roads, hg.roads, List.nil_append]
      · rw [definite_orElse hempty]
        exact List.forall_mem_nil P
      · have hhead := forall_mem_union (List.forall_mem_nil P) hf.definite
        have hboth := forall_mem_union hhead hf.possible
        have hpossible := forall_mem_union (forall_mem_union hboth hg.definite) hg.possible
        simpa only [Forecast.orElse, hempty, Bool.false_eq_true, if_false] using hpossible

end Clear

/-- The work comes to a clear forecast in any pass. -/
def Clearly (P : GoalSet → Prop) (work : Work Forecast) : Prop :=
  Work.Yields (fun _ => True) work (·.Clear P)

variable {P : GoalSet → Prop}

theorem Clearly.pure {f : Forecast} (hf : f.Clear P) : Clearly P (Pure.pure f) :=
  Work.Yields.pure hf

theorem Clearly.of_answer {step : Eval α} {post : α → Prop}
    {next : Except GoalError α → Work Forecast} (hstep : Eval.Reaches step post)
    (hok : ∀ a, post a → Clearly P (next (.ok a)))
    (herror : ∀ e : GoalError, e.isInsufficientData = true → Clearly P (next (.error e))) :
    Clearly P (step.run >>= next) := by
  have hyields : Work.Yields (fun _ => True) step.run (Reached post) :=
    fun p _ => ⟨hstep p, trivial⟩
  apply hyields.bind
  intro answer hanswer
  cases answer with
  | ok a => exact hok a hanswer
  | error e => exact herror e hanswer

theorem additive_clearly {steps : List (Work Forecast)} (hsteps : ∀ step ∈ steps, Clearly P step)
    {f : Forecast} (hf : f.Clear P) (lockPossible : Bool) :
    Clearly P (additive f lockPossible steps) := by
  induction steps generalizing f lockPossible with
  | nil => exact .pure hf
  | cons step rest ih =>
      obtain ⟨hhead, hrest⟩ := List.forall_mem_cons.mp hsteps
      unfold additive
      apply hhead.bind
      intro given hgiven
      have hnext : (if lockPossible then given.demote else given).Clear P := by
        cases lockPossible with
        | false => exact hgiven
        | true => exact hgiven.demote
      simp only
      generalize (if lockPossible then given.demote else given) = next at hnext ⊢
      by_cases hlocks : next.locks = true
      · simp only [if_pos hlocks]
        exact .pure (hf.merge hnext)
      · simp only [if_neg hlocks]
        exact ih hrest (hf.merge hnext) _

end Forecast

/-! ## Classifying transparent rules -/

namespace Rule

open Forecast (Clear Clearly)

variable {ctx : Context} {P : GoalSet → Prop}

theorem classifyBy_clearly {evaluation : Eval (Outcome GoalSet)}
    {failed : GoalError → Work Forecast} (heval : Eval.Reaches evaluation (Brings P))
    (hfailed : ∀ e : GoalError, e.isInsufficientData = true → Clearly P (failed e)) :
    Clearly P (classifyBy evaluation failed) := by
  apply Clearly.of_answer heval
  · intro outcome houtcome
    cases outcome with
    | matched goals => exact .pure (.certain (houtcome goals rfl))
    | noMatch => exact .pure .nothing
    | halt => exact .pure .nothing
  · exact hfailed

theorem classifyGuard_clearly {guard : Guard} (hguard : guard.Every (NeverBreaks ctx))
    (name : String) {behind : Work Forecast} (hbehind : Clearly P behind) :
    Clearly P (classifyGuard name guard ctx (some behind)) := by
  unfold classifyGuard
  apply Work.Yields.bind (Work.yields_modify fun _ _ => trivial)
  intro _ _
  apply Clearly.of_answer (Guard.passes_reaches hguard)
  · intro passes _
    cases passes with
    | false => exact .pure .nothing
    | true => exact hbehind
  · intro e hdata
    simp only [if_pos hdata]
    apply hbehind.bind
    intro given hgiven
    exact .pure hgiven.demote

theorem classifyBody_of_no_hook (name : String) (ctx : Context) (body : Work Forecast) :
    classifyBody name none ctx body = body := rfl

theorem lookInto_of_data {e : GoalError} (hdata : e.isInsufficientData = true)
    (road work : Work Forecast) : (if !e.isInsufficientData then road else work) = work := by
  rw [hdata]
  rfl

/-- The rule is evaluated to a set with property `P` or lacks data, and then it is
classified without an unknown road. -/
structure SeenThrough (ctx : Context) (P : GoalSet → Prop) (rule : GoalRule) : Prop where
  eval : Eval.Reaches (rule.eval ctx) (Brings P)
  failed : ∀ e : GoalError, e.isInsufficientData = true → Clearly P (classifyFailed ctx e rule)

theorem SeenThrough.classify {rule : GoalRule} (hrule : rule.SeenThrough ctx P) :
    Clearly P (rule.classify ctx) :=
  classifyBy_clearly hrule.eval hrule.failed

theorem SeenThrough.classifyEach {rules : List GoalRule}
    (hrules : ∀ rule ∈ rules, rule.SeenThrough ctx P) :
    ∀ step ∈ classifyEach ctx rules, Clearly P step := by
  rw [classifyEach_eq_map, List.forall_mem_map]
  exact fun rule hrule => (hrules rule hrule).classify

theorem SeenThrough.classifyFirst {rules : List GoalRule}
    (hrules : ∀ rule ∈ rules, rule.SeenThrough ctx P) : Clearly P (classifyFirst ctx rules) := by
  induction rules with
  | nil => exact .pure .nothing
  | cons rule rest ih =>
      obtain ⟨hhead, hrest⟩ := List.forall_mem_cons.mp hrules
      unfold Rule.classifyFirst
      apply Clearly.of_answer hhead.eval
      · intro outcome houtcome
        cases outcome with
        | matched goals => exact .pure (.certain (houtcome goals rfl))
        | noMatch => exact ih hrest
        | halt => exact .pure .nothing
      · intro e hdata
        apply (hhead.failed e hdata).bind
        intro head hhead
        apply (ih hrest).bind
        intro tail htail
        exact .pure (hhead.orElse htail)

/-- Every failure in a transparent rule leads on to parts that can be seen through. -/
theorem Legible.seenThrough (hmerge : KeptByMerge P) {rule : GoalRule}
    (hrule : rule.Legible ctx P) : rule.SeenThrough ctx P := by
  induction hrule with
  | fixed hguard hvalue =>
      refine ⟨eval_reaches hmerge (.fixed hguard hvalue), fun e hdata => ?_⟩
      unfold classifyFailed
      rw [lookInto_of_data hdata]
      exact classifyGuard_clearly hguard _ (.pure (.certain hvalue))
  | firstMatch hrules ih =>
      refine ⟨eval_reaches hmerge (.firstMatch hrules), fun e hdata => ?_⟩
      unfold classifyFailed
      rw [lookInto_of_data hdata]
      exact SeenThrough.classifyFirst ih
  | allMatches hrules ih =>
      refine ⟨eval_reaches hmerge (.allMatches hrules), fun e hdata => ?_⟩
      unfold classifyFailed
      rw [lookInto_of_data hdata]
      exact Forecast.additive_clearly (SeenThrough.classifyEach ih) .nothing false
  | enriched hbase hextension ihBase ihExtension =>
      refine ⟨eval_reaches hmerge (.enriched hbase hextension), fun e hdata => ?_⟩
      unfold classifyFailed
      rw [lookInto_of_data hdata]
      apply Forecast.additive_clearly _ .nothing false
      exact List.forall_mem_cons.mpr
        ⟨ihBase.classify, List.forall_mem_singleton.mpr ihExtension.classify⟩
  | leaf hguard hvalue =>
      refine ⟨eval_reaches hmerge (.leaf hguard hvalue), fun e hdata => ?_⟩
      unfold classifyFailed
      rw [lookInto_of_data hdata]
      exact classifyGuard_clearly hguard _ (.pure (.certain hvalue))
  | branch hguard hrules ih =>
      refine ⟨eval_reaches hmerge (.branch hguard hrules), fun e hdata => ?_⟩
      unfold classifyFailed
      rw [lookInto_of_data hdata, classifyBody_of_no_hook]
      apply classifyGuard_clearly hguard
      apply classifyBy_clearly (evalFirst_reaches fun rule hrule => (ih rule hrule).eval)
      intro inner hinner
      rw [lookInto_of_data hinner]
      exact SeenThrough.classifyFirst ih

end Rule

/-- The goals of a merge are goals of its contributions. -/
theorem GoalSet.keptByMerge (Q : Goal → Prop) :
    Rule.KeptByMerge fun set : GoalSet => ∀ goal ∈ set.goals, Q goal := by
  intro sets hsets merged hmerged goal hgoal
  rw [goals_of_merge hmerged] at hgoal
  have hkept := (Goal.dedupeFrom_sublist [] _).subset hgoal
  obtain ⟨set, hset, hmem⟩ := List.mem_flatMap.mp hkept
  rw [untilLocked_eq_take] at hset
  exact hsets set (List.mem_of_mem_take hset) goal hmem

/-- The prediction of transparent chains has no unknown roads, and its goals are
written in them. -/
theorem transparent_chains_have_no_unknown_roads {chains : List GoalRule} {ctx : Context}
    (htransparent : ∀ rule ∈ chains, rule.Transparent)
    (hguards : ∀ rule ∈ chains, rule.Every (NeverBreaks ctx)) (engine : Engine) :
    ((Prediction.ofChains chains ctx).run engine).1.unknownRoads = [] ∧
      ∀ goal ∈ ((Prediction.ofChains chains ctx).run engine).1.definiteGoals ++
          ((Prediction.ofChains chains ctx).run engine).1.possibleGoals,
        ∃ rule ∈ chains, ∃ set ∈ rule.written, goal ∈ set.goals := by
  let P : GoalSet → Prop := fun set =>
    ∀ goal ∈ set.goals, ∃ rule ∈ chains, ∃ written ∈ rule.written, goal ∈ written.goals
  have hchain : ∀ rule ∈ chains, rule.SeenThrough ctx P := by
    intro rule hrule
    have hwritten : ∀ set ∈ rule.written, P set :=
      fun set hset goal hgoal => ⟨rule, hrule, set, hset, hgoal⟩
    have hlegible : rule.Legible ctx P :=
      Rule.legible_of_transparent (htransparent rule hrule) (hguards rule hrule) hwritten
    exact hlegible.seenThrough (GoalSet.keptByMerge _)
  have hclear := (Forecast.additive_clearly (Rule.SeenThrough.classifyEach hchain) .nothing false
    ⟨engine, {}⟩ trivial).1
  generalize hforecast : ((Forecast.additive .nothing false
    (Rule.classifyEach ctx chains)).run ⟨engine, {}⟩).1 = f at hclear
  have hpredict : ((Prediction.ofChains chains ctx).run engine).1 = f.flatten :=
    congrArg Forecast.flatten hforecast
  rw [hpredict]
  refine ⟨hclear.roads, List.forall_mem_append.mpr ⟨?definite, ?possible⟩⟩
  case definite =>
    intro goal hgoal
    have hkept := (Goal.dedupeFrom_sublist [] _).subset hgoal
    obtain ⟨set, hset, hmem⟩ := List.mem_flatMap.mp hkept
    exact hclear.definite set hset goal hmem
  case possible =>
    intro goal hgoal
    have hkept := (Goal.dedupeFrom_sublist [] _).subset (List.mem_of_mem_filter hgoal)
    obtain ⟨set, hset, hmem⟩ := List.mem_flatMap.mp hkept
    exact hclear.possible set hset goal hmem

/-- A static rule, and rules put together in every way that can be seen through, on tests
that read the branch and the repository. -/
def deliveryChains : List GoalRule :=
  let build : GoalSet := ⟨"build", [.ofName "build", .ofName "lint"], false⟩
  let deploy : GoalSet := ⟨"deploy", [.ofName "build", .ofName "deploy"], true⟩
  let docs : GoalSet := ⟨"docs", [.ofName "docs"], false⟩
  let announce : GoalSet := ⟨"announce", [.ofName "announce"], false⟩
  [.fixed (.test .onAnyPush) none build,
    .firstMatch "delivery"
      [.branch "service" (.test (.isRepo "acme" "site")) none
        [.leaf "release" (.test (.toBranch "main")) none deploy,
          .enriched "docs, announce" (.fixed (.test .onAnyPush) none docs)
            (.fixed (.negation (.test (.toBranch "wip"))) none announce)]],
    .allMatches "notes"
      [.leaf "docs" (.test (.toBranch "docs")) none docs,
        .fixed (.test (.isRepo "acme" "site")) none announce]]

/-- On the main branch of some repository it is open whether anything is deployed or
announced; nothing else may be set, and no road is unknown. -/
theorem delivery_is_seen_through :
    (∀ rule ∈ deliveryChains, rule.Transparent) ∧
      (∀ rule ∈ deliveryChains,
        rule.Every (NeverBreaks (.ofPartial { branch := some "main" }))) ∧
      ((Prediction.ofChains deliveryChains (.ofPartial { branch := some "main" })).run
        {}).1.unknownRoads = [] ∧
      ((Prediction.ofChains deliveryChains (.ofPartial { branch := some "main" })).run
        {}).1.definiteNames = ["build", "lint"] ∧
      ((Prediction.ofChains deliveryChains (.ofPartial { branch := some "main" })).run
        {}).1.possibleNames = ["deploy", "announce"] := by
  have htransparent : ∀ rule ∈ deliveryChains, rule.Transparent := by
    simp [deliveryChains, Rule.Transparent]
  have hany (ctx : Context) : NeverBreaks ctx PushTest.onAnyPush.run :=
    PushTest.onAnyPush_failsForData.neverBreaks PushTest.onAnyPush_lasting.scopeFree ctx
  have hbranch (branch : String) (ctx : Context) :
      NeverBreaks ctx (PushTest.toBranch branch).run :=
    (PushTest.toBranch_failsForData branch).neverBreaks
      (PushTest.toBranch_lasting branch).scopeFree ctx
  have hrepo (owner name : String) (ctx : Context) :
      NeverBreaks ctx (PushTest.isRepo owner name).run :=
    (PushTest.isRepo_failsForData owner name).neverBreaks
      (PushTest.isRepo_lasting owner name).scopeFree ctx
  have hguards : ∀ rule ∈ deliveryChains,
      rule.Every (NeverBreaks (.ofPartial { branch := some "main" })) := by
    simp [deliveryChains, Rule.Every, Guard.Every, hany, hbranch, hrepo]
  refine ⟨htransparent, hguards,
    (transparent_chains_have_no_unknown_roads htransparent hguards {}).1, ?_⟩
  decide +kernel

end PushGoals
