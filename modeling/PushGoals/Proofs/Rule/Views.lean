import PushGoals.Guard.Standard
import PushGoals.Proofs.Rule.Answer

/-!
# The views of a rule tell how it is evaluated

Two views of a rule are given out: the parts that it is put together from, and the guard
that it stands behind with what comes after.  To go by them is to put the parts together
by the rule of their style, and to run what comes after a guard once it has passed.

Evaluation goes by the views, whatever the pass it is run in: the answers are the same,
the failures, and all that is done besides.  And nothing else goes by them, so that
whoever has only the views of a rule and of the rules inside it knows how it is evaluated.
-/

namespace PushGoals
namespace Rule

variable {V : Type} {ctx : Context} {ev other : Rule V → Eval (Outcome V)}

/-- The rules one by one, each as a member of a set, up to the first that matches or
halts. -/
def firstOf (ev : Rule V → Eval (Outcome V)) (rules : List (Rule V)) : Eval (Outcome V) :=
  rules.foldr (fun rule rest => do
    match ← rule.supervise (ev rule) with
    | .matched value => return .matched value
    | .noMatch => rest
    | .halt =>
        let name ← rule.currentName
        modify (·.emit (.ruleHalted name))
        return .noMatch) (pure .noMatch)

/-- What stands behind a guard that has passed. -/
def Body.resolve (ev : Rule V → Eval (Outcome V)) : Body V → Eval (Outcome V)
  | .value v => return .matched v
  | .rules rule => ev rule
  | .halt => return .halt

/-- The guard is evaluated; if it passes, the hook runs before what stands behind it. -/
def Guarded.resolve (ctx : Context) (ev : Rule V → Eval (Outcome V)) (view : Guarded V) :
    Eval (Outcome V) := do
  if ← view.guard.passes ctx then
    runHook view.hook ctx
    view.body.resolve ev
  else return .noMatch

theorem firstOf_congr {rules : List (Rule V)} (hsame : ∀ rule ∈ rules, ev rule = other rule) :
    firstOf ev rules = firstOf other rules := by
  induction rules with
  | nil => rfl
  | cons rule rest ih =>
      obtain ⟨hhead, hrest⟩ := List.forall_mem_cons.mp hsame
      unfold firstOf at ih ⊢
      rw [List.foldr_cons, List.foldr_cons, hhead, ih hrest]

variable [Contribution V]

/-- Parts put together by the rule of their style. -/
inductive Joined (ev : Rule V → Eval (Outcome V)) : Parts (Rule V) → Eval (Outcome V) → Prop
  | firstMatch (rules : List (Rule V)) : Joined ev ⟨.firstMatch, rules⟩ (firstOf ev rules)
  | allMatches (rules : List (Rule V)) :
      Joined ev ⟨.allMatches, rules⟩ (do
        let outcomes ← Eval.allSettled (rules.map fun rule => rule.supervise (ev rule))
        return .ofOption (Contribution.merge (outcomes.filterMap Outcome.value?)))
  | enrich (base extension : Rule V) :
      Joined ev ⟨.enrich, [base, extension]⟩ (do
        let given ← base.supervise (ev base)
        if closed given.value? then return .ofOption given.value?
        let added ← extension.supervise (ev extension)
        return .ofOption (combine given.value? added.value?))

namespace Joined

variable {view : Parts (Rule V)} {step again : Eval (Outcome V)}

theorem unique (hstep : Joined ev view step) (hagain : Joined ev view again) : step = again := by
  cases hstep <;> cases hagain <;> rfl

theorem congr (hstep : Joined ev view step)
    (hsame : ∀ rule ∈ view.components, ev rule = other rule) : Joined other view step := by
  cases hstep with
  | firstMatch rules =>
      rw [firstOf_congr hsame]
      exact .firstMatch rules
  | allMatches rules =>
      have heach : rules.map (fun rule => rule.supervise (ev rule)) =
          rules.map fun rule => rule.supervise (other rule) :=
        List.map_congr_left fun rule hrule => congrArg rule.supervise (hsame rule hrule)
      rw [heach]
      exact .allMatches rules
  | enrich base extension =>
      obtain ⟨hbase, hrest⟩ := List.forall_mem_cons.mp hsame
      rw [hbase, List.forall_mem_singleton.mp hrest]
      exact .enrich base extension

end Joined

/-- Rules are evaluated by their views; a rule that has none is run. -/
structure GoesByViews (ctx : Context) (ev : Rule V → Eval (Outcome V)) : Prop where
  parts (rule : Rule V) (view : Parts (Rule V)) :
    rule.parts? = some view → Joined ev view (ev rule)
  guarded (rule : Rule V) (view : Guarded V) :
    rule.guarded? = some view → ev rule = view.resolve ctx ev
  others (rule : Rule V) :
    rule.parts? = none → rule.guarded? = none → ev rule = rule.eval ctx

theorem evalFirst_eq_firstOf (ctx : Context) (rules : List (Rule V)) :
    evalFirst ctx rules = firstOf (eval ctx) rules := by
  induction rules with
  | nil => rfl
  | cons rule rest ih =>
      rw [evalFirst, ih]
      rfl

theorem eval_goesByViews (ctx : Context) : GoesByViews ctx (eval (V := V) ctx) where
  parts rule view hview := by
    cases rule with
    | firstMatch name rules =>
        cases hview
        rw [eval, evalFirst_eq_firstOf]
        exact .firstMatch rules
    | allMatches name contributors =>
        cases hview
        rw [eval, superviseEach_eq_map]
        exact .allMatches contributors
    | enriched name base extension =>
        cases hview
        exact .enrich base extension
    | _ => cases hview
  guarded rule view hview := by
    cases rule with
    | fixed guard reason value =>
        cases hview
        rfl
    | halting guard reason =>
        cases hview
        rfl
    | leaf name guard hook value =>
        cases hview
        rfl
    | branch name guard hook children =>
        cases hview
        rfl
    | _ => cases hview
  others _ _ _ := rfl

theorem GoesByViews.eq_eval (hev : GoesByViews ctx ev) (rule : Rule V) :
    ev rule = rule.eval ctx := by
  have htrue : GoesByViews ctx (eval (V := V) ctx) := eval_goesByViews ctx
  have hjoined {rule : Rule V} {view : Parts (Rule V)} (hview : rule.parts? = some view)
      (ih : ∀ part ∈ view.components, ev part = part.eval ctx) : ev rule = rule.eval ctx :=
    ((hev.parts rule view hview).congr ih).unique (htrue.parts rule view hview)
  have hresolved {rule : Rule V} {view : Guarded V} (hview : rule.guarded? = some view)
      (ih : view.body.resolve ev = view.body.resolve (eval ctx)) : ev rule = rule.eval ctx := by
    rw [hev.guarded rule view hview, htrue.guarded rule view hview, Guarded.resolve,
      Guarded.resolve, ih]
  induction rule using Rule.induct with
  | fixed guard reason value => exact hresolved rfl rfl
  | halting guard reason => exact hresolved rfl rfl
  | computed key guard reason compute => exact hev.others _ rfl rfl
  | firstMatch name rules ih => exact hjoined rfl ih
  | allMatches name contributors ih => exact hjoined rfl ih
  | enriched name base extension ihBase ihExtension =>
      exact hjoined rfl (List.forall_mem_cons.mpr
        ⟨ihBase, List.forall_mem_singleton.mpr ihExtension⟩)
  | leaf name guard hook value => exact hresolved rfl rfl
  | branch name guard hook children ih =>
      -- Behind the guard stands the sequence of the children.
      exact hresolved rfl (hjoined rfl ih)
  | mapped f inner _ => exact hev.others _ rfl rfl
  | custom name cost run => exact hev.others _ rfl rfl

/-- In every pass the evaluation of the rules goes by their views, and it alone does. -/
theorem goesByViews_iff : GoesByViews ctx ev ↔ ∀ rule, ev rule = rule.eval ctx := by
  constructor
  · exact GoesByViews.eq_eval
  · intro hsame
    rw [funext hsame]
    exact eval_goesByViews ctx

/-- Pushes to main are counted before anything is built for them. -/
def countedPushes : GoalRule :=
  .branch "counted" (.test (.toBranch "main"))
    (some fun _ => do let _ ← Probe.increment "pushes")
    [.fixed (.test .onAnyPush) none ⟨"build", [.ofName "build"], false⟩]

/-- Nothing is known of the push but its branch. -/
def mainBranch : Context := .ofPartial { branch := some "main" }

theorem countedPushes_resolve :
    ∃ view, countedPushes.guarded? = some view ∧
      countedPushes.eval mainBranch = view.resolve mainBranch (eval mainBranch) :=
  ⟨_, rfl, (goesByViews_iff.mpr fun _ => rfl).guarded _ _ rfl⟩

end Rule

end PushGoals
