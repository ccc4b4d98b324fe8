import PushGoals.Proofs.Ahead

/-!
# First-match sequences

A sequence meets its rules one after another, each as a member of a set.  The first
rule that does not count as not matching decides: its value or its error is what the
sequence gives, and a halt ends the sequence without a match.  What the sequence has
done by then is what evaluating the rules up to that one does; the rules behind it
play no part.
-/

namespace PushGoals.Rule

variable {V : Type}

variable [Contribution V] {ctx : Context}

/-- The pass to which `rules` lead from `p` when they are evaluated one after another,
each as a member of a set. -/
def passAfter (ctx : Context) (rules : List (Rule V)) (p : Pass) : Pass :=
  ((Eval.settle (superviseEach ctx rules)).run p).2

/-- What a rule counts as in a sequence that meets it in the pass `p`: if failures are
isolated, one that fails counts as not matching. -/
def verdict (ctx : Context) (rule : Rule V) (p : Pass) : Except GoalError (Outcome V) :=
  p.scope.policy.supervised ((rule.eval ctx).run.run p).1

/-- Each of the rules counts as not matching in the pass that those before it lead to. -/
def PassedOver (ctx : Context) : List (Rule V) → Pass → Prop
  | [], _ => True
  | rule :: rest, p =>
      verdict ctx rule p = .ok .noMatch ∧ PassedOver ctx rest (passAfter ctx [rule] p)

/-- How a sequence ends at the rule that decides it, in the pass which the evaluation of
that rule has led to: a halt is no match, and it is noted in the log. -/
def conclude (rule : Rule V) (p : Pass) :
    Except GoalError (Outcome V) → Except GoalError (Outcome V) × Pass
  | .ok .halt => (.ok .noMatch, p.emit (.ruleHalted (rule.name p.engine.learned)))
  | answer => (answer, p)

omit [Contribution V] in
theorem conclude_ne_halt (rule : Rule V) (p : Pass) (answer : Except GoalError (Outcome V)) :
    (conclude rule p answer).1 ≠ .ok .halt := by
  cases answer with
  | error e => exact fun hhalt => nomatch hhalt
  | ok outcome => cases outcome <;> exact fun hhalt => nomatch hhalt

theorem supervise_run (ctx : Context) (rule : Rule V) (p : Pass) :
    (supervise rule (eval ctx rule)).run.run p =
      (verdict ctx rule p, passAfter ctx [rule] p) := by
  refine Prod.ext ?_ rfl
  unfold supervise verdict
  rw [Eval.supervised_fst, rule.eval_policy]

/-! ## One rule -/

theorem evalFirst_of_passed {rule : Rule V} {p : Pass}
    (hpassed : verdict ctx rule p = .ok .noMatch) (rest : List (Rule V)) :
    (evalFirst ctx (rule :: rest)).run.run p =
      (evalFirst ctx rest).run.run (passAfter ctx [rule] p) := by
  rw [evalFirst, Eval.run_bind, supervise_run, hpassed]

/-- At the rule that decides, a sequence ends. -/
theorem evalFirst_of_decides {rule : Rule V} {p : Pass}
    (hdecides : verdict ctx rule p ≠ .ok .noMatch) (rest : List (Rule V)) :
    (evalFirst ctx (rule :: rest)).run.run p =
      conclude rule (passAfter ctx [rule] p) (verdict ctx rule p) := by
  rw [evalFirst, Eval.run_bind, supervise_run]
  cases hverdict : verdict ctx rule p with
  | error e => rfl
  | ok outcome =>
      cases outcome with
      | matched value => rfl
      | noMatch => exact absurd hverdict hdecides
      | halt => rfl

/-! ## A run of rules -/

theorem passAfter_cons (rule : Rule V) (rest : List (Rule V)) (p : Pass) :
    passAfter ctx (rule :: rest) p = passAfter ctx rest (passAfter ctx [rule] p) := rfl

theorem passAfter_concat (before : List (Rule V)) (rule : Rule V) (p : Pass) :
    passAfter ctx (before ++ [rule]) p = passAfter ctx [rule] (passAfter ctx before p) := by
  induction before generalizing p with
  | nil => rfl
  | cons first before ih => exact ih (passAfter ctx [first] p)

theorem evalFirst_append {before : List (Rule V)} {p : Pass} (hpassed : PassedOver ctx before p)
    (rest : List (Rule V)) :
    (evalFirst ctx (before ++ rest)).run.run p =
      (evalFirst ctx rest).run.run (passAfter ctx before p) := by
  induction before generalizing p with
  | nil => rfl
  | cons rule before ih =>
      rw [List.cons_append, evalFirst_of_passed hpassed.1, ih hpassed.2, ← passAfter_cons]

/-- A sequence none of whose rules decides gives no match. -/
theorem evalFirst_of_passedOver {rules : List (Rule V)} {p : Pass}
    (hpassed : PassedOver ctx rules p) :
    (evalFirst ctx rules).run.run p = (.ok .noMatch, passAfter ctx rules p) := by
  have hend := evalFirst_append hpassed []
  rwa [List.append_nil] at hend

/-- A sequence ends at the first rule that decides, whatever stands behind it. -/
theorem evalFirst_of_decided {before : List (Rule V)} {rule : Rule V} {p : Pass}
    (hpassed : PassedOver ctx before p)
    (hdecides : verdict ctx rule (passAfter ctx before p) ≠ .ok .noMatch)
    (others : List (Rule V)) :
    (evalFirst ctx (before ++ rule :: others)).run.run p =
      conclude rule (passAfter ctx (before ++ [rule]) p)
        (verdict ctx rule (passAfter ctx before p)) := by
  rw [evalFirst_append hpassed, evalFirst_of_decides hdecides, passAfter_concat]

theorem passedOver_or_decided (ctx : Context) (rules : List (Rule V)) (p : Pass) :
    PassedOver ctx rules p ∨
      ∃ before rule later, rules = before ++ rule :: later ∧ PassedOver ctx before p ∧
        verdict ctx rule (passAfter ctx before p) ≠ .ok .noMatch := by
  induction rules generalizing p with
  | nil => exact .inl trivial
  | cons rule rest ih =>
      by_cases hpassed : verdict ctx rule p = .ok .noMatch
      · rcases ih (passAfter ctx [rule] p) with hrest | ⟨before, decisive, later, rfl, hbefore, h⟩
        · exact .inl ⟨hpassed, hrest⟩
        · exact .inr ⟨rule :: before, decisive, later, rfl, ⟨hpassed, hbefore⟩, h⟩
      · exact .inr ⟨[], rule, rest, rfl, trivial, hpassed⟩

theorem evalFirst_run_ne_halt (rules : List (Rule V)) (p : Pass) :
    ((evalFirst ctx rules).run.run p).1 ≠ .ok .halt := by
  rcases passedOver_or_decided ctx rules p with
    hpassed | ⟨before, rule, later, rfl, hpassed, hdecides⟩
  · rw [evalFirst_of_passedOver hpassed]
    exact fun hhalt => nomatch hhalt
  · rw [evalFirst_of_decided hpassed hdecides]
    exact conclude_ne_halt rule _ _

/-- A sequence gives what the first rule that decides leads to, it does what the rules up
to that one do, and whichever rules stand behind it change nothing. -/
theorem first_match_is_exact_and_lazy (ctx : Context) (rules : List (Rule V)) (p : Pass) :
    ((PassedOver ctx rules p ∧
        (evalFirst ctx rules).run.run p = (.ok .noMatch, passAfter ctx rules p)) ∨
      ∃ before rule later, rules = before ++ rule :: later ∧ PassedOver ctx before p ∧
        verdict ctx rule (passAfter ctx before p) ≠ .ok .noMatch ∧
        ∀ others, (evalFirst ctx (before ++ rule :: others)).run.run p =
          conclude rule (passAfter ctx (before ++ [rule]) p)
            (verdict ctx rule (passAfter ctx before p))) ∧
      ((evalFirst ctx rules).run.run p).1 ≠ .ok .halt := by
  refine ⟨?_, evalFirst_run_ne_halt rules p⟩
  rcases passedOver_or_decided ctx rules p with
    hpassed | ⟨before, rule, later, hsplit, hpassed, hdecides⟩
  · exact .inl ⟨hpassed, evalFirst_of_passedOver hpassed⟩
  · exact .inr ⟨before, rule, later, hsplit, hpassed, hdecides,
      evalFirst_of_decided hpassed hdecides⟩

end PushGoals.Rule
