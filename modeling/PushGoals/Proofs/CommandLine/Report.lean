import PushGoals.CommandLine.Execution
import PushGoals.Proofs.Counters
import PushGoals.Proofs.Text.Parts
import Mathlib.Data.List.Forall2

/-!
# What the report of a decision shows

A report is complete when it names the goal set and its lock, lists each goal with all that
is said of it, and lists each failure with its rule and its reason, everything in its order
and on lines of its own.  The report of a decision that set goals is complete, and so is one
without goals and without failures.  Where no goals were set nothing is said of the failures,
though each that a rule set recorded is an event in the log.
-/

namespace PushGoals.CommandLine

/-! ## Complete reports -/

def lines (text : String) : List String := Text.parts '\n' text

/-- The head of a report: the name of the goal set and its lock. -/
inductive Heading (set : GoalSet) : String → Prop
  | unlocked (hlocked : set.locked = false) : Heading set ("Goals: " ++ set.name)
  | locked (hlocked : set.locked = true) : Heading set ("Goals: " ++ set.name ++ " (locked)")

inductive ApprovalMark (goal : Goal) : String → Prop
  | required (happroval : goal.approvalRequired = true) : ApprovalMark goal " approval required"
  | free (happroval : goal.approvalRequired = false) : ApprovalMark goal ""

/-- What a goal waits for. -/
inductive Waiting (goal : Goal) : String → Prop
  | after (hdependsOn : goal.dependsOn ≠ []) :
      Waiting goal (" after " ++ ", ".intercalate (goal.dependsOn.map (·.uniqueName)))
  | nothing (hdependsOn : goal.dependsOn = []) : Waiting goal ""

/-- The entry of a goal: its description, its environment, its approval mark and its
preconditions. -/
inductive GoalEntry (goal : Goal) : String → Prop
  | intro {mark waiting : String} (hmark : ApprovalMark goal mark) (hwaiting : Waiting goal waiting) :
      GoalEntry goal ("  " ++ goal.describe .working ++ " [" ++ goal.environment ++ "]" ++ mark ++
        waiting)

inductive FailureEntry (failure : RuleFailure) : String → Prop
  | intro : FailureEntry failure ("  ! rule '" ++ failure.rule ++ "' failed: " ++ failure.reason)

/-- The goals that a decision set, in order. -/
def goalsOf (decision : Decision) : List Goal := (decision.goals.map (·.goals)).getD []

/-- The text shows all that was set and all that failed.  An entry has one line for itself, or
more of them when what it shows has line ends of its own. -/
def Complete (decision : Decision) (text : String) : Prop :=
  ∃ heading entries failures,
    lines text = (heading :: (entries ++ failures)).flatMap lines ∧
      (∀ set, decision.goals = some set → Heading set heading) ∧
      List.Forall₂ GoalEntry (goalsOf decision) entries ∧
      List.Forall₂ FailureEntry decision.failures failures

/-! ## Entries -/

/-- The first line of the report of a goal set. -/
def headingLine (set : GoalSet) : String :=
  "Goals: " ++ set.name ++ (if set.locked then " (locked)" else "")

theorem heading_headingLine (set : GoalSet) : Heading set (headingLine set) := by
  rw [headingLine]
  cases hlocked : set.locked with
  | false => simpa using Heading.unlocked hlocked
  | true => exact .locked hlocked

theorem goalEntry_goalLine (goal : Goal) : GoalEntry goal (goalLine goal) := by
  have hmark : ApprovalMark goal (if goal.approvalRequired then " approval required" else "") := by
    cases happroval : goal.approvalRequired with
    | false => exact .free happroval
    | true => exact .required happroval
  have hwaiting : Waiting goal (if goal.hasPreconditions then
      " after " ++ ", ".intercalate (goal.dependsOn.map (·.uniqueName)) else "") := by
    cases hdependsOn : goal.dependsOn with
    | nil =>
        have hnone : goal.hasPreconditions = false := by simp [Goal.hasPreconditions, hdependsOn]
        simpa [hnone] using Waiting.nothing hdependsOn
    | cons first rest =>
        have hsome : goal.hasPreconditions = true := by simp [Goal.hasPreconditions, hdependsOn]
        have hafter := Waiting.after (ne_of_eq_of_ne hdependsOn (List.cons_ne_nil first rest))
        rwa [hsome, if_pos rfl, ← hdependsOn]
  exact .intro hmark hwaiting

theorem failureEntry_failureLine (failure : RuleFailure) :
    FailureEntry failure (failureLine failure) := .intro

theorem forall₂_map {α : Type} {R : α → String → Prop} {line : α → String}
    (hline : ∀ a, R a (line a)) (items : List α) : List.Forall₂ R items (items.map line) :=
  List.forall₂_map_right_iff.mpr (List.forall₂_same.mpr fun a _ => hline a)

/-! ## Which reports are complete -/

theorem lines_intercalate {entries : List String} (hne : entries ≠ []) :
    lines ("\n".intercalate entries) = entries.flatMap lines := Text.parts_intercalate hne

/-- Entries never share a line. -/
theorem length_le_length_flatMap_lines (entries : List String) :
    entries.length ≤ (entries.flatMap lines).length := by
  induction entries with
  | nil => exact Nat.le_refl 0
  | cons entry rest ih =>
      have hentry : 0 < (lines entry).length := List.length_pos_iff.mpr (Text.parts_ne_nil _ _)
      rw [List.flatMap_cons, List.length_append, List.length_cons]
      omega

theorem decisionText_of_goals {decision : Decision} {set : GoalSet}
    (hgoals : decision.goals = some set) :
    decisionText decision = "\n".intercalate
      (headingLine set :: (set.goals.map goalLine ++ decision.failures.map failureLine)) := by
  rw [decisionText, hgoals]
  rfl

theorem complete_of_goals {decision : Decision} {set : GoalSet}
    (hgoals : decision.goals = some set) : Complete decision (decisionText decision) := by
  refine ⟨headingLine set, set.goals.map goalLine, decision.failures.map failureLine,
    ?_, ?_, ?_, ?_⟩
  · rw [decisionText_of_goals hgoals, lines_intercalate (List.cons_ne_nil _ _)]
  · intro other hother
    obtain rfl := Option.some.inj (hgoals.symm.trans hother)
    exact heading_headingLine set
  · rw [goalsOf, hgoals]
    exact forall₂_map goalEntry_goalLine set.goals
  · exact forall₂_map failureEntry_failureLine decision.failures

/-- One line shows no failure beside its heading. -/
theorem failures_eq_nil_of_complete {decision : Decision} {text : String}
    (hcomplete : Complete decision text) (hline : (lines text).length = 1) :
    decision.failures = [] := by
  obtain ⟨heading, entries, failures, hshown, -, -, hfailures⟩ := hcomplete
  have hcount := length_le_length_flatMap_lines (heading :: (entries ++ failures))
  rw [← hshown, hline, List.length_cons, List.length_append] at hcount
  apply List.length_eq_zero_iff.mp
  rw [hfailures.length_eq]
  omega

/-- A report is complete, unless no goals were set and rules have failed. -/
theorem complete_decisionText_iff (decision : Decision) :
    Complete decision (decisionText decision) ↔
      decision.goals.isSome ∨ decision.failures = [] := by
  cases hgoals : decision.goals with
  | some set => simp [complete_of_goals hgoals]
  | none =>
      have htext : decisionText decision = "No goals" := by rw [decisionText, hgoals]
      have hlines : lines "No goals" = ["No goals"] := Text.parts_eq_singleton (by decide)
      rw [htext]
      constructor
      · intro hcomplete
        exact .inr (failures_eq_nil_of_complete hcomplete (by rw [hlines]; rfl))
      · intro hneither
        have hfailures := hneither.resolve_left (fun hsome => nomatch hsome)
        refine ⟨"No goals", [], [], by simp, ?_, ?_, ?_⟩
        · intro set hset
          cases hgoals.symm.trans hset
        · rw [goalsOf, hgoals]
          exact .nil
        · rw [hfailures]
          exact .nil

/-! ## Reports of decisions -/

theorem execute_goals (files : Files) (settings : Settings) {invocation : Invocation}
    (hcommand : invocation.command = .goals) :
    execute files settings invocation = (decide files settings invocation).map decisionText := by
  rw [execute, hcommand]
  cases decide files settings invocation <;> rfl

/-- What the command for goals prints is complete exactly when goals were set or nothing
failed, and the failures that belong into it are those that the log of the decision tells,
besides those that tests, hooks or computations recorded themselves. -/
theorem report_shows_what_was_set_and_what_failed {decider : Decider} {ctx : Context}
    {engine : Engine} {decision : Decision}
    (hdecide : ((decider.decide ctx).run engine).1 = .ok decision) :
    (Complete decision (decisionText decision) ↔
        decision.goals.isSome ∨ decision.failures = []) ∧
      (decision.goals = none → decisionText decision = "No goals") ∧
      (∃ emitted, (reported emitted).Sublist decision.failures ∧
        (decider.Plain → decision.failures = reported emitted) ∧
        (decider.after engine (.decide ctx)).events =
          engine.events ++
            .decisionStarted (Decider.pushLabel ctx) decider.chains.length :: emitted ++
            Decider.finished ctx (.ok decision)) ∧
      ∀ (files : Files) (settings : Settings) (invocation : Invocation),
        invocation.command = .goals →
          execute files settings invocation =
            (decide files settings invocation).map decisionText := by
  refine ⟨complete_decisionText_iff decision, fun hnone => ?_, ?_,
    fun files settings _ => execute_goals files settings⟩
  · rw [decisionText, hnone]
  · obtain ⟨emitted, -, -, hevents, hbooked⟩ := decider.events_of_decide ctx engine
    obtain ⟨hsublist, hplain⟩ := Decider.reported_sublist_returned hbooked
    rw [Decider.returned, hdecide] at hsublist hplain
    rw [hdecide] at hevents
    exact ⟨emitted, hsublist, fun h => (hplain h).symm, hevents⟩

/-- A release that hangs on the branch, and a locked delivery that hangs on nothing. -/
def cautious : Decider where
  chains :=
    [.fixed (.test .toDefaultBranch) (some "release") ⟨"release", [.ofName "release"], false⟩,
     .fixed (.test .onAnyPush) none
      ⟨"delivery",
        [.ofName "build",
         { Goal.ofName "deploy" with approvalRequired := true, dependsOn := [.ofName "build"] }],
        true⟩]
  settings := { failurePolicy := .isolateAndReport }

def delivered : Decision where
  push := none
  goals := some
    ⟨"delivery",
      [.ofName "build",
       { Goal.ofName "deploy" with approvalRequired := true, dependsOn := [.ofName "build"] }],
      true⟩
  failures := [⟨"release", "insufficient data: branch is not available"⟩]

/-- The goals are shown with their lock, and the release that failed beside them. -/
theorem delivered_is_shown :
    ((cautious.decide .empty).run {}).1 = .ok delivered ∧
      Complete delivered (decisionText delivered) ∧
      lines (decisionText delivered) =
        ["Goals: delivery (locked)", "  Working: build [0-code]",
         "  Working: deploy [0-code] approval required after build",
         "  ! rule 'release' failed: insufficient data: branch is not available"] := by
  have hdecide : ((cautious.decide .empty).run {}).1 = .ok delivered := rfl
  have hcomplete := (report_shows_what_was_set_and_what_failed hdecide).1.mpr (.inl rfl)
  refine ⟨hdecide, hcomplete, ?_⟩
  rw [decisionText_of_goals rfl]
  exact Text.parts_intercalate_of_free (List.cons_ne_nil _ _) (by decide +kernel)

/-- The release alone. -/
def stranded : Decider where
  chains := cautious.chains.take 1
  settings := { failurePolicy := .isolateAndReport }

/-- The failure is the reason why no goals were set, and the report does not show it. -/
theorem isolated_failure_is_left_out :
    ∃ decision, ((stranded.decide .empty).run {}).1 = .ok decision ∧
      decision.failures = [⟨"release", "insufficient data: branch is not available"⟩] ∧
      decisionText decision = "No goals" ∧ ¬ Complete decision (decisionText decision) := by
  refine ⟨⟨none, none, [⟨"release", "insufficient data: branch is not available"⟩]⟩, rfl, rfl, rfl,
    fun hcomplete => ?_⟩
  have hshown := (complete_decisionText_iff _).mp hcomplete
  exact hshown.elim (fun hsome => nomatch hsome) (fun hnone => nomatch hnone)

end PushGoals.CommandLine
