import PushGoals.Guard.Standard
import PushGoals.Proofs.Knowledge

/-!
# Standard tests last

The standard push tests do not hang on the scratch, and what they answer is kept
when more of the push becomes known: a project is known whole or not at all, so
that even a failed look-up in it lasts.  Those that read single fields of the
push fail for want of data only.
-/

namespace PushGoals
namespace PushTest

theorem onAnyPush_lasting : Lasting onAnyPush.run :=
  .const fun _ => rfl

theorem toDefaultBranch_lasting : Lasting toDefaultBranch.run := by
  apply Lasting.ofExcept
  intro ctx more hmore
  apply (Context.available_kept hmore.branch "branch").bind
  intro branch _
  exact (Context.available_kept hmore.repo "repo").bind fun _ _ => AnswerKept.rfl

/-- A test that asks for one field and looks at nothing else. -/
theorem fieldTest_lasting {α : Type} (field : String) {known : Context → Option α}
    (hkept : ∀ ctx more, ctx.ExtendedBy more → Kept (known ctx) (known more))
    (passes : α → Bool) :
    Lasting fun ctx => do
      let a ← Probe.ofExcept (Context.available field (known ctx))
      return passes a := by
  apply Lasting.bind
  · exact .ofExcept fun ctx more hmore => Context.available_kept (hkept ctx more hmore) field
  · exact fun _ => .const fun _ => rfl

theorem toBranch_lasting (branch : String) : Lasting (toBranch branch).run :=
  fieldTest_lasting "branch" (fun _ _ hmore => hmore.branch) (· == branch)

theorem toBranchMatching_lasting (pattern : Regex) : Lasting (toBranchMatching pattern).run :=
  fieldTest_lasting "branch" (fun _ _ hmore => hmore.branch) pattern.matchesIn

theorem isRepo_lasting (owner name : String) : Lasting (isRepo owner name).run :=
  fieldTest_lasting "repo" (fun _ _ hmore => hmore.repo)
    fun repo => repo.owner == owner && repo.name == name

theorem hasCommitMessageMatching_lasting (pattern : Regex) :
    Lasting (hasCommitMessageMatching pattern).run :=
  fieldTest_lasting "commits" (fun _ _ hmore => hmore.commits)
    fun commits => commits.any fun c => pattern.matchesIn c.message

theorem ofProject_lasting (name : String) (cost : Cost) {run : Project → Probe Bool}
    (hfree : ∀ project scratch, ((run project).run scratch).1 = (run project).answer) :
    Lasting (ofProject name cost run).run := by
  apply Lasting.bind
  · exact .ofExcept fun _ _ hmore => Context.available_kept hmore.project "project"
  · exact fun project => .const (hfree project)

theorem hasFile_lasting (path : String) : Lasting (hasFile path).run :=
  ofProject_lasting _ _ fun _ _ => rfl

theorem hasFileContaining_lasting (path : String) (pattern : Regex) :
    Lasting (hasFileContaining path pattern).run := by
  apply ofProject_lasting
  intro project scratch
  have hopen (scratch : Scratch) :
      ((project.open? path).run scratch).1 = project.readFile path := rfl
  rw [Probe.run_bind_fst fun _ _ => rfl, hopen, Probe.answer, Probe.run_bind_fst fun _ _ => rfl,
    hopen]

theorem isMaterialChange_lasting (extensions : List String) :
    Lasting (isMaterialChange extensions).run := by
  apply Lasting.bind
  · exact .ofExcept fun _ _ hmore => Context.available_kept hmore.push "push"
  · intro push
    cases push.beforeSha with
    | none => exact .const fun _ => rfl
    | some sha =>
        apply Lasting.bind
        · exact .ofExcept fun _ _ hmore => Context.available_kept hmore.project "project"
        · intro project
          apply Lasting.bind
          · exact .const fun _ => rfl
          · exact fun _ => .const fun _ => rfl

/-! ## Tests of single fields -/

theorem onAnyPush_failsForData : FailsForData onAnyPush.run := .pure true

theorem fieldTest_failsForData {α : Type} (field : String) (known : Context → Option α)
    (passes : α → Bool) :
    FailsForData fun ctx => do
      let a ← Probe.ofExcept (Context.available field (known ctx))
      return passes a := by
  apply FailsForData.bind
  · exact .ofExcept fun ctx => Context.available_lacksDataOnly field (known ctx)
  · exact fun _ _ _ => rfl
  · exact fun a => .pure (passes a)

theorem toBranch_failsForData (branch : String) : FailsForData (toBranch branch).run :=
  fieldTest_failsForData "branch" (·.fields.branch) (· == branch)

theorem isRepo_failsForData (owner name : String) : FailsForData (isRepo owner name).run :=
  fieldTest_failsForData "repo" (·.fields.repo)
    fun repo => repo.owner == owner && repo.name == name

end PushTest
end PushGoals
