import PushGoals.Files.Checkout

/-!
# Changes in a checkout

The files that changed since a commit are those that git lists, each on a line of its own
and in its order.  That git cannot be run is an error of the disk, and that it fails is one
of the project, which names the commit and says what git said.
-/

namespace PushGoals

namespace Text

/-- A text that stands on one line and is not shortened where the line ends. -/
def IsLine (text : String) : Prop := '\n' ∉ text.toList ∧ text.toList.getLast? ≠ some '\r'

theorem dropReturn_eq {line : List Char} (hline : line.head? ≠ some '\r') :
    dropReturn line = line := by
  cases line with
  | nil => rfl
  | cons c rest =>
      have hc : c ≠ '\r' := fun heq => hline (congrArg some heq)
      simp [dropReturn, hc]

theorem linesFrom_append {line : List Char} (hline : '\n' ∉ line) (current rest : List Char) :
    linesFrom current (line ++ '\n' :: rest) =
      String.ofList (dropReturn (line.reverse ++ current)).reverse :: linesFrom [] rest := by
  induction line generalizing current with
  | nil => simp [linesFrom]
  | cons c line ih =>
      obtain ⟨hc, hline⟩ := not_or.mp (mt List.mem_cons.mpr hline)
      have hother : (c == '\n') = false := beq_eq_false_iff_ne.mpr (Ne.symm hc)
      rw [List.cons_append, linesFrom, hother]
      simp [ih hline]

/-- Texts that are written on lines of their own are read back. -/
theorem lines_join {texts : List String} (htexts : ∀ text ∈ texts, IsLine text) :
    lines (String.join (texts.map (· ++ "\n"))) = texts := by
  induction texts with
  | nil => rfl
  | cons text rest ih =>
      obtain ⟨⟨hfeed, hreturn⟩, hrest⟩ := List.forall_mem_cons.mp htexts
      have hchars : (String.join ((text :: rest).map (· ++ "\n"))).toList =
          text.toList ++ '\n' :: (String.join (rest.map (· ++ "\n"))).toList := by
        simp [String.join_cons]
      rw [← List.head?_reverse] at hreturn
      rw [lines, hchars, linesFrom_append hfeed, List.append_nil, dropReturn_eq hreturn,
        List.reverse_reverse, String.ofList_toList]
      exact congrArg (text :: ·) (ih hrest)

end Text

namespace Files

variable {files : Files} {root sha : String}

/-- What a project in a directory answers to the question what has changed. -/
theorem changes_are_those_listed (files : Files) (root sha : String) :
    (∀ trouble, files.diff root sha = .error trouble →
        (files.project root).changedFilesSince sha = .error (.io trouble.message)) ∧
      (∀ r, files.diff root sha = .ok r → r.status ≠ some 0 →
        (files.project root).changedFilesSince sha =
          .error (.project ("git diff against " ++ sha ++ " failed: " ++ Text.trim r.errors))) ∧
      ∀ paths errors, (∀ path ∈ paths, Text.IsLine path ∧ path ≠ "") →
        files.diff root sha = .ok ⟨some 0, String.join (paths.map (· ++ "\n")), errors⟩ →
          (files.project root).changedFilesSince sha = .ok paths := by
  have hasked : (files.project root).changedFilesSince sha = changes sha (files.diff root sha) :=
    rfl
  rw [hasked]
  refine ⟨fun trouble hdiff => ?_, fun r hdiff hstatus => ?_, fun paths errors hpaths hdiff => ?_⟩
  · rw [hdiff, changes]
  · have hfailed : r.succeeded = false := beq_eq_false_iff_ne.mpr hstatus
    rw [hdiff, changes, hfailed]
    rfl
  · have hlines := Text.lines_join fun path hpath => (hpaths path hpath).1
    have hfull : paths.filter (!·.isEmpty) = paths :=
      List.filter_eq_self.mpr fun path hpath => by simpa using (hpaths path hpath).2
    rw [hdiff, changes, hlines, hfull]
    rfl

end Files

end PushGoals
