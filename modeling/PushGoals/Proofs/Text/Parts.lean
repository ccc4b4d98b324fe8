import Mathlib.Data.List.Basic

/-!
# Parts of a text

What stands between the separators of a text: the names of a path, the lines of a report.
A text with no separator is one part, joining is undone by taking apart, and what is joined
has the parts of all its pieces.
-/

namespace PushGoals.Text

/-- The parts of a text in order, empty ones included. -/
def parts (separator : Char) (text : String) : List String :=
  (text.toList.splitOn separator).map String.ofList

variable {separator : Char}

theorem parts_eq_singleton {text : String} (hfree : separator ∉ text.toList) :
    parts separator text = [text] := by
  have hother : ∀ c ∈ text.toList, (c == separator) = false := by
    intro c hc
    exact beq_eq_false_iff_ne.mpr fun heq => hfree (heq ▸ hc)
  rw [parts, List.splitOn_eq_splitOnP, List.splitOnP_eq_singleton hother]
  simp

theorem parts_append_cons (first second : String) :
    parts separator (first ++ String.singleton separator ++ second) =
      parts separator first ++ parts separator second := by
  have hchars : (first ++ String.singleton separator ++ second).toList =
      first.toList ++ separator :: second.toList := by
    simp
  have hsplit : (first.toList ++ separator :: second.toList).splitOnP (· == separator) =
      first.toList.splitOnP (· == separator) ++ second.toList.splitOnP (· == separator) :=
    List.splitOnP_append_cons _ _ (beq_self_eq_true separator)
  simp only [parts, hchars, List.splitOn_eq_splitOnP, hsplit, List.map_append]

theorem parts_ne_nil (separator : Char) (text : String) : parts separator text ≠ [] := by
  rw [parts, List.splitOn_eq_splitOnP]
  exact mt List.map_eq_nil_iff.mp (List.splitOnP_ne_nil _ _)

/-- Joined pieces are taken apart into the parts of all of them. -/
theorem parts_intercalate {pieces : List String} (hne : pieces ≠ []) :
    parts separator ((String.singleton separator).intercalate pieces) =
      pieces.flatMap (parts separator) := by
  induction pieces with
  | nil => exact absurd rfl hne
  | cons piece rest ih =>
      cases rest with
      | nil => simp
      | cons next others =>
          rw [String.intercalate_cons_cons, parts_append_cons, ih (List.cons_ne_nil _ _),
            ← List.flatMap_cons]

/-- Pieces without a separator are found again. -/
theorem parts_intercalate_of_free {pieces : List String} (hne : pieces ≠ [])
    (hfree : ∀ piece ∈ pieces, separator ∉ piece.toList) :
    parts separator ((String.singleton separator).intercalate pieces) = pieces := by
  rw [parts_intercalate hne, List.flatMap_congr fun piece hpiece =>
    parts_eq_singleton (hfree piece hpiece), List.flatMap_singleton']

end PushGoals.Text
