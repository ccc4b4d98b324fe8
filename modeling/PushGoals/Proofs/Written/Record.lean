import PushGoals.Push.Codec
import PushGoals.Prediction.Forecast

/-!
# Records read back

What is written of a record is read back as the same record, field by field: a text
that is absent is `null` and read as absent, and a list is read back when each of its
items is.  A push that is read as a partial one is known in all its fields.
-/

namespace PushGoals

namespace Decode

variable {α : Type} {item : Value → Option α} {write : α → Value}

theorem list_map {items : List α} (hitems : ∀ a ∈ items, item (write a) = some a) :
    list item (.array (items.map write)) = some items := by
  change (items.map write).mapM item = some items
  induction items with
  | nil => rfl
  | cons a rest ih =>
      obtain ⟨hhead, hrest⟩ := List.forall_mem_cons.mp hitems
      rw [List.map_cons, List.mapM_cons, hhead, ih hrest]
      rfl

theorem nullable_of_ne_null {v : Value} (hnull : v ≠ .null) :
    nullable item v = (item v).map some := by
  cases v with
  | null => exact absurd rfl hnull
  | _ => rfl

/-- An absent value is written as `null`, which no present one is. -/
theorem nullable_getD (hwrite : ∀ a, write a ≠ .null) {given : Option α}
    (hitem : ∀ a ∈ given, item (write a) = some a) :
    nullable item ((given.map write).getD .null) = some given := by
  cases given with
  | none => rfl
  | some a =>
      rw [Option.map_some, Option.getD_some, nullable_of_ne_null (hwrite a), hitem a rfl]
      rfl

@[simp] theorem nullable_ofText? (given : Option String) :
    nullable text (.ofText? given) = some given := by
  cases given <;> rfl

theorem required_of_found {fields : List (String × Value)} {key : String} {v : Value}
    (hfound : Value.field? key fields = some v) : required fields key item = item v := by
  rw [required, hfound, Option.bind_some]

/-- A field that is left out when its value is absent. -/
theorem optional_of_found {fields : List (String × Value)} {key : String} {given : Option α}
    (hfound : Value.field? key fields = given.map write) (hwrite : ∀ a, write a ≠ .null)
    (hitem : ∀ a ∈ given, item (write a) = some a) :
    optional fields key item = some given := by
  rw [optional, hfound]
  cases given with
  | none => rfl
  | some a => exact nullable_getD hwrite hitem

/-- A field that is left out when it holds its default. -/
theorem fallback_of_found {fields : List (String × Value)} {key : String} {a default : α}
    {v : Value} {written : Prop} [Decidable written]
    (hfound : Value.field? key fields = if written then some v else none)
    (hdefault : ¬ written → a = default) (hitem : item v = some a) :
    fallback fields key default item = some a := by
  rw [fallback, hfound]
  by_cases hwritten : written
  · rw [if_pos hwritten]
    exact hitem
  · rw [if_neg hwritten, hdefault hwritten]

end Decode

theorem RepoRef.ofValue_toValue (repo : RepoRef) : RepoRef.ofValue repo.toValue = some repo := rfl

theorem Commit.ofValue_toValue (commit : Commit) : Commit.ofValue commit.toValue = some commit :=
  rfl

theorem Commit.list_listToValue (commits : List Commit) :
    Decode.list Commit.ofValue (Commit.listToValue commits) = some commits :=
  Decode.list_map fun commit _ => commit.ofValue_toValue

theorem PushId.ofValue_toValue (id : PushId) : PushId.ofValue id.toValue = some id := rfl

theorem UnknownRoad.ofValue_toValue (road : UnknownRoad) :
    UnknownRoad.ofValue road.toValue = some road := rfl

theorem GoalDescriptions.ofValue_toValue (d : GoalDescriptions) :
    GoalDescriptions.ofValue d.toValue = some d := by
  change (do
    let working ← Decode.nullable Decode.text (.ofText? d.working)
    let completed ← Decode.nullable Decode.text (.ofText? d.completed)
    let failed ← Decode.nullable Decode.text (.ofText? d.failed)
    let waitingForApproval ← Decode.nullable Decode.text (.ofText? d.waitingForApproval)
    some { working, completed, failed, waitingForApproval }) = some d
  simp only [Decode.nullable_ofText?, Option.bind_eq_bind, Option.bind_some]

theorem Push.ofValue_toValue (push : Push) : Push.ofValue push.toValue = some push := by
  change (do
    let commits ← Decode.list Commit.ofValue (Commit.listToValue push.commits)
    let beforeSha ← Decode.nullable Decode.text (.ofText? push.beforeSha)
    some { repo := push.repo, branch := push.branch, commits, beforeSha }) = some push
  rw [Commit.list_listToValue, Decode.nullable_ofText?]
  rfl

namespace PartialPush

theorem ofValue_toValue (p : PartialPush) : PartialPush.ofValue p.toValue = some p := by
  have hrepo : Decode.nullable RepoRef.ofValue ((p.repo.map RepoRef.toValue).getD .null) =
      some p.repo :=
    @Decode.nullable_getD RepoRef RepoRef.ofValue RepoRef.toValue (fun _ hnull => nomatch hnull)
      p.repo fun repo _ => repo.ofValue_toValue
  have hcommits : Decode.nullable (Decode.list Commit.ofValue)
      ((p.commits.map Commit.listToValue).getD .null) = some p.commits :=
    @Decode.nullable_getD (List Commit) _ Commit.listToValue (fun _ hnull => nomatch hnull)
      p.commits fun commits _ => Commit.list_listToValue commits
  change (do
    let repo ← Decode.nullable RepoRef.ofValue ((p.repo.map RepoRef.toValue).getD .null)
    let branch ← Decode.nullable Decode.text (.ofText? p.branch)
    let commits ← Decode.nullable (Decode.list Commit.ofValue)
      ((p.commits.map Commit.listToValue).getD .null)
    let beforeSha ← Decode.nullable Decode.text (.ofText? p.beforeSha)
    some { repo, branch, commits, beforeSha }) = some p
  rw [hrepo, Decode.nullable_ofText?, hcommits, Decode.nullable_ofText?]
  rfl

/-- A push and the partial push that knows all of it are written alike. -/
theorem toValue_toPartial (push : Push) : push.toPartial.toValue = push.toValue := rfl

theorem ofValue_push (push : Push) : PartialPush.ofValue push.toValue = some push.toPartial := by
  rw [← toValue_toPartial, ofValue_toValue]

end PartialPush

end PushGoals
