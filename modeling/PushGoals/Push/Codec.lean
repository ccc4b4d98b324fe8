import PushGoals.Push.Basic

/-!
# Written form of pushes

Every record is written with all its fields.  Read back, the default branch is
`main` unless said otherwise, a push may leave out its commits and the head
before it, and a partial push any field.
-/

namespace PushGoals

namespace RepoRef

def toValue (repo : RepoRef) : Value :=
  .object
    [("owner", .string repo.owner), ("name", .string repo.name),
     ("default_branch", .string repo.defaultBranch)]

def ofValue (v : Value) : Option RepoRef := do
  let shape : Decode.Shape := ⟨["owner", "name", "default_branch"], false⟩
  let fields ← shape.fields? .json v
  let owner ← Decode.required fields "owner" Decode.text
  let name ← Decode.required fields "name" Decode.text
  let defaultBranch ← Decode.fallback fields "default_branch" "main" Decode.text
  some { owner, name, defaultBranch }

end RepoRef

namespace Commit

def toValue (commit : Commit) : Value :=
  .object [("sha", .string commit.sha), ("message", .string commit.message)]

def ofValue (v : Value) : Option Commit := do
  let shape : Decode.Shape := ⟨["sha", "message"], false⟩
  let fields ← shape.fields? .json v
  let sha ← Decode.required fields "sha" Decode.text
  let message ← Decode.required fields "message" Decode.text
  some { sha, message }

def listToValue (commits : List Commit) : Value := .array (commits.map toValue)

end Commit

def Push.shape : Decode.Shape := ⟨["repo", "branch", "commits", "before_sha"], false⟩

namespace Push

def toValue (push : Push) : Value :=
  .object
    [("repo", push.repo.toValue), ("branch", .string push.branch),
     ("commits", Commit.listToValue push.commits), ("before_sha", .ofText? push.beforeSha)]

def ofValue (v : Value) : Option Push := do
  let fields ← shape.fields? .json v
  let repo ← Decode.required fields "repo" RepoRef.ofValue
  let branch ← Decode.required fields "branch" Decode.text
  let commits ← Decode.fallback fields "commits" [] (Decode.list Commit.ofValue)
  let beforeSha ← Decode.optional fields "before_sha" Decode.text
  some { repo, branch, commits, beforeSha }

end Push

namespace PartialPush

def toValue (p : PartialPush) : Value :=
  .object
    [("repo", (p.repo.map RepoRef.toValue).getD .null), ("branch", .ofText? p.branch),
     ("commits", (p.commits.map Commit.listToValue).getD .null),
     ("before_sha", .ofText? p.beforeSha)]

def ofValue (v : Value) : Option PartialPush := do
  let fields ← Push.shape.fields? .json v
  let repo ← Decode.optional fields "repo" RepoRef.ofValue
  let branch ← Decode.optional fields "branch" Decode.text
  let commits ← Decode.optional fields "commits" (Decode.list Commit.ofValue)
  let beforeSha ← Decode.optional fields "before_sha" Decode.text
  some { repo, branch, commits, beforeSha }

end PartialPush

namespace PushId

def toValue (id : PushId) : Value :=
  .object
    [("owner", .string id.owner), ("repo", .string id.repo), ("branch", .string id.branch),
     ("sha", .string id.sha)]

def ofValue (v : Value) : Option PushId := do
  let shape : Decode.Shape := ⟨["owner", "repo", "branch", "sha"], false⟩
  let fields ← shape.fields? .json v
  let owner ← Decode.required fields "owner" Decode.text
  let repo ← Decode.required fields "repo" Decode.text
  let branch ← Decode.required fields "branch" Decode.text
  let sha ← Decode.required fields "sha" Decode.text
  some { owner, repo, branch, sha }

end PushId

def Credentials.toValue (c : Credentials) : Value := .object [("token", .string c.token)]

end PushGoals
