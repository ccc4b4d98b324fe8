import PushGoals.Push.Context
import PushGoals.Text.Quoted

/-!
# Showing push contexts

A context on one line, for people who look for mistakes.  Projects and channels
show only whether they are there, and the token of the credentials never shows.
-/

namespace PushGoals

namespace Display

def record (name : String) (fields : List (String × String)) : String :=
  name ++ " \x7b " ++ ", ".intercalate (fields.map fun f => f.1 ++ ": " ++ f.2) ++ " \x7d"

def optional {α : Type} (text : α → String) : Option α → String
  | none => "None"
  | some a => "Some(" ++ text a ++ ")"

def list {α : Type} (text : α → String) (items : List α) : String :=
  "[" ++ ", ".intercalate (items.map text) ++ "]"

def flag (b : Bool) : String := if b then "true" else "false"

def repo (r : RepoRef) : String :=
  record "RepoRef"
    [("owner", Text.quote r.owner), ("name", Text.quote r.name),
     ("default_branch", Text.quote r.defaultBranch)]

def commit (c : Commit) : String :=
  record "Commit" [("sha", Text.quote c.sha), ("message", Text.quote c.message)]

def pushId (id : PushId) : String :=
  record "PushId"
    [("owner", Text.quote id.owner), ("repo", Text.quote id.repo),
     ("branch", Text.quote id.branch), ("sha", Text.quote id.sha)]

def partialPush (p : PartialPush) : String :=
  record "PartialPush"
    [("repo", optional repo p.repo), ("branch", optional Text.quote p.branch),
     ("commits", optional (list commit) p.commits),
     ("before_sha", optional Text.quote p.beforeSha)]

def credentials (_ : Credentials) : String :=
  record "Credentials" [("token", Text.quote "<redacted>")]

end Display

def Context.display (ctx : Context) : String :=
  Display.record "PushContext"
    [("id", Display.optional Display.pushId ctx.id), ("push", Display.partialPush ctx.fields),
     ("project", Display.flag ctx.project.isSome),
     ("credentials", Display.optional Display.credentials ctx.credentials),
     ("channels", Display.flag ctx.channel.isSome)]

end PushGoals
