import PushGoals.Push.Context

/-!
# Coherence of push contexts

A context keeps a push as a whole and field by field, and the identity beside both.  They
are in step when the whole is what the fields make up and has an identity.  Every way to
start a context puts them in step and everything that is made known afterwards leaves them
so, whatever the order.  Hence tests that read the push as a whole and tests that read its
fields meet the same push.
-/

namespace PushGoals.Context

/-- What a context is started with. -/
inductive Start where
  | whole (push : Push)
  | parts (fields : PartialPush)
  | nothing

/-- What is made known of a push once its context is started. -/
inductive Addition where
  | id (id : PushId)
  | push (push : Push)
  | project (project : Project)
  | credentials (credentials : Credentials)
  | channel (channel : String)

def start : Start → Context
  | .whole push => ofPush push
  | .parts fields => ofPartial fields
  | .nothing => empty

def add (ctx : Context) : Addition → Context
  | .id id => ctx.withId id
  | .push push => ctx.withPush push
  | .project project => ctx.withProject project
  | .credentials credentials => ctx.withCredentials credentials
  | .channel channel => ctx.withChannel channel

/-- A context and all that is made known afterwards, in order. -/
def build (first : Start) (additions : List Addition) : Context := additions.foldl add (start first)

/-! ## Fields that can be read -/

theorem available_eq_ok_iff {α : Type} {field : String} {value : Option α} {a : α} :
    available field value = .ok a ↔ value = some a := by
  cases value <;> simp [available]

theorem readable_iff {α : Type} {field : String} {value : Option α} :
    (∃ a, available field value = .ok a) ↔ value.isSome := by
  simp only [available_eq_ok_iff, Option.isSome_iff_exists]

theorem isDefaultBranch?_eq_ok {ctx : Context} {repo : RepoRef} {branch : String}
    (hrepo : ctx.repo? = .ok repo) (hbranch : ctx.branch? = .ok branch) :
    ctx.isDefaultBranch? = .ok (branch == repo.defaultBranch) := by
  rw [isDefaultBranch?, hbranch, hrepo]
  rfl

end PushGoals.Context

namespace PushGoals.PartialPush

variable {fields : PartialPush} {push : Push}

theorem isSome_complete?_iff :
    fields.complete?.isSome ↔
      fields.repo.isSome ∧ fields.branch.isSome ∧ fields.commits.isSome := by
  obtain ⟨repo, branch, commits, beforeSha⟩ := fields
  cases repo <;> cases branch <;> cases commits <;> simp [complete?]

/-- Fields that make up a push are the fields of that push. -/
theorem complete?_eq_some_iff :
    fields.complete? = some push ↔
      fields.repo = some push.repo ∧ fields.branch = some push.branch ∧
        fields.commits = some push.commits ∧ fields.beforeSha = push.beforeSha := by
  obtain ⟨repo, branch, commits, beforeSha⟩ := fields
  obtain ⟨pushRepo, pushBranch, pushCommits, pushBefore⟩ := push
  cases repo <;> cases branch <;> cases commits <;> simp [complete?]

end PushGoals.PartialPush

namespace PushGoals.Context

/-- The push is what its fields make up, and it has an identity. -/
structure InStep (ctx : Context) : Prop where
  whole : ctx.push = ctx.fields.complete?
  identified : ctx.push.isSome → ctx.id.isSome

theorem inStep_withPush (ctx : Context) (push : Push) : (ctx.withPush push).InStep :=
  ⟨push.complete?_toPartial.symm, fun _ => rfl⟩

theorem inStep_start (first : Start) : (start first).InStep := by
  cases first with
  | whole push => exact empty.inStep_withPush push
  | parts fields =>
      refine ⟨rfl, fun hpush => ?_⟩
      rwa [start, ofPartial, Option.isSome_map]
  | nothing => exact ⟨rfl, fun hpush => nomatch hpush⟩

theorem InStep.add {ctx : Context} (hctx : ctx.InStep) (addition : Addition) :
    (ctx.add addition).InStep := by
  cases addition with
  | push push => exact ctx.inStep_withPush push
  -- An identity of its own stands beside the push, whatever the push is.
  | id id => exact ⟨hctx.whole, fun _ => rfl⟩
  | project project => exact ⟨hctx.whole, hctx.identified⟩
  | credentials credentials => exact ⟨hctx.whole, hctx.identified⟩
  | channel channel => exact ⟨hctx.whole, hctx.identified⟩

theorem inStep_build (first : Start) (additions : List Addition) :
    (build first additions).InStep :=
  additions.foldlRecOn add (inStep_start first) fun _ hctx addition _ => hctx.add addition

namespace InStep

variable {ctx : Context} (hctx : ctx.InStep)

include hctx

theorem push?_readable_iff :
    (∃ push, ctx.push? = .ok push) ↔
      (∃ repo, ctx.repo? = .ok repo) ∧ (∃ branch, ctx.branch? = .ok branch) ∧
        ∃ commits, ctx.commits? = .ok commits := by
  simp only [push?, repo?, branch?, commits?, readable_iff, hctx.whole]
  exact PartialPush.isSome_complete?_iff

/-- The fields that can be read are those of the push. -/
theorem fields_of_push? {push : Push} (hpush : ctx.push? = .ok push) :
    ctx.repo? = .ok push.repo ∧ ctx.branch? = .ok push.branch ∧
      ctx.commits? = .ok push.commits := by
  rw [push?, available_eq_ok_iff, hctx.whole, PartialPush.complete?_eq_some_iff] at hpush
  obtain ⟨hrepo, hbranch, hcommits, -⟩ := hpush
  exact ⟨available_eq_ok_iff.mpr hrepo, available_eq_ok_iff.mpr hbranch,
    available_eq_ok_iff.mpr hcommits⟩

theorem id?_of_push? {push : Push} (hpush : ctx.push? = .ok push) : ∃ id, ctx.id? = .ok id := by
  rw [push?, available_eq_ok_iff] at hpush
  apply readable_iff.mpr
  apply hctx.identified
  rw [hpush]
  rfl

end InStep

/-- However a context was built, it has a push exactly when it has a repository, a branch
and commits; these are then the push's own, and the push has an identity.  The fields of a
push make the same context as the push. -/
theorem built_contexts_are_coherent (first : Start) (additions : List Addition) :
    ((∃ push, (build first additions).push? = .ok push) ↔
        (∃ repo, (build first additions).repo? = .ok repo) ∧
          (∃ branch, (build first additions).branch? = .ok branch) ∧
            ∃ commits, (build first additions).commits? = .ok commits) ∧
      (∀ push, (build first additions).push? = .ok push →
        (build first additions).repo? = .ok push.repo ∧
          (build first additions).branch? = .ok push.branch ∧
          (build first additions).commits? = .ok push.commits ∧
          (build first additions).isDefaultBranch? = .ok push.isDefaultBranch ∧
          ∃ id, (build first additions).id? = .ok id) ∧
      ∀ push : Push, ofPartial push.toPartial = ofPush push := by
  have hctx := inStep_build first additions
  refine ⟨hctx.push?_readable_iff, fun push hpush => ?_, fun _ => rfl⟩
  obtain ⟨hrepo, hbranch, hcommits⟩ := hctx.fields_of_push? hpush
  exact ⟨hrepo, hbranch, hcommits, isDefaultBranch?_eq_ok hrepo hbranch, hctx.id?_of_push? hpush⟩

def releasePush : Push where
  repo := { owner := "acme", name := "shop", defaultBranch := "trunk" }
  branch := "trunk"
  commits := [{ sha := "b2", message := "fix: total" }]

/-- Known in part under another branch and identity, before the push itself is known. -/
def overtaken : Context :=
  build (.parts { branch := some "dev" })
    [.id { owner := "acme", repo := "shop", branch := "dev", sha := "90" }, .push releasePush,
      .channel "builds"]

/-- The whole push replaces what its fields and its identity were before. -/
theorem overtaken_is_coherent :
    overtaken.push? = .ok releasePush ∧ overtaken.branch? = .ok "trunk" ∧
      overtaken.isDefaultBranch? = .ok true := by
  have hpush : overtaken.push? = .ok releasePush := rfl
  obtain ⟨-, hbranch, -, hdefault, -⟩ := (built_contexts_are_coherent _ _).2.1 releasePush hpush
  exact ⟨hpush, hbranch, hdefault⟩

end PushGoals.Context
