import PushGoals.Proofs.Guard.Formula

/-!
# What the identity of a push tells

Answers are remembered by the identity of a push: its repository, its branch and its
head.  Most standard tests read nothing else of a push, but three do: the default
branch, the messages of the commits and the head before the push are no part of the
identity.  Where those of them that a formula reads are the same, pushes of one
identity have the same answers, and what is remembered for one is true of the other.
-/

namespace PushGoals

/-- What a test reads beside the identity of a push is the same in both pushes. -/
def StandardTest.ReadsSame (p q : Push) : StandardTest → Prop
  | toDefaultBranch => p.repo.defaultBranch = q.repo.defaultBranch
  | hasCommitMessageMatching _ => p.commits.map (·.message) = q.commits.map (·.message)
  | isMaterialChange _ => p.beforeSha = q.beforeSha
  | onAnyPush => True
  | toBranch _ => True
  | toBranchMatching _ => True
  | isRepo _ _ => True
  | hasFile _ => True
  | hasFileContaining _ _ => True

/-- The push as a whole, with its project. -/
def Push.within (push : Push) (project : Project) : Context :=
  (Context.ofPush push).withProject project

/-- The work answers the same on two contexts. -/
def AnswersSame (ctx other : Context) {α : Type} (work : Context → Probe α) : Prop :=
  (work ctx).answer = (work other).answer

section Pushes

variable {p q : Push} {project : Project}

theorem StandardTest.answersSame (hid : PushId.ofPush p = PushId.ofPush q) {t : StandardTest}
    (hreads : t.ReadsSame p q) :
    AnswersSame (p.within project) (q.within project) t.test.run := by
  obtain ⟨howner, hrepo, hbranch, -⟩ := PushId.mk.inj hid
  cases t with
  | onAnyPush => rfl
  | toDefaultBranch =>
      change Except.ok (p.branch == p.repo.defaultBranch) =
        Except.ok (q.branch == q.repo.defaultBranch)
      rw [hbranch, show p.repo.defaultBranch = q.repo.defaultBranch from hreads]
  | toBranch branch =>
      change Except.ok (p.branch == branch) = Except.ok (q.branch == branch)
      rw [hbranch]
  | toBranchMatching pattern =>
      change Except.ok (pattern.matchesIn p.branch) = Except.ok (pattern.matchesIn q.branch)
      rw [hbranch]
  | isRepo owner name =>
      change Except.ok (p.repo.owner == owner && p.repo.name == name) =
        Except.ok (q.repo.owner == owner && q.repo.name == name)
      rw [howner, hrepo]
  | hasCommitMessageMatching pattern =>
      change Except.ok (p.commits.any (pattern.matchesIn ·.message)) =
        Except.ok (q.commits.any (pattern.matchesIn ·.message))
      have hany (push : Push) : push.commits.any (pattern.matchesIn ·.message) =
          (push.commits.map (·.message)).any pattern.matchesIn := by
        rw [List.any_map]
        rfl
      rw [hany, hany, show p.commits.map (·.message) = q.commits.map (·.message) from hreads]
  | hasFile path => rfl
  | hasFileContaining path pattern => rfl
  | isMaterialChange extensions =>
      let passes (changed : List String) : Bool :=
        changed.any fun path => extensions.any (PushTest.hasExtension path)
      have hanswer (push : Push) :
          ((PushTest.isMaterialChange extensions).run (push.within project)).answer =
            push.beforeSha.elim (.ok true) fun sha => (do
              let changed ← project.changesSince sha
              return passes changed : Probe Bool).answer := by
        obtain ⟨repo, branch, commits, beforeSha⟩ := push
        cases beforeSha <;> rfl
      have hbefore : p.beforeSha = q.beforeSha := hreads
      exact (hanswer p).trans (hbefore ▸ (hanswer q).symm)

theorem compositional_eq : Compositional fun answer later => answer = later where
  ok _ := rfl
  bind {_ _ answer later next laterNext} hanswer hnext := by
    subst later
    cases answer with
    | error e => rfl
    | ok a => exact hnext a rfl

theorem Guard.answer_eq_of_answersSame {ctx other : Context} {guard : Guard}
    (hguard : guard.Every (AnswersSame ctx other)) : guard.answer ctx = guard.answer other :=
  answer_related ctx other compositional_eq (fun hwork => hwork) hguard

/-- From pushes of one identity, and what a formula reads beside it, a formula has one
answer, which may be remembered for either push. -/
theorem Formula.identity_decides {formula : Formula} (hid : PushId.ofPush p = PushId.ofPush q)
    (hreads : ∀ t ∈ formula.tests, t.ReadsSame p q) :
    (∀ pass, formula.guard.direct (p.within project) pass =
      formula.guard.direct (q.within project) pass) ∧
    ∀ caches : Caches,
      caches.Truthful (p.within project) (formula.guard :: formula.guard.remembered) →
        caches.Truthful (q.within project) (formula.guard :: formula.guard.remembered) := by
  have hevery : formula.guard.Every (AnswersSame (p.within project) (q.within project)) :=
    every_guard fun t ht => StandardTest.answersSame hid (hreads t ht)
  constructor
  · intro pass
    rw [Guard.direct_eq formula.scopeFree, Guard.direct_eq formula.scopeFree,
      Guard.answer_eq_of_answersSame hevery]
  · intro caches htrue ref entry hentry guard hguard hpush htest
    have hsame : guard.Every (AnswersSame (p.within project) (q.within project)) := by
      rcases List.mem_cons.mp hguard with rfl | hinside
      · exact hevery
      · exact Guard.every_remembered hevery guard hinside
    rw [← Guard.answer_eq_of_answersSame hsame]
    apply htrue ref entry hentry guard hguard _ htest
    change some (PushId.ofPush p) = _
    rw [hid]
    exact hpush

end Pushes

/-! ## Pushes of one identity -/

/-- A push of two commits to a branch that was there before, and the same again after
the first commit was written anew and the default branch renamed. -/
def release : Push where
  repo := { owner := "acme", name := "shop", defaultBranch := "master" }
  branch := "main"
  commits := [⟨"a1", "feat: cart"⟩, ⟨"b2", "fix: total"⟩]
  beforeSha := some "90"

def releaseAgain : Push where
  repo := { owner := "acme", name := "shop", defaultBranch := "main" }
  branch := "main"
  commits := [⟨"a7", "feat: cart"⟩, ⟨"b2", "fix: total"⟩]
  beforeSha := some "90"

def sources : Project := .inMemory [("Cargo.toml", "[package]")] ["src/lib.rs"]

def sourcesChanged : Formula :=
  .all [.any [.test (.isMaterialChange ["rs"]), .test (.toBranch "dev")],
    .negation (.all [.test (.hasFile "skip"), .test (.isRepo "acme" "shop")])]

theorem sourcesChanged_same_again :
    PushId.ofPush release = PushId.ofPush releaseAgain ∧
      (∀ t ∈ sourcesChanged.tests, t.ReadsSame release releaseAgain) ∧
      sourcesChanged.guard.cost = .expensive ∧
      (∀ pass, sourcesChanged.guard.direct (release.within sources) pass =
        sourcesChanged.guard.direct (releaseAgain.within sources) pass) ∧
      ∀ caches : Caches,
        caches.Truthful (release.within sources)
            (sourcesChanged.guard :: sourcesChanged.guard.remembered) →
          caches.Truthful (releaseAgain.within sources)
            (sourcesChanged.guard :: sourcesChanged.guard.remembered) := by
  have hid : PushId.ofPush release = PushId.ofPush releaseAgain := by decide +kernel
  have hreads : ∀ t ∈ sourcesChanged.tests, t.ReadsSame release releaseAgain := by
    simp [sourcesChanged, Formula.tests, Formula.testsAmong, StandardTest.ReadsSame, release,
      releaseAgain]
  exact ⟨hid, hreads, rfl, Formula.identity_decides hid hreads⟩

/-- The head of `release`, pushed as a new branch. -/
def freshRelease : Push := { release with beforeSha := none }

/-- The head before the push is no part of its identity, but it decides whether the
push changed anything. -/
theorem former_head_misleads :
    ¬∀ (formula : Formula) (p q : Push) (project : Project),
      formula.guard.cost = .expensive → PushId.ofPush p = PushId.ofPush q →
        ∀ pass, formula.guard.direct (p.within project) pass =
          formula.guard.direct (q.within project) pass := by
  intro hclaim
  let formula : Formula := .test (.isMaterialChange ["py"])
  have hdirect := hclaim formula release freshRelease sources rfl (by decide +kernel) default
  rw [Formula.direct_eq_verdict, Formula.direct_eq_verdict] at hdirect
  have hbefore : formula.verdict (release.within sources) = .ok false := rfl
  have hafter : formula.verdict (freshRelease.within sources) = .ok true := rfl
  rw [hbefore, hafter] at hdirect
  cases hdirect

end PushGoals
