import PushGoals.RulesFile.Build
import PushGoals.Proofs.Guard.Formula
import Mathlib.Data.List.TakeWhile

/-!
# What written tests say

`TestSpec.holds` reads a written test for a push and the files of its project: a
named test by what its name says, `negation` and `any` by their parts.  The guard
that is built from a written test answers what it says, for every context that
knows the push as a whole and a project in which no look-up fails.

Of the guards in it, those are remembered that are built from expensive tests
written in it.
-/

namespace PushGoals

/-- The files of a project in which no look-up fails. -/
structure ProjectFiles where
  hasFile : String → Bool
  readFile : String → Option String
  changedFilesSince : String → List String

def ProjectFiles.project (files : ProjectFiles) : Project where
  hasFile path := .ok (files.hasFile path)
  readFile path := .ok (files.readFile path)
  changedFilesSince sha := .ok (files.changedFilesSince sha)

/-- The context knows all of the push, and the project with these files. -/
structure Context.Shows (ctx : Context) (push : Push) (files : ProjectFiles) : Prop where
  whole : ctx.push = some push
  fields : ctx.fields = push.toPartial
  project : ctx.project = some files.project

theorem Context.Shows.eq {ctx : Context} {push : Push} {files : ProjectFiles}
    (hshows : ctx.Shows push files) :
    ctx = { ctx with
      push := some push, fields := push.toPartial, project := some files.project } := by
  obtain ⟨id, whole, fields, project, credentials, channel⟩ := ctx
  obtain ⟨rfl, rfl, rfl⟩ := hshows
  rfl

/-- The path ends in a point and the extension.  Points in front of the extension do not
belong to it. -/
def EndsIn (path ext : String) : Prop :=
  ∃ points name front, ext.toList = points ++ name ∧ (∀ c ∈ points, c = '.') ∧
    name.head? ≠ some '.' ∧ path.toList = front ++ '.' :: name

theorem PushTest.hasExtension_iff {path ext : String} :
    hasExtension path ext = true ↔ EndsIn path ext := by
  rw [hasExtension, List.isSuffixOf_iff_suffix]
  constructor
  · rintro ⟨front, hpath⟩
    refine ⟨ext.toList.takeWhile (· == '.'), ext.toList.dropWhile (· == '.'), front,
      List.takeWhile_append_dropWhile.symm, ?_, ?_, hpath.symm⟩
    · exact fun c hc => beq_iff_eq.mp (List.mem_takeWhile_imp (p := (· == '.')) hc)
    · have hhead := List.head?_dropWhile_not (· == '.') ext.toList
      cases hname : (ext.toList.dropWhile (· == '.')).head? with
      | none => exact nofun
      | some c =>
          rw [hname] at hhead
          rintro ⟨⟩
          cases hhead
  · rintro ⟨points, name, front, hext, hpoints, hname, hpath⟩
    have hdrop : ext.toList.dropWhile (· == '.') = name := by
      rw [hext, List.dropWhile_append_of_pos fun c hc => beq_iff_eq.mpr (hpoints c hc)]
      cases name with
      | nil => rfl
      | cons c rest =>
          have hc : (c == '.') = false := beq_eq_false_iff_ne.mpr fun heq => hname (by rw [heq]; rfl)
          simp [hc]
    exact ⟨front, by rw [hdrop, hpath]⟩

instance (path ext : String) : Decidable (EndsIn path ext) :=
  decidable_of_iff _ PushTest.hasExtension_iff

theorem PushTest.hasExtension_eq (path ext : String) :
    hasExtension path ext = decide (EndsIn path ext) := by
  rw [Bool.eq_iff_iff, decide_eq_true_iff]
  exact hasExtension_iff

namespace TestSpec

@[elab_as_elim]
theorem induct {motive : TestSpec → Prop}
    (onAnyPush : motive .onAnyPush)
    (toDefaultBranch : motive .toDefaultBranch)
    (toBranch : ∀ branch, motive (.toBranch branch))
    (toBranchMatching : ∀ pattern, motive (.toBranchMatching pattern))
    (isRepo : ∀ owner name, motive (.isRepo owner name))
    (hasFile : ∀ path, motive (.hasFile path))
    (hasFileContaining : ∀ path pattern, motive (.hasFileContaining path pattern))
    (hasCommitMessageMatching : ∀ pattern, motive (.hasCommitMessageMatching pattern))
    (isMaterialChange : ∀ extensions, motive (.isMaterialChange extensions))
    (negation : ∀ inner, motive inner → motive (.negation inner))
    (any : ∀ tests, (∀ test ∈ tests, motive test) → motive (.any tests))
    (test : TestSpec) : motive test := by
  refine @TestSpec.rec motive (fun tests => ∀ test ∈ tests, motive test)
    onAnyPush toDefaultBranch toBranch toBranchMatching isRepo hasFile hasFileContaining
    hasCommitMessageMatching isMaterialChange negation any ?_ ?_ test
  · intro test htest
    cases htest
  · intro test rest hhead hrest
    exact List.forall_mem_cons.mpr ⟨hhead, hrest⟩

def patternMatches (pattern text : String) : Bool :=
  (Regex.compile? pattern).any (·.matchesIn text)

mutual

/-- Does a written test hold for a push to a project with these files? -/
def holds (push : Push) (files : ProjectFiles) : TestSpec → Bool
  | .onAnyPush => true
  | .toDefaultBranch => push.branch == push.repo.defaultBranch
  | .toBranch branch => push.branch == branch
  | .toBranchMatching pattern => patternMatches pattern push.branch
  | .isRepo owner name => push.repo.owner == owner && push.repo.name == name
  | .hasFile path => files.hasFile path
  | .hasFileContaining path pattern => (files.readFile path).any (patternMatches pattern)
  | .hasCommitMessageMatching pattern => push.commits.any fun c => patternMatches pattern c.message
  | .isMaterialChange extensions =>
      match push.beforeSha with
      | none => true
      | some sha =>
          (files.changedFilesSince sha).any fun path => extensions.any (EndsIn path ·)
  | .negation inner => !holds push files inner
  | .any tests => holdsAny push files tests

def holdsAny (push : Push) (files : ProjectFiles) : List TestSpec → Bool
  | [] => false
  | test :: rest => holds push files test || holdsAny push files rest

end

@[simp] theorem holdsAny_eq_any (push : Push) (files : ProjectFiles) (tests : List TestSpec) :
    holdsAny push files tests = tests.any (holds push files) := by
  induction tests with
  | nil => rfl
  | cons test rest ih => rw [holdsAny, ih, List.any_cons]

mutual

/-- The test and all tests written inside it. -/
def nested : TestSpec → List TestSpec
  | .negation inner => .negation inner :: nested inner
  | .any tests => .any tests :: nestedAmong tests
  | test => [test]

def nestedAmong : List TestSpec → List TestSpec
  | [] => []
  | test :: rest => nested test ++ nestedAmong rest

end

theorem mem_nested_self (test : TestSpec) : test ∈ test.nested := by
  cases test <;> exact List.mem_cons_self

@[simp] theorem nestedAmong_eq_flatMap (tests : List TestSpec) :
    nestedAmong tests = tests.flatMap nested := by
  induction tests with
  | nil => rfl
  | cons test rest ih => rw [nestedAmong, ih, List.flatMap_cons]

theorem patternMatches_of_regex {pattern : String} {r : Regex} (hregex : regex pattern = .ok r) :
    patternMatches pattern = r.matchesIn := by
  unfold regex at hregex
  unfold patternMatches
  cases hcompile : Regex.compile? pattern with
  | none =>
      rw [hcompile] at hregex
      cases hregex
  | some compiled =>
      rw [hcompile] at hregex
      cases hregex
      rfl

theorem buildAll_eq_ok {tests : List TestSpec} {guards : List Guard}
    (hbuild : buildAll tests = .ok guards) :
    List.Forall₂ (fun test guard => build test = .ok guard) tests guards := by
  induction tests generalizing guards with
  | nil =>
      cases hbuild
      exact .nil
  | cons test rest ih =>
      unfold buildAll at hbuild
      cases hhead : build test with
      | error pattern =>
          rw [hhead] at hbuild
          cases hbuild
      | ok guard =>
          cases hrest : buildAll rest with
          | error pattern =>
              rw [hhead, hrest] at hbuild
              cases hbuild
          | ok more =>
              rw [hhead, hrest] at hbuild
              cases hbuild
              exact .cons hhead (ih hrest)

/-- The guard does what the written test says. -/
structure ReadBy (test : TestSpec) (guard : Guard) : Prop where
  answer : ∀ {ctx push files}, Context.Shows ctx push files →
    guard.answer ctx = .ok (.matched (test.holds push files))
  standard : ∀ P : {α : Type} → (Context → Probe α) → Prop,
    (∀ t : StandardTest, P t.test.run) → guard.Every P
  remembered : ∀ g ∈ guard.remembered,
    ∃ inner ∈ test.nested, inner.build = .ok g ∧ g.cost = .expensive

namespace ReadBy

theorem test {spec : TestSpec} (t : StandardTest)
    (hanswer : ∀ {ctx push files}, Context.Shows ctx push files →
      (t.test.run ctx).answer = .ok (spec.holds push files)) : spec.ReadBy (.test t.test) := by
  refine ⟨?_, fun _ hall => hall t, fun _ hg => nomatch hg⟩
  intro ctx push files hshows
  rw [Guard.answer, hanswer hshows]
  rfl

theorem negation {inner : TestSpec} {guard : Guard} (hinner : inner.ReadBy guard) :
    (TestSpec.negation inner).ReadBy (.negation guard) := by
  refine ⟨?_, hinner.standard, ?_⟩
  · intro ctx push files hshows
    rw [Guard.answer, hinner.answer hshows]
    rfl
  · intro g hg
    obtain ⟨test, htest, hbuilt⟩ := hinner.remembered g hg
    exact ⟨test, List.mem_cons_of_mem _ htest, hbuilt⟩

section Parts

variable {tests : List TestSpec} {guards : List Guard}

theorem answers_memoize (hparts : List.Forall₂ ReadBy tests guards) {ctx : Context} {push : Push}
    {files : ProjectFiles} (hshows : ctx.Shows push files) :
    Eval.collect (Guard.answers ctx (guards.map Guard.memoize)) =
      .ok (tests.map fun test => .matched (test.holds push files)) := by
  rw [Guard.answers_eq_map, List.map_map, Eval.collect_eq_ok_iff, List.map_map]
  induction hparts with
  | nil => rfl
  | cons hpart _ ih =>
      rw [List.map_cons, List.map_cons, ih]
      congr 1
      exact (Guard.answer_memoize _ ctx).trans (hpart.answer hshows)

theorem standard_memoize (hparts : List.Forall₂ ReadBy tests guards)
    (P : {α : Type} → (Context → Probe α) → Prop) (hall : ∀ t : StandardTest, P t.test.run) :
    Guard.EveryAmong P (guards.map Guard.memoize) := by
  induction hparts with
  | nil => trivial
  | cons hpart _ ih => exact ⟨Guard.every_memoize _ (hpart.standard P hall), ih⟩

theorem remembered_memoize (hparts : List.Forall₂ ReadBy tests guards)
    (hbuilt : List.Forall₂ (fun test guard => build test = .ok guard) tests guards) :
    ∀ g ∈ Guard.rememberedAmong (guards.map Guard.memoize),
      ∃ test ∈ nestedAmong tests, test.build = .ok g ∧ g.cost = .expensive := by
  induction hparts with
  | nil => exact fun _ hg => nomatch hg
  | @cons test guard rest guards hpart _ ih =>
      obtain ⟨hhead, hrest⟩ := List.forall₂_cons.mp hbuilt
      intro g hg
      rcases List.mem_append.mp hg with hfirst | hlater
      · have hnested : ∃ inner ∈ test.nested, inner.build = .ok g ∧ g.cost = .expensive := by
          rcases Guard.mem_remembered_memoize guard hfirst with hinside | ⟨rfl, hcost⟩
          · exact hpart.remembered g hinside
          · exact ⟨test, mem_nested_self test, hhead, hcost⟩
        obtain ⟨inner, hinner, hfound⟩ := hnested
        exact ⟨inner, List.mem_append_left _ hinner, hfound⟩
      · obtain ⟨inner, hinner, hfound⟩ := ih hrest g hlater
        exact ⟨inner, List.mem_append_right _ hinner, hfound⟩

theorem any_map_matched (push : Push) (files : ProjectFiles) :
    (tests.map fun test => Outcome.matched (test.holds push files)).any Outcome.passes =
      tests.any (holds push files) := by
  rw [List.any_map]
  rfl

theorem all_map_matched (push : Push) (files : ProjectFiles) :
    (tests.map fun test => Outcome.matched (test.holds push files)).all Outcome.passes =
      tests.all (holds push files) := by
  rw [List.all_map]
  rfl

theorem any (hparts : List.Forall₂ ReadBy tests guards)
    (hbuilt : List.Forall₂ (fun test guard => build test = .ok guard) tests guards) :
    (TestSpec.any tests).ReadBy (.anyOf guards) := by
  refine ⟨?_, standard_memoize hparts, ?_⟩
  · intro ctx push files hshows
    rw [Guard.anyOf, Guard.answer, answers_memoize hparts hshows, holds, holdsAny_eq_any,
      ← any_map_matched]
    rfl
  · intro g hg
    obtain ⟨test, htest, hfound⟩ := remembered_memoize hparts hbuilt g hg
    exact ⟨test, List.mem_cons_of_mem _ htest, hfound⟩

end Parts

end ReadBy

theorem readEach_of_build {tests : List TestSpec} {guards : List Guard}
    (hread : ∀ test ∈ tests, ∀ {guard}, build test = .ok guard → test.ReadBy guard)
    (hbuilt : List.Forall₂ (fun test guard => build test = .ok guard) tests guards) :
    List.Forall₂ ReadBy tests guards := by
  induction hbuilt with
  | nil => exact .nil
  | cons hbuild _ ih =>
      obtain ⟨hhead, hrest⟩ := List.forall_mem_cons.mp hread
      exact .cons (hhead hbuild) (ih hrest)

/-- What is built from a written test does what the test says. -/
theorem readBy_of_build {test : TestSpec} {guard : Guard} (hbuild : build test = .ok guard) :
    test.ReadBy guard := by
  induction test using TestSpec.induct generalizing guard with
  | onAnyPush =>
      cases hbuild
      exact .test .onAnyPush fun _ => rfl
  | toDefaultBranch =>
      cases hbuild
      exact .test .toDefaultBranch fun hshows => by rw [hshows.eq]; rfl
  | toBranch branch =>
      cases hbuild
      exact .test (.toBranch branch) fun hshows => by rw [hshows.eq]; rfl
  | toBranchMatching pattern =>
      rw [build] at hbuild
      obtain ⟨r, hregex, hguard⟩ := ok_of_bind hbuild
      cases hguard
      apply ReadBy.test (.toBranchMatching r)
      intro ctx push files hshows
      rw [hshows.eq, holds, patternMatches_of_regex hregex]
      rfl
  | isRepo owner name =>
      cases hbuild
      exact .test (.isRepo owner name) fun hshows => by rw [hshows.eq]; rfl
  | hasFile path =>
      cases hbuild
      exact .test (.hasFile path) fun hshows => by rw [hshows.eq]; rfl
  | hasFileContaining path pattern =>
      rw [build] at hbuild
      obtain ⟨r, hregex, hguard⟩ := ok_of_bind hbuild
      cases hguard
      apply ReadBy.test (.hasFileContaining path r)
      intro ctx push files hshows
      rw [hshows.eq, holds, patternMatches_of_regex hregex]
      rfl
  | hasCommitMessageMatching pattern =>
      rw [build] at hbuild
      obtain ⟨r, hregex, hguard⟩ := ok_of_bind hbuild
      cases hguard
      apply ReadBy.test (.hasCommitMessageMatching r)
      intro ctx push files hshows
      rw [hshows.eq, holds, patternMatches_of_regex hregex]
      rfl
  | isMaterialChange extensions =>
      cases hbuild
      apply ReadBy.test (.isMaterialChange extensions)
      intro ctx push files hshows
      obtain ⟨repo, branch, commits, beforeSha⟩ := push
      rw [hshows.eq]
      cases beforeSha with
      | none => rfl
      | some sha =>
          simp only [holds, ← PushTest.hasExtension_eq]
          rfl
  | negation inner ih =>
      rw [build] at hbuild
      obtain ⟨g, hinner, hguard⟩ := ok_of_bind hbuild
      cases hguard
      exact (ih hinner).negation
  | any tests ih =>
      rw [build] at hbuild
      obtain ⟨guards, hall, hguard⟩ := ok_of_bind hbuild
      cases hguard
      have hbuilt := buildAll_eq_ok hall
      exact .any (readEach_of_build ih hbuilt) hbuilt

end TestSpec

end PushGoals
