import PushGoals.Guard.Standard
import PushGoals.Proofs.Ahead
import PushGoals.Proofs.Guard.Standard
import PushGoals.Proofs.Rule.Evaluation
import PushGoals.Rule.Tree

/-!
# Trees and their paths

A decision tree gates its subtrees one inside the other and falls back to the next
subtree when none of a subtree's leaves is reached.  As long as its tests answer, this
is a search along the paths from the root to the leaves, in the order in which the
leaves are written: the tree gives the value of the first path on which all tests pass,
which is what a sequence of its leaves gives, each guarded by all tests of its path.

The tree has each node's tests remembered by themselves, the sequence has them
remembered anew on each path.
-/

namespace PushGoals

variable {V : Type} {ctx : Context}

/-! ## Conjunctions of tests that answer -/

namespace Guard

/-- Does the guard pass?  A failing guard does not. -/
def isOpen (ctx : Context) (guard : Guard) : Bool :=
  match guard.holds ctx with
  | .ok passes => passes
  | .error _ => false

theorem every_allOf {P : {α : Type} → (Context → Probe α) → Prop} {tests : List Guard}
    (htests : ∀ t ∈ tests, t.Every P) : (allOf tests).Every P := by
  apply everyAmong_iff.mpr
  rw [List.forall_mem_map]
  exact fun t ht => t.every_memoize (htests t ht)

theorem remembered_allOf (tests : List Guard) :
    (allOf tests).remembered = tests.flatMap fun t => t.memoize.remembered := by
  rw [allOf, remembered, rememberedAmong_eq_flatMap, List.flatMap_map]

theorem collect_answers {tests : List Guard} (htests : ∀ t ∈ tests, ∃ o, t.answer ctx = .ok o) :
    (Eval.collect (tests.map (answer ctx))).map (·.all Outcome.passes) =
      .ok (tests.all (isOpen ctx)) := by
  induction tests with
  | nil => rfl
  | cons t rest ih =>
      obtain ⟨⟨outcome, houtcome⟩, hrest⟩ := List.forall_mem_cons.mp htests
      have hopen : isOpen ctx t = outcome.passes := by
        rw [isOpen, holds, houtcome]
        rfl
      obtain ⟨outcomes, hcollect, hall⟩ := ok_of_map (ih hrest)
      rw [List.map_cons, houtcome, Eval.collect, hcollect, List.all_cons, hopen, ← hall]
      rfl

theorem holds_allOf {tests : List Guard} (htests : ∀ t ∈ tests, t.Every (NeverFails ctx)) :
    (allOf tests).holds ctx = .ok (tests.all (isOpen ctx)) := by
  have hanswers : ∀ t ∈ tests, ∃ o, t.answer ctx = .ok o := fun t ht =>
    answer_related ctx ctx succeeds_compositional (fun hwork => hwork {}) (htests t ht)
  have hmemoized : answers ctx (tests.map memoize) = tests.map (answer ctx) := by
    simp only [answers_eq_map, List.map_map, Function.comp_def, answer_memoize]
  rw [← collect_answers hanswers, holds, allOf, answer, hmemoized]
  cases Eval.collect (tests.map (answer ctx)) <;> rfl

end Guard

/-! ## First matches among rules that answer -/

/-- In a sequence of rules that neither fail nor halt, the first value counts. -/
theorem Rule.answerFirst_map [Contribution V] {policy : FailurePolicy} {ι : Type}
    {items : List ι} {make : ι → Rule V} {given : ι → Option V}
    (hitems : ∀ i ∈ items, (make i).answer policy ctx = .ok (.ofOption (given i))) :
    answerFirst policy ctx (items.map make) = .ok (.ofOption (items.findSome? given)) := by
  induction items with
  | nil => rfl
  | cons i rest ih =>
      obtain ⟨hhead, hrest⟩ := List.forall_mem_cons.mp hitems
      rw [List.map_cons, answerFirst, hhead, policy.supervised_ok, List.findSome?_cons]
      cases given i with
      | some v => rfl
      | none => exact ih hrest

theorem findSome_flatMap {α β γ : Type} (f : β → Option γ) (parts : α → List β) (items : List α) :
    (items.flatMap parts).findSome? f = items.findSome? fun a => (parts a).findSome? f := by
  induction items with
  | nil => rfl
  | cons a rest ih =>
      rw [List.flatMap_cons, List.findSome?_append, List.findSome?_cons, ih]
      cases (parts a).findSome? f <;> rfl

/-! ## Trees -/

/-- A decision tree without preparations and hooks. -/
inductive DecisionTree (V : Type) where
  | gives (tests : List Guard) (name : String) (value : V)
  | leadsTo (tests : List Guard) (name : String) (children : List (DecisionTree V))

/-- A leaf of a tree with the tests on the way to it. -/
structure TreePath (V : Type) where
  tests : List Guard
  name : String
  value : V

namespace TreePath

def under (tests : List Guard) (path : TreePath V) : TreePath V :=
  { path with tests := tests ++ path.tests }

/-- The leaf by itself, guarded by all tests of its path. -/
def rule (path : TreePath V) : Rule V :=
  (Given.means { tests := path.tests } path.name).gives path.value

def isOpen (ctx : Context) (path : TreePath V) : Bool := path.tests.all (Guard.isOpen ctx)

/-- The value of the leaf, if all tests on the way to it pass. -/
def given (ctx : Context) (path : TreePath V) : Option V :=
  if path.isOpen ctx then some path.value else none

theorem given_under (tests : List Guard) (path : TreePath V) :
    (path.under tests).given ctx =
      if tests.all (Guard.isOpen ctx) then path.given ctx else none := by
  unfold given isOpen under
  rw [List.all_append]
  by_cases hopen : tests.all (Guard.isOpen ctx) = true
  · rw [if_pos hopen, hopen, Bool.true_and]
  · rw [if_neg hopen, Bool.eq_false_iff.mpr hopen, Bool.false_and]
    rfl

/-- Paths behind closed tests give nothing. -/
theorem findSome_under (tests : List Guard) (paths : List (TreePath V)) :
    (paths.map (under tests)).findSome? (given ctx) =
      if tests.all (Guard.isOpen ctx) then paths.findSome? (given ctx) else none := by
  rw [List.findSome?_map]
  by_cases hopen : tests.all (Guard.isOpen ctx) = true
  · rw [if_pos hopen]
    congr 1
    funext path
    exact (given_under tests path).trans (if_pos hopen)
  · rw [if_neg hopen, List.findSome?_eq_none_iff]
    intro path _
    exact (given_under tests path).trans (if_neg hopen)

theorem answer_rule [Contribution V] {policy : FailurePolicy} {path : TreePath V}
    (htests : ∀ t ∈ path.tests, t.Every (NeverFails ctx)) :
    path.rule.answer policy ctx = .ok (.ofOption (path.given ctx)) := by
  have hguard : (Given.guard { tests := path.tests }).holds ctx = .ok (path.isOpen ctx) :=
    Guard.holds_allOf htests
  unfold rule Node.gives Rule.answer Given.means given
  rw [hguard]
  cases path.isOpen ctx <;> rfl

end TreePath

namespace DecisionTree

@[elab_as_elim]
theorem induct {motive : DecisionTree V → Prop}
    (gives : ∀ tests name value, motive (.gives tests name value))
    (leadsTo : ∀ tests name children, (∀ child ∈ children, motive child) →
      motive (.leadsTo tests name children))
    (tree : DecisionTree V) : motive tree := by
  refine @DecisionTree.rec V motive (fun children => ∀ child ∈ children, motive child)
    gives leadsTo ?_ ?_ tree
  · intro child hchild
    cases hchild
  · intro child rest hhead hrest
    exact List.forall_mem_cons.mpr ⟨hhead, hrest⟩

mutual

/-- The tree as it is built. -/
def rule : DecisionTree V → Rule V
  | .gives tests name value => (Given.means { tests } name).gives value
  | .leadsTo tests name children => (Given.means { tests } name).leadsTo (rules children)

def rules : List (DecisionTree V) → List (Rule V)
  | [] => []
  | child :: rest => rule child :: rules rest

end

@[simp] theorem rules_eq_map (children : List (DecisionTree V)) :
    rules children = children.map rule := by
  induction children with
  | nil => rfl
  | cons child rest ih => simp [rules, ih]

mutual

/-- The tests of all nodes. -/
def tests : DecisionTree V → List Guard
  | .gives tests _ _ => tests
  | .leadsTo tests _ children => tests ++ testsAmong children

def testsAmong : List (DecisionTree V) → List Guard
  | [] => []
  | child :: rest => tests child ++ testsAmong rest

end

@[simp] theorem testsAmong_eq_flatMap (children : List (DecisionTree V)) :
    testsAmong children = children.flatMap tests := by
  induction children with
  | nil => rfl
  | cons child rest ih => simp [testsAmong, ih]

mutual

/-- The paths to the leaves, in the order in which the leaves are written. -/
def paths : DecisionTree V → List (TreePath V)
  | .gives tests name value => [⟨tests, name, value⟩]
  | .leadsTo tests _ children => (pathsAmong children).map (TreePath.under tests)

def pathsAmong : List (DecisionTree V) → List (TreePath V)
  | [] => []
  | child :: rest => paths child ++ pathsAmong rest

end

@[simp] theorem pathsAmong_eq_flatMap (children : List (DecisionTree V)) :
    pathsAmong children = children.flatMap paths := by
  induction children with
  | nil => rfl
  | cons child rest ih => simp [pathsAmong, ih]

theorem tests_subset_of_mem {tree : DecisionTree V} {path : TreePath V}
    (hpath : path ∈ tree.paths) : path.tests ⊆ tree.tests := by
  induction tree using DecisionTree.induct generalizing path with
  | gives tests name value =>
      obtain rfl := List.mem_singleton.mp hpath
      exact List.Subset.refl tests
  | leadsTo tests name children ih =>
      rw [paths, pathsAmong_eq_flatMap] at hpath
      obtain ⟨inner, hinner, rfl⟩ := List.mem_map.mp hpath
      obtain ⟨child, hchild, hmem⟩ := List.mem_flatMap.mp hinner
      rw [DecisionTree.tests, testsAmong_eq_flatMap]
      apply List.append_subset.mpr
      constructor
      · exact List.subset_append_left _ _
      · intro t ht
        have hwithin : t ∈ child.tests := ih child hchild hmem ht
        exact List.mem_append_right _ (List.mem_flatMap_of_mem hchild hwithin)

theorem every_rule {P : {α : Type} → (Context → Probe α) → Prop} {tree : DecisionTree V}
    (htests : ∀ t ∈ tree.tests, t.Every P) : tree.rule.Every P := by
  induction tree using DecisionTree.induct with
  | gives tests name value =>
      exact ⟨Guard.every_allOf htests, fun _ hhook => nomatch hhook⟩
  | leadsTo tests name children ih =>
      rw [DecisionTree.tests, testsAmong_eq_flatMap, List.forall_mem_append] at htests
      have hchildren : Rule.EveryAmong P (rules children) := by
        rw [rules_eq_map, Rule.everyAmong_iff, List.forall_mem_map]
        intro child hchild
        exact ih child hchild fun t ht => htests.2 t (List.mem_flatMap_of_mem hchild ht)
      exact ⟨Guard.every_allOf htests.1, fun _ hhook => (nomatch hhook), hchildren⟩

theorem remembered_rule (tree : DecisionTree V) :
    tree.rule.remembered = tree.tests.flatMap fun t => t.memoize.remembered := by
  induction tree using DecisionTree.induct with
  | gives tests name value => exact Guard.remembered_allOf tests
  | leadsTo tests name children ih =>
      have hchildren : (children.map rule).flatMap Rule.remembered =
          (children.flatMap DecisionTree.tests).flatMap fun t => t.memoize.remembered := by
        rw [List.flatMap_map, List.flatMap_assoc]
        exact List.flatMap_congr ih
      rw [DecisionTree.tests, testsAmong_eq_flatMap, List.flatMap_append, ← hchildren,
        ← Guard.remembered_allOf, ← rules_eq_map, ← Rule.rememberedAmong_eq_flatMap]
      rfl

/-! ## The meaning of a tree -/

section Meaning

variable [Contribution V] {policy : FailurePolicy}

/-- A tree whose tests answer gives the value of the first path on which all pass. -/
theorem answer_rule {tree : DecisionTree V} (htests : ∀ t ∈ tree.tests, t.Every (NeverFails ctx)) :
    tree.rule.answer policy ctx =
      .ok (.ofOption (tree.paths.findSome? (TreePath.given ctx))) := by
  induction tree using DecisionTree.induct with
  | gives tests name value =>
      have hleaf : (TreePath.rule ⟨tests, name, value⟩).answer policy ctx =
          .ok (.ofOption (TreePath.given ctx ⟨tests, name, value⟩)) := TreePath.answer_rule htests
      rw [paths, List.findSome?_singleton, ← hleaf]
      rfl
  | leadsTo tests name children ih =>
      rw [DecisionTree.tests, testsAmong_eq_flatMap, List.forall_mem_append] at htests
      have hguard : (Given.guard { tests }).holds ctx = .ok (tests.all (Guard.isOpen ctx)) :=
        Guard.holds_allOf htests.1
      have hchildren : Rule.answerFirst policy ctx (rules children) =
          .ok (.ofOption ((pathsAmong children).findSome? (TreePath.given ctx))) := by
        rw [rules_eq_map, pathsAmong_eq_flatMap, findSome_flatMap]
        apply Rule.answerFirst_map
        intro child hchild
        exact ih child hchild fun t ht => htests.2 t (List.mem_flatMap_of_mem hchild ht)
      rw [paths, TreePath.findSome_under]
      unfold rule Node.leadsTo Rule.answer Given.means
      rw [hguard]
      cases tests.all (Guard.isOpen ctx) with
      | false => rfl
      | true => exact hchildren

/-- The leaves in the order in which they are written, each guarded by all tests of its
path. -/
def sequence (name : String) (tree : DecisionTree V) : Rule V :=
  .firstMatch name (tree.paths.map TreePath.rule)

theorem answer_sequence {tree : DecisionTree V} (name : String)
    (htests : ∀ t ∈ tree.tests, t.Every (NeverFails ctx)) :
    (tree.sequence name).answer policy ctx =
      .ok (.ofOption (tree.paths.findSome? (TreePath.given ctx))) := by
  apply Rule.answerFirst_map
  intro path hpath
  exact TreePath.answer_rule fun t ht => htests t (tests_subset_of_mem hpath ht)

end Meaning

theorem every_sequence {P : {α : Type} → (Context → Probe α) → Prop} {tree : DecisionTree V}
    (name : String) (htests : ∀ t ∈ tree.tests, t.Every P) : (tree.sequence name).Every P := by
  apply Rule.everyAmong_iff.mpr
  rw [List.forall_mem_map]
  intro path hpath
  have hguard : (Guard.allOf path.tests).Every P :=
    Guard.every_allOf fun t ht => htests t (tests_subset_of_mem hpath ht)
  exact ⟨hguard, fun _ hhook => nomatch hhook⟩

/-- The sequence remembers the same guards as the tree, each perhaps more often. -/
theorem remembered_sequence (name : String) (tree : DecisionTree V) :
    (tree.sequence name).remembered ⊆ tree.rule.remembered := by
  intro g hg
  rw [sequence, Rule.remembered, Rule.rememberedAmong_eq_flatMap, List.mem_flatMap] at hg
  obtain ⟨_, hrule, hmem⟩ := hg
  obtain ⟨path, hpath, rfl⟩ := List.mem_map.mp hrule
  have hinside : g ∈ (Guard.allOf path.tests).remembered := hmem
  rw [Guard.remembered_allOf, List.mem_flatMap] at hinside
  obtain ⟨t, ht, hgt⟩ := hinside
  rw [remembered_rule, List.mem_flatMap]
  exact ⟨t, tests_subset_of_mem hpath ht, hgt⟩

/-- From empty caches a tree over tests that answer gives what the sequence of its leaves
gives, each guarded by all tests of its path: the value of the first path on which all
tests pass. -/
theorem tree_is_first_match_over_paths [Contribution V] {tree : DecisionTree V} {ctx : Context}
    (hfree : ∀ t ∈ tree.tests, t.Every ScopeFree)
    (hanswers : ∀ t ∈ tree.tests, t.Every (NeverFails ctx))
    (hnames : Guard.SameNamed tree.rule.remembered) (name : String) {p q : Pass}
    (hp : p.engine.caches.Empty) (hq : q.engine.caches.Empty) :
    ((tree.rule.eval ctx).run.run p).1 = (((tree.sequence name).eval ctx).run.run q).1 ∧
      ((tree.rule.eval ctx).run.run p).1 =
        .ok (.ofOption (tree.paths.findSome? (TreePath.given ctx))) := by
  have htree : ((tree.rule.eval ctx).run.run p).1 =
      .ok (.ofOption (tree.paths.findSome? (TreePath.given ctx))) := by
    have hgives : Eval.Gives (Pass.Faithful ctx tree.rule.remembered p.scope.policy)
        (tree.rule.eval ctx) (tree.rule.answer p.scope.policy ctx) :=
      Rule.eval_gives (every_rule hfree) hnames fun _ hg => hg
    exact (hgives p ⟨rfl, hp.truthful ctx _⟩).1.trans (answer_rule hanswers)
  have hsequence : (((tree.sequence name).eval ctx).run.run q).1 =
      .ok (.ofOption (tree.paths.findSome? (TreePath.given ctx))) := by
    have hgives : Eval.Gives (Pass.Faithful ctx tree.rule.remembered q.scope.policy)
        ((tree.sequence name).eval ctx) ((tree.sequence name).answer q.scope.policy ctx) :=
      Rule.eval_gives (every_sequence name hfree) hnames (remembered_sequence name tree)
    exact (hgives q ⟨rfl, hq.truthful ctx _⟩).1.trans (answer_sequence name hanswers)
  exact ⟨htree.trans hsequence.symm, htree⟩

/-- Two nodes ask for the same file; behind the first of them everything hangs on the
branch. -/
def imageTree : DecisionTree GoalSet :=
  .leadsTo [.test .onAnyPush] "delivery"
    [.leadsTo [.test (.hasFile "Dockerfile")] "image"
      [.leadsTo [.test (.toBranch "release")] "release"
        [.gives [.test .onAnyPush] "tag" ⟨"tag", [.ofName "tag"], false⟩],
        .gives [.test (.toBranch "staging")] "stage" ⟨"stage", [.ofName "stage"], false⟩],
      .gives [.test (.hasFile "Dockerfile"), .test (.toBranch "main")] "publish"
        ⟨"publish", [.ofName "publish"], false⟩,
      .gives [.test .onAnyPush] "build" ⟨"build", [.ofName "build"], false⟩]

def imagePushed : Context :=
  (Context.ofPush ⟨⟨"owner", "repo", "main"⟩, "main", [], none⟩).withProject
    (.inMemory [("Dockerfile", "")] [])

/-- On the main branch the node of the image passes and none of its leaves is reached; the
next leaf that is not closed counts, in the tree as in the sequence, whatever becomes of
failures in either. -/
theorem image_falls_through :
    ((imageTree.rule.eval imagePushed).run.run ⟨{}, { policy := .isolateAndReport }⟩).1 =
        (((imageTree.sequence "leaves").eval imagePushed).run.run ⟨{}, {}⟩).1 ∧
      (imageTree.paths.map TreePath.name) = ["tag", "stage", "publish", "build"] ∧
      (imageTree.paths.findSome? (TreePath.given imagePushed)).map (·.uniqueNames) =
        some ["publish"] := by
  have hfree : ∀ t ∈ imageTree.tests, t.Every ScopeFree := by
    have hany : ScopeFree PushTest.onAnyPush.run := PushTest.onAnyPush_lasting.scopeFree
    have hfile : ScopeFree (PushTest.hasFile "Dockerfile").run :=
      (PushTest.hasFile_lasting "Dockerfile").scopeFree
    have hbranch (branch : String) : ScopeFree (PushTest.toBranch branch).run :=
      (PushTest.toBranch_lasting branch).scopeFree
    simp [imageTree, tests, Guard.Every, hany, hfile, hbranch]
  have hanswers : ∀ t ∈ imageTree.tests, t.Every (NeverFails imagePushed) := by
    have hany : NeverFails imagePushed PushTest.onAnyPush.run := fun _ => ⟨true, rfl⟩
    have hfile : NeverFails imagePushed (PushTest.hasFile "Dockerfile").run :=
      fun _ => ⟨true, rfl⟩
    have hbranch (branch : String) : NeverFails imagePushed (PushTest.toBranch branch).run :=
      fun _ => ⟨"main" == branch, rfl⟩
    simp [imageTree, tests, Guard.Every, hany, hfile, hbranch]
  have hnames : Guard.SameNamed imageTree.rule.remembered := by
    have hremembered : imageTree.rule.remembered =
        [.test (.hasFile "Dockerfile"), .test (.hasFile "Dockerfile")] := rfl
    rw [hremembered]
    intro g hg h hh _ ctx
    simp only [List.mem_cons, List.not_mem_nil, or_false, or_self] at hg hh
    rw [hg, hh]
  refine ⟨?_, by decide +kernel, by decide +kernel⟩
  exact (tree_is_first_match_over_paths hfree hanswers hnames "leaves" Caches.empty_default
    Caches.empty_default).1

end DecisionTree

end PushGoals
