import PushGoals.Proofs.Graph.Reading

/-!
# Which goals share a node

A node is written with one identifier, made of the environment and the unique name of a
goal.  Two goals have the same identifier when both parts are sanitized alike, or when the
end of one environment can be taken for the beginning of the other goal's name.  Where
names of one environment stay different when they are sanitized, and no environment of a
graph continues another, goals of different names have nodes of their own, and every edge
joins the goals that it was declared for.
-/

namespace PushGoals.Graph

/-- All goals for which a node is written: those of the set and their preconditions. -/
def drawn (set : GoalSet) : List Goal := set.goals ++ set.goals.flatMap (·.dependsOn)

/-- The declared preconditions, each with the goal that waits for it. -/
def links (set : GoalSet) : List (Goal × Goal) :=
  set.goals.flatMap fun goal => goal.dependsOn.map (·, goal)

theorem edges_eq_map_links (set : GoalSet) :
    edges set = (links set).map fun link => (nodeId link.1, nodeId link.2) := by
  rw [edges, links, List.map_flatMap]
  refine List.flatMap_congr fun goal _ => ?_
  rw [List.map_map]
  rfl

theorem mem_links_iff {set : GoalSet} {d goal : Goal} :
    (d, goal) ∈ links set ↔ goal ∈ set.goals ∧ d ∈ goal.dependsOn := by
  simp [links]

/-- In the graph of the set an edge leads from a goal of the first name to a goal of the
second. -/
def Precedes (set : GoalSet) (first second : String) : Prop :=
  ∃ link ∈ links set, link.1.uniqueName = first ∧ link.2.uniqueName = second

theorem mem_drawn_of_mem_links {set : GoalSet} {link : Goal × Goal} (hlink : link ∈ links set) :
    link.1 ∈ drawn set ∧ link.2 ∈ drawn set := by
  obtain ⟨hgoal, hdependsOn⟩ := mem_links_iff.mp hlink
  exact ⟨List.mem_append_right _ (List.mem_flatMap_of_mem hgoal hdependsOn),
    List.mem_append_left _ hgoal⟩

/-! ## Equal identifiers -/

/-- Texts that are joined by a separator fall apart in one way only, unless the separator
stands inside one of them. -/
theorem joined_eq_iff {c : Char} {xs ys xs' ys' : List Char} :
    xs ++ c :: ys = xs' ++ c :: ys' ↔
      (xs = xs' ∧ ys = ys') ∨ (∃ between, xs' = xs ++ c :: between ∧ ys = between ++ c :: ys') ∨
        ∃ between, xs = xs' ++ c :: between ∧ ys' = between ++ c :: ys := by
  constructor
  · intro heq
    -- Either separator may come first; what stands up to the other one lies between them.
    rcases List.append_eq_append_iff.mp heq with ⟨more, hfront, hback⟩ | ⟨more, hfront, hback⟩
    · cases more with
      | nil =>
          rw [List.append_nil] at hfront
          exact .inl ⟨hfront.symm, (List.cons.inj hback).2⟩
      | cons d between =>
          obtain ⟨rfl, hrest⟩ := List.cons.inj hback
          exact .inr (.inl ⟨between, hfront, hrest⟩)
    · cases more with
      | nil =>
          rw [List.append_nil] at hfront
          exact .inl ⟨hfront, (List.cons.inj hback).2.symm⟩
      | cons d between =>
          obtain ⟨rfl, hrest⟩ := List.cons.inj hback
          exact .inr (.inr ⟨between, hfront, hrest⟩)
  · rintro (⟨rfl, rfl⟩ | ⟨between, rfl, rfl⟩ | ⟨between, rfl, rfl⟩) <;> simp

/-- The environment of `b` continues the one of `a`, and what it has more begins the name
of `a`. -/
def Slides (a b : Goal) : Prop :=
  ∃ between, sanitize b.environment = sanitize a.environment ++ "_" ++ between ∧
    sanitize a.uniqueName = between ++ "_" ++ sanitize b.uniqueName

theorem toList_nodeId (goal : Goal) :
    (nodeId goal).toList =
      (sanitize goal.environment).toList ++ '_' :: (sanitize goal.uniqueName).toList := by
  have hseparator : sanitizeChar '_' = '_' := by decide
  simp [nodeId, sanitize, hseparator]

theorem slides_iff {a b : Goal} :
    Slides a b ↔ ∃ between : List Char,
      (sanitize b.environment).toList = (sanitize a.environment).toList ++ '_' :: between ∧
        (sanitize a.uniqueName).toList = between ++ '_' :: (sanitize b.uniqueName).toList := by
  constructor
  · rintro ⟨between, henvironment, hname⟩
    refine ⟨between.toList, ?_, ?_⟩
    · simp [henvironment]
    · simp [hname]
  · rintro ⟨between, henvironment, hname⟩
    refine ⟨String.ofList between, ?_, ?_⟩
    · rw [← String.toList_inj, henvironment]
      simp
    · rw [← String.toList_inj, hname]
      simp

/-- Two goals share a node exactly when their environments and names are sanitized alike,
or one of them slides into the other. -/
theorem nodeId_eq_iff (a b : Goal) :
    nodeId a = nodeId b ↔
      (sanitize a.environment = sanitize b.environment ∧
        sanitize a.uniqueName = sanitize b.uniqueName) ∨ Slides a b ∨ Slides b a := by
  rw [← String.toList_inj, toList_nodeId, toList_nodeId, joined_eq_iff, String.toList_inj,
    String.toList_inj, slides_iff, slides_iff]

/-! ## Graphs that keep goals apart -/

/-- Within an environment names stay different when they are sanitized, and no environment
continues another. -/
structure ToldApart (set : GoalSet) : Prop where
  names : ∀ a ∈ drawn set, ∀ b ∈ drawn set, sanitize a.environment = sanitize b.environment →
    sanitize a.uniqueName = sanitize b.uniqueName → a.uniqueName = b.uniqueName
  environments : ∀ a ∈ drawn set, ∀ b ∈ drawn set,
    ¬ (sanitize a.environment ++ "_").toList <+: (sanitize b.environment).toList

theorem not_slides_of_environments {a b : Goal}
    (henvironments : ¬ (sanitize a.environment ++ "_").toList <+: (sanitize b.environment).toList) :
    ¬ Slides a b := by
  rintro ⟨more, hmore, -⟩
  apply henvironments
  exact ⟨more.toList, by simp [hmore]⟩

theorem ToldApart.name_eq {set : GoalSet} (hset : ToldApart set) {a b : Goal} (ha : a ∈ drawn set)
    (hb : b ∈ drawn set) (hid : nodeId a = nodeId b) : a.uniqueName = b.uniqueName := by
  rcases (nodeId_eq_iff a b).mp hid with
    ⟨henvironment, hname⟩ | hslides | hslides
  · exact hset.names a ha b hb henvironment hname
  · exact absurd hslides (not_slides_of_environments (hset.environments a ha b hb))
  · exact absurd hslides (not_slides_of_environments (hset.environments b hb a ha))

/-- Goals of different names have different nodes, and an edge between the nodes of two
goals is a declared precondition between goals of their names. -/
theorem nodes_are_told_apart {set : GoalSet} (hset : ToldApart set) :
    (∀ a ∈ drawn set, ∀ b ∈ drawn set, a.uniqueName ≠ b.uniqueName → nodeId a ≠ nodeId b) ∧
      ∀ a ∈ drawn set, ∀ b ∈ drawn set, (nodeId a, nodeId b) ∈ edges set →
        Precedes set a.uniqueName b.uniqueName := by
  refine ⟨fun a ha b hb hne hid => hne (hset.name_eq ha hb hid), fun a ha b hb hedge => ?_⟩
  rw [edges_eq_map_links] at hedge
  obtain ⟨link, hlink, hids⟩ := List.mem_map.mp hedge
  obtain ⟨hsource, htarget⟩ := Prod.mk.inj hids
  obtain ⟨hfirst, hsecond⟩ := mem_drawn_of_mem_links hlink
  exact ⟨link, hlink, hset.name_eq hfirst ha hsource, hset.name_eq hsecond hb htarget⟩

/-- Code goals that belong together and a deployment that waits for one of them. -/
def stagedSet : GoalSet where
  name := "staged"
  goals :=
    [.ofName "build",
     { Goal.ofName "unit test" with dependsOn := [.ofName "build"] },
     { Goal.ofName "deploy" with
       environment := "1-staging", dependsOn := [.ofName "unit test", .ofName "build"] }]

theorem stagedSet_toldApart : ToldApart stagedSet := ⟨by decide +kernel, by decide +kernel⟩

/-- Both environments contain the separator, and still all goals have nodes of their own. -/
theorem stagedSet_nodes_told_apart :
    ToldApart stagedSet ∧
      (∀ a ∈ drawn stagedSet, ∀ b ∈ drawn stagedSet,
        a.uniqueName ≠ b.uniqueName → nodeId a ≠ nodeId b) ∧
      edges stagedSet =
        [("0_code_build", "0_code_unit_test"), ("0_code_unit_test", "1_staging_deploy"),
         ("0_code_build", "1_staging_deploy")] :=
  ⟨stagedSet_toldApart, (nodes_are_told_apart stagedSet_toldApart).1, by decide +kernel⟩

/-- Two checks whose names differ in a character that an identifier cannot carry; the
report waits for the second of them. -/
def checksSet : GoalSet where
  name := "checks"
  goals :=
    [.ofName "lint-check", .ofName "lint.check",
     { Goal.ofName "report" with dependsOn := [.ofName "lint.check"] }]

/-- The two checks are drawn as one node, and in the graph the report waits for the first
check as much as for the second. -/
theorem checks_share_a_node :
    ¬ ((∀ a ∈ drawn checksSet, ∀ b ∈ drawn checksSet,
        a.uniqueName ≠ b.uniqueName → nodeId a ≠ nodeId b) ∨
      ∀ a ∈ drawn checksSet, ∀ b ∈ drawn checksSet, (nodeId a, nodeId b) ∈ edges checksSet →
        Precedes checksSet a.uniqueName b.uniqueName) := by
  unfold Precedes
  decide +kernel

end PushGoals.Graph
