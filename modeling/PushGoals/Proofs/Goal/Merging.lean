import PushGoals.Rule.Evaluation

/-!
# Names and locks of merged goal sets

Which goals a merge sets is a matter of their unique names.  The first goals of
each name bear the names that all of them bear, and goals whose names have
occurred already may be left out beforehand.  A merge sets the names of the
contributions up to the first locked one and is locked when any of them is;
enrichment does the same with two contributions.
-/

namespace PushGoals

namespace Goal

theorem mem_names_dedupeFrom {goals : List Goal} {seen : List String} {name : String} :
    name ∈ (dedupeFrom seen goals).map (·.uniqueName) ↔
      name ∉ seen ∧ name ∈ goals.map (·.uniqueName) := by
  induction goals generalizing seen with
  | nil => simp
  | cons g rest ih =>
      by_cases hg : g.uniqueName ∈ seen
      · rw [dedupeFrom_cons_of_mem rest hg, ih]
        constructor
        · exact fun h => ⟨h.1, List.mem_cons_of_mem _ h.2⟩
        · rintro ⟨hseen, hname⟩
          rcases List.mem_cons.mp hname with hhead | hrest
          · subst hhead
            exact absurd hg hseen
          · exact ⟨hseen, hrest⟩
      · rw [dedupeFrom_cons_of_not_mem rest hg, List.map_cons, List.mem_cons, ih, List.map_cons,
          List.mem_cons, List.mem_cons]
        by_cases hname : name = g.uniqueName
        · subst hname
          simp [hg]
        · simp [hname]

theorem mem_names_dedupe {goals : List Goal} {name : String} :
    name ∈ (dedupe goals).map (·.uniqueName) ↔ name ∈ goals.map (·.uniqueName) := by
  unfold dedupe
  rw [mem_names_dedupeFrom]
  simp

theorem dedupeFrom_append_of_seen {goals : List Goal} {seen : List String}
    (hseen : ∀ g ∈ goals, g.uniqueName ∈ seen) (rest : List Goal) :
    dedupeFrom seen (goals ++ rest) = dedupeFrom seen rest := by
  induction goals with
  | nil => rfl
  | cons g goals ih =>
      obtain ⟨hhead, htail⟩ := List.forall_mem_cons.mp hseen
      rw [List.cons_append, dedupeFrom_cons_of_mem _ hhead]
      exact ih htail

/-- Goals whose names stand before them may be left out. -/
theorem dedupeFrom_append_repeated {first repeated : List Goal} {seen : List String}
    (hnames : ∀ g ∈ repeated, g.uniqueName ∈ seen ∨ g.uniqueName ∈ first.map (·.uniqueName))
    (rest : List Goal) :
    dedupeFrom seen (first ++ (repeated ++ rest)) = dedupeFrom seen (first ++ rest) := by
  induction first generalizing seen with
  | nil =>
      rw [List.nil_append, List.nil_append]
      apply dedupeFrom_append_of_seen
      intro g hg
      rcases hnames g hg with hseen | hnone
      · exact hseen
      · cases hnone
  | cons f first ih =>
      by_cases hf : f.uniqueName ∈ seen
      · rw [List.cons_append, List.cons_append, dedupeFrom_cons_of_mem _ hf,
          dedupeFrom_cons_of_mem _ hf]
        apply ih
        intro g hg
        rcases hnames g hg with hseen | hname
        · exact .inl hseen
        · rcases List.mem_cons.mp hname with heq | hfirst
          · rw [heq]
            exact .inl hf
          · exact .inr hfirst
      · rw [List.cons_append, List.cons_append, dedupeFrom_cons_of_not_mem _ hf,
          dedupeFrom_cons_of_not_mem _ hf]
        congr 1
        apply ih
        intro g hg
        rcases hnames g hg with hseen | hname
        · exact .inl (List.mem_cons_of_mem _ hseen)
        · rcases List.mem_cons.mp hname with heq | hfirst
          · rw [heq]
            exact .inl List.mem_cons_self
          · exact .inr hfirst

end Goal

namespace Rule

variable {V : Type} [Contribution V]

@[simp] theorem combine_none_left (given : Option V) : combine none given = given := by
  cases given <;> rfl

@[simp] theorem combine_none_right (given : Option V) : combine given none = given := by
  cases given <;> rfl

end Rule

namespace GoalSet

theorem isSame_iff {a b : GoalSet} :
    a.isSame b = true ↔ a.name = b.name ∧ a.uniqueNames = b.uniqueNames ∧ a.locked = b.locked := by
  simp [isSame, and_assoc]

/-- The names of the goals in a result, which may be no set at all. -/
def namesOf (given : Option GoalSet) : List String := (given.map uniqueNames).getD []

@[simp] theorem namesOf_some (set : GoalSet) : namesOf (some set) = set.uniqueNames := rfl

@[simp] theorem namesOf_none : namesOf none = [] := rfl

@[simp] theorem closed_some (set : GoalSet) : Rule.closed (some set) = set.locked := rfl

@[simp] theorem closed_none : Rule.closed (none : Option GoalSet) = false := rfl

theorem any_locked_untilLocked (sets : List GoalSet) :
    (untilLocked sets).any (·.locked) = sets.any (·.locked) := by
  induction sets with
  | nil => rfl
  | cons set rest ih =>
      by_cases hlocked : set.locked = true
      · rw [untilLocked_cons_of_locked rest hlocked]
        simp [hlocked]
      · have hopen : set.locked = false := Bool.eq_false_iff.mpr hlocked
        rw [untilLocked_cons_of_open rest hopen]
        simp [hopen, ih]

theorem untilLocked_eq_nil_iff {sets : List GoalSet} : untilLocked sets = [] ↔ sets = [] := by
  cases sets with
  | nil => rfl
  | cons set rest =>
      by_cases hlocked : set.locked = true <;> simp [untilLocked, hlocked]

/-- What a result has to do with the contributions that it is made of. -/
structure Joins (contributions : List GoalSet) (given : Option GoalSet) : Prop where
  names : ∀ name, name ∈ namesOf given ↔ name ∈ (untilLocked contributions).flatMap uniqueNames
  closed : Rule.closed given = contributions.any (·.locked)
  none : contributions = [] → given = none

theorem joins_self (given : Option GoalSet) : Joins ([given].filterMap id) given := by
  cases given with
  | none => exact ⟨fun _ => Iff.rfl, rfl, fun _ => rfl⟩
  | some set =>
      refine ⟨?_, ?_, ?_⟩
      · intro name
        by_cases hlocked : set.locked = true <;> simp [untilLocked, hlocked]
      · simp
      · simp

theorem joins_merge (contributions : List GoalSet) :
    Joins contributions (merge contributions) := by
  have hnames (name : String) :
      name ∈ (Goal.dedupe ((untilLocked contributions).flatMap (·.goals))).map (·.uniqueName) ↔
        name ∈ (untilLocked contributions).flatMap uniqueNames := by
    rw [Goal.mem_names_dedupe, List.map_flatMap]
    rfl
  unfold merge
  by_cases hnone :
      ((Goal.dedupe ((untilLocked contributions).flatMap (·.goals))).isEmpty &&
        !(untilLocked contributions).any (·.locked)) = true
  · simp only [if_pos hnone]
    rw [Bool.and_eq_true, List.isEmpty_iff, Bool.not_eq_true', any_locked_untilLocked] at hnone
    refine ⟨?_, hnone.2.symm, fun _ => rfl⟩
    intro name
    rw [← hnames name, hnone.1]
    rfl
  · simp only [if_neg hnone]
    refine ⟨hnames, any_locked_untilLocked contributions, ?_⟩
    intro hempty
    subst hempty
    exact absurd rfl hnone

theorem goals_merge (contributions : List GoalSet) :
    ((merge contributions).map (·.goals)).getD [] =
      Goal.dedupe ((untilLocked contributions).flatMap (·.goals)) := by
  unfold merge
  by_cases hnone :
      ((Goal.dedupe ((untilLocked contributions).flatMap (·.goals))).isEmpty &&
        !(untilLocked contributions).any (·.locked)) = true
  · simp only [if_pos hnone]
    rw [Bool.and_eq_true, List.isEmpty_iff] at hnone
    exact hnone.1.symm
  · simp only [if_neg hnone]
    rfl

theorem joins_combine {base : Option GoalSet} (hopen : Rule.closed base = false)
    (extension : Option GoalSet) :
    Joins ([base, extension].filterMap id) (Rule.combine base extension) := by
  cases base with
  | none =>
      rw [Rule.combine_none_left]
      exact joins_self extension
  | some old =>
      cases extension with
      | none => exact joins_self (some old)
      | some added => exact joins_merge [old, added]

end GoalSet

end PushGoals
