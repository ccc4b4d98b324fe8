import PushGoals.Proofs.Guard.Formula
import PushGoals.Proofs.Text.Brackets
import PushGoals.Proofs.Text.Parts

/-!
# What names tell

The name of a formula is its literals' names, joined by `&&` within an alternative and
by `||` between alternatives; only a negation puts brackets around what it negates.
So a name shows how a formula was built as long as no alternatives are joined by `&&`,
no formula is empty and the texts that tests were given neither close brackets that
they did not open nor run into one another.  Readable formulas of one name answer
alike; other formulas may share a name and disagree.
-/

namespace PushGoals

open Brackets

/-! ## Names of tests -/

theorem before_inj {α : Type} {x : α} {a b s t : List α} (ha : x ∉ a) (hb : x ∉ b)
    (heq : a ++ x :: s = b ++ x :: t) : a = b ∧ s = t := by
  rcases List.append_eq_append_iff.mp heq with ⟨more, rfl, hrest⟩ | ⟨more, rfl, hrest⟩
  · cases more with
    | nil => simpa using hrest
    | cons y more =>
        obtain ⟨rfl, -⟩ := List.cons.inj hrest
        exact absurd (List.mem_append_right _ List.mem_cons_self) hb
  · cases more with
    | nil => simpa [eq_comm] using hrest
    | cons y more =>
        obtain ⟨rfl, -⟩ := List.cons.inj hrest
        exact absurd (List.mem_append_right _ List.mem_cons_self) ha

/-- A word and, in brackets, what stands beside it. -/
def labelled (word : String) : Option String → String
  | none => word
  | some body => word ++ "(" ++ body ++ ")"

theorem toList_labelled_some (word body : String) :
    (labelled word (some body)).toList = word.toList ++ '(' :: (body.toList ++ [')']) := by
  simp [labelled]

theorem labelled_inj {word other : String} {body otherBody : Option String}
    (hword : Plain word.toList) (hother : Plain other.toList)
    (heq : labelled word body = labelled other otherBody) : word = other ∧ body = otherBody := by
  have hchars := congrArg String.toList heq
  cases body with
  | none =>
      cases otherBody with
      | none => exact ⟨heq, rfl⟩
      | some otherBody =>
          rw [toList_labelled_some] at hchars
          exact absurd (by rw [labelled] at hchars; simp [hchars]) hword.1
  | some body =>
      cases otherBody with
      | none =>
          rw [toList_labelled_some] at hchars
          exact absurd (by rw [labelled] at hchars; simp [← hchars]) hother.1
      | some otherBody =>
          rw [toList_labelled_some, toList_labelled_some] at hchars
          obtain ⟨hwords, hbodies⟩ := before_inj hword.1 hother.1 hchars
          rw [String.toList_inj.mp hwords, String.toList_inj.mp (List.append_cancel_right hbodies)]
          exact ⟨rfl, rfl⟩

theorem showing_labelled {P : Char → Prop} {word : String} {body : Option String}
    (hword : Plain word.toList) (hshown : ∀ x ∈ word.toList, P x)
    (hbody : ∀ text, body = some text → Balanced text.toList) :
    Showing P (labelled word body).toList := by
  have hplain := Showing.plain hword hshown
  cases body with
  | none => exact hplain
  | some body =>
      rw [toList_labelled_some]
      exact hplain.append (Showing.enclosed (hbody body rfl))

namespace StandardTest

/-- The word that the name of a test begins with. -/
def word : StandardTest → String
  | onAnyPush => "onAnyPush"
  | toDefaultBranch => "toDefaultBranch"
  | toBranch _ => "toBranch"
  | toBranchMatching _ => "toBranchMatching"
  | isRepo _ _ => "isRepo"
  | hasCommitMessageMatching _ => "hasCommitMessageMatching"
  | hasFile _ => "hasFile"
  | hasFileContaining _ _ => "hasFileContaining"
  | isMaterialChange _ => "isMaterialChange"

/-- What the name of a test holds in brackets. -/
def argument? : StandardTest → Option String
  | onAnyPush => none
  | toDefaultBranch => none
  | toBranch branch => some branch
  | toBranchMatching pattern => some pattern.source
  | isRepo owner name => some (owner ++ "/" ++ name)
  | hasCommitMessageMatching pattern => some pattern.source
  | hasFile path => some path
  | hasFileContaining path pattern => some (path ++ ", " ++ pattern.source)
  | isMaterialChange extensions => some (",".intercalate extensions)

/-- The texts in brackets can be told apart, and patterns are what their text says. -/
def Separated : StandardTest → Prop
  | onAnyPush => True
  | toDefaultBranch => True
  | toBranch _ => True
  | toBranchMatching pattern => Regex.compile? pattern.source = some pattern
  | isRepo owner _ => '/' ∉ owner.toList
  | hasCommitMessageMatching pattern => Regex.compile? pattern.source = some pattern
  | hasFile _ => True
  | hasFileContaining path pattern =>
      ¬[',', ' '] <:+: path.toList ∧ Regex.compile? pattern.source = some pattern
  | isMaterialChange extensions => extensions ≠ [""] ∧ ∀ ext ∈ extensions, ',' ∉ ext.toList

structure Readable (t : StandardTest) : Prop where
  balanced : ∀ text, t.argument? = some text → Balanced text.toList
  separated : t.Separated

theorem name_test (t : StandardTest) : t.test.name = labelled t.word t.argument? := by
  cases t <;> rfl

theorem plain_word (t : StandardTest) : Plain t.word.toList := by
  cases t <;> (simp only [word]; decide +kernel)

theorem word_shows (t : StandardTest) : ∀ x ∈ t.word.toList, x ≠ '&' ∧ x ≠ '|' ∧ x ≠ ' ' := by
  cases t <;> simp [word]

theorem parts_extensions {extensions : List String} (hne : extensions ≠ [])
    (hcomma : ∀ ext ∈ extensions, ',' ∉ ext.toList) :
    Text.parts ',' (",".intercalate extensions) = extensions :=
  Text.parts_intercalate_of_free hne hcomma

theorem extensions_eq_nil {extensions : List String} (hsep : extensions ≠ [""])
    (hcomma : ∀ ext ∈ extensions, ',' ∉ ext.toList) (hname : ",".intercalate extensions = "") :
    extensions = [] := by
  by_contra hne
  have hparts := parts_extensions hne hcomma
  rw [hname, Text.parts_eq_singleton (by simp)] at hparts
  exact hsep hparts.symm

theorem extensions_inj {extensions others : List String} (hsep : extensions ≠ [""])
    (hsep' : others ≠ [""]) (hcomma : ∀ ext ∈ extensions, ',' ∉ ext.toList)
    (hcomma' : ∀ ext ∈ others, ',' ∉ ext.toList)
    (heq : ",".intercalate extensions = ",".intercalate others) : extensions = others := by
  by_cases hne : extensions = []
  · subst extensions
    exact (extensions_eq_nil hsep' hcomma' heq.symm).symm
  · by_cases hne' : others = []
    · subst others
      exact extensions_eq_nil hsep hcomma heq
    · rw [← parts_extensions hne hcomma, heq, parts_extensions hne' hcomma']

/-- What is joined to a path by the separator is no more of the path. -/
theorem eq_nil_of_path {path more source : List Char} {rest : List Char}
    (hpath : ¬[',', ' '] <:+: path ++ more)
    (heq : ',' :: ' ' :: rest = more ++ ',' :: ' ' :: source) : more = [] := by
  cases more with
  | nil => rfl
  | cons x more =>
      obtain ⟨rfl, hrest⟩ := List.cons.inj heq
      cases more with
      | nil => cases hrest
      | cons y more =>
          obtain ⟨rfl, -⟩ := List.cons.inj hrest
          exact absurd ⟨path, more, by simp⟩ hpath

theorem path_inj {path other source otherSource : String} (hpath : ¬[',', ' '] <:+: path.toList)
    (hother : ¬[',', ' '] <:+: other.toList)
    (heq : path ++ ", " ++ source = other ++ ", " ++ otherSource) :
    path = other ∧ source = otherSource := by
  have hchars := congrArg String.toList heq
  simp only [String.toList_append, List.append_assoc] at hchars
  rw [← String.toList_inj, ← String.toList_inj]
  rcases List.append_eq_append_iff.mp hchars with ⟨more, hmore, hrest⟩ | ⟨more, hmore, hrest⟩
  · have hnil := eq_nil_of_path (hmore ▸ hother) hrest
    subst hnil
    exact ⟨by simpa using hmore.symm, (List.cons.inj (List.cons.inj hrest).2).2⟩
  · have hnil := eq_nil_of_path (hmore ▸ hpath) hrest
    subst hnil
    exact ⟨by simpa using hmore, (List.cons.inj (List.cons.inj hrest).2).2.symm⟩

theorem owner_inj {owner other name otherName : String} (howner : '/' ∉ owner.toList)
    (hother : '/' ∉ other.toList) (heq : owner ++ "/" ++ name = other ++ "/" ++ otherName) :
    owner = other ∧ name = otherName := by
  have hchars := congrArg String.toList heq
  simp only [String.toList_append, List.append_assoc] at hchars
  obtain ⟨howners, hnames⟩ := before_inj howner hother hchars
  exact ⟨String.toList_inj.mp howners, String.toList_inj.mp hnames⟩

theorem pattern_inj {pattern other : Regex}
    (hpattern : Regex.compile? pattern.source = some pattern)
    (hother : Regex.compile? other.source = some other)
    (heq : pattern.source = other.source) : pattern = other := by
  rw [heq, hother] at hpattern
  exact (Option.some.inj hpattern).symm

/-- Readable tests of one name are one test. -/
theorem eq_of_name {s t : StandardTest} (hs : s.Separated) (ht : t.Separated)
    (heq : s.test.name = t.test.name) : s = t := by
  rw [name_test, name_test] at heq
  obtain ⟨hword, hargument⟩ := labelled_inj s.plain_word t.plain_word heq
  cases s <;> cases t <;> simp only [word, String.reduceEq] at hword
  all_goals simp only [argument?, Option.some.injEq] at hargument
  case onAnyPush.onAnyPush => rfl
  case toDefaultBranch.toDefaultBranch => rfl
  case toBranch.toBranch => rw [hargument]
  case hasFile.hasFile => rw [hargument]
  case toBranchMatching.toBranchMatching => rw [pattern_inj hs ht hargument]
  case hasCommitMessageMatching.hasCommitMessageMatching => rw [pattern_inj hs ht hargument]
  case isRepo.isRepo =>
    obtain ⟨rfl, rfl⟩ := owner_inj hs ht hargument
    rfl
  case hasFileContaining.hasFileContaining =>
    obtain ⟨rfl, hsource⟩ := path_inj hs.1 ht.1 hargument
    rw [pattern_inj hs.2 ht.2 hsource]
  case isMaterialChange.isMaterialChange =>
    rw [extensions_inj hs.1 ht.1 hs.2 ht.2 hargument]

end StandardTest

/-! ## Formulas as alternatives -/

/-- A test or a negation. -/
inductive Literal where
  | test (t : StandardTest)
  | negation (inner : Formula)

def Literal.formula : Literal → Formula
  | test t => .test t
  | negation inner => .negation inner

def Literal.name (literal : Literal) : String := literal.formula.guard.name

def Literal.verdict (literal : Literal) (ctx : Context) : Except GoalError Bool :=
  literal.formula.verdict ctx

namespace Formula

mutual

/-- The alternatives that the name of a formula shows, each as its literals. -/
def alternatives : Formula → List (List Literal)
  | test t => [[.test t]]
  | negation inner => [[.negation inner]]
  | all parts => [(alternativesAmong parts).flatten]
  | any parts => alternativesAmong parts

def alternativesAmong : List Formula → List (List Literal)
  | [] => []
  | part :: rest => alternatives part ++ alternativesAmong rest

end

mutual

/-- A formula whose name shows how it was built. -/
def Readable : Formula → Prop
  | test t => t.Readable
  | negation inner => Readable inner
  | all parts => parts ≠ [] ∧ (∀ part ∈ parts, (alternatives part).length = 1) ∧ ReadableEach parts
  | any parts => parts ≠ [] ∧ ReadableEach parts

def ReadableEach : List Formula → Prop
  | [] => True
  | part :: rest => Readable part ∧ ReadableEach rest

end

@[simp] theorem alternativesAmong_eq_flatMap (parts : List Formula) :
    alternativesAmong parts = parts.flatMap alternatives := by
  induction parts with
  | nil => rfl
  | cons part rest ih => rw [alternativesAmong, ih, List.flatMap_cons]

@[simp] theorem readableEach_iff {parts : List Formula} :
    ReadableEach parts ↔ ∀ part ∈ parts, part.Readable := by
  induction parts with
  | nil => simp [ReadableEach]
  | cons part rest ih => simp [ReadableEach, ih]

variable {formula other : Formula} {ctx : Context}

theorem literals_readable (hreadable : formula.Readable) :
    ∀ group ∈ formula.alternatives, ∀ literal ∈ group, literal.formula.Readable := by
  induction formula using Formula.induct with
  | test t =>
      simp only [alternatives, List.mem_singleton, forall_eq]
      exact hreadable
  | negation inner _ =>
      simp only [alternatives, List.mem_singleton, forall_eq]
      exact hreadable
  | all parts ih =>
      obtain ⟨-, -, hparts⟩ := hreadable
      rw [readableEach_iff] at hparts
      simp only [alternatives, alternativesAmong_eq_flatMap, List.mem_singleton, forall_eq,
        List.mem_flatten, List.mem_flatMap]
      rintro literal ⟨group, ⟨part, hpart, hgroup⟩, hliteral⟩
      exact ih part hpart (hparts part hpart) group hgroup literal hliteral
  | any parts ih =>
      obtain ⟨-, hparts⟩ := hreadable
      rw [readableEach_iff] at hparts
      rw [alternatives, alternativesAmong_eq_flatMap, List.forall_mem_flatMap]
      exact fun part hpart => ih part hpart (hparts part hpart)

/-- A readable formula has an alternative, and none is empty. -/
theorem alternatives_nonempty (hreadable : formula.Readable) :
    formula.alternatives ≠ [] ∧ ∀ group ∈ formula.alternatives, group ≠ [] := by
  induction formula using Formula.induct with
  | test t => simp [alternatives]
  | negation inner _ => simp [alternatives]
  | all parts ih =>
      obtain ⟨hne, hsingle, hparts⟩ := hreadable
      rw [readableEach_iff] at hparts
      obtain ⟨part, hpart⟩ := List.exists_mem_of_ne_nil _ hne
      obtain ⟨group, hgroup⟩ := List.exists_mem_of_ne_nil _ (ih part hpart (hparts part hpart)).1
      have hliterals := (ih part hpart (hparts part hpart)).2 group hgroup
      simp only [alternatives, alternativesAmong_eq_flatMap, List.mem_singleton, forall_eq,
        ne_eq, List.cons_ne_self, not_false_eq_true, true_and]
      intro hnil
      rw [List.flatten_eq_nil_iff] at hnil
      exact hliterals (hnil group (List.mem_flatMap_of_mem hpart hgroup))
  | any parts ih =>
      obtain ⟨hne, hparts⟩ := hreadable
      rw [readableEach_iff] at hparts
      obtain ⟨part, hpart⟩ := List.exists_mem_of_ne_nil _ hne
      rw [alternatives, alternativesAmong_eq_flatMap, List.forall_mem_flatMap]
      refine ⟨fun hnil => ?_, fun part hpart => (ih part hpart (hparts part hpart)).2⟩
      exact (ih part hpart (hparts part hpart)).1 (List.flatMap_eq_nil_iff.mp hnil part hpart)

/-! ## Names of formulas -/

theorem name_memoize (guard : Guard) : guard.memoize.name = guard.name := by
  unfold Guard.memoize Guard.memoizeIn
  split <;> rfl

theorem names_guards (parts : List Formula) :
    Guard.names ((guards parts).map Guard.memoize) = parts.map fun part => part.guard.name := by
  induction parts with
  | nil => rfl
  | cons part rest ih => rw [guards, List.map_cons, Guard.names, ih, name_memoize, List.map_cons]

theorem name_all (parts : List Formula) :
    (all parts).guard.name = " && ".intercalate (parts.map fun part => part.guard.name) := by
  rw [← names_guards]
  rfl

theorem name_any (parts : List Formula) :
    (any parts).guard.name = " || ".intercalate (parts.map fun part => part.guard.name) := by
  rw [← names_guards]
  rfl

/-- Joining what was joined is joining everything. -/
theorem intercalate_flatten (sep : String) {groups : List (List String)}
    (hgroups : ∀ group ∈ groups, group ≠ []) :
    sep.intercalate (groups.map sep.intercalate) = sep.intercalate groups.flatten := by
  induction groups with
  | nil => rfl
  | cons group rest ih =>
      obtain ⟨hgroup, hrest⟩ := List.forall_mem_cons.mp hgroups
      cases rest with
      | nil => simp
      | cons next rest =>
          have hne : (next :: rest).flatten ≠ [] := by
            obtain ⟨hnext, -⟩ := List.forall_mem_cons.mp hrest
            simp [hnext]
          calc
            sep.intercalate ((group :: next :: rest).map sep.intercalate) =
                sep.intercalate group ++ sep ++
                  sep.intercalate ((next :: rest).map sep.intercalate) := by
              rw [List.map_cons, List.map_cons, String.intercalate_cons_cons]
            _ = sep.intercalate group ++ sep ++ sep.intercalate (next :: rest).flatten := by
              rw [ih hrest]
            _ = sep.intercalate (group :: next :: rest).flatten :=
              (String.intercalate_append_of_ne_nil hgroup hne).symm

/-- The name of one alternative. -/
def groupName (group : List Literal) : String := " && ".intercalate (group.map Literal.name)

theorem name_eq_alternatives (hreadable : formula.Readable) :
    formula.guard.name = " || ".intercalate (formula.alternatives.map groupName) := by
  induction formula using Formula.induct with
  | test t => simp [alternatives, groupName, Literal.name, Literal.formula]
  | negation inner _ => simp [alternatives, groupName, Literal.name, Literal.formula]
  | all parts ih =>
      obtain ⟨-, hsingle, hparts⟩ := hreadable
      rw [readableEach_iff] at hparts
      have hname (part : Formula) (hpart : part ∈ parts) :
          part.guard.name = " && ".intercalate (part.alternatives.flatten.map Literal.name) := by
        obtain ⟨group, hgroup⟩ := List.length_eq_one_iff.mp (hsingle part hpart)
        rw [ih part hpart (hparts part hpart), hgroup]
        simp [groupName]
      have hgroups : ∀ names ∈ parts.map (fun part => part.alternatives.flatten.map Literal.name),
          names ≠ [] := by
        rw [List.forall_mem_map]
        intro part hpart
        obtain ⟨group, hgroup⟩ := List.length_eq_one_iff.mp (hsingle part hpart)
        have hne := (alternatives_nonempty (hparts part hpart)).2 group (by simp [hgroup])
        simpa [hgroup] using hne
      rw [name_all, List.map_congr_left hname]
      have hjoin := intercalate_flatten " && " hgroups
      rw [List.map_map] at hjoin
      rw [alternatives, alternativesAmong_eq_flatMap]
      simp only [List.map_cons, List.map_nil, String.intercalate_singleton, groupName]
      refine hjoin.trans ?_
      congr 1
      simp [List.flatMap, List.map_flatten, List.flatten_flatten, Function.comp_def]
  | any parts ih =>
      obtain ⟨-, hparts⟩ := hreadable
      rw [readableEach_iff] at hparts
      have hgroups : ∀ names ∈ parts.map (fun part => part.alternatives.map groupName),
          names ≠ [] := by
        rw [List.forall_mem_map]
        intro part hpart
        simpa using (alternatives_nonempty (hparts part hpart)).1
      rw [name_any, List.map_congr_left fun part hpart => ih part hpart (hparts part hpart)]
      have hjoin := intercalate_flatten " || " hgroups
      rw [List.map_map] at hjoin
      rw [alternatives, alternativesAmong_eq_flatMap, List.map_flatMap]
      exact hjoin

theorem balanced_name (hreadable : formula.Readable) : Balanced formula.guard.name.toList := by
  have hjoined {parts : List Formula} {sep : String} (hsep : Plain sep.toList)
      (hparts : ∀ part ∈ parts, Balanced part.guard.name.toList) :
      Balanced (sep.intercalate (parts.map fun part => part.guard.name)).toList := by
    rw [String.toList_intercalate]
    apply (Showing.intercalate (P := fun _ => True) (.plain hsep fun _ _ => trivial) _).balanced
    rw [List.map_map, List.forall_mem_map]
    exact fun part hpart => ⟨hparts part hpart, fun _ _ => trivial⟩
  induction formula using Formula.induct with
  | test t =>
      change Balanced t.test.name.toList
      rw [t.name_test]
      exact (showing_labelled (P := fun _ => True) t.plain_word (fun _ _ => trivial)
        hreadable.balanced).balanced
  | negation inner ih =>
      change Balanced (labelled "not " (some inner.guard.name)).toList
      apply (showing_labelled (P := fun _ => True) (by decide) (fun _ _ => trivial) _).balanced
      rintro _ ⟨⟩
      exact ih hreadable
  | all parts ih =>
      obtain ⟨-, -, hparts⟩ := hreadable
      rw [readableEach_iff] at hparts
      rw [name_all]
      exact hjoined (by decide) fun part hpart => ih part hpart (hparts part hpart)
  | any parts ih =>
      obtain ⟨-, hparts⟩ := hreadable
      rw [readableEach_iff] at hparts
      rw [name_any]
      exact hjoined (by decide) fun part hpart => ih part hpart (hparts part hpart)

end Formula

namespace Literal

variable {literal other : Literal}

theorem name_showing (hreadable : literal.formula.Readable) :
    Showing (fun x => x ≠ '&' ∧ x ≠ '|') literal.name.toList := by
  cases literal with
  | test t =>
      change Showing _ t.test.name.toList
      rw [t.name_test]
      exact showing_labelled t.plain_word
        (fun x hx => ⟨(t.word_shows x hx).1, (t.word_shows x hx).2.1⟩) hreadable.balanced
  | negation inner =>
      change Showing _ (labelled "not " (some inner.guard.name)).toList
      apply showing_labelled (by decide) (by simp)
      rintro _ ⟨⟩
      exact Formula.balanced_name hreadable

/-- Literals of one name are one test, or negate formulas of one name. -/
theorem eq_of_name (hreadable : literal.formula.Readable) (hother : other.formula.Readable)
    (heq : literal.name = other.name) :
    literal = other ∨ ∃ inner otherInner, literal = negation inner ∧ other = negation otherInner ∧
      inner.guard.name = otherInner.guard.name := by
  have hnegation (inner : Formula) :
      (negation inner).name = labelled "not " (some inner.guard.name) := rfl
  have hspace (t : StandardTest) : t.word ≠ "not " :=
    fun hword => (t.word_shows ' ' (by rw [hword]; decide)).2.2 rfl
  cases literal with
  | test t =>
      have ht : (test t).name = labelled t.word t.argument? := t.name_test
      cases other with
      | test t' => exact .inl (by rw [StandardTest.eq_of_name hreadable.separated hother.separated heq])
      | negation inner =>
          rw [ht, hnegation] at heq
          exact absurd (labelled_inj t.plain_word (by decide) heq).1 (hspace t)
  | negation inner =>
      cases other with
      | test t =>
          have ht : (test t).name = labelled t.word t.argument? := t.name_test
          rw [ht, hnegation] at heq
          exact absurd (labelled_inj (by decide) t.plain_word heq).1.symm (hspace t)
      | negation otherInner =>
          rw [hnegation, hnegation] at heq
          have hinner := (labelled_inj (by decide) (by decide) heq).2
          exact .inr ⟨inner, otherInner, rfl, rfl, Option.some.inj hinner⟩

end Literal

namespace Formula

variable {formula other : Formula} {ctx : Context}

/-! ## Verdicts by alternatives -/

theorem gather_flatten (join : List Bool → Bool)
    (hjoin : ∀ groups : List (List Bool), join groups.flatten = join (groups.map join))
    (groups : List (List (Except GoalError Bool))) :
    (Eval.collect groups.flatten).map join =
      (Eval.collect (groups.map fun group => (Eval.collect group).map join)).map join := by
  have hgroups : (groups.map fun group => (Eval.collect group).map join) =
      (groups.map Eval.collect).map (Except.map join) := by
    rw [List.map_map]
    rfl
  rw [Eval.collect_flatten, hgroups, Eval.collect_map]
  cases Eval.collect (groups.map Eval.collect) with
  | error e => rfl
  | ok values => exact congrArg Except.ok (hjoin values)

theorem gather_singleton {join : List Bool → Bool} (hjoin : ∀ b, join [b] = b)
    (answer : Except GoalError Bool) : (Eval.collect [answer]).map join = answer := by
  cases answer with
  | error e => rfl
  | ok b => exact congrArg Except.ok (hjoin b)

theorem all_flatten (groups : List (List Bool)) :
    groups.flatten.all id = (groups.map (·.all id)).all id := by
  rw [List.all_flatten, List.all_map]
  rfl

theorem any_flatten (groups : List (List Bool)) :
    groups.flatten.any id = (groups.map (·.any id)).any id := by
  rw [List.any_flatten, List.any_map]
  rfl

/-- What one alternative answers. -/
def groupVerdict (ctx : Context) (group : List Literal) : Except GoalError Bool :=
  (Eval.collect (group.map fun literal => literal.verdict ctx)).map (·.all id)

theorem verdict_eq_alternatives (hreadable : formula.Readable) (ctx : Context) :
    formula.verdict ctx =
      (Eval.collect (formula.alternatives.map (groupVerdict ctx))).map (·.any id) := by
  have hone (group : List Literal) :
      (Eval.collect ([group].map (groupVerdict ctx))).map (·.any id) = groupVerdict ctx group :=
    gather_singleton (by simp) _
  have hliteral (literal : Literal) : groupVerdict ctx [literal] = literal.verdict ctx :=
    gather_singleton (by simp) _
  induction formula using Formula.induct with
  | test t => exact ((hone _).trans (hliteral (.test t))).symm
  | negation inner _ => exact ((hone _).trans (hliteral (.negation inner))).symm
  | all parts ih =>
      obtain ⟨-, hsingle, hparts⟩ := hreadable
      rw [readableEach_iff] at hparts
      have hpart (part : Formula) (hpart : part ∈ parts) :
          part.verdict ctx = groupVerdict ctx part.alternatives.flatten := by
        obtain ⟨group, hgroup⟩ := List.length_eq_one_iff.mp (hsingle part hpart)
        rw [ih part hpart (hparts part hpart), hgroup, hone]
        simp
      have hgather := gather_flatten (·.all id) all_flatten
        (parts.map fun part => part.alternatives.flatten.map fun literal => literal.verdict ctx)
      rw [List.map_map] at hgather
      rw [verdict_all, List.map_congr_left hpart, alternatives, hone, groupVerdict]
      refine hgather.symm.trans ?_
      simp [List.flatMap, List.map_flatten, List.flatten_flatten, Function.comp_def]
  | any parts ih =>
      obtain ⟨-, hparts⟩ := hreadable
      rw [readableEach_iff] at hparts
      have hgather := gather_flatten (·.any id) any_flatten
        (parts.map fun part => part.alternatives.map (groupVerdict ctx))
      rw [List.map_map] at hgather
      rw [verdict_any, List.map_congr_left fun part hpart => ih part hpart (hparts part hpart),
        alternatives, alternativesAmong_eq_flatMap, List.map_flatMap]
      exact hgather.symm

/-! ## Formulas of one name -/

/-- Every readable formula of the same name answers alike. -/
def Unambiguous (formula : Formula) : Prop :=
  ∀ other : Formula, other.Readable → formula.guard.name = other.guard.name →
    ∀ ctx, formula.verdict ctx = other.verdict ctx

theorem map_congr_of_map_eq {α β γ : Type} {name : α → β} {meaning : α → γ} {list others : List α}
    (hnames : list.map name = others.map name)
    (hsame : ∀ a ∈ list, ∀ b ∈ others, name a = name b → meaning a = meaning b) :
    list.map meaning = others.map meaning := by
  induction list generalizing others with
  | nil =>
      cases others with
      | nil => rfl
      | cons b others => cases hnames
  | cons a list ih =>
      cases others with
      | nil => cases hnames
      | cons b others =>
          obtain ⟨hhead, hrest⟩ := List.cons.inj hnames
          rw [List.map_cons, List.map_cons, hsame a List.mem_cons_self b List.mem_cons_self hhead,
            ih hrest fun a ha b hb =>
              hsame a (List.mem_cons_of_mem _ ha) b (List.mem_cons_of_mem _ hb)]

theorem toList_groupName (group : List Literal) :
    (groupName group).toList =
      [' ', '&', '&', ' '].intercalate (group.map fun literal => literal.name.toList) := by
  rw [groupName, String.toList_intercalate, List.map_map]
  rfl

theorem groupName_showing {group : List Literal}
    (hgroup : ∀ literal ∈ group, literal.formula.Readable) :
    Showing (· ≠ '|') (groupName group).toList := by
  rw [toList_groupName]
  apply Showing.intercalate (.plain (by decide) (by simp))
  rw [List.forall_mem_map]
  exact fun literal hliteral =>
    (Literal.name_showing (hgroup literal hliteral)).mono fun _ hx => hx.2

/-- Alternatives of one name answer alike when what their literals negate does. -/
theorem groupVerdict_congr {group others : List Literal} (hne : group ≠ []) (hne' : others ≠ [])
    (hgroup : ∀ literal ∈ group, literal.formula.Readable)
    (hothers : ∀ literal ∈ others, literal.formula.Readable)
    (hnegated : ∀ inner, .negation inner ∈ group → Unambiguous inner)
    (heq : groupName group = groupName others) (ctx : Context) :
    groupVerdict ctx group = groupVerdict ctx others := by
  have hnames : (group.map fun literal => literal.name.toList) =
      others.map fun literal => literal.name.toList := by
    have hchars := congrArg String.toList heq
    rw [toList_groupName, toList_groupName] at hchars
    refine words_inj (by decide) ?_ ?_ (by simpa using hne) (by simpa using hne') hchars
    · rw [List.forall_mem_map]
      exact fun literal hliteral =>
        (Literal.name_showing (hgroup literal hliteral)).mono fun _ hx => hx.1
    · rw [List.forall_mem_map]
      exact fun literal hliteral =>
        (Literal.name_showing (hothers literal hliteral)).mono fun _ hx => hx.1
  have hverdicts : (group.map fun literal => literal.verdict ctx) =
      others.map fun literal => literal.verdict ctx := by
    apply map_congr_of_map_eq hnames
    intro literal hliteral other hother hname
    rcases Literal.eq_of_name (hgroup literal hliteral) (hothers other hother)
      (String.toList_inj.mp hname) with rfl | ⟨inner, otherInner, rfl, rfl, hinner⟩
    · rfl
    · have hsame := hnegated inner hliteral otherInner (hothers _ hother) hinner ctx
      simp only [Literal.verdict, Literal.formula, verdict_negation, hsame]
  rw [groupVerdict, groupVerdict, hverdicts]

theorem unambiguous_of_literals (hreadable : formula.Readable)
    (hnegated : ∀ group ∈ formula.alternatives, ∀ inner, .negation inner ∈ group →
      Unambiguous inner) : Unambiguous formula := by
  intro other hother hname ctx
  obtain ⟨hne, hgroups⟩ := alternatives_nonempty hreadable
  obtain ⟨hne', hgroups'⟩ := alternatives_nonempty hother
  have hliterals := literals_readable hreadable
  have hliterals' := literals_readable hother
  have hnames : (formula.alternatives.map fun group => (groupName group).toList) =
      other.alternatives.map fun group => (groupName group).toList := by
    rw [name_eq_alternatives hreadable, name_eq_alternatives hother, ← String.toList_inj,
      String.toList_intercalate, String.toList_intercalate, List.map_map, List.map_map] at hname
    refine words_inj (by decide) ?_ ?_ (by simpa using hne) (by simpa using hne') hname
    · rw [List.forall_mem_map]
      exact fun group hgroup => groupName_showing (hliterals group hgroup)
    · rw [List.forall_mem_map]
      exact fun group hgroup => groupName_showing (hliterals' group hgroup)
  rw [verdict_eq_alternatives hreadable, verdict_eq_alternatives hother]
  congr 2
  apply map_congr_of_map_eq hnames
  intro group hgroup others hothers hsame
  exact groupVerdict_congr (hgroups group hgroup) (hgroups' others hothers)
    (hliterals group hgroup) (hliterals' others hothers) (hnegated group hgroup)
    (String.toList_inj.mp hsame) ctx

/-- What a readable formula negates, at whatever place, is unambiguous. -/
theorem negated_unambiguous (hreadable : formula.Readable) :
    ∀ group ∈ formula.alternatives, ∀ inner, .negation inner ∈ group → Unambiguous inner := by
  induction formula using Formula.induct with
  | test t => simp [alternatives]
  | negation inner ih =>
      intro group hgroup other hother
      obtain rfl := List.mem_singleton.mp hgroup
      obtain ⟨⟩ := List.mem_singleton.mp hother
      exact unambiguous_of_literals hreadable (ih hreadable)
  | all parts ih =>
      obtain ⟨-, -, hparts⟩ := hreadable
      rw [readableEach_iff] at hparts
      intro group hgroup inner hinner
      obtain rfl := List.mem_singleton.mp hgroup
      rw [alternativesAmong_eq_flatMap] at hinner
      obtain ⟨group, hgroup, hmem⟩ := List.mem_flatten.mp hinner
      obtain ⟨part, hpart, hgroup⟩ := List.mem_flatMap.mp hgroup
      exact ih part hpart (hparts part hpart) group hgroup inner hmem
  | any parts ih =>
      obtain ⟨-, hparts⟩ := hreadable
      rw [readableEach_iff] at hparts
      rw [alternatives, alternativesAmong_eq_flatMap, List.forall_mem_flatMap]
      exact fun part hpart => ih part hpart (hparts part hpart)

/-- Readable formulas of one name answer alike on every push. -/
theorem name_identifies (hreadable : formula.Readable) (hother : other.Readable)
    (hname : formula.guard.name = other.guard.name) (ctx : Context) (p : Pass) :
    formula.guard.direct ctx p = other.guard.direct ctx p := by
  have hunambiguous := unambiguous_of_literals hreadable (negated_unambiguous hreadable)
  rw [direct_eq_verdict, direct_eq_verdict, hunambiguous other hother hname ctx]

theorem compile?_source {source : String} {pattern : Regex}
    (hcompile : Regex.compile? source = some pattern) : pattern.source = source := by
  simp only [Regex.compile?, Option.bind_eq_bind, Option.bind_eq_some_iff] at hcompile
  obtain ⟨⟨part, cursor⟩, -, hpattern⟩ := hcompile
  split at hpattern
  · cases hpattern
    rfl
  · cases hpattern

/-- Text that names a package, or any text after it in brackets. -/
def package : Regex := (Regex.compile? "serde(_json)?").get (by decide +kernel)

theorem compile?_package : Regex.compile? package.source = some package := by
  have hcompile : Regex.compile? "serde(_json)?" = some package := (Option.some_get _).symm
  rw [compile?_source hcompile, hcompile]

def manifestTest : Formula := test (.hasFileContaining "Cargo.toml" package)

def sourcesTest : Formula := test (.isMaterialChange ["rs", "toml"])

theorem manifestTest_readable : manifestTest.Readable := by
  constructor
  · rintro _ ⟨⟩
    decide +kernel
  · exact ⟨by decide +kernel, compile?_package⟩

theorem sourcesTest_readable : sourcesTest.Readable := by
  constructor
  · rintro _ ⟨⟩
    decide +kernel
  · exact ⟨by decide, by decide⟩

theorem hasFile_readable {path : String} (hpath : Balanced path.toList) :
    StandardTest.Readable (.hasFile path) := by
  refine ⟨?_, trivial⟩
  rintro _ ⟨⟩
  exact hpath

/-- Conjunctions and alternatives grouped from the right. -/
def groupedRight : Formula :=
  any [all [manifestTest, all [sourcesTest, test (.hasFile "build.rs")]],
    any [negation (any [sourcesTest, manifestTest]), test (.hasFile "Makefile")]]

/-- Conjunctions and alternatives grouped from the left. -/
def groupedLeft : Formula :=
  any [any [all [all [manifestTest, sourcesTest], test (.hasFile "build.rs")],
    negation (any [any [sourcesTest], manifestTest])], test (.hasFile "Makefile")]

theorem regrouping_keeps_answers :
    groupedRight.Readable ∧ groupedLeft.Readable ∧
      groupedRight.guard.cost = .expensive ∧ groupedLeft.guard.cost = .expensive ∧
      groupedRight.guard.name = groupedLeft.guard.name ∧
      ∀ ctx p, groupedRight.guard.direct ctx p = groupedLeft.guard.direct ctx p := by
  have hbuild : StandardTest.Readable (.hasFile "build.rs") := hasFile_readable (by decide +kernel)
  have hmake : StandardTest.Readable (.hasFile "Makefile") := hasFile_readable (by decide +kernel)
  have hmanifest : manifestTest.alternatives.length = 1 := rfl
  have hsources : sourcesTest.alternatives.length = 1 := rfl
  have hright : groupedRight.Readable := by
    simp [groupedRight, Readable, alternatives, hmanifest, hsources, manifestTest_readable,
      sourcesTest_readable, hbuild, hmake]
  have hleft : groupedLeft.Readable := by
    simp [groupedLeft, Readable, alternatives, hmanifest, hsources, manifestTest_readable,
      sourcesTest_readable, hbuild, hmake]
  have hname : groupedRight.guard.name = groupedLeft.guard.name := by decide +kernel
  exact ⟨hright, hleft, rfl, rfl, hname, fun ctx p => name_identifies hright hleft hname ctx p⟩

/-! ## Formulas that share a name -/

/-- A file `a` beside a file `b`, or a file `c`. -/
def pairOrLast : Formula :=
  any [all [test (.hasFile "a"), test (.hasFile "b")], test (.hasFile "c")]

/-- A file `a` beside a file `b` or `c`. -/
def firstWithOther : Formula :=
  all [test (.hasFile "a"), any [test (.hasFile "b"), test (.hasFile "c")]]

/-- Nothing in a name shows alternatives that are joined by `&&`. -/
theorem joined_alternatives_collide :
    ¬∀ formula other : Formula, formula.guard.cost = .expensive → other.guard.cost = .expensive →
      formula.guard.name = other.guard.name →
        ∀ ctx p, formula.guard.direct ctx p = other.guard.direct ctx p := by
  intro hclaim
  let push : Push :=
    { repo := { owner := "acme", name := "shop" }, branch := "main",
      commits := [⟨"b2", "fix: total"⟩] }
  let ctx := (Context.ofPush push).withProject (.inMemory [("c", "")] [])
  have hdirect := hclaim pairOrLast firstWithOther rfl rfl (by decide +kernel) ctx default
  rw [direct_eq_verdict, direct_eq_verdict] at hdirect
  have hfirst : pairOrLast.verdict ctx = .ok true := rfl
  have hsecond : firstWithOther.verdict ctx = .ok false := rfl
  rw [hfirst, hsecond] at hdirect
  cases hdirect

end Formula

end PushGoals
