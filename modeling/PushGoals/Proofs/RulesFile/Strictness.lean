import PushGoals.RulesFile.Basic

/-!
# Keys that are not declared

A document that is read as a rules file is made of records: the file, its goals, its
rules, and the tests of the rules with the tests inside them.  The file, a goal and a
rule are refused with every key that they do not declare, and so is the whole document.
A test is not: it is read by its kind from the keys that this kind has, wherever it
stands, and any other key of it is passed over.
-/

namespace PushGoals

namespace Value

def keys : Value → List String
  | .object fields => fields.map (·.1)
  | _ => []

/-- The values that a table has under its keys. -/
def entries : Value → List Value
  | .object fields => fields.map (·.2)
  | _ => []

/-- A table without the keys that are not among `names`. -/
def keepOnly (names : List String) : Value → Value
  | .object fields => .object (fields.filter fun f => names.contains f.1)
  | v => v

theorem is_key_and_kept {names : List String} {key : String} (hkey : key ∈ names)
    (f : String × Value) : (f.1 == key && names.contains f.1) = (f.1 == key) := by
  by_cases hf : f.1 = key
  · rw [hf, List.contains_iff_mem.mpr hkey, Bool.and_true]
  · rw [beq_false_of_ne hf, Bool.false_and]

theorem field?_filter {names : List String} {key : String} (hkey : key ∈ names)
    (fields : List (String × Value)) :
    field? key (fields.filter fun f => names.contains f.1) = field? key fields := by
  induction fields with
  | nil => rfl
  | cons f rest ih =>
      obtain ⟨k, v⟩ := f
      by_cases hk : k = key
      · subst hk
        have hkept : names.contains k = true := List.contains_iff_mem.mpr hkey
        simp only [List.filter_cons, hkept, if_true, field?, beq_self_eq_true]
      · have hother : (k == key) = false := beq_false_of_ne hk
        by_cases hkept : names.contains k = true
        · simp only [List.filter_cons, hkept, if_true, field?, hother, Bool.false_eq_true, if_false]
          exact ih
        · simp only [List.filter_cons, hkept, if_false, field?, hother, Bool.false_eq_true]
          exact ih

end Value

namespace Decode

variable {α : Type} {item : Value → Option α} {format : Format} {shape : Shape} {v : Value}
  {fields : List (String × Value)}

theorem item_of_list {items : List Value} {as : List α} (hlist : list item (.array items) = some as) :
    ∀ v ∈ items, ∃ a, item v = some a := by
  change items.mapM item = some as at hlist
  induction items generalizing as with
  | nil => exact fun _ hv => nomatch hv
  | cons v rest ih =>
      rw [List.mapM_cons] at hlist
      obtain ⟨a, ha, hrest⟩ := Option.bind_eq_some_iff.mp hlist
      obtain ⟨more, hmore, _⟩ := Option.bind_eq_some_iff.mp hrest
      exact List.forall_mem_cons.mpr ⟨⟨a, ha⟩, ih hmore⟩

/-- What a record has under a key, whether it is written with keys or by position. -/
def Shape.field? (shape : Shape) (key : String) : Value → Option Value
  | .object fields => Value.field? key fields
  | .array items => Value.field? key (shape.names.zip items)
  | _ => none

/-- The members of the list that a record has under a key. -/
def Shape.members (shape : Shape) (key : String) (v : Value) : List Value :=
  match shape.field? key v with
  | some (.array items) => items
  | _ => []

theorem Shape.fields?_object {written : List (String × Value)}
    (hfields : shape.fields? format (.object written) = some fields) :
    fields = written ∧ (shape.strict = true → ∀ f ∈ written, f.1 ∈ shape.names) := by
  simp only [Shape.fields?] at hfields
  split at hfields
  · cases hfields
  · split at hfields
    · cases hfields
    · rename_i hdeclared
      cases hfields
      refine ⟨rfl, ?_⟩
      intro hstrict f hf
      rw [hstrict, Bool.true_and, Bool.not_eq_true, List.any_eq_false] at hdeclared
      simpa using hdeclared f hf

theorem Shape.fields?_array {items : List Value}
    (hfields : shape.fields? format (.array items) = some fields) :
    fields = shape.names.zip items := by
  simp only [Shape.fields?] at hfields
  split at hfields
  · cases hfields
  · exact (Option.some.inj hfields).symm

theorem Shape.field?_eq (hfields : shape.fields? format v = some fields) (key : String) :
    shape.field? key v = Value.field? key fields := by
  cases v with
  | object written => rw [(Shape.fields?_object hfields).1, Shape.field?]
  | array items => rw [Shape.fields?_array hfields, Shape.field?]
  | _ => cases hfields

theorem Shape.keys_declared (hstrict : shape.strict = true)
    (hfields : shape.fields? format v = some fields) : ∀ key ∈ v.keys, key ∈ shape.names := by
  cases v with
  | object written =>
      rw [Value.keys, List.forall_mem_map]
      exact (Shape.fields?_object hfields).2 hstrict
  | _ => exact fun _ hkey => nomatch hkey

theorem required_filter {names : List String} {key : String} (hkey : key ∈ names) :
    required (fields.filter fun f => names.contains f.1) key item = required fields key item := by
  rw [required, required, Value.field?_filter hkey]

theorem hasField_filter {names : List String} {key : String} (hkey : key ∈ names) :
    hasField key (fields.filter fun f => names.contains f.1) = hasField key fields := by
  unfold hasField
  rw [List.any_filter]
  simp only [Bool.and_comm, Value.is_key_and_kept hkey]

theorem repeats_filter (names : List String) (fields : List (String × Value)) :
    repeats names (fields.filter fun f => names.contains f.1) = repeats names fields := by
  induction fields with
  | nil => rfl
  | cons f rest ih =>
      obtain ⟨k, v⟩ := f
      by_cases hkept : names.contains k = true
      · have hmem : k ∈ names := List.contains_iff_mem.mp hkept
        simp only [List.filter_cons, hkept, if_true, repeats, ih, hasField_filter hmem]
      · simp only [List.filter_cons, hkept, Bool.false_eq_true, if_false, repeats, ih,
          Bool.false_and, Bool.false_or]

/-- A shape that is not strict sees its own keys only. -/
theorem Shape.fields?_keepOnly (names : List String) (format : Format) (v : Value) :
    Shape.fields? { names } format (v.keepOnly names) =
      (Shape.fields? { names } format v).map (List.filter fun f => names.contains f.1) := by
  cases v with
  | object fields =>
      simp only [Value.keepOnly, Shape.fields?, repeats_filter]
      split <;> rfl
  | array items =>
      have hnamed : (names.zip items).filter (fun f => names.contains f.1) = names.zip items := by
        rw [List.filter_eq_self]
        exact fun f hf => List.contains_iff_mem.mpr (List.of_mem_zip hf).1
      simp only [Value.keepOnly, Shape.fields?]
      split
      · rfl
      · rw [Option.map_some, hnamed]
  | _ => rfl

theorem item_of_required {key : String} {a : α} {found : Value}
    (hread : required fields key item = some a) (hfound : Value.field? key fields = some found) :
    item found = some a := by
  rwa [required, hfound, Option.bind_some] at hread

theorem item_of_fallback {key : String} {default a : α} {found : Value}
    (hread : fallback fields key default item = some a)
    (hfound : Value.field? key fields = some found) : item found = some a := by
  rwa [fallback, hfound] at hread

theorem item_of_members {key : String} (hfields : shape.fields? format v = some fields)
    (hread : ∀ found, Value.field? key fields = some found → ∃ as, list item found = some as) :
    ∀ w ∈ shape.members key v, ∃ a, item w = some a := by
  unfold Shape.members
  rw [Shape.field?_eq hfields]
  cases hfound : Value.field? key fields with
  | none => exact fun _ hw => nomatch hw
  | some found =>
      obtain ⟨as, hlist⟩ := hread found hfound
      cases found with
      | array items => exact item_of_list hlist
      | _ => cases hlist

end Decode

/-! ## Records of a document -/

def RulesFile.shape : Decode.Shape := ⟨["composition", "goal", "rule"], true⟩

def GoalSpec.shape : Decode.Shape :=
  ⟨["name", "display_name", "environment", "depends_on", "approval_required",
    "pre_approval_required", "retry_feasible"], true⟩

def RuleSpec.shape : Decode.Shape := ⟨["name", "when", "goals", "lock", "halt"], true⟩

namespace RulesFile

/-- The kinds of records in a document, tests apart. -/
inductive Part where
  | file
  | composition
  | compositionBody
  | goal
  | rule

namespace Part

/-- The keys that a record of the kind declares.  A composition written as a table has
its name for a key, and nothing in the table under it. -/
def declared : Part → List String
  | .file => RulesFile.shape.names
  | .composition => ["first-match", "additive"]
  | .compositionBody => []
  | .goal => GoalSpec.shape.names
  | .rule => RuleSpec.shape.names

/-- The records of the kind that a document has. -/
def records (doc : Value) : Part → List Value
  | .file => [doc]
  | .composition => (RulesFile.shape.field? "composition" doc).toList
  | .compositionBody =>
      (RulesFile.shape.field? "composition" doc).toList.flatMap Value.entries
  | .goal => RulesFile.shape.members "goal" doc
  | .rule => RulesFile.shape.members "rule" doc

end Part

/-- The document has a test here, inside another one or not. -/
inductive HasTest (format : Format) (doc : Value) : Bool → Value → Prop
  | ofRule {rule test : Value} : rule ∈ Part.rule.records doc →
      test ∈ RuleSpec.shape.members "when" rule → HasTest format doc false test
  | negated {inner : Bool} {v body test : Value} : HasTest format doc inner v →
      TestSpec.tagged? (inner && format == .json) v = some (.negation, body) →
        Decode.Shape.field? { names := ["of"] } "of" body = some test →
          HasTest format doc true test
  | alternative {inner : Bool} {v body test : Value} : HasTest format doc inner v →
      TestSpec.tagged? (inner && format == .json) v = some (.any, body) →
        test ∈ Decode.Shape.members { names := ["of"] } "of" body →
          HasTest format doc true test

end RulesFile

section Accepted

variable {format : Format} {v doc : Value}

theorem GoalSpec.keys_declared {spec : GoalSpec} (hread : GoalSpec.ofValue format v = some spec) :
    ∀ key ∈ v.keys, key ∈ GoalSpec.shape.names := by
  obtain ⟨fields, hfields, _⟩ := Option.bind_eq_some_iff.mp hread
  have hshape : GoalSpec.shape.fields? format v = some fields := hfields
  exact Decode.Shape.keys_declared rfl hshape

theorem RuleSpec.fields_of_read {spec : RuleSpec} (hread : RuleSpec.ofValue format v = some spec) :
    ∃ fields, RuleSpec.shape.fields? format v = some fields ∧
      ∃ tests, Decode.fallback fields "when" [] (Decode.list (TestSpec.ofValue format)) =
        some tests := by
  obtain ⟨fields, hfields, hread⟩ := Option.bind_eq_some_iff.mp hread
  obtain ⟨_, _, hread⟩ := Option.bind_eq_some_iff.mp hread
  obtain ⟨tests, htests, _⟩ := Option.bind_eq_some_iff.mp hread
  exact ⟨fields, hfields, tests, htests⟩

theorem Composition.ofName?_declared {name : String} {composition : Composition}
    (hread : Composition.ofName? name = some composition) :
    name ∈ RulesFile.Part.composition.declared := by
  unfold Composition.ofName? at hread
  split at hread
  · exact List.mem_cons_self
  · exact List.mem_cons_of_mem _ List.mem_cons_self
  · cases hread

theorem Decode.keys_of_emptyBody (hempty : Decode.emptyBody format v = true) : v.keys = [] := by
  unfold Decode.emptyBody at hempty
  split at hempty
  · rfl
  · rfl
  · rfl
  · cases hempty

theorem Composition.keys_declared {composition : Composition}
    (hread : Decode.constant format Composition.ofName? v = some composition) :
    (∀ key ∈ v.keys, key ∈ RulesFile.Part.composition.declared) ∧
      ∀ body ∈ v.entries, body.keys = [] := by
  unfold Decode.constant at hread
  split at hread
  · exact ⟨(fun _ hkey => nomatch hkey), (fun _ hbody => nomatch hbody)⟩
  · split at hread
    · rename_i hempty
      constructor
      · intro key hkey
        rw [List.mem_singleton.mp hkey]
        exact Composition.ofName?_declared hread
      · intro body hbody
        rw [List.mem_singleton.mp hbody]
        exact Decode.keys_of_emptyBody hempty
    · cases hread
  · cases hread

namespace RulesFile

theorem fields_of_read {file : RulesFile} (hread : RulesFile.ofValue format doc = some file) :
    ∃ fields, RulesFile.shape.fields? format doc = some fields ∧
      Decode.fallback fields "composition" .firstMatch
        (Decode.constant format Composition.ofName?) = some file.composition ∧
      Decode.fallback fields "goal" [] (Decode.list (GoalSpec.ofValue format)) =
        some file.goals ∧
      Decode.fallback fields "rule" [] (Decode.list (RuleSpec.ofValue format)) =
        some file.rules := by
  obtain ⟨fields, hfields, hread⟩ := Option.bind_eq_some_iff.mp hread
  obtain ⟨composition, hcomposition, hread⟩ := Option.bind_eq_some_iff.mp hread
  obtain ⟨goals, hgoals, hread⟩ := Option.bind_eq_some_iff.mp hread
  obtain ⟨rules, hrules, hread⟩ := Option.bind_eq_some_iff.mp hread
  cases hread
  exact ⟨fields, hfields, hcomposition, hgoals, hrules⟩

theorem rule_of_read {file : RulesFile} (hread : RulesFile.ofValue format doc = some file) :
    ∀ rule ∈ Part.rule.records doc, ∃ spec, RuleSpec.ofValue format rule = some spec := by
  obtain ⟨fields, hfields, _, _, hrules⟩ := fields_of_read hread
  exact Decode.item_of_members hfields fun _ hfound => ⟨_, Decode.item_of_fallback hrules hfound⟩

/-- The records of an accepted document, its tests apart, have declared keys only. -/
theorem keys_declared {file : RulesFile} (hread : RulesFile.ofValue format doc = some file)
    (part : Part) : ∀ v ∈ part.records doc, ∀ key ∈ v.keys, key ∈ part.declared := by
  obtain ⟨fields, hfields, hcomposition, hgoals, _⟩ := fields_of_read hread
  have hchosen : ∀ v ∈ Part.composition.records doc,
      Decode.constant format Composition.ofName? v = some file.composition := by
    intro v hv
    have hfound : Value.field? "composition" fields = some v := by
      rw [← Decode.Shape.field?_eq hfields]
      exact Option.mem_toList.mp hv
    exact Decode.item_of_fallback hcomposition hfound
  cases part with
  | file =>
      intro v hv
      rw [List.mem_singleton.mp hv]
      exact Decode.Shape.keys_declared rfl hfields
  | composition => exact fun v hv => (Composition.keys_declared (hchosen v hv)).1
  | compositionBody =>
      intro body hbody
      obtain ⟨v, hv, hbody⟩ := List.mem_flatMap.mp hbody
      rw [(Composition.keys_declared (hchosen v hv)).2 body hbody]
      exact fun _ hkey => nomatch hkey
  | goal =>
      intro v hv
      obtain ⟨spec, hspec⟩ := Decode.item_of_members hfields
        (fun _ hfound => ⟨_, Decode.item_of_fallback hgoals hfound⟩) v hv
      exact GoalSpec.keys_declared hspec
  | rule =>
      intro v hv
      obtain ⟨spec, hspec⟩ := rule_of_read hread v hv
      obtain ⟨ruleFields, hruleFields, _⟩ := RuleSpec.fields_of_read hspec
      exact Decode.Shape.keys_declared rfl hruleFields

end RulesFile

end Accepted

/-! ## Tests -/

namespace TestSpec

variable {format : Format} {numbered inner : Bool} {kind : TestKind} {v body : Value}

/-- The keys that a test of a kind declares. -/
def declared (kind : TestKind) : List String := "test" :: kind.fieldNames

theorem tagged?_keepOnly (htagged : tagged? numbered v = some (kind, body)) :
    tagged? numbered (v.keepOnly (declared kind)) = some (kind, body.keepOnly kind.fieldNames) := by
  cases v with
  | object fields =>
      have htest : "test" ∈ declared kind := List.mem_cons_self
      have hsingle := Value.is_key_and_kept htest
      -- no kind has a field `test`, so that it is the tag only that the body leaves out
      have hbody (f : String × Value) :
          (f.1 != "test" && (declared kind).contains f.1) =
            (kind.fieldNames.contains f.1 && f.1 != "test") := by
        by_cases hf : f.1 = "test"
        · simp [hf]
        · simp [declared, hf, Bool.and_comm]
      simp only [tagged?] at htagged
      simp only [Value.keepOnly, tagged?, List.filter_filter, hsingle, hbody,
        Decode.required_filter htest]
      split at htagged
      · cases htagged
      · rename_i honce
        obtain ⟨found, hfound, hrest⟩ := Option.bind_eq_some_iff.mp htagged
        cases hrest
        rw [if_neg honce, hfound, ← List.filter_filter]
        rfl
  | array items =>
      cases items with
      | nil => cases htagged
      | cons tag rest =>
          obtain ⟨found, hfound, hrest⟩ := Option.map_eq_some_iff.mp htagged
          cases hrest
          simp only [Value.keepOnly, tagged?, hfound, Option.map_some]
  | _ => cases htagged

/-- A test is read from the keys that it declares, and other keys of it are passed over. -/
theorem ofValueWithin_keepOnly
    (htagged : tagged? (inner && format == .json) v = some (kind, body)) (depth : Nat) :
    ofValueWithin format depth inner (v.keepOnly (declared kind)) =
      ofValueWithin format depth inner v := by
  cases depth with
  | zero => rfl
  | succ depth =>
      rw [ofValueWithin, ofValueWithin, tagged?_keepOnly htagged, htagged]
      cases kind with
      | onAnyPush => rfl
      | toDefaultBranch => rfl
      | _ =>
          simp (disch := decide) only [Option.bind_eq_bind, Option.bind_some,
            Decode.Shape.fields?_keepOnly, Option.bind_map, Function.comp_def,
            Decode.required_filter]

theorem tagged?_of_read {depth : Nat} {test : TestSpec}
    (hread : ofValueWithin format depth inner v = some test) :
    ∃ kind body, tagged? (inner && format == .json) v = some (kind, body) := by
  cases depth with
  | zero => cases hread
  | succ depth =>
      obtain ⟨⟨kind, body⟩, htagged, _⟩ := Option.bind_eq_some_iff.mp hread
      exact ⟨kind, body, htagged⟩

theorem inside_of_negation {depth : Nat} {test : TestSpec} {part : Value}
    (hread : ofValueWithin format depth inner v = some test)
    (htagged : tagged? (inner && format == .json) v = some (.negation, body))
    (hpart : Decode.Shape.field? { names := ["of"] } "of" body = some part) :
    ∃ depth inside, ofValueWithin format depth true part = some inside := by
  cases depth with
  | zero => cases hread
  | succ depth =>
      rw [ofValueWithin, htagged, Option.bind_eq_bind, Option.bind_some] at hread
      obtain ⟨fields, hfields, hread⟩ := Option.bind_eq_some_iff.mp hread
      obtain ⟨inside, hinside, _⟩ := Option.bind_eq_some_iff.mp hread
      have hfound : Value.field? "of" fields = some part :=
        (Decode.Shape.field?_eq hfields "of").symm.trans hpart
      exact ⟨depth, inside, Decode.item_of_required hinside hfound⟩

theorem inside_of_any {depth : Nat} {test : TestSpec} {part : Value}
    (hread : ofValueWithin format depth inner v = some test)
    (htagged : tagged? (inner && format == .json) v = some (.any, body))
    (hpart : part ∈ Decode.Shape.members { names := ["of"] } "of" body) :
    ∃ depth inside, ofValueWithin format depth true part = some inside := by
  cases depth with
  | zero => cases hread
  | succ depth =>
      rw [ofValueWithin, htagged, Option.bind_eq_bind, Option.bind_some] at hread
      obtain ⟨fields, hfields, hread⟩ := Option.bind_eq_some_iff.mp hread
      obtain ⟨insides, hinsides, _⟩ := Option.bind_eq_some_iff.mp hread
      obtain ⟨inside, hinside⟩ := Decode.item_of_members hfields
        (fun _ hfound => ⟨_, Decode.item_of_required hinsides hfound⟩) part hpart
      exact ⟨depth, inside, hinside⟩

end TestSpec

namespace RulesFile

variable {format : Format} {doc v : Value} {inner : Bool}

/-- Every test of an accepted document has been read, wherever it stands. -/
theorem HasTest.read {file : RulesFile} (hread : RulesFile.ofValue format doc = some file)
    (htest : HasTest format doc inner v) :
    ∃ depth test, TestSpec.ofValueWithin format depth inner v = some test := by
  -- reading a test has read the tests directly inside it, one level less deep
  induction htest with
  | @ofRule rule test hrule htest =>
      obtain ⟨spec, hspec⟩ := rule_of_read hread rule hrule
      obtain ⟨fields, hfields, tests, htests⟩ := RuleSpec.fields_of_read hspec
      obtain ⟨read, hread⟩ := Decode.item_of_members hfields
        (fun _ hfound => ⟨_, Decode.item_of_fallback htests hfound⟩) test htest
      exact ⟨test.depth + 1, read, hread⟩
  | negated _ htagged hpart ih =>
      obtain ⟨depth, test, htest⟩ := ih
      exact TestSpec.inside_of_negation htest htagged hpart
  | alternative _ htagged hpart ih =>
      obtain ⟨depth, test, htest⟩ := ih
      exact TestSpec.inside_of_any htest htagged hpart

/-- Which undeclared keys are refused.  A document in which the file, its composition, a
goal or a rule has a key that it does not declare is no rules file.  A test of an accepted
document is read by its kind, at any depth, and what is read of it is read without the
keys that this kind does not declare as well. -/
theorem undeclared_keys_are_refused (format : Format) (doc : Value) :
    (∀ (part : Part), ∀ v ∈ part.records doc, ∀ key ∈ v.keys, key ∉ part.declared →
        RulesFile.ofValue format doc = none) ∧
      ∀ file, RulesFile.ofValue format doc = some file →
        ∀ inner v, HasTest format doc inner v → ∃ kind body,
          TestSpec.tagged? (inner && format == .json) v = some (kind, body) ∧
            (∃ depth test, TestSpec.ofValueWithin format depth inner v = some test) ∧
            ∀ depth, TestSpec.ofValueWithin format depth inner
                (v.keepOnly (TestSpec.declared kind)) =
              TestSpec.ofValueWithin format depth inner v := by
  constructor
  · intro part v hv key hkey hundeclared
    cases hread : RulesFile.ofValue format doc with
    | none => rfl
    | some file => exact absurd (keys_declared hread part v hv key hkey) hundeclared
  · intro file hread inner v htest
    obtain ⟨depth, test, hgiven⟩ := htest.read hread
    obtain ⟨kind, body, htagged⟩ := TestSpec.tagged?_of_read hgiven
    exact ⟨kind, body, htagged, ⟨depth, test, hgiven⟩, TestSpec.ofValueWithin_keepOnly htagged⟩

def imageTest : Value :=
  .object [("test", .string "has_file"), ("path", .string "Cargo.toml"),
    ("pattern", .string "workspace")]

def imageDocument (goalsKey : String) : Value :=
  .object [("goal", .array [.object [("name", .string "build")]]),
    ("rule", .array [.object [("name", .string "image"), ("when", .array [imageTest]),
      (goalsKey, .array [.string "build"])]])]

theorem imageDocument_hasTest (format : Format) (goalsKey : String) :
    HasTest format (imageDocument goalsKey) false imageTest :=
  .ofRule List.mem_cons_self List.mem_cons_self

/-- A rule whose goals are written under `goal` is refused.  With its goals under `goals`
it is accepted, and the pattern of its test is passed over. -/
theorem imageDocument_is_refused_or_read :
    RulesFile.ofValue .toml (imageDocument "goal") = none ∧
      TestSpec.ofValueWithin .toml 1 false
          (.object [("test", .string "has_file"), ("path", .string "Cargo.toml")]) =
        TestSpec.ofValueWithin .toml 1 false imageTest := by
  constructor
  · exact (undeclared_keys_are_refused .toml (imageDocument "goal")).1 .rule _ List.mem_cons_self
      "goal" (by decide) (by decide)
  · obtain ⟨kind, body, htagged, _, hkept⟩ :=
      (undeclared_keys_are_refused .toml (imageDocument "goals")).2 _ rfl false imageTest
        (imageDocument_hasTest .toml "goals")
    cases htagged
    exact hkept 1

theorem test_pattern_is_passed_over :
    HasTest .toml (imageDocument "goals") false imageTest ∧
      "pattern" ∈ imageTest.keys ∧ "pattern" ∉ TestSpec.declared .hasFile ∧
      RulesFile.ofValue .toml (imageDocument "goals") =
        some
          { goals := [{ name := "build" }]
            rules := [{ name := "image", tests := [.hasFile "Cargo.toml"], goals := ["build"] }] } :=
  ⟨imageDocument_hasTest .toml "goals", by decide, by decide, rfl⟩

end RulesFile

end PushGoals
