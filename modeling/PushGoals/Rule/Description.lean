import PushGoals.Rule.Basic
import PushGoals.Decode

/-!
# Describing rules

`Rule.describe` shows how a rule or a guard is made, evaluating nothing.  A
guarded rule shows its guard and, when the guard leads to further rules, those as
its component.
-/

namespace PushGoals

structure RuleDescription where
  name : String
  /-- How the components are put together, for a composite. -/
  style : Option Style := none
  cost : Cost
  guard : Option RuleDescription := none
  /-- Does a passing guard halt the enclosing sequence? -/
  halts : Bool := false
  components : List RuleDescription := []
deriving Inhabited

namespace Guard

mutual

def describe : Guard → RuleDescription
  | .all parts =>
      { name := name (.all parts), style := some .and, cost := cost (.all parts),
        components := describeEach parts }
  | .any parts =>
      { name := name (.any parts), style := some .or, cost := cost (.any parts),
        components := describeEach parts }
  | .negation inner =>
      { name := name (.negation inner), style := some .not, cost := cost (.negation inner),
        components := [describe inner] }
  | .memo _ inner => describe inner
  | .prepared _ inner => describe inner
  | .mapped _ inner => { name := name inner, cost := cost inner }
  | .test t => { name := t.name, cost := t.cost }
  | .custom name cost _ => { name, cost }

def describeEach : List Guard → List RuleDescription
  | [] => []
  | g :: rest => describe g :: describeEach rest

end

end Guard

namespace Rule

variable {V : Type}

mutual

def describe (learned : LearnedNames) : Rule V → RuleDescription
  | .fixed guard reason _ =>
      { name := statedName guard reason, cost := .unknown, guard := some guard.describe }
  | .halting guard reason =>
      { name := statedName guard reason, cost := .unknown, guard := some guard.describe,
        halts := true }
  | .computed key guard reason compute =>
      { name := name learned (.computed key guard reason compute), cost := .unknown }
  | .firstMatch name rules =>
      { name, style := some .firstMatch, cost := .unknown,
        components := describeEach learned rules }
  | .allMatches name contributors =>
      { name, style := some .allMatches, cost := .unknown,
        components := describeEach learned contributors }
  | .enriched name base extension =>
      { name, style := some .enrich, cost := .unknown,
        components := [describe learned base, describe learned extension] }
  | .leaf name guard _ _ => { name, cost := .unknown, guard := some guard.describe }
  | .branch name guard _ children =>
      { name, cost := .unknown, guard := some guard.describe,
        components :=
          [{ name, style := some .firstMatch, cost := .unknown,
             components := describeEach learned children }] }
  | .mapped _ inner => { name := inner.name learned, cost := inner.cost }
  | .custom name cost _ => { name, cost }

def describeEach (learned : LearnedNames) : List (Rule V) → List RuleDescription
  | [] => []
  | rule :: rest => describe learned rule :: describeEach learned rest

end

end Rule

namespace RuleDescription

mutual

/-- The written form: style, guard, halt and components only where there are any. -/
def toValue : RuleDescription → Value
  | ⟨name, style, cost, guard, halts, components⟩ =>
      .object
        ([("name", .string name)] ++
          (match style with
            | some s => [("style", .string s.name)]
            | none => []) ++
          [("cost", .string cost.name)] ++
          (match guard with
            | some g => [("guard", toValue g)]
            | none => []) ++
          (if halts then [("halts", .bool true)] else []) ++
          (match components with
            | [] => []
            | c :: rest => [("components", .array (toValue c :: toValues rest))]))

def toValues : List RuleDescription → List Value
  | [] => []
  | d :: rest => toValue d :: toValues rest

end

def shape : Decode.Shape := ⟨["name", "style", "cost", "guard", "halts", "components"], false⟩

/-- Read a description from a value nested at most `depth` levels. -/
def ofValueWithin : Nat → Value → Option RuleDescription
  | 0, _ => none
  | depth + 1, v => do
      let fields ← shape.fields? .json v
      let name ← Decode.required fields "name" Decode.text
      let style ← Decode.optional fields "style" (Decode.constant .json Style.ofName?)
      let cost ← Decode.required fields "cost" (Decode.constant .json Cost.ofName?)
      let guard ← Decode.optional fields "guard" (ofValueWithin depth)
      let halts ← Decode.fallback fields "halts" false Decode.flag
      let components ←
        Decode.fallback fields "components" [] (Decode.list (ofValueWithin depth))
      some { name, style, cost, guard, halts, components }

def ofValue (v : Value) : Option RuleDescription := ofValueWithin v.depth v

end RuleDescription

end PushGoals
