/-!
# Outcomes

What a rule or a guard answers for a push: a value, that it does not apply, or
that nothing in the enclosing sequence of rules may apply.
-/

namespace PushGoals

inductive Outcome (V : Type) where
  | matched (value : V)
  /-- The rule does not apply; others may. -/
  | noMatch
  /-- Nothing in the enclosing sequence may apply. -/
  | halt
deriving DecidableEq, Repr, Inhabited

namespace Outcome

def isMatched {V : Type} : Outcome V → Bool
  | .matched _ => true
  | _ => false

def value? {V : Type} : Outcome V → Option V
  | .matched v => some v
  | _ => none

def map {V W : Type} (f : V → W) : Outcome V → Outcome W
  | .matched v => .matched (f v)
  | .noMatch => .noMatch
  | .halt => .halt

@[simp] theorem value?_map {V W : Type} (f : V → W) (o : Outcome V) :
    (o.map f).value? = o.value?.map f := by
  cases o <;> rfl

def ofOption {V : Type} : Option V → Outcome V
  | some v => .matched v
  | none => .noMatch

@[simp] theorem value?_ofOption {V : Type} (given : Option V) : (ofOption given).value? = given := by
  cases given <;> rfl

/-- A guard passes only by answering true. -/
def passes : Outcome Bool → Bool
  | .matched b => b
  | _ => false

end Outcome

end PushGoals
