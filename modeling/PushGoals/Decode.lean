import PushGoals.Value

/-!
# Decoding records from documents

A record is written as an object, or by position as an array of its leading
fields.  `Shape.fields?` brings both forms to one list of named fields; the
functions `required`, `optional` and `fallback` then read a single field.

Three rules hold everywhere.  A field that the shape does not name is skipped,
unless the shape is strict.  A named field that is written twice is an error.
And `null` stands for an absent value only in an optional field: a field with a
default may be left out, but not be `null`.
-/

namespace PushGoals

/-- The document formats, which differ where a value can be written in a way of
the format's own. -/
inductive Format where
  | json
  | toml
deriving DecidableEq, Repr

namespace Decode

/-- The fields of a record in order, and whether other fields are refused. -/
structure Shape where
  names : List String
  strict : Bool := false

def hasField (key : String) (fields : List (String × Value)) : Bool :=
  fields.any (·.1 == key)

/-- Is a key of the shape written twice? -/
def repeats (names : List String) : List (String × Value) → Bool
  | [] => false
  | (k, _) :: rest => (names.contains k && hasField k rest) || repeats names rest

/-- The named fields of a value written as a record.  An array that is longer
than the record is refused in JSON; in TOML the surplus is skipped. -/
def Shape.fields? (shape : Shape) (format : Format) : Value → Option (List (String × Value))
  | .object fields =>
      if repeats shape.names fields then none
      else if shape.strict && fields.any (fun f => !shape.names.contains f.1) then none
      else some fields
  | .array items =>
      if items.length > shape.names.length && format == .json then none
      else some (shape.names.zip items)
  | _ => none

def text : Value → Option String
  | .string s => some s
  | _ => none

def flag : Value → Option Bool
  | .bool b => some b
  | _ => none

/-- An integer from 0 to 2^64 - 1. -/
def natural : Value → Option Nat
  | .number (.int n) => if 0 ≤ n ∧ n ≤ maxUnsigned then some n.toNat else none
  | _ => none

def list {α : Type} (item : Value → Option α) : Value → Option (List α)
  | .array items => items.mapM item
  | _ => none

def nullable {α : Type} (item : Value → Option α) : Value → Option (Option α)
  | .null => some none
  | v => (item v).map some

def required {α : Type} (fields : List (String × Value)) (key : String)
    (item : Value → Option α) : Option α :=
  (Value.field? key fields).bind item

/-- A field that may be left out or `null`. -/
def optional {α : Type} (fields : List (String × Value)) (key : String)
    (item : Value → Option α) : Option (Option α) :=
  match Value.field? key fields with
  | none => some none
  | some v => nullable item v

def fallback {α : Type} (fields : List (String × Value)) (key : String) (default : α)
    (item : Value → Option α) : Option α :=
  match Value.field? key fields with
  | none => some default
  | some v => item v

/-- Can `v` stand behind the name of a constant?  JSON writes `null` there, TOML
an empty table or array. -/
def emptyBody : Format → Value → Bool
  | .json, .null => true
  | .toml, .array [] => true
  | .toml, .object [] => true
  | _, _ => false

/-- A constant by its name, which may also be the only key of an object with
nothing behind it. -/
def constant {α : Type} (format : Format) (named : String → Option α) : Value → Option α
  | .string s => named s
  | .object [(k, v)] => if emptyBody format v then named k else none
  | _ => none

end Decode

end PushGoals
