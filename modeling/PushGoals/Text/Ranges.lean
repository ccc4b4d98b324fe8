import PushGoals.Text.CharSet

/-!
# Tables of characters

Properties of characters are kept as texts.  A set is written as its ranges in
hexadecimal (`CharSet.ofTable`), and a property that each character has one value
of as its values with the lengths of their stretches (`runsOfTable`).
-/

namespace PushGoals.Text

/-- Numbers in hexadecimal, digits and capital letters only. -/
def hexNumber (s : String) : Nat :=
  s.toList.foldl
    (fun n c => n * 16 + (if c.isDigit then c.toNat - '0'.toNat else c.toNat - 'A'.toNat + 10)) 0

/-- The ranges of an item of a table: a range such as `41-5A`, a code point such as
`AA`, or every second code point of a range, such as `100-12E/2`. -/
def itemRanges (item : String) : List CharRange :=
  match item.splitOn "/" with
  | [range, _] =>
      match range.splitOn "-" with
      | [first, last] =>
          let first := hexNumber first
          (List.range ((hexNumber last - first) / 2 + 1)).map fun i =>
            ⟨first + 2 * i, first + 2 * i⟩
      | _ => []
  | _ =>
      match item.splitOn "-" with
      | [first, last] => [⟨hexNumber first, hexNumber last⟩]
      | _ => [⟨hexNumber item, hexNumber item⟩]

/-- The set that a table lists. -/
def CharSet.ofTable (lines : List String) : CharSet :=
  .ofRanges ((lines.flatMap (·.splitOn " ")).flatMap itemRanges)

/-- A stretch of characters with one value of a property. -/
structure Run where
  value : String
  range : CharRange

/-- Values with the lengths of their stretches, such as `Lu26`, from code point 0
on. -/
def runsOfTable (lines : List String) : List Run :=
  let step (state : Nat × List Run × List Char × Nat) (c : Char) :=
    let (start, runs, value, size) := state
    if c.isDigit then (start, runs, value, size * 10 + (c.toNat - '0'.toNat))
    else if size = 0 then (start, runs, c :: value, 0)
    else
      (start + size, run start value size :: runs, [c], 0)
  let (start, runs, value, size) :=
    lines.foldl (fun state line => line.toList.foldl step state) (0, [], [], 0)
  (run start value size :: runs).reverse
where
  run (start : Nat) (value : List Char) (size : Nat) : Run :=
    ⟨String.ofList value.reverse, ⟨start, start + size - 1⟩⟩

/-- The characters whose value is one of those asked for. -/
def CharSet.ofRuns (runs : List Run) (values : List String) : CharSet :=
  ⟨join ((runs.filter (values.contains ·.value)).map (·.range))⟩

/-- The name of what goes by `known`, in lines of names with what they go by, such as
`Greek=greek,grek`. -/
def nameOfAlias? (lines : List String) (known : String) : Option String :=
  (lines.flatMap (·.splitOn " ")).findSome? fun item =>
    match item.splitOn "=" with
    | [name, aliases] => if (aliases.splitOn ",").contains known then some name else none
    | _ => none

end PushGoals.Text
