import PushGoals.Value

/-!
# Tables of TOML

A document builds its tables piece by piece, and what may be added to a table
depends on how it came about: by a header of its own, on the way to the header
of another, or by a dotted key.  Each key is written once; a header opens each
table once; dotted keys extend only tables that dotted keys have made.
-/

namespace PushGoals.Toml

/-- How a table came about. -/
inductive Origin where
  | header
  /-- On the way to another table's header. -/
  | passing
  /-- By a dotted key. -/
  | dotted
deriving DecidableEq, Repr

inductive Node where
  | value (v : Value)
  | table (origin : Origin) (entries : List (String × Node))
  /-- An array of tables; only the last one is open to additions. -/
  | tables (last : List (String × Node)) (earlier : List (List (String × Node)))
deriving Inhabited

abbrev Entries := List (String × Node)

namespace Entries

def get? (key : String) (entries : Entries) : Option Node := entries.lookup key

def put (key : String) (node : Node) : Entries → Entries
  | [] => [(key, node)]
  | (k, n) :: rest => if k == key then (k, node) :: rest else (k, n) :: put key node rest

/-- Change the table that a path leads to.  Tables that are missing are made, with
the origin `via`; a dotted path leads only through tables that have no header. -/
def modifyAt (via : Origin) (change : Origin → Entries → Option Entries) :
    List String → Origin → Entries → Option Entries
  | [], origin, entries => change origin entries
  | key :: path, _, entries =>
      match entries.get? key with
      | none => do
          let inner ← modifyAt via change path via []
          some (entries.put key (.table via inner))
      | some (.value _) => none
      | some (.table origin inner) =>
          if via = .dotted ∧ origin = .header then none
          else do
            let inner ← modifyAt via change path origin inner
            some (entries.put key (.table origin inner))
      | some (.tables last earlier) => do
          let last ← modifyAt via change path .header last
          some (entries.put key (.tables last earlier))

/-- Add a value under a key that may be dotted.  A dotted key ends in a table that
a dotted key has made. -/
def addValue (path : List String) (key : String) (v : Value) (entries : Entries) :
    Option Entries :=
  modifyAt .dotted
    (fun origin entries =>
      if (decide (origin = .dotted)) == path.isEmpty then none
      else
        match entries.get? key with
        | some _ => none
        | none => some (entries.put key (.value v)))
    path .header entries

/-- Open a table by a header: a new one, or one that other headers have passed. -/
def openTable (path : List String) (key : String) (entries : Entries) : Option Entries :=
  modifyAt .passing
    (fun _ entries =>
      match entries.get? key with
      | none => some (entries.put key (.table .header []))
      | some (.table .passing inner) => some (entries.put key (.table .header inner))
      | some _ => none)
    path .header entries

def appendTable (path : List String) (key : String) (entries : Entries) : Option Entries :=
  modifyAt .passing
    (fun _ entries =>
      match entries.get? key with
      | none => some (entries.put key (.tables [] []))
      | some (.tables last earlier) => some (entries.put key (.tables [] (last :: earlier)))
      | some _ => none)
    path .header entries

end Entries

mutual

def Node.toValue : Node → Value
  | .value v => v
  | .table _ entries => .object (toFields entries)
  | .tables last earlier => .array (toObjects [.object (toFields last)] earlier)

def toFields : List (String × Node) → List (String × Value)
  | [] => []
  | (k, n) :: rest => (k, n.toValue) :: toFields rest

/-- The tables as objects in front of `acc`, the last one first. -/
def toObjects (acc : List Value) : List (List (String × Node)) → List Value
  | [] => acc
  | entries :: rest => toObjects (.object (toFields entries) :: acc) rest

end

end PushGoals.Toml
