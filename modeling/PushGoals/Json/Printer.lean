import PushGoals.Value

/-!
# Writing JSON text

`Json.compact` writes a value on one line without blanks, `Json.pretty` over
several lines with two blanks per level.  Only what must be escaped is: the
quote, the backslash and the control characters below U+0020, the common ones by
their short names.  A foreign scalar is written as the string of its text.
-/

namespace PushGoals.Json

def hexChar (n : Nat) : Char := Nat.digitChar (n % 16)

def escapeChar (c : Char) : List Char :=
  match c with
  | '"' => ['\\', '"']
  | '\\' => ['\\', '\\']
  | '\x08' => ['\\', 'b']
  | '\x0c' => ['\\', 'f']
  | '\n' => ['\\', 'n']
  | '\r' => ['\\', 'r']
  | '\t' => ['\\', 't']
  | c =>
      if c.toNat < 0x20 then ['\\', 'u', '0', '0', hexChar (c.toNat / 16), hexChar c.toNat]
      else [c]

def quote (s : String) : String :=
  "\"" ++ String.ofList (s.toList.flatMap escapeChar) ++ "\""

/-- An integer in decimal, a decimal as mantissa and exponent. -/
def number : Number → String
  | .int n => toString n
  | .decimal negative mantissa exponent =>
      (if negative then "-" else "") ++ toString mantissa ++ "e" ++ toString exponent

mutual

def compact : Value → String
  | .null => "null"
  | .bool true => "true"
  | .bool false => "false"
  | .number n => number n
  | .string s => quote s
  | .foreign s => quote s
  | .array items => "[" ++ ",".intercalate (compactItems items) ++ "]"
  | .object fields => "\x7b" ++ ",".intercalate (compactFields fields) ++ "\x7d"

def compactItems : List Value → List String
  | [] => []
  | v :: rest => compact v :: compactItems rest

def compactFields : List (String × Value) → List String
  | [] => []
  | (k, v) :: rest => (quote k ++ ":" ++ compact v) :: compactFields rest

end

def indent (level : Nat) : String := String.ofList (List.replicate (2 * level) ' ')

/-- Lines between an opening and a closing bracket; nothing stands between the
brackets of an empty list. -/
def block (opening closing : String) (level : Nat) (lines : List String) : String :=
  if lines.isEmpty then opening ++ closing
  else
    opening ++ "\n" ++
      ",\n".intercalate (lines.map (indent (level + 1) ++ ·)) ++
      "\n" ++ indent level ++ closing

mutual

def prettyAt (level : Nat) : Value → String
  | .null => "null"
  | .bool true => "true"
  | .bool false => "false"
  | .number n => number n
  | .string s => quote s
  | .foreign s => quote s
  | .array items => block "[" "]" level (prettyItems (level + 1) items)
  | .object fields => block "\x7b" "\x7d" level (prettyFields (level + 1) fields)

def prettyItems (level : Nat) : List Value → List String
  | [] => []
  | v :: rest => prettyAt level v :: prettyItems level rest

def prettyFields (level : Nat) : List (String × Value) → List String
  | [] => []
  | (k, v) :: rest => (quote k ++ ": " ++ prettyAt level v) :: prettyFields level rest

end

def pretty (v : Value) : String := prettyAt 0 v

end PushGoals.Json
