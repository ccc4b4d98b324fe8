import PushGoals.Text.Visible

/-!
# Quoted texts

A text in double quotes, as it is shown to people who look for mistakes: quotes
and backslashes are escaped, and so is every character that could not be seen as
itself, the common ones by a letter and the others by their code points.
-/

namespace PushGoals.Text

/-- The code point of a character in hexadecimal. -/
def codePoint (c : Char) : List Char :=
  ['\\', 'u', '\x7b'] ++ Nat.toDigits 16 c.toNat ++ ['\x7d']

def quoteChar (c : Char) : List Char :=
  match c with
  | '\x00' => ['\\', '0']
  | '\t' => ['\\', 't']
  | '\r' => ['\\', 'r']
  | '\n' => ['\\', 'n']
  | '\\' => ['\\', '\\']
  | '"' => ['\\', '"']
  | c => if isVisible c then [c] else codePoint c

def quote (s : String) : String :=
  "\"" ++ String.ofList (s.toList.flatMap quoteChar) ++ "\""

end PushGoals.Text
