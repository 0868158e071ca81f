import DataProduct.Json.Value

/-!
# Writing JSON text

Two layouts of one value: compact, with no blank at all, and pretty, with each member or item on a
line of its own, indented by two spaces per level, `": "` after a key, and an empty object or
array written `{}` or `[]`. Members are written in the order the value holds them.

Strings are quoted with the short escapes `\"`, `\\`, `\b`, `\f`, `\n`, `\r`, `\t`, and `\u00xx`
with lowercase hex for the other characters below `0x20`; every other character, DEL and
non-ASCII included, stands as itself.

* `quote`: the quoted form of a string;
* `Value.compact`, `Value.pretty`: the two layouts.
-/

namespace DataProduct.Json

/-- A lowercase hex digit. -/
def hexChar (n : Nat) : Char := if n < 10 then Char.ofNat (48 + n) else Char.ofNat (87 + n)

/-- The characters that stand for `c` inside a quoted string. -/
def escapeChar (c : Char) : List Char :=
  match c with
  | '"' => ['\\', '"']
  | '\\' => ['\\', '\\']
  | '\n' => ['\\', 'n']
  | '\r' => ['\\', 'r']
  | '\t' => ['\\', 't']
  | c =>
    if c.toNat = 8 then ['\\', 'b']
    else if c.toNat = 12 then ['\\', 'f']
    else if c.toNat < 0x20 then ['\\', 'u', '0', '0', hexChar (c.toNat / 16), hexChar (c.toNat % 16)]
    else [c]

/-- The quoted form of a string. -/
def quote (s : String) : String :=
  String.ofList ('"' :: (s.toList.flatMap escapeChar ++ ['"']))

mutual

/-- The compact text of a value. -/
def Value.compact : Value → String
  | .null => "null"
  | .bool b => if b then "true" else "false"
  | .number n => n.text
  | .string s => quote s
  | .array items => "[" ++ compactItems items ++ "]"
  | .object members => "\x7b" ++ compactMembers members ++ "\x7d"

/-- The compact text of array items, separated by commas. -/
def compactItems : List Value → String
  | [] => ""
  | [v] => v.compact
  | v :: vs => v.compact ++ "," ++ compactItems vs

/-- The compact text of object members, separated by commas. -/
def compactMembers : List (String × Value) → String
  | [] => ""
  | [(k, v)] => quote k ++ ":" ++ v.compact
  | (k, v) :: ms => quote k ++ ":" ++ v.compact ++ "," ++ compactMembers ms

end

/-- The indentation of a level. -/
def indent (level : Nat) : String := String.ofList (List.replicate (2 * level) ' ')

mutual

/-- The pretty text of a value whose first line stands at `level`. -/
def Value.prettyAt (level : Nat) : Value → String
  | .array [] => "[]"
  | .object [] => "\x7b\x7d"
  | .array items => "[\n" ++ prettyItems (level + 1) items ++ "\n" ++ indent level ++ "]"
  | .object members => "\x7b\n" ++ prettyMembers (level + 1) members ++ "\n" ++ indent level ++ "\x7d"
  | v => v.compact

/-- Pretty array items, one per line at `level`. -/
def prettyItems (level : Nat) : List Value → String
  | [] => ""
  | [v] => indent level ++ v.prettyAt level
  | v :: vs => indent level ++ v.prettyAt level ++ ",\n" ++ prettyItems level vs

/-- Pretty object members, one per line at `level`. -/
def prettyMembers (level : Nat) : List (String × Value) → String
  | [] => ""
  | [(k, v)] => indent level ++ quote k ++ ": " ++ v.prettyAt level
  | (k, v) :: ms => indent level ++ quote k ++ ": " ++ v.prettyAt level ++ ",\n" ++ prettyMembers level ms

end

/-- The pretty text of a value. -/
def Value.pretty (v : Value) : String := v.prettyAt 0

end DataProduct.Json
