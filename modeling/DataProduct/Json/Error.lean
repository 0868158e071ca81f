import DataProduct.Json.Value
import DataProduct.Text.Quoted

/-!
# Reading errors

Where a text stops being a document of the expected shape, and why. A position is a line, counted
from one, and a column, counted in bytes from the start of the line: column `c` points just after
the `c`-th byte of the line, so the column of an error is that of the last byte read before it.

* `Unexpected.describe`: how a value of the wrong type is named in a message;
* `Fault.message`: the text of each fault;
* `ReadError.message`: the fault with its place, `... at line L column C`.
-/

namespace DataProduct.Json

/-- A place in a text: a line from one, and a column in bytes from the line's start. -/
structure Position where
  line : Nat
  column : Nat
  deriving DecidableEq, Repr

/-- The start of a text. -/
def Position.start : Position := ⟨1, 0⟩

/-- A value found where another type was expected, as messages name it. -/
inductive Unexpected where
  | null
  | bool (b : Bool)
  | unsigned (n : Nat)
  | signed (i : Int)
  | float (x : Binary64)
  | string (s : String)
  | sequence
  | map
  deriving Repr

/-- How the value found is named: its kind, and its text for scalars. -/
def Unexpected.describe : Unexpected → String
  | .null => "null"
  | .bool b => "boolean `" ++ (if b then "true" else "false") ++ "`"
  | .unsigned n => "integer `" ++ Nat.repr n ++ "`"
  | .signed i => "integer `" ++ (Number.signed i).text ++ "`"
  | .float x => "floating point `" ++ x.toText ++ "`"
  | .string s => "string " ++ Text.quoted s
  | .sequence => "sequence"
  | .map => "map"

/-- The unexpected form of a number. -/
def Unexpected.ofNumber : Number → Unexpected
  | .unsigned n => .unsigned n
  | .signed i => .signed i
  | .double x => .float x

/-- Why a text could not be read. -/
inductive Fault where
  | eofInList
  | eofInObject
  | eofInString
  | eofInValue
  | expectedColon
  | expectedListCommaOrEnd
  | expectedObjectCommaOrEnd
  | expectedIdent
  | expectedValue
  | invalidEscape
  | invalidNumber
  | numberOutOfRange
  | controlCharacter
  | keyMustBeString
  | loneLeadingSurrogate
  | trailingComma
  | trailingCharacters
  | unexpectedEndOfHexEscape
  | recursionLimit
  /-- A value of another type than `expected`. -/
  | invalidType (found : Unexpected) (expected : String)
  /-- A record with the same field twice. -/
  | duplicateField (name : String)
  /-- The reader ran out of steps; its step budget is twice the text's length, which every
  text fits in. -/
  | exhausted
  deriving Repr

/-- The text of a fault. -/
def Fault.message : Fault → String
  | .eofInList => "EOF while parsing a list"
  | .eofInObject => "EOF while parsing an object"
  | .eofInString => "EOF while parsing a string"
  | .eofInValue => "EOF while parsing a value"
  | .expectedColon => "expected `:`"
  | .expectedListCommaOrEnd => "expected `,` or `]`"
  | .expectedObjectCommaOrEnd => "expected `,` or `\x7d`"
  | .expectedIdent => "expected ident"
  | .expectedValue => "expected value"
  | .invalidEscape => "invalid escape"
  | .invalidNumber => "invalid number"
  | .numberOutOfRange => "number out of range"
  | .controlCharacter => "control character (\\u0000-\\u001F) found while parsing a string"
  | .keyMustBeString => "key must be a string"
  | .loneLeadingSurrogate => "lone leading surrogate in hex escape"
  | .trailingComma => "trailing comma"
  | .trailingCharacters => "trailing characters"
  | .unexpectedEndOfHexEscape => "unexpected end of hex escape"
  | .recursionLimit => "recursion limit exceeded"
  | .invalidType found expected => "invalid type: " ++ found.describe ++ ", expected " ++ expected
  | .duplicateField name => "duplicate field `" ++ name ++ "`"
  | .exhausted => "input too long"

/-- A fault and where it was found. -/
structure ReadError where
  fault : Fault
  position : Position
  deriving Repr

/-- The text of a reading error. -/
def ReadError.message (e : ReadError) : String :=
  e.fault.message ++ " at line " ++ Nat.repr e.position.line ++ " column " ++
    Nat.repr e.position.column

end DataProduct.Json
