import DataProduct.Json.Token

/-!
# Reading JSON values

A reader walks a text with a cursor: the characters not yet read, their position, and how many
more arrays or objects may be opened inside the current one (128 at the start, so that the 128th
nested container is refused). The cursor is the state of `Reader`, which fails with a
`ReadError`.

The readers here are the parts every typed reading shares: the separators between items and
members with their errors, opening a container, reading a whole value, passing over a value that
is not wanted, and naming a value of the wrong type.

Loops over items take a step budget (`fuel`); each step reads at least one character, so twice
the length of the text is enough for any text (`budget`).

* `nextItem`, `nextKey`: whether another item or member follows, with the errors for a missing
  comma, a trailing comma, a key that is not a string, and the end of the text;
* `readValue`: a whole value, numbers kept as read;
* `skipValue`: a value checked and passed over, with no nesting limit;
* `invalidType`: the error for a value of the wrong type, read through to name it.
-/

namespace DataProduct.Json

/-- Where a reader stands in its text. -/
structure Cursor where
  /-- The characters not yet read. -/
  rest : List Char
  /-- The position of the first of them. -/
  pos : Position
  /-- How many more containers may be opened. -/
  depth : Nat

/-- The cursor at the start of a text. -/
def Cursor.ofString (s : String) : Cursor := ⟨s.toList, Position.start, 128⟩

/-- A computation that reads from a cursor and may fail. -/
abbrev Reader := StateT Cursor (Except ReadError)

/-- The step budget of a text: twice its length, and some more. -/
def budget (s : String) : Nat := 2 * s.length + 8

namespace Reader

/-- Fail with a fault at a position. -/
def fail {α : Type} (f : Fault) (p : Position) : Reader α := throw ⟨f, p⟩

/-- The position of the cursor. -/
def here : Reader Position := do return (← get).pos

/-- The position where an error about the next character is reported. -/
def peekPos : Reader Position := do
  let c ← get
  return c.pos.peek c.rest

/-- The next character after the blanks, which are passed over; none at the end. -/
def peekBlank : Reader (Option Char) := do
  let c ← get
  let (rest, pos) := skipBlank c.rest c.pos
  set { c with rest, pos }
  return rest.head?

/-- Pass over the next character. -/
def bump : Reader Unit :=
  modify fun c =>
    match c.rest with
    | ch :: rest => { c with rest, pos := c.pos.step ch }
    | [] => c

/-- Run a token reader at the cursor. -/
def lex {α : Type} (f : List Char → Position → Lexed α) : Reader α := do
  let c ← get
  match f c.rest c.pos with
  | .ok (a, rest, pos) => set { c with rest, pos }; return a
  | .error e => throw e

/-- Open a container at the next character: one level less is left, and none left is an error
at the bracket. -/
def enter : Reader Unit := do
  let c ← get
  if c.depth ≤ 1 then fail .recursionLimit (← peekPos)
  else set { c with depth := c.depth - 1 }

/-- Close a container: the level is given back. -/
def leave : Reader Unit := modify fun c => { c with depth := c.depth + 1 }

/-- Whether an item follows in an array: at `]` none does; after the first item a comma must
come before the next. -/
def nextItem (first : Bool) : Reader Bool := do
  let next ← match ← peekBlank with
    | some ']' => return false
    | some ',' =>
      if first then pure (some ',')
      else do bump; peekBlank
    | some c =>
      if first then pure (some c) else fail .expectedListCommaOrEnd (← peekPos)
    | none => fail .eofInList (← peekPos)
  match next with
  | some ']' => fail .trailingComma (← peekPos)
  | some _ => return true
  | none => fail .eofInValue (← peekPos)

/-- The key of the next member of an object, read up to its closing quote; none at `}`. After
the first member a comma must come before the next. -/
def nextKey (first : Bool) : Reader (Option String) := do
  let next ← match ← peekBlank with
    | some '}' => return none
    | some ',' =>
      if first then pure (some ',')
      else do bump; peekBlank
    | some c =>
      if first then pure (some c) else fail .expectedObjectCommaOrEnd (← peekPos)
    | none => fail .eofInObject (← peekPos)
  match next with
  | some '"' => bump; return some (← lex readString)
  | some '}' => fail .trailingComma (← peekPos)
  | some _ => fail .keyMustBeString (← peekPos)
  | none => fail .eofInValue (← peekPos)

/-- The colon after a key. -/
def colon : Reader Unit := do
  match ← peekBlank with
  | some ':' => bump
  | some _ => fail .expectedColon (← peekPos)
  | none => fail .eofInObject (← peekPos)

/-- The rest of a literal word after its first letter. -/
def literal (word : String) : Reader Unit := do
  bump
  lex (readLiteral (word.toList.drop 1))

mutual

/-- A whole value, after the blanks before it. -/
def readValue : Nat → Reader Value
  | 0 => do fail .exhausted (← here)
  | fuel + 1 => do
    match ← peekBlank with
    | none => fail .eofInValue (← peekPos)
    | some 'n' => literal "null"; return .null
    | some 't' => literal "true"; return .bool true
    | some 'f' => literal "false"; return .bool false
    | some '"' => bump; return .string (← lex readString)
    | some '[' =>
      enter; bump
      let items ← readItems fuel true []
      leave
      return .array items
    | some '{' =>
      enter; bump
      let members ← readMembers fuel true .empty
      leave
      return .object members.entries
    | some c =>
      if c = '-' ∨ c.isDigit then return .number (← lex readNumber)
      else fail .expectedValue (← peekPos)

/-- The items of an array after its `[`, through its `]`; `acc` holds those read, last first. -/
def readItems : Nat → Bool → List Value → Reader (List Value)
  | 0, _, _ => do fail .exhausted (← here)
  | fuel + 1, first, acc => do
    if ← nextItem first then
      let v ← readValue fuel
      readItems fuel false (v :: acc)
    else
      bump
      return acc.reverse

/-- The members of an object after its `{`, through its `}`, as a map: a later member replaces an
earlier one with the same key. -/
def readMembers : Nat → Bool → Map Value → Reader (Map Value)
  | 0, _, _ => do fail .exhausted (← here)
  | fuel + 1, first, acc => do
    match ← nextKey first with
    | some k =>
      colon
      let v ← readValue fuel
      readMembers fuel false (acc.insert k v)
    | none =>
      bump
      return acc

end

mutual

/-- Pass over the rest of the containers in `frames`, innermost first, after a value or an
opening bracket (`afterValue` tells which): a comma and the next item or member, or the closing
bracket. -/
def skipRest : Nat → List Char → Bool → Reader Unit
  | 0, _, _ => do fail .exhausted (← here)
  | _, [], _ => return
  | fuel + 1, frame :: outer, afterValue => do
    let isList := frame == '['
    let next ← peekBlank
    let closes := (isList && next == some ']') || (!isList && next == some '}')
    if afterValue && next == some ',' then
      bump
      skipMember fuel (frame :: outer)
    else if closes then
      bump
      skipRest fuel outer true
    else
      match next with
      | none => fail (if isList then .eofInList else .eofInObject) (← peekPos)
      | some _ =>
        if afterValue then
          fail (if isList then .expectedListCommaOrEnd else .expectedObjectCommaOrEnd) (← peekPos)
        else skipMember fuel (frame :: outer)

/-- Pass over the next item of the innermost container, with its key and colon if it is an
object's member, and then the rest. -/
def skipMember : Nat → List Char → Reader Unit
  | 0, _ => do fail .exhausted (← here)
  | fuel + 1, frames => do
    if frames.head? == some '{' then
      match ← peekBlank with
      | some '"' => bump; lex skipString
      | some _ => fail .keyMustBeString (← peekPos)
      | none => fail .eofInObject (← peekPos)
      match ← peekBlank with
      | some ':' => bump
      | some _ => fail .expectedColon (← peekPos)
      | none => fail .eofInObject (← peekPos)
    skipAt fuel frames

/-- Pass over a value inside the containers `frames`, and then the rest of them. -/
def skipAt : Nat → List Char → Reader Unit
  | 0, _ => do fail .exhausted (← here)
  | fuel + 1, frames => do
    match ← peekBlank with
    | none => fail .eofInValue (← peekPos)
    | some 'n' => literal "null"; skipRest fuel frames true
    | some 't' => literal "true"; skipRest fuel frames true
    | some 'f' => literal "false"; skipRest fuel frames true
    | some '"' => bump; lex skipString; skipRest fuel frames true
    | some '[' => bump; skipRest fuel ('[' :: frames) false
    | some '{' => bump; skipRest fuel ('{' :: frames) false
    | some c =>
      if c = '-' ∨ c.isDigit then lex skipNumber; skipRest fuel frames true
      else fail .expectedValue (← peekPos)

end

/-- Pass over a whole value, checking its syntax only. Every three steps of the pass read at least
one character, so three steps for each character left (and some more) are enough. -/
def skipValue : Reader Unit := do skipAt (3 * (← get).rest.length + 8) []

/-- The error for a value of another type than `expected` at the next character: the value is
read far enough to name it, and errors met on the way are reported instead. -/
def invalidType {α : Type} (expected : String) : Reader α := do
  let found ← match (← get).rest.head? with
    | some 'n' => do literal "null"; pure Unexpected.null
    | some 't' => do literal "true"; pure (Unexpected.bool true)
    | some 'f' => do literal "false"; pure (Unexpected.bool false)
    | some '"' => do bump; pure (Unexpected.string (← lex readString))
    | some '[' => pure Unexpected.sequence
    | some '{' => pure Unexpected.map
    | some c =>
      if c = '-' ∨ c.isDigit then do pure (Unexpected.ofNumber (← lex readNumber))
      else fail .expectedValue (← peekPos)
    | none => fail .expectedValue (← peekPos)
  fail (.invalidType found expected) (← here)

/-- Nothing but blanks is left. -/
def finish : Reader Unit := do
  match ← peekBlank with
  | some _ => fail .trailingCharacters (← peekPos)
  | none => return

end Reader

/-- The value a whole text holds. -/
def Value.parse (s : String) : Except ReadError Value :=
  (do let v ← Reader.readValue (budget s); Reader.finish; return v).run' (Cursor.ofString s)

end DataProduct.Json
