import DataProduct.Json.Reader

/-!
# Typed reading

Decoders read the next value of a text as a value of a Lean type, and say what they expected when
the text holds something else (`a string`, `a sequence`, `a map`, `struct Name`).

A record is read from an object, member by member: a known key sets its field, a key met twice
is an error, and an unknown key is passed over. It is also read from an array, whose items are
the fields in their order; missing items leave fields at their defaults, and extra items are an
error. A field's absence and a `null` in an optional field both leave it at `none`.

* `Decoder.string`, `Decoder.option`, `Decoder.list`, `Decoder.dict`, `Decoder.value`;
* `Decoder.record`: a record from its fields, each a key with a setter;
* `Decoder.readText`: a whole text, with nothing but blanks after the value.
-/

namespace DataProduct.Json

/-- A reader of the next value of a text as a value of `α`, given a step budget. -/
abbrev Decoder (α : Type) := Nat → Reader α

namespace Decoder

open Reader

/-- A string. -/
def string : Decoder String := fun _ => do
  match ← peekBlank with
  | none => fail .eofInValue (← peekPos)
  | some '"' => bump; lex readString
  | some _ => invalidType "a string"

/-- Any value, its objects as maps. Reading builds every object as a map, key by key, so sorting
the value read changes nothing (`SortedValue.val_ofValue`). -/
def value : Decoder SortedValue := fun fuel => do return .ofValue (← readValue fuel)

/-- `null` as none, or a value of `d`. -/
def option {α : Type} (d : Decoder α) : Decoder (Option α) := fun fuel => do
  match ← peekBlank with
  | some 'n' => literal "null"; return none
  | _ => return some (← d fuel)

/-- The items of an array after its `[`, through its `]`, each read by `d`. -/
def items {α : Type} (d : Decoder α) : Nat → Bool → List α → Reader (List α)
  | 0, _, _ => do fail .exhausted (← here)
  | fuel + 1, first, acc => do
    if ← nextItem first then
      let x ← d fuel
      items d fuel false (x :: acc)
    else
      bump
      return acc.reverse

/-- An array, each item read by `d`. -/
def list {α : Type} (d : Decoder α) : Decoder (List α) := fun fuel => do
  match ← peekBlank with
  | none => fail .eofInValue (← peekPos)
  | some '[' =>
    enter; bump
    let xs ← items d fuel true []
    leave
    return xs
  | some _ => invalidType "a sequence"

/-- The entries of an object after its `{`, through its `}`, as a map: a later entry replaces an
earlier one with the same key. -/
def entries {α : Type} (d : Decoder α) : Nat → Bool → Map α → Reader (Map α)
  | 0, _, _ => do fail .exhausted (← here)
  | fuel + 1, first, acc => do
    match ← nextKey first with
    | some k =>
      colon
      let v ← d fuel
      entries d fuel false (acc.insert k v)
    | none =>
      bump
      return acc

/-- An object read as a map from its keys to values of `d`. -/
def dict {α : Type} (d : Decoder α) : Decoder (Map α) := fun fuel => do
  match ← peekBlank with
  | none => fail .eofInValue (← peekPos)
  | some '{' =>
    enter; bump
    let m ← entries d fuel true .empty
    leave
    return m
  | some _ => invalidType "a map"

/-- A field of a record of type `α`: its key, and the change its value makes to the record. -/
structure Field (α : Type) where
  key : String
  read : Decoder (α → α)

/-- The field with key `key`, whose value `d` reads and `set` puts into the record. -/
def field {α β : Type} (key : String) (d : Decoder β) (set : β → α → α) : Field α :=
  ⟨key, fun fuel => do return set (← d fuel)⟩

/-- The fields of a record read from the items of an array, in order, after its `[`. -/
def positional {α : Type} (fuel : Nat) : List (Field α) → Bool → α → Reader α
  | [], _, r => return r
  | f :: fs, first, r => do
    if ← nextItem first then
      let set ← f.read fuel
      positional fuel fs false (set r)
    else return r

/-- The end of an array read as a record: its `]`, where more items or a comma are an error. -/
def endPositional : Reader Unit := do
  match ← peekBlank with
  | some ']' => bump
  | some ',' =>
    bump
    match ← peekBlank with
    | some ']' => fail .trailingComma (← peekPos)
    | _ => fail .trailingCharacters (← peekPos)
  | some _ => fail .trailingCharacters (← peekPos)
  | none => fail .eofInList (← peekPos)

/-- The error for a key met twice in a record; it is reported after the blanks that follow the
key, and after the object's `}` if that comes next. -/
def duplicate {α : Type} (key : String) : Reader α := do
  if (← peekBlank) == some '}' then bump
  fail (.duplicateField key) (← here)

/-- The members of an object read as a record, after its `{`, through its `}`; `seen` holds the
keys of the fields set so far. -/
def keyed {α : Type} (fields : List (Field α)) : Nat → List String → Bool → α → Reader α
  | 0, _, _, _ => do fail .exhausted (← here)
  | fuel + 1, seen, first, r => do
    match ← nextKey first with
    | none =>
      bump
      return r
    | some k =>
      match fields.find? (·.key == k) with
      | some f =>
        if seen.contains k then duplicate k
        else
          colon
          let set ← f.read fuel
          keyed fields fuel (k :: seen) false (set r)
      | none =>
        colon
        skipValue
        keyed fields fuel seen false r

/-- A record named `name`, starting from `init`, from an object or an array. -/
def record {α : Type} (name : String) (init : α) (fields : List (Field α)) : Decoder α :=
  fun fuel => do
    match ← peekBlank with
    | none => fail .eofInValue (← peekPos)
    | some '[' =>
      enter; bump
      let r ← positional fuel fields true init
      endPositional
      leave
      return r
    | some '{' =>
      enter; bump
      let r ← keyed fields fuel [] true init
      leave
      return r
    | some _ => invalidType ("struct " ++ name)

/-- The value of a whole text, with nothing but blanks after it. -/
def readText {α : Type} (d : Decoder α) (s : String) : Except ReadError α :=
  (do let a ← d (budget s); finish; return a).run' (Cursor.ofString s)

end Decoder

end DataProduct.Json
