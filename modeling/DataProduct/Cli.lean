import DataProduct.Validation.Walk

/-!
# The command line of the validator

The validator is run as `dpds-validate FILE [--mode M] [--expected-fqn F] [--var K=V]...
[--strict-variables] [--format text|json]`. Arguments are read from left to right:

* an option's value is attached (`--mode=validate`) or is the next argument that is not a flag;
  an attached value is checked at once, a following one when the next flag, the file or the end
  comes, so an unknown argument before that is reported first;
* a value is checked for being there, then for the option not having been given before, then
  for being one the option allows;
* `--` makes every later argument a file; a second file, an unknown flag, and a value attached to
  a flag without values are errors; `-h` or `--help` asks for help;
* at the end the file must have been given. The mode defaults to `validate` and the format to
  `text`.

* `Options.parse`: the options of a list of arguments, or the error.
-/

namespace DataProduct.Cli

/-- How results are written. -/
inductive OutputFormat where
  | text
  | json
  deriving DecidableEq, Repr

/-- The name of a format. -/
def OutputFormat.name : OutputFormat → String
  | .text => "text"
  | .json => "json"

/-- What a run of the validator is asked to do. -/
structure Options where
  file : String
  mode : Mode
  expectedFqn : Option String
  vars : List String
  strictVariables : Bool
  format : OutputFormat
  deriving Repr

/-- Why a command line was refused. -/
inductive CliError where
  | invalidValue
  | missingRequiredArgument
  | unknownArgument
  | argumentConflict
  | tooManyValues
  | displayHelp
  deriving DecidableEq, Repr

/-- The arguments that take one value. -/
inductive Slot where
  | file
  | mode
  | expectedFqn
  | var
  | format
  deriving DecidableEq, Repr

/-- The option of a long flag's name, if it takes a value. -/
def Slot.ofLong? : String → Option Slot
  | "mode" => some .mode
  | "expected-fqn" => some .expectedFqn
  | "var" => some .var
  | "format" => some .format
  | _ => none

/-- The mode a `--mode` value names. -/
def modeOfArg? : String → Option Mode
  | "validate" => some .validateOnly
  | "validate-and-generate" => some .validateAndGenerate
  | "generate-only" => some .generateOnly
  | _ => none

/-- The format a `--format` value names. -/
def formatOfArg? : String → Option OutputFormat
  | "text" => some .text
  | "json" => some .json
  | _ => none

/-- The arguments read so far. -/
structure State where
  file : Option String := none
  mode : Option Mode := none
  expectedFqn : Option String := none
  vars : List String := []
  strictVariables : Bool := false
  format : Option OutputFormat := none
  /-- The argument whose values are read but not yet checked. -/
  pending : Option (Slot × List String) := none
  /-- Whether the pending option still waits for its value. -/
  waiting : Bool := false
  /-- Whether the file was given. -/
  fileGiven : Bool := false
  /-- Whether `--` was read. -/
  escaped : Bool := false

namespace State

/-- A value that must not have been given before. -/
def once {α : Type} (old : Option α) (new : Option α) : Except CliError (Option α) :=
  if old.isSome then .error .argumentConflict
  else match new with
    | some a => .ok (some a)
    | none => .error .invalidValue

/-- Check the pending argument's values and take them in. -/
def settle (st : State) : Except CliError State := do
  match st.pending with
  | none => return st
  | some (slot, values) =>
    let st := { st with pending := none, waiting := false }
    match values with
    | [] => throw .invalidValue
    | v :: _ =>
      match slot with
      | .file => return { st with file := ← once st.file (if v.isEmpty then none else some v) }
      | .mode => return { st with mode := ← once st.mode (modeOfArg? v) }
      | .expectedFqn => return { st with expectedFqn := ← once st.expectedFqn (some v) }
      | .var => return { st with vars := st.vars ++ [v] }
      | .format => return { st with format := ← once st.format (formatOfArg? v) }

/-- An argument in the file's place. -/
def positional (st : State) (arg : String) : Except CliError State := do
  if st.fileGiven then throw .unknownArgument
  let st ← st.settle
  return { st with pending := some (.file, [arg]), fileGiven := true }

/-- A long flag `--name` or `--name=value`. -/
def long (st : State) (name : String) (value : Option String) : Except CliError State := do
  match Slot.ofLong? name, value with
  | some slot, some v =>
    let st ← st.settle
    { st with pending := some (slot, [v]) }.settle
  | some slot, none =>
    let st ← st.settle
    return { st with pending := some (slot, []), waiting := true }
  | none, some _ =>
    if name = "strict-variables" ∨ name = "help" then throw .tooManyValues
    else throw .unknownArgument
  | none, none =>
    if name = "strict-variables" then
      let st ← st.settle
      if st.strictVariables then throw .argumentConflict
      return { st with strictVariables := true }
    else if name = "help" then
      let _ ← st.settle
      throw .displayHelp
    else throw .unknownArgument

/-- One argument. -/
def step (st : State) (arg : String) : Except CliError State := do
  if st.escaped then st.positional arg
  else if arg = "--" then return { st with escaped := true }
  else if arg.startsWith "--" then
    let body := (arg.drop 2).toString
    match splitAtEq body.toList with
    | (name, some v) => st.long (String.ofList name) (some (String.ofList v))
    | (name, none) => st.long (String.ofList name) none
  else if arg.startsWith "-" ∧ arg.length > 1 then
    if (arg.drop 1).startsWith "h" then
      let _ ← st.settle
      throw .displayHelp
    else throw .unknownArgument
  else if st.waiting then
    return { st with pending := st.pending.map fun (slot, vs) => (slot, vs ++ [arg]),
                     waiting := false }
  else st.positional arg
where
  /-- The text before the first `=`, and the text after it when there is one. -/
  splitAtEq : List Char → List Char × Option (List Char)
    | [] => ([], none)
    | c :: cs =>
      if c = '=' then ([], some cs)
      else
        let r := splitAtEq cs
        (c :: r.1, r.2)

end State

/-- The options of the arguments after the program's name. -/
def Options.parse (args : List String) : Except CliError Options := do
  let st ← args.foldlM State.step {}
  let st ← st.settle
  match st.file with
  | none => throw .missingRequiredArgument
  | some file =>
    return ⟨file, st.mode.getD .validateOnly, st.expectedFqn, st.vars, st.strictVariables,
      st.format.getD .text⟩

end DataProduct.Cli
