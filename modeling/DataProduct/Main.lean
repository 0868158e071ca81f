import DataProduct.Cli
import DataProduct.Registry
import DataProduct.Template
import DataProduct.Descriptor.Encode
import DataProduct.Json.Print

/-!
# The validator's command line

`dpds-validate FILE` reads a descriptor template from a file, binds the `--var` variables, reads
the descriptor and walks it in the chosen mode. The result is written as text (the mode, the
verdict, then the filled descriptor or the errors) or as one JSON object. The exit code is 1 when
the descriptor has errors or cannot be read, and 2 when the command line is refused.
-/

namespace DataProduct.Main

open Json

/-- The JSON object of a run. -/
def reportValue (mode : Mode) (r : Report Descriptor) (doc : Option Descriptor) : Value :=
  Value.sorted <| .object [
    ("mode", .string mode.name), ("valid", .bool r.errors.isEmpty),
    ("errors", .array (r.errors.map fun e => .object [("field_path", .string e.path.render),
      ("kind", .string e.kind.name), ("message", .string e.message)])),
    ("descriptor", match doc with | some d => d.toValue | none => .null)]

/-- The text lines of a run. -/
def reportLines (mode : Mode) (r : Report Descriptor) (doc : Option Descriptor) : List String :=
  let head := ["Mode:        " ++ mode.name,
    "Validation:  " ++ (if r.errors.isEmpty then "PASSED" else "FAILED")]
  if r.errors.isEmpty then
    match doc with
    | some d => if mode.generates then head ++ ["", d.toValue.pretty] else head
    | none => head
  else head ++ ["", "Errors:"] ++ r.errors.map fun e => "  [" ++ e.kind.name ++ "] " ++ e.text

/-- What a run prints and its exit code, from the file's text. -/
def runText (o : Cli.Options) (raw : String) : Except String (List String × UInt32) := do
  let sub := Template.substitute raw (Template.parseBindings o.vars)
  if !sub.complete && o.strictVariables then
    throw ("Unresolved descriptor variables: " ++ ", ".intercalate sub.unresolved)
  let fail (e : RegistryError) : Except String (Option Descriptor) := .error e.message
  let doc ← match Registry.parse sub.content with
    | .ok d => pure d
    | .error e => fail e
  let r ← match Registry.run doc o.mode o.expectedFqn with
    | .ok r => pure r
    | .error e => .error e.message
  let code : UInt32 := if r.errors.isEmpty then 0 else 1
  let walked := doc.map fun _ => r.value
  match o.format with
  | .json => return ([(reportValue o.mode r walked).pretty], code)
  | .text => return (reportLines o.mode r walked, code)

end DataProduct.Main

open DataProduct in
def main (args : List String) : IO UInt32 := do
  match Cli.Options.parse args with
  | .error _ =>
    IO.eprintln "error: invalid arguments; usage: dpds-validate <FILE> [--mode <MODE>] [--expected-fqn <FQN>] [--var <KEY=VALUE>]... [--strict-variables] [--format <FORMAT>]"
    return 2
  | .ok o =>
    match ← (IO.FS.readFile o.file).toBaseIO with
    | .error _ =>
      IO.eprintln ("Error: reading " ++ o.file)
      return 1
    | .ok raw =>
    match Main.runText o raw with
    | .error msg =>
      IO.eprintln ("Error: " ++ msg)
      return 1
    | .ok (lines, code) =>
      for l in lines do IO.println l
      return code
