import DataProduct.Validation.Walk
import DataProduct.Descriptor.Decode
import DataProduct.Lifecycle

/-!
# The registry's operations on descriptors

The operations a registry runs on a descriptor document, and the errors it answers with. Each
error has a message and an HTTP status: a refused lifecycle action is a conflict (409), every other
error a bad request (400).

* `Registry.run`: a walk in any mode, reporting its errors and the walked descriptor;
* `Registry.validate`, `Registry.validateAndGenerate`, `Registry.generateOnly`: the three modes
  as operations that fail on errors.
-/

namespace DataProduct

open Json

/-- Why the registry refused a request. -/
inductive RegistryError where
  /-- The text held `null`, not a descriptor. -/
  | missingDescriptor
  /-- The descriptor has errors. -/
  | validation (errors : List FieldError)
  /-- The text is not a descriptor. -/
  | parse (error : ReadError)
  /-- Variables were left unbound. -/
  | unresolvedVariables (names : List String)
  /-- The status does not allow the action. -/
  | lifecycle (error : LifecycleError)

namespace RegistryError

/-- The text of an error. -/
def message : RegistryError → String
  | .missingDescriptor => "Descriptor document is missing"
  | .validation errors => FieldError.summary errors
  | .parse e => "Invalid descriptor JSON: " ++ e.message
  | .unresolvedVariables names => "Unresolved descriptor variables: " ++ ", ".intercalate names
  | .lifecycle e => "Lifecycle error: " ++ e.message

/-- The HTTP status of an error. -/
def httpStatus : RegistryError → Nat
  | .lifecycle _ => 409
  | _ => 400

end RegistryError

namespace Registry

/-- The descriptor of a text, or the parse error. -/
def parse (content : String) : Except RegistryError (Option Descriptor) :=
  match Descriptor.parse content with
  | .ok d => .ok d
  | .error e => .error (.parse e)

/-- A walk in a mode over a document that must be there. -/
def run (doc : Option Descriptor) (mode : Mode) (expected : Option String) :
    Except RegistryError (Report Descriptor) :=
  match doc with
  | some d => .ok (d.walk mode expected)
  | none => .error .missingDescriptor

/-- Errors of a report, as a failure when there are any. -/
def accept (r : Report Descriptor) : Except RegistryError Descriptor :=
  if r.errors.isEmpty then .ok r.value else .error (.validation r.errors)

/-- Check a document. -/
def validate (doc : Option Descriptor) (expected : Option String) : Except RegistryError Unit := do
  let _ ← accept (← run doc .validateOnly expected)

/-- Check a document and fill it in one pass; the filled descriptor if it has no errors. -/
def validateAndGenerate (doc : Option Descriptor) (expected : Option String) :
    Except RegistryError Descriptor := do
  accept (← run doc .validateAndGenerate expected)

/-- Fill a document without checking it. -/
def generateOnly (doc : Option Descriptor) : Except RegistryError Descriptor := do
  return (← run doc .generateOnly none).value

end Registry

end DataProduct
