import DataProduct.Registry
import DataProduct.Template

/-!
# Publishing a descriptor

Publishing takes an approved data product's descriptor template, binds its variables, reads it,
checks it against the product's expected name and fills its identities. The first failing step
decides the error, in this order: the lifecycle (only an approved product may be published), the
variables (in strict mode, none may be left unbound), the reading, and the checks.

* `publish`: the published descriptor, its data product's identifier and the new status.
-/

namespace DataProduct

/-- What publishing needs: the product's expected name and status, the template, the values of
its variables, and whether unbound variables are refused. -/
structure PublishRequest where
  fqn : String
  status : Status
  content : String
  «variables» : Json.Members String
  strict : Bool

/-- A published descriptor, with the identifier of its data product and its status. -/
structure Published where
  descriptor : Descriptor
  productId : Option String
  status : Status

/-- Publish a descriptor. -/
def publish (r : PublishRequest) : Except RegistryError Published := do
  let status ← match r.status.apply .publish with
    | .ok s => pure s
    | .error e => throw (.lifecycle e)
  let sub := Template.substitute r.content r.variables
  if r.strict && !sub.complete then throw (.unresolvedVariables sub.unresolved)
  let d ← Registry.validateAndGenerate (← Registry.parse sub.content) (some r.fqn)
  return ⟨d, d.info.bind (·.identity.id), status⟩

end DataProduct
