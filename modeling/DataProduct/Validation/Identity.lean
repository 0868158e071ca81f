import DataProduct.Validation.Report
import DataProduct.Descriptor.Basic
import DataProduct.SemVer
import DataProduct.Identity.Name

/-!
# Checking and filling identities

The step every addressable node goes through. A value counts as present when it is there and not
empty; an empty string is the same as a missing one.

Checking: a present version must be a semantic version, and a present entity type must be the one
the node's place calls for.

Filling: a missing entity type becomes the expected one; a missing name is derived from the
node's place when the parts for it are there; then a missing identifier is derived from the name,
given or derived. Present values are never replaced.

* `Identity.check`: the errors of the check, version first;
* `Identity.fill`: the filled identity, and the error met in deriving the name, if any.
-/

namespace DataProduct

/-- The value when it is present: there and not empty. -/
def present : Option String → Option String
  | some s => if s.isEmpty then none else some s
  | none => none

/-- Whether a value is present. -/
def isPresent (v : Option String) : Bool := (present v).isSome

namespace Identity

/-- The errors of an identity at `path` whose place calls for entity type `expected`. -/
def check (i : Identity) (expected : String) (path : Path) : List FieldError :=
  let version := match present i.version with
    | some v =>
      if SemVer.accepts v then []
      else [⟨path ++ [.key "version"], .invalidSemanticVersion, SemVer.rejection v⟩]
    | none => []
  let entity := match present i.entityType with
    | some t =>
      if t = expected then []
      else [⟨path ++ [.key "entityType"], .entityTypeMismatch,
        "Entity type '" ++ t ++ "' does not match expected '" ++ expected ++ "'"⟩]
    | none => []
  version ++ entity

/-- The identity with missing parts filled in: the entity type `expected`, the name `derive`
gives (none when its parts are missing), and the identifier of the name. The error is the one
`derive` met, if it was asked and failed. -/
def fill (i : Identity) (expected : String)
    (derive : Identity → Option (Except IdentityError String)) :
    Identity × Option IdentityError :=
  let i := if isPresent i.entityType then i else { i with entityType := some expected }
  let (i, err) :=
    if isPresent i.fullyQualifiedName then (i, none)
    else match derive i with
      | some (.ok fqn) => ({ i with fullyQualifiedName := some fqn }, none)
      | some (.error e) => (i, some e)
      | none => (i, none)
  let i :=
    if isPresent i.id then i
    else match present i.fullyQualifiedName with
      | some fqn => { i with id := some (Uuid.ofUrl fqn) }
      | none => i
  (i, err)

end Identity

end DataProduct
