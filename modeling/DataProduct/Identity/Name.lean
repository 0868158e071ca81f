import DataProduct.Identity.Uuid

/-!
# Fully qualified names

Names of the nodes of a data product. A port or an internal component is named below the data
product (`parent:segment:name`); a standard definition is named in the mesh namespace, the text of
the data product's name before the first `:dataproducts:` (`namespace:apis:name:version`); and
every named node gets an identifier, the name-based UUID of its name.

Every argument must be non-empty. Arguments are checked in the order they are written, and the
first empty one is the error.

* `componentName`, `definitionName`, `idOf`: the three builders;
* `meshNamespace`: the text before the first marker.
-/

namespace DataProduct

/-- Why a name or identifier could not be built. -/
inductive IdentityError where
  /-- An argument, named as in the message, was empty. -/
  | emptyArgument (argument : String)
  /-- The data product's name has no `:dataproducts:` marker. -/
  | missingMeshNamespace (fqn : String)
  deriving DecidableEq, Repr

namespace IdentityError

/-- The text an identity error is shown with. -/
def message : IdentityError → String
  | .emptyArgument a => "'" ++ a ++ "' must not be empty"
  | .missingMeshNamespace f =>
    "Cannot extract mesh namespace from '" ++ f ++ "': missing ':dataproducts:' segment"

end IdentityError

namespace Identity

/-- The marker that ends the mesh namespace in a data product's name. -/
def marker : String := ":dataproducts:"

/-- The value itself when it is non-empty, else the error naming `argument`. -/
def nonEmpty (value argument : String) : Except IdentityError String :=
  if value.isEmpty then .error (.emptyArgument argument) else .ok value

/-- The name `parent:segment:name` of a child of the data product. -/
def componentName (parent segment name : String) : Except IdentityError String := do
  let parent ← nonEmpty parent "parentFqn"
  let segment ← nonEmpty segment "typeSegment"
  let name ← nonEmpty name "name"
  return parent ++ ":" ++ segment ++ ":" ++ name

/-- The name `namespace:<entityType>s:name:version` of a standard definition. -/
def definitionName (ns entityType name version : String) : Except IdentityError String := do
  let ns ← nonEmpty ns "namespace"
  let entityType ← nonEmpty entityType "entityType"
  let name ← nonEmpty name "name"
  let version ← nonEmpty version "version"
  return ns ++ ":" ++ entityType ++ "s:" ++ name ++ ":" ++ version

/-- The text before the first occurrence of `m`, when `m` occurs. -/
def before (m : List Char) : List Char → Option (List Char)
  | [] => if m.isEmpty then some [] else none
  | c :: cs => if m.isPrefixOf (c :: cs) then some [] else (before m cs).map (c :: ·)

/-- The mesh namespace of a data product's name: the text before its first marker, which may be
empty. -/
def meshNamespace (fqn : String) : Except IdentityError String :=
  match before marker.toList fqn.toList with
  | some ns => .ok (String.ofList ns)
  | none => .error (.missingMeshNamespace fqn)

/-- The identifier of a node with the given name. -/
def idOf (fqn : String) : Except IdentityError String := do
  let fqn ← nonEmpty fqn "fqn"
  return Uuid.ofUrl fqn

end Identity

end DataProduct
