import DataProduct.Validation.Identity

/-!
# The walk over a descriptor

One pass over a descriptor checks it, fills in the missing parts of its identities, or both, as
the `Mode` says. Nodes are visited in document order: the root, `info`, the ports collection by
collection (input, output, discovery, observability, control) with the definitions on each port,
the application and then the infrastructural components, and last the keys of the reusable
components. Errors are reported in that order.

At each node the checks come first and the filling after, and a node's filling never reads
another node, except the data product's own name, which is taken before the walk and is never
filled. So the checks a combined walk reports are those of a checking walk, with only the
failures of deriving a name added.

Within one collection of ports, and within each kind of component, a name may appear once; each
later appearance is an error at that node.

* `Descriptor.walk`: the walked descriptor and its errors.
-/

namespace DataProduct

/-- What a walk does to a descriptor. -/
inductive Mode where
  /-- Check only; the descriptor is left as it is. -/
  | validateOnly
  /-- Check and fill in one pass. -/
  | validateAndGenerate
  /-- Fill only; no error is reported. -/
  | generateOnly
  deriving DecidableEq, Repr

namespace Mode

/-- Whether the walk checks. -/
def validates : Mode → Bool
  | .generateOnly => false
  | _ => true

/-- Whether the walk fills. -/
def generates : Mode → Bool
  | .validateOnly => false
  | _ => true

/-- The name of a mode. -/
def name : Mode → String
  | .validateOnly => "validate-only"
  | .validateAndGenerate => "validate-and-generate"
  | .generateOnly => "generate-only"

/-- Every mode. -/
def all : List Mode := [.validateOnly, .validateAndGenerate, .generateOnly]

end Mode

/-- Where a walk stands: its mode, the path of the node, and the data product's name. -/
structure Scope where
  mode : Mode
  path : Path
  productFqn : Option String

namespace Scope

/-- The scope of a member. -/
def child (s : Scope) (k : String) : Scope := { s with path := s.path ++ [.key k] }

/-- The scope of an item. -/
def item (s : Scope) (i : Nat) : Scope := { s with path := s.path ++ [.index i] }

/-- The path of a field of the node. -/
def field (s : Scope) (k : String) : Path := s.path ++ [.key k]

/-- Report errors when the walk checks. -/
def check (s : Scope) (errors : List FieldError) : Report Unit :=
  if s.mode.validates then Report.tell errors else pure ()

/-- The identity step: check, then fill. A failure to derive the name is reported at the
node's `fullyQualifiedName` when the walk also checks. -/
def identity (s : Scope) (i : Identity) (expected : String)
    (derive : Identity → Option (Except IdentityError String)) : Report Identity := do
  s.check (i.check expected s.path)
  if s.mode.generates then
    let (i', err) := i.fill expected derive
    match err with
    | some e => s.check [⟨s.field "fullyQualifiedName", .fqnExtractionFailure, e.message⟩]
    | none => pure ()
    return i'
  else return i

end Scope

/-- The error for a required value at `path` when it is not present. -/
def require (v : Option String) (path : Path) : List FieldError :=
  if isPresent v then [] else [⟨path, .missingRequiredField, missingMessage⟩]

/-- The error for a name already seen in its group. -/
def duplicateName (label : String) (name : Option String) (seen : List String) (path : Path) :
    List FieldError :=
  match present name with
  | some n => if seen.contains n then [⟨path, .duplicateName, "Duplicate " ++ label ++ " name '" ++
      n ++ "'"⟩] else []
  | none => []

/-- The names seen after a node with `name`. -/
def seenAfter (name : Option String) (seen : List String) : List String :=
  match present name with
  | some n => n :: seen
  | none => seen

/-- A value of an optional field, walked when it is there. -/
def walkOption {α : Type} (f : α → Report α) : Option α → Report (Option α)
  | some a => do return some (← f a)
  | none => pure none

/-- The nodes of one collection, from index `i` on, after nodes whose names are `seen`: each is
walked at its index against the names seen before it, and its own name, when present, is seen
after it. -/
def walkItems {α : Type} (step : Scope → List String → α → Report α) (name : α → Option String)
    (s : Scope) : List α → Nat → List String → Report (List α)
  | [], _, _ => pure []
  | a :: as, i, seen => do
    let a' ← step (s.item i) seen a
    let as' ← walkItems step name s as (i + 1) (seenAfter (name a) seen)
    return a' :: as'

/-- A standard definition: it needs a specification and a definition; its name is derived in the
mesh namespace from its own name and version. -/
def StandardDefinition.walk (s : Scope) (d : StandardDefinition) : Report StandardDefinition := do
  let hasDefinition := match d.definition with
    | some ⟨.null, _⟩ => false
    | some _ => true
    | none => false
  s.check (require d.specification (s.field "specification") ++
    (if hasDefinition then [] else [⟨s.field "definition", .missingRequiredField, missingMessage⟩]))
  let kind := DefinitionKind.api
  let identity ← s.identity d.identity kind.entityType fun i =>
    match s.productFqn, present i.name, present i.version with
    | some p, some n, some v =>
      some (do Identity.definitionName (← Identity.meshNamespace p) kind.entityType n v)
    | _, _, _ => none
  return { d with identity }

/-- The promises of a port. -/
def Promises.walk (s : Scope) (r : Promises) : Report Promises := do
  let api ← walkOption (StandardDefinition.walk (s.child "api")) r.api
  let deprecationPolicy ←
    walkOption (StandardDefinition.walk (s.child "deprecationPolicy")) r.deprecationPolicy
  let slo ← walkOption (StandardDefinition.walk (s.child "slo")) r.slo
  return { r with api, deprecationPolicy, slo }

/-- The expectations of a port. -/
def Expectations.walk (s : Scope) (r : Expectations) : Report Expectations := do
  let audience ← walkOption (StandardDefinition.walk (s.child "audience")) r.audience
  let usage ← walkOption (StandardDefinition.walk (s.child "usage")) r.usage
  return { r with audience, usage }

/-- The obligations of a port. -/
def Obligations.walk (s : Scope) (r : Obligations) : Report Obligations := do
  let termsAndConditions ←
    walkOption (StandardDefinition.walk (s.child "termsAndConditions")) r.termsAndConditions
  let billingPolicy ← walkOption (StandardDefinition.walk (s.child "billingPolicy")) r.billingPolicy
  let sla ← walkOption (StandardDefinition.walk (s.child "sla")) r.sla
  return { r with termsAndConditions, billingPolicy, sla }

/-- A port of a kind, after ports whose names are `seen`: it needs a name and a version, and its
name is derived below the data product's. -/
def Port.walk (kind : PortKind) (s : Scope) (seen : List String) (p : Port) : Report Port := do
  s.check (require p.identity.name (s.field "name") ++ require p.identity.version (s.field "version") ++
    duplicateName kind.label p.identity.name seen (s.field "name"))
  let identity ← s.identity p.identity kind.entityType fun i =>
    match s.productFqn, present i.name with
    | some parent, some n => some (Identity.componentName parent kind.segment n)
    | _, _ => none
  let promises ← walkOption (Promises.walk (s.child "promises")) p.promises
  let expectations ← walkOption (Expectations.walk (s.child "expectations")) p.expectations
  let obligations ← walkOption (Obligations.walk (s.child "obligations")) p.obligations
  return { p with identity, promises, expectations, obligations }

/-- The ports of a data product: the output ports are required, even if empty. -/
def InterfaceComponents.walk (s : Scope) (r : InterfaceComponents) : Report InterfaceComponents := do
  s.check (if r.outputPorts.isSome then [] else
    [⟨s.field "outputPorts", .missingRequiredField, missingMessage⟩])
  let collection (k : PortKind) (ps : List Port) :=
    walkItems (Port.walk k) (·.identity.name) (s.child k.collection) ps 0 []
  let inputPorts ← collection .input r.inputPorts
  let outputPorts ← walkOption (collection .output) r.outputPorts
  let discoveryPorts ← collection .discovery r.discoveryPorts
  let observabilityPorts ← collection .observability r.observabilityPorts
  let controlPorts ← collection .control r.controlPorts
  return { r with inputPorts, outputPorts, discoveryPorts, observabilityPorts, controlPorts }

/-- A component of a kind, after components whose names are `seen`: it needs a name, and its name
is derived below the data product's. -/
def Component.walk (kind : ComponentKind) (s : Scope) (seen : List String) (c : Component) :
    Report Component := do
  s.check (require c.identity.name (s.field "name") ++
    duplicateName kind.label c.identity.name seen (s.field "name"))
  let identity ← s.identity c.identity kind.entityType fun i =>
    match s.productFqn, present i.name with
    | some parent, some n => some (Identity.componentName parent kind.segment n)
    | _, _ => none
  return { c with identity }

/-- What runs inside a data product; lifecycle tasks have nothing to check or fill. -/
def InternalComponents.walk (s : Scope) (r : InternalComponents) : Report InternalComponents := do
  let applicationComponents ← walkItems (Component.walk .application) (·.identity.name)
    (s.child ComponentKind.application.collection) r.applicationComponents 0 []
  let infrastructuralComponents ← walkItems (Component.walk .infrastructural) (·.identity.name)
    (s.child ComponentKind.infrastructural.collection) r.infrastructuralComponents 0 []
  return { r with applicationComponents, infrastructuralComponents }

/-- Whether a component key is made of ASCII letters, digits, `.`, `_` and `-` only, and is not
empty. -/
def validComponentKey (k : String) : Bool :=
  !k.isEmpty && k.toList.all fun c =>
    (c.isAlphanum && c.toNat < 128) || c == '.' || c == '_' || c == '-'

/-- The errors of the keys of one map of reusable components, labelled by its path, after keys
`seen`. -/
def componentKeyErrors (label : Path) : List String → List String → List FieldError
  | [], _ => []
  | k :: ks, seen =>
    let labelText := label.render
    let path := if k.isEmpty then label else label ++ [.key k]
    let here : List FieldError :=
      if k.isEmpty then
        [⟨path, .invalidOrDuplicateComponentKey,
          "Component key in '" ++ labelText ++ "' must not be empty"⟩]
      else if !validComponentKey k then
        [⟨path, .invalidOrDuplicateComponentKey, "Component key '" ++ k ++
          "' is invalid: only letters, digits, '.', '_' and '-' are allowed"⟩]
      else if seen.contains k then
        [⟨path, .invalidOrDuplicateComponentKey,
          "Duplicate component key '" ++ k ++ "' in '" ++ labelText ++ "'"⟩]
      else []
    let seen := if k.isEmpty || !validComponentKey k then seen else k :: seen
    here ++ componentKeyErrors label ks seen

/-- The keys seen after checking `ks` from `seen`: each key that is neither empty nor invalid. -/
def keysSeenAfter : List String → List String → List String
  | [], seen => seen
  | k :: ks, seen => keysSeenAfter ks (if k.isEmpty || !validComponentKey k then seen else k :: seen)

/-- The errors of the keys of maps of reusable components, map by map, where `registry` gives the
keys seen so far under the text of each map's path: a key repeats only a key seen under the same
text, and the keys of a map are added under its text once it is checked. -/
def mapsKeyErrors : List (Path × List String) → (String → List String) → List FieldError
  | [], _ => []
  | (label, ks) :: rest, registry =>
    componentKeyErrors label ks (registry label.render) ++
      mapsKeyErrors rest fun l => if l = label.render then keysSeenAfter ks (registry l) else registry l

/-- The reusable components: only their keys are checked, map by map, each in key order, with one
registry of the keys seen for the whole walk. -/
def Components.walk (s : Scope) (r : Components) : Report Components := do
  s.check (mapsKeyErrors (r.maps.map fun km => (s.field km.1, km.2.keys)) fun _ => [])
  return r

/-- The data product's own part: it needs a name, a short name, a version, a domain and an owner
with an identifier. Its name is never derived. -/
def Info.walk (s : Scope) (r : Info) : Report Info := do
  let owner := match r.owner with
    | some o => require o.id (s.path ++ [.key "owner", .key "id"])
    | none => [⟨s.field "owner", .missingRequiredField, missingMessage⟩]
  s.check (require r.identity.fullyQualifiedName (s.field "fullyQualifiedName") ++
    require r.identity.name (s.field "name") ++ require r.identity.version (s.field "version") ++
    require r.domain (s.field "domain") ++ owner)
  let identity ← s.identity r.identity dataProductEntityType fun _ => none
  return { r with identity }

/-- The name of the data product: that of `info`, when present. -/
def Descriptor.productFqn (d : Descriptor) : Option String :=
  match d.info with
  | some i => present i.identity.fullyQualifiedName
  | none => none

/-- A walk over a whole descriptor in a mode. When `expected` is given, the data product's name,
if present, must be it. -/
def Descriptor.walk (mode : Mode) (expected : Option String) (d : Descriptor) :
    Report Descriptor := do
  let productFqn := d.productFqn
  let s : Scope := ⟨mode, [], productFqn⟩
  let mismatch : List FieldError := match productFqn, expected with
    | some actual, some e =>
      if actual = e then []
      else [⟨[.key "info", .key "fullyQualifiedName"], .fqnMismatch, "Fully qualified name '" ++
        actual ++ "' does not match expected '" ++ e ++ "'"⟩]
    | _, _ => []
  let sections : List FieldError :=
    (if d.info.isSome then [] else [⟨[.key "info"], .missingRequiredField, missingMessage⟩]) ++
    (if d.interfaceComponents.isSome then []
     else [⟨[.key "interfaceComponents"], .missingRequiredField, missingMessage⟩])
  s.check (mismatch ++ require d.dataProductDescriptor [.key "dataProductDescriptor"] ++ sections)
  let info ← walkOption (Info.walk (s.child "info")) d.info
  let interfaceComponents ←
    walkOption (InterfaceComponents.walk (s.child "interfaceComponents")) d.interfaceComponents
  let internalComponents ←
    walkOption (InternalComponents.walk (s.child "internalComponents")) d.internalComponents
  let components ← walkOption (Components.walk (s.child "components")) d.components
  return { d with info, interfaceComponents, internalComponents, components }

end DataProduct
