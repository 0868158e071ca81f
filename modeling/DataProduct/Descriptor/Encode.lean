import DataProduct.Descriptor.Basic

/-!
# Writing descriptors

A descriptor is written as a JSON value whose members come in the order the document format
declares them. A field that is missing is left out, and so is an empty list or map, except the
output ports, which are written whenever they are present, even empty. A record with no field to
write is written as an empty object.

* `Descriptor.toValue`: the value, whose compact or pretty text is the written descriptor.
-/

namespace DataProduct

open Json

/-- The member for an optional field, or none. -/
def member? {α : Type} (key : String) (f : α → Value) : Option α → List (String × Value)
  | some a => [(key, f a)]
  | none => []

/-- The member for an optional string field. -/
def text? (key : String) (v : Option String) : List (String × Value) := member? key .string v

/-- The member for a list field, left out when the list is empty. -/
def items? {α : Type} (key : String) (f : α → Value) (xs : List α) : List (String × Value) :=
  if xs.isEmpty then [] else [(key, .array (xs.map f))]

/-- A map as an object, each value written by `f`. -/
def Json.Map.toValue {α : Type} (f : α → Value) (m : Map α) : Value :=
  .object (m.entries.map fun (k, a) => (k, f a))

/-- The member for a map field, left out when the map is empty. -/
def entries? {α : Type} (key : String) (f : α → Value) (m : Map α) : List (String × Value) :=
  if m.entries.isEmpty then [] else [(key, m.toValue f)]

/-- An owner as a value. -/
def Owner.toValue (o : Owner) : Value := .object (text? "id" o.id ++ text? "name" o.name)

/-- A contact point as a value. -/
def ContactPoint.toValue (c : ContactPoint) : Value :=
  .object (text? "name" c.name ++ text? "description" c.description ++
    text? "channel" c.channel ++ text? "address" c.address)

/-- External documentation as a value. -/
def ExternalDocs.toValue (d : ExternalDocs) : Value :=
  .object (text? "description" d.description ++ text? "mediaType" d.mediaType ++ text? "url" d.url)

/-- The leading members of an identity: name, entity type, short name and version. -/
def Identity.leading (i : Identity) : List (String × Value) :=
  text? "fullyQualifiedName" i.fullyQualifiedName ++ text? "entityType" i.entityType ++
    text? "name" i.name ++ text? "version" i.version

/-- The data product's own part as a value. -/
def Info.toValue (r : Info) : Value :=
  .object (r.identity.leading ++ text? "displayName" r.displayName ++
    text? "description" r.description ++ text? "domain" r.domain ++ text? "id" r.identity.id ++
    member? "owner" Owner.toValue r.owner ++ items? "contactPoints" ContactPoint.toValue r.contactPoints)

/-- A standard definition as a value. -/
def StandardDefinition.toValue (r : StandardDefinition) : Value :=
  .object (r.identity.leading ++ text? "description" r.description ++
    text? "specification" r.specification ++ text? "specificationVersion" r.specificationVersion ++
    member? "definition" SortedValue.val r.definition ++ text? "id" r.identity.id ++
    member? "externalDocs" ExternalDocs.toValue r.externalDocs)

/-- The promises of a port as a value. -/
def Promises.toValue (r : Promises) : Value :=
  .object (text? "platform" r.platform ++ text? "servicesType" r.servicesType ++
    member? "api" StandardDefinition.toValue r.api ++
    member? "deprecationPolicy" StandardDefinition.toValue r.deprecationPolicy ++
    member? "slo" StandardDefinition.toValue r.slo)

/-- The expectations of a port as a value. -/
def Expectations.toValue (r : Expectations) : Value :=
  .object (member? "audience" StandardDefinition.toValue r.audience ++
    member? "usage" StandardDefinition.toValue r.usage)

/-- The obligations of a port as a value. -/
def Obligations.toValue (r : Obligations) : Value :=
  .object (member? "termsAndConditions" StandardDefinition.toValue r.termsAndConditions ++
    member? "billingPolicy" StandardDefinition.toValue r.billingPolicy ++
    member? "sla" StandardDefinition.toValue r.sla)

/-- A port as a value. -/
def Port.toValue (r : Port) : Value :=
  .object (r.identity.leading ++ text? "displayName" r.displayName ++
    text? "description" r.description ++ text? "id" r.identity.id ++
    member? "promises" Promises.toValue r.promises ++
    member? "expectations" Expectations.toValue r.expectations ++
    member? "obligations" Obligations.toValue r.obligations ++
    member? "externalDocs" ExternalDocs.toValue r.externalDocs ++
    items? "tags" Value.string r.tags)

/-- The ports of a data product as a value. -/
def InterfaceComponents.toValue (r : InterfaceComponents) : Value :=
  .object (items? "inputPorts" Port.toValue r.inputPorts ++
    member? "outputPorts" (fun ps => .array (ps.map Port.toValue)) r.outputPorts ++
    items? "discoveryPorts" Port.toValue r.discoveryPorts ++
    items? "observabilityPorts" Port.toValue r.observabilityPorts ++
    items? "controlPorts" Port.toValue r.controlPorts)

/-- A component as a value. -/
def Component.toValue (r : Component) : Value :=
  .object (r.identity.leading ++ text? "description" r.description ++ text? "id" r.identity.id ++
    member? "externalDocs" ExternalDocs.toValue r.externalDocs)

/-- A lifecycle task as a value. -/
def LifecycleTask.toValue (r : LifecycleTask) : Value :=
  .object (member? "service" SortedValue.val r.service ++
    member? "template" SortedValue.val r.template ++
    member? "configurations" SortedValue.val r.configurations)

/-- What runs inside a data product as a value. -/
def InternalComponents.toValue (r : InternalComponents) : Value :=
  .object (items? "applicationComponents" Component.toValue r.applicationComponents ++
    items? "infrastructuralComponents" Component.toValue r.infrastructuralComponents ++
    entries? "lifecycleInfo" LifecycleTask.toValue r.lifecycleInfo)

/-- The reusable parts as a value. -/
def Components.toValue (r : Components) : Value :=
  .object (r.maps.flatMap fun (key, m) => entries? key SortedValue.val m)

/-- A descriptor as a value. -/
def Descriptor.toValue (r : Descriptor) : Value :=
  .object (text? "dataProductDescriptor" r.dataProductDescriptor ++
    member? "info" Info.toValue r.info ++
    member? "interfaceComponents" InterfaceComponents.toValue r.interfaceComponents ++
    member? "internalComponents" InternalComponents.toValue r.internalComponents ++
    member? "components" Components.toValue r.components ++
    items? "tags" Value.string r.tags ++
    member? "externalDocs" ExternalDocs.toValue r.externalDocs)

end DataProduct
