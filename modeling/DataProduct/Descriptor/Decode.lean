import DataProduct.Descriptor.Basic
import DataProduct.Json.Decoder

/-!
# Reading descriptors

Each part of a descriptor is read as a record whose fields come in the order the document format
declares them, which is also the order of the items when a record is written as an array. A
`null` in an optional field is the same as its absence; a `null` where a list or a map is
expected is an error.

* `Descriptor.parse`: a whole text, where `null` is no document at all.
-/

namespace DataProduct

open Json Json.Decoder

/-- An optional string field. -/
def textField {α : Type} (key : String) (set : Option String → α → α) : Decoder.Field α :=
  field key (option string) set

/-- An optional field of any JSON value. -/
def valueField {α : Type} (key : String) (set : Option SortedValue → α → α) : Decoder.Field α :=
  field key (option value) set

/-- The fields of an identity, under their keys. -/
def fqnField {α : Type} (set : Identity → α → α) (get : α → Identity) : Decoder.Field α :=
  textField "fullyQualifiedName" fun v r => set { get r with fullyQualifiedName := v } r

/-- The entity type of an identity. -/
def entityTypeField {α : Type} (set : Identity → α → α) (get : α → Identity) : Decoder.Field α :=
  textField "entityType" fun v r => set { get r with entityType := v } r

/-- The name of an identity. -/
def nameField {α : Type} (set : Identity → α → α) (get : α → Identity) : Decoder.Field α :=
  textField "name" fun v r => set { get r with name := v } r

/-- The version of an identity. -/
def versionField {α : Type} (set : Identity → α → α) (get : α → Identity) : Decoder.Field α :=
  textField "version" fun v r => set { get r with version := v } r

/-- The identifier of an identity. -/
def idField {α : Type} (set : Identity → α → α) (get : α → Identity) : Decoder.Field α :=
  textField "id" fun v r => set { get r with id := v } r

/-- Reads an owner. -/
def Owner.decoder : Decoder Owner :=
  record "Owner" {} [
    textField "id" fun v o => { o with id := v },
    textField "name" fun v o => { o with name := v }]

/-- Reads a contact point. -/
def ContactPoint.decoder : Decoder ContactPoint :=
  record "ContactPoint" {} [
    textField "name" fun v c => { c with name := v },
    textField "description" fun v c => { c with description := v },
    textField "channel" fun v c => { c with channel := v },
    textField "address" fun v c => { c with address := v }]

/-- Reads external documentation. -/
def ExternalDocs.decoder : Decoder ExternalDocs :=
  record "ExternalDocs" {} [
    textField "description" fun v d => { d with description := v },
    textField "mediaType" fun v d => { d with mediaType := v },
    textField "url" fun v d => { d with url := v }]

/-- Reads the data product's own part. -/
def Info.decoder : Decoder Info :=
  let set := fun (i : Identity) (r : Info) => { r with identity := i }
  let get := Info.identity
  record "Info" {} [
    fqnField set get, entityTypeField set get, nameField set get, versionField set get,
    textField "displayName" fun v r => { r with displayName := v },
    textField "description" fun v r => { r with description := v },
    textField "domain" fun v r => { r with domain := v },
    idField set get,
    field "owner" (option Owner.decoder) fun v r => { r with owner := v },
    field "contactPoints" (list ContactPoint.decoder) fun v r => { r with contactPoints := v }]

/-- Reads a standard definition. -/
def StandardDefinition.decoder : Decoder StandardDefinition :=
  let set := fun (i : Identity) (r : StandardDefinition) => { r with identity := i }
  let get := StandardDefinition.identity
  record "StandardDefinition" {} [
    fqnField set get, entityTypeField set get, nameField set get, versionField set get,
    textField "description" fun v r => { r with description := v },
    textField "specification" fun v r => { r with specification := v },
    textField "specificationVersion" fun v r => { r with specificationVersion := v },
    valueField "definition" fun v r => { r with definition := v },
    idField set get,
    field "externalDocs" (option ExternalDocs.decoder) fun v r => { r with externalDocs := v }]

/-- An optional standard definition field. -/
def definitionField {α : Type} (key : String) (set : Option StandardDefinition → α → α) :
    Decoder.Field α :=
  field key (option StandardDefinition.decoder) set

/-- Reads the promises of a port. -/
def Promises.decoder : Decoder Promises :=
  record "Promises" {} [
    textField "platform" fun v r => { r with platform := v },
    textField "servicesType" fun v r => { r with servicesType := v },
    definitionField "api" fun v r => { r with api := v },
    definitionField "deprecationPolicy" fun v r => { r with deprecationPolicy := v },
    definitionField "slo" fun v r => { r with slo := v }]

/-- Reads the expectations of a port. -/
def Expectations.decoder : Decoder Expectations :=
  record "Expectations" {} [
    definitionField "audience" fun v r => { r with audience := v },
    definitionField "usage" fun v r => { r with usage := v }]

/-- Reads the obligations of a port. -/
def Obligations.decoder : Decoder Obligations :=
  record "Obligations" {} [
    definitionField "termsAndConditions" fun v r => { r with termsAndConditions := v },
    definitionField "billingPolicy" fun v r => { r with billingPolicy := v },
    definitionField "sla" fun v r => { r with sla := v }]

/-- Reads a port. -/
def Port.decoder : Decoder Port :=
  let set := fun (i : Identity) (r : Port) => { r with identity := i }
  let get := Port.identity
  record "Port" {} [
    fqnField set get, entityTypeField set get, nameField set get, versionField set get,
    textField "displayName" fun v r => { r with displayName := v },
    textField "description" fun v r => { r with description := v },
    idField set get,
    field "promises" (option Promises.decoder) fun v r => { r with promises := v },
    field "expectations" (option Expectations.decoder) fun v r => { r with expectations := v },
    field "obligations" (option Obligations.decoder) fun v r => { r with obligations := v },
    field "externalDocs" (option ExternalDocs.decoder) fun v r => { r with externalDocs := v },
    field "tags" (list string) fun v r => { r with tags := v }]

/-- Reads the ports of a data product. -/
def InterfaceComponents.decoder : Decoder InterfaceComponents :=
  record "InterfaceComponents" {} [
    field "inputPorts" (list Port.decoder) fun v r => { r with inputPorts := v },
    field "outputPorts" (option (list Port.decoder)) fun v r => { r with outputPorts := v },
    field "discoveryPorts" (list Port.decoder) fun v r => { r with discoveryPorts := v },
    field "observabilityPorts" (list Port.decoder) fun v r => { r with observabilityPorts := v },
    field "controlPorts" (list Port.decoder) fun v r => { r with controlPorts := v }]

/-- The record name of a component of a kind, as messages give it. -/
def ComponentKind.recordName : ComponentKind → String
  | .application => "ApplicationComponent"
  | .infrastructural => "InfrastructuralComponent"

/-- Reads a component of a kind. -/
def Component.decoder (k : ComponentKind) : Decoder Component :=
  let set := fun (i : Identity) (r : Component) => { r with identity := i }
  let get := Component.identity
  record k.recordName {} [
    fqnField set get, entityTypeField set get, nameField set get, versionField set get,
    textField "description" fun v r => { r with description := v },
    idField set get,
    field "externalDocs" (option ExternalDocs.decoder) fun v r => { r with externalDocs := v }]

/-- Reads a lifecycle task. -/
def LifecycleTask.decoder : Decoder LifecycleTask :=
  record "LifecycleTaskInfo" {} [
    valueField "service" fun v r => { r with service := v },
    valueField "template" fun v r => { r with template := v },
    valueField "configurations" fun v r => { r with configurations := v }]

/-- Reads what runs inside a data product. -/
def InternalComponents.decoder : Decoder InternalComponents :=
  record "InternalComponents" {} [
    field "applicationComponents" (list (Component.decoder .application))
      fun v r => { r with applicationComponents := v },
    field "infrastructuralComponents" (list (Component.decoder .infrastructural))
      fun v r => { r with infrastructuralComponents := v },
    field "lifecycleInfo" (dict LifecycleTask.decoder) fun v r => { r with lifecycleInfo := v }]

/-- A map of values of open shape. -/
def mapField {α : Type} (key : String) (set : Map SortedValue → α → α) : Decoder.Field α :=
  field key (dict value) set

/-- Reads the reusable parts. -/
def Components.decoder : Decoder Components :=
  record "Components" {} [
    mapField "inputPorts" fun v r => { r with inputPorts := v },
    mapField "outputPorts" fun v r => { r with outputPorts := v },
    mapField "discoveryPorts" fun v r => { r with discoveryPorts := v },
    mapField "observabilityPorts" fun v r => { r with observabilityPorts := v },
    mapField "controlPorts" fun v r => { r with controlPorts := v },
    mapField "applicationComponents" fun v r => { r with applicationComponents := v },
    mapField "infrastructuralComponents" fun v r => { r with infrastructuralComponents := v },
    mapField "apis" fun v r => { r with apis := v },
    mapField "templates" fun v r => { r with templates := v }]

/-- Reads a descriptor. -/
def Descriptor.decoder : Decoder Descriptor :=
  record "DataProductDescriptor" {} [
    textField "dataProductDescriptor" fun v r => { r with dataProductDescriptor := v },
    field "info" (option Info.decoder) fun v r => { r with info := v },
    field "interfaceComponents" (option InterfaceComponents.decoder)
      fun v r => { r with interfaceComponents := v },
    field "internalComponents" (option InternalComponents.decoder)
      fun v r => { r with internalComponents := v },
    field "components" (option Components.decoder) fun v r => { r with components := v },
    field "tags" (list string) fun v r => { r with tags := v },
    field "externalDocs" (option ExternalDocs.decoder) fun v r => { r with externalDocs := v }]

/-- The descriptor a text holds, or none for `null`. -/
def Descriptor.parse (s : String) : Except ReadError (Option Descriptor) :=
  readText (option Descriptor.decoder) s

end DataProduct
