import DataProduct.Json.Value
import DataProduct.Kind

/-!
# Data product descriptors

A data product descriptor is the document that declares a data product: who it is (`info`), the
ports through which it is used (`interfaceComponents`), what runs inside it
(`internalComponents`), and reusable parts (`components`).

Every field may be missing. A list that is missing is empty, and so is a map, except the output
ports, where a missing list and an empty one differ. Fields whose shape the document leaves open
(a definition, the parts of a lifecycle task, the reusable components) hold JSON values whose
objects have increasing keys (`Json.SortedValue`), and maps are `Json.Map`s: their keys strictly
increase.

Five kinds of node are addressable: the data product itself, its ports, the standard definitions
on its ports, and its application and infrastructural components. Each carries an `Identity`: the
fields that name it, which are the only fields that generation fills in.
-/

namespace DataProduct

open Json

/-- The fields that name an addressable node. -/
structure Identity where
  fullyQualifiedName : Option String := none
  entityType : Option String := none
  name : Option String := none
  version : Option String := none
  id : Option String := none
  deriving DecidableEq, Repr

/-- Whoever answers for the data product. -/
structure Owner where
  id : Option String := none
  name : Option String := none
  deriving DecidableEq, Repr

/-- A way to reach the people behind the data product. -/
structure ContactPoint where
  name : Option String := none
  description : Option String := none
  channel : Option String := none
  address : Option String := none
  deriving DecidableEq, Repr

/-- A pointer to documentation elsewhere. -/
structure ExternalDocs where
  description : Option String := none
  mediaType : Option String := none
  url : Option String := none
  deriving DecidableEq, Repr

/-- Who the data product is. -/
structure Info where
  identity : Identity := {}
  displayName : Option String := none
  description : Option String := none
  domain : Option String := none
  owner : Option Owner := none
  contactPoints : List ContactPoint := []
  deriving DecidableEq, Repr

/-- A definition in a standard format, such as the API of a port. -/
structure StandardDefinition where
  identity : Identity := {}
  description : Option String := none
  specification : Option String := none
  specificationVersion : Option String := none
  definition : Option SortedValue := none
  externalDocs : Option ExternalDocs := none
  deriving Repr

/-- What a port promises to its users. -/
structure Promises where
  platform : Option String := none
  servicesType : Option String := none
  api : Option StandardDefinition := none
  deprecationPolicy : Option StandardDefinition := none
  slo : Option StandardDefinition := none
  deriving Repr

/-- What a port expects of its users. -/
structure Expectations where
  audience : Option StandardDefinition := none
  usage : Option StandardDefinition := none
  deriving Repr

/-- What binds a port and its users. -/
structure Obligations where
  termsAndConditions : Option StandardDefinition := none
  billingPolicy : Option StandardDefinition := none
  sla : Option StandardDefinition := none
  deriving Repr

/-- A port through which the data product is used. -/
structure Port where
  identity : Identity := {}
  displayName : Option String := none
  description : Option String := none
  promises : Option Promises := none
  expectations : Option Expectations := none
  obligations : Option Obligations := none
  externalDocs : Option ExternalDocs := none
  tags : List String := []
  deriving Repr

/-- The ports of a data product, by kind. Output ports may be missing, which differs from none. -/
structure InterfaceComponents where
  inputPorts : List Port := []
  outputPorts : Option (List Port) := none
  discoveryPorts : List Port := []
  observabilityPorts : List Port := []
  controlPorts : List Port := []
  deriving Repr

/-- An application or infrastructural component inside the data product. -/
structure Component where
  identity : Identity := {}
  description : Option String := none
  externalDocs : Option ExternalDocs := none
  deriving DecidableEq, Repr

/-- A task of a lifecycle stage. -/
structure LifecycleTask where
  service : Option SortedValue := none
  template : Option SortedValue := none
  configurations : Option SortedValue := none
  deriving Repr

/-- What runs inside the data product. -/
structure InternalComponents where
  applicationComponents : List Component := []
  infrastructuralComponents : List Component := []
  lifecycleInfo : Map LifecycleTask := .empty
  deriving Repr

/-- Reusable parts, in nine maps from a key to a value of open shape. -/
structure Components where
  inputPorts : Map SortedValue := .empty
  outputPorts : Map SortedValue := .empty
  discoveryPorts : Map SortedValue := .empty
  observabilityPorts : Map SortedValue := .empty
  controlPorts : Map SortedValue := .empty
  applicationComponents : Map SortedValue := .empty
  infrastructuralComponents : Map SortedValue := .empty
  apis : Map SortedValue := .empty
  templates : Map SortedValue := .empty
  deriving Repr

/-- A data product descriptor. -/
structure Descriptor where
  dataProductDescriptor : Option String := none
  info : Option Info := none
  interfaceComponents : Option InterfaceComponents := none
  internalComponents : Option InternalComponents := none
  components : Option Components := none
  tags : List String := []
  externalDocs : Option ExternalDocs := none
  deriving Repr

namespace InterfaceComponents

/-- The ports of one kind; no output ports when they are missing. -/
def ports (ic : InterfaceComponents) : PortKind → List Port
  | .input => ic.inputPorts
  | .output => ic.outputPorts.getD []
  | .discovery => ic.discoveryPorts
  | .observability => ic.observabilityPorts
  | .control => ic.controlPorts

end InterfaceComponents

namespace Components

/-- The nine maps with their keys in a document, in the order they are checked. -/
def maps (c : Components) : List (String × Map SortedValue) :=
  [("inputPorts", c.inputPorts), ("outputPorts", c.outputPorts),
   ("discoveryPorts", c.discoveryPorts), ("observabilityPorts", c.observabilityPorts),
   ("controlPorts", c.controlPorts), ("applicationComponents", c.applicationComponents),
   ("infrastructuralComponents", c.infrastructuralComponents), ("apis", c.apis),
   ("templates", c.templates)]

end Components

end DataProduct
