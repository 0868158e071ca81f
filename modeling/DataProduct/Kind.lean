/-!
# Kinds of addressable nodes

A data product exposes ports in five collections, holds components of two kinds, and its ports
carry standard definitions. Each kind fixes the words that appear in documents and in
fully qualified names: the collection's key, the segment of a child's name, the entity type
written into the node, and the label used in messages.

The port words all come from one stem (`input` gives `inputPorts`, `inputports`, `inputport`,
`input port`), so a table of twenty-five strings is five stems and four rules.
-/

namespace DataProduct

/-- The entity type of the data product itself. -/
def dataProductEntityType : String := "dataproduct"

/-- The five collections of ports, in the order a document's ports are visited. -/
inductive PortKind where
  | input
  | output
  | discovery
  | observability
  | control
  deriving DecidableEq, Repr

namespace PortKind

/-- Every port kind, in visiting order. -/
def all : List PortKind := [.input, .output, .discovery, .observability, .control]

/-- The stem every word of the kind is built from. -/
def stem : PortKind → String
  | .input => "input"
  | .output => "output"
  | .discovery => "discovery"
  | .observability => "observability"
  | .control => "control"

/-- The kind's own name, such as `inputPort`. -/
def name (k : PortKind) : String := k.stem ++ "Port"

/-- The segment of a port's fully qualified name, such as `inputports`. -/
def segment (k : PortKind) : String := k.stem ++ "ports"

/-- The entity type of a port of this kind, such as `inputport`. -/
def entityType (k : PortKind) : String := k.stem ++ "port"

/-- The key of the collection in `interfaceComponents`, such as `inputPorts`. -/
def collection (k : PortKind) : String := k.stem ++ "Ports"

/-- The words that name a port of this kind in a message, such as `input port`. -/
def label (k : PortKind) : String := k.stem ++ " port"

end PortKind

/-- The two kinds of internal components, in visiting order. -/
inductive ComponentKind where
  | application
  | infrastructural
  deriving DecidableEq, Repr

namespace ComponentKind

/-- Both component kinds, in visiting order. -/
def all : List ComponentKind := [.application, .infrastructural]

/-- The kind's own name. -/
def name : ComponentKind → String
  | .application => "application"
  | .infrastructural => "infrastructural"

/-- The segment of a component's fully qualified name. -/
def segment (k : ComponentKind) : String := k.name ++ "components"

/-- The entity type of a component of this kind; an infrastructural one is `infrastructure`. -/
def entityType : ComponentKind → String
  | .application => "application"
  | .infrastructural => "infrastructure"

/-- The key of the list in `internalComponents`. -/
def collection (k : ComponentKind) : String := k.name ++ "Components"

/-- The words that name a component of this kind in a message. -/
def label (k : ComponentKind) : String := k.name ++ " component"

end ComponentKind

/-- The kinds of standard definitions. Every definition slot of a port holds an `api` one. -/
inductive DefinitionKind where
  | api
  | template
  deriving DecidableEq, Repr

namespace DefinitionKind

/-- Both definition kinds. -/
def all : List DefinitionKind := [.api, .template]

/-- The entity type of a definition of this kind, which is also the kind's name. -/
def entityType : DefinitionKind → String
  | .api => "api"
  | .template => "template"

end DefinitionKind

end DataProduct
