import SwitchFleet.Resource.Shape
import SwitchFleet.Resource.SwitchInterface
import SwitchFleet.Text.Casing

/-!
# Definitions of resources

What a cluster has to know about a kind of resource before there can be any: its names, its version,
the columns of its listings, and the shapes of its specification and its status.

* `Definition`: the description of a kind of resource.
* `Definition.json`: a definition as JSON.
* `Switch.definition`, `SwitchInterface.definition`: the definitions of the two kinds.
-/

namespace SwitchFleet

/-! ## Definitions -/

/-- A column of a listing. -/
structure Column where
  name : String
  type : String
  /-- Where the cell is found in a resource. -/
  path : String
deriving DecidableEq

def Column.json (c : Column) : Json :=
  .ofMembers [("jsonPath", .string c.path), ("name", .string c.name), ("type", .string c.type)]

/-- The description of a kind of resource. -/
structure Definition where
  kind : String
  plural : String
  columns : List Column
  spec : Shape
  status : Shape

namespace Definition

def names (d : Definition) : Json := .ofMembers [
  ("categories", .array []),
  ("kind", .string d.kind),
  ("plural", .string d.plural),
  ("shortNames", .array []),
  ("singular", .string (Text.lower d.kind))]

def shape (d : Definition) : Shape :=
  ("title", .string d.kind) ::
    Shape.about ("Auto-generated derived type for " ++ d.kind ++ "Spec via `CustomResource`")
      (.objectOf [("spec", d.spec), ("status", d.status.nullable)] ["spec"])

/-- The only version of a kind of resource. Its status is written apart from the rest. -/
def version (d : Definition) : Json := .ofMembers [
  ("additionalPrinterColumns", .array (d.columns.map Column.json)),
  ("name", .string Group.version),
  ("schema", .ofMembers [("openAPIV3Schema", d.shape.json)]),
  ("served", .bool true),
  ("storage", .bool true),
  ("subresources", .ofMembers [("status", .object [])])]

/-- A definition as JSON. Its resources belong to the cluster as a whole. -/
def json (d : Definition) : Json := .ofMembers [
  ("apiVersion", .string "apiextensions.k8s.io/v1"),
  ("kind", .string "CustomResourceDefinition"),
  ("metadata", .ofMembers [("name", .string (d.plural ++ "." ++ Group.name))]),
  ("spec", .ofMembers [
    ("group", .string Group.name),
    ("names", d.names),
    ("scope", .string "Cluster"),
    ("versions", .array [d.version])])]

end Definition

/-! ## Shapes of the parts -/

/-- A text that is empty if it is missing. -/
def Shape.textOrEmpty (description : String) : Shape :=
  .about description (.orElse (.string "") .text)

def LocalReference.shape : Shape :=
  .objectOf [("name", .textOrEmpty "Name of the referent.")] []

def ObjectReference.shape : Shape := .objectOf [
  ("kind", .about "Kind of the referent." .text),
  ("namespace", .about "Namespace of the referent." .text),
  ("name", .about "Name of the referent." .text),
  ("apiVersion", .about "API version of the referent." .text)] []

def Lifecycle.shape : Shape :=
  .about "Lifecycle state; absent on a freshly created object."
    (.nullable (.oneOf (all.map name)))

def Condition.shape : Shape :=
  .about "A single observation about a resource." <| .objectOf [
    ("type", .about "Condition type, e.g. `Ready`." .text),
    ("status", .about "Truth value." (.oneOf (Truth.all.map Truth.name))),
    ("reason", .textOrEmpty "One-word machine-readable reason."),
    ("message", .textOrEmpty "Human-readable details."),
    ("lastTransitionTime", .textOrEmpty "RFC 3339 time of the last status change."),
    ("observedGeneration",
      .about "Generation the condition was computed from." (.nullable .int64))]
    ["status", "type"]

/-- The shape of lists of conditions. -/
def Condition.listShape : Shape := .about "Standard conditions." (.listOf shape)

/-! ## Switches -/

def Management.shape : Shape := .objectOf [
  ("host", .textOrEmpty "Host name or address of the agent."),
  ("port", .textOrEmpty "Agent port, as a string."),
  ("credentials", .about "Credentials for the management endpoint."
    (.orElse (ObjectReference.codec.encode .empty) ObjectReference.shape))] []

def PortSpec.shape : Shape :=
  .about "A declared port." (.objectOf [("name", .about "Port name." .text)] ["name"])

def SwitchSpec.shape : Shape :=
  .about "Desired state of a switch." <| .objectOf [
    ("management", .about "How to reach the switch agent."
      (.orElse (Management.codec.encode .empty) Management.shape)),
    ("macAddress", .textOrEmpty "Expected base MAC address."),
    ("ports", .about "Statically declared ports." (.listOf PortSpec.shape))] []

def PortStatus.shape : Shape :=
  .about "Observed status of one port." <| .objectOf [
    ("name", .about "Port name." .text),
    ("interfaceRefs", .about "Interfaces backed by this port." <|
      .listOf (.about "Reference to an object by name within the same scope."
        LocalReference.shape))]
    ["name"]

def SwitchStatus.shape : Shape :=
  .about "Observed state of a switch." <| .objectOf [
    ("state", Lifecycle.shape),
    ("ports", .about "Physical ports reported by the device." (.listOf PortStatus.shape)),
    ("macAddress", .about "Base MAC address reported by the device." .text),
    ("firmwareVersion", .about "Operating system version reported by the device." .text),
    ("sku", .about "Hardware SKU reported by the device." .text),
    ("conditions", Condition.listShape)] []

def Switch.definition : Definition where
  kind := schema.kind
  plural := schema.plural
  columns := [
    ⟨"MAC", "string", ".status.macAddress"⟩,
    ⟨"State", "string", ".status.state"⟩,
    ⟨"Age", "date", ".metadata.creationTimestamp"⟩]
  spec := SwitchSpec.shape
  status := SwitchStatus.shape

/-! ## Interfaces -/

def LinkState.shape : Shape := .oneOf (all.map name)

def SwitchInterfaceSpec.shape : Shape :=
  .about "Desired state of one device interface." <| .objectOf [
    ("handle", .about "Device interface name, e.g. `Ethernet0`." .text),
    ("switchRef", .about "The owning switch." (.nullable LocalReference.shape)),
    ("adminState", .about "Desired administrative state."
      (.orElse (LinkState.codec.encode .unknown) LinkState.shape))]
    ["handle"]

def Neighbor.shape : Shape := .objectOf [
  ("macAddress", .about "Remote chassis MAC address." .text),
  ("systemName", .about "Remote system name." .text),
  ("interfaceHandle", .about "Remote interface handle." .text)] []

def SwitchInterfaceStatus.shape : Shape :=
  .about "Observed state of a switch interface." <| .objectOf [
    ("adminState", .about "Administrative state reported by the device."
      (.nullable LinkState.shape)),
    ("operationalState", .about "Operational state reported by the device."
      (.nullable LinkState.shape)),
    ("state", Lifecycle.shape),
    ("neighbor", .about "Link-layer neighbor, empty when none is known." Neighbor.shape),
    ("macAddress", .about "Interface MAC address." .text),
    ("conditions", Condition.listShape)] []

def SwitchInterface.definition : Definition where
  kind := schema.kind
  plural := schema.plural
  columns := [
    ⟨"Handle", "string", ".spec.handle"⟩,
    ⟨"Admin", "string", ".status.adminState"⟩,
    ⟨"Oper", "string", ".status.operationalState"⟩,
    ⟨"State", "string", ".status.state"⟩]
  spec := SwitchInterfaceSpec.shape
  status := SwitchInterfaceStatus.shape

end SwitchFleet
