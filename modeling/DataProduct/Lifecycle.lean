import DataProduct.Json.Error

/-!
# The lifecycle of a data product

A data product moves through five statuses by four actions. A draft, or a rejected product, is
submitted (`init`) and becomes pending; a pending product is approved or rejected; an approved
product is published, and publishing is final. Any other action in a status is refused, and the
status stays.

* `Status.apply`: one action in a status;
* `Action.ofValue`: an action read from a JSON value, with the messages for values that are not
  one.
-/

namespace DataProduct

open Json

/-- Where a data product stands in its lifecycle. -/
inductive Status where
  | draft
  | pending
  | approved
  | rejected
  | published
  deriving DecidableEq, Repr

/-- What can be done to a data product. -/
inductive Action where
  | init
  | approve
  | reject
  | publish
  deriving DecidableEq, Repr

namespace Status

/-- The name of a status. -/
def name : Status → String
  | .draft => "draft"
  | .pending => "pending"
  | .approved => "approved"
  | .rejected => "rejected"
  | .published => "published"

/-- Every status. -/
def all : List Status := [.draft, .pending, .approved, .rejected, .published]

/-- The status of a name, matched exactly. -/
def ofName? (s : String) : Option Status := all.find? (·.name == s)

/-- Whether nothing can follow the status. -/
def terminal (s : Status) : Bool := s == .published

end Status

namespace Action

/-- The name of an action. -/
def name : Action → String
  | .init => "init"
  | .approve => "approve"
  | .reject => "reject"
  | .publish => "publish"

/-- Every action, in the order messages list them. -/
def all : List Action := [.init, .approve, .reject, .publish]

end Action

/-- An action that the status does not allow. -/
inductive LifecycleError where
  | invalidTransition (current : Status) (action : Action)
  deriving DecidableEq, Repr

/-- The text of a refused action. -/
def LifecycleError.message : LifecycleError → String
  | .invalidTransition current action =>
    "cannot " ++ action.name ++ " a data product in status '" ++ current.name ++ "'"

/-- The status after an action, or the refusal. -/
def Status.apply : Status → Action → Except LifecycleError Status
  | .draft, .init => .ok .pending
  | .rejected, .init => .ok .pending
  | .pending, .approve => .ok .approved
  | .pending, .reject => .ok .rejected
  | .approved, .publish => .ok .published
  | s, a => .error (.invalidTransition s a)

namespace Action

/-- The list of action names as messages give it: `` `init`, `approve`, `reject`, `publish` ``. -/
def expectedNames : String := ", ".intercalate (all.map fun a => "`" ++ a.name ++ "`")

/-- The action of a name, or the message for a name that is none. -/
def ofName (s : String) : Except String Action :=
  match all.find? (·.name == s) with
  | some a => .ok a
  | none => .error ("unknown variant `" ++ s ++ "`, expected one of " ++ expectedNames)

/-- How a JSON value is named in a message about its type. -/
def unexpected : Value → Unexpected
  | .null => .null
  | .bool b => .bool b
  | .number n => .ofNumber n
  | .string s => .string s
  | .array _ => .sequence
  | .object _ => .map

/-- An action from a JSON value: its name as a string, or an object with its name as the only key
and `null` as the value. -/
def ofValue : Value → Except String Action
  | .string s => ofName s
  | .object [(k, v)] => do
    let a ← ofName k
    match v with
    | .null => return a
    | other => throw ("invalid type: " ++ (unexpected other).describe ++ ", expected unit")
  | .object _ => .error "invalid value: map, expected map with a single key"
  | other => .error ("invalid type: " ++ (unexpected other).describe ++ ", expected string or map")

end Action

end DataProduct
