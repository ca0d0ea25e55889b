import PgOperator.Api.Uri
import PgOperator.Json.Fault

/-!
How a step of a pass ends: with what it did to its object, or with an error. Errors have a text and
say whether trying again may help.
-/

namespace PgOperator

/-! ### Outcomes -/

inductive Outcome where
  | unchanged
  | created
  | patched
  deriving DecidableEq

namespace Outcome

def text : Outcome → String
  | .unchanged => "unchanged"
  | .created => "created"
  | .patched => "patched"

/-- The outcome of two steps: creation only if both created, and a patch if any patched. -/
def combine : Outcome → Outcome → Outcome
  | .created, .created => .created
  | .patched, _ | _, .patched => .patched
  | _, _ => .unchanged

/-- Whether the object was written. -/
def isChanged (outcome : Outcome) : Bool := outcome ≠ .unchanged

end Outcome

/-! ### Errors -/

/-- What the API server says of a request that it refused. -/
structure ApiStatus where
  status : String
  message : String
  reason : String
  code : UInt16
  deriving DecidableEq

/-- Why a request cannot be made: it names nothing, its field manager is too long for the
parameters that hold it, or it has no address. -/
inductive RequestFault where
  | emptyName
  | longManager (parameters : String)
  | uri (fault : Api.Uri.Fault)
  deriving DecidableEq

def RequestFault.text : RequestFault → String
  | .emptyName => "failed to validate request: A non-empty name is required"
  | .longManager parameters =>
    "failed to validate request: Failed to validate " ++ parameters ++ "::field_manager!"
  | .uri fault => "failed to build request: " ++ fault.text

/-- Why a call to the API server failed: it was refused, the request could not be made, or the
reply was not what was asked for. -/
inductive CallError where
  | refused (status : ApiStatus)
  | invalid (fault : RequestFault)
  | unreadable (fault : Json.Fault)
  deriving DecidableEq

inductive Error where
  | call (error : CallError)
  | namingCollision (kind ns name : String)
  | readinessTimeout (ns selector : String) (expected running : Int32)
  | cancelled
  | serialization
  | config (text : String)
  | missingVersion (name : String)
  deriving DecidableEq

namespace ApiStatus

/-- All parts of a status, as they stand in a message. -/
def describe (s : ApiStatus) : String :=
  s.message ++ ": " ++ s.reason ++ " (ErrorResponse \x7b status: " ++ Text.quoted s.status ++
    ", message: " ++ Text.quoted s.message ++ ", reason: " ++ Text.quoted s.reason ++ ", code: " ++
    toString s.code.toNat ++ " \x7d)"

end ApiStatus

namespace Error

def kind : Error → String
  | .call _ => "KubeError"
  | .namingCollision .. => "NamingCollision"
  | .readinessTimeout .. => "ReadinessTimeout"
  | .cancelled => "Cancelled"
  | .serialization => "SerializationError"
  | .config _ => "ConfigError"
  | .missingVersion _ => "MissingVersion"

def message : Error → String
  | .call (.refused status) => "Kubernetes API error: ApiError: " ++ status.describe
  | .call (.invalid fault) => "Kubernetes API error: Failed to build request: " ++ fault.text
  | .call (.unreadable fault) =>
    "Kubernetes API error: Error deserializing response: " ++ fault.text
  | .namingCollision kind ns name =>
    "intended " ++ kind ++ " \"" ++ ns ++ "/" ++ name ++ "\" already exists"
  | .readinessTimeout ns selector expected running =>
    "timed out waiting for " ++ toString expected.toInt ++ " pod(s) matching " ++ selector ++
      " in " ++ ns ++ " to be running (" ++ toString running.toInt ++ " running)"
  | .cancelled => "reconciliation cancelled"
  | .serialization => "Serialization error"
  | .config text => "Configuration error: " ++ text
  | .missingVersion name => "PostgresVersion \"" ++ name ++ "\" not found"

/-- Whether trying again may help without a change in the cluster. -/
def isRetriable : Error → Bool
  | .call (.refused status) => status.code = 409 ∨ status.code = 429 ∨ 500 ≤ status.code
  | .call _ | .readinessTimeout .. | .cancelled => true
  | .namingCollision .. | .serialization | .config _ | .missingVersion _ => false

end Error

end PgOperator
