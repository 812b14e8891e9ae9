import CloudProvider.Fault.Cloud
import CloudProvider.Fault.Settings

/-!
# Faults of an operation

What the caller of a lifecycle operation is told when it fails: what was asked
for, what it was asked of, and the fault of the backend behind it, if there is
one.

* `OperationError.message`: the text of a fault;
* `inContext`, `orNotFound`: a fault of the backend seen from an operation.
-/

namespace CloudProvider

/-- A fault of a lifecycle operation. -/
inductive OperationError where
  /-- The request makes no sense, and nothing was done about it. -/
  | validation (reason : String)
  /-- A resource is in a state that forbids the operation. -/
  | conflict (reason : String)
  /-- A resource that the operation depends on does not exist. -/
  | notFound (kind id : String)
  /-- All device letters of a server are in use. -/
  | noFreeDeviceLetter (serverId : String)
  /-- A call to the backend failed. -/
  | cloud (context : String) (cause : CloudError)
  /-- The settings cannot be used. -/
  | settings (cause : SettingsError)
  deriving Inhabited

namespace OperationError

/-- Whether the fault is that something does not exist. -/
def isNotFound : OperationError → Bool
  | notFound _ _ => true
  | cloud _ cause => cause.isNotFound
  | _ => false

/-- Whether the fault is that something took too long. -/
def isTimeout : OperationError → Bool
  | cloud _ cause => cause.isTimeout
  | _ => false

/-- The text of a fault. -/
def message : OperationError → String
  | validation reason => "Invalid request: " ++ reason
  | conflict reason => reason
  | notFound kind id => kind ++ " '" ++ id ++ "' not found"
  | noFreeDeviceLetter serverId =>
    "Failed to get device letter: every device name on server '" ++ serverId ++ "' is in use"
  | cloud context cause => context ++ ": " ++ cause.message
  | settings cause => "Configuration error: " ++ cause.message

/-- The texts of the faults behind a fault. -/
def chain : OperationError → List String
  | cloud _ cause => cause.message :: cause.chain
  | settings cause => cause.message :: cause.chain
  | _ => []

end OperationError

namespace CloudError

/-- A fault of the backend in the context of what was being done. -/
def inContext (context : String) (e : CloudError) : OperationError := .cloud context e

/-- A fault of the backend in the context of looking something up; absence is the
    absence of what was looked up. -/
def orNotFound (kind id : String) (e : CloudError) : OperationError :=
  if e.isNotFound then .notFound kind id
  else .cloud ("Failed to get " ++ kind ++ " '" ++ id ++ "'") e

end CloudError

end CloudProvider
