/-!
# Faults of the backend

What can go wrong with a single call to the backend. Absence is a fault of its
own, however the backend expresses it, so that callers can tell "it is not there"
from everything else.

* `CloudError.message`: the text of a fault;
* `CloudError.chain`: the texts of the faults behind it, outermost first.
-/

namespace CloudProvider

/-- A fault of the backend. -/
inductive CloudError where
  /-- There is no resource of this kind and id. -/
  | notFound (kind id : String)
  | api (text : String)
  | authenticationFailed (text : String)
  | invalidArgument (text : String)
  /-- A resource did not reach a status in the time given, in milliseconds. -/
  | waitTimeout (resource target : String) (elapsed : Nat) (lastError : Option CloudError)
  deriving Inhabited

namespace CloudError

/-- Whether the fault is that something does not exist. -/
def isNotFound : CloudError → Bool
  | notFound _ _ => true
  | _ => false

/-- Whether the fault is that something took too long. -/
def isTimeout : CloudError → Bool
  | waitTimeout _ _ _ _ => true
  | _ => false

mutual

/-- The text of a fault. -/
def message : CloudError → String
  | notFound kind id => kind ++ " not found: " ++ id
  | api text => "API error: " ++ text
  | authenticationFailed text => "Authentication failed: " ++ text
  | invalidArgument text => "Invalid argument: " ++ text
  | waitTimeout resource target elapsed lastError =>
    "Timed out after " ++ toString (elapsed / 1000) ++ "s waiting for " ++ resource ++
      " to become '" ++ target ++ "'" ++ lastMessage lastError

/-- The remark on the fault that was seen last. -/
def lastMessage : Option CloudError → String
  | none => ""
  | some e => " (last error: " ++ message e ++ ")"

end

mutual

/-- The texts of the faults behind a fault. -/
def chain : CloudError → List String
  | waitTimeout _ _ _ lastError => lastChain lastError
  | _ => []

/-- The texts of a fault, if there is one, and of those behind it. -/
def lastChain : Option CloudError → List String
  | none => []
  | some e => message e :: chain e

end

end CloudError

end CloudProvider
