import CloudProvider.Call
import CloudProvider.Fault.Operation
import CloudProvider.Settings.Basic

/-!
# Operations

A lifecycle operation is a program that may stop with a fault. Every call an
operation makes falls under one of a few forms, depending on what its failure
means to the caller.

* `ask`: the failure of the call is that of the operation, in a context;
* `askFor`: likewise, but absence is the absence of what was asked for;
* `askRepeatedly`: likewise, after the retries that the settings grant;
* `attempt`: the operation goes on with the outcome, whatever it is.
-/

namespace CloudProvider

/-- A program that may stop with a fault. -/
abbrev Operation (α : Type) := ExceptT OperationError (Program Call Call.Answer) α

/-- The timer that operations sleep by. It reaches thirty years of 365 days ahead. -/
instance Operation.timer : Timer where
  longest := 30 * 365 * 24 * 60 * 60 * 1000
  longest_pos := by decide

/-- What chance has in store for an operation: a fresh token for a name, and a
    draw among zones. -/
structure Chance where
  token : String
  draw : Nat
  deriving DecidableEq, Inhabited

namespace Operation

/-- A program as a step of an operation that cannot fail. -/
def ofAction {α : Type} (p : Action α) : Operation α := ExceptT.lift p

/-- A program whose failure is that of the operation. -/
def ofOutcome {α : Type} (fault : CloudError → OperationError) (p : Action (Except CloudError α)) :
    Operation α :=
  ExceptT.mk (p.bind fun r => .done (r.mapError fault))

/-- Make a call and go on with its outcome. -/
def attempt (c : Call) : Operation (Except CloudError c.Answer) := ofAction (.perform c)

/-- Make a call in a context. -/
def ask (c : Call) (context : String) : Operation c.Answer :=
  ofOutcome (CloudError.inContext context) (.perform c)

/-- Make a call to look something up. -/
def askFor (c : Call) (kind id : String) : Operation c.Answer :=
  ofOutcome (CloudError.orNotFound kind id) (.perform c)

/-- Make a call under the retry policy of an operation, and go on with its
    outcome. -/
def attemptRepeatedly (settings : Settings) (policy : String) (c : Call) :
    Operation (Except CloudError c.Answer) :=
  ofAction (settings.retryPolicies.run policy c)

/-- Make a call under the retry policy of an operation, in a context. -/
def askRepeatedly (settings : Settings) (policy : String) (c : Call) (context : String) :
    Operation c.Answer :=
  ofOutcome (CloudError.inContext context) (settings.retryPolicies.run policy c)

/-- Open a service. -/
def openService (service : Service) (title : String) : Operation Unit :=
  ask (.openService service) ("Failed to create " ++ title ++ " service")

/-- Open the compute service. -/
def openCompute : Operation Unit := openService .compute "compute"

/-- Open the network service. -/
def openNetwork : Operation Unit := openService .network "network"

/-- Open the image service. -/
def openImage : Operation Unit := openService .image "image"

/-- Open the volume service. -/
def openVolume : Operation Unit := openService .volume "volume"

/-- Open the load balancer service. -/
def openLoadBalancer : Operation Unit := openService .loadBalancer "load balancer"

end Operation

end CloudProvider
