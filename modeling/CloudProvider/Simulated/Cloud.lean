import CloudProvider.Simulated.Resources

/-!
# A simulated cloud

Simulated resources behind calls that can be made to fail and that are recorded. A
failure is injected into all calls of one name, after some that succeed and for as
many as it lasts; a call that it refuses does not reach the resources. Opening a
service is not recorded, and fails exactly when the service is unavailable.

* `Cloud.answer`: the answer to a call;
* `Injection.next`: whether the next call is refused;
* `answer_resources_of_error`: a call that fails leaves the resources alone;
* `answer_ok`: one that succeeds is answered by the resources;
* `reach_of_uninjected`: so is every call that nothing is injected into.
-/

namespace CloudProvider

/-- A failure injected into the calls of one name. -/
structure Injection where
  /-- How many calls succeed before the first is refused. -/
  successesLeft : Nat
  /-- How many calls are refused before they succeed again; none for all. -/
  failuresLeft : Option Nat
  /-- Whether a refused call finds something absent. -/
  absent : Bool
  deriving DecidableEq, Inhabited

namespace Injection

/-- Whether the next call is refused, and what is left of the injection after it. -/
def next (i : Injection) : Bool × Injection :=
  match i.successesLeft, i.failuresLeft with
  | n + 1, _ => (false, { i with successesLeft := n })
  | 0, some 0 => (false, i)
  | 0, some (n + 1) => (true, { i with failuresLeft := some n })
  | 0, none => (true, i)

/-- The fault of a refused call. -/
def fault (i : Injection) (operation : String) : CloudError :=
  if i.absent then .notFound "resource" operation
  else .api ("injected " ++ operation ++ " failure")

end Injection

/-- A record of a call. -/
structure CallRecord where
  operation : String
  subjects : List String
  deriving DecidableEq, Inhabited

/-- A simulated cloud. -/
structure Cloud where
  resources : Resources := {}
  injections : Table Injection := ∅
  unavailable : List Service := []
  /-- The calls in the order they were made. -/
  calls : List CallRecord := []
  deriving DecidableEq, Inhabited

namespace Cloud

/-- Record a call. -/
def record (c : Call) (s : Cloud) : Cloud :=
  { s with calls := s.calls ++ [⟨c.operation, c.subjects⟩] }

/-- The fault injected into the next call of a name, if it is refused. -/
def inject (operation : String) (s : Cloud) : Option CloudError × Cloud :=
  match s.injections.get? operation with
  | none => (none, s)
  | some i =>
    (if i.next.1 then some (i.fault operation) else none,
      { s with injections := s.injections.insert operation i.next.2 })

/-- Open a service. -/
def openService (service : Service) (s : Cloud) : Except CloudError Unit :=
  if s.unavailable.contains service then
    .error (.authenticationFailed ("no " ++ service.name ++ " endpoint in service catalog"))
  else .ok ()

/-- Make a call that an injection may refuse. -/
def reach (c : Call) (s : Cloud) : Except CloudError c.Answer × Cloud :=
  -- A call is recorded whether it is refused or not.
  match (s.record c).inject c.operation with
  | (some e, s) => (.error e, s)
  | (none, s) =>
    match Resources.answer c s.resources with
    | .error e => (.error e, s)
    | .ok (a, r) => (.ok a, { s with resources := r })

/-- The answer to a call. -/
def answer : (c : Call) → Cloud → Except CloudError c.Answer × Cloud
  | .openService service, s => (s.openService service, s)
  | c, s => s.reach c

theorem inject_resources (operation : String) (s : Cloud) :
    (s.inject operation).2.resources = s.resources := by
  unfold inject
  split <;> rfl

theorem reach_resources_of_error {c : Call} {s s' : Cloud} {e : CloudError}
    (h : s.reach c = (.error e, s')) : s'.resources = s.resources := by
  have hi := inject_resources c.operation (s.record c)
  unfold reach at h
  split at h
  · rename_i hinj
    cases h
    rw [hinj] at hi
    exact hi
  · rename_i hinj
    split at h
    · cases h
      rw [hinj] at hi
      exact hi
    · cases h

theorem answer_resources_of_error {c : Call} {s s' : Cloud} {e : CloudError}
    (h : s.answer c = (.error e, s')) : s'.resources = s.resources := by
  unfold answer at h
  split at h
  · exact (Prod.mk.inj h).2 ▸ rfl
  · exact reach_resources_of_error h

theorem reach_ok {c : Call} {s s' : Cloud} {a : c.Answer} (h : s.reach c = (.ok a, s')) :
    Resources.answer c s.resources = .ok (a, s'.resources) := by
  have hi := inject_resources c.operation (s.record c)
  unfold reach at h
  split at h
  · cases h
  · rename_i hinj
    rw [hinj] at hi
    split at h
    · cases h
    · rename_i hanswer
      cases h
      exact hi ▸ hanswer

theorem answer_ok {c : Call} {s s' : Cloud} {a : c.Answer} (h : s.answer c = (.ok a, s')) :
    Resources.answer c s.resources = .ok (a, s'.resources) := by
  unfold answer at h
  split at h
  · obtain ⟨-, rfl⟩ := Prod.mk.inj h
    rfl
  · exact reach_ok h

theorem inject_of_none {operation : String} {s : Cloud}
    (h : s.injections.get? operation = none) : s.inject operation = (none, s) := by
  rw [inject, h]

theorem reach_of_uninjected {c : Call} {s : Cloud} (h : s.injections.get? c.operation = none) :
    s.reach c = match Resources.answer c s.resources with
      | .error e => (.error e, s.record c)
      | .ok (a, r) => (.ok a, { s.record c with resources := r }) := by
  have hinject : (s.record c).inject c.operation = (none, s.record c) := inject_of_none h
  rw [reach, hinject]
  rfl

/-- Nothing is injected by a call. -/
theorem answer_injections {c : Call} {s : Cloud} {operation : String}
    (h : s.injections.get? operation = none) :
    (s.answer c).2.injections.get? operation = none := by
  have hinject : ((s.record c).inject c.operation).2.injections.get? operation = none := by
    unfold inject
    split
    · exact h
    · rename_i i hi
      have hne : operation ≠ c.operation := by
        rintro rfl
        exact Option.some_ne_none i (hi.symm.trans h)
      exact (Table.get?_insert_of_ne _ _ hne).trans h
  have hreach : (s.reach c).2.injections.get? operation = none := by
    unfold reach
    split
    · rename_i hrefused
      rw [hrefused] at hinject
      exact hinject
    · rename_i hpassed
      rw [hpassed] at hinject
      split <;> exact hinject
  unfold answer
  split
  · exact h
  · exact hreach

/-! ## Seeding -/

/-- Change the resources from outside. -/
def seed (change : Resources → Resources) (s : Cloud) : Cloud :=
  { s with resources := change s.resources }

/-- Put an injection in place, in the stead of one for the same calls. -/
def injectInto (operation : String) (i : Injection) (s : Cloud) : Cloud :=
  { s with injections := s.injections.insert operation i }

/-- Refuse all calls of a name after some that succeed. -/
def failAfter (operation : String) (successes : Nat) (s : Cloud) : Cloud :=
  s.injectInto operation ⟨successes, none, false⟩

/-- Refuse all calls of a name. -/
def fail (operation : String) (s : Cloud) : Cloud := s.failAfter operation 0

/-- Refuse some calls of a name. -/
def failTimes (operation : String) (failures : Nat) (s : Cloud) : Cloud :=
  s.injectInto operation ⟨0, some failures, false⟩

/-- Let all calls of a name find something absent. -/
def failNotFound (operation : String) (s : Cloud) : Cloud :=
  s.injectInto operation ⟨0, none, true⟩

/-- Refuse to open a service. -/
def makeUnavailable (service : Service) (s : Cloud) : Cloud :=
  { s with unavailable := service :: s.unavailable }

/-- Forget the calls made so far. -/
def clearCalls (s : Cloud) : Cloud := { s with calls := [] }

/-! ## Inspection -/

/-- The calls of a name. -/
def callsTo (operation : String) (s : Cloud) : List CallRecord :=
  s.calls.filter (·.operation = operation)

/-- Whether a call of a name only looks at resources. -/
def isRead (operation : String) : Bool :=
  "get_".toList.isPrefixOf operation.toList || "list_".toList.isPrefixOf operation.toList

/-- The names of the calls that may have changed resources. -/
def mutatingCalls (s : Cloud) : List String :=
  (s.calls.map (·.operation)).filter fun operation => ! isRead operation

end Cloud

end CloudProvider
