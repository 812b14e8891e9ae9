import CloudProvider.Lifecycle.Operation
import CloudProvider.Simulated.Cloud

/-!
# Sessions

A simulated cloud in a setting that can be scripted: calls take time, fail before
they reach the cloud, or come just after something another client does; and what a
read reports can be replaced by other statuses. Every call is logged with its time
and its fault. Operations run one after the other on one clock.

* `Session.backend`: the session as a backend for programs;
* `Session.run`: run an operation;
* `Session.call`: make a single call.
-/

namespace CloudProvider

/-- What another client does. -/
inductive Interference where
  | detachVolume (serverId volumeId : String)
  | deleteVolume (volumeId : String)
  | deleteServer (serverId : String)
  deriving DecidableEq, Inhabited

namespace Interference

/-- The call that the other client makes. -/
def call : Interference → Call
  | detachVolume serverId volumeId => .detachVolume serverId volumeId
  | deleteVolume volumeId => .deleteVolume volumeId
  | deleteServer serverId => .deleteServer serverId

end Interference

/-- What happens before a call reaches the cloud: first time passes, then another
    client acts, and then the call may fail and never get there. -/
structure Effect where
  /-- The milliseconds for which the call sleeps. -/
  delay : Nat := 0
  race : Option Interference := none
  refusal : Option CloudError := none
  deriving Inhabited

/-- A call as it is logged: when it began, and its fault if it failed. -/
structure LoggedCall where
  time : Nat
  call : Call
  fault : Option CloudError
  deriving Inhabited

/-- A cloud, the scripts for the calls to it, and the log of these calls. -/
structure Session where
  cloud : Cloud := {}
  /-- The effects on the next calls of a name. -/
  effects : Table (List Effect) := ∅
  serverStatuses : Table (List ServerStatus) := ∅
  volumeStatuses : Table (List VolumeStatus) := ∅
  snapshotStatuses : Table (List SnapshotStatus) := ∅
  log : List LoggedCall := []
  time : Nat := 0
  deriving Inhabited

namespace Session

/-- The next item of a script, and the scripts without it. -/
def pop {α : Type} (scripts : Table (List α)) (name : String) : Option α × Table (List α) :=
  match scripts.get? name with
  | some (a :: rest) => (some a, scripts.insert name rest)
  | _ => (none, scripts)

/-- What a read reports, once the scripted statuses are taken into account. -/
def overlay : (c : Call) → c.Answer → Session → c.Answer × Session
  | .getServer id, server, s =>
    let (status, rest) := pop s.serverStatuses id
    ({ server with status := status.getD server.status }, { s with serverStatuses := rest })
  | .getVolume id, v, s =>
    let (status, rest) := pop s.volumeStatuses id
    ({ v with status := status.getD v.status }, { s with volumeStatuses := rest })
  | .getSnapshot id, snapshot, s =>
    let (status, rest) := pop s.snapshotStatuses id
    ({ snapshot with status := status.getD snapshot.status }, { s with snapshotStatuses := rest })
  | _, a, s => (a, s)

/-- Let a call reach the cloud. -/
def reach (c : Call) (s : Session) : Except CloudError c.Answer × Session :=
  match s.cloud.answer c with
  | (.error e, cloud) => (.error e, { s with cloud := cloud })
  | (.ok a, cloud) =>
    let (a, s) := overlay c a { s with cloud := cloud }
    (.ok a, s)

/-- Let another client act. The cloud records its call, but it is not logged here. -/
def interfere (s : Session) : Option Interference → Session
  | none => s
  | some step => { s with cloud := (s.cloud.answer step.call).2 }

/-- Let a call reach the cloud under an effect. -/
def reachUnder (c : Call) (effect : Effect) (s : Session) : Reply c.Answer × Session :=
  let s := s.interfere effect.race
  let (r, s) :=
    match effect.refusal with
    | some e => (.error e, s)
    | none => s.reach c
  (⟨Program.sleepTime effect.delay, r⟩, s)

/-- The fault of an outcome. -/
def fault? {α : Type} : Except CloudError α → Option CloudError
  | .ok _ => none
  | .error e => some e

/-- Answer a call and log it. -/
def answerLogged (c : Call) (now : Nat) (s : Session) : Reply c.Answer × Session :=
  let (effect, rest) := pop s.effects c.operation
  let (reply, s) := { s with effects := rest }.reachUnder c (effect.getD {})
  (reply, { s with log := s.log ++ [⟨now, c, fault? reply.outcome⟩] })

/-- The session as a backend. Opening a service is neither scripted nor logged. -/
def backend : Program.Backend Call Call.Answer Session
  | .openService service, _, s => (⟨0, s.cloud.openService service⟩, s)
  | c, now, s => s.answerLogged c now

/-- Run a program. -/
def runAction {α : Type} (p : Action α) (s : Session) : α × Session :=
  let o := p.run backend s.time s
  (o.result, { o.state with time := o.time })

/-- Run an operation. -/
def run {α : Type} (p : Operation α) (s : Session) : Except OperationError α × Session :=
  s.runAction p.run

/-- Make a single call. -/
def call (c : Call) (s : Session) : Except CloudError c.Answer × Session :=
  s.runAction (.perform c)

/-- Change the cloud from outside. -/
def onCloud (change : Cloud → Cloud) (s : Session) : Session :=
  { s with cloud := change s.cloud }

/-- Script the effects on the next calls of a name. -/
def scriptEffects (operation : String) (effects : List Effect) (s : Session) : Session :=
  { s with effects := s.effects.insert operation effects }

/-- Script the statuses that the next reads of a server report. -/
def scriptServer (id : String) (statuses : List ServerStatus) (s : Session) : Session :=
  { s with serverStatuses := s.serverStatuses.insert id statuses }

/-- Script the statuses that the next reads of a volume report. -/
def scriptVolume (id : String) (statuses : List VolumeStatus) (s : Session) : Session :=
  { s with volumeStatuses := s.volumeStatuses.insert id statuses }

/-- Script the statuses that the next reads of a snapshot report. -/
def scriptSnapshot (id : String) (statuses : List SnapshotStatus) (s : Session) : Session :=
  { s with snapshotStatuses := s.snapshotStatuses.insert id statuses }

/-- Forget the calls logged so far. -/
def clearLog (s : Session) : Session := { s with log := [] }

end Session

end CloudProvider
