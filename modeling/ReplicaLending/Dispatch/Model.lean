import ReplicaLending.Scheduler.Model
import ReplicaLending.Task.Workers
/-!
# The scheduler and its TaskRunners

The GroupScheduler stages an operation and dispatches it to the TaskRunner of the target's task
session; the lifecycle threads there report evidence back. Between the two lie messages that may be
lost, answered in vain, or executed late. What the owners of a task answer to the calls of its
lifecycle threads is left open.

| here | there |
| --- | --- |
| `schedule`        | a call on the scheduler actor; `submit_operation` dispatches (group_scheduler.py:242) |
| `deliver`         | the TaskRunner executes a dispatched `submit_operation` (task_runner.py:176) |
| `thread`          | a step of a lifecycle thread |
| `report`          | one attempt of `_advance_lease` (task_runner.py:94-106) |
| `deliverEvidence` | an attempt its thread has given up reaches the scheduler |

A dispatch goes to the actor that is attached under the task session; an actor with another session
rejects it (task_runner.py:194), which is a dispatch that is never delivered.
-/

namespace ReplicaLending

structure Dispatch where
  scheduler : GroupScheduler
  /-- Dispatched and not yet executed. -/
  commands : List (OperationCommand × Lease)
  /-- Evidence of attempts given up by their threads and not yet executed. -/
  evidence : List (String × OperationEvidence)
  /-- The TaskRunner of each task session. -/
  runner : String → ControlPlane

namespace Dispatch

def init : Dispatch := ⟨.init, [], [], fun _ => .init⟩

inductive Label
  | schedule (call : GroupScheduler.Call)
  | deliver (n : Nat) (failure : Option PyErr)
  | thread (session : String) (act : ControlPlane.Act)
  | report (session : String) (i : Nat) (fault : Fault)
  | deliverEvidence (n : Nat)

/-- What a call on the scheduler sends to a TaskRunner. -/
def dispatched (s : GroupScheduler) : GroupScheduler.Call → List (OperationCommand × Lease)
  | .submitOperation command now _ => match s.submitCheck command now with
    | .ok lease => [(command, lease)]
    | .error _ => []
  | _ => []

/-- A call that is no `advance_lease`: only lifecycle threads report evidence. -/
def schedule (call : GroupScheduler.Call) (s : Dispatch) : Dispatch :=
  match call with
  | .advanceLease _ _ => s
  | call => { s with
      scheduler := GroupScheduler.apply call s.scheduler
      commands := s.commands ++ dispatched s.scheduler call }

def onRunner (session : String) (act : ControlPlane.Act) (s : Dispatch) : Dispatch :=
  { s with
    runner := Function.update s.runner session (ControlPlane.apply session act (s.runner session)) }

def deliver (n : Nat) (failure : Option PyErr) (s : Dispatch) : Dispatch :=
  match s.commands[n]? with
  | none => s
  | some (command, lease) =>
    { s with commands := s.commands.eraseIdx n }.onRunner command.target.taskSession
      (.submit command (some lease) failure)

/-- The evidence a thread is waiting to see accepted. -/
def advancing : ThreadPhase → Option OperationEvidence
  | .running (.call (.advanceLease evidence) _) => some evidence
  | _ => none

def advancingOf (s : ControlPlane) (i : Nat) : Option OperationEvidence :=
  s.workers[i]?.bind fun w => advancing w.phase

/-- A step of a thread that does not need the scheduler. -/
def thread (session : String) (act : ControlPlane.Act) (s : Dispatch) : Dispatch :=
  match act with
  | .submit _ _ _ => s
  | .answer i reply =>
    if (advancingOf (s.runner session) i).isSome then s else s.onRunner session (.answer i reply)
  | act => s.onRunner session act

/-- One attempt of `_advance_lease` for the lease of `command`. -/
def attempt (session : String) (i : Nat) (leaseId : String) (evidence : OperationEvidence)
    (s : Dispatch) : Fault → Dispatch
  | .none => { s with
      scheduler := (s.scheduler.advanceLease leaseId evidence).2 }.onRunner session
        (.answer i ((s.scheduler.advanceLease leaseId evidence).1.map fun _ => none))
  | .before => s.onRunner session (.answer i (.error lostReply))
  | .after => { s with
      scheduler := (s.scheduler.advanceLease leaseId evidence).2 }.onRunner session
        (.answer i (.error lostReply))
  | .late => { s with
      evidence := s.evidence ++ [(leaseId, evidence)] }.onRunner session
        (.answer i (.error lostReply))

def report (session : String) (i : Nat) (fault : Fault) (s : Dispatch) : Dispatch :=
  match (s.runner session).workers[i]? with
  | none => s
  | some w => match advancing w.phase, (s.runner session).journal.command w.operationId with
    | some evidence, .ok command => s.attempt session i command.leaseId evidence fault
    | _, _ => s

def deliverEvidence (n : Nat) (s : Dispatch) : Dispatch :=
  match s.evidence[n]? with
  | none => s
  | some (leaseId, evidence) => { s with
      scheduler := (s.scheduler.advanceLease leaseId evidence).2
      evidence := s.evidence.eraseIdx n }

def apply : Label → Dispatch → Dispatch
  | .schedule call, s => s.schedule call
  | .deliver n failure, s => s.deliver n failure
  | .thread session act, s => s.thread session act
  | .report session i fault, s => s.report session i fault
  | .deliverEvidence n, s => s.deliverEvidence n

def machine : Machine Dispatch Label := Machine.ofFun (· = init) apply

end Dispatch

end ReplicaLending
