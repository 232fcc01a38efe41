import ReplicaLending.Task.System
import ReplicaLending.Task.Workers
/-!
# Owner calls that outlive their callers

The TaskRunner of a task and its owners, the Rollouter and the Trainer. A lifecycle thread sends a
call and waits; the call runs on its owner, one stretch of code between two awaits at a time. The
thread may give up on the reply at any time, and the call then goes on without it, along with the
calls of a replay. So may a call a Trainer method has made on the Rollouter.

| here | there |
| --- | --- |
| `send`   | `rollouter.….remote(…)`, `trainer.….remote(…)` in `_execute_operation` |
| `work`   | the owner runs the call up to its next await |
| `reply`  | `ray.get` returns, or raises what the owner raised |
| `lose`   | `ray.get` raises an error of its own; the call is not affected |
| `drop`   | a call that has not begun never will |
| `nested` | a call of a Trainer method on the Rollouter that the method has given up on |
| `clear`  | a `clear_operation_binding` of `_finish` (task_runner.py:125) |

The calls a TaskRunner sends to one actor begin in the order they were sent.
-/

namespace ReplicaLending

deriving instance DecidableEq for Dict, LeaseClaim, BorrowedSpec, NormalSpec, BorrowedRecord
deriving instance DecidableEq for LLMServerManager, GlobalRequestLoadBalancer
deriving instance DecidableEq for CheckpointEngineManager, Remote

open TaskProg TaskState

namespace Rollouter

/-- `prepare_exit` without `force` up to its first await (rollouter.py:665-670, :787-793). -/
def enterNatural (key : ReplicaKey) (operationId : String) (s : TaskState) (o : Choice) :
    Except PyErr Unit × TaskState :=
  match s.manager.replicaMeta key, checkBinding s operationId key with
  | .error e, _ => (.error e, s)
  | .ok _, .error e => (.error e, s)
  | .ok (_, state), .ok () =>
    if state = .active ∨ state = .draining then enterDraining key operationId state s o
    else (.error (.valueError "prepare_exit requires ACTIVE/DRAINING replica"), s)

/-- `prepare_exit` without `force`: `prepareExit` with everything before its first await in one
step. -/
def naturalExit (d : Deployment) (key : ReplicaKey) (operationId : String) :
    TaskProg OperationEvidence := do
  call (enterNatural key operationId)
  let serverId ← beginDrainOnce key operationId
  require (d.drainTimeoutPositive = true)
    (.valueError "multitask.drain_timeout_s must be positive")
  awaitNaturalDrain serverId
  call fun s o => (OperationEvidence.now o.now operationId .exitReady, s)

end Rollouter

/-- The actors a lifecycle thread calls. -/
inductive Actor | rollouter | trainer | scheduler
deriving DecidableEq, Repr

namespace Remote

def actor : Remote → Actor
  | prepareReplica _ | queryReleaseOperation | prepareExit | getPendingTarget | finalizeRelease =>
    .rollouter
  | bootstrapAndPublish | restoreAndPublish | reconcileExit | removeAndCommit => .trainer
  | advanceLease _ => .scheduler

/-- The owner's method. The scheduler's runs elsewhere. -/
def program (d : Deployment) (command : OperationCommand) :
    Remote → TaskProg (Option OperationEvidence)
  | prepareReplica spec =>
    (Rollouter.prepareReplica d command.target command.operationId spec).bind fun
      | .released evidence => .ret (some evidence)
      | _ => .ret none
  | bootstrapAndPublish => (Trainer.bootstrapAndPublish d command.operationId).bind (.ret ∘ some)
  | restoreAndPublish => (Trainer.restoreAndPublish d command.operationId).bind (.ret ∘ some)
  | queryReleaseOperation => Rollouter.queryReleaseOperation command.target command.operationId
  | reconcileExit => Trainer.reconcileExit d command.operationId
  | prepareExit =>
    (if command.force.getD false then
      Rollouter.prepareExit d command.target command.operationId true
    else Rollouter.naturalExit d command.target command.operationId).bind (.ret ∘ some)
  | getPendingTarget =>
    (peek fun s => Rollouter.getPendingTarget s command.operationId).bind fun _ => .ret none
  | removeAndCommit => (Trainer.removeAndCommit d command.operationId).bind (.ret ∘ some)
  | finalizeRelease => (Rollouter.finalizeRelease d command.operationId).bind (.ret ∘ some)
  | advanceLease _ => .ret none

end Remote

/-- A call of a Trainer method on the Rollouter that changes something. -/
inductive Nested | commitServiceChange | finalizeRelease | quarantineDormantRestore
deriving DecidableEq, Repr

def Nested.program (d : Deployment) (operationId : String) :
    Nested → TaskProg (Option OperationEvidence)
  | commitServiceChange => Rollouter.commitServiceChange d operationId
  | finalizeRelease => (Rollouter.finalizeRelease d operationId).bind (.ret ∘ some)
  | quarantineDormantRestore =>
    (call (Rollouter.quarantineDormantRestore operationId)).bind fun _ => .ret none

/-- A call on its owner; `remote` when a lifecycle thread has sent it. -/
structure OwnerCall where
  operationId : String
  remote : Option Remote
  started : Bool
  rest : TaskProg (Option OperationEvidence)

namespace OwnerCall

/-- Neither returned nor raised. -/
def running (c : OwnerCall) : Bool :=
  match c.rest with
  | .step _ _ _ _ => true
  | _ => false

/-- What the call came to. -/
def outcome (c : OwnerCall) : Option Reply :=
  match c.rest with
  | .ret value => some (.ok value)
  | .err e => some (.error e)
  | .step _ _ _ _ => none

def actor (c : OwnerCall) : Actor := (c.remote.map Remote.actor).getD .rollouter

end OwnerCall

/-- A step leaves the Manager, the load balancer and the checkpoint manager alone, and sends nothing
that changes them, but for calls that were under way to the load balancer before. -/
def TaskState.Silent (s : TaskState) (o : Choice) (t : TaskState) : Prop :=
  (t.manager = s.manager ∧ t.ce = s.ce) ∧
    (t.lb = s.lb ∧ t.inflight = s.inflight ∨
      t.lb = (s.flush o.now).lb ∧ t.inflight = (s.flush o.now).inflight)

instance (s : TaskState) (o : Choice) (t : TaskState) : Decidable (s.Silent o t) :=
  inferInstanceAs (Decidable (_ ∧ _))

structure OwnerSystem where
  runner : ControlPlane
  /-- The owners' state; the journal is the one of `runner`. -/
  owners : TaskState
  /-- All calls ever sent, oldest first. -/
  calls : List OwnerCall
  /-- The call a worker waits for. -/
  awaiting : Nat → Option Nat
  /-- Operations that have been bound to a target at some time. -/
  everBound : List String
  /-- Operations a call of which has changed something. -/
  changed : List String

namespace OwnerSystem

inductive Label
  | thread (act : ControlPlane.Act)
  | send (i : Nat)
  | drop (n : Nat)
  | work (n : Nat) (o : Choice)
  | reply (i : Nat)
  | lose (i : Nat)
  /-- The scheduler answers an `advance_lease`, or does not. -/
  | answer (i : Nat) (reply : Reply)
  | nested (n : Nat) (call : Nested)
  | clear (operationId : String)
  | environment (e : Environment)

/-- The target an operation is bound to. -/
def binding (s : OwnerSystem) (operationId : String) : Option ReplicaKey :=
  s.owners.rollouter.pendingOperationTargets.get? operationId

/-- The remote call a worker has come to, with its command. -/
def nextCall (s : OwnerSystem) (i : Nat) : Option (OperationCommand × Remote) :=
  match s.runner.workers[i]? with
  | none => none
  | some w => match w.phase, s.runner.journal.commands.get? w.operationId with
    | .running (.call c _), some command => some (command, c)
    | _, _ => none

/-- The reply reaches the worker. -/
def answered (d : Deployment) (i : Nat) (reply : Reply) (s : OwnerSystem) : OwnerSystem :=
  { s with
    runner := ControlPlane.apply d.taskSession (.answer i reply) s.runner
    awaiting := Function.update s.awaiting i none }

def send (d : Deployment) (i : Nat) (s : OwnerSystem) : Option OwnerSystem :=
  match s.awaiting i, s.nextCall i with
  | none, some (command, c) =>
    if c.actor = .scheduler then none
    else some { s with
      calls := s.calls ++ [⟨command.operationId, some c, false, c.program d command⟩]
      awaiting := Function.update s.awaiting i (some s.calls.length) }
  | _, _ => none

def drop (n : Nat) (s : OwnerSystem) : Option OwnerSystem :=
  match s.calls[n]? with
  | none => none
  | some c =>
    if c.started then none
    else some { s with calls := s.calls.set n { c with started := true, rest := .err lostReply } }

/-- A call may begin once all earlier ones to the same actor have. The owners are asynchronous actors, and
Ray starts the calls that one process sends to such an actor in the order in which they were sent; from its
first step on a call runs beside the others. -/
def mayBegin (s : OwnerSystem) (n : Nat) (c : OwnerCall) : Bool :=
  c.started || (s.calls.take n).all fun b => b.started || b.actor ≠ c.actor

/-- The owners after a step of the call `c`, which is the `n`-th. -/
def stepped (n : Nat) (c : OwnerCall) (rest : TaskProg (Option OperationEvidence)) (o : Choice)
    (t : TaskState) (s : OwnerSystem) : OwnerSystem :=
  { s with
    owners := t
    calls := s.calls.set n { c with started := true, rest }
    everBound := if (t.rollouter.pendingOperationTargets.get? c.operationId).isSome then
        c.operationId :: s.everBound else s.everBound
    changed := if s.owners.Silent o t then s.changed else c.operationId :: s.changed }

def work (n : Nat) (o : Choice) (s : OwnerSystem) : Option OwnerSystem :=
  match s.calls[n]? with
  | none => none
  | some c => match c.rest with
    | .step _ ready act next =>
      if s.mayBegin n c ∧ ready s.owners o then
        some (s.stepped n c (next s.owners o) o (act s.owners o))
      else none
    | _ => none

def reply (d : Deployment) (i : Nat) (s : OwnerSystem) : Option OwnerSystem :=
  match s.awaiting i with
  | none => none
  | some n => match s.calls[n]? with
    | none => none
    | some c => c.outcome.map fun r => s.answered d i r

def lose (d : Deployment) (i : Nat) (s : OwnerSystem) : Option OwnerSystem :=
  (s.awaiting i).map fun _ => s.answered d i (.error lostReply)

def answer (d : Deployment) (i : Nat) (reply : Reply) (s : OwnerSystem) : Option OwnerSystem :=
  match s.awaiting i, s.nextCall i with
  | none, some (_, .advanceLease _) => some { s with
      runner := ControlPlane.apply d.taskSession (.answer i reply) s.runner }
  | _, _ => none

/-- The Trainer runs the `n`-th call. -/
def nested (d : Deployment) (n : Nat) (call : Nested) (s : OwnerSystem) : Option OwnerSystem :=
  match s.calls[n]? with
  | none => none
  | some c =>
    if c.started ∧ c.actor = .trainer then some { s with
      calls := s.calls ++ [⟨c.operationId, none, true, call.program d c.operationId⟩] }
    else none

def clear (operationId : String) (s : OwnerSystem) : Option OwnerSystem :=
  if (s.runner.journal.query operationId).any fun r => r.status.resolved then
    some { s with owners := Rollouter.clearOperationBinding s.owners operationId }
  else none

def step (d : Deployment) (s : OwnerSystem) : Label → Option OwnerSystem
  | .thread (.answer _ _) => none
  | .thread act => some { s with runner := ControlPlane.apply d.taskSession act s.runner }
  | .send i => s.send d i
  | .drop n => s.drop n
  | .work n o => s.work n o
  | .reply i => s.reply d i
  | .lose i => s.lose d i
  | .answer i reply => s.answer d i reply
  | .nested n call => s.nested d n call
  | .clear operationId => s.clear operationId
  | .environment e => (s.owners.environment e).map fun t => { s with owners := t }

/-- The TaskRunner has not been asked anything, and its owners have just been initialised. -/
def initial (d : Deployment) (replicas : List Replica) (version : Nat) : OwnerSystem where
  runner := .init
  owners := (TaskSystem.initial d replicas version).state
  calls := []
  awaiting := fun _ => none
  everBound := []
  changed := []

def machine (d : Deployment) : Machine OwnerSystem Label where
  init s := ∃ replicas version, TaskSystem.Starts replicas ∧ s = initial d replicas version
  step s l t := s.step d l = some t

end OwnerSystem

end ReplicaLending
