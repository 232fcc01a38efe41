import ReplicaLending.Library.Prog
import ReplicaLending.Gate.Model
import ReplicaLending.Task.Journal
import ReplicaLending.Task.LoadBalancer
import ReplicaLending.Task.CheckpointEngine
import ReplicaLending.Task.ServerManager
/-!
# One task: its actors' state and the calls between them

A task is a TaskRunner, a Trainer (checkpoint engine, gate) and a Rollouter (Manager), with a load
balancer and the runtimes. The lifecycle code of all of them runs on behalf of one TaskRunner thread
at a time, so its text is one `Prog` over the whole state; a step is at most one stretch of code
between two awaits of one actor.

What a remote call may do:

* it is not executed and the caller sees an error, or it is executed and its reply arrives, or it is
  executed and its reply is lost (`rpc`, `onServer`). A callee ends before its caller goes on;
* a call of the Rollouter that changes the load balancer may also be executed late, when the caller
  has long seen its error (`inflight`). Calls of one caller to one actor are executed in order, so
  the next call that gets through finds every earlier one executed (`flush`);
* evidence sent to the GroupScheduler is processed in order, some time, and the TaskRunner may stop
  waiting for the answer (`outbox`, `answer`).
-/

namespace ReplicaLending

structure Rollouter where
  pendingOperationTargets : Dict String ReplicaKey
  forceExitRecovery : Dict String (List String × Option Nat)

/-- A call of the Rollouter that changes the load balancer. -/
inductive LbCall
  | commitReady (key : ReplicaKey) (serverId : String) (serverHandle : Nat) (operationId : String)
  | beginDrain (key : ReplicaKey) (operationId : String)
  | finishRemove (key : ReplicaKey)
deriving DecidableEq

/-- What the call does to the load balancer. -/
def LbCall.exec (now : Nat) (lb : GlobalRequestLoadBalancer) : LbCall → GlobalRequestLoadBalancer
  | .commitReady k x h o => (lb.commitReady now k x h o).2
  | .beginDrain k o => (lb.beginDrain k o).2
  | .finishRemove k => (lb.finishRemove k).2

/-- The end of a resolved operation's thread: what is left of `_finish` and the `finally` of
`_execute_operation` (task_runner.py:121, :456). -/
structure Closing where
  operationId : String
  /-- Attempts left to clear the Rollouter's binding. -/
  clears : Nat
deriving DecidableEq

structure TaskState where
  rollouter : Rollouter
  manager : LLMServerManager
  lb : GlobalRequestLoadBalancer
  /-- Calls to the load balancer given up by their caller and not yet executed, oldest first. -/
  inflight : List LbCall
  ce : CheckpointEngineManager
  gate : ReplicaSyncGate
  /-- The lease of a native synchronisation in progress. -/
  nativeSync : Option GateOwner
  currentParamVersion : Nat
  /-- The runtime of each rank. -/
  world : Nat → Server
  journal : OperationJournal
  operationLeases : Dict String Lease
  closing : List Closing
  /-- Evidence sent to the GroupScheduler and not yet processed, oldest first. -/
  outbox : List (String × OperationEvidence)
  /-- The answer to the evidence processed last. -/
  answer : Except PyErr Unit

/-- What a step cannot determine. -/
structure Choice where
  fault : Fault
  inner : Nat → Fault
  now : Nat
  address : String
  /-- What `abort_all_requests` reports; `none` when it is no dict with an integer count. -/
  aborted : Option Int
  /-- A deadline has passed. -/
  expired : Bool

/-- What a step is, as far as claims and run conditions refer to it. -/
inductive Event
  | internal
  /-- `commit_service_change` reads the Manager's record of its target. -/
  | serviceChange (operationId : String)
  /-- `bootstrap_and_publish` or `restore_and_publish` returns. -/
  | published (operationId : String) (evidence : OperationEvidence)
  /-- A FORCE exit calls `abort_all_requests`. -/
  | abort (operationId : String)
  /-- A wait: for the gate's lock, for the requests of a server, for the GroupScheduler. -/
  | lock
  | drain (serverId : String)
  | answer

abbrev TaskProg := Prog TaskState Choice Event PyErr

def lostReply : PyErr := ⟨.rayError, "remote call failed"⟩

namespace TaskState

def flush (s : TaskState) (now : Nat) : TaskState :=
  { s with lb := s.inflight.foldl (LbCall.exec now) s.lb, inflight := [] }

def setServer (s : TaskState) (rank : Nat) (v : Server) : TaskState :=
  { s with world := Function.update s.world rank v }

/-- A method of one owner as a step: `.error` leaves the state alone. -/
def onManager (f : LLMServerManager → Except PyErr LLMServerManager) (s : TaskState) :
    Except PyErr Unit × TaskState :=
  match f s.manager with
  | .ok m => (.ok (), { s with manager := m })
  | .error e => (.error e, s)

def onCe (f : CheckpointEngineManager → Except PyErr CheckpointEngineManager) (s : TaskState) :
    Except PyErr Unit × TaskState :=
  match f s.ce with
  | .ok ce => (.ok (), { s with ce := ce })
  | .error e => (.error e, s)

end TaskState

namespace TaskProg

variable {α : Type}

/-- A step that does not wait. -/
def call (f : TaskState → Choice → Except PyErr α × TaskState) : TaskProg α := Prog.call .internal f

/-- A read of local state. -/
def peek (f : TaskState → Except PyErr α) : TaskProg α := call fun s _ => (f s, s)

def raise (e : PyErr) : TaskProg α := .err e

/-- `if not p: raise e`. -/
def require (p : Prop) [Decidable p] (e : PyErr) : TaskProg Unit := if p then .ret () else .err e

/-- `if c: p`. -/
def when (c : Prop) [Decidable c] (p : TaskProg Unit) : TaskProg Unit := if c then p else .ret ()

/-- A remote call of a method of another actor. -/
def rpc (body : TaskProg α) : TaskProg α :=
  (call fun s o => (if o.fault = .before then .error lostReply else .ok (), s)).bind fun _ =>
    body.result.bind fun r => call fun s o => (if o.fault ≠ .none then .error lostReply else r, s)

/-- A remote call to a runtime. -/
def onServer (r : Replica) (f : (Nat → Fault) → Server → Except PyErr α × Server) : TaskProg α :=
  call fun s o => match o.fault with
    | .before => (.error lostReply, s)
    | .none => ((f o.inner (s.world r.rank)).1, s.setServer r.rank (f o.inner (s.world r.rank)).2)
    | .after | .late => (.error lostReply, s.setServer r.rank (f o.inner (s.world r.rank)).2)

/-- A call that changes the load balancer. -/
def lbCall (c : LbCall) (reply : Nat → GlobalRequestLoadBalancer → Except PyErr α) : TaskProg α :=
  call fun s o => match o.fault with
    | .before => (.error lostReply, s)
    | .late => (.error lostReply, { s with inflight := s.inflight ++ [c] })
    | .none => (reply o.now (s.flush o.now).lb,
        { s.flush o.now with lb := c.exec o.now (s.flush o.now).lb })
    | .after => (.error lostReply, { s.flush o.now with lb := c.exec o.now (s.flush o.now).lb })

/-- A call that reads the load balancer. -/
def lbRead (f : GlobalRequestLoadBalancer → α) : TaskProg α :=
  call fun s o =>
    if o.fault = .none then (.ok (f (s.flush o.now).lb), s.flush o.now) else (.error lostReply, s)

/-- `_read_rpc` (rollouter.py:273), with the attempts that are left after the first. -/
def readRpc (f : GlobalRequestLoadBalancer → α) (attempts : Nat := 2) : TaskProg α :=
  match attempts with
  | 0 => lbRead f
  | n + 1 => (lbRead f).tryCatch fun _ => readRpc f n

/-! ## The gate -/

/-- `gate.acquire` (replica_sync_gate.py:150), without a timeout. -/
def acquire (operationId : String) (kind : GateKind) : TaskProg GateOwner :=
  (peek fun s => s.gate.acquireHead operationId).bind fun _ =>
    Prog.await .lock (fun s _ => s.gate.lock.free) fun s o =>
      let taken := { s.gate with lock := s.gate.lock.take }
      let r := taken.acquireTail operationId kind o.now
      (r.1, { s with gate := r.2 })

/-- `lease.release` (replica_sync_gate.py:209). -/
def release (lease : GateOwner) : TaskProg Unit :=
  call fun s _ => (.ok (), { s with gate := (s.gate.release lease).2 })

/-- `gate.block` (replica_sync_gate.py:79). -/
def block (lease : GateOwner) (reason : String) : TaskProg Unit :=
  call fun s _ => ((s.gate.block lease reason).1, { s with gate := (s.gate.block lease reason).2 })

/-- `lease.guard` (replica_sync_gate.py:220) of a local method. -/
def guard (lease : GateOwner) (f : TaskState → Choice → Except PyErr α × TaskState) : TaskProg α :=
  call fun s o => match s.gate.guardHead lease with
    | .error e => (.error e, s)
    | .ok () => match f s o with
      | (.error e, t) => (.error e, t)
      | (.ok a, t) => match t.gate.guardTail lease with
        | .error e => (.error e, t)
        | .ok () => (.ok a, t)

/-- `lease.guard` of a coroutine. -/
def guardAsync (lease : GateOwner) (p : TaskProg α) : TaskProg α :=
  (peek fun s => s.gate.guardHead lease).bind fun _ =>
    p.bind fun a => (peek fun s => s.gate.guardTail lease).bind fun _ => .ret a

/-- `gate.reconcile` (replica_sync_gate.py:97); `none` when there is nothing to reconcile. -/
def reconcile (operationId : String) (callback : TaskProg α) : TaskProg (Option α) :=
  (peek fun s => s.gate.reconcileHead operationId).bind fun
    | false => .ret none
    | true =>
      (Prog.await .lock (fun s _ => s.gate.lock.free) fun s o =>
        let taken := { s.gate with lock := s.gate.lock.take }
        let r := taken.reconcileTail operationId o.now
        (r.1, { s with gate := r.2 })).bind fun
      | none => .ret none
      | some _ => callback.result.bind fun r =>
          call fun s _ => (r.map some, { s with gate := s.gate.reconcileEnd r.isOk })

end TaskProg

end ReplicaLending
