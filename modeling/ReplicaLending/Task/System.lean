import ReplicaLending.Library.Machine
import ReplicaLending.Task.TaskRunner
/-!
# The machine of one task

Everything that can happen to a task, one step at a time: the lifecycle thread runs, the scheduler
(or anybody else) submits commands, requests come and go at the load balancer, a late call reaches
it, the GroupScheduler answers, the Trainer synchronises weights, a resolved operation's thread
clears up. The scheduler is not modelled here: it may submit any command, in any order and any number
of times, and accept or reject any evidence.
-/

namespace ReplicaLending

open TaskProg TaskState Rollouter Trainer TaskRunner

/-- What the rest of the task does between two steps of the lifecycle thread. -/
inductive Environment
  /-- A client asks the load balancer for a server, gives one back, or hands a request over. -/
  | acquireServer (requestId pick : String)
  | releaseServer (serverId requestId : String)
  | confirmContinuation (now : Nat) (requestId clientId prefixDigest : String)
  /-- The oldest late call reaches the load balancer. -/
  | deliver (now : Nat)
  /-- The GroupScheduler processes the oldest evidence. -/
  | schedulerAnswers (result : Except PyErr Unit)
  /-- `_fit_update_weights` takes the gate (trainer.py:64). -/
  | nativeSyncStarts (now : Nat)
  /-- It has loaded every effective replica, or some of them and fails. -/
  | nativeSyncEnds
  | nativeSyncFails (loaded : List Nat) (reason : String)
  /-- A training step publishes the next version. -/
  | versionAdvances
  /-- `_finish` tries to clear the binding of a resolved operation (task_runner.py:125). -/
  | clearBinding (operationId : String) (fault : Fault)
  /-- The `finally` of its thread (:456). -/
  | threadEnds (operationId : String)

namespace TaskState

/-- The runtimes of the given ranks report a version. -/
def loadRanks (s : TaskState) (ranks : List Nat) (version : Nat) : Nat → Server := fun n =>
  if n ∈ ranks then { s.world n with globalSteps := some version } else s.world n

def nativeOperation (s : TaskState) : String := "native-sync:" ++ toString s.currentParamVersion

/-- One step of the environment; `none` when it is not possible. -/
def environment (s : TaskState) : Environment → Option TaskState
  | .acquireServer r pick => some { s with lb := (s.lb.acquireServer r pick).2 }
  | .releaseServer x r => some { s with lb := (s.lb.releaseServer x r).2 }
  | .confirmContinuation now r client digest =>
    some { s with lb := (s.lb.confirmContinuation now r client digest).2 }
  | .deliver now => match s.inflight with
    | [] => none
    | c :: cs => some { s with lb := c.exec now s.lb, inflight := cs }
  | .schedulerAnswers result => match s.outbox with
    | [] => none
    | _ :: es => some { s with outbox := es, answer := result }
  | .nativeSyncStarts now =>
    if s.nativeSync.isSome ∨ s.gate.lock.free = false then none
    else match s.gate.acquireHead s.nativeOperation with
      | .error _ => none
      | .ok () =>
        let taken := { s.gate with lock := s.gate.lock.take }
        match taken.acquireTail s.nativeOperation .nativeSync now with
        | (.error _, _) => none
        | (.ok owner, g) => some { s with gate := g, nativeSync := some owner }
  | .nativeSyncEnds => match s.nativeSync with
    | none => none
    | some owner => some { s with
        world := s.loadRanks (s.ce.replicas.map Replica.rank) s.currentParamVersion
        ce := s.ce.markAllLoadedVersion s.currentParamVersion
        gate := (s.gate.release owner).2
        nativeSync := none }
  | .nativeSyncFails loaded reason => match s.nativeSync with
    | none => none
    | some owner => if reason = "" then none else some { s with
        world := s.loadRanks
          ((s.ce.replicas.map Replica.rank).filter (· ∈ loaded)) s.currentParamVersion
        gate := ((s.gate.block owner reason).2.release owner).2
        nativeSync := none }
  | .versionAdvances => some { s with currentParamVersion := s.currentParamVersion + 1 }
  | .clearBinding o fault =>
    match s.closing.find? fun c => c.operationId = o ∧ 0 < c.clears with
    | none => none
    | some c =>
      let left : Closing := ⟨o, if fault = .none then 0 else c.clears - 1⟩
      let s := { s with closing := left :: s.closing.filter fun c => c.operationId ≠ o }
      some (if fault = .before then s else clearOperationBinding s o)
  | .threadEnds o =>
    if (⟨o, 0⟩ : Closing) ∈ s.closing then some { s with
      closing := s.closing.filter fun c => c.operationId ≠ o
      operationLeases := s.operationLeases.erase o }
    else none

end TaskState

/-- A task with its lifecycle thread. -/
structure TaskSystem where
  state : TaskState
  worker : Option (String × TaskProg Unit)

inductive TaskLabel
  /-- A call of `submit_operation`; the thread it launches may fail to start. -/
  | submit (command : OperationCommand) (lease : Option Lease) (starts : Bool)
  /-- The thread makes a step. -/
  | work (o : Choice)
  | environment (e : Environment)

namespace TaskSystem

/-- Between steps a thread that has returned, or raised, is gone. -/
def resume (operationId : String) : TaskProg Unit → Option (String × TaskProg Unit)
  | .ret () => none
  | .err _ => none
  | p => some (operationId, p)

/-- A thread is the program it runs. -/
theorem resume_eq_some {o o' : String} {p p' : TaskProg Unit} (h : resume o p = some (o', p')) :
    o' = o ∧ p' = p := by
  cases p with
  | ret a => cases h
  | err e => cases h
  | step tag ready act next => cases h; exact ⟨rfl, rfl⟩

/-- `submit_operation` (task_runner.py:176). -/
def submit (d : Deployment) (command : OperationCommand) (lease : Option Lease) (starts : Bool)
    (s : TaskSystem) : Except PyErr Unit × TaskSystem :=
  let busy := s.worker.any fun w => w.1 = command.operationId
  let replay := (s.state.journal.query command.operationId).isSome
  match submitOperation d command lease busy s.state with
  | (.error e, t) => (.error e, { s with state := t })
  | (.ok false, t) => (.ok (), { s with state := t })
  | (.ok true, t) =>
    if starts then (.ok (), ⟨t, resume command.operationId
      (executeOperation d command.operationId)⟩)
    else (.error (.runtimeError "can't start new thread"),
      { s with state := launchFailed command.operationId replay t })

/-- One step of the thread; `none` when there is none or it waits for something else. -/
def work (o : Choice) (s : TaskSystem) : Option TaskSystem :=
  match s.worker with
  | some (operationId, .step _ ready act next) =>
    if ready s.state o then
      some ⟨act s.state o, resume operationId (next s.state o)⟩
    else none
  | _ => none

def step (d : Deployment) : TaskLabel → TaskSystem → Option TaskSystem
  | .submit command lease starts, s => some (s.submit d command lease starts).2
  | .work o, s => s.work o
  | .environment e, s => (s.state.environment e).map fun t => { s with state := t }

/-- A task after initialisation: native replicas, all ACTIVE, routed and effective. -/
def initial (d : Deployment) (replicas : List Replica) (version : Nat) : TaskSystem where
  worker := none
  state :=
    let keys := replicas.map fun r => nativeReplicaKey d.taskSession d.taskSession_ne r.rank
    let table {ν : Type} (f : Replica → ν) : Dict ReplicaKey ν :=
      replicas.foldl (fun t r =>
        t.insert (nativeReplicaKey d.taskSession d.taskSession_ne r.rank) (f r)) ∅
    { rollouter := ⟨∅, ∅⟩
      manager :=
        { replicaState := keys.foldl (fun t k => t.insert k .active) ∅
          replicaKind := keys.foldl (fun t k => t.insert k .native) ∅
          runtimeInventory := table id
          rolloutReplicas := replicas
          serverAddresses := replicas.map (·.address)
          serverHandles := replicas.map (·.rank)
          nextReplicaRank := replicas.foldl (fun n r => max n (r.rank + 1)) 0
          borrowedOperations := ∅
          nativeReleaseEvidence := ∅ }
      lb := .init (replicas.foldl (fun t r => t.insert r.address r.rank) ∅) (table (·.address))
      inflight := []
      ce := ⟨replicas, table fun r => ([r], version), ∅, ∅⟩
      gate := .init
      nativeSync := none
      currentParamVersion := version
      world := fun n =>
        if n ∈ replicas.map Replica.rank then ⟨true, true, .awake, false, some version, true, true,
          true, false⟩
        else .absent
      journal := .init
      operationLeases := ∅
      closing := []
      outbox := []
      answer := .ok () }

/-- The native replicas a task starts with: distinct ranks, distinct addresses, native. -/
structure Starts (replicas : List Replica) : Prop where
  ranks : (replicas.map Replica.rank).Nodup
  addresses : (replicas.map Replica.address).Nodup
  address_ne : ∀ r ∈ replicas, r.address ≠ ""
  native : ∀ r ∈ replicas, r.kind = .native

/-- The machine of one task. -/
def machine (d : Deployment) : Machine TaskSystem TaskLabel where
  init s := ∃ replicas version, Starts replicas ∧ s = initial d replicas version
  step s l s' := step d l s = some s'

end TaskSystem

end ReplicaLending
