import ReplicaLending.Task.Rollouter
/-!
# The Trainer (`trainer.py`) and `bootstrap_target` (`checkpoint_engine_manager.py:365`)

What an `except` block knows of the locals of its `try` travels with the error: each part of a body
is marked with the values the locals have while it runs (`raising`).
-/

namespace ReplicaLending

open TaskProg TaskState Rollouter

namespace Trainer

/-- A part of a `try` body, raising with the locals its handler looks at. -/
def raising {α β : Type} (locals : β) (p : TaskProg α) : Prog TaskState Choice Event (PyErr × β) α :=
  p.mapErr fun e => (e, locals)

/-- `asyncio.gather` of one call per runtime. -/
def gather {α : Type} (f : Replica → TaskProg α) : List Replica → TaskProg (List α)
  | [] => .ret []
  | r :: rs => do
    let a ← f r
    let as ← gather f rs
    return a :: as

/-! ## `bootstrap_target` -/

/-- The locals of `bootstrap_target` its handler looks at. -/
structure Bootstrap where
  topologyStarted : Bool
  finalized : Bool
  releasedGpuUuids : List String

/-- A call to the training workers or the collective: it may fail. -/
def collective (m : String) : TaskProg Unit :=
  call fun s o => (if o.fault = .none then .ok () else .error (.runtimeError m), s)

/-- The weight transfer (:499): the receivers load `version`. -/
def transfer (replicas : List Replica) (version : Nat) : TaskProg Unit :=
  call fun s o =>
    let load (n : Nat) : Server :=
      if n ∈ replicas.map Replica.rank then { s.world n with globalSteps := some version }
      else s.world n
    let loaded := { s with world := load }
    match o.fault with
    | .none => (.ok (), loaded)
    | .before => (.error (.runtimeError "weight transfer failed"), s)
    | .after | .late => (.error (.runtimeError "weight transfer failed"), loaded)

/-- The checks of `bootstrap_target` before its `try` (:379-417): the receipt of an earlier
bootstrap of the operation, or the runtimes to bootstrap. -/
def bootstrapHead (d : Deployment) (key : ReplicaKey) (operationId : String) (version : Nat)
    (s : TaskState) (o : Choice) :
    Except PyErr (OperationEvidence ⊕ List Replica × ReplicaKind) × TaskState :=
  if d.naiveBackend then (.error ⟨.notImplementedError,
    "first-release target-only bootstrap requires non-naive checkpoint engine"⟩, s)
  else match s.ce.bootstrapEntry key operationId version with
    | .error e => (.error e, s)
    | .ok (.inl evidence) => (.ok (.inl evidence), s)
    | .ok (.inr []) =>
      (.error (.valueError "pending target has no checkpoint-engine workers"), s)
    | .ok (.inr (r :: rs)) =>
      if o.fault ≠ .none then
        (.error (.runtimeError "receiver worker group is unavailable"), s)
      else if rs.any fun r' => r'.kind ≠ r.kind then
        (.error (.valueError "pending target contains inconsistent replica kinds"), s)
      else (.ok (.inr (r :: rs, r.kind)), s)

/-- The physical accelerators of the runtimes, without repetitions (:428-437). -/
def restoredGpuUuids (placements : List Placement) : List String :=
  ((placements.map (·.gpuUuid)).filter (· ≠ "")).eraseDups

/-- The first part of the `try` (:421-464): wake the weights of a native runtime, or free the KV
cache of a borrowed one. -/
def wakeForBootstrap (d : Deployment) (replicas : List Replica) (kind : ReplicaKind) :
    Prog TaskState Choice Event (PyErr × Bootstrap) (List String) :=
  match kind with
  | .native => do
    let placements ← raising ⟨false, false, []⟩
      (gather (fun r => onServer r fun x => r.workerPlacements (x 0)) replicas)
    let uuids := restoredGpuUuids placements
    raising ⟨false, false, []⟩ (require (uuids ≠ [])
      (.runtimeError "native RESTORE target has no verified physical accelerator id"))
    let _ ← raising ⟨false, false, uuids⟩
      (gather (fun r => onServer r fun x => r.wakeUp d x .weights) replicas)
    return uuids
  | .borrowed => do
    let _ ← raising ⟨false, false, []⟩
      (gather (fun r => onServer r fun x => Replica.releaseKvCache (x 0)) replicas)
    return []

/-- The rest of the `try` (:466-589). -/
def loadTarget (d : Deployment) (key : ReplicaKey) (operationId : String) (version : Nat)
    (replicas : List Replica) (uuids : List String) :
    Prog TaskState Choice Event (PyErr × Bootstrap) OperationEvidence := do
  raising ⟨true, false, uuids⟩ (do
    collective "checkpoint topology failed"
    transfer replicas version
    collective "checkpoint finalize failed")
  raising ⟨true, true, uuids⟩ (do
    let _ ← gather (fun r => onServer r fun x => Replica.resumeKvCache (x 0)) replicas
    let health ← gather (fun r => onServer r fun x => r.validateServerRuntime x) replicas
    require (∀ steps ∈ health, steps = some version)
      (.runtimeError "target server did not confirm the published parameter version")
    when (d.parameterValidationEnabled = true) (collective "parameter validation failed")
    call fun s o => match OperationEvidence.now o.now operationId .weightReady with
      | .error e => (.error e, s)
      | .ok evidence => (.ok evidence, { s with
          ce := s.ce.confirmBootstrap key version evidence }))

/-- The first cleanup of the `except` (:591-603): whether it failed. -/
def finalizeFailed (l : Bootstrap) : TaskProg Bool :=
  if l.topologyStarted = true ∧ l.finalized = false then
    (collective "checkpoint finalize failed").result.bind fun r => .ret (!r.isOk)
  else .ret false

/-- The second one (:608-612): a native runtime goes back to sleep. -/
def resleep (d : Deployment) (replicas : List Replica) (kind : ReplicaKind) : TaskProg Bool :=
  match kind with
  | .native => (gather (fun r => onServer r fun x => r.sleep d x) replicas).result.bind fun r =>
      .ret (!r.isOk)
  | .borrowed => .ret false

/-- The `except` of `bootstrap_target` (:590-628). -/
def bootstrapFailed (d : Deployment) (operationId : String) (replicas : List Replica)
    (kind : ReplicaKind) (e : PyErr × Bootstrap) : TaskProg OperationEvidence := do
  let unfinalized ← finalizeFailed e.2
  let awake ← resleep d replicas kind
  require (unfinalized = false ∧ awake = false)
    (.runtimeError "target bootstrap failed and runtime cleanup is unverified")
  match kind with
  | .native => call fun s o =>
      (OperationEvidence.now o.now operationId .released e.2.releasedGpuUuids, s)
  | .borrowed => raise e.1

/-- `bootstrap_target` (checkpoint_engine_manager.py:365). -/
def bootstrapTarget (d : Deployment) (key : ReplicaKey) (operationId : String) (version : Nat) :
    TaskProg OperationEvidence := do
  match ← call (bootstrapHead d key operationId version) with
  | .inl evidence => return evidence
  | .inr (replicas, kind) =>
    Prog.tryCatch ((wakeForBootstrap d replicas kind).bind
        (loadTarget d key operationId version replicas))
      (bootstrapFailed d operationId replicas kind)

/-! ## Parts the methods share -/

def registerPending (key : ReplicaKey) (replicas : List Replica) (operationId : String)
    (s : TaskState) (_ : Choice) : Except PyErr Unit × TaskState :=
  onCe (·.registerPending key replicas operationId) s

def discardPending (key : ReplicaKey) (s : TaskState) (_ : Choice) :
    Except PyErr Unit × TaskState :=
  onCe (fun ce => .ok (ce.discardPending key)) s

def removeEffective (key : ReplicaKey) (s : TaskState) (o : Choice) :
    Except PyErr Unit × TaskState :=
  onCe (·.removeEffective (o.fault ≠ .none) key) s

def currentVersion : TaskProg Nat := peek fun s => .ok s.currentParamVersion

/-- `commit_pending` with the version of this moment. -/
def commitPending (key : ReplicaKey) (evidence : OperationEvidence) (s : TaskState) (o : Choice) :
    Except PyErr Unit × TaskState :=
  onCe (·.commitPending (o.fault ≠ .none) key evidence s.currentParamVersion) s

def pendingTarget (operationId : String) : TaskProg ReplicaKey :=
  rpc (peek fun s => getPendingTarget s operationId)

/-- `require_operation_evidence` on a reply that may be `None`. -/
def requireEvidence (value : Option OperationEvidence) (operationId : String)
    (expected : EvidenceType) (label : String) : TaskProg OperationEvidence :=
  match value with
  | none => raise (.typeError (label ++ " returned no operation evidence"))
  | some evidence => .ofExcept (requireOperationEvidence evidence operationId expected label)

/-- `target_kinds == {kind}` for the runtimes of a member. -/
def allOfKind (kind : ReplicaKind) (replicas : List Replica) : Prop :=
  replicas ≠ [] ∧ ∀ r ∈ replicas, r.kind = kind

instance (kind : ReplicaKind) (replicas : List Replica) : Decidable (allOfKind kind replicas) :=
  inferInstanceAs (Decidable (_ ∧ _))

/-- `_gate_fences` (trainer.py:125). -/
def gateFences (s : TaskState) (operationId : String) : Bool :=
  s.gate.blockedReason.isSome && s.gate.blockedOperationId = some operationId

/-- Marks the return of a publishing method. -/
def returning (operationId : String) (evidence : OperationEvidence) : TaskProg OperationEvidence :=
  Prog.call (.published operationId evidence) fun s _ => (.ok evidence, s)

/-! ## Publication -/

/-- The callback of `_reconcile_blocked_publish` (trainer.py:151-194). -/
def reconcilePublish (d : Deployment) (operationId : String) (restoreNative : Bool)
    (target : ReplicaKey) (replicas : List Replica) : TaskProg OperationEvidence := do
  match ← rpc (commitServiceChange d operationId) with
  | none =>
    call (removeEffective target)
    when (restoreNative = true) (call (registerPending target replicas operationId))
    let released ← rpc (finalizeRelease d operationId)
    requireEvidence (some released) operationId .released "publication rollback release"
  | some evidence =>
    if evidence.type = .released then do
      call (removeEffective target)
      requireEvidence (some evidence) operationId .released "publication rollback"
    else requireEvidence (some evidence) operationId .serviceCommitted "publication reconciliation"

/-- `_reconcile_blocked_publish` (trainer.py:131). -/
def reconcileBlockedPublish (d : Deployment) (operationId : String) (restoreNative : Bool) :
    TaskProg (Option OperationEvidence) := do
  if ← peek fun s => .ok (gateFences s operationId) then
    let target ← pendingTarget operationId
    match ← peek fun s => .ok (s.ce.effective.get? target) with
    | none => return none
    | some (replicas, _loadedVersion) =>
      match ← TaskProg.reconcile operationId
        (reconcilePublish d operationId restoreNative target replicas) with
      | none => raise (.runtimeError "publication reconciliation returned no evidence")
      | some evidence => return some evidence
  else return none

/-- The locals of `bootstrap_and_publish` its handler looks at. -/
structure Publishing where
  target : Option ReplicaKey
  pendingRegistered : Bool
  eCommitted : Bool

/-- What `bootstrap_and_publish` makes of the reply of `commit_service_change` (:267-306). -/
def settleAdd (d : Deployment) (operationId : String) (lease : GateOwner) (target : ReplicaKey) :
    Option OperationEvidence → TaskProg OperationEvidence
  | none => do
    guard lease (removeEffective target)
    let released ← guardAsync lease (rpc (finalizeRelease d operationId))
    requireEvidence (some released) operationId .released "ADD no-route rollback"
  | some evidence =>
    if evidence.type = .released then do
      let evidence ← requireEvidence (some evidence) operationId .released "ADD service rollback"
      guard lease (removeEffective target)
      return evidence
    else requireEvidence (some evidence) operationId .serviceCommitted "ADD service commit"

/-- The `try` of `bootstrap_and_publish` (:221-306). -/
def bootstrapAndPublishBody (d : Deployment) (operationId : String) (lease : GateOwner) :
    Prog TaskState Choice Event (PyErr × Publishing) OperationEvidence := do
  let target ← raising ⟨none, false, false⟩ (pendingTarget operationId)
  raising ⟨some target, false, false⟩ (do
    let replicas ← rpc (peek fun s => getPendingReplicas s operationId)
    require (replicas ≠ []) (.runtimeError "ADD target has no prepared runtime")
    require (allOfKind .borrowed replicas)
      (.valueError "ADD requires a prepared BORROWED runtime")
    guard lease (registerPending target replicas operationId))
  raising ⟨some target, true, false⟩ (do
    let version ← currentVersion
    let weight ← guardAsync lease (bootstrapTarget d target operationId version)
    let weight ← requireEvidence (some weight) operationId .weightReady "ADD bootstrap"
    guard lease (commitPending target weight))
  raising ⟨some target, true, true⟩ (do
    let evidence ← guardAsync lease (rpc (commitServiceChange d operationId))
    settleAdd d operationId lease target evidence)

/-- The cleanup of an ADD whose target never became effective (:308-343). -/
def rollbackAdd (d : Deployment) (operationId : String) (lease : GateOwner) (l : Publishing) :
    TaskProg OperationEvidence := do
  let discarded ← (match l.target, l.pendingRegistered with
    | some target, true => guard lease (discardPending target)
    | _, _ => .ret ()).result
  let released ← (do
    let released ← guardAsync lease (rpc (finalizeRelease d operationId))
    requireEvidence (some released) operationId .released "ADD rollback release" :
    TaskProg OperationEvidence).result
  match discarded, released with
  | .ok (), .ok evidence => return evidence
  | _, _ =>
    block lease "ADD rollback outcome unknown"
    raise (.runtimeError "ADD bootstrap failed and prepared runtime cleanup is unverified")

/-- `bootstrap_and_publish` (trainer.py:202). -/
def bootstrapAndPublish (d : Deployment) (operationId : String) : TaskProg OperationEvidence := do
  match ← reconcileBlockedPublish d operationId false with
  | some evidence => returning operationId evidence
  | none =>
    let lease ← acquire operationId .add
    let evidence ← Prog.tryFinally
      ((bootstrapAndPublishBody d operationId lease).tryCatch fun e =>
        if e.2.eCommitted = false then rollbackAdd d operationId lease e.2
        else do
          block lease "ADD publish outcome unknown"
          raise e.1)
      (release lease)
    returning operationId evidence

/-- What `restore_and_publish` makes of the reply of `commit_service_change` (:540-566). -/
def settleRestore (d : Deployment) (operationId : String) (lease : GateOwner)
    (target : ReplicaKey) (replicas : List Replica) :
    Option OperationEvidence → TaskProg OperationEvidence
  | none => do
    guard lease (removeEffective target)
    guard lease (registerPending target replicas operationId)
    let released ← guardAsync lease (rpc (finalizeRelease d operationId))
    requireEvidence (some released) operationId .released "RESTORE no-route rollback"
  | some evidence =>
    requireEvidence (some evidence) operationId .serviceCommitted "RESTORE service commit"

/-- What `restore_and_publish` does once the parked receiver is bootstrapped (:508-566). -/
def publishRestored (d : Deployment) (operationId : String) (lease : GateOwner)
    (target : ReplicaKey) (replicas : List Replica) (weight : OperationEvidence) :
    TaskProg OperationEvidence :=
  if weight.type = .released then
    requireEvidence (some weight) operationId .released "RESTORE bootstrap rollback"
  else do
    let weight ← requireEvidence (some weight) operationId .weightReady "RESTORE bootstrap"
    guard lease (commitPending target weight)
    let evidence ← guardAsync lease (rpc (commitServiceChange d operationId))
    settleRestore d operationId lease target replicas evidence

/-- The `try` of `restore_and_publish` (:478-566); errors carry `mutated`. -/
def restoreAndPublishBody (d : Deployment) (operationId : String) (lease : GateOwner) :
    Prog TaskState Choice Event (PyErr × Bool) OperationEvidence := do
  let (target, replicas) ← raising false (do
    let target ← pendingTarget operationId
    let replicas ← peek fun s => match s.ce.pending.get? target with
      | none => .error (.keyError "no parked native CE runtime")
      | some (replicas, _) => .ok replicas
    require (allOfKind .native replicas)
      (.valueError "RESTORE requires a parked NATIVE CE runtime")
    guard lease (discardPending target)
    return (target, replicas))
  raising true (do
    guard lease (registerPending target replicas operationId)
    let version ← currentVersion
    let weight ← guardAsync lease (bootstrapTarget d target operationId version)
    publishRestored d operationId lease target replicas weight)

/-- The `except` of `restore_and_publish` (:567-580). -/
def restoreFailed (operationId : String) (lease : GateOwner) (e : PyErr × Bool) :
    TaskProg OperationEvidence := do
  when (e.2 = true) (do
    let quarantined ← (rpc (call (quarantineDormantRestore operationId))).result
    match quarantined with
    | .ok _ => block lease "RESTORE outcome unknown"
    | .error _ =>
      block lease "RESTORE outcome unknown; M projection reconciliation failed")
  raise e.1

/-- `restore_and_publish` (trainer.py:454). -/
def restoreAndPublish (d : Deployment) (operationId : String) : TaskProg OperationEvidence := do
  match ← reconcileBlockedPublish d operationId true with
  | some evidence => returning operationId evidence
  | none =>
    let lease ← acquire operationId .restore
    let evidence ← Prog.tryFinally
      ((restoreAndPublishBody d operationId lease).tryCatch (restoreFailed operationId lease))
      (release lease)
    returning operationId evidence

/-! ## Exit -/

/-- `_reconcile_blocked_exit` and `reconcile_exit` (trainer.py:352, :385). -/
def reconcileExit (d : Deployment) (operationId : String) :
    TaskProg (Option OperationEvidence) := do
  if ← peek fun s => .ok (gateFences s operationId) then
    let target ← pendingTarget operationId
    if ← peek fun s => .ok (s.ce.effective.get? target).isSome then return none
    else
      match ← TaskProg.reconcile operationId (do
        let evidence ← rpc (commitServiceChange d operationId)
        requireEvidence evidence operationId .serviceCommitted "exit service reconciliation") with
      | none => raise (.runtimeError "exit reconciliation returned no evidence")
      | some evidence => return some evidence
  else return none

/-- The `try` of `remove_and_commit` (:406-443); errors carry `mutated`. -/
def removeAndCommitBody (d : Deployment) (operationId : String) (lease : GateOwner) :
    Prog TaskState Choice Event (PyErr × Bool) OperationEvidence := do
  let (target, replicas) ← raising false (do
    let target ← pendingTarget operationId
    let replicas ← peek fun s => match s.ce.effective.get? target with
      | none => .error (.keyError "replica is not an effective CE member")
      | some (replicas, _) => .ok replicas
    require (allOfKind .native replicas ∨ allOfKind .borrowed replicas)
      (.valueError "CE member contains inconsistent replica kinds")
    guard lease (removeEffective target)
    return (target, replicas))
  raising true (do
    when (allOfKind .native replicas)
      (guard lease (registerPending target replicas operationId))
    let evidence ← guardAsync lease (rpc (commitServiceChange d operationId))
    requireEvidence evidence operationId .serviceCommitted "service commit")

/-- `remove_and_commit` (trainer.py:396). -/
def removeAndCommit (d : Deployment) (operationId : String) : TaskProg OperationEvidence := do
  let lease ← acquire operationId .remove
  Prog.tryFinally
    ((removeAndCommitBody d operationId lease).tryCatch fun e => do
      when (e.2 = true) (block lease "Exit service commit outcome unknown")
      raise e.1)
    (release lease)

end Trainer

end ReplicaLending
