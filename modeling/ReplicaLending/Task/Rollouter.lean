import ReplicaLending.Task.State
/-!
# The Rollouter and its Manager (`rollouter.py`, `llm_server_manager.py`)

The lifecycle methods of `MultiTaskFullyAsyncRollouter` and the coroutines of the Manager they call.
A polling loop (natural drain, FORCE handoff) is one step that waits for what the loop waits for,
for its deadline or for a failing query: a round that finds nothing settled changes nothing.
-/

namespace ReplicaLending

open TaskProg TaskState

namespace Rollouter

def bindTarget (s : TaskState) (operationId : String) (key : ReplicaKey) : TaskState :=
  { s with rollouter := { s.rollouter with
    pendingOperationTargets := s.rollouter.pendingOperationTargets.insert operationId key } }

def unbindTarget (s : TaskState) (operationId : String) : TaskState :=
  { s with rollouter := { s.rollouter with
    pendingOperationTargets := s.rollouter.pendingOperationTargets.erase operationId } }

/-- `clear_operation_binding` (rollouter.py:832). -/
def clearOperationBinding (s : TaskState) (operationId : String) : TaskState :=
  { s with rollouter :=
    { pendingOperationTargets := s.rollouter.pendingOperationTargets.erase operationId
      forceExitRecovery := s.rollouter.forceExitRecovery.erase operationId } }

def setRecovery (s : TaskState) (operationId : String) (r : List String × Option Nat) :
    TaskState :=
  { s with rollouter := { s.rollouter with
    forceExitRecovery := s.rollouter.forceExitRecovery.insert operationId r } }

/-- `get_pending_target` (rollouter.py:840). -/
def getPendingTarget (s : TaskState) (operationId : String) : Except PyErr ReplicaKey :=
  match s.rollouter.pendingOperationTargets.get? operationId with
  | some key => .ok key
  | none => .error (.keyError "no pending lifecycle target")

/-- `get_pending_replicas` (rollouter.py:848). -/
def getPendingReplicas (s : TaskState) (operationId : String) : Except PyErr (List Replica) := do
  let target ← getPendingTarget s operationId
  match s.manager.inspectRuntime target with
  | none => throw (.runtimeError "pending lifecycle target has no runtime")
  | some runtime => return [runtime]

/-- The check both prepare methods make of an earlier binding (rollouter.py:551, :667). -/
def checkBinding (s : TaskState) (operationId : String) (key : ReplicaKey) : Except PyErr Unit :=
  match s.rollouter.pendingOperationTargets.get? operationId with
  | none => .ok ()
  | some previous => if previous ≠ key then
      .error (.valueError "operation_id is already bound to another replica") else .ok ()

/-! ## Borrowed runtimes (llm_server_manager.py) -/

/-- `_resolve_placement_groups` (:303). -/
def resolvePlacementGroups (d : Deployment) (claim : LeaseClaim) : Except PyErr Unit :=
  let namespaceOk : Except PyErr Unit := match claim.fields.get? "pg_namespace" with
    | none | some .none => .ok ()
    | some (.str ns) =>
      if ns = "" then
        .error (.valueError "pg_namespace must be a nonempty string when provided")
      else if ns ≠ d.rayNamespace then
        .error (.valueError "claim placement group belongs to another Ray namespace")
      else .ok ()
    | some _ => .error (.valueError "pg_namespace must be a nonempty string when provided")
  match namespaceOk, d.placementGroups claim.pgId with
  | .error e, _ => .error e
  | .ok (), none => .error (.valueError "placement group is not present in Ray")
  | .ok (), some info =>
    if ¬ info.created then .error (.valueError "placement group is not CREATED")
    else match info.bundleNodes.get? claim.bundleIndex with
      | none => .error (.valueError "placement group has no bundle")
      | some node =>
        if node = "" then
          .error (.valueError "placement group bundle has no node assignment")
        else if node ≠ claim.nodeId then
          .error (.valueError "claim node_id does not match Ray placement")
        else if info.name = "" then
          .error (.valueError "placement group must be named for safe handle recovery")
        else if info.idByName ≠ claim.pgId then
          .error (.valueError "resolved placement group id mismatch")
        else if info.bundleCount ≤ claim.bundleIndex then
          .error (.valueError "resolved placement group lacks bundle")
        else .ok ()

/-- `create_borrowed_replica` up to the creation proper (:381-424): the address of the runtime an
earlier call created, or the spec and the rank to create one with. -/
def reserveBorrowed (d : Deployment) (spec : BorrowedSpec) (s : TaskState) (o : Choice) :
    Except PyErr (String ⊕ NormalSpec × Nat) × TaskState :=
  match LLMServerManager.validateBorrowedSpec d o.now spec with
  | .error e => (.error e, s)
  | .ok normalized => match s.manager.borrowedOperations.get? normalized.spec.leaseId with
    | some existing =>
      if ¬ existing.resolved.spec.same normalized.spec then
        (.error (.valueError "conflicting borrowed create replay"), s)
      else match existing.error, existing.result with
        | some e, _ => (.error ⟨if e.kind = .notImplementedError then e.kind else .runtimeError,
            e.message⟩, s)
        | none, some address => (.ok (.inl address), s)
        | none, none => (.error (.runtimeError "borrowed create is already in progress"), s)
    | none =>
      if s.manager.replicaState.contains normalized.key then (.error (.valueError
        "borrowed ReplicaKey is already registered; use a new runtime_epoch"), s)
      else
        let rank := s.manager.nextReplicaRank
        let m := { s.manager with nextReplicaRank := rank + 1 }
        match m.registerReplica normalized.key .borrowed .creating none with
        | .error e => (.error e, { s with manager := m })
        | .ok m => (.ok (.inr (normalized, rank)), { s with manager := { m with
            borrowedOperations := m.borrowedOperations.insert normalized.spec.leaseId
              ⟨normalized, rank, none, none, none⟩ } })

/-- The runtime object and its `init_from_lease` (:437-454); on failure the runtime goes to the
handler. The operating system binds an address to one live server. -/
def launchBorrowed (d : Deployment) (n : NormalSpec) (rank : Nat) (s : TaskState) (o : Choice) :
    Except (PyErr × Option Replica) Replica × TaskState :=
  let r : Replica := ⟨rank, .borrowed, o.address, d.bundlePlacement n.claim.bundleKey⟩
  let addressFree := o.address ≠ "" ∧
    s.manager.runtimeInventory.entries.all fun e => e.2.address ≠ o.address
  match r.initFromLease n.claim addressFree o.inner (s.world rank) with
  | (.error e, v) => (.error (e, some r), s.setServer rank v)
  | (.ok (), v) => (.ok r, s.setServer rank v)

/-- The runtime enters the inventory (:463-474). -/
def enterBorrowed (n : NormalSpec) (r : Replica) (s : TaskState) (_ : Choice) :
    Except (PyErr × Option Replica) String × TaskState :=
  match s.manager.borrowedOperations.get? n.spec.leaseId with
  | none => (.error (.keyError n.spec.leaseId, some r), s)
  | some record => (.ok r.address, { s with manager := { s.manager with
      borrowedOperations :=
        s.manager.borrowedOperations.insert n.spec.leaseId { record with result := some r.address }
      runtimeInventory := s.manager.runtimeInventory.insert n.key r } })

/-- The start of the `except` of `create_borrowed_replica` (:476-486): a failing cleanup is ignored. -/
def cleanupFailed (runtime : Option Replica) (s : TaskState) (o : Choice) :
    Except PyErr Unit × TaskState :=
  match runtime with
  | none => (.ok (), s)
  | some r =>
    if (s.world r.rank).borrowedCleanupVerified then (.ok (), s)
    else (.ok (), s.setServer r.rank (r.cleanupBorrowedRuntime o.inner (s.world r.rank)).2)

/-- The end of the `except` of `create_borrowed_replica` (:488-514). -/
def recordFailure (n : NormalSpec) (e : PyErr) (runtime : Option Replica) (s : TaskState)
    (_ : Choice) : Except PyErr Unit × TaskState :=
  match s.manager.borrowedOperations.get? n.spec.leaseId with
  | none => (.error (.keyError n.spec.leaseId), s)
  | some record =>
    let verified := match runtime with
      | none => true
      | some r => (s.world r.rank).borrowedCleanupVerified
    let moved : Except PyErr LLMServerManager :=
      if s.manager.replicaState.get? n.key = some .creating then
        s.manager.transitionReplica n.key (if verified then .released else .quarantined)
      else .ok s.manager
    match moved with
    | .error e => (.error e, s)
    | .ok m => (.ok (), { s with manager := { m with
        borrowedOperations := m.borrowedOperations.insert n.spec.leaseId
          { record with error := some e, result := none } } })

/-- `create_borrowed_replica` (:374): the address of the runtime. -/
def createBorrowedReplica (d : Deployment) (spec : BorrowedSpec) : TaskProg String :=
  (call (reserveBorrowed d spec)).bind fun
    | .inl address => .ret address
    | .inr (n, rank) =>
      Prog.tryCatch
        (((call fun s o => (if o.fault ≠ .none then .error lostReply
            else resolvePlacementGroups d n.claim, s)).mapErr fun e => (e, none)).bind fun _ =>
          (Prog.call .internal (launchBorrowed d n rank)).bind fun r =>
            Prog.call .internal (enterBorrowed n r))
        fun (e, runtime) => do
          call (cleanupFailed runtime)
          call (recordFailure n e runtime)
          raise e

/-- `Manager.sleep` (:517): the evidence recorded for the operation, or the accelerators of a runtime
that has just been put to sleep. -/
def sleep (d : Deployment) (key : ReplicaKey) (operationId : String) :
    TaskProg (OperationEvidence ⊕ List String) := do
  let found : OperationEvidence ⊕ Replica ← peek fun s =>
    if s.manager.replicaKind.get? key ≠ some .native then
      .error (.valueError "sleep is valid only for NATIVE replicas")
    else match s.manager.nativeReleaseEvidence.get? operationId with
      | some (previousKey, evidence) =>
        if previousKey ≠ key then
          .error (.valueError "native release operation is bound to another replica")
        else .ok (.inl evidence)
      | none =>
        if s.manager.replicaState.get? key ≠ some .draining then
          .error (.valueError "sleep requires a DRAINING native replica")
        else match s.manager.runtimeInventory.get? key with
          | none => .error (.runtimeError
              "native runtime handle is unavailable for verified sleep")
          | some r => .ok (.inr r)
  match found with
  | .inl evidence => .ret (.inl evidence)
  | .inr r =>
    let placement ← onServer r fun x => r.workerPlacements (x 0)
    require (placement.gpuUuid ≠ "")
      (.runtimeError "native runtime placement is missing physical GPU UUID")
    onServer r fun x => r.sleep d x
    return .inr [placement.gpuUuid]

/-- `Manager.destroy` (:558): the evidence recorded for the operation, or the accelerators of a
runtime that has just been destroyed. -/
def destroy (key : ReplicaKey) (operationId : String) :
    TaskProg (OperationEvidence ⊕ List String) := do
  let found : OperationEvidence ⊕ Replica × String ← peek fun s =>
    if s.manager.replicaKind.get? key ≠ some .borrowed then
      .error (.valueError "destroy is valid only for BORROWED replicas")
    else match s.manager.borrowedRecordForKey key with
      | .error e => .error e
      | .ok (_, record) => match record.destroyEvidence with
        | some previous =>
          if previous.operationId ≠ operationId then
            .error (.valueError "borrowed runtime was destroyed by another operation")
          else .ok (.inl previous)
        | none =>
          let state := s.manager.replicaState.get? key
          if state ≠ some .creating ∧ state ≠ some .draining then
            .error (.valueError "destroy requires CREATING or DRAINING borrowed replica")
          else match s.manager.runtimeInventory.get? key with
            | none => .error (.runtimeError
                "borrowed runtime handle is unavailable for verified destroy")
            | some r => .ok (.inr (r, record.resolved.claim.gpuUuid))
  match found with
  | .inl evidence => .ret (.inl evidence)
  | .inr (r, gpuUuid) =>
    onServer r fun x => r.cleanupBorrowedRuntime x
    return .inr [gpuUuid]

/-! ## Preparing -/

/-- What `prepare_replica` returns: nothing, a runtime, or a compensation. -/
inductive Prepared
  | bound
  | runtime (address : String)
  | released (evidence : OperationEvidence)

/-- `prepare_replica` without a spec (rollouter.py:551-578): bind a RESTORE to its target. -/
def bindRestore (key : ReplicaKey) (operationId : String) (s : TaskState) (_ : Choice) :
    Except PyErr Prepared × TaskState :=
  match checkBinding s operationId key, s.manager.replicaMeta key with
  | .error e, _ => (.error e, s)
  | .ok (), .error e => (.error e, s)
  | .ok (), .ok (kind, state) =>
    if kind ≠ .native then (.error (.valueError
      "spec-free prepare_replica is valid only for native RESTORE"), s)
    else if state = .dormant then (.ok .bound, bindTarget s operationId key)
    else if s.rollouter.pendingOperationTargets.get? operationId = some key ∧ state = .active then
      (.ok .bound, s)
    else (.error (.valueError ("spec-free prepare_replica requires DORMANT or same-operation " ++
      "ACTIVE reconciliation")), s)

/-- `claim["gpu_uuid"]` of every claim, without repetitions (rollouter.py:601). -/
def specGpuUuids (spec : BorrowedSpec) : List String :=
  (spec.claims.filterMap fun c => PyVal.nonemptyStr (c.get? "gpu_uuid")).eraseDups

/-- `prepare_replica` with a spec, up to the creation (rollouter.py:551-589). -/
def bindAdd (key : ReplicaKey) (operationId : String) (spec : BorrowedSpec) (s : TaskState)
    (_ : Choice) : Except PyErr Unit × TaskState :=
  match checkBinding s operationId key with
  | .error e => (.error e, s)
  | .ok () =>
    if spec.operationId ≠ operationId then
      (.error (.valueError "placement spec belongs to another operation"), s)
    else if spec.borrowerTaskId ≠ key.taskSession then
      (.error (.valueError "placement spec belongs to another task_session"), s)
    else if spec.borrowerReplicaId ≠ key.replicaId then
      (.error (.valueError "placement spec belongs to another replica"), s)
    else (.ok (), bindTarget s operationId key)

/-- The `except` of `prepare_replica` (rollouter.py:592-617). -/
def compensateAdd (key : ReplicaKey) (operationId : String) (spec : BorrowedSpec) (e : PyErr)
    (s : TaskState) (o : Choice) : Except PyErr Prepared × TaskState :=
  let state := s.manager.replicaState.get? key
  if state = none ∨ (s.manager.replicaKind.get? key = some .borrowed ∧ state = some .released) then
    if specGpuUuids spec = [] then (.error e, s)
    else match OperationEvidence.now o.now operationId .released (specGpuUuids spec) with
      | .error e => (.error e, unbindTarget s operationId)
      | .ok evidence => (.ok (.released evidence), unbindTarget s operationId)
  else (.error e, s)

/-- `prepare_replica` (rollouter.py:538). -/
def prepareReplica (d : Deployment) (key : ReplicaKey) (operationId : String) :
    Option BorrowedSpec → TaskProg Prepared
  | none => call (bindRestore key operationId)
  | some spec => (call (bindAdd key operationId spec)).bind fun _ =>
      ((createBorrowedReplica d spec).bind fun address => .ret (.runtime address)).tryCatch fun e =>
        call (compensateAdd key operationId spec e)

/-- `quarantine_dormant_restore` (rollouter.py:619). -/
def quarantineDormantRestore (operationId : String) (s : TaskState) (_ : Choice) :
    Except PyErr Bool × TaskState :=
  match getPendingTarget s operationId with
  | .error e => (.error e, s)
  | .ok target => match s.manager.replicaMeta target with
    | .error e => (.error e, s)
    | .ok (kind, state) =>
      if kind ≠ .native then
        (.error (.valueError "RESTORE quarantine is valid only for NATIVE replicas"), s)
      else match state with
        | .quarantined => (.ok true, s)
        | .dormant => match onManager (·.transitionReplica target .quarantined) s with
          | (.ok (), s) => (.ok true, s)
          | (.error e, s) => (.error e, s)
        | _ => (.ok false, s)

/-! ## Leaving service -/

def beginDrainCall (key : ReplicaKey) (operationId : String) : TaskProg String :=
  lbCall (.beginDrain key operationId) fun _ lb => (lb.beginDrain key operationId).1

/-- `_begin_drain_once` (rollouter.py:635). -/
def beginDrainOnce (key : ReplicaKey) (operationId : String) : TaskProg String :=
  (beginDrainCall key operationId).tryCatch fun _ => beginDrainCall key operationId

/-- `manager.transition_replica(key, DRAINING)` of an ACTIVE replica, and the binding. -/
def enterDraining (key : ReplicaKey) (operationId : String) (state : ReplicaState)
    (s : TaskState) (_ : Choice) : Except PyErr Unit × TaskState :=
  if state = .active then
    match onManager (·.transitionReplica key .draining) s with
    | (.ok (), s) => (.ok (), bindTarget s operationId key)
    | (.error e, s) => (.error e, s)
  else (.ok (), bindTarget s operationId key)

/-- The natural drain loop (rollouter.py:804-823). -/
def awaitNaturalDrain (serverId : String) : TaskProg Unit :=
  Prog.await (.drain serverId)
    (fun s o => o.fault ≠ .none || o.expired ||
      !(s.flush o.now).lb.hasUnsettledRequests serverId)
    fun s o =>
      if o.fault ≠ .none then (.error lostReply, s)
      else if (s.flush o.now).lb.hasUnsettledRequests serverId then
        (.error (.timeoutError "natural drain did not settle before its deadline"), s.flush o.now)
      else (.ok (), s.flush o.now)

/-- `confirmed == len(admitted)` without an abort count, else `confirmed >= aborted_count`
(rollouter.py:755-762). -/
def handoffComplete (handoffs admitted : List String) (aborted : Option Nat) : Bool :=
  let confirmed := (handoffs.filter fun r => r ∈ admitted).length
  match aborted with
  | none => confirmed = admitted.length
  | some n => n ≤ confirmed

/-- The FORCE handoff loop (rollouter.py:742-783), as its last iteration: the two queries of an iteration
change nothing, so those before it leave no trace. -/
def awaitHandoff (operationId serverId : String) (admitted : List String) (aborted : Option Nat) :
    TaskProg Unit := do
  let answer ← readRpc (·.continuationHandoffRequests operationId)
  let handoffs ← Prog.ofExcept answer
  let complete (s : TaskState) := !s.lb.hasUnsettledRequests serverId &&
    handoffComplete handoffs admitted aborted
  Prog.await (.drain serverId)
    (fun s o => o.fault ≠ .none || o.expired || complete (s.flush o.now))
    fun s o =>
      if o.fault ≠ .none then (.error lostReply, s)
      else if complete (s.flush o.now) then (.ok (), s.flush o.now)
      else (.error (.timeoutError
        "FORCE continuation handoff did not complete before timeout"), s.flush o.now)

/-- The admitted requests of a server (rollouter.py:712-719). -/
def admittedRequests : List String → TaskProg (List String)
  | [] => .ret []
  | r :: rs => do
    let state ← readRpc (·.queryAttempt r)
    let rest ← admittedRequests rs
    return if state = some .admitted then r :: rest else rest

/-- The abort of a FORCE exit (rollouter.py:710-738): the requests admitted before it, and the
count the backend confirmed. -/
def abortForce (r : Replica) (operationId serverId : String) : TaskProg (List String × Option Nat) := do
  let requests ← readRpc (·.requestsForServer serverId)
  let admitted ← admittedRequests requests
  call fun s _ => (.ok (), setRecovery s operationId (admitted, none))
  let aborted ← Prog.call (.abort operationId) fun s o => (if o.fault ≠ .none then .error lostReply
    else if ¬ (s.world r.rank).serverAlive then .error engineError
    else match o.aborted with
      | some (.ofNat n) => .ok n
      | _ => .error (.runtimeError "FORCE abort did not report aborted_count"), s)
  require (aborted ≤ admitted.length)
    (.runtimeError "FORCE abort count exceeds LB requests owned by target")
  call fun s _ => (.ok (), setRecovery s operationId (admitted, some aborted))
  return (admitted, some aborted)

/-- The abort, or what an earlier attempt of the operation has kept of it. -/
def recoverForce (r : Replica) (operationId serverId : String) :
    TaskProg (List String × Option Nat) := do
  match ← peek fun s => .ok (s.rollouter.forceExitRecovery.get? operationId) with
  | none => abortForce r operationId serverId
  | some recovery => .ret recovery

/-- `prepare_exit` with `force` (rollouter.py:672-785). -/
def prepareForceExit (d : Deployment) (key : ReplicaKey) (operationId : String)
    (kind : ReplicaKind) (state : ReplicaState) (previousTarget : Option ReplicaKey) :
    TaskProg Unit := do
  require (kind = .borrowed) (.valueError "FORCE REMOVE is borrowed-only")
  require (state = .active ∨ (state = .draining ∧ previousTarget = some key)) (.valueError
    "FORCE prepare_exit requires ACTIVE replica or same-operation DRAINING reconciliation")
  require (d.partialRollout = true)
    (.valueError "FORCE REMOVE requires async_training.partial_rollout=true")
  let serverId ← readRpc (·.serverForReplica key)
  require (serverId ≠ none ∧ serverId ≠ some "")
    (.runtimeError "FORCE target has no active route")
  let serverId := serverId.getD ""
  let activeServers ← readRpc (·.getAllServers)
  require (∃ candidate ∈ activeServers, candidate ≠ serverId)
    (.runtimeError "FORCE REMOVE requires another active rollout server")
  let runtime ← peek fun s => match s.manager.inspectRuntime key with
    | none => .error (.runtimeError "FORCE target runtime is unavailable")
    | some r => .ok r
  when (state = .active) (call (enterDraining key operationId state))
  let drainedServer ← beginDrainOnce key operationId
  require (drainedServer = serverId) (.runtimeError "FORCE drain bound a different server")
  let (admitted, aborted) ← recoverForce runtime operationId serverId
  awaitHandoff operationId serverId admitted aborted

/-- `prepare_exit` without `force` (rollouter.py:793-823). -/
def prepareNaturalExit (d : Deployment) (key : ReplicaKey) (operationId : String)
    (state : ReplicaState) : TaskProg Unit := do
  require (state = .active ∨ state = .draining)
    (.valueError "prepare_exit requires ACTIVE/DRAINING replica")
  call (enterDraining key operationId state)
  let serverId ← beginDrainOnce key operationId
  require (d.drainTimeoutPositive = true)
    (.valueError "multitask.drain_timeout_s must be positive")
  awaitNaturalDrain serverId

/-- `prepare_exit` (rollouter.py:647). -/
def prepareExit (d : Deployment) (key : ReplicaKey) (operationId : String) (force : Bool) :
    TaskProg OperationEvidence := do
  let (kind, state) ← peek fun s => s.manager.replicaMeta key
  let previousTarget ← peek fun s => do
    checkBinding s operationId key
    return s.rollouter.pendingOperationTargets.get? operationId
  (if force then prepareForceExit d key operationId kind state previousTarget
    else prepareNaturalExit d key operationId state)
  call fun s o => (OperationEvidence.now o.now operationId .exitReady, s)

/-! ## Service changes -/

/-- `_service_identity` (rollouter.py:866). -/
def serviceIdentity (s : TaskState) (target : ReplicaKey) : Except PyErr Replica :=
  match s.manager.inspectRuntime target with
  | none => .error (.runtimeError "runtime is unavailable")
  | some r => if r.address = "" then .error (.runtimeError "runtime lacks routable server identity")
      else .ok r

/-- `_update_max_concurrent_samples` of the native Rollouter, as far as it can fail. -/
def updateMaxConcurrentSamples (o : Choice) : Except PyErr Unit :=
  if o.fault = .none then .ok () else .error (.runtimeError "capacity update failed")

/-- `_activate_service_target` (rollouter.py:876). -/
def activateServiceTarget (target : ReplicaKey) (s : TaskState) (o : Choice) :
    Except PyErr Unit × TaskState :=
  match s.manager.activateService target with
  | .error e => (.error e, s)
  | .ok m =>
    let moved : Except PyErr LLMServerManager :=
      (updateMaxConcurrentSamples o).bind fun _ => m.transitionReplica target .active
    match moved with
    | .ok m => (.ok (), { s with manager := m })
    | .error e => (.error e, { s with manager := match m.deactivateService target with
        | .ok m => m
        | .error _ => m })

/-- `_retract_service_target` (rollouter.py:890), and its copy in `commit_service_change` (:971). -/
def retractServiceTarget (target : ReplicaKey) (s : TaskState) (o : Choice) :
    Except PyErr Unit × TaskState :=
  match s.manager.transitionReplica target .draining with
  | .error e => (.error e, s)
  | .ok m => match m.deactivateService target with
    | .error e => (.error e, { s with manager := m })
    | .ok m => (updateMaxConcurrentSamples o, { s with manager := m })

def commitReadyCall (target : ReplicaKey) (r : Replica) (operationId : String) :
    TaskProg OperationEvidence :=
  lbCall (.commitReady target r.address r.rank operationId)
    fun now lb => (lb.commitReady now target r.address r.rank operationId).1

/-- `_commit_ready_or_reconcile` (rollouter.py:896). -/
def commitReadyOrReconcile (target : ReplicaKey) (r : Replica) (operationId label : String) :
    TaskProg (Option OperationEvidence) :=
  Prog.tryCatch (do
      let evidence ← commitReadyCall target r operationId
      let evidence ← Prog.ofExcept
        (requireOperationEvidence evidence operationId .serviceCommitted (label ++ " routing commit"))
      return some evidence)
    fun _ => do
      let reconciled ← (readRpc (·.queryReadyOperation operationId)).tryCatch fun _ =>
        raise (.runtimeError (label ++ " routing commit outcome is unknown"))
      match reconciled with
      | none => return none
      | some reconciled => do
        let evidence ← Prog.ofExcept (requireOperationEvidence reconciled operationId
          .serviceCommitted (label ++ " routing ledger"))
        return some evidence

/-- What the publishing branches do with the outcome of the routing commit: unbind, or retract. -/
def settlePublication (target : ReplicaKey) (operationId : String) :
    Option OperationEvidence → TaskProg (Option OperationEvidence)
  | none => do
    call (retractServiceTarget target)
    return none
  | some evidence => do
    call fun s _ => (.ok (), unbindTarget s operationId)
    return some evidence

/-- The `except` of the publishing branches: no ACTIVE projection, no way back. -/
def quarantineIf (state : ReplicaState) (target : ReplicaKey) (e : PyErr) :
    TaskProg (Option OperationEvidence) := do
  call fun s _ =>
    if s.manager.replicaState.get? target = some state then
      onManager (·.transitionReplica target .quarantined) s
    else (.ok (), s)
  raise e

/-- `commit_service_change` on an ACTIVE record (rollouter.py:945-974). -/
def reconcilePublication (target : ReplicaKey) (operationId : String) :
    TaskProg (Option OperationEvidence) := do
  let reconciled ← (readRpc (·.queryReadyOperation operationId)).tryCatch fun _ =>
    raise (.runtimeError "service publication remains unknown during reconciliation")
  match reconciled with
  | some reconciled => do
    let evidence ← Prog.ofExcept
      (requireOperationEvidence reconciled operationId .serviceCommitted "routing reconciliation")
    settlePublication target operationId (some evidence)
  | none => settlePublication target operationId none

/-- `commit_service_change` on a CREATING record (rollouter.py:976-1001). -/
def publishBorrowed (target : ReplicaKey) (kind : ReplicaKind) (operationId : String) :
    TaskProg (Option OperationEvidence) := do
  require (kind = .borrowed) (.valueError "only BORROWED replicas may publish from CREATING")
  let r ← peek fun s => serviceIdentity s target
  Prog.tryCatch (do
      call (activateServiceTarget target)
      let evidence ← commitReadyOrReconcile target r operationId "ADD"
      settlePublication target operationId evidence)
    (quarantineIf .creating target)

/-- `commit_service_change` on a DORMANT record (rollouter.py:1004-1037). -/
def publishNative (d : Deployment) (target : ReplicaKey) (kind : ReplicaKind)
    (operationId : String) : TaskProg (Option OperationEvidence) := do
  require (kind = .native) (.valueError "only NATIVE replicas may restore from DORMANT")
  Prog.tryCatch (do
      let r ← peek fun s => serviceIdentity s target
      onServer r fun x => r.wakeUp d x .all
      call (activateServiceTarget target)
      let evidence ← (commitReadyOrReconcile target r operationId "RESTORE").mapErr fun e =>
        if e.kind = .typeError ∨ e.kind = .valueError then
          .runtimeError "RESTORE routing ledger conflicts with the operation"
        else e
      settlePublication target operationId evidence)
    (quarantineIf .dormant target)

/-- No request is admitted on the server, if there still is one (rollouter.py:1046). -/
def checkSettled : Option String → TaskProg Unit
  | none => .ret ()
  | some serverId => do
    let unsettled ← readRpc (·.hasUnsettledRequests serverId)
    require (unsettled = false)
      (.valueError "cannot commit service exit while requests remain unsettled")

/-- `commit_service_change` on a DRAINING record (rollouter.py:1044-1061). -/
def commitExit (target : ReplicaKey) (operationId : String) : TaskProg (Option OperationEvidence) := do
  checkSettled (← readRpc (·.serverForReplica target))
  lbCall (.finishRemove target) fun _ lb => (lb.finishRemove target).1
  call fun s o => match s.manager.deactivateService target with
    | .error e => (.error e, s)
    | .ok m => (updateMaxConcurrentSamples o, { s with manager := m })
  let evidence ← call fun s o => (OperationEvidence.now o.now operationId .serviceCommitted, s)
  return some evidence

/-- `commit_service_change` (rollouter.py:934). -/
def commitServiceChange (d : Deployment) (operationId : String) :
    TaskProg (Option OperationEvidence) := do
  let (target, kind, state) ← (Prog.call (.serviceChange operationId) fun s _ =>
    ((do
      let target ← getPendingTarget s operationId
      let (kind, state) ← s.manager.replicaMeta target
      return (target, kind, state)), s) : TaskProg (ReplicaKey × ReplicaKind × ReplicaState))
  match state with
  | .active => reconcilePublication target operationId
  | .creating => publishBorrowed target kind operationId
  | .dormant => publishNative d target kind operationId
  | .draining => commitExit target operationId
  | .released | .quarantined =>
    raise (.valueError "service exit commit requires DRAINING replica")

/-- The end of `finalize_release` (rollouter.py:1096-1105) with the end of the Manager's `sleep` or
`destroy`: the evidence is recorded and the record closed in one stretch of code. -/
def closeRelease (target : ReplicaKey) (kind : ReplicaKind) (operationId : String)
    (released : OperationEvidence ⊕ List String) (s : TaskState) (o : Choice) :
    Except PyErr OperationEvidence × TaskState :=
  let recorded : Except PyErr (OperationEvidence × LLMServerManager) :=
    match released with
    | .inl evidence => .ok (evidence, s.manager)
    | .inr gpuUuids => match OperationEvidence.now o.now operationId .released gpuUuids with
      | .error e => .error e
      | .ok evidence => match kind with
        | .native => .ok (evidence, { s.manager with
            nativeReleaseEvidence :=
              s.manager.nativeReleaseEvidence.insert operationId (target, evidence) })
        | .borrowed => match s.manager.borrowedRecordForKey target with
          | .error e => .error e
          | .ok (leaseId, record) => .ok (evidence, { s.manager with
              borrowedOperations := s.manager.borrowedOperations.insert leaseId
                { record with destroyEvidence := some evidence } })
  match recorded with
  | .error e => (.error e, s)
  | .ok (evidence, m) =>
    match requireOperationEvidence evidence operationId .released "runtime release" with
    | .error e => (.error e, { s with manager := m })
    | .ok evidence =>
      match m.transitionReplica target (if kind = .native then .dormant else .released) with
      | .error e => (.error e, { s with manager := m })
      | .ok m => (.ok evidence, clearOperationBinding { s with manager := m } operationId)

/-- `finalize_release` (rollouter.py:1063). -/
def finalizeRelease (d : Deployment) (operationId : String) : TaskProg OperationEvidence := do
  let (target, kind, _) ← peek fun s => do
    let target ← getPendingTarget s operationId
    let (kind, state) ← s.manager.replicaMeta target
    if ¬ (kind = .borrowed ∧ state = .creating) ∧ state ≠ .draining then throw (.valueError
      "finalize_release requires DRAINING or borrowed CREATING replica")
    return (target, kind, state)
  Prog.tryCatch (do
      let released ← match kind with
        | .native => sleep d target operationId
        | .borrowed => destroy target operationId
      call (closeRelease target kind operationId released))
    fun e => do
      call fun s _ =>
        let state := s.manager.replicaState.get? target
        if state = some .creating ∨ state = some .draining then
          onManager (·.transitionReplica target .quarantined) s
        else (.ok (), s)
      raise e

/-- `query_release_operation` (rollouter.py:856). -/
def queryReleaseOperation (key : ReplicaKey) (operationId : String) :
    TaskProg (Option OperationEvidence) :=
  peek fun s => s.manager.queryReleaseEvidence key operationId

end Rollouter

end ReplicaLending
