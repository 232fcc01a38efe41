import ReplicaLending.Task.Runtime
/-!
# `MultiTaskLLMServerManager` (`integration/verl/experimental_fully_async/llm_server_manager.py`)

The Manager owns the replica ledger M (`replica_kind`, `replica_state`, the runtime inventory), the
three parallel service lists of the native manager and the two release ledgers. This file is the
part of it that runs between awaits; `create_borrowed_replica`, `sleep` and `destroy` are programs
(`Task/Rollouter.lean`).
-/

namespace ReplicaLending

/-- A placement spec (task_runner.py:77) and, with `replica_rank`, a resolved one. -/
structure BorrowedSpec where
  operationId : String
  leaseId : String
  borrowerTaskId : String
  borrowerReplicaId : String
  claims : List RawClaim
  expiresAt : Nat
  placementEpoch : Nat

namespace BorrowedSpec

/-- `spec == spec'`, with Python's equality on the claim dicts. -/
def same (s t : BorrowedSpec) : Bool :=
  s.operationId = t.operationId && s.leaseId = t.leaseId && s.borrowerTaskId = t.borrowerTaskId &&
    s.borrowerReplicaId = t.borrowerReplicaId && s.expiresAt = t.expiresAt &&
    s.placementEpoch = t.placementEpoch && s.claims.length = t.claims.length &&
    (s.claims.zip t.claims).all fun p => RawClaim.same p.1 p.2

/-- The `ReplicaKey(...)` a record is looked up by (:364). -/
def names (s : BorrowedSpec) (key : ReplicaKey) : Prop :=
  s.borrowerTaskId = key.taskSession ∧ s.borrowerReplicaId = key.replicaId ∧
    s.placementEpoch = key.runtimeEpoch

instance (s : BorrowedSpec) (key : ReplicaKey) : Decidable (s.names key) :=
  inferInstanceAs (Decidable (_ ∧ _ ∧ _))

end BorrowedSpec

/-- `claim["rank"] = 0`. -/
def LeaseClaim.setRank (c : LeaseClaim) : LeaseClaim where
  fields := c.fields.insert "rank" (.int 0)
  ok := by
    have ok := c.ok
    constructor <;> rw [Dict.get?_insert_ne _ _ (by decide)]
    exacts [ok.claimId, ok.sourceLeaseId, ok.donorTaskId, ok.donorReplicaRank, ok.pgId, ok.nodeId,
      ok.gpuUuid, ok.bundleIndex, ok.gpuFraction, ok.cpuRequest, ok.leaseId]

/-- A normalized spec: `validate_borrowed_spec` accepted it (:237). -/
structure NormalSpec where
  spec : BorrowedSpec
  claim : LeaseClaim
  claims_eq : spec.claims = [claim.fields]
  task_ne : spec.borrowerTaskId ≠ ""
  replica_ne : spec.borrowerReplicaId ≠ ""
  operation_ne : spec.operationId ≠ ""

/-- `ReplicaKey(borrower_task_id, borrower_replica_id, placement_epoch)`. -/
def NormalSpec.key (n : NormalSpec) : ReplicaKey :=
  ⟨n.spec.borrowerTaskId, n.spec.borrowerReplicaId, n.spec.placementEpoch, n.task_ne, n.replica_ne⟩

/-- A record of `borrowed_operations` (:419). -/
structure BorrowedRecord where
  resolved : NormalSpec
  replicaRank : Nat
  error : Option PyErr
  /-- `result`, as the server address it reports. -/
  result : Option String
  destroyEvidence : Option OperationEvidence

structure LLMServerManager where
  replicaState : Dict ReplicaKey ReplicaState
  replicaKind : Dict ReplicaKey ReplicaKind
  runtimeInventory : Dict ReplicaKey Replica
  rolloutReplicas : List Replica
  serverAddresses : List String
  serverHandles : List Nat
  nextReplicaRank : Nat
  borrowedOperations : Dict String BorrowedRecord
  nativeReleaseEvidence : Dict String (ReplicaKey × OperationEvidence)

/-- `_ALLOWED` (:25). -/
def ReplicaState.allowed : ReplicaState → List ReplicaState
  | .creating => [.active, .released, .quarantined]
  | .active => [.draining]
  | .draining => [.active, .dormant, .released, .quarantined]
  | .dormant => [.active, .quarantined]
  | .released => []
  | .quarantined => []

namespace LLMServerManager

variable (m : LLMServerManager)

/-- `_validate_kind_state` (:135). -/
def validateKindState (kind : ReplicaKind) (state : ReplicaState) : Except PyErr Unit :=
  if kind = .borrowed ∧ state = .dormant then
    .error (.valueError "borrowed replica cannot enter DORMANT")
  else if kind = .native ∧ state = .released then
    .error (.valueError "native replica must sleep instead of entering RELEASED")
  else .ok ()

/-- `register_replica` of a key that is not registered (:106). -/
def registerReplica (key : ReplicaKey) (kind : ReplicaKind) (state : ReplicaState)
    (runtime : Option Replica) : Except PyErr LLMServerManager :=
  if m.replicaState.contains key then .error (.valueError "conflicting lifecycle registration")
  else match validateKindState kind state with
    | .error e => .error e
    | .ok () => .ok { m with
        replicaKind := m.replicaKind.insert key kind
        replicaState := m.replicaState.insert key state
        runtimeInventory := match runtime with
          | some r => m.runtimeInventory.insert key r
          | none => m.runtimeInventory }

/-- The writes of `transition_replica` (:151). -/
def move (key : ReplicaKey) (newState : ReplicaState) : LLMServerManager :=
  { m with
    replicaState := m.replicaState.insert key newState
    runtimeInventory :=
      if newState = .released then m.runtimeInventory.erase key else m.runtimeInventory }

/-- `transition_replica` (:141). -/
def transitionReplica (key : ReplicaKey) (newState : ReplicaState) :
    Except PyErr LLMServerManager :=
  match m.replicaState.get? key, m.replicaKind.get? key with
  | some current, some kind =>
    if newState = current then .ok m
    else if newState ∉ current.allowed then .error (.valueError "illegal replica transition")
    else match validateKindState kind newState with
      | .error e => .error e
      | .ok () => .ok (m.move key newState)
  | _, _ => .error (.keyError "replica")

/-- `replica_meta` (:156). -/
def replicaMeta (key : ReplicaKey) : Except PyErr (ReplicaKind × ReplicaState) :=
  match m.replicaKind.get? key, m.replicaState.get? key with
  | some kind, some state => .ok (kind, state)
  | _, _ => .error (.keyError "replica")

/-- `inspect_runtime` (:159). -/
def inspectRuntime (key : ReplicaKey) : Option Replica := m.runtimeInventory.get? key

/-- `_borrowed_record_for_key` (:360): the lease id and the record. -/
def borrowedRecordForKey (key : ReplicaKey) : Except PyErr (String × BorrowedRecord) :=
  match m.borrowedOperations.entries.filter fun e => e.2.resolved.spec.names key with
  | [entry] => .ok entry
  | _ => .error (.keyError "expected one borrowed operation")

/-- `query_release_evidence` (:162). -/
def queryReleaseEvidence (key : ReplicaKey) (operationId : String) :
    Except PyErr (Option OperationEvidence) :=
  match m.replicaKind.get? key with
  | some .native => match m.nativeReleaseEvidence.get? operationId with
    | none => .ok none
    | some (previousKey, evidence) =>
      if previousKey ≠ key then
        .error (.valueError "native release operation belongs to another replica")
      else .ok (some evidence)
  | some .borrowed => match m.borrowedRecordForKey key with
    | .error _ => .ok none
    | .ok (_, record) => match record.destroyEvidence with
      | none => .ok none
      | some evidence => .ok (if evidence.operationId ≠ operationId then none else some evidence)
  | none => .ok none

/-- `_service_slot` (:195): the runtime and its index in the address list. -/
def serviceSlot (key : ReplicaKey) (requireRoute : Bool) : Except PyErr (Replica × Option Nat) :=
  match m.runtimeInventory.get? key with
  | none => .error (.keyError "replica")
  | some runtime =>
    if requireRoute ∧ runtime.address = "" then
      .error (.runtimeError "native runtime lacks a routable server identity")
    else if runtime.address ∈ m.serverAddresses then
      let index := m.serverAddresses.idxOf runtime.address
      if m.serverHandles[index]? ≠ some runtime.rank then
        .error (.runtimeError "native service address/handle inventory is inconsistent")
      else .ok (runtime, some index)
    else .ok (runtime, none)

/-- `deactivate_service` (:213). -/
def deactivateService (key : ReplicaKey) : Except PyErr LLMServerManager :=
  match m.serviceSlot key false with
  | .error e => .error e
  | .ok (runtime, index) => .ok { m with
      rolloutReplicas := m.rolloutReplicas.erase runtime
      serverAddresses := match index with
        | some i => m.serverAddresses.eraseIdx i
        | none => m.serverAddresses
      serverHandles := match index with
        | some i => m.serverHandles.eraseIdx i
        | none => m.serverHandles }

/-- `activate_service` (:225). -/
def activateService (key : ReplicaKey) : Except PyErr LLMServerManager :=
  match m.serviceSlot key true with
  | .error e => .error e
  | .ok (runtime, index) => .ok { m with
      rolloutReplicas :=
        if runtime ∈ m.rolloutReplicas then m.rolloutReplicas else m.rolloutReplicas ++ [runtime]
      serverAddresses := if index.isNone then m.serverAddresses ++ [runtime.address]
        else m.serverAddresses
      serverHandles := if index.isNone then m.serverHandles ++ [runtime.rank]
        else m.serverHandles }

/-- `validate_borrowed_spec` (:237); `now` is `time.time()`. -/
def validateBorrowedSpec (d : Deployment) (now : Nat) (spec : BorrowedSpec) :
    Except PyErr NormalSpec :=
  if h₁ : spec.operationId = "" then
    .error (.valueError "borrowed placement requires nonempty operation_id")
  else if spec.leaseId = "" then
    .error (.valueError "borrowed placement requires nonempty lease_id")
  else if h₂ : spec.borrowerTaskId = "" then
    .error (.valueError "borrowed placement requires nonempty borrower_task_id")
  else if h₃ : spec.borrowerReplicaId = "" then
    .error (.valueError "borrowed placement requires nonempty borrower_replica_id")
  else if spec.borrowerTaskId ≠ d.taskSession then
    .error (.valueError "borrowed placement targets another task_session")
  else if spec.claims = [] then
    .error (.valueError "borrowed placement requires nonempty claims")
  else if d.tensorModelParallelSize ≠ 1 ∨ d.dataParallelSize ≠ 1 ∨
      d.pipelineModelParallelSize ≠ 1 then
    .error (.valueError "current borrowed runtime requires TP=DP=PP=1")
  else if spec.claims.length ≠ 1 then
    .error (.valueError "current borrowed runtime requires one GPU claim")
  else match Lease.make spec.leaseId spec.claims spec.expiresAt with
    | .error e => .error e
    | .ok lease =>
      if lease.expiresAt ≠ 0 ∧ lease.expiresAt ≤ now then
        .error (.valueError "borrowed placement lease is expired")
      else
        let claim := lease.firstClaim
        if ¬ ((claim.fields.get? "rank").getD (.int 0)).isZero ∨
            ¬ (PyVal.orNone (claim.fields.get? "node_rank")).isZero ∨
            ¬ (PyVal.orNone (claim.fields.get? "local_rank")).isZero then .error
          (.valueError "current borrowed claim requires rank=node_rank=local_rank=0")
        else .ok ⟨{ spec with claims := [claim.setRank.fields] }, claim.setRank, rfl, h₂, h₃, h₁⟩

end LLMServerManager

end ReplicaLending
