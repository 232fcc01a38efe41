import ReplicaLending.Task.Runtime
/-!
# Membership in `MultiTaskCheckpointEngineManager` (`checkpoint/checkpoint_engine_manager.py`)

Three tables by replica key (`effective`, `pending`, `ready`) over the native `replicas` list, which
is what a full weight synchronisation reaches. The native `add_replicas` and `remove_replicas` add
to and take from that list or raise without changing it, which is the parameter `refused` here.
`bootstrap_target` itself is in `Task/Trainer.lean`: it talks to runtimes; what it reads and writes
of the tables is here.
-/

namespace ReplicaLending

structure CheckpointEngineManager where
  /-- The native list of receivers. -/
  replicas : List Replica
  effective : Dict ReplicaKey (List Replica × Nat)
  pending : Dict ReplicaKey (List Replica × String)
  ready : Dict ReplicaKey (String × Nat × OperationEvidence)

namespace CheckpointEngineManager

variable (ce : CheckpointEngineManager)

/-- The runtimes of an effective key. -/
def members (key : ReplicaKey) : Option (List Replica) := (ce.effective.get? key).map Prod.fst

/-- Some other key has one of the runtimes in this table. -/
def takenIn {ν : Type} (entries : List (ReplicaKey × List Replica × ν)) (key : ReplicaKey)
    (replicas : List Replica) : Bool :=
  entries.any fun e => e.1 ≠ key ∧ replicas.any fun r => r ∈ e.2.1

/-- `_validate_runtime_membership` (:49). -/
def validateRuntimeMembership (key : ReplicaKey) (replicas : List Replica) : Except PyErr Unit :=
  if ¬ replicas.Nodup then .error (.valueError "duplicate runtime in CE membership")
  else if takenIn ce.effective.entries key replicas ∨ takenIn ce.pending.entries key replicas then
    .error (.valueError "runtime already belongs to another ReplicaKey")
  else .ok ()

/-- `register_pending` (:58). -/
def registerPending (key : ReplicaKey) (replicas : List Replica) (operationId : String) :
    Except PyErr CheckpointEngineManager :=
  if replicas = [] then
    .error (.valueError "pending bootstrap requires at least one replica")
  else match ce.validateRuntimeMembership key replicas with
    | .error e => .error e
    | .ok () => match ce.effective.get? key with
      | some (members, _) =>
        if members = replicas ∧ (ce.ready.get? key).map Prod.fst = some operationId then .ok ce
        else .error (.valueError "ReplicaKey is already an effective CE member")
      | none => match ce.pending.get? key with
        | some existing =>
          if existing ≠ (replicas, operationId) then
            .error (.valueError "ReplicaKey already has conflicting pending bootstrap")
          else .ok ce
        | none =>
          if replicas.any fun r => r ∈ ce.replicas then .error
            (.valueError "pending replica is already part of native effective membership")
          else .ok { ce with pending := ce.pending.insert key (replicas, operationId) }

/-- `add_effective` (:135); `refused` when the native addition raises. -/
def addEffective (refused : Bool) (key : ReplicaKey) (replicas : List Replica)
    (loadedVersion : Nat) : Except PyErr CheckpointEngineManager :=
  if replicas = [] then
    .error (.valueError "effective membership requires at least one replica")
  else match ce.validateRuntimeMembership key replicas with
    | .error e => .error e
    | .ok () =>
      let existing := ce.effective.get? key
      if existing.isSome ∧ existing ≠ some (replicas, loadedVersion) then
        .error (.valueError "ReplicaKey already has conflicting CE membership")
      else if refused then .error (.runtimeError "native add_replicas failed")
      else .ok { ce with
        replicas := ce.replicas ++ replicas.filter fun r => r ∉ ce.replicas
        effective := ce.effective.insert key (replicas, loadedVersion) }

/-- `commit_pending` (:95). -/
def commitPending (refused : Bool) (key : ReplicaKey) (evidence : OperationEvidence)
    (loadedVersion : Nat) : Except PyErr CheckpointEngineManager :=
  if evidence.type ≠ .weightReady then
    .error (.valueError "pending bootstrap may commit only from WEIGHT_READY")
  else match ce.pending.get? key, ce.ready.get? key, ce.effective.get? key with
    | none, some confirmed, some member =>
      if confirmed ≠ (evidence.operationId, loadedVersion, evidence) then
        .error (.valueError "WEIGHT_READY does not match confirmed bootstrap")
      else if member.2 ≠ loadedVersion then
        .error (.valueError "conflicting bootstrap commit replay")
      else .ok ce
    | none, _, _ => .error (.keyError "no pending bootstrap")
    | some (replicas, operationId), ready, _ =>
      if operationId ≠ evidence.operationId then
        .error (.valueError "WEIGHT_READY evidence belongs to another operation")
      else if ready ≠ some (operationId, loadedVersion, evidence) then
        .error (.valueError "WEIGHT_READY does not match confirmed bootstrap")
      else match ce.addEffective refused key replicas loadedVersion with
        | .error e => .error e
        | .ok ce => .ok { ce with pending := ce.pending.erase key }

/-- `discard_pending` (:131). -/
def discardPending (key : ReplicaKey) : CheckpointEngineManager :=
  { ce with pending := ce.pending.erase key, ready := ce.ready.erase key }

/-- `remove_effective` (:155); `refused` when the native removal raises. -/
def removeEffective (refused : Bool) (key : ReplicaKey) : Except PyErr CheckpointEngineManager :=
  match ce.effective.get? key with
  | none => .ok (ce.discardPending key)
  | some (replicas, _) =>
    if refused then .error (.runtimeError "native remove_replicas failed")
    else .ok (discardPending { ce with
      replicas := ce.replicas.filter fun r => r ∉ replicas
      effective := ce.effective.erase key } key)

/-- `mark_all_loaded_version` (:168). -/
def markAllLoadedVersion (loadedVersion : Nat) : CheckpointEngineManager :=
  { ce with effective := ce.effective.keys.foldl (fun d k => match ce.effective.get? k with
      | some (replicas, _) => d.insert k (replicas, loadedVersion)
      | none => d) ce.effective }

/-- What `bootstrap_target` finds in the tables (:384-404): the receipt of an earlier bootstrap of
the operation, or the runtimes to bootstrap. -/
def bootstrapEntry (key : ReplicaKey) (operationId : String) (version : Nat) :
    Except PyErr (OperationEvidence ⊕ List Replica) :=
  match ce.ready.get? key with
  | some (readyOperation, readyVersion, evidence) =>
    if readyOperation ≠ operationId ∨ readyVersion ≠ version then
      .error (.valueError "conflicting target bootstrap replay")
    else .ok (.inl evidence)
  | none => match ce.pending.get? key with
    | none => .error (.keyError "no pending bootstrap")
    | some (replicas, pendingOperation) =>
      if pendingOperation ≠ operationId then
        .error (.valueError "pending target belongs to another operation")
      else .ok (.inr replicas)

/-- The receipt of a confirmed bootstrap (:583). -/
def confirmBootstrap (key : ReplicaKey) (version : Nat) (evidence : OperationEvidence) :
    CheckpointEngineManager :=
  { ce with ready := ce.ready.insert key (evidence.operationId, version, evidence) }

end CheckpointEngineManager

end ReplicaLending
