import ReplicaLending.Contracts
/-!
# Rollout runtimes (`rollout/replica.py`, `rollout/http_server.py`)

A `Replica` is the fixed identity of one runtime: rank, kind, the address its server listens on and
where its worker sits. What changes over its life is a `Server`: which allocations of the vLLM
engine are resident, the sleep ledger of the HTTP server, and which of its two actors live. The
server handle of a runtime is its rank.

Every engine or Ray call inside these methods can fail, before or after it took effect; `Fault`s say
which ones do. Point `n` of a method is the `n`-th such call in its text.
-/

namespace ReplicaLending

/-- What happens to one remote call: nothing goes wrong; it is never executed; it is executed and
its reply is lost; it is executed some time after the caller has seen an error. -/
inductive Fault | none | before | after | late
deriving DecidableEq, Repr

/-- The result of the placement probe (replica.py:61): the node, the PG and the accelerator. -/
structure Placement where
  nodeId : String
  pgId : String
  gpuUuid : String
deriving DecidableEq, Repr

structure Replica where
  rank : Nat
  kind : ReplicaKind
  address : String
  placement : Placement
deriving DecidableEq, Repr

inductive Resource | gpu | npu | other
deriving DecidableEq, Repr

/-- An entry of `placement_group_table()`, with what `get_placement_group(name)` says of it. -/
structure PlacementGroup where
  name : String
  created : Bool
  bundleNodes : Dict Nat String
  idByName : String
  bundleCount : Nat

/-- The configuration of one task and the part of the Ray cluster it looks at. -/
structure Deployment where
  taskSession : String
  taskSession_ne : taskSession ≠ ""
  resource : Resource
  /-- `_resolve_sleep_level()` of the native server. -/
  sleepLevel : Nat
  enableSleepMode : Bool
  freeCacheEngine : Bool
  tensorModelParallelSize : Nat
  dataParallelSize : Nat
  pipelineModelParallelSize : Nat
  naiveBackend : Bool
  parameterValidationEnabled : Bool
  partialRollout : Bool
  drainTimeoutPositive : Bool
  rayNamespace : String
  placementGroups : String → Option PlacementGroup
  /-- Where an actor on a bundle of a placement group lands. -/
  bundlePlacement : String × Nat → Placement

inductive SleepStage | awake | level1 | level2 | weights
deriving DecidableEq, Repr

/-- The mutable side of a runtime: engine, HTTP server, Ray actors. -/
structure Server where
  weights : Bool
  kv : Bool
  stage : SleepStage
  submissionPaused : Bool
  globalSteps : Option Nat
  serverLaunched : Bool
  serverAlive : Bool
  workerAlive : Bool
  borrowedCleanupVerified : Bool
deriving DecidableEq, Repr

def engineError : PyErr := .runtimeError "engine call failed"

namespace Server

/-- Nothing launched yet. -/
def absent : Server := ⟨false, false, .awake, false, none, false, false, false, false⟩

/-- `engine.is_sleeping()`: some allocation is not resident. -/
def isSleeping (v : Server) : Bool := !(v.weights && v.kv)

/-- A call inside a method: `effect`, then `next`, unless it fails. -/
def attempt {α : Type} (x : Fault) (effect : Server → Server)
    (next : Server → Except PyErr α × Server) (v : Server) : Except PyErr α × Server :=
  match x with
  | .none => next (effect v)
  | .before => (.error engineError, v)
  | .after | .late => (.error engineError, effect v)

/-- `_require_sleep_engine` (http_server.py:124). -/
def requireSleepEngine (d : Deployment) (v : Server) : Except PyErr Unit :=
  if ¬ d.enableSleepMode then
    .error (.runtimeError "native sleep/wake requires rollout.enable_sleep_mode=true")
  else if ¬ d.freeCacheEngine then
    .error (.runtimeError "native sleep/wake requires rollout.free_cache_engine=true")
  else if ¬ v.serverAlive then .error (.runtimeError "vLLM engine is not initialized")
  else .ok ()

/-- The level a whole-accelerator sleep must reach. -/
def expectedLevel : Resource → Option Nat
  | .gpu => some 2
  | .npu => some 1
  | .other => none

def stageOfLevel : Nat → SleepStage
  | 1 => .level1
  | _ => .level2

def levelOfStage : SleepStage → Nat
  | .level1 => 1
  | _ => 2

/-- `sleep` from the level check on (http_server.py:189). -/
def deepSleep (d : Deployment) (x : Nat → Fault) (v : Server) : Except PyErr (Nat × Bool) × Server :=
  match expectedLevel d.resource with
  | none => (.error ⟨.notImplementedError, "native sleep is unsupported for Ray resource"⟩, v)
  | some level =>
    if d.sleepLevel ≠ level then
      (.error ⟨.notImplementedError, "DONATE requires another vLLM sleep level"⟩, v)
    else attempt (x 3) id (attempt (x 4) id (attempt (x 5)
      (fun v => { v with weights := false, kv := false })
      (attempt (x 6) id fun v =>
        if ¬ v.isSleeping then (.error (.runtimeError "vLLM engine did not enter sleep"), v)
        else (.ok (level, true), { v with stage := stageOfLevel level }))))
      { v with submissionPaused := true }

/-- `sleep` of the HTTP server (http_server.py:154): the receipt's `sleep_level` and `sleeping`. -/
def sleep (d : Deployment) (x : Nat → Fault) (v : Server) : Except PyErr (Nat × Bool) × Server :=
  match v.requireSleepEngine d with
  | .error e => (.error e, v)
  | .ok () => match v.stage with
    | .level1 | .level2 => attempt (x 0) id (fun v =>
        if ¬ v.isSleeping then
          (.error (.runtimeError "sleep ledger disagrees with vLLM engine"), v)
        else (.ok (levelOfStage v.stage, true), { v with submissionPaused := true })) v
    | .weights => attempt (x 0) id (fun v =>
        if v.isSleeping then attempt (x 1) (fun v => { v with kv := true }) (attempt (x 2) id fun v =>
          if v.isSleeping then
            (.error (.runtimeError "RESTORE rollback could not restore KV before sleep"), v)
          else v.deepSleep d x) v
        else v.deepSleep d x) { v with submissionPaused := true }
    | .awake => v.deepSleep d x

/-- `tags` of `wake_up`: `None` or `["weights"]`. -/
inductive WakeTags | all | weights
deriving DecidableEq, Repr

/-- `wake_up` of the HTTP server once every allocation is resident (http_server.py:277). -/
def reopen (x : Nat → Fault) (kvAlreadyReset : Bool) (v : Server) :
    Except PyErr (Bool × Bool) × Server :=
  attempt (if kvAlreadyReset then .none else x 3) id (attempt (x 4) id fun v =>
    (.ok (false, true), { v with stage := .awake, submissionPaused := false })) v

/-- `wake_up` of the HTTP server (http_server.py:228): `sleeping` and `fully_awake`. -/
def wakeUp (d : Deployment) (x : Nat → Fault) (tags : WakeTags) (v : Server) :
    Except PyErr (Bool × Bool) × Server :=
  match v.requireSleepEngine d with
  | .error e => (.error e, v)
  | .ok () => attempt (x 0) id (fun v =>
      let sleepingBefore := v.isSleeping
      let kvAlreadyReset := tags = .all ∧ v.stage = .weights ∧ ¬ sleepingBefore
      if tags = .weights ∧ v.stage = .weights then
        if ¬ sleepingBefore then
          (.error (.runtimeError "weights-wake ledger disagrees with vLLM engine"), v)
        else (.ok (true, false), v)
      else if tags = .all ∧ (v.stage = .level1 ∨ v.stage = .level2) then
        (.error (.runtimeError "full native wake requires weights-only RESTORE preparation"), v)
      else if tags = .all ∧ v.stage = .weights ∧ sleepingBefore then
        (.error (.runtimeError
          "full native wake requires CE KV restore before admission commit"), v)
      else if ¬ sleepingBefore ∧ tags = .weights then
        (.error (.runtimeError "tagged native wake requires a sleeping vLLM engine"), v)
      else if ¬ sleepingBefore ∧ v.stage ≠ .weights ∧ v.stage ≠ .awake then
        (.error (.runtimeError "native wake ledger disagrees with vLLM engine"), v)
      else attempt (if sleepingBefore then x 1 else .none)
        (fun v => if sleepingBefore then
          { v with weights := true, kv := v.kv || tags = .all } else v)
        (attempt (x 2) id fun v =>
          if tags = .weights ∧ ¬ v.isSleeping then (.error (.runtimeError
            "weights-only wake unexpectedly made the vLLM engine fully awake"), v)
          else if v.isSleeping then
            (.ok (true, false), if tags = .weights then { v with stage := .weights } else v)
          else v.reopen x kvAlreadyReset) v) { v with submissionPaused := true }

/-- `runtime_health` (http_server.py:57): the `global_steps` the server reports. -/
def runtimeHealth (x : Fault) (v : Server) : Except PyErr (Option Nat) × Server :=
  if ¬ v.serverAlive then (.error (.runtimeError "vLLM engine is not initialized"), v)
  else attempt x id (fun v => (.ok v.globalSteps, v)) v

end Server

namespace Replica

/-- `worker_placements` (replica.py:196). -/
def workerPlacements (r : Replica) (x : Fault) (v : Server) : Except PyErr Placement × Server :=
  if ¬ v.workerAlive then
    (.error (.runtimeError "current verified runtime requires one CE worker"), v)
  else Server.attempt x id (fun v => (.ok r.placement, v)) v

/-- `validate_server_runtime` (replica.py:351). -/
def validateServerRuntime (r : Replica) (x : Nat → Fault) (v : Server) :
    Except PyErr (Option Nat) × Server :=
  match v.runtimeHealth (x 0) with
  | (.error e, v) => (.error e, v)
  | (.ok steps, v) => match r.kind with
    | .borrowed => (.ok steps, v)
    | .native => match r.workerPlacements (x 1) v with
      | (.error e, v) => (.error e, v)
      | (.ok _, v) => (.ok steps, v)

/-- `sleep` (replica.py:477). -/
def sleep (d : Deployment) (r : Replica) (x : Nat → Fault) (v : Server) :
    Except PyErr Unit × Server :=
  if r.kind ≠ .native then
    (.error (.valueError "sleep is valid only for retained NATIVE replicas"), v)
  else match Server.expectedLevel d.resource with
    | none => (.error ⟨.notImplementedError, "native sleep is unsupported for Ray resource"⟩, v)
    | some level => match v.sleep d x with
      | (.error e, v) => (.error e, v)
      | (.ok receipt, v) =>
        if receipt ≠ (level, true) then
          (.error (.runtimeError "native server did not confirm sleep"), v)
        else (.ok (), v)

/-- `wake_up` (replica.py:505). -/
def wakeUp (d : Deployment) (r : Replica) (x : Nat → Fault) (tags : Server.WakeTags) (v : Server) :
    Except PyErr Unit × Server :=
  if r.kind ≠ .native then
    (.error (.valueError "wake_up is valid only for retained NATIVE replicas"), v)
  else match v.wakeUp d x tags with
    | (.error e, v) => (.error e, v)
    | (.ok receipt, v) =>
      if receipt ≠ (if tags = .weights then (true, false) else (false, true)) then
        (.error (.runtimeError "native server wake residency is inconsistent"), v)
      else (.ok (), v)

/-- `release_kv_cache` and `resume_kv_cache` of the native replica. -/
def releaseKvCache (x : Fault) (v : Server) : Except PyErr Unit × Server :=
  Server.attempt x (fun v => { v with kv := false }) (fun v => (.ok (), v)) v

def resumeKvCache (x : Fault) (v : Server) : Except PyErr Unit × Server :=
  Server.attempt x (fun v => { v with kv := true }) (fun v => (.ok (), v)) v

/-- `_shutdown_servers_verified` (replica.py:387): the kill is best effort, the DEAD proof decides.
A server actor that was never launched has no State API entry, and absence is no proof. -/
def shutdownServersVerified (x : Fault) (v : Server) : Except PyErr Unit × Server :=
  if ¬ v.serverLaunched then
    (.error (.runtimeError "Ray actors did not reach DEAD before timeout"), v)
  else Server.attempt x (fun v => { v with serverAlive := false, weights := false, kv := false })
    (fun v => (.ok (), v)) v

/-- `_kill_workers_verified` (replica.py:273). -/
def killWorkersVerified (x : Fault) (v : Server) : Except PyErr Unit × Server :=
  if ¬ v.workerAlive then (.ok (), v)
  else Server.attempt x (fun v => { v with workerAlive := false }) (fun v => (.ok (), v)) v

/-- `cleanup_borrowed_runtime` (replica.py:413): both halves run, and both must be proved. -/
def cleanupBorrowedRuntime (r : Replica) (x : Nat → Fault) (v : Server) :
    Except PyErr Unit × Server :=
  if r.kind ≠ .borrowed then (.error (.valueError "borrowed cleanup is BORROWED-only"), v)
  else
    let servers := shutdownServersVerified (x 0) { v with borrowedCleanupVerified := false }
    let workers := killWorkersVerified (x 1) servers.2
    match servers.1, workers.1 with
    | .ok (), .ok () => (.ok (), { workers.2 with borrowedCleanupVerified := true })
    | _, _ => (.error (.runtimeError "borrowed runtime cleanup is unverified"), workers.2)

/-- `_create_workers_from_claims` (replica.py:289) with `validate_worker_placement` (:206). -/
def createWorkersFromClaims (r : Replica) (claim : LeaseClaim) (x : Nat → Fault) (v : Server) :
    Except PyErr Unit × Server :=
  let created : Except PyErr Unit × Server :=
    Server.attempt (x 0) (fun v => { v with workerAlive := true })
      (Server.attempt (x 1) id fun v =>
        if r.placement.nodeId ≠ claim.nodeId then
          (.error (.runtimeError "borrower rank landed on unexpected node"), v)
        else if r.placement.gpuUuid ≠ claim.gpuUuid then
          (.error (.runtimeError "borrower rank landed on unexpected physical accelerator"), v)
        else (.ok (), v)) v
  match created with
  | (.ok (), v) => (.ok (), v)
  | (.error e, v) => match killWorkersVerified (x 2) v with
    | (.ok (), v) => (.error e, v)
    | (.error _, v) => (.error (.runtimeError
        "borrowed CE creation failed: actor cleanup is unverified"), v)

/-- `launch_servers` of the native replica: the server binds its address and loads the model. -/
def launchServers (addressFree : Bool) (x : Fault) (v : Server) : Except PyErr Unit × Server :=
  if ¬ addressFree then
    (.error (.runtimeError "address already in use"), { v with serverLaunched := true })
  else Server.attempt x (fun v => { v with
      serverLaunched := true, serverAlive := true, weights := true, kv := true, stage := .awake })
    (fun v => (.ok (), v)) v

/-- `init_from_lease` (replica.py:438). -/
def initFromLease (r : Replica) (claim : LeaseClaim) (addressFree : Bool) (x : Nat → Fault)
    (v : Server) : Except PyErr Unit × Server :=
  let built : Except PyErr Unit × Server :=
    match r.createWorkersFromClaims claim x { v with borrowedCleanupVerified := false } with
    | (.error e, v) => (.error e, v)
    | (.ok (), v) => match launchServers addressFree (x 3) v with
      | (.error e, v) => (.error e, v)
      | (.ok (), v) => match r.validateServerRuntime (fun n => x (4 + n)) v with
        | (.error e, v) => (.error e, v)
        | (.ok _, v) => (.ok (), v)
  match built with
  | (.ok (), v) => (.ok (), v)
  | (.error e, v) => match r.cleanupBorrowedRuntime (fun n => x (6 + n)) v with
    | (.ok (), v) => (.error e, v)
    | (.error _, v) => (.error (.runtimeError
        "borrowed runtime creation failed; cleanup is unverified"), v)

end Replica

end ReplicaLending
