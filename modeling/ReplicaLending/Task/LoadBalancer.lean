import Mathlib.Data.List.Sort
import ReplicaLending.Contracts
/-!
# `MultiTaskGlobalRequestLoadBalancer` (`rollout/load_balancer.py`)

The router of one task. From the native router it has the pool `_servers`: `add_servers` and
`remove_servers` change it, `acquire_server` picks one of it (which one is the native policy's
business, so here it is a parameter) and raises when it is empty. The extension keeps the request
ledger (`active_request_server`, `attempt_state`), the drains and the publications.

A server handle is a `Nat`, the rank of the replica that serves behind it.
-/

namespace ReplicaLending

structure GlobalRequestLoadBalancer where
  servers : Dict String Nat
  routes : Dict ReplicaKey String
  activeRequestServer : Dict String String
  attemptState : Dict String AttemptState
  drainingOperations : Dict String String
  awaitingServiceRestore : Bool
  readyOperations : Dict String (ReplicaKey × String × OperationEvidence)
  continuationProofs : Dict String (String × String × String × OperationEvidence)
  continuationHandoffs : Dict String (List String)
  settledRetention : Nat
  settledCount : Nat

namespace GlobalRequestLoadBalancer

/-- `__init__` (:18). -/
def init (servers : Dict String Nat) (routes : Dict ReplicaKey String) :
    GlobalRequestLoadBalancer where
  servers := servers
  routes := routes
  activeRequestServer := ∅
  attemptState := ∅
  drainingOperations := ∅
  awaitingServiceRestore := false
  readyOperations := ∅
  continuationProofs := ∅
  continuationHandoffs := ∅
  settledRetention := 10000
  settledCount := 0

variable (lb : GlobalRequestLoadBalancer)

/-- `_gc_settled_requests` (:58). -/
def gcSettledRequests : GlobalRequestLoadBalancer :=
  if lb.settledCount ≤ lb.settledRetention then lb else
    let target := max (lb.settledCount - lb.settledRetention) (lb.settledRetention / 8)
    let expired := ((lb.attemptState.entries.filter fun e =>
      e.2 = .settled ∧ ¬ lb.activeRequestServer.contains e.1).map Prod.fst).take target
    { lb with
      attemptState := lb.attemptState.eraseAll expired
      continuationProofs := lb.continuationProofs.eraseAll expired
      settledCount := lb.settledCount - expired.length }

/-- `acquire_server` (:82); `pick` is the server the native policy selects. -/
def acquireServer (requestId pick : String) :
    Except PyErr (String × Nat) × GlobalRequestLoadBalancer :=
  let state := lb.attemptState.get? requestId
  if state = some .admitted ∨ state = some .terminated then
    (.error (.runtimeError "request already has an unsettled generation"), lb)
  else match lb.servers.get? pick with
    | none => (.error (.runtimeError "No available servers in load balancer"), lb)
    | some handle =>
      let settled := state = some .settled
      (.ok (pick, handle), { lb with
        continuationProofs :=
          if settled then lb.continuationProofs.erase requestId else lb.continuationProofs
        settledCount := if settled then lb.settledCount - 1 else lb.settledCount
        activeRequestServer := lb.activeRequestServer.insert requestId pick
        attemptState := lb.attemptState.insert requestId .admitted })

/-- `release_server` (:98); the native call only decrements counters. -/
def releaseServer (serverId : String) (requestId : String) :
    Except PyErr Unit × GlobalRequestLoadBalancer :=
  if requestId = "" then (.ok (), lb) else
  let owner := lb.activeRequestServer.get? requestId
  if owner.isSome ∧ owner ≠ some serverId then
    (.error (.valueError "request release belongs to another server"), lb)
  else match lb.attemptState.get? requestId with
    | some .settled | none => (.ok (), lb)
    | some .admitted | some .terminated => (.ok (), gcSettledRequests { lb with
        attemptState := lb.attemptState.insert requestId .settled
        activeRequestServer := lb.activeRequestServer.erase requestId
        settledCount := lb.settledCount + 1 })

/-- `query_attempt` (:116). -/
def queryAttempt (requestId : String) : Option AttemptState := lb.attemptState.get? requestId

/-- `is_service_restore_pending` (:119). -/
def isServiceRestorePending : Bool := lb.awaitingServiceRestore && lb.servers.entries.isEmpty

/-- `confirm_continuation` (:123). -/
def confirmContinuation (now : Nat) (requestId clientId prefixDigest : String) :
    Except PyErr OperationEvidence × GlobalRequestLoadBalancer :=
  if requestId = "" ∨ clientId = "" ∨ prefixDigest = "" then
    (.error (.valueError "continuation fields must be nonempty"), lb)
  else match lb.continuationProofs.get? requestId with
    | some (previousClient, previousDigest, _, evidence) =>
      if previousClient ≠ clientId ∨ previousDigest ≠ prefixDigest then
        (.error (.valueError "conflicting continuation proof replay"), lb)
      else (.ok evidence, lb)
    | none =>
      if lb.attemptState.get? requestId ≠ some .admitted then
        (.error (.valueError "request is not eligible for continuation"), lb)
      else match (lb.activeRequestServer.get? requestId).bind lb.drainingOperations.get? with
        | none => (.error (.keyError "request is not part of an active drain operation"), lb)
        | some operationId => match OperationEvidence.now now operationId .exitReady with
          | .error e => (.error e, lb)
          | .ok evidence =>
            let handed := (lb.continuationHandoffs.get? operationId).getD []
            (.ok evidence, { lb with
              continuationProofs := lb.continuationProofs.insert requestId
                (clientId, prefixDigest, operationId, evidence)
              continuationHandoffs :=
                lb.continuationHandoffs.insert operationId (handed.insert requestId)
              attemptState := lb.attemptState.insert requestId .terminated })

/-- `continuation_handoffs.get(operation_id, ())`. -/
def handoffs (operationId : String) : List String :=
  (lb.continuationHandoffs.get? operationId).getD []

/-- `continuation_handoff_requests` (:153). -/
def continuationHandoffRequests (operationId : String) : Except PyErr (List String) :=
  if operationId = "" then .error (.valueError "operation_id must be a nonempty string")
  else .ok ((lb.handoffs operationId).insertionSort fun r r' => r ≤ r')

/-- `requests_for_server` (:158). -/
def requestsForServer (serverId : String) : List String :=
  (lb.activeRequestServer.entries.filter fun e => e.2 = serverId).map Prod.fst

/-- `has_unsettled_requests` (:161). -/
def hasUnsettledRequests (serverId : String) : Bool :=
  (lb.requestsForServer serverId).any fun r => lb.attemptState.get? r = some .admitted

/-- The loop of `commit_ready` over `ready_operations` (:197). -/
def readyConflict (key : ReplicaKey) (serverId operationId : String) :
    List (String × ReplicaKey × String × OperationEvidence) → Option PyErr
  | [] => none
  | (existingOperation, existingKey, existingServer, _) :: rest =>
    if existingKey = key ∧ existingOperation ≠ operationId then
      some (.valueError "ReplicaKey was published by another operation")
    else if existingServer = serverId ∧ existingKey ≠ key then
      some (.valueError "server_id is already owned by another ReplicaKey")
    else readyConflict key serverId operationId rest

/-- `commit_ready` (:165). -/
def commitReady (now : Nat) (key : ReplicaKey) (serverId : String) (serverHandle : Nat)
    (operationId : String) : Except PyErr OperationEvidence × GlobalRequestLoadBalancer :=
  if serverId = "" then (.error (.valueError "commit_ready requires nonempty server_id"), lb)
  else if operationId = "" then
    (.error (.valueError "commit_ready requires nonempty operation_id"), lb)
  else match lb.readyOperations.get? operationId with
    | some (previousKey, previousServer, evidence) =>
      if previousKey ≠ key ∨ previousServer ≠ serverId then
        (.error (.valueError "conflicting ready operation replay"), lb)
      else if lb.routes.get? key ≠ some serverId ∨ ¬ lb.servers.contains serverId then
        (.error (.runtimeError "ready operation ledger disagrees with routing state"), lb)
      else (.ok evidence, lb)
    | none =>
      let route := lb.routes.get? key
      let handle := lb.servers.get? serverId
      if route.isSome ∧ route ≠ some serverId then
        (.error (.valueError "ReplicaKey already routes to another server"), lb)
      else if handle.isSome ∧ handle ≠ some serverHandle then
        (.error (.valueError "server_id is already bound to another handle"), lb)
      else match readyConflict key serverId operationId lb.readyOperations.entries with
        | some e => (.error e, lb)
        | none =>
          let opened := { lb with
            servers := lb.servers.insert serverId serverHandle
            awaitingServiceRestore := false
            routes := lb.routes.insert key serverId }
          match OperationEvidence.now now operationId .serviceCommitted with
          | .error e => (.error e, opened)
          | .ok evidence => (.ok evidence, { opened with
              readyOperations := lb.readyOperations.insert operationId (key, serverId, evidence) })

/-- `query_ready_operation` (:213). -/
def queryReadyOperation (operationId : String) : Option OperationEvidence :=
  (lb.readyOperations.get? operationId).map fun entry => entry.2.2

/-- `server_for_replica` (:219). -/
def serverForReplica (key : ReplicaKey) : Option String := lb.routes.get? key

/-- `get_all_servers` of the native router. -/
def getAllServers : List String := lb.servers.keys

/-- `begin_drain` (:224). -/
def beginDrain (key : ReplicaKey) (operationId : String) :
    Except PyErr String × GlobalRequestLoadBalancer :=
  if operationId = "" then (.error (.valueError "begin_drain requires operation_id"), lb)
  else match lb.routes.get? key with
  | none => (.error (.keyError "no route"), lb)
  | some serverId =>
    let existing := lb.drainingOperations.get? serverId
    if existing.isSome ∧ existing ≠ some operationId then
      (.error (.valueError "server is already draining under another operation"), lb)
    else
      let servers := lb.servers.erase serverId
      (.ok serverId, { lb with
        drainingOperations := lb.drainingOperations.insert serverId operationId
        servers := servers
        awaitingServiceRestore := lb.awaitingServiceRestore || servers.entries.isEmpty })

/-- The TERMINATED requests of a server that `finish_remove` settles (:258). -/
def settleTerminated : List String → GlobalRequestLoadBalancer → GlobalRequestLoadBalancer
  | [], lb => lb
  | r :: rs, lb => settleTerminated rs <|
    if lb.attemptState.get? r = some .terminated then { lb with
      attemptState := lb.attemptState.insert r .settled
      activeRequestServer := lb.activeRequestServer.erase r
      settledCount := lb.settledCount + 1 }
    else lb

/-- `finish_remove` (:249). -/
def finishRemove (key : ReplicaKey) : Except PyErr Unit × GlobalRequestLoadBalancer :=
  match lb.routes.get? key with
  | none => (.ok (), lb)
  | some serverId =>
    if lb.hasUnsettledRequests serverId then
      (.error (.valueError "cannot remove route while requests remain admitted"), lb)
    else
      let settled := settleTerminated (lb.requestsForServer serverId) lb
      let drained := gcSettledRequests { settled with
        servers := settled.servers.erase serverId
        drainingOperations := settled.drainingOperations.erase serverId
        continuationHandoffs := match settled.drainingOperations.get? serverId with
          | some operationId => settled.continuationHandoffs.erase operationId
          | none => settled.continuationHandoffs }
      let published := (drained.readyOperations.entries.filter fun e => e.2.1 = key).map Prod.fst
      (.ok (), { drained with
        routes := drained.routes.erase key
        readyOperations := drained.readyOperations.eraseAll published })

end GlobalRequestLoadBalancer

end ReplicaLending
