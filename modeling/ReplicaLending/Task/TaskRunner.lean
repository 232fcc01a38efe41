import ReplicaLending.Task.Trainer
/-!
# The TaskRunner (`task_runner.py`)

`submit_operation` records a command in the journal and starts one thread for it; the thread runs
`_execute_operation`. The thread of an operation that is resolved (SUCCEEDED or FAILED) has only its
binding and its lease snapshot left to drop, which `TaskState.closing` keeps.
-/

namespace ReplicaLending

open TaskProg TaskState Rollouter Trainer

namespace TaskRunner

/-- `_build_borrowed_spec` (:61). -/
def buildBorrowedSpec (command : OperationCommand) (lease : Lease) : Except PyErr BorrowedSpec :=
  if command.kind ≠ .add then
    .error (.valueError "borrowed placement spec is valid only for ADD")
  else if lease.leaseId ≠ command.leaseId then
    .error (.valueError "operation lease snapshot does not match command.lease_id")
  else .ok {
    operationId := command.operationId
    leaseId := lease.leaseId
    borrowerTaskId := command.target.taskSession
    borrowerReplicaId := command.target.replicaId
    claims := lease.claims.zipIdx.map fun (claim, rank) =>
      ((claim.fields.insert "rank" (.int rank)).insert "node_rank" (.int 0)).insert
        "local_rank" (.int rank)
    expiresAt := lease.expiresAt
    placementEpoch := command.target.runtimeEpoch }

/-- One attempt of `_advance_lease`: send the evidence, then wait for the answer or the timeout. -/
def advanceOnce (leaseId : String) (evidence : OperationEvidence) : TaskProg Unit := do
  call fun s o => if o.fault = .before then (.error lostReply, s)
    else (.ok (), { s with outbox := s.outbox ++ [(leaseId, evidence)] })
  Prog.await .answer (fun s o => o.expired || s.outbox.isEmpty) fun s o =>
    (if o.expired ∨ s.outbox ≠ [] then .error ⟨.rayError, "GetTimeoutError"⟩
      else if o.fault ≠ .none then .error lostReply else s.answer, s)

/-- `_advance_lease` (:87). -/
def advanceLease (command : OperationCommand) (evidence : OperationEvidence) : TaskProg Unit :=
  (advanceOnce command.leaseId evidence).tryCatch fun _ => advanceOnce command.leaseId evidence

/-- `journal.finish`; a resolved operation leaves `clears` attempts to clear its binding. -/
def finishRecord (operationId : String) (status : OperationStatus) (result : Option String)
    (clears : Nat) (s : TaskState) (_ : Choice) : Except PyErr Unit × TaskState :=
  match s.journal.finish operationId status result with
  | .error e => (.error e, s)
  | .ok (_, j) => (.ok (), { s with
      journal := j
      closing := if status.resolved then ⟨operationId, clears⟩ :: s.closing else s.closing })

/-- `_finish` (:110). -/
def finish (operationId : String) (status : OperationStatus) (result : String) : TaskProg Unit :=
  call (finishRecord operationId status (some result) 2)

/-- `_finish_failed_release` (:140) on evidence that is RELEASED. -/
def finishFailedRelease (command : OperationCommand) (evidence : OperationEvidence)
    (message : String) : TaskProg Unit := do
  let released ← Prog.ofExcept
    (requireOperationEvidence evidence command.operationId .released "operation")
  advanceLease command released
  finish command.operationId .failed message

/-- The start of `_execute_operation` (:255-267): the command, and whether this is a replay. -/
def openRecord (operationId : String) (s : TaskState) (_ : Choice) :
    Except PyErr (OperationCommand × Bool) × TaskState :=
  match s.journal.command operationId with
  | .error e => (.error e, s)
  | .ok command =>
    let reconciling := (s.journal.query operationId).any fun r => r.status = .unknown
    match (if reconciling then s.journal.reopenUnknown operationId
      else s.journal.markRunning operationId) with
    | .error e => (.error e, s)
    | .ok (_, j) => (.ok (command, reconciling), { s with journal := j })

/-- The ADD branch (:272-310). -/
def executeAdd (d : Deployment) (command : OperationCommand) : TaskProg Unit := do
  let operationId := command.operationId
  let lease ← peek fun s => match s.operationLeases.get? operationId with
    | none => .error (.runtimeError "ADD lost its immutable Lease snapshot")
    | some lease => .ok lease
  match buildBorrowedSpec command lease with
  | .error _ => call (finishRecord operationId .failed (some "ADD placement validation failed") 0)
  | .ok spec =>
    match ← rpc (prepareReplica d command.target operationId (some spec)) with
    | .released evidence =>
      finishFailedRelease command evidence "ADD prepare failed; no borrower runtime remains"
    | _ =>
      let evidence ← rpc (bootstrapAndPublish d operationId)
      if evidence.type = .released then
        finishFailedRelease command evidence
          "ADD bootstrap failed; hidden runtime was verified RELEASED"
      else do
        let _ ← Prog.ofExcept
          (requireOperationEvidence evidence operationId .serviceCommitted "operation")
        finish operationId .succeeded "SERVICE_COMMITTED"

/-- `prepare_exit` and what an error of it comes to (:347-387): `none` when the operation ends
here, rejected before anything was bound. -/
def drainTarget (d : Deployment) (command : OperationCommand) : TaskProg (Option Unit) :=
  let operationId := command.operationId
  Prog.bind (rpc (prepareExit d command.target operationId (command.force.getD false))).result fun
    | .ok evidence => do
      let _ ← Prog.ofExcept (requireOperationEvidence evidence operationId .exitReady "operation")
      return some ()
    | .error e =>
      Prog.bind (rpc (peek fun s => getPendingTarget s operationId)).result fun
        | .ok _ => raise e
        | .error query =>
          if query.kind ≠ .keyError then
            raise (.runtimeError "exit target binding query is inconclusive")
          else do
            finish operationId .failed "exit preflight rejected before owner mutation"
            return none

/-- The end of an exit: release, report, finish (:392-404, :431). -/
def releaseTarget (d : Deployment) (command : OperationCommand) (service : OperationEvidence) :
    TaskProg Unit := do
  let operationId := command.operationId
  let _ ← Prog.ofExcept
    (requireOperationEvidence service operationId .serviceCommitted "operation")
  let released ← rpc (finalizeRelease d operationId)
  let released ← Prog.ofExcept
    (requireOperationEvidence released operationId .released "operation")
  advanceLease command released
  finish operationId .succeeded "RELEASED"

/-- The ordinary exit path (:346-404). -/
def drainAndRelease (d : Deployment) (command : OperationCommand) : TaskProg Unit := do
  match ← drainTarget d command with
  | none => return ()
  | some () =>
    let service ← rpc (removeAndCommit d command.operationId)
    releaseTarget d command service

/-- The DONATE/REMOVE branch (:312-404). -/
def executeExit (d : Deployment) (command : OperationCommand) (reconciling : Bool) :
    TaskProg Unit := do
  let operationId := command.operationId
  if reconciling = false then drainAndRelease d command
  else
    match ← rpc (queryReleaseOperation command.target operationId) with
    | some prior =>
      let released ← Prog.ofExcept
        (requireOperationEvidence prior operationId .released "operation")
      advanceLease command released
      finish operationId .succeeded "RELEASED"
    | none =>
      match ← rpc (reconcileExit d operationId) with
      | some service => releaseTarget d command service
      | none => drainAndRelease d command

/-- The RESTORE branch (:406-426). -/
def executeRestore (d : Deployment) (command : OperationCommand) : TaskProg Unit := do
  let operationId := command.operationId
  let _ ← rpc (prepareReplica d command.target operationId none)
  let evidence ← rpc (restoreAndPublish d operationId)
  if evidence.type = .released then
    finishFailedRelease command evidence
      "RESTORE bootstrap failed; native runtime was verified re-slept"
  else do
    let committed ← Prog.ofExcept
      (requireOperationEvidence evidence operationId .serviceCommitted "operation")
    advanceLease command committed
    finish operationId .succeeded "SERVICE_COMMITTED"

/-- The branches of `_execute_operation`. -/
def lifecycle (d : Deployment) (command : OperationCommand) (reconciling : Bool) : TaskProg Unit :=
  match command.kind with
  | .add => executeAdd d command
  | .donate | .remove => executeExit d command reconciling
  | .restore => executeRestore d command

/-- The outer `except` (:437-450). -/
def markUnknown (operationId : String) (e : PyErr) (s : TaskState) (_ : Choice) :
    Except PyErr Unit × TaskState :=
  match s.journal.query operationId with
  | none => (.ok (), s)
  | some current =>
    if current.status.terminal then (.ok (), s)
    else match s.journal.finish operationId .unknown (some e.message) with
      | .error e => (.error e, s)
      | .ok (_, j) => (.ok (), { s with journal := j })

/-- `_execute_operation` (:253). -/
def executeOperation (d : Deployment) (operationId : String) : TaskProg Unit :=
  Prog.tryCatch
    ((call (openRecord operationId)).bind fun (command, reconciling) =>
      lifecycle d command reconciling)
    fun e => call (markUnknown operationId e)

/-- `submit_operation` up to the launch (:182-216): the journal, and whether to start a thread.
`busy` when the operation already has one. -/
def submitOperation (d : Deployment) (command : OperationCommand) (lease : Option Lease)
    (busy : Bool) (s : TaskState) : Except PyErr Bool × TaskState :=
  if lease.any fun l => l.leaseId ≠ command.leaseId then
    (.error (.valueError "lease snapshot does not match command.lease_id"), s)
  else if command.kind = .add ∧ lease.isNone then
    (.error (.valueError "ADD requires the GS-resolved Lease snapshot"), s)
  else if command.target.taskSession ≠ d.taskSession then
    (.error (.valueError "operation targets another task session"), s)
  else
    let existing := s.journal.query command.operationId
    match s.journal.begin command with
    | .error e => (.error e, s)
    | .ok (_, j) =>
      let s := { s with journal := j }
      let launch := existing = none ∨ ((existing.any fun r => r.status = .unknown) ∧ busy = false)
      match command.kind, lease with
      | .add, some lease =>
        let previous := s.operationLeases.get? command.operationId
        if previous.any fun l => ¬ l.same lease then
          (.error (.valueError "conflicting lease snapshot replay"), s)
        else (.ok launch, { s with
          operationLeases := s.operationLeases.setDefault command.operationId lease })
      | _, _ => (.ok launch, s)

/-- A thread that could not be started (:224-237). -/
def launchFailed (operationId : String) (replay : Bool) (s : TaskState) : TaskState :=
  if replay then s
  else
    let s := { s with operationLeases := s.operationLeases.erase operationId }
    match s.journal.finish operationId .failed (some "failed to launch lifecycle worker") with
    | .error _ => s
    | .ok (_, j) => { s with journal := j }

end TaskRunner

end ReplicaLending
