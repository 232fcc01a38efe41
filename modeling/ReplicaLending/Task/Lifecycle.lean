import ReplicaLending.Task.TaskRunner
/-!
# `_execute_operation` as a sequence of remote calls

The branches of `_execute_operation` between the critical section that opens the record
(task_runner.py:255-267) and the handlers around it (:437-461), as a tree: a remote call, then what
the thread does with any reply of it. What the owners do is left open here; `Body.run` puts programs
of theirs in and gives back the branches of `Task.TaskRunner` (`addBody_run`, …).

| here | there |
| --- | --- |
| `addBody`     | the ADD branch (:272-310) |
| `exitBody`    | the DONATE/REMOVE branch (:312-404) |
| `restoreBody` | the RESTORE branch (:406-426) |
| `Body.finish` | `_finish` (:110), or `journal.finish` alone when it clears nothing |
-/

namespace ReplicaLending

/-- The reply to a remote call: evidence, or something that is none. -/
abbrev Reply := Except PyErr (Option OperationEvidence)

/-- A call of the lifecycle thread on another actor; the target and the operation are the command's. -/
inductive Remote
  | prepareReplica (spec : Option BorrowedSpec)
  | bootstrapAndPublish | restoreAndPublish
  | queryReleaseOperation | reconcileExit
  | prepareExit | getPendingTarget
  | removeAndCommit | finalizeRelease
  | advanceLease (evidence : OperationEvidence)

/-- The rest of a lifecycle thread. -/
inductive Body
  | call (c : Remote) (next : Reply → Body)
  | finish (status : OperationStatus) (result : String) (clears : Nat)
  | raise (e : PyErr)

namespace Body

/-- A call whose exception nobody catches here. -/
def ask (c : Remote) (next : Option OperationEvidence → Body) : Body :=
  call c fun
    | .ok value => next value
    | .error e => raise e

/-- `_require_evidence`. -/
def demand (operationId : String) (expected : EvidenceType) (value : Option OperationEvidence)
    (next : OperationEvidence → Body) : Body :=
  match value with
  | none => raise (.typeError "operation did not return OperationEvidence")
  | some evidence =>
    match requireOperationEvidence evidence operationId expected "operation" with
    | .error e => raise e
    | .ok evidence => next evidence

/-- `_advance_lease` (task_runner.py:87): the second attempt sends the same evidence. -/
def advance (evidence : OperationEvidence) (next : Body) : Body :=
  call (.advanceLease evidence) fun
    | .ok _ => next
    | .error _ => ask (.advanceLease evidence) fun _ => next

/-- `_finish_failed_release` (:140), and what follows it when it returns `False`. -/
def failedRelease (operationId message : String) (value : Option OperationEvidence) (next : Body) :
    Body :=
  match value with
  | none => next
  | some evidence =>
    if evidence.type = .released then
      demand operationId .released (some evidence) fun released =>
        advance released (finish .failed message 2)
    else next

end Body

open Body

/-- The ADD branch once its runtime is prepared (:296-310, :431). -/
def publishBody (command : OperationCommand) : Body :=
  ask .bootstrapAndPublish fun evidence =>
    failedRelease command.operationId "ADD bootstrap failed; hidden runtime was verified RELEASED"
        evidence <|
      demand command.operationId .serviceCommitted evidence fun _ =>
        finish .succeeded "SERVICE_COMMITTED" 2

/-- The ADD branch (:272-310). -/
def addBody (command : OperationCommand) : Option Lease → Body
  | none => raise (.runtimeError "ADD lost its immutable Lease snapshot")
  | some lease =>
    match TaskRunner.buildBorrowedSpec command lease with
    | .error _ => finish .failed "ADD placement validation failed" 0
    | .ok spec =>
      ask (.prepareReplica (some spec)) fun prepared =>
        failedRelease command.operationId "ADD prepare failed; no borrower runtime remains" prepared
          (publishBody command)

/-- The end of an exit: release, report, finish (:387-404, :431). -/
def releaseBody (command : OperationCommand) (service : Option OperationEvidence) : Body :=
  demand command.operationId .serviceCommitted service fun _ =>
    ask .finalizeRelease fun released =>
      demand command.operationId .released released fun released =>
        advance released (finish .succeeded "RELEASED" 2)

/-- The ordinary exit path (:346-386): a `prepare_exit` that raised and left no binding was rejected
before it changed anything. -/
def drainBody (command : OperationCommand) : Body :=
  call .prepareExit fun
    | .ok evidence => demand command.operationId .exitReady evidence fun _ =>
        ask .removeAndCommit fun service => releaseBody command service
    | .error e => call .getPendingTarget fun
      | .ok _ => raise e
      | .error query =>
        if query.kind ≠ .keyError then
          raise (.runtimeError "exit target binding query is inconclusive")
        else finish .failed "exit preflight rejected before owner mutation" 2

/-- The DONATE/REMOVE branch (:312-404). -/
def exitBody (command : OperationCommand) (reconciling : Bool) : Body :=
  if reconciling = false then drainBody command
  else ask .queryReleaseOperation fun
    | some prior => demand command.operationId .released (some prior) fun released =>
        advance released (finish .succeeded "RELEASED" 2)
    | none => ask .reconcileExit fun
      | some service => releaseBody command (some service)
      | none => drainBody command

/-- The RESTORE branch once its target is bound (:412-426, :431). -/
def republishBody (command : OperationCommand) : Body :=
  ask .restoreAndPublish fun evidence =>
    failedRelease command.operationId "RESTORE bootstrap failed; native runtime was verified re-slept"
        evidence <|
      demand command.operationId .serviceCommitted evidence fun committed =>
        advance committed (finish .succeeded "SERVICE_COMMITTED" 2)

/-- The RESTORE branch (:406-426). -/
def restoreBody (command : OperationCommand) : Body :=
  ask (.prepareReplica none) fun _ => republishBody command

/-- The branches of `_execute_operation`. -/
def lifecycleBody (command : OperationCommand) (lease : Option Lease) (reconciling : Bool) : Body :=
  match command.kind with
  | .add => addBody command lease
  | .donate | .remove => exitBody command reconciling
  | .restore => restoreBody command

/-! ## The branches of `Task.TaskRunner` -/

open TaskProg TaskRunner Rollouter Trainer

/-- The calls on the owners' programs. -/
def Remote.perform (d : Deployment) (command : OperationCommand) :
    Remote → TaskProg (Option OperationEvidence)
  | .prepareReplica spec =>
    (rpc (Rollouter.prepareReplica d command.target command.operationId spec)).bind fun
      | Prepared.released evidence => .ret (some evidence)
      | _ => .ret none
  | .bootstrapAndPublish =>
    (rpc (Trainer.bootstrapAndPublish d command.operationId)).bind fun e => .ret (some e)
  | .restoreAndPublish =>
    (rpc (Trainer.restoreAndPublish d command.operationId)).bind fun e => .ret (some e)
  | .queryReleaseOperation => rpc (Rollouter.queryReleaseOperation command.target command.operationId)
  | .reconcileExit => rpc (Trainer.reconcileExit d command.operationId)
  | .prepareExit =>
    (rpc (Rollouter.prepareExit d command.target command.operationId
      (command.force.getD false))).bind fun e => .ret (some e)
  | .getPendingTarget =>
    (rpc (peek fun s => Rollouter.getPendingTarget s command.operationId)).bind fun _ => .ret none
  | .removeAndCommit =>
    (rpc (Trainer.removeAndCommit d command.operationId)).bind fun e => .ret (some e)
  | .finalizeRelease =>
    (rpc (Rollouter.finalizeRelease d command.operationId)).bind fun e => .ret (some e)
  | .advanceLease evidence => (advanceOnce command.leaseId evidence).bind fun _ => .ret none

namespace Body

variable (d : Deployment) (command : OperationCommand)

/-- The thread with programs for its calls. -/
def run : Body → TaskProg Unit
  | call c next => (c.perform d command).result.bind fun r => (next r).run
  | finish status result clears =>
    TaskProg.call (finishRecord command.operationId status (some result) clears)
  | raise e => TaskProg.raise e

theorem run_ask (c : Remote) (next : Option OperationEvidence → Body) :
    (ask c next).run d command = (c.perform d command).bind fun v => (next v).run d command := by
  rw [Prog.bind_eq_result]
  show (c.perform d command).result.bind _ = _
  congr 1
  funext r
  cases r <;> rfl

theorem run_demand (expected : EvidenceType) (evidence : OperationEvidence)
    (next : OperationEvidence → Body) :
    (demand command.operationId expected (some evidence) next).run d command =
      (Prog.ofExcept (requireOperationEvidence evidence command.operationId expected
        "operation")).bind fun e => (next e).run d command := by
  simp only [demand]
  cases requireOperationEvidence evidence command.operationId expected "operation" <;> rfl

theorem run_advance (evidence : OperationEvidence) (next : Body) :
    (advance evidence next).run d command =
      (advanceLease command evidence).bind fun _ => next.run d command := by
  unfold advance advanceLease Prog.tryCatch
  rw [Prog.bind_assoc]
  show ((advanceOnce command.leaseId evidence).bind fun _ => .ret none).result.bind _ = _
  rw [Prog.result_bind, Prog.bind_assoc]
  congr 1
  funext r
  cases r with
  | ok a => rfl
  | error e =>
    show (ask (.advanceLease evidence) fun _ => next).run d command = _
    rw [run_ask]
    exact Prog.bind_assoc ..

theorem run_failedRelease_released (message : String) {evidence : OperationEvidence} (next : Body)
    (h : evidence.type = .released) :
    (failedRelease command.operationId message (some evidence) next).run d command =
      finishFailedRelease command evidence message := by
  simp only [failedRelease, if_pos h, run_demand, run_advance]
  rfl

theorem run_failedRelease (message : String) {evidence : OperationEvidence} (next : Body)
    (h : evidence.type ≠ .released) :
    (failedRelease command.operationId message (some evidence) next).run d command =
      next.run d command := by
  simp only [failedRelease, if_neg h]

end Body

variable (d : Deployment) (command : OperationCommand)

theorem publishBody_run :
    (publishBody command).run d command =
      (rpc (Trainer.bootstrapAndPublish d command.operationId)).bind fun evidence =>
        if evidence.type = .released then finishFailedRelease command evidence
          "ADD bootstrap failed; hidden runtime was verified RELEASED"
        else (Prog.ofExcept (requireOperationEvidence evidence command.operationId .serviceCommitted
          "operation")).bind fun _ => TaskRunner.finish command.operationId .succeeded
            "SERVICE_COMMITTED" := by
  simp only [publishBody, Body.run_ask, Remote.perform, Prog.bind_assoc, Prog.bind]
  congr 1
  funext evidence
  split
  · rename_i he
    rw [Body.run_failedRelease_released _ _ _ _ he]
  · rename_i he
    rw [Body.run_failedRelease _ _ _ _ he, Body.run_demand]
    rfl

/-- A compensation of `prepare_replica` is RELEASED evidence. -/
def Genuine : Prepared → Prop
  | .released evidence => evidence.type = .released
  | _ => True

theorem compensateAdd_genuine {key : ReplicaKey} {operationId : String} {spec : BorrowedSpec}
    {e : PyErr} {s : TaskState} {o : Choice} {prepared : Prepared}
    (h : (compensateAdd key operationId spec e s o).1 = .ok prepared) : Genuine prepared := by
  unfold compensateAdd at h
  dsimp only at h
  split at h
  · split at h
    · cases h
    · split at h
      · cases h
      · rename_i evidence he
        cases h
        exact (OperationEvidence.now_ok he).2.1
  · cases h

theorem prepareReplica_genuine (key : ReplicaKey) (operationId : String) (spec : BorrowedSpec) :
    (rpc (Rollouter.prepareReplica d key operationId (some spec))).Yields Genuine := by
  have hbody : (Rollouter.prepareReplica d key operationId (some spec)).Yields Genuine := by
    refine Prog.Yields.bind .trivial fun _ _ => Prog.Yields.bind (P := fun r => ∀ a, r = .ok a →
      Genuine a) (Prog.Yields.result ?_) fun r hr => ?_
    · exact Prog.Yields.bind .trivial fun _ _ => trivial
    · cases r with
      | ok prepared => exact hr prepared rfl
      | error e => exact .call fun s o a ha => compensateAdd_genuine ha
  refine Prog.Yields.bind .trivial fun _ _ => Prog.Yields.bind hbody.result fun r hr => .call ?_
  intro s o a ha
  split at ha
  · cases ha
  · exact hr a ha

/-- The ADD branch looks its lease up and goes on with `addBody`. -/
theorem executeAdd_eq :
    executeAdd d command =
      (peek fun s => match s.operationLeases.get? command.operationId with
        | none => .error (.runtimeError "ADD lost its immutable Lease snapshot")
        | some lease => .ok lease).bind fun lease => (addBody command (some lease)).run d command := by
  show Prog.bind _ _ = _
  congr 1
  funext lease
  cases hs : buildBorrowedSpec command lease with
  | error e =>
    simp only [addBody, hs]
    rfl
  | ok spec =>
    simp only [addBody, hs, Body.run_ask, Remote.perform, Prog.bind_assoc]
    refine (prepareReplica_genuine d command.target command.operationId spec).congr ?_
    intro prepared hp
    cases prepared with
    | released evidence => exact (Body.run_failedRelease_released d command _ _ hp).symm
    | bound => exact (publishBody_run d command).symm
    | runtime address => exact (publishBody_run d command).symm

theorem releaseBody_run (service : OperationEvidence) :
    (releaseBody command (some service)).run d command = releaseTarget d command service := by
  simp only [releaseBody, Body.run_demand, Body.run_ask, Remote.perform, Prog.bind_assoc, Prog.bind,
    Body.run_advance]
  rfl

theorem drainBody_run : (drainBody command).run d command = drainAndRelease d command := by
  show ((rpc _).bind fun e => Prog.ret (some e)).result.bind _ =
    Prog.bind (Prog.bind (rpc _).result _) _
  rw [Prog.result_bind, Prog.bind_assoc, Prog.bind_assoc]
  congr 1
  funext r
  cases r with
  | ok evidence =>
    show (demand command.operationId .exitReady (some evidence) _).run d command = Prog.bind _ _
    simp only [Body.run_demand, Body.run_ask, Remote.perform, Prog.bind_assoc, Prog.bind,
      releaseBody_run]
    show Prog.bind _ _ = Prog.bind (Prog.bind _ _) _
    rw [Prog.bind_assoc]
    rfl
  | error e =>
    show ((rpc _).bind fun _ => Prog.ret none).result.bind _ = Prog.bind (Prog.bind _ _) _
    rw [Prog.result_bind, Prog.bind_assoc, Prog.bind_assoc]
    congr 1
    funext q
    cases q with
    | ok target => rfl
    | error query =>
      show Body.run d command (if _ then _ else _) = Prog.bind (if _ then _ else _) _
      split
      · rfl
      · exact ((Prog.bind_assoc ..).trans (Prog.bind_ret _)).symm

theorem executeExit_eq (reconciling : Bool) :
    executeExit d command reconciling = (exitBody command reconciling).run d command := by
  cases reconciling with
  | false => exact (drainBody_run d command).symm
  | true =>
    simp only [exitBody, Bool.true_eq_false, if_false, Body.run_ask, Remote.perform]
    show Prog.bind _ _ = _
    congr 1
    funext prior
    cases prior with
    | some prior =>
      simp only [Body.run_demand, Body.run_advance]
      rfl
    | none =>
      simp only [Body.run_ask, Remote.perform]
      show Prog.bind _ _ = _
      congr 1
      funext service
      cases service with
      | some service => exact (releaseBody_run d command service).symm
      | none => exact (drainBody_run d command).symm

theorem republishBody_run :
    (republishBody command).run d command =
      (rpc (Trainer.restoreAndPublish d command.operationId)).bind fun evidence =>
        if evidence.type = .released then finishFailedRelease command evidence
          "RESTORE bootstrap failed; native runtime was verified re-slept"
        else (Prog.ofExcept (requireOperationEvidence evidence command.operationId .serviceCommitted
          "operation")).bind fun committed => (advanceLease command committed).bind fun _ =>
            TaskRunner.finish command.operationId .succeeded "SERVICE_COMMITTED" := by
  simp only [republishBody, Body.run_ask, Remote.perform, Prog.bind_assoc, Prog.bind]
  congr 1
  funext evidence
  split
  · rename_i he
    rw [Body.run_failedRelease_released _ _ _ _ he]
  · rename_i he
    simp only [Body.run_failedRelease _ _ _ _ he, Body.run_demand, Body.run_advance]
    rfl

theorem executeRestore_eq :
    executeRestore d command = (restoreBody command).run d command := by
  simp only [restoreBody, Body.run_ask, Remote.perform, Prog.bind_assoc]
  show Prog.bind _ _ = _
  congr 1
  funext prepared
  cases prepared <;> exact (republishBody_run d command).symm

end ReplicaLending
