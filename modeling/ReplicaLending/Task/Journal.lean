import ReplicaLending.Contracts
/-!
# `OperationJournal` (`orchestration/operation_journal.py`)

The TaskRunner's journal: operation ids are bound to their command for ever, and a task session has
at most one operation that is neither SUCCEEDED nor FAILED. An UNKNOWN operation is still
unfinished; it is the only one that may be reopened.
-/

namespace ReplicaLending

structure OperationJournal where
  records : Dict String OperationRecord
  commands : Dict String OperationCommand
  activeByTask : Dict String String

def operationIdentityError (m : String) : PyErr := ⟨.operationIdentityError, m⟩

/-- `status in _TERMINAL` (:12). -/
def OperationStatus.terminal : OperationStatus → Bool
  | .succeeded | .failed | .unknown => true
  | .accepted | .running => false

/-- `status in _RESOLVED` (:17). -/
def OperationStatus.resolved : OperationStatus → Bool
  | .succeeded | .failed => true
  | .accepted | .running | .unknown => false

namespace OperationJournal

def init : OperationJournal := ⟨∅, ∅, ∅⟩

/-- `query` (:61). -/
def query (j : OperationJournal) (operationId : String) : Option OperationRecord :=
  j.records.get? operationId

/-- `command` (:64). -/
def command (j : OperationJournal) (operationId : String) : Except PyErr OperationCommand :=
  match j.commands.get? operationId with
  | some c => .ok c
  | none => .error (.keyError operationId)

/-- `begin` (:34). -/
def begin (j : OperationJournal) (command : OperationCommand) :
    Except PyErr (OperationRecord × OperationJournal) :=
  match j.records.get? command.operationId with
  | some existing =>
    if j.commands.get? command.operationId ≠ some command then .error
      (operationIdentityError ("conflicting replay for operation " ++ command.operationId))
    else .ok (existing, j)
  | none =>
    let task := command.target.taskSession
    let record : OperationRecord := ⟨command.operationId, .accepted, none⟩
    let fresh := { j with
      commands := j.commands.insert command.operationId command
      records := j.records.insert command.operationId record
      activeByTask := j.activeByTask.insert task command.operationId }
    match j.activeByTask.get? task with
    | none => .ok (record, fresh)
    | some activeId => match j.records.get? activeId with
      | none => .error (.keyError activeId)
      | some active =>
        if active.status.resolved then .ok (record, fresh)
        else .error (operationIdentityError ("another lifecycle operation is active: " ++ activeId))

def setRecord (j : OperationJournal) (r : OperationRecord) : OperationJournal :=
  { j with records := j.records.insert r.operationId r }

/-- `mark_running` (:67). -/
def markRunning (j : OperationJournal) (operationId : String) :
    Except PyErr (OperationRecord × OperationJournal) :=
  match j.records.get? operationId with
  | none => .error (.keyError operationId)
  | some record =>
    if record.status.terminal then
      .error (operationIdentityError "terminal operation cannot return to RUNNING")
    else
      let record := { record with operationId, status := .running }
      .ok (record, j.setRecord record)

/-- `reopen_unknown` (:76). -/
def reopenUnknown (j : OperationJournal) (operationId : String) :
    Except PyErr (OperationRecord × OperationJournal) :=
  match j.records.get? operationId with
  | none => .error (.keyError operationId)
  | some record =>
    if record.status ≠ .unknown then
      .error (operationIdentityError "only UNKNOWN operation may be reconciled")
    else
      let record : OperationRecord := ⟨operationId, .running, none⟩
      .ok (record, j.setRecord record)

/-- `finish` (:85). -/
def finish (j : OperationJournal) (operationId : String) (status : OperationStatus)
    (result : Option String) : Except PyErr (OperationRecord × OperationJournal) :=
  if ¬ status.terminal then
    .error (.valueError "finish requires SUCCEEDED, FAILED, or UNKNOWN")
  else match j.records.get? operationId with
    | none => .error (.keyError operationId)
    | some record =>
      if record.status.terminal then
        if record.status ≠ status ∨ record.result ≠ result then
          .error (operationIdentityError "conflicting terminal replay")
        else .ok (record, j)
      else match j.commands.get? operationId with
        | none => .error (.keyError operationId)
        | some command =>
          let record : OperationRecord := ⟨operationId, status, result⟩
          let j := j.setRecord record
          .ok (record, if status.resolved ∧
              j.activeByTask.get? command.target.taskSession = some operationId then
            { j with activeByTask := j.activeByTask.erase command.target.taskSession } else j)

/-- The unfinished operation of a task session. -/
def current (j : OperationJournal) (task : String) : Option OperationCommand :=
  match j.activeByTask.get? task with
  | none => none
  | some o => match j.records.get? o with
    | some r => if r.status.resolved then none else j.commands.get? o
    | none => none

end OperationJournal

end ReplicaLending
