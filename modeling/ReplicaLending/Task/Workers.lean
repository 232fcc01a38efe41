import ReplicaLending.Task.JournalMachine
import ReplicaLending.Task.Lifecycle
/-!
# Lifecycle workers

The part of a TaskRunner that submitters and lifecycle threads share: the journal, the thread table
and the lease snapshots. A step is one critical section under `_journal_lock`, or one reply of a
remote call; submitters and workers take steps in any order, and a remote call may be answered with
anything at any time.

| here | there (`task_runner.py`) |
| --- | --- |
| `submitOperation` | `submit_operation` (:176-238), `_launch_operation` (:160) |
| `start`           | the first critical section of `_execute_operation` (:255-267) |
| `answer`          | one remote call of its branches |
| `finish`          | the critical section of `_finish` (:116), or `journal.finish` (:279) |
| `handle`          | the outer `except` (:437-450) |
| `close`           | the `finally` (:456-461) |

A worker is in `workers` from the moment its thread object is created, so a thread that could not be
started is one too: it is gone from the beginning.
-/

namespace ReplicaLending

/-- Where a lifecycle thread is. -/
inductive ThreadPhase
  /-- Created; its first critical section lies ahead. -/
  | started
  /-- Between marking its operation RUNNING and finishing it, with the code that is left. -/
  | running (rest : Body)
  /-- An exception has reached the outer `except`, before or after the operation was finished. -/
  | caught (e : PyErr) (finished : Bool)
  /-- The operation is finished, with the attempts left to clear its binding. -/
  | finished (clears : Nat)
  | gone

/-- A thread of `_launch_operation`; `fresh` when its operation had no record before. -/
structure Worker where
  operationId : String
  fresh : Bool
  phase : ThreadPhase

namespace ThreadPhase

/-- Not yet out of its `finally`. -/
def alive : ThreadPhase → Bool
  | gone => false
  | _ => true

/-- After marking the operation RUNNING and before finishing it. -/
def busy : ThreadPhase → Bool
  | running _ | caught _ false => true
  | _ => false

/-- The operation may still be executed by this thread. -/
def executes : ThreadPhase → Bool
  | started => true
  | p => p.busy

/-- What the record says while a thread is in the phase. -/
def Fits : ThreadPhase → OperationStatus → Prop
  | started, status => status = .accepted ∨ status = .unknown
  | running _, status => status = .running
  | caught _ false, status => status.resolved = false
  | caught _ true, status => status.terminal = true
  | finished _, status => status.terminal = true
  | gone, _ => True

end ThreadPhase

/-- The TaskRunner's own state (:38-47). -/
structure ControlPlane where
  controlReady : Bool
  journal : OperationJournal
  operationThreads : Dict String Nat
  operationLeases : Dict String Lease
  workers : List Worker

namespace ControlPlane

open OperationJournal

def init : ControlPlane := ⟨false, .init, ∅, ∅, []⟩

/-! ## Submitting -/

/-- The thread of `_launch_operation` and its entry in the thread table. -/
def launched (operationId : String) (fresh : Bool) (phase : ThreadPhase) (s : ControlPlane) :
    ControlPlane :=
  { s with
    operationThreads := s.operationThreads.insert operationId s.workers.length
    workers := s.workers ++ [⟨operationId, fresh, phase⟩] }

/-- The `except` of the launch (:224-237). -/
def launchFailed (operationId : String) (replay : Bool) (s : ControlPlane) : ControlPlane :=
  let s := { s with operationThreads := s.operationThreads.erase operationId }
  if replay then s
  else { s with
    operationLeases := s.operationLeases.erase operationId
    journal := OperationJournal.apply
      (.finish operationId .failed (some "failed to launch lifecycle worker")) s.journal }

/-- The lease snapshot of an ADD (:200-204). -/
def keepLease (command : OperationCommand) (lease : Option Lease) (s : ControlPlane) :
    Except PyErr ControlPlane :=
  match command.kind, lease with
  | .add, some lease =>
    if (s.operationLeases.get? command.operationId).any fun previous => ¬ previous.same lease then
      .error (.valueError "conflicting lease snapshot replay")
    else .ok { s with
      operationLeases := s.operationLeases.setDefault command.operationId lease }
  | _, _ => .ok s

/-- `submit_operation` once the record is there (:200-238); `failure` is what `worker.start()`
raises. -/
def dispatch (command : OperationCommand) (lease : Option Lease) (failure : Option PyErr)
    (existing : Option OperationRecord) (record : OperationRecord) (s : ControlPlane) :
    Except PyErr OperationRecord × ControlPlane :=
  match s.keepLease command lease with
  | .error e => (.error e, s)
  | .ok s =>
    let replay := (existing.any fun r => r.status = .unknown) &&
      !s.operationThreads.contains command.operationId
    if existing.isNone || replay then
      match failure with
      | none => (.ok record, s.launched command.operationId existing.isNone .started)
      | some e => (.error e,
          (s.launched command.operationId existing.isNone .gone).launchFailed
            command.operationId replay)
    else (.ok record, s)

/-- `submit_operation` (:176). -/
def submitOperation (session : String) (command : OperationCommand) (lease : Option Lease)
    (failure : Option PyErr) (s : ControlPlane) : Except PyErr OperationRecord × ControlPlane :=
  if lease.any fun l => l.leaseId ≠ command.leaseId then
    (.error (.valueError "lease snapshot does not match command.lease_id"), s)
  else if command.kind = .add ∧ lease.isNone then
    (.error (.valueError "ADD requires the GS-resolved Lease snapshot"), s)
  else if s.controlReady = false then
    (.error (.runtimeError "TaskRunner control plane is not ready"), s)
  else if command.target.taskSession ≠ session then
    (.error (.valueError "operation targets another task session"), s)
  else
    match call (.begin command) s.journal with
    | (.error e, j) => (.error e, { s with journal := j })
    | (.ok record, j) =>
      { s with journal := j }.dispatch command lease failure
        (s.journal.query command.operationId) record

/-! ## The threads -/

/-- The `i`-th worker goes on to `phase`. -/
def moved (s : ControlPlane) (i : Nat) (w : Worker) (phase : ThreadPhase) : ControlPlane :=
  { s with workers := s.workers.set i { w with phase } }

/-- `reopen_unknown` or `mark_running` (:263-266). -/
def openCall (operationId : String) (reconciling : Bool) : Call :=
  if reconciling then .reopenUnknown operationId else .markRunning operationId none

/-- The first critical section of a thread. -/
def start (i : Nat) (w : Worker) (s : ControlPlane) : ControlPlane :=
  match s.journal.command w.operationId with
  | .error e => s.moved i w (.caught e false)
  | .ok command =>
    let reconciling := (s.journal.query w.operationId).any fun r => r.status = .unknown
    match call (openCall w.operationId reconciling) s.journal with
    | (.error e, j) => { s with journal := j }.moved i w (.caught e false)
    | (.ok _, j) => { s with journal := j }.moved i w
        (.running (lifecycleBody command (s.operationLeases.get? w.operationId) reconciling))

def finish (i : Nat) (w : Worker) (status : OperationStatus) (result : String) (clears : Nat)
    (s : ControlPlane) : ControlPlane :=
  match call (.finish w.operationId status (some result)) s.journal with
  | (.error e, j) => { s with journal := j }.moved i w (.caught e false)
  | (.ok _, j) => { s with journal := j }.moved i w (.finished clears)

/-- The outer `except`. -/
def handle (i : Nat) (w : Worker) (e : PyErr) (s : ControlPlane) : ControlPlane :=
  match s.journal.query w.operationId with
  | none => s.moved i w (.finished 0)
  | some current =>
    if current.status.terminal then s.moved i w (.finished 0)
    else { s with
      journal := OperationJournal.apply (.finish w.operationId .unknown (some e.message)) s.journal }.moved
        i w (.finished 0)

/-- The `finally`. -/
def close (i : Nat) (w : Worker) (s : ControlPlane) : ControlPlane :=
  let s := { s with operationThreads := s.operationThreads.erase w.operationId }.moved i w .gone
  if (s.journal.query w.operationId).any fun r => r.status = .unknown then s
  else { s with operationLeases := s.operationLeases.erase w.operationId }

/-! ## The machine -/

inductive Act
  | setReady (ready : Bool)
  | submit (command : OperationCommand) (lease : Option Lease) (failure : Option PyErr)
  | start (i : Nat)
  /-- A remote call of the `i`-th worker is answered, or its reply lost. -/
  | answer (i : Nat) (reply : Reply)
  /-- An exception comes up anywhere else in the thread. -/
  | raise (i : Nat) (e : PyErr)
  | finish (i : Nat)
  | handle (i : Nat)
  | close (i : Nat)

/-- What a worker's step does; a step that is not its next one does nothing. -/
def work (i : Nat) (w : Worker) (s : ControlPlane) : Act → ControlPlane
  | .start _ => match w.phase with
    | .started => s.start i w
    | _ => s
  | .answer _ reply => match w.phase with
    | .running (.call _ next) => s.moved i w (.running (next reply))
    | _ => s
  | .raise _ e => match w.phase with
    | .started | .running _ => s.moved i w (.caught e false)
    | .finished _ => s.moved i w (.caught e true)
    | _ => s
  | .finish _ => match w.phase with
    | .running (.finish status result clears) => s.finish i w status result clears
    | _ => s
  | .handle _ => match w.phase with
    | .caught e _ => s.handle i w e
    | _ => s
  | .close _ => match w.phase with
    | .finished _ => s.close i w
    | _ => s
  | _ => s

/-- The worker an act belongs to. -/
def Act.worker? : Act → Option Nat
  | .start i | .answer i _ | .raise i _ | .finish i | .handle i | .close i => some i
  | _ => none

def apply (session : String) : Act → ControlPlane → ControlPlane
  | .setReady ready, s => { s with controlReady := ready }
  | .submit command lease failure, s => (s.submitOperation session command lease failure).2
  | a, s => match a.worker? with
    | none => s
    | some i => match s.workers[i]? with
      | none => s
      | some w => s.work i w a

/-- The TaskRunner of a task session. -/
def machine (session : String) : Machine ControlPlane Act :=
  Machine.ofFun (· = init) (apply session)

/-! ## The journal of a TaskRunner is a journal -/

variable {session : String} {s t : ControlPlane} {i : Nat} {w : Worker} {phase : ThreadPhase}

/-- Calls of the journal that begin only commands in `P`. -/
abbrev Calls (P : OperationCommand → Prop) (j j' : OperationJournal) : Prop :=
  OperationJournal.machine.RunWhere (fun _ k _ => ∀ c, k = .begin c → P c) j j'

variable {P : OperationCommand → Prop}

theorem calls_applied {k : Call} (hk : ∀ c, k = .begin c → P c) (j : OperationJournal) :
    Calls P j (OperationJournal.apply k j) := .single rfl hk

theorem calls_call {j j' : OperationJournal} {k : Call} {r : Except PyErr OperationRecord}
    (hk : ∀ c, k = .begin c → P c) (h : call k j = (r, j')) : Calls P j j' := by
  have hj : OperationJournal.apply k j = j' := by rw [OperationJournal.apply, h]
  exact hj ▸ calls_applied hk j

theorem keepLease_ok {command : OperationCommand} {lease : Option Lease}
    (h : s.keepLease command lease = .ok t) : ∃ leases, t = { s with operationLeases := leases } := by
  unfold keepLease at h
  split at h
  · split at h
    · cases h
    · cases h; exact ⟨_, rfl⟩
  · cases h; exact ⟨_, rfl⟩

theorem calls_dispatch (command : OperationCommand) (lease : Option Lease)
    (failure : Option PyErr) (existing : Option OperationRecord) (record : OperationRecord)
    (s : ControlPlane) :
    Calls P s.journal (s.dispatch command lease failure existing record).2.journal := by
  unfold dispatch
  split
  · exact .refl _
  · rename_i t ht
    obtain ⟨leases, rfl⟩ := keepLease_ok ht
    dsimp only
    split
    · split
      · exact .refl _
      · unfold launchFailed
        split
        · exact .refl _
        · exact calls_applied nofun _
    · exact .refl _

theorem calls_submit (command : OperationCommand) (lease : Option Lease) (failure : Option PyErr)
    (s : ControlPlane) :
    Calls (· = command) s.journal (s.submitOperation session command lease failure).2.journal := by
  unfold submitOperation
  iterate 4
    split
    · exact .refl _
  have hk : ∀ c, Call.begin command = .begin c → c = command := by rintro c ⟨⟩; rfl
  split
  · rename_i hb
    exact calls_call hk hb
  · rename_i record j hb
    exact (calls_call hk hb).trans
      (calls_dispatch command lease failure _ record { s with journal := j })

theorem openCall_ne (o : String) (reconciling : Bool) (c : OperationCommand) :
    openCall o reconciling ≠ .begin c := by
  unfold openCall
  split <;> nofun

theorem calls_start (i : Nat) (w : Worker) (s : ControlPlane) :
    Calls P s.journal (s.start i w).journal := by
  unfold start
  split
  · exact .refl _
  · dsimp only
    split <;> rename_i hr <;> exact calls_call (fun c hc => absurd hc (openCall_ne _ _ c)) hr

theorem calls_work (i : Nat) (w : Worker) (a : Act) (s : ControlPlane) :
    Calls P s.journal (s.work i w a).journal := by
  unfold work
  split <;> try exact .refl _
  all_goals split <;> try exact .refl _
  · exact calls_start i w s
  · unfold finish
    split <;> rename_i hr <;> exact calls_call (fun c hc => by cases hc) hr
  · unfold handle
    split
    · exact .refl _
    · split
      · exact .refl _
      · exact calls_applied nofun _
  · unfold close
    dsimp only
    split <;> exact .refl _

theorem run_apply (a : Act) (s : ControlPlane) :
    OperationJournal.machine.Run s.journal (apply session a s).journal := by
  unfold apply
  split
  · exact .refl _
  · exact (calls_submit _ _ _ s).run
  · split
    · exact .refl _
    · split
      · exact .refl _
      · exact Machine.RunWhere.run (calls_work (P := fun _ => True) _ _ _ s)

/-- A run of the TaskRunner is a run of its journal. -/
theorem journal_run (h : (machine session).Run s t) :
    OperationJournal.machine.Run s.journal t.journal := by
  refine h.invariant (I := fun t => OperationJournal.machine.Run s.journal t.journal)
    (fun t a u ht hstep _ => ?_) (.refl _)
  cases hstep
  exact ht.trans (run_apply a t)

end ControlPlane

end ReplicaLending
