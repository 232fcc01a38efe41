import ReplicaLending.Task.Soundness
/-!
# Calls of `create_borrowed_replica` side by side

Any number of calls of `create_borrowed_replica` (llm_server_manager.py:374) are under way in one
Manager, on their own or inside `prepare_replica` (rollouter.py:538). A call runs without a break up
to its next suspension point: the runtime's `init_from_lease` (:455) and the handler's
`cleanup_borrowed_runtime` (:481). The lock (:384) is only held where nothing is awaited, so no call
ever waits for it. The step from `resolving` to `building` is one stretch of code with the step before
it; here others may run in between.

| here | there |
| --- | --- |
| `Request.enter`    | rollouter.py:551-589 and the reservation (:381-424) |
| `Request.resolve`  | `_resolve_placement_groups` and the runtime object (:428-449) |
| `Request.build`    | `init_from_lease` and the entry into the inventory (:450-474) |
| `Request.unwind`, `clean` | the handler and its cleanup (:476-486) |
| `Request.fail`     | the rest of the handlers (:488-515, rollouter.py:592-617) |
| `Service`          | what publication, exit and destruction write into the Manager |
-/

namespace ReplicaLending

open TaskState TaskProg Rollouter

/-- A call that creates. -/
inductive Request
  | create (spec : BorrowedSpec)
  | prepare (key : ReplicaKey) (operationId : String) (spec : BorrowedSpec)

/-- Where a call stands between two suspension points. -/
inductive Stage
  | called
  | resolving (n : NormalSpec) (rank : Nat)
  /-- The runtime object exists; `init_from_lease` is awaited. -/
  | building (n : NormalSpec) (rank : Nat)
  /-- The creation has failed with `e`; the cleanup is awaited. -/
  | cleaning (n : NormalSpec) (e : PyErr) (r : Replica)
  | ended (answer : Except PyErr Prepared)

namespace Request

variable (d : Deployment) (s : TaskState) (o : Choice)

def spec : Request → BorrowedSpec
  | create spec => spec
  | prepare _ _ spec => spec

/-- What precedes the creation. -/
def bind : Request → Except PyErr Unit × TaskState
  | create _ => (.ok (), s)
  | prepare key operationId spec => bindAdd key operationId spec s o

/-- What becomes of an exception of the creation. -/
def handle (e : PyErr) : Request → Except PyErr Prepared × TaskState
  | create _ => (.error e, s)
  | prepare key operationId spec => compensateAdd key operationId spec e s o

/-- A call ends. -/
def close (r : Except PyErr Prepared × TaskState) : Stage × TaskState := (.ended r.1, r.2)

/-- A creation that has failed with `e` is recorded as failed. -/
def fail (q : Request) (n : NormalSpec) (e : PyErr) (runtime : Option Replica) : Stage × TaskState :=
  match recordFailure n e runtime s o with
  | (.error e, s) => close (q.handle s o e)
  | (.ok (), s) => close (q.handle s o e)

def reserve (q : Request) : Stage × TaskState :=
  match reserveBorrowed d q.spec s o with
  | (.error e, s) => close (q.handle s o e)
  | (.ok (.inl address), s) => (.ended (.ok (.runtime address)), s)
  | (.ok (.inr (n, rank)), s) => (.resolving n rank, s)

def enter (q : Request) : Stage × TaskState :=
  match q.bind s o with
  | (.error e, s) => (.ended (.error e), s)
  | (.ok (), s) => q.reserve d s o

def resolve (q : Request) (n : NormalSpec) (rank : Nat) : Stage × TaskState :=
  match if o.fault ≠ .none then .error lostReply else resolvePlacementGroups d n.claim with
  | .error e => q.fail s o n e none
  | .ok () => (.building n rank, s)

/-- The `except` of the creation up to the cleanup it awaits. -/
def unwind (q : Request) (n : NormalSpec) (e : PyErr) : Option Replica → Stage × TaskState
  | none => q.fail s o n e none
  | some r => if (s.world r.rank).borrowedCleanupVerified then q.fail s o n e (some r)
    else (.cleaning n e r, s)

def build (q : Request) (n : NormalSpec) (rank : Nat) : Stage × TaskState :=
  match launchBorrowed d n rank s o with
  | (.error (e, runtime), s) => q.unwind s o n e runtime
  | (.ok r, s) => match enterBorrowed n r s o with
    | (.error (e, runtime), s) => q.unwind s o n e runtime
    | (.ok address, s) => (.ended (.ok (.runtime address)), s)

def clean (q : Request) (n : NormalSpec) (e : PyErr) (r : Replica) : Stage × TaskState :=
  q.fail (cleanupFailed (some r) s o).2 o n e (some r)

/-- A call goes on to its next suspension point, or to its end. -/
def go (q : Request) : Stage → Stage × TaskState
  | .called => q.enter d s o
  | .resolving n rank => q.resolve d s o n rank
  | .building n rank => q.build d s o n rank
  | .cleaning n e r => q.clean s o n e r
  | .ended answer => (.ended answer, s)

end Request

/-- What the other methods of the Rollouter write into the Manager. -/
inductive Service
  | transition (key : ReplicaKey) (state : ReplicaState)
  | activate (key : ReplicaKey)
  | deactivate (key : ReplicaKey)
  /-- `destroy` (:558) records its evidence. -/
  | destroyed (key : ReplicaKey) (evidence : OperationEvidence)
  /-- `sleep` (:517) records its evidence. -/
  | slept (operationId : String) (key : ReplicaKey) (evidence : OperationEvidence)

def Service.exec (m : LLMServerManager) : Service → LLMServerManager
  | transition key state => (m.transitionReplica key state).toOption.getD m
  | activate key => (m.activateService key).toOption.getD m
  | deactivate key => (m.deactivateService key).toOption.getD m
  | destroyed key evidence => match m.borrowedRecordForKey key with
    | .error _ => m
    | .ok (leaseId, record) => { m with
        borrowedOperations :=
          m.borrowedOperations.insert leaseId { record with destroyEvidence := some evidence } }
  | slept operationId key evidence => { m with
      nativeReleaseEvidence := m.nativeReleaseEvidence.insert operationId (key, evidence) }

/-- A task with calls under way, and what they have done. -/
structure BorrowSystem where
  task : TaskState
  calls : List (Request × Stage)
  /-- The ranks taken, in turn. -/
  allocated : List Nat
  /-- The lease and the key of each runtime object. -/
  built : List (String × ReplicaKey)
  /-- The leases whose creation has failed. -/
  failed : List String
  /-- The leases for which a call has answered RUNTIME_READY. -/
  ready : List String

inductive BorrowLabel
  | call (q : Request)
  | resume (i : Nat) (o : Choice)
  /-- Another method writes the Manager; the rest of the task is as in `t`. -/
  | serve (f : Service) (t : TaskState)

namespace Stage

/-- The creation of this call, while it is under way. -/
def creates : Stage → Option NormalSpec
  | resolving n _ => some n
  | building n _ => some n
  | cleaning n _ _ => some n
  | called => none
  | ended _ => none

def allocates : Stage → List Nat
  | resolving _ rank => [rank]
  | _ => []

def builds : Stage → List (String × ReplicaKey)
  | building n _ => [(n.spec.leaseId, n.key)]
  | _ => []

def readies (leaseId : String) : Stage → List String
  | ended (.ok (.runtime _)) => [leaseId]
  | _ => []

/-- The creation of a call has failed when its guarded part is left otherwise than with a runtime. -/
def fails : Stage → Stage → List String
  | resolving _ _, building _ _ => []
  | resolving n _, _ => [n.spec.leaseId]
  | building _ _, ended (.ok (.runtime _)) => []
  | building n _, _ => [n.spec.leaseId]
  | _, _ => []

end Stage

namespace BorrowSystem

variable (d : Deployment)

def step : BorrowLabel → BorrowSystem → BorrowSystem
  | .call q, s => { s with calls := s.calls ++ [(q, .called)] }
  | .serve f t, s => { s with task := { t with manager := f.exec s.task.manager } }
  | .resume i o, s => match s.calls[i]? with
    | none => s
    | some (_, .ended _) => s
    | some (q, stage) =>
      let next := q.go d s.task o stage
      { task := next.2
        calls := s.calls.set i (q, next.1)
        allocated := s.allocated ++ next.1.allocates
        built := s.built ++ next.1.builds
        failed := s.failed ++ stage.fails next.1
        ready := s.ready ++ next.1.readies q.spec.leaseId }

/-- A task after initialisation, no call under way. -/
def start (replicas : List Replica) (version : Nat) : BorrowSystem :=
  ⟨(TaskSystem.initial d replicas version).state, [], [], [], [], []⟩

def machine : Machine BorrowSystem BorrowLabel :=
  .ofFun (fun s => ∃ replicas version, TaskSystem.Starts replicas ∧ s = start d replicas version)
    (step d)

end BorrowSystem

/-! ## The calls are the programs -/

namespace Request

variable (d : Deployment)

/-- The call as a program. -/
def prog : Request → TaskProg Prepared
  | create spec => (createBorrowedReplica d spec).bind fun address => .ret (.runtime address)
  | prepare key operationId spec => prepareReplica d key operationId (some spec)

/-- What follows the creation. -/
def after (q : Request) : Except PyErr String → TaskProg Prepared
  | .ok address => .ret (.runtime address)
  | .error e => match q with
    | create _ => .err e
    | prepare key operationId spec => TaskProg.call (compensateAdd key operationId spec e)

/-- The `except` of the creation. -/
def handler (n : NormalSpec) (e : PyErr) (runtime : Option Replica) : TaskProg String :=
  (TaskProg.call (cleanupFailed runtime)).bind fun _ =>
    (TaskProg.call (recordFailure n e runtime)).bind fun _ => raise e

/-- The creation, with its `except`, from the runtime object on. -/
def creation (n : NormalSpec) (rank : Nat) : TaskProg String :=
  Prog.tryCatch ((Prog.call .internal (launchBorrowed d n rank)).bind fun r =>
    Prog.call .internal (enterBorrowed n r)) fun p => handler n p.1 p.2

/-- The rest of a call. -/
def rest (q : Request) : Stage → TaskProg Prepared
  | .called => q.prog d
  | .resolving n rank => Prog.bind (Prog.result (Prog.tryCatch
      (((TaskProg.call fun s o => (if o.fault ≠ .none then .error lostReply
        else resolvePlacementGroups d n.claim, s)).mapErr fun e => (e, none)).bind fun _ =>
          (Prog.call .internal (launchBorrowed d n rank)).bind fun r =>
            Prog.call .internal (enterBorrowed n r)) fun p => handler n p.1 p.2)) q.after
  | .building n rank => (creation d n rank).result.bind q.after
  | .cleaning n e r => (handler n e (some r)).result.bind q.after
  | .ended answer => Prog.ofExcept answer

variable {d} {q : Request} {s : TaskState} {o : Choice}

theorem after_steps (e : PyErr) :
    Prog.Steps (q.after (.error e)) s (q.rest d (close (q.handle s o e)).1)
      (close (q.handle s o e)).2 := by
  cases q with
  | create spec => exact .refl
  | prepare key operationId spec => exact .head o rfl .refl

theorem handler_steps {n : NormalSpec} {e : PyErr} {runtime : Option Replica} :
    Prog.Steps (((TaskProg.call (recordFailure n e runtime)).bind fun _ =>
      (raise e : TaskProg String)).result.bind q.after) s (q.rest d (q.fail s o n e runtime).1)
      (q.fail s o n e runtime).2 := by
  refine .head o rfl ?_
  show Prog.Steps (((Prog.ofExcept (recordFailure n e runtime s o).1).bind fun _ =>
    (raise e : TaskProg String)).result.bind q.after) (recordFailure n e runtime s o).2 _ _
  unfold fail
  rcases recordFailure n e runtime s o with ⟨e' | _, t⟩
  · exact after_steps e'
  · exact after_steps e

theorem cleanupFailed_ok {runtime : Option Replica} :
    (cleanupFailed runtime s o).1 = .ok () := by
  unfold cleanupFailed
  cases runtime with
  | none => rfl
  | some r =>
    dsimp only
    split <;> rfl

theorem unwind_steps {n : NormalSpec} {e : PyErr} {runtime : Option Replica} :
    Prog.Steps ((handler n e runtime).result.bind q.after) s
      (q.rest d (q.unwind s o n e runtime).1) (q.unwind s o n e runtime).2 := by
  have hfail (hc : cleanupFailed runtime s o = (.ok (), s)) :
      Prog.Steps ((handler n e runtime).result.bind q.after) s
        (q.rest d (q.fail s o n e runtime).1) (q.fail s o n e runtime).2 := by
    refine .head o rfl ?_
    show Prog.Steps (Prog.bind (Prog.result (Prog.bind
      (Prog.ofExcept (cleanupFailed runtime s o).1) _)) q.after) (cleanupFailed runtime s o).2 _ _
    rw [hc]
    exact handler_steps
  unfold unwind
  cases runtime with
  | none => exact hfail rfl
  | some r =>
    dsimp only
    split
    · refine hfail ?_
      unfold cleanupFailed
      exact if_pos ‹_›
    · exact .refl

theorem reserve_steps :
    Prog.Steps ((createBorrowedReplica d q.spec).result.bind q.after) s
      (q.rest d (q.reserve d s o).1) (q.reserve d s o).2 := by
  refine .head o rfl ?_
  unfold reserve
  show Prog.Steps (Prog.bind (Prog.result (Prog.bind (Prog.ofExcept (reserveBorrowed d q.spec s o).1) _))
    q.after) (reserveBorrowed d q.spec s o).2 _ _
  rcases reserveBorrowed d q.spec s o with ⟨e | address | ⟨n, rank⟩, t⟩
  · exact after_steps e
  · exact .refl
  · exact .refl

theorem enter_steps :
    Prog.Steps (q.prog d) s (q.rest d (q.enter d s o).1) (q.enter d s o).2 := by
  cases q with
  | create spec =>
    have hprog : prog d (.create spec) =
        (createBorrowedReplica d spec).result.bind (after (.create spec)) :=
      (Prog.bind_eq_result _ _).trans (congrArg _ (funext fun r => by cases r <;> rfl))
    rw [hprog]
    exact reserve_steps (q := .create spec)
  | prepare key operationId spec =>
    refine .head o rfl ?_
    dsimp only [enter, bind]
    show Prog.Steps (Prog.bind (Prog.ofExcept (bindAdd key operationId spec s o).1) fun _ =>
      ((createBorrowedReplica d spec).bind fun address => .ret (.runtime address)).tryCatch fun e =>
        TaskProg.call (compensateAdd key operationId spec e)) (bindAdd key operationId spec s o).2 _ _
    rcases bindAdd key operationId spec s o with ⟨e | _, t⟩
    · exact .refl
    · have hprog : ((createBorrowedReplica d spec).bind fun address =>
          (.ret (.runtime address) : TaskProg Prepared)).tryCatch (fun e =>
            TaskProg.call (compensateAdd key operationId spec e)) =
          (createBorrowedReplica d spec).result.bind (after (.prepare key operationId spec)) := by
        unfold Prog.tryCatch
        rw [Prog.result_bind, Prog.bind_assoc]
        exact congrArg _ (funext fun r => by cases r <;> rfl)
      show Prog.Steps (((createBorrowedReplica d spec).bind _).tryCatch _) t _ _
      rw [hprog]
      exact reserve_steps (q := .prepare key operationId spec)

theorem resolve_steps {n : NormalSpec} {rank : Nat} :
    Prog.Steps (q.rest d (.resolving n rank)) s (q.rest d (q.resolve d s o n rank).1)
      (q.resolve d s o n rank).2 := by
  refine .head o rfl ?_
  unfold resolve
  show Prog.Steps (Prog.bind (Prog.result (Prog.bind (Prog.result (Prog.bind (Prog.bind (Prog.result
    (Prog.ofExcept (if o.fault ≠ .none then .error lostReply
      else resolvePlacementGroups d n.claim))) _) _)) _)) q.after) s _ _
  rcases (if o.fault ≠ .none then .error lostReply
    else resolvePlacementGroups d n.claim : Except PyErr Unit) with e | _
  · have h : Prog.Steps ((handler n e none).result.bind q.after) s
        (q.rest d (q.unwind s o n e none).1) (q.unwind s o n e none).2 := unwind_steps
    exact h
  · exact .refl

theorem build_steps {n : NormalSpec} {rank : Nat} :
    Prog.Steps (q.rest d (.building n rank)) s (q.rest d (q.build d s o n rank).1)
      (q.build d s o n rank).2 := by
  refine .head o rfl ?_
  unfold build
  show Prog.Steps (Prog.bind (Prog.result (Prog.bind (Prog.result (Prog.bind
    (Prog.ofExcept (launchBorrowed d n rank s o).1) _)) _)) q.after) (launchBorrowed d n rank s o).2 _ _
  rcases launchBorrowed d n rank s o with ⟨⟨e, runtime⟩ | r, t⟩
  · exact unwind_steps
  · refine .head o rfl ?_
    show Prog.Steps (Prog.bind (Prog.result (Prog.bind (Prog.result
      (Prog.ofExcept (enterBorrowed n r t o).1)) _)) q.after) (enterBorrowed n r t o).2 _ _
    dsimp only
    rcases enterBorrowed n r t o with ⟨⟨e, runtime⟩ | address, u⟩
    · exact unwind_steps
    · exact .refl

theorem clean_steps {n : NormalSpec} {e : PyErr} {r : Replica} :
    Prog.Steps (q.rest d (.cleaning n e r)) s (q.rest d (q.clean s o n e r).1)
      (q.clean s o n e r).2 := by
  refine .head o rfl ?_
  unfold clean
  show Prog.Steps (Prog.bind (Prog.result (Prog.bind (Prog.ofExcept (cleanupFailed (some r) s o).1) _))
    q.after) (cleanupFailed (some r) s o).2 _ _
  rw [cleanupFailed_ok]
  exact handler_steps

/-- A call that goes on is its program making steps. -/
theorem go_steps (q : Request) (stage : Stage) :
    Prog.Steps (q.rest d stage) s (q.rest d (q.go d s o stage).1) (q.go d s o stage).2 := by
  cases stage with
  | called => exact enter_steps
  | resolving n rank => exact resolve_steps
  | building n rank => exact build_steps
  | cleaning n e r => exact clean_steps
  | ended answer => exact .refl

end Request

end ReplicaLending
