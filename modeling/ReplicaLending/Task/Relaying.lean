import ReplicaLending.Task.System
import ReplicaLending.Task.Walks
/-!
# What the lifecycle code does to the load balancer

The Rollouter alone calls the load balancer, and one step makes at most one call of it: `RouterStep` says
what the step may be, `Relays` that every step of a program is of this kind. A method of the Rollouter or
the Trainer besides writes no binding but that of its own operation (`Owned`).

| here | there |
| --- | --- |
| `relay` | a remote call that may be lost, late or without a reply (`TaskProg.lbCall`) |
| `RouterStep.reads` | a query, which finds every earlier call executed (`TaskProg.lbRead`) |
-/

namespace ReplicaLending

open TaskProg TaskState Rollouter Trainer

/-- The state after a call to the load balancer. -/
def TaskState.relay (c : LbCall) (s : TaskState) (o : Choice) : TaskState :=
  match o.fault with
  | .before => s
  | .late => { s with inflight := s.inflight ++ [c] }
  | .none | .after => { s.flush o.now with lb := c.exec o.now (s.flush o.now).lb }

/-- A step makes one call, or one query, or concerns others. -/
inductive RouterStep (ready : TaskState → Choice → Bool) (act : TaskState → Choice → TaskState) : Prop
  | beside (h : ∀ s o, Beside s (act s o))
  | reads (h : ∀ s o, Beside s (act s o) ∨ Flushed o.now s (act s o))
  | calls (c : LbCall) (hready : ∀ s o, ready s o = true) (h : ∀ s o, act s o = s.relay c o)

/-- A step of a method of the operation. -/
structure OwnerStep (q : String) (ready : TaskState → Choice → Bool)
    (act : TaskState → Choice → TaskState) : Prop where
  router : RouterStep ready act
  bindings : ∀ s o, SameBindings q s (act s o)

def relaying : Judgement TaskState Choice Event := .acts RouterStep

def owning (q : String) : Judgement TaskState Choice Event := .acts (OwnerStep q)

/-- Every step of the program is a `RouterStep`. -/
abbrev Relays {ε α : Type} (p : Prog TaskState Choice Event ε α) : Prop := relaying.Holds p

/-- Every step of the program is one of a method of `q`. -/
abbrev Owned {ε α : Type} (q : String) (p : Prog TaskState Choice Event ε α) : Prop := (owning q).Holds p

variable {q : String} {ε α : Type}

theorem Owned.relays {p : Prog TaskState Choice Event ε α} (h : Owned q p) : Relays p :=
  Prog.Acts.mono h fun _ _ hstep => hstep.router

instance : Free (owning q) where
  aside h := Judgement.acts_await ⟨.reads fun s o => (h s o).router, fun s o => .of_eq (h s o).bindings⟩
  lbCall := by
    intro α c f
    refine Judgement.acts_await ⟨.calls c (fun _ _ => rfl) fun s o => ?_, fun s o => ?_⟩
    · unfold TaskState.relay
      cases o.fault <;> rfl
    · cases o.fault <;> exact .of_eq rfl

instance : Free relaying where
  aside h := Judgement.acts_await (.reads fun s o => (h s o).router)
  lbCall := Owned.relays (q := "") .lbCall

instance : Binds (owning q) q where
  rebinds h := Judgement.acts_await ⟨.beside fun s o => (h s o).router, fun s o => (h s o).bindings⟩

instance : Targets (owning q) q fun _ => True where
  target hf := .bind (.mapErr (.rpc .peek)) fun k => hf k trivial

/-! ## The methods of an operation -/

/-- Nothing that concerns the load balancer or the Rollouter's own state. -/
structure OffRouter (s t : TaskState) : Prop where
  lb : t.lb = s.lb
  inflight : t.inflight = s.inflight
  rollouter : t.rollouter = s.rollouter

theorem offRouter_onManager {f : LLMServerManager → Except PyErr LLMServerManager} (s : TaskState) :
    OffRouter s (TaskState.onManager f s).2 := by
  unfold TaskState.onManager
  split <;> exact ⟨rfl, rfl, rfl⟩

namespace Owned

variable {d : Deployment} {key : ReplicaKey}

theorem offRouter {tag : Event} {f : TaskState → Choice → Except ε α × TaskState}
    (h : ∀ s o, OffRouter s (f s o).2) : Owned q (Prog.call tag f) :=
  Judgement.acts_await ⟨.beside fun s o => ⟨(h s o).lb, (h s o).inflight⟩,
    fun s o => .of_eq (by rw [(h s o).rollouter])⟩

theorem onServer {r : Replica} {f : (Nat → Fault) → Server → Except PyErr α × Server} :
    Owned q (TaskProg.onServer r f) :=
  offRouter fun s o => by cases o.fault <;> exact ⟨rfl, rfl, rfl⟩

/-! ### The Rollouter -/

theorem createBorrowedReplica {spec : BorrowedSpec} :
    Owned q (Rollouter.createBorrowedReplica d spec) := by
  refine .bind (offRouter fun s o => ?_) fun reserved => ?_
  · unfold reserveBorrowed
    split
    · exact ⟨rfl, rfl, rfl⟩
    · split
      · split
        · exact ⟨rfl, rfl, rfl⟩
        · split <;> exact ⟨rfl, rfl, rfl⟩
      · split
        · exact ⟨rfl, rfl, rfl⟩
        · dsimp only
          split <;> exact ⟨rfl, rfl, rfl⟩
  · rcases reserved with address | ⟨n, rank⟩
    · exact .ret
    · refine .tryCatch (.bind (.mapErr (.still fun _ _ => rfl)) fun _ =>
        .bind (offRouter fun s o => ?_) fun r => offRouter fun s o => ?_) fun e =>
          .bind (offRouter fun s o => ?_) fun _ => .bind (offRouter fun s o => ?_) fun _ => .err
      · unfold launchBorrowed
        dsimp only
        split <;> exact ⟨rfl, rfl, rfl⟩
      · unfold enterBorrowed
        split <;> exact ⟨rfl, rfl, rfl⟩
      · unfold cleanupFailed
        split
        · exact ⟨rfl, rfl, rfl⟩
        · split <;> exact ⟨rfl, rfl, rfl⟩
      · unfold recordFailure
        split
        · exact ⟨rfl, rfl, rfl⟩
        · dsimp only
          split <;> exact ⟨rfl, rfl, rfl⟩

theorem prepareReplica {spec : Option BorrowedSpec} :
    Owned q (Rollouter.prepareReplica d key q spec) :=
  Judgement.Holds.prepareReplica fun _ => createBorrowedReplica

theorem sleep {o : String} : Owned q (Rollouter.sleep d key o) := by
  refine .bind .peek fun found => ?_
  rcases found with evidence | r
  · exact .ret
  · exact .bind onServer fun _ => .bind .require fun _ => .bind onServer fun _ => .ret

theorem destroy {o : String} : Owned q (Rollouter.destroy key o) := by
  refine .bind .peek fun found => ?_
  rcases found with evidence | ⟨r, gpuUuid⟩
  · exact .ret
  · exact .bind onServer fun _ => .ret

theorem quarantineDormantRestore {o : String} :
    Owned q (TaskProg.call (Rollouter.quarantineDormantRestore o)) := by
  refine offRouter fun s c => ?_
  unfold Rollouter.quarantineDormantRestore
  split
  · exact ⟨rfl, rfl, rfl⟩
  · split
    · exact ⟨rfl, rfl, rfl⟩
    · split
      · exact ⟨rfl, rfl, rfl⟩
      · have hm := fun k => offRouter_onManager (f := (·.transitionReplica k .quarantined)) s
        split
        · exact ⟨rfl, rfl, rfl⟩
        · split <;> (rename_i heq; exact (congrArg (fun r => OffRouter s r.2) heq).mp (hm _))
        · exact ⟨rfl, rfl, rfl⟩

theorem closeRelease {kind : ReplicaKind} {released : OperationEvidence ⊕ List String} :
    Owned q (TaskProg.call (Rollouter.closeRelease key kind q released)) := by
  refine Judgement.acts_await ⟨.beside fun s o => ?_, fun s o => ?_⟩ <;>
    unfold Rollouter.closeRelease <;> dsimp only <;> split
  · exact ⟨rfl, rfl⟩
  · split
    · exact ⟨rfl, rfl⟩
    · split <;> exact ⟨rfl, rfl⟩
  · exact .of_eq rfl
  · split
    · exact .of_eq rfl
    · split
      · exact .of_eq rfl
      · exact fun _ ho => Dict.get?_erase_ne _ (Ne.symm ho)

theorem finalizeRelease : Owned q (Rollouter.finalizeRelease d q) := by
  refine .bind .peek fun ⟨target, kind, _⟩ => .tryCatch ?_ fun e => .bind (offRouter fun s o => ?_)
    fun _ => .err
  · cases kind with
    | native => exact .bind sleep fun _ => closeRelease
    | borrowed => exact .bind destroy fun _ => closeRelease
  · dsimp only
    split
    · exact offRouter_onManager s
    · exact ⟨rfl, rfl, rfl⟩

theorem enterDraining {state : ReplicaState} (s : TaskState) (o : Choice) :
    Beside s (Rollouter.enterDraining key q state s o).2 ∧
      SameBindings q s (Rollouter.enterDraining key q state s o).2 := by
  unfold Rollouter.enterDraining
  split
  · have hm := offRouter_onManager (f := (·.transitionReplica key .draining)) s
    split
    · rename_i t heq
      rw [heq] at hm
      exact ⟨⟨hm.lb, hm.inflight⟩,
        fun p hp => ((rebinds_bind t).bindings p hp).trans (by rw [hm.rollouter])⟩
    · rename_i heq
      rw [heq] at hm
      exact ⟨⟨hm.lb, hm.inflight⟩, .of_eq (by rw [hm.rollouter])⟩
  · exact ⟨⟨rfl, rfl⟩, (rebinds_bind s).bindings⟩

instance : Retires (owning q) q where
  draining := Judgement.acts_await
    ⟨.beside fun s o => (enterDraining s o).1, fun s o => (enterDraining s o).2⟩
  retract := offRouter fun s o => by
    unfold retractServiceTarget
    split
    · exact ⟨rfl, rfl, rfl⟩
    · split <;> exact ⟨rfl, rfl, rfl⟩
  deactivate h := offRouter fun s o => by
    obtain ht | ⟨m, -, ht⟩ := h s o <;> rw [ht] <;> exact ⟨rfl, rfl, rfl⟩

instance : Enlists (owning q) where
  activate := offRouter fun s o => by
    unfold activateServiceTarget
    split
    · exact ⟨rfl, rfl, rfl⟩
    · dsimp only
      split <;> exact ⟨rfl, rfl, rfl⟩
  quarantine := .bind (offRouter fun s o => by
    split
    · exact offRouter_onManager s
    · exact ⟨rfl, rfl, rfl⟩) fun _ => .err
  onServer := onServer

/-! ### The Trainer -/

theorem bootstrapTarget {version : Nat} : Owned q (Trainer.bootstrapTarget d key q version) :=
  Judgement.Holds.bootstrapTarget fun rs => offRouter fun s o => by
    dsimp only
    split <;> exact ⟨rfl, rfl, rfl⟩

theorem bootstrapAndPublish : Owned q (Trainer.bootstrapAndPublish d q) :=
  Judgement.Holds.bootstrapAndPublish .commitServiceChange finalizeRelease fun _ _ _ => bootstrapTarget

theorem restoreAndPublish : Owned q (Trainer.restoreAndPublish d q) :=
  Judgement.Holds.restoreAndPublish .commitServiceChange finalizeRelease (fun _ _ _ => bootstrapTarget)
    quarantineDormantRestore

theorem reconcileExit : Owned q (Trainer.reconcileExit d q) :=
  Judgement.Holds.reconcileExit .commitServiceChange

theorem removeAndCommit : Owned q (Trainer.removeAndCommit d q) :=
  Judgement.Holds.removeAndCommit .commitServiceChange

end Owned

/-! ## The TaskRunner -/

namespace Relays

variable {d : Deployment}

theorem beside {tag : Event} {f : TaskState → Choice → Except ε α × TaskState}
    (h : ∀ s o, Beside s (f s o).2) : Relays (Prog.call tag f) := Judgement.acts_await (.beside h)

instance : Ends relaying where
  finish := beside fun s o => by
    unfold TaskRunner.finishRecord
    split <;> exact ⟨rfl, rfl⟩

instance : Sends relaying where
  send := .bind (beside fun s o => by split <;> exact ⟨rfl, rfl⟩) fun _ => Reads.looks fun _ _ => .refl

/-- Whatever the thread of an operation does. -/
theorem executeOperation {o : String} : Relays (TaskRunner.executeOperation d o) := by
  refine .tryCatch (.bind (beside fun s c => ?_) fun opened => ?_) fun e => beside fun s c => ?_
  · unfold TaskRunner.openRecord
    split
    · exact ⟨rfl, rfl⟩
    · dsimp only
      split <;> exact ⟨rfl, rfl⟩
  · obtain ⟨command, reconciling⟩ := opened
    have hexit : Relays (TaskRunner.executeExit d command reconciling) :=
      .executeExit (Owned.relays (q := command.operationId) .prepareExit) Owned.removeAndCommit.relays
        Owned.reconcileExit.relays Owned.finalizeRelease.relays
    show Relays (TaskRunner.lifecycle d command reconciling)
    unfold TaskRunner.lifecycle
    cases command.kind with
    | add =>
      exact .executeAdd (fun _ => Owned.prepareReplica.relays) Owned.bootstrapAndPublish.relays
    | donate => exact hexit
    | remove => exact hexit
    | restore => exact .executeRestore Owned.prepareReplica.relays Owned.restoreAndPublish.relays
  · unfold TaskRunner.markUnknown
    split
    · exact ⟨rfl, rfl⟩
    · split
      · exact ⟨rfl, rfl⟩
      · split <;> exact ⟨rfl, rfl⟩

end Relays

end ReplicaLending
