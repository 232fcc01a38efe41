import ReplicaLending.Library.Judgement
import ReplicaLending.Task.TaskRunner
/-!
# Walking through the text of a lifecycle thread

One rule for each way in which `Task/State.lean` builds a program and one for each method of the Rollouter,
the Trainer and the TaskRunner, of every `Judgement` under which the steps it makes are free. A family of
invariants shows once which steps are free to it, and has the rules.

| class | what is free |
| --- | --- |
| `Reads`   | a query of the load balancer, a step on the gate |
| `Free`    | any step that leaves the Manager, the runtimes, the journal and the evidence alone |
| `Binds`   | a step on the binding of the operation |
| `Retires` | what takes a replica out of service |
| `Enlists` | what puts one into service, and a call to a runtime |
| `Ends`    | the end of an operation |
| `Sends`   | evidence on its way to the GroupScheduler |

`Targets` is what is known of the key an operation is bound to.
-/

namespace ReplicaLending

open TaskState TaskProg Rollouter Trainer

/-! ## Steps -/

/-- Nothing that concerns the load balancer. -/
def Beside (s t : TaskState) : Prop := t.lb = s.lb ∧ t.inflight = s.inflight

/-- The late calls have been executed, and nothing else. -/
def Flushed (now : Nat) (s t : TaskState) : Prop := t.lb = (s.flush now).lb ∧ t.inflight = []

/-- The bindings of the other operations. -/
def SameBindings (q : String) (s t : TaskState) : Prop :=
  ∀ o, o ≠ q → t.rollouter.pendingOperationTargets.get? o =
    s.rollouter.pendingOperationTargets.get? o

theorem SameBindings.of_eq {q : String} {s t : TaskState}
    (h : t.rollouter.pendingOperationTargets = s.rollouter.pendingOperationTargets) :
    SameBindings q s t := fun o _ => by rw [h]

/-- A step on the gate, a query of the load balancer, or none. -/
def Looks (o : Choice) (s t : TaskState) : Prop := (∃ g, t = { s with gate := g }) ∨ t = s.flush o.now

theorem Looks.refl {o : Choice} {s : TaskState} : Looks o s s := .inl ⟨s.gate, rfl⟩

/-- The step touches neither the Manager, nor the runtimes, nor the journal, nor the evidence, nor a
binding; late calls may be executed. -/
structure Aside (o : Choice) (s t : TaskState) : Prop where
  manager : t.manager = s.manager
  world : t.world = s.world
  journal : t.journal = s.journal
  outbox : t.outbox = s.outbox
  bindings : t.rollouter.pendingOperationTargets = s.rollouter.pendingOperationTargets
  router : Beside s t ∨ Flushed o.now s t

theorem Looks.aside {o : Choice} {s t : TaskState} (h : Looks o s t) : Aside o s t := by
  rcases h with ⟨g, rfl⟩ | rfl
  · exact ⟨rfl, rfl, rfl, rfl, rfl, .inl ⟨rfl, rfl⟩⟩
  · exact ⟨rfl, rfl, rfl, rfl, rfl, .inr ⟨rfl, rfl⟩⟩

theorem Aside.rfl {o : Choice} {s : TaskState} : Aside o s s := Looks.refl.aside

theorem aside_onCe {f : CheckpointEngineManager → Except PyErr CheckpointEngineManager}
    (s : TaskState) (o : Choice) : Aside o s (TaskState.onCe f s).2 := by
  unfold TaskState.onCe
  split <;> exact ⟨rfl, rfl, rfl, rfl, rfl, .inl ⟨rfl, rfl⟩⟩

/-- The step writes the binding of the operation, if anything. -/
structure Rebinds (q : String) (s t : TaskState) : Prop where
  manager : t.manager = s.manager
  world : t.world = s.world
  journal : t.journal = s.journal
  outbox : t.outbox = s.outbox
  bindings : SameBindings q s t
  router : Beside s t

theorem Rebinds.refl {q : String} {s : TaskState} : Rebinds q s s :=
  ⟨rfl, rfl, rfl, rfl, fun _ _ => rfl, rfl, rfl⟩

theorem rebinds_bind {q : String} {k : ReplicaKey} (s : TaskState) : Rebinds q s (bindTarget s q k) :=
  ⟨rfl, rfl, rfl, rfl, fun _ ho => Dict.get?_insert_ne _ _ (Ne.symm ho), rfl, rfl⟩

theorem rebinds_unbind {q : String} (s : TaskState) : Rebinds q s (unbindTarget s q) :=
  ⟨rfl, rfl, rfl, rfl, fun _ ho => Dict.get?_erase_ne _ (Ne.symm ho), rfl, rfl⟩

/-! ## What a judgement lets pass -/

section Classes

variable (𝓙 : Judgement TaskState Choice Event)

class Reads : Prop where
  looks : ∀ {ε α : Type} {tag : Event} {ready : TaskState → Choice → Bool}
    {f : TaskState → Choice → Except ε α × TaskState},
    (∀ s o, Looks o s (f s o).2) → 𝓙.Holds (Prog.await tag ready f)

class Free : Prop where
  aside : ∀ {ε α : Type} {tag : Event} {ready : TaskState → Choice → Bool}
    {f : TaskState → Choice → Except ε α × TaskState},
    (∀ s o, Aside o s (f s o).2) → 𝓙.Holds (Prog.await tag ready f)
  lbCall : ∀ {α : Type} {c : LbCall} {f : Nat → GlobalRequestLoadBalancer → Except PyErr α},
    𝓙.Holds (TaskProg.lbCall c f)

instance [Free 𝓙] : Reads 𝓙 where
  looks h := Free.aside fun s o => (h s o).aside

class Binds (q : String) : Prop where
  rebinds : ∀ {α : Type} {f : TaskState → Choice → Except PyErr α × TaskState},
    (∀ s o, Rebinds q s (f s o).2) → 𝓙.Holds (TaskProg.call f)

/-- The key the operation is bound to is a `T`. -/
class Targets (q : String) (T : outParam (ReplicaKey → Prop)) : Prop where
  target : ∀ {ε α : Type} {g : PyErr → ε} {f : ReplicaKey → Prog TaskState Choice Event ε α},
    (∀ k, T k → 𝓙.Holds (f k)) → 𝓙.Holds (((pendingTarget q).mapErr g).bind f)

class Retires (q : String) : Prop where
  draining : ∀ {k : ReplicaKey} {state : ReplicaState}, 𝓙.Holds (TaskProg.call (enterDraining k q state))
  retract : ∀ {k : ReplicaKey}, 𝓙.Holds (TaskProg.call (retractServiceTarget k))
  deactivate : ∀ {k : ReplicaKey} {f : TaskState → Choice → Except PyErr Unit × TaskState},
    (∀ s o, (f s o).2 = s ∨ ∃ m, s.manager.deactivateService k = .ok m ∧
      (f s o).2 = { s with manager := m }) → 𝓙.Holds (TaskProg.call f)

class Enlists : Prop where
  activate : ∀ {k : ReplicaKey}, 𝓙.Holds (TaskProg.call (activateServiceTarget k))
  quarantine : ∀ {state : ReplicaState} {k : ReplicaKey} {e : PyErr}, 𝓙.Holds (quarantineIf state k e)
  onServer : ∀ {α : Type} {r : Replica} {f : (Nat → Fault) → Server → Except PyErr α × Server},
    𝓙.Holds (TaskProg.onServer r f)

class Ends : Prop where
  finish : ∀ {o : String} {status : OperationStatus} {result : Option String} {clears : Nat},
    𝓙.Holds (TaskProg.call (TaskRunner.finishRecord o status result clears))

class Sends : Prop where
  send : ∀ {l : String} {evidence : OperationEvidence}, 𝓙.Holds (TaskRunner.advanceOnce l evidence)

end Classes

end ReplicaLending

namespace Judgement.Holds

open ReplicaLending TaskState TaskProg

variable {𝓙 : Judgement TaskState Choice Event} {ε α β : Type}

/-! ## Ways to build a program -/

theorem require {c : Prop} [Decidable c] {e : PyErr} : 𝓙.Holds (TaskProg.require c e) := by
  unfold TaskProg.require
  split
  · exact ret
  · exact err

theorem when {c : Prop} [Decidable c] {p : TaskProg Unit} (hp : 𝓙.Holds p) :
    𝓙.Holds (TaskProg.when c p) := by
  unfold TaskProg.when
  split
  · exact hp
  · exact ret

theorem gather {f : Replica → TaskProg α} : ∀ {rs}, (∀ r ∈ rs, 𝓙.Holds (f r)) →
    𝓙.Holds (Trainer.gather f rs)
  | [], _ => ret
  | r :: _, hf => bind (hf r List.mem_cons_self) fun _ =>
    bind (gather fun r hr => hf r (List.mem_cons_of_mem _ hr)) fun _ => ret

theorem raising {l : β} {p : TaskProg α} (hp : 𝓙.Holds p) : 𝓙.Holds (Trainer.raising l p) := mapErr hp

theorem requireEvidence {value : Option OperationEvidence} {o : String} {expected : EvidenceType}
    {label : String} : 𝓙.Holds (Trainer.requireEvidence value o expected label) := by
  cases value with
  | none => exact err
  | some _ => exact ofExcept

section Reads

variable [Reads 𝓙]

theorem look {tag : Event} {f : TaskState → Choice → Except ε α × TaskState}
    (h : ∀ s o, Looks o s (f s o).2) : 𝓙.Holds (Prog.call tag f) := Reads.looks h

/-- A step that changes nothing. -/
theorem still {tag : Event} {f : TaskState → Choice → Except ε α × TaskState}
    (h : ∀ s o, (f s o).2 = s) : 𝓙.Holds (Prog.call tag f) :=
  look fun s o => by
    rw [h s o]
    exact .refl

theorem peek {f : TaskState → Except PyErr α} : 𝓙.Holds (TaskProg.peek f) := still fun _ _ => rfl

theorem rpc {p : TaskProg α} (hp : 𝓙.Holds p) : 𝓙.Holds (TaskProg.rpc p) :=
  bind (still fun _ _ => rfl) fun _ => bind (result hp) fun _ => still fun _ _ => rfl

theorem lbRead {f : GlobalRequestLoadBalancer → α} : 𝓙.Holds (TaskProg.lbRead f) :=
  look fun s o => by
    split
    · exact .inr rfl
    · exact .refl

theorem readRpc {f : GlobalRequestLoadBalancer → α} : ∀ {n : Nat}, 𝓙.Holds (TaskProg.readRpc f n)
  | 0 => lbRead
  | _ + 1 => tryCatch lbRead fun _ => readRpc

theorem acquire {o : String} {kind : GateKind} : 𝓙.Holds (TaskProg.acquire o kind) :=
  bind peek fun _ => Reads.looks fun _ _ => .inl ⟨_, rfl⟩

theorem release {l : GateOwner} : 𝓙.Holds (TaskProg.release l) := look fun _ _ => .inl ⟨_, rfl⟩

theorem block {l : GateOwner} {reason : String} : 𝓙.Holds (TaskProg.block l reason) :=
  look fun _ _ => .inl ⟨_, rfl⟩

theorem guardAsync {l : GateOwner} {p : TaskProg α} (hp : 𝓙.Holds p) :
    𝓙.Holds (TaskProg.guardAsync l p) :=
  bind peek fun _ => bind hp fun _ => bind peek fun _ => ret

theorem reconcile {o : String} {p : TaskProg α} (hp : 𝓙.Holds p) : 𝓙.Holds (TaskProg.reconcile o p) := by
  refine bind peek fun fenced => ?_
  cases fenced with
  | false => exact ret
  | true =>
    refine bind (Reads.looks fun _ _ => .inl ⟨_, rfl⟩) fun lease => ?_
    cases lease with
    | none => exact ret
    | some _ => exact bind (result hp) fun _ => look fun _ _ => .inl ⟨_, rfl⟩

/-! ## Methods that only look -/

variable {d : Deployment} {key : ReplicaKey} {o x : String}

theorem collective {m : String} : 𝓙.Holds (Trainer.collective m) := still fun _ _ => rfl

theorem returning {evidence : OperationEvidence} : 𝓙.Holds (Trainer.returning o evidence) :=
  still fun _ _ => rfl

theorem checkSettled : ∀ {serverId}, 𝓙.Holds (Rollouter.checkSettled serverId)
  | none => ret
  | some _ => bind (readRpc (n := 2)) fun _ => require

theorem awaitNaturalDrain : 𝓙.Holds (Rollouter.awaitNaturalDrain x) := by
  refine Reads.looks fun s o => ?_
  split
  · exact .refl
  · split <;> exact .inr rfl

theorem awaitHandoff {admitted : List String} {aborted : Option Nat} :
    𝓙.Holds (Rollouter.awaitHandoff o x admitted aborted) := by
  refine bind (readRpc (n := 2)) fun _ => bind ofExcept fun _ => Reads.looks fun s o => ?_
  split
  · exact .refl
  · split <;> exact .inr rfl

theorem admittedRequests : ∀ {rs}, 𝓙.Holds (Rollouter.admittedRequests rs)
  | [] => ret
  | _ :: _ => bind (readRpc (n := 2)) fun _ => bind admittedRequests fun _ => ret

theorem bootstrapHead {version : Nat} :
    𝓙.Holds (TaskProg.call (Trainer.bootstrapHead d key o version)) := by
  refine still fun s x => ?_
  unfold Trainer.bootstrapHead
  split
  · rfl
  · split
    · rfl
    · rfl
    · rfl
    · split
      · rfl
      · split <;> rfl

end Reads

section Free

variable [Free 𝓙]

theorem aside {tag : Event} {f : TaskState → Choice → Except ε α × TaskState}
    (h : ∀ s o, Aside o s (f s o).2) : 𝓙.Holds (Prog.call tag f) := Free.aside h

theorem lbCall {c : LbCall} {f : Nat → GlobalRequestLoadBalancer → Except PyErr α} :
    𝓙.Holds (TaskProg.lbCall c f) := Free.lbCall

theorem guard {l : GateOwner} {f : TaskState → Choice → Except PyErr α × TaskState}
    (h : ∀ s o, Aside o s (f s o).2) : 𝓙.Holds (TaskProg.guard l f) := by
  refine aside fun s o => ?_
  split
  · exact .rfl
  · have hf := h s o
    split
    · rename_i heq
      rw [heq] at hf
      exact hf
    · rename_i heq
      rw [heq] at hf
      split <;> exact hf

/-! ## Methods of the Rollouter -/

variable {d : Deployment} {key : ReplicaKey} {r : Replica} {o x : String}

theorem commitReadyOrReconcile {label : String} :
    𝓙.Holds (Rollouter.commitReadyOrReconcile key r o label) := by
  refine tryCatch (bind lbCall fun _ => bind ofExcept fun _ => ret) fun _ =>
    bind (tryCatch (readRpc (n := 2)) fun _ => err) fun reconciled => ?_
  cases reconciled with
  | none => exact ret
  | some _ => exact bind ofExcept fun _ => ret

theorem beginDrainOnce : 𝓙.Holds (Rollouter.beginDrainOnce key o) := tryCatch lbCall fun _ => lbCall

theorem setRecovery {recovery : List String × Option Nat} :
    𝓙.Holds (TaskProg.call fun s _ => (.ok (), Rollouter.setRecovery s o recovery)) :=
  aside fun _ _ => ⟨rfl, rfl, rfl, rfl, rfl, .inl ⟨rfl, rfl⟩⟩

theorem recoverForce : 𝓙.Holds (Rollouter.recoverForce r o x) := by
  refine bind peek fun recovery => ?_
  cases recovery with
  | some _ => exact ret
  | none =>
    exact bind (readRpc (n := 2)) fun _ => bind admittedRequests fun _ => bind setRecovery fun _ =>
      bind (still fun _ _ => rfl) fun _ => bind require fun _ => bind setRecovery fun _ => ret

end Free

section Binds

variable {d : Deployment} {key : ReplicaKey} {o : String} [Binds 𝓙 o]

theorem bindRestore : 𝓙.Holds (TaskProg.call (Rollouter.bindRestore key o)) := by
  refine Binds.rebinds (q := o) fun s _ => ?_
  unfold Rollouter.bindRestore
  split
  · exact .refl
  · exact .refl
  · split
    · exact .refl
    · split
      · exact rebinds_bind s
      · split <;> exact .refl

theorem bindAdd {spec : BorrowedSpec} : 𝓙.Holds (TaskProg.call (Rollouter.bindAdd key o spec)) := by
  refine Binds.rebinds (q := o) fun s _ => ?_
  unfold Rollouter.bindAdd
  split
  · exact .refl
  · iterate 3
      split
      · exact .refl
    exact rebinds_bind s

theorem compensateAdd {spec : BorrowedSpec} {e : PyErr} :
    𝓙.Holds (TaskProg.call (Rollouter.compensateAdd key o spec e)) := by
  refine Binds.rebinds (q := o) fun s _ => ?_
  unfold Rollouter.compensateAdd
  dsimp only
  split
  · split
    · exact .refl
    · split <;> exact rebinds_unbind s
  · exact .refl

theorem prepareReplica (hcreate : ∀ spec, 𝓙.Holds (Rollouter.createBorrowedReplica d spec)) :
    ∀ {spec}, 𝓙.Holds (Rollouter.prepareReplica d key o spec)
  | none => bindRestore
  | some _ => bind bindAdd fun _ => tryCatch (bind (hcreate _) fun _ => ret) fun _ => compensateAdd

theorem settlePublication [Retires 𝓙 o] : ∀ {evidence}, 𝓙.Holds (Rollouter.settlePublication key o evidence)
  | none => bind (Retires.retract (q := o)) fun _ => ret
  | some _ => bind (Binds.rebinds (q := o) fun s _ => rebinds_unbind s) fun _ => ret

end Binds

section Retires

variable [Free 𝓙] {d : Deployment} {key : ReplicaKey} {o : String} [Retires 𝓙 o]

theorem commitExit : 𝓙.Holds (Rollouter.commitExit key o) := by
  refine bind (readRpc (n := 2)) fun _ => bind checkSettled fun _ => bind lbCall fun _ =>
    bind (Retires.deactivate (q := o) (k := key) fun s _ => ?_) fun _ =>
      bind (still fun _ _ => rfl) fun _ => ret
  split
  · exact .inl rfl
  · exact .inr ⟨_, ‹_›, rfl⟩

theorem prepareForceExit {kind : ReplicaKind} {state : ReplicaState} {previous : Option ReplicaKey} :
    𝓙.Holds (Rollouter.prepareForceExit d key o kind state previous) :=
  bind require fun _ => bind require fun _ => bind require fun _ => bind (readRpc (n := 2)) fun _ =>
    bind require fun _ => bind (readRpc (n := 2)) fun _ => bind require fun _ => bind peek fun _ =>
      bind (when Retires.draining) fun _ => bind beginDrainOnce fun _ => bind require fun _ =>
        bind recoverForce fun _ => awaitHandoff

theorem prepareNaturalExit {state : ReplicaState} :
    𝓙.Holds (Rollouter.prepareNaturalExit d key o state) :=
  bind require fun _ => bind Retires.draining fun _ => bind beginDrainOnce fun _ => bind require fun _ =>
    awaitNaturalDrain

theorem prepareExit {force : Bool} : 𝓙.Holds (Rollouter.prepareExit d key o force) := by
  refine bind peek fun _ => bind peek fun _ => bind ?_ fun _ => still fun _ _ => rfl
  split
  · exact prepareForceExit
  · exact prepareNaturalExit

theorem commitServiceChange [Binds 𝓙 o] [Enlists 𝓙] : 𝓙.Holds (Rollouter.commitServiceChange d o) := by
  refine bind (still fun _ _ => rfl) fun ⟨target, kind, state⟩ => ?_
  cases state with
  | active =>
    refine bind (tryCatch (readRpc (n := 2)) fun _ => err) fun reconciled => ?_
    cases reconciled with
    | none => exact settlePublication
    | some _ => exact bind ofExcept fun _ => settlePublication
  | creating =>
    exact bind require fun _ => bind peek fun r => tryCatch (bind Enlists.activate fun _ =>
      bind commitReadyOrReconcile fun _ => settlePublication) fun _ => Enlists.quarantine
  | dormant =>
    exact bind require fun _ => tryCatch (bind peek fun r => bind Enlists.onServer fun _ =>
      bind Enlists.activate fun _ => bind (mapErr commitReadyOrReconcile) fun _ => settlePublication)
        fun _ => Enlists.quarantine
  | draining => exact commitExit
  | released => exact err
  | quarantined => exact err

end Retires

/-! ## `bootstrap_target` -/

section Bootstrap

variable {d : Deployment} {key : ReplicaKey} {o : String} {rs : List Replica}
  (hserver : ∀ r ∈ rs, ∀ {α : Type} {f : (Nat → Fault) → Server → Except PyErr α × Server},
    𝓙.Holds (TaskProg.onServer r f))
include hserver

theorem wakeForBootstrap {kind : ReplicaKind} : 𝓙.Holds (Trainer.wakeForBootstrap d rs kind) := by
  cases kind with
  | native =>
    exact bind (raising (gather fun r hr => hserver r hr)) fun _ => bind (raising require) fun _ =>
      bind (raising (gather fun r hr => hserver r hr)) fun _ => ret
  | borrowed => exact bind (raising (gather fun r hr => hserver r hr)) fun _ => ret

theorem loadTarget [Free 𝓙] {version : Nat} {uuids : List String}
    (htransfer : 𝓙.Holds (Trainer.transfer rs version)) :
    𝓙.Holds (Trainer.loadTarget d key o version rs uuids) := by
  refine bind (raising (bind collective fun _ => bind htransfer fun _ => collective)) fun _ =>
    raising (bind (gather fun r hr => hserver r hr) fun _ => bind (gather fun r hr => hserver r hr)
      fun _ => bind require fun _ => bind (when collective) fun _ => aside fun s _ => ?_)
  split
  · exact .rfl
  · exact ⟨rfl, rfl, rfl, rfl, rfl, .inl ⟨rfl, rfl⟩⟩

theorem bootstrapFailed [Reads 𝓙] {kind : ReplicaKind} {e : PyErr × Trainer.Bootstrap} :
    𝓙.Holds (Trainer.bootstrapFailed d o rs kind e) := by
  refine bind ?_ fun _ => bind ?_ fun _ => bind require fun _ => ?_
  · unfold Trainer.finalizeFailed
    split
    · exact bind (result collective) fun _ => ret
    · exact ret
  · cases kind with
    | native => exact bind (result (gather fun r hr => hserver r hr)) fun _ => ret
    | borrowed => exact ret
  · cases kind with
    | native => exact still fun _ _ => rfl
    | borrowed => exact err

omit hserver in
theorem bootstrapTarget [Free 𝓙] [Enlists 𝓙] {version : Nat}
    (htransfer : ∀ rs, 𝓙.Holds (Trainer.transfer rs version)) :
    𝓙.Holds (Trainer.bootstrapTarget d key o version) := by
  refine bind bootstrapHead fun head => ?_
  rcases head with evidence | ⟨rs, kind⟩
  · exact ret
  · exact tryCatch (bind (wakeForBootstrap fun _ _ => Enlists.onServer) fun _ =>
      loadTarget (fun _ _ => Enlists.onServer) (htransfer rs)) fun _ =>
        bootstrapFailed fun _ _ => Enlists.onServer

end Bootstrap

/-! ## The Trainer -/

section Trainer

variable {q : String} {T : ReplicaKey → Prop} [Targets 𝓙 q T] {b : β}

theorem raisingTarget {f : ReplicaKey → Prog TaskState Choice Event (PyErr × β) α}
    (hf : ∀ k, T k → 𝓙.Holds (f k)) :
    𝓙.Holds ((Trainer.raising b (Trainer.pendingTarget q)).bind f) := Targets.target hf

theorem onTarget {f : ReplicaKey → TaskProg α} (hf : ∀ k, T k → 𝓙.Holds (f k)) :
    𝓙.Holds ((Trainer.pendingTarget q).bind f) := by
  rw [← Prog.mapErr_id (Trainer.pendingTarget q)]
  exact Targets.target hf

/-- The target is known to what comes after the part of the body that asks for it, too. -/
theorem pastTarget {γ : Type} {f : ReplicaKey → TaskProg α}
    {g : α → Prog TaskState Choice Event (PyErr × β) γ}
    (hf : ∀ k, T k → 𝓙.Holds ((Trainer.raising b (f k)).bind g)) :
    𝓙.Holds ((Trainer.raising b ((Trainer.pendingTarget q).bind f)).bind g) := by
  unfold Trainer.raising
  rw [Prog.mapErr_bind, Prog.bind_assoc]
  exact Targets.target hf

variable {d : Deployment} {l : GateOwner} {k : ReplicaKey} {evidence : Option OperationEvidence}
  {rs : List Replica}
  (hcommit : 𝓙.Holds (Rollouter.commitServiceChange d q))
  (hrelease : 𝓙.Holds (Rollouter.finalizeRelease d q))
  (hload : ∀ k, T k → ∀ version, 𝓙.Holds (Trainer.bootstrapTarget d k q version))
  (hquarantine : 𝓙.Holds (TaskProg.call (Rollouter.quarantineDormantRestore q)))

include T hcommit in
theorem reconcileExit [Reads 𝓙] : 𝓙.Holds (Trainer.reconcileExit d q) := by
  refine bind peek fun fenced => ?_
  split
  swap
  · exact ret
  refine onTarget fun k _ => bind peek fun member => ?_
  split
  · exact ret
  refine bind (reconcile (bind (rpc hcommit) fun _ => requireEvidence)) fun evidence => ?_
  cases evidence with
  | none => exact err
  | some _ => exact ret

variable [Free 𝓙]

include T hcommit in
theorem removeAndCommit : 𝓙.Holds (Trainer.removeAndCommit d q) := by
  refine bind acquire fun lease => tryFinally (tryCatch ?_ fun e =>
    bind (when block) fun _ => err) release
  exact bind (raising (onTarget fun _ _ => bind peek fun _ => bind require fun _ =>
    bind (guard fun s o => aside_onCe s o) fun _ => ret)) fun ⟨target, rs⟩ =>
      raising (bind (when (guard fun s o => aside_onCe s o)) fun _ =>
        bind (guardAsync (rpc hcommit)) fun _ => requireEvidence)

include hrelease in
omit [Targets 𝓙 q T] in
theorem settleAdd : 𝓙.Holds (Trainer.settleAdd d q l k evidence) := by
  cases evidence with
  | none =>
    exact bind (guard fun s o => aside_onCe s o) fun _ => bind (guardAsync (rpc hrelease)) fun _ =>
      requireEvidence
  | some evidence =>
    rw [Trainer.settleAdd]
    split
    · exact bind requireEvidence fun _ => bind (guard fun s o => aside_onCe s o) fun _ => ret
    · exact requireEvidence

include hrelease in
omit [Targets 𝓙 q T] in
theorem settleRestore : 𝓙.Holds (Trainer.settleRestore d q l k rs evidence) := by
  cases evidence with
  | none =>
    exact bind (guard fun s o => aside_onCe s o) fun _ => bind (guard fun s o => aside_onCe s o) fun _ =>
      bind (guardAsync (rpc hrelease)) fun _ => requireEvidence
  | some evidence =>
    rw [Trainer.settleRestore]
    exact requireEvidence

include hcommit hrelease

omit [Targets 𝓙 q T] in
theorem reconcilePublish {restoreNative : Bool} :
    𝓙.Holds (Trainer.reconcilePublish d q restoreNative k rs) := by
  refine bind (rpc hcommit) fun evidence => ?_
  cases evidence with
  | none =>
    exact bind (aside fun s o => aside_onCe s o) fun _ => bind (when (aside fun s o => aside_onCe s o))
      fun _ => bind (rpc hrelease) fun _ => requireEvidence
  | some evidence =>
    dsimp only
    split
    · exact bind (aside fun s o => aside_onCe s o) fun _ => requireEvidence
    · exact requireEvidence

include T in
theorem reconcileBlockedPublish {restoreNative : Bool} :
    𝓙.Holds (Trainer.reconcileBlockedPublish d q restoreNative) := by
  refine bind peek fun fenced => ?_
  split
  swap
  · exact ret
  refine onTarget fun k _ => bind peek fun member => ?_
  split
  · exact ret
  refine bind (reconcile (reconcilePublish hcommit hrelease)) fun evidence => ?_
  cases evidence with
  | none => exact err
  | some _ => exact ret

include hload

theorem bootstrapAndPublish : 𝓙.Holds (Trainer.bootstrapAndPublish d q) := by
  refine bind (reconcileBlockedPublish hcommit hrelease) fun reconciled => ?_
  cases reconciled with
  | some _ => exact returning
  | none =>
    refine bind acquire fun lease => bind (tryFinally (tryCatch ?_ fun e => ?_) release) fun _ => returning
    · exact raisingTarget fun k hk => bind (raising (bind (rpc peek) fun _ =>
        bind require fun _ => bind require fun _ => guard fun s o => aside_onCe s o)) fun _ =>
          bind (raising (bind peek fun _ => bind (guardAsync (hload k hk _)) fun _ =>
            bind requireEvidence fun _ => guard fun s o => aside_onCe s o)) fun _ =>
              raising (bind (guardAsync (rpc hcommit)) fun _ => settleAdd hrelease)
    · split
      · refine bind (result ?_) fun discarded => bind (result (bind (guardAsync
          (rpc hrelease)) fun _ => requireEvidence)) fun released => ?_
        · split
          · exact guard fun s o => aside_onCe s o
          · exact ret
        · split
          · exact ret
          · exact bind block fun _ => err
      · exact bind block fun _ => err

include hquarantine

theorem restoreAndPublish : 𝓙.Holds (Trainer.restoreAndPublish d q) := by
  refine bind (reconcileBlockedPublish hcommit hrelease) fun reconciled => ?_
  cases reconciled with
  | some _ => exact returning
  | none =>
    refine bind acquire fun lease => bind (tryFinally (tryCatch ?_ fun e => ?_) release) fun _ => returning
    · -- what the first part returns is what it has asked for
      have hpublish {k rs} (hk : T k) : 𝓙.Holds (Trainer.raising true ((TaskProg.guard lease
          (Trainer.registerPending k rs q)).bind fun _ => Trainer.currentVersion.bind fun version =>
            (TaskProg.guardAsync lease (Trainer.bootstrapTarget d k q version)).bind fun weight =>
              Trainer.publishRestored d q lease k rs weight)) := by
        refine raising (bind (guard fun s o => aside_onCe s o) fun _ => bind peek fun _ =>
          bind (guardAsync (hload k hk _)) fun weight => ?_)
        unfold Trainer.publishRestored
        split
        · exact requireEvidence
        · exact bind requireEvidence fun _ => bind (guard fun s o => aside_onCe s o) fun _ =>
            bind (guardAsync (rpc hcommit)) fun _ => settleRestore hrelease
      exact pastTarget fun k hk => mapErr_bind peek fun rs => mapErr_bind require fun _ =>
        mapErr_bind (guard fun s o => aside_onCe s o) fun _ => hpublish hk
    · refine bind (when (bind (result (rpc hquarantine)) fun r => ?_)) fun _ => err
      cases r with
      | ok _ => exact block
      | error _ => exact block

end Trainer

/-! ## The TaskRunner -/

section TaskRunner

variable {d : Deployment} {c : OperationCommand} {evidence : OperationEvidence} [Ends 𝓙]

theorem finish {o : String} {status : OperationStatus} {message : String} :
    𝓙.Holds (TaskRunner.finish o status message) := Ends.finish

theorem drainTarget [Reads 𝓙]
    (hexit : 𝓙.Holds (Rollouter.prepareExit d c.target c.operationId (c.force.getD false))) :
    𝓙.Holds (TaskRunner.drainTarget d c) := by
  refine bind (result (rpc hexit)) fun drained => ?_
  rcases drained with e | evidence
  · refine bind (result (rpc peek)) fun bound => ?_
    rcases bound with query | target
    · dsimp only
      split
      · exact err
      · exact bind finish fun _ => ret
    · exact err
  · exact bind ofExcept fun _ => ret

variable [Sends 𝓙]

omit [Ends 𝓙] in
theorem advanceLease : 𝓙.Holds (TaskRunner.advanceLease c evidence) :=
  tryCatch Sends.send fun _ => Sends.send

/-- Evidence is checked and sent, and the operation ends. -/
theorem report {expected : EvidenceType} {label message : String} {status : OperationStatus} :
    𝓙.Holds ((Prog.ofExcept (requireOperationEvidence evidence c.operationId expected label) :
      TaskProg OperationEvidence).bind fun evidence => (TaskRunner.advanceLease c evidence).bind fun _ =>
        TaskRunner.finish c.operationId status message) :=
  bind ofExcept fun _ => bind advanceLease fun _ => finish

variable [Reads 𝓙]

theorem releaseTarget (hrelease : 𝓙.Holds (Rollouter.finalizeRelease d c.operationId)) :
    𝓙.Holds (TaskRunner.releaseTarget d c evidence) :=
  bind ofExcept fun _ => bind (rpc hrelease) fun _ => report

variable (hexit : 𝓙.Holds (Rollouter.prepareExit d c.target c.operationId (c.force.getD false)))
  (hremove : 𝓙.Holds (Trainer.removeAndCommit d c.operationId))
  (hreconcile : 𝓙.Holds (Trainer.reconcileExit d c.operationId))
  (hrelease : 𝓙.Holds (Rollouter.finalizeRelease d c.operationId))

include hexit hremove hrelease

theorem drainAndRelease : 𝓙.Holds (TaskRunner.drainAndRelease d c) := by
  refine bind (drainTarget hexit) fun drained => ?_
  cases drained with
  | none => exact ret
  | some _ => exact bind (rpc hremove) fun _ => releaseTarget hrelease

include hreconcile

theorem executeExit {reconciling : Bool} : 𝓙.Holds (TaskRunner.executeExit d c reconciling) := by
  unfold TaskRunner.executeExit
  dsimp only
  split
  · exact drainAndRelease hexit hremove hrelease
  · refine bind (rpc peek) fun prior => ?_
    cases prior with
    | some _ => exact report
    | none =>
      refine bind (rpc hreconcile) fun service => ?_
      cases service with
      | some _ => exact releaseTarget hrelease
      | none => exact drainAndRelease hexit hremove hrelease

omit hexit hremove hreconcile hrelease

theorem executeRestore (hprepare : 𝓙.Holds (Rollouter.prepareReplica d c.target c.operationId none))
    (hrestore : 𝓙.Holds (Trainer.restoreAndPublish d c.operationId)) :
    𝓙.Holds (TaskRunner.executeRestore d c) := by
  refine bind (rpc hprepare) fun _ => bind (rpc hrestore) fun evidence => ?_
  split <;> exact report

theorem executeAdd
    (hprepare : ∀ spec, 𝓙.Holds (Rollouter.prepareReplica d c.target c.operationId (some spec)))
    (hpublish : 𝓙.Holds (Trainer.bootstrapAndPublish d c.operationId)) :
    𝓙.Holds (TaskRunner.executeAdd d c) := by
  refine bind peek fun lease => ?_
  have hpublished : 𝓙.Holds ((TaskProg.rpc (Trainer.bootstrapAndPublish d c.operationId)).bind
      fun evidence => if evidence.type = .released then
        TaskRunner.finishFailedRelease c evidence
          "ADD bootstrap failed; hidden runtime was verified RELEASED"
      else (Prog.ofExcept (requireOperationEvidence evidence c.operationId .serviceCommitted
        "operation")).bind fun _ => TaskRunner.finish c.operationId .succeeded "SERVICE_COMMITTED") := by
    refine bind (rpc hpublish) fun evidence => ?_
    split
    · exact report
    · exact bind ofExcept fun _ => finish
  split
  · exact Ends.finish
  · refine bind (rpc (hprepare _)) fun prepared => ?_
    cases prepared with
    | released _ => exact report
    | bound => exact hpublished
    | runtime _ => exact hpublished

end TaskRunner

end Judgement.Holds
