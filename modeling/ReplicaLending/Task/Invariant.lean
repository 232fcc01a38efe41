import ReplicaLending.Task.System
/-!
# What holds of a task at all times

The invariant of the machine of one task, in parts that each speak of a few of its components, so
that a step has to restore only the parts whose components it changes.

* `Wired` — the inventory, the effective set and the pending table agree on who a runtime is.
* `Listed` — the three service lists are one list, of the runtimes in service.
* `Routed` — the router only knows runtimes of the inventory, and its pool only effective ones.
* `Parking` — a DORMANT native replica has its receiver parked, unless the RESTORE of it is at work
  under the gate or has left the gate blocked.
* `Publishing`, `InFlight`, `Bindings`, `Reported` — what the unfinished operation has left behind.
* `Serving` — a member is awake and in service, unless the publication of it is at work. This part
  holds of the `strict` runs only, those in which a publishing operation never takes the exit branch
  of `commit_service_change`.

Between two operations only the first four and the last say anything.
-/

namespace ReplicaLending

open TaskState Rollouter

/-- DONATE and REMOVE. -/
def OperationKind.exits : OperationKind → Bool
  | .donate | .remove => true
  | .add | .restore => false

/-! ## Runtimes and membership -/

/-- The runtime is the key's: in the inventory, or as a receiver. -/
def Holds (m : LLMServerManager) (ce : CheckpointEngineManager) (k : ReplicaKey) (r : Replica) :
    Prop :=
  m.runtimeInventory.get? k = some r ∨ ce.members k = some [r] ∨
    ∃ o, ce.pending.get? k = some ([r], o)

structure Wired (m : LLMServerManager) (ce : CheckpointEngineManager) : Prop where
  holds_inj : ∀ {k k' r r'}, Holds m ce k r → Holds m ce k' r' → r.rank = r'.rank → k = k' ∧ r = r'
  rank_lt : ∀ {k r}, Holds m ce k r → r.rank < m.nextReplicaRank
  address_inj : ∀ {k k' r r'}, m.runtimeInventory.get? k = some r →
    m.runtimeInventory.get? k' = some r' → r.address = r'.address → k = k'
  runtime_kind : ∀ {k r}, m.runtimeInventory.get? k = some r → m.replicaKind.get? k = some r.kind
  kind_state : ∀ k, (m.replicaKind.get? k).isSome = (m.replicaState.get? k).isSome
  native_state : ∀ {k}, m.replicaKind.get? k = some .native → m.replicaState.get? k ≠ some .creating ∧
    m.replicaState.get? k ≠ some .released ∧ (m.runtimeInventory.get? k).isSome
  borrowed_state : ∀ {k}, m.replicaKind.get? k = some .borrowed →
    m.replicaState.get? k ≠ some .dormant
  active_member : ∀ {k}, m.replicaState.get? k = some .active → (ce.members k).isSome
  member : ∀ {k rs}, ce.members k = some rs → ∃ r, rs = [r] ∧
    (m.runtimeInventory.get? k = some r ∨ m.replicaState.get? k = some .released)
  pending : ∀ {k rs o}, ce.pending.get? k = some (rs, o) →
    ∃ r, rs = [r] ∧ m.runtimeInventory.get? k = some r
  disjoint : ∀ {k}, (ce.members k).isSome → ce.pending.get? k = none
  receivers : ∀ r, r ∈ ce.replicas ↔ ∃ k, ce.members k = some [r]
  released_gone : ∀ {k}, m.replicaState.get? k = some .released → m.runtimeInventory.get? k = none

/-- The service lists of the Manager. -/
structure Listed (m : LLMServerManager) : Prop where
  nodup : m.rolloutReplicas.Nodup
  addresses : m.serverAddresses = m.rolloutReplicas.map Replica.address
  handles : m.serverHandles = m.rolloutReplicas.map Replica.rank
  owned : ∀ {r}, r ∈ m.rolloutReplicas → ∃ k, m.runtimeInventory.get? k = some r
  creating : ∀ {k r}, m.replicaState.get? k = some .creating → m.runtimeInventory.get? k = some r →
    r ∉ m.rolloutReplicas
  active : ∀ {k r}, m.replicaState.get? k = some .active → m.runtimeInventory.get? k = some r →
    r ∈ m.rolloutReplicas
  dormant : ∀ {k r}, m.replicaState.get? k = some .dormant → m.runtimeInventory.get? k = some r →
    r ∉ m.rolloutReplicas

/-- The runtime of the key is in no service list. -/
def Unlisted (m : LLMServerManager) (k : ReplicaKey) : Prop :=
  ∀ r, m.runtimeInventory.get? k = some r → r ∉ m.rolloutReplicas

/-! ## The router -/

structure Routed (m : LLMServerManager) (ce : CheckpointEngineManager)
    (lb : GlobalRequestLoadBalancer) (commands : Dict String OperationCommand) : Prop where
  route : ∀ {k x}, lb.routes.get? k = some x → ∃ r, m.runtimeInventory.get? k = some r ∧
    x = r.address ∧ (m.replicaState.get? k = some .active ∨ m.replicaState.get? k = some .draining)
  pool : ∀ {x}, (lb.servers.get? x).isSome → ∃ k, lb.routes.get? k = some x ∧ (ce.members k).isSome
  ledger : ∀ {o k x ev}, lb.readyOperations.get? o = some (k, x, ev) → lb.routes.get? k = some x ∧
    ∃ c, commands.get? o = some c ∧ c.target = k
  admitted : ∀ {r}, lb.attemptState.get? r = some .admitted → ∃ x k,
    lb.activeRequestServer.get? r = some x ∧ lb.routes.get? k = some x

/-! ## The gate -/

structure GateOk (gate : ReplicaSyncGate) (native : Option GateOwner) : Prop where
  waiters : gate.lock.waiters = []
  owner : gate.lock.locked = false → gate.owner = none
  native : ∀ {ow}, native = some ow → gate.owner = some ow ∧ gate.lock.locked = true ∧
    gate.blockedReason = none

/-- A lock with no waiters is free once it is released. -/
theorem GateOk.lock_release {gate : ReplicaSyncGate} {native : Option GateOwner}
    (h : GateOk gate native) (hl : gate.lock.locked = true) : gate.lock.release = ⟨false, []⟩ := by
  have hw := h.waiters
  unfold AsyncLock.release AsyncLock.wakeUpFirst
  rw [if_pos hl, hw]

/-- The lifecycle thread holds the gate for the operation. -/
def Held (gate : ReplicaSyncGate) (native : Option GateOwner) (o : String) : Prop :=
  gate.lock.locked = true ∧ native = none ∧ ∃ ow, gate.owner = some ow ∧ ow.operationId = o

/-- The gate is BLOCKED by the operation. -/
def Fenced (gate : ReplicaSyncGate) (o : String) : Prop :=
  gate.blockedReason.isSome ∧ gate.blockedOperationId = some o

def Guarded (gate : ReplicaSyncGate) (native : Option GateOwner) (o : String) : Prop :=
  Held gate native o ∨ Fenced gate o

/-! ## Parked receivers -/

/-- The runtime of the key waits in the pending table: not effective, no bootstrap receipt. -/
def Parked (m : LLMServerManager) (ce : CheckpointEngineManager) (k : ReplicaKey) : Prop :=
  ∃ r o, m.runtimeInventory.get? k = some r ∧ ce.pending.get? k = some ([r], o) ∧
    ce.members k = none ∧ ce.ready.get? k = none

structure Parking (m : LLMServerManager) (ce : CheckpointEngineManager) (ro : Rollouter)
    (gate : ReplicaSyncGate) (native : Option GateOwner) (current : Option OperationCommand) :
    Prop where
  dormant : ∀ {k}, m.replicaState.get? k = some .dormant → Parked m ce k ∨
    ∃ c, current = some c ∧ c.kind = .restore ∧ c.target = k ∧ Guarded gate native c.operationId
  draining : ∀ {k}, m.replicaKind.get? k = some .native → m.replicaState.get? k = some .draining →
    ce.members k = none → Parked m ce k ∨
      ∃ c, current = some c ∧ c.target = k ∧ Held gate native c.operationId ∧
        ro.pendingOperationTargets.get? c.operationId = some k
  /-- A borrowed runtime is only ever pending while its ADD is at work. -/
  hidden : ∀ {k}, m.replicaKind.get? k = some .borrowed → (ce.pending.get? k).isSome →
    ∃ c, current = some c ∧ c.kind = .add ∧ c.target = k ∧ Guarded gate native c.operationId

/-! ## What the unfinished operation has left behind -/

/-- An ADD has a record with the Manager, a RESTORE a binding with the Rollouter. -/
def Started (m : LLMServerManager) (ro : Rollouter) (c : OperationCommand) : Prop :=
  match c.kind with
  | .add => ∃ l rec, m.borrowedOperations.get? l = some rec ∧
      rec.resolved.spec.operationId = c.operationId
  | _ => ro.pendingOperationTargets.get? c.operationId = some c.target

/-- What a publishing operation may have done to its target. -/
structure Publication (m : LLMServerManager) (lb : GlobalRequestLoadBalancer)
    (c : OperationCommand) : Prop where
  /-- Whatever route the target has is the operation's own, and open. -/
  route : ∀ {x}, lb.routes.get? c.target = some x → m.replicaState.get? c.target = some .active ∧
    (lb.servers.get? x).isSome ∧ ∃ ev, lb.readyOperations.get? c.operationId = some (c.target, x, ev)
  unlisted : m.replicaState.get? c.target = some .draining → Unlisted m c.target

def Publishing (m : LLMServerManager) (lb : GlobalRequestLoadBalancer) (ro : Rollouter)
    (current : Option OperationCommand) : Prop :=
  ∀ {c}, current = some c → c.kind.exits = false → Started m ro c → Publication m lb c

/-- A late call of the operation, and what the call finds. -/
def CallOk (m : LLMServerManager) (c : OperationCommand) : LbCall → Prop
  | .commitReady k x h o => c.kind.exits = false ∧ k = c.target ∧ o = c.operationId ∧
      m.replicaState.get? k = some .active ∧
      ∃ r, m.runtimeInventory.get? k = some r ∧ x = r.address ∧ h = r.rank
  | .beginDrain k o => c.kind.exits = true ∧ k = c.target ∧ o = c.operationId
  | .finishRemove k => k = c.target ∧ m.replicaState.get? k = some .draining

def InFlight (m : LLMServerManager) (ro : Rollouter) (gate : ReplicaSyncGate)
    (native : Option GateOwner) (current : Option OperationCommand) (calls : List LbCall) : Prop :=
  calls ≠ [] → ∃ c, current = some c ∧ (∀ call ∈ calls, CallOk m c call) ∧
    if c.kind.exits then ro.pendingOperationTargets.get? c.operationId = some c.target
    else Started m ro c ∧ Guarded gate native c.operationId

structure Bindings (m : LLMServerManager) (ro : Rollouter) (commands : Dict String OperationCommand)
    (current : Option OperationCommand) : Prop where
  target : ∀ {o k}, ro.pendingOperationTargets.get? o = some k →
    ∃ c, commands.get? o = some c ∧ c.target = k
  exit : ∀ {c}, current = some c → c.kind.exits = true →
    ro.pendingOperationTargets.get? c.operationId = some c.target →
    m.replicaState.get? c.target = some .draining ∨ m.replicaState.get? c.target = some .quarantined

/-- The Manager's records of borrowed runtimes. -/
structure Records (m : LLMServerManager) (commands : Dict String OperationCommand) : Prop where
  command : ∀ {l rec}, m.borrowedOperations.get? l = some rec → ∃ c,
    commands.get? rec.resolved.spec.operationId = some c ∧ c.kind = .add ∧
      c.target = rec.resolved.key
  borrowed : ∀ {l rec}, m.borrowedOperations.get? l = some rec →
    m.replicaKind.get? rec.resolved.key = some .borrowed
  unique : ∀ {l l' rec rec'}, m.borrowedOperations.get? l = some rec →
    m.borrowedOperations.get? l' = some rec' → rec.resolved.key = rec'.resolved.key → l = l'
  runtime : ∀ {l rec r}, m.borrowedOperations.get? l = some rec →
    m.runtimeInventory.get? rec.resolved.key = some r →
    rec.result = some r.address ∧ rec.replicaRank = r.rank
  rank_lt : ∀ {l rec}, m.borrowedOperations.get? l = some rec → rec.replicaRank < m.nextReplicaRank
  rank_inj : ∀ {l l' rec rec'}, m.borrowedOperations.get? l = some rec →
    m.borrowedOperations.get? l' = some rec' → rec.replicaRank = rec'.replicaRank → l = l'
  owner : ∀ {l rec k r}, m.borrowedOperations.get? l = some rec →
    m.runtimeInventory.get? k = some r → r.rank = rec.replicaRank → k = rec.resolved.key
  native : ∀ {o k ev}, m.nativeReleaseEvidence.get? o = some (k, ev) →
    ∃ c, commands.get? o = some c ∧ c.target = k
  destroyed : ∀ {l rec ev}, m.borrowedOperations.get? l = some rec →
    rec.destroyEvidence = some ev → ∃ c, commands.get? ev.operationId = some c

/-! ## Released runtimes -/

/-- The Manager has recorded evidence of the operation that the key is released. -/
def Recorded (m : LLMServerManager) (k : ReplicaKey) (o : String) : Prop :=
  ∃ ev, m.queryReleaseEvidence k o = .ok (some ev)

/-- The runtime a key has or, once destroyed, had: its address and its rank. -/
def RuntimeOf (m : LLMServerManager) (k : ReplicaKey) (address : String) (rank : Nat) : Prop :=
  (m.replicaKind.get? k = some .native ∧ ∃ r, m.runtimeInventory.get? k = some r ∧
    r.address = address ∧ r.rank = rank) ∨
  (m.replicaKind.get? k = some .borrowed ∧ ∃ l rec, m.borrowedOperations.get? l = some rec ∧
    rec.resolved.key = k ∧ rec.result = some address ∧ rec.replicaRank = rank)

/-- The runtime no longer holds an accelerator: asleep if native, destroyed if borrowed. -/
def Vacated (m : LLMServerManager) (k : ReplicaKey) (v : Server) : Prop :=
  match m.replicaKind.get? k with
  | some .native => v.isSleeping = true
  | _ => v.serverAlive = false ∧ v.workerAlive = false

/-- Out of service and physically released. -/
structure Gone (m : LLMServerManager) (ce : CheckpointEngineManager)
    (lb : GlobalRequestLoadBalancer) (world : Nat → Server) (k : ReplicaKey) : Prop where
  closed : m.replicaState.get? k = some .dormant ∨ m.replicaState.get? k = some .released
  member : ce.members k = none
  route : lb.routes.get? k = none
  runtime : ∃ address rank, RuntimeOf m k address rank ∧ Vacated m k (world rank) ∧
    (∀ r ∈ m.rolloutReplicas, r.address ≠ address ∧ r.rank ≠ rank) ∧
    ∀ k' r', m.runtimeInventory.get? k' = some r' → r'.address = address → k' = k

structure Reported (m : LLMServerManager) (ce : CheckpointEngineManager)
    (lb : GlobalRequestLoadBalancer) (world : Nat → Server) (commands : Dict String OperationCommand)
    (current : Option OperationCommand) (outbox : List (String × OperationEvidence)) : Prop where
  outbox : ∀ {l ev}, (l, ev) ∈ outbox → ∃ c, commands.get? ev.operationId = some c ∧
    (c.kind.exits = true → current = some c ∧ Recorded m c.target c.operationId)
  gone : ∀ {c}, current = some c → c.kind.exits = true → Recorded m c.target c.operationId →
    Gone m ce lb world c.target

/-! ## The journal -/

structure JournalOk (d : Deployment) (j : OperationJournal) : Prop where
  known : ∀ o, (j.records.get? o).isSome = (j.commands.get? o).isSome
  command : ∀ {o c}, j.commands.get? o = some c →
    c.operationId = o ∧ c.target.taskSession = d.taskSession
  unfinished : ∀ {o r}, j.records.get? o = some r → r.status.resolved = false →
    j.activeByTask.get? d.taskSession = some o
  active : ∀ {o}, j.activeByTask.get? d.taskSession = some o → (j.records.get? o).isSome

/-! ## Who may be sent weights -/

/-- A publishing operation is at work on the key, or has left the gate blocked. -/
def AtWork (gate : ReplicaSyncGate) (native : Option GateOwner) (current : Option OperationCommand)
    (k : ReplicaKey) : Prop :=
  ∃ c, current = some c ∧ c.kind.exits = false ∧ c.target = k ∧ Guarded gate native c.operationId

/-- The Manager's record is ACTIVE or DRAINING. -/
def InService (m : LLMServerManager) (k : ReplicaKey) : Prop :=
  m.replicaState.get? k = some .active ∨ m.replicaState.get? k = some .draining

/-- Resident and not destroyed. -/
def Server.Awake (v : Server) : Prop := v.serverAlive = true ∧ v.isSleeping = false

structure Serving (m : LLMServerManager) (ce : CheckpointEngineManager) (world : Nat → Server)
    (ro : Rollouter) (gate : ReplicaSyncGate) (native : Option GateOwner)
    (current : Option OperationCommand) : Prop where
  state : ∀ {k}, (ce.members k).isSome → InService m k ∨ AtWork gate native current k
  awake : ∀ {k r}, ce.members k = some [r] →
    InService m k ∨ m.replicaState.get? k = some .creating → (world r.rank).Awake
  built : ∀ {k r}, m.replicaState.get? k = some .creating → m.runtimeInventory.get? k = some r →
    (world r.rank).weights = true ∨ AtWork gate native current k
  receipt : ∀ {k}, (ce.ready.get? k).isSome →
    (ce.members k).isSome ∨ AtWork gate native current k
  known : ∀ {k}, (ce.ready.get? k).isSome → (m.replicaKind.get? k).isSome
  leaving : ∀ {c}, current = some c → c.kind.exits = false → Started m ro c →
    m.replicaState.get? c.target = some .draining → Guarded gate native c.operationId
  gone : ∀ {k}, m.replicaState.get? k = some .released →
    ce.members k = none ∧ ce.ready.get? k = none

/-- The invariant of the machine of one task. -/
structure Inv (d : Deployment) (strict : Prop) (s : TaskState) : Prop where
  wired : Wired s.manager s.ce
  listed : Listed s.manager
  routed : Routed s.manager s.ce s.lb s.journal.commands
  gate : GateOk s.gate s.nativeSync
  parking : Parking s.manager s.ce s.rollouter s.gate s.nativeSync
    (s.journal.current d.taskSession)
  publishing : Publishing s.manager s.lb s.rollouter (s.journal.current d.taskSession)
  inFlight : InFlight s.manager s.rollouter s.gate s.nativeSync (s.journal.current d.taskSession)
    s.inflight
  bindings : Bindings s.manager s.rollouter s.journal.commands (s.journal.current d.taskSession)
  records : Records s.manager s.journal.commands
  reported : Reported s.manager s.ce s.lb s.world s.journal.commands
    (s.journal.current d.taskSession) s.outbox
  serving : strict → Serving s.manager s.ce s.world s.rollouter s.gate s.nativeSync
    (s.journal.current d.taskSession)
  journal : JournalOk d s.journal
  closing : ∀ c ∈ s.closing, ∃ r, s.journal.records.get? c.operationId = some r ∧
    r.status.resolved = true
  sent : ∀ e ∈ s.outbox, ∀ r, s.journal.records.get? e.2.operationId = some r →
    r.status ≠ .accepted
  leases : ∀ {o l}, s.operationLeases.get? o = some l →
    ∃ c, s.journal.commands.get? o = some c ∧ l.leaseId = c.leaseId

end ReplicaLending
