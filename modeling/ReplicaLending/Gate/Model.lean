import Mathlib.Logic.Function.Basic
import ReplicaLending.Library.Machine
import ReplicaLending.Contracts
/-!
# `ReplicaSyncGate` (`orchestration/replica_sync_gate.py`)

The gate is an `asyncio.Lock` with an owner record, an epoch counter and a BLOCKED latch. Its
coroutines suspend in three places: inside `lock.acquire()`, inside a reconcile callback and inside
a guarded call. `GateSystem` runs any number of them side by side; a label is one uninterrupted
stretch of code between two suspensions, and every timeout, cancellation and exception is a choice
of label.

| here | there |
| --- | --- |
| `AsyncLock`                       | `asyncio.Lock`: FIFO of futures, cancel-safe `acquire` |
| `acquireHead`, `acquireTail`      | `acquire` before and after `lock.acquire()` (:144-183) |
| `reconcileHead`, `reconcileTail`  | `reconcile` before and after `lock.acquire()` (:93-128) |
| `reconcileEnd`                    | the end of the callback and the two `finally` (:129-141) |
| `Pc.granted`                      | the lock is taken inside `wait_for`, the caller has not resumed |
-/

namespace ReplicaLending

inductive GateKind | add | remove | restore | nativeSync | recovery
deriving DecidableEq, Repr

/-- `GateOwner` (replica_sync_gate.py:33). -/
structure GateOwner where
  operationId : String
  kind : GateKind
  epoch : Nat
  acquiredAt : Nat
deriving DecidableEq, Repr

def gateFencedError (m : String) : PyErr := ⟨.gateFencedError, m⟩

/-! ## `asyncio.Lock` -/

/-- The future a queued `acquire` awaits. -/
inductive Fut | pending | woken | cancelled
deriving DecidableEq, Repr

/-- `asyncio.Lock`: the flag and the queue of waiting tasks with their futures. -/
structure AsyncLock where
  locked : Bool
  waiters : List (Nat × Fut)
deriving Repr

namespace AsyncLock

def init : AsyncLock := ⟨false, []⟩

/-- The test of the fast path of `acquire`: unlocked, and nobody but cancelled waiters queued. -/
def free (l : AsyncLock) : Bool := !l.locked && l.waiters.all (fun w => w.2 = .cancelled)

def take (l : AsyncLock) : AsyncLock := { l with locked := true }

def enqueue (l : AsyncLock) (t : Nat) : AsyncLock :=
  { l with waiters := l.waiters ++ [(t, .pending)] }

/-- `_wake_up_first`. -/
def wakeUpFirst (l : AsyncLock) : AsyncLock :=
  match l.waiters with
  | (t, .pending) :: ws => { l with waiters := (t, .woken) :: ws }
  | _ => l

/-- `release`; on an unlocked lock it raises and changes nothing. -/
def release (l : AsyncLock) : AsyncLock :=
  if l.locked then ({ l with locked := false } : AsyncLock).wakeUpFirst else l

/-- `self._waiters.remove(fut)`. -/
def remove (l : AsyncLock) (t : Nat) : AsyncLock :=
  { l with waiters := l.waiters.filter (fun w => w.1 ≠ t) }

/-- `fut.cancel()` on the future of task `t`. -/
def cancel (l : AsyncLock) (t : Nat) : AsyncLock :=
  { l with waiters := l.waiters.map fun w => if w = (t, .pending) then (t, .cancelled) else w }

/-- The `except CancelledError` of `acquire`. -/
def unwind (l : AsyncLock) (t : Nat) : AsyncLock :=
  if l.locked then l.remove t else (l.remove t).wakeUpFirst

end AsyncLock

/-! ## The gate -/

/-- `ReplicaSyncGate.__init__` (:57). -/
structure ReplicaSyncGate where
  lock : AsyncLock
  owner : Option GateOwner
  epoch : Nat
  blockedReason : Option String
  blockedOperationId : Option String
deriving Repr

namespace ReplicaSyncGate

def init : ReplicaSyncGate := ⟨.init, none, 0, none, none⟩

/-- `_is_active` (:185). -/
def isActive (g : ReplicaSyncGate) (owner : GateOwner) : Prop :=
  g.owner = some owner ∧ g.lock.locked = true

instance (g : ReplicaSyncGate) (o : GateOwner) : Decidable (g.isActive o) :=
  inferInstanceAs (Decidable (_ ∧ _))

/-- `_require_healthy` (:89). -/
def requireHealthy (g : ReplicaSyncGate) : Except PyErr Unit :=
  match g.blockedReason with
  | some reason => .error (gateFencedError ("Replica synchronization is BLOCKED: " ++ reason))
  | none => .ok ()

/-- `block` (:77). -/
def block (g : ReplicaSyncGate) (owner : GateOwner) (reason : String) :
    Except PyErr Unit × ReplicaSyncGate :=
  if ¬ g.isActive owner then
    (.error (gateFencedError "Only the current gate owner may block synchronization"), g)
  else if reason = "" then (.error (.valueError "A blocked gate requires a reason"), g)
  else (.ok (), { g with
    blockedReason := some reason, blockedOperationId := some owner.operationId })

/-- `_release` (:188). -/
def release (g : ReplicaSyncGate) (owner : GateOwner) : Bool × ReplicaSyncGate :=
  if g.isActive owner then (true, { g with owner := none, lock := g.lock.release })
  else (false, g)

/-- `self._epoch += 1` and the new owner. -/
def own (g : ReplicaSyncGate) (operationId : String) (kind : GateKind) (now : Nat) :
    GateOwner × ReplicaSyncGate :=
  let owner := ⟨operationId, kind, g.epoch + 1, now⟩
  (owner, { g with epoch := g.epoch + 1, owner := some owner })

/-- `acquire` up to `lock.acquire()` (:150-156). -/
def acquireHead (g : ReplicaSyncGate) (operationId : String) : Except PyErr Unit := do
  if operationId = "" then throw (.valueError "operation_id must be a nonempty string")
  g.requireHealthy
  if g.owner.any (fun o => o.operationId = operationId) then
    throw ⟨.gateReentryError, "operation '" ++ operationId ++ "' already owns the replica sync gate"⟩

/-- `acquire` with the lock taken (:170-183). -/
def acquireTail (g : ReplicaSyncGate) (operationId : String) (kind : GateKind) (now : Nat) :
    Except PyErr GateOwner × ReplicaSyncGate :=
  match g.requireHealthy with
  | .error e => (.error e, { g with lock := g.lock.release })
  | .ok () => (.ok (g.own operationId kind now).1, (g.own operationId kind now).2)

theorem acquireTail_blocked {g : ReplicaSyncGate} {op : String} {kind : GateKind} {now : Nat}
    {reason : String} (h : g.blockedReason = some reason) : g.acquireTail op kind now =
      (.error (gateFencedError ("Replica synchronization is BLOCKED: " ++ reason)),
        { g with lock := g.lock.release }) := by
  simp [acquireTail, requireHealthy, h]

theorem acquireTail_healthy {g : ReplicaSyncGate} {op : String} {kind : GateKind} {now : Nat}
    (h : g.blockedReason = none) :
    g.acquireTail op kind now = (.ok (g.own op kind now).1, (g.own op kind now).2) := by
  simp [acquireTail, requireHealthy, h]

/-- `reconcile` up to `lock.acquire()` (:104-113): whether it goes on to wait for the lock. -/
def reconcileHead (g : ReplicaSyncGate) (operationId : String) : Except PyErr Bool :=
  if operationId = "" then .error (.valueError "operation_id must be a nonempty string")
  else if g.blockedReason = none then .ok false
  else if g.blockedOperationId ≠ some operationId then .error
    (gateFencedError "Only the operation that blocked synchronization may reconcile it")
  else .ok true

/-- `reconcile` with the lock taken, up to the callback (:117-131): the owner the callback runs
under, or `none` when another reconciler has been here. -/
def reconcileTail (g : ReplicaSyncGate) (operationId : String) (now : Nat) :
    Except PyErr (Option GateOwner) × ReplicaSyncGate :=
  if g.blockedReason = none then (.ok none, { g with lock := g.lock.release })
  else if g.blockedOperationId ≠ some operationId then
    (.error (gateFencedError "Blocked synchronization belongs to another operation"),
      { g with lock := g.lock.release })
  else (.ok (some (g.own operationId .recovery now).1), (g.own operationId .recovery now).2)

/-- The end of a reconcile callback (:135-141): the latch is cleared only when it returned. -/
def reconcileEnd (g : ReplicaSyncGate) (returned : Bool) : ReplicaSyncGate :=
  { g with
    blockedReason := if returned then none else g.blockedReason
    blockedOperationId := if returned then none else g.blockedOperationId
    owner := none
    lock := g.lock.release }

/-- The check of `guard` before and after the call (:219-228). -/
def guardHead (g : ReplicaSyncGate) (owner : GateOwner) : Except PyErr Unit :=
  if g.isActive owner then .ok () else .error (gateFencedError
    ("gate lease is no longer active: operation=" ++ owner.operationId ++ ", epoch=" ++
      toString owner.epoch))

def guardTail (g : ReplicaSyncGate) (owner : GateOwner) : Except PyErr Unit :=
  if g.isActive owner ∧ g.blockedReason = none then .ok () else .error
    (gateFencedError "Gate ownership or health changed before the result was committed")

end ReplicaSyncGate

/-! ## Any number of coroutines on one gate -/

/-- A call that waits for the lock. -/
inductive GateCall
  | acquire (operationId : String) (kind : GateKind) (timed : Bool)
  | reconcile (operationId : String)
deriving DecidableEq, Repr

/-- `timeout is not None`. -/
def GateCall.timed : GateCall → Bool
  | .acquire _ _ b => b
  | .reconcile _ => false

/-- Where a coroutine is suspended. -/
inductive Pc
  | idle
  | waiting (c : GateCall)
  | granted (c : GateCall)
  | reconciling (owner : GateOwner)
  | guarding (owner : GateOwner)
  | inContext (owner : GateOwner)
deriving DecidableEq, Repr

/-- The gate, its coroutines, and every lease `acquire` has returned so far, oldest first. -/
structure GateSystem where
  gate : ReplicaSyncGate
  pc : Nat → Pc
  leases : List GateOwner

/-- What the coroutine that ran has come to. -/
inductive Outcome
  | suspended
  | lease (owner : GateOwner)
  | flag (b : Bool)
  | done
  | raised (e : PyErr)
deriving DecidableEq, Repr

def Outcome.ofExcept : Except PyErr Unit → Outcome
  | .ok () => .done
  | .error e => .raised e

/-- What a cancelled or timed out call raises (:166-169). -/
def interrupted (c : GateCall) (timedOut : Bool) : PyErr :=
  match c, timedOut with
  | .acquire op _ _, true =>
    ⟨.gateTimeoutError, "timed out waiting for replica sync gate: " ++ op⟩
  | _, _ => ⟨.cancelledError, ""⟩

inductive GateLabel
  /-- Coroutine `t` calls; `direct`: a lock taken at once is not handed over by `wait_for`. -/
  | call (t : Nat) (c : GateCall) (now : Nat) (direct : Bool)
  /-- A call whose timeout has passed when it first waits. -/
  | expire (t : Nat) (c : GateCall)
  /-- The future of a waiting call is cancelled: by its task or by its timeout. -/
  | cancel (t : Nat)
  /-- A cancelled or woken waiter runs and raises. -/
  | unwind (t : Nat) (timedOut : Bool)
  /-- A woken waiter runs and takes the lock. -/
  | resume (t : Nat) (now : Nat) (direct : Bool)
  /-- `wait_for` returns the lock it has taken. -/
  | deliver (t : Nat) (now : Nat)
  /-- The call is cancelled or timed out with the lock taken: `wait_for` gives it back. -/
  | abandon (t : Nat) (timedOut : Bool)
  /-- A reconcile callback returns, or raises; a cancelled one raises `CancelledError`. -/
  | finishReconcile (t : Nat) (result : Except PyErr Unit)
  | guard (t : Nat) (owner : GateOwner)
  | finishGuard (t : Nat) (result : Except PyErr Unit)
  | enter (t : Nat) (owner : GateOwner)
  /-- The body of a lease context ends: by return, exception or cancellation. -/
  | exit (t : Nat) (result : Except PyErr Unit)
  | release (owner : GateOwner)
  | block (owner : GateOwner) (reason : String)

namespace GateSystem

def init : GateSystem := ⟨.init, fun _ => .idle, []⟩

def goto (s : GateSystem) (t : Nat) (p : Pc) : GateSystem := { s with pc := Function.update s.pc t p }

def setGate (s : GateSystem) (g : ReplicaSyncGate) : GateSystem := { s with gate := g }

def setLock (s : GateSystem) (l : AsyncLock) : GateSystem := s.setGate { s.gate with lock := l }

/-- The rest of call `c` once its coroutine holds the lock. -/
def proceed (s : GateSystem) (t : Nat) (c : GateCall) (now : Nat) : Outcome × GateSystem :=
  match c with
  | .acquire op kind _ => match s.gate.acquireTail op kind now with
    | (.ok o, g) => (.lease o, { (s.setGate g).goto t .idle with leases := s.leases ++ [o] })
    | (.error e, g) => (.raised e, (s.setGate g).goto t .idle)
  | .reconcile op => match s.gate.reconcileTail op now with
    | (.ok (some o), g) => (.suspended, (s.setGate g).goto t (.reconciling o))
    | (.ok none, g) => (.flag false, (s.setGate g).goto t .idle)
    | (.error e, g) => (.raised e, (s.setGate g).goto t .idle)

/-- The lock goes to coroutine `t`, which runs on at once or when `wait_for` resumes it. -/
def grant (s : GateSystem) (t : Nat) (c : GateCall) (now : Nat) (direct : Bool) :
    Outcome × GateSystem :=
  let s := (s.setLock s.gate.lock.take).goto t (.granted c)
  if direct || !c.timed then s.proceed t c now else (.suspended, s)

/-- The head of call `c`: an answer without waiting, or `none` when it goes for the lock. -/
def head (s : GateSystem) : GateCall → Option Outcome
  | .acquire op _ _ => match s.gate.acquireHead op with
    | .ok () => none
    | .error e => some (.raised e)
  | .reconcile op => match s.gate.reconcileHead op with
    | .ok true => none
    | .ok false => some (.flag false)
    | .error e => some (.raised e)

/-- One stretch of one coroutine; `none` when the label is not possible. -/
def step : GateLabel → GateSystem → Option (Outcome × GateSystem)
  | .call t c now direct, s =>
    if s.pc t ≠ .idle then none else match s.head c with
    | some r => some (r, s)
    | none =>
      if s.gate.lock.free then some (s.grant t c now direct)
      else some (.suspended, (s.setLock (s.gate.lock.enqueue t)).goto t (.waiting c))
  | .expire t c, s =>
    if s.pc t ≠ .idle ∨ c.timed = false ∨ s.head c ≠ none then none
    else some (.raised (interrupted c true), s)
  | .cancel t, s =>
    if (t, Fut.pending) ∈ s.gate.lock.waiters then
      some (.suspended, s.setLock (s.gate.lock.cancel t)) else none
  | .unwind t timedOut, s => match s.pc t with
    | .waiting c =>
      if (t, Fut.cancelled) ∈ s.gate.lock.waiters ∨ (t, Fut.woken) ∈ s.gate.lock.waiters then
        some (.raised (interrupted c timedOut), (s.setLock (s.gate.lock.unwind t)).goto t .idle)
      else none
    | _ => none
  | .resume t now direct, s => match s.pc t with
    | .waiting c =>
      if (t, Fut.woken) ∈ s.gate.lock.waiters then
        some ((s.setLock (s.gate.lock.remove t)).grant t c now direct)
      else none
    | _ => none
  | .deliver t now, s => match s.pc t with
    | .granted c => some (s.proceed t c now)
    | _ => none
  | .abandon t timedOut, s => match s.pc t with
    | .granted c =>
      some (.raised (interrupted c timedOut), (s.setLock s.gate.lock.release).goto t .idle)
    | _ => none
  | .finishReconcile t result, s => match s.pc t with
    | .reconciling _ => some (match result with | .ok () => .flag true | .error e => .raised e,
        (s.setGate (s.gate.reconcileEnd result.isOk)).goto t .idle)
    | _ => none
  | .guard t owner, s =>
    if s.pc t ≠ .idle ∨ owner ∉ s.leases then none else match s.gate.guardHead owner with
    | .ok () => some (.suspended, s.goto t (.guarding owner))
    | .error e => some (.raised e, s)
  | .finishGuard t result, s => match s.pc t with
    | .guarding owner =>
      some (.ofExcept (do result; s.gate.guardTail owner), s.goto t .idle)
    | _ => none
  | .enter t owner, s =>
    if s.pc t ≠ .idle ∨ owner ∉ s.leases then none
    else if s.gate.isActive owner then some (.suspended, s.goto t (.inContext owner))
    else some (.raised (gateFencedError "cannot enter an inactive gate lease"), s)
  | .exit t result, s => match s.pc t with
    | .inContext owner => some (.ofExcept result, (s.setGate (s.gate.release owner).2).goto t .idle)
    | _ => none
  | .release owner, s =>
    if owner ∉ s.leases then none
    else some (.flag (s.gate.release owner).1, s.setGate (s.gate.release owner).2)
  | .block owner reason, s =>
    some (.ofExcept (s.gate.block owner reason).1, s.setGate (s.gate.block owner reason).2)

/-- The gate with any number of coroutines on it, from a fresh gate. -/
def machine : Machine GateSystem GateLabel where
  init s := s = init
  step s l s' := ∃ r, step l s = some (r, s')

end GateSystem

end ReplicaLending
