import ReplicaLending.Library.Machine
import ReplicaLending.Task.LoadBalancer
/-!
# The load balancer on its own

`MultiTaskGlobalRequestLoadBalancer` under any sequence of calls with any arguments. Next to it runs a
ledger of the calls it makes of its parent router, by attempt: an admission asks the parent to
count one more request on its server, a release may ask it to count one less. The parent does as
asked or, for a server it has removed, nothing; it picks a server of its pool or raises.

| here | there |
| --- | --- |
| `Admission.decrements` | `super().release_server` calls made for the attempt (load_balancer.py:109) |
| `RouterCall.acquireServer _ pick` | `pick` is what the parent's policy selects (:87) |
| `RouterCall.releaseServer _ _ sender` | a release some client sends for the attempt `sender` |
-/

namespace ReplicaLending

/-- `super().release_server` is reached (load_balancer.py:98-109). -/
def GlobalRequestLoadBalancer.releasesNative (lb : GlobalRequestLoadBalancer)
    (serverId requestId : String) : Prop :=
  requestId = "" ∨
    ((lb.activeRequestServer.get? requestId = none ∨
        lb.activeRequestServer.get? requestId = some serverId) ∧
      (lb.attemptState.get? requestId = some .admitted ∨
        lb.attemptState.get? requestId = some .terminated))

instance (lb : GlobalRequestLoadBalancer) (x r : String) : Decidable (lb.releasesNative x r) :=
  inferInstanceAs (Decidable (_ ∨ _ ∧ _))

/-- One attempt of a request: an `acquire_server` that returned. -/
structure Admission where
  requestId : String
  serverId : String
  decrements : Nat
deriving DecidableEq

/-- A load balancer, all attempts so far, oldest first, and the number of each id's last one. -/
structure RouterSystem where
  lb : GlobalRequestLoadBalancer
  admissions : List Admission
  last : Dict String Nat

inductive RouterCall
  | acquireServer (requestId pick : String)
  | releaseServer (serverId requestId : String) (sender : Option Nat)
  | confirmContinuation (now : Nat) (requestId clientId prefixDigest : String)
  | commitReady (now : Nat) (key : ReplicaKey) (serverId : String) (serverHandle : Nat)
      (operationId : String)
  | beginDrain (key : ReplicaKey) (operationId : String)
  | finishRemove (key : ReplicaKey)

namespace RouterSystem

/-- Whoever sends a release for an attempt names that attempt's server and request. -/
def Sends (s : RouterSystem) (sender : Option Nat) (serverId requestId : String) : Prop :=
  ∀ i, sender = some i →
    ∃ a, s.admissions[i]? = some a ∧ a.serverId = serverId ∧ a.requestId = requestId

/-- The parent is asked to count one less for the last attempt of the id. -/
def decrement (s : RouterSystem) (requestId : String) : List Admission :=
  match s.last.get? requestId with
  | none => s.admissions
  | some i => s.admissions.modify i fun a => { a with decrements := a.decrements + 1 }

/-- `acquire_server` (load_balancer.py:82). -/
def acquire (s : RouterSystem) (requestId pick : String) : RouterSystem :=
  match s.lb.acquireServer requestId pick with
  | (.ok (serverId, _), lb) =>
    ⟨lb, s.admissions ++ [⟨requestId, serverId, 0⟩], s.last.insert requestId s.admissions.length⟩
  | (.error _, lb) => { s with lb }

/-- `release_server` (load_balancer.py:98). -/
def release (s : RouterSystem) (serverId requestId : String) : RouterSystem :=
  { s with
    lb := (s.lb.releaseServer serverId requestId).2
    admissions :=
      if s.lb.releasesNative serverId requestId then s.decrement requestId else s.admissions }

/-- What a call makes of the system. -/
def call (s : RouterSystem) : RouterCall → RouterSystem
  | .acquireServer r pick => s.acquire r pick
  | .releaseServer x r _ => s.release x r
  | .confirmContinuation now r client digest =>
    { s with lb := (s.lb.confirmContinuation now r client digest).2 }
  | .commitReady now k x h o => { s with lb := (s.lb.commitReady now k x h o).2 }
  | .beginDrain k o => { s with lb := (s.lb.beginDrain k o).2 }
  | .finishRemove k => { s with lb := (s.lb.finishRemove k).2 }

/-- A release carries a request id (`require_release_fields`), and a sender sends for itself. -/
def Possible (s : RouterSystem) : RouterCall → Prop
  | .releaseServer x r sender => r ≠ "" ∧ s.Sends sender x r
  | _ => True

/-- A load balancer as it is constructed (load_balancer.py:18), with any bound on the history. -/
def initial (servers : Dict String Nat) (routes : Dict ReplicaKey String) (retention : Nat) :
    RouterSystem :=
  ⟨{ GlobalRequestLoadBalancer.init servers routes with settledRetention := retention }, [], ∅⟩

/-- Any sequence of calls on any load balancer. -/
def machine : Machine RouterSystem RouterCall where
  init s := ∃ servers routes retention,
    (∀ k x, routes.get? k = some x → (servers.get? x).isSome) ∧ s = initial servers routes retention
  step s l s' := s.Possible l ∧ s' = s.call l

theorem reachable_call {s : RouterSystem} {l : RouterCall} (h : machine.Reachable s)
    (hp : s.Possible l) : machine.Reachable (s.call l) := h.tail (l := l) ⟨hp, rfl⟩ trivial

end RouterSystem

end ReplicaLending
