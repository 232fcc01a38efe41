import ReplicaLending.Gate.Model
/-!
# Who owns the gate

What the gate is for, in four phases: it is `free`; the lock is `granted` to one call that has not
decided what to do with it; one lease owns it; or one reconciliation does.

    free → granted → leased → free
             granted → reconciling → free
             granted → free                 (rejected, or cancelled)

`InPhase` says what a phase means on the gate and its coroutines. Every stretch of code stays in its
phase (`inPhase_frame`) or makes one of these moves (`inPhase_take`, `inPhase_lease`,
`inPhase_reconcile`, `inPhase_drop`, `inPhase_release`).
-/

namespace ReplicaLending

/-- The coroutine holds the lock by itself, not through a lease object. -/
def Pc.critical : Pc → Bool
  | .granted _ | .reconciling _ => true
  | _ => false

inductive Phase
  | free
  | granted (t : Nat) (c : GateCall)
  | leased (o : GateOwner)
  | reconciling (t : Nat) (o : GateOwner)

namespace Phase

def locked : Phase → Bool
  | free => false
  | _ => true

def owner : Phase → Option GateOwner
  | leased o | reconciling _ o => some o
  | _ => none

/-- The coroutine that holds the lock by itself, and where it is. -/
def holder : Phase → Option (Nat × Pc)
  | granted t c => some (t, .granted c)
  | reconciling t o => some (t, .reconciling o)
  | _ => none

end Phase

namespace GateSystem

structure InPhase (s : GateSystem) (p : Phase) : Prop where
  locked : s.gate.lock.locked = p.locked
  owner : s.gate.owner = p.owner
  critical : ∀ t q, s.pc t = q ∧ q.critical = true ↔ p.holder = some (t, q)
  lease : ∀ o, p.owner = some o → (o ∈ s.leases ↔ p.holder = none)

section
variable {s : GateSystem} {p : Phase} {t : Nat} {q : Pc} {g : ReplicaSyncGate}

/-- In a phase without a holder no coroutine is critical. -/
theorem InPhase.not_critical (h : s.InPhase p) (hp : p.holder = none) (u : Nat) :
    (s.pc u).critical = false := by
  by_contra hc
  have := (h.critical u _).1 ⟨rfl, by simpa using hc⟩
  rw [hp] at this
  cases this

/-- The critical coroutines after coroutine `t`, which was not critical, has moved to `q`. -/
theorem critical_goto (h : s.InPhase p) (ht : (s.pc t).critical = false) (u : Nat) (r : Pc) :
    (Function.update s.pc t q u = r ∧ r.critical = true) ↔
      (q.critical = true ∧ (u, r) = (t, q)) ∨ p.holder = some (u, r) := by
  rw [← h.critical u r]
  by_cases hu : u = t
  · subst hu
    simp only [Function.update_self, Prod.mk.injEq, true_and]
    constructor
    · rintro ⟨rfl, hr⟩
      exact .inl ⟨hr, rfl⟩
    · rintro (⟨hr, rfl⟩ | ⟨rfl, hr⟩)
      · exact ⟨rfl, hr⟩
      · rw [ht] at hr; cases hr
  · simp [hu]

/-- The critical coroutines after the holder `t` has moved to `q`. -/
theorem critical_goto_holder {r : Pc} (h : s.InPhase p) (hp : p.holder = some (t, r)) (u : Nat)
    (r' : Pc) : (Function.update s.pc t q u = r' ∧ r'.critical = true) ↔
      q.critical = true ∧ (u, r') = (t, q) := by
  by_cases hu : u = t
  · subst hu
    simp only [Function.update_self, Prod.mk.injEq, true_and]
    constructor
    · rintro ⟨rfl, hr⟩
      exact ⟨hr, rfl⟩
    · rintro ⟨hr, rfl⟩
      exact ⟨rfl, hr⟩
  · have hn : p.holder ≠ some (u, r') := by
      rw [hp]
      simp [Ne.symm hu]
    simp only [Function.update_of_ne hu, h.critical u r', hn, Prod.mk.injEq, hu, false_and, and_false]

theorem inPhase_frame (h : s.InPhase p) (hl : g.lock.locked = s.gate.lock.locked)
    (ho : g.owner = s.gate.owner) (hq : q.critical = false) (ht : (s.pc t).critical = false) :
    ((s.setGate g).goto t q).InPhase p where
  locked := hl.trans h.locked
  owner := ho.trans h.owner
  critical u r := (critical_goto h ht u r).trans (by simp [hq])
  lease := h.lease

theorem inPhase_setGate (h : s.InPhase p) (hl : g.lock.locked = s.gate.lock.locked)
    (ho : g.owner = s.gate.owner) : (s.setGate g).InPhase p :=
  ⟨hl.trans h.locked, ho.trans h.owner, h.critical, h.lease⟩

theorem inPhase_take {c : GateCall} (h : s.InPhase .free) (hl : g.lock.locked = true)
    (ho : g.owner = s.gate.owner) : ((s.setGate g).goto t (.granted c)).InPhase (.granted t c) where
  locked := hl
  owner := ho.trans h.owner
  critical u r := (critical_goto h (h.not_critical rfl t) u r).trans
    (by simp [Pc.critical, Phase.holder, eq_comm])
  lease o ho := by cases ho

theorem inPhase_lease {c : GateCall} {o : GateOwner} {ls : List GateOwner}
    (h : s.InPhase (.granted t c)) (hl : g.lock.locked = true) (ho : g.owner = some o)
    (hls : o ∈ ls) (hq : q.critical = false) :
    ({ (s.setGate g).goto t q with leases := ls } : GateSystem).InPhase (.leased o) where
  locked := hl
  owner := ho
  critical u r := (critical_goto_holder h rfl u r).trans (by simp [hq, Phase.holder])
  lease o' ho' := by
    cases ho'
    exact iff_of_true hls rfl

theorem inPhase_reconcile {c : GateCall} {o : GateOwner} (h : s.InPhase (.granted t c))
    (hl : g.lock.locked = true) (ho : g.owner = some o) (hn : o ∉ s.leases) :
    ((s.setGate g).goto t (.reconciling o)).InPhase (.reconciling t o) where
  locked := hl
  owner := ho
  critical u r := (critical_goto_holder h rfl u r).trans
    (by simp [Pc.critical, Phase.holder, eq_comm])
  lease o' ho' := by
    cases ho'
    exact iff_of_false hn (by simp [Phase.holder])

theorem inPhase_drop {r : Pc} (h : s.InPhase p) (hp : p.holder = some (t, r))
    (hl : g.lock.locked = false) (ho : g.owner = none) (hq : q.critical = false) :
    ((s.setGate g).goto t q).InPhase .free where
  locked := hl
  owner := ho
  critical u r := (critical_goto_holder h hp u r).trans (by simp [hq, Phase.holder])
  lease o ho := by cases ho

theorem inPhase_release {o : GateOwner} (h : s.InPhase (.leased o)) (hl : g.lock.locked = false)
    (ho : g.owner = none) : (s.setGate g).InPhase .free where
  locked := hl
  owner := ho
  critical u r := (h.critical u r).trans (by simp [Phase.holder])
  lease o ho := by cases ho

end

end GateSystem

end ReplicaLending
