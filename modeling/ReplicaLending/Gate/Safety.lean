import ReplicaLending.Gate.Ownership
import ReplicaLending.Gate.Queue
/-!
# Mutual exclusion and blocking of the gate

The invariant of every reachable state: the gate is in one of its phases, epochs grow from lease to
lease, the latch of a blocked gate names the operation of its owner, and the queue is fair. Each
label is one of the moves of the phase machine.
-/

namespace ReplicaLending.GateSystem

structure GateInv (s : GateSystem) : Prop where
  phase : ∃ p, s.InPhase p
  increasing : s.leases.Pairwise (fun o o' => o.epoch < o'.epoch)
  bounded : ∀ o ∈ s.leases, o.epoch ≤ s.gate.epoch
  latched : ∀ o, s.gate.owner = some o → s.gate.blockedReason ≠ none →
    s.gate.blockedOperationId = some o.operationId
  latch : s.gate.blockedReason = none ↔ s.gate.blockedOperationId = none
  fair : s.gate.lock.Fair
  queued : ∀ t, t ∈ s.gate.lock.queued ↔ ∃ c, s.pc t = .waiting c
  entered : ∀ t o, s.pc t = .inContext o → o ∈ s.leases

theorem gateInv_init : GateInv init where
  phase := ⟨.free, ⟨rfl, rfl, by simp [init, Phase.holder, Pc.critical], fun o ho => by cases ho⟩⟩
  increasing := List.Pairwise.nil
  bounded := by simp [init]
  latched := by simp [init, ReplicaSyncGate.init]
  latch := by simp [init, ReplicaSyncGate.init]
  fair := AsyncLock.fair_init
  queued := by simp [init, ReplicaSyncGate.init, AsyncLock.init, AsyncLock.queued]
  entered := by simp [init]

section
variable {s s' : GateSystem} {p : Phase} {t : Nat} {q : Pc} {g : ReplicaSyncGate}

/-- The lock is unlocked only in the phase `free`. -/
theorem inPhase_free (h : s.InPhase p) (hl : s.gate.lock.locked = false) : s.InPhase .free := by
  have := h.locked
  rw [hl] at this
  cases p with
  | free => exact h
  | _ => cases this

theorem inPhase_granted {c : GateCall} (h : s.InPhase p) (ht : s.pc t = .granted c) :
    s.InPhase (.granted t c) := by
  have hp := (h.critical t _).1 ⟨ht, rfl⟩
  cases p with
  | granted u d => cases hp; exact h
  | _ => cases hp

theorem inPhase_reconciling {o : GateOwner} (h : s.InPhase p) (ht : s.pc t = .reconciling o) :
    s.InPhase (.reconciling t o) := by
  have hp := (h.critical t _).1 ⟨ht, rfl⟩
  cases p with
  | reconciling u d => cases hp; exact h
  | _ => cases hp

theorem inPhase_leased {o : GateOwner} (h : s.InPhase p) (ho : s.gate.owner = some o)
    (hm : o ∈ s.leases) : s.InPhase (.leased o) := by
  have hp : p.owner = some o := h.owner.symm.trans ho
  have hn := (h.lease o hp).1 hm
  cases p with
  | leased o' => cases hp; exact h
  | reconciling => cases hn
  | _ => cases hp

/-- Who is queued, after coroutine `t`, which was not waiting, has moved. -/
theorem queued_goto (h : s.GateInv) (hq : g.lock.queued = s.gate.lock.queued)
    (ht : ∀ c, s.pc t ≠ .waiting c) (hw : ∀ c, q ≠ .waiting c) (u : Nat) :
    u ∈ g.lock.queued ↔ ∃ c, Function.update s.pc t q u = .waiting c := by
  rw [hq, h.queued u]
  by_cases hu : u = t
  · subst hu
    simp [ht, hw]
  · simp [Function.update_of_ne hu]

/-- The leases entered as contexts, after coroutine `t` has moved and leases were added. -/
theorem entered_goto {ls : List GateOwner} (h : s.GateInv) (hls : s.leases ⊆ ls)
    (hq : ∀ o, q = .inContext o → o ∈ ls) (u : Nat) (o : GateOwner)
    (hu : Function.update s.pc t q u = .inContext o) : o ∈ ls := by
  by_cases e : u = t
  · subst e
    exact hq o (by simpa using hu)
  · rw [Function.update_of_ne e] at hu
    exact hls (h.entered u o hu)

/-- A stretch that changes neither gate nor leases, of a coroutine that holds nothing. -/
theorem gateInv_goto (h : s.GateInv) (ht : (s.pc t).critical = false)
    (hw : ∀ c, s.pc t ≠ .waiting c) (hq : q.critical = false) (hqw : ∀ c, q ≠ .waiting c)
    (hqc : ∀ o, q = .inContext o → o ∈ s.leases) : (s.goto t q).GateInv := by
  obtain ⟨p, hp⟩ := h.phase
  exact ⟨⟨p, inPhase_frame hp rfl rfl hq ht⟩, h.increasing, h.bounded, h.latched, h.latch, h.fair,
    queued_goto h rfl hw hqw, entered_goto (s := s) h (List.Subset.refl _) hqc⟩

/-- The lock goes to a coroutine. -/
theorem gateInv_take {c : GateCall} {l : AsyncLock} (h : s.GateInv)
    (hl : s.gate.lock.locked = false) (hk : l.locked = true) (hf : l.Fair)
    (hq : ∀ u, u ∈ l.queued ↔ u ∈ s.gate.lock.queued ∧ u ≠ t) :
    ((s.setLock l).goto t (.granted c)).GateInv := by
  obtain ⟨p, hp⟩ := h.phase
  refine ⟨⟨_, inPhase_take (inPhase_free hp hl) hk rfl⟩, h.increasing, h.bounded, h.latched,
    h.latch, hf, fun u => (hq u).trans ?_, entered_goto (s := s) h (List.Subset.refl _) (by simp)⟩
  show _ ↔ ∃ c, Function.update s.pc t _ u = _
  by_cases hu : u = t
  · subst hu; simp
  · simp [h.queued u, hu]

/-- The holder gives the lock back without an owner. -/
theorem gateInv_drop {r : Pc} (h : s.GateInv) (hp : s.InPhase p) (ht : p.holder = some (t, r))
    (hl : g.lock = s.gate.lock.release) (ho : g.owner = none) (he : g.epoch = s.gate.epoch)
    (hb : g.blockedReason = none ↔ g.blockedOperationId = none) :
    ((s.setGate g).goto t .idle).GateInv := by
  have hpc : ∀ c, s.pc t ≠ .waiting c := by
    intro c e
    have := (hp.critical t r).2 ht
    rw [e] at this
    obtain ⟨rfl, hc⟩ := this
    cases hc
  exact {
    phase := ⟨_, inPhase_drop hp ht (by simp [hl]) ho rfl⟩
    increasing := h.increasing
    bounded := fun o hm => he.symm ▸ h.bounded o hm
    latched := fun o e => by cases ho.symm.trans e
    latch := hb
    fair := hl ▸ h.fair.release
    queued := queued_goto (s := s) (g := g) h (by rw [hl, AsyncLock.queued_release]) hpc (by simp)
    entered := entered_goto (s := s) h (List.Subset.refl _) (by simp) }

/-- What owning the gate leaves of the rest of the invariant. -/
theorem gateInv_own {op : String} {kind : GateKind} {now : Nat} {ls : List GateOwner}
    {s' : GateSystem} (h : s.GateInv) (hp : s'.InPhase p)
    (hg : s'.gate = (s.gate.own op kind now).2) (hls : s'.leases = ls)
    (hinc : ls.Pairwise (fun o o' => o.epoch < o'.epoch))
    (hb : ∀ o ∈ ls, o.epoch ≤ s.gate.epoch + 1)
    (hlatch : s.gate.blockedReason ≠ none → s.gate.blockedOperationId = some op)
    (hq : ∀ u, u ∈ s.gate.lock.queued ↔ ∃ c, s'.pc u = .waiting c)
    (he : ∀ u o, s'.pc u = .inContext o → o ∈ ls) : s'.GateInv where
  phase := ⟨p, hp⟩
  increasing := hls ▸ hinc
  bounded o hm := by rw [hg]; exact hb o (hls ▸ hm)
  latched o ho hr := by
    rw [hg] at ho hr ⊢
    simp only [ReplicaSyncGate.own, Option.some.injEq] at ho
    subst ho
    exact hlatch hr
  latch := by rw [hg]; exact h.latch
  fair := by rw [hg]; exact h.fair
  queued := by rw [hg]; exact hq
  entered := hls ▸ he

/-- The stretch of a call after it got the lock. -/
theorem gateInv_proceed {c : GateCall} {now : Nat} (h : s.GateInv) (ht : s.pc t = .granted c) :
    (s.proceed t c now).2.GateInv := by
  obtain ⟨p, hp⟩ := h.phase
  have hp := inPhase_granted hp ht
  have hw : ∀ c, s.pc t ≠ .waiting c := fun c e => by rw [ht] at e; cases e
  have hk : s.gate.lock.locked = true := hp.locked
  cases c with
  | acquire op kind timed =>
    cases hb : s.gate.blockedReason with
    | some reason =>
      rw [proceed, ReplicaSyncGate.acquireTail_blocked hb]
      exact gateInv_drop h hp rfl rfl hp.owner rfl h.latch
    | none =>
      rw [proceed, ReplicaSyncGate.acquireTail_healthy hb]
      refine gateInv_own h (inPhase_lease hp ?_ rfl (List.mem_append_right _ (List.mem_singleton.2 rfl))
        rfl) rfl rfl ?_ ?_ (by simp [hb])
        (queued_goto (s := s) h rfl hw (by simp))
        (entered_goto (s := s) h (List.subset_append_left _ _) (by simp))
      · exact hk
      · refine List.pairwise_append.2 ⟨h.increasing, by simp, fun o ho o' ho' => ?_⟩
        rw [List.mem_singleton.1 ho']
        exact Nat.lt_succ_of_le (h.bounded o ho)
      · intro o ho
        rcases List.mem_append.1 ho with ho | ho
        · exact Nat.le_succ_of_le (h.bounded o ho)
        · rw [List.mem_singleton.1 ho]; exact le_rfl
  | reconcile op =>
    by_cases hb : s.gate.blockedReason = none
    · rw [proceed, ReplicaSyncGate.reconcileTail, if_pos hb]
      exact gateInv_drop h hp rfl rfl hp.owner rfl h.latch
    by_cases ho : s.gate.blockedOperationId = some op
    · rw [proceed, ReplicaSyncGate.reconcileTail, if_neg hb, if_neg (not_not.2 ho)]
      refine gateInv_own h (inPhase_reconcile hp ?_ rfl ?_) rfl rfl h.increasing
        (fun o hm => Nat.le_succ_of_le (h.bounded o hm)) (fun _ => ho)
        (queued_goto (s := s) h rfl hw (by simp))
        (entered_goto (s := s) h (List.Subset.refl _) (by simp))
      · exact hk
      · intro hm
        exact absurd (h.bounded _ hm) (Nat.not_succ_le_self _)
    · rw [proceed, ReplicaSyncGate.reconcileTail, if_neg hb, if_pos ho]
      exact gateInv_drop h hp rfl rfl hp.owner rfl h.latch

theorem gateInv_grant {c : GateCall} {l : AsyncLock} {now : Nat} {direct : Bool} (h : s.GateInv)
    (hl : s.gate.lock.locked = false) (hf : l.take.Fair)
    (hq : ∀ u, u ∈ l.queued ↔ u ∈ s.gate.lock.queued ∧ u ≠ t) :
    ((s.setLock l).grant t c now direct).2.GateInv := by
  have hg : (((s.setLock l).setLock l.take).goto t (.granted c)).GateInv :=
    gateInv_take (s := s) (l := l.take) h hl rfl hf hq
  unfold grant
  split
  · exact gateInv_proceed hg (Function.update_self ..)
  · exact hg

/-- A change of the queue that leaves the lock flag alone, with the coroutine it is about. -/
theorem gateInv_queue {l : AsyncLock} (h : s.GateInv) (hl : l.locked = s.gate.lock.locked)
    (hf : l.Fair) (ht : (s.pc t).critical = false) (hq : q.critical = false)
    (hqu : ∀ u, u ∈ l.queued ↔ ∃ c, Function.update s.pc t q u = .waiting c)
    (hqc : ∀ o, q = .inContext o → o ∈ s.leases) :
    ((s.setLock l).goto t q).GateInv := by
  obtain ⟨p, hp⟩ := h.phase
  exact ⟨⟨p, inPhase_frame hp hl rfl hq ht⟩, h.increasing, h.bounded, h.latched, h.latch, hf, hqu,
    entered_goto (s := s) h (List.Subset.refl _) hqc⟩

theorem gateInv_release {o : GateOwner} (h : s.GateInv) (ho : o ∈ s.leases) :
    (s.setGate (s.gate.release o).2).GateInv := by
  obtain ⟨p, hp⟩ := h.phase
  unfold ReplicaSyncGate.release
  split
  · rename_i ha
    exact ⟨⟨_, inPhase_release (inPhase_leased hp ha.1 ho) (by simp) rfl⟩, h.increasing, h.bounded,
      (fun o e => by cases e), h.latch, h.fair.release,
      fun u => (by rw [setGate, AsyncLock.queued_release] : _ ↔ _).trans (h.queued u), h.entered⟩
  · exact h

theorem gateInv_block {o : GateOwner} {reason : String} (h : s.GateInv) :
    (s.setGate (s.gate.block o reason).2).GateInv := by
  obtain ⟨p, hp⟩ := h.phase
  unfold ReplicaSyncGate.block
  split
  · exact h
  · rename_i ha
    split
    · exact h
    · refine ⟨⟨p, inPhase_setGate hp rfl rfl⟩, h.increasing, h.bounded, fun o' ho' _ => ?_,
        by simp [setGate], h.fair, h.queued, h.entered⟩
      have ho : s.gate.owner = some o := (not_not.1 ha).1
      cases ho.symm.trans ho'
      rfl

end

/-- One stretch of one coroutine keeps the invariant. -/
theorem gateInv_step {s s' : GateSystem} {l : GateLabel} {r : Outcome} (h : s.GateInv)
    (hs : step l s = some (r, s')) : s'.GateInv := by
  cases l with
  | call t c now direct =>
    simp only [step] at hs
    split at hs
    · cases hs
    rename_i hidle
    have hidle : s.pc t = .idle := not_not.1 hidle
    have hnq : t ∉ s.gate.lock.queued := fun hm => by
      obtain ⟨c, hc⟩ := (h.queued t).1 hm
      rw [hidle] at hc; cases hc
    split at hs
    · cases hs; exact h
    split at hs
    · rename_i hf
      obtain rfl : _ = s' := congrArg Prod.snd (Option.some.inj hs)
      refine gateInv_grant h (AsyncLock.locked_of_free hf) (h.fair.take_free hf) fun u => ?_
      exact ⟨fun hu => ⟨hu, fun e => hnq (e ▸ hu)⟩, And.left⟩
    · rename_i hf
      cases hs
      refine gateInv_queue h rfl (h.fair.enqueue (by simpa using hf)) (by rw [hidle]; rfl) rfl
        (fun u => ?_) (by simp)
      rw [AsyncLock.mem_queued_enqueue, h.queued u]
      by_cases hu : u = t
      · subst hu; simp
      · simp [hu]
  | expire t c =>
    simp only [step] at hs
    split at hs
    · cases hs
    · cases hs; exact h
  | cancel t =>
    simp only [step] at hs
    split at hs
    · cases hs
      obtain ⟨p, hp⟩ := h.phase
      exact ⟨⟨p, inPhase_setGate hp rfl rfl⟩, h.increasing, h.bounded, h.latched, h.latch,
        h.fair.cancel, fun u => (by rw [setLock, setGate, AsyncLock.queued_cancel] : _ ↔ _).trans
          (h.queued u), h.entered⟩
    · cases hs
  | unwind t timedOut =>
    simp only [step] at hs
    split at hs
    · rename_i c hc
      split at hs
      · cases hs
        refine gateInv_queue h AsyncLock.locked_unwind h.fair.unwind (by rw [hc]; rfl) rfl
          (fun u => ?_) (by simp)
        rw [AsyncLock.mem_queued_unwind, h.queued u]
        by_cases hu : u = t
        · subst hu; simp
        · simp [hu]
      · cases hs
    · cases hs
  | resume t now direct =>
    simp only [step] at hs
    split at hs
    · split at hs
      · rename_i hw
        obtain rfl : _ = s' := congrArg Prod.snd (Option.some.inj hs)
        exact gateInv_grant h (h.fair.wokenFree _ hw rfl) (h.fair.take_remove hw)
          fun u => AsyncLock.mem_queued_remove
      · cases hs
    · cases hs
  | deliver t now =>
    simp only [step] at hs
    split at hs
    · rename_i c hc
      obtain rfl : _ = s' := congrArg Prod.snd (Option.some.inj hs)
      exact gateInv_proceed h hc
    · cases hs
  | abandon t timedOut =>
    simp only [step] at hs
    split at hs
    · rename_i c hc
      cases hs
      obtain ⟨p, hp⟩ := h.phase
      have hp := inPhase_granted hp hc
      exact gateInv_drop h hp rfl rfl hp.owner rfl h.latch
    · cases hs
  | finishReconcile t result =>
    simp only [step] at hs
    split at hs
    · rename_i o ho
      cases hs
      obtain ⟨p, hp⟩ := h.phase
      refine gateInv_drop h (inPhase_reconciling hp ho) rfl rfl rfl rfl ?_
      cases result with
      | ok => simp [ReplicaSyncGate.reconcileEnd, Except.isOk, Except.toBool]
      | error => simpa [ReplicaSyncGate.reconcileEnd, Except.isOk, Except.toBool] using h.latch
    · cases hs
  | guard t owner =>
    simp only [step] at hs
    split at hs
    · cases hs
    · rename_i hg
      have hidle : s.pc t = .idle := by_contra fun hn => hg (.inl hn)
      split at hs
      · cases hs
        exact gateInv_goto h (by rw [hidle]; rfl) (by simp [hidle]) rfl (by simp) (by simp)
      · cases hs; exact h
  | finishGuard t result =>
    simp only [step] at hs
    split at hs
    · rename_i o ho
      cases hs
      exact gateInv_goto h (by rw [ho]; rfl) (by simp [ho]) rfl (by simp) (by simp)
    · cases hs
  | enter t owner =>
    simp only [step] at hs
    split at hs
    · cases hs
    · rename_i hg
      have hidle : s.pc t = .idle := by_contra fun hn => hg (.inl hn)
      split at hs
      · cases hs
        refine gateInv_goto h (by rw [hidle]; rfl) (by simp [hidle]) rfl (by simp) fun o ho => ?_
        cases ho
        exact by_contra fun hn => hg (.inr hn)
      · cases hs; exact h
  | exit t result =>
    simp only [step] at hs
    split at hs
    · rename_i o ho
      cases hs
      exact gateInv_goto (gateInv_release h (h.entered t o ho)) (by simp [setGate, ho, Pc.critical])
        (by simp [setGate, ho]) rfl (by simp) (by simp)
    · cases hs
  | release owner =>
    simp only [step] at hs
    split at hs
    · cases hs
    · rename_i ho
      cases hs
      exact gateInv_release h (not_not.1 ho)
  | block owner reason =>
    simp only [step] at hs
    cases hs
    exact gateInv_block h

theorem gateInv_reachable {s : GateSystem} (h : machine.Reachable s) : s.GateInv :=
  h.invariant (fun _ hs => hs ▸ gateInv_init) fun _ _ _ hI ⟨_, hs⟩ _ => gateInv_step hI hs

/-! ## What a stretch does to owner, latch and leases -/

/-- The ways a stretch changes them. -/
inductive Move (s : GateSystem) : GateLabel → GateSystem → Prop
  | stay (l : GateLabel) (s' : GateSystem)
    (owner : s'.gate.owner = s.gate.owner ∨ s'.gate.owner = none)
    (reason : s'.gate.blockedReason = s.gate.blockedReason)
    (operation : s'.gate.blockedOperationId = s.gate.blockedOperationId)
    (leases : s'.leases = s.leases) : Move s l s'
  | lease (l : GateLabel) (s' : GateSystem) (o : GateOwner) (healthy : s.gate.blockedReason = none)
    (owner : s'.gate.owner = some o) (epoch : o.epoch = s.gate.epoch + 1)
    (leases : s'.leases = s.leases ++ [o]) : Move s l s'
  | reconcile (l : GateLabel) (s' : GateSystem) (o : GateOwner)
    (owner : s'.gate.owner = some o) (epoch : o.epoch = s.gate.epoch + 1)
    (reason : s'.gate.blockedReason = s.gate.blockedReason)
    (operation : s'.gate.blockedOperationId = s.gate.blockedOperationId)
    (leases : s'.leases = s.leases) : Move s l s'
  | clear (t : Nat) (o : GateOwner) (s' : GateSystem) (running : s.pc t = .reconciling o)
    (owner : s'.gate.owner = none) (leases : s'.leases = s.leases) :
    Move s (.finishReconcile t (.ok ())) s'
  | latch (o : GateOwner) (reason : String) (s' : GateSystem) (active : s.gate.isActive o)
    (owner : s'.gate.owner = s.gate.owner) (blocked : s'.gate.blockedReason = some reason)
    (operation : s'.gate.blockedOperationId = some o.operationId)
    (leases : s'.leases = s.leases) : Move s (.block o reason) s'

section
variable {s : GateSystem} {t : Nat}

/-- The stretch after the lock was got, from a state that differs from `s` in lock and coroutines. -/
theorem move_proceed {s₀ : GateSystem} {c : GateCall} {now : Nat} {k : AsyncLock} (l : GateLabel)
    (hg : s₀.gate = { s.gate with lock := k }) (hl : s₀.leases = s.leases) :
    Move s l (s₀.proceed t c now).2 := by
  cases c with
  | acquire op kind timed =>
    cases hb : s.gate.blockedReason with
    | some reason =>
      rw [proceed, ReplicaSyncGate.acquireTail_blocked (g := s₀.gate) (by rw [hg]; exact hb)]
      exact .stay _ _ (.inl (by rw [hg]; rfl)) (by rw [hg]; rfl) (by rw [hg]; rfl) hl
    | none =>
      rw [proceed, ReplicaSyncGate.acquireTail_healthy (g := s₀.gate) (by rw [hg]; exact hb)]
      exact .lease _ _ _ hb rfl (by rw [hg]) (by rw [hl]; rfl)
  | reconcile op =>
    rw [proceed, ReplicaSyncGate.reconcileTail]
    split_ifs
    · exact .stay _ _ (.inl (by rw [hg]; rfl)) (by rw [hg]; rfl) (by rw [hg]; rfl) hl
    · exact .stay _ _ (.inl (by rw [hg]; rfl)) (by rw [hg]; rfl) (by rw [hg]; rfl) hl
    · exact .reconcile _ _ _ rfl (by rw [hg]) (by rw [hg]; rfl) (by rw [hg]; rfl) hl

theorem move_grant {c : GateCall} {now : Nat} {direct : Bool} {k : AsyncLock} (l : GateLabel) :
    Move s l ((s.setLock k).grant t c now direct).2 := by
  unfold grant
  split
  · exact move_proceed l rfl rfl
  · exact .stay _ _ (.inl rfl) rfl rfl rfl

theorem move_step {l : GateLabel} {r : Outcome} {s' : GateSystem} (hs : step l s = some (r, s')) :
    Move s l s' := by
  cases l with
  | call t c now direct =>
    simp only [step] at hs
    split at hs
    · cases hs
    split at hs
    · cases hs; exact .stay _ _ (.inl rfl) rfl rfl rfl
    split at hs
    · obtain rfl : _ = s' := congrArg Prod.snd (Option.some.inj hs)
      exact move_grant _
    · cases hs; exact .stay _ _ (.inl rfl) rfl rfl rfl
  | resume t now direct =>
    simp only [step] at hs
    split at hs
    · split at hs
      · obtain rfl : _ = s' := congrArg Prod.snd (Option.some.inj hs)
        exact move_grant _
      · cases hs
    · cases hs
  | deliver t now =>
    simp only [step] at hs
    split at hs
    · obtain rfl : _ = s' := congrArg Prod.snd (Option.some.inj hs)
      exact move_proceed _ rfl rfl
    · cases hs
  | finishReconcile t result =>
    simp only [step] at hs
    split at hs
    · rename_i o ho
      cases hs
      cases result with
      | ok => exact .clear t o _ ho rfl rfl
      | error => exact .stay _ _ (.inr rfl) rfl rfl rfl
    · cases hs
  | exit t result =>
    simp only [step, ReplicaSyncGate.release] at hs
    split at hs
    · cases hs
      split
      · exact .stay _ _ (.inr rfl) rfl rfl rfl
      · exact .stay _ _ (.inl rfl) rfl rfl rfl
    · cases hs
  | release owner =>
    simp only [step, ReplicaSyncGate.release] at hs
    split at hs
    · cases hs
    · cases hs
      split
      · exact .stay _ _ (.inr rfl) rfl rfl rfl
      · exact .stay _ _ (.inl rfl) rfl rfl rfl
  | block owner reason =>
    simp only [step, ReplicaSyncGate.block] at hs
    cases hs
    split
    · exact .stay _ _ (.inl rfl) rfl rfl rfl
    · split
      · exact .stay _ _ (.inl rfl) rfl rfl rfl
      · exact .latch owner reason _ (not_not.1 ‹_›) rfl rfl rfl rfl
  | _ =>
    simp only [step] at hs
    split at hs <;> (try split at hs) <;> cases hs <;> exact .stay _ _ (.inl rfl) rfl rfl rfl

end

/-! ## The guarantees -/

/-- An owner of the gate: an active lease, or a reconciliation whose callback runs. -/
inductive Owner
  | lease (o : GateOwner)
  | reconciliation (t : Nat)

def Owns (s : GateSystem) : Owner → Prop
  | .lease o => o ∈ s.leases ∧ s.gate.isActive o
  | .reconciliation t => ∃ o, s.pc t = .reconciling o

theorem owns_unique {s : GateSystem} (h : s.GateInv) {x y : Owner} (hx : s.Owns x) (hy : s.Owns y) :
    x = y := by
  obtain ⟨p, hp⟩ := h.phase
  cases x with
  | lease o =>
    obtain ⟨hm, ha⟩ := hx
    have hl := inPhase_leased hp ha.1 hm
    cases y with
    | lease o' => exact congrArg _ (Option.some.inj (ha.1.symm.trans hy.2.1))
    | reconciliation t =>
      obtain ⟨o', ho'⟩ := hy
      cases (hl.critical t _).1 ⟨ho', rfl⟩
  | reconciliation t =>
    obtain ⟨o, ho⟩ := hx
    have hr := inPhase_reconciling hp ho
    cases y with
    | lease o' =>
      have hl := inPhase_leased hp hy.2.1 hy.1
      cases (hl.critical t _).1 ⟨ho, rfl⟩
    | reconciliation u =>
      obtain ⟨o', ho'⟩ := hy
      cases (hr.critical u _).1 ⟨ho', rfl⟩
      rfl

theorem owns_locked {s : GateSystem} (h : s.GateInv) {x : Owner} (hx : s.Owns x) :
    s.gate.lock.locked = true := by
  cases x with
  | lease o => exact hx.2.2
  | reconciliation t =>
    obtain ⟨p, hp⟩ := h.phase
    obtain ⟨o, ho⟩ := hx
    exact (inPhase_reconciling hp ho).locked

/-- A lock that is held is held for a call in transit or by an owner: it never leaks. -/
theorem locked_owned {s : GateSystem} (h : s.GateInv) (hl : s.gate.lock.locked = true) :
    (∃ t c, s.pc t = .granted c) ∨ ∃ x, s.Owns x := by
  obtain ⟨p, hp⟩ := h.phase
  cases p with
  | free => cases hl.symm.trans hp.locked
  | granted t c => exact .inl ⟨t, c, ((hp.critical t _).2 rfl).1⟩
  | leased o => exact .inr ⟨.lease o, (hp.lease o rfl).2 rfl, hp.owner, hl⟩
  | reconciling t o => exact .inr ⟨.reconciliation t, o, ((hp.critical t _).2 rfl).1⟩

/-- A granted lease that is not current stays so. -/
theorem stale_step {s s' : GateSystem} {l : GateLabel} {r : Outcome} {o : GateOwner}
    (h : s.GateInv) (hs : step l s = some (r, s')) (hm : o ∈ s.leases)
    (ho : s.gate.owner ≠ some o) : o ∈ s'.leases ∧ s'.gate.owner ≠ some o := by
  have hnew : ∀ o', o'.epoch = s.gate.epoch + 1 → o' ≠ o := by
    rintro o' he rfl
    exact absurd (h.bounded o' hm) (by omega)
  cases move_step hs with
  | stay _ _ hw _ _ hl =>
    refine ⟨hl ▸ hm, ?_⟩
    rcases hw with hw | hw <;> rw [hw]
    · exact ho
    · simp
  | lease _ _ o' _ hw he hl =>
    refine ⟨hl ▸ List.mem_append_left _ hm, fun e => hnew o' he ?_⟩
    exact Option.some.inj (hw.symm.trans e)
  | reconcile _ _ o' hw he _ _ hl =>
    exact ⟨hl ▸ hm, fun e => hnew o' he (Option.some.inj (hw.symm.trans e))⟩
  | clear _ _ _ _ hw hl => exact ⟨hl ▸ hm, by rw [hw]; simp⟩
  | latch _ _ _ _ hw _ _ hl => exact ⟨hl ▸ hm, by rw [hw]; exact ho⟩

/-- A reconciliation of `op` whose callback returns. -/
def Clears (op : String) (s : GateSystem) : GateLabel → Prop
  | .finishReconcile t (.ok ()) => ∃ o, s.pc t = .reconciling o ∧ o.operationId = op
  | _ => False

/-- While a gate is blocked, no lease is granted, and only the reconciliation of the operation that
latched it, ending normally, unblocks it. -/
theorem blocked_step {s s' : GateSystem} {l : GateLabel} {r : Outcome} {op : String}
    (h : s.GateInv) (hs : step l s = some (r, s')) (hb : s.gate.blockedOperationId = some op) :
    s'.leases = s.leases ∧ (s'.gate.blockedOperationId = some op ∨ Clears op s l) := by
  have hr : s.gate.blockedReason ≠ none := fun e => by rw [h.latch.1 e] at hb; cases hb
  cases move_step hs with
  | stay _ _ _ _ ho hl => exact ⟨hl, .inl (ho.trans hb)⟩
  | lease _ _ _ hn => exact absurd hn hr
  | reconcile _ _ _ _ _ _ ho hl => exact ⟨hl, .inl (ho.trans hb)⟩
  | clear t o _ hp _ hl =>
    obtain ⟨p, hph⟩ := h.phase
    have hop := h.latched o (inPhase_reconciling hph hp).owner hr
    exact ⟨hl, .inr ⟨o, hp, Option.some.inj (hop.symm.trans hb)⟩⟩
  | latch o _ _ ha _ _ ho hl =>
    refine ⟨hl, .inl (ho.trans ?_)⟩
    rw [← h.latched o ha.1 hr, hb]

theorem blocked_run {s u : GateSystem} {op : String} (h : s.GateInv)
    (hb : s.gate.blockedOperationId = some op)
    (hrun : machine.RunWhere (fun s l _ => ¬ Clears op s l) s u) :
    u.leases = s.leases ∧ u.gate.blockedOperationId = some op := by
  have hI := hrun.invariant
    (I := fun u => u.GateInv ∧ u.leases = s.leases ∧ u.gate.blockedOperationId = some op)
    (fun v l w ⟨hv, hl, hop⟩ ⟨r, hs⟩ hn => by
      obtain ⟨hl', hc⟩ := blocked_step hv hs hop
      exact ⟨gateInv_step hv hs, hl'.trans hl, hc.resolve_right hn⟩) ⟨h, rfl, hb⟩
  exact hI.2

/-- In this stretch call `c` of coroutine `t` obtains the lock and runs on. -/
def Obtains (s : GateSystem) (t : Nat) (c : GateCall) : GateLabel → Prop
  | .call u d _ direct => u = t ∧ d = c ∧ s.head c = none ∧ s.gate.lock.free = true ∧
    (direct || !c.timed) = true
  | .resume u _ direct => u = t ∧ s.pc t = .waiting c ∧ (direct || !c.timed) = true
  | .deliver u _ => u = t ∧ s.pc t = .granted c
  | _ => False

/-- What is left of an acquirer that obtained the lock of a blocked gate. -/
structure Rejected (s : GateSystem) (t : Nat) (reason : String) (r : Outcome) (s' : GateSystem) :
    Prop where
  raised : r = .raised (gateFencedError ("Replica synchronization is BLOCKED: " ++ reason))
  idle : s'.pc t = .idle
  unlocked : s'.gate.lock.locked = false
  leases : s'.leases = s.leases

theorem rejected_proceed {s s₀ s' : GateSystem} {t now : Nat} {op reason : String}
    {kind : GateKind} {timed : Bool} {r : Outcome} (hb : s₀.gate.blockedReason = some reason)
    (hl : s₀.leases = s.leases) (hs : s₀.proceed t (.acquire op kind timed) now = (r, s')) :
    Rejected s t reason r s' := by
  rw [proceed, ReplicaSyncGate.acquireTail_blocked hb] at hs
  cases hs
  exact ⟨rfl, Function.update_self .., AsyncLock.locked_release, hl⟩

theorem rejected_step {s s' : GateSystem} {t : Nat} {op reason : String} {kind : GateKind}
    {timed : Bool} {l : GateLabel} {r : Outcome} (hb : s.gate.blockedReason = some reason)
    (ho : s.Obtains t (.acquire op kind timed) l) (hs : step l s = some (r, s')) :
    Rejected s t reason r s' := by
  cases l with
  | call u d now direct =>
    -- a new call does not get past the health check
    obtain ⟨-, -, hh, -⟩ := ho
    simp only [head, ReplicaSyncGate.acquireHead, ReplicaSyncGate.requireHealthy, hb] at hh
    split at hh
    · rename_i hok
      split at hok <;> cases hok
    · cases hh
  | resume u now direct =>
    obtain ⟨rfl, hp, hd⟩ := ho
    simp only [step, hp] at hs
    split at hs
    · unfold grant at hs
      simp only [hd, if_true, Option.some.injEq] at hs
      refine rejected_proceed ?_ ?_ hs
      · exact hb
      · rfl
    · cases hs
  | deliver u now =>
    obtain ⟨rfl, hp⟩ := ho
    simp only [step, hp, Option.some.injEq] at hs
    exact rejected_proceed hb rfl hs
  | _ => cases ho

theorem reconcile_exit {s s' : GateSystem} {t : Nat} {result : Except PyErr Unit} {r : Outcome}
    (hs : step (.finishReconcile t result) s = some (r, s')) :
    s'.pc t = .idle ∧ s'.gate.owner = none ∧ s'.gate.lock.locked = false := by
  simp only [step] at hs
  split at hs
  · cases hs
    exact ⟨Function.update_self .., rfl, AsyncLock.locked_release⟩
  · cases hs

theorem context_exit {s : GateSystem} {t : Nat} {o : GateOwner} (result : Except PyErr Unit)
    (ht : s.pc t = .inContext o) :
    ∃ s', step (.exit t result) s = some (.ofExcept result, s') ∧ s'.pc t = .idle ∧
      ¬ s'.gate.isActive o ∧
      (s.gate.isActive o → s'.gate.owner = none ∧ s'.gate.lock.locked = false) := by
  refine ⟨_, by simp only [step, ht]; rfl, Function.update_self .., ?_, fun ha => ?_⟩
  · show ¬ (s.gate.release o).2.isActive o
    unfold ReplicaSyncGate.release
    split
    · rintro ⟨hw, -⟩; cases hw
    · assumption
  · show (s.gate.release o).2.owner = none ∧ (s.gate.release o).2.lock.locked = false
    simp [ReplicaSyncGate.release, ha]

/-- **Mutual exclusion and blocking** of the gate, in every reachable state of any number of
coroutines. -/
structure GateSafe (s : GateSystem) : Prop where
  /-- There is at most one owner, and while there is one the lock is held. -/
  exclusive : ∀ x y, s.Owns x → s.Owns y → x = y
  held : ∀ x, s.Owns x → s.gate.lock.locked = true
  /-- Each granted lease has a larger epoch than all before it. -/
  epochs : s.leases.Pairwise (fun o o' => o.epoch < o'.epoch)
  /-- A lease that is not current is never active again, and releasing it changes nothing. -/
  stale : ∀ o ∈ s.leases, ¬ s.gate.isActive o →
    (∀ u, machine.Run s u → ¬ u.gate.isActive o) ∧ s.gate.release o = (false, s.gate)
  /-- An acquirer that obtains the lock while the gate is blocked is rejected. -/
  rejects : ∀ reason, s.gate.blockedReason = some reason → ∀ t op kind timed l r s',
    s.Obtains t (.acquire op kind timed) l → step l s = some (r, s') → s.Rejected t reason r s'
  /-- An unlocked lock has woken the next waiter. -/
  ready : s.gate.lock.locked = false → ∀ w ∈ s.gate.lock.waiters.head?, w.2 ≠ .pending
  /-- A blocked gate names the operation that latched it, and until a reconciliation of that
  operation returns it stays blocked and grants no lease. -/
  latched : s.gate.blockedReason ≠ none → ∃ op, s.gate.blockedOperationId = some op ∧
    (∀ u, machine.RunWhere (fun s l _ => ¬ Clears op s l) s u →
      u.leases = s.leases ∧ u.gate.blockedReason ≠ none ∧ u.gate.blockedOperationId = some op) ∧
    ∀ l r s', step l s = some (r, s') → s'.gate.blockedReason = none → Clears op s l
  /-- However a reconcile callback or the body of a lease context ends, ownership is given up, and
  the lock with it. -/
  reconcileExit : ∀ t result r s', step (.finishReconcile t result) s = some (r, s') →
    s'.pc t = .idle ∧ s'.gate.owner = none ∧ s'.gate.lock.locked = false
  contextExit : ∀ t o result, s.pc t = .inContext o →
    ∃ s', step (.exit t result) s = some (.ofExcept result, s') ∧ s'.pc t = .idle ∧
      ¬ s'.gate.isActive o ∧
      (s.gate.isActive o → s'.gate.owner = none ∧ s'.gate.lock.locked = false)
  /-- The lock never leaks: it is held for a call that is about to run on, or by an owner. -/
  noLeak : s.gate.lock.locked = true → (∃ t c, s.pc t = .granted c) ∨ ∃ x, s.Owns x

theorem gate_safe {s : GateSystem} (h : machine.Reachable s) : s.GateSafe := by
  have hI := gateInv_reachable h
  refine {
    exclusive := fun x y => owns_unique hI
    held := fun x => owns_locked hI
    epochs := hI.increasing
    stale := fun o hm ha => ⟨fun u hu hau => ?_, by simp [ReplicaSyncGate.release, ha]⟩
    rejects := fun reason hb t op kind timed l r s' ho hs => rejected_step hb ho hs
    ready := hI.fair.ready
    latched := fun hr => ?_
    reconcileExit := fun t result r s' => reconcile_exit
    contextExit := fun t o result => context_exit result
    noLeak := locked_owned hI }
  · have hne : s.gate.owner ≠ some o := by
      intro e
      obtain ⟨p, hp⟩ := hI.phase
      exact ha ⟨e, (inPhase_leased hp e hm).locked⟩
    have := hu.invariant (I := fun u => u.GateInv ∧ o ∈ u.leases ∧ u.gate.owner ≠ some o)
      (fun v l w ⟨hv, hl, hn⟩ ⟨r, hs⟩ _ => ⟨gateInv_step hv hs, stale_step hv hs hl hn⟩) ⟨hI, hm, hne⟩
    exact this.2.2 hau.1
  · obtain ⟨op, hop⟩ := Option.ne_none_iff_exists'.1 fun e => hr (hI.latch.2 e)
    refine ⟨op, hop, fun u hu => ?_, fun l r s' hs hn => ?_⟩
    · obtain ⟨hl, hb⟩ := blocked_run hI hop hu
      have hIu : u.GateInv := hu.invariant (fun v l w hv ⟨r, hs⟩ _ => gateInv_step hv hs) hI
      exact ⟨hl, fun e => (by rw [hIu.latch.1 e] at hb; cases hb), hb⟩
    · have hI' := gateInv_step hI hs
      rcases (blocked_step hI hs hop).2 with hb | hc
      · rw [hI'.latch.1 hn] at hb; cases hb
      · exact hc

/-- One acquirer is granted the lock, another one queues; the first blocks the gate and releases. -/
def blocking : List GateLabel :=
  [.call 0 (.acquire "add" .add false) 0 true, .call 1 (.acquire "remove" .remove true) 0 true,
    .block ⟨"add", .add, 1, 0⟩ "failed", .release ⟨"add", .add, 1, 0⟩]

/-- The queued acquirer obtains the lock of the blocked gate, raises and leaves the lock free. -/
theorem gate_safe_queued : ∃ s s' r, blocking.foldlM (fun s l => (step l s).map Prod.snd) init = some s ∧
    step (.resume 1 0 true) s = some (r, s') ∧
    r = .raised (gateFencedError "Replica synchronization is BLOCKED: failed") ∧
    s'.gate.lock.locked = false := by
  obtain ⟨s, hs⟩ : ∃ s, blocking.foldlM (fun s l => (step l s).map Prod.snd) init = some s := ⟨_, rfl⟩
  have hreach : machine.Reachable s := .steps (fun hl => by
    obtain ⟨⟨r, u⟩, hstep, rfl⟩ := Option.map_eq_some_iff.1 hl
    exact ⟨⟨r, hstep⟩, trivial⟩) ⟨init, rfl, .refl _⟩ hs
  cases hs
  have hrejected := (gate_safe hreach).rejects "failed" rfl 1 "remove" .remove true
    (.resume 1 0 true) _ _ ⟨rfl, rfl, rfl⟩ rfl
  exact ⟨_, _, _, rfl, rfl, hrejected.raised, hrejected.unlocked⟩

end ReplicaLending.GateSystem
