import ReplicaLending.Gate.Queue
import ReplicaLending.Task.Protocol
/-!
# The gate in the thread's hands

`acquire`, `lease.release`, `block`, `lease.guard` and `reconcile` as steps of the lifecycle thread.
Parts of the invariant excuse the target of the unfinished operation as long as the operation holds
the gate or has left it blocked; whoever gives the gate back healthy must have settled them (`Clear`).
-/

namespace ReplicaLending

open TaskState TaskProg

variable {d : Deployment} {strict : Prop} {c : OperationCommand} {s : TaskState}

/-- The thread holds the lease, and the gate is healthy. -/
def Owning (o : String) (lease : GateOwner) (s : TaskState) : Prop :=
  Latched s ∧ s.gate.owner = some lease ∧ s.gate.lock.locked = true ∧ s.gate.blockedReason = none ∧
    lease.operationId = o

/-- The thread holds the gate, and the operation has blocked it. -/
def Recovering (o : String) (s : TaskState) : Prop :=
  Latched s ∧ s.gate.lock.locked = true ∧ (∃ ow, s.gate.owner = some ow ∧ ow.operationId = o) ∧
    Fenced s.gate o

theorem Steady.owning {o : String} {lease : GateOwner} : Steady d strict c (Owning o lease) :=
  .latched fun g => g.owner = some lease ∧ g.lock.locked = true ∧ g.blockedReason = none ∧
    lease.operationId = o

theorem Steady.recovering {o : String} : Steady d strict c (Recovering o) :=
  .latched fun g => g.lock.locked = true ∧ (∃ ow, g.owner = some ow ∧ ow.operationId = o) ∧
    Fenced g o

theorem Owning.held {o : String} {lease : GateOwner} (h : Owning o lease s) :
    Held s.gate s.nativeSync o := by
  obtain ⟨⟨hn, -⟩, how, hl, -, ho⟩ := h
  exact ⟨hl, hn, lease, how, ho⟩

theorem Owning.isActive {o : String} {lease : GateOwner} (h : Owning o lease s) :
    s.gate.isActive lease := ⟨h.2.1, h.2.2.1⟩

theorem Recovering.held {o : String} (h : Recovering o s) : Held s.gate s.nativeSync o := by
  obtain ⟨⟨hn, -⟩, hl, ho, -⟩ := h
  exact ⟨hl, hn, ho⟩

/-- A blocked gate is not the native synchronisation's. -/
theorem Inv.latched_of_blocked (h : Inv d strict s) (hb : s.gate.blockedReason.isSome) :
    Latched s := by
  refine ⟨Option.eq_none_iff_forall_ne_some.2 fun ow how => ?_, .inr hb⟩
  rw [(h.gate.native how).2.2] at hb
  cases hb

/-! ## Giving the gate back -/

/-- A native target on its way out is parked once it is no member. -/
def Lined (s : TaskState) (c : OperationCommand) : Prop :=
  s.manager.replicaKind.get? c.target = some .native →
    s.manager.replicaState.get? c.target = some .draining → s.ce.members c.target = none →
    Parked s.manager s.ce c.target

/-- Nothing about the target of a publishing operation needs the gate as an excuse. -/
structure Clear (strict : Prop) (s : TaskState) (c : OperationCommand) : Prop where
  dormant : c.kind = .restore → s.manager.replicaState.get? c.target = some .dormant →
    Parked s.manager s.ce c.target
  hidden : c.kind = .add → s.manager.replicaKind.get? c.target = some .borrowed →
    s.ce.pending.get? c.target = none
  calls : s.inflight = []
  state : strict → (s.ce.members c.target).isSome → InService s.manager c.target
  built : strict → s.manager.replicaState.get? c.target = some .creating → ∀ r,
    s.manager.runtimeInventory.get? c.target = some r → (s.world r.rank).weights = true
  receipt : strict → (s.ce.ready.get? c.target).isSome → (s.ce.members c.target).isSome
  leaving : strict → Started s.manager s.rollouter c →
    s.manager.replicaState.get? c.target ≠ some .draining

/-- The gate, the journal, the snapshots and the outbox may change. -/
theorem Clear.congr {strict : Prop} {s t : TaskState} {c : OperationCommand} (h : Clear strict s c)
    (hm : t.manager = s.manager) (hce : t.ce = s.ce) (hf : t.inflight = s.inflight)
    (hr : t.rollouter = s.rollouter) (hw : t.world = s.world) : Clear strict t c := by
  refine ⟨?_, ?_, ?_, ?_, ?_, ?_, ?_⟩ <;> simp only [hm, hce, hf, hr, hw]
  · exact h.dormant
  · exact h.hidden
  · exact h.calls
  · exact h.state
  · exact h.built
  · exact h.receipt
  · exact h.leaving

/-- Another gate: whoever loses the excuse must not need it. -/
theorem Inv.regate {g : ReplicaSyncGate} {n : Option GateOwner} (h : Inv d strict s)
    (hg : GateOk g n)
    (hheld : ∀ c, Cur d c s → Held s.gate s.nativeSync c.operationId →
      Held g n c.operationId ∨ Lined s c)
    (hguard : ∀ c, Cur d c s → c.kind.exits = false →
      Guarded s.gate s.nativeSync c.operationId → Guarded g n c.operationId ∨ Clear strict s c) :
    Inv d strict { s with gate := g, nativeSync := n } where
  wired := h.wired
  listed := h.listed
  routed := h.routed
  gate := hg
  parking := by
    constructor
    case dormant =>
      intro k hk
      rcases h.parking.dormant hk with hp | ⟨c, hc, hr, rfl, hgu⟩
      · exact .inl hp
      · rcases hguard c hc (by rw [hr]; rfl) hgu with hgu | hcl
        · exact .inr ⟨c, hc, hr, rfl, hgu⟩
        · exact .inl (hcl.dormant hr hk)
    case draining =>
      intro k hn hk hm
      rcases h.parking.draining hn hk hm with hp | ⟨c, hc, rfl, hh, hb⟩
      · exact .inl hp
      · rcases hheld c hc hh with hh | hl
        · exact .inr ⟨c, hc, rfl, hh, hb⟩
        · exact .inl (hl hn hk hm)
    case hidden =>
      intro k hb hp
      obtain ⟨c, hc, ha, rfl, hgu⟩ := h.parking.hidden hb hp
      rcases hguard c hc (by rw [ha]; rfl) hgu with hgu | hcl
      · exact ⟨c, hc, ha, rfl, hgu⟩
      · rw [hcl.hidden ha hb] at hp; cases hp
  publishing := h.publishing
  inFlight := by
    intro hne
    obtain ⟨c, hc, hcalls, hrest⟩ := h.inFlight hne
    refine ⟨c, hc, hcalls, ?_⟩
    cases hx : c.kind.exits with
    | true => simpa [hx] using hrest
    | false =>
      simp only [hx, Bool.false_eq_true, if_false] at hrest ⊢
      rcases hguard c hc hx hrest.2 with hgu | hcl
      · exact ⟨hrest.1, hgu⟩
      · exact absurd hcl.calls hne
  bindings := h.bindings
  records := h.records
  reported := h.reported
  serving := by
    intro hs
    have hv := h.serving hs
    have hwork : ∀ {k}, AtWork s.gate s.nativeSync (s.journal.current d.taskSession) k →
        AtWork g n (s.journal.current d.taskSession) k ∨
        ∃ c, Cur d c s ∧ c.target = k ∧ Clear strict s c := by
      rintro k ⟨c, hc, hx, rfl, hgu⟩
      rcases hguard c hc hx hgu with hgu | hcl
      · exact .inl ⟨c, hc, hx, rfl, hgu⟩
      · exact .inr ⟨c, hc, rfl, hcl⟩
    constructor
    case state =>
      intro k hk
      rcases hv.state hk with hi | hw
      · exact .inl hi
      · rcases hwork hw with hw | ⟨c, -, rfl, hcl⟩
        · exact .inr hw
        · exact .inl (hcl.state hs hk)
    case awake => exact hv.awake
    case built =>
      intro k r hk hr
      rcases hv.built hk hr with hw | hw
      · exact .inl hw
      · rcases hwork hw with hw | ⟨c, -, rfl, hcl⟩
        · exact .inr hw
        · exact .inl (hcl.built hs hk r hr)
    case receipt =>
      intro k hk
      rcases hv.receipt hk with hm | hw
      · exact .inl hm
      · rcases hwork hw with hw | ⟨c, -, rfl, hcl⟩
        · exact .inr hw
        · exact .inl (hcl.receipt hs hk)
    case known => exact hv.known
    case leaving =>
      intro c hc hx hst hk
      rcases hguard c hc hx (hv.leaving hc hx hst hk) with hgu | hcl
      · exact hgu
      · exact absurd hk (hcl.leaving hs hst)
    case gone => exact hv.gone
  journal := h.journal
  closing := h.closing
  sent := h.sent
  leases := h.leases

namespace Triple

variable {α : Type} {P : TaskState → Prop} {lease : GateOwner}

/-! ## Taking and giving it -/

/-- What holds when the gate is found free and healthy. -/
theorem acquire {kind : GateKind} {K : TaskState → Prop} (hP : Steady d strict c P)
    (hK : ∀ s, Inv d strict s → Run d c s → P s →
      ¬ Guarded s.gate s.nativeSync c.operationId → s.gate.blockedReason = none → K s)
    (hKg : ∀ s g, K s → K { s with gate := g }) :
    Triple d strict c P (TaskProg.acquire c.operationId kind)
      (fun lease s => Owning c.operationId lease s ∧ K s) fun _ => P := by
  refine .bind (Q := fun _ => P) (.peek hP (fun _ _ _ _ h _ => h) fun _ _ _ _ h _ => h) fun _ => ?_
  refine .await hP (fun _ _ _ _ => trivial) ?_
  rintro s o hi hc hs ⟨hfree, -⟩
  have hlock : s.gate.lock.locked = false := AsyncLock.locked_of_free hfree
  have hnat : s.nativeSync = none := by
    refine Option.eq_none_iff_forall_ne_some.2 fun ow how => ?_
    rw [(hi.gate.native how).2.1] at hlock
    cases hlock
  have hnheld : ∀ op, ¬ Held s.gate s.nativeSync op := by
    rintro op ⟨hl, -⟩
    rw [hlock] at hl; cases hl
  dsimp only
  rcases Option.eq_none_or_eq_some s.gate.blockedReason with hb | ⟨reason, hb⟩
  case inr =>
    have hsame : ({ s.gate with lock := s.gate.lock.take.release } : ReplicaSyncGate) = s.gate := by
      have hw := hi.gate.waiters
      cases hg : s.gate with
      | mk lock owner epoch br bo =>
        rw [hg] at hw hlock
        cases lock with
        | mk locked waiters =>
          simp only at hw hlock
          subst hw hlock
          rfl
    rw [ReplicaSyncGate.acquireTail_blocked (g := { s.gate with lock := s.gate.lock.take }) hb]
    dsimp only
    rw [hsame]
    exact .error hi hc hs
  case inl =>
    rw [ReplicaSyncGate.acquireTail_healthy (g := { s.gate with lock := s.gate.lock.take }) hb]
    have hnfen : ∀ op, ¬ Fenced s.gate op := by
      rintro op ⟨hf, -⟩
      rw [hb] at hf; cases hf
    have hnguard : ∀ op, ¬ Guarded s.gate s.nativeSync op := by
      rintro op (hh | hf)
      · exact hnheld op hh
      · exact hnfen op hf
    refine .ok ?_ hc ⟨⟨⟨hnat, .inl rfl⟩, rfl, rfl, hb, rfl⟩, hKg s _ (hK s hi hc hs (hnguard _) hb)⟩
    have hinv := hi.regate (g := (ReplicaSyncGate.own { s.gate with lock := s.gate.lock.take }
      c.operationId kind o.now).2) (n := s.nativeSync) ?_ ?_ ?_
    · exact hinv
    · refine ⟨hi.gate.waiters, fun h => (by cases h), fun h => ?_⟩
      rw [hnat] at h; cases h
    · exact fun c _ hh => (hnheld _ hh).elim
    · exact fun c _ _ hgu => (hnguard _ hgu).elim

/-- The gate is given back healthy. -/
theorem release (hP : Steady d strict c P) (hPg : ∀ s g, P s → P { s with gate := g })
    (hlined : ∀ s, Inv d strict s → Run d c s → P s → Lined s c)
    (hclear : ∀ s, Inv d strict s → Run d c s → P s → c.kind.exits = false → Clear strict s c) :
    Triple d strict c (fun s => Owning c.operationId lease s ∧ P s) (TaskProg.release lease)
      (fun _ => P) fun _ => P := by
  refine .call (Steady.owning.and hP) ?_
  rintro s o hi hc ⟨how, hs⟩ -
  have hrel : (s.gate.release lease).2 =
      { s.gate with owner := none, lock := s.gate.lock.release } := by
    unfold ReplicaSyncGate.release
    rw [if_pos how.isActive]
  dsimp only
  rw [hrel, hi.gate.lock_release how.2.2.1]
  refine .ok ?_ hc (hPg s _ hs)
  refine hi.regate (n := s.nativeSync) ⟨rfl, fun _ => rfl, fun h => ?_⟩ ?_ ?_
  · rw [how.1.1] at h; cases h
  · intro c' hc' _
    obtain rfl : c = c' := Option.some.inj (hc.1.symm.trans hc')
    exact .inr (hlined s hi hc hs)
  · intro c' hc' hx _
    obtain rfl : c = c' := Option.some.inj (hc.1.symm.trans hc')
    exact .inr (hclear s hi hc hs hx)

/-! ## Blocking it -/

end Triple

/-- The thread holds the lease, and its operation has blocked the gate. -/
def Blocking (o : String) (lease : GateOwner) (s : TaskState) : Prop :=
  Latched s ∧ s.gate.owner = some lease ∧ s.gate.lock.locked = true ∧ lease.operationId = o ∧
    Fenced s.gate o

theorem Steady.blocking {o : String} {lease : GateOwner} : Steady d strict c (Blocking o lease) :=
  .latched fun g => g.owner = some lease ∧ g.lock.locked = true ∧ lease.operationId = o ∧
    Fenced g o

/-- The operation has left the gate blocked. -/
def Fencing (o : String) (s : TaskState) : Prop := Latched s ∧ Fenced s.gate o

theorem Steady.fencing {o : String} : Steady d strict c (Fencing o) := .latched fun g => Fenced g o

namespace Triple

variable {α : Type} {P R : TaskState → Prop} {lease : GateOwner}

theorem block {reason : String} {E : PyErr → TaskState → Prop} (hr : reason ≠ "")
    (hP : Steady d strict c P) (hPg : ∀ s g, P s → P { s with gate := g }) :
    Triple d strict c (fun s => Owning c.operationId lease s ∧ P s) (TaskProg.block lease reason)
      (fun _ s => Blocking c.operationId lease s ∧ P s) E := by
  refine .call (Steady.owning.and hP) ?_
  rintro s o hi hc ⟨how, hs⟩ -
  have hact := how.isActive
  obtain ⟨⟨hn, -⟩, hown, hl, hb, ho⟩ := how
  have hblock : s.gate.block lease reason = (.ok (), { s.gate with
      blockedReason := some reason, blockedOperationId := some lease.operationId }) := by
    unfold ReplicaSyncGate.block
    rw [if_neg (not_not.2 hact), if_neg hr]
  dsimp only
  rw [hblock]
  have hfen : Fenced { s.gate with
      blockedReason := some reason, blockedOperationId := some lease.operationId } c.operationId :=
    ⟨rfl, congrArg some ho⟩
  refine .ok ?_ hc ⟨⟨⟨hn, .inr rfl⟩, hown, hl, ho, hfen⟩, hPg s _ hs⟩
  refine hi.regate (n := s.nativeSync) ⟨hi.gate.waiters, fun h => ?_, fun h => ?_⟩ ?_ ?_
  · rw [show s.gate.lock.locked = false from h] at hl; cases hl
  · rw [hn] at h; cases h
  · intro c' _ hh
    exact .inl ⟨hl, hn, hh.2.2⟩
  · intro c' hc' _ _
    obtain rfl : c = c' := Option.some.inj (hc.1.symm.trans hc')
    exact .inl (.inr hfen)

/-- A blocked gate is given back. -/
theorem releaseBlocked {E : PyErr → TaskState → Prop} (hP : Steady d strict c P)
    (hPg : ∀ s g, P s → P { s with gate := g })
    (hlined : ∀ s, Inv d strict s → Run d c s → P s → Lined s c) :
    Triple d strict c (fun s => Blocking c.operationId lease s ∧ P s) (TaskProg.release lease)
      (fun _ s => Fencing c.operationId s ∧ P s) E := by
  refine .call (Steady.blocking.and hP) ?_
  rintro s o hi hc ⟨⟨⟨hn, -⟩, hown, hl, -, hfen⟩, hs⟩ -
  have hrel : (s.gate.release lease).2 =
      { s.gate with owner := none, lock := s.gate.lock.release } := by
    unfold ReplicaSyncGate.release
    rw [if_pos ⟨hown, hl⟩]
  dsimp only
  rw [hrel, hi.gate.lock_release hl]
  refine .ok ?_ hc ⟨⟨⟨hn, .inr hfen.1⟩, hfen⟩, hPg s _ hs⟩
  refine hi.regate (n := s.nativeSync) ⟨rfl, fun _ => rfl, fun h => ?_⟩ ?_ ?_
  · rw [hn] at h; cases h
  · intro c' hc' _
    obtain rfl : c = c' := Option.some.inj (hc.1.symm.trans hc')
    exact .inr (hlined s hi hc hs)
  · intro c' hc' _ _
    obtain rfl : c = c' := Option.some.inj (hc.1.symm.trans hc')
    exact .inl (.inr hfen)

/-! ## Working under it -/

/-- A guarded step, by a thread that owns the gate: the guard never fails. -/
theorem guard {f : TaskState → Choice → Except PyErr α × TaskState} {Q : α → TaskState → Prop}
    {E : PyErr → TaskState → Prop} (hP : Steady d strict c P)
    (hown : ∀ s, P s → Owning c.operationId lease s) (hgate : ∀ s o, (f s o).2.gate = s.gate)
    (h : Does d strict c P (fun _ _ => True) f Q E) :
    Triple d strict c P (TaskProg.guard lease f) Q E := by
  refine .call hP ?_
  intro s o hi hc hs _
  have how := hown s hs
  have hend := h s o hi hc hs trivial
  have hg := hgate s o
  have hhead : s.gate.guardHead lease = .ok () := by
    unfold ReplicaSyncGate.guardHead
    rw [if_pos how.isActive]
  have htail : s.gate.guardTail lease = .ok () := by
    unfold ReplicaSyncGate.guardTail
    rw [if_pos ⟨how.isActive, how.2.2.2.1⟩]
  dsimp only
  rw [hhead]
  dsimp only
  cases hf : f s o with
  | mk r t =>
    rw [hf] at hend hg
    cases r with
    | error e => exact hend
    | ok a =>
      dsimp only at hg ⊢
      rw [hg, htail]
      exact hend

theorem guardAsync {p : TaskProg α} {Q : α → TaskState → Prop} {E : PyErr → TaskState → Prop}
    (hP : Steady d strict c P) (hown : ∀ s, P s → Owning c.operationId lease s)
    (hQ : ∀ a, Steady d strict c (Q a)) (hQown : ∀ a s, Q a s → Owning c.operationId lease s)
    (h : Triple d strict c P p Q E) : Triple d strict c P (TaskProg.guardAsync lease p) Q E := by
  refine .bind (Q := fun _ => P) (.peek hP (fun _ _ _ _ h _ => h) fun s e _ _ hs he => ?_) fun _ =>
    .bind h fun a => .bind (Q := fun _ => Q a)
      (.peek (hQ a) (fun _ _ _ _ h _ => h) fun s e _ _ hs he => ?_) fun _ => .ret fun _ _ _ h => h
  · have how := hown s hs
    unfold ReplicaSyncGate.guardHead at he
    rw [if_pos how.isActive] at he
    cases he
  · have how := hQown a s hs
    unfold ReplicaSyncGate.guardTail at he
    rw [if_pos ⟨how.isActive, how.2.2.2.1⟩] at he
    cases he

/-- The latch is opened by its own operation, once the callback has returned. -/
theorem reconcile {callback : TaskProg α} {K : TaskState → Prop} {Q : α → TaskState → Prop}
    (hP : Steady d strict c P)
    (hK : ∀ s, Inv d strict s → Run d c s → P s → ¬ Held s.gate s.nativeSync c.operationId → K s)
    (hKg : ∀ s g, K s → K { s with gate := g })
    (h : Triple d strict c (fun s => Recovering c.operationId s ∧ K s) callback
      (fun a s => Recovering c.operationId s ∧ Q a s) fun _ s => Recovering c.operationId s ∧ R s)
    (hQ : ∀ a, Steady d strict c (Q a)) (hQg : ∀ a s g, Q a s → Q a { s with gate := g })
    (hQlined : ∀ a s, Inv d strict s → Run d c s → Q a s → Lined s c)
    (hQclear : ∀ a s, Inv d strict s → Run d c s → Q a s → c.kind.exits = false →
      Clear strict s c)
    (hR : Steady d strict c R) (hRg : ∀ s g, R s → R { s with gate := g })
    (hRlined : ∀ s, Inv d strict s → Run d c s → R s → Lined s c) :
    Triple d strict c (fun s => Fencing c.operationId s ∧ P s)
      (TaskProg.reconcile c.operationId callback)
      (fun r s => ∃ a, r = some a ∧ Q a s)
      fun _ s => Fencing c.operationId s ∧ (P s ∨ R s) := by
  have hstart : Steady d strict c fun s => Fencing c.operationId s ∧ P s := Steady.fencing.and hP
  refine .bind (Q := fun b s => b = true ∧ Fencing c.operationId s ∧ P s)
    (.peek hstart (fun s b _ _ hs hb => ?_) fun s e _ _ hs _ => ⟨hs.1, .inl hs.2⟩) fun b => ?_
  · refine ⟨?_, hs⟩
    unfold ReplicaSyncGate.reconcileHead at hb
    split at hb
    · cases hb
    split at hb
    · rename_i hnone
      have := hs.1.2.1
      rw [hnone] at this; cases this
    split at hb
    · cases hb
    · exact (Except.ok.inj hb).symm
  cases b with
  | false => exact .ret fun _ _ _ hs => (Bool.false_ne_true hs.1).elim
  | true =>
    refine .bind (Q := fun r s => (∃ ow, r = some ow) ∧ Recovering c.operationId s ∧ K s)
      (.await ((Steady.const _).and hstart) (fun _ _ _ _ => trivial) ?_) fun r => ?_
    · rintro s o hi hc ⟨-, ⟨⟨hn, -⟩, hfen⟩, hs⟩ ⟨hfree, -⟩
      have htail : ({ s.gate with lock := s.gate.lock.take } : ReplicaSyncGate).reconcileTail
          c.operationId o.now = (.ok (some (ReplicaSyncGate.own { s.gate with
            lock := s.gate.lock.take } c.operationId .recovery o.now).1),
          (ReplicaSyncGate.own { s.gate with lock := s.gate.lock.take }
            c.operationId .recovery o.now).2) := by
        unfold ReplicaSyncGate.reconcileTail
        rw [if_neg ?_, if_neg (not_not.2 hfen.2)]
        intro hnone
        have := hfen.1
        rw [show s.gate.blockedReason = none from hnone] at this; cases this
      have hnheld : ∀ op, ¬ Held s.gate s.nativeSync op := by
        rintro op ⟨hl, -⟩
        rw [AsyncLock.locked_of_free hfree] at hl; cases hl
      dsimp only
      rw [htail]
      refine .ok ?_ hc ⟨⟨_, rfl⟩, ⟨⟨hn, .inl rfl⟩, rfl, ⟨_, rfl, rfl⟩, hfen⟩,
        hKg s _ (hK s hi hc hs (hnheld _))⟩
      refine hi.regate (n := s.nativeSync) ⟨hi.gate.waiters, fun h => (by cases h), fun h => ?_⟩ ?_ ?_
      · rw [hn] at h; cases h
      · exact fun c' _ hh => (hnheld _ hh).elim
      · intro c' hc' _ _
        obtain rfl : c = c' := Option.some.inj (hc.1.symm.trans hc')
        exact .inl (.inr hfen)
    cases r with
    | none => exact .ret fun _ _ _ hs => by obtain ⟨⟨_, h⟩, -⟩ := hs; cases h
    | some ow =>
      refine .bind (Q := fun r s => Recovering c.operationId s ∧ match r with
        | .ok a => Q a s | .error _ => R s) (.result (h.pre fun _ _ _ hs => hs.2)) fun r => ?_
      refine .call (Steady.recovering.and (by cases r; exacts [hR, hQ _])) ?_
      rintro s o hi hc ⟨⟨⟨hn, -⟩, hl, ⟨ow', how', -⟩, hfen⟩, hs⟩ -
      have hgate : ∀ b, GateOk (s.gate.reconcileEnd b) s.nativeSync := by
        intro b
        refine ⟨?_, fun _ => rfl, fun h => ?_⟩
        · show s.gate.lock.release.waiters = []
          rw [hi.gate.lock_release hl]
        · rw [hn] at h; cases h
      cases r with
      | ok a =>
        refine .ok ?_ hc ⟨a, rfl, hQg a s _ hs⟩
        refine hi.regate (n := s.nativeSync) (hgate true) ?_ ?_
        · intro c' hc' _
          obtain rfl : c = c' := Option.some.inj (hc.1.symm.trans hc')
          exact .inr (hQlined a s hi hc hs)
        · intro c' hc' hx _
          obtain rfl : c = c' := Option.some.inj (hc.1.symm.trans hc')
          exact .inr (hQclear a s hi hc hs hx)
      | error e =>
        have hfen' : Fenced (s.gate.reconcileEnd false) c.operationId := hfen
        refine .error ?_ hc ⟨⟨⟨hn, .inr hfen.1⟩, hfen'⟩, .inr (hRg s _ hs)⟩
        refine hi.regate (n := s.nativeSync) (hgate false) ?_ ?_
        · intro c' hc' _
          obtain rfl : c = c' := Option.some.inj (hc.1.symm.trans hc')
          exact .inr (hRlined s hi hc hs)
        · intro c' hc' _ _
          obtain rfl : c = c' := Option.some.inj (hc.1.symm.trans hc')
          exact .inl (.inr hfen')

end Triple

end ReplicaLending
