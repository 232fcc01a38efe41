import ReplicaLending.Task.Draining
/-!
# Leaving service under the gate

`remove_and_commit` and `reconcile_exit`. Under the lease the target leaves the effective set, a native
receiver is parked, then `commit_service_change` withdraws route and lists. A failure after the first
write blocks the gate; the operation that blocked it may reconcile later.
-/

namespace ReplicaLending

open TaskState TaskProg Rollouter LLMServerManager CheckpointEngineManager

variable {d : Deployment} {strict : Prop} {c : OperationCommand} {s : TaskState}
  {G F P : TaskState → Prop}

/-! ## Tables of the checkpoint engine -/

/-- The checkpoint engine has forgotten the target. -/
structure Bare (s : TaskState) (c : OperationCommand) : Prop where
  member : s.ce.members c.target = none
  pending : s.ce.pending.get? c.target = none
  ready : s.ce.ready.get? c.target = none

theorem Neutral.bare : Neutral d strict c fun s => Bare s c where
  steady := by
    intro s t _ h hr _
    exact ⟨by rw [hr.members]; exact h.member, by rw [hr.pending]; exact h.pending,
      by rw [hr.ready]; exact h.ready⟩
  router := fun _ _ h => ⟨h.member, h.pending, h.ready⟩
  lists := fun _ h => ⟨h.member, h.pending, h.ready⟩

/-- A DRAINING target leaves the effective set. -/
theorem Inv.dropMember (h : Inv d strict s) (hc : Cur d c s) {refused : Bool}
    {ce : CheckpointEngineManager} (hok : s.ce.removeEffective refused c.target = .ok ce)
    (hs : s.manager.replicaState.get? c.target = some .draining)
    (hpool : ∀ x, s.lb.routes.get? c.target = some x → s.lb.servers.get? x = none)
    (hheld : s.manager.replicaKind.get? c.target = some .native →
      Held s.gate s.nativeSync c.operationId ∧
        s.rollouter.pendingOperationTargets.get? c.operationId = some c.target) :
    Inv d strict { s with ce := ce } ∧ Bare { s with ce := ce } c := by
  obtain ⟨hm, hp, hr, hoff⟩ := removeEffective_gone hok
  have hw : Wired s.manager ce := by
    rcases removeEffective_ok hok with ⟨-, rfl⟩ | ⟨rs, hrs, rfl⟩
    · exact h.wired.discard
    · exact h.wired.drop hrs (by rw [hs]; decide)
  refine ⟨h.setCe hc hoff hw (fun _ => hpool) (fun hd => ?_) (fun hn _ _ => .inr (hheld hn))
    (fun _ hpend => ?_) (fun _ _ => hm) (fun _ hmem => ?_) (fun _ r hmem => ?_) (fun _ hrd => ?_)
    (fun _ hrd => ?_) fun _ hrel => ?_, hm, hp, hr⟩
  · rw [hs] at hd; cases hd
  · rw [hp] at hpend; cases hpend
  · rw [hm] at hmem; cases hmem
  · rw [hm] at hmem; cases hmem
  · rw [hr] at hrd; cases hrd
  · rw [hr] at hrd; cases hrd
  · rw [hs] at hrel; cases hrel

/-- A native receiver is parked. -/
theorem Inv.parkReceiver (h : Inv d strict s) (hc : Cur d c s) {r : Replica} {o : String}
    (hi : s.manager.runtimeInventory.get? c.target = some r)
    (hn : s.manager.replicaKind.get? c.target = some .native) (hb : Bare s c) :
    s.ce.registerPending c.target [r] o = .ok (s.ce.park c.target r o) ∧
      Inv d strict { s with ce := s.ce.park c.target r o } ∧
      Parked s.manager (s.ce.park c.target r o) c.target := by
  have hm : (s.ce.park c.target r o).members c.target = none := hb.member
  have hr : (s.ce.park c.target r o).ready.get? c.target = none := hb.ready
  have hpark : Parked s.manager (s.ce.park c.target r o) c.target := ⟨r, o, hi, pending_park, hm, hr⟩
  refine ⟨registerPending_eq h.wired hi hb.member hb.pending, h.setCe hc off_park
    (h.wired.park hi hb.member) (fun _ _ => h.not_in_pool hb.member) (fun _ => .inl hpark)
    (fun _ _ _ => .inl hpark) (fun hbo => ?_) (fun _ _ => hm) (fun _ hmem => ?_)
    (fun _ r hmem => ?_) (fun _ hrd => ?_) (fun _ hrd => ?_) fun _ _ => ⟨hm, hr⟩, hpark⟩
  · rw [hn] at hbo; cases hbo
  · rw [hm] at hmem; cases hmem
  · rw [hm] at hmem; cases hmem
  · rw [hr] at hrd; cases hrd
  · rw [hr] at hrd; cases hrd

namespace Triple

/-- `remove_effective` as a step. -/
theorem does_remove (hG : Framed d strict c G)
    (hheld : ∀ s, G s → Held s.gate s.nativeSync c.operationId) (hP : ∀ s, P s → G s ∧ F s)
    (hs : ∀ s, F s → s.manager.replicaState.get? c.target = some .draining)
    (hpool : ∀ s, F s → ∀ x, s.lb.routes.get? c.target = some x → s.lb.servers.get? x = none)
    (hbound : ∀ s, Inv d strict s → F s → s.manager.replicaKind.get? c.target = some .native →
      s.rollouter.pendingOperationTargets.get? c.operationId = some c.target)
    (hF : ∀ s ce, F s → F { s with ce := ce }) :
    Does d strict c P (fun _ _ => True) (Trainer.removeEffective c.target)
      (fun _ s => (G s ∧ F s) ∧ Bare s c) fun _ => P := by
  rintro s o hi hc hp -
  obtain ⟨hg, hf⟩ := hP s hp
  unfold Trainer.removeEffective onCe
  dsimp only
  cases hok : s.ce.removeEffective (decide (o.fault ≠ .none)) c.target with
  | error e => exact .error hi hc hp
  | ok ce =>
    obtain ⟨hi', hbare⟩ := hi.dropMember hc.1 hok (hs s hf) (hpool s hf)
      fun hn => ⟨hheld s hg, hbound s hi hf hn⟩
    exact .ok hi' hc ⟨⟨hG.same s _ hg rfl rfl, hF s ce hf⟩, hbare⟩

/-- `register_pending` of a native receiver as a step: it never fails. -/
theorem does_park {r : Replica} {E : PyErr → TaskState → Prop} (hG : Framed d strict c G)
    (hr : ∀ s, F s → s.manager.runtimeInventory.get? c.target = some r)
    (hn : ∀ s, Inv d strict s → F s → s.manager.replicaKind.get? c.target = some .native)
    (hF : ∀ s ce, F s → F { s with ce := ce }) :
    Does d strict c (fun s => (G s ∧ F s) ∧ Bare s c) (fun _ _ => True)
      (Trainer.registerPending c.target [r] c.operationId)
      (fun _ s => (G s ∧ F s) ∧ s.ce.members c.target = none ∧ s.ce.ready.get? c.target = none ∧
        s.ce.pending.get? c.target = some ([r], c.operationId) ∧
        Parked s.manager s.ce c.target) E := by
  rintro s o hi hc ⟨⟨hg, hf⟩, hb⟩ -
  obtain ⟨hreg, hi', hpark⟩ := hi.parkReceiver (o := c.operationId) hc.1 (hr s hf) (hn s hi hf) hb
  unfold Trainer.registerPending onCe
  dsimp only
  rw [hreg]
  exact .ok hi' hc ⟨⟨hG.same s _ hg rfl rfl, hF s _ hf⟩, hb.member, hb.ready, pending_park, hpark⟩

end Triple

/-! ## `remove_and_commit` -/

/-- A DRAINING native receiver is parked already, when nobody holds the gate for the operation. -/
theorem Inv.lined (h : Inv d strict s) (hc : Cur d c s)
    (hg : ¬ Held s.gate s.nativeSync c.operationId) : Lined s c := by
  intro hn hk hm
  rcases h.parking.draining hn hk hm with hp | ⟨c', hc', -, hh, -⟩
  · exact hp
  · obtain rfl := hc.eq hc'
    exact (hg hh).elim

/-- What an exit hands to `finalize_release`. -/
def Exited (strict : Prop) (c : OperationCommand) (ev : OperationEvidence) (s : TaskState) : Prop :=
  (Detached strict s c ∧ Withdrawn s c) ∧ ev.operationId = c.operationId ∧
    ev.type = .serviceCommitted

theorem Exited.regate {ev : OperationEvidence} (s : TaskState) (g : ReplicaSyncGate)
    (h : Exited strict c ev s) : Exited strict c ev { s with gate := g } := by
  obtain ⟨⟨hd, hw⟩, hev⟩ := h
  exact ⟨⟨⟨hd.bound, hd.gone, hd.fresh, hd.parked, hd.unparked⟩,
    ⟨hw.state, hw.calls, hw.route, hw.unlisted⟩⟩, hev⟩

theorem Steady.exited {ev : OperationEvidence} : Steady d strict c (Exited strict c ev) :=
  (Neutral.detached.steady.and .withdrawn).and (.const _)

namespace Triple

variable {lease : GateOwner}

/-- What `remove_and_commit` knows of its target: the runtime that leaves. -/
def Departing (c : OperationCommand) (r : Replica) (s : TaskState) : Prop :=
  Shut s c ∧ s.manager.runtimeInventory.get? c.target = some r

theorem steady_departing {r : Replica} : Steady d strict c (Departing c r) :=
  Steady.shut.and (.manager fun m => m.runtimeInventory.get? c.target = some r)

theorem departing_ce {r : Replica} (s : TaskState) (ce : CheckpointEngineManager)
    (h : Departing c r s) : Departing c r { s with ce := ce } :=
  ⟨⟨⟨h.1.bound, h.1.state⟩, h.1.calls, h.1.pool⟩, h.2⟩

theorem removeMember {r : Replica} :
    Triple d strict c
      (fun s => (Owning c.operationId lease s ∧ Departing c r s) ∧ Lined s c)
      (TaskProg.guard lease (Trainer.removeEffective c.target))
      (fun _ s => (Owning c.operationId lease s ∧ Departing c r s) ∧ Bare s c)
      fun _ s => Owning c.operationId lease s ∧ Lined s c := by
  refine .conseq (.guard (E := fun _ s => (Owning c.operationId lease s ∧ Departing c r s) ∧
      Lined s c) ((Framed.owning.steady.and steady_departing).and .lined) (fun _ h => h.1.1) ?_
      (does_remove .owning (fun _ h => h.held) (fun _ h => h.1) (fun _ h => h.1.state)
        (fun _ h => h.1.pool) (fun _ _ h _ => h.1.bound) departing_ce))
    (fun _ _ _ h => h) (fun _ _ _ _ h => h) fun _ _ _ _ h => ⟨h.1.1, h.2⟩
  intro s o
  unfold Trainer.removeEffective onCe
  split <;> rfl

theorem parkMember {r : Replica} {E : PyErr → TaskState → Prop} :
    Triple d strict c (fun s => (Owning c.operationId lease s ∧ Departing c r s) ∧ Bare s c)
      (TaskProg.when (Trainer.allOfKind .native [r])
        (TaskProg.guard lease (Trainer.registerPending c.target [r] c.operationId)))
      (fun _ s => Owning c.operationId lease s ∧ Detached strict s c) E := by
  have hkind : ∀ s, Inv d strict s → Departing c r s →
      s.manager.replicaKind.get? c.target = some r.kind :=
    fun s hi h => hi.wired.runtime_kind h.2
  refine .when (fun hq => ?_) fun hq s hi hc h => ⟨h.1.1, ?_⟩
  · have hn : r.kind = .native := hq.2 r (by simp)
    have hP : Steady d strict c fun s => (Owning c.operationId lease s ∧ Departing c r s ∧
        s.manager.replicaKind.get? c.target = some .native) ∧ Bare s c :=
      (Framed.owning.steady.and (steady_departing.and (.manager fun m =>
        m.replicaKind.get? c.target = some .native))).and Neutral.bare.steady
    have hG : Framed d strict c (Owning c.operationId lease) := .owning
    refine (Triple.guard hP (fun _ h => h.1.1) (fun s o => ?_) (does_park (E := E) hG
      (F := fun s => Departing c r s ∧ s.manager.replicaKind.get? c.target = some .native)
      (fun _ h => h.1.2) (fun _ _ h => h.2) fun s ce h => ⟨departing_ce s ce h.1, h.2⟩)).conseq
      (fun s hi _ h => ⟨⟨h.1.1, h.1.2, ?_⟩, h.2⟩) (fun _ s _ _ h => ⟨h.1.1, ?_⟩) fun _ _ _ _ h => h
    · unfold Trainer.registerPending onCe
      split <;> rfl
    · rw [hkind s hi h.1.2, hn]
    · obtain ⟨⟨-, hdep, hnat⟩, hm, hrd, -, hparked⟩ := h
      refine ⟨hdep.1.bound, hm, fun _ => hrd, fun _ => hparked, fun hb => ?_⟩
      rw [hnat] at hb; cases hb
  · refine ⟨h.1.2.1.bound, h.2.member, fun _ => h.2.ready, fun hn => ?_, fun _ => h.2.pending⟩
    rw [hkind s hi h.1.2] at hn
    exact (hq ⟨by simp, by simpa using Option.some.inj hn⟩).elim

theorem removeAndCommitBody (hx : c.kind.exits = true) :
    Triple d strict c (fun s => (Owning c.operationId lease s ∧ Shut s c) ∧ Lined s c)
      (Trainer.removeAndCommitBody d c.operationId lease)
      (fun ev s => (Owning c.operationId lease s ∧ Detached strict s c) ∧ Withdrawn s c ∧
        ev.operationId = c.operationId ∧ ev.type = .serviceCommitted)
      fun _ s => Owning c.operationId lease s ∧ Lined s c := by
  have hP : Steady d strict c fun s => (Owning c.operationId lease s ∧ Shut s c) ∧ Lined s c :=
    (Steady.owning.and .shut).and .lined
  have hout : ∀ s, (Owning c.operationId lease s ∧ Shut s c) ∧ Lined s c →
      Owning c.operationId lease s ∧ Lined s c := fun _ h => ⟨h.1.1, h.2⟩
  refine .bind (Q := fun p s => ∃ r, p = (c.target, [r]) ∧
      (Owning c.operationId lease s ∧ Departing c r s) ∧ Bare s c) (raising ?_) ?_
  · refine .bind (pendingTarget hP |>.widen hout) fun k => .of_imp ?_
    rintro rfl
    refine .bind (Q := fun replicas s => ∃ r, replicas = [r] ∧
        (Owning c.operationId lease s ∧ Departing c r s) ∧ Lined s c) (.pre (.peek hP
      (fun s replicas hi hc h hr => ?_) fun _ _ _ _ h _ => hout _ h) fun _ _ _ h => h.2)
      fun replicas => .ex fun r => .of_imp ?_
    · split at hr
      · cases hr
      · rename_i rs v he
        cases hr
        obtain ⟨r, rfl, hrun⟩ := hi.wired.member_runtime (members_eq he)
          (by rw [h.1.2.state]; decide)
        exact ⟨r, rfl, ⟨h.1.1, h.1.2, hrun⟩, h.2⟩
    · rintro rfl
      refine .bind (requireKeep fun _ h => ⟨h.1.1, h.2⟩) fun _ => .bind removeMember fun _ =>
        .ret fun s _ _ h => ⟨r, rfl, h⟩
  rintro ⟨target, replicas⟩
  refine .ex fun r => .of_imp ?_
  rintro ⟨⟩
  have hlined : ∀ s, Owning c.operationId lease s ∧ Detached strict s c →
      Owning c.operationId lease s ∧ Lined s c := fun _ h => ⟨h.1, h.2.lined⟩
  have hG : Framed d strict c (Owning c.operationId lease) := .owning
  have hD : Steady d strict c fun s => Owning c.operationId lease s ∧ Detached strict s c :=
    hG.steady.and Neutral.detached.steady
  refine raising (.bind parkMember fun _ => .bind (Q := fun r s =>
    (Owning c.operationId lease s ∧ Detached strict s c) ∧ Withdrawn s c ∧ ∃ ev, r = some ev ∧
      ev.operationId = c.operationId ∧ ev.type = .serviceCommitted) (.guardAsync hD (fun _ h => h.1)
        (fun r => hD.and (Steady.withdrawn.and (.const _))) (fun _ _ h => h.1.1)
        (.remote hD (changeExit hG hx) (fun r => hD.and (Steady.withdrawn.and (.const _))) hD
          (fun s _ _ h => hlined s h) (fun _ s _ _ h => hlined s h.1) fun s _ _ h => hlined s h))
    fun r => ?_)
  cases r with
  | none => exact .unreached fun _ _ _ h => by obtain ⟨-, -, _, he, -⟩ := h; cases he
  | some ev =>
    refine .ofExcept (fun ev' hev s _ _ h => ?_) fun _ _ s _ _ h => hlined s h.1
    obtain ⟨hD, hw, ev₀, he, hop, hty⟩ := h
    cases he
    obtain ⟨rfl, -, -⟩ := requireOperationEvidence_ok hev
    exact ⟨hD, hw, hop, hty⟩

theorem removeAndCommit (hx : c.kind.exits = true) :
    Triple d strict c (fun s => Shut s c) (Trainer.removeAndCommit d c.operationId)
      (Exited strict c) fun _ _ => True := by
  have hnx : ¬ c.kind.exits = false := by simp [hx]
  refine .bind (.widen (.acquire (K := fun s => Shut s c ∧ Lined s c) .shut (fun s hi hc hs hg _ =>
    ⟨hs, hi.lined hc.1 fun hh => hg (.inl hh)⟩) fun s g h => ⟨⟨⟨h.1.bound, h.1.state⟩, h.1.calls,
      h.1.pool⟩, h.2⟩) fun _ _ => trivial) fun lease => ?_
  refine .tryFinally (Q := fun ev s => Owning c.operationId lease s ∧ Exited strict c ev s)
    (E := fun _ s => (Owning c.operationId lease s ∧ Lined s c) ∨
      (Blocking c.operationId lease s ∧ Lined s c)) ?_ (fun ev => ?_) fun e => ?_
  · refine .tryCatch (E := fun _ s => Owning c.operationId lease s ∧ Lined s c)
      ((removeAndCommitBody hx).conseq (fun _ _ _ h => ⟨⟨h.1, h.2.1⟩, h.2.2⟩)
        (fun _ _ _ _ h => ⟨h.1.1, ⟨h.1.2, h.2.1⟩, h.2.2⟩) fun _ _ _ _ h => h) fun e => ?_
    refine .bind (Q := fun _ s => (Owning c.operationId lease s ∧ Lined s c) ∨
      (Blocking c.operationId lease s ∧ Lined s c)) (.when (fun _ => ?_) fun _ _ _ _ h => .inl h)
      fun _ => .raise fun _ _ _ h => h
    exact (Triple.block (by decide) .lined fun _ _ h => h).conseq (fun _ _ _ h => h)
      (fun _ _ _ _ h => .inr h) fun _ _ _ _ h => h
  · exact (Triple.release .exited Exited.regate (fun _ _ _ h => h.1.1.lined)
      fun _ _ _ _ hf => (hnx hf).elim).widen fun _ _ => trivial
  · refine .or ?_ ?_
    · exact ((Triple.release .lined (fun _ _ h => h) (fun _ _ _ h => h)
        fun _ _ _ _ hf => (hnx hf).elim).conseq (fun _ _ _ h => h) (fun _ _ _ _ _ => trivial)
          fun _ _ _ _ _ => trivial)
    · exact ((Triple.releaseBlocked .lined (fun _ _ h => h) fun _ _ _ h => h).conseq
        (fun _ _ _ h => h) (fun _ _ _ _ _ => trivial) fun _ _ _ _ h => h)

end Triple

/-! ## `reconcile_exit` -/

/-- Where a failed exit has left its target: where `remove_and_commit` put it, or given up. -/
def Parted (strict : Prop) (c : OperationCommand) (s : TaskState) : Prop :=
  Detached strict s c ∨ s.manager.replicaState.get? c.target = some .quarantined

theorem Inv.parted (h : Inv d strict s) (hc : Cur d c s) (hx : c.kind.exits = true)
    (hb : s.rollouter.pendingOperationTargets.get? c.operationId = some c.target)
    (hm : s.ce.members c.target = none) (hg : ¬ Held s.gate s.nativeSync c.operationId) :
    Parted strict c s := by
  rcases h.bindings.exit hc hx hb with hs | hs
  · refine .inl ⟨hb, hm, fun hst => ?_, fun hn => h.lined hc hg hn hs hm, fun hbo => ?_⟩
    · refine Option.eq_none_iff_forall_ne_some.2 fun e he => ?_
      rcases (h.serving hst).receipt (by rw [he]; rfl) with hm' | hw
      · rw [hm] at hm'; cases hm'
      · have := (hw.eq hc).1
        rw [hx] at this; cases this
    · refine Option.eq_none_iff_forall_ne_some.2 fun e he => ?_
      obtain ⟨c', hc', ha, -⟩ := h.parking.hidden hbo (by rw [he]; rfl)
      obtain rfl := hc.eq hc'
      rw [ha] at hx; cases hx
  · exact .inr hs

theorem Parted.lined (h : Parted strict c s) : Lined s c := by
  rcases h with h | h
  · exact h.lined
  · intro _ hs
    rw [h] at hs; cases hs

theorem Parted.regate (s : TaskState) (g : ReplicaSyncGate) (h : Parted strict c s) :
    Parted strict c { s with gate := g } :=
  h.imp_left fun h => ⟨h.bound, h.gone, h.fresh, h.parked, h.unparked⟩

namespace Triple

/-- `commit_service_change` on a record that is given up. -/
theorem changeGivenUp {Q : Option OperationEvidence → TaskState → Prop} (hG : Framed d strict c G) :
    Triple d strict c
      (fun s => G s ∧ s.manager.replicaState.get? c.target = some .quarantined)
      (commitServiceChange d c.operationId) Q
      fun _ s => G s ∧ s.manager.replicaState.get? c.target = some .quarantined := by
  have hP := hG.neutral.and (.state fun st => st = some .quarantined)
  refine .bind (serviceHead hP.steady) ?_
  rintro ⟨target, kind, st⟩
  refine .of_imp ?_
  rintro rfl
  cases st with
  | quarantined => exact .raise fun _ _ _ h => h.1
  | active | creating | dormant | released | draining =>
    refine .unreached fun s hi hc h => ?_
    have := h.2.2.1
    rw [h.1.2] at this
    cases this

theorem reconcileChange (hx : c.kind.exits = true) :
    Triple d strict c (fun s => Recovering c.operationId s ∧ Parted strict c s)
      (do
        let evidence ← TaskProg.rpc (commitServiceChange d c.operationId)
        Trainer.requireEvidence evidence c.operationId .serviceCommitted
          "exit service reconciliation" : TaskProg OperationEvidence)
      (fun ev s => Recovering c.operationId s ∧ Exited strict c ev s)
      fun _ s => Recovering c.operationId s ∧ Lined s c := by
  have hG : Framed d strict c (Recovering c.operationId) := .recovering
  have hD : Steady d strict c fun s => Recovering c.operationId s ∧ Detached strict s c :=
    hG.steady.and Neutral.detached.steady
  have hq : Steady d strict c fun s => Recovering c.operationId s ∧
      s.manager.replicaState.get? c.target = some .quarantined :=
    hG.steady.and (Neutral.state fun st => st = some .quarantined).steady
  have hlined : ∀ s, Recovering c.operationId s ∧ Parted strict c s →
      Recovering c.operationId s ∧ Lined s c := fun _ h => ⟨h.1, h.2.lined⟩
  refine .bind (Q := fun r s => (Recovering c.operationId s ∧ Detached strict s c) ∧
    Withdrawn s c ∧ ∃ ev, r = some ev ∧ ev.operationId = c.operationId ∧
      ev.type = .serviceCommitted) ?_ fun r => ?_
  · have hsplit := Triple.or
      (remote hD (changeExit hG hx) (fun r => hD.and (Steady.withdrawn.and (.const _))) hD
        (fun s _ _ h => hlined s ⟨h.1, .inl h.2⟩) (fun _ s _ _ h => hlined s ⟨h.1.1, .inl h.1.2⟩)
        fun s _ _ h => hlined s ⟨h.1, .inl h.2⟩)
      (remote hq (changeGivenUp hG) (fun r => hD.and (Steady.withdrawn.and (.const _))) hq
        (fun s _ _ h => hlined s ⟨h.1, .inr h.2⟩) (fun _ s _ _ h => hlined s ⟨h.1.1, .inl h.1.2⟩)
        fun s _ _ h => hlined s ⟨h.1, .inr h.2⟩)
    refine hsplit.pre fun s _ _ h => ?_
    rcases h.2 with h' | h'
    · exact .inl ⟨h.1, h'⟩
    · exact .inr ⟨h.1, h'⟩
  cases r with
  | none => exact .unreached fun _ _ _ h => by obtain ⟨-, -, _, he, -⟩ := h; cases he
  | some ev =>
    refine .ofExcept (fun ev' hev s _ _ h => ?_) fun _ _ s _ _ h => ⟨h.1.1, h.1.2.lined⟩
    obtain ⟨⟨hg, hd⟩, hw, ev₀, he, hop, hty⟩ := h
    cases he
    obtain ⟨rfl, -, -⟩ := requireOperationEvidence_ok hev
    exact ⟨hg, ⟨hd, hw⟩, hop, hty⟩

/-- `gate_fences` says that the gate is the operation's to reopen. -/
theorem gateFences (hP : Steady d strict c P) :
    Triple d strict c P (TaskProg.peek fun s => .ok (Trainer.gateFences s c.operationId))
      (fun b s => P s ∧ (b = true → Fencing c.operationId s)) fun _ => P := by
  refine .peek hP (fun s b hi _ h hb => ⟨h, ?_⟩) fun _ _ _ _ h _ => h
  rintro rfl
  have hb := Except.ok.inj hb
  simp only [Trainer.gateFences, Bool.and_eq_true, decide_eq_true_eq] at hb
  exact ⟨hi.latched_of_blocked hb.1, hb⟩

theorem reconcileExit (hx : c.kind.exits = true) :
    Triple d strict c (fun s => Unsent s c) (Trainer.reconcileExit d c.operationId)
      (fun r s => match r with
        | some ev => Exited strict c ev s
        | none => Unsent s c) fun _ _ => True := by
  have hnx : ¬ c.kind.exits = false := by simp [hx]
  refine .bind ((gateFences Neutral.unsent.steady).widen fun _ _ => trivial) fun b => ?_
  cases b with
  | false => exact .ret fun _ _ _ h => h.1
  | true =>
    refine .bind (.widen (.pre (pendingTarget (P := fun s => Unsent s c ∧ Fencing c.operationId s)
      (Neutral.unsent.steady.and .fencing)) fun _ _ _ h => ⟨h.1, h.2 rfl⟩) fun _ _ => trivial)
      fun k => .of_imp ?_
    rintro rfl
    have hP : Steady d strict c fun s =>
        s.rollouter.pendingOperationTargets.get? c.operationId = some c.target ∧
          Unsent s c ∧ Fencing c.operationId s :=
      (Neutral.binding fun k => k = some c.target).steady.and
        (Neutral.unsent.steady.and .fencing)
    refine .bind (Q := fun b s => (s.rollouter.pendingOperationTargets.get? c.operationId =
        some c.target ∧ Unsent s c ∧ Fencing c.operationId s) ∧
        (b = false → s.ce.members c.target = none)) (.peek hP (fun s b _ _ h hb => ⟨h, ?_⟩)
      fun _ _ _ _ _ _ => trivial) fun b => ?_
    · rintro rfl
      exact members_none.2 (by simpa using Except.ok.inj hb)
    cases b with
    | true => exact .ret fun _ _ _ h => h.1.2.1
    | false =>
      have hstart : Steady d strict c fun s =>
          s.rollouter.pendingOperationTargets.get? c.operationId = some c.target ∧
            s.ce.members c.target = none :=
        (Neutral.binding fun k => k = some c.target).steady.and
          (.seen fun v => v.members c.target = none)
      refine .bind (Q := fun r s => ∃ ev, r = some ev ∧ Exited strict c ev s)
        (.widen (.pre (.reconcile (K := Parted strict c) hstart
          (fun s hi hc h hg => hi.parted hc.1 hx h.1 h.2 hg) Parted.regate (reconcileChange hx)
          (fun _ => .exited) (fun _ => Exited.regate) (fun _ _ _ _ h => h.1.1.lined)
          (fun _ _ _ _ _ hf => (hnx hf).elim) .lined (fun _ _ h => h) fun _ _ _ h => h)
          fun _ _ _ h => ⟨h.1.2.2, h.1.1, h.2 rfl⟩) fun _ _ => trivial) fun r => ?_
      cases r with
      | none => exact .unreached fun _ _ _ h => by obtain ⟨_, he, -⟩ := h; cases he
      | some ev =>
        refine .ret fun s _ _ h => ?_
        obtain ⟨ev', he, h⟩ := h
        cases he
        exact h

end Triple

end ReplicaLending
