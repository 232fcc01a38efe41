import ReplicaLending.Task.Bootstrap
import ReplicaLending.Task.Creation
/-!
# Publishing under the gate

`bootstrap_and_publish` and `restore_and_publish` with the reconciliation of a blocked publication.

| the method | leaves its target |
|---|---|
| returns SERVICE_COMMITTED | ACTIVE, effective and routed (in `strict` runs) |
| returns RELEASED | asleep and parked, or destroyed |
| raises, gate healthy | as it was |
| raises, gate blocked | anywhere on the way: the operation may reconcile later |
-/

namespace ReplicaLending

open TaskState TaskProg Rollouter LLMServerManager CheckpointEngineManager

variable {d : Deployment} {strict : Prop} {c : OperationCommand} {s : TaskState} {r : Replica}
  {G P : TaskState → Prop}

/-! ## Outcomes -/

/-- What a publishing method returns with. -/
structure Delivered (strict : Prop) (c : OperationCommand) (ev : OperationEvidence) (s : TaskState) :
    Prop where
  lined : Lined s c
  clear : Clear strict s c
  operation : ev.operationId = c.operationId
  committed : strict → ev.type = .serviceCommitted → (s.inflight = [] ∧ Public s c) ∧
    s.manager.replicaState.get? c.target = some .active ∧ (s.ce.members c.target).isSome

theorem Steady.delivered {ev : OperationEvidence} : Steady d strict c (Delivered strict c ev) := by
  intro s t hi h hr ht
  refine ⟨Steady.lined s t hi h.lined hr ht, Steady.clear s t hi h.clear hr ht, h.operation,
    fun hst hty => ?_⟩
  obtain ⟨hpub, hact, hm⟩ := h.committed hst hty
  have hsteady : Steady d strict c fun s => s.inflight = [] ∧ Public s c := Steady.quiet_public
  refine ⟨hsteady s t hi hpub hr ht, ?_, ?_⟩
  · rw [hr.manager]; exact hact
  · rw [hr.members]; exact hm

theorem Clear.regate (s : TaskState) (g : ReplicaSyncGate) (h : Clear strict s c) :
    Clear strict { s with gate := g } c :=
  h.congr rfl rfl rfl rfl rfl

theorem Delivered.regate {ev : OperationEvidence} (s : TaskState) (g : ReplicaSyncGate)
    (h : Delivered strict c ev s) : Delivered strict c ev { s with gate := g } :=
  ⟨h.lined, h.clear.regate s g, h.operation, h.committed⟩

theorem Closed.delivered (h : Closed strict s c) (hw : Wired s.manager s.ce) {ev : OperationEvidence}
    (ho : ev.operationId = c.operationId) (hty : ev.type = .released) : Delivered strict c ev s :=
  ⟨h.lined, h.clear hw, ho, fun _ hc => by rw [hty] at hc; cases hc⟩

/-- A change of the service that went through has published the target. -/
theorem Changed.delivered (hi : Inv d strict s) {ev : OperationEvidence}
    (h : Changed strict c (some ev) s) : Delivered strict c ev s := by
  obtain ⟨hm, ⟨ho, hty⟩, hend⟩ := h
  have hstate : InService s.manager c.target := hend.imp And.left fun h => h.2.state
  have hne : ∀ {st : ReplicaState}, st ≠ .active → st ≠ .draining →
      s.manager.replicaState.get? c.target ≠ some st := by
    intro st ha hd he
    rcases hstate with hk | hk <;> rw [hk] at he <;> cases he
    exacts [ha rfl, hd rfl]
  have hactive : strict → s.manager.replicaState.get? c.target = some .active ∧
      s.inflight = [] ∧ Public s c := fun hst => hend.resolve_right fun h => h.1 hst
  refine ⟨lined_of_member hm, ⟨fun _ hk => (hne (by decide) (by decide) hk).elim,
    fun _ _ => hi.wired.disjoint hm, ?_, fun _ _ => hstate,
    fun _ hk => (hne (by decide) (by decide) hk).elim, fun _ _ => hm, fun hst _ hk => ?_⟩, ho,
    fun hst _ => ⟨(hactive hst).2, (hactive hst).1, hm⟩⟩
  · rcases hend with h | h
    exacts [h.2.1, h.2.calls]
  · rw [(hactive hst).1] at hk; cases hk

/-! ## Withdrawing a target -/

/-- The target that `commit_service_change` has withdrawn, by kind of operation. -/
def Pulled (c : OperationCommand) (r : Replica) (s : TaskState) : Prop :=
  (Withdrawn s c ∧ Started s.manager s.rollouter c) ∧
    (c.kind = .add ∧ s.manager.replicaKind.get? c.target = some .borrowed ∨
      c.kind = .restore ∧ s.manager.replicaKind.get? c.target = some .native ∧
        s.manager.runtimeInventory.get? c.target = some r)

theorem Steady.pulled : Steady d strict c (Pulled c r) :=
  (Steady.withdrawn.and .started).and (.manager fun m =>
    c.kind = .add ∧ m.replicaKind.get? c.target = some .borrowed ∨
      c.kind = .restore ∧ m.replicaKind.get? c.target = some .native ∧
        m.runtimeInventory.get? c.target = some r)

theorem Pulled.recede (s : TaskState) (ce : CheckpointEngineManager) (h : Pulled c r s) :
    Pulled c r { s with ce := ce } :=
  ⟨⟨⟨h.1.1.state, h.1.1.calls, h.1.1.route, h.1.1.unlisted⟩, h.1.2⟩, h.2⟩

/-- A native target is bound: it is a RESTORE's. -/
theorem Pulled.bound (h : Pulled c r s)
    (hn : s.manager.replicaKind.get? c.target = some .native) :
    s.rollouter.pendingOperationTargets.get? c.operationId = some c.target := by
  obtain ⟨⟨-, hst⟩, ⟨-, hb⟩ | ⟨hk, -⟩⟩ := h
  · rw [hb] at hn; cases hn
  · unfold Started at hst
    rw [hk] at hst
    exact hst

/-- The runtime is gone from the checkpoint engine, or parked there. -/
theorem Pulled.retired (h : Pulled c r s) (hm : s.ce.members c.target = none)
    (hr : s.ce.ready.get? c.target = none) (hadd : c.kind = .add → s.ce.pending.get? c.target = none)
    (hrestore : c.kind = .restore → Parked s.manager s.ce c.target) : Retired strict s c := by
  obtain ⟨⟨hw, -⟩, hk⟩ := h
  refine ⟨hw.calls, hw.route, hw.unlisted, fun hn => ?_, fun hb => ?_, fun _ => hm, fun _ => hr⟩
  · rcases hk with ⟨-, hb⟩ | ⟨hk, -⟩
    · rw [hb] at hn; cases hn
    · exact hrestore hk
  · rcases hk with ⟨hk, -⟩ | ⟨-, hn, -⟩
    · exact hadd hk
    · rw [hn] at hb; cases hb

/-- The target is no longer served. -/
theorem Changed.pulled (hi : Inv d strict s) (hc : Cur d c s) (hx : c.kind.exits = false)
    (h : Changed strict c none s)
    (hr : c.kind = .restore → s.manager.runtimeInventory.get? c.target = some r ∧
      r.kind = .native) : Pulled c r s := by
  obtain ⟨-, hw, hst⟩ := h
  refine ⟨⟨hw, hst⟩, ?_⟩
  cases hk : c.kind with
  | add => exact .inl ⟨rfl, hi.borrowed_of_started hc hk hst⟩
  | restore =>
    obtain ⟨hi', hn⟩ := hr hk
    exact .inr ⟨rfl, by rw [hi.wired.runtime_kind hi', hn], hi'⟩
  | donate => rw [hk] at hx; cases hx
  | remove => rw [hk] at hx; cases hx

theorem Retired.lined (h : Retired strict s c) : Lined s c := fun hn _ _ => h.parked hn

theorem gate_removeEffective (k : ReplicaKey) (s : TaskState) (o : Choice) :
    (Trainer.removeEffective k s o).2.gate = s.gate := by
  unfold Trainer.removeEffective onCe
  split <;> rfl

theorem gate_registerPending (k : ReplicaKey) (rs : List Replica) (op : String) (s : TaskState)
    (o : Choice) : (Trainer.registerPending k rs op s o).2.gate = s.gate := by
  unfold Trainer.registerPending onCe
  split <;> rfl

namespace Triple

/-- `remove_effective` of a withdrawn target. -/
theorem does_withdraw (hG : Framed d strict c G)
    (hheld : ∀ s, G s → Held s.gate s.nativeSync c.operationId) :
    Does d strict c (fun s => (G s ∧ Pulled c r s) ∧ Lined s c) (fun _ _ => True)
      (Trainer.removeEffective c.target) (fun _ s => (G s ∧ Pulled c r s) ∧ Bare s c)
      fun _ s => (G s ∧ Pulled c r s) ∧ Lined s c :=
  does_remove hG hheld (fun _ h => h.1) (fun _ h => h.1.1.state)
    (fun s h x hx => by rw [h.1.1.route] at hx; cases hx) (fun _ _ h hn => h.bound hn)
    fun s ce h => h.recede s ce

/-- `register_pending` of a withdrawn native target. -/
theorem does_repark (hG : Framed d strict c G) (hr : c.kind = .restore)
    {E : PyErr → TaskState → Prop} :
    Does d strict c (fun s => (G s ∧ Pulled c r s) ∧ Bare s c) (fun _ _ => True)
      (Trainer.registerPending c.target [r] c.operationId)
      (fun _ s => G s ∧ Retired strict s c) E := by
  have hnative : ∀ s, Pulled c r s → s.manager.replicaKind.get? c.target = some .native ∧
      s.manager.runtimeInventory.get? c.target = some r := by
    rintro s ⟨-, ⟨hadd, -⟩ | ⟨-, h⟩⟩
    · rw [hr] at hadd; cases hadd
    · exact h
  intro s o hi hc h ho
  obtain ⟨hi', hc', hend⟩ := does_park (E := fun _ _ => False) hG (fun s h => (hnative s h).2)
    (fun s _ h => (hnative s h).1) (fun s ce h => Pulled.recede s ce h) s o hi hc h ho
  refine ⟨hi', hc', ?_⟩
  cases hend' : (Trainer.registerPending c.target [r] c.operationId s o).1 with
  | error e => rw [hend'] at hend; exact hend.elim
  | ok a =>
    rw [hend'] at hend
    obtain ⟨⟨hg, hp⟩, hm, hrd, -, hpark⟩ := hend
    exact ⟨hg, hp.retired hm hrd (fun hadd => by rw [hr] at hadd; cases hadd) fun _ => hpark⟩

theorem retired_of_bare (hadd : c.kind = .add) (s : TaskState)
    (h : (G s ∧ Pulled c r s) ∧ Bare s c) : G s ∧ Retired strict s c :=
  ⟨h.1.1, h.1.2.retired h.2.member h.2.ready (fun _ => h.2.pending) fun hr => by
    rw [hadd] at hr; cases hr⟩

/-- `finalize_release` of a target out of service, called from the Trainer. -/
theorem releaseRetired (hG : Framed d strict c G)
    (hguard : ∀ s, G s → c.kind.exits = false → Guarded s.gate s.nativeSync c.operationId) :
    Triple d strict c (fun s => G s ∧ Retired strict s c)
      (TaskProg.rpc (Rollouter.finalizeRelease d c.operationId))
      (fun ev s => G s ∧ Closed strict s c ∧ ev.operationId = c.operationId ∧ ev.type = .released)
      fun _ s => G s ∧ Lined s c :=
  .remote (hG.steady.and .retired)
    ((finalizeRelease hG hguard).pre fun _ _ _ h => ⟨h.1, fun _ => h.2⟩)
    (fun _ => hG.steady.and (Steady.closed.and (.const _))) (hG.steady.and .lined)
    (fun _ _ _ h => ⟨h.1, h.2.lined⟩) (fun _ _ _ _ h => ⟨h.1, h.2.1.lined⟩) fun _ _ _ h => h

/-- What the release was asked for. -/
theorem requireReleased {ev : OperationEvidence} {label : String} :
    Triple d strict c
      (fun s => G s ∧ Closed strict s c ∧ ev.operationId = c.operationId ∧ ev.type = .released)
      (Trainer.requireEvidence (some ev) c.operationId .released label)
      (fun ev s => G s ∧ Delivered strict c ev s) fun _ s => G s ∧ Lined s c := by
  refine .ofExcept (fun ev' hev s hi _ h => ?_) fun _ _ s _ _ h => ⟨h.1, h.2.1.lined⟩
  obtain ⟨rfl, -, -⟩ := requireOperationEvidence_ok hev
  exact ⟨h.1, h.2.1.delivered hi.wired h.2.2.1 h.2.2.2⟩

/-- What a change of the service was asked for. -/
theorem requireCommitted {ev : OperationEvidence} {label : String} :
    Triple d strict c (fun s => G s ∧ Changed strict c (some ev) s)
      (Trainer.requireEvidence (some ev) c.operationId .serviceCommitted label)
      (fun ev s => G s ∧ Delivered strict c ev s) fun _ s => G s ∧ Lined s c := by
  refine .ofExcept (fun ev' hev s hi _ h => ?_) fun _ _ s _ _ h => ⟨h.1, lined_of_member h.2.1⟩
  obtain ⟨rfl, -, -⟩ := requireOperationEvidence_ok hev
  exact ⟨h.1, h.2.delivered hi⟩

/-! ## `_reconcile_blocked_publish` -/

/-- The runtime a RESTORE reads before it reconciles. -/
def Anchored (c : OperationCommand) (r : Replica) (s : TaskState) : Prop :=
  c.kind = .restore → s.manager.runtimeInventory.get? c.target = some r ∧ r.kind = .native

theorem fixed_anchored : Fixed d strict c (Anchored c r) where
  steady := .imp _ (.manager fun m => m.runtimeInventory.get? c.target = some r ∧ r.kind = .native)
  same := by
    intro s t h _ _ _ hi hr
    rw [hi]
    exact h hr

/-- `commit_service_change`, called from the Trainer. -/
theorem changeAnchored (hG : Framed d strict c G) (hx : c.kind.exits = false)
    (hguard : ∀ s, G s → Guarded s.gate s.nativeSync c.operationId) :
    Triple d strict c (fun s => (G s ∧ Anchored c r s) ∧ Live s c)
      (TaskProg.rpc (Rollouter.commitServiceChange d c.operationId))
      (fun res s => (G s ∧ Anchored c r s) ∧ Changed strict c res s)
      fun _ s => G s ∧ Lined s c := by
  have hF : Fixed d strict c fun s => G s ∧ Anchored c r s := hG.fixed.and fixed_anchored
  exact .remote (hF.steady.and Neutral.live.steady) (changePublish hF hx fun s h => hguard s h.1)
    (fun res => hF.steady.and (Steady.changed res)) (hF.steady.and Neutral.live.steady)
    (fun _ _ _ h => ⟨h.1.1, lined_of_member h.2.1⟩) (fun _ _ _ _ h => ⟨h.1.1, lined_of_member h.2.1⟩)
    fun _ _ _ h => ⟨h.1.1, lined_of_member h.2.1⟩

theorem reconcilePublish (hx : c.kind.exits = false) {restoreNative : Bool}
    (hb : restoreNative = true ↔ c.kind = .restore) :
    Triple d strict c (fun s => (Recovering c.operationId s ∧ Anchored c r s) ∧ Live s c)
      (Trainer.reconcilePublish d c.operationId restoreNative c.target [r])
      (fun ev s => Recovering c.operationId s ∧ Delivered strict c ev s)
      fun _ s => Recovering c.operationId s ∧ Lined s c := by
  have hG : Framed d strict c (Recovering c.operationId) := .recovering
  have hguard : ∀ s, Recovering c.operationId s → Guarded s.gate s.nativeSync c.operationId :=
    fun _ h => .inl h.held
  refine .bind (changeAnchored hG hx hguard) fun res => ?_
  cases res with
  | some ev =>
    refine .pre (P := fun s => ev.type = .serviceCommitted ∧
      Recovering c.operationId s ∧ Changed strict c (some ev) s) (.of_imp fun hty => ?_)
      fun _ _ _ h => ⟨h.2.2.1.2, h.1.1, h.2⟩
    dsimp only
    rw [if_neg (by rw [hty]; decide)]
    exact requireCommitted
  | none =>
    refine .pre (P := fun s => (Recovering c.operationId s ∧ Pulled c r s) ∧ Lined s c) ?_
      fun s hi hc h => ⟨⟨h.1.1, h.2.pulled hi hc.1 hx h.1.2⟩, lined_of_member h.2.1⟩
    refine .bind (Q := fun _ s => (Recovering c.operationId s ∧ Pulled c r s) ∧ Bare s c) (.widen
      (.call ((hG.steady.and .pulled).and .lined) (does_withdraw hG fun _ h => h.held))
        fun _ h => ⟨h.1.1, h.2⟩) fun _ => ?_
    refine .bind (Q := fun _ s => Recovering c.operationId s ∧ Retired strict s c)
      (.when (fun hq => ?_) fun hq s _ _ h => ?_) fun _ =>
        .bind (releaseRetired hG fun s h _ => hguard s h) fun ev => requireReleased
    · exact .call ((hG.steady.and .pulled).and Neutral.bare.steady) (does_repark hG (hb.1 hq))
    · refine retired_of_bare ?_ s h
      rcases h.1.2.2 with ⟨hadd, -⟩ | ⟨hr, -⟩
      · exact hadd
      · exact (hq (hb.2 hr)).elim

/-- What is bound to a RESTORE is native. -/
theorem anchored_of_begun (hi : Inv d strict s) (h : Begun s c)
    (hrun : s.manager.replicaState.get? c.target ≠ some .released →
      s.manager.runtimeInventory.get? c.target = some r) : Anchored c r s := by
  intro hr
  have hrun := hrun fun hs => by rcases h.state hr with hk | hk <;> rw [hs] at hk <;> cases hk
  refine ⟨hrun, ?_⟩
  have hkind := hi.wired.runtime_kind hrun
  rw [h.native hr] at hkind
  exact (Option.some.inj hkind).symm

theorem reconcileBlockedPublish (hx : c.kind.exits = false) {restoreNative : Bool}
    (hb : restoreNative = true ↔ c.kind = .restore) :
    Triple d strict c (fun s => Begun s c)
      (Trainer.reconcileBlockedPublish d c.operationId restoreNative)
      (fun res s => match res with
        | some ev => Delivered strict c ev s
        | none => Begun s c) fun _ _ => True := by
  refine .bind ((gateFences Steady.begun).widen fun _ _ => trivial) fun b => ?_
  cases b with
  | false => exact .ret fun _ _ _ h => h.1
  | true =>
    have hP : Steady d strict c fun s => Begun s c ∧ Fencing c.operationId s :=
      Steady.begun.and .fencing
    refine .bind ((pendingTarget hP).conseq (fun _ _ _ h => ⟨h.1, h.2 rfl⟩)
      (fun _ _ _ _ h => ⟨h.1, h.2.2⟩) fun _ _ _ _ _ => trivial) fun k => .of_imp ?_
    rintro rfl
    refine .bind (Q := fun m s => (Begun s c ∧ Fencing c.operationId s) ∧ ∀ rs v, m = some (rs, v) →
      ∃ r, rs = [r] ∧ Anchored c r s ∧ Live s c) (.peek hP (fun s m hi _ h hm => ⟨h, ?_⟩)
        fun _ _ _ _ _ _ => trivial) fun m => ?_
    · rintro rs v rfl
      have hm := members_eq (Except.ok.inj hm)
      obtain ⟨r, rfl, hrun⟩ := hi.wired.member hm
      exact ⟨r, rfl, anchored_of_begun hi h.1 fun hs => hrun.resolve_right hs,
        by rw [hm]; rfl, h.1.started⟩
    cases m with
    | none => exact .ret fun _ _ _ h => h.1.1
    | some p =>
      obtain ⟨rs, v⟩ := p
      refine .pre (P := fun s => ∃ r, rs = [r] ∧ Fencing c.operationId s ∧ Anchored c r s ∧ Live s c)
        (.ex fun r => .of_imp ?_) fun s _ _ h => ?_
      · rintro rfl
        have hstart : Steady d strict c fun s => Anchored c r s ∧ Live s c :=
          fixed_anchored.steady.and Neutral.live.steady
        refine .bind (Q := fun res s => ∃ ev, res = some ev ∧ Delivered strict c ev s)
          (.widen (.reconcile (K := fun s => Anchored c r s ∧ Live s c) (R := fun s => Lined s c)
            hstart (fun _ _ _ h _ => h) (fun _ _ h => h)
            ((reconcilePublish hx hb).pre fun _ _ _ h => ⟨⟨h.1, h.2.1⟩, h.2.2⟩)
            (fun _ => .delivered) (fun _ => Delivered.regate) (fun _ _ _ _ h => h.lined)
            (fun _ _ _ _ h _ => h.clear) .lined (fun _ _ h => h) fun _ _ _ h => h)
            fun _ _ => trivial) fun res => ?_
        cases res with
        | none => exact .unreached fun _ _ _ h => by obtain ⟨_, he, -⟩ := h; cases he
        | some ev =>
          refine .ret fun s _ _ h => ?_
          obtain ⟨ev', he, h⟩ := h
          cases he
          exact h
      · obtain ⟨r, hrs, hrest⟩ := h.2 rs v rfl
        exact ⟨r, hrs, h.1.2, hrest⟩

end Triple

end ReplicaLending
