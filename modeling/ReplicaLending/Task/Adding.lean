import ReplicaLending.Task.Publication
/-!
# `bootstrap_and_publish` (`trainer.py:202`)

A borrowed runtime is registered, bootstrapped, promoted and published under one lease. A failure
before it is effective destroys it again (`rollbackAdd`), a later one leaves the gate blocked. A replay
of an ADD that was published finds its receipt, and publishes nothing anew.
-/

namespace ReplicaLending

open TaskState TaskProg Rollouter LLMServerManager CheckpointEngineManager

variable {d : Deployment} {strict : Prop} {c : OperationCommand} {s : TaskState} {r : Replica}
  {G P : TaskState → Prop} {lease : GateOwner}

/-- What a publishing operation starts from when it has found the gate healthy. -/
structure Opened (strict : Prop) (s : TaskState) (c : OperationCommand) : Prop where
  begun : Begun s c
  lined : Lined s c
  clear : Clear strict s c

theorem Steady.opened : Steady d strict c fun s => Opened strict s c := fun s t hi h hr ht =>
  ⟨Steady.begun s t hi h.begun hr ht, Steady.lined s t hi h.lined hr ht,
    Steady.clear s t hi h.clear hr ht⟩

theorem Opened.regate (s : TaskState) (g : ReplicaSyncGate) (h : Opened strict s c) :
    Opened strict { s with gate := g } c :=
  ⟨⟨h.begun.started, h.begun.native, h.begun.state⟩, h.lined, h.clear.regate s g⟩

theorem Inv.opened (h : Inv d strict s) (hc : Cur d c s) (hx : c.kind.exits = false)
    (hb : Begun s c) (hg : ¬ Guarded s.gate s.nativeSync c.operationId) : Opened strict s c :=
  ⟨hb, h.lined hc fun hh => hg (.inl hh), h.clear hc hx hg⟩

/-- The entry of the target in the pending table goes, and its receipt. -/
theorem Inv.discard (h : Inv d strict s) (hc : Cur d c s)
    (hg : Guarded s.gate s.nativeSync c.operationId)
    (hk : c.kind = .add ∧ s.manager.replicaKind.get? c.target = some .borrowed ∨
      c.kind = .restore ∧ s.manager.replicaState.get? c.target = some .dormant) :
    Inv d strict { s with ce := s.ce.discardPending c.target } := by
  have hx : c.kind.exits = false := by rcases hk with ⟨hk, -⟩ | ⟨hk, -⟩ <;> rw [hk] <;> rfl
  have hrestore : s.manager.replicaKind.get? c.target = some .native → c.kind = .restore ∧
      s.manager.replicaState.get? c.target = some .dormant := by
    intro hn
    refine hk.resolve_left fun hadd => ?_
    rw [hadd.2] at hn
    cases hn
  have hp : (s.ce.discardPending c.target).pending.get? c.target = none := pending_discard
  have hr : (s.ce.discardPending c.target).ready.get? c.target = none := ready_discard
  refine h.setCe hc off_discard h.wired.discard (fun hm _ => h.not_in_pool hm)
    (fun hd => .inr ⟨(hrestore (h.wired.native_of_dormant hd)).1, hg⟩) (fun hn hd _ => ?_)
    (fun _ hpend => ?_) (fun hex _ => ?_) (fun _ _ => .inr ⟨hx, hg⟩)
    (fun hst r hm hs => (h.serving hst).awake hm (hs.imp_left id)) (fun _ hrd => ?_) (fun _ hrd => ?_)
    fun hst hrel => ⟨((h.serving hst).gone hrel).1, hr⟩
  · rw [(hrestore hn).2] at hd; cases hd
  · rw [hp] at hpend; cases hpend
  · rw [hx] at hex; cases hex
  · rw [hr] at hrd; cases hrd
  · rw [hr] at hrd; cases hrd

/-! ## The rollback -/

/-- The target of an ADD that is not effective waits for nothing. -/
structure Dropped (strict : Prop) (s : TaskState) (c : OperationCommand) : Prop where
  started : Started s.manager s.rollouter c
  calls : s.inflight = []
  lined : Lined s c
  vacant : Releasable s.manager c.target → s.ce.pending.get? c.target = none ∧
    (strict → s.ce.members c.target = none ∧ s.ce.ready.get? c.target = none)

theorem Steady.dropped : Steady d strict c fun s => Dropped strict s c := by
  intro s t hi h hr ht
  refine ⟨hr.started.2 h.started, hr.calls h.calls, Steady.lined s t hi h.lined hr ht, fun hs => ?_⟩
  rw [hr.manager] at hs
  rw [hr.pending, hr.members, hr.ready]
  exact h.vacant hs

theorem Dropped.retired (h : Dropped strict s c) (hi : Inv d strict s) (hc : Cur d c s)
    (hadd : c.kind = .add) (hs : Releasable s.manager c.target) : Retired strict s c := by
  have hx : c.kind.exits = false := by rw [hadd]; rfl
  have hb := hi.borrowed_of_started hc hadd h.started
  have hpub := hi.publishing hc hx h.started
  obtain ⟨hp, hfresh⟩ := h.vacant hs
  refine ⟨h.calls, ?_, fun r hr hm => ?_, fun hn => ?_, fun _ => hp, fun hst => ?_,
    fun hst => (hfresh hst).2⟩
  · refine Option.eq_none_iff_forall_ne_some.2 fun x hx => ?_
    obtain ⟨hact, -⟩ := hpub.route hx
    rcases hs with hs | hs <;> rw [hs] at hact <;> cases hact
  · rcases hs with hs | hs
    · exact hpub.unlisted hs r hr hm
    · exact hi.listed.creating hs hr hm
  · rw [hb] at hn; cases hn
  · rcases hst with hst | hex
    · exact (hfresh hst).1
    · rw [hx] at hex; cases hex

/-- A releasable target that needs no excuse is no member. -/
theorem Opened.dropped (h : Opened strict s c) (hi : Inv d strict s) (hc : Cur d c s)
    (hadd : c.kind = .add) : Dropped strict s c := by
  have hb := hi.borrowed_of_started hc hadd h.begun.started
  refine ⟨h.begun.started, h.clear.calls, h.lined, fun hs => ⟨h.clear.hidden hadd hb, fun hst => ?_⟩⟩
  have hm : s.ce.members c.target = none := by
    refine Option.eq_none_iff_forall_ne_some.2 fun rs hm => ?_
    rcases h.clear.state hst (by rw [hm]; rfl) with ha | hd
    · rcases hs with hs | hs <;> rw [hs] at ha <;> cases ha
    · exact h.clear.leaving hst h.begun.started hd
  refine ⟨hm, Option.eq_none_iff_forall_ne_some.2 fun e he => ?_⟩
  have := h.clear.receipt hst (by rw [he]; rfl)
  rw [hm] at this
  cases this

/-- What the rollback finds: an entry in the pending table, or a target as it was. -/
def Registered (strict : Prop) (c : OperationCommand) (s : TaskState) : Prop :=
  (∃ r, Staged strict s c r) ∨ Opened strict s c

theorem Steady.registered : Steady d strict c (Registered strict c) :=
  (Steady.ex fun _ => .staged).or .opened

theorem Staged.lined (h : Staged strict s c r) (hi : Inv d strict s) : Lined s c := by
  intro hn hd
  rcases h.kind with ⟨-, hb⟩ | ⟨-, -, hs⟩
  · rw [hi.wired.runtime_kind h.runtime, hb] at hn; cases hn
  · rw [hs] at hd; cases hd

theorem Registered.discard (h : Registered strict c s) (hi : Inv d strict s) (hc : Cur d c s)
    (hadd : c.kind = .add) :
    Dropped strict { s with ce := s.ce.discardPending c.target } c := by
  have hlined : Lined { s with ce := s.ce.discardPending c.target } c := by
    intro hn
    have hb : s.manager.replicaKind.get? c.target = some .borrowed := by
      rcases h with ⟨r, h⟩ | h
      · exact hi.borrowed_of_started hc hadd h.started
      · exact hi.borrowed_of_started hc hadd h.begun.started
    rw [show s.manager.replicaKind.get? c.target = some .native from hn] at hb
    cases hb
  rcases h with ⟨r, h⟩ | h
  · exact ⟨h.started, h.calls, hlined, fun _ =>
      ⟨pending_discard, fun _ => ⟨h.member, ready_discard⟩⟩⟩
  · exact ⟨h.begun.started, h.clear.calls, hlined, fun hs => ⟨pending_discard, fun hst =>
      ⟨(((h.dropped hi hc hadd).vacant hs).2 hst).1, ready_discard⟩⟩⟩

namespace Triple

/-- `discard_pending` of an ADD under the lease: it never fails. -/
theorem discardRegistered (hadd : c.kind = .add) {E : PyErr → TaskState → Prop} :
    Triple d strict c (fun s => Owning c.operationId lease s ∧ Registered strict c s)
      (TaskProg.guard lease (Trainer.discardPending c.target))
      (fun _ s => Owning c.operationId lease s ∧ Dropped strict s c) E := by
  refine .guard (Steady.owning.and .registered) (fun _ h => h.1) (fun _ _ => rfl) ?_
  rintro s o hi hc ⟨how, hreg⟩ -
  have hb : s.manager.replicaKind.get? c.target = some .borrowed := by
    rcases hreg with ⟨r, h⟩ | h
    · exact hi.borrowed_of_started hc.1 hadd h.started
    · exact hi.borrowed_of_started hc.1 hadd h.begun.started
  exact .ok (hi.discard hc.1 (.inl how.held) (.inl ⟨hadd, hb⟩)) hc
    ⟨how.same rfl rfl,
      hreg.discard hi hc.1 hadd⟩

theorem releaseDropped (hadd : c.kind = .add) :
    Triple d strict c (fun s => Owning c.operationId lease s ∧ Dropped strict s c)
      (TaskProg.guardAsync lease (TaskProg.rpc (Rollouter.finalizeRelease d c.operationId)))
      (fun ev s => Owning c.operationId lease s ∧ Closed strict s c ∧
        ev.operationId = c.operationId ∧ ev.type = .released)
      fun _ s => Owning c.operationId lease s ∧ Lined s c := by
  have hG : Framed d strict c (Owning c.operationId lease) := .owning
  have hP : Steady d strict c fun s => Owning c.operationId lease s ∧ Dropped strict s c :=
    hG.steady.and .dropped
  have hQ : ∀ ev : OperationEvidence, Steady d strict c fun s => Owning c.operationId lease s ∧
      Closed strict s c ∧ ev.operationId = c.operationId ∧ ev.type = .released :=
    fun _ => hG.steady.and (Steady.closed.and (.const _))
  exact .guardAsync hP (fun _ h => h.1) hQ (fun _ _ h => h.1) (.remote hP
    ((finalizeRelease hG fun _ h _ => .inl h.held).pre fun s hi hc h =>
      ⟨h.1, fun hs => h.2.retired hi hc.1 hadd hs⟩) hQ (hG.steady.and .lined)
    (fun _ _ _ h => ⟨h.1, h.2.lined⟩) (fun _ _ _ _ h => ⟨h.1, h.2.1.lined⟩) fun _ _ _ h => h)

/-- What is blocked stays as it is for a later replay. -/
theorem blockLined {reason : String} (hr : reason ≠ "") {E : PyErr → TaskState → Prop} :
    Triple d strict c (fun s => Owning c.operationId lease s ∧ Lined s c)
      (TaskProg.block lease reason) (fun _ s => Blocking c.operationId lease s ∧ Lined s c) E :=
  .block hr .lined fun _ _ h => h

theorem rollbackAdd (hadd : c.kind = .add) {l : Trainer.Publishing}
    (hl : l.pendingRegistered = true → l.target = some c.target) :
    Triple d strict c
      (fun s => Owning c.operationId lease s ∧ if l.pendingRegistered then Registered strict c s
        else Opened strict s c)
      (Trainer.rollbackAdd d c.operationId lease l)
      (fun ev s => Owning c.operationId lease s ∧ Delivered strict c ev s)
      fun _ s => Blocking c.operationId lease s ∧ Lined s c := by
  have hG : Framed d strict c (Owning c.operationId lease) := .owning
  refine .bind (Q := fun res s => res = .ok () ∧ Owning c.operationId lease s ∧ Dropped strict s c)
    (.result ?discard) fun res => .of_imp ?_
  case discard =>
    cases hreg : l.pendingRegistered with
    | true =>
      rw [hl hreg]
      exact (discardRegistered hadd (E := fun _ _ => False)).conseq (fun _ _ _ h => h)
        (fun _ _ _ _ h => ⟨rfl, h⟩) fun _ _ _ _ h => h.elim
    | false =>
      cases l.target <;> exact .ret fun s hi hc h => ⟨rfl, h.1, h.2.dropped hi hc.1 hadd⟩
  rintro rfl
  have hrelease : Triple d strict c (fun s => Owning c.operationId lease s ∧ Dropped strict s c)
      ((TaskProg.guardAsync lease (TaskProg.rpc (Rollouter.finalizeRelease d c.operationId))).bind
        fun ev => Trainer.requireEvidence (some ev) c.operationId .released "ADD rollback release")
      (fun ev s => Owning c.operationId lease s ∧ Delivered strict c ev s)
      fun _ s => Owning c.operationId lease s ∧ Lined s c :=
    .bind (releaseDropped hadd) fun ev => requireReleased
  refine .bind hrelease.outcome fun res => ?_
  cases res with
  | ok ev => exact .ret fun _ _ _ h => h
  | error e =>
    exact .bind (blockLined (by decide)) fun _ => .raise fun _ _ _ h => h

end Triple

/-! ## The way to the effective set -/

/-- A replay of an ADD whose target is effective, with the receipt of its bootstrap. -/
def Replayed (strict : Prop) (c : OperationCommand) (s : TaskState) : Prop :=
  Opened strict s c ∧ (s.ce.members c.target).isSome ∧ (s.ce.ready.get? c.target).isSome

theorem Steady.replayed : Steady d strict c (Replayed strict c) :=
  Steady.opened.and ((Neutral.member.steady).and (.seen fun v => (v.ready.get? c.target).isSome))

/-- A registration that succeeds. -/
theorem Opened.register (h : Opened strict s c) (hi : Inv d strict s) (hc : Cur d c s)
    (hadd : c.kind = .add) (hrun : s.manager.runtimeInventory.get? c.target = some r)
    (hkind : r.kind = .borrowed) {ce : CheckpointEngineManager}
    (hok : s.ce.registerPending c.target [r] c.operationId = .ok ce)
    (hg : Guarded s.gate s.nativeSync c.operationId) :
    Inv d strict { s with ce := ce } ∧ (Replayed strict c { s with ce := ce } ∨
      Staged strict { s with ce := ce } c r ∧ Fresh strict { s with ce := ce } c) := by
  have hx : c.kind.exits = false := by rw [hadd]; rfl
  have hp := h.clear.hidden hadd (hi.borrowed_of_started hc hadd h.begun.started)
  rcases registerPending_ok hok with ⟨rfl, hm | ⟨-, hpend⟩⟩ | ⟨rfl, hm, -⟩
  · exact ⟨hi, .inl ⟨h, hm⟩⟩
  · rw [hp] at hpend; cases hpend
  have hbnative : ¬ s.manager.replicaKind.get? c.target = some .native := by
    rw [hi.wired.runtime_kind hrun, hkind]; decide
  have hready : strict → s.ce.ready.get? c.target = none := fun hst => by
    refine Option.eq_none_iff_forall_ne_some.2 fun e he => ?_
    have := h.clear.receipt hst (by rw [he]; rfl)
    rw [hm] at this; cases this
  refine ⟨?_, .inr ⟨⟨hrun, h.begun.started, hm, pending_park, h.clear.calls, .inl ⟨hadd, hkind⟩,
    fun hst => h.clear.leaving hst h.begun.started, fun hst hk => h.clear.built hst hk r hrun⟩, ?_⟩⟩
  · refine hi.setCe hc off_park (hi.wired.park hrun hm) (fun _ _ => hi.not_in_pool hm)
      (fun hd => (hbnative (hi.wired.native_of_dormant hd)).elim) (fun hn => (hbnative hn).elim)
      (fun _ _ => ⟨hadd, hg⟩) (fun hex => by rw [hx] at hex; cases hex) (fun _ hmem => ?_)
      (fun _ r' hmem => ?_) (fun _ _ => .inr ⟨hx, hg⟩) (fun _ _ => ?_)
      fun hst hrel => (hi.serving hst).gone hrel
    · have hmem : (s.ce.members c.target).isSome = true := hmem
      rw [hm] at hmem; cases hmem
    · have hmem : s.ce.members c.target = some [r'] := hmem
      rw [hm] at hmem; cases hmem
    · rw [hi.wired.runtime_kind hrun]; rfl
  · rintro (hst | hr)
    · exact hready hst
    · rw [hadd] at hr; cases hr

namespace Triple

theorem registerAdd (hadd : c.kind = .add) (hkind : r.kind = .borrowed) :
    Triple d strict c (fun s => (Owning c.operationId lease s ∧ Opened strict s c) ∧
        s.manager.runtimeInventory.get? c.target = some r)
      (TaskProg.guard lease (Trainer.registerPending c.target [r] c.operationId))
      (fun _ s => Owning c.operationId lease s ∧ Replayed strict c s ∨
        Waits strict (Owning c.operationId lease) c r s)
      fun _ s => Owning c.operationId lease s ∧ Opened strict s c := by
  have hrun : Steady d strict c fun s => s.manager.runtimeInventory.get? c.target = some r :=
    .manager fun m => m.runtimeInventory.get? c.target = some r
  refine .guard ((Steady.owning.and .opened).and hrun) (fun _ h => h.1.1)
    (gate_registerPending _ _ _) ?_
  rintro s o hi hc ⟨⟨how, ho⟩, hr⟩ -
  unfold Trainer.registerPending onCe
  dsimp only
  cases hok : s.ce.registerPending c.target [r] c.operationId with
  | error e => exact .error hi hc ⟨how, ho⟩
  | ok ce =>
    obtain ⟨hi', hend⟩ := ho.register hi hc.1 hadd hr hkind hok (.inl how.held)
    have how' : Owning c.operationId lease { s with ce := ce } :=
      how.same rfl rfl
    exact .ok hi' hc (hend.imp (fun h => ⟨how', h⟩) fun h => ⟨⟨how', h.1⟩, h.2⟩)

/-- `commit_pending` of a target that is effective already. -/
theorem commitReplayed (hadd : c.kind = .add) {ev : OperationEvidence} :
    Triple d strict c (fun s => Owning c.operationId lease s ∧ Replayed strict c s)
      (TaskProg.guard lease (Trainer.commitPending c.target ev))
      (fun _ s => Owning c.operationId lease s ∧ Live s c)
      fun _ s => Owning c.operationId lease s ∧ Replayed strict c s := by
  refine .guard (Steady.owning.and .replayed) (fun _ h => h.1) (fun s o => ?_) ?_
  · unfold Trainer.commitPending onCe
    split <;> rfl
  rintro s o hi hc ⟨how, ho, hm, hr⟩ -
  unfold Trainer.commitPending onCe
  dsimp only
  cases hok : s.ce.commitPending (decide (o.fault ≠ .none)) c.target ev s.currentParamVersion with
  | error e => exact .error hi hc ⟨how, ho, hm, hr⟩
  | ok ce =>
    rcases commitPending_ok hok with ⟨rfl, -⟩ | ⟨rs, op, hp, -⟩
    · exact .ok hi hc ⟨how, hm, ho.begun.started⟩
    · rw [ho.clear.hidden hadd (hi.borrowed_of_started hc.1 hadd ho.begun.started)] at hp
      cases hp

/-- The current version is read, and tells nothing. -/
theorem currentVersion (hP : Steady d strict c P) :
    Triple d strict c P Trainer.currentVersion (fun _ => P) fun _ => P :=
  .peek hP (fun _ _ _ _ h _ => h) fun _ _ _ _ h _ => h

/-- A replay goes past the bootstrap. -/
theorem loadReplayed (hadd : c.kind = .add) {label : String} :
    Triple d strict c (fun s => Owning c.operationId lease s ∧ Replayed strict c s)
      (do
        let version ← Trainer.currentVersion
        let weight ← TaskProg.guardAsync lease
          (Trainer.bootstrapTarget d c.target c.operationId version)
        let weight ← Trainer.requireEvidence (some weight) c.operationId .weightReady label
        TaskProg.guard lease (Trainer.commitPending c.target weight) : TaskProg Unit)
      (fun _ s => Owning c.operationId lease s ∧ Live s c)
      fun _ s => Owning c.operationId lease s ∧ Registered strict c s := by
  have hP : Steady d strict c fun s => Owning c.operationId lease s ∧ Replayed strict c s :=
    Steady.owning.and .replayed
  have hE : ∀ s, Owning c.operationId lease s ∧ Replayed strict c s →
      Owning c.operationId lease s ∧ Registered strict c s := fun _ h => ⟨h.1, .inr h.2.1⟩
  refine .bind ((currentVersion hP).widen hE) fun version =>
    .bind (.widen (.guardAsync hP (fun _ h => h.1) (fun _ => hP) (fun _ _ h => h.1)
      (bootstrapReplay hP fun _ h => h.2.2.2)) hE) fun weight =>
        .bind (Q := fun _ s => Owning c.operationId lease s ∧ Replayed strict c s)
          (.ofExcept (fun _ _ _ _ _ h => h) fun _ _ s _ _ h => hE s h) fun weight =>
            (commitReplayed hadd).widen hE

/-- A runtime that waits is bootstrapped and promoted. -/
theorem loadWaiting (hk : Suits c r) {label : String} :
    Triple d strict c (Waits strict (Owning c.operationId lease) c r)
      (do
        let version ← Trainer.currentVersion
        let weight ← TaskProg.guardAsync lease
          (Trainer.bootstrapTarget d c.target c.operationId version)
        let weight ← Trainer.requireEvidence (some weight) c.operationId .weightReady label
        TaskProg.guard lease (Trainer.commitPending c.target weight) : TaskProg Unit)
      (fun _ s => Owning c.operationId lease s ∧ Live s c)
      fun _ s => Owning c.operationId lease s ∧ Registered strict c s := by
  have hG : Framed d strict c (Owning c.operationId lease) := .owning
  have hE : ∀ s, Waits strict (Owning c.operationId lease) c r s →
      Owning c.operationId lease s ∧ Registered strict c s := fun _ h => ⟨h.1.1, .inl ⟨r, h.1.2⟩⟩
  refine .bind ((currentVersion (steady_waits hG)).widen hE) fun version =>
    .bind (.widen (.guardAsync (steady_waits hG) (fun _ h => h.1.1)
      (fun _ => hG.steady.and .bootstrapped) (fun _ _ h => h.1)
      (bootstrapTarget hG (fun _ h => .inl h.held) hk)) hE) fun weight =>
        .bind (Q := fun _ s => Owning c.operationId lease s ∧ Loaded strict s c r)
          (.ofExcept (fun ev hev s _ _ h => ?_) fun _ _ s _ _ h => ⟨h.1, .inl ⟨r, ?_⟩⟩) fun weight =>
            commitPending.conseq (fun _ _ _ h => h)
              (fun _ _ _ _ h => ⟨h.1, by rw [h.2.member]; rfl, h.2.started⟩)
              fun _ _ _ _ h => ⟨h.1, .inl ⟨r, h.2.1⟩⟩
  · obtain ⟨rfl, -, hty⟩ := requireOperationEvidence_ok hev
    rcases h.2 with hl | ⟨hrel, -⟩
    · exact ⟨h.1, hl.1⟩
    · rw [hrel] at hty; cases hty
  · rcases h.2 with hl | ⟨-, hs, -⟩
    · exact hl.1.1
    · exact hs

/-! ## Publishing -/

theorem guardRemove :
    Triple d strict c
      (fun s => (Owning c.operationId lease s ∧ Pulled c r s) ∧ Lined s c)
      (TaskProg.guard lease (Trainer.removeEffective c.target))
      (fun _ s => (Owning c.operationId lease s ∧ Pulled c r s) ∧ Bare s c)
      fun _ s => Owning c.operationId lease s ∧ Lined s c :=
  .widen (.guard ((Steady.owning.and .pulled).and .lined) (fun _ h => h.1.1)
    (gate_removeEffective _) (does_withdraw .owning fun _ h => h.held)) fun _ h => ⟨h.1.1, h.2⟩

/-- A withdrawn target that is parked or gone is released. -/
theorem guardRelease {label : String} :
    Triple d strict c (fun s => Owning c.operationId lease s ∧ Retired strict s c)
      (do
        let released ← TaskProg.guardAsync lease
          (TaskProg.rpc (Rollouter.finalizeRelease d c.operationId))
        Trainer.requireEvidence (some released) c.operationId .released label :
        TaskProg OperationEvidence)
      (fun ev s => Owning c.operationId lease s ∧ Delivered strict c ev s)
      fun _ s => Owning c.operationId lease s ∧ Lined s c := by
  have hG : Framed d strict c (Owning c.operationId lease) := .owning
  exact .bind (.guardAsync (hG.steady.and .retired) (fun _ h => h.1)
    (fun _ => hG.steady.and (Steady.closed.and (.const _))) (fun _ _ h => h.1)
    (releaseRetired hG fun _ h _ => .inl h.held)) fun ev => requireReleased

theorem settleAdd (hadd : c.kind = .add) {res : Option OperationEvidence} :
    Triple d strict c
      (fun s => (Owning c.operationId lease s ∧ Anchored c r s) ∧ Changed strict c res s)
      (Trainer.settleAdd d c.operationId lease c.target res)
      (fun ev s => Owning c.operationId lease s ∧ Delivered strict c ev s)
      fun _ s => Owning c.operationId lease s ∧ Lined s c := by
  have hx : c.kind.exits = false := by rw [hadd]; rfl
  cases res with
  | some ev =>
    refine .pre (P := fun s => ev.type = .serviceCommitted ∧
      Owning c.operationId lease s ∧ Changed strict c (some ev) s) (.of_imp fun hty => ?_)
      fun _ _ _ h => ⟨h.2.2.1.2, h.1.1, h.2⟩
    unfold Trainer.settleAdd
    dsimp only
    rw [if_neg (by rw [hty]; decide)]
    exact requireCommitted
  | none =>
    refine .pre (P := fun s => (Owning c.operationId lease s ∧ Pulled c r s) ∧ Lined s c) ?_
      fun s hi hc h => ⟨⟨h.1.1, h.2.pulled hi hc.1 hx h.1.2⟩, lined_of_member h.2.1⟩
    exact .bind guardRemove fun _ => guardRelease.pre fun s _ _ h => retired_of_bare hadd s h

/-- `commit_service_change` under the lease. -/
theorem guardChange (hx : c.kind.exits = false) :
    Triple d strict c (fun s => (Owning c.operationId lease s ∧ Anchored c r s) ∧ Live s c)
      (TaskProg.guardAsync lease (TaskProg.rpc (Rollouter.commitServiceChange d c.operationId)))
      (fun res s => (Owning c.operationId lease s ∧ Anchored c r s) ∧ Changed strict c res s)
      fun _ s => Owning c.operationId lease s ∧ Lined s c := by
  have hG : Framed d strict c (Owning c.operationId lease) := .owning
  have hA : Steady d strict c fun s => Owning c.operationId lease s ∧ Anchored c r s :=
    hG.steady.and fixed_anchored.steady
  exact .guardAsync (hA.and Neutral.live.steady) (fun _ h => h.1.1)
    (fun res => hA.and (Steady.changed res)) (fun _ _ h => h.1.1)
    (changeAnchored hG hx fun _ h => .inl h.held)

/-- Where a failed `try` leaves the target, by the locals its handler looks at. -/
def Left (strict : Prop) (c : OperationCommand) (l : Trainer.Publishing) (s : TaskState) : Prop :=
  match l.eCommitted, l.pendingRegistered with
  | true, _ => Lined s c
  | false, true => l.target = some c.target ∧ Registered strict c s
  | false, false => Opened strict s c

/-- The prepared runtime of an ADD. -/
theorem pendingReplicas (hP : Steady d strict c P) :
    Triple d strict c P
      (TaskProg.rpc (TaskProg.peek fun s => Rollouter.getPendingReplicas s c.operationId))
      (fun rs s => ∃ r, rs = [r] ∧ P s ∧ s.manager.runtimeInventory.get? c.target = some r)
      fun _ => P := by
  refine .remote (E := P) hP (.peek hP (fun s rs hi hc h hrs => ?_) fun _ _ _ _ h _ => h)
    (fun rs => .ex fun r => (Steady.const _).and (hP.and
      (.manager fun m => m.runtimeInventory.get? c.target = some r))) hP (fun _ _ _ h => h)
    (fun _ _ _ _ ⟨_, _, h, _⟩ => h) fun _ _ _ h => h
  unfold Rollouter.getPendingReplicas at hrs
  obtain ⟨target, ht, hrs⟩ := except_bind_ok.1 hrs
  obtain rfl := hi.bound hc.1 (getPendingTarget_eq ht)
  cases hrun : s.manager.inspectRuntime c.target with
  | none => rw [hrun] at hrs; cases hrs
  | some r =>
    rw [hrun] at hrs
    cases hrs
    exact ⟨r, rfl, h, hrun⟩

theorem bootstrapAndPublishBody (hadd : c.kind = .add) :
    Triple d strict c (fun s => Owning c.operationId lease s ∧ Opened strict s c)
      (Trainer.bootstrapAndPublishBody d c.operationId lease)
      (fun ev s => Owning c.operationId lease s ∧ Delivered strict c ev s)
      fun e s => Owning c.operationId lease s ∧ Left strict c e.2 s := by
  have hP : Steady d strict c fun s => Owning c.operationId lease s ∧ Opened strict s c :=
    Steady.owning.and .opened
  have hx : c.kind.exits = false := by rw [hadd]; rfl
  refine .bind (raising (pendingTarget hP)) fun k => .of_imp ?_
  rintro rfl
  refine .bind (Q := fun _ s => ∃ r, r.kind = .borrowed ∧
    (Owning c.operationId lease s ∧ Replayed strict c s ∨
      Waits strict (Owning c.operationId lease) c r s)) (raising ?register) fun _ => .ex fun r =>
        .of_imp fun hkind => .bind (Q := fun _ s => Owning c.operationId lease s ∧ Live s c)
          (raising ?load) fun _ => raising ?publish
  case register =>
    refine .bind ((pendingReplicas hP).pre fun _ _ _ h => h.2) fun rs => .ex fun r => .of_imp ?_
    rintro rfl
    refine .bind (requireKeep fun _ h => h.1) fun _ => .bind (requireThat fun _ h => h.1) fun _ =>
      .of_imp fun hk => ?_
    have hkind : r.kind = .borrowed := hk.2 r (by simp)
    exact (registerAdd hadd hkind).conseq (fun _ _ _ h => h) (fun _ _ _ _ h => ⟨r, hkind, h⟩)
      fun _ _ _ _ h => h
  case load =>
    exact (Triple.or (loadReplayed hadd) (loadWaiting (.inl ⟨hadd, hkind⟩))).conseq
      (fun _ _ _ h => h) (fun _ _ _ _ h => h) fun _ _ _ _ h => ⟨h.1, rfl, h.2⟩
  case publish =>
    exact .bind ((guardChange (r := r) hx).pre fun _ _ _ h => ⟨⟨h.1, fun hr => by
      rw [hadd] at hr; cases hr⟩, h.2⟩) fun res => settleAdd hadd

/-- Whatever a publishing method returns is what it claims. -/
theorem returning {ev : OperationEvidence} :
    Triple d strict c (Delivered strict c ev) (Trainer.returning c.operationId ev)
      (Delivered strict c) fun _ _ => True := by
  refine .await .delivered (fun s hi hc h hst hty => ?_) fun s o hi hc h _ => .ok hi hc h
  obtain ⟨⟨-, x, ev', hready, hserver⟩, hactive, hmember⟩ := h.committed hst hty
  exact ⟨c, x, ev', (hi.cur_command hc.1).1, hready, hserver, hactive, hmember⟩

/-- The handler of `bootstrap_and_publish`: a release, or a blocked gate. -/
theorem addFailed (hadd : c.kind = .add) {e : PyErr × Trainer.Publishing} :
    Triple d strict c (fun s => Owning c.operationId lease s ∧ Left strict c e.2 s)
      (if e.2.eCommitted = false then Trainer.rollbackAdd d c.operationId lease e.2
        else do
          TaskProg.block lease "ADD publish outcome unknown"
          TaskProg.raise e.1)
      (fun ev s => Owning c.operationId lease s ∧ Delivered strict c ev s)
      fun _ s => Blocking c.operationId lease s ∧ Lined s c := by
  unfold Left
  cases hcom : e.2.eCommitted with
  | true =>
    rw [if_neg Bool.noConfusion]
    exact .bind (blockLined (by decide)) fun _ => .raise fun _ _ _ h => h
  | false =>
    rw [if_pos rfl]
    cases hreg : e.2.pendingRegistered with
    | true =>
      refine .pre (P := fun s => e.2.target = some c.target ∧ Owning c.operationId lease s ∧
        Registered strict c s) (.of_imp fun ht => ?_) fun _ _ _ h => ⟨h.2.1, h.1, h.2.2⟩
      refine (rollbackAdd hadd fun _ => ht).pre fun _ _ _ h => ⟨h.1, ?_⟩
      rw [if_pos hreg]
      exact h.2
    | false =>
      refine (rollbackAdd hadd fun h => by rw [hreg] at h; cases h).pre fun _ _ _ h => ⟨h.1, ?_⟩
      rw [if_neg (by rw [hreg]; decide)]
      exact h.2

theorem bootstrapAndPublish (hadd : c.kind = .add) :
    Triple d strict c (fun s => Begun s c) (Trainer.bootstrapAndPublish d c.operationId)
      (Delivered strict c) fun _ _ => True := by
  have hx : c.kind.exits = false := by rw [hadd]; rfl
  refine .bind (reconcileBlockedPublish hx (by rw [hadd]; decide)) fun res => ?_
  cases res with
  | some ev => exact returning
  | none =>
    refine .bind (.widen (.acquire (K := fun s => Opened strict s c) .begun
      (fun s hi hc h hg _ => hi.opened hc.1 hx h hg) Opened.regate) fun _ _ => trivial) fun lease =>
        .bind (Q := Delivered strict c) (.tryFinally
          (Q := fun ev s => Owning c.operationId lease s ∧ Delivered strict c ev s)
          (E := fun _ s => Blocking c.operationId lease s ∧ Lined s c)
          (.tryCatch (bootstrapAndPublishBody hadd) fun e => addFailed hadd) (fun ev => ?_)
          fun e => ?_) fun ev => returning
    · exact (Triple.release .delivered Delivered.regate (fun _ _ _ h => h.lined)
        fun _ _ _ h _ => h.clear).widen fun _ _ => trivial
    · exact (Triple.releaseBlocked .lined (fun _ _ h => h) fun _ _ _ h => h).conseq
        (fun _ _ _ h => h) (fun _ _ _ _ _ => trivial) fun _ _ _ _ h => h

end Triple

end ReplicaLending
