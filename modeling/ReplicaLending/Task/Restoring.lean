import ReplicaLending.Task.Adding
/-!
# `restore_and_publish` (`trainer.py:454`)

A parked native receiver is taken out of the pending table, registered anew, bootstrapped, promoted and
published under one lease. Until it has left the table (`mutated`) a failure leaves it as it was; from
there on a failure quarantines a target that is still DORMANT and leaves the gate blocked.
-/

namespace ReplicaLending

open TaskState TaskProg Rollouter LLMServerManager CheckpointEngineManager

variable {d : Deployment} {strict : Prop} {c : OperationCommand} {s : TaskState} {r : Replica}
  {G P : TaskState → Prop} {lease : GateOwner}

/-- A DORMANT native runtime that a RESTORE takes up. -/
structure TakenUp (c : OperationCommand) (r : Replica) (s : TaskState) : Prop where
  runtime : s.manager.runtimeInventory.get? c.target = some r
  native : r.kind = .native
  started : Started s.manager s.rollouter c
  state : s.manager.replicaState.get? c.target = some .dormant
  calls : s.inflight = []

theorem Steady.takenUp : Steady d strict c (TakenUp c r) := by
  intro s t _ h hr _
  refine ⟨?_, h.native, hr.started.2 h.started, ?_, hr.calls h.calls⟩
  · rw [hr.manager]; exact h.runtime
  · rw [hr.manager]; exact h.state

theorem Steady.nonmember : Steady d strict c fun s => s.ce.members c.target = none := by
  intro s t _ h hr _
  rw [hr.members]
  exact h

theorem TakenUp.recede (s : TaskState) (ce : CheckpointEngineManager) (h : TakenUp c r s) :
    TakenUp c r { s with ce := ce } := ⟨h.runtime, h.native, h.started, h.state, h.calls⟩

theorem TakenUp.kind (h : TakenUp c r s) (hi : Inv d strict s) :
    s.manager.replicaKind.get? c.target = some .native := by
  rw [hi.wired.runtime_kind h.runtime, h.native]

/-- A target in the pending table is not effective, hence DORMANT. -/
theorem Opened.takenUp (h : Opened strict s c) (hi : Inv d strict s) (hr : c.kind = .restore)
    {rs : List Replica} {o : String} (hp : s.ce.pending.get? c.target = some (rs, o)) :
    ∃ r, rs = [r] ∧ TakenUp c r s ∧ s.ce.members c.target = none := by
  obtain ⟨r, rfl, hrun⟩ := hi.wired.pending hp
  have hm : s.ce.members c.target = none := by
    refine Option.eq_none_iff_forall_ne_some.2 fun rs hm => ?_
    rw [hi.wired.disjoint (by rw [hm]; rfl)] at hp
    cases hp
  have hkind := hi.wired.runtime_kind hrun
  rw [h.begun.native hr] at hkind
  refine ⟨r, rfl, ⟨hrun, (Option.some.inj hkind).symm, h.begun.started, ?_, h.clear.calls⟩, hm⟩
  refine (h.begun.state hr).resolve_right fun ha => ?_
  have := hi.wired.active_member ha
  rw [hm] at this
  cases this

/-- A receiver that was registered anew. -/
theorem TakenUp.staged (h : TakenUp c r s) (hr : c.kind = .restore)
    (hm : s.ce.members c.target = none)
    (hp : s.ce.pending.get? c.target = some ([r], c.operationId)) : Staged strict s c r := by
  refine ⟨h.runtime, h.started, hm, hp, h.calls, .inr ⟨hr, h.native, h.state⟩, fun _ hd => ?_,
    fun _ hk => ?_⟩
  · rw [h.state] at hd; cases hd
  · rw [h.state] at hk; cases hk

/-- A receiver whose bootstrap failed waits in the table again, and so it stays. -/
theorem Staged.delivered (h : Staged strict s c r) (hi : Inv d strict s) (hf : Fresh strict s c)
    (hr : c.kind = .restore) {ev : OperationEvidence} (ho : ev.operationId = c.operationId)
    (hty : ev.type = .released) : Delivered strict c ev s := by
  have hd : s.manager.replicaState.get? c.target = some .dormant := by
    rcases h.kind with ⟨hk, -⟩ | ⟨-, -, hd⟩
    · rw [hr] at hk; cases hk
    · exact hd
  have hready : s.ce.ready.get? c.target = none := hf (.inr hr)
  refine ⟨h.lined hi, ⟨fun _ _ => ⟨r, c.operationId, h.runtime, h.pending, h.member, hready⟩,
    fun hk _ => ?_, h.calls, fun _ hm => ?_, fun _ hk => ?_, fun _ hrd => ?_, fun _ _ hk => ?_⟩, ho,
    fun _ hk => ?_⟩
  · rw [hr] at hk; cases hk
  · rw [h.member] at hm; cases hm
  · rw [hd] at hk; cases hk
  · rw [hready] at hrd; cases hrd
  · rw [hd] at hk; cases hk
  · rw [hty] at hk; cases hk

namespace Triple

theorem restoring (hr : c.kind = .restore) : c.kind.exits = false := by rw [hr]; rfl

/-- `discard_pending` of a parked receiver: it never fails. -/
theorem discardParked (hr : c.kind = .restore) {E : PyErr → TaskState → Prop} :
    Triple d strict c (fun s => Owning c.operationId lease s ∧ TakenUp c r s ∧
        s.ce.members c.target = none)
      (TaskProg.guard lease (Trainer.discardPending c.target))
      (fun _ s => (Owning c.operationId lease s ∧ TakenUp c r s) ∧ Bare s c) E := by
  refine .guard (Steady.owning.and (Steady.takenUp.and .nonmember)) (fun _ h => h.1)
    (fun _ _ => rfl) ?_
  rintro s o hi hc ⟨how, ht, hm⟩ -
  refine .ok (hi.discard hc.1 (.inl how.held) (.inr ⟨hr, ht.state⟩)) hc ⟨⟨?_, ht.recede s _⟩, ?_⟩
  · exact how.same rfl rfl
  · exact ⟨hm, pending_discard, ready_discard⟩

/-- `register_pending` of a receiver that was taken up: it never fails. -/
theorem registerTakenUp (hr : c.kind = .restore) {E : PyErr → TaskState → Prop} :
    Triple d strict c (fun s => (Owning c.operationId lease s ∧ TakenUp c r s) ∧ Bare s c)
      (TaskProg.guard lease (Trainer.registerPending c.target [r] c.operationId))
      (fun _ => Waits strict (Owning c.operationId lease) c r) E := by
  refine (Triple.guard ((Steady.owning.and .takenUp).and Neutral.bare.steady) (fun _ h => h.1.1)
    (gate_registerPending _ _ _) (does_park (E := fun _ _ => False) .owning (fun _ h => h.runtime)
      (fun _ hi h => h.kind hi) fun s ce h => h.recede s ce)).conseq (fun _ _ _ h => h)
    (fun _ s _ _ h => ?_) fun _ _ _ _ h => h.elim
  obtain ⟨⟨how, ht⟩, hm, hrd, hp, -⟩ := h
  exact ⟨⟨how, ht.staged hr hm hp⟩, fun _ => hrd⟩

theorem settleRestore (hr : c.kind = .restore) {res : Option OperationEvidence} :
    Triple d strict c
      (fun s => (Owning c.operationId lease s ∧ Anchored c r s) ∧ Changed strict c res s)
      (Trainer.settleRestore d c.operationId lease c.target [r] res)
      (fun ev s => Owning c.operationId lease s ∧ Delivered strict c ev s)
      fun _ s => Owning c.operationId lease s ∧ Lined s c := by
  cases res with
  | some ev => exact requireCommitted.pre fun _ _ _ h => ⟨h.1.1, h.2⟩
  | none =>
    refine .pre (P := fun s => (Owning c.operationId lease s ∧ Pulled c r s) ∧ Lined s c) ?_
      fun s hi hc h => ⟨⟨h.1.1, h.2.pulled hi hc.1 (restoring hr) h.1.2⟩, lined_of_member h.2.1⟩
    exact .bind guardRemove fun _ => .bind (.guard ((Steady.owning.and .pulled).and Neutral.bare.steady)
      (fun _ h => h.1.1) (gate_registerPending _ _ _) (does_repark .owning hr)) fun _ => guardRelease

/-- `commit_pending` of a restored receiver. -/
theorem commitRestored (hr : c.kind = .restore) {ev : OperationEvidence} :
    Triple d strict c (fun s => Owning c.operationId lease s ∧ Loaded strict s c r)
      (TaskProg.guard lease (Trainer.commitPending c.target ev))
      (fun _ s => (Owning c.operationId lease s ∧ Anchored c r s) ∧ Live s c)
      fun _ s => Owning c.operationId lease s ∧ Lined s c := by
  have hnative : ∀ s, Loaded strict s c r → r.kind = .native := by
    rintro s ⟨hs, -⟩
    rcases hs.kind with ⟨hk, -⟩ | ⟨-, hn, -⟩
    · rw [hr] at hk; cases hk
    · exact hn
  refine Triple.pre (P := fun s => r.kind = .native ∧ Owning c.operationId lease s ∧
    Loaded strict s c r) (.of_imp fun hn => ?_) fun s _ _ h => ⟨hnative s h.2, h⟩
  exact commitPending.conseq (fun _ _ _ h => h)
    (fun _ s _ _ h => ⟨⟨h.1, fun _ => ⟨h.2.runtime, hn⟩⟩, by rw [h.2.member]; rfl, h.2.started⟩)
    fun _ s hi _ h => ⟨h.1, h.2.1.lined hi⟩

theorem publishRestored (hr : c.kind = .restore) {weight : OperationEvidence} :
    Triple d strict c
      (fun s => Owning c.operationId lease s ∧ Bootstrapped strict c r weight s)
      (Trainer.publishRestored d c.operationId lease c.target [r] weight)
      (fun ev s => Owning c.operationId lease s ∧ Delivered strict c ev s)
      fun _ s => Owning c.operationId lease s ∧ Lined s c := by
  unfold Trainer.publishRestored
  by_cases hrel : weight.type = .released
  · rw [if_pos hrel]
    refine .ofExcept (fun ev hev s hi hc h => ?_) fun _ _ s hi _ h => ⟨h.1, ?_⟩
    · obtain ⟨rfl, ho, hty⟩ := requireOperationEvidence_ok hev
      rcases h.2 with ⟨-, hready⟩ | ⟨-, hs, hf⟩
      · rw [hready hr] at hty; cases hty
      · exact ⟨h.1, hs.delivered hi hf hr ho hty⟩
    · rcases h.2 with ⟨hl, -⟩ | ⟨-, hs, -⟩
      exacts [hl.1.lined hi, hs.lined hi]
  · rw [if_neg hrel]
    refine .pre (P := fun s => Owning c.operationId lease s ∧ Loaded strict s c r) ?_
      fun s _ _ h => ⟨h.1, h.2.elim And.left fun hw => (hrel hw.1).elim⟩
    exact .bind (Q := fun _ s => Owning c.operationId lease s ∧ Loaded strict s c r)
      (.ofExcept (fun _ _ _ _ _ h => h) fun _ _ s hi _ h => ⟨h.1, h.2.1.lined hi⟩) fun weight =>
        .bind (commitRestored hr) fun _ => .bind (guardChange (restoring hr)) fun res =>
          settleRestore hr

/-- Where a failed `try` leaves the target, by whether it was taken up. -/
def Restored (strict : Prop) (c : OperationCommand) (mutated : Bool) (s : TaskState) : Prop :=
  if mutated then Lined s c else Opened strict s c

theorem restoreAndPublishBody (hr : c.kind = .restore) :
    Triple d strict c (fun s => Owning c.operationId lease s ∧ Opened strict s c)
      (Trainer.restoreAndPublishBody d c.operationId lease)
      (fun ev s => Owning c.operationId lease s ∧ Delivered strict c ev s)
      fun e s => Owning c.operationId lease s ∧ Restored strict c e.2 s := by
  have hP : Steady d strict c fun s => Owning c.operationId lease s ∧ Opened strict s c :=
    Steady.owning.and .opened
  refine .bind (Q := fun p s => ∃ r, p = (c.target, [r]) ∧
    (Owning c.operationId lease s ∧ TakenUp c r s) ∧ Bare s c) (raising ?takeUp) fun p => .ex fun r =>
      .of_imp ?mutated
  case takeUp =>
    refine .bind ((pendingTarget hP).conseq (fun _ _ _ h => h) (fun _ _ _ _ h => ⟨h.1, h.2.2⟩)
      fun _ _ _ _ h => h) fun k => .of_imp ?_
    rintro rfl
    refine .bind (Q := fun rs s => ∃ r, rs = [r] ∧ (Owning c.operationId lease s ∧
      Opened strict s c) ∧ TakenUp c r s ∧ s.ce.members c.target = none)
      (.peek hP (fun s rs hi _ h hrs => ?_) fun _ _ _ _ h _ => h) fun rs => .ex fun r => .of_imp ?_
    · cases hp : s.ce.pending.get? c.target with
      | none => rw [hp] at hrs; cases hrs
      | some p =>
        rw [hp] at hrs
        cases hrs
        obtain ⟨r, hrs, ht, hm⟩ := h.2.takenUp hi hr hp
        exact ⟨r, hrs, h, ht, hm⟩
    rintro rfl
    exact .bind (requireKeep fun _ h => h.1) fun _ => .bind ((discardParked hr).pre
      fun _ _ _ h => ⟨h.1.1, h.2⟩) fun _ => .ret fun _ _ _ h => ⟨r, rfl, h⟩
  case mutated =>
    rintro rfl
    refine .pre (P := fun s => r.kind = .native ∧ (Owning c.operationId lease s ∧ TakenUp c r s) ∧
      Bare s c) (.of_imp fun hn => ?_) fun _ _ _ h => ⟨h.1.2.native, h⟩
    have hG : Framed d strict c (Owning c.operationId lease) := .owning
    have hW : Steady d strict c (Waits strict (Owning c.operationId lease) c r) := steady_waits hG
    have hlined : ∀ s, Inv d strict s → Run d c s → Waits strict (Owning c.operationId lease) c r s →
      Owning c.operationId lease s ∧ Lined s c := fun s hi _ h => ⟨h.1.1, h.1.2.lined hi⟩
    exact raising (.bind (registerTakenUp hr) fun _ => .bind ((currentVersion hW).conseq
      (fun _ _ _ h => h) (fun _ _ _ _ h => h) fun _ => hlined) fun version => .bind
        ((Triple.guardAsync hW (fun _ h => h.1.1) (fun _ => hG.steady.and .bootstrapped)
          (fun _ _ h => h.1) (bootstrapTarget hG (fun _ h => .inl h.held) (.inr ⟨hr, hn⟩))).conseq
          (fun _ _ _ h => h) (fun _ _ _ _ h => h) fun _ => hlined) fun weight => publishRestored hr)

/-! ## The handler -/

/-- A DORMANT target may be quarantined under the gate. -/
theorem quarantineDormant (hr : c.kind = .restore) :
    Triple d strict c (fun s => Owning c.operationId lease s ∧ Lined s c)
      (TaskProg.call (Rollouter.quarantineDormantRestore c.operationId))
      (fun _ s => Owning c.operationId lease s ∧ Lined s c)
      fun _ s => Owning c.operationId lease s ∧ Lined s c := by
  refine .call (Steady.owning.and .lined) ?_
  rintro s o hi hc ⟨how, hl⟩ -
  have hx := restoring hr
  unfold Rollouter.quarantineDormantRestore
  cases ht : Rollouter.getPendingTarget s c.operationId with
  | error e => exact .error hi hc ⟨how, hl⟩
  | ok k =>
    obtain rfl := hi.bound hc.1 (getPendingTarget_eq ht)
    dsimp only
    cases hmeta : s.manager.replicaMeta c.target with
    | error e => exact .error hi hc ⟨how, hl⟩
    | ok p =>
      obtain ⟨kind, state⟩ := p
      dsimp only
      by_cases hkind : kind ≠ .native
      · rw [if_pos hkind]
        exact .error hi hc ⟨how, hl⟩
      · rw [if_neg hkind]
        cases state
        case dormant =>
          have hs : s.manager.replicaState.get? c.target = some .dormant := (replicaMeta_ok.1 hmeta).2
          have hnin : ¬ InService s.manager c.target := by
            rintro (hin | hin) <;> rw [hs] at hin <;> cases hin
          obtain ⟨htr, hi'⟩ := hi.quarantine hc.1 hs (by decide)
            (hi.no_calls hc.1 hnin fun hex => by rw [hx] at hex; cases hex)
            (fun hex => by rw [hx] at hex; cases hex) (hi.no_route hnin)
            fun _ _ => ⟨hx, .inl how.held⟩
          unfold onManager
          dsimp only
          rw [htr]
          refine .ok hi' hc ⟨how.same rfl rfl,
            fun _ hd => ?_⟩
          have hd : (s.manager.move c.target .quarantined).replicaState.get? c.target =
            some .draining := hd
          rw [get?_move, if_pos rfl] at hd
          cases hd
        all_goals exact .ok hi hc ⟨how, hl⟩

theorem restoreFailed (hr : c.kind = .restore) {e : PyErr × Bool} :
    Triple d strict c (fun s => Owning c.operationId lease s ∧ Restored strict c e.2 s)
      (Trainer.restoreFailed c.operationId lease e)
      (fun ev s => Owning c.operationId lease s ∧ Delivered strict c ev s)
      fun _ s => Blocking c.operationId lease s ∧ Lined s c ∨
        Owning c.operationId lease s ∧ Opened strict s c := by
  unfold Restored
  cases hmut : e.2 with
  | false =>
    refine .bind (Q := fun _ s => Owning c.operationId lease s ∧ Opened strict s c)
      (.when (fun h => ?_) fun _ _ _ _ h => h) fun _ => .raise fun _ _ _ h => .inr h
    rw [hmut] at h
    cases h
  | true =>
    have hL : Steady d strict c fun s => Owning c.operationId lease s ∧ Lined s c :=
      Steady.owning.and .lined
    refine .bind (Q := fun _ s => Blocking c.operationId lease s ∧ Lined s c)
      (.when (fun _ => ?_) fun h => (h hmut).elim) fun _ => .raise fun _ _ _ h => .inl h
    refine .bind (Q := fun _ s => Owning c.operationId lease s ∧ Lined s c)
      (.result (.remote hL (quarantineDormant hr) (fun _ => hL) hL (fun _ _ _ h => h)
        (fun _ _ _ _ h => h) fun _ _ _ h => h)) fun res => ?_
    cases res with
    | ok b => exact blockLined (by decide)
    | error e => exact blockLined (by decide)

theorem restoreAndPublish (hr : c.kind = .restore) :
    Triple d strict c (fun s => Begun s c) (Trainer.restoreAndPublish d c.operationId)
      (Delivered strict c) fun _ _ => True := by
  refine .bind (reconcileBlockedPublish (restoring hr) (by rw [hr]; decide)) fun res => ?_
  cases res with
  | some ev => exact returning
  | none =>
    refine .bind (.widen (.acquire (K := fun s => Opened strict s c) .begun
      (fun s hi hc h hg _ => hi.opened hc.1 (restoring hr) h hg) Opened.regate) fun _ _ => trivial)
        fun lease => .bind (Q := Delivered strict c) (.tryFinally
          (Q := fun ev s => Owning c.operationId lease s ∧ Delivered strict c ev s)
          (E := fun _ s => Blocking c.operationId lease s ∧ Lined s c ∨
            Owning c.operationId lease s ∧ Opened strict s c)
          (.tryCatch (restoreAndPublishBody hr) fun e => restoreFailed hr) (fun ev => ?_)
          fun e => .or ?_ ?_) fun ev => returning
    · exact (Triple.release .delivered Delivered.regate (fun _ _ _ h => h.lined)
        fun _ _ _ h _ => h.clear).widen fun _ _ => trivial
    · exact (Triple.releaseBlocked .lined (fun _ _ h => h) fun _ _ _ h => h).conseq
        (fun _ _ _ h => h) (fun _ _ _ _ _ => trivial) fun _ _ _ _ h => h
    · exact (Triple.release .opened Opened.regate (fun _ _ _ h => h.lined)
        fun _ _ _ h _ => h.clear).conseq (fun _ _ _ h => h) (fun _ _ _ _ _ => trivial)
          fun _ _ _ _ _ => trivial

end Triple

end ReplicaLending
