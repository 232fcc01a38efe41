import ReplicaLending.Scheduler.Restore
/-!
# Replays

Commands and evidence may be sent again at any later time, after other operations have moved the
lease on. What makes a replay harmless is that three tables only grow: a lease, a staged command
and recorded evidence are never replaced. `Answered` is the state in which an evidence has been
accepted; every call keeps it, and in it the two ways to answer `advance_lease` are forced.

The staging half of `submit_operation` is the same kind of law for commands: the state is decided
before the dispatch, so the reply of the dispatch never reaches it.
-/

namespace ReplicaLending.GroupScheduler

variable {s t : GroupScheduler} {L : String} {evidence : OperationEvidence}

/-- Recorded evidence is never replaced. -/
theorem Effect.releaseEvidence {c : Call} {s' : GroupScheduler} {k : String × String}
    (he : Effect s c s') (h : s.releaseEvidence.get? k = some evidence) :
    s'.releaseEvidence.get? k = some evidence := by
  cases he with
  | unchanged => exact h
  | registered => exact h
  | opened => exact h
  | staged => rw [releaseEvidence_stage]; exact h
  | progressed M ev lease command hf =>
    have hne : (M, ev.operationId) ≠ k := by
      rintro rfl
      rw [hf.unrecorded] at h
      cases h
    rw [releaseEvidence_progress, hf.leaseId_eq, Dict.get?_insert_ne _ _ hne]
    exact h

/-! ## `advance_lease` -/

/-- `evidence` has been accepted for `L` and its replay is answered with `p`. -/
structure Answered (s : GroupScheduler) (L : String) (evidence : OperationEvidence)
    (p : LeaseProgress) : Prop where
  lease : ∃ lease, s.leases.get? L = some lease
  command : ∃ command, s.operationCommands.get? evidence.operationId = some command ∧
    command.leaseId = L ∧ replayProgress command.kind evidence = .ok p
  recorded : s.releaseEvidence.get? (L, evidence.operationId) = some evidence

/-- First evidence is answered as its replays are. -/
theorem replayProgress_progressCheck {command : OperationCommand} {lease : Lease}
    {p : LeaseProgress} (h : s.progressCheck command lease evidence = .ok p) :
    replayProgress command.kind evidence = .ok p := by
  unfold progressCheck at h
  unfold replayProgress
  cases hk : command.kind with
  | restore =>
    simp only [hk, check_bind_ok] at h
    obtain ⟨ht | ht, -, h⟩ := h
    · simpa [ht] using h
    · simp only [ht, if_true, check_bind_ok] at h
      simpa [ht] using h.2
  | add =>
    simp only [hk, check_bind_ok] at h
    exact h.2.2.2.2
  | donate =>
    simp only [hk, check_bind_ok] at h
    exact h.2.2
  | remove =>
    simp only [hk, check_bind_ok] at h
    exact h.2.2

theorem advanceLease_error {e : PyErr} (h : (advanceLease L evidence s).1 = .error e) :
    (advanceLease L evidence s).2 = s := by
  unfold advanceLease at h ⊢
  cases ht : s.advanceTarget L evidence with
  | error e => rfl
  | ok target =>
    obtain ⟨lease, command⟩ := target
    simp only [ht] at h ⊢
    cases hr : s.releaseEvidence.get? (L, evidence.operationId) with
    | some existing =>
      dsimp only
      split <;> rfl
    | none =>
      simp only [hr] at h ⊢
      cases hp : s.progressCheck command lease evidence with
      | error e => rfl
      | ok p =>
        simp only [hp] at h
        cases h

/-- An accepted evidence is recorded, with the answer the call gave. -/
theorem advanceLease_ok {r : AdvanceResult} (h : (advanceLease L evidence s).1 = .ok r) :
    ∃ p, r = ⟨L, evidence.operationId, p⟩ ∧ Answered (advanceLease L evidence s).2 L evidence p := by
  unfold advanceLease at h ⊢
  cases ht : s.advanceTarget L evidence with
  | error e => rw [ht] at h; cases h
  | ok target =>
    obtain ⟨lease, command⟩ := target
    obtain ⟨hl, hc, hL⟩ := advanceTarget_ok ht
    simp only [ht] at h ⊢
    cases hr : s.releaseEvidence.get? (L, evidence.operationId) with
    | some existing =>
      simp only [hr] at h ⊢
      split
      · rename_i he
        subst he
        rw [if_pos rfl] at h
        cases hp : replayProgress command.kind existing with
        | error e => rw [hp] at h; cases h
        | ok p =>
          rw [hp] at h
          cases h
          exact ⟨p, rfl, ⟨lease, hl⟩, ⟨command, hc, hL, hp⟩, hr⟩
      · rename_i he
        rw [if_neg he] at h
        cases h
    | none =>
      simp only [hr] at h ⊢
      cases hp : s.progressCheck command lease evidence with
      | error e => rw [hp] at h; cases h
      | ok p =>
        rw [hp] at h
        cases h
        refine ⟨p, rfl, ⟨lease, ?_⟩, ⟨command, ?_, hL, replayProgress_progressCheck hp⟩, ?_⟩
        · rw [leases_progress]; exact hl
        · rw [operationCommands_progress]; exact hc
        · rw [releaseEvidence_progress, hL, Dict.get?_insert_self]

namespace Answered

variable {p : LeaseProgress}

/-- Every call keeps an accepted evidence … -/
theorem effect {c : Call} {s' : GroupScheduler} (h : Answered s L evidence p)
    (he : Effect s c s') : Answered s' L evidence p := by
  obtain ⟨⟨lease, hl⟩, ⟨command, hc, hL, hp⟩, hr⟩ := h
  exact ⟨⟨lease, he.leases hl⟩, ⟨command, he.operationCommands hc, hL, hp⟩, he.releaseEvidence hr⟩

theorem run (h : Answered s L evidence p) (hrun : machine.Run s t) : Answered t L evidence p := by
  refine hrun.invariant (I := fun u => Answered u L evidence p) (fun u c u' hu hstep _ => ?_) h
  cases hstep
  exact hu.effect (apply_effect u c)

theorem target {evidence' : OperationEvidence} (h : Answered s L evidence p)
    (hop : evidence'.operationId = evidence.operationId) :
    ∃ lease command, s.advanceTarget L evidence' = .ok (lease, command) ∧
      replayProgress command.kind evidence = .ok p := by
  obtain ⟨⟨lease, hl⟩, ⟨command, hc, hL, hp⟩, -⟩ := h
  exact ⟨lease, command, by simp [advanceTarget, hl, hop, hc, hL], hp⟩

/-- … and answers its replay without a write … -/
theorem replay (h : Answered s L evidence p) :
    advanceLease L evidence s = (.ok ⟨L, evidence.operationId, p⟩, s) := by
  obtain ⟨lease, command, ht, hp⟩ := h.target rfl
  simp only [advanceLease, ht, h.recorded, if_true, hp]
  rfl

/-- … and rejects any other evidence of the operation without a write. -/
theorem conflict {evidence' : OperationEvidence} (h : Answered s L evidence p)
    (hop : evidence'.operationId = evidence.operationId) (hne : evidence' ≠ evidence) :
    advanceLease L evidence' s = (.error (.valueError "conflicting lease evidence replay"), s) := by
  obtain ⟨lease, command, ht, -⟩ := h.target hop
  simp only [advanceLease, ht, hop, h.recorded, Ne.symm hne, if_false]

end Answered

/-- `advance_lease` is atomic, and idempotent in its evidence: a call that raises writes nothing; an
accepted evidence is answered in the same way, and changes nothing, after any further calls; and
any other evidence for the same lease and operation is rejected from then on, without a write. -/
theorem advance_lease_idempotent (s : GroupScheduler) (L : String) (evidence : OperationEvidence) :
    (∀ e, (advanceLease L evidence s).1 = .error e → (advanceLease L evidence s).2 = s) ∧
    ∀ r t, (advanceLease L evidence s).1 = .ok r → machine.Run (advanceLease L evidence s).2 t →
      advanceLease L evidence t = (.ok r, t) ∧
      ∀ evidence', evidence'.operationId = evidence.operationId → evidence' ≠ evidence →
        ∃ e, advanceLease L evidence' t = (.error e, t) := by
  refine ⟨fun e he => advanceLease_error he, fun r t hr hrun => ?_⟩
  obtain ⟨p, rfl, ha⟩ := advanceLease_ok hr
  have ht := ha.run hrun
  exact ⟨ht.replay, fun evidence' hop hne => ⟨_, ht.conflict hop hne⟩⟩

/-- The evidence of a completed DONATE is answered in the same way after the lease has moved on. -/
theorem advance_lease_idempotent_lent :
    (advanceLease "L" (released "d1") (Machine.exec apply
      [submit (command "a" .add borrowerKey), .advanceLease "L" (released "a")]
      (advanceLease "L" (released "d1") (Machine.exec apply
        (opening ++ [submit (command "d1" .donate donorKey)]) init)).2)).1 =
      .ok ⟨"L", "d1", .released⟩ :=
  congrArg Prod.fst ((advance_lease_idempotent _ _ _).2 _ _ (by decide +kernel)
    (Machine.run_exec _ _ _ _)).1

/-! ## `submit_operation` -/

/-- The call without what its dispatch returned. -/
def Call.eraseReply : Call → Call
  | .submitOperation command now _ => .submitOperation command now .nonRecord
  | c => c

/-- The state a call leaves does not depend on the reply of its dispatch. -/
theorem apply_eraseReply (c : Call) (s : GroupScheduler) : apply c.eraseReply s = apply c s := by
  cases c with
  | submitOperation command now reply =>
    simp only [Call.eraseReply, apply, submitOperation]
    split <;> rfl
  | _ => rfl

theorem exec_eraseReply (cs : List Call) (s : GroupScheduler) :
    Machine.exec apply (cs.map Call.eraseReply) s = Machine.exec apply cs s := by
  induction cs generalizing s with
  | nil => rfl
  | cons c cs ih =>
    show Machine.exec apply (cs.map Call.eraseReply) (apply c.eraseReply s) = _
    rw [apply_eraseReply]
    exact ih _

/-- A command that is recorded stays recorded. -/
theorem operationCommands_run {op : String} {command : OperationCommand}
    (h : s.operationCommands.get? op = some command) (hrun : machine.Run s t) :
    t.operationCommands.get? op = some command := by
  refine hrun.invariant (I := fun u => u.operationCommands.get? op = some command)
    (fun u c u' hu hstep _ => ?_) h
  cases hstep
  exact (apply_effect u c).operationCommands hu

/-- The submission of a recorded command writes nothing. -/
theorem submitOperation_recorded {command : OperationCommand} (now : Clock) (reply : DispatchReply)
    (h : s.operationCommands.get? command.operationId = some command) :
    (submitOperation command now reply s).2 = s := by
  unfold submitOperation
  split
  · rfl
  · simp only [Dict.contains, h, Option.isSome_some, if_true]

/-- Staging: a submission that raises before its dispatch leaves the state as it was; one that is
dispatched leaves a state in which the outcome of the dispatch has no part, so two runs that differ
only in those outcomes end in the same state; and the replay of a recorded command changes nothing
at any later time. -/
theorem submit_operation_staged (s : GroupScheduler) :
    (∀ command now reply e, s.submitCheck command now = .error e →
      submitOperation command now reply s = (.error e, s)) ∧
    (∀ command now lease, s.submitCheck command now = .ok lease →
      ∃ s', ∀ reply, submitOperation command now reply s = (dispatched command reply, s')) ∧
    (∀ cs cs' : List Call, cs.map Call.eraseReply = cs'.map Call.eraseReply →
      Machine.exec apply cs s = Machine.exec apply cs' s) ∧
    ∀ command t, s.operationCommands.get? command.operationId = some command → machine.Run s t →
      ∀ now reply, (submitOperation command now reply t).2 = t := by
  refine ⟨fun command now reply e he => ?_, fun command now lease hl =>
    ⟨(submitOperation command now .nonRecord s).2, fun reply => ?_⟩, fun cs cs' hcs => ?_,
    fun command t hc hrun now reply => ?_⟩
  · simp only [submitOperation, he]
  · simp only [submitOperation, hl]
  · rw [← exec_eraseReply cs, hcs, exec_eraseReply]
  · exact submitOperation_recorded now reply (operationCommands_run hc hrun)

/-- A DONATE that is sent again after the lease has moved on changes nothing. -/
theorem submit_operation_staged_lent :
    let s := Machine.exec apply (opening ++ [submit (command "d1" .donate donorKey)]) init
    let t := Machine.exec apply [.advanceLease "L" (released "d1")] s
    apply (submit (command "d1" .donate donorKey)) t = t :=
  (submit_operation_staged _).2.2.2 _ _ (by decide +kernel) (Machine.run_exec _ _ _ _) _ _

end ReplicaLending.GroupScheduler
