import ReplicaLending.Scheduler.Model
/-!
# What one scheduler call can do

`apply_effect` says once, for every call, which writes it can make and what was checked before
them; the invariants of the other modules are case analyses of `Effect` and never unfold a method.
`firstEvidence?` is the branch of `advance_lease` that writes: it is `some` exactly when the call
records evidence for an operation that had none.

The ledger laws at the end (`allOwned_…`) are the frame conditions of the two ownership maps.
-/

namespace ReplicaLending.GroupScheduler

/-- The lease and command whose first evidence this `advance_lease` call would record. -/
def firstEvidence? (s : GroupScheduler) (leaseId : String) (evidence : OperationEvidence) :
    Option (Lease × OperationCommand) :=
  match s.advanceTarget leaseId evidence with
  | .error _ => none
  | .ok (lease, command) =>
    match s.releaseEvidence.get? (leaseId, evidence.operationId) with
    | some _ => none
    | none =>
      match s.progressCheck command lease evidence with
      | .error _ => none
      | .ok _ => some (lease, command)

theorem apply_advanceLease (s : GroupScheduler) (leaseId : String) (evidence : OperationEvidence) :
    apply (.advanceLease leaseId evidence) s =
      match s.firstEvidence? leaseId evidence with
      | none => s
      | some (lease, command) => s.progress command lease evidence := by
  cases ht : s.advanceTarget leaseId evidence with
  | error e => simp only [apply, advanceLease, firstEvidence?, ht]
  | ok p =>
    obtain ⟨lease, command⟩ := p
    cases hr : s.releaseEvidence.get? (leaseId, evidence.operationId) with
    | some existing =>
      simp only [apply, advanceLease, firstEvidence?, ht, hr]
      split <;> rfl
    | none =>
      cases hp : s.progressCheck command lease evidence with
      | error e => simp only [apply, advanceLease, firstEvidence?, ht, hr, hp]
      | ok p => simp only [apply, advanceLease, firstEvidence?, ht, hr, hp]

/-- Everything `firstEvidence?` has checked. -/
structure FirstEvidence (s : GroupScheduler) (leaseId : String) (evidence : OperationEvidence)
    (lease : Lease) (command : OperationCommand) : Prop where
  lease_eq : s.leases.get? leaseId = some lease
  command_eq : s.operationCommands.get? evidence.operationId = some command
  leaseId_eq : command.leaseId = leaseId
  unrecorded : s.releaseEvidence.get? (leaseId, evidence.operationId) = none
  progressed : ∃ p, s.progressCheck command lease evidence = .ok p

theorem advanceTarget_ok {s : GroupScheduler} {leaseId : String} {evidence : OperationEvidence}
    {lease : Lease} {command : OperationCommand}
    (h : s.advanceTarget leaseId evidence = .ok (lease, command)) :
    s.leases.get? leaseId = some lease ∧
      s.operationCommands.get? evidence.operationId = some command ∧ command.leaseId = leaseId := by
  unfold advanceTarget at h
  split at h
  · cases h
  · split at h
    · cases h
    · split at h
      · cases h; exact ⟨‹_›, ‹_›, ‹_›⟩
      · cases h

theorem firstEvidence?_eq_some {s : GroupScheduler} {leaseId : String}
    {evidence : OperationEvidence} {lease : Lease} {command : OperationCommand}
    (h : s.firstEvidence? leaseId evidence = some (lease, command)) :
    FirstEvidence s leaseId evidence lease command := by
  unfold firstEvidence? at h
  split at h
  · cases h
  · rename_i l c ht
    split at h
    · cases h
    · split at h
      · cases h
      · cases h
        obtain ⟨h₁, h₂, h₃⟩ := advanceTarget_ok ht
        exact ⟨h₁, h₂, h₃, ‹_›, _, ‹_›⟩

theorem firstEvidence?_eq_some_iff {s : GroupScheduler} {leaseId : String}
    {evidence : OperationEvidence} {lease : Lease} {command : OperationCommand} :
    s.firstEvidence? leaseId evidence = some (lease, command) ↔
      FirstEvidence s leaseId evidence lease command := by
  refine ⟨firstEvidence?_eq_some, fun ⟨hl, hc, hL, hn, p, hp⟩ => ?_⟩
  simp [firstEvidence?, advanceTarget, hl, hc, hL, hn, hp]

/-! ## The checks, kind by kind -/

/-- What a new operation of each kind has been checked for. -/
structure Admitted (s : GroupScheduler) (command : OperationCommand) (lease : Lease) : Prop where
  notClosed : s.lastReleasedKind command.leaseId ≠ some .restore
  donate : command.kind = .donate → s.lastReleasedKind command.leaseId ≠ some .remove ∧
    command.target.taskSession = lease.firstClaim.donorTaskId ∧
    targetMatchesDonor command.target lease = true ∧ command.leaseId ∉ s.handoffReadyLeases
  add : command.kind = .add → command.leaseId ∈ s.handoffReadyLeases ∧
    s.borrowerTargets.get? command.leaseId = none
  remove : command.kind = .remove → command.leaseId ∈ s.handoffReadyLeases ∧
    s.borrowerTargets.get? command.leaseId = some command.target
  restore : command.kind = .restore →
    command.target.taskSession = lease.firstClaim.donorTaskId ∧
    targetMatchesDonor command.target lease = true ∧ s.noneOwned lease

theorem newOperationCheck_ok {s : GroupScheduler} {command : OperationCommand} {lease : Lease}
    {now : Clock} (h : s.newOperationCheck command lease now = .ok ()) :
    Admitted s command lease := by
  unfold newOperationCheck at h
  rw [check_bind_ok, check_bind_ok] at h
  obtain ⟨h₁, -, h⟩ := h
  refine ⟨h₁, ?_, ?_, ?_, ?_⟩ <;> intro hk <;> simp only [hk] at h
  · obtain ⟨_, -, h⟩ := except_bind_ok.1 h
    simp only [check_bind_ok, check_ok] at h
    exact ⟨h.1, h.2.1, h.2.2.1, h.2.2.2⟩
  · simpa only [check_bind_ok, check_ok] using h
  · simpa only [check_bind_ok, check_ok] using h
  · simpa only [check_bind_ok, check_ok] using h

/-- What `submit_operation` has checked when it reaches the dispatch. -/
theorem submitCheck_ok {s : GroupScheduler} {command : OperationCommand} {now : Clock} {lease : Lease}
    (h : s.submitCheck command now = .ok lease) :
    s.leases.get? command.leaseId = some lease ∧
      s.taskRunners.contains command.target.taskSession = true ∧
      (s.operationCommands.get? command.operationId = some command ∨
        s.operationCommands.get? command.operationId = none ∧ Admitted s command lease) := by
  unfold submitCheck at h
  split at h
  · cases h
  · rename_i l hl
    split at h
    · rename_i previous hp
      simp only [check_bind_ok] at h
      obtain ⟨rfl, h₂, h₃⟩ := h
      cases h₃
      exact ⟨hl, h₂, .inl hp⟩
    · rename_i hp
      obtain ⟨u, h₁, h⟩ := except_bind_ok.1 h
      rw [check_bind_ok] at h
      cases h.2
      exact ⟨hl, h.1, .inr ⟨hp, newOperationCheck_ok h₁⟩⟩

/-- RESTORE evidence is recorded only while the lease holds its reservation. -/
theorem progressCheck_restore {s : GroupScheduler} {command : OperationCommand} {lease : Lease}
    {evidence : OperationEvidence} {p : LeaseProgress} (hk : command.kind = .restore)
    (h : s.progressCheck command lease evidence = .ok p) :
    (evidence.type = .serviceCommitted ∨ evidence.type = .released) ∧
      s.allOwned lease command.leaseId := by
  simp only [progressCheck, hk, check_bind_ok] at h
  exact ⟨h.1, h.2.1⟩

theorem progressCheck_add {s : GroupScheduler} {command : OperationCommand} {lease : Lease}
    {evidence : OperationEvidence} {p : LeaseProgress} (hk : command.kind = .add)
    (h : s.progressCheck command lease evidence = .ok p) :
    evidence.type = .released ∧ coversLease evidence lease ∧
      command.leaseId ∈ s.handoffReadyLeases ∧
      s.borrowerTargets.get? command.leaseId = some command.target := by
  simp only [progressCheck, hk, check_bind_ok] at h
  exact ⟨h.1, h.2.1, h.2.2.1, h.2.2.2.1⟩

/-! ## The effect of a call -/

/-- The writes a call can make, each with what was checked before it. -/
inductive Effect (s : GroupScheduler) : Call → GroupScheduler → Prop
  | unchanged (c : Call) : Effect s c s
  | registered (c : Call) (runners : Dict String ActorHandle) (reports : Dict String IdleReport) :
    Effect s c { s with taskRunners := runners, idleReports := reports }
  | opened (l lease : Lease) (hcopy : copyLease l = .ok lease)
    (hnew : s.leases.get? lease.leaseId = none) (hfree : s.openLeaseCheck lease = .ok ()) :
    Effect s (.openLease l) (s.opened lease)
  | staged (command : OperationCommand) (now : Clock) (reply : DispatchReply) (lease : Lease)
    (hl : s.leases.get? command.leaseId = some lease)
    (hnew : s.operationCommands.get? command.operationId = none) (h : Admitted s command lease) :
    Effect s (.submitOperation command now reply) (s.stage command lease)
  | progressed (leaseId : String) (evidence : OperationEvidence) (lease : Lease)
    (command : OperationCommand) (h : FirstEvidence s leaseId evidence lease command) :
    Effect s (.advanceLease leaseId evidence) (s.progress command lease evidence)

theorem ofClaims_leaseId {i : String} {cs : List LeaseClaim} {e : Nat} {l : Lease}
    (h : Lease.ofClaims i cs e = .ok l) : l.leaseId = i ∧ l.claims = cs := by
  unfold Lease.ofClaims at h
  repeat' split at h
  all_goals first | cases h; exact ⟨rfl, rfl⟩ | cases h

theorem copyLease_leaseId {l m : Lease} (h : copyLease l = .ok m) : m.leaseId = l.leaseId := by
  obtain ⟨cs, -, h⟩ := except_bind_ok.1 h
  exact (ofClaims_leaseId h).1

theorem apply_effect (s : GroupScheduler) (c : Call) : Effect s c (apply c s) := by
  cases c with
  | attachTask t r =>
    simp only [apply, attachTask]
    split
    · exact .unchanged _
    · split
      · split
        · exact .unchanged _
        · exact .registered _ _ s.idleReports
      · exact .registered _ _ s.idleReports
  | detachTask t =>
    simp only [apply, detachTask]
    split
    · exact .unchanged _
    · exact .registered _ _ _
  | submitIdleReport r now =>
    simp only [apply, submitIdleReport]
    split
    · exact .unchanged _
    · exact .registered _ s.taskRunners _
  | openLease l =>
    simp only [apply, openLease]
    split
    · split <;> exact .unchanged _
    · rename_i hnew
      split
      · exact .unchanged _
      · rename_i lease hcopy
        split
        · exact .unchanged _
        · rename_i hfree
          exact .opened l lease hcopy (by rw [copyLease_leaseId hcopy]; exact hnew) hfree
  | submitOperation command now reply =>
    simp only [apply, submitOperation]
    split
    · exact .unchanged _
    · rename_i lease h
      obtain ⟨hl, -, hp | ⟨hp, ha⟩⟩ := submitCheck_ok h
      · simp only [Dict.contains, hp, Option.isSome_some, if_true]
        exact .unchanged _
      · simp only [Dict.contains, hp, Option.isSome_none, Bool.false_eq_true, if_false]
        exact .staged command now reply lease hl hp ha
  | advanceLease leaseId evidence =>
    rw [apply_advanceLease]
    split
    · exact .unchanged _
    · rename_i lease command h
      exact .progressed leaseId evidence lease command (firstEvidence?_eq_some h)

/-! ## Conditions on first evidence -/

/-- `Q` holds of the lease and command whose first evidence the call records, if it records one. -/
def OnFirstEvidence (Q : String → OperationEvidence → Lease → OperationCommand → Prop)
    (s : GroupScheduler) : Call → Prop
  | .advanceLease L evidence => ∀ lease command,
    s.firstEvidence? L evidence = some (lease, command) → Q L evidence lease command
  | _ => True

instance {Q : String → OperationEvidence → Lease → OperationCommand → Prop}
    [∀ L e l c, Decidable (Q L e l c)] (s : GroupScheduler) (c : Call) :
    Decidable (OnFirstEvidence Q s c) :=
  match c with
  | .advanceLease L evidence =>
    match h : s.firstEvidence? L evidence with
    | none => isTrue fun lease command hf => by rw [h] at hf; cases hf
    | some (lease, command) => decidable_of_iff (Q L evidence lease command)
        ⟨fun hp l c hf => by rw [h] at hf; cases hf; exact hp, fun hp => hp lease command h⟩
  | .attachTask .. | .detachTask .. | .submitIdleReport .. | .openLease ..
  | .submitOperation .. => isTrue trivial

/-- A property that only first evidence can break holds after a call exactly under the condition
under which the branch for that evidence keeps it. -/
theorem apply_iff_onFirstEvidence {I : GroupScheduler → Prop}
    {Q : String → OperationEvidence → Lease → OperationCommand → Prop} {s : GroupScheduler}
    (h : I s)
    (hother : ∀ c s', Effect s c s' → (∀ L evidence, c ≠ .advanceLease L evidence) → I s')
    (hfirst : ∀ L evidence lease command, FirstEvidence s L evidence lease command →
      (I (s.progress command lease evidence) ↔ Q L evidence lease command)) (c : Call) :
    I (apply c s) ↔ OnFirstEvidence Q s c := by
  cases c with
  | advanceLease L evidence =>
    rw [apply_advanceLease]
    cases hf : s.firstEvidence? L evidence with
    | none => simp [OnFirstEvidence, hf, h]
    | some p =>
      obtain ⟨lease, command⟩ := p
      simpa [OnFirstEvidence, hf] using hfirst L evidence lease command (firstEvidence?_eq_some hf)
  | _ => exact iff_of_true (hother _ _ (apply_effect s _) (by simp)) trivial

/-- What `open_lease` has checked: no claim key belongs to another lease. -/
theorem openLeaseCheck_ok {s : GroupScheduler} {lease : Lease}
    (h : s.openLeaseCheck lease = .ok ()) :
    (∀ b ∈ lease.bundleKeys, ∀ o, s.activeBundleOwner.get? b = some o → o = lease.leaseId) ∧
      ∀ g ∈ lease.gpuUuids, ∀ o, s.activeGpuOwner.get? g = some o → o = lease.leaseId := by
  simp only [openLeaseCheck, check_bind_ok, check_ok] at h
  exact ⟨h.2.1, h.2.2⟩

/-! ## Frame laws of the ownership maps -/

section
variable {s : GroupScheduler} {lease lease' : Lease} {L L' : String}

/-- Two leases that own their claims have disjoint claims. -/
theorem allOwned_disjoint (h : s.allOwned lease L) (h' : s.allOwned lease' L') (hne : L ≠ L') :
    (∀ b ∈ lease.bundleKeys, b ∉ lease'.bundleKeys) ∧ ∀ g ∈ lease.gpuUuids, g ∉ lease'.gpuUuids := by
  refine ⟨fun b hb hb' => hne ?_, fun g hg hg' => hne ?_⟩
  · exact Option.some.inj ((h.1 b hb).symm.trans (h'.1 b hb'))
  · exact Option.some.inj ((h.2 g hg).symm.trans (h'.2 g hg'))

theorem not_allOwned_of_noneOwned (h : s.noneOwned lease) : ¬ s.allOwned lease L := by
  intro ho
  obtain ⟨g, hg⟩ := lease.exists_gpu
  simpa [h.1 g hg] using ho.2 g hg

theorem allOwned_freeOwned (h : s.allOwned lease L) (hne : L ≠ L') :
    (s.freeOwned lease' L').allOwned lease L := by
  refine ⟨fun b hb => ?_, fun g hg => ?_⟩
  · simp [freeOwned, Dict.get?_eraseOwned, h.1 b hb, hne]
  · simp [freeOwned, Dict.get?_eraseOwned, h.2 g hg, hne]

theorem allOwned_freeAll (h : s.allOwned lease L) (h' : s.allOwned lease' L') (hne : L ≠ L') :
    (s.freeAll lease').allOwned lease L := by
  obtain ⟨hb', hg'⟩ := allOwned_disjoint h h' hne
  refine ⟨fun b hb => ?_, fun g hg => ?_⟩
  · simp [freeAll, Dict.get?_eraseAll, h.1 b hb, hb' b hb]
  · simp [freeAll, Dict.get?_eraseAll, h.2 g hg, hg' g hg]

/-- Freeing a lease's own claims leaves it owning none of them. -/
theorem not_allOwned_freeOwned : ¬ (s.freeOwned lease L).allOwned lease L := by
  rintro ⟨-, h⟩
  obtain ⟨g, hg⟩ := lease.exists_gpu
  have := h g hg
  simp only [freeOwned, Dict.get?_eraseOwned, hg, true_and] at this
  split at this <;> simp_all

theorem allOwned_opened (h : s.allOwned lease L) (hc : s.openLeaseCheck lease' = .ok ())
    (hne : L ≠ lease'.leaseId) : (s.opened lease').allOwned lease L := by
  obtain ⟨hb', hg'⟩ := openLeaseCheck_ok hc
  refine ⟨fun b hb => ?_, fun g hg => ?_⟩
  · have : b ∉ lease'.bundleKeys := fun hm => hne (hb' b hm L (h.1 b hb))
    simp [opened, Dict.get?_insertAll, this, h.1 b hb]
  · have : g ∉ lease'.gpuUuids := fun hm => hne (hg' g hm L (h.2 g hg))
    simp [opened, Dict.get?_insertAll, this, h.2 g hg]

theorem allOwned_reserve (h : s.allOwned lease L) (hn : s.noneOwned lease') :
    (s.reserve lease' L').allOwned lease L := by
  refine ⟨fun b hb => ?_, fun g hg => ?_⟩
  · have : b ∉ lease'.bundleKeys := fun hm => by simpa [hn.2 b hm] using h.1 b hb
    simp [reserve, Dict.get?_insertAll, this, h.1 b hb]
  · have : g ∉ lease'.gpuUuids := fun hm => by simpa [hn.1 g hm] using h.2 g hg
    simp [reserve, Dict.get?_insertAll, this, h.2 g hg]

theorem allOwned_reserve_self : (s.reserve lease L).allOwned lease L := by
  refine ⟨fun b hb => ?_, fun g hg => ?_⟩
  · simp [reserve, Dict.get?_insertAll, hb]
  · simp [reserve, Dict.get?_insertAll, hg]

/-- Staging an admitted command keeps what other leases own. -/
theorem allOwned_stage {command : OperationCommand} (h : s.allOwned lease L)
    (ha : Admitted s command lease') : (s.stage command lease').allOwned lease L := by
  have h' : ({ s with operationCommands :=
      s.operationCommands.insert command.operationId command } : GroupScheduler).allOwned lease L := h
  unfold stage
  cases hk : command.kind with
  | add => exact h'
  | donate => exact h'
  | remove => exact h'
  | restore => exact allOwned_reserve h' (ha.restore hk).2.2

end

/-! ## Tables that only grow -/

section
variable {s : GroupScheduler}

theorem leases_stage (command : OperationCommand) (lease : Lease) :
    (s.stage command lease).leases = s.leases := by
  unfold stage; split <;> rfl

theorem leases_progress (command : OperationCommand) (lease : Lease)
    (evidence : OperationEvidence) : (s.progress command lease evidence).leases = s.leases := by
  unfold progress
  split
  · split <;> rfl
  all_goals rfl

/-- A lease, once opened, keeps its entry. -/
theorem Effect.leases {c : Call} {s' : GroupScheduler} {L : String} {lease : Lease}
    (he : Effect s c s') (h : s.leases.get? L = some lease) : s'.leases.get? L = some lease := by
  cases he with
  | unchanged => exact h
  | registered => exact h
  | opened l lease' hcopy hnew =>
    have hne : lease'.leaseId ≠ L := fun e => by rw [e, h] at hnew; cases hnew
    simpa [GroupScheduler.opened, Dict.get?_insert, hne] using h
  | staged => rw [leases_stage]; exact h
  | progressed => rw [leases_progress]; exact h

theorem operationCommands_stage (command : OperationCommand) (lease : Lease) :
    (s.stage command lease).operationCommands =
      s.operationCommands.insert command.operationId command := by
  unfold stage; split <;> rfl

theorem operationCommands_progress (command : OperationCommand) (lease : Lease)
    (evidence : OperationEvidence) :
    (s.progress command lease evidence).operationCommands = s.operationCommands := by
  unfold progress
  split
  · split <;> rfl
  all_goals rfl

/-- A command, once staged, is never replaced. -/
theorem Effect.operationCommands {c : Call} {s' : GroupScheduler} {op : String}
    {command : OperationCommand} (he : Effect s c s')
    (h : s.operationCommands.get? op = some command) :
    s'.operationCommands.get? op = some command := by
  cases he with
  | unchanged => exact h
  | registered => exact h
  | opened => exact h
  | staged cmd now reply lease hl hnew =>
    have hne : cmd.operationId ≠ op := fun e => by rw [e, h] at hnew; cases hnew
    simpa [operationCommands_stage, Dict.get?_insert, hne] using h
  | progressed => rw [operationCommands_progress]; exact h

end

end ReplicaLending.GroupScheduler
