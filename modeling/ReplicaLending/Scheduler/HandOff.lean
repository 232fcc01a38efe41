import ReplicaLending.Scheduler.Steps
/-!
# Hand-off ownership

A lease is marked handoff-ready when the donor's RELEASED evidence is accepted; from then on its
claims "remain owned by this borrower lease until borrowed REMOVE produces its own RELEASED
evidence" (group_scheduler.py:47-49). Two branches of `advance_lease` break this:

* the DONATE branch (:449) marks the lease without looking at the ownership tables, so the evidence
  of a second DONATE, staged before the first one was answered, marks a lease whose claims an ADD
  rollback, a REMOVE or a RESTORE has freed in the meantime (`late_donate_unowned`);
* the RESTORE rollback branch (:368-379) frees the claims and leaves the mark.

`HandoffSafe` says that neither branch is taken, and `handoffOwns_apply_iff` that it is exactly the
condition under which a step keeps the invariant.
-/

namespace ReplicaLending.GroupScheduler

/-- Every handoff-ready lease is the recorded owner of all its bundles and all its GPUs. -/
def HandoffOwns (s : GroupScheduler) : Prop :=
  ∀ L ∈ s.handoffReadyLeases, ∃ lease, s.leases.get? L = some lease ∧ s.allOwned lease L

/-- First DONATE evidence finds the claims still owned, and a RESTORE is not rolled back on a
lease that is handoff-ready. Every other call meets the condition. -/
def HandoffSafe (s : GroupScheduler) : Call → Prop :=
  OnFirstEvidence (fun L evidence lease command =>
    (command.kind = .donate → s.allOwned lease L) ∧
    (command.kind = .restore → evidence.type = .released → L ∉ s.handoffReadyLeases)) s

instance (s : GroupScheduler) (c : Call) : Decidable (s.HandoffSafe c) :=
  inferInstanceAs (Decidable (OnFirstEvidence _ s c))

theorem handoffOwns_init : HandoffOwns init := fun _ h => by simp [init] at h

section
variable {s : GroupScheduler}

theorem handoffOwns_opened {lease : Lease} (h : s.HandoffOwns)
    (hnew : s.leases.get? lease.leaseId = none) (hc : s.openLeaseCheck lease = .ok ()) :
    (s.opened lease).HandoffOwns := by
  intro L hL
  obtain ⟨l, hl, ho⟩ := h L hL
  have hne : L ≠ lease.leaseId := fun e => by rw [← e, hl] at hnew; cases hnew
  exact ⟨l, by simpa [opened, Dict.get?_insert, Ne.symm hne] using hl, allOwned_opened ho hc hne⟩

theorem handoffReady_stage (command : OperationCommand) (lease : Lease) :
    (s.stage command lease).handoffReadyLeases = s.handoffReadyLeases := by
  unfold stage; split <;> rfl

theorem handoffOwns_stage {command : OperationCommand} {lease : Lease} (h : s.HandoffOwns)
    (ha : Admitted s command lease) : (s.stage command lease).HandoffOwns := by
  intro L hL
  rw [handoffReady_stage] at hL
  obtain ⟨l, hl, ho⟩ := h L hL
  exact ⟨l, by rw [leases_stage]; exact hl, allOwned_stage ho ha⟩

/-- Discarding the mark of `L` and freeing what `L` owns disturbs no other lease. -/
theorem handoffOwns_freed {t : GroupScheduler} {lease : Lease} {L : String} (h : s.HandoffOwns)
    (hl : t.leases = s.leases) (hr : t.handoffReadyLeases = s.handoffReadyLeases.erase L)
    (hb : t.activeBundleOwner = (s.freeOwned lease L).activeBundleOwner)
    (hg : t.activeGpuOwner = (s.freeOwned lease L).activeGpuOwner) : t.HandoffOwns := by
  intro M hM
  rw [hr, Finset.mem_erase] at hM
  obtain ⟨l, hl', ho⟩ := h M hM.2
  have hf : (s.freeOwned lease L).allOwned l M := allOwned_freeOwned ho hM.1
  exact ⟨l, hl ▸ hl', fun b hbm => hb ▸ hf.1 b hbm, fun g hgm => hg ▸ hf.2 g hgm⟩

theorem handoffOwns_restored {lease : Lease} {L : String} {evidence : OperationEvidence}
    (h : s.HandoffOwns) (ho : s.allOwned lease L) : (s.restored lease L evidence).HandoffOwns := by
  intro M hM
  have hM' : M ≠ L ∧ M ∈ s.handoffReadyLeases := by
    simpa [restored, freeAll, popBorrower, discardHandoff, appendHistory, recordEvidence] using hM
  obtain ⟨l, hl, hm⟩ := h M hM'.2
  exact ⟨l, hl, allOwned_freeAll hm ho hM'.1⟩

theorem handoffOwns_donated {lease : Lease} {L : String} {evidence : OperationEvidence}
    (hl : s.leases.get? L = some lease) (h : s.HandoffOwns) :
    (s.donated L evidence).HandoffOwns ↔ s.allOwned lease L := by
  constructor
  · intro hd
    obtain ⟨l, hl', ho⟩ := hd L (Finset.mem_insert_self _ _)
    cases hl.symm.trans hl'
    exact ho
  · intro ho M hM
    rcases Finset.mem_insert.1 hM with rfl | hM
    · exact ⟨lease, hl, ho⟩
    · exact h M hM

theorem handoffOwns_restoreRolledBack {lease : Lease} {L : String} {evidence : OperationEvidence}
    (hl : s.leases.get? L = some lease) (h : s.HandoffOwns) :
    (s.restoreRolledBack lease L evidence).HandoffOwns ↔ L ∉ s.handoffReadyLeases := by
  constructor
  · intro hd hL
    obtain ⟨l, hl', ho⟩ := hd L hL
    cases hl.symm.trans hl'
    exact not_allOwned_freeOwned (s := s.recordEvidence L evidence) ho
  · intro hL
    exact handoffOwns_freed h rfl (Finset.erase_eq_of_notMem hL).symm rfl rfl

/-- One branch of `advance_lease` on a ledger that satisfies the invariant. -/
theorem handoffOwns_progress_iff {L : String} {lease : Lease} {command : OperationCommand}
    {evidence : OperationEvidence} (h : s.HandoffOwns)
    (hf : FirstEvidence s L evidence lease command) :
    (s.progress command lease evidence).HandoffOwns ↔
      (command.kind = .donate → s.allOwned lease L) ∧
      (command.kind = .restore → evidence.type = .released → L ∉ s.handoffReadyLeases) := by
  obtain ⟨hl, -, rfl, -, p, hp⟩ := hf
  unfold progress
  cases hk : command.kind with
  | add =>
    have hd : (s.addRolledBack lease command.leaseId evidence).HandoffOwns :=
      handoffOwns_freed h rfl rfl rfl rfl
    simpa using hd
  | remove =>
    have hd : (s.removed lease command.leaseId evidence).HandoffOwns :=
      handoffOwns_freed h rfl rfl rfl rfl
    simpa using hd
  | donate => simpa using handoffOwns_donated hl h
  | restore =>
    obtain ⟨-, ho⟩ := progressCheck_restore hk hp
    by_cases ht : evidence.type = .released
    · simpa [ht] using handoffOwns_restoreRolledBack hl h
    · simpa [ht] using handoffOwns_restored h ho

end

/-- Every call but `advance_lease` keeps the invariant. -/
theorem handoffOwns_effect {s s' : GroupScheduler} {c : Call} (h : s.HandoffOwns)
    (he : Effect s c s') (hc : ∀ L evidence, c ≠ .advanceLease L evidence) : s'.HandoffOwns := by
  cases he with
  | unchanged => exact h
  | registered => exact h
  | opened l lease hcopy hnew hfree => exact handoffOwns_opened h hnew hfree
  | staged command now reply lease hl hnew ha => exact handoffOwns_stage h ha
  | progressed L evidence => exact absurd rfl (hc L evidence)

/-- The condition is exact: a call keeps the invariant if and only if it meets it. -/
theorem handoffOwns_apply_iff {s : GroupScheduler} (h : s.HandoffOwns) (c : Call) :
    (apply c s).HandoffOwns ↔ s.HandoffSafe c :=
  apply_iff_onFirstEvidence h (fun _ _ => handoffOwns_effect h)
    (fun _ _ _ _ => handoffOwns_progress_iff h) c

/-- **Hand-off ownership.** In every run whose `advance_lease` calls meet `HandoffSafe`, each
handoff-ready lease owns all its claims, a newly accepted ADD is for claims its lease owns alone,
and the next call keeps this exactly when it meets the condition too. -/
theorem handoff_owns {s : GroupScheduler}
    (h : machine.ReachableWhere (fun s c _ => s.HandoffSafe c) s) :
    s.HandoffOwns ∧
    (∀ command now lease, command.kind = .add →
      s.operationCommands.get? command.operationId = none → s.submitCheck command now = .ok lease →
      s.allOwned lease command.leaseId ∧
      ∀ L, L ≠ command.leaseId → (∀ b ∈ lease.bundleKeys, s.activeBundleOwner.get? b ≠ some L) ∧
        ∀ g ∈ lease.gpuUuids, s.activeGpuOwner.get? g ≠ some L) ∧
    ∀ c, (apply c s).HandoffOwns ↔ s.HandoffSafe c := by
  have hown : s.HandoffOwns := by
    refine h.invariant (fun s hs => hs ▸ handoffOwns_init) (fun s c s' hI hs hP => ?_)
    rw [← hs]
    exact (handoffOwns_apply_iff hI c).2 hP
  refine ⟨hown, fun command now lease hk hnew ha => ?_, handoffOwns_apply_iff hown⟩
  obtain ⟨hl, -, hp | ⟨-, hadm⟩⟩ := submitCheck_ok ha
  · rw [hnew] at hp; cases hp
  obtain ⟨l, hl', ho⟩ := hown _ (hadm.add hk).1
  cases hl.symm.trans hl'
  exact ⟨ho, fun L hne => ⟨fun b hb e => hne (Option.some.inj (e.symm.trans (ho.1 b hb))),
    fun g hg e => hne (Option.some.inj (e.symm.trans (ho.2 g hg)))⟩⟩

/-! ## A concrete ledger -/

/-- Native replica 0 of the task `donor`. -/
def donorKey : ReplicaKey := nativeReplicaKey "donor" (ne_empty holds) 0

/-- A borrowed replica of the task `borrower`. -/
def borrowerKey : ReplicaKey := ⟨"borrower", "b-0", 0, ne_empty holds, ne_empty holds⟩

/-- One GPU of `donorKey`, as a normalized claim. -/
def donorClaim : LeaseClaim where
  fields := ⟨[("claim_id", .str "claim"), ("source_lease_id", .str "root"),
    ("donor_task_id", .str "donor"), ("donor_replica_rank", .int 0), ("pg_id", .str "pg"),
    ("node_id", .str "node"), ("gpu_uuid", .str "gpu"), ("bundle_index", .int 0),
    ("gpu_fraction", .float (1 / 2)), ("cpu_request", .float 1)], by decide⟩
  ok := by constructor <;> rfl

/-- The lease `id` over that GPU. -/
def donorLease (id : String) (h : id ≠ "") : Lease :=
  ⟨id, [donorClaim], 0, h, by simp, by simp, by simp, by simp, by simp⟩

/-- A command on lease `L`. -/
def command (id : String) (kind : OperationKind) (target : ReplicaKey)
    (hid : id ≠ "" := by exact ne_empty holds) : OperationCommand :=
  ⟨id, kind, target, "L", none, hid, ne_empty holds, by simp⟩

/-- RELEASED evidence for the GPU of `donorLease`. -/
def released (id : String) (hid : id ≠ "" := by exact ne_empty holds) : OperationEvidence :=
  ⟨id, .released, 0, ["gpu"], hid, by decide, by decide, by simp⟩

/-- SERVICE_COMMITTED evidence. -/
def committed (id : String) (hid : id ≠ "" := by exact ne_empty holds) : OperationEvidence :=
  ⟨id, .serviceCommitted, 0, [], hid, List.nodup_nil, List.not_mem_nil, noGpus_iff holds⟩

/-- A submission whose dispatch timed out. -/
def submit (c : OperationCommand) : Call :=
  .submitOperation c ⟨0, 0⟩ (.raised (.timeoutError "dispatch"))

/-- Two tasks attach and lease `L` is opened over the donor's GPU. -/
def opening : List Call :=
  [.attachTask "donor" ⟨1⟩, .attachTask "borrower" ⟨2⟩, .openLease (donorLease "L" (ne_empty holds))]

/-- A GPU that a lease claims and nobody owns refutes the lease's ownership. -/
theorem not_allOwned_of_gpu {s : GroupScheduler} {lease : Lease} {L g : String}
    (hg : g ∈ lease.gpuUuids) (hn : s.activeGpuOwner.get? g ≠ some L) : ¬ s.allOwned lease L :=
  fun h => hn (h.2 g hg)

/-- Two DONATEs are staged, the first is answered, the ADD rolls back, the second is answered. -/
def lateDonate : List Call := opening ++
  [submit (command "d1" .donate donorKey), submit (command "d2" .donate donorKey),
   .advanceLease "L" (released "d1"), submit (command "a" .add borrowerKey),
   .advanceLease "L" (released "a"), .advanceLease "L" (released "d2")]

/-- The late evidence of `d2` marks a lease whose claims nobody owns, and the next ADD on it is
accepted. -/
theorem late_donate_unowned :
    machine.Reachable (Machine.exec apply lateDonate init) ∧
    ¬ (Machine.exec apply lateDonate init).HandoffOwns ∧
    ((Machine.exec apply lateDonate init).submitCheck (command "a2" .add borrowerKey) ⟨0, 0⟩).isOk = true ∧
    (Machine.exec apply lateDonate init).activeGpuOwner.get? "gpu" = none := by
  have hg : (Machine.exec apply lateDonate init).activeGpuOwner.get? "gpu" = none := by
    decide +kernel
  refine ⟨⟨init, rfl, Machine.run_exec _ _ _ _⟩, fun h => ?_, by decide +kernel, hg⟩
  obtain ⟨lease, hl, ho⟩ := h "L" (by decide +kernel)
  have hc : ((Machine.exec apply lateDonate init).leases.get? "L").map Lease.gpuUuids =
      some ["gpu"] := by decide +kernel
  rw [hl] at hc
  have hm : "gpu" ∈ lease.gpuUuids := by rw [Option.some.inj hc]; simp
  exact not_allOwned_of_gpu hm (by simp [hg]) ho

/-- The first half of a lending cycle meets the condition at every call. -/
theorem handoff_owns_lent :
    (Machine.exec apply (opening ++ [submit (command "d1" .donate donorKey),
      .advanceLease "L" (released "d1")]) init).HandoffOwns :=
  (handoff_owns ⟨init, rfl, Machine.runWhere_exec _ _ _ _ _ (by decide +kernel)⟩).1

end ReplicaLending.GroupScheduler
