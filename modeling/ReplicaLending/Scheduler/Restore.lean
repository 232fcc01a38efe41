import ReplicaLending.Scheduler.HandOff
/-!
# The RESTORE reservation and the end of the lease

A staged RESTORE reserves the claims of its lease until its own evidence arrives ("restore
completion requires its temporary claim reservation", :360), and its SERVICE_COMMITTED evidence ends
the lease ("lease lifecycle is complete after RESTORE", :132). Both are re-derived from the tables on
each call, and the DONATE/REMOVE branch of `advance_lease` reads none of them, so evidence of an
operation staged earlier breaks both:

* `late_remove_unreserves` — the evidence of a second REMOVE frees what a pending RESTORE reserved;
* `late_donate_reopens` — the evidence of a second DONATE marks a completed lease handoff-ready.

`ReservationSafe` and `NoLateRelease` exclude exactly these calls.
-/

namespace ReplicaLending.GroupScheduler

/-! ## The reservation -/

/-- RESTORE `op` on `L` is staged and its evidence has not been accepted. -/
def PendingRestore (s : GroupScheduler) (L op : String) : Prop :=
  ∃ command, s.operationCommands.get? op = some command ∧ command.kind = .restore ∧
    command.leaseId = L ∧ s.releaseEvidence.get? (L, op) = none

/-- A lease with a pending RESTORE owns all its claims. -/
def Reserved (s : GroupScheduler) : Prop :=
  ∀ L op, s.PendingRestore L op → ∃ lease, s.leases.get? L = some lease ∧ s.allOwned lease L

/-- At most one RESTORE is pending on a lease. -/
def OneRestore (s : GroupScheduler) : Prop :=
  ∀ L op op', s.PendingRestore L op → s.PendingRestore L op' → op = op'

instance (s : GroupScheduler) (L op : String) : Decidable (s.PendingRestore L op) :=
  match h : s.operationCommands.get? op with
  | none => isFalse fun ⟨_, hc, _⟩ => by rw [h] at hc; cases hc
  | some command => decidable_of_iff
      (command.kind = .restore ∧ command.leaseId = L ∧ s.releaseEvidence.get? (L, op) = none)
      ⟨fun hp => ⟨command, h, hp⟩, fun ⟨c, hc, hp⟩ => by rw [h] at hc; cases hc; exact hp⟩

instance (s : GroupScheduler) (L : String) : Decidable (∃ op, s.PendingRestore L op) :=
  decidable_of_iff (∃ op ∈ s.operationCommands.keys, s.PendingRestore L op)
    ⟨fun ⟨op, _, h⟩ => ⟨op, h⟩,
      fun ⟨op, command, hc, h⟩ => ⟨op, Dict.mem_keys_of_get? hc, command, hc, h⟩⟩

/-- No ADD or REMOVE evidence is recorded first on a lease with a pending RESTORE. -/
def ReservationSafe (s : GroupScheduler) : Call → Prop :=
  OnFirstEvidence (fun L _ _ command =>
    command.kind = .add ∨ command.kind = .remove → ¬ ∃ op, s.PendingRestore L op) s

instance (s : GroupScheduler) (c : Call) : Decidable (s.ReservationSafe c) :=
  inferInstanceAs (Decidable (OnFirstEvidence _ s c))

theorem pendingRestore_init {L op : String} : ¬ init.PendingRestore L op := by
  rintro ⟨_, h, -⟩
  cases h

section
variable {s : GroupScheduler} {L op : String}

theorem releaseEvidence_stage (command : OperationCommand) (lease : Lease) :
    (s.stage command lease).releaseEvidence = s.releaseEvidence := by
  unfold stage; split <;> rfl

theorem releaseEvidence_progress (command : OperationCommand) (lease : Lease)
    (evidence : OperationEvidence) :
    (s.progress command lease evidence).releaseEvidence =
      s.releaseEvidence.insert (command.leaseId, evidence.operationId) evidence := by
  unfold progress
  split
  · split <;> rfl
  all_goals rfl

/-- Staging adds at most the staged RESTORE to the pending ones. -/
theorem pendingRestore_stage {command : OperationCommand} {lease : Lease}
    (h : (s.stage command lease).PendingRestore L op) :
    s.PendingRestore L op ∨ op = command.operationId ∧ command.kind = .restore ∧
      command.leaseId = L := by
  obtain ⟨c, hc, hk, hL, hn⟩ := h
  rw [operationCommands_stage, Dict.get?_insert] at hc
  rw [releaseEvidence_stage] at hn
  split at hc
  · cases hc
    exact .inr ⟨Eq.symm ‹_›, hk, hL⟩
  · exact .inl ⟨c, hc, hk, hL, hn⟩

/-- Recording evidence leaves every pending RESTORE but the one it answers. -/
theorem pendingRestore_progress {M : String} {lease : Lease} {command : OperationCommand}
    {evidence : OperationEvidence} (hf : FirstEvidence s M evidence lease command) :
    (s.progress command lease evidence).PendingRestore L op ↔
      s.PendingRestore L op ∧ ¬ (L = M ∧ op = evidence.operationId) := by
  obtain ⟨-, -, rfl, -, -⟩ := hf
  simp only [PendingRestore, operationCommands_progress, releaseEvidence_progress,
    Dict.get?_insert, Prod.mk.injEq]
  constructor
  · rintro ⟨c, hc, hk, hL, hn⟩
    split at hn
    · cases hn
    · rename_i hne
      exact ⟨⟨c, hc, hk, hL, hn⟩, fun ⟨e₁, e₂⟩ => hne ⟨e₁.symm, e₂.symm⟩⟩
  · rintro ⟨⟨c, hc, hk, hL, hn⟩, hne⟩
    refine ⟨c, hc, hk, hL, ?_⟩
    rw [if_neg fun ⟨e₁, e₂⟩ => hne ⟨e₁.symm, e₂.symm⟩]
    exact hn

theorem oneRestore_stage {command : OperationCommand} {lease : Lease} (h : s.OneRestore)
    (hr : s.Reserved) (hl : s.leases.get? command.leaseId = some lease)
    (ha : Admitted s command lease) : (s.stage command lease).OneRestore := by
  -- a RESTORE is admitted only on unowned claims, so none was pending on its lease
  have hnone : command.kind = .restore → ∀ op, ¬ s.PendingRestore command.leaseId op := by
    intro hk op hp
    obtain ⟨l, hl', ho⟩ := hr _ _ hp
    cases hl.symm.trans hl'
    exact not_allOwned_of_noneOwned (ha.restore hk).2.2 ho
  intro M op op' h₁ h₂
  rcases pendingRestore_stage h₁ with h₁ | ⟨rfl, hk, rfl⟩ <;>
    rcases pendingRestore_stage h₂ with h₂ | ⟨rfl, hk', hM⟩
  · exact h M op op' h₁ h₂
  · exact absurd (hM ▸ h₁) (hnone hk' op)
  · exact absurd h₂ (hnone hk op')
  · rfl

theorem reserved_stage {command : OperationCommand} {lease : Lease} (h : s.Reserved)
    (hl : s.leases.get? command.leaseId = some lease) (ha : Admitted s command lease) :
    (s.stage command lease).Reserved := by
  intro M op hp
  rw [leases_stage]
  rcases pendingRestore_stage hp with hp | ⟨rfl, hk, rfl⟩
  · obtain ⟨l, hl', ho⟩ := h M op hp
    exact ⟨l, hl', allOwned_stage ho ha⟩
  · refine ⟨lease, hl, ?_⟩
    simp only [stage, hk]
    exact allOwned_reserve_self

theorem oneRestore_progress {M : String} {lease : Lease} {command : OperationCommand}
    {evidence : OperationEvidence} (h : s.OneRestore)
    (hf : FirstEvidence s M evidence lease command) :
    (s.progress command lease evidence).OneRestore := fun N _ _ h₁ h₂ =>
  h N _ _ ((pendingRestore_progress hf).1 h₁).1 ((pendingRestore_progress hf).1 h₂).1

/-- What evidence on `L` leaves of the claims of another lease. -/
theorem allOwned_progress_ne {M : String} {l lease : Lease} {command : OperationCommand}
    {evidence : OperationEvidence} (ho : s.allOwned l L)
    (hf : FirstEvidence s M evidence lease command) (hne : L ≠ M) :
    (s.progress command lease evidence).allOwned l L := by
  obtain ⟨-, -, rfl, -, p, hp⟩ := hf
  unfold progress
  cases hk : command.kind with
  | add => exact allOwned_freeOwned (s := s.recordEvidence command.leaseId evidence) ho hne
  | remove => exact allOwned_freeOwned (s := s.recordEvidence command.leaseId evidence) ho hne
  | donate => exact ho
  | restore =>
    obtain ⟨-, ho'⟩ := progressCheck_restore hk hp
    by_cases ht : evidence.type = .released
    · simp only [ht, if_true]
      exact allOwned_freeOwned (s := s.recordEvidence command.leaseId evidence) ho hne
    · simp only [ht, if_false]
      exact allOwned_freeAll (s := s.recordEvidence command.leaseId evidence) ho ho' hne

/-- Evidence of an ADD or a REMOVE leaves the lease owning nothing. -/
theorem not_allOwned_progress {lease : Lease} {command : OperationCommand}
    {evidence : OperationEvidence} (hk : command.kind = .add ∨ command.kind = .remove) :
    ¬ (s.progress command lease evidence).allOwned lease command.leaseId := by
  rcases hk with hk | hk <;> simp only [progress, hk] <;>
    exact not_allOwned_freeOwned (s := s.recordEvidence command.leaseId evidence)

/-- One branch of `advance_lease` keeps the reservations exactly when it meets the condition. -/
theorem reserved_progress_iff {M : String} {lease : Lease} {command : OperationCommand}
    {evidence : OperationEvidence} (h : s.Reserved) (h₁ : s.OneRestore)
    (hf : FirstEvidence s M evidence lease command) :
    (s.progress command lease evidence).Reserved ↔
      (command.kind = .add ∨ command.kind = .remove → ¬ ∃ op, s.PendingRestore M op) := by
  have hM : command.leaseId = M := hf.leaseId_eq
  constructor
  · rintro hr hk ⟨op, hp⟩
    have hne : op ≠ evidence.operationId := by
      rintro rfl
      obtain ⟨c, hc, hck, -, -⟩ := hp
      cases hf.command_eq.symm.trans hc
      rcases hk with hk | hk <;> rw [hk] at hck <;> cases hck
    obtain ⟨l, hl, ho⟩ := hr M op ((pendingRestore_progress hf).2 ⟨hp, fun e => hne e.2⟩)
    rw [leases_progress] at hl
    cases hf.lease_eq.symm.trans hl
    exact not_allOwned_progress hk (hM ▸ ho)
  · intro hP N op hp
    obtain ⟨hp, hop⟩ := (pendingRestore_progress hf).1 hp
    obtain ⟨l, hl, ho⟩ := h N op hp
    refine ⟨l, by rw [leases_progress]; exact hl, ?_⟩
    by_cases hNM : N = M
    · subst hNM
      cases hk : command.kind with
      | add => exact absurd ⟨op, hp⟩ (hP (.inl hk))
      | remove => exact absurd ⟨op, hp⟩ (hP (.inr hk))
      | donate => simp only [progress, hk]; exact ho
      | restore =>
        have : s.PendingRestore N evidence.operationId :=
          ⟨command, hf.command_eq, hk, hM, hf.unrecorded⟩
        exact absurd ⟨rfl, h₁ N _ _ hp this⟩ hop
    · exact allOwned_progress_ne ho hf hNM

theorem reserved_opened {lease : Lease} (h : s.Reserved)
    (hnew : s.leases.get? lease.leaseId = none) (hc : s.openLeaseCheck lease = .ok ()) :
    (s.opened lease).Reserved := by
  intro M op hp
  obtain ⟨l, hl, ho⟩ := h M op hp
  have hne : M ≠ lease.leaseId := fun e => by rw [← e, hl] at hnew; cases hnew
  exact ⟨l, by simpa [opened, Dict.get?_insert, Ne.symm hne] using hl, allOwned_opened ho hc hne⟩

end

theorem oneRestore_effect {s s' : GroupScheduler} {c : Call} (h : s.OneRestore) (hr : s.Reserved)
    (he : Effect s c s') : s'.OneRestore := by
  cases he with
  | unchanged => exact h
  | registered => exact h
  | opened l lease hcopy hnew hfree => exact h
  | staged command now reply lease hl hnew ha => exact oneRestore_stage h hr hl ha
  | progressed M evidence lease command hf => exact oneRestore_progress h hf

/-- Every call but `advance_lease` keeps the reservations. -/
theorem reserved_effect {s s' : GroupScheduler} {c : Call} (h : s.Reserved) (he : Effect s c s')
    (hc : ∀ L evidence, c ≠ .advanceLease L evidence) : s'.Reserved := by
  cases he with
  | unchanged => exact h
  | registered => exact h
  | opened l lease hcopy hnew hfree => exact reserved_opened h hnew hfree
  | staged command now reply lease hl hnew ha => exact reserved_stage h hl ha
  | progressed L evidence => exact absurd rfl (hc L evidence)

/-- The condition is exact: a call keeps every reservation if and only if it meets it. -/
theorem reserved_apply_iff {s : GroupScheduler} (h : s.Reserved) (h₁ : s.OneRestore) (c : Call) :
    (apply c s).Reserved ↔ s.ReservationSafe c :=
  apply_iff_onFirstEvidence h (fun _ _ => reserved_effect h)
    (fun _ _ _ _ => reserved_progress_iff h h₁) c

theorem reserved_init : init.Reserved ∧ init.OneRestore :=
  ⟨fun _ _ hp => absurd hp pendingRestore_init, fun _ _ _ hp => absurd hp pendingRestore_init⟩

/-- A call that meets the condition keeps the reservations, and no lease gets a second RESTORE. -/
theorem reserved_apply {s : GroupScheduler} {c : Call} (h : s.Reserved ∧ s.OneRestore)
    (hP : s.ReservationSafe c) : (apply c s).Reserved ∧ (apply c s).OneRestore :=
  ⟨(reserved_apply_iff h.1 h.2 c).2 hP, oneRestore_effect h.2 h.1 (apply_effect s c)⟩

/-- **Restore reservation.** In every run whose calls meet `ReservationSafe`, from the staging of a
RESTORE to the acceptance of its evidence its lease owns all its claims, and the next call keeps
this exactly when it meets the condition too. -/
theorem restore_reserves {s : GroupScheduler}
    (h : machine.ReachableWhere (fun s c _ => s.ReservationSafe c) s) :
    (∀ op command lease, s.operationCommands.get? op = some command → command.kind = .restore →
      s.leases.get? command.leaseId = some lease →
      s.releaseEvidence.get? (command.leaseId, op) = none → s.allOwned lease command.leaseId) ∧
    ∀ c, (apply c s).Reserved ↔ s.ReservationSafe c := by
  have hI : s.Reserved ∧ s.OneRestore :=
    h.invariant (I := fun s => s.Reserved ∧ s.OneRestore) (fun _ hs => hs ▸ reserved_init)
      fun _ _ _ hI hs hP => hs ▸ reserved_apply hI hP
  refine ⟨fun op command lease hc hk hl hn => ?_, reserved_apply_iff hI.1 hI.2⟩
  obtain ⟨l, hl', ho⟩ := hI.1 _ op ⟨command, hc, hk, rfl, hn⟩
  cases hl.symm.trans hl'
  exact ho

/-- Two REMOVEs are staged, the first is answered, RESTORE `r` is staged, the second is answered. -/
def lateRemove : List Call := opening ++
  [submit (command "d" .donate donorKey), .advanceLease "L" (released "d"),
   submit (command "a" .add borrowerKey), submit (command "m1" .remove borrowerKey),
   submit (command "m2" .remove borrowerKey), .advanceLease "L" (released "m1"),
   submit (command "r" .restore donorKey), .advanceLease "L" (released "m2")]

/-- The late evidence of `m2` frees the GPU that the pending RESTORE `r` reserved. -/
theorem late_remove_unreserves :
    machine.Reachable (Machine.exec apply lateRemove init) ∧
    (Machine.exec apply lateRemove init).PendingRestore "L" "r" ∧
    (Machine.exec apply lateRemove init).activeGpuOwner.get? "gpu" = none ∧
    ¬ (Machine.exec apply lateRemove init).Reserved := by
  have hr : (Machine.exec apply lateRemove init).PendingRestore "L" "r" := by decide +kernel
  have hg : (Machine.exec apply lateRemove init).activeGpuOwner.get? "gpu" = none := by
    decide +kernel
  refine ⟨⟨init, rfl, Machine.run_exec _ _ _ _⟩, hr, hg, fun h => ?_⟩
  obtain ⟨lease, hl, ho⟩ := h "L" "r" hr
  have hc : ((Machine.exec apply lateRemove init).leases.get? "L").map Lease.gpuUuids =
      some ["gpu"] := by decide +kernel
  rw [hl] at hc
  have hm : "gpu" ∈ lease.gpuUuids := by rw [Option.some.inj hc]; simp
  exact not_allOwned_of_gpu hm (by simp [hg]) ho

/-- A lending cycle up to the staging of RESTORE `r`. -/
def restoring : List Call := opening ++
  [submit (command "d" .donate donorKey), .advanceLease "L" (released "d"),
   submit (command "a" .add borrowerKey), submit (command "m" .remove borrowerKey),
   .advanceLease "L" (released "m"), submit (command "r" .restore donorKey)]

theorem restore_reserves_restoring :
    ∃ lease, (Machine.exec apply restoring init).leases.get? "L" = some lease ∧
      (Machine.exec apply restoring init).allOwned lease "L" := by
  have hs : ((Machine.exec apply restoring init).leases.get? "L").isSome = true := by
    decide +kernel
  obtain ⟨lease, hl⟩ := Option.isSome_iff_exists.1 hs
  exact ⟨lease, hl,
    (restore_reserves ⟨init, rfl, Machine.runWhere_exec _ _ _ _ _ (by decide +kernel)⟩).1 "r"
      (command "r" .restore donorKey) lease (by decide +kernel) rfl hl (by decide +kernel)⟩

/-! ## The end of the lease -/

/-- `L` is not handoff-ready, it owns none of its claims, and its last recorded operation is a
RESTORE. -/
structure Ended (s : GroupScheduler) (L : String) (lease : Lease) : Prop where
  lease_eq : s.leases.get? L = some lease
  notReady : L ∉ s.handoffReadyLeases
  noBundle : ∀ b ∈ lease.bundleKeys, s.activeBundleOwner.get? b ≠ some L
  noGpu : ∀ g ∈ lease.gpuUuids, s.activeGpuOwner.get? g ≠ some L
  last : s.lastReleasedKind L = some .restore

/-- No DONATE or REMOVE evidence is recorded first on `L`. -/
def NoLateRelease (L : String) (s : GroupScheduler) : Call → Prop :=
  OnFirstEvidence (fun M _ _ command => M = L → command.kind ≠ .donate ∧ command.kind ≠ .remove) s

instance (L : String) (s : GroupScheduler) (c : Call) : Decidable (NoLateRelease L s c) :=
  inferInstanceAs (Decidable (OnFirstEvidence _ s c))

section
variable {s : GroupScheduler} {L : String} {l : Lease}

theorem releaseHistory_stage (command : OperationCommand) (lease : Lease) :
    (s.stage command lease).releaseHistory = s.releaseHistory := by
  unfold stage; split <;> rfl

/-- A lease whose last operation is known keeps it when another operation is staged. -/
theorem lastReleasedKind_stage {command : OperationCommand} {lease : Lease} {k : OperationKind}
    (h : s.lastReleasedKind L = some k)
    (hnew : s.operationCommands.get? command.operationId = none) :
    (s.stage command lease).lastReleasedKind L = some k := by
  simp only [lastReleasedKind, lastReleased, releaseHistory_stage, operationCommands_stage] at h ⊢
  cases hh : s.releaseHistory.get? L with
  | none => simp [hh] at h
  | some history =>
    cases hl : history.getLast? with
    | none => simp [hh, hl] at h
    | some op =>
      have hne : command.operationId ≠ op := by
        rintro rfl
        simp [hh, hl, hnew] at h
      simpa [hh, hl, Dict.get?_insert, hne] using h

/-- Evidence on one lease leaves the history of every other. -/
theorem lastReleasedKind_progress_ne {lease : Lease} {command : OperationCommand}
    {evidence : OperationEvidence} (hne : command.leaseId ≠ L) :
    (s.progress command lease evidence).lastReleasedKind L = s.lastReleasedKind L := by
  have hh : (s.progress command lease evidence).releaseHistory.get? L = s.releaseHistory.get? L := by
    unfold progress
    split
    · split
      · rfl
      · exact Dict.get?_insert_ne _ _ hne
    all_goals exact Dict.get?_insert_ne _ _ hne
  simp only [lastReleasedKind, lastReleased, hh, operationCommands_progress]

theorem lastReleasedKind_restored {lease : Lease} {evidence : OperationEvidence}
    {command : OperationCommand}
    (h : s.operationCommands.get? evidence.operationId = some command) :
    (s.restored lease L evidence).lastReleasedKind L = some command.kind := by
  simp [lastReleasedKind, lastReleased, restored, freeAll, popBorrower, discardHandoff,
    appendHistory, recordEvidence, h]

/-- A branch of `advance_lease` marks or owns nothing for a lease that it is not about. -/
theorem handoffReady_progress_ne {lease : Lease} {command : OperationCommand}
    {evidence : OperationEvidence} (hne : command.leaseId ≠ L)
    (h : L ∉ s.handoffReadyLeases) :
    L ∉ (s.progress command lease evidence).handoffReadyLeases := by
  unfold progress
  split
  · split
    · exact h
    · exact fun hm => h (Finset.mem_of_mem_erase hm)
  · exact fun hm => h (Finset.mem_of_mem_erase hm)
  · exact fun hm => (Finset.mem_insert.1 hm).elim (Ne.symm hne) h
  · exact fun hm => h (Finset.mem_of_mem_erase hm)

/-- `advance_lease` never gives a claim to anyone. -/
theorem owner_progress (lease : Lease) (command : OperationCommand)
    (evidence : OperationEvidence) :
    (∀ b o, (s.progress command lease evidence).activeBundleOwner.get? b = some o →
      s.activeBundleOwner.get? b = some o) ∧
    ∀ g o, (s.progress command lease evidence).activeGpuOwner.get? g = some o →
      s.activeGpuOwner.get? g = some o := by
  have hfree : ∀ t : GroupScheduler, t.activeBundleOwner = s.activeBundleOwner →
      t.activeGpuOwner = s.activeGpuOwner → ∀ t' : GroupScheduler,
      (t' = t.freeOwned lease command.leaseId ∨ t' = t.freeAll lease ∨ t' = t) →
      (∀ b o, t'.activeBundleOwner.get? b = some o → s.activeBundleOwner.get? b = some o) ∧
        ∀ g o, t'.activeGpuOwner.get? g = some o → s.activeGpuOwner.get? g = some o := by
    rintro t hb hg t' (rfl | rfl | rfl)
    · refine ⟨fun b o h => ?_, fun g o h => ?_⟩ <;>
        simp only [freeOwned, Dict.get?_eraseOwned, hb, hg] at h <;> split at h <;>
        first | cases h | exact h
    · refine ⟨fun b o h => ?_, fun g o h => ?_⟩ <;>
        simp only [freeAll, Dict.get?_eraseAll, hb, hg] at h <;> split at h <;>
        first | cases h | exact h
    · exact ⟨fun b o h => hb ▸ h, fun g o h => hg ▸ h⟩
  unfold progress
  split
  · split
    · exact hfree (s.recordEvidence _ evidence) rfl rfl _ (.inl rfl)
    · exact hfree ((((s.recordEvidence _ evidence).appendHistory _ _).discardHandoff
        _).popBorrower _) rfl rfl _ (.inr (.inl rfl))
  · exact hfree ((((s.recordEvidence _ evidence).appendHistory _ _).popBorrower _).discardHandoff _)
      rfl rfl _ (.inl rfl)
  · exact hfree (s.donated _ evidence) rfl rfl _ (.inr (.inr rfl))
  · exact hfree (((s.recordEvidence _ evidence).appendHistory _ _).discardHandoff _) rfl rfl _
      (.inl rfl)

/-- Staging gives claims to the staged lease only. -/
theorem owner_stage (lease : Lease) {command : OperationCommand} (hne : command.leaseId ≠ L) :
    (∀ b, (s.stage command lease).activeBundleOwner.get? b = some L →
      s.activeBundleOwner.get? b = some L) ∧
    ∀ g, (s.stage command lease).activeGpuOwner.get? g = some L →
      s.activeGpuOwner.get? g = some L := by
  unfold stage
  split
  · exact ⟨fun _ => id, fun _ => id⟩
  · refine ⟨fun b h => ?_, fun g h => ?_⟩ <;>
      simp only [reserve, Dict.get?_insertAll] at h <;> split at h <;>
      first | exact absurd (Option.some.inj h) hne | exact h
  · exact ⟨fun _ => id, fun _ => id⟩

theorem owner_opened {lease : Lease} (hne : lease.leaseId ≠ L) :
    (∀ b, (s.opened lease).activeBundleOwner.get? b = some L →
      s.activeBundleOwner.get? b = some L) ∧
    ∀ g, (s.opened lease).activeGpuOwner.get? g = some L → s.activeGpuOwner.get? g = some L := by
  refine ⟨fun b h => ?_, fun g h => ?_⟩ <;>
    simp only [opened, Dict.get?_insertAll] at h <;> split at h <;>
    first | exact absurd (Option.some.inj h) hne | exact h

theorem not_allOwned_ended (h : s.Ended L l) : ¬ s.allOwned l L := by
  intro ho
  obtain ⟨g, hg⟩ := l.exists_gpu
  exact h.noGpu g hg (ho.2 g hg)

/-- What the acceptance of SERVICE_COMMITTED for a RESTORE leaves. -/
theorem ended_restored {lease : Lease} {command : OperationCommand} {evidence : OperationEvidence}
    (hf : FirstEvidence s L evidence lease command) (hk : command.kind = .restore)
    (ht : evidence.type = .serviceCommitted) : (s.progress command lease evidence).Ended L lease := by
  have hp : s.progress command lease evidence = s.restored lease L evidence := by
    simp [progress, hk, ht, hf.leaseId_eq]
  rw [hp]
  refine ⟨hf.lease_eq, Finset.notMem_erase _ _, fun b hb => ?_, fun g hg => ?_, ?_⟩
  · simp [restored, freeAll, Dict.get?_eraseAll, hb]
  · simp [restored, freeAll, Dict.get?_eraseAll, hg]
  · rw [lastReleasedKind_restored hf.command_eq, hk]

theorem ended_opened {lease : Lease} (h : s.Ended L l)
    (hnew : s.leases.get? lease.leaseId = none) : (s.opened lease).Ended L l := by
  have hne : lease.leaseId ≠ L := fun e => by rw [e, h.lease_eq] at hnew; cases hnew
  obtain ⟨hb, hg⟩ := owner_opened (s := s) hne
  refine ⟨by simpa [opened, Dict.get?_insert, hne] using h.lease_eq, h.notReady,
    fun b hm e => h.noBundle b hm (hb b e), fun g hm e => h.noGpu g hm (hg g e), ?_⟩
  simpa [lastReleasedKind, lastReleased, opened, Dict.get?_setDefault, hne] using h.last

theorem ended_stage {command : OperationCommand} {lease : Lease} (h : s.Ended L l)
    (hnew : s.operationCommands.get? command.operationId = none) (ha : Admitted s command lease) :
    (s.stage command lease).Ended L l := by
  have hne : command.leaseId ≠ L := by
    rintro rfl
    exact ha.notClosed h.last
  obtain ⟨hb, hg⟩ := owner_stage (s := s) lease hne
  exact ⟨by rw [leases_stage]; exact h.lease_eq, by rw [handoffReady_stage]; exact h.notReady,
    fun b hm e => h.noBundle b hm (hb b e), fun g hm e => h.noGpu g hm (hg g e),
    lastReleasedKind_stage h.last hnew⟩

theorem ended_progress {M : String} {command : OperationCommand} {lease : Lease}
    {evidence : OperationEvidence} (h : s.Ended L l)
    (hf : FirstEvidence s M evidence lease command)
    (hP : M = L → command.kind ≠ .donate ∧ command.kind ≠ .remove) :
    (s.progress command lease evidence).Ended L l := by
  obtain ⟨hl, -, rfl, -, p, hp⟩ := hf
  have hne : command.leaseId ≠ L := by
    rintro rfl
    cases hl.symm.trans h.lease_eq
    cases hk : command.kind with
    | donate => exact (hP rfl).1 hk
    | remove => exact (hP rfl).2 hk
    | add => exact h.notReady (progressCheck_add hk hp).2.2.1
    | restore => exact not_allOwned_ended h (progressCheck_restore hk hp).2
  obtain ⟨hb, hg⟩ := owner_progress (s := s) lease command evidence
  exact ⟨by rw [leases_progress]; exact h.lease_eq, handoffReady_progress_ne hne h.notReady,
    fun b hm e => h.noBundle b hm (hb b _ e), fun g hm e => h.noGpu g hm (hg g _ e),
    by rw [lastReleasedKind_progress_ne hne]; exact h.last⟩

/-- A lease that has ended accepts no operation id that is not recorded. -/
theorem Ended.rejects (h : s.Ended L l) {command : OperationCommand} (hL : command.leaseId = L)
    (hnew : s.operationCommands.get? command.operationId = none) (now : Clock)
    (reply : DispatchReply) : ∃ e, s.submitOperation command now reply = (.error e, s) := by
  unfold submitOperation
  split
  · exact ⟨_, rfl⟩
  · rename_i lease ha
    obtain ⟨-, -, hp | ⟨-, ha⟩⟩ := submitCheck_ok ha
    · rw [hnew] at hp; cases hp
    · subst hL
      exact absurd h.last ha.notClosed

end

/-- One call keeps a lease ended unless it records late DONATE or REMOVE evidence on it. -/
theorem ended_effect {s s' : GroupScheduler} {L : String} {l : Lease} {c : Call}
    (h : s.Ended L l) (he : Effect s c s') (hP : NoLateRelease L s c) : s'.Ended L l := by
  cases he with
  | unchanged => exact h
  | registered => exact ⟨h.lease_eq, h.notReady, h.noBundle, h.noGpu, h.last⟩
  | opened l' lease hcopy hnew hfree => exact ended_opened h hnew
  | staged command now reply lease hl hnew ha => exact ended_stage h hnew ha
  | progressed M evidence lease command hf =>
    exact ended_progress h hf (hP lease command (firstEvidence?_eq_some_iff.2 hf))

/-- **One-shot lease.** From the acceptance of SERVICE_COMMITTED for a RESTORE on `L` on, in every
run that records no DONATE or REMOVE evidence on `L` afterwards, `L` is not handoff-ready, owns none
of its claims, and `submit_operation` accepts no new operation id for it. -/
theorem restore_ends {s u : GroupScheduler} {L : String} {evidence : OperationEvidence}
    {command : OperationCommand} {r : AdvanceResult}
    (hc : s.operationCommands.get? evidence.operationId = some command)
    (hk : command.kind = .restore) (ht : evidence.type = .serviceCommitted)
    (hnew : s.releaseEvidence.get? (L, evidence.operationId) = none)
    (hacc : (advanceLease L evidence s).1 = .ok r)
    (hrun : machine.RunWhere (fun s c _ => NoLateRelease L s c)
      (apply (.advanceLease L evidence) s) u) :
    ∃ lease, u.leases.get? L = some lease ∧ L ∉ u.handoffReadyLeases ∧
      (∀ b ∈ lease.bundleKeys, u.activeBundleOwner.get? b ≠ some L) ∧
      (∀ g ∈ lease.gpuUuids, u.activeGpuOwner.get? g ≠ some L) ∧
      ∀ cmd now reply, cmd.leaseId = L → u.operationCommands.get? cmd.operationId = none →
        ∃ e, u.submitOperation cmd now reply = (.error e, u) := by
  obtain ⟨lease, cmd, hf⟩ : ∃ lease cmd, s.firstEvidence? L evidence = some (lease, cmd) := by
    unfold advanceLease at hacc
    split at hacc
    · cases hacc
    · rename_i lease cmd hl
      simp only [hnew] at hacc
      split at hacc
      · cases hacc
      · rename_i p hp
        exact ⟨lease, cmd, by simp [firstEvidence?, hl, hnew, hp]⟩
  have hfe := firstEvidence?_eq_some hf
  cases hc.symm.trans hfe.command_eq
  have h₀ : (apply (.advanceLease L evidence) s).Ended L lease := by
    rw [apply_advanceLease, hf]
    exact ended_restored hfe hk ht
  have h : u.Ended L lease :=
    hrun.invariant (fun s c s' hI hs hP => hs ▸ ended_effect hI (apply_effect s c) hP) h₀
  exact ⟨lease, h.lease_eq, h.notReady, h.noBundle, h.noGpu,
    fun cmd now reply hL hn => h.rejects hL hn now reply⟩

/-- Two DONATEs are staged, the first is answered, the ADD rolls back and RESTORE `r` is staged. -/
def reopening : List Call := opening ++
  [submit (command "d1" .donate donorKey), submit (command "d2" .donate donorKey),
   .advanceLease "L" (released "d1"), submit (command "a" .add borrowerKey),
   .advanceLease "L" (released "a"), submit (command "r" .restore donorKey)]

/-- `r` commits; the late evidence of `d2` then makes the lease handoff-ready again, and
`submit_operation` accepts the new operation `a2` on it. -/
theorem late_donate_reopens :
    machine.Reachable (Machine.exec apply reopening init) ∧
    (advanceLease "L" (committed "r") (Machine.exec apply reopening init)).1 =
      .ok ⟨"L", "r", .restored⟩ ∧
    machine.Run (apply (.advanceLease "L" (committed "r")) (Machine.exec apply reopening init))
      (Machine.exec apply (reopening ++ [.advanceLease "L" (committed "r"),
        .advanceLease "L" (released "d2")]) init) ∧
    "L" ∈ (Machine.exec apply (reopening ++ [.advanceLease "L" (committed "r"),
      .advanceLease "L" (released "d2")]) init).handoffReadyLeases ∧
    ((Machine.exec apply (reopening ++ [.advanceLease "L" (committed "r"),
      .advanceLease "L" (released "d2")]) init).submitCheck
        (command "a2" .add borrowerKey) ⟨0, 0⟩).isOk = true := by
  refine ⟨⟨init, rfl, Machine.run_exec _ _ _ _⟩, by decide +kernel, ?_, by decide +kernel,
    by decide +kernel⟩
  exact .single (M := machine) (l := .advanceLease "L" (released "d2"))
    (by simp [machine, Machine.ofFun, Machine.exec]) trivial

/-- A lending cycle without a late answer ends the lease. -/
theorem restore_ends_restoring :
    ∃ lease, (apply (.advanceLease "L" (released "d"))
        (apply (.advanceLease "L" (committed "r"))
          (Machine.exec apply restoring init))).leases.get? "L" = some lease := by
  have hrun := Machine.runWhere_exec (· = init) (NoLateRelease "L") apply
    [.advanceLease "L" (released "d")]
    (apply (.advanceLease "L" (committed "r")) (Machine.exec apply restoring init))
    (by decide +kernel)
  obtain ⟨lease, hl, -⟩ := @restore_ends _ _ "L" (committed "r") (command "r" .restore donorKey)
    ⟨"L", "r", .restored⟩ (by decide +kernel) rfl rfl (by decide +kernel) (by decide +kernel) hrun
  exact ⟨lease, hl⟩

end ReplicaLending.GroupScheduler
