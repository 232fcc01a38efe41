import ReplicaLending.Library.Allocation
import ReplicaLending.Scheduler.HandOff
/-!
# The ownership ledger

The three ownership maps of the scheduler as one all-or-nothing allocation: a resource is a bundle
or a GPU, a holder is an opened lease and claims the resources of its lease. Every write of the
scheduler is one update of the allocation.

| here | there |
| --- | --- |
| `Allocation.register`, `take` | `open_lease` (group_scheduler.py:295-302) |
| `Allocation.take`             | the reservation of a staged RESTORE (:237-240) |
| `Allocation.giveBack`         | `if owner == lease_id: pop` in `advance_lease` |
| `Allocation.clear`            | the unconditional `pop` of a completed RESTORE (:387-390) |
-/

namespace ReplicaLending.GroupScheduler

/-- What a lease claims and the ledger gives away: a placement-group bundle or a GPU. -/
inductive Resource
  | bundle (key : String × Nat)
  | gpu (uuid : String)

/-- `lease.bundle_keys` and `lease.gpu_uuids`. -/
def resources (lease : Lease) : Set Resource := fun
  | .bundle b => b ∈ lease.bundleKeys
  | .gpu g => g ∈ lease.gpuUuids

@[simp] theorem bundle_mem_resources {lease : Lease} {b : String × Nat} :
    .bundle b ∈ resources lease ↔ b ∈ lease.bundleKeys := Iff.rfl

@[simp] theorem gpu_mem_resources {lease : Lease} {g : String} :
    .gpu g ∈ resources lease ↔ g ∈ lease.gpuUuids := Iff.rfl

/-- `active_bundle_owner` and `active_gpu_owner`. -/
def ownerOf (s : GroupScheduler) : Resource → Option String
  | .bundle b => s.activeBundleOwner.get? b
  | .gpu g => s.activeGpuOwner.get? g

/-- The scheduler's tables as an allocation. -/
def allocation (s : GroupScheduler) : Allocation Resource String where
  owner := s.ownerOf
  claims L := (s.leases.get? L).map resources

variable {s : GroupScheduler} {lease : Lease} {L : String}

theorem allocation_ext {A B : Allocation Resource String}
    (hb : ∀ b, A.owner (.bundle b) = B.owner (.bundle b))
    (hg : ∀ g, A.owner (.gpu g) = B.owner (.gpu g)) (hc : ∀ L, A.claims L = B.claims L) : A = B := by
  obtain ⟨Ao, Ac⟩ := A
  obtain ⟨Bo, Bc⟩ := B
  congr 1
  · funext r
    cases r with
    | bundle b => exact hb b
    | gpu g => exact hg g
  · funext L
    exact hc L

theorem ownsAll_iff : s.allocation.OwnsAll L (resources lease) ↔ s.allOwned lease L :=
  ⟨fun h => ⟨fun b hb => h (.bundle b) hb, fun g hg => h (.gpu g) hg⟩,
    fun ⟨hb, hg⟩ r hr => match r, hr with
      | .bundle b, hr => hb b hr
      | .gpu g, hr => hg g hr⟩

/-- `lease` owns no bundle and no GPU. -/
def ownsNothing (s : GroupScheduler) (lease : Lease) (leaseId : String) : Prop :=
  (∀ b ∈ lease.bundleKeys, s.activeBundleOwner.get? b ≠ some leaseId) ∧
    ∀ g ∈ lease.gpuUuids, s.activeGpuOwner.get? g ≠ some leaseId

theorem ownsNone_iff : s.allocation.OwnsNone L (resources lease) ↔ s.ownsNothing lease L :=
  ⟨fun h => ⟨fun b hb => h (.bundle b) hb, fun g hg => h (.gpu g) hg⟩,
    fun ⟨hb, hg⟩ r hr => match r, hr with
      | .bundle b, hr => hb b hr
      | .gpu g, hr => hg g hr⟩

/-! ## The writes as updates of the allocation -/

theorem allocation_reserve :
    (s.reserve lease L).allocation = s.allocation.take L (resources lease) := by
  refine allocation_ext (fun b => ?_) (fun g => ?_) fun _ => rfl <;>
    simp [allocation, ownerOf, reserve, Allocation.take, Dict.get?_insertAll]

theorem allocation_freeOwned :
    (s.freeOwned lease L).allocation = s.allocation.giveBack L (resources lease) := by
  refine allocation_ext (fun b => ?_) (fun g => ?_) fun _ => rfl <;>
    simp [allocation, ownerOf, freeOwned, Allocation.giveBack, Dict.get?_eraseOwned]

theorem allocation_freeAll :
    (s.freeAll lease).allocation = s.allocation.clear (resources lease) := by
  refine allocation_ext (fun b => ?_) (fun g => ?_) fun _ => rfl <;>
    simp [allocation, ownerOf, freeAll, Allocation.clear, Dict.get?_eraseAll]

theorem allocation_opened :
    (s.opened lease).allocation =
      (s.allocation.register lease.leaseId (resources lease)).take lease.leaseId
        (resources lease) := by
  refine allocation_ext (fun b => ?_) (fun g => ?_) fun M => ?_
  · simp [allocation, ownerOf, opened, Allocation.take, Allocation.register, Dict.get?_insertAll]
  · simp [allocation, ownerOf, opened, Allocation.take, Allocation.register, Dict.get?_insertAll]
  · by_cases hM : M = lease.leaseId
    · subst hM
      simp [allocation, opened, Allocation.take, Allocation.register]
    · simp [allocation, opened, Allocation.take, Allocation.register,
        Dict.get?_insert_ne _ _ (Ne.symm hM), hM]

theorem allocation_stage {command : OperationCommand} :
    (s.stage command lease).allocation =
      if command.kind = .restore then s.allocation.take command.leaseId (resources lease)
      else s.allocation := by
  unfold stage
  cases hk : command.kind with
  | restore => exact allocation_reserve
  | add => rfl
  | donate => rfl
  | remove => rfl

/-- First evidence changes no ownership (DONATE) or gives back what the lease owned. -/
theorem allocation_progress {command : OperationCommand} {evidence : OperationEvidence}
    (hf : FirstEvidence s L evidence lease command) :
    (s.progress command lease evidence).allocation =
      if command.kind = .donate then s.allocation else s.allocation.giveBack L (resources lease) := by
  obtain rfl := hf.leaseId_eq
  unfold progress
  cases hk : command.kind with
  | donate => rfl
  | remove => exact allocation_freeOwned
  | add => exact allocation_freeOwned
  | restore =>
    obtain ⟨p, hp⟩ := hf.progressed
    obtain ⟨-, ho⟩ := progressCheck_restore hk hp
    dsimp only
    split
    · exact allocation_freeOwned
    · exact allocation_freeAll.trans (ownsAll_iff.2 ho).clear_eq

/-! ## The invariant -/

theorem sound_init : init.allocation.Sound where
  claimed {r _} h := by cases r <;> cases h
  whole h := by cases h

theorem sound_opened (h : s.allocation.Sound) (hnew : s.leases.get? lease.leaseId = none)
    (hc : s.openLeaseCheck lease = .ok ()) : (s.opened lease).allocation.Sound := by
  obtain ⟨hb, hg⟩ := openLeaseCheck_ok hc
  have hn : s.allocation.claims lease.leaseId = none := by simp [allocation, hnew]
  rw [allocation_opened]
  refine (h.register hn).take (by simp [Allocation.register]) fun r hr => ?_
  -- no other lease owns the resource, by the conflict check
  cases ho : s.ownerOf r with
  | none => exact .inl ho
  | some o =>
    refine .inr (ho.trans ?_)
    cases r with
    | bundle b => rw [hb b hr o ho]
    | gpu g => rw [hg g hr o ho]

theorem sound_stage {command : OperationCommand} (h : s.allocation.Sound)
    (hl : s.leases.get? command.leaseId = some lease) (ha : Admitted s command lease) :
    (s.stage command lease).allocation.Sound := by
  rw [allocation_stage]
  split
  · rename_i hk
    obtain ⟨-, -, hg, hb⟩ := ha.restore hk
    refine h.take (by simp [allocation, hl]) fun r hr => .inl ?_
    cases r with
    | bundle b => exact hb b hr
    | gpu g => exact hg g hr
  · exact h

theorem sound_progress {command : OperationCommand} {evidence : OperationEvidence}
    (h : s.allocation.Sound) (hf : FirstEvidence s L evidence lease command) :
    (s.progress command lease evidence).allocation.Sound := by
  rw [allocation_progress hf]
  split
  · exact h
  · exact h.giveBack (by simp [allocation, hf.lease_eq])

theorem sound_effect {s' : GroupScheduler} {c : Call} (h : s.allocation.Sound)
    (he : Effect s c s') : s'.allocation.Sound := by
  cases he with
  | unchanged => exact h
  | registered => exact h
  | opened l lease hcopy hnew hfree => exact sound_opened h hnew hfree
  | staged command now reply lease hl hnew ha => exact sound_stage h hl ha
  | progressed leaseId evidence lease command hf => exact sound_progress h hf

theorem sound_reachable (h : machine.Reachable s) : s.allocation.Sound := by
  refine h.invariant (I := fun s => s.allocation.Sound) (fun s hs => ?_) fun s c s' hs hstep _ => ?_
  · cases hs; exact sound_init
  · cases hstep; exact sound_effect hs (apply_effect s c)

/-! ## Claim ids -/

theorem claimIdOwner_stage (command : OperationCommand) :
    (s.stage command lease).claimIdOwner = s.claimIdOwner := by
  unfold stage; split <;> rfl

theorem claimIdOwner_progress (command : OperationCommand) (evidence : OperationEvidence) :
    (s.progress command lease evidence).claimIdOwner = s.claimIdOwner := by
  unfold progress
  split
  · split <;> rfl
  all_goals rfl

/-- A claim id, once given to a lease, stays with it. -/
theorem Effect.claimIdOwner {c : Call} {s' : GroupScheduler} {claimId : String}
    (he : Effect s c s') (h : s.claimIdOwner.get? claimId = some L) :
    s'.claimIdOwner.get? claimId = some L := by
  cases he with
  | unchanged => exact h
  | registered => exact h
  | opened l lease hcopy hnew hfree =>
    simp only [openLeaseCheck, check_bind_ok] at hfree
    simp only [GroupScheduler.opened, Dict.get?_insertAll]
    split
    · rename_i hm; rw [hfree.1 claimId hm L h]
    · exact h
  | staged => rw [claimIdOwner_stage]; exact h
  | progressed => rw [claimIdOwner_progress]; exact h

/-! ## `open_lease` -/

theorem copyLease_isOk (l : Lease) : ∃ m, copyLease l = .ok m := l.make_isOk

/-- `open_lease` raises only from its checks, before the first write. -/
theorem openLease_error {e : PyErr} (h : (openLease lease s).1 = .error e) :
    (openLease lease s).2 = s := by
  unfold openLease at h ⊢
  split
  · split <;> rfl
  · rename_i hnew
    simp only [hnew] at h
    obtain ⟨m, hm⟩ := copyLease_isOk lease
    simp only [hm] at h ⊢
    cases hc : s.openLeaseCheck m with
    | error e => rfl
    | ok u =>
      simp only [hc] at h
      obtain ⟨m', hm'⟩ := copyLease_isOk m
      rw [hm'] at h
      cases h

/-- A replay of an equal lease answers with a copy of it and writes nothing. -/
theorem openLease_replay {existing : Lease} (hl : s.leases.get? lease.leaseId = some existing)
    (he : existing.same lease = true) : ∃ m, openLease lease s = (.ok m, s) := by
  obtain ⟨m, hm⟩ := copyLease_isOk existing
  exact ⟨m, by simp only [openLease, hl, he, if_true, hm]⟩

/-- The ledger is consistent in every reachable state: owners are opened leases that claim what
they own, a lease owns all of its claims or none, no two leases share a resource, a claim id never
changes hands, and `open_lease` is all or nothing. -/
theorem ledger_consistent {s : GroupScheduler} (h : machine.Reachable s) :
    (∀ b L, s.activeBundleOwner.get? b = some L →
      ∃ lease, s.leases.get? L = some lease ∧ b ∈ lease.bundleKeys) ∧
    (∀ g L, s.activeGpuOwner.get? g = some L →
      ∃ lease, s.leases.get? L = some lease ∧ g ∈ lease.gpuUuids) ∧
    (∀ L lease, s.leases.get? L = some lease → s.allOwned lease L ∨ s.ownsNothing lease L) ∧
    (∀ L L' lease lease', s.leases.get? L = some lease → s.leases.get? L' = some lease' → L ≠ L' →
      (∀ b ∈ lease.bundleKeys, b ∈ lease'.bundleKeys →
        ¬ (s.activeBundleOwner.get? b = some L ∧ s.activeBundleOwner.get? b = some L')) ∧
      (∀ g ∈ lease.gpuUuids, g ∈ lease'.gpuUuids →
        ¬ (s.activeGpuOwner.get? g = some L ∧ s.activeGpuOwner.get? g = some L')) ∧
      (s.allOwned lease L → s.allOwned lease' L' →
        (∀ b ∈ lease.bundleKeys, b ∉ lease'.bundleKeys) ∧
          ∀ g ∈ lease.gpuUuids, g ∉ lease'.gpuUuids)) ∧
    (∀ claimId L t, s.claimIdOwner.get? claimId = some L → machine.Run s t →
      t.claimIdOwner.get? claimId = some L) ∧
    (∀ lease e, (openLease lease s).1 = .error e → (openLease lease s).2 = s) ∧
    ∀ lease existing, s.leases.get? lease.leaseId = some existing → existing.same lease = true →
      ∃ m, openLease lease s = (.ok m, s) := by
  have hs := sound_reachable h
  refine ⟨fun b L hb => ?_, fun g L hg => ?_, fun L lease hl => ?_, ?_, ?_, ?_, ?_⟩
  · obtain ⟨c, hc, hm⟩ := hs.claimed (r := .bundle b) hb
    obtain ⟨lease, hl, rfl⟩ := Option.map_eq_some_iff.1 hc
    exact ⟨lease, hl, hm⟩
  · obtain ⟨c, hc, hm⟩ := hs.claimed (r := .gpu g) hg
    obtain ⟨lease, hl, rfl⟩ := Option.map_eq_some_iff.1 hc
    exact ⟨lease, hl, hm⟩
  · have hc : s.allocation.claims L = some (resources lease) := by simp [allocation, hl]
    exact (hs.whole hc).imp ownsAll_iff.1 ownsNone_iff.1
  · intro L L' lease lease' _ _ hne
    refine ⟨fun b _ _ hb => hne ?_, fun g _ _ hg => hne ?_, fun ho ho' => allOwned_disjoint ho ho' hne⟩
    · exact Option.some.inj (hb.1.symm.trans hb.2)
    · exact Option.some.inj (hg.1.symm.trans hg.2)
  · intro claimId L t hc hrun
    refine hrun.invariant (I := fun u => u.claimIdOwner.get? claimId = some L)
      (fun u c u' hu hstep _ => ?_) hc
    cases hstep
    exact (apply_effect u c).claimIdOwner hu
  · exact fun lease e he => openLease_error he
  · exact fun lease existing hl he => openLease_replay hl he

/-- The claim id of a lease that is lent out still belongs to it. -/
theorem ledger_consistent_lent :
    (Machine.exec apply [submit (command "d1" .donate donorKey), .advanceLease "L" (released "d1")]
      (Machine.exec apply opening init)).claimIdOwner.get? "claim" = some "L" :=
  (ledger_consistent ⟨init, rfl, Machine.run_exec _ _ _ _⟩).2.2.2.2.1 "claim" "L" _
    (by decide +kernel) (Machine.run_exec _ _ _ _)

end ReplicaLending.GroupScheduler
