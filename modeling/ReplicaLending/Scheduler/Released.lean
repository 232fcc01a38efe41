import ReplicaLending.Scheduler.Ledger
import ReplicaLending.Scheduler.Replay
/-!
# What released evidence leaves

Evidence of an ADD, a REMOVE or a RESTORE gives the claims of its lease back. From then on the lease
owns nothing, unless a later RESTORE has reserved the claims again and is still open.
-/

namespace ReplicaLending.GroupScheduler

variable {s t : GroupScheduler} {L o : String} {lease : Lease} {evidence : OperationEvidence}

/-- A RESTORE of the lease is staged and has not been answered with evidence. -/
def Reopened (s : GroupScheduler) (L : String) : Prop :=
  ∃ command, s.operationCommands.get? command.operationId = some command ∧
    command.kind = .restore ∧ command.leaseId = L ∧
    s.releaseEvidence.get? (L, command.operationId) = none

/-- The tables know what the evidence is about, and what it gave back is not owned for it. -/
structure Accounted (s : GroupScheduler) : Prop where
  named : ∀ {L lease}, s.leases.get? L = some lease → lease.leaseId = L
  keyed : ∀ {o command}, s.operationCommands.get? o = some command → command.operationId = o
  leased : ∀ {o command}, s.operationCommands.get? o = some command →
    ∃ lease, s.leases.get? command.leaseId = some lease
  known : ∀ {L o evidence}, s.releaseEvidence.get? (L, o) = some evidence →
    ∃ command, s.operationCommands.get? o = some command ∧ command.leaseId = L
  freed : ∀ {L o evidence command lease}, s.releaseEvidence.get? (L, o) = some evidence →
    s.operationCommands.get? o = some command → command.kind ≠ .donate →
    s.leases.get? L = some lease → s.ownsNothing lease L ∨ s.Reopened L

theorem accounted_init : Accounted init := ⟨nofun, nofun, nofun, nofun, nofun⟩

theorem Accounted.opened (h : Accounted s) (hnew : s.leases.get? lease.leaseId = none) :
    Accounted (s.opened lease) where
  named {L l} hl := by
    have hl' : (s.leases.insert lease.leaseId lease).get? L = some l := hl
    rw [Dict.get?_insert] at hl'
    split at hl'
    · rename_i hL; cases hl'; exact hL
    · exact h.named hl'
  keyed := h.keyed
  leased {o command} hc := by
    obtain ⟨l, hl⟩ := h.leased hc
    have hne : lease.leaseId ≠ command.leaseId := by
      intro he
      rw [he, hl] at hnew
      cases hnew
    exact ⟨l, (Dict.get?_insert_ne _ _ hne).trans hl⟩
  known := h.known
  freed {L o ev command l} he hc hk hl := by
    have he' : s.releaseEvidence.get? (L, o) = some ev := he
    obtain ⟨command', hc', rfl⟩ := h.known he'
    obtain ⟨l', hl'⟩ := h.leased hc'
    have hne : lease.leaseId ≠ command'.leaseId := by
      intro he
      rw [he, hl'] at hnew
      cases hnew
    have hl₀ : s.leases.get? command'.leaseId = some l := by
      have hl₁ : (s.leases.insert lease.leaseId lease).get? command'.leaseId = some l := hl
      rwa [Dict.get?_insert_ne _ _ hne] at hl₁
    refine (h.freed he' hc hk hl₀).imp (fun hn => ownsNone_iff.1 ?_) id
    rw [allocation_opened]
    exact Allocation.OwnsNone.take (A := s.allocation.register _ _) (ownsNone_iff.2 hn) hne.symm

theorem Reopened.stage {command : OperationCommand}
    (hnew : s.operationCommands.get? command.operationId = none) (hr : s.Reopened L) :
    (s.stage command lease).Reopened L := by
  obtain ⟨c, hc, hk, hL, he⟩ := hr
  have hne : command.operationId ≠ c.operationId := by
    intro h
    rw [h, hc] at hnew
    cases hnew
  refine ⟨c, ?_, hk, hL, by rw [releaseEvidence_stage]; exact he⟩
  rw [operationCommands_stage, Dict.get?_insert_ne _ _ hne]
  exact hc

theorem Accounted.staged (h : Accounted s) {command : OperationCommand}
    (hl : s.leases.get? command.leaseId = some lease)
    (hnew : s.operationCommands.get? command.operationId = none) :
    Accounted (s.stage command lease) where
  named hl' := h.named (by rwa [leases_stage] at hl')
  keyed {o c} hc := by
    rw [operationCommands_stage, Dict.get?_insert] at hc
    split at hc
    · rename_i ho; cases hc; exact ho
    · exact h.keyed hc
  leased {o c} hc := by
    rw [leases_stage]
    rw [operationCommands_stage, Dict.get?_insert] at hc
    split at hc
    · cases hc; exact ⟨lease, hl⟩
    · exact h.leased hc
  known {L o ev} he := by
    rw [releaseEvidence_stage] at he
    obtain ⟨c, hc, hL⟩ := h.known he
    have hne : command.operationId ≠ o := by
      rintro rfl
      rw [hc] at hnew
      cases hnew
    exact ⟨c, by rw [operationCommands_stage, Dict.get?_insert_ne _ _ hne]; exact hc, hL⟩
  freed {L o ev c l} he hc hk hl' := by
    rw [releaseEvidence_stage] at he
    rw [leases_stage] at hl'
    obtain ⟨c', hc', -⟩ := h.known he
    have hne : command.operationId ≠ o := by
      rintro rfl
      rw [hc'] at hnew
      cases hnew
    rw [operationCommands_stage, Dict.get?_insert_ne _ _ hne] at hc
    rcases h.freed he hc hk hl' with hn | hr
    · by_cases hrestore : command.kind = .restore ∧ command.leaseId = L
      · -- the claims are reserved again, for `command`
        refine .inr ⟨command, ?_, hrestore.1, hrestore.2, ?_⟩
        · rw [operationCommands_stage, Dict.get?_insert_self]
        · rw [releaseEvidence_stage]
          cases hev : s.releaseEvidence.get? (L, command.operationId) with
          | none => rfl
          | some ev' =>
            obtain ⟨c'', hc'', -⟩ := h.known hev
            rw [hnew] at hc''
            cases hc''
      · refine .inl (ownsNone_iff.1 ?_)
        rw [allocation_stage]
        split
        · rename_i hk'
          exact Allocation.OwnsNone.take (ownsNone_iff.2 hn) fun hL => hrestore ⟨hk', hL.symm⟩
        · exact ownsNone_iff.2 hn
    · exact .inr (hr.stage hnew)

theorem Accounted.progressed (h : Accounted s) {command : OperationCommand}
    (hf : FirstEvidence s L evidence lease command) :
    Accounted (s.progress command lease evidence) where
  named hl' := h.named (by rwa [leases_progress] at hl')
  keyed hc := by rw [operationCommands_progress] at hc; exact h.keyed hc
  leased hc := by
    rw [operationCommands_progress] at hc
    rw [leases_progress]
    exact h.leased hc
  known {M o ev} he := by
    rw [releaseEvidence_progress, Dict.get?_insert] at he
    rw [operationCommands_progress]
    split at he
    · rename_i hk
      obtain ⟨rfl, rfl⟩ := Prod.mk.inj hk
      exact ⟨command, hf.command_eq, rfl⟩
    · exact h.known he
  freed {M o ev c l} he hc hk hl := by
    rw [operationCommands_progress] at hc
    rw [leases_progress] at hl
    rw [releaseEvidence_progress, hf.leaseId_eq, Dict.get?_insert] at he
    have halloc := allocation_progress hf
    by_cases hM : M = L ∧ command.kind ≠ .donate
    · -- the evidence gives back what this lease owns
      obtain ⟨rfl, hd⟩ := hM
      rw [hf.lease_eq] at hl
      cases hl
      refine .inl (ownsNone_iff.1 ?_)
      rw [halloc, if_neg hd]
      exact Allocation.ownsNone_giveBack
    have hold : s.ownsNothing l M ∨ s.Reopened M := by
      split at he
      · rename_i hkey
        obtain ⟨rfl, rfl⟩ := Prod.mk.inj hkey
        rw [hf.command_eq] at hc
        cases hc
        exact absurd ⟨rfl, hk⟩ hM
      · exact h.freed he hc hk hl
    rcases hold with hn | ⟨c', hc', hk', hL', he'⟩
    · refine .inl (ownsNone_iff.1 ?_)
      rw [halloc]
      split
      · exact ownsNone_iff.2 hn
      · exact Allocation.OwnsNone.giveBack (ownsNone_iff.2 hn)
    · refine .inr ⟨c', by rw [operationCommands_progress]; exact hc', hk', hL', ?_⟩
      have hne : (L, evidence.operationId) ≠ (M, c'.operationId) := by
        intro hkey
        obtain ⟨rfl, ho⟩ := Prod.mk.inj hkey
        have hd : command.kind = .donate := not_not.1 fun hd => hM ⟨rfl, hd⟩
        rw [← ho, hf.command_eq] at hc'
        cases hc'
        rw [hd] at hk'
        cases hk'
      rw [releaseEvidence_progress, hf.leaseId_eq, Dict.get?_insert_ne _ _ hne]
      exact he'

theorem Accounted.effect {c : Call} (h : Accounted s) (he : Effect s c t) : Accounted t := by
  cases he with
  | unchanged => exact h
  | registered => exact ⟨h.named, h.keyed, h.leased, h.known, h.freed⟩
  | opened l lease hcopy hnew => exact h.opened hnew
  | staged command now reply lease hl hnew => exact h.staged hl hnew
  | progressed L evidence lease command hf => exact h.progressed hf

end ReplicaLending.GroupScheduler
