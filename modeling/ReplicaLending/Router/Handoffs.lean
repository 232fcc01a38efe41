import ReplicaLending.Router.Coherence
import ReplicaLending.Router.Continuation
/-!
# Who is admitted on a drained server

Nobody new is admitted on a server outside the pool, and the handoffs of a drain are of requests that
were admitted on the server it drains.
-/

namespace ReplicaLending

namespace GlobalRequestLoadBalancer

variable {lb : GlobalRequestLoadBalancer} {x r o : String} {l : RouterCall}

/-- The request is ADMITTED on the server. -/
def AdmittedOn (lb : GlobalRequestLoadBalancer) (x r : String) : Prop :=
  lb.activeRequestServer.get? r = some x ∧ lb.attemptState.get? r = some .admitted

/-- The requests of `requests_for_server` that are ADMITTED. -/
def admittedOn (lb : GlobalRequestLoadBalancer) (x : String) : List String :=
  (lb.requestsForServer x).filter fun r => lb.attemptState.get? r = some .admitted

theorem requestsForServer_iff : r ∈ lb.requestsForServer x ↔ lb.activeRequestServer.get? r = some x := by
  refine ⟨fun h => ?_, mem_requestsForServer⟩
  obtain ⟨⟨r', y⟩, he, rfl⟩ := List.mem_map.1 h
  obtain ⟨he, hy⟩ := List.mem_filter.1 he
  rw [decide_eq_true_iff] at hy
  exact (Dict.mem_entries.1 he).trans (congrArg some hy)

theorem mem_admittedOn : r ∈ lb.admittedOn x ↔ lb.AdmittedOn x r := by
  unfold admittedOn AdmittedOn
  rw [List.mem_filter, requestsForServer_iff, decide_eq_true_iff]

theorem nodup_admittedOn : (lb.admittedOn x).Nodup := nodup_requestsForServer.filter _

theorem hasUnsettledRequests_eq_false :
    lb.hasUnsettledRequests x = false ↔ ∀ r, ¬ lb.AdmittedOn x r := by
  rw [hasUnsettledRequests_iff]
  exact ⟨fun h r hr => h r hr.1 hr.2, fun h r ha hs => h r ⟨ha, hs⟩⟩

theorem StillAdmitted.admittedOn {lb' : GlobalRequestLoadBalancer} (h : StillAdmitted lb lb')
    (hr : lb'.AdmittedOn x r) : lb.AdmittedOn x r :=
  ⟨(h r hr.2).2.symm.trans hr.1, (h r hr.2).1⟩

theorem SameProofs.stillAdmitted {lb' : GlobalRequestLoadBalancer} (h : SameProofs lb lb') :
    StillAdmitted lb lb' := fun r hr => by
  rw [h.attempts] at hr
  exact ⟨hr, by rw [h.active]⟩

/-- Whoever is admitted on a server outside the pool was admitted there before. -/
theorem admittedOn_after (hx : lb.servers.get? x = none) (h : (lb.after l).AdmittedOn x r) :
    lb.AdmittedOn x r := by
  cases l with
  | acquireServer j pick =>
    rcases acquireServer_cases lb j pick with ⟨e, he⟩ | ⟨p, lb', he, -, hst, hact, -, -⟩
    · rwa [after, he] at h
    · have hpool := RouterSystem.acquireServer_pool (congrArg Prod.fst he)
      have hp : p.1 = pick := by
        unfold acquireServer at he
        dsimp only at he
        split at he
        · cases he
        split at he <;> cases he
        rfl
      rw [after, he] at h
      unfold AdmittedOn at h ⊢
      rw [hact, hst, Dict.get?_insert, Dict.get?_insert] at h
      by_cases hj : j = r
      · rw [if_pos hj] at h
        cases h.1
        rw [hp, hx] at hpool
        cases hpool
      · rwa [if_neg hj, if_neg hj] at h
  | releaseServer y j sender =>
    by_cases hj : j = ""
    · rwa [after, releaseServer, if_pos hj] at h
    · rw [after, releaseServer_eq hj] at h
      split at h
      · replace h := stillAdmitted_gc.admittedOn h
        unfold AdmittedOn at h ⊢
        rw [settle, Dict.get?_erase, Dict.get?_insert] at h
        by_cases hjr : j = r
        · rw [if_pos hjr] at h
          cases h.1
        · rwa [if_neg hjr, if_neg hjr] at h
      · exact h
  | confirmContinuation now j c d =>
    rcases confirmContinuation_cases lb now j c d with ⟨e, he, -⟩ | ⟨y, q, e, -, -, -, -, -, he⟩
    · rwa [after, he] at h
    · rw [after, he] at h
      unfold AdmittedOn at h ⊢
      rw [Dict.get?_insert] at h
      by_cases hjr : j = r
      · rw [if_pos hjr] at h
        cases h.2
      · rwa [if_neg hjr] at h
  | commitReady now k y n q => exact (commitReady_eq lb now k y n q).1.stillAdmitted.admittedOn h
  | beginDrain k q =>
    rcases beginDrain_eq lb k q with ⟨e, he⟩ | ⟨y, -, -, hs, -, -⟩
    · rwa [after, he] at h
    · exact hs.stillAdmitted.admittedOn h
  | finishRemove k =>
    rcases finishRemove_cases lb k with ⟨he, -⟩ | ⟨y, -, hr⟩
    · rwa [after, he] at h
    · exact hr.admitted.admittedOn h

/-- What a call makes of the handoffs of an operation: the same, one more, or fewer at the end of its
drain. -/
theorem handoffs_after (lb : GlobalRequestLoadBalancer) (l : RouterCall) (o : String) :
    (lb.after l).handoffs o = lb.handoffs o ∨
    (∃ z j, lb.AdmittedOn z j ∧ lb.drainingOperations.get? z = some o ∧
      (lb.after l).handoffs o = (lb.handoffs o).insert j) ∨
    (lb.after l).handoffs o = [] := by
  have hsame : ∀ {lb' : GlobalRequestLoadBalancer},
      lb'.continuationHandoffs = lb.continuationHandoffs →
      lb'.handoffs o = lb.handoffs o := fun he => by
    rw [handoffs, he, handoffs]
  cases l with
  | acquireServer j pick =>
    rcases acquireServer_cases lb j pick with ⟨e, he⟩ | ⟨q, lb', he, -, -, -, -, hh⟩
    · exact .inl (hsame (by rw [after, he]))
    · exact .inl (hsame (by rw [after, he]; exact hh))
  | releaseServer y j sender =>
    refine .inl (hsame ?_)
    by_cases hj : j = ""
    · rw [after, releaseServer, if_pos hj]
    · rw [after, releaseServer_eq hj]
      split
      · obtain ⟨expired, -, -, he⟩ := gc_eq (lb.settle j)
        rw [he]
        rfl
      · rfl
  | confirmContinuation now j c d =>
    rcases confirmContinuation_cases lb now j c d with ⟨e, he, -⟩ | ⟨y, q, e, -, -, ha, hy, hd, he⟩
    · exact .inl (hsame (by rw [after, he]))
    · simp only [after, he, handoffs, Dict.get?_insert]
      by_cases hq : q = o
      · subst hq
        exact .inr (.inl ⟨y, j, ⟨hy, ha⟩, hd, by rw [if_pos rfl]; rfl⟩)
      · exact .inl (by rw [if_neg hq])
  | commitReady now k y n q => exact .inl (hsame (commitReady_eq lb now k y n q).1.handoffs)
  | beginDrain k q =>
    rcases beginDrain_eq lb k q with ⟨e, he⟩ | ⟨y, -, -, hs, -, -⟩
    · exact .inl (hsame (by rw [after, he]))
    · exact .inl (hsame hs.handoffs)
  | finishRemove k =>
    rcases finishRemove_eq lb k with he | ⟨y, hy, he⟩
    · exact .inl (hsame (by rw [after, he]))
    · have hh : ((lb.endDrain y).gcSettledRequests.unroute k).continuationHandoffs =
          (lb.endDrain y).continuationHandoffs := by
        obtain ⟨expired, -, -, he⟩ := gc_eq (lb.endDrain y)
        rw [he]; rfl
      simp only [after, he, handoffs, hh, continuationHandoffs_endDrain]
      cases hd : lb.drainingOperations.get? y with
      | none => exact .inl rfl
      | some q =>
        dsimp only
        rw [Dict.get?_erase]
        by_cases hq : q = o
        · exact .inr (.inr (by rw [if_pos hq]; rfl))
        · exact .inl (by rw [if_neg hq])

/-- The query answers with the handoffs, in an order of its own. -/
theorem continuationHandoffRequests_ok {rs : List String}
    (h : lb.continuationHandoffRequests o = .ok rs) : rs.Perm (lb.handoffs o) := by
  unfold continuationHandoffRequests at h
  split at h
  · cases h
  · cases h
    exact List.perm_insertionSort _ _

/-- A handoff is of a request admitted on a server that the operation drains. -/
theorem handoff_origin (h : r ∈ (lb.after l).handoffs o) :
    r ∈ lb.handoffs o ∨
      ∃ z, lb.AdmittedOn z r ∧ lb.drainingOperations.get? z = some o := by
  rcases handoffs_after lb l o with he | ⟨z, j, ha, hd, he⟩ | he
  · exact .inl (he ▸ h)
  · rw [he, List.mem_insert_iff] at h
    rcases h with rfl | h
    · exact .inr ⟨z, ha, hd⟩
    · exact .inl h
  · rw [he] at h
    cases h

theorem nodup_handoffs_after (h : (lb.handoffs o).Nodup) :
    ((lb.after l).handoffs o).Nodup := by
  rcases handoffs_after lb l o with he | ⟨z, j, -, -, he⟩ | he
  · rwa [he]
  · rw [he]
    exact h.insert
  · rw [he]
    exact List.nodup_nil

theorem nodup_handoffs (h : calls.Reachable lb) (o : String) :
    (lb.handoffs o).Nodup := by
  refine h.invariant (I := fun lb => (lb.handoffs o).Nodup) (fun s hs => ?_)
    fun s l s' hi hstep _ => ?_
  · obtain ⟨servers, routes, retention, -, rfl⟩ := hs
    exact List.nodup_nil
  · obtain rfl := hstep
    exact nodup_handoffs_after hi

/-- A drain under the operation was there before, or begins. -/
theorem draining_after {z : String} (h : (lb.after l).drainingOperations.get? z = some o) :
    lb.drainingOperations.get? z = some o ∨ ∃ k, l = .beginDrain k o ∧ lb.routes.get? k = some z := by
  cases l with
  | acquireServer j pick => exact .inl ((sameRouting_acquire lb j pick).2.2.2 ▸ h)
  | releaseServer y j sender =>
    have hs : SameRouting lb (lb.releaseServer y j).2 := sameRouting_release
    exact .inl (hs.2.2.2 ▸ h)
  | confirmContinuation now j c d =>
    have hs : SameRouting lb (lb.confirmContinuation now j c d).2 := sameRouting_confirm
    exact .inl (hs.2.2.2 ▸ h)
  | commitReady now k y n q => exact .inl ((commitReady_eq lb now k y n q).2.1 ▸ h)
  | beginDrain k q =>
    rcases beginDrain_eq lb k q with ⟨e, he⟩ | ⟨y, hy, -, -, -, hd⟩
    · rw [after, he] at h
      exact .inl h
    · rw [after, hd, Dict.get?_insert] at h
      split at h
      · rename_i hz
        cases h
        exact .inr ⟨k, rfl, hy.trans (congrArg some hz)⟩
      · exact .inl h
  | finishRemove k =>
    rcases finishRemove_eq lb k with he | ⟨y, -, he⟩
    · rw [after, he] at h
      exact .inl h
    · rw [after, he, draining_finishRemove, Dict.get?_erase] at h
      split at h
      · cases h
      · exact .inl h

end GlobalRequestLoadBalancer

end ReplicaLending
