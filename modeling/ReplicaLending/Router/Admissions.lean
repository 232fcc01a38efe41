import ReplicaLending.Router.Handoffs
/-!
# What the load balancer leaves of an admission

A request that is ADMITTED on a server stays so until somebody releases or confirms it, and has no
continuation proof in the meantime. A confirmation of such a request has two outcomes: it is handed
over under the operation that drains its server, or nothing drains it (load_balancer.py:123-151).
-/

namespace ReplicaLending

namespace GlobalRequestLoadBalancer

variable {lb : GlobalRequestLoadBalancer} {r x : String} {l : RouterCall}

/-- The calls that may end an admission of the request. -/
def Ends (r : String) : RouterCall → Prop
  | .releaseServer _ j _ | .confirmContinuation _ j _ _ => j = r
  | _ => False

theorem admittedOn_gc (h : lb.AdmittedOn x r) : lb.gcSettledRequests.AdmittedOn x r :=
  ⟨(congrArg (Dict.get? · r) gc_active).trans h.1, (gc_keeps (.inl h.2)).trans h.2⟩

theorem admittedOn_settle {j : String} (hj : j ≠ r) (h : lb.AdmittedOn x r) :
    (lb.settle j).AdmittedOn x r :=
  ⟨(Dict.get?_erase_ne _ hj).trans h.1, (Dict.get?_insert_ne _ _ hj).trans h.2⟩

/-- `finish_remove` settles nobody who is admitted. -/
theorem admittedOn_settleTerminated : ∀ (rs : List String) {lb : GlobalRequestLoadBalancer},
    lb.AdmittedOn x r → (settleTerminated rs lb).AdmittedOn x r
  | [], _, h => h
  | j :: rs, lb, h => by
    rw [settleTerminated]
    by_cases ht : lb.attemptState.get? j = some .terminated
    · rw [if_pos ht]
      have hj : j ≠ r := by
        rintro rfl
        rw [h.2] at ht
        cases ht
      exact admittedOn_settleTerminated rs (admittedOn_settle hj h)
    · rw [if_neg ht]
      exact admittedOn_settleTerminated rs h

/-- An admission lasts until the request is released or confirmed. -/
theorem admittedOn_stays (h : lb.AdmittedOn x r) (hl : ¬ Ends r l) : (lb.after l).AdmittedOn x r := by
  cases l with
  | acquireServer j pick =>
    rcases acquireServer_cases lb j pick with ⟨e, he⟩ | ⟨p, lb', he, hu, hst, hact, -, -⟩
    · rw [after, he]
      exact h
    · have hj : j ≠ r := by
        rintro rfl
        exact hu (.inl h.2)
      rw [after, he, AdmittedOn, hact, hst, Dict.get?_insert_ne _ _ hj, Dict.get?_insert_ne _ _ hj]
      exact h
  | releaseServer y j sender =>
    by_cases hj : j = ""
    · rw [after, releaseServer, if_pos hj]
      exact h
    · rw [after, releaseServer_eq hj]
      split
      · exact admittedOn_gc (admittedOn_settle hl h)
      · exact h
  | confirmContinuation now j cl d =>
    rcases confirmContinuation_cases lb now j cl d with ⟨e, he, -⟩ | ⟨y, q, e, -, -, -, -, -, he⟩
    · rw [after, he]
      exact h
    · rw [after, he]
      exact ⟨h.1, (Dict.get?_insert_ne _ _ hl).trans h.2⟩
  | commitReady now k y n q =>
    obtain ⟨hs, -⟩ := commitReady_eq lb now k y n q
    exact ⟨hs.active ▸ h.1, hs.attempts ▸ h.2⟩
  | beginDrain k q =>
    rcases beginDrain_eq lb k q with ⟨e, he⟩ | ⟨y, -, -, hs, -, -⟩
    · rw [after, he]
      exact h
    · exact ⟨hs.active ▸ h.1, hs.attempts ▸ h.2⟩
  | finishRemove k =>
    rcases finishRemove_eq lb k with he | ⟨y, -, he⟩
    · rw [after, he]
      exact h
    · rw [after, he]
      have hend : (lb.endDrain y).AdmittedOn x r := admittedOn_settleTerminated _ h
      exact admittedOn_gc hend

/-- A proof is new only after a confirmation for the request. -/
theorem proof_before {p : String × String × String × OperationEvidence}
    (hl : ∀ now cl d, l ≠ .confirmContinuation now r cl d)
    (hp : (lb.after l).continuationProofs.get? r = some p) :
    lb.continuationProofs.get? r = some p := by
  have hgc : ∀ {lb' : GlobalRequestLoadBalancer}, lb'.continuationProofs = lb.continuationProofs →
      lb'.gcSettledRequests.continuationProofs.get? r = some p →
      lb.continuationProofs.get? r = some p := by
    intro lb' he hp
    obtain ⟨expired, -, -, hg⟩ := gc_eq lb'
    simp only [hg, Dict.get?_eraseAll, he] at hp
    split at hp
    · cases hp
    · exact hp
  cases l with
  | acquireServer j pick =>
    rcases acquireServer_cases lb j pick with ⟨e, he⟩ | ⟨q, lb', he, -, -, -, hpr, -⟩
    · rwa [after, he] at hp
    · rw [after, he, hpr] at hp
      split at hp
      · rw [Dict.get?_erase] at hp
        split at hp
        · cases hp
        · exact hp
      · exact hp
  | releaseServer y j sender =>
    by_cases hj : j = ""
    · rwa [after, releaseServer, if_pos hj] at hp
    · rw [after, releaseServer_eq hj] at hp
      split at hp
      · exact hgc (show (lb.settle j).continuationProofs = lb.continuationProofs from rfl) hp
      · exact hp
  | confirmContinuation now j cl d =>
    have hj : j ≠ r := by
      rintro rfl
      exact hl now cl d rfl
    rcases confirmContinuation_cases lb now j cl d with ⟨e, he, -⟩ | ⟨y, o, e, -, -, -, -, -, he⟩
    · rwa [after, he] at hp
    · rw [after, he] at hp
      exact (Dict.get?_insert_ne _ _ hj).symm.trans hp
  | commitReady now k y n q => exact (commitReady_eq lb now k y n q).1.proofs ▸ hp
  | beginDrain k q =>
    rcases beginDrain_eq lb k q with ⟨e, he⟩ | ⟨y, -, -, hs, -, -⟩
    · rwa [after, he] at hp
    · exact hs.proofs ▸ hp
  | finishRemove k =>
    rcases finishRemove_eq lb k with he | ⟨y, -, he⟩
    · rwa [after, he] at hp
    · rw [after, he] at hp
      have hend : (lb.endDrain y).continuationProofs = lb.continuationProofs :=
        (settleTerminated_frame _ lb).1
      exact hgc hend hp

/-- Every drain is of an operation with an id. -/
def DrainsNamed (lb : GlobalRequestLoadBalancer) : Prop :=
  ∀ ⦃y o⦄, lb.drainingOperations.get? y = some o → o ≠ ""

theorem DrainsNamed.after (h : lb.DrainsNamed) (l : RouterCall) : (lb.after l).DrainsNamed := by
  intro y o ho
  rcases draining_after ho with ho | ⟨k, rfl, -⟩
  · exact h ho
  · rintro rfl
    rw [GlobalRequestLoadBalancer.after, beginDrain, if_pos rfl] at ho
    exact h ho rfl

/-- The confirmation of an admitted request: it is handed over under the operation that drains its
server, or there is none. -/
theorem confirm_admitted (hn : lb.DrainsNamed) (hv : Proven lb) (h : lb.AdmittedOn x r) {cl d : String}
    (hr : r ≠ "") (hcl : cl ≠ "") (hd : d ≠ "") (now : Nat) :
    (∃ o e, lb.drainingOperations.get? x = some o ∧ e.operationId = o ∧
      (lb.confirmContinuation now r cl d).1 = .ok e ∧
      (lb.confirmContinuation now r cl d).2.continuationProofs.get? r = some (cl, d, o, e) ∧
      r ∈ (lb.confirmContinuation now r cl d).2.handoffs o) ∨
    lb.drainingOperations.get? x = none ∧ lb.confirmContinuation now r cl d =
      (.error (.keyError "request is not part of an active drain operation"), lb) := by
  have hproof : lb.continuationProofs.get? r = none := by
    by_contra hp
    obtain ⟨p, hp⟩ := Option.ne_none_iff_exists'.1 hp
    rcases hv.proof hp with hs | hs <;> rw [h.2] at hs <;> cases hs
  have hgate : ¬ (r = "" ∨ cl = "" ∨ d = "") := by simp [hr, hcl, hd]
  unfold confirmContinuation
  rw [if_neg hgate, hproof]
  dsimp only
  rw [if_neg (not_not.2 h.2), h.1, Option.bind_some]
  cases ho : lb.drainingOperations.get? x with
  | none => exact .inr ⟨rfl, rfl⟩
  | some o =>
    have hev : ∃ e, OperationEvidence.now now o .exitReady = .ok e := by
      unfold OperationEvidence.now
      rw [dif_neg (hn ho), dif_neg (by simp), dif_neg (by simp), dif_neg (by simp), dif_neg (by simp)]
      exact ⟨_, rfl⟩
    obtain ⟨e, he⟩ := hev
    refine .inl ⟨o, e, rfl, (OperationEvidence.now_ok he).1, ?_, ?_, ?_⟩
    · simp only [he]
    · simp only [he]
      exact Dict.get?_insert_self ..
    · simp only [he, handoffs, Dict.get?_insert_self, Option.getD_some]
      exact List.mem_insert_self

end GlobalRequestLoadBalancer

end ReplicaLending
