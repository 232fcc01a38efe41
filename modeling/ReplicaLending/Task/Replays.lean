import ReplicaLending.Scheduler.HandOff
import ReplicaLending.Task.Exclusion
/-!
# Replays of resolved operations (`task_runner.py:176`)

`submit_operation` keeps the lease snapshot of an ADD before it looks at the record (:200-204), and the
thread of a resolved operation has dropped it in its `finally` (:461). A replay of a resolved operation
is answered from the journal and starts nothing; that of an ADD keeps its snapshot once more.
-/

namespace ReplicaLending.ControlPlane

open OperationJournal

variable {session : String} {s t : ControlPlane} {command : OperationCommand} {lease : Option Lease}
  {failure : Option PyErr} {r : OperationRecord}

/-- A call of `submit_operation` recorded a new operation. -/
structure OpensRecord (session : String) (t : ControlPlane) (command : OperationCommand)
    (lease : Option Lease) (failure : Option PyErr) : Prop where
  fresh : t.journal.query command.operationId = none
  recorded : ((t.submitOperation session command lease failure).2.journal.query
    command.operationId).isSome

/-- The replay returns the record, launches nothing and changes no table. -/
def Inert (session : String) (s : ControlPlane) (command : OperationCommand) (lease : Option Lease)
    (r : OperationRecord) : Prop :=
  ∀ failure, s.submitOperation session command lease failure = (.ok r, s)

/-- The control plane is ready, and what the replay of an ADD would keep is there. -/
def Kept (s : ControlPlane) (command : OperationCommand) (lease : Option Lease) : Prop :=
  s.controlReady = true ∧ (command.kind = .add → ∃ l ∈ lease, ∃ previous,
    s.operationLeases.get? command.operationId = some previous ∧ previous.same l = true)

/-- A submission that fails a check records nothing; one that passes binds its command. -/
theorem OpensRecord.checked (h : OpensRecord session t command lease failure) (hj : Consistent t.journal) :
    (lease.any fun l => l.leaseId ≠ command.leaseId) = false ∧
      ¬ (command.kind = .add ∧ lease.isNone = true) ∧ command.target.taskSession = session ∧
      (t.submitOperation session command lease failure).2.journal.commands.get?
        command.operationId = some command := by
  obtain ⟨hnew, hrec⟩ := h
  unfold submitOperation at hrec ⊢
  split at hrec
  · rw [hnew] at hrec; cases hrec
  rename_i hl
  split at hrec
  · rw [hnew] at hrec; cases hrec
  rename_i ha
  split at hrec
  · rw [hnew] at hrec; cases hrec
  rename_i hready
  split at hrec
  · rw [hnew] at hrec; cases hrec
  rename_i hs
  refine ⟨Bool.eq_false_iff.2 hl, ha, not_not.1 hs, ?_⟩
  rw [if_neg hl, if_neg ha, if_neg hready, if_neg hs]
  split at hrec
  · rename_i e j hb
    have hsame : OperationJournal.apply (.begin command) t.journal = t.journal :=
      (call_effect hj (.begin command)).2 e (by rw [hb])
    rw [OperationJournal.apply, hb] at hsame
    dsimp only at hsame hrec
    rw [hsame, hnew] at hrec
    cases hrec
  · rename_i record j hb
    have hrun : OperationJournal.machine.Run j _ :=
      (calls_dispatch (P := fun _ => True) command lease failure (t.journal.query command.operationId)
        record { t with journal := j }).run
    have hcj : Consistent j := by
      have he := (call_effect hj (.begin command)).1
      rw [OperationJournal.apply, hb] at he
      exact he.consistent hj
    refine commands_run hcj hrun ?_
    rcases beginCall_ok hj hb with ⟨-, hr, -⟩ | ⟨-, -, -, hc⟩
    · rw [show t.journal.records.get? _ = none from hnew] at hr
      cases hr
    · rw [hc, if_pos rfl]

/-- The replay of a recorded operation that is resolved. -/
theorem submit_resolved (hlease : (lease.any fun l => l.leaseId ≠ command.leaseId) = false)
    (hadd : ¬ (command.kind = .add ∧ lease.isNone = true))
    (hsession : command.target.taskSession = session)
    (hc : s.journal.commands.get? command.operationId = some command)
    (hr : s.journal.query command.operationId = some r) (hres : r.status.resolved = true)
    (hready : s.controlReady = true) :
    s.submitOperation session command lease failure = match s.keepLease command lease with
      | .error e => (.error e, s)
      | .ok s => (.ok r, s) := by
  have hbegin : call (.begin command) s.journal = (.ok r, s.journal) := by
    simp only [call, beginCall]
    rw [show s.journal.records.get? command.operationId = some r from hr, hc]
    dsimp only
    rw [if_neg (not_not.2 rfl)]
  have hknown : r.status ≠ .unknown := by
    intro hu
    rw [hu] at hres
    cases hres
  unfold submitOperation
  rw [if_neg (Bool.eq_false_iff.1 hlease), if_neg hadd, if_neg (by rw [hready]; decide),
    if_neg (not_not.2 hsession), hbegin, hr]
  unfold dispatch
  dsimp only
  cases s.keepLease command lease with
  | error e => rfl
  | ok s => simp [hknown]

/-- An exact replay of a resolved operation is inert unless the control plane is not ready, or it is an
ADD whose snapshot is not in the table: then it is put there again. -/
theorem replay_inert_iff (ht : (machine session).Reachable t)
    (hrec : OpensRecord session t command lease failure)
    (hrun : (machine session).Run (apply session (.submit command lease failure) t) s)
    (hr : s.journal.query command.operationId = some r)
    (hs : r.status = .succeeded ∨ r.status = .failed) :
    Inert session s command lease r ↔ Kept s command lease := by
  obtain ⟨hlease, hadd, hsession, hc⟩ := hrec.checked (inv_reachable ht).journal
  have hinv : Inv session (apply session (.submit command lease failure) t) :=
    (inv_reachable ht).apply _
  have hc' := commands_run hinv.journal (journal_run hrun) hc
  have hres : r.status.resolved = true := by rcases hs with hs | hs <;> rw [hs] <;> rfl
  by_cases hready : s.controlReady = true
  swap
  · refine ⟨fun h => ?_, fun h => (hready h.1).elim⟩
    have := h none
    unfold submitOperation at this
    rw [if_neg (Bool.eq_false_iff.1 hlease), if_neg hadd, if_pos (Bool.eq_false_iff.2 hready)] at this
    cases this
  unfold Inert Kept
  simp only [submit_resolved hlease hadd hsession hc' hr hres hready, hready, true_and]
  unfold keepLease
  cases hk : command.kind with
  | add =>
    cases lease with
    | none => exact (hadd ⟨hk, rfl⟩).elim
    | some l =>
      cases hp : s.operationLeases.get? command.operationId with
      | none =>
        -- the replay is answered, and its snapshot is kept for good
        refine ⟨fun h => ?_, fun h => ?_⟩
        · have hkept := congrArg (fun x => x.2.operationLeases.get? command.operationId) (h none)
          simp [hp, Dict.get?_setDefault] at hkept
        · obtain ⟨l', -, previous, hprev, -⟩ := h rfl
          cases hprev
      | some previous =>
        by_cases hsame : previous.same l = true
        · refine ⟨fun _ _ => ⟨l, rfl, previous, rfl, hsame⟩, fun _ _ => ?_⟩
          have hcont : s.operationLeases.contains command.operationId = true := by
            rw [Dict.contains, hp]
            rfl
          simp [hsame, Dict.setDefault, hcont]
        · refine ⟨fun h => ?_, fun h => ?_⟩
          · have hraised := congrArg Prod.fst (h none)
            simp [hsame] at hraised
          · obtain ⟨l', hl', previous', hprev, hsame'⟩ := h rfl
            cases hl'
            cases hprev
            exact (hsame hsame').elim
  | donate => exact ⟨fun _ h => (by cases h), fun _ _ => rfl⟩
  | remove => exact ⟨fun _ h => (by cases h), fun _ _ => rfl⟩
  | restore => exact ⟨fun _ h => (by cases h), fun _ _ => rfl⟩

/-! ## An ADD that has been published -/

section Fixture

open GroupScheduler (donorLease)

def snapshot : Lease := donorLease "l1" (ne_empty holds)

def committed : OperationEvidence :=
  ⟨"op-1", .serviceCommitted, 0, [], ne_empty holds, List.nodup_nil, List.not_mem_nil,
    noGpus_iff holds⟩

/-- The thread has run to its end. -/
def addRun : List Act :=
  [.start 0, .answer 0 (.ok none), .answer 0 (.ok (some committed)), .finish 0, .close 0]

def submitted : ControlPlane :=
  apply "task-a" (.submit (OperationJournal.addCommand "op-1") (some snapshot) none)
    (Machine.exec (apply "task-a") [.setReady true] init)

def added : ControlPlane := Machine.exec (apply "task-a") addRun submitted

/-- The ADD is replayed after its end, which keeps its snapshot for good: replays from then on are inert. -/
theorem replay_inert_again : Inert "task-a"
    (apply "task-a" (.submit (OperationJournal.addCommand "op-1") (some snapshot) none) added)
    (OperationJournal.addCommand "op-1") (some snapshot)
    ⟨"op-1", .succeeded, some "SERVICE_COMMITTED"⟩ := by
  have ht : (machine "task-a").Reachable (Machine.exec (apply "task-a") [.setReady true] init) :=
    ⟨init, rfl, Machine.run_exec _ _ _ _⟩
  have hrec : OpensRecord "task-a" (Machine.exec (apply "task-a") [.setReady true] init)
      (OperationJournal.addCommand "op-1") (some snapshot) none :=
    ⟨by decide +kernel, by decide +kernel⟩
  have hrun : (machine "task-a").Run submitted
      (apply "task-a" (.submit (OperationJournal.addCommand "op-1") (some snapshot) none) added) :=
    (Machine.run_exec _ _ addRun submitted).trans
      (.single (l := .submit (OperationJournal.addCommand "op-1") (some snapshot) none) rfl trivial)
  refine (replay_inert_iff ht hrec hrun (by decide +kernel) (.inl rfl)).2
    ⟨by decide +kernel, fun _ => ⟨snapshot, rfl, snapshot, ?_, by decide +kernel⟩⟩
  rfl

/-- Its replay is answered from the record, but keeps the snapshot that the thread has dropped. -/
theorem replay_keeps_snapshot :
    (machine "task-a").Reachable added ∧
    added.journal.query "op-1" = some ⟨"op-1", .succeeded, some "SERVICE_COMMITTED"⟩ ∧
    added.operationThreads.get? "op-1" = none ∧
    (added.operationLeases.get? "op-1").isSome = false ∧
    ((added.submitOperation "task-a" (OperationJournal.addCommand "op-1") (some snapshot)
      none).2.operationLeases.get? "op-1").isSome = true ∧
    ¬ Inert "task-a" added (OperationJournal.addCommand "op-1") (some snapshot)
      ⟨"op-1", .succeeded, some "SERVICE_COMMITTED"⟩ := by
  have hreach : (machine "task-a").Reachable added :=
    ⟨init, rfl, ((Machine.run_exec (· = init) (apply "task-a") [.setReady true] init).tail
      (l := .submit (OperationJournal.addCommand "op-1") (some snapshot) none) rfl trivial).trans
      (Machine.run_exec _ _ _ _)⟩
  have hbefore : (added.operationLeases.get? "op-1").isSome = false := by decide +kernel
  have hafter : ((added.submitOperation "task-a" (OperationJournal.addCommand "op-1")
      (some snapshot) none).2.operationLeases.get? "op-1").isSome = true := by decide +kernel
  refine ⟨hreach, by decide +kernel, by decide +kernel, hbefore, hafter, fun h => ?_⟩
  rw [h none, hbefore] at hafter
  cases hafter

end Fixture

end ReplicaLending.ControlPlane
