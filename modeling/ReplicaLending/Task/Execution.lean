import ReplicaLending.Task.Reporting
import ReplicaLending.Task.Restoring
/-!
# `_execute_operation` (`task_runner.py:253`)

The ADD and RESTORE branches, and the whole thread of an operation: it opens its record, runs the branch
of its kind, and leaves the record UNKNOWN when the branch raises.
-/

namespace ReplicaLending

open TaskState TaskProg TaskRunner

variable {d : Deployment} {strict : Prop} {c : OperationCommand} {s : TaskState}
  {P : TaskState → Prop}

/-- A publishing operation that needs no excuse may be resolved. -/
structure Cleared (strict : Prop) (c : OperationCommand) (s : TaskState) : Prop where
  lined : Lined s c
  clear : Clear strict s c

theorem Steady.cleared : Steady d strict c (Cleared strict c) := fun s t hi h hr ht =>
  ⟨Steady.lined s t hi h.lined hr ht, Steady.clear s t hi h.clear hr ht⟩

theorem Cleared.resend (s : TaskState) (box : List (String × OperationEvidence))
    (h : Cleared strict c s) : Cleared strict c { s with outbox := box } :=
  ⟨h.lined, h.clear.congr rfl rfl rfl rfl rfl⟩

theorem Cleared.settled (h : Cleared strict c s) (hx : c.kind.exits = false) : Settled strict s c where
  lined := fun _ => h.lined
  clear := fun _ => h.clear
  unbound := fun hf => by rw [hx] at hf; cases hf
  unsent := fun hf => by rw [hx] at hf; cases hf

theorem Delivered.cleared {ev : OperationEvidence} (h : Delivered strict c ev s) :
    Cleared strict c s := ⟨h.lined, h.clear⟩

/-- The snapshot of an ADD's lease is the command's. -/
theorem Inv.places (h : Inv d strict s) (hc : Cur d c s) (hadd : c.kind = .add) {lease : Lease}
    (hl : s.operationLeases.get? c.operationId = some lease) :
    ∃ spec, buildBorrowedSpec c lease = .ok spec ∧ Places c spec := by
  obtain ⟨c', hc', hid⟩ := h.leases hl
  rw [(h.cur_command hc).1] at hc'
  cases hc'
  unfold buildBorrowedSpec
  rw [if_neg (not_not.2 hadd), if_neg (not_not.2 hid)]
  exact ⟨_, rfl, rfl, rfl, rfl, rfl⟩

namespace Concludes

/-- The operation ends. -/
theorem close (hx : c.kind.exits = false) {status : OperationStatus} {message : String}
    (hres : status.resolved = true) :
    Concludes d strict c (Cleared strict c) (TaskRunner.finish c.operationId status message)
      fun _ _ => True :=
  .finish .cleared hres fun _ _ _ h => h.settled hx

/-- Evidence of it is sent, and it ends. -/
theorem sendAndClose (hx : c.kind.exits = false) {ev : OperationEvidence}
    (ho : ev.operationId = c.operationId) {status : OperationStatus} {message : String}
    (hres : status.resolved = true) :
    Concludes d strict c (Cleared strict c)
      ((TaskRunner.advanceLease c ev).bind fun _ => TaskRunner.finish c.operationId status message)
      fun _ _ => True :=
  .bind (.advanceLease .cleared Cleared.resend ho fun _ _ hf => by rw [hx] at hf; cases hf)
    fun _ => (close hx hres).pre fun _ _ _ h => h.1

theorem finishFailedRelease (hx : c.kind.exits = false) {ev : OperationEvidence} {message : String} :
    Concludes d strict c (Cleared strict c) (TaskRunner.finishFailedRelease c ev message)
      fun _ _ => True := by
  refine .bind (Q := fun ev s => ev.operationId = c.operationId ∧ Cleared strict c s)
    (E := fun _ _ => True) (.ofExcept (fun ev' hev _ _ _ h => ?_) fun _ _ _ _ _ _ => trivial)
    fun ev => .of_imp fun ho => sendAndClose hx ho rfl
  obtain ⟨rfl, ho, -⟩ := requireOperationEvidence_ok hev
  exact ⟨ho, h⟩

/-- What an ADD makes of the evidence of `bootstrap_and_publish`. -/
theorem settleAdd (hx : c.kind.exits = false) {ev : OperationEvidence} {failure success : String} :
    Concludes d strict c (Delivered strict c ev)
      (if ev.type = .released then TaskRunner.finishFailedRelease c ev failure
        else do
          let _ ← Prog.ofExcept
            (requireOperationEvidence ev c.operationId .serviceCommitted "operation")
          TaskRunner.finish c.operationId .succeeded success)
      fun _ _ => True := by
  split
  · exact (finishFailedRelease hx).pre fun _ _ _ h => h.cleared
  · exact .bind (Q := fun _ => Cleared strict c) (E := fun _ _ => True)
      (.ofExcept (fun _ _ _ _ _ h => h.cleared) fun _ _ _ _ _ _ => trivial) fun _ => close hx rfl

theorem executeAdd (hadd : c.kind = .add) :
    Concludes d strict c (fun _ => True) (TaskRunner.executeAdd d c) fun _ _ => True := by
  have hx : c.kind.exits = false := by rw [hadd]; rfl
  refine .bind (Q := fun lease _ => ∃ spec, buildBorrowedSpec c lease = .ok spec ∧ Places c spec)
    (E := fun _ _ => True) (.peek (.const _) (fun s lease hi hc _ hl => ?_) fun _ _ _ _ _ _ => trivial)
    fun lease => ?_
  · cases hlease : s.operationLeases.get? c.operationId with
    | none => rw [hlease] at hl; cases hl
    | some l =>
      rw [hlease] at hl
      cases hl
      exact hi.places hc.1 hadd hlease
  · rintro s hi ⟨hc, spec, hspec, hplaces⟩
    rw [hspec]
    refine bind (Triple.prepareAdd hadd hplaces) (fun r => ?_) s hi ⟨hc, trivial⟩
    have hpublish : Concludes d strict c (fun s => Begun s c)
        ((TaskProg.rpc (Trainer.bootstrapAndPublish d c.operationId)).bind fun ev =>
          if ev.type = .released then TaskRunner.finishFailedRelease c ev
            "ADD bootstrap failed; hidden runtime was verified RELEASED"
          else do
            let _ ← Prog.ofExcept
              (requireOperationEvidence ev c.operationId .serviceCommitted "operation")
            TaskRunner.finish c.operationId .succeeded "SERVICE_COMMITTED") fun _ _ => True :=
      bind (.remote .begun (Triple.bootstrapAndPublish hadd) (fun _ => .delivered) (.const True)
        (fun _ _ _ _ => trivial) (fun _ _ _ _ _ => trivial) fun _ _ _ h => h) fun _ => settleAdd hx
    cases r with
    | released ev => exact (finishFailedRelease hx).pre fun _ _ _ h => ⟨h.1, h.2⟩
    | bound => exact hpublish
    | runtime a => exact hpublish

theorem executeRestore (hr : c.kind = .restore) :
    Concludes d strict c (fun _ => True) (TaskRunner.executeRestore d c) fun _ _ => True := by
  have hx : c.kind.exits = false := by rw [hr]; rfl
  refine .bind (Triple.prepareRestore hr) fun r => ?_
  refine .bind (.remote .begun (Triple.restoreAndPublish hr) (fun _ => .delivered) (.const True)
    (fun _ _ _ _ => trivial) (fun _ _ _ _ _ => trivial) fun _ _ _ h => h) fun ev => ?_
  split
  · exact (finishFailedRelease hx).pre fun _ _ _ h => h.cleared
  · refine .bind (Q := fun ev s => ev.operationId = c.operationId ∧ Cleared strict c s)
      (E := fun _ _ => True) (.ofExcept (fun ev' hev _ _ _ h => ?_) fun _ _ _ _ _ _ => trivial)
      fun ev => .of_imp fun ho => sendAndClose hx ho rfl
    obtain ⟨rfl, ho, -⟩ := requireOperationEvidence_ok hev
    exact ⟨ho, h.cleared⟩

theorem lifecycle {reconciling : Bool} :
    Concludes d strict c (fun s => reconciling = false → Unsent s c)
      (TaskRunner.lifecycle d c reconciling) fun _ _ => True := by
  unfold TaskRunner.lifecycle
  cases hk : c.kind with
  | add => exact (executeAdd hk).pre fun _ _ _ _ => trivial
  | donate => exact executeExit (by rw [hk]; rfl)
  | remove => exact executeExit (by rw [hk]; rfl)
  | restore => exact (executeRestore hk).pre fun _ _ _ _ => trivial

end Concludes

/-! ## The thread -/

/-- The operation is the unfinished one and waits for its thread to open its record. -/
def Awaits (d : Deployment) (c : OperationCommand) (s : TaskState) : Prop :=
  Cur d c s ∧ ∃ r, s.journal.records.get? c.operationId = some r ∧
    (r.status = .accepted ∨ r.status = .unknown)

theorem Steady.awaits : Steady d strict c (Awaits d c) :=
  .seen fun v => v.journal.current d.taskSession = some c ∧
    ∃ r, v.journal.records.get? c.operationId = some r ∧ (r.status = .accepted ∨ r.status = .unknown)

/-- Evidence of an operation leaves only while its record is open. -/
theorem Inv.unsent_of_accepted (h : Inv d strict s) {r : OperationRecord}
    (hr : s.journal.records.get? c.operationId = some r) (hacc : r.status = .accepted) :
    Unsent s c := by
  intro e he ho
  rw [← ho] at hr
  exact h.sent e he r hr hacc

/-- `mark_running` or `reopen_unknown`: a waiting record is opened. -/
theorem Inv.openRecord (h : Inv d strict s) (hw : Awaits d c s) (o : Choice) :
    ∃ reconciling j, TaskRunner.openRecord c.operationId s o =
        (.ok (c, reconciling), { s with journal := j }) ∧ Inv d strict { s with journal := j } ∧
      Run d c { s with journal := j } ∧ (reconciling = false → Unsent s c) := by
  obtain ⟨hc, r, hr, hst⟩ := hw
  have hset : ∀ r' : OperationRecord, r'.operationId = c.operationId → r'.status = .running →
      Inv d strict { s with journal := s.journal.setRecord r' } ∧
        Run d c { s with journal := s.journal.setRecord r' } := by
    intro r' ho hrun
    obtain ⟨hi, hcur⟩ := h.setRecord hc ho (by rw [hrun]; rfl) (by rw [hrun]; decide)
    refine ⟨hi, hcur, r', ?_, hrun⟩
    rw [← ho]
    exact Dict.get?_insert_self _ _ _
  have hcmd : s.journal.command c.operationId = .ok c := by
    unfold OperationJournal.command
    rw [(h.cur_command hc).1]
  have hquery : s.journal.query c.operationId = some r := hr
  unfold TaskRunner.openRecord
  rw [hcmd, hquery]
  rcases hst with hst | hst
  · refine ⟨false, _, ?_, (hset { r with operationId := c.operationId, status := .running } rfl rfl).1,
      (hset _ rfl rfl).2, fun _ => h.unsent_of_accepted hr hst⟩
    simp [OperationJournal.markRunning, hr, hst, OperationStatus.terminal]
  · refine ⟨true, _, ?_, (hset ⟨c.operationId, .running, none⟩ rfl rfl).1,
      (hset _ rfl rfl).2, fun hf => by cases hf⟩
    simp [OperationJournal.reopenUnknown, hr, hst]

/-- The thread of an operation keeps the invariant, whatever happens. -/
theorem executeOperation_hoare :
    (protocol d strict c.operationId).Hoare (Awaits d c)
      (TaskRunner.executeOperation d c.operationId) (fun _ _ => True) fun _ _ => True := by
  refine .tryCatch (E := fun _ s => Run d c s) (.bind (Q := fun p s => p.1 = c ∧ Run d c s ∧
    (p.2 = false → Unsent s c)) ?opened fun p => ?running) fun e => ?unknown
  case opened =>
    refine .call Steady.awaits (fun s _ hw => ⟨⟨c, hw.1, rfl⟩, trivial⟩) fun s o hi hw _ => ?_
    obtain ⟨reconciling, j, heq, hi', hrun, hsent⟩ := hi.openRecord hw o
    rw [heq]
    exact ⟨hi', fun _ ha => by cases ha; exact ⟨rfl, hrun, hsent⟩, fun _ he => by cases he⟩
  case running =>
    obtain ⟨command, reconciling⟩ := p
    rintro s hi ⟨rfl, hrun, hsent⟩
    exact Concludes.lifecycle s hi ⟨hrun, hsent⟩
  case unknown =>
    refine .call Steady.run (fun s _ hrun => ⟨⟨c, hrun.1, rfl⟩, trivial⟩) fun s o hi hrun _ => ?_
    obtain ⟨hc, r, hr, hst⟩ := hrun
    have hquery : s.journal.query c.operationId = some r := hr
    have hfin : s.journal.finish c.operationId .unknown (some e.message) = _ :=
      OperationJournal.finish_eq hi.journal hr (by rw [hst]; rfl) (hi.cur_command hc).1 rfl
    unfold TaskRunner.markUnknown
    rw [hquery]
    dsimp only
    rw [if_neg (by rw [hst]; decide), hfin]
    exact ⟨(hi.setRecord hc rfl rfl OperationStatus.noConfusion).1, fun _ _ => trivial, fun _ _ => trivial⟩

end ReplicaLending
