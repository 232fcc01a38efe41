import ReplicaLending.Scheduler.Replay
import ReplicaLending.Task.Undisturbed
/-!
# A task and the GroupScheduler it reports to

`TaskSystem` lets the scheduler answer evidence as it likes. A `Lender` is a task next to a GroupScheduler
whose own code answers: `settle` is the step at which the scheduler processes the oldest evidence of the task
(`advance_lease`, group_scheduler.py:305). Any other call may reach the scheduler at any time, from this task
or from others; evidence of an operation of this task comes from its TaskRunner only.

| scheduler | RESTORE `c` |
| --- | --- |
| `Due`     | staged, its claims reserved, its evidence not recorded |
| `Paid`    | its evidence recorded, its lease ended |
-/

namespace ReplicaLending

open GroupScheduler (NoLateRelease)
open TaskSystem (submitOperation_recorded submit_refused)

/-- A task and the GroupScheduler. -/
structure Lender where
  task : TaskSystem
  scheduler : GroupScheduler

inductive LenderLabel
  /-- A step of the task. The scheduler's answers are none: `settle` gives them. -/
  | task (l : TaskLabel)
  /-- A call of the scheduler by anybody. -/
  | schedule (call : GroupScheduler.Call)
  /-- The scheduler processes the oldest evidence of the task. -/
  | settle

namespace Lender

variable {d : Deployment} {c : OperationCommand} {ev : OperationEvidence} {g : GroupScheduler}
  {call : GroupScheduler.Call}

/-! ## The scheduler -/

/-- The evidence of the RESTORE is awaited. -/
structure Due (c : OperationCommand) (g : GroupScheduler) : Prop where
  staged : g.operationCommands.get? c.operationId = some c
  unanswered : g.releaseEvidence.get? (c.leaseId, c.operationId) = none
  reserved : g.Reserved ∧ g.OneRestore

/-- The evidence of the RESTORE is accepted. -/
structure Paid (c : OperationCommand) (ev : OperationEvidence) (g : GroupScheduler) : Prop where
  answered : g.Answered c.leaseId ev .restored
  ended : ∃ lease, g.Ended c.leaseId lease

/-- The call leaves the claims of the RESTORE reserved as long as its evidence is awaited, and the lease ended
from then on. -/
def Clear (c : OperationCommand) (g : GroupScheduler) (call : GroupScheduler.Call) : Prop :=
  (g.PendingRestore c.leaseId c.operationId → g.ReservationSafe call) ∧
    (¬ g.PendingRestore c.leaseId c.operationId → NoLateRelease c.leaseId g call)

theorem Due.pending (h : Due c g) (hk : c.kind = .restore) :
    g.PendingRestore c.leaseId c.operationId := ⟨c, h.staged, hk, rfl, h.unanswered⟩

theorem Paid.not_pending (h : Paid c ev g) (ho : ev.operationId = c.operationId) :
    ¬ g.PendingRestore c.leaseId c.operationId := by
  rintro ⟨_, -, -, -, hn⟩
  rw [← ho, h.answered.recorded] at hn
  cases hn

/-- The reservation is what the scheduler asks of SERVICE_COMMITTED evidence. -/
theorem Due.check (h : Due c g) (hk : c.kind = .restore) (ho : ev.operationId = c.operationId)
    (ht : ev.type = .serviceCommitted) : ∃ lease, g.FirstEvidence c.leaseId ev lease c ∧
      g.progressCheck c lease ev = .ok .restored := by
  obtain ⟨lease, hl, hown⟩ := h.reserved.1 _ _ (h.pending hk)
  have hcheck : g.progressCheck c lease ev = .ok .restored := by
    simp [GroupScheduler.progressCheck, hk, ht, hown, check_bind_ok]
  exact ⟨lease, ⟨hl, by rw [ho]; exact h.staged, rfl, by rw [ho]; exact h.unanswered, _, hcheck⟩, hcheck⟩

/-- The scheduler accepts SERVICE_COMMITTED evidence of a RESTORE that is due … -/
theorem Due.advance (h : Due c g) (hk : c.kind = .restore) (ho : ev.operationId = c.operationId)
    (ht : ev.type = .serviceCommitted) :
    (∃ r, (GroupScheduler.advanceLease c.leaseId ev g).1 = .ok r) ∧
      Paid c ev (GroupScheduler.advanceLease c.leaseId ev g).2 := by
  obtain ⟨lease, hf, hcheck⟩ := h.check hk ho ht
  have hadv : GroupScheduler.advanceLease c.leaseId ev g =
      (.ok ⟨c.leaseId, ev.operationId, .restored⟩, g.progress c lease ev) := by
    simp [GroupScheduler.advanceLease, GroupScheduler.advanceTarget, hf.lease_eq, hf.command_eq,
      hf.unrecorded, hcheck]
  obtain ⟨p, hp, hans⟩ := GroupScheduler.advanceLease_ok (by rw [hadv])
  cases hp
  refine ⟨⟨_, by rw [hadv]⟩, hans, lease, ?_⟩
  rw [hadv]
  exact GroupScheduler.ended_restored hf hk ht

/-- Evidence is recorded for the operation it names. -/
theorem unanswered_effect {g' : GroupScheduler} {k : String × String} (he : GroupScheduler.Effect g call g')
    (h : g.releaseEvidence.get? k = none) (hother : ∀ l ev, call = .advanceLease l ev → ev.operationId ≠ k.2) :
    g'.releaseEvidence.get? k = none := by
  cases he with
  | unchanged => exact h
  | registered => exact h
  | opened => exact h
  | staged command now reply lease => rw [GroupScheduler.releaseEvidence_stage]; exact h
  | progressed l ev lease command hf =>
    have hne : (command.leaseId, ev.operationId) ≠ k := by
      rintro rfl
      exact hother l ev rfl rfl
    rw [GroupScheduler.releaseEvidence_progress, Dict.get?_insert_ne _ _ hne]
    exact h

/-- … and a call that keeps the reservation leaves it due. -/
theorem Due.apply (h : Due c g) (hk : c.kind = .restore) (hcall : Clear c g call)
    (hother : ∀ l ev, call = .advanceLease l ev → ev.operationId ≠ c.operationId) :
    Due c (GroupScheduler.apply call g) where
  staged := (GroupScheduler.apply_effect g call).operationCommands h.staged
  unanswered := unanswered_effect (GroupScheduler.apply_effect g call) h.unanswered hother
  reserved := GroupScheduler.reserved_apply h.reserved (hcall.1 (h.pending hk))

theorem Paid.apply (h : Paid c ev g) (ho : ev.operationId = c.operationId) (hcall : Clear c g call) :
    Paid c ev (GroupScheduler.apply call g) := by
  have he := GroupScheduler.apply_effect g call
  obtain ⟨lease, hl⟩ := h.ended
  exact ⟨h.answered.effect he, lease, GroupScheduler.ended_effect hl he (hcall.2 (h.not_pending ho))⟩

/-- The evidence itself is always clear. -/
theorem clear_own (hg : Due c g ∨ Paid c ev g) (hk : c.kind = .restore)
    (ho : ev.operationId = c.operationId) : Clear c g (.advanceLease c.leaseId ev) := by
  have hkind {lease command} (hf : g.firstEvidence? c.leaseId ev = some (lease, command)) :
      command.kind = .restore := by
    have hfirst := GroupScheduler.firstEvidence?_eq_some hf
    rcases hg with hdue | hpaid
    · have hcmd := hfirst.command_eq
      rw [ho, hdue.staged] at hcmd
      cases hcmd
      exact hk
    · have hnone := hfirst.unrecorded
      rw [hpaid.answered.recorded] at hnone
      cases hnone
  constructor <;> intro _ lease command hf
  · rw [hkind hf]
    rintro (hf | hf) <;> cases hf
  · rw [hkind hf]
    exact fun _ => ⟨OperationKind.noConfusion, OperationKind.noConfusion⟩

/-! ## The two together -/

/-- Evidence of an operation that the task has in its journal. -/
def reports (s : TaskState) : GroupScheduler.Call → Bool
  | .advanceLease _ evidence => s.journal.commands.contains evidence.operationId
  | _ => false

def step (d : Deployment) : LenderLabel → Lender → Option Lender
  | .task (.environment (.schedulerAnswers _)), _ => none
  | .task l, s => (s.task.step d l).map fun t => { s with task := t }
  | .schedule call, s =>
    if reports s.task.state call then none
    else some { s with scheduler := GroupScheduler.apply call s.scheduler }
  | .settle, s => match s.task.state.outbox with
    | [] => none
    | (leaseId, evidence) :: rest =>
      let r := GroupScheduler.advanceLease leaseId evidence s.scheduler
      some ⟨{ s.task with
        state := { s.task.state with outbox := rest, answer := r.1.map fun _ => () } }, r.2⟩

def machine (d : Deployment) : Machine Lender LenderLabel where
  init s := (TaskSystem.machine d).init s.task ∧ s.scheduler = GroupScheduler.init
  step s l s' := step d l s = some s'

/-- The call of the scheduler that a step is. -/
def call? (s : Lender) : LenderLabel → Option GroupScheduler.Call
  | .task _ => none
  | .schedule call => some call
  | .settle => s.task.state.outbox.head?.map fun x => .advanceLease x.1 x.2

/-- The call leaves every RESTORE that awaits its evidence the claims of its lease. -/
def Reserving (s : Lender) (l : LenderLabel) : Prop := ∀ call ∈ call? s l, s.scheduler.ReservationSafe call

/-- A run that keeps the reservations. -/
abbrev ReservingRun (d : Deployment) : Lender → Lender → Prop :=
  (machine d).RunWhere fun s l _ => Reserving s l

variable {s t : Lender} {l : LenderLabel}

theorem step_task {l : TaskLabel} (hs : step d (.task l) s = some t) :
    (∀ r, l ≠ .environment (.schedulerAnswers r)) ∧
      ∃ u, TaskSystem.step d l s.task = some u ∧ t = { s with task := u } := by
  unfold step at hs
  split at hs
  · cases hs
  · rename_i hne heq
    cases heq
    obtain ⟨u, hu, rfl⟩ := Option.map_eq_some_iff.1 hs
    exact ⟨fun r hr => hne r hr, u, hu, rfl⟩
  · rename_i heq
    cases heq
  · rename_i heq
    cases heq

theorem step_schedule (hs : step d (.schedule call) s = some t) :
    reports s.task.state call = false ∧
      t = { s with scheduler := GroupScheduler.apply call s.scheduler } := by
  simp only [step] at hs
  split at hs
  · cases hs
  · rename_i hno
    cases hs
    exact ⟨Bool.eq_false_iff.2 hno, rfl⟩

/-- For the task, `settle` is one of the answers it has to expect. -/
theorem task_step (hs : step d l s = some t) :
    (∃ l', TaskSystem.step d l' s.task = some t.task) ∨ t.task = s.task := by
  unfold step at hs
  split at hs
  · cases hs
  · obtain ⟨u, hu, rfl⟩ := Option.map_eq_some_iff.1 hs
    exact .inl ⟨_, hu⟩
  · split at hs <;> cases hs
    exact .inr rfl
  · split at hs
    · cases hs
    · rename_i leaseId evidence rest ho
      cases hs
      refine .inl ⟨.environment (.schedulerAnswers
        ((GroupScheduler.advanceLease leaseId evidence s.scheduler).1.map fun _ => ())), ?_⟩
      simp only [TaskSystem.step, TaskState.environment, ho, Option.map_some]

theorem step_scheduler (hs : step d l s = some t) :
    t.scheduler = (call? s l).elim s.scheduler fun call => GroupScheduler.apply call s.scheduler := by
  cases l with
  | task l =>
    obtain ⟨-, u, -, rfl⟩ := step_task hs
    rfl
  | schedule call =>
    obtain ⟨-, rfl⟩ := step_schedule hs
    rfl
  | settle =>
    simp only [step] at hs
    split at hs
    · cases hs
    · rename_i ho
      cases hs
      rw [call?, ho]
      rfl

/-- A run whose calls are reserving keeps the reservations. -/
theorem reserved_reachable (h : (machine d).ReachableWhere (fun s l _ => Reserving s l) s) :
    s.scheduler.Reserved ∧ s.scheduler.OneRestore := by
  refine h.invariant (I := fun s => s.scheduler.Reserved ∧ s.scheduler.OneRestore)
    (fun s hs => hs.2 ▸ GroupScheduler.reserved_init) fun s l t hI hs hcall => ?_
  have hstep := step_scheduler (d := d) hs
  cases hc : call? s l with
  | none =>
    rw [hc] at hstep
    rw [hstep]
    exact hI
  | some call =>
    rw [hc] at hstep
    rw [hstep]
    exact GroupScheduler.reserved_apply hI (hcall call hc)

theorem run_task {P : Lender → LenderLabel → Lender → Prop} (h : (machine d).RunWhere P s t) :
    (TaskSystem.machine d).Run s.task t.task := by
  induction h with
  | refl => exact .refl _
  | tail _ hs _ ih =>
    rcases task_step hs with ⟨l', hl⟩ | heq
    · exact ih.tail hl trivial
    · rw [heq]
      exact ih

/-! ## Submissions -/

/-- While the thread of an operation runs, a submission starts no other. -/
theorem submit_running {s : TaskSystem} (h : TaskSystem.Sound d False s) (hrun : Run d c s.state)
    (c' : OperationCommand) (lease : Option Lease) (starts : Bool) : ∃ leases,
      (s.submit d c' lease starts).2 = { s with state := { s.state with operationLeases := leases } } := by
  obtain ⟨hcur, r, hr, hst⟩ := hrun
  cases hr' : s.state.journal.records.get? c'.operationId with
  | none =>
    obtain ⟨e, he⟩ : ∃ e, s.submit d c' lease starts = (.error e, s) := submit_refused hcur hr'
    rw [he]
    exact ⟨_, rfl⟩
  | some r' =>
    obtain ⟨res, leases, hsub, hlaunch⟩ := submitOperation_recorded (d := d) lease
      (s.worker.any fun w => w.1 = c'.operationId) hr'
    refine ⟨leases, ?_⟩
    unfold TaskSystem.submit
    dsimp only
    rw [hsub]
    rcases res with e | _ | _
    · rfl
    · rfl
    · obtain ⟨hunknown, hc'⟩ := hlaunch rfl
      have heq : c' = c := Option.some.inj ((hc'.symm.trans
        (h.inv.journal.current_eq hr' (by rw [hunknown]; rfl)).symm).trans hcur)
      rw [heq, hr] at hr'
      cases hr'
      rw [hst] at hunknown
      cases hunknown

/-- The exact replay of an operation that has SUCCEEDED is acknowledged, and changes nothing. -/
theorem submit_succeeded {s : TaskSystem} {r : OperationRecord} (hadd : c.kind ≠ .add)
    (htask : c.target.taskSession = d.taskSession) (hc : s.state.journal.commands.get? c.operationId = some c)
    (hr : s.state.journal.records.get? c.operationId = some r) (hst : r.status = .succeeded)
    (starts : Bool) : s.submit d c none starts = (.ok (), s) := by
  have hbegin : s.state.journal.begin c = .ok (r, s.state.journal) := by
    simp [OperationJournal.begin, hr, hc]
  have hsub : TaskRunner.submitOperation d c none (s.worker.any fun w => w.1 = c.operationId) s.state =
      (.ok false, s.state) := by
    simp [TaskRunner.submitOperation, hadd, htask, hbegin, OperationJournal.query, hr, hst]
  unfold TaskSystem.submit
  dsimp only
  rw [hsub]

end Lender

end ReplicaLending
