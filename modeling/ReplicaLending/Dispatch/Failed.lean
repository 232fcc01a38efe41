import ReplicaLending.Dispatch.Model
import ReplicaLending.Scheduler.Released
import ReplicaLending.Task.Compensation
/-!
# What a FAILED operation has given back

`Inv` ties the TaskRunners to the scheduler: what a TaskRunner runs was staged there under the same
command, and evidence of an operation, recorded or under way, comes from a thread of it. With the
reservations accounted for (`GroupScheduler.Accounted`) and every TaskRunner honest
(`ControlPlane.Honest`), a FAILED ADD or RESTORE has given its lease back, unless its thread could
not be started.
-/

namespace ReplicaLending

namespace OperationJournal

/-- A command is there because it was, or because it has begun. -/
theorem commands_calls {P : OperationCommand → Prop} {j j' : OperationJournal} {o : String}
    {c : OperationCommand} (h : ControlPlane.Calls P j j') (hj : Consistent j)
    (hc : j'.commands.get? o = some c) :
    j.commands.get? o = some c ∨ P c ∧ c.operationId = o := by
  refine (h.invariant (I := fun i => Consistent i ∧ ∀ c, i.commands.get? o = some c →
    j.commands.get? o = some c ∨ P c ∧ c.operationId = o) (fun i k i' hi hstep hk => ?_)
    ⟨hj, fun _ => .inl⟩).2 c hc
  cases hstep
  have he := (call_effect hi.1 k).1
  refine ⟨he.consistent hi.1, fun c hc => ?_⟩
  by_cases hb : ∃ d, k = .begin d
  swap
  · exact hi.2 c (he.commands_eq (fun d hd => hb ⟨d, hd⟩) ▸ hc)
  obtain ⟨d, rfl⟩ := hb
  generalize OperationJournal.apply (.begin d) i = i' at he hc
  cases he with
  | unchanged => exact hi.2 c hc
  | opened d j₀ hnew hfree hj₀ =>
    have hc' : (i.commands.insert d.operationId d).get? o = some c := by
      rcases hj₀ with rfl | rfl <;> exact hc
    rw [Dict.get?_insert] at hc'
    split at hc'
    · rename_i ho
      cases hc'
      exact .inr ⟨hk _ rfl, ho⟩
    · exact hi.2 c hc'

end OperationJournal

namespace Dispatch

open OperationJournal

variable {s t : Dispatch} {σ τ : String}

/-- The scheduler has accepted RELEASED evidence of the operation. -/
def Recorded (s : GroupScheduler) (command : OperationCommand) : Prop :=
  ∃ evidence, s.releaseEvidence.get? (command.leaseId, command.operationId) = some evidence ∧
    evidence.type = .released

/-- … and its lease holds no claim any more, unless for a later RESTORE. -/
def Freed (s : GroupScheduler) (command : OperationCommand) : Prop :=
  Recorded s command ∧ ∃ lease, s.leases.get? command.leaseId = some lease ∧
    (s.ownsNothing lease command.leaseId ∨ s.Reopened command.leaseId)

/-- Every FAILED ADD or RESTORE has given its reservation back. -/
def FailedFreed (s : Dispatch) : Prop :=
  ∀ session o r command, (s.runner session).journal.records.get? o = some r → r.status = .failed →
    (s.runner session).journal.commands.get? o = some command → command.Borrows →
    Freed s.scheduler command

/-- An operation is staged, and its TaskRunner has a record of it. -/
def Begun (s : Dispatch) (o : String) : Prop :=
  ∃ command, s.scheduler.operationCommands.get? o = some command ∧
    ((s.runner command.target.taskSession).journal.records.get? o).isSome = true

/-- What the scheduler and the TaskRunners know of each other. -/
structure Inv (s : Dispatch) : Prop where
  runner : ∀ session, ControlPlane.Inv session (s.runner session)
  accounted : s.scheduler.Accounted
  agreed : ∀ {session o command}, (s.runner session).journal.commands.get? o = some command →
    s.scheduler.operationCommands.get? o = some command
  sent : ∀ {command lease}, (command, lease) ∈ s.commands →
    s.scheduler.operationCommands.get? command.operationId = some command ∧
      s.scheduler.leases.get? command.leaseId = some lease
  reported : ∀ {L o evidence}, s.scheduler.releaseEvidence.get? (L, o) = some evidence → Begun s o
  late : ∀ {L evidence}, (L, evidence) ∈ s.evidence → Begun s evidence.operationId
  honest : ∀ session, (s.runner session).Honest (Recorded s.scheduler)

theorem inv_init : Inv init :=
  ⟨fun _ => ControlPlane.inv_init, GroupScheduler.accounted_init, nofun, nofun, nofun, nofun,
    fun _ => ControlPlane.follows_init⟩

theorem Inv.failedFreed (h : Inv s) : FailedFreed s := by
  intro session o r command hr hs hc hb
  have hrec := (h.honest session).failed hr hs hc hb
  refine ⟨hrec, ?_⟩
  obtain ⟨evidence, he, -⟩ := hrec
  have hgs := h.agreed hc
  obtain rfl := (h.honest session).keyed hc
  obtain ⟨lease, hl⟩ := h.accounted.leased hgs
  refine ⟨lease, hl, h.accounted.freed he hgs ?_ hl⟩
  rcases hb with hk | hk <;> rw [hk] <;> nofun

/-! ## Steps of the scheduler -/

theorem Recorded.effect {gs gs' : GroupScheduler} {c : GroupScheduler.Call} {command : OperationCommand}
    (h : Recorded gs command) (he : GroupScheduler.Effect gs c gs') : Recorded gs' command :=
  h.imp fun _ h => h.imp he.releaseEvidence id

/-- Evidence appears by `advance_lease` only. -/
theorem releaseEvidence_cases {gs gs' : GroupScheduler} {c : GroupScheduler.Call}
    (he : GroupScheduler.Effect gs c gs') {L o : String} {evidence : OperationEvidence}
    (h : gs'.releaseEvidence.get? (L, o) = some evidence) :
    gs.releaseEvidence.get? (L, o) = some evidence ∨ ∃ M, c = .advanceLease M evidence ∧
      evidence.operationId = o := by
  cases he with
  | unchanged | registered | opened => exact .inl h
  | staged command now reply lease hl =>
    rw [GroupScheduler.releaseEvidence_stage] at h
    exact .inl h
  | progressed M ev lease command hf =>
    rw [GroupScheduler.releaseEvidence_progress, Dict.get?_insert] at h
    split at h
    · rename_i hk
      cases h
      exact .inr ⟨M, rfl, (Prod.mk.inj hk).2⟩
    · exact .inl h

theorem Inv.scheduler (h : Inv s) {gs : GroupScheduler} {c : GroupScheduler.Call}
    (he : GroupScheduler.Effect s.scheduler c gs)
    (hc : ∀ L evidence, c = .advanceLease L evidence → Begun s evidence.operationId) :
    Inv { s with scheduler := gs } := by
  have hbegun : ∀ {o}, Begun s o → Begun { s with scheduler := gs } o :=
    fun ⟨command, hs, hr⟩ => ⟨command, he.operationCommands hs, hr⟩
  refine ⟨h.runner, h.accounted.effect he, fun ho => he.operationCommands (h.agreed ho),
    fun hm => ?_, fun hev => ?_, fun hm => hbegun (h.late hm),
    fun session => ControlPlane.Honest.mono (h.honest session) fun c hr => hr.effect he⟩
  · obtain ⟨hs, hl⟩ := h.sent hm
    exact ⟨he.operationCommands hs, he.leases hl⟩
  · obtain hold | ⟨M, hM, ho⟩ := releaseEvidence_cases he hev
    · exact hbegun (h.reported hold)
    · exact ho ▸ hbegun (hc M _ hM)

theorem advanceLease_effect (gs : GroupScheduler) (L : String) (evidence : OperationEvidence) :
    GroupScheduler.Effect gs (.advanceLease L evidence) (gs.advanceLease L evidence).2 :=
  GroupScheduler.apply_effect gs (.advanceLease L evidence)

theorem Inv.advance (h : Inv s) {L : String} {evidence : OperationEvidence}
    (hb : Begun s evidence.operationId) :
    Inv { s with scheduler := (s.scheduler.advanceLease L evidence).2 } :=
  h.scheduler (advanceLease_effect _ L evidence) fun M ev hM => by cases hM; exact hb

/-- What a submission dispatches is staged. -/
theorem dispatched_staged {gs : GroupScheduler} {call : GroupScheduler.Call}
    {command : OperationCommand} {lease : Lease} (h : (command, lease) ∈ dispatched gs call) :
    (GroupScheduler.apply call gs).operationCommands.get? command.operationId = some command ∧
      (GroupScheduler.apply call gs).leases.get? command.leaseId = some lease := by
  unfold dispatched at h
  split at h
  swap
  · cases h
  rename_i c now reply
  split at h
  swap
  · cases h
  rename_i l hcheck
  rw [List.mem_singleton] at h
  cases h
  obtain ⟨hl, -, hprev⟩ := GroupScheduler.submitCheck_ok hcheck
  have he := GroupScheduler.apply_effect gs (.submitOperation command now reply)
  refine ⟨?_, he.leases hl⟩
  obtain hprev | ⟨hnew, -⟩ := hprev
  · exact he.operationCommands hprev
  · simp only [GroupScheduler.apply, GroupScheduler.submitOperation, hcheck, Dict.contains, hnew,
      Option.isSome_none, Bool.false_eq_true, if_false]
    rw [GroupScheduler.operationCommands_stage, Dict.get?_insert_self]

theorem Inv.schedule (h : Inv s) (call : GroupScheduler.Call) : Inv (s.schedule call) := by
  have hcase : s.schedule call = s ∨ (∀ L evidence, call ≠ .advanceLease L evidence) ∧
      s.schedule call = { s with
        scheduler := GroupScheduler.apply call s.scheduler
        commands := s.commands ++ dispatched s.scheduler call } := by
    cases call with
    | advanceLease => exact .inl rfl
    | attachTask | detachTask | submitIdleReport | openLease | submitOperation =>
      exact .inr ⟨nofun, rfl⟩
  obtain he | ⟨hne, he⟩ := hcase <;> rw [he]
  · exact h
  have hs := h.scheduler (GroupScheduler.apply_effect s.scheduler call)
    fun L evidence hc => absurd hc (hne L evidence)
  refine ⟨hs.runner, hs.accounted, hs.agreed, fun hm => ?_, hs.reported, hs.late, hs.honest⟩
  obtain hm | hm := List.mem_append.1 hm
  · exact hs.sent hm
  · exact dispatched_staged hm

/-! ## Steps of a TaskRunner -/

theorem runner_onRunner (σ τ : String) (act : ControlPlane.Act) (s : Dispatch) :
    (s.onRunner σ act).runner τ =
      if τ = σ then ControlPlane.apply σ act (s.runner σ) else s.runner τ :=
  Function.update_apply ..

theorem Inv.onRunner (h : Inv s) {act : ControlPlane.Act}
    (hcommands : ∀ o command, (ControlPlane.apply σ act (s.runner σ)).journal.commands.get? o =
      some command → s.scheduler.operationCommands.get? o = some command)
    (hhonest : (ControlPlane.apply σ act (s.runner σ)).Honest (Recorded s.scheduler)) :
    Inv (s.onRunner σ act) := by
  have hbegun : ∀ {o}, Begun s o → Begun (s.onRunner σ act) o := by
    rintro o ⟨command, hc, hr⟩
    refine ⟨command, hc, ?_⟩
    rw [runner_onRunner]
    split
    · rename_i ht
      rw [ht] at hr
      exact recorded_run (ControlPlane.run_apply act _) (h.runner σ).journal hr
    · exact hr
  refine ⟨fun τ => ?_, h.accounted, fun {τ o command} ho => ?_, h.sent,
    fun hev => hbegun (h.reported hev), fun hm => hbegun (h.late hm), fun τ => ?_⟩
  · rw [runner_onRunner]
    split
    · rename_i ht; rw [ht]; exact (h.runner σ).apply act
    · exact h.runner τ
  · rw [runner_onRunner] at ho
    split at ho
    · exact hcommands o command ho
    · exact h.agreed ho
  · rw [runner_onRunner]
    split
    · exact hhonest
    · exact h.honest τ

/-- A step of a thread; an answered `advance_lease` has to be an accepted one. -/
theorem Inv.work (h : Inv s) {act : ControlPlane.Act} {i : Nat} (hact : act.worker? = some i)
    (hanswer : ∀ j reply evidence next w command, act = .answer j (.ok reply) →
      (s.runner σ).workers[i]? = some w → w.phase = .running (.call (.advanceLease evidence) next) →
      evidence.type = .released →
      (s.runner σ).journal.commands.get? w.operationId = some command → command.Borrows →
      Recorded s.scheduler command) : Inv (s.onRunner σ act) := by
  refine h.onRunner (fun o command hc => ?_) ((h.honest σ).apply ControlPlane.discipline_earned
    (h.runner σ) (fun j w hj hw => ?_) fun command lease failure hs => ?_)
  · rw [ControlPlane.apply_worker hact] at hc
    split at hc
    · exact h.agreed hc
    · rename_i w _
      obtain hc | ⟨hf, -⟩ := commands_calls (ControlPlane.calls_work (P := fun _ => False) i w act _)
        (h.runner σ).journal hc
      · exact h.agreed hc
      · exact hf.elim
  · obtain rfl : i = j := Option.some.inj (hact.symm.trans hj)
    exact ControlPlane.answers_earned fun j reply evidence next c ha hp =>
      hanswer j reply evidence next w c ha hw hp
  · rw [hs] at hact
    cases hact

theorem Inv.thread (h : Inv s) (σ : String) (act : ControlPlane.Act) : Inv (s.thread σ act) := by
  unfold Dispatch.thread
  split
  · exact h
  · rename_i i reply
    split
    · exact h
    · rename_i hadv
      refine h.work rfl fun j reply' evidence next w command _ hw hp => absurd ?_ hadv
      simp [advancingOf, hw, hp, advancing]
  · rename_i hsubmit hanswer
    cases act with
    | submit command lease failure => exact absurd rfl (hsubmit command lease failure)
    | answer i reply => exact absurd rfl (hanswer i reply)
    | setReady ready => exact h.onRunner (fun o c => h.agreed) ((h.honest σ).congr rfl rfl id)
    | start i | raise i e | finish i | handle i | close i =>
      exact h.work rfl fun _ _ _ _ _ _ ha => by cases ha

/-! ## Evidence under way -/

/-- The evidence a thread waits for is of the operation it runs. -/
theorem Inv.waits (h : Inv s) {i : Nat} {w : Worker} {evidence : OperationEvidence}
    {next : Reply → Body} {command : OperationCommand} (hw : (s.runner σ).workers[i]? = some w)
    (hp : w.phase = .running (.call (.advanceLease evidence) next))
    (hc : (s.runner σ).journal.commands.get? w.operationId = some command) :
    evidence.operationId = w.operationId ∧ Begun s evidence.operationId := by
  obtain ⟨ho, -⟩ := (h.honest σ).bodies hw hp hc
  rw [(h.honest σ).keyed hc] at ho
  obtain ⟨r, hr, -⟩ := (h.runner σ).recorded hw
  refine ⟨ho, command, ho ▸ h.agreed hc, ?_⟩
  rw [(h.runner σ).session hc, ho, hr]
  rfl

theorem Inv.deliverEvidence (h : Inv s) (n : Nat) : Inv (s.deliverEvidence n) := by
  unfold Dispatch.deliverEvidence
  split
  · exact h
  · rename_i L evidence hn
    have ha := h.advance (L := L) (h.late (List.mem_of_getElem? hn))
    exact ⟨ha.runner, ha.accounted, ha.agreed, ha.sent, ha.reported,
      fun hm => ha.late (List.mem_of_mem_eraseIdx hm), ha.honest⟩

/-- A lost reply tells a thread nothing. -/
theorem Inv.lost (h : Inv s) (σ : String) (i : Nat) :
    Inv (s.onRunner σ (.answer i (.error lostReply))) :=
  h.work rfl fun _ _ _ _ _ _ ha => by cases ha

theorem Inv.attempt (h : Inv s) {i : Nat} {w : Worker} {evidence : OperationEvidence}
    {next : Reply → Body} {command : OperationCommand} (hw : (s.runner σ).workers[i]? = some w)
    (hp : w.phase = .running (.call (.advanceLease evidence) next))
    (hc : (s.runner σ).journal.commands.get? w.operationId = some command) (fault : Fault) :
    Inv (s.attempt σ i command.leaseId evidence fault) := by
  obtain ⟨ho, hb⟩ := h.waits hw hp hc
  have ha := h.advance (L := command.leaseId) hb
  cases fault with
  | before => exact h.lost σ i
  | after => exact ha.lost σ i
  | late =>
    have h' : Inv { s with evidence := s.evidence ++ [(command.leaseId, evidence)] } := by
      refine ⟨h.runner, h.accounted, h.agreed, h.sent, h.reported, fun hm => ?_, h.honest⟩
      obtain hm | hm := List.mem_append.1 hm
      · exact h.late hm
      · rw [List.mem_singleton] at hm
        cases hm
        exact hb
    exact h'.lost σ i
  | none =>
    refine ha.work rfl fun j reply evidence' next' w' command' hreply hw' hp' ht hc' hbor => ?_
    cases hw.symm.trans hw'
    cases hp.symm.trans hp'
    cases hc.symm.trans hc'
    -- the answer is a success only if the scheduler has recorded the evidence
    have hok : ∃ r, (s.scheduler.advanceLease command.leaseId evidence).1 = .ok r := by
      injection hreply with _ hreply
      cases hr : (s.scheduler.advanceLease command.leaseId evidence).1 with
      | error e => rw [hr] at hreply; cases hreply
      | ok r => exact ⟨r, rfl⟩
    obtain ⟨r, hr⟩ := hok
    obtain ⟨p, -, hans⟩ := GroupScheduler.advanceLease_ok hr
    refine ⟨evidence, ?_, ht⟩
    rw [(h.honest σ).keyed hc, ← ho]
    exact hans.recorded

theorem Inv.report (h : Inv s) (σ : String) (i : Nat) (fault : Fault) :
    Inv (s.report σ i fault) := by
  unfold Dispatch.report
  split
  · exact h
  · rename_i w hw
    split
    · rename_i evidence command hadv hcommand
      obtain ⟨next, hp⟩ : ∃ next, w.phase = .running (.call (.advanceLease evidence) next) := by
        unfold advancing at hadv
        split at hadv
        · rename_i next hp
          cases hadv
          exact ⟨next, hp⟩
        · cases hadv
      exact h.attempt hw hp (ControlPlane.command_of_journal hcommand) fault
    · exact h

/-! ## Submissions -/

/-- A delivered ADD or RESTORE is a new one whose thread cannot be started. -/
def LaunchFails (s : Dispatch) : Label → Prop
  | .deliver n failure => ∃ sent ∈ s.commands[n]?, sent.1.Borrows ∧
      ControlPlane.LaunchFails sent.1.target.taskSession sent.1 failure
        (s.runner sent.1.target.taskSession)
  | _ => False

instance (s : Dispatch) : ∀ l, Decidable (LaunchFails s l)
  | .deliver _ _ => inferInstanceAs (Decidable (∃ sent ∈ _, _))
  | .schedule _ | .thread _ _ | .report _ _ _ | .deliverEvidence _ => inferInstanceAs (Decidable False)

theorem Inv.deliver (h : Inv s) {n : Nat} {failure : Option PyErr}
    (hl : ¬ LaunchFails s (.deliver n failure)) : Inv (s.deliver n failure) := by
  unfold Dispatch.deliver
  split
  · exact h
  · rename_i command lease hn
    have hs := h.sent (List.mem_of_getElem? hn)
    have h' : Inv { s with commands := s.commands.eraseIdx n } :=
      ⟨h.runner, h.accounted, h.agreed, fun hm => h.sent (List.mem_of_mem_eraseIdx hm),
        h.reported, h.late, h.honest⟩
    refine h'.onRunner (fun o c hc => ?_) ((h.honest _).submit (h.runner _) fun hf hb =>
      absurd ⟨_, hn, hb, hf⟩ hl)
    obtain hold | ⟨rfl, rfl⟩ := commands_calls (ControlPlane.calls_submit command (some lease)
      failure _) (h.runner _).journal hc
    · exact h.agreed hold
    · exact hs.1

theorem Inv.apply (h : Inv s) {l : Label} (hl : ¬ LaunchFails s l) : Inv (Dispatch.apply l s) := by
  cases l with
  | schedule call => exact h.schedule call
  | deliver n failure => exact h.deliver hl
  | thread σ act => exact h.thread σ act
  | report σ i fault => exact h.report σ i fault
  | deliverEvidence n => exact h.deliverEvidence n

/-- A thread that cannot be started leaves its operation FAILED with no evidence at all. -/
theorem Inv.not_failedFreed (h : Inv s) {l : Label} (hl : LaunchFails s l) :
    ¬ FailedFreed (Dispatch.apply l s) := by
  cases l with
  | schedule | thread | report | deliverEvidence => exact hl.elim
  | deliver n failure =>
    obtain ⟨⟨command, lease⟩, hn, hb, hf⟩ := hl
    have hn : s.commands[n]? = some (command, lease) := hn
    obtain ⟨hgs, hlease⟩ := h.sent (List.mem_of_getElem? hn)
    have hnew : (s.runner command.target.taskSession).journal.records.get? command.operationId =
      none := hf.2.2.2.1
    obtain ⟨r, hr, hs, hc⟩ := hf.failed (h.honest _) (h.runner _) (h.accounted.named hlease)
    have happly : Dispatch.apply (.deliver n failure) s =
        { s with commands := s.commands.eraseIdx n }.onRunner command.target.taskSession
          (.submit command (some lease) failure) := by
      simp only [Dispatch.apply, Dispatch.deliver, hn]
    intro hall
    rw [happly] at hall
    obtain ⟨⟨evidence, he, -⟩, -⟩ := hall command.target.taskSession command.operationId r command
      (by rw [runner_onRunner, if_pos rfl]; exact hr) hs
      (by rw [runner_onRunner, if_pos rfl]; exact hc) hb
    obtain ⟨command', hgs', hbegun⟩ := h.reported he
    cases hgs.symm.trans hgs'
    rw [hnew] at hbegun
    cases hbegun

/-- **FAILED means the reservation is freed.** In every run in which no thread of a new ADD or
RESTORE fails to start, each FAILED ADD or RESTORE has RELEASED evidence accepted by the scheduler,
and its lease owns nothing unless a later RESTORE has reserved it again; the next step keeps this
exactly when it is no such launch. -/
theorem failed_frees (h : machine.ReachableWhere (fun s l _ => ¬ LaunchFails s l) s) :
    FailedFreed s ∧ ∀ l, FailedFreed (Dispatch.apply l s) ↔ ¬ LaunchFails s l := by
  have hi : Inv s := h.invariant (fun s hs => hs ▸ inv_init) fun s l t hi hstep hl => by
    cases hstep
    exact hi.apply hl
  exact ⟨hi.failedFreed, fun l => ⟨fun hf hl => hi.not_failedFreed hl hf,
    fun hl => (hi.apply hl).failedFreed⟩⟩

/-! ## A concrete lending cycle -/

open GroupScheduler (donorKey borrowerKey command submit released committed opening)

/-- EXIT_READY evidence. -/
def exitReady (id : String) (hid : id ≠ "" := by exact ne_empty holds) : OperationEvidence :=
  ⟨id, .exitReady, 0, [], hid, List.nodup_nil, List.not_mem_nil, noGpus_iff holds⟩

/-- Both TaskRunners are ready, and the DONATE of lease `L` runs up to its accepted evidence. -/
def donating : List Label :=
  opening.map .schedule ++
  [.thread "donor" (.setReady true), .thread "borrower" (.setReady true),
   .schedule (submit (command "d1" .donate donorKey)), .deliver 0 none, .thread "donor" (.start 0),
   .thread "donor" (.answer 0 (.ok (some (exitReady "d1")))),
   .thread "donor" (.answer 0 (.ok (some (committed "d1")))),
   .thread "donor" (.answer 0 (.ok (some (released "d1")))), .report "donor" 0 .none]

/-- Then the thread of the ADD cannot be started. -/
def launching : List Label := donating ++
  [.schedule (submit (command "a1" .add borrowerKey)),
   .deliver 0 (some (.runtimeError "can't start new thread"))]

/-- The borrower's journal says FAILED, the scheduler has no evidence of the operation, and the GPU
is still owned by the lease. -/
theorem launch_leaks :
    machine.Reachable (Machine.exec apply launching init) ∧
    (((Machine.exec apply launching init).runner "borrower").journal.records.get? "a1").map
      (·.status) = some .failed ∧
    (Machine.exec apply launching init).scheduler.releaseEvidence.get? ("L", "a1") = none ∧
    (Machine.exec apply launching init).scheduler.activeGpuOwner.get? "gpu" = some "L" ∧
    ¬ FailedFreed (Machine.exec apply launching init) := by
  have hreach : machine.Reachable (Machine.exec apply launching init) :=
    ⟨init, rfl, Machine.run_exec _ _ _ _⟩
  have hevidence : (Machine.exec apply launching init).scheduler.releaseEvidence.get? ("L", "a1") =
      none := by decide +kernel
  refine ⟨hreach, by decide +kernel, hevidence, by decide +kernel, fun h => ?_⟩
  have hrecord : (((Machine.exec apply launching init).runner "borrower").journal.records.get?
      "a1").map (·.status) = some .failed := by decide +kernel
  obtain ⟨r, hr, hs⟩ := Option.map_eq_some_iff.1 hrecord
  obtain ⟨⟨evidence, he, -⟩, -⟩ := h "borrower" "a1" r (command "a1" .add borrowerKey) hr hs
    (by decide +kernel) (.inl rfl)
  rw [show (command "a1" .add borrowerKey).leaseId = "L" from rfl,
    show (command "a1" .add borrowerKey).operationId = "a1" from rfl, hevidence] at he
  cases he

/-- Here it starts and prepares in vain, and its evidence is accepted. -/
def rollingBack : List Label := donating ++
  [.schedule (submit (command "a1" .add borrowerKey)), .deliver 0 none,
   .thread "borrower" (.start 0), .thread "borrower" (.answer 0 (.ok (some (released "a1")))),
   .report "borrower" 0 .none, .thread "borrower" (.finish 0)]

/-- The FAILED ADD has given the GPU back. -/
theorem failed_frees_rolledBack :
    (((Machine.exec apply rollingBack init).runner "borrower").journal.records.get? "a1").map
      (·.status) = some .failed ∧
    (Machine.exec apply rollingBack init).scheduler.activeGpuOwner.get? "gpu" = none ∧
    FailedFreed (Machine.exec apply rollingBack init) :=
  ⟨by decide +kernel, by decide +kernel,
    (failed_frees ⟨init, rfl, Machine.runWhere_exec _ _ _ _ _ (by decide +kernel)⟩).1⟩

end Dispatch

end ReplicaLending
