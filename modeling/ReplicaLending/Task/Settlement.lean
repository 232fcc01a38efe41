import ReplicaLending.Task.Lender
/-!
# How a RESTORE is reported

Once the load balancer has accepted `commit_ready`, three replies are left: those of `commit_service_change`,
of `restore_and_publish` and of `advance_lease`. What the TaskRunner hears of the first two decides
(`restore_settles`):

| `Heard`     | the lost reply | the operation |
| ---         | ---            | --- |
| `.evidence` | of `advance_lease`, which is sent a second time (task_runner.py:87) | ends SUCCEEDED, its claims freed |
| `.nothing`  | of one of the other two | is refused whenever it is replayed (`Stranded`) |
-/

namespace ReplicaLending.Lender

open TaskProg TaskRunner

variable {d : Deployment} {c : OperationCommand} {ev : OperationEvidence}

/-! ## The end of the thread -/

/-- What the TaskRunner hears of `restore_and_publish`. -/
inductive Heard
  | evidence (ev : OperationEvidence)
  | nothing (e : PyErr)

/-- What an attempt of `_advance_lease` ends with … -/
def outcome (s : TaskState) (o : Choice) : Except PyErr Unit :=
  if o.expired ∨ s.outbox ≠ [] then .error ⟨.rayError, "GetTimeoutError"⟩
  else if o.fault ≠ .none then .error lostReply else s.answer

/-- … once it has waited. -/
def awaitAnswer : TaskProg Unit :=
  Prog.await .answer (fun s o => o.expired || s.outbox.isEmpty) fun s o => (outcome s o, s)

/-- The outer `except` of `_execute_operation` (:437-450). -/
def orUnknown (c : OperationCommand) (p : TaskProg Unit) : TaskProg Unit :=
  p.tryCatch fun e => call (markUnknown c.operationId e)

/-- What the RESTORE branch does with the evidence of `restore_and_publish` (:415-431). -/
def report (c : OperationCommand) (evidence : OperationEvidence) : TaskProg Unit :=
  if evidence.type = .released then
    finishFailedRelease c evidence "RESTORE bootstrap failed; native runtime was verified re-slept"
  else
    (Prog.ofExcept (requireOperationEvidence evidence c.operationId .serviceCommitted "operation")).bind
      fun committed => (advanceLease c committed).bind fun _ =>
        finish c.operationId .succeeded "SERVICE_COMMITTED"

/-- What the thread has left of the second attempt to send its evidence … -/
def secondly (c : OperationCommand) (p : TaskProg Unit) : TaskProg Unit :=
  orUnknown c (p.bind fun _ => finish c.operationId .succeeded "SERVICE_COMMITTED")

/-- … and of the first. -/
def firstly (c : OperationCommand) (ev : OperationEvidence) (p : TaskProg Unit) : TaskProg Unit :=
  secondly c (p.tryCatch fun _ => advanceOnce c.leaseId ev)

/-- What it has left when `restore_and_publish` has ended. -/
def reported (c : OperationCommand) : Heard → TaskProg Unit
  | .evidence ev => firstly c ev (advanceOnce c.leaseId ev)
  | .nothing e => call (markUnknown c.operationId e)

theorem resume_reported (heard : Heard) :
    TaskSystem.resume c.operationId (reported c heard) = some (c.operationId, reported c heard) := by
  cases heard <;> rfl

/-- What is heard is what `restore_and_publish` ends with. -/
inductive Hears (c : OperationCommand) : Except PyErr OperationEvidence → Heard → Prop
  | evidence {ev : OperationEvidence} (ho : ev.operationId = c.operationId)
    (ht : ev.type = .serviceCommitted) : Hears c (.ok ev) (.evidence ev)
  | nothing {e : PyErr} : Hears c (.error e) (.nothing e)

theorem Hears.report {r : Except PyErr OperationEvidence} {heard : Heard} (h : Hears c r heard) :
    orUnknown c ((Prog.ofExcept r).bind (Lender.report c)) = reported c heard := by
  cases h with
  | nothing => rfl
  | @evidence ev ho ht =>
    have hreq : requireOperationEvidence ev c.operationId .serviceCommitted "operation" = .ok ev := by
      simp [requireOperationEvidence, ho, ht, pure, Except.pure]
    show orUnknown c (Lender.report c ev) = _
    unfold Lender.report
    rw [if_neg (by rw [ht]; decide), hreq]
    rfl

/-- What stands around a part of a thread: a step of the part is one of the whole. -/
def Around {α : Type} (f : TaskProg α → TaskProg Unit) : Prop := ∀ tag ready act next,
  f (.step tag ready act next) = .step tag ready act fun s o => f (next s o)

theorem around_secondly : Around (secondly c) := fun _ _ _ _ => rfl

theorem around_firstly : Around (firstly c ev) := fun _ _ _ _ => rfl

/-- A part of a thread that runs to its end leaves the thread at what follows it. -/
theorem run_exec {α : Type} {R : TaskState → TaskState → Prop} {o : String} {g : GroupScheduler}
    (hR : ∀ {s t w}, R s t → ReservingRun d ⟨⟨s, w⟩, g⟩ ⟨⟨t, w⟩, g⟩)
    {f : TaskProg α → TaskProg Unit} (hf : Around f) {p : TaskProg α} {s t : TaskState} {xs : List Choice}
    {r : Except PyErr α} (h : p.Exec R s xs r t) : ReservingRun d ⟨⟨s, TaskSystem.resume o (f p)⟩, g⟩
      ⟨⟨t, TaskSystem.resume o (f (Prog.ofExcept r))⟩, g⟩ := by
  induction h with
  | ret => exact .refl _
  | err => exact .refl _
  | @step tag ready act next s t u x xs r hrely hready _ ih =>
    refine ((hR hrely).tail (l := .task (.work x)) ?_ fun _ hcall => (by cases hcall)).trans ih
    rw [hf]
    simp only [machine, Lender.step, TaskSystem.step, TaskSystem.work, TaskSystem.resume, hready, if_true,
      Option.map_some]

/-- The thread of a RESTORE is at `reported` when `restore_and_publish` has ended, whatever the rest of the task
does in the meantime. -/
theorem run_reported {R : TaskState → TaskState → Prop} {s s₁ s₂ s₃ : TaskState} {g : GroupScheduler}
    {x : Choice} {xs ys : List Choice} {reconciling : Bool} {prepared : Rollouter.Prepared}
    {r : Except PyErr OperationEvidence} {heard : Heard}
    (hR : ∀ {s t w}, R s t → ReservingRun d ⟨⟨s, w⟩, g⟩ ⟨⟨t, w⟩, g⟩)
    (hrefl : R s s) (hk : c.kind = .restore)
    (hopen : openRecord c.operationId s x = (.ok (c, reconciling), s₁))
    (hprepare : (rpc (Rollouter.prepareReplica d c.target c.operationId none)).Exec R s₁ xs (.ok prepared) s₂)
    (hpublish : (rpc (Trainer.restoreAndPublish d c.operationId)).Exec R s₂ ys r s₃)
    (hheard : Hears c r heard) : ReservingRun d
      ⟨⟨s, TaskSystem.resume c.operationId (executeOperation d c.operationId)⟩, g⟩
      ⟨⟨s₃, some (c.operationId, reported c heard)⟩, g⟩ := by
  have hcall : (call (openRecord c.operationId)).Exec R s [x] (openRecord c.operationId s x).1
    (openRecord c.operationId s x).2 := .call x hrefl
  rw [hopen] at hcall
  have hstart := run_exec (o := c.operationId) hR
    (f := fun p => orUnknown c (p.bind fun q => lifecycle d q.1 q.2)) (fun _ _ _ _ => rfl) hcall
  have hbranch : (Prog.ofExcept (.ok (c, reconciling)) : TaskProg _).bind (fun q => lifecycle d q.1 q.2) =
      executeRestore d c := by
    show lifecycle d c reconciling = _
    unfold lifecycle
    rw [hk]
  rw [hbranch] at hstart
  have hbind := run_exec (o := c.operationId) hR (f := fun p => orUnknown c
    (p.bind fun _ => (rpc (Trainer.restoreAndPublish d c.operationId)).bind (report c)))
    (fun _ _ _ _ => rfl) hprepare
  have hreply := run_exec (o := c.operationId) hR (f := fun p => orUnknown c (p.bind (report c)))
    (fun _ _ _ _ => rfl) hpublish
  rw [hheard.report, resume_reported] at hreply
  exact (hstart.trans hbind).trans hreply

/-! ## Where the thread is -/

variable {s t : Lender} {lost : Bool} {n : Nat} {p : TaskProg Unit}

/-- Whatever has been sent is answered. -/
def Answers (c : OperationCommand) (ev : OperationEvidence) (s : Lender) : Prop :=
  s.task.state.outbox = [] → s.task.state.answer = .ok () ∧ Paid c ev s.scheduler

/-- The thread between two steps, and how much it has left to do; `lost` when a reply has been lost. -/
inductive Doing (c : OperationCommand) (ev : OperationEvidence) (s : Lender) :
    Bool → Nat → TaskProg Unit → Prop
  | sending {lost : Bool} : Doing c ev s lost 3 (firstly c ev (advanceOnce c.leaseId ev))
  | waiting {lost : Bool} (h : Answers c ev s) : Doing c ev s lost 1 (firstly c ev awaitAnswer)
  | resending : Doing c ev s true 3 (secondly c (advanceOnce c.leaseId ev))
  | rewaiting (h : Answers c ev s) : Doing c ev s true 1 (secondly c awaitAnswer)
  | finishing {lost : Bool} (h : Paid c ev s.scheduler) : Doing c ev s lost 0 (secondly c (.ret ()))

theorem Doing.mono (h : Doing c ev s lost n p) (ha : Answers c ev s → Answers c ev t)
    (hg : Paid c ev s.scheduler → Paid c ev t.scheduler) : Doing c ev t lost n p := by
  cases h with
  | sending => exact .sending
  | waiting h => exact .waiting (ha h)
  | resending => exact .resending
  | rewaiting h => exact .rewaiting (ha h)
  | finishing h => exact .finishing (hg h)

/-- The RESTORE is being reported. -/
structure Underway (d : Deployment) (c : OperationCommand) (ev : OperationEvidence) (lost : Bool) (n : Nat)
    (s : Lender) : Prop where
  current : Run d c s.task.state
  sent : ∀ x ∈ s.task.state.outbox, x = (c.leaseId, ev)
  claims : Due c s.scheduler ∨ Paid c ev s.scheduler
  thread : ∃ p, s.task.worker = some (c.operationId, p) ∧ Doing c ev s lost n p

/-- It has been reported. -/
structure Concluded (c : OperationCommand) (ev : OperationEvidence) (s : Lender) : Prop where
  succeeded : ∃ r, s.task.state.journal.records.get? c.operationId = some r ∧ r.status = .succeeded
  paid : Paid c ev s.scheduler

theorem run_of_journal {u v : TaskState} (h : Run d c u) (hj : v.journal = u.journal) : Run d c v := by
  rw [Run, Cur] at h ⊢
  rw [hj]
  exact h

/-- A step that is not the thread's, and leaves the evidence on its way. -/
theorem Underway.beside (h : Underway d c ev lost n s) (hg : t.scheduler = s.scheduler)
    (hw : t.task.worker = s.task.worker) (hj : t.task.state.journal = s.task.state.journal)
    (ho : t.task.state.outbox = s.task.state.outbox) (ha : t.task.state.answer = s.task.state.answer) :
    Underway d c ev lost n t := by
  obtain ⟨p, hp, hdoing⟩ := h.thread
  refine ⟨run_of_journal h.current hj, by rw [ho]; exact h.sent, by rw [hg]; exact h.claims, p, hw.trans hp,
    hdoing.mono ?_ ?_⟩
  · rw [Answers, Answers, ho, ha, hg]
    exact id
  · rw [hg]
    exact id

/-- A step of the scheduler's. -/
theorem Underway.schedule (h : Underway d c ev lost n s) {call : GroupScheduler.Call}
    (hk : c.kind = .restore) (ho : ev.operationId = c.operationId) (hcall : Clear c s.scheduler call)
    (hother : ∀ l ev, call = .advanceLease l ev → ev.operationId ≠ c.operationId) :
    Underway d c ev lost n { s with scheduler := GroupScheduler.apply call s.scheduler } := by
  have hpaid : Paid c ev s.scheduler → Paid c ev (GroupScheduler.apply call s.scheduler) :=
    fun h => h.apply ho hcall
  obtain ⟨p, hp, hdoing⟩ := h.thread
  refine ⟨h.current, h.sent, h.claims.imp (fun h => h.apply hk hcall hother) hpaid, p, hp,
    hdoing.mono (fun ha hnil => ?_) hpaid⟩
  obtain ⟨hok, hpay⟩ := ha hnil
  exact ⟨hok, hpaid hpay⟩

/-- The scheduler accepts the evidence, be it the first time or not. -/
theorem accepts (hg : Due c s.scheduler ∨ Paid c ev s.scheduler) (hk : c.kind = .restore)
    (ho : ev.operationId = c.operationId) (ht : ev.type = .serviceCommitted) :
    (∃ r, (GroupScheduler.advanceLease c.leaseId ev s.scheduler).1 = .ok r) ∧
      Paid c ev (GroupScheduler.advanceLease c.leaseId ev s.scheduler).2 := by
  rcases hg with hdue | hpaid
  · exact hdue.advance hk ho ht
  · rw [hpaid.answered.replay]
    exact ⟨⟨_, rfl⟩, hpaid⟩

theorem Underway.settle (h : Underway d c ev lost n s) (hk : c.kind = .restore)
    (ho : ev.operationId = c.operationId) (ht : ev.type = .serviceCommitted)
    (hs : step d .settle s = some t) : Underway d c ev lost n t ∧
      t.task.state.outbox.length < s.task.state.outbox.length := by
  simp only [step] at hs
  split at hs
  · cases hs
  rename_i leaseId evidence rest hout
  cases hs
  cases h.sent (leaseId, evidence) (by rw [hout]; exact List.mem_cons_self)
  obtain ⟨⟨r, hr⟩, hpaid⟩ := accepts h.claims hk ho ht
  obtain ⟨p, hp, hdoing⟩ := h.thread
  refine ⟨⟨h.current, fun x hx => h.sent x (by rw [hout]; exact List.mem_cons_of_mem _ hx), .inr hpaid, p, hp,
    hdoing.mono (fun _ _ => ⟨by rw [hr]; rfl, hpaid⟩) fun _ => hpaid⟩, ?_⟩
  simp [hout]

/-! ## What the thread does -/

/-- The replies of the thread's calls arrive. -/
def Replies (o : Choice) : Prop := o.fault = .none ∧ o.expired = false

/-- A step of a thread is the first one of what it has left. -/
theorem work_step {s : TaskSystem} {o : Choice} {id : String} {tag : Event} {ready : TaskState → Choice → Bool}
    {act : TaskState → Choice → TaskState} {next : TaskState → Choice → TaskProg Unit}
    (hw : s.worker = some (id, .step tag ready act next)) : s.work o =
      if ready s.state o then some ⟨act s.state o, TaskSystem.resume id (next s.state o)⟩ else none := by
  unfold TaskSystem.work
  rw [hw]

theorem work_sending {s : TaskSystem} {o : Choice} {f : TaskProg Unit → TaskProg Unit}
    (hf : Around f) (hw : s.worker = some (c.operationId, f (advanceOnce c.leaseId ev))) : s.work o =
      some (if o.fault = .before then ⟨s.state, TaskSystem.resume c.operationId (f (.err lostReply))⟩
        else ⟨{ s.state with outbox := s.state.outbox ++ [(c.leaseId, ev)] },
          TaskSystem.resume c.operationId (f awaitAnswer)⟩) := by
  have hstep := work_step (o := o) (hw.trans (congrArg (fun p => some (c.operationId, p)) (hf _ _ _ _)))
  rw [hstep, if_pos rfl]
  by_cases hb : o.fault = .before
  · simp only [if_pos hb]
    rfl
  · simp only [if_neg hb]
    rfl

theorem work_waiting {s : TaskSystem} {o : Choice} {f : TaskProg Unit → TaskProg Unit}
    (hf : Around f) (hw : s.worker = some (c.operationId, f awaitAnswer)) : s.work o =
      if o.expired || s.state.outbox.isEmpty then
        some ⟨s.state, TaskSystem.resume c.operationId (f (Prog.ofExcept (outcome s.state o)))⟩
      else none :=
  work_step (hw.trans (congrArg (fun p => some (c.operationId, p)) (hf _ _ _ _)))

/-- The operation ends SUCCEEDED. -/
theorem work_finishing {s : TaskSystem} {o : Choice} (hi : Inv d False s.state) (hrun : Run d c s.state)
    (hw : s.worker = some (c.operationId, secondly c (.ret ()))) :
    ∃ u, s.work o = some u ∧ ∃ r, u.state.journal.records.get? c.operationId = some r ∧
      r.status = .succeeded := by
  obtain ⟨hcur, r, hr, hst⟩ := hrun
  have hfinish : s.state.journal.finish c.operationId .succeeded (some "SERVICE_COMMITTED") = _ :=
    OperationJournal.finish_eq hi.journal hr (by rw [hst]; rfl) (hi.cur_command hcur).1 rfl
  rw [work_step (o := o) hw, if_pos rfl]
  refine ⟨_, rfl, ⟨c.operationId, .succeeded, some "SERVICE_COMMITTED"⟩, ?_, rfl⟩
  dsimp only [finishRecord]
  rw [hfinish]
  exact Dict.get?_insert_self _ _ _

/-- The thread goes on, and has sent nothing but the evidence. -/
theorem Underway.next {lost' : Bool} {m : Nat} {st : TaskState} (h : Underway d c ev lost n s)
    (hj : st.journal = s.task.state.journal) (hsent : ∀ x ∈ st.outbox, x = (c.leaseId, ev))
    (hp : Doing c ev ⟨⟨st, some (c.operationId, p)⟩, s.scheduler⟩ lost' m p) :
    Underway d c ev lost' m ⟨⟨st, some (c.operationId, p)⟩, s.scheduler⟩ :=
  ⟨run_of_journal h.current hj, hsent, h.claims, p, rfl, hp⟩

/-- An attempt is made: the evidence is on its way, or the call is lost. -/
theorem Underway.send {f : TaskProg Unit → TaskProg Unit} {lost' : Bool} (h : Underway d c ev lost 3 s)
    (hf : Around f) (hw : s.task.worker = some (c.operationId, f (advanceOnce c.leaseId ev)))
    (hwait : ∀ u, Answers c ev u → Doing c ev u lost' 1 (f awaitAnswer)) {o : Choice} {u : TaskSystem}
    (hwork : s.task.work o = some u) (hb : o.fault ≠ .before) : Underway d c ev lost' 1 ⟨u, s.scheduler⟩ ∧
      u.state.outbox.length = s.task.state.outbox.length + 1 := by
  rw [work_sending hf hw, if_neg hb] at hwork
  cases hwork
  have hgo : TaskSystem.resume c.operationId (f awaitAnswer) = some (c.operationId, f awaitAnswer) := by
    rw [awaitAnswer, Prog.await, hf]
    rfl
  rw [hgo]
  refine ⟨h.next rfl (fun x hx => ?_) (hwait _ fun hnil => ?_), by simp⟩
  · rcases List.mem_append.1 hx with hx | hx
    · exact h.sent x hx
    · exact List.mem_singleton.1 hx
  · simp at hnil

/-- What a step of the thread comes to: with its replies it brings the report on, and losing one for the first
time does not end it. -/
structure Moves (d : Deployment) (c : OperationCommand) (ev : OperationEvidence) (lost : Bool) (n : Nat)
    (s : Lender) (o : Choice) (u : TaskSystem) : Prop where
  replies : Replies o → Concluded c ev ⟨u, s.scheduler⟩ ∨
    ∃ m, Underway d c ev lost m ⟨u, s.scheduler⟩ ∧
      m + u.state.outbox.length < n + s.task.state.outbox.length
  loses : lost = false → Concluded c ev ⟨u, s.scheduler⟩ ∨ ∃ m, Underway d c ev true m ⟨u, s.scheduler⟩

/-- An answer that arrives is the scheduler's, and it has accepted. -/
theorem Answers.outcome {o : Choice} (h : Answers c ev s)
    (hready : (o.expired || s.task.state.outbox.isEmpty) = true) :
    outcome s.task.state o = .ok () ∧ Paid c ev s.scheduler ∨
      (∃ e, outcome s.task.state o = .error e) ∧ ¬ Replies o := by
  unfold Lender.outcome
  by_cases hexpired : o.expired = true ∨ s.task.state.outbox ≠ []
  · refine .inr ⟨⟨_, if_pos hexpired⟩, fun hr => ?_⟩
    rw [hr.2, Bool.false_or, List.isEmpty_iff] at hready
    simp [hr.2, hready] at hexpired
  rw [if_neg hexpired]
  simp only [not_or, not_not] at hexpired
  obtain ⟨hok, hpaid⟩ := h hexpired.2
  by_cases hfault : o.fault = .none
  · rw [if_neg (not_not.2 hfault)]
    exact .inl ⟨hok, hpaid⟩
  · rw [if_pos hfault]
    exact .inr ⟨⟨_, rfl⟩, fun hr => hfault hr.1⟩

theorem Underway.work (h : Underway d c ev lost n s) (hi : Inv d False s.task.state) {o : Choice}
    {u : TaskSystem} (hwork : s.task.work o = some u) : Moves d c ev lost n s o u := by
  obtain ⟨p, hp, hdoing⟩ := h.thread
  cases hdoing with
  | sending =>
    by_cases hb : o.fault = .before
    · rw [work_sending around_firstly hp, if_pos hb] at hwork
      cases hwork
      refine ⟨fun hr => ?_, fun _ => .inr ⟨3, h.next rfl h.sent .resending⟩⟩
      rw [hr.1] at hb
      cases hb
    · have hsend : ∀ lost', Underway d c ev lost' 1 ⟨u, s.scheduler⟩ ∧
          u.state.outbox.length = s.task.state.outbox.length + 1 := fun lost' =>
        h.send around_firstly hp (fun _ => .waiting) hwork hb
      refine ⟨fun _ => .inr ⟨1, (hsend lost).1, ?_⟩, fun _ => .inr ⟨1, (hsend true).1⟩⟩
      have hlen := (hsend lost).2
      omega
  | resending =>
    refine ⟨fun hr => ?_, fun hl => by cases hl⟩
    obtain ⟨hnext, hlen⟩ := h.send around_secondly hp (fun _ => .rewaiting) hwork (by rw [hr.1]; decide)
    exact .inr ⟨1, hnext, by omega⟩
  | waiting ha =>
    rw [work_waiting around_firstly hp] at hwork
    split at hwork
    · rename_i hready
      cases hwork
      rcases ha.outcome hready with ⟨hok, hpaid⟩ | ⟨⟨e, he⟩, hno⟩
      · rw [hok]
        exact ⟨fun _ => .inr ⟨0, h.next rfl h.sent (.finishing hpaid), by simp⟩,
          fun _ => .inr ⟨0, h.next rfl h.sent (.finishing hpaid)⟩⟩
      · rw [he]
        exact ⟨fun hr => (hno hr).elim, fun _ => .inr ⟨3, h.next rfl h.sent .resending⟩⟩
    · cases hwork
  | rewaiting ha =>
    rw [work_waiting around_secondly hp] at hwork
    split at hwork
    · rename_i hready
      cases hwork
      refine ⟨fun hr => ?_, fun hl => by cases hl⟩
      rcases ha.outcome hready with ⟨hok, hpaid⟩ | ⟨-, hno⟩
      · rw [hok]
        exact .inr ⟨0, h.next rfl h.sent (.finishing hpaid), by simp⟩
      · exact (hno hr).elim
    · cases hwork
  | finishing hpaid =>
    obtain ⟨u', hu, hdone⟩ := work_finishing (o := o) hi h.current hp
    rw [hu] at hwork
    cases hwork
    exact ⟨fun _ => .inl ⟨hdone, hpaid⟩, fun _ => .inl ⟨hdone, hpaid⟩⟩

/-! ## Every step -/

/-- All replies arrive at the thread of the RESTORE, and the calls of the scheduler are clear. -/
structure Smooth (c : OperationCommand) (s : Lender) (l : LenderLabel) : Prop where
  replies : ∀ {o p}, l = .task (.work o) → s.task.worker = some (c.operationId, p) → Replies o
  clear : ∀ call ∈ call? s l, Clear c s.scheduler call

abbrev SmoothRun (d : Deployment) (c : OperationCommand) : Lender → Lender → Prop :=
  (machine d).RunWhere fun s l _ => Smooth c s l

/-- The RESTORE is being reported, or it has been. -/
structure Accounted (d : Deployment) (c : OperationCommand) (ev : OperationEvidence) (lost : Bool)
    (s : Lender) : Prop where
  task : TaskSystem.Peaceful d s.task
  known : s.task.state.journal.commands.get? c.operationId = some c
  progress : Concluded c ev s ∨ ∃ n, Underway d c ev lost n s

theorem Accounted.losing (h : Accounted d c ev false s) : Accounted d c ev true s := by
  refine ⟨h.task, h.known, h.progress.imp id fun ⟨n, hn⟩ => ?_⟩
  obtain ⟨p, hp, hdoing⟩ := hn.thread
  refine ⟨n, hn.current, hn.sent, hn.claims, p, hp, ?_⟩
  cases hdoing with
  | sending => exact .sending
  | waiting h => exact .waiting h
  | finishing h => exact .finishing h

/-- The task keeps its books, whatever happens to it. -/
theorem Accounted.books {l : LenderLabel} (h : Accounted d c ev lost s) (hs : step d l s = some t) :
    TaskSystem.Peaceful d t.task ∧ t.task.state.journal.commands.get? c.operationId = some c ∧
      ∀ r, s.task.state.journal.records.get? c.operationId = some r → r.status.resolved = true →
        t.task.state.journal.records.get? c.operationId = some r := by
  rcases task_step hs with ⟨l', hl⟩ | heq
  · obtain ⟨hpeace, hbooks, -⟩ := h.task.step hl
    exact ⟨hpeace, hbooks.commands h.known, fun r hr hres => h.task.resolved hl hr hres⟩
  · rw [heq]
    exact ⟨h.task, h.known, fun r hr _ => hr⟩

/-- What has been reported stays so. -/
theorem Accounted.concluded {l : LenderLabel} (h : Accounted d c ev lost s)
    (ho : ev.operationId = c.operationId) (hs : step d l s = some t)
    (hclear : ∀ call ∈ call? s l, Clear c s.scheduler call) (hdone : Concluded c ev s) : Concluded c ev t := by
  obtain ⟨-, -, hkept⟩ := h.books hs
  obtain ⟨⟨r, hr, hst⟩, hpaid⟩ := hdone
  refine ⟨⟨r, hkept r hr (by rw [hst]; rfl), hst⟩, ?_⟩
  rw [step_scheduler hs]
  cases hcall : call? s l with
  | none => exact hpaid
  | some call => exact hpaid.apply ho (hclear call hcall)

/-- A step of the task that is not the thread's. -/
theorem Accounted.beside {l : TaskLabel} (h : Accounted d c ev lost s) (hrun : Underway d c ev lost n s)
    (hwork : ∀ o, l ≠ .work o) (hs : step d (.task l) s = some t) : Underway d c ev lost n t := by
  obtain ⟨hanswer, u, hu, rfl⟩ := step_task hs
  cases l with
  | work o => exact (hwork o rfl).elim
  | submit c' lease starts =>
    cases hu
    obtain ⟨leases, heq⟩ := submit_running h.task.books.sound hrun.current c' lease starts
    rw [heq]
    exact hrun.beside rfl rfl rfl rfl rfl
  | environment e =>
    obtain ⟨st, he, rfl⟩ := Option.map_eq_some_iff.1 hu
    have hbesides := environment_besides he
    obtain ⟨hout, hans⟩ := hbesides.reports fun r hr => hanswer r (by rw [hr])
    exact hrun.beside rfl rfl hbesides.journal hout hans

theorem Accounted.step {l : LenderLabel} (h : Accounted d c ev lost s) (hk : c.kind = .restore)
    (ho : ev.operationId = c.operationId) (ht : ev.type = .serviceCommitted)
    (hs : Lender.step d l s = some t) (hsmooth : Smooth c s l) : Accounted d c ev lost t := by
  obtain ⟨hpeace, hknown, -⟩ := h.books hs
  refine ⟨hpeace, hknown, ?_⟩
  rcases h.progress with hdone | ⟨n, hrun⟩
  · exact .inl (h.concluded ho hs hsmooth.clear hdone)
  cases l with
  | settle => exact .inr ⟨n, (hrun.settle hk ho ht hs).1⟩
  | schedule call =>
    obtain ⟨hno, rfl⟩ := step_schedule hs
    refine .inr ⟨n, hrun.schedule hk ho (hsmooth.clear call rfl) fun l ev' hcall heq => ?_⟩
    subst hcall
    simp [reports, Dict.contains, heq, h.known] at hno
  | task l =>
    cases l with
    | submit c' lease starts => exact .inr ⟨n, h.beside hrun (fun _ hw => by cases hw) hs⟩
    | environment e => exact .inr ⟨n, h.beside hrun (fun _ hw => by cases hw) hs⟩
    | work o =>
      obtain ⟨-, u, hu, rfl⟩ := step_task hs
      obtain ⟨p, hp, -⟩ := hrun.thread
      rcases (hrun.work h.task.books.sound.inv hu).replies (hsmooth.replies rfl hp) with hdone | ⟨m, hm, -⟩
      · exact .inl hdone
      · exact .inr ⟨m, hm⟩

/-- One reply is lost. -/
theorem Accounted.lose {o : Choice} (h : Accounted d c ev false s) (ho : ev.operationId = c.operationId)
    (hs : Lender.step d (.task (.work o)) s = some t) : Accounted d c ev true t := by
  obtain ⟨hpeace, hknown, -⟩ := h.books hs
  refine ⟨hpeace, hknown, ?_⟩
  obtain ⟨-, u, hu, rfl⟩ := step_task hs
  rcases h.progress with hdone | ⟨n, hrun⟩
  · exact .inl (h.concluded ho hs (fun _ hcall => by cases hcall) hdone)
  · exact (hrun.work h.task.books.sound.inv hu).loses rfl

theorem Accounted.run (h : Accounted d c ev lost s) (hk : c.kind = .restore)
    (ho : ev.operationId = c.operationId) (ht : ev.type = .serviceCommitted)
    (hrun : SmoothRun d c s t) : Accounted d c ev lost t :=
  hrun.invariant (I := Accounted d c ev lost) (fun _ _ _ hi hs hsm => hi.step hk ho ht hs hsm) h

/-! ## The report comes to its end -/

/-- Every call replies. -/
def replying : Choice := ⟨.none, fun _ => .none, 0, "", none, false⟩

theorem step_work {o : Choice} {u : TaskSystem} (hu : s.task.work o = some u) :
    Lender.step d (.task (.work o)) s = some ⟨u, s.scheduler⟩ := by
  simp only [Lender.step, TaskSystem.step, hu, Option.map_some]

/-- A step of the thread whose replies arrive is smooth. -/
theorem Replies.smooth {o : Choice} (ho : Replies o) : Smooth c s (.task (.work o)) :=
  ⟨fun hl _ => by cases hl; exact ho, fun _ hcall => by cases hcall⟩

/-- Once the evidence is processed, the thread is not kept waiting. -/
theorem Underway.ready (h : Underway d c ev lost n s) (hi : Inv d False s.task.state)
    (hout : s.task.state.outbox = []) : ∃ u, s.task.work replying = some u := by
  obtain ⟨p, hp, hdoing⟩ := h.thread
  cases hdoing with
  | sending => exact ⟨_, work_sending around_firstly hp⟩
  | resending => exact ⟨_, work_sending around_secondly hp⟩
  | waiting =>
    rw [work_waiting around_firstly hp, hout]
    exact ⟨_, rfl⟩
  | rewaiting =>
    rw [work_waiting around_secondly hp, hout]
    exact ⟨_, rfl⟩
  | finishing =>
    obtain ⟨u, hu, -⟩ := work_finishing (o := replying) hi h.current hp
    exact ⟨u, hu⟩

/-- If the scheduler processes what it is sent and the replies arrive, the report ends. -/
theorem Accounted.ends (hk : c.kind = .restore) (ho : ev.operationId = c.operationId)
    (ht : ev.type = .serviceCommitted) (k : Nat) : ∀ {s : Lender} {n : Nat}, Accounted d c ev lost s →
      Underway d c ev lost n s → n + s.task.state.outbox.length < k →
      ∃ u, SmoothRun d c s u ∧ Concluded c ev u := by
  induction k with
  | zero => intro s n _ _ hlt; omega
  | succ k ih =>
    intro s n h hrun hlt
    cases hout : s.task.state.outbox with
    | nil =>
      obtain ⟨u, hu⟩ := hrun.ready h.task.books.sound.inv hout
      have hreplies : Replies replying := ⟨rfl, rfl⟩
      have hs : Lender.step d (.task (.work replying)) s = some ⟨u, s.scheduler⟩ := step_work hu
      have hsmooth : Smooth c s (.task (.work replying)) := hreplies.smooth
      have hsingle := Machine.RunWhere.single (M := machine d)
        (P := fun s l _ => Smooth c s l) hs hsmooth
      rcases (hrun.work h.task.books.sound.inv hu).replies hreplies with hdone | ⟨m, hm, hless⟩
      · exact ⟨_, hsingle, hdone⟩
      · obtain ⟨v, hv, hdone⟩ := ih (h.step hk ho ht hs hsmooth) hm (by dsimp only; omega)
        exact ⟨v, hsingle.trans hv, hdone⟩
    | cons x rest =>
      have hs : ∃ u, Lender.step d .settle s = some u := by
        simp only [Lender.step, hout]
        exact ⟨_, rfl⟩
      obtain ⟨u, hs⟩ := hs
      have hsmooth : Smooth c s .settle := by
        refine ⟨fun hl => (by cases hl), fun call hcall => ?_⟩
        rw [call?, hout, hrun.sent x (by rw [hout]; exact List.mem_cons_self)] at hcall
        cases hcall
        exact clear_own hrun.claims hk ho
      obtain ⟨hnext, hless⟩ := hrun.settle hk ho ht hs
      obtain ⟨v, hv, hdone⟩ := ih (h.step hk ho ht hs hsmooth) hnext (by omega)
      exact ⟨v, (Machine.RunWhere.single (M := machine d) hs hsmooth).trans hv, hdone⟩

/-- What a RESTORE is to come to: it has SUCCEEDED, and its exact replay says so; the scheduler has accepted its
evidence and its lease holds no claim. -/
structure Converged (d : Deployment) (c : OperationCommand) (s : Lender) : Prop where
  succeeded : ∃ r, s.task.state.journal.records.get? c.operationId = some r ∧ r.status = .succeeded
  replayed : ∀ starts, s.task.submit d c none starts = (.ok (), s.task)
  accepted : ∃ ev, s.scheduler.releaseEvidence.get? (c.leaseId, c.operationId) = some ev ∧
    ev.type = .serviceCommitted
  free : ∃ lease, s.scheduler.leases.get? c.leaseId = some lease ∧
    (∀ b ∈ lease.bundleKeys, s.scheduler.activeBundleOwner.get? b ≠ some c.leaseId) ∧
    ∀ g ∈ lease.gpuUuids, s.scheduler.activeGpuOwner.get? g ≠ some c.leaseId

theorem Accounted.converged (h : Accounted d c ev lost s) (hk : c.kind = .restore)
    (ho : ev.operationId = c.operationId) (ht : ev.type = .serviceCommitted) (hdone : Concluded c ev s) :
    Converged d c s := by
  obtain ⟨⟨r, hr, hst⟩, hanswered, lease, hended⟩ := hdone
  refine ⟨⟨r, hr, hst⟩, fun starts => ?_, ⟨ev, by rw [← ho]; exact hanswered.recorded, ht⟩,
    lease, hended.lease_eq, hended.noBundle, hended.noGpu⟩
  exact submit_succeeded (by rw [hk]; decide) (h.task.books.sound.inv.journal.command h.known).2 h.known hr hst
    starts

/-- `commit_service_change` has published the target and dropped its binding (rollouter.py:1027), the thread has
heard of `restore_and_publish` what it hears, and the scheduler awaits the evidence. -/
structure Committed (d : Deployment) (c : OperationCommand) (heard : Heard) (s : Lender) : Prop where
  reachable : (machine d).ReachableWhere (fun s l _ => Reserving s l) s
  kind : c.kind = .restore
  running : Run d c s.task.state
  published : s.task.state.manager.replicaState.get? c.target = some .active
  unbound : s.task.state.rollouter.pendingOperationTargets.get? c.operationId = none
  hears : ∃ r, Hears c r heard
  thread : s.task.worker = some (c.operationId, reported c heard)
  outbox : s.task.state.outbox = []
  staged : s.scheduler.operationCommands.get? c.operationId = some c
  unanswered : s.scheduler.releaseEvidence.get? (c.leaseId, c.operationId) = none

theorem Committed.task {heard : Heard} (h : Committed d c heard s) : TaskSystem.Peaceful d s.task := by
  obtain ⟨s₀, hinit, hrun⟩ := h.reachable
  exact TaskSystem.peaceful_reachable ⟨s₀.task, hinit.1, run_task hrun⟩

theorem Committed.accounted (h : Committed d c (.evidence ev) s) : Accounted d c ev false s := by
  refine ⟨h.task, (h.task.books.sound.inv.cur_command h.running.1).1, .inr ⟨3, h.running, ?_,
    .inl ⟨h.staged, h.unanswered, reserved_reachable h.reachable⟩, _, h.thread, .sending⟩⟩
  rw [h.outbox]
  intro x hx
  cases hx

/-- A thread that has heard nothing leaves its operation stranded. -/
theorem Committed.stuck {e : PyErr} (h : Committed d c (.nothing e) s) : TaskSystem.Stuck d c s.task := by
  refine ⟨h.task.books.sound, ⟨h.running.1, h.kind, fun hd => ?_, fun hb => ?_⟩, fun {o p} hw => ?_⟩
  · cases h.published.symm.trans hd
  · cases h.unbound.symm.trans hb
  · cases h.thread.symm.trans hw
    exact ⟨rfl, .markUnknown⟩

/-- The thread of an operation that has SUCCEEDED has ended. -/
theorem Accounted.ended (h : Accounted d c ev lost s) (hdone : Concluded c ev s) :
    ∀ p, s.task.worker ≠ some (c.operationId, p) := by
  intro p hp
  obtain ⟨-, -, r, hr, hopen⟩ := h.task.books.sound.inv.cur_command (h.task.books.sound.cur_eq hp h.known)
  obtain ⟨r', hr', hst⟩ := hdone.succeeded
  cases hr.symm.trans hr'
  rw [hst] at hopen
  cases hopen

/-- From the commit of a RESTORE on, one reply is lost at most; all others arrive, and the scheduler's calls
leave the claims reserved until the evidence is accepted and the lease ended from then on. If the thread has
heard of `restore_and_publish`, so that the lost reply is one of `advance_lease`, its report can always be
brought to its end. And whenever a thread of the operation has ended, be it the first one or that of a replay,
the RESTORE has converged exactly in that case. -/
theorem restore_settles {heard : Heard} {t' u : Lender} (h : Committed d c heard s)
    (hrun : SmoothRun d c s t) (hlost : t' = t ∨ ∃ o, (machine d).step t (.task (.work o)) t')
    (hlater : SmoothRun d c t' u) :
    ((∃ ev, heard = .evidence ev) →
      ∃ v, SmoothRun d c u v ∧ ∀ p, v.task.worker ≠ some (c.operationId, p)) ∧
    ((∀ p, u.task.worker ≠ some (c.operationId, p)) → (Converged d c u ↔ ∃ ev, heard = .evidence ev)) := by
  obtain ⟨r, hr⟩ := h.hears
  cases hr with
  | @evidence ev ho ht =>
    have hcommit := h.accounted.run h.kind ho ht hrun
    have hloss : Accounted d c ev true t' := by
      rcases hlost with rfl | ⟨o, hs⟩
      · exact hcommit.losing
      · exact hcommit.lose ho hs
    have hu := hloss.run h.kind ho ht hlater
    refine ⟨fun _ => ?_, fun hended => ⟨fun _ => ⟨ev, rfl⟩, fun _ => ?_⟩⟩
    · rcases hu.progress with hdone | ⟨n, hunder⟩
      · exact ⟨u, .refl _, hu.ended hdone⟩
      · obtain ⟨v, hv, hdone⟩ := hu.ends h.kind ho ht _ hunder (Nat.lt_succ_self _)
        exact ⟨v, hv, (hu.run h.kind ho ht hv).ended hdone⟩
    · rcases hu.progress with hdone | ⟨n, hunder⟩
      · exact hu.converged h.kind ho ht hdone
      · obtain ⟨p, hp, -⟩ := hunder.thread
        exact (hended p hp).elim
  | @nothing e =>
    have htask : (TaskSystem.machine d).Run s.task u.task := by
      refine (run_task hrun).trans (Machine.RunWhere.trans ?_ (run_task hlater))
      rcases hlost with rfl | ⟨o, hs⟩
      · exact .refl _
      · exact run_task (Machine.RunWhere.single (P := fun _ _ _ => True) hs trivial)
    obtain ⟨hu, -⟩ := h.stuck.run htask
    refine ⟨fun ⟨ev, hev⟩ => (by cases hev), fun _ =>
      ⟨fun hconv => ?_, fun ⟨ev, hev⟩ => (by cases hev)⟩⟩
    obtain ⟨-, -, r, hr, hopen⟩ := hu.sound.inv.cur_command hu.stranded.current
    obtain ⟨r', hr', hst⟩ := hconv.succeeded
    cases hr.symm.trans hr'
    rw [hst] at hopen
    cases hopen

/-! ## A lending cycle -/

section Fixture

open GroupScheduler (donorKey borrowerKey command submit released opening)
open TaskSystem (fine)

/-- The task `donor`, with one native replica. -/
def lender : Deployment :=
  { TaskSystem.deployment with taskSession := "donor", taskSession_ne := ne_empty holds }

def start : Lender :=
  ⟨TaskSystem.initial lender [⟨0, .native, "a0", ⟨"node", "pg", "gpu"⟩⟩] 0, GroupScheduler.init⟩

def restoration : OperationCommand := command "r" .restore donorKey

def works (k : Nat) : List LenderLabel := (TaskSystem.works k).map .task

/-- The replica is donated, lent to the task `borrower` and given back, and its RESTORE is staged. -/
def lending : List LenderLabel :=
  (opening ++ [submit (command "d" .donate donorKey)]).map .schedule ++
    .task (.submit (command "d" .donate donorKey) none true) :: works 38 ++ .settle :: works 2 ++
    [submit (command "a" .add borrowerKey), submit (command "m" .remove borrowerKey),
      .advanceLease "L" (released "m"), submit restoration].map .schedule

/-- The RESTORE is submitted, or sent again. -/
def submitRestoration : LenderLabel := .task (.submit restoration none true)

instance (s : Lender) (l : LenderLabel) : Decidable (Reserving s l) :=
  inferInstanceAs (Decidable (∀ call ∈ call? s l, s.scheduler.ReservationSafe call))

/-- A run whose calls keep the reservations. -/
def after (ls : List LenderLabel) (s : Lender) : Option Lender :=
  ls.foldlM (fun s l => if Reserving s l then step lender l s else none) s

theorem run_after {ls : List LenderLabel} (h : after ls s = some t) :
    ReservingRun lender s t :=
  .steps (f := fun s l => if Reserving s l then step lender l s else none) (fun {s l s'} hs => by
    by_cases hcall : Reserving s l
    · rw [if_pos hcall] at hs
      exact ⟨hs, hcall⟩
    · rw [if_neg hcall] at hs
      cases hs) h

theorem init_start : (machine lender).init start :=
  ⟨⟨_, _, ⟨by decide, by decide, by decide, by decide⟩, rfl⟩, rfl⟩

/-- The evidence that `restore_and_publish` returns when every call replies, and the state it leaves. -/
def publishes (s : TaskState) : Option (OperationEvidence × TaskState) :=
  ((rpc (Rollouter.prepareReplica lender donorKey "r" none)).eval (openRecord "r" s fine).2
    (List.replicate 3 fine)).bind fun p => p.1.toOption.bind fun _ =>
  ((rpc (Trainer.restoreAndPublish lender "r")).eval p.2 (List.replicate 36 fine)).bind fun q =>
  q.1.toOption.map fun ev => (ev, q.2)

theorem publishes_eq_some {s u : TaskState} (h : publishes s = some (ev, u)) : ∃ prepared s₂,
    (rpc (Rollouter.prepareReplica lender donorKey "r" none)).Exec (· = ·) (openRecord "r" s fine).2
      (List.replicate 3 fine) (.ok prepared) s₂ ∧
    (rpc (Trainer.restoreAndPublish lender "r")).Exec (· = ·) s₂ (List.replicate 36 fine) (.ok ev) u := by
  obtain ⟨⟨r, s₂⟩, hprepare, h⟩ := Option.bind_eq_some_iff.1 h
  obtain ⟨prepared, hr, h⟩ := Option.bind_eq_some_iff.1 h
  obtain ⟨⟨r', s₃⟩, hpublish, h⟩ := Option.bind_eq_some_iff.1 h
  obtain ⟨ev', hr', heq⟩ := Option.map_eq_some_iff.1 h
  cases heq
  cases r with
  | error e => cases hr
  | ok a =>
    cases hr
    cases r' with
    | error e => cases hr'
    | ok b =>
      cases hr'
      exact ⟨_, _, .of_eval (fun _ => rfl) hprepare, .of_eval (fun _ => rfl) hpublish⟩

/-- The state before the evidence is sent. -/
theorem committed_lending : ∃ s ev, Committed lender restoration (.evidence ev) s := by
  have hend : (after lending start).any (fun s =>
      decide (s.task.worker.isNone ∧ (s.task.submit lender restoration none true).2.worker.isSome ∧
        s.scheduler.operationCommands.get? "r" = some restoration ∧
        s.scheduler.releaseEvidence.get? ("L", "r") = none) &&
      (publishes (s.task.submit lender restoration none true).2.state).any fun q =>
        decide (q.1.operationId = "r" ∧ q.1.type = .serviceCommitted ∧
          q.2.journal.current "donor" = some restoration ∧ (q.2.journal.query "r").any (·.status = .running) ∧
          q.2.manager.replicaState.get? donorKey = some .active ∧
          q.2.rollouter.pendingOperationTargets.get? "r" = none ∧ q.2.outbox.isEmpty)) = true := by
    decide +kernel
  obtain ⟨s, hs, hcheck⟩ := (Option.any_eq_true _ _).1 hend
  obtain ⟨hidle, hcheck⟩ := Bool.and_eq_true_iff.1 hcheck
  obtain ⟨hnone, hsome, hstaged, hunanswered⟩ := of_decide_eq_true hidle
  obtain ⟨⟨ev, u⟩, hpublishes, hcheck⟩ := (Option.any_eq_true _ _).1 hcheck
  obtain ⟨ho, ht, hcur, hstatus, hactive, hunbound, hout⟩ := of_decide_eq_true hcheck
  obtain ⟨prepared, s₂, hprepare, hpublish⟩ := publishes_eq_some hpublishes
  have hreach : (machine lender).ReachableWhere (fun s l _ => Reserving s l) s :=
    ⟨start, init_start, run_after hs⟩
  obtain ⟨s₀, hinit, hrun⟩ := hreach
  have hsound := (TaskSystem.peaceful_reachable ⟨s₀.task, hinit.1, run_task hrun⟩).books.sound
  have hsubmit := hsound.submit (c := restoration) none true
  rcases (hsound.submitted (c := restoration) none true).thread with ⟨hsame, -⟩ | ⟨hawaits, hthread⟩
  · rw [hsame, Option.isSome_iff_ne_none] at hsome
    exact (hsome (Option.isNone_iff_eq_none.1 hnone)).elim
  obtain ⟨reconciling, j, hopen, -, -, -⟩ := hsubmit.inv.openRecord hawaits fine
  have hstep : (machine lender).step s submitRestoration
    ⟨(s.task.submit lender restoration none true).2, s.scheduler⟩ := rfl
  have hlaunch := hrun.tail hstep fun _ hcall => (by cases hcall)
  have hthread' : (s.task.submit lender restoration none true).2 =
      ⟨(s.task.submit lender restoration none true).2.state, TaskSystem.resume "r" (executeOperation lender "r")⟩ :=
    congrArg (TaskSystem.mk _) hthread
  rw [hthread'] at hlaunch
  rw [show openRecord "r" _ fine = _ from hopen] at hprepare
  have hreported := run_reported (d := lender) (c := restoration) (g := s.scheduler) (R := (· = ·))
    (fun heq => heq ▸ .refl _) rfl rfl hopen hprepare hpublish (.evidence ho ht)
  obtain ⟨r, hr, hrunning⟩ := (Option.any_eq_true _ _).1 hstatus
  exact ⟨⟨⟨u, some ("r", reported restoration (.evidence ev))⟩, s.scheduler⟩, ev,
    ⟨s₀, hinit, hlaunch.trans hreported⟩, rfl, ⟨hcur, r, hr, of_decide_eq_true hrunning⟩, hactive, hunbound,
    ⟨_, .evidence ho ht⟩, rfl, List.isEmpty_iff.1 hout, hstaged, hunanswered⟩

/-- The answer to the evidence does not arrive in time, and the evidence is sent again. -/
theorem restore_settles_expired : ∃ s ev t t' u, Committed lender restoration (.evidence ev) s ∧
    SmoothRun lender restoration s t ∧
    (machine lender).step t (.task (.work { fine with expired := true })) t' ∧
    SmoothRun lender restoration t' u ∧ Converged lender restoration u := by
  obtain ⟨s, ev, h⟩ := committed_lending
  have hsend := work_sending (o := fine) around_firstly h.thread
  have hexpire := work_waiting (c := restoration) (o := { fine with expired := true })
    (s := ⟨{ s.task.state with outbox := s.task.state.outbox ++ [("L", ev)] },
      some ("r", firstly restoration ev awaitAnswer)⟩) around_firstly rfl
  have hreplies : Replies fine := ⟨rfl, rfl⟩
  have hrun := Machine.RunWhere.single (M := machine lender) (P := fun s l _ => Smooth restoration s l)
    (step_work hsend) hreplies.smooth
  have hlost := step_work (d := lender) (s := ⟨_, s.scheduler⟩) hexpire
  obtain ⟨u, hu, hended⟩ := (restore_settles h hrun (.inr ⟨_, hlost⟩) (.refl _)).1 ⟨ev, rfl⟩
  have hconv := ((restore_settles h hrun (.inr ⟨_, hlost⟩) hu).2 hended).2 ⟨ev, rfl⟩
  exact ⟨s, ev, _, _, u, h, hrun, hlost, hu, hconv⟩

/-- The answer of `commit_service_change` is lost, the thread ends and the RESTORE is sent again: now all calls
reply, and it ends UNKNOWN with nothing reported. -/
theorem restore_unsettled : ∃ s t u, after (lending ++ submitRestoration :: works 34) start = some s ∧
    (s.task.state.lb.queryReadyOperation "r").isSome = true ∧
    after (works 1 ++ .task (.work { fine with fault := .after }) :: works 7) s = some t ∧
    t.task.worker.isNone = true ∧
    after (submitRestoration :: works 5) t = some u ∧ u.task.worker.isNone = true ∧
    (u.task.state.journal.query "r").map OperationRecord.status = some .unknown ∧
    u.scheduler.releaseEvidence.get? ("L", "r") = none ∧
    u.scheduler.activeGpuOwner.get? "gpu" = some "L" ∧ ¬ Converged lender restoration u := by
  have hend : (after (lending ++ submitRestoration :: works 34) start).any (fun s =>
      (s.task.state.lb.queryReadyOperation "r").isSome &&
      (after (works 1 ++ .task (.work { fine with fault := .after }) :: works 7) s).any fun t =>
        t.task.worker.isNone && (after (submitRestoration :: works 5) t).any fun u =>
          decide (u.task.worker.isNone = true ∧
            (u.task.state.journal.query "r").map OperationRecord.status = some .unknown ∧
            u.scheduler.releaseEvidence.get? ("L", "r") = none ∧
            u.scheduler.activeGpuOwner.get? "gpu" = some "L")) = true := by decide +kernel
  obtain ⟨s, hs, hend⟩ := (Option.any_eq_true _ _).1 hend
  obtain ⟨hready, hend⟩ := Bool.and_eq_true_iff.1 hend
  obtain ⟨t, ht, hend⟩ := (Option.any_eq_true _ _).1 hend
  obtain ⟨htidle, hend⟩ := Bool.and_eq_true_iff.1 hend
  obtain ⟨u, hu, hend⟩ := (Option.any_eq_true _ _).1 hend
  obtain ⟨hidle, hunknown, hnone, howner⟩ := of_decide_eq_true hend
  refine ⟨s, t, u, hs, hready, ht, htidle, hu, hidle, hunknown, hnone, howner, fun hconv => ?_⟩
  obtain ⟨ev, hev, -⟩ := hconv.accepted
  cases hnone.symm.trans hev

end Fixture

end ReplicaLending.Lender
