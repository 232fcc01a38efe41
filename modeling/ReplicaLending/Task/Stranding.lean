import ReplicaLending.Task.Soundness
/-!
# A RESTORE that cannot be taken up again

`prepare_replica` takes a RESTORE when its target is DORMANT, or ACTIVE and still bound to the operation
(rollouter.py:556-577). `commit_service_change` drops the binding before it answers (:1027), so a RESTORE whose
committing answer is lost finds its target ACTIVE and itself unbound: `Stranded`. The Trainer has blocked the
gate by then (trainer.py:566-579), and only the operation that blocked it may reconcile it.

No step of a task leads out of a `Stranded` state (`restore_stranded`): every replay of the operation ends
UNKNOWN again, the gate stays as it is, and no other operation is taken.
-/

namespace ReplicaLending

open TaskState TaskProg TaskRunner Rollouter LLMServerManager

variable {d : Deployment} {c : OperationCommand} {s t : TaskState}

/-- The unfinished operation is a RESTORE that `prepare_replica` refuses. -/
structure Stranded (d : Deployment) (c : OperationCommand) (s : TaskState) : Prop where
  current : Cur d c s
  kind : c.kind = .restore
  awake : s.manager.replicaState.get? c.target ≠ some .dormant
  unbound : s.rollouter.pendingOperationTargets.get? c.operationId = some c.target →
    s.manager.replicaState.get? c.target ≠ some .active

/-- What the thread of a stranded operation does: nothing but to its own record. -/
structure Spins (d : Deployment) (c : OperationCommand) (s t : TaskState) : Prop where
  current : Cur d c t
  manager : t.manager = s.manager
  bindings : t.rollouter.pendingOperationTargets = s.rollouter.pendingOperationTargets
  gate : t.gate = s.gate
  quiet : t.nativeSync = s.nativeSync

namespace Spins

theorem refl (h : Cur d c s) : Spins d c s s := ⟨h, rfl, rfl, rfl, rfl⟩

theorem journal {j : OperationJournal} (h : Cur d c { s with journal := j }) :
    Spins d c s { s with journal := j } := ⟨h, rfl, rfl, rfl, rfl⟩

theorem stranded (h : Spins d c s t) (hs : Stranded d c s) : Stranded d c t where
  current := h.current
  kind := hs.kind
  awake := by rw [h.manager]; exact hs.awake
  unbound := by rw [h.manager, h.bindings]; exact hs.unbound

end Spins

/-- The rest of the task leaves a stranded operation stranded, and a blocked gate blocked. -/
theorem Rely.stranded (hr : Rely c.operationId s t) (hs : Stranded d c s) : Stranded d c t := by
  have hview := hr.view
  simp only [TaskState.view, View.mk.injEq] at hview
  obtain ⟨hmanager, -, -, -, -, htarget, -, -, hjournal⟩ := hview
  exact ⟨by rw [Cur, hjournal]; exact hs.current, hs.kind, by rw [hmanager]; exact hs.awake,
    by rw [hmanager, htarget]; exact hs.unbound⟩

/-! ## The thread -/

/-- The steps of a program run by the thread of a stranded operation; what it returns is a `P`. -/
def Stalls {ε α : Type} (d : Deployment) (c : OperationCommand) (P : α → Prop)
    (p : Prog TaskState Choice Event ε α) : Prop :=
  p.Within (fun s => Inv d False s ∧ Stranded d c s) (fun s _ t => Spins d c s t) P

namespace Stalls

variable {ε α : Type}

/-- A call that changes nothing. -/
theorem still {f : TaskState → Choice → Except ε α × TaskState} {P : α → Prop}
    (h : ∀ s o, Stranded d c s → (f s o).2 = s ∧ ∀ a, (f s o).1 = .ok a → P a) :
    Stalls d c P (Prog.call Event.internal f) :=
  .call fun s o hs => by
    obtain ⟨heq, hret⟩ := h s o hs.2
    rw [heq]
    exact ⟨.refl hs.2.current, fun _ => hret⟩

theorem bindRestore_refuses (hs : Stranded d c s) (o : Choice) :
    ∃ e, bindRestore c.target c.operationId s o = (.error e, s) := by
  unfold bindRestore
  split
  · exact ⟨_, rfl⟩
  · exact ⟨_, rfl⟩
  · rename_i kind state _ hmeta
    have hstate : s.manager.replicaState.get? c.target = some state := (replicaMeta_ok.1 hmeta).2
    have hawake : state ≠ .dormant := fun hd => hs.awake (hd ▸ hstate)
    have hunbound : ¬ (s.rollouter.pendingOperationTargets.get? c.operationId = some c.target ∧
        state = .active) := fun ⟨hb, ha⟩ => hs.unbound hb (ha ▸ hstate)
    rw [if_neg hawake, if_neg hunbound]
    split <;> exact ⟨_, rfl⟩

/-- `prepare_replica` never returns. -/
theorem prepareReplica :
    Stalls d c (fun _ => False) (TaskProg.rpc (Rollouter.prepareReplica d c.target c.operationId none)) := by
  refine .bind (P := fun _ => True) (still fun s o _ => ?_) fun _ _ => .bind
    (P := fun r => ∀ a, r = .ok a → False) (.result (P := fun _ => False) (still fun s o hs => ?_)
      (fun _ h => h.elim) fun _ _ he => by cases he) fun r hr => still fun s o _ => ?_
  · exact ⟨rfl, fun _ _ => trivial⟩
  · obtain ⟨e, he⟩ := bindRestore_refuses hs o
    rw [he]
    exact ⟨rfl, fun _ h => (by cases h)⟩
  · refine ⟨rfl, fun a ha => ?_⟩
    dsimp only at ha
    split at ha
    · cases ha
    · exact hr a ha

theorem executeRestore : Stalls d c (fun _ => True) (TaskRunner.executeRestore d c) :=
  .bind prepareReplica fun _ h => h.elim

/-- A record that is opened or left UNKNOWN stays the unfinished one. -/
theorem setRecord (hi : Inv d False s) (hs : Stranded d c s) {r : OperationRecord}
    (ho : r.operationId = c.operationId) (hres : r.status.resolved = false)
    (hacc : r.status ≠ .accepted) : Spins d c s { s with journal := s.journal.setRecord r } :=
  .journal (hi.setRecord hs.current ho hres hacc).2

theorem openRecord : Stalls d c (fun p : OperationCommand × Bool => p.1 = c)
    (TaskProg.call (TaskRunner.openRecord c.operationId)) := by
  refine .call fun s o ⟨hi, hs⟩ => ?_
  have hcmd : s.journal.command c.operationId = .ok c := by
    unfold OperationJournal.command
    rw [(hi.cur_command hs.current).1]
  unfold TaskRunner.openRecord
  rw [hcmd]
  dsimp only
  split
  · exact ⟨.refl hs.current, fun _ _ h => by cases h⟩
  · rename_i r j hj
    refine ⟨?_, fun _ _ h => by cases h; rfl⟩
    split at hj
    · unfold OperationJournal.reopenUnknown at hj
      split at hj
      · cases hj
      split at hj
      · cases hj
      cases hj
      exact setRecord hi hs rfl rfl OperationStatus.noConfusion
    · unfold OperationJournal.markRunning at hj
      split at hj
      · cases hj
      split at hj
      · cases hj
      cases hj
      exact setRecord hi hs rfl rfl OperationStatus.noConfusion

theorem markUnknown {e : PyErr} :
    Stalls d c (fun _ => True) (TaskProg.call (TaskRunner.markUnknown c.operationId e)) := by
  refine .call fun s o ⟨hi, hs⟩ => ⟨?_, fun _ _ _ => trivial⟩
  unfold TaskRunner.markUnknown
  split
  · exact .refl hs.current
  rename_i r hr
  split
  · exact .refl hs.current
  rename_i hopen
  rw [OperationJournal.finish_eq hi.journal hr (Bool.eq_false_iff.2 hopen)
    (hi.cur_command hs.current).1 rfl]
  exact setRecord hi hs rfl rfl OperationStatus.noConfusion

/-- Whatever the thread does, the operation stays stranded. -/
theorem executeOperation (hk : c.kind = .restore) :
    Stalls d c (fun _ => True) (TaskRunner.executeOperation d c.operationId) := by
  refine .tryCatch (.bind openRecord fun p hp => ?_) fun e => markUnknown
  obtain ⟨command, reconciling⟩ := p
  obtain rfl : command = c := hp
  show Stalls d command _ (TaskRunner.lifecycle d command reconciling)
  unfold TaskRunner.lifecycle
  rw [hk]
  exact executeRestore

end Stalls

/-! ## The task -/

namespace TaskSystem

variable {s t : TaskSystem}

/-- `submit_operation` of a recorded operation: it starts a thread only if the record is UNKNOWN. -/
theorem submitOperation_recorded {st : TaskState} (lease : Option Lease) (busy : Bool)
    {r : OperationRecord} (hr : st.journal.records.get? c.operationId = some r) :
    ∃ res leases, submitOperation d c lease busy st = (res, { st with operationLeases := leases }) ∧
      (res = .ok true → r.status = .unknown ∧ st.journal.commands.get? c.operationId = some c) := by
  cases hbegin : st.journal.begin c with
  | error e =>
    obtain ⟨e', he⟩ : ∃ e', submitOperation d c lease busy st = (.error e', st) :=
      submitOperation_refused hbegin
    exact ⟨_, _, he, fun h => by cases h⟩
  | ok p =>
    obtain ⟨r', j⟩ := p
    cases hsub : submitOperation d c lease busy st with
    | mk res st' =>
      by_cases hres : st' ≠ st ∨ res = .ok true
      · obtain ⟨ht, leases, rfl, -, hlaunch⟩ := submitOperation_begun hbegin hsub hres
        rcases OperationJournal.begin_cases ht hbegin with ⟨rfl, -, hc⟩ | ⟨-, hnew, -⟩
        · exact ⟨res, leases, rfl, fun hok => ⟨(hlaunch hok r hr).1, hc⟩⟩
        · rw [hnew] at hr; cases hr
      · rw [not_or, not_not] at hres
        obtain ⟨rfl, hno⟩ := hres
        exact ⟨res, _, rfl, fun hok => (hno hok).elim⟩

/-- While an operation is unfinished, the journal takes no other. -/
theorem begin_refused (hcur : Cur d c s.state) {c' : OperationCommand}
    (hnew : s.state.journal.records.get? c'.operationId = none)
    (ht : c'.target.taskSession = d.taskSession) : ∃ e, s.state.journal.begin c' = .error e := by
  cases hbegin : s.state.journal.begin c' with
  | error e => exact ⟨e, rfl⟩
  | ok p =>
    rcases OperationJournal.begin_cases ht hbegin with ⟨-, hr, -⟩ | ⟨-, -, hidle⟩
    · rw [hnew] at hr; cases hr
    · rw [show s.state.journal.current d.taskSession = some c from hcur] at hidle
      cases hidle

/-- An operation the task does not know is refused then, and leaves no trace. -/
theorem submit_refused (hcur : Cur d c s.state) {c' : OperationCommand} {lease : Option Lease}
    {starts : Bool} (hnew : s.state.journal.records.get? c'.operationId = none) :
    ∃ e, s.submit d c' lease starts = (.error e, s) := by
  have hsub : ∀ busy, ∃ e, submitOperation d c' lease busy s.state = (.error e, s.state) := by
    intro busy
    by_cases ht : c'.target.taskSession = d.taskSession
    · obtain ⟨e, he⟩ := begin_refused hcur hnew ht
      exact submitOperation_refused he
    · unfold submitOperation
      rw [if_pos ht]
      split_ifs <;> exact ⟨_, rfl⟩
  obtain ⟨e, he⟩ := hsub (s.worker.any fun w => w.1 = c'.operationId)
  refine ⟨e, ?_⟩
  unfold TaskSystem.submit
  dsimp only
  rw [he]

/-- The unfinished operation is stranded, and whoever runs it stalls. -/
structure Stuck (d : Deployment) (c : OperationCommand) (s : TaskSystem) : Prop where
  sound : Sound d False s
  stranded : Stranded d c s.state
  worker : ∀ {o p}, s.worker = some (o, p) → o = c.operationId ∧ Stalls d c (fun _ => True) p

/-- No record of a runtime changes any more, and a blocked gate is left as it is. -/
structure Frozen (s t : TaskSystem) : Prop where
  manager : t.state.manager = s.state.manager
  gate : s.state.gate.blockedReason.isSome → t.state.gate = s.state.gate ∧ t.state.nativeSync = none

theorem Frozen.trans {u : TaskSystem} (h : Frozen s t) (h' : Frozen t u) : Frozen s u where
  manager := h'.manager.trans h.manager
  gate := fun hb => by
    have hst := (h.gate hb).1
    obtain ⟨htu, hq⟩ := h'.gate (by rw [hst]; exact hb)
    exact ⟨htu.trans hst, hq⟩

namespace Stuck

/-- Nobody synchronises weights under a blocked gate. -/
theorem quiet (h : Stuck d c s) (hb : s.state.gate.blockedReason.isSome) : s.state.nativeSync = none := by
  cases hn : s.state.nativeSync with
  | none => rfl
  | some owner =>
    rw [(h.sound.inv.gate.native hn).2.2] at hb
    cases hb

theorem frozen (h : Stuck d c s) (hm : t.state.manager = s.state.manager)
    (hg : t.state.gate = s.state.gate) (hn : t.state.nativeSync = s.state.nativeSync) : Frozen s t :=
  ⟨hm, fun hb => ⟨hg, hn.trans (h.quiet hb)⟩⟩

theorem work (h : Stuck d c s) {o : Choice} (hw : s.work o = some t) (ht : Sound d False t) :
    Stuck d c t ∧ Frozen s t := by
  unfold TaskSystem.work at hw
  split at hw
  · rename_i id tag ready act next hworker
    split at hw
    · cases hw
      obtain ⟨rfl, hstalls⟩ := h.worker hworker
      obtain ⟨hspins, hnext⟩ := hstalls s.state o ⟨h.sound.inv, h.stranded⟩
      have hstranded := hspins.stranded h.stranded
      refine ⟨⟨ht, hstranded, fun {o' p} hp => ?_⟩, h.frozen hspins.manager hspins.gate hspins.quiet⟩
      obtain ⟨rfl, rfl⟩ := resume_eq_some hp
      exact ⟨rfl, hnext ⟨ht.inv, hstranded⟩⟩
    · cases hw
  · cases hw

theorem environment (h : Stuck d c s) {e : Environment} {st : TaskState}
    (he : s.state.environment e = some st) (ht : Sound d False { s with state := st }) :
    Stuck d c { s with state := st } ∧ Frozen s { s with state := st } := by
  have hrely := Rely.environment h.sound.inv h.stranded.current he
  exact ⟨⟨ht, hrely.stranded h.stranded, h.worker⟩, congrArg View.manager hrely.view,
    fun hb => hrely.gate ⟨h.quiet hb, .inr hb⟩⟩

/-- A replay starts a thread only for the stranded operation itself. -/
theorem submit (h : Stuck d c s) (c' : OperationCommand) (lease : Option Lease) (starts : Bool) :
    Stuck d c (s.submit d c' lease starts).2 ∧ Frozen s (s.submit d c' lease starts).2 := by
  have ht : Sound d False (s.submit d c' lease starts).2 := h.sound.submit lease starts
  have hself : Stuck d c s ∧ Frozen s s := ⟨h, h.frozen rfl rfl rfl⟩
  cases hr : s.state.journal.records.get? c'.operationId with
  | none =>
    obtain ⟨e, he⟩ : ∃ e, s.submit d c' lease starts = (.error e, s) :=
      submit_refused h.stranded.current hr
    rw [he]
    exact hself
  | some r =>
    obtain ⟨res, leases, hsub, hlaunch⟩ := submitOperation_recorded (d := d) lease
      (s.worker.any fun w => w.1 = c'.operationId) hr
    have hstranded := (rely_leases leases).stranded h.stranded
    have hkept : ∀ w, Frozen s ⟨{ s.state with operationLeases := leases }, w⟩ :=
      fun w => h.frozen rfl rfl rfl
    have hreplay : (s.state.journal.query c'.operationId).isSome = true := by
      rw [OperationJournal.query, hr]
      rfl
    unfold TaskSystem.submit at ht ⊢
    dsimp only at ht ⊢
    rw [hsub, hreplay] at ht
    rw [hsub, hreplay]
    rcases res with e | _ | _
    · exact ⟨⟨ht, hstranded, h.worker⟩, hkept _⟩
    · exact ⟨⟨ht, hstranded, h.worker⟩, hkept _⟩
    · obtain ⟨hunknown, hc⟩ := hlaunch rfl
      obtain rfl : c' = c := Option.some.inj (hc.symm.trans
        ((h.sound.inv.journal.current_eq hr (by rw [hunknown]; rfl)).symm.trans h.stranded.current))
      cases starts with
      | true =>
        refine ⟨⟨ht, hstranded, fun {o p} hp => ?_⟩, hkept _⟩
        obtain ⟨rfl, rfl⟩ : o = c'.operationId ∧ p = executeOperation d c'.operationId :=
          resume_eq_some hp
        exact ⟨rfl, .executeOperation h.stranded.kind⟩
      | false => exact ⟨⟨ht, hstranded, h.worker⟩, hkept _⟩

theorem step (h : Stuck d c s) {l : TaskLabel} (hs : TaskSystem.step d l s = some t) :
    Stuck d c t ∧ Frozen s t := by
  have ht : Sound d False t := h.sound.step hs False.elim
  cases l with
  | submit c' lease starts =>
    cases hs
    exact h.submit c' lease starts
  | work o => exact h.work hs ht
  | environment e =>
    obtain ⟨st, he, rfl⟩ := Option.map_eq_some_iff.1 hs
    exact h.environment he ht

theorem run (h : Stuck d c s) (hr : (machine d).Run s t) : Stuck d c t ∧ Frozen s t := by
  induction hr with
  | refl => exact ⟨h, h.frozen rfl rfl rfl⟩
  | tail _ hs _ ih =>
    obtain ⟨hstuck, hfrozen⟩ := ih
    obtain ⟨hstuck', hfrozen'⟩ := hstuck.step hs
    exact ⟨hstuck', hfrozen.trans hfrozen'⟩

end Stuck

/-- Once a RESTORE is stranded under a blocked gate, it is never resolved, no operation but it is ever begun,
and no weights are ever synchronised: for good, whoever replays it and whatever comes in between. -/
theorem restore_stranded (h : (machine d).Reachable s) (hworker : s.worker = none)
    (hs : Stranded d c s.state) (hblocked : s.state.gate.blockedReason.isSome)
    (hr : (machine d).Run s t) :
    (∃ r, t.state.journal.records.get? c.operationId = some r ∧ r.status.resolved = false) ∧
      t.state.manager = s.state.manager ∧ t.state.gate = s.state.gate ∧ t.state.nativeSync = none ∧
      ∀ c' lease starts, t.state.journal.records.get? c'.operationId = none →
        ∃ e, t.submit d c' lease starts = (.error e, t) := by
  have hstuck : Stuck d c s := ⟨reachable_sound h, hs, fun hw => by rw [hworker] at hw; cases hw⟩
  obtain ⟨ht, hfrozen⟩ := hstuck.run hr
  obtain ⟨hgate, hquiet⟩ := hfrozen.gate hblocked
  exact ⟨(ht.sound.inv.cur_command ht.stranded.current).2.2, hfrozen.manager, hgate, hquiet,
    fun _ _ _ hnew => submit_refused ht.stranded.current hnew⟩

/-- The donation is acknowledged and ends. -/
def donated : List TaskLabel := donating ++ .environment (.schedulerAnswers (.ok ())) :: works 2

/-- The native replica is restored. -/
def submitRestore : TaskLabel :=
  .submit (GroupScheduler.command "r1" .restore nativeKey0) none true

/-- The answer of the committing `commit_service_change` is lost. -/
def losing : List TaskLabel := donated ++ submitRestore :: works 35 ++ fails .after ++ works 7

theorem restore_stranded_losing : ∃ s t, after losing = some s ∧
    (submitRestore :: works 5).foldlM (fun s l => step deployment l s) s = some t ∧
    t.worker.isNone = true ∧ t.state.manager = s.state.manager ∧ t.state.gate = s.state.gate ∧
    ∃ e, t.submit deployment (GroupScheduler.command "d2" .donate nativeKey0) none true =
      (.error e, t) := by
  have hend : (after losing).any (fun s => decide (s.worker.isNone = true ∧
      s.state.journal.current "borrower" = some (GroupScheduler.command "r1" .restore nativeKey0) ∧
      s.state.manager.replicaState.get? nativeKey0 = some .active ∧
      s.state.rollouter.pendingOperationTargets.get? "r1" = none ∧
      s.state.gate.blockedReason.isSome) &&
      ((submitRestore :: works 5).foldlM (fun s l => step deployment l s) s).any fun t =>
        decide (t.worker.isNone = true ∧
          t.state.journal.records.get? "d2" = none)) = true := by decide +kernel
  obtain ⟨s, hs, hreach, hc⟩ := exists_after hend
  obtain ⟨hc, hlater⟩ := Bool.and_eq_true_iff.1 hc
  obtain ⟨hworker, hcur, hactive, hunbound, hblocked⟩ := of_decide_eq_true hc
  obtain ⟨t, ht, hlater⟩ := (Option.any_eq_true _ _).1 hlater
  obtain ⟨hdone, hnew⟩ := of_decide_eq_true hlater
  have hrun : (machine deployment).Run s t :=
    .steps (f := fun s l => step deployment l s) (fun h => ⟨h, trivial⟩) ht
  have hstranded : Stranded deployment (GroupScheduler.command "r1" .restore nativeKey0) s.state := by
    refine ⟨hcur, rfl, fun hd => ?_, fun hb => ?_⟩
    · cases hactive.symm.trans hd
    · cases hunbound.symm.trans hb
  obtain ⟨-, hmanager, hgate, -, hrefuses⟩ :=
    restore_stranded hreach (Option.isNone_iff_eq_none.1 hworker) hstranded hblocked hrun
  exact ⟨s, t, hs, ht, hdone, hmanager, hgate, hrefuses _ none true hnew⟩

end TaskSystem

end ReplicaLending
