import ReplicaLending.Task.Bookkeeping
import ReplicaLending.Task.Soundness
/-!
# What a task has once written down

The lifecycle thread keeps the books (`Keeps.executeOperation`), and so does every other step of a task:
`Bookkept` is the invariant, `bookkept_run` says that the books of a run only evolve. From this,

* a key keeps its kind, its record moves along `_ALLOWED`, and what a lease, a rank or a release
  operation stands for never changes (`ledger_evolves`);
* no rank is ever given to two runtimes (`rank_single`);
* all evidence that ever leaves a task for one DONATE or REMOVE is the same (`exit_evidence_single`).
-/

namespace ReplicaLending

open TaskState TaskProg TaskRunner LLMServerManager
open GroupScheduler (borrowerKey command)

variable {d : Deployment} {c : OperationCommand}

/-! ## The thread -/

/-- The evidence is the operation's; of an exit, it is what the Manager has recorded. -/
def Told (c : OperationCommand) (ev : OperationEvidence) (m : LLMServerManager) : Prop :=
  ev.operationId = c.operationId ∧ (c.kind.exits = true → RecordedAs m c.target c.operationId ev)

namespace Bookkeeping

variable {α : Type}

/-- A remote call: what it returns is said of the Manager. -/
theorem rpc {p : TaskProg α} {F : α → LLMServerManager → Prop}
    (hp : (books d c).Spec (fun _ => True) p (fun a s => F a s.manager) fun _ _ => True) :
    (books d c).Spec (fun _ => True) (TaskProg.rpc p) (fun a s => F a s.manager) fun _ _ => True := by
  have hstable : (books d c).Stable fun _ => True := fun _ _ _ h _ _ => h
  refine .bind (Q := fun _ _ => True) (.call hstable fun s o _ _ => ?_) fun _ =>
    .bind (Q := fun r s => ∀ a, r = .ok a → F a s.manager)
      (.result (.conseq hp (fun _ _ h => h) (fun a s _ h b hb => by cases hb; exact h)
        fun _ _ _ _ b hb => by cases hb)) fun r =>
        .call (stable_books fun m => ∀ a, r = .ok a → F a m) fun s o _ h => ?_
  · exact ⟨.refl s, fun _ => ⟨fun _ _ => trivial, fun _ _ => trivial⟩⟩
  · refine ⟨.refl s, fun _ => ⟨fun a ha => ?_, fun _ _ => trivial⟩⟩
    dsimp only at ha
    split at ha
    · cases ha
    · exact h a ha

theorem advanceOnce {ev : OperationEvidence} {l : String} :
    (books d c).Spec (fun s => Told c ev s.manager) (TaskRunner.advanceOnce l ev)
      (fun _ s => Told c ev s.manager) fun _ s => Told c ev s.manager := by
  refine .bind (Q := fun _ s => Told c ev s.manager) (.call (stable_books _) fun s o hi h => ?_)
    fun _ => .await (stable_books _) fun s o _ h _ => ⟨.refl s, fun _ => ⟨fun _ _ => h, fun _ _ => h⟩⟩
  split
  · exact ⟨.refl s, fun _ => ⟨fun _ _ => h, fun _ _ => h⟩⟩
  refine ⟨⟨.refl _, .refl _, fun hc => hc, fun {l' ev'} hm => ?_⟩, fun _ => ⟨fun _ _ => h, fun _ _ => h⟩⟩
  rcases List.mem_append.1 hm with hm | hm
  · exact .inl hm
  · cases List.mem_singleton.1 hm
    refine .inr fun c' hc' hx => ?_
    rw [h.1] at hc'
    cases hi.2.symm.trans hc'
    exact h.2 hx

theorem advanceLease {ev : OperationEvidence} : (books d c).Spec (fun s => Told c ev s.manager)
    (TaskRunner.advanceLease c ev) (fun _ _ => True) fun _ _ => True :=
  .conseq (.tryCatch advanceOnce fun _ => advanceOnce) (fun _ _ h => h) (fun _ _ _ _ => trivial)
    fun _ _ _ _ => trivial

instance : Ends (walk (books d c) fun _ => True) where
  finish := Keeps.call fun s x => by
    unfold TaskRunner.finishRecord
    split
    · exact .refl s
    · exact .of_eq rfl (Narrows.finish ‹_›).commands rfl

/-- The evidence is sent, and the operation ends. -/
theorem sendAndFinish {ev : OperationEvidence} {status : OperationStatus} {message : String} :
    (books d c).Spec (fun s => Told c ev s.manager)
      ((TaskRunner.advanceLease c ev).bind fun _ => TaskRunner.finish c.operationId status message)
      (fun _ _ => True) fun _ _ => True :=
  .bind advanceLease fun _ => (.finish : Keeps d c _)

/-- What is required of evidence is no other evidence. -/
theorem required {ev : OperationEvidence} {expected : EvidenceType} {label : String} :
    (books d c).Spec (fun s => c.kind.exits = true → RecordedAs s.manager c.target c.operationId ev)
      (Prog.ofExcept (requireOperationEvidence ev c.operationId expected label) : TaskProg _)
      (fun ev' s => Told c ev' s.manager) fun _ _ => True := by
  refine .ofExcept (fun ev' hreq s _ h => ?_) fun _ _ _ _ _ => trivial
  obtain ⟨rfl, ho, -⟩ := requireOperationEvidence_ok hreq
  exact ⟨ho, h⟩

theorem releaseTarget {service : OperationEvidence} :
    Keeps d c (TaskRunner.releaseTarget d c service) :=
  .bind .ofExcept fun _ => Walks.of_spec (P := fun _ => True) (Q := fun _ _ => True) (E := fun _ _ => True)
    (.bind (rpc (F := fun ev m => RecordedAs m c.target c.operationId ev ∧
      ev.operationId = c.operationId) finalizeRelease) fun _ =>
        .bind (.conseq required (fun _ _ h _ => h.1) (fun _ _ _ h => h) fun _ _ _ h => h)
          fun _ => sendAndFinish) fun _ => trivial

theorem drainAndRelease : Keeps d c (TaskRunner.drainAndRelease d c) := by
  refine .bind (.drainTarget .prepareExit) fun drained => ?_
  cases drained with
  | none => exact .ret
  | some _ => exact .bind (.rpc (.removeAndCommit .commitServiceChange)) fun _ => releaseTarget

theorem executeExit {reconciling : Bool} : Keeps d c (TaskRunner.executeExit d c reconciling) := by
  unfold TaskRunner.executeExit
  dsimp only
  split
  · exact drainAndRelease
  have hquery : (books d c).Spec (fun _ => True)
      (Rollouter.queryReleaseOperation c.target c.operationId)
      (fun prior s => ∀ ev, prior = some ev → RecordedAs s.manager c.target c.operationId ev)
      fun _ _ => True :=
    peekManager (F := fun _ => True) fun s prior _ _ hq ev hev => by rw [hev] at hq; exact hq
  refine .of_spec (P := fun _ => True) (Q := fun _ _ => True) (E := fun _ _ => True)
    (.bind (rpc (F := fun prior m => ∀ ev, prior = some ev → RecordedAs m c.target c.operationId ev)
      hquery) fun prior => ?_) fun _ => trivial
  cases prior with
  | some ev =>
    exact .bind (.conseq required (fun _ _ h _ => h ev rfl) (fun _ _ _ h => h) fun _ _ _ h => h)
      fun _ => sendAndFinish
  | none =>
    refine .conseq (P := fun _ => True) (.bind (.rpc (.reconcileExit .commitServiceChange) : Keeps d c _)
      fun service => ?_) (fun _ _ _ => trivial) (fun _ _ _ h => h) fun _ _ _ h => h
    cases service with
    | some _ => exact releaseTarget
    | none => exact drainAndRelease

/-- Evidence of an operation that publishes is the Trainer's word. -/
theorem sendPublished (hx : c.kind.exits = false) {ev : OperationEvidence} {expected : EvidenceType}
    {label : String} {status : OperationStatus} {message : String} :
    Keeps d c (do
      let ev ← Prog.ofExcept (requireOperationEvidence ev c.operationId expected label)
      TaskRunner.advanceLease c ev
      TaskRunner.finish c.operationId status message : TaskProg Unit) :=
  .of_spec (.bind required fun _ => sendAndFinish) fun _ hf => by rw [hx] at hf; cases hf

theorem executeAdd (hx : c.kind.exits = false) : Keeps d c (TaskRunner.executeAdd d c) := by
  refine .bind .peek fun lease => ?_
  split
  · exact Ends.finish
  refine .bind (.rpc (.prepareReplica fun _ => createBorrowedReplica)) fun prepared => ?_
  have hpublish : Keeps d c ((TaskProg.rpc (Trainer.bootstrapAndPublish d c.operationId)).bind fun ev =>
      if ev.type = .released then TaskRunner.finishFailedRelease c ev
        "ADD bootstrap failed; hidden runtime was verified RELEASED"
      else do
        let _ ← Prog.ofExcept
          (requireOperationEvidence ev c.operationId .serviceCommitted "operation")
        TaskRunner.finish c.operationId .succeeded "SERVICE_COMMITTED") := by
    refine .bind (.rpc Keeps.bootstrapAndPublish) fun ev => ?_
    split
    · exact sendPublished hx
    · exact .bind .ofExcept fun _ => .finish
  cases prepared with
  | released ev => exact sendPublished hx
  | bound => exact hpublish
  | runtime a => exact hpublish

theorem executeRestore (hx : c.kind.exits = false) : Keeps d c (TaskRunner.executeRestore d c) := by
  refine .bind (.rpc .bindRestore) fun _ => .bind (.rpc Keeps.restoreAndPublish) fun ev => ?_
  split
  · exact sendPublished hx
  · exact sendPublished hx

theorem lifecycle {reconciling : Bool} : Keeps d c (TaskRunner.lifecycle d c reconciling) := by
  unfold TaskRunner.lifecycle
  cases hk : c.kind with
  | add => exact executeAdd (by rw [hk]; rfl)
  | donate => exact executeExit
  | remove => exact executeExit
  | restore => exact executeRestore (by rw [hk]; rfl)

theorem openRecord : (books d c).Spec (fun _ => True)
    (TaskProg.call (TaskRunner.openRecord c.operationId)) (fun p _ => p.1 = c) fun _ _ => True := by
  refine Contract.Spec.call (fun _ _ _ h _ _ => h) fun s o hi _ => ?_
  have hcmd : s.journal.command c.operationId = .ok c := by
    unfold OperationJournal.command
    rw [hi.2]
  unfold TaskRunner.openRecord
  rw [hcmd]
  dsimp only
  split
  · exact ⟨.refl s, fun _ => ⟨fun _ ha => (by cases ha), fun _ _ => trivial⟩⟩
  rename_i j hj
  exact ⟨.of_eq rfl (Narrows.opened hj).commands rfl, fun _ =>
    ⟨fun _ ha => (by cases ha; rfl), fun _ _ => trivial⟩⟩

end Bookkeeping

/-- The thread of an operation keeps the books. -/
theorem Keeps.executeOperation : Keeps d c (TaskRunner.executeOperation d c.operationId) := by
  refine .tryCatch (Walks.of_spec (P := fun _ => True) (Q := fun _ _ => True) (E := fun _ _ => True)
    (.bind Bookkeeping.openRecord fun p => ?_) fun _ => trivial) fun e => call fun s o => ?_
  · obtain ⟨command, reconciling⟩ := p
    rintro s hi rfl
    exact Bookkeeping.lifecycle s hi trivial
  · unfold TaskRunner.markUnknown
    split
    · exact .refl s
    · split
      · exact .refl s
      · split
        · exact .refl s
        · exact .of_eq rfl (Narrows.finish ‹_›).commands rfl

/-! ## Every step of a task -/

/-- What the rest of the task leaves alone: nobody is woken, and only the scheduler takes evidence. -/
structure Besides (e : Environment) (s t : TaskState) : Prop where
  manager : t.manager = s.manager
  sleeping : ∀ n, (t.world n).isSleeping = (s.world n).isSleeping
  journal : t.journal = s.journal
  outbox : t.outbox ⊆ s.outbox
  reports : (∀ r, e ≠ .schedulerAnswers r) → t.outbox = s.outbox ∧ t.answer = s.answer

/-- Weights are loaded. -/
theorem sleeping_loadRanks (s : TaskState) (ranks : List Nat) (version n : Nat) :
    (s.loadRanks ranks version n).isSleeping = (s.world n).isSleeping := by
  unfold TaskState.loadRanks
  split <;> rfl

theorem Besides.same {s t : TaskState} {e : Environment} (hm : t.manager = s.manager)
    (hw : ∀ n, (t.world n).isSleeping = (s.world n).isSleeping) (hj : t.journal = s.journal)
    (ho : t.outbox = s.outbox) (ha : t.answer = s.answer) : Besides e s t :=
  ⟨hm, hw, hj, by rw [ho]; exact List.Subset.refl _, fun _ => ⟨ho, ha⟩⟩

theorem environment_besides {s t : TaskState} {e : Environment} (he : s.environment e = some t) :
    Besides e s t := by
  cases e with
  | acquireServer | releaseServer | confirmContinuation | versionAdvances =>
    cases he
    exact .same rfl (fun _ => rfl) rfl rfl rfl
  | deliver now =>
    simp only [TaskState.environment] at he
    split at he <;> cases he
    exact .same rfl (fun _ => rfl) rfl rfl rfl
  | schedulerAnswers result =>
    simp only [TaskState.environment] at he
    split at he <;> cases he
    rename_i ho
    exact ⟨rfl, fun _ => rfl, rfl, by rw [ho]; exact List.subset_cons_self _ _,
      fun hne => (hne result rfl).elim⟩
  | nativeSyncStarts now =>
    simp only [TaskState.environment] at he
    split at he
    · cases he
    split at he
    · cases he
    split at he <;> cases he
    exact .same rfl (fun _ => rfl) rfl rfl rfl
  | nativeSyncEnds =>
    simp only [TaskState.environment] at he
    split at he <;> cases he
    exact .same rfl (sleeping_loadRanks s _ _) rfl rfl rfl
  | nativeSyncFails loaded reason =>
    simp only [TaskState.environment] at he
    split at he
    · cases he
    split at he <;> cases he
    exact .same rfl (sleeping_loadRanks s _ _) rfl rfl rfl
  | clearBinding o fault =>
    simp only [TaskState.environment] at he
    split at he <;> cases he
    split <;> exact .same rfl (fun _ => rfl) rfl rfl rfl
  | threadEnds o =>
    simp only [TaskState.environment] at he
    split at he <;> cases he
    exact .same rfl (fun _ => rfl) rfl rfl rfl

theorem books_environment {s t : TaskState} {e : Environment} (he : s.environment e = some t) :
    Books s t := by
  have hbesides := environment_besides he
  exact ⟨by rw [hbesides.manager]; exact .refl _, .of_eq (by rw [hbesides.manager]),
    fun hc => by rw [hbesides.journal]; exact hc, fun hm => .inl (hbesides.outbox hm)⟩

namespace TaskSystem

variable {s t : TaskSystem} {l : TaskLabel}

/-- What holds of the books at all times: the thread keeps them, evidence of an exit is the Manager's
own, and a borrowed key has a record. -/
structure Bookkept (d : Deployment) (s : TaskSystem) : Prop where
  sound : Sound d False s
  worker : ∀ {o p}, s.worker = some (o, p) → ∃ c, c.operationId = o ∧
    s.state.journal.commands.get? o = some c ∧
    (books d c).Meets p (fun _ _ => True) (fun _ _ => True) s.state
  evidence : ∀ {l ev}, (l, ev) ∈ s.state.outbox → Evidenced s.state ev
  recorded : ∀ {k}, s.state.manager.replicaKind.get? k = some .borrowed →
    ∃ l rec, s.state.manager.borrowedOperations.get? l = some rec ∧ rec.resolved.key = k

/-- The books of a later state, once its thread is accounted for. -/
theorem Bookkept.step_to (h : Bookkept d s) (hb : Books s.state t.state) (ht : Sound d False t)
    (hw : ∀ {o p}, t.worker = some (o, p) → ∃ c, c.operationId = o ∧
      t.state.journal.commands.get? o = some c ∧
      (books d c).Meets p (fun _ _ => True) (fun _ _ => True) t.state) : Bookkept d t := by
  refine ⟨ht, hw, fun {l ev} hm => ?_, fun {k} hk => ?_⟩
  · rcases hb.outbox hm with hm | hev
    · obtain ⟨c, hc, -⟩ := h.sound.inv.reported.outbox hm
      intro c' hc' hx
      cases hc'.symm.trans (hb.commands hc)
      exact hb.ledger.recorded ht.inv.records (h.evidence hm _ hc hx)
    · exact hev
  · rcases hb.ledger.registered hk with hk | hk
    · obtain ⟨l, rec, hl, rfl⟩ := h.recorded hk
      obtain ⟨rec', hl', hg⟩ := hb.ledger.record hl
      exact ⟨l, rec', hl', by rw [hg.resolved]⟩
    · exact hk

/-- A thread that starts. -/
theorem meets_resume {st : TaskState} {o : String} {p : TaskProg Unit}
    (hc : st.journal.commands.get? c.operationId = some c)
    (hp : (books d c).Meets p (fun _ _ => True) (fun _ _ => True) st) {o' : String}
    {p' : TaskProg Unit} (ho : o = c.operationId) (hw : resume o p = some (o', p')) :
    ∃ c, c.operationId = o' ∧ st.journal.commands.get? o' = some c ∧
      (books d c).Meets p' (fun _ _ => True) (fun _ _ => True) st := by
  cases p with
  | ret a => cases hw
  | err e => cases hw
  | step tag ready act next =>
    cases hw
    subst ho
    exact ⟨c, rfl, hc, hp⟩

/-- A step of anybody else's. -/
theorem Bookkept.others (h : Bookkept d s) {st : TaskState} (hb : Books s.state st)
    (ht : Sound d False { s with state := st })
    (hr : ∀ c, Cur d c s.state → Rely c.operationId s.state st) :
    Bookkept d { s with state := st } := by
  refine h.step_to hb ht fun {o p} hw => ?_
  obtain ⟨c, rfl, hc, hmeets⟩ := h.worker hw
  obtain ⟨c', hcur, ho⟩ := h.sound.cur hw
  obtain ⟨-, tag, ready, act, next, rfl⟩ := h.sound.worker hw
  have hrely : (books d c).rely s.state st := by
    have := hr c' hcur
    rwa [ho] at this
  exact ⟨c, rfl, hb.commands hc, hmeets.rely_step hrely⟩

theorem Bookkept.work (h : Bookkept d s) {o : Choice} (hw : s.work o = some t)
    (ht : Sound d False t) : Bookkept d t ∧ Books s.state t.state := by
  unfold TaskSystem.work at hw
  split at hw
  · rename_i id tag ready act next hworker
    split at hw
    · rename_i hready
      cases hw
      obtain ⟨c, rfl, hc, hmeets⟩ := h.worker hworker
      obtain ⟨hb, hnext⟩ := hmeets s.state (Rely.refl _ _) ⟨h.sound.inv, hc⟩ o hready
      exact ⟨h.step_to hb ht fun hw => meets_resume (hb.commands hc)
        (hnext ⟨ht.inv, hb.commands hc⟩) rfl hw, hb⟩
    · cases hw
  · cases hw

/-- What `submit_operation` comes to: the journal may learn the command and the leases change; the thread
goes on, unless one of the command's own is started. -/
structure Submitted (d : Deployment) (c : OperationCommand) (s t : TaskSystem) : Prop where
  state : ∃ j leases, t.state = { s.state with journal := j, operationLeases := leases }
  commands : ∀ {o c'}, s.state.journal.commands.get? o = some c' →
    t.state.journal.commands.get? o = some c'
  resolved : ∀ {o r}, s.state.journal.records.get? o = some r → r.status.resolved = true →
    t.state.journal.records.get? o = some r
  thread : (t.worker = s.worker ∧ (t.state.journal = s.state.journal ∨ s.worker = none)) ∨
    Awaits d c t.state ∧ t.worker = resume c.operationId (executeOperation d c.operationId)

theorem Submitted.same {leases : Dict String Lease} :
    Submitted d c s { s with state := { s.state with operationLeases := leases } } :=
  ⟨⟨_, leases, rfl⟩, fun hc => hc, fun hr _ => hr, .inl ⟨rfl, .inl rfl⟩⟩

theorem Sound.submitted (h : Sound d False s) (lease : Option Lease) (starts : Bool) :
    Submitted d c s (s.submit d c lease starts).2 := by
  unfold TaskSystem.submit
  dsimp only
  cases hsub : submitOperation d c lease (s.worker.any fun w => w.1 = c.operationId) s.state with
  | mk res st =>
    cases hbegin : s.state.journal.begin c with
    | error e =>
      obtain ⟨e', he⟩ : ∃ e', submitOperation d c lease
          (s.worker.any fun w => w.1 = c.operationId) s.state = (.error e', s.state) :=
        submitOperation_refused hbegin
      rw [hsub] at he
      cases he
      exact .same
    | ok p =>
      obtain ⟨r, j⟩ := p
      by_cases hsame : st = s.state ∧ res ≠ .ok true
      · obtain ⟨rfl, hres⟩ := hsame
        rcases res with e | _ | _
        · exact .same
        · exact .same
        · exact (hres rfl).elim
      obtain ⟨ht, leases, rfl, hl, hlaunch⟩ := submitOperation_begun hbegin hsub (by
        rw [not_and_or, not_not] at hsame
        exact hsame)
      rcases OperationJournal.begin_cases ht hbegin with ⟨rfl, hr, hc⟩ | ⟨rfl, hnew, hidle⟩
      · have hreplay : (s.state.journal.query c.operationId).isSome = true := by
          rw [OperationJournal.query, hr]
          rfl
        rcases res with e | _ | _
        · exact .same
        · exact .same
        · dsimp only
          split
          · exact ⟨⟨_, leases, rfl⟩, fun hc => hc, fun hr _ => hr,
              .inr ⟨(h.replay hl hr hc).2 (hlaunch rfl r hr).1, rfl⟩⟩
          · rw [hreplay]
            exact .same
      · obtain ⟨hi, hw, -, hnone⟩ := h.begin hl hnew hidle ht rfl
        have hgrow {o c'} (hc' : s.state.journal.commands.get? o = some c') :
            (s.state.journal.begun c).commands.get? o = some c' := by
          have hne : c.operationId ≠ o := by
            rintro rfl
            have := h.inv.journal.known c.operationId
            rw [hnew, hc'] at this
            cases this
          exact (Dict.get?_insert_ne _ _ hne).trans hc'
        have hadd {o r} (hr : s.state.journal.records.get? o = some r) :
            (s.state.journal.begun c).records.get? o = some r := by
          have hne : c.operationId ≠ o := by
            rintro rfl
            rw [hnew] at hr
            cases hr
          exact (Dict.get?_insert_ne _ _ hne).trans hr
        have hkept {st : TaskState} (hst : ∃ j leases,
            st = { s.state with journal := j, operationLeases := leases })
            (hj : Narrows (s.state.journal.begun c) st.journal) :
            Submitted d c s { s with state := st } :=
          ⟨hst, fun hc => by rw [hj.commands]; exact hgrow hc, fun hr => hj.resolved (hadd hr),
            .inl ⟨rfl, .inr hnone⟩⟩
        rcases res with e | _ | _
        · exact hkept ⟨_, _, rfl⟩ (.of_eq rfl)
        · exact hkept ⟨_, _, rfl⟩ (.of_eq rfl)
        · dsimp only
          split
          · exact ⟨⟨_, leases, rfl⟩, hgrow, fun hr _ => hadd hr, .inr ⟨hw, rfl⟩⟩
          · unfold TaskRunner.launchFailed
            split
            · exact hkept ⟨_, _, rfl⟩ (.of_eq rfl)
            · dsimp only
              split
              · exact hkept ⟨_, _, rfl⟩ (.of_eq rfl)
              · exact hkept ⟨_, _, rfl⟩ (Narrows.finish ‹_›)

/-- `submit_operation` writes down nothing but the command. -/
theorem Bookkept.submit (h : Bookkept d s) (hs : Submitted d c s t) (ht : Sound d False t) :
    Bookkept d t ∧ Books s.state t.state := by
  obtain ⟨⟨j, leases, hst⟩, hcommands, -, hthread⟩ := hs
  obtain ⟨st, worker⟩ := t
  dsimp only at hst
  subst hst
  have hb : Books s.state { s.state with journal := j, operationLeases := leases } :=
    ⟨.refl _, .refl _, fun hc => hcommands hc, .inl⟩
  refine ⟨?_, hb⟩
  rcases hthread with ⟨hw, hj⟩ | ⟨hw, rfl⟩
  · dsimp only at hw hj
    subst hw
    rcases hj with rfl | hnone
    · exact h.others hb ht fun _ _ => rely_leases _
    · exact h.step_to hb ht fun hw => by rw [hnone] at hw; cases hw
  · have hc := (ht.inv.cur_command hw.1).1
    exact h.step_to hb ht fun hw => meets_resume hc
      (Keeps.executeOperation _ ⟨ht.inv, hc⟩ trivial) rfl hw

theorem Bookkept.step (h : Bookkept d s) (hs : step d l s = some t) :
    Bookkept d t ∧ Books s.state t.state := by
  have ht : Sound d False t := h.sound.step hs False.elim
  cases l with
  | submit c lease starts =>
    cases hs
    exact h.submit (h.sound.submitted lease starts) ht
  | work o => exact h.work hs ht
  | environment e =>
    obtain ⟨st, he, rfl⟩ := Option.map_eq_some_iff.1 hs
    exact ⟨h.others (books_environment he) ht fun _ hc => Rely.environment h.sound.inv hc he,
      books_environment he⟩

theorem bookkept_initial (h : (machine d).init s) : Bookkept d s := by
  refine ⟨sound_initial h, fun hw => ?_, fun hm => ?_, fun hk => ?_⟩ <;>
    obtain ⟨replicas, version, hstarts, rfl⟩ := h
  · cases hw
  · cases hm
  · cases ((get?_kind hstarts).1 hk).1

theorem bookkept_reachable (h : (machine d).Reachable s) : Bookkept d s :=
  h.invariant (fun _ => bookkept_initial) fun _ _ _ hs hstep _ => (hs.step hstep).1

/-- Over a run the ledger evolves, and commands stay bound. -/
theorem bookkept_run (h : Bookkept d s) (hr : (machine d).Run s t) : Bookkept d t ∧
    Evolves s.state.manager t.state.manager ∧
    ∀ o c, s.state.journal.commands.get? o = some c → t.state.journal.commands.get? o = some c := by
  induction hr with
  | refl => exact ⟨h, .refl _, fun _ _ hc => hc⟩
  | tail _ hs _ ih =>
    obtain ⟨hbook, hev, hcmd⟩ := ih
    obtain ⟨hbook', hb⟩ := hbook.step hs
    exact ⟨hbook', hev.trans hb.ledger, fun o c hc => hb.commands (hcmd o c hc)⟩

/-! ## Over a whole run -/

theorem run_after {ls : List TaskLabel} (h : after ls = some s) : (machine deployment).Run start s :=
  .steps (f := fun s l => step deployment l s) (fun h => ⟨h, trivial⟩) h

/-- What the Manager has written down it never takes back, and in each step of a run a record makes at most
one move that `_ALLOWED` has. -/
theorem ledger_evolves (h : (machine d).Reachable s) (hr : (machine d).Run s t) :
    Evolves s.state.manager t.state.manager ∧
      ∀ {l u}, step d l t = some u → Moves t.state.manager u.state.manager := by
  obtain ⟨ht, hev, -⟩ := bookkept_run (bookkept_reachable h) hr
  exact ⟨hev, fun hs => (ht.step hs).2.moves⟩

theorem ledger_evolves_donated : ∃ t, after donating = some t ∧
    t.state.manager.replicaState.get? nativeKey0 = some .dormant ∧
    Evolves start.state.manager t.state.manager := by
  have hend : (after donating).any (fun t =>
      decide (t.state.manager.replicaState.get? nativeKey0 = some .dormant)) = true := by decide +kernel
  obtain ⟨t, ht, -, hc⟩ := exists_after hend
  exact ⟨t, ht, of_decide_eq_true hc, (ledger_evolves ⟨start, init_start, .refl _⟩ (run_after ht)).1⟩

/-- No rank is given to two runtimes: whoever has the rank of a runtime of an earlier state is that
runtime, under the same key. -/
theorem rank_single (h : (machine d).Reachable s) (hr : (machine d).Run s t) {k k' : ReplicaKey}
    {r r' : Replica} (hk : s.state.manager.runtimeInventory.get? k = some r)
    (hk' : t.state.manager.runtimeInventory.get? k' = some r') (hrank : r.rank = r'.rank) :
    k = k' ∧ r = r' := by
  have hs := bookkept_reachable h
  obtain ⟨ht, hev, -⟩ := bookkept_run hs hr
  rcases hev.runtime hk with hkeep | hgone
  · exact ht.sound.inv.wired.holds_inj (.inl hkeep) (.inl hk') hrank
  · -- only a borrowed key is released, and its record still has the rank
    have hkind := hs.sound.inv.wired.runtime_kind hk
    cases hrk : r.kind with
    | native =>
      rw [hrk] at hkind
      exact absurd hgone (ht.sound.inv.wired.native_state (hev.kind hkind)).2.1
    | borrowed =>
      rw [hrk] at hkind
      obtain ⟨l, rec, hl, rfl⟩ := hs.recorded hkind
      obtain ⟨-, hranked⟩ := hs.sound.inv.records.runtime hl hk
      obtain ⟨rec', hl', hg⟩ := hev.record hl
      have howner := ht.sound.inv.records.owner hl' hk' (by rw [hg.rank, hranked, hrank])
      rw [howner, hg.resolved, ht.sound.inv.wired.released_gone hgone] at hk'
      cases hk'

theorem rank_single_added : ∃ t, after (submitAdd :: works 44) = some t ∧
    t.state.manager.runtimeInventory.keys.length = 2 ∧
    ∀ k r, t.state.manager.runtimeInventory.get? k = some r → r.rank = 0 → k = nativeKey0 := by
  have hend : (after (submitAdd :: works 44)).any (fun t =>
      decide (t.state.manager.runtimeInventory.keys.length = 2)) = true := by decide +kernel
  obtain ⟨t, ht, -, hc⟩ := exists_after hend
  exact ⟨t, ht, of_decide_eq_true hc, fun k r hk hr => (rank_single ⟨start, init_start, .refl _⟩
    (run_after ht) (k := nativeKey0) (r := ⟨0, .native, "a0", ⟨"node", "pg", "g0"⟩⟩) rfl hk hr.symm).1.symm⟩

/-- A key that is released is released for good: it has no runtime, no receiver waiting and no route in any
later state. -/
theorem released_final (h : (machine d).Reachable s) (hr : (machine d).Run s t) {k : ReplicaKey}
    (hk : s.state.manager.replicaState.get? k = some .released) :
    t.state.manager.replicaState.get? k = some .released ∧
      t.state.manager.runtimeInventory.get? k = none ∧ t.state.lb.routes.get? k = none ∧
      t.state.ce.pending.get? k = none := by
  obtain ⟨ht, hev, -⟩ := bookkept_run (bookkept_reachable h) hr
  have hi := ht.sound.inv
  have hgone := hev.released hk
  refine ⟨hgone, hi.wired.released_gone hgone, hi.no_route fun hin => ?_, ?_⟩
  · rcases hin with hin | hin <;> rw [hgone] at hin <;> cases hin
  · refine Option.eq_none_iff_forall_ne_some.2 fun e hp => ?_
    obtain ⟨rs, o⟩ := e
    obtain ⟨r, -, hrun⟩ := hi.wired.pending hp
    rw [hi.wired.released_gone hgone] at hrun
    cases hrun

/-- The placement of an ADD cannot be resolved. -/
def unplaced : List TaskLabel := submitAdd :: works 5 ++ fails .before ++ works 4

/-- It ends FAILED, and the native replica is donated. -/
def rejected : List TaskLabel :=
  works 1 ++ .environment (.schedulerAnswers (.ok ())) :: works 2 ++ donating

theorem released_final_unplaced : ∃ s t, after unplaced = some s ∧
    rejected.foldlM (fun s l => step deployment l s) s = some t ∧
    t.state.manager.replicaState.get? nativeKey0 = some .dormant ∧
    t.state.manager.replicaState.get? borrowerKey = some .released ∧
    t.state.lb.routes.get? borrowerKey = none := by
  have hend : (after unplaced).any (fun s =>
      decide (s.state.manager.replicaState.get? borrowerKey = some .released) &&
      (rejected.foldlM (fun s l => step deployment l s) s).any fun t =>
        decide (t.state.manager.replicaState.get? nativeKey0 = some .dormant)) = true := by
    decide +kernel
  obtain ⟨s, hs, hreach, hc⟩ := exists_after hend
  obtain ⟨hk, hlater⟩ := Bool.and_eq_true_iff.1 hc
  obtain ⟨t, ht, hd⟩ := (Option.any_eq_true _ _).1 hlater
  have hrun : (machine deployment).Run s t :=
    .steps (f := fun s l => step deployment l s) (fun h => ⟨h, trivial⟩) ht
  obtain ⟨hreleased, -, hroute, -⟩ := released_final hreach hrun (of_decide_eq_true hk)
  exact ⟨s, t, hs, ht, of_decide_eq_true hd, hreleased, hroute⟩

/-- From the first time a task sends evidence for a DONATE or REMOVE, the Manager answers with it, and all
evidence the task sends for the operation is the same. -/
theorem exit_evidence_single (h : (machine d).Reachable s) (hr : (machine d).Run s t)
    {l : String} {ev : OperationEvidence} (hm : (l, ev) ∈ s.state.outbox)
    (hc : s.state.journal.commands.get? ev.operationId = some c) (hx : c.kind.exits = true) :
    t.state.manager.queryReleaseEvidence c.target c.operationId = .ok (some ev) ∧
      ∀ l' ev', (l', ev') ∈ t.state.outbox → ev'.operationId = ev.operationId → ev' = ev := by
  have hs := bookkept_reachable h
  obtain ⟨ht, hev, hcmd⟩ := bookkept_run hs hr
  have hrec := hev.recorded ht.sound.inv.records (hs.evidence hm c hc hx)
  refine ⟨hrec, fun l' ev' hm' ho => ?_⟩
  have hrec' := ht.evidence hm' c (by rw [ho]; exact hcmd _ _ hc) hx
  exact Option.some.inj (Except.ok.inj (hrec'.symm.trans hrec))

/-- The GroupScheduler's answer to the evidence of a donation is an error, and it is sent again. -/
def resending : List TaskLabel := .environment (.schedulerAnswers (.error lostReply)) :: works 2

theorem exit_evidence_single_donated : ∃ s t l l' ev ev', after donating = some s ∧
    (machine deployment).Run s t ∧ (l, ev) ∈ s.state.outbox ∧ (l', ev') ∈ t.state.outbox ∧ ev' = ev := by
  have hend : (after donating).any (fun s => s.state.outbox.any fun e =>
      decide (s.state.journal.commands.get? e.2.operationId =
        some (command "d1" .donate nativeKey0)) &&
      (resending.foldlM (fun s l => step deployment l s) s).any fun t => t.state.outbox.any fun e' =>
        decide (e'.2.operationId = e.2.operationId)) = true := by decide +kernel
  obtain ⟨s, hs, hreach, hc⟩ := exists_after hend
  obtain ⟨⟨l, ev⟩, hm, hc⟩ := List.any_eq_true.1 hc
  obtain ⟨hcmd, hlater⟩ := Bool.and_eq_true_iff.1 hc
  obtain ⟨t, ht, hlater⟩ := (Option.any_eq_true _ _).1 hlater
  obtain ⟨⟨l', ev'⟩, hm', hlater⟩ := List.any_eq_true.1 hlater
  have hrun : (machine deployment).Run s t :=
    .steps (f := fun s l => step deployment l s) (fun h => ⟨h, trivial⟩) ht
  exact ⟨s, t, l, l', ev, ev', hs, hrun, hm, hm', (exit_evidence_single hreach hrun hm
    (of_decide_eq_true hcmd) rfl).2 l' ev' hm' (of_decide_eq_true hlater)⟩

end TaskSystem

end ReplicaLending
