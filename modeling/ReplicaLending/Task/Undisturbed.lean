import ReplicaLending.Task.Accounts
import ReplicaLending.Task.Resting
import ReplicaLending.Task.Stranding
/-!
# A replica rests until it is restored

| operation | why it leaves other replicas in peace |
| --- | --- |
| ADD               | `prepare_replica` creates a borrowed runtime, or it goes no further (`Spares.executeAdd`) |
| DONATE, REMOVE    | once bound, the target is DRAINING or QUARANTINED (`Bindings.exit`) |
| RESTORE           | its target is the replica that is restored |

So the lifecycle thread never wakes anyone but the target of a RESTORE (`Spares.executeOperation`), and in
the machine of one task a replica at rest stays so until the thread of a RESTORE of it runs
(`resting_step`).
-/

namespace ReplicaLending

open TaskState TaskProg Rollouter Trainer LLMServerManager TaskRunner

variable {d : Deployment} {c : OperationCommand} {F : LLMServerManager → Prop} {s t : TaskState}
  {k : ReplicaKey}

namespace Spares

/-! ## `bootstrap_target` -/

/-- Only a RESTORE calls it. -/
theorem quarantineDormantRestore (hc : c.kind = .restore) :
    Spares d c F (TaskProg.call (Rollouter.quarantineDormantRestore c.operationId)) := by
  refine call fun s x hi => ?_
  unfold Rollouter.quarantineDormantRestore
  split
  · exact .refl s
  rename_i target hb
  obtain rfl := undisturbed_target hi (getPendingTarget_eq hb)
  split
  · exact .refl s
  split
  · exact .refl s
  split
  · exact .refl s
  · have hm : Undisturbed c s (TaskState.onManager (·.transitionReplica c.target .quarantined) s).2 :=
      .onManager s fun _ h => .transition h fun _ => .inr ⟨hc, rfl⟩
    split <;> (rename_i heq; exact (congrArg (fun r => Undisturbed c s r.2) heq).mp hm)
  · exact .refl s

/-- The runtimes that are bootstrapped are the target's. -/
def OfTarget (c : OperationCommand) (rs : List Replica) (m : LLMServerManager) : Prop :=
  ∀ r ∈ rs, m.runtimeInventory.get? c.target = some r

theorem bootstrapHead {version : Nat} : (undisturbedWhile d c F).Spec (fun _ => True)
    (TaskProg.call (bootstrapHead d c.target c.operationId version))
    (fun head s => ∀ rs kind, head = .inr (rs, kind) → OfTarget c rs s.manager) fun _ _ => True := by
  refine .call (stable_of_manager fun _ => True) fun s o hi _ => ?_
  have hpending {rs} (h : s.ce.bootstrapEntry c.target c.operationId version = .ok (.inr rs)) :
      OfTarget c rs s.manager := by
    unfold CheckpointEngineManager.bootstrapEntry at h
    split at h
    · split at h <;> cases h
    · split at h
      · cases h
      · split at h
        · cases h
        · cases h
          obtain ⟨r, rfl, hr⟩ := hi.1.1.wired.pending ‹_›
          intro r' hr'
          rwa [List.mem_singleton.1 hr']
  unfold Trainer.bootstrapHead
  split
  · exact ⟨.refl s, fun _ => ⟨fun _ ha => (by cases ha), fun _ _ => trivial⟩⟩
  · split
    · exact ⟨.refl s, fun _ => ⟨fun _ ha => (by cases ha), fun _ _ => trivial⟩⟩
    · exact ⟨.refl s, fun _ => ⟨fun _ ha _ _ hr => (by cases ha; cases hr), fun _ _ => trivial⟩⟩
    · exact ⟨.refl s, fun _ => ⟨fun _ ha => (by cases ha), fun _ _ => trivial⟩⟩
    · split
      · exact ⟨.refl s, fun _ => ⟨fun _ ha => (by cases ha), fun _ _ => trivial⟩⟩
      · split
        · exact ⟨.refl s, fun _ => ⟨fun _ ha => (by cases ha), fun _ _ => trivial⟩⟩
        · refine ⟨.refl s, fun _ => ⟨fun _ ha rs kind hr => ?_, fun _ _ => trivial⟩⟩
          cases ha
          cases hr
          exact hpending ‹_›

section Bootstrap

variable (hopen : ∀ s, (undisturbedWhile d c F).inv s → Open c s.manager) {rs : List Replica}
include hopen

/-- A call to one of the target's runtimes. -/
theorem onTarget {r : Replica} (hr : r ∈ rs) {α : Type}
    {f : (Nat → Fault) → Server → Except PyErr α × Server} :
    Walks (undisturbedWhile d c F) (OfTarget c rs) (TaskProg.onServer r f) :=
  onServer fun s hi hof => ⟨hopen s hi, hof r hr⟩

omit hopen in
/-- The weights change, not who sleeps. -/
theorem transfer {version : Nat} :
    Walks (undisturbedWhile d c F) (OfTarget c rs) (Trainer.transfer rs version) := by
  refine .call fun s x _ h => ?_
  have hloaded {w : Nat → Server} (hw : ∀ n, (w n).isSleeping = (s.world n).isSleeping) :
      Undisturbed c s { s with world := w } :=
    .of_world rfl fun _ r _ _ _ ha => (hw r.rank).trans ha
  have hload n : (if n ∈ rs.map Replica.rank then { s.world n with globalSteps := some version }
      else s.world n : Server).isSleeping = (s.world n).isSleeping := by
    split <;> rfl
  cases hx : x.fault <;> exact ⟨by first | exact hloaded hload | exact .refl s, h⟩

theorem bootstrapTarget {version : Nat} :
    Spares d c F (Trainer.bootstrapTarget d c.target c.operationId version) := by
  refine .of_spec (P := fun _ => True) (Q := fun _ _ => True) (E := fun _ _ => True)
    (.bind bootstrapHead fun head => ?_) fun _ => trivial
  rcases head with evidence | ⟨rs, kind⟩
  · exact .ret fun _ _ _ => trivial
  · have hwalk : Walks (undisturbedWhile d c F) (OfTarget c rs) (Prog.tryCatch
        ((Trainer.wakeForBootstrap d rs kind).bind fun uuids =>
          Trainer.loadTarget d c.target c.operationId version rs uuids)
        (Trainer.bootstrapFailed d c.operationId rs kind)) :=
      .tryCatch (.bind (.wakeForBootstrap fun _ hr _ _ => onTarget hopen hr) fun _ =>
        .loadTarget (fun _ hr _ _ => onTarget hopen hr) transfer) fun _ =>
          .bootstrapFailed fun _ hr _ _ => onTarget hopen hr
    exact .conseq hwalk (fun _ _ h => h rs kind rfl) (fun _ _ _ _ => trivial) fun _ _ _ _ => trivial

theorem bootstrapAndPublish : Spares d c F (Trainer.bootstrapAndPublish d c.operationId) :=
  Judgement.Holds.bootstrapAndPublish (commitServiceChange fun s hi _ => hopen s hi) finalizeRelease
    fun k (hk : k = c.target) _ => hk ▸ bootstrapTarget hopen

end Bootstrap

theorem restoreAndPublish (hc : c.kind = .restore) :
    Spares d c F (Trainer.restoreAndPublish d c.operationId) :=
  Judgement.Holds.restoreAndPublish (commitServiceChange fun _ _ _ => .inl hc) finalizeRelease
    (fun k (hk : k = c.target) _ => hk ▸ bootstrapTarget fun _ _ => .inl hc)
    (quarantineDormantRestore hc)

/-- What an exit is bound to is DRAINING, or QUARANTINED. -/
theorem commitExitChange (hx : c.kind.exits = true) :
    Spares d c F (Rollouter.commitServiceChange d c.operationId) := by
  refine commitServiceChange fun s hi hb => .inr fun hd => ?_
  rcases hi.1.1.bindings.exit hi.1.2 hx hb with hs | hs <;> cases hs.symm.trans hd

/-! ## The TaskRunner -/

theorem undisturbed_open {o : String} (s : TaskState) (x : Choice) :
    Undisturbed c s (TaskRunner.openRecord o s x).2 := by
  unfold TaskRunner.openRecord
  split
  · exact .refl s
  · dsimp only
    split
    · exact .refl s
    · exact .of_journal (Narrows.opened ‹_›)

end Spares

instance : Ends (walk (undisturbedWhile d c F) fun _ => True) where
  finish := Spares.call fun s x _ => by
    unfold TaskRunner.finishRecord
    split
    · exact .refl s
    · exact .of_journal (Narrows.finish ‹_›)

instance : Sends (walk (undisturbedWhile d c F) fun _ => True) where
  send := .bind (Spares.call fun s x _ => by
    split
    · exact .refl s
    · exact .of_journal (.of_eq rfl)) fun _ => Free.aside fun _ _ => .rfl

namespace Spares

theorem executeExit (hx : c.kind.exits = true) {reconciling : Bool} :
    Spares d c F (TaskRunner.executeExit d c reconciling) :=
  Judgement.Holds.executeExit .prepareExit (.removeAndCommit (commitExitChange hx))
    (.reconcileExit (commitExitChange hx)) finalizeRelease

theorem executeRestore (hc : c.kind = .restore) : Spares d c F (TaskRunner.executeRestore d c) :=
  Judgement.Holds.executeRestore .bindRestore (restoreAndPublish hc)

/-- Once `prepare_replica` has let it pass, the target of an ADD is the borrowed runtime it has opened a
record for. -/
theorem borrowed_of_begun (h : Inv d False s) (hc : Cur d c s) (hadd : c.kind = .add)
    (hb : Begun s c) : s.manager.replicaKind.get? c.target = some .borrowed := by
  have hs := hb.started
  unfold Started at hs
  rw [hadd] at hs
  obtain ⟨l, rec, hl, ho⟩ := hs
  obtain ⟨c', hcmd, -, hkey⟩ := h.records.command hl
  rw [ho, (h.cur_command hc).1] at hcmd
  cases hcmd
  rw [hkey]
  exact h.records.borrowed hl

theorem allowed_lenient {o : String} (tag : Event) (s : TaskState) (x : Choice) :
    (protocol d False o).allowed tag s x := by
  cases tag <;> first | exact False.elim | trivial

theorem executeAdd (hadd : c.kind = .add) : (undisturbed d c).Spec (Run d c)
    (TaskRunner.executeAdd d c) (fun _ _ => True) fun _ _ => True := by
  have hstable : (undisturbed d c).Stable (Run d c) := fun s t hi h hr ht =>
    (Steady.run : Steady d False c (Run d c)) s t hi.1 h hr ht.1
  have hlater {p : TaskProg Unit} (hp : Spares d c
      (fun m => m.replicaKind.get? c.target = some .borrowed) p) : (undisturbed d c).Spec
        (fun s => s.manager.replicaKind.get? c.target = some .borrowed) p (fun _ _ => True)
        fun _ _ => True := spec (fun _ _ hg h => hg.kind h) hp
  refine .bind (Q := fun lease s => Run d c s ∧ ∃ spec, buildBorrowedSpec c lease = .ok spec ∧
      Places c spec) (.call hstable fun s o hi h => ⟨.refl s, fun _ => ⟨fun lease hl => ⟨h, ?_⟩,
        fun _ _ => trivial⟩⟩) fun lease s hi ⟨hrun, borrowed, hbuild, hplaces⟩ => ?_
  · dsimp only at hl
    cases hlease : s.operationLeases.get? c.operationId with
    | none => rw [hlease] at hl; cases hl
    | some l =>
      rw [hlease] at hl
      cases hl
      exact hi.1.places hi.2 hadd hlease
  rw [hbuild]
  have hprepare : (undisturbed d c).Spec (fun s => Run d c s ∧ True)
      (TaskProg.rpc (Rollouter.prepareReplica d c.target c.operationId (some borrowed)))
      (fun r s => (Run d c s ∧ Triple.Ready False c r s) ∧ True) fun _ _ => True := by
    have hadded : Triple d False c (fun _ => True)
        (TaskProg.rpc (Rollouter.prepareReplica d c.target c.operationId (some borrowed)))
        (Triple.Ready False c) fun _ _ => True := Triple.prepareAdd hadd hplaces
    have hspared : (undisturbed d c).Spec (fun s => Run d c s ∧ True)
        (TaskProg.rpc (Rollouter.prepareReplica d c.target c.operationId (some borrowed)))
        (fun _ _ => True) fun _ _ => True :=
      .conseq (spec (F := fun _ => True) (fun _ _ _ h => h)
        (.rpc (.prepareReplica fun _ => createBorrowedReplica))) (fun _ _ _ => trivial) (fun _ _ _ h => h) fun _ _ _ h => h
    exact .conseq (.and_hoare (fun _ hi => hi.1) (fun _ _ hr => hr) allowed_lenient hadded hspared)
      (fun _ _ h => h) (fun _ _ _ h => h) fun _ _ _ _ => trivial
  refine (Contract.Spec.bind hprepare fun prepared => ?_) s hi ⟨hrun, trivial⟩
  have hpublish : (undisturbed d c).Spec (fun s => (Run d c s ∧ Begun s c) ∧ True)
      ((TaskProg.rpc (Trainer.bootstrapAndPublish d c.operationId)).bind fun ev =>
        if ev.type = .released then TaskRunner.finishFailedRelease c ev
          "ADD bootstrap failed; hidden runtime was verified RELEASED"
        else do
          let _ ← Prog.ofExcept
            (requireOperationEvidence ev c.operationId .serviceCommitted "operation")
          TaskRunner.finish c.operationId .succeeded "SERVICE_COMMITTED") (fun _ _ => True)
      fun _ _ => True := by
    refine .conseq (hlater (.bind (.rpc (bootstrapAndPublish fun s hi => open_of_borrowed hi.1.1 hi.2))
      fun ev => ?_)) (fun s hi h => borrowed_of_begun hi.1 hi.2 hadd h.1.2) (fun _ _ _ h => h)
      fun _ _ _ h => h
    split
    · exact .report
    · exact .bind .ofExcept fun _ => .finish
  cases prepared with
  | released ev =>
    exact .conseq (spec (F := fun _ => True) (fun _ _ _ h => h) .report) (fun _ _ _ => trivial)
      (fun _ _ _ h => h) fun _ _ _ h => h
  | bound => exact hpublish
  | runtime a => exact hpublish

theorem lifecycle {reconciling : Bool} : (undisturbed d c).Spec (Run d c)
    (TaskRunner.lifecycle d c reconciling) (fun _ _ => True) fun _ _ => True := by
  have hanyhow {p : TaskProg Unit} (hp : Spares d c (fun _ => True) p) :
      (undisturbed d c).Spec (Run d c) p (fun _ _ => True) fun _ _ => True :=
    .conseq (spec (fun _ _ _ h => h) hp) (fun _ _ _ => trivial) (fun _ _ _ h => h) fun _ _ _ h => h
  unfold TaskRunner.lifecycle
  cases hk : c.kind with
  | add => exact executeAdd hk
  | donate => exact hanyhow (executeExit (by rw [hk]; rfl))
  | remove => exact hanyhow (executeExit (by rw [hk]; rfl))
  | restore => exact hanyhow (executeRestore hk)

/-- The thread of an operation. -/
theorem executeOperation : (undisturbed d c).Spec (Awaits d c)
    (TaskRunner.executeOperation d c.operationId) (fun _ _ => True) fun _ _ => True := by
  have hstable : (undisturbed d c).Stable (Awaits d c) := fun s t hi h hr ht =>
    (Steady.awaits : Steady d False c (Awaits d c)) s t hi.1 h hr ht.1
  refine .tryCatch (E := fun _ _ => True) (.bind (Q := fun p s => p.1 = c ∧ Run d c s)
    (.call hstable fun s o hi hw => ?opened) fun p => ?running) fun e => ?unknown
  case opened =>
    refine ⟨undisturbed_open s o, fun _ => ⟨fun p hp => ?_, fun _ _ => trivial⟩⟩
    obtain ⟨reconciling, j, heq, -, hrun, -⟩ := hi.1.openRecord hw o
    rw [heq] at hp ⊢
    cases hp
    exact ⟨rfl, hrun⟩
  case running =>
    obtain ⟨command, reconciling⟩ := p
    rintro s hi ⟨rfl, hrun⟩
    exact lifecycle s hi hrun
  case unknown =>
    refine spec (F := fun _ => True) (fun _ _ _ h => h) (call fun s o _ => ?_)
    unfold TaskRunner.markUnknown
    split
    · exact .refl s
    · split
      · exact .refl s
      · split
        · exact .refl s
        · exact .of_journal (Narrows.finish ‹_›)

end Spares

/-! ## Every step of a task -/

theorem Resting.environment {e : Environment} (he : s.environment e = some t) (h : Resting s k) :
    Resting t k := by
  have hbesides := environment_besides he
  obtain ⟨hd, r, hr, ha⟩ := h
  exact ⟨by rw [hbesides.manager]; exact hd, r, by rw [hbesides.manager]; exact hr,
    (hbesides.sleeping r.rank).trans ha⟩

/-- What has been measured does not change: a native replica keeps its runtime. -/
theorem Measured.evolves {m m' : LLMServerManager} {ce : CheckpointEngineManager}
    {ev : OperationEvidence} (h : Measured m k ev) (hev : Evolves m m') (hw : Wired m' ce) :
    Measured m' k ev := by
  obtain ⟨hk, r, hr, hg⟩ := h
  refine ⟨hev.kind hk, r, (hev.runtime hr).resolve_right fun hs => ?_, hg⟩
  exact (hw.native_state (hev.kind hk)).2.1 hs

namespace TaskSystem

variable {s t : TaskSystem} {l : TaskLabel}

/-- The thread, if there is one, is that of the unfinished operation and leaves the others in peace; the
evidence of every native release is measured. -/
structure Peaceful (d : Deployment) (s : TaskSystem) : Prop where
  books : Bookkept d s
  measured : ∀ {o k ev}, s.state.manager.nativeReleaseEvidence.get? o = some (k, ev) →
    Measured s.state.manager k ev
  worker : ∀ {o p}, s.worker = some (o, p) → ∃ c, Cur d c s.state ∧ c.operationId = o ∧
    (undisturbed d c).Meets p (fun _ _ => True) (fun _ _ => True) s.state

/-- The step is one of the thread of a RESTORE of the replica. -/
def Wakes (d : Deployment) (s : TaskSystem) (l : TaskLabel) (k : ReplicaKey) : Prop :=
  ∃ o c, l = .work o ∧ Cur d c s.state ∧ c.Restores k

/-- A thread that goes on is still that of the operation. -/
theorem Sound.cur_eq (h : Sound d False s) {p : TaskProg Unit}
    (hw : s.worker = some (c.operationId, p))
    (hc : s.state.journal.commands.get? c.operationId = some c) : Cur d c s.state := by
  obtain ⟨c', hcur, ho⟩ := h.cur hw
  have := (h.inv.cur_command hcur).1
  rw [ho, hc] at this
  cases this
  exact hcur

theorem Peaceful.others (h : Peaceful d s) {st : TaskState} (ht : Bookkept d { s with state := st })
    (hm : st.manager = s.state.manager) (hr : ∀ c, Cur d c s.state → Rely c.operationId s.state st) :
    Peaceful d { s with state := st } := by
  refine ⟨ht, fun ho => ?_, fun {o p} hw => ?_⟩
  · dsimp only at ho ⊢
    rw [hm] at ho ⊢
    exact h.measured ho
  obtain ⟨c, hcur, rfl, hmeets⟩ := h.worker hw
  obtain ⟨-, tag, ready, act, next, rfl⟩ := h.books.sound.worker hw
  have hrely := hr c hcur
  have hjournal : st.journal = s.state.journal := congrArg View.journal hrely.view
  refine ⟨c, ?_, rfl, hmeets.rely_step hrely⟩
  show st.journal.current d.taskSession = some c
  rw [hjournal]
  exact hcur

theorem Peaceful.work (h : Peaceful d s) {o : Choice} (hw : s.work o = some t)
    (ht : Bookkept d t) (hb : Books s.state t.state) :
    Peaceful d t ∧ ∃ c, Cur d c s.state ∧ Undisturbed c s.state t.state := by
  unfold TaskSystem.work at hw
  split at hw
  · rename_i id tag ready act next hworker
    split at hw
    · rename_i hready
      cases hw
      obtain ⟨c, hcur, rfl, hmeets⟩ := h.worker hworker
      obtain ⟨hg, hnext⟩ := hmeets s.state (Rely.refl _ _) ⟨h.books.sound.inv, hcur⟩ o hready
      refine ⟨⟨ht, fun ho => ?_, fun {o' p'} hw => ?_⟩, c, hcur, hg⟩
      · rcases hg.slept ho with ho | hm
        · exact (h.measured ho).evolves hb.ledger ht.sound.inv.wired
        · exact hm
      obtain ⟨rfl, rfl⟩ := resume_eq_some hw
      have hcur' := ht.sound.cur_eq hw (hb.commands (h.books.sound.inv.cur_command hcur).1)
      exact ⟨c, hcur', rfl, hnext ⟨ht.sound.inv, hcur'⟩⟩
    · cases hw
  · cases hw

theorem Peaceful.submit (h : Peaceful d s) (hs : Submitted d c s t) (ht : Bookkept d t) :
    Peaceful d t := by
  obtain ⟨⟨j, leases, hst⟩, -, -, hthread⟩ := hs
  obtain ⟨st, worker⟩ := t
  dsimp only at hst
  subst hst
  rcases hthread with ⟨hw, hj⟩ | ⟨hw, rfl⟩
  · dsimp only at hw hj
    subst hw
    rcases hj with rfl | hnone
    · exact h.others ht rfl fun _ _ => rely_leases _
    · exact ⟨ht, h.measured, fun hw => by rw [hnone] at hw; cases hw⟩
  · refine ⟨ht, h.measured, fun {o p} hres => ?_⟩
    dsimp only at hres
    obtain ⟨rfl, rfl⟩ := resume_eq_some hres
    exact ⟨c, hw.1, rfl, Spares.executeOperation _ ⟨ht.sound.inv, hw.1⟩ hw⟩

/-- Whoever rests keeps resting, but for the thread of a RESTORE of it. -/
theorem Peaceful.step (h : Peaceful d s) (hs : step d l s = some t) : Peaceful d t ∧
    Books s.state t.state ∧ ∀ {k}, ¬ Wakes d s l k → Resting s.state k → Resting t.state k := by
  obtain ⟨ht, hb⟩ := h.books.step hs
  cases l with
  | submit c lease starts =>
    cases hs
    have hsub : Submitted d c s (s.submit d c lease starts).2 :=
      h.books.sound.submitted lease starts
    obtain ⟨j, leases, hst⟩ := hsub.state
    refine ⟨h.submit hsub ht, hb, fun {k} _ hr => ?_⟩
    rw [hst]
    exact hr
  | work o =>
    obtain ⟨hp, c, hcur, hg⟩ := h.work hs ht hb
    exact ⟨hp, hb, fun hk hr => hg.resting (fun hc => hk ⟨o, c, rfl, hcur, hc⟩) hr⟩
  | environment e =>
    obtain ⟨st, he, rfl⟩ := Option.map_eq_some_iff.1 hs
    exact ⟨h.others ht (environment_besides he).manager fun c hc => Rely.environment h.books.sound.inv hc he,
      hb, fun _ hr => hr.environment he⟩

/-- A resolved record is final. -/
theorem Peaceful.resolved (h : Peaceful d s) (hs : TaskSystem.step d l s = some t) {o : String} {r : OperationRecord}
    (hr : s.state.journal.records.get? o = some r) (hres : r.status.resolved = true) :
    t.state.journal.records.get? o = some r := by
  obtain ⟨ht, hb⟩ := h.books.step hs
  cases l with
  | submit c lease starts =>
    cases hs
    exact (h.books.sound.submitted lease starts).resolved hr hres
  | work o =>
    obtain ⟨-, c, -, hg⟩ := h.work hs ht hb
    exact hg.journal.resolved hr hres
  | environment e =>
    obtain ⟨st, he, rfl⟩ := Option.map_eq_some_iff.1 hs
    dsimp only
    rw [(environment_besides he).journal]
    exact hr

theorem peaceful_initial (h : (machine d).init s) : Peaceful d s := by
  refine ⟨bookkept_initial h, fun ho => ?_, fun hw => ?_⟩ <;> obtain ⟨replicas, version, -, rfl⟩ := h
  · cases ho
  · cases hw

theorem peaceful_reachable (h : (machine d).Reachable s) : Peaceful d s :=
  h.invariant (fun _ => peaceful_initial) fun _ _ _ hs hstep _ => (hs.step hstep).1

/-! ## Over a whole run -/

/-- A DORMANT replica is out of service, unless a RESTORE of it is unfinished. -/
theorem out_of_service {st : TaskState} (h : Inv d False st)
    (hk : st.manager.replicaState.get? k = some .dormant)
    (hc : ∀ c, Cur d c st → ¬ c.Restores k) :
    st.ce.members k = none ∧ st.lb.routes.get? k = none ∧ Unlisted st.manager k := by
  refine ⟨?_, h.no_route fun hin => ?_, fun r hr => h.listed.dormant hk hr⟩
  · rcases h.parking.dormant hk with hp | ⟨c, hcur, hkind, htarget, -⟩
    · obtain ⟨-, -, -, -, hm, -⟩ := hp
      exact hm
    · exact absurd ⟨hkind, htarget⟩ (hc c hcur)
  · rcases hin with hin | hin <;> rw [hk] at hin <;> cases hin

/-- Whatever a task does, a replica that has been put to sleep is woken by the RESTORE of it and by nothing
else; as long as none is unfinished, it receives no weights, has no route and is in no service list. -/
theorem resting_run (h : (machine d).Reachable s)
    (hr : (machine d).RunWhere (fun s l _ => ¬ Wakes d s l k) s t) (hk : Resting s.state k) :
    Resting t.state k ∧ ((∀ c, Cur d c t.state → ¬ c.Restores k) →
      t.state.ce.members k = none ∧ t.state.lb.routes.get? k = none ∧ Unlisted t.state.manager k) := by
  have hend : Peaceful d t ∧ Resting t.state k :=
    hr.invariant (I := fun s => Peaceful d s ∧ Resting s.state k) (fun _ _ _ ⟨hp, hk⟩ hs hw =>
      ⟨(hp.step hs).1, (hp.step hs).2.2 hw hk⟩) ⟨peaceful_reachable h, hk⟩
  exact ⟨hend.2, out_of_service hend.1.books.sound.inv hend.2.1⟩

/-- A run that stops before a RESTORE of the replica. -/
def sparing (k : ReplicaKey) (s : TaskSystem) (l : TaskLabel) : Option TaskSystem :=
  if (s.state.journal.current deployment.taskSession).any fun c => c.kind = .restore ∧ c.target = k
    then none else step deployment l s

/-- A replica is donated, and a borrowed one goes into service. -/
theorem resting_run_added : ∃ s t, after donated = some s ∧
    (submitAdd :: works 45).foldlM (sparing nativeKey0) s = some t ∧
    (t.state.journal.query "a1").any (·.status = .succeeded) = true ∧ Resting t.state nativeKey0 := by
  have hend : (after donated).any (fun s =>
      decide (s.state.manager.replicaState.get? nativeKey0 = some .dormant) &&
      (s.state.manager.runtimeInventory.get? nativeKey0).any (fun r =>
        (s.state.world r.rank).isSleeping) &&
      ((submitAdd :: works 45).foldlM (sparing nativeKey0) s).any fun t =>
        (t.state.journal.query "a1").any (·.status = .succeeded)) = true := by decide +kernel
  obtain ⟨s, hs, hreach, hc⟩ := exists_after hend
  simp only [Bool.and_eq_true, decide_eq_true_eq] at hc
  obtain ⟨⟨hd, ha⟩, ht⟩ := hc
  obtain ⟨r, hr, ha⟩ := (Option.any_eq_true _ _).1 ha
  obtain ⟨t, ht, hq⟩ := (Option.any_eq_true _ _).1 ht
  refine ⟨s, t, hs, ht, hq, (resting_run hreach (.steps (fun h => ?_) ht) ⟨hd, r, hr, ha⟩).1⟩
  unfold sparing at h
  split at h
  · cases h
  · rename_i hno
    refine ⟨h, fun ⟨_, c, _, hcur, hc⟩ => hno ?_⟩
    rw [show _ = some c from hcur]
    exact decide_eq_true hc

end TaskSystem

end ReplicaLending
