import ReplicaLending.Task.Exit
import ReplicaLending.Task.Journaling
/-!
# Reporting and finishing

`_advance_lease`, `_finish`, and the DONATE/REMOVE branch of `_execute_operation`. The last step of a
thread resolves its operation: from then on the operation is not the unfinished one (`Concludes`).
-/

namespace ReplicaLending

open TaskState TaskProg TaskRunner

variable {d : Deployment} {strict : Prop} {c : OperationCommand} {s : TaskState}
  {P : TaskState → Prop}

/-- Evidence of the running operation is sent. -/
theorem Inv.send (h : Inv d strict s) (hc : Run d c s) {ev : OperationEvidence}
    (ho : ev.operationId = c.operationId)
    (hrec : c.kind.exits = true → Recorded s.manager c.target c.operationId) (l : String) :
    Inv d strict { s with outbox := s.outbox ++ [(l, ev)] } := by
  refine { h with reported := ⟨fun {l' ev'} hm => ?_, h.reported.gone⟩, sent := fun e he r hr => ?_ }
  · rcases List.mem_append.1 hm with hm | hm
    · exact h.reported.outbox hm
    · cases List.mem_singleton.1 hm
      exact ⟨c, by rw [ho]; exact (h.cur_command hc.1).1, fun hx => ⟨hc.1, hrec hx⟩⟩
  · rcases List.mem_append.1 he with he | he
    · exact h.sent e he r hr
    · cases List.mem_singleton.1 he
      obtain ⟨-, r', hr', hrun⟩ := hc
      rw [← ho, show s.journal.records.get? ev.operationId = some r from hr] at hr'
      cases hr'
      rw [hrun]
      decide

/-- An exit whose release is recorded has nothing left to do. -/
theorem Inv.settled_of_recorded (h : Inv d strict s) (hc : Cur d c s) (hx : c.kind.exits = true)
    (hrec : Recorded s.manager c.target c.operationId) (hu : Unsent s c) : Settled strict s c where
  lined := fun hf => by rw [hx] at hf; cases hf
  clear := fun hf => by rw [hx] at hf; cases hf
  unbound := by
    intro _ hb
    rcases (h.reported.gone hc hx hrec).closed with hs | hs <;>
      rcases h.bindings.exit hc hx hb with hs' | hs' <;> rw [hs] at hs' <;> cases hs'
  unsent := fun _ => hu

namespace Triple

theorem advanceOnce {l : String} {ev : OperationEvidence} (hP : Steady d strict c P)
    (hPo : ∀ s box, P s → P { s with outbox := box }) (ho : ev.operationId = c.operationId)
    (hrec : ∀ s, P s → c.kind.exits = true → Recorded s.manager c.target c.operationId) :
    Triple d strict c P (TaskRunner.advanceOnce l ev) (fun _ s => P s ∧ Unsent s c) fun _ => P := by
  refine .bind (Q := fun _ => P) (.call hP ?_) fun _ => .await hP (fun _ _ _ _ => trivial) ?_
  · intro s o hi hc hs _
    dsimp only
    split
    · exact .error hi hc hs
    · exact .ok (hi.send hc ho (hrec s hs) l) hc (hPo s _ hs)
  · intro s o hi hc hs _
    dsimp only
    split
    · exact .error hi hc hs
    rename_i hdone
    split
    · exact .error hi hc hs
    have hempty : Unsent s c := by
      intro e he
      rw [not_or, not_not] at hdone
      rw [hdone.2] at he
      cases he
    cases ha : s.answer with
    | ok _ => exact .ok hi hc ⟨hs, hempty⟩
    | error _ => exact .error hi hc hs

theorem advanceLease {ev : OperationEvidence} (hP : Steady d strict c P)
    (hPo : ∀ s box, P s → P { s with outbox := box }) (ho : ev.operationId = c.operationId)
    (hrec : ∀ s, P s → c.kind.exits = true → Recorded s.manager c.target c.operationId) :
    Triple d strict c P (TaskRunner.advanceLease c ev) (fun _ s => P s ∧ Unsent s c) fun _ => P :=
  .tryCatch (advanceOnce hP hPo ho hrec) fun _ => advanceOnce hP hPo ho hrec

end Triple

/-! ## The end of a thread -/

/-- `Q` on return, when the operation may be resolved; an exception leaves it running. -/
def Concludes {α : Type} (d : Deployment) (strict : Prop) (c : OperationCommand)
    (P : TaskState → Prop) (p : TaskProg α) (Q : α → TaskState → Prop) : Prop :=
  (protocol d strict c.operationId).Hoare (fun s => Run d c s ∧ P s) p Q fun _ s => Run d c s

namespace Concludes

variable {α β : Type} {p : TaskProg α} {Q : α → TaskState → Prop} {R : β → TaskState → Prop}

theorem of_triple {E : PyErr → TaskState → Prop} (h : Triple d strict c P p Q E) :
    Concludes d strict c P p fun a s => Run d c s ∧ Q a s :=
  Protocol.Hoare.conseq h (fun _ _ h => h) (fun _ _ _ h => h) fun _ _ _ h => h.1

theorem bind {f : α → TaskProg β} {E : PyErr → TaskState → Prop} (h : Triple d strict c P p Q E)
    (hf : ∀ a, Concludes d strict c (Q a) (f a) R) : Concludes d strict c P (p.bind f) R :=
  Protocol.Hoare.bind (of_triple h) hf

theorem pre {P' : TaskState → Prop} (h : Concludes d strict c P p Q)
    (hP : ∀ s, Inv d strict s → Run d c s → P' s → P s) : Concludes d strict c P' p Q :=
  Protocol.Hoare.pre h fun s hi hp => ⟨hp.1, hP s hi hp.1 hp.2⟩

theorem of_imp {φ : Prop} (h : φ → Concludes d strict c P p Q) :
    Concludes d strict c (fun s => φ ∧ P s) p Q :=
  fun s hi hp => h hp.2.1 s hi ⟨hp.1, hp.2.2⟩

/-- A thread that raises. -/
theorem raise {e : PyErr} : Concludes d strict c P (TaskProg.raise e) Q :=
  Protocol.Hoare.err fun _ _ h => h.1

/-- The operation is resolved. -/
theorem finish {status : OperationStatus} {result : Option String} {clears : Nat}
    (hP : Steady d strict c P) (hres : status.resolved = true)
    (h : ∀ s, Inv d strict s → Run d c s → P s → Settled strict s c) :
    Concludes d strict c P (TaskProg.call (finishRecord c.operationId status result clears))
      fun _ _ => True := by
  refine Protocol.Hoare.call (Steady.run.and hP) (fun s _ hp => ⟨⟨c, hp.1.1, rfl⟩, trivial⟩) ?_
  rintro s o hi ⟨hc, hp⟩ -
  obtain ⟨r, hr, hrun⟩ := hc.2
  have hterm : status.terminal = true := by
    revert hres
    cases status <;> simp [OperationStatus.resolved, OperationStatus.terminal]
  have hfin : s.journal.finish c.operationId status result = .ok _ :=
    OperationJournal.finish_eq hi.journal hr (by rw [hrun]; rfl) (hi.cur_command hc.1).1 hterm
  have hi' : Inv d strict { s with
      journal := { s.journal.setRecord ⟨c.operationId, status, result⟩ with
        activeByTask := s.journal.activeByTask.erase d.taskSession }
      closing := ⟨c.operationId, clears⟩ :: s.closing } := by
    refine hi.finish hc.1 (h s hi hc hp) rfl hres fun cl hcl => ?_
    rcases List.mem_cons.1 hcl with rfl | hcl
    · exact .inr rfl
    · exact .inl hcl
  unfold finishRecord
  rw [hfin]
  simp only [hres, if_true]
  exact ⟨hi', fun _ _ => trivial, fun _ he => by cases he⟩

/-! ## DONATE and REMOVE -/

/-- The release of an exit is recorded: it is reported and the operation succeeds. -/
theorem report {ev : OperationEvidence} (hx : c.kind.exits = true)
    (ho : ev.operationId = c.operationId) {result : Option String} :
    Concludes d strict c (fun s => Recorded s.manager c.target c.operationId)
      ((TaskRunner.advanceLease c ev).bind fun _ =>
        TaskProg.call (finishRecord c.operationId .succeeded result 2)) fun _ _ => True := by
  have hP : Steady d strict c fun s => Recorded s.manager c.target c.operationId :=
    .manager fun m => Recorded m c.target c.operationId
  refine .bind (.advanceLease hP (fun _ _ h => h) ho fun _ h _ => h) fun _ =>
    .finish (hP.and Neutral.unsent.steady) rfl fun s hi hc h =>
      hi.settled_of_recorded hc.1 hx h.1 h.2

theorem releaseTarget (hx : c.kind.exits = true) {service : OperationEvidence} :
    Concludes d strict c (Exited strict c service) (TaskRunner.releaseTarget d c service)
      fun _ _ => True := by
  refine .bind (Q := fun _ => Exited strict c service) (E := fun _ _ => True)
    (.ofExcept (fun _ _ _ _ _ h => h) fun _ _ _ _ _ _ => trivial) fun _ => ?_
  have hpre : Triple d strict c (Exited strict c service)
      (TaskProg.rpc (Rollouter.finalizeRelease d c.operationId))
      (fun ev s => Closed strict s c ∧ ev.operationId = c.operationId ∧ ev.type = .released)
      fun _ _ => True := by
    refine .remote (E := fun _ => True) .exited ?_ (fun _ => Steady.closed.and (.const _)) (.const _)
      (fun _ _ _ _ => trivial) (fun _ _ _ _ _ => trivial) fun _ _ _ _ => trivial
    exact (Triple.finalizeRelease .trivial fun _ _ hf => by rw [hx] at hf; cases hf).conseq
      (fun _ _ _ h => ⟨trivial, fun _ => h.1.1.retired h.1.2⟩) (fun _ _ _ _ h => h.2)
      fun _ _ _ _ _ => trivial
  refine .bind hpre fun ev => .bind (Q := fun ev s => ev.operationId = c.operationId ∧
    Recorded s.manager c.target c.operationId) (E := fun _ _ => True)
    (.ofExcept (fun ev' hev _ _ _ h => ?_) fun _ _ _ _ _ _ => trivial) fun ev =>
      .of_imp fun ho => report hx ho
  obtain ⟨rfl, -, -⟩ := requireOperationEvidence_ok hev
  exact ⟨h.2.1, h.1.recorded hx⟩

theorem drainTarget (hx : c.kind.exits = true) :
    Concludes d strict c (fun s => Unsent s c) (TaskRunner.drainTarget d c) fun r s =>
      match r with
      | none => True
      | some () => Run d c s ∧ Shut s c := by
  have hprep : Triple d strict c (fun s => Unsent s c)
      (TaskProg.rpc (Rollouter.prepareExit d c.target c.operationId (c.force.getD false)))
      (fun _ s => Shut s c) fun _ s => Unsent s c := by
    refine .conseq (.remote Neutral.unsent.steady (Triple.prepareExit hx)
      (fun _ => Triple.steady_shut) Neutral.unsent.steady (fun _ _ _ h => h)
      (fun _ _ _ _ h => h.1) fun _ _ _ h => h) (fun _ _ _ h => h) (fun _ _ _ _ h => h.2)
      fun _ _ _ _ h => h
  refine bind (E := fun _ _ => True) hprep.outcome fun r => ?_
  cases r with
  | ok ev =>
    refine bind (Q := fun _ s => Shut s c) (E := fun _ _ => True)
      (.ofExcept (fun _ _ _ _ _ h => h) fun _ _ _ _ _ _ => trivial) fun _ =>
        Protocol.Hoare.ret fun _ _ h => h
  | error e =>
    have hunbound : Steady d strict c fun s =>
        Unsent s c ∧ s.rollouter.pendingOperationTargets.get? c.operationId = none :=
      Neutral.unsent.steady.and (Neutral.binding fun k => k = none).steady
    have hread : Triple d strict c (fun s => Unsent s c)
        (TaskProg.peek fun s => Rollouter.getPendingTarget s c.operationId) (fun _ _ => True)
        (fun _ s => Unsent s c ∧ s.rollouter.pendingOperationTargets.get? c.operationId = none) := by
      refine .peek Neutral.unsent.steady (fun _ _ _ _ _ _ => trivial) fun s q _ _ h hq => ⟨h, ?_⟩
      unfold Rollouter.getPendingTarget at hq
      split at hq
      · cases hq
      · assumption
    have hquery : Triple d strict c (fun s => Unsent s c)
        (TaskProg.rpc (TaskProg.peek fun s => Rollouter.getPendingTarget s c.operationId))
        (fun _ _ => True) (fun q s => q.kind = .keyError → Unsent s c ∧
          s.rollouter.pendingOperationTargets.get? c.operationId = none) :=
      .rpc Neutral.unsent.steady hread
        (fun _ => .const _) (fun _ => hunbound) (fun _ _ _ _ hk => by cases hk)
        (fun _ _ _ _ _ hk => by cases hk) fun _ _ _ _ h => ⟨fun _ => h, fun _ => h⟩
    refine bind (E := fun _ _ => True) hquery.outcome fun r => ?_
    cases r with
    | ok _ => exact raise
    | error q =>
      dsimp only
      split
      · exact raise
      · rename_i hk
        refine Protocol.Hoare.bind (Q := fun _ _ => True) ?_ fun _ =>
          Protocol.Hoare.ret fun _ _ _ => trivial
        refine (finish hunbound rfl fun s _ _ h => ?_).pre fun _ _ _ h => h (not_not.1 hk)
        exact ⟨fun hf => (by rw [hx] at hf; cases hf), fun hf => (by rw [hx] at hf; cases hf),
          fun _ => (by rw [h.2]; simp), fun _ => h.1⟩

theorem drainAndRelease (hx : c.kind.exits = true) :
    Concludes d strict c (fun s => Unsent s c) (TaskRunner.drainAndRelease d c)
      fun _ _ => True := by
  refine Protocol.Hoare.bind (drainTarget hx) fun r => ?_
  cases r with
  | none => exact Protocol.Hoare.ret fun _ _ h => h
  | some _ =>
    exact bind (.remote .shut (Triple.removeAndCommit hx) (fun _ => .exited) (.const True)
      (fun _ _ _ _ => trivial) (fun _ _ _ _ _ => trivial) fun _ _ _ h => h)
      fun _ => releaseTarget hx

/-- An operation whose release is not recorded has sent nothing. -/
theorem queryRelease (hx : c.kind.exits = true) :
    Triple d strict c (fun _ => True)
      (TaskProg.rpc (Rollouter.queryReleaseOperation c.target c.operationId))
      (fun r s => match r with
        | some _ => Recorded s.manager c.target c.operationId
        | none => Unsent s c) fun _ _ => True := by
  refine .remote (.const _) (.peek (.const _) (fun s r hi hc _ hr => ?_) fun _ _ _ _ h _ => h)
    (fun r => ?_) (.const _) (fun _ _ _ h => h) (fun _ _ _ _ _ => trivial) fun _ _ _ h => h
  · cases r with
    | some ev => exact ⟨ev, hr⟩
    | none =>
      rintro ⟨l, ev⟩ he ho
      obtain ⟨c', hc', hsent⟩ := hi.reported.outbox he
      rw [show ev.operationId = c.operationId from ho, (hi.cur_command hc.1).1] at hc'
      cases hc'
      obtain ⟨ev', hev⟩ := (hsent hx).2
      rw [hr] at hev
      cases hev
  · cases r with
    | some ev => exact .manager fun m => Recorded m c.target c.operationId
    | none => exact Neutral.unsent.steady

theorem executeExit (hx : c.kind.exits = true) {reconciling : Bool} :
    Concludes d strict c (fun s => reconciling = false → Unsent s c)
      (TaskRunner.executeExit d c reconciling) fun _ _ => True := by
  unfold TaskRunner.executeExit
  split
  · rename_i hr
    exact (drainAndRelease hx).pre fun _ _ _ h => h hr
  refine bind ((queryRelease hx).pre fun _ _ _ _ => trivial) fun r => ?_
  cases r with
  | some prior =>
    refine bind (Q := fun ev s => ev.operationId = c.operationId ∧
      Recorded s.manager c.target c.operationId) (E := fun _ _ => True)
      (.ofExcept (fun ev' hev _ _ _ h => ?_) fun _ _ _ _ _ _ => trivial) fun ev =>
        .of_imp fun ho => report hx ho
    obtain ⟨rfl, ho, -⟩ := requireOperationEvidence_ok hev
    exact ⟨ho, h⟩
  | none =>
    refine bind (.remote (E := fun _ => True) Neutral.unsent.steady (Triple.reconcileExit hx)
      (fun r => ?_) (.const _) (fun _ _ _ _ => trivial) (fun _ _ _ _ _ => trivial)
      fun _ _ _ h => h) fun r => ?_
    · cases r with
      | some ev => exact .exited
      | none => exact Neutral.unsent.steady
    · cases r with
      | some service => exact releaseTarget hx
      | none => exact drainAndRelease hx

end Concludes

end ReplicaLending
