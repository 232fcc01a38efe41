import ReplicaLending.Task.Contracts
import ReplicaLending.Task.Evolution
/-!
# Every step of a lifecycle thread keeps the books

`Keeps`: whatever the rest of the task does in between, each step of the program leads to a later state
of the books. Most steps do not touch them. Those that do are the transitions of a record, and

* `create_borrowed_replica`, which writes into the record it has opened itself;
* `finalize_release`, which writes its evidence only when it has found none, and returns what the Manager
  has recorded (`Spec.finalizeRelease`);
* `_advance_lease`, which sends evidence.
-/

namespace ReplicaLending

open TaskState TaskProg Rollouter Trainer LLMServerManager

/-- Every step of the program keeps the books. -/
abbrev Keeps {ε α : Type} (d : Deployment) (c : OperationCommand)
    (p : Prog TaskState Choice Event ε α) : Prop :=
  Walks (books d c) (fun _ => True) p

instance {d : Deployment} {c : OperationCommand} : Quiet (books d c) where
  manager h := Rely.manager h
  quiet hm _ hj ho := .of_eq hm (by rw [hj]) ho

instance {d : Deployment} {c : OperationCommand} : Serves (books d c) c where
  bound := bound_target

namespace Keeps

variable {d : Deployment} {c : OperationCommand} {key : ReplicaKey} {ε α β : Type}

theorem call {tag : Event} {f : TaskState → Choice → Except ε α × TaskState}
    (h : ∀ s o, Books s (f s o).2) : Keeps d c (Prog.call tag f) :=
  Walks.call fun s o _ _ => ⟨h s o, trivial⟩

theorem onServer {r : Replica} {f : (Nat → Fault) → Server → Except PyErr α × Server} :
    Keeps d c (onServer r f) := call fun s o => by cases o.fault <;> exact .of_eq rfl rfl rfl

/-! ## Transitions -/

theorem books_onManager {f : LLMServerManager → Except PyErr LLMServerManager} (s : TaskState)
    (h : ∀ m, f s.manager = .ok m → Evolves s.manager m ∧ Moves s.manager m) :
    Books s (TaskState.onManager f s).2 := by
  unfold TaskState.onManager
  split
  · rename_i m hm
    exact .of_ledger (h m hm).1 (h m hm).2 rfl rfl
  · exact .refl s

theorem books_transition (k : ReplicaKey) (st : ReplicaState) (s : TaskState) :
    Books s (TaskState.onManager (·.transitionReplica k st) s).2 :=
  books_onManager s fun _ h => ⟨.transition h, .transition h⟩

theorem books_enterDraining {o : String} {state : ReplicaState} (s : TaskState) (x : Choice) :
    Books s (enterDraining key o state s x).2 := by
  unfold enterDraining
  split
  · have hm := books_transition key .draining s
    split <;> (rename_i heq; rw [heq] at hm; exact ⟨hm.ledger, hm.moves, hm.commands, hm.outbox⟩)
  · exact .of_eq rfl rfl rfl

theorem quarantineDormantRestore {o : String} :
    Keeps d c (TaskProg.call (Rollouter.quarantineDormantRestore o)) := by
  refine call fun s x => ?_
  unfold Rollouter.quarantineDormantRestore
  split
  · exact .refl s
  split
  · exact .refl s
  split
  · exact .refl s
  split
  · exact .refl s
  · have hm := fun k => books_transition k .quarantined s
    split <;> (rename_i heq; exact (congrArg (fun r => Books s r.2) heq).mp (hm _))
  · exact .refl s

theorem retractServiceTarget : Keeps d c (TaskProg.call (retractServiceTarget key)) := by
  refine call fun s o => ?_
  unfold Rollouter.retractServiceTarget
  split
  · exact .refl s
  · rename_i m hm
    split
    · exact .of_ledger (.transition hm) (.transition hm) rfl rfl
    · rename_i m' hm'
      exact .of_ledger ((Evolves.transition hm).trans (.deactivate hm'))
        ((Moves.transition hm).congr rfl (deactivateService_state hm')) rfl rfl

theorem activateServiceTarget : Keeps d c (TaskProg.call (activateServiceTarget key)) := by
  refine call fun s o => ?_
  unfold Rollouter.activateServiceTarget
  split
  · exact .refl s
  rename_i m hm
  dsimp only
  split
  · rename_i m' hm'
    obtain ⟨-, -, ht⟩ := except_bind_ok.1 hm'
    exact .of_ledger ((Evolves.activate hm).trans (.transition ht))
      ((Moves.transition ht).congr (activateService_state hm).symm rfl) rfl rfl
  · refine .of_ledger ?_ (.of_eq ?_) rfl rfl
    · dsimp only
      split
      · rename_i m' hm'
        exact (Evolves.activate hm).trans (.deactivate hm')
      · exact .activate hm
    · dsimp only
      split
      · rename_i m' hm'
        exact (deactivateService_state hm').trans (activateService_state hm)
      · exact activateService_state hm

end Keeps

instance {d : Deployment} {c : OperationCommand} {q : String} :
    Retires (walk (books d c) fun _ => True) q where
  draining := Keeps.call Keeps.books_enterDraining
  retract := Keeps.retractServiceTarget
  deactivate hf := Keeps.call fun s o => by
    obtain h | ⟨m, hm, h⟩ := hf s o <;> rw [h]
    · exact .refl s
    · exact .of_ledger (.deactivate hm) (.of_eq (deactivateService_state hm)) rfl rfl

instance {d : Deployment} {c : OperationCommand} : Enlists (walk (books d c) fun _ => True) where
  activate := Keeps.activateServiceTarget
  quarantine := .bind (Keeps.call fun s o => by
    split
    · exact Keeps.books_transition _ _ s
    · exact .refl s) fun _ => .err
  onServer := Keeps.onServer

/-! ## Borrowed runtimes -/

/-- The creation of a lease is under way. -/
def Creating (n : NormalSpec) (rank : Nat) (m : LLMServerManager) : Prop :=
  m.borrowedOperations.get? n.spec.leaseId = some ⟨n, rank, none, none, none⟩ ∧
    m.runtimeInventory.get? n.key = none

namespace Bookkeeping

variable {d : Deployment} {c : OperationCommand} {n : NormalSpec} {rank : Nat}

theorem reserveBorrowed {spec : BorrowedSpec} : (books d c).Spec (fun _ => True)
    (TaskProg.call (Rollouter.reserveBorrowed d spec))
    (fun r s => ∀ n rank, r = .inr (n, rank) → Creating n rank s.manager) fun _ _ => True := by
  refine Contract.Spec.call (fun _ _ _ h _ _ => h) fun s o hi _ => ?_
  have hsame : ∀ {r : Except PyErr (String ⊕ NormalSpec × Nat)}, (∀ p, r ≠ .ok (.inr p)) →
      Books s s ∧ ((books d c).inv s → (∀ a, r = .ok a → ∀ n rank, a = .inr (n, rank) →
        Creating n rank s.manager) ∧ ∀ e, r = .error e → True) := by
    refine fun hr => ⟨.refl s, fun _ => ⟨fun a ha n rank hn => ?_, fun _ _ => trivial⟩⟩
    rw [hn] at ha
    exact absurd ha (hr _)
  unfold Rollouter.reserveBorrowed
  cases validateBorrowedSpec d o.now spec with
  | error e => exact hsame fun _ h => (by cases h)
  | ok n =>
    dsimp only
    cases hl : s.manager.borrowedOperations.get? n.spec.leaseId with
    | some existing =>
      dsimp only
      split
      · exact hsame fun _ h => (by cases h)
      · split <;> exact hsame fun _ h => (by cases h)
    | none =>
      dsimp only
      split
      · exact hsame fun _ h => (by cases h)
      rename_i hkey
      rw [register_creating (m := { s.manager with
        nextReplicaRank := s.manager.nextReplicaRank + 1 }) hkey]
      have hnew : s.manager.replicaState.get? n.key = none := by
        simpa [Dict.contains] using hkey
      obtain ⟨hkind, hrun, -, -⟩ := hi.1.wired.unregistered hnew
      refine ⟨.of_ledger (.reserve hnew hkind hl) (.reserve hnew) rfl rfl, fun _ =>
        ⟨?_, fun _ he => by cases he⟩⟩
      rintro _ ⟨⟩ _ _ ⟨⟩
      exact ⟨Dict.get?_insert_self _ _ _, hrun⟩

theorem enterBorrowed {r : Replica} : (books d c).Spec (fun s => Creating n rank s.manager)
    (Prog.call Event.internal (Rollouter.enterBorrowed n r)) (fun _ _ => True)
    fun _ s => Creating n rank s.manager := by
  refine Contract.Spec.call (stable_books _) fun s o _ ⟨hl, hk⟩ => ?_
  unfold Rollouter.enterBorrowed
  rw [hl]
  have hgrow : BorrowedRecord.Grows ⟨n, rank, none, none, none⟩ ⟨n, rank, none, some r.address, none⟩ :=
    ⟨rfl, rfl, nofun, nofun, nofun⟩
  have hset := Evolves.setRecord hl hgrow
  exact ⟨.of_ledger (hset.trans (.setRuntime hk)) (.of_eq rfl) rfl rfl,
    fun _ => ⟨fun _ _ => trivial, fun _ he => by cases he⟩⟩

theorem recordFailure {e : PyErr} {runtime : Option Replica} :
    (books d c).Spec (fun s => Creating n rank s.manager)
      (TaskProg.call (Rollouter.recordFailure n e runtime)) (fun _ _ => True) fun _ _ => True := by
  refine Contract.Spec.call (stable_books _) fun s o _ ⟨hl, hk⟩ => ?_
  have hgrow : BorrowedRecord.Grows ⟨n, rank, none, none, none⟩ ⟨n, rank, some e, none, none⟩ :=
    ⟨rfl, rfl, nofun, nofun, nofun⟩
  have hset : ∀ m, Evolves s.manager m → m.borrowedOperations = s.manager.borrowedOperations →
      Evolves s.manager { m with borrowedOperations :=
        m.borrowedOperations.insert n.spec.leaseId ⟨n, rank, some e, none, none⟩ } := fun m hm hb =>
    hm.trans (.setRecord (by rw [hb]; exact hl) hgrow)
  refine ⟨?_, fun _ => ⟨fun _ _ => trivial, fun _ _ => trivial⟩⟩
  unfold Rollouter.recordFailure
  rw [hl]
  dsimp only
  split
  · exact .refl s
  · rename_i m hm
    split at hm
    · refine .of_ledger (hset m (.transition hm) ?_) ((Moves.transition hm).congr rfl rfl) rfl rfl
      rcases transitionReplica_ok hm with ⟨rfl, -⟩ | ⟨rfl, -⟩ <;> rfl
    · cases hm
      exact .of_ledger (hset _ (.refl _) rfl) (.of_eq rfl) rfl rfl

theorem createBorrowedReplica {spec : BorrowedSpec} :
    Keeps d c (Rollouter.createBorrowedReplica d spec) := by
  have hstable {n : NormalSpec} {rank : Nat} :
      (books d c).Stable fun s => Creating n rank s.manager := stable_books _
  refine Walks.of_spec (P := fun _ => True) (Q := fun _ _ => True) (E := fun _ _ => True)
    (.bind reserveBorrowed fun reserved => ?_) fun _ => trivial
  rcases reserved with address | ⟨n, rank⟩
  · exact .ret fun _ _ _ => trivial
  refine Contract.Spec.conseq (P := fun s => Creating n rank s.manager) ?_
    (fun s _ h => h n rank rfl) (fun _ _ _ h => h) fun _ _ _ h => h
  refine .tryCatch (E := fun _ s => Creating n rank s.manager) (.bind (Q := fun _ s =>
    Creating n rank s.manager) (.mapErr (.call hstable fun s o _ h => ⟨.refl s, fun _ =>
      ⟨fun _ _ => h, fun _ _ => h⟩⟩)) fun _ => .bind (Q := fun _ s => Creating n rank s.manager)
        (.call hstable fun s o _ h => ?launch) fun r => enterBorrowed) fun e =>
          .bind (Q := fun _ s => Creating n rank s.manager) (.call hstable fun s o _ h => ?cleanup)
            fun _ => .bind (Q := fun _ _ => True) recordFailure fun _ => .err fun _ _ _ => trivial
  case launch =>
    unfold Rollouter.launchBorrowed
    dsimp only
    split <;> exact ⟨.of_eq rfl rfl rfl, fun _ => ⟨fun _ _ => h, fun _ _ => h⟩⟩
  case cleanup =>
    unfold Rollouter.cleanupFailed
    split
    · exact ⟨.refl s, fun _ => ⟨fun _ _ => h, fun _ _ => trivial⟩⟩
    · split <;> exact ⟨.of_eq rfl rfl rfl, fun _ => ⟨fun _ _ => h, fun _ _ => trivial⟩⟩

/-! ## Release -/

/-- The Manager has recorded no release of the target by the operation. -/
def Unrecorded (c : OperationCommand) (m : LLMServerManager) : ReplicaKind → Prop
  | .native => m.nativeReleaseEvidence.get? c.operationId = none
  | .borrowed => ∃ l rec, m.borrowedRecordForKey c.target = .ok (l, rec) ∧ rec.destroyEvidence = none

/-- What the Manager's `sleep` and `destroy` have found: recorded evidence, or none. -/
def Found {α : Type} (c : OperationCommand) (kind : ReplicaKind) (found : OperationEvidence ⊕ α)
    (m : LLMServerManager) : Prop :=
  m.replicaKind.get? c.target = some kind ∧ match found with
    | .inl ev => RecordedAs m c.target c.operationId ev
    | .inr _ => Unrecorded c m kind

/-- A call to the runtime changes nothing the Manager knows. -/
theorem onServer {α : Type} {r : Replica} {f : (Nat → Fault) → Server → Except PyErr α × Server}
    {F : LLMServerManager → Prop} : (books d c).Spec (fun s => F s.manager) (TaskProg.onServer r f)
      (fun _ s => F s.manager) fun _ _ => True := by
  refine Contract.Spec.call (stable_books F) fun s o _ h => ?_
  cases o.fault <;> exact ⟨.of_eq rfl rfl rfl, fun _ => ⟨fun _ _ => h, fun _ _ => trivial⟩⟩

theorem peekManager {α : Type} {f : TaskState → Except PyErr α} {F : LLMServerManager → Prop}
    {Q : α → TaskState → Prop}
    (h : ∀ s a, (books d c).inv s → F s.manager → f s = .ok a → Q a s) :
    (books d c).Spec (fun s => F s.manager) (TaskProg.peek f) Q fun _ _ => True :=
  Contract.Spec.call (stable_books F) fun s _ hi hF =>
    ⟨.refl s, fun _ => ⟨fun a ha => h s a hi hF ha, fun _ _ => trivial⟩⟩

theorem sleep : (books d c).Spec (fun s => s.manager.replicaKind.get? c.target = some .native)
    (Rollouter.sleep d c.target c.operationId) (fun r s => Found c .native r s.manager)
    fun _ _ => True := by
  refine .bind (Q := fun found s => Found c .native found s.manager)
    (peekManager (F := fun m => m.replicaKind.get? c.target = some .native)
      fun s found _ hk hf => ⟨hk, ?_⟩) fun found => ?_
  · split at hf
    · cases hf
    split at hf
    · rename_i k ev hrec
      split at hf
      · cases hf
      · rename_i he
        obtain rfl := not_not.1 he
        cases hf
        exact (recordedAs_native hk).2 hrec
    · rename_i hrec
      split at hf
      · cases hf
      · split at hf
        · cases hf
        · cases hf
          exact hrec
  · rcases found with ev | r
    · exact .ret fun _ _ h => h
    · refine .bind (Q := fun _ s => Found c .native (.inr r) s.manager)
        (onServer (F := Found c .native (.inr r))) fun placement => ?_
      refine .bind (Q := fun _ s => Found c .native (.inr r) s.manager) ?_ fun _ =>
        .bind (Q := fun _ s => Found c .native (.inr r) s.manager)
          (onServer (F := Found c .native (.inr r))) fun _ => .ret fun _ _ h => ⟨h.1, h.2⟩
      unfold TaskProg.require
      split
      · exact .ret fun _ _ h => h
      · exact .err fun _ _ _ => trivial

theorem destroy : (books d c).Spec (fun s => s.manager.replicaKind.get? c.target = some .borrowed)
    (Rollouter.destroy c.target c.operationId) (fun r s => Found c .borrowed r s.manager)
    fun _ _ => True := by
  refine .bind (Q := fun found s => Found c .borrowed found s.manager)
    (peekManager (F := fun m => m.replicaKind.get? c.target = some .borrowed)
      fun s found _ hk hf => ⟨hk, ?_⟩) fun found => ?_
  · split at hf
    · cases hf
    split at hf
    · cases hf
    rename_i l rec hrec
    split at hf
    · rename_i ev hd
      split at hf
      · cases hf
      · rename_i ho
        cases hf
        exact (recordedAs_borrowed hk).2 ⟨not_not.1 ho, l, rec, hrec, hd⟩
    · rename_i hd
      dsimp only at hf
      split at hf
      · cases hf
      · split at hf
        · cases hf
        · cases hf
          exact ⟨l, rec, hrec, hd⟩
  · rcases found with ev | ⟨r, gpuUuid⟩
    · exact .ret fun _ _ h => h
    · exact .bind (Q := fun _ s => Found c .borrowed (.inr [gpuUuid]) s.manager)
        (onServer (F := Found c .borrowed (.inr [gpuUuid]))) fun _ => .ret fun _ _ h => h

/-- Neither the states nor the runtimes matter to recorded evidence. -/
theorem recordedAs_move {m m' : LLMServerManager} {k j : ReplicaKey} {o : String}
    {ev : OperationEvidence} {st : ReplicaState} (h : RecordedAs m k o ev)
    (ht : m.transitionReplica j st = .ok m') : RecordedAs m' k o ev := by
  rcases transitionReplica_ok ht with ⟨rfl, -⟩ | ⟨rfl, -⟩ <;> exact h

/-- The ledger with the evidence a release ends with: found there, or written there now. -/
inductive Recording (m : LLMServerManager) (target : ReplicaKey) (o : String) :
    ReplicaKind → OperationEvidence ⊕ List String → OperationEvidence → LLMServerManager → Prop
  | found {kind : ReplicaKind} {ev : OperationEvidence} : Recording m target o kind (.inl ev) ev m
  | slept {gpuUuids : List String} {ev : OperationEvidence} (hg : ev.releasedGpuUuids = gpuUuids) :
    Recording m target o .native (.inr gpuUuids) ev (m.recordSleep o target ev)
  | destroyed {gpuUuids : List String} {ev : OperationEvidence} {l : String} {rec : BorrowedRecord}
    (h : m.borrowedRecordForKey target = .ok (l, rec)) (ho : ev.operationId = o) :
    Recording m target o .borrowed (.inr gpuUuids) ev
      (m.setBorrowed l { rec with destroyEvidence := some ev })

/-- What `closeRelease` comes to: nothing, a recorded release, or one that closes the record too. -/
theorem closeRelease_cases {target : ReplicaKey} {kind : ReplicaKind} {o : String}
    {released : OperationEvidence ⊕ List String} {s : TaskState} {x : Choice}
    {r : Except PyErr OperationEvidence × TaskState}
    (h : Rollouter.closeRelease target kind o released s x = r) : (∃ e, r = (.error e, s)) ∨
      ∃ ev m, Recording s.manager target o kind released ev m ∧
        ((∃ e, r = (.error e, { s with manager := m })) ∨ ∃ st m', m.transitionReplica target st = .ok m' ∧
          (st = .dormant ∨ st = .released) ∧ ev.operationId = o ∧
            r = (.ok ev, clearOperationBinding { s with manager := m' } o)) := by
  subst h
  unfold Rollouter.closeRelease
  dsimp only
  split
  · exact .inl ⟨_, rfl⟩
  rename_i ev m hrecorded
  refine .inr ⟨ev, m, ?_, ?_⟩
  · rcases released with ev' | gpuUuids
    · cases hrecorded
      exact .found
    · dsimp only at hrecorded
      split at hrecorded
      · cases hrecorded
      rename_i ev' hnow
      cases kind with
      | native =>
        cases hrecorded
        exact .slept (OperationEvidence.now_ok hnow).2.2.2
      | borrowed =>
        dsimp only at hrecorded
        split at hrecorded
        · cases hrecorded
        · cases hrecorded
          exact .destroyed ‹_› (OperationEvidence.now_ok hnow).1
  · split
    · exact .inl ⟨_, rfl⟩
    · rename_i ev' hreq
      obtain ⟨rfl, ho, -⟩ := requireOperationEvidence_ok hreq
      split
      · exact .inl ⟨_, rfl⟩
      · refine .inr ⟨_, _, ‹_›, ?_, ho, rfl⟩
        split
        · exact .inl rfl
        · exact .inr rfl

/-- Evidence is no part of the states. -/
theorem Recording.state {m m' : LLMServerManager} {target : ReplicaKey} {kind : ReplicaKind} {o : String}
    {released : OperationEvidence ⊕ List String} {ev : OperationEvidence}
    (h : Recording m target o kind released ev m') : m'.replicaState = m.replicaState := by
  cases h <;> rfl

theorem Recording.evolves {s : TaskState} {kind : ReplicaKind}
    {released : OperationEvidence ⊕ List String} {ev : OperationEvidence} {m : LLMServerManager}
    (h : Recording s.manager c.target c.operationId kind released ev m) (hi : (books d c).inv s)
    (hf : Found c kind released s.manager) :
    Evolves s.manager m ∧ RecordedAs m c.target c.operationId ev := by
  obtain ⟨hk, hf⟩ := hf
  cases h with
  | found => exact ⟨.refl _, hf⟩
  | slept => exact ⟨.recordSleep hf, (recordedAs_native (m := s.manager.recordSleep _ _ _) hk).2
      (Dict.get?_insert_self _ _ _)⟩
  | @destroyed _ _ l rec hrec ho =>
    have hd : rec.destroyEvidence = none := by
      obtain ⟨l', rec', hrec', hd⟩ := hf
      cases hrec.symm.trans hrec'
      exact hd
    have hgrow : rec.Grows { rec with destroyEvidence := some ev } :=
      ⟨rfl, rfl, id, id, fun h => by rw [hd] at h; cases h⟩
    refine ⟨.setRecord (borrowedRecordForKey_eq hrec).1 hgrow, ?_⟩
    exact (recordedAs_borrowed (m := s.manager.setBorrowed l
      { rec with destroyEvidence := some ev }) hk).2
        ⟨ho, l, _, borrowedRecordForKey_setBorrowed hi.1.records hrec rfl, rfl⟩

theorem closeRelease {kind : ReplicaKind} {released : OperationEvidence ⊕ List String} :
    (books d c).Spec (fun s => Found c kind released s.manager)
      (TaskProg.call (Rollouter.closeRelease c.target kind c.operationId released))
      (fun ev s => RecordedAs s.manager c.target c.operationId ev ∧ ev.operationId = c.operationId)
      fun _ _ => True := by
  refine Contract.Spec.call (stable_books (Found c kind released)) fun s o hi hf => ?_
  rcases closeRelease_cases (rfl : Rollouter.closeRelease c.target kind c.operationId released s o = _)
    with ⟨e, h⟩ | ⟨ev, m, hm, ⟨e, h⟩ | ⟨st, m', ht, -, ho, h⟩⟩ <;> rw [h]
  · exact ⟨.refl s, fun _ => ⟨nofun, fun _ _ => trivial⟩⟩
  · exact ⟨.of_ledger (hm.evolves hi hf).1 (.of_eq hm.state) rfl rfl, fun _ => ⟨nofun, fun _ _ => trivial⟩⟩
  · obtain ⟨hev, hrec⟩ := hm.evolves hi hf
    refine ⟨.of_ledger (hev.trans (.transition ht)) ((Moves.transition ht).congr hm.state.symm rfl) rfl rfl,
      fun _ => ⟨?_, fun _ _ => trivial⟩⟩
    rintro _ ⟨⟩
    exact ⟨recordedAs_move hrec ht, ho⟩

/-- `finalize_release` returns what the Manager has recorded. -/
theorem finalizeRelease : (books d c).Spec (fun _ => True)
    (Rollouter.finalizeRelease d c.operationId)
    (fun ev s => RecordedAs s.manager c.target c.operationId ev ∧ ev.operationId = c.operationId)
    fun _ _ => True := by
  refine .bind (Q := fun p s => p.1 = c.target ∧ s.manager.replicaKind.get? c.target = some p.2.1)
    (peekManager (F := fun _ => True) fun s p hi _ hp => ?_) ?_
  · obtain ⟨k, hb, hp⟩ := except_bind_ok.1 hp
    obtain ⟨⟨kind, st⟩, hm, hp⟩ := except_bind_ok.1 hp
    obtain rfl := bound_target hi (getPendingTarget_eq hb)
    dsimp only at hp
    split at hp
    · cases hp
    · cases hp
      exact ⟨rfl, (replicaMeta_ok.1 hm).1⟩
  rintro ⟨target, kind, st⟩ s hi ⟨rfl, hk⟩
  refine (Contract.Spec.tryCatch (E := fun _ _ => True) (P := fun s =>
    s.manager.replicaKind.get? c.target = some kind) ?_ fun e =>
      .bind (Q := fun _ _ => True) ?_ fun _ => .err fun _ _ _ => trivial) s hi hk
  · cases kind with
    | native => exact .bind sleep fun _ => closeRelease
    | borrowed => exact .bind destroy fun _ => closeRelease
  · refine Keeps.call fun s o => ?_
    dsimp only
    split
    · exact Keeps.books_transition _ _ s
    · exact .refl s

end Bookkeeping

namespace Keeps

variable {d : Deployment} {c : OperationCommand} {key : ReplicaKey} {o : String} {ε ε' α β : Type}

theorem finalizeRelease : Keeps d c (Rollouter.finalizeRelease d c.operationId) :=
  .of_spec Bookkeeping.finalizeRelease fun _ => trivial

theorem bootstrapTarget {version : Nat} : Keeps d c (Trainer.bootstrapTarget d key o version) :=
  Judgement.Holds.bootstrapTarget fun rs => call fun s x => by
    dsimp only
    split <;> exact .of_eq rfl rfl rfl

theorem bootstrapAndPublish : Keeps d c (Trainer.bootstrapAndPublish d c.operationId) :=
  Judgement.Holds.bootstrapAndPublish .commitServiceChange finalizeRelease fun _ _ _ => bootstrapTarget

theorem restoreAndPublish : Keeps d c (Trainer.restoreAndPublish d c.operationId) :=
  Judgement.Holds.restoreAndPublish .commitServiceChange finalizeRelease (fun _ _ _ => bootstrapTarget)
    quarantineDormantRestore

end Keeps

end ReplicaLending
