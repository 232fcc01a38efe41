import ReplicaLending.Task.Bookkeeping
import ReplicaLending.Task.Soundness
/-!
# Who rests is left in peace

A native replica that has been put to sleep rests: its record is DORMANT and its runtime asleep. No
operation but a RESTORE of it writes to its record or wakes its runtime. The steps that could are the
transitions of a record and the calls to a runtime, and each of them concerns the target of its own
operation or a runtime that is only being created:

* no transition to DRAINING or RELEASED starts from DORMANT, `activate_service_target` is only reached
  for a borrowed target or by a RESTORE (`commitServiceChange`), and so is `bootstrap_target`;
* `sleep` and `destroy` look at the record first;
* two keys never have one rank.
-/

namespace ReplicaLending

open TaskState TaskProg Rollouter Trainer LLMServerManager

/-- The record of the replica is DORMANT and its runtime asleep. -/
def Resting (s : TaskState) (k : ReplicaKey) : Prop :=
  s.manager.replicaState.get? k = some .dormant ∧
    ∃ r, s.manager.runtimeInventory.get? k = some r ∧ (s.world r.rank).isSleeping = true

/-- The operation is the RESTORE of the replica. -/
def OperationCommand.Restores (c : OperationCommand) (k : ReplicaKey) : Prop :=
  c.kind = .restore ∧ c.target = k

/-- The evidence says which accelerator the native replica has: it has been asked for it. -/
def Measured (m : LLMServerManager) (k : ReplicaKey) (ev : OperationEvidence) : Prop :=
  m.replicaKind.get? k = some .native ∧
    ∃ r, m.runtimeInventory.get? k = some r ∧ ev.releasedGpuUuids = [r.placement.gpuUuid]

/-- A key keeps its kind; whoever is DORMANT stays so with its runtime, unless it is being restored. -/
structure Lets (c : OperationCommand) (m m' : LLMServerManager) : Prop where
  kind : ∀ {k kind}, m.replicaKind.get? k = some kind → m'.replicaKind.get? k = some kind
  dormant : ∀ {k}, ¬ c.Restores k → m.replicaState.get? k = some .dormant →
    m'.replicaState.get? k = some .dormant ∧
      m'.runtimeInventory.get? k = m.runtimeInventory.get? k
  slept : m'.nativeReleaseEvidence = m.nativeReleaseEvidence

structure Undisturbed (c : OperationCommand) (s t : TaskState) : Prop where
  kind : ∀ {k kind}, s.manager.replicaKind.get? k = some kind →
    t.manager.replicaKind.get? k = some kind
  resting : ∀ {k}, ¬ c.Restores k → Resting s k → Resting t k
  slept : ∀ {o k ev}, t.manager.nativeReleaseEvidence.get? o = some (k, ev) →
    s.manager.nativeReleaseEvidence.get? o = some (k, ev) ∨ Measured t.manager k ev
  journal : Narrows s.journal t.journal

/-- What a thread of the operation counts on, and what its steps are. -/
def undisturbed (d : Deployment) (c : OperationCommand) : Contract TaskState where
  inv s := Inv d False s ∧ Cur d c s
  rely := Rely c.operationId
  guar := Undisturbed c
  rely_trans := (books d c).rely_trans

variable {d : Deployment} {c : OperationCommand} {m m' : LLMServerManager} {s t : TaskState}
  {st : ReplicaState} {k : ReplicaKey}

/-! ## The Manager -/

namespace Lets

theorem refl (m : LLMServerManager) : Lets c m m := ⟨id, fun _ h => ⟨h, rfl⟩, rfl⟩

theorem trans {m'' : LLMServerManager} (h : Lets c m m') (h' : Lets c m' m'') : Lets c m m'' where
  kind hk := h'.kind (h.kind hk)
  dormant hr hs := by
    obtain ⟨hd, hi⟩ := h.dormant hr hs
    obtain ⟨hd', hi'⟩ := h'.dormant hr hd
    exact ⟨hd', hi'.trans hi⟩
  slept := h'.slept.trans h.slept

/-- Only the service lists or the records of borrowed runtimes change. -/
theorem of_eq (hk : m'.replicaKind = m.replicaKind) (hs : m'.replicaState = m.replicaState)
    (hi : m'.runtimeInventory = m.runtimeInventory)
    (he : m'.nativeReleaseEvidence = m.nativeReleaseEvidence) : Lets c m m' :=
  ⟨fun h => by rw [hk]; exact h, fun _ h => ⟨by rw [hs]; exact h, by rw [hi]⟩, he⟩

theorem deactivate (h : m.deactivateService k = .ok m') : Lets c m m' := by
  unfold deactivateService at h
  split at h
  · cases h
  · cases h
    exact of_eq rfl rfl rfl rfl

theorem activate (h : m.activateService k = .ok m') : Lets c m m' := by
  unfold activateService at h
  split at h
  · cases h
  · cases h
    exact of_eq rfl rfl rfl rfl

/-- A transition of a record that is not DORMANT, or is being restored. -/
theorem transition (h : m.transitionReplica k st = .ok m')
    (hk : m.replicaState.get? k = some .dormant → st = .dormant ∨ c.Restores k) : Lets c m m' := by
  rcases transitionReplica_ok h with ⟨rfl, -⟩ | ⟨rfl, cur, kind, hs, -, ha, -⟩
  · exact refl m'
  refine ⟨fun h => h, fun {j} hr hj => ?_, rfl⟩
  have hne : k ≠ j := by
    rintro rfl
    rcases hk hj with rfl | hc
    · cases hs.symm.trans hj
      revert ha
      decide
    · exact hr hc
  rw [get?_move, runtime_move, if_neg hne, if_neg fun h => hne h.2]
  exact ⟨hj, rfl⟩

/-- No DORMANT record goes to such a state. -/
theorem leaving (h : m.transitionReplica k st = .ok m') (ha : st ∉ ReplicaState.dormant.allowed) :
    Lets c m m' := by
  refine transition h fun hd => .inl ?_
  rcases transitionReplica_ok h with ⟨-, hs⟩ | ⟨-, cur, kind, hs, -, hcur, -⟩
  · exact Option.some.inj (hs.symm.trans hd)
  · cases hs.symm.trans hd
    exact absurd hcur ha

theorem reserve {n : NormalSpec} (hs : m.replicaState.get? n.key = none)
    (hk : m.replicaKind.get? n.key = none) : Lets c m (m.reserve n) where
  kind {k kind} h := by
    have hne : n.key ≠ k := by rintro rfl; rw [hk] at h; cases h
    exact (Dict.get?_insert_ne _ _ hne).trans h
  dormant {k} _ h := by
    have hne : n.key ≠ k := by rintro rfl; rw [hs] at h; cases h
    exact ⟨(Dict.get?_insert_ne _ _ hne).trans h, rfl⟩
  slept := rfl

end Lets

namespace Undisturbed

theorem of_lets (h : Lets c s.manager t.manager) (hw : t.world = s.world)
    (hj : t.journal = s.journal := by rfl) : Undisturbed c s t := by
  refine ⟨h.kind, fun {k} hr ⟨hd, r, hi, ha⟩ => ?_, fun ho => .inl (by rwa [h.slept] at ho), .of_eq hj⟩
  obtain ⟨hd', hi'⟩ := h.dormant hr hd
  exact ⟨hd', r, hi'.trans hi, by rw [hw]; exact ha⟩

theorem refl (s : TaskState) : Undisturbed c s s := of_lets (.refl _) rfl

/-- The runtimes change, but nobody who rests is woken. -/
theorem of_world (hm : t.manager = s.manager)
    (hw : ∀ k r, ¬ c.Restores k → s.manager.replicaState.get? k = some .dormant →
      s.manager.runtimeInventory.get? k = some r → (s.world r.rank).isSleeping = true →
      (t.world r.rank).isSleeping = true) (hj : t.journal = s.journal := by rfl) :
    Undisturbed c s t := by
  refine ⟨by rw [hm]; exact id, fun {k} hr ⟨hd, r, hi, ha⟩ => ⟨by rw [hm]; exact hd, r,
    by rw [hm]; exact hi, hw k r hr hd hi ha⟩, fun ho => .inl (by rwa [hm] at ho), .of_eq hj⟩

/-- Only the journal, the evidence or the Rollouter's bindings change. -/
theorem of_journal (hj : Narrows s.journal t.journal) (hm : t.manager = s.manager := by rfl)
    (hw : t.world = s.world := by rfl) : Undisturbed c s t :=
  ⟨by rw [hm]; exact id, fun {k} _ ⟨hd, r, hi, ha⟩ => ⟨by rw [hm]; exact hd, r, by rw [hm]; exact hi,
    by rw [hw]; exact ha⟩, fun ho => .inl (by rwa [hm] at ho), hj⟩

theorem onManager {f : LLMServerManager → Except PyErr LLMServerManager} (s : TaskState)
    (h : ∀ m, f s.manager = .ok m → Lets c s.manager m) :
    Undisturbed c s (TaskState.onManager f s).2 := by
  unfold TaskState.onManager
  split
  · exact of_lets (h _ ‹_›) rfl
  · exact refl s

end Undisturbed

/-! ## The contract, where more is known -/

/-- The thread of the operation, as long as `F` holds of the Manager. -/
abbrev undisturbedWhile (d : Deployment) (c : OperationCommand) (F : LLMServerManager → Prop) :
    Contract TaskState := (undisturbed d c).assuming fun s => F s.manager

variable {F : LLMServerManager → Prop}

instance : Quiet (undisturbedWhile d c F) where
  manager h := Rely.manager h
  quiet hm hw hj _ := .of_journal (.of_eq hj) hm hw

theorem undisturbed_target (hi : (undisturbedWhile d c F).inv s)
    (hb : s.rollouter.pendingOperationTargets.get? c.operationId = some k) : k = c.target :=
  hi.1.1.bound hi.1.2 hb

instance : Serves (undisturbedWhile d c F) c where
  bound := undisturbed_target

/-- Every step of the program leaves those who rest in peace. -/
abbrev Spares {ε α : Type} (d : Deployment) (c : OperationCommand) (F : LLMServerManager → Prop)
    (p : Prog TaskState Choice Event ε α) : Prop :=
  Walks (undisturbedWhile d c F) (fun _ => True) p

/-- The operation may write to its target: it restores it, or the target is not DORMANT. -/
def Open (c : OperationCommand) (m : LLMServerManager) : Prop :=
  c.kind = .restore ∨ m.replicaState.get? c.target ≠ some .dormant

theorem Open.restores (h : Open c m) (hd : m.replicaState.get? c.target = some .dormant) :
    c.Restores c.target := ⟨h.resolve_right (not_not.2 hd), rfl⟩

theorem open_of_borrowed (h : Inv d False s) (hk : s.manager.replicaKind.get? c.target = some .borrowed) :
    Open c s.manager := .inr (h.wired.borrowed_state hk)

namespace Spares

variable {ε α : Type} {o : String}

/-- What no step takes away has only to hold when the program starts. -/
theorem spec {p : Prog TaskState Choice Event ε α}
    (hF : ∀ s t, Undisturbed c s t → F s.manager → F t.manager) (h : Spares d c F p) :
    (undisturbed d c).Spec (fun s => F s.manager) p (fun _ _ => True) fun _ _ => True :=
  .conseq (Contract.Spec.of_assuming (F := fun s : TaskState => F s.manager)
    (fun s t hr h => by rw [Rely.manager hr]; exact h) hF h) (fun _ _ h => ⟨h, trivial⟩)
    (fun _ _ _ h => h) fun _ _ _ h => h

theorem call {tag : Event} {f : TaskState → Choice → Except ε α × TaskState}
    (h : ∀ s x, (undisturbedWhile d c F).inv s → Undisturbed c s (f s x).2) :
    Spares d c F (Prog.call tag f) :=
  Walks.call fun s x hi _ => ⟨h s x hi, trivial⟩

/-! ## Transitions -/

theorem enterDraining : Spares d c F (TaskProg.call (enterDraining k o st)) := by
  refine call fun s x _ => ?_
  unfold Rollouter.enterDraining
  split
  · have hm : Undisturbed c s _ := .onManager (f := (·.transitionReplica k .draining)) s
      fun _ h => .leaving h (by decide)
    split <;> (rename_i heq; rw [heq] at hm; exact ⟨hm.kind, hm.resting, hm.slept, hm.journal⟩)
  · exact .of_lets (.refl _) rfl

/-- The handlers only look for the states they have left the record in. -/
theorem quarantineWhere {p : Option ReplicaState → Prop} [DecidablePred p] (hp : ¬ p (some .dormant)) :
    Spares d c F (TaskProg.call fun s _ => if p (s.manager.replicaState.get? k) then
      TaskState.onManager (·.transitionReplica k .quarantined) s else (.ok (), s)) := by
  refine call fun s x _ => ?_
  split
  · rename_i hk
    refine .onManager s fun _ h => .transition h fun hd => ?_
    rw [hd] at hk
    exact absurd hk hp
  · exact .refl s

theorem quarantineIf {e : PyErr} (hst : st ≠ .dormant) : Spares d c F (quarantineIf st k e) :=
  .bind (quarantineWhere (p := (· = some st)) fun h => hst (Option.some.inj h).symm) fun _ => .err

theorem retractServiceTarget : Spares d c F (TaskProg.call (retractServiceTarget k)) := by
  refine call fun s x _ => ?_
  unfold Rollouter.retractServiceTarget
  split
  · exact .refl s
  · rename_i m hm
    have hl : Lets c s.manager m := .leaving hm (by decide)
    split
    · exact .of_lets hl rfl
    · exact .of_lets (hl.trans (.deactivate ‹_›)) rfl

end Spares

instance {q : String} : Retires (walk (undisturbedWhile d c F) fun _ => True) q where
  draining := Spares.enterDraining
  retract := Spares.retractServiceTarget
  deactivate hf := Spares.call fun s x _ => by
    obtain h | ⟨m, hm, h⟩ := hf s x <;> rw [h]
    · exact .refl s
    · exact .of_lets (.deactivate hm) rfl

namespace Spares

variable {ε α : Type}

/-! ## Service changes -/

/-- The target of the operation is made ACTIVE. -/
theorem activateServiceTarget : (undisturbedWhile d c F).Spec (fun s => Open c s.manager)
    (TaskProg.call (activateServiceTarget c.target)) (fun _ _ => True) fun _ _ => True := by
  refine .call (stable_of_manager (Open c)) fun s x _ ho => ⟨?_, fun _ => ⟨fun _ _ => trivial,
    fun _ _ => trivial⟩⟩
  unfold Rollouter.activateServiceTarget
  split
  · exact .refl s
  rename_i m hm
  have hsame : m.replicaState = s.manager.replicaState := by
    unfold activateService at hm
    split at hm
    · cases hm
    · cases hm
      rfl
  dsimp only
  split
  · rename_i m' hm'
    obtain ⟨-, -, ht⟩ := except_bind_ok.1 hm'
    refine .of_lets ((Lets.activate hm).trans (.transition ht fun hd => .inr ?_)) rfl
    rw [hsame] at hd
    exact ho.restores hd
  · refine .of_lets ?_ rfl
    dsimp only
    split
    · exact (Lets.activate hm).trans (.deactivate ‹_›)
    · exact .activate hm

/-- A call to a runtime of the target. -/
theorem onServer_ok {r : Replica} {f : (Nat → Fault) → Server → Except PyErr α × Server}
    {G : LLMServerManager → Prop} {Q : α → Prop}
    (hG : ∀ s, (undisturbedWhile d c F).inv s → G s.manager →
      Open c s.manager ∧ s.manager.runtimeInventory.get? c.target = some r)
    (hf : ∀ x v a, (f x v).1 = .ok a → Q a) : (undisturbedWhile d c F).Spec (fun s => G s.manager)
      (TaskProg.onServer r f) (fun a s => Q a ∧ G s.manager) fun _ s => G s.manager := by
  refine .call (stable_of_manager G) fun s x hi hg => ?_
  obtain ⟨ho, hr⟩ := hG s hi hg
  have hset (v : Server) : Undisturbed c s (s.setServer r.rank v) := by
    refine .of_world rfl fun k r' hk hd hi' ha => ?_
    have hne : r'.rank ≠ r.rank := by
      intro he
      obtain ⟨rfl, -⟩ := hi.1.1.wired.holds_inj (.inl hi') (.inl hr) he
      exact hk (ho.restores hd)
    show (Function.update s.world r.rank v r'.rank).isSleeping = true
    rw [Function.update_of_ne hne]
    exact ha
  cases x.fault with
  | before => exact ⟨.refl s, fun _ => ⟨fun _ ha => (by cases ha), fun _ _ => hg⟩⟩
  | none => exact ⟨hset _, fun _ => ⟨fun a ha => ⟨hf _ _ a ha, hg⟩, fun _ _ => hg⟩⟩
  | after => exact ⟨hset _, fun _ => ⟨fun _ ha => (by cases ha), fun _ _ => hg⟩⟩
  | late => exact ⟨hset _, fun _ => ⟨fun _ ha => (by cases ha), fun _ _ => hg⟩⟩

theorem onServer {r : Replica} {f : (Nat → Fault) → Server → Except PyErr α × Server}
    {G : LLMServerManager → Prop} (hG : ∀ s, (undisturbedWhile d c F).inv s → G s.manager →
      Open c s.manager ∧ s.manager.runtimeInventory.get? c.target = some r) :
    Walks (undisturbedWhile d c F) G (TaskProg.onServer r f) :=
  .conseq (onServer_ok (Q := fun _ => True) hG fun _ _ _ _ => trivial) (fun _ _ h => h)
    (fun _ _ _ h => h.2) fun _ _ _ h => h

theorem publishBorrowed {kind : ReplicaKind} : (undisturbedWhile d c F).Spec
    (fun s => s.manager.replicaKind.get? c.target = some kind)
    (publishBorrowed c.target kind c.operationId) (fun _ _ => True) fun _ _ => True := by
  have hactivate : (undisturbedWhile d c F).Spec
      (fun s => s.manager.replicaKind.get? c.target = some .borrowed)
      (TaskProg.call (Rollouter.activateServiceTarget c.target)) (fun _ _ => True) fun _ _ => True :=
    .conseq activateServiceTarget (fun s hi hk => open_of_borrowed hi.1.1 hk) (fun _ _ _ h => h)
      fun _ _ _ h => h
  refine .bind (Q := fun _ s => s.manager.replicaKind.get? c.target = some .borrowed) ?_ fun _ =>
    .bind (Q := fun _ s => s.manager.replicaKind.get? c.target = some .borrowed)
      (.conseq (.peek : Walks _ (fun m => m.replicaKind.get? c.target = some .borrowed) _)
        (fun _ _ h => h) (fun _ _ _ h => h) fun _ _ _ _ => trivial) fun r =>
        .tryCatch (E := fun _ _ => True) (.bind hactivate fun _ =>
          (.bind .commitReadyOrReconcile fun _ => .settlePublication : Spares d c F _)) fun _ =>
            quarantineIf (by decide)
  unfold TaskProg.require
  split
  · rename_i hk
    exact .ret fun _ _ h => hk ▸ h
  · exact .err fun _ _ _ => trivial

theorem publishNative (hc : c.kind = .restore) {kind : ReplicaKind} :
    Spares d c F (publishNative d c.target kind c.operationId) := by
  refine .bind .require fun _ => .tryCatch ?_ fun _ => ?_
  · refine Contract.Spec.bind (Q := fun r s => s.manager.runtimeInventory.get? c.target = some r)
      (.call (stable_of_manager fun _ => True) fun s x _ _ => ⟨.refl s, fun _ => ⟨fun r hr => ?_,
        fun _ _ => trivial⟩⟩) fun r => .bind (Q := fun _ _ => True) ?_ fun _ => .bind (Q := fun _ _ => True)
          (.conseq activateServiceTarget (fun _ _ _ => .inl hc) (fun _ _ _ h => h) fun _ _ _ h => h)
            fun _ => (.bind (.mapErr .commitReadyOrReconcile) fun _ => .settlePublication : Spares d c F _)
    · unfold serviceIdentity inspectRuntime at hr
      dsimp only at hr
      split at hr
      · cases hr
      · split at hr
        · cases hr
        · cases hr
          assumption
    · exact .conseq (onServer (G := fun m => m.runtimeInventory.get? c.target = some r)
        fun s _ hr => ⟨.inl hc, hr⟩) (fun _ _ h => h) (fun _ _ _ _ => trivial) fun _ _ _ _ => trivial
  · refine .bind (call fun s x hi => ?_) fun _ => .err
    split
    · exact .onManager s fun _ h => .transition h fun _ => .inr ⟨hc, rfl⟩
    · exact .refl s

/-- `commit_service_change` reads what state its target is in. -/
theorem commitServiceChange (hread : ∀ s, (undisturbedWhile d c F).inv s →
      s.rollouter.pendingOperationTargets.get? c.operationId = some c.target → Open c s.manager) :
    Spares d c F (Rollouter.commitServiceChange d c.operationId) := by
  refine Contract.Spec.bind (Q := fun p s => p.1 = c.target ∧
      s.manager.replicaKind.get? c.target = some p.2.1 ∧ (p.2.2 = .dormant → c.kind = .restore))
    (.call (stable_of_manager fun _ => True) fun s x hi _ => ⟨.refl s, fun _ => ⟨fun p hp => ?_,
      fun _ _ => trivial⟩⟩) fun ⟨target, kind, state⟩ s hi ⟨htarget, hkind, hdormant⟩ => ?_
  · obtain ⟨target, hb, hp⟩ := except_bind_ok.1 hp
    obtain ⟨⟨kind, state⟩, hm, hp⟩ := except_bind_ok.1 hp
    cases hp
    have hb := getPendingTarget_eq hb
    obtain rfl := undisturbed_target hi hb
    obtain ⟨hk, hs⟩ := replicaMeta_ok.1 hm
    exact ⟨rfl, hk, fun hd => (hread s hi hb).resolve_right fun hn => hn (hd ▸ hs)⟩
  · dsimp only at htarget hkind hdormant
    subst htarget
    cases state with
    | active =>
      refine (.bind (.tryCatch (.readRpc (n := 2)) fun _ => .err) fun reconciled => ?_ :
        Spares d c F (reconcilePublication c.target c.operationId)) s hi trivial
      cases reconciled with
      | none => exact .settlePublication
      | some _ => exact .bind .ofExcept fun _ => .settlePublication
    | creating => exact publishBorrowed s hi hkind
    | dormant => exact publishNative (hdormant rfl) s hi trivial
    | draining => exact (.commitExit : Spares d c F _) s hi trivial
    | released => exact (.err : Spares d c F _) s hi trivial
    | quarantined => exact (.err : Spares d c F _) s hi trivial

/-! ## Release -/

/-- The runtime `sleep` has found, and its record. -/
def Leaving (c : OperationCommand) (r : Replica) (m : LLMServerManager) : Prop :=
  m.replicaState.get? c.target = some .draining ∧ m.runtimeInventory.get? c.target = some r

/-- What is released is the accelerator of the target. -/
def Releases (c : OperationCommand) (released : OperationEvidence ⊕ List String)
    (m : LLMServerManager) : Prop :=
  ∀ gpuUuids, released = .inr gpuUuids →
    ∃ r, m.runtimeInventory.get? c.target = some r ∧ gpuUuids = [r.placement.gpuUuid]

theorem sleep : (undisturbedWhile d c F).Spec
    (fun s => s.manager.replicaKind.get? c.target = some .native)
    (Rollouter.sleep d c.target c.operationId)
    (fun released s => s.manager.replicaKind.get? c.target = some .native ∧
      Releases c released s.manager) fun _ _ => True := by
  refine Contract.Spec.bind (Q := fun found s =>
      s.manager.replicaKind.get? c.target = some .native ∧ ∀ r, found = .inr r → Leaving c r s.manager)
    (.call (stable_of_manager fun m => m.replicaKind.get? c.target = some .native) fun s x _ hk =>
      ⟨.refl s, fun _ => ⟨fun found hf => ⟨hk, ?_⟩, fun _ _ => trivial⟩⟩) fun found => ?_
  · rintro r rfl
    dsimp only at hf
    split at hf
    · cases hf
    split at hf
    · split at hf <;> cases hf
    · split at hf
      · cases hf
      rename_i hs
      split at hf
      · cases hf
      · cases hf
        exact ⟨not_not.1 hs, ‹_›⟩
  rcases found with ev | r
  · exact .ret fun _ _ h => ⟨h.1, fun _ hr => (by cases hr)⟩
  let G (m : LLMServerManager) : Prop := m.replicaKind.get? c.target = some .native ∧ Leaving c r m
  have hopen : ∀ s, (undisturbedWhile d c F).inv s → G s.manager →
      Open c s.manager ∧ s.manager.runtimeInventory.get? c.target = some r :=
    fun s _ ⟨_, hs, hr⟩ => ⟨.inr (by rw [hs]; decide), hr⟩
  refine .conseq (P := fun s => G s.manager) (.bind (onServer_ok (Q := (· = r.placement)) hopen ?_)
    fun placement => ?_) (fun _ _ h => ⟨h.1, h.2 r rfl⟩) (fun _ _ _ h => h) fun _ _ _ _ => trivial
  · intro x v a ha
    unfold Replica.workerPlacements at ha
    split at ha
    · cases ha
    · unfold Server.attempt at ha
      split at ha <;> cases ha
      rfl
  · rintro s hi ⟨rfl, hg⟩
    refine (Contract.Spec.bind (Q := fun _ (s : TaskState) => G s.manager)
      (.require : Walks _ G _) fun _ =>
      .bind (Q := fun _ (s : TaskState) => G s.manager) (onServer hopen) fun _ => .ret fun s _ h =>
        ⟨h.1, fun uuids hu => ⟨r, h.2.2, by cases hu; rfl⟩⟩) s hi hg

theorem destroy {H : LLMServerManager → Prop} :
    Walks (undisturbedWhile d c F) H (Rollouter.destroy c.target c.operationId) := by
  let G (r : Replica) (m : LLMServerManager) : Prop := H m ∧
    m.replicaState.get? c.target ≠ some .dormant ∧ m.runtimeInventory.get? c.target = some r
  refine Contract.Spec.bind (Q := fun found s => H s.manager ∧ ∀ r gpuUuid, found = .inr (r, gpuUuid) →
      G r s.manager)
    (.call (stable_of_manager H) fun s x _ hH => ⟨.refl s, fun _ => ⟨fun found hf => ⟨hH, ?_⟩,
      fun _ _ => hH⟩⟩) fun found => ?_
  · rintro r gpuUuid rfl
    dsimp only at hf
    split at hf
    · cases hf
    split at hf
    · cases hf
    split at hf
    · split at hf <;> cases hf
    · split at hf
      · cases hf
      rename_i hs
      split at hf
      · cases hf
      · cases hf
        refine ⟨hH, fun hd => hs ⟨?_, ?_⟩, ‹_›⟩ <;> rw [hd] <;> decide
  rcases found with ev | ⟨r, gpuUuid⟩
  · exact .ret fun _ _ h => h.1
  · have hserver : Walks (undisturbedWhile d c F) (G r) ((TaskProg.onServer r fun x =>
        r.cleanupBorrowedRuntime x).bind fun _ => .ret (.inr [gpuUuid] : OperationEvidence ⊕ List String)) :=
      .bind (onServer fun _ _ h => ⟨.inr h.2.1, h.2.2⟩) fun _ => .ret
    exact .conseq hserver (fun _ _ h => h.2 r gpuUuid rfl) (fun _ _ _ h => h.1) fun _ _ _ h => h.1

/-- What is recorded, and what follows: the evidence of a native release is measured. -/
theorem undisturbed_recorded {kind : ReplicaKind} {released : OperationEvidence ⊕ List String}
    {ev : OperationEvidence}
    (h : Bookkeeping.Recording s.manager c.target c.operationId kind released ev m)
    (hk : s.manager.replicaKind.get? c.target = some kind)
    (hrel : kind = .native → Releases c released s.manager) (hl : Lets c m t.manager)
    (hr : kind = .native → t.manager.runtimeInventory = m.runtimeInventory)
    (hw : t.world = s.world) (hj : t.journal = s.journal) : Undisturbed c s t := by
  cases h with
  | found => exact .of_lets hl hw hj
  | @destroyed _ _ l rec =>
    have hset : Lets c s.manager (s.manager.setBorrowed l { rec with destroyEvidence := some ev }) :=
      .of_eq rfl rfl rfl rfl
    exact .of_lets (hset.trans hl) hw hj
  | slept hg =>
    refine ⟨fun h => hl.kind h, fun {k} hc ⟨hd, r, hi, ha⟩ => ?_, fun {o k ev'} ho => ?_, .of_eq hj⟩
    · obtain ⟨hd', hi'⟩ := hl.dormant hc hd
      exact ⟨hd', r, hi'.trans hi, by rw [hw]; exact ha⟩
    · rw [hl.slept, recordSleep, Dict.get?_insert] at ho
      split at ho
      · cases ho
        obtain ⟨r, hi, rfl⟩ := hrel rfl _ rfl
        exact .inr ⟨hl.kind hk, r, by rw [hr rfl]; exact hi, hg⟩
      · exact .inl ho

theorem closeRelease {kind : ReplicaKind} {released : OperationEvidence ⊕ List String} :
    (undisturbedWhile d c F).Spec (fun s => s.manager.replicaKind.get? c.target = some kind ∧
        (kind = .native → Releases c released s.manager))
      (TaskProg.call (closeRelease c.target kind c.operationId released)) (fun _ _ => True)
      fun _ _ => True := by
  refine .call (stable_of_manager fun m => m.replicaKind.get? c.target = some kind ∧
    (kind = .native → Releases c released m)) fun s x _ ⟨hk, hrel⟩ => ⟨?_, fun _ =>
      ⟨fun _ _ => trivial, fun _ _ => trivial⟩⟩
  rcases Bookkeeping.closeRelease_cases
      (rfl : Rollouter.closeRelease c.target kind c.operationId released s x = _)
    with ⟨e, h⟩ | ⟨ev, m, hm, ⟨e, h⟩ | ⟨st, m', ht, hst, -, h⟩⟩ <;> rw [h]
  · exact .refl s
  · exact undisturbed_recorded hm hk hrel (.refl _) (fun _ => rfl) rfl rfl
  · refine undisturbed_recorded hm hk hrel (.leaving ht ?_) (fun hn => ?_) rfl rfl
    · rcases hst with rfl | rfl <;> decide
    · -- a native replica is not released
      rcases transitionReplica_ok ht with ⟨rfl, -⟩ | ⟨rfl, cur, kind', -, hkind, -, hv⟩
      · rfl
      · have hkm : m.replicaKind = s.manager.replicaKind := by cases hm <;> rfl
        rw [hkm, hk, hn] at hkind
        exact runtime_move_of_ne (hv.2 (Option.some.inj hkind).symm)

theorem finalizeRelease : Spares d c F (Rollouter.finalizeRelease d c.operationId) := by
  refine Contract.Spec.bind (Q := fun p s => p.1 = c.target ∧
      s.manager.replicaKind.get? c.target = some p.2.1)
    (.call (stable_of_manager fun _ => True) fun s x hi _ => ⟨.refl s, fun _ => ⟨fun p hp => ?_,
      fun _ _ => trivial⟩⟩) fun ⟨target, kind, state⟩ s hi ⟨htarget, hkind⟩ => ?_
  · obtain ⟨target, hb, hp⟩ := except_bind_ok.1 hp
    obtain ⟨⟨kind, state⟩, hm, hp⟩ := except_bind_ok.1 hp
    obtain rfl := undisturbed_target hi (getPendingTarget_eq hb)
    dsimp only at hp
    split at hp
    · cases hp
    · cases hp
      exact ⟨rfl, (replicaMeta_ok.1 hm).1⟩
  · dsimp only at htarget hkind
    subst htarget
    refine (Contract.Spec.tryCatch (E := fun _ _ => True) (P := fun s =>
      s.manager.replicaKind.get? c.target = some kind) ?_ fun e => (.bind (quarantineWhere (p := fun st =>
        st = some .creating ∨ st = some .draining) (by decide)) fun _ => .err : Spares d c F _)) s hi hkind
    cases kind with
    | native =>
      exact .bind sleep fun _ => .conseq closeRelease (fun _ _ h => ⟨h.1, fun _ => h.2⟩)
        (fun _ _ _ h => h) fun _ _ _ h => h
    | borrowed =>
      have hdestroy : Walks (undisturbedWhile d c F)
          (fun m => m.replicaKind.get? c.target = some .borrowed)
          (Rollouter.destroy c.target c.operationId) := destroy
      exact .bind (.conseq hdestroy (fun _ _ h => h) (fun _ _ _ h => h) fun _ _ _ _ => trivial) fun _ =>
        .conseq closeRelease (fun _ _ h => ⟨h, fun hn => (by cases hn)⟩) (fun _ _ _ h => h)
          fun _ _ _ h => h

/-! ## Creation -/

/-- A runtime is being created: its record is CREATING, and its rank nobody else's. -/
structure Building (n : NormalSpec) (rank : Nat) (m : LLMServerManager) : Prop where
  state : m.replicaState.get? n.key = some .creating
  rank : ∀ {k r}, m.runtimeInventory.get? k = some r → r.rank ≠ rank

/-- A write to the runtime that is being created. -/
theorem setServer_building {n : NormalSpec} {rank : Nat} (hb : Building n rank s.manager) (v : Server) :
    Undisturbed c s (s.setServer rank v) := by
  refine .of_world rfl fun k r _ _ hr ha => ?_
  show (Function.update s.world rank v r.rank).isSleeping = true
  rw [Function.update_of_ne (hb.rank hr)]
  exact ha

theorem reserveBorrowed {spec : BorrowedSpec} : (undisturbedWhile d c F).Spec (fun _ => True)
    (TaskProg.call (reserveBorrowed d spec))
    (fun r s => ∀ n rank, r = .inr (n, rank) → Building n rank s.manager) fun _ _ => True := by
  refine .call (stable_of_manager fun _ => True) fun s o hi _ => ?_
  have hsame : ∀ {r : Except PyErr (String ⊕ NormalSpec × Nat)}, (∀ p, r ≠ .ok (.inr p)) →
      Undisturbed c s s ∧ ((undisturbedWhile d c F).inv s → (∀ a, r = .ok a → ∀ n rank,
        a = .inr (n, rank) → Building n rank s.manager) ∧ ∀ e, r = .error e → True) := by
    refine fun hr => ⟨.refl s, fun _ => ⟨fun a ha n rank hn => ?_, fun _ _ => trivial⟩⟩
    rw [hn] at ha
    exact absurd ha (hr _)
  unfold Rollouter.reserveBorrowed
  cases validateBorrowedSpec d o.now spec with
  | error e => exact hsame fun _ h => (by cases h)
  | ok n =>
    dsimp only
    cases hl : s.manager.borrowedOperations.get? n.spec.leaseId with
    | some existing =>
      dsimp only
      split
      · exact hsame fun _ h => (by cases h)
      · split <;> exact hsame fun _ h => (by cases h)
    | none =>
      dsimp only
      split
      · exact hsame fun _ h => (by cases h)
      rename_i hkey
      rw [register_creating (m := { s.manager with
        nextReplicaRank := s.manager.nextReplicaRank + 1 }) hkey]
      have hnew : s.manager.replicaState.get? n.key = none := by
        simpa [Dict.contains] using hkey
      obtain ⟨hkind, -, -, -⟩ := hi.1.1.wired.unregistered hnew
      refine ⟨.of_lets (.reserve hnew hkind) rfl, fun _ => ⟨?_, fun _ he => by cases he⟩⟩
      rintro _ ⟨⟩ _ _ ⟨⟩
      exact ⟨Dict.get?_insert_self _ _ _, fun hr => (hi.1.1.wired.rank_lt (.inl hr)).ne⟩

theorem createBorrowedReplica {spec : BorrowedSpec} :
    Spares d c F (Rollouter.createBorrowedReplica d spec) := by
  refine Walks.of_spec (P := fun _ => True) (Q := fun _ _ => True) (E := fun _ _ => True)
    (.bind reserveBorrowed fun reserved => ?_) fun _ => trivial
  rcases reserved with address | ⟨n, rank⟩
  · exact .ret fun _ _ _ => trivial
  have hstable : (undisturbedWhile d c F).Stable fun s => Building n rank s.manager :=
    stable_of_manager (Building n rank)
  refine Contract.Spec.conseq (P := fun s => Building n rank s.manager) ?_
    (fun s _ h => h n rank rfl) (fun _ _ _ h => h) fun _ _ _ h => h
  -- the handler is left with the runtime of the reserved rank, or with none
  refine .tryCatch (E := fun e s => Building n rank s.manager ∧ ∀ r, e.2 = some r → r.rank = rank)
    (.bind (Q := fun _ s => Building n rank s.manager) (.mapErr (.call hstable fun s o _ h =>
      ⟨.refl s, fun _ => ⟨fun _ _ => h, fun _ _ => ⟨h, fun _ hr => (by cases hr)⟩⟩⟩)) fun _ =>
      .bind (Q := fun r s => Building n rank s.manager ∧ r.rank = rank)
        (.call hstable fun s o _ h => ?launch) fun r => .call ?entering fun s o _ h => ?enter) fun e => ?_
  case launch =>
    unfold Rollouter.launchBorrowed
    dsimp only
    split
    · refine ⟨setServer_building h _, fun _ => ⟨fun _ ha => (by cases ha), fun _ he => ?_⟩⟩
      cases he
      exact ⟨h, fun r hr => (by cases hr; rfl)⟩
    · refine ⟨setServer_building h _, fun _ => ⟨fun _ ha => ?_, fun _ he => by cases he⟩⟩
      cases ha
      exact ⟨h, rfl⟩
  case entering => exact stable_of_manager fun m => Building n rank m ∧ r.rank = rank
  case enter =>
    unfold Rollouter.enterBorrowed
    split
    · refine ⟨.refl s, fun _ => ⟨fun _ ha => (by cases ha), fun _ he => ?_⟩⟩
      cases he
      exact ⟨h.1, fun r' hr => (by cases hr; exact h.2)⟩
    · refine ⟨.of_lets ⟨fun hk => hk, fun {k} _ hd => ⟨hd, ?_⟩, rfl⟩ rfl,
        fun _ => ⟨fun _ _ => trivial, fun _ he => by cases he⟩⟩
      have hne : n.key ≠ k := by
        rintro rfl
        cases h.1.state.symm.trans hd
      exact Dict.get?_insert_ne _ _ hne
  · obtain ⟨e, runtime⟩ := e
    have hstable' : (undisturbedWhile d c F).Stable fun s =>
        Building n rank s.manager ∧ ∀ r, runtime = some r → r.rank = rank :=
      stable_of_manager fun m => Building n rank m ∧ ∀ r, runtime = some r → r.rank = rank
    refine .bind (Q := fun _ _ => True) (.call hstable' fun s o _ h => ?_) fun _ =>
      (.bind (call fun s o _ => ?_) fun _ => .err : Spares d c F _)
    · unfold Rollouter.cleanupFailed
      split
      · exact ⟨.refl s, fun _ => ⟨fun _ _ => trivial, fun _ _ => trivial⟩⟩
      · split
        · exact ⟨.refl s, fun _ => ⟨fun _ _ => trivial, fun _ _ => trivial⟩⟩
        · rename_i r _
          obtain rfl := h.2 r rfl
          exact ⟨setServer_building h.1 _, fun _ => ⟨fun _ _ => trivial, fun _ _ => trivial⟩⟩
    · unfold Rollouter.recordFailure
      split
      · exact .refl s
      dsimp only
      split
      · exact .refl s
      · rename_i m hm
        have hmoved : Lets c s.manager m := by
          split at hm
          · rename_i hcreating
            exact .transition hm fun hd => (by cases hcreating.symm.trans hd)
          · cases hm
            exact .refl _
        exact .of_lets (hmoved.trans (.of_eq rfl rfl rfl rfl)) rfl

end Spares

end ReplicaLending
