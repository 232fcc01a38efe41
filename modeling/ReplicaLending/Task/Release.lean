import ReplicaLending.Library.Checks
import ReplicaLending.Task.Assertions
import ReplicaLending.Task.Servers
/-!
# Releasing a target

`finalize_release` with the Manager's `sleep` and `destroy`. It is called with a target that is out of
every service table (`Retired`); when it returns, the runtime is asleep or destroyed, the record is
closed and the binding gone (`Closed`).
-/

namespace ReplicaLending

open TaskState TaskProg Rollouter LLMServerManager CheckpointEngineManager

variable {d : Deployment} {strict : Prop} {c : OperationCommand} {s t : TaskState}
  {G : TaskState → Prop}

/-- Nothing serves or waits for the target any more. -/
structure Retired (strict : Prop) (s : TaskState) (c : OperationCommand) : Prop where
  calls : s.inflight = []
  route : s.lb.routes.get? c.target = none
  unlisted : Unlisted s.manager c.target
  parked : s.manager.replicaKind.get? c.target = some .native → Parked s.manager s.ce c.target
  unparked : s.manager.replicaKind.get? c.target = some .borrowed →
    s.ce.pending.get? c.target = none
  gone : strict ∨ c.kind.exits = true → s.ce.members c.target = none
  fresh : strict → s.ce.ready.get? c.target = none

/-- The target is released. -/
structure Closed (strict : Prop) (s : TaskState) (c : OperationCommand) : Prop where
  calls : s.inflight = []
  state : s.manager.replicaState.get? c.target = some .dormant ∨
    s.manager.replicaState.get? c.target = some .released
  parked : s.manager.replicaKind.get? c.target = some .native → Parked s.manager s.ce c.target
  unparked : s.manager.replicaKind.get? c.target = some .borrowed →
    s.ce.pending.get? c.target = none
  gone : strict ∨ c.kind.exits = true → s.ce.members c.target = none
  fresh : strict → s.ce.ready.get? c.target = none
  recorded : c.kind.exits = true → Recorded s.manager c.target c.operationId

/-- The Manager lets its runtime go. -/
def Releasable (m : LLMServerManager) (k : ReplicaKey) : Prop :=
  m.replicaState.get? k = some .draining ∨ m.replicaState.get? k = some .creating

/-- The runtime is asleep or destroyed. -/
def Vacant (s : TaskState) (k : ReplicaKey) : Prop :=
  ∃ r, s.manager.runtimeInventory.get? k = some r ∧ Vacated s.manager k (s.world r.rank)

namespace Steady

theorem retired : Steady d strict c fun s => Retired strict s c := by
  intro s t _ h hr _
  constructor
  case calls => exact hr.calls h.calls
  case route => rw [hr.routes h.calls]; exact h.route
  case unlisted => rw [hr.manager]; exact h.unlisted
  case parked => rw [hr.parked, hr.manager]; exact h.parked
  case unparked => rw [hr.manager, hr.pending]; exact h.unparked
  case gone => rw [hr.members]; exact h.gone
  case fresh => rw [hr.ready]; exact h.fresh

theorem closed : Steady d strict c fun s => Closed strict s c := by
  intro s t _ h hr _
  constructor
  case calls => exact hr.calls h.calls
  case state => rw [hr.manager]; exact h.state
  case parked => rw [hr.parked, hr.manager]; exact h.parked
  case unparked => rw [hr.manager, hr.pending]; exact h.unparked
  case gone => rw [hr.members]; exact h.gone
  case fresh => rw [hr.ready]; exact h.fresh
  case recorded => rw [hr.manager]; exact h.recorded

theorem vacant {k : ReplicaKey} : Steady d strict c fun s => Vacant s k := by
  rintro s t _ ⟨r, hi, hv⟩ hr _
  exact ⟨r, by rw [hr.manager]; exact hi, by rw [hr.manager]; exact hv.congr (hr.world _).symm⟩

/-- What holds as long as the Manager's tables are in some state. -/
theorem when_manager {P : TaskState → Prop} (F : LLMServerManager → Prop)
    (hP : Steady d strict c P) : Steady d strict c fun s => F s.manager → P s := by
  intro s t hi h hr ht hF
  exact hP s t hi (h (by rw [← hr.manager]; exact hF)) hr ht

end Steady

/-- A released target needs nobody's excuse. -/
theorem Closed.clear (h : Closed strict s c) (hw : Wired s.manager s.ce) : Clear strict s c where
  dormant := fun _ hk => h.parked (hw.native_of_dormant hk)
  hidden := fun _ hb => h.unparked hb
  calls := h.calls
  state := fun hs hm => by rw [h.gone (.inl hs)] at hm; cases hm
  built := fun _ hk => by
    rcases h.state with hk' | hk' <;> rw [hk'] at hk <;> cases hk
  receipt := fun hs hm => by rw [h.fresh hs] at hm; cases hm
  leaving := fun _ _ hk => by
    rcases h.state with hk' | hk' <;> rw [hk'] at hk <;> cases hk

theorem Closed.lined (h : Closed strict s c) : Lined s c := fun hn _ _ => h.parked hn

/-! ## The runtime -/

/-- The state in which `finalize_release` works on the runtime. -/
structure Releasing (strict : Prop) (s : TaskState) (c : OperationCommand) (kind : ReplicaKind) :
    Prop where
  retired : Retired strict s c
  kind : s.manager.replicaKind.get? c.target = some kind
  state : Releasable s.manager c.target

theorem Steady.releasing {kind : ReplicaKind} :
    Steady d strict c fun s => Releasing strict s c kind := by
  intro s t hi h hr ht
  refine ⟨Steady.retired s t hi h.retired hr ht, ?_, ?_⟩
  · rw [hr.manager]; exact h.kind
  · rw [hr.manager]; exact h.state

/-- For an exit only a DRAINING record is let go. -/
theorem Inv.releasable_exits (h : Inv d strict s) (hc : Cur d c s)
    (hb : s.rollouter.pendingOperationTargets.get? c.operationId = some c.target)
    (hs : Releasable s.manager c.target) (hx : c.kind.exits = true) :
    s.manager.replicaState.get? c.target = some .draining := by
  rcases hs with hs | hs
  · exact hs
  · rcases h.bindings.exit hc hx hb with hk | hk <;> rw [hs] at hk <;> cases hk

/-- Whatever happens to the runtime of a retired target, nobody notices. -/
theorem Inv.setRetired (h : Inv d strict s) (hc : Cur d c s) {kind : ReplicaKind} {r : Replica}
    (hr : Releasing strict s c kind) (hi : s.manager.runtimeInventory.get? c.target = some r)
    (hb : c.kind.exits = true → s.manager.replicaState.get? c.target = some .draining)
    (hg : c.kind.exits = false → Guarded s.gate s.nativeSync c.operationId) (v : Server) :
    Inv d strict (s.setServer r.rank v) := by
  refine h.setWorld hc (fun hx => h.not_recorded hc (.inr (hb hx)) hx) fun hs => ?_
  refine Serving.setServer h hs (.inl (.inl hi)) (fun hm => ?_) fun hk _ => .inr ?_
  · rw [hr.retired.gone (.inl hs)] at hm; cases hm
  · cases hx : c.kind.exits with
    | true => rw [hb hx] at hk; cases hk
    | false => exact ⟨c, hc, hx, rfl, hg hx⟩

namespace Triple

/-- What both ends of the Manager's `sleep` and `destroy` say. -/
def Let (strict : Prop) (G : TaskState → Prop) (c : OperationCommand) (kind : ReplicaKind)
    (s : TaskState) : Prop :=
  (G s ∧ (c.kind.exits = true → s.manager.replicaState.get? c.target = some .draining)) ∧
    Releasing strict s c kind

theorem steady_let (hG : Framed d strict c G) {kind : ReplicaKind} :
    Steady d strict c (Let strict G c kind) :=
  (hG.steady.and ((Steady.manager fun m => m.replicaState.get? c.target = some .draining).imp _)).and
    .releasing

/-- A call to the runtime of a target that is being released. -/
theorem onRetired {α : Type} (hG : Framed d strict c G) {kind : ReplicaKind} {r : Replica}
    (hguard : ∀ s, G s → c.kind.exits = false → Guarded s.gate s.nativeSync c.operationId)
    {f : (Nat → Fault) → Server → Except PyErr α × Server} {Q : α → TaskState → Prop}
    (hQ : ∀ s x a v, Let strict G c kind s →
      s.manager.runtimeInventory.get? c.target = some r → f x (s.world r.rank) = (.ok a, v) →
      Let strict G c kind (s.setServer r.rank v) → Q a (s.setServer r.rank v)) :
    Triple d strict c
      (fun s => Let strict G c kind s ∧ s.manager.runtimeInventory.get? c.target = some r)
      (TaskProg.onServer r f) Q fun _ => Let strict G c kind := by
  have hmove : ∀ {s v}, Let strict G c kind s → Let strict G c kind (s.setServer r.rank v) :=
    fun ⟨⟨hg, hx⟩, hr⟩ =>
      ⟨⟨hG.same _ _ hg rfl rfl, hx⟩, ⟨hr.retired.calls, hr.retired.route, hr.retired.unlisted,
        hr.retired.parked, hr.retired.unparked, hr.retired.gone, hr.retired.fresh⟩, hr.kind,
        hr.state⟩
  refine .onServer ((steady_let hG).and
    (.manager fun m => m.runtimeInventory.get? c.target = some r)) ?_ ?_ ?_ ?_
  · rintro s x hi hc ⟨⟨⟨hg, hx⟩, hr⟩, hrun⟩
    exact hi.setRetired hc.1 hr hrun hx (hguard s hg) _
  · rintro s x a hi hc ⟨hl, hrun⟩ hok
    exact hQ s x a _ hl hrun (Prod.ext hok rfl) (hmove hl)
  · exact fun _ s x _ _ hl => hmove hl.1
  · exact fun _ s _ _ hl => hl.1

/-- The evidence of an earlier release, or a runtime that has just been vacated. -/
def Freed (strict : Prop) (G : TaskState → Prop) (c : OperationCommand) (kind : ReplicaKind)
    (r : OperationEvidence ⊕ List String) (s : TaskState) : Prop :=
  Let strict G c kind s ∧ match r with
    | .inl _ => c.kind.exits = false
    | .inr _ => Vacant s c.target

theorem steady_freed (hG : Framed d strict c G) {kind : ReplicaKind}
    (r : OperationEvidence ⊕ List String) : Steady d strict c (Freed strict G c kind r) := by
  refine (steady_let hG).and ?_
  cases r with
  | inl ev => exact .const _
  | inr gs => exact .vacant

/-- The evidence of an earlier release, or the runtime that is to be vacated. -/
def FoundFor {α : Type} (strict : Prop) (G : TaskState → Prop) (c : OperationCommand)
    (kind : ReplicaKind) (replica : α → Replica) (found : OperationEvidence ⊕ α) (s : TaskState) :
    Prop :=
  Let strict G c kind s ∧ match found with
    | .inl _ => c.kind.exits = false
    | .inr x => s.manager.runtimeInventory.get? c.target = some (replica x)

theorem sleep (hG : Framed d strict c G)
    (hguard : ∀ s, G s → c.kind.exits = false → Guarded s.gate s.nativeSync c.operationId) :
    Triple d strict c (Let strict G c .native) (Rollouter.sleep d c.target c.operationId)
      (Freed strict G c .native) fun _ => Let strict G c .native := by
  refine .bind (Q := FoundFor strict G c .native id)
    (.peek (steady_let hG) (fun s found hi hc hl hf => ⟨hl, ?_⟩) fun _ _ _ _ hl _ => hl)
    fun found => ?_
  · split at hf
    · cases hf
    split at hf
    · rename_i k ev hrec
      split at hf
      · cases hf
      · rename_i hk
        cases hf
        by_contra hx
        rw [Bool.not_eq_false] at hx
        refine hi.not_recorded hc.1 (.inr (hl.1.2 hx)) hx ⟨ev, ?_⟩
        unfold queryReleaseEvidence
        simp only [hl.2.kind, hrec]
        rw [if_neg hk]
    · split at hf
      · cases hf
      split at hf
      · cases hf
      · rename_i r hrun
        cases hf
        exact hrun
  cases found with
  | inl ev => exact .ret fun _ _ _ h => h
  | inr r =>
    refine .bind (Q := fun _ s => Let strict G c .native s ∧
      s.manager.runtimeInventory.get? c.target = some r)
      (onRetired hG hguard fun s x a v hl hrun _ hl' => ⟨hl', hrun⟩) fun placement => ?_
    refine .bind (Q := fun _ s => Let strict G c .native s ∧
      s.manager.runtimeInventory.get? c.target = some r)
      (.require (fun _ _ _ _ h => h) fun _ _ _ _ h => h.1) fun _ => ?_
    refine .bind (Q := fun _ s => Let strict G c .native s ∧ Vacant s c.target)
      (onRetired hG hguard fun s x a v hl hrun hv hl' => ⟨hl', r, hrun, ?_⟩) fun _ => ?_
    · unfold Vacated
      rw [show (s.setServer r.rank v).manager.replicaKind.get? c.target = some .native from hl'.2.kind,
        world_setServer]
      exact Replica.sleep_ok hv
    · exact .ret fun _ _ _ h => h

theorem destroy (hG : Framed d strict c G)
    (hguard : ∀ s, G s → c.kind.exits = false → Guarded s.gate s.nativeSync c.operationId) :
    Triple d strict c (Let strict G c .borrowed) (Rollouter.destroy c.target c.operationId)
      (Freed strict G c .borrowed) fun _ => Let strict G c .borrowed := by
  refine .bind (Q := FoundFor strict G c .borrowed Prod.fst)
    (.peek (steady_let hG) (fun s found hi hc hl hf => ⟨hl, ?_⟩) fun _ _ _ _ hl _ => hl)
    fun found => ?_
  · split at hf
    · cases hf
    split at hf
    · cases hf
    rename_i l rec hrec
    split at hf
    · rename_i ev hev
      split at hf
      · cases hf
      · rename_i ho
        cases hf
        by_contra hx
        rw [Bool.not_eq_false] at hx
        refine hi.not_recorded hc.1 (.inr (hl.1.2 hx)) hx ⟨ev, ?_⟩
        unfold queryReleaseEvidence
        simp only [hl.2.kind, hrec, hev]
        rw [if_neg ho]
    · dsimp only at hf
      split at hf
      · cases hf
      split at hf
      · cases hf
      · rename_i r hrun
        cases hf
        exact hrun
  cases found with
  | inl ev => exact .ret fun _ _ _ h => h
  | inr x =>
    obtain ⟨r, gpu⟩ := x
    refine .bind (Q := fun _ s => Let strict G c .borrowed s ∧ Vacant s c.target)
      (onRetired hG hguard fun s x a v hl hrun hv hl' => ⟨hl', r, hrun, ?_⟩) fun _ => ?_
    · unfold Vacated
      rw [show (s.setServer r.rank v).manager.replicaKind.get? c.target = some .borrowed from
          hl'.2.kind,
        world_setServer]
      exact Replica.cleanupBorrowedRuntime_ok hv
    · exact .ret fun _ _ _ h => h

end Triple

/-! ## Closing the record -/

/-- Where a released record ends. -/
def closedState : ReplicaKind → ReplicaState
  | .native => .dormant
  | .borrowed => .released

theorem transition_closed {m : LLMServerManager} {k : ReplicaKey} {kind : ReplicaKind}
    {ce : CheckpointEngineManager} (hw : Wired m ce) (hk : m.replicaKind.get? k = some kind)
    (hs : Releasable m k) : ∃ cur, m.replicaState.get? k = some cur ∧
      closedState kind ∈ cur.allowed ∧ Enterable kind (closedState kind) := by
  cases kind with
  | native =>
    rcases hs with hs | hs
    · exact ⟨_, hs, by decide, fun h => (by cases h), fun _ => by decide⟩
    · exact ((hw.native_state hk).1 hs).elim
  | borrowed =>
    rcases hs with hs | hs
    · exact ⟨_, hs, by decide, fun _ => by decide, fun h => (by cases h)⟩
    · exact ⟨_, hs, by decide, fun _ => by decide, fun h => (by cases h)⟩

/-- The state after `finalize_release` but for the evidence. -/
def closedTask (s : TaskState) (c : OperationCommand) (kind : ReplicaKind) : TaskState :=
  { clearOperationBinding s c.operationId with
    manager := s.manager.move c.target (closedState kind) }

theorem Inv.close (h : Inv d strict s) (hc : Cur d c s) {kind : ReplicaKind}
    (hr : Releasing strict s c kind)
    (hx : c.kind.exits = true → s.manager.replicaState.get? c.target = some .draining) :
    Inv d strict (closedTask s c kind) := by
  obtain ⟨cur, hs, ha, hv⟩ := transition_closed h.wired hr.kind hr.state
  have hlined : Lined s c := fun hn _ _ => hr.retired.parked hn
  have hclear : Inv d strict (clearOperationBinding s c.operationId) := by
    refine h.unbind (fun hb => ?_) fun c' hc' => ?_
    · rw [Dict.get?_erase] at hb
      split at hb
      · cases hb
      · exact hb
    · obtain rfl := hc.eq hc'
      exact .inr ⟨hlined, .inr hr.retired.calls⟩
  have hmem : strict → s.ce.members c.target = none ∧ s.ce.ready.get? c.target = none :=
    fun hst => ⟨hr.retired.gone (.inl hst), hr.retired.fresh hst⟩
  refine hclear.move (c := c) hc hs hr.kind ha hv hr.retired.calls
    (fun hex => h.not_recorded hc (.inr (hx hex)) hex) ?_ ?_ (fun _ => hr.retired.unlisted)
    ?_ ?_ ?_ ?_ ?_ ?_
  · cases kind <;> intro he <;> cases he
  · cases kind with
    | native => intro he; cases he
    | borrowed => exact fun _ => hr.retired.unparked hr.kind
  · intro x hroute
    replace hroute : s.lb.routes.get? c.target = some x := hroute
    rw [hr.retired.route] at hroute
    cases hroute
  · cases kind with
    | native => exact fun _ => hr.retired.parked hr.kind
    | borrowed => intro he; cases he
  · cases kind <;> intro he <;> cases he
  · cases kind <;> intro he <;> cases he
  · intro _ hb
    rw [show (clearOperationBinding s c.operationId).rollouter.pendingOperationTargets.get?
      c.operationId = none from Dict.get?_erase_self _ _] at hb
    cases hb
  · intro hst
    obtain ⟨hm, hrd⟩ := hmem hst
    refine ⟨fun hm' => ?_, fun r hm' => ?_, fun _ => ⟨hm, hrd⟩⟩
    · replace hm' : (s.ce.members c.target).isSome := hm'
      rw [hm] at hm'; cases hm'
    · replace hm' : s.ce.members c.target = some [r] := hm'
      rw [hm] at hm'; cases hm'

theorem closed_closedTask {kind : ReplicaKind}
    (hr : Releasing strict s c kind) {m : LLMServerManager}
    (hst : m.replicaState = (closedTask s c kind).manager.replicaState)
    (hkind : m.replicaKind = (closedTask s c kind).manager.replicaKind)
    (hrun : m.runtimeInventory = (closedTask s c kind).manager.runtimeInventory)
    (hrec : c.kind.exits = true → Recorded m c.target c.operationId) :
    Closed strict { closedTask s c kind with manager := m } c where
  calls := hr.retired.calls
  state := by
    have hself : m.replicaState.get? c.target = some (closedState kind) := by
      rw [hst]
      exact (get?_move ..).trans (if_pos rfl)
    cases kind with
    | native => exact .inl hself
    | borrowed => exact .inr hself
  parked := by
    intro hn
    replace hn : s.manager.replicaKind.get? c.target = some .native := by rw [← hn, hkind]; rfl
    obtain ⟨r, o, hi, hrest⟩ := hr.retired.parked hn
    have hk : kind = .native := Option.some.inj (hr.kind.symm.trans hn)
    refine ⟨r, o, ?_, hrest⟩
    rw [hrun, show (closedTask s c kind).manager = s.manager.move c.target (closedState kind) from rfl,
      runtime_move_of_ne (by rw [hk]; decide)]
    exact hi
  unparked := by
    intro hb
    exact hr.retired.unparked (by rw [← hb, hkind]; rfl)
  gone := hr.retired.gone
  fresh := hr.retired.fresh
  recorded := hrec

/-- A vacated runtime, its record closed: out of service and physically released. -/
theorem gone_closedTask (h : Inv d strict s) {kind : ReplicaKind}
    (hr : Releasing strict s c kind) (hx : c.kind.exits = true) {r : Replica}
    (hi : s.manager.runtimeInventory.get? c.target = some r)
    (hv : Vacated s.manager c.target (s.world r.rank)) {m : LLMServerManager}
    (hst : m.replicaState = (closedTask s c kind).manager.replicaState)
    (hkind : m.replicaKind = s.manager.replicaKind)
    (hrun : m.runtimeInventory = (closedTask s c kind).manager.runtimeInventory)
    (hlist : m.rolloutReplicas = s.manager.rolloutReplicas)
    (hof : RuntimeOf m c.target r.address r.rank) : Gone m s.ce s.lb s.world c.target where
  closed := by
    have hself : m.replicaState.get? c.target = some (closedState kind) := by
      rw [hst]
      exact (get?_move ..).trans (if_pos rfl)
    cases kind with
    | native => exact .inl hself
    | borrowed => exact .inr hself
  member := hr.retired.gone (.inr hx)
  route := hr.retired.route
  runtime := by
    obtain ⟨hlists, hinj⟩ := hr.retired.unlisted.apart h.wired h.listed hi
    refine ⟨r.address, r.rank, hof, ?_, by rw [hlist]; exact hlists, fun k' r' hi' ha => ?_⟩
    · unfold Vacated
      rw [hkind]
      exact hv
    · rw [hrun, show (closedTask s c kind).manager = s.manager.move c.target (closedState kind)
        from rfl, runtime_move] at hi'
      split at hi'
      · cases hi'
      · exact hinj k' r' hi' ha

theorem NormalSpec.names_iff {n : NormalSpec} {k : ReplicaKey} : n.spec.names k ↔ n.key = k := by
  unfold BorrowedSpec.names NormalSpec.key
  cases k
  simp only [ReplicaKey.mk.injEq]

/-- The record of a borrowed key is found under any rewriting of it. -/
theorem borrowedRecordForKey_setBorrowed {commands : Dict String OperationCommand}
    {m : LLMServerManager} (h : Records m commands) {k : ReplicaKey} {l : String}
    {rec rec' : BorrowedRecord} (hrec : m.borrowedRecordForKey k = .ok (l, rec))
    (hres : rec'.resolved = rec.resolved) :
    (m.setBorrowed l rec').borrowedRecordForKey k = .ok (l, rec') := by
  obtain ⟨hl, hn⟩ := borrowedRecordForKey_eq hrec
  have hget : ∀ j, (m.setBorrowed l rec').borrowedOperations.get? j =
      if l = j then some rec' else m.borrowedOperations.get? j := fun j => Dict.get?_insert _ _ _ _
  have hfilter := Dict.filter_entries_eq (d := (m.setBorrowed l rec').borrowedOperations)
    (p := fun e => e.2.resolved.spec.names k) (k := l) (v := rec') (by rw [hget, if_pos rfl])
    (by simpa [hres] using hn) (by
      intro j x hx hp
      rw [hget] at hx
      split at hx
      · rename_i he
        exact he.symm
      · refine h.unique hx hl ?_
        rw [NormalSpec.names_iff.1 (by simpa using hp), NormalSpec.names_iff.1 hn])
  unfold borrowedRecordForKey
  rw [hfilter]

namespace Triple

theorem closeRelease (hG : Framed d strict c G) {kind : ReplicaKind}
    (released : OperationEvidence ⊕ List String) :
    Triple d strict c (Freed strict G c kind released)
      (TaskProg.call (Rollouter.closeRelease c.target kind c.operationId released))
      (fun ev s => G s ∧ Closed strict s c ∧ ev.operationId = c.operationId ∧ ev.type = .released)
      fun _ => Let strict G c kind := by
  refine .call (steady_freed hG _) ?_
  rintro s o hi hc ⟨hl, hrel⟩ -
  obtain ⟨⟨hg, hx⟩, hr⟩ := hl
  have hclose := hi.close hc.1 hr hx
  obtain ⟨cur, hs, ha, hv⟩ := transition_closed hi.wired hr.kind hr.state
  have hst : (if kind = .native then ReplicaState.dormant else .released) = closedState kind := by
    cases kind <;> rfl
  have hnrec := fun hex => hi.not_recorded hc.1 (.inr (hx hex)) hex
  unfold Rollouter.closeRelease
  rw [hst]
  cases released with
  | inl ev =>
    dsimp only
    cases hreq : requireOperationEvidence ev c.operationId .released "runtime release" with
    | error e => exact .error hi hc ⟨⟨hg, hx⟩, hr⟩
    | ok ev' =>
      obtain ⟨rfl, hop, hty⟩ := requireOperationEvidence_ok hreq
      dsimp only
      rw [transitionReplica_eq hs hr.kind ha hv]
      refine .ok hclose hc ⟨hG.same s _ hg rfl rfl, ?_, hop, hty⟩
      refine closed_closedTask hr (m := (closedTask s c kind).manager) rfl rfl rfl fun hex => ?_
      rw [hrel] at hex; cases hex
  | inr gs =>
    obtain ⟨r, hrun, hvac⟩ := hrel
    dsimp only
    cases hnow : OperationEvidence.now o.now c.operationId .released gs with
    | error e => exact .error hi hc ⟨⟨hg, hx⟩, hr⟩
    | ok ev =>
      obtain ⟨hop, hty, -, -⟩ := OperationEvidence.now_ok hnow
      have hreq : requireOperationEvidence ev c.operationId .released "runtime release" = .ok ev := by
        unfold requireOperationEvidence
        rw [if_neg (not_not.2 hop), if_neg (not_not.2 hty)]; rfl
      cases kind with
      | native =>
        dsimp only
        rw [hreq]
        dsimp only
        have hmove := transitionReplica_eq (m := s.manager.recordSleep c.operationId c.target ev) hs
          hr.kind ha hv
        dsimp only [recordSleep] at hmove
        rw [hmove]
        have hof : RuntimeOf ((closedTask s c .native).manager.recordSleep c.operationId c.target ev)
            c.target r.address r.rank := .inl ⟨hr.kind, r, hrun, rfl, rfl⟩
        refine .ok (hclose.recordSleep hc.1 (fun hex => hnrec hex) fun hex =>
          gone_closedTask hi hr hex hrun hvac rfl rfl rfl rfl hof) hc
          ⟨hG.same s _ hg rfl rfl, ?_, hop, hty⟩
        refine closed_closedTask hr
          (m := (closedTask s c .native).manager.recordSleep c.operationId c.target ev)
          rfl rfl rfl fun _ => ⟨ev, ?_⟩
        unfold queryReleaseEvidence
        rw [show ((closedTask s c .native).manager.recordSleep c.operationId c.target
            ev).replicaKind.get? c.target = some .native from hr.kind,
          show ((closedTask s c .native).manager.recordSleep c.operationId c.target
            ev).nativeReleaseEvidence.get? c.operationId = some (c.target, ev) from
            Dict.get?_insert_self _ _ _]
        simp
      | borrowed =>
        dsimp only
        cases hrec : s.manager.borrowedRecordForKey c.target with
        | error e => exact .error hi hc ⟨⟨hg, hx⟩, hr⟩
        | ok p =>
          obtain ⟨l, rec⟩ := p
          obtain ⟨hl, hn⟩ := borrowedRecordForKey_eq hrec
          dsimp only
          rw [hreq]
          dsimp only
          have hmove := transitionReplica_eq (m := s.manager.setBorrowed l
            { rec with destroyEvidence := some ev }) hs hr.kind ha hv
          dsimp only [LLMServerManager.setBorrowed] at hmove
          rw [hmove]
          have hkey : rec.resolved.key = c.target := NormalSpec.names_iff.1 hn
          have hl' : (closedTask s c .borrowed).manager.borrowedOperations.get? l = some rec := hl
          have hfind : (closedTask s c .borrowed).manager.borrowedRecordForKey c.target =
              .ok (l, rec) := hrec
          have hfound : ((closedTask s c .borrowed).manager.setBorrowed l
              { rec with destroyEvidence := some ev }).borrowedRecordForKey c.target =
              .ok (l, { rec with destroyEvidence := some ev }) :=
            borrowedRecordForKey_setBorrowed hclose.records hfind rfl
          have hof : RuntimeOf ((closedTask s c .borrowed).manager.setBorrowed l
              { rec with destroyEvidence := some ev }) c.target r.address r.rank := by
            obtain ⟨hres, hrank⟩ := hi.records.runtime hl (by rw [hkey]; exact hrun)
            exact .inr ⟨hr.kind, l, _, Dict.get?_insert_self _ _ _, hkey, hres, hrank⟩
          refine .ok (hclose.setBorrowed hc.1 hl' ⟨rfl, rfl⟩ (.inl rfl) (fun ev' hev => ?_)
            (fun hex => hnrec hex) fun hex _ =>
              gone_closedTask hi hr hex hrun hvac rfl rfl rfl rfl hof) hc
            ⟨hG.same s _ hg rfl rfl, ?_, hop, hty⟩
          · cases hev
            exact ⟨c, by rw [hop]; exact (hi.cur_command hc.1).1⟩
          refine closed_closedTask hr (m := (closedTask s c .borrowed).manager.setBorrowed l
            { rec with destroyEvidence := some ev }) rfl rfl rfl fun _ => ⟨ev, ?_⟩
          unfold queryReleaseEvidence
          rw [show ((closedTask s c .borrowed).manager.setBorrowed l
            { rec with destroyEvidence := some ev }).replicaKind.get? c.target = some .borrowed
            from hr.kind, hfound]
          simp [hop]

theorem finalizeRelease (hG : Framed d strict c G)
    (hguard : ∀ s, G s → c.kind.exits = false → Guarded s.gate s.nativeSync c.operationId) :
    Triple d strict c (fun s => G s ∧ (Releasable s.manager c.target → Retired strict s c))
      (Rollouter.finalizeRelease d c.operationId)
      (fun ev s => G s ∧ Closed strict s c ∧ ev.operationId = c.operationId ∧ ev.type = .released)
      fun _ s => G s ∧ Lined s c := by
  have hpre : Steady d strict c fun s =>
      G s ∧ (Releasable s.manager c.target → Retired strict s c) :=
    hG.steady.and (.when_manager (fun m => Releasable m c.target) .retired)
  have hlined : ∀ {s}, (Releasable s.manager c.target → Retired strict s c) → Lined s c :=
    fun h hn hk _ => (h (.inl hk)).parked hn
  refine .bind (Q := fun p s => p.1 = c.target ∧ Let strict G c p.2.1 s)
    (.peek hpre (fun s p hi hc hs hp => ?_) fun s e _ _ hs _ => ⟨hs.1, hlined hs.2⟩) ?_
  · obtain ⟨k, hb, hp⟩ := except_bind_ok.1 hp
    obtain ⟨⟨kind, st⟩, hm, hp⟩ := except_bind_ok.1 hp
    have hbound := getPendingTarget_eq hb
    obtain rfl := hi.bound hc.1 hbound
    obtain ⟨hkind, hstate⟩ := replicaMeta_ok.1 hm
    dsimp only at hp hkind hstate
    split at hp
    · cases hp
    rename_i hcond
    cases hp
    have hrel : Releasable s.manager c.target := by
      rcases not_and_or.1 hcond with hcond | hcond
      · exact .inr (by rw [hstate, (not_not.1 hcond).2])
      · exact .inl (by rw [hstate, not_not.1 hcond])
    exact ⟨rfl, ⟨hs.1, hi.releasable_exits hc.1 hbound hrel⟩, hs.2 hrel, hkind, hrel⟩
  rintro ⟨target, kind, st⟩
  refine .of_imp ?_
  rintro rfl
  refine .tryCatch (E := fun _ => Let strict G c kind) ?_ fun e => ?_
  · cases kind with
    | native => exact .bind (sleep hG hguard) (closeRelease hG)
    | borrowed => exact .bind (destroy hG hguard) (closeRelease hG)
  · refine .bind (Q := fun _ s => G s ∧ Lined s c) (.call (steady_let hG) ?_) fun _ =>
      .raise fun _ _ _ h => h
    rintro s o hi hc ⟨⟨hg, hx⟩, hr⟩ -
    obtain ⟨cur, hs, ha⟩ : ∃ cur, s.manager.replicaState.get? c.target = some cur ∧
        .quarantined ∈ cur.allowed := by
      rcases hr.state with hs | hs
      · exact ⟨_, hs, by decide⟩
      · exact ⟨_, hs, by decide⟩
    obtain ⟨htr, hi'⟩ := hi.quarantine hc.1 hs ha hr.retired.calls
      (fun hex => hi.not_recorded hc.1 (.inr (hx hex)) hex) hr.retired.route fun hst hm => by
        rw [hr.retired.gone (.inl hst)] at hm; cases hm
    dsimp only
    rw [if_pos hr.state.symm]
    unfold onManager
    dsimp only
    rw [htr]
    refine .ok hi' hc ⟨hG.same s _ hg rfl rfl, fun _ hk => ?_⟩
    replace hk : (s.manager.move c.target .quarantined).replicaState.get? c.target =
      some .draining := hk
    rw [get?_move, if_pos rfl] at hk
    cases hk

end Triple

end ReplicaLending
