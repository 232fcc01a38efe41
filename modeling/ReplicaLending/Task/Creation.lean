import ReplicaLending.Task.Exit
/-!
# Creating a borrowed runtime

`prepare_replica`. An ADD registers its target with the Manager (`Reserved`), launches a runtime on a
rank nobody has, and enters it into the inventory; a failure closes the record again. A RESTORE only
binds its target. A publishing operation that does not hold the gate leaves nothing that needs it.
-/

namespace ReplicaLending

open TaskState TaskProg Rollouter LLMServerManager CheckpointEngineManager

variable {d : Deployment} {strict : Prop} {c : OperationCommand} {s : TaskState}

/-! ## A target at rest -/

theorem Inv.clear (h : Inv d strict s) (hc : Cur d c s) (hx : c.kind.exits = false)
    (hg : ¬ Guarded s.gate s.nativeSync c.operationId) : Clear strict s c where
  dormant := by
    intro _ hk
    rcases h.parking.dormant hk with hp | ⟨c', hc', -, -, hgu⟩
    · exact hp
    · obtain rfl := hc.eq hc'
      exact (hg hgu).elim
  hidden := by
    intro _ hb
    by_contra hp
    obtain ⟨c', hc', -, -, hgu⟩ := h.parking.hidden hb (Option.isSome_iff_ne_none.2 hp)
    obtain rfl := hc.eq hc'
    exact hg hgu
  calls := by
    by_contra hne
    obtain ⟨c', hc', -, hrest⟩ := h.inFlight hne
    obtain rfl := hc.eq hc'
    rw [if_neg (by simp [hx])] at hrest
    exact hg hrest.2
  state := fun hs hm => ((h.serving hs).state hm).resolve_right fun hw => hg (hw.eq hc).2.2
  built := fun hs hk r hi => ((h.serving hs).built hk hi).resolve_right fun hw => hg (hw.eq hc).2.2
  receipt := fun hs hr => ((h.serving hs).receipt hr).resolve_right fun hw => hg (hw.eq hc).2.2
  leaving := fun hs hst hk => hg ((h.serving hs).leaving hc hx hst hk)

/-- A key that is not registered is nowhere. -/
theorem Wired.unregistered {m : LLMServerManager} {ce : CheckpointEngineManager} (h : Wired m ce)
    {k : ReplicaKey} (hs : m.replicaState.get? k = none) :
    m.replicaKind.get? k = none ∧ m.runtimeInventory.get? k = none ∧ ce.members k = none ∧
      ce.pending.get? k = none := by
  have hi : m.runtimeInventory.get? k = none := by
    refine Option.eq_none_iff_forall_ne_some.2 fun r hr => ?_
    have := h.registered hr
    rw [hs] at this; cases this
  refine ⟨?_, hi, ?_, ?_⟩
  · have := h.kind_state k
    rw [hs] at this
    simpa using this
  · refine Option.eq_none_iff_forall_ne_some.2 fun rs hm => ?_
    obtain ⟨r, -, hr | hr⟩ := h.member hm
    · rw [hi] at hr; cases hr
    · rw [hs] at hr; cases hr
  · refine Option.eq_none_iff_forall_ne_some.2 fun e hp => ?_
    obtain ⟨rs, o⟩ := e
    obtain ⟨r, -, hr⟩ := h.pending hp
    rw [hi] at hr; cases hr

/-- An ADD whose target is not registered, or released, has nothing to clean up. -/
theorem Inv.clear_of_released (h : Inv d strict s) (hc : Cur d c s) (hadd : c.kind = .add)
    (hs : s.manager.replicaState.get? c.target = none ∨
      s.manager.replicaState.get? c.target = some .released) :
    Lined s c ∧ Clear strict s c := by
  have hne : ∀ {st : ReplicaState}, st ≠ .released →
      s.manager.replicaState.get? c.target ≠ some st := by
    intro st hst he
    rcases hs with hs | hs <;> rw [hs] at he <;> cases he
    exact hst rfl
  have hpend : s.ce.pending.get? c.target = none := by
    rcases hs with hs | hs
    · exact (h.wired.unregistered hs).2.2.2
    · refine Option.eq_none_iff_forall_ne_some.2 fun e hp => ?_
      obtain ⟨rs, o⟩ := e
      obtain ⟨r, -, hr⟩ := h.wired.pending hp
      rw [h.wired.released_gone hs] at hr; cases hr
  have hgone : strict → s.ce.members c.target = none ∧ s.ce.ready.get? c.target = none := by
    intro hst
    rcases hs with hs | hs
    · obtain ⟨hk, -, hm, -⟩ := h.wired.unregistered hs
      refine ⟨hm, Option.eq_none_iff_forall_ne_some.2 fun e he => ?_⟩
      have := (h.serving hst).known (by rw [he]; rfl)
      rw [hk] at this; cases this
    · exact (h.serving hst).gone hs
  refine ⟨fun _ hk => (hne (by decide) hk).elim, fun hr => ?_, fun _ _ => hpend, ?_,
    fun hst hm => ?_, fun _ hk => (hne (by decide) hk).elim, fun hst hr => ?_,
    fun _ _ => hne (by decide)⟩
  · rw [hadd] at hr; cases hr
  · refine h.no_calls hc (fun hin => ?_) fun hx => ?_
    · rcases hin with hin | hin
      · exact hne (by decide) hin
      · exact hne (by decide) hin
    · rw [hadd] at hx; cases hx
  · rw [(hgone hst).1] at hm; cases hm
  · rw [(hgone hst).2] at hr; cases hr

/-- The target of an ADD that has a record is borrowed. -/
theorem Inv.borrowed_of_started (h : Inv d strict s) (hc : Cur d c s) (hadd : c.kind = .add)
    (hst : Started s.manager s.rollouter c) :
    s.manager.replicaKind.get? c.target = some .borrowed := by
  unfold Started at hst
  rw [hadd] at hst
  obtain ⟨l, rec, hr, ho⟩ := hst
  obtain ⟨c', hc', -, hk⟩ := h.records.command hr
  rw [ho, (h.cur_command hc).1] at hc'
  cases hc'
  rw [hk]
  exact h.records.borrowed hr

/-! ## The record -/

/-- The placement spec of the operation. -/
structure SpecOf (c : OperationCommand) (n : NormalSpec) : Prop where
  operation : n.spec.operationId = c.operationId
  key : n.key = c.target

theorem validateBorrowedSpec_ok {now : Nat} {spec : BorrowedSpec} {n : NormalSpec}
    (h : validateBorrowedSpec d now spec = .ok n) :
    n.spec.operationId = spec.operationId ∧ n.spec.borrowerTaskId = spec.borrowerTaskId ∧
      n.spec.borrowerReplicaId = spec.borrowerReplicaId ∧
      n.spec.placementEpoch = spec.placementEpoch := by
  unfold validateBorrowedSpec at h
  iterate 8 (split at h; · cases h)
  split at h
  · cases h
  split at h
  · cases h
  dsimp only at h
  split at h
  · cases h
  · cases h
    exact ⟨rfl, rfl, rfl, rfl⟩

/-- The key is registered, the record opened, a rank taken. -/
def LLMServerManager.reserve (m : LLMServerManager) (n : NormalSpec) : LLMServerManager :=
  { m with
    nextReplicaRank := m.nextReplicaRank + 1
    replicaKind := m.replicaKind.insert n.key .borrowed
    replicaState := m.replicaState.insert n.key .creating
    borrowedOperations := m.borrowedOperations.insert n.spec.leaseId
      ⟨n, m.nextReplicaRank, none, none, none⟩ }

theorem LLMServerManager.register_creating {m : LLMServerManager} {k : ReplicaKey}
    (h : ¬ m.replicaState.contains k = true) : m.registerReplica k .borrowed .creating none =
      .ok { m with
        replicaKind := m.replicaKind.insert k .borrowed
        replicaState := m.replicaState.insert k .creating } := by
  unfold registerReplica
  rw [if_neg h]
  rfl

/-- What holds of a target while its runtime is being made. -/
structure Reserved (strict : Prop) (s : TaskState) (c : OperationCommand) (n : NormalSpec)
    (rank : Nat) : Prop where
  spec : SpecOf c n
  record : s.manager.borrowedOperations.get? n.spec.leaseId = some ⟨n, rank, none, none, none⟩
  state : s.manager.replicaState.get? c.target = some .creating
  kind : s.manager.replicaKind.get? c.target = some .borrowed
  runtime : s.manager.runtimeInventory.get? c.target = none
  rank_free : ∀ k r, Holds s.manager s.ce k r → r.rank ≠ rank
  rank_lt : rank < s.manager.nextReplicaRank
  member : s.ce.members c.target = none
  pending : s.ce.pending.get? c.target = none
  fresh : strict → s.ce.ready.get? c.target = none

theorem Steady.reserved {n : NormalSpec} {rank : Nat} :
    Steady d strict c fun s => Reserved strict s c n rank := by
  intro s t _ h hr _
  constructor
  case spec => exact h.spec
  case record => rw [hr.manager]; exact h.record
  case state => rw [hr.manager]; exact h.state
  case kind => rw [hr.manager]; exact h.kind
  case runtime => rw [hr.manager]; exact h.runtime
  case rank_free =>
    intro k r hk
    unfold Holds at hk
    rw [hr.manager, hr.members, hr.pending] at hk
    exact h.rank_free k r hk
  case rank_lt => rw [hr.manager]; exact h.rank_lt
  case member => rw [hr.members]; exact h.member
  case pending => rw [hr.pending]; exact h.pending
  case fresh => rw [hr.ready]; exact h.fresh

theorem Inv.reserve (h : Inv d strict s) (hc : Cur d c s) (hadd : c.kind = .add) {n : NormalSpec}
    (hn : SpecOf c n) (hnew : s.manager.replicaState.get? c.target = none) :
    Inv d strict { s with manager := s.manager.reserve n } ∧
      Reserved strict { s with manager := s.manager.reserve n } c n s.manager.nextReplicaRank := by
  obtain ⟨hkind, hrun, hmem, hpend⟩ := h.wired.unregistered hnew
  have hstate : ∀ j, (s.manager.reserve n).replicaState.get? j =
      if c.target = j then some .creating else s.manager.replicaState.get? j := by
    intro j
    rw [← hn.key]
    exact Dict.get?_insert _ _ _ _
  have hkinds : ∀ j, (s.manager.reserve n).replicaKind.get? j =
      if c.target = j then some .borrowed else s.manager.replicaKind.get? j := by
    intro j
    rw [← hn.key]
    exact Dict.get?_insert _ _ _ _
  have hrec : ∀ {l rec}, (s.manager.reserve n).borrowedOperations.get? l = some rec →
      (n.spec.leaseId = l ∧ rec = ⟨n, s.manager.nextReplicaRank, none, none, none⟩) ∨
        s.manager.borrowedOperations.get? l = some rec := by
    intro l rec hr
    rw [show (s.manager.reserve n).borrowedOperations.get? l = _ from Dict.get?_insert _ _ _ _] at hr
    split at hr
    · cases hr; exact .inl ⟨‹_›, rfl⟩
    · exact .inr hr
  -- Whatever has a runtime, a state or a record is another key.
  have hother : ∀ {j st}, s.manager.replicaState.get? j = some st →
      (s.manager.reserve n).replicaState.get? j = some st := by
    intro j st hj
    rw [hstate, if_neg]
    · exact hj
    · rintro rfl; rw [hnew] at hj; cases hj
  have hback : ∀ {j st}, (s.manager.reserve n).replicaState.get? j = some st → st ≠ .creating →
      s.manager.replicaState.get? j = some st := by
    intro j st hj hst
    rw [hstate] at hj
    split at hj
    · cases hj; exact (hst rfl).elim
    · exact hj
  have hbackKind : ∀ {j kind}, (s.manager.reserve n).replicaKind.get? j = some kind →
      c.target = j ∨ s.manager.replicaKind.get? j = some kind := by
    intro j kind hj
    rw [hkinds] at hj
    split at hj
    · exact .inl ‹_›
    · exact .inr hj
  have hunready : strict → s.ce.ready.get? c.target = none := by
    intro hst
    refine Option.eq_none_iff_forall_ne_some.2 fun e he => ?_
    have := (h.serving hst).known (by rw [he]; rfl)
    rw [hkind] at this; cases this
  have hunstarted : ¬ Started s.manager s.rollouter c := fun hst => by
    rw [h.borrowed_of_started hc hadd hst] at hkind; cases hkind
  have hnx : c.kind.exits = false := by rw [hadd]; rfl
  have hcur : ∀ {c'}, s.journal.current d.taskSession = some c' → c = c' :=
    fun h' => Option.some.inj (hc.symm.trans h')
  have hin : ∀ {j}, InService (s.manager.reserve n) j ↔ InService s.manager j := by
    intro j
    unfold InService
    exact ⟨fun hj => hj.imp (hback · (by decide)) (hback · (by decide)), fun hj => hj.imp hother hother⟩
  have hw : Wired (s.manager.reserve n) s.ce := by
    constructor
    case holds_inj => exact h.wired.holds_inj
    case rank_lt => exact fun hk => Nat.lt_succ_of_lt (h.wired.rank_lt hk)
    case address_inj => exact h.wired.address_inj
    case runtime_kind =>
      intro k r hk
      rw [hkinds, if_neg]
      · exact h.wired.runtime_kind hk
      · rintro rfl; rw [show s.manager.runtimeInventory.get? c.target = some r from hk] at hrun
        cases hrun
    case kind_state =>
      intro k
      rw [hkinds, hstate]
      split
      · rfl
      · exact h.wired.kind_state k
    case native_state =>
      intro k hk
      have hne : c.target ≠ k := by
        rintro rfl
        rw [hkinds, if_pos rfl] at hk; cases hk
      rw [hkinds, if_neg hne] at hk
      rw [hstate, if_neg hne]
      exact h.wired.native_state hk
    case borrowed_state =>
      intro k hk hd
      rcases hbackKind hk with rfl | hk
      · rw [hstate, if_pos rfl] at hd; cases hd
      · exact h.wired.borrowed_state hk (hback hd (by decide))
    case active_member => exact fun hk => h.wired.active_member (hback hk (by decide))
    case member =>
      intro k rs hk
      obtain ⟨r, hr, hi | hs⟩ := h.wired.member hk
      · exact ⟨r, hr, .inl hi⟩
      · exact ⟨r, hr, .inr (hother hs)⟩
    case pending => exact h.wired.pending
    case disjoint => exact h.wired.disjoint
    case receivers => exact h.wired.receivers
    case released_gone => exact fun hk => h.wired.released_gone (hback hk (by decide))
  refine ⟨?_, ⟨hn, Dict.get?_insert_self _ _ _, by rw [hstate, if_pos rfl],
    by rw [hkinds, if_pos rfl], hrun, fun k r hk => (h.wired.rank_lt hk).ne, Nat.lt_succ_self _,
    hmem, hpend, hunready⟩⟩
  exact { h with
    wired := hw
    listed := by
      refine ⟨h.listed.nodup, h.listed.addresses, h.listed.handles, h.listed.owned,
        fun {k r} hk hi => ?_, fun hk => h.listed.active (hback hk (by decide)),
        fun hk => h.listed.dormant (hback hk (by decide))⟩
      replace hi : s.manager.runtimeInventory.get? k = some r := hi
      rw [hstate] at hk
      split at hk
      · rename_i he
        rw [← he, hrun] at hi; cases hi
      · exact h.listed.creating hk hi
    routed := { h.routed with
      route := by
        intro k x hk
        obtain ⟨r, hi, hx, hs⟩ := h.routed.route hk
        exact ⟨r, hi, hx, hs.imp hother hother⟩ }
    parking := by
      refine ⟨fun hk => h.parking.dormant (hback hk (by decide)), fun {k} hk hs hm => ?_,
        fun {k} hk hp => ?_⟩
      · rcases hbackKind hk with rfl | hk
        · rw [hstate, if_pos rfl] at hs; cases hs
        · exact h.parking.draining hk (hback hs (by decide)) hm
      · rcases hbackKind hk with rfl | hk
        · rw [hpend] at hp; cases hp
        · exact h.parking.hidden hk hp
    publishing := by
      intro c' hc' _ _
      obtain rfl := hcur hc'
      refine ⟨fun {x} hx => ?_, fun hd => ?_⟩
      · obtain ⟨r, hi, -⟩ := h.routed.route hx
        rw [hrun] at hi; cases hi
      · rw [hstate, if_pos rfl] at hd; cases hd
    inFlight := by
      intro hne
      obtain ⟨c', hc', -, hrest⟩ := h.inFlight hne
      obtain rfl := hcur hc'
      rw [if_neg (by simp [hnx])] at hrest
      exact (hunstarted hrest.1).elim
    bindings := by
      refine ⟨h.bindings.target, fun hc' hx => ?_⟩
      obtain rfl := hcur hc'
      rw [hnx] at hx; cases hx
    records := by
      constructor
      case command =>
        intro l rec hr
        rcases hrec hr with ⟨-, rfl⟩ | hr
        · exact ⟨c, by rw [hn.operation]; exact (h.cur_command hc).1, hadd, hn.key.symm⟩
        · exact h.records.command hr
      case borrowed =>
        intro l rec hr
        rcases hrec hr with ⟨-, rfl⟩ | hr
        · rw [hn.key, hkinds, if_pos rfl]
        · have hb := h.records.borrowed hr
          rw [hkinds, if_neg]
          · exact hb
          · intro he; rw [← he, hkind] at hb; cases hb
      case unique =>
        intro l l' rec rec' hr hr' he
        rcases hrec hr with ⟨rfl, rfl⟩ | hr <;> rcases hrec hr' with ⟨rfl, rfl⟩ | hr'
        · rfl
        · have hb := h.records.borrowed hr'
          rw [← he, hn.key, hkind] at hb; cases hb
        · have hb := h.records.borrowed hr
          rw [he, hn.key, hkind] at hb; cases hb
        · exact h.records.unique hr hr' he
      case runtime =>
        intro l rec r hr hi
        rcases hrec hr with ⟨-, rfl⟩ | hr
        · rw [hn.key, show (s.manager.reserve n).runtimeInventory = s.manager.runtimeInventory from rfl,
            hrun] at hi
          cases hi
        · exact h.records.runtime hr hi
      case rank_lt =>
        intro l rec hr
        rcases hrec hr with ⟨-, rfl⟩ | hr
        · exact Nat.lt_succ_self _
        · exact Nat.lt_succ_of_lt (h.records.rank_lt hr)
      case rank_inj =>
        intro l l' rec rec' hr hr' he
        rcases hrec hr with ⟨rfl, rfl⟩ | hr <;> rcases hrec hr' with ⟨rfl, rfl⟩ | hr'
        · rfl
        · exact ((h.records.rank_lt hr').ne he.symm).elim
        · exact ((h.records.rank_lt hr).ne he).elim
        · exact h.records.rank_inj hr hr' he
      case owner =>
        intro l rec k r hr hi he
        rcases hrec hr with ⟨-, rfl⟩ | hr
        · exact ((h.wired.rank_lt (.inl hi)).ne he).elim
        · exact h.records.owner hr hi he
      case native => exact h.records.native
      case destroyed =>
        intro l rec ev hr hd
        rcases hrec hr with ⟨-, rfl⟩ | hr
        · cases hd
        · exact h.records.destroyed hr hd
    reported := by
      refine ⟨fun hm => ?_, fun hc' hx => ?_⟩
      · obtain ⟨c', hc', hexit⟩ := h.reported.outbox hm
        refine ⟨c', hc', fun hx => ?_⟩
        obtain rfl := hcur (hexit hx).1
        rw [hnx] at hx; cases hx
      · obtain rfl := hcur hc'
        rw [hnx] at hx; cases hx
    serving := by
      intro hst
      have hv := h.serving hst
      constructor
      case state => exact fun hk => (hv.state hk).imp_left hin.2
      case awake =>
        intro k r hm hk
        refine hv.awake hm (hk.imp hin.1 fun hcr => ?_)
        rw [hstate] at hcr
        split at hcr
        · rename_i he
          rw [← he, hmem] at hm; cases hm
        · exact hcr
      case built =>
        intro k r hk hi
        rw [hstate] at hk
        split at hk
        · rename_i he
          rw [← he, show (s.manager.reserve n).runtimeInventory = s.manager.runtimeInventory from rfl,
            hrun] at hi
          cases hi
        · exact hv.built hk hi
      case receipt => exact hv.receipt
      case known =>
        intro k hk
        rw [hkinds]
        split
        · rfl
        · exact hv.known hk
      case leaving =>
        intro c' hc' _ _ hk
        obtain rfl := hcur hc'
        rw [hstate, if_pos rfl] at hk; cases hk
      case gone => exact fun hk => hv.gone (hback hk (by decide)) }

/-- A runtime of a rank nobody has. -/
theorem Inv.setReserved (h : Inv d strict s) (hc : Cur d c s) (hadd : c.kind = .add)
    {n : NormalSpec} {r : Replica} (hr : Reserved strict s c n r.rank) (v : Server) :
    Inv d strict (s.setServer r.rank v) := by
  refine h.setWorld hc (fun hx => by rw [hadd] at hx; cases hx) fun hst => ?_
  refine Serving.setServer (c := c) h hst (.inr hr.rank_free) (fun hm => ?_) fun _ hi => ?_
  · rw [hr.member] at hm; cases hm
  · rw [hr.runtime] at hi; cases hi

/-- The runtime enters the inventory. -/
def LLMServerManager.enter (m : LLMServerManager) (k : ReplicaKey) (r : Replica) :
    LLMServerManager := { m with runtimeInventory := m.runtimeInventory.insert k r }

theorem Inv.enter (h : Inv d strict s) (hc : Cur d c s) (hadd : c.kind = .add) {n : NormalSpec}
    {r : Replica} (hr : Reserved strict s c n r.rank) (hkind : r.kind = .borrowed)
    (haddress : ∀ k r', s.manager.runtimeInventory.get? k = some r' → r'.address ≠ r.address)
    (hweights : strict → (s.world r.rank).weights = true) :
    Inv d strict { s with manager := (s.manager.setBorrowed n.spec.leaseId
      ⟨n, r.rank, none, some r.address, none⟩).enter n.key r } := by
  have hnx : c.kind.exits = false := by rw [hadd]; rfl
  have hex : ¬ c.kind.exits = true := by simp [hnx]
  have hnone : s.manager.runtimeInventory.get? n.key = none := by rw [hr.spec.key]; exact hr.runtime
  have hset := h.setBorrowed hc hr.record
    (show Rewrites _ ⟨n, r.rank, none, some r.address, none⟩ from ⟨rfl, rfl⟩) (.inr hnone)
    (fun ev he => by cases he) (fun hx => (hex hx).elim) fun hx => (hex hx).elim
  generalize hm : s.manager.setBorrowed n.spec.leaseId ⟨n, r.rank, none, some r.address, none⟩ = m
    at hset ⊢
  have hinv : m.runtimeInventory = s.manager.runtimeInventory := by rw [← hm]; rfl
  have hst : m.replicaState = s.manager.replicaState := by rw [← hm]; rfl
  have hkd : m.replicaKind = s.manager.replicaKind := by rw [← hm]; rfl
  have hcases : ∀ {k r'}, (m.enter n.key r).runtimeInventory.get? k = some r' →
      (k = c.target ∧ r' = r) ∨ m.runtimeInventory.get? k = some r' := by
    intro k r' hk
    rw [show (m.enter n.key r).runtimeInventory.get? k = _ from Dict.get?_insert _ _ _ _] at hk
    split at hk
    · rename_i he
      cases hk
      exact .inl ⟨by rw [← he, hr.spec.key], rfl⟩
    · exact .inr hk
  have hkeep : ∀ {k r'}, m.runtimeInventory.get? k = some r' →
      (m.enter n.key r).runtimeInventory.get? k = some r' := by
    intro k r' hk
    rw [show (m.enter n.key r).runtimeInventory.get? k = _ from Dict.get?_insert _ _ _ _, if_neg]
    · exact hk
    · rintro rfl
      rw [hinv, hnone] at hk; cases hk
  have hself : (m.enter n.key r).runtimeInventory.get? c.target = some r := by
    rw [← hr.spec.key]
    exact Dict.get?_insert_self _ _ _
  have hcreating : m.replicaState.get? c.target = some .creating := by rw [hst]; exact hr.state
  have hholds : ∀ {k r'}, Holds (m.enter n.key r) s.ce k r' →
      (k = c.target ∧ r' = r) ∨ Holds m s.ce k r' := by
    rintro k r' (hk | hk)
    · exact (hcases hk).imp_right .inl
    · exact .inr (.inr hk)
  have hfree : ∀ {k r'}, Holds m s.ce k r' → r'.rank ≠ r.rank := by
    rintro k r' hk
    refine hr.rank_free k r' ?_
    rw [← hm] at hk
    exact hk
  have hpark : ∀ {k}, Parked m s.ce k → Parked (m.enter n.key r) s.ce k := by
    rintro k ⟨r', o, hi, hrest⟩
    exact ⟨r', o, hkeep hi, hrest⟩
  have hcur : ∀ {c'}, s.journal.current d.taskSession = some c' → c = c' :=
    fun h' => Option.some.inj (hc.symm.trans h')
  exact { hset with
    wired := by
      constructor
      case holds_inj =>
        intro k k' r₁ r₂ h₁ h₂ he
        rcases hholds h₁ with ⟨rfl, hr₁⟩ | hk₁ <;> rcases hholds h₂ with ⟨rfl, hr₂⟩ | hk₂
        · exact ⟨rfl, hr₁.trans hr₂.symm⟩
        · exact (hfree hk₂ (by rw [← he, hr₁])).elim
        · exact (hfree hk₁ (by rw [he, hr₂])).elim
        · exact hset.wired.holds_inj hk₁ hk₂ he
      case rank_lt =>
        intro k r' hk
        rcases hholds hk with ⟨rfl, rfl⟩ | hk
        · have := hr.rank_lt
          rw [← hm]
          exact this
        · exact hset.wired.rank_lt hk
      case address_inj =>
        intro k k' r₁ r₂ h₁ h₂ he
        rcases hcases h₁ with ⟨rfl, hr₁⟩ | hk₁ <;> rcases hcases h₂ with ⟨rfl, hr₂⟩ | hk₂
        · rfl
        · rw [hinv] at hk₂
          exact (haddress _ _ hk₂ (by rw [← he, hr₁])).elim
        · rw [hinv] at hk₁
          exact (haddress _ _ hk₁ (by rw [he, hr₂])).elim
        · exact hset.wired.address_inj hk₁ hk₂ he
      case runtime_kind =>
        intro k r' hk
        rcases hcases hk with ⟨rfl, rfl⟩ | hk
        · rw [hkind]
          show m.replicaKind.get? c.target = _
          rw [hkd]; exact hr.kind
        · exact hset.wired.runtime_kind hk
      case kind_state => exact hset.wired.kind_state
      case native_state =>
        intro k hk
        obtain ⟨h₁, h₂, h₃⟩ := hset.wired.native_state hk
        obtain ⟨r', hr'⟩ := Option.isSome_iff_exists.1 h₃
        exact ⟨h₁, h₂, by rw [hkeep hr']; rfl⟩
      case borrowed_state => exact hset.wired.borrowed_state
      case active_member => exact hset.wired.active_member
      case member =>
        intro k rs hk
        obtain ⟨r', hr', hi⟩ := hset.wired.member hk
        exact ⟨r', hr', hi.imp_left hkeep⟩
      case pending =>
        intro k rs o hk
        obtain ⟨r', hr', hi⟩ := hset.wired.pending hk
        exact ⟨r', hr', hkeep hi⟩
      case disjoint => exact hset.wired.disjoint
      case receivers => exact hset.wired.receivers
      case released_gone =>
        intro k hk
        refine Option.eq_none_iff_forall_ne_some.2 fun r' hi => ?_
        rcases hcases hi with ⟨rfl, -⟩ | hi
        · rw [show m.replicaState.get? c.target = some .released from hk] at hcreating
          cases hcreating
        · rw [hset.wired.released_gone hk] at hi; cases hi
    listed := by
      have hnew : ∀ {k st}, m.replicaState.get? k = some st → st ≠ .creating → c.target ≠ k := by
        rintro k st hk hne rfl
        rw [hcreating] at hk
        exact hne (Option.some.inj hk).symm
      refine ⟨hset.listed.nodup, hset.listed.addresses, hset.listed.handles, fun hm' => ?_,
        fun {k r'} hk hi => ?_, fun {k r'} hk hi => ?_, fun {k r'} hk hi => ?_⟩
      · obtain ⟨k, hk⟩ := hset.listed.owned hm'
        exact ⟨k, hkeep hk⟩
      · rcases hcases hi with ⟨rfl, rfl⟩ | hi
        · intro hm'
          obtain ⟨k, hk⟩ := hset.listed.owned hm'
          exact hfree (.inl hk) rfl
        · exact hset.listed.creating hk hi
      · rcases hcases hi with ⟨he, -⟩ | hi
        · exact (hnew hk (by decide) he.symm).elim
        · exact hset.listed.active hk hi
      · rcases hcases hi with ⟨he, -⟩ | hi
        · exact (hnew hk (by decide) he.symm).elim
        · exact hset.listed.dormant hk hi
    routed := { hset.routed with
      route := by
        intro k x hk
        obtain ⟨r', hi, hrest⟩ := hset.routed.route hk
        exact ⟨r', hkeep hi, hrest⟩ }
    parking := ⟨fun hk => (hset.parking.dormant hk).imp_left hpark,
      fun hk hs hm' => (hset.parking.draining hk hs hm').imp_left hpark, hset.parking.hidden⟩
    publishing := by
      intro c' hc' hx hst'
      obtain rfl := hcur hc'
      refine ⟨(hset.publishing hc' hx hst').route, fun hd => ?_⟩
      rw [show m.replicaState.get? c.target = some .draining from hd] at hcreating
      cases hcreating
    inFlight := by
      intro hne
      obtain ⟨c', hc', hcalls, hrest⟩ := hset.inFlight hne
      refine ⟨c', hc', fun call hm' => ?_, hrest⟩
      have hcall := hcalls call hm'
      cases call with
      | commitReady =>
        obtain ⟨h₁, h₂, h₃, h₄, r', hi, hx⟩ := hcall
        exact ⟨h₁, h₂, h₃, h₄, r', hkeep hi, hx⟩
      | beginDrain => exact hcall
      | finishRemove => exact hcall
    bindings := ⟨hset.bindings.target, hset.bindings.exit⟩
    records := { hset.records with
      runtime := by
        intro l rec r' hl hi
        rcases hcases hi with ⟨hk, rfl⟩ | hi
        · have hget : m.borrowedOperations.get? n.spec.leaseId =
              some ⟨n, r'.rank, none, some r'.address, none⟩ := by
            rw [← hm]; exact Dict.get?_insert_self _ _ _
          have hle := hset.records.unique hl hget (hk.trans hr.spec.key.symm)
          replace hl : m.borrowedOperations.get? l = some rec := hl
          rw [hle, hget] at hl
          cases hl
          exact ⟨rfl, rfl⟩
        · exact hset.records.runtime hl hi
      owner := by
        intro l rec k r' hl hi he
        rcases hcases hi with ⟨hk, rfl⟩ | hi
        · have hget : m.borrowedOperations.get? n.spec.leaseId =
              some ⟨n, r'.rank, none, some r'.address, none⟩ := by
            rw [← hm]; exact Dict.get?_insert_self _ _ _
          have hle := hset.records.rank_inj hl hget he.symm
          replace hl : m.borrowedOperations.get? l = some rec := hl
          rw [hle, hget] at hl
          cases hl
          exact hk.trans hr.spec.key.symm
        · exact hset.records.owner hl hi he }
    reported := by
      refine ⟨fun hm' => ?_, fun hc' hx => ?_⟩
      · obtain ⟨c', hc', hexit⟩ := hset.reported.outbox hm'
        refine ⟨c', hc', fun hx => ?_⟩
        obtain rfl := hcur (hexit hx).1
        exact (hex hx).elim
      · obtain rfl := hcur hc'
        exact (hex hx).elim
    serving := fun hs => { hset.serving hs with
      built := by
        intro k r' hk hi
        rcases hcases hi with ⟨rfl, rfl⟩ | hi
        · exact .inl (hweights hs)
        · exact (hset.serving hs).built hk hi } }

/-! ## `create_borrowed_replica` -/

/-- The spec `prepare_replica` is called with. -/
structure Places (c : OperationCommand) (spec : BorrowedSpec) : Prop where
  operation : spec.operationId = c.operationId
  names : spec.names c.target

theorem Places.normal {spec : BorrowedSpec} (h : Places c spec) {now : Nat} {n : NormalSpec}
    (hn : validateBorrowedSpec d now spec = .ok n) : SpecOf c n := by
  obtain ⟨ho, ht, hr, he⟩ := validateBorrowedSpec_ok hn
  refine ⟨ho.trans h.operation, NormalSpec.names_iff.1 ?_⟩
  unfold BorrowedSpec.names
  rw [ht, hr, he]
  exact h.names

/-- The runtime of the rank is launched and nobody knows it yet. -/
structure Launched (strict : Prop) (s : TaskState) (c : OperationCommand) (n : NormalSpec)
    (r : Replica) : Prop where
  reserved : Reserved strict s c n r.rank
  kind : r.kind = .borrowed
  address : ∀ k r', s.manager.runtimeInventory.get? k = some r' → r'.address ≠ r.address
  weights : strict → (s.world r.rank).weights = true

theorem Steady.launched {n : NormalSpec} {r : Replica} :
    Steady d strict c fun s => Launched strict s c n r := by
  intro s t hi h hr ht
  refine ⟨Steady.reserved s t hi h.reserved hr ht, h.kind, fun k r' hk => ?_, fun hst => ?_⟩
  · rw [hr.manager] at hk
    exact h.address k r' hk
  · exact (Server.weights_congr (hr.world _)).2 (h.weights hst)

namespace Triple

theorem reserveBorrowed (hadd : c.kind = .add) {spec : BorrowedSpec} (hspec : Places c spec) :
    Triple d strict c (fun _ => True) (TaskProg.call (Rollouter.reserveBorrowed d spec))
      (fun r s => match r with
        | .inl _ => Started s.manager s.rollouter c
        | .inr (n, rank) => Reserved strict s c n rank) fun _ _ => True := by
  refine .call (.const _) ?_
  intro s o hi hc _ _
  unfold Rollouter.reserveBorrowed
  split
  · exact .error hi hc trivial
  rename_i n hn
  have hof := hspec.normal hn
  split
  · -- The Manager has a record of the lease.
    rename_i rec hrec
    split
    · exact .error hi hc trivial
    rename_i hsame
    have ho : rec.resolved.spec.operationId = c.operationId := by
      have := not_not.1 hsame
      unfold BorrowedSpec.same at this
      simp only [Bool.and_eq_true, decide_eq_true_eq] at this
      exact this.1.1.1.1.1.1.1.trans hof.operation
    split
    · exact .error hi hc trivial
    · refine .ok hi hc ?_
      show Started s.manager s.rollouter c
      unfold Started
      rw [hadd]
      exact ⟨_, rec, hrec, ho⟩
    · exact .error hi hc trivial
  · split
    · exact .error hi hc trivial
    rename_i hnew
    have hnone : s.manager.replicaState.get? c.target = none := by
      rw [← hof.key]
      unfold Dict.contains at hnew
      simpa using hnew
    dsimp only
    rw [LLMServerManager.register_creating (by exact hnew)]
    obtain ⟨hi', hr⟩ := hi.reserve hc.1 hadd hof hnone
    exact .ok hi' hc hr

theorem launchBorrowed (hadd : c.kind = .add) {n : NormalSpec} {rank : Nat} :
    Triple d strict c (fun s => Reserved strict s c n rank)
      (Prog.call .internal (Rollouter.launchBorrowed d n rank))
      (fun r s => r.rank = rank ∧ Launched strict s c n r)
      fun e s => Reserved strict s c n rank ∧ ∀ r, e.2 = some r → r.rank = rank := by
  refine .call .reserved ?_
  intro s o hi hc hr _
  unfold Rollouter.launchBorrowed
  generalize hrep : (⟨rank, .borrowed, o.address, d.bundlePlacement n.claim.bundleKey⟩ : Replica) = r
  have hrank : r.rank = rank := by rw [← hrep]
  have hset : ∀ v, Inv d strict (s.setServer rank v) := by
    intro v
    rw [← hrank] at hr ⊢
    exact hi.setReserved hc.1 hadd hr v
  have hr' : ∀ v, Reserved strict (s.setServer rank v) c n rank := fun _ => { hr with }
  dsimp only
  split
  · exact .error (hset _) hc ⟨hr' _, fun r' he => by cases he; exact hrank⟩
  · rename_i v hok
    obtain ⟨hw, hfree⟩ := Replica.initFromLease_ok hok
    refine .ok (hset v) hc ⟨hrank, by rw [hrank]; exact hr' v, by rw [← hrep], fun k r' hk => ?_,
      fun _ => ?_⟩
    · have hall := (of_decide_eq_true hfree).2
      rw [List.all_eq_true] at hall
      rw [← hrep]
      exact of_decide_eq_true (hall (k, r') (Dict.mem_entries.2 hk))
    · show (Function.update s.world rank v r.rank).weights = true
      rw [hrank, Function.update_self]
      exact hw

theorem enterBorrowed (hadd : c.kind = .add) {n : NormalSpec} {r : Replica} :
    Triple d strict c (fun s => Launched strict s c n r)
      (Prog.call .internal (Rollouter.enterBorrowed n r))
      (fun _ s => Started s.manager s.rollouter c)
      fun e s => Reserved strict s c n r.rank ∧ ∀ r', e.2 = some r' → r'.rank = r.rank := by
  refine .call .launched ?_
  intro s o hi hc hl _
  unfold Rollouter.enterBorrowed
  rw [hl.reserved.record]
  refine .ok (hi.enter hc.1 hadd hl.reserved hl.kind hl.address hl.weights) hc ?_
  unfold Started
  rw [hadd]
  exact ⟨_, _, Dict.get?_insert_self _ _ _, hl.reserved.spec.operation⟩

theorem cleanupFailed (hadd : c.kind = .add) {n : NormalSpec} {rank : Nat}
    {runtime : Option Replica} (hrank : ∀ r, runtime = some r → r.rank = rank)
    {E : PyErr → TaskState → Prop} :
    Triple d strict c (fun s => Reserved strict s c n rank)
      (TaskProg.call (Rollouter.cleanupFailed runtime))
      (fun _ s => Reserved strict s c n rank) E := by
  refine .call .reserved ?_
  intro s o hi hc hr _
  unfold Rollouter.cleanupFailed
  split
  · exact .ok hi hc hr
  · rename_i r
    obtain rfl := hrank r rfl
    split
    · exact .ok hi hc hr
    · exact .ok (hi.setReserved hc.1 hadd hr _) hc { hr with }

end Triple

/-- The record of a failed creation. -/
theorem Inv.recordFailed (h : Inv d strict s) (hc : Cur d c s) (hadd : c.kind = .add)
    {n : NormalSpec} {rank : Nat} {e : PyErr}
    (hrec : s.manager.borrowedOperations.get? n.spec.leaseId = some ⟨n, rank, none, none, none⟩) :
    Inv d strict { s with manager :=
      s.manager.setBorrowed n.spec.leaseId ⟨n, rank, some e, none, none⟩ } := by
  have hex : ¬ c.kind.exits = true := by rw [hadd]; decide
  exact h.setBorrowed hc hrec ⟨rfl, rfl⟩ (.inl rfl)
    (fun ev he => by cases he) (fun hx => (hex hx).elim) fun hx => (hex hx).elim

/-- The record of a target whose runtime was not made is closed. -/
theorem Inv.closeReserved (h : Inv d strict s) (hc : Cur d c s) (hadd : c.kind = .add)
    {n : NormalSpec} {rank : Nat} (hr : Reserved strict s c n rank) {st : ReplicaState}
    (hst : st = .released ∨ st = .quarantined) :
    s.manager.transitionReplica n.key st = .ok (s.manager.move c.target st) ∧
      Inv d strict { s with manager := s.manager.move c.target st } := by
  have hnx : c.kind.exits = false := by rw [hadd]; rfl
  have hex : ¬ c.kind.exits = true := by simp [hnx]
  have hout : ¬ InService s.manager c.target := by
    unfold InService
    rw [hr.state]
    rintro (hs | hs) <;> cases hs
  have hroute := h.no_route hout
  have hcalls := h.no_calls hc hout fun hx => (hex hx).elim
  rw [hr.spec.key]
  rcases hst with rfl | rfl
  · have hv : Enterable .borrowed .released := ⟨fun _ => by decide, fun hk => by cases hk⟩
    refine ⟨transitionReplica_eq hr.state hr.kind (by decide) hv, ?_⟩
    refine h.move hc hr.state hr.kind (by decide) hv hcalls
      (fun hx => (hex hx).elim) (fun he => by cases he) (fun _ => hr.pending) (fun _ r hi => ?_)
      (fun x hx => by rw [hroute] at hx; cases hx) (fun he => by cases he) (fun he => by cases he)
      (fun he => by cases he) (fun hx => (hex hx).elim) fun hst => ⟨fun hm => ?_, fun r hm => ?_,
        fun _ => ⟨hr.member, hr.fresh hst⟩⟩
    · rw [hr.runtime] at hi; cases hi
    · rw [hr.member] at hm; cases hm
    · rw [hr.member] at hm; cases hm
  · refine h.quarantine hc hr.state (by decide) hcalls (fun hx => (hex hx).elim) hroute fun _ hm => ?_
    rw [hr.member] at hm; cases hm

namespace Triple

theorem recordFailure (hadd : c.kind = .add) {n : NormalSpec} {rank : Nat} {e : PyErr}
    {runtime : Option Replica} {Q : Unit → TaskState → Prop} (hQ : ∀ s, Q () s) :
    Triple d strict c (fun s => Reserved strict s c n rank)
      (TaskProg.call (Rollouter.recordFailure n e runtime)) Q fun _ _ => True := by
  refine .call .reserved ?_
  intro s o hi hc hr _
  unfold Rollouter.recordFailure
  rw [hr.record]
  dsimp only
  rw [if_pos (by rw [hr.spec.key]; exact hr.state)]
  have hcases (verified : Bool) :
      (if verified = true then ReplicaState.released else .quarantined) = .released ∨
        (if verified = true then ReplicaState.released else .quarantined) = .quarantined :=
    ite_eq_or_eq _ _ _
  have hclose := fun verified => hi.closeReserved hc.1 hadd hr (hcases verified)
  cases runtime with
  | none =>
    rw [(hclose true).1]
    exact .ok (Inv.recordFailed (hclose true).2 hc.1 hadd hr.record) hc (hQ _)
  | some r =>
    rw [(hclose _).1]
    exact .ok (Inv.recordFailed (hclose _).2 hc.1 hadd hr.record) hc (hQ _)

/-- The `except` of `create_borrowed_replica`. -/
theorem creationFailed {α : Type} (hadd : c.kind = .add) {n : NormalSpec} {rank : Nat} {e : PyErr}
    {runtime : Option Replica} (hrank : ∀ r, runtime = some r → r.rank = rank)
    {Q : α → TaskState → Prop} :
    Triple d strict c (fun s => Reserved strict s c n rank)
      (do
        TaskProg.call (Rollouter.cleanupFailed runtime)
        TaskProg.call (Rollouter.recordFailure n e runtime)
        TaskProg.raise e : TaskProg α) Q fun _ _ => True :=
  .bind (Q := fun _ s => Reserved strict s c n rank) (cleanupFailed hadd hrank) fun _ =>
    .bind (Q := fun _ _ => True) (recordFailure hadd fun _ => trivial) fun _ =>
      .raise fun _ _ _ _ => trivial

theorem createBorrowedReplica (hadd : c.kind = .add) {spec : BorrowedSpec} (hspec : Places c spec) :
    Triple d strict c (fun _ => True) (Rollouter.createBorrowedReplica d spec)
      (fun _ s => Started s.manager s.rollouter c) fun _ _ => True := by
  refine .bind (reserveBorrowed hadd hspec) fun r => ?_
  cases r with
  | inl address => exact .ret fun _ _ _ h => h
  | inr p =>
    obtain ⟨n, rank⟩ := p
    refine .tryCatch (E := fun e s => Reserved strict s c n rank ∧ ∀ r, e.2 = some r → r.rank = rank)
      ?_ ?_
    · refine .bind (Q := fun _ s => Reserved strict s c n rank) (.mapErr (.call .reserved ?_)) fun _ =>
        .bind (launchBorrowed hadd) fun r => ?_
      · intro s o hi hc hr _
        dsimp only
        split
        · exact .error hi hc ⟨hr, fun r he => by cases he⟩
        · cases resolvePlacementGroups d n.claim with
          | ok u => exact .ok hi hc hr
          | error e => exact .error hi hc ⟨hr, fun r he => by cases he⟩
      · rintro s hi ⟨hc, rfl, hl⟩
        exact enterBorrowed hadd s hi ⟨hc, hl⟩
    · rintro ⟨e, runtime⟩ s hi ⟨hc, hr, hrank⟩
      exact creationFailed hadd hrank s hi ⟨hc, hr⟩

/-! ## `prepare_replica` -/

theorem bindAdd (hadd : c.kind = .add) {spec : BorrowedSpec} :
    Triple d strict c (fun _ => True)
      (TaskProg.call (Rollouter.bindAdd c.target c.operationId spec)) (fun _ _ => True)
      fun _ _ => True := by
  refine .call (.const _) ?_
  intro s o hi hc _ _
  unfold Rollouter.bindAdd
  split
  · exact .error hi hc trivial
  split
  · exact .error hi hc trivial
  split
  · exact .error hi hc trivial
  split
  · exact .error hi hc trivial
  · refine .ok (hi.bind hc.1 (fun hx => ?_) fun hr => ?_) hc trivial
    · rw [hadd] at hx; cases hx
    · rw [hadd] at hr; cases hr

end Triple

/-- The operation may publish its target. -/
structure Begun (s : TaskState) (c : OperationCommand) : Prop where
  started : Started s.manager s.rollouter c
  native : c.kind = .restore → s.manager.replicaKind.get? c.target = some .native
  state : c.kind = .restore → s.manager.replicaState.get? c.target = some .dormant ∨
    s.manager.replicaState.get? c.target = some .active

theorem Steady.begun : Steady d strict c fun s => Begun s c := by
  intro s t _ h hr _
  refine ⟨hr.started.2 h.started, ?_, ?_⟩
  · rw [hr.manager]; exact h.native
  · rw [hr.manager]; exact h.state

namespace Triple

/-- What `prepare_replica` says. -/
def Ready (strict : Prop) (c : OperationCommand) (r : Prepared) (s : TaskState) : Prop :=
  match r with
  | .released _ => Lined s c ∧ Clear strict s c
  | .bound | .runtime _ => Begun s c

theorem steady_ready (r : Prepared) : Steady d strict c (Ready strict c r) := by
  cases r with
  | released ev => exact .and .lined .clear
  | bound | runtime a => exact .begun

theorem compensateAdd (hadd : c.kind = .add) {spec : BorrowedSpec} {e : PyErr} :
    Triple d strict c (fun _ => True)
      (TaskProg.call (Rollouter.compensateAdd c.target c.operationId spec e)) (Ready strict c)
      fun _ _ => True := by
  refine .call (.const _) ?_
  intro s o hi hc _ _
  unfold Rollouter.compensateAdd
  dsimp only
  split
  · rename_i hst
    split
    · exact .error hi hc trivial
    have hrest := hi.clear_of_released hc.1 hadd (hst.imp_right And.right)
    have hun : Inv d strict (unbindTarget s c.operationId) := by
      refine hi.unbind (fun hk => ?_) fun c' hc' => .inr ?_
      · rw [Dict.get?_erase] at hk
        split at hk
        · cases hk
        · exact hk
      · obtain rfl := hc.1.eq hc'
        exact ⟨hrest.1, .inl hadd⟩
    split
    · exact .error hun hc trivial
    · exact .ok hun hc (hun.clear_of_released (show Cur d c (unbindTarget s c.operationId) from hc.1)
        hadd (hst.imp_right And.right))
  · exact .error hi hc trivial

theorem bindRestore (hr : c.kind = .restore) :
    Triple d strict c (fun _ => True)
      (TaskProg.call (Rollouter.bindRestore c.target c.operationId)) (fun _ s => Begun s c)
      fun _ _ => True := by
  refine .call (.const _) ?_
  intro s o hi hc _ _
  unfold Rollouter.bindRestore
  split
  · exact .error hi hc trivial
  · exact .error hi hc trivial
  rename_i kind state _ hmeta
  obtain ⟨hkind, hstate⟩ := replicaMeta_ok.1 hmeta
  split
  · exact .error hi hc trivial
  rename_i hnative
  replace hkind : s.manager.replicaKind.get? c.target = some .native := by
    rw [hkind, not_not.1 hnative]
  split
  · rename_i hd
    rw [hd] at hstate
    have hout : ¬ InService s.manager c.target := by
      unfold InService
      rw [hstate]
      rintro (h | h) <;> cases h
    refine .ok (hi.bind hc.1 (fun hx => ?_) fun _ => ⟨⟨fun {x} hx => ?_, fun hd' => ?_⟩,
      fun _ hd' => ?_⟩) hc ⟨?_, fun _ => hkind, fun _ => .inl hstate⟩
    · rw [hr] at hx; cases hx
    · rw [hi.no_route hout] at hx; cases hx
    · rw [hstate] at hd'; cases hd'
    · rw [hstate] at hd'; cases hd'
    · unfold Started
      rw [hr]
      exact Dict.get?_insert_self _ _ _
  split
  · rename_i hb
    obtain ⟨hb, ha⟩ := hb
    rw [ha] at hstate
    refine .ok hi hc ⟨?_, fun _ => hkind, fun _ => .inr hstate⟩
    unfold Started
    rw [hr]
    exact hb
  · exact .error hi hc trivial

theorem prepareAdd (hadd : c.kind = .add) {spec : BorrowedSpec} (hspec : Places c spec) :
    Triple d strict c (fun _ => True)
      (TaskProg.rpc (Rollouter.prepareReplica d c.target c.operationId (some spec)))
      (Ready strict c) fun _ _ => True := by
  have hnr : ¬ c.kind = .restore := by rw [hadd]; decide
  refine .remote (E := fun _ => True) (.const _) ?_ steady_ready (.const _) (fun _ _ _ _ => trivial)
    (fun _ _ _ _ _ => trivial) fun _ _ _ _ => trivial
  refine .bind (bindAdd hadd) fun _ => .tryCatch (E := fun _ _ => True) ?_ fun e => compensateAdd hadd
  exact .bind (createBorrowedReplica hadd hspec) fun a => .ret fun _ _ _ h =>
    ⟨h, fun hr => (hnr hr).elim, fun hr => (hnr hr).elim⟩

theorem prepareRestore (hr : c.kind = .restore) :
    Triple d strict c (fun _ => True)
      (TaskProg.rpc (Rollouter.prepareReplica d c.target c.operationId none))
      (fun _ s => Begun s c) fun _ _ => True :=
  .remote (E := fun _ => True) (.const _) (bindRestore hr) (fun _ => .begun) (.const _)
    (fun _ _ _ _ => trivial) (fun _ _ _ _ _ => trivial) fun _ _ _ _ => trivial

end Triple

end ReplicaLending
