import ReplicaLending.Task.Execution
/-!
# Every run of one task

The invariant of `Task/Invariant.lean` holds initially and is kept by every step of the machine: by the
lifecycle thread (its program is safe), by the environment (what the thread relies on) and by
`submit_operation`, which starts a thread only when the task has none.
-/

namespace ReplicaLending

open TaskState TaskProg TaskRunner

variable {d : Deployment} {strict : Prop} {c : OperationCommand} {s t : TaskState}

/-! ## `submit_operation` -/

/-- The snapshots of leases are the commands'. -/
def LeasesOf (s : TaskState) (c : OperationCommand) (leases : Dict String Lease) : Prop :=
  ∀ {o l}, leases.get? o = some l →
    s.operationLeases.get? o = some l ∨ o = c.operationId ∧ l.leaseId = c.leaseId

theorem LeasesOf.refl : LeasesOf s c s.operationLeases := fun h => .inl h

theorem LeasesOf.setDefault {lease : Lease} (h : lease.leaseId = c.leaseId) :
    LeasesOf s c (s.operationLeases.setDefault c.operationId lease) := by
  intro o l hl
  rw [Dict.get?_setDefault] at hl
  split at hl
  · rename_i ho
    subst ho
    cases hp : s.operationLeases.get? c.operationId with
    | none => rw [hp] at hl; cases hl; exact .inr ⟨rfl, h⟩
    | some p => rw [hp] at hl; exact .inl hl
  · exact .inl hl

/-- What `submit_operation` makes of the state once the journal has accepted the command. -/
theorem submitOperation_begun {lease : Option Lease} {busy : Bool} {res : Except PyErr Bool}
    {r : OperationRecord} {j : OperationJournal} (hbegin : s.journal.begin c = .ok (r, j))
    (h : submitOperation d c lease busy s = (res, t)) (hres : t ≠ s ∨ res = .ok true) :
    c.target.taskSession = d.taskSession ∧
      ∃ leases, t = { s with journal := j, operationLeases := leases } ∧ LeasesOf s c leases ∧
        (res = .ok true → ∀ r, s.journal.records.get? c.operationId = some r →
          r.status = .unknown ∧ busy = false) := by
  unfold submitOperation at h
  split at h
  · cases h; simp at hres
  rename_i hlease
  split at h
  · cases h; simp at hres
  split at h
  · cases h; simp at hres
  rename_i htask
  rw [hbegin] at h
  dsimp only at h
  refine ⟨not_not.1 htask, ?_⟩
  have hlaunch : ∀ {b : Bool}, b = decide (s.journal.query c.operationId = none ∨
      ((s.journal.query c.operationId).any fun r => r.status = .unknown) = true ∧ busy = false) →
      (Except.ok b : Except PyErr Bool) = .ok true →
      ∀ r, s.journal.records.get? c.operationId = some r → r.status = .unknown ∧ busy = false := by
    rintro b hb ⟨⟩ r hr
    have hq : s.journal.query c.operationId = some r := hr
    simpa [hq] using hb.symm
  split at h
  · rename_i l
    split at h
    · cases h
      exact ⟨_, rfl, LeasesOf.refl, fun hf => by cases hf⟩
    · cases h
      exact ⟨_, rfl, LeasesOf.setDefault (by simpa using hlease), hlaunch rfl⟩
  · cases h
    exact ⟨_, rfl, LeasesOf.refl, hlaunch rfl⟩

theorem submitOperation_refused {lease : Option Lease} {busy : Bool} {e : PyErr}
    (hbegin : s.journal.begin c = .error e) :
    ∃ e', submitOperation d c lease busy s = (.error e', s) := by
  unfold submitOperation
  split_ifs
  · exact ⟨_, rfl⟩
  · exact ⟨_, rfl⟩
  · exact ⟨_, rfl⟩
  · rw [hbegin]
    exact ⟨_, rfl⟩

/-! ## The start -/

theorem nativeReplicaKey_inj {o : String} {ho : o ≠ ""} {n m : Nat}
    (h : nativeReplicaKey o ho n = nativeReplicaKey o ho m) : n = m := by
  have hid := congrArg ReplicaKey.replicaId h
  simp only [nativeReplicaKey, nativeReplicaId, String.append_right_inj, Nat.toString_eq_repr] at hid
  have hdigits := congrArg String.toList hid
  rw [Nat.toList_repr, Nat.toList_repr] at hdigits
  rw [← Nat.ofDigitChars_toDigits (b := 10) (n := n) (by decide) (by decide), hdigits,
    Nat.ofDigitChars_toDigits (by decide) (by decide)]

namespace TaskSystem

variable {replicas : List Replica} {version : Nat}

/-- The key of a native runtime. -/
def nativeKey (d : Deployment) (r : Replica) : ReplicaKey :=
  nativeReplicaKey d.taskSession d.taskSession_ne r.rank

theorem Starts.keys (h : Starts replicas) : (replicas.map (nativeKey d)).Nodup := by
  have hmap : replicas.map (nativeKey d) = (replicas.map Replica.rank).map
      (nativeReplicaKey d.taskSession d.taskSession_ne · 0) := by
    rw [List.map_map]
    rfl
  rw [hmap]
  exact h.ranks.map fun _ _ he => nativeReplicaKey_inj he

/-- A table over the native runtimes. -/
theorem get?_table {ν : Type} (h : Starts replicas) {f : Replica → ν} {k : ReplicaKey} {v : ν} :
    (replicas.foldl (fun t r => t.insert (nativeKey d r) (f r)) (∅ : Dict ReplicaKey ν)).get? k =
      some v ↔ ∃ r ∈ replicas, nativeKey d r = k ∧ f r = v := by
  rw [Dict.get?_foldl_insert h.keys]
  simp

theorem get?_inventory (h : Starts replicas) {k : ReplicaKey} {r : Replica} :
    (initial d replicas version).state.manager.runtimeInventory.get? k = some r ↔
      r ∈ replicas ∧ nativeKey d r = k := by
  refine (get?_table h (f := id)).trans ⟨?_, fun ⟨hr, hk⟩ => ⟨r, hr, hk, rfl⟩⟩
  rintro ⟨r, hr, hk, rfl⟩
  exact ⟨hr, hk⟩

theorem get?_kind (h : Starts replicas) {k : ReplicaKey} {kind : ReplicaKind} :
    (initial d replicas version).state.manager.replicaKind.get? k = some kind ↔
      kind = .native ∧ ∃ r ∈ replicas, nativeKey d r = k := by
  show ((replicas.map (nativeKey d)).foldl _ (∅ : Dict ReplicaKey ReplicaKind)).get? k = _ ↔ _
  rw [List.foldl_map, get?_table h]
  exact ⟨fun ⟨r, hr, hk, hv⟩ => ⟨hv.symm, r, hr, hk⟩, fun ⟨hv, r, hr, hk⟩ => ⟨r, hr, hk, hv.symm⟩⟩

theorem get?_state (h : Starts replicas) {k : ReplicaKey} {st : ReplicaState} :
    (initial d replicas version).state.manager.replicaState.get? k = some st ↔
      st = .active ∧ ∃ r ∈ replicas, nativeKey d r = k := by
  show ((replicas.map (nativeKey d)).foldl _ (∅ : Dict ReplicaKey ReplicaState)).get? k = _ ↔ _
  rw [List.foldl_map, get?_table h]
  exact ⟨fun ⟨r, hr, hk, hv⟩ => ⟨hv.symm, r, hr, hk⟩, fun ⟨hv, r, hr, hk⟩ => ⟨r, hr, hk, hv.symm⟩⟩

theorem members_initial (h : Starts replicas) {k : ReplicaKey} {rs : List Replica} :
    (initial d replicas version).state.ce.members k = some rs ↔
      ∃ r ∈ replicas, nativeKey d r = k ∧ rs = [r] := by
  unfold CheckpointEngineManager.members
  rw [Option.map_eq_some_iff]
  constructor
  · rintro ⟨⟨rs', v⟩, he, rfl⟩
    obtain ⟨r, hr, hk, hv⟩ := (get?_table h (f := fun r => ([r], version))).1 he
    cases hv
    exact ⟨r, hr, hk, rfl⟩
  · rintro ⟨r, hr, hk, rfl⟩
    exact ⟨_, (get?_table h (f := fun r => ([r], version))).2 ⟨r, hr, hk, rfl⟩, rfl⟩

theorem get?_routes (h : Starts replicas) {k : ReplicaKey} {x : String} :
    (initial d replicas version).state.lb.routes.get? k = some x ↔
      ∃ r ∈ replicas, nativeKey d r = k ∧ r.address = x := get?_table h

theorem get?_servers (h : Starts replicas) {x : String} {n : Nat} :
    (initial d replicas version).state.lb.servers.get? x = some n ↔
      ∃ r ∈ replicas, r.address = x ∧ r.rank = n := by
  show (replicas.foldl (fun t r => t.insert r.address r.rank) (∅ : Dict String Nat)).get? x = _ ↔ _
  rw [Dict.get?_foldl_insert h.addresses]
  simp

theorem rank_lt_next {r : Replica} (hr : r ∈ replicas) :
    r.rank < (initial d replicas version).state.manager.nextReplicaRank := by
  show r.rank < replicas.foldl (fun n r => max n (r.rank + 1)) 0
  suffices h : ∀ (rs : List Replica) (n : Nat), (r ∈ rs ∨ r.rank < n) →
      r.rank < rs.foldl (fun n r => max n (r.rank + 1)) n from h replicas 0 (.inl hr)
  intro rs
  induction rs with
  | nil => rintro n (h | h); cases h; exact h
  | cons x rs ih =>
    rintro n (h | h)
    · rcases List.mem_cons.1 h with rfl | h
      · exact ih _ (.inr (Nat.lt_of_lt_of_le (Nat.lt_succ_self _) (Nat.le_max_right ..)))
      · exact ih _ (.inl h)
    · exact ih _ (.inr (Nat.lt_of_lt_of_le h (Nat.le_max_left ..)))

end TaskSystem

namespace TaskSystem

variable {replicas : List Replica} {version : Nat}

theorem wired_initial (h : Starts replicas) :
    Wired (initial d replicas version).state.manager (initial d replicas version).state.ce := by
  have hholds : ∀ {k r}, Holds (initial d replicas version).state.manager
      (initial d replicas version).state.ce k r → r ∈ replicas ∧ nativeKey d r = k := by
    rintro k r (hi | hm | ⟨o, hp⟩)
    · exact (get?_inventory h).1 hi
    · obtain ⟨r', hr', hk, he⟩ := (members_initial h).1 hm
      cases he
      exact ⟨hr', hk⟩
    · cases hp
  constructor
  case holds_inj =>
    intro k k' r r' hr hr' hrank
    obtain ⟨hm, rfl⟩ := hholds hr
    obtain ⟨hm', rfl⟩ := hholds hr'
    obtain rfl := List.inj_on_of_nodup_map h.ranks hm hm' hrank
    exact ⟨rfl, rfl⟩
  case rank_lt => exact fun hr => rank_lt_next (hholds hr).1
  case address_inj =>
    intro k k' r r' hr hr' ha
    obtain ⟨hm, rfl⟩ := (get?_inventory h).1 hr
    obtain ⟨hm', rfl⟩ := (get?_inventory h).1 hr'
    rw [List.inj_on_of_nodup_map h.addresses hm hm' ha]
  case runtime_kind =>
    intro k r hr
    obtain ⟨hr, hk⟩ := (get?_inventory h).1 hr
    exact (get?_kind h).2 ⟨h.native r hr, r, hr, hk⟩
  case kind_state =>
    intro k
    rw [Bool.eq_iff_iff, Option.isSome_iff_exists, Option.isSome_iff_exists]
    exact ⟨fun ⟨_, hk⟩ => ⟨_, (get?_state h).2 ⟨rfl, ((get?_kind h).1 hk).2⟩⟩,
      fun ⟨_, hs⟩ => ⟨_, (get?_kind h).2 ⟨rfl, ((get?_state h).1 hs).2⟩⟩⟩
  case native_state =>
    intro k hn
    obtain ⟨-, r, hr, hk⟩ := (get?_kind h).1 hn
    have hact : (initial d replicas version).state.manager.replicaState.get? k = some .active :=
      (get?_state h).2 ⟨rfl, r, hr, hk⟩
    rw [hact, (get?_inventory h).2 ⟨hr, hk⟩]
    exact ⟨by decide, by decide, rfl⟩
  case borrowed_state =>
    intro k hb
    cases ((get?_kind h).1 hb).1
  case active_member =>
    intro k hs
    obtain ⟨-, r, hr, hk⟩ := (get?_state h).1 hs
    rw [(members_initial h).2 ⟨r, hr, hk, rfl⟩]
    rfl
  case member =>
    intro k rs hm
    obtain ⟨r, hr, hk, rfl⟩ := (members_initial h).1 hm
    exact ⟨r, rfl, .inl ((get?_inventory h).2 ⟨hr, hk⟩)⟩
  case pending => exact fun hp => by cases hp
  case disjoint => exact fun _ => rfl
  case receivers =>
    intro r
    refine ⟨fun hr => ⟨_, (members_initial h).2 ⟨r, hr, rfl, rfl⟩⟩, fun ⟨k, hm⟩ => ?_⟩
    obtain ⟨r', hr', -, he⟩ := (members_initial h).1 hm
    cases he
    exact hr'
  case released_gone =>
    intro k hs
    cases ((get?_state h).1 hs).1

theorem listed_initial (h : Starts replicas) :
    Listed (initial d replicas version).state.manager where
  nodup := h.ranks.of_map
  addresses := rfl
  handles := rfl
  owned := fun {r} hr => ⟨nativeKey d r, (get?_inventory h).2 ⟨hr, rfl⟩⟩
  creating := fun {k r} hs => by cases ((get?_state h).1 hs).1
  active := fun {k r} _ hi => ((get?_inventory h).1 hi).1
  dormant := fun {k r} hs => by cases ((get?_state h).1 hs).1

theorem routed_initial (h : Starts replicas) :
    Routed (initial d replicas version).state.manager (initial d replicas version).state.ce
      (initial d replicas version).state.lb (initial d replicas version).state.journal.commands := by
  constructor
  case route =>
    intro k x hx
    obtain ⟨r, hr, hk, rfl⟩ := (get?_routes h).1 hx
    exact ⟨r, (get?_inventory h).2 ⟨hr, hk⟩, rfl, .inl ((get?_state h).2 ⟨rfl, r, hr, hk⟩)⟩
  case pool =>
    intro x hx
    obtain ⟨n, hn⟩ := Option.isSome_iff_exists.1 hx
    obtain ⟨r, hr, rfl, -⟩ := (get?_servers h).1 hn
    refine ⟨nativeKey d r, (get?_routes h).2 ⟨r, hr, rfl, rfl⟩, ?_⟩
    rw [(members_initial h).2 ⟨r, hr, rfl, rfl⟩]
    rfl
  case ledger => exact fun ho => by cases ho
  case admitted => exact fun ha => by cases ha

theorem inv_initial (h : Starts replicas) : Inv d strict (initial d replicas version).state := by
  have hactive : ∀ {k st}, (initial d replicas version).state.manager.replicaState.get? k = some st →
      st = .active := fun hs => ((get?_state h).1 hs).1
  constructor
  case wired => exact wired_initial h
  case listed => exact listed_initial h
  case routed => exact routed_initial h
  case gate => exact ⟨rfl, fun _ => rfl, fun hn => by cases hn⟩
  case parking =>
    refine ⟨fun hk => ?_, fun _ hk => ?_, fun hb _ => ?_⟩
    · cases hactive hk
    · cases hactive hk
    · cases ((get?_kind h).1 hb).1
  case publishing => exact fun hc => by cases hc
  case inFlight => exact fun hne => (hne rfl).elim
  case bindings => exact ⟨fun hb => (by cases hb), fun hc => (by cases hc)⟩
  case records =>
    constructor
    case command => exact fun hl => by cases hl
    case borrowed => exact fun hl => by cases hl
    case unique => exact fun hl => by cases hl
    case runtime => exact fun hl => by cases hl
    case rank_lt => exact fun hl => by cases hl
    case rank_inj => exact fun hl => by cases hl
    case owner => exact fun hl => by cases hl
    case native => exact fun hn => by cases hn
    case destroyed => exact fun hl => by cases hl
  case reported => exact ⟨fun hm => (by cases hm), fun hc => (by cases hc)⟩
  case serving =>
    intro _
    constructor
    case state =>
      intro k hm
      obtain ⟨rs, hm⟩ := Option.isSome_iff_exists.1 hm
      obtain ⟨r, hr, hk, -⟩ := (members_initial h).1 hm
      exact .inl (.inl ((get?_state h).2 ⟨rfl, r, hr, hk⟩))
    case awake =>
      intro k r hm _
      obtain ⟨r', hr', -, he⟩ := (members_initial h).1 hm
      cases he
      have hin : r.rank ∈ replicas.map Replica.rank := List.mem_map_of_mem hr'
      unfold TaskSystem.initial
      dsimp only
      rw [if_pos hin]
      exact ⟨rfl, rfl⟩
    case built => exact fun hs => by cases hactive hs
    case receipt => exact fun hr => by cases hr
    case known => exact fun hr => by cases hr
    case leaving => exact fun hc => by cases hc
    case gone => exact fun hs => by cases hactive hs
  case journal =>
    exact ⟨fun _ => rfl, fun hc => (by cases hc), fun hr => (by cases hr), fun ha => (by cases ha)⟩
  case closing => exact fun c hc => by cases hc
  case sent => exact fun e he => by cases he
  case leases => exact fun hl => by cases hl

end TaskSystem

/-! ## The invariant of the machine -/

namespace TaskSystem

/-- The invariant, and a thread that keeps it. -/
structure Sound (d : Deployment) (strict : Prop) (s : TaskSystem) : Prop where
  inv : Inv d strict s.state
  worker : ∀ {o p}, s.worker = some (o, p) → (protocol d strict o).Safe p (fun _ _ => True)
    (fun _ _ => True) s.state ∧ ∃ tag ready act next, p = .step tag ready act next

variable {s t : TaskSystem}

/-- A thread that goes on is at a step. -/
theorem sound_resume {st : TaskState} (hi : Inv d strict st) {o : String} {p : TaskProg Unit}
    (hp : (protocol d strict o).Safe p (fun _ _ => True) (fun _ _ => True) st) :
    Sound d strict ⟨st, resume o p⟩ := by
  refine ⟨hi, fun {o' p'} hw => ?_⟩
  cases p with
  | ret a => cases hw
  | err e => cases hw
  | step tag ready act next =>
    cases hw
    exact ⟨hp, tag, ready, act, next, rfl⟩

/-- The operation of the thread is the unfinished one. -/
theorem Sound.cur (h : Sound d strict s) {o : String} {p : TaskProg Unit}
    (hw : s.worker = some (o, p)) : ∃ c, Cur d c s.state ∧ c.operationId = o := by
  obtain ⟨hsafe, tag, ready, act, next, rfl⟩ := h.worker hw
  exact (hsafe s.state (Rely.refl _ _) h.inv).1.1

/-- A step of anybody else's. -/
theorem Sound.others (h : Sound d strict s) {st : TaskState} (hi : Inv d strict st)
    (hr : ∀ c, Cur d c s.state → Rely c.operationId s.state st) :
    Sound d strict { s with state := st } := by
  refine ⟨hi, fun {o p} hw => ?_⟩
  obtain ⟨c, hc, rfl⟩ := h.cur hw
  obtain ⟨hsafe, tag, ready, act, next, rfl⟩ := h.worker hw
  exact ⟨hsafe.rely_step (hr c hc), tag, ready, act, next, rfl⟩

theorem Sound.environment (h : Sound d strict s) {e : Environment} {st : TaskState}
    (he : s.state.environment e = some st) : Sound d strict { s with state := st } :=
  h.others (h.inv.environment he) fun _ hc => Rely.environment h.inv hc he

/-- The step of the thread, if it is one, meets the restriction. -/
def Permitted (strict : Prop) (s : TaskSystem) : Prop :=
  ∀ o tag ready act next, s.worker = some (o, .step tag ready act next) →
    EventAllowed strict s.state tag

theorem Sound.work (h : Sound d strict s) {o : Choice} (hw : s.work o = some t)
    (hp : Permitted strict s) : Sound d strict t := by
  unfold TaskSystem.work at hw
  split at hw
  · rename_i id tag ready act next hworker
    split at hw
    · rename_i hready
      cases hw
      obtain ⟨hi, hnext⟩ := ((h.worker hworker).1 s.state (Rely.refl _ _) h.inv).2 o hready
        (hp _ _ _ _ _ hworker)
      exact sound_resume hi hnext
    · cases hw
  · cases hw

/-! ### `submit_operation` as a step -/

theorem inv_leases {st : TaskState} (h : Inv d strict st) {leases : Dict String Lease}
    (hc : st.journal.commands.get? c.operationId = some c) (hl : LeasesOf st c leases) :
    Inv d strict { st with operationLeases := leases } := by
  refine { h with leases := fun {o l} ho => ?_ }
  rcases hl ho with ho | ⟨rfl, hid⟩
  · exact h.leases ho
  · exact ⟨c, hc, hid⟩

theorem rely_leases {st : TaskState} {o : String} (leases : Dict String Lease) :
    Rely o st { st with operationLeases := leases } :=
  ⟨rfl, fun h => ⟨rfl, h.1⟩, fun h => ⟨h, .refl _⟩, List.Subset.refl _⟩

/-- A thread that starts. -/
theorem sound_launch {st : TaskState} (hi : Inv d strict st) (hw : Awaits d c st) :
    Sound d strict ⟨st, resume c.operationId (executeOperation d c.operationId)⟩ :=
  sound_resume hi (executeOperation_hoare st hi hw)

/-- A replay. -/
theorem Sound.replay (h : Sound d strict s) {leases : Dict String Lease} {r : OperationRecord}
    (hl : LeasesOf s.state c leases) (hr : s.state.journal.records.get? c.operationId = some r)
    (hc : s.state.journal.commands.get? c.operationId = some c) :
    Sound d strict { s with state := { s.state with operationLeases := leases } } ∧
      (r.status = .unknown → Awaits d c { s.state with operationLeases := leases }) := by
  refine ⟨h.others (inv_leases h.inv hc hl) fun _ _ => rely_leases _, fun hst => ⟨?_, r, hr, .inr hst⟩⟩
  exact (h.inv.journal.current_eq hr (by rw [hst]; rfl)).trans hc

/-- A new operation waits for its thread, and whatever becomes of that, no other is at work. -/
theorem Sound.begin (h : Sound d strict s) {leases : Dict String Lease}
    (hl : LeasesOf s.state c leases) (hnew : s.state.journal.records.get? c.operationId = none)
    (hidle : s.state.journal.current d.taskSession = none)
    (ht : c.target.taskSession = d.taskSession) {st : TaskState}
    (hst : st = { s.state with journal := s.state.journal.begun c, operationLeases := leases }) :
    Inv d strict st ∧ Awaits d c st ∧ Settled strict st c ∧ s.worker = none := by
  subst hst
  obtain ⟨hi, hcur, hset⟩ := h.inv.begin hidle hnew ht
  refine ⟨inv_leases hi (hi.cur_command hcur).1 hl, ⟨hcur, _, Dict.get?_insert_self _ _ _, .inl rfl⟩,
    ⟨hset.lined, fun hx => ?_, hset.unbound, hset.unsent⟩, ?_⟩
  · exact (hset.clear hx).congr rfl rfl rfl rfl rfl
  · cases hw : s.worker with
    | none => rfl
    | some w =>
      obtain ⟨c', hc', -⟩ := h.cur (o := w.1) (p := w.2) hw
      unfold Cur at hc'
      rw [hidle] at hc'
      cases hc'

/-- A new operation whose thread could not be started has FAILED. -/
theorem inv_launchFailed {st : TaskState} (hi : Inv d strict st) (hw : Awaits d c st)
    (hset : Settled strict st c) (hacc : ∀ r, st.journal.records.get? c.operationId = some r →
      r.status = .accepted) : Inv d strict (launchFailed c.operationId false st) := by
  obtain ⟨hc, r, hr, -⟩ := hw
  have herase : Inv d strict { st with operationLeases := st.operationLeases.erase c.operationId } := by
    refine { hi with leases := fun {o l} hl => ?_ }
    rw [Dict.get?_erase] at hl
    split at hl
    · cases hl
    · exact hi.leases hl
  have hset' : Settled strict { st with operationLeases := st.operationLeases.erase c.operationId } c :=
    ⟨hset.lined, fun hx => (hset.clear hx).congr rfl rfl rfl rfl rfl, hset.unbound, hset.unsent⟩
  have hfin : st.journal.finish c.operationId .failed
      (some "failed to launch lifecycle worker") = _ :=
    OperationJournal.finish_eq hi.journal hr (by rw [hacc r hr]; rfl) (hi.cur_command hc).1 rfl
  unfold launchFailed
  rw [if_neg Bool.noConfusion]
  dsimp only
  rw [hfin]
  exact herase.finish (c := c) hc hset' rfl rfl fun _ hcl => .inl hcl

theorem Sound.submit (h : Sound d strict s) (lease : Option Lease) (starts : Bool) :
    Sound d strict (s.submit d c lease starts).2 := by
  unfold TaskSystem.submit
  dsimp only
  cases hsub : submitOperation d c lease (s.worker.any fun w => w.1 = c.operationId) s.state with
  | mk res st =>
    cases hbegin : s.state.journal.begin c with
    | error e =>
      obtain ⟨e', he⟩ : ∃ e', submitOperation d c lease
          (s.worker.any fun w => w.1 = c.operationId) s.state = (.error e', s.state) :=
        submitOperation_refused hbegin
      rw [hsub] at he
      cases he
      exact h
    | ok p =>
      obtain ⟨r, j⟩ := p
      by_cases hsame : st = s.state ∧ res ≠ .ok true
      · obtain ⟨rfl, hres⟩ := hsame
        rcases res with e | _ | _
        · exact h
        · exact h
        · exact (hres rfl).elim
      obtain ⟨ht, leases, rfl, hl, hlaunch⟩ := submitOperation_begun hbegin hsub (by
        rw [not_and_or, not_not] at hsame
        exact hsame)
      rcases OperationJournal.begin_cases ht hbegin with ⟨rfl, hr, hc⟩ | ⟨rfl, hnew, hidle⟩
      · obtain ⟨hkept, hwaits⟩ := h.replay hl hr hc
        rcases res with e | _ | _
        · exact hkept
        · exact hkept
        · dsimp only
          split
          · exact sound_launch hkept.inv (hwaits (hlaunch rfl r hr).1)
          · have hreplay : (s.state.journal.query c.operationId).isSome = true := by
              unfold OperationJournal.query
              rw [hr]
              rfl
            rw [hreplay]
            exact hkept
      · obtain ⟨hi, hw, hset, hnone⟩ := h.begin hl hnew hidle ht rfl
        have hquiet : ∀ st, Inv d strict st → Sound d strict { s with state := st } :=
          fun st hi => ⟨hi, fun {o p} hw => by rw [hnone] at hw; cases hw⟩
        rcases res with e | _ | _
        · exact hquiet _ hi
        · exact hquiet _ hi
        · dsimp only
          split
          · exact sound_launch hi hw
          · have hreplay : (s.state.journal.query c.operationId).isSome = false := by
              unfold OperationJournal.query
              rw [hnew]
              rfl
            rw [hreplay]
            refine hquiet _ (inv_launchFailed hi hw hset fun r hr => ?_)
            have hrec := (Dict.get?_insert_self _ _ _).symm.trans hr
            cases hrec
            rfl

/-! ### Runs -/

/-- No step is the one of an ADD or RESTORE in which `commit_service_change` reads its target
DRAINING. -/
def Orderly (s : TaskSystem) (l : TaskLabel) (_ : TaskSystem) : Prop :=
  ∀ o, l = .work o → Permitted True s

theorem Sound.step (h : Sound d strict s) {l : TaskLabel} (hs : step d l s = some t)
    (hp : strict → Orderly s l t) : Sound d strict t := by
  cases l with
  | submit c lease starts =>
    cases hs
    exact h.submit lease starts
  | work o =>
    refine h.work hs fun id tag ready act next hw => ?_
    cases tag with
    | serviceChange id' => exact fun hst => hp hst o rfl _ _ _ _ _ hw trivial
    | _ => trivial
  | environment e =>
    obtain ⟨st, he, rfl⟩ := Option.map_eq_some_iff.1 hs
    exact h.environment he

theorem sound_initial {s : TaskSystem} (h : (machine d).init s) : Sound d strict s := by
  obtain ⟨replicas, version, hstarts, rfl⟩ := h
  exact ⟨inv_initial hstarts, fun hw => by cases hw⟩

/-- The invariant holds in every reachable state. -/
theorem reachable_sound (h : (machine d).Reachable s) : Sound d False s :=
  h.invariant (fun _ => sound_initial) fun _ _ _ hs hstep _ => hs.step hstep False.elim

/-- All of it holds in the runs that never take the exit branch for a publication. -/
theorem orderly_sound (h : (machine d).ReachableWhere Orderly s) : Sound d True s :=
  h.invariant (fun _ => sound_initial) fun _ _ _ hs hstep hp => hs.step hstep fun _ => hp

end TaskSystem

end ReplicaLending
