import ReplicaLending.Scheduler.HandOff
import ReplicaLending.Task.Runs
/-!
# What holds of a task in every run

The properties of one task that follow from its invariant, for every order of submissions, requests,
late calls, lost replies and replays.

| holds in | what |
|---|---|
| every reachable state | no early release, routed ⇒ effective, dormant ⇒ parked, the service lists |
| every state of an orderly run | publication soundness, effective ⇒ awake |
-/

namespace ReplicaLending

open TaskState TaskProg

variable {d : Deployment}

/-! ## The service lists -/

/-- The runtime is in none of the three lists. -/
structure Off (m : LLMServerManager) (address : String) (rank : Nat) : Prop where
  replicas : ∀ r ∈ m.rolloutReplicas, r.rank ≠ rank
  addresses : address ∉ m.serverAddresses
  handles : rank ∉ m.serverHandles

/-- The runtime is in each of the three lists once, its address and its handle at one index. -/
structure Once (m : LLMServerManager) (r : Replica) : Prop where
  replicas : m.rolloutReplicas.count r = 1
  index : ∃ i : Nat, ∀ j : Nat, (m.serverAddresses[j]? = some r.address ↔ j = i) ∧
    (m.serverHandles[j]? = some r.rank ↔ j = i)

/-- The image of an entry stands where the entry stands, and nowhere else. -/
theorem getElem?_map_iff {α β : Type} {l : List α} {f : α → β} {a : α} {i j : Nat} (hl : l.Nodup)
    (hi : l[i]? = some a) (hf : ∀ b ∈ l, f b = f a → b = a) :
    (l.map f)[j]? = some (f a) ↔ j = i := by
  rw [List.getElem?_map, Option.map_eq_some_iff]
  constructor
  · rintro ⟨b, hb, he⟩
    obtain rfl := hf b (List.mem_of_getElem? hb) he
    obtain ⟨hj, -⟩ := List.getElem?_eq_some_iff.1 hb
    exact (List.getElem?_inj hj hl).1 (hb.trans hi.symm)
  · rintro rfl
    exact ⟨a, hi, rfl⟩

theorem Listed.off {m : LLMServerManager} {address : String} {rank : Nat} (h : Listed m)
    (hrank : ∀ b ∈ m.rolloutReplicas, b.rank ≠ rank)
    (haddress : ∀ b ∈ m.rolloutReplicas, b.address ≠ address) : Off m address rank := by
  refine ⟨hrank, ?_, ?_⟩
  · rw [h.addresses]
    intro hin
    obtain ⟨b, hb, he⟩ := List.mem_map.1 hin
    exact haddress b hb he
  · rw [h.handles]
    intro hin
    obtain ⟨b, hb, he⟩ := List.mem_map.1 hin
    exact hrank b hb he

namespace TaskSystem

variable {s t : TaskSystem} {l : TaskLabel}

/-! ## A task to run -/

section Fixture

open GroupScheduler (borrowerKey donorLease command)

/-- One worker a replica, every placement group there, nothing validated twice. -/
def deployment : Deployment where
  taskSession := "borrower"
  taskSession_ne := ne_empty holds
  resource := .gpu
  sleepLevel := 2
  enableSleepMode := true
  freeCacheEngine := true
  tensorModelParallelSize := 1
  dataParallelSize := 1
  pipelineModelParallelSize := 1
  naiveBackend := false
  parameterValidationEnabled := false
  partialRollout := true
  drainTimeoutPositive := true
  rayNamespace := "ns"
  placementGroups := fun _ => some ⟨"pg-name", true, ⟨[(0, "node")], by decide⟩, "pg", 1⟩
  bundlePlacement := fun _ => ⟨"node", "pg", "gpu"⟩

/-- It has one native replica. -/
def start : TaskSystem := initial deployment [⟨0, .native, "a0", ⟨"node", "pg", "g0"⟩⟩] 0

def nativeKey0 : ReplicaKey := nativeReplicaKey "borrower" (ne_empty holds) 0

/-- Every call replies. -/
def fine : Choice := ⟨.none, fun _ => .none, 0, "b0", some 0, false⟩

/-- `k` steps of the thread. -/
def works (k : Nat) : List TaskLabel := List.replicate k (.work fine)

/-- One step that goes wrong. -/
def fails (fault : Fault) : List TaskLabel := [.work { fine with fault := fault }]

/-- The donation of the native replica, up to its evidence. -/
def donating : List TaskLabel :=
  .submit (command "d1" .donate nativeKey0) none true :: works 38

/-- An ADD. -/
def submitAdd : TaskLabel :=
  .submit (command "a1" .add borrowerKey) (some (donorLease "L" (ne_empty holds))) true

def after (ls : List TaskLabel) : Option TaskSystem :=
  ls.foldlM (fun s l => step deployment l s) start

theorem init_start : (machine deployment).init start :=
  ⟨_, _, ⟨by decide, by decide, by decide, by decide⟩, rfl⟩

theorem reachable_after {ls : List TaskLabel} (h : after ls = some s) :
    (machine deployment).Reachable s :=
  Machine.ReachableWhere.steps (f := fun s l => step deployment l s) (fun h => ⟨h, trivial⟩)
    ⟨start, init_start, .refl _⟩ h

/-- The state a run of the small task ends in, and what a check of it says. -/
theorem exists_after {ls : List TaskLabel} {check : TaskSystem → Bool}
    (h : (after ls).any check = true) :
    ∃ s, after ls = some s ∧ (machine deployment).Reachable s ∧ check s = true := by
  obtain ⟨s, hs, hc⟩ := (Option.any_eq_true _ _).1 h
  exact ⟨s, hs, reachable_after hs, hc⟩

end Fixture

/-! ## What is in service -/

/-- The service lists agree with the Manager's states. The rank of a destroyed runtime is in its record,
and so is its address, if it was ever reported; that no other runtime has its address is the assumption on
addresses. -/
theorem service_lists (h : (machine d).Reachable s) :
    (∀ k r, s.state.manager.replicaState.get? k = some .active →
      s.state.manager.runtimeInventory.get? k = some r → Once s.state.manager r) ∧
    (∀ k r, s.state.manager.replicaState.get? k = some .dormant →
      s.state.manager.runtimeInventory.get? k = some r → Off s.state.manager r.address r.rank) ∧
    (∀ k, s.state.manager.replicaState.get? k = some .released →
      s.state.manager.runtimeInventory.get? k = none ∧
      ∀ l rec address, s.state.manager.borrowedOperations.get? l = some rec → rec.resolved.key = k →
        (∀ k' r', s.state.manager.runtimeInventory.get? k' = some r' → r'.address ≠ address) →
        Off s.state.manager address rec.replicaRank) ∧
    s.state.manager.serverAddresses = s.state.manager.rolloutReplicas.map Replica.address ∧
    s.state.manager.serverHandles = s.state.manager.rolloutReplicas.map Replica.rank := by
  have hi := (reachable_sound h).inv
  refine ⟨fun k r hs hr => ?_, fun k r hs hr => ?_, fun k hs => ⟨hi.wired.released_gone hs, ?_⟩,
    hi.listed.addresses, hi.listed.handles⟩
  · have hin := hi.listed.active hs hr
    -- two runtimes in service with one address, or one rank, have one key
    have haddress : ∀ b ∈ s.state.manager.rolloutReplicas, b.address = r.address → b = r := by
      intro b hb he
      obtain ⟨k', hk'⟩ := hi.listed.owned hb
      obtain rfl := hi.wired.address_inj hk' hr he
      rw [hr] at hk'
      exact (Option.some.inj hk').symm
    have hrank : ∀ b ∈ s.state.manager.rolloutReplicas, b.rank = r.rank → b = r := by
      intro b hb he
      obtain ⟨k', hk'⟩ := hi.listed.owned hb
      exact (hi.wired.holds_inj (.inl hk') (.inl hr) he).2
    obtain ⟨i, hget⟩ := List.mem_iff_getElem?.1 hin
    refine ⟨List.count_eq_one_of_mem hi.listed.nodup hin, i, fun j => ?_⟩
    rw [hi.listed.addresses, hi.listed.handles]
    exact ⟨getElem?_map_iff hi.listed.nodup hget haddress,
      getElem?_map_iff hi.listed.nodup hget hrank⟩
  · have hout := hi.listed.dormant hs hr
    refine hi.listed.off (fun b hb he => ?_) (fun b hb he => ?_)
    · obtain ⟨k', hk'⟩ := hi.listed.owned hb
      exact hout ((hi.wired.holds_inj (.inl hk') (.inl hr) he).2 ▸ hb)
    · obtain ⟨k', hk'⟩ := hi.listed.owned hb
      obtain rfl := hi.wired.address_inj hk' hr he
      rw [hr] at hk'
      cases hk'
      exact hout hb
  · rintro l rec address hl rfl hfresh
    refine hi.listed.off (fun b hb he => ?_) (fun b hb he => ?_)
    · obtain ⟨k', hk'⟩ := hi.listed.owned hb
      rw [hi.records.owner hl hk' he, hi.wired.released_gone hs] at hk'
      cases hk'
    · obtain ⟨k', hk'⟩ := hi.listed.owned hb
      exact hfresh k' b hk' he

theorem service_lists_donated : ∃ s, after donating = some s ∧ Off s.state.manager "a0" 0 := by
  have hend : (after donating).any (fun s =>
      decide (s.state.manager.replicaState.get? nativeKey0 = some .dormant ∧
        (s.state.manager.runtimeInventory.get? nativeKey0).map (fun r => (r.address, r.rank)) =
          some ("a0", 0))) = true := by decide +kernel
  obtain ⟨s, hs, hreach, hc⟩ := exists_after hend
  obtain ⟨hd, hr⟩ := of_decide_eq_true hc
  obtain ⟨r, hr, he⟩ := Option.map_eq_some_iff.1 hr
  obtain ⟨ha, hn⟩ := Prod.mk.inj he
  have hoff := (service_lists hreach).2.1 _ r hd hr
  rw [ha, hn] at hoff
  exact ⟨s, hs, hoff⟩

/-! ## Exits -/

/-- The target has left service: route, pool, requests, effective set, service lists; and its runtime
is asleep or destroyed. -/
structure Left (s : TaskState) (k : ReplicaKey) (address : String) (rank : Nat) : Prop where
  runtime : RuntimeOf s.manager k address rank
  pool : s.lb.servers.get? address = none
  admitted : ∀ r, s.lb.attemptState.get? r = some .admitted →
    s.lb.activeRequestServer.get? r ≠ some address
  member : s.ce.members k = none
  replicas : ∀ r ∈ s.manager.rolloutReplicas, r.address ≠ address ∧ r.rank ≠ rank
  addresses : address ∉ s.manager.serverAddresses
  handles : rank ∉ s.manager.serverHandles
  vacated : Vacated s.manager k (s.world rank)

/-- Evidence of a DONATE or REMOVE is on its way only while its target has left service, so this is what
`advance_lease` accepts. -/
theorem no_early_release (h : (machine d).Reachable s) :
    ∀ l ev c, (l, ev) ∈ s.state.outbox → s.state.journal.commands.get? ev.operationId = some c →
      c.kind = .donate ∨ c.kind = .remove → ∃ address rank, Left s.state c.target address rank := by
  intro l ev c hm hc hk
  have hi := (reachable_sound h).inv
  have hx : c.kind.exits = true := by rcases hk with hk | hk <;> rw [hk] <;> rfl
  obtain ⟨c', hc', hexit⟩ := hi.reported.outbox hm
  rw [hc] at hc'
  cases hc'
  obtain ⟨hcur, hrec⟩ := hexit hx
  obtain ⟨-, hmember, hroute, address, rank, hof, hvac, hlists, hinj⟩ := hi.reported.gone hcur hx hrec
  have hfree : ∀ k, s.state.lb.routes.get? k ≠ some address := by
    intro k hr
    obtain ⟨r, hr', hx', -⟩ := hi.routed.route hr
    obtain rfl := hinj k r hr' hx'.symm
    rw [hroute] at hr
    cases hr
  refine ⟨address, rank, hof, ?_, fun r hr ha => ?_, hmember, hlists, fun hin => ?_, fun hin => ?_, hvac⟩
  · refine Option.eq_none_iff_forall_ne_some.2 fun n hn => ?_
    obtain ⟨k, hk, -⟩ := hi.routed.pool (x := address) (by rw [hn]; rfl)
    exact hfree k hk
  · obtain ⟨x, k, hx', hk⟩ := hi.routed.admitted hr
    rw [ha] at hx'
    cases hx'
    exact hfree k hk
  · rw [hi.listed.addresses] at hin
    obtain ⟨r, hr, ha⟩ := List.mem_map.1 hin
    exact (hlists r hr).1 ha
  · rw [hi.listed.handles] at hin
    obtain ⟨r, hr, ha⟩ := List.mem_map.1 hin
    exact (hlists r hr).2 ha

theorem no_early_release_donated : ∃ s, after donating = some s ∧ s.state.outbox ≠ [] ∧
    ∃ address rank, Left s.state nativeKey0 address rank := by
  have hend : (after donating).any (fun s => s.state.outbox.any fun e =>
      decide (s.state.journal.commands.get? e.2.operationId =
        some (GroupScheduler.command "d1" .donate nativeKey0))) = true := by decide +kernel
  obtain ⟨s, hs, hreach, hc⟩ := exists_after hend
  obtain ⟨e, hm, hc⟩ := List.any_eq_true.1 hc
  exact ⟨s, hs, List.ne_nil_of_mem hm,
    no_early_release hreach e.1 e.2 _ hm (of_decide_eq_true hc) (.inl rfl)⟩

/-! ## Membership -/

/-- Every server of the pool is the route of an effective key. -/
theorem routed_effective (h : (machine d).Reachable s) :
    ∀ x, (s.state.lb.servers.get? x).isSome → ∃ k, s.state.lb.routes.get? k = some x ∧
      (s.state.ce.effective.get? k).isSome := by
  intro x hx
  obtain ⟨k, hk, hm⟩ := (reachable_sound h).inv.routed.pool hx
  refine ⟨k, hk, ?_⟩
  unfold CheckpointEngineManager.members at hm
  rwa [Option.isSome_map] at hm

theorem routed_effective_added : ∃ s k, after (submitAdd :: works 44) = some s ∧
    s.state.lb.routes.get? k = some "b0" ∧ (s.state.ce.effective.get? k).isSome := by
  have hend : (after (submitAdd :: works 44)).any (fun s =>
      (s.state.lb.servers.get? "b0").isSome) = true := by decide +kernel
  obtain ⟨s, hs, hreach, hin⟩ := exists_after hend
  obtain ⟨k, hk, he⟩ := routed_effective hreach "b0" hin
  exact ⟨s, k, hs, hk, he⟩

/-- A DORMANT native replica is parked whenever the gate is free and HEALTHY. -/
theorem dormant_parked (h : (machine d).Reachable s) (hfree : s.state.gate.lock.locked = false)
    (hhealthy : s.state.gate.blockedReason = none) :
    ∀ k, s.state.manager.replicaKind.get? k = some .native →
      s.state.manager.replicaState.get? k = some .dormant →
      (∃ r o, s.state.manager.runtimeInventory.get? k = some r ∧
        s.state.ce.pending.get? k = some ([r], o)) ∧
      s.state.ce.effective.get? k = none ∧ s.state.ce.ready.get? k = none := by
  intro k _ hd
  rcases (reachable_sound h).inv.parking.dormant hd with ⟨r, o, hr, hp, hm, hrd⟩ | ⟨c, -, -, -, hg⟩
  · exact ⟨⟨r, o, hr, hp⟩, CheckpointEngineManager.members_none.1 hm, hrd⟩
  · rcases hg with hg | hg
    · rw [hg.1] at hfree; cases hfree
    · rw [Fenced, hhealthy] at hg; cases hg.1

theorem dormant_parked_donated : ∃ s, after donating = some s ∧
    s.state.ce.effective.get? nativeKey0 = none ∧ s.state.ce.ready.get? nativeKey0 = none := by
  have hend : (after donating).any (fun s => decide (s.state.gate.lock.locked = false ∧
      s.state.gate.blockedReason = none ∧
      s.state.manager.replicaKind.get? nativeKey0 = some .native ∧
      s.state.manager.replicaState.get? nativeKey0 = some .dormant)) = true := by decide +kernel
  obtain ⟨s, hs, hreach, hc⟩ := exists_after hend
  obtain ⟨hfree, hhealthy, hk, hd⟩ := of_decide_eq_true hc
  exact ⟨s, hs, (dormant_parked hreach hfree hhealthy nativeKey0 hk hd).2⟩

/-! ## Publication -/

/-- What `bootstrap_and_publish` or `restore_and_publish` is about to return, and for which operation. -/
def returns (s : TaskSystem) : Option (String × OperationEvidence) :=
  match s.worker with
  | some (_, .step (.published o ev) _ _ _) => some (o, ev)
  | _ => none

theorem returns_eq_some {o : String} {ev : OperationEvidence} (h : s.returns = some (o, ev)) :
    ∃ w ready act next, s.worker = some (w, .step (.published o ev) ready act next) := by
  unfold returns at h
  split at h
  · cases h
    exact ⟨_, _, _, _, ‹_›⟩
  · cases h

/-- `commit_service_change` of an ADD or RESTORE is about to read its target DRAINING. -/
def misreads (s : TaskSystem) : Bool :=
  match s.worker with
  | some (_, .step (.serviceChange o) _ _ _) => (s.state.journal.commands.get? o).any fun c =>
      !c.kind.exits && s.state.manager.replicaState.get? c.target = some .draining
  | _ => false

theorem orderly_of_misreads (h : s.misreads = false) : Orderly s l t := by
  rintro o - id tag ready act next hw
  unfold misreads at h
  cases tag with
  | serviceChange id' =>
    rw [hw] at h
    dsimp only at h
    rintro - ⟨c, hc, hk, hd⟩
    rw [hc] at h
    simp [hk, hd] at h
  | _ => trivial

/-- A run that stops before such a step. -/
def straight (s : TaskSystem) (l : TaskLabel) : Option TaskSystem :=
  if s.misreads then none else step deployment l s

theorem exists_straight {ls : List TaskLabel} {check : TaskSystem → Bool}
    (h : (ls.foldlM straight start).any check = true) :
    ∃ s, ls.foldlM straight start = some s ∧ (machine deployment).ReachableWhere Orderly s ∧
      check s = true := by
  obtain ⟨s, hs, hc⟩ := (Option.any_eq_true _ _).1 h
  refine ⟨s, hs, Machine.ReachableWhere.steps (fun h => ?_) ⟨start, init_start, .refl _⟩ hs, hc⟩
  unfold straight at h
  split at h
  · cases h
  · exact ⟨h, orderly_of_misreads (Bool.eq_false_iff.2 ‹_›)⟩

/-- Unless a publishing operation takes the exit branch of `commit_service_change`, SERVICE_COMMITTED is
only returned for a published target. -/
theorem publication_sound (h : (machine d).ReachableWhere Orderly s) :
    ∀ o ev, s.returns = some (o, ev) → ev.type = .serviceCommitted → Published s.state o := by
  intro o ev hr hev
  obtain ⟨w, ready, act, next, hw⟩ := returns_eq_some hr
  have hs := orderly_sound h
  exact (((hs.worker hw).1 s.state (Rely.refl _ _) hs.inv).1.2 : EventClaim True _ _) trivial hev

/-- The ADD is about to return SERVICE_COMMITTED. -/
def returnsCommitted (s : TaskSystem) : Bool :=
  s.returns.any fun p => p.1 = "a1" ∧ p.2.type = .serviceCommitted

theorem publication_sound_added : ∃ s, (submitAdd :: works 42).foldlM straight start = some s ∧
    s.returnsCommitted = true ∧ Published s.state "a1" := by
  have hend : ((submitAdd :: works 42).foldlM straight start).any returnsCommitted = true := by
    decide +kernel
  obtain ⟨s, hs, hreach, hc⟩ := exists_straight hend
  obtain ⟨⟨o, ev⟩, hr, hev⟩ := (Option.any_eq_true _ _).1 hc
  obtain ⟨rfl, htype⟩ := of_decide_eq_true hev
  exact ⟨s, hs, hc, publication_sound hreach "a1" ev hr htype⟩

/-- The routing commit does not reach the load balancer, and the retraction fails at the concurrency
limit; the replay finds the target DRAINING. -/
def retracting : List TaskLabel :=
  submitAdd :: works 37 ++ fails .before ++ works 1 ++ fails .before ++ works 6 ++
    submitAdd :: works 22

/-- The replay takes the exit branch and returns SERVICE_COMMITTED; the target has no route. -/
theorem publication_drained : ∃ s, (machine deployment).Reachable s ∧ s.returnsCommitted = true ∧
    s.state.lb.readyOperations.get? "a1" = none ∧
    s.state.manager.replicaState.get? GroupScheduler.borrowerKey = some .draining ∧
    ¬ Published s.state "a1" := by
  have hend : (after retracting).any (fun s => decide (s.returnsCommitted = true ∧
      s.state.lb.readyOperations.get? "a1" = none ∧
      s.state.manager.replicaState.get? GroupScheduler.borrowerKey = some .draining)) = true := by
    decide +kernel
  obtain ⟨s, -, hreach, hc⟩ := exists_after hend
  obtain ⟨hret, hready, hd⟩ := of_decide_eq_true hc
  refine ⟨s, hreach, hret, hready, hd, fun ⟨_, _, _, _, hr, _⟩ => ?_⟩
  rw [hready] at hr
  cases hr

/-- Whoever is sent weights is awake and in service: whenever the gate is free, or a native
synchronisation holds it, and it is HEALTHY. -/
theorem effective_awake (h : (machine d).ReachableWhere Orderly s)
    (hgate : s.state.gate.lock.locked = false ∨ s.state.nativeSync.isSome)
    (hhealthy : s.state.gate.blockedReason = none) :
    (∀ k rs, s.state.ce.members k = some rs → ∃ r, rs = [r] ∧
      s.state.manager.runtimeInventory.get? k = some r ∧ (s.state.world r.rank).Awake ∧
      InService s.state.manager k) ∧
    ∀ r ∈ s.state.ce.replicas, (s.state.world r.rank).Awake := by
  have hi := (orderly_sound h).inv
  have hmember : ∀ k rs, s.state.ce.members k = some rs → ∃ r, rs = [r] ∧
      s.state.manager.runtimeInventory.get? k = some r ∧ (s.state.world r.rank).Awake ∧
      InService s.state.manager k := by
    intro k rs hm
    have hin : InService s.state.manager k := by
      rcases (hi.serving trivial).state (by rw [hm]; rfl) with hin | ⟨c, -, -, -, hheld | hfenced⟩
      · exact hin
      · obtain ⟨hlocked, hnone, -⟩ := hheld
        rw [hlocked, hnone] at hgate
        simp at hgate
      · rw [Fenced, hhealthy] at hfenced
        cases hfenced.1
    obtain ⟨r, rfl, hr⟩ := hi.wired.member hm
    refine ⟨r, rfl, ?_, (hi.serving trivial).awake hm (.inl hin), hin⟩
    rcases hr with hr | hr
    · exact hr
    · rcases hin with hs | hs <;> · rw [hr] at hs; cases hs
  refine ⟨hmember, fun r hr => ?_⟩
  obtain ⟨k, hk⟩ := (hi.wired.receivers r).1 hr
  obtain ⟨r', he, -, hawake, -⟩ := hmember k _ hk
  cases he
  exact hawake

theorem effective_awake_added : ∃ s, (submitAdd :: works 44).foldlM straight start = some s ∧
    ∃ r, s.state.ce.members GroupScheduler.borrowerKey = some [r] ∧ (s.state.world r.rank).Awake := by
  have hend : ((submitAdd :: works 44).foldlM straight start).any (fun s =>
      decide (s.state.gate.lock.locked = false ∧ s.state.gate.blockedReason = none ∧
        (s.state.ce.members GroupScheduler.borrowerKey).isSome)) = true := by decide +kernel
  obtain ⟨s, hs, hreach, hc⟩ := exists_straight hend
  obtain ⟨hfree, hhealthy, hm⟩ := of_decide_eq_true hc
  obtain ⟨rs, hm⟩ := Option.isSome_iff_exists.1 hm
  obtain ⟨r, rfl, -, hawake, -⟩ := (effective_awake hreach (.inl hfree) hhealthy).1 _ rs hm
  exact ⟨s, hs, r, hm, hawake⟩

/-- The reply of that replay is lost, the Trainer moves on to the next version, and another replay comes. -/
def overtaken : List TaskLabel :=
  retracting ++ works 1 ++ fails .after ++ works 1 ++ .environment .versionAdvances :: submitAdd ::
    works 33

/-- It fails at the bootstrap receipt and destroys the effective runtime; the gate stays HEALTHY. -/
theorem effective_destroyed : ∃ s, (machine deployment).Reachable s ∧
    s.state.gate.lock.locked = false ∧ s.state.gate.blockedReason = none ∧
    s.state.manager.replicaState.get? GroupScheduler.borrowerKey = some .released ∧
    ∃ r, s.state.ce.members GroupScheduler.borrowerKey = some [r] ∧
      ¬ (s.state.world r.rank).Awake := by
  have hend : (after overtaken).any (fun s => decide (s.state.gate.lock.locked = false ∧
      s.state.gate.blockedReason = none ∧
      s.state.manager.replicaState.get? GroupScheduler.borrowerKey = some .released ∧
      (s.state.ce.members GroupScheduler.borrowerKey).map (·.map Replica.rank) = some [1] ∧
      (s.state.world 1).serverAlive = false)) = true := by decide +kernel
  obtain ⟨s, -, hreach, hc⟩ := exists_after hend
  obtain ⟨hfree, hhealthy, hd, hm, hdead⟩ := of_decide_eq_true hc
  obtain ⟨rs, hm, hranks⟩ := Option.map_eq_some_iff.1 hm
  obtain ⟨r, rfl, hrank⟩ := List.map_eq_singleton_iff.1 hranks
  refine ⟨s, hreach, hfree, hhealthy, hd, r, hm, fun ha => ?_⟩
  rw [hrank, Server.Awake, hdead] at ha
  cases ha.1

end TaskSystem

end ReplicaLending
