import ReplicaLending.Task.Release
/-!
# Changing the service

`commit_service_change` on each state its target's record can be in.

| record | operation | outcome |
|---|---|---|
| DRAINING | DONATE, REMOVE | route, then service lists go (`Retired`) |
| CREATING, DORMANT | ADD, RESTORE | service lists, ACTIVE, then route (`Public`) |
| ACTIVE | ADD, RESTORE | the ready ledger decides: `Public`, or withdrawn again |
| DRAINING | ADD, RESTORE | the exit branch: what `strict` runs exclude |
-/

namespace ReplicaLending

open TaskState TaskProg Rollouter LLMServerManager CheckpointEngineManager
open GlobalRequestLoadBalancer

variable {d : Deployment} {strict : Prop} {c : OperationCommand} {s t : TaskState}
  {G F : TaskState → Prop}

/-- A fact the Rollouter's calls and the service lists of the Manager have no part in. -/
structure Neutral (d : Deployment) (strict : Prop) (c : OperationCommand) (F : TaskState → Prop) :
    Prop where
  steady : Steady d strict c F
  router : ∀ {s : TaskState} lb l, F s → F { s with lb := lb, inflight := l }
  lists : ∀ {s : TaskState} rs, F s → F { s with manager := s.manager.withList rs }

theorem Neutral.and {F' : TaskState → Prop} (h : Neutral d strict c F) (h' : Neutral d strict c F') :
    Neutral d strict c fun s => F s ∧ F' s where
  steady := h.steady.and h'.steady
  router := fun lb l hs => ⟨h.router lb l hs.1, h'.router lb l hs.2⟩
  lists := fun rs hs => ⟨h.lists rs hs.1, h'.lists rs hs.2⟩

theorem Framed.neutral (hG : Framed d strict c G) : Neutral d strict c G :=
  ⟨hG.steady, fun _ _ h => hG.same _ _ h rfl rfl, fun _ h => hG.same _ _ h rfl rfl⟩

/-- A fact about the gate, the receivers and the runtimes, which a publication keeps. -/
structure Fixed (d : Deployment) (strict : Prop) (c : OperationCommand) (G : TaskState → Prop) :
    Prop where
  steady : Steady d strict c G
  same : ∀ s t, G s → t.gate = s.gate → t.nativeSync = s.nativeSync → t.ce = s.ce →
    t.manager.runtimeInventory = s.manager.runtimeInventory → G t

theorem Framed.fixed (hG : Framed d strict c G) : Fixed d strict c G :=
  ⟨hG.steady, fun s t h hg hn _ _ => hG.same s t h hg hn⟩

theorem Fixed.and {G' : TaskState → Prop} (h : Fixed d strict c G) (h' : Fixed d strict c G') :
    Fixed d strict c fun s => G s ∧ G' s :=
  ⟨h.steady.and h'.steady, fun s t hs hg hn hce hi =>
    ⟨h.same s t hs.1 hg hn hce hi, h'.same s t hs.2 hg hn hce hi⟩⟩

theorem Fixed.neutral (hG : Fixed d strict c G) : Neutral d strict c G :=
  ⟨hG.steady, fun _ _ h => hG.same _ _ h rfl rfl rfl rfl, fun _ h => hG.same _ _ h rfl rfl rfl rfl⟩

theorem Neutral.const (p : Prop) : Neutral d strict c fun _ => p :=
  ⟨.const p, fun _ _ h => h, fun _ h => h⟩

/-- The state of the target's record. -/
theorem Neutral.state (F : Option ReplicaState → Prop) :
    Neutral d strict c fun s => F (s.manager.replicaState.get? c.target) :=
  ⟨.manager fun m => F (m.replicaState.get? c.target), fun _ _ h => h, fun _ h => h⟩

theorem Neutral.member : Neutral d strict c fun s => (s.ce.members c.target).isSome :=
  ⟨.seen fun v => (v.members c.target).isSome, fun _ _ h => h, fun _ h => h⟩

theorem Neutral.started : Neutral d strict c fun s => Started s.manager s.rollouter c :=
  ⟨.started, fun _ _ h => h, fun _ h => h⟩

theorem Neutral.runtime (F : Option Replica → Prop) :
    Neutral d strict c fun s => F (s.manager.runtimeInventory.get? c.target) :=
  ⟨.manager fun m => F (m.runtimeInventory.get? c.target), fun _ _ h => h, fun _ h => h⟩

theorem Neutral.flush (h : Neutral d strict c F) {s : TaskState} (now : Nat) (hs : F s) :
    F (s.flush now) := h.router _ _ hs

/-! ## Taking a target out of service -/

/-- The runtime is taken out of the service lists. -/
theorem Inv.deactivate (h : Inv d strict s) (hc : Cur d c s) {r : Replica}
    (hi : s.manager.runtimeInventory.get? c.target = some r)
    (hs : s.manager.replicaState.get? c.target ≠ some .active)
    (hrec : c.kind.exits = true → ¬ Recorded s.manager c.target c.operationId) :
    s.manager.deactivateService c.target =
        .ok (s.manager.withList (s.manager.rolloutReplicas.erase r)) ∧
      Inv d strict { s with manager := s.manager.withList (s.manager.rolloutReplicas.erase r) } ∧
      Unlisted (s.manager.withList (s.manager.rolloutReplicas.erase r)) c.target := by
  have hun : Unlisted (s.manager.withList (s.manager.rolloutReplicas.erase r)) c.target := by
    intro r' hi' hm
    obtain rfl : r = r' := Option.some.inj (hi.symm.trans hi')
    exact h.listed.nodup.not_mem_erase hm
  refine ⟨(aligned h.wired h.listed hi).deactivateService_eq hi,
    h.relist hc (h.listed.withErase fun j hj => ?_) (fun _ _ _ => hun) hrec, hun⟩
  rw [(h.wired.holds_inj (.inl hj) (.inl hi) rfl).1]
  exact hs

/-- Route and service lists are gone. -/
structure Withdrawn (s : TaskState) (c : OperationCommand) : Prop where
  state : s.manager.replicaState.get? c.target = some .draining
  calls : s.inflight = []
  route : s.lb.routes.get? c.target = none
  unlisted : Unlisted s.manager c.target

theorem Steady.withdrawn : Steady d strict c fun s => Withdrawn s c := by
  intro s t _ h hr _
  refine ⟨?_, hr.calls h.calls, ?_, ?_⟩
  · rw [hr.manager]; exact h.state
  · rw [hr.routes h.calls]; exact h.route
  · rw [hr.manager]; exact h.unlisted

namespace Triple

/-- `commit_service_change` on a DRAINING record: route, lists. -/
theorem commitExit (hF : Neutral d strict c F)
    (hright : ∀ s, Inv d strict s → Run d c s → F s → if c.kind.exits then
        s.rollouter.pendingOperationTargets.get? c.operationId = some c.target
      else Started s.manager s.rollouter c ∧ Guarded s.gate s.nativeSync c.operationId) :
    Triple d strict c
      (fun s => F s ∧ s.manager.replicaState.get? c.target = some .draining)
      (Rollouter.commitExit c.target c.operationId)
      (fun r s => F s ∧ Withdrawn s c ∧ ∃ ev, r = some ev ∧ ev.operationId = c.operationId ∧
        ev.type = .serviceCommitted)
      fun _ s => F s ∧ s.manager.replicaState.get? c.target = some .draining := by
  have hP := hF.and (.state fun st => st = some .draining)
  have hread : ∀ {α : Type} (f : GlobalRequestLoadBalancer → α), Triple d strict c
      (fun s => F s ∧ s.manager.replicaState.get? c.target = some .draining)
      (TaskProg.readRpc f) (fun _ s => F s ∧ s.manager.replicaState.get? c.target = some .draining)
      fun _ s => F s ∧ s.manager.replicaState.get? c.target = some .draining :=
    fun f => readRpc hP.steady (fun _ now h => hP.flush now h) (fun _ _ _ h _ => h) 2
  refine .bind (hread _) fun x => .bind (Q := fun _ s =>
    F s ∧ s.manager.replicaState.get? c.target = some .draining) ?_ fun _ => ?_
  · cases x with
    | none => exact .ret fun _ _ _ h => h
    | some x =>
      exact .bind (hread _) fun _ => .require (fun _ _ _ _ h => h) fun _ _ _ _ h => h
  refine .bind (Q := fun _ s => (F s ∧ s.manager.replicaState.get? c.target = some .draining) ∧
    s.inflight = [] ∧ s.lb.routes.get? c.target = none) (lbCall hP.steady
      (fun _ now h => hP.flush now h) (fun _ lb l h => hP.router lb l h)
      (fun _ _ _ h => ⟨rfl, h.2⟩) (fun s hi hc h => hright s hi hc h.1) ?_) fun _ => ?_
  · intro s now a _ _ h hflight hok _
    refine ⟨hP.router _ _ h, hflight, ?_⟩
    rcases finishRemove_cases s.lb c.target with ⟨he, hnone⟩ | ⟨x, -, hrem⟩
    · rw [show (LbCall.finishRemove c.target).exec now s.lb = (s.lb.finishRemove c.target).2 from rfl,
        he]
      exact hnone hok
    · rw [show ((LbCall.finishRemove c.target).exec now s.lb).routes = _ from hrem.routes]
      exact Dict.get?_erase_self _ _
  have hroute : Steady d strict c fun s => s.inflight = [] ∧ s.lb.routes.get? c.target = none :=
    .routing fun _ routes _ => routes.get? c.target = none
  refine .bind (Q := fun _ s => F s ∧ Withdrawn s c) (.call (hP.steady.and hroute) ?_) fun _ => ?_
  · rintro s o hi hc ⟨⟨hs, hst⟩, hflight, hrt⟩ -
    dsimp only
    cases hr : s.manager.runtimeInventory.get? c.target with
    | none =>
      have hde : s.manager.deactivateService c.target = .error (.keyError "replica") := by
        simp [deactivateService, serviceSlot, hr]
      rw [hde]
      exact .error hi hc ⟨hs, hst⟩
    | some r =>
      obtain ⟨hde, hi', hun⟩ := hi.deactivate hc.1 hr (by rw [hst]; simp)
        (hi.not_recorded hc.1 (.inr hst))
      rw [hde]
      dsimp only
      cases hu : updateMaxConcurrentSamples o with
      | ok _ => exact .ok hi' hc ⟨hF.lists _ hs, hst, hflight, hrt, hun⟩
      | error e => exact .error hi' hc ⟨hF.lists _ hs, hst⟩
  · refine .bind (Q := fun ev s => (F s ∧ Withdrawn s c) ∧ ev.operationId = c.operationId ∧
      ev.type = .serviceCommitted) (.call (hF.steady.and .withdrawn) ?_) fun ev =>
        .ret fun _ _ _ h => ⟨h.1.1, h.1.2, ev, rfl, h.2⟩
    rintro s o hi hc h -
    dsimp only
    cases hn : OperationEvidence.now o.now c.operationId .serviceCommitted with
    | ok ev =>
      obtain ⟨hop, hty, -, -⟩ := OperationEvidence.now_ok hn
      exact .ok hi hc ⟨h, hop, hty⟩
    | error e => exact .error hi hc ⟨h.1, h.2.state⟩

/-- What `commit_service_change` reads of its target. -/
theorem serviceHead {P : TaskState → Prop} (hP : Steady d strict c P) :
    Triple d strict c P (Prog.call (.serviceChange c.operationId) fun s _ =>
        ((do
          let target ← getPendingTarget s c.operationId
          let (kind, state) ← s.manager.replicaMeta target
          return (target, kind, state)), s) : TaskProg (ReplicaKey × ReplicaKind × ReplicaState))
      (fun p s => p.1 = c.target ∧ P s ∧ s.manager.replicaKind.get? c.target = some p.2.1 ∧
        s.manager.replicaState.get? c.target = some p.2.2 ∧
        (strict → c.kind.exits = false → p.2.2 ≠ .draining))
      fun _ => P := by
  refine .await hP (fun _ _ _ _ => trivial) ?_
  rintro s o hi hc hs ⟨-, hallowed⟩
  dsimp only
  generalize hr : (do
      let target ← getPendingTarget s c.operationId
      let (kind, state) ← s.manager.replicaMeta target
      return (target, kind, state) : Except PyErr (ReplicaKey × ReplicaKind × ReplicaState)) = r
  cases r with
  | error e => exact .error hi hc hs
  | ok p =>
    obtain ⟨k, hb, hr⟩ := except_bind_ok.1 hr
    obtain ⟨⟨kind, st⟩, hm, hr⟩ := except_bind_ok.1 hr
    cases hr
    obtain rfl := hi.bound hc.1 (getPendingTarget_eq hb)
    obtain ⟨hkind, hstate⟩ := replicaMeta_ok.1 hm
    refine .ok hi hc ⟨rfl, hs, hkind, hstate, fun hst hx hd => hallowed hst ?_⟩
    exact ⟨c, (hi.cur_command hc.1).1, hx, hstate.trans (congrArg some hd)⟩

end Triple

/-! ## Exits -/

/-- The target of an exit is no member any more; native, its receiver is parked. -/
structure Detached (strict : Prop) (s : TaskState) (c : OperationCommand) : Prop where
  bound : s.rollouter.pendingOperationTargets.get? c.operationId = some c.target
  gone : s.ce.members c.target = none
  fresh : strict → s.ce.ready.get? c.target = none
  parked : s.manager.replicaKind.get? c.target = some .native → Parked s.manager s.ce c.target
  unparked : s.manager.replicaKind.get? c.target = some .borrowed →
    s.ce.pending.get? c.target = none

theorem Neutral.detached : Neutral d strict c fun s => Detached strict s c where
  steady := by
    intro s t _ h hr _
    constructor
    case bound => rw [hr.target]; exact h.bound
    case gone => rw [hr.members]; exact h.gone
    case fresh => rw [hr.ready]; exact h.fresh
    case parked => rw [hr.parked, hr.manager]; exact h.parked
    case unparked => rw [hr.manager, hr.pending]; exact h.unparked
  router := fun _ _ h => ⟨h.bound, h.gone, h.fresh, h.parked, h.unparked⟩
  lists := fun _ h => ⟨h.bound, h.gone, h.fresh, h.parked, h.unparked⟩

theorem Detached.retired (h : Detached strict s c) (hw : Withdrawn s c) : Retired strict s c :=
  ⟨hw.calls, hw.route, hw.unlisted, h.parked, h.unparked, fun _ => h.gone, h.fresh⟩

theorem Detached.lined (h : Detached strict s c) : Lined s c := fun hn _ _ => h.parked hn

namespace Triple

/-- `commit_service_change` of an exit: its target is bound, so DRAINING or given up. -/
theorem changeExit (hG : Framed d strict c G) (hx : c.kind.exits = true) :
    Triple d strict c (fun s => G s ∧ Detached strict s c) (commitServiceChange d c.operationId)
      (fun r s => (G s ∧ Detached strict s c) ∧ Withdrawn s c ∧ ∃ ev, r = some ev ∧
        ev.operationId = c.operationId ∧ ev.type = .serviceCommitted)
      fun _ s => G s ∧ Detached strict s c := by
  have hF : Neutral d strict c fun s => G s ∧ Detached strict s c := hG.neutral.and .detached
  have hleft : ∀ {s : TaskState} {st : ReplicaState}, Inv d strict s → Run d c s →
      Detached strict s c → s.manager.replicaState.get? c.target = some st →
      st = .draining ∨ st = .quarantined := by
    intro s st hi hc hd hs
    rcases hi.bindings.exit hc.1 hx hd.bound with hb | hb <;> rw [hs] at hb <;> cases hb
    exacts [.inl rfl, .inr rfl]
  refine .bind (serviceHead hF.steady) ?_
  rintro ⟨target, kind, st⟩
  refine .of_imp ?_
  rintro rfl
  cases st with
  | draining =>
    refine (commitExit hF fun s _ _ h => ?_).conseq (fun s _ _ h => ⟨h.1, h.2.2.1⟩)
      (fun _ _ _ _ h => h) fun _ _ _ _ h => h.1
    rw [if_pos hx]
    exact h.2.bound
  | quarantined => exact .raise fun _ _ _ h => h.1
  | active | creating | dormant | released =>
    refine .unreached fun s hi hc h => ?_
    rcases hleft hi hc h.1.2 h.2.2.1 with he | he <;> cases he

end Triple

/-! ## Publications -/

/-- The router serves the target under the operation. -/
def Public (s : TaskState) (c : OperationCommand) : Prop :=
  ∃ x ev, s.lb.readyOperations.get? c.operationId = some (c.target, x, ev) ∧
    (s.lb.servers.get? x).isSome

theorem Steady.quiet_public : Steady d strict c fun s => s.inflight = [] ∧ Public s c :=
  .routing fun servers _ ready => ∃ x ev, ready.get? c.operationId = some (c.target, x, ev) ∧
    (servers.get? x).isSome

theorem Steady.quiet_unrouted :
    Steady d strict c fun s => s.inflight = [] ∧ s.lb.routes.get? c.target = none :=
  .routing fun _ routes _ => routes.get? c.target = none

/-- A publishing operation that has made its target effective. -/
def Live (s : TaskState) (c : OperationCommand) : Prop :=
  (s.ce.members c.target).isSome ∧ Started s.manager s.rollouter c

theorem Neutral.live : Neutral d strict c fun s => Live s c := Neutral.member.and .started

theorem lined_of_member (h : (s.ce.members c.target).isSome) : Lined s c := by
  intro _ _ hm
  rw [hm] at h
  cases h

/-- What the ready ledger says of the operation, it says of the target. -/
theorem Inv.public_of_ready (h : Inv d strict s) (hc : Cur d c s) (hx : c.kind.exits = false)
    (hst : Started s.manager s.rollouter c) {ev : OperationEvidence}
    (hr : s.lb.queryReadyOperation c.operationId = some ev) : Public s c := by
  unfold queryReadyOperation at hr
  cases he : s.lb.readyOperations.get? c.operationId with
  | none => rw [he] at hr; cases hr
  | some e =>
    obtain ⟨k, x, ev'⟩ := e
    obtain ⟨hroute, c', hc', rfl⟩ := h.routed.ledger he
    rw [(h.cur_command hc).1] at hc'
    cases hc'
    exact ⟨x, ev', he, ((h.publishing hc hx hst).route hroute).2.1⟩

/-- Without an entry there is no route either. -/
theorem Inv.unrouted_of_unready (h : Inv d strict s) (hc : Cur d c s) (hx : c.kind.exits = false)
    (hst : Started s.manager s.rollouter c)
    (hr : s.lb.queryReadyOperation c.operationId = none) : s.lb.routes.get? c.target = none := by
  refine Option.eq_none_iff_forall_ne_some.2 fun x hroute => ?_
  obtain ⟨-, -, ev, he⟩ := (h.publishing hc hx hst).route hroute
  rw [queryReadyOperation, he] at hr
  cases hr

/-- An ACTIVE record goes back to DRAINING, without a route. -/
theorem Inv.retract (h : Inv d strict s) (hc : Cur d c s) (hx : c.kind.exits = false)
    (hs : s.manager.replicaState.get? c.target = some .active) (hflight : s.inflight = [])
    (hroute : s.lb.routes.get? c.target = none) (hm : (s.ce.members c.target).isSome)
    (hg : Guarded s.gate s.nativeSync c.operationId) {r : Replica}
    (hi : s.manager.runtimeInventory.get? c.target = some r) :
    Inv d strict { s with manager :=
      (s.manager.move c.target .draining).withList (s.manager.rolloutReplicas.erase r) } := by
  obtain ⟨kind, hk⟩ := h.wired.kind_of_state hs
  have hmoved : Listed (s.manager.move c.target .draining) :=
    h.listed.move hs (by decide) (by decide) fun he => by rcases he with he | he <;> cases he
  have hl : Listed ((s.manager.move c.target .draining).withList (s.manager.rolloutReplicas.erase r)) := by
    refine hmoved.withErase fun j hj => ?_
    rw [(h.wired.holds_inj (.inl (Listed.runtime_of_move hj)) (.inl hi) rfl).1, get?_move, if_pos rfl]
    simp
  refine h.moveListed hc hl hs hk (by decide) ⟨fun _ => by decide, fun _ => by decide⟩ hflight
    (fun hex => by rw [hx] at hex; cases hex) (fun he => by cases he) (fun he => by cases he)
    (fun x hr => ?_) (fun he => by cases he) (fun _ _ hnone => ?_) (fun _ _ r' hi' hm' => ?_)
    (fun hex => by rw [hx] at hex; cases hex) fun hst => ?_
  · rw [hroute] at hr; cases hr
  · rw [hnone] at hm; cases hm
  · obtain rfl : r = r' := Option.some.inj (hi.symm.trans (Listed.runtime_of_move hi'))
    exact h.listed.nodup.not_mem_erase hm'
  · exact ⟨fun _ => .inr (.inl rfl), fun r' hm' _ => (h.serving hst).awake hm' (.inl (.inl hs)),
      fun _ _ _ => hg, fun he => by cases he⟩

/-- A record that is not in service becomes ACTIVE, its runtime listed. -/
theorem Inv.activate (h : Inv d strict s) (hc : Cur d c s) (hx : c.kind.exits = false)
    {st : ReplicaState} (hs : s.manager.replicaState.get? c.target = some st)
    (hst : st = .creating ∨ st = .dormant) (hm : (s.ce.members c.target).isSome) {r : Replica}
    (hi : s.manager.runtimeInventory.get? c.target = some r)
    (hawake : strict → (s.world r.rank).Awake) :
    s.manager.transitionReplica c.target .active = .ok (s.manager.move c.target .active) ∧
      Inv d strict { s with
        manager := (s.manager.move c.target .active).withList
          (if r ∈ s.manager.rolloutReplicas then s.manager.rolloutReplicas
            else s.manager.rolloutReplicas ++ [r]) } := by
  obtain ⟨kind, hk⟩ := h.wired.kind_of_state hs
  have hnex : ¬ c.kind.exits = true := by simp [hx]
  have ha : ReplicaState.active ∈ st.allowed := by rcases hst with rfl | rfl <;> decide
  have hnin : ¬ InService s.manager c.target := by
    rintro (hin | hin) <;> rw [hs] at hin <;> cases hin <;> rcases hst with hst | hst <;> cases hst
  have hv : Enterable kind .active := ⟨fun _ => by decide, fun _ => by decide⟩
  have hmem : ∀ {r'}, s.ce.members c.target = some [r'] → r' = r := by
    intro r' hm'
    obtain ⟨r'', hr'', hi'⟩ := h.wired.member_runtime hm' (by
      rw [hs]; rcases hst with rfl | rfl <;> simp)
    cases hr''
    rw [hi] at hi'
    exact (Option.some.inj hi').symm
  refine ⟨transitionReplica_eq hs hk ha hv, ?_⟩
  refine h.moveListed hc (h.listed.activate hi fun j hj => ?_) hs hk ha hv
    (h.no_calls hc hnin fun hex => (hnex hex).elim) (fun hex => (hnex hex).elim) (fun _ => hm)
    (fun he => by cases he) (fun x hr => .inl rfl) (fun he => by cases he) (fun he => by cases he)
    (fun he => by cases he) (fun hex => (hnex hex).elim) fun hstr => ?_
  · exact (h.wired.holds_inj (.inl hj) (.inl hi) rfl).1
  · exact ⟨fun _ => .inl rfl, fun r' hm' _ => by rw [hmem hm']; exact hawake hstr,
      fun he => (by cases he), fun he => (by cases he)⟩

theorem Steady.awake {n : Nat} : Steady d strict c fun s => (s.world n).Awake :=
  fun _ _ _ h hr _ => (Server.awake_congr (hr.world n)).2 h

/-- The outcome of a routing commit. -/
def Routing (c : OperationCommand) (r : Option OperationEvidence) (s : TaskState) : Prop :=
  match r with
  | some ev => (s.inflight = [] ∧ Public s c) ∧ ev.operationId = c.operationId ∧
      ev.type = .serviceCommitted
  | none => s.inflight = [] ∧ s.lb.routes.get? c.target = none

theorem Steady.routing_outcome (r : Option OperationEvidence) :
    Steady d strict c (Routing c r) := by
  cases r with
  | none => exact .quiet_unrouted
  | some ev => exact Steady.quiet_public.and (.const _)

/-- The outcome of `commit_service_change` of a publishing operation. -/
def Changed (strict : Prop) (c : OperationCommand) (r : Option OperationEvidence) (s : TaskState) :
    Prop :=
  (s.ce.members c.target).isSome ∧ match r with
    | some ev => (ev.operationId = c.operationId ∧ ev.type = .serviceCommitted) ∧
        ((s.manager.replicaState.get? c.target = some .active ∧ s.inflight = [] ∧ Public s c) ∨
          ¬ strict ∧ Withdrawn s c)
    | none => Withdrawn s c ∧ Started s.manager s.rollouter c

theorem Steady.changed (r : Option OperationEvidence) :
    Steady d strict c (Changed strict c r) := by
  refine Neutral.member.steady.and ?_
  cases r with
  | none => exact Steady.withdrawn.and .started
  | some ev =>
    exact (Steady.const _).and (((Neutral.state fun st => st = some .active).steady.and
      .quiet_public).or ((Steady.const _).and .withdrawn))

namespace Triple

variable {r : Replica}

/-- The Manager's view while a publication is under way. -/
def Publishes (G : TaskState → Prop) (c : OperationCommand) (st : ReplicaState) (s : TaskState) :
    Prop := (G s ∧ Live s c) ∧ s.manager.replicaState.get? c.target = some st

theorem neutral_publishes (hG : Fixed d strict c G) {st : ReplicaState} :
    Neutral d strict c (Publishes G c st) :=
  (hG.neutral.and .live).and (.state fun x => x = some st)

theorem activateServiceTarget (hG : Fixed d strict c G) (hx : c.kind.exits = false)
    {st : ReplicaState} (hst : st = .creating ∨ st = .dormant) :
    Triple d strict c
      (fun s => Publishes G c st s ∧ s.manager.runtimeInventory.get? c.target = some r ∧
        (strict → (s.world r.rank).Awake))
      (TaskProg.call (Rollouter.activateServiceTarget c.target))
      (fun _ s => Publishes G c .active s ∧ s.manager.runtimeInventory.get? c.target = some r)
      fun _ s => G s ∧ Live s c := by
  refine .call ((neutral_publishes hG).steady.and
    ((Neutral.runtime fun x => x = some r).steady.and (Steady.awake.imp _))) ?_
  rintro s o hi hc ⟨⟨⟨hg, hl⟩, hs⟩, hr, hawake⟩ -
  have hal := aligned hi.wired hi.listed hr
  obtain ⟨htr, hi'⟩ := hi.activate hc.1 hx hs hst hl.1 hr hawake
  unfold Rollouter.activateServiceTarget
  cases hact : s.manager.activateService c.target with
  | error e => exact .error hi hc ⟨hg, hl⟩
  | ok m =>
    have hroutable : r.address ≠ "" := by
      obtain ⟨r', hr', ha⟩ := activateService_ok hact
      rw [hr] at hr'
      cases hr'
      exact ha
    rw [hal.activateService_eq hr hroutable] at hact
    cases hact
    dsimp only
    cases hu : updateMaxConcurrentSamples o with
    | ok _ =>
      have hmove : (s.manager.withList (if r ∈ s.manager.rolloutReplicas then
          s.manager.rolloutReplicas else s.manager.rolloutReplicas ++ [r])).transitionReplica
            c.target .active = .ok ((s.manager.withList (if r ∈ s.manager.rolloutReplicas then
          s.manager.rolloutReplicas else s.manager.rolloutReplicas ++ [r])).move c.target
            .active) := by
        obtain ⟨kind, hk⟩ := hi.wired.kind_of_state hs
        exact transitionReplica_eq hs hk (by rcases hst with rfl | rfl <;> decide)
          ⟨fun _ => by decide, fun _ => by decide⟩
      simp only [Except.bind, hmove]
      refine .ok hi' hc ⟨⟨⟨hG.same s _ hg rfl rfl rfl (runtime_move_of_ne (by decide)), hl⟩, ?_⟩, ?_⟩
      · exact (get?_move ..).trans (if_pos rfl)
      · exact (congrArg (·.get? c.target)
          (runtime_move_of_ne (show ReplicaState.active ≠ .released by decide))).trans hr
    | error e =>
      simp only [Except.bind, hal.deactivate_activated hr]
      obtain ⟨-, hdown, -⟩ := hi.deactivate hc.1 hr (by rw [hs]; rcases hst with rfl | rfl <;> simp)
        fun hex => by rw [hx] at hex; cases hex
      exact .error hdown hc ⟨hG.same s _ hg rfl rfl rfl rfl, hl⟩

/-- The query of the ready ledger that settles an unclear publication. -/
theorem queryReady (hG : Fixed d strict c G) (hx : c.kind.exits = false) {e : PyErr} :
    Triple d strict c (Publishes G c .active)
      ((TaskProg.readRpc (·.queryReadyOperation c.operationId)).tryCatch fun _ =>
          TaskProg.raise e : TaskProg (Option OperationEvidence))
      (fun r s => Publishes G c .active s ∧ match r with
        | some _ => s.inflight = [] ∧ Public s c
        | none => s.inflight = [] ∧ s.lb.routes.get? c.target = none)
      fun _ => Publishes G c .active := by
  have hP : Neutral d strict c (Publishes G c .active) := neutral_publishes hG
  refine .tryCatch (E := fun _ => Publishes G c .active) (readRpc hP.steady
    (fun _ now h => hP.flush now h) (fun s hi hc h hflight => ⟨h, ?_⟩) 2) fun _ =>
      .raise fun _ _ _ h => h
  cases hr : s.lb.queryReadyOperation c.operationId with
  | some ev => exact ⟨hflight, hi.public_of_ready hc.1 hx h.1.2.2 hr⟩
  | none => exact ⟨hflight, hi.unrouted_of_unready hc.1 hx h.1.2.2 hr⟩

/-- The check of an evidence that says the target is routed. -/
theorem requireReady {ev : OperationEvidence} {label : String} :
    Triple d strict c (fun s => Publishes G c .active s ∧ s.inflight = [] ∧ Public s c)
      (Prog.ofExcept (requireOperationEvidence ev c.operationId .serviceCommitted label) :
        TaskProg OperationEvidence)
      (fun ev s => Publishes G c .active s ∧ Routing c (some ev) s)
      fun _ => Publishes G c .active := by
  refine .ofExcept (fun ev' hev s _ _ h => ?_) fun _ _ _ _ _ h => h.1
  obtain ⟨rfl, hop, hty⟩ := requireOperationEvidence_ok hev
  exact ⟨h.1, h.2, hop, hty⟩

theorem commitReadyOrReconcile (hG : Fixed d strict c G) (hx : c.kind.exits = false)
    (hguard : ∀ s, G s → Guarded s.gate s.nativeSync c.operationId) {label : String} :
    Triple d strict c
      (fun s => Publishes G c .active s ∧ s.manager.runtimeInventory.get? c.target = some r)
      (Rollouter.commitReadyOrReconcile c.target r c.operationId label)
      (fun r s => Publishes G c .active s ∧ Routing c r s) fun _ => Publishes G c .active := by
  have hP : Neutral d strict c fun s => Publishes G c .active s ∧
      s.manager.runtimeInventory.get? c.target = some r :=
    (neutral_publishes hG).and (.runtime fun x => x = some r)
  refine .tryCatch (E := fun _ => Publishes G c .active) ?_ fun _ => ?_
  · refine .bind (Q := fun _ s => Publishes G c .active s ∧ s.inflight = [] ∧ Public s c)
      (.conseq (lbCall (R := fun s => Publishes G c .active s ∧
          s.manager.runtimeInventory.get? c.target = some r) hP.steady
        (fun _ now h => hP.flush now h) (fun _ lb l h => hP.router lb l h)
        (fun _ _ _ h => ⟨hx, rfl, rfl, h.1.2, r, h.2, rfl, rfl⟩)
        (fun s _ _ h => ?right) fun s now ev _ _ h hflight hok _ =>
          ⟨(neutral_publishes hG).router _ _ h.1, hflight, ?published⟩) (fun _ _ _ h => h)
        (fun _ _ _ _ h => h) fun _ _ _ _ h => h.1) fun ev => ?require
    case right =>
      rw [if_neg (by simp [hx])]
      exact ⟨h.1.1.2.2, hguard s h.1.1.1⟩
    case published =>
      obtain ⟨⟨ev', hev⟩, hs⟩ := commitReady_published hok
      exact ⟨r.address, ev', hev, hs⟩
    case require => exact .bind requireReady fun ev' => .ret fun _ _ _ h => h
  · refine .bind (queryReady hG hx) fun r => ?_
    cases r with
    | none => exact .ret fun _ _ _ h => h
    | some ev => exact .bind requireReady fun ev' => .ret fun _ _ _ h => h

/-- The publication stands, or the target is withdrawn again. -/
theorem settlePublication (hG : Fixed d strict c G) (hx : c.kind.exits = false)
    (hguard : ∀ s, G s → Guarded s.gate s.nativeSync c.operationId)
    (r : Option OperationEvidence) :
    Triple d strict c (fun s => Publishes G c .active s ∧ Routing c r s)
      (Rollouter.settlePublication c.target c.operationId r)
      (fun r s => G s ∧ Changed strict c r s) fun _ s => G s ∧ Live s c := by
  have hP : Steady d strict c fun s => Publishes G c .active s ∧ Routing c r s :=
    (neutral_publishes hG).steady.and (Steady.routing_outcome r)
  cases r with
  | some ev =>
    refine .bind (Q := fun _ s => G s ∧ Changed strict c (some ev) s) (.call hP ?_) fun _ =>
      .ret fun _ _ _ h => h
    rintro s o hi hc ⟨⟨⟨hg, hm, hst⟩, hs⟩, hpub, hop, hty⟩ -
    refine .ok (hi.unbind (fun hb => ?_) fun c' hc' => ?_) hc
      ⟨hG.same s _ hg rfl rfl rfl rfl, hm, ⟨hop, hty⟩, .inl ⟨hs, hpub⟩⟩
    · rw [Dict.get?_erase] at hb
      split at hb
      · cases hb
      · exact hb
    · obtain rfl := hc.1.eq hc'
      exact .inr ⟨lined_of_member hm, .inr hpub.1⟩
  | none =>
    refine .bind (Q := fun _ s => G s ∧ Changed strict c none s) (.call hP ?_) fun _ =>
      .ret fun _ _ _ h => h
    rintro s o hi hc ⟨⟨⟨hg, hm, hst⟩, hs⟩, hflight, hroute⟩ -
    obtain ⟨r, hr, -⟩ := hi.wired.active_runtime hs
    obtain ⟨kind, hk⟩ := hi.wired.kind_of_state hs
    have hmove : s.manager.transitionReplica c.target .draining =
        .ok (s.manager.move c.target .draining) :=
      transitionReplica_eq hs hk (by decide) ⟨fun _ => by decide, fun _ => by decide⟩
    have hdown := Aligned.deactivateService_eq (m := s.manager.move c.target .draining)
      (aligned hi.wired hi.listed hr).move
      ((congrArg (·.get? c.target)
        (runtime_move_of_ne (show ReplicaState.draining ≠ .released by decide))).trans hr)
    have hi' := hi.retract hc.1 hx hs hflight hroute hm (hguard s hg) hr
    have hun : Unlisted ((s.manager.move c.target .draining).withList
        (s.manager.rolloutReplicas.erase r)) c.target := by
      intro r' hr' hmem
      replace hr' : (s.manager.move c.target .draining).runtimeInventory.get? c.target = some r' := hr'
      rw [runtime_move_of_ne (by decide), hr] at hr'
      cases hr'
      exact hi.listed.nodup.not_mem_erase hmem
    unfold retractServiceTarget
    rw [hmove]
    dsimp only
    rw [hdown]
    dsimp only
    have hg' := hG.same s { s with
      manager := (s.manager.move c.target .draining).withList
        (s.manager.rolloutReplicas.erase r) } hg rfl rfl rfl
      (runtime_move_of_ne (m := s.manager) (k := c.target) (show ReplicaState.draining ≠ .released by decide))
    cases hu : updateMaxConcurrentSamples o with
    | ok _ =>
      exact .ok hi' hc ⟨hg', hm, ⟨(get?_move ..).trans (if_pos rfl), hflight, hroute, hun⟩, hst⟩
    | error e => exact .error hi' hc ⟨hg', hm, hst⟩

/-- `commit_service_change` on an ACTIVE record. -/
theorem reconcilePublication (hG : Fixed d strict c G) (hx : c.kind.exits = false)
    (hguard : ∀ s, G s → Guarded s.gate s.nativeSync c.operationId) :
    Triple d strict c (Publishes G c .active)
      (Rollouter.reconcilePublication c.target c.operationId)
      (fun r s => G s ∧ Changed strict c r s) fun _ s => G s ∧ Live s c := by
  have hwide : ∀ {α : Type} {p : TaskProg α} {Q : α → TaskState → Prop} {P : TaskState → Prop},
      Triple d strict c P p Q (fun _ => Publishes G c .active) →
      Triple d strict c P p Q fun _ s => G s ∧ Live s c :=
    fun h => h.conseq (fun _ _ _ h => h) (fun _ _ _ _ h => h) fun _ _ _ _ h => h.1
  refine .bind (hwide (queryReady hG hx)) fun r => ?_
  cases r with
  | none => exact settlePublication hG hx hguard none
  | some ev => exact .bind (hwide requireReady) fun ev' => settlePublication hG hx hguard (some ev')

/-- A target that is not ACTIVE after a failed publication is given up. -/
theorem quarantineIf (hG : Fixed d strict c G) (hx : c.kind.exits = false)
    (hguard : ∀ s, G s → Guarded s.gate s.nativeSync c.operationId) {st : ReplicaState}
    (hst : st = .creating ∨ st = .dormant) {e : PyErr}
    {Q : Option OperationEvidence → TaskState → Prop} :
    Triple d strict c (fun s => G s ∧ Live s c) (Rollouter.quarantineIf st c.target e) Q
      fun _ s => G s ∧ Live s c := by
  refine .bind (Q := fun _ s => G s ∧ Live s c) (.call (hG.steady.and Neutral.live.steady) ?_)
    fun _ => .raise fun _ _ _ h => h
  rintro s o hi hc ⟨hg, hl⟩ -
  dsimp only
  split
  · rename_i hs
    have hnin : ¬ InService s.manager c.target := by
      rintro (hin | hin) <;> rw [hs] at hin <;> cases hin <;> rcases hst with hst | hst <;> cases hst
    obtain ⟨htr, hi'⟩ := hi.quarantine hc.1 hs (by rcases hst with rfl | rfl <;> decide)
      (hi.no_calls hc.1 hnin fun hex => by rw [hx] at hex; cases hex)
      (fun hex => by rw [hx] at hex; cases hex) (hi.no_route hnin) fun _ _ => ⟨hx, hguard s hg⟩
    unfold onManager
    dsimp only
    rw [htr]
    exact .ok hi' hc ⟨hG.same s _ hg rfl rfl rfl (runtime_move_of_ne (by decide)), hl⟩
  · exact .ok hi hc ⟨hg, hl⟩

theorem serviceIdentity_eq {k : ReplicaKey} (h : serviceIdentity s k = .ok r) :
    s.manager.runtimeInventory.get? k = some r := by
  unfold serviceIdentity at h
  split at h
  · cases h
  · rename_i r' hr
    split at h
    · cases h
    · cases h; exact hr

/-- From the service lists to the route. -/
theorem publish (hG : Fixed d strict c G) (hx : c.kind.exits = false)
    (hguard : ∀ s, G s → Guarded s.gate s.nativeSync c.operationId) {st : ReplicaState}
    (hst : st = .creating ∨ st = .dormant) {label : String} {f : PyErr → PyErr} :
    Triple d strict c
      (fun s => Publishes G c st s ∧ s.manager.runtimeInventory.get? c.target = some r ∧
        (strict → (s.world r.rank).Awake))
      ((TaskProg.call (Rollouter.activateServiceTarget c.target)).bind fun _ =>
        ((Rollouter.commitReadyOrReconcile c.target r c.operationId label).mapErr f).bind
          (Rollouter.settlePublication c.target c.operationId))
      (fun r s => G s ∧ Changed strict c r s) fun _ s => G s ∧ Live s c := by
  refine .bind (activateServiceTarget hG hx hst) fun _ => .bind ?_ (settlePublication hG hx hguard)
  exact .mapErr ((commitReadyOrReconcile hG hx hguard).conseq (fun _ _ _ h => h)
    (fun _ _ _ _ h => h) fun _ _ _ _ h => h.1)

theorem publishBorrowed (hG : Fixed d strict c G) (hx : c.kind.exits = false)
    (hguard : ∀ s, G s → Guarded s.gate s.nativeSync c.operationId) {kind : ReplicaKind} :
    Triple d strict c (Publishes G c .creating)
      (Rollouter.publishBorrowed c.target kind c.operationId)
      (fun r s => G s ∧ Changed strict c r s) fun _ s => G s ∧ Live s c := by
  refine .bind (Q := fun _ => Publishes G c .creating)
    (.require (fun _ _ _ _ h => h) fun _ _ _ _ h => h.1) fun _ => ?_
  refine .bind (Q := fun r s => Publishes G c .creating s ∧
      s.manager.runtimeInventory.get? c.target = some r ∧ (strict → (s.world r.rank).Awake))
    (.peek (neutral_publishes hG).steady (fun s r hi hc h hr => ⟨h, serviceIdentity_eq hr, ?_⟩)
      fun _ _ _ _ h _ => h.1) fun r => ?_
  · intro hstr
    obtain ⟨rs, hrs⟩ := Option.isSome_iff_exists.1 h.1.2.1
    obtain ⟨r', rfl, hi'⟩ := hi.wired.member_runtime hrs (by rw [h.2]; simp)
    rw [serviceIdentity_eq hr] at hi'
    cases hi'
    exact (hi.serving hstr).awake hrs (.inr h.2)
  · refine .tryCatch (E := fun _ s => G s ∧ Live s c) ?_ fun e =>
      quarantineIf hG hx hguard (.inl rfl)
    refine .bind (activateServiceTarget hG hx (.inl rfl)) fun _ =>
      .bind ?_ (settlePublication hG hx hguard)
    exact (commitReadyOrReconcile hG hx hguard).conseq (fun _ _ _ h => h)
      (fun _ _ _ _ h => h) fun _ _ _ _ h => h.1

theorem publishNative (hG : Fixed d strict c G) (hx : c.kind.exits = false)
    (hguard : ∀ s, G s → Guarded s.gate s.nativeSync c.operationId) {kind : ReplicaKind} :
    Triple d strict c (Publishes G c .dormant)
      (Rollouter.publishNative d c.target kind c.operationId)
      (fun r s => G s ∧ Changed strict c r s) fun _ s => G s ∧ Live s c := by
  refine .bind (Q := fun _ => Publishes G c .dormant)
    (.require (fun _ _ _ _ h => h) fun _ _ _ _ h => h.1) fun _ => ?_
  refine .tryCatch (E := fun _ s => G s ∧ Live s c) ?_ fun e =>
    quarantineIf hG hx hguard (.inr rfl)
  refine .bind (Q := fun r s => Publishes G c .dormant s ∧
      s.manager.runtimeInventory.get? c.target = some r)
    (.peek (neutral_publishes hG).steady (fun s r _ _ h hr => ⟨h, serviceIdentity_eq hr⟩)
      fun _ _ _ _ h _ => h.1) fun r => ?_
  have hP : Steady d strict c fun s => Publishes G c .dormant s ∧
      s.manager.runtimeInventory.get? c.target = some r :=
    (neutral_publishes hG).steady.and (Neutral.runtime fun x => x = some r).steady
  refine .bind (Q := fun _ s => Publishes G c .dormant s ∧
      s.manager.runtimeInventory.get? c.target = some r ∧ (strict → (s.world r.rank).Awake))
    (.onServer hP ?_ ?_ (fun _ s _ _ _ h => ⟨hG.same s _ h.1.1.1 rfl rfl rfl rfl, h.1.1.2⟩)
      fun _ _ _ _ h => h.1.1) fun _ => ?_
  · rintro s x hi hc ⟨⟨⟨hg, hl⟩, hs⟩, hr⟩
    refine hi.setWorld hc.1 (fun hex => by rw [hx] at hex; cases hex) fun hstr => ?_
    refine Serving.setServer hi hstr (.inl (.inl hr)) (fun _ hin => ?_) fun hk => ?_
    · rcases hin with (hin | hin) | hin <;> rw [hs] at hin <;> cases hin
    · rw [hs] at hk; cases hk
  · rintro s x a hi hc ⟨⟨⟨hg, hl⟩, hs⟩, hr⟩ hok
    refine ⟨⟨⟨hG.same s _ hg rfl rfl rfl rfl, hl⟩, hs⟩, hr, fun _ => ?_⟩
    rw [world_setServer]
    exact Replica.wakeUp_all (Prod.ext hok rfl)
  · exact publish hG hx hguard (.inr rfl)

/-- `commit_service_change` of an ADD or RESTORE with an effective target. -/
theorem changePublish (hG : Fixed d strict c G) (hx : c.kind.exits = false)
    (hguard : ∀ s, G s → Guarded s.gate s.nativeSync c.operationId) :
    Triple d strict c (fun s => G s ∧ Live s c) (commitServiceChange d c.operationId)
      (fun r s => G s ∧ Changed strict c r s) fun _ s => G s ∧ Live s c := by
  refine .bind (serviceHead (hG.steady.and Neutral.live.steady)) ?_
  rintro ⟨target, kind, st⟩
  refine .of_imp ?_
  rintro rfl
  cases st with
  | active =>
    exact (reconcilePublication hG hx hguard).pre fun _ _ _ h => ⟨h.1, h.2.2.1⟩
  | creating => exact (publishBorrowed hG hx hguard).pre fun _ _ _ h => ⟨h.1, h.2.2.1⟩
  | dormant => exact (publishNative hG hx hguard).pre fun _ _ _ h => ⟨h.1, h.2.2.1⟩
  | draining =>
    have hF : Neutral d strict c fun s => (G s ∧ Live s c) ∧ ¬ strict :=
      (hG.neutral.and .live).and (.const _)
    refine (commitExit hF fun s _ _ h => ?_).conseq (fun s _ _ h => ?_) (fun r s _ _ h => ?_)
      fun _ _ _ _ h => h.1.1
    · rw [if_neg (by simp [hx])]
      exact ⟨h.1.2.2, hguard s h.1.1⟩
    · exact ⟨⟨h.1, fun hstr => h.2.2.2 hstr hx rfl⟩, h.2.2.1⟩
    · obtain ⟨⟨⟨hg, hl⟩, hns⟩, hw, ev, rfl, hop, hty⟩ := h
      exact ⟨hg, hl.1, ⟨hop, hty⟩, .inr ⟨hns, hw⟩⟩
  | released => exact .raise fun _ _ _ h => h.1
  | quarantined => exact .raise fun _ _ _ h => h.1

end Triple

end ReplicaLending
