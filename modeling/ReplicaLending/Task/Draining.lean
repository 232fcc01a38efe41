import ReplicaLending.Task.ServiceChange
/-!
# Draining a target

`prepare_exit`, natural and with FORCE. The record goes to DRAINING and the operation is bound to it
(`Leaving`), then the router takes the server out of its pool (`Shut`). An error on the way leaves
nothing to report.
-/

namespace ReplicaLending

open TaskState TaskProg Rollouter LLMServerManager
open GlobalRequestLoadBalancer

variable {d : Deployment} {strict : Prop} {c : OperationCommand} {s : TaskState}

/-- No evidence of the operation is on its way. -/
def Unsent (s : TaskState) (c : OperationCommand) : Prop :=
  ∀ e ∈ s.outbox, e.2.operationId ≠ c.operationId

theorem Neutral.unsent : Neutral d strict c fun s => Unsent s c :=
  ⟨.sent fun e => e.2.operationId ≠ c.operationId, fun _ _ h => h, fun _ h => h⟩

/-- What the operation is bound to. -/
theorem Neutral.binding (F : Option ReplicaKey → Prop) :
    Neutral d strict c fun s => F (s.rollouter.pendingOperationTargets.get? c.operationId) :=
  ⟨.seen fun v => F v.target, fun _ _ h => h, fun _ h => h⟩

/-- The target is on its way out, on behalf of the operation. -/
structure Leaving (s : TaskState) (c : OperationCommand) : Prop where
  bound : s.rollouter.pendingOperationTargets.get? c.operationId = some c.target
  state : s.manager.replicaState.get? c.target = some .draining

theorem Neutral.leaving : Neutral d strict c fun s => Leaving s c where
  steady := fun _ _ _ h hr _ => ⟨by rw [hr.target]; exact h.bound, by rw [hr.manager]; exact h.state⟩
  router := fun _ _ h => ⟨h.bound, h.state⟩
  lists := fun _ h => ⟨h.bound, h.state⟩

/-- Its server has left the pool. -/
structure Shut (s : TaskState) (c : OperationCommand) : Prop extends Leaving s c where
  calls : s.inflight = []
  pool : ∀ x, s.lb.routes.get? c.target = some x → s.lb.servers.get? x = none

theorem Steady.shut : Steady d strict c fun s => Shut s c := by
  intro s t hi h hr ht
  obtain ⟨hcalls, hsv, hrt, -⟩ := hr.router h.calls
  exact ⟨Neutral.leaving.steady s t hi h.toLeaving hr ht, hcalls, by rw [hsv, hrt]; exact h.pool⟩

theorem Shut.flush (h : Shut s c) (now : Nat) : Shut (s.flush now) c := by
  rw [flush_eq h.calls]
  exact h

/-- An ACTIVE record goes to DRAINING and is bound. -/
theorem Inv.leave (h : Inv d strict s) (hc : Cur d c s) (hx : c.kind.exits = true)
    (hs : s.manager.replicaState.get? c.target = some .active) :
    s.manager.transitionReplica c.target .draining = .ok (s.manager.move c.target .draining) ∧
      Inv d strict (bindTarget { s with manager := s.manager.move c.target .draining }
        c.operationId c.target) := by
  obtain ⟨kind, hk⟩ := h.wired.kind_of_state hs
  have hflight : s.inflight = [] := by
    by_contra hne
    obtain ⟨c', hc', -, hrest⟩ := h.inFlight hne
    obtain rfl := hc.eq hc'
    rw [if_pos hx] at hrest
    rcases h.bindings.exit hc hx hrest with hd | hd <;> rw [hs] at hd <;> cases hd
  have hv : Enterable kind .draining := ⟨fun _ => by decide, fun _ => by decide⟩
  have hmoved : Inv d strict { s with manager := s.manager.move c.target .draining } := by
    refine h.move hc hs hk (by decide) hv hflight (h.not_recorded hc (.inl hs))
      (fun he => by cases he) (fun he => by cases he) (fun he => by rcases he with he | he <;> cases he)
      (fun _ _ => .inr ⟨rfl, hx⟩) (fun he => by cases he) (fun _ _ hm => ?_) (fun _ => hx)
      (fun _ _ => .inl rfl) fun hst => ?_
    · have := h.wired.active_member hs
      rw [hm] at this
      cases this
    · exact ⟨fun _ => .inr (.inl rfl), fun r hm _ => (h.serving hst).awake hm (.inl (.inl hs)),
        fun he => (by cases he)⟩
  refine ⟨transitionReplica_eq hs hk (by decide) hv, hmoved.bind hc (fun _ => .inl ?_) fun hr => ?_⟩
  · exact (get?_move ..).trans (if_pos rfl)
  · rw [hr] at hx; cases hx

namespace Triple

variable {P : TaskState → Prop}

theorem enterDraining (hx : c.kind.exits = true) {st : ReplicaState}
    (hst : st = .active ∨ st = .draining) :
    Triple d strict c (fun s => Unsent s c ∧ s.manager.replicaState.get? c.target = some st)
      (TaskProg.call (Rollouter.enterDraining c.target c.operationId st))
      (fun _ s => Unsent s c ∧ Leaving s c) fun _ s => Unsent s c := by
  refine .call (Neutral.unsent.steady.and (Neutral.state fun x => x = some st).steady) ?_
  rintro s o hi hc ⟨hu, hs⟩ -
  have hbound : ∀ t : TaskState, (bindTarget t c.operationId
      c.target).rollouter.pendingOperationTargets.get? c.operationId = some c.target :=
    fun t => Dict.get?_insert_self _ _ _
  unfold Rollouter.enterDraining
  rcases hst with rfl | rfl
  · obtain ⟨htr, hi'⟩ := hi.leave hc.1 hx hs
    unfold onManager
    simp only [if_true, htr]
    exact .ok hi' hc ⟨hu, hbound _, (get?_move ..).trans (if_pos rfl)⟩
  · rw [if_neg (by decide)]
    refine .ok (hi.bind hc.1 (fun _ => .inl hs) fun hr => ?_) hc ⟨hu, hbound _, hs⟩
    rw [hr] at hx; cases hx

theorem beginDrainOnce (hx : c.kind.exits = true) :
    Triple d strict c (fun s => Unsent s c ∧ Leaving s c)
      (Rollouter.beginDrainOnce c.target c.operationId)
      (fun _ s => Unsent s c ∧ Shut s c) fun _ s => Unsent s c ∧ Leaving s c := by
  have hP : Neutral d strict c fun s => Unsent s c ∧ Leaving s c := Neutral.unsent.and .leaving
  have hcall : Triple d strict c (fun s => Unsent s c ∧ Leaving s c)
      (beginDrainCall c.target c.operationId) (fun _ s => Unsent s c ∧ Shut s c)
      fun _ s => Unsent s c ∧ Leaving s c := by
    refine lbCall hP.steady (fun _ now h => hP.flush now h) (fun _ lb l h => hP.router lb l h)
      (fun _ _ _ _ => ⟨hx, rfl, rfl⟩) (fun _ _ _ h => by rw [if_pos hx]; exact h.2.bound) ?_
    intro s now x _ _ h hflight hok _
    refine ⟨h.1, ⟨h.2.bound, h.2.state⟩, hflight, fun y hy => ?_⟩
    replace hy : (s.lb.beginDrain c.target c.operationId).2.routes.get? c.target = some y := hy
    show (s.lb.beginDrain c.target c.operationId).2.servers.get? y = none
    rcases beginDrain_routing s.lb c.target c.operationId with
      ⟨e, he⟩ | ⟨z, hz, -, hsv, hrt, -, -⟩
    · rw [he] at hok; cases hok
    · rw [hrt, hz] at hy
      cases hy
      rw [hsv, Dict.get?_erase_self]
  exact .tryCatch hcall fun _ => hcall

/-- A query of the router that keeps what is known. -/
theorem readKeep {α : Type} {f : GlobalRequestLoadBalancer → α} (hP : Steady d strict c P)
    (hPf : ∀ s now, P s → P (s.flush now)) :
    Triple d strict c P (TaskProg.readRpc f) (fun _ => P) fun _ => P :=
  readRpc hP hPf (fun _ _ _ h _ => h) 2

theorem admittedRequests (hP : Steady d strict c P) (hPf : ∀ s now, P s → P (s.flush now)) :
    ∀ rs, Triple d strict c P (Rollouter.admittedRequests rs) (fun _ => P) fun _ => P
  | [] => .ret fun _ _ _ h => h
  | _ :: rs => .bind (readKeep hP hPf) fun _ => .bind (admittedRequests hP hPf rs) fun _ =>
      .ret fun _ _ _ h => h

theorem steady_shut : Steady d strict c fun s => Unsent s c ∧ Shut s c :=
  Neutral.unsent.steady.and .shut

theorem flush_shut (s : TaskState) (now : Nat) (h : Unsent s c ∧ Shut s c) :
    Unsent (s.flush now) c ∧ Shut (s.flush now) c := ⟨h.1, h.2.flush now⟩

theorem recoverForce {r : Replica} {serverId : String} :
    Triple d strict c (fun s => Unsent s c ∧ Shut s c)
      (Rollouter.recoverForce r c.operationId serverId)
      (fun _ s => Unsent s c ∧ Shut s c) fun _ s => Unsent s c ∧ Shut s c := by
  have hset : ∀ v, Triple d strict c (fun s => Unsent s c ∧ Shut s c)
      (TaskProg.call fun s _ => (.ok (), setRecovery s c.operationId v))
      (fun _ s => Unsent s c ∧ Shut s c) fun _ s => Unsent s c ∧ Shut s c := by
    intro v
    refine .call steady_shut ?_
    rintro s o hi hc ⟨hu, hs⟩ -
    exact .ok (hi.setRecovery _) hc ⟨hu, ⟨hs.bound, hs.state⟩, hs.calls, hs.pool⟩
  refine .bind (Q := fun _ s => Unsent s c ∧ Shut s c)
    (.peek steady_shut (fun _ _ _ _ h _ => h) fun _ _ _ _ h _ => h) fun found => ?_
  cases found with
  | some v => exact .ret fun _ _ _ h => h
  | none =>
    refine .bind (readKeep steady_shut flush_shut) fun requests =>
      .bind (admittedRequests steady_shut flush_shut requests) fun admitted =>
      .bind (hset _) fun _ => .bind (Q := fun _ s => Unsent s c ∧ Shut s c)
        (.await steady_shut (fun _ _ _ _ => trivial) ?_)
        fun aborted => .bind (.require (fun _ _ _ _ h => h) fun _ _ _ _ h => h) fun _ =>
          .bind (hset _) fun _ => .ret fun _ _ _ h => h
    rintro s o hi hc h -
    dsimp only
    split
    · exact .error hi hc h
    split
    · exact .error hi hc h
    split
    · exact .ok hi hc h
    · exact .error hi hc h

/-- A wait for the requests of the server. -/
theorem awaitDrain {tag : String} {ready : TaskState → Choice → Bool}
    {f : TaskState → Choice → Except PyErr Unit × TaskState}
    (hf : ∀ s o, (f s o).2 = s ∨ (f s o).2 = s.flush o.now) :
    Triple d strict c (fun s => Unsent s c ∧ Shut s c) (Prog.await (.drain tag) ready f)
      (fun _ s => Unsent s c ∧ Shut s c) fun _ s => Unsent s c ∧ Shut s c := by
  refine .await steady_shut (fun _ _ _ _ => trivial) ?_
  rintro s o hi hc h -
  have hsame : (f s o).2 = s := by
    rcases hf s o with he | he
    · exact he
    · rw [he, flush_eq h.2.calls]
  cases hr : f s o with
  | mk r t =>
    rw [hr] at hsame
    obtain rfl : t = s := hsame
    cases r with
    | ok _ => exact .ok hi hc h
    | error _ => exact .error hi hc h

/-- The handoffs are read before the wait. -/
theorem awaitHandoff {serverId : String} {admitted : List String} {aborted : Option Nat} :
    Triple d strict c (fun s => Unsent s c ∧ Shut s c)
      (Rollouter.awaitHandoff c.operationId serverId admitted aborted)
      (fun _ s => Unsent s c ∧ Shut s c) fun _ s => Unsent s c ∧ Shut s c := by
  refine .bind (readKeep steady_shut flush_shut) fun _ =>
    .bind (.ofExcept (fun _ _ _ _ _ h => h) fun _ _ _ _ _ h => h) fun _ => awaitDrain fun s o => ?_
  dsimp only
  split
  · exact .inl rfl
  split
  · exact .inr rfl
  · exact .inr rfl

theorem prepareNaturalExit (hx : c.kind.exits = true) {st : ReplicaState} :
    Triple d strict c (fun s => Unsent s c ∧ s.manager.replicaState.get? c.target = some st)
      (Rollouter.prepareNaturalExit d c.target c.operationId st)
      (fun _ s => Unsent s c ∧ Shut s c) fun _ s => Unsent s c := by
  refine .bind (requireThat fun _ h => h.1) fun _ => .of_imp fun hst =>
    .bind (enterDraining hx hst) fun _ => .bind ((beginDrainOnce hx).widen fun _ h => h.1) fun x =>
    .bind (requireKeep fun _ h => h.1) fun _ => (awaitDrain fun s o => ?_).widen fun _ h => h.1
  split
  · exact .inl rfl
  split
  · exact .inr rfl
  · exact .inr rfl

/-- What `prepare_exit` has read when it goes on: the state of the record and its binding. -/
def Read (c : OperationCommand) (st : ReplicaState) (previous : Option ReplicaKey) (s : TaskState) :
    Prop :=
  (Unsent s c ∧ s.manager.replicaState.get? c.target = some st) ∧
    s.rollouter.pendingOperationTargets.get? c.operationId = previous

theorem prepareForceExit (hx : c.kind.exits = true) {kind : ReplicaKind} {st : ReplicaState}
    {previous : Option ReplicaKey} :
    Triple d strict c (Read c st previous)
      (Rollouter.prepareForceExit d c.target c.operationId kind st previous)
      (fun _ s => Unsent s c ∧ Shut s c) fun _ s => Unsent s c := by
  have hP : Neutral d strict c (Read c st previous) :=
    (Neutral.unsent.and (.state fun x => x = some st)).and (.binding fun x => x = previous)
  have hread : ∀ {α : Type} (f : GlobalRequestLoadBalancer → α),
      Triple d strict c (Read c st previous) (TaskProg.readRpc f)
        (fun _ => Read c st previous) fun _ s => Unsent s c :=
    fun f => (readKeep hP.steady fun _ now h => hP.flush now h).widen fun _ h => h.1.1
  have hun : ∀ s, Read c st previous s → Unsent s c := fun _ h => h.1.1
  refine .bind (requireKeep hun) fun _ => .bind (requireThat hun) fun _ => .of_imp fun hst =>
    .bind (requireKeep hun) fun _ => .bind (hread _) fun x => .bind (requireKeep hun) fun _ =>
    .bind (hread _) fun active => .bind (requireKeep hun) fun _ => .bind (Q := fun _ =>
      Read c st previous) (.peek hP.steady (fun _ _ _ _ h _ => h) fun _ _ _ _ h _ => h.1.1)
    fun r => .bind (Q := fun _ s => Unsent s c ∧ Leaving s c) ?_ fun _ => ?_
  · refine .when (fun hact => ?_) fun hn s _ _ h => ?_
    · exact (enterDraining hx (.inl hact)).pre fun _ _ _ h => h.1
    · rcases hst with hact | ⟨rfl, rfl⟩
      · exact (hn hact).elim
      · exact ⟨h.1.1, h.2, h.1.2⟩
  exact .bind ((beginDrainOnce hx).widen fun _ h => h.1) fun drained =>
    .bind (requireKeep fun _ h => h.1) fun _ => .bind (recoverForce.widen fun _ h => h.1) fun kept =>
    awaitHandoff.widen fun _ h => h.1

theorem prepareExit (hx : c.kind.exits = true) {force : Bool} :
    Triple d strict c (fun s => Unsent s c)
      (Rollouter.prepareExit d c.target c.operationId force)
      (fun _ s => Unsent s c ∧ Shut s c) fun _ s => Unsent s c := by
  refine .bind (Q := fun p s => Unsent s c ∧ s.manager.replicaState.get? c.target = some p.2)
    (.peek Neutral.unsent.steady (fun _ _ _ _ h hp => ⟨h, (replicaMeta_ok.1 hp).2⟩)
      fun _ _ _ _ h _ => h) ?_
  rintro ⟨kind, st⟩
  have hP : Steady d strict c fun s =>
      Unsent s c ∧ s.manager.replicaState.get? c.target = some st :=
    Neutral.unsent.steady.and (Neutral.state fun x => x = some st).steady
  refine .bind (Q := fun previous => Read c st previous)
    (.peek hP (fun s previous _ _ h hp => ⟨h, ?_⟩) fun _ _ _ _ h _ => h.1) fun previous => ?_
  · obtain ⟨-, -, hp⟩ := except_bind_ok.1 hp
    cases hp
    rfl
  refine .bind (Q := fun _ s => Unsent s c ∧ Shut s c) ?_ fun _ => .call steady_shut ?_
  · cases force with
    | false => exact (prepareNaturalExit hx).pre fun _ _ _ h => h.1
    | true => exact prepareForceExit hx
  · rintro s o hi hc h -
    dsimp only
    cases hn : OperationEvidence.now o.now c.operationId .exitReady with
    | ok ev => exact .ok hi hc h
    | error e => exact .error hi hc h.1

end Triple

end ReplicaLending
