import ReplicaLending.Task.Effects
/-!
# What the thread knows between two steps

The assertions of the lifecycle methods and why the rest of the task leaves them alone, and the rules
for the kinds of step the methods share: a write of one owner, a call to a runtime.
-/

namespace ReplicaLending

open TaskState TaskProg CheckpointEngineManager

variable {d : Deployment} {strict : Prop} {c : OperationCommand} {s t : TaskState} {o : String}

namespace Rely

theorem manager (h : Rely o s t) : t.manager = s.manager := congrArg View.manager h.view

theorem pending (h : Rely o s t) : t.ce.pending = s.ce.pending := congrArg View.pending h.view

theorem ready (h : Rely o s t) : t.ce.ready = s.ce.ready := congrArg View.ready h.view

theorem members (h : Rely o s t) (k : ReplicaKey) : t.ce.members k = s.ce.members k :=
  congrFun (congrArg View.members h.view) k

theorem target (h : Rely o s t) : t.rollouter.pendingOperationTargets.get? o =
    s.rollouter.pendingOperationTargets.get? o := congrArg View.target h.view

theorem world (h : Rely o s t) (n : Nat) : (t.world n).unversioned = (s.world n).unversioned :=
  congrFun (congrArg View.world h.view) n

theorem calls (h : Rely o s t) (hs : s.inflight = []) : t.inflight = [] := (h.router hs).1

theorem routes (h : Rely o s t) (hs : s.inflight = []) : t.lb.routes = s.lb.routes :=
  (h.router hs).2.2.1

theorem parked {k : ReplicaKey} (h : Rely o s t) :
    Parked t.manager t.ce k ↔ Parked s.manager s.ce k := by
  unfold Parked
  rw [h.manager, h.pending, h.ready, h.members]

theorem started (h : Rely c.operationId s t) :
    Started t.manager t.rollouter c ↔ Started s.manager s.rollouter c := by
  unfold Started
  rw [h.manager, h.target]

end Rely

namespace Steady

theorem lined : Steady d strict c fun s => Lined s c := by
  intro s t _ h hr _
  unfold Lined at h ⊢
  rw [hr.parked, hr.manager, hr.members]
  exact h

theorem clear : Steady d strict c fun s => Clear strict s c := by
  intro s t _ h hr _
  constructor
  case dormant => rw [hr.parked, hr.manager]; exact h.dormant
  case hidden => rw [hr.manager, hr.pending]; exact h.hidden
  case calls => exact hr.calls h.calls
  case state => rw [hr.manager, hr.members]; exact h.state
  case built =>
    intro hs hk r hi
    rw [hr.manager] at hk hi
    exact (Server.weights_congr (hr.world _)).2 (h.built hs hk r hi)
  case receipt => rw [hr.ready, hr.members]; exact h.receipt
  case leaving => rw [hr.started, hr.manager]; exact h.leaving

/-- A fact about the Manager. -/
theorem manager (F : LLMServerManager → Prop) : Steady d strict c fun s => F s.manager :=
  seen fun v => F v.manager

theorem started : Steady d strict c fun s => Started s.manager s.rollouter c :=
  fun _ _ _ h hr _ => hr.started.2 h

end Steady

/-! ## Frames -/

/-- A fact about the gate that the thread keeps while it works on other things. -/
structure Framed (d : Deployment) (strict : Prop) (c : OperationCommand) (G : TaskState → Prop) :
    Prop where
  steady : Steady d strict c G
  same : ∀ s t, G s → t.gate = s.gate → t.nativeSync = s.nativeSync → G t

theorem Framed.trivial : Framed d strict c fun _ => True := ⟨.const _, fun _ _ h _ _ => h⟩

theorem Owning.same {lease : GateOwner} {t : TaskState} (h : Owning o lease s)
    (hg : t.gate = s.gate) (hn : t.nativeSync = s.nativeSync) : Owning o lease t := by
  unfold Owning Latched at h ⊢
  rw [hg, hn]; exact h

theorem Framed.owning {lease : GateOwner} : Framed d strict c (Owning o lease) where
  steady := .owning
  same := fun _ _ h hg hn => h.same hg hn

theorem Framed.recovering : Framed d strict c (Recovering o) where
  steady := .recovering
  same := by
    intro s t h hg hn
    unfold Recovering Latched at h ⊢
    rw [hg, hn]; exact h

/-! ## Bindings -/

theorem Inv.bound (h : Inv d strict s) (hc : Cur d c s) {k : ReplicaKey}
    (hk : s.rollouter.pendingOperationTargets.get? c.operationId = some k) : k = c.target := by
  obtain ⟨c', hc', hk'⟩ := h.bindings.target hk
  rw [(h.cur_command hc).1] at hc'
  cases hc'
  exact hk'.symm

theorem getPendingTarget_eq {k : ReplicaKey} (h : Rollouter.getPendingTarget s o = .ok k) :
    s.rollouter.pendingOperationTargets.get? o = some k := by
  unfold Rollouter.getPendingTarget at h
  split at h
  · cases h; assumption
  · cases h

/-! ## What is known of the target -/

/-- An operation that exits its target has no release recorded while the target is in service. -/
theorem Inv.not_recorded (h : Inv d strict s) (hc : Cur d c s)
    (hs : InService s.manager c.target) :
    c.kind.exits = true → ¬ Recorded s.manager c.target c.operationId := by
  intro hx hr
  rcases (h.reported.gone hc hx hr).closed with hk | hk <;> rcases hs with hs | hs <;>
    rw [hk] at hs <;> cases hs

/-- Late calls need a target in service. -/
theorem Inv.no_calls (h : Inv d strict s) (hc : Cur d c s)
    (hs : ¬ InService s.manager c.target) (hq : c.kind.exits = true →
      s.manager.replicaState.get? c.target ≠ some .quarantined) : s.inflight = [] := by
  by_contra hne
  obtain ⟨c', hc', hcalls, hrest⟩ := h.inFlight hne
  obtain rfl := hc.eq hc'
  cases hx : c.kind.exits with
  | true =>
    rw [if_pos hx] at hrest
    rcases h.bindings.exit hc hx hrest with hk | hk
    · exact hs (.inr hk)
    · exact hq hx hk
  | false =>
    obtain ⟨call, hm⟩ := List.exists_mem_of_ne_nil _ hne
    have hcall := hcalls call hm
    cases call with
    | commitReady =>
      obtain ⟨-, rfl, -, hk, -⟩ := hcall
      exact hs (.inl hk)
    | beginDrain =>
      obtain ⟨hex, -⟩ := hcall
      rw [hx] at hex; cases hex
    | finishRemove =>
      obtain ⟨rfl, hk⟩ := hcall
      exact hs (.inr hk)

/-- Only a target in service has a route. -/
theorem Inv.no_route (h : Inv d strict s) {k : ReplicaKey} (hs : ¬ InService s.manager k) :
    s.lb.routes.get? k = none := by
  refine Option.eq_none_iff_forall_ne_some.2 fun x hx => ?_
  obtain ⟨-, -, -, hk⟩ := h.routed.route hx
  exact hs hk

/-- The server of a target that is no member is not in the pool. -/
theorem Inv.not_in_pool (h : Inv d strict s) {k : ReplicaKey} (hm : s.ce.members k = none)
    {x : String} (hx : s.lb.routes.get? k = some x) : s.lb.servers.get? x = none := by
  refine Option.eq_none_iff_forall_ne_some.2 fun n hsv => ?_
  obtain ⟨k', hk', hmem⟩ := h.routed.pool (x := x) (by rw [hsv]; rfl)
  obtain ⟨r₁, hi₁, rfl, -⟩ := h.routed.route hx
  obtain ⟨r₂, hi₂, ha, -⟩ := h.routed.route hk'
  obtain rfl := h.wired.address_inj hi₁ hi₂ ha
  rw [hm] at hmem
  cases hmem

/-! ## Steps -/

namespace Triple

variable {ε α : Type} {P : TaskState → Prop} {Q : α → TaskState → Prop}

/-- A call to a runtime. -/
theorem onServer {r : Replica} {f : (Nat → Fault) → Server → Except PyErr α × Server}
    {E : PyErr → TaskState → Prop} (hP : Steady d strict c P)
    (hset : ∀ s x, Inv d strict s → Run d c s → P s →
      Inv d strict (s.setServer r.rank (f x (s.world r.rank)).2))
    (hQ : ∀ s x a, Inv d strict s → Run d c s → P s → (f x (s.world r.rank)).1 = .ok a →
      Q a (s.setServer r.rank (f x (s.world r.rank)).2))
    (hE : ∀ e s x, Inv d strict s → Run d c s → P s →
      E e (s.setServer r.rank (f x (s.world r.rank)).2))
    (hE₀ : ∀ e s, Inv d strict s → Run d c s → P s → E e s) :
    Triple d strict c P (TaskProg.onServer r f) Q E := by
  refine .call hP ?_
  intro s o hi hc hs _
  dsimp only
  cases o.fault with
  | before => exact .error hi hc (hE₀ _ s hi hc hs)
  | after => exact .error (hset s _ hi hc hs) hc (hE _ s _ hi hc hs)
  | late => exact .error (hset s _ hi hc hs) hc (hE _ s _ hi hc hs)
  | none =>
    have hi' := hset s o.inner hi hc hs
    have hE' := fun e => hE e s o.inner hi hc hs
    have hQ' := fun a => hQ s o.inner a hi hc hs
    dsimp only
    cases hf : (f o.inner (s.world r.rank)).1 with
    | ok a => exact .ok hi' hc (hQ' a hf)
    | error e => exact .error hi' hc (hE' e)

theorem raising {β : Type} {p : TaskProg α} {l : β} {E : PyErr × β → TaskState → Prop}
    (h : Triple d strict c P p Q fun e => E (e, l)) :
    Triple d strict c P (Trainer.raising l p) Q E := .mapErr h

/-- Either precondition will do. -/
theorem or {P' : TaskState → Prop} {p : Prog TaskState Choice Event ε α}
    {E : ε → TaskState → Prop} (h : Triple d strict c P p Q E) (h' : Triple d strict c P' p Q E) :
    Triple d strict c (fun s => P s ∨ P' s) p Q E := by
  rintro s hi ⟨hc, hp | hp⟩
  · exact h s hi ⟨hc, hp⟩
  · exact h' s hi ⟨hc, hp⟩

/-- What is known is more than what an error keeps. -/
theorem widen {p : Prog TaskState Choice Event ε α} {E E' : TaskState → Prop}
    (h : Triple d strict c P p Q fun _ => E) (hE : ∀ s, E s → E' s) :
    Triple d strict c P p Q fun _ => E' :=
  h.conseq (fun _ _ _ h => h) (fun _ _ _ _ h => h) fun _ s _ _ h => hE s h

/-- A remote call, where one thing is known whatever becomes of it. -/
theorem remote {p : TaskProg α} {E E' : TaskState → Prop} (hP : Steady d strict c P)
    (hp : Triple d strict c P p Q fun _ => E) (hQ : ∀ a, Steady d strict c (Q a))
    (hE : Steady d strict c E) (hPE : ∀ s, Inv d strict s → Run d c s → P s → E' s)
    (hQE : ∀ a s, Inv d strict s → Run d c s → Q a s → E' s)
    (hEE : ∀ s, Inv d strict s → Run d c s → E s → E' s) :
    Triple d strict c P (TaskProg.rpc p) Q fun _ => E' :=
  rpc hP hp hQ (fun _ => hE) hPE hQE fun _ s hi hc h => ⟨hEE s hi hc h, hEE s hi hc h⟩

/-- The Trainer asks the Rollouter what the operation is bound to. -/
theorem pendingTarget (hP : Steady d strict c P) :
    Triple d strict c P (Trainer.pendingTarget c.operationId)
      (fun k s => k = c.target ∧
        s.rollouter.pendingOperationTargets.get? c.operationId = some c.target ∧ P s)
      fun _ => P := by
  have hb : Steady d strict c fun s =>
      s.rollouter.pendingOperationTargets.get? c.operationId = some c.target :=
    .seen fun v => v.target = some c.target
  refine remote (E := P) hP (.peek hP (fun s k hi hc h hk => ?_) fun _ _ _ _ h _ => h)
    (fun k => (Steady.const _).and (hb.and hP)) hP (fun _ _ _ h => h) (fun _ _ _ _ h => h.2.2)
    fun _ _ _ h => h
  have hk := getPendingTarget_eq hk
  obtain rfl := hi.bound hc.1 hk
  exact ⟨rfl, hk, h⟩

/-- A guard clause that changes nothing, and what it says when it passes. -/
theorem requireKeep {q : Prop} [Decidable q] {e : PyErr} {E : PyErr → TaskState → Prop}
    (hE : ∀ s, P s → E e s) : Triple d strict c P (TaskProg.require q e) (fun _ => P) E :=
  .require (fun _ _ _ _ h => h) fun _ s _ _ h => hE s h

theorem requireThat {q : Prop} [Decidable q] {e : PyErr} {E : PyErr → TaskState → Prop}
    (hE : ∀ s, P s → E e s) :
    Triple d strict c P (TaskProg.require q e) (fun _ s => q ∧ P s) E :=
  .require (fun hq _ _ _ h => ⟨hq, h⟩) fun _ s _ _ h => hE s h

theorem raise {e : PyErr} {E : PyErr → TaskState → Prop}
    (h : ∀ s, Inv d strict s → Run d c s → P s → E e s) :
    Triple d strict c P (TaskProg.raise e : TaskProg α) Q E := .err h

end Triple

end ReplicaLending
