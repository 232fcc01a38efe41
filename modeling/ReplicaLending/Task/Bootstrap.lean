import ReplicaLending.Task.Environment
import ReplicaLending.Task.Exit
/-!
# Bootstrapping a target (`checkpoint_engine_manager.py:365`)

`bootstrap_target` and `commit_pending` of a runtime that waits in the pending table (`Staged`). It is
loaded, confirmed and promoted; a native runtime whose bootstrap fails is asleep and parked again.
-/

namespace ReplicaLending

open TaskState TaskProg Rollouter LLMServerManager CheckpointEngineManager

variable {d : Deployment} {strict : Prop} {c : OperationCommand} {s : TaskState} {r : Replica}
  {G P : TaskState → Prop}

/-- The runtime of the target waits in the pending table for the operation. -/
structure Staged (strict : Prop) (s : TaskState) (c : OperationCommand) (r : Replica) : Prop where
  runtime : s.manager.runtimeInventory.get? c.target = some r
  started : Started s.manager s.rollouter c
  member : s.ce.members c.target = none
  pending : s.ce.pending.get? c.target = some ([r], c.operationId)
  calls : s.inflight = []
  kind : c.kind = .add ∧ r.kind = .borrowed ∨ c.kind = .restore ∧ r.kind = .native ∧
    s.manager.replicaState.get? c.target = some .dormant
  leaving : strict → s.manager.replicaState.get? c.target ≠ some .draining
  built : strict → s.manager.replicaState.get? c.target = some .creating →
    (s.world r.rank).weights = true

namespace Staged

theorem publishes (h : Staged strict s c r) : c.kind.exits = false := by
  rcases h.kind with ⟨hk, -⟩ | ⟨hk, -⟩ <;> rw [hk] <;> rfl

/-- Another world in which the weights of the runtime are as resident as before. -/
theorem reworld (h : Staged strict s c r) {w : Nat → Server}
    (hw : c.kind = .add → (s.world r.rank).weights = true → (w r.rank).weights = true) :
    Staged strict { s with world := w } c r := by
  refine { h with built := fun hst hk => ?_ }
  rcases h.kind with ⟨hadd, -⟩ | ⟨-, -, hd⟩
  · exact hw hadd (h.built hst hk)
  · rw [show s.manager.replicaState.get? c.target = some .creating from hk] at hd
    cases hd

end Staged

theorem Steady.staged : Steady d strict c fun s => Staged strict s c r := by
  intro s t _ h hr _
  constructor
  case runtime => rw [hr.manager]; exact h.runtime
  case started => exact hr.started.2 h.started
  case member => rw [hr.members]; exact h.member
  case pending => rw [hr.pending]; exact h.pending
  case calls => exact hr.calls h.calls
  case kind => rw [hr.manager]; exact h.kind
  case leaving => rw [hr.manager]; exact h.leaving
  case built =>
    intro hst hk
    rw [hr.manager] at hk
    exact (Server.weights_congr (hr.world _)).2 (h.built hst hk)

/-- No receipt of an earlier bootstrap stands in the way. -/
def Fresh (strict : Prop) (s : TaskState) (c : OperationCommand) : Prop :=
  strict ∨ c.kind = .restore → s.ce.ready.get? c.target = none

theorem Steady.fresh : Steady d strict c fun s => Fresh strict s c :=
  .imp _ (.seen fun v => v.ready.get? c.target = none)

/-- The runtime of a target that is being created is up. -/
def Loaded (strict : Prop) (s : TaskState) (c : OperationCommand) (r : Replica) : Prop :=
  Staged strict s c r ∧
    (strict → s.manager.replicaState.get? c.target = some .creating → (s.world r.rank).Awake)

theorem Steady.loaded : Steady d strict c fun s => Loaded strict s c r := by
  refine Steady.staged.and ?_
  intro s t _ h hr _ hst hk
  rw [hr.manager] at hk
  exact (Server.awake_congr (hr.world _)).2 (h hst hk)

/-- Nothing is known to need the runtime of a target that waits. -/
theorem Inv.setStaged (h : Inv d strict s) (hc : Cur d c s) (hs : Staged strict s c r)
    (hg : Guarded s.gate s.nativeSync c.operationId) (v : Server) :
    Inv d strict (s.setServer r.rank v) := by
  refine h.setWorld hc (fun hx => by rw [hs.publishes] at hx; cases hx) fun hst => ?_
  refine Serving.setServer (c := c) h hst (.inl (.inl hs.runtime)) (fun hm => ?_) fun _ _ => ?_
  · rw [hs.member] at hm; cases hm
  · exact .inr ⟨c, hc, hs.publishes, rfl, hg⟩

/-- The receipt of a bootstrap. -/
theorem Inv.confirm (h : Inv d strict s) (hc : Cur d c s) (hs : Staged strict s c r)
    (hg : Guarded s.gate s.nativeSync c.operationId) (version : Nat) (ev : OperationEvidence) :
    Inv d strict { s with ce := s.ce.confirmBootstrap c.target version ev } := by
  have hx := hs.publishes
  have hmem : (s.ce.confirmBootstrap c.target version ev).members c.target = none := hs.member
  have hnative : s.manager.replicaKind.get? c.target = some .native → c.kind = .restore ∧
      s.manager.replicaState.get? c.target = some .dormant := by
    intro hn
    rw [h.wired.runtime_kind hs.runtime] at hn
    rcases hs.kind with ⟨-, hk⟩ | ⟨hk, -, hd⟩
    · rw [hk] at hn; cases hn
    · exact ⟨hk, hd⟩
  refine h.setCe hc ⟨fun _ _ => rfl, fun _ _ => rfl, fun j hj => Dict.get?_insert_ne _ _ hj⟩
    (h.wired.congr (fun _ => rfl) (fun he => he) rfl) (fun _ _ => h.not_in_pool hs.member)
    (fun hd => .inr ⟨(hnative (h.wired.native_of_dormant hd)).1, hg⟩) (fun hn hd _ => ?_)
    (fun hb _ => ⟨?_, hg⟩) (fun _ _ => hmem) (fun _ hm => ?_) (fun _ r' hm => ?_)
    (fun _ _ => .inr ⟨hx, hg⟩) (fun _ _ => ?_) fun _ hrel => ?_
  · rw [(hnative hn).2] at hd; cases hd
  · rw [h.wired.runtime_kind hs.runtime] at hb
    rcases hs.kind with ⟨hk, -⟩ | ⟨-, hk, -⟩
    · exact hk
    · rw [hk] at hb; cases hb
  · rw [hmem] at hm; cases hm
  · rw [hmem] at hm; cases hm
  · rw [h.wired.runtime_kind hs.runtime]; rfl
  · have hgone := h.wired.released_gone hrel
    rw [hs.runtime] at hgone; cases hgone

/-- What `bootstrap_target` starts from. -/
def Waits (strict : Prop) (G : TaskState → Prop) (c : OperationCommand) (r : Replica)
    (s : TaskState) : Prop := (G s ∧ Staged strict s c r) ∧ Fresh strict s c

/-- Which operation bootstraps which kind of runtime. -/
def Suits (c : OperationCommand) (r : Replica) : Prop :=
  c.kind = .add ∧ r.kind = .borrowed ∨ c.kind = .restore ∧ r.kind = .native

namespace Triple

theorem steady_waits (hG : Framed d strict c G) : Steady d strict c (Waits strict G c r) :=
  (hG.steady.and .staged).and .fresh

/-- A call per runtime, when there is one. -/
theorem gather {α : Type} {f : Replica → TaskProg α} {Q : α → TaskState → Prop}
    {E : PyErr → TaskState → Prop} (h : Triple d strict c P (f r) Q E) :
    Triple d strict c P (Trainer.gather f [r]) (fun as s => ∃ a, as = [a] ∧ Q a s) E := by
  refine .bind h fun a => .bind (Q := fun as s => as = [] ∧ Q a s) (.ret fun _ _ _ h => ⟨rfl, h⟩)
    fun as => .of_imp ?_
  rintro rfl
  exact .ret fun _ _ _ h => ⟨a, rfl, h⟩

theorem gatherKeep {α : Type} {f : Replica → TaskProg α} {E : PyErr → TaskState → Prop}
    (h : Triple d strict c P (f r) (fun _ => P) E) :
    Triple d strict c P (Trainer.gather f [r]) (fun _ => P) E :=
  (gather h).conseq (fun _ _ _ h => h) (fun _ _ _ _ ⟨_, _, h⟩ => h) fun _ _ _ _ h => h

/-- A call to a runtime that waits; the weights of a borrowed one stay resident. -/
theorem onWaiting {α : Type} (hG : Framed d strict c G)
    (hguard : ∀ s, G s → Guarded s.gate s.nativeSync c.operationId)
    {f : (Nat → Fault) → Server → Except PyErr α × Server} {X : TaskState → Prop}
    {Q : α → TaskState → Prop} (hX : Steady d strict c X)
    (hweights : c.kind = .add → ∀ x v, v.weights = true → (f x v).2.weights = true)
    (hQ : ∀ s x a, X s → (f x (s.world r.rank)).1 = .ok a →
      Q a (s.setServer r.rank (f x (s.world r.rank)).2)) :
    Triple d strict c (fun s => Waits strict G c r s ∧ X s) (TaskProg.onServer r f)
      (fun a s => Waits strict G c r s ∧ Q a s) fun _ => Waits strict G c r := by
  have hset : ∀ s x, Waits strict G c r s →
      Waits strict G c r (s.setServer r.rank (f x (s.world r.rank)).2) := by
    rintro s x ⟨⟨hg, hs⟩, hf⟩
    refine ⟨⟨hG.same s _ hg rfl rfl, hs.reworld fun hadd hw => ?_⟩, hf⟩
    rw [Function.update_self]
    exact hweights hadd x _ hw
  exact .onServer ((steady_waits hG).and hX)
    (fun s x hi hc h => hi.setStaged hc.1 h.1.1.2 (hguard s h.1.1.1) _)
    (fun s x a _ _ h ha => ⟨hset s x h.1, hQ s x a h.2 ha⟩) (fun _ s x _ _ h => hset s x h.1)
    fun _ _ _ _ h => h.1

/-- The same when nothing else is of interest. -/
theorem onWaitingKeep {α : Type} (hG : Framed d strict c G)
    (hguard : ∀ s, G s → Guarded s.gate s.nativeSync c.operationId)
    {f : (Nat → Fault) → Server → Except PyErr α × Server}
    (hweights : c.kind = .add → ∀ x v, v.weights = true → (f x v).2.weights = true) :
    Triple d strict c (Waits strict G c r) (TaskProg.onServer r f)
      (fun _ => Waits strict G c r) fun _ => Waits strict G c r :=
  (onWaiting (X := fun _ => True) (Q := fun _ _ => True) hG hguard (.const _) hweights
    fun _ _ _ _ _ => trivial).conseq (fun _ _ _ h => ⟨h, trivial⟩) (fun _ _ _ _ h => h.1)
      fun _ _ _ _ h => h

theorem wakeForBootstrap (hG : Framed d strict c G)
    (hguard : ∀ s, G s → Guarded s.gate s.nativeSync c.operationId) (hk : Suits c r) :
    Triple d strict c (Waits strict G c r) (Trainer.wakeForBootstrap d [r] r.kind)
      (fun _ => Waits strict G c r) fun _ => Waits strict G c r := by
  rcases hk with ⟨-, hb⟩ | ⟨hr, hn⟩
  · rw [hb]
    refine .bind (Q := fun _ => Waits strict G c r) (raising (gatherKeep (onWaitingKeep hG hguard ?_)))
      fun _ => .ret fun _ _ _ h => h
    intro _ x v hw
    rw [Replica.releaseKvCache_weights]
    exact hw
  · rw [hn]
    have hnadd : ¬ c.kind = .add := by rw [hr]; decide
    refine .bind (Q := fun _ => Waits strict G c r) (raising (gatherKeep
      (onWaitingKeep hG hguard fun hadd => (hnadd hadd).elim))) fun placements =>
        .bind (Q := fun _ => Waits strict G c r) (raising (requireKeep fun _ h => h)) fun _ =>
          .bind (Q := fun _ => Waits strict G c r) (raising (gatherKeep
            (onWaitingKeep hG hguard fun hadd => (hnadd hadd).elim))) fun _ => .ret fun _ _ _ h => h

/-- A collective call tells nothing. -/
theorem collective {m : String} (hP : Steady d strict c P) :
    Triple d strict c P (Trainer.collective m) (fun _ => P) fun _ => P := by
  refine .call hP ?_
  intro s o hi hc hp _
  dsimp only
  split
  · exact .ok hi hc hp
  · exact .error hi hc hp

/-- The weights arrive, with their version. -/
theorem transfer (hG : Framed d strict c G) {version : Nat} :
    Triple d strict c (Waits strict G c r) (Trainer.transfer [r] version)
      (fun _ => Waits strict G c r) fun _ => Waits strict G c r := by
  refine .call (steady_waits hG) ?_
  rintro s o hi hc ⟨⟨hg, hs⟩, hf⟩ -
  have hw := unversioned_loadRanks (s := s) ([r].map Replica.rank) version
  have hi' := hi.reload s.ce hw (fun _ => rfl) rfl rfl rfl
  have hs' := hs.reworld (w := s.loadRanks ([r].map Replica.rank) version)
    fun _ h => (Server.weights_congr (hw r.rank)).2 h
  have hall : Waits strict G c r { s with world := s.loadRanks ([r].map Replica.rank) version } :=
    ⟨⟨hG.same s _ hg rfl rfl, hs'⟩, hf⟩
  dsimp only
  cases o.fault with
  | none => exact .ok hi' hc hall
  | before => exact .error hi hc ⟨⟨hg, hs⟩, hf⟩
  | after => exact .error hi' hc hall
  | late => exact .error hi' hc hall

/-- A loaded runtime that serves and confirms is up. -/
theorem loadTarget (hG : Framed d strict c G)
    (hguard : ∀ s, G s → Guarded s.gate s.nativeSync c.operationId) {version : Nat}
    {uuids : List String} :
    Triple d strict c (Waits strict G c r)
      (Trainer.loadTarget d c.target c.operationId version [r] uuids)
      (fun ev s => G s ∧ Loaded strict s c r ∧ ev.type = .weightReady)
      fun _ => Waits strict G c r := by
  have hW : Steady d strict c (Waits strict G c r) := steady_waits hG
  have hkv : Steady d strict c fun s => (s.world r.rank).kv = true :=
    .seen fun v => (v.world r.rank).kv = true
  have halive : Steady d strict c fun s => (s.world r.rank).serverAlive = true :=
    .seen fun v => (v.world r.rank).serverAlive = true
  refine .bind (Q := fun _ => Waits strict G c r) (raising (.bind (collective hW) fun _ =>
    .bind (transfer hG) fun _ => collective hW)) fun _ => raising ?_
  refine .bind (Q := fun _ s => Waits strict G c r s ∧ (s.world r.rank).kv = true) ?resume fun _ =>
    .bind (Q := fun _ s => Waits strict G c r s ∧ (s.world r.rank).kv = true ∧
      (s.world r.rank).serverAlive = true) ?health fun _ => ?rest
  case resume =>
    refine (gather (onWaiting (X := fun _ => True) (Q := fun _ s => (s.world r.rank).kv = true) hG
      hguard (.const _) (fun _ x v hw => ?_) fun s x a _ hok => ?_)).conseq
      (fun _ _ _ h => ⟨h, trivial⟩) (fun _ _ _ _ ⟨_, _, h⟩ => h) fun _ _ _ _ h => h
    · rw [Replica.resumeKvCache_weights]; exact hw
    · rw [world_setServer]
      exact Replica.resumeKvCache_ok hok
  case health =>
    refine (gather (onWaiting (Q := fun _ s => (s.world r.rank).kv = true ∧
      (s.world r.rank).serverAlive = true) hG hguard hkv (fun _ x v hw => ?_)
      fun s x a h hok => ?_)).conseq (fun _ _ _ h => h) (fun _ _ _ _ ⟨_, _, h⟩ => h)
      fun _ _ _ _ h => h
    · rw [Replica.validateServerRuntime_same]; exact hw
    · rw [world_setServer, Replica.validateServerRuntime_same]
      exact ⟨h, Replica.validateServerRuntime_ok (Prod.ext hok rfl)⟩
  have hup : Steady d strict c fun s => Waits strict G c r s ∧ (s.world r.rank).kv = true ∧
      (s.world r.rank).serverAlive = true := hW.and (hkv.and halive)
  refine .bind (requireKeep fun _ h => h.1) fun _ => .bind (Q := fun _ s => Waits strict G c r s ∧
    (s.world r.rank).kv = true ∧ (s.world r.rank).serverAlive = true)
    (.when (fun _ => (collective hup).widen fun _ h => h.1) fun _ _ _ _ h => h) fun _ => .call hup ?_
  rintro s o hi hc ⟨⟨⟨hg, hs⟩, hf⟩, hv, ha⟩ -
  dsimp only
  cases hnow : OperationEvidence.now o.now c.operationId .weightReady with
  | error e => exact .error hi hc ⟨⟨hg, hs⟩, hf⟩
  | ok ev =>
    refine .ok (hi.confirm hc.1 hs (hguard s hg) version ev) hc
      ⟨hG.same s _ hg rfl rfl, ⟨{ hs with }, fun hst hk => ⟨ha, ?_⟩⟩,
        (OperationEvidence.now_ok hnow).2.1⟩
    unfold Server.isSleeping
    rw [show (s.world r.rank).weights = true from hs.built hst hk, hv]
    rfl

/-- The cleanup of a failed bootstrap: a native runtime is asleep again, a borrowed one left alone. -/
theorem bootstrapFailed (hG : Framed d strict c G)
    (hguard : ∀ s, G s → Guarded s.gate s.nativeSync c.operationId) (hk : Suits c r)
    {e : PyErr × Trainer.Bootstrap} :
    Triple d strict c (Waits strict G c r)
      (Trainer.bootstrapFailed d c.operationId [r] r.kind e)
      (fun ev s => Waits strict G c r s ∧ ev.type = .released) fun _ => Waits strict G c r := by
  have hW : Steady d strict c (Waits strict G c r) := steady_waits hG
  have hclean : ∀ {α : Type} {p : TaskProg α} {f : Except PyErr α → TaskProg Bool},
      Triple d strict c (Waits strict G c r) p (fun _ => Waits strict G c r)
        (fun _ => Waits strict G c r) → (∀ x, ∃ b, f x = .ret b) →
      Triple d strict c (Waits strict G c r) (p.result.bind f) (fun _ => Waits strict G c r)
        fun _ => Waits strict G c r := by
    intro α p f hp hf
    refine .bind (Q := fun _ => Waits strict G c r) (.result hp) fun x => ?_
    obtain ⟨b, hb⟩ := hf x
    rw [hb]
    exact .ret fun _ _ _ h => h
  refine .bind (Q := fun _ => Waits strict G c r) ?finalize fun _ =>
    .bind (Q := fun _ => Waits strict G c r) ?resleep fun _ => .bind (requireKeep fun _ h => h)
      fun _ => ?verdict
  case finalize =>
    unfold Trainer.finalizeFailed
    split
    · exact hclean (collective hW) fun x => ⟨_, rfl⟩
    · exact .ret fun _ _ _ h => h
  case resleep =>
    unfold Trainer.resleep
    rcases hk with ⟨-, hb⟩ | ⟨hr, hn⟩
    · rw [hb]
      exact .ret fun _ _ _ h => h
    · rw [hn]
      exact hclean (gatherKeep (onWaitingKeep hG hguard fun hadd => by rw [hr] at hadd; cases hadd))
        fun x => ⟨_, rfl⟩
  case verdict =>
    rcases hk with ⟨-, hb⟩ | ⟨-, hn⟩
    · rw [hb]
      exact .raise fun _ _ _ h => h
    · rw [hn]
      refine .call hW ?_
      intro s o hi hc h _
      dsimp only
      cases hnow : OperationEvidence.now o.now c.operationId .released e.2.releasedGpuUuids with
      | error e => exact .error hi hc h
      | ok ev => exact .ok hi hc ⟨h, (OperationEvidence.now_ok hnow).2.1⟩

theorem bootstrapHead (hG : Framed d strict c G) {version : Nat} :
    Triple d strict c (Waits strict G c r)
      (TaskProg.call (Trainer.bootstrapHead d c.target c.operationId version))
      (fun x s => Waits strict G c r s ∧ match x with
        | .inl _ => ¬ (strict ∨ c.kind = .restore)
        | .inr p => p = ([r], r.kind)) fun _ => Waits strict G c r := by
  refine .call (steady_waits hG) ?_
  rintro s o hi hc ⟨⟨hg, hs⟩, hf⟩ -
  unfold Trainer.bootstrapHead
  split
  · exact .error hi hc ⟨⟨hg, hs⟩, hf⟩
  unfold bootstrapEntry
  cases hready : s.ce.ready.get? c.target with
  | some e =>
    have hstale : ¬ (strict ∨ c.kind = .restore) := fun h => by
      rw [hf h] at hready; cases hready
    dsimp only
    by_cases hother : e.1 ≠ c.operationId ∨ e.2.1 ≠ version
    · rw [if_pos hother]
      exact .error hi hc ⟨⟨hg, hs⟩, hf⟩
    · rw [if_neg hother]
      exact .ok hi hc ⟨⟨⟨hg, hs⟩, hf⟩, hstale⟩
  | none =>
    rw [hs.pending]
    dsimp only
    rw [if_neg (not_not.2 rfl)]
    dsimp only
    split_ifs
    · exact .error hi hc ⟨⟨hg, hs⟩, hf⟩
    · exact .error hi hc ⟨⟨hg, hs⟩, hf⟩
    · exact .ok hi hc ⟨⟨⟨hg, hs⟩, hf⟩, rfl⟩

end Triple

/-- How a bootstrap ends: loaded, or verified to be asleep and parked again. -/
def Bootstrapped (strict : Prop) (c : OperationCommand) (r : Replica) (ev : OperationEvidence)
    (s : TaskState) : Prop :=
  Loaded strict s c r ∧ (c.kind = .restore → ev.type = .weightReady) ∨
    ev.type = .released ∧ Staged strict s c r ∧ Fresh strict s c

theorem Steady.bootstrapped {ev : OperationEvidence} :
    Steady d strict c (Bootstrapped strict c r ev) :=
  (Steady.loaded.and (.const _)).or ((Steady.const _).and (Steady.staged.and .fresh))

namespace Triple

theorem bootstrapTarget (hG : Framed d strict c G)
    (hguard : ∀ s, G s → Guarded s.gate s.nativeSync c.operationId) (hk : Suits c r)
    {version : Nat} :
    Triple d strict c (Waits strict G c r)
      (Trainer.bootstrapTarget d c.target c.operationId version)
      (fun ev s => G s ∧ Bootstrapped strict c r ev s) fun _ => Waits strict G c r := by
  refine .bind (bootstrapHead hG) fun x => ?_
  cases x with
  | inl ev =>
    refine .ret fun s _ _ ⟨⟨⟨hg, hs⟩, _⟩, hstale⟩ => ⟨hg, .inl ⟨⟨hs, fun hst => ?_⟩, fun hr => ?_⟩⟩
    · exact (hstale (.inl hst)).elim
    · exact (hstale (.inr hr)).elim
  | inr p =>
    rintro s hi ⟨hc, hw, rfl⟩
    refine Triple.tryCatch (E := fun _ => Waits strict G c r) ?_ (fun e => ?_) s hi ⟨hc, hw⟩
    · exact .bind (wakeForBootstrap hG hguard hk) fun uuids => (loadTarget hG hguard).conseq
        (fun _ _ _ h => h) (fun _ _ _ _ h => ⟨h.1, .inl ⟨h.2.1, fun _ => h.2.2⟩⟩) fun _ _ _ _ h => h
    · exact (bootstrapFailed hG hguard hk).conseq (fun _ _ _ h => h)
        (fun _ _ _ _ h => ⟨h.1.1.1, .inr ⟨h.2, h.1.1.2, h.1.2⟩⟩) fun _ _ _ _ h => h

/-- A target with a receipt is not bootstrapped again. -/
theorem bootstrapReplay (hP : Steady d strict c P)
    (hr : ∀ s, P s → (s.ce.ready.get? c.target).isSome) {version : Nat} :
    Triple d strict c P (Trainer.bootstrapTarget d c.target c.operationId version)
      (fun _ => P) fun _ => P := by
  refine .bind (Q := fun x s => (∃ ev, x = .inl ev) ∧ P s) (.call hP ?_) fun x => ?_
  · intro s o hi hc hp _
    unfold Trainer.bootstrapHead
    split
    · exact .error hi hc hp
    unfold bootstrapEntry
    obtain ⟨e, he⟩ := Option.isSome_iff_exists.1 (hr s hp)
    rw [he]
    dsimp only
    by_cases hother : e.1 ≠ c.operationId ∨ e.2.1 ≠ version
    · rw [if_pos hother]
      exact .error hi hc hp
    · rw [if_neg hother]
      exact .ok hi hc ⟨⟨_, rfl⟩, hp⟩
  · refine .of_imp ?_
    rintro ⟨ev, rfl⟩
    exact .ret fun _ _ _ h => h

end Triple

/-! ## `commit_pending` -/

/-- The runtime becomes a member. -/
theorem Inv.promoteLoaded (h : Inv d strict s) (hc : Cur d c s) (hl : Loaded strict s c r)
    (hg : Guarded s.gate s.nativeSync c.operationId) (v : Nat) :
    Inv d strict { s with ce := s.ce.promote c.target [r] v } := by
  obtain ⟨hs, hawake⟩ := hl
  have hx := hs.publishes
  have hmem : (s.ce.promote c.target [r] v).members c.target = some [r] := by
    rw [members_promote, if_pos rfl]
  refine h.setCe hc off_promote (h.wired.promote hs.pending) (fun hn => ?_) (fun hd => .inr ⟨?_, hg⟩)
    (fun _ _ hn => ?_) (fun _ hp => ?_) (fun hex _ => ?_) (fun _ _ => .inr ⟨hx, hg⟩)
    (fun hst r' hr' hk => ?_) (fun _ _ => .inl (by rw [hmem]; rfl)) (fun _ _ => ?_) fun _ hrel => ?_
  · rw [hmem] at hn; cases hn
  · rcases hs.kind with ⟨-, hk⟩ | ⟨hk, -⟩
    · have hn := h.wired.native_of_dormant hd
      rw [h.wired.runtime_kind hs.runtime, hk] at hn
      cases hn
    · exact hk
  · rw [hmem] at hn; cases hn
  · rw [pending_promote] at hp; cases hp
  · rw [hx] at hex; cases hex
  · rw [hmem] at hr'
    cases hr'
    rcases hk with (hk | hk) | hk
    · have := h.wired.active_member hk
      rw [hs.member] at this; cases this
    · exact (hs.leaving hst hk).elim
    · exact hawake hst hk
  · rw [h.wired.runtime_kind hs.runtime]; rfl
  · have hgone := h.wired.released_gone hrel
    rw [hs.runtime] at hgone; cases hgone

/-- The runtime is a member, and the operation goes on. -/
structure Promoted (s : TaskState) (c : OperationCommand) (r : Replica) : Prop where
  runtime : s.manager.runtimeInventory.get? c.target = some r
  started : Started s.manager s.rollouter c
  member : s.ce.members c.target = some [r]

namespace Triple

variable {lease : GateOwner}

theorem commitPending {ev : OperationEvidence} :
    Triple d strict c (fun s => Owning c.operationId lease s ∧ Loaded strict s c r)
      (TaskProg.guard lease (Trainer.commitPending c.target ev))
      (fun _ s => Owning c.operationId lease s ∧ Promoted s c r)
      fun _ s => Owning c.operationId lease s ∧ Loaded strict s c r := by
  refine .guard (Framed.owning.steady.and .loaded) (fun _ h => h.1) (fun s o => ?_) ?_
  · unfold Trainer.commitPending onCe
    split <;> rfl
  rintro s o hi hc ⟨how, hl⟩ -
  unfold Trainer.commitPending onCe
  dsimp only
  cases hok : s.ce.commitPending (decide (o.fault ≠ .none)) c.target ev s.currentParamVersion with
  | error e => exact .error hi hc ⟨how, hl⟩
  | ok ce =>
    rcases commitPending_ok hok with ⟨-, hm⟩ | ⟨rs, op, hp, rfl⟩
    · rw [hl.1.member] at hm; cases hm
    · rw [hl.1.pending] at hp
      cases hp
      refine .ok (hi.promoteLoaded hc.1 hl (.inl how.held) _) hc
        ⟨how, hl.1.runtime, hl.1.started, ?_⟩
      rw [members_promote, if_pos rfl]

end Triple

end ReplicaLending
