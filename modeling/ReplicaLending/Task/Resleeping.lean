import ReplicaLending.Task.Soundness
/-!
# A failed bootstrap of a native target (`checkpoint_engine_manager.py:421-628`)

Some step of the guarded section of `bootstrap_target` has failed, the compensating finalize and the
sleep of every runtime have succeeded: what is returned then. The others may do what they like, except
to the runtimes of the target and to its receipt.

| here | there |
| --- | --- |
| `Compensated` | a run through the `except` (:590-612) whose cleanups succeed |
| `Resolved`    | RELEASED for the operation and its accelerators (:618-627) |
| `Placed`      | `worker_placements` of every runtime replies with an accelerator (:425-437) |

Python's `gather` starts all its calls; a target has one runtime (trainer.py:226, :489), for which
that is the same.
-/

namespace ReplicaLending

open TaskProg TaskState

/-- Whole-accelerator sleep as the server confirms it (http_server.py:189-226). -/
def Server.Asleep (v : Server) : Prop :=
  v.isSleeping = true ∧ v.submissionPaused = true ∧ (v.stage = .level1 ∨ v.stage = .level2)

instance (v : Server) : Decidable v.Asleep := inferInstanceAs (Decidable (_ ∧ _ ∧ _))

namespace Server

variable {d : Deployment} {x : Nat → Fault} {v v' : Server} {a : Nat × Bool}

theorem deepSleep_asleep (h : v.deepSleep d x = (.ok a, v')) : v'.Asleep := by
  unfold deepSleep at h
  split at h
  · cases h
  rename_i level _
  split at h
  · cases h
  replace h := attempt_ok (attempt_ok (attempt_ok (attempt_ok h)))
  split at h
  · cases h
  · rename_i hs
    cases h
    refine ⟨not_not.1 hs, rfl, ?_⟩
    change stageOfLevel level = _ ∨ stageOfLevel level = _
    unfold stageOfLevel
    split
    · exact .inl rfl
    · exact .inr rfl

theorem sleep_asleep (h : v.sleep d x = (.ok a, v')) : v'.Asleep := by
  unfold sleep at h
  split at h
  · cases h
  -- a runtime that sleeps already only confirms it
  have hlevel : v.stage = .level1 ∨ v.stage = .level2 →
      (if ¬ v.isSleeping = true then
        (Except.error (PyErr.runtimeError "sleep ledger disagrees with vLLM engine"), v)
      else (.ok (levelOfStage v.stage, true), { v with submissionPaused := true })) =
        (.ok a, v') → v'.Asleep := by
    intro hst hu
    split at hu
    · cases hu
    · rename_i hs
      cases hu
      exact ⟨not_not.1 hs, rfl, hst⟩
  split at h
  · rename_i hst
    exact hlevel (.inl hst) (attempt_ok h)
  · rename_i hst
    exact hlevel (.inr hst) (attempt_ok h)
  · replace h := attempt_ok h
    split at h
    · replace h := attempt_ok (attempt_ok h)
      split at h
      · cases h
      · exact deepSleep_asleep h
    · exact deepSleep_asleep h
  · exact deepSleep_asleep h

end Server

theorem Replica.sleep_asleep {d : Deployment} {r : Replica} {x : Nat → Fault} {v v' : Server}
    (h : r.sleep d x v = (.ok (), v')) : v'.Asleep := by
  unfold Replica.sleep at h
  split at h
  · cases h
  split at h
  · cases h
  split at h
  · cases h
  · rename_i hs
    split at h
    · cases h
    · cases h
      exact Server.sleep_asleep hs

/-- The evidence of a release is built if there is something to release. -/
theorem OperationEvidence.now_released {t : Nat} {op : String} {gs : List String} (hop : op ≠ "")
    (hd : gs.Nodup) (he : "" ∉ gs) (hn : gs ≠ []) :
    ∃ ev, OperationEvidence.now t op .released gs = .ok ev := by
  unfold OperationEvidence.now
  rw [dif_neg hop, dif_neg (not_not.2 hd), dif_neg he, dif_neg (fun h => hn h.2),
    dif_neg (fun h => h.1 rfl)]
  exact ⟨_, rfl⟩

namespace Trainer

section Compensation

variable {d : Deployment} {key : ReplicaKey} {operationId : String} {version : Nat}
  {replicas : List Replica} {s t u w : TaskState} {os : List Choice}
  {r : Except PyErr OperationEvidence}

/-- What the others do between two steps of a bootstrap. -/
def Rely (replicas : List Replica) (key : ReplicaKey) (s t : TaskState) : Prop :=
  (∀ q ∈ replicas, t.world q.rank = s.world q.rank) ∧ t.ce.ready.get? key = s.ce.ready.get? key

/-- A bootstrap of a native target that fails in its guarded section on the inputs `os`, is finalized
where necessary and puts every runtime to sleep; `r` is how it ends. -/
structure Compensated (d : Deployment) (key : ReplicaKey) (operationId : String) (version : Nat)
    (replicas : List Replica) (s : TaskState) (os : List Choice)
    (r : Except PyErr OperationEvidence) (w : TaskState) : Prop where
  parts : ∃ s₁ t u v, ∃ os₀ os₁ os₂ os₃, ∃ e,
    Prog.Exec (Rely replicas key) (call (bootstrapHead d key operationId version)) s os₀
      (.ok (.inr (replicas, .native))) s₁ ∧
    Prog.Exec (Rely replicas key) ((wakeForBootstrap d replicas .native).bind
      (loadTarget d key operationId version replicas)) s₁ os (.error e) t ∧
    Prog.Exec (Rely replicas key) (finalizeFailed e.2) t os₁ (.ok false) u ∧
    Prog.Exec (Rely replicas key) (resleep d replicas .native) u os₂ (.ok false) v ∧
    Prog.Exec (Rely replicas key) (call fun s o =>
      (OperationEvidence.now o.now operationId .released e.2.releasedGpuUuids, s)) v os₃ r w

/-- Such a bootstrap is a run of `bootstrap_target`. -/
theorem Compensated.exec (h : Compensated d key operationId version replicas s os r w) :
    ∃ os', Prog.Exec (Rely replicas key) (bootstrapTarget d key operationId version) s os' r w := by
  obtain ⟨s₁, t, u, v, os₀, os₁, os₂, os₃, e, hhead, hfail, hfin, hsleep, hend⟩ := h.parts
  have hreq : Prog.Exec (Rely replicas key) (require (false = false ∧ false = false)
      (.runtimeError "target bootstrap failed and runtime cleanup is unverified")) v [] (.ok ()) v := by
    rw [require, if_pos ⟨rfl, rfl⟩]
    exact .ret
  exact ⟨_, hhead.bind (hfail.caught (hfin.bind (hsleep.bind (hreq.bind hend))))⟩

/-! ## The placement queries -/

/-- The query of this runtime replies. -/
def Answers (s : TaskState) (q : Replica) (o : Choice) : Prop :=
  o.fault = .none ∧ o.inner 0 = .none ∧ (s.world q.rank).workerAlive = true

/-- The queries of every runtime reply, each with an accelerator. -/
def Placed (replicas : List Replica) (s : TaskState) (os : List Choice) : Prop :=
  List.Forall₂ (Answers s) replicas (os.take replicas.length) ∧
    ∀ q ∈ replicas, q.placement.gpuUuid ≠ ""

theorem Rely.refl : Rely replicas key s s := ⟨fun _ _ => rfl, rfl⟩

theorem Rely.trans (h₁ : Rely replicas key s t) (h₂ : Rely replicas key t u) :
    Rely replicas key s u :=
  ⟨fun q hq => (h₂.1 q hq).trans (h₁.1 q hq), h₂.2.trans h₁.2⟩

theorem answers_congr (h : Rely replicas key s t) {l : List Choice} :
    List.Forall₂ (Answers t) replicas l ↔ List.Forall₂ (Answers s) replicas l := by
  have himp : ∀ {s t : TaskState}, (∀ q ∈ replicas, t.world q.rank = s.world q.rank) →
      List.Forall₂ (Answers t) replicas l → List.Forall₂ (Answers s) replicas l := by
    refine fun hw hl => ((List.forall₂_and_left replicas l).2 ⟨hw, hl⟩).imp fun q o ⟨hq, ha⟩ => ?_
    unfold Answers at ha ⊢
    rwa [hq] at ha
  exact ⟨himp h.1, himp fun q hq => (h.1 q hq).symm⟩

/-- One query, some time after `s`. -/
theorem placement_exec {q : Replica} {x : Except PyErr Placement} (hq : q ∈ replicas)
    (hst : Rely replicas key s t)
    (h : Prog.Exec (Rely replicas key) (onServer q fun x => q.workerPlacements (x 0)) t os x u) :
    ∃ o, os = [o] ∧ Rely replicas key s u ∧
      (Answers s q o ∧ x = .ok q.placement ∨ ¬ Answers s q o ∧ ∃ e, x = .error e) := by
  obtain ⟨t', o, ht, rfl, rfl, rfl⟩ := h.call_eq
  clear h
  have hst' := hst.trans ht
  have hsame : t'.setServer q.rank (t'.world q.rank) = t' := by
    unfold setServer
    rw [Function.update_eq_self]
  have hq' := Replica.workerPlacements_same (r := q) (v := t'.world q.rank) (o.inner 0)
  refine ⟨o, rfl, ?_, ?_⟩
  · dsimp only
    rw [hq', hsame]
    split <;> exact hst'
  · unfold Answers Replica.workerPlacements
    rw [← hst'.1 q hq]
    dsimp only
    cases hf : o.fault <;> cases hw : (t'.world q.rank).workerAlive <;> cases hi : o.inner 0 <;>
      simp [Server.attempt]

/-- The queries of some of the runtimes: all reply, or one does not. -/
theorem placements_exec {rs : List Replica} (hrs : ∀ q ∈ rs, q ∈ replicas)
    {x : Except PyErr (List Placement)} (hst : Rely replicas key s t)
    (h : Prog.Exec (Rely replicas key)
      (gather (fun q => onServer q fun x => q.workerPlacements (x 0)) rs) t os x u) :
    Rely replicas key s u ∧
      (List.Forall₂ (Answers s) rs os ∧ x = .ok (rs.map (·.placement)) ∨
        ¬ List.Forall₂ (Answers s) rs (os.take rs.length) ∧ ∃ e, x = .error e) := by
  induction rs generalizing t os x with
  | nil =>
    cases h
    exact ⟨hst, .inl ⟨.nil, rfl⟩⟩
  | cons q rs ih =>
    rcases h.bind_cases with ⟨e, rfl, he⟩ | ⟨p, os₁, os₂, t₁, rfl, ha, hf⟩
    · obtain ⟨o, rfl, hsu, hx⟩ := placement_exec (hrs q List.mem_cons_self) hst he
      refine ⟨hsu, .inr ⟨?_, e, rfl⟩⟩
      rcases hx with ⟨-, hx⟩ | ⟨hno, -⟩
      · cases hx
      · rintro (_ | ⟨hyes, -⟩)
        exact hno hyes
    · obtain ⟨o, rfl, hst₁, hx⟩ := placement_exec (hrs q List.mem_cons_self) hst ha
      rcases hx with ⟨hyes, hx⟩ | ⟨-, e, hx⟩
      swap
      · cases hx
      cases hx
      have hrest := fun q' hq' => hrs q' (List.mem_cons_of_mem _ hq')
      rcases hf.bind_cases with ⟨e, rfl, he⟩ | ⟨ps, os₃, os₄, t', rfl, hps, hf'⟩
      · obtain ⟨htu, hx⟩ := ih hrest hst₁ he
        refine ⟨htu, .inr ⟨?_, e, rfl⟩⟩
        rcases hx with ⟨-, hx⟩ | ⟨hno, -⟩
        · cases hx
        · rintro (_ | ⟨-, hl⟩)
          exact hno hl
      · cases hf'
        obtain ⟨htu, hx⟩ := ih hrest hst₁ hps
        rcases hx with ⟨hall, hx⟩ | ⟨-, e, hx⟩
        · cases hx
          refine ⟨htu, .inl ⟨.cons hyes ?_, rfl⟩⟩
          rwa [List.append_nil]
        · cases hx

/-! ## The guarded section -/

theorem raising_error {R : TaskState → TaskState → Prop} {α β : Type} {p : TaskProg α} {l : β}
    {e : PyErr × β} (h : Prog.Exec R (raising l p) s os (.error e) u) :
    e.2 = l ∧ Prog.Exec R p s os (.error e.1) u := by
  obtain ⟨x, hx, hp⟩ := h.mapErr_eq
  cases x with
  | ok a => cases hx
  | error e' => cases hx; exact ⟨rfl, hp⟩

theorem raising_ok {R : TaskState → TaskState → Prop} {α β : Type} {p : TaskProg α} {l : β} {a : α}
    (h : Prog.Exec R (raising l p) s os (.ok a) u) : Prog.Exec R p s os (.ok a) u := by
  obtain ⟨x, hx, hp⟩ := h.mapErr_eq
  cases x with
  | ok a' => cases hx; exact hp
  | error e => cases hx

/-- What the handler knows of the accelerators. -/
def Located (replicas : List Replica) (s : TaskState) (os : List Choice) (uuids : List String) :
    Prop :=
  List.Forall₂ (Answers s) replicas (os.take replicas.length) ∧
      uuids = restoredGpuUuids (replicas.map (·.placement)) ∨
    ¬ List.Forall₂ (Answers s) replicas (os.take replicas.length) ∧ uuids = []

theorem located_of_all {os' : List Choice} (h : List.Forall₂ (Answers s) replicas os) :
    Located replicas s (os ++ os') (restoredGpuUuids (replicas.map (·.placement))) := by
  refine .inl ⟨?_, rfl⟩
  rw [h.length_eq, List.take_left]
  exact h

theorem wakeForBootstrap_exec {x : Except (PyErr × Bootstrap) (List String)}
    (h : Prog.Exec (Rely replicas key) (wakeForBootstrap d replicas .native) s os x u) :
    (∃ e, x = .error e ∧ Located replicas s os e.2.releasedGpuUuids) ∨
      x = .ok (restoredGpuUuids (replicas.map (·.placement))) ∧
        ∃ os₁ os₂, os = os₁ ++ os₂ ∧ List.Forall₂ (Answers s) replicas os₁ := by
  rcases h.bind_cases with ⟨e, rfl, he⟩ | ⟨ps, os₁, os₂, t, rfl, hps, h⟩
  · obtain ⟨hl, he⟩ := raising_error he
    obtain ⟨-, ⟨-, hx⟩ | ⟨hno, -⟩⟩ := placements_exec (fun _ => id) .refl he
    · cases hx
    · exact .inl ⟨e, rfl, .inr ⟨hno, by rw [hl]⟩⟩
  obtain ⟨-, ⟨hall, hx⟩ | ⟨-, _, hx⟩⟩ := placements_exec (fun _ => id) .refl (raising_ok hps)
  swap
  · cases hx
  cases hx
  have hloc : ∀ {os'}, Located replicas s (os₁ ++ os') (restoredGpuUuids (replicas.map (·.placement))) :=
    located_of_all hall
  rcases h.bind_cases with ⟨e, rfl, he⟩ | ⟨-, os₃, os₄, t', rfl, hreq, h⟩
  · obtain ⟨hl, he⟩ := raising_error he
    refine .inl ⟨e, rfl, ?_⟩
    by_cases hids : restoredGpuUuids (replicas.map (·.placement)) = []
    · rw [hl, ← hids]
      exact hloc
    · rw [require, if_pos hids] at he
      cases he
  rcases h.bind_cases with ⟨e, rfl, he⟩ | ⟨-, os₅, os₆, t'', rfl, -, h⟩
  · obtain ⟨hl, -⟩ := raising_error he
    refine .inl ⟨e, rfl, ?_⟩
    rw [hl]
    exact hloc
  · cases h
    exact .inr ⟨rfl, os₁, _, rfl, hall⟩

theorem loadTarget_locals {uuids : List String} {e : PyErr × Bootstrap}
    (h : Prog.Exec (Rely replicas key) (loadTarget d key operationId version replicas uuids) s os
      (.error e) u) : e.2.releasedGpuUuids = uuids := by
  rcases h.bind_cases with ⟨e', he, h⟩ | ⟨-, os₁, os₂, t, rfl, -, h⟩
  · cases he
    rw [(raising_error h).1]
  · rw [(raising_error h).1]

/-- The accelerators the handler knows of, wherever the section has failed. -/
theorem guarded_located {e : PyErr × Bootstrap}
    (h : Prog.Exec (Rely replicas key) ((wakeForBootstrap d replicas .native).bind
      (loadTarget d key operationId version replicas)) s os (.error e) u) :
    Located replicas s os e.2.releasedGpuUuids := by
  rcases h.bind_cases with ⟨e', he, h⟩ | ⟨a, os₁, os₂, t, rfl, hw, h⟩
  · cases he
    rcases wakeForBootstrap_exec h with ⟨e', he, hl⟩ | ⟨hx, -⟩
    · cases he
      exact hl
    · cases hx
  · rcases wakeForBootstrap_exec hw with ⟨e', he, -⟩ | ⟨hx, os₃, os₄, rfl, hall⟩
    · cases he
    · cases hx
      rw [loadTarget_locals h, List.append_assoc]
      exact located_of_all hall

/-! ## The receipt -/

/-- Every step leaves the target without a receipt. -/
def Unready {ε α : Type} (key : ReplicaKey) (p : Prog TaskState Choice Event ε α) : Prop :=
  p.Within (fun s => s.ce.ready.get? key = none) (fun _ _ t => t.ce.ready.get? key = none)
    fun _ => True

theorem Unready.exec {ε α : Type} {p : Prog TaskState Choice Event ε α} {x : Except ε α}
    (hp : Unready key p) (h : Prog.Exec (Rely replicas key) p s os x u)
    (hs : s.ce.ready.get? key = none) : u.ce.ready.get? key = none :=
  h.keeps hp (fun _ _ hR hs => hR.2.trans hs) hs

theorem unready_onServer {α : Type} {q : Replica}
    {f : (Nat → Fault) → Server → Except PyErr α × Server} : Unready key (onServer q f) := by
  refine .call fun s o hs => ⟨?_, fun _ _ _ => trivial⟩
  cases o.fault <;> exact hs

theorem unready_gather {α : Type} {f : Replica → TaskProg α} (hf : ∀ q, Unready key (f q)) :
    ∀ rs, Unready key (gather f rs)
  | [] => trivial
  | q :: rs => .bind (hf q) fun _ _ => .bind (unready_gather hf rs) fun _ _ => trivial

theorem unready_collective {m : String} : Unready key (collective m) :=
  .call fun _ _ hs => ⟨hs, fun _ _ _ => trivial⟩

theorem unready_require {p : Prop} [Decidable p] {e : PyErr} : Unready key (require p e) := by
  unfold require
  split <;> trivial

theorem unready_transfer : Unready key (transfer replicas version) := by
  refine .call fun s o hs => ⟨?_, fun _ _ _ => trivial⟩
  cases o.fault <;> exact hs

theorem unready_raising {α β : Type} {l : β} {p : TaskProg α} (hp : Unready key p) :
    Unready key (raising l p) := .mapErr hp

theorem unready_wake : Unready key (wakeForBootstrap d replicas .native) :=
  .bind (unready_raising (unready_gather (fun _ => unready_onServer) _)) fun _ _ =>
    .bind (unready_raising unready_require) fun _ _ =>
      .bind (unready_raising (unready_gather (fun _ => unready_onServer) _)) fun _ _ => trivial

/-- Whoever fails leaves the target without a receipt. -/
def UnreadyOnError {ε α : Type} (replicas : List Replica) (key : ReplicaKey)
    (p : Prog TaskState Choice Event ε α) : Prop :=
  ∀ s u os e, Prog.Exec (Rely replicas key) p s os (.error e) u →
    s.ce.ready.get? key = none → u.ce.ready.get? key = none

theorem UnreadyOnError.bind {ε α β : Type} {p : Prog TaskState Choice Event ε α}
    {f : α → Prog TaskState Choice Event ε β} (hp : Unready key p)
    (hf : ∀ a, UnreadyOnError replicas key (f a)) : UnreadyOnError replicas key (p.bind f) := by
  intro s u os e h hs
  rcases h.bind_cases with ⟨e', -, he⟩ | ⟨a, os₁, os₂, t, -, ha, hfa⟩
  · exact hp.exec he hs
  · exact hf a _ _ _ _ hfa (hp.exec ha hs)

/-- The receipt is written by the last step, if that does not fail. -/
theorem unready_confirm : UnreadyOnError replicas key (call fun s o =>
    match OperationEvidence.now o.now operationId .weightReady with
    | .error e => (.error e, s)
    | .ok evidence => (.ok evidence, { s with ce := s.ce.confirmBootstrap key version evidence })) := by
  intro s u os e h hs
  obtain ⟨t, o, ht, -, hx, rfl⟩ := h.call_eq
  clear h
  cases hnow : OperationEvidence.now o.now operationId .weightReady with
  | error e => exact ht.2.trans hs
  | ok evidence => rw [hnow] at hx; cases hx

theorem unready_load {uuids : List String} :
    UnreadyOnError replicas key (loadTarget d key operationId version replicas uuids) := by
  have hload : Unready key (do
      collective "checkpoint topology failed"
      transfer replicas version
      collective "checkpoint finalize failed") :=
    .bind unready_collective fun _ _ => .bind unready_transfer fun _ _ => unready_collective
  refine .bind (unready_raising hload) fun _ s u os e h hs => ?_
  refine UnreadyOnError.bind (unready_gather (fun _ => unready_onServer) _) (fun _ => .bind
    (unready_gather (fun _ => unready_onServer) _) fun _ => .bind unready_require fun _ =>
      .bind ?_ fun _ => unready_confirm) _ _ _ _ (raising_error h).2 hs
  unfold when
  split
  · exact unready_collective
  · trivial

theorem guarded_unready : UnreadyOnError replicas key
    ((wakeForBootstrap d replicas .native).bind (loadTarget d key operationId version replicas)) :=
  .bind unready_wake fun _ => unready_load

/-! ## Asleep again -/

/-- The sleep of some of the runtimes: they are asleep at the end, and who was asleep stays so. -/
theorem sleeps_exec {rs : List Replica} (hrs : ∀ q ∈ rs, q ∈ replicas) {us : List Unit}
    (h : Prog.Exec (Rely replicas key) (gather (fun q => onServer q fun x => q.sleep d x) rs) s os
      (.ok us) u) :
    ∀ q ∈ replicas, q ∈ rs ∨ (s.world q.rank).Asleep → (u.world q.rank).Asleep := by
  induction rs generalizing s os us with
  | nil =>
    cases h
    exact fun q _ hq => hq.resolve_left List.not_mem_nil
  | cons p rs ih =>
    rcases h.bind_cases with ⟨e, hx, -⟩ | ⟨_, os₁, os₂, t, rfl, hp, hf⟩
    · cases hx
    rcases hf.bind_cases with ⟨e, hx, -⟩ | ⟨us', os₃, os₄, t', rfl, hps, hf'⟩
    · cases hx
    cases hf'
    have hslept : ∀ q ∈ replicas, q = p ∨ (s.world q.rank).Asleep → (t.world q.rank).Asleep := by
      obtain ⟨s₁, o, hs₁, -, hx, rfl⟩ := hp.call_eq
      intro q hq hor
      clear hp h
      cases hf : o.fault <;> rw [hf] at hx <;> try cases hx
      change (Function.update s₁.world p.rank _ q.rank).Asleep
      by_cases hqp : q.rank = p.rank
      · rw [hqp, Function.update_self]
        exact Replica.sleep_asleep (Prod.ext hx.symm rfl)
      · rw [Function.update_of_ne hqp, hs₁.1 q hq]
        exact hor.resolve_left fun h => hqp (h ▸ rfl)
    intro q hq hor
    refine ih (fun q' hq' => hrs q' (List.mem_cons_of_mem _ hq')) hps q hq ?_
    rcases hor with hor | hor
    · rcases List.mem_cons.1 hor with rfl | hor
      · exact .inr (hslept q hq (.inl rfl))
      · exact .inl hor
    · exact .inr (hslept q hq (.inr hor))

theorem resleep_exec
    (h : Prog.Exec (Rely replicas key) (resleep d replicas .native) s os (.ok false) u) :
    ∀ q ∈ replicas, (u.world q.rank).Asleep := by
  rcases h.bind_cases with ⟨e, hx, -⟩ | ⟨x, os₁, os₂, t, rfl, hx, hret⟩
  · cases hx
  obtain ⟨y, hy, hg⟩ := hx.result_eq
  cases hy
  cases x with
  | ok us =>
    cases hret
    exact fun q hq => sleeps_exec (fun _ => id) hg q hq (.inl hq)
  | error e => cases hret

theorem unready_finalizeFailed {l : Bootstrap} : Unready key (finalizeFailed l) := by
  unfold finalizeFailed
  split
  · exact .bind (.result unready_collective (S := fun _ => True) (fun _ _ => trivial)
      fun _ => trivial) fun _ _ => trivial
  · trivial

theorem unready_resleep : Unready key (resleep d replicas .native) :=
  .bind (.result (unready_gather (fun _ => unready_onServer) _) (S := fun _ => True)
    (fun _ _ => trivial) fun _ => trivial) fun _ _ => trivial

theorem bootstrapHead_inr {o : Choice} {p : List Replica × ReplicaKind}
    (h : bootstrapHead d key operationId version s o = (.ok (.inr p), u)) :
    u = s ∧ s.ce.ready.get? key = none ∧ p.1 ≠ [] := by
  unfold bootstrapHead CheckpointEngineManager.bootstrapEntry at h
  cases hready : s.ce.ready.get? key with
  | some e =>
    rw [hready] at h
    dsimp only at h
    split at h
    · cases h
    split at h
    all_goals
      rename_i heq
      split at heq <;> cases heq <;> cases h
  | none =>
    rw [hready] at h
    dsimp only at h
    split at h
    · cases h
    split at h
    · cases h
    · cases h
    · cases h
    · split at h
      · cases h
      split at h
      · cases h
      · cases h
        exact ⟨rfl, rfl, List.cons_ne_nil _ _⟩

/-! ## What is returned -/

/-- The failed operation is resolved: RELEASED with its accelerators, asleep, and no receipt. -/
def Resolved (key : ReplicaKey) (operationId : String) (replicas : List Replica)
    (r : Except PyErr OperationEvidence) (w : TaskState) : Prop :=
  ∃ ev, r = .ok ev ∧ ev.type = .released ∧ ev.operationId = operationId ∧
    (∀ g, g ∈ ev.releasedGpuUuids ↔ ∃ q ∈ replicas, q.placement.gpuUuid = g) ∧
    (∀ q ∈ replicas, (w.world q.rank).Asleep) ∧ w.ce.ready.get? key = none

theorem nodup_eraseDups : ∀ gs : List String, gs.eraseDups.Nodup
  | [] => .nil
  | g :: gs => by
    rw [List.eraseDups_cons, List.nodup_cons]
    refine ⟨fun h => ?_, nodup_eraseDups _⟩
    simpa using (List.mem_filter.1 (List.mem_eraseDups.1 h)).2
termination_by gs => gs.length
decreasing_by exact Nat.lt_succ_of_le (List.length_filter_le _ _)

theorem mem_restoredGpuUuids {ps : List Placement} {g : String} :
    g ∈ restoredGpuUuids ps ↔ g ≠ "" ∧ ∃ p ∈ ps, p.gpuUuid = g := by
  unfold restoredGpuUuids
  rw [List.mem_eraseDups, List.mem_filter, List.mem_map, decide_eq_true_iff]
  exact and_comm

/-- A compensated bootstrap resolves its operation when every placement query has replied with an
accelerator, and only then. -/
theorem compensated_resolved (hop : operationId ≠ "")
    (h : Compensated d key operationId version replicas s os r w) :
    (∃ os', Prog.Exec (Rely replicas key) (bootstrapTarget d key operationId version) s os' r w) ∧
      (Resolved key operationId replicas r w ↔ Placed replicas s os) := by
  refine ⟨h.exec, ?_⟩
  obtain ⟨s₁, t, u, v, os₀, os₁, os₂, os₃, e, hhead, hfail, hfin, hsleep, hend⟩ := h.parts
  obtain ⟨s₀, o₀, hs₀, -, hx₀, hu₀⟩ := hhead.call_eq
  obtain ⟨rfl, hready, hne⟩ := bootstrapHead_inr (Prod.ext hx₀.symm hu₀.symm)
  have hloc := guarded_located hfail
  have hunready := unready_resleep.exec hsleep (unready_finalizeFailed.exec hfin
    (guarded_unready _ _ _ _ hfail hready))
  obtain ⟨v', o, hv, -, hr, hw⟩ := hend.call_eq
  dsimp only at hr hw
  subst hw
  have hplaced := answers_congr hs₀ (l := os.take replicas.length)
  constructor
  · rintro ⟨ev, hev, hty, -, hids, -, -⟩
    rw [hr] at hev
    obtain ⟨-, -, -, hgs⟩ := OperationEvidence.now_ok hev
    rcases hloc with ⟨hall, huuids⟩ | ⟨-, huuids⟩
    · refine ⟨hplaced.1 hall, fun q hq h0 => ?_⟩
      have hmem := (hids "").2 ⟨q, hq, h0⟩
      exact ev.uuids_ne hmem
    · exact (ev.released_iff.1 hty (hgs.trans huuids)).elim
  · rintro ⟨hall, hids⟩
    rcases hloc with ⟨-, huuids⟩ | ⟨hno, -⟩
    swap
    · exact (hno (hplaced.2 hall)).elim
    have hmem : ∀ g, g ∈ e.2.releasedGpuUuids ↔ ∃ q ∈ replicas, q.placement.gpuUuid = g := by
      intro g
      rw [huuids, mem_restoredGpuUuids]
      simp only [List.mem_map, exists_exists_and_eq_and]
      refine ⟨fun h => h.2, fun h => ⟨?_, h⟩⟩
      obtain ⟨q, hq, rfl⟩ := h
      exact hids q hq
    obtain ⟨q, hq⟩ := List.exists_mem_of_ne_nil _ hne
    have hnodup : e.2.releasedGpuUuids.Nodup := by rw [huuids]; exact nodup_eraseDups _
    obtain ⟨ev, hev⟩ := OperationEvidence.now_released (t := o.now) hop hnodup
      (fun h0 => by obtain ⟨q, hq, h0⟩ := (hmem "").1 h0; exact hids q hq h0)
      (List.ne_nil_of_mem ((hmem _).2 ⟨q, hq, rfl⟩))
    obtain ⟨hev₁, hev₂, -, hev₃⟩ := OperationEvidence.now_ok hev
    refine ⟨ev, hr.trans hev, hev₂, hev₁, fun g => by rw [hev₃]; exact hmem g, fun q hq => ?_,
      hv.2.trans hunready⟩
    rw [hv.1 q hq]
    exact resleep_exec hsleep q hq

end Compensation

section Fixture

open TaskSystem (deployment fine nativeKey0)

/-- The native replica of the task, donated and asleep. -/
def dormant : Replica := ⟨0, .native, "a0", ⟨"node", "pg", "g0"⟩⟩

def asleep : Server := ⟨false, false, .level2, true, none, true, true, true, false⟩

/-- Its weights are back, its KV cache is not. -/
def woken : Server := { asleep with weights := true, stage := .weights }

/-- It is being restored. -/
def restoring : TaskState := { TaskSystem.start.state with
  ce := ⟨[], ∅, Dict.insert ∅ nativeKey0 ([dormant], "r1"), ∅⟩
  world := fun _ => asleep }

/-- The reply is lost. -/
def lost : Choice := { fine with fault := .after }

theorem restoring_head : bootstrapHead deployment nativeKey0 "r1" 1 restoring fine =
    (.ok (.inr ([dormant], .native)), restoring) := by
  unfold bootstrapHead CheckpointEngineManager.bootstrapEntry
  rw [show restoring.ce.ready.get? nativeKey0 = none from rfl,
    show restoring.ce.pending.get? nativeKey0 = some ([dormant], "r1") from Dict.get?_insert_self _ _ _]
  dsimp only
  rw [if_neg (not_not.2 rfl)]
  rfl

/-- The checks pass. -/
theorem restoring_starts : Prog.Exec (Rely [dormant] nativeKey0)
    (call (bootstrapHead deployment nativeKey0 "r1" 1)) restoring [fine]
    (.ok (.inr ([dormant], .native))) restoring := by
  have h : Prog.Exec (Rely [dormant] nativeKey0) (call (bootstrapHead deployment nativeKey0 "r1" 1))
      restoring [fine] (bootstrapHead deployment nativeKey0 "r1" 1 restoring fine).1
      (bootstrapHead deployment nativeKey0 "r1" 1 restoring fine).2 := .call fine .refl
  rwa [restoring_head] at h

/-- One call to the runtime. -/
theorem gather_exec {α : Type} {f : Replica → (Nat → Fault) → Server → Except PyErr α × Server}
    {s : TaskState} {o : Choice} {a : α} {v : Server}
    (hf : f dormant o.inner (s.world dormant.rank) = (.ok a, v)) (ho : o.fault ≠ .before) :
    Prog.Exec (Rely [dormant] nativeKey0) (gather (fun q => onServer q (f q)) [dormant]) s [o]
      (if o.fault = .none then .ok [a] else .error lostReply) (s.setServer dormant.rank v) := by
  have hcall : Prog.Exec (Rely [dormant] nativeKey0) (onServer dormant (f dormant)) s [o]
      (if o.fault = .none then .ok a else .error lostReply) (s.setServer dormant.rank v) := by
    refine .step .refl rfl ?_
    dsimp only
    rw [hf]
    cases hfault : o.fault with
    | none => exact .ret
    | before => exact (ho hfault).elim
    | after => exact .err
    | late => exact .err
  by_cases hfault : o.fault = .none
  · rw [if_pos hfault] at hcall ⊢
    exact hcall.bind .ret
  · rw [if_neg hfault] at hcall ⊢
    exact hcall.bind_error

theorem evidence_exec (s : TaskState) (uuids : List String) :
    Prog.Exec (Rely [dormant] nativeKey0)
      (call fun s o => (OperationEvidence.now o.now "r1" .released uuids, s)) s [fine]
      (OperationEvidence.now 0 "r1" .released uuids) s := .call fine .refl

/-- The query of the placement is lost: nothing was started, the runtime is asleep, and no evidence
can be built. -/
theorem unplaced_raises : ∃ w,
    Compensated deployment nativeKey0 "r1" 1 [dormant] restoring [lost]
      (.error (.valueError "RELEASED evidence requires explicit GPU uuids")) w ∧
    (w.world 0).Asleep ∧
    ¬ Resolved nativeKey0 "r1" [dormant]
      (.error (.valueError "RELEASED evidence requires explicit GPU uuids")) w := by
  have hplace := gather_exec (f := fun q x => q.workerPlacements (x 0)) (s := restoring) (o := lost)
    (a := dormant.placement) (v := asleep) rfl (by decide)
  have hsleep := gather_exec (f := fun q x => q.sleep deployment x)
    (s := restoring.setServer dormant.rank asleep) (o := fine) (v := asleep) rfl (by decide)
  have hend := evidence_exec ((restoring.setServer dormant.rank asleep).setServer dormant.rank asleep) []
  rw [show OperationEvidence.now 0 "r1" .released [] =
    .error (.valueError "RELEASED evidence requires explicit GPU uuids") by decide +kernel] at hend
  refine ⟨_, ⟨_, _, _, _, _, _, _, _, (lostReply, ⟨false, false, []⟩), restoring_starts,
    (hplace.mapErr.bind_error).bind_error, .ret, hsleep.result.bind .ret, hend⟩, by decide, ?_⟩
  rintro ⟨ev, hev, -⟩
  cases hev

/-- The reply of the wake is lost: the runtime has its weights, and is put to sleep again. -/
theorem compensated_resolved_unwoken : ∃ r w,
    Compensated deployment nativeKey0 "r1" 1 [dormant] restoring [fine, lost] r w ∧
    Resolved nativeKey0 "r1" [dormant] r w := by
  have hplace := gather_exec (f := fun q x => q.workerPlacements (x 0)) (s := restoring) (o := fine)
    (a := dormant.placement) (v := asleep) rfl (by decide)
  have hreq : Prog.Exec (Rely [dormant] nativeKey0) (require (restoredGpuUuids [dormant.placement] ≠ [])
      (.runtimeError "native RESTORE target has no verified physical accelerator id"))
      (restoring.setServer dormant.rank asleep) [] (.ok ()) (restoring.setServer dormant.rank asleep) := by
    rw [require, if_pos (by decide +kernel)]
    exact .ret
  have hwake := gather_exec (f := fun q x => q.wakeUp deployment x .weights)
    (s := restoring.setServer dormant.rank asleep) (o := lost) (v := woken) rfl (by decide)
  have hsleep := gather_exec (f := fun q x => q.sleep deployment x)
    (s := (restoring.setServer dormant.rank asleep).setServer dormant.rank woken) (o := fine)
    (v := asleep) rfl (by decide)
  have hrun : Compensated deployment nativeKey0 "r1" 1 [dormant] restoring [fine, lost] _ _ :=
    ⟨_, _, _, _, _, _, _, _,
      (lostReply, ⟨false, false, restoredGpuUuids [dormant.placement]⟩), restoring_starts,
      (hplace.mapErr.bind (hreq.mapErr.bind (hwake.mapErr.bind_error))).bind_error, .ret,
      hsleep.result.bind .ret, evidence_exec _ _⟩
  refine ⟨_, _, hrun, (compensated_resolved (by decide) hrun).2.2 ⟨?_, ?_⟩⟩
  · exact .cons ⟨rfl, rfl, rfl⟩ .nil
  · decide

end Fixture

end Trainer

end ReplicaLending
