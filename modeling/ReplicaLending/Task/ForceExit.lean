import ReplicaLending.Router.Handoffs
import ReplicaLending.Task.Routing
/-!
# FORCE exit (`rollouter.py:647`)

One FORCE operation: `prepare_exit` is called, ends, and is called again any number of times. Between
any two of its steps clients acquire, release and confirm at the load balancer, late calls reach it,
the Trainer synchronises. Its binding and its recovery tuple are its own until it is resolved.

| here | there |
| --- | --- |
| `prepare`     | the TaskRunner calls `prepare_exit(force=True)`, after it has ended or for the first time |
| `work`        | one step of that call |
| `environment` | everything else, except that the operation is not resolved (rollouter.py:832) |
| `ExitHistory` | nothing: what has happened so far |
-/

namespace ReplicaLending

open TaskProg TaskState Rollouter GlobalRequestLoadBalancer

/-- What has happened to the target. -/
structure ExitHistory where
  /-- How often `abort_all_requests` was called. -/
  aborts : Nat
  /-- The requests that were ADMITTED on the server when it was called last. -/
  boundary : List String
  /-- The requests recorded for that call that had been handed off already. -/
  confirmed : List String
  /-- The record has been something else than ACTIVE. -/
  left : Bool
deriving DecidableEq

/-- The requests of the recovery tuple. -/
def recordedRequests (s : TaskState) (operationId : String) : List String :=
  ((s.rollouter.forceExitRecovery.get? operationId).map Prod.fst).getD []

/-- The recorded requests that have been handed off. -/
def confirmedRequests (s : TaskState) (operationId : String) : List String :=
  (recordedRequests s operationId).filter (· ∈ s.lb.handoffs operationId)

/-- The history after a step from `s` to `t`. -/
def ExitHistory.next (key : ReplicaKey) (tag : Event) (s t : TaskState) (h : ExitHistory) :
    ExitHistory :=
  let left := h.left || t.manager.replicaState.get? key ≠ some .active
  match tag with
  | .abort operationId => ⟨h.aborts + 1, ((s.lb.routes.get? key).map s.lb.admittedOn).getD [],
      confirmedRequests s operationId, left⟩
  | _ => { h with left }

/-- A task, the call of `prepare_exit` and what has happened so far. -/
structure ForceExit where
  task : TaskState
  history : ExitHistory
  call : Option (TaskProg OperationEvidence)

inductive ExitLabel
  | prepare
  | work (o : Choice)
  | environment (e : Environment)

/-- The operation of the target is not resolved by this. -/
def Environment.Keeps (operationId : String) : Environment → Prop
  | .clearBinding o _ => o ≠ operationId
  | _ => True

instance (operationId : String) : DecidablePred (Environment.Keeps operationId) := fun e => by
  cases e <;> unfold Environment.Keeps <;> infer_instance

namespace ForceExit

/-- `prepare_exit` has not been called or has ended. -/
def Idle (s : ForceExit) : Prop := match s.call with
  | some (.step ..) => False
  | _ => True

instance (s : ForceExit) : Decidable s.Idle := by
  unfold Idle
  split <;> infer_instance

def step (d : Deployment) (key : ReplicaKey) (operationId : String) (s : ForceExit) :
    ExitLabel → Option ForceExit
  | .prepare =>
    if s.Idle then some { s with call := some (prepareExit d key operationId true) } else none
  | .work o => match s.call with
    | some (.step tag ready act next) => if ready s.task o then
        let t := act s.task o
        some ⟨t, s.history.next key tag s.task t, some (next s.task o)⟩ else none
    | _ => none
  | .environment e =>
    if e.Keeps operationId then (s.task.environment e).map fun t => { s with task := t } else none

/-- The operation has done nothing yet. -/
structure Starts (key : ReplicaKey) (operationId : String) (s : ForceExit) : Prop where
  call : s.call = none
  history : s.history = ⟨0, [], [], decide (s.task.manager.replicaState.get? key ≠ some .active)⟩
  unbound : s.task.rollouter.pendingOperationTargets.get? operationId = none
  unrecorded : s.task.rollouter.forceExitRecovery.get? operationId = none
  undrained : ∀ x, s.task.lb.drainingOperations.get? x ≠ some operationId
  uncalled : ∀ c ∈ s.task.inflight, ∀ k, c ≠ .beginDrain k operationId
  router : calls.Reachable s.task.lb

def machine (d : Deployment) (key : ReplicaKey) (operationId : String) :
    Machine ForceExit ExitLabel where
  init := Starts key operationId
  step s l s' := step d key operationId s l = some s'

/-- The operation whose call is about to abort. -/
def aborting (s : ForceExit) : Option String := match s.call with
  | some (.step (.abort operationId) ..) => some operationId
  | _ => none

/-- No recorded request has been handed off when the call aborts. -/
def Unconfirmed (s : ForceExit) : ExitLabel → Prop
  | .work _ => ∀ o ∈ s.aborting, confirmedRequests s.task o = []
  | _ => True

instance (s : ForceExit) : DecidablePred s.Unconfirmed := fun l => by
  cases l <;> unfold Unconfirmed <;> infer_instance

end ForceExit

/-! ## What the others do -/

section Exit

variable {d : Deployment} {key : ReplicaKey} {operationId : String} {s t : TaskState}
  {h : ExitHistory}

/-- One thing happens that is not a step of the operation. -/
def Elsewhere (operationId : String) (s t : TaskState) : Prop :=
  ∃ e : Environment, e.Keeps operationId ∧ s.environment e = some t

/-- What is left alone, and what may be called at the load balancer. -/
structure Outside (operationId : String) (s t : TaskState) : Prop where
  manager : t.manager = s.manager
  binding : t.rollouter.pendingOperationTargets.get? operationId =
    s.rollouter.pendingOperationTargets.get? operationId
  recovery : t.rollouter.forceExitRecovery.get? operationId =
    s.rollouter.forceExitRecovery.get? operationId
  router : t.inflight = s.inflight ∧ t.lb = s.lb ∨
    (t.inflight = s.inflight ∧ ∃ l, (∀ k o, l ≠ .beginDrain k o) ∧ (∀ k, l ≠ .finishRemove k) ∧
      t.lb = s.lb.after l ∧ SameRouting s.lb t.lb) ∨
    ∃ c cs now, s.inflight = c :: cs ∧ t.inflight = cs ∧ t.lb = c.exec now s.lb

theorem Elsewhere.outside (h : Elsewhere operationId s t) : Outside operationId s t := by
  obtain ⟨e, he, ht⟩ := h
  have hquiet : t.manager = s.manager → t.rollouter = s.rollouter → t.inflight = s.inflight →
      t.lb = s.lb → Outside operationId s t :=
    fun hm hr hi hl => ⟨hm, by rw [hr], by rw [hr], .inl ⟨hi, hl⟩⟩
  cases e with
  | acquireServer r pick =>
    cases ht
    exact ⟨rfl, rfl, rfl, .inr (.inl ⟨rfl, .acquireServer r pick, by simp, by simp, rfl,
      sameRouting_acquire _ _ _⟩)⟩
  | releaseServer x r =>
    cases ht
    exact ⟨rfl, rfl, rfl, .inr (.inl ⟨rfl, .releaseServer x r none, by simp, by simp, rfl,
      sameRouting_release⟩)⟩
  | confirmContinuation now r client digest =>
    cases ht
    exact ⟨rfl, rfl, rfl, .inr (.inl ⟨rfl, .confirmContinuation now r client digest, by simp,
      by simp, rfl, sameRouting_confirm⟩)⟩
  | deliver now =>
    simp only [TaskState.environment] at ht
    split at ht
    · cases ht
    · rename_i c cs hc
      cases ht
      exact ⟨rfl, rfl, rfl, .inr (.inr ⟨c, cs, now, hc, rfl, rfl⟩)⟩
  | schedulerAnswers result =>
    simp only [TaskState.environment] at ht
    split at ht
    · cases ht
    · cases ht
      exact hquiet rfl rfl rfl rfl
  | nativeSyncStarts now =>
    simp only [TaskState.environment] at ht
    split at ht
    · cases ht
    split at ht
    · cases ht
    split at ht
    · cases ht
    · cases ht
      exact hquiet rfl rfl rfl rfl
  | nativeSyncEnds =>
    simp only [TaskState.environment] at ht
    split at ht
    · cases ht
    · cases ht
      exact hquiet rfl rfl rfl rfl
  | nativeSyncFails loaded reason =>
    simp only [TaskState.environment] at ht
    split at ht
    · cases ht
    · split at ht
      · cases ht
      · cases ht
        exact hquiet rfl rfl rfl rfl
  | versionAdvances =>
    cases ht
    exact hquiet rfl rfl rfl rfl
  | clearBinding o fault =>
    simp only [TaskState.environment] at ht
    split at ht
    · cases ht
    · cases ht
      by_cases hf : fault = .before
      · rw [if_pos hf]
        exact ⟨rfl, rfl, rfl, .inl ⟨rfl, rfl⟩⟩
      · rw [if_neg hf]
        exact ⟨rfl, Dict.get?_erase_ne _ he, Dict.get?_erase_ne _ he, .inl ⟨rfl, rfl⟩⟩
  | threadEnds o =>
    simp only [TaskState.environment] at ht
    split at ht
    · cases ht
      exact hquiet rfl rfl rfl rfl
    · cases ht

/-! ## The invariant -/

/-- The server of the target has left the pool, and the operation drains no other. -/
structure OutOfPool (key : ReplicaKey) (operationId : String) (lb : GlobalRequestLoadBalancer)
    (x : String) : Prop where
  route : lb.routes.get? key = some x
  pool : lb.servers.get? x = none
  drain : ∀ z, lb.drainingOperations.get? z = some operationId → z = x

/-- The requests that were ADMITTED at the abort, the recorded ones, and those handed off: a recorded
one that was not ADMITTED there any more had been handed off before, or never will be. -/
structure AtBoundary (operationId : String) (lb : GlobalRequestLoadBalancer) (x : String)
    (admitted : List String) (h : ExitHistory) : Prop where
  nodup : h.boundary.Nodup
  recorded : ∀ r ∈ h.boundary, r ∈ admitted
  still : ∀ r, lb.AdmittedOn x r → r ∈ h.boundary
  handed : ∀ r ∈ admitted, r ∈ lb.handoffs operationId →
    r ∈ h.boundary ∨ r ∈ h.confirmed

/-- What the recovery tuple says of the server. -/
def RecordedTarget (key : ReplicaKey) (operationId : String) (lb : GlobalRequestLoadBalancer)
    (admitted : List String) (h : ExitHistory) : Prop :=
  ∃ x, OutOfPool key operationId lb x ∧ (∀ r, lb.AdmittedOn x r → r ∈ admitted) ∧
    (h.aborts = 1 → AtBoundary operationId lb x admitted h)

structure ExitInv (key : ReplicaKey) (operationId : String) (s : TaskState) (h : ExitHistory) :
    Prop where
  handoffs : (s.lb.handoffs operationId).Nodup
  left : h.left = true ↔ s.manager.replicaState.get? key ≠ some .active
  unbound : s.rollouter.pendingOperationTargets.get? operationId = none →
    (∀ x, s.lb.drainingOperations.get? x ≠ some operationId) ∧
    (∀ c ∈ s.inflight, ∀ k, c ≠ .beginDrain k operationId) ∧
    s.rollouter.forceExitRecovery.get? operationId = none
  bound : ∀ k, s.rollouter.pendingOperationTargets.get? operationId = some k → k = key ∧
    s.manager.replicaState.get? key = some .draining ∧
    (∀ c ∈ s.inflight, c = .beginDrain key operationId) ∧
    ∃ x, s.lb.routes.get? key = some x ∧
      ∀ z, s.lb.drainingOperations.get? z = some operationId → z = x
  once : h.aborts ≤ 1
  fresh : s.rollouter.forceExitRecovery.get? operationId = none → h.aborts = 0
  recovered : ∀ admitted n,
    s.rollouter.forceExitRecovery.get? operationId = some (admitted, n) →
      RecordedTarget key operationId s.lb admitted h

/-- A call that leaves the routing tables and the handoffs alone, or drains the target for the
operation. -/
def Mild (key : ReplicaKey) (operationId : String) (lb : GlobalRequestLoadBalancer)
    (l : RouterCall) : Prop :=
  (SameRouting lb (lb.after l) ∧ ∀ k, l ≠ .finishRemove k) ∨ l = .beginDrain key operationId

variable {lb : GlobalRequestLoadBalancer} {l : RouterCall} {x : String}

theorem Mild.routes (hl : Mild key operationId lb l) : (lb.after l).routes = lb.routes := by
  rcases hl with ⟨hs, -⟩ | rfl
  · exact hs.2.1
  · rcases beginDrain_eq lb key operationId with ⟨e, he⟩ | ⟨y, -, -, -, hr, -⟩
    · rw [after, he]
    · exact hr

theorem Mild.drain (hl : Mild key operationId lb l) (hx : lb.routes.get? key = some x)
    (hd : ∀ z, lb.drainingOperations.get? z = some operationId → z = x) :
    ∀ z, (lb.after l).drainingOperations.get? z = some operationId → z = x := by
  intro z hz
  rcases draining_after hz with hz | ⟨k, rfl, hk⟩
  · exact hd z hz
  · rcases hl with ⟨hs, -⟩ | hl
    · exact hd z (by rw [← hs.2.2.2]; exact hz)
    · cases hl
      exact Option.some.inj (hk.symm.trans hx)

theorem Mild.handoff {r : String} (hl : Mild key operationId lb l)
    (hr : r ∈ lb.handoffs operationId) :
    r ∈ (lb.after l).handoffs operationId := by
  refine handoff_after hr fun k he => ?_
  rcases hl with ⟨-, hl⟩ | hl
  · exact (hl k he).elim
  · cases he.symm.trans hl

theorem OutOfPool.after (h : OutOfPool key operationId lb x) (hl : Mild key operationId lb l) :
    OutOfPool key operationId (lb.after l) x := by
  refine ⟨by rw [hl.routes]; exact h.route, ?_, hl.drain h.route h.drain⟩
  rcases hl with ⟨hs, -⟩ | rfl
  · rw [hs.1]
    exact h.pool
  · rcases beginDrain_routing lb key operationId with ⟨e, he⟩ | ⟨y, -, -, hsv, -⟩
    · rw [after, he]
      exact h.pool
    · rw [after, hsv, Dict.get?_erase, h.pool, ite_self]

theorem RecordedTarget.after {admitted : List String} {h₀ : ExitHistory}
    (h : RecordedTarget key operationId lb admitted h₀) (hl : Mild key operationId lb l) :
    RecordedTarget key operationId (lb.after l) admitted h₀ := by
  obtain ⟨x, hout, hadm, hbound⟩ := h
  refine ⟨x, hout.after hl, fun r hr => hadm r (admittedOn_after hout.pool hr), fun ha => ?_⟩
  obtain ⟨hnodup, hrec, hstill, hhanded⟩ := hbound ha
  refine ⟨hnodup, hrec, fun r hr => hstill r (admittedOn_after hout.pool hr), fun r hr hh => ?_⟩
  rcases handoff_origin hh with hh | ⟨z, hz, hd⟩
  · exact hhanded r hr hh
  · -- who hands over now is admitted on the server the operation drains
    rw [hout.drain z hd] at hz
    exact .inl (hstill r hz)

/-- A call of the Rollouter at the load balancer. -/
theorem exec_after (c : LbCall) (now : Nat) (lb : GlobalRequestLoadBalancer) :
    ∃ l, c.exec now lb = lb.after l ∧ ∀ k o, l = .beginDrain k o ↔ c = .beginDrain k o := by
  cases c with
  | commitReady k x h o => exact ⟨.commitReady now k x h o, rfl, by simp⟩
  | beginDrain k o => exact ⟨.beginDrain k o, rfl, by simp⟩
  | finishRemove k => exact ⟨.finishRemove k, rfl, by simp⟩

/-- The load balancer moves on: a call of nobody's in particular, or the oldest late one. -/
theorem ExitInv.call (hi : ExitInv key operationId s h) (hm : t.manager = s.manager)
    (hb : t.rollouter.pendingOperationTargets.get? operationId =
      s.rollouter.pendingOperationTargets.get? operationId)
    (hr : t.rollouter.forceExitRecovery.get? operationId =
      s.rollouter.forceExitRecovery.get? operationId) (hlb : t.lb = s.lb.after l)
    (hcalls : ∀ c ∈ t.inflight, c ∈ s.inflight)
    (hunbound : s.rollouter.pendingOperationTargets.get? operationId = none →
      ∀ k, l ≠ .beginDrain k operationId)
    (hbound : ∀ k, s.rollouter.pendingOperationTargets.get? operationId = some k →
      Mild key operationId s.lb l) : ExitInv key operationId t h where
  handoffs := by
    rw [hlb]
    exact nodup_handoffs_after hi.handoffs
  left := by
    rw [hm]
    exact hi.left
  unbound hnone := by
    rw [hb] at hnone
    obtain ⟨hd, hc, hrec⟩ := hi.unbound hnone
    refine ⟨fun x hx => ?_, fun c hc' => hc c (hcalls c hc'), hr.trans hrec⟩
    rw [hlb] at hx
    rcases draining_after hx with hx | ⟨k, rfl, -⟩
    · exact hd x hx
    · exact hunbound hnone k rfl
  bound k hk := by
    rw [hb] at hk
    obtain ⟨rfl, hst, hc, x, hx, hd⟩ := hi.bound k hk
    rw [hm, hlb, (hbound _ hk).routes]
    exact ⟨rfl, hst, fun c hc' => hc c (hcalls c hc'), x, hx, (hbound _ hk).drain hx hd⟩
  once := hi.once
  fresh hrec := hi.fresh (hr ▸ hrec)
  recovered admitted n hrec := by
    rw [hr] at hrec
    rw [hlb]
    refine (hi.recovered admitted n hrec).after ?_
    cases hk : s.rollouter.pendingOperationTargets.get? operationId with
    | none =>
      rw [(hi.unbound hk).2.2] at hrec
      cases hrec
    | some k => exact hbound k hk

/-- What happens elsewhere is a call of the load balancer, as far as the load balancer goes. -/
theorem Outside.call (ho : Outside operationId s t) (hi : ExitInv key operationId s h) :
    ∃ l, t.lb = s.lb.after l ∧
      (s.rollouter.pendingOperationTargets.get? operationId = none →
        ∀ k, l ≠ .beginDrain k operationId) ∧
      ∀ k, s.rollouter.pendingOperationTargets.get? operationId = some k →
        Mild key operationId s.lb l := by
  obtain ⟨-, -, -, ⟨-, hlb⟩ | ⟨-, l, hl, hf, hlb, hs⟩ | ⟨c, cs, now, hs, -, hlb⟩⟩ := ho
  · -- a release without a request id calls nothing
    exact ⟨.releaseServer "" "" none, hlb, fun _ _ => by simp,
      fun _ _ => .inl ⟨.refl _, fun _ => by simp⟩⟩
  · exact ⟨l, hlb, fun _ k => hl k _, fun _ _ => .inl ⟨hlb ▸ hs, hf⟩⟩
  · obtain ⟨l, hl, hdrain⟩ := exec_after c now s.lb
    have hmem : c ∈ s.inflight := hs ▸ List.mem_cons_self
    refine ⟨l, hlb.trans hl, fun hnone k hk => ?_, fun k hk => .inr ?_⟩
    · exact (hi.unbound hnone).2.1 c hmem k ((hdrain _ _).1 hk)
    · exact (hdrain _ _).2 ((hi.bound k hk).2.2.1 c hmem)

theorem ExitInv.outside (hi : ExitInv key operationId s h) (ho : Outside operationId s t) :
    ExitInv key operationId t h := by
  obtain ⟨l, hlb, hunbound, hbound⟩ := ho.call hi
  refine hi.call ho.manager ho.binding ho.recovery hlb (fun c hc => ?_) hunbound hbound
  obtain ⟨-, -, -, ⟨hq, -⟩ | ⟨hq, -⟩ | ⟨c', cs, now, hs, hq, -⟩⟩ := ho
  · exact hq ▸ hc
  · exact hq ▸ hc
  · exact hs ▸ List.mem_cons_of_mem _ (hq ▸ hc)

/-- Some things happen that are not steps of the operation. -/
def ExitRely (operationId : String) (s t : TaskState × ExitHistory) : Prop :=
  Relation.ReflTransGen (Elsewhere operationId) s.1 t.1 ∧ t.2 = s.2

def exitProtocol (key : ReplicaKey) (operationId : String) :
    Protocol (TaskState × ExitHistory) Choice Event where
  inv s := ExitInv key operationId s.1 s.2
  rely := ExitRely operationId
  allowed _ _ _ := True
  claim _ _ := True
  rely_refl _ := ⟨.refl, rfl⟩
  rely_trans h₁ h₂ := ⟨h₁.1.trans h₂.1, h₂.2.trans h₁.2⟩

theorem ExitInv.rely {s t : TaskState × ExitHistory} (hi : ExitInv key operationId s.1 s.2)
    (h : ExitRely operationId s t) : ExitInv key operationId t.1 t.2 := by
  obtain ⟨s, h₀⟩ := s
  obtain ⟨t, h₁⟩ := t
  obtain ⟨hst, hh⟩ := h
  dsimp only at hst hh hi ⊢
  rw [hh]
  induction hst with
  | refl => exact hi
  | tail _ ht ih => exact ih.outside ht.outside

/-- What one event elsewhere leaves alone is stable. -/
theorem stable_of_outside {P : TaskState × ExitHistory → Prop}
    (hP : ∀ s t h, ExitInv key operationId s h → P (s, h) → Outside operationId s t → P (t, h)) :
    (exitProtocol key operationId).Stable P := by
  rintro ⟨s, h⟩ ⟨t, h'⟩ hi hp ⟨hst, hh⟩ -
  dsimp only at hst hh
  rw [hh]
  have hboth : ExitInv key operationId t h ∧ P (t, h) := by
    induction hst with
    | refl => exact ⟨hi, hp⟩
    | tail _ ht ih => exact ⟨ih.1.outside ht.outside, hP _ _ _ ih.1 ih.2 ht.outside⟩
  exact hboth.2

/-- `{P} p {Q} {E}` for a part of `prepare_exit`. -/
def ExitTriple {ε α : Type} (key : ReplicaKey) (operationId : String)
    (P : TaskState × ExitHistory → Prop) (p : Prog TaskState Choice Event ε α)
    (Q : α → TaskState × ExitHistory → Prop) (E : ε → TaskState × ExitHistory → Prop) : Prop :=
  (exitProtocol key operationId).Hoare P (p.withHistory (ExitHistory.next key)) Q E

namespace ExitTriple

variable {ε α β : Type} {P : TaskState × ExitHistory → Prop}
  {p : Prog TaskState Choice Event ε α} {Q : α → TaskState × ExitHistory → Prop}
  {E : ε → TaskState × ExitHistory → Prop}

theorem ret {a : α} (h : ∀ s h, ExitInv key operationId s h → P (s, h) → Q a (s, h)) :
    ExitTriple key operationId P (.ret a : Prog TaskState Choice Event ε α) Q E :=
  Protocol.Hoare.ret fun _ => h _ _

theorem raise {e : ε} (h : ∀ s h, ExitInv key operationId s h → P (s, h) → E e (s, h)) :
    ExitTriple key operationId P (.err e : Prog TaskState Choice Event ε α) Q E :=
  Protocol.Hoare.err fun _ => h _ _

theorem bind {f : α → Prog TaskState Choice Event ε β} {R : β → TaskState × ExitHistory → Prop}
    (hp : ExitTriple key operationId P p Q E)
    (hf : ∀ a, ExitTriple key operationId (Q a) (f a) R E) :
    ExitTriple key operationId P (p.bind f) R E := by
  unfold ExitTriple
  rw [Prog.withHistory_bind]
  exact Protocol.Hoare.bind hp hf

theorem tryCatch {ε' : Type} {h : ε → Prog TaskState Choice Event ε' α}
    {E' : ε' → TaskState × ExitHistory → Prop} (hp : ExitTriple key operationId P p Q E)
    (hh : ∀ e, ExitTriple key operationId (E e) (h e) Q E') :
    ExitTriple key operationId P (p.tryCatch h) Q E' := by
  unfold ExitTriple
  rw [Prog.withHistory_tryCatch]
  exact Protocol.Hoare.tryCatch hp hh

theorem conseq {P' : TaskState × ExitHistory → Prop} {Q' : α → TaskState × ExitHistory → Prop}
    {E' : ε → TaskState × ExitHistory → Prop} (hp : ExitTriple key operationId P p Q E)
    (hP : ∀ s h, ExitInv key operationId s h → P' (s, h) → P (s, h))
    (hQ : ∀ a s h, ExitInv key operationId s h → Q a (s, h) → Q' a (s, h))
    (hE : ∀ e s h, ExitInv key operationId s h → E e (s, h) → E' e (s, h)) :
    ExitTriple key operationId P' p Q' E' :=
  Protocol.Hoare.conseq hp (fun _ => hP _ _) (fun _ _ => hQ _ _ _) fun _ _ => hE _ _ _

theorem of_imp {q : Prop} (hp : q → ExitTriple key operationId P p Q E) :
    ExitTriple key operationId (fun x => q ∧ P x) p Q E :=
  fun s hi hq => hp hq.1 s hi hq.2

theorem awaitStep {tag : Event} {ready : TaskState → Choice → Bool}
    {f : TaskState → Choice → Except ε α × TaskState} (hP : (exitProtocol key operationId).Stable P)
    (h : ∀ s h o, ExitInv key operationId s h → P (s, h) → ready s o = true →
      ExitInv key operationId (f s o).2 (ExitHistory.next key tag s (f s o).2 h) ∧
      (∀ a, (f s o).1 = .ok a → Q a ((f s o).2, ExitHistory.next key tag s (f s o).2 h)) ∧
      ∀ e, (f s o).1 = .error e → E e ((f s o).2, ExitHistory.next key tag s (f s o).2 h)) :
    ExitTriple key operationId P (Prog.await tag ready f) Q E := by
  unfold ExitTriple
  rw [Prog.withHistory_await]
  exact Protocol.Hoare.await hP (fun _ _ _ => trivial) fun s o hi hp hr _ => h s.1 s.2 o hi hp hr

/-- A step that is no abort and writes nothing of the Manager leaves the history alone. -/
theorem next_eq {tag : Event} (hi : ExitInv key operationId s h) (htag : ∀ o, tag ≠ .abort o)
    (hm : t.manager = s.manager) : ExitHistory.next key tag s t h = h := by
  have hleft : (h.left || decide (t.manager.replicaState.get? key ≠ some .active)) = h.left := by
    rw [hm, Bool.or_eq_left_iff_imp, decide_eq_true_iff]
    exact hi.left.2
  unfold ExitHistory.next
  cases tag with
  | abort o => exact (htag o rfl).elim
  | _ => dsimp only; rw [hleft]

theorem await {tag : Event} {ready : TaskState → Choice → Bool}
    {f : TaskState → Choice → Except ε α × TaskState} (htag : ∀ o, tag ≠ .abort o)
    (hP : (exitProtocol key operationId).Stable P)
    (h : ∀ s h o, ExitInv key operationId s h → P (s, h) → ready s o = true →
      (f s o).2.manager = s.manager ∧ ExitInv key operationId (f s o).2 h ∧
      (∀ a, (f s o).1 = .ok a → Q a ((f s o).2, h)) ∧
      ∀ e, (f s o).1 = .error e → E e ((f s o).2, h)) :
    ExitTriple key operationId P (Prog.await tag ready f) Q E := by
  refine awaitStep hP fun s h₀ o hi hp hr => ?_
  obtain ⟨hm, hi', hok, herr⟩ := h s h₀ o hi hp hr
  rw [next_eq hi htag hm]
  exact ⟨hi', hok, herr⟩

theorem call {f : TaskState → Choice → Except ε α × TaskState}
    (hP : (exitProtocol key operationId).Stable P)
    (h : ∀ s h o, ExitInv key operationId s h → P (s, h) →
      (f s o).2.manager = s.manager ∧ ExitInv key operationId (f s o).2 h ∧
      (∀ a, (f s o).1 = .ok a → Q a ((f s o).2, h)) ∧
      ∀ e, (f s o).1 = .error e → E e ((f s o).2, h)) :
    ExitTriple key operationId P (Prog.call .internal f) Q E :=
  await (fun _ => nofun) hP fun s h₀ o hi hp _ => h s h₀ o hi hp

theorem peek {f : TaskState → Except PyErr α} {E : PyErr → TaskState × ExitHistory → Prop}
    (hP : (exitProtocol key operationId).Stable P)
    (hok : ∀ s h a, ExitInv key operationId s h → P (s, h) → f s = .ok a → Q a (s, h))
    (herr : ∀ s h e, ExitInv key operationId s h → P (s, h) → f s = .error e → E e (s, h)) :
    ExitTriple key operationId P (TaskProg.peek f) Q E :=
  call hP fun s h₀ _ hi hp => ⟨rfl, hi, fun a => hok s h₀ a hi hp, fun e => herr s h₀ e hi hp⟩

theorem require {q : Prop} [Decidable q] {e : PyErr} {E : PyErr → TaskState × ExitHistory → Prop}
    (hE : ∀ s h, ExitInv key operationId s h → P (s, h) → E e (s, h)) :
    ExitTriple key operationId P (TaskProg.require q e) (fun _ x => q ∧ P x) E := by
  unfold TaskProg.require
  split
  · exact .ret fun _ _ _ h => ⟨‹_›, h⟩
  · exact .raise hE

/-- The late calls all reach the load balancer. -/
theorem flush_rely (s : TaskState) (h : ExitHistory) (now : Nat) :
    ExitRely operationId (s, h) (s.flush now, h) := by
  refine ⟨?_, rfl⟩
  dsimp only
  generalize hc : s.inflight = cs
  induction cs generalizing s with
  | nil => rw [flush_eq hc]
  | cons c cs ih =>
    refine .head (b := { s with lb := c.exec now s.lb, inflight := cs })
      ⟨.deliver now, trivial, ?_⟩ ?_
    · simp only [TaskState.environment, hc]
    · have := ih { s with lb := c.exec now s.lb, inflight := cs } rfl
      rwa [show ({ s with lb := c.exec now s.lb, inflight := cs } : TaskState).flush now =
        s.flush now by unfold TaskState.flush; rw [hc]; rfl] at this

/-- A query of the load balancer finds every earlier call executed. -/
theorem readRpc {f : GlobalRequestLoadBalancer → α} (hP : (exitProtocol key operationId).Stable P) :
    ∀ n, ExitTriple key operationId P (TaskProg.readRpc f n)
      (fun a x => P x ∧ x.1.inflight = [] ∧ a = f x.1.lb) fun _ => P := by
  have hread : ExitTriple key operationId P (TaskProg.lbRead f)
      (fun a x => P x ∧ x.1.inflight = [] ∧ a = f x.1.lb) fun _ => P := by
    refine call hP fun s h₀ o hi hp => ?_
    by_cases ho : o.fault = .none
    · have hf : ExitRely operationId (s, h₀) (s.flush o.now, h₀) := flush_rely s h₀ o.now
      have hi' : ExitInv key operationId (s.flush o.now) h₀ := hi.rely hf
      rw [if_pos ho]
      refine ⟨rfl, hi', fun a ha => ⟨hP (s, h₀) _ hi hp hf hi', rfl, ?_⟩, fun e he => by cases he⟩
      cases ha
      rfl
    · rw [if_neg ho]
      exact ⟨rfl, hi, fun a ha => (by cases ha), fun e _ => hp⟩
  intro n
  induction n with
  | zero => exact hread
  | succ n ih => exact tryCatch hread fun _ => ih

end ExitTriple

end Exit

end ReplicaLending
