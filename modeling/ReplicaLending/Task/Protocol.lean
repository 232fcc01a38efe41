import ReplicaLending.Router.Drain
import ReplicaLending.Task.Membership
/-!
# What the lifecycle thread may count on

Between two steps of the thread that runs an operation, the rest of the task serves requests, delivers
late calls, synchronises weights and answers. `Rely` lists what that leaves alone; `protocol` is the
rely-guarantee protocol of the thread of one operation, and `Triple` its proof rules for the
combinators of `Task/State.lean`.
-/

namespace ReplicaLending

open TaskState TaskProg GlobalRequestLoadBalancer

/-- A runtime but for the version it reports. -/
def Server.unversioned (v : Server) : Server := { v with globalSteps := none }

/-- Whatever is said of a runtime without its version. -/
theorem Server.of_unversioned {F : Server → Prop} (hF : ∀ v : Server, F v.unversioned ↔ F v)
    {v w : Server} (h : v.unversioned = w.unversioned) : F v ↔ F w := by
  rw [← hF v, h, hF]

theorem Server.awake_congr {v w : Server} (h : v.unversioned = w.unversioned) :
    v.Awake ↔ w.Awake := of_unversioned (fun _ => Iff.rfl) h

theorem Server.weights_congr {v w : Server} (h : v.unversioned = w.unversioned) :
    v.weights = true ↔ w.weights = true :=
  of_unversioned (F := fun v => v.weights = true) (fun _ => Iff.rfl) h

theorem Vacated.congr {m : LLMServerManager} {k : ReplicaKey} {v w : Server}
    (hv : Vacated m k v) (h : v.unversioned = w.unversioned) : Vacated m k w := by
  refine (Server.of_unversioned (F := Vacated m k) (fun u => ?_) h).1 hv
  unfold Vacated
  split <;> exact Iff.rfl

/-- What only the thread of the operation changes. -/
structure View where
  manager : LLMServerManager
  pending : Dict ReplicaKey (List Replica × String)
  ready : Dict ReplicaKey (String × Nat × OperationEvidence)
  receivers : List Replica
  members : ReplicaKey → Option (List Replica)
  target : Option ReplicaKey
  recovery : Option (List String × Option Nat)
  world : Nat → Server
  journal : OperationJournal

def TaskState.view (s : TaskState) (o : String) : View where
  manager := s.manager
  pending := s.ce.pending
  ready := s.ce.ready
  receivers := s.ce.replicas
  members := s.ce.members
  target := s.rollouter.pendingOperationTargets.get? o
  recovery := s.rollouter.forceExitRecovery.get? o
  world := fun n => (s.world n).unversioned
  journal := s.journal

/-- Nobody but the lifecycle thread moves the gate: it holds it, or the gate is blocked. -/
def Latched (s : TaskState) : Prop :=
  s.nativeSync = none ∧ (s.gate.lock.locked = true ∨ s.gate.blockedReason.isSome)

structure Rely (o : String) (s t : TaskState) : Prop where
  view : t.view o = s.view o
  gate : Latched s → t.gate = s.gate ∧ t.nativeSync = none
  router : s.inflight = [] → t.inflight = [] ∧ SameRouting s.lb t.lb
  outbox : t.outbox ⊆ s.outbox

theorem Rely.refl (o : String) (s : TaskState) : Rely o s s :=
  ⟨rfl, fun h => ⟨rfl, h.1⟩, fun h => ⟨h, .refl _⟩, fun _ h => h⟩

theorem Rely.latched {o : String} {s t : TaskState} (h : Rely o s t) (hs : Latched s) :
    Latched t := by
  obtain ⟨hg, hn⟩ := h.gate hs
  exact ⟨hn, by rw [hg]; exact hs.2⟩

theorem GlobalRequestLoadBalancer.SameRouting.trans
    {a b c : GlobalRequestLoadBalancer} (h : SameRouting a b) (h' : SameRouting b c) :
    SameRouting a c :=
  ⟨h'.1.trans h.1, h'.2.1.trans h.2.1, h'.2.2.1.trans h.2.2.1, h'.2.2.2.trans h.2.2.2⟩

theorem Rely.trans {o : String} {s t u : TaskState} (h : Rely o s t) (h' : Rely o t u) :
    Rely o s u where
  view := h'.view.trans h.view
  gate := by
    intro hs
    obtain ⟨hg, -⟩ := h.gate hs
    obtain ⟨hg', hn'⟩ := h'.gate (h.latched hs)
    exact ⟨hg'.trans hg, hn'⟩
  router := by
    intro hs
    obtain ⟨hi, hr⟩ := h.router hs
    obtain ⟨hi', hr'⟩ := h'.router hi
    exact ⟨hi', hr.trans hr'⟩
  outbox := List.Subset.trans h'.outbox h.outbox

/-! ## The protocol of one operation's thread -/

/-- The operation is the unfinished one. -/
def Cur (d : Deployment) (c : OperationCommand) (s : TaskState) : Prop :=
  s.journal.current d.taskSession = some c

/-- Its thread has opened its record. -/
def Run (d : Deployment) (c : OperationCommand) (s : TaskState) : Prop :=
  Cur d c s ∧ ∃ r, s.journal.records.get? c.operationId = some r ∧ r.status = .running

/-- `commit_service_change` of an ADD or RESTORE finds the record of its target DRAINING. -/
def ReadsDraining (s : TaskState) (o : String) : Prop :=
  ∃ c, s.journal.commands.get? o = some c ∧ c.kind.exits = false ∧
    s.manager.replicaState.get? c.target = some .draining

/-- The target of the operation is published: ready ledger, pool, Manager, checkpoint engine. -/
def Published (s : TaskState) (o : String) : Prop :=
  ∃ c x ev, s.journal.commands.get? o = some c ∧
    s.lb.readyOperations.get? o = some (c.target, x, ev) ∧ (s.lb.servers.get? x).isSome ∧
    s.manager.replicaState.get? c.target = some .active ∧ (s.ce.members c.target).isSome

/-- What is claimed of the state at a step. -/
def EventClaim (strict : Prop) (s : TaskState) : Event → Prop
  | .published o ev => strict → ev.type = .serviceCommitted → Published s o
  | _ => True

/-- The steps a run is restricted to. -/
def EventAllowed (strict : Prop) (s : TaskState) : Event → Prop
  | .serviceChange o => strict → ¬ ReadsDraining s o
  | _ => True

def protocol (d : Deployment) (strict : Prop) (o : String) :
    Protocol TaskState Choice Event where
  inv := Inv d strict
  rely := Rely o
  allowed tag s _ := EventAllowed strict s tag
  claim tag s := (∃ c, Cur d c s ∧ c.operationId = o) ∧ EventClaim strict s tag
  rely_refl := Rely.refl o
  rely_trans := Rely.trans

variable {d : Deployment} {strict : Prop} {c : OperationCommand}

/-- `{P} p {Q} {E}` while the operation runs. -/
def Triple {ε α : Type} (d : Deployment) (strict : Prop) (c : OperationCommand)
    (P : TaskState → Prop) (p : Prog TaskState Choice Event ε α) (Q : α → TaskState → Prop)
    (E : ε → TaskState → Prop) : Prop :=
  (protocol d strict c.operationId).Hoare (fun s => Run d c s ∧ P s) p
    (fun a s => Run d c s ∧ Q a s) fun e s => Run d c s ∧ E e s

/-- What the rest of the task leaves alone. -/
def Steady (d : Deployment) (strict : Prop) (c : OperationCommand) (P : TaskState → Prop) : Prop :=
  (protocol d strict c.operationId).Stable P

namespace Steady

variable {P Q : TaskState → Prop}

theorem const (p : Prop) : Steady d strict c fun _ => p := Protocol.Stable.const p

theorem and (hP : Steady d strict c P) (hQ : Steady d strict c Q) :
    Steady d strict c fun s => P s ∧ Q s := Protocol.Stable.and hP hQ

theorem or (hP : Steady d strict c P) (hQ : Steady d strict c Q) :
    Steady d strict c fun s => P s ∨ Q s := Protocol.Stable.or hP hQ

theorem ex {ι : Sort*} {P : ι → TaskState → Prop} (hP : ∀ i, Steady d strict c (P i)) :
    Steady d strict c fun s => ∃ i, P i s := Protocol.Stable.ex hP

theorem imp (p : Prop) (hP : Steady d strict c P) : Steady d strict c fun s => p → P s :=
  Protocol.Stable.imp p hP

/-- A fact about what only the thread changes. -/
theorem seen (F : View → Prop) : Steady d strict c fun s => F (s.view c.operationId) := by
  intro s t _ h hr _
  exact (congrArg F hr.view).mpr h

theorem run : Steady d strict c (Run d c) :=
  seen fun v => v.journal.current d.taskSession = some c ∧
    ∃ r, v.journal.records.get? c.operationId = some r ∧ r.status = .running

/-- A fact about the gate, while it is latched. -/
theorem latched (F : ReplicaSyncGate → Prop) :
    Steady d strict c fun s => Latched s ∧ F s.gate := by
  rintro s t _ ⟨hs, h⟩ hr _
  exact ⟨hr.latched hs, by rw [(hr.gate hs).1]; exact h⟩

/-- A fact about the routing tables, when no late call is under way. -/
theorem routing (F : Dict String Nat → Dict ReplicaKey String →
      Dict String (ReplicaKey × String × OperationEvidence) → Prop) :
    Steady d strict c fun s =>
      s.inflight = [] ∧ F s.lb.servers s.lb.routes s.lb.readyOperations := by
  rintro s t _ ⟨hs, h⟩ hr _
  obtain ⟨hi, hsv, hrt, hrd, -⟩ := hr.router hs
  exact ⟨hi, by rw [hsv, hrt, hrd]; exact h⟩

/-- What holds of every evidence on its way. -/
theorem sent (F : String × OperationEvidence → Prop) :
    Steady d strict c fun s => ∀ e ∈ s.outbox, F e :=
  fun _ _ _ h hr _ e he => h e (hr.outbox he)

end Steady

/-- What holds of the outcome of a program. -/
def OutcomeOf {ε α : Type} (Q : α → TaskState → Prop) (E : ε → TaskState → Prop) :
    Except ε α → TaskState → Prop
  | .ok a => Q a
  | .error e => E e

namespace Triple

variable {ε ε' α β : Type} {P P' X : TaskState → Prop} {Q Q' : α → TaskState → Prop}
  {E E' : ε → TaskState → Prop} {p : Prog TaskState Choice Event ε α}

theorem ret {a : α} (h : ∀ s, Inv d strict s → Run d c s → P s → Q a s) :
    Triple (ε := ε) d strict c P (.ret a) Q E :=
  Protocol.Hoare.ret fun s hi hp => ⟨hp.1, h s hi hp.1 hp.2⟩

theorem err {e : ε} (h : ∀ s, Inv d strict s → Run d c s → P s → E e s) :
    Triple (α := α) d strict c P (.err e) Q E :=
  Protocol.Hoare.err fun s hi hp => ⟨hp.1, h s hi hp.1 hp.2⟩

theorem conseq (h : Triple d strict c P p Q E)
    (hP : ∀ s, Inv d strict s → Run d c s → P' s → P s)
    (hQ : ∀ a s, Inv d strict s → Run d c s → Q a s → Q' a s)
    (hE : ∀ e s, Inv d strict s → Run d c s → E e s → E' e s) : Triple d strict c P' p Q' E' :=
  Protocol.Hoare.conseq h (fun s hi hp => ⟨hp.1, hP s hi hp.1 hp.2⟩)
    (fun a s hi hq => ⟨hq.1, hQ a s hi hq.1 hq.2⟩) fun e s hi he => ⟨he.1, hE e s hi he.1 he.2⟩

theorem pre (h : Triple d strict c P p Q E) (hP : ∀ s, Inv d strict s → Run d c s → P' s → P s) :
    Triple d strict c P' p Q E := h.conseq hP (fun _ _ _ _ h => h) fun _ _ _ _ h => h

theorem bind {f : α → Prog TaskState Choice Event ε β} {R : β → TaskState → Prop}
    (h : Triple d strict c P p Q E) (hf : ∀ a, Triple d strict c (Q a) (f a) R E) :
    Triple d strict c P (p.bind f) R E := Protocol.Hoare.bind h hf

theorem result {R : Except ε α → TaskState → Prop} {E' : ε' → TaskState → Prop}
    (h : Triple d strict c P p (fun a => R (.ok a)) fun e => R (.error e)) :
    Triple d strict c P (p.result : Prog TaskState Choice Event ε' _) R E' :=
  Protocol.Hoare.result h

theorem outcome {E' : ε' → TaskState → Prop} (h : Triple d strict c P p Q E) :
    Triple d strict c P (p.result : Prog TaskState Choice Event ε' _) (OutcomeOf Q E) E' := .result h

theorem tryCatch {h : ε → Prog TaskState Choice Event ε' α} {E' : ε' → TaskState → Prop}
    (hp : Triple d strict c P p Q E) (hh : ∀ e, Triple d strict c (E e) (h e) Q E') :
    Triple d strict c P (p.tryCatch h) Q E' := Protocol.Hoare.tryCatch hp hh

theorem mapErr {f : ε → ε'} {E' : ε' → TaskState → Prop}
    (hp : Triple d strict c P p Q fun e => E' (f e)) :
    Triple d strict c P (p.mapErr f) Q E' := Protocol.Hoare.mapErr hp

theorem tryFinally {f : Prog TaskState Choice Event ε Unit} (hp : Triple d strict c P p Q E)
    (hQ : ∀ a, Triple d strict c (Q a) f (fun _ => Q' a) E')
    (hE : ∀ e, Triple d strict c (E e) f (fun _ => E' e) E') :
    Triple d strict c P (p.tryFinally f) Q' E' := Protocol.Hoare.tryFinally hp hQ hE

theorem ofExcept {r : Except ε α}
    (hok : ∀ a, r = .ok a → ∀ s, Inv d strict s → Run d c s → P s → Q a s)
    (herr : ∀ e, r = .error e → ∀ s, Inv d strict s → Run d c s → P s → E e s) :
    Triple d strict c P (.ofExcept r) Q E :=
  Protocol.Hoare.ofExcept (fun a ha s hi hp => ⟨hp.1, hok a ha s hi hp.1 hp.2⟩)
    fun e he s hi hp => ⟨hp.1, herr e he s hi hp.1 hp.2⟩

/-- Case distinction on a value the program has. -/
theorem of_imp {φ : Prop} (h : φ → Triple d strict c P p Q E) :
    Triple d strict c (fun s => φ ∧ P s) p Q E :=
  fun s hi hp => h hp.2.1 s hi ⟨hp.1, hp.2.2⟩

theorem ex {ι : Sort*} {P : ι → TaskState → Prop} (h : ∀ i, Triple d strict c (P i) p Q E) :
    Triple d strict c (fun s => ∃ i, P i s) p Q E := by
  rintro s hi ⟨hc, i, hp⟩
  exact h i s hi ⟨hc, hp⟩

/-- Code that is not reached. -/
theorem unreached (h : ∀ s, Inv d strict s → Run d c s → ¬ P s) : Triple d strict c P p Q E :=
  fun s hi hp => (h s hi hp.1 hp.2).elim

/-! ## One step -/

/-- How a step may end. -/
def Ends (d : Deployment) (strict : Prop) (c : OperationCommand) (Q : α → TaskState → Prop)
    (E : ε → TaskState → Prop) (r : Except ε α × TaskState) : Prop :=
  Inv d strict r.2 ∧ Run d c r.2 ∧ match r.1 with
    | .ok a => Q a r.2
    | .error e => E e r.2

/-- A step as a function of the state. -/
def Does (d : Deployment) (strict : Prop) (c : OperationCommand) (P : TaskState → Prop)
    (ready : TaskState → Choice → Prop) (f : TaskState → Choice → Except ε α × TaskState)
    (Q : α → TaskState → Prop) (E : ε → TaskState → Prop) : Prop :=
  ∀ s o, Inv d strict s → Run d c s → P s → ready s o → Ends d strict c Q E (f s o)

theorem Ends.ok {a : α} {s : TaskState} (hi : Inv d strict s) (hc : Run d c s) (h : Q a s) :
    Ends (ε := ε) d strict c Q E (.ok a, s) := ⟨hi, hc, h⟩

theorem Ends.error {e : ε} {s : TaskState} (hi : Inv d strict s) (hc : Run d c s) (h : E e s) :
    Ends (α := α) d strict c Q E (.error e, s) := ⟨hi, hc, h⟩

theorem await {tag : Event} {ready : TaskState → Choice → Bool}
    {f : TaskState → Choice → Except ε α × TaskState} (hP : Steady d strict c P)
    (hc : ∀ s, Inv d strict s → Run d c s → P s → EventClaim strict s tag)
    (h : Does d strict c P (fun s o => ready s o = true ∧ EventAllowed strict s tag) f Q E) :
    Triple d strict c P (Prog.await tag ready f) Q E := by
  refine Protocol.Hoare.await (Steady.run.and hP) (fun s hi hp => ⟨⟨c, hp.1.1, rfl⟩, hc s hi hp.1 hp.2⟩) ?_
  intro s o hi hp hready hallowed
  obtain ⟨hi', hc', hend⟩ := h s o hi hp.1 hp.2 ⟨hready, hallowed⟩
  refine ⟨hi', fun a ha => ⟨hc', ?_⟩, fun e he => ⟨hc', ?_⟩⟩
  · rw [ha] at hend; exact hend
  · rw [he] at hend; exact hend

theorem call {f : TaskState → Choice → Except ε α × TaskState} (hP : Steady d strict c P)
    (h : Does d strict c P (fun _ _ => True) f Q E) :
    Triple d strict c P (Prog.call .internal f) Q E :=
  .await hP (fun _ _ _ _ => trivial) fun s o hi hc hp _ => h s o hi hc hp trivial

theorem peek {f : TaskState → Except PyErr α} {E : PyErr → TaskState → Prop}
    (hP : Steady d strict c P)
    (hok : ∀ s a, Inv d strict s → Run d c s → P s → f s = .ok a → Q a s)
    (herr : ∀ s e, Inv d strict s → Run d c s → P s → f s = .error e → E e s) :
    Triple d strict c P (TaskProg.peek f) Q E :=
  .call hP fun s _ hi hc hp _ => by
    cases hf : f s with
    | ok a => exact .ok hi hc (hok s a hi hc hp hf)
    | error e => exact .error hi hc (herr s e hi hc hp hf)

theorem require {q : Prop} [Decidable q] {e : PyErr} {Q : Unit → TaskState → Prop}
    {E : PyErr → TaskState → Prop}
    (hok : q → ∀ s, Inv d strict s → Run d c s → P s → Q () s)
    (herr : ¬ q → ∀ s, Inv d strict s → Run d c s → P s → E e s) :
    Triple d strict c P (TaskProg.require q e) Q E := by
  unfold TaskProg.require
  split
  · exact .ret (hok ‹_›)
  · exact .err (herr ‹_›)

theorem when {q : Prop} [Decidable q] {p : TaskProg Unit} {Q : Unit → TaskState → Prop}
    {E : PyErr → TaskState → Prop} (hp : q → Triple d strict c P p Q E)
    (hn : ¬ q → ∀ s, Inv d strict s → Run d c s → P s → Q () s) :
    Triple d strict c P (TaskProg.when q p) Q E := by
  unfold TaskProg.when
  split
  · exact hp ‹_›
  · exact .ret (hn ‹_›)

/-- A remote call: it may not happen, and its reply may be lost. -/
theorem rpc {p : TaskProg α} {E E' : PyErr → TaskState → Prop} (hP : Steady d strict c P)
    (hp : Triple d strict c P p Q E') (hQ : ∀ a, Steady d strict c (Q a))
    (hE : ∀ e, Steady d strict c (E' e))
    (hbefore : ∀ s, Inv d strict s → Run d c s → P s → E lostReply s)
    (hlost : ∀ a s, Inv d strict s → Run d c s → Q a s → E lostReply s)
    (herr : ∀ e s, Inv d strict s → Run d c s → E' e s → E e s ∧ E lostReply s) :
    Triple d strict c P (TaskProg.rpc p) Q E := by
  refine .bind (Q := fun _ => P) (.call hP ?_) fun _ => ?_
  · intro s o hi hc hs _
    dsimp only
    split
    · exact .error hi hc (hbefore s hi hc hs)
    · exact .ok hi hc hs
  refine .bind (Q := fun r s => match r with | .ok a => Q a s | .error e => E' e s)
    (.result hp) fun r => ?_
  refine .call ?_ ?_
  · cases r with
    | ok a => exact hQ a
    | error e => exact hE e
  intro s o hi hc hs _
  dsimp only
  cases r with
  | ok a =>
    split
    · exact .error hi hc (hlost a s hi hc hs)
    · exact .ok hi hc hs
  | error e =>
    split
    · exact .error hi hc (herr e s hi hc hs).2
    · exact .error hi hc (herr e s hi hc hs).1

end Triple

end ReplicaLending
