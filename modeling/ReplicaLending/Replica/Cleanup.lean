import ReplicaLending.Replica.Placement
/-!
# The cleanup of a borrowed runtime

`init_from_lease` launches a CE worker and a server; whenever it fails, and when the runtime is
destroyed, `cleanup_borrowed_runtime` kills what was launched and then waits for a proof of death
from the Ray State API. The names it waits for are recorded at different times: the worker's after
its launch (replica.py:326), the server's when the placement is planned, before anything is launched
(:164). A name that was never launched is listed with no state, which is no proof.

| here | there |
| --- | --- |
| `waitActorNamesDead`       | `_wait_actor_names_dead` (replica.py:248) |
| `killWorkersVerified`      | `_kill_workers_verified` (:273) |
| `createWorkersFromClaims`  | `_create_workers_from_claims` (:289) |
| `shutdownServersVerified`  | `_shutdown_servers_verified` (:387) |
| `cleanupBorrowedRuntime`   | `cleanup_borrowed_runtime` (:413) |
| `initFromLease`            | `init_from_lease` (:438) |
| `createBorrowedReplica`    | the end of `create_borrowed_replica` (llm_server_manager.py:426-514) |

Between any two steps actors may die, and nothing else happens (`Ages`). How many polls a wait gets
until its deadline, which calls raise and how far a launch gets before it raises are inputs.
-/

namespace ReplicaLending

/-- The state of a launched actor; Ray's other states are `alive` here. -/
inductive ActorFate | alive | dead
deriving DecidableEq, Repr

/-- How a call that can raise ends: it returns; it raises without an effect; it launches an actor
and raises before the handle is kept; it raises after that. -/
inductive Landing
  | done
  | failed (e : PyErr)
  | unrecorded (e : PyErr)
  | recorded (e : PyErr)
deriving DecidableEq

/-- The inputs of one step. -/
structure RuntimeInput where
  landing : Landing
  polls : Nat

/-- A runtime object and the actors launched for it, by name. -/
structure BorrowedRuntime where
  replica : MultiTaskvLLMReplica
  actors : String → Option ActorFate
  /-- Proof-only: since the last cleanup began, some wait has reached its deadline with an actor it
  waits for still alive. -/
  overdue : Bool

abbrev RuntimeProg (ε α : Type) := Prog BorrowedRuntime RuntimeInput Unit ε α

def Landing.result : Landing → Except PyErr Unit
  | .done => .ok ()
  | .failed e | .unrecorded e | .recorded e => .error e

namespace BorrowedRuntime

/-- One step of the program. -/
def call {ε α : Type} (f : BorrowedRuntime → RuntimeInput → Except ε α × BorrowedRuntime) :
    RuntimeProg ε α := Prog.call () f

/-- A call that reads nothing of the runtime and may raise. -/
def outside : RuntimeProg PyErr Unit := call fun s o => (o.landing.result, s)

def read {ε α : Type} (f : MultiTaskvLLMReplica → α) : RuntimeProg ε α :=
  call fun s _ => (.ok (f s.replica), s)

def write {ε : Type} (f : MultiTaskvLLMReplica → MultiTaskvLLMReplica) : RuntimeProg ε Unit :=
  call fun s _ => (.ok (), { s with replica := f s.replica })

/-- An actor is launched under a name. -/
def launch (s : BorrowedRuntime) (name : String) : BorrowedRuntime :=
  { s with actors := Function.update s.actors name (some .alive) }

/-- A kill that takes effect. -/
def die (s : BorrowedRuntime) (name : String) : BorrowedRuntime :=
  { s with actors := fun n => if n = name ∧ s.actors n = some .alive then some .dead else s.actors n }

/-- `_non_dead_actor_names` (:226): a name with no state counts as not dead. -/
def nonDeadActorNames (names : List String) (actors : String → Option ActorFate) : List String :=
  names.filter fun n => actors n ≠ some .dead

/-- The polls of `_wait_actor_names_dead` up to the one at the deadline. -/
def waitLoop (names : List String) : Nat → RuntimeProg PyErr Unit
  | 0 => call fun s _ =>
    if nonDeadActorNames names s.actors = [] then (.ok (), s)
    else (.error (.runtimeError "Ray actors did not reach DEAD before timeout"),
      { s with overdue := s.overdue || names.any fun n => s.actors n = some .alive })
  | k + 1 => do
    let active ← call fun s _ => (.ok (nonDeadActorNames names s.actors), s)
    if active = [] then return () else waitLoop names k

/-- `_wait_actor_names_dead` (:248). -/
def waitActorNamesDead (names : List String) : RuntimeProg PyErr Unit :=
  if names = [] then return ()
  else do
    let polls ← call fun s o => (.ok o.polls, s)
    waitLoop names polls

/-- `ray.kill` of each actor; one that raises is ignored. -/
def killAll : List RayActor → RuntimeProg PyErr Unit
  | [] => return ()
  | actor :: actors => do
    call fun s o => (.ok (), if o.landing = .done then s.die actor.name else s)
    killAll actors

/-- `_kill_workers_verified` (:273). -/
def killWorkersVerified (workers : List RayActor) (names : List String) :
    RuntimeProg PyErr Unit := do
  killAll workers
  if workers ≠ [] ∧ names = [] then
    Prog.err (.runtimeError "borrowed CE worker cleanup has no actor names for DEAD proof")
  else waitActorNamesDead names

/-- `shutdown_runtime` of each server (:391-397); a failure or a timeout is ignored. -/
def shutdownRuntimes : List RayActor → RuntimeProg PyErr Unit
  | [] => return ()
  | _ :: actors => do
    call fun s _ => (.ok (), s)
    shutdownRuntimes actors

/-- `_shutdown_servers_verified` (:387). -/
def shutdownServersVerified : RuntimeProg PyErr Unit := do
  let (servers, names) ← read fun r => (r.servers, r.borrowedServerNames)
  shutdownRuntimes servers
  killAll servers
  if servers ≠ [] ∧ names = [] then
    Prog.err (.runtimeError "borrowed server cleanup has no actor names for DEAD proof")
  else do
    waitActorNamesDead names
    write fun r => { r with servers := [], serverHandle := none }

/-- The workers' half of `cleanup_borrowed_runtime` (:424-434). -/
def killRecordedWorkers : RuntimeProg PyErr Unit := do
  let (workers, names) ← read fun r => (r.workers, r.borrowedWorkerNames)
  killWorkersVerified workers names
  write fun r => { r with workers := [] }

/-- `cleanup_borrowed_runtime` (:413): both halves run, whatever the first one raises. -/
def cleanupBorrowedRuntime : RuntimeProg PyErr Unit := do
  call fun s _ =>
    if s.replica.replicaKind ≠ .borrowed then
      (.error (.valueError "borrowed cleanup is BORROWED-only"), s)
    else (.ok (), { s with
      replica := { s.replica with borrowedCleanupVerified := false }
      overdue := false })
  let servers ← shutdownServersVerified.result
  let workers ← killRecordedWorkers.result
  match servers, workers with
  | .ok _, .ok _ => write fun r => { r with borrowedCleanupVerified := true }
  | _, _ => Prog.err (.runtimeError "borrowed runtime cleanup is unverified")

/-- The worker enters the runtime object and is probed (:318-327). -/
def registerWorker (worker : RayActor) : RuntimeProg PyErr Unit := do
  outside
  write fun r => { r with workers := [worker], borrowedWorkerNames := [worker.name] }
  outside

/-- The launch of the CE worker (:310-316): a handle, or what was raised. -/
def launchWorker (name : String) : RuntimeProg (PyErr × Option RayActor) RayActor :=
  call fun s o => match o.landing with
    | .done => (.ok ⟨name⟩, s.launch name)
    | .failed e => (.error (e, none), s)
    | .unrecorded e | .recorded e => (.error (e, none), s.launch name)

/-- The guarded part of `_create_workers_from_claims`; what it raises comes with the local `worker`. -/
def launchAndRegister (name : String) : RuntimeProg (PyErr × Option RayActor) Unit := do
  let worker ← launchWorker name
  (registerWorker worker).mapErr fun e => (e, some worker)

/-- The handler of `_create_workers_from_claims` (:328-348). -/
def abandonWorker (e : PyErr × Option RayActor) : RuntimeProg PyErr Unit := do
  let killed ← (killWorkersVerified e.2.toList (e.2.toList.map RayActor.name)).result
  match killed with
  | .ok _ => do
    write fun r => { r with workers := [] }
    Prog.err e.1
  | .error _ => do
    match e.2 with
    | some worker =>
      write fun r => { r with workers := [worker], borrowedWorkerNames := [worker.name] }
    | none => pure ()
    Prog.err (.runtimeError "borrowed CE creation failed: actor cleanup is unverified")

/-- `build_borrowed_worker_plan` as the first step of the creation. -/
def plan (spec : ResolvedSpec) : RuntimeProg PyErr WorkerPlan := call fun s _ =>
  ((s.replica.buildBorrowedWorkerPlan spec).1,
    { s with replica := (s.replica.buildBorrowedWorkerPlan spec).2 })

/-- `_create_workers_from_claims` (:289); `pgs` are the keys of `pg_by_id`. -/
def createWorkersFromClaims (spec : ResolvedSpec) (pgs : List PyVal) : RuntimeProg PyErr Unit := do
  let item ← plan spec
  if pgs ≠ [item.pgId] then
    Prog.err (.valueError "placement-group handles do not exactly cover claims")
  else do
    -- the communication root, and the actor options
    outside
    (launchAndRegister item.actorName).tryCatch abandonWorker

/-- `launch_servers` of the native replica: one server actor under the planned name. -/
def launchServers : RuntimeProg PyErr Unit := call fun s o =>
  let name := s.replica.serverName
  let recorded := { s.launch name with
    replica := { s.replica with servers := [⟨name⟩], serverHandle := some ⟨name⟩ } }
  match o.landing with
  | .done => (.ok (), recorded)
  | .failed e => (.error e, s)
  | .unrecorded e => (.error e, s.launch name)
  | .recorded e => (.error e, recorded)

/-- `init_from_lease` (:438). -/
def initFromLease (spec : ResolvedSpec) (pgs : List PyVal) : RuntimeProg PyErr Unit := do
  write fun r => { r with borrowedCleanupVerified := false }
  Prog.tryCatch
    (do
      createWorkersFromClaims spec pgs
      launchServers
      -- `validate_server_runtime`
      outside)
    fun e => do
      let cleaned ← cleanupBorrowedRuntime.result
      match cleaned with
      | .ok _ => Prog.err e
      | .error _ => Prog.err (.runtimeError
          "borrowed runtime creation failed; cleanup is unverified")

/-- The handler of `create_borrowed_replica` (llm_server_manager.py:475-504) on a runtime: a second
cleanup unless the first one was verified, then the state the Manager records. -/
def settleFailedCreate : RuntimeProg PyErr ReplicaState := do
  let verified ← read fun r => r.borrowedCleanupVerified
  if verified then return .released
  else do
    let _ ← cleanupBorrowedRuntime.result
    let verified ← read fun r => r.borrowedCleanupVerified
    return if verified then .released else .quarantined

/-- `create_borrowed_replica` from the placement groups on (:426): the state in which it leaves the
replica, `creating` when it returns a receipt. -/
def createBorrowedReplica (spec : ResolvedSpec) (pgs : List PyVal) :
    RuntimeProg PyErr ReplicaState := do
  -- the placement groups and the constructor of the runtime
  let constructed ← outside.result
  match constructed with
  | .error _ => return .released
  | .ok _ => do
    -- the receipt is checked after the runtime is ready
    let created ← (do initFromLease spec pgs; outside : RuntimeProg PyErr Unit).result
    match created with
    | .ok _ => return .creating
    | .error _ => settleFailedCreate

/-! ## What time does -/

/-- Actors die; nothing else changes. -/
structure Older (a b : String → Option ActorFate) : Prop where
  fate : ∀ n, b n = a n ∨ a n = some .alive ∧ b n = some .dead

namespace Older
variable {a b c : String → Option ActorFate} {n : String}

theorem refl (a : String → Option ActorFate) : Older a a := ⟨fun _ => .inl rfl⟩

theorem trans (h : Older a b) (h' : Older b c) : Older a c where
  fate n := by
    rcases h.fate n with e | ⟨ha, hb⟩
    · rw [← e]; exact h'.fate n
    · rcases h'.fate n with e | ⟨hb', -⟩
      · exact .inr ⟨ha, e.trans hb⟩
      · rw [hb] at hb'; cases hb'

theorem dead (h : Older a b) (hd : a n = some .dead) : b n = some .dead := by
  rcases h.fate n with e | ⟨ha, -⟩
  · exact e.trans hd
  · rw [hd] at ha; cases ha

theorem alive (h : Older a b) (hb : b n = some .alive) : a n = some .alive := by
  rcases h.fate n with e | ⟨ha, -⟩
  · exact e.symm.trans hb
  · exact ha

theorem none_iff (h : Older a b) : b n = none ↔ a n = none := by
  rcases h.fate n with e | ⟨ha, hb⟩
  · rw [e]
  · rw [ha, hb]
    exact ⟨nofun, nofun⟩

end Older

/-- What may happen between two steps of the program. -/
structure Ages (s t : BorrowedRuntime) : Prop where
  replica : t.replica = s.replica
  overdue : t.overdue = s.overdue
  older : Older s.actors t.actors

theorem Ages.refl (s : BorrowedRuntime) : Ages s s := ⟨rfl, rfl, .refl _⟩

/-- What steps do that only kill and wait. -/
structure Waits (s t : BorrowedRuntime) : Prop where
  replica : t.replica = s.replica
  overdue : s.overdue = true → t.overdue = true
  older : Older s.actors t.actors

namespace Waits
variable {s t u : BorrowedRuntime}

theorem refl (s : BorrowedRuntime) : Waits s s := ⟨rfl, id, .refl _⟩

theorem trans (h : Waits s t) (h' : Waits t u) : Waits s u :=
  ⟨h'.replica.trans h.replica, fun ho => h'.overdue (h.overdue ho), h.older.trans h'.older⟩

theorem of_ages (h : Ages s t) : Waits s t := ⟨h.replica, fun ho => h.overdue.trans ho, h.older⟩

end Waits

variable {s t : BorrowedRuntime} {os : List RuntimeInput} {names : List String}

theorem waits_die (s : BorrowedRuntime) (name : String) : Waits s (s.die name) where
  replica := rfl
  overdue := id
  older := ⟨fun n => by
    by_cases h : n = name ∧ s.actors n = some .alive
    · exact .inr ⟨h.2, by simp only [die, if_pos h]⟩
    · exact .inl (by simp only [die, if_neg h])⟩

theorem read_exec {ε α : Type} {f : MultiTaskvLLMReplica → α} {r : Except ε α}
    (h : Prog.Exec Ages (read f) s os r t) : r = .ok (f s.replica) ∧ Waits s t := by
  obtain ⟨m, o, hm, -, rfl, rfl⟩ := Prog.Exec.call_eq h
  exact ⟨by rw [← hm.replica], .of_ages hm⟩

theorem outside_exec {r : Except PyErr Unit} (h : Prog.Exec Ages outside s os r t) : Waits s t := by
  obtain ⟨m, o, hm, -, -, rfl⟩ := Prog.Exec.call_eq h
  exact .of_ages hm

theorem write_exec {ε : Type} {f : MultiTaskvLLMReplica → MultiTaskvLLMReplica} {r : Except ε Unit}
    (h : Prog.Exec Ages (write f) s os r t) :
    r = .ok () ∧ t.replica = f s.replica ∧ t.overdue = s.overdue ∧ Older s.actors t.actors := by
  obtain ⟨m, o, hm, -, rfl, rfl⟩ := Prog.Exec.call_eq h
  exact ⟨rfl, by rw [← hm.replica], hm.overdue, hm.older⟩

theorem read_bind {ε α β : Type} {f : MultiTaskvLLMReplica → α} {g : α → RuntimeProg ε β}
    {r : Except ε β} (h : Prog.Exec Ages ((read f).bind g) s os r t) :
    ∃ os' m, Waits s m ∧ Prog.Exec Ages (g (f s.replica)) m os' r t := by
  rcases h.bind_cases with ⟨e, -, he⟩ | ⟨x, os₁, os₂, m, -, ha, h⟩
  · cases (read_exec he).1
  · obtain ⟨hx, hm⟩ := read_exec ha
    cases hx
    exact ⟨os₂, m, hm, h⟩

theorem write_bind {ε β : Type} {f : MultiTaskvLLMReplica → MultiTaskvLLMReplica}
    {g : Unit → RuntimeProg ε β} {r : Except ε β}
    (h : Prog.Exec Ages ((write f).bind g) s os r t) :
    ∃ os' m, m.replica = f s.replica ∧ Older s.actors m.actors ∧
      Prog.Exec Ages (g ()) m os' r t := by
  rcases h.bind_cases with ⟨e, -, he⟩ | ⟨_, os₁, os₂, m, -, ha, h⟩
  · cases (write_exec he).1
  · obtain ⟨-, hrep, -, hold⟩ := write_exec ha
    exact ⟨os₂, m, hrep, hold, h⟩

/-! ## Waiting -/

/-- Why a wait for these names can fail: one of them was never launched, or the deadline came
before the death of an actor. -/
def Unproved (names : List String) (t : BorrowedRuntime) : Prop :=
  (∃ n ∈ names, t.actors n = none) ∨ t.overdue = true

/-- How a wait ends. -/
def WaitEnds (names : List String) (r : Except PyErr Unit) (t : BorrowedRuntime) : Prop :=
  r = .ok () ∧ (∀ n ∈ names, t.actors n = some .dead) ∨ (∃ e, r = .error e) ∧ Unproved names t

theorem WaitEnds.ok {u : Unit} (h : WaitEnds names (.ok u) t) :
    ∀ n ∈ names, t.actors n = some .dead := by
  rcases h with ⟨-, hd⟩ | ⟨⟨e, he⟩, -⟩
  · exact hd
  · cases he

theorem WaitEnds.error {e : PyErr} (h : WaitEnds names (.error e) t) : Unproved names t := by
  rcases h with ⟨hr, -⟩ | ⟨-, hu⟩
  · cases hr
  · exact hu

theorem nonDead_eq_nil {actors : String → Option ActorFate} :
    nonDeadActorNames names actors = [] ↔ ∀ n ∈ names, actors n = some .dead := by
  simp [nonDeadActorNames, List.filter_eq_nil_iff]

theorem waitLoop_exec {r : Except PyErr Unit} : ∀ {k : Nat} {s : BorrowedRuntime}
    {os : List RuntimeInput}, Prog.Exec Ages (waitLoop names k) s os r t →
      Waits s t ∧ WaitEnds names r t := by
  intro k
  induction k with
  | zero =>
    intro s os h
    obtain ⟨m, o, hm, -, rfl, rfl⟩ := Prog.Exec.call_eq h
    split
    · rename_i hd
      exact ⟨.of_ages hm, .inl ⟨rfl, nonDead_eq_nil.1 hd⟩⟩
    · rename_i hd
      refine ⟨⟨hm.replica, fun ho => ?_, hm.older⟩, .inr ⟨⟨_, rfl⟩, ?_⟩⟩
      · simp [hm.overdue, ho]
      · rw [nonDead_eq_nil, not_forall] at hd
        obtain ⟨n, hn⟩ := hd
        rw [Classical.not_imp] at hn
        cases hf : m.actors n with
        | none => exact .inl ⟨n, hn.1, hf⟩
        | some f =>
          cases f with
          | dead => exact absurd hf hn.2
          | alive =>
            refine .inr ?_
            simp only [Bool.or_eq_true, List.any_eq_true, decide_eq_true_eq]
            exact .inr ⟨n, hn.1, hf⟩
  | succ k ih =>
    intro s os h
    rcases h.bind_cases with ⟨e, -, he⟩ | ⟨active, os₁, os₂, m, -, ha, h⟩
    · obtain ⟨_, _, _, _, hx, _⟩ := Prog.Exec.call_eq he
      cases hx
    obtain ⟨m', o, hm, -, hx, rfl⟩ := Prog.Exec.call_eq ha
    cases hx
    split at h
    · rename_i hd
      cases h
      exact ⟨.of_ages hm, .inl ⟨rfl, nonDead_eq_nil.1 hd⟩⟩
    · obtain ⟨hw, hends⟩ := ih h
      exact ⟨(Waits.of_ages hm).trans hw, hends⟩

theorem waitActorNamesDead_exec {r : Except PyErr Unit}
    (h : Prog.Exec Ages (waitActorNamesDead names) s os r t) :
    Waits s t ∧ WaitEnds names r t := by
  unfold waitActorNamesDead at h
  split at h
  · rename_i hn
    cases h
    exact ⟨.refl _, .inl ⟨rfl, by simp [hn]⟩⟩
  · rcases h.bind_cases with ⟨e, -, he⟩ | ⟨polls, os₁, os₂, m, -, ha, h⟩
    · obtain ⟨_, _, _, _, hx, _⟩ := Prog.Exec.call_eq he
      cases hx
    obtain ⟨m', o, hm, -, -, rfl⟩ := Prog.Exec.call_eq ha
    obtain ⟨hw, hends⟩ := waitLoop_exec h
    exact ⟨(Waits.of_ages hm).trans hw, hends⟩

theorem killAll_exec {r : Except PyErr Unit} : ∀ {actors : List RayActor} {s : BorrowedRuntime}
    {os : List RuntimeInput}, Prog.Exec Ages (killAll actors) s os r t → r = .ok () ∧ Waits s t := by
  intro actors
  induction actors with
  | nil => intro s os h; cases h; exact ⟨rfl, .refl _⟩
  | cons actor actors ih =>
    intro s os h
    rcases h.bind_cases with ⟨e, -, he⟩ | ⟨_, os₁, os₂, m, -, ha, h⟩
    · obtain ⟨_, _, _, _, hx, _⟩ := Prog.Exec.call_eq he
      cases hx
    obtain ⟨m', o, hm, -, -, rfl⟩ := Prog.Exec.call_eq ha
    obtain ⟨hr, hw⟩ := ih h
    refine ⟨hr, (Waits.of_ages hm).trans (.trans ?_ hw)⟩
    split
    · exact waits_die _ _
    · exact .refl _

theorem shutdownRuntimes_exec {r : Except PyErr Unit} : ∀ {actors : List RayActor}
    {s : BorrowedRuntime} {os : List RuntimeInput},
    Prog.Exec Ages (shutdownRuntimes actors) s os r t → r = .ok () ∧ Waits s t := by
  intro actors
  induction actors with
  | nil => intro s os h; cases h; exact ⟨rfl, .refl _⟩
  | cons actor actors ih =>
    intro s os h
    rcases h.bind_cases with ⟨e, -, he⟩ | ⟨_, os₁, os₂, m, -, ha, h⟩
    · obtain ⟨_, _, _, _, hx, _⟩ := Prog.Exec.call_eq he
      cases hx
    obtain ⟨m', o, hm, -, -, rfl⟩ := Prog.Exec.call_eq ha
    obtain ⟨hr, hw⟩ := ih h
    exact ⟨hr, (Waits.of_ages hm).trans hw⟩

theorem killWorkersVerified_exec {workers : List RayActor} {r : Except PyErr Unit}
    (hn : workers ≠ [] → names ≠ [])
    (h : Prog.Exec Ages (killWorkersVerified workers names) s os r t) :
    Waits s t ∧ WaitEnds names r t := by
  rcases h.bind_cases with ⟨e, -, he⟩ | ⟨_, os₁, os₂, m, -, ha, h⟩
  · cases (killAll_exec he).1
  obtain ⟨-, hm⟩ := killAll_exec ha
  rw [if_neg fun hc => hn hc.1 hc.2] at h
  obtain ⟨hw, hends⟩ := waitActorNamesDead_exec h
  exact ⟨hm.trans hw, hends⟩

/-! ## The two halves of a cleanup -/

/-- How a half of the cleanup ends: it has dropped its handles, or it has changed nothing. -/
structure HalfEnds (names : List String) (drop : MultiTaskvLLMReplica → MultiTaskvLLMReplica)
    (s : BorrowedRuntime) (r : Except PyErr Unit) (t : BorrowedRuntime) : Prop where
  overdue : s.overdue = true → t.overdue = true
  older : Older s.actors t.actors
  ends : WaitEnds names r t
  dropped : r = .ok () → t.replica = drop s.replica
  kept : ∀ e, r = .error e → t.replica = s.replica

theorem HalfEnds.replica {drop : MultiTaskvLLMReplica → MultiTaskvLLMReplica}
    {r : Except PyErr Unit} (h : HalfEnds names drop s r t) :
    t.replica = drop s.replica ∨ t.replica = s.replica := by
  cases r with
  | ok u => exact .inl (h.dropped rfl)
  | error e => exact .inr (h.kept e rfl)

/-- A wait, and the write that follows its success. -/
theorem halfEnds_of_wait {drop : MultiTaskvLLMReplica → MultiTaskvLLMReplica}
    {p : RuntimeProg PyErr Unit} {s₀ : BorrowedRuntime} {r : Except PyErr Unit}
    (hs : Waits s₀ s)
    (hp : ∀ {os r m}, Prog.Exec Ages p s os r m → Waits s m ∧ WaitEnds names r m)
    (h : Prog.Exec Ages (do p; write drop) s os r t) : HalfEnds names drop s₀ r t := by
  rcases h.bind_cases with ⟨e, rfl, he⟩ | ⟨u, os₁, os₂, m, -, ha, h⟩
  · obtain ⟨hw, hends⟩ := hp he
    have hw := hs.trans hw
    exact ⟨hw.overdue, hw.older, hends, nofun, fun _ _ => hw.replica⟩
  · obtain ⟨hw, hends⟩ := hp ha
    have hw := hs.trans hw
    obtain ⟨rfl, hrep, hover, hold⟩ := write_exec h
    exact ⟨fun ho => hover.trans (hw.overdue ho), hw.older.trans hold,
      .inl ⟨rfl, fun n hn => hold.dead (hends.ok n hn)⟩, fun _ => by rw [hrep, hw.replica], nofun⟩

theorem shutdownServersVerified_exec {r : Except PyErr Unit}
    (hn : s.replica.servers ≠ [] → s.replica.borrowedServerNames ≠ [])
    (h : Prog.Exec Ages shutdownServersVerified s os r t) :
    HalfEnds s.replica.borrowedServerNames
      (fun r => { r with servers := [], serverHandle := none }) s r t := by
  unfold shutdownServersVerified at h
  obtain ⟨os₁, m₁, hm₁, h⟩ := read_bind h
  rcases h.bind_cases with ⟨e, -, he⟩ | ⟨_, os₃, os₄, m₂, -, ha, h⟩
  · cases (shutdownRuntimes_exec he).1
  obtain ⟨-, hm₂⟩ := shutdownRuntimes_exec ha
  rcases h.bind_cases with ⟨e, -, he⟩ | ⟨_, os₅, os₆, m₃, -, ha, h⟩
  · cases (killAll_exec he).1
  obtain ⟨-, hm₃⟩ := killAll_exec ha
  rw [if_neg fun hc => hn hc.1 hc.2] at h
  exact halfEnds_of_wait ((hm₁.trans hm₂).trans hm₃) waitActorNamesDead_exec h

theorem killRecordedWorkers_exec {r : Except PyErr Unit}
    (hn : s.replica.workers ≠ [] → s.replica.borrowedWorkerNames ≠ [])
    (h : Prog.Exec Ages killRecordedWorkers s os r t) :
    HalfEnds s.replica.borrowedWorkerNames (fun r => { r with workers := [] }) s r t := by
  unfold killRecordedWorkers at h
  obtain ⟨os₁, m₁, hm₁, h⟩ := read_bind h
  exact halfEnds_of_wait hm₁ (killWorkersVerified_exec hn) h

/-! ## What is known of the actors -/

/-- What holds whenever a cleanup starts and when it has ended: actors are launched under the two
planned names only, handles come with names, a name recorded for a worker is that of an actor, a
server has its name recorded, and a worker that lives does too, or the server was never launched. -/
structure Tracked (s : BorrowedRuntime) : Prop where
  kind : s.replica.replicaKind = .borrowed
  named : ∀ n, s.actors n ≠ none → n = s.replica.workerName ∨ n = s.replica.serverName
  servers : s.replica.servers ≠ [] → s.replica.borrowedServerNames ≠ []
  workers : s.replica.workers ≠ [] → s.replica.borrowedWorkerNames ≠ []
  workerNames : ∀ n ∈ s.replica.borrowedWorkerNames, s.actors n ≠ none
  server : s.actors s.replica.serverName ≠ none →
    s.replica.serverName ∈ s.replica.borrowedServerNames
  worker : s.actors s.replica.workerName = some .alive →
    s.replica.workerName ∈ s.replica.borrowedWorkerNames ∨
      s.replica.serverName ∈ s.replica.borrowedServerNames ∧ s.actors s.replica.serverName = none

/-- Every actor launched for the runtime is DEAD. -/
def AllDead (s : BorrowedRuntime) : Prop := ∀ n, s.actors n ≠ some .alive

/-- Every server name that was recorded is that of an actor that was launched. -/
def NamesLaunched (s : BorrowedRuntime) : Prop :=
  ∀ n ∈ s.replica.borrowedServerNames, s.actors n ≠ none

/-- Every actor launched for the runtime was DEAD by the deadline of the last cleanup. -/
def InTime (s : BorrowedRuntime) : Prop := s.overdue = false ∧ AllDead s

/-- The names and the identity of a runtime, which a cleanup leaves alone. -/
structure SameNames (r q : MultiTaskvLLMReplica) : Prop where
  kind : q.replicaKind = r.replicaKind
  workerName : q.workerName = r.workerName
  serverName : q.serverName = r.serverName
  workerNames : q.borrowedWorkerNames = r.borrowedWorkerNames
  serverNames : q.borrowedServerNames = r.borrowedServerNames

theorem SameNames.of_eq {a b : MultiTaskvLLMReplica} (h : b = a) : SameNames a b := by
  rw [h]
  exact ⟨rfl, rfl, rfl, rfl, rfl⟩

theorem SameNames.trans {a b c : MultiTaskvLLMReplica} (h : SameNames a b) (h' : SameNames b c) :
    SameNames a c :=
  ⟨h'.kind.trans h.kind, h'.workerName.trans h.workerName, h'.serverName.trans h.serverName,
    h'.workerNames.trans h.workerNames, h'.serverNames.trans h.serverNames⟩

theorem Tracked.aged (h : Tracked s) (hn : SameNames s.replica t.replica)
    (ho : Older s.actors t.actors) (hs : t.replica.servers ≠ [] → s.replica.servers ≠ [])
    (hw : t.replica.workers ≠ [] → s.replica.workers ≠ []) : Tracked t where
  kind := hn.kind.trans h.kind
  named n hl := by
    rw [hn.workerName, hn.serverName]
    exact h.named n (mt ho.none_iff.2 hl)
  servers ht := by rw [hn.serverNames]; exact h.servers (hs ht)
  workers ht := by rw [hn.workerNames]; exact h.workers (hw ht)
  workerNames n hm := by
    rw [hn.workerNames] at hm
    exact mt ho.none_iff.1 (h.workerNames n hm)
  server hl := by
    rw [hn.serverName] at hl ⊢
    rw [hn.serverNames]
    exact h.server (mt ho.none_iff.2 hl)
  worker hl := by
    rw [hn.workerName] at hl ⊢
    rw [hn.workerNames, hn.serverName, hn.serverNames, ho.none_iff]
    exact h.worker (ho.alive hl)

theorem namesLaunched_iff (hn : SameNames s.replica t.replica) (ho : Older s.actors t.actors) :
    NamesLaunched t ↔ NamesLaunched s := by
  simp only [NamesLaunched, hn.serverNames, ne_eq, ho.none_iff]

/-- What a cleanup establishes, on a runtime whose actors are tracked. -/
structure CleanupEnds (s : BorrowedRuntime) (r : Except PyErr Unit) (t : BorrowedRuntime) :
    Prop where
  tracked : Tracked t
  names : SameNames s.replica t.replica
  older : Older s.actors t.actors
  flag : t.replica.borrowedCleanupVerified = true ↔ r = .ok ()
  dead : r = .ok () → NamesLaunched t ∧ AllDead t
  proved : t.overdue = false → NamesLaunched t → r = .ok ()

/-- Success of both halves is a proof of death of everything that was launched. -/
theorem allDead_of_names (hs : Tracked s)
    (hserver : ∀ n ∈ s.replica.borrowedServerNames, s.actors n = some .dead)
    (hworker : ∀ n ∈ s.replica.borrowedWorkerNames, s.actors n = some .dead) :
    NamesLaunched s ∧ AllDead s := by
  refine ⟨fun n hn => by rw [hserver n hn]; nofun, fun n hl => ?_⟩
  have hne : s.actors n ≠ none := by rw [hl]; nofun
  rcases hs.named n hne with rfl | rfl
  · rcases hs.worker hl with hm | ⟨hm, hnone⟩
    · rw [hworker _ hm] at hl; cases hl
    · rw [hserver _ hm] at hnone; cases hnone
  · rw [hserver _ (hs.server hne)] at hl; cases hl

/-- Failure of either half is the deadline or a name that was never launched. -/
theorem unproved_server (hs : NamesLaunched s) (h : Unproved s.replica.borrowedServerNames s) :
    s.overdue = true := by
  rcases h with ⟨n, hn, hnone⟩ | ho
  · exact absurd hnone (hs n hn)
  · exact ho

theorem unproved_worker (hs : Tracked s) (h : Unproved s.replica.borrowedWorkerNames s) :
    s.overdue = true := by
  rcases h with ⟨n, hn, hnone⟩ | ho
  · exact absurd hnone (hs.workerNames n hn)
  · exact ho

theorem cleanupBorrowedRuntime_exec {r : Except PyErr Unit} (hs : Tracked s)
    (h : Prog.Exec Ages cleanupBorrowedRuntime s os r t) : CleanupEnds s r t := by
  rcases h.bind_cases with ⟨e, -, he⟩ | ⟨_, os₁, os₂, s₁, -, ha, h⟩
  · obtain ⟨m, o, hm, -, hx, -⟩ := Prog.Exec.call_eq he
    rw [if_neg (not_not.2 (hm.replica ▸ hs.kind))] at hx
    cases hx
  obtain ⟨m, o, hm, -, -, hs₁⟩ := Prog.Exec.call_eq ha
  rw [if_neg (not_not.2 (hm.replica ▸ hs.kind))] at hs₁
  have hrep₁ : s₁.replica = { s.replica with borrowedCleanupVerified := false } := by
    rw [hs₁, ← hm.replica]
  have hold₁ : Older s.actors s₁.actors := by rw [hs₁]; exact hm.older
  have hname₁ : SameNames s.replica s₁.replica := by rw [hrep₁]; exact ⟨rfl, rfl, rfl, rfl, rfl⟩
  have htr₁ : Tracked s₁ := hs.aged hname₁ hold₁ (by rw [hrep₁]; exact id) (by rw [hrep₁]; exact id)
  clear hs₁
  obtain ⟨servers, os₃, os₄, s₂, ha, h⟩ := Prog.Exec.bind_result h
  have hserver := shutdownServersVerified_exec htr₁.servers ha
  have hname₂ : SameNames s₁.replica s₂.replica := by
    rcases hserver.replica with e | e <;> rw [e] <;> exact ⟨rfl, rfl, rfl, rfl, rfl⟩
  have hflag₂ : s₂.replica.borrowedCleanupVerified = false := by
    rcases hserver.replica with e | e <;> rw [e, hrep₁]
  have htr₂ : Tracked s₂ := by
    refine htr₁.aged hname₂ hserver.older ?_ ?_ <;>
      rcases hserver.replica with e | e <;> rw [e]
    · exact fun hn => absurd rfl hn
    all_goals exact id
  obtain ⟨workers, os₅, os₆, s₃, ha, h⟩ := Prog.Exec.bind_result h
  have hworker := killRecordedWorkers_exec htr₂.workers ha
  have hname₃ : SameNames s₂.replica s₃.replica := by
    rcases hworker.replica with e | e <;> rw [e] <;> exact ⟨rfl, rfl, rfl, rfl, rfl⟩
  have hflag₃ : s₃.replica.borrowedCleanupVerified = false := by
    rcases hworker.replica with e | e <;> rw [e] <;> exact hflag₂
  have htr₃ : Tracked s₃ := by
    refine htr₂.aged hname₃ hworker.older ?_ ?_ <;>
      rcases hworker.replica with e | e <;> rw [e]
    · exact id
    · exact id
    · exact fun hn => absurd rfl hn
    · exact id
  have hnames : SameNames s.replica s₃.replica := (hname₁.trans hname₂).trans hname₃
  have holder : Older s.actors s₃.actors := (hold₁.trans hserver.older).trans hworker.older
  -- a half that failed leaves the proof open at the end too
  have hsopen : ∀ e, servers = .error e → NamesLaunched s₃ → s₃.overdue = true := by
    rintro e rfl hl
    refine hworker.overdue (unproved_server ((namesLaunched_iff hname₃ hworker.older).1 hl) ?_)
    rw [hname₂.serverNames]
    exact hserver.ends.error
  have hwopen : ∀ e, workers = .error e → s₃.overdue = true := by
    rintro e rfl
    refine unproved_worker htr₃ ?_
    rw [hname₃.workerNames]
    exact hworker.ends.error
  have hfails : (∃ e, servers = .error e) ∨ (∃ e, workers = .error e) →
      ∀ e, CleanupEnds s (.error e) s₃ := by
    intro hf e
    refine ⟨htr₃, hnames, holder, by rw [hflag₃]; exact ⟨nofun, nofun⟩, nofun, fun ho hl => ?_⟩
    have hover : s₃.overdue = true := by
      rcases hf with ⟨e, he⟩ | ⟨e, he⟩
      · exact hsopen e he hl
      · exact hwopen e he
    rw [ho] at hover
    cases hover
  cases servers with
  | error e =>
    cases h
    exact hfails (.inl ⟨e, rfl⟩) _
  | ok u =>
    cases workers with
    | error e =>
      cases h
      exact hfails (.inr ⟨e, rfl⟩) _
    | ok v =>
      obtain ⟨rfl, hrep, -, hold⟩ := write_exec h
      have hname : SameNames s₃.replica t.replica := by rw [hrep]; exact ⟨rfl, rfl, rfl, rfl, rfl⟩
      have htr : Tracked t := htr₃.aged hname hold (by rw [hrep]; exact id) (by rw [hrep]; exact id)
      have hdead : NamesLaunched t ∧ AllDead t := by
        refine allDead_of_names htr (fun n hn => ?_) fun n hn => ?_
        · rw [hname.serverNames, hname₃.serverNames, hname₂.serverNames] at hn
          exact hold.dead (hworker.older.dead (hserver.ends.ok n hn))
        · rw [hname.workerNames, hname₃.workerNames] at hn
          exact hold.dead (hworker.ends.ok n hn)
      exact ⟨htr, hnames.trans hname, holder.trans hold, by rw [hrep]; exact ⟨fun _ => rfl, fun _ => rfl⟩,
        fun _ => hdead, fun _ _ => rfl⟩

/-! ## The creation -/

/-- A runtime object that has just been constructed. The prefix of a server name is the native
class's own; the server's name is not the worker's. -/
structure Fresh (s : BorrowedRuntime) : Prop where
  kind : s.replica.replicaKind = .borrowed
  distinct : s.replica.workerName ≠ s.replica.serverName
  unlaunched : ∀ n, s.actors n = none
  workers : s.replica.workers = []
  workerNames : s.replica.borrowedWorkerNames = []
  servers : s.replica.servers = []
  serverNames : s.replica.borrowedServerNames = []

/-- The placement is planned and the server not yet launched; `W` is the name of the worker. -/
structure Building (W : String) (s : BorrowedRuntime) : Prop where
  kind : s.replica.replicaKind = .borrowed
  name : s.replica.workerName = W
  distinct : W ≠ s.replica.serverName
  named : ∀ n, s.actors n ≠ none → n = W
  servers : s.replica.servers = []
  serverNames : s.replica.borrowedServerNames = [s.replica.serverName]
  workers : s.replica.workers ≠ [] → s.replica.borrowedWorkerNames ≠ []
  workerNames : ∀ n ∈ s.replica.borrowedWorkerNames, s.actors n ≠ none
  unverified : s.replica.borrowedCleanupVerified = false

variable {W : String}

theorem Fresh.waits (h : Fresh s) (hw : Waits s t) : Fresh t := by
  refine ⟨?_, ?_, fun n => hw.older.none_iff.2 (h.unlaunched n), ?_, ?_, ?_, ?_⟩ <;> rw [hw.replica]
  · exact h.kind
  · exact h.distinct
  · exact h.workers
  · exact h.workerNames
  · exact h.servers
  · exact h.serverNames

theorem Fresh.tracked (h : Fresh s) : Tracked s where
  kind := h.kind
  named n hn := absurd (h.unlaunched n) hn
  servers hn := absurd h.servers hn
  workers hn := absurd h.workers hn
  workerNames n hn := by rw [h.workerNames] at hn; cases hn
  server hn := absurd (h.unlaunched _) hn
  worker hn := by rw [h.unlaunched] at hn; cases hn

theorem Building.unlaunched (h : Building W s) : s.actors s.replica.serverName = none := by
  by_contra hn
  exact h.distinct (h.named _ hn).symm

theorem Building.tracked (h : Building W s) : Tracked s where
  kind := h.kind
  named n hn := .inl ((h.named n hn).trans h.name.symm)
  servers hn := absurd h.servers hn
  workers := h.workers
  workerNames := h.workerNames
  server hn := absurd h.unlaunched hn
  worker _ := .inr ⟨by rw [h.serverNames]; exact List.mem_singleton_self _, h.unlaunched⟩

theorem Building.waits (h : Building W s) (hw : Waits s t) : Building W t where
  kind := by rw [hw.replica]; exact h.kind
  name := by rw [hw.replica]; exact h.name
  distinct := by rw [hw.replica]; exact h.distinct
  named n hn := h.named n (mt hw.older.none_iff.2 hn)
  servers := by rw [hw.replica]; exact h.servers
  serverNames := by rw [hw.replica]; exact h.serverNames
  workers := by rw [hw.replica]; exact h.workers
  workerNames n hn := by
    rw [hw.replica] at hn
    exact mt hw.older.none_iff.1 (h.workerNames n hn)
  unverified := by rw [hw.replica]; exact h.unverified

theorem Building.launch (h : Building W s) : Building W (s.launch W) where
  kind := h.kind
  name := h.name
  distinct := h.distinct
  named n hn := by
    by_contra hne
    exact hne (h.named n (by simpa [BorrowedRuntime.launch, Function.update_of_ne hne] using hn))
  servers := h.servers
  serverNames := h.serverNames
  workers := h.workers
  workerNames n hn := by
    by_cases hne : n = W
    · rw [hne]; simp [BorrowedRuntime.launch]
    · simpa [BorrowedRuntime.launch, Function.update_of_ne hne] using h.workerNames n hn
  unverified := h.unverified

/-- The handles and names of the worker are written. -/
theorem Building.write {ws : List RayActor} {names : List String} (h : Building W s)
    (hrep : t.replica = { s.replica with workers := ws, borrowedWorkerNames := names })
    (ho : Older s.actors t.actors) (hw : ws ≠ [] → names ≠ [])
    (hn : ∀ n ∈ names, s.actors n ≠ none) : Building W t where
  kind := by rw [hrep]; exact h.kind
  name := by rw [hrep]; exact h.name
  distinct := by rw [hrep]; exact h.distinct
  named n hl := h.named n (mt ho.none_iff.2 hl)
  servers := by rw [hrep]; exact h.servers
  serverNames := by rw [hrep]; exact h.serverNames
  workers := by rw [hrep]; exact hw
  workerNames n hm := by
    rw [hrep] at hm
    exact mt ho.none_iff.1 (hn n hm)
  unverified := by rw [hrep]; exact h.unverified

/-- A handle of the worker that was launched. -/
def Held (W : String) (s : BorrowedRuntime) (worker : RayActor) : Prop :=
  worker.name = W ∧ s.actors W ≠ none

theorem Held.older {worker : RayActor} (h : Held W s worker) (ho : Older s.actors t.actors) :
    Held W t worker := ⟨h.1, mt ho.none_iff.1 h.2⟩

theorem Held.named {worker : RayActor} (h : Held W s worker) :
    ∀ n ∈ [worker.name], s.actors n ≠ none := by
  intro n hn
  rw [List.mem_singleton.1 hn, h.1]
  exact h.2

theorem launchWorker_exec {r : Except (PyErr × Option RayActor) RayActor} (hs : Building W s)
    (h : Prog.Exec Ages (launchWorker W) s os r t) :
    Building W t ∧ (∀ worker, r = .ok worker → Held W t worker) ∧ ∀ e, r = .error e → e.2 = none := by
  obtain ⟨m, o, hm, -, rfl, rfl⟩ := Prog.Exec.call_eq h
  have hb : Building W m := hs.waits (.of_ages hm)
  cases o.landing with
  | done =>
    refine ⟨hb.launch, ?_, nofun⟩
    rintro worker ⟨⟩
    exact ⟨rfl, by simp [BorrowedRuntime.launch]⟩
  | failed e =>
    refine ⟨hb, nofun, ?_⟩
    rintro e ⟨⟩
    rfl
  | unrecorded e =>
    refine ⟨hb.launch, nofun, ?_⟩
    rintro e ⟨⟩
    rfl
  | recorded e =>
    refine ⟨hb.launch, nofun, ?_⟩
    rintro e ⟨⟩
    rfl

theorem registerWorker_exec {worker : RayActor} {r : Except PyErr Unit} (hs : Building W s)
    (hk : Held W s worker) (h : Prog.Exec Ages (registerWorker worker) s os r t) :
    Building W t ∧ Held W t worker ∧ (r = .ok () → W ∈ t.replica.borrowedWorkerNames) := by
  rcases h.bind_cases with ⟨e, rfl, he⟩ | ⟨_, os₁, os₂, m₁, -, ha, h⟩
  · have hw := outside_exec he
    exact ⟨hs.waits hw, hk.older hw.older, nofun⟩
  have hw₁ := outside_exec ha
  obtain ⟨os₃, m₂, hrep, hold, h⟩ := write_bind h
  have hw₂ := outside_exec h
  have hk₁ := hk.older hw₁.older
  have hb : Building W m₂ := (hs.waits hw₁).write hrep hold (fun _ => nofun) hk₁.named
  refine ⟨hb.waits hw₂, (hk₁.older hold).older hw₂.older, fun _ => ?_⟩
  rw [hw₂.replica, hrep, hk.1]
  exact List.mem_singleton_self _

theorem launchAndRegister_exec {r : Except (PyErr × Option RayActor) Unit} (hs : Building W s)
    (h : Prog.Exec Ages (launchAndRegister W) s os r t) :
    Building W t ∧ (r = .ok () → W ∈ t.replica.borrowedWorkerNames) ∧
      ∀ e, r = .error e → ∀ worker ∈ e.2, Held W t worker := by
  rcases h.bind_cases with ⟨e, rfl, he⟩ | ⟨worker, os₁, os₂, m, -, ha, h⟩
  · obtain ⟨hb, -, hnone⟩ := launchWorker_exec hs he
    refine ⟨hb, nofun, ?_⟩
    rintro e ⟨⟩ worker hw
    rw [hnone _ rfl] at hw
    cases hw
  obtain ⟨hb, hheld, -⟩ := launchWorker_exec hs ha
  obtain ⟨x, rfl, hx⟩ := Prog.Exec.mapErr_eq h
  obtain ⟨hb', hk, hok⟩ := registerWorker_exec hb (hheld _ rfl) hx
  cases x with
  | ok u => exact ⟨hb', fun _ => hok rfl, nofun⟩
  | error e =>
    refine ⟨hb', nofun, ?_⟩
    rintro e ⟨⟩ w hw
    cases hw
    exact hk

theorem abandonWorker_exec {e : PyErr × Option RayActor} {r : Except PyErr Unit}
    (hs : Building W s) (hk : ∀ worker ∈ e.2, Held W s worker)
    (h : Prog.Exec Ages (abandonWorker e) s os r t) : Building W t ∧ r ≠ .ok () := by
  obtain ⟨killed, os₁, os₂, m, ha, h⟩ := Prog.Exec.bind_result h
  have hw := (killWorkersVerified_exec (fun hn => by simpa using hn) ha).1
  have hb := hs.waits hw
  cases killed with
  | ok u =>
    obtain ⟨os₃, m₂, hrep, hold, h⟩ := write_bind h
    cases h
    exact ⟨hb.write hrep hold (fun hn => absurd rfl hn) hb.workerNames, nofun⟩
  | error e' =>
    cases hc : e.2 with
    | none =>
      simp only [hc] at h
      cases h
      exact ⟨hb, nofun⟩
    | some worker =>
      simp only [hc] at h
      obtain ⟨os₃, m₂, hrep, hold, h⟩ := write_bind h
      cases h
      exact ⟨hb.write hrep hold (fun _ => nofun) ((hk worker hc).older hw.older).named, nofun⟩

theorem workerPlan_actorName {r : MultiTaskvLLMReplica} {claim : RawClaim} {p : WorkerPlan}
    (h : r.workerPlan claim = .ok p) : p.actorName = r.workerName := by
  simp only [MultiTaskvLLMReplica.workerPlan, except_bind_ok] at h
  obtain ⟨_, -, _, -, _, -, _, -, _, -, _, -, _, -, h⟩ := h
  cases h
  rfl

/-- `build_borrowed_worker_plan` writes nothing, or the claim and the name of the server. -/
theorem buildBorrowedWorkerPlan_cases (r : MultiTaskvLLMReplica) (spec : ResolvedSpec) :
    (∃ e, r.buildBorrowedWorkerPlan spec = (.error e, r)) ∨
      r.buildBorrowedWorkerPlan spec = (r.workerPlan (spec.claims.headD ∅), { r with
        placementClaims := [spec.claims.headD ∅], borrowedServerNames := [r.serverName] }) := by
  unfold MultiTaskvLLMReplica.buildBorrowedWorkerPlan
  split
  · exact .inl ⟨_, rfl⟩
  · exact .inr rfl

theorem Fresh.building {claims : List RawClaim} (h : Fresh s)
    (hv : s.replica.borrowedCleanupVerified = false) (ho : Older s.actors t.actors)
    (hrep : t.replica = { s.replica with
      placementClaims := claims, borrowedServerNames := [s.replica.serverName] }) :
    Building s.replica.workerName t where
  kind := by rw [hrep]; exact h.kind
  name := by rw [hrep]; rfl
  distinct := by rw [hrep]; exact h.distinct
  named n hn := absurd (ho.none_iff.2 (h.unlaunched n)) hn
  servers := by rw [hrep]; exact h.servers
  serverNames := by rw [hrep]; rfl
  workers hn := by rw [hrep] at hn; exact absurd h.workers hn
  workerNames n hn := by
    rw [hrep] at hn
    have hnil : n ∈ ([] : List String) := h.workerNames ▸ hn
    cases hnil
  unverified := by rw [hrep]; exact hv

/-- Planning records the name of the server, or nothing. -/
theorem plan_exec {spec : ResolvedSpec} {r : Except PyErr WorkerPlan} (hs : Fresh s)
    (hv : s.replica.borrowedCleanupVerified = false)
    (h : Prog.Exec Ages (plan spec) s os r t) :
    Tracked t ∧ ∀ item, r = .ok item →
      item.actorName = s.replica.workerName ∧ Building s.replica.workerName t := by
  obtain ⟨m, o, hm, -, hr, ht⟩ := Prog.Exec.call_eq h
  have hold : Older s.actors t.actors := by rw [ht]; exact hm.older
  have hrep : t.replica = (s.replica.buildBorrowedWorkerPlan spec).2 := by rw [ht, ← hm.replica]
  have hres : r = (s.replica.buildBorrowedWorkerPlan spec).1 := by rw [hr, ← hm.replica]
  clear hr ht
  rcases buildBorrowedWorkerPlan_cases s.replica spec with ⟨e, hp⟩ | hp
  · rw [hp] at hrep hres
    have hn : SameNames s.replica t.replica := by rw [hrep]; exact ⟨rfl, rfl, rfl, rfl, rfl⟩
    refine ⟨hs.tracked.aged hn hold (by rw [hrep]; exact id) (by rw [hrep]; exact id), ?_⟩
    rintro item rfl
    cases hres
  · rw [hp] at hrep hres
    have hb := hs.building hv hold hrep
    exact ⟨hb.tracked, fun item hi => ⟨workerPlan_actorName (hres.symm.trans hi), hb⟩⟩

theorem createWorkersFromClaims_exec {spec : ResolvedSpec} {pgs : List PyVal}
    {r : Except PyErr Unit} (hs : Fresh s) (hv : s.replica.borrowedCleanupVerified = false)
    (h : Prog.Exec Ages (createWorkersFromClaims spec pgs) s os r t) :
    Tracked t ∧ (r = .ok () → Building s.replica.workerName t ∧
      s.replica.workerName ∈ t.replica.borrowedWorkerNames) := by
  rcases h.bind_cases with ⟨e, rfl, he⟩ | ⟨item, os₁, os₂, m₁, -, ha, h⟩
  · exact ⟨(plan_exec hs hv he).1, nofun⟩
  obtain ⟨hname, hb₁⟩ := (plan_exec hs hv ha).2 item rfl
  split at h
  · cases h
    exact ⟨hb₁.tracked, nofun⟩
  rcases h.bind_cases with ⟨e, rfl, he⟩ | ⟨_, os₃, os₄, m₂, -, ha, h⟩
  · exact ⟨(hb₁.waits (outside_exec he)).tracked, nofun⟩
  have hb₂ := hb₁.waits (outside_exec ha)
  rw [hname] at h
  obtain ⟨x, os₅, os₆, m₃, ha, h⟩ := Prog.Exec.bind_result h
  obtain ⟨hb₃, hok, herr⟩ := launchAndRegister_exec hb₂ ha
  cases x with
  | ok u =>
    cases h
    exact ⟨hb₃.tracked, fun _ => ⟨hb₃, hok rfl⟩⟩
  | error e =>
    obtain ⟨hb₄, hr⟩ := abandonWorker_exec hb₃ (herr e rfl) h
    exact ⟨hb₄.tracked, fun hr' => absurd hr' hr⟩

theorem launchServers_exec {r : Except PyErr Unit} (hs : Building W s)
    (hw : W ∈ s.replica.borrowedWorkerNames) (h : Prog.Exec Ages launchServers s os r t) :
    Tracked t ∧
      (r = .ok () → NamesLaunched t ∧ t.replica.borrowedCleanupVerified = false) := by
  obtain ⟨m, o, hm, -, rfl, rfl⟩ := Prog.Exec.call_eq h
  have hb : Building W m := hs.waits (.of_ages hm)
  have hwm : W ∈ m.replica.borrowedWorkerNames := by rw [hm.replica]; exact hw
  -- the server is launched, whatever becomes of its handle
  have hlaunched : ∀ servers handle, Tracked { m.launch m.replica.serverName with
      replica := { m.replica with servers := servers, serverHandle := handle } } := by
    intro servers handle
    refine ⟨hb.kind, fun n hn => ?_, fun _ => ?_, hb.workers, fun n hn => ?_, fun _ => ?_, fun _ => ?_⟩
    · by_cases hne : n = m.replica.serverName
      · exact .inr hne
      · refine .inl ((hb.named n ?_).trans hb.name.symm)
        simpa [BorrowedRuntime.launch, Function.update_of_ne hne] using hn
    · show m.replica.borrowedServerNames ≠ []
      rw [hb.serverNames]
      nofun
    · by_cases hne : n = m.replica.serverName
      · rw [hne]; simp [BorrowedRuntime.launch]
      · simpa [BorrowedRuntime.launch, Function.update_of_ne hne] using hb.workerNames n hn
    · show m.replica.serverName ∈ m.replica.borrowedServerNames
      rw [hb.serverNames]
      exact List.mem_singleton_self _
    · left
      show m.replica.workerName ∈ m.replica.borrowedWorkerNames
      rw [hb.name]
      exact hwm
  cases o.landing with
  | done =>
    refine ⟨hlaunched _ _, fun _ => ⟨fun n hn => ?_, hb.unverified⟩⟩
    have hn' : n ∈ m.replica.borrowedServerNames := hn
    rw [hb.serverNames, List.mem_singleton] at hn'
    rw [hn']
    simp [BorrowedRuntime.launch]
  | failed e => exact ⟨hb.tracked, nofun⟩
  | unrecorded e => exact ⟨hlaunched m.replica.servers m.replica.serverHandle, nofun⟩
  | recorded e => exact ⟨hlaunched _ _, nofun⟩

/-- A creation that fails ends with a cleanup of a tracked runtime; one that succeeds has launched
what it planned, and nothing is verified. -/
theorem initFromLease_exec {spec : ResolvedSpec} {pgs : List PyVal} {r : Except PyErr Unit}
    (hs : Fresh s) (h : Prog.Exec Ages (initFromLease spec pgs) s os r t) :
    Tracked t ∧
      (r = .ok () → NamesLaunched t ∧ t.replica.borrowedCleanupVerified = false) ∧
      ∀ e, r = .error e → ∃ m x, CleanupEnds m x t := by
  unfold initFromLease at h
  obtain ⟨os₁, s₁, hrep, hold, h⟩ := write_bind h
  have hs₁ : Fresh s₁ := by
    refine ⟨?_, ?_, fun n => hold.none_iff.2 (hs.unlaunched n), ?_, ?_, ?_, ?_⟩ <;> rw [hrep]
    · exact hs.kind
    · exact hs.distinct
    · exact hs.workers
    · exact hs.workerNames
    · exact hs.servers
    · exact hs.serverNames
  have hv₁ : s₁.replica.borrowedCleanupVerified = false := by rw [hrep]
  obtain ⟨x, os₃, os₄, m, ha, h⟩ := Prog.Exec.bind_result h
  have hbody : Tracked m ∧
      (x = .ok () → NamesLaunched m ∧ m.replica.borrowedCleanupVerified = false) := by
    rcases ha.bind_cases with ⟨e, rfl, he⟩ | ⟨_, os₅, os₆, m₁, -, hc, ha⟩
    · exact ⟨(createWorkersFromClaims_exec hs₁ hv₁ he).1, nofun⟩
    obtain ⟨hb, hname⟩ := (createWorkersFromClaims_exec hs₁ hv₁ hc).2 rfl
    rcases ha.bind_cases with ⟨e, rfl, he⟩ | ⟨_, os₇, os₈, m₂, -, hl, ha⟩
    · exact ⟨(launchServers_exec hb hname he).1, nofun⟩
    obtain ⟨htr, hlaunched⟩ := launchServers_exec hb hname hl
    have hw := outside_exec ha
    have hn : SameNames m₂.replica m.replica := .of_eq hw.replica
    refine ⟨htr.aged hn hw.older (by rw [hw.replica]; exact id) (by rw [hw.replica]; exact id),
      fun _ => ⟨(namesLaunched_iff hn hw.older).2 (hlaunched rfl).1, ?_⟩⟩
    rw [hw.replica]
    exact (hlaunched rfl).2
  cases x with
  | ok u =>
    cases h
    exact ⟨hbody.1, fun _ => hbody.2 rfl, nofun⟩
  | error e =>
    obtain ⟨cleaned, os₅, os₆, m₁, hc, h⟩ := Prog.Exec.bind_result h
    have hends := cleanupBorrowedRuntime_exec hbody.1 hc
    cases cleaned with
    | ok u => cases h; exact ⟨hends.tracked, nofun, fun _ _ => ⟨m, _, hends⟩⟩
    | error e' => cases h; exact ⟨hends.tracked, nofun, fun _ _ => ⟨m, _, hends⟩⟩

/-! ## What a cleanup says -/

/-- What is asked of the cleanup that ended last: its flag promises the death of everything that was
launched, and is set when everything died in time. -/
def Faithful (t : BorrowedRuntime) : Prop :=
  (t.replica.borrowedCleanupVerified = true → AllDead t) ∧
    (InTime t → t.replica.borrowedCleanupVerified = true)

/-- `cleanup_borrowed_runtime` again and again: what the last attempt did. -/
def cleanups : Nat → RuntimeProg PyErr (Except PyErr Unit)
  | 0 => cleanupBorrowedRuntime.result
  | n + 1 => do
    let _ ← cleanupBorrowedRuntime.result
    cleanups n

theorem AllDead.older (h : AllDead s) (ho : Older s.actors t.actors) : AllDead t :=
  fun n hl => h n (ho.alive hl)

theorem Tracked.waits (h : Tracked s) (hw : Waits s t) : Tracked t :=
  h.aged (.of_eq hw.replica) hw.older (by rw [hw.replica]; exact id) (by rw [hw.replica]; exact id)

theorem CleanupEnds.ages {u : BorrowedRuntime} {r : Except PyErr Unit} (h : CleanupEnds s r t)
    (ha : Ages t u) : CleanupEnds s r u where
  tracked := h.tracked.waits (.of_ages ha)
  names := h.names.trans (.of_eq ha.replica)
  older := h.older.trans ha.older
  flag := by rw [ha.replica]; exact h.flag
  dead hr := ⟨(namesLaunched_iff (.of_eq ha.replica) ha.older).2 (h.dead hr).1,
    (h.dead hr).2.older ha.older⟩
  proved ho hn := h.proved (ha.overdue.symm.trans ho)
    ((namesLaunched_iff (.of_eq ha.replica) ha.older).1 hn)

/-- A cleanup never lies, and it misses a death only where it waits for a server that was never
launched. -/
theorem CleanupEnds.faithful_iff {r : Except PyErr Unit} (h : CleanupEnds s r t) :
    Faithful t ↔ (InTime t → NamesLaunched t) := by
  constructor
  · intro hf hin
    exact (h.dead (h.flag.1 (hf.2 hin))).1
  · intro hn
    refine ⟨fun hv => (h.dead (h.flag.1 hv)).2, fun hin => ?_⟩
    exact h.flag.2 (h.proved hin.1 (hn hin))

/-- One more attempt. -/
theorem cleanup_result_exec {x : Except PyErr (Except PyErr Unit)} (hs : Tracked s)
    (h : Prog.Exec Ages cleanupBorrowedRuntime.result s os x t) :
    ∃ r, x = .ok r ∧ CleanupEnds s r t := by
  obtain ⟨r, hx, hc⟩ := Prog.Exec.result_eq h
  exact ⟨r, hx, cleanupBorrowedRuntime_exec hs hc⟩

/-- However often the cleanup is attempted, the last attempt ends as the only one would. -/
theorem cleanups_exec {x : Except PyErr (Except PyErr Unit)} : ∀ {n : Nat} {s : BorrowedRuntime}
    {os : List RuntimeInput}, Tracked s → Prog.Exec Ages (cleanups n) s os x t →
      ∃ m r, x = .ok r ∧ CleanupEnds m r t ∧ (NamesLaunched t ↔ NamesLaunched s) := by
  intro n
  induction n with
  | zero =>
    intro s os hs h
    obtain ⟨r, hx, hc⟩ := cleanup_result_exec hs h
    exact ⟨s, r, hx, hc, namesLaunched_iff hc.names hc.older⟩
  | succ n ih =>
    intro s os hs h
    rcases h.bind_cases with ⟨e, -, he⟩ | ⟨_, os₁, os₂, m₁, -, ha, h⟩
    · obtain ⟨_, hx, -⟩ := cleanup_result_exec hs he
      cases hx
    obtain ⟨_, -, hc₁⟩ := cleanup_result_exec hs ha
    obtain ⟨m, r, hx, hc, hn⟩ := ih hc₁.tracked h
    exact ⟨m, r, hx, hc, hn.trans (namesLaunched_iff hc₁.names hc₁.older)⟩

/-- How the Manager's handler ends: RELEASED on a verified cleanup, QUARANTINED on any other. -/
theorem settleFailedCreate_exec {r : Except PyErr ReplicaState} (hs : Tracked s)
    (hv : s.replica.borrowedCleanupVerified = true → ∃ m x, CleanupEnds m x s)
    (h : Prog.Exec Ages settleFailedCreate s os r t) :
    (∃ m x, CleanupEnds m x t) ∧
      r = .ok (if t.replica.borrowedCleanupVerified then .released else .quarantined) := by
  rcases h.bind_cases with ⟨e, -, he⟩ | ⟨verified, os₁, os₂, m₁, -, ha, h⟩
  · cases (read_exec he).1
  obtain ⟨m, o, hm, -, hx, rfl⟩ := Prog.Exec.call_eq ha
  cases hx
  split at h
  · rename_i hflag
    cases h
    have hflag : s.replica.borrowedCleanupVerified = true := by rw [← hm.replica]; exact hflag
    obtain ⟨a, x, hc⟩ := hv hflag
    exact ⟨⟨a, x, hc.ages hm⟩, by rw [hm.replica, hflag]; rfl⟩
  · rcases h.bind_cases with ⟨e, -, he⟩ | ⟨_, os₃, os₄, m₂, -, ha, h⟩
    · obtain ⟨_, hx, -⟩ := cleanup_result_exec (hs.waits (.of_ages hm)) he
      cases hx
    obtain ⟨x, -, hc⟩ := cleanup_result_exec (hs.waits (.of_ages hm)) ha
    rcases h.bind_cases with ⟨e, -, he⟩ | ⟨verified, os₅, os₆, m₃, -, ha, h⟩
    · cases (read_exec he).1
    obtain ⟨m', o', hm', -, hx, rfl⟩ := Prog.Exec.call_eq ha
    cases hx
    cases h
    exact ⟨⟨_, x, hc.ages hm'⟩, rfl⟩

/-- How `create_borrowed_replica` ends: with a receipt, before there is a runtime, or with a
cleanup. -/
theorem createBorrowedReplica_exec {spec : ResolvedSpec} {pgs : List PyVal}
    {r : Except PyErr ReplicaState} (hs : Fresh s)
    (h : Prog.Exec Ages (createBorrowedReplica spec pgs) s os r t) :
    r = .ok .creating ∨ r = .ok .released ∧ AllDead t ∧ NamesLaunched t ∨
      (∃ m x, CleanupEnds m x t) ∧
        r = .ok (if t.replica.borrowedCleanupVerified then .released else .quarantined) := by
  obtain ⟨constructed, os₁, os₂, s₁, ha, h⟩ := Prog.Exec.bind_result h
  have hw := outside_exec ha
  cases constructed with
  | error e =>
    cases h
    refine .inr (.inl ⟨rfl, fun n hl => ?_, fun n hn => ?_⟩)
    · have hnone := hs.unlaunched n
      rw [hw.older.alive hl] at hnone
      cases hnone
    · rw [hw.replica, hs.serverNames] at hn
      cases hn
  | ok u =>
    have hs₁ : Fresh s₁ := hs.waits hw
    obtain ⟨created, os₃, os₄, m, ha, h⟩ := Prog.Exec.bind_result h
    cases created with
    | ok v => cases h; exact .inl rfl
    | error e =>
      refine .inr (.inr ?_)
      -- either the creation failed, or it succeeded and its receipt was refused
      rcases ha.bind_cases with ⟨e, -, he⟩ | ⟨_, os₅, os₆, m₁, -, hi, ha⟩
      · obtain ⟨htr, -, hends⟩ := initFromLease_exec hs₁ he
        exact settleFailedCreate_exec htr (fun _ => hends _ rfl) h
      · obtain ⟨htr, hok, -⟩ := initFromLease_exec hs₁ hi
        have hw := outside_exec ha
        refine settleFailedCreate_exec (htr.waits hw) (fun hv => ?_) h
        rw [hw.replica, (hok rfl).2] at hv
        cases hv

/-- When a cleanup is verified. A success always means that everything launched is DEAD. The other
way round fails on exactly one kind of run: everything is DEAD in time, and the server whose name
was recorded when the placement was planned was never launched. A runtime that has been ready is
never in that case; a failed creation ends QUARANTINED in it. -/
theorem cleanup_faithful_iff (spec : ResolvedSpec) (pgs : List PyVal) (s : BorrowedRuntime)
    (hs : Fresh s) :
    (∀ os r₀ m, Prog.Exec Ages (initFromLease spec pgs) s os r₀ m →
      (∀ e, r₀ = .error e → (Faithful m ↔ (InTime m → NamesLaunched m))) ∧
      ∀ n os' r t, Prog.Exec Ages (cleanups n) m os' (.ok r) t →
        (t.replica.borrowedCleanupVerified = true ↔ r = .ok ()) ∧
        (Faithful t ↔ (InTime t → NamesLaunched m)) ∧
        (r₀ = .ok () → NamesLaunched m)) ∧
    ∀ os state t, Prog.Exec Ages (createBorrowedReplica spec pgs) s os (.ok state) t →
      state ≠ .creating →
        ((state = .released → AllDead t) ∧ (InTime t → state = .released) ↔
          (InTime t → NamesLaunched t)) := by
  refine ⟨fun os r₀ m h => ?_, fun os state t h hne => ?_⟩
  · obtain ⟨htr, hok, hends⟩ := initFromLease_exec hs h
    refine ⟨fun e he => ?_, fun n os' r t h => ?_⟩
    · obtain ⟨a, x, hc⟩ := hends e he
      exact hc.faithful_iff
    · obtain ⟨a, x, hx, hc, hn⟩ := cleanups_exec htr h
      cases hx
      rw [← hn]
      exact ⟨hc.flag, hc.faithful_iff, fun hr => hn.2 (hok hr).1⟩
  · rcases createBorrowedReplica_exec hs h with hr | ⟨hr, hd, hl⟩ | ⟨⟨a, x, hc⟩, hr⟩
    · cases hr
      exact absurd rfl hne
    · cases hr
      exact ⟨fun _ _ => hl, fun _ => ⟨fun _ => hd, fun _ => rfl⟩⟩
    · cases hr
      rw [← hc.faithful_iff]
      have hstate : (if t.replica.borrowedCleanupVerified then ReplicaState.released
          else .quarantined) = .released ↔ t.replica.borrowedCleanupVerified = true := by
        cases t.replica.borrowedCleanupVerified <;> decide
      rw [hstate]
      exact Iff.rfl

section Fixture

open GroupScheduler (borrowerKey donorLease donorClaim command)

/-- An ADD on a one-claim lease, with the rank of `unlaunched`. -/
def lentSpec : ResolvedSpec :=
  ⟨placedSpec (command "a" .add borrowerKey) (donorLease "L" (ne_empty holds)) donorClaim, some 3⟩

def newRuntime : BorrowedRuntime := ⟨unlaunched, fun _ => none, false⟩

/-- Every call of `n` steps returns, that of step `k` apart, and a wait polls once. -/
def failingAt (k n : Nat) : List RuntimeInput :=
  (List.range n).map fun i =>
    ⟨if i = k then .failed (.runtimeError "the server did not start") else .done, 0⟩

theorem toOption_eq_some {ε α : Type} {r : Except ε α} {a : α} :
    r.toOption = some a ↔ r = .ok a := by
  cases r with
  | ok b => exact ⟨fun h => congrArg Except.ok (Option.some.inj h), fun h => by cases h; rfl⟩
  | error e => exact ⟨fun h => (by cases h), fun h => (by cases h)⟩

theorem newRuntime_fresh : Fresh newRuntime :=
  ⟨rfl, by decide +kernel, fun _ => rfl, rfl, rfl, rfl, rfl⟩

/-- A runtime that became ready is destroyed: the cleanup is verified, and everything launched is
DEAD. -/
theorem cleanup_faithful_ready :
    ∃ m t, Prog.Exec Ages (initFromLease lentSpec [.str "pg"]) newRuntime (failingAt 9 9) (.ok ()) m ∧
      Prog.Exec Ages (cleanups 0) m (failingAt 13 13) (.ok (.ok ())) t ∧
      t.replica.borrowedCleanupVerified = true ∧ AllDead t := by
  have hrun : ((initFromLease lentSpec [.str "pg"]).eval newRuntime (failingAt 9 9)).any
      (fun p => decide (p.1.toOption = some ()) &&
        ((cleanups 0).eval p.2 (failingAt 13 13)).any fun q =>
          decide (q.1.toOption.bind Except.toOption = some ())) = true := by decide +kernel
  obtain ⟨⟨r, m⟩, hm, hrun⟩ := (Option.any_eq_true _ _).1 hrun
  rw [Bool.and_eq_true, decide_eq_true_eq] at hrun
  obtain ⟨hr, hrun⟩ := hrun
  obtain ⟨⟨r', t⟩, ht, hr'⟩ := (Option.any_eq_true _ _).1 hrun
  rw [decide_eq_true_eq] at hr'
  obtain rfl : r = .ok () := toOption_eq_some.1 hr
  obtain ⟨r'', hr', hr''⟩ := Option.bind_eq_some_iff.1 hr'
  obtain rfl : r' = .ok r'' := toOption_eq_some.1 hr'
  obtain rfl : r'' = .ok () := toOption_eq_some.1 hr''
  have hinit := Prog.Exec.of_eval Ages.refl hm
  have hclean := Prog.Exec.of_eval Ages.refl ht
  obtain ⟨hflag, hfaithful, hlaunched⟩ := ((cleanup_faithful_iff lentSpec [.str "pg"] newRuntime
    newRuntime_fresh).1 _ _ _ hinit).2 _ _ _ _ hclean
  have hv := hflag.2 rfl
  exact ⟨m, t, hinit, hclean, hv, (hfaithful.2 fun _ => hlaunched rfl).1 hv⟩

/-- The server does not start, the worker is DEAD at once, and yet the ADD ends QUARANTINED: both
cleanups wait for the name of a server that was never launched. -/
theorem cleanup_misses_death :
    ∃ t, Prog.Exec Ages (createBorrowedReplica lentSpec [.str "pg"]) newRuntime (failingAt 8 28)
        (.ok .quarantined) t ∧
      t.actors t.replica.workerName = some .dead ∧ t.actors t.replica.serverName = none ∧
      InTime t ∧ ¬ Faithful t := by
  have hrun : ((createBorrowedReplica lentSpec [.str "pg"]).eval newRuntime (failingAt 8 28)).any
      (fun p => decide (p.1.toOption = some .quarantined) &&
        decide (p.2.actors p.2.replica.workerName = some .dead ∧
          p.2.actors p.2.replica.serverName = none ∧ p.2.overdue = false ∧
          p.2.replica.borrowedCleanupVerified = false)) = true := by decide +kernel
  obtain ⟨⟨r, t⟩, ht, hrun⟩ := (Option.any_eq_true _ _).1 hrun
  rw [Bool.and_eq_true, decide_eq_true_eq, decide_eq_true_eq] at hrun
  obtain ⟨hr, hworker, hserver, hover, hflag⟩ := hrun
  obtain rfl : r = .ok .quarantined := toOption_eq_some.1 hr
  have hexec := Prog.Exec.of_eval Ages.refl ht
  have hdead : AllDead t := by
    rcases createBorrowedReplica_exec newRuntime_fresh hexec with hx | ⟨hx, -⟩ | ⟨⟨m, x, hc⟩, -⟩
    · cases hx
    · cases hx
    intro n hl
    rcases hc.tracked.named n (by rw [hl]; exact Option.some_ne_none _) with rfl | rfl
    · rw [hworker] at hl; cases hl
    · rw [hserver] at hl; cases hl
  refine ⟨t, hexec, hworker, hserver, ⟨hover, hdead⟩, fun hf => ?_⟩
  have hv := hf.2 ⟨hover, hdead⟩
  rw [hflag] at hv
  cases hv

end Fixture

end BorrowedRuntime

end ReplicaLending
