import ReplicaLending.Library.Machine
import ReplicaLending.Task.Soundness
/-!
# Admission and discarded weights (`rollout/http_server.py`)

A level-2 sleep of the engine discards the weights. The server's admission gate is to stay closed until
a weights-only wake has prepared the engine again and the engine is reported resident and healthy. The
server decides by its own ledger of stages, which it advances when the engine has confirmed; a call
that took effect and failed to report leaves the ledger behind.

| here | there |
| --- | --- |
| `Contents`         | nothing: what the engine's calls have made of the weights |
| `WeightedServer.discard`   | `engine.sleep(level)` (:213) |
| `WeightedServer.wake`      | `engine.wake_up(tags)` (:263) |
| `WeightedServer.sleep`     | `sleep` (:154) |
| `WeightedServer.wakeUp`    | `wake_up` (:228), for any tags |
-/

namespace ReplicaLending

/-- The weights since the last level-2 sleep: discarded, woken by a weights-only wake, and reported
resident and healthy after that. -/
inductive Contents | discarded | prepared | resident
deriving DecidableEq, Repr

/-- A server, and what its weights hold. -/
structure WeightedServer where
  server : Server
  contents : Contents
deriving DecidableEq

namespace WeightedServer

variable {α : Type}

def map (f : Server → Server) (v : WeightedServer) : WeightedServer := { v with server := f v.server }

/-- A call inside a method (`Server.attempt`). -/
def attempt (x : Fault) (effect : WeightedServer → WeightedServer)
    (next : WeightedServer → Except PyErr α × WeightedServer) (v : WeightedServer) : Except PyErr α × WeightedServer :=
  match x with
  | .none => next (effect v)
  | .before => (.error engineError, v)
  | .after | .late => (.error engineError, effect v)

/-- Close the gate. -/
def pause (v : WeightedServer) : WeightedServer := v.map fun u => { u with submissionPaused := true }

/-- `engine.sleep(level)`. -/
def discard (level : Nat) (v : WeightedServer) : WeightedServer where
  server := { v.server with weights := false, kv := false }
  contents := if level = 2 then .discarded else v.contents

/-- Whether the tags name an allocation; no tags name all of them. -/
def wakes (tags : Option (List String)) (allocation : String) : Bool :=
  match tags with
  | none => true
  | some l => allocation ∈ l

/-- `engine.wake_up(tags)`. -/
def wake (tags : Option (List String)) (v : WeightedServer) : WeightedServer where
  server := { v.server with
    weights := v.server.weights || wakes tags "weights"
    kv := v.server.kv || wakes tags "kv_cache" }
  contents := if tags = some ["weights"] ∧ v.contents = .discarded then .prepared else v.contents

/-- `sleep` from the level check on (:189). -/
def deepSleep (d : Deployment) (x : Nat → Fault) (v : WeightedServer) :
    Except PyErr (Nat × Bool) × WeightedServer :=
  match Server.expectedLevel d.resource with
  | none => (.error ⟨.notImplementedError, "native sleep is unsupported for Ray resource"⟩, v)
  | some level =>
    if d.sleepLevel ≠ level then
      (.error ⟨.notImplementedError, "DONATE requires another vLLM sleep level"⟩, v)
    else attempt (x 3) id (attempt (x 4) id (attempt (x 5) (discard level) (attempt (x 6) id fun v =>
      if ¬ v.server.isSleeping then (.error (.runtimeError "vLLM engine did not enter sleep"), v)
      else (.ok (level, true), v.map fun u => { u with stage := Server.stageOfLevel level })))) v.pause

/-- `sleep` (:154). -/
def sleep (d : Deployment) (x : Nat → Fault) (v : WeightedServer) :
    Except PyErr (Nat × Bool) × WeightedServer :=
  match v.server.requireSleepEngine d with
  | .error e => (.error e, v)
  | .ok () => match v.server.stage with
    | .level1 | .level2 => attempt (x 0) id (fun v =>
        if ¬ v.server.isSleeping then
          (.error (.runtimeError "sleep ledger disagrees with vLLM engine"), v)
        else (.ok (Server.levelOfStage v.server.stage, true), v.pause)) v
    | .weights => attempt (x 0) id (fun v =>
        if v.server.isSleeping then attempt (x 1) (map fun u => { u with kv := true })
          (attempt (x 2) id fun v =>
            if v.server.isSleeping then
              (.error (.runtimeError "RESTORE rollback could not restore KV before sleep"), v)
            else v.deepSleep d x) v
        else v.deepSleep d x) v.pause
    | .awake => v.deepSleep d x

/-- The end of `wake_up`, once every allocation is resident (:277): a healthy engine is reported. -/
def reopen (x : Nat → Fault) (kvAlreadyReset : Bool) (v : WeightedServer) :
    Except PyErr (Bool × Bool) × WeightedServer :=
  attempt (if kvAlreadyReset then .none else x 3) id (attempt (x 4) id fun v => (.ok (false, true),
    { server := { v.server with stage := .awake, submissionPaused := false }
      contents := if v.contents = .prepared then .resident else v.contents })) v

/-- `wake_up` (:228): `sleeping` and `fully_awake`. -/
def wakeUp (d : Deployment) (x : Nat → Fault) (tags : Option (List String)) (v : WeightedServer) :
    Except PyErr (Bool × Bool) × WeightedServer :=
  match v.server.requireSleepEngine d with
  | .error e => (.error e, v)
  | .ok () => attempt (x 0) id (fun v =>
      let sleepingBefore := v.server.isSleeping
      let kvAlreadyReset := tags = none ∧ v.server.stage = .weights ∧ ¬ sleepingBefore
      if tags = some ["weights"] ∧ v.server.stage = .weights then
        if ¬ sleepingBefore then
          (.error (.runtimeError "weights-wake ledger disagrees with vLLM engine"), v)
        else (.ok (true, false), v)
      else if tags = none ∧ (v.server.stage = .level1 ∨ v.server.stage = .level2) then
        (.error (.runtimeError "full native wake requires weights-only RESTORE preparation"), v)
      else if tags = none ∧ v.server.stage = .weights ∧ sleepingBefore then
        (.error (.runtimeError
          "full native wake requires CE KV restore before admission commit"), v)
      else if ¬ sleepingBefore ∧ tags ≠ none then
        (.error (.runtimeError "tagged native wake requires a sleeping vLLM engine"), v)
      else if ¬ sleepingBefore ∧ v.server.stage ≠ .weights ∧ v.server.stage ≠ .awake then
        (.error (.runtimeError "native wake ledger disagrees with vLLM engine"), v)
      else attempt (if sleepingBefore then x 1 else .none)
        (fun v => if sleepingBefore then v.wake tags else v)
        (attempt (x 2) id fun v =>
          if tags = some ["weights"] ∧ ¬ v.server.isSleeping then (.error (.runtimeError
            "weights-only wake unexpectedly made the vLLM engine fully awake"), v)
          else if v.server.isSleeping then (.ok (true, false),
            if tags = some ["weights"] then v.map fun u => { u with stage := .weights } else v)
          else v.reopen x kvAlreadyReset) v) v.pause

/-! ## The two tags the task uses -/

/-- `None` and `["weights"]`. -/
def tagsOf : Server.WakeTags → Option (List String)
  | .all => none
  | .weights => some ["weights"]

variable {d : Deployment} {x : Nat → Fault} {v : WeightedServer}

/-- The outcome for the server. -/
def forget (r : Except PyErr α × WeightedServer) : Except PyErr α × Server := (r.1, r.2.server)

theorem forget_attempt {f : Fault} {effect : WeightedServer → WeightedServer} (effect' : Server → Server)
    {next : WeightedServer → Except PyErr α × WeightedServer} {next' : Server → Except PyErr α × Server}
    (he : ∀ u, (effect u).server = effect' u.server)
    (hn : ∀ u, forget (next u) = next' u.server) (v : WeightedServer) :
    forget (attempt f effect next v) = Server.attempt f effect' next' v.server := by
  cases f with
  | none => exact (hn _).trans (by rw [he]; rfl)
  | before => rfl
  | after => exact Prod.ext rfl (he v)
  | late => exact Prod.ext rfl (he v)

/-- A call without an effect. -/
theorem forget_step {f : Fault} {next : WeightedServer → Except PyErr α × WeightedServer}
    {next' : Server → Except PyErr α × Server} (hn : ∀ u, forget (next u) = next' u.server)
    (v : WeightedServer) : forget (attempt f id next v) = Server.attempt f id next' v.server :=
  forget_attempt id (fun _ => rfl) hn v

theorem forget_ite {p : Prop} [Decidable p] {r r' : Except PyErr α × WeightedServer} :
    forget (if p then r else r') = if p then forget r else forget r' := by
  split <;> rfl

theorem deepSleep_server (v : WeightedServer) : forget (v.deepSleep d x) = v.server.deepSleep d x := by
  unfold deepSleep Server.deepSleep
  cases Server.expectedLevel d.resource with
  | none => rfl
  | some level =>
    dsimp only
    rw [forget_ite]
    congr 1
    refine forget_step (forget_step (forget_attempt _ (fun _ => rfl) (forget_step fun u => ?_))) _
    rw [forget_ite]
    rfl

theorem sleep_server (v : WeightedServer) : forget (v.sleep d x) = v.server.sleep d x := by
  unfold sleep Server.sleep
  cases v.server.requireSleepEngine d with
  | error e => rfl
  | ok u =>
    obtain ⟨⟨weights, kv, stage, paused, steps, launched, alive, worker, cleaned⟩, contents⟩ := v
    cases stage with
    | level1 => exact forget_step (fun _ => forget_ite) _
    | level2 => exact forget_step (fun _ => forget_ite) _
    | weights =>
      refine forget_step (fun u => ?_) _
      rw [forget_ite, deepSleep_server]
      congr 1
      refine forget_attempt (fun v => { v with kv := true }) (fun _ => rfl)
        (forget_step fun w => ?_) _
      rw [forget_ite, deepSleep_server]
      rfl
    | awake => exact deepSleep_server _

theorem reopen_server (b : Bool) (v : WeightedServer) :
    forget (v.reopen x b) = v.server.reopen x b :=
  forget_step (forget_step fun _ => rfl) v

theorem tagsOf_eq_none {tags : Server.WakeTags} : tagsOf tags = none ↔ tags = .all := by
  cases tags <;> simp [tagsOf]

theorem tagsOf_eq_weights {tags : Server.WakeTags} :
    tagsOf tags = some ["weights"] ↔ tags = .weights := by
  cases tags <;> simp [tagsOf]

theorem tagsOf_ne_none {tags : Server.WakeTags} : tagsOf tags ≠ none ↔ tags = .weights := by
  cases tags <;> simp [tagsOf]

theorem wake_server (tags : Server.WakeTags) (v : WeightedServer) : (v.wake (tagsOf tags)).server =
    { v.server with weights := true, kv := v.server.kv || tags = .all } := by
  cases tags <;> simp [wake, wakes, tagsOf]

/-- For `None` and `["weights"]` this is the `wake_up` of the task. -/
theorem wakeUp_server (tags : Server.WakeTags) (v : WeightedServer) :
    forget (v.wakeUp d x (tagsOf tags)) = v.server.wakeUp d x tags := by
  unfold wakeUp Server.wakeUp
  cases v.server.requireSleepEngine d with
  | error e => rfl
  | ok u =>
    refine forget_step (fun u => ?_) _
    simp only [tagsOf_eq_none, tagsOf_eq_weights, tagsOf_ne_none, forget_ite]
    congr 5
    refine forget_attempt (fun v => if u.server.isSleeping then
      { v with weights := true, kv := v.kv || tags = .all } else v) (fun w => ?_)
      (forget_step fun w => ?_) _
    · split
      · exact wake_server tags w
      · rfl
    · simp only [forget_ite, reopen_server]
      congr 2
      unfold forget
      split <;> rfl

/-! ## Runs -/

/-- A call on the server; `release_kv_cache` and `resume_kv_cache` are the checkpoint engine's. -/
inductive AdmissionCall
  | sleep (x : Nat → Fault)
  | wakeUp (x : Nat → Fault) (tags : Option (List String))
  | releaseKvCache (f : Fault)
  | resumeKvCache (f : Fault)

def call (d : Deployment) : AdmissionCall → WeightedServer → WeightedServer
  | .sleep x, v => (v.sleep d x).2
  | .wakeUp x tags, v => (v.wakeUp d x tags).2
  | .releaseKvCache f, v => v.map fun u => (Replica.releaseKvCache f u).2
  | .resumeKvCache f, v => v.map fun u => (Replica.resumeKvCache f u).2

/-- A server that has been launched: everything is resident, the gate is open or shut. -/
def Launched (v : WeightedServer) : Prop :=
  v.server.weights = true ∧ v.server.kv = true ∧ v.server.stage = .awake ∧ v.contents = .resident

def machine (d : Deployment) : Machine WeightedServer AdmissionCall := .ofFun Launched (call d)

/-- The wake reaches an engine whose weights are discarded, and wakes them with something else: without
tags because the ledger has missed the sleep, or as one of several allocations. -/
def Skips (v : WeightedServer) : AdmissionCall → Prop
  | .wakeUp _ tags => v.contents = .discarded ∧ wakes tags "weights" = true ∧
      tags ≠ some ["weights"] ∧ (tags = none → v.server.stage = .awake)
  | _ => False

/-- The gate is open only on resident weights, and discarded weights are asleep. -/
structure Safe (v : WeightedServer) : Prop where
  admits : v.server.submissionPaused = false → v.contents = .resident
  asleep : v.contents = .discarded → v.server.weights = false

/-- The same with the gate shut. -/
structure Shut (v : WeightedServer) : Prop where
  paused : v.server.submissionPaused = true
  asleep : v.contents = .discarded → v.server.weights = false

theorem Shut.safe (h : Shut v) : Safe v := ⟨fun hp => absurd (h.paused.symm.trans hp) nofun, h.asleep⟩

theorem Safe.pause (h : Safe v) : Shut v.pause := ⟨rfl, h.asleep⟩

/-- A call inside a method keeps what it keeps whether it fails or not. -/
theorem attempt_keeps {P : WeightedServer → Prop} {f : Fault}
    {effect : WeightedServer → WeightedServer}
    {next : WeightedServer → Except PyErr α × WeightedServer} (h : P v) (he : P (effect v))
    (hn : P (next (effect v)).2) : P (attempt f effect next v).2 := by
  cases f with
  | none => exact hn
  | before => exact h
  | after => exact he
  | late => exact he

theorem Shut.discard (h : Shut v) (level : Nat) : Shut (v.discard level) := ⟨h.paused, fun _ => rfl⟩

theorem Safe.deepSleep (h : Safe v) : Safe (v.deepSleep d x).2 := by
  unfold WeightedServer.deepSleep
  cases Server.expectedLevel d.resource with
  | none => exact h
  | some level =>
    dsimp only
    by_cases hl : d.sleepLevel ≠ level
    · rw [if_pos hl]
      exact h
    · rw [if_neg hl]
      have hd := h.pause.discard level
      refine Shut.safe (attempt_keeps h.pause h.pause (attempt_keeps h.pause h.pause
        (attempt_keeps h.pause hd (attempt_keeps hd hd ?_))))
      show Shut (if ¬ (v.pause.discard level).server.isSleeping then _ else _ :
        Except PyErr (Nat × Bool) × WeightedServer).2
      split
      · exact hd
      · exact ⟨hd.paused, hd.asleep⟩

theorem Safe.sleep (h : Safe v) : Safe (v.sleep d x).2 := by
  have hlevel : Safe (attempt (x 0) id (fun v => if ¬ v.server.isSleeping then
      (.error (.runtimeError "sleep ledger disagrees with vLLM engine"), v)
      else (.ok (Server.levelOfStage v.server.stage, true), v.pause) :
        WeightedServer → Except PyErr (Nat × Bool) × WeightedServer) v).2 := by
    refine attempt_keeps h h ?_
    dsimp only [id]
    split
    · exact h
    · exact h.pause.safe
  unfold WeightedServer.sleep
  cases v.server.requireSleepEngine d with
  | error e => exact h
  | ok u =>
    dsimp only
    cases v.server.stage with
    | level1 => exact hlevel
    | level2 => exact hlevel
    | awake => exact h.deepSleep
    | weights =>
      -- shut from here on
      have hs : Safe v.pause := h.pause.safe
      have hkv : Safe (v.pause.map fun u => { u with kv := true }) :=
        Shut.safe ⟨h.pause.paused, h.pause.asleep⟩
      refine attempt_keeps hs hs ?_
      dsimp only [id]
      split
      · refine attempt_keeps hs hkv (attempt_keeps hkv hkv ?_)
        dsimp only [id]
        split
        · exact hkv
        · exact hkv.deepSleep
      · exact hs.deepSleep

/-- The gate opens on a resident engine that has not kept its discarded weights. -/
theorem Shut.reopen (h : Shut v) (hw : v.server.weights = true) (b : Bool) :
    Safe (v.reopen x b).2 := by
  refine attempt_keeps h.safe h.safe (attempt_keeps h.safe h.safe ⟨fun _ => ?_, fun hc => ?_⟩)
  · show (if v.contents = .prepared then Contents.resident else v.contents) = .resident
    cases hc : v.contents with
    | discarded =>
      rw [h.asleep hc] at hw
      cases hw
    | prepared => rfl
    | resident => rfl
  · change (if v.contents = .prepared then Contents.resident else v.contents) = .discarded at hc
    split at hc
    · cases hc
    · exact h.asleep hc

/-- What `wake_up` does once the engine has been woken. -/
theorem Shut.commits (h : Shut v) (tags : Option (List String)) (b : Bool) :
    Safe (if tags = some ["weights"] ∧ ¬ v.server.isSleeping then (.error (.runtimeError
        "weights-only wake unexpectedly made the vLLM engine fully awake"), v)
      else if v.server.isSleeping then (.ok (true, false),
        if tags = some ["weights"] then v.map fun u => { u with stage := .weights } else v)
      else v.reopen x b : Except PyErr (Bool × Bool) × WeightedServer).2 := by
  split
  · exact h.safe
  split
  · dsimp only
    split
    · exact Shut.safe ⟨h.paused, h.asleep⟩
    · exact h.safe
  · rename_i hres
    refine h.reopen ?_ b
    unfold Server.isSleeping at hres
    revert hres
    cases v.server.weights <;> simp

/-- A wake that does not skip the preparation leaves discarded weights asleep. -/
theorem Shut.wake (h : Shut v) {tags : Option (List String)}
    (hn : v.contents = .discarded → wakes tags "weights" = true → tags = some ["weights"]) :
    Shut (v.wake tags) := by
  refine ⟨h.paused, fun hc => ?_⟩
  change (if tags = some ["weights"] ∧ v.contents = .discarded then Contents.prepared
    else v.contents) = .discarded at hc
  show (v.server.weights || wakes tags "weights") = false
  split at hc
  · cases hc
  · rename_i hne
    rw [h.asleep hc, Bool.false_or, ← Bool.not_eq_true]
    exact fun hw => hne ⟨hn hc hw, hc⟩

theorem Safe.wakeUp (h : Safe v) {tags : Option (List String)} (hn : ¬ Skips v (.wakeUp x tags)) :
    Safe (v.wakeUp d x tags).2 := by
  unfold WeightedServer.wakeUp
  cases v.server.requireSleepEngine d with
  | error e => exact h
  | ok u =>
    have hs := h.pause
    refine attempt_keeps hs.safe hs.safe ?_
    dsimp only [id]
    have hstage : v.pause.server.stage = v.server.stage := rfl
    have hsleep : v.pause.server.isSleeping = v.server.isSleeping := rfl
    rw [hstage, hsleep]
    by_cases h₁ : tags = some ["weights"] ∧ v.server.stage = .weights
    · rw [if_pos h₁]
      split
      · exact hs.safe
      · exact hs.safe
    rw [if_neg h₁]
    by_cases h₂ : tags = none ∧ (v.server.stage = .level1 ∨ v.server.stage = .level2)
    · rw [if_pos h₂]
      exact hs.safe
    rw [if_neg h₂]
    by_cases h₃ : tags = none ∧ v.server.stage = .weights ∧ v.server.isSleeping = true
    · rw [if_pos h₃]
      exact hs.safe
    rw [if_neg h₃]
    by_cases h₄ : ¬ v.server.isSleeping = true ∧ tags ≠ none
    · rw [if_pos h₄]
      exact hs.safe
    rw [if_neg h₄]
    by_cases h₅ : ¬ v.server.isSleeping = true ∧ v.server.stage ≠ .weights ∧ v.server.stage ≠ .awake
    · rw [if_pos h₅]
      exact hs.safe
    rw [if_neg h₅]
    have hwoken : Shut (if v.server.isSleeping = true then v.pause.wake tags else v.pause) := by
      split
      · rename_i hsl
        refine hs.wake fun hc hw => not_not.1 fun hne => hn ⟨hc, hw, hne, fun ht => ?_⟩
        -- without tags only the stage `awake` lets a sleeping engine be woken
        cases hst : v.server.stage with
        | awake => rfl
        | level1 => exact absurd ⟨ht, .inl hst⟩ h₂
        | level2 => exact absurd ⟨ht, .inr hst⟩ h₂
        | weights => exact absurd ⟨ht, hst, hsl⟩ h₃
      · exact hs
    exact attempt_keeps hs.safe hwoken.safe
      (attempt_keeps hwoken.safe hwoken.safe (hwoken.commits tags _))

theorem Safe.call (h : Safe v) {l : AdmissionCall} (hn : ¬ Skips v l) : Safe (call d l v) := by
  cases l with
  | sleep x => exact h.sleep
  | wakeUp x tags => exact h.wakeUp hn
  | releaseKvCache f => exact ⟨by cases f <;> exact h.admits, by cases f <;> exact h.asleep⟩
  | resumeKvCache f => exact ⟨by cases f <;> exact h.admits, by cases f <;> exact h.asleep⟩

/-- In a run in which no wake skips the preparation, the gate is open only on weights that a weights-only
wake has prepared since their last discard, on an engine reported resident and healthy after it. -/
theorem admission_prepared {v₀ : WeightedServer} (hi : (machine d).init v₀)
    (h : (machine d).RunWhere (fun u l _ => ¬ Skips u l) v₀ v)
    (ho : v.server.submissionPaused = false) : v.contents = .resident := by
  have hsafe : Safe v := by
    refine h.invariant (fun u l u' hu hs hn => ?_) ?_
    · cases hs
      exact hu.call hn
    · obtain ⟨-, -, -, hc⟩ := hi
      exact ⟨fun _ => hc, fun hd => by rw [hc] at hd; cases hd⟩
  exact hsafe.admits ho

/-! ### A sleep whose reply is lost -/

section Fixture

open TaskSystem (deployment)

/-- A server in service. -/
def serving : WeightedServer :=
  ⟨⟨true, true, .awake, false, some 0, true, true, true, false⟩, .resident⟩

instance (v : WeightedServer) (l : AdmissionCall) : Decidable (Skips v l) := by
  cases l <;> unfold Skips <;> infer_instance

/-- Every engine call replies. -/
def replies : Nat → Fault := fun _ => .none

/-- Sleep, weights-only wake, KV cache, commit. -/
def restored : List AdmissionCall :=
  [.sleep replies, .wakeUp replies (some ["weights"]), .resumeKvCache .none, .wakeUp replies none]

/-- The engine sleeps, its reply is lost; a full wake follows. -/
def misreported : List AdmissionCall :=
  [.sleep fun n => if n = 5 then .after else .none, .wakeUp replies none]

def after (ls : List AdmissionCall) : WeightedServer := Machine.exec (call deployment) ls serving

theorem admission_prepared_restored :
    (after restored).server.submissionPaused = false ∧ (after restored).contents = .resident := by
  have hinit : (machine deployment).init serving := ⟨rfl, rfl, rfl, rfl⟩
  have hrun : (machine deployment).RunWhere (fun u l _ => ¬ Skips u l) serving (after restored) :=
    Machine.runWhere_exec _ _ _ _ _ (by decide)
  exact ⟨by decide, admission_prepared hinit hrun (by decide)⟩

/-- The gate opens on the weights that the sleep has discarded. -/
theorem discarded_admitted : (machine deployment).Reachable (after misreported) ∧
    (after misreported).server.submissionPaused = false ∧
    (after misreported).contents = .discarded :=
  ⟨⟨serving, ⟨rfl, rfl, rfl, rfl⟩, Machine.run_exec _ _ _ _⟩, by decide, by decide⟩

end Fixture

end WeightedServer

end ReplicaLending
