import ReplicaLending.Task.Invariant
/-!
# What the runtimes' methods prove

`sleep`, `wake_up`, `cleanup_borrowed_runtime` and `init_from_lease` return only when the engine or
the Ray state API has confirmed the residency they promise. The KV cache and the version of a runtime
come and go without its weights.
-/

namespace ReplicaLending

variable {d : Deployment} {r : Replica} {v v' : Server} {x : Nat → Fault}

namespace Server

theorem attempt_ok {α : Type} {f : Fault} {effect : Server → Server}
    {next : Server → Except PyErr α × Server} {a : α}
    (h : attempt f effect next v = (.ok a, v')) : next (effect v) = (.ok a, v') := by
  cases f with
  | none => exact h
  | before => cases h
  | after => cases h
  | late => cases h

theorem deepSleep_ok {a : Nat × Bool} (h : v.deepSleep d x = (.ok a, v')) :
    v'.isSleeping = true := by
  unfold deepSleep at h
  split at h
  · cases h
  split at h
  · cases h
  replace h := attempt_ok (attempt_ok (attempt_ok (attempt_ok h)))
  split at h
  · cases h
  · rename_i hs
    cases h
    exact not_not.1 hs

theorem sleep_ok {a : Nat × Bool} (h : v.sleep d x = (.ok a, v')) : v'.isSleeping = true := by
  unfold sleep at h
  split at h
  · cases h
  have hdeep : ∀ {u : Server}, (if u.isSleeping = true then
      attempt (x 1) (fun v => { v with kv := true }) (attempt (x 2) id fun v =>
        if v.isSleeping = true then
          (.error (.runtimeError "RESTORE rollback could not restore KV before sleep"), v)
        else v.deepSleep d x) u
      else u.deepSleep d x) = (.ok a, v') → v'.isSleeping = true := by
    intro u hu
    split at hu
    · replace hu := attempt_ok (attempt_ok hu)
      split at hu
      · cases hu
      · exact deepSleep_ok hu
    · exact deepSleep_ok hu
  have hlevel : ∀ {st : SleepStage} {u : Server}, (if ¬ u.isSleeping = true then
        (Except.error (PyErr.runtimeError "sleep ledger disagrees with vLLM engine"), u)
      else (.ok (levelOfStage st, true), { u with submissionPaused := true })) =
        (.ok a, v') → v'.isSleeping = true := by
    intro st u hu
    split at hu
    · cases hu
    · rename_i hs
      cases hu
      exact not_not.1 hs
  split at h
  · exact hlevel (attempt_ok h)
  · exact hlevel (attempt_ok h)
  · exact hdeep (attempt_ok h)
  · exact deepSleep_ok h

theorem reopen_ok {b : Bool} {a : Bool × Bool} (h : v.reopen x b = (.ok a, v')) :
    v' = { v with stage := .awake, submissionPaused := false } := by
  unfold reopen at h
  replace h := attempt_ok (attempt_ok h)
  cases h
  rfl

theorem requireSleepEngine_ok (h : v.requireSleepEngine d = .ok ()) : v.serverAlive = true := by
  unfold requireSleepEngine at h
  split at h
  · cases h
  split at h
  · cases h
  split at h
  · cases h
  · simpa using ‹¬ ¬ v.serverAlive = true›

/-- A runtime that reports to be fully awake is. -/
theorem wakeUp_ok {tags : WakeTags} (h : v.wakeUp d x tags = (.ok (false, true), v')) : v'.Awake := by
  unfold wakeUp at h
  split at h
  · cases h
  rename_i halive
  replace h := attempt_ok h
  have hu : (id { v with submissionPaused := true } : Server).serverAlive = true :=
    requireSleepEngine_ok halive
  generalize (id { v with submissionPaused := true } : Server) = u at h hu
  have hend : ∀ {f f' : Fault} {b : Bool} {effect : Server → Server},
      (∀ u, (effect u).serverAlive = u.serverAlive) →
      attempt f effect (attempt f' id fun v =>
        if tags = .weights ∧ ¬ v.isSleeping then (.error (.runtimeError
          "weights-only wake unexpectedly made the vLLM engine fully awake"), v)
        else if v.isSleeping then
          (.ok (true, false), if tags = .weights then { v with stage := .weights } else v)
        else v.reopen x b) u = (.ok (false, true), v') → v'.Awake := by
    intro f f' b effect heff he
    replace he := attempt_ok (attempt_ok he)
    split at he
    · cases he
    split at he
    · cases he
    · rename_i hs
      rw [reopen_ok he]
      exact ⟨(heff _).trans hu, by simpa [isSleeping] using hs⟩
  dsimp only at h
  by_cases h₁ : tags = .weights ∧ u.stage = .weights
  · rw [if_pos h₁] at h
    split at h <;> cases h
  rw [if_neg h₁] at h
  by_cases h₂ : tags = .all ∧ (u.stage = .level1 ∨ u.stage = .level2)
  · rw [if_pos h₂] at h; cases h
  rw [if_neg h₂] at h
  by_cases h₃ : tags = .all ∧ u.stage = .weights ∧ u.isSleeping = true
  · rw [if_pos h₃] at h; cases h
  rw [if_neg h₃] at h
  by_cases h₄ : ¬ u.isSleeping = true ∧ tags = .weights
  · rw [if_pos h₄] at h; cases h
  rw [if_neg h₄] at h
  by_cases h₅ : ¬ u.isSleeping = true ∧ u.stage ≠ .weights ∧ u.stage ≠ .awake
  · rw [if_pos h₅] at h; cases h
  rw [if_neg h₅] at h
  refine hend (fun w => ?_) h
  split <;> rfl

theorem runtimeHealth_ok {f : Fault} {a : Option Nat} (h : v.runtimeHealth f = (.ok a, v')) :
    v' = v ∧ v.serverAlive = true := by
  unfold runtimeHealth at h
  split at h
  · cases h
  · rename_i ha
    cases attempt_ok h
    exact ⟨rfl, by simpa using ha⟩

theorem runtimeHealth_same (f : Fault) : (v.runtimeHealth f).2 = v := by
  unfold runtimeHealth
  split
  · rfl
  · cases f <;> rfl

end Server

namespace Replica

open Server

theorem sleep_ok (h : r.sleep d x v = (.ok (), v')) : v'.isSleeping = true := by
  unfold sleep at h
  split at h
  · cases h
  split at h
  · cases h
  split at h
  · cases h
  · rename_i hs
    split at h
    · cases h
    · cases h
      exact Server.sleep_ok hs

theorem wakeUp_all (h : r.wakeUp d x .all v = (.ok (), v')) : v'.Awake := by
  unfold wakeUp at h
  split at h
  · cases h
  split at h
  · cases h
  · rename_i receipt u hw
    by_cases hr : receipt = (false, true)
    · subst hr
      cases h
      exact Server.wakeUp_ok hw
    · rw [if_pos (by simpa using hr)] at h
      cases h

theorem workerPlacements_same (f : Fault) : (r.workerPlacements f v).2 = v := by
  unfold workerPlacements
  split
  · rfl
  · cases f <;> rfl

theorem validateServerRuntime_same : (r.validateServerRuntime x v).2 = v := by
  unfold validateServerRuntime
  have hh := runtimeHealth_same (v := v) (x 0)
  cases hr : v.runtimeHealth (x 0) with
  | mk a u =>
    rw [hr] at hh
    obtain rfl : u = v := hh
    cases a with
    | error e => rfl
    | ok steps =>
      cases r.kind with
      | borrowed => rfl
      | native =>
        have hw := workerPlacements_same (r := r) (v := u) (x 1)
        dsimp only
        cases hp : r.workerPlacements (x 1) u with
        | mk b w =>
          rw [hp] at hw
          cases b <;> exact hw

theorem validateServerRuntime_ok {a : Option Nat} (h : r.validateServerRuntime x v = (.ok a, v')) :
    v.serverAlive = true := by
  unfold validateServerRuntime at h
  split at h
  · cases h
  · rename_i hr
    exact (runtimeHealth_ok hr).2

/-- A verified cleanup has proved the server and the worker dead. -/
theorem cleanupBorrowedRuntime_ok (h : r.cleanupBorrowedRuntime x v = (.ok (), v')) :
    v'.serverAlive = false ∧ v'.workerAlive = false := by
  have hserver : ∀ {f : Fault} {u w : Server}, shutdownServersVerified f u = (.ok (), w) →
      w.serverAlive = false := by
    intro f u w hu
    unfold shutdownServersVerified at hu
    split at hu
    · cases hu
    · cases attempt_ok hu; rfl
  have hworker : ∀ {f : Fault} {u w : Server}, killWorkersVerified f u = (.ok (), w) →
      w.workerAlive = false ∧ w.serverAlive = u.serverAlive := by
    intro f u w hu
    unfold killWorkersVerified at hu
    split at hu
    · rename_i ha
      cases hu
      exact ⟨by simpa using ha, rfl⟩
    · cases attempt_ok hu; exact ⟨rfl, rfl⟩
  unfold cleanupBorrowedRuntime at h
  split at h
  · cases h
  dsimp only at h
  split at h
  · rename_i hs hw
    cases h
    have hs' := hserver (Prod.ext hs rfl : shutdownServersVerified (x 0)
      { v with borrowedCleanupVerified := false } = (.ok (), _))
    have hw' := hworker (Prod.ext hw rfl : killWorkersVerified (x 1) _ = (.ok (), _))
    exact ⟨hw'.2.trans hs', hw'.1⟩
  · cases h

/-- A launched borrowed runtime has loaded its weights, on an address that was free. -/
theorem initFromLease_ok {claim : LeaseClaim} {free : Bool}
    (h : r.initFromLease claim free x v = (.ok (), v')) : v'.weights = true ∧ free = true := by
  have hlaunch : ∀ {f : Fault} {u w : Server}, launchServers free f u = (.ok (), w) →
      w.weights = true ∧ free = true := by
    intro f u w hu
    unfold launchServers at hu
    split at hu
    · cases hu
    · rename_i hf
      cases attempt_ok hu
      exact ⟨rfl, not_not.1 hf⟩
  unfold initFromLease at h
  dsimp only at h
  split at h
  · rename_i hb
    cases h
    split at hb
    · cases hb
    split at hb
    · cases hb
    rename_i hl
    have hsame := validateServerRuntime_same (r := r) (x := fun n => x (4 + n)) (v := ‹_›)
    split at hb
    · cases hb
    · rename_i hv
      cases hb
      rw [hv] at hsame
      obtain rfl := hsame
      exact hlaunch hl
  · split at h <;> cases h

/-! ### The KV cache -/

theorem releaseKvCache_weights (f : Fault) : (releaseKvCache f v).2.weights = v.weights := by
  unfold releaseKvCache Server.attempt
  cases f <;> rfl

theorem resumeKvCache_weights (f : Fault) : (resumeKvCache f v).2.weights = v.weights := by
  unfold resumeKvCache Server.attempt
  cases f <;> rfl

theorem resumeKvCache_ok {f : Fault} {a : Unit} (h : (resumeKvCache f v).1 = .ok a) :
    (resumeKvCache f v).2.kv = true := by
  unfold resumeKvCache Server.attempt at h ⊢
  cases f <;> first | rfl | cases h

end Replica

end ReplicaLending
