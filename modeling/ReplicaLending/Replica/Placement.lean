import ReplicaLending.Scheduler.LeaseForms
import ReplicaLending.Task.TaskRunner
/-!
# Placement, validated three times

An ADD carries one claim from the ledger to the bundle its CE worker is created on. Three components
rewrite and check it on the way, each by its own rules:

| here | there |
| --- | --- |
| `TaskRunner.buildBorrowedSpec`         | `_build_borrowed_spec` (task_runner.py:61), ranks by position |
| `LLMServerManager.validateBorrowedSpec`| `validate_borrowed_spec` (llm_server_manager.py:237) |
| `NormalSpec.ranked`                    | `resolved_spec["replica_rank"] = rank` (:409-411) |
| `validatePlacement`                    | `validate_placement` (replica.py:133) |
| `buildBorrowedWorkerPlan`              | `build_borrowed_worker_plan` (replica.py:158) |

`placement_agrees` is that the three agree on everything the first one builds.
-/

namespace ReplicaLending

/-- A placement spec with the rank the Manager allocated, once there is one. -/
structure ResolvedSpec extends BorrowedSpec where
  replicaRank : Option Nat

/-- `resolved_spec` (llm_server_manager.py:409). -/
def NormalSpec.ranked (n : NormalSpec) (rank : Nat) : ResolvedSpec := ⟨n.spec, some rank⟩

/-- A handle of a Ray actor that was launched under a name. -/
structure RayActor where
  name : String
deriving DecidableEq, Repr

/-- The runtime object of a replica (replica.py:33). The rank, the world size, the suffix and the
server name prefix are set by the native constructor. -/
structure MultiTaskvLLMReplica where
  replicaKind : ReplicaKind
  replicaRank : Nat
  runtimeEpoch : Nat
  worldSize : Nat
  nameSuffix : String
  serverNamePrefix : String
  placementClaims : List RawClaim
  workers : List RayActor
  borrowedWorkerNames : List String
  servers : List RayActor
  borrowedServerNames : List String
  serverHandle : Option RayActor
  borrowedCleanupVerified : Bool

/-- What `build_borrowed_worker_plan` returns. -/
structure WorkerPlan where
  rank : Nat
  claimId : PyVal
  actorName : String
  pgId : PyVal
  bundleIndex : PyVal
  nodeId : PyVal
  gpuUuid : PyVal
  numGpus : PyVal
  numCpus : PyVal
  envVars : List (String × String)
deriving DecidableEq

namespace MultiTaskvLLMReplica

/-- `validate_placement` (replica.py:133). -/
def validatePlacement (r : MultiTaskvLLMReplica) (spec : ResolvedSpec) : Except PyErr Unit :=
  if r.replicaKind ≠ .borrowed then
    .error (.valueError "lease placement is valid only for BORROWED replicas")
  else if spec.replicaRank ≠ some r.replicaRank then
    .error (.valueError "placement replica_rank does not match runtime identity")
  else if spec.placementEpoch ≠ r.runtimeEpoch then
    .error (.valueError "placement_epoch does not match runtime identity")
  else match Lease.make spec.leaseId spec.claims spec.expiresAt with
    | .error e => .error e
    | .ok lease =>
      if r.worldSize ≠ 1 ∨ lease.claims.length ≠ 1 then
        .error (.valueError "current borrowed runtime requires one TP=1 claim")
      else
        let claim := lease.firstClaim.fields
        if ¬ (PyVal.orNone (claim.get? "rank")).isZero ∨
            ¬ (PyVal.orNone (claim.get? "node_rank")).isZero ∨
            ¬ (PyVal.orNone (claim.get? "local_rank")).isZero then
          .error (.valueError "current borrowed claim requires rank=node_rank=local_rank=0")
        else .ok ()

/-- `claim[k]`. -/
def item (claim : RawClaim) (k : String) : Except PyErr PyVal :=
  match claim.get? k with
  | none => .error (.keyError k)
  | some v => .ok v

/-- `f"borrowed_ce_{self.replica_rank}{self.name_suffix}_"`. -/
def workerPrefix (r : MultiTaskvLLMReplica) : String :=
  "borrowed_ce_" ++ toString r.replicaRank ++ r.nameSuffix ++ "_"

def workerName (r : MultiTaskvLLMReplica) : String := r.workerPrefix ++ "r0"

/-- The name native `launch_servers` gives the server actor (replica.py:164-167). -/
def serverName (r : MultiTaskvLLMReplica) : String :=
  r.serverNamePrefix ++ "server_" ++ toString r.replicaRank ++ "_0" ++ r.nameSuffix

/-- The dict `build_borrowed_worker_plan` returns; it reads the claim as the spec holds it. -/
def workerPlan (r : MultiTaskvLLMReplica) (claim : RawClaim) : Except PyErr WorkerPlan := do
  let claimId ← item claim "claim_id"
  let pgId ← item claim "pg_id"
  let bundleIndex ← item claim "bundle_index"
  let nodeId ← item claim "node_id"
  let gpuUuid ← item claim "gpu_uuid"
  let numGpus ← item claim "gpu_fraction"
  let numCpus ← item claim "cpu_request"
  return ⟨0, claimId, r.workerName, pgId, bundleIndex, nodeId, gpuUuid, numGpus, numCpus,
    [("WORLD_SIZE", "1"), ("RANK", "0"), ("RAY_LOCAL_WORLD_SIZE", "1"),
      ("WG_PREFIX", r.workerPrefix), ("WG_BACKEND", "ray")]⟩

/-- `build_borrowed_worker_plan` (replica.py:158). The names of the server are recorded here, before
anything is launched. -/
def buildBorrowedWorkerPlan (r : MultiTaskvLLMReplica) (spec : ResolvedSpec) :
    Except PyErr WorkerPlan × MultiTaskvLLMReplica :=
  match r.validatePlacement spec with
  | .error e => (.error e, r)
  | .ok () =>
    -- a placement that was accepted has one claim
    let claim := spec.claims.headD ∅
    (r.workerPlan claim,
      { r with placementClaims := [claim], borrowedServerNames := [r.serverName] })

end MultiTaskvLLMReplica

/-! ## Rewriting a claim -/

/-- The fields the constructor of `Lease` looks at. -/
def checkedFields : List String :=
  ["claim_id", "source_lease_id", "donor_task_id", "donor_replica_rank", "pg_id", "node_id",
    "gpu_uuid", "bundle_index", "gpu_fraction", "cpu_request", "lease_id"]

/-- A write to any other field keeps a claim normalized. -/
def LeaseClaim.write (c : LeaseClaim) (k : String) (v : PyVal) (hk : k ∉ checkedFields) :
    LeaseClaim where
  fields := c.fields.insert k v
  ok := by
    have hne : ∀ j ∈ checkedFields, (c.fields.insert k v).get? j = c.fields.get? j :=
      fun j hj => Dict.get?_insert_ne _ _ fun e => hk (e ▸ hj)
    have ok := c.ok
    constructor <;> rw [hne _ (by decide)]
    exacts [ok.claimId, ok.sourceLeaseId, ok.donorTaskId, ok.donorReplicaRank, ok.pgId, ok.nodeId,
      ok.gpuUuid, ok.bundleIndex, ok.gpuFraction, ok.cpuRequest, ok.leaseId]

/-- `dict(claim, rank=rank, node_rank=0, local_rank=rank)`. -/
def LeaseClaim.placed (c : LeaseClaim) (rank : Nat) : LeaseClaim :=
  ((c.write "rank" (.int rank) (by decide)).write "node_rank" (.int 0) (by decide)).write
    "local_rank" (.int rank) (by decide)

theorem LeaseClaim.placed_checked (c : LeaseClaim) (rank : Nat) {k : String}
    (hk : k ∈ checkedFields) : (c.placed rank).fields.get? k = c.fields.get? k := by
  have hne : ∀ j, j ∉ checkedFields → j ≠ k := fun j hj e => hj (e ▸ hk)
  simp only [placed, write]
  rw [Dict.get?_insert_ne _ _ (hne _ (by decide)), Dict.get?_insert_ne _ _ (hne _ (by decide)),
    Dict.get?_insert_ne _ _ (hne _ (by decide))]

/-- A lease made of one normalized claim has that claim. -/
theorem Lease.make_single {id : String} (hid : id ≠ "") (c : LeaseClaim) (t : Nat) :
    ∃ l, Lease.make id [c.fields] t = .ok l ∧ l.claims.length = 1 ∧ l.expiresAt = t ∧
      ∀ k, l.firstClaim.fields.get? k = c.fields.get? k := by
  let l : Lease := ⟨id, [c], t, hid, by simp, by simp, by simp, by simp, by simp⟩
  obtain ⟨m, hm⟩ := l.make_isOk
  obtain ⟨-, ht, hc⟩ := GroupScheduler.copyLease_alike hm
  obtain ⟨d, ds, hk, hds, hd⟩ := List.forall₂_cons_left_iff.1 hc
  rw [List.forall₂_nil_left_iff.1 hds] at hd
  have hfirst : m.firstClaim = d := by simp [firstClaim, hd]
  exact ⟨m, hm, by rw [hd]; rfl, ht.symm, fun k => by rw [hfirst, hk]⟩

/-- A claim on rank zero of its node. -/
structure LeaseClaim.AtZero (c : LeaseClaim) : Prop where
  rank : c.fields.get? "rank" = some (.int 0)
  nodeRank : c.fields.get? "node_rank" = some (.int 0)
  localRank : c.fields.get? "local_rank" = some (.int 0)

theorem LeaseClaim.AtZero.congr {c d : LeaseClaim} (h : c.AtZero)
    (hk : ∀ k, d.fields.get? k = c.fields.get? k) : d.AtZero :=
  ⟨(hk _).trans h.rank, (hk _).trans h.nodeRank, (hk _).trans h.localRank⟩

theorem LeaseClaim.placed_atZero (c : LeaseClaim) : (c.placed 0).AtZero := by
  constructor <;> simp [placed, write, Dict.get?_insert]

theorem LeaseClaim.setRank_get? {c : LeaseClaim} (h : c.AtZero) (k : String) :
    c.setRank.fields.get? k = c.fields.get? k := by
  simp only [setRank, Dict.get?_insert]
  split
  · rename_i hk; rw [← hk, h.rank]
  · rfl

/-! ## What each validator accepts -/

/-- The lease has no fixed expiry or has not reached it. -/
def Lease.Unexpired (l : Lease) (now : Nat) : Prop := l.expiresAt = 0 ∨ now < l.expiresAt

/-- The deployment and the identities `validate_borrowed_spec` asks for. -/
structure Supported (d : Deployment) (spec : BorrowedSpec) : Prop where
  operationId : spec.operationId ≠ ""
  leaseId : spec.leaseId ≠ ""
  borrowerReplicaId : spec.borrowerReplicaId ≠ ""
  session : spec.borrowerTaskId = d.taskSession
  parallelism : d.tensorModelParallelSize = 1 ∧ d.dataParallelSize = 1 ∧
    d.pipelineModelParallelSize = 1

theorem BorrowedSpec.same_single {s t : BorrowedSpec} {c e : RawClaim}
    (hs : s.claims = [c]) (ht : t.claims = [e]) :
    s.same t = true ↔ s.operationId = t.operationId ∧ s.leaseId = t.leaseId ∧
      s.borrowerTaskId = t.borrowerTaskId ∧ s.borrowerReplicaId = t.borrowerReplicaId ∧
      s.expiresAt = t.expiresAt ∧ s.placementEpoch = t.placementEpoch ∧ c.same e = true := by
  simp [same, hs, ht, and_assoc]

/-- The Manager accepts one claim on rank zero, and only copies it. -/
theorem validateBorrowedSpec_single {d : Deployment} {now : Nat} {spec : BorrowedSpec}
    {c : LeaseClaim} (h : Supported d spec) (hc : spec.claims = [c.fields]) (hz : c.AtZero)
    (hlive : spec.expiresAt = 0 ∨ now < spec.expiresAt) :
    ∃ n, LLMServerManager.validateBorrowedSpec d now spec = .ok n ∧ n.spec.same spec = true ∧
      ∀ k, n.claim.fields.get? k = c.fields.get? k := by
  obtain ⟨hop, hlease, hreplica, htask, htp, hdp, hpp⟩ := h
  obtain ⟨l, hl, -, ht, hk⟩ := Lease.make_single hlease c spec.expiresAt
  have hez : l.firstClaim.AtZero := hz.congr hk
  have hexp : ¬ (l.expiresAt ≠ 0 ∧ l.expiresAt ≤ now) := by rw [ht]; omega
  have htask' : spec.borrowerTaskId ≠ "" := htask ▸ d.taskSession_ne
  have hset : ∀ k, l.firstClaim.setRank.fields.get? k = c.fields.get? k := fun k =>
    (LeaseClaim.setRank_get? hez k).trans (hk k)
  refine ⟨⟨{ spec with claims := [l.firstClaim.setRank.fields] }, l.firstClaim.setRank, rfl, htask',
    hreplica, hop⟩, ?_, ?_, hset⟩
  · unfold LLMServerManager.validateBorrowedSpec
    rw [dif_neg hop, if_neg hlease, dif_neg htask', dif_neg hreplica, if_neg (not_not.2 htask),
      if_neg (by simp [hc]), if_neg (by simp [htp, hdp, hpp]), if_neg (by simp [hc]), hc, hl]
    dsimp only
    rw [if_neg hexp, if_neg (by
      simp [hez.rank, hez.nodeRank, hez.localRank, PyVal.orNone, PyVal.isZero_int])]
  · exact (BorrowedSpec.same_single rfl hc).2
      ⟨rfl, rfl, rfl, rfl, rfl, rfl, RawClaim.same_of_get? hset⟩

namespace MultiTaskvLLMReplica

variable {r : MultiTaskvLLMReplica} {spec : ResolvedSpec} {c : LeaseClaim}

/-- The replica accepts one claim on rank zero that is for its own rank and epoch. -/
theorem validatePlacement_single (hkind : r.replicaKind = .borrowed)
    (hrank : spec.replicaRank = some r.replicaRank) (hepoch : spec.placementEpoch = r.runtimeEpoch)
    (hworld : r.worldSize = 1) (hlease : spec.leaseId ≠ "") (hc : spec.claims = [c.fields])
    (hz : c.AtZero) : r.validatePlacement spec = .ok () := by
  obtain ⟨l, hl, hone, -, hk⟩ := Lease.make_single hlease c spec.expiresAt
  obtain ⟨hr, hn, hloc⟩ := hz.congr hk
  unfold validatePlacement
  rw [if_neg (not_not.2 hkind), if_neg (not_not.2 hrank), if_neg (not_not.2 hepoch), hc, hl]
  dsimp only
  rw [if_neg (by simp [hworld, hone]), if_neg (by
    simp [hr, hn, hloc, PyVal.orNone, PyVal.isZero_int])]

theorem nonemptyStr_str {v : Option PyVal} (h : (PyVal.nonemptyStr v).isSome) :
    v = some (.str ((PyVal.nonemptyStr v).getD "")) := by
  unfold PyVal.nonemptyStr at h ⊢
  split at h
  · split at h
    · cases h
    · rename_i hs; simp [hs]
  · cases h

theorem nonnegInt_int {v : Option PyVal} (h : (PyVal.nonnegInt v).isSome) :
    v = some (.int ((PyVal.nonnegInt v).getD 0)) := by
  unfold PyVal.nonnegInt at h ⊢
  split at h
  · rfl
  · cases h

/-- The plan of a placement that was accepted reads every field off the claim. -/
theorem buildBorrowedWorkerPlan_single (hv : r.validatePlacement spec = .ok ())
    (hc : spec.claims = [c.fields]) :
    ∃ plan, (r.buildBorrowedWorkerPlan spec).1 = .ok plan ∧ plan.claimId = .str c.claimId ∧
      plan.pgId = .str c.pgId ∧ plan.bundleIndex = .int c.bundleIndex ∧
      plan.nodeId = .str c.nodeId ∧ plan.gpuUuid = .str c.gpuUuid := by
  unfold buildBorrowedWorkerPlan workerPlan item
  rw [hv]
  dsimp only
  rw [hc, List.headD_cons, nonemptyStr_str c.ok.claimId, nonemptyStr_str c.ok.pgId,
    nonnegInt_int c.ok.bundleIndex, nonemptyStr_str c.ok.nodeId, nonemptyStr_str c.ok.gpuUuid,
    c.ok.gpuFraction, c.ok.cpuRequest]
  exact ⟨_, rfl, rfl, rfl, rfl, rfl, rfl⟩

end MultiTaskvLLMReplica

/-! ## The three agree -/

/-- The spec of an ADD on a lease of one claim: the claim is placed on rank zero. -/
def placedSpec (command : OperationCommand) (lease : Lease) (c : LeaseClaim) : BorrowedSpec where
  operationId := command.operationId
  leaseId := lease.leaseId
  borrowerTaskId := command.target.taskSession
  borrowerReplicaId := command.target.replicaId
  claims := [(c.placed 0).fields]
  expiresAt := lease.expiresAt
  placementEpoch := command.target.runtimeEpoch

theorem buildBorrowedSpec_single {command : OperationCommand} {lease : Lease} {c : LeaseClaim}
    (hadd : command.kind = .add) (hlease : lease.leaseId = command.leaseId)
    (hone : lease.claims = [c]) :
    TaskRunner.buildBorrowedSpec command lease = .ok (placedSpec command lease c) := by
  unfold TaskRunner.buildBorrowedSpec
  rw [if_neg (not_not.2 hadd), if_neg (not_not.2 hlease), hone]
  rfl

/-- **The validators agree.** Of every ADD and every unexpired lease of one claim, the spec the
TaskRunner builds is accepted by the Manager, whose output validates to an equal spec as long as the
lease lives, and with a rank added by the replica of that rank and epoch, whose worker plan names
the lease's claim, placement group, bundle, node and GPU. The world size is the one the native
constructor computes. -/
theorem placement_agrees (d : Deployment) (command : OperationCommand) (lease : Lease)
    (c : LeaseClaim) (hadd : command.kind = .add) (hlease : lease.leaseId = command.leaseId)
    (hone : lease.claims = [c]) (hsession : command.target.taskSession = d.taskSession)
    (hparallel : d.tensorModelParallelSize = 1 ∧ d.dataParallelSize = 1 ∧
      d.pipelineModelParallelSize = 1) :
    ∃ spec, TaskRunner.buildBorrowedSpec command lease = .ok spec ∧
      ∀ now, lease.Unexpired now →
        ∃ n, LLMServerManager.validateBorrowedSpec d now spec = .ok n ∧
          (∀ later, lease.Unexpired later →
            ∃ n', LLMServerManager.validateBorrowedSpec d later n.spec = .ok n' ∧
              n'.spec.same n.spec = true) ∧
          ∀ (rank : Nat) (r : MultiTaskvLLMReplica), r.replicaKind = .borrowed →
            r.replicaRank = rank → r.runtimeEpoch = command.target.runtimeEpoch →
            r.worldSize = d.tensorModelParallelSize * d.dataParallelSize *
              d.pipelineModelParallelSize →
            r.validatePlacement (n.ranked rank) = .ok () ∧
            ∃ plan, (r.buildBorrowedWorkerPlan (n.ranked rank)).1 = .ok plan ∧
              plan.claimId = .str c.claimId ∧ plan.pgId = .str c.pgId ∧
              plan.bundleIndex = .int c.bundleIndex ∧ plan.nodeId = .str c.nodeId ∧
              plan.gpuUuid = .str c.gpuUuid := by
  refine ⟨_, buildBorrowedSpec_single hadd hlease hone, fun now hnow => ?_⟩
  have hc : (placedSpec command lease c).claims = [(c.placed 0).fields] := rfl
  have hsup : Supported d (placedSpec command lease c) :=
    ⟨command.operationId_ne, lease.leaseId_ne, command.target.replicaId_ne, hsession, hparallel⟩
  obtain ⟨n, hn, hsame, hk⟩ := validateBorrowedSpec_single hsup hc c.placed_atZero hnow
  obtain ⟨hop, hl, htask, hrep, ht, hep, -⟩ := (BorrowedSpec.same_single n.claims_eq hc).1 hsame
  have hz : n.claim.AtZero := c.placed_atZero.congr hk
  have hlid : n.spec.leaseId ≠ "" := hl ▸ lease.leaseId_ne
  refine ⟨n, hn, fun later hlater => ?_, fun rank r hkind hrank hepoch hworld => ?_⟩
  · have hsup' : Supported d n.spec :=
      ⟨n.operation_ne, hlid, n.replica_ne, htask.trans hsession, hparallel⟩
    have hlive : n.spec.expiresAt = 0 ∨ later < n.spec.expiresAt := by rw [ht]; exact hlater
    obtain ⟨n', hn', hsame', -⟩ := validateBorrowedSpec_single hsup' n.claims_eq hz hlive
    exact ⟨n', hn', hsame'⟩
  · obtain ⟨htp, hdp, hpp⟩ := hparallel
    have hv : r.validatePlacement (n.ranked rank) = .ok () :=
      MultiTaskvLLMReplica.validatePlacement_single hkind (by rw [hrank]; rfl)
        (hep.trans hepoch.symm) (by rw [hworld, htp, hdp, hpp]) hlid n.claims_eq hz
    obtain ⟨plan, hplan, h₁, h₂, h₃, h₄, h₅⟩ :=
      MultiTaskvLLMReplica.buildBorrowedWorkerPlan_single hv n.claims_eq
    -- the Manager changed none of the fields the plan reads
    have hsrc : ∀ {k : String}, k ∈ checkedFields → n.claim.fields.get? k = c.fields.get? k :=
      fun hm => (hk _).trans (c.placed_checked 0 hm)
    have hstr : ∀ {k : String}, k ∈ checkedFields → n.claim.str k = c.str k := fun hm => by
      simp only [LeaseClaim.str, hsrc hm]
    have hnat : n.claim.bundleIndex = c.bundleIndex := by
      simp only [LeaseClaim.bundleIndex, LeaseClaim.nat, hsrc (k := "bundle_index") (by decide)]
    refine ⟨hv, plan, hplan, h₁.trans ?_, h₂.trans ?_, h₃.trans (by rw [hnat]), h₄.trans ?_,
      h₅.trans ?_⟩
    · exact congrArg PyVal.str (hstr (by decide))
    · exact congrArg PyVal.str (hstr (by decide))
    · exact congrArg PyVal.str (hstr (by decide))
    · exact congrArg PyVal.str (hstr (by decide))

section Fixture

open GroupScheduler (borrowerKey donorLease donorClaim command)

/-- A task that runs one worker a replica. -/
def singleGpu : Deployment where
  taskSession := "borrower"
  taskSession_ne := ne_empty holds
  resource := .gpu
  sleepLevel := 2
  enableSleepMode := true
  freeCacheEngine := true
  tensorModelParallelSize := 1
  dataParallelSize := 1
  pipelineModelParallelSize := 1
  naiveBackend := false
  parameterValidationEnabled := false
  partialRollout := true
  drainTimeoutPositive := true
  rayNamespace := "ns"
  placementGroups := fun _ => none
  bundlePlacement := fun _ => ⟨"node", "pg", "gpu"⟩

/-- A borrowed runtime of rank 3 that has launched nothing. -/
def unlaunched : MultiTaskvLLMReplica :=
  ⟨.borrowed, 3, 0, 1, "_b0", "vllm_", [], [], [], [], [], none, false⟩

/-- An ADD on a one-claim lease reaches the worker plan with the GPU it lends. -/
theorem placement_agrees_lent :
    ∃ spec n plan, TaskRunner.buildBorrowedSpec (command "a" .add borrowerKey)
        (donorLease "L" (by decide)) = .ok spec ∧
      LLMServerManager.validateBorrowedSpec singleGpu 5 spec = .ok n ∧
      (unlaunched.buildBorrowedWorkerPlan (n.ranked 3)).1 = .ok plan ∧
      plan.gpuUuid = .str "gpu" := by
  obtain ⟨spec, hspec, h⟩ := placement_agrees singleGpu (command "a" .add borrowerKey)
    (donorLease "L" (by decide)) donorClaim rfl rfl rfl rfl ⟨rfl, rfl, rfl⟩
  obtain ⟨n, hn, -, hr⟩ := h 5 (.inl rfl)
  obtain ⟨-, plan, hplan, -, -, -, -, hgpu⟩ := hr 3 unlaunched rfl rfl rfl rfl
  exact ⟨spec, n, plan, hspec, hn, hplan, hgpu⟩

end Fixture

end ReplicaLending
