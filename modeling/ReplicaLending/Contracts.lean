import Mathlib.Data.List.Dedup
import Mathlib.Data.Rat.Defs
import ReplicaLending.Library.Dict
/-!
# Cross-component contracts (`orchestration/contracts.py`)

The values that cross ownership boundaries. Every `__post_init__` check is a field of the structure
it guards, so a value of the type is a value the constructor accepted; the constructors that can
raise at run time (`OperationEvidence.now`, `Lease.make`) return `Except PyErr`.

Times are natural numbers of ticks: the code only compares them (and subtracts two of them once,
group_scheduler.py:143).
-/

namespace ReplicaLending

/-! ## Exceptions -/

inductive ErrKind
  | typeError | valueError | keyError | runtimeError | timeoutError | notImplementedError
  | gateTimeoutError | gateReentryError | gateFencedError | operationIdentityError | rayError
  | cancelledError
deriving DecidableEq, Repr

/-- A raised Python exception. -/
structure PyErr where
  kind : ErrKind
  message : String
deriving DecidableEq, Repr

namespace PyErr

def typeError (m : String) : PyErr := ⟨.typeError, m⟩
def valueError (m : String) : PyErr := ⟨.valueError, m⟩
def keyError (m : String) : PyErr := ⟨.keyError, m⟩
def runtimeError (m : String) : PyErr := ⟨.runtimeError, m⟩
def timeoutError (m : String) : PyErr := ⟨.timeoutError, m⟩

end PyErr

/-! ## Enumerations (contracts.py:30-71) -/

inductive ReplicaKind | native | borrowed
deriving DecidableEq, Repr

inductive ReplicaState | creating | active | draining | dormant | released | quarantined
deriving DecidableEq, Repr

inductive AttemptState | admitted | terminated | settled
deriving DecidableEq, Repr

inductive OperationKind | add | donate | remove | restore
deriving DecidableEq, Repr

inductive OperationStatus | accepted | running | succeeded | failed | unknown
deriving DecidableEq, Repr

inductive EvidenceType | weightReady | exitReady | serviceCommitted | released
deriving DecidableEq, Repr

/-! ## Literals

The checks of a value that is written out are facts with a name, so that a definition that holds
such a value holds no proof of its own. -/

theorem holds : true = true := rfl

theorem ne_empty {s : String} (h : (s != "") = true) : s ≠ "" := bne_iff_ne.1 h

theorem noGpus_iff {e : EvidenceType} (h : (e != .released) = true) :
    e = .released ↔ ([] : List String) ≠ [] :=
  iff_of_false (bne_iff_ne.1 h) (fun hne => hne rfl)

/-! ## Replica identity -/

/-- `ReplicaKey` (contracts.py:74). -/
structure ReplicaKey where
  taskSession : String
  replicaId : String
  runtimeEpoch : Nat
  taskSession_ne : taskSession ≠ ""
  replicaId_ne : replicaId ≠ ""
deriving DecidableEq

/-- `f"native-{replica_rank}"`. -/
def nativeReplicaId (rank : Nat) : String := "native-" ++ toString rank

theorem nativeReplicaId_ne (rank : Nat) : nativeReplicaId rank ≠ "" := by
  simp [nativeReplicaId]

/-- `native_replica_key` (contracts.py:91). -/
def nativeReplicaKey (taskSession : String) (h : taskSession ≠ "") (replicaRank : Nat)
    (runtimeEpoch : Nat := 0) : ReplicaKey :=
  ⟨taskSession, nativeReplicaId replicaRank, runtimeEpoch, h, nativeReplicaId_ne replicaRank⟩

/-! ## Operations -/

/-- `OperationCommand` (contracts.py:102). -/
structure OperationCommand where
  operationId : String
  kind : OperationKind
  target : ReplicaKey
  leaseId : String
  force : Option Bool
  operationId_ne : operationId ≠ ""
  leaseId_ne : leaseId ≠ ""
  force_remove : kind ≠ .remove → force ≠ some true
deriving DecidableEq

/-- `OperationRecord` (contracts.py:124). -/
structure OperationRecord where
  operationId : String
  status : OperationStatus
  result : Option String
deriving DecidableEq, Repr

/-- `OperationEvidence` (contracts.py:139). -/
structure OperationEvidence where
  operationId : String
  type : EvidenceType
  timestamp : Nat
  releasedGpuUuids : List String
  operationId_ne : operationId ≠ ""
  uuids_nodup : releasedGpuUuids.Nodup
  uuids_ne : "" ∉ releasedGpuUuids
  released_iff : type = .released ↔ releasedGpuUuids ≠ []
deriving DecidableEq

/-- `OperationEvidence.now` (contracts.py:166); `timestamp` is what `time.time_ns()` returned. -/
def OperationEvidence.now (timestamp : Nat) (operationId : String) (type : EvidenceType)
    (releasedGpuUuids : List String := []) : Except PyErr OperationEvidence :=
  if h₁ : operationId = "" then throw (.valueError "operation_id must be a nonempty string")
  else if h₂ : ¬ releasedGpuUuids.Nodup then
    throw (.valueError "released_gpu_uuids must not contain duplicates")
  else if h₃ : "" ∈ releasedGpuUuids then
    throw (.valueError "released_gpu_uuids must contain nonempty strings")
  else if h₄ : type = .released ∧ releasedGpuUuids = [] then
    throw (.valueError "RELEASED evidence requires explicit GPU uuids")
  else if h₅ : type ≠ .released ∧ releasedGpuUuids ≠ [] then
    throw (.valueError "released_gpu_uuids are valid only for RELEASED evidence")
  else
    return ⟨operationId, type, timestamp, releasedGpuUuids, h₁, not_not.1 h₂, h₃,
      ⟨fun ht hn => h₄ ⟨ht, hn⟩, fun hn => by_contra fun ht => h₅ ⟨ht, hn⟩⟩⟩

/-- What a returned evidence is, field by field. -/
theorem OperationEvidence.now_ok {t : Nat} {op : String} {ty : EvidenceType} {gs : List String}
    {ev : OperationEvidence} (h : OperationEvidence.now t op ty gs = .ok ev) :
    ev.operationId = op ∧ ev.type = ty ∧ ev.timestamp = t ∧ ev.releasedGpuUuids = gs := by
  unfold OperationEvidence.now at h
  repeat' split at h
  all_goals first | cases h; exact ⟨rfl, rfl, rfl, rfl⟩ | cases h

/-- `require_operation_evidence` (contracts.py:180); the type annotation plays the `isinstance`. -/
def requireOperationEvidence (value : OperationEvidence) (operationId : String)
    (expected : EvidenceType) (label : String) : Except PyErr OperationEvidence :=
  if value.operationId ≠ operationId then
    throw (.valueError (label ++ " evidence belongs to another operation"))
  else if value.type ≠ expected then throw (.valueError "unexpected evidence type")
  else return value

theorem requireOperationEvidence_ok {v w : OperationEvidence} {op : String} {ty : EvidenceType}
    {l : String} (h : requireOperationEvidence v op ty l = .ok w) :
    w = v ∧ v.operationId = op ∧ v.type = ty := by
  unfold requireOperationEvidence at h
  split at h
  · cases h
  split at h
  · cases h
  cases h
  exact ⟨rfl, not_not.1 ‹_›, not_not.1 ‹_›⟩

/-! ## Leases -/

/-- A field of a claim mapping. `other` stands for any object the code only copies. -/
inductive PyVal
  | none | bool (b : Bool) | int (n : Int) | float (q : ℚ) | str (s : String) | other (tag : Nat)
deriving DecidableEq

namespace PyVal

/-- `isinstance(value, str) and value`. -/
def nonemptyStr : Option PyVal → Option String
  | some (.str s) => if s = "" then Option.none else some s
  | _ => Option.none

/-- `type(value) is int and value >= 0`. -/
def nonnegInt : Option PyVal → Option Nat
  | some (.int (.ofNat n)) => some n
  | _ => Option.none

/-- `type(value) in (int, float)`, as `float(value)`. -/
def number : PyVal → Option ℚ
  | .int n => some n
  | .float q => some q
  | _ => Option.none

/-- `d.get(k)` is `None` both when the key is missing and when its value is `None`. -/
def orNone : Option PyVal → PyVal
  | some v => v
  | Option.none => .none

theorem nonemptyStr_orNone (v : Option PyVal) : nonemptyStr (some (orNone v)) = nonemptyStr v := by
  cases v <;> rfl

/-- The number a value is equal to, if it is equal to one. -/
def numeric : PyVal → Option ℚ
  | .bool b => some (if b then 1 else 0)
  | v => v.number

/-- `v == w`. -/
def eqv (v w : PyVal) : Bool :=
  match v.numeric, w.numeric with
  | some p, some q => p = q
  | Option.none, Option.none => v = w
  | _, _ => false

theorem eqv_iff {v w : PyVal} :
    v.eqv w = true ↔ v.numeric = w.numeric ∧ (v.numeric = Option.none → v = w) := by
  unfold eqv
  cases v.numeric <;> cases w.numeric <;> simp

theorem eqv_refl (v : PyVal) : v.eqv v = true := eqv_iff.2 ⟨rfl, fun _ => rfl⟩

theorem eqv_symm {v w : PyVal} (h : v.eqv w = true) : w.eqv v = true := by
  obtain ⟨hn, he⟩ := eqv_iff.1 h
  exact eqv_iff.2 ⟨hn.symm, fun hw => (he (hn.trans hw)).symm⟩

theorem eqv_trans {v w x : PyVal} (h : v.eqv w = true) (h' : w.eqv x = true) :
    v.eqv x = true := by
  obtain ⟨hn, he⟩ := eqv_iff.1 h
  obtain ⟨hn', he'⟩ := eqv_iff.1 h'
  exact eqv_iff.2 ⟨hn.trans hn', fun hv => (he hv).trans (he' (hn.symm.trans hv))⟩

theorem eqv_int (m n : Int) : eqv (.int m) (.int n) = decide (m = n) := by
  simp [eqv, numeric, number]

theorem eqv_str (s t : String) : eqv (.str s) (.str t) = decide (s = t) := by
  simp [eqv, numeric, number]

/-- `value == 0`. -/
def isZero (v : PyVal) : Bool := v.eqv (.int 0)

theorem isZero_int : isZero (.int 0) = true := eqv_refl _

end PyVal

/-- A claim mapping as the caller writes it. -/
abbrev RawClaim := Dict String PyVal

/-- `claim == claim'`. -/
def RawClaim.same (c d : RawClaim) : Bool := Dict.same PyVal.eqv c d

theorem RawClaim.same_of_get? {c d : RawClaim} (h : ∀ k, c.get? k = d.get? k) : c.same d = true :=
  Dict.same_of_get? PyVal.eqv_refl h

/-- What the per-claim checks of `Lease.__post_init__` establish of the normalized mapping. -/
structure ClaimOk (c : RawClaim) : Prop where
  claimId : (PyVal.nonemptyStr (c.get? "claim_id")).isSome
  sourceLeaseId : (PyVal.nonemptyStr (c.get? "source_lease_id")).isSome
  donorTaskId : (PyVal.nonemptyStr (c.get? "donor_task_id")).isSome
  donorReplicaRank : (PyVal.nonnegInt (c.get? "donor_replica_rank")).isSome
  pgId : (PyVal.nonemptyStr (c.get? "pg_id")).isSome
  nodeId : (PyVal.nonemptyStr (c.get? "node_id")).isSome
  gpuUuid : (PyVal.nonemptyStr (c.get? "gpu_uuid")).isSome
  bundleIndex : (PyVal.nonnegInt (c.get? "bundle_index")).isSome
  gpuFraction : c.get? "gpu_fraction" = some (.float (1 / 2))
  cpuRequest : c.get? "cpu_request" = some (.float 1)
  leaseId : c.get? "lease_id" = none

/-- A normalized claim: a mapping that passed the checks. -/
structure LeaseClaim where
  fields : RawClaim
  ok : ClaimOk fields

namespace LeaseClaim

def str (c : LeaseClaim) (k : String) : String := (PyVal.nonemptyStr (c.fields.get? k)).getD ""
def nat (c : LeaseClaim) (k : String) : Nat := (PyVal.nonnegInt (c.fields.get? k)).getD 0

def claimId (c : LeaseClaim) : String := c.str "claim_id"
def sourceLeaseId (c : LeaseClaim) : String := c.str "source_lease_id"
def donorTaskId (c : LeaseClaim) : String := c.str "donor_task_id"
def donorReplicaRank (c : LeaseClaim) : Nat := c.nat "donor_replica_rank"
def pgId (c : LeaseClaim) : String := c.str "pg_id"
def nodeId (c : LeaseClaim) : String := c.str "node_id"
def gpuUuid (c : LeaseClaim) : String := c.str "gpu_uuid"
def bundleIndex (c : LeaseClaim) : Nat := c.nat "bundle_index"
def bundleKey (c : LeaseClaim) : String × Nat := (c.pgId, c.bundleIndex)
def donorReplica (c : LeaseClaim) : String × Nat := (c.donorTaskId, c.donorReplicaRank)

/-- `claim == claim'`. -/
def same (c d : LeaseClaim) : Bool := RawClaim.same c.fields d.fields

end LeaseClaim

/-- The body of the claim loop of `Lease.__post_init__` (contracts.py:210-276). -/
def RawClaim.normalize (claim : RawClaim) : Except PyErr LeaseClaim :=
  let source := claim.get? "source_lease_id"
  let legacy := claim.get? "lease_id"
  let sourceLeaseId := if PyVal.orNone source = .none then legacy else source
  let normalized := (((claim.insert "gpu_fraction" (.float (1 / 2))).insert
    "cpu_request" (.float 1)).insert "source_lease_id" (PyVal.orNone sourceLeaseId)).erase "lease_id"
  if claim.entries = [] then throw (.valueError "lease claims must be nonempty")
  else if h₁ : PyVal.nonemptyStr (claim.get? "claim_id") = none then
    throw (.valueError "each claim requires a nonempty claim_id")
  else if PyVal.orNone source ≠ .none ∧ PyVal.orNone legacy ≠ .none ∧
      ¬ (PyVal.orNone legacy).eqv (PyVal.orNone source) then
    throw (.valueError "claim lease_id conflicts with source_lease_id")
  else if h₂ : PyVal.nonemptyStr sourceLeaseId = none then
    throw (.valueError "each claim requires a nonempty source_lease_id")
  else if h₃ : PyVal.nonemptyStr (claim.get? "donor_task_id") = none then
    throw (.valueError "each claim requires a nonempty donor_task_id")
  else if h₄ : PyVal.nonnegInt (claim.get? "donor_replica_rank") = none then
    throw (.valueError "each claim requires a nonnegative integer donor_replica_rank")
  else if h₅ : PyVal.nonemptyStr (claim.get? "pg_id") = none then
    throw (.valueError "each claim requires a nonempty pg_id")
  else if h₆ : PyVal.nonemptyStr (claim.get? "node_id") = none then
    throw (.valueError "each claim requires a nonempty node_id")
  else if h₇ : PyVal.nonemptyStr (claim.get? "gpu_uuid") = none then
    throw (.valueError "each claim requires a nonempty gpu_uuid")
  else if h₈ : PyVal.nonnegInt (claim.get? "bundle_index") = none then
    throw (.valueError "each claim requires a nonnegative integer bundle_index")
  else if PyVal.number ((claim.get? "gpu_fraction").getD (.float (1 / 2))) ≠ some (1 / 2) then
    throw (.valueError "first release requires the Ray GPU accounting share 0.5")
  else if PyVal.number ((claim.get? "cpu_request").getD (.float 1)) ≠ some 1 then
    throw (.valueError "first release requires cpu_request=1.0")
  else
    return ⟨normalized, by
      simp only [← ne_eq, ← Option.isSome_iff_ne_none] at h₁ h₂ h₃ h₄ h₅ h₆ h₇ h₈
      constructor <;>
        simp [normalized, Dict.get?_insert, Dict.get?_erase, PyVal.nonemptyStr_orNone] <;> assumption⟩

namespace LeaseClaim

theorem source_ne (c : LeaseClaim) :
    ∃ v, c.fields.get? "source_lease_id" = some v ∧ v ≠ .none := by
  have h := c.ok.sourceLeaseId
  cases hv : c.fields.get? "source_lease_id" with
  | none => rw [hv] at h; cases h
  | some v => exact ⟨v, rfl, by rintro rfl; rw [hv] at h; cases h⟩

/-- A normalized claim passes the checks again, and its copy is equal to it. -/
theorem normalize_fields (c : LeaseClaim) :
    ∃ d, c.fields.normalize = .ok d ∧ ∀ k, d.fields.get? k = c.fields.get? k := by
  obtain ⟨v, hv, hv'⟩ := c.source_ne
  obtain ⟨h₁, h₂, h₃, h₄, h₅, h₆, h₇, h₈, h₉, h₁₀, h₁₁⟩ := c.ok
  have hne : c.fields.entries ≠ [] := by
    intro he
    simp [Dict.get?, Dict.find, he, PyVal.nonemptyStr] at h₁
  have hs : PyVal.orNone (c.fields.get? "source_lease_id") ≠ .none := by
    simpa [hv, PyVal.orNone] using hv'
  simp only [Option.isSome_iff_ne_none] at h₁ h₂ h₃ h₄ h₅ h₆ h₇ h₈
  unfold RawClaim.normalize
  dsimp only
  rw [if_neg hne, dif_neg h₁, if_neg (by simp [h₁₁, PyVal.orNone]),
    dif_neg (by simpa only [hs, if_false] using h₂), dif_neg h₃, dif_neg h₄, dif_neg h₅, dif_neg h₆,
    dif_neg h₇, dif_neg h₈, if_neg (by simp [h₉, PyVal.number]), if_neg (by simp [h₁₀, PyVal.number])]
  refine ⟨_, rfl, fun k => ?_⟩
  -- every field the constructor writes already has the value it writes
  simp only [hs, if_false, Dict.get?_erase, Dict.get?_insert]
  split
  · rename_i hk; rw [← hk, h₁₁]
  split
  · rename_i hk; rw [← hk, hv]; rfl
  split
  · rename_i hk; rw [← hk, h₁₀]
  split
  · rename_i hk; rw [← hk, h₉]
  rfl

end LeaseClaim

/-- `Lease` (contracts.py:199): the cross-claim checks of `__post_init__` as fields. -/
structure Lease where
  leaseId : String
  claims : List LeaseClaim
  expiresAt : Nat
  leaseId_ne : leaseId ≠ ""
  claims_ne : claims ≠ []
  claimIds_nodup : (claims.map LeaseClaim.claimId).Nodup
  gpuUuids_nodup : (claims.map LeaseClaim.gpuUuid).Nodup
  bundleKeys_nodup : (claims.map LeaseClaim.bundleKey).Nodup
  one_donor : ∀ c ∈ claims, ∀ d ∈ claims, c.donorReplica = d.donorReplica

namespace Lease

def claimIds (l : Lease) : List String := l.claims.map LeaseClaim.claimId
def bundleKeys (l : Lease) : List (String × Nat) := l.claims.map LeaseClaim.bundleKey
def gpuUuids (l : Lease) : List String := l.claims.map LeaseClaim.gpuUuid

/-- `lease.claims[0]`. -/
def firstClaim (l : Lease) : LeaseClaim := l.claims.head l.claims_ne

/-- The constructor on claims that are already normalized (contracts.py:277-306). -/
def ofClaims (leaseId : String) (claims : List LeaseClaim) (expiresAt : Nat) :
    Except PyErr Lease :=
  if h₁ : leaseId = "" then throw (.valueError "lease_id must be a nonempty string")
  else if h₂ : claims = [] then throw (.valueError "Lease requires at least one claim")
  else if h₃ : ¬ (claims.map LeaseClaim.claimId).Nodup then
    throw (.valueError "lease claims must not repeat claim_id")
  else if h₄ : ¬ (claims.map LeaseClaim.gpuUuid).Nodup then
    throw (.valueError "lease claims must not repeat gpu_uuid")
  else if h₅ : ¬ (claims.map LeaseClaim.bundleKey).Nodup then
    throw (.valueError "lease claims must not repeat a PG bundle")
  else if h₆ : ¬ ∀ c ∈ claims, ∀ d ∈ claims, c.donorReplica = d.donorReplica then
    throw (.valueError "first release Lease must cover one complete donor replica")
  else
    return ⟨leaseId, claims, expiresAt, h₁, h₂, not_not.1 h₃, not_not.1 h₄, not_not.1 h₅,
      not_not.1 h₆⟩

/-- `Lease(lease_id, claims, expires_at)`. -/
def make (leaseId : String) (claims : List RawClaim) (expiresAt : Nat) : Except PyErr Lease := do
  let claims ← claims.mapM RawClaim.normalize
  ofClaims leaseId claims expiresAt

/-- `lease == lease'`: dataclass equality, with Python's equality on the claim dicts. -/
def same (l m : Lease) : Bool :=
  l.leaseId = m.leaseId && l.expiresAt = m.expiresAt &&
    l.claims.length = m.claims.length && (l.claims.zip m.claims).all (fun p => p.1.same p.2)

/-- Normalizing normalized claims gives them back, up to the order of their fields. -/
theorem mapM_normalize (cs : List LeaseClaim) :
    ∃ ds, (cs.map LeaseClaim.fields).mapM RawClaim.normalize = .ok ds ∧
      List.Forall₂ (fun d c : LeaseClaim => ∀ k, d.fields.get? k = c.fields.get? k) ds cs := by
  induction cs with
  | nil => exact ⟨[], rfl, .nil⟩
  | cons c cs ih =>
    obtain ⟨d, hd, hs⟩ := c.normalize_fields
    obtain ⟨ds, hds, hf⟩ := ih
    refine ⟨d :: ds, ?_, .cons hs hf⟩
    rw [List.map_cons, List.mapM_cons, hd, hds]
    rfl

theorem map_eq_of_same {β : Type} {f : LeaseClaim → β}
    (hf : ∀ c d : LeaseClaim, (∀ k, d.fields.get? k = c.fields.get? k) → f d = f c)
    {cs ds : List LeaseClaim}
    (h : List.Forall₂ (fun d c : LeaseClaim => ∀ k, d.fields.get? k = c.fields.get? k) ds cs) :
    ds.map f = cs.map f := by
  induction h with
  | nil => rfl
  | cons h _ ih => rw [List.map_cons, List.map_cons, hf _ _ h, ih]

/-- A lease can always be copied through its constructor: the copy raises nothing. -/
theorem make_isOk (l : Lease) :
    ∃ m, make l.leaseId (l.claims.map LeaseClaim.fields) l.expiresAt = .ok m := by
  obtain ⟨ds, hds, hf⟩ := mapM_normalize l.claims
  have hstr : ∀ n, ∀ c d : LeaseClaim, (∀ k, d.fields.get? k = c.fields.get? k) →
      d.str n = c.str n := fun n c d h => by simp only [LeaseClaim.str, h]
  have hnat : ∀ n, ∀ c d : LeaseClaim, (∀ k, d.fields.get? k = c.fields.get? k) →
      d.nat n = c.nat n := fun n c d h => by simp only [LeaseClaim.nat, h]
  have hclaim : ds.map LeaseClaim.claimId = l.claims.map LeaseClaim.claimId :=
    map_eq_of_same (hstr _) hf
  have hgpu : ds.map LeaseClaim.gpuUuid = l.claims.map LeaseClaim.gpuUuid :=
    map_eq_of_same (hstr _) hf
  have hbundle : ds.map LeaseClaim.bundleKey = l.claims.map LeaseClaim.bundleKey :=
    map_eq_of_same (fun c d h => Prod.ext (hstr _ c d h) (hnat _ c d h)) hf
  have hdonor : ds.map LeaseClaim.donorReplica = l.claims.map LeaseClaim.donorReplica :=
    map_eq_of_same (fun c d h => Prod.ext (hstr _ c d h) (hnat _ c d h)) hf
  have hne : ds ≠ [] := by
    rintro rfl
    exact l.claims_ne (List.map_eq_nil_iff.1 hclaim.symm)
  have hone : ∀ c ∈ ds, ∀ d ∈ ds, c.donorReplica = d.donorReplica := by
    intro c hc d hd
    have hc' := List.mem_map_of_mem (f := LeaseClaim.donorReplica) hc
    have hd' := List.mem_map_of_mem (f := LeaseClaim.donorReplica) hd
    rw [hdonor] at hc' hd'
    obtain ⟨c', hc', e⟩ := List.mem_map.1 hc'
    obtain ⟨d', hd', e'⟩ := List.mem_map.1 hd'
    rw [← e, ← e']
    exact l.one_donor c' hc' d' hd'
  refine ⟨⟨l.leaseId, ds, l.expiresAt, l.leaseId_ne, hne, hclaim ▸ l.claimIds_nodup,
    hgpu ▸ l.gpuUuids_nodup, hbundle ▸ l.bundleKeys_nodup, hone⟩, ?_⟩
  unfold make
  rw [hds]
  show ofClaims _ ds _ = _
  unfold ofClaims
  rw [dif_neg l.leaseId_ne, dif_neg hne, dif_neg (not_not.2 (hclaim ▸ l.claimIds_nodup)),
    dif_neg (not_not.2 (hgpu ▸ l.gpuUuids_nodup)),
    dif_neg (not_not.2 (hbundle ▸ l.bundleKeys_nodup)), dif_neg (not_not.2 hone)]
  rfl

theorem claims_pos (l : Lease) : ∃ c, c ∈ l.claims := List.exists_mem_of_ne_nil _ l.claims_ne

theorem exists_gpu (l : Lease) : ∃ g, g ∈ l.gpuUuids := by
  obtain ⟨c, hc⟩ := l.claims_pos
  exact ⟨_, List.mem_map_of_mem hc⟩

end Lease

end ReplicaLending
