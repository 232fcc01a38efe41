import Mathlib.Data.Rat.Floor
import ReplicaLending.Scheduler.Ledger
/-!
# The canonical form of a lease

`Lease.__post_init__` (contracts.py:206-299) rewrites what it is given: defaults are filled in, the
legacy spelling `lease_id` of a claim becomes `source_lease_id`, `expires_at` becomes a float. The
ledger compares leases after that rewriting, so a replay is exact only if the rewriting forgets how
the arguments were spelled and leaves its own output alone.

| here | there |
| --- | --- |
| `LeaseArgs.build`            | `Lease(lease_id, claims, expires_at)`, `none` when it raises |
| `RawClaim.Passes`            | the checks of the claim loop (:211-267) |
| `RawClaim.canonical`         | `normalized`, key by key (:269-273) |
| `Lease.args`                 | `lease.lease_id, lease.claims, lease.expires_at` |
| `LeaseArgs.Respelled`        | the same triple in other words |

A tick is `2 ^ -1074` seconds, the smallest positive double, so that every finite `expires_at` is a
whole number of ticks.
-/

namespace ReplicaLending

/-! ## `expires_at` -/

def ticksPerSecond : Nat := 2 ^ 1074

/-- `float(n)` of an `int`: the nearest double, of two the even one. `none` is the
`OverflowError`. -/
def floatOfNat (n : Nat) : Option Nat :=
  let ulp := 2 ^ (n.log2 - 52)
  let q := n / ulp
  let r := n % ulp
  let m := if ulp < 2 * r ∨ 2 * r = ulp ∧ q % 2 = 1 then q + 1 else q
  if m * ulp < 2 ^ 1024 then some (m * ulp) else none

/-- `float(expires_at)` in ticks, when the checks of contracts.py:291-296 pass. An infinite or
undefined float is an `other` value here and fails them. -/
def PyVal.ticks : PyVal → Option Nat
  | .int n => if n < 0 then Option.none else (floatOfNat n.toNat).map (· * ticksPerSecond)
  | .float q => if q < 0 then Option.none else some ⌊q * ticksPerSecond⌋.toNat
  | _ => Option.none

theorem ticks_float (t : Nat) : PyVal.ticks (.float (t / ticksPerSecond)) = some t := by
  have hpos : (ticksPerSecond : ℚ) ≠ 0 := Nat.cast_ne_zero.2 (by decide +kernel)
  have hneg : ¬ ((t : ℚ) / ticksPerSecond < 0) :=
    not_lt.2 (div_nonneg t.cast_nonneg (Nat.cast_nonneg _))
  simp only [PyVal.ticks, if_neg hneg, div_mul_cancel₀ _ hpos, Int.floor_natCast, Int.toNat_natCast]

/-- The number zero is zero ticks, whichever way it is written. -/
theorem ticks_of_number_zero {v : PyVal} (h : v.number = some 0) : v.ticks = some 0 := by
  cases v with
  | int n =>
    have hn : n = 0 := by simpa [PyVal.number] using h
    subst hn
    decide +kernel
  | float q =>
    have hq : q = 0 := by simpa [PyVal.number] using h
    subst hq
    simp only [PyVal.ticks, lt_irrefl, if_false, zero_mul, Int.floor_zero, Int.toNat_zero]
  | none => cases h
  | bool b => cases h
  | str s => cases h
  | other t => cases h

/-! ## Guards that raise -/

section
variable {ε α : Type} {p : Prop} [Decidable p] {e : ε} {a : α}

theorem ite_throw_ok {k : Except ε α} : (if p then throw e else k) = .ok a ↔ ¬ p ∧ k = .ok a := by
  by_cases h : p
  · simp [h, throw, throwThe, MonadExceptOf.throw]
  · simp [h]

theorem dite_throw_ok {k : ¬ p → Except ε α} :
    (if h : p then throw e else k h) = .ok a ↔ ∃ h : ¬ p, k h = .ok a := by
  by_cases h : p
  · simp [h, throw, throwThe, MonadExceptOf.throw]
  · simp [h]

end

/-! ## One claim -/

namespace RawClaim

/-- `claim.get("source_lease_id")`. -/
def source (c : RawClaim) : PyVal := PyVal.orNone (c.get? "source_lease_id")

/-- `claim.get("lease_id")`, the legacy spelling. -/
def legacy (c : RawClaim) : PyVal := PyVal.orNone (c.get? "lease_id")

/-- The donor lease a claim names, after the fallback to the legacy field (:217-225). -/
def donorLease (c : RawClaim) : PyVal := if c.source = .none then c.legacy else c.source

/-- The checks of the claim loop, on the mapping as it was written. -/
structure Passes (c : RawClaim) : Prop where
  claimId : (PyVal.nonemptyStr (c.get? "claim_id")).isSome
  unambiguous : c.source = .none ∨ c.legacy = .none ∨ c.legacy.eqv c.source = true
  donorLease : (PyVal.nonemptyStr (some c.donorLease)).isSome
  donorTaskId : (PyVal.nonemptyStr (c.get? "donor_task_id")).isSome
  donorReplicaRank : (PyVal.nonnegInt (c.get? "donor_replica_rank")).isSome
  pgId : (PyVal.nonemptyStr (c.get? "pg_id")).isSome
  nodeId : (PyVal.nonemptyStr (c.get? "node_id")).isSome
  gpuUuid : (PyVal.nonemptyStr (c.get? "gpu_uuid")).isSome
  bundleIndex : (PyVal.nonnegInt (c.get? "bundle_index")).isSome
  gpuFraction : PyVal.number ((c.get? "gpu_fraction").getD (.float (1 / 2))) = some (1 / 2)
  cpuRequest : PyVal.number ((c.get? "cpu_request").getD (.float 1)) = some 1

/-- `normalized.get(k)`. -/
def canonical (c : RawClaim) (k : String) : Option PyVal :=
  if "lease_id" = k then none
  else if "source_lease_id" = k then some c.donorLease
  else if "cpu_request" = k then some (.float 1)
  else if "gpu_fraction" = k then some (.float (1 / 2))
  else c.get? k

/-- The mapping `normalize` returns, read key by key. -/
theorem get?_normalized (c : RawClaim) (k : String) :
    ((((c.insert "gpu_fraction" (.float (1 / 2))).insert "cpu_request" (.float 1)).insert
      "source_lease_id" (PyVal.orNone (if PyVal.orNone (c.get? "source_lease_id") = .none then
        c.get? "lease_id" else c.get? "source_lease_id"))).erase "lease_id").get? k =
      c.canonical k := by
  simp only [Dict.get?_erase, Dict.get?_insert, canonical, donorLease, source, legacy,
    apply_ite PyVal.orNone]
  rfl

theorem nonemptyStr_donorLease (c : RawClaim) :
    PyVal.nonemptyStr (some c.donorLease) =
      PyVal.nonemptyStr (if PyVal.orNone (c.get? "source_lease_id") = .none then
        c.get? "lease_id" else c.get? "source_lease_id") := by
  unfold donorLease source legacy
  split <;> exact PyVal.nonemptyStr_orNone _

/-- A conflict between the two spellings is one between what they hold. -/
theorem conflict_iff (c : RawClaim) :
    (PyVal.orNone (c.get? "source_lease_id") ≠ .none ∧ PyVal.orNone (c.get? "lease_id") ≠ .none ∧
      ¬ (PyVal.orNone (c.get? "lease_id")).eqv (PyVal.orNone (c.get? "source_lease_id"))) ↔
        ¬ (c.source = .none ∨ c.legacy = .none ∨ c.legacy.eqv c.source = true) := by
  simp only [source, legacy, not_or, ne_eq]

theorem Passes.normalize {c : RawClaim} (h : c.Passes) :
    ∃ d, c.normalize = .ok d ∧ ∀ k, d.fields.get? k = c.canonical k := by
  obtain ⟨h₁, h₂, h₃, h₄, h₅, h₆, h₇, h₈, h₉, h₁₀, h₁₁⟩ := h
  have hne : c.entries ≠ [] := by
    intro he
    simp [Dict.get?, Dict.find, he, PyVal.nonemptyStr] at h₁
  rw [nonemptyStr_donorLease] at h₃
  simp only [Option.isSome_iff_ne_none] at h₁ h₃ h₄ h₅ h₆ h₇ h₈ h₉
  unfold RawClaim.normalize
  dsimp only
  rw [if_neg hne, dif_neg h₁, if_neg (mt (conflict_iff c).1 (not_not.2 h₂)), dif_neg h₃, dif_neg h₄,
    dif_neg h₅, dif_neg h₆, dif_neg h₇, dif_neg h₈, dif_neg h₉, if_neg (not_not.2 h₁₀),
    if_neg (not_not.2 h₁₁)]
  exact ⟨_, rfl, c.get?_normalized⟩

theorem passes_of_normalize {c : RawClaim} {d : LeaseClaim} (h : c.normalize = .ok d) :
    c.Passes := by
  simp only [RawClaim.normalize, ite_throw_ok, dite_throw_ok] at h
  obtain ⟨-, h₁, h₂, h₃, h₄, h₅, h₆, h₇, h₈, h₉, h₁₀, h₁₁, -⟩ := h
  refine ⟨Option.isSome_iff_ne_none.2 h₁, not_not.1 (mt (conflict_iff c).2 h₂), ?_,
    Option.isSome_iff_ne_none.2 h₄, Option.isSome_iff_ne_none.2 h₅, Option.isSome_iff_ne_none.2 h₆,
    Option.isSome_iff_ne_none.2 h₇, Option.isSome_iff_ne_none.2 h₈, Option.isSome_iff_ne_none.2 h₉,
    not_not.1 h₁₀, not_not.1 h₁₁⟩
  rw [nonemptyStr_donorLease]
  exact Option.isSome_iff_ne_none.2 h₃

/-! ## Spellings -/

/-- The claim writes the donor lease `v` under `source_lease_id`, under the legacy `lease_id`, or
under both. -/
def Spells (c : RawClaim) (v : PyVal) : Prop :=
  c.source = v ∧ c.legacy = .none ∨ c.source = .none ∧ c.legacy = v ∨ c.source = v ∧ c.legacy = v

/-- Two ways to write a field that has a default: the same, or each of them leaves it out or
writes the number that is the default. -/
def Defaulted (default : PyVal) (v w : Option PyVal) : Prop :=
  v = w ∨ (v.getD default).number = default.number ∧ (w.getD default).number = default.number

/-- Two claims that differ only in the spelling of the donor lease and in omitted defaults. -/
structure Respelled (c d : RawClaim) : Prop where
  donorLease : (∃ v, c.Spells v ∧ d.Spells v) ∨
    c.get? "source_lease_id" = d.get? "source_lease_id" ∧ c.get? "lease_id" = d.get? "lease_id"
  gpuFraction : Defaulted (.float (1 / 2)) (c.get? "gpu_fraction") (d.get? "gpu_fraction")
  cpuRequest : Defaulted (.float 1) (c.get? "cpu_request") (d.get? "cpu_request")
  others : ∀ k, k ∉ ["source_lease_id", "lease_id", "gpu_fraction", "cpu_request"] →
    c.get? k = d.get? k

theorem Defaulted.symm {x : PyVal} {v w : Option PyVal} (h : Defaulted x v w) : Defaulted x w v :=
  h.imp Eq.symm And.symm

theorem Defaulted.number {x : PyVal} {v w : Option PyVal} (h : Defaulted x v w) :
    (v.getD x).number = (w.getD x).number := by
  rcases h with rfl | ⟨hv, hw⟩
  · rfl
  · rw [hv, hw]

theorem Respelled.symm {c d : RawClaim} (h : c.Respelled d) : d.Respelled c where
  donorLease := h.donorLease.imp (fun ⟨v, hc, hd⟩ => ⟨v, hd, hc⟩) fun ⟨hs, hl⟩ => ⟨hs.symm, hl.symm⟩
  gpuFraction := h.gpuFraction.symm
  cpuRequest := h.cpuRequest.symm
  others k hk := (h.others k hk).symm

theorem Respelled.refl (c : RawClaim) : c.Respelled c :=
  ⟨.inr ⟨rfl, rfl⟩, .inl rfl, .inl rfl, fun _ _ => rfl⟩

theorem Spells.donorLease {c : RawClaim} {v : PyVal} (h : c.Spells v) : c.donorLease = v := by
  unfold RawClaim.donorLease
  rcases h with ⟨hs, hl⟩ | ⟨hs, hl⟩ | ⟨hs, hl⟩
  · by_cases hv : v = .none
    · rw [hs, hl, if_pos hv, hv]
    · rw [hs, if_neg hv]
  · rw [hs, if_pos rfl, hl]
  · rw [hs, hl, ite_self]

theorem Spells.unambiguous {c : RawClaim} {v : PyVal} (h : c.Spells v) :
    c.source = .none ∨ c.legacy = .none ∨ c.legacy.eqv c.source = true := by
  rcases h with ⟨-, hl⟩ | ⟨hs, -⟩ | ⟨hs, hl⟩
  · exact .inr (.inl hl)
  · exact .inl hs
  · rw [hs, hl]
    exact .inr (.inr (PyVal.eqv_refl v))

variable {c d : RawClaim}

theorem Respelled.donorLease_eq (h : c.Respelled d) : c.donorLease = d.donorLease := by
  rcases h.donorLease with ⟨v, hc, hd⟩ | ⟨hs, hl⟩
  · rw [hc.donorLease, hd.donorLease]
  · unfold RawClaim.donorLease source legacy
    rw [hs, hl]

/-- The checks do not see the spelling. -/
theorem Respelled.passes (h : c.Respelled d) (hc : c.Passes) : d.Passes := by
  have hk : ∀ k, k ∉ ["source_lease_id", "lease_id", "gpu_fraction", "cpu_request"] →
      d.get? k = c.get? k := fun k hk => (h.others k hk).symm
  constructor
  · rw [hk _ (by decide)]; exact hc.claimId
  · rcases h.donorLease with ⟨v, -, hd⟩ | ⟨hs, hl⟩
    · exact hd.unambiguous
    · have hu := hc.unambiguous
      unfold source legacy at hu ⊢
      rwa [← hs, ← hl]
  · rw [← h.donorLease_eq]; exact hc.donorLease
  · rw [hk _ (by decide)]; exact hc.donorTaskId
  · rw [hk _ (by decide)]; exact hc.donorReplicaRank
  · rw [hk _ (by decide)]; exact hc.pgId
  · rw [hk _ (by decide)]; exact hc.nodeId
  · rw [hk _ (by decide)]; exact hc.gpuUuid
  · rw [hk _ (by decide)]; exact hc.bundleIndex
  · rw [← h.gpuFraction.number]; exact hc.gpuFraction
  · rw [← h.cpuRequest.number]; exact hc.cpuRequest

theorem Respelled.canonical_eq (h : c.Respelled d) (k : String) :
    c.canonical k = d.canonical k := by
  unfold canonical
  rw [h.donorLease_eq]
  split
  · rfl
  split
  · rfl
  split
  · rfl
  split
  · rfl
  refine h.others k fun hm => ?_
  simp only [List.mem_cons, List.not_mem_nil, or_false] at hm
  rcases hm with rfl | rfl | rfl | rfl <;> contradiction

/-- Respelled claims are accepted alike and normalize to equal mappings. -/
theorem Respelled.normalize (h : c.Respelled d) {c' : LeaseClaim} (hc : c.normalize = .ok c') :
    ∃ d', d.normalize = .ok d' ∧ ∀ k, c'.fields.get? k = d'.fields.get? k := by
  have hp := passes_of_normalize hc
  obtain ⟨c₁, hc₁, hk⟩ := hp.normalize
  obtain rfl : c' = c₁ := Except.ok.inj (hc.symm.trans hc₁)
  obtain ⟨d', hd, hk'⟩ := (h.passes hp).normalize
  exact ⟨d', hd, fun k => by rw [hk, hk', h.canonical_eq]⟩

end RawClaim

/-! ## A lease -/

/-- The arguments of `Lease(…)` as the caller writes them; `expires_at` may be left out. -/
structure LeaseArgs where
  leaseId : PyVal
  claims : List RawClaim
  expiresAt : Option PyVal

namespace LeaseArgs

/-- `Lease(lease_id, claims, expires_at)`, `none` when it raises. -/
def build (a : LeaseArgs) : Option Lease := do
  let leaseId ← PyVal.nonemptyStr (some a.leaseId)
  let expiresAt ← (a.expiresAt.getD (.float 0)).ticks
  (Lease.make leaseId a.claims expiresAt).toOption

/-- Two triples that differ only in spellings and omitted defaults. -/
structure Respelled (a b : LeaseArgs) : Prop where
  leaseId : a.leaseId = b.leaseId
  claims : List.Forall₂ RawClaim.Respelled a.claims b.claims
  expiresAt : RawClaim.Defaulted (.float 0) a.expiresAt b.expiresAt

theorem Respelled.symm {a b : LeaseArgs} (h : a.Respelled b) : b.Respelled a :=
  ⟨h.leaseId.symm, h.claims.flip.imp fun _ _ hc => hc.symm, h.expiresAt.symm⟩

theorem Respelled.refl (a : LeaseArgs) : a.Respelled a :=
  ⟨rfl, List.forall₂_same.2 fun c _ => .refl c, .inl rfl⟩

theorem build_eq_some {a : LeaseArgs} {l : Lease} :
    a.build = some l ↔ ∃ id t, PyVal.nonemptyStr (some a.leaseId) = some id ∧
      (a.expiresAt.getD (.float 0)).ticks = some t ∧ Lease.make id a.claims t = .ok l := by
  simp only [build, Option.bind_eq_bind, Option.bind_eq_some_iff]
  constructor
  · rintro ⟨id, hid, t, ht, hl⟩
    cases hm : Lease.make id a.claims t with
    | error e => rw [hm] at hl; cases hl
    | ok m => rw [hm] at hl; cases hl; exact ⟨id, t, hid, ht, hm⟩
  · rintro ⟨id, t, hid, ht, hl⟩
    exact ⟨id, hid, t, ht, by rw [hl]; rfl⟩

theorem ticks_defaulted {v w : Option PyVal} (h : RawClaim.Defaulted (.float 0) v w) :
    (v.getD (.float 0)).ticks = (w.getD (.float 0)).ticks := by
  rcases h with rfl | ⟨hv, hw⟩
  · rfl
  · rw [ticks_of_number_zero hv, ticks_of_number_zero hw]

end LeaseArgs

namespace Lease

/-- Claims that agree field by field. -/
def SameClaims : List LeaseClaim → List LeaseClaim → Prop :=
  List.Forall₂ fun c d => ∀ k, c.fields.get? k = d.fields.get? k

/-- Leases that agree field by field. -/
structure Alike (l m : Lease) : Prop where
  leaseId : l.leaseId = m.leaseId
  expiresAt : l.expiresAt = m.expiresAt
  claims : SameClaims l.claims m.claims

theorem same_iff {l m : Lease} :
    l.same m = true ↔ l.leaseId = m.leaseId ∧ l.expiresAt = m.expiresAt ∧
      List.Forall₂ (fun c d => c.same d = true) l.claims m.claims := by
  simp only [same, Bool.and_eq_true, decide_eq_true_eq, List.forall₂_iff_zip, List.all_eq_true]
  constructor
  · rintro ⟨⟨⟨hi, ht⟩, hl⟩, ha⟩
    exact ⟨hi, ht, hl, fun hm => ha _ hm⟩
  · rintro ⟨hi, ht, hl, ha⟩
    exact ⟨⟨⟨hi, ht⟩, hl⟩, fun p hp => ha hp⟩

theorem SameClaims.symm {cs ds : List LeaseClaim} (h : SameClaims cs ds) : SameClaims ds cs :=
  h.flip.imp fun _ _ hk k => (hk k).symm

theorem Alike.same {l m : Lease} (h : l.Alike m) : l.same m = true :=
  same_iff.2 ⟨h.leaseId, h.expiresAt, h.claims.imp fun _ _ hk => RawClaim.same_of_get? hk⟩

theorem same_symm {l m : Lease} (h : l.same m = true) : m.same l = true :=
  have ⟨hi, ht, hc⟩ := same_iff.1 h
  same_iff.2 ⟨hi.symm, ht.symm, hc.flip.imp fun _ _ => Dict.same_symm PyVal.eqv_symm⟩

theorem forall₂_trans {α : Type} {R : α → α → Prop} (hR : ∀ {a b c}, R a b → R b c → R a c)
    {as bs cs : List α} (h : List.Forall₂ R as bs) (h' : List.Forall₂ R bs cs) :
    List.Forall₂ R as cs := by
  induction h generalizing cs with
  | nil => exact h'
  | cons hab _ ih =>
    cases h' with
    | cons hbc h' => exact .cons (hR hab hbc) (ih h')

theorem same_trans {l m n : Lease} (h : l.same m = true) (h' : m.same n = true) :
    l.same n = true :=
  have ⟨hi, ht, hc⟩ := same_iff.1 h
  have ⟨hi', ht', hc'⟩ := same_iff.1 h'
  same_iff.2 ⟨hi.trans hi', ht.trans ht', forall₂_trans (R := fun c d => LeaseClaim.same c d = true)
    (fun hk hk' => Dict.same_trans PyVal.eqv_trans hk hk') hc hc'⟩

theorem ofClaims_ok {id : String} {cs : List LeaseClaim} {t : Nat} {l : Lease}
    (h : ofClaims id cs t = .ok l) : l.leaseId = id ∧ l.claims = cs ∧ l.expiresAt = t := by
  simp only [ofClaims, dite_throw_ok] at h
  obtain ⟨_, _, _, _, _, _, h⟩ := h
  cases h
  exact ⟨rfl, rfl, rfl⟩

/-- The checks across claims read fields only, so equal claims make equal leases. -/
theorem ofClaims_alike {id : String} {cs ds : List LeaseClaim} {t : Nat} {l : Lease}
    (h : ofClaims id cs t = .ok l) (hs : SameClaims cs ds) :
    ∃ m, ofClaims id ds t = .ok m ∧ l.Alike m := by
  obtain ⟨rfl, rfl, rfl⟩ := ofClaims_ok h
  have hstr : ∀ n, ∀ c d : LeaseClaim, (∀ k, d.fields.get? k = c.fields.get? k) →
      d.str n = c.str n := fun n c d h => by simp only [LeaseClaim.str, h]
  have hnat : ∀ n, ∀ c d : LeaseClaim, (∀ k, d.fields.get? k = c.fields.get? k) →
      d.nat n = c.nat n := fun n c d h => by simp only [LeaseClaim.nat, h]
  have hclaim : ds.map LeaseClaim.claimId = l.claims.map LeaseClaim.claimId :=
    map_eq_of_same (hstr _) hs.symm
  have hgpu : ds.map LeaseClaim.gpuUuid = l.claims.map LeaseClaim.gpuUuid :=
    map_eq_of_same (hstr _) hs.symm
  have hbundle : ds.map LeaseClaim.bundleKey = l.claims.map LeaseClaim.bundleKey :=
    map_eq_of_same (fun c d h => Prod.ext (hstr _ c d h) (hnat _ c d h)) hs.symm
  have hdonor : ds.map LeaseClaim.donorReplica = l.claims.map LeaseClaim.donorReplica :=
    map_eq_of_same (fun c d h => Prod.ext (hstr _ c d h) (hnat _ c d h)) hs.symm
  have hone : ∀ x ∈ ds.map LeaseClaim.donorReplica, ∀ y ∈ ds.map LeaseClaim.donorReplica, x = y := by
    rw [hdonor]
    simpa only [List.forall_mem_map] using l.one_donor
  have hne : ds ≠ [] := by
    rintro rfl
    exact l.claims_ne (List.map_eq_nil_iff.1 hclaim.symm)
  refine ⟨⟨l.leaseId, ds, l.expiresAt, l.leaseId_ne, hne, hclaim ▸ l.claimIds_nodup,
    hgpu ▸ l.gpuUuids_nodup, hbundle ▸ l.bundleKeys_nodup,
    by simpa only [List.forall_mem_map] using hone⟩, ?_, ⟨rfl, rfl, hs⟩⟩
  simp only [ofClaims, dite_throw_ok]
  exact ⟨l.leaseId_ne, hne, not_not.2 (hclaim ▸ l.claimIds_nodup),
    not_not.2 (hgpu ▸ l.gpuUuids_nodup), not_not.2 (hbundle ▸ l.bundleKeys_nodup),
    not_not.2 (by simpa only [List.forall_mem_map] using hone), rfl⟩

/-- A loop that succeeds on one list succeeds on a related one, with related results. -/
theorem mapM_forall₂ {α β ε : Type} {f : α → Except ε β} {R : α → α → Prop} {S : β → β → Prop}
    (hf : ∀ a b x, R a b → f a = .ok x → ∃ y, f b = .ok y ∧ S x y) {as bs : List α}
    (h : List.Forall₂ R as bs) : ∀ {xs : List β}, as.mapM f = .ok xs →
      ∃ ys, bs.mapM f = .ok ys ∧ List.Forall₂ S xs ys := by
  induction h with
  | nil =>
    intro xs hx
    exact ⟨xs, hx, by cases hx; exact .nil⟩
  | cons hab _ ih =>
    intro xs hx
    rw [List.mapM_cons] at hx
    obtain ⟨x, hx₁, hx⟩ := except_bind_ok.1 hx
    obtain ⟨xs', hx₂, hx⟩ := except_bind_ok.1 hx
    obtain ⟨y, hy, hs⟩ := hf _ _ _ hab hx₁
    obtain ⟨ys, hys, hss⟩ := ih hx₂
    cases hx
    refine ⟨y :: ys, ?_, .cons hs hss⟩
    rw [List.mapM_cons, hy, hys]
    rfl

theorem make_alike {id : String} {cs ds : List RawClaim} {t : Nat} {l : Lease}
    (h : make id cs t = .ok l) (hr : List.Forall₂ RawClaim.Respelled cs ds) :
    ∃ m, make id ds t = .ok m ∧ l.Alike m := by
  obtain ⟨cs', hcs, hl⟩ := except_bind_ok.1 h
  obtain ⟨ds', hds, hs⟩ := mapM_forall₂ (fun _ _ _ hr hc => hr.normalize hc) hr hcs
  obtain ⟨m, hm, halike⟩ := ofClaims_alike hl hs
  exact ⟨m, except_bind_ok.2 ⟨ds', hds, hm⟩, halike⟩

/-- `lease.lease_id, lease.claims, lease.expires_at`. -/
def args (l : Lease) : LeaseArgs :=
  ⟨.str l.leaseId, l.claims.map LeaseClaim.fields, some (.float (l.expiresAt / ticksPerSecond))⟩

/-- A lease rebuilt from its own fields is accepted, and field by field the same. -/
theorem rebuild (l : Lease) : ∃ m, l.args.build = some m ∧ l.Alike m := by
  obtain ⟨ds, hds, hf⟩ := mapM_normalize l.claims
  have hl : ofClaims l.leaseId l.claims l.expiresAt = .ok l := by
    simp only [ofClaims, dite_throw_ok]
    exact ⟨l.leaseId_ne, l.claims_ne, not_not.2 l.claimIds_nodup, not_not.2 l.gpuUuids_nodup,
      not_not.2 l.bundleKeys_nodup, not_not.2 l.one_donor, rfl⟩
  obtain ⟨m, hm, halike⟩ := ofClaims_alike hl (SameClaims.symm hf)
  refine ⟨m, LeaseArgs.build_eq_some.2 ⟨l.leaseId, l.expiresAt, ?_, ticks_float _,
    except_bind_ok.2 ⟨ds, hds, hm⟩⟩, halike⟩
  simp only [args, PyVal.nonemptyStr, if_neg l.leaseId_ne]

end Lease

/-- Respelled arguments make equal leases. -/
theorem LeaseArgs.Respelled.build {a b : LeaseArgs} {l : Lease} (h : a.Respelled b)
    (hl : a.build = some l) : ∃ m, b.build = some m ∧ l.same m = true := by
  obtain ⟨id, t, hid, ht, hm⟩ := build_eq_some.1 hl
  obtain ⟨m, hm, hs⟩ := Lease.make_alike hm h.claims
  exact ⟨m, build_eq_some.2 ⟨id, t, h.leaseId ▸ hid, ticks_defaulted h.expiresAt ▸ ht, hm⟩, hs.same⟩

namespace GroupScheduler

variable {s t : GroupScheduler} {l m r : Lease}

/-- A copy made by `open_lease` has the fields of what it copies. -/
theorem copyLease_alike (h : copyLease l = .ok m) : l.Alike m := by
  obtain ⟨n, hn, hs⟩ := l.rebuild
  obtain ⟨id, e, hid, he, hm⟩ := LeaseArgs.build_eq_some.1 hn
  have hid' : l.leaseId = id := by
    simpa only [Lease.args, PyVal.nonemptyStr, if_neg l.leaseId_ne, Option.some.injEq] using hid
  have he' : l.expiresAt = e := Option.some.inj ((ticks_float _).symm.trans he)
  subst hid' he'
  obtain rfl : m = n := Except.ok.inj (h.symm.trans hm)
  exact hs

/-- An `open_lease` that answers leaves an equal lease in the ledger. -/
theorem openLease_records (h : (openLease l s).1 = .ok r) :
    ∃ e, (openLease l s).2.leases.get? l.leaseId = some e ∧ l.same e = true := by
  unfold openLease at h ⊢
  cases hg : s.leases.get? l.leaseId with
  | some e =>
    simp only [hg] at h ⊢
    split
    · exact ⟨e, hg, Lease.same_symm ‹_›⟩
    · rename_i hn
      rw [if_neg hn] at h
      cases h
  | none =>
    obtain ⟨m, hm⟩ := copyLease_isOk l
    simp only [hg, hm] at h ⊢
    cases hc : s.openLeaseCheck m with
    | error e =>
      rw [hc] at h
      cases h
    | ok u =>
      refine ⟨m, ?_, (copyLease_alike hm).same⟩
      simp only [opened, ← copyLease_leaseId hm, Dict.get?_insert_self]

/-- Opened once, a lease stays in the ledger and every equal lease is a replay of it. -/
theorem openLease_again (h : (openLease l s).1 = .ok r) (hrun : machine.Run (openLease l s).2 t)
    (hm : l.same m = true) : ∃ r', openLease m t = (.ok r', t) ∧ l.same r' = true := by
  obtain ⟨e, he, hle⟩ := openLease_records h
  have ht : t.leases.get? l.leaseId = some e := by
    refine hrun.invariant (I := fun u => u.leases.get? l.leaseId = some e)
      (fun u c u' hu hstep _ => ?_) he
    cases hstep
    exact (apply_effect u c).leases hu
  have hid : m.leaseId = l.leaseId := (Lease.same_iff.1 hm).1.symm
  have hem : e.same m = true := Lease.same_trans (Lease.same_symm hle) hm
  obtain ⟨r', hr'⟩ := copyLease_isOk e
  refine ⟨r', ?_, Lease.same_trans hle (copyLease_alike hr').same⟩
  simp only [openLease, hid, ht, hem, if_true, hr']

/-- **Canonical form.** An accepted lease has distinct claims, GPUs and bundles of one donor
replica and is equal to the lease rebuilt from it; the spelling of the arguments decides neither
whether they are accepted nor which lease they make; and once `open_lease` has answered for a
lease, after any further calls it answers every rebuilt copy with an equal lease and no write. -/
theorem lease_canonical :
    (∀ (a : LeaseArgs) (l : Lease), a.build = some l →
      l.claimIds.Nodup ∧ l.gpuUuids.Nodup ∧ l.bundleKeys.Nodup ∧
      (∃ donor, ∀ c ∈ l.claims, c.donorReplica = donor) ∧
      ∃ m, l.args.build = some m ∧ l.same m = true ∧ m.same l = true) ∧
    (∀ a b : LeaseArgs, a.Respelled b →
      (a.build.isSome ↔ b.build.isSome) ∧
      ∀ l m, a.build = some l → b.build = some m → l.same m = true) ∧
    ∀ (s t : GroupScheduler) (l m r : Lease) (a : LeaseArgs), (openLease l s).1 = .ok r →
      machine.Run (openLease l s).2 t → a.Respelled l.args → a.build = some m →
      ∃ r', openLease m t = (.ok r', t) ∧ l.same r' = true := by
  refine ⟨fun a l _ => ?_, fun a b h => ⟨⟨fun ha => ?_, fun hb => ?_⟩, fun l m hl hm => ?_⟩,
    fun s t l m r a hr hrun ha hm => ?_⟩
  · obtain ⟨m, hm, hs⟩ := l.rebuild
    obtain ⟨c, hc⟩ := l.claims_pos
    exact ⟨l.claimIds_nodup, l.gpuUuids_nodup, l.bundleKeys_nodup,
      ⟨c.donorReplica, fun d hd => l.one_donor d hd c hc⟩, m, hm, hs.same, Lease.same_symm hs.same⟩
  · obtain ⟨l, hl⟩ := Option.isSome_iff_exists.1 ha
    obtain ⟨m, hm, -⟩ := h.build hl
    rw [hm]
    rfl
  · obtain ⟨m, hm⟩ := Option.isSome_iff_exists.1 hb
    obtain ⟨l, hl, -⟩ := h.symm.build hm
    rw [hl]
    rfl
  · obtain ⟨m', hm', hs⟩ := h.build hl
    obtain rfl : m = m' := Option.some.inj (hm.symm.trans hm')
    exact hs
  · obtain ⟨n, hn, hs⟩ := l.rebuild
    obtain ⟨m', hm', hs'⟩ := ha.symm.build hn
    obtain rfl : m = m' := Option.some.inj (hm.symm.trans hm')
    exact openLease_again hr hrun (Lease.same_trans hs.same hs')

/-- A claim in the legacy spelling, its defaults left out. -/
def legacyClaim : RawClaim :=
  ⟨[("claim_id", .str "claim"), ("lease_id", .str "source"), ("donor_task_id", .str "donor"),
    ("donor_replica_rank", .int 0), ("pg_id", .str "pg"), ("node_id", .str "node"),
    ("gpu_uuid", .str "gpu"), ("bundle_index", .int 0), ("extra", .other 7)], by decide⟩

def legacyArgs : LeaseArgs := ⟨.str "L", [legacyClaim], none⟩

/-- The same triple with every field written out. -/
def writtenArgs : LeaseArgs :=
  ⟨.str "L", [((legacyClaim.erase "lease_id").insert "source_lease_id" (.str "source")).insert
    "cpu_request" (.int 1)], some (.int 0)⟩

theorem respelled_written : writtenArgs.Respelled legacyArgs where
  leaseId := rfl
  claims := by
    refine .cons ⟨.inl ⟨.str "source", .inl ⟨by decide, by decide⟩, .inr (.inl ⟨by decide, by decide⟩)⟩,
      .inl (by decide), .inr ⟨by decide +kernel, by decide +kernel⟩, fun k hk => ?_⟩ .nil
    simp only [List.mem_cons, List.not_mem_nil, or_false, not_or] at hk
    obtain ⟨hs, hl, -, hc⟩ := hk
    rw [Dict.get?_insert_ne _ _ (Ne.symm hc), Dict.get?_insert_ne _ _ (Ne.symm hs),
      Dict.get?_erase_ne _ (Ne.symm hl)]
  expiresAt := .inr ⟨by decide +kernel, by decide +kernel⟩

/-- The two triples make equal leases, and opening the rebuilt lease is a replay. -/
theorem lease_canonical_written :
    ∃ l m n r, legacyArgs.build = some l ∧ writtenArgs.build = some m ∧ m.same l = true ∧
      l.args.build = some n ∧ openLease n (openLease l init).2 = (.ok r, (openLease l init).2) := by
  have hopen : (legacyArgs.build.any fun l => (openLease l init).1.toOption.isSome) = true := by
    decide +kernel
  obtain ⟨l, hl, hr⟩ := (Option.any_eq_true _ _).1 hopen
  obtain ⟨hacc, hsame⟩ := lease_canonical.2.1 _ _ respelled_written
  obtain ⟨m, hm⟩ := Option.isSome_iff_exists.1 (hacc.2 (by rw [hl]; rfl))
  obtain ⟨-, -, -, -, n, hn, -⟩ := lease_canonical.1 _ _ hl
  cases hr' : (openLease l init).1 with
  | error e => rw [hr'] at hr; cases hr
  | ok r =>
    obtain ⟨r', hopen', -⟩ := lease_canonical.2.2 init _ l n r l.args hr' (.refl _) (.refl _) hn
    exact ⟨l, m, n, r', hl, hm, hsame m l hm hl, hn, hopen'⟩

end GroupScheduler

end ReplicaLending
