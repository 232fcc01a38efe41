import Mathlib.Data.List.Perm.Basic
import ReplicaLending.Library.Machine
import ReplicaLending.Task.CheckpointEngine
/-!
# The receivers of a weight synchronisation

`MultiTaskCheckpointEngineManager` on its own, under any sequence of its methods with any arguments
and with its parent's list refusing any change. `bootstrap_target` suspends between its check of the
tables and its receipt, so it is two steps with anything in between. A list of all confirmed
bootstraps runs along, for the statement of what makes a member effective.

The receivers of a full synchronisation are at all times the effective runtimes, each once
(`membership_sound`).
-/

namespace ReplicaLending

/-- A call of `bootstrap_target` between its check and its end. -/
structure Bootstrapping where
  key : ReplicaKey
  operationId : String
  version : Nat
deriving DecidableEq

structure CheckpointSystem where
  ce : CheckpointEngineManager
  running : List Bootstrapping
  confirmed : List (Bootstrapping × OperationEvidence)

inductive CheckpointCall
  | registerPending (key : ReplicaKey) (replicas : List Replica) (operationId : String)
  | bootstrapStarts (b : Bootstrapping)
  /-- It fails (`none`), or it confirms at a time. -/
  | bootstrapEnds (b : Bootstrapping) (now : Option Nat)
  | commitPending (refused : Bool) (key : ReplicaKey) (evidence : OperationEvidence) (version : Nat)
  | discardPending (key : ReplicaKey)
  | removeEffective (refused : Bool) (key : ReplicaKey)
  | markAllLoadedVersion (version : Nat)
  /-- The native `update_weights` to all receivers: no table changes. -/
  | updateWeights

namespace CheckpointEngineManager

/-- `_setup_checkpoint_manager` (trainer.py:47): the parent's receivers, registered one by one. -/
def registerNatives (version : Nat) : List (ReplicaKey × Replica) → CheckpointEngineManager →
    Except PyErr CheckpointEngineManager
  | [], ce => .ok ce
  | (k, r) :: rest, ce => match ce.addEffective false k [r] version with
    | .error e => .error e
    | .ok ce => registerNatives version rest ce

/-- The result of a method, or the state it raised in. -/
def orKeep (ce : CheckpointEngineManager) (r : Except PyErr CheckpointEngineManager) :
    CheckpointEngineManager :=
  match r with
  | .ok ce' => ce'
  | .error _ => ce

end CheckpointEngineManager

namespace CheckpointSystem

open CheckpointEngineManager

/-- The end of `bootstrap_target`: the receipt, if it confirms. -/
def finish (s : CheckpointSystem) (b : Bootstrapping) : Option Nat → CheckpointSystem
  | none => { s with running := s.running.erase b }
  | some now => match OperationEvidence.now now b.operationId .weightReady with
    | .error _ => { s with running := s.running.erase b }
    | .ok evidence => ⟨s.ce.confirmBootstrap b.key b.version evidence, s.running.erase b,
        (b, evidence) :: s.confirmed⟩

def call (s : CheckpointSystem) : CheckpointCall → CheckpointSystem
  | .registerPending k rs o => { s with ce := s.ce.orKeep (s.ce.registerPending k rs o) }
  | .bootstrapStarts b => match s.ce.bootstrapEntry b.key b.operationId b.version with
    | .ok (.inr _) => { s with running := b :: s.running }
    | _ => s
  | .bootstrapEnds b now => s.finish b now
  | .commitPending refused k ev v => { s with ce := s.ce.orKeep (s.ce.commitPending refused k ev v) }
  | .discardPending k => { s with ce := s.ce.discardPending k }
  | .removeEffective refused k => { s with ce := s.ce.orKeep (s.ce.removeEffective refused k) }
  | .markAllLoadedVersion v => { s with ce := s.ce.markAllLoadedVersion v }
  | .updateWeights => s

def Possible (s : CheckpointSystem) : CheckpointCall → Prop
  | .bootstrapEnds b _ => b ∈ s.running
  | _ => True

/-- Any sequence of calls after the native members, distinct objects, were registered. -/
def machine : Machine CheckpointSystem CheckpointCall where
  init s := ∃ (natives : List (ReplicaKey × Replica)) (version : Nat),
    (natives.map Prod.snd).Nodup ∧
    registerNatives version natives ⟨natives.map Prod.snd, ∅, ∅, ∅⟩ = .ok s.ce ∧
    s.running = [] ∧ s.confirmed = []
  step s l s' := s.Possible l ∧ s' = s.call l

end CheckpointSystem

namespace CheckpointEngineManager

variable {ce ce' : CheckpointEngineManager} {k j : ReplicaKey} {r : Replica} {rs : List Replica}
  {o : String} {v : Nat} {ev : OperationEvidence}

/-- The runtime is the key's in one of the two tables. -/
def Belongs (ce : CheckpointEngineManager) (k : ReplicaKey) (r : Replica) : Prop :=
  (∃ rs v, ce.effective.get? k = some (rs, v) ∧ r ∈ rs) ∨
    ∃ rs o, ce.pending.get? k = some (rs, o) ∧ r ∈ rs

structure TablesOk (ce : CheckpointEngineManager) : Prop where
  one_key : ∀ {k k' r}, Belongs ce k r → Belongs ce k' r → k = k'
  one_table : ∀ {k}, (ce.effective.get? k).isSome → ce.pending.get? k = none
  nodup_effective : ∀ {k rs v}, ce.effective.get? k = some (rs, v) → rs.Nodup
  nodup_pending : ∀ {k rs o}, ce.pending.get? k = some (rs, o) → rs.Nodup

/-- The parent's list is the runtimes of the effective table. -/
structure ReceiversOk (ce : CheckpointEngineManager) : Prop where
  nodup : ce.replicas.Nodup
  mem : ∀ r, r ∈ ce.replicas ↔ ∃ k rs v, ce.effective.get? k = some (rs, v) ∧ r ∈ rs

/-- A receipt is about the evidence stored with it. -/
def ReceiptsOk (ce : CheckpointEngineManager)
    (confirmed : List (Bootstrapping × OperationEvidence)) : Prop :=
  ∀ k o v ev, ce.ready.get? k = some (o, v, ev) →
    ev.operationId = o ∧ ev.type = .weightReady ∧ (⟨k, o, v⟩, ev) ∈ confirmed

/-- `_validate_runtime_membership` accepts distinct runtimes that no other key has. -/
theorem validateRuntimeMembership_ok (h : ce.validateRuntimeMembership k rs = .ok ()) :
    rs.Nodup ∧ ∀ r ∈ rs, ∀ j, Belongs ce j r → j = k := by
  unfold validateRuntimeMembership at h
  split at h
  · cases h
  rename_i hn
  split at h
  · cases h
  rename_i ht
  refine ⟨not_not.1 hn, fun r hr j hj => ?_⟩
  have hfree : ∀ {ν : Type} {d : Dict ReplicaKey (List Replica × ν)} {rs' : List Replica} {w : ν},
      takenIn d.entries k rs = false → d.get? j = some (rs', w) → r ∈ rs' → j = k := by
    intro ν d rs' w hd hj hr'
    rw [takenIn, List.any_eq_false] at hd
    by_contra hne
    refine hd (j, rs', w) (Dict.mem_entries.2 hj) ?_
    simp only [ne_eq, decide_eq_true_eq]
    exact ⟨hne, List.any_eq_true.2 ⟨r, hr, by simpa using hr'⟩⟩
  rw [not_or, Bool.not_eq_true, Bool.not_eq_true] at ht
  rcases hj with ⟨rs', v, hj, hr'⟩ | ⟨rs', o, hj, hr'⟩
  · exact hfree ht.1 hj hr'
  · exact hfree ht.2 hj hr'

/-! ## `register_pending` -/

theorem registerPending_cases (ce : CheckpointEngineManager) (k : ReplicaKey) (rs : List Replica)
    (o : String) : ce.orKeep (ce.registerPending k rs o) = ce ∨
    (ce.orKeep (ce.registerPending k rs o) =
        { ce with pending := ce.pending.insert k (rs, o) } ∧
      ce.effective.get? k = none ∧ ce.pending.get? k = none ∧ rs.Nodup ∧
      (∀ r ∈ rs, ∀ j, Belongs ce j r → j = k) ∧ ∀ r ∈ rs, r ∉ ce.replicas) := by
  unfold registerPending
  split
  · exact .inl rfl
  split
  · exact .inl rfl
  rename_i hv
  obtain ⟨hn, hown⟩ := validateRuntimeMembership_ok hv
  split
  · split <;> exact .inl rfl
  rename_i he
  split
  · split <;> exact .inl rfl
  rename_i hp
  split
  · exact .inl rfl
  · rename_i hr
    refine .inr ⟨rfl, he, hp, hn, hown, fun r hr' hm => hr (List.any_eq_true.2 ⟨r, hr', ?_⟩)⟩
    simpa using hm

theorem TablesOk.registerPending (h : TablesOk ce) :
    TablesOk (ce.orKeep (ce.registerPending k rs o)) := by
  rcases registerPending_cases ce k rs o with
    he | ⟨he, hnone, hp, hn, hown, -⟩
  · rw [he]; exact h
  rw [he]
  have hget : ∀ j, (ce.pending.insert k (rs, o)).get? j =
      if k = j then some (rs, o) else ce.pending.get? j := fun j => Dict.get?_insert _ _ _ _
  have hold : ∀ {j r}, Belongs { ce with pending := ce.pending.insert k (rs, o) } j r →
      Belongs ce j r ∨ (j = k ∧ r ∈ rs) := by
    rintro j r (hb | ⟨rs', o', hb, hr⟩)
    · exact .inl (.inl hb)
    · rw [hget] at hb
      split at hb
      · rename_i hkj
        cases hb; exact .inr ⟨hkj.symm, hr⟩
      · exact .inl (.inr ⟨rs', o', hb, hr⟩)
  constructor
  case one_key =>
    intro j j' r hj hj'
    rcases hold hj with hb | ⟨hb, hr⟩ <;> rcases hold hj' with hb' | ⟨hb', hr'⟩
    · exact h.one_key hb hb'
    · exact (hown r hr' j hb).trans hb'.symm
    · exact hb.trans (hown r hr j' hb').symm
    · exact hb.trans hb'.symm
  case one_table =>
    intro j hj
    show (ce.pending.insert k (rs, o)).get? j = none
    rw [hget, if_neg]
    · exact h.one_table hj
    · rintro rfl
      rw [hnone] at hj; cases hj
  case nodup_effective => exact h.nodup_effective
  case nodup_pending =>
    intro j rs' o' hj
    replace hj : (ce.pending.insert k (rs, o)).get? j = some (rs', o') := hj
    rw [hget] at hj
    split at hj
    · cases hj; exact hn
    · exact h.nodup_pending hj

/-! ## `commit_pending` -/

theorem commitPending_cases (ce : CheckpointEngineManager) (refused : Bool) (k : ReplicaKey)
    (ev : OperationEvidence) (v : Nat) :
    ce.orKeep (ce.commitPending refused k ev v) = ce ∨
    ∃ rs, ce.pending.get? k = some (rs, ev.operationId) ∧
      ce.ready.get? k = some (ev.operationId, v, ev) ∧
      ce.orKeep (ce.commitPending refused k ev v) = { ce with
        replicas := ce.replicas ++ rs.filter fun r => r ∉ ce.replicas
        effective := ce.effective.insert k (rs, v)
        pending := ce.pending.erase k } := by
  cases hc : ce.commitPending refused k ev v with
  | error e => exact .inl rfl
  | ok ce' =>
    show ce' = ce ∨ ∃ rs, _ ∧ _ ∧ ce' = _
    unfold commitPending at hc
    split at hc
    · cases hc
    cases hp : ce.pending.get? k with
    | none =>
      simp only [hp] at hc
      split at hc
      · split at hc
        · cases hc
        split at hc
        · cases hc
        · cases hc; exact .inl rfl
      · cases hc
      · rename_i he; cases he
    | some e =>
      obtain ⟨rs, o⟩ := e
      simp only [hp] at hc
      split at hc
      · cases hc
      rename_i ho
      split at hc
      · cases hc
      rename_i hr
      split at hc
      · cases hc
      rename_i ce₁ ha
      cases hc
      obtain rfl : o = ev.operationId := not_not.1 ho
      refine .inr ⟨rs, rfl, not_not.1 hr, ?_⟩
      unfold addEffective at ha
      split at ha
      · cases ha
      split at ha
      · cases ha
      dsimp only at ha
      split at ha
      · cases ha
      split at ha
      · cases ha
      · cases ha; rfl

/-- A promotion moves the runtimes of the key from one table to the other. -/
theorem belongs_promote (hp : ce.pending.get? k = some (rs, o)) :
    Belongs { ce with
      replicas := ce.replicas ++ rs.filter fun r => r ∉ ce.replicas
      effective := ce.effective.insert k (rs, v)
      pending := ce.pending.erase k } j r → Belongs ce j r := by
  rintro (⟨rs', v', hb, hr⟩ | ⟨rs', o', hb, hr⟩)
  · replace hb : (ce.effective.insert k (rs, v)).get? j = some (rs', v') := hb
    rw [Dict.get?_insert] at hb
    split at hb
    · rename_i hkj
      subst hkj
      cases hb
      exact .inr ⟨rs, o, hp, hr⟩
    · exact .inl ⟨rs', v', hb, hr⟩
  · replace hb : (ce.pending.erase k).get? j = some (rs', o') := hb
    rw [Dict.get?_erase] at hb
    split at hb
    · cases hb
    · exact .inr ⟨rs', o', hb, hr⟩

theorem TablesOk.commitPending {refused : Bool} (h : TablesOk ce) :
    TablesOk (ce.orKeep (ce.commitPending refused k ev v)) := by
  rcases commitPending_cases ce refused k ev v with
    he | ⟨rs, hp, -, he⟩
  · rw [he]; exact h
  rw [he]
  constructor
  case one_key => exact fun a b => h.one_key (belongs_promote hp a) (belongs_promote hp b)
  case one_table =>
    intro j hj
    show (ce.pending.erase k).get? j = none
    replace hj : ((ce.effective.insert k (rs, v)).get? j).isSome := hj
    rw [Dict.get?_insert] at hj
    rw [Dict.get?_erase]
    split
    · rfl
    · rename_i hkj
      rw [if_neg hkj] at hj
      exact h.one_table hj
  case nodup_effective =>
    intro j rs' v' hj
    replace hj : (ce.effective.insert k (rs, v)).get? j = some (rs', v') := hj
    rw [Dict.get?_insert] at hj
    split at hj
    · cases hj; exact h.nodup_pending hp
    · exact h.nodup_effective hj
  case nodup_pending =>
    intro j rs' o' hj
    replace hj : (ce.pending.erase k).get? j = some (rs', o') := hj
    rw [Dict.get?_erase] at hj
    split at hj
    · cases hj
    · exact h.nodup_pending hj

/-- No pending runtime is a receiver. -/
theorem ReceiversOk.pending_out (h : ReceiversOk ce) (ht : TablesOk ce)
    (hp : ce.pending.get? k = some (rs, o)) (hr : r ∈ rs) : r ∉ ce.replicas := by
  intro hm
  obtain ⟨j, rs', v', hj, hr'⟩ := (h.mem r).1 hm
  obtain rfl := ht.one_key (.inr ⟨rs, o, hp, hr⟩) (.inl ⟨rs', v', hj, hr'⟩)
  rw [ht.one_table (by rw [hj]; rfl)] at hp
  cases hp

theorem ReceiversOk.commitPending {refused : Bool} (h : ReceiversOk ce) (ht : TablesOk ce) :
    ReceiversOk (ce.orKeep (ce.commitPending refused k ev v)) := by
  rcases commitPending_cases ce refused k ev v with
    he | ⟨rs, hp, -, he⟩
  · rw [he]; exact h
  rw [he]
  have hnone : ce.effective.get? k = none := by
    refine Option.eq_none_iff_forall_ne_some.2 fun e he => ?_
    rw [ht.one_table (by rw [he]; rfl)] at hp
    cases hp
  have hfilter : rs.filter (fun r => r ∉ ce.replicas) = rs := by
    refine List.filter_eq_self.2 fun r hr => ?_
    simpa using h.pending_out ht hp hr
  constructor
  · show (ce.replicas ++ rs.filter fun r => r ∉ ce.replicas).Nodup
    rw [hfilter]
    refine List.nodup_append.2 ⟨h.nodup, ht.nodup_pending hp, fun a ha b hb hab => ?_⟩
    exact h.pending_out ht hp hb (hab ▸ ha)
  · intro r
    show r ∈ (ce.replicas ++ rs.filter fun r => r ∉ ce.replicas) ↔
      ∃ j rs' v', (ce.effective.insert k (rs, v)).get? j = some (rs', v') ∧ r ∈ rs'
    rw [hfilter, List.mem_append, h.mem]
    constructor
    · rintro (⟨j, rs', v', hj, hr⟩ | hr)
      · have hkj : k ≠ j := by rintro rfl; rw [hnone] at hj; cases hj
        exact ⟨j, rs', v', by rw [Dict.get?_insert_ne _ _ hkj]; exact hj, hr⟩
      · exact ⟨k, rs, v, Dict.get?_insert_self _ _ _, hr⟩
    · rintro ⟨j, rs', v', hj, hr⟩
      rw [Dict.get?_insert] at hj
      split at hj
      · cases hj; exact .inr hr
      · exact .inl ⟨j, rs', v', hj, hr⟩

/-! ## `discard_pending` and `remove_effective` -/

theorem TablesOk.discardPending (h : TablesOk ce) : TablesOk (ce.discardPending k) := by
  have hp : ∀ {j rs o}, (ce.discardPending k).pending.get? j = some (rs, o) →
      ce.pending.get? j = some (rs, o) := by
    intro j rs o hj
    rw [show (ce.discardPending k).pending.get? j = _ from Dict.get?_erase _ _ _] at hj
    split at hj
    · cases hj
    · exact hj
  have hold : ∀ {j r}, Belongs (ce.discardPending k) j r → Belongs ce j r := by
    rintro j r (hb | ⟨rs, o, hb, hr⟩)
    · exact .inl hb
    · exact .inr ⟨rs, o, hp hb, hr⟩
  constructor
  case one_key => exact fun a b => h.one_key (hold a) (hold b)
  case one_table =>
    intro j hj
    refine Option.eq_none_iff_forall_ne_some.2 fun e he => ?_
    have : ce.pending.get? j = some (e.1, e.2) := hp he
    rw [h.one_table hj] at this
    cases this
  case nodup_effective => exact h.nodup_effective
  case nodup_pending => exact fun hj => h.nodup_pending (hp hj)

theorem ReceiversOk.discardPending (h : ReceiversOk ce) : ReceiversOk (ce.discardPending k) :=
  ⟨h.nodup, h.mem⟩

/-- A removal drops the key from everything, or the parent refuses and nothing changes. -/
theorem removeEffective_cases (ce : CheckpointEngineManager) (refused : Bool) (k : ReplicaKey) :
    ce.orKeep (ce.removeEffective refused k) = ce ∨
    (ce.effective.get? k = none ∧
      ce.orKeep (ce.removeEffective refused k) = ce.discardPending k) ∨
    ∃ rs v, ce.effective.get? k = some (rs, v) ∧ refused = false ∧
      ce.orKeep (ce.removeEffective refused k) = CheckpointEngineManager.discardPending { ce with
        replicas := ce.replicas.filter fun r => r ∉ rs
        effective := ce.effective.erase k } k := by
  unfold removeEffective
  cases he : ce.effective.get? k with
  | none => exact .inr (.inl ⟨rfl, rfl⟩)
  | some e =>
    cases refused with
    | true => exact .inl rfl
    | false => exact .inr (.inr ⟨e.1, e.2, rfl, rfl, rfl⟩)

theorem removed_effective (ht : TablesOk ce) (h : ReceiversOk ce)
    (hk : ce.effective.get? k = some (rs, v)) :
    TablesOk { ce with
      replicas := ce.replicas.filter fun r => r ∉ rs
      effective := ce.effective.erase k } ∧
    ReceiversOk { ce with
      replicas := ce.replicas.filter fun r => r ∉ rs
      effective := ce.effective.erase k } := by
  have hsub : ∀ {j rs' v'}, (ce.effective.erase k).get? j = some (rs', v') →
      k ≠ j ∧ ce.effective.get? j = some (rs', v') := by
    intro j rs' v' hj
    rw [Dict.get?_erase] at hj
    split at hj
    · cases hj
    · exact ⟨‹_›, hj⟩
  have hold : ∀ {j r}, Belongs { ce with
      replicas := ce.replicas.filter fun r => r ∉ rs
      effective := ce.effective.erase k } j r → Belongs ce j r := by
    rintro j r (⟨rs', v', hb, hr⟩ | hb)
    · exact .inl ⟨rs', v', (hsub hb).2, hr⟩
    · exact .inr hb
  refine ⟨⟨fun a b => ht.one_key (hold a) (hold b), fun {j} hj => ?_, fun hj =>
    ht.nodup_effective (hsub hj).2, ht.nodup_pending⟩, ⟨h.nodup.filter _, fun r => ?_⟩⟩
  · obtain ⟨e, he⟩ := Option.isSome_iff_exists.1 hj
    obtain ⟨-, hold⟩ : k ≠ j ∧ ce.effective.get? j = some (e.1, e.2) := hsub he
    exact ht.one_table (by rw [hold]; rfl)
  · show r ∈ ce.replicas.filter (fun r => r ∉ rs) ↔
      ∃ j rs' v', (ce.effective.erase k).get? j = some (rs', v') ∧ r ∈ rs'
    rw [List.mem_filter, h.mem]
    constructor
    · rintro ⟨⟨j, rs', v', hj, hr⟩, hn⟩
      have hkj : k ≠ j := by
        rintro rfl
        rw [hk] at hj
        cases hj
        simp [hr] at hn
      exact ⟨j, rs', v', by rw [Dict.get?_erase_ne _ hkj]; exact hj, hr⟩
    · rintro ⟨j, rs', v', hj, hr⟩
      obtain ⟨hkj, hj⟩ := hsub hj
      refine ⟨⟨j, rs', v', hj, hr⟩, ?_⟩
      simp only [decide_not, Bool.not_eq_true', decide_eq_false_iff_not]
      intro hr'
      exact hkj (ht.one_key (.inl ⟨rs, v, hk, hr'⟩) (.inl ⟨rs', v', hj, hr⟩))

theorem TablesOk.removeEffective (h : TablesOk ce) (refused : Bool) (k : ReplicaKey)
    (hr : ReceiversOk ce) :
    TablesOk (ce.orKeep (ce.removeEffective refused k)) ∧
      ReceiversOk (ce.orKeep (ce.removeEffective refused k)) := by
  rcases removeEffective_cases ce refused k with
    he | ⟨-, he⟩ | ⟨rs, v, hk, -, he⟩
  · rw [he]; exact ⟨h, hr⟩
  · rw [he]; exact ⟨h.discardPending, hr.discardPending⟩
  · obtain ⟨ht, hr⟩ := removed_effective h hr hk
    rw [he]
    exact ⟨ht.discardPending, hr.discardPending⟩

/-! ## `mark_all_loaded_version` -/

theorem get?_markFold {d₀ : Dict ReplicaKey (List Replica × Nat)} :
    ∀ {ks : List ReplicaKey} {d : Dict ReplicaKey (List Replica × Nat)},
      (ks.foldl (fun d k => match d₀.get? k with
        | some (replicas, _) => d.insert k (replicas, v)
        | none => d) d).get? j =
      if j ∈ ks ∧ (d₀.get? j).isSome then (d₀.get? j).map fun e => (e.1, v) else d.get? j
  | [], d => by simp
  | k :: ks, d => by
    rw [List.foldl_cons, get?_markFold]
    cases hk : d₀.get? k with
    | none =>
      by_cases hj : j = k
      · subst hj; simp [hk]
      · simp [hj]
    | some e =>
      dsimp only
      by_cases hj : k = j
      · subst hj; simp [hk]
      · simp [Dict.get?_insert, hj, Ne.symm hj]

theorem effective_markAll : (ce.markAllLoadedVersion v).effective.get? k =
    (ce.effective.get? k).map fun e => (e.1, v) := by
  refine get?_markFold.trans ?_
  cases he : ce.effective.get? k with
  | none => simp
  | some e => simp [Dict.mem_keys_of_get? he]

theorem effective_markAll_some {w : Nat}
    (h : (ce.markAllLoadedVersion v).effective.get? k = some (rs, w)) :
    ∃ w', ce.effective.get? k = some (rs, w') := by
  rw [effective_markAll] at h
  obtain ⟨e, he, hw⟩ := Option.map_eq_some_iff.1 h
  cases hw
  exact ⟨e.2, he⟩

theorem TablesOk.markAll (h : TablesOk ce) : TablesOk (ce.markAllLoadedVersion v) := by
  have hold : ∀ {j r}, Belongs (ce.markAllLoadedVersion v) j r → Belongs ce j r := by
    rintro j r (⟨rs, w, hb, hr⟩ | hb)
    · obtain ⟨w', hb⟩ := effective_markAll_some hb
      exact .inl ⟨rs, w', hb, hr⟩
    · exact .inr hb
  constructor
  case one_key => exact fun a b => h.one_key (hold a) (hold b)
  case one_table =>
    intro j hj
    rw [effective_markAll, Option.isSome_map] at hj
    exact h.one_table hj
  case nodup_effective =>
    intro j rs w hj
    obtain ⟨w', hj⟩ := effective_markAll_some hj
    exact h.nodup_effective hj
  case nodup_pending => exact h.nodup_pending

theorem ReceiversOk.markAll (h : ReceiversOk ce) : ReceiversOk (ce.markAllLoadedVersion v) := by
  refine ⟨h.nodup, fun r => (h.mem r).trans ?_⟩
  constructor
  · rintro ⟨j, rs, w, hj, hr⟩
    exact ⟨j, rs, v, by rw [effective_markAll, hj]; rfl, hr⟩
  · rintro ⟨j, rs, w, hj, hr⟩
    obtain ⟨w', hj⟩ := effective_markAll_some hj
    exact ⟨j, rs, w', hj, hr⟩

/-! ## The native members -/

/-- While the natives are registered, the table holds those already processed. -/
theorem registerNatives_ok {version : Nat} : ∀ {natives : List (ReplicaKey × Replica)}
    (done : List (ReplicaKey × Replica)) {ce ce' : CheckpointEngineManager},
    registerNatives version natives ce = .ok ce' →
    ((done ++ natives).map Prod.snd).Nodup → ce.replicas = (done ++ natives).map Prod.snd →
    ce.pending = ∅ → ce.ready = ∅ →
    (∀ k rs v, ce.effective.get? k = some (rs, v) ↔
      ∃ r, (k, r) ∈ done ∧ rs = [r] ∧ v = version) →
    ce'.replicas = (done ++ natives).map Prod.snd ∧ ce'.pending = ∅ ∧ ce'.ready = ∅ ∧
      ∀ k rs v, ce'.effective.get? k = some (rs, v) ↔
        ∃ r, (k, r) ∈ done ++ natives ∧ rs = [r] ∧ v = version
  | [], done, ce, ce', h, _, hl, hp, hr, he => by
    cases h
    rw [List.append_nil] at hl ⊢
    exact ⟨hl, hp, hr, he⟩
  | (k, r) :: rest, done, ce, ce', h, hn, hl, hp, hr, he => by
    rw [registerNatives] at h
    have hmem : r ∈ ce.replicas := by
      rw [hl]
      exact List.mem_map.2 ⟨(k, r), by simp, rfl⟩
    cases ha : ce.addEffective false k [r] version with
    | error e => rw [ha] at h; cases h
    | ok ce₁ =>
      rw [ha] at h
      have hfresh : ∀ e, ce.effective.get? k ≠ some e := by
        rintro ⟨rs, v⟩ hk
        obtain ⟨r', hr', rfl, rfl⟩ := (he k rs v).1 hk
        have hne : r' ≠ r := by
          rintro rfl
          rw [List.map_append, List.map_cons, List.nodup_append] at hn
          exact hn.2.2 r' (List.mem_map_of_mem (f := Prod.snd) hr') r' (List.mem_cons_self ..) rfl
        unfold addEffective at ha
        simp [hk, hne] at ha
        split at ha <;> cases ha
      have hce : ce₁ = { ce with effective := ce.effective.insert k ([r], version) } := by
        unfold addEffective at ha
        split at ha
        · cases ha
        split at ha
        · cases ha
        dsimp only at ha
        split at ha
        · cases ha
        simp only [Bool.false_eq_true, if_false, Except.ok.injEq] at ha
        rw [← ha]
        simp [hmem]
      subst hce
      have happ : done ++ (k, r) :: rest = (done ++ [(k, r)]) ++ rest := by simp
      rw [happ] at hn hl ⊢
      refine registerNatives_ok _ h hn hl hp hr fun j rs v => ?_
      show (ce.effective.insert k ([r], version)).get? j = _ ↔ _
      rw [Dict.get?_insert]
      by_cases hj : k = j
      · subst hj
        have hout : ∀ r', (k, r') ∉ done := by
          intro r' hr'
          exact hfresh ([r'], version) ((he k [r'] version).2 ⟨r', hr', rfl, rfl⟩)
        simp [hout, eq_comm]
      · rw [if_neg hj, he]
        simp [Ne.symm hj]

/-- Receipts survive what leaves the ready table alone or takes from it. -/
theorem ReceiptsOk.mono {ce ce' : CheckpointEngineManager}
    {confirmed : List (Bootstrapping × OperationEvidence)} (h : ReceiptsOk ce confirmed)
    (hr : ∀ {k e}, ce'.ready.get? k = some e → ce.ready.get? k = some e) :
    ReceiptsOk ce' confirmed := fun k o v ev hk => h k o v ev (hr hk)

theorem ready_of_discard {ce : CheckpointEngineManager} {k j : ReplicaKey}
    {e : String × Nat × OperationEvidence} (h : (ce.discardPending k).ready.get? j = some e) :
    ce.ready.get? j = some e := by
  rw [show (ce.discardPending k).ready.get? j = _ from Dict.get?_erase _ _ _] at h
  split at h
  · cases h
  · exact h

end CheckpointEngineManager

namespace CheckpointSystem

open CheckpointEngineManager

variable {s s' : CheckpointSystem} {l : CheckpointCall}

structure SystemOk (s : CheckpointSystem) : Prop where
  tables : TablesOk s.ce
  receivers : ReceiversOk s.ce
  receipts : ReceiptsOk s.ce s.confirmed

theorem SystemOk.of_init (h : machine.init s) : SystemOk s := by
  obtain ⟨natives, version, hn, hreg, hrun, hconf⟩ := h
  have hempty : ∀ k rs v, (∅ : Dict ReplicaKey (List Replica × Nat)).get? k = some (rs, v) ↔
      ∃ r, (k, r) ∈ ([] : List (ReplicaKey × Replica)) ∧ rs = [r] ∧ v = version := by simp
  obtain ⟨hl, hp, hr, he⟩ := registerNatives_ok [] hreg hn rfl rfl rfl hempty
  rw [List.nil_append] at hl he
  have hone : ∀ {k r}, Belongs s.ce k r → (k, r) ∈ natives := by
    rintro k r (⟨rs, v, hb, hr'⟩ | ⟨rs, o, hb, -⟩)
    · obtain ⟨r', hr'', rfl, -⟩ := (he k rs v).1 hb
      rw [List.mem_singleton.1 hr']; exact hr''
    · rw [hp] at hb; cases hb
  refine ⟨⟨fun {k k' r} a b => ?_, fun _ => by rw [hp]; rfl, fun {k rs v} hk => ?_, fun hk => by
    rw [hp] at hk; cases hk⟩, ⟨by rw [hl]; exact hn, fun r => ?_⟩, fun k o v ev hk => by
    rw [hr] at hk; cases hk⟩
  · have hpair := List.inj_on_of_nodup_map hn (hone a) (hone b) rfl
    exact congrArg Prod.fst hpair
  · obtain ⟨r, -, rfl, -⟩ := (he k rs v).1 hk
    exact List.nodup_singleton r
  · rw [hl, List.mem_map]
    constructor
    · rintro ⟨⟨k, r⟩, hm, rfl⟩
      exact ⟨k, [r], version, (he _ _ _).2 ⟨r, hm, rfl, rfl⟩, List.mem_singleton_self r⟩
    · rintro ⟨k, rs, v, hk, hm⟩
      exact ⟨(k, r), hone (.inl ⟨rs, v, hk, hm⟩), rfl⟩

theorem SystemOk.finish {b : Bootstrapping} (h : SystemOk s) (now : Option Nat) :
    SystemOk (s.finish b now) := by
  unfold CheckpointSystem.finish
  cases now with
  | none => exact ⟨h.tables, h.receivers, h.receipts⟩
  | some now =>
    dsimp only
    split
    · exact ⟨h.tables, h.receivers, h.receipts⟩
    · rename_i ev hev
      obtain ⟨hop, hty, -, -⟩ := OperationEvidence.now_ok hev
      have ht := h.tables
      have hr := h.receivers
      refine ⟨⟨ht.one_key, ht.one_table, ht.nodup_effective, ht.nodup_pending⟩,
        ⟨hr.nodup, hr.mem⟩, fun k o v ev' hk => ?_⟩
      replace hk : (s.ce.ready.insert b.key (ev.operationId, b.version, ev)).get? k =
        some (o, v, ev') := hk
      rw [Dict.get?_insert] at hk
      split at hk
      · rename_i hkey
        cases hk
        refine ⟨rfl, hty, List.mem_cons.2 (.inl ?_)⟩
        rw [hop, ← hkey]
      · obtain ⟨h₁, h₂, h₃⟩ := h.receipts k o v ev' hk
        exact ⟨h₁, h₂, List.mem_cons_of_mem _ h₃⟩

theorem SystemOk.call (h : SystemOk s) : SystemOk (s.call l) := by
  obtain ⟨ht, hr, hc⟩ := h
  cases l with
  | registerPending k rs o =>
    refine ⟨ht.registerPending, ?_, hc.mono ?_⟩
    all_goals
      rcases registerPending_cases s.ce k rs o with he | ⟨he, -⟩
    · rw [show (s.call (.registerPending k rs o)).ce = _ from he]; exact hr
    · rw [show (s.call (.registerPending k rs o)).ce = _ from he]; exact ⟨hr.nodup, hr.mem⟩
    · rw [show (s.call (.registerPending k rs o)).ce = _ from he]; exact id
    · rw [show (s.call (.registerPending k rs o)).ce = _ from he]; exact id
  | bootstrapStarts b =>
    show SystemOk (match s.ce.bootstrapEntry b.key b.operationId b.version with
      | .ok (.inr _) => { s with running := b :: s.running }
      | _ => s)
    split <;> exact ⟨ht, hr, hc⟩
  | bootstrapEnds b now => exact SystemOk.finish ⟨ht, hr, hc⟩ now
  | commitPending refused k ev v =>
    refine ⟨ht.commitPending, hr.commitPending ht, hc.mono ?_⟩
    rcases commitPending_cases s.ce refused k ev v with
      he | ⟨rs, -, -, he⟩
    all_goals
      rw [show (s.call (.commitPending refused k ev v)).ce = _ from he]
      exact id
  | discardPending k => exact ⟨ht.discardPending, hr.discardPending, hc.mono ready_of_discard⟩
  | removeEffective refused k =>
    obtain ⟨ht', hr'⟩ := ht.removeEffective refused k hr
    refine ⟨ht', hr', hc.mono ?_⟩
    rcases removeEffective_cases s.ce refused k with
      he | ⟨-, he⟩ | ⟨rs, v, -, -, he⟩
    · rw [show (s.call (.removeEffective refused k)).ce = _ from he]; exact id
    · rw [show (s.call (.removeEffective refused k)).ce = _ from he]; exact ready_of_discard
    · rw [show (s.call (.removeEffective refused k)).ce = _ from he]
      exact fun hk => ready_of_discard hk
  | markAllLoadedVersion v => exact ⟨ht.markAll, hr.markAll, hc⟩
  | updateWeights => exact ⟨ht, hr, hc⟩

theorem SystemOk.reachable (h : machine.Reachable s) : SystemOk s := by
  refine h.invariant (fun _ => SystemOk.of_init) ?_
  rintro s l s' hs ⟨-, rfl⟩ -
  exact hs.call

/-- Membership as a synchronisation sees it. -/
structure MembershipSound (ce : CheckpointEngineManager) : Prop where
  one_key : ∀ {k k' r}, Belongs ce k r → Belongs ce k' r → k = k'
  one_table : ∀ {k}, (ce.effective.get? k).isSome → ce.pending.get? k = none
  nodup : ce.replicas.Nodup
  receivers : ce.replicas.Perm (ce.effective.entries.flatMap fun e => e.2.1)
  pending_out : ∀ {k rs o}, ce.pending.get? k = some (rs, o) → ∀ r ∈ rs, r ∉ ce.replicas

theorem SystemOk.sound (h : SystemOk s) : MembershipSound s.ce where
  one_key := h.tables.one_key
  one_table := h.tables.one_table
  nodup := h.receivers.nodup
  receivers := by
    have hn : (s.ce.effective.entries.flatMap fun e => e.2.1).Nodup := by
      refine List.nodup_flatMap.2 ⟨?_, ?_⟩
      · rintro ⟨k, rs, v⟩ he
        exact h.tables.nodup_effective (Dict.mem_entries.1 he)
      · have hk := List.pairwise_map.1 s.ce.effective.nodup
        refine hk.imp_of_mem ?_
        rintro ⟨k, rs, v⟩ ⟨k', rs', v'⟩ he he' hne r hr hr'
        exact hne (h.tables.one_key (.inl ⟨rs, v, Dict.mem_entries.1 he, hr⟩)
          (.inl ⟨rs', v', Dict.mem_entries.1 he', hr'⟩))
    refine (List.perm_ext_iff_of_nodup h.receivers.nodup hn).2 fun r => ?_
    rw [h.receivers.mem, List.mem_flatMap]
    constructor
    · rintro ⟨k, rs, v, hk, hr⟩
      exact ⟨(k, rs, v), Dict.mem_entries.2 hk, hr⟩
    · rintro ⟨⟨k, rs, v⟩, he, hr⟩
      exact ⟨k, rs, v, Dict.mem_entries.1 he, hr⟩
  pending_out := fun hp r hr => h.receivers.pending_out h.tables hp hr

/-- A key becomes effective only by `commit_pending`, with the runtimes pending for the operation,
the evidence stored for it, and a confirmed bootstrap of the operation at the version. -/
def PromotesConfirmed (s s' : CheckpointSystem) (l : CheckpointCall) : Prop :=
  ∀ k rs v, s.ce.effective.get? k = none → s'.ce.effective.get? k = some (rs, v) →
    ∃ refused ev, l = .commitPending refused k ev v ∧
      s.ce.pending.get? k = some (rs, ev.operationId) ∧
      s.ce.ready.get? k = some (ev.operationId, v, ev) ∧
      (⟨k, ev.operationId, v⟩, ev) ∈ s.confirmed

/-- A removal that the parent refuses keeps the record. -/
def KeepsRefused (s s' : CheckpointSystem) (l : CheckpointCall) : Prop :=
  ∀ k, l = .removeEffective true k → (s.ce.effective.get? k).isSome → s' = s

theorem SystemOk.promotes (h : SystemOk s) : PromotesConfirmed s (s.call l) l := by
  intro k rs v hnone hsome
  have hsame : (s.call l).ce.effective = s.ce.effective → False := fun he => by
    rw [he, hnone] at hsome; cases hsome
  cases l with
  | commitPending refused j ev w =>
    rcases commitPending_cases s.ce refused j ev w with
      he | ⟨rs', hp, hready, he⟩
    · exact (hsame (congrArg _ he)).elim
    · rw [show (s.call (.commitPending refused j ev w)).ce = _ from he] at hsome
      replace hsome : (s.ce.effective.insert j (rs', w)).get? k = some (rs, v) := hsome
      rw [Dict.get?_insert] at hsome
      split at hsome
      · rename_i hjk
        subst hjk
        cases hsome
        exact ⟨refused, ev, rfl, hp, hready, (h.receipts _ _ _ _ hready).2.2⟩
      · rw [hnone] at hsome; cases hsome
  | registerPending j rs' o =>
    rcases registerPending_cases s.ce j rs' o with he | ⟨he, -⟩
    all_goals
      refine (hsame ?_).elim
      rw [show (s.call (.registerPending j rs' o)).ce = _ from he]
  | removeEffective refused j =>
    rcases removeEffective_cases s.ce refused j with
      he | ⟨-, he⟩ | ⟨rs', w, hj, -, he⟩
    · refine (hsame ?_).elim
      rw [show (s.call (.removeEffective refused j)).ce = _ from he]
    · refine (hsame ?_).elim
      rw [show (s.call (.removeEffective refused j)).ce = _ from he]; rfl
    · rw [show (s.call (.removeEffective refused j)).ce = _ from he] at hsome
      replace hsome : (s.ce.effective.erase j).get? k = some (rs, v) := hsome
      rw [Dict.get?_erase] at hsome
      split at hsome
      · cases hsome
      · rw [hnone] at hsome; cases hsome
  | bootstrapStarts b =>
    refine (hsame ?_).elim
    show (match s.ce.bootstrapEntry b.key b.operationId b.version with
      | .ok (.inr _) => { s with running := b :: s.running }
      | _ => s).ce.effective = _
    split <;> rfl
  | bootstrapEnds b now =>
    refine (hsame ?_).elim
    show (s.finish b now).ce.effective = _
    unfold CheckpointSystem.finish
    cases now with
    | none => rfl
    | some now =>
      dsimp only
      split <;> rfl
  | discardPending j => exact (hsame rfl).elim
  | markAllLoadedVersion w =>
    rw [show (s.call (.markAllLoadedVersion w)).ce.effective.get? k = _ from effective_markAll,
      hnone] at hsome
    cases hsome
  | updateWeights => exact (hsame rfl).elim

/-- In every reachable state the two tables are disjoint in keys and runtimes and the parent's list is
exactly the effective runtimes; a step promotes only what was confirmed. -/
theorem membership_sound (h : machine.Reachable s) : MembershipSound s.ce ∧
    ∀ l s', machine.step s l s' → PromotesConfirmed s s' l ∧ KeepsRefused s s' l := by
  have hok := SystemOk.reachable h
  refine ⟨hok.sound, ?_⟩
  rintro l s' ⟨-, rfl⟩
  refine ⟨hok.promotes, ?_⟩
  rintro k rfl hk
  obtain ⟨e, he⟩ := Option.isSome_iff_exists.1 hk
  show { s with ce := s.ce.orKeep (s.ce.removeEffective true k) } = s
  have : s.ce.removeEffective true k = .error (.runtimeError "native remove_replicas failed") := by
    simp [removeEffective, he]
  rw [this]
  rfl

/-- A native member, and a borrowed runtime waiting for its bootstrap. -/
def oneNative : CheckpointSystem :=
  let native : Replica := ⟨0, .native, "s0", ⟨"n0", "", "g0"⟩⟩
  ⟨⟨[native], (∅ : Dict ReplicaKey _).insert (nativeReplicaKey "task" (ne_empty holds) 0) ([native], 3),
    ∅, ∅⟩, [], []⟩

theorem reachable_oneNative : machine.Reachable oneNative :=
  ⟨oneNative, ⟨[(nativeReplicaKey "task" (by decide) 0, ⟨0, .native, "s0", ⟨"n0", "", "g0"⟩⟩)], 3,
    by decide, rfl, rfl, rfl⟩, .refl _⟩

theorem reachable_call (h : machine.Reachable s) (hp : s.Possible l) :
    machine.Reachable (s.call l) := h.tail (l := l) ⟨hp, rfl⟩ trivial

theorem membership_sound_lent : MembershipSound (oneNative.call (.registerPending
    (nativeReplicaKey "task" (by decide) 1) [⟨1, .borrowed, "s1", ⟨"n0", "", "g1"⟩⟩] "a")).ce := by
  refine (membership_sound (reachable_call reachable_oneNative ?_)).1
  exact trivial

end CheckpointSystem

end ReplicaLending
