import ReplicaLending.Checkpoint.Receivers
import ReplicaLending.Task.Tables
/-!
# Membership changes

`register_pending`, `commit_pending`, `discard_pending`, `remove_effective` and
`mark_all_loaded_version`: their effect, the cases in which they cannot fail, and `Wired` after them.
All of them touch one key only (`Off`), except the last, which touches no membership at all.
-/

namespace ReplicaLending

namespace CheckpointEngineManager

variable {ce ce' : CheckpointEngineManager} {m : LLMServerManager} {k j : ReplicaKey} {r : Replica}
  {rs : List Replica} {o : String} {v : Nat} {ev : OperationEvidence}

/-- Nothing has changed for any other key. -/
structure Off (k : ReplicaKey) (ce ce' : CheckpointEngineManager) : Prop where
  members : ∀ j, k ≠ j → ce'.members j = ce.members j
  pending : ∀ j, k ≠ j → ce'.pending.get? j = ce.pending.get? j
  ready : ∀ j, k ≠ j → ce'.ready.get? j = ce.ready.get? j

theorem members_eq (h : ce.effective.get? k = some (rs, v)) : ce.members k = some rs := by
  simp [members, h]

theorem members_none : ce.members k = none ↔ ce.effective.get? k = none := by
  simp [members]

/-- A runtime of a key is no other key's. -/
theorem not_takenIn_effective (hw : Wired m ce) (hi : m.runtimeInventory.get? k = some r) :
    takenIn ce.effective.entries k [r] = false := by
  rw [takenIn, List.any_eq_false]
  rintro ⟨j, rs, v⟩ he
  simp only [List.any_cons, List.any_nil, Bool.or_false, decide_eq_true_eq, ne_eq, not_and]
  intro hj hr
  have hm := members_eq (Dict.mem_entries.1 he)
  obtain ⟨r', rfl, -⟩ := hw.member hm
  obtain rfl := List.mem_singleton.1 hr
  exact hj (hw.holds_inj (.inr (.inl hm)) (.inl hi) rfl).1

theorem not_takenIn_pending (hw : Wired m ce) (hi : m.runtimeInventory.get? k = some r) :
    takenIn ce.pending.entries k [r] = false := by
  rw [takenIn, List.any_eq_false]
  rintro ⟨j, rs, o⟩ he
  simp only [List.any_cons, List.any_nil, Bool.or_false, decide_eq_true_eq, ne_eq, not_and]
  intro hj hr
  have hp := Dict.mem_entries.1 he
  obtain ⟨r', rfl, -⟩ := hw.pending hp
  obtain rfl := List.mem_singleton.1 hr
  exact hj (hw.holds_inj (.inr (.inr ⟨o, hp⟩)) (.inl hi) rfl).1

theorem validateRuntimeMembership_eq (hw : Wired m ce) (hi : m.runtimeInventory.get? k = some r) :
    ce.validateRuntimeMembership k [r] = .ok () := by
  unfold validateRuntimeMembership
  simp [not_takenIn_effective hw hi, not_takenIn_pending hw hi]

/-! ## `register_pending` -/

/-- The receiver is parked under the operation. -/
def park (ce : CheckpointEngineManager) (k : ReplicaKey) (r : Replica) (o : String) :
    CheckpointEngineManager := { ce with pending := ce.pending.insert k ([r], o) }

/-- A runtime of the inventory that is nowhere registered can be parked. -/
theorem registerPending_eq (hw : Wired m ce) (hi : m.runtimeInventory.get? k = some r)
    (hm : ce.members k = none) (hp : ce.pending.get? k = none) :
    ce.registerPending k [r] o = .ok (ce.park k r o) := by
  have hr : r ∉ ce.replicas := by
    intro hr
    obtain ⟨j, hj⟩ := (hw.receivers r).1 hr
    have hjk := (hw.holds_inj (.inr (.inl hj)) (.inl hi) rfl).1
    rw [hjk, hm] at hj
    cases hj
  simp only [registerPending, validateRuntimeMembership_eq hw hi, members_none.1 hm, hp,
    List.any_cons, List.any_nil, hr, park]
  simp

/-- A registration that succeeds finds the entry there, or parks the runtimes of a free key; an
effective key is only accepted with a receipt. -/
theorem registerPending_ok (h : ce.registerPending k rs o = .ok ce') :
    (ce' = ce ∧ ((ce.members k).isSome ∧ (ce.ready.get? k).isSome ∨
      ce.members k = none ∧ ce.pending.get? k = some (rs, o))) ∨
    (ce' = { ce with pending := ce.pending.insert k (rs, o) } ∧ ce.members k = none ∧
      ce.pending.get? k = none) := by
  unfold registerPending at h
  split at h
  · cases h
  split at h
  · cases h
  split at h
  · rename_i he
    split at h
    · rename_i hreplay
      cases h
      refine .inl ⟨rfl, .inl ⟨by simp [members, he], ?_⟩⟩
      obtain ⟨e, hready, -⟩ := Option.map_eq_some_iff.1 hreplay.2
      rw [hready]; rfl
    · cases h
  · rename_i he
    split at h
    · rename_i hp
      split at h
      · cases h
      · rename_i hsame
        cases h
        exact .inl ⟨rfl, .inr ⟨members_none.2 he, by rw [hp, not_not.1 hsame]⟩⟩
    · rename_i hp
      split at h
      · cases h
      · cases h; exact .inr ⟨rfl, members_none.2 he, hp⟩

theorem off_park : Off k ce (ce.park k r o) :=
  ⟨fun _ _ => rfl, fun _ hj => Dict.get?_insert_ne _ _ hj, fun _ _ => rfl⟩

theorem pending_park : (ce.park k r o).pending.get? k = some ([r], o) :=
  Dict.get?_insert_self _ _ _

/-! ## `discard_pending` -/

theorem off_discard : Off k ce (ce.discardPending k) :=
  ⟨fun _ _ => rfl, fun _ hj => Dict.get?_erase_ne _ hj, fun _ hj => Dict.get?_erase_ne _ hj⟩

@[simp] theorem pending_discard : (ce.discardPending k).pending.get? k = none :=
  Dict.get?_erase_self _ _

@[simp] theorem ready_discard : (ce.discardPending k).ready.get? k = none :=
  Dict.get?_erase_self _ _

/-! ## `remove_effective` -/

/-- The key is in none of the three tables. -/
def drop (ce : CheckpointEngineManager) (k : ReplicaKey) (rs : List Replica) :
    CheckpointEngineManager :=
  discardPending { ce with
    replicas := ce.replicas.filter fun r => r ∉ rs
    effective := ce.effective.erase k } k

theorem removeEffective_ok {refused : Bool} (h : ce.removeEffective refused k = .ok ce') :
    (ce.members k = none ∧ ce' = ce.discardPending k) ∨
    ∃ rs, ce.members k = some rs ∧ ce' = ce.drop k rs := by
  unfold removeEffective at h
  split at h
  · rename_i he
    cases h; exact .inl ⟨members_none.2 he, rfl⟩
  · rename_i rs v he
    split at h
    · cases h
    · cases h; exact .inr ⟨rs, members_eq he, rfl⟩

theorem members_drop : (ce.drop k rs).members j = if k = j then none else ce.members j := by
  show ((ce.effective.erase k).get? j).map Prod.fst = _
  rw [Dict.get?_erase]
  split <;> rfl

theorem pending_drop : (ce.drop k rs).pending.get? j =
    if k = j then none else ce.pending.get? j := Dict.get?_erase _ _ _

theorem ready_drop : (ce.drop k rs).ready.get? j =
    if k = j then none else ce.ready.get? j := Dict.get?_erase _ _ _

theorem off_drop : Off k ce (ce.drop k rs) :=
  ⟨fun _ hj => by rw [members_drop, if_neg hj], fun _ hj => by rw [pending_drop, if_neg hj],
    fun _ hj => by rw [ready_drop, if_neg hj]⟩

/-- After `remove_effective` the key is in none of the tables, and nothing else has changed. -/
theorem removeEffective_gone {refused : Bool} (h : ce.removeEffective refused k = .ok ce') :
    ce'.members k = none ∧ ce'.pending.get? k = none ∧ ce'.ready.get? k = none ∧ Off k ce ce' := by
  rcases removeEffective_ok h with ⟨hm, rfl⟩ | ⟨rs, -, rfl⟩
  · exact ⟨hm, by simp, by simp, off_discard⟩
  · exact ⟨by rw [members_drop, if_pos rfl], by rw [pending_drop, if_pos rfl],
      by rw [ready_drop, if_pos rfl], off_drop⟩

/-! ## `commit_pending` -/

/-- The parked runtimes become effective at a version. -/
def promote (ce : CheckpointEngineManager) (k : ReplicaKey) (rs : List Replica) (v : Nat) :
    CheckpointEngineManager :=
  { ce with
    replicas := ce.replicas ++ rs.filter fun r => r ∉ ce.replicas
    effective := ce.effective.insert k (rs, v)
    pending := ce.pending.erase k }

theorem commitPending_ok {refused : Bool} (h : ce.commitPending refused k ev v = .ok ce') :
    (ce' = ce ∧ (ce.members k).isSome) ∨
    ∃ rs o, ce.pending.get? k = some (rs, o) ∧ ce' = ce.promote k rs v := by
  unfold commitPending at h
  split at h
  · cases h
  cases hp : ce.pending.get? k with
  | none =>
    simp only [hp] at h
    split at h
    · rename_i hm
      split at h
      · cases h
      split at h
      · cases h
      · cases h; exact .inl ⟨rfl, by simp [members, hm]⟩
    · cases h
    · rename_i he
      cases he
  | some e =>
    obtain ⟨rs, o⟩ := e
    simp only [hp] at h
    split at h
    · cases h
    split at h
    · cases h
    split at h
    · cases h
    · rename_i ce₁ ha
      cases h
      refine .inr ⟨rs, o, rfl, ?_⟩
      unfold addEffective at ha
      split at ha
      · cases ha
      split at ha
      · cases ha
      dsimp only at ha
      split at ha
      · cases ha
      split at ha
      · cases ha
      · cases ha; rfl

theorem members_promote : (ce.promote k rs v).members j =
    if k = j then some rs else ce.members j := by
  simp only [promote, members, Dict.get?_insert]
  split <;> rfl

theorem off_promote : Off k ce (ce.promote k rs v) :=
  ⟨fun _ hj => by rw [members_promote, if_neg hj], fun _ hj => Dict.get?_erase_ne _ hj,
    fun _ _ => rfl⟩

@[simp] theorem pending_promote : (ce.promote k rs v).pending.get? k = none :=
  Dict.get?_erase_self _ _

/-! ## `mark_all_loaded_version` -/

@[simp] theorem members_markAll : (ce.markAllLoadedVersion v).members k = ce.members k := by
  rw [members, effective_markAll, Option.map_map]
  rfl

end CheckpointEngineManager

open CheckpointEngineManager

namespace Wired

variable {m : LLMServerManager} {ce : CheckpointEngineManager} {k : ReplicaKey} {r : Replica}
  {rs : List Replica} {o : String} {v : Nat}

/-- Receipts and versions are not part of the wiring, and pending entries may go. -/
theorem congr (h : Wired m ce) {ce' : CheckpointEngineManager}
    (hm : ∀ k, ce'.members k = ce.members k)
    (hp : ∀ {k e}, ce'.pending.get? k = some e → ce.pending.get? k = some e)
    (hr : ce'.replicas = ce.replicas) : Wired m ce' := by
  have hold : ∀ {j x}, Holds m ce' j x → Holds m ce j x := by
    rintro j x (hi | hx | ⟨o, hx⟩)
    · exact .inl hi
    · exact .inr (.inl (by rw [← hm]; exact hx))
    · exact .inr (.inr ⟨o, hp hx⟩)
  exact { h with
    holds_inj := fun a b => h.holds_inj (hold a) (hold b)
    rank_lt := fun a => h.rank_lt (hold a)
    active_member := fun a => by rw [hm]; exact h.active_member a
    member := fun a => h.member (by rw [← hm]; exact a)
    pending := fun a => h.pending (hp a)
    disjoint := by
      intro j hj
      rw [hm] at hj
      refine Option.eq_none_iff_forall_ne_some.2 fun e he => ?_
      exact absurd (hp he) (by rw [h.disjoint hj]; simp)
    receivers := fun x => by rw [hr, h.receivers]; simp only [hm] }

theorem park (h : Wired m ce) (hi : m.runtimeInventory.get? k = some r)
    (hm : ce.members k = none) : Wired m (ce.park k r o) := by
  have hget : ∀ j, (ce.park k r o).pending.get? j =
      if k = j then some ([r], o) else ce.pending.get? j := fun j => Dict.get?_insert _ _ _ _
  have hold : ∀ {j x}, Holds m (ce.park k r o) j x → Holds m ce j x := by
    rintro j x (hx | hx | ⟨o', hx⟩)
    · exact .inl hx
    · exact .inr (.inl hx)
    · rw [hget] at hx
      split at hx
      · rename_i hk
        cases hx; subst hk; exact .inl hi
      · exact .inr (.inr ⟨o', hx⟩)
  exact { h with
    holds_inj := fun a b => h.holds_inj (hold a) (hold b)
    rank_lt := fun a => h.rank_lt (hold a)
    pending := by
      intro j rs o' hp
      rw [hget] at hp
      split at hp
      · rename_i hk
        cases hp; subst hk; exact ⟨r, rfl, hi⟩
      · exact h.pending hp
    disjoint := by
      intro j hj
      have hkj : k ≠ j := by
        rintro rfl
        rw [show (ce.park k r o).members k = ce.members k from rfl, hm] at hj
        cases hj
      rw [hget, if_neg hkj]
      exact h.disjoint hj }

theorem discard (h : Wired m ce) : Wired m (ce.discardPending k) := by
  refine h.congr (fun _ => rfl) (fun {j e} he => ?_) rfl
  rw [show (ce.discardPending k).pending.get? j = _ from Dict.get?_erase _ _ _] at he
  split at he
  · cases he
  · exact he

/-- A member leaves; it must not be ACTIVE then. -/
theorem drop (h : Wired m ce) (hm : ce.members k = some rs)
    (hs : m.replicaState.get? k ≠ some .active) : Wired m (ce.drop k rs) := by
  have hold : ∀ {j x}, Holds m (ce.drop k rs) j x → Holds m ce j x := by
    rintro j x (hx | hx | ⟨o, hx⟩)
    · exact .inl hx
    · rw [members_drop] at hx
      split at hx
      · cases hx
      · exact .inr (.inl hx)
    · rw [pending_drop] at hx
      split at hx
      · cases hx
      · exact .inr (.inr ⟨o, hx⟩)
  have hne : ∀ {j}, ((ce.drop k rs).members j).isSome → k ≠ j ∧ (ce.members j).isSome := by
    intro j hj
    rw [members_drop] at hj
    split at hj
    · cases hj
    · exact ⟨‹_›, hj⟩
  exact { h with
    holds_inj := fun a b => h.holds_inj (hold a) (hold b)
    rank_lt := fun a => h.rank_lt (hold a)
    active_member := by
      intro j hj
      have hkj : k ≠ j := by rintro rfl; exact hs hj
      rw [members_drop, if_neg hkj]
      exact h.active_member hj
    member := by
      intro j rs' hj
      rw [members_drop] at hj
      split at hj
      · cases hj
      · exact h.member hj
    pending := by
      intro j rs' o hj
      rw [pending_drop] at hj
      split at hj
      · cases hj
      · exact h.pending hj
    disjoint := by
      intro j hj
      obtain ⟨hkj, hj⟩ := hne hj
      rw [pending_drop, if_neg hkj]
      exact h.disjoint hj
    receivers := by
      intro x
      obtain ⟨r, rfl, -⟩ := h.member hm
      rw [show (ce.drop k [r]).replicas = ce.replicas.filter fun x => x ∉ [r] from rfl,
        List.mem_filter, h.receivers]
      simp only [List.mem_singleton, decide_not, Bool.not_eq_true', decide_eq_false_iff_not]
      constructor
      · rintro ⟨⟨j, hj⟩, hx⟩
        have hkj : k ≠ j := by
          rintro rfl
          rw [hm] at hj
          cases hj; exact hx rfl
        exact ⟨j, by rw [members_drop, if_neg hkj]; exact hj⟩
      · rintro ⟨j, hj⟩
        obtain ⟨hkj, -⟩ := hne (by rw [hj]; rfl)
        rw [members_drop, if_neg hkj] at hj
        refine ⟨⟨j, hj⟩, ?_⟩
        rintro rfl
        exact hkj (h.holds_inj (.inr (.inl hm)) (.inr (.inl hj)) rfl).1 }

/-- A parked runtime becomes effective. -/
theorem promote (h : Wired m ce) (hp : ce.pending.get? k = some (rs, o)) :
    Wired m (ce.promote k rs v) := by
  obtain ⟨r, rfl, hi⟩ := h.pending hp
  have hnone : ce.members k = none := by
    refine Option.eq_none_iff_forall_ne_some.2 fun rs hrs => ?_
    have := h.disjoint (k := k) (by rw [hrs]; rfl)
    rw [this] at hp
    cases hp
  have hpend : ∀ {j}, (ce.promote k [r] v).pending.get? j =
      if k = j then none else ce.pending.get? j := Dict.get?_erase _ _ _
  have hold : ∀ {j x}, Holds m (ce.promote k [r] v) j x → Holds m ce j x := by
    rintro j x (hx | hx | ⟨o', hx⟩)
    · exact .inl hx
    · rw [members_promote] at hx
      split at hx
      · rename_i hk
        cases hx; subst hk; exact .inl hi
      · exact .inr (.inl hx)
    · rw [hpend] at hx
      split at hx
      · cases hx
      · exact .inr (.inr ⟨o', hx⟩)
  exact { h with
    holds_inj := fun a b => h.holds_inj (hold a) (hold b)
    rank_lt := fun a => h.rank_lt (hold a)
    active_member := by
      intro j hj
      rw [members_promote]
      split
      · rfl
      · exact h.active_member hj
    member := by
      intro j rs hj
      rw [members_promote] at hj
      split at hj
      · rename_i hk
        cases hj; subst hk; exact ⟨r, rfl, .inl hi⟩
      · exact h.member hj
    pending := by
      intro j rs o' hj
      rw [hpend] at hj
      split at hj
      · cases hj
      · exact h.pending hj
    disjoint := by
      intro j hj
      rw [hpend]
      split
      · rfl
      · rename_i hk
        rw [members_promote, if_neg hk] at hj
        exact h.disjoint hj
    receivers := by
      intro x
      rw [show (ce.promote k [r] v).replicas =
        ce.replicas ++ [r].filter (fun x => x ∉ ce.replicas) from rfl, List.mem_append,
        List.mem_filter]
      simp only [List.mem_singleton, members_promote]
      constructor
      · rintro (hx | ⟨rfl, -⟩)
        · obtain ⟨j, hj⟩ := (h.receivers x).1 hx
          by_cases hk : k = j
          · subst hk; rw [hnone] at hj; cases hj
          · exact ⟨j, by rw [if_neg hk]; exact hj⟩
        · exact ⟨k, by rw [if_pos rfl]⟩
      · rintro ⟨j, hj⟩
        split at hj
        · cases hj
          by_cases hr : r ∈ ce.replicas
          · exact .inl hr
          · exact .inr ⟨rfl, by simpa using hr⟩
        · exact .inl ((h.receivers x).2 ⟨j, hj⟩) }

end Wired

end ReplicaLending
