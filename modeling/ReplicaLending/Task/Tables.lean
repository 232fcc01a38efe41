import Mathlib.Data.List.InsertIdx
import ReplicaLending.Task.Invariant
/-!
# What the owners' methods do to their tables

For each method of the Manager, the checkpoint engine and the load balancer: when it succeeds and
what it has written then, and that it keeps the parts of the invariant that are about its tables.
-/

namespace ReplicaLending

/-! ## The Manager -/

namespace LLMServerManager

variable {m m' : LLMServerManager} {k j : ReplicaKey} {st cur : ReplicaState} {kind : ReplicaKind}

theorem get?_move : (m.move k st).replicaState.get? j =
    if k = j then some st else m.replicaState.get? j := Dict.get?_insert _ _ _ _

theorem runtime_move : (m.move k st).runtimeInventory.get? j =
    if st = .released ∧ k = j then none else m.runtimeInventory.get? j := by
  by_cases h : st = .released
  · simp [move, h, Dict.get?_erase]
  · simp [move, h]

theorem runtime_move_of_ne (h : st ≠ .released) :
    (m.move k st).runtimeInventory = m.runtimeInventory := by simp [move, h]

/-- The state a kind may not enter. -/
def Enterable (kind : ReplicaKind) (st : ReplicaState) : Prop :=
  (kind = .borrowed → st ≠ .dormant) ∧ (kind = .native → st ≠ .released)

theorem validateKindState_ok : validateKindState kind st = .ok () ↔ Enterable kind st := by
  unfold validateKindState Enterable
  cases kind <;> cases st <;> simp

/-- A transition the table of allowed ones has, to a state its kind may enter. -/
theorem transitionReplica_eq (hs : m.replicaState.get? k = some cur)
    (hk : m.replicaKind.get? k = some kind) (ha : st ∈ cur.allowed) (hv : Enterable kind st) :
    m.transitionReplica k st = .ok (m.move k st) := by
  have hne : st ≠ cur := by rintro rfl; revert ha; cases st <;> decide
  simp only [transitionReplica, hs, hk, if_neg hne, ha, not_true_eq_false, if_false,
    validateKindState_ok.2 hv]

/-- What any successful transition is. -/
theorem transitionReplica_ok (h : m.transitionReplica k st = .ok m') :
    (m' = m ∧ m.replicaState.get? k = some st) ∨ (m' = m.move k st ∧ ∃ cur kind,
      m.replicaState.get? k = some cur ∧ m.replicaKind.get? k = some kind ∧ st ∈ cur.allowed ∧
      Enterable kind st) := by
  unfold transitionReplica at h
  split at h
  case h_2 => cases h
  case h_1 cur kind hs hk =>
    split at h
    · rename_i he
      cases h
      exact .inl ⟨rfl, by rw [hs, he]⟩
    split at h
    · cases h
    rename_i ha
    split at h
    · cases h
    · rename_i hv
      cases h
      exact .inr ⟨rfl, cur, kind, hs, hk, not_not.1 ha, validateKindState_ok.1 hv⟩

theorem borrowedRecordForKey_eq {e : String × BorrowedRecord}
    (h : m.borrowedRecordForKey k = .ok e) :
    m.borrowedOperations.get? e.1 = some e.2 ∧ e.2.resolved.spec.names k := by
  unfold borrowedRecordForKey at h
  split at h
  · rename_i e' he
    cases h
    have hmem : e ∈ m.borrowedOperations.entries.filter fun e => e.2.resolved.spec.names k := by
      rw [he]; exact List.mem_singleton_self _
    obtain ⟨hm, hn⟩ := List.mem_filter.1 hmem
    exact ⟨Dict.mem_entries.1 hm, by simpa using hn⟩
  · cases h

theorem replicaMeta_ok {p : ReplicaKind × ReplicaState} :
    m.replicaMeta k = .ok p ↔
      m.replicaKind.get? k = some p.1 ∧ m.replicaState.get? k = some p.2 := by
  unfold replicaMeta
  cases m.replicaKind.get? k <;> cases m.replicaState.get? k <;> simp [Prod.ext_iff]

end LLMServerManager

namespace Wired

variable {m : LLMServerManager} {ce : CheckpointEngineManager} {k k' : ReplicaKey} {r r' : Replica}
  {st : ReplicaState}

/-- A key that has a member or a pending receiver is registered and not without a runtime, unless
it was released. -/
theorem member_runtime (h : Wired m ce) {rs : List Replica} (hm : ce.members k = some rs)
    (hs : m.replicaState.get? k ≠ some .released) :
    ∃ r, rs = [r] ∧ m.runtimeInventory.get? k = some r := by
  obtain ⟨r, hr, hi | hi⟩ := h.member hm
  · exact ⟨r, hr, hi⟩
  · exact absurd hi hs

theorem registered (h : Wired m ce) (hi : m.runtimeInventory.get? k = some r) :
    (m.replicaState.get? k).isSome := by
  rw [← h.kind_state, h.runtime_kind hi]; rfl

theorem kind_of_state (h : Wired m ce) (hs : m.replicaState.get? k = some st) :
    ∃ kind, m.replicaKind.get? k = some kind := by
  have := h.kind_state k
  rw [hs] at this
  exact Option.isSome_iff_exists.1 this

theorem native_of_dormant (h : Wired m ce) (hs : m.replicaState.get? k = some .dormant) :
    m.replicaKind.get? k = some .native := by
  obtain ⟨kind, hk⟩ := h.kind_of_state hs
  cases kind with
  | native => exact hk
  | borrowed => exact absurd hs (h.borrowed_state hk)

theorem active_runtime (h : Wired m ce) (hs : m.replicaState.get? k = some .active) :
    ∃ r, m.runtimeInventory.get? k = some r ∧ ce.members k = some [r] := by
  obtain ⟨rs, hrs⟩ := Option.isSome_iff_exists.1 (h.active_member hs)
  obtain ⟨r, rfl, hi⟩ := h.member_runtime hrs (by rw [hs]; simp)
  exact ⟨r, hi, hrs⟩

/-- A transition of the ledger. A key leaves the inventory when it is released; it must not be
pending then. -/
theorem move (h : Wired m ce) {cur : ReplicaState} {kind : ReplicaKind}
    (hs : m.replicaState.get? k = some cur) (hk : m.replicaKind.get? k = some kind)
    (ha : st ∈ cur.allowed) (hv : LLMServerManager.Enterable kind st)
    (hact : st = .active → (ce.members k).isSome)
    (hrel : st = .released → ce.pending.get? k = none) : Wired (m.move k st) ce := by
  have hcur : cur ≠ .released := by rintro rfl; cases ha
  have hcre : st ≠ .creating := by rintro rfl; revert ha; cases cur <;> decide
  have hsub : ∀ {j : ReplicaKey} {r : Replica}, (m.move k st).runtimeInventory.get? j = some r →
      m.runtimeInventory.get? j = some r := by
    intro j r hj
    rw [LLMServerManager.runtime_move] at hj
    split at hj
    · cases hj
    · exact hj
  have hold : ∀ {j : ReplicaKey} {r : Replica}, Holds (m.move k st) ce j r → Holds m ce j r := by
    rintro j r (hi | hm)
    · exact .inl (hsub hi)
    · exact .inr hm
  have hstate : ∀ {j : ReplicaKey}, k ≠ j →
      (m.move k st).replicaState.get? j = m.replicaState.get? j := fun hj => by
    rw [LLMServerManager.get?_move, if_neg hj]
  have hself : (m.move k st).replicaState.get? k = some st := by
    rw [LLMServerManager.get?_move, if_pos rfl]
  constructor
  case holds_inj => exact fun a b => h.holds_inj (hold a) (hold b)
  case rank_lt => exact fun a => h.rank_lt (hold a)
  case address_inj => exact fun a b => h.address_inj (hsub a) (hsub b)
  case runtime_kind => exact fun a => h.runtime_kind (hsub a)
  case kind_state =>
    intro j
    by_cases hj : k = j
    · subst hj; rw [hself]; exact (h.kind_state k).trans (by rw [hs]; rfl)
    · rw [hstate hj]; exact h.kind_state j
  case native_state =>
    intro j hj
    by_cases hkj : k = j
    · subst hkj
      have hn : kind = .native := Option.some.inj (hk.symm.trans hj)
      have hne : st ≠ .released := hv.2 hn
      rw [hself, LLMServerManager.runtime_move_of_ne hne]
      exact ⟨by simpa using hcre, by simpa using hne, (h.native_state hj).2.2⟩
    · rw [hstate hkj, LLMServerManager.runtime_move, if_neg fun a => hkj a.2]
      exact h.native_state hj
  case borrowed_state =>
    intro j hj
    by_cases hkj : k = j
    · subst hkj
      rw [hself]
      simpa using hv.1 (Option.some.inj (hk.symm.trans hj))
    · rw [hstate hkj]; exact h.borrowed_state hj
  case active_member =>
    intro j hj
    by_cases hkj : k = j
    · subst hkj
      rw [hself] at hj
      exact hact (Option.some.inj hj)
    · rw [hstate hkj] at hj; exact h.active_member hj
  case member =>
    intro j rs hm
    by_cases hkj : k = j
    · subst hkj
      obtain ⟨r, hr, hi⟩ := h.member_runtime hm (by rw [hs]; simpa using hcur)
      refine ⟨r, hr, ?_⟩
      by_cases hst : st = .released
      · exact .inr (by rw [hself, hst])
      · exact .inl (by rw [LLMServerManager.runtime_move_of_ne hst]; exact hi)
    · rw [hstate hkj, LLMServerManager.runtime_move, if_neg fun a => hkj a.2]
      exact h.member hm
  case pending =>
    intro j rs o hp
    obtain ⟨r, hr, hi⟩ := h.pending hp
    refine ⟨r, hr, ?_⟩
    rw [LLMServerManager.runtime_move, if_neg ?_]
    · exact hi
    · rintro ⟨hst, rfl⟩
      rw [hrel hst] at hp; cases hp
  case disjoint => exact h.disjoint
  case receivers => exact h.receivers
  case released_gone =>
    intro j hj
    rw [LLMServerManager.runtime_move]
    by_cases hkj : k = j
    · subst hkj
      rw [hself] at hj
      rw [if_pos ⟨Option.some.inj hj, rfl⟩]
    · rw [hstate hkj] at hj
      rw [if_neg fun a => hkj a.2]
      exact h.released_gone hj

end Wired

namespace Listed

variable {m : LLMServerManager} {k j : ReplicaKey} {r : Replica} {st cur : ReplicaState}

theorem runtime_of_move (h : (m.move k st).runtimeInventory.get? j = some r) :
    m.runtimeInventory.get? j = some r := by
  rw [LLMServerManager.runtime_move] at h
  split at h
  · cases h
  · exact h

theorem move (h : Listed m) (hs : m.replicaState.get? k = some cur) (ha : st ∈ cur.allowed)
    (hact : st ≠ .active) (hun : st = .released ∨ st = .dormant → Unlisted m k) :
    Listed (m.move k st) where
  nodup := h.nodup
  addresses := h.addresses
  handles := h.handles
  owned := by
    intro r hr
    obtain ⟨j, hj⟩ := h.owned hr
    refine ⟨j, ?_⟩
    rw [LLMServerManager.runtime_move, if_neg ?_]
    · exact hj
    · rintro ⟨hst, rfl⟩
      exact hun (.inl hst) r hj hr
  creating := by
    intro j r hj hr
    rw [LLMServerManager.get?_move] at hj
    split at hj
    · cases hj; revert ha; cases cur <;> simp [ReplicaState.allowed]
    · exact h.creating hj (runtime_of_move hr)
  active := by
    intro j r hj hr
    rw [LLMServerManager.get?_move] at hj
    split at hj
    · exact (hact (Option.some.inj hj)).elim
    · exact h.active hj (runtime_of_move hr)
  dormant := by
    intro j r hj hr
    rw [LLMServerManager.get?_move] at hj
    split at hj
    · rename_i hk
      subst hk
      exact hun (.inr (Option.some.inj hj)) r (runtime_of_move hr)
    · exact h.dormant hj (runtime_of_move hr)

end Listed


/-! ## The service lists -/

theorem idxOf_map {α β : Type} [DecidableEq α] [DecidableEq β] {f : α → β} {a : α} :
    ∀ {l : List α}, (∀ b ∈ l, f b = f a → b = a) → (l.map f).idxOf (f a) = l.idxOf a
  | [], _ => rfl
  | b :: l, h => by
    by_cases hb : b = a
    · subst hb; simp
    · have hf : f b ≠ f a := fun e => hb (h b (by simp) e)
      rw [List.map_cons, List.idxOf_cons_ne _ hf, List.idxOf_cons_ne _ hb,
        idxOf_map fun c hc => h c (by simp [hc])]

namespace LLMServerManager

variable {m : LLMServerManager} {ce : CheckpointEngineManager} {k : ReplicaKey} {r : Replica}

/-- The three lists over one list of runtimes. -/
def withList (m : LLMServerManager) (rs : List Replica) : LLMServerManager :=
  { m with
    rolloutReplicas := rs
    serverAddresses := rs.map Replica.address
    serverHandles := rs.map Replica.rank }

theorem withList_self (hl : Listed m) : m.withList m.rolloutReplicas = m := by
  unfold withList
  rw [← hl.addresses, ← hl.handles]

theorem address_inj_list (hw : Wired m ce) (hl : Listed m)
    (hi : m.runtimeInventory.get? k = some r) :
    ∀ b ∈ m.rolloutReplicas, b.address = r.address → b = r := by
  intro b hb he
  obtain ⟨j, hj⟩ := hl.owned hb
  have hjk : j = k := hw.address_inj hj hi he
  rw [hjk, hi] at hj
  exact (Option.some.inj hj).symm

/-- The three lists are one, and no other runtime in it has this one's address. -/
structure Aligned (m : LLMServerManager) (r : Replica) : Prop where
  addresses : m.serverAddresses = m.rolloutReplicas.map Replica.address
  handles : m.serverHandles = m.rolloutReplicas.map Replica.rank
  inj : ∀ b ∈ m.rolloutReplicas, b.address = r.address → b = r

theorem aligned (hw : Wired m ce) (hl : Listed m) (hi : m.runtimeInventory.get? k = some r) :
    Aligned m r := ⟨hl.addresses, hl.handles, address_inj_list hw hl hi⟩

theorem Aligned.move (h : Aligned m r) {st : ReplicaState} : Aligned (m.move k st) r :=
  ⟨h.addresses, h.handles, h.inj⟩

theorem Aligned.serviceSlot_listed (h : Aligned m r) (hi : m.runtimeInventory.get? k = some r)
    {require : Bool} (ha : require = true → r.address ≠ "") (hr : r ∈ m.rolloutReplicas) :
    m.serviceSlot k require = .ok (r, some (m.rolloutReplicas.idxOf r)) := by
  have hmem : r.address ∈ m.serverAddresses := by
    rw [h.addresses]; exact List.mem_map_of_mem hr
  have hidx : m.serverAddresses.idxOf r.address = m.rolloutReplicas.idxOf r := by
    rw [h.addresses]; exact idxOf_map h.inj
  have hget : m.serverHandles[m.rolloutReplicas.idxOf r]? = some r.rank := by
    rw [h.handles, List.getElem?_map, List.getElem?_idxOf hr]; rfl
  unfold serviceSlot
  simp only [hi]
  rw [if_neg fun h => ha h.1 h.2, if_pos hmem, hidx, if_neg (by rw [hget]; simp)]

theorem Aligned.serviceSlot_unlisted (h : Aligned m r) (hi : m.runtimeInventory.get? k = some r)
    {require : Bool} (ha : require = true → r.address ≠ "") (hr : r ∉ m.rolloutReplicas) :
    m.serviceSlot k require = .ok (r, none) := by
  have hmem : r.address ∉ m.serverAddresses := by
    rw [h.addresses]
    intro hm
    obtain ⟨b, hb, he⟩ := List.mem_map.1 hm
    exact hr (h.inj b hb he ▸ hb)
  unfold serviceSlot
  simp only [hi]
  rw [if_neg fun h => ha h.1 h.2, if_neg hmem]

/-- `deactivate_service` takes the runtime out of all three lists, and cannot fail. -/
theorem Aligned.deactivateService_eq (h : Aligned m r) (hi : m.runtimeInventory.get? k = some r) :
    m.deactivateService k = .ok (m.withList (m.rolloutReplicas.erase r)) := by
  unfold deactivateService
  by_cases hr : r ∈ m.rolloutReplicas
  · rw [h.serviceSlot_listed hi (by simp) hr]
    simp only [withList, ← List.eraseIdx_idxOf_eq_erase, List.eraseIdx_map, h.addresses, h.handles]
  · rw [h.serviceSlot_unlisted hi (by simp) hr]
    simp only [withList, List.erase_of_not_mem hr, ← h.addresses, ← h.handles]

/-- `activate_service` puts the runtime of a routable key into all three lists. -/
theorem Aligned.activateService_eq (h : Aligned m r) (hi : m.runtimeInventory.get? k = some r)
    (ha : r.address ≠ "") : m.activateService k = .ok (m.withList
      (if r ∈ m.rolloutReplicas then m.rolloutReplicas else m.rolloutReplicas ++ [r])) := by
  unfold activateService
  by_cases hr : r ∈ m.rolloutReplicas
  · rw [h.serviceSlot_listed hi (fun _ => ha) hr]
    simp only [hr, if_true, withList, ← h.addresses, ← h.handles, Option.isNone_some,
      Bool.false_eq_true, if_false]
  · rw [h.serviceSlot_unlisted hi (fun _ => ha) hr]
    simp only [hr, if_false, withList, Option.isNone_none, if_true, List.map_append, List.map_cons,
      List.map_nil, h.addresses, h.handles]

/-- An activation is undone by a deactivation. -/
theorem Aligned.deactivate_activated (h : Aligned m r) (hi : m.runtimeInventory.get? k = some r) :
    (m.withList (if r ∈ m.rolloutReplicas then m.rolloutReplicas
      else m.rolloutReplicas ++ [r])).deactivateService k =
        .ok (m.withList (m.rolloutReplicas.erase r)) := by
  by_cases hr : r ∈ m.rolloutReplicas
  · rw [if_pos hr]
    exact Aligned.deactivateService_eq (m := m.withList m.rolloutReplicas) ⟨rfl, rfl, h.inj⟩ hi
  · rw [if_neg hr]
    have happ : Aligned (m.withList (m.rolloutReplicas ++ [r])) r := by
      refine ⟨rfl, rfl, fun b hb he => ?_⟩
      rcases List.mem_append.1 hb with hb | hb
      · exact h.inj b hb he
      · exact List.mem_singleton.1 hb
    rw [happ.deactivateService_eq hi]
    show Except.ok (m.withList ((m.rolloutReplicas ++ [r]).erase r)) = _
    rw [List.erase_append_right _ hr, List.erase_cons_head, List.append_nil,
      List.erase_of_not_mem hr]

/-- An activation that succeeds is of a routable runtime. -/
theorem activateService_ok {m' : LLMServerManager} (h : m.activateService k = .ok m') :
    ∃ r, m.runtimeInventory.get? k = some r ∧ r.address ≠ "" := by
  unfold activateService serviceSlot at h
  cases hi : m.runtimeInventory.get? k with
  | none => simp [hi] at h
  | some r =>
    refine ⟨r, rfl, fun ha => ?_⟩
    simp [hi, ha] at h

end LLMServerManager

theorem Wired.withList {m : LLMServerManager} {ce : CheckpointEngineManager} (h : Wired m ce)
    (rs : List Replica) : Wired (m.withList rs) ce := { h with }

theorem Listed.withErase {m : LLMServerManager} (h : Listed m) {r : Replica}
    (hc : ∀ j, m.runtimeInventory.get? j = some r → m.replicaState.get? j ≠ some .active) :
    Listed (m.withList (m.rolloutReplicas.erase r)) where
  nodup := h.nodup.erase r
  addresses := rfl
  handles := rfl
  owned := fun hr => h.owned (List.mem_of_mem_erase hr)
  creating := fun hs hi hr => h.creating hs hi (List.mem_of_mem_erase hr)
  active := by
    intro j a hs hi
    refine (List.mem_erase_of_ne ?_).2 (h.active hs hi)
    rintro rfl
    exact hc j hi hs
  dormant := fun hs hi hr => h.dormant hs hi (List.mem_of_mem_erase hr)

/-- A record becomes ACTIVE as its runtime is listed. -/
theorem Listed.activate {m : LLMServerManager} (h : Listed m) {k : ReplicaKey} {r : Replica}
    (hi : m.runtimeInventory.get? k = some r)
    (hinj : ∀ j, m.runtimeInventory.get? j = some r → j = k) :
    Listed ((m.move k .active).withList (if r ∈ m.rolloutReplicas then m.rolloutReplicas
      else m.rolloutReplicas ++ [r])) := by
  have hmem : ∀ a, a ∈ (if r ∈ m.rolloutReplicas then m.rolloutReplicas
      else m.rolloutReplicas ++ [r]) ↔ a ∈ m.rolloutReplicas ∨ a = r := by
    intro a
    split
    · exact ⟨.inl, fun ha => ha.elim id fun he => he ▸ ‹_›⟩
    · rw [List.mem_append, List.mem_singleton]
  have hstate : ∀ {j st}, (m.move k .active).replicaState.get? j = some st → st ≠ .active →
      j ≠ k ∧ m.replicaState.get? j = some st := by
    intro j st hj hne
    rw [LLMServerManager.get?_move] at hj
    split at hj
    · exact (hne (Option.some.inj hj).symm).elim
    · exact ⟨fun he => ‹¬ k = j› he.symm, hj⟩
  have hrun : ∀ {j}, (m.move k .active).runtimeInventory.get? j = m.runtimeInventory.get? j :=
    congrArg (Dict.get? · _) (LLMServerManager.runtime_move_of_ne ReplicaState.noConfusion)
  constructor
  case nodup =>
    show (if r ∈ m.rolloutReplicas then _ else _ : List Replica).Nodup
    split
    · exact h.nodup
    · rename_i hr
      refine List.nodup_append.2 ⟨h.nodup, List.nodup_singleton r, fun a ha b hb hab => ?_⟩
      rw [List.mem_singleton.1 hb] at hab
      exact hr (hab ▸ ha)
  case addresses => rfl
  case handles => rfl
  case owned =>
    intro a ha
    rcases (hmem a).1 ha with ha | rfl
    · obtain ⟨j, hj⟩ := h.owned ha
      exact ⟨j, hrun.trans hj⟩
    · exact ⟨k, hrun.trans hi⟩
  case creating =>
    intro j a hj ha hm
    obtain ⟨hne, hj⟩ := hstate hj (by decide)
    replace ha : m.runtimeInventory.get? j = some a := hrun.symm.trans ha
    rcases (hmem a).1 hm with hm | rfl
    · exact h.creating hj ha hm
    · exact hne (hinj j ha)
  case active =>
    intro j a hj ha
    replace ha : m.runtimeInventory.get? j = some a := hrun.symm.trans ha
    refine (hmem a).2 ?_
    by_cases he : j = k
    · rw [he, hi] at ha
      exact .inr (Option.some.inj ha).symm
    · replace hj : (m.move k .active).replicaState.get? j = some .active := hj
      rw [LLMServerManager.get?_move, if_neg (Ne.symm he)] at hj
      exact .inl (h.active hj ha)
  case dormant =>
    intro j a hj ha hm
    obtain ⟨hne, hj⟩ := hstate hj (by decide)
    replace ha : m.runtimeInventory.get? j = some a := hrun.symm.trans ha
    rcases (hmem a).1 hm with hm | rfl
    · exact h.dormant hj ha hm
    · exact hne (hinj j ha)

end ReplicaLending
