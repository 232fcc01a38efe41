import ReplicaLending.Router.Machine
/-!
# The attempt ledger

`active_request_server` holds a request exactly while its last attempt is ADMITTED or TERMINATED,
`_settled_count` counts the SETTLED attempts, retention forgets only settled ones, and an attempt is
released to the parent router at most once.

A release names a request and a server, not an attempt (load_balancer.py:98). When an id has been
readmitted on the same server, a duplicate of the earlier attempt's release is therefore taken for
the release of the running one.
-/

namespace ReplicaLending

namespace GlobalRequestLoadBalancer

variable {lb lb' : GlobalRequestLoadBalancer} {r x : String}

/-- ADMITTED or TERMINATED. -/
def Unsettled (lb : GlobalRequestLoadBalancer) (r : String) : Prop :=
  lb.attemptState.get? r = some .admitted ∨ lb.attemptState.get? r = some .terminated

def settled (st : AttemptState) : Bool := st = .settled

structure AttemptsOk (lb : GlobalRequestLoadBalancer) : Prop where
  active : ∀ r, (lb.activeRequestServer.get? r).isSome ↔ lb.Unsettled r
  count : lb.settledCount = lb.attemptState.count settled

/-- The attempt tables of two load balancers are the same. -/
def SameAttempts (lb lb' : GlobalRequestLoadBalancer) : Prop :=
  lb'.attemptState = lb.attemptState ∧ lb'.activeRequestServer = lb.activeRequestServer ∧
    lb'.settledCount = lb.settledCount

theorem AttemptsOk.same (h : AttemptsOk lb) (he : SameAttempts lb lb') : AttemptsOk lb' where
  active := by
    intro r
    rw [Unsettled, he.1, he.2.1]
    exact h.active r
  count := by rw [he.2.2, he.1]; exact h.count

theorem weight_settled {o : Option AttemptState} :
    Dict.weight settled o = if o = some .settled then 1 else 0 := by
  cases o with
  | none => rfl
  | some st => cases st <;> rfl

/-! ## Retention -/

/-- What retention evicts is settled, and the counter follows. -/
theorem gc_eq (lb : GlobalRequestLoadBalancer) : ∃ expired : List String, expired.Nodup ∧
    (∀ r ∈ expired, lb.attemptState.get? r = some .settled) ∧
    lb.gcSettledRequests = { lb with
      attemptState := lb.attemptState.eraseAll expired
      continuationProofs := lb.continuationProofs.eraseAll expired
      settledCount := lb.settledCount - expired.length } := by
  unfold gcSettledRequests
  by_cases hr : lb.settledCount ≤ lb.settledRetention
  · exact ⟨[], List.nodup_nil, by simp, by rw [if_pos hr]; rfl⟩
  · rw [if_neg hr]
    refine ⟨_, ?_, ?_, rfl⟩
    · have hk : ((lb.attemptState.entries.filter fun e =>
          e.2 = .settled ∧ ¬ lb.activeRequestServer.contains e.1).map Prod.fst).Nodup :=
        (List.Sublist.map Prod.fst List.filter_sublist).nodup lb.attemptState.nodup
      exact (List.take_sublist _ _).nodup hk
    · intro r hm
      obtain ⟨⟨j, st⟩, he, rfl⟩ := List.mem_map.1 (List.mem_of_mem_take hm)
      obtain ⟨he, hs⟩ := List.mem_filter.1 he
      simp only [decide_eq_true_eq] at hs
      rw [Dict.mem_entries.1 he, hs.1]

/-- Retention keeps every unsettled attempt. -/
theorem gc_keeps (hu : lb.Unsettled r) :
    lb.gcSettledRequests.attemptState.get? r = lb.attemptState.get? r := by
  obtain ⟨expired, -, hs, he⟩ := gc_eq lb
  rw [he]
  show (lb.attemptState.eraseAll expired).get? r = _
  rw [Dict.get?_eraseAll, if_neg]
  rintro hm
  rcases hu with hu | hu <;> rw [hs r hm] at hu <;> cases hu

theorem gc_active : lb.gcSettledRequests.activeRequestServer = lb.activeRequestServer := by
  obtain ⟨expired, -, -, he⟩ := gc_eq lb
  rw [he]

theorem AttemptsOk.gc (h : AttemptsOk lb) : AttemptsOk lb.gcSettledRequests := by
  obtain ⟨expired, hn, hs, he⟩ := gc_eq lb
  rw [he]
  constructor
  · intro r
    show (lb.activeRequestServer.get? r).isSome ↔ _
    rw [h.active r]
    simp only [Unsettled, Dict.get?_eraseAll]
    by_cases hm : r ∈ expired
    · simp [hm, hs r hm]
    · simp [hm]
  · have hw : ∀ k ∈ expired, Dict.weight settled (lb.attemptState.get? k) = 1 := fun k hk => by
      rw [hs k hk]; rfl
    have := Dict.count_eraseAll hn hw
    show lb.settledCount - expired.length = (lb.attemptState.eraseAll expired).count settled
    rw [h.count]
    omega

/-! ## The operations -/

theorem acquireServer_ok {pick : String} {p : String × Nat}
    (h : lb.acquireServer r pick = (.ok p, lb')) :
    ¬ lb.Unsettled r ∧ p.1 = pick ∧ (lb.servers.get? pick).isSome ∧
      lb'.activeRequestServer = lb.activeRequestServer.insert r pick ∧
      lb'.attemptState = lb.attemptState.insert r .admitted ∧
      lb'.settledCount = lb.settledCount - Dict.weight settled (lb.attemptState.get? r) := by
  unfold acquireServer at h
  dsimp only at h
  split at h
  · cases h
  rename_i hu
  cases hh : lb.servers.get? pick with
  | none => simp [hh] at h
  | some handle =>
    simp only [hh, Prod.mk.injEq, Except.ok.injEq] at h
    obtain ⟨rfl, rfl⟩ := h
    refine ⟨hu, rfl, by simp, rfl, rfl, ?_⟩
    rw [weight_settled]
    by_cases hs : lb.attemptState.get? r = some .settled <;> simp [hs]

theorem acquireServer_error {pick : String} {e : PyErr}
    (h : lb.acquireServer r pick = (.error e, lb')) : lb' = lb := by
  unfold acquireServer at h
  dsimp only at h
  split at h
  · cases h; rfl
  cases hh : lb.servers.get? pick with
  | none => simp only [hh] at h; cases h; rfl
  | some handle => simp [hh] at h

theorem AttemptsOk.acquire {pick : String} {p : String × Nat} (h : AttemptsOk lb)
    (ha : lb.acquireServer r pick = (.ok p, lb')) : AttemptsOk lb' := by
  obtain ⟨hu, -, -, hact, hst, hcount⟩ := acquireServer_ok ha
  constructor
  · intro j
    rw [Unsettled, hact, hst, Dict.get?_insert, Dict.get?_insert]
    by_cases hj : r = j
    · simp [hj]
    · simp only [hj, if_false]; exact h.active j
  · have hi := Dict.count_insert lb.attemptState settled r .admitted
    rw [hcount, hst, h.count]
    have hz : Dict.weight settled (some .admitted) = 0 := rfl
    omega

/-- The write that settles an unsettled attempt. -/
def settle (lb : GlobalRequestLoadBalancer) (r : String) : GlobalRequestLoadBalancer :=
  { lb with
    attemptState := lb.attemptState.insert r .settled
    activeRequestServer := lb.activeRequestServer.erase r
    settledCount := lb.settledCount + 1 }

theorem AttemptsOk.settle (h : AttemptsOk lb) (hu : lb.Unsettled r) : AttemptsOk (lb.settle r) := by
  constructor
  · intro j
    show ((lb.activeRequestServer.erase r).get? j).isSome ↔
      (lb.attemptState.insert r .settled).get? j = _ ∨ (lb.attemptState.insert r .settled).get? j = _
    rw [Dict.get?_erase, Dict.get?_insert]
    by_cases hj : r = j
    · simp [hj]
    · simp only [hj, if_false]; exact h.active j
  · have hi := Dict.count_insert lb.attemptState settled r .settled
    have hz : Dict.weight settled (lb.attemptState.get? r) = 0 := by
      rw [weight_settled]
      rcases hu with hu | hu <;> simp [hu]
    have ho : Dict.weight settled (some .settled) = 1 := rfl
    show lb.settledCount + 1 = (lb.attemptState.insert r .settled).count settled
    rw [h.count]
    omega

theorem releasesNative_iff (hr : r ≠ "") : lb.releasesNative x r ↔
    ¬ ((lb.activeRequestServer.get? r).isSome ∧ lb.activeRequestServer.get? r ≠ some x) ∧
      lb.Unsettled r := by
  simp only [releasesNative, hr, false_or, Unsettled]
  refine and_congr_left fun _ => ?_
  cases lb.activeRequestServer.get? r <;> simp

/-- A release settles an unsettled attempt of the named server, or does nothing. -/
theorem releaseServer_eq (hr : r ≠ "") : (lb.releaseServer x r).2 =
    if lb.releasesNative x r then (lb.settle r).gcSettledRequests else lb := by
  unfold releaseServer
  rw [if_neg hr]
  dsimp only
  by_cases ho : (lb.activeRequestServer.get? r).isSome ∧ lb.activeRequestServer.get? r ≠ some x
  · rw [if_pos ho, if_neg fun h => ((releasesNative_iff hr).1 h).1 ho]
  · have hn : lb.releasesNative x r ↔ lb.Unsettled r :=
      (releasesNative_iff hr).trans (and_iff_right ho)
    rw [if_neg ho]
    by_cases hu : lb.Unsettled r
    · rw [if_pos (hn.2 hu)]
      rcases hu with hu | hu <;> simp only [hu, settle]
    · rw [if_neg fun h => hu (hn.1 h)]
      simp only [Unsettled] at hu
      cases hs : lb.attemptState.get? r with
      | none => rfl
      | some st => cases st <;> simp_all

/-- `finish_remove` settles TERMINATED requests one after the other. -/
theorem AttemptsOk.settleTerminated {lb : GlobalRequestLoadBalancer} (h : AttemptsOk lb) :
    ∀ rs, AttemptsOk (settleTerminated rs lb)
  | [] => h
  | r :: rs => by
    rw [GlobalRequestLoadBalancer.settleTerminated]
    by_cases ht : lb.attemptState.get? r = some .terminated
    · rw [if_pos ht]
      exact AttemptsOk.settleTerminated (h.settle (.inr ht)) rs
    · rw [if_neg ht]
      exact AttemptsOk.settleTerminated h rs

/-- It never admits, and an attempt that it takes from the active table it has settled. -/
theorem settleTerminated_get : ∀ (rs : List String) (lb : GlobalRequestLoadBalancer) (j : String),
    ((settleTerminated rs lb).attemptState.get? j = lb.attemptState.get? j ∧
      (settleTerminated rs lb).activeRequestServer.get? j = lb.activeRequestServer.get? j) ∨
    ((settleTerminated rs lb).attemptState.get? j = some .settled ∧
      (settleTerminated rs lb).activeRequestServer.get? j = none)
  | [], _, _ => .inl ⟨rfl, rfl⟩
  | r :: rs, lb, j => by
    rw [settleTerminated]
    by_cases ht : lb.attemptState.get? r = some .terminated
    · rw [if_pos ht]
      rcases settleTerminated_get rs (lb.settle r) j with ⟨hs, ha⟩ | hs
      · by_cases hj : r = j
        · subst hj
          refine .inr ⟨hs.trans (Dict.get?_insert_self _ _ _), ha.trans ?_⟩
          exact Dict.get?_erase_self _ _
        · exact .inl ⟨hs.trans (Dict.get?_insert_ne _ _ hj), ha.trans (Dict.get?_erase_ne _ hj)⟩
      · exact .inr hs
    · rw [if_neg ht]
      exact settleTerminated_get rs lb j

theorem SameAttempts.refl (lb : GlobalRequestLoadBalancer) : SameAttempts lb lb := ⟨rfl, rfl, rfl⟩

/-- `finish_remove` only ever settles, and evicts what is settled. -/
theorem AttemptsOk.finishRemove {k : ReplicaKey} (h : AttemptsOk lb) :
    AttemptsOk (lb.finishRemove k).2 ∧ ∀ {j y},
      (lb.finishRemove k).2.activeRequestServer.get? j = some y →
      lb.activeRequestServer.get? j = some y := by
  unfold GlobalRequestLoadBalancer.finishRemove
  cases hk : lb.routes.get? k with
  | none => exact ⟨h, fun hj => hj⟩
  | some x =>
    dsimp only
    split
    · exact ⟨h, fun hj => hj⟩
    · have hs := h.settleTerminated (lb.requestsForServer x)
      have hget := settleTerminated_get (lb.requestsForServer x) lb
      generalize GlobalRequestLoadBalancer.settleTerminated (lb.requestsForServer x) lb = t
        at hs hget ⊢
      have hd : ∀ handoffs, AttemptsOk { t with
          servers := t.servers.erase x
          drainingOperations := t.drainingOperations.erase x
          continuationHandoffs := handoffs } := fun _ => hs.same ⟨rfl, rfl, rfl⟩
      refine ⟨(hd _).gc.same ⟨rfl, rfl, rfl⟩, fun {j y} hj => ?_⟩
      have hj' : t.activeRequestServer.get? j = some y := by
        dsimp only at hj
        rw [gc_active] at hj
        exact hj
      rcases hget j with ⟨-, ha⟩ | ⟨-, ha⟩
      · exact ha.symm.trans hj'
      · rw [ha] at hj'; cases hj'

theorem same_commitReady {now h : Nat} {k : ReplicaKey} {o : String} :
    SameAttempts lb (lb.commitReady now k x h o).2 := by
  unfold commitReady
  split
  · exact .refl lb
  split
  · exact .refl lb
  split
  · split
    · exact .refl lb
    split <;> exact .refl lb
  · dsimp only
    split
    · exact .refl lb
    split
    · exact .refl lb
    split
    · exact .refl lb
    split <;> exact ⟨rfl, rfl, rfl⟩

theorem same_beginDrain {k : ReplicaKey} {o : String} :
    SameAttempts lb (lb.beginDrain k o).2 := by
  unfold beginDrain
  split
  · exact .refl lb
  split
  · exact .refl lb
  dsimp only
  split
  · exact .refl lb
  · exact ⟨rfl, rfl, rfl⟩

/-- A confirmation keeps a request unsettled and on its server. -/
theorem confirmContinuation_eq (lb : GlobalRequestLoadBalancer) (r : String) (now : Nat)
    (c p : String) :
    SameAttempts lb (lb.confirmContinuation now r c p).2 ∨
    (lb.attemptState.get? r = some .admitted ∧
      (lb.confirmContinuation now r c p).2.attemptState = lb.attemptState.insert r .terminated ∧
      (lb.confirmContinuation now r c p).2.activeRequestServer = lb.activeRequestServer ∧
      (lb.confirmContinuation now r c p).2.settledCount = lb.settledCount) := by
  unfold confirmContinuation
  split
  · exact .inl (.refl lb)
  split
  · split <;> exact .inl (.refl lb)
  split
  · exact .inl (.refl lb)
  rename_i ha
  split
  · exact .inl (.refl lb)
  split
  · exact .inl (.refl lb)
  · exact .inr ⟨not_not.1 ha, rfl, rfl, rfl⟩

theorem AttemptsOk.confirm {now : Nat} {c p : String} (h : AttemptsOk lb) :
    AttemptsOk (lb.confirmContinuation now r c p).2 := by
  rcases confirmContinuation_eq lb r now c p with
    hs | ⟨ha, hst, hact, hcount⟩
  · exact h.same hs
  · constructor
    · intro j
      rw [Unsettled, hact, hst, Dict.get?_insert]
      by_cases hj : r = j
      · subst hj; simpa using (h.active r).2 (.inl ha)
      · simp only [hj, if_false]; exact h.active j
    · have hi := Dict.count_insert lb.attemptState settled r .terminated
      have hz : Dict.weight settled (lb.attemptState.get? r) = 0 := by rw [ha]; rfl
      have ho : Dict.weight settled (some .terminated) = 0 := rfl
      rw [hcount, hst, h.count]
      omega

end GlobalRequestLoadBalancer

/-! ## Attempts and the parent's counters -/

namespace RouterSystem

open GlobalRequestLoadBalancer

variable {s s' : RouterSystem} {l : RouterCall} {r x : String} {i j : Nat} {a : Admission}

/-- The last attempt of the id is number `i`, on the server. -/
def LastOn (s : RouterSystem) (r : String) (i : Nat) (x : String) (decrements : Nat) : Prop :=
  s.last.get? r = some i ∧ s.admissions[i]? = some ⟨r, x, decrements⟩

structure LedgerOk (s : RouterSystem) : Prop where
  attempts : s.lb.AttemptsOk
  active : ∀ {r x}, s.lb.activeRequestServer.get? r = some x → ∃ i, s.LastOn r i x 0
  latest : ∀ {j a}, s.admissions[j]? = some a →
    ∃ i, s.last.get? a.requestId = some i ∧ j ≤ i ∧ i < s.admissions.length
  once : ∀ a ∈ s.admissions, a.decrements ≤ 1

/-- The ledger is about the tables and the attempts; a call that admits and releases nothing may at
most take requests from the active table. -/
theorem LedgerOk.quiet (h : LedgerOk s) {lb : GlobalRequestLoadBalancer} (ha : lb.AttemptsOk)
    (hs : ∀ {r x}, lb.activeRequestServer.get? r = some x →
      s.lb.activeRequestServer.get? r = some x) : LedgerOk { s with lb } :=
  ⟨ha, fun hr => h.active (hs hr), h.latest, h.once⟩

theorem LedgerOk.acquire (h : LedgerOk s) (pick : String) : LedgerOk (s.acquire r pick) := by
  unfold RouterSystem.acquire
  cases he : s.lb.acquireServer r pick with
  | mk res lb =>
    cases res with
    | error e =>
      obtain rfl := acquireServer_error he
      exact h
    | ok p =>
      obtain ⟨y, handle⟩ := p
      have hok := h.attempts.acquire he
      obtain ⟨-, hy, -, hact, -, -⟩ := acquireServer_ok he
      have hy : y = pick := hy
      subst hy
      have hlen : (s.admissions ++ [(⟨r, y, 0⟩ : Admission)]).length = s.admissions.length + 1 := by
        simp
      refine ⟨hok, fun {j z} hj => ?_, fun {j a} hj => ?_, fun a ha => ?_⟩
      · have hj : lb.activeRequestServer.get? j = some z := hj
        rw [hact, Dict.get?_insert] at hj
        by_cases hr : r = j
        · subst hr
          rw [if_pos rfl] at hj
          cases hj
          exact ⟨s.admissions.length, Dict.get?_insert_self _ _ _, List.getElem?_concat_length⟩
        · rw [if_neg hr] at hj
          obtain ⟨i, hi, ha⟩ := h.active hj
          refine ⟨i, (Dict.get?_insert_ne _ _ hr).trans hi, ?_⟩
          exact (List.getElem?_append_left (List.getElem?_eq_some_iff.1 ha).1).trans ha
      · have hlt : j < s.admissions.length + 1 := hlen ▸ (List.getElem?_eq_some_iff.1 hj).1
        by_cases hr : r = a.requestId
        · exact ⟨s.admissions.length, by rw [hr]; exact Dict.get?_insert_self _ _ _, by omega,
            by rw [hlen]; omega⟩
        · have hne : j ≠ s.admissions.length := by
            rintro rfl
            have : some (⟨r, y, 0⟩ : Admission) = some a := List.getElem?_concat_length.symm.trans hj
            cases this
            exact hr rfl
          have hold : s.admissions[j]? = some a :=
            (List.getElem?_append_left (by omega)).symm.trans hj
          obtain ⟨i, hi, hji, hlast⟩ := h.latest hold
          exact ⟨i, (Dict.get?_insert_ne _ _ hr).trans hi, hji, by rw [hlen]; omega⟩
      · rcases List.mem_append.1 ha with ha | ha
        · exact h.once a ha
        · rw [List.mem_singleton.1 ha]; exact Nat.zero_le 1

/-- What a release that reaches the parent finds: the last attempt of its id, on its server, not
released before. -/
theorem LedgerOk.released (h : LedgerOk s) (hr : r ≠ "") (hn : s.lb.releasesNative x r) :
    ∃ i, s.LastOn r i x 0 ∧
      s.decrement r = s.admissions.modify i fun a => { a with decrements := a.decrements + 1 } := by
  obtain ⟨ho, hu⟩ := (releasesNative_iff hr).1 hn
  obtain ⟨y, hy⟩ := Option.isSome_iff_exists.1 ((h.attempts.active r).2 hu)
  rw [hy] at ho
  have hyx : y = x := by
    by_contra hne
    exact ho ⟨rfl, fun e => hne (Option.some.inj e)⟩
  subst hyx
  obtain ⟨i, hi⟩ := h.active hy
  exact ⟨i, hi, by rw [RouterSystem.decrement, hi.1]⟩

theorem LedgerOk.release (h : LedgerOk s) (hr : r ≠ "") : LedgerOk (s.release x r) := by
  unfold RouterSystem.release
  rw [releaseServer_eq hr]
  by_cases hn : s.lb.releasesNative x r
  · rw [if_pos hn, if_pos hn]
    obtain ⟨i, hi, hd⟩ := h.released hr hn
    have hu := ((releasesNative_iff hr).1 hn).2
    rw [hd]
    refine ⟨(h.attempts.settle hu).gc, fun {j z} hj => ?_, fun {j a} hj => ?_, fun a ha => ?_⟩
    · rw [show (s.lb.settle r).gcSettledRequests.activeRequestServer = _ from gc_active] at hj
      rw [show (s.lb.settle r).activeRequestServer.get? j = _ from Dict.get?_erase _ _ _] at hj
      split at hj
      · cases hj
      rename_i hrj
      obtain ⟨n, hn, ha⟩ := h.active hj
      have hni : i ≠ n := by
        rintro rfl
        rw [hi.2] at ha
        cases ha
        exact hrj rfl
      refine ⟨n, hn, ?_⟩
      show (s.admissions.modify i _)[n]? = _
      rw [List.getElem?_modify, ha]
      simp [hni]
    · rw [List.length_modify]
      rw [List.getElem?_modify] at hj
      obtain ⟨b, hb, rfl⟩ := Option.map_eq_some_iff.1 hj
      have hid : (if i = j then { b with decrements := b.decrements + 1 } else b).requestId =
          b.requestId := by split <;> rfl
      rw [hid]
      exact h.latest hb
    · obtain ⟨j, hj⟩ := List.getElem?_of_mem ha
      rw [List.getElem?_modify] at hj
      obtain ⟨b, hb, rfl⟩ := Option.map_eq_some_iff.1 hj
      by_cases hij : i = j
      · subst hij
        rw [hi.2] at hb
        cases hb
        simp
      · simp only [hij, if_false]
        exact h.once b (List.mem_of_getElem? hb)
  · rw [if_neg hn, if_neg hn]
    exact h

theorem LedgerOk.call (h : LedgerOk s) (hp : s.Possible l) : LedgerOk (s.call l) := by
  cases l with
  | acquireServer r pick => exact h.acquire pick
  | releaseServer x r sender => exact h.release hp.1
  | confirmContinuation now r c p =>
    refine h.quiet h.attempts.confirm fun {j y} hj => ?_
    rcases confirmContinuation_eq s.lb r now c p with
      hs | ⟨-, -, hact, -⟩
    · rw [hs.2.1] at hj; exact hj
    · rw [hact] at hj; exact hj
  | commitReady now k x n o =>
    exact h.quiet (h.attempts.same same_commitReady) fun {j y} hj => by
      rw [same_commitReady.2.1] at hj; exact hj
  | beginDrain k o =>
    exact h.quiet (h.attempts.same same_beginDrain) fun {j y} hj => by
      rw [same_beginDrain.2.1] at hj; exact hj
  | finishRemove k => exact h.quiet h.attempts.finishRemove.1 h.attempts.finishRemove.2

theorem LedgerOk.start {servers : Dict String Nat} {routes : Dict ReplicaKey String} {n : Nat} :
    LedgerOk (initial servers routes n) where
  attempts := ⟨fun r => by simp [initial, Unsettled, GlobalRequestLoadBalancer.init], rfl⟩
  active := fun hr => by simp [initial, GlobalRequestLoadBalancer.init] at hr
  latest := fun hj => by simp [initial] at hj
  once := fun a ha => by simp [initial] at ha

theorem LedgerOk.reachable (h : machine.Reachable s) : LedgerOk s := by
  refine h.invariant ?_ ?_
  · rintro s ⟨servers, routes, n, -, rfl⟩
    exact .start
  · rintro s l s' hs ⟨hp, rfl⟩ -
    exact hs.call hp

/-- The ledger as its readers see it. -/
structure LedgerSound (s : RouterSystem) : Prop where
  active : ∀ r x, s.lb.activeRequestServer.get? r = some x ↔
    s.lb.Unsettled r ∧ ∃ i n, s.LastOn r i x n
  count : s.lb.settledCount = s.lb.attemptState.count settled
  once : ∀ a ∈ s.admissions, a.decrements ≤ 1

theorem LedgerOk.sound (h : LedgerOk s) : LedgerSound s where
  active := by
    intro r x
    constructor
    · intro hr
      obtain ⟨i, hi⟩ := h.active hr
      exact ⟨(h.attempts.active r).1 (by rw [hr]; rfl), i, 0, hi⟩
    · rintro ⟨hu, i, n, hi, ha⟩
      obtain ⟨y, hy⟩ := Option.isSome_iff_exists.1 ((h.attempts.active r).2 hu)
      obtain ⟨j, hj, hb⟩ := h.active hy
      rw [hi] at hj
      cases hj
      rw [ha] at hb
      cases hb
      exact hy
  count := h.attempts.count
  once := h.once

/-- A decrement a call makes: the attempt's first, by a release of its own id and server while it is
the last attempt of the id. Unless the sender is that attempt, the id has been readmitted on the
sender's server since. -/
def ReleasesOwn (s s' : RouterSystem) (l : RouterCall) : Prop :=
  ∀ j a, s.admissions[j]? = some a → s'.admissions[j]? = some a ∨
    (s'.admissions[j]? = some { a with decrements := 1 } ∧ a.decrements = 0 ∧
      s.last.get? a.requestId = some j ∧
      ∃ sender, l = .releaseServer a.serverId a.requestId sender ∧ ∀ n, sender = some n →
        n = j ∨ n < j ∧ ∃ b, s.admissions[n]? = some b ∧ b.requestId = a.requestId ∧
          b.serverId = a.serverId)

theorem LedgerOk.releasesOwn (h : LedgerOk s) (hp : s.Possible l) : ReleasesOwn s (s.call l) l := by
  intro j a hj
  cases l with
  | acquireServer r pick =>
    left
    show (s.acquire r pick).admissions[j]? = some a
    unfold RouterSystem.acquire
    split
    · exact (List.getElem?_append_left (List.getElem?_eq_some_iff.1 hj).1).trans hj
    · exact hj
  | releaseServer x r sender =>
    show (s.release x r).admissions[j]? = _ ∨ (s.release x r).admissions[j]? = _ ∧ _
    simp only [RouterSystem.release]
    by_cases hn : s.lb.releasesNative x r
    · obtain ⟨i, hi, hd⟩ := h.released hp.1 hn
      rw [if_pos hn, hd, List.getElem?_modify, hj]
      by_cases hij : i = j
      · subst hij
        obtain rfl : a = ⟨r, x, 0⟩ := Option.some.inj (hj.symm.trans hi.2)
        refine .inr ⟨by simp, rfl, hi.1, sender, rfl, fun n hs => ?_⟩
        obtain ⟨b, hb, hbx, hbr⟩ := hp.2 n hs
        obtain ⟨m, hm, hnm, -⟩ := h.latest hb
        rw [hbr] at hm
        obtain rfl : i = m := Option.some.inj (hi.1.symm.trans hm)
        rcases Nat.lt_or_eq_of_le hnm with hlt | heq
        · exact .inr ⟨hlt, b, hb, hbr, hbx⟩
        · exact .inl heq
      · left; simp [hij]
    · rw [if_neg hn]
      exact .inl hj
  | confirmContinuation => exact .inl hj
  | commitReady => exact .inl hj
  | beginDrain => exact .inl hj
  | finishRemove => exact .inl hj

/-- In every reachable state: the active table holds exactly the unsettled attempts, each with its
server, and the counter counts the settled ones; retention forgets no unsettled attempt; every
attempt is given back to the parent router at most once, by a release of its own id and server. -/
theorem ledger_sound (h : machine.Reachable s) : LedgerSound s ∧
    (∀ (lb : GlobalRequestLoadBalancer) r, lb.Unsettled r →
      lb.gcSettledRequests.attemptState.get? r = lb.attemptState.get? r) ∧
    ∀ l s', machine.step s l s' → ReleasesOwn s s' l := by
  have hok := LedgerOk.reachable h
  refine ⟨hok.sound, fun lb r hu => ?_, ?_⟩
  · exact gc_keeps hu
  · rintro l s' ⟨hp, rfl⟩
    exact hok.releasesOwn hp

/-! ### A duplicate release after readmission -/

/-- One server, no routes. -/
def oneServer : RouterSystem := initial ((∅ : Dict String Nat).insert "s0" 0) ∅ 10000

/-- Request `r` was admitted on `s0`, released, and admitted there again. -/
def readmitted : RouterSystem :=
  ((oneServer.call (.acquireServer "r" "s0")).call (.releaseServer "s0" "r" (some 0))).call
    (.acquireServer "r" "s0")

theorem reachable_oneServer : machine.Reachable oneServer :=
  ⟨oneServer, ⟨_, ∅, _, (fun _ _ h => nomatch h), rfl⟩, .refl _⟩

theorem reachable_readmitted : machine.Reachable readmitted := by
  have h₁ := reachable_call (l := .acquireServer "r" "s0") reachable_oneServer trivial
  have h₂ := reachable_call (l := .releaseServer "s0" "r" (some 0)) h₁
    ⟨by decide, fun i hi => by cases hi; exact ⟨⟨"r", "s0", 0⟩, rfl, rfl, rfl⟩⟩
  exact reachable_call (l := .acquireServer "r" "s0") h₂ trivial

theorem ledger_sound_readmitted : LedgerSound readmitted ∧
    readmitted.lb.activeRequestServer.get? "r" = some "s0" ∧ readmitted.lb.settledCount = 0 :=
  ⟨(ledger_sound reachable_readmitted).1, by decide +kernel, by decide +kernel⟩

/-- The first attempt's release, sent again, is taken for the second attempt's. -/
theorem duplicate_release_decrements : ¬ ∀ s, machine.Reachable s → ∀ x r n s',
    machine.step s (.releaseServer x r (some n)) s' → ∀ j a, s.admissions[j]? = some a →
      s'.admissions[j]? = some a ∨ j = n := by
  intro h
  have hstep : machine.step readmitted (.releaseServer "s0" "r" (some 0))
      (readmitted.call (.releaseServer "s0" "r" (some 0))) :=
    ⟨⟨by decide, fun i hi => by cases hi; exact ⟨⟨"r", "s0", 1⟩, by decide +kernel, rfl, rfl⟩⟩, rfl⟩
  rcases h _ reachable_readmitted _ _ _ _ hstep 1 ⟨"r", "s0", 0⟩ (by decide +kernel) with h | h
  · revert h; decide +kernel
  · cases h

end RouterSystem

end ReplicaLending
