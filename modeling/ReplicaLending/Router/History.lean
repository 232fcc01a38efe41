import ReplicaLending.Router.Coherence
import ReplicaLending.Router.Continuation
/-!
# The settled history

`query_attempt` and the continuation proofs of settled requests live in a bounded history. Eviction
walks the attempt table (load_balancer.py:71), whose order is the order of first admission: a request
that was admitted early and settles late stands before requests that settled long ago.

| here | there |
| --- | --- |
| `settles`                 | the writes of SETTLED (:110, :259) |
| `settledKeys`             | the order `_gc_settled_requests` meets settled requests in (:71) |
| `target`                  | `target`, 0 without an overflow (:59-67) |
| `RouterHistory.order`     | nothing: the order in which the settled requests have settled |
-/

namespace ReplicaLending

namespace GlobalRequestLoadBalancer

variable {lb : GlobalRequestLoadBalancer} {r x : String}

/-- The requests a call settles, in turn. -/
def settles (lb : GlobalRequestLoadBalancer) : RouterCall → List String
  | .releaseServer x r _ => if r ≠ "" ∧ lb.releasesNative x r then [r] else []
  | .finishRemove k => match lb.routes.get? k with
    | none => []
    | some x => if lb.hasUnsettledRequests x then [] else
        (lb.requestsForServer x).filter fun r => lb.attemptState.get? r = some .terminated
  | _ => []

/-- The settled requests, and others, in table order. -/
def settledKeys (lb : GlobalRequestLoadBalancer) (others : List String) : List String :=
  lb.attemptState.keys.filter fun r => lb.attemptState.get? r = some .settled ∨ r ∈ others

/-! ## Eviction -/

theorem AttemptsOk.entries_settled (h : lb.AttemptsOk) :
    (lb.attemptState.entries.filter fun e =>
      e.2 = .settled ∧ ¬ lb.activeRequestServer.contains e.1).map Prod.fst = lb.settledKeys [] := by
  refine (Dict.keys_filter fun r st hr => ?_).symm
  have hidle : st = .settled → (lb.activeRequestServer.get? r).isSome = false := by
    rintro rfl
    rw [← Bool.not_eq_true, h.active, Unsettled, hr]
    simp
  rw [hr]
  by_cases hst : st = .settled
  · simp [hst, Dict.contains, hidle hst]
  · simp [hst]

theorem AttemptsOk.length_settledKeys (h : lb.AttemptsOk) :
    (lb.settledKeys []).length = lb.settledCount := by
  have hkeys : lb.settledKeys [] =
      (lb.attemptState.entries.filter fun e => settled e.2).map Prod.fst :=
    Dict.keys_filter fun r st hr => by simp [hr, settled]
  rw [hkeys, List.length_map, ← List.countP_eq_length_filter]
  exact h.count.symm

/-- How many of `count` settled requests eviction takes: `target`, if there is an `overflow`. -/
def target (count retention : Nat) : Nat :=
  if count ≤ retention then 0 else max (count - retention) (retention / 8)

theorem target_lt {count retention : Nat} (hpos : 0 < retention) :
    target count retention = 0 ∨ target count retention < count := by
  unfold target
  split <;> omega

theorem le_target_add (count retention : Nat) : count ≤ target count retention + retention := by
  unfold target
  split <;> omega

/-- Eviction takes settled requests from the front of the table. -/
theorem AttemptsOk.gc_front (h : lb.AttemptsOk) (hpos : 0 < lb.settledRetention) {n : Nat}
    (hn : n = target lb.settledCount lb.settledRetention) : lb.gcSettledRequests = { lb with
      attemptState := lb.attemptState.eraseAll ((lb.settledKeys []).take n)
      continuationProofs := lb.continuationProofs.eraseAll ((lb.settledKeys []).take n)
      settledCount := lb.settledCount - n } := by
  subst hn
  unfold gcSettledRequests target
  by_cases ho : lb.settledCount ≤ lb.settledRetention
  · rw [if_pos ho, if_pos ho]
    rfl
  · rw [if_neg ho, if_neg ho]
    dsimp only
    rw [h.entries_settled, List.length_take, h.length_settledKeys, Nat.min_eq_left (by omega)]

/-! ## What a call settles -/

/-- The listed requests are settled, and nothing else has changed in the ledger. -/
structure Settled (lb lb' : GlobalRequestLoadBalancer) (rs : List String) : Prop where
  state : ∀ j, lb'.attemptState.get? j = if j ∈ rs then some .settled else lb.attemptState.get? j
  keys : lb'.attemptState.keys = lb.attemptState.keys
  count : lb'.settledCount = lb.settledCount + rs.length
  proofs : lb'.continuationProofs = lb.continuationProofs
  retention : lb'.settledRetention = lb.settledRetention

theorem Unsettled.mem_keys (hu : lb.Unsettled r) : r ∈ lb.attemptState.keys := by
  rcases hu with hu | hu <;> exact Dict.mem_keys_of_get? hu

theorem settled_settle (hu : lb.Unsettled r) : Settled lb (lb.settle r) [r] where
  state j := by
    show (lb.attemptState.insert r .settled).get? j = _
    rw [Dict.get?_insert]
    simp [eq_comm]
  keys := Dict.keys_insert hu.mem_keys
  count := rfl
  proofs := rfl
  retention := rfl

theorem settled_settleTerminated : ∀ (rs : List String) (lb : GlobalRequestLoadBalancer), rs.Nodup →
    Settled lb (settleTerminated rs lb)
      (rs.filter fun r => lb.attemptState.get? r = some .terminated)
  | [], lb, _ => ⟨fun j => by simp [settleTerminated], rfl, rfl, rfl, rfl⟩
  | r :: rs, lb, hn => by
    obtain ⟨hr, hn⟩ := List.nodup_cons.1 hn
    rw [settleTerminated]
    by_cases ht : lb.attemptState.get? r = some .terminated
    · rw [if_pos ht, List.filter_cons_of_pos (by simpa using ht)]
      have hfst : Settled lb (lb.settle r) [r] := settled_settle (.inr ht)
      have hih := settled_settleTerminated rs (lb.settle r) hn
      have hrest : (rs.filter fun j => (lb.settle r).attemptState.get? j = some .terminated) =
          rs.filter fun j => lb.attemptState.get? j = some .terminated := by
        refine List.filter_congr fun j hj => decide_eq_decide.2 ?_
        have hne : r ≠ j := by rintro rfl; exact hr hj
        show (lb.attemptState.insert r .settled).get? j = _ ↔ _
        rw [Dict.get?_insert_ne _ _ hne]
      rw [hrest] at hih
      show Settled lb (settleTerminated rs (lb.settle r)) _
      refine ⟨fun j => ?_, hih.keys.trans hfst.keys, ?_, hih.proofs.trans hfst.proofs,
        hih.retention.trans hfst.retention⟩
      · rw [hih.state, hfst.state]
        by_cases hj : j = r <;> simp [hj]
      · rw [hih.count, hfst.count]
        simp only [List.length_cons, List.length_nil]
        omega
    · rw [if_neg ht, List.filter_cons_of_neg (by simpa using ht)]
      exact settled_settleTerminated rs lb hn

theorem AttemptsOk.after (h : lb.AttemptsOk) (l : RouterCall) : (lb.after l).AttemptsOk := by
  cases l with
  | acquireServer r pick =>
    show (lb.acquireServer r pick).2.AttemptsOk
    cases ha : lb.acquireServer r pick with
    | mk res lb' => cases res with
      | ok p => exact h.acquire ha
      | error e => rw [acquireServer_error ha]; exact h
  | releaseServer x r sender =>
    show (lb.releaseServer x r).2.AttemptsOk
    by_cases hr : r = ""
    · unfold releaseServer
      rw [if_pos hr]
      exact h
    · rw [releaseServer_eq hr]
      split
      · exact (h.settle ((releasesNative_iff hr).1 ‹_›).2).gc
      · exact h
  | confirmContinuation now r c d => exact h.confirm
  | commitReady now k x n o => exact h.same same_commitReady
  | beginDrain k o => exact h.same same_beginDrain
  | finishRemove k => exact h.finishRemove.1

/-- No request settles; a settled one stays settled, unless it is readmitted. -/
structure Quiet (lb lb' : GlobalRequestLoadBalancer) : Prop where
  settled : ∀ j, lb'.attemptState.get? j = some .settled ↔
    lb.attemptState.get? j = some .settled ∧ lb'.attemptState.get? j ≠ some .admitted
  count : lb'.settledCount ≤ lb.settledCount
  retention : lb'.settledRetention = lb.settledRetention

theorem Quiet.same {lb' : GlobalRequestLoadBalancer} (h : SameAttempts lb lb')
    (hr : lb'.settledRetention = lb.settledRetention) : Quiet lb lb' where
  settled j := by
    rw [h.1]
    exact ⟨fun hj => ⟨hj, by rw [hj]; nofun⟩, And.left⟩
  count := h.2.2.le
  retention := hr

theorem Quiet.refl : Quiet lb lb := .same (.refl lb) rfl

/-- A request that was not settled gets another state than SETTLED. -/
theorem Quiet.insert {st : AttemptState} {lb' : GlobalRequestLoadBalancer}
    (h : lb'.attemptState = lb.attemptState.insert r st) (hst : st ≠ .settled)
    (hadm : st = .admitted ∨ lb.attemptState.get? r ≠ some .settled)
    (hc : lb'.settledCount ≤ lb.settledCount) (hr : lb'.settledRetention = lb.settledRetention) :
    Quiet lb lb' where
  settled j := by
    rw [h, Dict.get?_insert]
    split
    · rename_i hj
      subst hj
      refine iff_of_false (by simpa using hst) fun ⟨hs, hn⟩ => ?_
      rcases hadm with rfl | hadm
      · exact hn rfl
      · exact hadm hs
    · exact ⟨fun hj => ⟨hj, by rw [hj]; nofun⟩, And.left⟩
  count := hc
  retention := hr

theorem quiet_acquire (lb : GlobalRequestLoadBalancer) (r pick : String) :
    Quiet lb (lb.acquireServer r pick).2 := by
  unfold acquireServer
  dsimp only
  split
  · exact .refl
  split
  · exact .refl
  · refine .insert rfl AttemptState.noConfusion (.inl rfl) ?_ rfl
    dsimp only
    split <;> omega

theorem quiet_confirm (lb : GlobalRequestLoadBalancer) (now : Nat) (r c d : String) :
    Quiet lb (lb.confirmContinuation now r c d).2 := by
  rcases confirmContinuation_cases lb now r c d with
    ⟨res, he, -⟩ | ⟨y, o, e, -, -, hadm, -, -, he⟩ <;> rw [he]
  · exact .refl
  · exact .insert rfl AttemptState.noConfusion (.inr (by rw [hadm]; nofun)) le_rfl rfl

theorem quiet_commitReady (lb : GlobalRequestLoadBalancer) (now : Nat) (k : ReplicaKey) (x : String)
    (h : Nat) (o : String) : Quiet lb (lb.commitReady now k x h o).2 := by
  rcases commitReady_cases lb now k x h o with
    ⟨e, he⟩ | ⟨ev, -, -, -, -, -, he⟩ | ⟨ev, -, -, he⟩ <;> rw [he]
  · exact .refl
  · exact .refl
  · exact .same ⟨rfl, rfl, rfl⟩ rfl

theorem quiet_beginDrain (lb : GlobalRequestLoadBalancer) (k : ReplicaKey) (o : String) :
    Quiet lb (lb.beginDrain k o).2 := by
  unfold beginDrain
  split
  · exact .refl
  split
  · exact .refl
  dsimp only
  split
  · exact .refl
  · exact .same ⟨rfl, rfl, rfl⟩ rfl

/-- The listed requests are settled, then evicted what is too much. -/
structure Evicts (lb lb' : GlobalRequestLoadBalancer) (rs : List String) : Prop where
  nodup : rs.Nodup
  fresh : ∀ j ∈ rs, lb.attemptState.get? j ≠ some .settled
  evicts : ∃ mid : GlobalRequestLoadBalancer, mid.AttemptsOk ∧ Settled lb mid rs ∧
    lb'.attemptState = mid.gcSettledRequests.attemptState ∧
    lb'.continuationProofs = mid.gcSettledRequests.continuationProofs ∧
    lb'.settledCount = mid.gcSettledRequests.settledCount ∧
    lb'.settledRetention = mid.gcSettledRequests.settledRetention

/-- A call settles no request, or it settles some and evicts. -/
theorem after_settles (h : lb.AttemptsOk) (l : RouterCall) :
    (lb.settles l = [] ∧ Quiet lb (lb.after l)) ∨ Evicts lb (lb.after l) (lb.settles l) := by
  cases l with
  | acquireServer r pick => exact .inl ⟨rfl, quiet_acquire lb r pick⟩
  | confirmContinuation now r c d => exact .inl ⟨rfl, quiet_confirm lb now r c d⟩
  | commitReady now k x h o => exact .inl ⟨rfl, quiet_commitReady lb now k x h o⟩
  | beginDrain k o => exact .inl ⟨rfl, quiet_beginDrain lb k o⟩
  | releaseServer x r sender =>
    show _ ∧ Quiet lb (lb.releaseServer x r).2 ∨ Evicts lb (lb.releaseServer x r).2 _
    by_cases hr : r = ""
    · refine .inl ⟨if_neg fun hrel => hrel.1 hr, ?_⟩
      unfold releaseServer
      rw [if_pos hr]
      exact .refl
    rw [releaseServer_eq hr]
    by_cases hn : lb.releasesNative x r
    · have hu := ((releasesNative_iff hr).1 hn).2
      rw [if_pos hn, show lb.settles (.releaseServer x r sender) = [r] from if_pos ⟨hr, hn⟩]
      refine .inr ⟨List.nodup_singleton r, fun j hj => ?_,
        _, h.settle hu, settled_settle hu, rfl, rfl, rfl, rfl⟩
      rw [List.mem_singleton.1 hj]
      rcases hu with hu | hu <;> rw [hu] <;> nofun
    · rw [if_neg hn]
      exact .inl ⟨if_neg fun hrel => hn hrel.2, .refl⟩
  | finishRemove k =>
    show _ ∧ Quiet lb (lb.finishRemove k).2 ∨ Evicts lb (lb.finishRemove k).2 _
    unfold settles finishRemove
    dsimp only
    cases lb.routes.get? k with
    | none => exact .inl ⟨rfl, .refl⟩
    | some x =>
      dsimp only
      by_cases hun : lb.hasUnsettledRequests x = true
      · rw [if_pos hun, if_pos hun]
        exact .inl ⟨rfl, .refl⟩
      · rw [if_neg hun, if_neg hun]
        have hset := settled_settleTerminated (lb.requestsForServer x) lb nodup_requestsForServer
        have hok := h.settleTerminated (lb.requestsForServer x)
        have hfresh : ∀ j ∈ (lb.requestsForServer x).filter fun r =>
            lb.attemptState.get? r = some .terminated, lb.attemptState.get? j ≠ some .settled := by
          intro j hj
          rw [of_decide_eq_true (List.mem_filter.1 hj).2]
          nofun
        exact .inr (show Evicts lb ((lb.endDrain x).gcSettledRequests.unroute k) _ from
          ⟨nodup_requestsForServer.filter _, hfresh, lb.endDrain x, hok.same ⟨rfl, rfl, rfl⟩,
            ⟨hset.state, hset.keys, hset.count, hset.proofs, hset.retention⟩, rfl, rfl, rfl, rfl⟩)

end GlobalRequestLoadBalancer

/-! ## The order in which requests settle -/

/-- A load balancer, and the settled requests it retains in the order in which they have settled. -/
structure RouterHistory where
  lb : GlobalRequestLoadBalancer
  order : List String

namespace RouterHistory

open GlobalRequestLoadBalancer

variable {s t : RouterHistory} {l : RouterCall}

/-- What has settled when the call has written its ledger and not yet evicted: a readmitted request is
no longer settled, and what the call settles comes last. -/
def settled (s : RouterHistory) (l : RouterCall) : List String :=
  (s.order.filter fun r => (s.lb.after l).attemptState.get? r ≠ some .admitted) ++ s.lb.settles l

def call (s : RouterHistory) (l : RouterCall) : RouterHistory where
  lb := s.lb.after l
  order := (s.settled l).filter fun r => (s.lb.after l).attemptState.get? r = some .settled

/-- Any sequence of calls on any load balancer with a bound of at least one. -/
def machine : Machine RouterHistory RouterCall :=
  .ofFun (fun s => ∃ servers routes retention, 0 < retention ∧
      s = ⟨{ GlobalRequestLoadBalancer.init servers routes with settledRetention := retention }, []⟩)
    fun l s => s.call l

/-- The number of requests the call evicts. -/
def evicted (s : RouterHistory) (l : RouterCall) : Nat :=
  target (s.lb.settledCount + (s.lb.settles l).length) s.lb.settledRetention

/-- As many settled requests from the front of the attempt table, with what the call settles. -/
def front (s : RouterHistory) (l : RouterCall) : List String :=
  (s.lb.settledKeys (s.lb.settles l)).take (s.evicted l)

/-- The settled requests at the front of the attempt table are not those that settled first. -/
def Misplaced (s : RouterHistory) (l : RouterCall) : Prop :=
  ¬ (s.front l).Perm ((s.order ++ s.lb.settles l).take (s.evicted l))

instance : Decidable (Misplaced s l) := inferInstanceAs (Decidable (¬ _))

/-- What is evicted settled before everything that is retained. A release retains what it settles, with
its continuation proof. -/
def OldestFirst (s : RouterHistory) (l : RouterCall) (s' : RouterHistory) : Prop :=
  s'.order <:+ s.settled l ∧ ∀ x r sender, l = .releaseServer x r sender → r ∈ s.lb.settles l →
    s'.lb.queryAttempt r = some .settled ∧
      s'.lb.continuationProofs.get? r = s.lb.continuationProofs.get? r

structure HistoryOk (s : RouterHistory) : Prop where
  attempts : s.lb.AttemptsOk
  nodup : s.order.Nodup
  mem : ∀ r, r ∈ s.order ↔ s.lb.attemptState.get? r = some .settled
  bound : s.lb.settledCount ≤ s.lb.settledRetention
  positive : 0 < s.lb.settledRetention

theorem HistoryOk.length_order (h : HistoryOk s) : s.order.length = s.lb.settledCount := by
  rw [← h.attempts.length_settledKeys]
  refine ((List.perm_ext_iff_of_nodup h.nodup (s.lb.attemptState.nodup.filter _)).2 fun r => ?_).length_eq
  rw [h.mem]
  simp only [List.mem_filter]
  exact ⟨fun hr => ⟨Dict.mem_keys_of_get? hr, by simpa using hr⟩, fun hr => by simpa using hr.2⟩

/-- A call that settles no request leaves the order as it is, and evicts nothing. -/
theorem HistoryOk.quiet (h : HistoryOk s) (hn : s.lb.settles l = [])
    (hq : Quiet s.lb (s.lb.after l)) (ha : (s.lb.after l).AttemptsOk) :
    HistoryOk (s.call l) ∧ OldestFirst s l (s.call l) ∧ ¬ Misplaced s l := by
  have hsettled : s.settled l =
      s.order.filter fun r => (s.lb.after l).attemptState.get? r ≠ some .admitted := by
    unfold settled
    rw [hn, List.append_nil]
  have horder : (s.call l).order = s.settled l := by
    show (s.settled l).filter _ = _
    refine List.filter_eq_self.2 fun r hr => ?_
    rw [hsettled] at hr
    obtain ⟨hr, hadm⟩ := List.mem_filter.1 hr
    rw [decide_eq_true_eq] at hadm ⊢
    exact (hq.settled r).2 ⟨(h.mem r).1 hr, hadm⟩
  have hnone : s.evicted l = 0 := by
    unfold evicted target
    rw [hn]
    exact if_pos h.bound
  refine ⟨⟨ha, ?_, fun r => ?_, ?_, ?_⟩, ⟨horder ▸ List.suffix_rfl, fun x r sender _ hr => ?_⟩, ?_⟩
  · rw [horder, hsettled]
    exact h.nodup.filter _
  · rw [horder, hsettled, List.mem_filter, decide_eq_true_eq, h.mem]
    exact (hq.settled r).symm
  · show (s.lb.after l).settledCount ≤ (s.lb.after l).settledRetention
    rw [hq.retention]
    exact hq.count.trans h.bound
  · show 0 < (s.lb.after l).settledRetention
    rw [hq.retention]
    exact h.positive
  · rw [hn] at hr
    cases hr
  · unfold Misplaced front
    rw [hnone]
    exact not_not.2 .nil

/-- What a call that settles requests leaves: the settled ones without the front of the table. -/
structure Retains (s : RouterHistory) (l : RouterCall) : Prop where
  settled : s.settled l = s.order ++ s.lb.settles l
  nodup : (s.settled l).Nodup
  perm : (s.lb.settledKeys (s.lb.settles l)).Perm (s.settled l)
  bound : s.evicted l = 0 ∨ s.evicted l < (s.settled l).length
  state : ∀ r, (s.lb.after l).attemptState.get? r = some .settled ↔ r ∈ s.settled l ∧ r ∉ s.front l
  proofs : ∀ r, r ∉ s.front l →
    (s.lb.after l).continuationProofs.get? r = s.lb.continuationProofs.get? r
  count : (s.lb.after l).settledCount ≤ (s.lb.after l).settledRetention
  retention : (s.lb.after l).settledRetention = s.lb.settledRetention

theorem HistoryOk.retains (h : HistoryOk s) (he : Evicts s.lb (s.lb.after l) (s.lb.settles l)) :
    Retains s l := by
  obtain ⟨mid, hmid, hset, hst, hpr, hct, hrt⟩ := he.evicts
  have hmem : ∀ r, r ∈ s.order ++ s.lb.settles l ↔ mid.attemptState.get? r = some .settled := by
    intro r
    rw [List.mem_append, h.mem, hset.state]
    by_cases hr : r ∈ s.lb.settles l <;> simp [hr]
  have hkeys : mid.settledKeys [] = s.lb.settledKeys (s.lb.settles l) := by
    unfold settledKeys
    rw [hset.keys]
    refine List.filter_congr fun r _ => decide_eq_decide.2 ?_
    rw [hset.state]
    by_cases hr : r ∈ s.lb.settles l <;> simp [hr]
  have hnodup : (s.order ++ s.lb.settles l).Nodup :=
    List.nodup_append.2 ⟨h.nodup, he.nodup, fun r hr r' hr' hrr => he.fresh r' hr' (hrr ▸ (h.mem r).1 hr)⟩
  have hcount : mid.settledCount = (s.order ++ s.lb.settles l).length := by
    rw [hset.count, List.length_append, h.length_order]
  have hn : s.evicted l = target mid.settledCount mid.settledRetention := by
    unfold evicted
    rw [hset.count, hset.retention]
  have hpos : 0 < mid.settledRetention := hset.retention ▸ h.positive
  have hgc := hmid.gc_front hpos hn
  have hfront : (mid.settledKeys []).take (s.evicted l) = s.front l := by rw [hkeys]; rfl
  rw [hfront] at hgc
  have hstate : ∀ r, (s.lb.after l).attemptState.get? r =
      if r ∈ s.front l then none else mid.attemptState.get? r := by
    intro r
    rw [hst, hgc]
    exact Dict.get?_eraseAll
  -- a settled request is evicted or stays, it is not readmitted
  have hall : s.settled l = s.order ++ s.lb.settles l := by
    unfold settled
    rw [List.filter_eq_self.2 fun r hr => decide_eq_true ?_]
    rw [hstate]
    split
    · nofun
    · rw [(hmem r).1 (List.mem_append_left _ hr)]
      nofun
  refine ⟨hall, hall ▸ hnodup, ?_, ?_, fun r => ?_, fun r hr => ?_, ?_, ?_⟩
  · rw [hall, ← hkeys]
    refine (List.perm_ext_iff_of_nodup (mid.attemptState.nodup.filter _) hnodup).2 fun r => ?_
    rw [hmem]
    simp only [List.mem_filter]
    exact ⟨fun hr => by simpa using hr.2, fun hr => ⟨Dict.mem_keys_of_get? hr, by simpa using hr⟩⟩
  · rw [hall, ← hcount, hn]
    exact target_lt hpos
  · rw [hstate, hall, hmem]
    split <;> simp [*]
  · rw [hpr, hgc]
    show (mid.continuationProofs.eraseAll _).get? r = _
    rw [Dict.get?_eraseAll, if_neg hr, hset.proofs]
  · rw [hct, hrt, hgc]
    show mid.settledCount - s.evicted l ≤ mid.settledRetention
    have hle := le_target_add mid.settledCount mid.settledRetention
    omega
  · rw [hrt, hgc]
    exact hset.retention

theorem Retains.order (h : Retains s l) :
    (s.call l).order = (s.settled l).filter fun r => r ∉ s.front l := by
  refine List.filter_congr fun r hr => decide_eq_decide.2 ?_
  rw [h.state]
  exact and_iff_right hr

theorem Retains.historyOk (h : Retains s l) (hs : HistoryOk s) (ha : (s.lb.after l).AttemptsOk) :
    HistoryOk (s.call l) where
  attempts := ha
  nodup := h.order ▸ h.nodup.filter _
  mem r := by
    rw [h.order, List.mem_filter, decide_eq_true_eq]
    exact (h.state r).symm
  bound := h.count
  positive := by
    show 0 < (s.lb.after l).settledRetention
    rw [h.retention]
    exact hs.positive

/-- A list without its first entries. -/
theorem filter_not_mem_take {α : Type} [DecidableEq α] {O : List α} (hn : O.Nodup) (n : Nat) :
    O.filter (fun r => r ∉ O.take n) = O.drop n := by
  have happ := List.take_append_drop n O
  have hdisj := (List.nodup_append.1 (by rw [happ]; exact hn : (O.take n ++ O.drop n).Nodup)).2.2
  calc O.filter (fun r => r ∉ O.take n)
      = (O.take n ++ O.drop n).filter (fun r => r ∉ O.take n) := by rw [happ]
    _ = (O.drop n).filter (fun r => r ∉ O.take n) := by
      rw [List.filter_append, List.filter_eq_nil_iff.2 fun r hr => by simpa using hr, List.nil_append]
    _ = O.drop n := List.filter_eq_self.2 fun r hr => by
      simpa using fun ht => hdisj r ht r hr rfl

/-- `n` entries of a list are its first ones exactly if the rest of the list is a suffix of it. -/
theorem suffix_iff_perm_take {α : Type} [DecidableEq α] {O F : List α} {n : Nat} (hn : O.Nodup)
    (hF : F.Nodup) (hsub : F ⊆ O) (hlen : F.length = n) :
    O.filter (fun r => r ∉ F) <:+ O ↔ F.Perm (O.take n) := by
  constructor
  · rintro ⟨init, hinit⟩
    have hrest : ∀ r ∈ init, r ∈ F := by
      intro r hr
      by_contra hrF
      have hO : r ∈ O := hinit ▸ List.mem_append_left _ hr
      have hdisj := (List.nodup_append.1 (hinit ▸ hn)).2.2
      exact hdisj r hr r (List.mem_filter.2 ⟨hO, by simpa using hrF⟩) rfl
    have hinitF : F.Perm init := by
      refine (List.perm_ext_iff_of_nodup hF (List.nodup_append.1 (hinit ▸ hn)).1).2 fun r => ?_
      refine ⟨fun hr => ?_, hrest r⟩
      have hO := hsub hr
      rw [← hinit] at hO
      exact (List.mem_append.1 hO).elim id fun hf => by
        simpa [hr] using (List.mem_filter.1 hf).2
    rw [← hinit, List.take_left' (hinitF.length_eq.symm.trans hlen)]
    exact hinitF
  · intro hperm
    have hrest : O.filter (fun r => r ∉ F) = O.filter fun r => r ∉ O.take n :=
      List.filter_congr fun r _ => decide_eq_decide.2 (not_congr hperm.mem_iff)
    rw [hrest, filter_not_mem_take hn]
    exact List.drop_suffix n O

/-- A call that settles requests evicts the oldest first exactly if they stand first in the table. -/
theorem Retains.oldestFirst_iff (h : Retains s l) : OldestFirst s l (s.call l) ↔ ¬ Misplaced s l := by
  have hle : s.evicted l ≤ (s.settled l).length := by
    rcases h.bound with h0 | hlt <;> omega
  have hiff : (s.call l).order <:+ s.settled l ↔ ¬ Misplaced s l := by
    unfold Misplaced
    rw [h.order, not_not, ← h.settled]
    refine suffix_iff_perm_take h.nodup ?_ (fun r hr => h.perm.subset (List.mem_of_mem_take hr)) ?_
    · exact ((h.perm.nodup_iff).2 h.nodup).sublist (List.take_sublist _ _)
    · rw [front, List.length_take, h.perm.length_eq, Nat.min_eq_left hle]
  refine ⟨fun ho => hiff.1 ho.1, fun hm => ⟨hiff.2 hm, ?_⟩⟩
  rintro x r sender rfl hr
  have hone : s.lb.settles (.releaseServer x r sender) = [r] := by
    unfold settles at hr ⊢
    dsimp only at hr ⊢
    split at hr
    · exact if_pos ‹_›
    · cases hr
  have hmem : r ∈ s.settled (.releaseServer x r sender) := by
    rw [h.settled, hone]
    exact List.mem_append_right _ (List.mem_singleton_self r)
  -- the released request is the last of those that have settled
  have hlast : r ∉ s.front (.releaseServer x r sender) := by
    intro hin
    have hin := (not_not.1 hm).subset hin
    have hnodup := h.nodup
    have hbound := h.bound
    rw [h.settled, hone] at hnodup hbound
    rw [hone] at hin
    rw [List.length_append, List.length_singleton] at hbound
    rw [List.take_append_of_le_length (by omega)] at hin
    exact (List.nodup_append.1 hnodup).2.2 r (List.mem_of_mem_take hin) r
      (List.mem_singleton_self r) rfl
  exact ⟨(h.state r).2 ⟨hmem, hlast⟩, h.proofs r hlast⟩

theorem HistoryOk.call (h : HistoryOk s) :
    HistoryOk (s.call l) ∧ (OldestFirst s l (s.call l) ↔ ¬ Misplaced s l) := by
  have ha := h.attempts.after l
  rcases after_settles h.attempts l with ⟨hn, hq⟩ | he
  · obtain ⟨hok, ho, hm⟩ := h.quiet hn hq ha
    exact ⟨hok, iff_of_true ho hm⟩
  · have hr := h.retains he
    exact ⟨hr.historyOk h ha, hr.oldestFirst_iff⟩

theorem historyOk_init (h : machine.init s) : HistoryOk s := by
  obtain ⟨servers, routes, retention, hpos, rfl⟩ := h
  exact ⟨RouterSystem.LedgerOk.start.attempts, List.nodup_nil,
    fun r => by simp [GlobalRequestLoadBalancer.init], Nat.zero_le _, hpos⟩

/-- A run evicts the oldest settlements first exactly if none of its calls evicts requests out of turn. -/
theorem evicts_oldest (hi : machine.init s) :
    (machine.RunWhere (fun u l _ => ¬ Misplaced u l) s t ↔ machine.RunWhere OldestFirst s t) ∧
      (machine.Run s t → ∀ r, r ∈ t.order ↔ t.lb.queryAttempt r = some .settled) := by
  have hstep : ∀ {u l u'}, HistoryOk u → machine.step u l u' →
      HistoryOk u' ∧ (OldestFirst u l u' ↔ ¬ Misplaced u l) := by
    intro u l u' hu hs
    cases hs
    exact hu.call
  have hok := historyOk_init hi
  refine ⟨⟨fun h => (h.strengthen hok fun u l u' hu hs hm => ?_).1,
    fun h => (h.strengthen hok fun u l u' hu hs ho => ?_).1⟩, fun h => ?_⟩
  · exact (hstep hu hs).imp id fun hiff => hiff.2 hm
  · exact (hstep hu hs).imp id fun hiff => hiff.1 ho
  · exact (h.invariant (fun u l u' hu hs _ => (hstep hu hs).1) hok).mem

/-! ### A bound of one -/

def small : RouterHistory :=
  ⟨{ GlobalRequestLoadBalancer.init ((∅ : Dict String Nat).insert "s0" 0) ∅ with
      settledRetention := 1 }, []⟩

/-- Two requests, the second begins when the first has settled. -/
def inTurn : List RouterCall :=
  [.acquireServer "r1" "s0", .releaseServer "s0" "r1" none,
   .acquireServer "r2" "s0", .releaseServer "s0" "r2" none]

/-- A request that runs while a shorter one comes and goes. -/
def longAndShort : List RouterCall :=
  [.acquireServer "long" "s0", .acquireServer "short" "s0", .releaseServer "s0" "short" none]

def after (ls : List RouterCall) : RouterHistory := Machine.exec (fun l s => s.call l) ls small

theorem init_small : machine.init small := ⟨_, _, 1, Nat.one_pos, rfl⟩

theorem evicts_oldest_inTurn : machine.RunWhere OldestFirst small (after inTurn) ∧
    (after inTurn).order = ["r2"] := by
  have hrun : machine.RunWhere (fun u l _ => ¬ Misplaced u l) small (after inTurn) :=
    Machine.runWhere_exec _ _ _ _ _ (by decide +kernel)
  exact ⟨(evicts_oldest init_small).1.1 hrun, by decide +kernel⟩

/-- The release of the long request evicts that request and retains the short one. -/
theorem long_evicted : machine.Reachable (after longAndShort) ∧
    "long" ∈ (after longAndShort).lb.settles (.releaseServer "s0" "long" none) ∧
    ((after longAndShort).call (.releaseServer "s0" "long" none)).lb.queryAttempt "long" = none ∧
    ((after longAndShort).call (.releaseServer "s0" "long" none)).lb.queryAttempt "short" =
      some .settled :=
  ⟨⟨small, init_small, Machine.run_exec _ _ _ _⟩, by decide +kernel, by decide +kernel,
    by decide +kernel⟩

end RouterHistory

end ReplicaLending
