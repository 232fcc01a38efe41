import ReplicaLending.Router.Attempts
import ReplicaLending.Router.Drain
/-!
# Continuation proofs and handoffs

A confirmed continuation leaves two facts behind with different lifetimes. The *proof* belongs to
the attempt: readmission drops it, retention drops it with the settled attempt. The *handoff*
belongs to the drain: it stays when the request is readmitted elsewhere, and goes with the
`finish_remove` of the drained key.

| fact | written | dropped |
| --- | --- | --- |
| `continuation_proofs`   | `confirm_continuation` (:143)  | `acquire_server` (:92), retention (:79) |
| `continuation_handoffs` | `confirm_continuation` (:149)  | `finish_remove` (:267) |
| `draining_operations`   | `begin_drain` (:243)           | `finish_remove` (:265) |
-/

namespace ReplicaLending

namespace GlobalRequestLoadBalancer

variable {lb lb' : GlobalRequestLoadBalancer} {r x o : String} {k : ReplicaKey}

/-- The load balancer after a call, raise or return. -/
def after (lb : GlobalRequestLoadBalancer) : RouterCall → GlobalRequestLoadBalancer
  | .acquireServer r pick => (lb.acquireServer r pick).2
  | .releaseServer x r _ => (lb.releaseServer x r).2
  | .confirmContinuation now r client digest => (lb.confirmContinuation now r client digest).2
  | .commitReady now k x h o => (lb.commitReady now k x h o).2
  | .beginDrain k o => (lb.beginDrain k o).2
  | .finishRemove k => (lb.finishRemove k).2

theorem call_lb (s : RouterSystem) (l : RouterCall) : (s.call l).lb = s.lb.after l := by
  cases l with
  | acquireServer r pick =>
    show (s.acquire r pick).lb = (s.lb.acquireServer r pick).2
    unfold RouterSystem.acquire
    split <;> simp [*]
  | _ => rfl

/-- Any sequence of calls with any arguments on any load balancer. -/
def calls : Machine GlobalRequestLoadBalancer RouterCall where
  init lb := ∃ servers routes retention,
    (∀ k x, routes.get? k = some x → (servers.get? x).isSome) ∧
      lb = { init servers routes with settledRetention := retention }
  step lb l lb' := lb' = lb.after l

/-! ## What a call does to the drain tables -/

/-- The continuation tables are the same. -/
structure SameProofs (lb lb' : GlobalRequestLoadBalancer) : Prop where
  attempts : lb'.attemptState = lb.attemptState
  active : lb'.activeRequestServer = lb.activeRequestServer
  proofs : lb'.continuationProofs = lb.continuationProofs
  handoffs : lb'.continuationHandoffs = lb.continuationHandoffs

theorem SameProofs.refl (lb : GlobalRequestLoadBalancer) : SameProofs lb lb := ⟨rfl, rfl, rfl, rfl⟩

theorem acquireServer_cases (lb : GlobalRequestLoadBalancer) (r pick : String) :
    (∃ e, lb.acquireServer r pick = (.error e, lb)) ∨
    ∃ p lb', lb.acquireServer r pick = (.ok p, lb') ∧ ¬ lb.Unsettled r ∧
      lb'.attemptState = lb.attemptState.insert r .admitted ∧
      lb'.activeRequestServer = lb.activeRequestServer.insert r pick ∧
      lb'.continuationProofs = (if lb.attemptState.get? r = some .settled
        then lb.continuationProofs.erase r else lb.continuationProofs) ∧
      lb'.continuationHandoffs = lb.continuationHandoffs := by
  unfold acquireServer
  dsimp only
  split
  · exact .inl ⟨_, rfl⟩
  rename_i hu
  split
  · exact .inl ⟨_, rfl⟩
  · refine .inr ⟨_, _, rfl, hu, rfl, rfl, ?_, rfl⟩
    by_cases hs : lb.attemptState.get? r = some .settled <;> simp [hs]

theorem confirmContinuation_cases (lb : GlobalRequestLoadBalancer) (now : Nat) (r c d : String) :
    (∃ res, lb.confirmContinuation now r c d = (res, lb) ∧
      ∀ e, res = .ok e → ∃ o, lb.continuationProofs.get? r = some (c, d, o, e)) ∨
    ∃ y o e, (r ≠ "" ∧ c ≠ "" ∧ d ≠ "" ∧ e.operationId = o) ∧
      lb.continuationProofs.get? r = none ∧ lb.attemptState.get? r = some .admitted ∧
      lb.activeRequestServer.get? r = some y ∧ lb.drainingOperations.get? y = some o ∧
      lb.confirmContinuation now r c d = (.ok e, { lb with
        continuationProofs := lb.continuationProofs.insert r (c, d, o, e)
        continuationHandoffs := lb.continuationHandoffs.insert o
          (((lb.continuationHandoffs.get? o).getD []).insert r)
        attemptState := lb.attemptState.insert r .terminated }) := by
  unfold confirmContinuation
  split
  · exact .inl ⟨_, rfl, nofun⟩
  rename_i hne
  split
  · rename_i pc pd po pe hp
    split
    · exact .inl ⟨_, rfl, nofun⟩
    · rename_i hs
      simp only [not_or, not_not] at hs
      obtain ⟨rfl, rfl⟩ := hs
      exact .inl ⟨_, rfl, fun e he => ⟨po, by cases he; exact hp⟩⟩
  rename_i hp
  split
  · exact .inl ⟨_, rfl, nofun⟩
  rename_i ha
  split
  · exact .inl ⟨_, rfl, nofun⟩
  rename_i o ho
  obtain ⟨y, hy, ho⟩ := Option.bind_eq_some_iff.1 ho
  split
  · exact .inl ⟨_, rfl, nofun⟩
  · rename_i e he
    simp only [not_or] at hne
    exact .inr ⟨y, o, e, ⟨hne.1, hne.2.1, hne.2.2, (OperationEvidence.now_ok he).1⟩, hp,
      not_not.1 ha, hy, ho, rfl⟩

theorem beginDrain_eq (lb : GlobalRequestLoadBalancer) (k : ReplicaKey) (o : String) :
    (∃ e, lb.beginDrain k o = (.error e, lb)) ∨
    ∃ y, lb.routes.get? k = some y ∧
      (lb.drainingOperations.get? y = none ∨ lb.drainingOperations.get? y = some o) ∧
      SameProofs lb (lb.beginDrain k o).2 ∧ (lb.beginDrain k o).2.routes = lb.routes ∧
      (lb.beginDrain k o).2.drainingOperations = lb.drainingOperations.insert y o := by
  unfold beginDrain
  split
  · exact .inl ⟨_, rfl⟩
  split
  · exact .inl ⟨_, rfl⟩
  rename_i y hy
  dsimp only
  split
  · exact .inl ⟨_, rfl⟩
  · rename_i hd
    refine .inr ⟨y, hy, ?_, ⟨rfl, rfl, rfl, rfl⟩, rfl, rfl⟩
    cases hx : lb.drainingOperations.get? y with
    | none => exact .inl rfl
    | some o' =>
      rw [hx] at hd
      simp only [Option.isSome_some, true_and, not_not] at hd
      exact .inr hd

theorem commitReady_eq (lb : GlobalRequestLoadBalancer) (now : Nat) (k : ReplicaKey)
    (y : String) (h : Nat) (o : String) :
    SameProofs lb (lb.commitReady now k y h o).2 ∧
    (lb.commitReady now k y h o).2.drainingOperations = lb.drainingOperations ∧
    ((lb.commitReady now k y h o).2.routes = lb.routes ∨
      (lb.routes.get? k = none ∨ lb.routes.get? k = some y) ∧
      (lb.commitReady now k y h o).2.routes = lb.routes.insert k y) := by
  unfold commitReady
  split
  · exact ⟨.refl lb, rfl, .inl rfl⟩
  split
  · exact ⟨.refl lb, rfl, .inl rfl⟩
  split
  · split
    · exact ⟨.refl lb, rfl, .inl rfl⟩
    split <;> exact ⟨.refl lb, rfl, .inl rfl⟩
  dsimp only
  split
  · exact ⟨.refl lb, rfl, .inl rfl⟩
  rename_i hr
  have hroute : lb.routes.get? k = none ∨ lb.routes.get? k = some y := by
    cases hx : lb.routes.get? k with
    | none => exact .inl rfl
    | some y' =>
      rw [hx] at hr
      simp only [Option.isSome_some, true_and, not_not] at hr
      exact .inr hr
  split
  · exact ⟨.refl lb, rfl, .inl rfl⟩
  split
  · exact ⟨.refl lb, rfl, .inl rfl⟩
  split <;> exact ⟨⟨rfl, rfl, rfl, rfl⟩, rfl, .inr ⟨hroute, rfl⟩⟩

/-- A settled request stays settled, and every TERMINATED one on the list is settled. -/
theorem settleTerminated_settles : ∀ (rs : List String) (lb : GlobalRequestLoadBalancer) {j : String},
    j ∈ rs → (settleTerminated rs lb).attemptState.get? j ≠ some .terminated
  | [], _, _, hj => by cases hj
  | r :: rs, lb, j, hj => by
    rw [settleTerminated]
    by_cases hm : j ∈ rs
    · split <;> exact settleTerminated_settles rs _ hm
    obtain rfl : j = r := (List.mem_cons.1 hj).resolve_right hm
    by_cases ht : lb.attemptState.get? j = some .terminated
    · rw [if_pos ht]
      show (settleTerminated rs (lb.settle j)).attemptState.get? j ≠ _
      rcases settleTerminated_get rs (lb.settle j) j with ⟨hs, -⟩ | ⟨hs, -⟩
      · rw [hs, settle, Dict.get?_insert_self]
        exact fun h => by cases h
      · rw [hs]
        exact fun h => by cases h
    · rw [if_neg ht]
      rcases settleTerminated_get rs lb j with ⟨hs, -⟩ | ⟨hs, -⟩
      · rw [hs]; exact ht
      · rw [hs]
        exact fun h => by cases h

theorem settleTerminated_frame : ∀ (rs : List String) (lb : GlobalRequestLoadBalancer),
    (settleTerminated rs lb).continuationProofs = lb.continuationProofs ∧
      (settleTerminated rs lb).continuationHandoffs = lb.continuationHandoffs
  | [], _ => ⟨rfl, rfl⟩
  | r :: rs, lb => by
    rw [settleTerminated]
    split <;> exact settleTerminated_frame rs _

/-! ## The invariant -/

structure Proven (lb : GlobalRequestLoadBalancer) : Prop where
  /-- A TERMINATED request has a proof that names the operation draining its server. -/
  terminated : ∀ {r}, lb.attemptState.get? r = some .terminated → ∃ y c d o e,
    lb.activeRequestServer.get? r = some y ∧ lb.continuationProofs.get? r = some (c, d, o, e) ∧
      lb.drainingOperations.get? y = some o
  /-- A request with a proof is TERMINATED or SETTLED. -/
  proof : ∀ {r p}, lb.continuationProofs.get? r = some p →
    lb.attemptState.get? r = some .terminated ∨ lb.attemptState.get? r = some .settled

theorem Proven.same (h : Proven lb) (hs : SameProofs lb lb')
    (hd : ∀ {y o}, lb.drainingOperations.get? y = some o →
      lb'.drainingOperations.get? y = some o) : Proven lb' := by
  refine ⟨fun {r} ht => ?_, fun {r p} hp => ?_⟩
  · rw [hs.attempts] at ht
    obtain ⟨y, c, d, o, e, hy, hp, ho⟩ := h.terminated ht
    exact ⟨y, c, d, o, e, by rw [hs.active]; exact hy, by rw [hs.proofs]; exact hp, hd ho⟩
  · rw [hs.proofs] at hp
    rw [hs.attempts]
    exact h.proof hp

theorem Proven.gc (h : Proven lb) : Proven lb.gcSettledRequests := by
  obtain ⟨expired, -, hs, he⟩ := gc_eq lb
  rw [he]
  refine ⟨fun {r} ht => ?_, fun {r p} hp => ?_⟩
  · simp only [Dict.get?_eraseAll] at ht ⊢
    split at ht
    · cases ht
    rename_i hm
    rw [if_neg hm]
    exact h.terminated ht
  · simp only [Dict.get?_eraseAll] at hp ⊢
    split at hp
    · cases hp
    rename_i hm
    rw [if_neg hm]
    exact h.proof hp

theorem Proven.acquire (h : Proven lb) (pick : String) : Proven (lb.acquireServer r pick).2 := by
  rcases acquireServer_cases lb r pick with ⟨e, he⟩ | ⟨p, lb', he, hu, hst, hact, hpr, -⟩
  · rw [he]; exact h
  have hd : lb'.drainingOperations = lb.drainingOperations := by
    have := (sameRouting_acquire lb r pick).2.2.2
    rwa [he] at this
  rw [he]
  -- the proof of a settled attempt is dropped, and a request without an attempt has none
  have hnone : lb'.continuationProofs.get? r = none := by
    rw [hpr]
    split
    · exact Dict.get?_erase_self _ _
    · rename_i hs
      by_contra hp
      obtain ⟨p, hp⟩ := Option.ne_none_iff_exists'.1 hp
      exact (h.proof hp).elim (fun ht => hu (.inr ht)) hs
  have hother : ∀ {j}, r ≠ j →
      lb'.continuationProofs.get? j = lb.continuationProofs.get? j := by
    intro j hj
    rw [hpr]
    split
    · exact Dict.get?_erase_ne _ hj
    · rfl
  refine ⟨fun {j} ht => ?_, fun {j p} hp => ?_⟩
  · by_cases hj : r = j
    · subst hj
      rw [hst, Dict.get?_insert_self] at ht
      cases ht
    · rw [hst, Dict.get?_insert_ne _ _ hj] at ht
      rw [hact, Dict.get?_insert_ne _ _ hj, hother hj, hd]
      exact h.terminated ht
  · by_cases hj : r = j
    · subst hj
      rw [hnone] at hp
      cases hp
    · rw [hother hj] at hp
      rw [hst, Dict.get?_insert_ne _ _ hj]
      exact h.proof hp

theorem Proven.settle (h : Proven lb) : Proven (lb.settle r) := by
  refine ⟨fun {j} ht => ?_, fun {j p} hp => ?_⟩
  · by_cases hj : r = j
    · subst hj
      simp [GlobalRequestLoadBalancer.settle] at ht
    · simp only [GlobalRequestLoadBalancer.settle, Dict.get?_insert_ne _ _ hj,
        Dict.get?_erase_ne _ hj] at ht ⊢
      exact h.terminated ht
  · by_cases hj : r = j
    · subst hj
      exact .inr (Dict.get?_insert_self ..)
    · simp only [GlobalRequestLoadBalancer.settle, Dict.get?_insert_ne _ _ hj]
      exact h.proof hp

theorem Proven.release (h : Proven lb) : Proven (lb.releaseServer x r).2 := by
  by_cases hr : r = ""
  · unfold releaseServer
    rw [if_pos hr]
    exact h
  rw [releaseServer_eq hr]
  split
  · exact h.settle.gc
  · exact h

theorem Proven.confirm (h : Proven lb) (now : Nat) (c d : String) :
    Proven (lb.confirmContinuation now r c d).2 := by
  rcases confirmContinuation_cases lb now r c d with ⟨e, he, -⟩ | ⟨y, o, e, -, -, -, hy, ho, he⟩
  · rw [he]; exact h
  rw [he]
  refine ⟨fun {j} ht => ?_, fun {j p} hp => ?_⟩
  · by_cases hj : r = j
    · subst hj
      exact ⟨y, c, d, o, e, hy, Dict.get?_insert_self .., ho⟩
    · simp only [Dict.get?_insert_ne _ _ hj] at ht ⊢
      exact h.terminated ht
  · by_cases hj : r = j
    · subst hj
      exact .inl (Dict.get?_insert_self ..)
    · simp only [Dict.get?_insert_ne _ _ hj] at hp ⊢
      exact h.proof hp

theorem mem_requestsForServer {y : String} (h : lb.activeRequestServer.get? r = some y) :
    r ∈ lb.requestsForServer y :=
  List.mem_map.2 ⟨(r, y), List.mem_filter.2 ⟨Dict.mem_entries.2 h, by simp⟩, rfl⟩

theorem nodup_requestsForServer {y : String} : (lb.requestsForServer y).Nodup :=
  (List.Sublist.map Prod.fst List.filter_sublist).nodup lb.activeRequestServer.nodup

theorem Proven.settleTerminated (h : Proven lb) (rs : List String) :
    Proven (settleTerminated rs lb) := by
  obtain ⟨hp, -⟩ := settleTerminated_frame rs lb
  have hd := (show SameRouting lb _ from sameRouting_settleTerminated rs).2.2.2
  refine ⟨fun {r} ht => ?_, fun {r p} hr => ?_⟩
  · rcases settleTerminated_get rs lb r with ⟨hs, ha⟩ | ⟨hs, -⟩
    · rw [ha, hp, hd]
      exact h.terminated (hs ▸ ht)
    · rw [hs] at ht
      cases ht
  · rcases settleTerminated_get rs lb r with ⟨hs, -⟩ | ⟨hs, -⟩
    · rw [hs]
      exact h.proof (hp ▸ hr)
    · exact .inr hs

/-- `finish_remove` on the server of its key (:258-267) … -/
def endDrain (lb : GlobalRequestLoadBalancer) (y : String) : GlobalRequestLoadBalancer :=
  let settled := GlobalRequestLoadBalancer.settleTerminated (lb.requestsForServer y) lb
  { settled with
    servers := settled.servers.erase y
    drainingOperations := settled.drainingOperations.erase y
    continuationHandoffs := match settled.drainingOperations.get? y with
      | some o => settled.continuationHandoffs.erase o
      | none => settled.continuationHandoffs }

/-- … and then on the key (:269-274). -/
def unroute (lb : GlobalRequestLoadBalancer) (k : ReplicaKey) : GlobalRequestLoadBalancer :=
  { lb with
    routes := lb.routes.erase k
    readyOperations := lb.readyOperations.eraseAll
      ((lb.readyOperations.entries.filter fun e => e.2.1 = k).map Prod.fst) }

theorem finishRemove_eq (lb : GlobalRequestLoadBalancer) (k : ReplicaKey) :
    (lb.finishRemove k).2 = lb ∨ ∃ y, lb.routes.get? k = some y ∧
      (lb.finishRemove k).2 = (lb.endDrain y).gcSettledRequests.unroute k := by
  unfold finishRemove
  split
  · exact .inl rfl
  rename_i y hy
  dsimp only
  split
  · exact .inl rfl
  · exact .inr ⟨y, hy, rfl⟩

theorem drainingOperations_endDrain (y : String) :
    (lb.endDrain y).drainingOperations = lb.drainingOperations.erase y :=
  congrArg (Dict.erase · y) (show SameRouting lb _ from sameRouting_settleTerminated _).2.2.2

theorem continuationHandoffs_endDrain (y : String) :
    (lb.endDrain y).continuationHandoffs = match lb.drainingOperations.get? y with
      | some o => lb.continuationHandoffs.erase o
      | none => lb.continuationHandoffs := by
  unfold endDrain
  dsimp only
  rw [(show SameRouting lb _ from sameRouting_settleTerminated _).2.2.2, (settleTerminated_frame _ lb).2]

/-- The drain of a server ends with its last TERMINATED request settled. -/
theorem Proven.endDrain (h : Proven lb) (y : String) : Proven (lb.endDrain y) := by
  have ht := h.settleTerminated (lb.requestsForServer y)
  refine ⟨fun {r} hr => ?_, ht.proof⟩
  obtain ⟨z, c, d, o, e, hz, hp, ho⟩ := ht.terminated hr
  have hne : y ≠ z := by
    rintro rfl
    -- a TERMINATED request of the server is on the list that is settled
    have hm : r ∈ lb.requestsForServer y := by
      rcases settleTerminated_get (lb.requestsForServer y) lb r with ⟨-, ha⟩ | ⟨-, ha⟩
      · exact mem_requestsForServer (ha.symm.trans hz)
      · rw [ha] at hz; cases hz
    exact settleTerminated_settles _ lb hm hr
  exact ⟨z, c, d, o, e, hz, hp, (Dict.get?_erase_ne _ hne).trans ho⟩

theorem Proven.finishRemove (h : Proven lb) (k : ReplicaKey) : Proven (lb.finishRemove k).2 := by
  rcases finishRemove_eq lb k with he | ⟨y, -, he⟩
  · rw [he]; exact h
  · rw [he]
    exact (h.endDrain y).gc.same ⟨rfl, rfl, rfl, rfl⟩ id

theorem Proven.after (h : Proven lb) (l : RouterCall) : Proven (lb.after l) := by
  cases l with
  | acquireServer r pick => exact h.acquire pick
  | releaseServer x r sender => exact h.release
  | confirmContinuation now r c d => exact h.confirm now c d
  | commitReady now k x n o =>
    obtain ⟨hs, hd, -⟩ := commitReady_eq lb now k x n o
    exact h.same hs fun ho => hd ▸ ho
  | beginDrain k o =>
    rcases beginDrain_eq lb k o with ⟨e, he⟩ | ⟨y, -, ho, hs, -, hd⟩
    · simp only [GlobalRequestLoadBalancer.after, he]; exact h
    · refine h.same hs fun {z p} hz => ?_
      show (lb.beginDrain k o).2.drainingOperations.get? z = some p
      rw [hd, Dict.get?_insert]
      split
      · -- the server already drains: under this very operation
        rename_i hyz
        subst hyz
        rcases ho with ho | ho
        · rw [ho] at hz; cases hz
        · exact ho.symm.trans hz
      · exact hz
  | finishRemove k => exact h.finishRemove k

theorem Proven.start {servers : Dict String Nat} {routes : Dict ReplicaKey String} {n : Nat} :
    Proven { init servers routes with settledRetention := n } := ⟨nofun, nofun⟩

theorem proven_reachable (h : calls.Reachable lb) : Proven lb := by
  refine h.invariant (I := Proven) ?_ fun lb l lb' hI hs _ => ?_
  · rintro lb ⟨servers, routes, n, -, rfl⟩
    exact .start
  · cases hs; exact hI.after l

/-! ## How long a proof lasts -/

/-- The call admits the request again, or its record is gone afterwards. -/
def Forgets (lb : GlobalRequestLoadBalancer) (r : String) (l : RouterCall) : Prop :=
  (∃ pick p, l = .acquireServer r pick ∧ (lb.acquireServer r pick).1 = .ok p) ∨
    (lb.after l).attemptState.get? r = none

variable {p : String × String × String × OperationEvidence}

theorem proof_gc (hp : lb.continuationProofs.get? r = some p)
    (hk : lb.gcSettledRequests.attemptState.get? r ≠ none) :
    lb.gcSettledRequests.continuationProofs.get? r = some p := by
  obtain ⟨expired, -, -, he⟩ := gc_eq lb
  rw [he] at hk ⊢
  simp only [Dict.get?_eraseAll] at hk ⊢
  split at hk
  · exact absurd rfl hk
  · rw [if_neg ‹_›]; exact hp

/-- A proof stays until the request is readmitted or evicted. -/
theorem proof_after (hp : lb.continuationProofs.get? r = some p) {l : RouterCall}
    (hf : ¬ lb.Forgets r l) : (lb.after l).continuationProofs.get? r = some p := by
  cases l with
  | acquireServer j pick =>
    rcases acquireServer_cases lb j pick with ⟨e, he⟩ | ⟨q, lb', he, -, -, -, hpr, -⟩
    · simp only [GlobalRequestLoadBalancer.after, he]; exact hp
    · have hj : j ≠ r := by
        rintro rfl
        exact hf (.inl ⟨pick, q, rfl, by rw [he]⟩)
      simp only [GlobalRequestLoadBalancer.after, he, hpr]
      split
      · rw [Dict.get?_erase_ne _ hj]; exact hp
      · exact hp
  | releaseServer x j sender =>
    have hk : (lb.after (.releaseServer x j sender)).attemptState.get? r ≠ none :=
      fun hn => hf (.inr hn)
    by_cases hj : j = ""
    · simp only [GlobalRequestLoadBalancer.after, releaseServer, hj, if_true]; exact hp
    · simp only [GlobalRequestLoadBalancer.after, releaseServer_eq hj] at hk ⊢
      split at hk
      · rw [if_pos ‹_›]
        exact proof_gc hp hk
      · rw [if_neg ‹_›]; exact hp
  | confirmContinuation now j c d =>
    rcases confirmContinuation_cases lb now j c d with ⟨e, he, -⟩ | ⟨y, o, e, -, hn, -, -, -, he⟩
    · simp only [GlobalRequestLoadBalancer.after, he]; exact hp
    · have hj : j ≠ r := by
        rintro rfl
        rw [hp] at hn
        cases hn
      simp only [GlobalRequestLoadBalancer.after, he, Dict.get?_insert_ne _ _ hj]
      exact hp
  | commitReady now k x n o =>
    have hs := (commitReady_eq lb now k x n o).1.proofs
    simp only [GlobalRequestLoadBalancer.after, hs]
    exact hp
  | beginDrain k o =>
    rcases beginDrain_eq lb k o with ⟨e, he⟩ | ⟨y, -, -, hs, -, -⟩
    · simp only [GlobalRequestLoadBalancer.after, he]; exact hp
    · simp only [GlobalRequestLoadBalancer.after, hs.proofs]; exact hp
  | finishRemove k =>
    have hk : (lb.after (.finishRemove k)).attemptState.get? r ≠ none := fun hn => hf (.inr hn)
    rcases finishRemove_eq lb k with he | ⟨y, -, he⟩
    · simp only [GlobalRequestLoadBalancer.after, he]; exact hp
    · simp only [GlobalRequestLoadBalancer.after, he] at hk ⊢
      refine proof_gc ?_ hk
      show (GlobalRequestLoadBalancer.settleTerminated _ lb).continuationProofs.get? r = _
      rw [(settleTerminated_frame _ lb).1]
      exact hp

/-- A proof is new only in the `confirm_continuation` that records it. -/
theorem proof_origin {l : RouterCall} (hp : (lb.after l).continuationProofs.get? r = some p) :
    lb.continuationProofs.get? r = some p ∨
      r ≠ "" ∧ p.1 ≠ "" ∧ p.2.1 ≠ "" ∧ p.2.2.2.operationId = p.2.2.1 := by
  have hgc : ∀ {lb' : GlobalRequestLoadBalancer}, lb'.continuationProofs = lb.continuationProofs →
      lb'.gcSettledRequests.continuationProofs.get? r = some p →
      lb.continuationProofs.get? r = some p := by
    intro lb' he hp
    obtain ⟨expired, -, -, hg⟩ := gc_eq lb'
    rw [hg] at hp
    simp only [Dict.get?_eraseAll] at hp
    split at hp
    · cases hp
    · rwa [he] at hp
  cases l with
  | acquireServer j pick =>
    rcases acquireServer_cases lb j pick with ⟨e, he⟩ | ⟨q, lb', he, -, -, -, hpr, -⟩
    · simp only [GlobalRequestLoadBalancer.after, he] at hp; exact .inl hp
    · simp only [GlobalRequestLoadBalancer.after, he, hpr] at hp
      split at hp
      · rw [Dict.get?_erase] at hp
        split at hp
        · cases hp
        · exact .inl hp
      · exact .inl hp
  | releaseServer x j sender =>
    by_cases hj : j = ""
    · simp only [GlobalRequestLoadBalancer.after, releaseServer, hj, if_true] at hp; exact .inl hp
    · simp only [GlobalRequestLoadBalancer.after, releaseServer_eq hj] at hp
      split at hp
      · have he : (lb.settle j).continuationProofs = lb.continuationProofs := rfl
        exact .inl (hgc he hp)
      · exact .inl hp
  | confirmContinuation now j c d =>
    rcases confirmContinuation_cases lb now j c d with ⟨e, he, -⟩ | ⟨y, o, e, hn, -, -, -, -, he⟩
    · simp only [GlobalRequestLoadBalancer.after, he] at hp; exact .inl hp
    · simp only [GlobalRequestLoadBalancer.after, he, Dict.get?_insert] at hp
      by_cases hj : j = r
      · subst hj
        rw [if_pos rfl] at hp
        cases hp
        exact .inr hn
      · rw [if_neg hj] at hp
        exact .inl hp
  | commitReady now k x n o => exact .inl ((commitReady_eq lb now k x n o).1.proofs ▸ hp)
  | beginDrain k o =>
    rcases beginDrain_eq lb k o with ⟨e, he⟩ | ⟨y, -, -, hs, -, -⟩
    · simp only [GlobalRequestLoadBalancer.after, he] at hp; exact .inl hp
    · exact .inl (hs.proofs ▸ hp)
  | finishRemove k =>
    rcases finishRemove_eq lb k with he | ⟨y, -, he⟩
    · simp only [GlobalRequestLoadBalancer.after, he] at hp; exact .inl hp
    · simp only [GlobalRequestLoadBalancer.after, he] at hp
      have hpr : (lb.endDrain y).continuationProofs = lb.continuationProofs :=
        (settleTerminated_frame _ lb).1
      exact .inl (hgc hpr hp)

/-- Proofs carry nonempty fields, and evidence of the operation they name. -/
def Named (lb : GlobalRequestLoadBalancer) : Prop := ∀ ⦃r p⦄, lb.continuationProofs.get? r = some p →
  r ≠ "" ∧ p.1 ≠ "" ∧ p.2.1 ≠ "" ∧ p.2.2.2.operationId = p.2.2.1

theorem named_reachable (h : calls.Reachable lb) : Named lb := by
  refine h.invariant (I := fun lb => Named lb) ?_ fun lb l lb' hI hs _ => ?_
  · rintro lb ⟨servers, routes, n, -, rfl⟩
    exact nofun
  · cases hs
    intro r p hp
    exact (proof_origin hp).elim (fun h => hI h) id

/-- What a confirmation returns is recorded as the proof of the request. -/
theorem confirm_ok {now : Nat} {c d : String} {e : OperationEvidence}
    (h : (lb.confirmContinuation now r c d).1 = .ok e) :
    ∃ o, (lb.after (.confirmContinuation now r c d)).continuationProofs.get? r = some (c, d, o, e) := by
  simp only [after]
  rcases confirmContinuation_cases lb now r c d with ⟨res, he, hres⟩ | ⟨y, o, e', -, -, -, -, -, he⟩
  · rw [he] at h ⊢
    exact hres e h
  · rw [he] at h ⊢
    cases h
    exact ⟨o, Dict.get?_insert_self ..⟩

/-- An exact retry is answered with the recorded evidence, any other is rejected; neither writes. -/
theorem confirm_retry (hn : Named lb) {c d o : String} {e : OperationEvidence}
    (hp : lb.continuationProofs.get? r = some (c, d, o, e)) (now : Nat) (c' d' : String) :
    (c' = c ∧ d' = d → lb.confirmContinuation now r c' d' = (.ok e, lb)) ∧
    (c' ≠ c ∨ d' ≠ d → ∃ err, lb.confirmContinuation now r c' d' = (.error err, lb)) := by
  obtain ⟨hr, hc, hd, -⟩ := hn hp
  refine ⟨fun h => ?_, fun h => ?_⟩
  · obtain ⟨rfl, rfl⟩ := h
    simp [confirmContinuation, hr, hc, hd, hp]
  · unfold confirmContinuation
    split
    · exact ⟨_, rfl⟩
    · have hne : c ≠ c' ∨ d ≠ d' := h.imp Ne.symm Ne.symm
      simp only [hp, if_pos hne]
      exact ⟨_, rfl⟩

/-! ## How long a handoff lasts -/

/-- The operation drains the server that the key routes to. -/
def Drains (lb : GlobalRequestLoadBalancer) (o : String) (k : ReplicaKey) : Prop :=
  ∃ y, lb.routes.get? k = some y ∧ lb.drainingOperations.get? y = some o

/-- Only the `finish_remove` of a key that the operation drains takes handoffs from it. -/
theorem handoff_after (hm : r ∈ lb.handoffs o) {l : RouterCall}
    (hl : ∀ k, l = .finishRemove k → ¬ lb.Drains o k) :
    r ∈ (lb.after l).handoffs o := by
  have hsame : ∀ {lb' : GlobalRequestLoadBalancer},
      lb'.continuationHandoffs = lb.continuationHandoffs →
      r ∈ lb'.handoffs o := fun he => by
    rw [handoffs, he]; exact hm
  cases l with
  | acquireServer j pick =>
    rcases acquireServer_cases lb j pick with ⟨e, he⟩ | ⟨q, lb', he, -, -, -, -, hh⟩
    · simp only [GlobalRequestLoadBalancer.after, he]; exact hm
    · simp only [GlobalRequestLoadBalancer.after, he]; exact hsame hh
  | releaseServer x j sender =>
    by_cases hj : j = ""
    · simp only [GlobalRequestLoadBalancer.after, releaseServer, hj, if_true]; exact hm
    · simp only [GlobalRequestLoadBalancer.after, releaseServer_eq hj]
      split
      · obtain ⟨expired, -, -, he⟩ := gc_eq (lb.settle j)
        rw [he]
        exact hsame rfl
      · exact hm
  | confirmContinuation now j c d =>
    rcases confirmContinuation_cases lb now j c d with ⟨e, he, -⟩ | ⟨y, q, e, -, -, -, -, -, he⟩
    · simp only [GlobalRequestLoadBalancer.after, he]; exact hm
    · simp only [GlobalRequestLoadBalancer.after, he, handoffs,
        Dict.get?_insert]
      by_cases hq : q = o
      · subst hq
        simp only [if_true, Option.getD_some]
        exact List.mem_insert_of_mem hm
      · rw [if_neg hq]; exact hm
  | commitReady now k x n q => exact hsame (commitReady_eq lb now k x n q).1.handoffs
  | beginDrain k q =>
    rcases beginDrain_eq lb k q with ⟨e, he⟩ | ⟨y, -, -, hs, -, -⟩
    · simp only [GlobalRequestLoadBalancer.after, he]; exact hm
    · exact hsame hs.handoffs
  | finishRemove k =>
    rcases finishRemove_eq lb k with he | ⟨y, hy, he⟩
    · simp only [GlobalRequestLoadBalancer.after, he]; exact hm
    · have hh : ((lb.endDrain y).gcSettledRequests.unroute k).continuationHandoffs =
          (lb.endDrain y).continuationHandoffs := by
        obtain ⟨expired, -, -, he⟩ := gc_eq (lb.endDrain y)
        rw [he]; rfl
      simp only [GlobalRequestLoadBalancer.after, he, handoffs, hh,
        continuationHandoffs_endDrain]
      cases hd : lb.drainingOperations.get? y with
      | none => exact hm
      | some q =>
        have hq : q ≠ o := by
          rintro rfl
          exact hl k rfl ⟨y, hy, hd⟩
        rw [Dict.get?_erase_ne _ hq]
        exact hm

/-- A drain operation drains one key: `D` says which. -/
def OneKey (D : String → ReplicaKey) : RouterCall → Prop
  | .beginDrain k o => k = D o
  | _ => True

/-- A draining server is the one that the operation's key routes to. -/
def Keyed (D : String → ReplicaKey) (lb : GlobalRequestLoadBalancer) : Prop :=
  ∀ ⦃y o⦄, lb.drainingOperations.get? y = some o → lb.routes.get? (D o) = some y

theorem routes_finishRemove {y : String} :
    ((lb.endDrain y).gcSettledRequests.unroute k).routes = lb.routes.erase k := by
  show (lb.endDrain y).gcSettledRequests.routes.erase k = _
  rw [sameRouting_gc.2.1]
  exact congrArg (Dict.erase · k) (show SameRouting lb _ from sameRouting_settleTerminated _).2.1

theorem draining_finishRemove {y : String} :
    ((lb.endDrain y).gcSettledRequests.unroute k).drainingOperations =
      lb.drainingOperations.erase y := by
  show (lb.endDrain y).gcSettledRequests.drainingOperations = _
  rw [sameRouting_gc.2.2.2, drainingOperations_endDrain]

theorem Keyed.same {D : String → ReplicaKey} (h : Keyed D lb) (hs : SameRouting lb lb') :
    Keyed D lb' := fun y o ho => by
  obtain ⟨-, hr, -, hd⟩ := hs
  rw [hr]
  exact h (hd ▸ ho)

theorem Keyed.after {D : String → ReplicaKey} (h : Keyed D lb) {l : RouterCall}
    (hl : OneKey D l) : Keyed D (lb.after l) := by
  cases l with
  | acquireServer r pick => exact h.same (sameRouting_acquire lb r pick)
  | releaseServer x r sender => exact h.same sameRouting_release
  | confirmContinuation now r c d => exact h.same sameRouting_confirm
  | commitReady now k x n q =>
    obtain ⟨-, hd, hr | ⟨hk, hr⟩⟩ := commitReady_eq lb now k x n q
    · intro y o ho
      show (lb.commitReady now k x n q).2.routes.get? _ = _
      rw [hr]
      exact h (hd ▸ ho)
    · intro y o ho
      show (lb.commitReady now k x n q).2.routes.get? _ = _
      have hy := h (hd ▸ ho)
      rw [hr, Dict.get?_insert]
      split
      · rename_i hkD
        rw [← hkD] at hy
        rcases hk with hk | hk
        · rw [hk] at hy; cases hy
        · exact hk.symm.trans hy
      · exact hy
  | beginDrain k q =>
    obtain rfl : k = D q := hl
    rcases beginDrain_eq lb (D q) q with ⟨e, he⟩ | ⟨z, hz, -, -, hr, hd⟩
    · simp only [GlobalRequestLoadBalancer.after, he]; exact h
    · intro y o ho
      show (lb.beginDrain (D q) q).2.routes.get? _ = _
      have ho' : (lb.beginDrain (D q) q).2.drainingOperations.get? y = some o := ho
      rw [hd, Dict.get?_insert] at ho'
      rw [hr]
      split at ho'
      · rename_i hzy
        cases ho'
        exact hz.trans (congrArg some hzy)
      · exact h ho'
  | finishRemove k =>
    rcases finishRemove_eq lb k with he | ⟨z, hz, he⟩
    · simp only [GlobalRequestLoadBalancer.after, he]; exact h
    · intro y o ho
      simp only [GlobalRequestLoadBalancer.after, he, routes_finishRemove,
        draining_finishRemove] at ho ⊢
      rw [Dict.get?_erase] at ho
      split at ho
      · cases ho
      rename_i hzy
      have hy := h ho
      have hk : k ≠ D o := by
        rintro rfl
        exact hzy (Option.some.inj (hz.symm.trans hy))
      rw [Dict.get?_erase_ne _ hk]
      exact hy

theorem keyed_reachable {D : String → ReplicaKey}
    (h : calls.ReachableWhere (fun _ l _ => OneKey D l) lb) : Keyed D lb := by
  refine h.invariant (I := fun lb => Keyed D lb) ?_ fun lb l lb' hI hs hl => ?_
  · rintro lb ⟨servers, routes, n, -, rfl⟩
    exact nofun
  · cases hs; exact Keyed.after hI hl

/-- No two keys route to one server, as the Manager constructs the load balancer
(llm_server_manager.py:93). -/
def Apart (lb : GlobalRequestLoadBalancer) : Prop :=
  ∀ ⦃k k' y⦄, lb.routes.get? k = some y → lb.routes.get? k' = some y → k = k'

/-- A call that publishes nothing adds no route. -/
theorem routes_after {l : RouterCall} (hl : ∀ now k x n q, l ≠ .commitReady now k x n q)
    {y : String} (hy : (lb.after l).routes.get? k = some y) : lb.routes.get? k = some y := by
  cases l with
  | acquireServer r pick => exact (sameRouting_acquire lb r pick).2.1 ▸ hy
  | releaseServer x r sender => exact (sameRouting_release (r := r) (x := x)).2.1 ▸ hy
  | confirmContinuation now r c d => exact (sameRouting_confirm (r := r)).2.1 ▸ hy
  | commitReady now k x n q => exact absurd rfl (hl now k x n q)
  | beginDrain j q =>
    rcases beginDrain_eq lb j q with ⟨e, he⟩ | ⟨z, -, -, -, hr, -⟩
    · simp only [after, he] at hy; exact hy
    · exact hr ▸ hy
  | finishRemove j =>
    rcases finishRemove_eq lb j with he | ⟨z, -, he⟩
    · simp only [after, he] at hy; exact hy
    · simp only [after, he, routes_finishRemove, Dict.get?_erase] at hy
      split at hy
      · cases hy
      · exact hy

/-- With one key a server, the handoffs of an operation stay until `finish_remove` of its key. -/
theorem handoff_run {D : String → ReplicaKey} (hk : Keyed D lb) (ha : Apart lb)
    (hm : r ∈ lb.handoffs o)
    (hrun : calls.RunWhere (fun _ l _ => OneKey D l ∧ (∀ now k x n q, l ≠ .commitReady now k x n q) ∧
      l ≠ .finishRemove (D o)) lb lb') : r ∈ lb'.handoffs o := by
  refine (hrun.invariant (I := fun u => Keyed D u ∧ Apart u ∧ r ∈ u.handoffs o)
    (fun u l u' hu hs hl => ?_) ⟨hk, ha, hm⟩).2.2
  obtain ⟨hk, ha, hm⟩ := hu
  obtain ⟨hone, hc, hr⟩ := hl
  cases hs
  refine ⟨hk.after hone, fun k k' y h₁ h₂ => ha (routes_after hc h₁) (routes_after hc h₂),
    handoff_after hm fun k he => ?_⟩
  rintro ⟨y, hy, hd⟩
  have hkD : k = D o := ha hy (hk hd)
  exact hr (hkD ▸ he)

/-- Continuation proofs, for any interleaving of calls in which a drain operation drains one key:
a TERMINATED request has a proof that names the operation draining its server; a request with a
proof is TERMINATED or SETTLED; until the request is readmitted or evicted, an exact retry is
answered with the evidence it was confirmed with and any other is rejected, without a write; and, where no
two keys route to one server, the handoffs of an operation only grow until the `finish_remove` of its key.
Where two do, they grow until the `finish_remove` of any key of the server that the operation drains. -/
theorem continuation_proofs {D : String → ReplicaKey} {lb : GlobalRequestLoadBalancer}
    (h : calls.ReachableWhere (fun _ l _ => OneKey D l) lb) :
    (∀ r, lb.attemptState.get? r = some .terminated → ∃ y c d o e,
      lb.activeRequestServer.get? r = some y ∧ lb.continuationProofs.get? r = some (c, d, o, e) ∧
        e.operationId = o ∧ lb.drainingOperations.get? y = some o ∧
        lb.routes.get? (D o) = some y) ∧
    (∀ r p, lb.continuationProofs.get? r = some p →
      lb.attemptState.get? r = some .terminated ∨ lb.attemptState.get? r = some .settled) ∧
    (∀ now r c d e lb', (lb.confirmContinuation now r c d).1 = .ok e →
      calls.RunWhere (fun u l _ => ¬ u.Forgets r l) (lb.after (.confirmContinuation now r c d)) lb' →
      ∀ now' c' d',
        (c' = c ∧ d' = d → lb'.confirmContinuation now' r c' d' = (.ok e, lb')) ∧
        (c' ≠ c ∨ d' ≠ d → ∃ err, lb'.confirmContinuation now' r c' d' = (.error err, lb'))) ∧
    (∀ o lb', lb.Apart →
      calls.RunWhere (fun _ l _ => OneKey D l ∧ (∀ now k x n q, l ≠ .commitReady now k x n q) ∧
        l ≠ .finishRemove (D o)) lb lb' →
      ∀ r ∈ lb.handoffs o, r ∈ lb'.handoffs o) ∧
    (∀ o lb', calls.RunWhere (fun u l _ => ∀ k, l = .finishRemove k → ¬ u.Drains o k) lb lb' →
      ∀ r ∈ lb.handoffs o, r ∈ lb'.handoffs o) ∧
    ∀ o k, lb.Drains o k → lb.routes.get? k = lb.routes.get? (D o) := by
  have hp := proven_reachable h.reachable
  have hn := named_reachable h.reachable
  have hk := keyed_reachable h
  refine ⟨fun r hr => ?_, fun r p => hp.proof, fun now r c d e lb' he hrun now' c' d' => ?_,
    fun o lb' ha hrun r hm => handoff_run hk ha hm hrun, fun o lb' hrun r hm => ?_,
    fun o k ⟨y, hy, ho⟩ => hy.trans (hk ho).symm⟩
  · obtain ⟨y, c, d, o, e, hy, hpr, ho⟩ := hp.terminated hr
    exact ⟨y, c, d, o, e, hy, hpr, (hn hpr).2.2.2, ho, hk ho⟩
  · obtain ⟨o, ho⟩ := confirm_ok he
    have hr : calls.Reachable (lb.after (.confirmContinuation now r c d)) :=
      h.reachable.tail (l := .confirmContinuation now r c d) rfl trivial
    have hend := hrun.invariant (I := fun u => u.continuationProofs.get? r = some (c, d, o, e) ∧
      calls.Reachable u) (fun u l u' hu hs hf => by
        cases hs; exact ⟨proof_after hu.1 hf, hu.2.tail (l := l) rfl trivial⟩) ⟨ho, hr⟩
    exact confirm_retry (named_reachable hend.2) hend.1 now' c' d'
  · refine hrun.invariant (I := fun u => r ∈ u.handoffs o)
      (fun u l u' hu hs hl => ?_) hm
    cases hs
    exact handoff_after hu hl

/-- A request of the first of two servers whose drain `d` has begun. -/
def drained : GlobalRequestLoadBalancer :=
  (RouterSystem.twoServers.lb.after (.acquireServer "r" "s0")).after
    (.beginDrain RouterSystem.drainKey "d")

theorem reachable_drained :
    calls.ReachableWhere (fun _ l _ => OneKey (fun _ => RouterSystem.drainKey) l) drained := by
  refine ⟨RouterSystem.twoServers.lb, ⟨_, _, _, fun k x hk => ?_, rfl⟩, ?_⟩
  · rw [Dict.get?_insert] at hk
    split at hk
    · cases hk; decide
    · cases hk
  · exact ((Machine.RunWhere.refl _).tail (l := RouterCall.acquireServer "r" "s0") rfl trivial).tail
      (l := RouterCall.beginDrain RouterSystem.drainKey "d") rfl rfl

def drainEvidence : OperationEvidence :=
  ⟨"d", .exitReady, 7, [], ne_empty holds, List.nodup_nil, List.not_mem_nil, noGpus_iff holds⟩

/-- The confirmation is answered in the same way after the old server has released the request. -/
theorem continuation_proofs_drained :
    (((drained.after (.confirmContinuation 7 "r" "c" "p")).after
      (.releaseServer "s0" "r" none)).confirmContinuation 9 "r" "c" "p").1 = .ok drainEvidence := by
  have hrun : calls.RunWhere (fun u l _ => ¬ u.Forgets "r" l)
      (drained.after (.confirmContinuation 7 "r" "c" "p"))
      ((drained.after (.confirmContinuation 7 "r" "c" "p")).after (.releaseServer "s0" "r" none)) := by
    refine .single (l := RouterCall.releaseServer "s0" "r" none) rfl ?_
    rintro (⟨pick, p, h, -⟩ | h)
    · cases h
    · revert h; decide
  have h := (continuation_proofs reachable_drained).2.2.1 7 "r" "c" "p" drainEvidence _ (by rfl) hrun
    9 "c" "p"
  exact congrArg Prod.fst (h.1 ⟨rfl, rfl⟩)

/-! ### Two keys for one server -/

def secondKey : ReplicaKey := nativeReplicaKey "task" (ne_empty holds) 1

def sharedRoutes : Dict ReplicaKey String :=
  ((∅ : Dict ReplicaKey String).insert RouterSystem.drainKey "s0").insert secondKey "s0"

/-- The constructor is given two keys for its only server. -/
def shared : GlobalRequestLoadBalancer := init ((∅ : Dict String Nat).insert "s0" 0) sharedRoutes

/-- A request is handed over under the drain `d` of the first key. -/
def handedOver : GlobalRequestLoadBalancer :=
  ((shared.after (.acquireServer "r" "s0")).after (.beginDrain RouterSystem.drainKey "d")).after
    (.confirmContinuation 7 "r" "c" "p")

/-- A call of a drain of the first key, and no publication. -/
def Draining (_ : GlobalRequestLoadBalancer) (l : RouterCall) (_ : GlobalRequestLoadBalancer) : Prop :=
  OneKey (fun _ => RouterSystem.drainKey) l ∧ ∀ now k x n q, l ≠ .commitReady now k x n q

theorem init_shared : calls.init shared := by
  refine ⟨(∅ : Dict String Nat).insert "s0" 0, sharedRoutes, 10000, fun k x hk => ?_, rfl⟩
  unfold sharedRoutes at hk
  rw [Dict.get?_insert] at hk
  split at hk
  · cases hk; decide
  · rw [Dict.get?_insert] at hk
    split at hk
    · cases hk; decide
    · cases hk

/-- The `finish_remove` of the second key takes the handoffs of the drain with it. -/
theorem handoffs_dropped : ∃ lb lb', calls.ReachableWhere Draining lb ∧
    calls.RunWhere (fun u l u' => Draining u l u' ∧ l ≠ .finishRemove RouterSystem.drainKey) lb lb' ∧
    "r" ∈ lb.handoffs "d" ∧ "r" ∉ lb'.handoffs "d" := by
  refine ⟨handedOver, handedOver.after (.finishRemove secondKey), ⟨shared, init_shared, ?_⟩, ?_,
    by decide, by decide⟩
  · have hfirst : calls.RunWhere Draining shared (shared.after (.acquireServer "r" "s0")) :=
      .single (l := RouterCall.acquireServer "r" "s0") rfl ⟨trivial, nofun⟩
    exact (hfirst.tail (l := RouterCall.beginDrain RouterSystem.drainKey "d") rfl ⟨rfl, nofun⟩).tail
      (l := RouterCall.confirmContinuation 7 "r" "c" "p") rfl ⟨trivial, nofun⟩
  · refine .single (l := RouterCall.finishRemove secondKey) rfl ⟨⟨trivial, nofun⟩, fun h => ?_⟩
    have hne : secondKey ≠ RouterSystem.drainKey := by decide
    exact hne (RouterCall.finishRemove.inj h)

end GlobalRequestLoadBalancer

end ReplicaLending
