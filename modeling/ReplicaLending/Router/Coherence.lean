import ReplicaLending.Router.Attempts
import ReplicaLending.Router.Drain
/-!
# Routes and the ready ledger

What `commit_ready`, `begin_drain` and `finish_remove` do to the routing tables, and when two keys can
come to share a server.

`commit_ready` looks for another owner of the server in `ready_operations` only (load_balancer.py:197).
A route that was given at construction has no entry there, so a server it leads to can be published
under a second key (`Usurps`). In every other run the tables agree.
-/

namespace ReplicaLending

namespace GlobalRequestLoadBalancer

variable {lb lb' : GlobalRequestLoadBalancer} {k : ReplicaKey} {x o : String} {now h : Nat}

/-- What `commit_ready` publishes. -/
def publish (lb : GlobalRequestLoadBalancer) (k : ReplicaKey) (x : String) (h : Nat) (o : String)
    (ev : OperationEvidence) : GlobalRequestLoadBalancer :=
  { lb with
    servers := lb.servers.insert x h
    awaitingServiceRestore := false
    routes := lb.routes.insert k x
    readyOperations := lb.readyOperations.insert o (k, x, ev) }

/-- What `commit_ready` checks before it publishes (load_balancer.py:174-201). -/
structure Publishable (lb : GlobalRequestLoadBalancer) (k : ReplicaKey) (x : String) (h : Nat)
    (o : String) : Prop where
  server_ne : x ≠ ""
  operation_ne : o ≠ ""
  fresh : lb.readyOperations.get? o = none
  route : lb.routes.get? k = none ∨ lb.routes.get? k = some x
  handle : lb.servers.get? x = none ∨ lb.servers.get? x = some h
  unpublished : ∀ {o' k' x' ev}, lb.readyOperations.get? o' = some (k', x', ev) → k' ≠ k ∧ x' ≠ x

theorem none_or_of_not {α : Type} {a : Option α} {b : α} (h : ¬ (a.isSome ∧ a ≠ some b)) :
    a = none ∨ a = some b := by
  cases a with
  | none => exact .inl rfl
  | some c => exact .inr (not_not.1 fun hne => h ⟨rfl, hne⟩)

theorem not_of_none_or {α : Type} {a : Option α} {b : α} (h : a = none ∨ a = some b) :
    ¬ (a.isSome ∧ a ≠ some b) := by
  rcases h with rfl | rfl <;> simp

/-- The loop over the ledger finds nothing exactly when neither the key nor the server is published. -/
theorem readyConflict_entries (hfresh : lb.readyOperations.get? o = none) :
    readyConflict k x o lb.readyOperations.entries = none ↔
      ∀ {o' k' x' ev}, lb.readyOperations.get? o' = some (k', x', ev) → k' ≠ k ∧ x' ≠ x := by
  have hother : ∀ e ∈ lb.readyOperations.entries, e.1 ≠ o := by
    rintro ⟨o', e⟩ he rfl
    rw [Dict.mem_entries.1 he] at hfresh
    cases hfresh
  rw [readyConflict_none hother]
  constructor
  · intro h o' k' x' ev he
    exact h (o', k', x', ev) (Dict.mem_entries.2 he)
  · rintro h ⟨o', k', x', ev⟩ he
    exact h (Dict.mem_entries.1 he)

/-- `commit_ready` fails, finds its publication in the ledger, or publishes. -/
theorem commitReady_cases (lb : GlobalRequestLoadBalancer) (now : Nat) (k : ReplicaKey) (x : String)
    (h : Nat) (o : String) :
    (∃ e, lb.commitReady now k x h o = (.error e, lb)) ∨
    (∃ ev, x ≠ "" ∧ o ≠ "" ∧ lb.readyOperations.get? o = some (k, x, ev) ∧
      lb.routes.get? k = some x ∧ (lb.servers.get? x).isSome ∧
      lb.commitReady now k x h o = (.ok ev, lb)) ∨
    ∃ ev, lb.Publishable k x h o ∧ ev.type = .serviceCommitted ∧
      lb.commitReady now k x h o = (.ok ev, lb.publish k x h o ev) := by
  unfold commitReady
  by_cases hx : x = ""
  · simp [hx]
  by_cases ho : o = ""
  · simp [hx, ho]
  rw [if_neg hx, if_neg ho]
  cases hr : lb.readyOperations.get? o with
  | some e =>
    obtain ⟨k', x', ev⟩ := e
    dsimp only
    by_cases hkx : k' ≠ k ∨ x' ≠ x
    · rw [if_pos hkx]; exact .inl ⟨_, rfl⟩
    rw [if_neg hkx]
    obtain ⟨rfl, rfl⟩ : k' = k ∧ x' = x := by tauto
    by_cases hroute : lb.routes.get? k' ≠ some x' ∨ ¬ lb.servers.contains x'
    · rw [if_pos hroute]; exact .inl ⟨_, rfl⟩
    rw [if_neg hroute]
    simp only [not_or, not_not] at hroute
    exact .inr (.inl ⟨ev, hx, ho, rfl, hroute.1, hroute.2, rfl⟩)
  | none =>
    dsimp only
    by_cases hroute : (lb.routes.get? k).isSome ∧ lb.routes.get? k ≠ some x
    · rw [if_pos hroute]; exact .inl ⟨_, rfl⟩
    rw [if_neg hroute]
    by_cases hhandle : (lb.servers.get? x).isSome ∧ lb.servers.get? x ≠ some h
    · rw [if_pos hhandle]; exact .inl ⟨_, rfl⟩
    rw [if_neg hhandle]
    cases hc : readyConflict k x o lb.readyOperations.entries with
    | some e => exact .inl ⟨_, rfl⟩
    | none =>
      have hp : lb.Publishable k x h o :=
        ⟨hx, ho, hr, none_or_of_not hroute, none_or_of_not hhandle, (readyConflict_entries hr).1 hc⟩
      cases hnow : OperationEvidence.now now o .serviceCommitted with
      | error e =>
        simp [OperationEvidence.now, ho] at hnow
        cases hnow
      | ok ev => exact .inr (.inr ⟨ev, hp, (OperationEvidence.now_ok hnow).2.1, rfl⟩)

/-- All checks passed, it publishes. -/
theorem Publishable.commitReady (hp : lb.Publishable k x h o) (now : Nat) :
    ∃ ev, lb.commitReady now k x h o = (.ok ev, lb.publish k x h o ev) := by
  unfold GlobalRequestLoadBalancer.commitReady
  rw [if_neg hp.server_ne, if_neg hp.operation_ne, hp.fresh]
  dsimp only
  rw [if_neg (not_of_none_or hp.route), if_neg (not_of_none_or hp.handle),
    (readyConflict_entries hp.fresh).2 hp.unpublished]
  cases hnow : OperationEvidence.now now o .serviceCommitted with
  | error e =>
    simp [OperationEvidence.now, hp.operation_ne] at hnow
    cases hnow
  | ok ev => exact ⟨ev, rfl⟩

/-- A replay finds its publication in the ledger. -/
theorem commitReady_replay {ev : OperationEvidence} (hx : x ≠ "") (ho : o ≠ "")
    (hr : lb.readyOperations.get? o = some (k, x, ev)) (hroute : lb.routes.get? k = some x)
    (hs : (lb.servers.get? x).isSome) (now h : Nat) : lb.commitReady now k x h o = (.ok ev, lb) := by
  unfold commitReady
  rw [if_neg hx, if_neg ho, hr]
  dsimp only
  rw [if_neg (by simp), if_neg (by simp [hroute, Dict.contains, hs])]

/-- After a `commit_ready` that returns, the publication is in all three tables. -/
theorem commitReady_published {ev : OperationEvidence}
    (hok : (lb.commitReady now k x h o).1 = .ok ev) :
    (∃ ev', (lb.commitReady now k x h o).2.readyOperations.get? o = some (k, x, ev')) ∧
      ((lb.commitReady now k x h o).2.servers.get? x).isSome := by
  rcases commitReady_cases lb now k x h o with
    ⟨e, he⟩ | ⟨ev', -, -, hr, -, hs, he⟩ | ⟨ev', -, -, he⟩
  · rw [he] at hok; cases hok
  · rw [he]; exact ⟨⟨ev', hr⟩, hs⟩
  · rw [he]
    exact ⟨⟨ev', Dict.get?_insert_self _ _ _⟩, by
      rw [show (lb.publish k x h o ev').servers.get? x = some h from Dict.get?_insert_self _ _ _]
      rfl⟩

/-- Whoever is admitted was admitted, on the same server. -/
def StillAdmitted (lb lb' : GlobalRequestLoadBalancer) : Prop :=
  ∀ r, lb'.attemptState.get? r = some .admitted → lb.attemptState.get? r = some .admitted ∧
    lb'.activeRequestServer.get? r = lb.activeRequestServer.get? r

theorem SameAttempts.stillAdmitted (hs : SameAttempts lb lb') : StillAdmitted lb lb' := by
  intro r hr
  rw [hs.1] at hr
  exact ⟨hr, by rw [hs.2.1]⟩

theorem stillAdmitted_gc : StillAdmitted lb lb.gcSettledRequests := by
  intro r hr
  obtain ⟨expired, -, -, he⟩ := gc_eq lb
  rw [he] at hr ⊢
  rw [Dict.get?_eraseAll] at hr
  split at hr
  · cases hr
  · exact ⟨hr, rfl⟩

theorem stillAdmitted_settleTerminated (rs : List String) :
    StillAdmitted lb (settleTerminated rs lb) := by
  intro r hr
  rcases settleTerminated_get rs lb r with ⟨hs, ha⟩ | ⟨hs, -⟩
  · exact ⟨hs.symm.trans hr, ha⟩
  · rw [hs] at hr; cases hr

theorem hasUnsettledRequests_iff : lb.hasUnsettledRequests x = false ↔
    ∀ r, lb.activeRequestServer.get? r = some x → lb.attemptState.get? r ≠ some .admitted := by
  simp only [hasUnsettledRequests, requestsForServer, List.any_map, List.any_eq_false,
    List.mem_filter, Function.comp_apply, decide_eq_true_eq]
  constructor
  · intro hall r hr
    exact hall (r, x) ⟨Dict.mem_entries.2 hr, rfl⟩
  · rintro hall ⟨r, y⟩ ⟨hr, rfl⟩
    exact hall r (Dict.mem_entries.1 hr)

/-- What a successful `finish_remove` leaves. -/
structure Removed (lb lb' : GlobalRequestLoadBalancer) (k : ReplicaKey) (x : String) : Prop where
  servers : lb'.servers = lb.servers.erase x
  routes : lb'.routes = lb.routes.erase k
  ready : ∀ o e, lb'.readyOperations.get? o = some e ↔
    lb.readyOperations.get? o = some e ∧ e.1 ≠ k
  admitted : StillAdmitted lb lb'
  settled : lb.hasUnsettledRequests x = false

theorem finishRemove_cases (lb : GlobalRequestLoadBalancer) (k : ReplicaKey) :
    ((lb.finishRemove k).2 = lb ∧ ((lb.finishRemove k).1 = .ok () → lb.routes.get? k = none)) ∨
    ∃ x, lb.routes.get? k = some x ∧ Removed lb (lb.finishRemove k).2 k x := by
  unfold finishRemove
  cases hk : lb.routes.get? k with
  | none => exact .inl ⟨rfl, fun _ => rfl⟩
  | some x =>
    dsimp only
    split
    · exact .inl ⟨rfl, fun h => by cases h⟩
    · rename_i hun
      have hsame : SameRouting lb (settleTerminated (lb.requestsForServer x) lb) :=
        sameRouting_settleTerminated _
      have hadm : StillAdmitted lb (settleTerminated (lb.requestsForServer x) lb) :=
        stillAdmitted_settleTerminated _
      generalize settleTerminated (lb.requestsForServer x) lb = t at hsame hadm ⊢
      obtain ⟨hsv, hrt, hrd, -⟩ := hsame
      have hcore : ∀ u : GlobalRequestLoadBalancer, u.servers = lb.servers.erase x →
          u.routes = lb.routes → u.readyOperations = lb.readyOperations → StillAdmitted lb u →
          Removed lb { u with
            routes := u.routes.erase k
            readyOperations := u.readyOperations.eraseAll
              ((u.readyOperations.entries.filter fun e => e.2.1 = k).map Prod.fst) } k x := by
        intro u hus hur hud hua
        refine ⟨hus, congrArg (·.erase k) hur, fun o e => ?_, hua, by simpa using hun⟩
        show (u.readyOperations.eraseAll
          ((u.readyOperations.entries.filter fun e => e.2.1 = k).map Prod.fst)).get? o = some e ↔ _
        rw [Dict.get?_eraseAll, hud]
        have hmem : o ∈ (lb.readyOperations.entries.filter fun e => e.2.1 = k).map Prod.fst ↔
            ∃ e, lb.readyOperations.get? o = some e ∧ e.1 = k := by
          simp only [List.mem_map, List.mem_filter, decide_eq_true_eq]
          constructor
          · rintro ⟨⟨o', e⟩, ⟨he, hk⟩, rfl⟩
            exact ⟨e, Dict.mem_entries.1 he, hk⟩
          · rintro ⟨e, he, hk⟩
            exact ⟨(o, e), ⟨Dict.mem_entries.2 he, hk⟩, rfl⟩
        split
        · rename_i hin
          obtain ⟨e', he', hk'⟩ := hmem.1 hin
          refine iff_of_false (by simp) fun ⟨he, hne⟩ => hne ?_
          rw [he'] at he
          cases he
          exact hk'
        · rename_i hout
          exact ⟨fun he => ⟨he, fun hek => hout (hmem.2 ⟨e, he, hek⟩)⟩, And.left⟩
      refine .inr ⟨x, rfl, hcore _ ?_ ?_ ?_ ?_⟩
      · rw [sameRouting_gc.1]; exact congrArg (·.erase x) hsv
      · rw [sameRouting_gc.2.1]; exact hrt
      · rw [sameRouting_gc.2.2.1]; exact hrd
      · intro r hr
        obtain ⟨hr', ha'⟩ := stillAdmitted_gc r hr
        obtain ⟨hr'', ha''⟩ := hadm r hr'
        exact ⟨hr'', ha'.trans ha''⟩

/-- `begin_drain` fails, or takes the server of the route out of the pool. -/
theorem beginDrain_routing (lb : GlobalRequestLoadBalancer) (k : ReplicaKey) (o : String) :
    (∃ e, lb.beginDrain k o = (.error e, lb)) ∨
    ∃ x, lb.routes.get? k = some x ∧ (lb.beginDrain k o).1 = .ok x ∧
      (lb.beginDrain k o).2.servers = lb.servers.erase x ∧
      (lb.beginDrain k o).2.routes = lb.routes ∧
      (lb.beginDrain k o).2.readyOperations = lb.readyOperations ∧
      SameAttempts lb (lb.beginDrain k o).2 := by
  unfold beginDrain
  split
  · exact .inl ⟨_, rfl⟩
  split
  · exact .inl ⟨_, rfl⟩
  rename_i x hx
  dsimp only
  split
  · exact .inl ⟨_, rfl⟩
  · exact .inr ⟨x, hx, rfl, rfl, rfl, rfl, rfl, rfl, rfl⟩

/-! ## Coherence -/

/-- Routes lead to different servers, and the ready ledger has one entry a published key, for the
server its route leads to. -/
structure Coherent (lb : GlobalRequestLoadBalancer) : Prop where
  routes_inj : ∀ {k k' x}, lb.routes.get? k = some x → lb.routes.get? k' = some x → k = k'
  ledger : ∀ {o k x ev}, lb.readyOperations.get? o = some (k, x, ev) → lb.routes.get? k = some x
  single : ∀ {o o' k x x' ev ev'}, lb.readyOperations.get? o = some (k, x, ev) →
    lb.readyOperations.get? o' = some (k, x', ev') → o = o'

namespace Coherent

theorem same (hc : lb.Coherent) (hr : lb'.routes = lb.routes)
    (hd : lb'.readyOperations = lb.readyOperations) : lb'.Coherent where
  routes_inj := by rw [hr]; exact hc.routes_inj
  ledger := by rw [hr, hd]; exact hc.ledger
  single := by rw [hd]; exact hc.single

/-- A publication keeps the tables coherent exactly when no other key routes to the server. -/
theorem publish_iff (hc : lb.Coherent) (hp : lb.Publishable k x h o) {ev : OperationEvidence} :
    (lb.publish k x h o ev).Coherent ↔ ∀ k', lb.routes.get? k' = some x → k' = k := by
  have hroute : ∀ k', (lb.publish k x h o ev).routes.get? k' =
      if k = k' then some x else lb.routes.get? k' := fun k' => Dict.get?_insert _ _ k' _
  have hready : ∀ o', (lb.publish k x h o ev).readyOperations.get? o' =
      if o = o' then some (k, x, ev) else lb.readyOperations.get? o' := fun o' => Dict.get?_insert _ _ o' _
  constructor
  · intro hpub k' hk'
    by_contra hne
    exact hne (hpub.routes_inj (by rw [hroute, if_neg (Ne.symm hne)]; exact hk')
      (by rw [hroute, if_pos rfl]))
  · intro hfree
    constructor
    case routes_inj =>
      intro k₁ k₂ y h₁ h₂
      rw [hroute] at h₁ h₂
      split at h₁ <;> split at h₂
      · exact ‹k = k₁›.symm.trans ‹k = k₂›
      · cases h₁
        exact ‹k = k₁›.symm.trans (hfree _ h₂).symm
      · cases h₂
        exact (hfree _ h₁).trans ‹k = k₂›
      · exact hc.routes_inj h₁ h₂
    case ledger =>
      intro o' k' y ev' he
      rw [hready] at he
      rw [hroute]
      split at he
      · cases he
        exact if_pos rfl
      · rw [if_neg (hp.unpublished he).1.symm]
        exact hc.ledger he
    case single =>
      intro o₁ o₂ k' y₁ y₂ ev₁ ev₂ h₁ h₂
      rw [hready] at h₁ h₂
      split at h₁ <;> split at h₂
      · exact ‹o = o₁›.symm.trans ‹o = o₂›
      · cases h₁
        exact absurd rfl (hp.unpublished h₂).1
      · cases h₂
        exact absurd rfl (hp.unpublished h₁).1
      · exact hc.single h₁ h₂

theorem removed (hc : lb.Coherent) (hr : Removed lb lb' k x) : lb'.Coherent where
  routes_inj := by
    intro k₁ k₂ y h₁ h₂
    rw [hr.routes, Dict.get?_erase] at h₁ h₂
    split at h₁
    · cases h₁
    split at h₂
    · cases h₂
    exact hc.routes_inj h₁ h₂
  ledger := by
    intro o' k' y ev he
    obtain ⟨he, hne⟩ := (hr.ready _ _).1 he
    rw [hr.routes, Dict.get?_erase_ne _ (Ne.symm hne)]
    exact hc.ledger he
  single := fun h₁ h₂ => hc.single ((hr.ready _ _).1 h₁).1 ((hr.ready _ _).1 h₂).1

end Coherent

end GlobalRequestLoadBalancer

namespace RouterSystem

open GlobalRequestLoadBalancer

variable {s t u : RouterSystem} {l : RouterCall} {k : ReplicaKey} {x o : String} {n : Nat}

/-- The call passes the checks of `commit_ready` for a server that another key routes to. -/
def Usurps (s : RouterSystem) : RouterCall → Prop
  | .commitReady _ k x h o => s.lb.Publishable k x h o ∧ ∃ k', k' ≠ k ∧ s.lb.routes.get? k' = some x
  | _ => False

/-- Requests leave the routing tables alone. -/
theorem call_requests (s : RouterSystem) (l : RouterCall) :
    (SameRouting s.lb (s.call l).lb ∧ ¬ s.Usurps l) ∨
    (∃ now k x h o, l = .commitReady now k x h o) ∨ (∃ k o, l = .beginDrain k o) ∨
    ∃ k, l = .finishRemove k := by
  cases l with
  | acquireServer r pick =>
    refine .inl ⟨?_, id⟩
    have hsame := sameRouting_acquire s.lb r pick
    show SameRouting s.lb (s.acquire r pick).lb
    unfold RouterSystem.acquire
    split <;> rename_i he <;> rw [he] at hsame <;> exact hsame
  | releaseServer y r sender => exact .inl ⟨sameRouting_release, id⟩
  | confirmContinuation now r c p => exact .inl ⟨sameRouting_confirm, id⟩
  | commitReady now k x h o => exact .inr (.inl ⟨now, k, x, h, o, rfl⟩)
  | beginDrain k o => exact .inr (.inr (.inl ⟨k, o, rfl⟩))
  | finishRemove k => exact .inr (.inr (.inr ⟨k, rfl⟩))

/-- One call keeps the tables coherent exactly when it does not usurp a server. -/
theorem call_coherent (hc : s.lb.Coherent) : (s.call l).lb.Coherent ↔ ¬ s.Usurps l := by
  rcases call_requests s l with ⟨hs, hn⟩ | ⟨now, k, x, h, o, rfl⟩ | ⟨k, o, rfl⟩ | ⟨k, rfl⟩
  · exact iff_of_true (hc.same hs.2.1 hs.2.2.1) hn
  · show (s.lb.commitReady now k x h o).2.Coherent ↔ _
    rcases commitReady_cases s.lb now k x h o with
      ⟨e, he⟩ | ⟨ev, -, -, hr, -, -, he⟩ | ⟨ev, hp, -, he⟩
    · rw [he]
      refine iff_of_true hc fun hu => ?_
      obtain ⟨ev, hev⟩ := hu.1.commitReady now
      rw [he] at hev
      cases hev
    · rw [he]
      refine iff_of_true hc fun hu => ?_
      rw [hu.1.fresh] at hr
      cases hr
    · rw [he, hc.publish_iff hp]
      simp only [Usurps, hp, true_and, not_exists, not_and']
      exact forall_congr' fun k' => by tauto
  · refine iff_of_true ?_ id
    show (s.lb.beginDrain k o).2.Coherent
    rcases beginDrain_routing s.lb k o with ⟨e, he⟩ | ⟨x, -, -, -, hr, hd, -⟩
    · rw [he]; exact hc
    · exact hc.same hr hd
  · refine iff_of_true ?_ id
    show (s.lb.finishRemove k).2.Coherent
    rcases finishRemove_cases s.lb k with ⟨he, -⟩ | ⟨x, -, hr⟩
    · rw [he]; exact hc
    · exact hc.removed hr

/-- The operation's publication of the key stands: it is in the ledger, and the server in the pool. -/
def Stands (s : RouterSystem) (o : String) (k : ReplicaKey) (x : String) (ev : OperationEvidence) :
    Prop :=
  s.lb.readyOperations.get? o = some (k, x, ev) ∧ (s.lb.servers.get? x).isSome

/-- The call drains or removes the key. -/
def Retires (k : ReplicaKey) : RouterCall → Prop
  | .beginDrain k' _ | .finishRemove k' => k' = k
  | _ => False

/-- While no two keys share a server, only a call on the key takes its publication back. -/
theorem call_stands {ev : OperationEvidence} (hc : s.lb.Coherent) (h : s.Stands o k x ev)
    (hl : ¬ Retires k l) : (s.call l).Stands o k x ev := by
  obtain ⟨hr, hs⟩ := h
  have hother : ∀ {k' y}, k' ≠ k → s.lb.routes.get? k' = some y → y ≠ x := by
    rintro k' y hne hy rfl
    exact hne (hc.routes_inj hy (hc.ledger hr))
  rcases call_requests s l with ⟨hsame, -⟩ | ⟨now, k₁, x₁, h₁, o₁, rfl⟩ | ⟨k₁, o₁, rfl⟩ | ⟨k₁, rfl⟩
  · unfold Stands
    rw [hsame.1, hsame.2.2.1]
    exact ⟨hr, hs⟩
  · unfold Stands
    show (s.lb.commitReady now k₁ x₁ h₁ o₁).2.readyOperations.get? o = _ ∧
      ((s.lb.commitReady now k₁ x₁ h₁ o₁).2.servers.get? x).isSome
    rcases commitReady_cases s.lb now k₁ x₁ h₁ o₁ with
      ⟨e, he⟩ | ⟨ev', -, -, -, -, -, he⟩ | ⟨ev', hp, -, he⟩
    · rw [he]; exact ⟨hr, hs⟩
    · rw [he]; exact ⟨hr, hs⟩
    · rw [he]
      have hne : o₁ ≠ o := by
        rintro rfl
        rw [hp.fresh] at hr
        cases hr
      refine ⟨(Dict.get?_insert_ne _ _ hne).trans hr, ?_⟩
      show ((s.lb.servers.insert x₁ h₁).get? x).isSome
      rw [Dict.get?_insert]
      split
      · rfl
      · exact hs
  · unfold Stands
    show (s.lb.beginDrain k₁ o₁).2.readyOperations.get? o = _ ∧
      ((s.lb.beginDrain k₁ o₁).2.servers.get? x).isSome
    rcases beginDrain_routing s.lb k₁ o₁ with ⟨e, he⟩ | ⟨y, hy, -, hsv, -, hd, -⟩
    · rw [he]; exact ⟨hr, hs⟩
    · rw [hd, hsv, Dict.get?_erase_ne _ (hother hl hy)]
      exact ⟨hr, hs⟩
  · unfold Stands
    show (s.lb.finishRemove k₁).2.readyOperations.get? o = _ ∧
      ((s.lb.finishRemove k₁).2.servers.get? x).isSome
    rcases finishRemove_cases s.lb k₁ with ⟨he, -⟩ | ⟨y, hy, hrem⟩
    · rw [he]; exact ⟨hr, hs⟩
    · rw [hrem.servers, Dict.get?_erase_ne _ (hother hl hy)]
      exact ⟨(hrem.ready _ _).2 ⟨hr, Ne.symm hl⟩, hs⟩

theorem coherent_initial {servers : Dict String Nat} {routes : Dict ReplicaKey String}
    (hroutes : ∀ k k' x, routes.get? k = some x → routes.get? k' = some x → k = k') :
    (initial servers routes n).lb.Coherent :=
  ⟨fun h₁ h₂ => hroutes _ _ _ h₁ h₂, fun h => (by cases h), fun h => (by cases h)⟩

/-- Routes and ready ledger agree in every run that starts with distinct servers and usurps none: the
tables are coherent, and stay so by exactly the calls that do not usurp; a `commit_ready` that raises
changes nothing; one that returned is answered again, until its key is drained or removed. -/
theorem routes_coherent {servers : Dict String Nat} {routes : Dict ReplicaKey String}
    (hroutes : ∀ k k' x, routes.get? k = some x → routes.get? k' = some x → k = k')
    (hr : machine.RunWhere (fun u l _ => ¬ u.Usurps l) (initial servers routes n) s) :
    s.lb.Coherent ∧ (∀ l, (s.call l).lb.Coherent ↔ ¬ s.Usurps l) ∧
    (∀ now k x h o e, (s.lb.commitReady now k x h o).1 = .error e →
      (s.lb.commitReady now k x h o).2 = s.lb) ∧
    ∀ now k x h o ev, (s.lb.commitReady now k x h o).1 = .ok ev →
      ¬ s.Usurps (.commitReady now k x h o) → ∀ t,
      machine.RunWhere (fun u l _ => ¬ u.Usurps l ∧ ¬ Retires k l)
        (s.call (.commitReady now k x h o)) t →
      ∀ now', t.lb.commitReady now' k x h o = (.ok ev, t.lb) := by
  have hc : s.lb.Coherent := by
    refine hr.invariant (I := fun u => u.lb.Coherent) ?_ (coherent_initial hroutes)
    rintro u l u' hu ⟨-, rfl⟩ hn
    exact (call_coherent hu).2 hn
  refine ⟨hc, fun l => call_coherent hc, fun now k x h o e he => ?_, ?_⟩
  · rcases commitReady_cases s.lb now k x h o with
      ⟨e', he'⟩ | ⟨ev, -, -, -, -, -, he'⟩ | ⟨ev, -, -, he'⟩
    · rw [he']
    · rw [he']
    · rw [he'] at he; cases he
  · intro now k x h o ev hok hn t hrun now'
    have hstart : x ≠ "" ∧ o ≠ "" ∧ (s.call (.commitReady now k x h o)).Stands o k x ev := by
      show x ≠ "" ∧ o ≠ "" ∧ (s.lb.commitReady now k x h o).2.readyOperations.get? o = _ ∧
        ((s.lb.commitReady now k x h o).2.servers.get? x).isSome
      rcases commitReady_cases s.lb now k x h o with
        ⟨e', he'⟩ | ⟨ev', hx, ho, hready, -, hs, he'⟩ | ⟨ev', hp, -, he'⟩ <;> rw [he'] at hok ⊢
      · cases hok
      · cases hok
        exact ⟨hx, ho, hready, hs⟩
      · cases hok
        refine ⟨hp.server_ne, hp.operation_ne, Dict.get?_insert_self _ _ _, ?_⟩
        rw [show (s.lb.publish k x h o ev).servers.get? x = some h from Dict.get?_insert_self _ _ _]
        rfl
    obtain ⟨hx, ho, hstands⟩ := hstart
    have hinv : t.lb.Coherent ∧ t.Stands o k x ev := by
      refine hrun.invariant (I := fun u => u.lb.Coherent ∧ u.Stands o k x ev) ?_
        ⟨(call_coherent hc).2 hn, hstands⟩
      rintro u l u' ⟨hu, hst⟩ ⟨-, rfl⟩ ⟨hun, hret⟩
      exact ⟨(call_coherent hu).2 hun, call_stands hu hst hret⟩
    exact commitReady_replay hx ho hinv.2.1 (hinv.1.ledger hinv.2.1) hinv.2.2 now' h

/-! ### One route from the start -/

/-- The route of the only server is an initial one. -/
def oneRoute : RouterSystem :=
  initial ((∅ : Dict String Nat).insert "s0" 0) ((∅ : Dict ReplicaKey String).insert drainKey "s0") 10000

theorem routes_oneRoute : ∀ k k' x,
    ((∅ : Dict ReplicaKey String).insert drainKey "s0").get? k = some x →
    ((∅ : Dict ReplicaKey String).insert drainKey "s0").get? k' = some x → k = k' := by
  intro k k' x h h'
  rw [Dict.get?_insert] at h h'
  split at h
  · split at h'
    · exact ‹drainKey = k›.symm.trans ‹drainKey = k'›
    · cases h'
  · cases h

def lentKey : ReplicaKey := ⟨"task", "b-0", 0, ne_empty holds, ne_empty holds⟩

/-- Another server is published; its publication outlasts the drain of the first. -/
theorem routes_coherent_lent : ∃ ev,
    ((oneRoute.call (.commitReady 7 lentKey "s1" 1 "a")).call (.beginDrain drainKey "d")).lb.commitReady
      8 lentKey "s1" 1 "a" = (.ok ev, ((oneRoute.call (.commitReady 7 lentKey "s1" 1 "a")).call
        (.beginDrain drainKey "d")).lb) := by
  have hown : ¬ oneRoute.Usurps (.commitReady 7 lentKey "s1" 1 "a") := by
    rintro ⟨-, k', -, hk'⟩
    have hroute : ((∅ : Dict ReplicaKey String).insert drainKey "s0").get? k' = some "s1" := hk'
    rw [Dict.get?_insert] at hroute
    split at hroute <;> simp at hroute
  have hok : (oneRoute.lb.commitReady 7 lentKey "s1" 1 "a").1.toOption.isSome = true := by
    decide +kernel
  cases hev : (oneRoute.lb.commitReady 7 lentKey "s1" 1 "a").1 with
  | error e => rw [hev] at hok; cases hok
  | ok ev =>
    exact ⟨ev, (routes_coherent routes_oneRoute (.refl oneRoute)).2.2.2 _ _ _ _ _ _ hev hown _
      (.single (l := RouterCall.beginDrain drainKey "d") ⟨trivial, rfl⟩
        ⟨id, show ¬ drainKey = lentKey by decide⟩)
      8⟩

/-- The first server is published under a second key. The first key's drain then takes it away from both. -/
def shared : RouterSystem :=
  (oneRoute.call (.commitReady 7 lentKey "s0" 0 "a")).call (.beginDrain drainKey "d")

/-- Two keys route to one server, and the replay of the accepted `commit_ready` raises. -/
theorem routes_shared : drainKey ≠ lentKey ∧
    (oneRoute.lb.commitReady 7 lentKey "s0" 0 "a").1.toOption.isSome = true ∧
    shared.lb.routes.get? drainKey = some "s0" ∧ shared.lb.routes.get? lentKey = some "s0" ∧
    (shared.lb.commitReady 8 lentKey "s0" 0 "a").1.toOption = none := by
  decide +kernel

end RouterSystem

end ReplicaLending
