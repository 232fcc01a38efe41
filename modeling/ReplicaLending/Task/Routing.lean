import ReplicaLending.Router.Coherence
import ReplicaLending.Task.Gating
/-!
# The router in the thread's hands

The invariant survives the three calls of the Rollouter that change the routing tables, whether they
are executed at once, after the caller has given up (`flush`), or long after (`deliver`).
A late `commit_ready` finds its target ACTIVE, hence effective: nothing else of the operation goes on
before the call is executed.
-/

namespace ReplicaLending

open TaskState TaskProg

open GlobalRequestLoadBalancer

/-! ## `Routed` -/

namespace Routed

variable {m : LLMServerManager} {ce : CheckpointEngineManager} {lb lb' : GlobalRequestLoadBalancer}
  {commands : Dict String OperationCommand} {k : ReplicaKey} {x o : String} {h : Nat}
  {ev : OperationEvidence}

/-- Requests come and go. -/
theorem same (hr : Routed m ce lb commands) (hs : SameRouting lb lb')
    (ha : ∀ r, lb'.attemptState.get? r = some .admitted → ∃ x k,
      lb'.activeRequestServer.get? r = some x ∧ lb.routes.get? k = some x) :
    Routed m ce lb' commands := by
  obtain ⟨hsv, hrt, hrd, -⟩ := hs
  constructor
  case route => rw [hrt]; exact hr.route
  case pool => rw [hsv, hrt]; exact hr.pool
  case ledger => rw [hrd, hrt]; exact hr.ledger
  case admitted => rw [hrt]; exact fun {r} h => ha r h

theorem publish (hr : Routed m ce lb commands) {c : OperationCommand} {r : Replica}
    (hc : commands.get? o = some c) (ht : c.target = k) (hi : m.runtimeInventory.get? k = some r)
    (hx : x = r.address) (hs : m.replicaState.get? k = some .active) (hm : (ce.members k).isSome)
    (hfree : lb.routes.get? k = none ∨ lb.routes.get? k = some x) :
    Routed m ce (lb.publish k x h o ev) commands := by
  have hget : ∀ j, (lb.publish k x h o ev).routes.get? j =
      if k = j then some x else lb.routes.get? j := fun j => Dict.get?_insert _ _ _ _
  have hkeep : ∀ {j y}, lb.routes.get? j = some y →
      (lb.publish k x h o ev).routes.get? j = some y := by
    intro j y hj
    rw [hget]
    split
    · rename_i hk
      subst hk
      rcases hfree with hn | hs
      · rw [hn] at hj; cases hj
      · exact hs.symm.trans hj
    · exact hj
  constructor
  case route =>
    intro j y hj
    rw [hget] at hj
    split at hj
    · rename_i hk
      cases hj; subst hk
      exact ⟨r, hi, hx, .inl hs⟩
    · exact hr.route hj
  case pool =>
    intro y hy
    rw [show (lb.publish k x h o ev).servers.get? y = _ from Dict.get?_insert _ _ _ _] at hy
    split at hy
    · rename_i hxy
      subst hxy
      exact ⟨k, by rw [hget, if_pos rfl], hm⟩
    · obtain ⟨j, hj, hmem⟩ := hr.pool hy
      exact ⟨j, hkeep hj, hmem⟩
  case ledger =>
    intro o' k' x' ev' ho
    rw [show (lb.publish k x h o ev).readyOperations.get? o' = _ from Dict.get?_insert _ _ _ _] at ho
    split at ho
    · rename_i hoo
      cases ho; subst hoo
      exact ⟨by rw [hget, if_pos rfl], c, hc, ht⟩
    · obtain ⟨hrt, hcmd⟩ := hr.ledger ho
      exact ⟨hkeep hrt, hcmd⟩
  case admitted =>
    intro r ha
    obtain ⟨y, j, hact, hj⟩ := hr.admitted ha
    exact ⟨y, j, hact, hkeep hj⟩

theorem drain (hr : Routed m ce lb commands) (hsv : lb'.servers = lb.servers.erase x)
    (hrt : lb'.routes = lb.routes) (hrd : lb'.readyOperations = lb.readyOperations)
    (ha : SameAttempts lb lb') : Routed m ce lb' commands := by
  constructor
  case route => rw [hrt]; exact hr.route
  case pool =>
    intro y hy
    rw [hsv, Dict.get?_erase] at hy
    split at hy
    · cases hy
    · rw [hrt]; exact hr.pool hy
  case ledger => rw [hrd, hrt]; exact hr.ledger
  case admitted => rw [hrt, ha.1, ha.2.1]; exact hr.admitted

theorem remove (hr : Routed m ce lb commands) (hk : lb.routes.get? k = some x)
    (h : Removed lb lb' k x) : Routed m ce lb' commands := by
  have hget : ∀ j, lb'.routes.get? j = if k = j then none else lb.routes.get? j := by
    intro j; rw [h.routes, Dict.get?_erase]
  have hkeep : ∀ {j y}, lb.routes.get? j = some y → y ≠ x → lb'.routes.get? j = some y := by
    intro j y hj hne
    rw [hget, if_neg ?_]
    · exact hj
    · rintro rfl
      exact hne (Option.some.inj (hj.symm.trans hk))
  constructor
  case route =>
    intro j y hj
    rw [hget] at hj
    split at hj
    · cases hj
    · exact hr.route hj
  case pool =>
    intro y hy
    rw [h.servers, Dict.get?_erase] at hy
    split at hy
    · cases hy
    · rename_i hne
      obtain ⟨j, hj, hm⟩ := hr.pool hy
      exact ⟨j, hkeep hj (Ne.symm hne), hm⟩
  case ledger =>
    intro o' k' x' ev' ho
    obtain ⟨ho, hne⟩ := (h.ready _ _).1 ho
    obtain ⟨hrt, hc⟩ := hr.ledger ho
    exact ⟨by rw [hget, if_neg (Ne.symm hne)]; exact hrt, hc⟩
  case admitted =>
    intro r ha
    obtain ⟨hadm, hact⟩ := h.admitted r ha
    obtain ⟨y, j, hy, hj⟩ := hr.admitted hadm
    refine ⟨y, j, hact.trans hy, hkeep hj ?_⟩
    rintro rfl
    exact hasUnsettledRequests_iff.1 h.settled r hy hadm

end Routed

/-! ## Calls of the Rollouter -/

variable {d : Deployment} {strict : Prop} {c : OperationCommand} {s : TaskState}

/-- The unfinished operation is the journal's under its own id. -/
theorem Inv.cur_command (h : Inv d strict s) (hc : Cur d c s) :
    s.journal.commands.get? c.operationId = some c ∧ c.target.taskSession = d.taskSession ∧
      ∃ r, s.journal.records.get? c.operationId = some r ∧ r.status.resolved = false := by
  have hcur : s.journal.current d.taskSession = some c := hc
  unfold OperationJournal.current at hcur
  split at hcur
  · cases hcur
  split at hcur
  · rename_i o _ r hr
    split at hcur
    · cases hcur
    · rename_i hres
      obtain ⟨ho, ht⟩ := h.journal.command hcur
      rw [ho]
      exact ⟨hcur, ht, r, hr, by simpa using hres⟩
  · cases hcur

/-- A call is executed, at once or late. -/
theorem Inv.exec (h : Inv d strict s) (hc : Cur d c s) {call : LbCall}
    (hcall : CallOk s.manager c call) (now : Nat) {cs : List LbCall} (hcs : cs ⊆ s.inflight) :
    Inv d strict { s with lb := call.exec now s.lb, inflight := cs } := by
  have hcmd := (h.cur_command hc).1
  have hcur : ∀ {c'}, s.journal.current d.taskSession = some c' → c = c' :=
    fun h' => Option.some.inj (hc.symm.trans h')
  have hflight : InFlight s.manager s.rollouter s.gate s.nativeSync
      (s.journal.current d.taskSession) cs := by
    intro hne
    have hne' : s.inflight ≠ [] := by
      rintro hnil
      rw [hnil] at hcs
      exact hne (List.subset_nil.1 hcs)
    obtain ⟨c', hc', hcalls, hrest⟩ := h.inFlight hne'
    exact ⟨c', hc', fun call hm => hcalls call (hcs hm), hrest⟩
  -- The routing part, with what the call makes of the target's route.
  have hparts : Routed s.manager s.ce (call.exec now s.lb) s.journal.commands ∧
      (∀ {x}, (call.exec now s.lb).routes.get? c.target = some x →
        (s.lb.routes.get? c.target = some x ∧ (call.exec now s.lb).servers.get? x =
            s.lb.servers.get? x ∧ (call.exec now s.lb).readyOperations.get? c.operationId =
            s.lb.readyOperations.get? c.operationId) ∨
        c.kind.exits = true ∧ s.lb.routes.get? c.target = some x ∨
        (s.manager.replicaState.get? c.target = some .active ∧
          ((call.exec now s.lb).servers.get? x).isSome ∧ c.kind.exits = false ∧ ∃ ev,
          (call.exec now s.lb).readyOperations.get? c.operationId = some (c.target, x, ev))) := by
    cases call with
    | commitReady k x hd o =>
      obtain ⟨hx, rfl, rfl, hact, r, hi, hxr, -⟩ := hcall
      have hexec : (LbCall.commitReady c.target x hd c.operationId).exec now s.lb =
        (s.lb.commitReady now c.target x hd c.operationId).2 := rfl
      rw [hexec]
      rcases commitReady_cases s.lb now c.target x hd c.operationId with
        ⟨e, he⟩ | ⟨ev, -, -, -, -, -, he⟩ | ⟨ev, hp, -, he⟩
      · rw [he]; exact ⟨h.routed, fun hr => .inl ⟨hr, rfl, rfl⟩⟩
      · rw [he]; exact ⟨h.routed, fun hr => .inl ⟨hr, rfl, rfl⟩⟩
      · rw [he]
        refine ⟨h.routed.publish hcmd rfl hi hxr hact (h.wired.active_member hact) hp.route,
          fun {y} hr => .inr (.inr ?_)⟩
        obtain rfl : x = y := Option.some.inj ((Dict.get?_insert_self _ _ _).symm.trans hr)
        refine ⟨hact, ?_, hx, ev, Dict.get?_insert_self _ _ _⟩
        rw [show (s.lb.publish c.target x hd c.operationId ev).servers.get? x = some hd from
          Dict.get?_insert_self _ _ _]
        rfl
    | beginDrain k o =>
      obtain ⟨hx, -, -⟩ := hcall
      have hexec : (LbCall.beginDrain k o).exec now s.lb = (s.lb.beginDrain k o).2 := rfl
      rw [hexec]
      rcases beginDrain_routing s.lb k o with ⟨e, he⟩ | ⟨x, -, -, hsv, hrt, hrd, ha⟩
      · rw [he]; exact ⟨h.routed, fun hr => .inl ⟨hr, rfl, rfl⟩⟩
      · exact ⟨h.routed.drain hsv hrt hrd ha, fun hr => .inr (.inl ⟨hx, by rw [← hrt]; exact hr⟩)⟩
    | finishRemove k =>
      obtain ⟨rfl, -⟩ := hcall
      have hexec : (LbCall.finishRemove c.target).exec now s.lb = (s.lb.finishRemove c.target).2 :=
        rfl
      rw [hexec]
      rcases finishRemove_cases s.lb c.target with ⟨he, -⟩ | ⟨x, hk, hrem⟩
      · rw [he]; exact ⟨h.routed, fun hr => .inl ⟨hr, rfl, rfl⟩⟩
      · refine ⟨h.routed.remove hk hrem, fun hr => ?_⟩
        rw [hrem.routes, Dict.get?_erase_self] at hr
        cases hr
  obtain ⟨hrouted, htarget⟩ := hparts
  exact { h with
    routed := hrouted
    publishing := by
      intro c' hc' hx hst
      obtain rfl := hcur hc'
      have hp := h.publishing hc' hx hst
      refine ⟨fun {x} hr => ?_, hp.unlisted⟩
      rcases htarget hr with ⟨hr, hsv, hrd⟩ | ⟨hex, -⟩ | ⟨hact, hsv, -, hrd⟩
      · obtain ⟨hact, hs, hev⟩ := hp.route hr
        exact ⟨hact, hsv ▸ hs, hrd ▸ hev⟩
      · rw [hx] at hex; cases hex
      · exact ⟨hact, hsv, hrd⟩
    inFlight := hflight
    reported := by
      refine ⟨h.reported.outbox, fun {c'} hc' hx hrec => ?_⟩
      obtain rfl := hcur hc'
      have hg := h.reported.gone hc' hx hrec
      refine ⟨hg.closed, hg.member, ?_, hg.runtime⟩
      refine Option.eq_none_iff_forall_ne_some.2 fun x hr => ?_
      rcases htarget hr with ⟨hr, -⟩ | ⟨-, hr⟩ | ⟨-, -, hn, -⟩
      · rw [hg.route] at hr; cases hr
      · rw [hg.route] at hr; cases hr
      · rw [hx] at hn; cases hn }

/-- The oldest late call is the unfinished operation's. -/
theorem Inv.late (h : Inv d strict s) {call : LbCall} {cs : List LbCall}
    (hi : s.inflight = call :: cs) : ∃ c, Cur d c s ∧ CallOk s.manager c call := by
  obtain ⟨c, hc, hcalls, -⟩ := h.inFlight (by rw [hi]; simp)
  exact ⟨c, hc, hcalls call (by rw [hi]; simp)⟩

theorem TaskState.flush_eq (hi : s.inflight = []) (now : Nat) : s.flush now = s := by
  cases s
  simp only at hi
  subst hi
  rfl

/-- All late calls are executed, one after the other. -/
theorem Inv.flush (now : Nat) : ∀ {cs : List LbCall} {s : TaskState}, Inv d strict s →
    s.inflight = cs → Inv d strict (s.flush now)
  | [], s, h, hi => by
    rw [TaskState.flush_eq hi]; exact h
  | call :: cs, s, h, hi => by
    obtain ⟨c, hc, hcall⟩ := h.late hi
    have hstep := h.exec hc hcall now (show cs ⊆ s.inflight by
      rw [hi]; exact List.subset_cons_self _ _)
    have hflush : s.flush now =
        ({ s with lb := call.exec now s.lb, inflight := cs } : TaskState).flush now := by
      simp only [TaskState.flush, hi, List.foldl_cons]
    rw [hflush]
    exact Inv.flush now hstep rfl

/-- A call is given up and left under way. -/
theorem Inv.postpone (h : Inv d strict s) (hc : Cur d c s) {call : LbCall}
    (hcall : CallOk s.manager c call)
    (hright : if c.kind.exits then
        s.rollouter.pendingOperationTargets.get? c.operationId = some c.target
      else Started s.manager s.rollouter c ∧ Guarded s.gate s.nativeSync c.operationId) :
    Inv d strict { s with inflight := s.inflight ++ [call] } := by
  refine { h with inFlight := fun _ => ⟨c, hc, fun call' hm => ?_, hright⟩ }
  rcases List.mem_append.1 hm with hm | hm
  · obtain ⟨c', hc', hcalls, -⟩ := h.inFlight (List.ne_nil_of_mem hm)
    obtain rfl : c = c' := Option.some.inj (hc.symm.trans hc')
    exact hcalls call' hm
  · rw [List.mem_singleton.1 hm]; exact hcall

namespace Triple

variable {α : Type} {P : TaskState → Prop} {Q : α → TaskState → Prop}

/-- A call that changes the router: what holds whatever becomes of it, and what its reply says. -/
theorem lbCall {call : LbCall} {reply : Nat → GlobalRequestLoadBalancer → Except PyErr α}
    {R : TaskState → Prop} (hP : Steady d strict c P) (hPf : ∀ s now, P s → P (s.flush now))
    (hR : ∀ s lb l, P s → R { s with lb := lb, inflight := l })
    (hcall : ∀ s, Inv d strict s → Run d c s → P s → CallOk s.manager c call)
    (hright : ∀ s, Inv d strict s → Run d c s → P s → if c.kind.exits then
        s.rollouter.pendingOperationTargets.get? c.operationId = some c.target
      else Started s.manager s.rollouter c ∧ Guarded s.gate s.nativeSync c.operationId)
    (hQ : ∀ s now a, Inv d strict s → Run d c s → P s → s.inflight = [] →
      reply now s.lb = .ok a → Inv d strict { s with lb := call.exec now s.lb } →
      Q a { s with lb := call.exec now s.lb }) :
    Triple d strict c P (TaskProg.lbCall call reply) Q fun _ => R := by
  refine .call hP ?_
  intro s o hi hc hs _
  have hflush := hi.flush o.now rfl
  have hexec : Inv d strict
      { s.flush o.now with lb := call.exec o.now (s.flush o.now).lb } :=
    hflush.exec (c := c) hc.1 (hcall s hi hc hs) o.now (List.nil_subset _)
  dsimp only
  cases o.fault with
  | before => exact .error hi hc (hR s s.lb s.inflight hs)
  | late =>
    exact .error (hi.postpone hc.1 (hcall s hi hc hs) (hright s hi hc hs)) hc (hR s _ _ hs)
  | after => exact .error hexec hc (hR s _ _ hs)
  | none =>
    cases hr : reply o.now (s.flush o.now).lb with
    | error e => exact .error hexec hc (hR s _ _ hs)
    | ok a => exact .ok hexec hc (hQ _ _ _ hflush hc (hPf s _ hs) rfl hr hexec)

theorem lbRead {f : GlobalRequestLoadBalancer → α} (hP : Steady d strict c P)
    (hPf : ∀ s now, P s → P (s.flush now))
    (hQ : ∀ s, Inv d strict s → Run d c s → P s → s.inflight = [] → Q (f s.lb) s) :
    Triple d strict c P (TaskProg.lbRead f) Q fun _ => P := by
  refine .call hP ?_
  intro s o hi hc hs _
  dsimp only
  split
  · exact .ok (hi.flush o.now rfl) hc
      (hQ _ (hi.flush o.now rfl) hc (hPf s _ hs) rfl)
  · exact .error hi hc hs

theorem readRpc {f : GlobalRequestLoadBalancer → α} (hP : Steady d strict c P)
    (hPf : ∀ s now, P s → P (s.flush now))
    (hQ : ∀ s, Inv d strict s → Run d c s → P s → s.inflight = [] → Q (f s.lb) s) :
    ∀ n, Triple d strict c P (TaskProg.readRpc f n) Q fun _ => P
  | 0 => lbRead hP hPf hQ
  | n + 1 => .tryCatch (lbRead hP hPf hQ) fun _ => readRpc hP hPf hQ n

end Triple

end ReplicaLending
