import ReplicaLending.Router.Attempts
import ReplicaLending.Router.Coherence
import ReplicaLending.Task.Relaying
import ReplicaLending.Task.Soundness
/-!
# The load balancer of a task

The load balancer on its own takes any calls (`Router/Machine.lean`); here it is called by the clients and
by the one lifecycle thread of a task, whose calls may come late. Every run of a task is, for its load
balancer, a run of `RouterSystem` in which no publication usurps another key's server (`router_refined`), so
what `Router/` shows of such runs holds of the task. While a DONATE or REMOVE is unfinished the pool only
shrinks, whatever is late (`exit_pool_shrinks`): of the load balancer on its own this is false
(`draining_server_readmits`).
-/

namespace ReplicaLending

open TaskState TaskProg TaskRunner GlobalRequestLoadBalancer

variable {d : Deployment} {c : OperationCommand} {s t : TaskState}

/-- Calls executed one after the other, each at its time. -/
def LbCall.execAll (calls : List (Nat × LbCall)) (lb : GlobalRequestLoadBalancer) :
    GlobalRequestLoadBalancer := calls.foldl (fun lb call => call.2.exec call.1 lb) lb

/-- Calls of the unfinished operation, in its present state. -/
def Fit (d : Deployment) (s : TaskState) (calls : List (Nat × LbCall)) : Prop :=
  ∀ call ∈ calls, ∃ c, Cur d c s ∧ CallOk s.manager c call.2

/-- What a step of a task is for its load balancer. -/
inductive RouterMove (d : Deployment) (s t : TaskState) : Prop
  | acquire (r pick : String) (h : t.lb = (s.lb.acquireServer r pick).2)
  | release (x r : String) (h : t.lb = (s.lb.releaseServer x r).2)
  | confirm (now : Nat) (r client digest : String)
      (h : t.lb = (s.lb.confirmContinuation now r client digest).2)
  | calls (cs : List (Nat × LbCall)) (h : t.lb = LbCall.execAll cs s.lb) (hfit : Fit d s cs)

namespace RouterMove

theorem same (h : t.lb = s.lb) : RouterMove d s t := .calls [] h fun _ hm => by cases hm

theorem fit_late (hi : Inv d False s) (now : Nat) : Fit d s (s.inflight.map fun c => (now, c)) := by
  intro call hm
  obtain ⟨c, hc, rfl⟩ := List.mem_map.1 hm
  obtain ⟨op, hcur, hcalls, -⟩ := hi.inFlight (List.ne_nil_of_mem hc)
  exact ⟨op, hcur, hcalls c hc⟩

theorem flush_lb (s : TaskState) (now : Nat) :
    (s.flush now).lb = LbCall.execAll (s.inflight.map fun c => (now, c)) s.lb := by
  unfold LbCall.execAll
  rw [List.foldl_map]
  rfl

/-- A step that makes a call might as well have left it under way, where the invariant knows it. -/
theorem of_step (hi : Inv d False s) {ready : TaskState → Choice → Bool}
    {act : TaskState → Choice → TaskState} (hstep : RouterStep ready act) (o : Choice)
    (hkeep : ∀ o, ready s o = true → Inv d False (act s o)) : RouterMove d s (act s o) := by
  rcases hstep with h | h | ⟨c, hready, h⟩
  · exact same (h s o).1
  · rcases h s o with hb | hf
    · exact same hb.1
    · exact .calls _ (hf.1.trans (flush_lb s o.now)) (fit_late hi o.now)
  · have hlate := hkeep { o with fault := .late } (hready s _)
    have hnow : RouterMove d s { s.flush o.now with lb := c.exec o.now (s.flush o.now).lb } := by
      refine .calls (s.inflight.map (fun c => (o.now, c)) ++ [(o.now, c)]) ?_ fun call hm => ?_
      · rw [LbCall.execAll, List.foldl_append]
        exact congrArg (c.exec o.now) (flush_lb s o.now)
      · rcases List.mem_append.1 hm with hm | hm
        · exact fit_late hi o.now call hm
        · cases List.mem_singleton.1 hm
          rw [h] at hlate
          exact fit_late hlate o.now (o.now, c) (List.mem_map.2 ⟨c, List.mem_append_right _
            (List.mem_singleton_self c), rfl⟩)
    rw [h]
    unfold relay
    split
    · exact same rfl
    · exact same rfl
    · exact hnow
    · exact hnow

theorem of_environment (hi : Inv d False s) {e : Environment} (he : s.environment e = some t) :
    RouterMove d s t := by
  cases e with
  | acquireServer r pick => cases he; exact .acquire r pick rfl
  | releaseServer x r => cases he; exact .release x r rfl
  | confirmContinuation now r client digest => cases he; exact .confirm now r client digest rfl
  | deliver now =>
    simp only [TaskState.environment] at he
    split at he
    · cases he
    · rename_i call cs hcs
      cases he
      refine .calls [(now, call)] rfl fun call' hm => ?_
      cases List.mem_singleton.1 hm
      exact hi.late hcs
  | schedulerAnswers result =>
    simp only [TaskState.environment] at he
    split at he
    · cases he
    · cases he; exact same rfl
  | nativeSyncStarts now =>
    simp only [TaskState.environment] at he
    split at he
    · cases he
    · split at he
      · cases he
      · split at he
        · cases he
        · cases he; exact same rfl
  | nativeSyncEnds =>
    simp only [TaskState.environment] at he
    split at he
    · cases he
    · cases he; exact same rfl
  | nativeSyncFails loaded reason =>
    simp only [TaskState.environment] at he
    split at he
    · cases he
    · split at he
      · cases he
      · cases he; exact same rfl
  | versionAdvances => cases he; exact same rfl
  | clearBinding o fault =>
    simp only [TaskState.environment] at he
    split at he
    · cases he
    · cases he
      split <;> exact same rfl
  | threadEnds o =>
    simp only [TaskState.environment] at he
    split at he
    · cases he; exact same rfl
    · cases he

end RouterMove

/-! ## A call, for the tables -/

/-- The server of a call is the target's own runtime, whose address no other key's runtime has. -/
theorem not_usurps (hi : Inv d False s) {call : LbCall} (hcall : CallOk s.manager c call)
    {u : RouterSystem} (hu : u.lb = s.lb) {now : Nat} {k : ReplicaKey} {x o : String} {h : Nat}
    (hc : call = .commitReady k x h o) : ¬ u.Usurps (.commitReady now k x h o) := by
  subst hc
  obtain ⟨-, -, -, -, r, hr, rfl, -⟩ := hcall
  rintro ⟨-, k', hne, hk'⟩
  rw [hu] at hk'
  obtain ⟨r', hr', hx, -⟩ := hi.routed.route hk'
  exact hne (hi.wired.address_inj hr' hr hx.symm)

/-- Calls of the unfinished operation are a run of the load balancer on its own. -/
theorem run_execAll : ∀ (cs : List (Nat × LbCall)) {s : TaskState} {u : RouterSystem}, Inv d False s →
    Fit d s cs → u.lb = s.lb → ∃ u', RouterSystem.machine.RunWhere (fun v l _ => ¬ v.Usurps l) u u' ∧
      u'.lb = LbCall.execAll cs s.lb
  | [], s, u, _, _, hu => ⟨u, .refl u, hu⟩
  | (now, call) :: cs, s, u, hi, hfit, hu => by
    obtain ⟨c, hc, hcall⟩ := hfit (now, call) List.mem_cons_self
    have hi' := hi.exec hc hcall now (List.nil_subset s.inflight)
    have hcalls : ∃ l : RouterCall, u.Possible l ∧ ¬ u.Usurps l ∧
        (u.call l).lb = call.exec now s.lb := by
      cases call with
      | commitReady k x h o =>
        refine ⟨.commitReady now k x h o, trivial, not_usurps hi hcall hu rfl, ?_⟩
        show (u.lb.commitReady now k x h o).2 = _
        rw [hu]
        rfl
      | beginDrain k o =>
        refine ⟨.beginDrain k o, trivial, id, ?_⟩
        show (u.lb.beginDrain k o).2 = _
        rw [hu]
        rfl
      | finishRemove k =>
        refine ⟨.finishRemove k, trivial, id, ?_⟩
        show (u.lb.finishRemove k).2 = _
        rw [hu]
        rfl
    obtain ⟨l, hp, hn, hl⟩ := hcalls
    obtain ⟨u', hrun, hu'⟩ := run_execAll cs hi'
      (fun call' hm => hfit call' (List.mem_cons_of_mem _ hm)) hl
    exact ⟨u', .trans (.single (l := l) ⟨hp, rfl⟩ hn) hrun, hu'⟩

/-- A call of a DONATE or REMOVE adds no server to the pool. -/
theorem exec_shrinks (hx : c.kind.exits = true) {call : LbCall} {m : LLMServerManager}
    (hcall : CallOk m c call) (now : Nat) {lb : GlobalRequestLoadBalancer} {x : String} {n : Nat}
    (h : (call.exec now lb).servers.get? x = some n) : lb.servers.get? x = some n := by
  have herase : ∀ {y : String}, (lb.servers.erase y).get? x = some n → lb.servers.get? x = some n := by
    intro y hy
    rw [Dict.get?_erase] at hy
    split at hy
    · cases hy
    · exact hy
  cases call with
  | commitReady k y hd o => rw [hcall.1] at hx; cases hx
  | beginDrain k o =>
    have hexec : ((lb.beginDrain k o).2).servers.get? x = some n := h
    rcases beginDrain_routing lb k o with ⟨e, he⟩ | ⟨y, -, -, hsv, -⟩
    · rw [he] at hexec; exact hexec
    · rw [hsv] at hexec; exact herase hexec
  | finishRemove k =>
    have hexec : ((lb.finishRemove k).2).servers.get? x = some n := h
    rcases finishRemove_cases lb k with ⟨he, -⟩ | ⟨y, -, hrem⟩
    · rw [he] at hexec; exact hexec
    · rw [hrem.servers] at hexec; exact herase hexec

theorem execAll_shrinks (hc : Cur d c s) (hx : c.kind.exits = true) {x : String} {n : Nat} :
    ∀ (cs : List (Nat × LbCall)) {lb : GlobalRequestLoadBalancer}, Fit d s cs →
      (LbCall.execAll cs lb).servers.get? x = some n → lb.servers.get? x = some n
  | [], _, _, h => h
  | (now, call) :: cs, lb, hfit, h => by
    obtain ⟨c', hc', hcall⟩ := hfit (now, call) List.mem_cons_self
    rw [Option.some.inj (hc'.symm.trans hc)] at hcall
    exact exec_shrinks hx hcall now (execAll_shrinks hc hx cs
      (fun call' hm => hfit call' (List.mem_cons_of_mem _ hm)) h)

/-! ## The task -/

namespace TaskSystem

variable {s t : TaskSystem}

/-- A sound task whose thread calls the load balancer one call a step. -/
structure Relayed (d : Deployment) (s : TaskSystem) : Prop where
  sound : Sound d False s
  worker : ∀ {o p}, s.worker = some (o, p) → Relays p

theorem submit_lb (d : Deployment) (c : OperationCommand) (lease : Option Lease) (starts : Bool)
    (s : TaskSystem) : (s.submit d c lease starts).2.state.lb = s.state.lb := by
  have hsub : ∀ busy, (submitOperation d c lease busy s.state).2.lb = s.state.lb := by
    intro busy
    unfold submitOperation
    split_ifs
    · rfl
    · rfl
    · rfl
    · dsimp only
      split
      · rfl
      · split
        · split <;> rfl
        · rfl
  have hfailed : ∀ replay st, (launchFailed c.operationId replay st).lb = st.lb := by
    intro replay st
    unfold launchFailed
    split
    · rfl
    · dsimp only
      split <;> rfl
  have h := hsub (s.worker.any fun w => w.1 = c.operationId)
  unfold TaskSystem.submit
  dsimp only
  split
  · rename_i heq; rw [heq] at h; exact h
  · rename_i heq; rw [heq] at h; exact h
  · rename_i heq
    rw [heq] at h
    split
    · exact h
    · exact (hfailed _ _).trans h

/-- Whoever launches a thread launches `_execute_operation`. -/
theorem submit_worker {c : OperationCommand} {lease : Option Lease} {starts : Bool} {o : String}
    {p : TaskProg Unit} (h : (s.submit d c lease starts).2.worker = some (o, p)) :
    s.worker = some (o, p) ∨ p = executeOperation d c.operationId := by
  unfold TaskSystem.submit at h
  dsimp only at h
  split at h
  · exact .inl h
  · exact .inl h
  · split at h
    · exact .inr (resume_eq_some h).2
    · exact .inl h

theorem Relayed.step (h : Relayed d s) {l : TaskLabel} (hs : TaskSystem.step d l s = some t) :
    Relayed d t ∧ RouterMove d s.state t.state := by
  have ht : Sound d False t := h.sound.step hs False.elim
  cases l with
  | submit c lease starts =>
    cases hs
    refine ⟨⟨ht, fun {o p} hw => ?_⟩, .same (submit_lb d c lease starts s)⟩
    rcases submit_worker hw with hw | rfl
    · exact h.worker hw
    · exact .executeOperation
  | environment e =>
    obtain ⟨st, he, rfl⟩ := Option.map_eq_some_iff.1 hs
    exact ⟨⟨ht, h.worker⟩, .of_environment h.sound.inv he⟩
  | work o =>
    have hs : s.work o = some t := hs
    unfold TaskSystem.work at hs
    split at hs
    · rename_i id tag ready act next hworker
      split at hs
      · cases hs
        obtain ⟨hstep, hnext⟩ := h.worker hworker
        refine ⟨⟨ht, fun {o' p} hw => ?_⟩, .of_step h.sound.inv hstep o fun o' ho' => ?_⟩
        · obtain ⟨-, rfl⟩ := resume_eq_some hw
          exact hnext _ _
        · have hallowed : EventAllowed False s.state tag := by
            cases tag with
            | serviceChange o => exact False.elim
            | _ => trivial
          exact (((h.sound.worker hworker).1 s.state (Rely.refl _ _) h.sound.inv).2 o' ho' hallowed).1
      · cases hs
    · cases hs

theorem relayed_initial (h : (machine d).init s) : Relayed d s := by
  refine ⟨sound_initial h, fun hw => ?_⟩
  obtain ⟨replicas, version, -, rfl⟩ := h
  cases hw

theorem relayed_reachable (h : (machine d).Reachable s) : Relayed d s :=
  h.invariant (fun _ => relayed_initial) fun _ _ _ hs hstep _ => (hs.step hstep).1

/-- A step of a task, as steps of the load balancer on its own. -/
theorem Relayed.simulates (h : Relayed d s) {l : TaskLabel} (hs : TaskSystem.step d l s = some t)
    {u : RouterSystem} (hu : u.lb = s.state.lb) : ∃ u',
      RouterSystem.machine.RunWhere (fun v l _ => ¬ v.Usurps l) u u' ∧ u'.lb = t.state.lb := by
  have hsingle : ∀ l : RouterCall, u.Possible l → ¬ u.Usurps l → ∃ u',
      RouterSystem.machine.RunWhere (fun v l _ => ¬ v.Usurps l) u u' ∧ u'.lb = (u.call l).lb :=
    fun l hp hn => ⟨u.call l, .single (l := l) ⟨hp, rfl⟩ hn, rfl⟩
  cases (h.step hs).2 with
  | acquire r pick ht =>
    have hcall : (u.call (.acquireServer r pick)).lb = t.state.lb := by
      rw [ht, ← hu]
      show (u.acquire r pick).lb = _
      unfold RouterSystem.acquire
      split <;> (rename_i heq; rw [heq])
    rw [← hcall]
    exact hsingle (.acquireServer r pick) trivial id
  | release x r ht =>
    by_cases hr : r = ""
    · -- a release without a request id only counts in the parent
      refine ⟨u, .refl u, hu.trans ?_⟩
      rw [ht, hr]
      rfl
    · have hcall : (u.call (.releaseServer x r none)).lb = t.state.lb := by
        rw [ht, ← hu]
        rfl
      rw [← hcall]
      exact hsingle (.releaseServer x r none) ⟨hr, fun i hi => by cases hi⟩ id
  | confirm now r client digest ht =>
    have hcall : (u.call (.confirmContinuation now r client digest)).lb = t.state.lb := by
      rw [ht, ← hu]
      rfl
    rw [← hcall]
    exact hsingle (.confirmContinuation now r client digest) trivial id
  | calls cs ht hfit =>
    rw [ht]
    exact run_execAll cs h.sound.inv hfit hu

/-- In every reachable state of a task its load balancer is one that the load balancer on its own gets to,
by calls that usurp no key's server: its tables are coherent, its ledger of attempts is sound. -/
theorem router_refined (h : (machine d).Reachable s) :
    ∃ servers routes n u, RouterSystem.machine.RunWhere (fun v l _ => ¬ v.Usurps l)
        (RouterSystem.initial servers routes n) u ∧
      u.lb = s.state.lb ∧ s.state.lb.Coherent ∧ RouterSystem.LedgerSound u := by
  obtain ⟨s₀, ⟨replicas, version, hstarts, rfl⟩, hr⟩ := h
  have hinit : (machine d).init (initial d replicas version) := ⟨replicas, version, hstarts, rfl⟩
  obtain ⟨u, hrun, hu, -⟩ := hr.simulates (N := RouterSystem.machine)
    (R := fun s u => u.lb = s.state.lb ∧ Relayed d s)
    (fun ⟨hu, hs⟩ hstep _ => by
      obtain ⟨u', hrun, hu'⟩ := hs.simulates hstep hu
      exact ⟨u', hrun, hu', (hs.step hstep).1⟩)
    (u := RouterSystem.initial _ _ _) ⟨rfl, relayed_initial hinit⟩
  have hroutes : ∀ k k' x, (initial d replicas version).state.lb.routes.get? k = some x →
      (initial d replicas version).state.lb.routes.get? k' = some x → k = k' := by
    intro k k' x hk hk'
    have hi : Inv d False _ := (sound_initial hinit).inv
    obtain ⟨r, hr, hx, -⟩ := hi.routed.route hk
    obtain ⟨r', hr', hx', -⟩ := hi.routed.route hk'
    exact hi.wired.address_inj hr hr' (hx.symm.trans hx')
  have hpool : ∀ k x, (initial d replicas version).state.lb.routes.get? k = some x →
      ((initial d replicas version).state.lb.servers.get? x).isSome := by
    intro k x hk
    obtain ⟨r, hr, -, rfl⟩ := (get?_routes hstarts).1 hk
    rw [(get?_servers hstarts).2 ⟨r, hr, rfl, rfl⟩]
    rfl
  refine ⟨_, _, _, u, hrun, hu, ?_, ?_⟩
  · rw [← hu]
    exact (RouterSystem.routes_coherent hroutes hrun).1
  · exact (RouterSystem.ledger_sound ⟨_, ⟨_, _, _, hpool, rfl⟩, hrun.run⟩).1

theorem router_refined_donated : ∃ s, after donating = some s ∧ s.state.lb.servers.get? "a0" = none ∧
    s.state.lb.Coherent := by
  have hend : (after donating).any (fun s =>
      decide (s.state.lb.servers.get? "a0" = none)) = true := by decide +kernel
  obtain ⟨s, hs, hreach, hc⟩ := exists_after hend
  obtain ⟨_, _, _, _, -, -, hcoherent, -⟩ := router_refined hreach
  exact ⟨s, hs, of_decide_eq_true hc, hcoherent⟩

/-- While a DONATE or REMOVE is unfinished, no server comes into the pool: a request is only ever sent to a
server that was there before. -/
theorem exit_pool_shrinks (h : (machine d).Reachable s) (hx : c.kind.exits = true)
    (hr : (machine d).RunWhere (fun u _ _ => Cur d c u.state) s t) :
    (∀ x n, t.state.lb.servers.get? x = some n → s.state.lb.servers.get? x = some n) ∧
      ∀ r pick p, (t.state.lb.acquireServer r pick).1 = .ok p →
        (s.state.lb.servers.get? p.1).isSome := by
  have hpool : Relayed d t ∧ ∀ x n, t.state.lb.servers.get? x = some n →
      s.state.lb.servers.get? x = some n := by
    induction hr with
    | refl => exact ⟨relayed_reachable h, fun _ _ hn => hn⟩
    | tail _ hs hcur ih =>
      obtain ⟨hrelayed, hback⟩ := ih
      obtain ⟨hnext, hmove⟩ := hrelayed.step hs
      refine ⟨hnext, fun x n hn => hback x n ?_⟩
      cases hmove with
      | acquire r pick ht => rw [ht, (sameRouting_acquire _ r pick).1] at hn; exact hn
      | release y r ht => rw [ht, sameRouting_release.1] at hn; exact hn
      | confirm now r client digest ht => rw [ht, sameRouting_confirm.1] at hn; exact hn
      | calls cs ht hfit => rw [ht] at hn; exact execAll_shrinks hcur hx cs hfit hn
  refine ⟨hpool.2, fun r pick p hp => ?_⟩
  obtain ⟨n, hn⟩ := Option.isSome_iff_exists.1 (RouterSystem.acquireServer_pool hp)
  rw [hpool.2 p.1 n hn]
  rfl

/-- The donation of the native replica, as its command. -/
def donateNative : OperationCommand := GroupScheduler.command "d1" .donate nativeKey0

/-- A step after which the donation is still the current operation. -/
def whileDonating (s : TaskSystem) (l : TaskLabel) : Option TaskSystem :=
  if s.state.journal.current "borrower" = some donateNative then step deployment l s else none

theorem exit_pool_shrinks_donating : ∃ s t, after [.submit donateNative none true] = some s ∧
    (works 38).foldlM whileDonating s = some t ∧
    ∀ r pick p, (t.state.lb.acquireServer r pick).1 = .ok p →
      (s.state.lb.servers.get? p.1).isSome := by
  have hend : (after [.submit donateNative none true]).any (fun s =>
      ((works 38).foldlM whileDonating s).isSome) = true := by decide +kernel
  obtain ⟨s, hs, hreach, hc⟩ := exists_after hend
  obtain ⟨t, ht⟩ := Option.isSome_iff_exists.1 hc
  have hrun : (machine deployment).RunWhere (fun u _ _ => Cur deployment donateNative u.state) s t := by
    refine .steps (fun h => ?_) ht
    unfold whileDonating at h
    split at h
    · exact ⟨h, ‹_›⟩
    · cases h
  exact ⟨s, t, hs, ht, (exit_pool_shrinks hreach rfl hrun).2⟩

end TaskSystem

end ReplicaLending
