import ReplicaLending.Task.ForceExit
import ReplicaLending.Task.Soundness
/-!
# What FORCE leaves behind (`rollouter.py:700`)

`prepare_exit` step by step: the target leaves the pool (`TargetShut`), its admitted requests are
recorded, the abort is issued unless a tuple says that it was (`Issued`), and the handoffs are counted
against the tuple (`ExitReady`). The count is right as long as no recorded request had been handed
off before the abort (`Unconfirmed`).
-/

namespace ReplicaLending

open TaskProg TaskState Rollouter GlobalRequestLoadBalancer

variable {d : Deployment} {key : ReplicaKey} {operationId y : String} {s t : TaskState}
  {h : ExitHistory}

/-- The operation has taken the server out of the pool. -/
structure TargetShut (key : ReplicaKey) (operationId y : String) (s : TaskState) : Prop where
  bound : s.rollouter.pendingOperationTargets.get? operationId = some key
  out : OutOfPool key operationId s.lb y

/-- A recovery tuple is kept for an abort that has been issued. -/
def Issued (operationId : String) (x : TaskState × ExitHistory) : Prop :=
  x.1.rollouter.forceExitRecovery.get? operationId ≠ none → x.2.aborts = 1

/-- The tuple is kept and its abort has been issued. -/
def Aborted (operationId : String) (v : List String × Option Nat) (x : TaskState × ExitHistory) :
    Prop :=
  x.1.rollouter.forceExitRecovery.get? operationId = some v ∧ x.2.aborts = 1

/-- Of the requests that were ADMITTED at the abort, as many have been handed off as the abort
reported; all of them if its reply was lost. -/
def HandedOff (operationId : String) (lb : GlobalRequestLoadBalancer) (h : ExitHistory) :
    Option Nat → Prop
  | some n => n ≤ (h.boundary.filter (· ∈ lb.handoffs operationId)).length
  | none => ∀ r ∈ h.boundary, r ∈ lb.handoffs operationId

/-- The same, but those that had been handed off before the abort are counted as well. -/
def Accounted (operationId : String) (lb : GlobalRequestLoadBalancer) (h : ExitHistory) :
    Option Nat → Prop
  | some n => n ≤ (h.boundary.filter (· ∈ lb.handoffs operationId)).length +
      h.confirmed.length
  | none => ∀ r ∈ h.boundary, r ∈ lb.handoffs operationId

/-- The server is out of the pool, nothing is ADMITTED on it, and there are handoffs for the abort. -/
def ReadyWith (H : GlobalRequestLoadBalancer → ExitHistory → Option Nat → Prop) (key : ReplicaKey)
    (operationId : String) (s : TaskState) (h : ExitHistory) : Prop :=
  ∃ y, s.lb.routes.get? key = some y ∧ s.lb.servers.get? y = none ∧
    s.lb.hasUnsettledRequests y = false ∧ ∃ v, Aborted operationId v (s, h) ∧ H s.lb h v.2

/-- What EXIT_READY is to say. -/
def ExitReady (key : ReplicaKey) (operationId : String) : TaskState → ExitHistory → Prop :=
  ReadyWith (HandedOff operationId) key operationId

/-- What it says. -/
def ExitAccounted (key : ReplicaKey) (operationId : String) : TaskState → ExitHistory → Prop :=
  ReadyWith (Accounted operationId) key operationId

/-! ## What stays -/

section Stable

theorem stable_manager (F : LLMServerManager → Prop) :
    (exitProtocol key operationId).Stable fun x => F x.1.manager :=
  stable_of_outside fun _ _ _ _ hp ho => by
    dsimp only at hp ⊢
    rwa [ho.manager]

theorem stable_binding (F : Option ReplicaKey → Prop) : (exitProtocol key operationId).Stable
    fun x => F (x.1.rollouter.pendingOperationTargets.get? operationId) :=
  stable_of_outside fun _ _ _ _ hp ho => by
    dsimp only at hp ⊢
    rwa [ho.binding]

theorem stable_recovery (F : Option (List String × Option Nat) → ExitHistory → Prop) :
    (exitProtocol key operationId).Stable
      fun x => F (x.1.rollouter.forceExitRecovery.get? operationId) x.2 :=
  stable_of_outside fun _ _ _ _ hp ho => by
    dsimp only at hp ⊢
    rwa [ho.recovery]

theorem stable_issued : (exitProtocol key operationId).Stable (Issued operationId) :=
  stable_recovery fun v h => v ≠ none → h.aborts = 1

theorem stable_aborted {v : List String × Option Nat} :
    (exitProtocol key operationId).Stable (Aborted operationId v) :=
  stable_recovery fun w h => w = some v ∧ h.aborts = 1

theorem stable_routed : (exitProtocol key operationId).Stable
    fun x => x.1.inflight = [] ∧ x.1.lb.routes.get? key = some y :=
  stable_of_outside fun _ _ _ _ hp ho => by
    obtain ⟨hf, hy⟩ := hp
    obtain ⟨-, -, -, ⟨hq, hlb⟩ | ⟨hq, l, -, -, -, hs⟩ | ⟨c, cs, now, hs, -⟩⟩ := ho
    · exact ⟨hq.trans hf, by rw [hlb]; exact hy⟩
    · exact ⟨hq.trans hf, by rw [hs.2.1]; exact hy⟩
    · dsimp only at hf
      rw [hf] at hs
      cases hs

/-- Once the operation is bound, its target keeps its route. -/
theorem stable_bound : (exitProtocol key operationId).Stable fun x =>
    x.1.rollouter.pendingOperationTargets.get? operationId = some key ∧
      x.1.lb.routes.get? key = some y :=
  stable_of_outside fun _ _ _ hi hp ho => by
    obtain ⟨hb, hy⟩ := hp
    obtain ⟨l, hlb, -, hmild⟩ := ho.call hi
    refine ⟨ho.binding.trans hb, ?_⟩
    dsimp only
    rw [hlb, (hmild _ hb).routes]
    exact hy

theorem TargetShut.outside (hs : TargetShut key operationId y s) (hi : ExitInv key operationId s h)
    (ho : Outside operationId s t) : TargetShut key operationId y t := by
  obtain ⟨l, hlb, -, hmild⟩ := ho.call hi
  refine ⟨ho.binding.trans hs.bound, ?_⟩
  rw [hlb]
  exact hs.out.after (hmild _ hs.bound)

theorem stable_shut :
    (exitProtocol key operationId).Stable fun x => TargetShut key operationId y x.1 :=
  stable_of_outside fun _ _ _ hi hp ho => TargetShut.outside hp hi ho

/-- Whoever is admitted on the server is in the list. -/
def Covers (y : String) (rs : List String) (lb : GlobalRequestLoadBalancer) : Prop :=
  ∀ r, lb.AdmittedOn y r → r ∈ rs

theorem TargetShut.covers {rs : List String} (hs : TargetShut key operationId y s)
    (hi : ExitInv key operationId s h) (ho : Outside operationId s t) (hc : Covers y rs s.lb) :
    Covers y rs t.lb := by
  obtain ⟨l, hlb, -, -⟩ := ho.call hi
  intro r hr
  rw [hlb] at hr
  exact hc r (admittedOn_after hs.out.pool hr)

theorem stable_covers {rs : List String} : (exitProtocol key operationId).Stable
    fun x => TargetShut key operationId y x.1 ∧ Covers y rs x.1.lb :=
  stable_of_outside fun _ _ _ hi hp ho => ⟨hp.1.outside hi ho, hp.1.covers hi ho hp.2⟩

theorem Accounted.mono {lb lb' : GlobalRequestLoadBalancer} {n : Option Nat}
    (hh : ∀ r ∈ lb.handoffs operationId,
      r ∈ lb'.handoffs operationId)
    (hd : Accounted operationId lb h n) : Accounted operationId lb' h n := by
  cases n with
  | none => exact fun r hr => hh r (hd r hr)
  | some n =>
    have hmono := (List.monotone_filter_right h.boundary fun r hr =>
      decide_eq_true (hh r (of_decide_eq_true hr))).length_le
    exact Nat.le_trans hd (Nat.add_le_add_right hmono _)

/-- An exit that is ready stays so until the operation goes on. -/
theorem ExitAccounted.outside (hr : ExitAccounted key operationId s h) (hi : ExitInv key operationId s h)
    (ho : Outside operationId s t) : ExitAccounted key operationId t h := by
  obtain ⟨y, hy, hpool, hun, v, ⟨hv, ha⟩, hh⟩ := hr
  obtain ⟨l, hlb, -, hmild⟩ := ho.call hi
  obtain ⟨x, hout, -⟩ := hi.recovered v.1 v.2 hv
  have hbound : s.rollouter.pendingOperationTargets.get? operationId = some key := by
    cases hb : s.rollouter.pendingOperationTargets.get? operationId with
    | none =>
      rw [(hi.unbound hb).2.2] at hv
      cases hv
    | some k => rw [(hi.bound k hb).1]
  have hm : Mild key operationId s.lb l := hmild _ hbound
  obtain rfl : x = y := Option.some.inj (hout.route.symm.trans hy)
  have hout' := hout.after hm
  refine ⟨x, by rw [hlb]; exact hout'.route, by rw [hlb]; exact hout'.pool, ?_, v,
    ⟨ho.recovery.trans hv, ha⟩, ?_⟩
  · rw [hasUnsettledRequests_eq_false] at hun ⊢
    rw [hlb]
    exact fun r hr => hun r (admittedOn_after hpool hr)
  · rw [hlb]
    exact hh.mono fun r => hm.handoff

theorem stable_ready :
    (exitProtocol key operationId).Stable fun x => ExitAccounted key operationId x.1 x.2 :=
  stable_of_outside fun _ _ _ hi hp ho => ExitAccounted.outside hp hi ho

end Stable

/-! ## The steps of `prepare_exit` -/

namespace ExitTriple

/-- The record goes to DRAINING and is bound. -/
theorem enterDraining : ExitTriple key operationId
    (fun x => x.1.manager.replicaState.get? key = some .active ∧ Issued operationId x ∧
      x.1.inflight = [] ∧ x.1.lb.routes.get? key = some y)
    (TaskProg.call (Rollouter.enterDraining key operationId .active))
    (fun _ x => (x.1.rollouter.pendingOperationTargets.get? operationId = some key ∧
      x.1.lb.routes.get? key = some y) ∧ Issued operationId x)
    fun _ => Issued operationId := by
  refine awaitStep ((stable_manager fun m => m.replicaState.get? key = some .active).and
    (stable_issued.and stable_routed)) ?_
  rintro s h o hi ⟨hact, hiss, hf, hy⟩ -
  dsimp only at hact hf hy
  have hnone : s.rollouter.pendingOperationTargets.get? operationId = none := by
    cases hb : s.rollouter.pendingOperationTargets.get? operationId with
    | none => rfl
    | some k =>
      rw [(hi.bound k hb).2.1] at hact
      cases hact
  obtain ⟨hdrain, -, hrec⟩ := hi.unbound hnone
  unfold Rollouter.enterDraining onManager
  simp only [if_true]
  cases hm : s.manager.transitionReplica key .draining with
  | error e =>
    dsimp only
    rw [next_eq hi (fun _ => (by nofun)) rfl]
    exact ⟨hi, fun a ha => (by cases ha), fun _ _ => hiss⟩
  | ok m =>
    have hst : m.replicaState.get? key = some .draining := by
      rcases LLMServerManager.transitionReplica_ok hm with ⟨-, hs⟩ | ⟨rfl, -⟩
      · rw [hact] at hs
        cases hs
      · exact (LLMServerManager.get?_move ..).trans (if_pos rfl)
    have hbound : (s.rollouter.pendingOperationTargets.insert operationId key).get? operationId =
        some key := Dict.get?_insert_self _ _ _
    refine ⟨?_, fun _ _ => ⟨⟨hbound, hy⟩, fun hne => (hne hrec).elim⟩, fun e he => by cases he⟩
    exact
      { handoffs := hi.handoffs
        left := by
          simp only [ExitHistory.next, bindTarget, hst, ne_eq, Option.some.injEq, reduceCtorEq,
            not_false_eq_true, decide_true, Bool.or_true]
        unbound := fun he => by cases hbound.symm.trans he
        bound := fun k hk => by
          obtain rfl : key = k := Option.some.inj (hbound.symm.trans hk)
          refine ⟨rfl, hst, fun c hc => ?_, y, hy, fun z hz => (hdrain z hz).elim⟩
          rw [show (bindTarget { s with manager := m } operationId key).inflight = [] from hf] at hc
          cases hc
        once := hi.once
        fresh := fun _ => hi.fresh hrec
        recovered := fun admitted n hn => by
          rw [show s.rollouter.forceExitRecovery.get? operationId = _ from hn] at hrec
          cases hrec }

/-- The call may still be on its way when its reply is given up. -/
theorem late_drain (hi : ExitInv key operationId s h)
    (hb : s.rollouter.pendingOperationTargets.get? operationId = some key) :
    ExitInv key operationId
      { s with inflight := s.inflight ++ [.beginDrain key operationId] } h where
  handoffs := hi.handoffs
  left := hi.left
  unbound hnone := by cases hb.symm.trans hnone
  bound k hk := by
    obtain ⟨rfl, hst, hc, hx⟩ := hi.bound k hk
    refine ⟨rfl, hst, fun c hm => ?_, hx⟩
    rcases List.mem_append.1 hm with hm | hm
    · exact hc c hm
    · exact List.mem_singleton.1 hm
  once := hi.once
  fresh := hi.fresh
  recovered := hi.recovered

theorem beginDrainOnce : ExitTriple key operationId
    (fun x => (x.1.rollouter.pendingOperationTargets.get? operationId = some key ∧
      x.1.lb.routes.get? key = some y) ∧ Issued operationId x)
    (Rollouter.beginDrainOnce key operationId)
    (fun z x => TargetShut key operationId z x.1 ∧ Issued operationId x)
    fun _ => Issued operationId := by
  have hcall : ExitTriple key operationId
      (fun x => (x.1.rollouter.pendingOperationTargets.get? operationId = some key ∧
        x.1.lb.routes.get? key = some y) ∧ Issued operationId x)
      (beginDrainCall key operationId)
      (fun z x => TargetShut key operationId z x.1 ∧ Issued operationId x)
      fun _ x => (x.1.rollouter.pendingOperationTargets.get? operationId = some key ∧
        x.1.lb.routes.get? key = some y) ∧ Issued operationId x := by
    have hstable : (exitProtocol key operationId).Stable fun x =>
        (x.1.rollouter.pendingOperationTargets.get? operationId = some key ∧
          x.1.lb.routes.get? key = some y) ∧ Issued operationId x := stable_bound.and stable_issued
    refine call hstable ?_
    rintro s h o hi ⟨⟨hb, hy⟩, hiss⟩
    dsimp only at hb hy
    have hlate : ExitInv key operationId
        { s with inflight := s.inflight ++ [.beginDrain key operationId] } h := late_drain hi hb
    -- executed at once, the call is the last of those on their way
    have hdone : ({ s.flush o.now with
        lb := (LbCall.beginDrain key operationId).exec o.now (s.flush o.now).lb } : TaskState) =
        ({ s with inflight := s.inflight ++ [.beginDrain key operationId] } : TaskState).flush
          o.now := by
      unfold TaskState.flush
      rw [List.foldl_append]
      rfl
    have hf : ExitRely operationId
        ({ s with inflight := s.inflight ++ [.beginDrain key operationId] }, h)
        ({ s.flush o.now with
          lb := (LbCall.beginDrain key operationId).exec o.now (s.flush o.now).lb }, h) := by
      rw [hdone]
      exact flush_rely _ h o.now
    have hi' : ExitInv key operationId { s.flush o.now with
        lb := (LbCall.beginDrain key operationId).exec o.now (s.flush o.now).lb } h :=
      ExitInv.rely (s := (_, h)) hlate hf
    have hp' := hstable (_, h) (_, h) hlate ⟨⟨hb, hy⟩, hiss⟩ hf hi'
    cases ho : o.fault with
    | before => exact ⟨rfl, hi, fun a ha => (by cases ha), fun _ _ => ⟨⟨hb, hy⟩, hiss⟩⟩
    | late => exact ⟨rfl, hlate, fun a ha => (by cases ha), fun _ _ => ⟨⟨hb, hy⟩, hiss⟩⟩
    | after => exact ⟨rfl, hi', fun a ha => (by cases ha), fun _ _ => hp'⟩
    | none =>
      refine ⟨rfl, hi', fun z hz => ⟨⟨hp'.1.1, ?_⟩, hp'.2⟩, fun _ _ => hp'⟩
      obtain ⟨-, -, -, x, hx, hdrain⟩ := hi'.bound key hp'.1.1
      rcases beginDrain_routing (s.flush o.now).lb key operationId with
        ⟨e, he⟩ | ⟨w, hw, hok, hsv, hrt, -⟩
      · dsimp only at hz
        rw [he] at hz
        cases hz
      · obtain rfl : w = z := Except.ok.inj (hok.symm.trans hz)
        have hroute : (LbCall.exec o.now (s.flush o.now).lb
            (.beginDrain key operationId)).routes.get? key = some w := by
          dsimp only [LbCall.exec]
          rw [hrt, hw]
        obtain rfl : w = x := Option.some.inj (hroute.symm.trans hx)
        refine ⟨hx, ?_, hdrain⟩
        dsimp only [LbCall.exec]
        rw [hsv, Dict.get?_erase_self]
  exact tryCatch hcall fun _ => conseq hcall (fun _ _ _ hp => hp) (fun _ _ _ _ hq => hq)
    fun _ _ _ _ he => he.2

/-- A tuple is kept. -/
theorem setRecovery {P : TaskState × ExitHistory → Prop} {v : List String × Option Nat}
    {E : PyErr → TaskState × ExitHistory → Prop} (hP : (exitProtocol key operationId).Stable P)
    (hb : ∀ x, P x → x.1.rollouter.pendingOperationTargets.get? operationId = some key)
    (hrec : ∀ s h, ExitInv key operationId s h → P (s, h) →
      RecordedTarget key operationId s.lb v.1 h) :
    ExitTriple key operationId P
      (TaskProg.call fun s _ => (.ok (), Rollouter.setRecovery s operationId v))
      (fun _ x => ∃ s, P (s, x.2) ∧ x.1 = Rollouter.setRecovery s operationId v) E := by
  refine call hP fun s h _ hi hp => ⟨rfl, ?_, fun _ _ => ⟨s, hp, rfl⟩, fun e he => by cases he⟩
  have hkept : (Rollouter.setRecovery s operationId v).rollouter.forceExitRecovery.get? operationId =
      some v := Dict.get?_insert_self _ _ _
  exact
    { handoffs := hi.handoffs
      left := hi.left
      unbound := fun hnone => by cases (hb _ hp).symm.trans hnone
      bound := hi.bound
      once := hi.once
      fresh := fun hnone => by
        rw [hkept] at hnone
        cases hnone
      recovered := fun admitted n hn => by
        obtain rfl : v = (admitted, n) := Option.some.inj (hkept.symm.trans hn)
        exact hrec s h hi hp }

/-- The queries find everybody who is still admitted at the end. -/
theorem admittedRequests {F : TaskState × ExitHistory → Prop}
    (hF : (exitProtocol key operationId).Stable F) : ∀ (rs ts : List String),
    ExitTriple key operationId
      (fun x => (TargetShut key operationId y x.1 ∧ Covers y (rs ++ ts) x.1.lb) ∧ F x)
      (Rollouter.admittedRequests rs)
      (fun a x => (TargetShut key operationId y x.1 ∧ Covers y (a ++ ts) x.1.lb) ∧ F x) fun _ => F
  | [], ts => .ret fun _ _ _ hp => hp
  | r :: rs, ts => by
    have hquery : ExitTriple key operationId
        (fun x => (TargetShut key operationId y x.1 ∧ Covers y (r :: rs ++ ts) x.1.lb) ∧ F x)
        (TaskProg.readRpc (·.queryAttempt r))
        (fun a x => (TargetShut key operationId y x.1 ∧
          Covers y (rs ++ if a = some .admitted then r :: ts else ts) x.1.lb) ∧ F x)
        fun _ => F := by
      refine conseq (readRpc (stable_covers.and hF) 2) (fun _ _ _ hp => hp) ?_
        fun _ _ _ _ he => he.2
      rintro a s h - ⟨⟨⟨hs, hc⟩, hx⟩, -, rfl⟩
      refine ⟨⟨hs, fun j hj => ?_⟩, hx⟩
      rcases List.mem_append.1 (hc j hj) with hm | hm
      · rcases List.mem_cons.1 hm with rfl | hm
        · rw [if_pos (show s.lb.queryAttempt j = some .admitted from hj.2)]
          exact List.mem_append_right _ List.mem_cons_self
        · exact List.mem_append_left _ hm
      · refine List.mem_append_right _ ?_
        split
        · exact List.mem_cons_of_mem _ hm
        · exact hm
    refine .bind hquery fun a => .bind (admittedRequests hF rs _) fun rest => .ret ?_
    rintro s h - ⟨⟨hs, hc⟩, hx⟩
    refine ⟨⟨hs, fun j hj => ?_⟩, hx⟩
    have hm := hc j hj
    split at hm
    · rename_i ha
      rw [if_pos ha]
      simp only [List.mem_append, List.mem_cons] at hm ⊢
      rcases hm with hm | rfl | hm
      · exact .inl (.inr hm)
      · exact .inl (.inl rfl)
      · exact .inr hm
    · rename_i ha
      rwa [if_neg ha]

/-- What the abort of `abort_all_requests` finds and leaves. -/
theorem abort {rank : Nat} {admitted : List String} : ExitTriple key operationId
    (fun x => TargetShut key operationId y x.1 ∧
      x.1.rollouter.forceExitRecovery.get? operationId = some (admitted, none) ∧ x.2.aborts = 0)
    (Prog.call (.abort operationId) fun s o => (if o.fault ≠ .none then .error lostReply
      else if ¬ (s.world rank).serverAlive then .error engineError
      else match o.aborted with
        | some (.ofNat n) => .ok n
        | _ => .error (.runtimeError "FORCE abort did not report aborted_count"), s) :
      TaskProg Nat)
    (fun _ x => TargetShut key operationId y x.1 ∧ Aborted operationId (admitted, none) x)
    fun _ => Issued operationId := by
  refine awaitStep (stable_shut.and (stable_recovery fun v h => v = some (admitted, none) ∧
    h.aborts = 0)) ?_
  rintro s h o hi ⟨hs, hrec, h0⟩ -
  dsimp only at hs hrec h0 ⊢
  have hleft : (h.left || decide (s.manager.replicaState.get? key ≠ some .active)) = h.left := by
    rw [Bool.or_eq_left_iff_imp, decide_eq_true_iff]
    exact hi.left.2
  have hroute : ((s.lb.routes.get? key).map s.lb.admittedOn).getD [] = s.lb.admittedOn y := by
    rw [hs.out.route]
    rfl
  simp only [ExitHistory.next, hleft, hroute]
  obtain ⟨x, hout, hcov, -⟩ := hi.recovered _ _ hrec
  obtain rfl : x = y := Option.some.inj (hout.route.symm.trans hs.out.route)
  have hreq : recordedRequests s operationId = admitted := by
    unfold recordedRequests
    rw [hrec]
    rfl
  refine ⟨?_, fun _ _ => ⟨hs, hrec, by dsimp only; omega⟩, fun _ _ _ => by dsimp only; omega⟩
  exact
    { handoffs := hi.handoffs
      left := hi.left
      unbound := hi.unbound
      bound := hi.bound
      once := by dsimp only; omega
      fresh := fun hnone => by cases hrec.symm.trans hnone
      recovered := fun adm n hn => by
        cases hrec.symm.trans hn
        refine ⟨x, hout, hcov, fun _ => ⟨nodup_admittedOn, fun r hr => ?_, fun r hr => ?_,
          fun r hr hh => ?_⟩⟩
        · exact hcov r (mem_admittedOn.1 hr)
        · exact mem_admittedOn.2 hr
        · exact .inr (List.mem_filter.2 ⟨hreq ▸ hr, decide_eq_true hh⟩) }

theorem abortForce {r : Replica} : ExitTriple key operationId
    (fun x => TargetShut key operationId y x.1 ∧
      x.1.rollouter.forceExitRecovery.get? operationId = none ∧ x.2.aborts = 0)
    (Rollouter.abortForce r operationId y)
    (fun v x => TargetShut key operationId y x.1 ∧ Aborted operationId v x)
    fun _ => Issued operationId := by
  have hF : (exitProtocol key operationId).Stable fun x =>
      x.1.rollouter.forceExitRecovery.get? operationId = none ∧ x.2.aborts = 0 :=
    stable_recovery fun v h => v = none ∧ h.aborts = 0
  have hissued : ∀ {x : TaskState × ExitHistory}, x.1.rollouter.forceExitRecovery.get? operationId =
      none ∧ x.2.aborts = 0 → Issued operationId x := fun hx hne => (hne hx.1).elim
  have hkept : ∀ {s : TaskState} {v : List String × Option Nat},
      (Rollouter.setRecovery s operationId v).rollouter.forceExitRecovery.get? operationId =
        some v := Dict.get?_insert_self _ _ _
  refine .bind (Q := fun rs x => (TargetShut key operationId y x.1 ∧ Covers y (rs ++ []) x.1.lb) ∧
    x.1.rollouter.forceExitRecovery.get? operationId = none ∧ x.2.aborts = 0) ?_ fun rs => ?_
  · refine conseq (readRpc (stable_shut.and hF) 2) (fun _ _ _ hp => hp) ?_
      fun _ _ _ _ he => hissued he.2
    rintro rs s h - ⟨⟨hs, hx⟩, -, rfl⟩
    refine ⟨⟨hs, fun j hj => ?_⟩, hx⟩
    rw [List.append_nil]
    exact requestsForServer_iff.2 hj.1
  refine .bind (Q := fun a x => (TargetShut key operationId y x.1 ∧ Covers y (a ++ []) x.1.lb) ∧
    x.1.rollouter.forceExitRecovery.get? operationId = none ∧ x.2.aborts = 0)
    (conseq (admittedRequests hF rs []) (fun _ _ _ hp => hp) (fun _ _ _ _ hq => hq)
      fun _ _ _ _ he => hissued he) fun admitted => ?_
  refine .bind (Q := fun _ x => TargetShut key operationId y x.1 ∧
    x.1.rollouter.forceExitRecovery.get? operationId = some (admitted, none) ∧ x.2.aborts = 0)
    ?_ fun _ => ?_
  · refine conseq (setRecovery (stable_covers.and hF) (fun _ hp => hp.1.1.bound) ?_)
      (fun _ _ _ hp => hp) ?_ fun _ _ _ _ he => he
    · rintro s h - ⟨⟨hs, hc⟩, -, h0⟩
      refine ⟨y, hs.out, fun r hr => ?_, fun h1 => ?_⟩
      · have := hc r hr
        rwa [List.append_nil] at this
      · dsimp only at h0
        omega
    · rintro - s h - ⟨t, ⟨⟨⟨hb, ho⟩, -⟩, -, h0⟩, rfl⟩
      exact ⟨⟨hb, ho⟩, hkept, h0⟩
  refine .bind abort fun n => .bind (require fun s h _ hp _ => hp.2.2) fun _ => ?_
  refine .bind (Q := fun _ x => TargetShut key operationId y x.1 ∧
    Aborted operationId (admitted, some n) x) ?_ fun _ => .ret fun _ _ _ hp => hp
  refine conseq (setRecovery (P := fun x => TargetShut key operationId y x.1 ∧
    Aborted operationId (admitted, none) x) (stable_shut.and stable_aborted)
    (fun _ hp => hp.1.bound) fun s h hi hp => hi.recovered _ _ hp.2.1)
    (fun _ _ _ hp => hp.2) ?_ fun _ _ _ _ he => he
  rintro - s h - ⟨t, ⟨⟨hb, ho⟩, -, h1⟩, rfl⟩
  exact ⟨⟨hb, ho⟩, hkept, h1⟩

theorem recoverForce {r : Replica} : ExitTriple key operationId
    (fun x => TargetShut key operationId y x.1 ∧ Issued operationId x)
    (Rollouter.recoverForce r operationId y)
    (fun v x => TargetShut key operationId y x.1 ∧ Aborted operationId v x)
    fun _ => Issued operationId := by
  refine .bind (Q := fun v x => TargetShut key operationId y x.1 ∧
    x.1.rollouter.forceExitRecovery.get? operationId = v ∧ x.2.aborts = if v = none then 0 else 1)
    (peek (stable_shut.and stable_issued) ?_ fun _ _ _ _ _ he => by cases he) fun v => ?_
  · rintro s h v hi ⟨hs, hiss⟩ hv
    cases hv
    refine ⟨hs, rfl, ?_⟩
    split
    · exact hi.fresh ‹_›
    · exact hiss ‹_›
  · cases v with
    | none => exact abortForce
    | some v => exact .ret fun _ _ _ hp => ⟨hp.1, hp.2.1, hp.2.2⟩

/-- The requests are handoffs of the operation. -/
def Handed (operationId : String) (rs : List String) (lb : GlobalRequestLoadBalancer) : Prop :=
  ∀ r ∈ rs, r ∈ lb.handoffs operationId

/-- As many handoffs of recorded requests as the abort reported are handoffs of aborted requests. -/
theorem accounted_of_complete {lb : GlobalRequestLoadBalancer} {v : List String × Option Nat}
    {rs : List String} (hn : rs.Nodup) (hrs : Handed operationId rs lb)
    (hb : AtBoundary operationId lb y v.1 h) (hc : handoffComplete rs v.1 v.2 = true) :
    Accounted operationId lb h v.2 := by
  obtain ⟨admitted, n⟩ := v
  obtain ⟨hnodup, hrec, -, hhanded⟩ := hb
  dsimp only at hrec hhanded hc ⊢
  have hfn : (rs.filter (· ∈ admitted)).Nodup := hn.filter _
  unfold handoffComplete at hc
  cases n with
  | none =>
    rw [decide_eq_true_iff] at hc
    -- a list without repetitions, inside another and as long as it, has all its members
    have hsub : (rs.filter (· ∈ admitted)).Subperm admitted :=
      List.subperm_of_subset hfn fun r hr => of_decide_eq_true (List.mem_filter.1 hr).2
    intro r hr
    exact hrs r (List.mem_filter.1 ((hsub.perm_of_length_le hc.symm.le).symm.subset (hrec r hr))).1
  | some n =>
    rw [decide_eq_true_iff] at hc
    refine Nat.le_trans hc ?_
    rw [← List.length_append]
    refine (List.subperm_of_subset hfn fun r hr => ?_).length_le
    obtain ⟨hr, ha⟩ := List.mem_filter.1 hr
    rcases hhanded r (of_decide_eq_true ha) (hrs r hr) with hb | hb
    · exact List.mem_append_left _ (List.mem_filter.2 ⟨hb, decide_eq_true (hrs r hr)⟩)
    · exact List.mem_append_right _ hb

/-- The handoffs that were read stay handoffs. -/
theorem stable_handed {rs : List String} : (exitProtocol key operationId).Stable
    fun x => TargetShut key operationId y x.1 ∧ Handed operationId rs x.1.lb :=
  stable_of_outside fun _ _ _ hi hp ho => by
    obtain ⟨l, hlb, -, hmild⟩ := ho.call hi
    refine ⟨hp.1.outside hi ho, fun r hr => ?_⟩
    dsimp only
    rw [hlb]
    exact (hmild _ hp.1.bound).handoff (hp.2 r hr)

theorem awaitHandoff {v : List String × Option Nat} : ExitTriple key operationId
    (fun x => TargetShut key operationId y x.1 ∧ Aborted operationId v x)
    (Rollouter.awaitHandoff operationId y v.1 v.2)
    (fun _ x => ExitAccounted key operationId x.1 x.2 ∧ Issued operationId x)
    fun _ => Issued operationId := by
  refine .bind (Q := fun answer x => (∀ rs, answer = .ok rs → rs.Nodup ∧
    TargetShut key operationId y x.1 ∧ Handed operationId rs x.1.lb) ∧ Aborted operationId v x)
    ?_ fun answer => ?_
  · refine conseq (readRpc (stable_shut.and stable_aborted) 2) (fun _ _ _ hp => hp) ?_
      fun _ _ _ _ he _ => he.2.2
    rintro answer s h hi ⟨⟨hs, ha⟩, -, rfl⟩
    refine ⟨fun rs hrs => ?_, ha⟩
    have hperm := continuationHandoffRequests_ok hrs
    exact ⟨hperm.nodup_iff.2 hi.handoffs, hs, fun r hr => hperm.subset hr⟩
  cases answer with
  | error e => exact .raise fun _ _ _ hp _ => hp.2.2
  | ok rs =>
    refine conseq (P := fun x => rs.Nodup ∧ (TargetShut key operationId y x.1 ∧
      Handed operationId rs x.1.lb) ∧ Aborted operationId v x)
      (Q := fun _ x => ExitAccounted key operationId x.1 x.2 ∧ Issued operationId x)
      (E := fun _ => Issued operationId) (.of_imp fun hn => ?_)
      (fun _ _ _ hp => ⟨(hp.1 rs rfl).1, (hp.1 rs rfl).2, hp.2⟩) (fun _ _ _ _ hq => hq)
      fun _ _ _ _ he => he
    have hstable : (exitProtocol key operationId).Stable fun x => (TargetShut key operationId y x.1 ∧
        Handed operationId rs x.1.lb) ∧ Aborted operationId v x := stable_handed.and stable_aborted
    refine await (fun _ => (by nofun)) hstable ?_
    rintro s h o hi hp -
    have hf : ExitRely operationId (s, h) (s.flush o.now, h) := flush_rely s h o.now
    have hi' : ExitInv key operationId (s.flush o.now) h := ExitInv.rely (s := (_, h)) hi hf
    obtain ⟨⟨hs', hrs'⟩, ha'⟩ := hstable (_, h) (_, h) hi hp hf hi'
    dsimp only
    split
    · exact ⟨rfl, hi, fun a ha => (by cases ha), fun _ _ _ => hp.2.2⟩
    split
    · rename_i hc
      refine ⟨rfl, hi', fun _ _ => ⟨⟨y, hs'.out.route, hs'.out.pool, ?_, v, ha', ?_⟩, fun _ => ha'.2⟩,
        fun e he => by cases he⟩
      · rw [Bool.and_eq_true, Bool.not_eq_true'] at hc
        exact hc.1
      · rw [Bool.and_eq_true] at hc
        obtain ⟨x, hout, -, hb⟩ := hi'.recovered v.1 v.2 ha'.1
        obtain rfl : x = y := Option.some.inj (hout.route.symm.trans hs'.out.route)
        exact accounted_of_complete hn hrs' (hb ha'.2) hc.2
    · exact ⟨rfl, hi', fun a ha => (by cases ha), fun _ _ _ => ha'.2⟩

/-- What has been read of the record and the binding when the exit goes on. -/
def Found (key : ReplicaKey) (operationId : String) (st : ReplicaState)
    (previous : Option ReplicaKey) (x : TaskState × ExitHistory) : Prop :=
  x.1.manager.replicaState.get? key = some st ∧
    x.1.rollouter.pendingOperationTargets.get? operationId = previous ∧ Issued operationId x

theorem stable_found {st : ReplicaState} {previous : Option ReplicaKey} :
    (exitProtocol key operationId).Stable (Found key operationId st previous) :=
  (stable_manager fun m => m.replicaState.get? key = some st).and
    ((stable_binding fun b => b = previous).and stable_issued)

theorem prepareForceExit {kind : ReplicaKind} {st : ReplicaState} {previous : Option ReplicaKey} :
    ExitTriple key operationId (Found key operationId st previous)
      (Rollouter.prepareForceExit d key operationId kind st previous)
      (fun _ x => ExitAccounted key operationId x.1 x.2 ∧ Issued operationId x)
      fun _ => Issued operationId := by
  have hread : ∀ {α : Type} (f : GlobalRequestLoadBalancer → α),
      ExitTriple key operationId (Found key operationId st previous) (TaskProg.readRpc f)
        (fun a x => Found key operationId st previous x ∧ x.1.inflight = [] ∧ a = f x.1.lb)
        fun _ => Issued operationId :=
    fun f => conseq (readRpc stable_found 2) (fun _ _ _ hp => hp) (fun _ _ _ _ hq => hq)
      fun _ _ _ _ he => he.2.2
  refine .bind (require fun _ _ _ hp => hp.2.2) fun _ => .of_imp fun _ =>
    .bind (require fun _ _ _ hp => hp.2.2) fun _ => .of_imp fun hst =>
    .bind (require fun _ _ _ hp => hp.2.2) fun _ => .of_imp fun _ =>
    .bind (hread _) fun serverId => .bind (require fun _ _ _ hp => hp.1.2.2) fun _ =>
    .of_imp fun hsid => ?_
  obtain ⟨y, rfl⟩ : ∃ y, serverId = some y := Option.ne_none_iff_exists'.1 hsid.1
  dsimp only [Option.getD_some]
  have hR : (exitProtocol key operationId).Stable fun x => Found key operationId st previous x ∧
      x.1.inflight = [] ∧ x.1.lb.routes.get? key = some y := stable_found.and stable_routed
  refine .bind (Q := fun _ x => Found key operationId st previous x ∧ x.1.inflight = [] ∧
    x.1.lb.routes.get? key = some y) ?_ fun active => ?_
  · exact conseq (readRpc hR 2) (fun _ _ _ hp => ⟨hp.1, hp.2.1, hp.2.2.symm⟩)
      (fun _ _ _ _ hq => hq.1) fun _ _ _ _ he => he.1.2.2
  refine .bind (require fun _ _ _ hp => hp.1.2.2) fun _ => .of_imp fun _ =>
    .bind (Q := fun _ x => Found key operationId st previous x ∧ x.1.inflight = [] ∧
      x.1.lb.routes.get? key = some y) (peek hR (fun _ _ _ _ hp _ => hp)
      fun _ _ _ _ hp _ => hp.1.2.2) fun r => ?_
  refine .bind (Q := fun _ x => (x.1.rollouter.pendingOperationTargets.get? operationId = some key ∧
    x.1.lb.routes.get? key = some y) ∧ Issued operationId x) ?_ fun _ => ?_
  · unfold TaskProg.when
    split
    · rename_i hact
      subst hact
      exact conseq enterDraining (fun _ _ _ hp => ⟨hp.1.1, hp.1.2.2, hp.2⟩)
        (fun _ _ _ _ hq => hq) fun _ _ _ _ he => he
    · rename_i hact
      obtain ⟨-, rfl⟩ := hst.resolve_left hact
      exact .ret fun _ _ _ hp => ⟨⟨hp.1.2.1, hp.2.2⟩, hp.1.2.2⟩
  refine .bind beginDrainOnce fun z => .bind (require fun _ _ _ hp => hp.2) fun _ =>
    .of_imp fun hz => ?_
  subst hz
  exact .bind recoverForce fun v => awaitHandoff

theorem prepareExit : ExitTriple key operationId (Issued operationId)
    (Rollouter.prepareExit d key operationId true)
    (fun _ x => ExitAccounted key operationId x.1 x.2 ∧ Issued operationId x)
    fun _ => Issued operationId := by
  refine .bind (Q := fun p x => x.1.manager.replicaState.get? key = some p.2 ∧ Issued operationId x)
    (peek stable_issued (fun _ _ _ _ hp hm => ⟨(LLMServerManager.replicaMeta_ok.1 hm).2, hp⟩)
      fun _ _ _ _ hp _ => hp) ?_
  rintro ⟨kind, st⟩
  refine .bind (Q := fun previous => Found key operationId st previous)
    (peek ((stable_manager fun m => m.replicaState.get? key = some st).and stable_issued)
      (fun s h previous _ hp hm => ⟨hp.1, ?_, hp.2⟩) fun _ _ _ _ hp _ => hp.2) fun previous => ?_
  · cases hc : checkBinding s operationId key with
    | error e =>
      rw [hc] at hm
      cases hm
    | ok =>
      rw [hc] at hm
      cases hm
      rfl
  refine .bind prepareForceExit fun _ => call (stable_ready.and stable_issued) ?_
  rintro s h o hi hp
  exact ⟨rfl, hi, fun _ _ => hp, fun _ _ => hp.2⟩

end ExitTriple

/-! ## Whole runs -/

namespace ForceExit

/-- What holds of the operation, and of what is left of its call. -/
structure Holds (key : ReplicaKey) (operationId : String) (s : ForceExit) : Prop where
  inv : ExitInv key operationId s.task s.history
  call : match s.call with
    | none => Issued operationId (s.task, s.history)
    | some p => (exitProtocol key operationId).Safe (p.withHistory (ExitHistory.next key))
        (fun _ x => ExitAccounted key operationId x.1 x.2 ∧ Issued operationId x)
        (fun _ => Issued operationId) (s.task, s.history)

theorem Holds.issued {s : ForceExit} (hs : s.Holds key operationId) (hi : s.Idle) :
    Issued operationId (s.task, s.history) := by
  obtain ⟨-, hc⟩ := hs
  unfold Idle at hi
  cases hp : s.call with
  | none => rwa [hp] at hc
  | some p =>
    rw [hp] at hi hc
    cases p with
    | ret a => exact hc.2
    | err e => exact hc
    | step tag ready act next => exact hi.elim

theorem holds_init {s : ForceExit} (hs : Starts key operationId s) : s.Holds key operationId where
  inv :=
    { handoffs := nodup_handoffs hs.router operationId
      left := by
        rw [hs.history]
        exact decide_eq_true_iff
      unbound := fun _ => ⟨hs.undrained, hs.uncalled, hs.unrecorded⟩
      bound := fun k hk => by
        rw [hs.unbound] at hk
        cases hk
      once := by
        rw [hs.history]
        exact Nat.zero_le 1
      fresh := fun _ => by rw [hs.history]
      recovered := fun admitted n hn => by
        rw [hs.unrecorded] at hn
        cases hn }
  call := by
    rw [hs.call]
    exact fun hne => (hne hs.unrecorded).elim

theorem Holds.step {s s' : ForceExit} {l : ExitLabel} (hs : s.Holds key operationId)
    (hl : ForceExit.step d key operationId s l = some s') : s'.Holds key operationId := by
  cases l with
  | prepare =>
    simp only [ForceExit.step] at hl
    split at hl
    · cases hl
      exact ⟨hs.inv, ExitTriple.prepareExit _ hs.inv (hs.issued ‹_›)⟩
    · cases hl
  | work o =>
    simp only [ForceExit.step] at hl
    split at hl
    · rename_i tag ready act next hp
      split at hl
      · cases hl
        have hc := hs.call
        rw [hp] at hc
        obtain ⟨-, hstep⟩ := hc (s.task, s.history) ⟨.refl, rfl⟩ hs.inv
        obtain ⟨hi, hnext⟩ := hstep o ‹_› trivial
        exact ⟨hi, hnext⟩
      · cases hl
    · cases hl
  | environment e =>
    simp only [ForceExit.step] at hl
    split at hl
    · obtain ⟨t, ht, rfl⟩ := Option.map_eq_some_iff.1 hl
      have hr : ExitRely operationId (s.task, s.history) (t, s.history) :=
        ⟨.single ⟨e, ‹_›, ht⟩, rfl⟩
      have hi : ExitInv key operationId t s.history := ExitInv.rely (s := (_, _)) hs.inv hr
      refine ⟨hi, ?_⟩
      have hc := hs.call
      dsimp only
      split at hc
      · exact stable_issued (s.task, s.history) (t, s.history) hs.inv hc hr hi
      · rename_i p hp
        cases p with
        | ret a =>
          exact (stable_ready.and stable_issued) (s.task, s.history) (t, s.history) hs.inv hc hr hi
        | err e => exact stable_issued (s.task, s.history) (t, s.history) hs.inv hc hr hi
        | step tag ready act next => exact hc.rely_step hr
    · cases hl

theorem holds_reachable {P : ForceExit → ExitLabel → ForceExit → Prop} {s : ForceExit}
    (hs : (machine d key operationId).ReachableWhere P s) : s.Holds key operationId :=
  hs.invariant (I := fun s => s.Holds key operationId) (fun _ h => holds_init h)
    fun _ _ _ h hl _ => h.step hl

/-- One abort at most, no way back to ACTIVE, and EXIT_READY accounts for the abort. -/
theorem exit_accounted {s : ForceExit} (hs : (machine d key operationId).Reachable s) :
    s.history.aborts ≤ 1 ∧
    (s.history.left = true → s.task.manager.replicaState.get? key ≠ some .active) ∧
    ∀ ev, s.call = some (.ret ev) → ExitAccounted key operationId s.task s.history := by
  obtain ⟨hi, hc⟩ := holds_reachable hs
  refine ⟨hi.once, hi.left.1, fun ev hev => ?_⟩
  rw [hev] at hc
  exact hc.1

/-- Nothing had been handed off at the abort. -/
theorem confirmed_step {s s' : ForceExit} {l : ExitLabel} (hc : s.history.confirmed = [])
    (hl : ForceExit.step d key operationId s l = some s') (hu : s.Unconfirmed l) :
    s'.history.confirmed = [] := by
  cases l with
  | prepare =>
    simp only [ForceExit.step] at hl
    split at hl <;> cases hl
    exact hc
  | work o =>
    simp only [ForceExit.step] at hl
    split at hl
    · rename_i tag ready act next hp
      split at hl <;> cases hl
      cases tag with
      | abort o' =>
        refine hu o' ?_
        unfold aborting
        rw [hp]
        rfl
      | _ => exact hc
    · cases hl
  | environment e =>
    simp only [ForceExit.step] at hl
    split at hl
    · obtain ⟨t, -, rfl⟩ := Option.map_eq_some_iff.1 hl
      exact hc
    · cases hl

/-- As long as no recorded request has been handed off when the abort is issued, EXIT_READY says that
the aborted requests have been handed off. -/
theorem force_exit_ready {s : ForceExit}
    (hs : (machine d key operationId).ReachableWhere (fun s l _ => s.Unconfirmed l) s) :
    s.history.aborts ≤ 1 ∧
    (s.history.left = true → s.task.manager.replicaState.get? key ≠ some .active) ∧
    ∀ ev, s.call = some (.ret ev) → ExitReady key operationId s.task s.history := by
  obtain ⟨hi, hc⟩ := holds_reachable hs
  have hnone : s.history.confirmed = [] :=
    hs.invariant (I := fun s => s.history.confirmed = []) (fun _ h => by rw [h.history])
      fun _ _ _ h hl hu => confirmed_step h hl hu
  refine ⟨hi.once, hi.left.1, fun ev hev => ?_⟩
  rw [hev] at hc
  obtain ⟨y, hy, hpool, hun, ⟨admitted, n⟩, ha, hh⟩ := hc.1
  refine ⟨y, hy, hpool, hun, _, ha, ?_⟩
  cases n with
  | none => exact hh
  | some n =>
    unfold Accounted at hh
    rwa [hnone] at hh

/-! ## A target to leave -/

section Fixture

open TaskSystem (deployment fine start nativeKey0)
open GroupScheduler (borrowerKey)

/-- A borrowed replica serves next to the native one. -/
def serving : ForceExit where
  task := { start.state with
    manager := { start.state.manager with
      replicaState := start.state.manager.replicaState.insert borrowerKey .active
      replicaKind := start.state.manager.replicaKind.insert borrowerKey .borrowed
      runtimeInventory := start.state.manager.runtimeInventory.insert borrowerKey
        ⟨1, .borrowed, "b0", ⟨"node", "pg", "g1"⟩⟩ }
    lb := .init (Dict.insert (Dict.insert ∅ "a0" 0) "b0" 1)
      (Dict.insert (Dict.insert ∅ nativeKey0 "a0") borrowerKey "b0")
    world := fun _ => ⟨true, true, .awake, false, some 0, true, true, true, false⟩ }
  history := ⟨0, [], [], false⟩
  call := none

theorem starts_serving : Starts borrowerKey "f1" serving where
  call := rfl
  history := by decide +kernel
  unbound := rfl
  unrecorded := rfl
  undrained := nofun
  uncalled := nofun
  router := by
    refine ⟨_, ⟨Dict.insert (Dict.insert ∅ "a0" 0) "b0" 1,
      Dict.insert (Dict.insert ∅ nativeKey0 "a0") borrowerKey "b0", 10000, fun k x hx => ?_, rfl⟩, .refl _⟩
    rw [Dict.get?_insert, Dict.get?_insert] at hx
    split at hx
    · cases hx
      decide +kernel
    split at hx
    · cases hx
      decide +kernel
    · cases hx

/-- Two requests run on the borrowed server; the exit records them. -/
def recording : List ExitLabel :=
  [.environment (.acquireServer "r1" "b0"), .environment (.acquireServer "r2" "b0"), .prepare] ++
    List.replicate 12 (.work fine)

/-- The abort reports some requests. -/
def aborts (n : Nat) : ExitLabel := .work { fine with aborted := some n }

/-- A client hands its request over. -/
def confirms (r : String) : ExitLabel := .environment (.confirmContinuation 0 r "client" "digest")

/-- Both requests are aborted and handed over. -/
def handingOver : List ExitLabel :=
  recording ++ [aborts 2, .work fine, confirms "r1", confirms "r2", .work fine, .work fine, .work fine]

/-- `r1` is handed over before the abort, `r2` is aborted and given up. -/
def givingUp : List ExitLabel :=
  recording ++ [confirms "r1", aborts 1, .work fine, .environment (.releaseServer "b0" "r2"),
    .work fine, .work fine, .work fine]

def stepAt (s : ForceExit) (l : ExitLabel) : Option ForceExit :=
  ForceExit.step deployment borrowerKey "f1" s l

/-- A run that stops before an abort that comes after a handoff. -/
def carefulStep (s : ForceExit) (l : ExitLabel) : Option ForceExit :=
  if s.Unconfirmed l then s.stepAt l else none

/-- EXIT_READY has been returned. -/
def exited (s : ForceExit) : Bool := match s.call with
  | some (.ret ev) => ev.type = .exitReady
  | _ => false

theorem exited_eq {s : ForceExit} (h : s.exited = true) :
    ∃ ev, s.call = some (.ret ev) ∧ ev.type = .exitReady := by
  unfold exited at h
  split at h
  · exact ⟨_, ‹_›, of_decide_eq_true h⟩
  · cases h

theorem force_exit_ready_handed : ∃ s, handingOver.foldlM carefulStep serving = some s ∧
    s.exited = true ∧ ExitReady borrowerKey "f1" s.task s.history := by
  have hend : (handingOver.foldlM carefulStep serving).any exited = true := by decide +kernel
  obtain ⟨s, hs, hex⟩ := (Option.any_eq_true _ _).1 hend
  obtain ⟨ev, hev, -⟩ := exited_eq hex
  have hreach : (machine deployment borrowerKey "f1").ReachableWhere
      (fun s l _ => s.Unconfirmed l) s := by
    refine Machine.ReachableWhere.steps (fun h => ?_) ⟨serving, starts_serving, .refl _⟩ hs
    unfold carefulStep at h
    split at h
    · exact ⟨h, ‹_›⟩
    · cases h
  exact ⟨s, hs, hex, (force_exit_ready hreach).2.2 ev hev⟩

/-- The request that was ADMITTED at the abort has not been handed off, the one that has been was not
aborted, and EXIT_READY counts it. -/
theorem exit_ready_uncounted : ∃ s ev, (machine deployment borrowerKey "f1").Reachable s ∧
    s.call = some (.ret ev) ∧ ev.type = .exitReady ∧
    s.history.boundary = ["r2"] ∧ s.task.lb.handoffs "f1" = ["r1"] ∧
    ¬ ExitReady borrowerKey "f1" s.task s.history := by
  have hend : (givingUp.foldlM stepAt serving).any (fun s => decide (s.exited = true ∧
      s.history.boundary = ["r2"] ∧ s.task.lb.handoffs "f1" = ["r1"] ∧
      s.task.rollouter.forceExitRecovery.get? "f1" = some (["r1", "r2"], some 1))) = true := by
    decide +kernel
  obtain ⟨s, hs, hc⟩ := (Option.any_eq_true _ _).1 hend
  obtain ⟨hex, hb, hh, hrec⟩ := of_decide_eq_true hc
  obtain ⟨ev, hev, htype⟩ := exited_eq hex
  refine ⟨s, ev, Machine.ReachableWhere.steps (fun h => ⟨h, trivial⟩)
    ⟨serving, starts_serving, .refl _⟩ hs, hev, htype, hb, hh, ?_⟩
  rintro ⟨y, -, -, -, v, ⟨hv, -⟩, hn⟩
  cases hrec.symm.trans hv
  simp [HandedOff, hb, hh] at hn

end Fixture

end ForceExit

end ReplicaLending
