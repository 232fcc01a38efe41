import ReplicaLending.Task.Effects
/-!
# What the rest of the task keeps

Requests, late calls, answers of the GroupScheduler, native synchronisations and the clean-up of
resolved operations, one after the other: each keeps the invariant, and each leaves the thread of the
unfinished operation what it may count on.
-/

namespace ReplicaLending

open TaskState GlobalRequestLoadBalancer CheckpointEngineManager

variable {d : Deployment} {strict : Prop} {c : OperationCommand} {s t : TaskState}

/-! ## Requests -/

/-- Requests come and go: the routing tables stay, and whoever is admitted is on a routed server. -/
theorem Inv.setLb (h : Inv d strict s) {lb : GlobalRequestLoadBalancer} (hs : SameRouting s.lb lb)
    (ha : ∀ r, lb.attemptState.get? r = some .admitted → ∃ x k,
      lb.activeRequestServer.get? r = some x ∧ s.lb.routes.get? k = some x) :
    Inv d strict { s with lb := lb } := by
  have hrouted := h.routed.same hs ha
  obtain ⟨hsv, hrt, hrd, -⟩ := hs
  exact { h with
    routed := hrouted
    publishing := by
      intro c hc hx hst
      have hp := h.publishing hc hx hst
      refine ⟨?_, hp.unlisted⟩
      rw [hrt, hsv, hrd]
      exact hp.route
    reported := by
      refine ⟨h.reported.outbox, fun hc hx hr => ?_⟩
      have hg := h.reported.gone hc hx hr
      exact ⟨hg.closed, hg.member, by rw [hrt]; exact hg.route, hg.runtime⟩ }

theorem admitted_of_still {lb lb' : GlobalRequestLoadBalancer}
    (h : ∀ r, lb.attemptState.get? r = some .admitted → ∃ x k,
      lb.activeRequestServer.get? r = some x ∧ lb.routes.get? k = some x)
    (hs : StillAdmitted lb lb') : ∀ r, lb'.attemptState.get? r = some .admitted → ∃ x k,
      lb'.activeRequestServer.get? r = some x ∧ lb.routes.get? k = some x := by
  intro r hr
  obtain ⟨hr', ha⟩ := hs r hr
  obtain ⟨x, k, hx, hk⟩ := h r hr'
  exact ⟨x, k, ha.trans hx, hk⟩

theorem stillAdmitted_release (lb : GlobalRequestLoadBalancer) (x r : String) :
    StillAdmitted lb (lb.releaseServer x r).2 := by
  by_cases hr : r = ""
  · unfold releaseServer
    rw [if_pos hr]
    exact fun _ h => ⟨h, rfl⟩
  rw [releaseServer_eq hr]
  split
  · intro j hj
    obtain ⟨hj, ha⟩ := stillAdmitted_gc j hj
    rw [show (lb.settle r).attemptState.get? j = _ from Dict.get?_insert _ _ _ _] at hj
    split at hj
    · cases hj
    · rename_i hne
      refine ⟨hj, ha.trans ?_⟩
      rw [show (lb.settle r).activeRequestServer.get? j = _ from Dict.get?_erase _ _ _, if_neg hne]
  · exact fun _ h => ⟨h, rfl⟩

theorem stillAdmitted_confirm (lb : GlobalRequestLoadBalancer) (now : Nat) (r q p : String) :
    StillAdmitted lb (lb.confirmContinuation now r q p).2 := by
  rcases confirmContinuation_eq lb r now q p with hs | ⟨-, hst, hact, -⟩
  · exact hs.stillAdmitted
  · intro j hj
    rw [hst, Dict.get?_insert] at hj
    split at hj
    · cases hj
    · exact ⟨hj, by rw [hact]⟩

/-- A new request goes to a server of the pool, hence to a routed one. -/
theorem admitted_acquire (h : Inv d strict s) (r pick : String) :
    ∀ j, (s.lb.acquireServer r pick).2.attemptState.get? j = some .admitted → ∃ x k,
      (s.lb.acquireServer r pick).2.activeRequestServer.get? j = some x ∧
        s.lb.routes.get? k = some x := by
  cases hacq : s.lb.acquireServer r pick with
  | mk res lb =>
    cases res with
    | error e =>
      rw [acquireServer_error hacq]
      exact fun j hj => h.routed.admitted hj
    | ok p =>
      obtain ⟨-, hp, hpool, hact, hst, -⟩ := acquireServer_ok hacq
      intro j hj
      dsimp only at hj ⊢
      rw [hst, Dict.get?_insert] at hj
      rw [hact, Dict.get?_insert]
      split at hj
      · rename_i hrj
        obtain ⟨k, hk, -⟩ := h.routed.pool hpool
        exact ⟨pick, k, by rw [if_pos hrj], hk⟩
      · rename_i hrj
        rw [if_neg hrj]
        exact h.routed.admitted hj

/-! ## Native synchronisation -/

/-- Versions are no part of the invariant. -/
theorem Inv.reload (h : Inv d strict s) (ce : CheckpointEngineManager) {w : Nat → Server}
    (hw : ∀ n, (w n).unversioned = (s.world n).unversioned)
    (hm : ∀ k, ce.members k = s.ce.members k) (hp : ce.pending = s.ce.pending)
    (hr : ce.ready = s.ce.ready) (hrs : ce.replicas = s.ce.replicas) :
    Inv d strict { s with world := w, ce := ce } := by
  have hpark : ∀ {k}, Parked s.manager s.ce k → Parked s.manager ce k := by
    rintro k ⟨r, o, hi, hpend, hmem, hrd⟩
    exact ⟨r, o, hi, by rw [hp]; exact hpend, by rw [hm]; exact hmem, by rw [hr]; exact hrd⟩
  exact { h with
    wired := h.wired.congr hm (fun he => by rw [← hp]; exact he) hrs
    routed := { h.routed with
      pool := fun hx => by
        obtain ⟨k, hk, hmem⟩ := h.routed.pool hx
        exact ⟨k, hk, by rw [hm]; exact hmem⟩ }
    parking := by
      refine ⟨fun hk => (h.parking.dormant hk).imp_left hpark, fun hn hk hmem => ?_, ?_⟩
      · rw [hm] at hmem
        exact (h.parking.draining hn hk hmem).imp_left hpark
      · rw [hp]; exact h.parking.hidden
    reported := by
      refine ⟨h.reported.outbox, fun hc hx hrec => ?_⟩
      have hg := h.reported.gone hc hx hrec
      obtain ⟨a, n, hof, hv, hrest⟩ := hg.runtime
      exact ⟨hg.closed, by rw [hm]; exact hg.member, hg.route, a, n, hof, hv.congr (hw n).symm,
        hrest⟩
    serving := by
      intro hs
      have hv := h.serving hs
      constructor
      case state => intro k; rw [hm]; exact hv.state
      case awake => intro k r; rw [hm, Server.awake_congr (hw _)]; exact hv.awake
      case built => intro k r; rw [Server.weights_congr (hw _)]; exact hv.built
      case receipt => intro k; rw [hm, hr]; exact hv.receipt
      case known => intro k; rw [hr]; exact hv.known
      case leaving => exact hv.leaving
      case gone => intro k; rw [hm, hr]; exact hv.gone }

theorem unversioned_loadRanks (ranks : List Nat) (v n : Nat) :
    (s.loadRanks ranks v n).unversioned = (s.world n).unversioned := by
  unfold TaskState.loadRanks
  split <;> rfl

/-- The unfinished operation has no thread that is clearing up. -/
theorem Inv.cur_not_closing (h : Inv d strict s) (hc : Cur d c s) {cl : Closing}
    (hcl : cl ∈ s.closing) (ho : cl.operationId = c.operationId) : False := by
  obtain ⟨-, -, r, hr, hres⟩ := h.cur_command hc
  obtain ⟨r', hr', hres'⟩ := h.closing cl hcl
  rw [ho, hr] at hr'
  cases hr'
  rw [hres] at hres'
  cases hres'

/-! ## The steps -/

theorem Inv.environment (h : Inv d strict s) {e : Environment} (he : s.environment e = some t) :
    Inv d strict t := by
  cases e with
  | acquireServer r pick =>
    cases he
    exact h.setLb (sameRouting_acquire _ _ _) (admitted_acquire h r pick)
  | releaseServer x r =>
    cases he
    exact h.setLb sameRouting_release
      (admitted_of_still (fun _ => h.routed.admitted) (stillAdmitted_release _ _ _))
  | confirmContinuation now r q p =>
    cases he
    exact h.setLb sameRouting_confirm
      (admitted_of_still (fun _ => h.routed.admitted) (stillAdmitted_confirm _ _ _ _ _))
  | deliver now =>
    unfold TaskState.environment at he
    cases hi : s.inflight with
    | nil => simp [hi] at he
    | cons call cs =>
      simp only [hi] at he
      cases he
      obtain ⟨c, hc, hcall⟩ := h.late hi
      exact h.exec hc hcall now (by rw [hi]; exact List.subset_cons_self _ _)
  | schedulerAnswers result =>
    unfold TaskState.environment at he
    cases ho : s.outbox with
    | nil => simp [ho] at he
    | cons e es =>
      simp only [ho] at he
      cases he
      have hsub : es ⊆ s.outbox := by rw [ho]; exact List.subset_cons_self _ _
      exact { h with
        reported := ⟨fun hm => h.reported.outbox (hsub hm), h.reported.gone⟩
        sent := fun e he => h.sent e (hsub he) }
  | nativeSyncStarts now =>
    simp only [TaskState.environment] at he
    split at he
    · cases he
    rename_i hfree
    simp only [not_or, Bool.not_eq_true, Option.isSome_eq_false_iff, Option.isNone_iff_eq_none,
      Bool.not_eq_false] at hfree
    split at he
    · cases he
    have hlock : s.gate.lock.locked = false := AsyncLock.locked_of_free hfree.2
    rcases Option.eq_none_or_eq_some s.gate.blockedReason with hb | ⟨reason, hb⟩
    · rw [ReplicaSyncGate.acquireTail_healthy (g := { s.gate with lock := s.gate.lock.take }) hb] at he
      cases he
      refine h.regate ⟨h.gate.waiters, fun hl => (by cases hl), fun how => ?_⟩ ?_ ?_
      · cases how
        exact ⟨rfl, rfl, hb⟩
      · intro c _ hh
        rw [hh.1] at hlock; cases hlock
      · rintro c - - (hh | hf)
        · rw [hh.1] at hlock; cases hlock
        · rw [Fenced, hb] at hf; cases hf.1
    · rw [ReplicaSyncGate.acquireTail_blocked (g := { s.gate with lock := s.gate.lock.take }) hb] at he
      cases he
  | nativeSyncEnds =>
    unfold TaskState.environment at he
    cases hn : s.nativeSync with
    | none => simp [hn] at he
    | some owner =>
      simp only [hn] at he
      cases he
      obtain ⟨hown, hl, hb⟩ := h.gate.native hn
      have hrel : (s.gate.release owner).2 =
          { s.gate with owner := none, lock := s.gate.lock.release } := by
        unfold ReplicaSyncGate.release
        rw [if_pos ⟨hown, hl⟩]
      have hwait : s.gate.lock.release.waiters = [] := by rw [h.gate.lock_release hl]
      have hregate := h.regate (g := (s.gate.release owner).2) (n := none)
        ⟨by rw [hrel]; exact hwait, fun _ => by rw [hrel], fun how => (by cases how)⟩
        (fun c _ hh => by rw [hn] at hh; cases hh.2.1) (by
          rintro c - - (hh | hf)
          · rw [hn] at hh; cases hh.2.1
          · rw [Fenced, hb] at hf; cases hf.1)
      exact hregate.reload _ (unversioned_loadRanks _ _) (fun _ => members_markAll) rfl rfl rfl
  | nativeSyncFails loaded reason =>
    unfold TaskState.environment at he
    cases hn : s.nativeSync with
    | none => simp [hn] at he
    | some owner =>
      simp only [hn] at he
      split at he
      · cases he
      rename_i hreason
      cases he
      obtain ⟨hown, hl, hb⟩ := h.gate.native hn
      have hblock : (s.gate.block owner reason).2 = { s.gate with
          blockedReason := some reason, blockedOperationId := some owner.operationId } := by
        unfold ReplicaSyncGate.block
        rw [if_neg (not_not.2 ⟨hown, hl⟩), if_neg hreason]
      have hrel : ((s.gate.block owner reason).2.release owner).2 = { s.gate with
          blockedReason := some reason, blockedOperationId := some owner.operationId
          owner := none, lock := s.gate.lock.release } := by
        rw [hblock]
        unfold ReplicaSyncGate.release
        rw [if_pos ⟨hown, hl⟩]
      have hwait : s.gate.lock.release.waiters = [] := by rw [h.gate.lock_release hl]
      have hregate := h.regate (g := ((s.gate.block owner reason).2.release owner).2) (n := none)
        ⟨by rw [hrel]; exact hwait, fun _ => by rw [hrel], fun how => (by cases how)⟩
        (fun c _ hh => by rw [hn] at hh; cases hh.2.1) (by
          rintro c - - (hh | hf)
          · rw [hn] at hh; cases hh.2.1
          · rw [Fenced, hb] at hf; cases hf.1)
      exact hregate.reload s.ce (unversioned_loadRanks _ _) (fun _ => rfl) rfl rfl rfl
  | versionAdvances => cases he; exact { h with }
  | clearBinding o fault =>
    simp only [TaskState.environment] at he
    split at he
    · cases he
    rename_i cl hfind
    have hcl := List.find?_some hfind
    have hmem := List.mem_of_find?_eq_some hfind
    simp only [decide_eq_true_eq] at hcl
    cases he
    have hclosing : Inv d strict { s with
        closing := ⟨o, if fault = .none then 0 else cl.clears - 1⟩ ::
          (s.closing.filter fun c => c.operationId ≠ o) } := by
      refine { h with closing := fun c' hc' => ?_ }
      rcases List.mem_cons.1 hc' with rfl | hc'
      · rw [← hcl.1]; exact h.closing cl hmem
      · exact h.closing c' (List.mem_filter.1 hc').1
    split
    · exact hclosing
    · refine hclosing.unbind (fun hb => ?_) fun c hc => .inl ?_
      · rw [Dict.get?_erase] at hb
        split at hb
        · cases hb
        · exact hb
      · rw [Dict.get?_erase, if_neg]
        rintro rfl
        exact h.cur_not_closing hc hmem hcl.1
  | threadEnds o =>
    simp only [TaskState.environment] at he
    split at he
    · cases he
      refine { h with
        closing := fun c hc => h.closing c (List.mem_filter.1 hc).1
        leases := fun {o' l} hl => ?_ }
      rw [Dict.get?_erase] at hl
      split at hl
      · cases hl
      · exact h.leases hl
    · cases he

/-! ## What the thread may count on -/

theorem Rely.of_gate {o : String} (hv : t.view o = s.view o) (hg : Latched s → False)
    (hr : t.inflight = s.inflight ∧ t.lb = s.lb) (ho : t.outbox = s.outbox) : Rely o s t where
  view := hv
  gate := fun h => (hg h).elim
  router := fun h => ⟨hr.1.trans h, by rw [hr.2]; exact .refl _⟩
  outbox := by rw [ho]; exact List.Subset.refl _

theorem view_reload {o : String} (ce : CheckpointEngineManager) {w : Nat → Server}
    {g : ReplicaSyncGate} {n : Option GateOwner}
    (hw : ∀ n, (w n).unversioned = (s.world n).unversioned)
    (hm : ∀ k, ce.members k = s.ce.members k) (hp : ce.pending = s.ce.pending)
    (hr : ce.ready = s.ce.ready) (hrs : ce.replicas = s.ce.replicas) :
    ({ s with world := w, ce := ce, gate := g, nativeSync := n } : TaskState).view o = s.view o := by
  simp only [TaskState.view, View.mk.injEq, true_and, and_true]
  exact ⟨hp, hr, hrs, funext hm, funext hw⟩

theorem Rely.environment (h : Inv d strict s) (hc : Cur d c s) {e : Environment}
    (he : s.environment e = some t) : Rely c.operationId s t := by
  cases e with
  | acquireServer r pick =>
    cases he
    exact ⟨rfl, fun h => ⟨rfl, h.1⟩, fun h => ⟨h, sameRouting_acquire _ _ _⟩, List.Subset.refl _⟩
  | releaseServer x r =>
    cases he
    exact ⟨rfl, fun h => ⟨rfl, h.1⟩, fun h => ⟨h, sameRouting_release⟩, List.Subset.refl _⟩
  | confirmContinuation now r q p =>
    cases he
    exact ⟨rfl, fun h => ⟨rfl, h.1⟩, fun h => ⟨h, sameRouting_confirm⟩, List.Subset.refl _⟩
  | deliver now =>
    unfold TaskState.environment at he
    cases hi : s.inflight with
    | nil => simp [hi] at he
    | cons call cs =>
      simp only [hi] at he
      cases he
      exact ⟨rfl, fun h => ⟨rfl, h.1⟩, fun h => (by rw [hi] at h; cases h), List.Subset.refl _⟩
  | schedulerAnswers result =>
    unfold TaskState.environment at he
    cases ho : s.outbox with
    | nil => simp [ho] at he
    | cons e es =>
      simp only [ho] at he
      cases he
      refine ⟨rfl, fun h => ⟨rfl, h.1⟩, fun h => ⟨h, .refl _⟩, ?_⟩
      rw [ho]
      exact List.subset_cons_self _ _
  | nativeSyncStarts now =>
    simp only [TaskState.environment] at he
    split at he
    · cases he
    rename_i hfree
    simp only [not_or, Bool.not_eq_true, Option.isSome_eq_false_iff, Option.isNone_iff_eq_none,
      Bool.not_eq_false] at hfree
    split at he
    · cases he
    have hlock : s.gate.lock.locked = false := AsyncLock.locked_of_free hfree.2
    rcases Option.eq_none_or_eq_some s.gate.blockedReason with hb | ⟨reason, hb⟩
    · rw [ReplicaSyncGate.acquireTail_healthy (g := { s.gate with lock := s.gate.lock.take }) hb] at he
      cases he
      refine .of_gate rfl ?_ ⟨rfl, rfl⟩ rfl
      rintro ⟨-, hl | hbl⟩
      · rw [hlock] at hl; cases hl
      · rw [hb] at hbl; cases hbl
    · rw [ReplicaSyncGate.acquireTail_blocked (g := { s.gate with lock := s.gate.lock.take }) hb] at he
      cases he
  | nativeSyncEnds =>
    unfold TaskState.environment at he
    cases hn : s.nativeSync with
    | none => simp [hn] at he
    | some owner =>
      simp only [hn] at he
      cases he
      refine .of_gate (view_reload _ (unversioned_loadRanks _ _) (fun _ => members_markAll) rfl rfl rfl)
        (fun hl => ?_) ⟨rfl, rfl⟩ rfl
      rw [hl.1] at hn; cases hn
  | nativeSyncFails loaded reason =>
    unfold TaskState.environment at he
    cases hn : s.nativeSync with
    | none => simp [hn] at he
    | some owner =>
      simp only [hn] at he
      split at he
      · cases he
      cases he
      refine .of_gate (view_reload s.ce (unversioned_loadRanks _ _) (fun _ => rfl) rfl rfl rfl)
        (fun hl => ?_) ⟨rfl, rfl⟩ rfl
      rw [hl.1] at hn; cases hn
  | versionAdvances =>
    cases he
    exact ⟨rfl, fun h => ⟨rfl, h.1⟩, fun h => ⟨h, .refl _⟩, List.Subset.refl _⟩
  | clearBinding o fault =>
    simp only [TaskState.environment] at he
    split at he
    · cases he
    rename_i cl hfind
    have hcl := List.find?_some hfind
    have hmem := List.mem_of_find?_eq_some hfind
    simp only [decide_eq_true_eq] at hcl
    cases he
    have hne : o ≠ c.operationId := by
      rintro rfl
      exact h.cur_not_closing hc hmem hcl.1
    split
    · exact ⟨rfl, fun h => ⟨rfl, h.1⟩, fun h => ⟨h, .refl _⟩, List.Subset.refl _⟩
    · refine ⟨?_, fun h => ⟨rfl, h.1⟩, fun h => ⟨h, .refl _⟩, List.Subset.refl _⟩
      simp only [TaskState.view, Rollouter.clearOperationBinding, View.mk.injEq, and_true, true_and]
      exact ⟨Dict.get?_erase_ne _ hne, Dict.get?_erase_ne _ hne⟩
  | threadEnds o =>
    simp only [TaskState.environment] at he
    split at he
    · cases he
      exact ⟨rfl, fun h => ⟨rfl, h.1⟩, fun h => ⟨h, .refl _⟩, List.Subset.refl _⟩
    · cases he

end ReplicaLending
