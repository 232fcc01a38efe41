import ReplicaLending.Task.Routing
/-!
# What the thread's own steps keep

One lemma for each thing a step of the lifecycle thread writes: the bindings, the runtimes, the tables
of the checkpoint engine, the Manager's ledger and its service lists. All of them touch the target of
the unfinished operation only; each asks for just those facts about the target that the parts of the
invariant need.
-/

namespace ReplicaLending

open TaskState CheckpointEngineManager

variable {d : Deployment} {strict : Prop} {c : OperationCommand} {s : TaskState}

theorem Cur.eq {c' : OperationCommand} (hc : Cur d c s) (hc' : Cur d c' s) : c = c' :=
  Option.some.inj (hc.symm.trans hc')

theorem AtWork.eq {k : ReplicaKey} (hc : Cur d c s)
    (hw : AtWork s.gate s.nativeSync (s.journal.current d.taskSession) k) :
    c.kind.exits = false ∧ c.target = k ∧ Guarded s.gate s.nativeSync c.operationId := by
  obtain ⟨c', hc', hx, hk, hg⟩ := hw
  obtain rfl := hc.eq hc'
  exact ⟨hx, hk, hg⟩

/-! ## Bindings -/

/-- Bindings go, but not the unfinished operation's while something needs it. -/
theorem Inv.unbind (h : Inv d strict s) {t : Dict String ReplicaKey}
    {recovery : Dict String (List String × Option Nat)}
    (hsub : ∀ {o k}, t.get? o = some k → s.rollouter.pendingOperationTargets.get? o = some k)
    (hkeep : ∀ c, Cur d c s →
      t.get? c.operationId = s.rollouter.pendingOperationTargets.get? c.operationId ∨
      Lined s c ∧ (c.kind = .add ∨ s.inflight = [])) :
    Inv d strict { s with rollouter := ⟨t, recovery⟩ } := by
  have hstarted : ∀ {c}, Cur d c s → Started s.manager ⟨t, recovery⟩ c →
      Started s.manager s.rollouter c := by
    intro c _ hst
    unfold Started at hst ⊢
    split at hst
    · exact hst
    · exact hsub hst
  exact { h with
    parking := by
      refine ⟨h.parking.dormant, fun {k} hn hk hm => ?_, h.parking.hidden⟩
      rcases h.parking.draining hn hk hm with hp | ⟨c, hc, rfl, hh, hb⟩
      · exact .inl hp
      · rcases hkeep c hc with he | ⟨hl, -⟩
        · exact .inr ⟨c, hc, rfl, hh, he.trans hb⟩
        · exact .inl (hl hn hk hm)
    publishing := fun hc hx hst => h.publishing hc hx (hstarted hc hst)
    inFlight := by
      intro hne
      obtain ⟨c, hc, hcalls, hrest⟩ := h.inFlight hne
      refine ⟨c, hc, hcalls, ?_⟩
      rcases hkeep c hc with he | ⟨-, ha | hnil⟩
      · split at hrest
        · rename_i hx
          rw [if_pos hx]
          exact he.trans hrest
        · rename_i hx
          rw [if_neg hx]
          refine ⟨?_, hrest.2⟩
          have hst := hrest.1
          unfold Started at hst ⊢
          split at hst
          · exact hst
          · exact he.trans hst
      · simp only [ha, OperationKind.exits, Bool.false_eq_true, if_false] at hrest ⊢
        refine ⟨?_, hrest.2⟩
        have hst := hrest.1
        simp only [Started, ha] at hst ⊢
        exact hst
      · exact absurd hnil hne
    bindings := ⟨fun hb => h.bindings.target (hsub hb), fun hc hx hb =>
      h.bindings.exit hc hx (hsub hb)⟩
    serving := fun hs => { h.serving hs with
      leaving := fun hc hx hst hk => (h.serving hs).leaving hc hx (hstarted hc hst) hk } }

theorem Inv.setRecovery (h : Inv d strict s)
    (recovery : Dict String (List String × Option Nat)) :
    Inv d strict { s with rollouter := { s.rollouter with forceExitRecovery := recovery } } :=
  h.unbind (fun hb => hb) fun _ _ => .inl rfl

/-- The unfinished operation is bound to its target. -/
theorem Inv.bind (h : Inv d strict s) (hc : Cur d c s)
    (hexit : c.kind.exits = true → s.manager.replicaState.get? c.target = some .draining ∨
      s.manager.replicaState.get? c.target = some .quarantined)
    (hrestore : c.kind = .restore →
      Publication s.manager s.lb c ∧
      (strict → s.manager.replicaState.get? c.target = some .draining →
        Guarded s.gate s.nativeSync c.operationId)) :
    Inv d strict (Rollouter.bindTarget s c.operationId c.target) := by
  have hget : ∀ o, (Rollouter.bindTarget s c.operationId c.target).rollouter.pendingOperationTargets.get?
      o = if c.operationId = o then some c.target else
        s.rollouter.pendingOperationTargets.get? o := fun o => Dict.get?_insert _ _ _ _
  have hstarted : Started s.manager
      (Rollouter.bindTarget s c.operationId c.target).rollouter c → c.kind.exits = false →
      c.kind = .restore ∨ Started s.manager s.rollouter c := by
    intro hst hx
    unfold Started at hst ⊢
    cases hk : c.kind with
    | add => simp only [hk] at hst; exact .inr hst
    | restore => exact .inl rfl
    | donate => rw [hk] at hx; cases hx
    | remove => rw [hk] at hx; cases hx
  exact { h with
    parking := by
      refine ⟨h.parking.dormant, fun {k} hn hk hm => ?_, h.parking.hidden⟩
      rcases h.parking.draining hn hk hm with hp | ⟨c', hc', rfl, hh, hb⟩
      · exact .inl hp
      · obtain rfl := hc.eq hc'
        exact .inr ⟨c, hc, rfl, hh, by rw [hget, if_pos rfl]⟩
    publishing := by
      intro c' hc' hx hst
      obtain rfl := hc.eq hc'
      rcases hstarted hst hx with hr | hst
      · exact (hrestore hr).1
      · exact h.publishing hc hx hst
    inFlight := by
      intro hne
      obtain ⟨c', hc', hcalls, hrest⟩ := h.inFlight hne
      obtain rfl := hc.eq hc'
      refine ⟨c, hc, hcalls, ?_⟩
      split
      · rw [hget, if_pos rfl]
      · rename_i hx
        rw [if_neg hx] at hrest
        refine ⟨?_, hrest.2⟩
        have hst := hrest.1
        unfold Started at hst ⊢
        split at hst
        · exact hst
        · rw [hget, if_pos rfl]
    bindings := by
      refine ⟨fun {o k} hb => ?_, fun {c'} hc' hx _ => ?_⟩
      · rw [hget] at hb
        split at hb
        · rename_i ho
          cases hb; subst ho
          exact ⟨c, (h.cur_command hc).1, rfl⟩
        · exact h.bindings.target hb
      · obtain rfl := hc.eq hc'
        exact hexit hx
    serving := fun hs => { h.serving hs with
      leaving := by
        intro c' hc' hx hst hk
        obtain rfl := hc.eq hc'
        rcases hstarted hst hx with hr | hst
        · exact (hrestore hr).2 hs hk
        · exact (h.serving hs).leaving hc hx hst hk } }

/-! ## Runtimes -/

/-- Runtimes change, none of them a released one. -/
theorem Inv.setWorld (h : Inv d strict s) (hc : Cur d c s) {w : Nat → Server}
    (hrec : c.kind.exits = true → ¬ Recorded s.manager c.target c.operationId)
    (hserv : strict → Serving s.manager s.ce w s.rollouter s.gate s.nativeSync
      (s.journal.current d.taskSession)) : Inv d strict { s with world := w } :=
  { h with
    reported := ⟨h.reported.outbox, fun hc' hx hr => by
      obtain rfl := hc.eq hc'
      exact (hrec hx hr).elim⟩
    serving := hserv }

theorem world_setServer {n : Nat} {v : Server} : (s.setServer n v).world n = v :=
  Function.update_self ..

/-- One runtime changes; the three clauses are about the target. -/
theorem Serving.setServer (h : Inv d strict s) (hs : strict) {r : Replica} {v : Server}
    (hr : Holds s.manager s.ce c.target r ∨ ∀ k r', Holds s.manager s.ce k r' → r'.rank ≠ r.rank)
    (hawake : s.ce.members c.target = some [r] → InService s.manager c.target ∨
      s.manager.replicaState.get? c.target = some .creating → v.Awake)
    (hbuilt : s.manager.replicaState.get? c.target = some .creating →
      s.manager.runtimeInventory.get? c.target = some r → v.weights = true ∨
      AtWork s.gate s.nativeSync (s.journal.current d.taskSession) c.target) :
    Serving s.manager s.ce (Function.update s.world r.rank v) s.rollouter s.gate s.nativeSync
      (s.journal.current d.taskSession) := by
  have hv := h.serving hs
  have hcase : ∀ {k r'}, Holds s.manager s.ce k r' → r'.rank ≠ r.rank ∨ k = c.target ∧ r' = r := by
    intro k r' hk
    by_cases he : r'.rank = r.rank
    · rcases hr with hr | hr
      · exact .inr (h.wired.holds_inj hk hr he)
      · exact absurd he (hr k r' hk)
    · exact .inl he
  refine { hv with awake := ?_, built := ?_ }
  · intro k r' hm hin
    rcases hcase (.inr (.inl hm)) with hne | ⟨rfl, rfl⟩
    · rw [Function.update_of_ne hne]; exact hv.awake hm hin
    · rw [Function.update_self]; exact hawake hm hin
  · intro k r' hk hi
    rcases hcase (.inl hi) with hne | ⟨rfl, rfl⟩
    · rw [Function.update_of_ne hne]; exact hv.built hk hi
    · rw [Function.update_self]; exact hbuilt hk hi

/-! ## The checkpoint engine -/

/-- The tables change for the target only. -/
theorem Inv.setCe (h : Inv d strict s) (hc : Cur d c s) {ce : CheckpointEngineManager}
    (hoff : Off c.target s.ce ce) (hw : Wired s.manager ce)
    (hpool : ce.members c.target = none → ∀ x, s.lb.routes.get? c.target = some x →
      s.lb.servers.get? x = none)
    (hdormant : s.manager.replicaState.get? c.target = some .dormant →
      Parked s.manager ce c.target ∨
        c.kind = .restore ∧ Guarded s.gate s.nativeSync c.operationId)
    (hdraining : s.manager.replicaKind.get? c.target = some .native →
      s.manager.replicaState.get? c.target = some .draining → ce.members c.target = none →
      Parked s.manager ce c.target ∨ Held s.gate s.nativeSync c.operationId ∧
        s.rollouter.pendingOperationTargets.get? c.operationId = some c.target)
    (hhidden : s.manager.replicaKind.get? c.target = some .borrowed →
      (ce.pending.get? c.target).isSome →
      c.kind = .add ∧ Guarded s.gate s.nativeSync c.operationId)
    (hgone : c.kind.exits = true → Recorded s.manager c.target c.operationId →
      ce.members c.target = none)
    (hstate : strict → (ce.members c.target).isSome → InService s.manager c.target ∨
      c.kind.exits = false ∧ Guarded s.gate s.nativeSync c.operationId)
    (hawake : strict → ∀ r, ce.members c.target = some [r] → InService s.manager c.target ∨
      s.manager.replicaState.get? c.target = some .creating → (s.world r.rank).Awake)
    (hreceipt : strict → (ce.ready.get? c.target).isSome → (ce.members c.target).isSome ∨
      c.kind.exits = false ∧ Guarded s.gate s.nativeSync c.operationId)
    (hknown : strict → (ce.ready.get? c.target).isSome →
      (s.manager.replicaKind.get? c.target).isSome)
    (hreleased : strict → s.manager.replicaState.get? c.target = some .released →
      ce.members c.target = none ∧ ce.ready.get? c.target = none) :
    Inv d strict { s with ce := ce } := by
  have hother : ∀ {k}, c.target ≠ k → Parked s.manager s.ce k → Parked s.manager ce k := by
    rintro k hk ⟨r, o, hi, hp, hm, hrd⟩
    exact ⟨r, o, hi, (hoff.pending k hk).trans hp, (hoff.members k hk).trans hm,
      (hoff.ready k hk).trans hrd⟩
  exact { h with
    wired := hw
    routed := { h.routed with
      pool := by
        intro x hx
        obtain ⟨k, hk, hm⟩ := h.routed.pool hx
        refine ⟨k, hk, ?_⟩
        by_cases he : c.target = k
        · subst he
          cases hmem : ce.members c.target with
          | none => rw [hpool hmem x hk] at hx; cases hx
          | some _ => rfl
        · rw [hoff.members k he]; exact hm }
    parking := by
      constructor
      case dormant =>
        intro k hk
        by_cases he : c.target = k
        · subst he
          rcases hdormant hk with hp | ⟨hr, hg⟩
          · exact .inl hp
          · exact .inr ⟨c, hc, hr, rfl, hg⟩
        · rcases h.parking.dormant hk with hp | hw
          · exact .inl (hother he hp)
          · exact .inr hw
      case draining =>
        intro k hn hk hm
        by_cases he : c.target = k
        · subst he
          rcases hdraining hn hk hm with hp | ⟨hh, hb⟩
          · exact .inl hp
          · exact .inr ⟨c, hc, rfl, hh, hb⟩
        · rw [hoff.members k he] at hm
          rcases h.parking.draining hn hk hm with hp | hw
          · exact .inl (hother he hp)
          · exact .inr hw
      case hidden =>
        intro k hb hp
        by_cases he : c.target = k
        · subst he
          obtain ⟨ha, hg⟩ := hhidden hb hp
          exact ⟨c, hc, ha, rfl, hg⟩
        · rw [hoff.pending k he] at hp
          exact h.parking.hidden hb hp
    reported := by
      refine ⟨h.reported.outbox, fun {c'} hc' hx hr => ?_⟩
      obtain rfl := hc.eq hc'
      have hg := h.reported.gone hc hx hr
      exact ⟨hg.closed, hgone hx hr, hg.route, hg.runtime⟩
    serving := by
      intro hs
      have hv := h.serving hs
      constructor
      case state =>
        intro k hk
        by_cases he : c.target = k
        · subst he
          rcases hstate hs hk with hi | ⟨hx, hg⟩
          · exact .inl hi
          · exact .inr ⟨c, hc, hx, rfl, hg⟩
        · rw [hoff.members k he] at hk; exact hv.state hk
      case awake =>
        intro k r hm hin
        by_cases he : c.target = k
        · subst he; exact hawake hs r hm hin
        · rw [hoff.members k he] at hm; exact hv.awake hm hin
      case built => exact hv.built
      case receipt =>
        intro k hk
        by_cases he : c.target = k
        · subst he
          rcases hreceipt hs hk with hi | ⟨hx, hg⟩
          · exact .inl hi
          · exact .inr ⟨c, hc, hx, rfl, hg⟩
        · rw [hoff.ready k he] at hk
          rw [hoff.members k he]
          exact hv.receipt hk
      case known =>
        intro k hk
        by_cases he : c.target = k
        · subst he; exact hknown hs hk
        · rw [hoff.ready k he] at hk; exact hv.known hk
      case leaving => exact hv.leaving
      case gone =>
        intro k hk
        by_cases he : c.target = k
        · subst he; exact hreleased hs hk
        · rw [hoff.members k he, hoff.ready k he]; exact hv.gone hk }

/-! ## The Manager -/

open LLMServerManager

/-- The ledger moves the target to another state, and the service lists follow. -/
theorem Inv.moveListed (h : Inv d strict s) (hc : Cur d c s) {st cur : ReplicaState} {kind : ReplicaKind}
    {rs : List Replica} (hl : Listed ((s.manager.move c.target st).withList rs))
    (hs : s.manager.replicaState.get? c.target = some cur)
    (hk : s.manager.replicaKind.get? c.target = some kind)
    (ha : st ∈ cur.allowed) (hv : Enterable kind st) (hflight : s.inflight = [])
    (hrec : c.kind.exits = true → ¬ Recorded s.manager c.target c.operationId)
    (hactive : st = .active → (s.ce.members c.target).isSome)
    (hreleased : st = .released → s.ce.pending.get? c.target = none)
    (hroute : ∀ x, s.lb.routes.get? c.target = some x →
      st = .active ∨ st = .draining ∧ c.kind.exits = true)
    (hdormant : st = .dormant → Parked s.manager s.ce c.target)
    (hdraining : st = .draining → kind = .native → s.ce.members c.target = none →
      Parked s.manager s.ce c.target)
    (hunlisted : st = .draining → c.kind.exits = false →
      Unlisted ((s.manager.move c.target st).withList rs) c.target)
    (hexit : c.kind.exits = true →
      s.rollouter.pendingOperationTargets.get? c.operationId = some c.target →
      st = .draining ∨ st = .quarantined)
    (hserv : strict →
      ((s.ce.members c.target).isSome → st = .active ∨ st = .draining ∨
        c.kind.exits = false ∧ Guarded s.gate s.nativeSync c.operationId) ∧
      (∀ r, s.ce.members c.target = some [r] → st = .active ∨ st = .draining →
        (s.world r.rank).Awake) ∧
      (st = .draining → c.kind.exits = false → Started s.manager s.rollouter c →
        Guarded s.gate s.nativeSync c.operationId) ∧
      (st = .released → s.ce.members c.target = none ∧ s.ce.ready.get? c.target = none)) :
    Inv d strict { s with manager := (s.manager.move c.target st).withList rs } := by
  have hself : ((s.manager.move c.target st).withList rs).replicaState.get? c.target = some st :=
    (get?_move ..).trans (if_pos rfl)
  have hother : ∀ {j}, c.target ≠ j →
      ((s.manager.move c.target st).withList rs).replicaState.get? j =
        s.manager.replicaState.get? j := fun hj => (get?_move ..).trans (if_neg hj)
  have hrun : ∀ {j}, c.target ≠ j ∨ st ≠ .released →
      ((s.manager.move c.target st).withList rs).runtimeInventory.get? j =
        s.manager.runtimeInventory.get? j := by
    intro j hj
    refine (runtime_move ..).trans (if_neg ?_)
    rintro ⟨hst, he⟩
    rcases hj with hj | hj
    · exact hj he
    · exact hj hst
  have hpark : ∀ {j}, c.target ≠ j ∨ st ≠ .released → Parked s.manager s.ce j →
      Parked ((s.manager.move c.target st).withList rs) s.ce j := by
    rintro j hj ⟨r, o, hi, hrest⟩
    exact ⟨r, o, (hrun hj).trans hi, hrest⟩
  have hcre : st ≠ .creating := by rintro rfl; revert ha; cases cur <;> decide
  exact {
    wired := (h.wired.move hs hk ha hv hactive hreleased).withList rs
    listed := hl
    routed := { h.routed with
      route := by
        intro j x hj
        obtain ⟨r, hi, hx, hst⟩ := h.routed.route hj
        by_cases he : c.target = j
        · subst he
          have hne : st = .active ∨ st = .draining := (hroute x hj).imp_right And.left
          refine ⟨r, (hrun (.inr ?_)).trans hi, hx, ?_⟩
          · rintro rfl; rcases hne with hne | hne <;> cases hne
          · rw [hself]; exact hne.imp (congrArg some) (congrArg some)
        · exact ⟨r, (hrun (.inl he)).trans hi, hx, by rw [hother he]; exact hst⟩ }
    gate := h.gate
    parking := by
      constructor
      case dormant =>
        intro j hj
        by_cases he : c.target = j
        · subst he
          rw [hself] at hj
          cases hj
          exact .inl (hpark (.inr (by simp)) (hdormant rfl))
        · rw [hother he] at hj
          exact (h.parking.dormant hj).imp_left (hpark (.inl he))
      case draining =>
        intro j hn hj hm
        by_cases he : c.target = j
        · subst he
          rw [hself] at hj
          cases hj
          exact .inl (hpark (.inr (by simp))
            (hdraining rfl (Option.some.inj (hk.symm.trans hn)) hm))
        · rw [hother he] at hj
          exact (h.parking.draining hn hj hm).imp_left (hpark (.inl he))
      case hidden => exact h.parking.hidden
    publishing := by
      intro c' hc' hx hst
      obtain rfl := hc.eq hc'
      have hp := h.publishing hc hx hst
      refine ⟨fun {x} hr => ?_, fun hd r hi => ?_⟩
      · rcases hroute x hr with rfl | ⟨-, hex⟩
        · exact ⟨hself, (hp.route hr).2⟩
        · rw [hx] at hex; cases hex
      · rw [hself] at hd
        cases hd
        exact hunlisted rfl hx r hi
    inFlight := fun hne => absurd hflight hne
    bindings := by
      refine ⟨h.bindings.target, fun {c'} hc' hx hb => ?_⟩
      obtain rfl := hc.eq hc'
      rw [hself]
      exact (hexit hx hb).imp (congrArg some) (congrArg some)
    records := { h.records with
      runtime := fun hl hi => h.records.runtime hl (Listed.runtime_of_move hi)
      owner := fun hl hi => h.records.owner hl (Listed.runtime_of_move hi) }
    reported := ⟨h.reported.outbox, fun {c'} hc' hx hr => by
      obtain rfl := hc.eq hc'
      exact (hrec hx hr).elim⟩
    serving := by
      intro hstr
      have hv := h.serving hstr
      obtain ⟨hst₁, hst₂, hst₃, hst₄⟩ := hserv hstr
      have hin : ∀ {j}, c.target ≠ j →
          (InService ((s.manager.move c.target st).withList rs) j ↔ InService s.manager j) := by
        intro j hj
        unfold InService
        rw [hother hj]
      constructor
      case state =>
        intro j hj
        by_cases he : c.target = j
        · subst he
          unfold InService
          rw [hself]
          rcases hst₁ hj with rfl | rfl | ⟨hx, hg⟩
          · exact .inl (.inl rfl)
          · exact .inl (.inr rfl)
          · exact .inr ⟨c, hc, hx, rfl, hg⟩
        · rw [hin he]; exact hv.state hj
      case awake =>
        intro j r hm hj
        by_cases he : c.target = j
        · subst he
          unfold InService at hj
          rw [hself] at hj
          refine hst₂ r hm ?_
          rcases hj with (hj | hj) | hj
          · exact .inl (Option.some.inj hj)
          · exact .inr (Option.some.inj hj)
          · exact absurd (Option.some.inj hj) hcre
        · rw [hin he, hother he] at hj; exact hv.awake hm hj
      case built =>
        intro j r hj hi
        by_cases he : c.target = j
        · subst he
          rw [hself] at hj
          exact absurd (Option.some.inj hj) hcre
        · rw [hother he] at hj
          rw [hrun (.inl he)] at hi
          exact hv.built hj hi
      case receipt => exact hv.receipt
      case known => exact hv.known
      case leaving =>
        intro c' hc' hx hst hd
        obtain rfl := hc.eq hc'
        rw [hself] at hd
        exact hst₃ (Option.some.inj hd) hx hst
      case gone =>
        intro j hj
        by_cases he : c.target = j
        · subst he
          rw [hself] at hj
          exact hst₄ (Option.some.inj hj)
        · rw [hother he] at hj; exact hv.gone hj
    journal := h.journal
    closing := h.closing
    sent := h.sent
    leases := h.leases }

/-- The ledger moves the target to another state. -/
theorem Inv.move (h : Inv d strict s) (hc : Cur d c s) {st cur : ReplicaState} {kind : ReplicaKind}
    (hs : s.manager.replicaState.get? c.target = some cur)
    (hk : s.manager.replicaKind.get? c.target = some kind)
    (ha : st ∈ cur.allowed) (hv : Enterable kind st) (hflight : s.inflight = [])
    (hrec : c.kind.exits = true → ¬ Recorded s.manager c.target c.operationId)
    (hactive : st ≠ .active)
    (hreleased : st = .released → s.ce.pending.get? c.target = none)
    (hclosed : st = .released ∨ st = .dormant → Unlisted s.manager c.target)
    (hroute : ∀ x, s.lb.routes.get? c.target = some x →
      st = .active ∨ st = .draining ∧ c.kind.exits = true)
    (hdormant : st = .dormant → Parked s.manager s.ce c.target)
    (hdraining : st = .draining → kind = .native → s.ce.members c.target = none →
      Parked s.manager s.ce c.target)
    (hpublish : st = .draining → c.kind.exits = true)
    (hexit : c.kind.exits = true →
      s.rollouter.pendingOperationTargets.get? c.operationId = some c.target →
      st = .draining ∨ st = .quarantined)
    (hserv : strict →
      ((s.ce.members c.target).isSome → st = .active ∨ st = .draining ∨
        c.kind.exits = false ∧ Guarded s.gate s.nativeSync c.operationId) ∧
      (∀ r, s.ce.members c.target = some [r] → st = .active ∨ st = .draining →
        (s.world r.rank).Awake) ∧
      (st = .released → s.ce.members c.target = none ∧ s.ce.ready.get? c.target = none)) :
    Inv d strict { s with manager := s.manager.move c.target st } := by
  have hl := h.listed.move hs ha hactive hclosed
  have hself := withList_self hl
  rw [← hself]
  refine h.moveListed hc (by rw [hself]; exact hl) hs hk ha hv hflight hrec
    (fun he => (hactive he).elim) hreleased hroute hdormant hdraining (fun hd hx => ?_) hexit
    fun hst => ⟨(hserv hst).1, (hserv hst).2.1, fun hd hx => ?_, (hserv hst).2.2⟩
  · rw [hpublish hd] at hx; cases hx
  · rw [hpublish hd] at hx; cases hx

theorem CallOk.congr {m m' : LLMServerManager} {call : LbCall} (h : CallOk m c call)
    (hs : m'.replicaState = m.replicaState) (hi : m'.runtimeInventory = m.runtimeInventory) :
    CallOk m' c call := by
  cases call with
  | commitReady =>
    unfold CallOk at h ⊢
    rw [hs, hi]; exact h
  | beginDrain => exact h
  | finishRemove =>
    unfold CallOk at h ⊢
    rw [hs]; exact h

/-- The service lists change. -/
theorem Inv.relist (h : Inv d strict s) (hc : Cur d c s) {rs : List Replica}
    (hl : Listed (s.manager.withList rs))
    (hun : c.kind.exits = false → s.manager.replicaState.get? c.target = some .draining →
      Unlisted s.manager c.target → Unlisted (s.manager.withList rs) c.target)
    (hrec : c.kind.exits = true → ¬ Recorded s.manager c.target c.operationId) :
    Inv d strict { s with manager := s.manager.withList rs } :=
  { h with
    wired := h.wired.withList rs
    listed := hl
    routed := { h.routed with }
    parking := ⟨h.parking.dormant, h.parking.draining, h.parking.hidden⟩
    publishing := by
      intro c' hc' hx hst
      obtain rfl := hc.eq hc'
      have hp := h.publishing hc hx hst
      exact ⟨hp.route, fun hd => hun hx hd (hp.unlisted hd)⟩
    inFlight := by
      intro hne
      obtain ⟨c', hc', hcalls, hrest⟩ := h.inFlight hne
      exact ⟨c', hc', fun call hm => (hcalls call hm).congr rfl rfl, hrest⟩
    bindings := ⟨h.bindings.target, h.bindings.exit⟩
    records := { h.records with }
    reported := ⟨h.reported.outbox, fun {c'} hc' hx hr => by
      obtain rfl := hc.eq hc'
      exact (hrec hx hr).elim⟩
    serving := fun hs => { h.serving hs with } }

/-- The target is closed for good: nothing about it is in service or on its way. -/
theorem Inv.quarantine (h : Inv d strict s) (hc : Cur d c s) {cur : ReplicaState}
    (hs : s.manager.replicaState.get? c.target = some cur) (ha : .quarantined ∈ cur.allowed)
    (hflight : s.inflight = [])
    (hrec : c.kind.exits = true → ¬ Recorded s.manager c.target c.operationId)
    (hroute : s.lb.routes.get? c.target = none)
    (hmember : strict → (s.ce.members c.target).isSome →
      c.kind.exits = false ∧ Guarded s.gate s.nativeSync c.operationId) :
    s.manager.transitionReplica c.target .quarantined = .ok (s.manager.move c.target .quarantined) ∧
      Inv d strict { s with manager := s.manager.move c.target .quarantined } := by
  obtain ⟨kind, hk⟩ := h.wired.kind_of_state hs
  have hv : Enterable kind .quarantined := ⟨fun _ => by simp, fun _ => by simp⟩
  refine ⟨transitionReplica_eq hs hk ha hv, ?_⟩
  refine h.move hc hs hk ha hv hflight hrec (fun h => by cases h) (fun h => by cases h)
    (fun h => by rcases h with h | h <;> cases h) (fun x hx => ?_) (fun h => by cases h)
    (fun h => by cases h) (fun h => by cases h) (fun _ _ => .inr rfl) fun hst => ?_
  · rw [hroute] at hx; cases hx
  · exact ⟨fun hm => .inr (.inr (hmember hst hm)), fun _ _ h => (by rcases h with h | h <;> cases h),
      fun h => (by cases h)⟩

/-! ## The Manager's records -/

/-- A record of the Manager is rewritten, but not whom it is about. -/
structure Rewrites (rec rec' : BorrowedRecord) : Prop where
  resolved : rec'.resolved = rec.resolved
  rank : rec'.replicaRank = rec.replicaRank

/-- The Manager with a record rewritten. -/
def LLMServerManager.setBorrowed (m : LLMServerManager) (l : String) (rec : BorrowedRecord) :
    LLMServerManager :=
  { m with borrowedOperations := m.borrowedOperations.insert l rec }

/-- Evidence of the unfinished operation is recorded, or some record of it changes. -/
theorem Reported.unrecorded {m m' : LLMServerManager} {ce : CheckpointEngineManager}
    {lb : GlobalRequestLoadBalancer} {w : Nat → Server} {commands : Dict String OperationCommand}
    {outbox : List (String × OperationEvidence)}
    (h : Reported m ce lb w commands (s.journal.current d.taskSession) outbox) (hc : Cur d c s)
    (hrec : c.kind.exits = true → ¬ Recorded m c.target c.operationId)
    (hgone : c.kind.exits = true → Recorded m' c.target c.operationId → Gone m' ce lb w c.target) :
    Reported m' ce lb w commands (s.journal.current d.taskSession) outbox := by
  refine ⟨fun hm => ?_, fun {c'} hc' hx hr => ?_⟩
  · obtain ⟨c', hc', hexit⟩ := h.outbox hm
    refine ⟨c', hc', fun hx => ?_⟩
    obtain ⟨hcc, hr⟩ := hexit hx
    obtain rfl := hc.eq hcc
    exact (hrec hx hr).elim
  · obtain rfl := hc.eq hc'
    exact hgone hx hr

theorem Started.setBorrowed {m : LLMServerManager} {ro : Rollouter} {l : String}
    {rec rec' : BorrowedRecord} (hl : m.borrowedOperations.get? l = some rec)
    (hr : rec'.resolved = rec.resolved) :
    Started (m.setBorrowed l rec') ro c ↔ Started m ro c := by
  have hget : ∀ j, (m.setBorrowed l rec').borrowedOperations.get? j =
      if l = j then some rec' else m.borrowedOperations.get? j := fun j => Dict.get?_insert _ _ _ _
  unfold Started
  split
  · constructor
    · rintro ⟨j, x, hx, ho⟩
      rw [hget] at hx
      split at hx
      · cases hx
        exact ⟨l, rec, hl, by rw [← hr]; exact ho⟩
      · exact ⟨j, x, hx, ho⟩
    · rintro ⟨j, x, hx, ho⟩
      by_cases hj : l = j
      · subst hj
        rw [hl] at hx
        cases hx
        exact ⟨l, rec', by rw [hget, if_pos rfl], by rw [hr]; exact ho⟩
      · exact ⟨j, x, by rw [hget, if_neg hj]; exact hx, ho⟩
  · exact Iff.rfl

theorem Inv.setBorrowed (h : Inv d strict s) (hc : Cur d c s) {l : String}
    {rec rec' : BorrowedRecord} (hl : s.manager.borrowedOperations.get? l = some rec)
    (hr : Rewrites rec rec')
    (hresult : rec'.result = rec.result ∨
      s.manager.runtimeInventory.get? rec.resolved.key = none)
    (hdestroyed : ∀ ev, rec'.destroyEvidence = some ev →
      ∃ c', s.journal.commands.get? ev.operationId = some c')
    (hrec : c.kind.exits = true → ¬ Recorded s.manager c.target c.operationId)
    (hgone : c.kind.exits = true →
      Recorded (s.manager.setBorrowed l rec') c.target c.operationId →
      Gone (s.manager.setBorrowed l rec') s.ce s.lb s.world c.target) :
    Inv d strict { s with manager := s.manager.setBorrowed l rec' } := by
  have hget : ∀ {j x}, (s.manager.setBorrowed l rec').borrowedOperations.get? j = some x →
      (l = j ∧ x = rec') ∨ s.manager.borrowedOperations.get? j = some x := by
    intro j x hx
    rw [show (s.manager.setBorrowed l rec').borrowedOperations.get? j = _ from
      Dict.get?_insert _ _ _ _] at hx
    split at hx
    · cases hx; exact .inl ⟨‹_›, rfl⟩
    · exact .inr hx
  have hkey : ∀ {j x}, (s.manager.setBorrowed l rec').borrowedOperations.get? j = some x →
      ∃ y, s.manager.borrowedOperations.get? j = some y ∧ x.resolved = y.resolved ∧
        x.replicaRank = y.replicaRank := by
    intro j x hx
    rcases hget hx with ⟨rfl, rfl⟩ | hx
    · exact ⟨rec, hl, hr.resolved, hr.rank⟩
    · exact ⟨x, hx, rfl, rfl⟩
  exact { h with
    wired := { h.wired with }
    listed := { h.listed with }
    routed := { h.routed with }
    parking := ⟨h.parking.dormant, h.parking.draining, h.parking.hidden⟩
    publishing := by
      intro c' hc' hx hst
      have hp := h.publishing hc' hx ((Started.setBorrowed hl hr.resolved).1 hst)
      exact ⟨hp.route, hp.unlisted⟩
    inFlight := by
      intro hne
      obtain ⟨c', hc', hcalls, hrest⟩ := h.inFlight hne
      refine ⟨c', hc', fun call hm => (hcalls call hm).congr rfl rfl, ?_⟩
      split
      · rename_i hx
        rw [if_pos hx] at hrest
        exact hrest
      · rename_i hx
        rw [if_neg hx] at hrest
        exact ⟨(Started.setBorrowed hl hr.resolved).2 hrest.1, hrest.2⟩
    bindings := ⟨h.bindings.target, h.bindings.exit⟩
    records := by
      constructor
      case command =>
        intro j x hx
        obtain ⟨y, hy, hxy, -⟩ := hkey hx
        rw [hxy]
        exact h.records.command hy
      case borrowed =>
        intro j x hx
        obtain ⟨y, hy, hxy, -⟩ := hkey hx
        rw [hxy]
        exact h.records.borrowed hy
      case unique =>
        intro j j' x x' hx hx' he
        obtain ⟨y, hy, hxy, -⟩ := hkey hx
        obtain ⟨y', hy', hxy', -⟩ := hkey hx'
        exact h.records.unique hy hy' (by rw [← hxy, ← hxy']; exact he)
      case runtime =>
        intro j x r hx hi
        rcases hget hx with ⟨rfl, rfl⟩ | hx
        · rw [hr.resolved] at hi
          obtain ⟨hres, hrank⟩ := h.records.runtime hl hi
          rcases hresult with he | hn
          · exact ⟨he.trans hres, hr.rank.trans hrank⟩
          · rw [show (s.manager.setBorrowed l x).runtimeInventory = s.manager.runtimeInventory
              from rfl, hn] at hi
            cases hi
        · exact h.records.runtime hx hi
      case rank_lt =>
        intro j x hx
        obtain ⟨y, hy, -, hxy⟩ := hkey hx
        rw [hxy]
        exact h.records.rank_lt hy
      case rank_inj =>
        intro j j' x x' hx hx' he
        obtain ⟨y, hy, -, hxy⟩ := hkey hx
        obtain ⟨y', hy', -, hxy'⟩ := hkey hx'
        exact h.records.rank_inj hy hy' (by rw [← hxy, ← hxy']; exact he)
      case owner =>
        intro j x k r hx hi he
        obtain ⟨y, hy, hres, hxy⟩ := hkey hx
        rw [hres]
        exact h.records.owner hy hi (he.trans hxy)
      case native => exact h.records.native
      case destroyed =>
        intro j x ev hx hd
        rcases hget hx with ⟨rfl, rfl⟩ | hx
        · exact hdestroyed ev hd
        · exact h.records.destroyed hx hd
    reported := h.reported.unrecorded hc hrec hgone
    serving := fun hs => { h.serving hs with
      leaving := fun hc' hx hst hk =>
        (h.serving hs).leaving hc' hx ((Started.setBorrowed hl hr.resolved).1 hst) hk } }

/-- Evidence that a native runtime is asleep. -/
def LLMServerManager.recordSleep (m : LLMServerManager) (o : String) (k : ReplicaKey)
    (ev : OperationEvidence) : LLMServerManager :=
  { m with nativeReleaseEvidence := m.nativeReleaseEvidence.insert o (k, ev) }

theorem Inv.recordSleep (h : Inv d strict s) (hc : Cur d c s) {ev : OperationEvidence}
    (hrec : c.kind.exits = true → ¬ Recorded s.manager c.target c.operationId)
    (hgone : c.kind.exits = true →
      Gone (s.manager.recordSleep c.operationId c.target ev) s.ce s.lb s.world c.target) :
    Inv d strict { s with manager := s.manager.recordSleep c.operationId c.target ev } :=
  { h with
    wired := { h.wired with }
    listed := { h.listed with }
    routed := { h.routed with }
    parking := ⟨h.parking.dormant, h.parking.draining, h.parking.hidden⟩
    publishing := by
      intro c' hc' hx hst
      have hp := h.publishing hc' hx hst
      exact ⟨hp.route, hp.unlisted⟩
    inFlight := by
      intro hne
      obtain ⟨c', hc', hcalls, hrest⟩ := h.inFlight hne
      exact ⟨c', hc', fun call hm => (hcalls call hm).congr rfl rfl, hrest⟩
    bindings := ⟨h.bindings.target, h.bindings.exit⟩
    records := { h.records with
      native := by
        intro o k ev' hn
        rw [show (s.manager.recordSleep c.operationId c.target ev).nativeReleaseEvidence.get? o = _
          from Dict.get?_insert _ _ _ _] at hn
        split at hn
        · rename_i ho
          cases hn
          exact ⟨c, by rw [← ho]; exact (h.cur_command hc).1, rfl⟩
        · exact h.records.native hn }
    reported := h.reported.unrecorded hc hrec fun hx _ => hgone hx
    serving := fun hs => { h.serving hs with } }

/-! ## Released targets -/

/-- A runtime that is in no service list: neither it nor its address is anybody else's. -/
theorem Unlisted.apart {m : LLMServerManager} {ce : CheckpointEngineManager} {k : ReplicaKey}
    {r : Replica} (hw : Wired m ce) (hl : Listed m) (hu : Unlisted m k)
    (hi : m.runtimeInventory.get? k = some r) :
    (∀ r' ∈ m.rolloutReplicas, r'.address ≠ r.address ∧ r'.rank ≠ r.rank) ∧
      ∀ k' r', m.runtimeInventory.get? k' = some r' → r'.address = r.address → k' = k := by
  refine ⟨fun r' hr' => ?_, fun k' r' hi' ha => hw.address_inj hi' hi ha⟩
  obtain ⟨j, hj⟩ := hl.owned hr'
  constructor
  · intro ha
    obtain rfl := hw.address_inj hj hi ha
    exact hu r' hj hr'
  · intro hrank
    obtain ⟨rfl, rfl⟩ := hw.holds_inj (.inl hj) (.inl hi) hrank
    exact hu r' hj hr'

end ReplicaLending
