import ReplicaLending.Manager.Reservations
/-!
# What a failed preparation has released

When the creation raises, `prepare_replica` looks at the record of the key it was asked for
(rollouter.py:593): no entry, or a released one, is taken for "nothing of this operation is left". A
creation is fenced by its lease id, so the exception may come from a creation of another key for the
same lease, whose runtime is alive; and the spec's placement epoch is not compared with the key's, so
the creation that failed may have been of another key too.
-/

namespace ReplicaLending

open LLMServerManager Rollouter

namespace BorrowSystem

/-- A runtime object made for the lease is being built, serves, drains or is quarantined. -/
def Live (s : BorrowSystem) (leaseId : String) : Prop :=
  ∃ key state, (leaseId, key) ∈ s.built ∧ s.task.manager.replicaState.get? key = some state ∧
    state ∈ [.creating, .active, .draining, .quarantined]

/-- A step that answers RELEASED leaves no live runtime of the lease. -/
def ReleasesGone (s : BorrowSystem) (_ : BorrowLabel) (s' : BorrowSystem) : Prop :=
  ∀ (i : Nat) (key : ReplicaKey) (operationId : String) (spec : BorrowedSpec)
    (evidence : OperationEvidence) (stage : Stage), (∀ answer, stage ≠ .ended answer) →
      s.calls[i]? = some (.prepare key operationId spec, stage) →
      s'.calls[i]? = some (.prepare key operationId spec, .ended (.ok (.released evidence))) →
        ¬ s'.Live spec.leaseId

/-- The preparation that begins here is of the key the lease was recorded for, or that key is released;
of a lease without a record it is of the spec's own key. -/
def Aimed (m : LLMServerManager) (key : ReplicaKey) (spec : BorrowedSpec) : Prop :=
  match m.creation? spec.leaseId with
  | some c => c.resolved.key = key ∨ m.replicaState.get? c.resolved.key = some .released
  | none => spec.placementEpoch = key.runtimeEpoch

/-- Every preparation that begins with this step is aimed. -/
def BeginsAimed (s : BorrowSystem) (l : BorrowLabel) (_ : BorrowSystem) : Prop :=
  ∀ (i : Nat) (o : Choice) (key : ReplicaKey) (operationId : String) (spec : BorrowedSpec),
    l = .resume i o → s.calls[i]? = some (.prepare key operationId spec, .called) →
      Aimed s.task.manager key spec

variable {d : Deployment} {s s' : BorrowSystem} {m m' : LLMServerManager} {base : Nat} {i : Nat}
  {q : Request} {stage stage' : Stage} {n : NormalSpec} {t : TaskState}

/-- A preparation under way creates its own key. -/
def OwnKey (s : BorrowSystem) : Prop :=
  ∀ (i : Nat) (key : ReplicaKey) (operationId : String) (spec : BorrowedSpec) (stage : Stage)
    (n : NormalSpec), s.calls[i]? = some (.prepare key operationId spec, stage) →
      stage.creates = some n → n.key = key

theorem bindAdd_ok {key : ReplicaKey} {operationId : String} {spec : BorrowedSpec} {s t : TaskState}
    {o : Choice} (h : bindAdd key operationId spec s o = (.ok (), t)) :
    spec.borrowerTaskId = key.taskSession ∧ spec.borrowerReplicaId = key.replicaId := by
  unfold bindAdd at h
  split at h
  · cases h
  split at h
  · cases h
  split at h
  · cases h
  split at h
  · cases h
  exact ⟨not_not.1 ‹_›, not_not.1 ‹_›⟩

/-- The key of a reservation. -/
theorem enter_key {key : ReplicaKey} {operationId : String} {spec : BorrowedSpec} {s : TaskState}
    {o : Choice} {rank : Nat}
    (h : (Request.enter d s o (.prepare key operationId spec)).1 = .resolving n rank)
    (he : spec.placementEpoch = key.runtimeEpoch) : n.key = key := by
  unfold Request.enter Request.bind at h
  dsimp only at h
  split at h
  · cases h
  rename_i u hb
  obtain ⟨htask, hreplica⟩ := bindAdd_ok hb
  unfold Request.reserve Request.spec at h
  dsimp only at h
  rcases Request.reserveBorrowed_cases (d := d) (s := u) (o := o) spec with
    ⟨e, hr⟩ | ⟨address, c, hr, -⟩ | ⟨n', hv, -, -, hr⟩ <;> rw [hr] at h <;> cases h
  obtain ⟨-, htask', hreplica', hepoch⟩ := validateBorrowedSpec_ok hv
  have hkey : n.key.taskSession = key.taskSession ∧ n.key.replicaId = key.replicaId ∧
      n.key.runtimeEpoch = key.runtimeEpoch :=
    ⟨htask'.trans htask, hreplica'.trans hreplica, hepoch.trans he⟩
  obtain ⟨h₁, h₂, h₃⟩ := hkey
  cases key
  cases hn : n.key
  simp_all

theorem ownKey_set (h : OwnKey s) (hi : s.calls[i]? = some (q, stage))
    (hn : ∀ key operationId spec n, q = .prepare key operationId spec → stage'.creates = some n →
      n.key = key) : OwnKey (s.moved t i q stage stage') := by
  intro j key operationId spec stage₁ n hj hc
  obtain ⟨-, he⟩ | ⟨-, hj⟩ := thread_set hj
  · cases he
    exact hn key operationId spec n rfl hc
  · exact h j key operationId spec stage₁ n hj hc

/-- The runtimes of a lease are of the key it is recorded for. -/
theorem BorrowOk.not_live (h : BorrowOk base s) {leaseId : String}
    (hr : ∀ c, s.task.manager.creation? leaseId = some c →
      s.task.manager.replicaState.get? c.resolved.key = some .released) : ¬ s.Live leaseId := by
  rintro ⟨key, state, hb, hs, hlive⟩
  obtain ⟨c, hc, rfl⟩ := h.built.known _ hb
  rw [hr c hc] at hs
  cases hs
  simp at hlive

theorem Recorded.released (h : Recorded m) {leaseId : String} {c : Creation}
    (hc : m.creation? leaseId = some c) (hs : m.replicaState.get? c.resolved.key = none ∨
      m.replicaState.get? c.resolved.key = some .released) :
    m.replicaState.get? c.resolved.key = some .released := by
  refine hs.resolve_left fun hn => ?_
  have := h.registered hc
  unfold Dict.contains at this
  rw [hn] at this
  cases this

/-- A preparation that answers RELEASED leaves nothing of the lease. -/
theorem goes_released (h : BorrowOk base s) (hown : OwnKey s) {key : ReplicaKey} {operationId : String}
    {spec : BorrowedSpec} {evidence : OperationEvidence}
    (hi : s.calls[i]? = some (.prepare key operationId spec, stage))
    (hg : Goes (.prepare key operationId spec) s.task.manager m' stage
      (.ended (.ok (.released evidence)))) (ht : t.manager = m')
    (haim : stage = .called → Aimed s.task.manager key spec) :
    ¬ (s.moved t i (.prepare key operationId spec) stage
      (.ended (.ok (.released evidence)))).Live spec.leaseId := by
  have hok := h.goes hi hg ht
  refine hok.not_live fun c hc => ?_
  change t.manager.creation? spec.leaseId = some c at hc
  show t.manager.replicaState.get? c.resolved.key = some .released
  have hrec : Recorded t.manager := hok.recorded
  cases hg with
  | quits hcomp =>
    -- the creation was refused: the record is the one the preparation has found
    have hkey := hcomp key operationId spec evidence rfl rfl
    have haimed := haim rfl
    rw [← ht] at hkey haimed
    unfold Aimed at haimed
    rw [hc] at haimed
    rcases haimed with hk | hs
    · rw [← hk] at hkey
      exact hrec.released hc hkey
    · exact hs
  | @fails _ _ n e _ hn hw hcomp =>
    -- the record is the preparation's own, of its own key
    have hkey := hcomp key operationId spec evidence rfl rfl
    have hlease : n.spec.leaseId = spec.leaseId := h.sole.asked hi hn
    have hres : c.resolved = n := by
      rw [ht, hw.creation, if_pos hlease, ← hlease, h.sole.opened hi hn] at hc
      cases hc
      rfl
    rw [← ht, ← hown i key operationId spec stage n hi hn, ← hres] at hkey
    exact hrec.released hc hkey

theorem ownKey_goes (hown : OwnKey s) (hi : s.calls[i]? = some (q, stage)) {o : Choice}
    (hst : (q.go d s.task o stage).1 = stage') (hg : Goes q s.task.manager m' stage stage')
    (haim : ∀ key operationId spec, q = .prepare key operationId spec → stage = .called →
      Aimed s.task.manager key spec) : OwnKey (s.moved t i q stage stage') := by
  refine ownKey_set hown hi ?_
  rintro key operationId spec n rfl hn
  cases hg with
  | quits => cases hn
  | @reserves n' hl hnew hkey =>
    cases hn
    have hepoch := haim key operationId spec rfl rfl
    unfold Aimed at hepoch
    rw [show s.task.manager.creation? spec.leaseId = none from hl ▸ hnew] at hepoch
    exact enter_key hst hepoch
  | builds => exact hown i key operationId spec _ n hi hn
  | unwinds => exact hown i key operationId spec _ n hi hn
  | finishes => cases hn
  | fails => cases hn

/-- A step with which no call ends. -/
theorem ReleasesGone.of_calls {l : BorrowLabel} (h : ∀ (j : Nat) (q : Request)
    (answer : Except PyErr Prepared), s'.calls[j]? = some (q, .ended answer) →
      s.calls[j]? = some (q, .ended answer)) : ReleasesGone s l s' := by
  intro j key operationId spec evidence stage hs hj hj'
  rw [h j _ _ hj'] at hj
  cases hj
  exact absurd rfl (hs _)

/-- In a run whose preparations are aimed when they begin, RELEASED means that nothing of the lease is
left. -/
theorem released_gone {s₀ : BorrowSystem} (hi : (machine d).init s₀)
    (h : (machine d).RunWhere BeginsAimed s₀ s) : (machine d).RunWhere ReleasesGone s₀ s := by
  refine (h.strengthen (I := fun u => BorrowOk s₀.task.manager.nextReplicaRank u ∧ OwnKey u) ?_
    fun u l u' hu hs haim => ?_).1
  · obtain ⟨replicas, version, -, rfl⟩ := hi
    exact ⟨borrowOk_start, nofun⟩
  · cases hs
    obtain ⟨hok, hown⟩ := hu
    have hok' := hok.step (d := d) l
    cases l with
    | call q =>
      refine ⟨⟨hok', fun j key operationId spec stage n hj hc => ?_⟩, .of_calls fun j q' answer hj => ?_⟩
      · obtain ⟨-, he⟩ | hj := thread_append hj
        · cases he
          cases hc
        · exact hown j key operationId spec stage n hj hc
      · obtain ⟨-, he⟩ | hj := thread_append hj
        · cases he
        · exact hj
    | serve f t => exact ⟨⟨hok', hown⟩, .of_calls fun _ _ _ hj => hj⟩
    | resume i o =>
      rcases step_resume_cases (d := d) (s := u) (i := i) o with he | ⟨q, stage, hi', hs⟩
      · rw [he] at hok' ⊢
        exact ⟨⟨hok', hown⟩, .of_calls fun _ _ _ hj => hj⟩
      · rw [step_resume hi' hs] at hok' ⊢
        have hg := hok.resume (d := d) o hi' hs
        have haim' : ∀ key operationId spec, q = .prepare key operationId spec → stage = .called →
            Aimed u.task.manager key spec := by
          rintro key operationId spec rfl rfl
          exact haim i o key operationId spec rfl hi'
        refine ⟨⟨hok', ownKey_goes hown hi' rfl hg haim'⟩, fun j key operationId spec evidence
          stage₁ hs₁ hj hj' => ?_⟩
        obtain ⟨rfl, he⟩ | ⟨-, hj'⟩ := thread_set hj'
        · obtain ⟨hq, hst⟩ := Prod.mk.inj he
          subst hq
          rw [← hst] at hg ⊢
          exact goes_released hok hown hi' hg rfl fun hc => haim' _ _ _ rfl hc
        · rw [hj] at hj'
          cases hj'
          exact absurd rfl (hs₁ _)

/-! ### One lease, two keys -/

section Fixture

open TaskSystem (deployment fine)

/-- The second borrower. -/
def otherKey : ReplicaKey := ⟨"borrower", "b-1", 0, ne_empty holds, ne_empty holds⟩

/-- A preparation whose placement groups cannot be read. -/
def unresolved : List BorrowLabel :=
  [.call (.prepare otherKey "a2" (placement "a2" "L" "b-1")), .resume 0 fine,
   .resume 0 { fine with fault := .before }]

/-- A runtime for lease `L`, and a preparation of another key under the same lease. -/
def conflicting : List BorrowLabel :=
  [.call (.create (placement "a1" "L" "b-0")), .resume 0 fine, .resume 0 fine, .resume 0 fine,
   .call (.prepare otherKey "a2" (placement "a2" "L" "b-1"))]

/-- The key and the lease of a preparation. -/
def asks : Request → Option (ReplicaKey × String)
  | .create _ => none
  | .prepare key _ spec => some (key, spec.leaseId)

def begins : Stage → Bool
  | .called => true
  | _ => false

/-- The call has answered RELEASED. -/
def hasReleased : Stage → Bool
  | .ended (.ok (.released _)) => true
  | _ => false

theorem hasReleased_iff : hasReleased stage = true ↔
    ∃ evidence, stage = .ended (.ok (.released evidence)) := by
  unfold hasReleased
  constructor
  · intro h
    split at h
    · exact ⟨_, rfl⟩
    · cases h
  · rintro ⟨evidence, rfl⟩
    rfl

theorem released_gone_unresolved :
    (machine deployment).RunWhere ReleasesGone native (after unresolved) ∧
      (after unresolved).task.manager.replicaState.get? otherKey = some .released := by
  have hbegins : BeginsAimed (after (unresolved.take 1)) (.resume 0 fine)
      (after (unresolved.take 2)) := by
    rintro i o key operationId spec ⟨⟩ hc
    cases hc
    rfl
  have hlater : BeginsAimed (after (unresolved.take 2)) (.resume 0 { fine with fault := .before })
      (after unresolved) := by
    rintro i o key operationId spec ⟨⟩ hc
    have hstage : ((after (unresolved.take 2)).calls[0]?.map fun c => c.2.creates.isSome) =
        some true := by decide +kernel
    rw [hc] at hstage
    cases hstage
  have hrun : (machine deployment).RunWhere BeginsAimed native (after unresolved) := by
    have h₁ : (machine deployment).RunWhere BeginsAimed native (after (unresolved.take 1)) :=
      .tail (l := .call (.prepare otherKey "a2" (placement "a2" "L" "b-1"))) (.refl _) rfl nofun
    have h₂ : (machine deployment).RunWhere BeginsAimed native (after (unresolved.take 2)) :=
      .tail (l := .resume 0 fine) h₁ rfl hbegins
    exact .tail (l := .resume 0 { fine with fault := .before }) h₂ rfl hlater
  exact ⟨released_gone init_native hrun, by decide +kernel⟩

/-- It answers RELEASED, while the runtime of the lease waits to be published. -/
theorem conflict_released : (machine deployment).Reachable (after conflicting) ∧
    ¬ ReleasesGone (after conflicting) (.resume 1 fine)
      (step deployment (.resume 1 fine) (after conflicting)) := by
  refine ⟨⟨native, init_native, Machine.run_exec _ _ _ _⟩, fun h => ?_⟩
  have hcall : ((after conflicting).calls[1]?.map fun c => (asks c.1, begins c.2)) =
      some (some (otherKey, "L"), true) := by decide +kernel
  have hanswer : ((step deployment (.resume 1 fine) (after conflicting)).calls[1]?.map fun c =>
      hasReleased c.2) = some true := by decide +kernel
  obtain ⟨⟨q, stage⟩, hc, ho⟩ := Option.map_eq_some_iff.1 hcall
  obtain ⟨⟨q', stage'⟩, hc', hr⟩ := Option.map_eq_some_iff.1 hanswer
  obtain ⟨evidence, rfl⟩ := hasReleased_iff.1 hr
  obtain ⟨hq, hb⟩ := Prod.mk.inj ho
  cases stage with
  | called =>
    rw [step_resume hc nofun] at hc'
    obtain ⟨-, he⟩ | ⟨hne, -⟩ := thread_set hc'
    · cases q with
      | create spec => cases hq
      | prepare key operationId spec =>
        obtain ⟨rfl, hl⟩ := Prod.mk.inj (Option.some.inj hq)
        refine h 1 otherKey operationId spec evidence .called nofun hc ?_
          ⟨GroupScheduler.borrowerKey, .creating, ?_, by decide +kernel, by decide⟩
        · rw [step_resume hc nofun]
          rw [(Prod.mk.inj he).1] at hc'
          exact hc'
        · rw [hl]
          decide +kernel
    · exact absurd rfl hne
  | _ => cases hb

end Fixture

end BorrowSystem

end ReplicaLending
