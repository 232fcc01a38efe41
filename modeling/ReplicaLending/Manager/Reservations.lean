import ReplicaLending.Manager.Borrowing
/-!
# One creation for a lease, one for a key

`borrowed_operations` is the fence of a creation: a lease has one record, which is opened together
with its key and its rank, and is never removed. A runtime object is made only by the call that opened
the record, so leases, keys and ranks stay in one-to-one relation, whoever runs in between.

What the fence needs of a record is `creation?`: what the creation was for, and how it has ended. The
other methods write around it (`Kept`).
-/

namespace ReplicaLending

open Rollouter

/-- What a record says of its creation. -/
structure Creation where
  resolved : NormalSpec
  error : Option PyErr
  result : Option String

namespace LLMServerManager

def creation? (m : LLMServerManager) (leaseId : String) : Option Creation :=
  (m.borrowedOperations.get? leaseId).map fun rec => ⟨rec.resolved, rec.error, rec.result⟩

/-- Keys, kinds and ranks are as before, and a released replica stays released. -/
structure Kept (m m' : LLMServerManager) : Prop where
  kind : m'.replicaKind = m.replicaKind
  registered : ∀ k, m.replicaState.contains k = true → m'.replicaState.contains k = true
  released : ∀ k, m.replicaState.get? k = some .released → m'.replicaState.get? k = some .released
  rank : m'.nextReplicaRank = m.nextReplicaRank

variable {m m' : LLMServerManager} {k : ReplicaKey}

theorem Kept.refl (m : LLMServerManager) : Kept m m := ⟨rfl, fun _ h => h, fun _ h => h, rfl⟩

theorem Kept.of_eq (hk : m'.replicaKind = m.replicaKind) (hs : m'.replicaState = m.replicaState)
    (hr : m'.nextReplicaRank = m.nextReplicaRank) : Kept m m' :=
  ⟨hk, fun _ h => hs ▸ h, fun _ h => hs ▸ h, hr⟩

theorem transition_kept {st : ReplicaState} (h : m.transitionReplica k st = .ok m') :
    Kept m m' ∧ m'.borrowedOperations = m.borrowedOperations := by
  rcases transitionReplica_ok h with ⟨rfl, -⟩ | ⟨rfl, cur, kind, hs, -, ha, -⟩
  · exact ⟨.refl m', rfl⟩
  · refine ⟨⟨rfl, fun j hj => ?_, fun j hj => ?_, rfl⟩, rfl⟩
    · show ((m.replicaState.insert k st).get? j).isSome = true
      rw [Dict.get?_insert]
      split
      · rfl
      · exact hj
    · show (m.replicaState.insert k st).get? j = some .released
      rw [Dict.get?_insert, if_neg]
      · exact hj
      · rintro rfl
        rw [hs] at hj
        cases hj
        simp [ReplicaState.allowed] at ha

theorem creation?_insert {leaseId j : String} {rec : BorrowedRecord} :
    { m with borrowedOperations := m.borrowedOperations.insert leaseId rec }.creation? j =
      if leaseId = j then some ⟨rec.resolved, rec.error, rec.result⟩ else m.creation? j := by
  unfold creation?
  dsimp only
  rw [Dict.get?_insert]
  split <;> rfl

/-- The other methods keep what a record says of its creation. -/
theorem service_kept (f : Service) : Kept m (f.exec m) ∧ (f.exec m).creation? = m.creation? := by
  cases f with
  | transition key state =>
    dsimp only [Service.exec]
    cases ht : m.transitionReplica key state with
    | error e => exact ⟨.refl m, rfl⟩
    | ok m' =>
      obtain ⟨hk, hb⟩ := transition_kept ht
      exact ⟨hk, funext fun j => congrArg (fun b => (Dict.get? b j).map _) hb⟩
  | activate key =>
    dsimp only [Service.exec, activateService]
    split <;> exact ⟨.of_eq rfl rfl rfl, rfl⟩
  | deactivate key =>
    dsimp only [Service.exec, deactivateService]
    split <;> exact ⟨.of_eq rfl rfl rfl, rfl⟩
  | destroyed key evidence =>
    dsimp only [Service.exec]
    cases hb : m.borrowedRecordForKey key with
    | error e => exact ⟨.refl m, rfl⟩
    | ok entry =>
      refine ⟨.of_eq rfl rfl rfl, funext fun j => ?_⟩
      dsimp only
      rw [creation?_insert]
      split
      · rename_i hj
        rw [← hj, creation?, (borrowedRecordForKey_eq hb).1]
        rfl
      · rfl
  | slept operationId key evidence => exact ⟨.of_eq rfl rfl rfl, rfl⟩

/-- The record of one lease is rewritten, the Manager otherwise kept. -/
structure Rewritten (m m' : LLMServerManager) (leaseId : String) (f : Creation → Creation) : Prop where
  kept : Kept m m'
  creation : ∀ j, m'.creation? j = if leaseId = j then (m.creation? j).map f else m.creation? j

end LLMServerManager

open LLMServerManager

/-- A compensated preparation finds its target unregistered or released. -/
def Compensated (q : Request) (m : LLMServerManager) (answer : Except PyErr Prepared) : Prop :=
  ∀ key operationId spec evidence, q = .prepare key operationId spec →
    answer = .ok (.released evidence) →
      m.replicaState.get? key = none ∨ m.replicaState.get? key = some .released

/-- What a call does to the Manager `m` on its way from one stage to the next. -/
inductive Goes (q : Request) (m : LLMServerManager) : LLMServerManager → Stage → Stage → Prop
  | quits {answer : Except PyErr Prepared} (hc : Compensated q m answer)
    (hr : ∀ address, answer = .ok (.runtime address) → ∃ c, m.creation? q.spec.leaseId = some c ∧
      c.error = none ∧ c.result ≠ none) : Goes q m m .called (.ended answer)
  | reserves {n : NormalSpec} (hl : n.spec.leaseId = q.spec.leaseId)
    (hnew : m.creation? n.spec.leaseId = none) (hkey : m.replicaState.contains n.key = false) :
    Goes q m (m.reserve n) .called (.resolving n m.nextReplicaRank)
  | builds {n : NormalSpec} {rank : Nat} : Goes q m m (.resolving n rank) (.building n rank)
  | unwinds {n : NormalSpec} {rank : Nat} {e : PyErr} {r : Replica} :
    Goes q m m (.building n rank) (.cleaning n e r)
  | finishes {m' : LLMServerManager} {n : NormalSpec} {rank : Nat} {address : String}
    (hw : Rewritten m m' n.spec.leaseId fun c => { c with result := some address }) :
    Goes q m m' (.building n rank) (.ended (.ok (.runtime address)))
  | fails {m' : LLMServerManager} {stage : Stage} {n : NormalSpec} {e : PyErr}
    {answer : Except PyErr Prepared} (hn : stage.creates = some n)
    (hw : Rewritten m m' n.spec.leaseId fun c => { c with error := some e, result := none })
    (hc : Compensated q m' answer) (ha : ∀ address, answer ≠ .ok (.runtime address)) :
    Goes q m m' stage (.ended answer)

namespace Request

variable {d : Deployment} {q : Request} {s t : TaskState} {o : Choice} {n : NormalSpec}

theorem handle_ok (e : PyErr) :
    (q.handle s o e).2.manager = s.manager ∧ Compensated q s.manager (q.handle s o e).1 ∧
      ∀ address, (q.handle s o e).1 ≠ .ok (.runtime address) := by
  cases q with
  | create spec => exact ⟨rfl, nofun, nofun⟩
  | prepare key operationId spec =>
    unfold handle compensateAdd
    dsimp only
    split
    · rename_i hs
      have hs' : s.manager.replicaState.get? key = none ∨
          s.manager.replicaState.get? key = some .released := hs.imp id And.right
      split
      · exact ⟨rfl, nofun, nofun⟩
      split
      · exact ⟨rfl, nofun, nofun⟩
      · refine ⟨rfl, ?_, nofun⟩
        rintro key' operationId' spec' evidence' ⟨⟩ -
        exact hs'
    · exact ⟨rfl, nofun, nofun⟩

theorem recordFailure_ok {e : PyErr} {runtime : Option Replica}
    (hk : s.manager.replicaKind.get? n.key = some .borrowed) :
    ∃ e', Rewritten s.manager (recordFailure n e runtime s o).2.manager n.spec.leaseId
      fun c => { c with error := some e', result := none } := by
  refine ⟨e, ?_⟩
  unfold recordFailure
  cases hb : s.manager.borrowedOperations.get? n.spec.leaseId with
  | none =>
    refine ⟨.refl _, fun j => ?_⟩
    show s.manager.creation? j = _
    by_cases hj : n.spec.leaseId = j
    · rw [if_pos hj, ← hj, creation?, hb]
      rfl
    · rw [if_neg hj]
  | some record =>
    dsimp only
    -- the record is rewritten whatever becomes of the key
    have hwrite : ∀ {m : LLMServerManager}, Kept s.manager m →
        m.borrowedOperations = s.manager.borrowedOperations →
        Rewritten s.manager
          { m with
            borrowedOperations := m.borrowedOperations.insert n.spec.leaseId
              { record with error := some e, result := none } }
          n.spec.leaseId fun c => { c with error := some e, result := none } := by
      intro m hkept hm
      refine ⟨⟨hkept.kind, hkept.registered, hkept.released, hkept.rank⟩, fun j => ?_⟩
      rw [creation?_insert]
      by_cases hj : n.spec.leaseId = j
      · rw [if_pos hj, if_pos hj, ← hj, creation?, hb]
        rfl
      · rw [if_neg hj, if_neg hj, creation?, hm]
        rfl
    split
    · rename_i e' hmoved
      split at hmoved
      · rename_i hs
        have hlands : ∀ b : Bool, s.manager.transitionReplica n.key
            (if b then .released else .quarantined) =
              .ok (s.manager.move n.key (if b then .released else .quarantined)) := by
          intro b
          cases b <;> exact transitionReplica_eq hs hk (by decide) (by simp [Enterable])
        rw [hlands] at hmoved
        cases hmoved
      · cases hmoved
    · rename_i m hmoved
      split at hmoved
      · obtain ⟨hkept, hm⟩ := transition_kept hmoved
        exact hwrite hkept hm
      · cases hmoved
        exact hwrite (.refl _) rfl

theorem fail_goes {stage : Stage} {e : PyErr} {runtime : Option Replica}
    (hn : stage.creates = some n) (hk : s.manager.replicaKind.get? n.key = some .borrowed) :
    Goes q s.manager (q.fail s o n e runtime).2.manager stage (q.fail s o n e runtime).1 := by
  obtain ⟨e', hw⟩ : ∃ e', Rewritten s.manager (recordFailure n e runtime s o).2.manager n.spec.leaseId
      fun c => { c with error := some e', result := none } := recordFailure_ok hk
  have hclose : ∀ (t : TaskState) (e'' : PyErr), Rewritten s.manager t.manager n.spec.leaseId
      (fun c => { c with error := some e', result := none }) →
      Goes q s.manager (close (q.handle t o e'')).2.manager stage (close (q.handle t o e'')).1 := by
    intro t e'' hw
    obtain ⟨hm, hc, ha⟩ := handle_ok (q := q) (s := t) (o := o) e''
    exact .fails hn (hm ▸ hw) (hm ▸ hc) ha
  unfold fail
  cases hr : recordFailure n e runtime s o with
  | mk r t =>
    rw [hr] at hw
    cases r with
    | ok u => exact hclose t e hw
    | error e'' => exact hclose t e'' hw

theorem world_frame {f : Except (PyErr × Option Replica) Replica × TaskState} {rank : Nat}
    (h : launchBorrowed d n rank s o = f) : f.2.manager = s.manager := by
  subst h
  unfold launchBorrowed
  dsimp only
  split <;> rfl

theorem unwind_goes {rank : Nat} {e : PyErr} {runtime : Option Replica}
    (hk : s.manager.replicaKind.get? n.key = some .borrowed) :
    Goes q s.manager (q.unwind s o n e runtime).2.manager (.building n rank)
      (q.unwind s o n e runtime).1 := by
  unfold unwind
  cases runtime with
  | none => exact fail_goes rfl hk
  | some r =>
    dsimp only
    split
    · exact fail_goes rfl hk
    · exact .unwinds

theorem build_goes {rank : Nat} (hk : s.manager.replicaKind.get? n.key = some .borrowed) :
    Goes q s.manager (q.build d s o n rank).2.manager (.building n rank) (q.build d s o n rank).1 := by
  unfold build
  cases hl : launchBorrowed d n rank s o with
  | mk r t =>
    have ht : t.manager = s.manager := world_frame hl
    rw [← ht] at hk ⊢
    cases r with
    | error p => exact unwind_goes hk
    | ok r =>
      dsimp only
      unfold enterBorrowed
      cases hb : t.manager.borrowedOperations.get? n.spec.leaseId with
      | none => exact unwind_goes hk
      | some record =>
        refine .finishes ⟨.of_eq rfl rfl rfl, fun j => ?_⟩
        show { t.manager with
          borrowedOperations := t.manager.borrowedOperations.insert n.spec.leaseId
            { record with result := some r.address } }.creation? j = _
        rw [creation?_insert]
        by_cases hj : n.spec.leaseId = j
        · rw [if_pos hj, if_pos hj, ← hj, creation?, hb]
          rfl
        · rw [if_neg hj, if_neg hj]

theorem validateBorrowedSpec_lease {now : Nat} {spec : BorrowedSpec}
    (h : validateBorrowedSpec d now spec = .ok n) : n.spec.leaseId = spec.leaseId := by
  unfold validateBorrowedSpec at h
  iterate 8 (split at h; · cases h)
  split at h
  · cases h
  split at h
  · cases h
  dsimp only at h
  split at h
  · cases h
  · cases h
    rfl

/-- The reservation is refused, answers for an earlier creation, or opens a record. -/
theorem reserveBorrowed_cases (spec : BorrowedSpec) :
    (∃ e, reserveBorrowed d spec s o = (.error e, s)) ∨
    (∃ address c, reserveBorrowed d spec s o = (.ok (.inl address), s) ∧
      s.manager.creation? spec.leaseId = some c ∧ c.error = none ∧ c.result ≠ none) ∨
    ∃ n, validateBorrowedSpec d o.now spec = .ok n ∧ s.manager.creation? spec.leaseId = none ∧
      s.manager.replicaState.contains n.key = false ∧
      reserveBorrowed d spec s o = (.ok (.inr (n, s.manager.nextReplicaRank)),
        { s with manager := s.manager.reserve n }) := by
  unfold reserveBorrowed
  cases hv : validateBorrowedSpec d o.now spec with
  | error e => exact .inl ⟨e, rfl⟩
  | ok n =>
    have hl := validateBorrowedSpec_lease hv
    dsimp only
    rw [hl]
    cases hb : s.manager.borrowedOperations.get? spec.leaseId with
    | some existing =>
      have hc : s.manager.creation? spec.leaseId =
          some ⟨existing.resolved, existing.error, existing.result⟩ := by rw [creation?, hb]; rfl
      dsimp only
      split
      · exact .inl ⟨_, rfl⟩
      split
      · exact .inl ⟨_, rfl⟩
      · rename_i he hr
        exact .inr (.inl ⟨_, _, rfl, hc, he, by simp [hr]⟩)
      · exact .inl ⟨_, rfl⟩
    | none =>
      dsimp only
      by_cases hk : s.manager.replicaState.contains n.key = true
      · rw [if_pos hk]
        exact .inl ⟨_, rfl⟩
      · rw [if_neg hk, register_creating
          (m := { s.manager with nextReplicaRank := s.manager.nextReplicaRank + 1 }) hk]
        refine .inr (.inr ⟨n, rfl, by rw [creation?, hb]; rfl, by simpa using hk, ?_⟩)
        unfold LLMServerManager.reserve
        rw [hl]

theorem bind_manager {r : Except PyErr Unit} (h : q.bind s o = (r, t)) : t.manager = s.manager := by
  cases q with
  | create spec => cases h; rfl
  | prepare key operationId spec =>
    unfold bind bindAdd at h
    dsimp only at h
    split at h
    · cases h; rfl
    iterate 3 (split at h; · cases h; rfl)
    cases h; rfl

theorem enter_goes : Goes q s.manager (q.enter d s o).2.manager .called (q.enter d s o).1 := by
  unfold enter
  cases hb : q.bind s o with
  | mk r t =>
    have hm := bind_manager hb
    rw [← hm]
    cases r with
    | error e => exact .quits nofun nofun
    | ok u =>
      show Goes q t.manager (q.reserve d t o).2.manager .called (q.reserve d t o).1
      unfold reserve
      rcases reserveBorrowed_cases (d := d) (s := t) (o := o) q.spec with
        ⟨e, hr⟩ | ⟨address, c, hr, hc, he, hres⟩ | ⟨n, hv, hnew, hkey, hr⟩ <;> rw [hr]
      · obtain ⟨hm, hc, ha⟩ := handle_ok (q := q) (s := t) (o := o) e
        show Goes q t.manager (q.handle t o e).2.manager .called (.ended (q.handle t o e).1)
        rw [hm]
        exact .quits hc fun address he => absurd he (ha address)
      · exact .quits nofun fun _ _ => ⟨c, hc, he, hres⟩
      · have hl := validateBorrowedSpec_lease hv
        exact .reserves hl (hl ▸ hnew) hkey

/-- What a call does, whatever goes wrong. -/
theorem go_goes {stage : Stage}
    (hk : ∀ n, stage.creates = some n → s.manager.replicaKind.get? n.key = some .borrowed)
    (hs : ∀ answer, stage ≠ .ended answer) :
    Goes q s.manager (q.go d s o stage).2.manager stage (q.go d s o stage).1 := by
  cases stage with
  | called => exact enter_goes
  | resolving n rank =>
    show Goes q s.manager (q.resolve d s o n rank).2.manager _ (q.resolve d s o n rank).1
    unfold resolve
    split
    · exact fail_goes rfl (hk n rfl)
    · exact .builds
  | building n rank => exact build_goes (hk n rfl)
  | cleaning n e r =>
    have hm : (cleanupFailed (some r) s o).2.manager = s.manager := by
      unfold cleanupFailed
      dsimp only
      split <;> rfl
    show Goes q s.manager (q.fail (cleanupFailed (some r) s o).2 o n e (some r)).2.manager _
      (q.fail (cleanupFailed (some r) s o).2 o n e (some r)).1
    rw [← hm]
    exact fail_goes rfl (hm ▸ hk n rfl)
  | ended answer => exact absurd rfl (hs answer)

end Request

/-! ## The fence -/

namespace BorrowSystem

variable {m m' : LLMServerManager} {calls : List (Request × Stage)} {i : Nat} {q : Request}
  {stage stage' : Stage} {n : NormalSpec}

/-- Every record stands under its lease, and is of a registered borrowed key that no other has. -/
structure Recorded (m : LLMServerManager) : Prop where
  lease : ∀ {leaseId c}, m.creation? leaseId = some c → c.resolved.spec.leaseId = leaseId
  kind : ∀ {leaseId c}, m.creation? leaseId = some c →
    m.replicaKind.get? c.resolved.key = some .borrowed
  registered : ∀ {leaseId c}, m.creation? leaseId = some c →
    m.replicaState.contains c.resolved.key = true
  key : ∀ {leaseId leaseId' c c'}, m.creation? leaseId = some c → m.creation? leaseId' = some c' →
    c.resolved.key = c'.resolved.key → leaseId = leaseId'

theorem Recorded.kept (h : Recorded m) (hk : Kept m m')
    (hc : ∀ {leaseId c'}, m'.creation? leaseId = some c' →
      ∃ c, m.creation? leaseId = some c ∧ c'.resolved = c.resolved) : Recorded m' := by
  refine ⟨fun hc' => ?_, fun hc' => ?_, fun hc' => ?_, fun hc' hd' he => ?_⟩ <;>
    obtain ⟨c, hc₀, hr⟩ := hc hc'
  · rw [hr]
    exact h.lease hc₀
  · rw [hr, hk.kind]
    exact h.kind hc₀
  · rw [hr]
    exact hk.registered _ (h.registered hc₀)
  · obtain ⟨c', hc₁, hr'⟩ := hc hd'
    exact h.key hc₀ hc₁ (by rw [← hr, ← hr', he])

theorem rewritten_resolved {leaseId : String} {f : Creation → Creation}
    (hw : Rewritten m m' leaseId f) (hf : ∀ c, (f c).resolved = c.resolved) {j : String} {c' : Creation}
    (hc : m'.creation? j = some c') : ∃ c, m.creation? j = some c ∧ c'.resolved = c.resolved := by
  rw [hw.creation] at hc
  split at hc
  · obtain ⟨c, hc₀, rfl⟩ := Option.map_eq_some_iff.1 hc
    exact ⟨c, hc₀, hf c⟩
  · exact ⟨c', hc, rfl⟩

theorem creation?_reserve {j : String} : (m.reserve n).creation? j =
    if n.spec.leaseId = j then some ⟨n, none, none⟩ else m.creation? j :=
  creation?_insert (m := { m with
    nextReplicaRank := m.nextReplicaRank + 1
    replicaKind := m.replicaKind.insert n.key .borrowed
    replicaState := m.replicaState.insert n.key .creating })

theorem Recorded.reserve (h : Recorded m) (hkey : m.replicaState.contains n.key = false) :
    Recorded (m.reserve n) := by
  have hcases : ∀ {leaseId c}, (m.reserve n).creation? leaseId = some c →
      leaseId = n.spec.leaseId ∧ c = ⟨n, none, none⟩ ∨
        m.creation? leaseId = some c ∧ n.key ≠ c.resolved.key := by
    intro leaseId c hc
    rw [creation?_reserve] at hc
    split at hc
    · exact .inl ⟨by symm; assumption, (Option.some.inj hc).symm⟩
    · refine .inr ⟨hc, fun he => ?_⟩
      rw [he, h.registered hc] at hkey
      cases hkey
  refine ⟨fun hc => ?_, fun hc => ?_, fun hc => ?_, fun hc hd he => ?_⟩ <;>
    obtain ⟨rfl, rfl⟩ | ⟨hc, hne⟩ := hcases hc
  · rfl
  · exact h.lease hc
  · exact Dict.get?_insert_self ..
  · show (m.replicaKind.insert n.key .borrowed).get? _ = _
    rw [Dict.get?_insert_ne _ _ hne]
    exact h.kind hc
  · show ((m.replicaState.insert n.key .creating).get? n.key).isSome = true
    rw [Dict.get?_insert_self]
    rfl
  · show ((m.replicaState.insert n.key .creating).get? _).isSome = true
    rw [Dict.get?_insert_ne _ _ hne]
    exact h.registered hc
  · obtain ⟨rfl, rfl⟩ | ⟨hd, hne⟩ := hcases hd
    · rfl
    · exact absurd he hne
  · obtain ⟨rfl, rfl⟩ | ⟨hd, -⟩ := hcases hd
    · exact absurd he.symm hne
    · exact h.key hc hd he

/-- A creation under way is of the lease that was asked for, whose record is open, and no other call
creates for it. -/
structure Sole (m : LLMServerManager) (calls : List (Request × Stage)) : Prop where
  asked : ∀ {i : Nat} {q : Request} {stage : Stage} {n : NormalSpec},
    calls[i]? = some (q, stage) → stage.creates = some n → n.spec.leaseId = q.spec.leaseId
  opened : ∀ {i : Nat} {q : Request} {stage : Stage} {n : NormalSpec},
    calls[i]? = some (q, stage) → stage.creates = some n →
      m.creation? n.spec.leaseId = some ⟨n, none, none⟩
  alone : ∀ {i j : Nat} {q q' : Request} {stage stage' : Stage} {n n' : NormalSpec},
    calls[i]? = some (q, stage) → calls[j]? = some (q', stage') → stage.creates = some n →
      stage'.creates = some n' → n.spec.leaseId = n'.spec.leaseId → i = j

/-- A call goes on with the creation it has, or without one. -/
theorem Sole.move (h : Sole m calls) (hi : calls[i]? = some (q, stage))
    (hn : ∀ n, stage'.creates = some n → stage.creates = some n)
    (hm : ∀ {j : Nat} {q' : Request} {stage₁ : Stage} {n' : NormalSpec},
      (calls.set i (q, stage'))[j]? = some (q', stage₁) → stage₁.creates = some n' →
        m'.creation? n'.spec.leaseId = m.creation? n'.spec.leaseId) :
    Sole m' (calls.set i (q, stage')) := by
  -- where a call that creates now has been before
  have hback : ∀ {j : Nat} {q' : Request} {stage₁ : Stage} {n' : NormalSpec},
      (calls.set i (q, stage'))[j]? = some (q', stage₁) → stage₁.creates = some n' →
        ∃ stage₀, calls[j]? = some (q', stage₀) ∧ stage₀.creates = some n' := by
    intro j q' stage₁ n' hj hc
    obtain ⟨rfl, he⟩ | ⟨-, hj⟩ := thread_set hj
    · cases he
      exact ⟨stage, hi, hn _ hc⟩
    · exact ⟨stage₁, hj, hc⟩
  refine ⟨fun hj hc => ?_, fun hj hc => ?_, fun hj hk hc hd he => ?_⟩ <;>
    obtain ⟨stage₀, hj₀, hc₀⟩ := hback hj hc
  · exact h.asked hj₀ hc₀
  · rw [hm hj hc]
    exact h.opened hj₀ hc₀
  · obtain ⟨stage₁, hk₀, hd₀⟩ := hback hk hd
    exact h.alone hj₀ hk₀ hc₀ hd₀ he

/-- A call ends, and the record of its creation with it. -/
theorem Sole.ends (h : Sole m calls) (hi : calls[i]? = some (q, stage))
    (hn : stage.creates = some n) {f : Creation → Creation} (hw : Rewritten m m' n.spec.leaseId f)
    (answer : Except PyErr Prepared) : Sole m' (calls.set i (q, .ended answer)) := by
  refine h.move hi nofun fun {j q' stage₁ n'} hj hc => ?_
  obtain ⟨-, he⟩ | ⟨hji, hj⟩ := thread_set hj
  · cases he
    cases hc
  · rw [hw.creation, if_neg fun he => hji (h.alone hi hj hn hc he).symm]

theorem Sole.reserve (h : Sole m calls) (hl : n.spec.leaseId = q.spec.leaseId) {rank : Nat}
    (hnew : m.creation? n.spec.leaseId = none) :
    Sole (m.reserve n) (calls.set i (q, .resolving n rank)) := by
  -- nobody creates for a lease without a record
  have hfree : ∀ {j : Nat} {q' : Request} {stage₁ : Stage} {n' : NormalSpec},
      calls[j]? = some (q', stage₁) → stage₁.creates = some n' → n.spec.leaseId ≠ n'.spec.leaseId := by
    intro j q' stage₁ n' hj hc he
    rw [he, h.opened hj hc] at hnew
    cases hnew
  refine ⟨fun hj hc => ?_, fun hj hc => ?_, fun hj hk hc hd he => ?_⟩ <;>
    obtain ⟨rfl, hq⟩ | ⟨-, hj'⟩ := thread_set hj
  · cases hq
    cases hc
    exact hl
  · exact h.asked hj' hc
  · cases hq
    cases hc
    rw [creation?_reserve, if_pos rfl]
  · rw [creation?_reserve, if_neg (hfree hj' hc)]
    exact h.opened hj' hc
  · obtain ⟨rfl, -⟩ | ⟨-, hk'⟩ := thread_set hk
    · rfl
    · cases hq
      cases hc
      exact absurd he (hfree hk' hd)
  · obtain ⟨rfl, hq⟩ | ⟨-, hk'⟩ := thread_set hk
    · cases hq
      cases hd
      exact absurd he.symm (hfree hj' hc)
    · exact h.alone hj' hk' hc hd he

/-! ## The history -/

variable {calls' : List (Request × Stage)} {built : List (String × ReplicaKey)}
  {allocated : List Nat} {ready failed : List String} {base : Nat}

/-- Every runtime object has its record, no lease has two, and a creation that resolves has none. -/
structure Built (m : LLMServerManager) (calls : List (Request × Stage))
    (built : List (String × ReplicaKey)) : Prop where
  unbuilt : ∀ {i : Nat} {q : Request} {n : NormalSpec} {rank : Nat},
    calls[i]? = some (q, .resolving n rank) → ∀ b ∈ built, b.1 ≠ n.spec.leaseId
  known : ∀ b ∈ built, ∃ c, m.creation? b.1 = some c ∧ c.resolved.key = b.2
  once : (built.map Prod.fst).Nodup

theorem Built.frame (h : Built m calls built)
    (hcalls : ∀ {j : Nat} {q' : Request} {n' : NormalSpec} {rank : Nat},
      calls'[j]? = some (q', .resolving n' rank) → calls[j]? = some (q', .resolving n' rank))
    (hm : ∀ {l c}, m.creation? l = some c → ∃ c', m'.creation? l = some c' ∧ c'.resolved = c.resolved) :
    Built m' calls' built := by
  refine ⟨fun hj => h.unbuilt (hcalls hj), fun b hb => ?_, h.once⟩
  obtain ⟨c, hc, hk⟩ := h.known b hb
  obtain ⟨c', hc', hr⟩ := hm hc
  exact ⟨c', hc', hr ▸ hk⟩

/-- A call that goes on and does not resolve leaves those that do where they are. -/
theorem resolving_set {j : Nat} {q' : Request} {n' : NormalSpec} {rank : Nat}
    (hs : ∀ n rank, stage' ≠ .resolving n rank)
    (h : (calls.set i (q, stage'))[j]? = some (q', .resolving n' rank)) :
    calls[j]? = some (q', .resolving n' rank) ∧ j ≠ i := by
  obtain ⟨-, he⟩ | ⟨hji, hj⟩ := thread_set h
  · cases he
    exact absurd rfl (hs n' rank)
  · exact ⟨hj, hji⟩

theorem Built.reserve (h : Built m calls built) {rank : Nat}
    (hnew : m.creation? n.spec.leaseId = none) :
    Built (m.reserve n) (calls.set i (q, .resolving n rank)) built := by
  have hold : ∀ b ∈ built, b.1 ≠ n.spec.leaseId := by
    intro b hb he
    obtain ⟨c, hc, -⟩ := h.known b hb
    rw [he, hnew] at hc
    cases hc
  refine ⟨fun {j q' n' rank'} hj => ?_, fun b hb => ?_, h.once⟩
  · obtain ⟨-, he⟩ | ⟨-, hj⟩ := thread_set hj
    · cases he
      exact hold
    · exact h.unbuilt hj
  · rw [creation?_reserve, if_neg (hold b hb).symm]
    exact h.known b hb

theorem Built.build (h : Built m calls built) (ho : Sole m calls) {rank : Nat}
    (hi : calls[i]? = some (q, .resolving n rank)) :
    Built m (calls.set i (q, .building n rank)) (built ++ [(n.spec.leaseId, n.key)]) := by
  refine ⟨fun {j q' n' rank'} hj b hb => ?_, fun b hb => ?_, ?_⟩
  · obtain ⟨hj, hji⟩ := resolving_set (by simp) hj
    rcases List.mem_append.1 hb with hb | hb
    · exact h.unbuilt hj b hb
    · cases List.mem_singleton.1 hb
      exact fun he => hji (ho.alone hi hj rfl rfl he).symm
  · rcases List.mem_append.1 hb with hb | hb
    · exact h.known b hb
    · cases List.mem_singleton.1 hb
      exact ⟨_, ho.opened hi rfl, rfl⟩
  · rw [List.map_append, List.nodup_append]
    refine ⟨h.once, List.nodup_singleton _, ?_⟩
    intro l hl l' hl' he
    obtain ⟨b, hb, rfl⟩ := List.mem_map.1 hl
    cases List.mem_singleton.1 hl'
    exact h.unbuilt hi b hb he

/-- Ranks are given out from `base` on, each above those before it. -/
structure Ranked (base : Nat) (m : LLMServerManager) (allocated : List Nat) : Prop where
  base_le : base ≤ m.nextReplicaRank
  range : ∀ rank ∈ allocated, base ≤ rank ∧ rank < m.nextReplicaRank
  increasing : allocated.Pairwise (· < ·)

theorem Ranked.reserve (h : Ranked base m allocated) :
    Ranked base (m.reserve n) (allocated ++ [m.nextReplicaRank]) := by
  refine ⟨?_, fun rank hr => ?_, ?_⟩
  · show base ≤ m.nextReplicaRank + 1
    have := h.base_le
    omega
  · show base ≤ rank ∧ rank < m.nextReplicaRank + 1
    rcases List.mem_append.1 hr with hr | hr
    · have := h.range rank hr
      omega
    · cases List.mem_singleton.1 hr
      have := h.base_le
      omega
  · rw [List.pairwise_append]
    refine ⟨h.increasing, List.pairwise_singleton _ _, fun rank hr rank' hr' => ?_⟩
    cases List.mem_singleton.1 hr'
    exact (h.range rank hr).2

/-- A call that cleans up after a failed creation of the lease. -/
def Cleaning (calls : List (Request × Stage)) (l : String) : Prop :=
  ∃ (i : Nat) (q : Request) (n : NormalSpec) (e : PyErr) (r : Replica),
    calls[i]? = some (q, .cleaning n e r) ∧ n.spec.leaseId = l

/-- The creation of the lease has a result. -/
def Readied (m : LLMServerManager) (l : String) : Prop :=
  ∃ c, m.creation? l = some c ∧ c.error = none ∧ c.result ≠ none

/-- The creation of the lease has an error, or a call cleans up after it. -/
def Failing (m : LLMServerManager) (calls : List (Request × Stage)) (l : String) : Prop :=
  ∃ c, m.creation? l = some c ∧ c.result = none ∧ (c.error ≠ none ∨ Cleaning calls l)

theorem Failing.not_readied {l : String} (h : Failing m calls l) : ¬ Readied m l := by
  rintro ⟨c, hc, -, hr⟩
  obtain ⟨c', hc', hr', -⟩ := h
  rw [hc] at hc'
  cases hc'
  exact hr hr'

theorem Cleaning.set {l : String} (h : Cleaning calls l) (hi : calls[i]? = some (q, stage))
    (hl : ∀ n e r, stage = .cleaning n e r → n.spec.leaseId ≠ l) :
    Cleaning (calls.set i (q, stage')) l := by
  obtain ⟨j, q', n, e, r, hj, hn⟩ := h
  have hne : i ≠ j := by
    rintro rfl
    rw [hi] at hj
    cases hj
    exact hl n e r rfl hn
  exact ⟨j, q', n, e, r, by rw [List.getElem?_set_ne hne]; exact hj, hn⟩

theorem readied_reserve {l : String} (hnew : m.creation? n.spec.leaseId = none) (h : Readied m l) :
    Readied (m.reserve n) l := by
  obtain ⟨c, hc, he, hr⟩ := h
  refine ⟨c, ?_, he, hr⟩
  rw [creation?_reserve, if_neg, hc]
  rintro rfl
  rw [hnew] at hc
  cases hc

theorem failing_reserve {l : String} (hnew : m.creation? n.spec.leaseId = none)
    (h : Failing m calls l) (hc : Cleaning calls l → Cleaning calls' l) :
    Failing (m.reserve n) calls' l := by
  obtain ⟨c, hm, hr, he⟩ := h
  refine ⟨c, ?_, hr, he.imp id hc⟩
  rw [creation?_reserve, if_neg, hm]
  rintro rfl
  rw [hnew] at hm
  cases hm

theorem Failing.frame {l : String} (h : Failing m calls l)
    (hc : Cleaning calls l → Cleaning calls' l) : Failing m calls' l := by
  obtain ⟨c, hm, hr, he⟩ := h
  exact ⟨c, hm, hr, he.imp id hc⟩

/-- The rest of the system is not touched by the end of one creation. -/
theorem Sole.readied_ne (h : Sole m calls) (hi : calls[i]? = some (q, stage))
    (hn : stage.creates = some n) {l : String} (hr : Readied m l) : n.spec.leaseId ≠ l := by
  rintro rfl
  obtain ⟨c, hc, -, hres⟩ := hr
  rw [h.opened hi hn] at hc
  cases hc
  exact hres rfl

theorem readied_rewritten {l leaseId : String} {f : Creation → Creation}
    (hw : Rewritten m m' leaseId f) (hne : leaseId ≠ l) (h : Readied m l) : Readied m' l := by
  obtain ⟨c, hc, he⟩ := h
  exact ⟨c, by rw [hw.creation, if_neg hne, hc], he⟩

theorem failing_rewritten {l leaseId : String} {f : Creation → Creation}
    (hw : Rewritten m m' leaseId f) (hne : leaseId ≠ l) (h : Failing m calls l) :
    Failing m' calls l := by
  obtain ⟨c, hc, he⟩ := h
  exact ⟨c, by rw [hw.creation, if_neg hne, hc], he⟩

/-- A lease that has answered has a result, one that has failed has an error or is cleaned up. -/
structure Answered (m : LLMServerManager) (calls : List (Request × Stage))
    (ready failed : List String) : Prop where
  ready : ∀ l ∈ ready, Readied m l
  failed : ∀ l ∈ failed, Failing m calls l

/-- The calls, the records and what has happened agree; `base` is the first rank to be given out. -/
structure BorrowOk (base : Nat) (s : BorrowSystem) : Prop where
  recorded : Recorded s.task.manager
  sole : Sole s.task.manager s.calls
  built : Built s.task.manager s.calls s.built
  ranked : Ranked base s.task.manager s.allocated
  answered : Answered s.task.manager s.calls s.ready s.failed

variable {s : BorrowSystem} {t : TaskState}

/-- The system after a call has gone from one stage to the next. -/
def moved (s : BorrowSystem) (t : TaskState) (i : Nat) (q : Request) (stage stage' : Stage) :
    BorrowSystem where
  task := t
  calls := s.calls.set i (q, stage')
  allocated := s.allocated ++ stage'.allocates
  built := s.built ++ stage'.builds
  failed := s.failed ++ stage.fails stage'
  ready := s.ready ++ stage'.readies q.spec.leaseId

theorem Ranked.kept (h : Ranked base m allocated) (hm : m'.nextReplicaRank = m.nextReplicaRank) :
    Ranked base m' (allocated ++ []) := by
  rw [List.append_nil]
  exact ⟨hm ▸ h.base_le, hm ▸ h.range, h.increasing⟩

theorem Answered.rewritten (h : Answered m calls ready failed) (ho : Sole m calls)
    (hi : calls[i]? = some (q, stage)) (hn : stage.creates = some n) {f : Creation → Creation}
    (hw : Rewritten m m' n.spec.leaseId f) (hf : Failing m calls n.spec.leaseId →
      Failing m' (calls.set i (q, stage')) n.spec.leaseId) :
    Answered m' (calls.set i (q, stage')) ready failed := by
  refine ⟨fun l hl => ?_, fun l hl => ?_⟩
  · exact readied_rewritten hw (ho.readied_ne hi hn (h.ready l hl)) (h.ready l hl)
  · by_cases hne : n.spec.leaseId = l
    · exact hne ▸ hf (hne ▸ h.failed l hl)
    · refine (failing_rewritten hw hne (h.failed l hl)).frame fun hc => hc.set hi ?_
      rintro n' e r rfl
      cases hn
      exact hne

theorem Answered.append {ready' failed' : List String} (h : Answered m calls ready failed)
    (hr : ∀ l ∈ ready', Readied m l) (hf : ∀ l ∈ failed', Failing m calls l) :
    Answered m calls (ready ++ ready') (failed ++ failed') :=
  ⟨fun l hl => (List.mem_append.1 hl).elim (h.ready l) (hr l),
    fun l hl => (List.mem_append.1 hl).elim (h.failed l) (hf l)⟩

theorem fails_lease {l : String} (hn : stage.creates = some n) (hl : l ∈ stage.fails stage') :
    l = n.spec.leaseId := by
  unfold Stage.fails at hl
  split at hl
  · cases hl
  · cases hn
    exact List.mem_singleton.1 hl
  · cases hl
  · cases hn
    exact List.mem_singleton.1 hl
  · cases hl

theorem BorrowOk.of_manager (ht : t.manager = m') (hrec : Recorded m')
    (hsole : Sole m' (s.calls.set i (q, stage')))
    (hbuilt : Built m' (s.calls.set i (q, stage')) (s.built ++ stage'.builds))
    (hranked : Ranked base m' (s.allocated ++ stage'.allocates))
    (hans : Answered m' (s.calls.set i (q, stage')) (s.ready ++ stage'.readies q.spec.leaseId)
      (s.failed ++ stage.fails stage')) : BorrowOk base (s.moved t i q stage stage') := by
  subst ht
  exact ⟨hrec, hsole, hbuilt, hranked, hans⟩

theorem BorrowOk.goes (h : BorrowOk base s) (hi : s.calls[i]? = some (q, stage))
    (hg : Goes q s.task.manager m' stage stage') (ht : t.manager = m') :
    BorrowOk base (s.moved t i q stage stage') := by
  have hlease : ∀ {n : NormalSpec}, stage.creates = some n →
      s.task.manager.creation? n.spec.leaseId = some ⟨n, none, none⟩ := h.sole.opened hi
  have hsame : ∀ {l : String} {c : Creation}, s.task.manager.creation? l = some c →
      ∃ c', s.task.manager.creation? l = some c' ∧ c'.resolved = c.resolved :=
    fun hc => ⟨_, hc, rfl⟩
  -- what ends a creation writes its record only
  have hends : ∀ {n : NormalSpec} {f : Creation → Creation} {answer : Except PyErr Prepared},
      stage.creates = some n → stage' = .ended answer →
      Rewritten s.task.manager m' n.spec.leaseId f → (∀ c, (f c).resolved = c.resolved) →
      Answered m' (s.calls.set i (q, stage')) (s.ready ++ stage'.readies q.spec.leaseId)
        (s.failed ++ stage.fails stage') → BorrowOk base (s.moved t i q stage stage') := by
    rintro n f answer hn rfl hw hf hans
    refine .of_manager ht (h.recorded.kept hw.kept (rewritten_resolved hw hf)) (h.sole.ends hi hn hw _)
      ?_ (h.ranked.kept hw.kept.rank) hans
    show Built m' _ (s.built ++ [])
    rw [List.append_nil]
    refine h.built.frame (fun hj => (resolving_set (by simp) hj).1) fun {l c} hc => ?_
    rw [hw.creation]
    split
    · rw [hc]
      exact ⟨_, rfl, hf c⟩
    · exact ⟨c, hc, rfl⟩
  cases hg with
  | @quits answer hc hr =>
    refine .of_manager ht h.recorded (h.sole.move hi nofun fun _ _ => rfl) ?_ (h.ranked.kept rfl) ?_
    · show Built s.task.manager _ (s.built ++ [])
      rw [List.append_nil]
      exact h.built.frame (fun hj => (resolving_set (by simp) hj).1) hsame
    · refine Answered.append ⟨h.answered.ready, fun l hl => ?_⟩ (fun l hl => ?_) nofun
      · exact (h.answered.failed l hl).frame fun hc => hc.set hi nofun
      · unfold Stage.readies at hl
        split at hl
        · rename_i he
          cases he
          cases List.mem_singleton.1 hl
          exact hr _ rfl
        · cases hl
  | @reserves n hl hnew hkey =>
    refine .of_manager ht (h.recorded.reserve hkey) (h.sole.reserve hl hnew) ?_ h.ranked.reserve ?_
    · show Built (s.task.manager.reserve n) _ (s.built ++ [])
      rw [List.append_nil]
      exact h.built.reserve hnew
    · refine Answered.append ⟨fun l hl => ?_, fun l hl => ?_⟩ nofun nofun
      · exact readied_reserve hnew (h.answered.ready l hl)
      · exact failing_reserve hnew (h.answered.failed l hl) fun hc => hc.set hi nofun
  | @builds n rank =>
    refine .of_manager ht h.recorded (h.sole.move hi (fun _ hn => hn) fun _ _ => rfl)
      (h.built.build h.sole hi) (h.ranked.kept rfl) ?_
    refine Answered.append ⟨h.answered.ready, fun l hl => ?_⟩ nofun nofun
    exact (h.answered.failed l hl).frame fun hc => hc.set hi nofun
  | @unwinds n rank e r =>
    refine .of_manager ht h.recorded (h.sole.move hi (fun _ hn => hn) fun _ _ => rfl) ?_
      (h.ranked.kept rfl) ?_
    · show Built s.task.manager _ (s.built ++ [])
      rw [List.append_nil]
      exact h.built.frame (fun hj => (resolving_set (by simp) hj).1) hsame
    · refine Answered.append ⟨h.answered.ready, fun l hl => ?_⟩ nofun fun l hl => ?_
      · exact (h.answered.failed l hl).frame fun hc => hc.set hi nofun
      · cases List.mem_singleton.1 hl
        have hlt : i < s.calls.length := (List.getElem?_eq_some_iff.1 hi).1
        exact ⟨_, hlease rfl, rfl, .inr ⟨i, q, n, e, r, List.getElem?_set_self hlt, rfl⟩⟩
  | @finishes _ n rank address hw =>
    refine hends rfl rfl hw (fun _ => rfl)
      (.append (h.answered.rewritten h.sole hi rfl hw ?_) ?_ (List.forall_mem_nil _))
    · -- the creation that finishes has not failed
      rintro ⟨c, hc, -, he | ⟨j, q', n', e, r, hj, hl⟩⟩
      · rw [hlease rfl] at hc
        cases hc
        exact absurd rfl he
      · have hji := h.sole.alone hi hj rfl rfl hl.symm
        subst hji
        rw [hi] at hj
        cases hj
    · intro l hl
      cases List.mem_singleton.1 hl
      rw [← h.sole.asked hi rfl]
      exact ⟨⟨n, none, some address⟩, by rw [hw.creation, if_pos rfl, hlease rfl]; rfl, rfl, by simp⟩
  | @fails _ _ n e answer hn hw hc ha =>
    have hfailed : Failing m' (s.calls.set i (q, .ended answer)) n.spec.leaseId :=
      ⟨⟨n, some e, none⟩, by rw [hw.creation, if_pos rfl, hlease hn]; rfl, rfl, .inl (by simp)⟩
    refine hends hn rfl hw (fun _ => rfl)
      (.append (h.answered.rewritten h.sole hi hn hw fun _ => hfailed) ?_ ?_)
    · intro l hl
      unfold Stage.readies at hl
      split at hl
      · rename_i address he
        cases he
        exact absurd rfl (ha address)
      · cases hl
    · intro l hl
      rw [fails_lease hn hl]
      exact hfailed

/-- What the other methods and new calls leave alone. -/
theorem BorrowOk.frame (h : BorrowOk base s) (hk : Kept s.task.manager t.manager)
    (hc : t.manager.creation? = s.task.manager.creation?) : BorrowOk base { s with task := t } := by
  have hres : ∀ {l : String}, Readied s.task.manager l → Readied t.manager l := by
    rintro l ⟨c, hl, he⟩
    exact ⟨c, hc ▸ hl, he⟩
  have hfail : ∀ {l : String}, Failing s.task.manager s.calls l → Failing t.manager s.calls l := by
    rintro l ⟨c, hl, he⟩
    exact ⟨c, hc ▸ hl, he⟩
  refine ⟨h.recorded.kept hk fun hc' => ⟨_, hc ▸ hc', rfl⟩, ⟨h.sole.asked, fun hj hn => ?_, h.sole.alone⟩,
    h.built.frame id fun hl => ⟨_, hc ▸ hl, rfl⟩, ?_, ?_⟩
  · show t.manager.creation? _ = _
    rw [hc]
    exact h.sole.opened hj hn
  · exact ⟨hk.rank ▸ h.ranked.base_le, hk.rank ▸ h.ranked.range, h.ranked.increasing⟩
  · exact ⟨fun l hl => hres (h.answered.ready l hl), fun l hl => hfail (h.answered.failed l hl)⟩

theorem BorrowOk.call (h : BorrowOk base s) (q : Request) :
    BorrowOk base { s with calls := s.calls ++ [(q, .called)] } := by
  have hold : ∀ {j : Nat} {q' : Request} {stage : Stage},
      (s.calls ++ [(q, .called)])[j]? = some (q', stage) → (∀ n, stage.creates ≠ some n) ∨
        s.calls[j]? = some (q', stage) := by
    intro j q' stage hj
    obtain ⟨-, he⟩ | hj := thread_append hj
    · cases he
      exact .inl nofun
    · exact .inr hj
  have hback : ∀ {j : Nat} {q' : Request} {stage : Stage} {n : NormalSpec},
      (s.calls ++ [(q, .called)])[j]? = some (q', stage) → stage.creates = some n →
        s.calls[j]? = some (q', stage) :=
    fun hj hn => (hold hj).resolve_left fun hne => hne _ hn
  refine ⟨h.recorded, ⟨fun hj hn => h.sole.asked (hback hj hn) hn,
    fun hj hn => h.sole.opened (hback hj hn) hn,
    fun hj hk hn hn' => h.sole.alone (hback hj hn) (hback hk hn') hn hn'⟩,
    h.built.frame (fun hj => hback hj rfl) fun hc => ⟨_, hc, rfl⟩, h.ranked, h.answered.ready,
    fun l hl => (h.answered.failed l hl).frame ?_⟩
  rintro ⟨j, q', n, e, r, hj, hl⟩
  refine ⟨j, q', n, e, r, ?_, hl⟩
  rw [List.getElem?_append_left (List.getElem?_eq_some_iff.1 hj).1]
  exact hj

variable {d : Deployment}

theorem step_resume {o : Choice} (hi : s.calls[i]? = some (q, stage))
    (hs : ∀ answer, stage ≠ .ended answer) : step d (.resume i o) s =
      s.moved (q.go d s.task o stage).2 i q stage (q.go d s.task o stage).1 := by
  dsimp only [step]
  rw [hi]
  cases stage with
  | ended answer => exact absurd rfl (hs answer)
  | _ => rfl

/-- A step of a call is a step of one that has not ended. -/
theorem step_resume_cases (o : Choice) : step d (.resume i o) s = s ∨ ∃ q stage,
    s.calls[i]? = some (q, stage) ∧ (∀ answer, stage ≠ .ended answer) := by
  dsimp only [step]
  cases hi : s.calls[i]? with
  | none => exact .inl rfl
  | some p =>
    obtain ⟨q, stage⟩ := p
    cases stage with
    | ended answer => exact .inl rfl
    | _ => exact .inr ⟨q, _, rfl, nofun⟩

theorem BorrowOk.resume (h : BorrowOk base s) (o : Choice) (hi : s.calls[i]? = some (q, stage))
    (hs : ∀ answer, stage ≠ .ended answer) : Goes q s.task.manager (q.go d s.task o stage).2.manager
      stage (q.go d s.task o stage).1 :=
  Request.go_goes (fun _ hn => h.recorded.kind (h.sole.opened hi hn)) hs

theorem BorrowOk.step (h : BorrowOk base s) (l : BorrowLabel) : BorrowOk base (step d l s) := by
  cases l with
  | call q => exact h.call q
  | serve f t =>
    obtain ⟨hk, hc⟩ := service_kept (m := s.task.manager) f
    exact h.frame (t := { t with manager := f.exec s.task.manager }) hk hc
  | resume i o =>
    rcases step_resume_cases (d := d) (s := s) (i := i) o with he | ⟨q, stage, hi, hs⟩
    · rw [he]
      exact h
    · rw [step_resume hi hs]
      exact h.goes hi (h.resume o hi hs) rfl

theorem borrowOk_start {replicas : List Replica} {version : Nat} :
    BorrowOk (start d replicas version).task.manager.nextReplicaRank (start d replicas version) := by
  have hnone : ∀ {l : String} {c : Creation},
      (start d replicas version).task.manager.creation? l ≠ some c := nofun
  exact ⟨⟨fun hc => absurd hc hnone, fun hc => absurd hc hnone, fun hc => absurd hc hnone,
    fun hc => absurd hc hnone⟩, ⟨nofun, nofun, nofun⟩, ⟨nofun, nofun, List.nodup_nil⟩,
    ⟨Nat.le_refl _, nofun, .nil⟩, ⟨nofun, nofun⟩⟩

theorem borrowOk_run {s₀ : BorrowSystem} (hi : (machine d).init s₀) (h : (machine d).Run s₀ s) :
    BorrowOk s₀.task.manager.nextReplicaRank s := by
  refine h.invariant (fun u l u' hu hs _ => ?_) ?_
  · cases hs
    exact hu.step l
  · obtain ⟨replicas, version, -, rfl⟩ := hi
    exact borrowOk_start

/-- Two runtime objects of one key would be of one lease. -/
theorem Built.keys (h : Built m calls built) (hrec : Recorded m) : (built.map Prod.snd).Nodup := by
  have hkey : ∀ {b b' : String × ReplicaKey}, b ∈ built → b' ∈ built → b.2 = b'.2 → b.1 = b'.1 := by
    intro b b' hb hb' he
    obtain ⟨c, hc, hk⟩ := h.known b hb
    obtain ⟨c', hc', hk'⟩ := h.known b' hb'
    exact hrec.key hc hc' (by rw [hk, hk', he])
  have honce := h.once
  rw [List.Nodup, List.pairwise_map] at honce ⊢
  exact honce.imp_of_mem fun hb hb' hne he => hne (hkey hb hb' he)

/-- Whatever calls interleave: one runtime object for a lease and one for a key; ranks increase and
none is a native one; a call that ends where it began changes no table; and no lease has both failed
and answered RUNTIME_READY. -/
theorem creation_single {s₀ : BorrowSystem} (hi : (machine d).init s₀) (h : (machine d).Run s₀ s) :
    (s.built.map Prod.fst).Nodup ∧ (s.built.map Prod.snd).Nodup ∧
    s.allocated.Pairwise (· < ·) ∧
    (∀ r ∈ s₀.task.manager.rolloutReplicas, r.rank ∉ s.allocated) ∧
    (∀ (i : Nat) (o : Choice) (q : Request) (answer : Except PyErr Prepared),
      s.calls[i]? = some (q, .called) →
      (step d (.resume i o) s).calls[i]? = some (q, .ended answer) →
      (step d (.resume i o) s).task.manager = s.task.manager ∧
      (step d (.resume i o) s).allocated = s.allocated) ∧
    ∀ l ∈ s.failed, l ∉ s.ready := by
  have hok := borrowOk_run hi h
  refine ⟨hok.built.once, hok.built.keys hok.recorded, hok.ranked.increasing, fun r hr hm => ?_, ?_,
    fun l hf hr => (hok.answered.failed l hf).not_readied (hok.answered.ready l hr)⟩
  · obtain ⟨replicas, version, -, rfl⟩ := hi
    have hlt : r.rank < (TaskSystem.initial d replicas version).state.manager.nextReplicaRank :=
      TaskSystem.rank_lt_next hr
    have hge := (hok.ranked.range _ hm).1
    change _ ≤ r.rank at hge
    exact absurd hlt (Nat.not_lt.2 hge)
  · intro i o q answer hcall hended
    rw [step_resume hcall nofun] at hended ⊢
    have hlt : i < s.calls.length := (List.getElem?_eq_some_iff.1 hcall).1
    have hnext : (q.go d s.task o .called).1 = .ended answer := by
      have hset : (s.calls.set i (q, (q.go d s.task o .called).1))[i]? = some (q, .ended answer) := hended
      rw [List.getElem?_set_self hlt] at hset
      exact congrArg Prod.snd (Option.some.inj hset)
    have hg := hok.resume (d := d) o hcall nofun
    show (q.go d s.task o .called).2.manager = s.task.manager ∧
      s.allocated ++ (q.go d s.task o .called).1.allocates = s.allocated
    rw [hnext] at hg ⊢
    refine ⟨?_, List.append_nil _⟩
    generalize (q.go d s.task o .called).2.manager = m' at hg
    cases hg with
    | quits => rfl
    | fails hn => cases hn

/-! ### Two creations and their replays -/

section Fixture

open TaskSystem (deployment fine)

/-- A placement on the GPU of `donorClaim`. -/
def placement (operationId leaseId replicaId : String) : BorrowedSpec where
  operationId := operationId
  leaseId := leaseId
  borrowerTaskId := "borrower"
  borrowerReplicaId := replicaId
  claims := [((GroupScheduler.donorClaim.fields.insert "rank" (.int 0)).insert "node_rank"
    (.int 0)).insert "local_rank" (.int 0)]
  expiresAt := 0
  placementEpoch := 0

/-- One native replica of rank 0, and what the labels lead to. -/
def native : BorrowSystem := start deployment [⟨0, .native, "a0", ⟨"node", "pg", "g0"⟩⟩] 0

def after (ls : List BorrowLabel) : BorrowSystem := Machine.exec (step deployment) ls native

theorem init_native : (machine deployment).init native :=
  ⟨_, 0, ⟨by decide, by decide, by decide, by decide⟩, rfl⟩

/-- A creation replayed while it is under way and after; one for a key that is taken; one that fails. -/
def replays : List BorrowLabel :=
  [.call (.create (placement "a1" "L" "b-0")), .resume 0 fine, .resume 0 fine,
   .call (.create (placement "a1" "L" "b-0")), .resume 1 fine, .resume 0 fine,
   .call (.create (placement "a1" "L" "b-0")), .resume 2 fine,
   .call (.create (placement "a2" "M" "b-0")), .resume 3 fine,
   .call (.create (placement "a3" "N" "b-1")), .resume 4 fine, .resume 4 fine,
   .resume 4 { fine with inner := fun _ => .before }, .resume 4 fine,
   .call (.create (placement "a3" "N" "b-1")), .resume 5 fine]

theorem creation_single_replays : (after replays).allocated = [1, 2] ∧
    (after replays).built.map Prod.fst = ["L", "N"] ∧ (after replays).ready = ["L", "L"] ∧
    (after replays).failed = ["N"] ∧ ((after replays).built.map Prod.snd).Nodup ∧
    ∀ l ∈ (after replays).failed, l ∉ (after replays).ready := by
  have h := creation_single init_native (Machine.run_exec _ _ replays native)
  exact ⟨by decide +kernel, by decide +kernel, by decide +kernel, by decide +kernel, h.2.1, h.2.2.2.2.2⟩

end Fixture

end BorrowSystem

end ReplicaLending
