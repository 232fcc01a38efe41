import ReplicaLending.Library.Guarantee
import ReplicaLending.Task.Runs
/-!
# How the Manager's ledger evolves

The Manager never takes back what it has written down: a key keeps its kind, its record moves along
`_ALLOWED` only, a runtime stays its key's until it is released, ranks go up, and what a lease was
resolved to, what came of it and what a release has proved is written once. `Evolves` says this of two
ledgers, `Books` of two states of a task, and `books` is the contract that every step is of this kind.

| here | there (`llm_server_manager.py`) |
| --- | --- |
| `Moves`                | `_ALLOWED` (:25), in one step of the task |
| `ReplicaState.Leads`   | `_ALLOWED` (:25), any number of times |
| `Evolves.transition`   | `transition_replica` (:141) |
| `Evolves.lists`        | `activate_service`, `deactivate_service` (:213-234) |
| `Evolves.reserve`      | `create_borrowed_replica` up to the launch (:374-424) |
| `Evolves.setRecord`    | its `except` (:488-514), the evidence of `destroy` (:595) |
| `Evolves.setRuntime`   | its end (:463-474) |
| `Evolves.recordSleep`  | the evidence of `sleep` (:551) |
| `RecordedAs`           | `query_release_evidence` (:162) |
| `Narrows`              | `OperationJournal` but `begin` (`operation_journal.py`:67-104) |
-/

namespace ReplicaLending

open TaskState TaskProg LLMServerManager

/-- The state a record in this state can get to. -/
def ReplicaState.Leads : ReplicaState → ReplicaState → Prop :=
  Relation.ReflTransGen fun a b => b ∈ a.allowed

theorem ReplicaState.Leads.released {st : ReplicaState} (h : ReplicaState.released.Leads st) :
    st = .released := by
  rcases Relation.ReflTransGen.cases_head h with h | ⟨b, hb, -⟩
  · exact h.symm
  · cases hb

/-- A step of the ledger: a record stays, or makes one move that `_ALLOWED` has, or is a new one, and
CREATING. -/
def Moves (m m' : LLMServerManager) : Prop :=
  ∀ k, m'.replicaState.get? k = m.replicaState.get? k ∨
    (∃ st st', m.replicaState.get? k = some st ∧ m'.replicaState.get? k = some st' ∧ st' ∈ st.allowed) ∨
    (m.replicaState.get? k = none ∧ m'.replicaState.get? k = some .creating)

/-- What a record of a borrowed runtime says is not taken back. -/
structure BorrowedRecord.Grows (rec rec' : BorrowedRecord) : Prop where
  resolved : rec'.resolved = rec.resolved
  rank : rec'.replicaRank = rec.replicaRank
  error : ∀ {e}, rec.error = some e → rec'.error = some e
  result : ∀ {a}, rec.result = some a → rec'.result = some a
  destroyed : ∀ {ev}, rec.destroyEvidence = some ev → rec'.destroyEvidence = some ev

theorem BorrowedRecord.Grows.refl (rec : BorrowedRecord) : rec.Grows rec := ⟨rfl, rfl, id, id, id⟩

theorem BorrowedRecord.Grows.trans {a b c : BorrowedRecord} (h : a.Grows b) (h' : b.Grows c) :
    a.Grows c :=
  ⟨h'.resolved.trans h.resolved, h'.rank.trans h.rank, fun he => h'.error (h.error he),
    fun hr => h'.result (h.result hr), fun hd => h'.destroyed (h.destroyed hd)⟩

/-- A later state of the ledger. -/
structure Evolves (m m' : LLMServerManager) : Prop where
  kind : ∀ {k kind}, m.replicaKind.get? k = some kind → m'.replicaKind.get? k = some kind
  state : ∀ {k st}, m.replicaState.get? k = some st →
    ∃ st', m'.replicaState.get? k = some st' ∧ st.Leads st'
  runtime : ∀ {k r}, m.runtimeInventory.get? k = some r →
    m'.runtimeInventory.get? k = some r ∨ m'.replicaState.get? k = some .released
  rank : m.nextReplicaRank ≤ m'.nextReplicaRank
  record : ∀ {l rec}, m.borrowedOperations.get? l = some rec →
    ∃ rec', m'.borrowedOperations.get? l = some rec' ∧ rec.Grows rec'
  slept : ∀ {o p}, m.nativeReleaseEvidence.get? o = some p → m'.nativeReleaseEvidence.get? o = some p
  /-- Whoever becomes borrowed has a record. -/
  registered : ∀ {k}, m'.replicaKind.get? k = some .borrowed → m.replicaKind.get? k = some .borrowed ∨
    ∃ l rec, m'.borrowedOperations.get? l = some rec ∧ rec.resolved.key = k

namespace Evolves

variable {m m' m'' : LLMServerManager} {k : ReplicaKey} {st : ReplicaState}

theorem refl (m : LLMServerManager) : Evolves m m where
  kind h := h
  state h := ⟨_, h, .refl⟩
  runtime h := .inl h
  rank := Nat.le_refl _
  record h := ⟨_, h, .refl _⟩
  slept h := h
  registered h := .inl h

/-- A released record stays released. -/
theorem released (h : Evolves m m') (hs : m.replicaState.get? k = some .released) :
    m'.replicaState.get? k = some .released := by
  obtain ⟨st, hst, hl⟩ := h.state hs
  rwa [hl.released] at hst

theorem trans (h : Evolves m m') (h' : Evolves m' m'') : Evolves m m'' where
  kind hk := h'.kind (h.kind hk)
  state hs := by
    obtain ⟨st, hst, hl⟩ := h.state hs
    obtain ⟨st', hst', hl'⟩ := h'.state hst
    exact ⟨st', hst', hl.trans hl'⟩
  runtime hr := by
    rcases h.runtime hr with hr | hr
    · exact h'.runtime hr
    · exact .inr (h'.released hr)
  rank := h.rank.trans h'.rank
  record hr := by
    obtain ⟨rec', hr', hg⟩ := h.record hr
    obtain ⟨rec'', hr'', hg'⟩ := h'.record hr'
    exact ⟨rec'', hr'', hg.trans hg'⟩
  slept ho := h'.slept (h.slept ho)
  registered hk := by
    rcases h'.registered hk with hk | hk
    · rcases h.registered hk with hk | ⟨l, rec, hr, rfl⟩
      · exact .inl hk
      · obtain ⟨rec', hr', hg⟩ := h'.record hr
        exact .inr ⟨l, rec', hr', by rw [hg.resolved]⟩
    · exact .inr hk

/-! ## What the methods write -/

/-- The service lists are no part of the ledger. -/
theorem lists (m : LLMServerManager) (rs : List Replica) (as : List String) (hs : List Nat) :
    Evolves m { m with rolloutReplicas := rs, serverAddresses := as, serverHandles := hs } :=
  ⟨fun h => h, fun h => ⟨_, h, .refl⟩, .inl, Nat.le_refl _, fun h => ⟨_, h, .refl _⟩, fun h => h, .inl⟩

theorem deactivate (h : m.deactivateService k = .ok m') : Evolves m m' := by
  unfold deactivateService at h
  split at h
  · cases h
  · cases h
    exact lists m _ _ _

theorem activate (h : m.activateService k = .ok m') : Evolves m m' := by
  unfold activateService at h
  split at h
  · cases h
  · cases h
    exact lists m _ _ _

theorem transition (h : m.transitionReplica k st = .ok m') : Evolves m m' := by
  rcases transitionReplica_ok h with ⟨rfl, -⟩ | ⟨rfl, cur, kind, hs, -, ha, -⟩
  · exact refl m'
  refine ⟨fun h => h, fun {j st'} hj => ?_, fun {j r} hj => ?_, Nat.le_refl _,
    fun h => ⟨_, h, .refl _⟩, fun h => h, .inl⟩
  · rw [get?_move]
    split
    · rename_i hk
      obtain rfl := hk
      cases hs.symm.trans hj
      exact ⟨st, rfl, .single ha⟩
    · exact ⟨st', hj, .refl⟩
  · rw [runtime_move, get?_move]
    split
    · rename_i hk
      exact .inr (by rw [if_pos hk.2, hk.1])
    · exact .inl hj

theorem reserve {n : NormalSpec} (hs : m.replicaState.get? n.key = none)
    (hk : m.replicaKind.get? n.key = none) (hl : m.borrowedOperations.get? n.spec.leaseId = none) :
    Evolves m (m.reserve n) where
  kind {k kind} h := by
    have hne : n.key ≠ k := by rintro rfl; rw [hk] at h; cases h
    exact (Dict.get?_insert_ne _ _ hne).trans h
  state {k st} h := by
    have hne : n.key ≠ k := by rintro rfl; rw [hs] at h; cases h
    exact ⟨st, (Dict.get?_insert_ne _ _ hne).trans h, .refl⟩
  runtime h := .inl h
  rank := Nat.le_succ _
  record {l rec} h := by
    have hne : n.spec.leaseId ≠ l := by rintro rfl; rw [hl] at h; cases h
    exact ⟨rec, (Dict.get?_insert_ne _ _ hne).trans h, .refl _⟩
  slept h := h
  registered {k} h := by
    by_cases hne : n.key = k
    · exact .inr ⟨_, _, Dict.get?_insert_self _ _ _, hne⟩
    · exact .inl ((Dict.get?_insert_ne _ _ hne).symm.trans h)

/-- A record is added to. -/
theorem setRecord {l : String} {rec rec' : BorrowedRecord}
    (hl : m.borrowedOperations.get? l = some rec) (hg : rec.Grows rec') :
    Evolves m { m with borrowedOperations := m.borrowedOperations.insert l rec' } := by
  refine ⟨fun h => h, fun h => ⟨_, h, .refl⟩, .inl, Nat.le_refl _, fun {j x} hj => ?_, fun h => h, .inl⟩
  by_cases he : l = j
  · obtain rfl := he
    cases hl.symm.trans hj
    exact ⟨rec', Dict.get?_insert_self _ _ _, hg⟩
  · exact ⟨x, (Dict.get?_insert_ne _ _ he).trans hj, .refl _⟩

/-- A key gets its runtime. -/
theorem setRuntime {r : Replica} (hk : m.runtimeInventory.get? k = none) :
    Evolves m { m with runtimeInventory := m.runtimeInventory.insert k r } := by
  refine ⟨fun h => h, fun h => ⟨_, h, .refl⟩, fun {j x} hj => ?_, Nat.le_refl _,
    fun h => ⟨_, h, .refl _⟩, fun h => h, .inl⟩
  have hne : k ≠ j := by rintro rfl; rw [hk] at hj; cases hj
  exact .inl ((Dict.get?_insert_ne _ _ hne).trans hj)

theorem recordSleep {o : String} {p : ReplicaKey × OperationEvidence}
    (ho : m.nativeReleaseEvidence.get? o = none) :
    Evolves m { m with nativeReleaseEvidence := m.nativeReleaseEvidence.insert o p } := by
  refine ⟨fun h => h, fun h => ⟨_, h, .refl⟩, .inl, Nat.le_refl _, fun h => ⟨_, h, .refl _⟩,
    fun {q x} hq => ?_, .inl⟩
  have hne : o ≠ q := by rintro rfl; rw [ho] at hq; cases hq
  exact (Dict.get?_insert_ne _ _ hne).trans hq

end Evolves

/-! ## One step -/

namespace Moves

variable {m m' : LLMServerManager} {k : ReplicaKey} {st : ReplicaState}

theorem of_eq (h : m'.replicaState = m.replicaState) : Moves m m' := fun k => .inl (by rw [h])

theorem refl (m : LLMServerManager) : Moves m m := .of_eq rfl

theorem transition (h : m.transitionReplica k st = .ok m') : Moves m m' := by
  rcases transitionReplica_ok h with ⟨rfl, -⟩ | ⟨rfl, cur, kind, hs, -, ha, -⟩
  · exact refl m'
  intro j
  rw [get?_move]
  split
  · rename_i hk
    obtain rfl := hk
    exact .inr (.inl ⟨cur, st, hs, rfl, ha⟩)
  · exact .inl rfl

theorem reserve {n : NormalSpec} (hs : m.replicaState.get? n.key = none) : Moves m (m.reserve n) := by
  intro k
  by_cases hk : n.key = k
  · subst hk
    exact .inr (.inr ⟨hs, Dict.get?_insert_self _ _ _⟩)
  · exact .inl (Dict.get?_insert_ne _ _ hk)

/-- What is done to the rest of the ledger does not matter. -/
theorem congr {n n' : LLMServerManager} (h : Moves m m') (hn : n.replicaState = m.replicaState)
    (hn' : n'.replicaState = m'.replicaState) : Moves n n' := by
  intro k
  rw [hn, hn']
  exact h k

end Moves

theorem deactivateService_state {m m' : LLMServerManager} {k : ReplicaKey}
    (h : m.deactivateService k = .ok m') : m'.replicaState = m.replicaState := by
  unfold deactivateService at h
  split at h
  · cases h
  · cases h
    rfl

theorem activateService_state {m m' : LLMServerManager} {k : ReplicaKey}
    (h : m.activateService k = .ok m') : m'.replicaState = m.replicaState := by
  unfold activateService at h
  split at h
  · cases h
  · cases h
    rfl

/-! ## Evidence -/

/-- The Manager answers for the release of the key by the operation with this evidence. -/
def RecordedAs (m : LLMServerManager) (k : ReplicaKey) (o : String) (ev : OperationEvidence) : Prop :=
  m.queryReleaseEvidence k o = .ok (some ev)

theorem recordedAs_native {m : LLMServerManager} {k : ReplicaKey} {o : String}
    {ev : OperationEvidence} (hk : m.replicaKind.get? k = some .native) :
    RecordedAs m k o ev ↔ m.nativeReleaseEvidence.get? o = some (k, ev) := by
  unfold RecordedAs queryReleaseEvidence
  rw [hk]
  dsimp only
  cases m.nativeReleaseEvidence.get? o with
  | none => exact ⟨fun h => (by cases h), fun h => (by cases h)⟩
  | some p =>
    obtain ⟨k', ev'⟩ := p
    dsimp only
    split
    · rename_i hne
      exact ⟨fun h => (by cases h), fun h => (by cases h; exact absurd rfl hne)⟩
    · rename_i he
      obtain rfl := not_not.1 he
      exact ⟨fun h => (by cases h; rfl), fun h => (by cases h; rfl)⟩

theorem recordedAs_borrowed {m : LLMServerManager} {k : ReplicaKey} {o : String}
    {ev : OperationEvidence} (hk : m.replicaKind.get? k = some .borrowed) :
    RecordedAs m k o ev ↔ ev.operationId = o ∧ ∃ l rec, m.borrowedRecordForKey k = .ok (l, rec) ∧
      rec.destroyEvidence = some ev := by
  unfold RecordedAs queryReleaseEvidence
  rw [hk]
  dsimp only
  cases m.borrowedRecordForKey k with
  | error e => exact ⟨fun h => (by cases h), fun ⟨_, _, _, h, _⟩ => (by cases h)⟩
  | ok p =>
    obtain ⟨l, rec⟩ := p
    dsimp only
    cases hd : rec.destroyEvidence with
    | none =>
      refine ⟨fun h => (by cases h), fun ⟨_, l', rec', h, h'⟩ => ?_⟩
      cases h
      rw [hd] at h'
      cases h'
    | some ev' =>
      dsimp only
      constructor
      · intro h
        split at h
        · cases h
        · rename_i he
          cases h
          exact ⟨not_not.1 he, l, rec, rfl, hd⟩
      · rintro ⟨ho, l', rec', h, h'⟩
        cases h
        cases hd.symm.trans h'
        rw [if_neg (not_not.2 ho)]

/-- The record of a key is the one the ledger has for it. -/
theorem Records.find {m : LLMServerManager} {commands : Dict String OperationCommand}
    (h : Records m commands) {l : String} {rec : BorrowedRecord}
    (hl : m.borrowedOperations.get? l = some rec) :
    m.borrowedRecordForKey rec.resolved.key = .ok (l, rec) := by
  have hfilter := Dict.filter_entries_eq (d := m.borrowedOperations)
    (p := fun e => e.2.resolved.spec.names rec.resolved.key) (k := l) (v := rec) hl
    (by simpa using NormalSpec.names_iff.2 rfl) fun j x hx hp =>
      h.unique hx hl (NormalSpec.names_iff.1 (by simpa using hp))
  unfold borrowedRecordForKey
  rw [hfilter]

/-- What the Manager has answered once it always answers. -/
theorem Evolves.recorded {m m' : LLMServerManager} {commands : Dict String OperationCommand}
    (h : Evolves m m') (hr : Records m' commands) {k : ReplicaKey} {o : String}
    {ev : OperationEvidence} (hrec : RecordedAs m k o ev) : RecordedAs m' k o ev := by
  cases hk : m.replicaKind.get? k with
  | none =>
    unfold RecordedAs queryReleaseEvidence at hrec
    rw [hk] at hrec
    cases hrec
  | some kind =>
    cases kind with
    | native => exact (recordedAs_native (h.kind hk)).2 (h.slept ((recordedAs_native hk).1 hrec))
    | borrowed =>
      obtain ⟨ho, l, rec, hl, hd⟩ := (recordedAs_borrowed hk).1 hrec
      obtain ⟨hget, hn⟩ := borrowedRecordForKey_eq hl
      obtain ⟨rec', hget', hg⟩ := h.record hget
      refine (recordedAs_borrowed (h.kind hk)).2 ⟨ho, l, rec', ?_, hg.destroyed hd⟩
      rw [← NormalSpec.names_iff.1 hn, ← hg.resolved]
      exact hr.find hget'

/-- Evidence of an exit is the Manager's own. -/
def Evidenced (s : TaskState) (ev : OperationEvidence) : Prop :=
  ∀ c, s.journal.commands.get? ev.operationId = some c → c.kind.exits = true →
    RecordedAs s.manager c.target c.operationId ev

/-! ## The journal -/

/-- No command is learnt, and a resolved record is left as it is. -/
structure Narrows (j j' : OperationJournal) : Prop where
  commands : j'.commands = j.commands
  resolved : ∀ {o r}, j.records.get? o = some r → r.status.resolved = true → j'.records.get? o = some r

namespace Narrows

variable {j j' : OperationJournal} {o : String} {p : OperationRecord × OperationJournal}

theorem of_eq (h : j' = j) : Narrows j j' := by
  subst h
  exact ⟨rfl, fun hr _ => hr⟩

/-- An unresolved record is rewritten. -/
theorem setRecord {r r' : OperationRecord} (hr : j.records.get? r'.operationId = some r)
    (hopen : r.status.resolved = false) : Narrows j (j.setRecord r') := by
  refine ⟨rfl, fun {o x} hx hres => ?_⟩
  have hne : r'.operationId ≠ o := by
    rintro rfl
    cases hr.symm.trans hx
    rw [hres] at hopen
    cases hopen
  exact (Dict.get?_insert_ne _ _ hne).trans hx

theorem resolved_of_terminal {status : OperationStatus} (h : ¬ status.terminal = true) :
    status.resolved = false := by
  cases status <;> simp [OperationStatus.terminal, OperationStatus.resolved] at h ⊢

theorem markRunning (h : j.markRunning o = .ok p) : Narrows j p.2 := by
  unfold OperationJournal.markRunning at h
  split at h
  · cases h
  · split at h
    · cases h
    · cases h
      exact setRecord ‹_› (resolved_of_terminal ‹_›)

theorem reopenUnknown (h : j.reopenUnknown o = .ok p) : Narrows j p.2 := by
  unfold OperationJournal.reopenUnknown at h
  split at h
  · cases h
  · split at h
    · cases h
    · rename_i hr hst
      cases h
      exact setRecord hr (by rw [not_not.1 hst]; rfl)

/-- What `_execute_operation` does first. -/
theorem opened {b : Bool} (h : (if b then j.reopenUnknown o else j.markRunning o) = .ok p) :
    Narrows j p.2 := by
  split at h
  · exact reopenUnknown h
  · exact markRunning h

/-- An operation ends once. -/
theorem finish {status : OperationStatus} {result : Option String}
    (h : j.finish o status result = .ok p) : Narrows j p.2 := by
  unfold OperationJournal.finish at h
  split at h
  · cases h
  split at h
  · cases h
  rename_i r hr
  split at h
  · split at h
    · cases h
    · cases h
      exact of_eq rfl
  · rename_i hopen
    have hset (x : OperationRecord) (hx : x.operationId = o) : Narrows j (j.setRecord x) :=
      setRecord (by rw [hx]; exact hr) (resolved_of_terminal hopen)
    split at h
    · cases h
    · cases h
      have hwritten := hset ⟨o, status, result⟩ rfl
      dsimp only
      split
      · exact ⟨hwritten.commands, hwritten.resolved⟩
      · exact hwritten

end Narrows

/-! ## The books of a task -/

/-- A later state of the task's books: the ledger, the commands, the evidence sent. -/
structure Books (s t : TaskState) : Prop where
  ledger : Evolves s.manager t.manager
  moves : Moves s.manager t.manager
  commands : ∀ {o c}, s.journal.commands.get? o = some c → t.journal.commands.get? o = some c
  outbox : ∀ {l ev}, (l, ev) ∈ t.outbox → (l, ev) ∈ s.outbox ∨ Evidenced t ev

theorem Books.of_ledger {s t : TaskState} (h : Evolves s.manager t.manager)
    (hm : Moves s.manager t.manager) (hj : t.journal.commands = s.journal.commands)
    (ho : t.outbox = s.outbox) : Books s t :=
  ⟨h, hm, fun hc => by rw [hj]; exact hc, fun he => .inl (by rw [← ho]; exact he)⟩

theorem Books.of_eq {s t : TaskState} (hm : t.manager = s.manager)
    (hj : t.journal.commands = s.journal.commands) (ho : t.outbox = s.outbox) : Books s t :=
  .of_ledger (by rw [hm]; exact .refl _) (.of_eq (by rw [hm])) hj ho

theorem Books.refl (s : TaskState) : Books s s := .of_eq rfl rfl rfl

/-- What a thread of the command's operation counts on, and what its steps are. -/
def books (d : Deployment) (c : OperationCommand) : Contract TaskState where
  inv s := Inv d False s ∧ s.journal.commands.get? c.operationId = some c
  rely := Rely c.operationId
  guar := Books
  rely_trans := Rely.trans

variable {d : Deployment} {c : OperationCommand}

/-- Facts about the Manager are the thread's own. -/
theorem stable_books (F : LLMServerManager → Prop) : (books d c).Stable fun s => F s.manager := by
  intro s t _ h hr _
  rw [Rely.manager hr]
  exact h

/-- Only the operation's own target is ever bound to it. -/
theorem bound_target {s : TaskState} {k : ReplicaKey} (hi : (books d c).inv s)
    (h : s.rollouter.pendingOperationTargets.get? c.operationId = some k) : k = c.target := by
  obtain ⟨c', hc', ht⟩ := hi.1.bindings.target h
  cases hi.2.symm.trans hc'
  exact ht.symm

end ReplicaLending
