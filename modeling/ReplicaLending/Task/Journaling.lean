import ReplicaLending.Task.Environment
/-!
# The journal in the task's hands

A command is begun, its record opened, resolved, or left UNKNOWN. Beginning one needs the journal to
have no unfinished operation, so nothing of an earlier one is left that excuses anything; resolving one
needs its target to do without excuses (`Clear`).
-/

namespace ReplicaLending

open TaskState TaskProg TaskRunner

variable {d : Deployment} {strict : Prop} {c : OperationCommand} {s : TaskState}

namespace JournalOk

variable {j : OperationJournal} {o : String} {r : OperationRecord}

theorem current_eq (h : JournalOk d j) (hr : j.records.get? o = some r)
    (hres : r.status.resolved = false) : j.current d.taskSession = j.commands.get? o := by
  unfold OperationJournal.current
  rw [h.unfinished hr hres]
  simp [hr, hres]

/-- With no unfinished operation every record is resolved. -/
theorem resolved_of_idle (h : JournalOk d j) (hc : j.current d.taskSession = none)
    (hr : j.records.get? o = some r) : r.status.resolved = true := by
  by_contra hres
  simp only [Bool.not_eq_true] at hres
  have hcmd := h.known o
  rw [hr, ← h.current_eq hr hres, hc] at hcmd
  cases hcmd

/-- A record is rewritten without resolving it. -/
theorem setRecord (h : JournalOk d j) {r' : OperationRecord}
    (hr : j.records.get? r'.operationId = some r) (hres : r.status.resolved = false) :
    JournalOk d (j.setRecord r') := by
  have hget : ∀ o, (j.setRecord r').records.get? o =
      if r'.operationId = o then some r' else j.records.get? o := fun o => Dict.get?_insert _ _ _ _
  constructor
  case known =>
    intro o
    rw [hget]
    split
    · rename_i ho
      have hknown := h.known r'.operationId
      rw [hr, ho] at hknown
      exact hknown
    · exact h.known o
  case command => exact h.command
  case unfinished =>
    intro o x hx hxr
    rw [hget] at hx
    split at hx
    · rename_i ho
      rw [← ho]
      exact h.unfinished hr hres
    · exact h.unfinished hx hxr
  case active =>
    intro o ho
    rw [hget]
    split
    · rfl
    · exact h.active ho

/-- The operation that is active is resolved. -/
theorem finish (h : JournalOk d j) {r' : OperationRecord}
    (hr : j.records.get? r'.operationId = some r) (hres : r.status.resolved = false)
    (hres' : r'.status.resolved = true) :
    JournalOk d { j.setRecord r' with activeByTask := j.activeByTask.erase d.taskSession } ∧
      ({ j.setRecord r' with activeByTask := j.activeByTask.erase d.taskSession } :
        OperationJournal).current d.taskSession = none := by
  have hset := h.setRecord hr hres
  have herase : (j.activeByTask.erase d.taskSession).get? d.taskSession = none :=
    Dict.get?_erase_self _ _
  constructor
  · constructor
    case known => exact hset.known
    case command => exact hset.command
    case unfinished =>
      intro o x hx hxr
      have hact := hset.unfinished hx hxr
      have ho : o = r'.operationId :=
        Option.some.inj (hact.symm.trans (h.unfinished hr hres))
      rw [ho, show (j.setRecord r').records.get? r'.operationId = some r' from
        Dict.get?_insert_self _ _ _] at hx
      cases hx
      rw [hres'] at hxr
      cases hxr
    case active =>
      intro o ho
      rw [herase] at ho
      cases ho
  · unfold OperationJournal.current
    rw [show ({ j.setRecord r' with activeByTask := j.activeByTask.erase d.taskSession } :
      OperationJournal).activeByTask.get? d.taskSession = none from herase]

end JournalOk

/-! ## Opening and leaving a record -/

theorem Inv.setRecord (h : Inv d strict s) (hc : Cur d c s) {r' : OperationRecord}
    (ho : r'.operationId = c.operationId) (hres' : r'.status.resolved = false)
    (hacc : r'.status ≠ .accepted) :
    Inv d strict { s with journal := s.journal.setRecord r' } ∧
      Cur d c { s with journal := s.journal.setRecord r' } := by
  obtain ⟨hcmd, -, r, hr, hres⟩ := h.cur_command hc
  rw [← ho] at hr
  have hget : ∀ o, (s.journal.setRecord r').records.get? o =
      if r'.operationId = o then some r' else s.journal.records.get? o :=
    fun o => Dict.get?_insert _ _ _ _
  have hj := h.journal.setRecord hr hres
  have hcur : (s.journal.setRecord r').current d.taskSession = some c := by
    rw [hj.current_eq (hget _ |>.trans (if_pos rfl)) hres', ho]
    exact hcmd
  have hsame : (s.journal.setRecord r').current d.taskSession = s.journal.current d.taskSession :=
    hcur.trans hc.symm
  refine ⟨?_, hcur⟩
  exact { h with
    parking := by rw [hsame]; exact h.parking
    publishing := by rw [hsame]; exact h.publishing
    inFlight := by rw [hsame]; exact h.inFlight
    bindings := by rw [hsame]; exact h.bindings
    reported := by rw [hsame]; exact h.reported
    serving := by rw [hsame]; exact h.serving
    journal := hj
    closing := by
      intro cl hcl
      obtain ⟨x, hx, hxr⟩ := h.closing cl hcl
      refine ⟨x, ?_, hxr⟩
      rw [hget, if_neg]
      · exact hx
      · intro he
        exact h.cur_not_closing hc hcl (he.symm.trans ho)
    sent := by
      intro e he x hx
      rw [hget] at hx
      split at hx
      · cases hx; exact hacc
      · exact h.sent e he x hx }

/-! ## Resolving an operation -/

/-- An operation that needs no excuse any more. -/
structure Settled (strict : Prop) (s : TaskState) (c : OperationCommand) : Prop where
  lined : c.kind.exits = false → Lined s c
  clear : c.kind.exits = false → Clear strict s c
  unbound : c.kind.exits = true →
    s.rollouter.pendingOperationTargets.get? c.operationId ≠ some c.target
  unsent : c.kind.exits = true → ∀ e ∈ s.outbox, e.2.operationId ≠ c.operationId

theorem Settled.calls (h : Inv d strict s) (hc : Cur d c s) (hd : Settled strict s c) :
    s.inflight = [] := by
  by_contra hne
  obtain ⟨c', hc', -, hrest⟩ := h.inFlight hne
  obtain rfl := hc.eq hc'
  cases hx : c.kind.exits with
  | true =>
    rw [if_pos hx] at hrest
    exact hd.unbound hx hrest
  | false => exact hne (hd.clear hx).calls

/-- The parts of the invariant between two operations. -/
theorem Inv.rejournal (h : Inv d strict s) (hc : Cur d c s) (hd : Settled strict s c)
    {j : OperationJournal} {closing : List Closing} (hj : JournalOk d j)
    (hcur : j.current d.taskSession = none) (hcmd : j.commands = s.journal.commands)
    (hclosing : ∀ c ∈ closing, ∃ r, j.records.get? c.operationId = some r ∧
      r.status.resolved = true)
    (hsent : ∀ e ∈ s.outbox, ∀ r, j.records.get? e.2.operationId = some r →
      r.status ≠ .accepted) :
    Inv d strict { s with journal := j, closing := closing } where
  wired := h.wired
  listed := h.listed
  routed := by rw [hcmd]; exact h.routed
  gate := h.gate
  parking := by
    constructor
    case dormant =>
      intro k hk
      rcases h.parking.dormant hk with hp | ⟨c', hc', hr, rfl, -⟩
      · exact .inl hp
      · obtain rfl := hc.eq hc'
        exact .inl ((hd.clear (by rw [hr]; rfl)).dormant hr hk)
    case draining =>
      intro k hn hk hm
      rcases h.parking.draining hn hk hm with hp | ⟨c', hc', rfl, -, hb⟩
      · exact .inl hp
      · obtain rfl := hc.eq hc'
        cases hx : c.kind.exits with
        | true => exact absurd hb (hd.unbound hx)
        | false => exact .inl (hd.lined hx hn hk hm)
    case hidden =>
      intro k hb hp
      obtain ⟨c', hc', ha, rfl, -⟩ := h.parking.hidden hb hp
      obtain rfl := hc.eq hc'
      rw [(hd.clear (by rw [ha]; rfl)).hidden ha hb] at hp
      cases hp
  publishing := by
    intro c' hc'
    rw [hcur] at hc'
    cases hc'
  inFlight := fun hne => absurd (hd.calls h hc) hne
  bindings := by
    refine ⟨?_, fun hc' => ?_⟩
    · rw [hcmd]; exact h.bindings.target
    · rw [hcur] at hc'; cases hc'
  records := by rw [hcmd]; exact h.records
  reported := by
    refine ⟨fun {l ev} hm => ?_, fun hc' => ?_⟩
    · obtain ⟨c', hc', hexit⟩ := h.reported.outbox hm
      rw [hcmd]
      refine ⟨c', hc', fun hx => ?_⟩
      obtain ⟨hcc, -⟩ := hexit hx
      obtain rfl := hc.eq hcc
      exact absurd (h.journal.command hc').1.symm (hd.unsent hx _ hm)
    · rw [hcur] at hc'; cases hc'
  serving := by
    intro hs
    have hv := h.serving hs
    constructor
    case state =>
      intro k hk
      rcases hv.state hk with hi | hw
      · exact .inl hi
      · obtain ⟨hx, rfl, -⟩ := hw.eq hc
        exact .inl ((hd.clear hx).state hs hk)
    case awake => exact hv.awake
    case built =>
      intro k r hk hi
      rcases hv.built hk hi with hw | hw
      · exact .inl hw
      · obtain ⟨hx, rfl, -⟩ := hw.eq hc
        exact .inl ((hd.clear hx).built hs hk r hi)
    case receipt =>
      intro k hk
      rcases hv.receipt hk with hm | hw
      · exact .inl hm
      · obtain ⟨hx, rfl, -⟩ := hw.eq hc
        exact .inl ((hd.clear hx).receipt hs hk)
    case known => exact hv.known
    case leaving =>
      intro c' hc'
      rw [hcur] at hc'; cases hc'
    case gone => exact hv.gone
  journal := hj
  closing := hclosing
  sent := hsent
  leases := by rw [hcmd]; exact h.leases

/-- The unfinished operation is resolved. -/
theorem Inv.finish (h : Inv d strict s) (hc : Cur d c s) (hd : Settled strict s c)
    {r' : OperationRecord} (ho : r'.operationId = c.operationId)
    (hres' : r'.status.resolved = true) {closing : List Closing}
    (hclosing : ∀ cl ∈ closing, cl ∈ s.closing ∨ cl.operationId = c.operationId) :
    Inv d strict { s with
      journal := { s.journal.setRecord r' with
        activeByTask := s.journal.activeByTask.erase d.taskSession }
      closing := closing } := by
  obtain ⟨hcmd, -, r, hr, hres⟩ := h.cur_command hc
  rw [← ho] at hr
  have hget : ∀ o, (s.journal.setRecord r').records.get? o =
      if r'.operationId = o then some r' else s.journal.records.get? o :=
    fun o => Dict.get?_insert _ _ _ _
  obtain ⟨hj, hcur⟩ := h.journal.finish hr hres hres'
  refine h.rejournal hc hd hj hcur rfl (fun cl hcl => ?_) fun e he x hx => ?_
  · rcases hclosing cl hcl with hcl | hcl
    · obtain ⟨x, hx, hxr⟩ := h.closing cl hcl
      refine ⟨x, (hget _).trans ?_, hxr⟩
      rw [if_neg]
      · exact hx
      · intro he
        exact h.cur_not_closing hc hcl (he.symm.trans ho)
    · exact ⟨r', (hget _).trans (if_pos (by rw [ho, hcl])), hres'⟩
  · replace hx := (hget _).symm.trans hx
    split at hx
    · cases hx
      rintro hacc
      rw [hacc] at hres'; cases hres'
    · exact h.sent e he x hx

/-- The journal's `finish` of a running operation. -/
theorem OperationJournal.finish_eq {j : OperationJournal} {r : OperationRecord}
    {status : OperationStatus} {result : Option String} (hj : JournalOk d j)
    (hr : j.records.get? c.operationId = some r) (hrun : r.status.terminal = false)
    (hc : j.commands.get? c.operationId = some c) (ht : status.terminal = true) :
    j.finish c.operationId status result = .ok (⟨c.operationId, status, result⟩,
      if status.resolved then { j.setRecord ⟨c.operationId, status, result⟩ with
        activeByTask := j.activeByTask.erase d.taskSession }
      else j.setRecord ⟨c.operationId, status, result⟩) := by
  have htask : c.target.taskSession = d.taskSession := (hj.command hc).2
  have hres : r.status.resolved = false := by
    revert hrun
    cases r.status <;> simp [OperationStatus.terminal, OperationStatus.resolved]
  have hact : (j.setRecord ⟨c.operationId, status, result⟩).activeByTask.get?
      c.target.taskSession = some c.operationId := by
    rw [htask]
    exact hj.unfinished hr hres
  unfold OperationJournal.finish
  rw [if_neg (by simp [ht])]
  simp only [hr, hrun, Bool.false_eq_true, if_false, hc]
  cases hst : status.resolved with
  | true => rw [if_pos ⟨rfl, hact⟩, if_pos rfl, htask]; rfl
  | false => rw [if_neg (by simp), if_neg (by simp)]

/-! ## Beginning one -/

/-- What `begin` writes for a new command. -/
def OperationJournal.begun (j : OperationJournal) (c : OperationCommand) : OperationJournal where
  commands := j.commands.insert c.operationId c
  records := j.records.insert c.operationId ⟨c.operationId, .accepted, none⟩
  activeByTask := j.activeByTask.insert c.target.taskSession c.operationId

/-- A command that `begin` accepts is the recorded one, or new and the only one unfinished. -/
theorem OperationJournal.begin_cases {j j' : OperationJournal} {r : OperationRecord}
    (ht : c.target.taskSession = d.taskSession)
    (h : j.begin c = .ok (r, j')) :
    (j' = j ∧ j.records.get? c.operationId = some r ∧ j.commands.get? c.operationId = some c) ∨
    (j' = j.begun c ∧ j.records.get? c.operationId = none ∧ j.current d.taskSession = none) := by
  unfold OperationJournal.begin at h
  cases hr : j.records.get? c.operationId with
  | some existing =>
    simp only [hr] at h
    split at h
    · cases h
    · rename_i hc
      cases h
      exact .inl ⟨rfl, rfl, not_not.1 hc⟩
  | none =>
    simp only [hr, ht] at h
    split at h
    · rename_i hact
      cases h
      refine .inr ⟨by rw [OperationJournal.begun, ht], rfl, ?_⟩
      unfold OperationJournal.current
      rw [hact]
    · rename_i o hact
      split at h
      · cases h
      · rename_i active hactive
        split at h
        · rename_i hres
          cases h
          refine .inr ⟨by rw [OperationJournal.begun, ht], rfl, ?_⟩
          unfold OperationJournal.current
          simp only [hact, hactive, if_pos hres]
        · cases h

theorem Inv.begin (h : Inv d strict s) (hidle : s.journal.current d.taskSession = none)
    (hnew : s.journal.records.get? c.operationId = none)
    (ht : c.target.taskSession = d.taskSession) :
    Inv d strict { s with journal := s.journal.begun c } ∧
    Cur d c { s with journal := s.journal.begun c } ∧
    Settled strict s c := by
  have hcmds : s.journal.commands.get? c.operationId = none := by
    have := h.journal.known c.operationId
    rw [hnew] at this
    simpa using this.symm
  have hne : ∀ {o c'}, s.journal.commands.get? o = some c' → c.operationId ≠ o := by
    rintro o c' hc' rfl
    rw [hcmds] at hc'; cases hc'
  have hcmd : ∀ {o c'}, s.journal.commands.get? o = some c' →
      (s.journal.commands.insert c.operationId c).get? o = some c' := by
    intro o c' hc'
    rw [Dict.get?_insert_ne _ _ (hne hc')]
    exact hc'
  have hcurrent : Cur d c { s with journal := s.journal.begun c } := by
    unfold Cur OperationJournal.current
    simp only [OperationJournal.begun, ht, Dict.get?_insert_self]
    rfl
  have hunbound : s.rollouter.pendingOperationTargets.get? c.operationId = none := by
    refine Option.eq_none_iff_forall_ne_some.2 fun k hk => ?_
    obtain ⟨c', hc', -⟩ := h.bindings.target hk
    exact hne hc' rfl
  have hstart : c.kind.exits = false → ¬ Started s.manager s.rollouter c := by
    intro hx hst
    unfold Started at hst
    split at hst
    · obtain ⟨l, rec, hl, ho⟩ := hst
      obtain ⟨c', hc', -⟩ := h.records.command hl
      exact hne hc' ho.symm
    · rw [hunbound] at hst; cases hst
  have hnone : ∀ {c' : OperationCommand}, s.journal.current d.taskSession ≠ some c' := by
    intro c'
    rw [hidle]; simp
  have hwork : ∀ {k}, ¬ AtWork s.gate s.nativeSync (s.journal.current d.taskSession) k := by
    rintro k ⟨c', hc', -⟩
    exact hnone hc'
  have hrec : ¬ Recorded s.manager c.target c.operationId := by
    rintro ⟨ev, hev⟩
    unfold LLMServerManager.queryReleaseEvidence at hev
    split at hev
    · split at hev
      · cases hev
      · rename_i k ev' hn
        obtain ⟨c', hc', -⟩ := h.records.native hn
        exact hne hc' rfl
    · split at hev
      · cases hev
      · rename_i l rec hrec
        split at hev
        · cases hev
        · rename_i ev' hd
          split at hev
          · cases hev
          · rename_i ho
            obtain ⟨c', hc'⟩ := h.records.destroyed (LLMServerManager.borrowedRecordForKey_eq hrec).1 hd
            exact hne hc' (not_not.1 ho).symm
    · cases hev
  have hflight : s.inflight = [] := by
    by_contra hi
    obtain ⟨c', hc', -⟩ := h.inFlight hi
    exact hnone hc'
  have hnohidden : ∀ {k}, s.manager.replicaKind.get? k = some .borrowed →
      s.ce.pending.get? k = none := by
    intro k hb
    by_contra hp
    obtain ⟨c', hc', -⟩ := h.parking.hidden hb (Option.isSome_iff_ne_none.2 hp)
    exact hnone hc'
  have hsettled : Settled strict s c := by
    constructor
    case lined =>
      intro _ hn hk hm
      rcases h.parking.draining hn hk hm with hp | ⟨c', hc', -⟩
      · exact hp
      · exact (hnone hc').elim
    case clear =>
      intro hx
      constructor
      case dormant =>
        intro _ hk
        rcases h.parking.dormant hk with hp | ⟨c', hc', -⟩
        · exact hp
        · exact (hnone hc').elim
      case hidden => exact fun _ => hnohidden
      case calls => exact hflight
      case state => exact fun hs hm => ((h.serving hs).state hm).resolve_right hwork
      case built => exact fun hs hk r hi => ((h.serving hs).built hk hi).resolve_right hwork
      case receipt => exact fun hs hm => ((h.serving hs).receipt hm).resolve_right hwork
      case leaving => exact fun _ hst => (hstart hx hst).elim
    case unbound => intro _; rw [hunbound]; simp
    case unsent =>
      rintro - ⟨l, ev⟩ he ho
      obtain ⟨c', hc', -⟩ := h.reported.outbox he
      exact hne hc' ho.symm
  have heq : ∀ {c'}, Cur d c' { s with journal := s.journal.begun c } → c = c' :=
    fun hc' => hcurrent.eq hc'
  refine ⟨?_, hcurrent, hsettled⟩
  constructor
  case wired => exact h.wired
  case listed => exact h.listed
  case routed =>
    exact { h.routed with
      ledger := fun ho => by
        obtain ⟨hrt, c', hc', hk⟩ := h.routed.ledger ho
        exact ⟨hrt, c', hcmd hc', hk⟩ }
  case gate => exact h.gate
  case parking =>
    refine ⟨fun hk => .inl ?_, fun hn hk hm => .inl ?_, fun hb hp => ?_⟩
    · rcases h.parking.dormant hk with hp | ⟨c', hc', -⟩
      · exact hp
      · exact (hnone hc').elim
    · rcases h.parking.draining hn hk hm with hp | ⟨c', hc', -⟩
      · exact hp
      · exact (hnone hc').elim
    · rw [hnohidden hb] at hp; cases hp
  case publishing =>
    intro c' hc' hx hst
    obtain rfl := heq hc'
    exact (hstart hx hst).elim
  case inFlight => exact fun hi => absurd hflight hi
  case bindings =>
    refine ⟨fun hb => ?_, fun {c'} hc' _ hb => ?_⟩
    · obtain ⟨c', hc', hk⟩ := h.bindings.target hb
      exact ⟨c', hcmd hc', hk⟩
    · obtain rfl := heq hc'
      rw [hunbound] at hb; cases hb
  case records =>
    exact { h.records with
      command := fun hl => by
        obtain ⟨c', hc', hrest⟩ := h.records.command hl
        exact ⟨c', hcmd hc', hrest⟩
      native := fun hn => by
        obtain ⟨c', hc', hrest⟩ := h.records.native hn
        exact ⟨c', hcmd hc', hrest⟩
      destroyed := fun hl hd => by
        obtain ⟨c', hc'⟩ := h.records.destroyed hl hd
        exact ⟨c', hcmd hc'⟩ }
  case reported =>
    refine ⟨fun hm => ?_, fun {c'} hc' _ hr => ?_⟩
    · obtain ⟨c', hc', hexit⟩ := h.reported.outbox hm
      exact ⟨c', hcmd hc', fun hx => (hnone (hexit hx).1).elim⟩
    · obtain rfl := heq hc'
      exact (hrec hr).elim
  case serving =>
    intro hs
    have hv := h.serving hs
    constructor
    case state => exact fun hm => .inl ((hv.state hm).resolve_right hwork)
    case awake => exact hv.awake
    case built => exact fun hk hi => .inl ((hv.built hk hi).resolve_right hwork)
    case receipt => exact fun hm => .inl ((hv.receipt hm).resolve_right hwork)
    case known => exact hv.known
    case leaving =>
      intro c' hc' hx hst
      obtain rfl := heq hc'
      exact (hstart hx hst).elim
    case gone => exact hv.gone
  case journal =>
    constructor
    case known =>
      intro o
      show ((s.journal.records.insert _ _).get? o).isSome =
        ((s.journal.commands.insert _ _).get? o).isSome
      rw [Dict.get?_insert, Dict.get?_insert]
      split
      · rfl
      · exact h.journal.known o
    case command =>
      intro o c' hc'
      replace hc' : (s.journal.commands.insert c.operationId c).get? o = some c' := hc'
      rw [Dict.get?_insert] at hc'
      split at hc'
      · rename_i ho
        cases hc'
        exact ⟨ho, ht⟩
      · exact h.journal.command hc'
    case unfinished =>
      intro o r hr hres
      replace hr : (s.journal.records.insert c.operationId
        ⟨c.operationId, .accepted, none⟩).get? o = some r := hr
      rw [Dict.get?_insert] at hr
      split at hr
      · rename_i ho
        subst ho
        rw [← ht]
        exact Dict.get?_insert_self _ _ _
      · rw [h.journal.resolved_of_idle hidle hr] at hres
        cases hres
    case active =>
      intro o ho
      replace ho : (s.journal.activeByTask.insert c.target.taskSession c.operationId).get?
        d.taskSession = some o := ho
      rw [ht, Dict.get?_insert_self] at ho
      cases ho
      show ((s.journal.records.insert _ _).get? _).isSome = true
      rw [Dict.get?_insert_self]
      rfl
  case closing =>
    intro cl hcl
    obtain ⟨r, hr, hres⟩ := h.closing cl hcl
    refine ⟨r, ?_, hres⟩
    show (s.journal.records.insert _ _).get? _ = _
    rw [Dict.get?_insert_ne]
    · exact hr
    · intro ho
      rw [← ho, hnew] at hr; cases hr
  case sent =>
    intro e he r hr
    obtain ⟨c', hc', -⟩ := h.reported.outbox (show (e.1, e.2) ∈ s.outbox from he)
    replace hr : (s.journal.records.insert c.operationId
      ⟨c.operationId, .accepted, none⟩).get? e.2.operationId = some r := hr
    rw [Dict.get?_insert_ne _ _ (hne hc')] at hr
    exact h.sent e he r hr
  case leases =>
    intro o l hl
    obtain ⟨c', hc', hrest⟩ := h.leases hl
    exact ⟨c', hcmd hc', hrest⟩

end ReplicaLending
