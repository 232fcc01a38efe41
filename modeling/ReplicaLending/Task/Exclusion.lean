import ReplicaLending.Task.Workers
/-!
# At most one lifecycle worker

What keeps workers apart is spread over three places that change in separate critical sections: the
status of the record, the active entry of the journal and the thread table. `Inv` ties them
together: a thread that is alive is the one its operation has in the thread table, and its phase
fixes what the record may say. A step of a thread touches nothing of other operations (`Inv.move`);
a submission launches a thread only for an operation that has none alive (`Inv.dispatch`).
-/

namespace ReplicaLending.ControlPlane

open OperationJournal

variable {session : String} {s t : ControlPlane} {i : Nat} {w : Worker} {phase : ThreadPhase}

/-! ## The invariant -/

/-- What threads, thread table and journal have to do with each other. -/
structure Inv (session : String) (s : ControlPlane) : Prop where
  journal : Consistent s.journal
  session : ∀ {o c}, s.journal.commands.get? o = some c → c.target.taskSession = session
  /-- A thread that is alive is the one of its operation in the thread table. -/
  thread : ∀ {i : Nat} {w : Worker}, s.workers[i]? = some w → w.phase.alive = true →
    s.operationThreads.get? w.operationId = some i
  /-- A thread's operation is recorded, with a status its phase allows. -/
  recorded : ∀ {i : Nat} {w : Worker}, s.workers[i]? = some w →
    ∃ r, s.journal.records.get? w.operationId = some r ∧ w.phase.Fits r.status
  /-- An operation is launched as a new one once. -/
  once : ∀ {i j : Nat} {w v : Worker}, s.workers[i]? = some w → s.workers[j]? = some v →
    w.operationId = v.operationId → w.fresh = true → v.fresh = true → i = j

theorem inv_init : Inv session init :=
  ⟨consistent_init, nofun, by simp [init], by simp [init], by simp [init]⟩

/-- Two threads of one operation are not both alive. -/
theorem Inv.not_alive (h : Inv session s) {j : Nat} {v : Worker} (hw : s.workers[i]? = some w)
    (ha : w.phase.alive = true) (hv : s.workers[j]? = some v) (ho : v.operationId = w.operationId)
    (hij : j ≠ i) : v.phase = .gone := by
  cases hp : v.phase with
  | gone => rfl
  | started | running _ | caught _ _ | finished _ =>
    have hj := h.thread hv (by rw [hp]; rfl)
    rw [ho, h.thread hw ha] at hj
    exact absurd (Option.some.inj hj).symm hij

/-- A step of one thread keeps the invariant when it touches nothing of other operations. -/
theorem Inv.move (h : Inv session s) (hw : s.workers[i]? = some w) (ha : w.phase.alive = true)
    (hworkers : t.workers = s.workers.set i { w with phase })
    (hj : Consistent t.journal) (hcommands : t.journal.commands = s.journal.commands)
    (hrecords : ∀ p, w.operationId ≠ p → t.journal.records.get? p = s.journal.records.get? p)
    (hthreads : ∀ p, w.operationId ≠ p → t.operationThreads.get? p = s.operationThreads.get? p)
    (hself : phase.alive = true → t.operationThreads.get? w.operationId = some i)
    (hfits : ∃ r, t.journal.records.get? w.operationId = some r ∧ phase.Fits r.status) :
    Inv session t where
  journal := hj
  session {o c} hc := h.session (hcommands ▸ hc)
  thread {j v} hv hva := by
    rw [hworkers] at hv
    obtain ⟨rfl, rfl⟩ | ⟨hji, hv⟩ := thread_set hv
    · exact hself hva
    · by_cases ho : v.operationId = w.operationId
      · rw [h.not_alive hw ha hv ho hji] at hva; cases hva
      · rw [hthreads _ (Ne.symm ho)]; exact h.thread hv hva
  recorded {j v} hv := by
    rw [hworkers] at hv
    obtain ⟨rfl, rfl⟩ | ⟨hji, hv⟩ := thread_set hv
    · exact hfits
    · by_cases ho : v.operationId = w.operationId
      · obtain ⟨r, hr, -⟩ := hfits
        exact ⟨r, ho ▸ hr, by rw [h.not_alive hw ha hv ho hji]; trivial⟩
      · rw [hrecords _ (Ne.symm ho)]; exact h.recorded hv
  once {j k v u} hv hu ho hvf huf := by
    rw [hworkers] at hv hu
    obtain ⟨rfl, rfl⟩ | ⟨-, hv'⟩ := thread_set hv <;>
      obtain ⟨rfl, rfl⟩ | ⟨-, hu'⟩ := thread_set hu
    · rfl
    · exact h.once hw hu' ho hvf huf
    · exact h.once hv' hw ho hvf huf
    · exact h.once hv' hu' ho hvf huf

/-- A call that is no `begin` keeps the set of recorded operations. -/
theorem recorded_call {j : OperationJournal} {k : Call} {o : String} {r : OperationRecord}
    (h : Consistent j) (hb : ∀ c, k ≠ .begin c) (hr : j.records.get? o = some r) :
    ∃ r', (OperationJournal.apply k j).records.get? o = some r' := by
  have he := (call_effect h k).1
  rw [← Option.isSome_iff_exists, (he.consistent h).bound, he.commands_eq hb, ← h.bound, hr]
  rfl

/-- A call of the journal in a step of one thread. -/
theorem Inv.moveCall (h : Inv session s) (hw : s.workers[i]? = some w) (ha : w.phase.alive = true)
    {k : Call} (hk : k.operationId = w.operationId)
    (hb : ∀ c, k ≠ .begin c)
    (hfits : ∀ r, (OperationJournal.apply k s.journal).records.get? w.operationId = some r →
      phase.Fits r.status) :
    Inv session ({ s with journal := OperationJournal.apply k s.journal }.moved i w phase) := by
  have he := (call_effect h.journal k).1
  refine h.move hw ha rfl (he.consistent h.journal) (he.commands_eq hb)
    (fun p hp => he.frame (hk ▸ hp)) (fun _ _ => rfl) (fun _ => h.thread hw ha) ?_
  obtain ⟨r, hr, -⟩ := h.recorded hw
  obtain ⟨r', hr'⟩ := recorded_call h.journal hb hr
  exact ⟨r', hr', hfits r' hr'⟩

/-- A step of one thread that leaves the journal alone. -/
theorem Inv.moveQuiet (h : Inv session s) (hw : s.workers[i]? = some w) (ha : w.phase.alive = true)
    (hfits : ∀ r, s.journal.records.get? w.operationId = some r → w.phase.Fits r.status →
      phase.Fits r.status) : Inv session (s.moved i w phase) := by
  obtain ⟨r, hr, hf⟩ := h.recorded hw
  exact h.move hw ha rfl h.journal rfl (fun _ _ => rfl) (fun _ _ => rfl)
    (fun _ => h.thread hw ha) ⟨r, hr, hfits r hr hf⟩

/-! ## The steps of a thread -/

/-- What the records say after a call on one of them. -/
theorem openCall_fits {j : OperationJournal} {o : String} {r : OperationRecord} (reconciling : Bool)
    (hr : j.records.get? o = some r) (hs : r.status = .accepted ∨ r.status = .unknown)
    (hc : reconciling = true ↔ r.status = .unknown) :
    ∃ r', call (openCall o reconciling) j = (.ok r', j.write o r') ∧ r'.status = .running := by
  cases reconciling with
  | true =>
    have hu := hc.1 rfl
    refine ⟨{ r with status := .running, result := none }, ?_, rfl⟩
    simp [openCall, call, reopenUnknownCall, hr, hu]
  | false =>
    have hu : r.status = .accepted := hs.resolve_right fun h => by simpa using hc.2 h
    refine ⟨{ r with status := .running, result := none.or r.result }, ?_, rfl⟩
    simp [openCall, call, markRunningCall, hr, hu, OperationStatus.terminal]

theorem Inv.start (h : Inv session s) (hw : s.workers[i]? = some w) (hp : w.phase = .started) :
    Inv session (s.start i w) := by
  obtain ⟨r, hr, hf⟩ := h.recorded hw
  rw [hp] at hf
  obtain ⟨c, hc⟩ := h.journal.command hr
  have ha : w.phase.alive = true := by rw [hp]; rfl
  have hopen := openCall_fits ((s.journal.query w.operationId).any fun r => r.status = .unknown) hr hf
    (by simp [query, hr])
  obtain ⟨r', hcall, hs⟩ := hopen
  have happly : OperationJournal.apply (openCall w.operationId
      ((s.journal.query w.operationId).any fun r => r.status = .unknown)) s.journal =
      s.journal.write w.operationId r' := by rw [OperationJournal.apply, hcall]
  unfold ControlPlane.start
  simp only [command, hc, hcall]
  rw [← happly]
  refine h.moveCall hw ha ?_ (openCall_ne _ _) ?_
  · unfold openCall; split <;> rfl
  · intro r'' hr''
    rw [happly] at hr''
    simp only [OperationJournal.write, Dict.get?_insert_self, Option.some.injEq] at hr''
    exact hr'' ▸ hs

/-- Finishing an unfinished record writes it. -/
theorem finishCall_unfinished {j : OperationJournal} {o : String} {r : OperationRecord}
    {status : OperationStatus} (result : Option String) (h : Consistent j)
    (hr : j.records.get? o = some r) (hs : r.status.terminal = false)
    (ht : status.terminal = true) :
    (call (.finish o status result) j).1 = .ok { r with status, result } ∧
      (OperationJournal.apply (.finish o status result) j).records.get? o =
        some { r with status, result } := by
  obtain ⟨c, hc⟩ := h.command hr
  simp only [OperationJournal.apply, call, finishCall, ht, hr, hs, not_true_eq_false, if_false,
    Bool.false_eq_true, OperationJournal.write, hc]
  by_cases hx : status.resolved = true ∧ j.activeByTask.get? c.target.taskSession = some o <;>
    simp [hx, popActive]

theorem Inv.finish (h : Inv session s) (hw : s.workers[i]? = some w) {status : OperationStatus}
    {result : String} {clears : Nat} (hp : w.phase = .running (.finish status result clears)) :
    Inv session (s.finish i w status result clears) := by
  obtain ⟨r, hr, hf⟩ := h.recorded hw
  rw [hp] at hf
  have hn : r.status = .running := hf
  have ha : w.phase.alive = true := by rw [hp]; rfl
  unfold ControlPlane.finish
  by_cases hs : status.terminal = true
  · obtain ⟨hcall, hrec⟩ := finishCall_unfinished (some result) h.journal hr
      (by rw [hn]; rfl) hs
    rw [show call (.finish w.operationId status (some result)) s.journal = (.ok _,
      OperationJournal.apply (.finish w.operationId status (some result)) s.journal) from
        Prod.ext hcall rfl]
    refine h.moveCall hw ha rfl nofun fun r' hr' => ?_
    rw [hrec] at hr'
    cases hr'
    exact hs
  · simp only [call, finishCall, if_pos hs]
    refine h.moveQuiet hw ha fun r' hr' _ => ?_
    rw [hr] at hr'
    cases hr'
    show r.status.resolved = false
    rw [hn]
    rfl

theorem Inv.handle (h : Inv session s) (hw : s.workers[i]? = some w) {e : PyErr} {finished : Bool}
    (hp : w.phase = .caught e finished) : Inv session (s.handle i w e) := by
  obtain ⟨r, hr, hf⟩ := h.recorded hw
  have ha : w.phase.alive = true := by rw [hp]; rfl
  unfold ControlPlane.handle
  simp only [query, hr]
  split
  · rename_i ht
    refine h.moveQuiet hw ha fun r' hr' _ => ?_
    rw [hr] at hr'
    cases hr'
    exact ht
  · rename_i ht
    have hterminal : OperationStatus.unknown.terminal = true := rfl
    obtain ⟨-, hrec⟩ := finishCall_unfinished (some e.message) h.journal hr (by simpa using ht)
      hterminal
    refine h.moveCall hw ha rfl nofun fun r' hr' => ?_
    rw [hrec] at hr'
    cases hr'
    rfl

theorem Inv.close (h : Inv session s) (hw : s.workers[i]? = some w) {clears : Nat}
    (hp : w.phase = .finished clears) : Inv session (s.close i w) := by
  obtain ⟨r, hr, -⟩ := h.recorded hw
  have hmove : ∀ leases, Inv session
      ⟨s.controlReady, s.journal, s.operationThreads.erase w.operationId, leases,
        s.workers.set i { w with phase := .gone }⟩ := fun leases =>
    h.move hw (by rw [hp]; rfl) rfl h.journal rfl (fun _ _ => rfl)
      (fun p hne => Dict.get?_erase_ne _ hne) nofun ⟨r, hr, trivial⟩
  unfold ControlPlane.close
  dsimp only
  split
  · exact hmove s.operationLeases
  · exact hmove (s.operationLeases.erase w.operationId)

theorem Inv.work (h : Inv session s) (hw : s.workers[i]? = some w) (a : Act) :
    Inv session (s.work i w a) := by
  unfold ControlPlane.work
  split
  · split
    · rename_i hp; exact h.start hw hp
    · exact h
  · split
    · rename_i c next hp
      refine h.moveQuiet hw (by rw [hp]; rfl) fun r _ hf => ?_
      rw [hp] at hf
      exact hf
    · exact h
  · split
    · rename_i hp
      refine h.moveQuiet hw (by rw [hp]; rfl) fun r _ hf => ?_
      rw [hp] at hf
      show r.status.resolved = false
      rcases hf with hf | hf <;> rw [hf] <;> rfl
    · rename_i hp
      refine h.moveQuiet hw (by rw [hp]; rfl) fun r _ hf => ?_
      rw [hp] at hf
      show r.status.resolved = false
      rw [show r.status = .running from hf]
      rfl
    · rename_i hp
      refine h.moveQuiet hw (by rw [hp]; rfl) fun r _ hf => ?_
      rw [hp] at hf
      exact hf
    · exact h
  · split
    · rename_i hp; exact h.finish hw hp
    · exact h
  · split
    · rename_i hp; exact h.handle hw hp
    · exact h
  · split
    · rename_i hp; exact h.close hw hp
    · exact h
  · exact h

/-! ## Submitting -/

/-- `begin` answers with the record there is, or opens a new one. -/
theorem beginCall_ok {j j' : OperationJournal} {command : OperationCommand} {record : OperationRecord}
    (h : Consistent j) (hb : call (.begin command) j = (.ok record, j')) :
    (j' = j ∧ j.records.get? command.operationId = some record ∧
        j.commands.get? command.operationId = some command) ∨
      j.records.get? command.operationId = none ∧ record = accepted command ∧
        j'.records.get? command.operationId = some record ∧
        ∀ p, j'.commands.get? p =
          if command.operationId = p then some command else j.commands.get? p := by
  have he := (call_effect h (.begin command)).1
  have hj : OperationJournal.apply (.begin command) j = j' := by rw [OperationJournal.apply, hb]
  rw [hj] at he
  simp only [call, beginCall] at hb
  cases hr : j.records.get? command.operationId with
  | some existing =>
    obtain ⟨c, hc⟩ := h.command hr
    simp only [hr, hc] at hb
    split at hb
    · cases hb
    · rename_i hcc
      cases hb
      exact .inl ⟨rfl, rfl, by rw [hc, not_not.1 hcc]⟩
  | none =>
    refine .inr ⟨rfl, ?_⟩
    simp only [hr] at hb
    split at hb
    · cases hb
      exact ⟨rfl, Dict.get?_insert_self .., fun p => Dict.get?_insert ..⟩
    · split at hb
      · cases hb
      · split at hb
        · cases hb
        · cases hb
          exact ⟨rfl, Dict.get?_insert_self .., fun p => Dict.get?_insert ..⟩

/-- The invariant does not look at leases and readiness. -/
theorem Inv.congr (h : Inv session s) (hj : t.journal = s.journal)
    (ht : t.operationThreads = s.operationThreads) (hw : t.workers = s.workers) : Inv session t :=
  ⟨hj ▸ h.journal, fun hc => h.session (hj ▸ hc), fun hv => by rw [ht]; exact h.thread (hw ▸ hv),
    fun hv => by rw [hj]; exact h.recorded (hw ▸ hv),
    fun hv hu => h.once (hw ▸ hv) (hw ▸ hu)⟩

/-- A new record has no thread yet. -/
theorem Inv.no_worker (h : Inv session s) {o : String} (hn : s.journal.records.get? o = none)
    {v : Worker} (hv : v ∈ s.workers) : v.operationId ≠ o := by
  obtain ⟨i, hi⟩ := List.mem_iff_getElem?.1 hv
  obtain ⟨r, hr, -⟩ := h.recorded hi
  rintro rfl
  rw [hr] at hn
  cases hn

/-- An operation without an entry in the thread table has no thread alive. -/
theorem Inv.all_gone (h : Inv session s) {o : String} (hn : s.operationThreads.get? o = none)
    {v : Worker} (hv : v ∈ s.workers) (ho : v.operationId = o) : v.phase = .gone := by
  obtain ⟨i, hi⟩ := List.mem_iff_getElem?.1 hv
  cases hp : v.phase with
  | gone => rfl
  | started | running _ | caught _ _ | finished _ =>
    have := h.thread hi (by rw [hp]; rfl)
    rw [ho, hn] at this
    cases this

/-- The journal of `begin`, for an operation of this task. -/
theorem Inv.begun (h : Inv session s) {command : OperationCommand} {record : OperationRecord}
    {j : OperationJournal} (hb : call (.begin command) s.journal = (.ok record, j))
    (hs : command.target.taskSession = session) : Inv session { s with journal := j } := by
  obtain ⟨rfl, -⟩ | ⟨hn, -, -, hc⟩ := beginCall_ok h.journal hb
  · exact h
  have hj : OperationJournal.apply (.begin command) s.journal = j := by
    rw [OperationJournal.apply, hb]
  have he := (call_effect h.journal (.begin command)).1
  rw [hj] at he
  refine ⟨he.consistent h.journal, fun {o c} ho => ?_, h.thread, fun {i w} hw => ?_, h.once⟩
  · rw [hc] at ho
    split at ho
    · cases ho; exact hs
    · exact h.session ho
  · rw [show ({ s with journal := j } : ControlPlane).journal = j from rfl,
      he.frame (h.no_worker hn (List.mem_of_getElem? hw)).symm]
    exact h.recorded hw

/-- A thread for an operation that has none. -/
theorem Inv.launched (h : Inv session s) {o : String} {fresh : Bool}
    (hn : ∀ v ∈ s.workers, v.operationId = o → v.phase = .gone)
    (hr : ∃ r, s.journal.records.get? o = some r ∧ phase.Fits r.status)
    (hf : fresh = true → ∀ v ∈ s.workers, v.operationId ≠ o) :
    Inv session (s.launched o fresh phase) where
  journal := h.journal
  session := h.session
  thread {i w} hw ha := by
    obtain ⟨rfl, rfl⟩ | hw' := thread_append hw
    · exact Dict.get?_insert_self ..
    · have hne : o ≠ w.operationId := by
        rintro rfl
        rw [hn w (List.mem_of_getElem? hw') rfl] at ha
        cases ha
      exact (Dict.get?_insert_ne _ _ hne).trans (h.thread hw' ha)
  recorded {i w} hw := by
    obtain ⟨rfl, rfl⟩ | hw' := thread_append hw
    · exact hr
    · exact h.recorded hw'
  once {i j w v} hw hv ho hwf hvf := by
    obtain ⟨rfl, rfl⟩ | hw' := thread_append hw <;> obtain ⟨rfl, rfl⟩ | hv' := thread_append hv
    · rfl
    · exact absurd ho.symm (hf hwf v (List.mem_of_getElem? hv'))
    · exact absurd ho (hf hvf w (List.mem_of_getElem? hw'))
    · exact h.once hw' hv' ho hwf hvf

/-- What the launch of a thread that could not be started leaves. -/
theorem Inv.launchFailed (h : Inv session s) {o : String} {replay : Bool}
    (hn : ∀ v ∈ s.workers, v.operationId = o → v.phase = .gone)
    (hr : ∃ r, s.journal.records.get? o = some r) : Inv session (s.launchFailed o replay) := by
  have hthreads : Inv session { s with operationThreads := s.operationThreads.erase o } := by
    refine ⟨h.journal, h.session, fun {i w} hw ha => ?_, h.recorded, h.once⟩
    have hne : o ≠ w.operationId := by
      rintro rfl
      rw [hn w (List.mem_of_getElem? hw) rfl] at ha
      cases ha
    exact (Dict.get?_erase_ne _ hne).trans (h.thread hw ha)
  unfold ControlPlane.launchFailed
  dsimp only
  split
  · exact hthreads
  let k : Call := .finish o .failed (some "failed to launch lifecycle worker")
  have he := (call_effect h.journal k).1
  have hc : (OperationJournal.apply k s.journal).commands = s.journal.commands :=
    he.commands_eq nofun
  refine ⟨he.consistent h.journal, fun ho => h.session (hc ▸ ho), hthreads.thread,
    fun {i w} hw => ?_, h.once⟩
  by_cases ho : w.operationId = o
  · obtain ⟨r, hr⟩ := hr
    obtain ⟨r', hr'⟩ := recorded_call h.journal (k := k) nofun hr
    subst ho
    exact ⟨r', hr', by rw [hn w (List.mem_of_getElem? hw) rfl]; trivial⟩
  · show ∃ r, (OperationJournal.apply k s.journal).records.get? w.operationId = some r ∧ _
    rw [he.frame (Ne.symm ho)]
    exact h.recorded hw

/-- What a call of `submit_operation` can do: nothing but keep a lease, open a record without a
thread (its lease conflicts), or launch a thread, which may fail to start. -/
inductive Submitted (s : ControlPlane) (command : OperationCommand) : ControlPlane → Prop
  | quiet (t : ControlPlane) (ht : t.workers = s.workers) : Submitted s command t
  | launched (t : ControlPlane) (w : Worker) (ht : t.workers = s.workers ++ [w])
    (hw : w.operationId = command.operationId)
    (hnew : w.fresh = true → s.journal.records.get? w.operationId = none)
    (hold : w.fresh = false → s.operationThreads.get? w.operationId = none ∧
      ∃ r, s.journal.records.get? w.operationId = some r ∧ r.status = .unknown) :
    Submitted s command t

theorem Inv.dispatch (h : Inv session s) {command : OperationCommand} {record : OperationRecord}
    {j : OperationJournal} (lease : Option Lease) (failure : Option PyErr)
    (hb : call (.begin command) s.journal = (.ok record, j))
    (hs : command.target.taskSession = session) :
    Inv session (({ s with journal := j } : ControlPlane).dispatch command lease failure
      (s.journal.query command.operationId) record).2 ∧
    Submitted s command (({ s with journal := j } : ControlPlane).dispatch command lease failure
      (s.journal.query command.operationId) record).2 := by
  have hbegun := h.begun hb hs
  unfold ControlPlane.dispatch
  split
  · exact ⟨hbegun, .quiet _ rfl⟩
  rename_i t ht
  obtain ⟨leases, rfl⟩ := keepLease_ok ht
  have ht : Inv session { s with journal := j, operationLeases := leases } :=
    hbegun.congr rfl rfl rfl
  dsimp only
  split
  swap
  · exact ⟨ht, .quiet _ rfl⟩
  rename_i hlaunch
  -- the operation is new, or UNKNOWN and without a thread
  have hcase : (∀ v ∈ s.workers, v.operationId = command.operationId → v.phase = .gone) ∧
      (∃ r, j.records.get? command.operationId = some r ∧ ThreadPhase.started.Fits r.status) ∧
      ((s.journal.query command.operationId).isNone = true →
        s.journal.records.get? command.operationId = none) ∧
      ((s.journal.query command.operationId).isNone = false →
        s.operationThreads.get? command.operationId = none ∧
          ∃ r, s.journal.records.get? command.operationId = some r ∧ r.status = .unknown) := by
    obtain ⟨rfl, hr, -⟩ | ⟨hn, rfl, hr, -⟩ := beginCall_ok h.journal hb
    · simp only [query, hr, Option.isNone_some, Bool.false_or, Option.any_some, Bool.and_eq_true,
        decide_eq_true_eq, Dict.contains, Bool.not_eq_true', Option.isSome_eq_false_iff,
        Option.isNone_iff_eq_none] at hlaunch
      exact ⟨fun v hv ho => h.all_gone hlaunch.2 hv ho, ⟨record, hr, .inr hlaunch.1⟩,
        fun he => by simp [query, hr] at he, fun _ => ⟨hlaunch.2, record, hr, hlaunch.1⟩⟩
    · exact ⟨fun v hv ho => absurd ho (h.no_worker hn hv), ⟨_, hr, .inl rfl⟩, fun _ => hn,
        fun he => by simp [query, hn] at he⟩
  obtain ⟨hgone, hrec, hnew, hold⟩ := hcase
  have hfresh : (s.journal.query command.operationId).isNone = true →
      ∀ v ∈ s.workers, v.operationId ≠ command.operationId :=
    fun hf v hv => h.no_worker (hnew hf) hv
  cases failure with
  | none =>
    exact ⟨ht.launched hgone hrec hfresh,
      .launched _ ⟨command.operationId, _, .started⟩ rfl rfl hnew hold⟩
  | some e =>
    obtain ⟨r, hr, -⟩ := hrec
    have hfits : ThreadPhase.gone.Fits r.status := trivial
    have hl := ht.launched hgone ⟨r, hr, hfits⟩ hfresh
    refine ⟨hl.launchFailed (fun v hv ho => ?_) ⟨r, hr⟩,
      .launched _ ⟨command.operationId, _, .gone⟩ ?_ rfl hnew hold⟩
    · obtain ⟨i, hi⟩ := List.mem_iff_getElem?.1 hv
      obtain ⟨-, rfl⟩ | hi' := thread_append hi
      · rfl
      · exact hgone v (List.mem_of_getElem? hi') ho
    · dsimp only [ControlPlane.launchFailed]
      split <;> rfl

theorem Inv.submit (h : Inv session s) (command : OperationCommand) (lease : Option Lease)
    (failure : Option PyErr) :
    Inv session (s.submitOperation session command lease failure).2 ∧
      Submitted s command (s.submitOperation session command lease failure).2 := by
  unfold submitOperation
  iterate 3
    split
    · exact ⟨h, .quiet _ rfl⟩
  split
  · exact ⟨h, .quiet _ rfl⟩
  rename_i hs
  split
  · rename_i e j hb
    have hj : OperationJournal.apply (.begin command) s.journal = j := by
      rw [OperationJournal.apply, hb]
    have hsame := (call_effect h.journal (.begin command)).2 e (by rw [hb])
    rw [hj] at hsame
    subst hsame
    exact ⟨h, .quiet _ rfl⟩
  · rename_i record j hb
    exact h.dispatch lease failure hb (not_not.1 hs)

theorem Inv.apply (h : Inv session s) (a : Act) : Inv session (apply session a s) := by
  unfold ControlPlane.apply
  split
  · exact h.congr rfl rfl rfl
  · exact (h.submit _ _ _).1
  · split
    · exact h
    · split
      · exact h
      · rename_i hw; exact h.work hw _

theorem inv_reachable (h : (machine session).Reachable s) : Inv session s := by
  refine h.invariant (fun s hs => ?_) fun s a t hs hstep _ => ?_
  · cases hs; exact inv_init
  · cases hstep; exact hs.apply a

/-! ## What is launched -/

/-- A thread is launched for an operation without a record and never launched before, or again for
one whose record is UNKNOWN and whose threads are all gone. -/
structure Launched (s : ControlPlane) (w : Worker) : Prop where
  new : w.fresh = true → s.journal.records.get? w.operationId = none ∧
    ∀ v ∈ s.workers, v.operationId ≠ w.operationId
  again : w.fresh = false →
    (∃ r, s.journal.records.get? w.operationId = some r ∧ r.status = .unknown) ∧
      ∀ v ∈ s.workers, v.operationId = w.operationId → v.phase = .gone

theorem ids_moved (hw : s.workers[i]? = some w) :
    (s.workers.set i { w with phase }).map Worker.operationId = s.workers.map Worker.operationId := by
  obtain ⟨hi, rfl⟩ := List.getElem?_eq_some_iff.1 hw
  rw [List.map_set]
  have hset : (s.workers.map Worker.operationId).set i _ = _ :=
    List.set_getElem_self (by simpa using hi)
  exact hset ▸ by simp

theorem ids_work (hw : s.workers[i]? = some w) (a : Act) :
    (s.work i w a).workers.map Worker.operationId = s.workers.map Worker.operationId := by
  unfold work
  split <;> try rfl
  all_goals split <;> try rfl
  · unfold start
    split
    · exact ids_moved hw
    · dsimp only
      split <;> exact ids_moved hw
  · exact ids_moved hw
  · exact ids_moved hw
  · exact ids_moved hw
  · exact ids_moved hw
  · unfold finish
    split <;> exact ids_moved hw
  · unfold handle
    split
    · exact ids_moved hw
    · split <;> exact ids_moved hw
  · unfold close
    dsimp only
    split <;> exact ids_moved hw

theorem ids_apply (h : Inv session s) (a : Act) :
    (apply session a s).workers.map Worker.operationId = s.workers.map Worker.operationId ∨
      ∃ w, (apply session a s).workers = s.workers ++ [w] ∧ Launched s w := by
  unfold ControlPlane.apply
  split
  · exact .inl rfl
  · rename_i command lease failure
    cases (h.submit command lease failure).2 with
    | quiet ht => exact .inl (by rw [ht])
    | launched w ht hw hnew hold =>
      refine .inr ⟨w, ht, fun hf => ⟨hnew hf, fun v hv => h.no_worker (hnew hf) hv⟩, fun hf => ?_⟩
      obtain ⟨hn, hr⟩ := hold hf
      exact ⟨hr, fun v hv ho => h.all_gone hn hv ho⟩
  · split
    · exact .inl rfl
    · split
      · exact .inl rfl
      · rename_i hw; exact .inl (ids_work hw _)

theorem launched_of_append (h : Inv session s) {a : Act}
    (ha : (apply session a s).workers = s.workers ++ [w]) : Launched s w := by
  obtain hids | ⟨v, hv, hl⟩ := ids_apply h a
  · have := congrArg List.length hids
    simp [ha] at this
  · rw [ha, List.append_cancel_left_eq, List.singleton_inj] at hv
    exact hv ▸ hl

/-! ## Exclusion -/

theorem fits_busy {p : ThreadPhase} {status : OperationStatus} (hb : p.busy = true) (hf : p.Fits status) :
    status.resolved = false := by
  match p with
  | .running _ => rw [show status = .running from hf]; rfl
  | .caught _ false => exact hf

theorem alive_of_busy {p : ThreadPhase} (hb : p.busy = true) : p.alive = true := by
  cases p <;> simp_all [ThreadPhase.busy, ThreadPhase.alive]

/-- Two busy threads are one: both operations are the active one of the task. -/
theorem Inv.exclusive (h : Inv session s) {j : Nat} {v : Worker} (hw : s.workers[i]? = some w)
    (hv : s.workers[j]? = some v) (hwb : w.phase.busy = true) (hvb : v.phase.busy = true) : i = j := by
  have hactive : ∀ {k : Nat} {u : Worker}, s.workers[k]? = some u → u.phase.busy = true →
      s.journal.activeByTask.get? session = some u.operationId := by
    intro k u hu hub
    obtain ⟨r, hr, hf⟩ := h.recorded hu
    obtain ⟨c, hc⟩ := h.journal.command hr
    rw [← h.session hc]
    exact h.journal.active hr (fits_busy hub hf) hc
  have ho : w.operationId = v.operationId :=
    Option.some.inj ((hactive hw hwb).symm.trans (hactive hv hvb))
  have hi := h.thread hw (alive_of_busy hwb)
  rw [ho, h.thread hv (alive_of_busy hvb)] at hi
  exact (Option.some.inj hi).symm

/-- No thread of a resolved operation will execute it. -/
theorem Inv.retired (h : Inv session s) {o : String} {r : OperationRecord}
    (hr : s.journal.records.get? o = some r) (hs : r.status.resolved = true) (hw : w ∈ s.workers)
    (ho : w.operationId = o) : w.phase.executes = false := by
  obtain ⟨i, hi⟩ := List.mem_iff_getElem?.1 hw
  obtain ⟨r', hr', hf⟩ := h.recorded hi
  rw [ho, hr] at hr'
  cases hr'
  cases hp : w.phase with
  | started => rw [hp] at hf; rcases hf with hf | hf <;> rw [hf] at hs <;> cases hs
  | running rest =>
    rw [hp] at hf
    rw [show r.status = .running from hf] at hs
    cases hs
  | caught e finished =>
    cases finished with
    | true => rfl
    | false => rw [hp] at hf; rw [show r.status.resolved = false from hf] at hs; cases hs
  | finished clears => rfl
  | gone => rfl

/-- The threads a run launches are not of operations that were resolved before. -/
theorem launched_run (h : Inv session s) {o : String} {r : OperationRecord}
    (hr : s.journal.records.get? o = some r) (hs : r.status.resolved = true)
    (hrun : (machine session).Run s t) :
    Inv session t ∧ ∃ new, t.workers.map Worker.operationId =
      s.workers.map Worker.operationId ++ new ∧ o ∉ new := by
  refine (hrun.invariant (I := fun t => (Inv session t ∧ t.journal.records.get? o = some r) ∧
    ∃ new, t.workers.map Worker.operationId = s.workers.map Worker.operationId ++ new ∧ o ∉ new)
    (fun t a u ht hstep _ => ?_) ⟨⟨h, hr⟩, [], by simp, by simp⟩).imp And.left id
  cases hstep
  obtain ⟨⟨hi, hrt⟩, new, hids, hnew⟩ := ht
  refine ⟨⟨hi.apply a, resolved_run hi.journal (run_apply a t) hrt hs⟩, ?_⟩
  obtain hsame | ⟨w, hw, hl⟩ := ids_apply hi a
  · exact ⟨new, hsame.trans hids, hnew⟩
  · refine ⟨new ++ [w.operationId], by simp [hw, hids], ?_⟩
    have hne : o ≠ w.operationId := by
      rintro rfl
      cases hf : w.fresh with
      | true => rw [(hl.new hf).1] at hrt; cases hrt
      | false =>
        obtain ⟨⟨r', hr', hu⟩, -⟩ := hl.again hf
        rw [hrt] at hr'
        cases hr'
        rw [hu] at hs
        cases hs
    simp [hnew, hne]

/-- Worker exclusion: at most one lifecycle thread is between marking its operation RUNNING and
finishing it; a thread is launched for a new operation, once, or again for an UNKNOWN one with no
thread alive; and no thread executes a resolved operation, then or later. -/
theorem worker_exclusion {session : String} {s : ControlPlane}
    (h : (machine session).Reachable s) :
    (∀ (i j : Nat) (w v : Worker), s.workers[i]? = some w → s.workers[j]? = some v →
      w.phase.busy = true → v.phase.busy = true → i = j) ∧
    (∀ a w, (apply session a s).workers = s.workers ++ [w] → Launched s w) ∧
    (∀ (i j : Nat) (w v : Worker), s.workers[i]? = some w → s.workers[j]? = some v →
      w.operationId = v.operationId → w.fresh = true → v.fresh = true → i = j) ∧
    ∀ o r t, s.journal.records.get? o = some r → r.status = .succeeded ∨ r.status = .failed →
      (machine session).Run s t → t.journal.records.get? o = some r ∧
        (∀ w ∈ t.workers, w.operationId = o → w.phase.executes = false) ∧
        ∀ w ∈ t.workers.drop s.workers.length, w.operationId ≠ o := by
  have hi := inv_reachable h
  refine ⟨fun i j w v hw hv => hi.exclusive hw hv, fun a w => launched_of_append hi,
    fun i j w v hw hv => hi.once hw hv, fun o r t hr hs hrun => ?_⟩
  have hres : r.status.resolved = true := by rcases hs with hs | hs <;> rw [hs] <;> rfl
  obtain ⟨ht, new, hids, hnew⟩ := launched_run hi hr hres hrun
  have hrt := resolved_run hi.journal (journal_run hrun) hr hres
  refine ⟨hrt, fun w hw ho => ht.retired hrt hres hw ho, fun w hw ho => hnew ?_⟩
  have hdrop : (t.workers.drop s.workers.length).map Worker.operationId = new := by
    rw [List.map_drop, hids]
    simp
  exact hdrop ▸ List.mem_map.2 ⟨w, hw, ho⟩

/-- A DONATE of the task's first replica. -/
def donateCommand (id : String) (hid : id ≠ "" := by exact ne_empty holds) : OperationCommand :=
  ⟨id, .donate, nativeReplicaKey "task-a" (ne_empty holds) 0, "l1", none, hid, ne_empty holds,
    by simp⟩

def submitDonate (id : String) (failure : Option PyErr := none)
    (hid : id ≠ "" := by exact ne_empty holds) : Act :=
  .submit (donateCommand id hid) none failure

/-- The thread of a first DONATE could not be started. -/
def unstarted : ControlPlane :=
  Machine.exec (apply "task-a")
    [.setReady true, submitDonate "op-1" (some (.runtimeError "can't start new thread"))] init

/-- Its replays leave it FAILED, whatever else runs. -/
theorem worker_exclusion_unstarted :
    (Machine.exec (apply "task-a") [submitDonate "op-1", submitDonate "op-2", .start 1]
      unstarted).journal.records.get? "op-1" =
      some ⟨"op-1", .failed, some "failed to launch lifecycle worker"⟩ :=
  have h : (machine "task-a").Reachable unstarted := ⟨init, rfl, Machine.run_exec _ _ _ _⟩
  ((worker_exclusion h).2.2.2 "op-1"
    ⟨"op-1", .failed, some "failed to launch lifecycle worker"⟩ _ (by decide +kernel) (.inr rfl)
    (Machine.run_exec _ _ _ _)).1

end ReplicaLending.ControlPlane
