import ReplicaLending.Task.Exclusion
/-!
# What the threads of a TaskRunner keep

A property `B` of the code a lifecycle thread has left, and what it says of an operation that ends as
FAILED (`F`). If every branch of `_execute_operation` starts with `B` and code with `B` finishes as
FAILED only with `F` (`Discipline`), then `Follows` is kept by every step of a TaskRunner but two: the
replies of the owners have to keep `B`, and `submit_operation` marks an operation FAILED by itself
when the thread of a new operation cannot be started (task_runner.py:231, `LaunchFails`).
-/

namespace ReplicaLending

namespace OperationJournal

/-- A record is FAILED because it was, or by a `finish` that says so. -/
theorem Effect.failed {j j' : OperationJournal} {k : Call} {o : String} {r : OperationRecord}
    (he : Effect j k j') (hr : j'.records.get? o = some r) (hs : r.status = .failed) :
    j.records.get? o = some r ∨ ∃ result, k = .finish o .failed result := by
  by_cases ho : k.operationId = o
  swap
  · rw [he.frame ho] at hr; exact .inl hr
  cases he with
  | unchanged => exact .inl hr
  | opened c j₀ hnew hfree hj =>
    obtain rfl : c.operationId = o := ho
    have hw : (j₀.opened c).records.get? c.operationId = some (accepted c) :=
      Dict.get?_insert_self ..
    rw [hw] at hr
    cases hr
    cases hs
  | running q result r' hr' hs' =>
    obtain rfl : q = o := ho
    have hw := (Dict.get?_insert_self j.records q _).symm.trans hr
    cases hw
    cases hs
  | reopened q r' hr' hs' =>
    obtain rfl : q = o := ho
    have hw := (Dict.get?_insert_self j.records q _).symm.trans hr
    cases hw
    cases hs
  | unresolved q result r' hr' hs' =>
    obtain rfl : q = o := ho
    have hw := (Dict.get?_insert_self j.records q _).symm.trans hr
    cases hw
    cases hs
  | resolved q status result r' c hr' hs' hc hf =>
    obtain rfl : q = o := ho
    have hw := (Dict.get?_insert_self j.records q _).symm.trans hr
    cases hw
    cases hs
    exact .inr ⟨result, rfl⟩

end OperationJournal

namespace ControlPlane

open OperationJournal

variable {session : String} {s t : ControlPlane} {i : Nat} {w : Worker} {phase : ThreadPhase}
  {B B' : OperationCommand → Body → Prop} {F F' : OperationCommand → Prop}

/-- Every branch starts with `B`, and finishing as FAILED takes `F`. -/
structure Discipline (B : OperationCommand → Body → Prop) (F : OperationCommand → Prop) : Prop where
  starts : ∀ c lease reconciling, (∀ l, lease = some l → l.leaseId = c.leaseId) →
    B c (lifecycleBody c lease reconciling)
  fails : ∀ c result clears, B c (.finish .failed result clears) → F c

/-- The code of every thread has `B`, and every FAILED operation `F`. -/
structure Follows (B : OperationCommand → Body → Prop) (F : OperationCommand → Prop)
    (s : ControlPlane) : Prop where
  keyed : ∀ {o c}, s.journal.commands.get? o = some c → c.operationId = o
  /-- A lease snapshot is of the lease of its operation's command. -/
  snapshots : ∀ {o l}, s.operationLeases.get? o = some l →
    ∃ c, s.journal.commands.get? o = some c ∧ l.leaseId = c.leaseId
  bodies : ∀ {i : Nat} {w : Worker} {rest c}, s.workers[i]? = some w → w.phase = .running rest →
    s.journal.commands.get? w.operationId = some c → B c rest
  failed : ∀ {o r c}, s.journal.records.get? o = some r → r.status = .failed →
    s.journal.commands.get? o = some c → F c

theorem follows_init : Follows B F init := ⟨nofun, nofun, by simp [init], nofun⟩

theorem Follows.mono (h : Follows B F s) (hB : ∀ c b, B c b → B' c b) (hF : ∀ c, F c → F' c) :
    Follows B' F' s :=
  ⟨h.keyed, h.snapshots, fun hw hp hc => hB _ _ (h.bodies hw hp hc),
    fun hr hs hc => hF _ (h.failed hr hs hc)⟩

/-- The lease snapshots may shrink. -/
theorem Follows.congr (h : Follows B F s) (hj : t.journal = s.journal) (hw : t.workers = s.workers)
    (hl : ∀ {o l}, t.operationLeases.get? o = some l → s.operationLeases.get? o = some l) :
    Follows B F t :=
  ⟨fun hc => h.keyed (hj ▸ hc), fun ho => hj ▸ h.snapshots (hl ho),
    fun hv hp hc => h.bodies (hw ▸ hv) hp (hj ▸ hc), fun hr hs hc => h.failed (hj ▸ hr) hs (hj ▸ hc)⟩

/-! ## Steps of one thread -/

/-- A step of one thread, with a call of the journal that is no `begin`. -/
theorem Follows.move (h : Follows B F s) (hi : Inv session s) (hw : s.workers[i]? = some w) (k : Call)
    (hb : ∀ c, k ≠ .begin c)
    (hk : ∀ o result c, k = .finish o .failed result → s.journal.commands.get? o = some c → F c)
    (hphase : ∀ rest c, phase = .running rest → s.journal.commands.get? w.operationId = some c →
      B c rest) :
    Follows B F ({ s with journal := OperationJournal.apply k s.journal }.moved i w phase) := by
  have he := (call_effect hi.journal k).1
  have hc : (OperationJournal.apply k s.journal).commands = s.journal.commands := he.commands_eq hb
  refine ⟨fun ho => h.keyed (hc ▸ ho), fun hl => ?_, fun {j v rest c} hv hp hcv => ?_,
    fun {o r c} hr hs hco => ?_⟩
  · obtain ⟨c, hco, hid⟩ := h.snapshots hl
    exact ⟨c, hc ▸ hco, hid⟩
  · have hcs : s.journal.commands.get? v.operationId = some c := hc ▸ hcv
    obtain ⟨rfl, rfl⟩ | ⟨-, hv'⟩ := thread_set hv
    · exact hphase rest c hp hcs
    · exact h.bodies hv' hp hcs
  · have hcs : s.journal.commands.get? o = some c := hc ▸ hco
    obtain hr' | ⟨result, rfl⟩ := he.failed hr hs
    · exact h.failed hr' hs hcs
    · exact hk o result c rfl hcs

/-- A step of one thread that leaves the journal alone. -/
theorem Follows.moveQuiet (h : Follows B F s) (hw : s.workers[i]? = some w)
    (hphase : ∀ rest c, phase = .running rest → s.journal.commands.get? w.operationId = some c →
      B c rest) : Follows B F (s.moved i w phase) := by
  refine ⟨h.keyed, h.snapshots, fun {j v rest c} hv hp hcv => ?_, h.failed⟩
  obtain ⟨rfl, rfl⟩ | ⟨-, hv'⟩ := thread_set hv
  · exact hphase rest c hp hcv
  · exact h.bodies hv' hp hcv

theorem apply_eq {j j' : OperationJournal} {k : Call} {r : Except PyErr OperationRecord}
    (h : call k j = (r, j')) : j' = OperationJournal.apply k j := by rw [OperationJournal.apply, h]

theorem command_of_journal {j : OperationJournal} {o : String} {command : OperationCommand}
    (h : j.command o = .ok command) : j.commands.get? o = some command := by
  unfold OperationJournal.command at h
  split at h
  · rename_i hc; cases h; exact hc
  · cases h

theorem Follows.start (h : Follows B F s) (hd : Discipline B F) (hi : Inv session s)
    (hw : s.workers[i]? = some w) : Follows B F (s.start i w) := by
  unfold ControlPlane.start
  split
  · exact h.moveQuiet hw nofun
  · rename_i command hcommand
    have hc := command_of_journal hcommand
    dsimp only
    split <;> rename_i hcall <;> rw [apply_eq hcall]
    · refine h.move hi hw _ (openCall_ne _ _) ?_ nofun
      unfold openCall; split <;> nofun
    · refine h.move hi hw _ (openCall_ne _ _) ?_ fun rest c hrest hc' => ?_
      · unfold openCall; split <;> nofun
      · cases hrest
        rw [hc] at hc'
        cases hc'
        refine hd.starts _ _ _ fun l hl => ?_
        obtain ⟨c', hc', hl'⟩ := h.snapshots hl
        rw [hc] at hc'
        cases hc'
        exact hl'

theorem Follows.close (h : Follows B F s) (hw : s.workers[i]? = some w) :
    Follows B F (s.close i w) := by
  have hm : Follows B F (moved ⟨s.controlReady, s.journal, s.operationThreads.erase w.operationId,
      s.operationLeases, s.workers⟩ i w .gone) :=
    Follows.moveQuiet ⟨h.keyed, h.snapshots, h.bodies, h.failed⟩ hw nofun
  unfold ControlPlane.close
  dsimp only
  split
  · exact hm
  · refine hm.congr rfl rfl fun {o l} hl => ?_
    have hl' : (s.operationLeases.erase w.operationId).get? o = some l := hl
    rw [Dict.get?_erase] at hl'
    split at hl'
    · cases hl'
    · exact hl'

/-- The reply to the call a thread waits for keeps `B`. -/
def Answers (B : OperationCommand → Body → Prop) (s : ControlPlane) (w : Worker) (a : Act) : Prop :=
  ∀ j reply call next c, a = .answer j reply → w.phase = .running (.call call next) →
    s.journal.commands.get? w.operationId = some c → B c (.call call next) → B c (next reply)

theorem Follows.work (h : Follows B F s) (hd : Discipline B F) (hi : Inv session s)
    (hw : s.workers[i]? = some w) {a : Act} (ha : Answers B s w a) : Follows B F (s.work i w a) := by
  unfold ControlPlane.work
  split
  · split
    · exact h.start hd hi hw
    · exact h
  · rename_i j reply
    split
    · rename_i call next hp
      refine h.moveQuiet hw fun rest c hrest hc => ?_
      cases hrest
      exact ha j reply call next c rfl hp hc (h.bodies hw hp hc)
    · exact h
  · split
    · exact h.moveQuiet hw nofun
    · exact h.moveQuiet hw nofun
    · exact h.moveQuiet hw nofun
    · exact h
  · split
    · rename_i status result clears hp
      unfold ControlPlane.finish
      split <;> rename_i hcall <;> rw [apply_eq hcall]
      all_goals
        refine h.move hi hw _ nofun (fun o result' c hk hc => ?_) nofun
        cases hk
        exact hd.fails _ _ _ (h.bodies hw hp hc)
    · exact h
  · split
    · unfold ControlPlane.handle
      split
      · exact h.moveQuiet hw nofun
      · split
        · exact h.moveQuiet hw nofun
        · exact h.move hi hw _ nofun (fun o result c hk => by cases hk) nofun
    · exact h
  · split
    · exact h.close hw
    · exact h
  · exact h

/-! ## Submitting -/

theorem Follows.begun (h : Follows B F s) (hi : Inv session s) {command : OperationCommand}
    {record : OperationRecord} {j : OperationJournal}
    (hb : call (.begin command) s.journal = (.ok record, j)) :
    Follows B F { s with journal := j } ∧ j.commands.get? command.operationId = some command := by
  obtain ⟨rfl, -, hc⟩ | ⟨hn, -, -, hc⟩ := beginCall_ok hi.journal hb
  · exact ⟨h, hc⟩
  have hfresh : s.journal.commands.get? command.operationId = none := by
    rw [← Option.isNone_iff_eq_none, ← Option.not_isSome, ← hi.journal.bound, hn]
    rfl
  have hold : ∀ {o c}, command.operationId ≠ o → j.commands.get? o = some c →
      s.journal.commands.get? o = some c := fun hne ho => by rwa [hc, if_neg hne] at ho
  have he := (call_effect hi.journal (.begin command)).1
  rw [← apply_eq hb] at he
  refine ⟨⟨fun {o c} ho => ?_, fun {o l} hl => ?_, fun {i w rest c} hw hp hcw => ?_,
    fun {o r c} hr hs hco => ?_⟩, by rw [hc, if_pos rfl]⟩
  · have ho' : j.commands.get? o = some c := ho
    rw [hc] at ho'
    split at ho'
    · rename_i hid; cases ho'; exact hid
    · exact h.keyed ho'
  · obtain ⟨c, hcs, hid⟩ := h.snapshots hl
    have hne : command.operationId ≠ o := by
      rintro rfl
      rw [hfresh] at hcs
      cases hcs
    exact ⟨c, by show j.commands.get? o = _; rw [hc, if_neg hne]; exact hcs, hid⟩
  · exact h.bodies hw hp (hold (hi.no_worker hn (List.mem_of_getElem? hw)).symm hcw)
  · obtain hr' | ⟨result, hk⟩ := he.failed hr hs
    · refine h.failed hr' hs (hold ?_ hco)
      rintro rfl
      rw [hn] at hr'
      cases hr'
    · cases hk

theorem Follows.keepLease (h : Follows B F s) {command : OperationCommand} {lease : Option Lease}
    (hc : s.journal.commands.get? command.operationId = some command)
    (hl : ∀ l, lease = some l → l.leaseId = command.leaseId)
    (ht : s.keepLease command lease = .ok t) : Follows B F t := by
  unfold ControlPlane.keepLease at ht
  split at ht
  · rename_i l hk
    split at ht
    · cases ht
    · cases ht
      refine ⟨h.keyed, fun {o l'} ho => ?_, h.bodies, h.failed⟩
      have ho' : (s.operationLeases.setDefault command.operationId l).get? o = some l' := ho
      rw [Dict.get?_setDefault] at ho'
      split at ho'
      · rename_i hid
        subst hid
        cases hprev : s.operationLeases.get? command.operationId with
        | some previous =>
          rw [hprev] at ho'
          cases ho'
          exact h.snapshots hprev
        | none =>
          rw [hprev] at ho'
          cases ho'
          exact ⟨command, hc, hl l rfl⟩
      · exact h.snapshots ho'
  · cases ht; exact h

/-- The thread of a new operation cannot be started: the submission passes all checks, the operation
has no record yet, no other one is active, and `worker.start()` raises. -/
def LaunchFails (session : String) (command : OperationCommand) (failure : Option PyErr)
    (s : ControlPlane) : Prop :=
  failure.isSome = true ∧ s.controlReady = true ∧ command.target.taskSession = session ∧
    s.journal.query command.operationId = none ∧ (call (.begin command) s.journal).1.isOk = true

instance (session : String) (command : OperationCommand) (failure : Option PyErr)
    (s : ControlPlane) : Decidable (LaunchFails session command failure s) :=
  inferInstanceAs (Decidable (_ ∧ _))

/-- `submit_operation` marks its operation FAILED. -/
theorem Follows.failedLaunch (h : Follows B F s) (hj : Consistent s.journal) {command : OperationCommand}
    {result : Option String} (hc : s.journal.commands.get? command.operationId = some command)
    (hF : F command) :
    Follows B F { s with journal :=
      OperationJournal.apply (.finish command.operationId .failed result) s.journal } := by
  have he := (call_effect hj (.finish command.operationId .failed result)).1
  have hcs := he.commands_eq nofun
  refine ⟨fun ho => h.keyed (hcs ▸ ho), fun hl => ?_, fun hv hph hcv => h.bodies hv hph (hcs ▸ hcv),
    fun {o r c} hr hs hco => ?_⟩
  · obtain ⟨c, hco, hid⟩ := h.snapshots hl
    exact ⟨c, hcs ▸ hco, hid⟩
  · have hco' : s.journal.commands.get? o = some c := hcs ▸ hco
    obtain hr' | ⟨result', hk⟩ := he.failed hr hs
    · exact h.failed hr' hs hco'
    · cases hk
      rw [hc] at hco'
      cases hco'
      exact hF

theorem Follows.dispatch (h : Follows B F s) (hi : Inv session s) {command : OperationCommand}
    {record : OperationRecord} {j : OperationJournal} {lease : Option Lease}
    {failure : Option PyErr} (hb : call (.begin command) s.journal = (.ok record, j))
    (hl : ∀ l, lease = some l → l.leaseId = command.leaseId)
    (hf : failure.isSome = true → s.journal.query command.operationId = none → F command) :
    Follows B F (({ s with journal := j } : ControlPlane).dispatch command lease failure
      (s.journal.query command.operationId) record).2 := by
  obtain ⟨hbegun, hc⟩ := h.begun hi hb
  unfold ControlPlane.dispatch
  split
  · exact hbegun
  rename_i t ht
  have hkept := hbegun.keepLease hc hl ht
  obtain ⟨leases, rfl⟩ := keepLease_ok ht
  have hlaunched : ∀ fresh, ∀ phase : ThreadPhase, (∀ rest, phase ≠ .running rest) → Follows B F
      (launched command.operationId fresh phase { s with journal := j, operationLeases := leases }) := by
    intro fresh phase hp
    refine ⟨hkept.keyed, hkept.snapshots, fun {i w rest c} hw hph hcw => ?_, hkept.failed⟩
    obtain ⟨-, rfl⟩ | hw' := thread_append hw
    · exact absurd hph (hp rest)
    · exact hkept.bodies hw' hph hcw
  dsimp only
  split
  swap
  · exact hkept
  cases failure with
  | none => exact hlaunched _ _ fun _ h => by cases h
  | some e =>
    unfold launchFailed
    dsimp only
    have hgone := hlaunched (s.journal.query command.operationId).isNone .gone fun _ h => by cases h
    split
    · exact hgone.congr rfl rfl id
    · rename_i hreplay hnotReplay
      have hnew : s.journal.query command.operationId = none := by
        simpa [hnotReplay] using hreplay
      have hj : Consistent j := by
        rw [apply_eq hb]
        exact (call_effect hi.journal (.begin command)).1.consistent hi.journal
      refine (hgone.failedLaunch hj hc (hf rfl hnew)).congr rfl rfl fun {o l} ho => ?_
      have ho' : (leases.erase command.operationId).get? o = some l := ho
      rw [Dict.get?_erase] at ho'
      split at ho'
      · cases ho'
      · exact ho'

theorem Follows.submit (h : Follows B F s) (hi : Inv session s) {command : OperationCommand}
    {lease : Option Lease} {failure : Option PyErr}
    (hf : LaunchFails session command failure s → F command) :
    Follows B F (s.submitOperation session command lease failure).2 := by
  unfold submitOperation
  split
  · exact h
  rename_i hl
  split
  · exact h
  split
  · exact h
  rename_i hready
  split
  · exact h
  rename_i hs
  split
  · rename_i e j hb
    have hsame := (call_effect hi.journal (.begin command)).2 e (by rw [hb])
    rw [← apply_eq hb] at hsame
    subst hsame
    exact h
  · rename_i record j hb
    refine h.dispatch hi hb (fun l hl' => ?_) fun hfail hnew => hf ?_
    · subst hl'
      simpa using hl
    · exact ⟨hfail, by simpa using hready, not_not.1 hs, hnew, by rw [hb]; rfl⟩

/-- Such a submission leaves its operation FAILED. -/
theorem LaunchFails.failed {command : OperationCommand} {failure : Option PyErr}
    (hf : LaunchFails session command failure s) (h : Follows B F s) (hi : Inv session s)
    {lease : Lease} (hl : lease.leaseId = command.leaseId) :
    ∃ r, (s.submitOperation session command (some lease) failure).2.journal.records.get?
        command.operationId = some r ∧ r.status = .failed ∧
      (s.submitOperation session command (some lease) failure).2.journal.commands.get?
        command.operationId = some command := by
  obtain ⟨hfail, hready, hs, hnew, hok⟩ := hf
  obtain ⟨e, rfl⟩ := Option.isSome_iff_exists.1 hfail
  rcases hb : call (.begin command) s.journal with ⟨_ | record, j⟩
  · rw [hb] at hok; cases hok
  have hsub : s.submitOperation session command (some lease) (some e) =
      { s with journal := j }.dispatch command (some lease) (some e)
        (s.journal.query command.operationId) record := by
    unfold submitOperation
    rw [if_neg (by simpa using hl), if_neg (by simp), if_neg (by simp [hready]),
      if_neg (not_not.2 hs), hb]
  rw [hsub]
  obtain ⟨-, hrec⟩ | ⟨hn, rfl, hrec, hc⟩ := beginCall_ok hi.journal hb
  · rw [show s.journal.records.get? command.operationId = none from hnew] at hrec
    cases hrec.1
  have hcj : j.commands.get? command.operationId = some command := by rw [hc, if_pos rfl]
  have hj : Consistent j := by
    rw [apply_eq hb]
    exact (call_effect hi.journal (.begin command)).1.consistent hi.journal
  -- a new operation has no snapshot that the lease could conflict with
  have hkeep : ∃ leases, ControlPlane.keepLease command (some lease) { s with journal := j } =
      .ok { s with journal := j, operationLeases := leases } := by
    have hno : s.operationLeases.get? command.operationId = none := by
      cases hp : s.operationLeases.get? command.operationId with
      | none => rfl
      | some l =>
        obtain ⟨c, hcs, -⟩ := h.snapshots hp
        have := hi.journal.bound (o := command.operationId)
        rw [hn, hcs] at this
        cases this
    unfold ControlPlane.keepLease
    split
    · rename_i hlease
      exact ⟨_, by rw [hno]; rfl⟩
    · exact ⟨_, rfl⟩
  obtain ⟨leases, hkeep⟩ := hkeep
  have hterminal : OperationStatus.failed.terminal = true := rfl
  obtain ⟨-, hfin⟩ := finishCall_unfinished (some "failed to launch lifecycle worker") hj hrec rfl
    hterminal
  have he := (call_effect hj (.finish command.operationId .failed
    (some "failed to launch lifecycle worker"))).1
  unfold ControlPlane.dispatch
  simp only [hkeep, hnew, Option.isNone_none, Option.any_none, Bool.false_and, Bool.true_or, if_true,
    launchFailed, Bool.false_eq_true, if_false]
  exact ⟨_, hfin, rfl, (he.commands_eq fun _ h => by cases h) ▸ hcj⟩

/-! ## Which thread moves -/

theorem apply_worker {a : Act} (ha : a.worker? = some i) : apply session a s =
    match s.workers[i]? with
    | none => s
    | some w => s.work i w a := by
  cases a <;> cases ha <;> rfl

/-- What a step does to the thread that takes it. -/
inductive Moves (i : Nat) (w : Worker) (a : Act) : ThreadPhase → Prop
  | opens (rest : Body) (hw : w.phase = .started) (ha : a = .start i) : Moves i w a (.running rest)
  | answers (c : Remote) (next : Reply → Body) (r : Reply) (hw : w.phase = .running (.call c next))
    (ha : a = .answer i r) : Moves i w a (.running (next r))
  | leaves (phase : ThreadPhase) (hs : phase ≠ .started) (hr : ∀ rest, phase ≠ .running rest) :
    Moves i w a phase

theorem work_workers (s : ControlPlane) {a : Act} (ha : a.worker? = some i) :
    (s.work i w a).workers = s.workers ∨
      ∃ phase, (s.work i w a).workers = s.workers.set i { w with phase } ∧ Moves i w a phase := by
  cases a with
  | setReady | submit => cases ha
  | start j =>
    cases ha
    simp only [work]
    split
    · rename_i hp
      unfold start
      refine .inr ?_
      split
      · exact ⟨_, rfl, .leaves _ nofun nofun⟩
      · dsimp only
        split
        · exact ⟨_, rfl, .leaves _ nofun nofun⟩
        · exact ⟨_, rfl, .opens _ hp rfl⟩
    · exact .inl rfl
  | answer j r =>
    cases ha
    simp only [work]
    split
    · rename_i c next hp
      exact .inr ⟨_, rfl, .answers c next r hp rfl⟩
    · exact .inl rfl
  | raise j e =>
    cases ha
    simp only [work]
    split
    · exact .inr ⟨_, rfl, .leaves _ nofun nofun⟩
    · exact .inr ⟨_, rfl, .leaves _ nofun nofun⟩
    · exact .inr ⟨_, rfl, .leaves _ nofun nofun⟩
    · exact .inl rfl
  | finish j =>
    cases ha
    simp only [work]
    split
    · unfold finish
      refine .inr ?_
      split <;> exact ⟨_, rfl, .leaves _ nofun nofun⟩
    · exact .inl rfl
  | handle j =>
    cases ha
    simp only [work]
    split
    · unfold handle
      refine .inr ?_
      split
      · exact ⟨_, rfl, .leaves _ nofun nofun⟩
      · split <;> exact ⟨_, rfl, .leaves _ nofun nofun⟩
    · exact .inl rfl
  | close j =>
    cases ha
    simp only [work]
    split
    · unfold close
      refine .inr ?_
      dsimp only
      split <;> exact ⟨_, rfl, .leaves _ nofun nofun⟩
    · exact .inl rfl

theorem submit_workers (session : String) (command : OperationCommand) (lease : Option Lease)
    (failure : Option PyErr) (s : ControlPlane) :
    (s.submitOperation session command lease failure).2.workers = s.workers ∨
      ∃ w, (s.submitOperation session command lease failure).2.workers = s.workers ++ [w] ∧
        ∀ rest, w.phase ≠ .running rest := by
  unfold submitOperation
  iterate 4
    split
    · exact .inl rfl
  split
  · exact .inl rfl
  unfold dispatch
  split
  · exact .inl rfl
  rename_i t ht
  obtain ⟨leases, rfl⟩ := keepLease_ok ht
  dsimp only
  split
  swap
  · exact .inl rfl
  split
  · exact .inr ⟨_, rfl, fun _ h => by cases h⟩
  · unfold launchFailed
    dsimp only
    split <;> exact .inr ⟨_, rfl, fun _ h => by cases h⟩

/-- A thread that is running was, and has not moved, or has moved by the step. -/
theorem apply_running {a : Act} {v : Worker} {rest : Body}
    (hv : (apply session a s).workers[i]? = some v) (hp : v.phase = .running rest) :
    s.workers[i]? = some v ∨ ∃ w, s.workers[i]? = some w ∧ v.operationId = w.operationId ∧
      Moves i w a (.running rest) := by
  cases ha : a.worker? with
  | some j =>
    rw [apply_worker ha] at hv
    split at hv
    · exact .inl hv
    · rename_i w hw
      obtain heq | ⟨phase, heq, hm⟩ := work_workers s ha
      · rw [heq] at hv; exact .inl hv
      · rw [heq] at hv
        obtain ⟨rfl, rfl⟩ | ⟨-, hv'⟩ := thread_set hv
        · exact .inr ⟨w, hw, rfl, by rw [← hp]; exact hm⟩
        · exact .inl hv'
  | none =>
    cases a with
    | setReady ready => exact .inl hv
    | submit command lease failure =>
      obtain heq | ⟨w, heq, hr⟩ := submit_workers session command lease failure s
      · exact .inl (heq ▸ hv)
      · have hv' : (s.workers ++ [w])[i]? = some v := heq ▸ hv
        obtain ⟨-, rfl⟩ | hv' := thread_append hv'
        · exact absurd hp (hr rest)
        · exact .inl hv'
    | start | answer | raise | finish | handle | close => cases ha

/-- A thread that has started stays where it is in the list, and does not start again. -/
theorem apply_started {a : Act} (hw : s.workers[i]? = some w) (hp : w.phase ≠ .started) :
    ∃ v, (apply session a s).workers[i]? = some v ∧ v.phase ≠ .started := by
  have happend : ∀ u, (s.workers ++ [u])[i]? = some w := fun u => by
    rw [List.getElem?_append_left (List.getElem?_eq_some_iff.1 hw).1]
    exact hw
  cases ha : a.worker? with
  | some j =>
    rw [apply_worker ha]
    split
    · exact ⟨w, hw, hp⟩
    · rename_i u hu
      obtain heq | ⟨phase, heq, hm⟩ := work_workers s ha
      · exact ⟨w, heq ▸ hw, hp⟩
      · rw [heq]
        by_cases hij : j = i
        · subst hij
          refine ⟨_, List.getElem?_set_self (List.getElem?_eq_some_iff.1 hw).1, ?_⟩
          cases hm with
          | opens | answers => nofun
          | leaves _ hs => exact hs
        · exact ⟨w, by rw [List.getElem?_set_ne hij]; exact hw, hp⟩
  | none =>
    cases a with
    | setReady ready => exact ⟨w, hw, hp⟩
    | submit command lease failure =>
      obtain heq | ⟨u, heq, -⟩ := submit_workers session command lease failure s
      · exact ⟨w, (congrArg (·[i]?) heq).trans hw, hp⟩
      · exact ⟨w, (congrArg (·[i]?) heq).trans (happend u), hp⟩
    | start | answer | raise | finish | handle | close => cases ha

/-! ## Any step -/

theorem Follows.apply (h : Follows B F s) (hd : Discipline B F) (hi : Inv session s) {a : Act}
    (ha : ∀ i w, a.worker? = some i → s.workers[i]? = some w → Answers B s w a)
    (hf : ∀ command lease failure, a = .submit command lease failure →
      LaunchFails session command failure s → F command) : Follows B F (apply session a s) := by
  cases hw : a.worker? with
  | some i =>
    rw [apply_worker hw]
    split
    · exact h
    · rename_i w hwi
      exact h.work hd hi hwi (ha i w hw hwi)
  | none =>
    cases a with
    | setReady ready => exact h.congr rfl rfl id
    | submit command lease failure => exact h.submit hi (hf command lease failure rfl)
    | start | answer | raise | finish | handle | close => cases hw

end ControlPlane

end ReplicaLending
