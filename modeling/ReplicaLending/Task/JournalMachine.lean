import ReplicaLending.Library.Machine
import ReplicaLending.Task.Journal
/-!
# The journal under any sequence of calls

Each method as the state it leaves and what it answers, writes in the order of the source: a call
may raise after a write, so that "a call that raises changes nothing" is a theorem about reachable
journals and not a property of the model.

| here | there (`orchestration/operation_journal.py`) |
| --- | --- |
| `beginCall`         | `begin` (:34-59) |
| `markRunningCall`   | `mark_running` (:67-74) |
| `reopenUnknownCall` | `reopen_unknown` (:76-83) |
| `finishCall`        | `finish` (:85-104) |

`Consistent` is the invariant. On consistent journals the calls agree with the functions of
`Task.Journal` (`beginCall_eq`, `finishCall_eq`, …), which the TaskRunner's model runs.
-/

namespace ReplicaLending.OperationJournal

/-- Overwrite the record of an operation. -/
def write (j : OperationJournal) (operationId : String) (r : OperationRecord) : OperationJournal :=
  { j with records := j.records.insert operationId r }

def popActive (j : OperationJournal) (task : String) : OperationJournal :=
  { j with activeByTask := j.activeByTask.erase task }

/-- The writes of `begin` for a new operation (:55-58). -/
def opened (j : OperationJournal) (command : OperationCommand) : OperationJournal where
  commands := j.commands.insert command.operationId command
  records := j.records.insert command.operationId ⟨command.operationId, .accepted, none⟩
  activeByTask := j.activeByTask.insert command.target.taskSession command.operationId

def accepted (command : OperationCommand) : OperationRecord := ⟨command.operationId, .accepted, none⟩

/-- `begin`. -/
def beginCall (command : OperationCommand) (j : OperationJournal) :
    Except PyErr OperationRecord × OperationJournal :=
  match j.records.get? command.operationId with
  | some existing => match j.commands.get? command.operationId with
    | none => (.error (.keyError command.operationId), j)
    | some recorded =>
      if recorded ≠ command then (.error (operationIdentityError
        ("conflicting replay for operation " ++ command.operationId)), j)
      else (.ok existing, j)
  | none => match j.activeByTask.get? command.target.taskSession with
    | none => (.ok (accepted command), j.opened command)
    | some activeId => match j.records.get? activeId with
      | none => (.error (.keyError activeId), j)
      | some active =>
        if ¬ active.status.resolved then (.error (operationIdentityError
          ("another lifecycle operation is active: " ++ activeId)), j)
        else (.ok (accepted command), (j.popActive command.target.taskSession).opened command)

/-- `mark_running`. -/
def markRunningCall (operationId : String) (result : Option String) (j : OperationJournal) :
    Except PyErr OperationRecord × OperationJournal :=
  match j.records.get? operationId with
  | none => (.error (.keyError operationId), j)
  | some record =>
    if record.status.terminal then
      (.error (operationIdentityError "terminal operation cannot return to RUNNING"), j)
    else
      let record := { record with status := .running, result := result.or record.result }
      (.ok record, j.write operationId record)

/-- `reopen_unknown`. -/
def reopenUnknownCall (operationId : String) (j : OperationJournal) :
    Except PyErr OperationRecord × OperationJournal :=
  match j.records.get? operationId with
  | none => (.error (.keyError operationId), j)
  | some record =>
    if record.status ≠ .unknown then
      (.error (operationIdentityError "only UNKNOWN operation may be reconciled"), j)
    else
      let record := { record with status := .running, result := none }
      (.ok record, j.write operationId record)

/-- `finish`; the command is looked up after the record has been written (:99-101). -/
def finishCall (operationId : String) (status : OperationStatus) (result : Option String)
    (j : OperationJournal) : Except PyErr OperationRecord × OperationJournal :=
  if ¬ status.terminal then
    (.error (.valueError "finish requires SUCCEEDED, FAILED, or UNKNOWN"), j)
  else match j.records.get? operationId with
    | none => (.error (.keyError operationId), j)
    | some record =>
      if record.status.terminal then
        if record.status ≠ status ∨ record.result ≠ result then
          (.error (operationIdentityError "conflicting terminal replay"), j)
        else (.ok record, j)
      else
        let record := { record with status, result }
        let j := j.write operationId record
        match j.commands.get? operationId with
        | none => (.error (.keyError operationId), j)
        | some command =>
          if status.resolved ∧ j.activeByTask.get? command.target.taskSession = some operationId then
            (.ok record, j.popActive command.target.taskSession)
          else (.ok record, j)

inductive Call
  | begin (command : OperationCommand)
  | markRunning (operationId : String) (result : Option String)
  | reopenUnknown (operationId : String)
  | finish (operationId : String) (status : OperationStatus) (result : Option String)

/-- What a call answers and the journal it leaves. -/
def call : Call → OperationJournal → Except PyErr OperationRecord × OperationJournal
  | .begin command => beginCall command
  | .markRunning operationId result => markRunningCall operationId result
  | .reopenUnknown operationId => reopenUnknownCall operationId
  | .finish operationId status result => finishCall operationId status result

def apply (c : Call) (j : OperationJournal) : OperationJournal := (call c j).2

/-- One call after another on a new journal, whether they return or raise. -/
def machine : Machine OperationJournal Call := Machine.ofFun (· = init) apply

/-! ## The invariant -/

structure Consistent (j : OperationJournal) : Prop where
  /-- Records and commands have the same keys, … -/
  bound : ∀ {o}, (j.records.get? o).isSome = (j.commands.get? o).isSome
  /-- … an unfinished operation is the active entry of its task, … -/
  active : ∀ {o r c}, j.records.get? o = some r → r.status.resolved = false →
    j.commands.get? o = some c → j.activeByTask.get? c.target.taskSession = some o
  /-- … and an active entry names a recorded operation, which is stored under its own id. -/
  named : ∀ {task o}, j.activeByTask.get? task = some o → ∃ r, j.records.get? o = some r
  keyed : ∀ {o r}, j.records.get? o = some r → r.operationId = o

theorem consistent_init : Consistent init := ⟨rfl, nofun, nofun, nofun⟩

variable {j j' : OperationJournal} {o : String} {r r' : OperationRecord} {c : OperationCommand}

theorem Consistent.command (h : Consistent j) (hr : j.records.get? o = some r) :
    ∃ c, j.commands.get? o = some c := by
  rw [← Option.isSome_iff_exists, ← h.bound, hr]
  rfl

/-- Overwriting a record keeps the invariant when an unfinished operation was unfinished before. -/
theorem Consistent.write (h : Consistent j) (hr : j.records.get? o = some r)
    (hid : r'.operationId = o) (hs : r'.status.resolved = false → r.status.resolved = false) :
    Consistent (j.write o r') where
  bound {p} := by
    show _ = (j.commands.get? p).isSome
    rw [← h.bound]
    by_cases hp : o = p
    · subst hp; simp [OperationJournal.write, hr]
    · simp [OperationJournal.write, Dict.get?_insert_ne _ _ hp]
  active {p q c} hq hn hc := by
    by_cases hp : o = p
    · subst hp
      simp only [OperationJournal.write, Dict.get?_insert_self, Option.some.injEq] at hq
      exact h.active hr (hs (hq ▸ hn)) hc
    · rw [OperationJournal.write, Dict.get?_insert_ne _ _ hp] at hq
      exact h.active hq hn hc
  named {task p} hp := by
    by_cases ho : o = p
    · subst ho; exact ⟨r', Dict.get?_insert_self ..⟩
    · rw [OperationJournal.write, Dict.get?_insert_ne _ _ ho]
      exact h.named hp
  keyed {p q} hq := by
    by_cases hp : o = p
    · subst hp
      simp only [OperationJournal.write, Dict.get?_insert_self, Option.some.injEq] at hq
      exact hq ▸ hid
    · rw [OperationJournal.write, Dict.get?_insert_ne _ _ hp] at hq
      exact h.keyed hq

/-- The active entry of a finished operation may be dropped. -/
theorem Consistent.popActive {task : String} (h : Consistent j)
    (hd : ∀ p q c, j.records.get? p = some q → q.status.resolved = false →
      j.commands.get? p = some c → c.target.taskSession ≠ task) : Consistent (j.popActive task) where
  bound := h.bound
  active {p q c} hq hn hc := by
    rw [OperationJournal.popActive, Dict.get?_erase_ne _ (Ne.symm (hd p q c hq hn hc))]
    exact h.active hq hn hc
  named {t p} hp := by
    by_cases ht : task = t
    · subst ht; simp [OperationJournal.popActive] at hp
    · rw [OperationJournal.popActive, Dict.get?_erase_ne _ ht] at hp
      exact h.named hp
  keyed := h.keyed

/-- A new operation may be opened when its task has no unfinished one. -/
theorem Consistent.opened (h : Consistent j)
    (hd : ∀ p q d, j.records.get? p = some q → q.status.resolved = false →
      j.commands.get? p = some d → d.target.taskSession ≠ c.target.taskSession) :
    Consistent (j.opened c) where
  bound {p} := by
    by_cases hp : c.operationId = p
    · subst hp; simp [OperationJournal.opened]
    · simp [OperationJournal.opened, Dict.get?_insert_ne _ _ hp, h.bound]
  active {p q d} hq hn hd' := by
    by_cases hp : c.operationId = p
    · subst hp
      simp only [OperationJournal.opened, Dict.get?_insert_self, Option.some.injEq] at hd'
      simp [OperationJournal.opened, ← hd']
    · rw [OperationJournal.opened, Dict.get?_insert_ne _ _ hp] at hq
      rw [OperationJournal.opened, Dict.get?_insert_ne _ _ hp] at hd'
      rw [OperationJournal.opened, Dict.get?_insert_ne _ _ (Ne.symm (hd p q d hq hn hd'))]
      exact h.active hq hn hd'
  named {t p} hp := by
    by_cases hc : c.operationId = p
    · subst hc; exact ⟨_, Dict.get?_insert_self ..⟩
    · rw [OperationJournal.opened, Dict.get?_insert_ne _ _ hc]
      by_cases ht : c.target.taskSession = t
      · subst ht
        simp only [OperationJournal.opened, Dict.get?_insert_self, Option.some.injEq] at hp
        exact absurd hp hc
      · rw [OperationJournal.opened, Dict.get?_insert_ne _ _ ht] at hp
        exact h.named hp
  keyed {p q} hq := by
    by_cases hp : c.operationId = p
    · subst hp
      simp only [OperationJournal.opened, Dict.get?_insert_self, Option.some.injEq] at hq
      exact hq ▸ rfl
    · rw [OperationJournal.opened, Dict.get?_insert_ne _ _ hp] at hq
      exact h.keyed hq

/-! ## What a call can do -/

/-- The write of a call that returns, with what was checked before it. -/
inductive Effect (j : OperationJournal) : Call → OperationJournal → Prop
  | unchanged (k : Call) : Effect j k j
  | opened (c : OperationCommand) (j₀ : OperationJournal) (hnew : j.records.get? c.operationId = none)
    (hfree : ∀ p q d, j.records.get? p = some q → q.status.resolved = false →
      j.commands.get? p = some d → d.target.taskSession ≠ c.target.taskSession)
    (hj : j₀ = j ∨ j₀ = j.popActive c.target.taskSession) : Effect j (.begin c) (j₀.opened c)
  | running (o : String) (result : Option String) (r : OperationRecord)
    (hr : j.records.get? o = some r) (hs : r.status.terminal = false) :
    Effect j (.markRunning o result)
      (j.write o { r with status := .running, result := result.or r.result })
  | reopened (o : String) (r : OperationRecord) (hr : j.records.get? o = some r)
    (hs : r.status = .unknown) :
    Effect j (.reopenUnknown o) (j.write o { r with status := .running, result := none })
  | unresolved (o : String) (result : Option String) (r : OperationRecord)
    (hr : j.records.get? o = some r) (hs : r.status.terminal = false) :
    Effect j (.finish o .unknown result) (j.write o { r with status := .unknown, result })
  | resolved (o : String) (status : OperationStatus) (result : Option String) (r : OperationRecord)
    (c : OperationCommand) (hr : j.records.get? o = some r) (hs : r.status.terminal = false)
    (hc : j.commands.get? o = some c) (hf : status.resolved = true) :
    Effect j (.finish o status result)
      ((j.write o { r with status, result }).popActive c.target.taskSession)

/-- A terminal status that is not resolved is UNKNOWN. -/
theorem terminal_cases {status : OperationStatus} (h : status.terminal = true) :
    status.resolved = true ∨ status = .unknown := by
  cases status <;> simp_all [OperationStatus.terminal, OperationStatus.resolved]

theorem terminal_of_resolved {status : OperationStatus} (h : status.resolved = true) :
    status.terminal = true := by
  cases status <;> simp_all [OperationStatus.terminal, OperationStatus.resolved]

theorem resolved_of_not_terminal {status : OperationStatus} (h : status.terminal = false) :
    status.resolved = false := by
  cases status <;> simp_all [OperationStatus.terminal, OperationStatus.resolved]

theorem beginCall_effect (h : Consistent j) (c : OperationCommand) :
    Effect j (.begin c) (beginCall c j).2 ∧
      ∀ e, (beginCall c j).1 = .error e → (beginCall c j).2 = j := by
  -- an unfinished operation of the task would be its active entry
  have hfree : (∀ a, j.activeByTask.get? c.target.taskSession = some a →
      ∃ q, j.records.get? a = some q ∧ q.status.resolved = true) →
      ∀ p q d, j.records.get? p = some q → q.status.resolved = false →
        j.commands.get? p = some d → d.target.taskSession ≠ c.target.taskSession := by
    intro ha p q d hq hn hd e
    obtain ⟨q', hq', hr⟩ := ha p (e ▸ h.active hq hn hd)
    rw [hq] at hq'
    cases hq'
    rw [hn] at hr
    cases hr
  unfold beginCall
  cases hr : j.records.get? c.operationId with
  | some existing =>
    cases hc : j.commands.get? c.operationId with
    | none => exact ⟨.unchanged _, fun _ _ => rfl⟩
    | some recorded =>
      dsimp only
      split <;> exact ⟨.unchanged _, fun _ _ => rfl⟩
  | none =>
    cases ha : j.activeByTask.get? c.target.taskSession with
    | none => exact ⟨.opened c j hr (hfree (by simp [ha])) (.inl rfl), nofun⟩
    | some activeId =>
      cases hq : j.records.get? activeId with
      | none =>
        simp only [hq]
        exact ⟨.unchanged _, fun _ _ => trivial⟩
      | some active =>
        simp only [hq]
        by_cases hs : active.status.resolved = true
        · rw [if_neg (not_not.2 hs)]
          refine ⟨.opened c _ hr (hfree fun a ha' => ?_) (.inr rfl), nofun⟩
          rw [ha] at ha'
          cases ha'
          exact ⟨active, hq, hs⟩
        · rw [if_pos hs]
          exact ⟨.unchanged _, fun _ _ => rfl⟩

theorem markRunningCall_effect (o : String) (result : Option String) (j : OperationJournal) :
    Effect j (.markRunning o result) (markRunningCall o result j).2 ∧
      ∀ e, (markRunningCall o result j).1 = .error e → (markRunningCall o result j).2 = j := by
  unfold markRunningCall
  cases hr : j.records.get? o with
  | none => exact ⟨.unchanged _, fun _ _ => rfl⟩
  | some r =>
    dsimp only
    split
    · exact ⟨.unchanged _, fun _ _ => rfl⟩
    · rename_i hs
      exact ⟨.running o result r hr (by simpa using hs), nofun⟩

theorem reopenUnknownCall_effect (o : String) (j : OperationJournal) :
    Effect j (.reopenUnknown o) (reopenUnknownCall o j).2 ∧
      ∀ e, (reopenUnknownCall o j).1 = .error e → (reopenUnknownCall o j).2 = j := by
  unfold reopenUnknownCall
  cases hr : j.records.get? o with
  | none => exact ⟨.unchanged _, fun _ _ => rfl⟩
  | some r =>
    dsimp only
    split
    · exact ⟨.unchanged _, fun _ _ => rfl⟩
    · rename_i hs
      exact ⟨.reopened o r hr (not_not.1 hs), nofun⟩

theorem finishCall_effect (h : Consistent j) (o : String) (status : OperationStatus)
    (result : Option String) :
    Effect j (.finish o status result) (finishCall o status result j).2 ∧
      ∀ e, (finishCall o status result j).1 = .error e → (finishCall o status result j).2 = j := by
  unfold finishCall
  split
  · exact ⟨.unchanged _, fun _ _ => rfl⟩
  rename_i ht
  rw [not_not] at ht
  cases hr : j.records.get? o with
  | none => exact ⟨.unchanged _, fun _ _ => rfl⟩
  | some r =>
    dsimp only
    split
    · split <;> exact ⟨.unchanged _, fun _ _ => rfl⟩
    rename_i hs
    rw [Bool.not_eq_true] at hs
    obtain ⟨c, hc⟩ := h.command hr
    have hw : (j.write o { r with status, result }).commands.get? o = some c := hc
    have ha : (j.write o { r with status, result }).activeByTask.get? c.target.taskSession = some o :=
      h.active hr (resolved_of_not_terminal hs) hc
    simp only [hw, ha, and_true]
    rcases terminal_cases ht with hf | rfl
    · rw [if_pos hf]
      exact ⟨.resolved o status result r c hr hs hc hf, nofun⟩
    · exact ⟨.unresolved o result r hr hs, nofun⟩

/-- On a consistent journal a call that raises leaves it as it was; what one that returns can write
is an `Effect`. -/
theorem call_effect (h : Consistent j) (k : Call) :
    Effect j k (apply k j) ∧ ∀ e, (call k j).1 = .error e → apply k j = j := by
  cases k with
  | «begin» c => exact beginCall_effect h c
  | markRunning o result => exact markRunningCall_effect o result j
  | reopenUnknown o => exact reopenUnknownCall_effect o j
  | finish o status result => exact finishCall_effect h o status result

theorem Effect.consistent {k : Call} (h : Consistent j) (he : Effect j k j') : Consistent j' := by
  cases he with
  | unchanged => exact h
  | opened c j₀ hnew hfree hj =>
    rcases hj with rfl | rfl
    · exact h.opened hfree
    · exact (h.popActive hfree).opened hfree
  | running o result r hr hs =>
    have hid : r.operationId = o := h.keyed hr
    exact h.write hr hid fun _ => resolved_of_not_terminal hs
  | reopened o r hr hs =>
    have hid : r.operationId = o := h.keyed hr
    exact h.write hr hid fun _ => by rw [hs]; rfl
  | unresolved o result r hr hs =>
    have hid : r.operationId = o := h.keyed hr
    exact h.write hr hid fun _ => resolved_of_not_terminal hs
  | resolved o status result r c hr hs hc hf =>
    have hid : r.operationId = o := h.keyed hr
    have hw : Consistent (j.write o { r with status, result }) :=
      h.write hr hid fun _ => resolved_of_not_terminal hs
    refine hw.popActive fun p q d hq hn hd e => ?_
    -- another unfinished operation of the task would be the same active entry
    have hp := hw.active hq hn hd
    have ho := h.active hr (resolved_of_not_terminal hs) hc
    obtain rfl : o = p := Option.some.inj (ho.symm.trans (e ▸ hp))
    simp only [OperationJournal.write, Dict.get?_insert_self, Option.some.injEq] at hq
    subst hq
    rw [hf] at hn
    cases hn

theorem consistent_reachable (h : machine.Reachable j) : Consistent j := by
  refine h.invariant (fun j hj => ?_) fun j k j' hj hstep _ => ?_
  · cases hj; exact consistent_init
  · cases hstep; exact (call_effect hj k).1.consistent hj

theorem consistent_run (h : Consistent j) (hrun : machine.Run j j') : Consistent j' :=
  hrun.invariant (fun i k i' hi hstep _ => by cases hstep; exact (call_effect hi k).1.consistent hi) h

/-! ## The TaskRunner's journal functions -/

/-- Equal up to the order of the active entries, which nothing reads. -/
structure Same (i j : OperationJournal) : Prop where
  records : i.records = j.records
  commands : i.commands = j.commands
  active : ∀ task, i.activeByTask.get? task = j.activeByTask.get? task

theorem beginCall_eq (h : Consistent j) (c : OperationCommand) :
    match j.begin c with
    | .ok (r, j') => (beginCall c j).1 = .ok r ∧ Same (beginCall c j).2 j'
    | .error e => beginCall c j = (.error e, j) := by
  unfold OperationJournal.begin beginCall
  cases hr : j.records.get? c.operationId with
  | some existing =>
    obtain ⟨d, hd⟩ := h.command hr
    by_cases hdc : d = c <;> simp [hd, hdc, Same.mk]
  | none =>
    cases ha : j.activeByTask.get? c.target.taskSession with
    | none =>
      simp only [ha]
      exact ⟨rfl, rfl, rfl, fun _ => rfl⟩
    | some activeId =>
      obtain ⟨q, hq⟩ := h.named ha
      by_cases hs : q.status.resolved = true
      · simp only [ha, hq, hs, if_true, not_true_eq_false, if_false]
        refine ⟨rfl, rfl, rfl, fun task => ?_⟩
        simp only [opened, popActive, Dict.get?_insert, Dict.get?_erase]
        split <;> rfl
      · simp [ha, hq, hs]

theorem markRunningCall_eq (h : Consistent j) (o : String) :
    markRunningCall o none j = match j.markRunning o with
    | .ok (r, j') => (.ok r, j')
    | .error e => (.error e, j) := by
  unfold markRunning markRunningCall
  cases hr : j.records.get? o with
  | none => rfl
  | some r =>
    obtain rfl := h.keyed hr
    dsimp only
    split <;> rfl

theorem reopenUnknownCall_eq (h : Consistent j) (o : String) :
    reopenUnknownCall o j = match j.reopenUnknown o with
    | .ok (r, j') => (.ok r, j')
    | .error e => (.error e, j) := by
  unfold reopenUnknown reopenUnknownCall
  cases hr : j.records.get? o with
  | none => rfl
  | some r =>
    obtain rfl := h.keyed hr
    dsimp only
    split <;> rfl

theorem finishCall_eq (h : Consistent j) (o : String) (status : OperationStatus)
    (result : Option String) :
    finishCall o status result j = match j.finish o status result with
    | .ok (r, j') => (.ok r, j')
    | .error e => (.error e, j) := by
  unfold finish finishCall
  split
  · rfl
  cases hr : j.records.get? o with
  | none => rfl
  | some r =>
    obtain rfl := h.keyed hr
    obtain ⟨c, hc⟩ := h.command hr
    dsimp only
    split
    · split <;> rfl
    · simp only [hc, write, setRecord]
      by_cases hs : status.resolved = true ∧
          j.activeByTask.get? c.target.taskSession = some r.operationId
      · simp [hs, popActive]
      · simp [hs]

/-! ## What is final -/

theorem Effect.commands {k : Call} (h : Consistent j) (he : Effect j k j')
    (hc : j.commands.get? o = some c) : j'.commands.get? o = some c := by
  cases he with
  | unchanged => exact hc
  | opened d j₀ hnew hfree hj =>
    have hne : d.operationId ≠ o := by
      rintro rfl
      have := h.bound (o := d.operationId)
      rw [hnew, hc] at this
      cases this
    rcases hj with rfl | rfl
    all_goals exact (Dict.get?_insert_ne _ _ hne).trans hc
  | running => exact hc
  | reopened => exact hc
  | unresolved => exact hc
  | resolved => exact hc

/-- The operation a call is about. -/
def Call.operationId : Call → String
  | begin command => command.operationId
  | markRunning o _ | reopenUnknown o | finish o _ _ => o

/-- A call leaves the records of other operations alone. -/
theorem Effect.frame {k : Call} (he : Effect j k j') (ho : k.operationId ≠ o) :
    j'.records.get? o = j.records.get? o := by
  cases he with
  | unchanged => rfl
  | opened c j₀ hnew hfree hj =>
    rcases hj with rfl | rfl
    all_goals exact Dict.get?_insert_ne _ _ ho
  | running => exact Dict.get?_insert_ne _ _ ho
  | reopened => exact Dict.get?_insert_ne _ _ ho
  | unresolved => exact Dict.get?_insert_ne _ _ ho
  | resolved => exact Dict.get?_insert_ne _ _ ho

/-- Only `begin` binds a command. -/
theorem Effect.commands_eq {k : Call} (he : Effect j k j') (hk : ∀ c, k ≠ .begin c) :
    j'.commands = j.commands := by
  cases he with
  | opened c => exact absurd rfl (hk c)
  | unchanged | running | reopened | unresolved | resolved => rfl

/-- A call writes a terminal record only to reopen an UNKNOWN one. -/
theorem Effect.records {k : Call} (he : Effect j k j') (hr : j.records.get? o = some r)
    (ht : r.status.terminal = true) :
    j'.records.get? o = some r ∨ k = .reopenUnknown o ∧ r.status = .unknown := by
  have hne : ∀ {p q}, j.records.get? p = some q → q.status.terminal = false → p ≠ o := by
    rintro p q hq hs rfl
    rw [hr] at hq
    cases hq
    rw [ht] at hs
    cases hs
  cases he with
  | unchanged => exact .inl hr
  | opened d j₀ hnew hfree hj =>
    have hd : d.operationId ≠ o := by
      rintro rfl
      rw [hr] at hnew
      cases hnew
    rcases hj with rfl | rfl
    all_goals exact .inl ((Dict.get?_insert_ne _ _ hd).trans hr)
  | running p result q hq hs => exact .inl ((Dict.get?_insert_ne _ _ (hne hq hs)).trans hr)
  | reopened p q hq hs =>
    by_cases hp : p = o
    · subst hp
      rw [hr] at hq
      cases hq
      exact .inr ⟨rfl, hs⟩
    · exact .inl ((Dict.get?_insert_ne _ _ hp).trans hr)
  | unresolved p result q hq hs => exact .inl ((Dict.get?_insert_ne _ _ (hne hq hs)).trans hr)
  | resolved p status result q d hq hs => exact .inl ((Dict.get?_insert_ne _ _ (hne hq hs)).trans hr)

/-- Commands are bound for ever … -/
theorem commands_run (h : Consistent j) (hrun : machine.Run j j')
    (hc : j.commands.get? o = some c) : j'.commands.get? o = some c := by
  refine (hrun.invariant (I := fun i => Consistent i ∧ i.commands.get? o = some c)
    (fun i k i' hi hstep _ => ?_) ⟨h, hc⟩).2
  cases hstep
  have he := (call_effect hi.1 k).1
  exact ⟨he.consistent hi.1, he.commands hi.1 hi.2⟩

/-- Recorded operations stay recorded. -/
theorem recorded_run (h : machine.Run j j') (hj : Consistent j)
    (hr : (j.records.get? o).isSome = true) :
    (j'.records.get? o).isSome = true := by
  rw [hj.bound] at hr
  obtain ⟨c, hc⟩ := Option.isSome_iff_exists.1 hr
  rw [(consistent_run hj h).bound, commands_run hj h hc]
  rfl

/-- … and resolved records never change. -/
theorem resolved_run (h : Consistent j) (hrun : machine.Run j j')
    (hr : j.records.get? o = some r) (hs : r.status.resolved = true) :
    j'.records.get? o = some r := by
  refine (hrun.invariant (I := fun i => Consistent i ∧ i.records.get? o = some r)
    (fun i k i' hi hstep _ => ?_) ⟨h, hr⟩).2
  cases hstep
  have he := (call_effect hi.1 k).1
  refine ⟨he.consistent hi.1, ?_⟩
  rcases he.records hi.2 (terminal_of_resolved hs) with hk | ⟨-, hu⟩
  · exact hk
  · rw [hu] at hs; cases hs

/-- The journal after any sequence of calls for any tasks, raising ones included: a task has at most
one unfinished operation and its active entry names it; commands are bound for ever; resolved
records are final; only `reopen_unknown` takes a record out of UNKNOWN; and a call that raises
changes nothing, so nothing that is accepted later depends on it. -/
theorem journal_invariant {j : OperationJournal} (h : machine.Reachable j) :
    (∀ o o' r r' c c', j.records.get? o = some r → j.records.get? o' = some r' →
      r.status.resolved = false → r'.status.resolved = false →
      j.commands.get? o = some c → j.commands.get? o' = some c' →
      c.target.taskSession = c'.target.taskSession → o = o') ∧
    (∀ o r, j.records.get? o = some r → r.status.resolved = false →
      ∃ c, j.commands.get? o = some c ∧ j.activeByTask.get? c.target.taskSession = some o) ∧
    (∀ o c j', j.commands.get? o = some c → machine.Run j j' → j'.commands.get? o = some c) ∧
    (∀ o r j', j.records.get? o = some r → r.status = .succeeded ∨ r.status = .failed →
      machine.Run j j' → j'.records.get? o = some r) ∧
    (∀ o r k, j.records.get? o = some r → r.status = .unknown → k ≠ .reopenUnknown o →
      (apply k j).records.get? o = some r) ∧
    ∀ k e, (call k j).1 = .error e → apply k j = j := by
  have hj := consistent_reachable h
  refine ⟨fun o o' r r' c c' hr hr' hn hn' hc hc' ht => ?_, fun o r hr hn => ?_,
    fun o c j' hc hrun => commands_run hj hrun hc, fun o r j' hr hs hrun => ?_,
    fun o r k hr hs hk => ?_, fun k e he => (call_effect hj k).2 e he⟩
  · have ho := hj.active hr hn hc
    rw [ht] at ho
    exact Option.some.inj (ho.symm.trans (hj.active hr' hn' hc'))
  · obtain ⟨c, hc⟩ := hj.command hr
    exact ⟨c, hc, hj.active hr hn hc⟩
  · exact resolved_run hj hrun hr (by rcases hs with hs | hs <;> rw [hs] <;> rfl)
  · rcases (call_effect hj k).1.records hr (by rw [hs]; rfl) with hr' | ⟨he, -⟩
    · exact hr'
    · exact absurd he hk

/-- An ADD of replica `r0` of the task `task-a`. -/
def addCommand (id : String) (hid : id ≠ "" := by exact ne_empty holds) : OperationCommand :=
  ⟨id, .add, ⟨"task-a", "r0", 0, ne_empty holds, ne_empty holds⟩, "l1", none, hid, ne_empty holds,
    by simp⟩

/-- A failed ADD stays failed while the next operation of the task runs. -/
theorem journal_invariant_failed :
    (Machine.exec apply [.begin (addCommand "op-2"), .finish "op-1" .unknown none]
      (Machine.exec apply [.begin (addCommand "op-1"), .finish "op-1" .failed (some "failed")]
        init)).records.get? "op-1" = some ⟨"op-1", .failed, some "failed"⟩ :=
  (journal_invariant ⟨init, rfl, Machine.run_exec _ _ _ _⟩).2.2.2.1 "op-1" _ _
    (by decide +kernel) (.inr rfl) (Machine.run_exec _ _ _ _)

end ReplicaLending.OperationJournal
