import ReplicaLending.Scheduler.HandOff
/-!
# The idle-report loop of a Rollouter

`_idle_report_loop` sends the scheduler what `collect_idle_candidates` observes, at most one call a
tick, and retracts the report when nothing is idle any more. Whether there is something to retract
it decides from `_idle_report_signature`, which an acknowledged report sets. A report that the
scheduler has executed and whose acknowledgement is lost leaves the signature at `None`, and the
next tick without candidates sends nothing.

| here | there (`experimental_fully_async/rollouter.py`) |
| --- | --- |
| `collectIdleCandidates` | `collect_idle_candidates` (:416-442) |
| `reportOf`              | the report of `submit_idle_report` (:444-461) |
| `tick`                  | one round of `_idle_report_loop` (:467-536) |
| `Reply.lost`            | the scheduler executes the call, the awaiting side sees an exception |

`group_scheduler` is set once, and the loop is only started when it is not `None` (:335), so the
branch for a missing handle is left out. All other callers of the scheduler run between the ticks;
none of them reports for this task.
-/

namespace ReplicaLending.GroupScheduler

/-! ## The loop -/

/-- What `collect_idle_candidates` reads; `replicas` is `None` before the Manager is there. -/
structure IdleView where
  paused : Bool
  maxConcurrentSamples : Int
  concurrentSamplesPerReplica : Int
  replicas : Option (List (ReplicaKey × ReplicaKind × ReplicaState))

/-- `collect_idle_candidates` (:416). -/
def collectIdleCandidates (v : IdleView) : List (ReplicaKey × ReplicaKind) :=
  if v.paused = false ∨ v.maxConcurrentSamples ≤ 0 then []
  else match v.replicas with
    | none => []
    | some replicas =>
      if v.concurrentSamplesPerReplica ≤ 0 then []
      else
        let active := (replicas.filter fun r => r.2.2 = .active).map fun r => (r.1, r.2.1)
        let required := (v.maxConcurrentSamples + v.concurrentSamplesPerReplica - 1) /
          v.concurrentSamplesPerReplica
        active.take (active.length - required).toNat

/-- An entry of `_idle_report_signature` (:492). -/
abbrev SignatureEntry := String × String × Nat × ReplicaKind

def signatureOf (candidates : List (ReplicaKey × ReplicaKind)) : List SignatureEntry :=
  candidates.map fun c => (c.1.taskSession, c.1.replicaId, c.1.runtimeEpoch, c.2)

/-- The report that `submit_idle_report` sends for the candidates (:447-461). -/
def reportOf : List (ReplicaKey × ReplicaKind) → Except PyErr (Option IdleReportArg)
  | [] => .ok none
  | c :: cs =>
    if ∀ d ∈ cs, d.1.taskSession = c.1.taskSession then .ok (some ⟨c.1.taskSession, c :: cs⟩)
    else .error (.valueError "one Rollouter may report candidates for only one task_session")

/-- What became of the awaited call. -/
inductive Reply
  | acknowledged
  | lost (e : PyErr)
  | undelivered (e : PyErr)
  | cancelled (executed : Bool)
deriving DecidableEq

inductive Sent | accepted | failed | cancelled
deriving DecidableEq

/-- `await group_scheduler.submit_idle_report.remote(report)`. -/
def send (report : IdleReportArg) (clock : Clock) (reply : Reply) (gs : GroupScheduler) :
    Sent × GroupScheduler :=
  match reply with
  | .acknowledged => match submitIdleReport report clock gs with
    | (.ok _, gs) => (.accepted, gs)
    | (.error _, gs) => (.failed, gs)
  | .lost _ => (.failed, (submitIdleReport report clock gs).2)
  | .undelivered _ => (.failed, gs)
  | .cancelled executed =>
    (.cancelled, if executed then (submitIdleReport report clock gs).2 else gs)

/-- The loop's variables, and the scheduler it reports to. -/
structure IdleSystem where
  observedRunning : Bool
  signature : Option (List SignatureEntry)
  lastSent : Option Nat
  stopped : Bool
  scheduler : GroupScheduler

/-- What one tick observes: the task's flags and replicas, both clocks, and the call it may make. -/
structure Tick where
  running : Bool
  view : IdleView
  now : Nat
  clock : Clock
  reply : Reply

inductive TickEnd | completed | failed | returned | cancelled
deriving DecidableEq

def forget (s : IdleSystem) : IdleSystem := { s with signature := none, lastSent := none }

/-- The empty tick (:496-515). -/
def retract (session : String) (t : Tick) (s : IdleSystem) : TickEnd × IdleSystem :=
  if s.signature.isSome then
    match send ⟨session, []⟩ t.clock t.reply s.scheduler with
    | (.accepted, gs) => (.completed, forget { s with scheduler := gs })
    | (.failed, gs) => (.failed, { s with scheduler := gs })
    | (.cancelled, gs) => (.cancelled, { s with stopped := true, scheduler := gs })
  else (.completed, forget s)

/-- `last_sent is not None and now - last_sent < 5.0`. -/
def recent (now : Nat) : Option Nat → Bool
  | none => false
  | some last => now < last + 5

/-- The tick with candidates (:516-536). -/
def announce (t : Tick) (candidates : List (ReplicaKey × ReplicaKind)) (s : IdleSystem) :
    TickEnd × IdleSystem :=
  if s.signature = some (signatureOf candidates) ∧ recent t.now s.lastSent = true then (.completed, s)
  else match reportOf candidates with
    | .error _ => (.failed, s)
    | .ok none =>
      (.completed, { s with signature := some (signatureOf candidates), lastSent := some t.now })
    | .ok (some report) => match send report t.clock t.reply s.scheduler with
      | (.accepted, gs) => (.completed, { s with
          signature := some (signatureOf candidates), lastSent := some t.now, scheduler := gs })
      | (.failed, gs) => (.failed, { s with scheduler := gs })
      | (.cancelled, gs) => (.cancelled, { s with stopped := true, scheduler := gs })

/-- One round of `_idle_report_loop` after its sleep. -/
def tick (session : String) (t : Tick) (s : IdleSystem) : TickEnd × IdleSystem :=
  if t.running then
    let s := { s with observedRunning := true }
    let candidates := collectIdleCandidates t.view
    if signatureOf candidates = [] then retract session t s else announce t candidates s
  else if s.observedRunning then (.returned, { forget s with stopped := true })
  else (.completed, forget s)

/-- A tick of the loop, or a call some other client makes on the scheduler. -/
inductive IdleStep
  | tick (t : Tick)
  | other (c : Call)

/-- The loop of the task `session`, from its start (:263-264) on a scheduler that it shares. -/
def idleLoop (session : String) : Machine IdleSystem IdleStep where
  init s := s = ⟨false, none, none, false, init⟩
  step s l s' := match l with
    | .tick t => s.stopped = false ∧ s' = (tick session t s).2
    | .other c => (∀ report now, c = .submitIdleReport report now → report.taskSession ≠ session) ∧
        s' = { s with scheduler := apply c s.scheduler }

/-! ## What the scheduler holds -/

/-- The scheduler holds no non-empty idle report of the task. -/
def NoIdleReport (gs : GroupScheduler) (session : String) : Prop :=
  ∀ report, gs.idleReports.get? session = some report → report.candidates = []

variable {gs : GroupScheduler} {session : String} {s : IdleSystem}

theorem idleReports_stage (command : OperationCommand) (lease : Lease) :
    (gs.stage command lease).idleReports = gs.idleReports := by
  unfold stage; split <;> rfl

theorem idleReports_progress (command : OperationCommand) (lease : Lease)
    (evidence : OperationEvidence) : (gs.progress command lease evidence).idleReports =
      gs.idleReports := by
  unfold progress
  split
  · split <;> rfl
  all_goals rfl

/-- Other clients do not report for the task; `detach_task` drops its report. -/
theorem NoIdleReport.apply (h : gs.NoIdleReport session) {c : Call}
    (hc : ∀ report now, c = .submitIdleReport report now → report.taskSession ≠ session) :
    (GroupScheduler.apply c gs).NoIdleReport session := by
  cases c with
  | attachTask t r =>
    simp only [GroupScheduler.apply, attachTask]
    repeat' split
    all_goals exact h
  | detachTask t =>
    simp only [GroupScheduler.apply, detachTask]
    split
    · exact h
    · intro report hr
      simp only [Dict.get?_erase] at hr
      split at hr
      · cases hr
      · exact h report hr
  | submitIdleReport report now =>
    simp only [GroupScheduler.apply, submitIdleReport]
    split
    · exact h
    · intro r hr
      exact h r ((Dict.get?_insert_ne _ _ (hc report now rfl)).symm.trans hr)
  | openLease l =>
    simp only [GroupScheduler.apply, openLease]
    repeat' split
    all_goals exact h
  | submitOperation command now reply =>
    simp only [GroupScheduler.apply, submitOperation]
    split
    · exact h
    · rename_i lease _
      show NoIdleReport (if _ then gs else gs.stage command lease) session
      split
      · exact h
      · rw [NoIdleReport, idleReports_stage]; exact h
  | advanceLease L evidence =>
    rw [apply_advanceLease]
    split
    · exact h
    · rw [NoIdleReport, idleReports_progress]; exact h

theorem submitIdleReport_cases (report : IdleReportArg) (clock : Clock) (gs : GroupScheduler) :
    (∃ e, gs.idleReportCheck report = .error e ∧ submitIdleReport report clock gs = (.error e, gs)) ∨
    gs.idleReportCheck report = .ok () ∧ submitIdleReport report clock gs =
      (.ok report.candidates.length, { gs with
        idleReports := gs.idleReports.insert report.taskSession
          ⟨clock.monotonic, report.candidates⟩ }) := by
  unfold submitIdleReport
  cases h : gs.idleReportCheck report with
  | error e => exact .inl ⟨e, rfl, rfl⟩
  | ok u => exact .inr ⟨rfl, rfl⟩

/-- With no non-empty report of the task, no DONATE of its replicas rests on one. -/
theorem NoIdleReport.donate (h : gs.NoIdleReport session) {target : ReplicaKey} {now : Clock}
    (ht : target.taskSession = session) (hd : gs.donateReported target now = .ok ()) :
    gs.idleReports.get? session = none := by
  unfold donateReported at hd
  rw [ht] at hd
  cases hr : gs.idleReports.get? session with
  | none => rfl
  | some report =>
    rw [hr] at hd
    simp only [check_bind_ok, check_ok, h report hr] at hd
    exact absurd hd.2 (List.not_mem_nil)

/-! ## The invariant -/

/-- Without a signature there is nothing to retract. -/
def Believes (session : String) (s : IdleSystem) : Prop :=
  s.stopped = true ∨ (s.signature = none → s.scheduler.NoIdleReport session)

/-- The tick sends a report that the scheduler executes, its acknowledgement is lost, and the loop
has no acknowledged report behind it. -/
def LosesReport (session : String) (s : IdleSystem) (t : Tick) : Prop :=
  t.running = true ∧ s.signature = none ∧ (∃ e, t.reply = .lost e) ∧
    ∃ report, reportOf (collectIdleCandidates t.view) = .ok (some report) ∧
      report.taskSession = session ∧ s.scheduler.idleReportCheck report = .ok ()

/-- The run condition: no tick loses its first report. -/
def Keeps (session : String) (s : IdleSystem) : IdleStep → Prop
  | .tick t => ¬ LosesReport session s t
  | .other _ => True

theorem signatureOf_eq_nil {cs : List (ReplicaKey × ReplicaKind)} : signatureOf cs = [] ↔ cs = [] := by
  simp [signatureOf]

theorem reportOf_ok {cs : List (ReplicaKey × ReplicaKind)} {report : IdleReportArg}
    (h : reportOf cs = .ok (some report)) : report.candidates = cs ∧ cs ≠ [] := by
  unfold reportOf at h
  split at h
  · cases h
  · split at h
    · cases h; exact ⟨rfl, by simp⟩
    · cases h

/-- An accepted retraction leaves no report; before the first report there is none. -/
theorem retract_completed (hb : s.signature = none → s.scheduler.NoIdleReport session) {t : Tick}
    (hc : (retract session t s).1 = .completed) :
    (retract session t s).2.scheduler.NoIdleReport session := by
  unfold retract at hc ⊢
  cases hs : s.signature with
  | none => exact hb hs
  | some sig =>
    simp only [hs, Option.isSome_some, if_true] at hc ⊢
    cases hr : t.reply with
    | acknowledged =>
      rcases submitIdleReport_cases ⟨session, []⟩ t.clock s.scheduler with ⟨e, -, he⟩ | ⟨-, he⟩
      · simp only [send, hr, he] at hc
        cases hc
      · simp only [send, he, forget]
        intro report hrep
        rw [Dict.get?_insert_self] at hrep
        cases hrep
        rfl
    | lost e => simp only [send, hr] at hc; cases hc
    | undelivered e => simp only [send, hr] at hc; cases hc
    | cancelled executed => simp only [send, hr] at hc; cases hc

theorem retract_believes (hb : s.signature = none → s.scheduler.NoIdleReport session) (t : Tick) :
    Believes session (retract session t s).2 := by
  unfold retract
  cases hs : s.signature with
  | none => exact .inr fun _ => hb hs
  | some sig =>
    simp only [Option.isSome_some, if_true]
    cases hr : t.reply with
    | acknowledged =>
      rcases submitIdleReport_cases ⟨session, []⟩ t.clock s.scheduler with ⟨e, -, he⟩ | ⟨-, he⟩
      · simp only [send, he]
        exact .inr nofun
      · simp only [send, he, forget]
        refine .inr fun _ report hrep => ?_
        rw [Dict.get?_insert_self] at hrep
        cases hrep
        rfl
    | lost e => exact .inr nofun
    | undelivered e => exact .inr nofun
    | cancelled executed => exact .inl rfl

/-- A report of the task executed by the scheduler is what `NoIdleReport` excludes. -/
theorem noIdleReport_submit (hg : gs.NoIdleReport session) {report : IdleReportArg} (clock : Clock)
    (hne : report.candidates ≠ []) : (submitIdleReport report clock gs).2.NoIdleReport session ↔
      ¬ (report.taskSession = session ∧ gs.idleReportCheck report = .ok ()) := by
  rcases submitIdleReport_cases report clock gs with ⟨e, hc, he⟩ | ⟨hc, he⟩
  · rw [he, hc]
    exact iff_of_true hg (by simp)
  · rw [he, hc]
    refine ⟨fun h hs => hne ?_, fun hs r hr => hg r ?_⟩
    · exact h ⟨clock.monotonic, report.candidates⟩ (hs.1 ▸ Dict.get?_insert_self ..)
    · exact (Dict.get?_insert_ne _ _ fun e => hs ⟨e, rfl⟩).symm.trans hr

/-- A loop with a signature keeps one. -/
theorem announce_signature {sig : List SignatureEntry} (hs : s.signature = some sig) {t : Tick}
    {cs : List (ReplicaKey × ReplicaKind)} : (announce t cs s).2.signature ≠ none := by
  unfold announce
  split
  · rw [hs]; nofun
  split
  · rw [hs]; nofun
  · nofun
  split
  · nofun
  · rw [hs]; nofun
  · rw [hs]; nofun

theorem announce_believes (hstop : s.stopped = false)
    (hb : s.signature = none → s.scheduler.NoIdleReport session) {t : Tick}
    (hrun : t.running = true) (hne : collectIdleCandidates t.view ≠ []) :
    Believes session (announce t (collectIdleCandidates t.view) s).2 ↔ ¬ LosesReport session s t := by
  cases hs : s.signature with
  | some sig =>
    -- the loop will retract, whatever becomes of this report
    refine iff_of_true (.inr fun hn => ?_) fun hl => by cases hs.symm.trans hl.2.1
    exact absurd hn (announce_signature hs)
  | none =>
    have hg := hb hs
    unfold announce
    rw [if_neg (by simp [hs])]
    cases hrep : reportOf (collectIdleCandidates t.view) with
    | error e =>
      refine iff_of_true (.inr fun _ => hg) fun hl => ?_
      obtain ⟨-, -, -, report, hl, -⟩ := hl
      rw [hrep] at hl
      cases hl
    | ok o =>
      cases o with
      | none =>
        refine iff_of_true (.inr nofun) fun hl => ?_
        obtain ⟨-, -, -, report, hl, -⟩ := hl
        rw [hrep] at hl
        cases hl
      | some report =>
        obtain ⟨hcand, -⟩ := reportOf_ok hrep
        have hno : ¬ (∃ e, t.reply = .lost e) → ¬ LosesReport session s t := fun h hl => h hl.2.2.1
        cases hr : t.reply with
        | acknowledged =>
          refine iff_of_true ?_ (hno (by simp [hr]))
          rcases submitIdleReport_cases report t.clock s.scheduler with ⟨e, -, he⟩ | ⟨-, he⟩
          · simp only [send, he]
            exact .inr fun _ => hg
          · simp only [send, he]
            exact .inr nofun
        | lost e =>
          simp only [send]
          have hiff := noIdleReport_submit hg t.clock (hcand.symm ▸ hne)
          refine ⟨fun h hl => ?_, fun hl => .inr fun _ => hiff.2 fun hx => hl ?_⟩
          · obtain ⟨-, -, -, report', hl, hses, hchk⟩ := hl
            rw [hrep] at hl
            cases hl
            rcases h with h | h
            · exact absurd (hstop.symm.trans h) nofun
            · exact hiff.1 (h hs) ⟨hses, hchk⟩
          · exact ⟨hrun, hs, ⟨e, hr⟩, report, hrep, hx⟩
        | undelivered e => exact iff_of_true (.inr fun _ => hg) (hno (by simp [hr]))
        | cancelled executed => exact iff_of_true (.inl rfl) (hno (by simp [hr]))

/-- A loop that has not run yet has no signature. -/
def Fresh (s : IdleSystem) : Prop := s.observedRunning = false → s.signature = none

theorem tick_believes (hstop : s.stopped = false) (hf : Fresh s)
    (hb : s.signature = none → s.scheduler.NoIdleReport session) (t : Tick) :
    Believes session (tick session t s).2 ↔ ¬ LosesReport session s t := by
  unfold tick
  cases hrun : t.running with
  | true =>
    simp only [if_true]
    by_cases hc : collectIdleCandidates t.view = []
    · rw [if_pos (signatureOf_eq_nil.2 hc)]
      refine iff_of_true (retract_believes (s := { s with observedRunning := true }) hb t)
        fun hl => ?_
      obtain ⟨-, -, -, report, hl, -⟩ := hl
      exact (reportOf_ok hl).2 hc
    · rw [if_neg fun h => hc (signatureOf_eq_nil.1 h)]
      exact announce_believes (s := { s with observedRunning := true }) hstop hb hrun hc
  | false =>
    have hno : ¬ LosesReport session s t := fun hl => by cases hrun.symm.trans hl.1
    simp only [Bool.false_eq_true, if_false]
    split
    · exact iff_of_true (.inl rfl) hno
    · rename_i ho
      exact iff_of_true (.inr fun _ => hb (hf (Bool.not_eq_true _ ▸ ho))) hno

theorem tick_fresh (t : Tick) : Fresh (tick session t s).2 := by
  unfold tick
  split
  · -- a tick that runs has observed it
    intro h
    have hr : ∀ u : IdleSystem, u.observedRunning = true →
        (retract session t u).2.observedRunning = true := by
      intro u hu
      unfold retract
      repeat' split
      all_goals exact hu
    have ha : ∀ (u : IdleSystem) cs, u.observedRunning = true →
        (announce t cs u).2.observedRunning = true := by
      intro u cs hu
      unfold announce
      repeat' split
      all_goals exact hu
    dsimp only at h
    split at h
    · rw [hr _ rfl] at h; cases h
    · rw [ha _ _ rfl] at h; cases h
  · split <;> exact fun _ => rfl

theorem idleLoop_invariant
    (h : (idleLoop session).ReachableWhere (fun s l _ => Keeps session s l) s) :
    Believes session s ∧ Fresh s := by
  refine h.invariant (I := fun s => Believes session s ∧ Fresh s) ?_ fun s l s' hI hs hk => ?_
  · rintro s rfl
    exact ⟨.inr fun _ => nofun, fun _ => rfl⟩
  · cases l with
    | tick t =>
      obtain ⟨hstop, rfl⟩ := hs
      have hb := hI.1.resolve_left (by rw [hstop]; nofun)
      exact ⟨(tick_believes hstop hI.2 hb t).2 hk, tick_fresh t⟩
    | other c =>
      obtain ⟨hc, rfl⟩ := hs
      exact ⟨hI.1.imp_right fun hb hn => (hb hn).apply hc, hI.2⟩

/-- As long as no tick loses its first report (the scheduler executes it and the loop, with no
acknowledged report behind it, sees an exception), every tick of the running task that observes no
candidate and completes leaves no non-empty report behind, so that no DONATE of the task's replicas
rests on one. A tick breaks the loop's belief about the scheduler exactly when it loses its first
report. -/
theorem idle_retraction {session : String} {s : IdleSystem}
    (h : (idleLoop session).ReachableWhere (fun s l _ => Keeps session s l) s) :
    (∀ t, s.stopped = false → t.running = true → collectIdleCandidates t.view = [] →
      (tick session t s).1 = .completed →
      (tick session t s).2.scheduler.NoIdleReport session ∧
      ∀ target now, target.taskSession = session →
        (tick session t s).2.scheduler.donateReported target now = .ok () →
        (tick session t s).2.scheduler.idleReports.get? session = none) ∧
    ∀ t, s.stopped = false → (Believes session (tick session t s).2 ↔ ¬ LosesReport session s t) := by
  obtain ⟨hb, hf⟩ := idleLoop_invariant h
  refine ⟨fun t hstop hrun hc hend => ?_, fun t hstop => ?_⟩
  · have hb := hb.resolve_left (by rw [hstop]; nofun)
    have hno : (tick session t s).2.scheduler.NoIdleReport session := by
      simp only [tick, hrun, if_true, if_pos (signatureOf_eq_nil.2 hc)] at hend ⊢
      exact retract_completed (s := { s with observedRunning := true }) hb hend
    exact ⟨hno, fun target now ht hd => hno.donate ht hd⟩
  · exact tick_believes hstop hf (hb.resolve_left (by rw [hstop]; nofun)) t

/-! ## A lost acknowledgement -/

/-- A replica that the task `donor` has borrowed. -/
def donorBorrowedKey : ReplicaKey := ⟨"donor", "b-0", 0, ne_empty holds, ne_empty holds⟩

/-- One idle native replica of the task `donor`, more than its committed capacity needs … -/
def idleView : IdleView := ⟨true, 1, 1, some
  [(donorKey, .native, .active), (donorBorrowedKey, .borrowed, .active)]⟩

/-- … and the view after native production has resumed. -/
def busyView : IdleView := { idleView with paused := false }

def idleTick (reply : Reply) : Tick := ⟨true, idleView, 1, ⟨1, 1⟩, reply⟩

def busyTick : Tick := ⟨true, busyView, 2, ⟨2, 2⟩, .acknowledged⟩

/-- The loop of `donor` after its task has attached and one tick has reported. -/
def reported (reply : Reply) : IdleSystem :=
  (tick "donor" (idleTick reply)
    ⟨false, none, none, false, apply (.attachTask "donor" ⟨1⟩) init⟩).2

theorem reachable_reported {P : IdleSystem → IdleStep → IdleSystem → Prop} {reply : Reply}
    (ha : P ⟨false, none, none, false, init⟩ (.other (.attachTask "donor" ⟨1⟩))
      ⟨false, none, none, false, apply (.attachTask "donor" ⟨1⟩) init⟩)
    (ht : P ⟨false, none, none, false, apply (.attachTask "donor" ⟨1⟩) init⟩ (.tick (idleTick reply))
      (reported reply)) : (idleLoop "donor").ReachableWhere P (reported reply) := by
  refine ⟨⟨false, none, none, false, init⟩, rfl, ?_⟩
  refine ((Machine.RunWhere.refl _).tail (l := .other (.attachTask "donor" ⟨1⟩)) ?_ ha).tail
    (l := .tick (idleTick reply)) ⟨rfl, rfl⟩ ht
  exact ⟨nofun, rfl⟩

/-- After an acknowledged report the empty tick retracts. -/
theorem idle_retraction_acknowledged :
    (tick "donor" busyTick (reported .acknowledged)).2.scheduler.NoIdleReport "donor" :=
  ((idle_retraction (reachable_reported trivial (by rintro ⟨-, -, ⟨e, he⟩, -⟩; cases he))).1 busyTick
    (by decide) rfl (by decide) (by decide +kernel)).1

/-- The acknowledgement of the first report is lost, the task resumes: the next tick observes no
candidate, completes without a call, and the scheduler goes on authorising a DONATE by the report. -/
theorem lost_report_stays :
    (idleLoop "donor").Reachable (reported (.lost (.timeoutError "idle report"))) ∧
    collectIdleCandidates busyTick.view = [] ∧
    (tick "donor" busyTick (reported (.lost (.timeoutError "idle report")))).1 = .completed ∧
    ¬ (tick "donor" busyTick
      (reported (.lost (.timeoutError "idle report")))).2.scheduler.NoIdleReport "donor" ∧
    ((tick "donor" busyTick (reported (.lost (.timeoutError "idle report")))).2.scheduler.donateReported
      donorKey ⟨2, 2⟩).isOk = true := by
  refine ⟨reachable_reported trivial trivial, by decide, by decide +kernel, fun h => ?_,
    by decide +kernel⟩
  have hr : ((tick "donor" busyTick (reported (.lost (.timeoutError "idle report")))
    ).2.scheduler.idleReports.get? "donor").map IdleReport.candidates =
      some [(donorKey, .native)] := by decide +kernel
  obtain ⟨report, hg, hc⟩ := Option.map_eq_some_iff.1 hr
  rw [h report hg] at hc
  cases hc

end ReplicaLending.GroupScheduler
