import ReplicaLending.Owners.Invariant
import ReplicaLending.Scheduler.HandOff
/-!
# No false FAILED on exit

A FAILED exit has changed nothing and will change nothing, as long as the binding query is not
answered too early or too late: while a `prepare_exit` of the operation is still before its binding,
or after the binding has been there and was removed (`Misleads`). A verdict of FAILED is then only
given on an operation that is `Barred`: never bound, and none of its calls will bind it any more.
-/

namespace ReplicaLending

namespace OwnerSystem

open ControlPlane OperationJournal

variable {d : Deployment} {s t : OwnerSystem} {q : String}

/-- The binding query of an exit finds no binding, and its thread waits for the answer, although the
operation has been bound or a `prepare_exit` of it is under way. -/
def Misleads (s : OwnerSystem) : Label → Prop
  | .work n _ => ∃ c, s.calls[n]? = some c ∧ c.remote = some .getPendingTarget ∧
      (∃ i, i < s.runner.workers.length ∧ s.awaiting i = some n) ∧
      Unbound c.operationId s.owners ∧
      (c.operationId ∈ s.everBound ∨ ∃ b ∈ s.calls, b.operationId = c.operationId ∧
        b.remote = some .prepareExit ∧ b.started = true ∧ b.running = true)
  | _ => False

instance (s : OwnerSystem) : ∀ l, Decidable (Misleads s l)
  | .work n _ => match hn : s.calls[n]? with
    | none => .isFalse fun ⟨_, hc, _⟩ => by rw [hn] at hc; cases hc
    | some c => decidable_of_iff (c.remote = some .getPendingTarget ∧
        (∃ i, i < s.runner.workers.length ∧ s.awaiting i = some n) ∧ Unbound c.operationId s.owners ∧
        (c.operationId ∈ s.everBound ∨ ∃ b ∈ s.calls, b.operationId = c.operationId ∧
          b.remote = some .prepareExit ∧ b.started = true ∧ b.running = true))
      ⟨fun h => ⟨c, hn, h⟩, fun ⟨_, hc, h⟩ => by rw [hn] at hc; cases hc; exact h⟩
  | .thread _ | .send _ | .drop _ | .reply _ | .lose _ | .answer _ _ | .nested _ _ | .clear _
  | .environment _ => .isFalse id

/-- The operation has never been bound, and no call of it will bind it. -/
structure Barred (s : OwnerSystem) (q : String) : Prop where
  never : q ∉ s.everBound
  calls : ∀ c ∈ s.calls, c.operationId = q → Cautious False q c.rest

theorem Barred.congr (h : Barred s q) (hb : t.everBound = s.everBound) (hc : t.calls = s.calls) :
    Barred t q :=
  ⟨hb ▸ h.never, hc ▸ h.calls⟩

/-- An operation the TaskRunner does not know of. -/
theorem Base.barred_of_unknown (h : Base d s) (hq : s.runner.journal.records.get? q = none) :
    Barred s q := by
  have hno : ¬ (q ∈ s.everBound ∨ q ∈ s.changed ∨ ∃ c ∈ s.calls, c.operationId = q) := fun hk => by
    have hr := h.known hk
    rw [hq] at hr
    cases hr
  exact ⟨fun hb => hno (.inl hb), fun c hc ho => absurd ⟨c, hc, ho⟩ fun h => hno (.inr (.inr h))⟩

theorem Barred.drop (h : Barred s q) {n : Nat} {c : OwnerCall} :
    Barred { s with calls := s.calls.set n { c with started := true, rest := .err lostReply } } q := by
  refine ⟨h.never, fun b hb ho => ?_⟩
  obtain hb | rfl := List.mem_or_eq_of_mem_set hb
  · exact h.calls b hb ho
  · exact .err

theorem Barred.add (h : Barred s q) {c : OwnerCall} (awaiting : Nat → Option Nat)
    (hc : c.operationId = q → Cautious False q c.rest) :
    Barred { s with calls := s.calls ++ [c], awaiting } q := by
  refine ⟨h.never, fun b hb ho => ?_⟩
  obtain hb | hb := List.mem_append.1 hb
  · exact h.calls b hb ho
  · obtain rfl := List.mem_singleton.1 hb
    exact hc ho

theorem Barred.work (h : Barred s q) (hbase : Base d s) {n : Nat} {c : OwnerCall} {tag : Event}
    {ready : TaskState → Choice → Bool} {act : TaskState → Choice → TaskState}
    {next : TaskState → Choice → TaskProg (Option OperationEvidence)} {o : Choice}
    (hn : s.calls[n]? = some c) (hc : c.rest = .step tag ready act next) :
    Barred (s.stepped n c (next s.owners o) o (act s.owners o)) q := by
  by_cases hcq : c.operationId = q
  · subst hcq
    have hcall := h.calls c (List.mem_of_getElem? hn) rfl
    rw [hc] at hcall
    obtain ⟨⟨hu, -⟩, hnext⟩ := hcall s.owners o (not_not.1 fun hb => h.never (hbase.bound hb))
    have hu : Unbound c.operationId (act s.owners o) := hu.resolve_left not_false
    refine ⟨?_, fun b hb ho => ?_⟩
    · show c.operationId ∉ if _ then _ else _
      rw [if_neg (by rw [show (act s.owners o).rollouter.pendingOperationTargets.get? _ = none from hu]
                     exact Bool.false_ne_true)]
      exact h.never
    · obtain hb | rfl := List.mem_or_eq_of_mem_set hb
      · exact h.calls b hb ho
      · exact hnext hu
  · refine ⟨fun hq => ?_, fun b hb ho => ?_⟩
    · obtain rfl | hq := mem_of_stepped_everBound hq
      · exact hcq rfl
      · exact h.never hq
    · obtain hb | rfl := List.mem_or_eq_of_mem_set hb
      · exact h.calls b hb ho
      · exact absurd ho hcq

/-- A barred operation stays barred when its thread sends no call. -/
theorem barred_step (h : Base d s) (hb : Barred s q) {l : Label} (hs : s.step d l = some t)
    (hquiet : ∀ {i w c next}, s.runner.workers[i]? = some w → w.phase = .running (.call c next) →
      s.awaiting i = none → w.operationId ≠ q) : Barred t q := by
  cases step_cases hs with
  | thread | reply | lose | answer | clear | environment => exact hb.congr rfl rfl
  | send hidle hw hp hc =>
    refine hb.add _ fun ho => absurd ?_ (hquiet hw hp hidle)
    exact (h.follows.keyed hc).symm.trans ho
  | drop => exact hb.drop
  | work o hn hc => exact hb.work h hn hc
  | nested call hn => exact hb.add s.awaiting fun ho => ho ▸ Cautious.nested

/-! ## Verdicts -/

/-- The binding query a thread waits for has been denied. -/
def Denied (s : OwnerSystem) (i : Nat) (w : Worker) : Prop :=
  ∃ n next c e, s.awaiting i = some n ∧ w.phase = .running (.call .getPendingTarget next) ∧
    s.calls[n]? = some c ∧ c.rest = .err e ∧ e.kind = .keyError

/-- Every verdict of FAILED, given or about to be given, is on a barred operation. -/
structure Judged (s : OwnerSystem) : Prop where
  follows : s.runner.Follows (ExitBody fun c => Barred s c.operationId) fun c =>
    c.Exits → Barred s c.operationId
  denied : ∀ {i w}, s.runner.workers[i]? = some w → s.Exits w.operationId → s.Denied i w →
    Barred s w.operationId

theorem judged_initial (d : Deployment) (replicas : List Replica) (version : Nat) :
    Judged (initial d replicas version) :=
  ⟨follows_init, fun hw => by cases hw⟩

/-- The TaskRunner is as before, and only the call a thread has come to was sent. -/
theorem Judged.ownersStep (h : Base d s) (hj : Judged s) (hrun : t.runner = s.runner)
    (hbar : ∀ q, Barred s q → (∀ {i w c next}, s.runner.workers[i]? = some w →
      w.phase = .running (.call c next) → s.awaiting i = none → w.operationId ≠ q) → Barred t q)
    (hdenied : ∀ {i w}, s.runner.workers[i]? = some w → s.Exits w.operationId → t.Denied i w →
      s.Denied i w ∨ Barred t w.operationId) : Judged t := by
  have hkeyed : ∀ {o c}, s.runner.journal.commands.get? o = some c → c.operationId = o :=
    hj.follows.keyed
  refine ⟨?_, fun {i w} hw hx hd => ?_⟩
  · rw [hrun]
    refine ⟨hkeyed, hj.follows.snapshots, fun {i w rest c} hw hp hc hx => ?_,
      fun {o r c} hr hs hc hx => ?_⟩
    · obtain hb | ⟨hf, hb⟩ := hj.follows.bodies hw hp hc hx
      · exact .inl hb
      · refine .inr ⟨hf, hbar _ hb fun hv hp' _ ho => ?_⟩
        obtain rfl := h.alone hw hp hv hp' (ho.trans (hkeyed hc))
        cases hv.symm.trans hw
        cases hp'.symm.trans hp
        exact hf
    · refine hbar _ (hj.follows.failed hr hs hc hx) fun hv hp' _ ho => ?_
      obtain ⟨r', hr', hfits⟩ := h.runner.recorded hv
      rw [ho, hkeyed hc, hr] at hr'
      cases hr'
      rw [hp'] at hfits
      cases hs.symm.trans hfits
  · rw [hrun] at hw
    have hx' : s.Exits w.operationId := by unfold Exits at hx ⊢; rwa [hrun] at hx
    obtain hd' | hb := hdenied hw hx' hd
    · obtain ⟨n, next, c, e, hi, hp, -⟩ := id hd'
      refine hbar _ (hj.denied hw hx' hd') fun {j v c' next'} hv hp' hidle ho => ?_
      obtain rfl := h.alone hw hp hv hp' ho
      rw [hidle] at hi
      cases hi
    · exact hb

/-- The TaskRunner moves on. -/
theorem Judged.runnerStep (h : Base d s) (hj : Judged s) (a : Act) {awaiting : Nat → Option Nat}
    (haw : ∀ {i n}, awaiting i = some n → s.awaiting i = some n ∧ ∀ r, a ≠ .answer i r)
    (hdenied : ∀ {i r w c next}, a = .answer i r → s.runner.workers[i]? = some w →
      w.phase = .running (.call c next) → Body.Denies c r → s.Denied i w) :
    Judged { s with runner := ControlPlane.apply d.taskSession a s.runner, awaiting } := by
  have hcongr : ∀ {q}, Barred s q → Barred { s with
      runner := ControlPlane.apply d.taskSession a s.runner, awaiting } q := fun hb => hb.congr rfl rfl
  refine ⟨?_, fun {i v} hv hx ⟨n, next, c, e, hi, hp, hc⟩ => ?_⟩
  · have hfollows := hj.follows.apply (a := a) discipline_exit h.runner
      (fun i w ha hw => answers_exit fun j r c next command hr hp hcommand hx hd => ?_)
      fun command lease failure _ hl _ => h.barred_of_unknown hl.2.2.2.1
    · exact hfollows.mono (fun c b hb hx => (hb hx).imp_right fun hb => ⟨hb.1, hcongr hb.2⟩)
        fun c hc hx => hcongr (hc hx)
    · subst hr
      cases ha
      rw [hj.follows.keyed hcommand]
      exact hj.denied hw ⟨command, hcommand, hx⟩ (hdenied rfl hw hp hd)
  · obtain ⟨hi, ha⟩ := haw hi
    have hw := h.waits hi ha hv hp
    obtain ⟨b, hb, hbo, -⟩ := h.awaited hi hw hp
    have hx := h.exits (h.known (.inr (.inr ⟨b, List.mem_of_getElem? hb, hbo⟩))) hx
    exact hcongr (hj.denied hw hx ⟨n, next, c, e, hi, hp, hc⟩)

/-- The calls to one actor begin in the order they were sent. -/
theorem earlier_started {n m : Nat} {c b : OwnerCall} (hbegin : s.mayBegin n c = true)
    (hc : c.started = false) (hb : s.calls[m]? = some b) (hm : m < n) (ha : b.actor = c.actor) :
    b.started = true := by
  have hall : (s.calls.take n).all fun b => b.started || b.actor ≠ c.actor := by
    unfold mayBegin at hbegin
    rwa [hc, Bool.false_or] at hbegin
  have hmem : b ∈ s.calls.take n := by
    refine List.mem_of_getElem? (i := m) ?_
    rw [List.getElem?_take_of_lt hm, hb]
  have hstarted := List.all_eq_true.1 hall b hmem
  simpa [ha] using hstarted

/-- A query that is not misled is denied on a barred operation only: it is the last call sent for the
operation, so every `prepare_exit` has begun before it, and none is still running. -/
theorem Base.barred_of_denied (h : Base d s) {n : Nat} {c : OwnerCall} {tag : Event}
    {ready : TaskState → Choice → Bool} {act : TaskState → Choice → TaskState}
    {next : TaskState → Choice → TaskProg (Option OperationEvidence)} {o : Choice} {e : PyErr}
    (hn : s.calls[n]? = some c) (hc : c.rest = .step tag ready act next)
    (hbegin : s.mayBegin n c = true) (hm : ¬ Misleads s (.work n o)) {i : Nat} {w : Worker}
    {follow : Reply → Body} (hi : s.awaiting i = some n) (hw : s.runner.workers[i]? = some w)
    (hp : w.phase = .running (.call .getPendingTarget follow)) (hx : s.Exits w.operationId)
    (he : next s.owners o = .err e) :
    Barred (s.stepped n c (next s.owners o) o (act s.owners o)) w.operationId := by
  have hmem := List.mem_of_getElem? hn
  obtain ⟨b, hb, ho, hr, hlast⟩ := h.awaited hi hw hp
  cases hn.symm.trans hb
  obtain ⟨hact, hnext⟩ := h.asks (o := o) hn hc hr
  have hunbound : Unbound c.operationId s.owners := by
    rw [he] at hnext
    unfold Unbound
    cases hget : s.owners.rollouter.pendingOperationTargets.get? c.operationId with
    | none => rfl
    | some key =>
      rw [show Rollouter.getPendingTarget s.owners c.operationId = .ok key by
        unfold Rollouter.getPendingTarget; rw [hget]] at hnext
      cases hnext
  have hquiet : ¬ (c.operationId ∈ s.everBound ∨ ∃ b ∈ s.calls, b.operationId = c.operationId ∧
      b.remote = some .prepareExit ∧ b.started = true ∧ b.running = true) := fun hq =>
    hm ⟨c, hn, hr, ⟨i, (List.getElem?_eq_some_iff.1 hw).1, hi⟩, hunbound, hq⟩
  have hbarred : Barred s w.operationId := by
    refine ⟨fun hq => hquiet (.inl (ho ▸ hq)), fun b hb hbo => ?_⟩
    by_cases hbr : b.remote = some .prepareExit
    · obtain ⟨m, hbm⟩ := List.mem_iff_getElem?.1 hb
      have hne : m ≠ n := by
        rintro rfl
        cases hn.symm.trans hbm
        cases hr.symm.trans hbr
      have hlt : m < n := lt_of_le_of_ne (hlast m b hbm hbo (by rw [hbr]; rfl)) hne
      have hstarted := earlier_started hbegin (h.unasked hn hc hr) hbm hlt
        (by unfold OwnerCall.actor; rw [hbr, hr]; rfl)
      have hdone : b.running = false := by
        rw [← Bool.not_eq_true]
        exact fun hrun => hquiet (.inr ⟨b, hb, hbo.trans ho.symm, hbr, hstarted, hrun⟩)
      unfold OwnerCall.running at hdone
      cases hrest : b.rest with
      | ret v => trivial
      | err e => trivial
      | step => rw [hrest] at hdone; cases hdone
    · have hcautious := h.cautious b hb (hbo ▸ hx) fun hq => hquiet (.inl (ho.trans hbo.symm ▸ hq))
      rw [hbo] at hcautious
      exact Cautious.mono (fun h => hbr h) hcautious
  exact hbarred.work h hn hc

/-- A step that does not mislead. -/
theorem judged_step (h : Base d s) (hj : Judged s) {l : Label} (hs : s.step d l = some t)
    (hm : ¬ Misleads s l) : Judged t := by
  have hbar := fun q hb => barred_step (q := q) h hb hs
  have happend : ∀ {b c : OwnerCall} {i n w r next}, s.awaiting i = some n →
      s.runner.workers[i]? = some w → w.phase = .running (.call r next) →
      (s.calls ++ [b])[n]? = some c → s.calls[n]? = some c := by
    intro b c i n w r next hi hw hp hc
    obtain ⟨b', hb', -⟩ := h.awaited hi hw hp
    rwa [List.getElem?_append_left (List.getElem?_eq_some_iff.1 hb').1] at hc
  cases step_cases hs with
  | thread a ha => exact hj.runnerStep h a (fun hi => ⟨hi, ha _⟩) fun hr => absurd hr (ha _ _)
  | reply hi hn hr =>
    refine hj.runnerStep h _ update_awaiting fun {i' r' w c' next} ha hw hp hd => ?_
    cases ha
    obtain ⟨rfl, e, rfl, he⟩ := hd
    refine ⟨_, next, _, e, hi, hp, hn, ?_, he⟩
    unfold OwnerCall.outcome at hr
    split at hr
    · cases hr
    · cases hr; assumption
    · cases hr
  | lose hi =>
    refine hj.runnerStep h _ update_awaiting fun {i' r' w c' next} ha hw hp hd => ?_
    cases ha
    obtain ⟨-, e, he, hk⟩ := hd
    cases he
    cases hk
  | answer r hidle hw hp =>
    refine hj.runnerStep h _ (fun {j n} hi => ⟨hi, fun r' ha => ?_⟩)
      fun {i' r' w' c' next} ha hw' hp' hd => ?_
    · cases ha
      rw [hidle] at hi
      cases hi
    · cases ha
      cases hw.symm.trans hw'
      cases hp.symm.trans hp'
      cases hd.1
  | @send i w next command c hidle hw hp hc =>
    refine hj.ownersStep h rfl hbar fun {j v} hv hx ⟨n, next', c', e, hi, hp', hc', he⟩ => .inl ?_
    by_cases hji : j = i
    · -- the call has just been sent
      subst hji
      cases hw.symm.trans hv
      cases hp.symm.trans hp'
      have hi' : Function.update s.awaiting j (some s.calls.length) j = some n := hi
      rw [Function.update_self] at hi'
      cases hi'
      have hc'' : (s.calls ++ [_])[s.calls.length]? = some c' := hc'
      rw [List.getElem?_append_right le_rfl, Nat.sub_self] at hc''
      cases hc''
      cases he.1
    · have hi' : Function.update s.awaiting i (some s.calls.length) j = some n := hi
      rw [Function.update_of_ne hji] at hi'
      exact ⟨n, next', c', e, hi', hp', happend hi' hv hp' hc', he⟩
  | nested call hn =>
    refine hj.ownersStep h rfl hbar fun {j v} hv hx ⟨n, next', c', e, hi, hp', hc', he⟩ => .inl ?_
    exact ⟨n, next', c', e, hi, hp', happend hi hv hp' hc', he⟩
  | clear | environment => exact hj.ownersStep h rfl hbar fun _ _ hd => .inl hd
  | drop hn =>
    refine hj.ownersStep h rfl hbar fun {j v} hv hx ⟨n, next', c', e, hi, hp', hc', hr, he⟩ => .inl ?_
    obtain ⟨-, rfl⟩ | ⟨-, hc'⟩ := thread_set hc'
    · cases hr
      cases he
    · exact ⟨n, next', c', e, hi, hp', hc', hr, he⟩
  | work o hn hc hbegin =>
    refine hj.ownersStep h rfl hbar fun {j v} hv hx ⟨n, next', c', e, hi, hp', hc', hr, he⟩ => ?_
    obtain ⟨rfl, rfl⟩ | ⟨-, hc'⟩ := thread_set hc'
    · exact .inr (h.barred_of_denied hn hc hbegin hm hi hv hp' hx hr)
    · exact .inl ⟨n, next', c', e, hi, hp', hc', hr, he⟩

/-! ## FAILED exits -/

theorem base_run (h : Base d s) (hrun : (machine d).Run s t) : Base d t :=
  hrun.invariant (I := Base d) (fun _ _ _ h hs _ => base_step h hs) h

/-- What a step does to the journal. -/
theorem step_journal {l : Label} (hs : s.step d l = some t) :
    OperationJournal.machine.Run s.runner.journal t.runner.journal := by
  cases step_cases hs with
  | thread | reply | lose | answer => exact run_apply _ s.runner
  | send | drop | work | nested | clear | environment => exact .refl _

/-- A FAILED exit that is barred stays so, whatever happens. -/
theorem Barred.run (hb : Barred s q) (h : Base d s) {r : OperationRecord}
    (hr : s.runner.journal.records.get? q = some r) (hs : r.status = .failed)
    (hrun : (machine d).Run s t) : Barred t q := by
  have hinv := hrun.invariant (I := fun s => Base d s ∧ Barred s q ∧
      s.runner.journal.records.get? q = some r)
    (fun u l v ⟨hbase, hb, hr⟩ hstep _ => ?_) ⟨h, hb, hr⟩
  · exact hinv.2.1
  · refine ⟨base_step hbase hstep, barred_step hbase hb hstep fun hw hp _ ho => ?_,
      resolved_run hbase.runner.journal (step_journal hstep) hr (by rw [hs]; rfl)⟩
    obtain ⟨r', hr', hfits⟩ := hbase.runner.recorded hw
    rw [ho, hr] at hr'
    cases hr'
    rw [hp] at hfits
    cases hs.symm.trans hfits

/-- An exit that is marked FAILED has changed nothing, and changes nothing later. -/
def SoundlyFailed (d : Deployment) (s : OwnerSystem) : Prop :=
  ∀ q command r, s.runner.journal.commands.get? q = some command → command.Exits →
    s.runner.journal.records.get? q = some r → r.status = .failed →
    q ∉ s.changed ∧ ∀ t, (machine d).Run s t → q ∉ t.changed

/-- When no query misleads, that is so of every exit. -/
theorem no_false_failed (h : (machine d).ReachableWhere (fun s l _ => ¬ Misleads s l) s) :
    SoundlyFailed d s := by
  intro q command r hc hx hr hs
  obtain ⟨hbase, hj⟩ : Base d s ∧ Judged s := by
    refine h.invariant (I := fun s => Base d s ∧ Judged s) ?_ fun s l t ⟨hbase, hj⟩ hstep hm =>
      ⟨base_step hbase hstep, judged_step hbase hj hstep hm⟩
    rintro _ ⟨replicas, version, -, rfl⟩
    exact ⟨base_initial d replicas version, judged_initial d replicas version⟩
  have hkey : command.operationId = q := hj.follows.keyed hc
  have hbarred : Barred s q := hkey ▸ hj.follows.failed hr hs hc hx
  have hall : ∀ t, (machine d).Run s t → q ∉ t.changed := fun t hrun => by
    have hbase' := base_run hbase hrun
    have hjournal : OperationJournal.machine.Run s.runner.journal t.runner.journal :=
      hrun.invariant (I := fun u => OperationJournal.machine.Run s.runner.journal u.runner.journal)
        (fun _ _ _ hrun hstep _ => hrun.trans (step_journal hstep)) (.refl _)
    exact hbase'.unchanged ⟨command, commands_run hbase.runner.journal hjournal hc, hx⟩
      (hbarred.run hbase hr hs hrun).never
  exact ⟨hall s (.refl _), hall⟩

/-! ## Two runs -/

open GroupScheduler (borrowerKey donorLease command)

/-- The task `borrower`, on one GPU a replica. -/
def deployment : Deployment where
  taskSession := "borrower"
  taskSession_ne := ne_empty holds
  resource := .gpu
  sleepLevel := 2
  enableSleepMode := true
  freeCacheEngine := true
  tensorModelParallelSize := 1
  dataParallelSize := 1
  pipelineModelParallelSize := 1
  naiveBackend := false
  parameterValidationEnabled := false
  partialRollout := true
  drainTimeoutPositive := true
  rayNamespace := "ns"
  placementGroups := fun _ => some ⟨"pg-name", true, Dict.insert ∅ 0 "node", "pg", 1⟩
  bundlePlacement := fun _ => ⟨"node", "pg", "gpu"⟩

/-- It has one native replica. -/
def start : OwnerSystem := initial deployment [⟨0, .native, "a0", ⟨"node", "pg", "g0"⟩⟩] 0

theorem init_start : (machine deployment).init start :=
  ⟨_, _, ⟨by decide, by decide, by decide, by decide⟩, rfl⟩

/-- Every read succeeds. -/
def fine : Choice := ⟨.none, fun _ => .none, 0, "b0", some 0, false⟩

/-- A REMOVE of the borrowed replica. -/
def removal (force : Bool) : OperationCommand :=
  ⟨"m1", .remove, borrowerKey, "L", some force, ne_empty holds, ne_empty holds, by simp⟩

/-- What is left when it is marked FAILED. -/
def RemovalFailed (s : OwnerSystem) (force : Bool) : Prop :=
  s.runner.journal.commands.get? "m1" = some (removal force) ∧
    s.runner.journal.records.get? "m1" =
      some ⟨"m1", .failed, some "exit preflight rejected before owner mutation"⟩

instance (s : OwnerSystem) (force : Bool) : Decidable (RemovalFailed s force) :=
  inferInstanceAs (Decidable (_ ∧ _))

/-- The Manager does not have the replica: the REMOVE is rejected, and its query denied. -/
def rejecting : List Label :=
  [.thread (.setReady true), .thread (.submit (removal false) none none), .thread (.start 0),
   .send 0, .work 0 fine, .reply 0, .send 0, .work 1 fine, .reply 0, .thread (.finish 0)]

/-- A step that does not mislead. -/
def straight (s : OwnerSystem) (l : Label) : Option OwnerSystem :=
  if Misleads s l then none else s.step deployment l

theorem straight_step {l : Label} (h : straight s l = some t) :
    (machine deployment).step s l t ∧ ¬ Misleads s l := by
  unfold straight at h
  split at h
  · cases h
  · exact ⟨h, ‹_›⟩

theorem no_false_failed_rejected : ∃ s, rejecting.foldlM straight start = some s ∧
    RemovalFailed s false ∧ "m1" ∉ s.changed ∧
      ∀ t, (machine deployment).Run s t → "m1" ∉ t.changed := by
  have hend : (rejecting.foldlM straight start).map (fun s => decide (RemovalFailed s false)) =
      some true := by decide +kernel
  obtain ⟨s, hs, hend⟩ := Option.map_eq_some_iff.1 hend
  obtain ⟨hc, hr⟩ := of_decide_eq_true hend
  have hreach : (machine deployment).ReachableWhere (fun s l _ => ¬ Misleads s l) start :=
    ⟨start, init_start, .refl _⟩
  exact ⟨s, hs, ⟨hc, hr⟩, no_false_failed (hreach.steps straight_step hs) "m1" _ _ hc (.inr rfl) hr rfl⟩

/-- `k` steps of the `n`-th call. -/
def works (n k : Nat) : List Label := List.replicate k (.work n fine)

/-- A borrowed replica joins. -/
def joining : List Label :=
  .thread (.setReady true) ::
  .thread (.submit (command "a1" .add borrowerKey) (some (donorLease "L" (ne_empty holds))) none) ::
  .thread (.start 0) :: .send 0 :: works 0 5 ++ .reply 0 :: .send 0 :: works 1 33 ++
  [.reply 0, .thread (.finish 0), .thread (.close 0), .clear "a1"]

/-- It is to be removed by force. `prepare_exit` awaits its first read from the load balancer when
its reply is lost; the query finds no binding. -/
def forcing : List Label := joining ++
  [.thread (.submit (removal true) none none), .thread (.start 1), .send 1, .work 2 fine,
   .work 2 fine, .lose 1, .send 1, .work 3 fine, .reply 1, .thread (.finish 1)]

/-- `prepare_exit` goes on. -/
def going : List Label := works 2 12

/-- The REMOVE is marked FAILED, and drains the replica afterwards. -/
theorem failed_drains : ∃ s t, forcing.foldlM (step deployment) start = some s ∧
    going.foldlM (step deployment) s = some t ∧ (machine deployment).Reachable s ∧
    RemovalFailed s true ∧ s.owners.manager.replicaState.get? borrowerKey = some .active ∧
    t.owners.manager.replicaState.get? borrowerKey = some .draining ∧
    ¬ SoundlyFailed deployment s := by
  have hend : (forcing.foldlM (step deployment) start).map (fun s =>
      decide (RemovalFailed s true ∧
        s.owners.manager.replicaState.get? borrowerKey = some .active)) = some true := by
    decide +kernel
  have hlater : ((forcing ++ going).foldlM (step deployment) start).map (fun t =>
      decide ("m1" ∈ t.changed ∧
        t.owners.manager.replicaState.get? borrowerKey = some .draining)) = some true := by
    decide +kernel
  obtain ⟨s, hs, hend⟩ := Option.map_eq_some_iff.1 hend
  obtain ⟨⟨hc, hr⟩, hactive⟩ := of_decide_eq_true hend
  rw [List.foldlM_append, hs] at hlater
  obtain ⟨t, ht, hlater⟩ := Option.map_eq_some_iff.1 hlater
  obtain ⟨hchanged, hdraining⟩ := of_decide_eq_true hlater
  have hreach : (machine deployment).Reachable start := ⟨start, init_start, .refl _⟩
  exact ⟨s, t, hs, ht, hreach.steps (fun h => ⟨h, trivial⟩) hs, ⟨hc, hr⟩, hactive, hdraining,
    fun h => (h "m1" _ _ hc (.inr rfl) hr rfl).2 t
      (Machine.RunWhere.steps (fun h => ⟨h, trivial⟩) ht) hchanged⟩

end OwnerSystem

end ReplicaLending
