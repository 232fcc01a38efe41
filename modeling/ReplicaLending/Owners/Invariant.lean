import ReplicaLending.Owners.Verdicts
/-!
# What holds of the owner calls in every run

The calls of an operation touch its own binding only, those of a DONATE or REMOVE that has never been
bound have changed nothing so far, and a lifecycle thread waits for the last call sent for its
operation (`Base`). One lemma for each kind of step, and from them `base_step`.
-/

namespace ReplicaLending

namespace OwnerSystem

open ControlPlane OperationJournal

variable {d : Deployment} {s t : OwnerSystem} {q : String}

/-! ## What a step does -/

/-- The steps, with what makes each of them possible. -/
inductive Steps (d : Deployment) (s : OwnerSystem) : Label → OwnerSystem → Prop
  | thread (a : Act) (ha : ∀ i r, a ≠ .answer i r) :
    Steps d s (.thread a) { s with runner := ControlPlane.apply d.taskSession a s.runner }
  | send {i : Nat} {w : Worker} {next : Reply → Body} {command : OperationCommand} {c : Remote}
    (hidle : s.awaiting i = none) (hw : s.runner.workers[i]? = some w)
    (hp : w.phase = .running (.call c next))
    (hc : s.runner.journal.commands.get? w.operationId = some command) :
    Steps d s (.send i) { s with
      calls := s.calls ++ [⟨command.operationId, some c, false, c.program d command⟩]
      awaiting := Function.update s.awaiting i (some s.calls.length) }
  | drop {n : Nat} {c : OwnerCall} (hn : s.calls[n]? = some c) :
    Steps d s (.drop n)
      { s with calls := s.calls.set n { c with started := true, rest := .err lostReply } }
  | work {n : Nat} {c : OwnerCall} {tag : Event} {ready : TaskState → Choice → Bool}
    {act : TaskState → Choice → TaskState}
    {next : TaskState → Choice → TaskProg (Option OperationEvidence)} (o : Choice)
    (hn : s.calls[n]? = some c) (hc : c.rest = .step tag ready act next)
    (hbegin : s.mayBegin n c = true) :
    Steps d s (.work n o) (s.stepped n c (next s.owners o) o (act s.owners o))
  | reply {i n : Nat} {c : OwnerCall} {r : Reply} (hi : s.awaiting i = some n)
    (hn : s.calls[n]? = some c) (hr : c.outcome = some r) :
    Steps d s (.reply i) (s.answered d i r)
  | lose {i n : Nat} (hi : s.awaiting i = some n) :
    Steps d s (.lose i) (s.answered d i (.error lostReply))
  | answer {i : Nat} {w : Worker} {lease : OperationEvidence} {next : Reply → Body} (r : Reply)
    (hidle : s.awaiting i = none) (hw : s.runner.workers[i]? = some w)
    (hp : w.phase = .running (.call (.advanceLease lease) next)) :
    Steps d s (.answer i r)
      { s with runner := ControlPlane.apply d.taskSession (.answer i r) s.runner }
  | nested {n : Nat} {c : OwnerCall} (call : Nested) (hn : s.calls[n]? = some c) :
    Steps d s (.nested n call) { s with
      calls := s.calls ++ [⟨c.operationId, none, true, call.program d c.operationId⟩] }
  | clear (o : String) :
    Steps d s (.clear o) { s with owners := Rollouter.clearOperationBinding s.owners o }
  | environment {e : Environment} {owners : TaskState} (he : s.owners.environment e = some owners) :
    Steps d s (.environment e) { s with owners }

/-- The worker of `nextCall`, and its command. -/
theorem nextCall_some {i : Nat} {command : OperationCommand} {c : Remote}
    (h : s.nextCall i = some (command, c)) : ∃ w next, s.runner.workers[i]? = some w ∧
      w.phase = .running (.call c next) ∧
      s.runner.journal.commands.get? w.operationId = some command := by
  unfold nextCall at h
  split at h
  · cases h
  · rename_i w hw
    split at h
    · rename_i c' next command' hp hc
      cases h
      exact ⟨w, next, hw, hp, hc⟩
    · cases h

theorem step_cases {l : Label} (hs : s.step d l = some t) : Steps d s l t := by
  cases l with
  | thread a =>
    cases a with
    | answer i r => cases hs
    | setReady | submit | start | raise | finish | handle | close => cases hs; exact .thread _ nofun
  | send i =>
    simp only [step, OwnerSystem.send] at hs
    split at hs
    · rename_i command c hidle hnext
      split at hs
      · cases hs
      · cases hs
        obtain ⟨w, next, hw, hp, hc⟩ := nextCall_some hnext
        exact .send hidle hw hp hc
    · cases hs
  | drop n =>
    simp only [step, OwnerSystem.drop] at hs
    split at hs
    · cases hs
    · split at hs
      · cases hs
      · cases hs; exact .drop ‹_›
  | work n o =>
    simp only [step, OwnerSystem.work] at hs
    split at hs
    · cases hs
    · rename_i c hn
      split at hs
      · rename_i hc
        split at hs
        · rename_i hready
          cases hs
          exact .work o hn hc hready.1
        · cases hs
      · cases hs
  | reply i =>
    simp only [step, OwnerSystem.reply] at hs
    split at hs
    · cases hs
    · rename_i n hi
      split at hs
      · cases hs
      · rename_i c hn
        obtain ⟨r, hr, rfl⟩ := Option.map_eq_some_iff.1 hs
        exact .reply hi hn hr
  | lose i =>
    obtain ⟨n, hi, rfl⟩ := Option.map_eq_some_iff.1 hs
    exact .lose hi
  | answer i r =>
    simp only [step, OwnerSystem.answer] at hs
    split at hs
    · rename_i command lease hidle hnext
      cases hs
      obtain ⟨w, next, hw, hp, -⟩ := nextCall_some hnext
      exact .answer r hidle hw hp
    · cases hs
  | nested n call =>
    simp only [step, OwnerSystem.nested] at hs
    split at hs
    · cases hs
    · split at hs
      · cases hs; exact .nested call ‹_›
      · cases hs
  | clear o =>
    simp only [step, OwnerSystem.clear] at hs
    split at hs
    · cases hs; exact .clear o
    · cases hs
  | environment e =>
    obtain ⟨owners, he, rfl⟩ := Option.map_eq_some_iff.1 hs
    exact .environment he

/-! ## The invariant -/

/-- The operation is a DONATE or REMOVE. -/
def Exits (s : OwnerSystem) (q : String) : Prop :=
  ∃ command, s.runner.journal.commands.get? q = some command ∧ command.Exits

/-- What holds in every run. -/
structure Base (d : Deployment) (s : OwnerSystem) : Prop where
  runner : ControlPlane.Inv d.taskSession s.runner
  follows : s.runner.Follows (ExitBody fun _ => True) fun c => c.Exits → True
  known : ∀ {q}, q ∈ s.everBound ∨ q ∈ s.changed ∨ (∃ c ∈ s.calls, c.operationId = q) →
    (s.runner.journal.records.get? q).isSome = true
  bound : ∀ {q}, ¬ Unbound q s.owners → q ∈ s.everBound
  owned : ∀ c ∈ s.calls, Owned c.operationId c.rest
  /-- The calls of an exit that has never been bound are cautious. -/
  cautious : ∀ c ∈ s.calls, s.Exits c.operationId → c.operationId ∉ s.everBound →
    Cautious (c.remote = some .prepareExit) c.operationId c.rest
  waiting : ∀ c ∈ s.calls, ∀ r, c.remote = some r → c.started = false →
    ∃ command, s.runner.journal.commands.get? c.operationId = some command ∧
      c.rest = r.program d command
  asked : ∀ c ∈ s.calls, c.started = true → c.remote = some .getPendingTarget → c.running = false
  unchanged : ∀ {q}, s.Exits q → q ∉ s.everBound → q ∉ s.changed
  sent : ∀ {i n}, s.awaiting i = some n →
    ∃ w, s.runner.workers[i]? = some w ∧ w.phase ≠ .started
  /-- A worker waits for the call it has come to, the last one sent for its operation. -/
  awaited : ∀ {i n w r next}, s.awaiting i = some n → s.runner.workers[i]? = some w →
    w.phase = .running (.call r next) → ∃ c, s.calls[n]? = some c ∧
      c.operationId = w.operationId ∧ c.remote = some r ∧
      ∀ m b, s.calls[m]? = some b → b.operationId = w.operationId → b.remote.isSome = true → m ≤ n

theorem base_initial (d : Deployment) (replicas : List Replica) (version : Nat) :
    Base d (initial d replicas version) where
  runner := ControlPlane.inv_init
  follows := follows_init
  known h := by rcases h with h | h | ⟨c, h, -⟩ <;> cases h
  bound h := absurd rfl h
  owned _ h := by cases h
  cautious _ h := by cases h
  waiting _ h := by cases h
  asked _ h := by cases h
  unchanged _ _ h := by cases h
  sent h := by cases h
  awaited h := by cases h

/-! ## Steps of the TaskRunner -/

/-- A recorded operation keeps its command. -/
theorem Base.exits (h : Base d s) {a : Act} {awaiting : Nat → Option Nat}
    (hr : (s.runner.journal.records.get? q).isSome = true)
    (hx : Exits { s with runner := ControlPlane.apply d.taskSession a s.runner, awaiting } q) :
    s.Exits q := by
  rw [h.runner.journal.bound] at hr
  obtain ⟨c, hcs⟩ := Option.isSome_iff_exists.1 hr
  obtain ⟨command, hc, hx⟩ := hx
  cases (commands_run h.runner.journal (run_apply a s.runner) hcs).symm.trans hc
  exact ⟨c, hcs, hx⟩

/-- A thread that waits moves on by its answer only. -/
theorem Base.waits (h : Base d s) {a : Act} {i n : Nat} {v : Worker} {r : Remote}
    {next : Reply → Body} (hi : s.awaiting i = some n) (ha : ∀ r, a ≠ .answer i r)
    (hv : (ControlPlane.apply d.taskSession a s.runner).workers[i]? = some v)
    (hp : v.phase = .running (.call r next)) : s.runner.workers[i]? = some v := by
  obtain hv' | ⟨w, hw, -, hm⟩ := apply_running hv hp
  · exact hv'
  · generalize hphase : ThreadPhase.running (.call r next) = phase at hm
    cases hm with
    | opens _ hstarted _ =>
      obtain ⟨u, hu, hne⟩ := h.sent hi
      cases hw.symm.trans hu
      exact absurd hstarted hne
    | answers _ _ r' _ hr => exact absurd hr (ha r')
    | leaves _ _ hne => exact absurd hphase.symm (hne _)

theorem Base.runnerStep (h : Base d s) (a : Act) {awaiting : Nat → Option Nat}
    (haw : ∀ {i n}, awaiting i = some n → s.awaiting i = some n ∧ ∀ r, a ≠ .answer i r) :
    Base d { s with runner := ControlPlane.apply d.taskSession a s.runner, awaiting } := by
  have hrun : OperationJournal.machine.Run s.runner.journal
      (ControlPlane.apply d.taskSession a s.runner).journal := run_apply a s.runner
  have hj := h.runner.journal
  refine ⟨h.runner.apply a, ?_, fun hq => recorded_run hrun hj (h.known hq), h.bound, h.owned,
    fun c hc hx => ?_, fun c hc r hr hs => ?_, h.asked, fun hx hq hch => ?_, fun hi => ?_,
    fun {i n w r next} hi hw hp => ?_⟩
  · exact h.follows.apply discipline_exit h.runner
      (fun i w _ _ => answers_exit fun _ _ _ _ _ _ _ _ _ _ => trivial) fun _ _ _ _ _ _ => trivial
  · exact h.cautious c hc (h.exits (h.known (.inr (.inr ⟨c, hc, rfl⟩))) hx)
  · obtain ⟨command, hcommand, hrest⟩ := h.waiting c hc r hr hs
    exact ⟨command, commands_run hj hrun hcommand, hrest⟩
  · exact h.unchanged (h.exits (h.known (.inr (.inl hch))) hx) hq hch
  · obtain ⟨w, hw, hp⟩ := h.sent (haw hi).1
    exact apply_started hw hp
  · obtain ⟨hi, ha⟩ := haw hi
    exact h.awaited hi (h.waits hi ha hw hp) hp

/-! ## Steps of the owners -/

/-- Something that binds nothing happens to the owners. -/
theorem Base.ownersStep (h : Base d s) {owners : TaskState}
    (hu : ∀ q, Unbound q s.owners → Unbound q owners) : Base d { s with owners } :=
  ⟨h.runner, h.follows, h.known, fun hb => h.bound fun hs => hb (hu _ hs), h.owned, h.cautious,
    h.waiting, h.asked, h.unchanged, h.sent, h.awaited⟩

theorem unbound_clear {s : TaskState} (hq : Unbound q s) (o : String) :
    Unbound q (Rollouter.clearOperationBinding s o) := by
  unfold Unbound Rollouter.clearOperationBinding
  rw [Dict.get?_erase]
  split
  · rfl
  · exact hq

theorem unbound_environment {s t : TaskState} {e : Environment} (h : s.environment e = some t)
    (hq : Unbound q s) : Unbound q t := by
  cases e with
  | clearBinding o fault =>
    simp only [TaskState.environment] at h
    split at h
    · cases h
    · cases h
      split
      · exact hq
      · exact unbound_clear hq o
  | acquireServer | releaseServer | confirmContinuation | versionAdvances => cases h; exact hq
  | deliver | schedulerAnswers | nativeSyncEnds =>
    simp only [TaskState.environment] at h
    split at h
    · cases h
    · cases h; exact hq
  | nativeSyncStarts now =>
    simp only [TaskState.environment] at h
    split at h
    · cases h
    · split at h
      · cases h
      · split at h
        · cases h
        · cases h; exact hq
  | nativeSyncFails =>
    simp only [TaskState.environment] at h
    split at h
    · cases h
    · split at h
      · cases h
      · cases h; exact hq
  | threadEnds =>
    simp only [TaskState.environment] at h
    split at h
    · cases h; exact hq
    · cases h

/-- A call is sent: by a lifecycle thread, which waits for it, or by a Trainer method. -/
theorem Base.addCall (h : Base d s) {c : OwnerCall} {awaiting : Nat → Option Nat}
    (hknown : (s.runner.journal.records.get? c.operationId).isSome = true)
    (howned : Owned c.operationId c.rest)
    (hcautious : s.Exits c.operationId →
      Cautious (c.remote = some .prepareExit) c.operationId c.rest)
    (hwaiting : ∀ r, c.remote = some r → c.started = false ∧
      ∃ command, s.runner.journal.commands.get? c.operationId = some command ∧
        c.rest = r.program d command)
    (hsent : ∀ {i n}, awaiting i = some n → s.awaiting i = some n ∨
      n = s.calls.length ∧ ∃ w next, s.runner.workers[i]? = some w ∧
        w.operationId = c.operationId ∧ ∃ r, c.remote = some r ∧ w.phase = .running (.call r next))
    (hfresh : c.remote.isSome = true → ∀ {i n w r next}, s.awaiting i = some n →
      s.runner.workers[i]? = some w → w.phase = .running (.call r next) →
        w.operationId ≠ c.operationId) :
    Base d { s with calls := s.calls ++ [c], awaiting } := by
  have hmem : ∀ {b}, b ∈ s.calls ++ [c] → b ∈ s.calls ∨ b = c := fun hb =>
    (List.mem_append.1 hb).imp_right List.mem_singleton.1
  have hget : ∀ {m b}, (s.calls ++ [c])[m]? = some b →
      s.calls[m]? = some b ∨ m = s.calls.length ∧ b = c := by
    intro m b hb
    by_cases hm : m < s.calls.length
    · exact .inl (by rwa [List.getElem?_append_left hm] at hb)
    · rw [List.getElem?_append_right (not_lt.1 hm), List.getElem?_singleton] at hb
      split at hb
      · exact .inr ⟨by omega, (Option.some.inj hb).symm⟩
      · cases hb
  refine ⟨h.runner, h.follows, fun hq => ?_, h.bound, fun b hb => ?_, fun b hb hx hnb => ?_,
    fun b hb r hr hst => ?_, fun b hb hst hr => ?_, h.unchanged, fun hi => ?_,
    fun {i n w r next} hi hw hp => ?_⟩
  · obtain hq | hq | ⟨b, hb, rfl⟩ := hq
    · exact h.known (.inl hq)
    · exact h.known (.inr (.inl hq))
    · obtain hb | rfl := hmem hb
      · exact h.known (.inr (.inr ⟨b, hb, rfl⟩))
      · exact hknown
  · obtain hb | rfl := hmem hb
    · exact h.owned b hb
    · exact howned
  · obtain hb | rfl := hmem hb
    · exact h.cautious b hb hx hnb
    · exact hcautious hx
  · obtain hb | rfl := hmem hb
    · exact h.waiting b hb r hr hst
    · exact (hwaiting r hr).2
  · obtain hb | rfl := hmem hb
    · exact h.asked b hb hst hr
    · rw [(hwaiting _ hr).1] at hst; cases hst
  · obtain hi | ⟨-, w, next, hw, -, r, -, hp⟩ := hsent hi
    · exact h.sent hi
    · exact ⟨w, hw, by rw [hp]; nofun⟩
  · obtain hold | ⟨rfl, v, next', hv, ho, r', hr', hp'⟩ := hsent hi
    · obtain ⟨b, hb, hbo, hbr, hlast⟩ := h.awaited hold hw hp
      refine ⟨b, by rw [List.getElem?_append_left (List.getElem?_eq_some_iff.1 hb).1]; exact hb, hbo,
        hbr, fun m b' hb' ho' hr' => ?_⟩
      obtain hb' | ⟨-, rfl⟩ := hget hb'
      · exact hlast m b' hb' ho' hr'
      · exact absurd ho'.symm (hfresh hr' hold hw hp)
    · cases hv.symm.trans hw
      cases hp'.symm.trans hp
      refine ⟨c, by simp, ho.symm, hr', fun m b hb _ _ => ?_⟩
      have hlt := (List.getElem?_eq_some_iff.1 hb).1
      rw [List.length_append, List.length_singleton] at hlt
      omega

/-- The call at its place has gone on; every other one is as before. -/
theorem Base.awaited_set (h : Base d s) {n : Nat} {c : OwnerCall} (c' : OwnerCall)
    (hn : s.calls[n]? = some c) (ho : c'.operationId = c.operationId) (hr : c'.remote = c.remote)
    {i k : Nat} {w : Worker} {r : Remote} {next : Reply → Body} (hi : s.awaiting i = some k)
    (hw : s.runner.workers[i]? = some w) (hp : w.phase = .running (.call r next)) :
    ∃ b, (s.calls.set n c')[k]? = some b ∧ b.operationId = w.operationId ∧ b.remote = some r ∧
      ∀ m b, (s.calls.set n c')[m]? = some b → b.operationId = w.operationId →
        b.remote.isSome = true → m ≤ k := by
  obtain ⟨b, hb, hbo, hbr, hlast⟩ := h.awaited hi hw hp
  have hrest : ∀ m b, (s.calls.set n c')[m]? = some b → b.operationId = w.operationId →
      b.remote.isSome = true → m ≤ k := by
    intro m b hb ho' hr'
    obtain ⟨rfl, rfl⟩ | ⟨-, hb⟩ := thread_set hb
    · exact hlast m c hn (ho ▸ ho') (hr ▸ hr')
    · exact hlast m b hb ho' hr'
  by_cases hkn : n = k
  · subst hkn
    cases hn.symm.trans hb
    exact ⟨c', List.getElem?_set_self (List.getElem?_eq_some_iff.1 hn).1, ho.trans hbo,
      hr.trans hbr, hrest⟩
  · exact ⟨b, by rw [List.getElem?_set_ne hkn]; exact hb, hbo, hbr, hrest⟩

/-- A call that has not begun never will. -/
theorem Base.drop (h : Base d s) {n : Nat} {c : OwnerCall} (hn : s.calls[n]? = some c) :
    Base d { s with calls := s.calls.set n { c with started := true, rest := .err lostReply } } := by
  have hc := List.mem_of_getElem? hn
  have hmem : ∀ {b}, b ∈ s.calls.set n { c with started := true, rest := .err lostReply } →
      b ∈ s.calls ∨ b = { c with started := true, rest := .err lostReply } :=
    fun hb => List.mem_or_eq_of_mem_set hb
  refine ⟨h.runner, h.follows, fun hq => ?_, h.bound, fun b hb => ?_, fun b hb hx hnb => ?_,
    fun b hb r hr hst => ?_, fun b hb hst hr => ?_, h.unchanged, h.sent,
    h.awaited_set { c with started := true, rest := .err lostReply } hn rfl rfl⟩
  · obtain hq | hq | ⟨b, hb, rfl⟩ := hq
    · exact h.known (.inl hq)
    · exact h.known (.inr (.inl hq))
    · obtain hb | rfl := hmem hb
      · exact h.known (.inr (.inr ⟨b, hb, rfl⟩))
      · exact h.known (.inr (.inr ⟨c, hc, rfl⟩))
  · obtain hb | rfl := hmem hb
    · exact h.owned b hb
    · exact .err
  · obtain hb | rfl := hmem hb
    · exact h.cautious b hb hx hnb
    · exact .err
  · obtain hb | rfl := hmem hb
    · exact h.waiting b hb r hr hst
    · cases hst
  · obtain hb | rfl := hmem hb
    · exact h.asked b hb hst hr
    · rfl

section Work

variable {n : Nat} {c : OwnerCall} {tag : Event} {ready : TaskState → Choice → Bool}
  {act : TaskState → Choice → TaskState}
  {next : TaskState → Choice → TaskProg (Option OperationEvidence)} {o : Choice}

/-- What the step of a call does to the bindings. -/
theorem Base.sameBindings (h : Base d s) (hn : s.calls[n]? = some c)
    (hc : c.rest = .step tag ready act next) :
    SameBindings c.operationId s.owners (act s.owners o) ∧ Owned c.operationId (next s.owners o) := by
  have howned := h.owned c (List.mem_of_getElem? hn)
  rw [hc] at howned
  obtain ⟨hstep, hnext⟩ := howned
  exact ⟨hstep.bindings _ _, hnext _ _⟩

theorem mem_everBound (hq : q ∈ s.everBound) {rest : TaskProg (Option OperationEvidence)}
    {t : TaskState} : q ∈ (s.stepped n c rest o t).everBound := by
  show q ∈ if _ then _ else _
  split
  · exact List.mem_cons_of_mem _ hq
  · exact hq

theorem mem_of_stepped_everBound {rest : TaskProg (Option OperationEvidence)} {t : TaskState}
    (hq : q ∈ (s.stepped n c rest o t).everBound) : q = c.operationId ∨ q ∈ s.everBound := by
  have hq' : q ∈ if (t.rollouter.pendingOperationTargets.get? c.operationId).isSome then
      c.operationId :: s.everBound else s.everBound := hq
  split at hq'
  · exact List.mem_cons.1 hq'
  · exact .inr hq'

theorem mem_of_stepped_changed {rest : TaskProg (Option OperationEvidence)} {t : TaskState}
    (hq : q ∈ (s.stepped n c rest o t).changed) :
    q = c.operationId ∧ ¬ s.owners.Silent o t ∨ q ∈ s.changed := by
  have hq' : q ∈ if s.owners.Silent o t then s.changed else c.operationId :: s.changed := hq
  split at hq'
  · exact .inr hq'
  · exact (List.mem_cons.1 hq').imp (⟨·, ‹_›⟩) id

/-- An operation that is not bound after a step of one of its calls was never bound, … -/
theorem unbound_stepped {rest : TaskProg (Option OperationEvidence)} {t : TaskState}
    (hq : c.operationId ∉ (s.stepped n c rest o t).everBound) :
    c.operationId ∉ s.everBound ∧ Unbound c.operationId t := by
  refine ⟨fun h => hq (mem_everBound h), ?_⟩
  have hq' : ¬ c.operationId ∈ if (t.rollouter.pendingOperationTargets.get? c.operationId).isSome then
      c.operationId :: s.everBound else s.everBound := hq
  split at hq'
  · exact absurd (List.mem_cons_self ..) hq'
  · rename_i hnone
    simpa [Unbound] using hnone

/-- … and the step was silent. -/
theorem Base.silent (h : Base d s) (hn : s.calls[n]? = some c)
    (hc : c.rest = .step tag ready act next) (hx : s.Exits c.operationId)
    (hq : c.operationId ∉
      (s.stepped n c (next s.owners o) o (act s.owners o)).everBound) :
    s.owners.Silent o (act s.owners o) ∧ Cautious (c.remote = some .prepareExit) c.operationId
      (next s.owners o) := by
  obtain ⟨hnb, hu⟩ := unbound_stepped hq
  have hcautious := h.cautious c (List.mem_of_getElem? hn) hx hnb
  rw [hc] at hcautious
  obtain ⟨⟨-, hs⟩, hnext⟩ := hcautious s.owners o (not_not.1 fun hb => hnb (h.bound hb))
  exact ⟨hs hu, hnext hu⟩

/-- The binding query is one step, … -/
theorem Base.unasked (h : Base d s) (hn : s.calls[n]? = some c)
    (hc : c.rest = .step tag ready act next) (hr : c.remote = some .getPendingTarget) :
    c.started = false := by
  cases hst : c.started with
  | false => rfl
  | true =>
    have hrunning := h.asked c (List.mem_of_getElem? hn) hst hr
    unfold OwnerCall.running at hrunning
    rw [hc] at hrunning
    cases hrunning

/-- … which changes nothing. -/
theorem Base.asks (h : Base d s) (hn : s.calls[n]? = some c)
    (hc : c.rest = .step tag ready act next) (hr : c.remote = some .getPendingTarget) :
    act s.owners o = s.owners ∧ next s.owners o =
      match Rollouter.getPendingTarget s.owners c.operationId with
      | .ok _ => .ret none
      | .error e => .err e := by
  have hmem := List.mem_of_getElem? hn
  have hstarted := h.unasked hn hc hr
  obtain ⟨command, hcommand, hrest⟩ := h.waiting c hmem _ hr hstarted
  have hid : command.operationId = c.operationId := h.follows.keyed hcommand
  rw [hrest] at hc
  cases hc
  refine ⟨rfl, ?_⟩
  rw [hid]
  dsimp only
  cases Rollouter.getPendingTarget s.owners c.operationId <;> rfl

/-- The owner runs a call up to its next await. -/
theorem Base.work (h : Base d s) (hn : s.calls[n]? = some c)
    (hc : c.rest = .step tag ready act next) :
    Base d (s.stepped n c (next s.owners o) o (act s.owners o)) := by
  have hmemc := List.mem_of_getElem? hn
  obtain ⟨hsame, hnext⟩ := h.sameBindings (o := o) hn hc
  have hmem : ∀ {b}, b ∈ (s.stepped n c (next s.owners o) o (act s.owners o)).calls →
      b ∈ s.calls ∨ b = { c with started := true, rest := next s.owners o } :=
    fun hb => List.mem_or_eq_of_mem_set hb
  have hknown := h.known (.inr (.inr ⟨c, hmemc, rfl⟩))
  refine ⟨h.runner, h.follows, fun hq => ?_, fun {q} hb => ?_, fun b hb => ?_,
    fun b hb hx hnb => ?_, fun b hb r hr hst => ?_, fun b hb hst hr => ?_, fun {q} hx hq hch => ?_,
    h.sent, h.awaited_set { c with started := true, rest := next s.owners o } hn rfl rfl⟩
  · obtain hq | hq | ⟨b, hb, rfl⟩ := hq
    · obtain rfl | hq := mem_of_stepped_everBound hq
      · exact hknown
      · exact h.known (.inl hq)
    · obtain ⟨rfl, -⟩ | hq := mem_of_stepped_changed hq
      · exact hknown
      · exact h.known (.inr (.inl hq))
    · obtain hb | rfl := hmem hb
      · exact h.known (.inr (.inr ⟨b, hb, rfl⟩))
      · exact hknown
  · have hb' : ¬ Unbound q (act s.owners o) := hb
    by_cases hqc : q = c.operationId
    · subst hqc
      by_contra hnew
      exact hb' (unbound_stepped hnew).2
    · rw [Unbound, hsame q hqc] at hb'
      exact mem_everBound (h.bound hb')
  · obtain hb | rfl := hmem hb
    · exact h.owned b hb
    · exact hnext
  · obtain hb | rfl := hmem hb
    · exact h.cautious b hb hx fun hq => hnb (mem_everBound hq)
    · exact (h.silent hn hc hx hnb).2
  · obtain hb | rfl := hmem hb
    · exact h.waiting b hb r hr hst
    · cases hst
  · obtain hb | rfl := hmem hb
    · exact h.asked b hb hst hr
    · -- the query has been answered by this very step
      show OwnerCall.running { c with started := true, rest := next s.owners o } = false
      unfold OwnerCall.running
      rw [(h.asks hn hc hr).2]
      cases Rollouter.getPendingTarget s.owners c.operationId <;> rfl
  · obtain ⟨rfl, hs⟩ | hch := mem_of_stepped_changed hch
    · exact hs (h.silent hn hc hx hq).1
    · exact h.unchanged hx (fun hq' => hq (mem_everBound hq')) hch

end Work

/-! ## Sending -/

/-- Only one thread of an operation waits. -/
theorem Base.alone (h : Base d s) {i j : Nat} {w v : Worker} {b b' : Body}
    (hw : s.runner.workers[i]? = some w) (hp : w.phase = .running b)
    (hv : s.runner.workers[j]? = some v) (hp' : v.phase = .running b')
    (ho : v.operationId = w.operationId) : j = i := by
  by_contra hij
  have hgone := h.runner.not_alive hw (by rw [hp]; rfl) hv ho hij
  rw [hp'] at hgone
  cases hgone

theorem Base.send (h : Base d s) {i : Nat} {w : Worker} {next : Reply → Body}
    {command : OperationCommand} {c : Remote} (hidle : s.awaiting i = none)
    (hw : s.runner.workers[i]? = some w) (hp : w.phase = .running (.call c next))
    (hc : s.runner.journal.commands.get? w.operationId = some command) :
    Base d { s with
      calls := s.calls ++ [⟨command.operationId, some c, false, c.program d command⟩]
      awaiting := Function.update s.awaiting i (some s.calls.length) } := by
  have hid : command.operationId = w.operationId := h.follows.keyed hc
  rw [← hid] at hc
  have hrecord : (s.runner.journal.records.get? command.operationId).isSome = true := by
    rw [h.runner.journal.bound, hc]
    rfl
  refine h.addCall hrecord Owned.program (fun ⟨command', hc', hx⟩ => ?_)
    (fun r hr => ⟨rfl, command, hc, ?_⟩) (fun {j n} hj => ?_)
    (fun _ {j n v r next'} hj hv hp' ho => ?_)
  · -- an exit's thread makes calls of an exit only
    cases hc.symm.trans hc'
    have hbody := h.follows.bodies hw hp (hid ▸ hc) hx
    obtain ⟨hexit, -⟩ := hbody.resolve_right fun hf => hf.1
    exact Cautious.mono (congrArg some) (Cautious.program hexit)
  · cases hr; rfl
  · by_cases hij : j = i
    · subst hij
      rw [Function.update_self] at hj
      cases hj
      exact .inr ⟨rfl, w, next, hw, hid.symm, c, rfl, hp⟩
    · rw [Function.update_of_ne hij] at hj
      exact .inl hj
  · obtain rfl := h.alone hw hp hv hp' (ho.trans hid)
    rw [hidle] at hj
    cases hj

theorem Base.nested (h : Base d s) {n : Nat} {c : OwnerCall} (call : Nested)
    (hn : s.calls[n]? = some c) : Base d { s with
      calls := s.calls ++ [⟨c.operationId, none, true, call.program d c.operationId⟩] } :=
  h.addCall (h.known (.inr (.inr ⟨c, List.mem_of_getElem? hn, rfl⟩))) Owned.nested
    (fun _ => Cautious.nested) nofun .inl nofun

/-! ## Any step -/

/-- The threads that still wait when the `i`-th has its answer. -/
theorem update_awaiting {i j n : Nat} {r : Reply}
    (hj : Function.update s.awaiting i none j = some n) :
    s.awaiting j = some n ∧ ∀ r', Act.answer i r ≠ .answer j r' := by
  by_cases hij : j = i
  · rw [hij, Function.update_self] at hj; cases hj
  · rw [Function.update_of_ne hij] at hj
    refine ⟨hj, fun r' ha => hij ?_⟩
    cases ha
    rfl

theorem base_step (h : Base d s) {l : Label} (hs : s.step d l = some t) : Base d t := by
  cases step_cases hs with
  | thread a ha => exact h.runnerStep a fun hi => ⟨hi, ha _⟩
  | send hidle hw hp hc => exact h.send hidle hw hp hc
  | drop hn => exact h.drop hn
  | work o hn hc _ => exact h.work hn hc
  | reply | lose => exact h.runnerStep _ update_awaiting
  | answer r hidle =>
    refine h.runnerStep _ fun hj => ⟨hj, fun r' ha => ?_⟩
    cases ha
    rw [hidle] at hj
    cases hj
  | nested call hn => exact h.nested call hn
  | clear o => exact h.ownersStep fun q hq => unbound_clear hq o
  | environment he => exact h.ownersStep fun q => unbound_environment he

end OwnerSystem

end ReplicaLending
