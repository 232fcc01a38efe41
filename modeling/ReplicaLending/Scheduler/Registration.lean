import ReplicaLending.Scheduler.HandOff
/-!
# Registering a TaskRunner

`_attach_task_with_reconciliation` sends `attach_task` and waits for it at most three times, then
reads the ledger, then sends a compensating `detach_task`. The scheduler executes what the
TaskRunner sent in the order it was sent, at any later time; every wait may end with the reply, with
a timeout or with another exception, whatever has become of the call. Other clients call the
scheduler in between, but none of them registers this actor.

| here | there (`experimental_fully_async/task_runner.py`) |
| --- | --- |
| `Phase.attaching` | the waits for the attach (:541-557) |
| `Phase.querying`  | the read of `get_task_runners` (:561-571) |
| `reconcile`       | what the ledger says (:573-594) |
| `Phase.detaching` | the wait for the compensating detach (:594-609) |
| `AttachStep.failure` | an exception other than `GetTimeoutError` that is not the method's answer |

Only the waits of `Phase.attaching` let a failure out (:550), and there nothing has been
compensated yet; and the detach names the session and not the actor (:596).
-/

namespace ReplicaLending.GroupScheduler

/-- A call of the method to the scheduler. -/
inductive SentCall | attach | query | detach
deriving DecidableEq

/-- How the method came to return. -/
inductive Proof | acknowledgement | ledger
deriving DecidableEq

inductive Phase
  | attaching (attempt : Nat)
  | querying
  | detaching
  | returned (p : Proof)
  | raised
deriving DecidableEq

/-- The method and the scheduler. `attachReply` keeps beside the answer what the ledger mapped the
session to when it was given. -/
structure AttachSystem where
  scheduler : GroupScheduler
  queue : List SentCall
  attachReply : Option (Except PyErr Unit × Option ActorHandle)
  queryReply : Option (Dict String ActorHandle)
  detachReply : Option (Except PyErr Unit)
  attachedToGs : Bool
  phase : Phase

inductive AttachStep
  | process
  | other (c : Call)
  | answer
  | timeout
  | failure

namespace AttachSystem

variable (task : String) (me : ActorHandle)

/-- What the ledger maps the session to. -/
def registered (s : AttachSystem) : Option ActorHandle := s.scheduler.taskRunners.get? task

/-- The scheduler executes a call. -/
def execute (s : AttachSystem) : SentCall → AttachSystem
  | .attach =>
    let (r, gs) := attachTask task me s.scheduler
    { s with scheduler := gs, attachReply := some (r, gs.taskRunners.get? task) }
  | .query => { s with queryReply := some s.scheduler.taskRunners }
  | .detach =>
    let (r, gs) := detachTask task s.scheduler
    { s with scheduler := gs, detachReply := some r }

def finish (s : AttachSystem) (p : Proof) : AttachSystem :=
  { s with phase := .returned p, attachedToGs := true }

def fail (s : AttachSystem) : AttachSystem := { s with phase := .raised }

/-- The method after its ledger query (:573-597); `None` is a query that failed. -/
def reconcile (s : AttachSystem) (ledger : Option (Dict String ActorHandle)) : AttachSystem :=
  match ledger.bind (·.get? task) with
  | some actual => if actual = me then s.finish .ledger else s.fail
  | none => { s with phase := .detaching, queue := s.queue ++ [.detach] }

/-- The reply that the method waits for arrives. -/
def answer (s : AttachSystem) : Option AttachSystem :=
  match s.phase with
  | .attaching _ => s.attachReply.map fun reply => match reply.1 with
    | .ok _ => s.finish .acknowledgement
    | .error _ => s.fail
  | .querying => s.queryReply.map fun ledger => s.reconcile task me (some ledger)
  | .detaching => s.detachReply.map fun _ => s.fail
  | .returned _ | .raised => none

/-- The wait ends with `GetTimeoutError`. -/
def timeout (s : AttachSystem) : Option AttachSystem :=
  match s.phase with
  | .attaching attempt => some <|
    if attempt + 1 < 3 then { s with phase := .attaching (attempt + 1) }
    else { s with phase := .querying, queue := s.queue ++ [.query] }
  | .querying => some (s.reconcile task me none)
  | .detaching => some s.fail
  | .returned _ | .raised => none

/-- The wait ends with another exception. -/
def failure (s : AttachSystem) : Option AttachSystem :=
  match s.phase with
  | .attaching _ => some s.fail
  | .querying => some (s.reconcile task me none)
  | .detaching => some s.fail
  | .returned _ | .raised => none

def step (s : AttachSystem) : AttachStep → AttachSystem → Prop
  | .process, s' => ∃ c rest, s.queue = c :: rest ∧ s' = { s with queue := rest }.execute task me c
  | .other c, s' => c ≠ .attachTask task me ∧ s' = { s with scheduler := apply c s.scheduler }
  | .answer, s' => s.answer task me = some s'
  | .timeout, s' => s.timeout task me = some s'
  | .failure, s' => s.failure task me = some s'

/-- The method from its first call, on any scheduler. -/
def start (gs : GroupScheduler) : AttachSystem :=
  ⟨gs, [.attach], none, none, none, false, .attaching 0⟩

/-- The session is `str(get_actor_id())` (:466), so it is not empty. -/
def machine : Machine AttachSystem AttachStep where
  init s := task ≠ "" ∧ ∃ gs, s = start gs
  step s l s' := s.step task me l s'

/-! ## The ledger under the calls -/

variable {task me} {s s' : AttachSystem}

theorem attachTask_cases (me : ActorHandle) (gs : GroupScheduler) (ht : task ≠ "") :
    (∃ a, a ≠ me ∧ gs.taskRunners.get? task = some a ∧
      ∃ e, attachTask task me gs = (.error e, gs)) ∨
    (gs.taskRunners.get? task = none ∨ gs.taskRunners.get? task = some me) ∧
      attachTask task me gs =
        (.ok (), { gs with taskRunners := gs.taskRunners.insert task me }) := by
  unfold attachTask
  rw [if_neg ht]
  cases hg : gs.taskRunners.get? task with
  | none => exact .inr ⟨.inl rfl, rfl⟩
  | some a =>
    by_cases ha : a = me
    · exact .inr ⟨.inr (by rw [ha]), by simp [ha]⟩
    · exact .inl ⟨a, ha, rfl, .valueError "TaskRunner already attached", by simp [ha]⟩

theorem detachTask_registered (gs : GroupScheduler) (ht : task ≠ "") :
    (detachTask task gs).2.taskRunners.get? task = none := by
  simp [detachTask, ht]

/-- No other client registers this actor. -/
theorem registered_apply {gs : GroupScheduler} {c : Call} (hc : c ≠ .attachTask task me)
    (h : gs.taskRunners.get? task ≠ some me) :
    (GroupScheduler.apply c gs).taskRunners.get? task ≠ some me := by
  cases c with
  | attachTask t r =>
    have hne : t = task → r ≠ me := by
      rintro rfl rfl
      exact hc rfl
    have hi : (gs.taskRunners.insert t r).get? task ≠ some me := by
      rw [Dict.get?_insert]
      split
      · exact fun hr => hne ‹_› (Option.some.inj hr)
      · exact h
    simp only [GroupScheduler.apply, GroupScheduler.attachTask]
    repeat' split
    all_goals first | exact h | exact hi
  | detachTask t =>
    simp only [GroupScheduler.apply, GroupScheduler.detachTask]
    split
    · exact h
    · rw [Dict.get?_erase]
      split
      · intro hr
        cases hr
      · exact h
  | submitIdleReport report now =>
    simp only [GroupScheduler.apply, submitIdleReport]
    split <;> exact h
  | openLease l =>
    simp only [GroupScheduler.apply, openLease]
    repeat' split
    all_goals exact h
  | submitOperation command now reply =>
    have hs : ∀ lease, (gs.stage command lease).taskRunners = gs.taskRunners := by
      intro lease
      unfold stage
      split <;> rfl
    simp only [GroupScheduler.apply, submitOperation]
    split
    · exact h
    · dsimp only
      split
      · exact h
      · rw [hs]; exact h
  | advanceLease L evidence =>
    have hs : ∀ lease command, (gs.progress command lease evidence).taskRunners = gs.taskRunners := by
      intro lease command
      unfold progress
      split
      · split <;> rfl
      all_goals rfl
    rw [apply_advanceLease]
    split
    · exact h
    · rw [hs]; exact h

/-! ## The invariant -/

/-- What may still be queued in each phase: the last of the calls sent so far. -/
def Pending : Phase → List SentCall → Prop
  | .attaching _, q => q = [.attach] ∨ q = []
  | .querying, q => q = [.attach, .query] ∨ q = [.query] ∨ q = []
  | .detaching, q => q = [.attach, .query, .detach] ∨ q = [.query, .detach] ∨ q = [.detach] ∨ q = []
  | .returned _, q => q = []
  | .raised, q => q = [.attach] ∨
    (q = [.attach, .query, .detach] ∨ q = [.query, .detach] ∨ q = [.detach] ∨ q = [])

structure Consistent (task : String) (me : ActorHandle) (s : AttachSystem) : Prop where
  pending : Pending s.phase s.queue
  unanswered : s.attachReply = none ↔ .attach ∈ s.queue
  /-- An accepted attach has registered this actor, a refused one has not. -/
  acked : ∀ {o}, s.attachReply = some (.ok (), o) → o = some me
  refused : ∀ {e o}, s.attachReply = some (.error e, o) → s.registered task ≠ some me
  /-- A ledger without this actor was read after the attach. -/
  ledger : ∀ {d}, s.queryReply = some d →
    .attach ∉ s.queue ∧ .query ∉ s.queue ∧ (∀ n, s.phase ≠ .attaching n) ∧
      (d.get? task ≠ some me → s.registered task ≠ some me)
  detachReply : s.detachReply.isSome → s.queue = [] ∧ (s.phase = .detaching ∨ s.phase = .raised)
  /-- Once its last call has been executed, a method that has sent the detach, or has raised, leaves
  this actor unregistered. -/
  unregistered : s.phase = .detaching ∨ s.phase = .raised → s.queue = [] →
    s.registered task ≠ some me
  returned : ∀ {p}, s.phase = .returned p → match p with
    | .acknowledgement => s.attachReply = some (.ok (), some me)
    | .ledger => ∃ d, s.queryReply = some d ∧ d.get? task = some me

/-- The condition on a step: a wait for the attach does not fail on a scheduler that has accepted the
attach; after such a failure the attach is not accepted; and the compensating detach is not executed
while another actor holds the session. -/
def Compensates (task : String) (me : ActorHandle) (s : AttachSystem) : AttachStep → Prop
  | .failure => (∃ n, s.phase = .attaching n) → s.queue = [] → s.registered task ≠ some me
  | .process =>
    (s.phase = .raised → s.queue = [.attach] → ∃ a, a ≠ me ∧ s.registered task = some a) ∧
    (s.queue = [.detach] → s.registered task = none ∨ s.registered task = some me)
  | _ => True

theorem consistent_start (gs : GroupScheduler) : Consistent task me (start gs) where
  pending := .inl rfl
  unanswered := by simp [start]
  acked := nofun
  refused := nofun
  ledger := nofun
  detachReply := nofun
  unregistered := by rintro (h | h) <;> cases h
  returned := nofun

/-- The heads of a queue that is pending. -/
theorem pending_cases {phase : Phase} {c : SentCall} {rest : List SentCall}
    (h : Pending phase (c :: rest)) :
    (c = .attach ∧ (rest = [] ∨ rest = [.query] ∨ rest = [.query, .detach])) ∨
    (c = .query ∧ (rest = [] ∨ rest = [.detach])) ∨ (c = .detach ∧ rest = []) := by
  cases phase <;> simp only [Pending, List.cons.injEq, reduceCtorEq, or_false] at h <;> grind

theorem pending_rest {phase : Phase} {c : SentCall} {rest : List SentCall}
    (h : Pending phase (c :: rest)) : Pending phase rest := by
  cases phase <;> simp only [Pending, List.cons.injEq, reduceCtorEq, or_false] at h ⊢ <;> grind

theorem Consistent.process (h : Consistent task me s) (ht : task ≠ "") {c : SentCall}
    {rest : List SentCall} (hq : s.queue = c :: rest) (hc : Compensates task me s .process) :
    Consistent task me ({ s with queue := rest }.execute task me c) := by
  have hp : Pending s.phase (c :: rest) := hq ▸ h.pending
  have hret : ∀ p, s.phase ≠ .returned p := by
    intro p hph
    rw [hph] at hp
    cases hp
  rcases pending_cases hp with ⟨rfl, hrest⟩ | ⟨rfl, hrest⟩ | ⟨rfl, rfl⟩
  · have ha : .attach ∉ rest := by rcases hrest with rfl | rfl | rfl <;> simp
    have hquery : s.queryReply = none := by
      cases hd : s.queryReply with
      | none => rfl
      | some d => exact absurd (by simp [hq]) (h.ledger hd).1
    have hfree : s.phase = .detaching ∨ s.phase = .raised → rest = [] →
        ∃ a, a ≠ me ∧ s.registered task = some a := by
      rintro (hph | hph) rfl
      · rw [hph] at hp
        simp [Pending] at hp
      · exact hc.1 hph hq
    refine ⟨pending_rest hp, iff_of_false nofun ha, fun {o} ho => ?_, fun {e o} ho => ?_,
      fun {d} hd => ?_, fun hd => absurd (hq.symm.trans (h.detachReply hd).1) nofun,
      fun hph hr => ?_, fun {p} hph => absurd hph (hret p)⟩
    · rcases attachTask_cases me s.scheduler ht with ⟨a, -, -, e, he⟩ | ⟨-, he⟩
      · simp only [execute, he] at ho; cases ho
      · simp only [execute, he, Option.some.injEq, Prod.mk.injEq, true_and] at ho
        rw [← ho]
        exact Dict.get?_insert_self ..
    · rcases attachTask_cases me s.scheduler ht with ⟨a, hne, hg, e, he⟩ | ⟨-, he⟩
      · simp only [execute, he, registered, hg]
        exact fun hx => hne (Option.some.inj hx)
      · simp only [execute, he] at ho; cases ho
    · exact absurd (hquery.symm.trans hd) nofun
    · obtain ⟨a, hne, hg⟩ := hfree hph hr
      rcases attachTask_cases me s.scheduler ht with ⟨b, hb, hg', e, he⟩ | ⟨hg', -⟩
      · simp only [execute, he, registered, hg']
        exact fun hx => hb (Option.some.inj hx)
      · rw [show s.scheduler.taskRunners.get? task = some a from hg] at hg'
        rcases hg' with hg' | hg'
        · cases hg'
        · exact absurd (Option.some.inj hg') hne
  · have ha : .attach ∉ s.queue := by rw [hq]; rcases hrest with rfl | rfl <;> simp
    have ha' : .attach ∉ rest := fun hm => ha (hq ▸ List.mem_cons_of_mem _ hm)
    refine ⟨pending_rest hp, ?_, h.acked, h.refused, fun {d} hd => ?_,
      fun hd => absurd (hq.symm.trans (h.detachReply hd).1) nofun, fun hph hr => ?_,
      fun {p} hph => absurd hph (hret p)⟩
    · exact h.unanswered.trans (iff_of_false ha ha')
    · cases hd
      refine ⟨ha', by rcases hrest with rfl | rfl <;> simp [execute], fun n hph => ?_, id⟩
      rw [show s.phase = _ from hph] at hp
      simp [Pending] at hp
    · have hr : rest = [] := hr
      subst hr
      rcases hph with hph | hph <;> rw [show s.phase = _ from hph] at hp <;> simp [Pending] at hp
  · have hd := detachTask_registered s.scheduler ht
    have ha : .attach ∉ s.queue := by simp [hq]
    refine ⟨pending_rest hp, h.unanswered.trans (iff_of_false ha (by simp [execute])), h.acked,
      fun {e o} _ hx => ?_, fun {d} hl => ?_, fun _ => ⟨rfl, ?_⟩, fun _ _ hx => ?_,
      fun {p} hph => absurd hph (hret p)⟩
    · exact absurd (hd.symm.trans hx) nofun
    · exact ⟨by simp [execute], by simp [execute], (h.ledger hl).2.2.1,
        fun _ hx => absurd (hd.symm.trans hx) nofun⟩
    · show s.phase = .detaching ∨ s.phase = .raised
      cases hph : s.phase <;> rw [hph] at hp <;> simp [Pending] at hp ⊢
    · exact absurd (hd.symm.trans hx) nofun

/-- The method reads the ledger or gives up on it. -/
theorem Consistent.reconcile (h : Consistent task me s) (hph : s.phase = .querying)
    {ledger : Option (Dict String ActorHandle)} (hl : ∀ d, ledger = some d → s.queryReply = some d) :
    Consistent task me (s.reconcile task me ledger) := by
  have hp := h.pending
  rw [hph] at hp
  have hempty : ∀ {d}, s.queryReply = some d → s.queue = [] := by
    intro d hd
    obtain ⟨ha, hq, -⟩ := h.ledger hd
    rcases hp with hp | hp | hp
    · simp [hp] at ha
    · simp [hp] at hq
    · exact hp
  have hdetach : s.detachReply.isSome → False := by
    intro hd
    rcases (h.detachReply hd).2 with hx | hx <;> rw [hph] at hx <;> cases hx
  have hledger : ∀ {phase : Phase}, (∀ n, phase ≠ .attaching n) → ∀ {d}, s.queryReply = some d →
      .attach ∉ s.queue ∧ .query ∉ s.queue ∧ (∀ n, phase ≠ .attaching n) ∧
        (d.get? task ≠ some me → s.registered task ≠ some me) := by
    intro phase hphase d hd
    obtain ⟨ha, hq, -, hr⟩ := h.ledger hd
    exact ⟨ha, hq, hphase, hr⟩
  unfold AttachSystem.reconcile
  split
  · rename_i actual hg
    obtain ⟨d, hd, hg⟩ := Option.bind_eq_some_iff.1 hg
    have hd := hl d hd
    have hq := hempty hd
    split
    · rename_i he
      refine ⟨hq, h.unanswered, h.acked, h.refused, hledger (by nofun), fun hx => (hdetach hx).elim, ?_, ?_⟩
      · rintro (hx | hx) <;> cases hx
      · intro p hx
        cases hx
        exact ⟨d, hd, he ▸ hg⟩
    · rename_i hne
      have hme : d.get? task ≠ some me := fun hx => hne (Option.some.inj (hg.symm.trans hx))
      refine ⟨?_, h.unanswered, h.acked, h.refused, hledger (by nofun), fun hx => (hdetach hx).elim,
        fun _ _ => (h.ledger hd).2.2.2 hme, nofun⟩
      exact .inr (.inr (.inr (.inr hq)))
  · refine ⟨?_, ?_, h.acked, h.refused, fun {d} hd => ?_, fun hx => (hdetach hx).elim,
      fun _ hq => ?_, nofun⟩
    · show Pending .detaching (s.queue ++ [.detach])
      rcases hp with hp | hp | hp <;> simp [hp, Pending]
    · rw [h.unanswered]
      simp
    · obtain ⟨ha, hq, -, hr⟩ := h.ledger hd
      exact ⟨by simpa using ha, by simpa using hq, nofun, hr⟩
    · simp at hq

/-- The method raises without a further call. -/
theorem Consistent.fail (h : Consistent task me s)
    (hph : (∃ n, s.phase = .attaching n) ∧ (s.queue = [] → s.registered task ≠ some me) ∨
      s.phase = .detaching) : Consistent task me s.fail := by
  have hp := h.pending
  refine ⟨?_, h.unanswered, h.acked, h.refused, fun {d} hd => ?_,
    fun hd => ⟨(h.detachReply hd).1, .inr rfl⟩, fun _ hq => ?_, nofun⟩
  · show Pending .raised s.queue
    rcases hph with ⟨⟨n, hph⟩, -⟩ | hph <;> rw [hph] at hp
    · rcases hp with hp | hp <;> simp [hp, Pending]
    · exact .inr hp
  · obtain ⟨ha, hq, -, hr⟩ := h.ledger hd
    exact ⟨ha, hq, nofun, hr⟩
  · rcases hph with ⟨-, hr⟩ | hph
    · exact hr hq
    · exact h.unregistered (.inl hph) hq

theorem Consistent.answer (h : Consistent task me s) (hs : s.answer task me = some s') :
    Consistent task me s' := by
  have hp := h.pending
  unfold AttachSystem.answer at hs
  cases hph : s.phase with
  | attaching n =>
    simp only [hph] at hs hp
    obtain ⟨⟨r, o⟩, hr, he⟩ := Option.map_eq_some_iff.1 hs
    have hq : s.queue = [] := by
      refine hp.resolve_left fun hx => ?_
      have := h.unanswered.2 (by simp [hx])
      rw [hr] at this
      cases this
    cases r with
    | error e =>
      subst he
      exact h.fail (.inl ⟨⟨n, hph⟩, fun _ => h.refused hr⟩)
    | ok u =>
      subst he
      refine ⟨hq, h.unanswered, h.acked, h.refused,
        fun {d} hd => absurd hph ((h.ledger hd).2.2.1 n), fun hd => ?_, ?_, ?_⟩
      · rcases (h.detachReply hd).2 with hx | hx <;> rw [hph] at hx <;> cases hx
      · rintro (hx | hx) <;> cases hx
      · intro p hx
        cases hx
        exact hr.trans (by rw [h.acked hr])
  | querying =>
    simp only [hph] at hs
    obtain ⟨d, hd, rfl⟩ := Option.map_eq_some_iff.1 hs
    exact h.reconcile hph fun d' hd' => by cases hd'; exact hd
  | detaching =>
    simp only [hph] at hs
    obtain ⟨r, -, rfl⟩ := Option.map_eq_some_iff.1 hs
    exact h.fail (.inr hph)
  | returned p => simp [hph] at hs
  | raised => simp [hph] at hs

theorem Consistent.timeout (h : Consistent task me s) (hs : s.timeout task me = some s') :
    Consistent task me s' := by
  have hp := h.pending
  unfold AttachSystem.timeout at hs
  cases hph : s.phase with
  | attaching n =>
    simp only [hph, Option.some.injEq] at hs hp
    have hdetach : s.detachReply.isSome → False := by
      intro hd
      rcases (h.detachReply hd).2 with hx | hx <;> rw [hph] at hx <;> cases hx
    split at hs
    · subst hs
      refine ⟨hp, h.unanswered, h.acked, h.refused,
        fun {d} hd => absurd hph ((h.ledger hd).2.2.1 n), fun hd => (hdetach hd).elim, ?_, nofun⟩
      rintro (hx | hx) <;> cases hx
    · subst hs
      refine ⟨?_, ?_, h.acked, h.refused, fun {d} hd => absurd hph ((h.ledger hd).2.2.1 n),
        fun hd => (hdetach hd).elim, ?_, nofun⟩
      · rcases hp with hp | hp <;> simp [hp, Pending]
      · rw [h.unanswered]
        simp
      · rintro (hx | hx) <;> cases hx
  | querying =>
    simp only [hph, Option.some.injEq] at hs
    subst hs
    exact h.reconcile hph nofun
  | detaching =>
    simp only [hph, Option.some.injEq] at hs
    subst hs
    exact h.fail (.inr hph)
  | returned p => simp [hph] at hs
  | raised => simp [hph] at hs

theorem Consistent.failure (h : Consistent task me s) (hs : s.failure task me = some s')
    (hc : Compensates task me s .failure) : Consistent task me s' := by
  unfold AttachSystem.failure at hs
  cases hph : s.phase with
  | attaching n =>
    simp only [hph, Option.some.injEq] at hs
    subst hs
    exact h.fail (.inl ⟨⟨n, hph⟩, hc ⟨n, hph⟩⟩)
  | querying =>
    simp only [hph, Option.some.injEq] at hs
    subst hs
    exact h.reconcile hph nofun
  | detaching =>
    simp only [hph, Option.some.injEq] at hs
    subst hs
    exact h.fail (.inr hph)
  | returned p => simp [hph] at hs
  | raised => simp [hph] at hs

theorem Consistent.other (h : Consistent task me s) {c : Call} (hc : c ≠ .attachTask task me) :
    Consistent task me { s with scheduler := apply c s.scheduler } where
  pending := h.pending
  unanswered := h.unanswered
  acked := h.acked
  refused ho := registered_apply hc (h.refused ho)
  ledger hd := by
    obtain ⟨ha, hq, hn, hr⟩ := h.ledger hd
    exact ⟨ha, hq, hn, fun hx => registered_apply hc (hr hx)⟩
  detachReply := h.detachReply
  unregistered hph hq := registered_apply hc (h.unregistered hph hq)
  returned := h.returned

theorem Consistent.step (h : Consistent task me s) (ht : task ≠ "") {l : AttachStep}
    (hs : s.step task me l s') (hc : Compensates task me s l) : Consistent task me s' := by
  cases l with
  | process =>
    obtain ⟨c, rest, hq, rfl⟩ := hs
    exact h.process ht hq hc
  | other c =>
    obtain ⟨hne, rfl⟩ := hs
    exact h.other hne
  | answer => exact h.answer hs
  | timeout => exact h.timeout hs
  | failure => exact h.failure hs hc

theorem consistent_reachable
    (h : (machine task me).ReachableWhere (fun s l _ => Compensates task me s l) s) :
    Consistent task me s ∧ task ≠ "" := by
  refine h.invariant (I := fun s => Consistent task me s ∧ task ≠ "") ?_ fun s l s' hI hs hc => ?_
  · rintro s ⟨ht, gs, rfl⟩
    exact ⟨consistent_start gs, ht⟩
  · exact ⟨hI.1.step hI.2 hs hc, hI.2⟩

/-! ## Reconciliation -/

/-- A method that has raised, and whose calls have all been executed, has left this actor out. -/
def Unregisters (task : String) (me : ActorHandle) (s : AttachSystem) : Prop :=
  s.phase = .raised → s.queue = [] → s.registered task ≠ some me

/-- The registration of another actor is the same. -/
def KeepsOthers (task : String) (me : ActorHandle) (s s' : AttachSystem) : Prop :=
  ∀ a, a ≠ me → s.registered task = some a → s'.registered task = some a

/-- What the condition says of a call that the scheduler executes. -/
theorem keepsOthers_process (ht : task ≠ "") {c : SentCall} {rest : List SentCall}
    (hq : s.queue = c :: rest) (hp : Pending s.phase s.queue)
    (hc : s.queue = [.detach] → s.registered task = none ∨ s.registered task = some me) :
    KeepsOthers task me s ({ s with queue := rest }.execute task me c) := by
  intro a ha hreg
  cases c with
  | attach =>
    rcases attachTask_cases me s.scheduler ht with ⟨b, -, -, e, he⟩ | ⟨hg, -⟩
    · simp only [execute, he]
      exact hreg
    · rw [show s.scheduler.taskRunners.get? task = some a from hreg] at hg
      rcases hg with hg | hg
      · cases hg
      · exact absurd (Option.some.inj hg) ha
  | query => exact hreg
  | detach =>
    rw [hq] at hp
    obtain ⟨h, -⟩ | ⟨h, -⟩ | ⟨-, rfl⟩ := pending_cases hp
    · cases h
    · cases h
    · rw [hreg] at hc
      rcases hc hq with hx | hx
      · cases hx
      · exact absurd (Option.some.inj hx) ha

theorem compensates_of_process (ht : task ≠ "") {c : SentCall} {rest : List SentCall}
    (hq : s.queue = c :: rest)
    (hu : Unregisters task me ({ s with queue := rest }.execute task me c))
    (hk : KeepsOthers task me s ({ s with queue := rest }.execute task me c)) :
    Compensates task me s .process := by
  refine ⟨fun hph hqa => ?_, fun hqd => ?_⟩
  · obtain ⟨rfl, rfl⟩ := List.cons.inj (hq.symm.trans hqa)
    rcases attachTask_cases me s.scheduler ht with ⟨a, ha, hg, -⟩ | ⟨-, he⟩
    · exact ⟨a, ha, hg⟩
    · simp only [execute, he] at hu
      exact absurd (Dict.get?_insert_self ..) (hu hph rfl)
  · obtain ⟨rfl, rfl⟩ := List.cons.inj (hq.symm.trans hqd)
    cases hreg : s.registered task with
    | none => exact .inl rfl
    | some a =>
      by_cases ha : a = me
      · exact .inr (by rw [ha])
      · exact absurd ((detachTask_registered s.scheduler ht).symm.trans (hk a ha hreg)) nofun

/-- A step leaves no registration of a method that has raised, and touches no other actor's, exactly
under the condition. -/
theorem compensates_iff (h : Consistent task me s) (ht : task ≠ "") {l : AttachStep}
    (hs : s.step task me l s') : Compensates task me s l ↔
      Unregisters task me s' ∧ (l = .process → KeepsOthers task me s s') := by
  refine ⟨fun hc => ⟨fun hph => (h.step ht hs hc).unregistered (.inr hph), ?_⟩, fun ⟨hu, hk⟩ => ?_⟩
  · rintro rfl
    obtain ⟨c, rest, hq, rfl⟩ := hs
    exact keepsOthers_process ht hq h.pending hc.2
  · cases l with
    | process =>
      obtain ⟨c, rest, hq, rfl⟩ := hs
      exact compensates_of_process ht hq hu (hk rfl)
    | failure =>
      rintro ⟨n, hph⟩ hq
      simp only [AttachSystem.step, AttachSystem.failure, hph, Option.some.injEq] at hs
      subst hs
      exact hu rfl hq
    | other c => trivial
    | answer => trivial
    | timeout => trivial

/-- As long as no wait for the attach fails on a scheduler that accepts the attach (a timeout is
no failure), and no compensating detach finds another actor under the session: a method that returns
was acknowledged by, or read, a ledger that maps the session to this actor; one that raises has left
this actor unregistered when its calls have been executed, and none of them has changed another
actor's registration. A step keeps the last two exactly under that condition. -/
theorem attach_reconciles {task : String} {me : ActorHandle} {s : AttachSystem}
    (h : (machine task me).ReachableWhere (fun s l _ => Compensates task me s l) s) :
    (s.phase = .returned .acknowledgement → s.attachReply = some (.ok (), some me)) ∧
    (s.phase = .returned .ledger → ∃ d, s.queryReply = some d ∧ d.get? task = some me) ∧
    (s.phase = .raised → s.queue = [] → s.registered task ≠ some me) ∧
    ∀ l s', s.step task me l s' →
      (Compensates task me s l ↔
        Unregisters task me s' ∧ (l = .process → KeepsOthers task me s s')) := by
  obtain ⟨hI, ht⟩ := consistent_reachable h
  exact ⟨fun hp => hI.returned hp, fun hp => hI.returned hp, fun hp => hI.unregistered (.inr hp),
    fun l s' hs => compensates_iff hI ht hs⟩

/-! ## Two ways to miss -/

def attachedSystem : AttachSystem :=
  { start init with queue := [] }.execute "t" ⟨1⟩ .attach

theorem reachable_attached {P : AttachSystem → AttachStep → AttachSystem → Prop}
    (hP : P (start init) .process attachedSystem) :
    (machine "t" ⟨1⟩).ReachableWhere P attachedSystem :=
  ⟨start init, ⟨by decide, init, rfl⟩, .single (l := .process) ⟨.attach, [], rfl, rfl⟩ hP⟩

/-- The method after three timeouts of the attach and one of the ledger query, whose call has been
executed; the compensating detach is on its way. -/
def unanswered (s : AttachSystem) : AttachSystem :=
  { s with queue := [.detach], queryReply := some s.scheduler.taskRunners, phase := .detaching }

theorem run_unanswered {P : AttachSystem → AttachStep → AttachSystem → Prop}
    (hph : s.phase = .attaching 0) (hq : s.queue = []) (ht : ∀ u v, P u .timeout v)
    (hp : ∀ u v, u.queue = [.query, .detach] → P u .process v) :
    (machine task me).RunWhere P s s.unanswered := by
  have h₁ : (machine task me).RunWhere P s { s with phase := .attaching 1 } :=
    .single (l := .timeout) (by simp [machine, step, timeout, hph]) (ht _ _)
  have h₂ : (machine task me).RunWhere P s { s with phase := .attaching 2 } :=
    h₁.tail (l := .timeout) rfl (ht _ _)
  have h₃ : (machine task me).RunWhere P s { s with phase := .querying, queue := [.query] } :=
    h₂.tail (l := .timeout) (by simp [machine, step, timeout, hq]) (ht _ _)
  have h₄ : (machine task me).RunWhere P s
      { s with phase := .detaching, queue := [.query, .detach] } :=
    h₃.tail (l := .timeout) rfl (ht _ _)
  exact h₄.tail (l := .process) ⟨.query, [.detach], rfl, rfl⟩ (hp _ _ rfl)

/-- The accepted attach has been taken back. -/
def compensatedSystem : AttachSystem :=
  { attachedSystem.unanswered with queue := [] }.execute "t" ⟨1⟩ .detach

/-- The reply of the attach arrives; or no reply arrives, and the actor is registered no more. -/
theorem attach_reconciles_answered :
    (attachedSystem.finish .acknowledgement).attachReply = some (.ok (), some ⟨1⟩) ∧
      attachedSystem.unanswered.registered "t" = some ⟨1⟩ ∧
      compensatedSystem.fail.registered "t" ≠ some ⟨1⟩ := by
  have h₀ : (machine "t" ⟨1⟩).ReachableWhere (fun s l _ => Compensates "t" ⟨1⟩ s l) attachedSystem :=
    reachable_attached ⟨nofun, nofun⟩
  have hanswered : (machine "t" ⟨1⟩).ReachableWhere (fun s l _ => Compensates "t" ⟨1⟩ s l)
      (attachedSystem.finish .acknowledgement) := h₀.tail (l := .answer) rfl trivial
  have hrun : (machine "t" ⟨1⟩).RunWhere (fun s l _ => Compensates "t" ⟨1⟩ s l)
      attachedSystem attachedSystem.unanswered :=
    run_unanswered rfl rfl (fun _ _ => trivial) fun u v hq =>
      ⟨fun _ ha => (by rw [hq] at ha; cases ha), fun hd => (by rw [hq] at hd; cases hd)⟩
  obtain ⟨gs, hgs, hattach⟩ := h₀
  have hregistered : attachedSystem.unanswered.registered "t" = some ⟨1⟩ := by decide +kernel
  have hcompensated : (machine "t" ⟨1⟩).ReachableWhere (fun s l _ => Compensates "t" ⟨1⟩ s l)
      compensatedSystem :=
    ⟨gs, hgs, (hattach.trans hrun).tail (l := .process) ⟨.detach, [], rfl, rfl⟩
      ⟨nofun, fun _ => .inr hregistered⟩⟩
  have hraised : (machine "t" ⟨1⟩).ReachableWhere (fun s l _ => Compensates "t" ⟨1⟩ s l)
      compensatedSystem.fail := hcompensated.tail (l := .answer) rfl trivial
  exact ⟨(attach_reconciles hanswered).1 rfl, hregistered, (attach_reconciles hraised).2.2.1 rfl rfl⟩

/-- Another actor holds the session, and the attach has been refused. -/
def refusedSystem : AttachSystem :=
  { start (apply (.attachTask "t" ⟨2⟩) init) with queue := [] }.execute "t" ⟨1⟩ .attach

def detachingSystem : AttachSystem := refusedSystem.unanswered

theorem reachable_detaching : (machine "t" ⟨1⟩).Reachable detachingSystem := by
  have h₀ : (machine "t" ⟨1⟩).Run (start (apply (.attachTask "t" ⟨2⟩) init)) refusedSystem :=
    .single (l := .process) ⟨.attach, [], rfl, rfl⟩ trivial
  exact ⟨_, ⟨by decide, _, rfl⟩,
    h₀.trans (run_unanswered rfl rfl (fun _ _ => trivial) fun _ _ _ => trivial)⟩

def detachedSystem : AttachSystem :=
  { detachingSystem with queue := [] }.execute "t" ⟨1⟩ .detach

/-- A wait for the attach that fails after the scheduler has accepted it raises and leaves the actor
registered; and a compensating detach takes the session from the actor that holds it. -/
theorem attach_unreconciled :
    ((machine "t" ⟨1⟩).Reachable attachedSystem.fail ∧ attachedSystem.fail.phase = .raised ∧
      attachedSystem.fail.queue = [] ∧ attachedSystem.fail.registered "t" = some ⟨1⟩) ∧
    (machine "t" ⟨1⟩).Reachable detachedSystem.fail ∧ detachedSystem.fail.phase = .raised ∧
      detachedSystem.fail.queue = [] ∧ detachingSystem.registered "t" = some ⟨2⟩ ∧
      detachedSystem.fail.registered "t" = none := by
  have h₁ : (machine "t" ⟨1⟩).Reachable detachedSystem :=
    reachable_detaching.tail (l := .process) ⟨.detach, [], rfl, rfl⟩ trivial
  have h₂ : (machine "t" ⟨1⟩).Reachable detachedSystem.fail :=
    h₁.tail (l := .answer) rfl trivial
  exact ⟨⟨(reachable_attached trivial).tail (l := .failure) rfl trivial, rfl, rfl, by decide +kernel⟩,
    h₂, rfl, rfl, by decide +kernel, by decide +kernel⟩

end AttachSystem

end ReplicaLending.GroupScheduler
