import ReplicaLending.Router.Machine
/-!
# The release fence of a client (`integration/verl/experimental_fully_async/rollouter.py`)

Any number of logical requests of one client, each in sequential attempts: `_acquire_server`, the
generation, `_release_server`. A release is sent and not awaited; what the next attempt of the request
awaits is its ObjectRef, the fence. Calls are processed by the load balancer in any order; fences are
cleared by tasks that run any time after the release has been answered.

| here | there |
| --- | --- |
| `begin`, `pass`, `send`  | `_acquire_server` up to the call (rollouter.py:147-169) |
| `process`                | `acquire_server`, `release_server` (load_balancer.py:82, :98) |
| `ask`, `retry`           | the retry loop on an empty pool (rollouter.py:170-188) |
| `finish`                 | `_release_server` (rollouter.py:125) |
| `clear`                  | `_clear_release_fence` (rollouter.py:118) |
| `cancel`                 | the caller gives the attempt up while it awaits something |
| `sent`, `log`, `admitted` | nothing: the releases sent, and what was processed, for which attempt |

A release without a request id is not fenced (rollouter.py:138); the results are about requests with
one. The ids of several clients are distinct, and their requests are here requests of one.
-/

namespace ReplicaLending

/-- What the client calls, and for which attempt. -/
inductive ClientCall
  | acquire
  | release (serverId : String)
deriving DecidableEq

/-- A call under way; `ref` is its ObjectRef. -/
structure Message where
  ref : Nat
  requestId : String
  attempt : Nat
  call : ClientCall
deriving DecidableEq

/-- Where the current attempt of a request stands. -/
inductive ClientPhase
  /-- It awaits the release of an earlier attempt. -/
  | fenced (ref : Nat)
  | acquiring
  /-- The pool was empty; `is_service_restore_pending` is asked. -/
  | asking
  | waiting
  | running (serverId : String)
  | ended
deriving DecidableEq

/-- What the load balancer has processed; a release may have settled an attempt. -/
inductive Processed
  | acquired (requestId : String) (attempt : Nat)
  | released (requestId : String) (attempt : Nat) (settled : Option Nat)
deriving DecidableEq

structure ClientSystem where
  lb : GlobalRequestLoadBalancer
  flight : List Message
  /-- The outcome of each release that has been processed. -/
  resolved : Nat → Option (Except PyErr Unit)
  /-- `_release_fences`. -/
  fences : Dict String Nat
  /-- The clean-up tasks that have not run. -/
  clearing : List (String × Nat)
  refs : Nat
  attempt : String → Nat
  phase : String → ClientPhase
  sent : List (String × Nat)
  /-- The attempt the load balancer has admitted last. -/
  admitted : String → Option Nat
  log : List Processed

inductive ClientLabel
  | begin (requestId : String)
  | pass (requestId : String)
  | process (ref : Nat) (pick : String)
  | ask (requestId : String) (expired : Bool)
  | retry (requestId : String)
  | finish (requestId : String) (loop : Bool)
  | clear (i : Nat)
  | cancel (requestId : String)
  /-- Somebody else's call of the load balancer. -/
  | other (c : RouterCall)

namespace ClientSystem

variable (s : ClientSystem)

def setPhase (r : String) (p : ClientPhase) : ClientSystem :=
  { s with phase := Function.update s.phase r p }

/-- The attempt calls `acquire_server`. -/
def send (r : String) : ClientSystem :=
  { s.setPhase r .acquiring with
    flight := s.flight ++ [⟨s.refs, r, s.attempt r, .acquire⟩]
    refs := s.refs + 1 }

/-- `if self._release_fences.get(request_id) is release_ref: pop`. -/
def popFence (r : String) (ref : Nat) : ClientSystem :=
  { s with fences := if s.fences.get? r = some ref then s.fences.erase r else s.fences }

/-- The reply of `acquire_server` reaches the attempt if it is still waiting for it. -/
def reply (r : String) (k : Nat) (p : ClientPhase) : ClientSystem :=
  if s.attempt r = k ∧ s.phase r = .acquiring then s.setPhase r p else s

/-- "No available servers in load balancer". -/
def noServers : PyErr := .runtimeError "No available servers in load balancer"

/-- `acquire_server` is processed for the attempt of the message. -/
def processAcquire (m : Message) (pick : String) : ClientSystem :=
  let s := { s with log := s.log ++ [Processed.acquired m.requestId m.attempt] }
  match s.lb.acquireServer m.requestId pick with
  | (.ok (serverId, _), lb) =>
    { s with lb, admitted := Function.update s.admitted m.requestId (some m.attempt) }.reply
      m.requestId m.attempt (.running serverId)
  | (.error e, lb) =>
    { s with lb }.reply m.requestId m.attempt (if e = noServers then .asking else .ended)

/-- `release_server` is processed; its ObjectRef holds the outcome. -/
def processRelease (m : Message) (serverId : String) : ClientSystem :=
  let (result, lb) := s.lb.releaseServer serverId m.requestId
  let settled :=
    if s.lb.releasesNative serverId m.requestId then s.admitted m.requestId else none
  { s with
    lb
    resolved := Function.update s.resolved m.ref (some result)
    log := s.log ++ [Processed.released m.requestId m.attempt settled] }

def process (m : Message) (pick : String) : ClientSystem :=
  let s := { s with flight := s.flight.filter fun m' => m'.ref ≠ m.ref }
  match m.call with
  | .acquire => s.processAcquire m pick
  | .release serverId => s.processRelease m serverId

/-- `_release_server`: `loop` says that an event loop is running. -/
def releaseServer (r serverId : String) (loop : Bool) : ClientSystem :=
  { s.setPhase r .ended with
    flight := s.flight ++ [⟨s.refs, r, s.attempt r, .release serverId⟩]
    refs := s.refs + 1
    sent := s.sent ++ [(r, s.attempt r)]
    fences := if r = "" then s.fences else s.fences.insert r s.refs
    clearing := if r = "" ∨ ¬ loop then s.clearing else s.clearing ++ [(r, s.refs)] }

/-- Calls that are not of a client. -/
def Foreign : RouterCall → Prop
  | .acquireServer _ _ | .releaseServer _ _ _ => False
  | _ => True

instance : DecidablePred Foreign := fun c => by cases c <;> unfold Foreign <;> infer_instance

def step : ClientLabel → Option ClientSystem
  | .begin r =>
    if s.phase r ≠ .ended then none
    else
      let s := { s with attempt := Function.update s.attempt r (s.attempt r + 1) }
      match s.fences.get? r with
      | some ref => some (s.setPhase r (.fenced ref))
      | none => some (s.send r)
  | .pass r => match s.phase r with
    | .fenced ref => match s.resolved ref with
      | none => none
      | some (.error _) => some (s.setPhase r .ended)
      | some (.ok ()) => some ((s.popFence r ref).send r)
    | _ => none
  | .process ref pick => (s.flight.find? fun m => m.ref = ref).map fun m => s.process m pick
  | .ask r expired =>
    if s.phase r ≠ .asking then none
    else some (s.setPhase r
      (if s.lb.isServiceRestorePending = true ∧ expired = false then .waiting else .ended))
  | .retry r => if s.phase r ≠ .waiting then none else some (s.send r)
  | .finish r loop => match s.phase r with
    | .running serverId => some (s.releaseServer r serverId loop)
    | _ => none
  | .clear i => match s.clearing[i]? with
    | none => none
    | some (r, ref) => if s.resolved ref = none then none
      else some { s.popFence r ref with clearing := s.clearing.eraseIdx i }
  | .cancel r => match s.phase r with
    | .running _ => none
    | _ => some (s.setPhase r .ended)
  | .other c =>
    if Foreign c then some { s with lb := (RouterSystem.call ⟨s.lb, [], ∅⟩ c).lb } else none

/-- A client that has sent nothing, and any load balancer. -/
def Fresh : Prop :=
  s.flight = [] ∧ s.log = [] ∧ s.sent = [] ∧ s.fences = ∅ ∧ s.clearing = [] ∧
    (∀ ref, s.resolved ref = none) ∧ ∀ r, s.attempt r = 0 ∧ s.phase r = .ended ∧ s.admitted r = none

def machine : Machine ClientSystem ClientLabel where
  init := Fresh
  step s l s' := s.step l = some s'

/-! ## The invariant -/

variable {s} {t : ClientSystem} {r : String}

/-- A release of the request that the load balancer has still to process. -/
def Outstanding (s : ClientSystem) (r : String) (m : Message) : Prop :=
  m ∈ s.flight ∧ m.requestId = r ∧ ∃ serverId, m.call = .release serverId

/-- Where an attempt may stand while this release is outstanding. -/
def Before : ClientPhase → Nat → Prop
  | .fenced ref', ref => ref' = ref
  | .ended, _ => True
  | _, _ => False

/-- The fence of a request is its outstanding release, and no later attempt has got past it. -/
structure FenceOk (s : ClientSystem) (r : String) : Prop where
  sent : ∀ m ∈ s.flight, m.requestId = r → m.attempt ≤ s.attempt r
  acquired : ∀ k, Processed.acquired r k ∈ s.log → k ≤ s.attempt r
  fence : ∀ m, s.Outstanding r m → s.fences.get? r = some m.ref
  phase : ∀ m, s.Outstanding r m → Before (s.phase r) m.ref
  newest : ∀ m, s.Outstanding r m → ∀ m' ∈ s.flight, m'.requestId = r → m'.attempt ≤ m.attempt
  last : ∀ m, s.Outstanding r m → ∀ k, Processed.acquired r k ∈ s.log → k ≤ m.attempt

/-- The fences of every request, and what the load balancer has processed under them. -/
structure FencesOk (s : ClientSystem) : Prop where
  refs : ∀ m ∈ s.flight, m.ref < s.refs ∧ s.resolved m.ref = none
  unused : ∀ ref, s.refs ≤ ref → s.resolved ref = none
  unique : ∀ m ∈ s.flight, ∀ m' ∈ s.flight, m.ref = m'.ref → m = m'
  requests : ∀ r, r ≠ "" → s.FenceOk r
  delivered : ∀ r j, (r, j) ∈ s.sent →
    (∃ m, s.Outstanding r m ∧ m.attempt = j) ∨ ∃ x, Processed.released r j x ∈ s.log
  admitted : ∀ r k, s.admitted r = some k → Processed.acquired r k ∈ s.log
  ordered : ∀ r, r ≠ "" → s.log.Pairwise fun a b => ∀ k j x,
    a = .acquired r k → b = .released r j x → k ≤ j
  settled : ∀ r j k, r ≠ "" → Processed.released r j (some k) ∈ s.log → k ≤ j

namespace FenceOk

/-- Nothing is outstanding: the attempt may go anywhere. -/
theorem of_idle (hidle : ∀ m, ¬ s.Outstanding r m)
    (hsent : ∀ m ∈ s.flight, m.requestId = r → m.attempt ≤ s.attempt r)
    (hacquired : ∀ k, Processed.acquired r k ∈ s.log → k ≤ s.attempt r) : s.FenceOk r where
  sent := hsent
  acquired := hacquired
  fence m hm := (hidle m hm).elim
  phase m hm := (hidle m hm).elim
  newest m hm := (hidle m hm).elim
  last m hm := (hidle m hm).elim

/-- Nothing is sent, what is processed was sent, and the fence of what is outstanding stays. -/
theorem mono (h : s.FenceOk r)
    (hflight : ∀ m ∈ t.flight, m.requestId = r → m ∈ s.flight)
    (hlog : ∀ k, Processed.acquired r k ∈ t.log → Processed.acquired r k ∈ s.log ∨
      ∃ m ∈ s.flight, m.requestId = r ∧ m.attempt = k)
    (hattempt : s.attempt r ≤ t.attempt r)
    (hfence : ∀ m, s.Outstanding r m → t.Outstanding r m → s.fences.get? r = some m.ref →
      t.fences.get? r = some m.ref)
    (hphase : ∀ m, s.Outstanding r m → t.Outstanding r m → Before (s.phase r) m.ref →
      s.fences.get? r = some m.ref → Before (t.phase r) m.ref) : t.FenceOk r := by
  have hout : ∀ m, t.Outstanding r m → s.Outstanding r m :=
    fun m ⟨hm, hr, hx⟩ => ⟨hflight m hm hr, hr, hx⟩
  refine ⟨fun m hm hr => (h.sent m (hflight m hm hr) hr).trans hattempt, fun k hk => ?_,
    fun m hm => hfence m (hout m hm) hm (h.fence m (hout m hm)),
    fun m hm => hphase m (hout m hm) hm (h.phase m (hout m hm)) (h.fence m (hout m hm)),
    fun m hm m' hm' hr => h.newest m (hout m hm) m' (hflight m' hm' hr) hr, fun m hm k hk => ?_⟩
  · rcases hlog k hk with hk | ⟨m', hm', hr, rfl⟩
    · exact (h.acquired k hk).trans hattempt
    · exact (h.sent m' hm' hr).trans hattempt
  · rcases hlog k hk with hk | ⟨m', hm', hr, rfl⟩
    · exact h.last m (hout m hm) k hk
    · exact h.newest m (hout m hm) m' hm' hr

end FenceOk

/-- A step that neither sends nor processes anything. -/
theorem FencesOk.quiet (h : s.FencesOk) (hflight : t.flight = s.flight) (hlog : t.log = s.log)
    (hrefs : t.refs = s.refs) (hresolved : t.resolved = s.resolved) (hsent : t.sent = s.sent)
    (hadmitted : t.admitted = s.admitted) (hattempt : ∀ r, s.attempt r ≤ t.attempt r)
    (hfence : ∀ r m, s.Outstanding r m → s.fences.get? r = some m.ref →
      t.fences.get? r = some m.ref)
    (hphase : ∀ r m, r ≠ "" → s.Outstanding r m → s.fences.get? r = some m.ref →
      Before (s.phase r) m.ref → Before (t.phase r) m.ref) : t.FencesOk where
  refs := by rw [hflight, hrefs, hresolved]; exact h.refs
  unused := by rw [hrefs, hresolved]; exact h.unused
  unique := by rw [hflight]; exact h.unique
  requests r hr := (h.requests r hr).mono (fun m hm _ => hflight ▸ hm) (fun k hk => .inl (hlog ▸ hk))
    (hattempt r) (fun m hm _ => hfence r m hm)
    fun m hm _ hp hf => hphase r m hr hm hf hp
  delivered := by
    simp only [Outstanding, hsent, hflight, hlog]
    exact h.delivered
  admitted := by rw [hadmitted, hlog]; exact h.admitted
  ordered := by rw [hlog]; exact h.ordered
  settled := by rw [hlog]; exact h.settled

/-- An attempt stops somewhere. -/
theorem FencesOk.setPhase (h : s.FencesOk) {p : ClientPhase}
    (hp : r ≠ "" → ∀ m, s.Outstanding r m → s.fences.get? r = some m.ref →
      Before (s.phase r) m.ref → Before p m.ref) : (s.setPhase r p).FencesOk := by
  refine h.quiet rfl rfl rfl rfl rfl rfl (fun _ => le_rfl) (fun _ _ _ hf => hf)
    fun r' m hr' hm hf hb => ?_
  change Before (Function.update s.phase r p r') m.ref
  by_cases h' : r' = r
  · subst h'
    rw [Function.update_self]
    exact hp hr' m hm hf hb
  · rw [Function.update_of_ne h']
    exact hb

theorem FencesOk.ended (h : s.FencesOk) : (s.setPhase r .ended).FencesOk :=
  h.setPhase fun _ _ _ _ _ => trivial

/-- Only a fence whose release has been processed is popped. -/
theorem FencesOk.popFence (h : s.FencesOk) {ref : Nat} (href : s.resolved ref ≠ none) :
    (s.popFence r ref).FencesOk := by
  refine h.quiet rfl rfl rfl rfl rfl rfl (fun _ => le_rfl) (fun r' m hm hf => ?_)
    fun _ _ _ _ _ hb => hb
  change (if s.fences.get? r = some ref then s.fences.erase r else s.fences).get? r' = some m.ref
  split
  · rename_i hpop
    refine (s.fences.get?_erase_ne fun hrr => ?_).trans hf
    subst hrr
    cases hpop.symm.trans hf
    exact href (h.refs m hm.1).2
  · exact hf

/-- An attempt past the fence has nothing outstanding. -/
theorem FencesOk.idle (h : s.FencesOk) (hr : r ≠ "") (hp : ∀ ref, ¬ Before (s.phase r) ref)
    (m : Message) : ¬ s.Outstanding r m := fun hm => hp m.ref ((h.requests r hr).phase m hm)

/-- The current attempt of a request with nothing outstanding sends a call. -/
theorem FencesOk.sends (h : s.FencesOk) {m : Message}
    (hm : m.ref = s.refs ∧ m.requestId = r ∧ m.attempt = s.attempt r)
    (hidle : r ≠ "" → ∀ m, ¬ s.Outstanding r m) (hflight : t.flight = s.flight ++ [m])
    (hlog : t.log = s.log) (hrefs : t.refs = s.refs + 1) (hresolved : t.resolved = s.resolved)
    (hsent : t.sent = s.sent ∨ t.sent = s.sent ++ [(r, s.attempt r)] ∧ t.Outstanding r m)
    (hadmitted : t.admitted = s.admitted) (hattempt : t.attempt = s.attempt)
    (hother : ∀ r', r' ≠ r → t.fences.get? r' = s.fences.get? r' ∧ t.phase r' = s.phase r')
    (hfence : r ≠ "" → t.Outstanding r m →
      t.fences.get? r = some m.ref ∧ Before (t.phase r) m.ref) : t.FencesOk where
  refs m' hm' := by
    rw [hflight, List.mem_append, List.mem_singleton] at hm'
    rw [hrefs, hresolved]
    rcases hm' with hm' | rfl
    · exact ⟨(h.refs m' hm').1.trans (Nat.lt_succ_self _), (h.refs m' hm').2⟩
    · exact ⟨by omega, h.unused _ hm.1.ge⟩
  unused ref href := by
    rw [hresolved]
    exact h.unused ref (by omega)
  unique m₁ hm₁ m₂ hm₂ heq := by
    rw [hflight, List.mem_append, List.mem_singleton] at hm₁ hm₂
    rcases hm₁ with hm₁ | rfl <;> rcases hm₂ with hm₂ | rfl
    · exact h.unique m₁ hm₁ m₂ hm₂ heq
    · have := (h.refs m₁ hm₁).1
      omega
    · have := (h.refs m₂ hm₂).1
      omega
    · rfl
  requests r' hr' := by
    by_cases hrr : r' = r
    · -- only the call just sent can be outstanding
      subst hrr
      have hout : ∀ m', t.Outstanding r' m' → m' = m := by
        rintro m' ⟨hm', hreq, hx⟩
        rw [hflight, List.mem_append, List.mem_singleton] at hm'
        exact hm'.resolve_left fun hold => hidle hr' m' ⟨hold, hreq, hx⟩
      have hold := h.requests r' hr'
      have hle : ∀ m' ∈ t.flight, m'.requestId = r' → m'.attempt ≤ s.attempt r' := by
        intro m' hm' hreq
        rw [hflight, List.mem_append, List.mem_singleton] at hm'
        rcases hm' with hm' | rfl
        · exact hold.sent m' hm' hreq
        · exact hm.2.2.le
      refine ⟨hattempt ▸ hle, fun k hk => hattempt ▸ hold.acquired k (hlog ▸ hk), fun m' hm' => ?_,
        fun m' hm' => ?_, fun m' hm' => ?_, fun m' hm' k hk => ?_⟩ <;>
        cases hout m' hm'
      · exact (hfence hr' hm').1
      · exact (hfence hr' hm').2
      · exact hm.2.2 ▸ hle
      · exact hm.2.2 ▸ hold.acquired k (hlog ▸ hk)
    · have hne : m.requestId ≠ r' := fun heq => hrr (heq.symm.trans hm.2.1)
      refine (h.requests r' hr').mono (fun m' hm' hreq => ?_) (fun k hk => .inl (hlog ▸ hk))
        (congrFun hattempt r').ge (fun _ _ _ hf => (hother r' hrr).1.trans hf)
        fun _ _ _ hb _ => (hother r' hrr).2 ▸ hb
      rw [hflight, List.mem_append, List.mem_singleton] at hm'
      exact hm'.resolve_right fun heq => hne (heq ▸ hreq)
  delivered r' j hj := by
    have hold : (r', j) ∈ s.sent →
        (∃ m, t.Outstanding r' m ∧ m.attempt = j) ∨ ∃ x, Processed.released r' j x ∈ t.log := by
      intro hj
      rcases h.delivered r' j hj with ⟨m', ⟨hm', hreq⟩, hk⟩ | hx
      · exact .inl ⟨m', ⟨hflight ▸ List.mem_append_left _ hm', hreq⟩, hk⟩
      · exact .inr (hlog ▸ hx)
    rcases hsent with hsent | ⟨hsent, hm'⟩
    · exact hold (hsent ▸ hj)
    · rw [hsent, List.mem_append, List.mem_singleton, Prod.mk.injEq] at hj
      rcases hj with hj | ⟨rfl, rfl⟩
      · exact hold hj
      · exact .inl ⟨m, hm', hm.2.2⟩
  admitted := by rw [hadmitted, hlog]; exact h.admitted
  ordered := by rw [hlog]; exact h.ordered
  settled := by rw [hlog]; exact h.settled

/-- The attempt calls `acquire_server`. -/
theorem FencesOk.send (h : s.FencesOk) (hidle : r ≠ "" → ∀ m, ¬ s.Outstanding r m) :
    (s.send r).FencesOk := by
  refine h.sends (m := ⟨s.refs, r, s.attempt r, .acquire⟩) ⟨rfl, rfl, rfl⟩ hidle rfl rfl rfl rfl
    (.inl rfl) rfl rfl (fun r' hr' => ⟨rfl, Function.update_of_ne hr' _ _⟩) ?_
  rintro - ⟨-, -, x, hx⟩
  cases hx

/-- The attempt calls `release_server`. -/
theorem FencesOk.releaseServer (h : s.FencesOk) (hidle : r ≠ "" → ∀ m, ¬ s.Outstanding r m)
    {serverId : String} {loop : Bool} : (s.releaseServer r serverId loop).FencesOk := by
  have hfences : r ≠ "" → (s.releaseServer r serverId loop).fences = s.fences.insert r s.refs :=
    fun hr => if_neg hr
  refine h.sends (m := ⟨s.refs, r, s.attempt r, .release serverId⟩) ⟨rfl, rfl, rfl⟩ hidle rfl rfl rfl
    rfl (.inr ⟨rfl, List.mem_append_right _ (List.mem_singleton.2 rfl), rfl, serverId, rfl⟩) rfl rfl
    (fun r' hr' => ⟨?_, Function.update_of_ne hr' _ _⟩) fun hr _ => ⟨?_, ?_⟩
  · change (if r = "" then s.fences else s.fences.insert r s.refs).get? r' = _
    split
    · rfl
    · exact s.fences.get?_insert_ne _ (Ne.symm hr')
  · rw [hfences hr]
    exact s.fences.get?_insert_self r s.refs
  · change Before (Function.update s.phase r .ended r) s.refs
    rw [Function.update_self]
    trivial

/-! ## What the load balancer processes -/

theorem mem_process {m m' : Message} :
    m' ∈ s.flight.filter (fun m' => m'.ref ≠ m.ref) ↔ m' ∈ s.flight ∧ m'.ref ≠ m.ref := by
  rw [List.mem_filter, decide_eq_true_iff]

/-- A call has been processed: what is outstanding stays so, and has not overtaken anything. -/
theorem FencesOk.processed (h : s.FencesOk) {m : Message} (hm : m ∈ s.flight) {e : Processed}
    (hflight : t.flight = s.flight.filter fun m' => m'.ref ≠ m.ref) (hlog : t.log = s.log ++ [e])
    (hrefs : t.refs = s.refs) (hsent : t.sent = s.sent) (hfences : t.fences = s.fences)
    (hattempt : t.attempt = s.attempt)
    (hresolved : ∀ ref, ref ≠ m.ref → t.resolved ref = s.resolved ref)
    (hphase : ∀ r m, r ≠ "" → t.Outstanding r m → Before (s.phase r) m.ref →
      Before (t.phase r) m.ref)
    (hadmitted : ∀ r k, t.admitted r = some k → s.admitted r = some k ∨ e = .acquired r k)
    (he : e = .acquired m.requestId m.attempt ∨ s.Outstanding m.requestId m ∧
      ∃ x, e = .released m.requestId m.attempt x ∧ ∀ k, x = some k →
        s.admitted m.requestId = some k)
    (hrel : ∀ x, m.call = .release x → ∃ x, e = .released m.requestId m.attempt x) :
    t.FencesOk := by
  have hflight' : ∀ m', m' ∈ t.flight ↔ m' ∈ s.flight ∧ m'.ref ≠ m.ref := by
    rw [hflight]
    exact fun m' => mem_process
  have hlog' : ∀ e', e' ∈ t.log ↔ e' ∈ s.log ∨ e' = e := by
    rw [hlog]
    exact fun e' => by rw [List.mem_append, List.mem_singleton]
  have hlt : m.ref < s.refs := (h.refs m hm).1
  refine ⟨fun m' hm' => ?_, fun ref href => ?_, fun m₁ h₁ m₂ h₂ => ?_, fun r hr => ?_,
    fun r j hj => ?_, fun r k hk => ?_, fun r hr => ?_, fun r j k hr hk => ?_⟩
  · rw [hflight'] at hm'
    rw [hrefs, hresolved m'.ref hm'.2]
    exact h.refs m' hm'.1
  · rw [hrefs] at href
    rw [hresolved ref (by omega)]
    exact h.unused ref href
  · exact h.unique m₁ ((hflight' m₁).1 h₁).1 m₂ ((hflight' m₂).1 h₂).1
  · refine (h.requests r hr).mono (fun m' hm' _ => ((hflight' m').1 hm').1) (fun k hk => ?_)
      (congrFun hattempt r).ge (fun _ _ _ hf => hfences ▸ hf)
      fun m' _ hm' hb _ => hphase r m' hr hm' hb
    rcases (hlog' _).1 hk with hk | hk
    · exact .inl hk
    · rcases he with he | ⟨-, x, he, -⟩
      · cases hk.trans he
        exact .inr ⟨m, hm, rfl, rfl⟩
      · cases hk.trans he
  · rcases h.delivered r j (hsent ▸ hj) with ⟨m', ⟨hm', hreq, x, hx⟩, hk⟩ | ⟨x, hx⟩
    · by_cases href : m'.ref = m.ref
      · cases h.unique m' hm' m hm href
        obtain ⟨y, hy⟩ := hrel x hx
        exact .inr ⟨y, (hlog' _).2 (.inr (by rw [hy, hreq, hk]))⟩
      · exact .inl ⟨m', ⟨(hflight' m').2 ⟨hm', href⟩, hreq, x, hx⟩, hk⟩
    · exact .inr ⟨x, (hlog' _).2 (.inl hx)⟩
  · rcases hadmitted r k hk with hk | hk
    · exact (hlog' _).2 (.inl (h.admitted r k hk))
    · exact (hlog' _).2 (.inr hk.symm)
  · rw [hlog, List.pairwise_append]
    refine ⟨h.ordered r hr, List.pairwise_singleton _ _, fun a ha b hb k j x hak hbj => ?_⟩
    rw [List.mem_singleton] at hb
    subst hak
    rcases he with he | ⟨hout, y, he, -⟩
    · cases (hbj.symm.trans hb).trans he
    · cases (hbj.symm.trans hb).trans he
      exact (h.requests _ hr).last m hout k ha
  · rcases (hlog' _).1 hk with hk | hk
    · exact h.settled r j k hr hk
    · rcases he with he | ⟨hout, y, he, hy⟩
      · cases hk.trans he
      · cases hk.trans he
        exact (h.requests _ hr).last m hout k (h.admitted _ k (hy k rfl))

theorem reply_fields (r : String) (k : Nat) (p : ClientPhase) :
    (s.reply r k p).flight = s.flight ∧ (s.reply r k p).log = s.log ∧
      (s.reply r k p).refs = s.refs ∧ (s.reply r k p).sent = s.sent ∧
      (s.reply r k p).fences = s.fences ∧ (s.reply r k p).attempt = s.attempt ∧
      (s.reply r k p).resolved = s.resolved ∧ (s.reply r k p).admitted = s.admitted := by
  unfold reply
  split <;> exact ⟨rfl, rfl, rfl, rfl, rfl, rfl, rfl, rfl⟩

/-- A reply moves an attempt that is past its fence. -/
theorem before_reply {k : Nat} {p : ClientPhase} {r' : String} {ref : Nat} (h : Before (s.phase r') ref) :
    Before ((s.reply r k p).phase r') ref := by
  unfold reply
  split
  · rename_i hr
    have hne : r' ≠ r := by
      rintro rfl
      rw [hr.2] at h
      exact h
    change Before (Function.update s.phase r p r') ref
    rwa [Function.update_of_ne hne]
  · exact h

/-- `acquire_server` is processed, whatever comes of it. -/
theorem FencesOk.reply (h : s.FencesOk) {m : Message} (hm : m ∈ s.flight) (hcall : m.call = .acquire)
    (hflight : t.flight = s.flight.filter fun m' => m'.ref ≠ m.ref)
    (hlog : t.log = s.log ++ [.acquired m.requestId m.attempt]) (hrefs : t.refs = s.refs)
    (hsent : t.sent = s.sent) (hfences : t.fences = s.fences) (hattempt : t.attempt = s.attempt)
    (hresolved : t.resolved = s.resolved) (hphase : t.phase = s.phase)
    (hadmitted : t.admitted = s.admitted ∨
      t.admitted = Function.update s.admitted m.requestId (some m.attempt)) (p : ClientPhase) :
    (t.reply m.requestId m.attempt p).FencesOk := by
  obtain ⟨f₁, f₂, f₃, f₄, f₅, f₆, f₇, f₈⟩ := reply_fields (s := t) m.requestId m.attempt p
  refine h.processed hm (f₁.trans hflight) (f₂.trans hlog) (f₃.trans hrefs) (f₄.trans hsent)
    (f₅.trans hfences) (f₆.trans hattempt) (fun ref _ => by rw [f₇, hresolved])
    (fun r m' _ _ hb => before_reply (hphase ▸ hb)) (fun r k hk => ?_) (.inl rfl)
    fun x hx => by rw [hcall] at hx; cases hx
  rw [f₈] at hk
  rcases hadmitted with hadm | hadm
  · exact .inl (hadm ▸ hk)
  · rw [hadm, Function.update_apply] at hk
    split at hk
    · rename_i hr
      cases hk
      exact .inr (by rw [hr])
    · exact .inl hk

theorem FencesOk.process (h : s.FencesOk) {m : Message} (hm : m ∈ s.flight) (pick : String) :
    (s.process m pick).FencesOk := by
  unfold ClientSystem.process
  split
  · rename_i hcall
    unfold processAcquire
    dsimp only
    split
    · refine h.reply hm hcall ?_ ?_ ?_ ?_ ?_ ?_ ?_ ?_ (.inr ?_) _ <;> rfl
    · refine h.reply hm hcall ?_ ?_ ?_ ?_ ?_ ?_ ?_ ?_ (.inl ?_) _ <;> rfl
  · rename_i serverId hcall
    refine h.processed hm rfl rfl rfl rfl rfl rfl (fun ref href => Function.update_of_ne href _ _)
      (fun _ _ _ _ hb => hb) (fun _ _ hk => .inl hk)
      (.inr ⟨⟨hm, rfl, serverId, hcall⟩, _, rfl, fun k hk => ?_⟩) fun _ _ => ⟨_, rfl⟩
    split at hk
    · exact hk
    · cases hk

/-! ## Every step, every run -/

theorem fresh_ok (h : s.Fresh) : s.FencesOk := by
  obtain ⟨hflight, hlog, hsent, hfences, -, hresolved, hr⟩ := h
  refine ⟨fun m hm => ?_, fun ref _ => hresolved ref, fun m hm => ?_, fun r _ => ?_,
    fun r j hj => ?_, fun r k hk => ?_, fun r _ => ?_, fun r j k _ hk => ?_⟩
  · simp [hflight] at hm
  · simp [hflight] at hm
  · exact .of_idle (fun m hm => by simp [Outstanding, hflight] at hm)
      (fun m hm => by simp [hflight] at hm) fun k hk => by simp [hlog] at hk
  · simp [hsent] at hj
  · simp [(hr r).2.2] at hk
  · simp [hlog]
  · simp [hlog] at hk

theorem FencesOk.step (h : s.FencesOk) {l : ClientLabel} (hs : s.step l = some t) : t.FencesOk := by
  cases l with
  | begin r =>
    simp only [ClientSystem.step, Option.ite_none_left_eq_some] at hs
    obtain ⟨hp, hs⟩ := hs
    -- the attempt has its number before it looks for a fence
    have hnext : ({ s with attempt := Function.update s.attempt r (s.attempt r + 1) } :
        ClientSystem).FencesOk := by
      refine h.quiet rfl rfl rfl rfl rfl rfl (fun r' => ?_) (fun _ _ _ hf => hf)
        fun _ _ _ _ _ hb => hb
      by_cases hr : r' = r
      · subst hr
        simp
      · simp [Function.update_of_ne hr]
    split at hs
    · rename_i ref hf
      cases hs
      exact hnext.setPhase fun _ m _ hm _ => Option.some.inj (hf.symm.trans hm)
    · rename_i hf
      cases hs
      refine hnext.send fun hr m hm => ?_
      cases hf.symm.trans ((h.requests r hr).fence m hm)
  | pass r =>
    simp only [ClientSystem.step] at hs
    split at hs
    · rename_i ref hp
      split at hs
      · cases hs
      · cases hs
        exact h.ended
      · rename_i hres
        cases hs
        -- what the attempt has waited for is the outstanding release, if there is one
        have hidle : r ≠ "" → ∀ m, ¬ s.Outstanding r m := by
          intro hr m hm
          have hb := (h.requests r hr).phase m hm
          rw [hp] at hb
          cases hb
          cases (h.refs m hm.1).2.symm.trans hres
        exact (h.popFence (by rw [hres]; exact Option.some_ne_none _)).send hidle
    · cases hs
  | process ref pick =>
    obtain ⟨m, hm, rfl⟩ := Option.map_eq_some_iff.1 hs
    exact h.process (List.mem_of_find?_eq_some hm) pick
  | ask r expired =>
    simp only [ClientSystem.step, ne_eq, Option.ite_none_left_eq_some, not_not] at hs
    obtain ⟨hp, hs⟩ := hs
    cases hs
    refine h.setPhase fun _ m _ _ hb => ?_
    rw [hp] at hb
    exact hb.elim
  | retry r =>
    simp only [ClientSystem.step, ne_eq, Option.ite_none_left_eq_some, not_not] at hs
    obtain ⟨hp, hs⟩ := hs
    cases hs
    exact h.send fun hr => h.idle hr (by rw [hp]; exact fun _ => id)
  | finish r loop =>
    simp only [ClientSystem.step] at hs
    split at hs
    · rename_i serverId hp
      cases hs
      exact h.releaseServer fun hr => h.idle hr (by rw [hp]; exact fun _ => id)
    · cases hs
  | clear i =>
    simp only [ClientSystem.step] at hs
    split at hs
    · cases hs
    · rename_i r ref hi
      rw [Option.ite_none_left_eq_some] at hs
      obtain ⟨href, hs⟩ := hs
      cases hs
      exact (h.popFence (r := r) href).quiet rfl rfl rfl rfl rfl rfl (fun _ => le_rfl)
        (fun _ _ _ hf => hf) fun _ _ _ _ _ hb => hb
  | cancel r =>
    simp only [ClientSystem.step] at hs
    split at hs
    · cases hs
    · cases hs
      exact h.ended
  | other c =>
    simp only [ClientSystem.step, Option.ite_none_right_eq_some] at hs
    obtain ⟨-, hs⟩ := hs
    cases hs
    exact h.quiet rfl rfl rfl rfl rfl rfl (fun _ => le_rfl) (fun _ _ _ hf => hf)
      fun _ _ _ _ _ hb => hb

theorem reachable_ok (h : machine.Reachable s) : s.FencesOk :=
  h.invariant (fun _ => fresh_ok) fun _ _ _ hi hs _ => hi.step hs

/-- What the load balancer has processed for a request: before an acquire of an attempt, every release
sent for an earlier one; and no release settles an attempt later than its own. -/
theorem release_precedes (h : machine.Reachable s) (hr : r ≠ "") :
    (∀ earlier later k, s.log = earlier ++ .acquired r k :: later →
      (∀ j, j < k → (r, j) ∈ s.sent → ∃ x, Processed.released r j x ∈ earlier) ∧
      ∀ j x, Processed.released r j x ∈ later → k ≤ j) ∧
    ∀ j k, Processed.released r j (some k) ∈ s.log → k ≤ j := by
  have hok := reachable_ok h
  refine ⟨fun earlier later k hlog => ?_, fun j k => hok.settled r j k hr⟩
  have hlater : ∀ j x, Processed.released r j x ∈ later → k ≤ j := by
    intro j x hx
    have hord := hok.ordered r hr
    rw [hlog, List.pairwise_append, List.pairwise_cons] at hord
    exact hord.2.1.1 _ hx k j x rfl rfl
  refine ⟨fun j hjk hj => ?_, hlater⟩
  have hk : Processed.acquired r k ∈ s.log := by
    rw [hlog]
    exact List.mem_append_right _ List.mem_cons_self
  rcases hok.delivered r j hj with ⟨m, hm, rfl⟩ | ⟨x, hx⟩
  · have := (hok.requests r hr).last m hm k hk
    omega
  · rw [hlog, List.mem_append, List.mem_cons] at hx
    rcases hx with hx | hx | hx
    · exact ⟨x, hx⟩
    · cases hx
    · have := hlater j x hx
      omega

/-- A client of a load balancer with one server. -/
def fresh : ClientSystem where
  lb := .init (Dict.insert ∅ "s0" 0) ∅
  flight := []
  resolved _ := none
  fences := ∅
  clearing := []
  refs := 0
  attempt _ := 0
  phase _ := .ended
  sent := []
  admitted _ := none
  log := []

/-- The second attempt of a request waits for the release of the first; another request does not. -/
theorem release_precedes_retried : ∃ s, machine.Reachable s ∧
    s.log = [.acquired "a" 1, .acquired "b" 1, .released "a" 1 (some 1), .acquired "a" 2] ∧
    ∃ x, Processed.released "a" 1 x ∈
      [.acquired "a" 1, .acquired "b" 1, .released "a" 1 (some 1)] := by
  have hrun : ([.begin "a", .process 0 "s0", .finish "a" true, .begin "a", .begin "b",
      .process 2 "s0", .process 1 "s0", .pass "a", .clear 0, .process 3 "s0"].foldlM
        (fun s l => step s l) fresh).map (fun s => (s.log, s.sent)) =
      some ([.acquired "a" 1, .acquired "b" 1, .released "a" 1 (some 1), .acquired "a" 2],
        [("a", 1)]) := by decide +kernel
  obtain ⟨s, hs, heq⟩ := Option.map_eq_some_iff.1 hrun
  have hreach : machine.Reachable s :=
    .steps (fun hs => ⟨hs, trivial⟩) ⟨fresh, ⟨rfl, rfl, rfl, rfl, rfl, fun _ => rfl,
      fun _ => ⟨rfl, rfl, rfl⟩⟩, .refl _⟩ hs
  rw [Prod.mk.injEq] at heq
  refine ⟨s, hreach, heq.1, ?_⟩
  refine ((release_precedes hreach (by decide)).1 [.acquired "a" 1, .acquired "b" 1,
    .released "a" 1 (some 1)] [] 2 heq.1).1 1 (by decide) ?_
  rw [heq.2]
  exact List.mem_singleton.2 rfl

end ClientSystem

end ReplicaLending
