import ReplicaLending.Client.Wrapper
import ReplicaLending.Router.Admissions
/-!
# The continuation of an aborted generation

Every attempt of a request continues where the aborted ones before it have stopped. What carries it:
while an attempt runs, up to the confirmation of its output, its request is ADMITTED on its server
and has no proof; the proof that the confirmation leaves stays until the next attempt is admitted.
-/

namespace ReplicaLending

/-! ## What the client does between two calls of the wrapper -/

namespace ClientSystem

variable {s t : ClientSystem} {l : ClientLabel} {r r' : String}

/-- At most one call of the load balancer is executed in a step. -/
theorem step_lb (hs : s.step l = some t) : t.lb = s.lb ∨ ∃ c, t.lb = s.lb.after c ∧
    ∀ now j cl d, c = .confirmContinuation now j cl d → l = .other c := by
  cases l with
  | begin r =>
    simp only [step, Option.ite_none_left_eq_some] at hs
    obtain ⟨-, hs⟩ := hs
    split at hs <;> cases hs <;> exact .inl rfl
  | pass r =>
    simp only [step] at hs
    split at hs
    · split at hs <;> cases hs <;> exact .inl rfl
    · cases hs
  | process ref pick =>
    obtain ⟨m, -, rfl⟩ := Option.map_eq_some_iff.1 hs
    right
    unfold process
    split
    · refine ⟨.acquireServer m.requestId pick, ?_, (by simp)⟩
      unfold processAcquire reply
      rw [GlobalRequestLoadBalancer.after]
      dsimp only
      split <;> split <;> simp [*, setPhase]
    · rename_i x hx
      exact ⟨.releaseServer x m.requestId none, rfl, (by simp)⟩
  | ask r expired =>
    simp only [step, Option.ite_none_left_eq_some] at hs
    obtain ⟨-, hs⟩ := hs
    cases hs
    exact .inl rfl
  | retry r =>
    simp only [step, Option.ite_none_left_eq_some] at hs
    obtain ⟨-, hs⟩ := hs
    cases hs
    exact .inl rfl
  | finish r loop =>
    simp only [step] at hs
    split at hs
    · cases hs
      exact .inl rfl
    · cases hs
  | clear i =>
    simp only [step] at hs
    split at hs
    · cases hs
    · rw [Option.ite_none_left_eq_some] at hs
      obtain ⟨-, hs⟩ := hs
      cases hs
      exact .inl rfl
  | cancel r =>
    simp only [step] at hs
    split at hs
    · cases hs
    · cases hs
      exact .inl rfl
  | other c =>
    simp only [step, Option.ite_none_right_eq_some] at hs
    obtain ⟨-, hs⟩ := hs
    cases hs
    exact .inr ⟨c, GlobalRequestLoadBalancer.call_lb _ c, fun _ _ _ _ _ => rfl⟩

/-- What a step that ends no attempt means to one request: it runs on, stays ended or begins, and is
admitted where it runs. -/
structure Moved (s : ClientSystem) (l : ClientLabel) (t : ClientSystem) (r : String) : Prop where
  running : ∀ x, s.phase r = .running x → t.phase r = .running x
  ended : l ≠ .begin r → s.phase r = .ended → t.phase r = .ended
  admitted : ∀ x, t.phase r = .running x → (s.phase r = .running x → s.lb.AdmittedOn x r) →
    t.lb.AdmittedOn x r

/-- One request goes from one phase to another; neither is that of a running attempt. -/
theorem Moved.phase {p : ClientPhase} (hlb : t.lb = s.lb)
    (hphase : t.phase = Function.update s.phase r' p) (hs : ∀ x, s.phase r' ≠ .running x)
    (hp : ∀ x, p ≠ .running x) (hend : s.phase r' = .ended → l = .begin r' ∨ p = .ended) :
    Moved s l t r := by
  by_cases hr : r = r'
  · subst hr
    refine ⟨fun x hx => absurd hx (hs x), fun hl hx => ?_, fun x hx => ?_⟩
    · rw [hphase, Function.update_self]
      exact (hend hx).resolve_left hl
    · rw [hphase, Function.update_self] at hx
      exact absurd hx (hp x)
  · have hsame : t.phase r = s.phase r := by rw [hphase, Function.update_of_ne hr]
    exact ⟨fun _ h => hsame.trans h, fun _ h => hsame.trans h,
      fun x hx h => hlb ▸ h (hsame.symm.trans hx)⟩

/-- The phases stay, and the call of the load balancer ends no admission of the request. -/
theorem Moved.after {c : RouterCall} (hlb : t.lb = s.lb.after c) (hphase : t.phase = s.phase)
    (hc : ∀ x, s.phase r = .running x → ¬ GlobalRequestLoadBalancer.Ends r c) : Moved s l t r := by
  refine ⟨fun x hx => hphase ▸ hx, fun _ hx => hphase ▸ hx, fun x hx h => ?_⟩
  rw [hphase] at hx
  rw [hlb]
  exact GlobalRequestLoadBalancer.admittedOn_stays (h hx) (hc x hx)

/-- `acquire_server` is processed: whoever it admits was not running, and runs where it is admitted. -/
theorem Moved.acquire (m : Message) (pick : String) : Moved s l (s.processAcquire m pick) r := by
  unfold processAcquire
  dsimp only
  split
  · rename_i x handle lb' he
    obtain ⟨hu, rfl, -, hact, hst, -⟩ := GlobalRequestLoadBalancer.acquireServer_ok he
    have hadm : lb'.AdmittedOn x m.requestId :=
      ⟨by rw [hact]; exact Dict.get?_insert_self .., by rw [hst]; exact Dict.get?_insert_self ..⟩
    have hother : ∀ y, m.requestId ≠ r → s.lb.AdmittedOn y r → lb'.AdmittedOn y r := by
      intro y hm h
      rw [GlobalRequestLoadBalancer.AdmittedOn, hact, hst, Dict.get?_insert_ne _ _ hm,
        Dict.get?_insert_ne _ _ hm]
      exact h
    unfold reply
    split
    · rename_i hw
      by_cases hr : r = m.requestId
      · subst hr
        have hw : s.phase m.requestId = .acquiring := hw.2
        refine ⟨fun y hy => ?_, fun _ hy => ?_, fun y hy _ => ?_⟩
        · rw [hw] at hy
          cases hy
        · rw [hw] at hy
          cases hy
        · change Function.update s.phase m.requestId (.running x) m.requestId = .running y at hy
          rw [Function.update_self] at hy
          cases hy
          exact hadm
      · have hphase : ∀ q, Function.update s.phase m.requestId q r = s.phase r :=
          fun q => Function.update_of_ne hr _ _
        refine ⟨fun y hy => (hphase _).trans hy, fun _ hy => (hphase _).trans hy, fun y hy h => ?_⟩
        exact hother y (Ne.symm hr) (h ((hphase _).symm.trans hy))
    · refine ⟨fun y hy => hy, fun _ hy => hy, fun y hy h => ?_⟩
      by_cases hr : m.requestId = r
      · subst hr
        exact absurd (.inl (h hy).2) hu
      · exact hother y hr (h hy)
  · rename_i e lb' he
    obtain rfl := GlobalRequestLoadBalancer.acquireServer_error he
    unfold reply
    split
    · rename_i hw
      refine Moved.phase rfl rfl (fun x hx => ?_) (fun x => ?_) fun hx => ?_
      · rw [show s.phase m.requestId = .acquiring from hw.2] at hx
        cases hx
      · split <;> simp
      · rw [show s.phase m.requestId = .acquiring from hw.2] at hx
        cases hx
    · exact ⟨fun _ h => h, fun _ h => h, fun x hx h => h hx⟩

theorem moved (hf : s.FencesOk) (hr : r ≠ "") (hs : s.step l = some t)
    (hfinish : ∀ j loop, l ≠ .finish j loop)
    (hconfirm : ∀ now j cl d, l ≠ .other (.confirmContinuation now j cl d)) : Moved s l t r := by
  cases l with
  | begin r' =>
    simp only [step, Option.ite_none_left_eq_some, not_not] at hs
    obtain ⟨hp, hs⟩ := hs
    have hnot : ∀ x, s.phase r' ≠ .running x := fun x hx => by rw [hp] at hx; cases hx
    split at hs <;> cases hs <;> exact .phase rfl rfl hnot (by simp) fun _ => .inl rfl
  | pass r' =>
    simp only [step] at hs
    split at hs
    · rename_i ref hp
      have hnot : ∀ x, s.phase r' ≠ .running x := fun x hx => by rw [hp] at hx; cases hx
      have hend : s.phase r' ≠ .ended := fun hx => by rw [hp] at hx; cases hx
      split at hs <;> cases hs <;> exact .phase rfl rfl hnot (by simp) fun hx => absurd hx hend
    · cases hs
  | process ref pick =>
    obtain ⟨m, hm, rfl⟩ := Option.map_eq_some_iff.1 hs
    unfold process
    split
    · let u := { s with flight := s.flight.filter fun m' => m'.ref ≠ m.ref }
      obtain ⟨hrun, hend, hadm⟩ : Moved u (.process ref pick) (u.processAcquire m pick) r :=
        .acquire m pick
      exact ⟨hrun, hend, hadm⟩
    · rename_i x hx
      refine .after (c := .releaseServer x m.requestId none) rfl rfl fun y hy hend => ?_
      -- an attempt that runs has no release outstanding
      refine hf.idle hr (fun ref => ?_) m ⟨List.mem_of_find?_eq_some hm, hend, x, hx⟩
      rw [hy]
      exact id
  | ask r' expired =>
    simp only [step, Option.ite_none_left_eq_some, not_not] at hs
    obtain ⟨hp, hs⟩ := hs
    cases hs
    refine .phase rfl rfl (fun x hx => ?_) (fun x => ?_) fun hx => ?_
    · rw [hp] at hx
      cases hx
    · split <;> simp
    · rw [hp] at hx
      cases hx
  | retry r' =>
    simp only [step, Option.ite_none_left_eq_some, not_not] at hs
    obtain ⟨hp, hs⟩ := hs
    cases hs
    refine .phase rfl rfl (fun x hx => ?_) (by simp) fun hx => ?_ <;> rw [hp] at hx <;> cases hx
  | finish r' loop => exact absurd rfl (hfinish r' loop)
  | clear i =>
    simp only [step] at hs
    split at hs
    · cases hs
    · rw [Option.ite_none_left_eq_some] at hs
      obtain ⟨-, hs⟩ := hs
      cases hs
      exact ⟨fun _ h => h, fun _ h => h, fun x hx h => h hx⟩
  | cancel r' =>
    simp only [step] at hs
    split at hs
    · cases hs
    · rename_i hp
      cases hs
      exact .phase rfl rfl hp (by simp) fun _ => .inr rfl
  | other c =>
    simp only [step, Option.ite_none_right_eq_some] at hs
    obtain ⟨hforeign, hs⟩ := hs
    cases hs
    refine .after (GlobalRequestLoadBalancer.call_lb _ c) rfl fun _ _ hend => ?_
    cases c with
    | releaseServer => exact hforeign
    | confirmContinuation now j cl d => exact hconfirm now j cl d rfl
    | _ => exact hend

end ClientSystem

/-! ## The invariant -/

/-- The prompt of an attempt, with the output that has come of it, is the first prompt and all that was
emitted. -/
def Generation.PrefixOk (g : Generation) : Prop :=
  match g.stage with
  | .ready => g.args.promptIds = g.original.promptIds ++ g.emitted
  | .aborted o => g.args.promptIds ++ o.tokenIds = g.original.promptIds ++ g.emitted
  | .returned o => o.Aborted → g.args.promptIds ++ o.tokenIds = g.original.promptIds ++ g.emitted
  | _ => True

namespace ContinuationSystem

variable {c : ContinuationClient} {s t : ContinuationSystem} {r : String}

structure GenerationOk (c : ContinuationClient) (s : ContinuationSystem) (r : String) : Prop where
  idle : (s.generation r).stage = .idle → s.client.phase r = .ended
  runs : (s.generation r).stage ≠ .idle → (s.generation r).stage ≠ .ready →
    ∃ x, s.client.phase r = .running x
  admitted : ∀ x, s.client.phase r = .running x →
    ((s.generation r).stage = .ready ∨ ∃ o, (s.generation r).stage = .aborted o) →
    s.client.lb.AdmittedOn x r
  prefixOk : (s.generation r).PrefixOk
  minTokens : (s.generation r).stage ≠ .idle → (s.generation r).args.minTokens =
    remaining (s.generation r).original.minTokens (s.generation r).emitted.length
  /-- A proof that the request has after an attempt of this `generate` is of the last one. -/
  proof : ∀ p, s.client.lb.continuationProofs.get? r = some p →
    ((s.generation r).stage = .ready ∧ 0 < (s.generation r).attempts ∨
      ∃ o, (s.generation r).stage = .returned o) →
    p.1 = c.clientId ∧
      p.2.1 = c.prefixDigest (s.generation r).original.promptIds (s.generation r).emitted

structure ContinuationOk (c : ContinuationClient) (s : ContinuationSystem) : Prop where
  fences : s.client.FencesOk
  proven : s.client.lb.Proven
  named : s.client.lb.DrainsNamed
  requests : ∀ r, r ≠ "" → s.GenerationOk c r

/-- Nothing is generated for the request in the step. -/
theorem GenerationOk.frame (h : s.GenerationOk c r) (hgen : t.generation r = s.generation r)
    (hrun : ∀ x, s.client.phase r = .running x → t.client.phase r = .running x)
    (hend : (s.generation r).stage = .idle → s.client.phase r = .ended → t.client.phase r = .ended)
    (hadm : ∀ x, t.client.phase r = .running x →
      (s.client.phase r = .running x → s.client.lb.AdmittedOn x r) → t.client.lb.AdmittedOn x r)
    (hproof : ∀ p, t.client.lb.continuationProofs.get? r = some p →
      s.client.lb.continuationProofs.get? r = some p) : t.GenerationOk c r := by
  refine ⟨fun hi => ?_, fun h₁ h₂ => ?_, fun x hx hst => ?_, ?_, fun hi => ?_, fun p hp hst => ?_⟩
  · rw [hgen] at hi
    exact hend hi (h.idle hi)
  · rw [hgen] at h₁ h₂
    obtain ⟨x, hx⟩ := h.runs h₁ h₂
    exact ⟨x, hrun x hx⟩
  · rw [hgen] at hst
    exact hadm x hx fun hx => h.admitted x hx hst
  · rw [hgen]
    exact h.prefixOk
  · rw [hgen] at hi ⊢
    exact h.minTokens hi
  · rw [hgen] at hst ⊢
    exact h.proof p (hproof p hp) hst

/-- A step of another request that calls nobody. -/
theorem GenerationOk.other (h : s.GenerationOk c r) {r' : String} (hr : r ≠ r') (g : Generation) :
    (s.set r' g).GenerationOk c r :=
  h.frame (Function.update_of_ne hr _ _) (fun _ hx => hx) (fun _ hx => hx) (fun _ hx h => h hx)
    fun _ hp => hp

/-- A step of the requests' generations alone: it is enough to look at the one that is written. -/
theorem ContinuationOk.set (h : s.ContinuationOk c) {g : Generation}
    (hg : r ≠ "" → (s.set r g).GenerationOk c r) : (s.set r g).ContinuationOk c where
  fences := h.fences
  proven := h.proven
  named := h.named
  requests r' hr' := by
    by_cases hrr : r' = r
    · subst hrr
      exact hg hr'
    · exact (h.requests r' hr').other hrr g

theorem set_self (r : String) (g : Generation) : (s.set r g).generation r = g :=
  Function.update_self ..

theorem execute_self (r : String) (g : Generation) (lb : GlobalRequestLoadBalancer) :
    (s.execute r g lb).generation r = g := Function.update_self ..

/-! ## Every step -/

theorem ContinuationOk.call (h : s.ContinuationOk c) (hst : (s.generation r).stage = .idle)
    (a : GenerateArgs) : (s.set r ⟨.ready, a, a, [], 0⟩).ContinuationOk c := by
  refine h.set fun hr => ?_
  have hend := (h.requests r hr).idle hst
  constructor <;> simp only [set_self]
  · simp
  · exact fun _ hn => absurd rfl hn
  · intro x hx
    rw [show s.client.phase r = .running x from hx] at hend
    cases hend
  · exact (List.append_nil _).symm
  · exact fun _ => (remaining_zero _).symm
  · rintro p - (⟨-, hn⟩ | ⟨o, ho⟩)
    · exact absurd hn (Nat.lt_irrefl 0)
    · cases ho

theorem ContinuationOk.output (h : s.ContinuationOk c) {x : String}
    (hx : s.client.phase r = .running x) (hst : (s.generation r).stage = .ready) (o : TokenOutput) :
    (s.set r ((s.generation r).answer o)).ContinuationOk c := by
  refine h.set fun hr => ?_
  have hg := h.requests r hr
  have hadm := hg.admitted x hx (.inl hst)
  have hcont := hg.prefixOk
  have hmin := hg.minTokens (by rw [hst]; simp)
  rw [Generation.PrefixOk, hst] at hcont
  by_cases ho : o.Aborted
  · constructor <;> simp only [set_self, Generation.answer, if_pos ho]
    · simp
    · exact fun _ _ => ⟨x, hx⟩
    · intro y hy _
      cases hx.symm.trans hy
      exact hadm
    · simp only [Generation.PrefixOk, GenerateArgs.charge_promptIds, hcont, List.append_assoc]
    · intro _
      rw [GenerateArgs.charge_minTokens, hmin, remaining_add, List.length_append]
    · rintro p - (⟨hn, -⟩ | ⟨o', ho'⟩)
      · cases hn
      · cases ho'
  · constructor <;> simp only [set_self, Generation.answer, if_neg ho]
    · simp
    · exact fun _ _ => ⟨x, hx⟩
    · rintro y - (hn | ⟨o', ho'⟩)
      · cases hn
      · cases ho'
    · exact fun ho' => absurd ho' ho
    · exact fun _ => hmin
    · -- an admitted request has no proof
      intro p hp _
      rcases h.proven.proof hp with hs | hs <;> rw [hadm.2] at hs <;> cases hs

theorem ContinuationOk.raised (h : s.ContinuationOk c) {x : String}
    (hx : s.client.phase r = .running x) (hst : (s.generation r).stage ≠ .idle) :
    (s.set r { s.generation r with stage := .raised }).ContinuationOk c := by
  refine h.set fun hr => ?_
  have hmin := (h.requests r hr).minTokens hst
  constructor <;> simp only [set_self]
  · simp
  · exact fun _ _ => ⟨x, hx⟩
  · rintro - - (hn | ⟨o, ho⟩)
    · cases hn
    · cases ho
  · trivial
  · exact fun _ => hmin
  · rintro p - (⟨hn, -⟩ | ⟨o, ho⟩)
    · cases hn
    · cases ho

theorem ContinuationOk.abandon (h : s.ContinuationOk c) (hx : s.client.phase r = .ended) :
    (s.set r { s.generation r with stage := .idle }).ContinuationOk c := by
  refine h.set fun _ => ?_
  constructor <;> simp only [set_self]
  · exact fun _ => hx
  · exact fun hn => absurd rfl hn
  · rintro y - (hn | ⟨o, ho⟩)
    · cases hn
    · cases ho
  · trivial
  · exact fun hn => absurd rfl hn
  · rintro p - (⟨hn, -⟩ | ⟨o, ho⟩)
    · cases hn
    · cases ho

/-- The confirmation of a request is executed: the other requests do not notice. -/
theorem ContinuationOk.execute (h : s.ContinuationOk c) {o : TokenOutput} {now : Nat} {g : Generation}
    (hg : r ≠ "" → (s.execute r g (s.confirmation c r o now).2).GenerationOk c r) :
    (s.execute r g (s.confirmation c r o now).2).ContinuationOk c where
  fences := h.fences.quiet rfl rfl rfl rfl rfl rfl (fun _ => le_rfl) (fun _ _ _ hf => hf)
    fun _ _ _ _ _ hb => hb
  proven := h.proven.confirm _ _ _
  named := h.named.after (.confirmContinuation now r _ _)
  requests r' hr' := by
    by_cases hrr : r' = r
    · subst hrr
      exact hg hr'
    · refine (h.requests r' hr').frame (Function.update_of_ne hrr _ _) (fun _ hx => hx)
        (fun _ hx => hx) (fun x hx hadm => ?_) fun p hp => ?_
      · exact GlobalRequestLoadBalancer.admittedOn_stays
          (l := .confirmContinuation now r c.clientId _) (hadm hx) (Ne.symm hrr)
      · refine GlobalRequestLoadBalancer.proof_before
          (l := .confirmContinuation now r c.clientId _) (fun now' cl' d' heq => hrr ?_) hp
        cases heq
        rfl

/-- What a confirmation of an aborted output comes to. -/
theorem ContinuationOk.confirmation (hn : c.Native) (h : s.ContinuationOk c) (hr : r ≠ "")
    {o : TokenOutput} (hst : (s.generation r).stage = .aborted o) :
    ∃ x, s.client.phase r = .running x ∧ ∀ now,
      (∃ op e, s.client.lb.drainingOperations.get? x = some op ∧ e.operationId = op ∧
        (s.confirmation c r o now).1 = .ok e ∧
        (s.confirmation c r o now).2.continuationProofs.get? r = some (c.clientId,
          c.prefixDigest (s.generation r).args.promptIds o.tokenIds, op, e) ∧
        r ∈ (s.confirmation c r o now).2.handoffs op) ∨
      s.client.lb.drainingOperations.get? x = none ∧ s.confirmation c r o now =
        (.error (.keyError "request is not part of an active drain operation"), s.client.lb) := by
  obtain ⟨x, hx⟩ := (h.requests r hr).runs (by rw [hst]; simp) (by rw [hst]; simp)
  exact ⟨x, hx, GlobalRequestLoadBalancer.confirm_admitted h.named h.proven
    ((h.requests r hr).admitted x hx (.inr ⟨o, hst⟩)) hr c.clientId_ne (hn.hexdigest _)⟩

/-- An answered confirmation never fails the request. -/
theorem ContinuationOk.confirmed (hn : c.Native) (h : s.ContinuationOk c) (hr : r ≠ "")
    {o : TokenOutput} (hst : (s.generation r).stage = .aborted o) (now : Nat) :
    ContinuationSystem.confirmed (s.generation r) o (s.confirmation c r o now).1 =
      { s.generation r with stage := .returned o } := by
  obtain ⟨x, -, hc⟩ := h.confirmation hn hr hst
  unfold ContinuationSystem.confirmed
  rcases hc now with ⟨op, e, -, -, he, -⟩ | ⟨-, he⟩
  · rw [he]
  · rw [he]
    rfl

theorem ContinuationOk.confirm (hn : c.Native) (h : s.ContinuationOk c) {o : TokenOutput}
    (hst : (s.generation r).stage = .aborted o) (now : Nat) (reply : Confirmation) :
    (s.confirm c r o now reply).ContinuationOk c := by
  have hne : (s.generation r).stage ≠ .idle := by rw [hst]; simp
  cases reply with
  | answered =>
    refine h.execute fun hr => ?_
    have hg := h.requests r hr
    have hcont := hg.prefixOk
    rw [Generation.PrefixOk, hst] at hcont
    obtain ⟨x, hx, hc⟩ := h.confirmation hn hr hst
    rw [h.confirmed hn hr hst now]
    constructor <;> simp only [execute_self]
    · simp
    · exact fun _ _ => ⟨x, hx⟩
    · rintro - - (hn' | ⟨o', ho'⟩)
      · cases hn'
      · cases ho'
    · exact fun _ => hcont
    · exact fun _ => hg.minTokens hne
    · rintro p hp -
      rcases hc now with ⟨op, e, -, -, -, hpr, -⟩ | ⟨-, he⟩
      · cases hpr.symm.trans hp
        exact ⟨rfl, by rw [ContinuationClient.prefixDigest, hcont]; rfl⟩
      · -- nothing drains: no proof before, and none now
        change (s.confirmation c r o now).2.continuationProofs.get? r = some p at hp
        rw [he] at hp
        have hadm := hg.admitted x hx (.inr ⟨o, hst⟩)
        rcases h.proven.proof hp with hs | hs <;> rw [hadm.2] at hs <;> cases hs
  | lost =>
    by_cases hr : r = ""
    · exact h.set fun hr' => absurd hr hr'
    · obtain ⟨x, hx, -⟩ := h.confirmation hn hr hst
      exact h.raised hx hne
  | unanswered =>
    refine h.execute fun hr => ?_
    obtain ⟨x, hx, -⟩ := h.confirmation hn hr hst
    constructor <;> simp only [execute_self]
    · simp
    · exact fun _ _ => ⟨x, hx⟩
    · rintro - - (hn' | ⟨o', ho'⟩)
      · cases hn'
      · cases ho'
    · trivial
    · exact fun _ => (h.requests r hr).minTokens hne
    · rintro p - (⟨hn', -⟩ | ⟨o', ho'⟩)
      · cases hn'
      · cases ho'

/-- The attempt is over: its release is sent, and the next one may begin. -/
theorem ContinuationOk.finish (hn : c.Native) (h : s.ContinuationOk c) {loop : Bool}
    {client : ClientSystem} (hs : s.client.step (.finish r loop) = some client) {g : Generation}
    (hg : (∃ o, (s.generation r).stage = .returned o ∧ g = c.next (s.generation r) o) ∨
      g = { s.generation r with stage := .idle }) :
    ContinuationOk c { s.set r g with client } := by
  obtain ⟨x, hx, rfl⟩ : ∃ x, s.client.phase r = .running x ∧
      client = s.client.releaseServer r x loop := by
    simp only [ClientSystem.step] at hs
    split at hs
    · rename_i x hx
      exact ⟨x, hx, (Option.some.inj hs).symm⟩
    · cases hs
  have hend : (s.client.releaseServer r x loop).phase r = .ended := Function.update_self ..
  refine ⟨h.fences.step hs, h.proven, h.named, fun r' hr' => ?_⟩
  by_cases hrr : r' = r
  · subst hrr
    have hold := h.requests r' hr'
    have hidle : ∀ g' : Generation, g'.stage = .idle → GenerationOk c
        { s.set r' g' with client := s.client.releaseServer r' x loop } r' := by
      intro g' hg'
      constructor <;> simp only [set_self, hg', Generation.PrefixOk]
      · exact fun _ => hend
      · exact fun hn' => absurd rfl hn'
      · rintro - - (hn' | ⟨o', ho'⟩)
        · cases hn'
        · cases ho'
      · exact fun hn' => absurd rfl hn'
      · rintro p - (⟨hn', -⟩ | ⟨o', ho'⟩)
        · cases hn'
        · cases ho'
    rcases hg with ⟨o, hst, rfl⟩ | rfl
    · by_cases ho : o.Aborted
      · have hcont := hold.prefixOk
        rw [Generation.PrefixOk, hst] at hcont
        constructor <;> simp only [set_self, ContinuationClient.next, if_pos ho]
        · simp
        · exact fun _ hn' => absurd rfl hn'
        · intro y hy
          cases hend.symm.trans hy
        · exact (hn.promptIds _ _).trans (hcont ho)
        · exact fun _ => (hn.minTokens _ _).trans (hold.minTokens (by rw [hst]; simp))
        · exact fun p hp _ => hold.proof p hp (.inr ⟨o, hst⟩)
      · exact hidle _ (by rw [ContinuationClient.next, if_neg ho])
    · exact hidle _ rfl
  · have hphase : (s.client.releaseServer r x loop).phase r' = s.client.phase r' :=
      Function.update_of_ne hrr _ _
    exact (h.requests r' hr').frame (Function.update_of_ne hrr _ _) (fun y hy => hphase.trans hy)
      (fun _ hy => hphase.trans hy) (fun y hy hadm => hadm (hphase.symm.trans hy)) fun p hp => hp

theorem ContinuationOk.client (h : s.ContinuationOk c) {l : ClientLabel} (hl : s.Between l)
    {client : ClientSystem} (hs : s.client.step l = some client) :
    ContinuationOk c { s with client } := by
  have hconfirm : ∀ now j cl d, l ≠ .other (.confirmContinuation now j cl d) := by
    rintro now j cl d rfl
    exact hl
  have hfinish : ∀ j loop, l ≠ .finish j loop := by
    rintro j loop rfl
    exact hl
  have hlb : client.lb.Proven ∧ client.lb.DrainsNamed ∧ ∀ r p,
      client.lb.continuationProofs.get? r = some p →
        s.client.lb.continuationProofs.get? r = some p := by
    rcases ClientSystem.step_lb hs with heq | ⟨call, heq, hcall⟩
    · rw [heq]
      exact ⟨h.proven, h.named, fun _ _ hp => hp⟩
    · rw [heq]
      refine ⟨h.proven.after _, h.named.after _, fun r p hp => ?_⟩
      refine GlobalRequestLoadBalancer.proof_before (fun now cl d hc => ?_) hp
      cases hcall now r cl d hc
      exact hconfirm now r cl d (by rw [hc])
  refine ⟨h.fences.step hs, hlb.1, hlb.2.1, fun r hr => ?_⟩
  obtain ⟨hrun, hend, hadm⟩ := ClientSystem.moved h.fences hr hs hfinish hconfirm
  refine (h.requests r hr).frame rfl hrun (fun hidle hx => hend ?_ hx) hadm (hlb.2.2 r)
  -- only a `generate` that has been called begins an attempt
  rintro rfl
  rw [ContinuationSystem.Between, hidle] at hl
  cases hl

theorem ContinuationOk.step (hn : c.Native) (h : s.ContinuationOk c) {l : ContinuationLabel}
    (hs : s.step c l = some t) : t.ContinuationOk c := by
  cases l with
  | call r a =>
    simp only [ContinuationSystem.step] at hs
    split at hs
    · rename_i hst
      cases hs
      exact h.call hst a
    · cases hs
  | client l =>
    simp only [ContinuationSystem.step, Option.ite_none_right_eq_some] at hs
    obtain ⟨hl, hs⟩ := hs
    obtain ⟨client, hclient, rfl⟩ := Option.map_eq_some_iff.1 hs
    exact h.client hl hclient
  | output r o =>
    simp only [ContinuationSystem.step] at hs
    split at hs
    · rename_i x hx hst
      cases hs
      exact h.output hx hst o
    · cases hs
  | fail r =>
    simp only [ContinuationSystem.step] at hs
    split at hs
    · rename_i x hx hst
      cases hs
      exact h.raised hx (by rw [hst]; simp)
    · cases hs
  | confirm r now reply =>
    simp only [ContinuationSystem.step] at hs
    split at hs
    · rename_i o hst
      cases hs
      exact h.confirm hn hst now reply
    · cases hs
  | finish r loop =>
    simp only [ContinuationSystem.step] at hs
    split at hs
    · rename_i o hst
      obtain ⟨client, hclient, rfl⟩ := Option.map_eq_some_iff.1 hs
      exact h.finish hn hclient (.inl ⟨o, hst, rfl⟩)
    · obtain ⟨client, hclient, rfl⟩ := Option.map_eq_some_iff.1 hs
      exact h.finish hn hclient (.inr rfl)
    · cases hs
  | abandon r =>
    simp only [ContinuationSystem.step, Option.ite_none_right_eq_some] at hs
    obtain ⟨⟨-, hx⟩, hs⟩ := hs
    cases hs
    exact h.abandon hx

theorem continuationOk_init (h : (machine c).init s) : s.ContinuationOk c := by
  obtain ⟨hfresh, hlb, hidle⟩ := h
  have hproven : s.client.lb.Proven := GlobalRequestLoadBalancer.proven_reachable ⟨_, hlb, .refl _⟩
  obtain ⟨servers, routes, retention, -, hlb⟩ := hlb
  refine ⟨ClientSystem.fresh_ok hfresh, hproven, ?_, fun r _ => ?_⟩
  · rw [hlb]
    intro y o ho
    cases ho
  · obtain ⟨-, hend, -⟩ := hfresh.2.2.2.2.2.2 r
    constructor <;> simp only [hidle r, Generation.PrefixOk]
    · exact fun _ => hend
    · exact fun hn => absurd rfl hn
    · rintro - - (hn | ⟨o, ho⟩)
      · cases hn
      · cases ho
    · exact fun hn => absurd rfl hn
    · rintro p - (⟨hn, -⟩ | ⟨o, ho⟩)
      · cases hn
      · cases ho

theorem continuationOk_reachable (hn : c.Native) (h : (machine c).Reachable s) : s.ContinuationOk c :=
  h.invariant (fun _ => continuationOk_init) fun _ _ _ hi hs _ => hi.step hn hs

/-! ## What continues -/

/-- A request between any two steps. -/
structure Continues (c : ContinuationClient) (s : ContinuationSystem) (r : String) : Prop where
  /-- Every attempt is sent the first prompt and all that the aborted ones emitted. -/
  prompt : (s.generation r).stage = .ready → (s.generation r).args.promptIds =
    (s.generation r).original.promptIds ++ (s.generation r).emitted
  /-- Its minimum is the first one less what the aborted ones emitted. -/
  minTokens : (s.generation r).stage ≠ .idle → (s.generation r).args.minTokens =
    remaining (s.generation r).original.minTokens (s.generation r).emitted.length
  /-- The confirmation of an aborted output, whenever it is executed, hands the request over under the
  operation that drains the server of the attempt, or finds that there is none. -/
  confirmation : ∀ o, (s.generation r).stage = .aborted o → ∃ x, s.client.phase r = .running x ∧
    ∀ now, (∃ op e, s.client.lb.drainingOperations.get? x = some op ∧ e.operationId = op ∧
        (s.confirmation c r o now).1 = .ok e ∧
        r ∈ (s.confirmation c r o now).2.handoffs op) ∨
      s.client.lb.drainingOperations.get? x = none ∧ s.confirmation c r o now =
        (.error (.keyError "request is not part of an active drain operation"), s.client.lb)
  /-- The answer, either one, returns the output to the native client. -/
  answered : ∀ o now, (s.generation r).stage = .aborted o →
    ((s.confirm c r o now .answered).generation r).stage = .returned o
  /-- The proof of an aborted attempt is of this client and of exactly what the next attempt is sent. -/
  proof : (s.generation r).stage = .ready → 0 < (s.generation r).attempts → ∀ clientId digest op e,
    s.client.lb.continuationProofs.get? r = some (clientId, digest, op, e) →
    clientId = c.clientId ∧ ∀ promptIds tokenIds, c.prefixDigest promptIds tokenIds = digest ↔
      promptIds ++ tokenIds = (s.generation r).args.promptIds

/-- **Continuation is exact.** In every run of a client, its wrappers and the load balancer, with any
calls by others in between: whatever is aborted and wherever it is retried, an attempt continues the
tokens of all attempts before it under what is left of the minimum, no confirmation fails a request,
and a continuation proof names the prefix that the next attempt is sent. -/
theorem continuation_exact (hn : c.Native) (hc : Function.Injective c.sha256)
    (h : (machine c).Reachable s) (hr : r ≠ "") : s.Continues c r := by
  have hok := continuationOk_reachable hn h
  have hg := hok.requests r hr
  have hprompt : (s.generation r).stage = .ready → (s.generation r).args.promptIds =
      (s.generation r).original.promptIds ++ (s.generation r).emitted := by
    intro hst
    have hcont := hg.prefixOk
    rwa [Generation.PrefixOk, hst] at hcont
  refine ⟨hprompt, hg.minTokens, fun o hst => ?_, fun o now hst => ?_,
    fun hst ha clientId digest op e hp => ?_⟩
  · obtain ⟨x, hx, hconf⟩ := hok.confirmation hn hr hst
    refine ⟨x, hx, fun now => ?_⟩
    rcases hconf now with ⟨op, e, hop, he, hres, -, hmem⟩ | hnone
    · exact .inl ⟨op, e, hop, he, hres, hmem⟩
    · exact .inr hnone
  · rw [show s.confirm c r o now .answered = s.execute r
        (confirmed (s.generation r) o (s.confirmation c r o now).1) (s.confirmation c r o now).2
      from rfl, execute_self, hok.confirmed hn hr hst now]
  · obtain ⟨hclient, hdigest⟩ := hg.proof _ hp (.inl ⟨hst, ha⟩)
    refine ⟨hclient, fun promptIds tokenIds => ?_⟩
    rw [hprompt hst, ← show c.prefixDigest _ _ = digest from hdigest.symm,
      ContinuationClient.prefixDigest_eq_iff hc]

section Fixture

/-- A hash that spells its input, and a native client that retries as documented. -/
def plainClient : ContinuationClient where
  clientId := "task"
  clientId_ne := ne_empty holds
  sha256 text := String.ofList ('#' :: text)
  resume a o := { a with promptIds := a.promptIds ++ o.tokenIds }

theorem plainClient_native : plainClient.Native where
  hexdigest text h := by
    have := congrArg String.toList h
    simp [plainClient] at this
  promptIds _ _ := rfl
  minTokens _ _ := rfl

/-- One server behind one key; nothing is called yet. -/
def quiet : ContinuationSystem where
  client := { ClientSystem.fresh with
    lb := .init (Dict.insert ∅ "s0" 0) (Dict.insert ∅ RouterSystem.drainKey "s0") }
  generation _ := ⟨.idle, ⟨[], none⟩, ⟨[], none⟩, [], 0⟩

def handover : List ContinuationLabel :=
  [.call "a" ⟨[1, 20], some (Dict.insert ∅ "min_tokens" (.int 5))⟩, .client (.begin "a"),
    .client (.process 0 "s0"), .client (.other (.beginDrain RouterSystem.drainKey "remove")),
    .output "a" ⟨[7, 8], some "abort"⟩, .confirm "a" 1 .answered, .finish "a" true]

theorem init_quiet : (machine plainClient).init quiet := by
  refine ⟨⟨rfl, rfl, rfl, rfl, rfl, fun _ => rfl, fun _ => ⟨rfl, rfl, rfl⟩⟩,
    ⟨Dict.insert ∅ "s0" 0, Dict.insert ∅ RouterSystem.drainKey "s0", 10000, fun k x hk => ?_, rfl⟩,
    fun _ => rfl⟩
  rw [Dict.get?_insert] at hk
  split at hk
  · cases hk
    rfl
  · cases hk

/-- A request is drained off its server with two tokens: the retry is sent them, and owes three. -/
theorem continuation_exact_drained : ∃ s, (machine plainClient).Reachable s ∧
    (s.generation "a").args.promptIds = [1, 20, 7, 8] ∧
    (s.generation "a").args.minTokens = some (.int 3) ∧
    ∃ digest e, s.client.lb.continuationProofs.get? "a" = some ("task", digest, "remove", e) ∧
      ∀ promptIds tokenIds, plainClient.prefixDigest promptIds tokenIds = digest ↔
        promptIds ++ tokenIds = [1, 20, 7, 8] := by
  have hrun : (handover.foldlM (fun s l => step plainClient s l) quiet).map (fun s =>
      (((s.generation "a").stage, (s.generation "a").attempts, (s.generation "a").args.promptIds),
        (s.generation "a").args.minTokens,
        (s.client.lb.continuationProofs.get? "a").map fun p => (p.1, p.2.2.1))) =
      some ((.ready, 1, [1, 20, 7, 8]), some (.int 3), some ("task", "remove")) := by decide +kernel
  obtain ⟨s, hs, heq⟩ := Option.map_eq_some_iff.1 hrun
  have hreach : (machine plainClient).Reachable s :=
    .steps (fun hs => ⟨hs, trivial⟩) ⟨quiet, init_quiet, .refl _⟩ hs
  simp only [Prod.mk.injEq, Option.map_eq_some_iff] at heq
  obtain ⟨⟨hst, ha, hp⟩, hm, ⟨_, digest, _, e⟩, hproof, rfl, rfl⟩ := heq
  have hinj : Function.Injective plainClient.sha256 := fun a b hab => by
    have := congrArg String.toList hab
    simpa [plainClient] using this
  have hexact := (continuation_exact plainClient_native hinj hreach (r := "a") (by decide)).proof hst
    (ha ▸ Nat.one_pos) _ _ _ _ hproof
  exact ⟨s, hreach, hp, hm, digest, e, hproof, hp ▸ hexact.2⟩

end Fixture

end ContinuationSystem

end ReplicaLending
