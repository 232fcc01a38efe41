import ReplicaLending.Router.Machine
/-!
# Admission to a draining server

`begin_drain` takes the server out of the native pool, and only `commit_ready` puts servers in. Its
checks look at the ready ledger (load_balancer.py:197), which a key routed at construction never
entered (:50), and never at `draining_operations`: such a server it adds again in the middle of its
drain.
-/

namespace ReplicaLending

namespace GlobalRequestLoadBalancer

variable {lb : GlobalRequestLoadBalancer} {k : ReplicaKey} {x o : String}

/-- Neither the key nor the server of a new operation is in the ready ledger. -/
theorem readyConflict_none {es : List (String × ReplicaKey × String × OperationEvidence)}
    (ho : ∀ e ∈ es, e.1 ≠ o) :
    readyConflict k x o es = none ↔ ∀ e ∈ es, e.2.1 ≠ k ∧ e.2.2.1 ≠ x := by
  induction es with
  | nil => simp [readyConflict]
  | cons e es ih =>
    obtain ⟨o', k', x', ev⟩ := e
    have ho' : o' ≠ o := ho _ (List.mem_cons_self ..)
    have ih := ih fun e he => ho e (List.mem_cons_of_mem _ he)
    simp only [readyConflict, List.forall_mem_cons]
    by_cases hk : k' = k
    · simp [hk, ho']
    · by_cases hx : x' = x
      · simp [hk, hx]
      · simp only [hk, hx, false_and, if_false, ih]
        simp [hk, hx]

/-- What `commit_ready` does to the pool: nothing, or it adds its own server. -/
theorem servers_commitReady (lb : GlobalRequestLoadBalancer) (now : Nat) (k : ReplicaKey)
    (y : String) (h : Nat) (o : String) :
    (lb.commitReady now k y h o).2.servers = lb.servers ∨
      (lb.commitReady now k y h o).2.servers = lb.servers.insert y h := by
  unfold commitReady
  split
  · exact .inl rfl
  split
  · exact .inl rfl
  split
  · split
    · exact .inl rfl
    split <;> exact .inl rfl
  · dsimp only
    split
    · exact .inl rfl
    split
    · exact .inl rfl
    split
    · exact .inl rfl
    split <;> exact .inr rfl

/-- Pool, routes, ready ledger and drains are the same. -/
def SameRouting (lb lb' : GlobalRequestLoadBalancer) : Prop :=
  lb'.servers = lb.servers ∧ lb'.routes = lb.routes ∧ lb'.readyOperations = lb.readyOperations ∧
    lb'.drainingOperations = lb.drainingOperations

theorem SameRouting.refl (lb : GlobalRequestLoadBalancer) : SameRouting lb lb :=
  ⟨rfl, rfl, rfl, rfl⟩

theorem sameRouting_settleTerminated : ∀ (rs : List String) {lb : GlobalRequestLoadBalancer},
    SameRouting lb (settleTerminated rs lb)
  | [], lb => .refl lb
  | r :: rs, lb => by
    rw [settleTerminated]
    split <;> exact sameRouting_settleTerminated rs

theorem sameRouting_gc : SameRouting lb lb.gcSettledRequests := by
  unfold gcSettledRequests
  split <;> exact .refl _

theorem sameRouting_acquire (lb : GlobalRequestLoadBalancer) (r pick : String) :
    SameRouting lb (lb.acquireServer r pick).2 := by
  unfold acquireServer
  dsimp only
  split
  · exact .refl lb
  split <;> exact .refl _

theorem sameRouting_release {r : String} : SameRouting lb (lb.releaseServer x r).2 := by
  unfold releaseServer
  split
  · exact .refl lb
  dsimp only
  split
  · exact .refl lb
  split
  · exact .refl lb
  · exact .refl lb
  · exact sameRouting_gc
  · exact sameRouting_gc

theorem sameRouting_confirm {now : Nat} {r c p : String} :
    SameRouting lb (lb.confirmContinuation now r c p).2 := by
  unfold confirmContinuation
  split
  · exact .refl lb
  split
  · split <;> exact .refl lb
  split
  · exact .refl lb
  split
  · exact .refl lb
  split <;> exact .refl _

theorem servers_finishRemove (hx : lb.servers.get? x = none) :
    (lb.finishRemove k).2.servers.get? x = none := by
  unfold finishRemove
  split
  · exact hx
  dsimp only
  split
  · exact hx
  · rename_i y _ _
    rw [sameRouting_gc.1]
    show ((settleTerminated (lb.requestsForServer y) lb).servers.erase y).get? x = none
    rw [(sameRouting_settleTerminated _).1, Dict.get?_erase, hx, ite_self]

theorem beginDrain_cases (lb : GlobalRequestLoadBalancer) (k : ReplicaKey) (o : String) :
    (∃ e, lb.beginDrain k o = (.error e, lb)) ∨
    ∃ y, lb.routes.get? k = some y ∧ (lb.beginDrain k o).1 = .ok y ∧
      (lb.beginDrain k o).2.servers = lb.servers.erase y := by
  unfold beginDrain
  split
  · exact .inl ⟨_, rfl⟩
  split
  · exact .inl ⟨_, rfl⟩
  rename_i y hy
  dsimp only
  split
  · exact .inl ⟨_, rfl⟩
  · exact .inr ⟨y, hy, rfl, rfl⟩

end GlobalRequestLoadBalancer

namespace RouterSystem

open GlobalRequestLoadBalancer

variable {s t : RouterSystem} {key : ReplicaKey} {x op : String} {l : RouterCall}

/-- The call is a `commit_ready` for the server by an operation, and for a key, that the ready
ledger does not know, while it does not know the server either. -/
def Reopens (s : RouterSystem) (x : String) : RouterCall → Prop
  | .commitReady _ k y _ o => y = x ∧ y ≠ "" ∧ o ≠ "" ∧ s.lb.readyOperations.get? o = none ∧
      (s.lb.routes.get? k = none ∨ s.lb.routes.get? k = some x) ∧
      ∀ o' k' y' ev, s.lb.readyOperations.get? o' = some (k', y', ev) → k' ≠ k ∧ y' ≠ x
  | _ => False

/-- A `commit_ready` for a server outside the pool adds it exactly when the ledger knows nothing. -/
theorem commitReady_reopens {now h : Nat} {k : ReplicaKey} {y o : String}
    (hx : s.lb.servers.get? x = none) :
    (s.lb.commitReady now k y h o).2.servers.get? x = none ↔
      ¬ s.Reopens x (.commitReady now k y h o) := by
  by_cases hyx : y = x
  swap
  · refine iff_of_true ?_ fun hr => hyx hr.1
    rcases servers_commitReady s.lb now k y h o with
      he | he
    · rw [he]; exact hx
    · rw [he, Dict.get?_insert_ne _ _ hyx]; exact hx
  subst hyx
  unfold commitReady Reopens
  by_cases hy : y = ""
  · exact iff_of_true (by rw [if_pos hy]; exact hx) fun hr => hr.2.1 hy
  by_cases ho : o = ""
  · exact iff_of_true (by rw [if_neg hy, if_pos ho]; exact hx) fun hr => hr.2.2.1 ho
  rw [if_neg hy, if_neg ho]
  cases hrec : s.lb.readyOperations.get? o with
  | some e =>
    refine iff_of_true ?_ fun hr => ?_
    swap
    · rw [hr.2.2.2.1] at hrec; cases hrec
    dsimp only
    split
    · exact hx
    split <;> exact hx
  | none =>
    dsimp only
    by_cases hroute : (s.lb.routes.get? k).isSome ∧ s.lb.routes.get? k ≠ some y
    · rw [if_pos hroute]
      refine iff_of_true hx fun hr => ?_
      rcases hr.2.2.2.2.1 with hn | hn
      · rw [hn] at hroute; exact absurd hroute.1 (by simp)
      · exact hroute.2 hn
    · rw [if_neg hroute, if_neg (by rw [hx]; simp)]
      have hother : ∀ e ∈ s.lb.readyOperations.entries, e.1 ≠ o := by
        rintro ⟨o', e⟩ he rfl
        rw [Dict.mem_entries.1 he] at hrec
        cases hrec
      have hledger : (∀ e ∈ s.lb.readyOperations.entries, e.2.1 ≠ k ∧ e.2.2.1 ≠ y) ↔
          ∀ o' k' y' ev, s.lb.readyOperations.get? o' = some (k', y', ev) → k' ≠ k ∧ y' ≠ y := by
        constructor
        · intro h o' k' y' ev he
          exact h (o', k', y', ev) (Dict.mem_entries.2 he)
        · rintro h ⟨o', k', y', ev⟩ he
          exact h o' k' y' ev (Dict.mem_entries.1 he)
      cases hc : readyConflict k y o s.lb.readyOperations.entries with
      | some e =>
        refine iff_of_true hx fun hr => ?_
        rw [(readyConflict_none hother).2 (hledger.2 hr.2.2.2.2.2)] at hc
        cases hc
      | none =>
        have hl := hledger.1 ((readyConflict_none hother).1 hc)
        have hr : s.lb.routes.get? k = none ∨ s.lb.routes.get? k = some y := by
          cases hk : s.lb.routes.get? k with
          | none => exact .inl rfl
          | some z =>
            rw [hk] at hroute
            exact .inr (not_not.1 fun hne => hroute ⟨rfl, hne⟩)
        refine iff_of_false ?_ fun hn => hn ⟨rfl, hy, ho, hrec, hr, hl⟩
        dsimp only
        split <;> rw [Dict.get?_insert_self] <;> simp

/-- One call keeps a server out of the pool exactly when it does not reopen it. -/
theorem call_reopens (hx : s.lb.servers.get? x = none) :
    (s.call l).lb.servers.get? x = none ↔ ¬ s.Reopens x l := by
  cases l with
  | commitReady now k y h o => exact commitReady_reopens hx
  | acquireServer r pick =>
    refine iff_of_true ?_ id
    have hsame := sameRouting_acquire s.lb r pick
    show (s.acquire r pick).lb.servers.get? x = none
    unfold RouterSystem.acquire
    split
    all_goals
      rename_i he
      rw [he] at hsame
      rw [hsame.1]
      exact hx
  | releaseServer y r sender =>
    refine iff_of_true ?_ id
    show (s.lb.releaseServer y r).2.servers.get? x = none
    rw [sameRouting_release.1]
    exact hx
  | confirmContinuation now r c p =>
    refine iff_of_true ?_ id
    show (s.lb.confirmContinuation now r c p).2.servers.get? x = none
    rw [sameRouting_confirm.1]
    exact hx
  | beginDrain k o =>
    refine iff_of_true ?_ id
    show (s.lb.beginDrain k o).2.servers.get? x = none
    rcases beginDrain_cases s.lb k o with ⟨e, he⟩ | ⟨y, -, -, he⟩
    · rw [he]; exact hx
    · rw [he, Dict.get?_erase, hx, ite_self]
  | finishRemove k => exact iff_of_true (servers_finishRemove hx) id

theorem acquireServer_pool {lb : GlobalRequestLoadBalancer} {r pick : String} {p : String × Nat}
    (h : (lb.acquireServer r pick).1 = .ok p) : (lb.servers.get? p.1).isSome := by
  unfold acquireServer at h
  dsimp only at h
  split at h
  · cases h
  split at h
  · cases h
  · rename_i handle hh
    cases h
    simp [hh]

/-- After `begin_drain` the server stays out of the pool, and no request is admitted to it, in every
run without a `commit_ready` that reopens it. -/
theorem drain_excludes (hb : (s.lb.beginDrain key op).1 = .ok x)
    (hr : machine.RunWhere (fun u l _ => ¬ u.Reopens x l) (s.call (.beginDrain key op)) t) :
    t.lb.servers.get? x = none ∧
      (∀ r pick p, (t.lb.acquireServer r pick).1 = .ok p → p.1 ≠ x) ∧
      ∀ l, (t.call l).lb.servers.get? x = none ↔ ¬ t.Reopens x l := by
  have h₀ : (s.call (.beginDrain key op)).lb.servers.get? x = none := by
    show (s.lb.beginDrain key op).2.servers.get? x = none
    rcases beginDrain_cases s.lb key op with ⟨e, he⟩ | ⟨y, -, hy, he⟩
    · rw [he] at hb; cases hb
    · rw [hb] at hy
      cases hy
      rw [he, Dict.get?_erase_self]
  have hx : t.lb.servers.get? x = none := by
    refine hr.invariant (I := fun u => u.lb.servers.get? x = none) ?_ h₀
    rintro u l u' hu ⟨-, rfl⟩ hn
    exact (call_reopens hu).2 hn
  refine ⟨hx, fun r pick p hp hpx => ?_, fun l => call_reopens hx⟩
  have := acquireServer_pool hp
  rw [hpx, hx] at this
  cases this

/-! ### The drain of a replica that was routed at construction -/

def drainKey : ReplicaKey := nativeReplicaKey "task" (ne_empty holds) 0

/-- Two servers; the route of the first is an initial one. -/
def twoServers : RouterSystem :=
  initial (((∅ : Dict String Nat).insert "s0" 0).insert "s1" 1)
    ((∅ : Dict ReplicaKey String).insert drainKey "s0") 10000

theorem reachable_twoServers : machine.Reachable twoServers := by
  refine ⟨twoServers, ⟨_, _, _, fun k x hk => ?_, rfl⟩, .refl _⟩
  rw [Dict.get?_insert] at hk
  split at hk
  · cases hk; decide
  · cases hk

/-- Another request goes to the other server during the drain. -/
theorem drain_excludes_twoServers :
    ((twoServers.call (.beginDrain drainKey "d")).call
      (.acquireServer "r" "s1")).lb.servers.get? "s0" = none := by
  have hdrain : (twoServers.lb.beginDrain drainKey "d").1 = .ok "s0" := by rfl
  refine (drain_excludes hdrain
    (.single (l := RouterCall.acquireServer "r" "s1") ⟨trivial, rfl⟩ id)).1

/-- A `commit_ready` by another operation reopens admission in the middle of the drain. -/
theorem draining_server_readmits : ¬ ∀ s t key op x, machine.Reachable s →
    (s.lb.beginDrain key op).1 = .ok x →
    machine.RunWhere (fun _ l _ => l ≠ .finishRemove key) (s.call (.beginDrain key op)) t →
    ∀ r pick p, (t.lb.acquireServer r pick).1 = .ok p → p.1 ≠ x := by
  intro h
  have hrun : machine.RunWhere (fun _ l _ => l ≠ RouterCall.finishRemove drainKey)
      (twoServers.call (.beginDrain drainKey "d"))
      ((twoServers.call (.beginDrain drainKey "d")).call (.commitReady 7 drainKey "s0" 0 "a")) :=
    .single (l := RouterCall.commitReady 7 drainKey "s0" 0 "a") ⟨trivial, rfl⟩ (by simp)
  exact h _ _ _ _ _ reachable_twoServers rfl hrun "r" "s0" ("s0", 0) (by rfl) rfl

end RouterSystem

end ReplicaLending
