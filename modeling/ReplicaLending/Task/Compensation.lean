import ReplicaLending.Task.Threads
/-!
# FAILED only after RELEASED

An ADD or RESTORE reserves its lease at the scheduler before it is dispatched, and only evidence
gives the claims back. `Body.Earned` says of the code a lifecycle thread has left that it cannot
finish as FAILED before the scheduler has accepted its RELEASED evidence; every branch of
`_execute_operation` starts that way. `Honest` carries it over the steps of a TaskRunner. The one
step that breaks it is the launch that fails: nothing reports to the scheduler then.
-/

namespace ReplicaLending

/-- An operation whose reservation at the scheduler only RELEASED evidence gives back. -/
def OperationCommand.Borrows (command : OperationCommand) : Prop :=
  command.kind = .add ∨ command.kind = .restore

instance (command : OperationCommand) : Decidable command.Borrows :=
  inferInstanceAs (Decidable (_ ∨ _))

namespace Body

/-- The code reports evidence of operation `o` only, and finishes as FAILED only with `p`, or once
RELEASED evidence has been accepted. -/
def Earned (o : String) (p : Prop) : Body → Prop
  | raise _ => True
  | finish status _ _ => status = .failed → p
  | call (.advanceLease evidence) next => evidence.operationId = o ∧
      (∀ v, (next (.ok v)).Earned o (p ∨ evidence.type = .released)) ∧
      ∀ e, (next (.error e)).Earned o p
  | call _ next => ∀ r, (next r).Earned o p

namespace Earned

variable {o : String} {p : Prop}

theorem mono : ∀ {p q : Prop} {b : Body}, (p → q) → b.Earned o p → b.Earned o q
  | _, _, raise _, _, _ => trivial
  | _, _, finish _ _ _, hpq, h => fun hs => hpq (h hs)
  | _, _, call c next, hpq, h => by
    cases c with
    | advanceLease evidence =>
      obtain ⟨ho, hok, herr⟩ := h
      exact ⟨ho, fun v => mono (Or.imp_left hpq) (hok v), fun e => mono hpq (herr e)⟩
    | prepareReplica _ | bootstrapAndPublish | restoreAndPublish | queryReleaseOperation
    | reconcileExit | prepareExit | getPendingTarget | removeAndCommit | finalizeRelease =>
      exact fun r => mono hpq (h r)

theorem ask {c : Remote} {next : Option OperationEvidence → Body}
    (hc : ∀ evidence, c ≠ .advanceLease evidence) (h : ∀ v, (next v).Earned o p) :
    (ask c next).Earned o p := by
  cases c with
  | advanceLease evidence => exact absurd rfl (hc evidence)
  | prepareReplica _ | bootstrapAndPublish | restoreAndPublish | queryReleaseOperation
  | reconcileExit | prepareExit | getPendingTarget | removeAndCommit | finalizeRelease =>
    intro r
    cases r with
    | ok v => exact h v
    | error e => trivial

theorem demand {expected : EvidenceType} {value : Option OperationEvidence}
    {next : OperationEvidence → Body}
    (h : ∀ evidence, evidence.operationId = o → evidence.type = expected →
      (next evidence).Earned o p) : (demand o expected value next).Earned o p := by
  cases value with
  | none => trivial
  | some evidence =>
    simp only [Body.demand]
    cases hr : requireOperationEvidence evidence o expected "operation" with
    | error e => trivial
    | ok evidence' =>
      obtain ⟨rfl, ho, ht⟩ := requireOperationEvidence_ok hr
      exact h _ ho ht

/-- Both attempts send the same evidence. -/
theorem advance {evidence : OperationEvidence} {next : Body} (ho : evidence.operationId = o)
    (h : next.Earned o (p ∨ evidence.type = .released)) : (advance evidence next).Earned o p :=
  ⟨ho, fun _ => h, fun _ => ⟨ho, fun _ => h, fun _ => trivial⟩⟩

theorem failedRelease {message : String} {value : Option OperationEvidence} {next : Body}
    (h : next.Earned o p) : (failedRelease o message value next).Earned o p := by
  cases value with
  | none => exact h
  | some evidence =>
    simp only [Body.failedRelease]
    split
    · exact .demand fun evidence ho ht => .advance ho fun _ => .inr ht
    · exact h

theorem succeeded {result : String} {clears : Nat} :
    (finish .succeeded result clears).Earned o p := nofun

theorem addBody {command : OperationCommand} {lease : Option Lease}
    (hk : command.kind = .add) (hl : ∀ l, lease = some l → l.leaseId = command.leaseId) :
    (addBody command lease).Earned command.operationId p := by
  cases lease with
  | none => trivial
  | some l =>
    -- the snapshot is of the command's lease, so the placement checks pass
    simp only [ReplicaLending.addBody, TaskRunner.buildBorrowedSpec, hk, hl l rfl, ne_eq,
      not_true_eq_false, if_false]
    refine .ask (fun _ h => by cases h) fun prepared =>
      .failedRelease (.ask (fun _ h => by cases h) fun evidence => .failedRelease ?_)
    exact .demand fun _ _ _ => .succeeded

theorem restoreBody {command : OperationCommand} :
    (restoreBody command).Earned command.operationId p :=
  .ask nofun fun _ => .ask nofun fun _ => .failedRelease <|
    .demand fun _ ho _ => .advance ho .succeeded

theorem releaseBody {command : OperationCommand} {service : Option OperationEvidence} :
    (releaseBody command service).Earned command.operationId p :=
  .demand fun _ _ _ => .ask nofun fun _ => .demand fun _ ho _ => .advance ho .succeeded

/-- An exit may finish as FAILED on the word of `prepare_exit`, without evidence. -/
theorem drainBody {command : OperationCommand} (hp : p) :
    (drainBody command).Earned command.operationId p := by
  intro r
  cases r with
  | ok evidence => exact .demand fun _ _ _ => .ask nofun fun _ => .releaseBody
  | error e =>
    intro r
    cases r with
    | ok v => trivial
    | error query =>
      show Body.Earned _ _ (if _ then _ else _)
      split
      · trivial
      · exact fun _ => hp

theorem exitBody {command : OperationCommand} {reconciling : Bool} (hp : p) :
    (exitBody command reconciling).Earned command.operationId p := by
  unfold ReplicaLending.exitBody
  split
  · exact .drainBody hp
  · refine .ask nofun fun prior => ?_
    cases prior with
    | some prior => exact .demand fun _ ho _ => .advance ho .succeeded
    | none =>
      refine .ask nofun fun service => ?_
      cases service with
      | some service => exact .releaseBody
      | none => exact .drainBody hp

theorem lifecycleBody {command : OperationCommand} {lease : Option Lease} {reconciling : Bool}
    (hl : ∀ l, lease = some l → l.leaseId = command.leaseId) (hp : ¬ command.Borrows → p) :
    (lifecycleBody command lease reconciling).Earned command.operationId p := by
  unfold ReplicaLending.lifecycleBody
  cases hk : command.kind with
  | add => exact .addBody hk hl
  | restore => exact .restoreBody
  | donate | remove => exact .exitBody (hp (by simp [OperationCommand.Borrows, hk]))

end Earned

end Body

/-! ## The steps of a TaskRunner -/

namespace ControlPlane

variable {session : String} {s : ControlPlane} {w : Worker} {p q : OperationCommand → Prop}

/-- No thread can finish its ADD or RESTORE as FAILED without `p`, and none has. -/
abbrev Honest (p : OperationCommand → Prop) : ControlPlane → Prop :=
  Follows (fun c b => b.Earned c.operationId (c.Borrows → p c)) fun c => c.Borrows → p c

theorem discipline_earned :
    Discipline (fun c b => b.Earned c.operationId (c.Borrows → p c)) fun c => c.Borrows → p c where
  starts _ _ _ hl := .lifecycleBody hl fun hn hb => absurd hb hn
  fails _ _ _ h := h rfl

theorem Honest.mono (h : Honest p s) (hpq : ∀ c, p c → q c) : Honest q s :=
  Follows.mono h (fun _ _ hb => hb.mono fun f hbor => hpq _ (f hbor)) fun _ f hbor => hpq _ (f hbor)

/-- Accepted RELEASED evidence has to be worth `p`. -/
theorem answers_earned {a : Act} (ha : ∀ j reply evidence next c, a = .answer j (.ok reply) →
      w.phase = .running (.call (.advanceLease evidence) next) → evidence.type = .released →
      s.journal.commands.get? w.operationId = some c → c.Borrows → p c) :
    Answers (fun c b => b.Earned c.operationId (c.Borrows → p c)) s w a := by
  intro j reply call next command hj hp hc he
  cases call with
  | advanceLease evidence =>
    cases reply with
    | ok v =>
      refine (he.2.1 v).mono fun hor hb => hor.elim (fun f => f hb) fun ht => ?_
      exact ha j v evidence next command hj hp ht hc hb
    | error e => exact he.2.2 e
  | prepareReplica _ | bootstrapAndPublish | restoreAndPublish | queryReleaseOperation
  | reconcileExit | prepareExit | getPendingTarget | removeAndCommit | finalizeRelease =>
    exact he reply

end ControlPlane

end ReplicaLending
