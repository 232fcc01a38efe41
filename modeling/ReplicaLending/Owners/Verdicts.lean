import ReplicaLending.Owners.Preflight
import ReplicaLending.Task.Threads
/-!
# When an exit is marked FAILED

The thread of a DONATE or REMOVE finishes as FAILED on one occasion: `prepare_exit` has raised, and
the binding query was answered with a `KeyError` (task_runner.py:346-386). Everything else it does
is a call of the exit paths.
-/

namespace ReplicaLending

/-- A DONATE or REMOVE. -/
def OperationCommand.Exits (command : OperationCommand) : Prop :=
  command.kind = .donate ∨ command.kind = .remove

instance (command : OperationCommand) : Decidable command.Exits :=
  inferInstanceAs (Decidable (_ ∨ _))

namespace Body

/-- The code makes no further call. -/
def Final : Body → Prop
  | call _ _ => False
  | finish _ _ _ | raise _ => True

/-- The answer is that the operation has no pending target. -/
def Denies (c : Remote) (r : Reply) : Prop :=
  c = .getPendingTarget ∧ ∃ e, r = .error e ∧ e.kind = .keyError

/-- The code makes calls of an exit, and finishes as FAILED only when the binding query has been
denied. -/
def Checked : Body → Prop
  | raise _ => True
  | finish status _ _ => status ≠ .failed
  | call c next => c.ofExit = true ∧ ∀ r, (next r).Checked ∨ Denies c r ∧ (next r).Final

namespace Checked

theorem ask {c : Remote} {next : Option OperationEvidence → Body} (hc : c.ofExit = true)
    (h : ∀ v, (next v).Checked) : (ask c next).Checked := by
  refine ⟨hc, fun r => .inl ?_⟩
  cases r with
  | ok v => exact h v
  | error e => trivial

theorem demand {o : String} {expected : EvidenceType} {value : Option OperationEvidence}
    {next : OperationEvidence → Body} (h : ∀ evidence, (next evidence).Checked) :
    (demand o expected value next).Checked := by
  cases value with
  | none => trivial
  | some evidence =>
    simp only [Body.demand]
    cases requireOperationEvidence evidence o expected "operation" with
    | error e => trivial
    | ok evidence' => exact h _

theorem advance {evidence : OperationEvidence} {next : Body} (h : next.Checked) :
    (advance evidence next).Checked := by
  refine ⟨rfl, fun r => .inl ?_⟩
  cases r with
  | ok v => exact h
  | error e => exact .ask rfl fun _ => h

theorem succeeded {result : String} {clears : Nat} : (finish .succeeded result clears).Checked :=
  nofun

theorem releaseBody {command : OperationCommand} {service : Option OperationEvidence} :
    (releaseBody command service).Checked :=
  .demand fun _ => .ask rfl fun _ => .demand fun _ => .advance succeeded

theorem drainBody {command : OperationCommand} : (drainBody command).Checked := by
  refine ⟨rfl, fun r => .inl ?_⟩
  cases r with
  | ok evidence => exact .demand fun _ => .ask rfl fun _ => .releaseBody
  | error e =>
    refine ⟨rfl, fun r => ?_⟩
    cases r with
    | ok v => exact .inl trivial
    | error query =>
      by_cases hk : query.kind = .keyError
      · refine .inr ⟨⟨rfl, query, rfl, hk⟩, ?_⟩
        simp [hk, Final]
      · refine .inl ?_
        simp [hk, Checked]

theorem lifecycleBody {command : OperationCommand} {lease : Option Lease} {reconciling : Bool}
    (hx : command.Exits) : (lifecycleBody command lease reconciling).Checked := by
  have hexit : (exitBody command reconciling).Checked := by
    unfold exitBody
    split
    · exact .drainBody
    · refine .ask rfl fun prior => ?_
      cases prior with
      | some prior => exact .demand fun _ => .advance succeeded
      | none =>
        refine .ask rfl fun service => ?_
        cases service with
        | some service => exact .releaseBody
        | none => exact .drainBody
  unfold ReplicaLending.lifecycleBody
  rcases hx with hk | hk <;> rw [hk] <;> exact hexit

end Checked

end Body

namespace ControlPlane

variable {D : OperationCommand → Prop}

/-- The code of an exit's thread: it may finish as FAILED only with `D`. -/
def ExitBody (D : OperationCommand → Prop) (command : OperationCommand) (rest : Body) : Prop :=
  command.Exits → rest.Checked ∨ rest.Final ∧ D command

theorem discipline_exit : Discipline (ExitBody D) fun c => c.Exits → D c where
  starts _ _ _ _ hx := .inl (.lifecycleBody hx)
  fails _ _ _ h hx := (h hx).elim (fun hf => absurd rfl hf) And.right

/-- A denied binding query has to be worth `D`. -/
theorem answers_exit {s : ControlPlane} {w : Worker} {a : Act}
    (ha : ∀ j reply c next command, a = .answer j reply → w.phase = .running (.call c next) →
      s.journal.commands.get? w.operationId = some command → command.Exits → Body.Denies c reply →
      D command) : Answers (ExitBody D) s w a := by
  intro j reply c next command hj hp hc hb hx
  obtain ⟨-, hnext⟩ := (hb hx).resolve_right fun h => h.1
  obtain hnext | ⟨hd, hf⟩ := hnext reply
  · exact .inl hnext
  · exact .inr ⟨hf, ha j reply c next command hj hp hc hx hd⟩

end ControlPlane

end ReplicaLending
