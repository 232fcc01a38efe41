import ReplicaLending.Owners.Model
import ReplicaLending.Task.Relaying
/-!
# Which bindings an owner's call touches

`_pending_operation_targets` is keyed by operation, and every call of the Rollouter or the Trainer, also one
that a Trainer method has given up on, writes the entry of its own operation only.
-/

namespace ReplicaLending

open TaskProg TaskState Rollouter

namespace Owned

variable {q : String} {d : Deployment} {key : ReplicaKey}

theorem naturalExit : Owned q (Rollouter.naturalExit d key q) := by
  have hentered (s : TaskState) (o : Choice) : Beside s (enterNatural key q s o).2 ∧
      SameBindings q s (enterNatural key q s o).2 := by
    unfold enterNatural
    split
    · exact ⟨⟨rfl, rfl⟩, .of_eq rfl⟩
    · exact ⟨⟨rfl, rfl⟩, .of_eq rfl⟩
    · split
      · exact enterDraining s o
      · exact ⟨⟨rfl, rfl⟩, .of_eq rfl⟩
  have henter : Owned q (TaskProg.call (enterNatural key q)) :=
    Judgement.acts_await ⟨.beside fun s o => (hentered s o).1, fun s o => (hentered s o).2⟩
  exact .bind henter fun _ => .bind .beginDrainOnce fun _ => .bind .require fun _ =>
    .bind .awaitNaturalDrain fun _ => .still fun _ _ => rfl

theorem program {command : OperationCommand} :
    ∀ {c : Remote}, Owned command.operationId (c.program d command)
  | .prepareReplica spec => .bind prepareReplica fun r => by cases r <;> exact .ret
  | .bootstrapAndPublish => .bind bootstrapAndPublish fun _ => .ret
  | .restoreAndPublish => .bind restoreAndPublish fun _ => .ret
  | .queryReleaseOperation => .peek
  | .reconcileExit => reconcileExit
  | .prepareExit => by
    refine .bind ?_ fun _ => .ret
    split
    · exact .prepareExit
    · exact naturalExit
  | .getPendingTarget => .bind .peek fun _ => .ret
  | .removeAndCommit => .bind removeAndCommit fun _ => .ret
  | .finalizeRelease => .bind finalizeRelease fun _ => .ret
  | .advanceLease _ => .ret

theorem nested : ∀ {c : Nested}, Owned q (c.program d q)
  | .commitServiceChange => .commitServiceChange
  | .finalizeRelease => .bind finalizeRelease fun _ => .ret
  | .quarantineDormantRestore => .bind quarantineDormantRestore fun _ => .ret

end Owned

end ReplicaLending
