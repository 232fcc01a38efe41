import ReplicaLending.Task.Assertions
import ReplicaLending.Task.Walks
/-!
# What the contract of a lifecycle thread asks of its steps

Most steps of a thread touch neither the Manager, nor the runtimes, nor the journal, nor the evidence. A
contract under which these are free (`Quiet`) gives a `Judgement`, with the rules of `Task/Walks.lean`.
-/

namespace ReplicaLending

open TaskState TaskProg Rollouter Trainer

/-- The others leave the Manager alone, and so may a step of the thread. -/
class Quiet (𝓒 : Contract TaskState) : Prop where
  manager : ∀ {s t}, 𝓒.rely s t → t.manager = s.manager
  quiet : ∀ {s t : TaskState}, t.manager = s.manager → t.world = s.world → t.journal = s.journal →
    t.outbox = s.outbox → 𝓒.guar s t

/-- The thread is that of the command's operation: only its target is ever bound to it. -/
class Serves (𝓒 : Contract TaskState) (c : OperationCommand) : Prop where
  bound : ∀ {s k}, 𝓒.inv s → s.rollouter.pendingOperationTargets.get? c.operationId = some k →
    k = c.target

/-- Every step meets the contract, and what is said of the Manager stays true. -/
def walk (𝓒 : Contract TaskState) (F : LLMServerManager → Prop) : Judgement TaskState Choice Event :=
  .keeps 𝓒 fun s => F s.manager

abbrev Walks {ε α : Type} (𝓒 : Contract TaskState) (F : LLMServerManager → Prop)
    (p : Prog TaskState Choice Event ε α) : Prop := (walk 𝓒 F).Holds p

variable {𝓒 : Contract TaskState} {F : LLMServerManager → Prop} {c : OperationCommand} {ε α : Type}

/-- Facts about the Manager are the thread's own. -/
theorem stable_of_manager [Quiet 𝓒] (F : LLMServerManager → Prop) : 𝓒.Stable fun s => F s.manager := by
  intro s t _ h hr _
  rw [Quiet.manager hr]
  exact h

namespace Walks

theorem of_spec {P : TaskState → Prop} {p : Prog TaskState Choice Event ε α}
    {Q : α → TaskState → Prop} {E : ε → TaskState → Prop} (h : 𝓒.Spec P p Q E) (hP : ∀ s, P s) :
    Walks 𝓒 (fun _ => True) p :=
  h.conseq (fun s _ _ => hP s) (fun _ _ _ _ => trivial) fun _ _ _ _ => trivial

variable [Quiet 𝓒]

theorem await {tag : Event} {ready : TaskState → Choice → Bool}
    {f : TaskState → Choice → Except ε α × TaskState}
    (h : ∀ s o, 𝓒.inv s → F s.manager → 𝓒.guar s (f s o).2 ∧ F (f s o).2.manager) :
    Walks 𝓒 F (Prog.await tag ready f) :=
  Contract.Spec.await (stable_of_manager F) fun s o hi hF _ =>
    ⟨(h s o hi hF).1, fun _ => ⟨fun _ _ => (h s o hi hF).2, fun _ _ => (h s o hi hF).2⟩⟩

theorem call {tag : Event} {f : TaskState → Choice → Except ε α × TaskState}
    (h : ∀ s o, 𝓒.inv s → F s.manager → 𝓒.guar s (f s o).2 ∧ F (f s o).2.manager) :
    Walks 𝓒 F (Prog.call tag f) := await h

/-- A step that is quiet. -/
theorem quiet {s t : TaskState} (hm : t.manager = s.manager) (hw : t.world = s.world)
    (hj : t.journal = s.journal) (ho : t.outbox = s.outbox) (hF : F s.manager) :
    𝓒.guar s t ∧ F t.manager := ⟨Quiet.quiet hm hw hj ho, by rw [hm]; exact hF⟩

end Walks

variable [Quiet 𝓒]

instance : Free (walk 𝓒 F) where
  aside h := Walks.await fun s o _ hF =>
    Walks.quiet (h s o).manager (h s o).world (h s o).journal (h s o).outbox hF
  lbCall := Walks.call fun s o _ hF => by
    cases o.fault <;> exact Walks.quiet rfl rfl rfl rfl hF

instance {q : String} : Binds (walk 𝓒 F) q where
  rebinds h := Walks.call fun s o _ hF =>
    Walks.quiet (h s o).manager (h s o).world (h s o).journal (h s o).outbox hF

/-- The target a method asks for is the operation's. -/
theorem Walks.pendingTarget [Serves 𝓒 c] : 𝓒.Spec (fun s => F s.manager)
    (Trainer.pendingTarget c.operationId) (fun k s => k = c.target ∧ F s.manager)
    fun _ s => F s.manager := by
  have hquiet {s : TaskState} : 𝓒.guar s s := Quiet.quiet rfl rfl rfl rfl
  refine .bind (Q := fun _ s => F s.manager) (.call (stable_of_manager F) fun s o _ h =>
    ⟨hquiet, fun _ => ⟨fun _ _ => h, fun _ _ => h⟩⟩) fun _ =>
      .bind (Q := fun r s => (∀ k, r = .ok k → k = c.target) ∧ F s.manager)
        (.result (.call (stable_of_manager F) fun s o hi h => ?_)) fun r =>
          .call (stable_of_manager fun m => (∀ k, r = .ok k → k = c.target) ∧ F m) fun s o _ h => ?_
  · refine ⟨hquiet, fun _ => ⟨fun k hk => ⟨fun k' hk' => ?_, h⟩, fun e he => ⟨fun k' hk' => ?_, h⟩⟩⟩
    · cases hk'
      exact Serves.bound hi (getPendingTarget_eq hk)
    · cases hk'
  · refine ⟨hquiet, fun _ => ⟨fun k hk => ?_, fun _ _ => h.2⟩⟩
    dsimp only at hk
    split at hk
    · cases hk
    · exact ⟨h.1 k hk, h.2⟩

instance [Serves 𝓒 c] : Targets (walk 𝓒 F) c.operationId (· = c.target) where
  target hf := Contract.Spec.bind (.mapErr Walks.pendingTarget) fun k s hi h => hf k h.1 s hi h.2

end ReplicaLending
