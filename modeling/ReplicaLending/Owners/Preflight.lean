import ReplicaLending.Owners.Bindings
/-!
# What an exit does before its operation is bound

An exit changes something on its owners only after `prepare_exit` has bound its operation to the
target: as long as the operation is unbound, every step of every call of it is silent (`Cautious`),
and only `prepare_exit` can bind it. Without `force` that takes `prepare_exit` one step
(`enterNatural_cases`); with it, the reads of the preflight come before.
-/

namespace ReplicaLending

open TaskProg TaskState Rollouter Trainer

/-- The operation has no pending target. -/
def Unbound (q : String) (s : TaskState) : Prop :=
  s.rollouter.pendingOperationTargets.get? q = none

instance (q : String) (s : TaskState) : Decidable (Unbound q s) :=
  inferInstanceAs (Decidable (_ = none))

/-- The operation is not bound, if the program may not, and as long as it is not, nothing happens. -/
def Tentative (mayBind : Prop) (q : String) (s : TaskState) (o : Choice) (t : TaskState) : Prop :=
  (mayBind ∨ Unbound q t) ∧ (Unbound q t → s.Silent o t)

def cautious (mayBind : Prop) (q : String) : Judgement TaskState Choice Event :=
  .within (Unbound q) (Tentative mayBind q)

/-- Until it binds the operation, if it may, the program does nothing. -/
abbrev Cautious {ε α : Type} (mayBind : Prop) (q : String) (p : Prog TaskState Choice Event ε α) : Prop :=
  (cautious mayBind q).Holds p

/-- What it returns until then is a `Q`. -/
abbrev CautiousWith {ε α : Type} (mayBind : Prop) (q : String) (Q : α → Prop)
    (p : Prog TaskState Choice Event ε α) : Prop :=
  p.Within (Unbound q) (Tentative mayBind q) Q

namespace Remote

/-- The calls of a DONATE or REMOVE. -/
def ofExit : Remote → Bool
  | queryReleaseOperation | reconcileExit | prepareExit | getPendingTarget | removeAndCommit
  | finalizeRelease | advanceLease _ => true
  | prepareReplica _ | bootstrapAndPublish | restoreAndPublish => false

end Remote

theorem Looks.tentative {b : Prop} {q : String} {s t : TaskState} {o : Choice} (h : Looks o s t)
    (hs : Unbound q s) : Tentative b q s o t := by
  rcases h with ⟨g, rfl⟩ | rfl
  · exact ⟨.inr hs, fun _ => ⟨⟨rfl, rfl⟩, .inl ⟨rfl, rfl⟩⟩⟩
  · exact ⟨.inr hs, fun _ => ⟨⟨rfl, rfl⟩, .inr ⟨rfl, rfl⟩⟩⟩

instance {b : Prop} {q : String} : Reads (cautious b q) where
  looks h := Judgement.within_await fun s o hs => (h s o).tentative hs

namespace Cautious

variable {b : Prop} {q : String} {ε α β : Type} {Q : α → Prop} {R : β → Prop}

/-! ## What a program returns -/

theorem bindWith {p : Prog TaskState Choice Event ε α} {f : α → Prog TaskState Choice Event ε β}
    (hp : CautiousWith b q Q p) (hf : ∀ a, Q a → Cautious b q (f a)) : Cautious b q (p.bind f) :=
  Prog.Within.bind hp hf

/-- A program that cannot go on. -/
theorem stop {p : Prog TaskState Choice Event ε α} {f : α → Prog TaskState Choice Event ε β}
    (hp : CautiousWith b q (fun _ => False) p) : CautiousWith b q R (p.bind f) :=
  Prog.Within.bind hp fun _ h => h.elim

theorem lookWith {tag : Event} {f : TaskState → Choice → Except ε α × TaskState}
    (h : ∀ s o, Looks o s (f s o).2) (hQ : ∀ s o, Unbound q s → ∀ a, (f s o).1 = .ok a → Q a) :
    CautiousWith b q Q (Prog.call tag f) :=
  Prog.Within.call fun s o hs => ⟨(h s o).tentative hs, fun _ => hQ s o hs⟩

theorem peekWith {f : TaskState → Except PyErr α} (h : ∀ s, Unbound q s → ∀ a, f s = .ok a → Q a) :
    CautiousWith b q Q (TaskProg.peek f) := lookWith (fun _ _ => .refl) fun s _ => h s

theorem requireWith {c : Prop} [Decidable c] {e : PyErr} :
    CautiousWith b q (fun _ => c) (TaskProg.require c e) := by
  unfold TaskProg.require
  split
  · exact ‹c›
  · exact True.intro

/-! ## Methods that need the binding -/

theorem getPendingTarget_unbound {s : TaskState} (h : Unbound q s) :
    getPendingTarget s q = .error (.keyError "no pending lifecycle target") := by
  unfold getPendingTarget
  rw [show s.rollouter.pendingOperationTargets.get? q = none from h]

theorem getPendingTarget :
    CautiousWith b q (fun _ => False) (TaskProg.peek fun s => Rollouter.getPendingTarget s q) :=
  peekWith fun s hs a ha => by rw [getPendingTarget_unbound hs] at ha; cases ha

theorem pendingTarget : CautiousWith b q (fun _ => False) (Trainer.pendingTarget q) := by
  refine Prog.Within.bind (P := fun _ => True) (lookWith (fun _ _ => .refl) fun _ _ _ _ _ => trivial)
    fun _ _ => Prog.Within.bind (P := fun r => ∀ a, r = .ok a → False)
      (Prog.Within.result getPendingTarget (fun _ h => h.elim) fun _ _ he => by cases he)
      fun r hr => lookWith (fun _ _ => .refl) fun s o _ a ha => ?_
  dsimp only at ha
  split at ha
  · cases ha
  · exact hr a ha

instance : Targets (cautious b q) q fun _ => False where
  target _ := stop (Prog.Within.mapErr pendingTarget)

variable {d : Deployment} {key : ReplicaKey}

theorem finalizeRelease : Cautious b q (Rollouter.finalizeRelease d q) := by
  refine stop (peekWith fun s hs a ha => ?_)
  rw [getPendingTarget_unbound hs] at ha
  cases ha

theorem commitServiceChange : Cautious b q (Rollouter.commitServiceChange d q) := by
  refine stop (lookWith (fun _ _ => .refl) fun s o hs a ha => ?_)
  dsimp only at ha
  rw [getPendingTarget_unbound hs] at ha
  cases ha

theorem quarantineDormantRestore :
    Cautious b q (TaskProg.call (Rollouter.quarantineDormantRestore q)) := by
  refine Judgement.within_await fun s o hs => ?_
  have he : Rollouter.quarantineDormantRestore q s o =
      (.error (.keyError "no pending lifecycle target"), s) := by
    unfold Rollouter.quarantineDormantRestore
    rw [getPendingTarget_unbound hs]
  rw [he]
  exact Looks.refl.tentative hs

theorem reconcileExit : Cautious b q (Trainer.reconcileExit d q) :=
  Judgement.Holds.reconcileExit commitServiceChange

theorem removeAndCommit : Cautious b q (Trainer.removeAndCommit d q) :=
  .bind .acquire fun _ => .tryFinally (.tryCatch (stop (Prog.Within.mapErr (stop pendingTarget)))
    fun _ => .bind (.when .block) fun _ => .err) .release

/-! ## `prepare_exit` -/

theorem enterDraining_cases {state : ReplicaState} (s : TaskState) (o : Choice) :
    (∃ e, enterDraining key q state s o = (.error e, s)) ∨
      ∃ t, enterDraining key q state s o = (.ok (), t) ∧ ¬ Unbound q t := by
  have hbound : ∀ t, ¬ Unbound q (bindTarget t q key) := fun t h => by
    rw [Unbound, bindTarget, Dict.get?_insert_self] at h
    cases h
  unfold enterDraining
  split
  · unfold onManager
    dsimp only
    cases s.manager.transitionReplica key .draining with
    | ok m => exact .inr ⟨_, rfl, hbound _⟩
    | error e => exact .inl ⟨e, rfl⟩
  · exact .inr ⟨_, rfl, hbound _⟩

/-- It is rejected without a change, or the operation is bound. -/
theorem enterNatural_cases (s : TaskState) (o : Choice) :
    (∃ e, enterNatural key q s o = (.error e, s)) ∨
      ∃ t, enterNatural key q s o = (.ok (), t) ∧ ¬ Unbound q t := by
  unfold enterNatural
  split
  · exact .inl ⟨_, rfl⟩
  · exact .inl ⟨_, rfl⟩
  · split
    · exact enterDraining_cases s o
    · exact .inl ⟨_, rfl⟩

theorem entering {tag : Event} {f : TaskState → Choice → Except PyErr Unit × TaskState}
    (h : ∀ s o, (∃ e, f s o = (.error e, s)) ∨ ∃ t, f s o = (.ok (), t) ∧ ¬ Unbound q t) :
    CautiousWith True q (fun _ => False) (Prog.call tag f) := by
  refine Prog.Within.call fun s o hs => ?_
  obtain ⟨e, he⟩ | ⟨t, ht, hb⟩ := h s o
  · rw [he]
    exact ⟨Looks.refl.tentative hs, fun _ a ha => by cases ha⟩
  · rw [ht]
    exact ⟨⟨.inl trivial, fun hu => absurd hu hb⟩, fun hu => absurd hu hb⟩

theorem naturalExit : Cautious True q (Rollouter.naturalExit d key q) := stop (entering enterNatural_cases)

theorem prepareForceExit {kind : ReplicaKind} {state : ReplicaState} :
    Cautious True q (Rollouter.prepareForceExit d key q kind state none) := by
  refine .bind .require fun _ => bindWith requireWith fun _ hstate => .bind .require fun _ =>
    .bind (.readRpc (n := 2)) fun _ => .bind .require fun _ => .bind (.readRpc (n := 2)) fun _ =>
      .bind .require fun _ => .bind .peek fun _ => stop ?_
  -- an unbound operation cannot resume, so the replica was ACTIVE
  have hactive : state = .active := hstate.resolve_right fun h => by cases h.2
  unfold TaskProg.when
  rw [if_pos hactive]
  exact entering enterDraining_cases

theorem prepareExit : Cautious True q (Rollouter.prepareExit d key q true) := by
  refine .bind .peek fun _ => bindWith (Q := fun previous => previous = none)
    (peekWith fun s hs previous hp => ?_) fun _ hprevious => .bind ?_ fun _ => .still fun _ _ => rfl
  · cases hc : checkBinding s q key with
    | error e => rw [hc] at hp; cases hp
    | ok u =>
      rw [hc] at hp
      cases hp
      exact hs
  · rw [hprevious]
    exact prepareForceExit

/-! ## All calls of an exit -/

theorem mono {b' : Prop} {p : Prog TaskState Choice Event ε α} (hb : b → b') (hp : Cautious b q p) :
    Cautious b' q p :=
  Prog.Within.mono hp (fun _ _ _ h => ⟨h.1.imp_left hb, h.2⟩) fun _ h => h

theorem getPendingTargetCall {command : OperationCommand} :
    Cautious b command.operationId (Remote.getPendingTarget.program d command) :=
  stop getPendingTarget

theorem program {command : OperationCommand} {c : Remote} (hc : c.ofExit = true) :
    Cautious (c = .prepareExit) command.operationId (c.program d command) := by
  cases c with
  | queryReleaseOperation => exact .peek
  | reconcileExit => exact reconcileExit
  | getPendingTarget => exact getPendingTargetCall
  | removeAndCommit => exact .bind removeAndCommit fun _ => .ret
  | finalizeRelease => exact .bind finalizeRelease fun _ => .ret
  | advanceLease => exact .ret
  | prepareExit =>
    refine mono (b := True) (fun _ => rfl) (.bind ?_ fun _ => .ret)
    split
    · exact prepareExit
    · exact naturalExit
  | prepareReplica | bootstrapAndPublish | restoreAndPublish => cases hc

theorem nested : ∀ {c : Nested}, Cautious b q (c.program d q)
  | .commitServiceChange => commitServiceChange
  | .finalizeRelease => .bind finalizeRelease fun _ => .ret
  | .quarantineDormantRestore => .bind quarantineDormantRestore fun _ => .ret

end Cautious

end ReplicaLending
