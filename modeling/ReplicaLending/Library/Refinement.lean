import ReplicaLending.Library.Machine
import ReplicaLending.Library.Prog
/-!
# One machine inside another

`Prog.Acts A`: every step of a program is an `A`, where `A` sees the step as a function of the state and not
only what it does from one state. `Machine.RunWhere.simulates`: a relation that every step keeps, against
any number of steps of the other machine, makes every run a run of the other machine.
-/

namespace Prog

variable {σ ω τ ε ε' α β : Type}

/-- Every step of the program, as a wait and an update, is an `A`. -/
def Acts (A : (σ → ω → Bool) → (σ → ω → σ) → Prop) : Prog σ ω τ ε α → Prop
  | ret _ => True
  | err _ => True
  | step _ ready act next => A ready act ∧ ∀ s o, (next s o).Acts A

namespace Acts

variable {A : (σ → ω → Bool) → (σ → ω → σ) → Prop} {p : Prog σ ω τ ε α}

theorem ret {a : α} : (ret a : Prog σ ω τ ε α).Acts A := trivial

theorem err {e : ε} : (err e : Prog σ ω τ ε α).Acts A := trivial

theorem bind {f : α → Prog σ ω τ ε β} (hp : p.Acts A) (hf : ∀ a, (f a).Acts A) : (p.bind f).Acts A := by
  induction p with
  | ret a => exact hf a
  | err e => trivial
  | step tag ready act next ih => exact ⟨hp.1, fun s o => ih s o (hp.2 s o)⟩

theorem result (hp : p.Acts A) : (p.result : Prog σ ω τ ε' _).Acts A := by
  induction p with
  | ret a => trivial
  | err e => trivial
  | step tag ready act next ih => exact ⟨hp.1, fun s o => ih s o (hp.2 s o)⟩

theorem ofExcept {r : Except ε α} : (ofExcept r : Prog σ ω τ ε α).Acts A := by
  cases r <;> trivial

theorem mono {B : (σ → ω → Bool) → (σ → ω → σ) → Prop} (hp : p.Acts A)
    (hA : ∀ ready act, A ready act → B ready act) : p.Acts B := by
  induction p with
  | ret a => trivial
  | err e => trivial
  | step tag ready act next ih => exact ⟨hA _ _ hp.1, fun s o => ih s o (hp.2 s o)⟩

end Acts

end Prog

namespace Machine

variable {σ τ ℓ κ : Type*} {M : Machine σ ℓ} {N : Machine τ κ} {P : σ → ℓ → σ → Prop}
  {Q : τ → κ → τ → Prop} {s s' : σ}

/-- Steps that are matched one by one make a run that is matched. -/
theorem RunWhere.simulates {R : σ → τ → Prop}
    (hstep : ∀ {s l s' u}, R s u → M.step s l s' → P s l s' → ∃ u', N.RunWhere Q u u' ∧ R s' u')
    (h : M.RunWhere P s s') {u : τ} (hu : R s u) : ∃ u', N.RunWhere Q u u' ∧ R s' u' := by
  induction h with
  | refl => exact ⟨u, .refl u, hu⟩
  | tail _ hs hP ih =>
    obtain ⟨v, hv, hR⟩ := ih
    obtain ⟨w, hw, hR'⟩ := hstep hR hs hP
    exact ⟨w, hv.trans hw, hR'⟩

end Machine
