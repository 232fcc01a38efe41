import ReplicaLending.Library.Guarantee
import ReplicaLending.Library.Refinement
/-!
# What is said of a program along its text

`Prog.Acts`, `Prog.Within` and `Contract.Spec` bound the steps of a program in different ways, and all of
them are shown by following how the program is put together. A `Judgement` is what that takes. A rule for a
method, or for a way to call one, is stated once, of every judgement under which the steps it makes are
free, and read off for each of them.
-/

open Prog

/-- A property of programs, with a rule for each way to build one. -/
structure Judgement (σ ω τ : Type) where
  Holds : {ε α : Type} → Prog σ ω τ ε α → Prop
  ret_holds : ∀ {ε α : Type} (a : α), Holds (.ret a : Prog σ ω τ ε α)
  err_holds : ∀ {ε α : Type} (e : ε), Holds (.err e : Prog σ ω τ ε α)
  bind_holds : ∀ {ε α β : Type} {p : Prog σ ω τ ε α} {f : α → Prog σ ω τ ε β},
    Holds p → (∀ a, Holds (f a)) → Holds (p.bind f)
  result_holds : ∀ {ε ε' α : Type} {p : Prog σ ω τ ε α}, Holds p →
    Holds (p.result : Prog σ ω τ ε' _)

namespace Judgement

variable {σ ω τ ε ε' α β : Type}

/-! ### The three kinds -/

/-- Every step is an `A`. -/
def acts (A : (σ → ω → Bool) → (σ → ω → σ) → Prop) : Judgement σ ω τ where
  Holds p := p.Acts A
  ret_holds _ := .ret
  err_holds _ := .err
  bind_holds := .bind
  result_holds := .result

/-- Every step from a state in `I` is an `R`, for as long as the state stays in `I`. -/
def within (I : σ → Prop) (R : σ → ω → σ → Prop) : Judgement σ ω τ where
  Holds p := p.Within I R fun _ => True
  ret_holds _ := trivial
  err_holds _ := trivial
  bind_holds hp hf := .bind hp fun a _ => hf a
  result_holds hp := .result hp (fun _ _ => trivial) fun _ => trivial

/-- Every step meets the contract, and `P` stays true. -/
def keeps (𝓒 : Contract σ) (P : σ → Prop) : Judgement σ ω τ where
  Holds p := 𝓒.Spec P p (fun _ => P) fun _ => P
  ret_holds _ := .ret fun _ _ h => h
  err_holds _ := .err fun _ _ h => h
  bind_holds := .bind
  result_holds hp := Contract.Spec.result (R := fun _ => P) hp

theorem acts_await {A : (σ → ω → Bool) → (σ → ω → σ) → Prop} {tag : τ} {ready : σ → ω → Bool}
    {f : σ → ω → Except ε α × σ} (h : A ready fun s o => (f s o).2) :
    (acts A).Holds (Prog.await tag ready f) := ⟨h, fun _ _ => .ofExcept⟩

theorem within_await {I : σ → Prop} {R : σ → ω → σ → Prop} {tag : τ} {ready : σ → ω → Bool}
    {f : σ → ω → Except ε α × σ} (h : ∀ s o, I s → R s o (f s o).2) :
    (within I R).Holds (Prog.await tag ready f) :=
  fun s o hs => ⟨h s o hs, fun _ => .ofExcept fun _ _ => trivial⟩

/-! ### What follows from the rules -/

namespace Holds

variable {𝓙 : Judgement σ ω τ} {p : Prog σ ω τ ε α}

theorem ret {a : α} : 𝓙.Holds (.ret a : Prog σ ω τ ε α) := 𝓙.ret_holds a

theorem err {e : ε} : 𝓙.Holds (.err e : Prog σ ω τ ε α) := 𝓙.err_holds e

theorem bind {f : α → Prog σ ω τ ε β} (hp : 𝓙.Holds p) (hf : ∀ a, 𝓙.Holds (f a)) :
    𝓙.Holds (p.bind f) := 𝓙.bind_holds hp hf

theorem result (hp : 𝓙.Holds p) : 𝓙.Holds (p.result : Prog σ ω τ ε' _) := 𝓙.result_holds hp

theorem ofExcept {r : Except ε α} : 𝓙.Holds (.ofExcept r : Prog σ ω τ ε α) := by
  cases r with
  | ok a => exact ret
  | error e => exact err

theorem tryCatch {h : ε → Prog σ ω τ ε' α} (hp : 𝓙.Holds p) (hh : ∀ e, 𝓙.Holds (h e)) :
    𝓙.Holds (p.tryCatch h) := by
  refine bind (result hp) fun r => ?_
  cases r with
  | ok a => exact ret
  | error e => exact hh e

theorem mapErr {f : ε → ε'} (hp : 𝓙.Holds p) : 𝓙.Holds (p.mapErr f) := tryCatch hp fun _ => err

theorem tryFinally {f : Prog σ ω τ ε Unit} (hp : 𝓙.Holds p) (hf : 𝓙.Holds f) :
    𝓙.Holds (p.tryFinally f) := bind (result hp) fun _ => bind hf fun _ => ofExcept

/-- What a part of a program returns is known to the rest of it, across a `mapErr` around the part. -/
theorem mapErr_bind {γ : Type} {f : α → Prog σ ω τ ε β} {h : ε → ε'} {g : β → Prog σ ω τ ε' γ}
    (hp : 𝓙.Holds p) (hf : ∀ a, 𝓙.Holds (((f a).mapErr h).bind g)) :
    𝓙.Holds (((p.bind f).mapErr h).bind g) := by
  rw [Prog.mapErr_bind, Prog.bind_assoc]
  exact bind (mapErr hp) hf

end Holds

end Judgement
