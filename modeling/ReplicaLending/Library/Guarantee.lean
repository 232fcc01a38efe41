import ReplicaLending.Library.Prog
/-!
# What the steps of a program do, whoever runs in between

The other half of a rely-guarantee argument. `Protocol` keeps an invariant of the states; a `Contract`
bounds the steps: every step of the program is a `guar`, provided the others move by `rely` and keep
`inv`, which is shown elsewhere. `Spec` has one rule for each way to build a program.
-/

open Prog

/-- What a thread may count on, and what each of its steps must be. -/
structure Contract (σ : Type) where
  inv : σ → Prop
  rely : σ → σ → Prop
  guar : σ → σ → Prop
  rely_trans : ∀ {s t u}, rely s t → rely t u → rely s u

namespace Contract

variable {σ ω τ ε ε' α β : Type} (𝓒 : Contract σ)

/-- Every step of an execution of the program from `s` is a `guar`; it returns in `Q` or raises in
`E`. -/
def Meets : Prog σ ω τ ε α → (α → σ → Prop) → (ε → σ → Prop) → σ → Prop
  | .ret a, Q, _, s => Q a s
  | .err e, _, E, s => E e s
  | .step _ ready act next, Q, E, s => ∀ t, 𝓒.rely s t → 𝓒.inv t → ∀ o, ready t o = true →
      𝓒.guar t (act t o) ∧ (𝓒.inv (act t o) → Meets (next t o) Q E (act t o))

/-- An assertion that the other threads leave alone. -/
def Stable (P : σ → Prop) : Prop := ∀ s t, 𝓒.inv s → P s → 𝓒.rely s t → 𝓒.inv t → P t

/-- From a state in `P` the program meets the contract, returns in `Q` and raises in `E`. -/
def Spec (P : σ → Prop) (p : Prog σ ω τ ε α) (Q : α → σ → Prop) (E : ε → σ → Prop) : Prop :=
  ∀ s, 𝓒.inv s → P s → 𝓒.Meets p Q E s

variable {𝓒}

namespace Meets

variable {p : Prog σ ω τ ε α} {Q Q' : α → σ → Prop} {E E' : ε → σ → Prop} {s t : σ}

/-- The other threads run before the next step. -/
theorem rely_step {tag : τ} {ready : σ → ω → Bool} {act : σ → ω → σ}
    {next : σ → ω → Prog σ ω τ ε α} (h : 𝓒.Meets (.step tag ready act next) Q E s)
    (hr : 𝓒.rely s t) : 𝓒.Meets (.step tag ready act next) Q E t :=
  fun u hu hi => h u (𝓒.rely_trans hr hu) hi

theorem mono (h : 𝓒.Meets p Q E s) (hi : 𝓒.inv s) (hQ : ∀ a s, 𝓒.inv s → Q a s → Q' a s)
    (hE : ∀ e s, 𝓒.inv s → E e s → E' e s) : 𝓒.Meets p Q' E' s := by
  induction p generalizing s with
  | ret a => exact hQ a s hi h
  | err e => exact hE e s hi h
  | step tag ready act next ih =>
    intro t hr ht o ho
    obtain ⟨hg, hnext⟩ := h t hr ht o ho
    exact ⟨hg, fun hi' => ih t o (hnext hi') hi'⟩

theorem bind {f : α → Prog σ ω τ ε β} {R : β → σ → Prop} (hi : 𝓒.inv s)
    (h : 𝓒.Meets p (fun a s => 𝓒.inv s → 𝓒.Meets (f a) R E s) E s) :
    𝓒.Meets (p.bind f) R E s := by
  induction p generalizing s with
  | ret a => exact h hi
  | err e => exact h
  | step tag ready act next ih =>
    intro t hr ht o ho
    obtain ⟨hg, hnext⟩ := h t hr ht o ho
    exact ⟨hg, fun hi' => ih t o hi' (hnext hi')⟩

theorem result {R : Except ε α → σ → Prop} {E' : ε' → σ → Prop}
    (h : 𝓒.Meets p (fun a => R (.ok a)) (fun e => R (.error e)) s) :
    𝓒.Meets (p.result : Prog σ ω τ ε' _) R E' s := by
  induction p generalizing s with
  | ret a => exact h
  | err e => exact h
  | step tag ready act next ih =>
    intro t hr ht o ho
    obtain ⟨hg, hnext⟩ := h t hr ht o ho
    exact ⟨hg, fun hi' => ih t o (hnext hi')⟩

end Meets

namespace Spec

variable {P P' : σ → Prop} {p : Prog σ ω τ ε α} {Q Q' : α → σ → Prop} {E E' : ε → σ → Prop}

theorem ret {a : α} (h : ∀ s, 𝓒.inv s → P s → Q a s) : 𝓒.Spec P (.ret a : Prog σ ω τ ε α) Q E := h

theorem err {e : ε} (h : ∀ s, 𝓒.inv s → P s → E e s) :
    𝓒.Spec P (.err e : Prog σ ω τ ε α) Q E := h

theorem conseq (h : 𝓒.Spec P p Q E) (hP : ∀ s, 𝓒.inv s → P' s → P s)
    (hQ : ∀ a s, 𝓒.inv s → Q a s → Q' a s) (hE : ∀ e s, 𝓒.inv s → E e s → E' e s) :
    𝓒.Spec P' p Q' E' :=
  fun s hi hp => (h s hi (hP s hi hp)).mono hi hQ hE

theorem bind {f : α → Prog σ ω τ ε β} {R : β → σ → Prop} (h : 𝓒.Spec P p Q E)
    (hf : ∀ a, 𝓒.Spec (Q a) (f a) R E) : 𝓒.Spec P (p.bind f) R E :=
  fun s hi hp => .bind hi ((h s hi hp).mono hi (fun a s _ hq hi => hf a s hi hq) fun _ _ _ h => h)

theorem ofExcept {r : Except ε α} (hok : ∀ a, r = .ok a → ∀ s, 𝓒.inv s → P s → Q a s)
    (herr : ∀ e, r = .error e → ∀ s, 𝓒.inv s → P s → E e s) :
    𝓒.Spec P (Prog.ofExcept r : Prog σ ω τ ε α) Q E := by
  cases r with
  | ok a => exact hok a rfl
  | error e => exact herr e rfl

theorem result {R : Except ε α → σ → Prop} {E' : ε' → σ → Prop}
    (h : 𝓒.Spec P p (fun a => R (.ok a)) (fun e => R (.error e))) :
    𝓒.Spec P (p.result : Prog σ ω τ ε' _) R E' :=
  fun s hi hp => (h s hi hp).result

theorem pre (h : 𝓒.Spec P p Q E) (hP : ∀ s, P' s → P s) : 𝓒.Spec P' p Q E :=
  .conseq h (fun s _ => hP s) (fun _ _ _ h => h) fun _ _ _ h => h

/-- Either outcome of the program as a value. -/
theorem caught {E' : ε' → σ → Prop} (hp : 𝓒.Spec P p Q E) :
    𝓒.Spec P (p.result : Prog σ ω τ ε' _)
      (fun r s => (∀ a, r = .ok a → Q a s) ∧ ∀ e, r = .error e → E e s) E' :=
  .result (.conseq hp (fun _ _ h => h)
    (fun _ _ _ h => ⟨fun _ ha => Except.ok.inj ha ▸ h, fun _ he => (by cases he)⟩)
    fun _ _ _ h => ⟨fun _ ha => (by cases ha), fun _ he => Except.error.inj he ▸ h⟩)

theorem tryCatch {h : ε → Prog σ ω τ ε' α} {E' : ε' → σ → Prop} (hp : 𝓒.Spec P p Q E)
    (hh : ∀ e, 𝓒.Spec (E e) (h e) Q E') : 𝓒.Spec P (p.tryCatch h) Q E' := by
  refine .bind (.caught hp) fun r => ?_
  cases r with
  | ok a => exact .ret fun _ _ hq => hq.1 a rfl
  | error e => exact .pre (hh e) fun _ hq => hq.2 e rfl

theorem mapErr {f : ε → ε'} {E' : ε' → σ → Prop} (hp : 𝓒.Spec P p Q fun e => E' (f e)) :
    𝓒.Spec P (p.mapErr f) Q E' :=
  .tryCatch hp fun _ => .err fun _ _ he => he

/-- One step: its precondition is stable, and the step itself is checked against it. -/
theorem await {tag : τ} {ready : σ → ω → Bool} {f : σ → ω → Except ε α × σ} (hP : 𝓒.Stable P)
    (h : ∀ s o, 𝓒.inv s → P s → ready s o = true → 𝓒.guar s (f s o).2 ∧
      (𝓒.inv (f s o).2 → (∀ a, (f s o).1 = .ok a → Q a (f s o).2) ∧
        ∀ e, (f s o).1 = .error e → E e (f s o).2)) :
    𝓒.Spec P (Prog.await tag ready f) Q E := by
  intro s hi hp t hr ht o ho
  obtain ⟨hg, hends⟩ := h t o ht (hP s t hi hp hr ht) ho
  refine ⟨hg, fun hi' => ?_⟩
  show 𝓒.Meets (Prog.ofExcept (f t o).1) Q E (f t o).2
  cases hf : (f t o).1 with
  | ok a => exact (hends hi').1 a hf
  | error e => exact (hends hi').2 e hf

theorem call {tag : τ} {f : σ → ω → Except ε α × σ} (hP : 𝓒.Stable P)
    (h : ∀ s o, 𝓒.inv s → P s → 𝓒.guar s (f s o).2 ∧
      (𝓒.inv (f s o).2 → (∀ a, (f s o).1 = .ok a → Q a (f s o).2) ∧
        ∀ e, (f s o).1 = .error e → E e (f s o).2)) :
    𝓒.Spec P (Prog.call tag f) Q E :=
  .await hP fun s o hi hp _ => h s o hi hp

/-- What an invariance proof of the program has shown of its outcome holds here too. -/
theorem and_hoare {𝓟 : Protocol σ ω τ} (hinv : ∀ s, 𝓒.inv s → 𝓟.inv s)
    (hrely : ∀ s t, 𝓒.rely s t → 𝓟.rely s t) (hallowed : ∀ tag s o, 𝓟.allowed tag s o)
    (h : 𝓟.Hoare P p Q E) (h' : 𝓒.Spec P p Q' E') :
    𝓒.Spec P p (fun a s => Q a s ∧ Q' a s) fun e s => E e s ∧ E' e s := by
  intro s hi hp
  have hm := h' s hi hp
  have hs := h s (hinv s hi) hp
  clear h h' hp
  induction p generalizing s with
  | ret a => exact ⟨hs, hm⟩
  | err e => exact ⟨hs, hm⟩
  | step tag ready act next ih =>
    intro t hr ht o ho
    obtain ⟨hg, hnext⟩ := hm t hr ht o ho
    obtain ⟨-, hsafe⟩ := hs t (hrely s t hr) (hinv t ht)
    exact ⟨hg, fun hi' => ih t o _ hi' (hnext hi') (hsafe o ho (hallowed tag t o)).2⟩

end Spec

/-- The contract of threads that start, and stay, where `F` holds. -/
def assuming (𝓒 : Contract σ) (F : σ → Prop) : Contract σ :=
  { 𝓒 with inv := fun s => 𝓒.inv s ∧ F s }

/-- What nobody's steps take away may be assumed throughout. -/
theorem Spec.of_assuming {F P : σ → Prop} {p : Prog σ ω τ ε α} {Q : α → σ → Prop} {E : ε → σ → Prop}
    (hrely : ∀ s t, 𝓒.rely s t → F s → F t) (hguar : ∀ s t, 𝓒.guar s t → F s → F t)
    (h : (𝓒.assuming F).Spec P p Q E) : 𝓒.Spec (fun s => F s ∧ P s) p Q E := by
  rintro s hi ⟨hF, hp⟩
  have hm := h s ⟨hi, hF⟩ hp
  clear h hp
  induction p generalizing s with
  | ret a => exact hm
  | err e => exact hm
  | step tag ready act next ih =>
    intro t hr ht o ho
    have hFt := hrely s t hr hF
    obtain ⟨hg, hnext⟩ := hm t hr ⟨ht, hFt⟩ o ho
    have hF' := hguar t _ hg hFt
    exact ⟨hg, fun hi' => ih t o _ hi' hF' (hnext ⟨hi', hF'⟩)⟩

end Contract
