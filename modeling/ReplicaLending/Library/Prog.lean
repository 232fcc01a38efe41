import Mathlib.Logic.Relation
/-!
# Programs that share a state, and rely-guarantee rules for them

A `Prog` is the code of one thread as the sequence of its atomic steps: a step waits until it is
`ready`, then reads and writes the shared state `σ` and goes on with the rest of the code. What the
step cannot determine (a lost message, a clock, a failing device) is an input of type `ω`. A thread
ends by returning or by raising. Other threads run between any two steps.

* `Prog.call`, `Prog.await` — one step; `bind`, `tryCatch`, `tryFinally` put programs together.
* `Steps` — a program runs for a while and nobody else does.
* `withHistory` — a program next to a record of the steps it has made.
* `Exec` — a program runs to its end on given inputs, the others move by a relation in between;
  `eval` computes the run in which they do nothing.
* `Yields`, `Within` — what a program returns, and what its steps do, whoever runs in between.
* `Protocol` — what all threads keep (`inv`), what the others may do between two steps of this one
  (`rely`), which steps a run is restricted to (`allowed`) and what is claimed where (`claim`).
* `Safe`, `Hoare` — every execution of a program under a protocol keeps `inv`, meets `claim` before
  each step, and ends in the postcondition; one rule for each way to build a program.
-/

/-- The rest of a thread. -/
inductive Prog (σ ω τ ε α : Type) where
  | ret (a : α)
  | err (e : ε)
  | step (tag : τ) (ready : σ → ω → Bool) (act : σ → ω → σ) (next : σ → ω → Prog σ ω τ ε α)

namespace Prog

variable {σ ω τ ε ε' α β : Type}

def bind : Prog σ ω τ ε α → (α → Prog σ ω τ ε β) → Prog σ ω τ ε β
  | ret a, f => f a
  | err e, _ => err e
  | step tag ready act next, f => step tag ready act fun s o => (next s o).bind f

instance : Monad (Prog σ ω τ ε) where
  pure := ret
  bind := bind

/-- The outcome of a program as a value. -/
def result : Prog σ ω τ ε α → Prog σ ω τ ε' (Except ε α)
  | ret a => ret (.ok a)
  | err e => ret (.error e)
  | step tag ready act next => step tag ready act fun s o => (next s o).result

def ofExcept : Except ε α → Prog σ ω τ ε α
  | .ok a => ret a
  | .error e => err e

/-- `try: p except e: h e`. -/
def tryCatch (p : Prog σ ω τ ε α) (h : ε → Prog σ ω τ ε' α) : Prog σ ω τ ε' α :=
  p.result.bind fun
    | .ok a => ret a
    | .error e => h e

/-- `try: p finally: f`. -/
def tryFinally (p : Prog σ ω τ ε α) (f : Prog σ ω τ ε Unit) : Prog σ ω τ ε α :=
  p.result.bind fun r => f.bind fun _ => ofExcept r

/-- What a program raises, with something added that the handler needs. -/
def mapErr (f : ε → ε') (p : Prog σ ω τ ε α) : Prog σ ω τ ε' α := p.tryCatch fun e => err (f e)

/-- One step that waits for `ready`. -/
def await (tag : τ) (ready : σ → ω → Bool) (f : σ → ω → Except ε α × σ) : Prog σ ω τ ε α :=
  step tag ready (fun s o => (f s o).2) fun s o => ofExcept (f s o).1

/-- One step. -/
def call (tag : τ) (f : σ → ω → Except ε α × σ) : Prog σ ω τ ε α := await tag (fun _ _ => true) f

theorem bind_assoc {γ : Type} (p : Prog σ ω τ ε α) (f : α → Prog σ ω τ ε β)
    (g : β → Prog σ ω τ ε γ) : (p.bind f).bind g = p.bind fun a => (f a).bind g := by
  induction p with
  | ret a => rfl
  | err e => rfl
  | step tag ready act next ih => simp only [bind, ih]

theorem bind_ret (p : Prog σ ω τ ε α) : p.bind ret = p := by
  induction p with
  | ret a => rfl
  | err e => rfl
  | step tag ready act next ih => simp only [bind, ih]

/-- `bind` is `result` and a case distinction. -/
theorem bind_eq_result (p : Prog σ ω τ ε α) (f : α → Prog σ ω τ ε β) :
    p.bind f = (p.result : Prog σ ω τ ε _).bind fun
      | .ok a => f a
      | .error e => err e := by
  induction p with
  | ret a => rfl
  | err e => rfl
  | step tag ready act next ih => simp only [bind, result, ih]

theorem result_bind (p : Prog σ ω τ ε α) (f : α → Prog σ ω τ ε β) :
    ((p.bind f).result : Prog σ ω τ ε' _) = (p.result : Prog σ ω τ ε' _).bind fun
      | .ok a => (f a).result
      | .error e => ret (.error e) := by
  induction p with
  | ret a => rfl
  | err e => rfl
  | step tag ready act next ih => simp only [bind, result, ih]

theorem mapErr_bind (p : Prog σ ω τ ε α) (f : α → Prog σ ω τ ε β) (g : ε → ε') :
    (p.bind f).mapErr g = (p.mapErr g).bind fun a => (f a).mapErr g := by
  induction p with
  | ret a => rfl
  | err e => rfl
  | step tag ready act next ih => exact congrArg (step tag ready act) (funext₂ ih)

theorem mapErr_id (p : Prog σ ω τ ε α) : p.mapErr id = p := by
  induction p with
  | ret a => rfl
  | err e => rfl
  | step tag ready act next ih => exact congrArg (step tag ready act) (funext₂ ih)

/-! ### History variables -/

section History

variable {γ : Type} (g : τ → σ → σ → γ → γ)

/-- The program next to a record: `g` enters each step, with the state before and after it. -/
def withHistory : Prog σ ω τ ε α → Prog (σ × γ) ω τ ε α
  | ret a => ret a
  | err e => err e
  | step tag ready act next => step tag (fun s o => ready s.1 o)
      (fun s o => (act s.1 o, g tag s.1 (act s.1 o) s.2)) fun s o => (next s.1 o).withHistory

theorem withHistory_bind (p : Prog σ ω τ ε α) (f : α → Prog σ ω τ ε β) :
    (p.bind f).withHistory g = (p.withHistory g).bind fun a => (f a).withHistory g := by
  induction p with
  | ret a => rfl
  | err e => rfl
  | step tag ready act next ih => simp only [bind, withHistory, ih]

theorem withHistory_result (p : Prog σ ω τ ε α) :
    (p.result : Prog σ ω τ ε' _).withHistory g = (p.withHistory g).result := by
  induction p with
  | ret a => rfl
  | err e => rfl
  | step tag ready act next ih => simp only [result, withHistory, ih]

theorem withHistory_ofExcept (r : Except ε α) :
    (ofExcept r : Prog σ ω τ ε α).withHistory g = ofExcept r := by cases r <;> rfl

theorem withHistory_tryCatch (p : Prog σ ω τ ε α) (h : ε → Prog σ ω τ ε' α) :
    (p.tryCatch h).withHistory g = (p.withHistory g).tryCatch fun e => (h e).withHistory g := by
  unfold tryCatch
  rw [withHistory_bind, withHistory_result]
  congr 1
  funext r
  cases r <;> rfl

theorem withHistory_await (tag : τ) (ready : σ → ω → Bool) (f : σ → ω → Except ε α × σ) :
    (await tag ready f).withHistory g = await tag (fun s o => ready s.1 o) fun s o =>
      ((f s.1 o).1, (f s.1 o).2, g tag s.1 (f s.1 o).2 s.2) := by
  simp only [await, withHistory, withHistory_ofExcept]

end History

/-! ### Running alone -/

/-- The program makes some steps, and nobody else does. -/
inductive Steps : Prog σ ω τ ε α → σ → Prog σ ω τ ε α → σ → Prop
  | refl {p : Prog σ ω τ ε α} {s : σ} : Steps p s p s
  | head {tag : τ} {ready : σ → ω → Bool} {act : σ → ω → σ} {next : σ → ω → Prog σ ω τ ε α}
    {p : Prog σ ω τ ε α} {s t : σ} (o : ω) (hr : ready s o = true)
    (h : Steps (next s o) (act s o) p t) : Steps (step tag ready act next) s p t

/-! ### Running to the end -/

/-- The program ends with `r` on the inputs `os`; before each of its steps the others move by `R`. -/
inductive Exec (R : σ → σ → Prop) : Prog σ ω τ ε α → σ → List ω → Except ε α → σ → Prop
  | ret {a : α} {s : σ} : Exec R (ret a) s [] (.ok a) s
  | err {e : ε} {s : σ} : Exec R (err e) s [] (.error e) s
  | step {tag : τ} {ready : σ → ω → Bool} {act : σ → ω → σ} {next : σ → ω → Prog σ ω τ ε α}
    {s t u : σ} {o : ω} {os : List ω} {r : Except ε α} (hR : R s t) (hr : ready t o = true)
    (h : Exec R (next t o) (act t o) os r u) : Exec R (step tag ready act next) s (o :: os) r u

namespace Exec

variable {R : σ → σ → Prop} {p : Prog σ ω τ ε α} {s t u : σ} {os os' : List ω}

theorem ofExcept {r : Except ε α} : Exec R (Prog.ofExcept r : Prog σ ω τ ε α) s [] r s := by
  cases r with
  | ok a => exact .ret
  | error e => exact .err

theorem ofExcept_eq {r r' : Except ε α} (h : Exec R (Prog.ofExcept r : Prog σ ω τ ε α) s os r' u) :
    os = [] ∧ r' = r ∧ u = s := by
  cases r with
  | ok a => cases h; exact ⟨rfl, rfl, rfl⟩
  | error e => cases h; exact ⟨rfl, rfl, rfl⟩

theorem call {tag : τ} {f : σ → ω → Except ε α × σ} (o : ω) (hR : R s t) :
    Exec R (Prog.call tag f) s [o] (f t o).1 (f t o).2 := .step hR rfl .ofExcept

theorem call_eq {tag : τ} {f : σ → ω → Except ε α × σ} {r : Except ε α}
    (h : Exec R (Prog.call tag f) s os r u) :
    ∃ t o, R s t ∧ os = [o] ∧ r = (f t o).1 ∧ u = (f t o).2 := by
  cases h with
  | step hR hr h =>
    obtain ⟨rfl, rfl, rfl⟩ := ofExcept_eq h
    exact ⟨_, _, hR, rfl, rfl, rfl⟩

theorem bind {f : α → Prog σ ω τ ε β} {a : α} {r : Except ε β} (h : Exec R p s os (.ok a) t)
    (hf : Exec R (f a) t os' r u) : Exec R (p.bind f) s (os ++ os') r u := by
  generalize hx : Except.ok a = x at h
  induction h with
  | ret => cases hx; exact hf
  | err => cases hx
  | step hR hr _ ih => exact .step hR hr (ih hf hx)

theorem bind_error {f : α → Prog σ ω τ ε β} {e : ε} (h : Exec R p s os (.error e) u) :
    Exec R (p.bind f) s os (.error e) u := by
  generalize hx : Except.error e = x at h
  induction h with
  | ret => cases hx
  | err => cases hx; exact .err
  | step hR hr _ ih => exact .step hR hr (ih hx)

/-- A sequence ends in its first part, or in its second. -/
theorem bind_cases {f : α → Prog σ ω τ ε β} {r : Except ε β} (h : Exec R (p.bind f) s os r u) :
    (∃ e, r = .error e ∧ Exec R p s os (.error e) u) ∨
    ∃ a os₁ os₂ t, os = os₁ ++ os₂ ∧ Exec R p s os₁ (.ok a) t ∧ Exec R (f a) t os₂ r u := by
  induction p generalizing s os with
  | ret a => exact .inr ⟨a, [], os, s, rfl, .ret, h⟩
  | err e => cases h; exact .inl ⟨e, rfl, .err⟩
  | step tag ready act next ih =>
    cases h with
    | step hR hr h =>
      rcases ih _ _ h with ⟨e, hr', he⟩ | ⟨a, os₁, os₂, t, rfl, ha, hf⟩
      · exact .inl ⟨e, hr', .step hR hr he⟩
      · exact .inr ⟨a, _ :: os₁, os₂, t, rfl, .step hR hr ha, hf⟩

theorem result {r : Except ε α} (h : Exec R p s os r u) :
    Exec R (p.result : Prog σ ω τ ε' _) s os (.ok r) u := by
  induction h with
  | ret => exact .ret
  | err => exact .ret
  | step hR hr _ ih => exact .step hR hr ih

theorem result_eq {x : Except ε' (Except ε α)}
    (h : Exec R (p.result : Prog σ ω τ ε' _) s os x u) : ∃ r, x = .ok r ∧ Exec R p s os r u := by
  induction p generalizing s os with
  | ret a => cases h; exact ⟨_, rfl, .ret⟩
  | err e => cases h; exact ⟨_, rfl, .err⟩
  | step tag ready act next ih =>
    cases h with
    | step hR hr h =>
      obtain ⟨r, hx, h⟩ := ih _ _ h
      exact ⟨r, hx, .step hR hr h⟩

/-- A program whose outcome is taken as a value does not end the sequence. -/
theorem bind_result {f : Except ε α → Prog σ ω τ ε' β} {r : Except ε' β}
    (h : Exec R ((p.result : Prog σ ω τ ε' _).bind f) s os r u) :
    ∃ x os₁ os₂ t, Exec R p s os₁ x t ∧ Exec R (f x) t os₂ r u := by
  rcases h.bind_cases with ⟨e, -, he⟩ | ⟨x, os₁, os₂, t, -, ha, hf⟩
  · obtain ⟨y, hy, -⟩ := result_eq he
    cases hy
  · obtain ⟨y, hy, hp⟩ := result_eq ha
    cases hy
    exact ⟨x, os₁, os₂, t, hp, hf⟩

theorem caught {h : ε → Prog σ ω τ ε' α} {e : ε} {r : Except ε' α} (hp : Exec R p s os (.error e) t)
    (hh : Exec R (h e) t os' r u) : Exec R (p.tryCatch h) s (os ++ os') r u := hp.result.bind hh

theorem mapErr {f : ε → ε'} {r : Except ε α} (h : Exec R p s os r u) :
    Exec R (p.mapErr f) s os (r.mapError f) u := by
  rw [← List.append_nil os]
  cases r with
  | ok a => exact h.result.bind .ret
  | error e => exact h.caught .err

theorem mapErr_eq {f : ε → ε'} {x : Except ε' α} (h : Exec R (p.mapErr f) s os x u) :
    ∃ r, x = r.mapError f ∧ Exec R p s os r u := by
  rcases bind_cases h with ⟨e, -, he⟩ | ⟨a, os₁, os₂, t, rfl, ha, hf⟩
  · obtain ⟨r, hr, -⟩ := result_eq he
    cases hr
  · obtain ⟨y, hy, hp⟩ := result_eq ha
    cases hy
    cases a with
    | ok a => cases hf; exact ⟨.ok a, rfl, by rwa [List.append_nil]⟩
    | error e => cases hf; exact ⟨.error e, rfl, by rwa [List.append_nil]⟩

end Exec

/-- The program run alone, on exactly the inputs it takes. -/
def eval : Prog σ ω τ ε α → σ → List ω → Option (Except ε α × σ)
  | ret a, s, [] => some (.ok a, s)
  | err e, s, [] => some (.error e, s)
  | step _ ready act next, s, o :: os => if ready s o then (next s o).eval (act s o) os else none
  | _, _, _ => none

theorem Exec.of_eval {R : σ → σ → Prop} (hR : ∀ s, R s s) : ∀ {p : Prog σ ω τ ε α} {s u : σ}
    {os : List ω} {r : Except ε α}, p.eval s os = some (r, u) → Exec R p s os r u := by
  intro p
  induction p with
  | ret a =>
    intro s u os r h
    cases os with
    | nil => cases h; exact .ret
    | cons o os => cases h
  | err e =>
    intro s u os r h
    cases os with
    | nil => cases h; exact .err
    | cons o os => cases h
  | step tag ready act next ih =>
    intro s u os r h
    cases os with
    | nil => cases h
    | cons o os =>
      unfold eval at h
      split at h
      · exact .step (hR s) ‹_› (ih s o h)
      · cases h

/-! ### What a program can return -/

/-- Every value the program returns is a `P`. -/
def Yields (P : α → Prop) : Prog σ ω τ ε α → Prop
  | ret a => P a
  | err _ => True
  | step _ _ _ next => ∀ s o, (next s o).Yields P

namespace Yields

variable {P : α → Prop} {Q : β → Prop} {p : Prog σ ω τ ε α}

theorem bind {f : α → Prog σ ω τ ε β} (hp : p.Yields P) (hf : ∀ a, P a → (f a).Yields Q) :
    (p.bind f).Yields Q := by
  induction p with
  | ret a => exact hf a hp
  | err e => trivial
  | step tag ready act next ih => exact fun s o => ih s o (hp s o)

theorem result (hp : p.Yields P) :
    (p.result : Prog σ ω τ ε' _).Yields fun r => ∀ a, r = .ok a → P a := by
  induction p with
  | ret a => rintro b ⟨⟩; exact hp
  | err e => rintro b ⟨⟩
  | step tag ready act next ih => exact fun s o => ih s o (hp s o)

theorem call {tag : τ} {f : σ → ω → Except ε α × σ} (h : ∀ s o a, (f s o).1 = .ok a → P a) :
    (Prog.call tag f).Yields P := by
  intro s o
  show (ofExcept (f s o).1).Yields P
  cases hr : (f s o).1 with
  | ok a => exact h s o a hr
  | error e => exact True.intro

theorem trivial : ∀ {p : Prog σ ω τ ε α}, p.Yields fun _ => True
  | ret _ => True.intro
  | err _ => True.intro
  | step _ _ _ _ => fun _ _ => Yields.trivial

theorem congr {f g : α → Prog σ ω τ ε β} (hp : p.Yields P) (h : ∀ a, P a → f a = g a) :
    p.bind f = p.bind g := by
  induction p with
  | ret a => exact h a hp
  | err e => rfl
  | step tag ready act next ih => simp only [Prog.bind, ih _ _ (hp _ _)]

end Yields

/-! ### What a program's steps do -/

/-- Every step from a state in `I` is an `R`; this goes on for as long as the state stays in `I`, and
what the program returns then is a `Q`. -/
def Within (I : σ → Prop) (R : σ → ω → σ → Prop) (Q : α → Prop) : Prog σ ω τ ε α → Prop
  | ret a => Q a
  | err _ => True
  | step _ _ act next =>
    ∀ s o, I s → R s o (act s o) ∧ (I (act s o) → (next s o).Within I R Q)

namespace Within

variable {I : σ → Prop} {R : σ → ω → σ → Prop} {P : α → Prop} {Q : β → Prop}
  {p : Prog σ ω τ ε α}

theorem mono {R' : σ → ω → σ → Prop} {P' : α → Prop} (hp : p.Within I R P)
    (hR : ∀ s o t, R s o t → R' s o t) (hQ : ∀ a, P a → P' a) : p.Within I R' P' := by
  induction p with
  | ret a => exact hQ a hp
  | err e => trivial
  | step tag ready act next ih =>
    intro s o hs
    obtain ⟨hr, hnext⟩ := hp s o hs
    exact ⟨hR _ _ _ hr, fun hi => ih s o (hnext hi)⟩

theorem bind {f : α → Prog σ ω τ ε β} (hp : p.Within I R P) (hf : ∀ a, P a → (f a).Within I R Q) :
    (p.bind f).Within I R Q := by
  induction p with
  | ret a => exact hf a hp
  | err e => trivial
  | step tag ready act next ih =>
    intro s o hs
    obtain ⟨hr, hnext⟩ := hp s o hs
    exact ⟨hr, fun hi => ih s o (hnext hi)⟩

theorem result {S : Except ε α → Prop} (hp : p.Within I R P) (hok : ∀ a, P a → S (.ok a))
    (herr : ∀ e, S (.error e)) : (p.result : Prog σ ω τ ε' _).Within I R S := by
  induction p with
  | ret a => exact hok a hp
  | err e => exact herr e
  | step tag ready act next ih =>
    intro s o hs
    obtain ⟨hr, hnext⟩ := hp s o hs
    exact ⟨hr, fun hi => ih s o (hnext hi)⟩

theorem ofExcept {r : Except ε α} (h : ∀ a, r = .ok a → P a) :
    (Prog.ofExcept r : Prog σ ω τ ε α).Within I R P := by
  cases r with
  | ok a => exact h a rfl
  | error e => trivial

theorem tryCatch {h : ε → Prog σ ω τ ε' α} (hp : p.Within I R P) (hh : ∀ e, (h e).Within I R P) :
    (p.tryCatch h).Within I R P := by
  refine .bind (.result hp (S := fun r => ∀ a, r = .ok a → P a) ?_ ?_) fun r hr => ?_
  · rintro a ha b ⟨⟩; exact ha
  · rintro e b ⟨⟩
  · cases r with
    | ok a => exact hr a rfl
    | error e => exact hh e

theorem mapErr {f : ε → ε'} (hp : p.Within I R P) : (p.mapErr f).Within I R P :=
  .tryCatch hp fun _ => trivial

theorem await {tag : τ} {ready : σ → ω → Bool} {f : σ → ω → Except ε α × σ}
    (h : ∀ s o, I s → R s o (f s o).2 ∧ (I (f s o).2 → ∀ a, (f s o).1 = .ok a → P a)) :
    (Prog.await tag ready f).Within I R P := by
  intro s o hs
  obtain ⟨hr, hret⟩ := h s o hs
  exact ⟨hr, fun hi => .ofExcept (hret hi)⟩

theorem call {tag : τ} {f : σ → ω → Except ε α × σ}
    (h : ∀ s o, I s → R s o (f s o).2 ∧ (I (f s o).2 → ∀ a, (f s o).1 = .ok a → P a)) :
    (Prog.call tag f).Within I R P := await h

end Within

/-- What every step keeps, and the others keep, holds at the end. -/
theorem Exec.keeps {R : σ → σ → Prop} {I : σ → Prop} {P : α → Prop} {p : Prog σ ω τ ε α} {s u : σ}
    {os : List ω} {r : Except ε α} (h : Exec R p s os r u)
    (hp : p.Within I (fun _ _ t => I t) P) (hR : ∀ s t, R s t → I s → I t) (hs : I s) : I u := by
  induction h with
  | ret => exact hs
  | err => exact hs
  | step hR' _ _ ih =>
    obtain ⟨hi, hnext⟩ := hp _ _ (hR _ _ hR' hs)
    exact ih (hnext hi) hi

end Prog

/-- What a thread may count on, and what it must show. -/
structure Protocol (σ ω τ : Type) where
  inv : σ → Prop
  rely : σ → σ → Prop
  allowed : τ → σ → ω → Prop
  claim : τ → σ → Prop
  rely_refl : ∀ s, rely s s
  rely_trans : ∀ {s t u}, rely s t → rely t u → rely s u

namespace Protocol

variable {σ ω τ ε ε' α β : Type} (𝓟 : Protocol σ ω τ)

/-- Every execution of the program from `s` keeps the invariant, meets the claims, and returns in
`Q` or raises in `E`. -/
def Safe : Prog σ ω τ ε α → (α → σ → Prop) → (ε → σ → Prop) → σ → Prop
  | .ret a, Q, _, s => Q a s
  | .err e, _, E, s => E e s
  | .step tag ready act next, Q, E, s => ∀ t, 𝓟.rely s t → 𝓟.inv t → 𝓟.claim tag t ∧
      ∀ o, ready t o = true → 𝓟.allowed tag t o →
        𝓟.inv (act t o) ∧ Safe (next t o) Q E (act t o)

/-- An assertion that the other threads leave alone. -/
def Stable (P : σ → Prop) : Prop := ∀ s t, 𝓟.inv s → P s → 𝓟.rely s t → 𝓟.inv t → P t

/-- `{P} p {Q} {E}`: `Q` on return, `E` on an exception. -/
def Hoare (P : σ → Prop) (p : Prog σ ω τ ε α) (Q : α → σ → Prop) (E : ε → σ → Prop) : Prop :=
  ∀ s, 𝓟.inv s → P s → 𝓟.Safe p Q E s

variable {𝓟}

namespace Safe

variable {p : Prog σ ω τ ε α} {Q Q' : α → σ → Prop} {E E' : ε → σ → Prop} {s t : σ}

/-- The other threads run before the next step. -/
theorem rely_step {tag : τ} {ready : σ → ω → Bool} {act : σ → ω → σ}
    {next : σ → ω → Prog σ ω τ ε α} (h : 𝓟.Safe (.step tag ready act next) Q E s)
    (hr : 𝓟.rely s t) : 𝓟.Safe (.step tag ready act next) Q E t :=
  fun u hu hi => h u (𝓟.rely_trans hr hu) hi

/-- The postconditions may use the invariant. -/
theorem mono_inv (h : 𝓟.Safe p Q E s) (hi : 𝓟.inv s)
    (hQ : ∀ a s, 𝓟.inv s → Q a s → Q' a s) (hE : ∀ e s, 𝓟.inv s → E e s → E' e s) :
    𝓟.Safe p Q' E' s := by
  induction p generalizing s with
  | ret a => exact hQ a s hi h
  | err e => exact hE e s hi h
  | step tag ready act next ih =>
    intro t hr ht
    obtain ⟨hc, hstep⟩ := h t hr ht
    refine ⟨hc, fun o ho ha => ?_⟩
    obtain ⟨hi', hnext⟩ := hstep o ho ha
    exact ⟨hi', ih t o hnext hi'⟩

theorem bind {f : α → Prog σ ω τ ε β} {R : β → σ → Prop}
    (h : 𝓟.Safe p (fun a => 𝓟.Safe (f a) R E) E s) : 𝓟.Safe (p.bind f) R E s := by
  induction p generalizing s with
  | ret a => exact h
  | err e => exact h
  | step tag ready act next ih =>
    intro t hr ht
    obtain ⟨hc, hstep⟩ := h t hr ht
    refine ⟨hc, fun o ho ha => ?_⟩
    obtain ⟨hi', hnext⟩ := hstep o ho ha
    exact ⟨hi', ih t o hnext⟩

theorem result {R : Except ε α → σ → Prop} {E' : ε' → σ → Prop}
    (h : 𝓟.Safe p (fun a => R (.ok a)) (fun e => R (.error e)) s) :
    𝓟.Safe (p.result : Prog σ ω τ ε' _) R E' s := by
  induction p generalizing s with
  | ret a => exact h
  | err e => exact h
  | step tag ready act next ih =>
    intro t hr ht
    obtain ⟨hc, hstep⟩ := h t hr ht
    refine ⟨hc, fun o ho ha => ?_⟩
    obtain ⟨hi', hnext⟩ := hstep o ho ha
    exact ⟨hi', ih t o hnext⟩

end Safe

namespace Stable

variable {P Q : σ → Prop}

theorem and (hP : 𝓟.Stable P) (hQ : 𝓟.Stable Q) : 𝓟.Stable fun s => P s ∧ Q s :=
  fun s t hi h hr ht => ⟨hP s t hi h.1 hr ht, hQ s t hi h.2 hr ht⟩

theorem or (hP : 𝓟.Stable P) (hQ : 𝓟.Stable Q) : 𝓟.Stable fun s => P s ∨ Q s :=
  fun s t hi h hr ht => h.imp (fun h => hP s t hi h hr ht) (fun h => hQ s t hi h hr ht)

theorem const (c : Prop) : 𝓟.Stable fun _ : σ => c := fun _ _ _ h _ _ => h

theorem imp (c : Prop) (hP : 𝓟.Stable P) : 𝓟.Stable fun s => c → P s :=
  fun s t hi h hr ht hc => hP s t hi (h hc) hr ht

theorem ex {ι : Sort*} {P : ι → σ → Prop} (hP : ∀ i, 𝓟.Stable (P i)) :
    𝓟.Stable fun s => ∃ i, P i s :=
  fun s t hi ⟨i, h⟩ hr ht => ⟨i, hP i s t hi h hr ht⟩

end Stable

namespace Hoare

variable {P P' : σ → Prop} {p : Prog σ ω τ ε α} {Q Q' : α → σ → Prop} {E E' : ε → σ → Prop}

theorem ret {a : α} (h : ∀ s, 𝓟.inv s → P s → Q a s) : 𝓟.Hoare P (.ret a) Q E := h

theorem err {e : ε} (h : ∀ s, 𝓟.inv s → P s → E e s) : 𝓟.Hoare (α := α) P (.err e) Q E := h

theorem conseq (h : 𝓟.Hoare P p Q E) (hP : ∀ s, 𝓟.inv s → P' s → P s)
    (hQ : ∀ a s, 𝓟.inv s → Q a s → Q' a s) (hE : ∀ e s, 𝓟.inv s → E e s → E' e s) :
    𝓟.Hoare P' p Q' E' :=
  fun s hi hp => (h s hi (hP s hi hp)).mono_inv hi hQ hE

theorem pre (h : 𝓟.Hoare P p Q E) (hP : ∀ s, 𝓟.inv s → P' s → P s) : 𝓟.Hoare P' p Q E :=
  h.conseq hP (fun _ _ _ h => h) (fun _ _ _ h => h)

theorem bind {f : α → Prog σ ω τ ε β} {R : β → σ → Prop} (h : 𝓟.Hoare P p Q E)
    (hf : ∀ a, 𝓟.Hoare (Q a) (f a) R E) : 𝓟.Hoare P (p.bind f) R E :=
  fun s hi hp => .bind ((h s hi hp).mono_inv hi (fun a s hi hq => hf a s hi hq) fun _ _ _ h => h)

theorem ofExcept {r : Except ε α} (hok : ∀ a, r = .ok a → ∀ s, 𝓟.inv s → P s → Q a s)
    (herr : ∀ e, r = .error e → ∀ s, 𝓟.inv s → P s → E e s) :
    𝓟.Hoare P (Prog.ofExcept r) Q E := by
  cases r with
  | ok a => exact hok a rfl
  | error e => exact herr e rfl

theorem result {R : Except ε α → σ → Prop} {E' : ε' → σ → Prop}
    (h : 𝓟.Hoare P p (fun a => R (.ok a)) (fun e => R (.error e))) :
    𝓟.Hoare P (p.result : Prog σ ω τ ε' _) R E' :=
  fun s hi hp => (h s hi hp).result

theorem tryCatch {h : ε → Prog σ ω τ ε' α} {E' : ε' → σ → Prop} (hp : 𝓟.Hoare P p Q E)
    (hh : ∀ e, 𝓟.Hoare (E e) (h e) Q E') : 𝓟.Hoare P (p.tryCatch h) Q E' := by
  refine .bind (Q := fun r s => match r with | .ok a => Q a s | .error e => E e s) (.result hp) ?_
  intro r
  cases r with
  | ok a => exact .ret fun _ _ hq => hq
  | error e => exact hh e

theorem mapErr {f : ε → ε'} {E' : ε' → σ → Prop} (hp : 𝓟.Hoare P p Q fun e => E' (f e)) :
    𝓟.Hoare P (p.mapErr f) Q E' :=
  .tryCatch hp fun _ => .err fun _ _ he => he

/-- The last part runs after either outcome and must bring both to the postcondition. -/
theorem tryFinally {f : Prog σ ω τ ε Unit} {Q' : α → σ → Prop} {E' : ε → σ → Prop}
    (hp : 𝓟.Hoare P p Q E) (hQ : ∀ a, 𝓟.Hoare (Q a) f (fun _ => Q' a) E')
    (hE : ∀ e, 𝓟.Hoare (E e) f (fun _ => E' e) E') : 𝓟.Hoare P (p.tryFinally f) Q' E' := by
  refine .bind (Q := fun r s => match r with | .ok a => Q a s | .error e => E e s) (.result hp) ?_
  intro r
  cases r with
  | ok a => exact .bind (hQ a) fun _ => .ret fun _ _ hq => hq
  | error e => exact .bind (hE e) fun _ => .err fun _ _ he => he

/-- One step: its precondition is stable, and the step itself is checked against it. -/
theorem await {tag : τ} {ready : σ → ω → Bool} {f : σ → ω → Except ε α × σ} (hP : 𝓟.Stable P)
    (hc : ∀ s, 𝓟.inv s → P s → 𝓟.claim tag s)
    (h : ∀ s o, 𝓟.inv s → P s → ready s o = true → 𝓟.allowed tag s o → 𝓟.inv (f s o).2 ∧
      (∀ a, (f s o).1 = .ok a → Q a (f s o).2) ∧ ∀ e, (f s o).1 = .error e → E e (f s o).2) :
    𝓟.Hoare P (Prog.await tag ready f) Q E := by
  intro s hi hp t hr ht
  have hp' : P t := hP s t hi hp hr ht
  refine ⟨hc t ht hp', fun o ho ha => ?_⟩
  obtain ⟨hi', hok, herr⟩ := h t o ht hp' ho ha
  refine ⟨hi', ?_⟩
  show 𝓟.Safe (Prog.ofExcept (f t o).1) Q E (f t o).2
  cases hf : (f t o).1 with
  | ok a => exact hok a hf
  | error e => exact herr e hf

theorem call {tag : τ} {f : σ → ω → Except ε α × σ} (hP : 𝓟.Stable P)
    (hc : ∀ s, 𝓟.inv s → P s → 𝓟.claim tag s)
    (h : ∀ s o, 𝓟.inv s → P s → 𝓟.allowed tag s o → 𝓟.inv (f s o).2 ∧
      (∀ a, (f s o).1 = .ok a → Q a (f s o).2) ∧ ∀ e, (f s o).1 = .error e → E e (f s o).2) :
    𝓟.Hoare P (Prog.call tag f) Q E :=
  .await hP hc fun s o hi hp _ ha => h s o hi hp ha

end Hoare

end Protocol
