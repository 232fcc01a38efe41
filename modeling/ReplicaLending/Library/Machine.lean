import Mathlib.Logic.Relation
/-!
# Labelled machines and their runs

A machine is a set of initial states and a labelled step relation. Two kinds of statement are made
about machines: invariants of every reachable state, and invariants of the runs all of whose steps
meet a side condition `P s l s'` ("the branch that goes wrong is not taken"). Both are one
induction (`RunWhere.invariant`); a plain run is `RunWhere` with the condition `True`.

A machine may keep its threads in a list: `thread_set` and `thread_append` say who is where when one
goes on and when one joins.
-/

/-- States `σ`, labels `ℓ`. -/
structure Machine (σ ℓ : Type*) where
  init : σ → Prop
  step : σ → ℓ → σ → Prop

namespace Machine

variable {σ ℓ : Type*} (M : Machine σ ℓ)

/-- A run from `s` to `s'` all of whose steps satisfy `P`. -/
inductive RunWhere (P : σ → ℓ → σ → Prop) : σ → σ → Prop
  | refl (s : σ) : RunWhere P s s
  | tail {s t u : σ} {l : ℓ} (h : RunWhere P s t) (hs : M.step t l u) (hP : P t l u) :
    RunWhere P s u

/-- A run with no side condition. -/
abbrev Run : σ → σ → Prop := M.RunWhere fun _ _ _ => True

/-- Reachable from an initial state by steps that satisfy `P`. -/
def ReachableWhere (P : σ → ℓ → σ → Prop) (s : σ) : Prop := ∃ s₀, M.init s₀ ∧ M.RunWhere P s₀ s

abbrev Reachable (s : σ) : Prop := M.ReachableWhere (fun _ _ _ => True) s

variable {M} {P Q : σ → ℓ → σ → Prop}

namespace RunWhere

theorem mono (hPQ : ∀ s l s', P s l s' → Q s l s') {s s' : σ} (h : M.RunWhere P s s') :
    M.RunWhere Q s s' := by
  induction h with
  | refl => exact .refl _
  | tail _ hs hP ih => exact .tail ih hs (hPQ _ _ _ hP)

theorem run {s s' : σ} (h : M.RunWhere P s s') : M.Run s s' := h.mono fun _ _ _ _ => trivial

theorem trans {s t u : σ} (h₁ : M.RunWhere P s t) (h₂ : M.RunWhere P t u) : M.RunWhere P s u := by
  induction h₂ with
  | refl => exact h₁
  | tail _ hs hP ih => exact .tail ih hs hP

theorem single {s s' : σ} {l : ℓ} (hs : M.step s l s') (hP : P s l s') : M.RunWhere P s s' :=
  .tail (.refl s) hs hP

/-- What holds at the start and is kept by every step that satisfies `P` holds at the end. -/
theorem invariant {I : σ → Prop} (hstep : ∀ s l s', I s → M.step s l s' → P s l s' → I s')
    {s s' : σ} (h : M.RunWhere P s s') (h₀ : I s) : I s' := by
  induction h with
  | refl => exact h₀
  | tail _ hs hP ih => exact hstep _ _ _ ih hs hP

/-- A property of the steps that an invariant gives. -/
theorem strengthen {I : σ → Prop} {s s' : σ} (h : M.RunWhere P s s') (h₀ : I s)
    (hstep : ∀ s l s', I s → M.step s l s' → P s l s' → I s' ∧ Q s l s') :
    M.RunWhere Q s s' ∧ I s' := by
  induction h with
  | refl => exact ⟨.refl _, h₀⟩
  | tail _ hs hP ih =>
    obtain ⟨hi, hQ⟩ := hstep _ _ _ ih.2 hs hP
    exact ⟨.tail ih.1 hs hQ, hi⟩

/-- A list of labels followed by a partial step function. -/
theorem steps {f : σ → ℓ → Option σ} (hf : ∀ {s l s'}, f s l = some s' → M.step s l s' ∧ P s l s')
    {ls : List ℓ} {s s' : σ} (hs : ls.foldlM f s = some s') : M.RunWhere P s s' := by
  induction ls generalizing s with
  | nil => cases hs; exact .refl _
  | cons l ls ih =>
    rw [List.foldlM_cons] at hs
    obtain ⟨t, ht, hs⟩ := Option.bind_eq_some_iff.1 hs
    exact (single (hf ht).1 (hf ht).2).trans (ih hs)

end RunWhere

namespace ReachableWhere

theorem tail {s s' : σ} {l : ℓ} (h : M.ReachableWhere P s) (hs : M.step s l s') (hP : P s l s') :
    M.ReachableWhere P s' := by
  obtain ⟨s₀, h₀, hr⟩ := h
  exact ⟨s₀, h₀, hr.tail hs hP⟩

theorem invariant {I : σ → Prop} (hinit : ∀ s, M.init s → I s)
    (hstep : ∀ s l s', I s → M.step s l s' → P s l s' → I s') {s : σ}
    (h : M.ReachableWhere P s) : I s := by
  obtain ⟨s₀, h₀, hr⟩ := h
  exact hr.invariant hstep (hinit s₀ h₀)

theorem reachable {s : σ} (h : M.ReachableWhere P s) : M.Reachable s := by
  obtain ⟨s₀, h₀, hr⟩ := h
  exact ⟨s₀, h₀, hr.run⟩

theorem steps {f : σ → ℓ → Option σ} (hf : ∀ {s l s'}, f s l = some s' → M.step s l s' ∧ P s l s')
    {ls : List ℓ} {s s' : σ} (h : M.ReachableWhere P s) (hs : ls.foldlM f s = some s') :
    M.ReachableWhere P s' := by
  obtain ⟨s₀, h₀, hr⟩ := h
  exact ⟨s₀, h₀, hr.trans (.steps hf hs)⟩

end ReachableWhere

/-! ## Machines given by a function -/

/-- The machine of a transition function: every label is always possible. -/
def ofFun (init : σ → Prop) (f : ℓ → σ → σ) : Machine σ ℓ where
  init := init
  step s l s' := f l s = s'

/-- The state a list of labels leads to. -/
def exec (f : ℓ → σ → σ) (ls : List ℓ) (s : σ) : σ := ls.foldl (fun s l => f l s) s

theorem run_exec (init : σ → Prop) (f : ℓ → σ → σ) (ls : List ℓ) (s : σ) :
    (ofFun init f).Run s (exec f ls s) := by
  induction ls generalizing s with
  | nil => exact .refl _
  | cons l ls ih => exact (RunWhere.single (M := ofFun init f) rfl trivial).trans (ih (f l s))

/-- `P` holds of every label at the state it is applied to. -/
def Along (P : σ → ℓ → Prop) (f : ℓ → σ → σ) : List ℓ → σ → Prop
  | [], _ => True
  | l :: ls, s => P s l ∧ Along P f ls (f l s)

instance Along.decidable (P : σ → ℓ → Prop) (f : ℓ → σ → σ) [∀ s l, Decidable (P s l)] :
    ∀ ls s, Decidable (Along P f ls s)
  | [], _ => inferInstanceAs (Decidable True)
  | l :: ls, s => @instDecidableAnd _ _ _ (Along.decidable P f ls (f l s))

theorem runWhere_exec (init : σ → Prop) (P : σ → ℓ → Prop) (f : ℓ → σ → σ) (ls : List ℓ) (s : σ)
    (h : Along P f ls s) : (ofFun init f).RunWhere (fun s l _ => P s l) s (exec f ls s) := by
  induction ls generalizing s with
  | nil => exact .refl _
  | cons l ls ih =>
    exact (RunWhere.single (M := ofFun init f) rfl h.1).trans (ih (f l s) h.2)

end Machine

/-! ## Threads in a list -/

variable {α : Type*} {l : List α} {i j : Nat} {v u : α}

theorem thread_set (h : (l.set i v)[j]? = some u) : j = i ∧ u = v ∨ j ≠ i ∧ l[j]? = some u := by
  rw [List.getElem?_set] at h
  split at h
  · rename_i hij
    split at h
    · exact .inl ⟨hij.symm, (Option.some.inj h).symm⟩
    · cases h
  · rename_i hij
    exact .inr ⟨Ne.symm hij, h⟩

theorem thread_append (h : (l ++ [v])[j]? = some u) : j = l.length ∧ u = v ∨ l[j]? = some u := by
  rw [List.getElem?_append] at h
  split at h
  · exact .inr h
  · rw [List.getElem?_singleton] at h
    split at h
    · exact .inl ⟨by omega, (Option.some.inj h).symm⟩
    · cases h
