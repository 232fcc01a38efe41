/-!
# Guard clauses

`if bad: raise …` at the head of a method, as a monadic action, with the lemma that turns a
successful run of a chain of guards into the conjunction of what they test.
-/

/-- `if not p: raise e`. -/
def check {ε : Type} (p : Prop) [Decidable p] (e : ε) : Except ε Unit :=
  if p then .ok () else .error e

theorem check_ok {ε : Type} {p : Prop} [Decidable p] {e : ε} {u : Unit} :
    check p e = .ok u ↔ p := by
  unfold check; split <;> simp_all

theorem check_bind_ok {ε α : Type} {p : Prop} [Decidable p] {e : ε} {k : Except ε α} {a : α} :
    (check p e >>= fun _ => k) = .ok a ↔ p ∧ k = .ok a := by
  unfold check; split <;> simp_all [bind, Except.bind]

theorem except_bind_ok {ε α β : Type} {x : Except ε α} {f : α → Except ε β} {b : β} :
    (x >>= f) = .ok b ↔ ∃ a, x = .ok a ∧ f a = .ok b := by
  cases x <;> simp [bind, Except.bind]

/-- The chain returns exactly when its guard holds and what follows returns. -/
theorem check_bind_isOk {ε α : Type} {p : Prop} [Decidable p] {e : ε} {k : Except ε α} :
    (∃ a, (check p e >>= fun _ => k) = .ok a) ↔ p ∧ ∃ a, k = .ok a := by
  simp only [check_bind_ok, exists_and_left]

theorem except_bind_isOk {ε α β : Type} {x : Except ε α} {f : α → Except ε β} :
    (∃ b, (x >>= f) = .ok b) ↔ ∃ a, x = .ok a ∧ ∃ b, f a = .ok b := by
  constructor
  · rintro ⟨b, h⟩
    obtain ⟨a, ha, hb⟩ := except_bind_ok.1 h
    exact ⟨a, ha, b, hb⟩
  · rintro ⟨a, ha, b, hb⟩
    exact ⟨b, except_bind_ok.2 ⟨a, ha, hb⟩⟩
