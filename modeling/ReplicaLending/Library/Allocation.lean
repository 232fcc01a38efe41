import Mathlib.Data.Set.Basic
/-!
# All-or-nothing allocations

Resources `ρ` are given to holders `ι`, and a holder claims a set of resources that is fixed when
it registers. An allocation is *sound* when nobody owns what it does not claim and no holder owns a
part of its claims: it has all of them or none. The lemmas are the four updates that keep it so.

| operation | what it needs |
| --- | --- |
| `register` | the holder is new |
| `take`     | every claimed resource is free, or the holder's own |
| `giveBack` | nothing: only what the holder owns is freed |
| `clear`    | the holder owns all it claims |
-/

/-- Who owns each resource, and what each registered holder claims. -/
structure Allocation (ρ ι : Type*) where
  owner : ρ → Option ι
  claims : ι → Option (Set ρ)

namespace Allocation

variable {ρ ι : Type*} {A : Allocation ρ ι} {i j : ι} {c d : Set ρ}

def OwnsAll (A : Allocation ρ ι) (i : ι) (c : Set ρ) : Prop := ∀ r ∈ c, A.owner r = some i

def OwnsNone (A : Allocation ρ ι) (i : ι) (c : Set ρ) : Prop := ∀ r ∈ c, A.owner r ≠ some i

structure Sound (A : Allocation ρ ι) : Prop where
  claimed : ∀ {r i}, A.owner r = some i → ∃ c, A.claims i = some c ∧ r ∈ c
  whole : ∀ {i c}, A.claims i = some c → A.OwnsAll i c ∨ A.OwnsNone i c

open Classical in
noncomputable def register (A : Allocation ρ ι) (i : ι) (c : Set ρ) : Allocation ρ ι where
  owner := A.owner
  claims j := if j = i then some c else A.claims j

open Classical in
noncomputable def take (A : Allocation ρ ι) (i : ι) (c : Set ρ) : Allocation ρ ι where
  owner r := if r ∈ c then some i else A.owner r
  claims := A.claims

open Classical in
noncomputable def giveBack (A : Allocation ρ ι) (i : ι) (c : Set ρ) : Allocation ρ ι where
  owner r := if r ∈ c ∧ A.owner r = some i then none else A.owner r
  claims := A.claims

open Classical in
noncomputable def clear (A : Allocation ρ ι) (c : Set ρ) : Allocation ρ ι where
  owner r := if r ∈ c then none else A.owner r
  claims := A.claims

/-- A holder that is not registered owns nothing. -/
theorem Sound.not_owner (h : A.Sound) (hi : A.claims i = none) (r : ρ) : A.owner r ≠ some i := by
  intro ho
  obtain ⟨c, hc, -⟩ := h.claimed ho
  rw [hi] at hc
  cases hc

theorem Sound.register (h : A.Sound) (hi : A.claims i = none) : (A.register i c).Sound := by
  refine ⟨fun {r j} ho => ?_, fun {j d} hd => ?_⟩
  · have hne : j ≠ i := by rintro rfl; exact h.not_owner hi r ho
    obtain ⟨d, hd, hr⟩ := h.claimed ho
    exact ⟨d, by simpa [Allocation.register, hne] using hd, hr⟩
  · by_cases hj : j = i
    · subst hj
      exact .inr fun r _ => h.not_owner hi r
    · exact h.whole (by simpa [Allocation.register, hj] using hd)

theorem Sound.take (h : A.Sound) (hi : A.claims i = some c)
    (hfree : ∀ r ∈ c, A.owner r = none ∨ A.owner r = some i) : (A.take i c).Sound := by
  refine ⟨fun {r j} ho => ?_, fun {j d} hd => ?_⟩
  · by_cases hr : r ∈ c
    · have he : i = j := by simpa [Allocation.take, hr] using ho
      exact ⟨c, he ▸ hi, hr⟩
    · exact h.claimed (by simpa [Allocation.take, hr] using ho)
  · by_cases hj : j = i
    · subst hj
      obtain rfl : c = d := Option.some.inj (hi.symm.trans hd)
      exact .inl fun r hr => if_pos hr
    rcases h.whole hd with ha | hn
    · -- what `j` owns is not free, so `i` does not claim it
      refine .inl fun r hr => ?_
      have hrc : r ∉ c := by
        intro hrc
        rcases hfree r hrc with e | e
        · simpa [e] using ha r hr
        · exact hj (Option.some.inj ((ha r hr).symm.trans e))
      simpa [Allocation.take, hrc] using ha r hr
    · refine .inr fun r hr ho => ?_
      by_cases hrc : r ∈ c
      · exact hj (by simpa [Allocation.take, hrc] using ho.symm)
      · exact hn r hr (by simpa [Allocation.take, hrc] using ho)

/-- What one holder takes, another one does not get … -/
theorem OwnsNone.take (h : A.OwnsNone i c) (hne : i ≠ j) : (A.take j d).OwnsNone i c := by
  intro r hr ho
  by_cases hrd : r ∈ d
  · exact hne (by simpa [Allocation.take, hrd] using ho.symm)
  · exact h r hr (by simpa [Allocation.take, hrd] using ho)

/-- … giving back gives nobody anything, … -/
theorem OwnsNone.giveBack (h : A.OwnsNone i c) : (A.giveBack j d).OwnsNone i c := by
  intro r hr ho
  simp only [Allocation.giveBack] at ho
  split at ho
  · cases ho
  · exact h r hr ho

/-- … and leaves the holder with nothing it claims. -/
theorem ownsNone_giveBack : (A.giveBack i c).OwnsNone i c := by
  intro r hr ho
  by_cases hi : A.owner r = some i <;> simp [Allocation.giveBack, hr, hi] at ho

theorem Sound.giveBack (h : A.Sound) (hi : A.claims i = some c) : (A.giveBack i c).Sound := by
  refine ⟨fun {r j} ho => ?_, fun {j d} hd => ?_⟩
  · simp only [Allocation.giveBack] at ho
    split at ho
    · cases ho
    · exact h.claimed ho
  · by_cases hj : j = i
    · subst hj
      obtain rfl : c = d := Option.some.inj (hi.symm.trans hd)
      exact .inr ownsNone_giveBack
    rcases h.whole hd with ha | hn
    · refine .inl fun r hr => ?_
      simp [Allocation.giveBack, ha r hr, hj]
    · exact .inr (OwnsNone.giveBack hn)

/-- Freeing everything in `c` frees no more than the holder's own when it owns all of it. -/
theorem OwnsAll.clear_eq (h : A.OwnsAll i c) : A.clear c = A.giveBack i c := by
  unfold Allocation.clear Allocation.giveBack
  congr 1
  funext r
  by_cases hr : r ∈ c
  · simp [hr, h r hr]
  · simp [hr]

end Allocation
