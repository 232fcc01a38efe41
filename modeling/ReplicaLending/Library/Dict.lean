import Mathlib.Data.List.Basic
import Mathlib.Data.List.Nodup
import Mathlib.Data.List.Perm.Basic
/-!
# Insertion-ordered dictionaries

A Python `dict`: unique keys, iteration in insertion order, `d[k] = v` keeps the position of a key
that is already there and appends a new one. The uniqueness of the keys is a field, so every
lemma below holds of every value of the type.

* `get?_insert`, `get?_erase` — the two lookup laws the whole development rewrites with.
* `count_insert`, `count_erase` — how the number of values with a property changes.
* `same` — Python's `==` on dicts, which ignores the order.
-/

/-- An insertion-ordered dictionary. -/
structure Dict (κ ν : Type) where
  entries : List (κ × ν)
  nodup : (entries.map Prod.fst).Nodup

namespace Dict

variable {κ ν : Type} [DecidableEq κ]

instance : EmptyCollection (Dict κ ν) := ⟨⟨[], List.nodup_nil⟩⟩

instance : Inhabited (Dict κ ν) := ⟨∅⟩

/-- First match in a list of entries. -/
def find (k : κ) : List (κ × ν) → Option ν
  | [] => none
  | (a, b) :: es => if a = k then some b else find k es

/-- `d.get(k)`. -/
def get? (d : Dict κ ν) (k : κ) : Option ν := find k d.entries

/-- `k in d`. -/
def contains (d : Dict κ ν) (k : κ) : Bool := (d.get? k).isSome

/-- `list(d)`. -/
def keys (d : Dict κ ν) : List κ := d.entries.map Prod.fst

/-- Overwrite in place, or append. -/
def put (k : κ) (v : ν) : List (κ × ν) → List (κ × ν)
  | [] => [(k, v)]
  | (a, b) :: es => if a = k then (a, v) :: es else (a, b) :: put k v es

theorem mem_keys_put {k : κ} {v : ν} {x : κ} :
    ∀ {es : List (κ × ν)}, x ∈ (put k v es).map Prod.fst ↔ x = k ∨ x ∈ es.map Prod.fst
  | [] => by simp [put]
  | (a, b) :: es => by
    unfold put
    by_cases h : a = k
    · subst h; simp
    · rw [if_neg h, List.map_cons, List.mem_cons, mem_keys_put, List.map_cons, List.mem_cons]
      exact or_left_comm

theorem nodup_put {k : κ} {v : ν} :
    ∀ {es : List (κ × ν)}, (es.map Prod.fst).Nodup → ((put k v es).map Prod.fst).Nodup
  | [], _ => by simp [put]
  | (a, b) :: es, h => by
    unfold put
    obtain ⟨ha, hes⟩ := List.nodup_cons.1 h
    by_cases hk : a = k
    · rw [if_pos hk]; exact h
    · rw [if_neg hk]
      refine List.nodup_cons.2 ⟨fun hm => ?_, nodup_put hes⟩
      rcases mem_keys_put.1 hm with e | e
      · exact hk e
      · exact ha e

/-- `d[k] = v`. -/
def insert (d : Dict κ ν) (k : κ) (v : ν) : Dict κ ν := ⟨put k v d.entries, nodup_put d.nodup⟩

/-- `d.pop(k, None)`. -/
def erase (d : Dict κ ν) (k : κ) : Dict κ ν :=
  ⟨d.entries.filter (fun e => e.1 ≠ k),
    (List.Sublist.map Prod.fst List.filter_sublist).nodup d.nodup⟩

/-- `d.setdefault(k, v)`. -/
def setDefault (d : Dict κ ν) (k : κ) (v : ν) : Dict κ ν :=
  if d.contains k then d else d.insert k v

/-! ## Lookup laws -/

theorem find_put {k j : κ} {v : ν} :
    ∀ {es : List (κ × ν)}, find j (put k v es) = if k = j then some v else find j es
  | [] => by simp [put, find]
  | (a, b) :: es => by
    unfold put
    by_cases h : a = k
    · subst h
      by_cases hj : a = j <;> simp [find, hj]
    · rw [if_neg h]
      by_cases hj : a = j
      · subst hj; simp [find, Ne.symm h]
      · simp [find, hj, find_put]

theorem find_filter {k j : κ} :
    ∀ {es : List (κ × ν)},
      find j (es.filter (fun e => e.1 ≠ k)) = if k = j then none else find j es
  | [] => by simp [find]
  | (a, b) :: es => by
    by_cases h : a = k
    · subst h
      rw [List.filter_cons_of_neg (by simp), find_filter]
      by_cases hj : a = j <;> simp [find, hj]
    · rw [List.filter_cons_of_pos (by simpa using h)]
      by_cases hj : a = j
      · subst hj; simp [find, Ne.symm h]
      · simp only [find, hj, if_false, find_filter]

@[simp] theorem get?_empty (k : κ) : (∅ : Dict κ ν).get? k = none := rfl

theorem get?_insert (d : Dict κ ν) (k j : κ) (v : ν) :
    (d.insert k v).get? j = if k = j then some v else d.get? j := find_put

theorem get?_erase (d : Dict κ ν) (k j : κ) :
    (d.erase k).get? j = if k = j then none else d.get? j := find_filter

@[simp] theorem get?_insert_self (d : Dict κ ν) (k : κ) (v : ν) :
    (d.insert k v).get? k = some v := by simp [get?_insert]

theorem get?_insert_ne (d : Dict κ ν) {k j : κ} (v : ν) (h : k ≠ j) :
    (d.insert k v).get? j = d.get? j := by simp [get?_insert, h]

@[simp] theorem get?_erase_self (d : Dict κ ν) (k : κ) : (d.erase k).get? k = none := by
  simp [get?_erase]

theorem get?_erase_ne (d : Dict κ ν) {k j : κ} (h : k ≠ j) : (d.erase k).get? j = d.get? j := by
  simp [get?_erase, h]

theorem get?_setDefault (d : Dict κ ν) (k j : κ) (v : ν) :
    (d.setDefault k v).get? j = if k = j then some ((d.get? k).getD v) else d.get? j := by
  unfold setDefault contains
  cases h : d.get? k with
  | none => simp [get?_insert]
  | some w =>
    by_cases hj : k = j
    · subst hj; simp [h]
    · simp [hj]

/-! ## Writing the same value under several keys -/

/-- `for k in ks: d[k] = v`. -/
def insertAll (d : Dict κ ν) (ks : List κ) (v : ν) : Dict κ ν :=
  ks.foldl (fun d k => d.insert k v) d

/-- `for k in ks: d.pop(k, None)`. -/
def eraseAll (d : Dict κ ν) (ks : List κ) : Dict κ ν := ks.foldl erase d

/-- `for k in ks: if d.get(k) == v: d.pop(k, None)`. -/
def eraseOwned [DecidableEq ν] (d : Dict κ ν) (ks : List κ) (v : ν) : Dict κ ν :=
  ks.foldl (fun d k => if d.get? k = some v then d.erase k else d) d

theorem get?_insertAll {ks : List κ} {v : ν} {j : κ} :
    ∀ {d : Dict κ ν}, (d.insertAll ks v).get? j = if j ∈ ks then some v else d.get? j := by
  induction ks with
  | nil => intro d; simp [insertAll]
  | cons k ks ih =>
    intro d
    show (insertAll (d.insert k v) ks v).get? j = _
    rw [ih, get?_insert]
    by_cases hj : j ∈ ks
    · simp [hj]
    · by_cases hk : k = j
      · simp [hk]
      · simp [hj, hk, Ne.symm hk]

theorem get?_eraseAll {ks : List κ} {j : κ} :
    ∀ {d : Dict κ ν}, (d.eraseAll ks).get? j = if j ∈ ks then none else d.get? j := by
  induction ks with
  | nil => intro d; simp [eraseAll]
  | cons k ks ih =>
    intro d
    show (eraseAll (d.erase k) ks).get? j = _
    rw [ih, get?_erase]
    by_cases hj : j ∈ ks
    · simp [hj]
    · by_cases hk : k = j
      · simp [hk]
      · simp [hj, hk, Ne.symm hk]

theorem get?_eraseOwned [DecidableEq ν] {ks : List κ} {v : ν} {j : κ} :
    ∀ {d : Dict κ ν}, (d.eraseOwned ks v).get? j =
      if j ∈ ks ∧ d.get? j = some v then none else d.get? j := by
  induction ks with
  | nil => intro d; simp [eraseOwned]
  | cons k ks ih =>
    intro d
    show (eraseOwned (if d.get? k = some v then d.erase k else d) ks v).get? j = _
    rw [ih]
    by_cases hv : d.get? k = some v
    · rw [if_pos hv, get?_erase]
      by_cases hk : k = j
      · subst hk; simp [hv]
      · simp [hk, Ne.symm hk]
    · rw [if_neg hv]
      by_cases hk : k = j
      · subst hk; simp [hv]
      · simp [Ne.symm hk]

/-! ## Entries -/

theorem find_of_mem {k : κ} {v : ν} :
    ∀ {es : List (κ × ν)}, (es.map Prod.fst).Nodup → (k, v) ∈ es → find k es = some v
  | [], _, h => by cases h
  | (a, b) :: es, hn, h => by
    obtain ⟨ha, hes⟩ := List.nodup_cons.1 hn
    rcases List.mem_cons.1 h with e | h
    · cases e; simp [find]
    · have hk : k ∈ es.map Prod.fst := List.mem_map_of_mem (f := Prod.fst) h
      have hne : a ≠ k := fun e => ha (e ▸ hk)
      simp only [find, if_neg hne]
      exact find_of_mem hes h

theorem mem_of_find {k : κ} {v : ν} : ∀ {es : List (κ × ν)}, find k es = some v → (k, v) ∈ es
  | [], h => by cases h
  | (a, b) :: es, h => by
    by_cases hk : a = k
    · subst hk
      simp only [find, if_true, Option.some.injEq] at h
      simp [h]
    · simp only [find, if_neg hk] at h
      exact List.mem_cons_of_mem _ (mem_of_find h)

theorem mem_entries {d : Dict κ ν} {k : κ} {v : ν} : (k, v) ∈ d.entries ↔ d.get? k = some v :=
  ⟨find_of_mem d.nodup, mem_of_find⟩

/-- The entries with a property that only one key's value has. -/
theorem filter_entries_eq {d : Dict κ ν} {p : κ × ν → Bool} {k : κ} {v : ν}
    (h : d.get? k = some v) (hp : p (k, v) = true)
    (hu : ∀ j w, d.get? j = some w → p (j, w) = true → j = k) : d.entries.filter p = [(k, v)] := by
  have hn : d.entries.Nodup := List.Nodup.of_map _ d.nodup
  have hf : (d.entries.filter p).Nodup := hn.filter p
  have hmem : ∀ e, e ∈ d.entries.filter p ↔ e = (k, v) := by
    rintro ⟨j, w⟩
    rw [List.mem_filter, mem_entries]
    constructor
    · rintro ⟨hj, hpj⟩
      obtain rfl := hu j w hj hpj
      rw [h] at hj
      cases hj; rfl
    · rintro e
      cases e
      exact ⟨h, hp⟩
  have hperm : (d.entries.filter p).Perm [(k, v)] :=
    (List.perm_ext_iff_of_nodup hf (List.nodup_singleton _)).2 fun e => by simp [hmem e]
  exact List.perm_singleton.1 hperm

/-- A test of a key by what it maps to is a test of entries. -/
theorem keys_filter {d : Dict κ ν} {p : κ × ν → Bool} {q : κ → Bool}
    (h : ∀ k v, d.get? k = some v → q k = p (k, v)) :
    d.keys.filter q = (d.entries.filter p).map Prod.fst := by
  unfold keys
  rw [List.filter_map]
  congr 1
  exact List.filter_congr fun e he => h _ _ (mem_entries.1 he)

theorem map_fst_put {k : κ} {v : ν} : ∀ {es : List (κ × ν)}, k ∈ es.map Prod.fst →
    (put k v es).map Prod.fst = es.map Prod.fst
  | (a, b) :: es, h => by
    by_cases hk : a = k
    · simp [put, hk]
    · rw [List.map_cons, List.mem_cons] at h
      rw [put, if_neg hk, List.map_cons, List.map_cons, map_fst_put (h.resolve_left (Ne.symm hk))]

/-- Overwriting keeps the position. -/
theorem keys_insert {d : Dict κ ν} {k : κ} {v : ν} (h : k ∈ d.keys) : (d.insert k v).keys = d.keys :=
  map_fst_put h

/-! ## Counting entries by value -/

/-- How many keys have a value with the property. -/
def count (d : Dict κ ν) (p : ν → Bool) : Nat := d.entries.countP fun e => p e.2

/-- What a lookup contributes to the count. -/
def weight (p : ν → Bool) : Option ν → Nat
  | some v => if p v then 1 else 0
  | none => 0

theorem countP_put {p : ν → Bool} {k : κ} {v : ν} : ∀ (es : List (κ × ν)),
    (put k v es).countP (fun e => p e.2) + weight p (find k es) =
      es.countP (fun e => p e.2) + weight p (some v)
  | [] => by simp [put, find, weight, List.countP_cons]
  | (a, b) :: es => by
    by_cases h : a = k
    · simp only [put, find, h, if_true, List.countP_cons, weight]; omega
    · have ih := countP_put (p := p) (k := k) (v := v) es
      simp only [put, find, h, if_false, List.countP_cons] at ih ⊢
      omega

theorem count_insert (d : Dict κ ν) (p : ν → Bool) (k : κ) (v : ν) :
    (d.insert k v).count p + weight p (d.get? k) = d.count p + weight p (some v) := countP_put _

theorem countP_filter_ne {p : ν → Bool} {k : κ} : ∀ {es : List (κ × ν)}, (es.map Prod.fst).Nodup →
    (es.filter fun e => e.1 ≠ k).countP (fun e => p e.2) + weight p (find k es) =
      es.countP (fun e => p e.2)
  | [], _ => by simp [find, weight]
  | (a, b) :: es, hn => by
    obtain ⟨ha, hes⟩ := List.nodup_cons.1 hn
    have ih := countP_filter_ne (p := p) (k := k) hes
    by_cases h : a = k
    · have hk : find k es = none := by
        cases hf : find k es with
        | none => rfl
        | some v =>
          exact absurd (List.mem_map_of_mem (f := Prod.fst) (mem_of_find hf)) (h ▸ ha)
      rw [hk] at ih
      rw [List.filter_cons_of_neg (by simp [h])]
      simp only [find, h, if_true, List.countP_cons, weight] at ih ⊢
      omega
    · rw [List.filter_cons_of_pos (by simp [h])]
      simp only [find, h, if_false, List.countP_cons] at ih ⊢
      omega

theorem count_erase (d : Dict κ ν) (p : ν → Bool) (k : κ) :
    (d.erase k).count p + weight p (d.get? k) = d.count p := countP_filter_ne d.nodup

/-- Erasing distinct keys that all count takes that many away. -/
theorem count_eraseAll {p : ν → Bool} : ∀ {ks : List κ} {d : Dict κ ν}, ks.Nodup →
    (∀ k ∈ ks, weight p (d.get? k) = 1) → (d.eraseAll ks).count p + ks.length = d.count p
  | [], d, _, _ => rfl
  | k :: ks, d, hn, h => by
    obtain ⟨hk, hks⟩ := List.nodup_cons.1 hn
    have hw : ∀ j ∈ ks, weight p ((d.erase k).get? j) = 1 := by
      intro j hj
      have hkj : k ≠ j := by rintro rfl; exact hk hj
      rw [get?_erase_ne d hkj]
      exact h j (List.mem_cons_of_mem _ hj)
    have ih := count_eraseAll (d := d.erase k) hks hw
    have he := count_erase d p k
    rw [h k (List.mem_cons_self ..)] at he
    show ((d.erase k).eraseAll ks).count p + (ks.length + 1) = d.count p
    omega

/-! ## A table built from a list -/

/-- `{key(x): f(x) for x in xs}`, when the keys differ. -/
theorem get?_foldl_insert {α : Type*} {key : α → κ} {f : α → ν} {k : κ} {v : ν} :
    ∀ {xs : List α} {d : Dict κ ν}, (xs.map key).Nodup →
      ((xs.foldl (fun t x => t.insert (key x) (f x)) d).get? k = some v ↔
        (∃ x ∈ xs, key x = k ∧ f x = v) ∨ k ∉ xs.map key ∧ d.get? k = some v) := by
  intro xs
  induction xs with
  | nil => intro d _; simp
  | cons x xs ih =>
    intro d hn
    rw [List.map_cons, List.nodup_cons] at hn
    rw [List.foldl_cons, ih hn.2, get?_insert]
    by_cases hk : key x = k
    · subst hk
      rw [if_pos rfl]
      simp only [List.mem_cons, exists_eq_or_imp, List.map_cons, true_and]
      constructor
      · rintro (⟨y, hy, hyx, hv⟩ | ⟨-, hv⟩)
        · exact (hn.1 (List.mem_map.2 ⟨y, hy, hyx⟩)).elim
        · exact .inl (.inl (Option.some.inj hv))
      · rintro ((hv | ⟨y, hy, hyx, -⟩) | ⟨hx, -⟩)
        · exact .inr ⟨hn.1, by rw [hv]⟩
        · exact (hn.1 (List.mem_map.2 ⟨y, hy, hyx⟩)).elim
        · exact (hx (.inl trivial)).elim
    · rw [if_neg hk]
      simp [hk, Ne.symm hk]

/-! ## Python equality -/

/-- Two lookups agree: neither finds a value, or they find equal ones. -/
def agree (eq : ν → ν → Bool) : Option ν → Option ν → Bool
  | some v, some w => eq v w
  | none, none => true
  | _, _ => false

/-- `d₁ == d₂`, where `eq` is the equality of the values: the same keys with equal values, in any
order. -/
def same (eq : ν → ν → Bool) (d₁ d₂ : Dict κ ν) : Bool :=
  (d₁.keys ++ d₂.keys).all fun k => agree eq (d₁.get? k) (d₂.get? k)

theorem find_eq_none {k : κ} : ∀ {es : List (κ × ν)}, find k es = none ↔ k ∉ es.map Prod.fst
  | [] => by simp [find]
  | (a, b) :: es => by
    by_cases h : a = k
    · subst h; simp [find]
    · simp only [find, h, if_false, find_eq_none, List.map_cons, List.mem_cons, not_or]
      exact ⟨fun hn => ⟨Ne.symm h, hn⟩, fun hn => hn.2⟩

theorem get?_eq_none {d : Dict κ ν} {k : κ} : d.get? k = none ↔ k ∉ d.keys := find_eq_none

theorem get?_isSome {d : Dict κ ν} {k : κ} : (d.get? k).isSome ↔ k ∈ d.keys := by
  rw [Option.isSome_iff_ne_none, ne_eq, get?_eq_none, not_not]

theorem mem_keys_of_get? {d : Dict κ ν} {k : κ} {v : ν} (h : d.get? k = some v) : k ∈ d.keys :=
  get?_isSome.1 (by simp [h])

section Same

variable {eq : ν → ν → Bool} {d₁ d₂ d₃ : Dict κ ν}

theorem same_iff : d₁.same eq d₂ = true ↔ ∀ k, agree eq (d₁.get? k) (d₂.get? k) = true := by
  simp only [same, List.all_eq_true, List.mem_append]
  refine ⟨fun h k => ?_, fun h k _ => h k⟩
  by_cases h₁ : k ∈ d₁.keys
  · exact h k (.inl h₁)
  · by_cases h₂ : k ∈ d₂.keys
    · exact h k (.inr h₂)
    · rw [get?_eq_none.2 h₁, get?_eq_none.2 h₂]
      rfl

/-- Dicts with the same items are equal. -/
theorem same_of_get? (hrefl : ∀ v, eq v v = true) (h : ∀ k, d₁.get? k = d₂.get? k) :
    d₁.same eq d₂ = true := by
  refine same_iff.2 fun k => ?_
  rw [h k]
  cases d₂.get? k with
  | none => rfl
  | some v => exact hrefl v

theorem same_symm (hsymm : ∀ {v w}, eq v w = true → eq w v = true) (h : d₁.same eq d₂ = true) :
    d₂.same eq d₁ = true := by
  refine same_iff.2 fun k => ?_
  have hk := same_iff.1 h k
  cases h₁ : d₁.get? k <;> cases h₂ : d₂.get? k <;> simp_all [agree]

theorem same_trans (htrans : ∀ {v w x}, eq v w = true → eq w x = true → eq v x = true)
    (h : d₁.same eq d₂ = true) (h' : d₂.same eq d₃ = true) : d₁.same eq d₃ = true := by
  refine same_iff.2 fun k => ?_
  have hk := same_iff.1 h k
  have hk' := same_iff.1 h' k
  cases h₂ : d₂.get? k with
  | none => cases h₁ : d₁.get? k <;> cases h₃ : d₃.get? k <;> simp_all [agree]
  | some w =>
    cases h₁ : d₁.get? k <;> cases h₃ : d₃.get? k <;> simp_all [agree]
    exact htrans hk hk'

end Same

end Dict
