import ReplicaLending.Gate.Model
/-!
# The queue of the lock

`AsyncLock.Fair`: only the head of the queue is ever woken, only while the lock is unlocked, and an
unlocked lock with a queue has its head on the way. So a woken waiter finds the lock unlocked (the
lock is never granted twice), and giving the lock back never strands the next waiter.
-/

namespace ReplicaLending

namespace AsyncLock

structure Fair (l : AsyncLock) : Prop where
  wokenHead : ∀ w ∈ l.waiters.tail, w.2 ≠ .woken
  wokenFree : ∀ w ∈ l.waiters, w.2 = .woken → l.locked = false
  ready : l.locked = false → ∀ w ∈ l.waiters.head?, w.2 ≠ .pending

theorem fair_init : Fair init := ⟨by simp [init], by simp [init], by simp [init]⟩

section
variable {l : AsyncLock} {t : Nat}

@[simp] theorem locked_remove : (l.remove t).locked = l.locked := rfl

@[simp] theorem locked_wakeUpFirst : l.wakeUpFirst.locked = l.locked := by
  unfold wakeUpFirst; split <;> rfl

@[simp] theorem locked_release : l.release.locked = false := by
  unfold release
  split
  · simp
  · rename_i h
    simpa using h

@[simp] theorem locked_unwind : (l.unwind t).locked = l.locked := by
  unfold unwind; split <;> simp

theorem locked_of_free (h : l.free = true) : l.locked = false := by
  simp only [free, Bool.and_eq_true, Bool.not_eq_true'] at h
  exact h.1

/-- The coroutines in the queue. -/
def queued (l : AsyncLock) : List Nat := l.waiters.map Prod.fst

@[simp] theorem queued_wakeUpFirst : l.wakeUpFirst.queued = l.queued := by
  unfold wakeUpFirst queued; split <;> simp_all

@[simp] theorem queued_release : l.release.queued = l.queued := by
  unfold release; split <;> simp [queued_wakeUpFirst]; rfl

@[simp] theorem queued_cancel : (l.cancel t).queued = l.queued := by
  simp only [cancel, queued, List.map_map]
  refine List.map_congr_left fun w _ => ?_
  by_cases hw : w = (t, .pending) <;> simp [hw]

theorem mem_queued_remove {u : Nat} : u ∈ (l.remove t).queued ↔ u ∈ l.queued ∧ u ≠ t := by
  simp only [remove, queued, List.mem_map, List.mem_filter, decide_eq_true_eq]
  constructor
  · rintro ⟨w, ⟨hw, hne⟩, rfl⟩
    exact ⟨⟨w, hw, rfl⟩, hne⟩
  · rintro ⟨⟨w, hw, rfl⟩, hne⟩
    exact ⟨w, ⟨hw, hne⟩, rfl⟩

theorem mem_queued_unwind {u : Nat} : u ∈ (l.unwind t).queued ↔ u ∈ l.queued ∧ u ≠ t := by
  unfold unwind; split <;> simp [mem_queued_remove]

theorem mem_queued_enqueue {u : Nat} : u ∈ (l.enqueue t).queued ↔ u ∈ l.queued ∨ u = t := by
  simp [enqueue, queued]

/-! ## Every operation keeps the queue fair -/

theorem Fair.take (h : l.Fair) (hn : ∀ w ∈ l.waiters, w.2 ≠ .woken) : l.take.Fair :=
  ⟨h.wokenHead, fun w hw e => absurd e (hn w hw), fun hk => by cases hk⟩

/-- The fast path takes a lock that nobody has been woken for. -/
theorem Fair.take_free (h : l.Fair) (hf : l.free = true) : l.take.Fair := by
  refine h.take fun w hw => ?_
  simp only [free, Bool.and_eq_true, List.all_eq_true, decide_eq_true_eq] at hf
  simp [hf.2 w hw]

theorem Fair.enqueue (h : l.Fair) (hf : l.free = false) : (l.enqueue t).Fair := by
  -- a lock that is not free is locked or has a queue, whose head stays
  have hne : l.locked = false → l.waiters ≠ [] := by
    rintro hk hw
    simp [free, hk, hw] at hf
  refine ⟨fun w hw => ?_, fun w hw e => ?_, fun hk w hw => ?_⟩
  · cases hl : l.waiters with
    | nil => simp [AsyncLock.enqueue, hl] at hw
    | cons a ws =>
      simp only [AsyncLock.enqueue, hl, List.cons_append, List.tail_cons, List.mem_append,
        List.mem_singleton] at hw
      rcases hw with hw | rfl
      · exact h.wokenHead w (by simpa [hl] using hw)
      · simp
  · rcases List.mem_append.1 hw with hw | hw
    · exact h.wokenFree w hw e
    · rw [List.mem_singleton.1 hw] at e; cases e
  · cases hl : l.waiters with
    | nil => exact absurd hl (hne hk)
    | cons a ws =>
      simp only [AsyncLock.enqueue, hl, List.cons_append, List.head?_cons, Option.mem_some_iff] at hw
      exact h.ready hk w (by simp [hl, hw])

theorem Fair.cancel (h : l.Fair) : (l.cancel t).Fair := by
  have hw : ∀ w : Nat × Fut, (if w = (t, .pending) then ((t, .cancelled) : Nat × Fut) else w).2 = .woken →
      w.2 = .woken := by
    intro w
    split <;> simp
  have hp : ∀ w : Nat × Fut, (if w = (t, .pending) then ((t, .cancelled) : Nat × Fut) else w).2 =
      .pending → w.2 = .pending := by
    intro w
    split <;> simp
  refine ⟨fun w hm e => ?_, fun w hm e => ?_, fun hk w hm e => ?_⟩
  · simp only [AsyncLock.cancel, ← List.map_tail, List.mem_map] at hm
    obtain ⟨v, hv, rfl⟩ := hm
    exact h.wokenHead v hv (hw v e)
  · obtain ⟨v, hv, rfl⟩ := List.mem_map.1 hm
    exact h.wokenFree v hv (hw v e)
  · simp only [AsyncLock.cancel, List.head?_map, Option.mem_def, Option.map_eq_some_iff] at hm
    obtain ⟨v, hv, rfl⟩ := hm
    exact h.ready hk v hv (hp v e)

/-- Waking the head of a queue nobody behind it was woken in. -/
theorem fair_wakeUpFirst (hk : l.locked = false) (h : ∀ w ∈ l.waiters.tail, w.2 ≠ .woken) :
    l.wakeUpFirst.Fair := by
  refine ⟨fun w hw => ?_, fun w _ _ => by simp [hk], fun _ w hw => ?_⟩
  · apply h
    unfold wakeUpFirst at hw
    split at hw
    · rename_i hl; simpa [hl] using hw
    · exact hw
  · unfold wakeUpFirst at hw
    split at hw
    · cases hw; simp
    · rename_i hn
      rintro e
      cases hl : l.waiters with
      | nil => simp [hl] at hw
      | cons a ws =>
        obtain ⟨u, f⟩ := a
        simp only [hl, List.head?_cons, Option.mem_some_iff] at hw
        subst hw
        exact hn u ws (by rw [hl]; simpa using e)

theorem Fair.release (h : l.Fair) : l.release.Fair := by
  unfold AsyncLock.release
  split
  · exact fair_wakeUpFirst rfl h.wokenHead
  · exact h

/-- Behind the head of a queue with one waiter removed nobody is woken. -/
theorem Fair.tail_remove (h : l.Fair) : ∀ w ∈ (l.remove t).waiters.tail, w.2 ≠ .woken := by
  intro w hw
  cases hl : l.waiters with
  | nil => simp [remove, hl] at hw
  | cons a ws =>
    refine h.wokenHead w ?_
    simp only [remove, hl, List.filter_cons] at hw
    rw [hl, List.tail_cons]
    split at hw
    · exact List.mem_of_mem_filter hw
    · exact List.mem_of_mem_filter (List.mem_of_mem_tail hw)

theorem Fair.unwind (h : l.Fair) : (l.unwind t).Fair := by
  unfold AsyncLock.unwind
  split
  · rename_i hk
    exact ⟨h.tail_remove, fun w hw e => h.wokenFree w (List.mem_of_mem_filter hw) e,
      fun hf => by rw [locked_remove, hk] at hf; cases hf⟩
  · rename_i hk
    exact fair_wakeUpFirst (by simpa using hk) h.tail_remove

/-- A woken waiter is the head, so removing it leaves nobody woken. -/
theorem Fair.take_remove (h : l.Fair) (ht : (t, Fut.woken) ∈ l.waiters) :
    ((l.remove t).take).Fair := by
  refine ⟨h.tail_remove, fun w hw e => ?_, fun hk => by cases hk⟩
  obtain ⟨hw, hne⟩ := List.mem_filter.1 hw
  cases hl : l.waiters with
  | nil => simp [hl] at hw
  | cons a ws =>
    have htail : ∀ v ∈ ws, v.2 ≠ .woken := fun v hv => h.wokenHead v (by simpa [hl] using hv)
    rw [hl] at ht hw
    rcases List.mem_cons.1 ht with rfl | ht
    · rcases List.mem_cons.1 hw with rfl | hw
      · simp at hne
      · exact absurd e (htail w hw)
    · exact absurd rfl (htail _ ht)

end

end AsyncLock

end ReplicaLending
