import ReplicaLending.Queue.Model
/-!
# Exactly once

A row is on disk before its sample goes into the native queue, is never taken back once it is on
disk, and is resolved only after the native put returned. So whatever fails, an id that may have been
enqueued has a row, and a call that finds a row does not enqueue.
-/

namespace ReplicaLending

/-! ## The ledger against the queue -/

/-- The row says what the entry says. -/
def CompletionRow.Says (row : CompletionRow) (a : Enqueued) : Prop :=
  row.payloadDigest = a.digest ∧ row.enqueueSeq = a.seq

structure LedgerOk (l : Ledger) (enqueued : List Enqueued) (returned : List CompletionEvidence) :
    Prop where
  /-- What is on disk is in the open transaction, there perhaps resolved meanwhile. -/
  agree : ∀ {id row}, l.committed.get? id = some row → ∃ row', l.working.get? id = some row' ∧
    row'.payloadDigest = row.payloadDigest ∧ row'.enqueueSeq = row.enqueueSeq ∧
    ∀ b, row.droppedOldest = some b → row'.droppedOldest = some b
  onDisk : ∀ a ∈ enqueued, ∃ row, l.committed.get? a.id = some row ∧ row.Says a
  resolved : ∀ {id row b}, l.working.get? id = some row → row.droppedOldest = some b →
    ∃ a ∈ enqueued, a.id = id ∧ row.Says a
  answered : ∀ e ∈ returned, ∀ {row b}, l.working.get? e.logicalSampleId = some row →
    row.droppedOldest = some b → b = e.droppedOldest

/-- A write that returns is in the transaction and on disk. -/
theorem Ledger.write_ok {l l' : Ledger} {change : Dict Name CompletionRow → Dict Name CompletionRow}
    {f g : DbFault} (h : l.write change f g = (true, l')) :
    l' = ⟨change l.working, change l.working⟩ := by
  unfold Ledger.write at h
  cases f <;> cases g <;> simp_all [Ledger.execute, Ledger.commit]

namespace LedgerOk

variable {l : Ledger} {enqueued : List Enqueued} {returned : List CompletionEvidence}
  {id digest : Name} {n : Nat}

theorem inTransaction (h : LedgerOk l enqueued returned) {a : Enqueued} (ha : a ∈ enqueued) :
    ∃ row, l.working.get? a.id = some row ∧ row.Says a := by
  obtain ⟨row, hr, hd, hs⟩ := h.onDisk a ha
  obtain ⟨row', hr', hd', hs', -⟩ := h.agree hr
  exact ⟨row', hr', hd'.trans hd, hs'.trans hs⟩

theorem rollback (h : LedgerOk l enqueued returned) :
    LedgerOk { l with working := l.committed } enqueued returned where
  agree := fun hr => ⟨_, hr, rfl, rfl, fun _ hb => hb⟩
  onDisk := h.onDisk
  resolved := by
    intro id row b hr hb
    obtain ⟨row', hr', hd, hs, hres⟩ := h.agree hr
    obtain ⟨a, ha, hid, hsays⟩ := h.resolved hr' (hres b hb)
    exact ⟨a, ha, hid, hd.symm.trans hsays.1, hs.symm.trans hsays.2⟩
  answered := by
    intro e he row b hr hb
    obtain ⟨row', hr', -, -, hres⟩ := h.agree hr
    exact h.answered e he hr' (hres b hb)

theorem commit (h : LedgerOk l enqueued returned) :
    LedgerOk { l with committed := l.working } enqueued returned where
  agree := fun hr => ⟨_, hr, rfl, rfl, fun _ hb => hb⟩
  onDisk := fun _ ha => h.inTransaction ha
  resolved := h.resolved
  answered := h.answered

/-- A statement and its commit, however they end. -/
theorem write (h : LedgerOk l enqueued returned)
    (change : Dict Name CompletionRow → Dict Name CompletionRow)
    (hc : LedgerOk { l with working := change l.working } enqueued returned) (f g : DbFault) :
    LedgerOk (l.write change f g).2 enqueued returned := by
  unfold Ledger.write
  cases f with
  | none =>
    cases g with
    | none => exact hc.commit
    | before => exact hc
    | after => exact hc.commit
    | rollsBack => exact hc.rollback
  | before => exact h
  | after => exact hc
  | rollsBack => exact h.rollback

/-- A provisional row for an id that has none. -/
theorem reserve (h : LedgerOk l enqueued returned) (digest : Name) (n : Nat)
    (hid : l.working.get? id = none) :
    LedgerOk { l with working := l.working.insert id ⟨digest, n, none⟩ } enqueued returned := by
  have hne : ∀ {j row}, l.working.get? j = some row → id ≠ j := by
    rintro j row hr rfl
    rw [hid] at hr; cases hr
  constructor
  case agree =>
    intro j row hr
    obtain ⟨row', hr', hrest⟩ := h.agree hr
    exact ⟨row', (Dict.get?_insert_ne _ _ (hne hr')).trans hr', hrest⟩
  case onDisk => exact h.onDisk
  case resolved =>
    intro j row b hr hb
    replace hr : (l.working.insert id ⟨digest, n, none⟩).get? j = some row := hr
    rw [Dict.get?_insert] at hr
    split at hr
    · cases hr; cases hb
    · exact h.resolved hr hb
  case answered =>
    intro e he row b hr hb
    replace hr : (l.working.insert id ⟨digest, n, none⟩).get? e.logicalSampleId = some row := hr
    rw [Dict.get?_insert] at hr
    split at hr
    · cases hr; cases hb
    · exact h.answered e he hr hb

/-- The row of an enqueued id is resolved, before any evidence of it is out. -/
theorem resolve {a : Enqueued} {b : Bool} (h : LedgerOk l enqueued returned) (ha : a ∈ enqueued)
    (hopen : ∀ row, l.working.get? a.id = some row → row.droppedOldest = none)
    (hfresh : ∀ e ∈ returned, e.logicalSampleId ≠ a.id) :
    LedgerOk { l with working := Ledger.resolve a.id b l.working } enqueued returned := by
  obtain ⟨row₀, hr₀, hsays⟩ := h.inTransaction ha
  have hget : ∀ j, (Ledger.resolve a.id b l.working).get? j =
      if a.id = j then some { row₀ with droppedOldest := some b } else l.working.get? j := by
    intro j
    simp only [Ledger.resolve, hr₀, Dict.get?_insert]
  constructor
  case agree =>
    intro j row hr
    obtain ⟨row', hr', hd, hs, hres⟩ := h.agree hr
    by_cases hj : a.id = j
    · subst hj
      rw [hr₀] at hr'
      cases hr'
      refine ⟨_, (hget _).trans (if_pos rfl), hd, hs, fun c hc => ?_⟩
      have := hres c hc
      rw [hopen _ hr₀] at this
      cases this
    · exact ⟨row', (hget j).trans ((if_neg hj).trans hr'), hd, hs, hres⟩
  case onDisk => exact h.onDisk
  case resolved =>
    intro j row c hr hc
    replace hr : (Ledger.resolve a.id b l.working).get? j = some row := hr
    rw [hget] at hr
    split at hr
    · rename_i hj
      cases hr
      exact ⟨a, ha, hj, hsays⟩
    · exact h.resolved hr hc
  case answered =>
    intro e he row c hr hc
    replace hr : (Ledger.resolve a.id b l.working).get? e.logicalSampleId = some row := hr
    rw [hget, if_neg (hfresh e he).symm] at hr
    exact h.answered e he hr hc

/-- The native put appends a sample whose row is on disk. -/
theorem enqueue {a : Enqueued} (h : LedgerOk l enqueued returned)
    (ha : ∃ row, l.committed.get? a.id = some row ∧ row.Says a) :
    LedgerOk l (enqueued ++ [a]) returned where
  agree := h.agree
  onDisk := by
    intro b hb
    rcases List.mem_append.1 hb with hb | hb
    · exact h.onDisk b hb
    · rw [List.mem_singleton.1 hb]; exact ha
  resolved := by
    intro id row c hr hc
    obtain ⟨b, hb, hrest⟩ := h.resolved hr hc
    exact ⟨b, List.mem_append_left _ hb, hrest⟩
  answered := h.answered

/-- An evidence that repeats what the ledger and all earlier ones say. -/
theorem answer {e : CompletionEvidence} (h : LedgerOk l enqueued returned)
    (he : ∀ {row b}, l.working.get? e.logicalSampleId = some row → row.droppedOldest = some b →
      b = e.droppedOldest) : LedgerOk l enqueued (e :: returned) where
  agree := h.agree
  onDisk := h.onDisk
  resolved := h.resolved
  answered := by
    intro e' he' row b hr hb
    rcases List.mem_cons.1 he' with rfl | he'
    · exact he hr hb
    · exact h.answered e' he' hr hb

end LedgerOk

/-! ## The system -/

namespace QueueSystem

variable {Sample : Type} {read : Sample → Except PyErr (Option String × Name)} {session : Name}
  {s s' : QueueSystem} {t : Nat} {id digest : Name} {n : Nat} {b : Bool}

/-- What holds of the producer inside the native put. -/
structure PuttingOk (s : QueueSystem) (a : Enqueued) (b : Bool) : Prop where
  seq : a.seq + 1 = s.nextCompletionSeq
  onDisk : ∃ row, s.ledger.committed.get? a.id = some row ∧ row.Says a
  provisional : ∀ row, s.ledger.working.get? a.id = some row → row.droppedOldest = none
  unanswered : ∀ e ∈ s.returned, e.logicalSampleId ≠ a.id
  enqueued : b = true → a ∈ s.enqueued
  pending : b = false → ∀ c ∈ s.enqueued, c.id ≠ a.id ∧ c.seq < a.seq

structure QueueOk (session : Name) (s : QueueSystem) : Prop where
  ledger : LedgerOk s.ledger s.enqueued s.returned
  once : (s.enqueued.map Enqueued.id).Nodup
  ordered : s.enqueued.Pairwise fun a c => a.seq < c.seq
  bound : ∀ a ∈ s.enqueued, a.seq < s.nextCompletionSeq
  holder : ∀ {t id digest n b}, s.pc t = .putting id digest n b → s.holder = some t
  putting : ∀ {t id digest n b}, s.pc t = .putting id digest n b → PuttingOk s ⟨id, digest, n⟩ b
  accepted : ∀ e ∈ s.returned, e.taskSession = session ∧ ∃ a ∈ s.enqueued,
    a = ⟨e.logicalSampleId, e.payloadDigest, e.enqueueSeq⟩
  equal : ∀ e ∈ s.returned, ∀ e' ∈ s.returned, e.logicalSampleId = e'.logicalSampleId → e = e'

theorem QueueOk.entry_eq (h : QueueOk session s) {a c : Enqueued} (ha : a ∈ s.enqueued)
    (hc : c ∈ s.enqueued) (hid : a.id = c.id) : a = c := List.inj_on_of_nodup_map h.once ha hc hid

/-- A producer that is not inside the native put moves, and nothing else. -/
theorem QueueOk.setPc (h : QueueOk session s) {pc : QueuePc}
    (hpc : ∀ id digest n b, pc ≠ .putting id digest n b) : QueueOk session (s.setPc t pc) := by
  have hold : ∀ {u id digest n b}, (s.setPc t pc).pc u = .putting id digest n b →
      s.pc u = .putting id digest n b := by
    intro u id digest n b hu
    replace hu : Function.update s.pc t pc u = .putting id digest n b := hu
    by_cases hut : u = t
    · subst hut
      rw [Function.update_self] at hu
      exact (hpc _ _ _ _ hu).elim
    · rw [Function.update_of_ne hut] at hu
      exact hu
  exact ⟨h.ledger, h.once, h.ordered, h.bound, fun hu => h.holder (hold hu), fun hu =>
    ⟨(h.putting (hold hu)).seq, (h.putting (hold hu)).onDisk, (h.putting (hold hu)).provisional,
      (h.putting (hold hu)).unanswered, (h.putting (hold hu)).enqueued,
      (h.putting (hold hu)).pending⟩, h.accepted, h.equal⟩

/-- Nobody but the producer is inside the native put. -/
def Alone (s : QueueSystem) (t : Nat) : Prop :=
  ∀ u id digest n b, s.pc u = .putting id digest n b → u = t

theorem QueueOk.alone (h : QueueOk session s) (ht : s.holder = none ∨ s.holder = some t) :
    Alone s t := by
  intro u id digest n b hu
  have hu := h.holder hu
  rcases ht with ht | ht <;> rw [ht] at hu
  · cases hu
  · exact (Option.some.inj hu).symm

/-- The end of a call. -/
theorem QueueOk.leave (h : QueueOk session s) (ha : Alone s t) {l : Ledger}
    (hl : LedgerOk l s.enqueued s.returned) :
    QueueOk session (leave { s with ledger := l } t) := by
  have hnone : ∀ {u id digest n b},
      (QueueSystem.leave { s with ledger := l } t).pc u ≠ .putting id digest n b := by
    intro u id digest n b hu
    replace hu : Function.update s.pc t .idle u = .putting id digest n b := hu
    by_cases hut : u = t
    · subst hut
      rw [Function.update_self] at hu
      cases hu
    · rw [Function.update_of_ne hut] at hu
      exact hut (ha _ _ _ _ _ hu)
  exact ⟨hl, h.once, h.ordered, h.bound, fun hu => (hnone hu).elim, fun hu => (hnone hu).elim,
    h.accepted, h.equal⟩

/-- The end of a call that returns an evidence. -/
theorem QueueOk.answer (h : QueueOk session s) (ha : Alone s t) {l : Ledger}
    {e : CompletionEvidence} (hl : LedgerOk l s.enqueued (e :: s.returned))
    (hs : e.taskSession = session)
    (hm : (⟨e.logicalSampleId, e.payloadDigest, e.enqueueSeq⟩ : Enqueued) ∈ s.enqueued)
    (he : ∀ e' ∈ s.returned, e'.logicalSampleId = e.logicalSampleId → e' = e) :
    QueueOk session (QueueSystem.leave ({ s with ledger := l }.answer e) t) := by
  have hnone : ∀ {u id digest n b},
      (QueueSystem.leave ({ s with ledger := l }.answer e) t).pc u ≠ .putting id digest n b := by
    intro u id digest n b hu
    replace hu : Function.update s.pc t .idle u = .putting id digest n b := hu
    by_cases hut : u = t
    · subst hut
      rw [Function.update_self] at hu
      cases hu
    · rw [Function.update_of_ne hut] at hu
      exact hut (ha _ _ _ _ _ hu)
  refine ⟨hl, h.once, h.ordered, h.bound, fun hu => (hnone hu).elim, fun hu => (hnone hu).elim,
    fun e' he' => ?_, fun e₁ h₁ e₂ h₂ hid => ?_⟩
  · rcases List.mem_cons.1 he' with rfl | he'
    · exact ⟨hs, _, hm, rfl⟩
    · exact h.accepted e' he'
  · rcases List.mem_cons.1 h₁ with heq | hold <;> rcases List.mem_cons.1 h₂ with heq' | hold'
    · rw [heq, heq']
    · rw [heq] at hid ⊢
      exact (he e₂ hold' hid.symm).symm
    · rw [heq'] at hid ⊢
      exact he e₁ hold hid
    · exact h.equal e₁ hold e₂ hold' hid

theorem lookupCompletion_some {l : Ledger} {e : CompletionEvidence}
    (h : l.lookupCompletion session id = .ok (some e)) : ∃ row b, l.working.get? id = some row ∧
      row.droppedOldest = some b ∧ e = ⟨session, id, row.payloadDigest, row.enqueueSeq, b⟩ := by
  unfold Ledger.lookupCompletion at h
  split at h
  · cases h
  rename_i row hr
  split at h
  · cases h
  · rename_i b hb
    cases h
    exact ⟨row, b, hr, hb, rfl⟩

theorem lookupCompletion_none {l : Ledger} (h : l.lookupCompletion session id = .ok none) :
    l.working.get? id = none := by
  unfold Ledger.lookupCompletion at h
  split at h
  · assumption
  · split at h <;> cases h

/-- A repeated evidence says what the first one said. -/
theorem QueueOk.repeats (h : QueueOk session s) {row : CompletionRow}
    (hr : s.ledger.working.get? id = some row) (hb : row.droppedOldest = some b) :
    (⟨id, row.payloadDigest, row.enqueueSeq⟩ : Enqueued) ∈ s.enqueued ∧
    ∀ e' ∈ s.returned, e'.logicalSampleId = id →
      e' = ⟨session, id, row.payloadDigest, row.enqueueSeq, b⟩ := by
  obtain ⟨a, ha, rfl, hd, hn⟩ := h.ledger.resolved hr hb
  refine ⟨?_, fun e' he' hid => ?_⟩
  · rw [hd, hn]; exact ha
  · obtain ⟨hs, c, hc, heq⟩ := h.accepted e' he'
    have hca : c = a := h.entry_eq hc ha (by rw [heq]; exact hid)
    have hdrop : b = e'.droppedOldest := h.ledger.answered e' he' (by rw [hid]; exact hr) hb
    rw [heq] at hca
    cases e'
    simp only [CompletionEvidence.mk.injEq] at hs hid hdrop hca ⊢
    subst hca
    exact ⟨hs, rfl, hd.symm, hn.symm, hdrop.symm⟩

/-- The call goes into the native put: its row is on disk, provisional. -/
theorem QueueOk.enter (h : QueueOk session s) (hh : s.holder = none) {d : Dict Name CompletionRow}
    (hl : LedgerOk ⟨d.insert id ⟨digest, s.nextCompletionSeq, none⟩,
      d.insert id ⟨digest, s.nextCompletionSeq, none⟩⟩ s.enqueued s.returned)
    (hfresh : ∀ a ∈ s.enqueued, a.id ≠ id) : QueueOk session { s with
      ledger := ⟨d.insert id ⟨digest, s.nextCompletionSeq, none⟩,
        d.insert id ⟨digest, s.nextCompletionSeq, none⟩⟩
      nextCompletionSeq := s.nextCompletionSeq + 1
      holder := some t
      pc := Function.update s.pc t (.putting id digest s.nextCompletionSeq false) } := by
  have honly : ∀ {u id' digest' n b},
      Function.update s.pc t (.putting id digest s.nextCompletionSeq false) u =
        .putting id' digest' n b →
      u = t ∧ id' = id ∧ digest' = digest ∧ n = s.nextCompletionSeq ∧ b = false := by
    intro u id' digest' n b hu
    by_cases hut : u = t
    · subst hut
      rw [Function.update_self] at hu
      cases hu
      exact ⟨rfl, rfl, rfl, rfl, rfl⟩
    · rw [Function.update_of_ne hut] at hu
      have := h.holder hu
      rw [hh] at this
      cases this
  refine ⟨hl, h.once, h.ordered, fun a ha => Nat.lt_succ_of_lt (h.bound a ha), fun hu => ?_,
    fun hu => ?_, h.accepted, h.equal⟩
  · rw [(honly hu).1]
  · obtain ⟨-, rfl, rfl, rfl, rfl⟩ := honly hu
    refine ⟨rfl, ⟨_, Dict.get?_insert_self _ _ _, rfl, rfl⟩, fun row hr => ?_, fun e he hid => ?_,
      (fun hb => nomatch hb), fun _ c hc => ⟨hfresh c hc, h.bound c hc⟩⟩
    · rw [show (d.insert _ _).get? _ = _ from Dict.get?_insert_self _ _ _] at hr
      cases hr; rfl
    · obtain ⟨-, a, ha, rfl⟩ := h.accepted e he
      exact hfresh _ ha hid

theorem QueueOk.admission (h : QueueOk session s) (hh : s.holder = none) (f : DbFaults) :
    QueueOk session (s.admission session t id digest f) := by
  have ha : Alone s t := h.alone (.inl hh)
  unfold QueueSystem.admission
  cases hf : s.ledger.execute (fun d => d) f.select with
  | mk ok l =>
    cases ok with
    | false =>
      have hl : LedgerOk l s.enqueued s.returned := by
        unfold Ledger.execute at hf
        split at hf <;> cases hf
        · exact h.ledger
        · exact h.ledger
        · exact h.ledger.rollback
      exact h.leave ha hl
    | true =>
      dsimp only
      cases hlook : s.ledger.lookupCompletion session id with
      | error e => exact h.leave ha h.ledger
      | ok found =>
        cases found with
        | some e =>
          dsimp only
          split
          · exact h.leave ha h.ledger
          · obtain ⟨row, b, hr, hb, rfl⟩ := lookupCompletion_some hlook
            obtain ⟨hm, heq⟩ := h.repeats hr hb
            refine h.answer ha (h.ledger.answer fun {row' c} hr' hc => ?_) rfl hm heq
            obtain rfl : row = row' := Option.some.inj (hr.symm.trans hr')
            exact Option.some.inj (hc.symm.trans hb)
        | none =>
          have hnone := lookupCompletion_none hlook
          have hres := h.ledger.reserve digest s.nextCompletionSeq hnone
          have hw := h.ledger.write
            (fun d => d.insert id ⟨digest, s.nextCompletionSeq, none⟩) hres f.write f.commit
          dsimp only
          cases hcase : s.ledger.write (fun d => d.insert id ⟨digest, s.nextCompletionSeq, none⟩)
              f.write f.commit with
          | mk ok l =>
            rw [hcase] at hw
            cases ok with
            | false => exact h.leave ha hw
            | true =>
              obtain rfl := Ledger.write_ok hcase
              have hfresh : ∀ a ∈ s.enqueued, a.id ≠ id := by
                rintro a ha rfl
                obtain ⟨row, hr, -⟩ := h.ledger.inTransaction ha
                rw [hnone] at hr; cases hr
              exact h.enter hh hw hfresh

theorem QueueOk.enqueue (h : QueueOk session s) (ht : s.pc t = .putting id digest n false) :
    QueueOk session { s with
      pc := Function.update s.pc t (.putting id digest n true)
      enqueued := s.enqueued ++ [⟨id, digest, n⟩] } := by
  have hp := h.putting ht
  have hpend := hp.pending rfl
  have honly : ∀ {u id' digest' n' b'},
      Function.update s.pc t (.putting id digest n true) u = .putting id' digest' n' b' →
      u = t ∧ id' = id ∧ digest' = digest ∧ n' = n ∧ b' = true := by
    intro u id' digest' n' b' hu
    by_cases hut : u = t
    · subst hut
      rw [Function.update_self] at hu
      cases hu
      exact ⟨rfl, rfl, rfl, rfl, rfl⟩
    · rw [Function.update_of_ne hut] at hu
      exact (hut (h.alone (.inr (h.holder ht)) _ _ _ _ _ hu)).elim
  constructor
  case ledger => exact h.ledger.enqueue hp.onDisk
  case once =>
    rw [List.map_append, List.nodup_append]
    refine ⟨h.once, List.nodup_singleton _, ?_⟩
    intro i hi j hj hij
    obtain ⟨c, hc, rfl⟩ := List.mem_map.1 hi
    rw [List.map_singleton, List.mem_singleton] at hj
    exact (hpend c hc).1 (hij.trans hj)
  case ordered =>
    refine List.pairwise_append.2 ⟨h.ordered, List.pairwise_singleton _ _, ?_⟩
    intro c hc a ha
    rw [List.mem_singleton.1 ha]
    exact (hpend c hc).2
  case bound =>
    intro a ha
    rcases List.mem_append.1 ha with ha | ha
    · exact h.bound a ha
    · rw [List.mem_singleton.1 ha]
      have := hp.seq
      show n < s.nextCompletionSeq
      dsimp only at this
      omega
  case holder =>
    intro u id' digest' n' b' hu
    rw [(honly hu).1]
    exact h.holder ht
  case putting =>
    intro u id' digest' n' b' hu
    obtain ⟨-, rfl, rfl, rfl, rfl⟩ := honly hu
    exact ⟨hp.seq, hp.onDisk, hp.provisional, hp.unanswered,
      fun _ => List.mem_append_right _ (List.mem_singleton_self _), fun hb => by cases hb⟩
  case accepted =>
    intro e he
    obtain ⟨hs, a, ha, heq⟩ := h.accepted e he
    exact ⟨hs, a, List.mem_append_left _ ha, heq⟩
  case equal => exact h.equal

theorem QueueOk.completion (h : QueueOk session s) (ht : s.pc t = .putting id digest n true)
    (dropped : Bool) (f : DbFaults) :
    QueueOk session (s.completion session t id digest n dropped f) := by
  have hp := h.putting ht
  have hm := hp.enqueued rfl
  have ha : Alone s t := h.alone (.inr (h.holder ht))
  have hres := h.ledger.resolve (b := dropped) hm hp.provisional hp.unanswered
  have hw := h.ledger.write (Ledger.resolve id dropped) hres f.write f.commit
  unfold QueueSystem.completion
  cases hcase : s.ledger.write (Ledger.resolve id dropped) f.write f.commit with
  | mk ok l =>
    rw [hcase] at hw
    cases ok with
    | false => exact h.leave ha hw
    | true =>
      refine h.answer ha (hw.answer fun {row c} hr hc => ?_) rfl hm fun e' he' hid =>
        (hp.unanswered e' he' hid).elim
      obtain rfl := Ledger.write_ok hcase
      obtain ⟨row₀, hr₀, -⟩ := h.ledger.inTransaction hm
      replace hr : (Ledger.resolve id dropped s.ledger.working).get? id = some row := hr
      replace hr₀ : s.ledger.working.get? id = some row₀ := hr₀
      simp only [Ledger.resolve, hr₀, Dict.get?_insert_self, Option.some.injEq] at hr
      subst hr
      exact (Option.some.inj hc).symm

theorem QueueOk.step {l : QueueLabel Sample} (h : QueueOk session s)
    (hs : s.step read session l = some s') : QueueOk session s' := by
  cases l with
  | call t sample =>
    simp only [QueueSystem.step] at hs
    split at hs
    swap
    · cases hs
    cases hs
    unfold QueueSystem.begin
    split
    · exact h
    split
    · exact h
    · exact h.setPc (by simp)
  | cancel t =>
    simp only [QueueSystem.step] at hs
    split at hs
    · cases hs; exact h.setPc (by simp)
    · cases hs
  | enter t f =>
    simp only [QueueSystem.step] at hs
    split at hs
    swap
    · cases hs
    split at hs
    · rename_i hh
      cases hs; exact h.admission hh f
    · cases hs
  | enqueue t =>
    simp only [QueueSystem.step] at hs
    split at hs
    · rename_i ht
      cases hs; exact h.enqueue ht
    · cases hs
  | putReturns t dropped f =>
    simp only [QueueSystem.step] at hs
    split at hs
    · rename_i ht
      cases hs; exact h.completion ht dropped f
    · cases hs
  | putRaises t =>
    simp only [QueueSystem.step] at hs
    split at hs
    · rename_i ht
      cases hs; exact h.leave (h.alone (.inr (h.holder ht))) h.ledger
    · cases hs

theorem QueueOk.start : QueueOk session initial where
  ledger := ⟨fun h => by simp [initial] at h, fun _ h => by simp [initial] at h,
    fun h => by simp [initial] at h, fun _ h => by simp [initial] at h⟩
  once := List.nodup_nil
  ordered := List.Pairwise.nil
  bound := fun _ h => by simp [initial] at h
  holder := fun h => by simp [initial] at h
  putting := fun h => by simp [initial] at h
  accepted := fun _ h => by simp [initial] at h
  equal := fun _ h => by simp [initial] at h

theorem QueueOk.reachable (h : (machine read session).Reachable s) : QueueOk session s := by
  refine h.invariant ?_ ?_
  · rintro s rfl; exact .start
  · intro s l s' hs hstep _; exact hs.step hstep

/-! ## What the producers and the consumer may count on -/

structure ExactlyOnce (s : QueueSystem) : Prop where
  once : (s.enqueued.map Enqueued.id).Nodup
  equal : ∀ e ∈ s.returned, ∀ e' ∈ s.returned, e.logicalSampleId = e'.logicalSampleId → e = e'
  /-- Whatever was enqueued is the payload the ledger records. -/
  payload : ∀ a ∈ s.enqueued, ∃ row, s.ledger.working.get? a.id = some row ∧ row.Says a
  accepted : ∀ e ∈ s.returned,
    (⟨e.logicalSampleId, e.payloadDigest, e.enqueueSeq⟩ : Enqueued) ∈ s.enqueued
  ordered : s.enqueued.Pairwise fun a c => a.seq < c.seq

/-- A call that finds another payload recorded ends without enqueuing or answering. -/
def RefusesConflicts (read : Sample → Except PyErr (Option String × Name)) (session : Name)
    (s : QueueSystem) : Prop :=
  ∀ t id digest row, s.pc t = .waiting id digest → s.ledger.working.get? id = some row →
    row.payloadDigest ≠ digest → ∀ f s', s.step read session (.enter t f) = some s' →
      s'.pc t = .idle ∧ s'.enqueued = s.enqueued ∧ s'.returned = s.returned

theorem refusesConflicts : RefusesConflicts read session s := by
  intro t id digest row ht hr hne f s' hs
  simp only [QueueSystem.step, ht] at hs
  split at hs
  swap
  · cases hs
  cases hs
  have hleave : ∀ l : Ledger, (QueueSystem.leave { s with ledger := l } t).pc t = .idle :=
    fun l => Function.update_self ..
  unfold admission
  cases s.ledger.execute (fun d => d) f.select with
  | mk ok l =>
    cases ok with
    | false => exact ⟨hleave l, rfl, rfl⟩
    | true =>
      cases hb : row.droppedOldest with
      | none =>
        have hlook : ∃ e, s.ledger.lookupCompletion session id = .error e := by
          simp only [Ledger.lookupCompletion, hr, hb]
          exact ⟨_, rfl⟩
        obtain ⟨e, he⟩ := hlook
        simp only [he]
        exact ⟨hleave s.ledger, rfl, rfl⟩
      | some b =>
        have hlook : s.ledger.lookupCompletion session id =
            .ok (some ⟨session, id, row.payloadDigest, row.enqueueSeq, b⟩) := by
          simp only [Ledger.lookupCompletion, hr, hb]
        simp only [hlook, ne_eq, hne, not_false_eq_true, if_true]
        exact ⟨hleave s.ledger, rfl, rfl⟩

/-- In every reachable state, whatever failed and whoever raced: each id went into the native queue at
most once, with the payload on record; all evidences of an id are equal; sequence numbers grow in the
order of the queue; and a conflicting call goes away empty-handed. -/
theorem put_sample_exactly_once (h : (machine read session).Reachable s) :
    ExactlyOnce s ∧ RefusesConflicts read session s := by
  have hok := QueueOk.reachable h
  refine ⟨⟨hok.once, hok.equal, fun a ha => hok.ledger.inTransaction ha, fun e he => ?_,
    hok.ordered⟩, refusesConflicts⟩
  obtain ⟨-, a, ha, rfl⟩ := hok.accepted e he
  exact ha

def sampleName : Name := ⟨"a", by decide⟩

def readSample (_ : Unit) : Except PyErr (Option String × Name) := .ok (some "a", sampleName)

/-- The first call enqueues and cannot write its evidence; the second is refused. -/
def retrying : List (QueueLabel Unit) :=
  [.call 0 (some ()), .call 1 (some ()), .enter 0 ⟨.none, .none, .none⟩, .enqueue 0,
    .putReturns 0 false ⟨.none, .before, .none⟩, .enter 1 ⟨.none, .none, .none⟩]

def retried : Option QueueSystem :=
  retrying.foldlM (fun s l => s.step readSample sampleName l) initial

theorem put_sample_exactly_once_retried : ∃ s, retried = some s ∧
    (ExactlyOnce s ∧ RefusesConflicts readSample sampleName s) ∧
    s.enqueued = [⟨sampleName, sampleName, 0⟩] ∧ s.returned = [] := by
  have hsome : retried.isSome := by decide +kernel
  have hstart : (machine readSample sampleName).Reachable initial := ⟨_, rfl, .refl _⟩
  obtain ⟨s, hs⟩ := Option.isSome_iff_exists.1 hsome
  have hreach := hstart.steps (fun h => ⟨h, trivial⟩) hs
  have hq : retried.map (fun s => (s.enqueued, s.returned)) =
      some ([⟨sampleName, sampleName, 0⟩], []) := by decide +kernel
  rw [hs, Option.map_some, Option.some.injEq, Prod.mk.injEq] at hq
  exact ⟨s, hs, put_sample_exactly_once hreach, hq⟩

end QueueSystem

end ReplicaLending
