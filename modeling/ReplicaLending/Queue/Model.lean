import Mathlib.Logic.Function.Basic
import ReplicaLending.Library.Machine
import ReplicaLending.Contracts
/-!
# `MultiTaskMessageQueue` (`integration/verl/experimental_fully_async/message_queue.py`)

`put_sample_once` under any number of producers. A producer suspends in two places, in
`async with self._completion_lock` and in the native `put_sample`; a step is the code between two
suspensions. The ledger is one SQLite connection, so what a statement reads is the open transaction,
and a failing statement or commit may leave the transaction open or roll it back.

| here | there |
| --- | --- |
| `Ledger.working`, `.committed` | the table inside the open transaction, and on disk |
| `QueuePc.putting _ _ _ b`      | inside `super().put_sample` (:178), which has enqueued or not |
| `QueueSystem.enqueued`         | what went into the native queue, in order |
| `QueueSystem.returned`         | every evidence a call has returned |
-/

namespace ReplicaLending

/-- A nonempty string: a sample id, a task session, a hex digest. -/
abbrev Name := { s : String // s ≠ "" }

/-- `CompletionEvidence` (:17). -/
structure CompletionEvidence where
  taskSession : Name
  logicalSampleId : Name
  payloadDigest : Name
  enqueueSeq : Nat
  droppedOldest : Bool
deriving DecidableEq

/-- A row of `completion_evidence` (:63), without its key. -/
structure CompletionRow where
  payloadDigest : Name
  enqueueSeq : Nat
  /-- NULL until the enqueue is known to have happened. -/
  droppedOldest : Option Bool
deriving DecidableEq

/-! ## The ledger -/

/-- What happens to one call of the connection: it raises before or after its effect, or raises and
rolls the transaction back. -/
inductive DbFault | none | before | after | rollsBack
deriving DecidableEq, Repr

structure Ledger where
  working : Dict Name CompletionRow
  committed : Dict Name CompletionRow

namespace Ledger

/-- `self._completion_db.execute(...)` of a statement that writes: whether it returns. -/
def execute (l : Ledger) (change : Dict Name CompletionRow → Dict Name CompletionRow) :
    DbFault → Bool × Ledger
  | .none => (true, { l with working := change l.working })
  | .before => (false, l)
  | .after => (false, { l with working := change l.working })
  | .rollsBack => (false, { l with working := l.committed })

/-- `self._completion_db.commit()`. -/
def commit (l : Ledger) : DbFault → Bool × Ledger
  | .none => (true, { l with committed := l.working })
  | .before => (false, l)
  | .after => (false, { l with committed := l.working })
  | .rollsBack => (false, { l with working := l.committed })

/-- A statement and its commit. -/
def write (l : Ledger) (change : Dict Name CompletionRow → Dict Name CompletionRow)
    (f g : DbFault) : Bool × Ledger :=
  match l.execute change f with
  | (false, l) => (false, l)
  | (true, l) => l.commit g

/-- `SET dropped_oldest = ?` on the row of an id. -/
def resolve (id : Name) (dropped : Bool) (d : Dict Name CompletionRow) : Dict Name CompletionRow :=
  match d.get? id with
  | some row => d.insert id { row with droppedOldest := some dropped }
  | none => d

end Ledger

/-! ## The queue -/

/-- Where a producer is suspended. -/
inductive QueuePc
  | idle
  | waiting (id digest : Name)
  | putting (id digest : Name) (seq : Nat) (enqueued : Bool)
deriving DecidableEq

/-- One sample in the native queue. -/
structure Enqueued where
  id : Name
  digest : Name
  seq : Nat
deriving DecidableEq

structure QueueSystem where
  ledger : Ledger
  nextCompletionSeq : Nat
  /-- Who holds `_completion_lock`. -/
  holder : Option Nat
  pc : Nat → QueuePc
  enqueued : List Enqueued
  returned : List CompletionEvidence

/-- `_decode_identity` (:85); `read` is what unpickling finds: `sample_id` if it is a string, and the
digest of the payload. -/
def decodeIdentity {Sample : Type} (read : Sample → Except PyErr (Option String × Name))
    (sample : Sample) : Except PyErr (Name × Name) :=
  match read sample with
  | .error e => .error e
  | .ok (id, digest) =>
    if h : id.getD "" = "" then
      .error (.valueError "completed rollout sample requires nonempty sample_id")
    else .ok (⟨id.getD "", h⟩, digest)

/-- `_lookup_completion` (:98). -/
def Ledger.lookupCompletion (l : Ledger) (session id : Name) :
    Except PyErr (Option CompletionEvidence) :=
  match l.working.get? id with
  | none => .ok none
  | some row => match row.droppedOldest with
    | none => .error (.runtimeError
        "completion ledger contains an unresolved enqueue; refusing duplicate admission")
    | some dropped => .ok (some ⟨session, id, row.payloadDigest, row.enqueueSeq, dropped⟩)

/-- What a step cannot determine: how the statements and commits of a producer's stretch of code end. -/
structure DbFaults where
  select : DbFault
  write : DbFault
  commit : DbFault

inductive QueueLabel (Sample : Type)
  /-- `put_sample_once` is called; `None` is refused before anything happens. -/
  | call (t : Nat) (sample : Option Sample)
  /-- The wait for the lock is cancelled. -/
  | cancel (t : Nat)
  /-- The lock is taken: up to the native put, or to the end of the call. -/
  | enter (t : Nat) (f : DbFaults)
  /-- The native put appends the sample. -/
  | enqueue (t : Nat)
  /-- It returns, whether it has made room or not, or it raises or is cancelled. -/
  | putReturns (t : Nat) (dropped : Bool) (f : DbFaults)
  | putRaises (t : Nat)

namespace QueueSystem

variable {Sample : Type}

def setPc (s : QueueSystem) (t : Nat) (pc : QueuePc) : QueueSystem :=
  { s with pc := Function.update s.pc t pc }

/-- The call of a producer is over; the lock is free. -/
def leave (s : QueueSystem) (t : Nat) : QueueSystem :=
  { s with holder := none, pc := Function.update s.pc t .idle }

def answer (s : QueueSystem) (e : CompletionEvidence) : QueueSystem :=
  { s with returned := e :: s.returned }

/-- `put_sample_once` up to the lock (:131-134). -/
def begin (read : Sample → Except PyErr (Option String × Name)) (s : QueueSystem) (t : Nat) :
    Option Sample → QueueSystem
  | none => s
  | some sample => match decodeIdentity read sample with
    | .error _ => s
    | .ok (id, digest) => s.setPc t (.waiting id digest)

/-- From the lock to the native put (:136-173). -/
def admission (session : Name) (s : QueueSystem) (t : Nat) (id digest : Name) (f : DbFaults) :
    QueueSystem :=
  match s.ledger.execute (fun d => d) f.select with
  | (false, l) => { s with ledger := l }.leave t
  | (true, _) => match s.ledger.lookupCompletion session id with
    | .error _ => s.leave t
    | .ok (some existing) =>
      if existing.payloadDigest ≠ digest then s.leave t else (s.answer existing).leave t
    | .ok none =>
      match s.ledger.write (fun d => d.insert id ⟨digest, s.nextCompletionSeq, none⟩)
          f.write f.commit with
      | (false, l) => { s with ledger := l }.leave t
      | (true, l) => { s with
          ledger := l
          nextCompletionSeq := s.nextCompletionSeq + 1
          holder := some t
          pc := Function.update s.pc t (.putting id digest s.nextCompletionSeq false) }

/-- From the native put to the end (:180-205). -/
def completion (session : Name) (s : QueueSystem) (t : Nat) (id digest : Name) (seq : Nat)
    (dropped : Bool) (f : DbFaults) : QueueSystem :=
  match s.ledger.write (Ledger.resolve id dropped) f.write f.commit with
  | (false, l) => { s with ledger := l }.leave t
  | (true, l) => ({ s with ledger := l }.answer ⟨session, id, digest, seq, dropped⟩).leave t

/-- One step; `none` when it is not possible. -/
def step (read : Sample → Except PyErr (Option String × Name)) (session : Name)
    (s : QueueSystem) : QueueLabel Sample → Option QueueSystem
  | .call t sample => if s.pc t = .idle then some (s.begin read t sample) else none
  | .cancel t => match s.pc t with
    | .waiting _ _ => some (s.setPc t .idle)
    | _ => none
  | .enter t f => match s.pc t with
    | .waiting id digest =>
      if s.holder = none then some (s.admission session t id digest f) else none
    | _ => none
  | .enqueue t => match s.pc t with
    | .putting id digest seq false => some { s with
        pc := Function.update s.pc t (.putting id digest seq true)
        enqueued := s.enqueued ++ [⟨id, digest, seq⟩] }
    | _ => none
  | .putReturns t dropped f => match s.pc t with
    | .putting id digest seq true => some (s.completion session t id digest seq dropped f)
    | _ => none
  | .putRaises t => match s.pc t with
    | .putting _ _ _ _ => some (s.leave t)
    | _ => none

/-- `__init__` (:46). -/
def initial : QueueSystem := ⟨⟨∅, ∅⟩, 0, none, fun _ => .idle, [], []⟩

/-- The queue of a task session, for samples that unpickle as `read` says. -/
def machine (read : Sample → Except PyErr (Option String × Name)) (session : Name) :
    Machine QueueSystem (QueueLabel Sample) where
  init s := s = initial
  step s l s' := s.step read session l = some s'

end QueueSystem

end ReplicaLending
