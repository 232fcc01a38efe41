import ReplicaLending.Checkpoint.Manifests
import ReplicaLending.Library.Machine
/-!
# The audited weight streams

With validation on, a CE worker lists each parameter it receives and rank 0 of the trainer each one it
sends; `validate_parameter_sync` then compares the lists (`Checkpoint/Manifests.lean`). Both wrap the
stream in a generator that writes into a dict that is already published, and a second call may begin
before the first has ended. A published manifest is complete exactly when the latest call has returned
from a stream read to its end, and is then the list of that stream (`published_exact`).

| here | there |
| --- | --- |
| `AuditRole.receiver` | `update_weights` (checkpoint_engine_worker.py:87) |
| `AuditRole.source`   | `send_weights` (hccl_checkpoint_engine.py:40) |
| `AuditCall.item`     | one turn of `audited_weights` |
| `AuditCall.replies`  | what both do after the native call |
-/

namespace ReplicaLending

/-- A tensor, as far as the audit looks at it. -/
structure Tensor (β : Type) where
  shape : List Nat
  dtype : String
  dtype_ne : dtype ≠ ""
  raw : β

/-- `int(tensor.numel())`. -/
def Tensor.numel {β : Type} (t : Tensor β) : Nat := t.shape.prod

/-- `_tensor_sha256`: a hex digest, which is never empty. -/
structure TensorHash (β : Type) where
  digest : β → String
  digest_ne : ∀ raw, digest raw ≠ ""

variable {β σ : Type}

/-- The entry of one parameter. -/
def TensorHash.describe (sha : TensorHash β) (p : String × Tensor β) : ParamInfo :=
  ⟨p.1, p.2.shape, p.2.dtype, p.2.numel, sha.digest p.2.raw⟩

/-! ## The manifest -/

/-- The dict of `_last_parameter_manifest` and `_source_manifest`. -/
structure AuditManifest where
  complete : Bool
  globalSteps : Option Int
  wireFormat : Option String
  parameters : List ParamInfo
  parameterCount : Nat
  totalNumel : Nat

/-- An entry as the dict it is. -/
def ParamInfo.entry (p : ParamInfo) : ParamEntry :=
  ⟨[("name", .val (.str p.name)), ("shape", .list (p.shape.map fun n : Nat => PyVal.int n)),
    ("dtype", .val (.str p.dtype)), ("numel", .val (.int p.numel)), ("sha256", .val (.str p.sha256))],
    by simp⟩

namespace AuditManifest

def empty (globalSteps : Option Int) (wireFormat : Option String) : AuditManifest :=
  ⟨false, globalSteps, wireFormat, [], 0, 0⟩

/-- The manifest as `ray.get` hands it to the driver. -/
def toManifest (m : AuditManifest) : Manifest :=
  ⟨[("complete", .val (.bool m.complete)),
    ("global_steps", .val (m.globalSteps.elim PyVal.none PyVal.int)),
    ("wire_format", .val (m.wireFormat.elim PyVal.none PyVal.str)),
    ("parameters", .entries (m.parameters.map fun p => some p.entry)),
    ("parameter_count", .val (.int m.parameterCount)),
    ("total_numel", .val (.int m.totalNumel))], by simp⟩

end AuditManifest

/-! ## A call -/

/-- How far the generator of a call is. -/
inductive AuditStream | unaudited | running | consumed | broken
deriving DecidableEq, Repr

/-- What the two audits differ in; `σ` is what a call reads of its checkpoint engine. -/
structure AuditRole (σ : Type) where
  /-- The `wire_format` of the manifest of `__init__`. -/
  initialFormat : Option String
  wireFormat : σ → String
  /-- Whether the stream of a call is audited, or what the call raises before its first await. -/
  opens : σ → Except PyErr Bool
  unread : PyErr

/-- `MultiTaskCheckpointEngineWorker.update_weights`: it reads the engine's wire format. -/
def AuditRole.receiver : AuditRole String where
  initialFormat := none
  wireFormat format := format
  opens format :=
    if format = "named_tensors" then .ok true
    else .error ⟨.notImplementedError,
      "per-parameter validation currently requires wire_format='named_tensors'"⟩
  unread := .runtimeError "parameter manifest requires a fully consumed nonempty weight stream"

/-- `MultiTaskHCCLCheckpointEngine.send_weights`: it reads its rank, and rank 0 is the source. -/
def AuditRole.source : AuditRole (Option Int) where
  initialFormat := some "named_tensors"
  wireFormat _ := "named_tensors"
  opens rank := .ok (rank = some 0)
  unread := .runtimeError "source manifest requires a fully consumed nonempty weight stream"

/-- A call, its manifest, and what the native code was given through its generator. -/
structure AuditCall (σ β : Type) where
  engine : σ
  manifest : AuditManifest
  stream : AuditStream
  delivered : List (String × Tensor β)
  outcome : Option (Except PyErr Unit)

namespace AuditCall

/-- The call up to its first await. -/
def start (role : AuditRole σ) (engine : σ) (globalSteps : Option Int) : AuditCall σ β :=
  let manifest := .empty globalSteps (some (role.wireFormat engine))
  match role.opens engine with
  | .error e => ⟨engine, manifest, .unaudited, [], some (.error e)⟩
  | .ok false => ⟨engine, manifest, .unaudited, [], none⟩
  | .ok true => ⟨engine, manifest, .running, [], none⟩

/-- The generator takes a parameter from the stream, lists it and hands it on. -/
def item (sha : TensorHash β) (p : String × Tensor β) (c : AuditCall σ β) : AuditCall σ β :=
  { c with
    manifest := { c.manifest with
      parameters := c.manifest.parameters ++ [sha.describe p]
      parameterCount := c.manifest.parameterCount + 1
      totalNumel := c.manifest.totalNumel + p.2.numel }
    delivered := c.delivered ++ [p] }

/-- What follows the native call. -/
def replies (role : AuditRole σ) (c : AuditCall σ β) : AuditCall σ β :=
  if c.stream = .unaudited then { c with outcome := some (.ok ()) }
  else if c.stream ≠ .consumed ∨ c.manifest.parameters = [] then
    { c with outcome := some (.error role.unread) }
  else { c with manifest := { c.manifest with complete := true }, outcome := some (.ok ()) }

end AuditCall

/-! ## An actor -/

/-- The actor: its calls in the order they began, and whose dict is published. -/
structure Auditor (σ β : Type) where
  validationEnabled : Bool
  published : Option Nat
  calls : List (AuditCall σ β)

/-- What can happen to it. The native code takes from a generator when it likes, also after its own
call has ended. -/
inductive AuditLabel (σ β : Type)
  | begins (engine : σ) (globalSteps : Option Int)
  | item (i : Nat) (p : String × Tensor β)
  | ends (i : Nat)
  | breaks (i : Nat)
  | replies (i : Nat)
  | raises (i : Nat) (e : PyErr)

namespace Auditor

/-- `get_parameter_manifest` and `get_source_manifest`. -/
def lastManifest (role : AuditRole σ) (s : Auditor σ β) : AuditManifest :=
  ((s.published.bind fun i => s.calls[i]?).map AuditCall.manifest).getD
    (.empty none role.initialFormat)

/-- Call `i` goes on, if it can. -/
def onCall (i : Nat) (can : AuditCall σ β → Bool) (f : AuditCall σ β → AuditCall σ β)
    (s : Auditor σ β) : Option (Auditor σ β) :=
  (s.calls[i]?).bind fun c => if can c then some { s with calls := s.calls.set i (f c) } else none

def step (role : AuditRole σ) (sha : TensorHash β) (s : Auditor σ β) :
    AuditLabel σ β → Option (Auditor σ β)
  | .begins engine globalSteps =>
    -- with validation off the native method is called and nothing is published
    if s.validationEnabled then
      some { s with
        published := some s.calls.length
        calls := s.calls ++ [.start role engine globalSteps] }
    else some s
  | .item i p => s.onCall i (fun c => c.stream = .running) (.item sha p)
  | .ends i => s.onCall i (fun c => c.stream = .running) fun c => { c with stream := .consumed }
  | .breaks i => s.onCall i (fun c => c.stream = .running) fun c => { c with stream := .broken }
  | .replies i => s.onCall i (fun c => c.outcome.isNone) (.replies role)
  | .raises i e => s.onCall i (fun c => c.outcome.isNone) fun c => { c with outcome := some (.error e) }

def machine (role : AuditRole σ) (sha : TensorHash β) : Machine (Auditor σ β) (AuditLabel σ β) where
  init s := s.published = none ∧ s.calls = []
  step s l t := s.step role sha l = some t

end Auditor

/-! ## What a call writes -/

namespace AuditCall

/-- What holds of a call, however far it is. -/
structure Sound (role : AuditRole σ) (sha : TensorHash β) (c : AuditCall σ β) : Prop where
  format : c.manifest.wireFormat = some (role.wireFormat c.engine)
  listed : c.manifest.parameters = c.delivered.map sha.describe
  count : c.manifest.parameterCount = c.delivered.length
  total : c.manifest.totalNumel = (c.delivered.map fun p => p.2.numel).sum
  audited : c.stream ≠ .unaudited ↔ role.opens c.engine = .ok true
  complete : c.manifest.complete = true ↔
    role.opens c.engine = .ok true ∧ c.outcome = some (.ok ())
  read : c.manifest.complete = true → c.stream = .consumed ∧ c.delivered ≠ []

variable {role : AuditRole σ} {sha : TensorHash β} {c : AuditCall σ β}

theorem sound_start (engine : σ) (globalSteps : Option Int) :
    Sound role sha (start role engine globalSteps) := by
  unfold start
  split <;> rename_i h
  · exact ⟨rfl, rfl, rfl, rfl, by simp [h], by simp [AuditManifest.empty, h], fun hc => by cases hc⟩
  · exact ⟨rfl, rfl, rfl, rfl, by simp [h], by simp [AuditManifest.empty], fun hc => by cases hc⟩
  · exact ⟨rfl, rfl, rfl, rfl, by simp [h], by simp [AuditManifest.empty], fun hc => by cases hc⟩

namespace Sound

/-- While the generator runs, or the call has not come back, the manifest is incomplete. -/
theorem incomplete (h : Sound role sha c) (hc : c.stream = .running ∨ c.outcome = none) :
    c.manifest.complete = false := by
  rw [← Bool.not_eq_true]
  intro hcomplete
  rcases hc with hc | hc
  · have hread := (h.read hcomplete).1
    rw [hc] at hread
    cases hread
  · have hout := (h.complete.1 hcomplete).2
    rw [hc] at hout
    cases hout

theorem item (h : Sound role sha c) (hc : c.stream = .running) (p : String × Tensor β) :
    Sound role sha (c.item sha p) := by
  have hincomplete := h.incomplete (.inl hc)
  refine ⟨h.format, ?_, ?_, ?_, h.audited, h.complete, fun hcomplete => ?_⟩
  · show c.manifest.parameters ++ [sha.describe p] = (c.delivered ++ [p]).map sha.describe
    rw [h.listed, List.map_append]
    rfl
  · show c.manifest.parameterCount + 1 = (c.delivered ++ [p]).length
    rw [h.count, List.length_append]
    rfl
  · show c.manifest.totalNumel + p.2.numel = ((c.delivered ++ [p]).map fun p => p.2.numel).sum
    rw [h.total, List.map_append, List.sum_append]
    rfl
  · cases hincomplete.symm.trans hcomplete

/-- The generator stops, for whatever reason. -/
theorem stops (h : Sound role sha c) (hc : c.stream = .running) {stream : AuditStream}
    (hs : stream ≠ .unaudited) : Sound role sha { c with stream := stream } := by
  have haudited : role.opens c.engine = .ok true := h.audited.1 (by rw [hc]; exact fun h => by cases h)
  refine ⟨h.format, h.listed, h.count, h.total, iff_of_true hs haudited, h.complete, fun hcomplete => ?_⟩
  cases (h.incomplete (.inl hc)).symm.trans hcomplete

theorem raises (h : Sound role sha c) (hc : c.outcome = none) (e : PyErr) :
    Sound role sha { c with outcome := some (.error e) } := by
  have hincomplete := h.incomplete (.inr hc)
  refine ⟨h.format, h.listed, h.count, h.total, h.audited, ?_, h.read⟩
  refine iff_of_false (fun hcomplete => ?_) fun ho => by cases ho.2
  cases hincomplete.symm.trans hcomplete

theorem replies (h : Sound role sha c) (hc : c.outcome = none) : Sound role sha (c.replies role) := by
  have hincomplete := h.incomplete (.inr hc)
  unfold AuditCall.replies
  split
  · rename_i hs
    refine ⟨h.format, h.listed, h.count, h.total, h.audited, ?_, h.read⟩
    refine iff_of_false (fun hcomplete => ?_) fun ho => h.audited.2 ho.1 hs
    cases hincomplete.symm.trans hcomplete
  · rename_i hs
    split
    · exact h.raises hc role.unread
    · rename_i hread
      obtain ⟨hconsumed, hne⟩ := not_or.1 hread
      refine ⟨h.format, h.listed, h.count, h.total, h.audited,
        iff_of_true rfl ⟨h.audited.1 hs, rfl⟩, fun _ => ⟨not_not.1 hconsumed, fun hnil => hne ?_⟩⟩
      rw [h.listed, hnil]
      rfl

end Sound

end AuditCall

/-! ## Every order of calls -/

namespace Auditor

variable {role : AuditRole σ} {sha : TensorHash β} {s t : Auditor σ β}

structure Sound (role : AuditRole σ) (sha : TensorHash β) (s : Auditor σ β) : Prop where
  calls : ∀ c ∈ s.calls, c.Sound role sha
  /-- The dict of the latest call is published. -/
  published : s.published = if s.calls = [] then none else some (s.calls.length - 1)

theorem onCall_eq_some {i : Nat} {can : AuditCall σ β → Bool} {f : AuditCall σ β → AuditCall σ β}
    (h : s.onCall i can f = some t) :
    ∃ c, s.calls[i]? = some c ∧ can c = true ∧ t = { s with calls := s.calls.set i (f c) } := by
  obtain ⟨c, hc, h⟩ := Option.bind_eq_some_iff.1 h
  split at h
  · cases h
    exact ⟨c, hc, ‹_›, rfl⟩
  · cases h

theorem Sound.onCall {i : Nat} {can : AuditCall σ β → Bool} {f : AuditCall σ β → AuditCall σ β}
    (h : Sound role sha s) (hs : s.onCall i can f = some t)
    (hf : ∀ c : AuditCall σ β, c.Sound role sha → can c = true → (f c).Sound role sha) :
    Sound role sha t := by
  obtain ⟨c, hc, hcan, rfl⟩ := onCall_eq_some hs
  refine ⟨fun c' hm => ?_, ?_⟩
  · rcases List.mem_or_eq_of_mem_set hm with hm | rfl
    · exact h.calls c' hm
    · exact hf c (h.calls c (List.mem_of_getElem? hc)) hcan
  · simpa using h.published

theorem Sound.step (h : Sound role sha s) {l : AuditLabel σ β} (hs : s.step role sha l = some t) :
    Sound role sha t := by
  cases l with
  | begins engine globalSteps =>
    simp only [Auditor.step] at hs
    split at hs
    · cases hs
      refine ⟨fun c hm => ?_, ?_⟩
      · rcases List.mem_append.1 hm with hm | hm
        · exact h.calls c hm
        · cases List.mem_singleton.1 hm
          exact AuditCall.sound_start engine globalSteps
      · simp
    · cases hs
      exact h
  | item i p => exact h.onCall hs fun c hc hcan => hc.item (of_decide_eq_true hcan) p
  | ends i => exact h.onCall hs fun c hc hcan => hc.stops (of_decide_eq_true hcan) (by decide)
  | breaks i => exact h.onCall hs fun c hc hcan => hc.stops (of_decide_eq_true hcan) (by decide)
  | replies i => exact h.onCall hs fun c hc hcan => hc.replies (Option.isNone_iff_eq_none.1 hcan)
  | raises i e => exact h.onCall hs fun c hc hcan => hc.raises (Option.isNone_iff_eq_none.1 hcan) e

theorem sound_reachable (h : (machine role sha).Reachable s) : Sound role sha s := by
  refine h.invariant (fun s hs => ⟨fun c hc => ?_, ?_⟩) fun _ _ _ hs hstep _ => hs.step hstep
  · rw [hs.2] at hc
    cases hc
  · rw [hs.1, hs.2]
    rfl

theorem Sound.lastManifest (h : Sound role sha s) : s.lastManifest role =
    (s.calls.getLast?.map AuditCall.manifest).getD (.empty none role.initialFormat) := by
  unfold Auditor.lastManifest
  rw [h.published, List.getLast?_eq_getElem?]
  split
  · rename_i hnil
    rw [hnil]
    rfl
  · rfl

/-- The latest call was given `stream`, all of it, and has returned. -/
def Transferred (role : AuditRole σ) (s : Auditor σ β) (globalSteps : Option Int)
    (stream : List (String × Tensor β)) : Prop :=
  ∃ c, s.calls.getLast? = some c ∧ role.opens c.engine = .ok true ∧ c.outcome = some (.ok ()) ∧
    c.stream = .consumed ∧ c.manifest.globalSteps = globalSteps ∧ c.delivered = stream

/-- The published manifest is complete exactly when the latest call has returned from a stream that it
audited and read to its end; and then it is the list of that stream. -/
theorem published_exact (h : (machine role sha).Reachable s) :
    ((s.lastManifest role).complete = true ↔ ∃ g stream, s.Transferred role g stream) ∧
      ∀ g stream, s.Transferred role g stream → stream ≠ [] ∧
        ∃ format, s.lastManifest role = ⟨true, g, some format, stream.map sha.describe, stream.length,
          (stream.map fun p => p.2.numel).sum⟩ := by
  have hs := sound_reachable h
  rw [hs.lastManifest]
  refine ⟨⟨fun hc => ?_, ?_⟩, ?_⟩
  · cases hlast : s.calls.getLast? with
    | none => rw [hlast] at hc; cases hc
    | some c =>
      rw [hlast] at hc
      have hsound := hs.calls c (List.mem_of_getLast? hlast)
      obtain ⟨hopens, hout⟩ := hsound.complete.1 hc
      exact ⟨_, _, c, hlast, hopens, hout, (hsound.read hc).1, rfl, rfl⟩
  · rintro ⟨g, stream, c, hlast, hopens, hout, -⟩
    rw [hlast]
    exact (hs.calls c (List.mem_of_getLast? hlast)).complete.2 ⟨hopens, hout⟩
  · rintro g stream ⟨c, hlast, hopens, hout, -, rfl, rfl⟩
    have hsound := hs.calls c (List.mem_of_getLast? hlast)
    have hcomplete := hsound.complete.2 ⟨hopens, hout⟩
    refine ⟨(hsound.read hcomplete).2, role.wireFormat c.engine, ?_⟩
    rw [hlast, Option.map_some, Option.getD_some, ← hsound.format, ← hsound.listed, ← hsound.count,
      ← hsound.total, ← hcomplete]

end Auditor

end ReplicaLending
