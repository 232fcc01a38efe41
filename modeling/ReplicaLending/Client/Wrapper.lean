import ReplicaLending.Client.ReleaseFence
import ReplicaLending.Library.Encoding
import ReplicaLending.Router.Continuation
/-!
# The wrapper around a server (`integration/verl/experimental_fully_async/rollouter.py`)

A server that is removed by FORCE aborts its generations. With `partial_rollout`, what the native
client calls as `generate` is a wrapper: of an aborted output it takes the tokens off the minimum
still to be generated, and it confirms to the load balancer which prefix the next attempt continues.
The requests are those of `ReleaseFence`, with what each of them generates.

| here | there |
| --- | --- |
| `prefixDigest`         | `_continuation_prefix_digest` (rollouter.py:32) |
| `GenerateArgs.charge`  | `_generate`, the minimum (:68-79) |
| `output`, `fail`       | `_generate` up to the output of the server (:60-62) |
| `confirm`              | `_generate` from the confirmation on (:81-101) |
| `call`, `abandon`      | a `generate` of the native client begins, and ends between two attempts |
| `finish`               | `_release_server`, and what the native client does with the output |
| `resume`               | nothing under `src/`: how the native client calls `generate` again |
| `original`, `emitted`, `attempts` | nothing: the first call, what aborted attempts emitted, their number |
-/

namespace ReplicaLending

/-- What the wrapper reads of the keyword arguments. -/
structure GenerateArgs where
  promptIds : List Nat
  /-- `sampling_params`, if it is a dict. -/
  samplingParams : Option (Dict String PyVal)

structure TokenOutput where
  tokenIds : List Nat
  stopReason : Option String
deriving DecidableEq

/-- `stop_reason in {"abort", "aborted"}`. -/
def TokenOutput.Aborted (o : TokenOutput) : Prop :=
  o.stopReason = some "abort" ∨ o.stopReason = some "aborted"

instance (o : TokenOutput) : Decidable o.Aborted := inferInstanceAs (Decidable (_ ∨ _))

/-- `max(0, min_tokens - emitted)`, for an integer and if anything was emitted. -/
def remaining (minTokens : Option PyVal) (emitted : Nat) : Option PyVal :=
  match minTokens with
  | some (.int n) => if 0 < emitted then some (.int (max 0 (n - emitted))) else some (.int n)
  | v => v

namespace GenerateArgs

/-- `sampling_params.get("min_tokens")`. -/
def minTokens (a : GenerateArgs) : Option PyVal := a.samplingParams.bind fun p => p.get? "min_tokens"

/-- The write to `sampling_params` (:68-79). -/
def charge (a : GenerateArgs) (emitted : Nat) : GenerateArgs :=
  match a.samplingParams, a.minTokens with
  | some params, some (.int n) =>
    if 0 < emitted then
      { a with samplingParams := some (params.insert "min_tokens" (.int (max 0 (n - emitted)))) }
    else a
  | _, _ => a

@[simp] theorem charge_promptIds (a : GenerateArgs) (k : Nat) : (a.charge k).promptIds = a.promptIds := by
  unfold charge
  split
  · split <;> rfl
  · rfl

theorem charge_minTokens (a : GenerateArgs) (k : Nat) :
    (a.charge k).minTokens = remaining a.minTokens k := by
  unfold charge remaining
  split
  · rename_i params n hp hm
    rw [hm]
    by_cases hk : 0 < k
    · simp [hk, minTokens]
    · simp [hk, hm]
  · rename_i hn
    split
    · rename_i n hm
      cases hp : a.samplingParams with
      | none => simp [minTokens, hp] at hm
      | some params => exact absurd hm (hn params n hp)
    · rfl

end GenerateArgs

theorem remaining_zero (v : Option PyVal) : remaining v 0 = v := by
  unfold remaining
  split <;> simp

/-- Two aborted attempts are charged as one that emitted as much as both. -/
theorem remaining_add (v : Option PyVal) (a b : Nat) :
    remaining (remaining v a) b = remaining v (a + b) := by
  rcases v with _ | ⟨_ | _ | n | _ | _ | _⟩ <;> try rfl
  by_cases ha : 0 < a <;> by_cases hb : 0 < b <;> simp only [remaining, ha, hb, if_true, if_false]
  · rw [if_pos (by omega)]
    congr 2
    omega
  · rw [if_pos (by omega)]
    congr 2
    omega
  · rw [if_pos (by omega)]
    congr 2
    omega
  · rw [if_neg (by omega)]

/-- A client and the parts it is built on: its id, which the constructor checks (:108), the hash, and
how the native client retries an attempt that was aborted. -/
structure ContinuationClient where
  clientId : String
  clientId_ne : clientId ≠ ""
  sha256 : List Char → String
  resume : GenerateArgs → TokenOutput → GenerateArgs

namespace ContinuationClient

variable (c : ContinuationClient)

/-- `_continuation_prefix_digest` (:32). -/
def prefixDigest (promptIds tokenIds : List Nat) : String :=
  c.sha256 (Encoding.terminated Encoding.nat (promptIds ++ tokenIds))

/-- What the wrapper relies on (:64-67, :81): a retry is sent exactly `prompt_ids + token_ids` and the
minimum as the wrapper has left it. A digest is never empty. -/
structure Native : Prop where
  hexdigest : ∀ text, c.sha256 text ≠ ""
  promptIds : ∀ a o, (c.resume a o).promptIds = a.promptIds ++ o.tokenIds
  minTokens : ∀ a o, (c.resume a o).minTokens = a.minTokens

variable {c}

/-- Unless the hash collides, a digest tells the prefix. -/
theorem prefixDigest_eq_iff (hc : Function.Injective c.sha256) {p t p' t' : List Nat} :
    c.prefixDigest p t = c.prefixDigest p' t' ↔ p ++ t = p' ++ t' :=
  ⟨fun h => Encoding.unambiguous_nat.terminated (hc h), fun h => by rw [prefixDigest, h, prefixDigest]⟩

end ContinuationClient

/-- Where a `generate` of the native client stands. -/
inductive GenerationStage
  | idle
  /-- Before an attempt, or in one whose output has not come. -/
  | ready
  | aborted (o : TokenOutput)
  /-- The wrapper has returned the output. -/
  | returned (o : TokenOutput)
  | raised
deriving DecidableEq

structure Generation where
  stage : GenerationStage
  args : GenerateArgs
  original : GenerateArgs
  emitted : List Nat
  attempts : Nat

/-- The output of an attempt reaches the wrapper. -/
def Generation.answer (g : Generation) (o : TokenOutput) : Generation :=
  if o.Aborted then { g with
    stage := .aborted o
    args := g.args.charge o.tokenIds.length
    emitted := g.emitted ++ o.tokenIds }
  else { g with stage := .returned o }

/-- The native client goes on with an output: it retries what was aborted. -/
def ContinuationClient.next (c : ContinuationClient) (g : Generation) (o : TokenOutput) : Generation :=
  if o.Aborted then
    { g with stage := .ready, args := c.resume g.args o, attempts := g.attempts + 1 }
  else { g with stage := .idle }

/-- What becomes of the call of `confirm_continuation`. The calls of a client are executed in the
order it sends them, so this one is never executed after the release of its attempt. -/
inductive Confirmation
  | answered
  | lost
  | unanswered
deriving DecidableEq

structure ContinuationSystem where
  client : ClientSystem
  generation : String → Generation

inductive ContinuationLabel
  | call (requestId : String) (a : GenerateArgs)
  | client (l : ClientLabel)
  | output (requestId : String) (o : TokenOutput)
  | fail (requestId : String)
  | confirm (requestId : String) (now : Nat) (reply : Confirmation)
  | finish (requestId : String) (loop : Bool)
  | abandon (requestId : String)

namespace ContinuationSystem

variable (c : ContinuationClient) (s : ContinuationSystem)

def set (r : String) (g : Generation) : ContinuationSystem :=
  { s with generation := Function.update s.generation r g }

/-- What the client does without the wrapper; only wrappers confirm. -/
def Between (s : ContinuationSystem) : ClientLabel → Prop
  | .begin r => (s.generation r).stage = .ready
  | .finish _ _ | .other (.confirmContinuation _ _ _ _) => False
  | _ => True

instance : DecidablePred s.Between := fun l => by
  unfold Between
  split <;> infer_instance

/-- The confirmation of an aborted output (:87); any error but a KeyError is raised again (:92-100). -/
def confirmed (g : Generation) (o : TokenOutput) (result : Except PyErr OperationEvidence) :
    Generation :=
  { g with stage := match result with
    | .ok _ => .returned o
    | .error e => if e.kind = .keyError then .returned o else .raised }

/-- The call of `confirm_continuation` for an aborted output. -/
def confirmation (r : String) (o : TokenOutput) (now : Nat) :
    Except PyErr OperationEvidence × GlobalRequestLoadBalancer :=
  s.client.lb.confirmContinuation now r c.clientId
    (c.prefixDigest (s.generation r).args.promptIds o.tokenIds)

/-- A call of the wrapper is executed: it changes the load balancer, and the request goes on. -/
def execute (r : String) (g : Generation) (lb : GlobalRequestLoadBalancer) : ContinuationSystem :=
  { s.set r g with client := { s.client with lb } }

def confirm (r : String) (o : TokenOutput) (now : Nat) (reply : Confirmation) : ContinuationSystem :=
  let g := s.generation r
  match reply with
  | .answered =>
    s.execute r (confirmed g o (s.confirmation c r o now).1) (s.confirmation c r o now).2
  | .lost => s.set r { g with stage := .raised }
  | .unanswered => s.execute r { g with stage := .raised } (s.confirmation c r o now).2

def step : ContinuationLabel → Option ContinuationSystem
  | .call r a => match (s.generation r).stage with
    | .idle => some (s.set r ⟨.ready, a, a, [], 0⟩)
    | _ => none
  | .client l => if s.Between l then (s.client.step l).map fun client => { s with client } else none
  | .output r o => match s.client.phase r, (s.generation r).stage with
    | .running _, .ready => some (s.set r ((s.generation r).answer o))
    | _, _ => none
  | .fail r => match s.client.phase r, (s.generation r).stage with
    | .running _, .ready => some (s.set r { s.generation r with stage := .raised })
    | _, _ => none
  | .confirm r now reply => match (s.generation r).stage with
    | .aborted o => some (s.confirm c r o now reply)
    | _ => none
  | .finish r loop => match (s.generation r).stage with
    | .returned o => (s.client.step (.finish r loop)).map fun client =>
        { s.set r (c.next (s.generation r) o) with client }
    | .raised => (s.client.step (.finish r loop)).map fun client =>
        { s.set r { s.generation r with stage := .idle } with client }
    | _ => none
  | .abandon r =>
    if (s.generation r).stage = .ready ∧ s.client.phase r = .ended then
      some (s.set r { s.generation r with stage := .idle })
    else none

/-- A client that has sent nothing, of a load balancer as it is constructed. -/
def machine : Machine ContinuationSystem ContinuationLabel where
  init s := s.client.Fresh ∧ GlobalRequestLoadBalancer.calls.init s.client.lb ∧
    ∀ r, (s.generation r).stage = .idle
  step s l s' := s.step c l = some s'

end ContinuationSystem

end ReplicaLending
