import Mathlib.Algebra.Order.Ring.Rat
import Mathlib.Tactic.NormNum
import NinjaOne.Flight

/-!
How long a call waits between its attempts.

The loop of `_request` sleeps after every attempt but the last, for as long as the
response asked it to, or else for twice as long each time. `run_paced` says what
that comes to over a whole call, and that no pause is longer than
`_MAX_BACKOFF_SECONDS`; a `Retry-After` that is not a number is not capped.
-/

namespace NinjaOne

/-! ### One pause -/

/-- The time a response asks for: a `Retry-After` that `float` reads. -/
def Outcome.asked (py : PyText) : Outcome → Option FloatValue
  | .requestError _ => none
  | .response resp =>
      match resp.header "Retry-After" with
      | none => none
      | some retry_after => if retry_after = "" then none else py.float retry_after

/-- At most `_MAX_BACKOFF_SECONDS`, as far as that can be said of it. -/
def FloatValue.capped : FloatValue → FloatValue
  | .finite q => .finite (if 20 < q then 20 else q)
  | .posInf => .finite 20
  | x => x

/-- The pause an attempt calls for: what its response asks for, capped, or else one
second, two, four. -/
def Outcome.owed (py : PyText) (attempt : Nat) (out : Outcome) : FloatValue :=
  ((out.asked py).map FloatValue.capped).getD (.finite (2 ^ attempt))

theorem min_maxBackoff (x : FloatValue) : x.min MAX_BACKOFF_SECONDS = x.capped := by
  cases x with
  | finite q =>
      simp only [FloatValue.min, MAX_BACKOFF_SECONDS, FloatValue.lt, FloatValue.capped,
        decide_eq_true_eq]
      split <;> rfl
  | _ => rfl

theorem capped_backoff {attempt : Nat} (early : attempt < MAX_RETRIES) :
    (FloatValue.finite (2 ^ attempt)).capped = .finite (2 ^ attempt) := by
  have small : (2 : ℚ) ^ attempt ≤ 2 ^ 3 := pow_le_pow_right₀ (by norm_num) early.le
  have within : ¬ (20 : ℚ) < 2 ^ attempt := not_lt.mpr (small.trans (by norm_num))
  rw [FloatValue.capped, if_neg within]

theorem pause_eq (py : PyText) (out : Outcome) {attempt : Nat} (early : attempt < MAX_RETRIES) :
    out.pause py attempt = out.owed py attempt := by
  have backoff := capped_backoff early
  cases out with
  | requestError e =>
      rw [Outcome.pause, min_maxBackoff, backoff]
      rfl
  | response resp =>
      simp only [Outcome.pause, retryDelay, Outcome.owed, Outcome.asked, min_maxBackoff, backoff]
      cases resp.header "Retry-After" with
      | none => rfl
      | some retry_after =>
          dsimp only
          by_cases empty : retry_after = ""
          · rw [if_pos empty, if_pos empty]
            rfl
          · rw [if_neg empty, if_neg empty]
            cases py.float retry_after <;> rfl

/-! ### All of them -/

/-- The attempts from `attempt` on, and the pause after each but the last. -/
def paced (req : ClientRequest) (pause : Nat → FloatValue) (attempt count : Nat) : List Event :=
  ((List.range' attempt count).flatMap fun i => [.send req, .sleep (pause i)]) ++ [.send req]

theorem paced_succ (req : ClientRequest) (pause : Nat → FloatValue) (attempt count : Nat) :
    paced req pause attempt (count + 1) =
      [.send req, .sleep (pause attempt)] ++ paced req pause (attempt + 1) count := by
  rw [paced, paced, List.range'_succ, List.flatMap_cons, List.append_assoc]

theorem paced_congr {req : ClientRequest} {pause pause' : Nat → FloatValue} {attempt count : Nat}
    (same : ∀ i, attempt ≤ i → i < attempt + count → pause i = pause' i) :
    paced req pause attempt count = paced req pause' attempt count := by
  rw [paced, paced]
  refine congrArg (· ++ [Event.send req]) (List.flatMap_congr fun i listed => ?_)
  rw [List.mem_range'_1] at listed
  rw [same i listed.1 listed.2]

theorem mem_paced {req : ClientRequest} {pause : Nat → FloatValue} {attempt count : Nat}
    {seconds : FloatValue} (mem : .sleep seconds ∈ paced req pause attempt count) :
    ∃ i, attempt ≤ i ∧ i < attempt + count ∧ seconds = pause i := by
  rw [paced, List.mem_append, List.mem_flatMap] at mem
  rcases mem with ⟨i, listed, mem⟩ | last
  · rw [List.mem_range'_1] at listed
    simp only [List.mem_cons, reduceCtorEq, List.not_mem_nil, or_false, false_or,
      Event.sleep.injEq] at mem
    exact ⟨i, listed.1, listed.2, mem⟩
  · rw [List.mem_singleton] at last
    cases last

/-- The loop over the attempts `attempt, …, MAX_RETRIES`. -/
theorem requestLoop_events (py : PyText) (url : String) (req : ClientRequest)
    (upstream : Upstream) (retries attempt : Nat) (last_exc : Option RequestError)
    (budget : attempt + retries = MAX_RETRIES) :
    (requestLoop py url req upstream (List.range' attempt (retries + 1)) last_exc).events =
      paced req (fun i => (upstream i req).pause py i) attempt
        (Retry.lastFrom (fun i => (upstream i req).transient) retries attempt - attempt) := by
  induction retries generalizing attempt last_exc with
  | zero =>
      have spent : ¬ attempt < MAX_RETRIES := by omega
      have none_left : attempt - attempt = 0 := Nat.sub_self attempt
      simp only [List.range'_succ, requestLoop, Retry.lastFrom, none_left]
      cases upstream attempt req with
      | requestError e => simp only [if_neg spent]; rfl
      | response resp => simp only [spent, and_false, if_false]; rfl
  | succ retries ih =>
      have more : attempt < MAX_RETRIES := by omega
      have bounds := Retry.lastFrom_bounds (fun i => (upstream i req).transient) retries
        (attempt + 1)
      have count : ∀ n, attempt + 1 ≤ n → n - attempt = (n - (attempt + 1)) + 1 := by
        intro n _
        omega
      have none_left : attempt - attempt = 0 := Nat.sub_self attempt
      rw [List.range'_succ]
      unfold requestLoop Retry.lastFrom
      cases out : upstream attempt req with
      | requestError e =>
          simp only [transient_requestError, if_pos more, if_true, Traced.after,
            ih (attempt + 1) _ (by omega)]
          rw [count _ bounds.1, paced_succ, out]
          rfl
      | response resp =>
          by_cases busy : resp.status_code ∈ RETRYABLE_STATUS
          · simp only [transient_response, busy, more, and_self, if_true, decide_true,
              Traced.after, ih (attempt + 1) _ (by omega)]
            rw [count _ bounds.1, paced_succ, out]
            rfl
          · simp only [transient_response, busy, false_and, if_false, decide_false,
              Bool.false_eq_true, none_left]
            rfl

namespace ApiTool

/-- A pause that is no longer than `_MAX_BACKOFF_SECONDS`, or not a number. -/
def Bounded (seconds : FloatValue) : Prop := MAX_BACKOFF_SECONDS.lt seconds = false

theorem bounded_capped (x : FloatValue) : Bounded x.capped := by
  cases x with
  | finite q =>
      refine decide_eq_false ?_
      split
      · exact lt_irrefl _
      · assumption
  | posInf => exact decide_eq_false (lt_irrefl (20 : ℚ))
  | _ => rfl

theorem bounded_owed (py : PyText) (out : Outcome) {attempt : Nat} (early : attempt < MAX_RETRIES) :
    Bounded (out.owed py attempt) := by
  unfold Outcome.owed
  cases out.asked py with
  | none =>
      rw [Option.map_none, Option.getD_none, ← capped_backoff early]
      exact bounded_capped _
  | some seconds => exact bounded_capped seconds

/-- **The pace of a call**: it sleeps after every attempt but the last, for as long
as the response asked for or else one, two and four seconds, and never longer than
`_MAX_BACKOFF_SECONDS` at a time. -/
theorem run_paced (tool : ApiTool) (py : PyText) (client : NinjaOneClient) (upstream : Upstream) :
    (tool.run py (some client) upstream).events =
      paced (tool.request client) (fun i => (upstream i (tool.request client)).owed py i) 0
        (lastAttempt upstream (tool.request client)) ∧
    ∀ seconds, .sleep seconds ∈ (tool.run py (some client) upstream).events → Bounded seconds := by
  have attempts : lastAttempt upstream (tool.request client) ≤ MAX_RETRIES := Retry.last_le _ _
  have events : (tool.run py (some client) upstream).events =
      paced (tool.request client) (fun i => (upstream i (tool.request client)).owed py i) 0
        (lastAttempt upstream (tool.request client)) := by
    have loop := requestLoop_events py (client.base_url ++ tool.path) (tool.request client) upstream
      MAX_RETRIES 0 none (Nat.zero_add _)
    rw [← List.range_eq_range'] at loop
    rw [run_request]
    refine loop.trans (paced_congr fun i _ lt => pause_eq py _ ?_)
    exact lt.trans_le ((Nat.zero_add _).trans_le attempts)
  refine ⟨events, fun seconds mem => ?_⟩
  rw [events] at mem
  obtain ⟨i, _, lt, rfl⟩ := mem_paced mem
  have early : i < MAX_RETRIES := lt.trans_le ((Nat.zero_add _).trans_le attempts)
  exact bounded_owed py _ early

end ApiTool

end NinjaOne
