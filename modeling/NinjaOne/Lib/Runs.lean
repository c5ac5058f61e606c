import Mathlib.Data.List.Induction

/-!
Runs of a machine that takes one operation after another.

`step s op` is what an operation does in a state: the next state and a reply, or
nothing where the operation is not possible. A `Run` is a trace of operations
with the replies they gave.

* `Run.append`, `Run.split`, `Run.snoc_iff`: runs compose.
* `Run.induction`: what holds at the start and is kept by every step, from
  wherever the run has got to, holds at the end.
* `Run.simulates`: a relation to an abstract machine that every step keeps holds
  between the end of a run and the abstract machine's state after the same
  operations.
* `Run.translated`, `Run.lifted`: a translation between machines that commutes with
  the steps carries runs over, both ways; `Run.hides`: what a translation of a
  machine into itself hides, nothing depends on.
-/

section Runs

variable {S O R : Type*} (step : S → O → Option (S × R))

/-- A trace that leads from one state to another. -/
inductive Run : S → List (O × R) → S → Prop where
  | nil (s : S) : Run s [] s
  | cons {s s' s'' : S} {op : O} {reply : R} {rest : List (O × R)} :
      step s op = some (s', reply) → Run s' rest s'' → Run s ((op, reply) :: rest) s''

namespace Run

variable {step} {s s' s'' : S} {first second : List (O × R)}

theorem append (run : Run step s first s') (more : Run step s' second s'') :
    Run step s (first ++ second) s'' := by
  induction run with
  | nil => exact more
  | cons taken _ ih => exact .cons taken (ih more)

theorem split (run : Run step s (first ++ second) s'') :
    ∃ s', Run step s first s' ∧ Run step s' second s'' := by
  induction first generalizing s with
  | nil => exact ⟨s, .nil s, run⟩
  | cons entry rest ih =>
      cases run with
      | cons taken more =>
          obtain ⟨s', before, after⟩ := ih more
          exact ⟨s', .cons taken before, after⟩

theorem single_iff {op : O} {reply : R} :
    Run step s [(op, reply)] s' ↔ step s op = some (s', reply) := by
  constructor
  · intro run
    cases run with
    | cons taken more =>
        cases more
        exact taken
  · intro taken
    exact .cons taken (.nil s')

theorem snoc_iff {op : O} {reply : R} :
    Run step s (first ++ [(op, reply)]) s'' ↔
      ∃ s', Run step s first s' ∧ step s' op = some (s'', reply) := by
  constructor
  · intro run
    obtain ⟨s', before, last⟩ := run.split
    exact ⟨s', before, single_iff.mp last⟩
  · rintro ⟨s', before, last⟩
    exact before.append (single_iff.mpr last)

/-- What holds of the empty trace at the start, and is kept by every step, holds
of every trace and the state it leads to. -/
theorem induction {P : List (O × R) → S → Prop} (start : P [] s)
    (keeps : ∀ trace s₁ op reply s₂, Run step s trace s₁ → P trace s₁ →
      step s₁ op = some (s₂, reply) → P (trace ++ [(op, reply)]) s₂)
    {trace : List (O × R)} (run : Run step s trace s') : P trace s' := by
  induction trace using List.reverseRecOn generalizing s' with
  | nil =>
      cases run
      exact start
  | append_singleton rest entry ih =>
      obtain ⟨op, reply⟩ := entry
      obtain ⟨s₁, before, last⟩ := snoc_iff.mp run
      exact keeps rest s₁ op reply s' before (ih before) last

end Run

end Runs

/-! ### Simulation -/

section Simulation

variable {S O R A : Type*} {step : S → O → Option (S × R)}

/-- The abstract machine follows a run, as long as each of its operations is
allowed where the abstract machine has got to. -/
theorem Run.simulates (next : A → O → A) (Rel : S → A → Prop) (Allowed : A → O → Prop)
    (keeps : ∀ s a op s' reply, Rel s a → Allowed a op → step s op = some (s', reply) →
      Rel s' (next a op))
    {s s' : S} {a : A} (related : Rel s a) {trace : List (O × R)} (run : Run step s trace s')
    (allowed : ∀ before op after, trace.map Prod.fst = before ++ op :: after →
      Allowed (before.foldl next a) op) :
    Rel s' ((trace.map Prod.fst).foldl next a) := by
  induction run generalizing a with
  | nil => exact related
  | @cons s₀ s₁ s₂ op reply rest taken _ ih =>
      have here : Allowed a op := allowed [] op (rest.map Prod.fst) rfl
      refine ih (keeps _ _ _ _ _ related here taken) fun before op' after split => ?_
      exact allowed (op :: before) op' after (by rw [List.map_cons, split, List.cons_append])

end Simulation

/-! ### Translation -/

section Translation

variable {S O R S' O' R' : Type*} {step : S → O → Option (S × R)}
  {step' : S' → O' → Option (S' × R')} (state : S → S') (op : O → O') (reply : R → R')

/-- A translation that commutes with the steps takes runs to runs. -/
theorem Run.translated
    (commutes : ∀ s o, step' (state s) (op o) =
      (step s o).map fun done => (state done.1, reply done.2))
    {s s₂ : S} {trace : List (O × R)} (run : Run step s trace s₂) :
    Run step' (state s) (trace.map fun entry => (op entry.1, reply entry.2)) (state s₂) := by
  induction run with
  | nil s => exact .nil (state s)
  | @cons s₀ s₁ s₂ o r rest taken _ ih =>
      refine .cons ?_ ih
      rw [commutes, taken, Option.map_some]

/-- A run of translated operations is the translation of a run. -/
theorem Run.lifted
    (commutes : ∀ s o, step' (state s) (op o) =
      (step s o).map fun done => (state done.1, reply done.2))
    {s : S} {ops : List O} {trace' : List (O' × R')} {t : S'} (run : Run step' (state s) trace' t)
    (same : trace'.map Prod.fst = ops.map op) :
    ∃ trace s₂, Run step s trace s₂ ∧ trace.map Prod.fst = ops ∧
      trace' = trace.map (fun entry => (op entry.1, reply entry.2)) ∧ t = state s₂ := by
  induction ops generalizing s trace' with
  | nil =>
      rw [List.map_nil, List.map_eq_nil_iff] at same
      subst same
      cases run
      exact ⟨[], s, .nil s, rfl, rfl, rfl⟩
  | cons o ops ih =>
      cases run with
      | nil => cases same
      | @cons _ t₁ _ o' r' rest taken more =>
          rw [List.map_cons, List.map_cons, List.cons.injEq] at same
          obtain ⟨head, tail⟩ := same
          change o' = op o at head
          rw [head, commutes] at taken
          obtain ⟨⟨s₁, r⟩, here, eq⟩ := Option.map_eq_some_iff.mp taken
          obtain ⟨rfl, rfl⟩ := Prod.mk.inj eq
          obtain ⟨later, s₂, run₂, ops_eq, trace_eq, state_eq⟩ := ih more tail
          refine ⟨(o, r) :: later, s₂, .cons here run₂, ?_, ?_, state_eq⟩
          · rw [List.map_cons, ops_eq]
          · rw [List.map_cons, trace_eq, head]

/-- What a translation of a machine into itself hides, nothing depends on: any
operations that translate to those of a run have a run of their own, with the same
replies and to the same state but for what is hidden. -/
theorem Run.hides {state : S → S} {op : O → O} {reply : R → R}
    (commutes : ∀ s o, step (state s) (op o) =
      (step s o).map fun done => (state done.1, reply done.2))
    {s s₂ : S} {trace : List (O × R)} (run : Run step s trace s₂) {ops : List O}
    (same : ops.map op = trace.map fun entry => op entry.1) :
    ∃ trace' s₂', Run step s trace' s₂' ∧ trace'.map Prod.fst = ops ∧
      trace'.map (fun entry => reply entry.2) = trace.map (fun entry => reply entry.2) ∧
      state s₂' = state s₂ := by
  have hidden := run.translated state op reply commutes
  have ops_eq : (trace.map fun entry => (op entry.1, reply entry.2)).map Prod.fst = ops.map op := by
    rw [same, List.map_map]
    rfl
  obtain ⟨trace', s₂', run', fst, snd, state_eq⟩ := Run.lifted state op reply commutes hidden ops_eq
  refine ⟨trace', s₂', run', fst, ?_, state_eq.symm⟩
  have replies := congrArg (List.map Prod.snd) snd
  rw [List.map_map, List.map_map] at replies
  exact replies.symm

end Translation
