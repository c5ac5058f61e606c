import NinjaOne.Lib.Runs

/-!
Parts of a machine that are machines of their own.

An operation of the whole leaves a part as it is, or is a step of it. `own` says
which: it reads off an operation and its reply what the part makes of them.

* `Run.project`: a run of the whole is, seen from a part, a run of the part.
* `Run.project_pool`: the same for a pool of parts that grows and whose members
  take steps one at a time.
-/

section Pool

variable {S O R P O' R' : Type*} {step : S → O → Option (S × R)}
  {partStep : P → O' → Option (P × R')}

/-! ### One part -/

theorem Run.project (view : S → P) (own : O × R → Option (O' × R'))
    (idle : ∀ s op reply s₂, step s op = some (s₂, reply) → own (op, reply) = none →
      view s₂ = view s)
    (active : ∀ s op reply s₂ op' reply', step s op = some (s₂, reply) →
      own (op, reply) = some (op', reply') → partStep (view s) op' = some (view s₂, reply'))
    {s s' : S} {trace : List (O × R)} (run : Run step s trace s') :
    Run partStep (view s) (trace.filterMap own) (view s') := by
  induction run with
  | nil s => exact .nil (view s)
  | @cons s₁ s₂ s₃ op reply rest taken _ ih =>
      cases mine : own (op, reply) with
      | none =>
          rw [List.filterMap_cons_none mine, ← idle _ _ _ _ taken mine]
          exact ih
      | some entry =>
          rw [List.filterMap_cons_some mine]
          exact .cons (active _ _ _ _ _ _ taken mine) ih

/-! ### Lists that grow, and that change at one place -/

theorem getElem?_snoc {α : Type*} {l : List α} {a b : α} {i : Nat}
    (found : (l ++ [a])[i]? = some b) : l[i]? = some b ∨ i = l.length ∧ b = a := by
  rcases Nat.lt_trichotomy i l.length with lt | same | gt
  · rw [List.getElem?_append_left lt] at found
    exact Or.inl found
  · rw [same, List.getElem?_concat_length, Option.some.injEq] at found
    exact Or.inr ⟨same, found.symm⟩
  · have outside : (l ++ [a]).length ≤ i := by
      rw [List.length_append, List.length_singleton]
      exact gt
    rw [List.getElem?_eq_none outside] at found
    cases found

theorem getElem?_map_append {α β : Type*} {f : α → β} {l more : List α} {i : Nat} {b : β}
    (found : (l.map f)[i]? = some b) : ((l ++ more).map f)[i]? = some b := by
  rw [List.map_append, List.getElem?_append_left (List.getElem?_eq_some_iff.mp found).1]
  exact found

theorem map_set_eq {α β : Type*} {f : α → β} {l : List α} {i : Nat} {a a' : α}
    (found : l[i]? = some a) (same : f a' = f a) : (l.set i a').map f = l.map f := by
  refine List.ext_getElem? fun j => ?_
  rw [List.getElem?_map, List.getElem?_map, List.getElem?_set]
  split
  · rename_i here
    rw [if_pos (List.getElem?_eq_some_iff.mp found).1, ← here, found, Option.map_some,
      Option.map_some, same]
  · rfl

/-! ### A pool of parts -/

/-- What entry `i` of the pool makes of an operation. -/
def ownAt (own : O × R → Option (Nat × O' × R')) (i : Nat) (entry : O × R) : Option (O' × R') :=
  match own entry with
  | none => none
  | some (j, mine) => if j = i then some mine else none

/-- How an operation may change a pool: it adds a part that is as a part starts,
or leaves all as they are, or is a step of one of them. -/
inductive PoolStep (partStep : P → O' → Option (P × R')) (Starts : P → Prop) (pool : List P) :
    Option (Nat × O' × R') → List P → Prop where
  | idle : PoolStep partStep Starts pool none pool
  | start {p : P} (starts : Starts p) : PoolStep partStep Starts pool none (pool ++ [p])
  | act {i : Nat} {op : O'} {reply : R'} {p p' : P} (here : pool[i]? = some p)
      (taken : partStep p op = some (p', reply)) :
      PoolStep partStep Starts pool (some (i, op, reply)) (pool.set i p')

section Members

variable (pool : S → List P) (own : O × R → Option (Nat × O' × R')) (Starts : P → Prop)
  (keeps : ∀ s op reply s₂, step s op = some (s₂, reply) →
    PoolStep partStep Starts (pool s) (own (op, reply)) (pool s₂))
  {s s' : S} (empty : pool s = []) {trace : List (O × R)} (run : Run step s trace s')

include keeps empty run

/-- Nothing has happened yet to the parts that are still to come. -/
theorem Run.project_pool_all : ∀ i : Nat,
    ((pool s')[i]? = none → trace.filterMap (ownAt own i) = []) ∧
    ∀ p, (pool s')[i]? = some p →
      ∃ first, Starts first ∧ Run partStep first (trace.filterMap (ownAt own i)) p := by
  refine Run.induction (P := fun trace s' => ∀ i : Nat,
      ((pool s')[i]? = none → trace.filterMap (ownAt own i) = []) ∧
      ∀ p, (pool s')[i]? = some p →
        ∃ first, Starts first ∧ Run partStep first (trace.filterMap (ownAt own i)) p) ?_ ?_ run
  · intro i
    rw [empty]
    refine ⟨fun _ => rfl, fun p found => ?_⟩
    cases found
  · intro trace s₁ op reply s₂ _ ih taken i
    have changed := keeps s₁ op reply s₂ taken
    rw [List.filterMap_append]
    generalize entry : own (op, reply) = mine at changed
    generalize after : pool s₂ = pool₂ at changed ⊢
    cases changed with
    | idle =>
        have other : [(op, reply)].filterMap (ownAt own i) = [] := by
          simp only [List.filterMap_cons, ownAt, entry, List.filterMap_nil]
        rw [other, List.append_nil]
        exact ih i
    | @start p starts =>
        have other : [(op, reply)].filterMap (ownAt own i) = [] := by
          simp only [List.filterMap_cons, ownAt, entry, List.filterMap_nil]
        rw [other, List.append_nil]
        refine ⟨fun missing => (ih i).1 ?_, fun q found => ?_⟩
        · rw [List.getElem?_eq_none_iff, List.length_append] at missing
          exact List.getElem?_eq_none_iff.mpr (Nat.le_of_add_right_le missing)
        · rcases getElem?_snoc found with old | ⟨rfl, rfl⟩
          · exact (ih i).2 q old
          · rw [(ih _).1 (List.getElem?_eq_none_iff.mpr (Nat.le_refl _))]
            exact ⟨q, starts, .nil q⟩
    | @act j op' reply' p p' here stepped =>
        by_cases same : j = i
        · subst same
          have mine : [(op, reply)].filterMap (ownAt own j) = [(op', reply')] := by
            simp only [List.filterMap_cons, ownAt, entry, if_true, List.filterMap_nil]
          have lt : j < (pool s₁).length := (List.getElem?_eq_some_iff.mp here).1
          rw [mine, List.getElem?_set_self lt]
          refine ⟨fun missing => absurd missing (Option.some_ne_none p'), fun q found => ?_⟩
          cases found
          obtain ⟨first, starts, before⟩ := (ih j).2 p here
          exact ⟨first, starts, before.append (Run.single_iff.mpr stepped)⟩
        · have other : [(op, reply)].filterMap (ownAt own i) = [] := by
            simp only [List.filterMap_cons, ownAt, entry, if_neg same, List.filterMap_nil]
          rw [other, List.append_nil, List.getElem?_set_ne same]
          exact ih i

theorem Run.project_pool {i : Nat} {p : P} (found : (pool s')[i]? = some p) :
    ∃ first, Starts first ∧ Run partStep first (trace.filterMap (ownAt own i)) p :=
  (Run.project_pool_all pool own Starts keeps empty run i).2 p found

theorem Run.project_pool_none {i : Nat} (missing : (pool s')[i]? = none) :
    trace.filterMap (ownAt own i) = [] :=
  (Run.project_pool_all pool own Starts keeps empty run i).1 missing

end Members

end Pool
