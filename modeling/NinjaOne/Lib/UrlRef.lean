import Mathlib.Data.List.Basic
import Mathlib.Data.List.TakeWhile

/-!
URL strings: how one is cut into its parts, and how the dot segments of its path
are resolved.

A string is cut at the first `#` and then at the first `?`; before those come an
optional scheme, an optional authority and the path. The path is cut at `/`, and
`resolveFrom` walks its segments: `.` stays, `..` goes up, anything else goes
down. Percent-encoding changes neither the separators nor the dot segments and
is left out.

* `parse_append`: text appended at a rooted path extends the path of the base and
  touches nothing else of it.
* `host_append`: neither scheme nor authority depend on what is appended there.
* `parse_plain_iff`: a string has no query and no fragment exactly when it
  has no `?` and no `#`.
* `splitOn_rooted`, `resolveFrom_append`, `resolveFrom_ordinary`: names appended
  to a path are walked one after another, and ordinary ones go down.
* `resolveFrom_of_no_parent`: without `..`, a walk only goes down.
-/

namespace UrlRef

/-! ### The parts of a URL -/

/-- Cut at the first `c`; nothing behind it when there is none. -/
def splitFirst (c : Char) : List Char → List Char × Option (List Char)
  | [] => ([], none)
  | x :: xs =>
      if x = c then ([], some xs) else (x :: (splitFirst c xs).1, (splitFirst c xs).2)

def isSchemeChar (c : Char) : Bool := c.isAlphanum || c == '+' || c == '.' || c == '-'

/-- A scheme and what follows its colon. -/
def splitScheme (cs : List Char) : Option (List Char) × List Char :=
  match cs.dropWhile isSchemeChar with
  | ':' :: rest =>
      if (cs.takeWhile isSchemeChar).head?.all Char.isAlpha then
        (some (cs.takeWhile isSchemeChar), rest)
      else (none, cs)
  | _ => (none, cs)

/-- An authority and the path behind it. -/
def splitAuthority (cs : List Char) : Option (List Char) × List Char :=
  match cs with
  | '/' :: '/' :: rest => (some (rest.takeWhile (· ≠ '/')), rest.dropWhile (· ≠ '/'))
  | _ => (none, cs)

structure Ref where
  scheme : Option (List Char)
  authority : Option (List Char)
  path : List Char
  query : Option (List Char)
  fragment : Option (List Char)

def parse (cs : List Char) : Ref :=
  let front := splitFirst '#' cs
  let hier := splitFirst '?' front.1
  let scheme := splitScheme hier.1
  let authority := splitAuthority scheme.2
  { scheme := scheme.1, authority := authority.1, path := authority.2, query := hier.2,
    fragment := front.2 }

/-- No query and no fragment can start in this text. -/
def Plain (cs : List Char) : Prop := '?' ∉ cs ∧ '#' ∉ cs

instance (cs : List Char) : Decidable (Plain cs) := inferInstanceAs (Decidable (_ ∧ _))

theorem plain_append {cs more : List Char} : Plain (cs ++ more) ↔ Plain cs ∧ Plain more := by
  simp only [Plain, List.mem_append, not_or]
  exact and_and_and_comm

theorem splitFirst_snd {c : Char} {cs : List Char} : (splitFirst c cs).2 = none ↔ c ∉ cs := by
  induction cs with
  | nil => simp [splitFirst]
  | cons x xs ih =>
      unfold splitFirst
      by_cases here : x = c
      · simp [here]
      · simp [here, Ne.symm here, ih]

theorem splitFirst_of_not_mem {c : Char} {cs : List Char} (free : c ∉ cs) :
    splitFirst c cs = (cs, none) := by
  induction cs with
  | nil => rfl
  | cons x xs ih =>
      rw [List.mem_cons, not_or] at free
      rw [splitFirst, if_neg (Ne.symm free.1), ih free.2]

/-- A URL string has no query and no fragment exactly when it is plain. -/
theorem parse_plain_iff (cs : List Char) :
    (parse cs).query = none ∧ (parse cs).fragment = none ↔ Plain cs := by
  constructor
  · rintro ⟨query, fragment⟩
    have no_hash : '#' ∉ cs := splitFirst_snd.mp fragment
    have no_mark : '?' ∉ (splitFirst '#' cs).1 := splitFirst_snd.mp query
    rw [splitFirst_of_not_mem no_hash] at no_mark
    exact ⟨no_mark, no_hash⟩
  · rintro ⟨no_mark, no_hash⟩
    have front := splitFirst_of_not_mem no_hash
    refine ⟨splitFirst_snd.mpr ?_, splitFirst_snd.mpr no_hash⟩
    rw [front]
    exact no_mark

theorem parse_of_plain {cs : List Char} (plain : Plain cs) :
    parse cs = { scheme := (splitScheme cs).1, authority := (splitAuthority (splitScheme cs).2).1,
                 path := (splitAuthority (splitScheme cs).2).2, query := none,
                 fragment := none } := by
  simp only [parse, splitFirst_of_not_mem plain.1, splitFirst_of_not_mem plain.2]

section Stop

variable {p : Char → Bool} {stop : Char} (ends : p stop = false)

include ends

theorem takeWhile_append_stop (xs ys : List Char) :
    (xs ++ stop :: ys).takeWhile p = xs.takeWhile p := by
  induction xs with
  | nil => simp [ends]
  | cons x xs ih => simp only [List.cons_append, List.takeWhile_cons, ih]

theorem dropWhile_append_stop (xs ys : List Char) :
    (xs ++ stop :: ys).dropWhile p = xs.dropWhile p ++ stop :: ys := by
  induction xs with
  | nil => simp [ends]
  | cons x xs ih =>
      simp only [List.cons_append, List.dropWhile_cons, ih]
      split <;> rfl

end Stop

theorem splitScheme_append (base more : List Char) :
    splitScheme (base ++ '/' :: more) =
      ((splitScheme base).1, (splitScheme base).2 ++ '/' :: more) := by
  have ends : isSchemeChar '/' = false := by decide
  unfold splitScheme
  rw [takeWhile_append_stop ends, dropWhile_append_stop ends]
  cases rest : base.dropWhile isSchemeChar with
  | nil => rfl
  | cons c rest =>
      by_cases colon : c = ':'
      · subst colon
        simp only [List.cons_append]
        split <;> rfl
      · simp only [List.cons_append]
        split
        · rename_i other eq
          exact absurd (List.cons.inj eq).1 colon
        · split
          · rename_i other eq
            exact absurd (List.cons.inj eq).1 colon
          · rfl

/-- What follows the scheme ends as the whole text does, or is empty. -/
theorem splitScheme_getLast? {cs : List Char} {c : Char}
    (last : (splitScheme cs).2.getLast? = some c) : cs.getLast? = some c := by
  have suffix : (splitScheme cs).2 <:+ cs := by
    unfold splitScheme
    split
    · rename_i rest eq
      split
      · exact ((List.suffix_cons ':' rest).trans (eq ▸ List.dropWhile_suffix _))
      · exact List.suffix_refl cs
    · exact List.suffix_refl cs
  obtain ⟨front, eq⟩ := suffix
  rw [← eq, List.getLast?_append, last]
  rfl

theorem splitAuthority_append {base : List Char} (stripped : base.getLast? ≠ some '/')
    {x : Char} (rooted : x ≠ '/') (more : List Char) :
    splitAuthority (base ++ '/' :: x :: more) =
      ((splitAuthority base).1, (splitAuthority base).2 ++ '/' :: x :: more) := by
  have ends : decide ('/' ≠ '/') = false := by decide
  match base, stripped with
  | [], _ =>
      simp only [List.nil_append, splitAuthority]
      split
      · rename_i rest eq
        injection eq with _ eq
        exact absurd (List.cons.inj eq).1 rooted
      · rfl
  | [c], stripped =>
      have slash : c ≠ '/' := fun eq => stripped (by rw [eq]; rfl)
      simp only [List.cons_append, List.nil_append, splitAuthority]
      split
      · rename_i rest eq
        exact absurd (List.cons.inj eq).1 slash
      · rfl
  | c :: d :: rest, _ =>
      by_cases both : c = '/' ∧ d = '/'
      · obtain ⟨rfl, rfl⟩ := both
        simp only [List.cons_append, splitAuthority,
          takeWhile_append_stop (p := fun c => decide (c ≠ '/')) ends,
          dropWhile_append_stop (p := fun c => decide (c ≠ '/')) ends]
      · simp only [List.cons_append, splitAuthority]
        split
        · rename_i rest' eq
          injection eq with first eq
          exact absurd ⟨first, (List.cons.inj eq).1⟩ both
        · split
          · rename_i rest' eq
            injection eq with first eq
            exact absurd ⟨first, (List.cons.inj eq).1⟩ both
          · rfl

/-- Text appended at a rooted path extends the base's path and nothing else. -/
theorem parse_append {base more : List Char} {x : Char} (stripped : base.getLast? ≠ some '/')
    (rooted : x ≠ '/') (plain : Plain (base ++ '/' :: x :: more)) :
    parse (base ++ '/' :: x :: more) =
      { parse base with path := (parse base).path ++ '/' :: x :: more } := by
  have inner : (splitScheme base).2.getLast? ≠ some '/' :=
    fun last => stripped (splitScheme_getLast? last)
  rw [parse_of_plain plain, parse_of_plain (plain_append.mp plain).1, splitScheme_append,
    splitAuthority_append inner rooted]

theorem splitFirst_append_of_not_mem {c : Char} {cs : List Char} (free : c ∉ cs)
    (more : List Char) : splitFirst c (cs ++ more) =
      (cs ++ (splitFirst c more).1, (splitFirst c more).2) := by
  induction cs with
  | nil => rfl
  | cons x xs ih =>
      rw [List.mem_cons, not_or] at free
      rw [List.cons_append, splitFirst, if_neg (Ne.symm free.1), ih free.2, List.cons_append]

/-- What is behind the first `c` does not matter for what is before it. -/
theorem splitFirst_append_of_mem {c : Char} {cs : List Char} (here : c ∈ cs) (more : List Char) :
    (splitFirst c (cs ++ more)).1 = (splitFirst c cs).1 := by
  induction cs with
  | nil => cases here
  | cons x xs ih =>
      rw [List.cons_append, splitFirst, splitFirst]
      split
      · rfl
      · rename_i other
        rcases List.mem_cons.mp here with first | later
        · exact absurd first.symm other
        · rw [ih later]

theorem splitFirst_fst_of_not_mem {c : Char} {cs : List Char} (free : c ∉ cs) :
    (splitFirst c cs).1 = cs := by
  rw [splitFirst_of_not_mem free]

/-- A character that is not `c` stays before the first `c`. -/
theorem splitFirst_cons_ne {c x : Char} (other : x ≠ c) (cs : List Char) :
    (splitFirst c (x :: cs)).1 = x :: (splitFirst c cs).1 := by
  rw [splitFirst, if_neg other]

/-- The scheme and the authority of a URL. -/
def host (cs : List Char) : Option (List Char) × Option (List Char) :=
  ((parse cs).scheme, (parse cs).authority)

/-- Where the scheme and the authority stand. -/
def front (cs : List Char) : List Char := (splitFirst '?' (splitFirst '#' cs).1).1

theorem host_eq (cs : List Char) :
    host cs = ((splitScheme (front cs)).1, (splitAuthority (splitScheme (front cs)).2).1) := rfl

/-- Text appended at a rooted path never changes scheme and authority, whatever
it holds. -/
theorem host_append {base : List Char} (stripped : base.getLast? ≠ some '/') {x : Char}
    (rooted : x ≠ '/' ∧ x ≠ '?' ∧ x ≠ '#') (more : List Char) :
    host (base ++ '/' :: x :: more) = host base := by
  have slash_hash : '/' ≠ '#' := by decide
  have slash_mark : '/' ≠ '?' := by decide
  rw [host_eq, host_eq]
  by_cases hash : '#' ∈ base
  · rw [front, splitFirst_append_of_mem hash, ← front]
  · have before : (splitFirst '#' (base ++ '/' :: x :: more)).1 =
        base ++ '/' :: x :: (splitFirst '#' more).1 := by
      rw [splitFirst_append_of_not_mem hash, splitFirst_cons_ne slash_hash,
        splitFirst_cons_ne rooted.2.2]
    rw [front, before, front, splitFirst_fst_of_not_mem hash]
    by_cases mark : '?' ∈ base
    · rw [splitFirst_append_of_mem mark]
    · have inner : (splitScheme base).2.getLast? ≠ some '/' :=
        fun last => stripped (splitScheme_getLast? last)
      rw [splitFirst_append_of_not_mem mark, splitFirst_cons_ne slash_mark,
        splitFirst_cons_ne rooted.2.1, splitFirst_fst_of_not_mem mark, splitScheme_append,
        splitAuthority_append inner rooted.1]

/-! ### Paths -/

def Ref.segments (ref : Ref) : List (List Char) := ref.path.splitOn '/'

/-- One step of a walk from the root: where a segment leads. -/
def follow (place : List (List Char)) (segment : List Char) : List (List Char) :=
  if segment = ['.'] then place
  else if segment = ['.', '.'] then
    if place = [] ∨ place = [[]] then place else place.dropLast
  else place ++ [segment]

/-- Where a walk through `segments` leads from `place`. -/
def resolveFrom (place segments : List (List Char)) : List (List Char) :=
  segments.foldl follow place

/-- The path that is sent. -/
def Ref.resolved (ref : Ref) : List (List Char) := resolveFrom [] ref.segments

/-- A segment that is neither empty nor a dot segment, and has no separator. -/
def Ordinary (name : List Char) : Prop :=
  name ≠ [] ∧ name ≠ ['.'] ∧ name ≠ ['.', '.'] ∧ '/' ∉ name ∧ Plain name

instance (name : List Char) : Decidable (Ordinary name) :=
  inferInstanceAs (Decidable (_ ∧ _ ∧ _ ∧ _ ∧ _))

theorem resolveFrom_append (place first second : List (List Char)) :
    resolveFrom place (first ++ second) = resolveFrom (resolveFrom place first) second :=
  List.foldl_append

/-- Ordinary names go down. -/
theorem resolveFrom_ordinary {names : List (List Char)} (ordinary : ∀ name ∈ names, Ordinary name)
    (place : List (List Char)) : resolveFrom place names = place ++ names := by
  induction names generalizing place with
  | nil => exact (List.append_nil place).symm
  | cons name rest ih =>
      obtain ⟨_, here, up, _⟩ := ordinary name List.mem_cons_self
      have step : follow place name = place ++ [name] := by
        rw [follow, if_neg here, if_neg up]
      have more := ih (fun n mem => ordinary n (List.mem_cons_of_mem _ mem)) (place ++ [name])
      rw [resolveFrom, List.foldl_cons, step]
      rw [resolveFrom] at more
      rw [more, List.append_assoc, List.singleton_append]

/-- Without `..` a walk goes down the segments that are not `.`. -/
theorem resolveFrom_of_no_parent {segments : List (List Char)} (none_up : ['.', '.'] ∉ segments)
    (place : List (List Char)) :
    resolveFrom place segments = place ++ segments.filter (· ≠ ['.']) := by
  induction segments generalizing place with
  | nil => exact (List.append_nil place).symm
  | cons segment rest ih =>
      rw [List.mem_cons, not_or] at none_up
      rw [resolveFrom, List.foldl_cons, ← resolveFrom, ih none_up.2]
      by_cases here : segment = ['.']
      · simp [follow, here]
      · simp [follow, here, Ne.symm none_up.1]

/-- Names appended to a path with a slash each. -/
def rooted (names : List (List Char)) : List Char := names.flatMap ('/' :: ·)

/-- The segments of a path with names appended. -/
theorem splitOn_rooted (path : List Char) (names : List (List Char)) :
    (path ++ rooted names).splitOn '/' =
      path.splitOn '/' ++ names.flatMap (List.splitOn '/') := by
  induction names generalizing path with
  | nil => simp [rooted]
  | cons name rest ih =>
      have unfold_rooted :
          path ++ rooted (name :: rest) = path ++ '/' :: (name ++ rooted rest) := by
        simp [rooted]
      rw [unfold_rooted, List.splitOn_append_cons_self, ih, List.flatMap_cons]

theorem flatMap_splitOn_ordinary {names : List (List Char)}
    (ordinary : ∀ name ∈ names, Ordinary name) : names.flatMap (List.splitOn '/') = names := by
  induction names with
  | nil => rfl
  | cons name rest ih =>
      obtain ⟨_, _, _, slash, _⟩ := ordinary name List.mem_cons_self
      rw [List.flatMap_cons, List.splitOn_eq_singleton slash,
        ih fun n mem => ordinary n (List.mem_cons_of_mem _ mem), List.singleton_append]

theorem plain_rooted {names : List (List Char)} :
    Plain (rooted names) ↔ ∀ name ∈ names, Plain name := by
  induction names with
  | nil => simp [rooted, Plain]
  | cons name rest ih =>
      have split : rooted (name :: rest) = ['/'] ++ (name ++ rooted rest) := by
        simp [rooted]
      have slash : Plain ['/'] := by decide
      rw [split, plain_append, plain_append, ih, List.forall_mem_cons]
      exact ⟨fun h => h.2, fun h => ⟨slash, h⟩⟩

/-- Names appended to a base URL are walked from where its own path leads. -/
theorem resolved_rooted {base name : List Char} {rest : List (List Char)}
    (stripped : base.getLast? ≠ some '/') (ordinary : Ordinary name)
    (plain : Plain (base ++ rooted (name :: rest))) :
    (parse (base ++ rooted (name :: rest))).resolved =
      resolveFrom (parse base).resolved ((name :: rest).flatMap (List.splitOn '/')) := by
  obtain ⟨nonempty, _, _, slash, _⟩ := ordinary
  cases name with
  | nil => exact absurd rfl nonempty
  | cons x name =>
      have first : x ≠ '/' := fun eq => slash (eq ▸ List.mem_cons_self)
      have starts : rooted ((x :: name) :: rest) = '/' :: x :: (name ++ rooted rest) := by
        simp [rooted]
      have parts : parse (base ++ rooted ((x :: name) :: rest)) =
          { parse base with path := (parse base).path ++ rooted ((x :: name) :: rest) } := by
        rw [starts] at plain ⊢
        exact parse_append stripped first plain
      rw [parts, Ref.resolved, Ref.segments, splitOn_rooted, resolveFrom_append]
      rfl

end UrlRef
