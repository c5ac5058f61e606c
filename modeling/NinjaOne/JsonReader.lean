import NinjaOne.Lib.Decimal
import NinjaOne.Sizes

/-!
A reader of JSON texts: what the other side of the protocol makes of an answer.

It reads the grammar of `json.loads`, with the three words for the floats that
JSON has no number for. What a number with a fraction or an exponent stands for
is left to `readFloat`.

* `readJson_compact`: the reader takes the text of a value back to the value, if
  the objects in it are dictionaries and its floats are read back.
-/

namespace NinjaOne

namespace JsonReader

/-! ### Strings -/

def isWs (c : Char) : Bool := c == ' ' || c == '\t' || c == '\n' || c == '\r'

def skip (cs : List Char) : List Char := cs.dropWhile isWs

def hexVal (c : Char) : Option Nat :=
  if c.isDigit then some (c.toNat - 48)
  else if 'a' ≤ c ∧ c ≤ 'f' then some (c.toNat - 87)
  else if 'A' ≤ c ∧ c ≤ 'F' then some (c.toNat - 55)
  else none

/-- Four hexadecimal digits. -/
def hexFour : List Char → Option (Nat × List Char)
  | a :: b :: c :: d :: rest =>
      match hexVal a, hexVal b, hexVal c, hexVal d with
      | some a, some b, some c, some d => some (((a * 16 + b) * 16 + c) * 16 + d, rest)
      | _, _, _, _ => none
  | _ => none

/-- The character of a code unit; a high surrogate needs a low one after it. -/
def codeUnit (unit : Nat) (rest : List Char) : Option (Char × List Char) :=
  if 0xD800 ≤ unit ∧ unit < 0xDC00 then
    match rest with
    | '\\' :: 'u' :: rest =>
        match hexFour rest with
        | some (low, rest) =>
            if 0xDC00 ≤ low ∧ low < 0xE000 then
              some (Char.ofNat (0x10000 + (unit - 0xD800) * 0x400 + (low - 0xDC00)), rest)
            else none
        | none => none
    | _ => none
  else if 0xDC00 ≤ unit ∧ unit < 0xE000 then none
  else some (Char.ofNat unit, rest)

/-- What follows a backslash. -/
def escape : List Char → Option (Char × List Char)
  | [] => none
  | c :: rest =>
      if c = '"' ∨ c = '\\' ∨ c = '/' then some (c, rest)
      else if c = 'b' then some ('\x08', rest)
      else if c = 'f' then some ('\x0c', rest)
      else if c = 'n' then some ('\n', rest)
      else if c = 'r' then some ('\r', rest)
      else if c = 't' then some ('\t', rest)
      else if c = 'u' then (hexFour rest).bind fun read => codeUnit read.1 read.2
      else none

/-- The characters up to the closing quote. -/
def chars : Nat → List Char → Option (List Char × List Char)
  | 0, _ => none
  | _ + 1, [] => none
  | n + 1, c :: rest =>
      if c = '"' then some ([], rest)
      else if c = '\\' then
        (escape rest).bind fun read => (chars n read.2).map fun more => (read.1 :: more.1, more.2)
      else if c.toNat < 32 then none
      else (chars n rest).map fun more => (c :: more.1, more.2)

/-- A string whose opening quote has been read. -/
def string (cs : List Char) : Option (String × List Char) :=
  (chars cs.length cs).map fun read => (String.ofList read.1, read.2)

/-! ### Numbers and words -/

def isNumberChar (c : Char) : Bool :=
  c.isDigit || c == '-' || c == '+' || c == '.' || c == 'e' || c == 'E'

/-- Digits, at least one. -/
def isDigits (cs : List Char) : Bool := !cs.isEmpty && cs.all Char.isDigit

/-- `-?(?:0|[1-9]\d*)`. -/
def isInteger (token : List Char) : Bool :=
  let digits := if token.head? = some '-' then token.tail else token
  isDigits digits && (digits.head? != some '0' || digits.length == 1)

/-- `(\.\d+)?`. -/
def isFraction (cs : List Char) : Bool := cs.isEmpty || isDigits cs.tail

/-- `([eE][-+]?\d+)?`. -/
def isExponent (cs : List Char) : Bool :=
  cs.isEmpty || isDigits (if cs.tail.head? = some '-' ∨ cs.tail.head? = some '+' then cs.tail.tail
    else cs.tail)

/-- A number with a fraction or an exponent. -/
def isFloat (token : List Char) : Bool :=
  let isE := fun c => c == 'e' || c == 'E'
  let mantissa := token.takeWhile fun c => !isE c
  token.all isNumberChar && isInteger (mantissa.takeWhile (· != '.')) &&
    isFraction (mantissa.dropWhile (· != '.')) && isExponent (token.dropWhile fun c => !isE c)

variable (readFloat : String → Option PyFloat)

def number (cs : List Char) : Option (Json × List Char) :=
  let token := cs.takeWhile isNumberChar
  let rest := cs.dropWhile isNumberChar
  if isInteger token then (Decimal.read token).map fun n => (.int n, rest)
  else if isFloat token then (readFloat (String.ofList token)).map fun x => (.float x, rest)
  else none

def nan : PyFloat := ⟨.nan, "nan", by decide⟩

def infinity : PyFloat := ⟨.posInf, "inf", by decide⟩

def negInfinity : PyFloat := ⟨.negInf, "-inf", by decide⟩

/-- The words that stand for a value. -/
def words : List (String × Json) :=
  [("null", .null), ("true", .bool true), ("false", .bool false), ("NaN", .float nan),
    ("Infinity", .float infinity), ("-Infinity", .float negInfinity)]

def word (cs : List Char) : Option (Json × List Char) :=
  words.findSome? fun entry =>
    if entry.1.toList.isPrefixOf cs then some (entry.2, cs.drop entry.1.length) else none

/-! ### Values -/

/-- `dict(pairs)`: the last value of a key wins. -/
def toDict (pairs : List (String × Json)) : List (String × Json) :=
  pairs.foldl (fun fields pair => setField pair.1 pair.2 fields) []

mutual
def value : Nat → List Char → Option (Json × List Char)
  | 0, _ => none
  | n + 1, cs =>
      match skip cs with
      | [] => none
      | c :: rest =>
          if c = '"' then (string rest).map fun read => (.str read.1, read.2)
          else if c = '[' then
            if (skip rest).head? = some ']' then some (.arr [], (skip rest).tail)
            else (items n rest).map fun read => (.arr read.1, read.2)
          else if c = '\x7b' then
            if (skip rest).head? = some '\x7d' then some (.obj [], (skip rest).tail)
            else (fields n rest).map fun read => (.obj (toDict read.1), read.2)
          else (number readFloat (c :: rest)).or (word (c :: rest))

/-- The items of a list, up to its closing bracket. -/
def items : Nat → List Char → Option (List Json × List Char)
  | 0, _ => none
  | n + 1, cs =>
      (value n cs).bind fun first =>
        match skip first.2 with
        | [] => none
        | c :: rest =>
            if c = ',' then (items n rest).map fun more => (first.1 :: more.1, more.2)
            else if c = ']' then some ([first.1], rest)
            else none

/-- The fields of an object, up to its closing brace. -/
def fields : Nat → List Char → Option (List (String × Json) × List Char)
  | 0, _ => none
  | n + 1, cs =>
      match skip cs with
      | [] => none
      | q :: rest =>
          if q = '"' then
            (string rest).bind fun key =>
              match skip key.2 with
              | [] => none
              | colon :: rest =>
                  if colon = ':' then
                    (value n rest).bind fun first =>
                      match skip first.2 with
                      | [] => none
                      | c :: rest =>
                          if c = ',' then
                            (fields n rest).map fun more => ((key.1, first.1) :: more.1, more.2)
                          else if c = '\x7d' then some ([(key.1, first.1)], rest)
                          else none
                  else none
          else none
end

end JsonReader

/-- The value a text stands for, if it is JSON. -/
def readJson (readFloat : String → Option PyFloat) (text : String) : Option Json :=
  match JsonReader.value readFloat (text.length + 1) text.toList with
  | none => none
  | some (data, rest) => if JsonReader.skip rest = [] then some data else none

namespace JsonReader

/-! ### Reading strings back -/

theorem hexVal_hexDigit : ∀ k < 16, hexVal (hexDigit k) = some k := by decide

theorem codeUnit_of_lt {unit : Nat} (low : unit < 0xD800) (rest : List Char) :
    codeUnit unit rest = some (Char.ofNat unit, rest) := by
  unfold codeUnit
  rw [if_neg (by omega), if_neg (by omega)]

theorem chars_backslash (n : Nat) (cs : List Char) : chars (n + 1) ('\\' :: cs) =
    (escape cs).bind fun read => (chars n read.2).map fun more => (read.1 :: more.1, more.2) :=
  rfl

/-- An escaped character is read back. -/
theorem chars_escapeChar (n : Nat) (c : Char) (rest : List Char) :
    chars (n + 1) (escapeChar c ++ rest) =
      (chars n rest).map fun more => (c :: more.1, more.2) := by
  unfold escapeChar
  split
  · rename_i same
    rw [same]
    rfl
  · split
    · rename_i same
      rw [same]
      rfl
    · rename_i backslash quotation
      split_ifs with b f line ret tab control
      · rw [b]; rfl
      · rw [f]; rfl
      · rw [line]; rfl
      · rw [ret]; rfl
      · rw [tab]; rfl
      · have high := hexVal_hexDigit (c.toNat / 16) (by omega)
        have low := hexVal_hexDigit (c.toNat % 16) (by omega)
        have zero : hexVal '0' = some 0 := by decide
        have unit : ((0 * 16 + 0) * 16 + c.toNat / 16) * 16 + c.toNat % 16 = c.toNat := by omega
        have four : hexFour ('0' :: '0' :: hexDigit (c.toNat / 16) :: hexDigit (c.toNat % 16) ::
            rest) = some (c.toNat, rest) := by
          simp only [hexFour, zero, high, low, unit]
        have read : escape ('u' :: '0' :: '0' :: hexDigit (c.toNat / 16) ::
            hexDigit (c.toNat % 16) :: rest) = some (c, rest) := by
          change (hexFour _).bind _ = _
          rw [four, Option.bind_some, codeUnit_of_lt (by omega), Char.ofNat_toNat]
        simp only [List.cons_append, List.nil_append, chars_backslash, read, Option.bind_some]
      · simp only [List.singleton_append, chars, quotation, backslash, control, if_false]

theorem chars_escaped (s : List Char) {n : Nat} (fuel : s.length < n) (rest : List Char) :
    chars n (s.flatMap escapeChar ++ '"' :: rest) = some (s, rest) := by
  induction s generalizing n with
  | nil =>
      obtain ⟨m, rfl⟩ : ∃ m, n = m + 1 := ⟨n - 1, by simp at fuel; omega⟩
      rfl
  | cons c s ih =>
      rw [List.length_cons] at fuel
      obtain ⟨m, rfl⟩ : ∃ m, n = m + 1 := ⟨n - 1, by omega⟩
      rw [List.flatMap_cons, List.append_assoc, chars_escapeChar, ih (by omega)]
      rfl

/-- A quoted string is read back. -/
theorem string_quote (s : String) (rest : List Char) :
    string (s.toList.flatMap escapeChar ++ '"' :: rest) = some (s, rest) := by
  have long : s.toList.length ≤ (s.toList.flatMap escapeChar).length := by
    induction s.toList with
    | nil => exact Nat.le_refl 0
    | cons c cs ih =>
        have one := one_le_length_escapeChar c
        rw [List.flatMap_cons, List.length_append, List.length_cons]
        omega
  rw [string, chars_escaped _ _ _, Option.map_some, String.ofList_toList]
  rw [List.length_append, List.length_cons]
  omega

theorem toList_quote (s : String) :
    (quote s).toList = '"' :: (s.toList.flatMap escapeChar ++ ['"']) := by
  simp [quote, String.toList_append]

/-! ### Reading numbers back -/

/-- Nothing that would go on with a number. -/
def Stops (rest : List Char) : Prop := ∀ c ∈ rest.head?, isNumberChar c = false

theorem span_number {token rest : List Char} (all : ∀ c ∈ token, isNumberChar c = true)
    (stops : Stops rest) : (token ++ rest).takeWhile isNumberChar = token ∧
      (token ++ rest).dropWhile isNumberChar = rest := by
  have ends : rest.takeWhile isNumberChar = [] ∧ rest.dropWhile isNumberChar = rest := by
    cases rest with
    | nil => exact ⟨rfl, rfl⟩
    | cons c more =>
        have stop := stops c rfl
        simp only [List.takeWhile_cons, List.dropWhile_cons, stop, Bool.false_eq_true, if_false,
          and_self]
  rw [List.takeWhile_append_of_pos all, List.dropWhile_append_of_pos all, ends.1, ends.2,
    List.append_nil]
  exact ⟨rfl, rfl⟩

theorem isDigits_toDigits (n : Nat) : isDigits (Nat.toDigits 10 n) = true := by
  rw [isDigits, Bool.and_eq_true, Bool.not_eq_true', List.isEmpty_eq_false_iff]
  exact ⟨Decimal.toDigits_ne_nil n, List.all_eq_true.mpr Decimal.isDigit_toDigits⟩

theorem isNumberChar_toDigits {n : Nat} : ∀ c ∈ Nat.toDigits 10 n, isNumberChar c = true :=
  fun c mem => by simp [isNumberChar, Decimal.isDigit_toDigits c mem]

/-- Digits without a leading zero are a number's digits. -/
theorem leading_toDigits (n : Nat) : ((Nat.toDigits 10 n).head? != some '0' ||
    (Nat.toDigits 10 n).length == 1) = true := by
  by_cases zero : (Nat.toDigits 10 n).head? = some '0'
  · rw [Decimal.head_toDigits zero]
    decide
  · rw [Bool.or_eq_true]
    exact Or.inl (bne_iff_ne.mpr zero)

theorem isInteger_toString (n : Int) : isInteger (toString n).toList = true := by
  cases n with
  | ofNat n =>
      have unsigned : (Nat.toDigits 10 n).head? ≠ some '-' := fun sign => by
        have mem : '-' ∈ Nat.toDigits 10 n := List.mem_of_mem_head? sign
        exact absurd (Decimal.isDigit_toDigits _ mem) (by decide)
      rw [Int.ofNat_eq_natCast, Decimal.toList_toString_ofNat, isInteger, if_neg unsigned,
        isDigits_toDigits, leading_toDigits]
      rfl
  | negSucc n =>
      rw [Decimal.toList_toString_neg, isInteger, if_pos List.head?_cons, List.tail_cons,
        isDigits_toDigits, leading_toDigits]
      rfl

theorem isNumberChar_toString (n : Int) : ∀ c ∈ (toString n).toList, isNumberChar c = true := by
  cases n with
  | ofNat n =>
      rw [Int.ofNat_eq_natCast, Decimal.toList_toString_ofNat]
      exact isNumberChar_toDigits
  | negSucc n =>
      rw [Decimal.toList_toString_neg]
      intro c mem
      rcases List.mem_cons.mp mem with rfl | digit
      · decide
      · exact isNumberChar_toDigits c digit

/-- An integer is read back. -/
theorem number_toString (readFloat : String → Option PyFloat) (n : Int) {rest : List Char}
    (stops : Stops rest) :
    number readFloat ((toString n).toList ++ rest) = some (.int n, rest) := by
  have parts := span_number (isNumberChar_toString n) stops
  rw [number]
  simp only [parts.1, parts.2, isInteger_toString, if_true, Decimal.read_toString, Option.map_some]

/-! ### Reading values back -/

variable (readFloat : String → Option PyFloat)

/-- A float that its own text is read back to. -/
def GenuineFloat (x : PyFloat) : Prop :=
  match x.value with
  | .finite _ => isInteger x.repr.toList = false ∧ isFloat x.repr.toList = true ∧
      readFloat x.repr = some x
  | .posInf => x = infinity
  | .negInf => x = negInfinity
  | .nan => x = nan

/-- What `json.loads` can build: every object is a dictionary and every float is
one that a text stands for. -/
inductive Genuine : Json → Prop where
  | null : Genuine .null
  | bool (b : Bool) : Genuine (.bool b)
  | int (n : Int) : Genuine (.int n)
  | float {x : PyFloat} : GenuineFloat readFloat x → Genuine (.float x)
  | str (s : String) : Genuine (.str s)
  | arr {items : List Json} : (∀ data ∈ items, Genuine data) → Genuine (.arr items)
  | obj {fields : List (String × Json)} : (fields.map Prod.fst).Nodup →
      (∀ field ∈ fields, Genuine field.2) → Genuine (.obj fields)

/-- The text of `data` is read back, whatever follows it. -/
def ReadBack (data : Json) : Prop :=
  ∀ (n : Nat) (rest : List Char), size data ≤ n → Stops rest →
    value readFloat n ((compact data).toList ++ rest) = some (data, rest)

theorem stops_comma (rest : List Char) : Stops (',' :: rest) := by
  rintro c ⟨⟩
  decide

theorem stops_bracket (rest : List Char) : Stops (']' :: rest) := by
  rintro c ⟨⟩
  decide

theorem stops_brace (rest : List Char) : Stops ('\x7d' :: rest) := by
  rintro c ⟨⟩
  decide

variable {readFloat}

theorem skip_cons {c : Char} (solid : isWs c = false) (rest : List Char) :
    skip (c :: rest) = c :: rest := by
  rw [skip, List.dropWhile_cons, solid, if_neg Bool.false_ne_true]

/-- A text that starts like a number is read as one. -/
theorem value_number {token : List Char} (written : token ≠ [])
    (all : ∀ c ∈ token, isNumberChar c = true) (n : Nat) (rest : List Char) :
    value readFloat (n + 1) (token ++ rest) =
      (number readFloat (token ++ rest)).or (word (token ++ rest)) := by
  obtain ⟨c, more, rfl⟩ := List.exists_cons_of_ne_nil written
  have digit := all c List.mem_cons_self
  have other : ∀ d : Char, isNumberChar d = false → c ≠ d := by
    rintro d no rfl
    exact Bool.false_ne_true (no.symm.trans digit)
  have solid : isWs c = false := by
    simp only [isWs, Bool.or_eq_false_iff, beq_eq_false_iff_ne]
    exact ⟨⟨⟨other _ (by decide), other _ (by decide)⟩, other _ (by decide)⟩, other _ (by decide)⟩
  rw [List.cons_append, value, skip_cons solid]
  simp only [if_neg (other '"' (by decide)), if_neg (other '[' (by decide)),
    if_neg (other '\x7b' (by decide))]

theorem toString_ne_nil (n : Int) : (toString n).toList ≠ [] := by
  intro nil
  have integer := isInteger_toString n
  rw [nil] at integer
  exact absurd integer (by decide)

theorem size_pos (data : Json) : 1 ≤ size data := by
  cases data with
  | null => decide
  | bool b => cases b <;> decide
  | int n =>
      rw [size, compact, ← String.length_toList]
      exact List.length_pos_of_ne_nil (toString_ne_nil n)
  | float x =>
      have written : x.text.toList ≠ [] := by
        intro nil
        rw [String.toList_eq_nil_iff, PyFloat.text] at nil
        split at nil
        · exact x.repr_ne nil
        all_goals exact absurd nil (by decide)
      rw [size, compact, ← String.length_toList]
      exact List.length_pos_of_ne_nil written
  | str s => exact Nat.lt_of_le_of_lt (Nat.zero_le _) (length_lt_size_str s)
  | arr items =>
      rw [size_arr]
      omega
  | obj fields =>
      rw [size_obj]
      omega

/-- There is always a step left to read a value with. -/
theorem readBack_of_succ {data : Json} (read : ∀ (n : Nat) (rest : List Char), size data ≤ n + 1 →
    Stops rest → value readFloat (n + 1) ((compact data).toList ++ rest) = some (data, rest)) :
    ReadBack readFloat data := by
  intro n rest fuel stops
  obtain ⟨m, rfl⟩ := Nat.exists_eq_add_of_le' ((size_pos data).trans fuel)
  exact read m rest fuel stops

theorem readBack_int (n : Int) : ReadBack readFloat (.int n) :=
  readBack_of_succ fun _ _ _ stops => by
    rw [compact, value_number (toString_ne_nil n) (isNumberChar_toString n),
      number_toString readFloat n stops]
    rfl

theorem readBack_finite {x : PyFloat} {q : ℚ} (worth : x.value = .finite q)
    (whole : isInteger x.repr.toList = false) (float : isFloat x.repr.toList = true)
    (read : readFloat x.repr = some x) : ReadBack readFloat (.float x) :=
  readBack_of_succ fun n rest _ stops => by
    have text : compact (.float x) = x.repr := by rw [compact, PyFloat.text, worth]
    have written : x.repr.toList ≠ [] := fun nil => x.repr_ne (String.toList_eq_nil_iff.mp nil)
    have all : ∀ c ∈ x.repr.toList, isNumberChar c = true := by
      rw [isFloat, Bool.and_eq_true, Bool.and_eq_true, Bool.and_eq_true] at float
      exact List.all_eq_true.mp float.1.1.1
    have parts := span_number all stops
    rw [text, value_number written all, number]
    simp only [parts.1, parts.2, whole, float, if_true, Bool.false_eq_true, if_false,
      String.ofList_toList, read, Option.map_some, Option.some_or]

theorem readBack_float {x : PyFloat} (genuine : GenuineFloat readFloat x) :
    ReadBack readFloat (.float x) := by
  rw [GenuineFloat] at genuine
  cases worth : x.value with
  | finite q =>
      rw [worth] at genuine
      exact readBack_finite worth genuine.1 genuine.2.1 genuine.2.2
  | posInf =>
      rw [worth] at genuine
      rw [show x = infinity from genuine]
      exact readBack_of_succ fun _ _ _ _ => rfl
  | negInf =>
      rw [worth] at genuine
      rw [show x = negInfinity from genuine]
      exact readBack_of_succ fun _ _ _ _ => rfl
  | nan =>
      rw [worth] at genuine
      rw [show x = nan from genuine]
      exact readBack_of_succ fun _ _ _ _ => rfl

/-- The items of a list are read back, up to its closing bracket. -/
theorem items_compact (rest : List Char) :
    ∀ {data : List Json}, data ≠ [] → (∀ x ∈ data, ReadBack readFloat x) → ∀ n,
      (compactItems data).length + 1 ≤ n →
        items readFloat n ((compactItems data).toList ++ ']' :: rest) = some (data, rest)
  | [], written, _, _, _ => absurd rfl written
  | [x], _, all, n, fuel => by
      rw [compactItems] at fuel ⊢
      obtain ⟨m, rfl⟩ := Nat.exists_eq_add_of_le' (Nat.le_trans (Nat.le_add_left 1 _) fuel)
      have read := all x List.mem_cons_self m _ (Nat.le_of_succ_le_succ fuel) (stops_bracket rest)
      rw [items, read, Option.bind_some]
      rfl
  | x :: y :: more, _, all, n, fuel => by
      have ih := items_compact rest (List.cons_ne_nil y more)
        fun z mem => all z (List.mem_cons_of_mem _ mem)
      have comma : ",".length = 1 := rfl
      rw [compactItems, String.length_append, String.length_append, comma] at fuel
      obtain ⟨m, rfl⟩ := Nat.exists_eq_add_of_le' (Nat.le_trans (Nat.le_add_left 1 _) fuel)
      have first := all x List.mem_cons_self m
        (',' :: ((compactItems (y :: more)).toList ++ ']' :: rest))
        (show (compact x).length ≤ m by omega) (stops_comma _)
      have text : (compactItems (x :: y :: more)).toList ++ ']' :: rest =
          (compact x).toList ++ ',' :: ((compactItems (y :: more)).toList ++ ']' :: rest) := by
        simp [compactItems]
      rw [text, items, first, Option.bind_some, skip_cons (by decide)]
      simp only [if_true, ih m (by omega), Option.map_some]

/-- A key is read up to its colon, and what follows is its value. -/
theorem fields_key (k : String) (n : Nat) (cs : List Char) :
    fields readFloat (n + 1) ((quote k).toList ++ ':' :: cs) =
      (value readFloat n cs).bind fun first =>
        match skip first.2 with
        | [] => none
        | c :: rest =>
            if c = ',' then
              (fields readFloat n rest).map fun more => ((k, first.1) :: more.1, more.2)
            else if c = '\x7d' then some ([(k, first.1)], rest)
            else none := by
  have text : (quote k).toList ++ ':' :: cs =
      '"' :: (k.toList.flatMap escapeChar ++ '"' :: ':' :: cs) := by
    rw [toList_quote, List.cons_append, List.append_assoc, List.singleton_append]
  rw [text, fields, skip_cons (by decide)]
  simp only [if_true, string_quote, Option.bind_some, skip_cons (show isWs ':' = false by decide)]

theorem toList_compactFields (k : String) (x : Json) :
    (compactFields [(k, x)]).toList = (quote k).toList ++ ':' :: (compact x).toList := by
  rw [compactFields, String.toList_append, String.toList_append, List.append_assoc]
  rfl

theorem toList_compactFields_cons (k : String) (x : Json) (y : String × Json)
    (more : List (String × Json)) : (compactFields ((k, x) :: y :: more)).toList =
      (quote k).toList ++ ':' ::
        ((compact x).toList ++ ',' :: (compactFields (y :: more)).toList) := by
  rw [compactFields, String.toList_append, String.toList_append, String.toList_append,
    String.toList_append, List.append_assoc, List.append_assoc, List.append_assoc]
  rfl

/-- The fields of an object are read back, up to its closing brace. -/
theorem fields_compact (rest : List Char) {data : List (String × Json)} (written : data ≠ [])
    (all : ∀ field ∈ data, ReadBack readFloat field.2) (n : Nat)
    (fuel : (compactFields data).length + 1 ≤ n) :
    fields readFloat n ((compactFields data).toList ++ '\x7d' :: rest) = some (data, rest) := by
  obtain ⟨m, rfl⟩ := Nat.exists_eq_add_of_le' (Nat.le_trans (Nat.le_add_left 1 _) fuel)
  induction data generalizing m with
  | nil => exact absurd rfl written
  | cons field more ih =>
      obtain ⟨k, x⟩ := field
      have first := all (k, x) List.mem_cons_self
      cases more with
      | nil =>
          have text := toList_compactFields k x
          rw [← String.length_toList, text, List.length_append, List.length_cons,
            String.length_toList, String.length_toList] at fuel
          have read := first m ('\x7d' :: rest)
            (show (compact x).length ≤ m by omega) (stops_brace rest)
          rw [text, List.append_assoc, List.cons_append, fields_key, read, Option.bind_some]
          rfl
      | cons y more =>
          have text := toList_compactFields_cons k x y more
          rw [← String.length_toList, text, List.length_append, List.length_cons,
            List.length_append, List.length_cons, String.length_toList, String.length_toList,
            String.length_toList] at fuel
          have read := first m
            (',' :: ((compactFields (y :: more)).toList ++ '\x7d' :: rest))
            (show (compact x).length ≤ m by omega) (stops_comma _)
          obtain ⟨l, rfl⟩ := Nat.exists_eq_add_of_le' (show 1 ≤ m by omega)
          have others := ih (List.cons_ne_nil _ _)
            (fun z mem => all z (List.mem_cons_of_mem _ mem)) l (by omega)
          rw [text, List.append_assoc, List.cons_append, List.append_assoc, List.cons_append,
            fields_key, read, Option.bind_some, skip_cons (by decide)]
          simp only [if_true, others, Option.map_some]

/-- No value starts with a closing bracket. -/
theorem value_bracket {cs : List Char} (closing : (skip cs).head? = some ']') (n : Nat) :
    value readFloat n cs = none := by
  cases n with
  | zero => rfl
  | succ n =>
      obtain ⟨more, eq⟩ := List.head?_eq_some_iff.mp closing
      rw [value, eq]
      rfl

/-- No field starts with a closing brace. -/
theorem fields_brace {cs : List Char} (closing : (skip cs).head? = some '\x7d') (n : Nat) :
    fields readFloat n cs = none := by
  cases n with
  | zero => rfl
  | succ n =>
      obtain ⟨more, eq⟩ := List.head?_eq_some_iff.mp closing
      rw [fields, eq]
      rfl

theorem readBack_arr {data : List Json} (all : ∀ x ∈ data, ReadBack readFloat x) :
    ReadBack readFloat (.arr data) :=
  readBack_of_succ fun n rest fuel _ => by
    have text : (compact (.arr data)).toList ++ rest =
        '[' :: ((compactItems data).toList ++ ']' :: rest) := by
      rw [compact, String.toList_append, String.toList_append, List.append_assoc,
        List.append_assoc]
      rfl
    cases data with
    | nil => rw [text]; rfl
    | cons x more =>
        have enough : (compactItems (x :: more)).length + 1 ≤ n := by
          rw [size_arr] at fuel
          rw [length_compactItems]
          omega
        have read := items_compact rest (List.cons_ne_nil x more) all n enough
        have opened : (skip ((compactItems (x :: more)).toList ++ ']' :: rest)).head? ≠
            some ']' := by
          intro closing
          obtain ⟨m, rfl⟩ := Nat.exists_eq_add_of_le' (Nat.le_trans (Nat.le_add_left 1 _) enough)
          rw [items, value_bracket closing, Option.bind_none] at read
          cases read
        rw [text, value, skip_cons (by decide)]
        simp only [show ¬ ('[' = '"') by decide, if_false, if_true, if_neg opened, read,
          Option.map_some]

theorem toDict_of_nodup {fields : List (String × Json)} (nodup : (fields.map Prod.fst).Nodup) :
    toDict fields = fields :=
  Dict.foldl_assign_of_nodup nodup fun _ _ => List.not_mem_nil

theorem readBack_obj {data : List (String × Json)} (nodup : (data.map Prod.fst).Nodup)
    (all : ∀ field ∈ data, ReadBack readFloat field.2) : ReadBack readFloat (.obj data) :=
  readBack_of_succ fun n rest fuel _ => by
    have text : (compact (.obj data)).toList ++ rest =
        '\x7b' :: ((compactFields data).toList ++ '\x7d' :: rest) := by
      rw [compact, String.toList_append, String.toList_append, List.append_assoc,
        List.append_assoc]
      rfl
    cases data with
    | nil => rw [text]; rfl
    | cons x more =>
        have enough : (compactFields (x :: more)).length + 1 ≤ n := by
          rw [size_obj] at fuel
          rw [length_compactFields]
          omega
        have read := fields_compact rest (List.cons_ne_nil x more) all n enough
        have opened : (skip ((compactFields (x :: more)).toList ++ '\x7d' :: rest)).head? ≠
            some '\x7d' := fun closing => by
          rw [fields_brace closing] at read
          cases read
        rw [text, value, skip_cons (by decide)]
        simp only [show ¬ ('\x7b' = '"') by decide, show ¬ ('\x7b' = '[') by decide, if_false,
          if_true, if_neg opened, read, Option.map_some, toDict_of_nodup nodup]

/-- A genuine value is read back from its text. -/
theorem Genuine.readBack {data : Json} (genuine : Genuine readFloat data) :
    ReadBack readFloat data := by
  induction genuine with
  | null => exact readBack_of_succ fun _ _ _ _ => rfl
  | bool b =>
      cases b
      · exact readBack_of_succ fun _ _ _ _ => rfl
      · exact readBack_of_succ fun _ _ _ _ => rfl
  | int n => exact readBack_int n
  | float exact => exact readBack_float exact
  | str s =>
      refine readBack_of_succ fun n rest _ _ => ?_
      have text : (compact (.str s)).toList ++ rest =
          '"' :: (s.toList.flatMap escapeChar ++ '"' :: rest) := by
        simp [compact, toList_quote]
      rw [text, value, skip_cons (by decide)]
      simp only [if_true, string_quote, Option.map_some]
  | arr _ ih => exact readBack_arr ih
  | obj nodup _ ih => exact readBack_obj nodup ih

/-! ### What is read -/

/-- What is read as a float is a float, and one that `float.__repr__` has a text for. -/
def Faithful (readFloat : String → Option PyFloat) : Prop :=
  ∀ text x, readFloat text = some x → GenuineFloat readFloat x

theorem number_genuine (faithful : Faithful readFloat) {cs rest : List Char} {data : Json}
    (read : number readFloat cs = some (data, rest)) : Genuine readFloat data := by
  rw [number] at read
  split_ifs at read with whole float
  · obtain ⟨n, _, same⟩ := Option.map_eq_some_iff.mp read
    obtain ⟨rfl, _⟩ := Prod.mk.inj same
    exact .int n
  · obtain ⟨x, found, same⟩ := Option.map_eq_some_iff.mp read
    obtain ⟨rfl, _⟩ := Prod.mk.inj same
    exact .float (faithful _ _ found)

theorem word_genuine {cs rest : List Char} {data : Json} (read : word cs = some (data, rest)) :
    Genuine readFloat data := by
  obtain ⟨entry, mem, found⟩ := List.exists_of_findSome?_eq_some read
  split_ifs at found
  obtain ⟨rfl, _⟩ := Prod.mk.inj (Option.some.inj found)
  simp only [words, List.mem_cons, List.not_mem_nil, or_false] at mem
  rcases mem with rfl | rfl | rfl | rfl | rfl | rfl
  · exact .null
  · exact .bool true
  · exact .bool false
  · exact .float rfl
  · exact .float rfl
  · exact .float rfl

theorem toDict_genuine {pairs : List (String × Json)}
    (all : ∀ pair ∈ pairs, Genuine readFloat pair.2) : Genuine readFloat (.obj (toDict pairs)) := by
  refine .obj (Dict.nodup_keys_foldl_assign List.nodup_nil) fun field mem => ?_
  rcases Dict.mem_foldl_assign mem with given | given
  · exact all field given
  · cases given

/-- Everything that is read with this fuel is genuine. -/
structure ReadsGenuine (readFloat : String → Option PyFloat) (n : Nat) : Prop where
  value : ∀ {cs rest data}, value readFloat n cs = some (data, rest) → Genuine readFloat data
  items : ∀ {cs rest data}, items readFloat n cs = some (data, rest) →
    ∀ x ∈ data, Genuine readFloat x
  fields : ∀ {cs rest data}, fields readFloat n cs = some (data, rest) →
    ∀ field ∈ data, Genuine readFloat field.2

variable {n : Nat} {cs rest : List Char}

theorem value_genuine (faithful : Faithful readFloat) (ih : ReadsGenuine readFloat n) {data : Json}
    (read : value readFloat (n + 1) cs = some (data, rest)) : Genuine readFloat data := by
  rw [value] at read
  cases start : skip cs with
  | nil => rw [start] at read; cases read
  | cons c more =>
      rw [start] at read
      dsimp only at read
      split_ifs at read
      · obtain ⟨_, _, same⟩ := Option.map_eq_some_iff.mp read
        obtain ⟨rfl, _⟩ := Prod.mk.inj same
        exact .str _
      · obtain ⟨rfl, _⟩ := Prod.mk.inj (Option.some.inj read)
        exact .arr fun _ mem => absurd mem List.not_mem_nil
      · obtain ⟨_, found, same⟩ := Option.map_eq_some_iff.mp read
        obtain ⟨rfl, _⟩ := Prod.mk.inj same
        exact .arr (ih.items found)
      · obtain ⟨rfl, _⟩ := Prod.mk.inj (Option.some.inj read)
        exact .obj List.nodup_nil fun _ mem => absurd mem List.not_mem_nil
      · obtain ⟨_, found, same⟩ := Option.map_eq_some_iff.mp read
        obtain ⟨rfl, _⟩ := Prod.mk.inj same
        exact toDict_genuine (ih.fields found)
      · rcases Option.or_eq_some_iff.mp read with found | ⟨_, found⟩
        · exact number_genuine faithful found
        · exact word_genuine found

theorem items_genuine (ih : ReadsGenuine readFloat n) {data : List Json}
    (read : items readFloat (n + 1) cs = some (data, rest)) :
    ∀ x ∈ data, Genuine readFloat x := by
  rw [items] at read
  obtain ⟨first, found, read⟩ := Option.bind_eq_some_iff.mp read
  cases next : skip first.2 with
  | nil => rw [next] at read; cases read
  | cons c more =>
      rw [next] at read
      dsimp only at read
      split_ifs at read
      · obtain ⟨_, others, same⟩ := Option.map_eq_some_iff.mp read
        obtain ⟨rfl, _⟩ := Prod.mk.inj same
        exact List.forall_mem_cons.mpr ⟨ih.value found, ih.items others⟩
      · obtain ⟨rfl, _⟩ := Prod.mk.inj (Option.some.inj read)
        exact List.forall_mem_singleton.mpr (ih.value found)

theorem fields_genuine (ih : ReadsGenuine readFloat n) {data : List (String × Json)}
    (read : fields readFloat (n + 1) cs = some (data, rest)) :
    ∀ field ∈ data, Genuine readFloat field.2 := by
  rw [fields] at read
  cases start : skip cs with
  | nil => rw [start] at read; cases read
  | cons q more =>
      rw [start] at read
      dsimp only at read
      split_ifs at read
      obtain ⟨key, _, read⟩ := Option.bind_eq_some_iff.mp read
      cases colon : skip key.2 with
      | nil => rw [colon] at read; cases read
      | cons c more =>
          rw [colon] at read
          dsimp only at read
          split_ifs at read
          obtain ⟨first, found, read⟩ := Option.bind_eq_some_iff.mp read
          cases next : skip first.2 with
          | nil => rw [next] at read; cases read
          | cons c more =>
              rw [next] at read
              dsimp only at read
              split_ifs at read
              · obtain ⟨_, others, same⟩ := Option.map_eq_some_iff.mp read
                obtain ⟨rfl, _⟩ := Prod.mk.inj same
                exact List.forall_mem_cons.mpr ⟨ih.value found, ih.fields others⟩
              · obtain ⟨rfl, _⟩ := Prod.mk.inj (Option.some.inj read)
                exact List.forall_mem_singleton.mpr (ih.value found)

theorem readsGenuine (faithful : Faithful readFloat) : ∀ n, ReadsGenuine readFloat n
  | 0 =>
      { value := fun read => by cases read
        items := fun read => by cases read
        fields := fun read => by cases read }
  | n + 1 =>
      have ih := readsGenuine faithful n
      { value := value_genuine faithful ih
        items := items_genuine ih
        fields := fields_genuine ih }

end JsonReader

open JsonReader

variable {readFloat : String → Option PyFloat} {data : Json}

/-- The text of a genuine value is read back. -/
theorem readJson_compact_of_genuine (genuine : Genuine readFloat data) :
    readJson readFloat (compact data) = some data := by
  have stops : Stops [] := by
    rintro c ⟨⟩
  have read := genuine.readBack ((compact data).length + 1) [] (Nat.le_succ _) stops
  rw [List.append_nil] at read
  rw [readJson, read]
  rfl

theorem genuine_of_readJson (faithful : Faithful readFloat) {text : String}
    (read : readJson readFloat text = some data) : Genuine readFloat data := by
  rw [readJson] at read
  cases found : value readFloat (text.length + 1) text.toList with
  | none => rw [found] at read; cases read
  | some first =>
      rw [found] at read
      dsimp only at read
      split_ifs at read
      rw [← Option.some.inj read]
      exact (readsGenuine faithful _).value found

/-- **The text of a value stands for it**: what `_compact` writes for a value is
read back to this very value, exactly when it is a value some text stands for. -/
theorem compact_reads_back_iff (faithful : Faithful readFloat) (data : Json) :
    readJson readFloat (compact data) = some data ↔ ∃ text, readJson readFloat text = some data :=
  ⟨fun read => ⟨_, read⟩, fun ⟨_, read⟩ =>
    readJson_compact_of_genuine (genuine_of_readJson faithful read)⟩

/-- `float("1.5")`. -/
def oneAndHalf : PyFloat := ⟨.finite (3 / 2), "1.5", by decide⟩

def readOneAndHalf (text : String) : Option PyFloat :=
  if text = "1.5" then some oneAndHalf else none

theorem readOneAndHalf_faithful : Faithful readOneAndHalf := by
  intro text x read
  unfold readOneAndHalf at read
  split_ifs at read
  rw [← Option.some.inj read]
  exact ⟨by decide, by decide, rfl⟩

theorem oneAndHalf_reads_back :
    readJson readOneAndHalf (compact (.arr [.float oneAndHalf, .str "\n"])) =
        some (.arr [.float oneAndHalf, .str "\n"]) ↔
      ∃ text, readJson readOneAndHalf text = some (.arr [.float oneAndHalf, .str "\n"]) :=
  compact_reads_back_iff readOneAndHalf_faithful _

end NinjaOne
