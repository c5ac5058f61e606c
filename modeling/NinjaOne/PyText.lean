import Mathlib.Algebra.Order.Ring.Nat
import NinjaOne.Json

/-!
Python text operations the server applies to data it does not control.

`PyText` collects what depends on tables outside the repository: Unicode case
mapping, which characters `repr` prints as they are, and `float(s)`. Results
hold for every such table. `str(x)` and `repr(x)` of the values `json.loads`
builds are defined over it.
-/

namespace NinjaOne

structure PyText where
  /-- `str.upper`. -/
  upper : String → String
  /-- `str.lower`. -/
  lower : String → String
  /-- `str.isprintable`, for one character outside ASCII. -/
  printable : Char → Bool
  /-- `float(s)`; `none` is `ValueError`. -/
  float : String → Option FloatValue

/-- ASCII letters only, and no float is ever read. -/
def PyText.ascii : PyText where
  upper := String.toUpper
  lower := String.toLower
  printable := fun _ => false
  float := fun _ => none

/-- Lower-case hexadecimal, padded to `width` digits. -/
def hexPadded (width n : Nat) : List Char :=
  (List.range width).reverse.map fun i => hexDigit (n / 16 ^ i % 16)

/-- One character inside `repr(s)` with the quote `mark`. -/
def reprChar (py : PyText) (mark c : Char) : List Char :=
  if c = mark ∨ c = '\\' then ['\\', c]
  else if c = '\t' then ['\\', 't']
  else if c = '\n' then ['\\', 'n']
  else if c = '\r' then ['\\', 'r']
  else if c.toNat < 32 ∨ c.toNat = 127 then ['\\', 'x'] ++ hexPadded 2 c.toNat
  else if c.toNat < 127 ∨ py.printable c then [c]
  else if c.toNat < 256 then ['\\', 'x'] ++ hexPadded 2 c.toNat
  else if c.toNat < 65536 then ['\\', 'u'] ++ hexPadded 4 c.toNat
  else ['\\', 'U'] ++ hexPadded 8 c.toNat

/-- `repr(s)`: single quotes unless the text has some and no double ones. -/
def reprStr (py : PyText) (s : String) : String :=
  let mark := if '\'' ∈ s.toList ∧ '"' ∉ s.toList then '"' else '\''
  String.ofList ([mark] ++ s.toList.flatMap (reprChar py mark) ++ [mark])

mutual
/-- `repr(x)`. -/
def reprJson (py : PyText) : Json → String
  | .null => "None"
  | .bool b => if b then "True" else "False"
  | .int n => toString n
  | .float x => x.repr
  | .str s => reprStr py s
  | .arr items => "[" ++ reprItems py items ++ "]"
  | .obj fields => "\x7b" ++ reprFields py fields ++ "\x7d"

def reprItems (py : PyText) : List Json → String
  | [] => ""
  | [x] => reprJson py x
  | x :: y :: rest => reprJson py x ++ ", " ++ reprItems py (y :: rest)

def reprFields (py : PyText) : List (String × Json) → String
  | [] => ""
  | [(k, x)] => reprStr py k ++ ": " ++ reprJson py x
  | (k, x) :: y :: rest =>
      reprStr py k ++ ": " ++ reprJson py x ++ ", " ++ reprFields py (y :: rest)
end

/-- `str(x)`. -/
def strJson (py : PyText) : Json → String
  | .str s => s
  | x => reprJson py x

example : strJson .ascii (.obj [("a", .arr [.str "it's", .null, .str "\n"])]) =
    "\x7b'a': [\"it's\", None, '\\n']\x7d" := by decide

end NinjaOne
