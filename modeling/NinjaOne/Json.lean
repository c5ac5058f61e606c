import Mathlib.Data.Rat.Defs
import NinjaOne.Lib.Dict

/-!
JSON values as the tools handle them, and `_json._compact`.

`Json` is what `json.loads` builds: Python's `None`, `bool`, `int`, `float`,
`str`, `list` and `dict`. An object keeps its fields in insertion order, as a
`dict` does. `compact` is `json.dumps(data, separators=(",", ":"),
ensure_ascii=False)`; its length is what every size cap of the server counts.

The tools also read the values with Python's own operators, which treat
untyped data uniformly: truth value (`x or y`), `str(x)`, `isinstance(x, int)`
(which a `bool` passes) and `==` against an integer. They are defined here once.
-/

namespace NinjaOne

/-- What a Python float is worth; every finite double is a rational. -/
inductive FloatValue where
  | finite (q : ℚ)
  | posInf
  | negInf
  | nan
deriving DecidableEq

/-- A Python float: its value and the text `float.__repr__` gives for it. -/
structure PyFloat where
  value : FloatValue
  repr : String
  repr_ne : repr ≠ ""
deriving DecidableEq

inductive Json where
  | null
  | bool (b : Bool)
  | int (n : Int)
  | float (x : PyFloat)
  | str (s : String)
  | arr (items : List Json)
  | obj (fields : List (String × Json))

/-! ### `json.dumps` -/

def hexDigit (n : Nat) : Char :=
  if n < 10 then Char.ofNat (48 + n) else Char.ofNat (87 + n)

/-- The escapes of `json.encoder` with `ensure_ascii=False`: the quote, the
backslash and the C0 controls. Everything else is written as it is. -/
def escapeChar (c : Char) : List Char :=
  if c = '\\' then ['\\', '\\']
  else if c = '"' then ['\\', '"']
  else if c = '\x08' then ['\\', 'b']
  else if c = '\x0c' then ['\\', 'f']
  else if c = '\n' then ['\\', 'n']
  else if c = '\r' then ['\\', 'r']
  else if c = '\t' then ['\\', 't']
  else if c.toNat < 32 then
    ['\\', 'u', '0', '0', hexDigit (c.toNat / 16), hexDigit (c.toNat % 16)]
  else [c]

def quote (s : String) : String :=
  "\"" ++ String.ofList (s.toList.flatMap escapeChar) ++ "\""

/-- `json.encoder.floatstr`: JavaScript's names for the non-finite floats. -/
def PyFloat.text (x : PyFloat) : String :=
  match x.value with
  | .finite _ => x.repr
  | .posInf => "Infinity"
  | .negInf => "-Infinity"
  | .nan => "NaN"

mutual
/-- `_compact`. -/
def compact : Json → String
  | .null => "null"
  | .bool b => if b then "true" else "false"
  | .int n => toString n
  | .float x => x.text
  | .str s => quote s
  | .arr items => "[" ++ compactItems items ++ "]"
  | .obj fields => "\x7b" ++ compactFields fields ++ "\x7d"

def compactItems : List Json → String
  | [] => ""
  | [x] => compact x
  | x :: y :: rest => compact x ++ "," ++ compactItems (y :: rest)

def compactFields : List (String × Json) → String
  | [] => ""
  | [(k, x)] => quote k ++ ":" ++ compact x
  | (k, x) :: y :: rest => quote k ++ ":" ++ compact x ++ "," ++ compactFields (y :: rest)
end

/-- `len(_compact(data))`. -/
def size (data : Json) : Nat := (compact data).length

example : compact (.obj [("a", .arr [.null, .int (-3)]), ("b\n", .str "\"x\"")]) =
    "\x7b\"a\":[null,-3],\"b\\n\":\"\\\"x\\\"\"\x7d" := by decide

/-! ### `json.loads` -/

/-- What `json.loads` does with a text: a value, `ValueError` for text that is
not JSON, or `RecursionError` for text nested too deeply. -/
inductive Loads where
  | value (data : Json)
  | valueError
  | recursionError

/-! ### Objects as `dict`s -/

/-- `data[k] = v` for a `dict`. -/
abbrev setField (k : String) (v : Json) (fields : List (String × Json)) : List (String × Json) :=
  Dict.assign k v fields

/-- `data.get(k)` for a `dict`; `None` for a missing key is `null`. -/
def getField (fields : List (String × Json)) (k : String) : Json :=
  (fields.lookup k).getD .null

/-- `data.get(k)` where `data` may turn out not to be an object. -/
def Json.field (data : Json) (k : String) : Json :=
  match data with
  | .obj fields => getField fields k
  | _ => .null

/-! ### Python's view of a value -/

/-- `bool(x)`. -/
def Json.truthy : Json → Bool
  | .null => false
  | .bool b => b
  | .int n => n != 0
  | .float x => x.value != .finite 0
  | .str s => s != ""
  | .arr items => !items.isEmpty
  | .obj fields => !fields.isEmpty

/-- `x or y`. -/
def Json.orElse (x y : Json) : Json := if x.truthy then x else y

/-- `isinstance(x, int)`, with the integer the value stands for: `True` and
`False` are integers too. -/
def Json.asInt : Json → Option Int
  | .int n => some n
  | .bool b => some (if b then 1 else 0)
  | _ => none

/-- `x == n` for an integer `n`. -/
def Json.eqInt (x : Json) (n : Int) : Bool :=
  match x with
  | .int m => m == n
  | .bool b => (if b then 1 else 0) == n
  | .float x => x.value == .finite n
  | _ => false

end NinjaOne
