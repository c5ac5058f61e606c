import Mathlib.Data.Nat.Notation

/-!
Reading bytes as UTF-8 without ever failing.

Well-formed sequences give their character. Anything else gives U+FFFD, once for
each longest start of a sequence that cannot be completed, as
`bytes.decode("utf-8", errors="replace")` and the Unicode standard do it. The
decoder is the usual automaton: between characters, or inside a sequence with
the bounds its next byte has to keep. The bounds of the second byte exclude
overlong forms, surrogates and values beyond U+10FFFF.

`decode_encode` reads back what `encode` writes, so the bytes that come through
unchanged are the encoded texts and no others: `encode_decode_iff`.
-/

namespace Utf8

def replacement : Char := '\uFFFD'

/-- Inside a sequence: the bits so far, how many bytes are missing, and the
bounds of the next one. -/
structure Partial where
  bits : Nat
  missing : Nat
  lo : Nat
  hi : Nat

/-- A byte between characters: what it gives, and the sequence it opens. -/
def start (b : UInt8) : List Char × Option Partial :=
  let n := b.toNat
  if n < 0x80 then ([Char.ofNat n], none)
  else if 0xC2 ≤ n ∧ n ≤ 0xDF then ([], some ⟨n % 32, 1, 0x80, 0xBF⟩)
  else if 0xE0 ≤ n ∧ n ≤ 0xEF then
    ([], some ⟨n % 16, 2, if n = 0xE0 then 0xA0 else 0x80, if n = 0xED then 0x9F else 0xBF⟩)
  else if 0xF0 ≤ n ∧ n ≤ 0xF4 then
    ([], some ⟨n % 8, 3, if n = 0xF0 then 0x90 else 0x80, if n = 0xF4 then 0x8F else 0xBF⟩)
  else ([replacement], none)

/-- One byte. A byte that does not continue the sequence breaks it off and is
read again between characters. -/
def feed : Option Partial → UInt8 → List Char × Option Partial
  | none, b => start b
  | some p, b =>
      let n := b.toNat
      if p.lo ≤ n ∧ n ≤ p.hi then
        if p.missing = 1 then ([Char.ofNat (p.bits * 64 + n % 64)], none)
        else ([], some ⟨p.bits * 64 + n % 64, p.missing - 1, 0x80, 0xBF⟩)
      else (replacement :: (start b).1, (start b).2)

def decodeFrom : Option Partial → List UInt8 → List Char
  | none, [] => []
  | some _, [] => [replacement]
  | state, b :: rest => (feed state b).1 ++ decodeFrom (feed state b).2 rest

/-- `raw.decode("utf-8", errors="replace")`. -/
def decodeReplace (raw : List UInt8) : String := String.ofList (decodeFrom none raw)

/-- ASCII is read as it is. -/
theorem decodeFrom_ascii {raw : List UInt8} (ascii : ∀ b ∈ raw, b.toNat < 0x80) :
    decodeFrom none raw = raw.map fun b => Char.ofNat b.toNat := by
  induction raw with
  | nil => rfl
  | cons b rest ih =>
      have first : feed none b = ([Char.ofNat b.toNat], none) :=
        if_pos (ascii b List.mem_cons_self)
      rw [decodeFrom, first, ih fun c mem => ascii c (List.mem_cons_of_mem _ mem)]
      rfl

theorem toList_decodeReplace {raw : List UInt8} (ascii : ∀ b ∈ raw, b.toNat < 0x80) :
    (decodeReplace raw).toList = raw.map fun b => Char.ofNat b.toNat := by
  rw [decodeReplace, String.toList_ofList, decodeFrom_ascii ascii]

/-! ### Writing -/

/-- `text.encode("utf-8")`. -/
def encode (text : String) : List UInt8 := text.toList.flatMap String.utf8EncodeChar

/-- Well-formed UTF-8: the encoding of some text. -/
def Valid (raw : List UInt8) : Prop := ∃ text, encode text = raw

/-! ### One character -/

theorem toNat_byte {n : Nat} (lt : n < 256) : (UInt8.ofNat n).toNat = n :=
  UInt8.toNat_ofNat_of_lt lt

theorem start_ascii {n : Nat} (low : n < 0x80) :
    start (UInt8.ofNat n) = ([Char.ofNat n], none) := by
  have byte : (UInt8.ofNat n).toNat = n := toNat_byte (by omega)
  rw [start, byte, if_pos low]

/-- The first byte of two. -/
theorem start_two {n : Nat} (low : 2 ≤ n) (high : n < 32) :
    start (UInt8.ofNat (n + 0xC0)) = ([], some ⟨n, 1, 0x80, 0xBF⟩) := by
  have byte : (UInt8.ofNat (n + 0xC0)).toNat = n + 0xC0 := toNat_byte (by omega)
  have bits : (n + 0xC0) % 32 = n := by omega
  rw [start, byte, if_neg (by omega), if_pos (by omega), bits]

/-- The first byte of three. -/
theorem start_three {n : Nat} (high : n < 16) : start (UInt8.ofNat (n + 0xE0)) =
    ([], some ⟨n, 2, if n = 0 then 0xA0 else 0x80, if n = 13 then 0x9F else 0xBF⟩) := by
  have byte : (UInt8.ofNat (n + 0xE0)).toNat = n + 0xE0 := toNat_byte (by omega)
  have bits : (n + 0xE0) % 16 = n := by omega
  have first : (n + 0xE0 = 0xE0) ↔ n = 0 := by omega
  have surrogate : (n + 0xE0 = 0xED) ↔ n = 13 := by omega
  rw [start, byte, if_neg (by omega), if_neg (by omega), if_pos (by omega), bits]
  simp only [first, surrogate]

/-- The first byte of four. -/
theorem start_four {n : Nat} (high : n ≤ 4) : start (UInt8.ofNat (n + 0xF0)) =
    ([], some ⟨n, 3, if n = 0 then 0x90 else 0x80, if n = 4 then 0x8F else 0xBF⟩) := by
  have byte : (UInt8.ofNat (n + 0xF0)).toNat = n + 0xF0 := toNat_byte (by omega)
  have bits : (n + 0xF0) % 8 = n := by omega
  have first : (n + 0xF0 = 0xF0) ↔ n = 0 := by omega
  have last : (n + 0xF0 = 0xF4) ↔ n = 4 := by omega
  rw [start, byte, if_neg (by omega), if_neg (by omega), if_neg (by omega), if_pos (by omega),
    bits]
  simp only [first, last]

section Continued

variable {bits lo hi n : Nat}

/-- The last byte of a sequence. -/
theorem feed_last (six : n < 64) (above : lo ≤ n + 0x80) (below : n + 0x80 ≤ hi) :
    feed (some ⟨bits, 1, lo, hi⟩) (UInt8.ofNat (n + 0x80)) =
      ([Char.ofNat (bits * 64 + n)], none) := by
  have byte : (UInt8.ofNat (n + 0x80)).toNat = n + 0x80 := toNat_byte (by omega)
  have low_bits : (n + 0x80) % 64 = n := by omega
  simp only [feed, byte, low_bits]
  rw [if_pos ⟨above, below⟩, if_pos trivial]

/-- A byte in the middle of a sequence. -/
theorem feed_middle {missing : Nat} (six : n < 64) (above : lo ≤ n + 0x80)
    (below : n + 0x80 ≤ hi) :
    feed (some ⟨bits, missing + 2, lo, hi⟩) (UInt8.ofNat (n + 0x80)) =
      ([], some ⟨bits * 64 + n, missing + 1, 0x80, 0xBF⟩) := by
  have byte : (UInt8.ofNat (n + 0x80)).toNat = n + 0x80 := toNat_byte (by omega)
  have low_bits : (n + 0x80) % 64 = n := by omega
  simp only [feed, byte, low_bits]
  rw [if_pos ⟨above, below⟩, if_neg (by omega)]
  rfl

end Continued

/-- An encoded character is read as itself, whatever follows. -/
theorem decodeFrom_encodeChar (c : Char) (rest : List UInt8) :
    decodeFrom none (String.utf8EncodeChar c ++ rest) = c :: decodeFrom none rest := by
  have valid : c.toNat < 0xD800 ∨ 0xDFFF < c.toNat ∧ c.toNat < 0x110000 := c.valid
  have same : Char.ofNat c.toNat = c := Char.ofNat_toNat c
  have value : c.val.toNat = c.toNat := rfl
  generalize c.toNat = v at valid same value
  simp only [String.utf8EncodeChar, value]
  split
  · rw [List.cons_append, List.nil_append, decodeFrom, feed, start_ascii (by omega), same]
    rfl
  split
  · have whole : v / 64 % 32 * 64 + v % 64 = v := by omega
    rw [List.cons_append, List.cons_append, List.nil_append, decodeFrom, feed,
      start_two (by omega) (by omega), decodeFrom, feed_last (by omega) (by omega) (by omega),
      whole, same]
    rfl
  split
  · have above : (if v / 4096 % 16 = 0 then 0xA0 else 0x80) ≤ v / 64 % 64 + 0x80 := by
      split <;> omega
    have below : v / 64 % 64 + 0x80 ≤ (if v / 4096 % 16 = 13 then 0x9F else 0xBF) := by
      split <;> omega
    have whole : (v / 4096 % 16 * 64 + v / 64 % 64) * 64 + v % 64 = v := by omega
    rw [List.cons_append, List.cons_append, List.cons_append, List.nil_append, decodeFrom, feed,
      start_three (by omega), decodeFrom, feed_middle (by omega) above below, decodeFrom,
      feed_last (by omega) (by omega) (by omega), whole, same]
    rfl
  · have above : (if v / 262144 % 8 = 0 then 0x90 else 0x80) ≤ v / 4096 % 64 + 0x80 := by
      split <;> omega
    have below : v / 4096 % 64 + 0x80 ≤ (if v / 262144 % 8 = 4 then 0x8F else 0xBF) := by
      split <;> omega
    have whole : ((v / 262144 % 8 * 64 + v / 4096 % 64) * 64 + v / 64 % 64) * 64 + v % 64 = v := by
      omega
    rw [List.cons_append, List.cons_append, List.cons_append, List.cons_append, List.nil_append,
      decodeFrom, feed, start_four (by omega), decodeFrom, feed_middle (by omega) above below,
      decodeFrom, feed_middle (by omega) (by omega) (by omega), decodeFrom,
      feed_last (by omega) (by omega) (by omega), whole, same]
    rfl

/-! ### Whole texts -/

/-- **What was encoded is read back.** -/
theorem decode_encode (text : String) : decodeReplace (encode text) = text := by
  have chars : ∀ cs : List Char, decodeFrom none (cs.flatMap String.utf8EncodeChar) = cs := by
    intro cs
    induction cs with
    | nil => rfl
    | cons c rest ih => rw [List.flatMap_cons, decodeFrom_encodeChar, ih]
  rw [decodeReplace, encode, chars, String.ofList_toList]

/-- **Bytes are read without loss exactly when they are well formed.** -/
theorem encode_decode_iff {raw : List UInt8} : encode (decodeReplace raw) = raw ↔ Valid raw := by
  constructor
  · intro same
    exact ⟨decodeReplace raw, same⟩
  · rintro ⟨text, rfl⟩
    rw [decode_encode]

example : decodeReplace [0x61, 0xC3, 0xA9, 0xE2, 0x82, 0xAC, 0xF0, 0x9F, 0x98, 0x80] = "aé€😀" := by
  decide

example : decodeReplace [0x22, 0xE9, 0x22, 0xE2, 0x82, 0x22, 0xED, 0xA0, 0x80] =
    "\"\uFFFD\"\uFFFD\"\uFFFD\uFFFD\uFFFD" := by decide

end Utf8
