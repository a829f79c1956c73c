/-
# Borsh serialization

Borsh writes integers little-endian at their full width, a `String` or a
`Vec<T>` as a `u32` element count followed by the elements, and a struct as
its fields in declaration order. A sequence of `2 ^ 32` elements or more has
no count and fails to serialize, which is why every writer returns an
`Option`.

Every encoding here is prefix-free: from `e ++ rest = e' ++ rest'` with `e`,
`e'` encodings of the same type, the values and the rests agree
(`Borsh.bytes_append_inj`). That is what makes a struct's encoding, the
concatenation of its fields', injective.

Key definitions: `Borsh.len`, `Borsh.bytes`.
Key theorems: `Borsh.bytes_eq_some_iff`, `Borsh.bytes_append_inj`.
-/
import IbcEureka.Lib.Bytes

namespace Borsh

/-- The `u32` count in front of a sequence of `n` elements; none when `n` does not fit. -/
def len (n : ℕ) : Option Bytes := if n < 2 ^ 32 then some (Bytes.le 4 n) else none

/-- A `String` (its UTF-8 bytes) or a `Vec<u8>`. -/
def bytes (bs : Bytes) : Option Bytes := (len bs.length).map (· ++ bs)

/-- A `Vec<T>` whose elements serialize by `f`. -/
def vec {α : Type} (f : α → Option Bytes) (xs : List α) : Option Bytes := do
  let n ← len xs.length
  let parts ← xs.mapM f
  pure (n ++ parts.flatten)

theorem len_eq_some {n : ℕ} {e : Bytes} (h : len n = some e) : n < 2 ^ 32 ∧ e = Bytes.le 4 n := by
  unfold len at h
  split at h
  · exact ⟨‹_›, (Option.some.inj h).symm⟩
  · cases h

theorem bytes_eq_some_iff {bs e : Bytes} :
    bytes bs = some e ↔ bs.length < 2 ^ 32 ∧ e = Bytes.le 4 bs.length ++ bs := by
  unfold bytes len
  split <;> simp_all [eq_comm]

/-- Borsh strings are prefix-free: two encodings followed by anything are equal only if
the strings and what follows them are. -/
theorem bytes_append_inj {a b e f rest rest' : Bytes} (ha : bytes a = some e) (hb : bytes b = some f)
    (h : e ++ rest = f ++ rest') : a = b ∧ rest = rest' := by
  obtain ⟨hla, rfl⟩ := bytes_eq_some_iff.mp ha
  obtain ⟨hlb, rfl⟩ := bytes_eq_some_iff.mp hb
  simp only [List.append_assoc] at h
  -- the four count bytes come first and fix the length of the string
  obtain ⟨hcount, h⟩ := List.append_inj h (by simp)
  have hlen : a.length = b.length := Bytes.le_inj_of_lt hcount hla hlb
  obtain ⟨rfl, rfl⟩ := List.append_inj h hlen
  exact ⟨rfl, rfl⟩

end Borsh
