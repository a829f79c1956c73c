/-
# Solidity ABI encodings

`abi.encodePacked` lays values end to end: an unsigned integer of `w` bytes
big-endian, a `bytesN` as its `n` bytes, a `bytes` or `string` in place and
without its length (`Abi.Packed`). `abi.encode` follows the standard ABI
(`Abi.Value`): every static value a 32-byte word, every dynamic one (`bytes`,
`string`, `T[]`, a tuple holding one) an offset in the head of its tuple and
its length-prefixed, word-padded encoding in the tail.

A `bytes` or a `bytes[]` whose lengths fit in their length words is read back
off the front of any string that starts with its encoding
(`Abi.bytes_enc_append_inj`, `Abi.array_bytes_enc_append_inj`): the offsets in
the heads are never needed to decode it. A decoder that follows the offsets
reads a word (`Abi.word`) or a `bytes` (`Abi.bytesAt`) back where it was
written (`Abi.word_append`, `Abi.bytesAt_append`).

Key definitions: `Abi.encodePacked`, `Abi.encode`, `Abi.word`, `Abi.bytesAt`.
Key theorems: `Abi.bytes_enc_append_inj`, `Abi.array_bytes_enc_append_inj`, `Abi.encode_tuple_bytes_inj`,
`Abi.encode_uint_pair`, `Abi.word_append`, `Abi.bytesAt_append`, `Abi.encode_bytes_bytes_uint`.
-/
import IbcEureka.Lib.Bytes

namespace Abi

/-- A value as an argument of `abi.encodePacked`. -/
inductive Packed
  /-- `uintN` with `N = 8 * w`. -/
  | uint (w : ℕ) (n : ℕ)
  /-- `bytesN`, held as its `8 * n` bits, first byte highest. -/
  | fixedBytes (n : ℕ) (v : BitVec (8 * n))
  /-- `bytes` or `string`, or a 32-byte digest held as its bytes. -/
  | raw (bs : Bytes)

/-- The bytes `abi.encodePacked` gives one argument. -/
def Packed.encode : Packed → Bytes
  | .uint w n => Bytes.be w n
  | .fixedBytes n v => Bytes.be n v.toNat
  | .raw bs => bs

@[simp] theorem Packed.encode_uint (w n : ℕ) : (Packed.uint w n).encode = Bytes.be w n := rfl

@[simp] theorem Packed.encode_fixedBytes (n : ℕ) (v : BitVec (8 * n)) :
    (Packed.fixedBytes n v).encode = Bytes.be n v.toNat := rfl

@[simp] theorem Packed.encode_raw (bs : Bytes) : (Packed.raw bs).encode = bs := rfl

/-- `abi.encodePacked(v₁, …, vₖ)`. -/
def encodePacked (vs : List Packed) : Bytes := (vs.map Packed.encode).flatten

@[simp] theorem encodePacked_nil : encodePacked [] = [] := rfl

@[simp] theorem encodePacked_cons (v : Packed) (vs : List Packed) :
    encodePacked (v :: vs) = v.encode ++ encodePacked vs := rfl

/-- A value as an argument of `abi.encode`. -/
inductive Value
  /-- Any `uintN`, as one word. -/
  | uint (n : ℕ)
  /-- `bytes` or `string`. -/
  | bytes (bs : Bytes)
  /-- A struct or an argument list. -/
  | tuple (vs : List Value)
  /-- A dynamic array `T[]`. -/
  | array (vs : List Value)

/-- Zero bytes that pad `n` bytes to a whole number of words. -/
def padding (n : ℕ) : Bytes := List.replicate ((32 - n % 32) % 32) 0

mutual
/-- A `bytes`, a `string` or an array is dynamic, and so is a tuple that holds one. -/
def Value.isDynamic : Value → Bool
  | .uint _ => false
  | .bytes _ => true
  | .tuple vs => anyDynamic vs
  | .array _ => true

/-- Some member of the list is dynamic. -/
def anyDynamic : List Value → Bool
  | [] => false
  | v :: vs => v.isDynamic || anyDynamic vs
end

mutual
/-- The standard ABI encoding of one value. -/
def Value.enc : Value → Bytes
  | .uint n => Bytes.be 32 n
  | .bytes bs => Bytes.be 32 bs.length ++ bs ++ padding bs.length
  | .tuple vs => encTuple vs (headsLength vs)
  | .array vs => Bytes.be 32 vs.length ++ encTuple vs (headsLength vs)

/-- The length of a tuple's head: a word for each dynamic member, the whole encoding
of each static one. -/
def headsLength : List Value → ℕ
  | [] => 0
  | v :: vs => (if v.isDynamic then 32 else v.enc.length) + headsLength vs

/-- The heads, then the tails, of a tuple whose first dynamic member's tail starts at
byte `offset`. -/
def encTuple : List Value → ℕ → Bytes
  | [], _ => []
  | v :: vs, offset =>
    if v.isDynamic then
      -- the head is the offset of the tail, which follows the tails before it
      let rest := encTuple vs (offset + v.enc.length)
      Bytes.be 32 offset ++ (rest.take (headsLength vs) ++ v.enc ++ rest.drop (headsLength vs))
    else v.enc ++ encTuple vs offset
end

/-- `abi.encode(v₁, …, vₖ)`: the argument list encoded as a tuple. -/
def encode (vs : List Value) : Bytes := (Value.tuple vs).enc

/-! ## Reading `bytes` and `bytes[]` back -/

theorem enc_bytes (bs : Bytes) : (Value.bytes bs).enc = Bytes.be 32 bs.length ++ bs ++ padding bs.length := by
  simp [Value.enc]

theorem enc_array (vs : List Value) :
    (Value.array vs).enc = Bytes.be 32 vs.length ++ encTuple vs (headsLength vs) := by
  simp [Value.enc]

theorem headsLength_bytes (l : List Bytes) : headsLength (l.map .bytes) = 32 * l.length := by
  induction l with
  | nil => simp [headsLength]
  | cons b l ih =>
    simp [headsLength, Value.isDynamic, ih]
    ring

/-- A tuple of `bytes` is a head of one offset word per member, then the members' encodings in
order. -/
theorem encTuple_bytes (l : List Bytes) (offset : ℕ) :
    ∃ heads, heads.length = 32 * l.length ∧
      encTuple (l.map .bytes) offset = heads ++ (l.map fun b => (Value.bytes b).enc).flatten := by
  induction l generalizing offset with
  | nil => exact ⟨[], rfl, by simp [encTuple]⟩
  | cons b l ih =>
    obtain ⟨heads, hlen, htuple⟩ := ih (offset + (Value.bytes b).enc.length)
    refine ⟨Bytes.be 32 offset ++ heads, by simp [hlen]; ring, ?_⟩
    -- the tail of `b` goes between the heads and the tails of the others
    have htake : (heads ++ (l.map fun b => (Value.bytes b).enc).flatten).take (headsLength (l.map .bytes)) = heads := by
      rw [headsLength_bytes, ← hlen, List.take_left]
    have hdrop : (heads ++ (l.map fun b => (Value.bytes b).enc).flatten).drop (headsLength (l.map .bytes)) =
        (l.map fun b => (Value.bytes b).enc).flatten := by
      rw [headsLength_bytes, ← hlen, List.drop_left]
    simp only [List.map_cons, encTuple, Value.isDynamic, if_true, htuple, htake, hdrop, List.flatten_cons,
      List.append_assoc]

/-- A `bytes` whose length fits in its length word is read back off the front of a string. -/
theorem bytes_enc_append_inj {a b r r' : Bytes} (ha : a.length < 256 ^ 32) (hb : b.length < 256 ^ 32)
    (h : (Value.bytes a).enc ++ r = (Value.bytes b).enc ++ r') : a = b ∧ r = r' := by
  rw [enc_bytes, enc_bytes] at h
  simp only [List.append_assoc] at h
  -- the length word comes first and fixes the length of the string
  obtain ⟨hword, h⟩ := List.append_inj h (by simp)
  have hlen : a.length = b.length := Bytes.be_inj_of_lt hword ha hb
  obtain ⟨rfl, h⟩ := List.append_inj h hlen
  exact ⟨rfl, List.append_cancel_left h⟩

/-- As many `bytes` encodings end to end, each length fitting in its word, are read back one by
one. -/
theorem flatten_bytes_enc_inj {l l' : List Bytes} {r r' : Bytes} (hlen : l.length = l'.length)
    (hl : ∀ b ∈ l, b.length < 256 ^ 32) (hl' : ∀ b ∈ l', b.length < 256 ^ 32)
    (h : (l.map fun b => (Value.bytes b).enc).flatten ++ r = (l'.map fun b => (Value.bytes b).enc).flatten ++ r') :
    l = l' ∧ r = r' := by
  induction l generalizing l' with
  | nil =>
    rw [List.length_nil, eq_comm, List.length_eq_zero_iff] at hlen
    subst hlen
    exact ⟨rfl, by simpa using h⟩
  | cons a l ih =>
    cases l' with
    | nil => simp at hlen
    | cons b l' =>
      simp only [List.map_cons, List.flatten_cons, List.append_assoc] at h
      obtain ⟨rfl, hrest⟩ := bytes_enc_append_inj (hl a List.mem_cons_self) (hl' b List.mem_cons_self) h
      obtain ⟨rfl, rfl⟩ := ih (by simpa using hlen) (fun c hc => hl c (List.mem_cons_of_mem _ hc))
        (fun c hc => hl' c (List.mem_cons_of_mem _ hc)) hrest
      exact ⟨rfl, rfl⟩

/-- A `bytes[]` whose lengths all fit in their words is read back off the front of a string. -/
theorem array_bytes_enc_append_inj {l l' : List Bytes} {r r' : Bytes} (hl : l.length < 256 ^ 32)
    (hl' : l'.length < 256 ^ 32) (hb : ∀ b ∈ l, b.length < 256 ^ 32) (hb' : ∀ b ∈ l', b.length < 256 ^ 32)
    (h : (Value.array (l.map .bytes)).enc ++ r = (Value.array (l'.map .bytes)).enc ++ r') : l = l' ∧ r = r' := by
  obtain ⟨heads, hheads, htuple⟩ := encTuple_bytes l (headsLength (l.map .bytes))
  obtain ⟨heads', hheads', htuple'⟩ := encTuple_bytes l' (headsLength (l'.map .bytes))
  rw [enc_array, enc_array, List.length_map, List.length_map, htuple, htuple'] at h
  simp only [List.append_assoc] at h
  -- the count comes first, then a head of one word per member
  obtain ⟨hcount, h⟩ := List.append_inj h (by simp)
  have hlen : l.length = l'.length := Bytes.be_inj_of_lt hcount hl hl'
  obtain ⟨-, h⟩ := List.append_inj h (by rw [hheads, hheads', hlen])
  exact flatten_bytes_enc_inj hlen hb hb' h

/-- `abi.encode(n, (a, b))` for a `uint` and a struct of two dynamic members: the integer, the
offset of the struct, the offsets of its two members, and their encodings. -/
theorem encode_uint_pair (n : ℕ) {a b : Value} (ha : a.isDynamic = true) (hb : b.isDynamic = true) :
    encode [.uint n, .tuple [a, b]] =
      Bytes.be 32 n ++ Bytes.be 32 64 ++ Bytes.be 32 64 ++ Bytes.be 32 (64 + a.enc.length) ++ a.enc ++ b.enc := by
  simp [encode, Value.enc, encTuple, headsLength, Value.isDynamic, anyDynamic, ha, hb]

/-! ## Reading words and `bytes` at an offset -/

/-- The word at byte `i`, as the number it denotes. -/
def word (bs : Bytes) (i : ℕ) : ℕ := Bytes.beNat ((bs.drop i).take 32)

/-- The `bytes` whose encoding starts at byte `i`: its length word, then as many bytes. -/
def bytesAt (bs : Bytes) (i : ℕ) : Option Bytes :=
  if i + 32 + word bs i ≤ bs.length then some ((bs.drop (i + 32)).take (word bs i)) else none

theorem word_append (pre r : Bytes) {n : ℕ} (hn : n < 256 ^ 32) :
    word (pre ++ Bytes.be 32 n ++ r) pre.length = n := by
  rw [word, List.append_assoc, List.drop_left, List.take_left' (Bytes.be_length 32 n), Bytes.beNat_be,
    Nat.mod_eq_of_lt hn]

theorem bytesAt_append (pre r : Bytes) {b : Bytes} (hb : b.length < 256 ^ 32) :
    bytesAt (pre ++ (Value.bytes b).enc ++ r) pre.length = some b := by
  rw [enc_bytes] at *
  have hword : word (pre ++ (Bytes.be 32 b.length ++ b ++ padding b.length) ++ r) pre.length = b.length := by
    simpa only [List.append_assoc] using word_append pre (b ++ padding b.length ++ r) hb
  have hdrop : (pre ++ (Bytes.be 32 b.length ++ b ++ padding b.length) ++ r).drop (pre.length + 32) =
      b ++ (padding b.length ++ r) := by
    simp [List.drop_append, List.append_assoc]
  rw [bytesAt, hword, hdrop, if_pos (by simp; omega), List.take_left]

/-- `abi.encode` of a struct of two `bytes` and an integer: the offset of the struct, the offsets
of its two members and the integer, then the members' encodings. -/
theorem encode_bytes_bytes_uint (a b : Bytes) (n : ℕ) :
    encode [.tuple [.bytes a, .bytes b, .uint n]] =
      Bytes.be 32 32 ++ Bytes.be 32 96 ++ Bytes.be 32 (96 + (Value.bytes a).enc.length) ++ Bytes.be 32 n ++
        (Value.bytes a).enc ++ (Value.bytes b).enc := by
  simp [encode, Value.enc, encTuple, headsLength, Value.isDynamic, anyDynamic, List.take_append, List.drop_append,
    List.take_of_length_le, List.drop_of_length_le]

end Abi
