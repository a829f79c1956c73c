/-
# Fixed-width integer encodings of byte strings

Byte strings are lists of `UInt8`. An integer field of `k` bytes is written
big-endian (`Bytes.be`, Rust `to_be_bytes`, Solidity `abi.encodePacked` of a
`uintN`) or little-endian (`Bytes.le`, Rust `to_le_bytes`, borsh). Both take
the integer modulo `256 ^ k`; both have length `k`, so that a field of fixed
width can be split off the end of a concatenation (`List.append_inj'`), and
both are injective below `256 ^ k` (`be_inj`, `le_inj`).

Key definitions: `Bytes.be`, `Bytes.le`, `Bytes.beNat`.
Key theorems: `Bytes.beNat_be`, `Bytes.be_inj`, `Bytes.le_eq_reverse_be`, `Bytes.le_inj`.
-/
import Mathlib.Data.List.Basic
import Mathlib.Tactic.Ring

/-- Byte strings: a Rust `Vec<u8>`, a Solidity `bytes`. -/
abbrev Bytes := List UInt8

namespace Bytes

/-- The `k`-byte big-endian encoding of `n` modulo `256 ^ k`. -/
def be : ℕ → ℕ → Bytes
  | 0, _ => []
  | k + 1, n => be k (n / 256) ++ [UInt8.ofNat (n % 256)]

/-- The `k`-byte little-endian encoding of `n` modulo `256 ^ k`. -/
def le : ℕ → ℕ → Bytes
  | 0, _ => []
  | k + 1, n => UInt8.ofNat (n % 256) :: le k (n / 256)

/-- The number a big-endian byte string denotes. -/
def beNat (bs : Bytes) : ℕ := bs.foldl (fun acc b => 256 * acc + b.toNat) 0

theorem ofNat_inj {n m : ℕ} (hn : n < 256) (hm : m < 256) (h : UInt8.ofNat n = UInt8.ofNat m) : n = m := by
  have h' := congrArg UInt8.toNat h
  rw [UInt8.toNat_ofNat', UInt8.toNat_ofNat'] at h'
  omega

@[simp] theorem be_length : ∀ k n, (be k n).length = k
  | 0, _ => rfl
  | k + 1, n => by simp [be, be_length k]

@[simp] theorem le_length : ∀ k n, (le k n).length = k
  | 0, _ => rfl
  | k + 1, n => by simp [le, le_length k]

theorem beNat_append_singleton (bs : Bytes) (b : UInt8) :
    beNat (bs ++ [b]) = 256 * beNat bs + b.toNat := by
  simp [beNat, List.foldl_append]

theorem beNat_be : ∀ k n, beNat (be k n) = n % 256 ^ k
  | 0, n => by simp [be, beNat, Nat.mod_one]
  | k + 1, n => by
    have hlow : (UInt8.ofNat (n % 256)).toNat = n % 256 := by simp
    rw [be, beNat_append_singleton, beNat_be k, hlow, Nat.pow_succ, Nat.mul_comm _ 256, Nat.mod_mul]
    ring

theorem be_inj {k n m : ℕ} (h : be k n = be k m) : n % 256 ^ k = m % 256 ^ k := by
  rw [← beNat_be, ← beNat_be, h]

theorem be_inj_of_lt {k n m : ℕ} (h : be k n = be k m) (hn : n < 256 ^ k) (hm : m < 256 ^ k) :
    n = m := by
  have := be_inj h
  rwa [Nat.mod_eq_of_lt hn, Nat.mod_eq_of_lt hm] at this

theorem le_eq_reverse_be : ∀ k n, le k n = (be k n).reverse
  | 0, _ => rfl
  | k + 1, n => by simp [le, be, le_eq_reverse_be k]

theorem le_inj {k n m : ℕ} (h : le k n = le k m) : n % 256 ^ k = m % 256 ^ k := by
  rw [le_eq_reverse_be, le_eq_reverse_be, List.reverse_inj] at h
  exact be_inj h

theorem le_inj_of_lt {k n m : ℕ} (h : le k n = le k m) (hn : n < 256 ^ k) (hm : m < 256 ^ k) :
    n = m := by
  have := le_inj h
  rwa [Nat.mod_eq_of_lt hn, Nat.mod_eq_of_lt hm] at this

end Bytes

/-- Rust `u64::to_be_bytes`. -/
def UInt64.toBeBytes (n : UInt64) : Bytes := Bytes.be 8 n.toNat

/-- Rust `u64::to_le_bytes`. -/
def UInt64.toLeBytes (n : UInt64) : Bytes := Bytes.le 8 n.toNat

/-- Rust `u32::to_le_bytes`. -/
def UInt32.toLeBytes (n : UInt32) : Bytes := Bytes.le 4 n.toNat

@[simp] theorem UInt64.toBeBytes_length (n : UInt64) : n.toBeBytes.length = 8 := Bytes.be_length _ _

@[simp] theorem UInt64.toLeBytes_length (n : UInt64) : n.toLeBytes.length = 8 := Bytes.le_length _ _

@[simp] theorem UInt32.toLeBytes_length (n : UInt32) : n.toLeBytes.length = 4 := Bytes.le_length _ _

theorem UInt64.toBeBytes_inj {n m : UInt64} (h : n.toBeBytes = m.toBeBytes) : n = m :=
  UInt64.toNat_inj.mp (Bytes.be_inj_of_lt h n.toNat_lt m.toNat_lt)

theorem UInt64.toLeBytes_inj {n m : UInt64} (h : n.toLeBytes = m.toLeBytes) : n = m :=
  UInt64.toNat_inj.mp (Bytes.le_inj_of_lt h n.toNat_lt m.toNat_lt)

theorem UInt32.toLeBytes_inj {n m : UInt32} (h : n.toLeBytes = m.toLeBytes) : n = m :=
  UInt32.toNat_inj.mp (Bytes.le_inj_of_lt h n.toNat_lt m.toNat_lt)
