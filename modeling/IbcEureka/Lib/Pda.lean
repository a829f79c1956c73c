/-
# Program-derived addresses

A Solana program reaches the accounts it owns through addresses derived
from seeds. The runtime hashes the seeds laid end to end, with the bump,
the program id and a marker, by SHA-256; the model takes the address to be
the seeds laid end to end, so that two seed lists share a model address
exactly when they share a real one, up to a collision of the hash.
Derivation is injective in the concatenation and only there: `["ab", "c"]`
and `["a", "bc"]` share an address. Derivation fails for more than 16 seeds
or a seed longer than 32 bytes.

Two account families never share an address when their first seeds differ
within a common length (`Pda.flatten_ne_of_take_ne`); inside one family, a
variable-length seed followed by fixed-width seeds is recovered from the
address (`Pda.append_inj_of_length`).

Key definitions: `Pda.derive`.
Key theorems: `Pda.derive_eq_some`, `Pda.flatten_ne_of_take_ne`, `Pda.append_inj_of_length`.
-/
import IbcEureka.Lib.Bytes

namespace Pda

/-- `MAX_SEEDS`. -/
def maxSeeds : ℕ := 16

/-- `MAX_SEED_LEN`. -/
def maxSeedLen : ℕ := 32

/-- The address derived from `seeds`, if they are valid seeds. -/
def derive (seeds : List Bytes) : Option Bytes :=
  if seeds.length ≤ maxSeeds ∧ ∀ seed ∈ seeds, seed.length ≤ maxSeedLen then some seeds.flatten else none

theorem derive_eq_some {seeds : List Bytes} {address : Bytes} (h : derive seeds = some address) :
    address = seeds.flatten := by
  unfold derive at h
  split at h
  · exact (Option.some.inj h).symm
  · cases h

/-- Addresses whose first seeds differ within their first `n` bytes are different. -/
theorem flatten_ne_of_take_ne {s s' : Bytes} {rest rest' : List Bytes} {n : ℕ} (hs : n ≤ s.length)
    (hs' : n ≤ s'.length) (h : s.take n ≠ s'.take n) : (s :: rest).flatten ≠ (s' :: rest').flatten := by
  intro heq
  apply h
  simp only [List.flatten_cons] at heq
  have := congrArg (List.take n) heq
  rwa [List.take_append_of_le_length hs, List.take_append_of_le_length hs'] at this

/-- A variable part between a common prefix and a suffix of known width is recovered. -/
theorem append_inj_of_length {pfx c c' q q' : Bytes} (h : pfx ++ c ++ q = pfx ++ c' ++ q')
    (hq : q.length = q'.length) : c = c' ∧ q = q' := by
  obtain ⟨hfront, hback⟩ := List.append_inj' h hq
  exact ⟨List.append_cancel_left hfront, hback⟩

end Pda
