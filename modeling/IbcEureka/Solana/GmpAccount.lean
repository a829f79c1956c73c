/-
# GMP account addresses on Solana

An ICS27 GMP account on Solana acts for one remote identity: the client its
packets come over, the sender on the other chain, and a salt. The three are
validated types with length bounds (`ClientId` 1 to 32 bytes, `Sender` 1 to
128, `Salt` 0 to 32), held here as `Constrained` values that carry their
bounds. An `AccountIdentifier` is borsh-serialized, each field behind its
`u32` length, and hashed with SHA-256; the account's address is derived from
the seeds `gmp_account` and that digest.

Each field's borsh encoding is prefix-free, so the encoding of an identifier
determines it (`AccountIdentifier.toBorsh_inj`). With SHA-256 injective, two
identifiers share a digest only if they are equal, and so share a GMP
account address only if they are equal (`GMPAccount.pda_inj`).

Key definitions: `SolanaGmp.Constrained`, `SolanaGmp.AccountIdentifier`,
`SolanaGmp.GMPAccount.pda`.
Key theorems: `SolanaGmp.AccountIdentifier.toBorsh_inj`, `SolanaGmp.AccountIdentifier.digest_inj`,
`SolanaGmp.GMPAccount.pda_inj`.
-/
import IbcEureka.Packet
import IbcEureka.Lib.Borsh
import IbcEureka.Lib.Pda

namespace SolanaGmp

/-- A Solana address. -/
abbrev Pubkey := Bytes

/-- `ConstrainedError`. -/
inductive ConstrainedError
  | Empty
  | TooShort
  | TooLong
  deriving DecidableEq, Repr

/-- `ConstrainedString<MIN, MAX>` and `ConstrainedBytes<MIN, MAX>`: bytes whose length lies
within the bounds. -/
structure Constrained (min max : ℕ) where
  val : Bytes
  min_le : min ≤ val.length
  le_max : val.length ≤ max
  deriving DecidableEq

/-- `MAX_CLIENT_ID_LENGTH`. -/
def maxClientIdLength : ℕ := 32

/-- `MAX_SENDER_LENGTH`. -/
def maxSenderLength : ℕ := 128

/-- `MAX_SALT_LENGTH`. -/
def maxSaltLength : ℕ := 32

/-- `ClientId`. -/
abbrev ClientId := Constrained 1 maxClientIdLength

/-- `Sender`. -/
abbrev Sender := Constrained 1 maxSenderLength

/-- `Salt`. -/
abbrev Salt := Constrained 0 maxSaltLength

namespace Constrained

variable {min max : ℕ}

/-- `ConstrainedString::new` and `try_from`: the empty string when a minimum is set, then a
string below the minimum, then one above the maximum, are refused. -/
def new (s : Bytes) : Except ConstrainedError (Constrained min max) :=
  if s.length = 0 ∧ 0 < min then .error .Empty
  else if hmin : s.length < min then .error .TooShort
  else if hmax : max < s.length then .error .TooLong
  else .ok ⟨s, Nat.le_of_not_lt hmin, Nat.le_of_not_lt hmax⟩

theorem new_eq_ok {s : Bytes} {c : Constrained min max} : new s = .ok c ↔ c.val = s := by
  unfold new
  constructor
  · intro h
    split at h
    · cases h
    · split at h
      · cases h
      · split at h
        · cases h
        · cases h; rfl
  · intro h
    have hmin := c.min_le
    have hmax := c.le_max
    subst h
    rw [if_neg (by omega), dif_neg (by omega), dif_neg (by omega)]

/-- The empty value, at a zero minimum. -/
def empty (h : min = 0) : Constrained min max := ⟨[], by simp [h], Nat.zero_le _⟩

/-- Borsh serialization: the `u32` length, then the bytes. -/
def toBorsh (c : Constrained min max) : Bytes := Bytes.le 4 c.val.length ++ c.val

theorem bytes_val (c : Constrained min max) (hmax : max < 2 ^ 32) : Borsh.bytes c.val = some c.toBorsh :=
  Borsh.bytes_eq_some_iff.mpr ⟨lt_of_le_of_lt c.le_max hmax, rfl⟩

theorem ext_val {c d : Constrained min max} (h : c.val = d.val) : c = d := by
  cases c
  cases d
  cases h
  rfl

/-- Serializations are prefix-free: a serialization followed by anything determines the value
and what follows. -/
theorem toBorsh_append_inj (hmax : max < 2 ^ 32) {c d : Constrained min max} {rest rest' : Bytes}
    (h : c.toBorsh ++ rest = d.toBorsh ++ rest') : c = d ∧ rest = rest' := by
  obtain ⟨hval, hrest⟩ := Borsh.bytes_append_inj (c.bytes_val hmax) (d.bytes_val hmax) h
  exact ⟨ext_val hval, hrest⟩

end Constrained

/-- `Salt::empty()`. -/
def Salt.empty : Salt := Constrained.empty rfl

/-- `AccountIdentifier`. -/
structure AccountIdentifier where
  clientId : ClientId
  sender : Sender
  salt : Salt
  deriving DecidableEq

namespace AccountIdentifier

/-- `borsh::to_vec(self)`: the three fields in order. -/
def toBorsh (a : AccountIdentifier) : Bytes := a.clientId.toBorsh ++ a.sender.toBorsh ++ a.salt.toBorsh

/-- `digest`: the SHA-256 of the serialization. -/
def digest (H : Hashes) (a : AccountIdentifier) : Bytes := H.sha256 a.toBorsh

/-- **The serialization determines the identifier.** Each field is read off the front in turn:
its length prefix fixes where it ends. -/
theorem toBorsh_inj {a b : AccountIdentifier} (h : a.toBorsh = b.toBorsh) : a = b := by
  have h32 : maxClientIdLength < 2 ^ 32 := by decide
  have h128 : maxSenderLength < 2 ^ 32 := by decide
  unfold toBorsh at h
  simp only [List.append_assoc] at h
  obtain ⟨hclient, h⟩ := Constrained.toBorsh_append_inj h32 h
  obtain ⟨hsender, h⟩ := Constrained.toBorsh_append_inj h128 h
  have hsalt : a.salt = b.salt := Constrained.toBorsh_append_inj h32
    (show a.salt.toBorsh ++ [] = b.salt.toBorsh ++ [] by simpa using h) |>.1
  cases a
  cases b
  simp_all

theorem digest_inj {H : Hashes} (hsha : Function.Injective H.sha256) {a b : AccountIdentifier}
    (h : a.digest H = b.digest H) : a = b :=
  toBorsh_inj (hsha h)

end AccountIdentifier

/-- `GMPAccount::SEED`, `b"gmp_account"`. -/
def gmpAccountSeed : Bytes := [0x67, 0x6d, 0x70, 0x5f, 0x61, 0x63, 0x63, 0x6f, 0x75, 0x6e, 0x74]

/-- `GMPAccount::new(client_id, sender, salt, program_id).pda`: the address derived from the seed
and the identifier's digest. -/
def GMPAccount.pda (H : Hashes) (a : AccountIdentifier) : Option Pubkey :=
  Pda.derive [gmpAccountSeed, a.digest H]

/-- **One GMP account per identity.** With SHA-256 injective, identifiers with a common GMP
account address are equal. -/
theorem GMPAccount.pda_inj {H : Hashes} (hsha : Function.Injective H.sha256) {a b : AccountIdentifier}
    {address : Pubkey} (ha : GMPAccount.pda H a = some address) (hb : GMPAccount.pda H b = some address) :
    a = b := by
  have hfa := Pda.derive_eq_some ha
  have hfb := Pda.derive_eq_some hb
  rw [hfa] at hfb
  simp only [List.flatten_cons, List.flatten_nil, List.append_nil, List.append_cancel_left_eq] at hfb
  exact AccountIdentifier.digest_inj hsha hfb

/-- The identifiers `(xy, z)` and `(x, yz)` with the empty salt, whose fields laid end to end
agree. -/
def splitIdentifiers : AccountIdentifier × AccountIdentifier :=
  (⟨⟨[0x78, 0x79], by decide, by decide⟩, ⟨[0x7a], by decide, by decide⟩, Salt.empty⟩,
    ⟨⟨[0x78], by decide, by decide⟩, ⟨[0x79, 0x7a], by decide, by decide⟩, Salt.empty⟩)

/-- Their GMP accounts differ: the length prefixes of the serialization keep them apart. -/
theorem pda_inj_split :
    GMPAccount.pda ⟨id, id⟩ splitIdentifiers.1 ≠ GMPAccount.pda ⟨id, id⟩ splitIdentifiers.2 := by
  intro h
  obtain ⟨x, hx⟩ : ∃ x, GMPAccount.pda ⟨id, id⟩ splitIdentifiers.1 = some x := ⟨_, rfl⟩
  exact absurd (GMPAccount.pda_inj Function.injective_id hx (h.symm.trans hx)) (by decide)

end SolanaGmp
