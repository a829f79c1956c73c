/-
# Packets and the hash functions both routers use

IBC v2 packets have the same shape on both sides: the Solidity
`IICS26RouterMsgs.Packet` and the Rust `solana_ibc_types::Packet` carry a
sequence, the two client ids, a timeout timestamp in seconds and a list of
payloads, each with two ports, a version, an encoding and an opaque value.
Strings are held as their UTF-8 bytes: every encoder on either side reads a
string only through its bytes.

The hash functions are not modelled: SHA-256 (the precompile, the
`sol_sha256` syscall) and Keccak-256 (the opcode, `sol_keccak256`) are
parameters, gathered in `Hashes`. What a result needs of them (a digest is
never the zero word, distinct preimages give distinct digests) is a named
hypothesis of that result.

Both routers keep three entries per packet, each under a path that ends in
the entry's tag byte and the sequence (`PathKind`).

Key definitions: `Hashes`, `zeroWord`, `Payload`, `Packet`, `srcKey`, `dstKey`, `CounterpartyInfo`,
`PathKind`.
-/
import IbcEureka.Lib.Bytes

/-- The hash functions a chain provides, on byte strings. -/
structure Hashes where
  sha256 : Bytes → Bytes
  keccak256 : Bytes → Bytes

/-- The all-zero 32-byte word: Solidity `bytes32(0)`, Rust `[0u8; 32]`. -/
def zeroWord : Bytes := List.replicate 32 0

@[simp] theorem zeroWord_length : zeroWord.length = 32 := by simp [zeroWord]

/-- One application's part of a packet. -/
structure Payload where
  sourcePort : Bytes
  destPort : Bytes
  version : Bytes
  encoding : Bytes
  value : Bytes
  deriving DecidableEq, Repr

/-- A packet, as the source router sends it and the destination router receives it. -/
structure Packet where
  sequence : UInt64
  sourceClient : Bytes
  destClient : Bytes
  timeoutTimestamp : UInt64
  payloads : List Payload
  deriving DecidableEq, Repr

/-- A packet's key at its source: the source client and the sequence. -/
def srcKey (P : Packet) : Bytes × UInt64 := (P.sourceClient, P.sequence)

/-- A packet's key at its destination: the destination client and the sequence. -/
def dstKey (P : Packet) : Bytes × UInt64 := (P.destClient, P.sequence)

/-- What a client knows of its counterparty: the counterparty's client id and the merkle
prefix its store proofs are under (Solidity `IICS02ClientMsgs.CounterpartyInfo`, Rust
`CounterpartyInfo`). -/
structure CounterpartyInfo where
  clientId : Bytes
  merklePrefix : List Bytes
  deriving DecidableEq, Repr

/-- The three entries a router keeps per packet, told apart in their paths by a tag byte. -/
inductive PathKind
  | commitment
  | receipt
  | acknowledgement
  deriving DecidableEq, Repr

/-- The tag byte of each kind of path: `1`, `2` and `3`. -/
def PathKind.tag : PathKind → UInt8
  | .commitment => 1
  | .receipt => 2
  | .acknowledgement => 3

theorem PathKind.tag_injective : Function.Injective PathKind.tag := by
  intro k k' h
  cases k <;> cases k' <;> first | rfl | exact absurd h (by decide)
